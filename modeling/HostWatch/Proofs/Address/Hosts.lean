import HostWatch.Proofs.Address.Authority
import HostWatch.Proofs.Address.Names
import HostWatch.Proofs.Text.Utf8

namespace HostWatch.Address.Host

open Ipv4 (cut)
open Name (isAscii Short)

theorem decode_plain {cs : List Char} (plain : '%' ∉ cs) :
    Percent.decode cs = Text.Utf8.encode cs := by
  induction cs with
  | nil => rfl
  | cons c cs ih =>
    simp only [List.mem_cons, not_or] at plain
    rw [Percent.decode, ih plain.2]
    · rfl
    · exact fun _ _ _ same => absurd same.symm plain.1

theorem ofBytes?_decode {cs : List Char} (plain : '%' ∉ cs) :
    Name.ofBytes? (Percent.decode cs) = Name.ofChars? cs := by
  rw [decode_plain plain, Name.ofBytes?, Text.Utf8.strict?_encode, Option.bind_some]

theorem special_unbracketed {cs : List Char} (other : cs.head? ≠ some '[') : special cs =
    match Name.ofBytes? (Percent.decode cs) with
    | some written => ofWritten written
    | none => .error .badName := by
  unfold special
  split
  · exact absurd rfl other
  · rfl

section Kinds

variable {cs : List Char} {host : Host}

theorem special_cases (read : special cs = .ok host) :
    (∃ pieces, pieces.length = 8 ∧ host = .ipv6 pieces) ∨ (∃ address, host = .ipv4 address) ∨
      ∃ name written, Text.Utf8.strict? (Percent.decode cs) = some name ∧
        Name.ofChars? name = some written ∧ written ≠ [] ∧
        Ipv4.endsInNumber written = false ∧ host = .name (String.ofList written) := by
  unfold special at read
  split at read
  next inner =>
    unfold bracketed at read
    split at read
    · split at read
      next pieces found =>
        cases read
        exact Or.inl ⟨pieces, Ipv6.length_of_ofText? found, rfl⟩
      next => cases read
    · cases read
  · split at read
    next written found =>
      obtain ⟨name, bytes, found⟩ := Option.bind_eq_some_iff.mp found
      unfold ofWritten at read
      split at read
      next => cases read
      next some_ =>
        split at read
        · split at read
          next address _ =>
            cases read
            exact Or.inr (Or.inl ⟨address, rfl⟩)
          next => cases read
        next name_ =>
          cases read
          exact Or.inr (Or.inr ⟨name, written, bytes, found, by simpa using some_,
            Bool.eq_false_iff.mpr name_, rfl⟩)
    next => cases read

def Solid (c : Char) : Prop :=
  isAscii c ∧ Name.isForbidden c = false

theorem Solid.plain {c : Char} (solid : Solid c) : ¬ Text.isBlank c ∧ ¬ isControl c ∧
    c ∉ ['/', '\\', '?', '#', '@', ':', '[', '%'] := by
  obtain ⟨ascii, free⟩ := solid
  revert free
  refine Name.of_isAscii ascii ?_
  decide

theorem Solid.bare {c : Char} (solid : Solid c) : ¬ Text.isBlank c ∧ ¬ isControl c ∧
    c ∉ ['/', '\\', '?', '#', '@'] := by
  obtain ⟨blank, control, other⟩ := solid.plain
  exact ⟨blank, control, fun mem => other (List.mem_append_left [':', '[', '%'] mem)⟩

theorem bare_of_solid (solid : ∀ c ∈ cs, Solid c) : Bare cs := by
  have plain := fun c mem => (solid c mem).plain
  refine ⟨fun c mem => (solid c mem).bare, Or.inl ⟨fun mem => ?_, fun mem => ?_⟩⟩
  · exact absurd (plain _ mem).2.2 (by decide)
  · exact absurd (plain _ mem).2.2 (by decide)

theorem special_of_solid (solid : ∀ c ∈ cs, Solid c) : special cs =
    match Name.ofChars? cs with
    | some written => ofWritten written
    | none => .error .badName := by
  have plain := fun c mem => (solid c mem).plain
  have other : cs.head? ≠ some '[' := fun same =>
    absurd (plain _ (List.mem_of_mem_head? same)).2.2 (by decide)
  have plain' : '%' ∉ cs := fun mem => absurd (plain _ mem).2.2 (by decide)
  rw [special_unbracketed other, ofBytes?_decode plain']

theorem short_of_not_mem (absent : 'x' ∉ cs) : Short cs := by
  intro part listed marked
  have first : 'x' ∈ part := marked.subset (by decide)
  exact absurd (Name.mem_of_mem_cut listed first).1 absent

theorem ipv4_plain {address : UInt32} {c : Char} (mem : c ∈ (Ipv4.text address).toList) :
    Solid c ∧ ¬ c.isUpper ∧ c ≠ 'x' := by
  have dot : Solid '.' ∧ ¬ '.'.isUpper ∧ '.' ≠ 'x' := ⟨⟨by decide, by decide⟩, by decide, by decide⟩
  have digits : ∀ d < 10, (isAscii (Nat.digitChar d) ∧ Name.isForbidden (Nat.digitChar d) = false) ∧
      ¬ (Nat.digitChar d).isUpper ∧ Nat.digitChar d ≠ 'x' := by decide
  rcases Ipv4.mem_text mem with rfl | ⟨d, digit, rfl⟩
  · exact dot
  · exact digits d digit

theorem ipv4_ne_nil {address : UInt32} : (Ipv4.text address).toList ≠ [] := by
  intro none
  have ends := Ipv4.endsInNumber_text address
  rw [none] at ends
  cases ends

theorem ipv6_plain {pieces : List UInt16} {c : Char} (mem : c ∈ (Ipv6.text pieces).toList) :
    (c = ':' ∨ Solid c) ∧ ¬ c.isUpper ∧ c ∉ ['x', ']'] := by
  have digits : ∀ d < 16, (isAscii (Nat.digitChar d) ∧ Name.isForbidden (Nat.digitChar d) = false) ∧
      ¬ (Nat.digitChar d).isUpper ∧ Nat.digitChar d ∉ ['x', ']'] := by decide
  rcases Ipv6.mem_text mem with rfl | ⟨d, digit, rfl⟩
  · exact ⟨Or.inl rfl, by decide, by decide⟩
  · exact (digits d digit).imp_left Or.inr

theorem text_ipv4 (address : UInt32) : (Host.ipv4 address).text = Ipv4.text address := rfl

theorem toList_name (written : List Char) :
    (Host.name (String.ofList written)).text.toList = written := String.toList_ofList

theorem toList_ipv6 (pieces : List UInt16) :
    (Host.ipv6 pieces).text.toList = '[' :: ((Ipv6.text pieces).toList ++ [']']) := by
  simp [Host.text]

theorem ipv6_letters {pieces : List UInt16} {c : Char}
    (mem : c ∈ (Host.ipv6 pieces).text.toList) : ¬ c.isUpper ∧ c ≠ 'x' := by
  rw [toList_ipv6] at mem
  simp only [List.mem_cons, List.mem_append, List.not_mem_nil, or_false] at mem
  rcases mem with rfl | mem | rfl
  · decide
  · obtain ⟨-, small, other⟩ := ipv6_plain mem
    exact ⟨small, fun same => other (by simp [same])⟩
  · decide

theorem bare_text (read : special cs = .ok host) :
    Bare host.text.toList ∧ host.text.toList ≠ [] := by
  rcases special_cases read with
    ⟨pieces, -, rfl⟩ | ⟨address, rfl⟩ | ⟨name, written, -, found, some_, -, rfl⟩
  · rw [toList_ipv6]
    refine ⟨⟨fun c mem => ?_, Or.inr ⟨_, rfl, fun mem => ?_⟩⟩, List.cons_ne_nil _ _⟩
    · have marks : ∀ c ∈ ['[', ']', ':'], ¬ Text.isBlank c ∧ ¬ isControl c ∧
          c ∉ ['/', '\\', '?', '#', '@'] := List.all_iff_forall_prop.mp (by decide)
      simp only [List.mem_cons, List.mem_append, List.not_mem_nil, or_false] at mem
      rcases mem with rfl | mem | rfl
      · exact marks _ (by decide)
      · rcases (ipv6_plain mem).1 with rfl | solid
        · exact marks _ (by decide)
        · exact solid.bare
      · exact marks _ (by decide)
    · exact absurd (ipv6_plain mem).2.2 (by decide)
  · rw [text_ipv4]
    exact ⟨bare_of_solid fun c mem => (ipv4_plain mem).1, ipv4_ne_nil⟩
  · rw [toList_name]
    exact ⟨bare_of_solid fun c mem => Name.mem_ofChars? found mem, some_⟩

theorem special_ipv6 {pieces : List UInt16} (eight : pieces.length = 8) :
    special (Host.ipv6 pieces).text.toList = .ok (.ipv6 pieces) := by
  have last : ((Ipv6.text pieces).toList ++ [']']).getLast? = some ']' := by simp
  rw [toList_ipv6, special, bracketed, if_pos last, List.dropLast_concat, Ipv6.ofText?_text eight]

theorem special_ipv4 (address : UInt32) :
    special (Ipv4.text address).toList = .ok (.ipv4 address) := by
  have same : Name.ofChars? (Ipv4.text address).toList = some (Ipv4.text address).toList := by
    refine Name.ofChars?_plain (fun c mem => ?_) fun part listed marked => ?_
    · obtain ⟨solid, small, -⟩ := ipv4_plain mem
      exact ⟨solid.1, solid.2, small⟩
    · have first : 'x' ∈ part := marked.subset (by decide)
      exact (ipv4_plain (Name.mem_of_mem_cut listed first).1).2.2 rfl
  have ends := Ipv4.endsInNumber_text address
  have address_ := Ipv4.ofName?_text address
  rw [special_of_solid fun c mem => (ipv4_plain mem).1, same]
  simp only [ofWritten, List.isEmpty_iff, ipv4_ne_nil, if_false, ends, if_true, address_]

theorem special_name (solid : ∀ c ∈ cs, Solid c) (same : Name.ofChars? cs = some cs)
    (some_ : cs ≠ []) (name_ : Ipv4.endsInNumber cs = false) :
    special cs = .ok (.name (String.ofList cs)) := by
  rw [special_of_solid solid, same]
  simp only [ofWritten, List.isEmpty_iff, some_, if_false, name_, Bool.false_eq_true]

/-- The text of a host is read as this host, unless a label in it has grown too long. -/
theorem special_text (read : special cs = .ok host) (small : ∀ c ∈ host.text.toList, ¬ c.isUpper)
    (short : Short host.text.toList) : special host.text.toList = .ok host := by
  rcases special_cases read with
    ⟨pieces, eight, rfl⟩ | ⟨address, rfl⟩ | ⟨name, written, -, found, some_, name_, rfl⟩
  · exact special_ipv6 eight
  · exact special_ipv4 address
  · rw [toList_name] at small short ⊢
    exact special_name (fun c mem => Name.mem_ofChars? found mem)
      (Name.ofChars?_written found small short) some_ name_

theorem short_of_special (read : special cs = .ok host)
    (small : ∀ c ∈ host.text.toList, ¬ c.isUpper) {host' : Host}
    (again : special host.text.toList = .ok host') : Short host.text.toList := by
  rcases special_cases read with
    ⟨pieces, eight, rfl⟩ | ⟨address, rfl⟩ | ⟨name, written, -, found, some_, name_, rfl⟩
  · exact short_of_not_mem fun mem => (ipv6_letters mem).2 rfl
  · rw [text_ipv4]
    exact short_of_not_mem fun mem => (ipv4_plain mem).2.2 rfl
  · rw [toList_name] at small again ⊢
    rw [special_of_solid fun c mem => Name.mem_ofChars? found mem] at again
    split at again
    next written' found' =>
      exact Name.short_of_ofChars? (fun c mem => (Name.mem_ofChars? found mem).1) small found'
    next => cases again

/-- Hosts typed in ASCII, without percent signs, have neither capitals nor labels that are too long
in their text. -/
theorem small_of_ascii (read : special cs = .ok host) (ascii : ∀ c ∈ cs, isAscii c ∧ c ≠ '%') :
    (∀ c ∈ host.text.toList, ¬ c.isUpper) ∧ Short host.text.toList := by
  rcases special_cases read with
    ⟨pieces, eight, rfl⟩ | ⟨address, rfl⟩ | ⟨name, written, bytes, found, some_, name_, rfl⟩
  · exact ⟨fun c mem => (ipv6_letters mem).1, short_of_not_mem fun mem => (ipv6_letters mem).2 rfl⟩
  · rw [text_ipv4]
    exact ⟨fun c mem => (ipv4_plain mem).2.1, short_of_not_mem fun mem => (ipv4_plain mem).2.2 rfl⟩
  · have plain : '%' ∉ cs := fun mem => (ascii _ mem).2 rfl
    rw [decode_plain plain, Text.Utf8.strict?_encode] at bytes
    obtain rfl := Option.some.inj bytes
    obtain ⟨rfl, short⟩ := Name.ofChars?_ascii (fun c mem => (ascii c mem).1) found
    rw [toList_name]
    refine ⟨fun c mem => ?_, short⟩
    obtain ⟨d, from_, rfl⟩ := List.mem_map.mp mem
    exact (Name.toLower_ascii (ascii d from_).1).2.1

end Kinds

end HostWatch.Address.Host
