import HostWatch.Proofs.Text.Pieces
import HostWatch.Report.Size
import HostWatch.Text.Blank
import HostWatch.Text.Quoted

namespace HostWatch

namespace Text

def OneLine (s : String) : Prop := '\n' ∉ s.toList

instance : DecidablePred OneLine := fun _ => inferInstanceAs (Decidable (¬ _))

section

variable {s t : String} {cs : List Char} {ss : List String}

@[simp] theorem oneLine_append : OneLine (s ++ t) ↔ OneLine s ∧ OneLine t := by
  simp [OneLine, not_or]

@[simp] theorem oneLine_ofList : OneLine (String.ofList cs) ↔ '\n' ∉ cs := by
  rw [OneLine, String.toList_ofList]

theorem oneLine_intercalate (sep : OneLine s) :
    OneLine (String.intercalate s ss) ↔ ∀ t ∈ ss, OneLine t := by
  induction ss with
  | nil => simp [OneLine]
  | cons t ss ih =>
    cases ss with
    | nil => simp
    | cons u ss =>
      rw [String.intercalate_cons_cons, oneLine_append, oneLine_append, ih,
        List.forall_mem_cons (a := t)]
      exact ⟨fun whole => ⟨whole.1.1, whole.2⟩, fun ⟨first, later⟩ => ⟨⟨first, sep⟩, later⟩⟩

theorem oneLine_join : OneLine (String.join ss) ↔ ∀ t ∈ ss, OneLine t := by
  simp [OneLine, String.toList_join]

@[simp] theorem oneLine_padRight (width : Nat) : OneLine (padRight width s) ↔ OneLine s := by
  simp [padRight, List.mem_replicate]

@[simp] theorem oneLine_padLeft (width : Nat) : OneLine (padLeft width s) ↔ OneLine s := by
  simp [padLeft, List.mem_replicate]

theorem not_mem_of_mem_splitOn {line : List Char} (mem : line ∈ cs.splitOn '\n') :
    '\n' ∉ line := by
  induction cs generalizing line with
  | nil =>
    obtain rfl := List.mem_singleton.mp mem
    exact List.not_mem_nil
  | cons c cs ih =>
    rw [List.splitOn_cons_eq_if_modifyHead] at mem
    split at mem
    next =>
      rcases List.mem_cons.mp mem with rfl | mem
      · exact List.not_mem_nil
      · exact ih mem
    next other =>
      obtain ⟨first, lines, cut⟩ := List.exists_cons_of_ne_nil (List.splitOn_ne_nil '\n' cs)
      rw [cut] at ih
      rw [cut, List.modifyHead_cons] at mem
      rcases List.mem_cons.mp mem with rfl | mem
      · rw [List.mem_cons, not_or]
        exact ⟨fun same => other (by simp [← same]), ih List.mem_cons_self⟩
      · exact ih (List.mem_cons_of_mem _ mem)

/-- A text that is put together of lines shows just these, and nothing behind the last line feed,
unless one of them goes over several lines. -/
theorem splitOn_join_lines :
    (String.join (ss.map (· ++ "\n"))).toList.splitOn '\n' = ss.map String.toList ++ [[]] ↔
      ∀ s ∈ ss, OneLine s := by
  constructor
  · intro same s mem
    apply not_mem_of_mem_splitOn
    rw [same]
    exact List.mem_append_left _ (List.mem_map_of_mem mem)
  · intro plain
    induction ss with
    | nil => rfl
    | cons s ss ih =>
      obtain ⟨first, later⟩ := List.forall_mem_cons.mp plain
      have front : (String.join ((s :: ss).map (· ++ "\n"))).toList =
          s.toList ++ '\n' :: (String.join (ss.map (· ++ "\n"))).toList := by simp
      rw [front, List.splitOn_append_cons_self_of_not_mem first, ih later]
      rfl

theorem line_not_mem_toDigits {base : Nat} (low : 1 < base) (high : base ≤ 16) (n : Nat) :
    '\n' ∉ Nat.toDigits base n := by
  have digits : ∀ d < 16, Nat.digitChar d ≠ '\n' := by decide
  induction n using Nat.strongRecOn with
  | ind n ih =>
    by_cases small : n < base
    · rw [Nat.toDigits_of_lt_base small, List.mem_singleton]
      exact (digits n (by omega)).symm
    · rw [Nat.toDigits_of_base_le low (Nat.le_of_not_lt small), List.mem_append,
        List.mem_singleton]
      have less : n % base < base := Nat.mod_lt n (by omega)
      rintro (mem | eq)
      · exact ih (n / base) (Nat.div_lt_self (by omega) low) mem
      · exact digits (n % base) (by omega) eq.symm

@[simp] theorem oneLine_repr (n : Nat) : OneLine n.repr := by
  change OneLine (toString n)
  rw [Nat.toString_eq_ofList_toDigits, oneLine_ofList]
  exact line_not_mem_toDigits (by decide) (by decide) n

theorem line_not_mem_quotedChar (c : Char) : '\n' ∉ quotedChar c := by
  unfold quotedChar
  split
  · decide
  split
  · decide
  split
  · decide
  split
  · decide
  split
  · decide
  split
  · decide
  next line _ _ =>
  split
  · unfold codeEscape
    rw [List.mem_append, List.mem_append]
    rintro ((mem | mem) | mem)
    · exact absurd mem (by decide)
    · exact line_not_mem_toDigits (by decide) (by decide) _ mem
    · exact absurd mem (by decide)
  · exact fun mem => line (List.mem_singleton.mp mem).symm

@[simp] theorem oneLine_quoted (s : String) : OneLine (quoted s) := by
  rw [quoted, oneLine_ofList, List.mem_append, List.mem_cons, List.mem_flatMap, not_or, not_or]
  refine ⟨⟨by decide, ?_⟩, by decide⟩
  rintro ⟨c, -, mem⟩
  exact line_not_mem_quotedChar c mem

end

namespace Utf8

theorem mem_utf8EncodeChar {c : Char} {b : UInt8} (mem : b ∈ String.utf8EncodeChar c) :
    String.utf8EncodeChar c = [b] ∨ 0x80 ≤ b.toNat := by
  have tail (n : Nat) : 0x80 ≤ (UInt8.ofNat (n % 64 + 0x80)).toNat := by
    rw [toNat_tail]
    omega
  unfold String.utf8EncodeChar at mem ⊢
  dsimp only at mem ⊢
  split at mem
  next one =>
    rw [if_pos one, List.mem_singleton.mp mem]
    exact Or.inl rfl
  next =>
    right
    split at mem
    next =>
      simp only [List.mem_cons, List.not_mem_nil, or_false] at mem
      rcases mem with rfl | rfl
      · rw [UInt8.toNat_ofNat']
        omega
      · exact tail _
    split at mem
    next =>
      simp only [List.mem_cons, List.not_mem_nil, or_false] at mem
      rcases mem with rfl | rfl | rfl
      · rw [UInt8.toNat_ofNat']
        omega
      · exact tail _
      · exact tail _
    next =>
      simp only [List.mem_cons, List.not_mem_nil, or_false] at mem
      rcases mem with rfl | rfl | rfl | rfl
      · rw [UInt8.toNat_ofNat']
        omega
      · exact tail _
      · exact tail _
      · exact tail _

theorem line_mem_utf8EncodeChar {c : Char} : 0x0A ∈ String.utf8EncodeChar c ↔ c = '\n' := by
  constructor
  · intro mem
    rcases mem_utf8EncodeChar mem with one | high
    · have same : encode [c] = encode ['\n'] := by
        rw [encode, List.flatMap_singleton, one]
        rfl
      have read := strict?_encode [c]
      rw [same, strict?_encode] at read
      exact (List.cons.inj (Option.some.inj read)).1.symm
    · exact absurd high (by decide)
  · rintro rfl
    decide

/-- Bytes that are replaced hold no line feed, which is a character where it stands. -/
theorem IllFormed.line_not_mem {sub rest : List UInt8} (ill : IllFormed sub rest) :
    0x0A ∉ sub := by
  intro mem
  have short : sub.length ≤ 1 := by
    rcases ill.begins with ⟨c, front⟩ | single
    · obtain rfl := line_mem_utf8EncodeChar.mp (front.subset mem)
      exact front.length_le
    · exact Nat.le_of_eq single
  obtain ⟨b, rfl⟩ : ∃ b, sub = [b] :=
    List.length_eq_one_iff.mp (Nat.le_antisymm short (List.length_pos_of_mem mem))
  obtain rfl := List.mem_singleton.mp mem
  exact ill.noChar '\n' ⟨rest, rfl⟩

/-- Bytes are shown with a line feed just where they hold one, whatever else they hold. -/
theorem line_mem_lossy (bs : List UInt8) : '\n' ∈ lossy bs ↔ 0x0A ∈ bs := by
  have decodes : Decodes bs (lossy bs) := decodes_iff.mpr rfl
  generalize lossy bs = text at decodes
  induction decodes with
  | nil => simp
  | char c _ ih =>
    rw [List.mem_cons, List.mem_append, line_mem_utf8EncodeChar]
    exact or_congr eq_comm ih
  | bad ill _ ih =>
    have shown : '\n' ≠ replacement := by decide
    rw [List.mem_cons, List.mem_append, or_iff_right shown, or_iff_right ill.line_not_mem]
    exact ih

theorem oneLine_lossyText (bs : List UInt8) : OneLine (lossyText bs) ↔ 0x0A ∉ bs := by
  rw [lossyText, oneLine_ofList, line_mem_lossy]

end Utf8

end Text

namespace Number

open Text (OneLine oneLine_append oneLine_ofList line_not_mem_toDigits)

theorem line_not_mem_decimal (n : Nat) : '\n' ∉ Nat.toDigits 10 n :=
  line_not_mem_toDigits (by decide) (by decide) n

@[simp] theorem oneLine_placed (places n : Nat) : OneLine (placed places n) := by
  have digits (zeros : Nat) : '\n' ∉ List.replicate zeros '0' ++ Nat.toDigits 10 n := by
    rw [List.mem_append, not_or]
    exact ⟨by simp [List.mem_replicate], line_not_mem_decimal n⟩
  unfold placed
  dsimp only
  split
  · rw [oneLine_ofList]
    exact fun mem => digits _ (List.mem_of_mem_take mem)
  · rw [oneLine_ofList, List.mem_append, List.mem_cons]
    rintro (mem | eq | mem)
    · exact digits _ (List.mem_of_mem_take mem)
    · exact absurd eq (by decide)
    · exact digits _ (List.mem_of_mem_drop mem)

@[simp] theorem oneLine_fixedRatio (places num den : Nat) :
    OneLine (fixedRatio places num den) := oneLine_placed _ _

namespace Binary

theorem oneLine_sign (negative : Bool) : OneLine (if negative then "-" else "") := by
  cases negative <;> decide

theorem oneLine_infinite (negative : Bool) : OneLine (if negative then "-inf" else "inf") := by
  cases negative <;> decide

@[simp] theorem oneLine_fixed (places : Nat) (x : Binary) : OneLine (x.fixed places) := by
  cases x with
  | nan => exact (by decide : OneLine "NaN")
  | infinite negative => exact oneLine_infinite negative
  | finite negative m e =>
    exact oneLine_append.mpr ⟨oneLine_sign negative, oneLine_fixedRatio _ _ _⟩

@[simp] theorem oneLine_digitsText (d : Nat) (unit : Int) : OneLine (digitsText d unit) := by
  have digits (n : Nat) := line_not_mem_decimal n
  unfold digitsText
  generalize trimZeros 20 d unit = trimmed
  obtain ⟨d, unit⟩ := trimmed
  dsimp only
  split
  · split
    · rw [oneLine_append, oneLine_ofList, List.mem_append, not_or]
      exact ⟨⟨digits d, by simp [List.mem_replicate]⟩, by decide⟩
    · exact oneLine_placed _ _
  · have front : OneLine (String.ofList ((Nat.toDigits 10 d).take 1)) :=
      oneLine_ofList.mpr fun mem => digits d (List.mem_of_mem_take mem)
    have back : OneLine (String.ofList ((Nat.toDigits 10 d).drop 1)) :=
      oneLine_ofList.mpr fun mem => digits d (List.mem_of_mem_drop mem)
    simp only [oneLine_append]
    refine ⟨⟨⟨⟨front, ?_⟩, by decide⟩, ?_⟩, Text.oneLine_repr _⟩
    · split
      · decide
      · exact oneLine_append.mpr ⟨by decide, back⟩
    · split <;> decide

@[simp] theorem oneLine_shortestText (x : Binary) : OneLine x.shortestText := by
  unfold shortestText
  split
  · decide
  · exact oneLine_infinite _
  next negative m e =>
    generalize shortest Format.double m e = digits
    obtain ⟨d, unit⟩ := digits
    rw [oneLine_append]
    refine ⟨oneLine_sign negative, ?_⟩
    split
    · decide
    · exact oneLine_digitsText d unit

end Binary

end Number

theorem Size.oneLine_text (bytes : Nat) : Text.OneLine (Size.text bytes) := by
  have unit {s : String} (places num den : Nat) (h : Text.OneLine s) :
      Text.OneLine (Number.fixedRatio places num den ++ s) :=
    Text.oneLine_append.mpr ⟨Number.oneLine_fixedRatio places num den, h⟩
  unfold Size.text
  dsimp only
  split
  · exact unit _ _ _ (by decide)
  split
  · exact unit _ _ _ (by decide)
  split
  · exact unit _ _ _ (by decide)
  split
  · exact unit _ _ _ (by decide)
  · exact unit _ _ _ (by decide)

end HostWatch
