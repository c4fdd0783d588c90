import HostWatch.Proofs.Address.Literals
import HostWatch.Proofs.Address.Punycode
import Mathlib.Data.Bool.AllAny

namespace HostWatch.Address.Name

open Ipv4 (cut)

theorem mem_of_mem_cut {sep c : Char} {cs part : List Char} (listed : part ∈ cut sep cs)
    (mem : c ∈ part) : c ∈ cs ∧ c ≠ sep := by
  induction cs generalizing part with
  | nil =>
    obtain rfl := List.mem_singleton.mp listed
    cases mem
  | cons d cs ih =>
    rw [cut] at listed
    split at listed
    · rcases List.mem_cons.mp listed with rfl | listed
      · cases mem
      · exact (ih listed mem).imp_left (List.mem_cons_of_mem d)
    next other =>
      split at listed
      next first parts same =>
        rw [same] at ih
        rcases List.mem_cons.mp listed with rfl | listed
        · rcases List.mem_cons.mp mem with rfl | mem
          · exact ⟨List.mem_cons_self, other⟩
          · exact (ih List.mem_cons_self mem).imp_left (List.mem_cons_of_mem d)
        · exact (ih (List.mem_cons_of_mem _ listed) mem).imp_left (List.mem_cons_of_mem d)
      next none =>
        obtain rfl := List.mem_singleton.mp listed
        obtain rfl := List.mem_singleton.mp mem
        exact ⟨List.mem_cons_self, other⟩

@[elab_as_elim]
theorem of_isAscii {holds : Char → Prop} {c : Char} (ascii : isAscii c)
    (all : ∀ n < 0x80, holds (Char.ofNat n)) : holds c := by
  have low : c.toNat < 0x80 := of_decide_eq_true ascii
  rw [← Char.ofNat_toNat c]
  exact all _ low

theorem toLower_ascii {c : Char} (ascii : isAscii c) :
    isAscii c.toLower ∧ ¬ c.toLower.isUpper ∧ (¬ c.isUpper → c.toLower = c) := by
  refine of_isAscii ascii ?_
  decide

theorem mapAll_ascii {cs : List Char} (ascii : ∀ c ∈ cs, isAscii c) :
    mapAll cs = some (cs.map Char.toLower) := by
  have each : cs.mapM mapChar = some (cs.map fun c => [c.toLower]) := by
    rw [mapM_eq_some, List.forall₂_map_right_iff, List.forall₂_same]
    exact fun c mem => if_pos (ascii c mem)
  have flat : (cs.map fun c => [c.toLower]).flatten = cs.map Char.toLower := by
    clear ascii each
    induction cs <;> simp_all
  have composed : (cs.map Char.toLower).all (·.toNat < 0x80) = true := by
    rw [List.all_map, List.all_eq_true]
    exact fun c mem => (toLower_ascii (ascii c mem)).1
  simp only [mapAll, each, Option.bind_eq_bind, Option.bind_some, flat, Text.Unicode.normalize,
    composed, if_true, Option.pure_def]

section Labels

variable {cs : List Char} {l : Label}

/-- A label is ASCII and stays as it is, or is well formed and written in punycode. -/
theorem label?_cases (read : label? cs = some l) :
    (l.written = cs ∧ ∀ c ∈ cs, isAscii c) ∨
      (l = ⟨cs, punycodeMark ++ Punycode.encode cs⟩ ∧ cs.length ≤ longestLabel ∧
        isWellFormed cs ∧ cs.all isAscii = false) := by
  unfold label? at read
  split at read
  next marked =>
    obtain ⟨-, -, read⟩ := Option.bind_eq_some_iff.mp read
    obtain ⟨chars, decoded, read⟩ := Option.bind_eq_some_iff.mp read
    obtain ⟨-, -, read⟩ := Option.bind_eq_some_iff.mp read
    obtain ⟨-, -, read⟩ := Option.bind_eq_some_iff.mp read
    cases read
    refine Or.inl ⟨rfl, fun c mem => ?_⟩
    rw [← List.prefix_iff_eq_append.mp (List.isPrefixOf_iff_prefix.mp marked)] at mem
    rcases List.mem_append.mp mem with mark | code
    · have all : ∀ c ∈ punycodeMark, isAscii c := List.all_eq_true.mp (by decide)
      exact all c mark
    · exact decide_eq_true (Punycode.ascii_of_decode? decoded c code)
  next =>
    split at read
    next ascii =>
      cases read
      exact Or.inl ⟨rfl, List.all_eq_true.mp ascii⟩
    next other =>
      split at read
      next formed =>
        cases read
        exact Or.inr ⟨rfl, formed.1, formed.2, Bool.eq_false_iff.mpr other⟩
      next => cases read

/-- Written labels are ASCII and hold nothing new that means something in a name. -/
theorem mem_written (read : label? cs = some l) {c : Char} (mem : c ∈ l.written) :
    isAscii c ∧ (c ∈ cs ∨ isForbidden c = false ∧ c ≠ '.') := by
  rcases label?_cases read with ⟨same, ascii⟩ | ⟨rfl, -⟩
  · rw [same] at mem
    exact ⟨ascii c mem, Or.inl mem⟩
  · have marks : ∀ c ∈ punycodeMark, isAscii c ∧ isForbidden c = false ∧ c ≠ '.' :=
      List.all_iff_forall_prop.mp (by decide)
    have digits : ∀ d < Punycode.base, isAscii (Punycode.digitChar d) ∧
        isForbidden (Punycode.digitChar d) = false ∧ Punycode.digitChar d ≠ '.' := by decide
    have hyphen : isAscii '-' ∧ isForbidden '-' = false ∧ '-' ≠ '.' := by decide
    have new {c : Char} (h : isAscii c ∧ isForbidden c = false ∧ c ≠ '.') :
        isAscii c ∧ (c ∈ cs ∨ isForbidden c = false ∧ c ≠ '.') := ⟨h.1, Or.inr h.2⟩
    rcases List.mem_append.mp mem with mark | code
    · exact new (marks c mark)
    rw [Punycode.encode_eq] at code
    rcases List.mem_append.mp code with ascii | code
    · obtain ⟨mem, low⟩ := List.mem_filter.mp ascii
      exact ⟨low, Or.inl mem⟩
    rcases List.mem_append.mp code with cut | number
    · split at cut
      · cases cut
      · obtain rfl := List.mem_singleton.mp cut
        exact new hyphen
    · obtain ⟨d, digit, rfl⟩ := Punycode.mem_numbers number
      exact new (digits d digit)

/-- The longest that a label in punycode may be, its mark included. -/
def longestWritten : Nat := punycodeMark.length + longestPunycode

theorem label?_written (read : label? cs = some l)
    (short : punycodeMark <+: l.written → l.written.length ≤ longestWritten) :
    label? l.written = some l := by
  rcases label?_cases read with ⟨same, -⟩ | ⟨rfl, few, formed, other⟩
  · rw [same]
    exact read
  · have marked : punycodeMark.isPrefixOf (punycodeMark ++ Punycode.encode cs) = true :=
      List.isPrefixOf_iff_prefix.mpr (List.prefix_append _ _)
    have fits : (Punycode.encode cs).length ≤ longestPunycode := by
      have length := short (List.prefix_append _ _)
      simp only [List.length_append, longestWritten] at length
      omega
    have decoded := Punycode.decode?_encode few
    simp only [label?, marked, if_true, List.drop_left, guard, fits, decoded, other, formed,
      Bool.not_false, bind, Option.bind_some, pure]

theorem short_of_label? (read : label? cs = some l) (marked : punycodeMark <+: cs) :
    cs.length ≤ longestWritten := by
  unfold label? at read
  rw [if_pos (List.isPrefixOf_iff_prefix.mpr marked)] at read
  obtain ⟨_, fits, -⟩ := Option.bind_eq_some_iff.mp read
  have few := (Option.guard_eq_some' _).mp fits
  rw [List.length_drop] at few
  unfold longestWritten
  omega

theorem written_of_ascii (read : label? cs = some l) (ascii : ∀ c ∈ cs, isAscii c) :
    l.written = cs := by
  rcases label?_cases read with ⟨same, -⟩ | ⟨-, -, -, other⟩
  · exact same
  · rw [List.all_eq_true.mpr ascii] at other
    cases other

end Labels

section Whole

variable {cs written : List Char}

def agree (labels : List Label) : Bool :=
  !labels.any (·.chars.any isRightToLeft) || labels.all fun l => directionsAgree l.chars

theorem ofChars?_eq_some : ofChars? cs = some written ↔
    ∃ mapped labels, mapAll cs = some mapped ∧ (∀ c ∈ mapped, isAscii c → isForbidden c = false) ∧
      List.Forall₂ (fun part l => label? part = some l) (cut '.' mapped) labels ∧
      agree labels = true ∧ written = List.intercalate ['.'] (labels.map Label.written) := by
  have forbidden (mapped : List Char) :
      (!mapped.any fun c => isAscii c && isForbidden c) = true ↔
        ∀ c ∈ mapped, isAscii c → isForbidden c = false := by
    simp
  simp only [ofChars?, bind, Option.bind_eq_some_iff, Option.guard_eq_some', pure, mapM_eq_some,
    forbidden, Option.some.injEq]
  constructor
  · rintro ⟨mapped, found, -, allowed, labels, read, -, fit, rfl⟩
    exact ⟨mapped, labels, found, allowed, read, fit, rfl⟩
  · rintro ⟨mapped, labels, found, allowed, read, fit, rfl⟩
    exact ⟨mapped, found, (), allowed, labels, read, (), fit, rfl⟩

/-- The labels of a name that are in punycode are no longer than such labels may be. -/
def Short (name : List Char) : Prop :=
  ∀ part ∈ cut '.' name, punycodeMark <+: part → part.length ≤ longestWritten

theorem short_of_labels {labels : List Label}
    (read : List.Forall₂ (fun part l => label? part = some l) (cut '.' cs) labels) : Short cs := by
  intro part listed marked
  obtain ⟨l, -, read⟩ := related_of_mem_left read listed
  exact short_of_label? read marked

theorem cut_ne_nil (sep : Char) (cs : List Char) : cut sep cs ≠ [] := by
  rw [Ipv4.cut_eq_splitOn]
  exact List.splitOn_ne_nil sep cs

theorem intercalate_cut (sep : Char) (cs : List Char) :
    List.intercalate [sep] (cut sep cs) = cs := by
  rw [Ipv4.cut_eq_splitOn, List.intercalate_splitOn]

theorem cut_intercalate {sep : Char} {parts : List (List Char)} (some_ : parts ≠ [])
    (plain : ∀ part ∈ parts, sep ∉ part) : cut sep (List.intercalate [sep] parts) = parts := by
  rw [Ipv4.cut_eq_splitOn, List.splitOn_intercalate sep plain some_]

theorem cut_written {mapped : List Char} {labels : List Label}
    (read : List.Forall₂ (fun part l => label? part = some l) (cut '.' mapped) labels) :
    cut '.' (List.intercalate ['.'] (labels.map Label.written)) = labels.map Label.written := by
  refine cut_intercalate ?_ fun written listed dot => ?_
  · intro none
    have length := read.length_eq
    rw [List.map_eq_nil_iff.mp none] at length
    exact cut_ne_nil '.' mapped (List.length_eq_zero_iff.mp length)
  · obtain ⟨l, labelled, rfl⟩ := List.mem_map.mp listed
    obtain ⟨part, listed, read⟩ := related_of_mem_right read labelled
    rcases (mem_written read dot).2 with mem | ⟨-, other⟩
    · exact (mem_of_mem_cut listed mem).2 rfl
    · exact other rfl

theorem mem_ofChars? (read : ofChars? cs = some written) {c : Char} (mem : c ∈ written) :
    isAscii c ∧ isForbidden c = false := by
  obtain ⟨mapped, labels, -, allowed, labelled, -, rfl⟩ := ofChars?_eq_some.mp read
  rcases mem_intercalate mem with rfl | ⟨part, listed, mem⟩
  · decide
  · obtain ⟨l, own, rfl⟩ := List.mem_map.mp listed
    obtain ⟨part, listed, read⟩ := related_of_mem_right labelled own
    obtain ⟨ascii, mem | ⟨free, -⟩⟩ := mem_written read mem
    · exact ⟨ascii, allowed c (mem_of_mem_cut listed mem).1 ascii⟩
    · exact ⟨ascii, free⟩

theorem mapAll_small (ascii : ∀ c ∈ cs, isAscii c) (small : ∀ c ∈ cs, ¬ c.isUpper) :
    mapAll cs = some cs := by
  rw [mapAll_ascii ascii]
  congr 1
  conv_rhs => rw [← List.map_id cs]
  exact List.map_congr_left fun c mem => (toLower_ascii (ascii c mem)).2.2 (small c mem)

/-- What has been written is read again as it stands, unless a label has grown too long. -/
theorem ofChars?_written (read : ofChars? cs = some written) (small : ∀ c ∈ written, ¬ c.isUpper)
    (short : Short written) : ofChars? written = some written := by
  have plain : ∀ c ∈ written, isAscii c ∧ isForbidden c = false := fun c => mem_ofChars? read
  obtain ⟨mapped, labels, -, -, labelled, fit, rfl⟩ := ofChars?_eq_some.mp read
  have parts := cut_written labelled
  refine ofChars?_eq_some.mpr ⟨_, labels, mapAll_small (fun c mem => (plain c mem).1) small,
    fun c mem _ => (plain c mem).2, ?_, fit, rfl⟩
  rw [parts, List.forall₂_map_left_iff, List.forall₂_same]
  intro l listed
  obtain ⟨part, -, read⟩ := related_of_mem_right labelled listed
  refine label?_written read (short l.written ?_)
  rw [parts]
  exact List.mem_map_of_mem listed

theorem short_of_ofChars? (ascii : ∀ c ∈ cs, isAscii c) (small : ∀ c ∈ cs, ¬ c.isUpper)
    (read : ofChars? cs = some written) : Short cs := by
  obtain ⟨mapped, labels, found, -, read, -⟩ := ofChars?_eq_some.mp read
  rw [mapAll_small ascii small] at found
  cases found
  exact short_of_labels read

theorem ofChars?_ascii (ascii : ∀ c ∈ cs, isAscii c) (read : ofChars? cs = some written) :
    written = cs.map Char.toLower ∧ Short written := by
  obtain ⟨mapped, labels, found, -, labelled, -, rfl⟩ := ofChars?_eq_some.mp read
  rw [mapAll_ascii ascii] at found
  cases found
  have lower : ∀ part ∈ cut '.' (cs.map Char.toLower), ∀ c ∈ part, isAscii c := by
    intro part listed c mem
    obtain ⟨d, from_, rfl⟩ := List.mem_map.mp (mem_of_mem_cut listed mem).1
    exact (toLower_ascii (ascii d from_)).1
  have same : cut '.' (cs.map Char.toLower) = labels.map Label.written := by
    rw [← List.forall₂_eq_eq_eq, List.forall₂_map_right_iff]
    exact ((List.forall₂_and_left _ _).mpr ⟨lower, labelled⟩).imp fun part l h =>
      (written_of_ascii h.2 h.1).symm
  rw [← same, intercalate_cut]
  exact ⟨rfl, short_of_labels labelled⟩

theorem ofChars?_plain (plain : ∀ c ∈ cs, isAscii c ∧ isForbidden c = false ∧ ¬ c.isUpper)
    (unmarked : ∀ part ∈ cut '.' cs, ¬ punycodeMark <+: part) : ofChars? cs = some cs := by
  have ascii : ∀ part ∈ cut '.' cs, ∀ c ∈ part, isAscii c := fun part listed c mem =>
    (plain c (mem_of_mem_cut listed mem).1).1
  refine ofChars?_eq_some.mpr ⟨cs, (cut '.' cs).map fun part => ⟨part, part⟩,
    mapAll_small (fun c mem => (plain c mem).1) (fun c mem => (plain c mem).2.2),
    fun c mem _ => (plain c mem).2.1, ?_, ?_, ?_⟩
  · rw [List.forall₂_map_right_iff, List.forall₂_same]
    intro part listed
    have unmarked' : ¬ punycodeMark.isPrefixOf part := fun marked =>
      unmarked part listed (List.isPrefixOf_iff_prefix.mp marked)
    rw [label?, if_neg unmarked', if_pos (List.all_eq_true.mpr (ascii part listed))]
  · have left : ((cut '.' cs).map fun part => (⟨part, part⟩ : Label)).any
        (·.chars.any isRightToLeft) = false := by
      rw [List.any_map, List.any_eq_false]
      intro part listed
      simp only [Function.comp_apply, List.any_eq_true, not_exists, not_and]
      intro c mem
      simp [isRightToLeft, ascii part listed c mem]
    rw [agree, left]
    rfl
  · rw [List.map_map]
    have same : (Label.written ∘ fun part => ⟨part, part⟩) = id := rfl
    rw [same, List.map_id, intercalate_cut]

end Whole

end HostWatch.Address.Name
