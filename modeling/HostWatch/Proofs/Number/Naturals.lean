import HostWatch.Number.Decimal

namespace HostWatch.Number

/-- A text is a number in decimal digits, with or without a plus sign before them. -/
def Spells (n : Nat) (s : String) : Prop :=
  ∃ ds : List Char, ds ≠ [] ∧ (∀ d ∈ ds, d.isDigit) ∧ Nat.ofDigitChars 10 ds 0 = n ∧
    (s.toList = ds ∨ s.toList = '+' :: ds)

theorem digit?_eq (c : Char) :
    digit? c = if c.isDigit then some (c.toNat - '0'.toNat) else none := by
  have same : ('0' ≤ c ∧ c ≤ '9') ↔ c.isDigit = true := by simp [Char.isDigit, Char.le_def]
  unfold digit?
  by_cases digit : c.isDigit = true
  · rw [if_pos digit, if_pos (same.mpr digit)]
  · rw [if_neg digit, if_neg (mt same.mp digit)]

theorem foldlM_digits (cs : List Char) (n : Nat) :
    cs.foldlM (fun n c => (digit? c).map (n * 10 + ·)) n =
      if cs.all Char.isDigit then some (Nat.ofDigitChars 10 cs n) else none := by
  induction cs generalizing n with
  | nil => simp
  | cons c cs ih =>
    rw [List.foldlM_cons, digit?_eq]
    by_cases digit : c.isDigit = true
    · rw [if_pos digit, Option.map_some, Option.bind_eq_bind, Option.bind_some, ih,
        Nat.mul_comm n, ← Nat.ofDigitChars_cons]
      simp only [List.all_cons, digit, Bool.true_and]
    · rw [if_neg digit, Option.map_none, Option.bind_eq_bind, Option.bind_none,
        if_neg fun digits => digit (List.all_eq_true.mp digits c List.mem_cons_self)]

theorem digits?_eq_some {cs : List Char} {n : Nat} :
    digits? cs = some n ↔
      cs ≠ [] ∧ (∀ c ∈ cs, c.isDigit) ∧ Nat.ofDigitChars 10 cs 0 = n := by
  unfold digits?
  by_cases empty : cs = []
  · simp [empty]
  · rw [if_neg (by simpa using empty), foldlM_digits]
    simp [empty]

theorem natural?_eq_some {bound n : Nat} {s : String} :
    natural? bound s = some n ↔ Spells n s ∧ n ≤ bound := by
  have plus (ds : List Char) (digits : ∀ d ∈ ds, d.isDigit) : ds.head? ≠ some '+' := by
    intro first
    exact absurd (digits '+' (List.mem_of_head? first)) (by decide)
  unfold natural?
  simp only [Option.filter_eq_some_iff, digits?_eq_some, decide_eq_true_eq]
  refine and_congr_left fun _ => ⟨?_, ?_⟩
  · rintro ⟨filled, digits, value⟩
    refine ⟨_, filled, digits, value, ?_⟩
    by_cases signed : s.toList.head? = some '+'
    · obtain ⟨rest, eq⟩ := List.head?_eq_some_iff.mp signed
      right
      rw [if_pos signed, eq]
      rfl
    · exact Or.inl (if_neg signed).symm
  · rintro ⟨ds, filled, digits, value, eq | eq⟩
    · rw [if_neg (eq ▸ plus ds digits), eq]
      exact ⟨filled, digits, value⟩
    · rw [eq]
      exact ⟨filled, digits, value⟩

theorem spells_toString (n : Nat) : Spells n (toString n) := by
  refine ⟨Nat.toDigits 10 n, Nat.toDigits_ne_nil, ?_, Nat.ofDigitChars_ten_toDigits, ?_⟩
  · exact fun d => Nat.isDigit_of_mem_toDigits (by decide) (by decide)
  · rw [Nat.toString_eq_ofList_toDigits, String.toList_ofList]
    exact Or.inl rfl

end HostWatch.Number
