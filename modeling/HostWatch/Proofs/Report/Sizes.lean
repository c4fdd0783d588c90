import HostWatch.Proofs.Number.Naturals
import HostWatch.Proofs.Number.Rounding
import HostWatch.Report.Size
import Mathlib.Algebra.Order.Field.Rat
import Mathlib.Tactic.FieldSimp
import Mathlib.Tactic.Linarith
import Mathlib.Tactic.NormNum

namespace HostWatch.Number

theorem roundQuotient_near {den : Nat} (pos : 0 < den) (num : Nat) :
    2 * (roundQuotient num den * den) ≤ 2 * num + den ∧
      2 * num ≤ 2 * (roundQuotient num den * den) + den := by
  have parts := Nat.div_add_mod num den
  have short := Nat.mod_lt num pos
  rw [Nat.mul_comm] at parts
  unfold roundQuotient
  dsimp only
  split
  next => omega
  next =>
    rw [Nat.succ_mul (num / den) den]
    omega

end HostWatch.Number

namespace HostWatch.Size

open Number

/-- What the text of a size says: a number, by its digits and how many of them are behind the point,
and a power of 1024 as its unit. -/
structure Printed where
  digits : Nat
  places : Nat
  power : Nat
  deriving DecidableEq

namespace Printed

def unitNames : List String := ["B", "KB", "MB", "GB", "TB"]

/-- Reads the text of a size: digits, with a point and more digits or without, and a unit. -/
def read? (s : String) : Option Printed :=
  let whole := s.toList.takeWhile Char.isDigit
  let rest := s.toList.dropWhile Char.isDigit
  let fraction := if rest.head? = some '.' then rest.tail.takeWhile Char.isDigit else []
  let name := if rest.head? = some '.' then rest.tail.dropWhile Char.isDigit else rest
  (digits? (whole ++ fraction)).bind fun digits =>
    (unitNames.idxOf? (String.ofList name)).map fun power => ⟨digits, fraction.length, power⟩

def number (p : Printed) : ℚ := p.digits / 10 ^ p.places

def value (p : Printed) : ℚ := p.number * unit p.power

def step (p : Printed) : ℚ := unit p.power / 10 ^ p.places

end Printed

def power (bytes : Nat) : Nat :=
  if bytes < unit 1 then 0
  else if bytes < unit 2 then 1
  else if bytes < unit 3 then 2
  else if bytes < unit 4 then 3
  else 4

def places : Nat → Nat
  | 0 => 0
  | 4 => 2
  | _ => 1

def printed (bytes : Nat) : Printed where
  digits := roundQuotient (bytes * 10 ^ places (power bytes)) (unit (power bytes))
  places := places (power bytes)
  power := power bytes

/-- Whether a size is so close below the next unit that it takes 1024 of its own when rounded. -/
def IsNearNext (bytes : Nat) : Prop :=
  ∃ k ∈ [1, 2, 3], (1023.95 : ℚ) * unit k ≤ bytes ∧ bytes < unit (k + 1)

section Text

theorem isDigit_replicate_append {m n : Nat} :
    ∀ c ∈ List.replicate m '0' ++ Nat.toDigits 10 n, c.isDigit := by
  intro c mem
  rcases List.mem_append.mp mem with zero | digit
  · rw [List.eq_of_mem_replicate zero]
    decide
  · exact Nat.isDigit_of_mem_toDigits (by decide) (by decide) digit

theorem digits?_replicate_append (m n : Nat) :
    digits? (List.replicate m '0' ++ Nat.toDigits 10 n) = some n := by
  refine digits?_eq_some.mpr ⟨by simp [Nat.toDigits_ne_nil], isDigit_replicate_append, ?_⟩
  rw [Nat.ofDigitChars_append, Nat.ofDigitChars_replicate_zero, Nat.mul_zero,
    Nat.ofDigitChars_ten_toDigits]

theorem unitNames_spec {power : Nat} {name : String}
    (named : Printed.unitNames[power]? = some name) :
    Printed.unitNames.idxOf? name = some power ∧
      ∃ c cs, name.toList = c :: cs ∧ c.isDigit = false ∧ c ≠ '.' := by
  match power, named with
  | 0, rfl => exact ⟨rfl, 'B', [], rfl, rfl, by decide⟩
  | 1, rfl => exact ⟨rfl, 'K', ['B'], rfl, rfl, by decide⟩
  | 2, rfl => exact ⟨rfl, 'M', ['B'], rfl, rfl, by decide⟩
  | 3, rfl => exact ⟨rfl, 'G', ['B'], rfl, rfl, by decide⟩
  | 4, rfl => exact ⟨rfl, 'T', ['B'], rfl, rfl, by decide⟩

theorem Printed.read?_digits {whole fraction : List Char} {name : String} {digits power : Nat}
    (number : digits? (whole ++ fraction) = some digits)
    (named : unitNames[power]? = some name) :
    read? (String.ofList (whole ++ if fraction = [] then [] else '.' :: fraction) ++ name) =
      some ⟨digits, fraction.length, power⟩ := by
  obtain ⟨index, c, cs, eq, letter, unpointed⟩ := unitNames_spec named
  have all := (digits?_eq_some.mp number).2.1
  have first (d : Char) (mem : d ∈ whole) : d.isDigit := all d (List.mem_append_left _ mem)
  have second (d : Char) (mem : d ∈ fraction) : d.isDigit := all d (List.mem_append_right _ mem)
  have found : unitNames.idxOf? (String.ofList (c :: cs)) = some power := by
    rw [← eq, String.ofList_toList, index]
  unfold read?
  by_cases none : fraction = []
  · subst none
    rw [List.append_nil] at number
    simp [-String.ofList_cons, eq, List.takeWhile_append_of_pos first,
      List.dropWhile_append_of_pos first, letter, unpointed, number, found]
  · simp [-String.ofList_cons, none, eq, List.takeWhile_append_of_pos first,
      List.dropWhile_append_of_pos first, List.takeWhile_append_of_pos second,
      List.dropWhile_append_of_pos second, letter, number, found]

theorem Printed.read?_placed (places n : Nat) {name : String} {power : Nat}
    (named : unitNames[power]? = some name) :
    read? (placed places n ++ name) = some ⟨n, places, power⟩ := by
  let ds := List.replicate (places + 1 - (Nat.toDigits 10 n).length) '0' ++ Nat.toDigits 10 n
  have long : places + 1 ≤ ds.length := by
    simp only [ds, List.length_append, List.length_replicate]
    omega
  have length : (ds.drop (ds.length - places)).length = places := by
    rw [List.length_drop]
    omega
  have number : digits? (ds.take (ds.length - places) ++ ds.drop (ds.length - places)) = some n := by
    rw [List.take_append_drop]
    exact digits?_replicate_append _ _
  have read := read?_digits number named
  rw [length] at read
  rw [← read, placed]
  by_cases none : places = 0
  · subst none
    simp [ds]
  · have some : ds.drop (ds.length - places) ≠ [] := by
      rw [← List.length_pos_iff, length]
      omega
    simp only [if_neg none, if_neg some, ds]

end Text

variable {b c : Nat}

theorem unit_pos (k : Nat) : 0 < unit k := Nat.pow_pos (by decide)

theorem unit_mono {j k : Nat} (le : j ≤ k) : unit j ≤ unit k := Nat.pow_le_pow_right (by decide) le

theorem nearest_of_small (small : b < 2 ^ 53) : nearest b = b := by
  have log : Nat.log2 b < 53 := by
    by_cases zero : b = 0
    · rw [zero]
      decide
    · exact (Nat.log2_lt zero).mpr small
  have reach : (Nat.log2 b : Int) < Format.double.maxExponent := by
    have top : Format.double.maxExponent = 971 := by decide
    omega
  obtain ⟨m, e, rounded, value⟩ := Format.ofNat_eq Format.holdsUnits_double reach
  have kept : Number.nearest Format.double.precision b = b := nearest_of_short log
  unfold nearest
  rw [rounded]
  dsimp only
  rw [value, kept, Nat.mul_div_cancel _ (Format.denominator_pos e)]

theorem power_spec (b : Nat) :
    power b ≤ 4 ∧ (0 < power b → unit (power b) ≤ b) ∧ (power b < 4 → b < unit (power b + 1)) := by
  unfold power
  split
  next => simpa
  next =>
    split
    next => simp; omega
    next =>
      split
      next => simp; omega
      next => split <;> simp <;> omega

theorem read?_text (small : b < 2 ^ 53) : Printed.read? (text b) = some (printed b) := by
  have same := nearest_of_small small
  have whole (n : Nat) : fixedRatio 0 n 1 = fixedRatio 0 n (unit 0) := rfl
  unfold text printed power
  dsimp only
  rw [same, whole]
  split
  next => exact Printed.read?_placed 0 _ rfl
  next =>
    split
    next => exact Printed.read?_placed 1 _ rfl
    next =>
      split
      next => exact Printed.read?_placed 1 _ rfl
      next =>
        split
        next => exact Printed.read?_placed 1 _ rfl
        next => exact Printed.read?_placed 2 _ rfl

namespace Printed

variable {p : Printed}

theorem value_mul (p : Printed) : p.value * 10 ^ p.places = p.digits * unit p.power := by
  unfold value number
  field_simp

theorem step_mul (p : Printed) : p.step * 10 ^ p.places = unit p.power := by
  unfold step
  field_simp

theorem value_le {n : Nat} : p.value ≤ n ↔ p.digits * unit p.power ≤ n * 10 ^ p.places := by
  rw [← mul_le_mul_iff_left₀ (show (0 : ℚ) < 10 ^ p.places by positivity), value_mul]
  exact_mod_cast Iff.rfl

theorem le_value {n : Nat} : n ≤ p.value ↔ n * 10 ^ p.places ≤ p.digits * unit p.power := by
  rw [← mul_le_mul_iff_left₀ (show (0 : ℚ) < 10 ^ p.places by positivity), value_mul]
  exact_mod_cast Iff.rfl

theorem number_lt {n : Nat} : p.number < n ↔ p.digits < n * 10 ^ p.places := by
  unfold number
  rw [div_lt_iff₀ (by positivity)]
  exact_mod_cast Iff.rfl

end Printed

theorem value_near (b : Nat) : |(printed b).value - b| ≤ (printed b).step / 2 := by
  obtain ⟨above, below⟩ :=
    roundQuotient_near (unit_pos (power b)) (b * 10 ^ places (power b))
  have pos : (0 : ℚ) < 10 ^ (printed b).places := by positivity
  have value := (printed b).value_mul
  have step := (printed b).step_mul
  have above' : (2 : ℚ) * ((printed b).digits * unit (printed b).power) ≤
      2 * (b * 10 ^ (printed b).places) + unit (printed b).power := by exact_mod_cast above
  have below' : (2 : ℚ) * (b * 10 ^ (printed b).places) ≤
      2 * ((printed b).digits * unit (printed b).power) + unit (printed b).power := by
    exact_mod_cast below
  rw [abs_le]
  constructor
  · apply le_of_mul_le_mul_right _ pos
    linarith
  · apply le_of_mul_le_mul_right _ pos
    linarith

theorem unit_succ (k : Nat) : unit (k + 1) = 1024 * unit k := Nat.pow_succ'

theorem digits_le (b : Nat) (below : power b < 4) :
    (printed b).digits ≤ 1024 * 10 ^ (printed b).places := by
  have inside := (power_spec b).2.2 below
  apply roundQuotient_le (unit_pos _)
  calc b * 10 ^ places (power b) ≤ unit (power b + 1) * 10 ^ places (power b) :=
        Nat.mul_le_mul_right _ (Nat.le_of_lt inside)
    _ = 1024 * 10 ^ places (power b) * unit (power b) := by
        rw [unit_succ, Nat.mul_right_comm]

theorem value_le_next (b : Nat) (below : power b < 4) :
    (printed b).value ≤ unit (power b + 1) := by
  rw [Printed.value_le]
  calc (printed b).digits * unit (power b)
      ≤ 1024 * 10 ^ (printed b).places * unit (power b) :=
        Nat.mul_le_mul_right _ (digits_le b below)
    _ = unit (power b + 1) * 10 ^ (printed b).places := by rw [unit_succ, Nat.mul_right_comm]

theorem unit_le_value (c : Nat) (above : 0 < power c) : unit (power c) ≤ (printed c).value := by
  rw [Printed.le_value, Nat.mul_comm]
  apply Nat.mul_le_mul_right
  apply le_roundQuotient (unit_pos _)
  rw [Nat.mul_comm]
  exact Nat.mul_le_mul_right _ ((power_spec c).2.1 above)

theorem power_mono (le : b ≤ c) : power b ≤ power c := by
  by_contra greater
  have least := (power_spec b).2.1 (by omega)
  have most := (power_spec c).2.2 (by have := (power_spec b).1; omega)
  have units : unit (power c + 1) ≤ unit (power b) := unit_mono (by omega)
  omega

/-- What is printed never falls, not even where the unit changes: with the smaller unit it is at most
one of the greater, with the greater one it is at least that. -/
theorem value_mono (le : b ≤ c) : (printed b).value ≤ (printed c).value := by
  rcases Nat.lt_or_eq_of_le (power_mono le) with less | same
  · have fits : power b < 4 := Nat.lt_of_lt_of_le less (power_spec c).1
    have units : unit (power b + 1) ≤ unit (power c) := unit_mono less
    calc (printed b).value ≤ unit (power b + 1) := value_le_next b fits
      _ ≤ (unit (power c) : ℚ) := by exact_mod_cast units
      _ ≤ (printed c).value := unit_le_value c (Nat.zero_lt_of_lt less)
  · have digits : (printed b).digits ≤ (printed c).digits := by
      unfold printed
      dsimp only
      rw [same]
      exact roundQuotient_mono (Nat.mul_le_mul_right _ le) _
    have places : (printed b).places = (printed c).places := congrArg Size.places same
    have unit_eq : unit (printed b).power = unit (printed c).power := congrArg unit same
    unfold Printed.value Printed.number
    rw [places, unit_eq]
    gcongr

/-- A size is near the next unit with the unit that it is printed with, or with none. -/
theorem isNearNext_iff :
    IsNearNext b ↔ power b ∈ [1, 2, 3] ∧ 20479 * unit (power b) ≤ 20 * b := by
  have scaled (k : Nat) : (1023.95 : ℚ) * unit k ≤ b ↔ 20479 * unit k ≤ 20 * b := by
    have cast : (20479 : ℚ) * unit k ≤ 20 * b ↔ 20479 * unit k ≤ 20 * b := by
      exact_mod_cast Iff.rfl
    rw [← cast]
    constructor <;> intro h <;> linarith
  obtain ⟨most, least, inside⟩ := power_spec b
  constructor
  · rintro ⟨k, mem, near, below⟩
    rw [scaled] at near
    have own : k = power b := by
      rcases Nat.lt_trichotomy k (power b) with less | same | greater
      · have units : unit (k + 1) ≤ unit (power b) := unit_mono less
        have reached := least (Nat.zero_lt_of_lt less)
        omega
      · exact same
      · have units : unit (power b + 1) ≤ unit k := unit_mono greater
        have short := inside (by simp at mem; omega)
        omega
    rw [← own]
    exact ⟨mem, near⟩
  · rintro ⟨mem, near⟩
    exact ⟨power b, mem, (scaled _).mpr near, inside (by simp at mem; omega)⟩

/-- A number with one place is rounded up to 1024 just where the size is near the next unit. No size
is half way between two such numbers there. -/
theorem digits_lt_iff {k : Nat} (mem : k ∈ [1, 2, 3]) :
    roundQuotient (b * 10 ^ 1) (unit k) < 1024 * 10 ^ 1 ↔ ¬ 20479 * unit k ≤ 20 * b := by
  have near := roundQuotient_near (unit_pos k) (b * 10 ^ 1)
  have units : unit 1 = 1024 ∧ unit 2 = 1048576 ∧ unit 3 = 1073741824 := ⟨rfl, rfl, rfl⟩
  simp only [List.mem_cons, List.not_mem_nil, or_false] at mem
  rcases mem with rfl | rfl | rfl
  · rw [units.1] at near ⊢
    omega
  · rw [units.2.1] at near ⊢
    omega
  · rw [units.2.2] at near ⊢
    omega

theorem places_of_mem {k : Nat} (mem : k ∈ [1, 2, 3]) : places k = 1 := by
  simp only [List.mem_cons, List.not_mem_nil, or_false] at mem
  rcases mem with rfl | rfl | rfl <;> rfl

theorem number_lt_iff (b : Nat) :
    (printed b).number < 1024 ∨ (printed b).power = 4 ↔ ¬ IsNearNext b := by
  have number : (printed b).number < 1024 ↔
      (printed b).digits < 1024 * 10 ^ (printed b).places := Printed.number_lt (n := 1024)
  have most := (power_spec b).1
  rw [number, isNearNext_iff]
  change roundQuotient (b * 10 ^ places (power b)) (unit (power b)) < 1024 * 10 ^ places (power b) ∨
    power b = 4 ↔ _
  by_cases mem : power b ∈ [1, 2, 3]
  · have least : power b ≠ 4 := by simp at mem; omega
    rw [places_of_mem mem, digits_lt_iff mem]
    simp [mem, least]
  · have ends : power b = 0 ∨ power b = 4 := by simp at mem; omega
    rcases ends with bytes | last
    · have inside := (power_spec b).2.2 (by omega)
      rw [bytes] at inside ⊢
      have whole : roundQuotient (b * 10 ^ places 0) (unit 0) = b := by
        have one : b * 10 ^ places 0 = b := Nat.mul_one b
        rw [one]
        exact roundQuotient_one b
      rw [whole]
      have fits : b < 1024 * 10 ^ places 0 := inside
      simp [fits]
    · simp [last]

theorem number_of_near (near : IsNearNext b) : (printed b).number = 1024 := by
  have none := mt (number_lt_iff b).mp (not_not.mpr near)
  have mem := (isNearNext_iff.mp near).1
  have below : power b < 4 := by simp at mem; omega
  have most : (printed b).number ≤ 1024 := by
    unfold Printed.number
    rw [div_le_iff₀ (by positivity)]
    exact_mod_cast digits_le b below
  exact le_antisymm most (not_lt.mp fun less => none (Or.inl less))

/-- The number is right to half a unit of its last digit; it is below 1024, or the unit is the
greatest, just where the size is not rounded up to the next unit. -/
theorem number_below_next_unit_iff (b : Nat) (small : b < 2 ^ 53) :
    ∃ p, Printed.read? (text b) = some p ∧
      (p.number < 1024 ∨ p.power = 4 ↔ ¬ IsNearNext b) ∧
      (IsNearNext b → p.number = 1024) ∧
      |p.value - b| ≤ p.step / 2 ∧
      ∀ c, b ≤ c → c < 2 ^ 53 →
        ∃ q, Printed.read? (text c) = some q ∧ p.value ≤ q.value := by
  refine ⟨printed b, read?_text small, number_lt_iff b, number_of_near, value_near b, ?_⟩
  exact fun c le short => ⟨printed c, read?_text short, value_mono le⟩

/-- The greatest size that is not rounded up to the next unit, and the size after it. -/
theorem number_one_byte_below :
    let p : Printed := ⟨10239, 1, 1⟩
    1048524 < 2 ^ 53 ∧ text 1048524 = "1023.9KB" ∧ Printed.read? (text 1048524) = some p ∧
      p.number < 1024 ∧ ¬ IsNearNext 1048524 ∧ |p.value - (1048524 : Nat)| ≤ p.step / 2 ∧
      1048524 ≤ 1048525 ∧ 1048525 < 2 ^ 53 ∧
      ∃ q, Printed.read? (text 1048525) = some q ∧ p.value ≤ q.value := by
  intro p
  have read : Printed.read? (text 1048524) = some p := by decide +kernel
  obtain ⟨p', read', number, -, near, grows⟩ := number_below_next_unit_iff 1048524 (by decide)
  obtain rfl : p = p' := Option.some.inj (read.symm.trans read')
  have less : p.number < 1024 := by norm_num [p, Printed.number]
  exact ⟨by decide, by decide +kernel, read, less, number.mp (Or.inl less), near, by decide,
    by decide, grows 1048525 (by decide) (by decide)⟩

/-- A size below the next unit whose number is not. -/
theorem number_reaches_next_unit :
    let p : Printed := ⟨10240, 1, 1⟩
    1048575 < 2 ^ 53 ∧ text 1048575 = "1024.0KB" ∧ Printed.read? (text 1048575) = some p ∧
      ¬ p.number < 1024 ∧ p.power ≠ 4 := by
  intro p
  refine ⟨by decide, by decide +kernel, by decide +kernel, ?_, by decide⟩
  norm_num [p, Printed.number]

end HostWatch.Size
