import HostWatch.Number.Binary
import Mathlib.Data.Nat.Log
import Mathlib.Tactic.Ring

namespace HostWatch.Number

section Quotients

variable {num num' den bound : Nat}

theorem roundQuotient_le (pos : 0 < den) (h : num ≤ bound * den) :
    roundQuotient num den ≤ bound := by
  have parts := Nat.div_add_mod num den
  have below : num / den ≤ bound := Nat.div_le_of_le_mul (Nat.mul_comm bound den ▸ h)
  unfold roundQuotient
  dsimp only
  by_cases whole : num / den = bound
  · rw [whole, Nat.mul_comm] at parts
    have nothing : num % den = 0 := by omega
    have down : 2 * (num % den) < den := by omega
    rw [if_pos (Or.inl down)]
    exact below
  · split <;> omega

theorem le_roundQuotient (pos : 0 < den) (h : bound * den ≤ num) :
    bound ≤ roundQuotient num den := by
  have below : bound ≤ num / den := (Nat.le_div_iff_mul_le pos).mpr h
  unfold roundQuotient
  dsimp only
  split <;> omega

theorem roundQuotient_mono (le : num ≤ num') (den : Nat) :
    roundQuotient num den ≤ roundQuotient num' den := by
  have floors : num / den ≤ num' / den := Nat.div_le_div_right le
  have first := Nat.div_add_mod num den
  have second := Nat.div_add_mod num' den
  unfold roundQuotient
  dsimp only
  by_cases same : num / den = num' / den
  · rw [← same] at second ⊢
    have rests : num % den ≤ num' % den := by omega
    split <;> split <;> omega
  · split <;> split <;> omega

theorem floorLog_le (pos : 0 < num) :
    den * 2 ^ (floorLog num den).toNat ≤ num * 2 ^ (-floorLog num den).toNat := by
  have above : 2 ^ Nat.log2 num ≤ num := Nat.log2_self_le (Nat.pos_iff_ne_zero.mp pos)
  have under : den < 2 ^ (Nat.log2 den + 1) := Nat.lt_log2_self
  unfold floorLog
  dsimp only
  generalize Nat.log2 num = n at above
  generalize Nat.log2 den = d at under
  split
  next reached => exact reached
  next =>
    -- one step lower the powers of two around both numbers decide
    by_cases more : d < n
    · obtain ⟨k, rfl⟩ : ∃ k, n = d + 1 + k := ⟨n - (d + 1), by omega⟩
      have up : ((d + 1 + k : Nat) - (d : Nat) - 1 : Int).toNat = k := by omega
      have down : (-((d + 1 + k : Nat) - (d : Nat) - 1 : Int)).toNat = 0 := by omega
      rw [up, down, Nat.pow_zero, Nat.mul_one]
      calc den * 2 ^ k ≤ 2 ^ (d + 1) * 2 ^ k := Nat.mul_le_mul_right _ (Nat.le_of_lt under)
        _ = 2 ^ (d + 1 + k) := (Nat.pow_add 2 (d + 1) k).symm
        _ ≤ num := above
    · obtain ⟨k, rfl⟩ : ∃ k, d = n + k := ⟨d - n, by omega⟩
      have up : ((n : Nat) - (n + k : Nat) - 1 : Int).toNat = 0 := by omega
      have down : (-((n : Nat) - (n + k : Nat) - 1 : Int)).toNat = k + 1 := by omega
      rw [up, down, Nat.pow_zero, Nat.mul_one]
      calc den ≤ 2 ^ (n + k + 1) := Nat.le_of_lt under
        _ = 2 ^ n * 2 ^ (k + 1) := by rw [Nat.add_assoc, Nat.pow_add]
        _ ≤ num * 2 ^ (k + 1) := Nat.mul_le_mul_right _ above

theorem lt_floorLog_succ (pos : 0 < den) :
    num * 2 ^ (-(floorLog num den + 1)).toNat < den * 2 ^ (floorLog num den + 1).toNat := by
  have above : 2 ^ Nat.log2 den ≤ den := Nat.log2_self_le (Nat.pos_iff_ne_zero.mp pos)
  have under : num < 2 ^ (Nat.log2 num + 1) := Nat.lt_log2_self
  unfold floorLog
  dsimp only
  generalize Nat.log2 num = n at under
  generalize Nat.log2 den = d at above
  split
  next =>
    by_cases more : d ≤ n
    · obtain ⟨k, rfl⟩ : ∃ k, n = d + k := ⟨n - d, by omega⟩
      have up : ((d + k : Nat) - (d : Nat) + 1 : Int).toNat = k + 1 := by omega
      have down : (-((d + k : Nat) - (d : Nat) + 1 : Int)).toNat = 0 := by omega
      rw [up, down, Nat.pow_zero, Nat.mul_one]
      calc num < 2 ^ (d + k + 1) := under
        _ = 2 ^ d * 2 ^ (k + 1) := by rw [Nat.add_assoc, Nat.pow_add]
        _ ≤ den * 2 ^ (k + 1) := Nat.mul_le_mul_right _ above
    · obtain ⟨k, rfl⟩ : ∃ k, d = n + 1 + k := ⟨d - (n + 1), by omega⟩
      have up : ((n : Nat) - (n + 1 + k : Nat) + 1 : Int).toNat = 0 := by omega
      have down : (-((n : Nat) - (n + 1 + k : Nat) + 1 : Int)).toNat = k := by omega
      rw [up, down, Nat.pow_zero, Nat.mul_one]
      calc num * 2 ^ k < 2 ^ (n + 1) * 2 ^ k :=
            Nat.mul_lt_mul_of_pos_right under (Nat.two_pow_pos k)
        _ = 2 ^ (n + 1 + k) := (Nat.pow_add 2 (n + 1) k).symm
        _ ≤ den := above
  next missed =>
    rw [Int.sub_add_cancel]
    exact Nat.lt_of_not_le missed

theorem floorLog_lt {p : Nat} (some : 0 < num) (pos : 0 < den) (h : num ≤ bound * den)
    (small : bound < 2 ^ p) : floorLog num den < p := by
  by_contra past
  have reached : den * 2 ^ (floorLog num den).toNat ≤ num * 2 ^ (-floorLog num den).toNat :=
    floorLog_le some
  have down : (-floorLog num den).toNat = 0 := by omega
  have grown : 2 ^ p ≤ 2 ^ (floorLog num den).toNat :=
    Nat.pow_le_pow_right (by decide) (by omega)
  rw [down, Nat.pow_zero, Nat.mul_one] at reached
  have short : bound * den < 2 ^ p * den := Nat.mul_lt_mul_of_pos_right small pos
  have long : den * 2 ^ p ≤ den * 2 ^ (floorLog num den).toNat := Nat.mul_le_mul_left _ grown
  rw [Nat.mul_comm den] at long
  omega

theorem reaches_of_add_le {x y : Int} {p : Nat} (le : y + p ≤ x)
    (reached : den * 2 ^ x.toNat ≤ num * 2 ^ (-x).toNat) :
    2 ^ p * (den * 2 ^ y.toNat) ≤ num * 2 ^ (-y).toNat := by
  have exponents : p + y.toNat + (-x).toNat ≤ x.toNat + (-y).toNat := by omega
  apply Nat.le_of_mul_le_mul_right _ (Nat.two_pow_pos (-x).toNat)
  calc 2 ^ p * (den * 2 ^ y.toNat) * 2 ^ (-x).toNat
      = den * 2 ^ (p + y.toNat + (-x).toNat) := by rw [Nat.pow_add, Nat.pow_add]; ring
    _ ≤ den * 2 ^ (x.toNat + (-y).toNat) :=
        Nat.mul_le_mul_left _ (Nat.pow_le_pow_right (by decide) exponents)
    _ = den * 2 ^ x.toNat * 2 ^ (-y).toNat := by rw [Nat.pow_add, Nat.mul_assoc]
    _ ≤ num * 2 ^ (-x).toNat * 2 ^ (-y).toNat := Nat.mul_le_mul_right _ reached
    _ = num * 2 ^ (-y).toNat * 2 ^ (-x).toNat := Nat.mul_right_comm _ _ _

theorem below_of_le_add {x y : Int} {p : Nat} (le : x ≤ y + p)
    (below : num * 2 ^ (-x).toNat ≤ den * 2 ^ x.toNat) :
    num * 2 ^ (-y).toNat ≤ 2 ^ p * (den * 2 ^ y.toNat) := by
  have exponents : x.toNat + (-y).toNat ≤ p + y.toNat + (-x).toNat := by omega
  apply Nat.le_of_mul_le_mul_right _ (Nat.two_pow_pos (-x).toNat)
  calc num * 2 ^ (-y).toNat * 2 ^ (-x).toNat
      = num * 2 ^ (-x).toNat * 2 ^ (-y).toNat := Nat.mul_right_comm _ _ _
    _ ≤ den * 2 ^ x.toNat * 2 ^ (-y).toNat := Nat.mul_le_mul_right _ below
    _ = den * 2 ^ (x.toNat + (-y).toNat) := by rw [Nat.pow_add, Nat.mul_assoc]
    _ ≤ den * 2 ^ (p + y.toNat + (-x).toNat) :=
        Nat.mul_le_mul_left _ (Nat.pow_le_pow_right (by decide) exponents)
    _ = 2 ^ p * (den * 2 ^ y.toNat) * 2 ^ (-x).toNat := by rw [Nat.pow_add, Nat.pow_add]; ring

theorem roundQuotient_one (n : Nat) : roundQuotient n 1 = n := by
  apply Nat.le_antisymm
  · exact roundQuotient_le Nat.one_pos (Nat.le_of_eq (Nat.mul_one n).symm)
  · exact le_roundQuotient Nat.one_pos (Nat.le_of_eq (Nat.mul_one n))

end Quotients

/-- The whole number nearest to a whole number among those with some significant bits. -/
def nearest (precision n : Nat) : Nat :=
  let unit := 2 ^ (Nat.log2 n + 1 - precision)
  roundQuotient n unit * unit

section Wholes

variable {p n n' : Nat}

theorem nearest_of_short (short : Nat.log2 n + 1 ≤ p) : nearest p n = n := by
  have unit : Nat.log2 n + 1 - p = 0 := Nat.sub_eq_zero_of_le short
  unfold nearest
  dsimp only
  rw [unit, Nat.pow_zero, roundQuotient_one, Nat.mul_one]

theorem nearest_le (p n : Nat) : nearest p n ≤ 2 ^ (p + (Nat.log2 n + 1 - p)) := by
  have under : n < 2 ^ (Nat.log2 n + 1) := Nat.lt_log2_self
  have grown : 2 ^ (Nat.log2 n + 1) ≤ 2 ^ (p + (Nat.log2 n + 1 - p)) :=
    Nat.pow_le_pow_right (by decide) (by omega)
  have whole : n ≤ 2 ^ (p + (Nat.log2 n + 1 - p)) := Nat.le_of_lt (Nat.lt_of_lt_of_le under grown)
  unfold nearest
  dsimp only
  rw [Nat.pow_add] at whole ⊢
  apply Nat.mul_le_mul_right
  exact roundQuotient_le (Nat.two_pow_pos _) whole

theorem le_nearest (pos : 0 < n) (long : p < Nat.log2 n + 1) (some : 0 < p) :
    2 ^ Nat.log2 n ≤ nearest p n := by
  have above : 2 ^ Nat.log2 n ≤ n := Nat.log2_self_le (Nat.pos_iff_ne_zero.mp pos)
  have parts : Nat.log2 n = p - 1 + (Nat.log2 n + 1 - p) := by omega
  unfold nearest
  dsimp only
  generalize Nat.log2 n + 1 - p = k at parts
  rw [parts, Nat.pow_add] at above ⊢
  apply Nat.mul_le_mul_right
  exact le_roundQuotient (Nat.two_pow_pos k) above

theorem nearest_mono (some : 0 < p) (le : n ≤ n') : nearest p n ≤ nearest p n' := by
  have logs : Nat.log2 n ≤ Nat.log2 n' := by
    rw [Nat.log2_eq_log_two, Nat.log2_eq_log_two]
    exact Nat.log_mono_right le
  by_cases same : Nat.log2 n + 1 - p = Nat.log2 n' + 1 - p
  · unfold nearest
    dsimp only
    rw [same]
    exact Nat.mul_le_mul_right _ (roundQuotient_mono le _)
  · have long : p < Nat.log2 n' + 1 := by omega
    have pos : 0 < n' := by
      by_contra zero
      have nothing : n' = 0 := by omega
      rw [nothing] at long same
      have log : Nat.log2 0 = 0 := by decide
      rw [log] at long
      omega
    calc nearest p n ≤ 2 ^ (p + (Nat.log2 n + 1 - p)) := nearest_le p n
      _ ≤ 2 ^ Nat.log2 n' := Nat.pow_le_pow_right (by decide) (by omega)
      _ ≤ nearest p n' := le_nearest pos long some

end Wholes

namespace Format

variable {f : Format} {num den bound : Nat}

/-- A format in which one is an exact value with room to spare. -/
structure HoldsUnits (f : Format) : Prop where
  digits : 0 < f.precision
  low : f.minExponent ≤ 0
  high : 0 < f.maxExponent

theorem holdsUnits_single : single.HoldsUnits := ⟨by decide, by decide, by decide⟩

theorem holdsUnits_double : double.HoldsUnits := ⟨by decide, by decide, by decide⟩

theorem numerator_nat (m k : Nat) : Binary.numerator m k = m * 2 ^ k := rfl

theorem denominator_nat (k : Nat) : Binary.denominator k = 1 := by
  have flat : (-(k : Int)).toNat = 0 := by omega
  unfold Binary.denominator
  rw [flat]

theorem numerator_neg (m k : Nat) : Binary.numerator m (-k) = m := by
  have flat : (-(k : Int)).toNat = 0 := by omega
  unfold Binary.numerator
  rw [flat]
  exact Nat.mul_one m

theorem denominator_neg (k : Nat) : Binary.denominator (-k) = 2 ^ k := by
  have deep : (-(-(k : Int))).toNat = k := by omega
  unfold Binary.denominator
  rw [deep]
  rfl

theorem denominator_pos (e : Int) : 0 < Binary.denominator e := Nat.two_pow_pos _

theorem carry_value (p : Nat) (e : Int) :
    Binary.numerator (2 ^ p) (e + 1) * Binary.denominator e =
      Binary.numerator (2 ^ (p + 1)) e * Binary.denominator (e + 1) := by
  by_cases up : 0 ≤ e
  · obtain ⟨k, rfl⟩ : ∃ k : Nat, e = k := ⟨e.toNat, by omega⟩
    have next : (k : Int) + 1 = (k + 1 : Nat) := by omega
    rw [next, numerator_nat, numerator_nat, denominator_nat, denominator_nat, Nat.pow_succ,
      Nat.pow_succ]
    ring
  · obtain ⟨k, rfl⟩ : ∃ k : Nat, e = -(k + 1 : Nat) := ⟨e.natAbs - 1, by omega⟩
    have next : -((k + 1 : Nat) : Int) + 1 = -(k : Int) := by omega
    rw [next, numerator_neg, numerator_neg, denominator_neg, denominator_neg, Nat.pow_succ,
      Nat.pow_succ]
    ring

/-- What is rounded to the last bit that a format has for it is a value of the format, unless it is
past the largest. -/
theorem round_eq (units : f.HoldsUnits) (negative : Bool) (pos : 0 < num)
    (inside : max f.minExponent (floorLog num den - (f.precision - 1 : Nat)) < f.maxExponent) :
    let e := max f.minExponent (floorLog num den - (f.precision - 1 : Nat))
    let m := roundQuotient (num * Nat.pow 2 (-e).toNat) (den * Nat.pow 2 e.toNat)
    ∃ m' e', f.round negative num den = .finite negative m' e' ∧
      Binary.numerator m' e' * Binary.denominator e =
        Binary.numerator m e * Binary.denominator e' := by
  intro e m
  obtain ⟨digits, low, high⟩ := units
  change e < f.maxExponent at inside
  have unfolded : f.round negative num den =
      if f.maxExponent < (if m = Nat.pow 2 f.precision then e + 1 else e) then .infinite negative
      else .finite negative (if m = Nat.pow 2 f.precision then Nat.pow 2 (f.precision - 1) else m)
        (if m = Nat.pow 2 f.precision then e + 1 else e) := if_neg (Nat.pos_iff_ne_zero.mp pos)
  rw [unfolded]
  by_cases carried : m = Nat.pow 2 f.precision
  · simp only [if_pos carried]
    rw [if_neg (by omega)]
    refine ⟨_, _, rfl, ?_⟩
    obtain ⟨p, eq⟩ : ∃ p, f.precision = p + 1 := ⟨f.precision - 1, by omega⟩
    rw [carried, eq]
    exact carry_value p e
  · simp only [if_neg carried]
    rw [if_neg (by omega)]
    exact ⟨_, _, rfl, rfl⟩

/-- What is at most a whole number that the significant bits can hold stays so when rounded. -/
theorem round_le (units : f.HoldsUnits) (negative : Bool) (pos : 0 < den)
    (small : bound < 2 ^ f.precision) (h : num ≤ bound * den) :
    ∃ m e, f.round negative num den = .finite negative m e ∧
      Binary.numerator m e ≤ bound * Binary.denominator e := by
  by_cases zero : num = 0
  · refine ⟨0, _, if_pos zero, ?_⟩
    unfold Binary.numerator
    omega
  have log := floorLog_lt (Nat.pos_of_ne_zero zero) pos h small
  -- so the last bit that is kept is worth one at most, and the bound a whole number of such bits
  have down : max f.minExponent (floorLog num den - (f.precision - 1 : Nat)) ≤ 0 := by
    have low := units.low
    have digits := units.digits
    omega
  obtain ⟨m, e, rounded, value⟩ :=
    round_eq units negative (Nat.pos_of_ne_zero zero) (down.trans_lt units.high)
  refine ⟨m, e, rounded, ?_⟩
  generalize max f.minExponent (floorLog num den - (f.precision - 1 : Nat)) = last at down value
  obtain ⟨k, rfl⟩ : ∃ k : Nat, last = -k := ⟨last.natAbs, by omega⟩
  have flat : (-(k : Int)).toNat = 0 := by omega
  have deep : (-(-(k : Int))).toNat = k := by omega
  have scaled : roundQuotient (num * Nat.pow 2 k) (den * Nat.pow 2 0) ≤ bound * 2 ^ k := by
    have unit : den * Nat.pow 2 0 = den := Nat.mul_one den
    rw [unit]
    apply roundQuotient_le pos
    calc num * Nat.pow 2 k ≤ bound * den * 2 ^ k := Nat.mul_le_mul_right _ h
      _ = bound * 2 ^ k * den := Nat.mul_right_comm bound den (2 ^ k)
  rw [flat, deep, numerator_neg, denominator_neg] at value
  apply Nat.le_of_mul_le_mul_right _ (Nat.two_pow_pos k)
  calc Binary.numerator m e * 2 ^ k ≤ bound * 2 ^ k * Binary.denominator e := by
        rw [value]
        exact Nat.mul_le_mul_right _ scaled
    _ = bound * Binary.denominator e * 2 ^ k := Nat.mul_right_comm _ _ _

theorem floorLog_one {n : Nat} (pos : 0 < n) : floorLog n 1 = Nat.log2 n := by
  have above : 2 ^ Nat.log2 n ≤ n := Nat.log2_self_le (Nat.pos_iff_ne_zero.mp pos)
  have log : Nat.log2 1 = 0 := by decide
  have reached : 1 * Nat.pow 2 ((Nat.log2 n : Int) - (Nat.log2 1 : Int)).toNat ≤
      n * Nat.pow 2 (-((Nat.log2 n : Int) - (Nat.log2 1 : Int))).toNat := by
    have up : ((Nat.log2 n : Int) - (0 : Nat)).toNat = Nat.log2 n := by omega
    have down : (-((Nat.log2 n : Int) - (0 : Nat))).toNat = 0 := by omega
    rw [log, up, down, Nat.one_mul]
    exact above.trans (Nat.le_of_eq (Nat.mul_one n).symm)
  unfold floorLog
  dsimp only
  rw [if_pos reached, log]
  exact sub_zero _

/-- A whole number is rounded to the nearest one with as many significant bits. -/
theorem ofNat_eq (units : f.HoldsUnits) {n : Nat} (fits : (Nat.log2 n : Int) < f.maxExponent) :
    ∃ m e, f.ofNat n = .finite false m e ∧
      Binary.numerator m e = nearest f.precision n * Binary.denominator e := by
  by_cases zero : n = 0
  · have log : Nat.log2 0 = 0 := by decide
    have nothing : nearest f.precision 0 = 0 := nearest_of_short (by rw [log]; exact units.digits)
    have rounded : f.ofNat 0 = .finite false 0 f.minExponent := rfl
    rw [zero]
    refine ⟨0, _, rounded, ?_⟩
    unfold Binary.numerator
    rw [nothing, Nat.zero_mul, Nat.zero_mul]
  have pos : 0 < n := Nat.pos_of_ne_zero zero
  obtain ⟨digits, low, high⟩ := units
  have inside : max f.minExponent (floorLog n 1 - (f.precision - 1 : Nat)) < f.maxExponent := by
    rw [floorLog_one pos]
    omega
  obtain ⟨m, e, rounded, value⟩ := round_eq ⟨digits, low, high⟩ false pos inside
  refine ⟨m, e, rounded, ?_⟩
  rw [floorLog_one pos] at value
  by_cases short : Nat.log2 n + 1 ≤ f.precision
  · rw [nearest_of_short short]
    obtain ⟨k, last⟩ : ∃ k : Nat, max f.minExponent (Nat.log2 n - (f.precision - 1 : Nat)) = -k :=
      ⟨(max f.minExponent (Nat.log2 n - (f.precision - 1 : Nat))).natAbs, by omega⟩
    have flat : (-(k : Int)).toNat = 0 := by omega
    have deep : (-(-(k : Int))).toNat = k := by omega
    have exact_ : roundQuotient (n * Nat.pow 2 k) (1 * Nat.pow 2 0) = n * 2 ^ k :=
      roundQuotient_one (n * 2 ^ k)
    rw [last, flat, deep, numerator_neg, denominator_neg, exact_, Nat.mul_right_comm] at value
    exact Nat.eq_of_mul_eq_mul_right (Nat.two_pow_pos k) value
  · have last : max f.minExponent (Nat.log2 n - (f.precision - 1 : Nat)) =
        (Nat.log2 n + 1 - f.precision : Nat) := by omega
    rw [last] at value
    generalize reach : Nat.log2 n + 1 - f.precision = k at value
    have flat : (-(k : Int)).toNat = 0 := by omega
    have whole : roundQuotient (n * Nat.pow 2 0) (1 * Nat.pow 2 k) = roundQuotient n (2 ^ k) := by
      rw [Nat.one_mul]
      exact congrArg (roundQuotient · (2 ^ k)) (Nat.mul_one n)
    have near : nearest f.precision n = roundQuotient n (2 ^ k) * 2 ^ k := by
      rw [← reach]
      rfl
    rw [flat, Int.toNat_natCast, whole, numerator_nat, denominator_nat, Nat.mul_one] at value
    rw [near]
    exact value

end Format

namespace Binary

variable {f : Format} {m n : Nat} {e g : Int} {bound bound' : Nat}

theorem div_le_one (units : f.HoldsUnits) (pos : 0 < numerator n g)
    (le : numerator m e * denominator g ≤ denominator e * numerator n g) :
    ∃ q h, (finite false m e).div f (finite false n g) = .finite false q h ∧
      numerator q h ≤ denominator h := by
  have some : 1 < 2 ^ f.precision := Nat.one_lt_two_pow (Nat.pos_iff_ne_zero.mp units.digits)
  have below : 0 < denominator e * numerator n g := Nat.mul_pos (Format.denominator_pos e) pos
  have share : numerator m e * denominator g ≤ 1 * (denominator e * numerator n g) := by
    rwa [Nat.one_mul]
  obtain ⟨q, h, eq, small⟩ := Format.round_le units false below some share
  rw [Nat.one_mul] at small
  exact ⟨q, h, eq, small⟩

/-- The product of values that are at most two whole numbers is at most the product of these. -/
theorem mul_le (units : f.HoldsUnits) (small : bound * bound' < 2 ^ f.precision)
    (le : numerator m e ≤ bound * denominator e) (le' : numerator n g ≤ bound' * denominator g) :
    ∃ q h, (finite false m e).mul f (finite false n g) = .finite false q h ∧
      numerator q h ≤ bound * bound' * denominator h := by
  have below : 0 < denominator e * denominator g :=
    Nat.mul_pos (Format.denominator_pos e) (Format.denominator_pos g)
  apply Format.round_le units false below small
  calc numerator m e * numerator n g ≤ bound * denominator e * (bound' * denominator g) :=
        Nat.mul_le_mul le le'
    _ = bound * bound' * (denominator e * denominator g) := by ring

theorem convert_le (units : f.HoldsUnits) (small : bound < 2 ^ f.precision)
    (le : numerator m e ≤ bound * denominator e) :
    ∃ q h, (finite false m e).convert f = .finite false q h ∧
      numerator q h ≤ bound * denominator h :=
  Format.round_le units false (Format.denominator_pos e) small le

end Binary

end HostWatch.Number
