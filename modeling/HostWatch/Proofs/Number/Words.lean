import HostWatch.Proofs.Number.Rounding

namespace HostWatch.Number

/-- The finite values of a format: the leading bit is kept unless the exponent is the least one. -/
structure Format.Holds (f : Format) (m : Nat) (e : Int) : Prop where
  low : f.minExponent ≤ e
  high : e ≤ f.maxExponent
  short : m < 2 ^ f.precision
  leading : 2 ^ (f.precision - 1) ≤ m ∨ e = f.minExponent

theorem Format.holds_of_round {f : Format} (units : f.HoldsUnits) {negative : Bool}
    {num den : Nat} (pos : 0 < den) {m : Nat} {e : Int}
    (rounded : f.round negative num den = .finite negative m e) : f.Holds m e := by
  obtain ⟨digits, low, high⟩ := units
  unfold round at rounded
  by_cases zero : num = 0
  · rw [if_pos zero] at rounded
    cases rounded
    exact ⟨le_refl _, by omega, Nat.two_pow_pos _, Or.inr rfl⟩
  rw [if_neg zero] at rounded
  dsimp only at rounded
  generalize last : max f.minExponent (floorLog num den - (f.precision - 1 : Nat)) = g at rounded
  generalize near : roundQuotient (num * Nat.pow 2 (-g).toNat) (den * Nat.pow 2 g.toNat) = n
    at rounded
  have unit : 0 < den * 2 ^ g.toNat := Nat.mul_pos pos (Nat.two_pow_pos _)
  have most : n ≤ 2 ^ f.precision := by
    rw [← near]
    apply roundQuotient_le unit
    exact below_of_le_add (by omega) (Nat.le_of_lt (lt_floorLog_succ pos))
  have least : 2 ^ (f.precision - 1) ≤ n ∨ g = f.minExponent := by
    by_cases lowest : g = f.minExponent
    · exact Or.inr lowest
    · left
      rw [← near]
      apply le_roundQuotient unit
      exact reaches_of_add_le (by omega) (floorLog_le (Nat.pos_of_ne_zero zero))
  by_cases carried : n = Nat.pow 2 f.precision
  · simp only [if_pos carried] at rounded
    split at rounded
    next => cases rounded
    next inside =>
      cases rounded
      refine ⟨by omega, by omega, ?_, Or.inl (Nat.le_refl _)⟩
      exact Nat.pow_lt_pow_right (by decide) (by omega)
  · simp only [if_neg carried] at rounded
    split at rounded
    next => cases rounded
    next inside =>
      cases rounded
      exact ⟨by omega, by omega, Nat.lt_of_le_of_ne most carried, least⟩

theorem Format.ofBits_parts {f : Format} {biased fraction : Nat}
    (inside : biased + 1 < 2 ^ f.exponentBits) (short : fraction < 2 ^ (f.precision - 1)) :
    f.ofBits (biased * 2 ^ (f.precision - 1) + fraction) =
      if biased = 0 then .finite false fraction f.minExponent
      else .finite false (2 ^ (f.precision - 1) + fraction) (f.minExponent + biased - 1) := by
  have pos : 0 < 2 ^ (f.precision - 1) := Nat.two_pow_pos _
  have rest : (biased * 2 ^ (f.precision - 1) + fraction) % 2 ^ (f.precision - 1) = fraction := by
    rw [Nat.mul_comm, Nat.mul_add_mod]
    exact Nat.mod_eq_of_lt short
  have whole : (biased * 2 ^ (f.precision - 1) + fraction) / 2 ^ (f.precision - 1) = biased := by
    rw [Nat.mul_comm, Nat.mul_add_div pos, Nat.div_eq_of_lt short, Nat.add_zero]
  have kept : biased % 2 ^ f.exponentBits = biased := Nat.mod_eq_of_lt (by omega)
  have unsigned : biased / 2 ^ f.exponentBits = 0 := Nat.div_eq_of_lt (by omega)
  have ordinary : biased ≠ 2 ^ f.exponentBits - 1 := by omega
  unfold ofBits
  change (if (biased * 2 ^ (f.precision - 1) + fraction) / 2 ^ (f.precision - 1) %
    2 ^ f.exponentBits = 2 ^ f.exponentBits - 1 then _ else _) = _
  simp only [Nat.pow_eq, rest, whole, kept, unsigned, if_neg ordinary]
  rfl

theorem Format.HoldsUnits.exponentBits_pos {f : Format} (units : f.HoldsUnits) :
    0 < f.exponentBits := by
  obtain ⟨digits, -, positive⟩ := units
  by_contra none
  have reach : f.maxExponent = 2 ^ 0 - (f.precision : Int) := by
    unfold maxExponent
    rw [Nat.eq_zero_of_not_pos none]
    rfl
  omega

theorem Format.ofBits_toBits {f : Format} (units : f.HoldsUnits) {m : Nat} {e : Int}
    (holds : f.Holds m e) :
    f.ofBits (f.toBits (.finite false m e)) = .finite false m e ∧
      f.toBits (.finite false m e) < 2 ^ f.exponentBits * 2 ^ (f.precision - 1) := by
  obtain ⟨low, high, short, leading⟩ := holds
  have width : 2 ^ (f.exponentBits - 1) * 2 = 2 ^ f.exponentBits :=
    Nat.two_pow_pred_mul_two units.exponentBits_pos
  have double : 2 ^ (f.precision - 1) * 2 = 2 ^ f.precision :=
    Nat.two_pow_pred_mul_two units.digits
  have top : f.maxExponent = (2 ^ (f.exponentBits - 1) : Nat) - (f.precision : Int) := rfl
  have bottom : f.minExponent = 3 - (2 ^ (f.exponentBits - 1) : Nat) - (f.precision : Int) := rfl
  have sign : toBits.signBit f false = 0 := rfl
  have pos : 0 < 2 ^ (f.precision - 1) := Nat.two_pow_pos _
  by_cases small : m < 2 ^ (f.precision - 1)
  · -- zero stands for the least exponent of values without a leading bit
    have least : e = f.minExponent := leading.resolve_left (Nat.not_le_of_lt small)
    have stored : f.toBits (.finite false m e) = 0 * 2 ^ (f.precision - 1) + m := by
      refine (if_pos small).trans ?_
      rw [sign, Nat.zero_mul]
    rw [stored]
    refine ⟨(ofBits_parts (by omega) small).trans ?_, ?_⟩
    · rw [if_pos rfl, least]
    · rw [Nat.zero_mul, Nat.zero_add]
      exact small.trans_le (Nat.le_mul_of_pos_left _ (Nat.two_pow_pos _))
  · obtain ⟨b, biased⟩ : ∃ b : Nat, (e - f.minExponent + 1).toNat = b := ⟨_, rfl⟩
    have stored : f.toBits (.finite false m e) =
        b * 2 ^ (f.precision - 1) + (m - 2 ^ (f.precision - 1)) := by
      refine (if_neg small).trans ?_
      rw [sign, Nat.zero_add, biased]
      rfl
    have rest : m - 2 ^ (f.precision - 1) < 2 ^ (f.precision - 1) := by omega
    have inside : b + 1 < 2 ^ f.exponentBits := by omega
    have some : b ≠ 0 := by omega
    have whole : 2 ^ (f.precision - 1) + (m - 2 ^ (f.precision - 1)) = m := by omega
    have exponent : f.minExponent + b - 1 = e := by omega
    rw [stored]
    refine ⟨(ofBits_parts inside rest).trans ?_, ?_⟩
    · rw [if_neg some, whole, exponent]
    · calc b * 2 ^ (f.precision - 1) + (m - 2 ^ (f.precision - 1))
          < (b + 1) * 2 ^ (f.precision - 1) := by rw [Nat.succ_mul]; omega
        _ ≤ 2 ^ f.exponentBits * 2 ^ (f.precision - 1) :=
          Nat.mul_le_mul_right _ (Nat.le_of_lt inside)

/-- A value of at most some whole number is kept in single precision as such a value. -/
theorem Single.value_le {m : Nat} {e : Int} {bound : Nat} (small : bound < 2 ^ 24)
    (le : Binary.numerator m e ≤ bound * Binary.denominator e) :
    ∃ n g, (ofBinary (.finite false m e)).value = .finite false n g ∧
      Binary.numerator n g ≤ bound * Binary.denominator g := by
  obtain ⟨n, g, eq, le'⟩ := Binary.convert_le Format.holdsUnits_single small le
  refine ⟨n, g, ?_, le'⟩
  have holds : Format.single.Holds n g :=
    Format.holds_of_round Format.holdsUnits_single (Format.denominator_pos e) eq
  obtain ⟨read, short⟩ := Format.ofBits_toBits Format.holdsUnits_single holds
  have word : (UInt32.ofNat (Format.single.toBits (.finite false n g))).toNat =
      Format.single.toBits (.finite false n g) :=
    UInt32.toNat_ofNat_of_lt' (short.trans (by decide))
  unfold value ofBinary
  rw [eq, word, read]

end HostWatch.Number
