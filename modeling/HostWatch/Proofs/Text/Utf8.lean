import HostWatch.Text.Utf8

namespace HostWatch.Text.Utf8

theorem isScalar (c : Char) : c.toNat < 0xD800 ∨ 0xDFFF < c.toNat ∧ c.toNat < 0x110000 := c.valid

theorem toNat_ofNat {n : Nat} (h : n < 0xD800 ∨ 0xDFFF < n ∧ n < 0x110000) :
    (Char.ofNat n).toNat = n := by
  have valid : n.isValidChar := h
  unfold Char.ofNat
  rw [dif_pos valid]
  rfl

theorem lead?_one {b : UInt8} (h : b.toNat < 0x80) : lead? b = some ⟨0, 0x80, 0xBF, b.toNat⟩ := by
  simp [lead?, UInt8.lt_iff_toNat_lt, h]

theorem lead?_two {b : UInt8} (low : 0xC2 ≤ b.toNat) (high : b.toNat < 0xE0) :
    lead? b = some ⟨1, 0x80, 0xBF, b.toNat - 0xC0⟩ := by
  simp [lead?, UInt8.lt_iff_toNat_lt, high, show ¬b.toNat < 128 by omega,
    show ¬b.toNat < 194 by omega]

theorem lead?_three {b : UInt8} (low : 0xE0 ≤ b.toNat) (high : b.toNat < 0xF0) :
    lead? b = some ⟨2, if b = 0xE0 then 0xA0 else 0x80, if b = 0xED then 0x9F else 0xBF,
      b.toNat - 0xE0⟩ := by
  simp [lead?, UInt8.lt_iff_toNat_lt, high, show ¬b.toNat < 128 by omega,
    show ¬b.toNat < 194 by omega, show ¬b.toNat < 224 by omega]

theorem lead?_four {b : UInt8} (low : 0xF0 ≤ b.toNat) (high : b.toNat < 0xF5) :
    lead? b = some ⟨3, if b = 0xF0 then 0x90 else 0x80, if b = 0xF4 then 0x8F else 0xBF,
      b.toNat - 0xF0⟩ := by
  simp [lead?, UInt8.lt_iff_toNat_lt, high, show ¬b.toNat < 128 by omega,
    show ¬b.toNat < 194 by omega, show ¬b.toNat < 224 by omega, show ¬b.toNat < 240 by omega]

theorem lead?_none {b : UInt8} (h : 0x80 ≤ b.toNat ∧ b.toNat < 0xC2 ∨ 0xF5 ≤ b.toNat) :
    lead? b = none := by
  rcases h with ⟨low, high⟩ | high
  · simp [lead?, UInt8.lt_iff_toNat_lt, high, show ¬b.toNat < 128 by omega]
  · simp [lead?, UInt8.lt_iff_toNat_lt, show ¬b.toNat < 128 by omega,
      show ¬b.toNat < 194 by omega, show ¬b.toNat < 224 by omega, show ¬b.toNat < 240 by omega,
      show ¬b.toNat < 245 by omega]

theorem following_cons {k n : Nat} {low high b : UInt8} {bs : List UInt8}
    (h : low.toNat ≤ b.toNat ∧ b.toNat ≤ high.toNat) :
    following (k + 1) low high n (b :: bs) =
      following k 0x80 0xBF (n * 64 + (b.toNat - 0x80)) bs := by
  simp [following, UInt8.le_iff_toNat_le, h]

theorem toNat_tail (n : Nat) : (UInt8.ofNat (n % 64 + 0x80)).toNat = n % 64 + 0x80 := by
  rw [UInt8.toNat_ofNat']
  omega

theorem second_three {b : UInt8} {v : Nat} (lead : b.toNat = v / 4096 + 0xE0)
    (scalar : v < 0xD800 ∨ 0xDFFF < v ∧ v < 0x110000) (low : 0x7FF < v) (high : v ≤ 0xFFFF) :
    (if b = 0xE0 then 0xA0 else 0x80 : UInt8).toNat ≤ v / 64 % 64 + 0x80 ∧
      v / 64 % 64 + 0x80 ≤ (if b = 0xED then 0x9F else 0xBF : UInt8).toNat := by
  simp only [← UInt8.toNat_inj, lead]
  constructor <;> split <;> simp at * <;> omega

/-- The second of four bytes leaves out overlong forms and what lies above the last character. -/
theorem second_four {b : UInt8} {v : Nat} (lead : b.toNat = v / 262144 + 0xF0)
    (scalar : v < 0xD800 ∨ 0xDFFF < v ∧ v < 0x110000) (low : 0xFFFF < v) :
    (if b = 0xF0 then 0x90 else 0x80 : UInt8).toNat ≤ v / 4096 % 64 + 0x80 ∧
      v / 4096 % 64 + 0x80 ≤ (if b = 0xF4 then 0x8F else 0xBF : UInt8).toNat := by
  simp only [← UInt8.toNat_inj, lead]
  constructor <;> split <;> simp at * <;> omega

theorem firstChar_utf8EncodeChar (c : Char) :
    ∃ b bs, String.utf8EncodeChar c = b :: bs ∧ firstChar b bs = .char c [] := by
  have scalar := isScalar c
  have whole : Char.ofNat c.toNat = c := Char.ofNat_toNat c
  have value : c.val.toNat = c.toNat := rfl
  generalize hv : c.toNat = v at *
  unfold String.utf8EncodeChar
  simp only [value]
  split
  next one =>
    have lead : (UInt8.ofNat v).toNat = v := by rw [UInt8.toNat_ofNat']; omega
    refine ⟨_, _, rfl, ?_⟩
    simp only [firstChar, lead?_one (b := UInt8.ofNat v) (by omega), following, lead, whole]
  split
  next two =>
    have lead : (UInt8.ofNat (v / 64 % 32 + 0xC0)).toNat = v / 64 + 0xC0 := by
      rw [UInt8.toNat_ofNat']; omega
    have code : (v / 64 + 0xC0 - 0xC0) * 64 + (v % 64 + 0x80 - 0x80) = v := by omega
    refine ⟨_, _, rfl, ?_⟩
    simp only [firstChar, lead?_two (b := UInt8.ofNat (v / 64 % 32 + 0xC0)) (by omega) (by omega)]
    rw [following_cons ⟨by rw [toNat_tail]; simp, by rw [toNat_tail]; simp; omega⟩]
    simp only [following, lead, toNat_tail, code, whole]
  split
  next three =>
    have lead : (UInt8.ofNat (v / 4096 % 16 + 0xE0)).toNat = v / 4096 + 0xE0 := by
      rw [UInt8.toNat_ofNat']; omega
    have code : ((v / 4096 + 0xE0 - 0xE0) * 64 + (v / 64 % 64 + 0x80 - 0x80)) * 64 +
        (v % 64 + 0x80 - 0x80) = v := by omega
    refine ⟨_, _, rfl, ?_⟩
    simp only [firstChar,
      lead?_three (b := UInt8.ofNat (v / 4096 % 16 + 0xE0)) (by omega) (by omega)]
    rw [following_cons (by rw [toNat_tail]; exact second_three lead scalar (by omega) (by omega)),
      following_cons ⟨by rw [toNat_tail]; simp, by rw [toNat_tail]; simp; omega⟩]
    simp only [following, lead, toNat_tail, code, whole]
  next four =>
    have lead : (UInt8.ofNat (v / 262144 % 8 + 0xF0)).toNat = v / 262144 + 0xF0 := by
      rw [UInt8.toNat_ofNat']; omega
    have code : (((v / 262144 + 0xF0 - 0xF0) * 64 + (v / 4096 % 64 + 0x80 - 0x80)) * 64 +
        (v / 64 % 64 + 0x80 - 0x80)) * 64 + (v % 64 + 0x80 - 0x80) = v := by omega
    refine ⟨_, _, rfl, ?_⟩
    simp only [firstChar,
      lead?_four (b := UInt8.ofNat (v / 262144 % 8 + 0xF0)) (by omega) (by omega)]
    rw [following_cons (by rw [toNat_tail]; exact second_four lead scalar (by omega)),
      following_cons ⟨by rw [toNat_tail]; simp, by rw [toNat_tail]; simp; omega⟩,
      following_cons ⟨by rw [toNat_tail]; simp, by rw [toNat_tail]; simp; omega⟩]
    simp only [following, lead, toNat_tail, code, whole]

theorem eq_ofNat {b : UInt8} {n : Nat} (h : n = b.toNat) : UInt8.ofNat n = b := by
  rw [h, UInt8.ofNat_toNat]

theorem utf8EncodeChar_two {a x : UInt8} (ha : 0xC2 ≤ a.toNat ∧ a.toNat < 0xE0)
    (hx : 0x80 ≤ x.toNat ∧ x.toNat ≤ 0xBF) :
    String.utf8EncodeChar (Char.ofNat ((a.toNat - 0xC0) * 64 + (x.toNat - 0x80))) = [a, x] := by
  have value := toNat_ofNat (n := (a.toNat - 0xC0) * 64 + (x.toNat - 0x80)) (by omega)
  unfold String.utf8EncodeChar
  simp only [show ∀ c : Char, c.val.toNat = c.toNat from fun _ => rfl, value]
  rw [if_neg (by omega), if_pos (by omega), eq_ofNat (b := a) (by omega),
    eq_ofNat (b := x) (by omega)]

theorem utf8EncodeChar_three {a x y : UInt8} (ha : 0xE0 ≤ a.toNat ∧ a.toNat < 0xF0)
    (hx : (if a = 0xE0 then 0xA0 else 0x80 : UInt8).toNat ≤ x.toNat ∧
      x.toNat ≤ (if a = 0xED then 0x9F else 0xBF : UInt8).toNat)
    (hy : 0x80 ≤ y.toNat ∧ y.toNat ≤ 0xBF) :
    String.utf8EncodeChar (Char.ofNat
      (((a.toNat - 0xE0) * 64 + (x.toNat - 0x80)) * 64 + (y.toNat - 0x80))) = [a, x, y] := by
  have low : a.toNat = 0xE0 → 0xA0 ≤ x.toNat := fun h => by
    have : a = 0xE0 := UInt8.toNat_inj.mp h
    simpa [this] using hx.1
  have high : a.toNat = 0xED → x.toNat ≤ 0x9F := fun h => by
    have : a = 0xED := UInt8.toNat_inj.mp h
    simpa [this] using hx.2
  have tail : 0x80 ≤ x.toNat ∧ x.toNat ≤ 0xBF := by
    refine ⟨Nat.le_trans ?_ hx.1, Nat.le_trans hx.2 ?_⟩ <;> split <;> simp
  have value := toNat_ofNat
    (n := ((a.toNat - 0xE0) * 64 + (x.toNat - 0x80)) * 64 + (y.toNat - 0x80)) (by omega)
  unfold String.utf8EncodeChar
  simp only [show ∀ c : Char, c.val.toNat = c.toNat from fun _ => rfl, value]
  rw [if_neg (by omega), if_neg (by omega), if_pos (by omega), eq_ofNat (b := a) (by omega),
    eq_ofNat (b := x) (by omega), eq_ofNat (b := y) (by omega)]

theorem utf8EncodeChar_four {a x y z : UInt8} (ha : 0xF0 ≤ a.toNat ∧ a.toNat < 0xF5)
    (hx : (if a = 0xF0 then 0x90 else 0x80 : UInt8).toNat ≤ x.toNat ∧
      x.toNat ≤ (if a = 0xF4 then 0x8F else 0xBF : UInt8).toNat)
    (hy : 0x80 ≤ y.toNat ∧ y.toNat ≤ 0xBF) (hz : 0x80 ≤ z.toNat ∧ z.toNat ≤ 0xBF) :
    String.utf8EncodeChar (Char.ofNat ((((a.toNat - 0xF0) * 64 + (x.toNat - 0x80)) * 64 +
      (y.toNat - 0x80)) * 64 + (z.toNat - 0x80))) = [a, x, y, z] := by
  have low : a.toNat = 0xF0 → 0x90 ≤ x.toNat := fun h => by
    have : a = 0xF0 := UInt8.toNat_inj.mp h
    simpa [this] using hx.1
  have high : a.toNat = 0xF4 → x.toNat ≤ 0x8F := fun h => by
    have : a = 0xF4 := UInt8.toNat_inj.mp h
    simpa [this] using hx.2
  have tail : 0x80 ≤ x.toNat ∧ x.toNat ≤ 0xBF := by
    refine ⟨Nat.le_trans ?_ hx.1, Nat.le_trans hx.2 ?_⟩ <;> split <;> simp
  have value := toNat_ofNat (n := (((a.toNat - 0xF0) * 64 + (x.toNat - 0x80)) * 64 +
    (y.toNat - 0x80)) * 64 + (z.toNat - 0x80)) (by omega)
  unfold String.utf8EncodeChar
  simp only [show ∀ c : Char, c.val.toNat = c.toNat from fun _ => rfl, value]
  rw [if_neg (by omega), if_neg (by omega), if_neg (by omega), eq_ofNat (b := a) (by omega),
    eq_ofNat (b := x) (by omega), eq_ofNat (b := y) (by omega), eq_ofNat (b := z) (by omega)]

theorem following_eq_char {k n : Nat} {low high : UInt8} {bs rest : List UInt8} {c : Char}
    (h : following (k + 1) low high n bs = .char c rest) :
    ∃ x more, bs = x :: more ∧ (low.toNat ≤ x.toNat ∧ x.toNat ≤ high.toNat) ∧
      following k 0x80 0xBF (n * 64 + (x.toNat - 0x80)) more = .char c rest := by
  cases bs with
  | nil => simp [following] at h
  | cons x more =>
    unfold following at h
    split at h
    next inside => exact ⟨x, more, rfl, by simpa [UInt8.le_iff_toNat_le] using inside, h⟩
    next => cases h

theorem lead_cases (b : UInt8) : b.toNat < 0x80 ∨ (0xC2 ≤ b.toNat ∧ b.toNat < 0xE0) ∨
    (0xE0 ≤ b.toNat ∧ b.toNat < 0xF0) ∨ (0xF0 ≤ b.toNat ∧ b.toNat < 0xF5) ∨
    (0x80 ≤ b.toNat ∧ b.toNat < 0xC2 ∨ 0xF5 ≤ b.toNat) := by
  omega

theorem eq_encoding_of_firstChar {b : UInt8} {bs rest : List UInt8} {c : Char}
    (h : firstChar b bs = .char c rest) : b :: bs = String.utf8EncodeChar c ++ rest := by
  rcases lead_cases b with one | two | three | four | no
  · simp only [firstChar, lead?_one one, following, First.char.injEq] at h
    obtain ⟨rfl, rfl⟩ := h
    have value := toNat_ofNat (n := b.toNat) (by omega)
    unfold String.utf8EncodeChar
    simp only [show ∀ c : Char, c.val.toNat = c.toNat from fun _ => rfl, value]
    rw [if_pos (by omega), eq_ofNat rfl]
    rfl
  · simp only [firstChar, lead?_two two.1 two.2] at h
    obtain ⟨x, bs, rfl, hx, h⟩ := following_eq_char h
    simp only [following, First.char.injEq] at h
    obtain ⟨rfl, rfl⟩ := h
    rw [utf8EncodeChar_two two (by simpa using hx)]
    rfl
  · simp only [firstChar, lead?_three three.1 three.2] at h
    obtain ⟨x, bs, rfl, hx, h⟩ := following_eq_char h
    obtain ⟨y, bs, rfl, hy, h⟩ := following_eq_char h
    simp only [following, First.char.injEq] at h
    obtain ⟨rfl, rfl⟩ := h
    rw [utf8EncodeChar_three three hx (by simpa using hy)]
    rfl
  · simp only [firstChar, lead?_four four.1 four.2] at h
    obtain ⟨x, bs, rfl, hx, h⟩ := following_eq_char h
    obtain ⟨y, bs, rfl, hy, h⟩ := following_eq_char h
    obtain ⟨z, bs, rfl, hz, h⟩ := following_eq_char h
    simp only [following, First.char.injEq] at h
    obtain ⟨rfl, rfl⟩ := h
    rw [utf8EncodeChar_four four hx (by simpa using hy) (by simpa using hz)]
    rfl
  · simp [firstChar, lead?_none no] at h

/-- Nothing that follows changes what has been found, unless the bytes were cut. -/
theorem following_append (k : Nat) (low high : UInt8) (n : Nat) (bs more : List UInt8) :
    (∀ c rest, following k low high n bs = .char c rest →
        following k low high n (bs ++ more) = .char c (rest ++ more)) ∧
      (∀ rest, following k low high n bs = .bad rest →
        following k low high n (bs ++ more) = .bad (rest ++ more)) := by
  induction k generalizing low high n bs with
  | zero =>
    refine ⟨fun c rest h => ?_, fun rest h => by simp [following] at h⟩
    simp only [following, First.char.injEq] at h ⊢
    exact ⟨h.1, by rw [h.2]⟩
  | succ k ih =>
    cases bs with
    | nil => simp [following]
    | cons b bs =>
      simp only [List.cons_append, following]
      split
      · exact ih _ _ _ _
      · refine ⟨fun c rest h => (by cases h), fun rest h => ?_⟩
        simp only [First.bad.injEq] at h ⊢
        rw [← h, List.cons_append]

theorem firstChar_append_char {b : UInt8} {bs rest : List UInt8} {c : Char}
    (h : firstChar b bs = .char c rest) (more : List UInt8) :
    firstChar b (bs ++ more) = .char c (rest ++ more) := by
  unfold firstChar at h ⊢
  cases hl : lead? b with
  | none => simp [hl] at h
  | some l =>
    simp only [hl] at h ⊢
    exact (following_append _ _ _ _ bs more).1 c rest h

theorem firstChar_append_bad {b : UInt8} {bs rest : List UInt8}
    (h : firstChar b bs = .bad rest) (more : List UInt8) :
    firstChar b (bs ++ more) = .bad (rest ++ more) := by
  unfold firstChar at h ⊢
  cases hl : lead? b with
  | none =>
    simp only [hl, First.bad.injEq] at h ⊢
    rw [h]
  | some l =>
    simp only [hl] at h ⊢
    exact (following_append _ _ _ _ bs more).2 rest h

theorem lead?_range {b : UInt8} {l : Lead} (h : lead? b = some l) : l.low.toNat ≤ l.high.toNat := by
  rcases lead_cases b with one | two | three | four | no
  · simp only [lead?_one one, Option.some.injEq] at h
    subst h
    simp
  · simp only [lead?_two two.1 two.2, Option.some.injEq] at h
    subst h
    simp
  · simp only [lead?_three three.1 three.2, Option.some.injEq] at h
    subst h
    dsimp only
    split <;> split <;> simp_all
  · simp only [lead?_four four.1 four.2, Option.some.injEq] at h
    subst h
    dsimp only
    split <;> split <;> simp_all
  · simp [lead?_none no] at h

/-- Bytes that were cut can be completed, each missing byte being the least one possible. -/
theorem following_completion {k : Nat} {low high : UInt8} {n : Nat} {bs : List UInt8}
    (range : low.toNat ≤ high.toNat) (h : following k low high n bs = .cut) :
    ∃ more c, more ≠ [] ∧ following k low high n (bs ++ more) = .char c [] := by
  induction k generalizing low high n bs with
  | zero => simp [following] at h
  | succ k ih =>
    cases bs with
    | nil =>
      have rest (k n : Nat) : ∃ more c, following k 0x80 0xBF n more = .char c [] := by
        induction k generalizing n with
        | zero => exact ⟨[], Char.ofNat n, rfl⟩
        | succ k ih =>
          obtain ⟨more, c, eq⟩ := ih (n * 64 + ((0x80 : UInt8).toNat - 0x80))
          exact ⟨0x80 :: more, c, by rw [following_cons (by simp)]; exact eq⟩
      obtain ⟨more, c, eq⟩ := rest k (n * 64 + (low.toNat - 0x80))
      exact ⟨low :: more, c, by simp, by
        rw [List.nil_append, following_cons ⟨Nat.le_refl _, range⟩]; exact eq⟩
    | cons b bs =>
      simp only [List.cons_append, following] at h ⊢
      split at h
      next inside =>
        simp only [inside, and_self, ↓reduceIte]
        exact ih (by simp) h
      next => cases h

/-- Bytes that begin a character without being one are a proper beginning of an encoding. -/
theorem firstChar_cut {b : UInt8} {bs : List UInt8} (h : firstChar b bs = .cut) :
    ∃ more c, more ≠ [] ∧ String.utf8EncodeChar c = b :: bs ++ more := by
  unfold firstChar at h
  cases hl : lead? b with
  | none => simp [hl] at h
  | some l =>
    simp only [hl] at h
    obtain ⟨more, c, some, eq⟩ := following_completion (lead?_range hl) h
    have found : firstChar b (bs ++ more) = .char c [] := by simp only [firstChar, hl, eq]
    exact ⟨more, c, some, by simpa using (eq_encoding_of_firstChar found).symm⟩

theorem following_bad {k : Nat} {low high : UInt8} {n : Nat} {bs rest : List UInt8}
    (h : following k low high n bs = .bad rest) :
    ∃ sub x more, bs = sub ++ x :: more ∧ rest = x :: more ∧ following k low high n sub = .cut ∧
      following k low high n (sub ++ [x]) = .bad [x] := by
  induction k generalizing low high n bs with
  | zero => simp [following] at h
  | succ k ih =>
    cases bs with
    | nil => simp [following] at h
    | cons b bs =>
      unfold following at h
      split at h
      next inside =>
        obtain ⟨sub, x, more, eq, last, cut, bad⟩ := ih h
        exact ⟨b :: sub, x, more, by rw [eq]; rfl, last, by simp [following, inside, cut],
          by simp [following, inside, bad]⟩
      next outside =>
        simp only [First.bad.injEq] at h
        exact ⟨[], b, bs, rfl, h.symm, rfl, by simp [following, outside]⟩

/-- Where bytes go wrong, those before have begun a character, unless already the first is no lead.
-/
theorem firstChar_bad {b : UInt8} {bs rest : List UInt8} (h : firstChar b bs = .bad rest) :
    lead? b = none ∧ rest = bs ∨
      ∃ sub x more, bs = sub ++ x :: more ∧ rest = x :: more ∧ firstChar b sub = .cut ∧
        firstChar b (sub ++ [x]) = .bad [x] := by
  unfold firstChar at h
  cases hl : lead? b with
  | none =>
    simp only [hl, First.bad.injEq] at h
    exact Or.inl ⟨rfl, h.symm⟩
  | some l =>
    simp only [hl] at h
    obtain ⟨sub, x, more, eq, last, cut, bad⟩ := following_bad h
    exact Or.inr ⟨sub, x, more, eq, last, by simp only [firstChar, hl, cut],
      by simp only [firstChar, hl, bad]⟩

theorem firstChar_eq_char_iff {b : UInt8} {bs rest : List UInt8} {c : Char} :
    firstChar b bs = .char c rest ↔ b :: bs = String.utf8EncodeChar c ++ rest := by
  refine ⟨eq_encoding_of_firstChar, fun h => ?_⟩
  obtain ⟨b', bs', enc, found⟩ := firstChar_utf8EncodeChar c
  obtain ⟨rfl, rfl⟩ : b = b' ∧ bs = bs' ++ rest := by simpa [enc] using h
  exact firstChar_append_char found rest

theorem strict?_encode (cs : List Char) : strict? (encode cs) = some cs := by
  induction cs with
  | nil => rw [encode, List.flatMap_nil, strict?]
  | cons c cs ih =>
    obtain ⟨b, bs, enc, -⟩ := firstChar_utf8EncodeChar c
    have found : firstChar b (bs ++ encode cs) = .char c (encode cs) :=
      firstChar_eq_char_iff.mpr (by rw [enc, List.cons_append])
    have bytes : encode (c :: cs) = b :: (bs ++ encode cs) := by
      rw [encode, List.flatMap_cons, enc, List.cons_append, encode]
    rw [bytes, strict?]
    split <;> simp_all

def Begins (bs : List UInt8) : Prop := ∃ c, bs <+: String.utf8EncodeChar c

theorem Begins.of_prefix {sub bs : List UInt8} (h : Begins bs) (front : sub <+: bs) : Begins sub :=
  let ⟨c, enc⟩ := h
  ⟨c, front.trans enc⟩

theorem begins_of_cut {b : UInt8} {bs : List UInt8} (h : firstChar b bs = .cut) :
    Begins (b :: bs) := by
  obtain ⟨more, c, -, eq⟩ := firstChar_cut h
  exact ⟨c, more, eq.symm⟩

theorem not_begins_of_bad {b : UInt8} {bs rest : List UInt8} (h : firstChar b bs = .bad rest) :
    ¬ Begins (b :: bs) := by
  rintro ⟨c, more, eq⟩
  have found : firstChar b (bs ++ more) = .char c [] :=
    firstChar_eq_char_iff.mpr (by simpa using eq)
  rw [firstChar_append_bad h] at found
  cases found

end HostWatch.Text.Utf8
