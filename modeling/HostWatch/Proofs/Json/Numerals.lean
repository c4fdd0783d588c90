import HostWatch.Proofs.Json.Spelling

namespace HostWatch.Json

open Text.Utf8 (encode)

def isNumeric (c : Char) : Bool := c.isDigit || c ∈ ['.', 'e', 'E', '+', '-']

def SpellsSingle (t : Number.Single) : Language := fun w =>
  (∀ c ∈ w, isNumeric c) ∧ readAll single (encode w) = .ok t

def Stops (more : List UInt8) : Prop := ∀ b ∈ more.head?, ¬ isNumeric (Char.ofNat b.toNat)

/-- What a reader takes from some bytes it takes from them also when more follow, which are left
over with the rest of them. -/
def FramedAt {α : Type} (r : Read α) (bs : List UInt8) : Prop :=
  ∀ p v c, r ⟨bs, p⟩ = .ok (v, c) → c.rest <:+ bs ∧
    ∀ more q, Stops more → ∃ q', r ⟨bs ++ more, q⟩ = .ok (v, ⟨c.rest ++ more, q'⟩)

section Frames

variable {α β : Type} {r : Read α} {f : α → Read β} {bs : List UInt8} {b : UInt8}

theorem framedAt_pure (v : α) (bs : List UInt8) : FramedAt (pure v) bs := by
  rintro p v' c ⟨⟩
  exact ⟨List.suffix_refl bs, fun more q _ => ⟨q, rfl⟩⟩

theorem framedAt_fail (p : Problem) : FramedAt (Read.fail p : Read α) bs := fun _ _ _ => nofun

theorem framedAt_failNext (p : Problem) : FramedAt (Read.failNext p : Read α) bs :=
  fun _ _ _ => nofun

theorem FramedAt.bind (h : FramedAt r bs) (h' : ∀ v left, FramedAt (f v) left) :
    FramedAt (r >>= f) bs := by
  intro p w c took
  change (r ⟨bs, p⟩).bind (fun q => f q.1 q.2) = _ at took
  cases first : r ⟨bs, p⟩ with
  | error e =>
    rw [first] at took
    cases took
  | ok q =>
    obtain ⟨v, middle⟩ := q
    rw [first] at took
    obtain ⟨within, framed⟩ := h p v middle first
    obtain ⟨within', framed'⟩ := h' v middle.rest middle.position w c took
    refine ⟨within'.trans within, fun more q stops => ?_⟩
    obtain ⟨q', eq⟩ := framed more q stops
    obtain ⟨q'', eq'⟩ := framed' more q' stops
    refine ⟨q'', ?_⟩
    change (r ⟨bs ++ more, q⟩).bind (fun q => f q.1 q.2) = _
    rw [eq]
    exact eq'

theorem framedAt_advance {f : Unit → Read β} (h : FramedAt (f ()) bs) :
    FramedAt (Read.advance >>= f) (b :: bs) := by
  intro p w c took
  obtain ⟨within, framed⟩ := h (p.after b) w c took
  exact ⟨within.trans (List.suffix_cons b bs), fun more q stops => framed more (q.after b) stops⟩

theorem framedAt_peek {f : Option Char → Read β}
    (h : FramedAt (f (some (Char.ofNat b.toNat))) (b :: bs)) :
    FramedAt (Read.peek >>= f) (b :: bs) := by
  intro p w c took
  obtain ⟨within, framed⟩ := h p w c took
  exact ⟨within, fun more q stops => framed more q stops⟩

/-- At the end, where a reader goes on as it does before a character that ends numbers. -/
theorem framedAt_peek_end {f : Option Char → Read β} (h : FramedAt (f none) [])
    (same : ∀ c, ¬ isNumeric c → f (some c) = f none) : FramedAt (Read.peek >>= f) [] := by
  intro p w c took
  obtain ⟨within, framed⟩ := h p w c took
  refine ⟨within, fun more q stops => ?_⟩
  cases more with
  | nil => exact framed [] q stops
  | cons b more =>
    obtain ⟨q', eq⟩ := framed (b :: more) q stops
    refine ⟨q', ?_⟩
    change f (some (Char.ofNat b.toNat)) ⟨b :: more, q⟩ = _
    rw [same _ (stops b rfl)]
    exact eq

end Frames

namespace Numeral

section Parts

variable {bs : List UInt8} {b : UInt8}

theorem not_digit_of_stops {more : List UInt8} (stops : Stops (b :: more)) :
    ¬ (0x30 ≤ b ∧ b ≤ 0x39) := by
  intro digit
  refine stops b rfl ?_
  have all : ∀ n : Fin 10, isNumeric (Char.ofNat (0x30 + n.val)) := by decide
  rw [UInt8.le_iff_toNat_le, UInt8.le_iff_toNat_le] at digit
  change 0x30 ≤ b.toNat ∧ b.toNat ≤ 0x39 at digit
  have here := all ⟨b.toNat - 0x30, by omega⟩
  rwa [Nat.add_sub_cancel' digit.1] at here

theorem framedAt_readDigits (bs : List UInt8) : FramedAt readDigits bs := by
  have go (bs : List UInt8) (p : Position) : (digitsAt.go bs p).2.rest <:+ bs ∧
      ∀ more q, Stops more → ∃ q', digitsAt.go (bs ++ more) q =
        ((digitsAt.go bs p).1, ⟨(digitsAt.go bs p).2.rest ++ more, q'⟩) := by
    induction bs generalizing p with
    | nil =>
      refine ⟨List.suffix_refl [], fun more q stops => ⟨q, ?_⟩⟩
      cases more with
      | nil => rfl
      | cons b more => exact if_neg (not_digit_of_stops stops)
    | cons b bs ih =>
      obtain ⟨within, framed⟩ := ih (p.after b)
      by_cases digit : 0x30 ≤ b ∧ b ≤ 0x39
      · have took (bs : List UInt8) (p : Position) : digitsAt.go (b :: bs) p =
            ((b.toNat - 0x30) :: (digitsAt.go bs (p.after b)).1, (digitsAt.go bs (p.after b)).2) :=
          if_pos digit
        rw [took]
        refine ⟨within.trans (List.suffix_cons b bs), fun more q stops => ?_⟩
        obtain ⟨q', eq⟩ := framed more (q.after b) stops
        refine ⟨q', ?_⟩
        rw [List.cons_append, took, eq]
      · have left (bs : List UInt8) (p : Position) :
            digitsAt.go (b :: bs) p = ([], ⟨b :: bs, p⟩) := if_neg digit
        rw [left]
        exact ⟨List.suffix_refl _, fun more q _ => ⟨q, left _ _⟩⟩
  intro p v c took
  have same : digitsAt.go bs p = (v, c) := Except.ok.inj took
  obtain ⟨within, framed⟩ := same ▸ go bs p
  refine ⟨within, fun more q stops => ?_⟩
  obtain ⟨q', eq⟩ := framed more q stops
  exact ⟨q', congrArg Except.ok eq⟩

theorem framedAt_exponentDigits (n : Nat) (bs : List UInt8) :
    FramedAt (fun c => .ok (exponentDigits n c.rest c.position) : Read (Option Nat)) bs := by
  have go (n : Nat) (p : Position) : (exponentDigits n bs p).2.rest <:+ bs ∧
      ∀ more q, Stops more → ∃ q', exponentDigits n (bs ++ more) q =
        ((exponentDigits n bs p).1, ⟨(exponentDigits n bs p).2.rest ++ more, q'⟩) := by
    induction bs generalizing n p with
    | nil =>
      refine ⟨List.suffix_refl [], fun more q stops => ⟨q, ?_⟩⟩
      cases more with
      | nil => rfl
      | cons b more => exact if_neg (not_digit_of_stops stops)
    | cons b bs ih =>
      by_cases digit : 0x30 ≤ b ∧ b ≤ 0x39
      · by_cases past : maxExponent < n * 10 + (b.toNat - 0x30)
        · have last (bs : List UInt8) (p : Position) :
              exponentDigits n (b :: bs) p = (none, ⟨bs, p.after b⟩) := by
            simp only [exponentDigits, digit, past, if_true, and_self]
          rw [last]
          exact ⟨List.suffix_cons b bs, fun more q _ => ⟨_, last _ _⟩⟩
        · have took (bs : List UInt8) (p : Position) : exponentDigits n (b :: bs) p =
              exponentDigits (n * 10 + (b.toNat - 0x30)) bs (p.after b) := by
            simp only [exponentDigits, digit, past, if_true, and_self, if_false]
          obtain ⟨within, framed⟩ := ih (n * 10 + (b.toNat - 0x30)) (p.after b)
          rw [took]
          refine ⟨within.trans (List.suffix_cons b bs), fun more q stops => ?_⟩
          obtain ⟨q', eq⟩ := framed more (q.after b) stops
          exact ⟨q', (took _ _).trans eq⟩
      · have left (bs : List UInt8) (p : Position) :
            exponentDigits n (b :: bs) p = (some n, ⟨b :: bs, p⟩) := if_neg digit
        rw [left]
        exact ⟨List.suffix_refl _, fun more q _ => ⟨q, left _ _⟩⟩
  intro p v c took
  have same : exponentDigits n bs p = (v, c) := Except.ok.inj took
  obtain ⟨within, framed⟩ := same ▸ go n p
  refine ⟨within, fun more q stops => ?_⟩
  obtain ⟨q', eq⟩ := framed more q stops
  exact ⟨q', congrArg Except.ok eq⟩

theorem framedAt_scaled (positive : Bool) (significand : Nat) (exponent : Int)
    (bs : List UInt8) : FramedAt (scaled positive significand exponent) bs := by
  unfold scaled
  dsimp only
  split
  · exact framedAt_pure _ bs
  split
  · split
    · exact framedAt_pure _ bs
    · exact framedAt_fail _
  · split
    · exact framedAt_fail _
    · exact framedAt_pure _ bs

theorem framedAt_unsigned (positive : Bool) (significand : Nat) (exponent : Int) (up : Bool)
    (bs : List UInt8) : FramedAt (do
      match ← Read.peek with
      | none => Read.fail .endInValue
      | some d =>
        if !(Number.digit? d).isSome then
          Read.advance
          Read.fail .badNumber
        else
          match ← (fun c => .ok (exponentDigits 0 c.rest c.position) : Read (Option Nat)) with
          | some k => scaled positive significand (if up then exponent + k else exponent - k)
          | none =>
            if significand ≠ 0 ∧ up then Read.fail .numberOutOfRange
            else
              let _ ← readDigits
              return .finite (!positive) 0 Number.Format.double.minExponent) bs := by
  cases bs with
  | nil => exact fun _ _ _ => nofun
  | cons b bs =>
    refine framedAt_peek ?_
    dsimp only
    split
    · exact framedAt_advance (framedAt_fail _)
    refine (framedAt_exponentDigits 0 _).bind fun k left => ?_
    cases k with
    | some k => exact framedAt_scaled _ _ _ _
    | none =>
      dsimp only
      split
      · exact framedAt_fail _
      · exact (framedAt_readDigits _).bind fun _ _ => framedAt_pure _ _

theorem framedAt_withExponent (positive : Bool) (significand : Nat) (exponent : Int) :
    FramedAt (withExponent positive significand exponent) (b :: bs) := by
  refine framedAt_advance ?_
  cases bs with
  | nil => exact fun _ _ _ => nofun
  | cons b bs =>
    refine framedAt_peek ?_
    dsimp only
    split
    · exact framedAt_advance (framedAt_unsigned positive significand exponent true bs)
    · exact framedAt_advance (framedAt_unsigned positive significand exponent false bs)
    · exact framedAt_unsigned positive significand exponent true _

theorem framedAt_withFraction (positive : Bool) (significand : Nat) (exponent : Int) :
    FramedAt (withFraction positive significand exponent) (b :: bs) := by
  refine framedAt_advance ((framedAt_readDigits bs).bind fun ds left => ?_)
  dsimp only
  split
  · cases left with
    | nil => exact fun _ _ _ => nofun
    | cons b left => exact framedAt_peek (framedAt_failNext _)
  · cases left with
    | nil =>
      refine framedAt_peek_end (framedAt_scaled _ _ _ []) fun c other => ?_
      split
      next mark => cases mark; exact absurd rfl other
      next mark => cases mark; exact absurd rfl other
      next => rfl
    | cons b left =>
      refine framedAt_peek ?_
      split
      · exact framedAt_withExponent _ _ _
      · exact framedAt_withExponent _ _ _
      · exact framedAt_scaled _ _ _ _

theorem framedAt_integer (positive : Bool) (significand dropped : Nat) (bs : List UInt8) :
    FramedAt (do
      if dropped ≠ 0 then return .float (← scaled positive significand dropped)
      else if positive then return .natural significand
      else if significand = 0 ∨ Nat.pow 2 63 < significand then
        return .float (Number.Format.double.ofNat significand).neg
      else return .negative significand : Read Numeral) bs := by
  split
  · exact (framedAt_scaled _ _ _ _).bind fun _ _ => framedAt_pure _ _
  split
  · exact framedAt_pure _ _
  split
  · exact framedAt_pure _ _
  · exact framedAt_pure _ _

theorem digit?_of_not_isNumeric {c : Char} (h : ¬ isNumeric c) : Number.digit? c = none := by
  have other : ¬ c.isDigit := fun digit => h (by rw [isNumeric, digit, Bool.true_or])
  have range : ¬ ('0' ≤ c ∧ c ≤ '9') := by
    simpa [Char.isDigit, Char.le_def] using other
  exact if_neg range

theorem framedAt_read (positive : Bool) (bs : List UInt8) : FramedAt (read positive) bs := by
  unfold read
  cases bs with
  | nil => exact fun _ _ _ => nofun
  | cons b bs =>
    refine framedAt_peek ?_
    dsimp only
    split
    · exact framedAt_advance (framedAt_fail _)
    split
    on_goal 1 => refine framedAt_advance ((framedAt_pure [] bs).bind ?_)
    on_goal 2 => refine (framedAt_readDigits _).bind ?_
    -- a number goes on in one way, after a leading zero and after other digits
    all_goals
      intro ds left
      cases left with
      | nil =>
        refine framedAt_peek_end ?_ fun c other => ?_
        · simp only [Option.bind_none, Option.isSome_none, Bool.false_eq_true, and_false, if_false]
          exact framedAt_integer _ _ _ _
        · simp only [Option.bind_some, digit?_of_not_isNumeric other, Option.bind_none]
          congr 1
          split
          next mark => cases mark; exact absurd rfl other
          next mark => cases mark; exact absurd rfl other
          next mark => cases mark; exact absurd rfl other
          next => rfl
      | cons b left =>
        refine framedAt_peek ?_
        split
        · exact framedAt_failNext _
        split
        · exact (framedAt_withFraction _ _ _).bind fun _ _ => framedAt_pure _ _
        · exact (framedAt_withExponent _ _ _).bind fun _ _ => framedAt_pure _ _
        · exact (framedAt_withExponent _ _ _).bind fun _ _ => framedAt_pure _ _
        · exact framedAt_integer _ _ _ _

end Parts

end Numeral

section Whole

variable {b : UInt8} {bs : List UInt8}

theorem not_isBlank_of_isNumeric (h : isNumeric (Char.ofNat b.toNat)) :
    ¬ Cursor.isBlank b := by
  intro blank
  simp only [Cursor.isBlank, Bool.or_eq_true, decide_eq_true_eq] at blank
  rcases blank with ((rfl | rfl) | rfl) | rfl <;> exact absurd h (by decide)

theorem skipBlanks_of_solid (solid : ¬ Cursor.isBlank b) (p : Position) :
    Cursor.skipBlanks ⟨b :: bs, p⟩ = ⟨b :: bs, p⟩ := if_neg solid

theorem token_of_solid {β : Type} {f : Option Char → Read β} (solid : ¬ Cursor.isBlank b)
    (bs : List UInt8) (p : Position) :
    (Read.token >>= f) ⟨b :: bs, p⟩ = f (some (Char.ofNat b.toNat)) ⟨b :: bs, p⟩ := by
  change f (Cursor.skipBlanks ⟨b :: bs, p⟩).peek (Cursor.skipBlanks ⟨b :: bs, p⟩) = _
  rw [skipBlanks_of_solid solid]
  rfl

theorem framedAt_token {β : Type} {f : Option Char → Read β} (solid : ¬ Cursor.isBlank b)
    (h : FramedAt (f (some (Char.ofNat b.toNat))) (b :: bs)) :
    FramedAt (Read.token >>= f) (b :: bs) := by
  intro p w c took
  rw [token_of_solid solid] at took
  obtain ⟨within, framed⟩ := h p w c took
  refine ⟨within, fun more q stops => ?_⟩
  rw [List.cons_append, token_of_solid solid]
  exact framed more q stops

/-- White space before a value is passed over by a reader that looks for the value first. -/
theorem reads_after_gap {β : Type} {f : Option Char → Read β} {gap cs rest : List Char} {c : Char}
    {v : β} (blank : Blank gap) (ascii : isAscii c) (solid : ¬ isGap c)
    (h : Reads (Read.token >>= f) (c :: cs) v rest) :
    Reads (Read.token >>= f) (gap ++ c :: cs) v rest := by
  refine (reads_token blank ascii solid).bind fun p => ?_
  have byte : ¬ Cursor.isBlank (UInt8.ofNat c.toNat) := by rwa [isBlank_ascii ascii]
  obtain ⟨p', took⟩ := h p
  rw [encode_ascii ascii, token_of_solid byte, toNat_ascii ascii, Char.ofNat_toNat] at took
  exact ⟨p', by rw [encode_ascii ascii, took]⟩

/-- What begins as a number but with neither a digit nor a minus sign is no value at all. -/
theorem framedAt_wrongType {α : Type} (wanted : String)
    (h : Char.ofNat b.toNat ∈ ['.', 'e', 'E', '+']) :
    FramedAt (wrongType wanted : Read α) (b :: bs) := by
  refine framedAt_peek ?_
  generalize Char.ofNat b.toNat = c at h
  simp only [List.mem_cons, List.not_mem_nil, or_false] at h
  rcases h with rfl | rfl | rfl | rfl <;> exact framedAt_failNext _

theorem framedAt_numeral (wanted : String) (h : isNumeric (Char.ofNat b.toNat)) :
    FramedAt (numeral wanted) (b :: bs) := by
  refine framedAt_token (not_isBlank_of_isNumeric h) ?_
  have wrong : Char.ofNat b.toNat ∈ ['.', 'e', 'E', '+'] →
      FramedAt (wrongType wanted : Read Numeral) (b :: bs) := framedAt_wrongType wanted
  generalize Char.ofNat b.toNat = c at h wrong
  split
  next none => cases none
  next => exact framedAt_advance (Numeral.framedAt_read false _)
  next d minus same =>
    cases same
    by_cases digit : (Number.digit? c).isSome
    · simp only [digit, if_true]
      exact Numeral.framedAt_read true _
    · simp only [digit, if_false, Bool.false_eq_true]
      refine wrong ?_
      have other : ¬ c.isDigit := fun h => digit (by rw [digit?_of_isDigit h]; rfl)
      simp only [isNumeric, other, Bool.false_or, decide_eq_true_eq, List.mem_cons,
        List.not_mem_nil, or_false] at h
      rcases h with rfl | rfl | rfl | rfl | rfl
      · decide
      · decide
      · decide
      · decide
      · exact absurd rfl minus

/-- A text that has been read in whole: white space is all that the reader left. -/
theorem of_readAll {α : Type} {r : Read α} {bs : List UInt8} {v : α} (h : readAll r bs = .ok v) :
    ∃ c, r (.ofBytes bs) = .ok (v, c) ∧ c.skipBlanks.rest = [] := by
  simp only [readAll, StateT.run_bind] at h
  cases first : r.run (.ofBytes bs) with
  | error e =>
    rw [first] at h
    cases e <;> cases h
  | ok q =>
    obtain ⟨v', c⟩ := q
    rw [first] at h
    have token : Read.token.run c = .ok (c.skipBlanks.peek, c.skipBlanks) := rfl
    simp only [bind, Except.bind, token, Cursor.peek] at h
    cases left : c.skipBlanks.rest with
    | nil =>
      rw [left] at h
      cases h
      exact ⟨c, first, left⟩
    | cons b bs =>
      rw [left] at h
      cases h

theorem isAscii_of_isNumeric {c : Char} (h : isNumeric c) : isAscii c := by
  simp only [isNumeric, Bool.or_eq_true, decide_eq_true_eq, List.mem_cons, List.not_mem_nil,
    or_false] at h
  rcases h with digit | rfl | rfl | rfl | rfl | rfl
  · exact isAscii_of_isDigit digit
  all_goals rfl

theorem isNumeric_of_mem {w : List Char} (h : ∀ c ∈ w, isNumeric c) {b : UInt8}
    (mem : b ∈ encode w) : isNumeric (Char.ofNat b.toNat) := by
  obtain ⟨c, mem', here⟩ := List.mem_flatMap.mp mem
  have ascii := isAscii_of_isNumeric (h c mem')
  rw [utf8EncodeChar_ascii ascii, List.mem_singleton] at here
  rw [here, toNat_ascii ascii, Char.ofNat_toNat]
  exact h c mem'

theorem Closes.stops {rest : List Char} (h : Closes rest) : Stops (encode rest) := by
  cases rest with
  | nil => exact nofun
  | cons c rest =>
    have other : isAscii c ∧ ¬ isNumeric c := by
      rcases h c rfl with blank | rfl | rfl | rfl
      · simp only [isGap, Bool.or_eq_true, decide_eq_true_eq] at blank
        rcases blank with ((rfl | rfl) | rfl) | rfl <;> decide
      all_goals decide
    rw [encode_ascii other.1]
    rintro b ⟨⟩
    rw [toNat_ascii other.1, Char.ofNat_toNat]
    exact other.2

/-- A numeral that is read from a text of its own is read wherever the text stands. -/
theorem takes_numeral {wanted : String} {n : Numeral} {w : List Char} {left : Cursor}
    (numeric : ∀ c ∈ w, isNumeric c) (took : numeral wanted (.ofBytes (encode w)) = .ok (n, left))
    (ended : left.skipBlanks.rest = []) : Takes (numeral wanted) w n := by
  cases w with
  | nil => cases took
  | cons c cs =>
    have first := numeric c List.mem_cons_self
    have ascii := isAscii_of_isNumeric first
    have solid : ¬ isGap c ∧ c ≠ ']' := by
      constructor
      · intro blank
        simp only [isGap, Bool.or_eq_true, decide_eq_true_eq] at blank
        rcases blank with ((rfl | rfl) | rfl) | rfl <;> exact absurd first (by decide)
      · rintro rfl
        exact absurd first (by decide)
    refine ⟨⟨c, cs, rfl, ascii, solid⟩, fun gap rest blank closed => ?_⟩
    have framed : FramedAt (numeral wanted) (encode (c :: cs)) := by
      rw [encode_ascii ascii]
      refine framedAt_numeral wanted ?_
      rwa [toNat_ascii ascii, Char.ofNat_toNat]
    obtain ⟨within, framed⟩ := framed _ _ _ took
    -- nothing is left of the number, since nothing in it is white space
    have nothing : left.rest = [] := by
      cases remains : left.rest with
      | nil => rfl
      | cons b bs =>
        have mem : b ∈ encode (c :: cs) := within.subset (remains ▸ List.mem_cons_self)
        have solid := not_isBlank_of_isNumeric (isNumeric_of_mem numeric mem)
        have cursor : left = ⟨b :: bs, left.position⟩ := by rw [← remains]
        rw [cursor, skipBlanks_of_solid solid] at ended
        cases ended
    rw [nothing] at framed
    refine reads_after_gap blank ascii solid.1 fun p => ?_
    obtain ⟨p', eq⟩ := framed (encode rest) p closed.stops
    rw [← encode_append] at eq
    exact ⟨p', eq⟩

theorem takes_single {t : Number.Single} {w : List Char} (h : SpellsSingle t w) :
    Takes single w t := by
  obtain ⟨numeric, alone⟩ := h
  obtain ⟨left, took, ended⟩ := of_readAll alone
  change (numeral "f32" (.ofBytes (encode w))).bind (fun q => .ok (q.1.single, q.2)) = _ at took
  cases first : numeral "f32" (.ofBytes (encode w)) with
  | error e =>
    rw [first] at took
    cases took
  | ok q =>
    rw [first] at took
    cases took
    exact (takes_numeral numeric first ended).map Numeral.single

end Whole

end HostWatch.Json
