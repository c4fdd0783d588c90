import HostWatch.Json.Record
import Mathlib.Data.List.Infix

namespace HostWatch.Json

variable {α β : Type}

def Cursor.extend (c : Cursor) (more : List UInt8) : Cursor := ⟨c.rest ++ more, c.position⟩

/-- What a first reader takes from a text, something of which it leaves, a second takes from the
text with anything behind it. -/
def Continues (r r' : Read α) : Prop :=
  ∀ c v c', r c = .ok (v, c') → c'.rest <:+ c.rest ∧
    (c'.rest ≠ [] → ∀ more, r' (c.extend more) = .ok (v, c'.extend more))

def Steady (r : Read α) : Prop := Continues r r

section Combinations

variable {r r' : Read α} {f f' : α → Read β} {p : Prop} [Decidable p]

theorem bind_eq_ok {c c' : Cursor} {w : β} :
    (r >>= f) c = .ok (w, c') ↔ ∃ v m, r c = .ok (v, m) ∧ f v m = .ok (w, c') := by
  change (r c).bind (fun q => f q.1 q.2) = _ ↔ _
  cases first : r c with
  | error e =>
    refine ⟨nofun, ?_⟩
    rintro ⟨v, m, none, -⟩
    cases none
  | ok q =>
    obtain ⟨v, m⟩ := q
    constructor
    · intro took
      exact ⟨v, m, rfl, took⟩
    · rintro ⟨v', m', same, took⟩
      cases same
      exact took

theorem Continues.bind (h : Continues r r') (h' : ∀ v, Continues (f v) (f' v)) :
    Continues (r >>= f) (r' >>= f') := by
  intro c w c' took
  obtain ⟨v, m, first, second⟩ := bind_eq_ok.mp took
  obtain ⟨within, goesOn⟩ := h c v m first
  obtain ⟨within', goesOn'⟩ := h' v m w c' second
  refine ⟨within'.trans within, fun left more => ?_⟩
  have left' : m.rest ≠ [] := fun none => left (List.suffix_nil.mp (none ▸ within'))
  exact bind_eq_ok.mpr ⟨v, m.extend more, goesOn left' more, goesOn' left more⟩

theorem Steady.bind (h : Steady r) (h' : ∀ v, Steady (f v)) : Steady (r >>= f) :=
  Continues.bind h h'

theorem Continues.ite {s s' : Read α} (h : Continues r r') (h' : Continues s s') :
    Continues (if p then r else s) (if p then r' else s') := by
  split
  · exact h
  · exact h'

theorem Steady.ite {s : Read α} (h : Steady r) (h' : Steady s) : Steady (if p then r else s) :=
  Continues.ite h h'

theorem continues_of_failing (fails : ∀ c q, r c ≠ .ok q) : Continues r r' :=
  fun c v c' took => absurd took (fails c (v, c'))

theorem steady_fail (problem : Problem) : Steady (Read.fail problem : Read α) :=
  continues_of_failing fun _ _ => nofun

theorem steady_failNext (problem : Problem) : Steady (Read.failNext problem : Read α) :=
  continues_of_failing fun _ _ => nofun

theorem steady_failPending (problem : Problem) : Steady (Read.failPending problem : Read α) :=
  continues_of_failing fun _ _ => nofun

theorem steady_pure (v : α) : Steady (pure v : Read α) := by
  rintro c _ _ ⟨⟩
  exact ⟨List.suffix_refl _, fun _ _ => rfl⟩

theorem steady_advance : Steady Read.advance := by
  rintro ⟨rest, position⟩ _ _ ⟨⟩
  cases rest with
  | nil => exact ⟨List.suffix_refl _, fun left => absurd rfl left⟩
  | cons b bs => exact ⟨List.suffix_cons b bs, fun _ _ => rfl⟩

theorem steady_peek : Steady Read.peek := by
  rintro ⟨rest, position⟩ _ _ ⟨⟩
  refine ⟨List.suffix_refl _, fun left more => ?_⟩
  cases rest with
  | nil => exact absurd rfl left
  | cons b bs => rfl

theorem skipBlanks_extend (bs : List UInt8) (position : Position) :
    (Cursor.skipBlanks.go bs position).rest <:+ bs ∧
      ((Cursor.skipBlanks.go bs position).rest ≠ [] → ∀ more,
        Cursor.skipBlanks.go (bs ++ more) position =
          (Cursor.skipBlanks.go bs position).extend more) := by
  induction bs generalizing position with
  | nil => exact ⟨List.suffix_refl _, fun left => absurd rfl left⟩
  | cons b bs ih =>
    obtain ⟨within, goesOn⟩ := ih (position.after b)
    by_cases blank : Cursor.isBlank b
    · have passed (bs : List UInt8) : Cursor.skipBlanks.go (b :: bs) position =
          Cursor.skipBlanks.go bs (position.after b) := if_pos blank
      rw [passed]
      refine ⟨within.trans (List.suffix_cons b bs), fun left more => ?_⟩
      rw [List.cons_append, passed, goesOn left]
    · have stays (bs : List UInt8) :
          Cursor.skipBlanks.go (b :: bs) position = ⟨b :: bs, position⟩ := if_neg blank
      rw [stays]
      exact ⟨List.suffix_refl _, fun _ more => stays (bs ++ more)⟩

theorem steady_token : Steady Read.token := by
  refine Steady.bind ?_ fun _ => steady_peek
  rintro ⟨rest, position⟩ _ _ ⟨⟩
  obtain ⟨within, goesOn⟩ := skipBlanks_extend rest position
  exact ⟨within, fun left more => congrArg (fun c => Except.ok ((), c)) (goesOn left more)⟩

theorem Continues.settling {settle : Cursor → Cursor} (h : Continues r r') :
    Continues (Read.settling settle r) (Read.settling settle r') := by
  have same (r : Read α) (c : Cursor) (q : α × Cursor) :
      Read.settling settle r c = .ok q ↔ r c = .ok q := by
    unfold Read.settling
    split
    next failed => simp [failed]
    next => rfl
  intro c v c' took
  obtain ⟨within, goesOn⟩ := h c v c' ((same r c _).mp took)
  exact ⟨within, fun left more => (same r' _ _).mpr (goesOn left more)⟩

/-- Induction on two numbers that are counted down together, of which the smaller runs out first. -/
@[elab_as_elim]
theorem countdown {motive : ∀ n m : Nat, n ≤ m → Prop} (out : ∀ m, motive 0 m m.zero_le)
    (left : ∀ n m (le : n ≤ m), motive n m le → motive (n + 1) (m + 1) (Nat.succ_le_succ le))
    (n m : Nat) (le : n ≤ m) : motive n m le := by
  induction n generalizing m with
  | zero => exact out m
  | succ n ih =>
    cases m with
    | zero => cases le
    | succ m => exact left n m (Nat.le_of_succ_le_succ le) (ih m _)

/-- Readers that are given a number to count down from, which the length of the text bounds, and
that do the same with a greater one. -/
theorem Continues.budgeted {f f' : Nat → Read α} (h : ∀ n m, n ≤ m → Continues (f n) (f' m)) :
    Continues (get >>= fun c => f (c.rest.length + 1)) (get >>= fun c => f' (c.rest.length + 1)) := by
  intro c v c' took
  have longer (more : List UInt8) : c.rest.length + 1 ≤ (c.extend more).rest.length + 1 := by
    simp [Cursor.extend]
  refine ⟨(h _ _ (Nat.le_refl _) c v c' took).1, fun left more => ?_⟩
  exact (h _ _ (longer more) c v c' took).2 left more

theorem Steady.budgeted {f : Nat → Read α} (h : ∀ n m, n ≤ m → Continues (f n) (f m)) :
    Steady (get >>= fun c => f (c.rest.length + 1)) := Continues.budgeted h

end Combinations

section Scalars

theorem steady_word (cs : List Char) : Steady (word cs) := by
  induction cs with
  | nil => exact steady_pure ()
  | cons c cs ih =>
    refine steady_peek.bind fun next => ?_
    split
    · exact steady_fail _
    · exact steady_advance.bind fun _ => ih.ite (steady_fail _)

theorem steady_of_go {go : List UInt8 → Position → α × Cursor}
    (h : ∀ bs position, (go bs position).2.rest <:+ bs ∧
      ((go bs position).2.rest ≠ [] → ∀ more,
        go (bs ++ more) position = ((go bs position).1, (go bs position).2.extend more))) :
    Steady (fun c => .ok (go c.rest c.position)) := by
  intro c v c' took
  obtain ⟨within, goesOn⟩ := h c.rest c.position
  have same : go c.rest c.position = (v, c') := Except.ok.inj took
  rw [same] at within goesOn
  exact ⟨within, fun left more => congrArg Except.ok (goesOn left more)⟩

namespace Numeral

theorem steady_readDigits : Steady readDigits := by
  refine steady_of_go fun bs position => ?_
  induction bs generalizing position with
  | nil => exact ⟨List.suffix_refl _, fun left => absurd rfl left⟩
  | cons b bs ih =>
    obtain ⟨within, goesOn⟩ := ih (position.after b)
    by_cases digit : 0x30 ≤ b ∧ b ≤ 0x39
    · have took (bs : List UInt8) : digitsAt.go (b :: bs) position =
          ((b.toNat - 0x30) :: (digitsAt.go bs (position.after b)).1,
            (digitsAt.go bs (position.after b)).2) := if_pos digit
      rw [took]
      refine ⟨within.trans (List.suffix_cons b bs), fun left more => ?_⟩
      rw [List.cons_append, took, goesOn left]
    · have stays (bs : List UInt8) : digitsAt.go (b :: bs) position = ([], ⟨b :: bs, position⟩) :=
        if_neg digit
      rw [stays]
      exact ⟨List.suffix_refl _, fun _ more => stays (bs ++ more)⟩

theorem steady_exponentDigits (n : Nat) :
    Steady (fun c => .ok (exponentDigits n c.rest c.position)) := by
  refine steady_of_go fun bs position => ?_
  induction bs generalizing n position with
  | nil => exact ⟨List.suffix_refl _, fun left => absurd rfl left⟩
  | cons b bs ih =>
    by_cases digit : 0x30 ≤ b ∧ b ≤ 0x39
    · by_cases large : maxExponent < n * 10 + (b.toNat - 0x30)
      · have took (bs : List UInt8) : exponentDigits n (b :: bs) position =
            (none, ⟨bs, position.after b⟩) := (if_pos digit).trans (if_pos large)
        rw [took]
        exact ⟨List.suffix_cons b bs, fun _ more => took (bs ++ more)⟩
      · have took (bs : List UInt8) : exponentDigits n (b :: bs) position =
            exponentDigits (n * 10 + (b.toNat - 0x30)) bs (position.after b) :=
          (if_pos digit).trans (if_neg large)
        obtain ⟨within, goesOn⟩ := ih (n * 10 + (b.toNat - 0x30)) (position.after b)
        rw [took]
        refine ⟨within.trans (List.suffix_cons b bs), fun left more => ?_⟩
        rw [List.cons_append, took, goesOn left]
    · have stays (bs : List UInt8) : exponentDigits n (b :: bs) position =
          (some n, ⟨b :: bs, position⟩) := if_neg digit
      rw [stays]
      exact ⟨List.suffix_refl _, fun _ more => stays (bs ++ more)⟩

theorem steady_scaled (positive : Bool) (significand : Nat) (exponent : Int) :
    Steady (scaled positive significand exponent) := by
  unfold scaled
  dsimp only
  split
  · exact steady_pure _
  · split
    · exact (steady_pure _).ite (steady_fail _)
    · exact (steady_fail _).ite (steady_pure _)

theorem steady_withExponent (positive : Bool) (significand : Nat) (exponent : Int) :
    Steady (withExponent positive significand exponent) := by
  refine steady_advance.bind fun _ => steady_peek.bind fun next => ?_
  dsimp only
  split
  on_goal 1 => refine steady_advance.bind fun _ => (steady_pure true).bind ?_
  on_goal 2 => refine steady_advance.bind fun _ => (steady_pure false).bind ?_
  on_goal 3 => refine (steady_pure true).bind ?_
  -- an exponent goes on in one way, with a sign or without
  all_goals
    intro up
    refine steady_peek.bind fun next => ?_
    split
    · exact steady_fail _
    · refine (steady_advance.bind fun _ => steady_fail _).ite ?_
      refine (steady_exponentDigits 0).bind fun found => ?_
      split
      · exact steady_scaled _ _ _
      · exact (steady_fail _).ite (steady_readDigits.bind fun _ => steady_pure _)

theorem steady_withFraction (positive : Bool) (significand : Nat) (exponent : Int) :
    Steady (withFraction positive significand exponent) := by
  refine steady_advance.bind fun _ => steady_readDigits.bind fun ds => ?_
  dsimp only
  split
  · refine steady_peek.bind fun next => ?_
    split
    · exact steady_failNext _
    · exact steady_failNext _
  · refine steady_peek.bind fun next => ?_
    split
    · exact steady_withExponent _ _ _
    · exact steady_withExponent _ _ _
    · exact steady_scaled _ _ _

theorem steady_integer (positive : Bool) (significand dropped : Nat) :
    Steady (do
      if dropped ≠ 0 then return .float (← scaled positive significand dropped)
      else if positive then return .natural significand
      else if significand = 0 ∨ Nat.pow 2 63 < significand then
        return .float (Number.Format.double.ofNat significand).neg
      else return .negative significand : Read Numeral) := by
  refine ((steady_scaled _ _ _).bind fun _ => steady_pure _).ite ?_
  exact (steady_pure _).ite ((steady_pure _).ite (steady_pure _))

theorem steady_read (positive : Bool) : Steady (Numeral.read positive) := by
  refine steady_peek.bind fun next => ?_
  split
  · exact steady_fail _
  · refine (steady_advance.bind fun _ => steady_fail _).ite ?_
    dsimp only
    split
    on_goal 1 => refine steady_advance.bind fun _ => (steady_pure []).bind ?_
    on_goal 2 => refine steady_readDigits.bind ?_
    -- a number goes on in one way, after a leading zero and after other digits
    all_goals
      intro ds
      refine steady_peek.bind fun after => (steady_failNext _).ite ?_
      split
      · exact (steady_withFraction _ _ _).bind fun _ => steady_pure _
      · exact (steady_withExponent _ _ _).bind fun _ => steady_pure _
      · exact (steady_withExponent _ _ _).bind fun _ => steady_pure _
      · exact steady_integer _ _ _

end Numeral

theorem steady_hexEscape : Steady hexEscape := by
  intro c n c' took
  obtain ⟨rest, position⟩ := c
  unfold hexEscape at took
  dsimp only at took
  split at took
  next b₀ b₁ b₂ b₃ rest =>
    split at took
    next value =>
      cases took
      refine ⟨⟨[b₀, b₁, b₂, b₃], rfl⟩, fun _ more => ?_⟩
      unfold hexEscape
      dsimp only [Cursor.extend, List.cons_append]
      rw [value]
    next => cases took
  next => cases took

theorem steady_expectInString (ch : Char) (otherwise : Problem) :
    Steady (expectInString ch otherwise) := by
  refine steady_peek.bind fun next => ?_
  split
  · exact steady_fail _
  · exact steady_advance.bind fun _ => (steady_pure ()).ite (steady_fail _)

theorem steady_codePoint : Steady codePoint := by
  refine steady_hexEscape.bind fun n => (steady_fail _).ite (Steady.ite ?_ (steady_pure _))
  refine (steady_expectInString _ _).bind fun _ => (steady_expectInString _ _).bind fun _ => ?_
  exact steady_hexEscape.bind fun m => (steady_pure _).ite (steady_fail _)

theorem steady_escaped : Steady escaped := by
  refine steady_peek.bind fun next => ?_
  split
  · exact steady_fail _
  · refine steady_advance.bind fun _ => ?_
    split
    · exact steady_pure _
    · exact steady_codePoint.ite (steady_fail _)

theorem continues_stringBytes (n m : Nat) (le : n ≤ m) (acc : List (UInt8 × Position)) :
    Continues (stringBytes n acc) (stringBytes m acc) := by
  induction n, m, le using countdown generalizing acc with
  | out m => exact continues_of_failing fun _ _ => nofun
  | left n m le ih =>
    rintro ⟨rest, position⟩ v c' took
    cases rest with
    | nil => cases took
    | cons b bs =>
      by_cases quote : b = 0x22
      · have ends (k : Nat) (bs : List UInt8) : stringBytes (k + 1) acc ⟨b :: bs, position⟩ =
            .ok (acc.reverse, ⟨bs, position.after b⟩) := if_pos quote
        rw [ends] at took
        cases took
        exact ⟨List.suffix_cons b bs, fun _ more => ends m (bs ++ more)⟩
      by_cases backslash : b = 0x5C
      · have opens (k : Nat) (bs : List UInt8) : stringBytes (k + 1) acc ⟨b :: bs, position⟩ =
            (escaped ⟨bs, position.after b⟩).bind fun q =>
              stringBytes k (((String.utf8EncodeChar q.1).map (·, q.2.position)).reverse ++ acc)
                q.2 := by
          refine ((if_neg quote).trans (if_pos backslash)).trans ?_
          cases escaped ⟨bs, position.after b⟩ <;> rfl
        rw [opens] at took
        cases read : escaped ⟨bs, position.after b⟩ with
        | error failure =>
          rw [read] at took
          cases took
        | ok q =>
          obtain ⟨ch, next⟩ := q
          rw [read] at took
          obtain ⟨within, goesOn⟩ := steady_escaped _ _ _ read
          obtain ⟨within', goesOn'⟩ := ih _ _ _ _ took
          refine ⟨within'.trans (within.trans (List.suffix_cons b bs)), fun left more => ?_⟩
          have left' : next.rest ≠ [] := fun none => left (List.suffix_nil.mp (none ▸ within'))
          have read' : escaped ⟨bs ++ more, position.after b⟩ = .ok (ch, next.extend more) :=
            goesOn left' more
          refine (opens m (bs ++ more)).trans ?_
          rw [read']
          exact goesOn' left more
      by_cases control : b < 0x20
      · have fails (k : Nat) (bs : List UInt8) : stringBytes (k + 1) acc ⟨b :: bs, position⟩ =
            .error (.settled ⟨.controlCharacter, position.after b⟩) :=
          (if_neg quote).trans ((if_neg backslash).trans (if_pos control))
        rw [fails] at took
        cases took
      · have plain (k : Nat) (bs : List UInt8) : stringBytes (k + 1) acc ⟨b :: bs, position⟩ =
            stringBytes k ((b, position.after b) :: acc) ⟨bs, position.after b⟩ :=
          (if_neg quote).trans ((if_neg backslash).trans (if_neg control))
        rw [plain] at took
        obtain ⟨within, goesOn⟩ := ih _ _ _ _ took
        refine ⟨within.trans (List.suffix_cons b bs), fun left more => ?_⟩
        exact (plain m (bs ++ more)).trans (goesOn left more)

theorem steady_string : Steady string := by
  refine Steady.budgeted fun n m le => (continues_stringBytes n m le []).bind fun placed => ?_
  dsimp only
  split
  · exact steady_pure _
  · split
    · exact continues_of_failing fun _ _ => nofun
    · exact steady_fail _

theorem steady_wrongType (wanted : String) : Steady (wrongType wanted : Read α) := by
  refine steady_peek.bind fun next => ?_
  split
  · exact steady_advance.bind fun _ => (steady_word _).bind fun _ => steady_fail _
  · exact steady_advance.bind fun _ => (steady_word _).bind fun _ => steady_fail _
  · exact steady_advance.bind fun _ => (steady_word _).bind fun _ => steady_fail _
  · exact steady_advance.bind fun _ => (Numeral.steady_read _).bind fun _ => steady_fail _
  · exact steady_advance.bind fun _ => steady_string.bind fun _ => steady_fail _
  · exact steady_fail _
  · exact steady_fail _
  · exact ((Numeral.steady_read _).bind fun _ => steady_fail _).ite (steady_failNext _)
  · exact steady_failNext _

theorem steady_numeral (wanted : String) : Steady (numeral wanted) := by
  refine steady_token.bind fun next => ?_
  split
  · exact steady_failNext _
  · exact steady_advance.bind fun _ => Numeral.steady_read _
  · exact (Numeral.steady_read _).ite (steady_wrongType _)

theorem steady_natural (bound : Nat) (wanted : String) : Steady (natural bound wanted) := by
  refine (steady_numeral _).bind fun n => ?_
  split
  · exact steady_pure _
  · exact steady_fail _

theorem steady_single : Steady single := (steady_numeral _).bind fun _ => steady_pure _

theorem steady_text : Steady text := by
  refine steady_token.bind fun next => ?_
  split
  · exact steady_failNext _
  · exact steady_advance.bind fun _ => steady_string
  · exact steady_wrongType _

theorem Steady.nullable {r : Read α} (h : Steady r) : Steady (nullable r) := by
  refine steady_token.bind fun next => ?_
  split
  · exact steady_advance.bind fun _ => (steady_word _).bind fun _ => steady_pure _
  · exact h.bind fun _ => steady_pure _

end Scalars

namespace Skip

theorem steady_escaped : Steady Skip.escaped := by
  refine steady_peek.bind fun next => ?_
  split
  · exact steady_fail _
  · refine steady_advance.bind fun _ => (steady_pure ()).ite (Steady.ite ?_ (steady_fail _))
    exact steady_hexEscape.bind fun _ => steady_pure _

theorem continues_string (n m : Nat) (le : n ≤ m) :
    Continues (Skip.string n) (Skip.string m) := by
  induction n, m, le using countdown with
  | out m => exact continues_of_failing fun _ _ => nofun
  | left n m le ih =>
    refine Continues.bind steady_peek fun next => ?_
    cases next with
    | none => exact steady_fail _
    | some d =>
      refine Continues.ite steady_advance (Continues.ite ?_ (Continues.ite (steady_fail _) ?_))
      · exact Continues.bind steady_advance fun _ => Continues.bind steady_escaped fun _ => ih
      · exact Continues.bind steady_advance fun _ => ih

theorem steady_exponent : Steady exponent := by
  refine steady_advance.bind fun _ => steady_peek.bind fun next => ?_
  split
  on_goal 1 => refine steady_advance.bind fun _ => ?_
  on_goal 2 => refine steady_advance.bind fun _ => ?_
  all_goals
    refine steady_peek.bind fun next => ?_
    split
    · exact steady_fail _
    · refine steady_advance.bind fun _ => Steady.ite ?_ (steady_fail _)
      exact Numeral.steady_readDigits.bind fun _ => steady_pure _

theorem steady_fraction : Steady fraction := by
  refine steady_advance.bind fun _ => Numeral.steady_readDigits.bind fun ds => ?_
  refine (steady_failNext _).ite (steady_peek.bind fun next => ?_)
  split
  · exact steady_exponent
  · exact steady_exponent
  · exact steady_pure _

theorem steady_number : Steady number := by
  refine steady_peek.bind fun next => ?_
  split
  · exact steady_fail _
  · refine (steady_advance.bind fun _ => steady_fail _).ite (steady_advance.bind fun _ => ?_)
    dsimp only
    split
    on_goal 1 => refine steady_peek.bind ?_
    on_goal 2 => refine Numeral.steady_readDigits.bind fun _ => steady_peek.bind ?_
    all_goals
      intro after
      split
      · exact steady_fraction
      · exact steady_exponent
      · exact steady_exponent
      · exact (steady_failNext _).ite (steady_pure _)
      · exact steady_pure _

section Nested

variable {item item' value value' : Read Unit}

theorem continues_items (h : Continues item item') (n m : Nat) (le : n ≤ m) (first : Bool) :
    Continues (items item n first) (items item' m first) := by
  induction n, m, le using countdown generalizing first with
  | out m => exact continues_of_failing fun _ _ => nofun
  | left n m le ih =>
    have later := ih false
    refine Continues.bind steady_token fun next => ?_
    split
    · exact steady_failNext _
    · exact steady_advance
    · refine Continues.ite (h.bind fun _ => later) (Continues.ite ?_ (steady_failNext _))
      exact Continues.bind steady_advance fun _ => h.bind fun _ => later

theorem continues_member (h : Continues value value') :
    Continues (member value) (member value') := by
  refine Continues.bind steady_token fun next => ?_
  split
  · exact steady_failNext _
  · refine Continues.bind steady_advance fun _ => ?_
    refine Continues.budgeted fun n m le =>
      (continues_string n m le).bind fun _ => Continues.bind steady_token fun next => ?_
    split
    · exact steady_failNext _
    · exact Continues.bind steady_advance fun _ => h
    · exact steady_failNext _
  · exact steady_failNext _

theorem continues_members (h : Continues value value') (n m : Nat) (le : n ≤ m) (first : Bool) :
    Continues (members value n first) (members value' m first) := by
  induction n, m, le using countdown generalizing first with
  | out m => exact continues_of_failing fun _ _ => nofun
  | left n m le ih =>
    have later := ih false
    have one := continues_member h
    refine Continues.bind steady_token fun next => ?_
    split
    · exact steady_failNext _
    · exact steady_advance
    · refine Continues.ite (one.bind fun _ => later) (Continues.ite ?_ (steady_failNext _))
      exact Continues.bind steady_advance fun _ => one.bind fun _ => later

end Nested

theorem continues_value (n m : Nat) (le : n ≤ m) : Continues (value n) (value m) := by
  induction n, m, le using countdown with
  | out m => exact continues_of_failing fun _ _ => nofun
  | left n m le ih =>
    refine Continues.bind steady_token fun next => ?_
    split
    · exact steady_failNext _
    · exact steady_advance.bind fun _ => steady_word _
    · exact steady_advance.bind fun _ => steady_word _
    · exact steady_advance.bind fun _ => steady_word _
    · exact steady_advance.bind fun _ => steady_number
    · exact steady_advance.bind fun _ => Steady.budgeted continues_string
    · refine Continues.bind steady_advance fun _ => ?_
      exact Continues.budgeted fun k l le => continues_items ih k l le true
    · refine Continues.bind steady_advance fun _ => ?_
      exact Continues.budgeted fun k l le => continues_members ih k l le true
    · exact steady_number.ite (steady_failNext _)

end Skip

theorem steady_skipValue : Steady skipValue := Steady.budgeted Skip.continues_value

end HostWatch.Json
