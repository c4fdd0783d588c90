import HostWatch.Json.Record
import HostWatch.Proofs.Text.OneLine
import Mathlib.Data.List.Infix

namespace HostWatch.Json

open Text (OneLine oneLine_append oneLine_quoted oneLine_repr)

def Problem.Plain : Problem → Prop
  | .wrongType _ wanted | .wrongValue _ wanted | .wrongLength _ wanted => OneLine wanted
  | .missingField name | .duplicateField name => OneLine name
  | _ => True

theorem Found.oneLine_describe (found : Found) : OneLine found.describe := by
  have quoted {kind s : String} (named : OneLine kind) (h : OneLine s) :
      OneLine (kind ++ s ++ "`") :=
    oneLine_append.mpr ⟨oneLine_append.mpr ⟨named, h⟩, by decide⟩
  cases found with
  | null => exact (by decide : OneLine "null")
  | boolean b => cases b <;> decide
  | natural n => exact quoted (by decide) (oneLine_repr n)
  | negative n => exact quoted (by decide) (oneLine_repr n)
  | float v => exact quoted (by decide) v.oneLine_shortestText
  | text s => exact oneLine_append.mpr ⟨by decide, oneLine_quoted s⟩
  | sequence => exact (by decide : OneLine "sequence")
  | map => exact (by decide : OneLine "map")

theorem Problem.Plain.oneLine_describe {p : Problem} (plain : p.Plain) : OneLine p.describe := by
  have expected {kind s what : String} (named : OneLine kind) (h : OneLine s)
      (wanted : OneLine what) : OneLine (kind ++ s ++ ", expected " ++ what) := by
    have between : OneLine ", expected " := by decide
    simp [named, h, between, wanted]
  have field {kind name : String} (named : OneLine kind) (h : OneLine name) :
      OneLine (kind ++ name ++ "`") :=
    oneLine_append.mpr ⟨oneLine_append.mpr ⟨named, h⟩, by decide⟩
  cases p with
  | wrongType found wanted => exact expected (by decide) found.oneLine_describe plain
  | wrongValue found wanted => exact expected (by decide) found.oneLine_describe plain
  | wrongLength n wanted => exact expected (by decide) (oneLine_repr n) plain
  | missingField name => exact field (by decide) plain
  | duplicateField name => exact field (by decide) plain
  | _ => decide

theorem Fault.oneLine_message {f : Fault} (plain : f.problem.Plain) : OneLine f.message := by
  have line : OneLine " at line " := by decide
  have column : OneLine " column " := by decide
  simp [message, line, column, plain.oneLine_describe]

def Failure.problem : Failure → Problem
  | .settled fault => fault.problem
  | .pending p _ => p

variable {α β : Type}

/-- Whatever the reader is given, it complains on one line if at all. -/
def Terse (r : Read α) : Prop := ∀ c e, r c = .error e → e.problem.Plain

section Combinations

variable {r r' : Read α} {f : α → Read β} {p : Problem}

theorem Terse.bind (h : Terse r) (h' : ∀ v, Terse (f v)) : Terse (r >>= f) := by
  intro c e stopped
  change (r c).bind (fun q => f q.1 q.2) = .error e at stopped
  cases first : r c with
  | error e' =>
    rw [first] at stopped
    cases stopped
    exact h c _ first
  | ok q =>
    rw [first] at stopped
    exact h' q.1 q.2 e stopped

theorem Terse.ite {c : Prop} [Decidable c] (h : Terse r) (h' : Terse r') :
    Terse (if c then r else r') := by
  split
  · exact h
  · exact h'

theorem terse_of_ok {take : Cursor → α × Cursor} : Terse (fun c => .ok (take c) : Read α) :=
  fun _ _ => nofun

theorem terse_pure (v : α) : Terse (pure v : Read α) := fun _ _ => nofun

theorem terse_fail (plain : p.Plain) : Terse (Read.fail p : Read α) := by
  rintro c _ ⟨⟩
  exact plain

theorem terse_failNext (plain : p.Plain) : Terse (Read.failNext p : Read α) := by
  rintro c _ ⟨⟩
  exact plain

theorem terse_failPending (plain : p.Plain) : Terse (Read.failPending p : Read α) := by
  rintro c _ ⟨⟩
  exact plain

theorem terse_advance : Terse Read.advance := fun _ _ => nofun

theorem terse_peek : Terse Read.peek := fun _ _ => nofun

theorem terse_token : Terse Read.token := fun _ _ => nofun

theorem Terse.budgeted {f : Nat → Read α} (h : ∀ n, Terse (f n)) :
    Terse (get >>= fun c => f (c.rest.length + 1)) := fun c => h (c.rest.length + 1) c

theorem Terse.settling {settle : Cursor → Cursor} (h : Terse r) :
    Terse (Read.settling settle r) := by
  intro c e stopped
  unfold Read.settling at stopped
  split at stopped
  next p raised pending =>
    cases stopped
    exact (h c _ pending : Problem.Plain p)
  next => exact h c e stopped

end Combinations

section Scalars

theorem terse_word (cs : List Char) : Terse (word cs) := by
  induction cs with
  | nil => exact terse_pure ()
  | cons c cs ih =>
    refine terse_peek.bind fun next => ?_
    split
    · exact terse_fail (by trivial)
    · exact terse_advance.bind fun _ => ih.ite (terse_fail (by trivial))

namespace Numeral

theorem terse_scaled (positive : Bool) (significand : Nat) (exponent : Int) :
    Terse (scaled positive significand exponent) := by
  unfold scaled
  dsimp only
  split
  · exact terse_pure _
  · split
    · exact (terse_pure _).ite (terse_fail (by trivial))
    · exact Terse.ite (terse_fail (by trivial)) (terse_pure _)

theorem terse_withExponent (positive : Bool) (significand : Nat) (exponent : Int) :
    Terse (withExponent positive significand exponent) := by
  refine terse_advance.bind fun _ => terse_peek.bind fun next => ?_
  dsimp only
  split
  on_goal 1 => refine terse_advance.bind fun _ => (terse_pure true).bind ?_
  on_goal 2 => refine terse_advance.bind fun _ => (terse_pure false).bind ?_
  on_goal 3 => refine (terse_pure true).bind ?_
  -- an exponent goes on in one way, with a sign or without
  all_goals
    intro up
    refine terse_peek.bind fun next => ?_
    split
    · exact terse_fail (by trivial)
    · refine (terse_advance.bind fun _ => (terse_fail (by trivial))).ite ?_
      refine terse_of_ok.bind fun found => ?_
      split
      · exact terse_scaled _ _ _
      · exact Terse.ite (terse_fail (by trivial)) (terse_of_ok.bind fun _ => terse_pure _)

theorem terse_withFraction (positive : Bool) (significand : Nat) (exponent : Int) :
    Terse (withFraction positive significand exponent) := by
  refine terse_advance.bind fun _ => terse_of_ok.bind fun ds => ?_
  dsimp only
  split
  · refine terse_peek.bind fun next => ?_
    split
    · exact terse_failNext (by trivial)
    · exact terse_failNext (by trivial)
  · refine terse_peek.bind fun next => ?_
    split
    · exact terse_withExponent _ _ _
    · exact terse_withExponent _ _ _
    · exact terse_scaled _ _ _

theorem terse_read (positive : Bool) : Terse (Numeral.read positive) := by
  refine terse_peek.bind fun next => ?_
  split
  · exact terse_fail (by trivial)
  · refine (terse_advance.bind fun _ => (terse_fail (by trivial))).ite ?_
    dsimp only
    split
    on_goal 1 => refine terse_advance.bind fun _ => (terse_pure []).bind ?_
    on_goal 2 => refine terse_of_ok.bind ?_
    -- a number goes on in one way, after a leading zero and after other digits
    all_goals
      intro ds
      refine terse_peek.bind fun after => Terse.ite (terse_failNext (by trivial)) ?_
      split
      · exact (terse_withFraction _ _ _).bind fun _ => terse_pure _
      · exact (terse_withExponent _ _ _).bind fun _ => terse_pure _
      · exact (terse_withExponent _ _ _).bind fun _ => terse_pure _
      · refine ((terse_scaled _ _ _).bind fun _ => terse_pure _).ite ?_
        exact (terse_pure _).ite ((terse_pure _).ite (terse_pure _))

end Numeral

theorem terse_hexEscape : Terse hexEscape := by
  intro c e stopped
  unfold hexEscape at stopped
  split at stopped
  · dsimp only at stopped
    split at stopped
    · cases stopped
    · cases stopped
      trivial
  · cases stopped
    trivial

theorem terse_expectInString (ch : Char) {otherwise : Problem}
    (plain : otherwise.Plain) :
    Terse (expectInString ch otherwise) := by
  refine terse_peek.bind fun next => ?_
  split
  · exact terse_fail (by trivial)
  · exact terse_advance.bind fun _ => (terse_pure ()).ite (terse_fail plain)

theorem terse_codePoint : Terse codePoint := by
  refine terse_hexEscape.bind fun n => Terse.ite (terse_fail (by trivial)) ?_
  refine Terse.ite ?_ (terse_pure _)
  refine (terse_expectInString _ (by trivial)).bind fun _ => ?_
  refine (terse_expectInString _ (by trivial)).bind fun _ => ?_
  exact terse_hexEscape.bind fun m => (terse_pure _).ite (terse_fail (by trivial))

theorem terse_escaped : Terse escaped := by
  refine terse_peek.bind fun next => ?_
  split
  · exact terse_fail (by trivial)
  · refine terse_advance.bind fun _ => ?_
    split
    · exact terse_pure _
    · exact terse_codePoint.ite (terse_fail (by trivial))

theorem terse_stringBytes (fuel : Nat) (acc : List (UInt8 × Position)) :
    Terse (stringBytes fuel acc) := by
  induction fuel generalizing acc with
  | zero => exact terse_fail (by trivial)
  | succ fuel ih =>
    intro c e stopped
    unfold stringBytes at stopped
    dsimp only at stopped
    split at stopped
    · cases stopped
      trivial
    split at stopped
    · cases stopped
    split at stopped
    · split at stopped
      next => exact ih _ _ e stopped
      next failed =>
        cases stopped
        exact terse_escaped _ _ failed
    split at stopped
    · cases stopped
      trivial
    · exact ih _ _ e stopped

theorem terse_string : Terse string := by
  refine Terse.budgeted fun n => (terse_stringBytes n []).bind fun placed => ?_
  dsimp only
  split
  · exact terse_pure _
  · split
    · rintro c _ ⟨⟩
      trivial
    · exact terse_fail (by trivial)

theorem terse_wrongType {wanted : String} (plain : OneLine wanted) :
    Terse (wrongType wanted : Read α) := by
  have complain (found : Found) : Terse (Read.fail (.wrongType found wanted) : Read α) :=
    terse_fail plain
  refine terse_peek.bind fun next => ?_
  split
  · exact terse_advance.bind fun _ => (terse_word _).bind fun _ => complain _
  · exact terse_advance.bind fun _ => (terse_word _).bind fun _ => complain _
  · exact terse_advance.bind fun _ => (terse_word _).bind fun _ => complain _
  · exact terse_advance.bind fun _ => (Numeral.terse_read _).bind fun _ => complain _
  · exact terse_advance.bind fun _ => terse_string.bind fun _ => complain _
  · exact complain _
  · exact complain _
  · exact ((Numeral.terse_read _).bind fun _ => complain _).ite (terse_failNext (by trivial))
  · exact terse_failNext (by trivial)

theorem terse_numeral {wanted : String} (plain : OneLine wanted) : Terse (numeral wanted) := by
  refine terse_token.bind fun next => ?_
  split
  · exact terse_failNext (by trivial)
  · exact terse_advance.bind fun _ => Numeral.terse_read _
  · exact (Numeral.terse_read _).ite (terse_wrongType plain)

theorem terse_natural (bound : Nat) {wanted : String} (plain : OneLine wanted) :
    Terse (natural bound wanted) := by
  refine (terse_numeral plain).bind fun n => ?_
  split
  · exact terse_pure _
  next refused =>
    refine terse_fail ?_
    cases n with
    | natural n =>
      simp only [Numeral.natural?] at refused
      split at refused
      · cases refused
      · cases refused
        exact plain
    | negative n =>
      cases refused
      exact plain
    | float v =>
      cases refused
      exact plain

theorem terse_single : Terse single :=
  (terse_numeral (by decide)).bind fun _ => terse_pure _

theorem terse_text : Terse text := by
  refine terse_token.bind fun next => ?_
  split
  · exact terse_failNext (by trivial)
  · exact terse_advance.bind fun _ => terse_string
  · exact terse_wrongType (by decide)

theorem Terse.nullable {r : Read α} (h : Terse r) : Terse (nullable r) := by
  refine terse_token.bind fun next => ?_
  split
  · exact terse_advance.bind fun _ => (terse_word _).bind fun _ => terse_pure _
  · exact h.bind fun _ => terse_pure _

end Scalars

namespace Skip

theorem terse_escaped : Terse Skip.escaped := by
  refine terse_peek.bind fun next => ?_
  split
  · exact terse_fail (by trivial)
  · refine terse_advance.bind fun _ => (terse_pure ()).ite (Terse.ite ?_ (terse_fail (by trivial)))
    exact terse_hexEscape.bind fun _ => terse_pure _

theorem terse_string (fuel : Nat) : Terse (Skip.string fuel) := by
  induction fuel with
  | zero => exact terse_fail (by trivial)
  | succ fuel ih =>
    refine terse_peek.bind fun next => ?_
    split
    · exact terse_fail (by trivial)
    · refine terse_advance.ite (Terse.ite ?_ (Terse.ite (terse_fail (by trivial)) ?_))
      · exact terse_advance.bind fun _ => terse_escaped.bind fun _ => ih
      · exact terse_advance.bind fun _ => ih

theorem terse_exponent : Terse exponent := by
  refine terse_advance.bind fun _ => terse_peek.bind fun next => ?_
  split
  on_goal 1 => refine terse_advance.bind fun _ => ?_
  on_goal 2 => refine terse_advance.bind fun _ => ?_
  all_goals
    refine terse_peek.bind fun next => ?_
    split
    · exact terse_fail (by trivial)
    · refine terse_advance.bind fun _ => Terse.ite ?_ (terse_fail (by trivial))
      exact terse_of_ok.bind fun _ => terse_pure _

theorem terse_fraction : Terse fraction := by
  refine terse_advance.bind fun _ => terse_of_ok.bind fun ds => ?_
  refine Terse.ite (terse_failNext (by trivial)) (terse_peek.bind fun next => ?_)
  split
  · exact terse_exponent
  · exact terse_exponent
  · exact terse_pure _

theorem terse_number : Terse number := by
  refine terse_peek.bind fun next => ?_
  split
  · exact terse_fail (by trivial)
  · refine (terse_advance.bind fun _ => terse_fail (by trivial)).ite ?_
    refine terse_advance.bind fun _ => ?_
    dsimp only
    split
    on_goal 1 => refine terse_peek.bind ?_
    on_goal 2 => refine terse_of_ok.bind fun _ => terse_peek.bind ?_
    all_goals
      intro after
      split
      · exact terse_fraction
      · exact terse_exponent
      · exact terse_exponent
      · exact Terse.ite (terse_failNext (by trivial)) (terse_pure _)
      · exact terse_pure _

section Nested

variable {item value : Read Unit}

theorem terse_items (h : Terse item) (fuel : Nat) (first : Bool) :
    Terse (items item fuel first) := by
  induction fuel generalizing first with
  | zero => exact terse_fail (by trivial)
  | succ fuel ih =>
    refine terse_token.bind fun next => ?_
    split
    · exact terse_failNext (by trivial)
    · exact terse_advance
    · refine Terse.ite (h.bind fun _ => ih false) (Terse.ite ?_ (terse_failNext (by trivial)))
      exact terse_advance.bind fun _ => h.bind fun _ => ih false

theorem terse_member (h : Terse value) : Terse (member value) := by
  refine terse_token.bind fun next => ?_
  split
  · exact terse_failNext (by trivial)
  · refine terse_advance.bind fun _ => Terse.budgeted fun n =>
      (terse_string n).bind fun _ => terse_token.bind fun next => ?_
    split
    · exact terse_failNext (by trivial)
    · exact terse_advance.bind fun _ => h
    · exact terse_failNext (by trivial)
  · exact terse_failNext (by trivial)

theorem terse_members (h : Terse value) (fuel : Nat) (first : Bool) :
    Terse (members value fuel first) := by
  have one := terse_member h
  induction fuel generalizing first with
  | zero => exact terse_fail (by trivial)
  | succ fuel ih =>
    refine terse_token.bind fun next => ?_
    split
    · exact terse_failNext (by trivial)
    · exact terse_advance
    · refine Terse.ite (one.bind fun _ => ih false) (Terse.ite ?_ (terse_failNext (by trivial)))
      exact terse_advance.bind fun _ => one.bind fun _ => ih false

end Nested

theorem terse_value (fuel : Nat) : Terse (value fuel) := by
  induction fuel with
  | zero => exact terse_fail (by trivial)
  | succ fuel ih =>
    refine terse_token.bind fun next => ?_
    split
    · exact terse_failNext (by trivial)
    · exact terse_advance.bind fun _ => terse_word _
    · exact terse_advance.bind fun _ => terse_word _
    · exact terse_advance.bind fun _ => terse_word _
    · exact terse_advance.bind fun _ => terse_number
    · exact terse_advance.bind fun _ => Terse.budgeted terse_string
    · exact terse_advance.bind fun _ => Terse.budgeted fun n => terse_items ih n true
    · exact terse_advance.bind fun _ => Terse.budgeted fun n => terse_members ih n true
    · exact terse_number.ite (terse_failNext (by trivial))

end Skip

theorem terse_skipValue : Terse skipValue := Terse.budgeted Skip.terse_value

section Parts

variable {inside : Read α}

theorem terse_moreItems (first : Bool) : Terse (moreItems first) := by
  refine terse_token.bind fun next => ?_
  split
  · exact terse_failNext (by trivial)
  · exact terse_pure _
  · refine (terse_pure _).ite (Terse.ite ?_ (terse_failNext (by trivial)))
    refine terse_advance.bind fun _ => terse_token.bind fun next => ?_
    split
    · exact terse_failNext (by trivial)
    · exact terse_failNext (by trivial)
    · exact terse_pure _

theorem terse_moreMembers (first : Bool) : Terse (moreMembers first) := by
  refine terse_token.bind fun next => ?_
  split
  · exact terse_failNext (by trivial)
  · exact terse_pure _
  · refine ((terse_pure _).ite (terse_failNext (by trivial))).ite
      (Terse.ite ?_ (terse_failNext (by trivial)))
    refine terse_advance.bind fun _ => terse_token.bind fun next => ?_
    split
    · exact terse_failNext (by trivial)
    · exact terse_pure _
    · exact terse_failNext (by trivial)
    · exact terse_failNext (by trivial)

theorem terse_memberName : Terse memberName := terse_advance.bind fun _ => terse_string

theorem terse_colon : Terse colon := by
  refine terse_token.bind fun next => ?_
  split
  · exact terse_failNext (by trivial)
  · exact terse_advance
  · exact terse_failNext (by trivial)

theorem terse_listEnd : Terse listEnd := by
  refine terse_token.bind fun next => ?_
  split
  · exact terse_failNext (by trivial)
  · exact terse_advance
  · refine terse_advance.bind fun _ => terse_token.bind fun next => ?_
    split
    · exact terse_failNext (by trivial)
    · exact terse_failNext (by trivial)
  · exact terse_failNext (by trivial)

theorem terse_objectEnd : Terse objectEnd := by
  refine terse_token.bind fun next => ?_
  split
  · exact terse_failNext (by trivial)
  · exact terse_advance
  · exact terse_failNext (by trivial)
  · exact terse_failNext (by trivial)

theorem Terse.inList (h : Terse inside) : Terse (inList inside) :=
  terse_advance.bind fun _ => h.settling.bind fun _ => terse_listEnd.bind fun _ => terse_pure _

theorem Terse.inObject (h : Terse inside) : Terse (inObject inside) :=
  terse_advance.bind fun _ => h.settling.bind fun _ => terse_objectEnd.bind fun _ => terse_pure _

theorem terse_items (h : Terse inside) (fuel : Nat) (first : Bool) :
    Terse (items inside fuel first) := by
  induction fuel generalizing first with
  | zero => exact terse_fail (by trivial)
  | succ fuel ih =>
    refine (terse_moreItems first).bind fun more => Terse.ite ?_ (terse_pure _)
    exact h.bind fun v => (ih false).bind fun vs => terse_pure _

theorem Terse.list (h : Terse inside) : Terse (list inside) := by
  refine terse_token.bind fun next => ?_
  split
  · exact terse_failNext (by trivial)
  · exact Terse.inList (Terse.budgeted fun n => terse_items h n true)
  · exact terse_wrongType (by decide)

end Parts

namespace Field

variable {σ : Type} {name : String} {value : Read α} {set : σ → α → σ}

/-- A field whose name stays on one line, and that is read with complaints on one line. -/
structure Terse (f : Field σ) : Prop where
  name : OneLine f.name
  enter : ∀ r, Json.Terse (f.enter r)

theorem Terse.lenient (named : OneLine name) (h : Json.Terse value) :
    (Field.lenient name value set).Terse :=
  ⟨named, fun _ => h.bind fun _ => terse_pure _⟩

theorem Terse.needed (named : OneLine name) (h : Json.Terse value) :
    (Field.needed name value set).Terse :=
  ⟨named, fun _ => h.bind fun _ => terse_pure _⟩

end Field

namespace Shape

variable {σ : Type} {s : Shape σ}

/-- A record that is called by names on one line, and so are its fields. -/
structure Terse (s : Shape σ) : Prop where
  title : OneLine s.title
  fields : ∀ f ∈ s.fields, f.Terse

theorem plain_tooShort (h : s.Terse) (n : Nat) : (s.tooShort n).Plain := by
  have between : OneLine " with " := by decide
  have many (one : Prop) [Decidable one] :
      OneLine (if one then " element" else " elements") := by
    split <;> decide
  change OneLine _
  simp [h.title, between, many]

theorem terse_ended (h : s.Terse) (fields : List (Field σ)) (n : Nat) (r : σ) :
    Json.Terse (listed.ended s fields n r) := by
  induction fields generalizing n with
  | nil => exact terse_pure r
  | cons f fs ih => exact (ih (n + 1)).ite (terse_failPending (plain_tooShort h _))

theorem terse_listed (h : s.Terse) {fields : List (Field σ)} (among : fields ⊆ s.fields) (n : Nat)
    (r : σ) : Json.Terse (s.listed fields n r) := by
  induction fields generalizing n r with
  | nil => exact terse_pure r
  | cons f fs ih =>
    obtain ⟨here, among⟩ := List.cons_subset.mp among
    refine (terse_moreItems _).bind fun more => Json.Terse.ite ?_ (Json.Terse.ite ?_ ?_)
    · exact ((h.fields f here).enter r).bind fun r => ih among (n + 1) r
    · exact terse_ended h fs n r
    · exact terse_failPending (plain_tooShort h n)

theorem terse_named (h : s.Terse) (fuel : Nat) (seen : List String) (first : Bool) (r : σ) :
    Json.Terse (s.named fuel seen first r) := by
  induction fuel generalizing seen first r with
  | zero => exact terse_fail (by trivial)
  | succ fuel ih =>
    refine (terse_moreMembers first).bind fun more => Json.Terse.ite ?_ ?_
    · refine terse_memberName.bind fun name => ?_
      split
      next f found =>
        have listed : f ∈ s.fields := List.mem_of_find?_eq_some found
        have same : f.name = name := by simpa using List.find?_some found
        have plain : (Problem.duplicateField name).Plain := same ▸ (h.fields f listed).name
        refine (terse_failPending plain).ite (terse_colon.bind fun _ => ?_)
        exact ((h.fields f listed).enter r).bind fun r => ih (name :: seen) false r
      next => exact terse_colon.bind fun _ => terse_skipValue.bind fun _ => ih seen false r
    · split
      next f missing =>
        have listed : f ∈ s.fields := List.mem_of_find?_eq_some missing
        exact terse_failPending (h.fields f listed).name
      next => exact terse_pure r

theorem Terse.read (h : s.Terse) : Json.Terse s.read := by
  refine terse_token.bind fun next => ?_
  split
  · exact terse_failNext (by trivial)
  · exact (terse_listed h (List.Subset.refl _) 0 s.blank).inList
  · exact Json.Terse.inObject (Json.Terse.budgeted fun n => terse_named h n [] true s.blank)
  · exact terse_wrongType h.title

end Shape

theorem Terse.readAll {r : Read α} (h : Terse r) {bs : List UInt8} {fault : Fault}
    (refused : readAll r bs = .error fault) : OneLine fault.message := by
  unfold Json.readAll at refused
  split at refused
  · cases refused
  -- a fault is placed already or placed at the end, and is the same complaint
  all_goals
    rename_i stopped
    cases refused
    refine Fault.oneLine_message (h.bind (fun v => terse_token.bind fun next => ?_) _ _ stopped)
    split
    · exact terse_pure v
    · exact terse_failNext (by trivial)

end HostWatch.Json
