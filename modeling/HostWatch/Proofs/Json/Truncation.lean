import HostWatch.Proofs.Json.Extension
import HostWatch.Proofs.Json.Numerals

namespace HostWatch.Json

variable {α β : Type}

/-- What the reader takes from a text it takes in the same way from every longer one, also if it
leaves nothing; it takes nothing from nothing. -/
def Ends (r : Read α) : Prop :=
  ∀ c v c', r c = .ok (v, c') → c.rest ≠ [] ∧ c'.rest <:+ c.rest ∧
    ∀ more, r (c.extend more) = .ok (v, c'.extend more)

def Fails (r : Read α) : Prop := ∀ c q, r c ≠ .ok q

section Combinations

variable {r : Read α} {f : α → Read β}

theorem Fails.ends (h : Fails r) : Ends r := fun c v c' took => absurd took (h c (v, c'))

theorem Fails.after (h : ∀ v, Fails (f v)) : Fails (r >>= f) := by
  rintro c ⟨w, c'⟩ took
  obtain ⟨v, m, -, second⟩ := bind_eq_ok.mp took
  exact h v m (w, c') second

theorem Ends.steady (h : Ends r) : Steady r := by
  intro c v c' took
  obtain ⟨-, within, goesOn⟩ := h c v c' took
  exact ⟨within, fun _ => goesOn⟩

theorem Steady.ends (h : Steady r) (h' : ∀ v, Ends (f v)) : Ends (r >>= f) := by
  intro c w c' took
  obtain ⟨v, m, first, second⟩ := bind_eq_ok.mp took
  obtain ⟨within, goesOn⟩ := h c v m first
  obtain ⟨left, within', goesOn'⟩ := h' v m w c' second
  have some : c.rest ≠ [] := fun none => left (List.suffix_nil.mp (none ▸ within))
  refine ⟨some, within'.trans within, fun more => ?_⟩
  exact bind_eq_ok.mpr ⟨v, m.extend more, goesOn left more, goesOn' more⟩

theorem Ends.map (h : Ends r) (g : α → β) : Ends (r >>= fun v => pure (g v)) := by
  intro c w c' took
  obtain ⟨v, m, first, second⟩ := bind_eq_ok.mp took
  obtain ⟨left, within, goesOn⟩ := h c v m first
  cases second
  exact ⟨left, within, fun more => bind_eq_ok.mpr ⟨v, _, goesOn more, rfl⟩⟩

theorem ends_close {f : Option Char → Read Unit} (close : Char)
    (closes : f (some close) = Read.advance) (fails : ∀ next, next ≠ some close → Fails (f next)) :
    Ends (Read.token >>= f) := by
  intro c w c' took
  obtain ⟨next, m, seen, second⟩ := bind_eq_ok.mp took
  by_cases here : next = some close
  · subst here
    obtain ⟨within, goesOn⟩ := steady_token c _ m seen
    have shows : m.peek = some close := by
      obtain ⟨peeked, rfl⟩ : c.skipBlanks.peek = some close ∧ c.skipBlanks = m :=
        Prod.mk.inj (Except.ok.inj seen)
      exact peeked
    obtain ⟨rest, position⟩ := m
    cases rest with
    | nil => cases shows
    | cons b bs =>
      have left : c.rest ≠ [] := by
        intro none
        rw [none] at within
        cases List.suffix_nil.mp within
      rw [closes] at second
      cases second
      refine ⟨left, (List.suffix_cons b bs).trans within, fun more => ?_⟩
      refine bind_eq_ok.mpr ⟨some close, _, goesOn (List.cons_ne_nil b bs) more, ?_⟩
      rw [closes]
      rfl
  · exact absurd second (fails next here m (w, c'))

theorem fails_wrongType (wanted : String) : Fails (wrongType wanted : Read α) := by
  refine Fails.after fun next => ?_
  split
  · exact Fails.after fun _ => Fails.after fun _ _ _ => nofun
  · exact Fails.after fun _ => Fails.after fun _ _ _ => nofun
  · exact Fails.after fun _ => Fails.after fun _ _ _ => nofun
  · exact Fails.after fun _ => Fails.after fun _ _ _ => nofun
  · exact Fails.after fun _ => Fails.after fun _ _ _ => nofun
  · exact fun _ _ => nofun
  · exact fun _ _ => nofun
  · split
    · exact Fails.after fun _ _ _ => nofun
    · exact fun _ _ => nofun
  · exact fun _ _ => nofun

end Combinations

section Parts

variable {inside : Read α}

theorem steady_moreItems (first : Bool) : Steady (moreItems first) := by
  refine steady_token.bind fun next => ?_
  split
  · exact steady_failNext _
  · exact steady_pure _
  · refine (steady_pure _).ite (Steady.ite ?_ (steady_failNext _))
    refine steady_advance.bind fun _ => steady_token.bind fun next => ?_
    split
    · exact steady_failNext _
    · exact steady_failNext _
    · exact steady_pure _

theorem steady_moreMembers (first : Bool) : Steady (moreMembers first) := by
  refine steady_token.bind fun next => ?_
  split
  · exact steady_failNext _
  · exact steady_pure _
  · refine ((steady_pure _).ite (steady_failNext _)).ite (Steady.ite ?_ (steady_failNext _))
    refine steady_advance.bind fun _ => steady_token.bind fun next => ?_
    split
    · exact steady_failNext _
    · exact steady_pure _
    · exact steady_failNext _
    · exact steady_failNext _

theorem steady_memberName : Steady memberName := steady_advance.bind fun _ => steady_string

theorem steady_colon : Steady colon := by
  refine steady_token.bind fun next => ?_
  split
  · exact steady_failNext _
  · exact steady_advance
  · exact steady_failNext _

theorem ends_listEnd : Ends listEnd := by
  refine ends_close ']' rfl fun next other => ?_
  split
  · exact fun _ _ => nofun
  · exact absurd rfl other
  · refine Fails.after fun _ => Fails.after fun next => ?_
    split
    · exact fun _ _ => nofun
    · exact fun _ _ => nofun
  · exact fun _ _ => nofun

theorem ends_objectEnd : Ends objectEnd := by
  refine ends_close '\x7d' rfl fun next other => ?_
  split
  · exact fun _ _ => nofun
  · exact absurd rfl other
  · exact fun _ _ => nofun
  · exact fun _ _ => nofun

theorem Steady.inList (h : Steady inside) : Ends (inList inside) := by
  refine steady_advance.ends fun _ => Steady.ends (Continues.settling h) fun v => ?_
  exact ends_listEnd.map fun _ => v

theorem Steady.inObject (h : Steady inside) : Ends (inObject inside) := by
  refine steady_advance.ends fun _ => Steady.ends (Continues.settling h) fun v => ?_
  exact ends_objectEnd.map fun _ => v

theorem continues_items (h : Steady inside) (n m : Nat) (le : n ≤ m) (first : Bool) :
    Continues (items inside n first) (items inside m first) := by
  induction n, m, le using countdown generalizing first with
  | out m => exact continues_of_failing fun _ _ => nofun
  | left n m le ih =>
    refine Continues.bind (steady_moreItems first) fun more => Continues.ite ?_ (steady_pure _)
    refine Continues.bind h fun v => (ih false).bind fun vs => steady_pure _

theorem Steady.list (h : Steady inside) : Steady (list inside) := by
  refine steady_token.bind fun next => ?_
  split
  · exact steady_failNext _
  · refine (Steady.inList ?_).steady
    exact Steady.budgeted fun n m le => continues_items h n m le true
  · exact steady_wrongType _

end Parts

namespace Shape

variable {σ : Type} {s : Shape σ}

/-- Every field is read in a way that does not depend on what comes later. -/
def SteadyFields (fields : List (Field σ)) : Prop := ∀ f ∈ fields, ∀ r, Steady (f.enter r)

theorem steady_ended (fields : List (Field σ)) (n : Nat) (r : σ) :
    Steady (listed.ended s fields n r) := by
  induction fields generalizing n with
  | nil => exact steady_pure r
  | cons f fs ih => exact (ih (n + 1)).ite (steady_failPending _)

theorem steady_listed {fields : List (Field σ)} (h : SteadyFields fields) (n : Nat) (r : σ) :
    Steady (s.listed fields n r) := by
  induction fields generalizing n r with
  | nil => exact steady_pure r
  | cons f fs ih =>
    refine (steady_moreItems _).bind fun more => Steady.ite ?_ (Steady.ite ?_ ?_)
    · refine (h f List.mem_cons_self r).bind fun r => ?_
      exact ih (fun g mem => h g (List.mem_cons_of_mem f mem)) (n + 1) r
    · exact steady_ended fs n r
    · exact steady_failPending _

theorem continues_named (h : SteadyFields s.fields) (n m : Nat) (le : n ≤ m) (seen : List String)
    (first : Bool) (r : σ) :
    Continues (s.named n seen first r) (s.named m seen first r) := by
  induction n, m, le using countdown generalizing seen first r with
  | out m => exact continues_of_failing fun _ _ => nofun
  | left n m le ih =>
    refine Continues.bind (steady_moreMembers first) fun more => Continues.ite ?_ ?_
    · refine Continues.bind steady_memberName fun name => ?_
      split
      next f found =>
        refine Continues.ite (steady_failPending _) ?_
        refine Continues.bind steady_colon fun _ => ?_
        refine Continues.bind (h f (List.mem_of_find?_eq_some found) r) fun r => ?_
        exact ih (name :: seen) false r
      next =>
        refine Continues.bind steady_colon fun _ => ?_
        exact Continues.bind steady_skipValue fun _ => ih seen false r
    · split
      · exact steady_failPending _
      · exact steady_pure r

theorem ends_read (h : SteadyFields s.fields) : Ends s.read := by
  refine steady_token.ends fun next => ?_
  split
  · exact Fails.ends fun _ _ => nofun
  · exact (steady_listed h 0 s.blank).inList
  · refine Steady.inObject ?_
    exact Steady.budgeted fun n m le => continues_named h n m le [] true s.blank
  · exact (fails_wrongType _).ends

end Shape

theorem skipBlanks_shows {bs : List UInt8} (shows : ∃ b ∈ bs, ¬ Cursor.isBlank b)
    (position : Position) : (Cursor.skipBlanks ⟨bs, position⟩).rest ≠ [] := by
  change (Cursor.skipBlanks.go bs position).rest ≠ []
  induction bs generalizing position with
  | nil =>
    obtain ⟨b, mem, -⟩ := shows
    cases mem
  | cons b bs ih =>
    unfold Cursor.skipBlanks.go
    split
    next blank =>
      obtain ⟨d, mem, solid⟩ := shows
      rcases List.mem_cons.mp mem with rfl | mem
      · exact absurd blank solid
      · exact ih ⟨d, mem, solid⟩ _
    next => exact List.cons_ne_nil b bs

/-- A text that was read in whole, cut short before its last character that shows, is not read. -/
theorem Ends.readAll_cut {r : Read α} (h : Ends r) {front back : List UInt8} {v : α}
    (whole : readAll r (front ++ back) = .ok v) (shows : ∃ b ∈ back, ¬ Cursor.isBlank b) :
    ∃ fault, readAll r front = .error fault := by
  cases cut : readAll r front with
  | error fault => exact ⟨fault, rfl⟩
  | ok w =>
    obtain ⟨c, took, -⟩ := of_readAll cut
    obtain ⟨c', took', ended⟩ := of_readAll whole
    -- the same is read from the whole text, and its back is left
    have same : r (.ofBytes (front ++ back)) = .ok (w, c.extend back) :=
      (h _ w c took).2.2 back
    rw [took'] at same
    cases same
    have shows' : ∃ b ∈ c.rest ++ back, ¬ Cursor.isBlank b := by
      obtain ⟨b, mem, solid⟩ := shows
      exact ⟨b, List.mem_append_right _ mem, solid⟩
    exact absurd ended (skipBlanks_shows shows' _)

end HostWatch.Json
