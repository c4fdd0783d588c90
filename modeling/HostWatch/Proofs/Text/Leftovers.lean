import HostWatch.Proofs.Text.Sequences
import Mathlib.Data.List.TakeWhile

namespace HostWatch.Text.Plain

open Family (terminator Sequence)

/-- What is taken out of a text, pass by pass. -/
inductive Kind where
  | lineEnd
  | sequence (f : Family)
  | bell
  deriving DecidableEq, Repr

namespace Kind

def Is : Kind → List Char → Prop
  | lineEnd, part => part = ['\r', '\n']
  | sequence f, part => Sequence f part
  | bell, part => part = [Plain.bell]

end Kind

def Clean (cs : List Char) : Prop := ∀ k part, Kind.Is k part → ¬ part <:+: cs

/-- A text is left of another when characters are dropped, so that no stretch of neighbours that are
all kept is `bad`. The marks say which characters are kept. -/
def Leaves (bad : List Char → Prop) (cs kept : List Char) : Prop :=
  ∃ marked : List (Char × Bool), marked.map Prod.fst = cs ∧
    (marked.filter Prod.snd).map Prod.fst = kept ∧
    ∀ stretch, stretch <:+: marked → (∀ p ∈ stretch, p.2) → ¬ bad (stretch.map Prod.fst)

section Leaves

variable {bad bad' : List Char → Prop} {cs ds es : List Char}

/-- The marks of a first text, with those characters dropped, too, that marks of what is left of it
drop. -/
def narrowed : List (Char × Bool) → List (Char × Bool) → List (Char × Bool)
  | [], _ => []
  | (c, false) :: first, second => (c, false) :: narrowed first second
  | (c, true) :: first, (_, b) :: second => (c, b) :: narrowed first second
  | (c, true) :: first, [] => (c, true) :: narrowed first []

theorem map_narrowed (first second : List (Char × Bool)) :
    (narrowed first second).map Prod.fst = first.map Prod.fst := by
  fun_induction narrowed first second <;> simp_all

theorem filter_narrowed {first second : List (Char × Bool)}
    (fits : second.map Prod.fst = (first.filter Prod.snd).map Prod.fst) :
    ((narrowed first second).filter Prod.snd).map Prod.fst =
      (second.filter Prod.snd).map Prod.fst := by
  fun_induction narrowed first second with
  | case1 second => simp_all
  | case2 c first second ih => simp_all
  | case3 c first d b second ih => cases b <;> simp_all
  | case4 c first ih => simp_all

def AllKept (stretch : List (Char × Bool)) : Prop := ∀ p ∈ stretch, p.2

theorem allKept_cons {p : Char × Bool} {stretch : List (Char × Bool)} :
    AllKept (p :: stretch) ↔ p.2 ∧ AllKept stretch := List.forall_mem_cons

/-- A stretch at the front that is kept by the narrowed marks is kept by either marks. -/
theorem prefix_of_narrowed {first second stretch : List (Char × Bool)}
    (fits : second.map Prod.fst = (first.filter Prod.snd).map Prod.fst)
    (front : stretch <+: narrowed first second) (kept : AllKept stretch) :
    (∃ own, own <+: first ∧ AllKept own ∧ own.map Prod.fst = stretch.map Prod.fst) ∧
      ∃ own, own <+: second ∧ AllKept own ∧ own.map Prod.fst = stretch.map Prod.fst := by
  have nothing (marked : List (Char × Bool)) : ∃ own, own <+: marked ∧ AllKept own ∧
      own.map Prod.fst = ([] : List (Char × Bool)).map Prod.fst :=
    ⟨[], List.nil_prefix, by simp [AllKept], rfl⟩
  fun_induction narrowed first second generalizing stretch with
  | case1 second =>
    obtain rfl := List.prefix_nil.mp front
    exact ⟨nothing _, nothing _⟩
  | case2 c first second ih =>
    rcases List.prefix_cons_iff.mp front with rfl | ⟨stretch, rfl, -⟩
    · exact ⟨nothing _, nothing _⟩
    · exact absurd (allKept_cons.mp kept).1 Bool.false_ne_true
  | case3 c first d b second ih =>
    simp only [List.map_cons, List.filter_cons_of_pos, List.cons.injEq] at fits
    obtain ⟨rfl, fits⟩ := fits
    rcases List.prefix_cons_iff.mp front with rfl | ⟨stretch, rfl, later⟩
    · exact ⟨nothing _, nothing _⟩
    · obtain ⟨held, kept⟩ := allKept_cons.mp kept
      obtain ⟨⟨own, within, all, same⟩, own', within', all', same'⟩ := ih fits later kept
      refine ⟨⟨(d, true) :: own, List.cons_prefix_cons.mpr ⟨rfl, within⟩,
        allKept_cons.mpr ⟨rfl, all⟩, ?_⟩, (d, b) :: own', List.cons_prefix_cons.mpr ⟨rfl, within'⟩,
        allKept_cons.mpr ⟨held, all'⟩, ?_⟩
      · simp [same]
      · simp [same']
  | case4 c first ih => simp at fits

theorem stretch_of_narrowed {first second stretch : List (Char × Bool)}
    (fits : second.map Prod.fst = (first.filter Prod.snd).map Prod.fst)
    (within : stretch <:+: narrowed first second) (kept : AllKept stretch) :
    (∃ own, own <:+: first ∧ AllKept own ∧ own.map Prod.fst = stretch.map Prod.fst) ∧
      ∃ own, own <:+: second ∧ AllKept own ∧ own.map Prod.fst = stretch.map Prod.fst := by
  have atFront (first second : List (Char × Bool))
      (fits : second.map Prod.fst = (first.filter Prod.snd).map Prod.fst)
      (front : stretch <+: narrowed first second) :
      (∃ own, own <:+: first ∧ AllKept own ∧ own.map Prod.fst = stretch.map Prod.fst) ∧
        ∃ own, own <:+: second ∧ AllKept own ∧ own.map Prod.fst = stretch.map Prod.fst := by
    obtain ⟨⟨own, begins, h⟩, own', begins', h'⟩ := prefix_of_narrowed fits front kept
    exact ⟨⟨own, begins.isInfix, h⟩, own', begins'.isInfix, h'⟩
  fun_induction narrowed first second with
  | case1 second => exact atFront [] second fits (List.infix_nil.mp within ▸ List.nil_prefix)
  | case2 c first second ih =>
    rcases List.infix_cons_iff.mp within with front | later
    · exact atFront ((c, false) :: first) second fits front
    · obtain ⟨⟨own, inside, h⟩, others⟩ := ih (by simpa using fits) later
      exact ⟨⟨own, List.infix_cons inside, h⟩, others⟩
  | case3 c first d b second ih =>
    have fits' : second.map Prod.fst = (first.filter Prod.snd).map Prod.fst := by simp_all
    rcases List.infix_cons_iff.mp within with front | later
    · exact atFront ((c, true) :: first) ((d, b) :: second) fits front
    · obtain ⟨⟨own, inside, h⟩, own', inside', h'⟩ := ih fits' later
      exact ⟨⟨own, List.infix_cons inside, h⟩, own', List.infix_cons inside', h'⟩
  | case4 c first ih => simp at fits

theorem Leaves.trans (h : Leaves bad cs ds) (h' : Leaves bad' ds es) :
    Leaves (fun part => bad part ∨ bad' part) cs es := by
  obtain ⟨first, whole, left, sound⟩ := h
  obtain ⟨second, whole', left', sound'⟩ := h'
  have fits := whole'.trans left.symm
  refine ⟨narrowed first second, ?_, ?_, ?_⟩
  · rw [map_narrowed, whole]
  · rw [filter_narrowed fits, left']
  · intro stretch within kept
    obtain ⟨⟨own, inside, all, same⟩, own', inside', all', same'⟩ :=
      stretch_of_narrowed fits within kept
    rintro (found | found)
    · exact sound own inside all (same ▸ found)
    · exact sound' own' inside' all' (same' ▸ found)

theorem Leaves.mono (h : Leaves bad cs ds) (fewer : ∀ part, bad' part → bad part) :
    Leaves bad' cs ds := by
  obtain ⟨marked, whole, left, sound⟩ := h
  exact ⟨marked, whole, left, fun stretch within kept found =>
    sound stretch within kept (fewer _ found)⟩

end Leaves

section Passes

variable {measure : List Char → Nat} {bad : List Char → Prop} {cs : List Char}

/-- A pass goes by a measure that finds the texts of a kind wherever they begin. -/
structure Finds (measure : List Char → Nat) (bad : List Char → Prop) : Prop where
  some_ : ¬ bad []
  found_iff : ∀ cs, measure cs ≠ 0 ↔ ∃ part, bad part ∧ part <+: cs

theorem strip_cons_of_found {c : Char} {n : Nat} (found : measure (c :: cs) = n + 1) :
    strip measure 0 (c :: cs) = strip measure n cs := by
  rw [strip, found]

theorem strip_sublist (measure : List Char → Nat) (skip : Nat) (cs : List Char) :
    (strip measure skip cs).Sublist cs := by
  induction cs generalizing skip with
  | nil => exact List.Sublist.refl []
  | cons c cs ih =>
    cases skip with
    | succ k => exact (ih k).cons c
    | zero =>
      cases found : measure (c :: cs) with
      | zero =>
        rw [strip_kept found]
        exact (ih 0).cons_cons c
      | succ n =>
        rw [strip_cons_of_found found]
        exact (ih n).cons c

/-- A pass leaves a text as it is exactly if there is nothing to be found in it. -/
theorem Finds.strip_eq_iff (h : Finds measure bad) :
    strip measure 0 cs = cs ↔ ∀ part, bad part → ¬ part <:+: cs := by
  induction cs with
  | nil =>
    refine ⟨fun _ part found within => ?_, fun _ => rfl⟩
    exact h.some_ (List.infix_nil.mp within ▸ found)
  | cons c cs ih =>
    cases found : measure (c :: cs) with
    | zero =>
      have absent : ∀ part, bad part → ¬ part <+: c :: cs := fun part one front =>
        (h.found_iff (c :: cs)).mpr ⟨part, one, front⟩ found
      rw [strip_kept found, List.cons.injEq, eq_self, true_and, ih]
      constructor
      · intro clean part one within
        rcases List.infix_cons_iff.mp within with front | later
        · exact absent part one front
        · exact clean part one later
      · intro clean part one within
        exact clean part one (List.infix_cons within)
    | succ n =>
      have shorter := (strip_sublist measure n cs).length_le
      rw [strip_cons_of_found found]
      constructor
      · intro same
        have length := congrArg List.length same
        rw [List.length_cons] at length
        omega
      · intro clean
        have some_ : measure (c :: cs) ≠ 0 := by omega
        obtain ⟨part, one, front⟩ := (h.found_iff (c :: cs)).mp some_
        exact absurd front.isInfix (clean part one)

theorem Finds.leaves_strip (h : Finds measure bad) (skip : Nat) (cs : List Char) :
    Leaves bad cs (strip measure skip cs) := by
  have dropped (c : Char) {cs left : List Char} (h' : Leaves bad cs left) :
      Leaves bad (c :: cs) left := by
    obtain ⟨marked, whole, left_, sound⟩ := h'
    refine ⟨(c, false) :: marked, congrArg (c :: ·) whole, left_, ?_⟩
    intro stretch within kept
    rcases List.infix_cons_iff.mp within with front | later
    · rcases List.prefix_cons_iff.mp front with rfl | ⟨stretch, rfl, -⟩
      · exact h.some_
      · exact absurd (kept _ List.mem_cons_self) Bool.false_ne_true
    · exact sound stretch later kept
  induction cs generalizing skip with
  | nil =>
    refine ⟨[], rfl, rfl, fun stretch within _ => ?_⟩
    rw [List.infix_nil.mp within]
    exact h.some_
  | cons c cs ih =>
    cases skip with
    | succ k => exact dropped c (ih k)
    | zero =>
      cases found : measure (c :: cs) with
      | succ n =>
        rw [strip_cons_of_found found]
        exact dropped c (ih n)
      | zero =>
        obtain ⟨marked, whole, left, sound⟩ := ih 0
        rw [strip_kept found]
        refine ⟨(c, true) :: marked, congrArg (c :: ·) whole, congrArg (c :: ·) left, ?_⟩
        intro stretch within kept
        rcases List.infix_cons_iff.mp within with front | later
        · intro one
          have start : stretch.map Prod.fst <+: c :: cs := by
            have mapped := front.map Prod.fst
            rwa [List.map_cons, whole] at mapped
          exact (h.found_iff (c :: cs)).mpr ⟨_, one, start⟩ found
        · exact sound stretch later kept

end Passes

section Families

variable {cs : List Char}

theorem run_split (p : Char → Bool) (cs : List Char) :
    cs.takeWhile p ++ cs.drop (run p cs) = cs ∧ ∀ c ∈ cs.takeWhile p, p c := by
  have front : cs.takeWhile p = cs.take (run p cs) :=
    List.prefix_iff_eq_take.mp (List.takeWhile_prefix p)
  refine ⟨?_, fun c mem => List.mem_takeWhile_imp mem⟩
  rw [front, List.take_append_drop]

theorem exists_command (found : commandLength cs ≠ 0) :
    ∃ part, Sequence .command part ∧ part <+: cs := by
  unfold commandLength at found
  split at found
  next cs =>
    obtain ⟨whole, digits⟩ := run_split isDigit cs
    dsimp only at found
    split at found
    · exact absurd rfl found
    next fits =>
      have some_ : cs.takeWhile isDigit ≠ [] := fun none => fits (Or.inl (by rw [run, none]; rfl))
      have few : (cs.takeWhile isDigit).length ≤ 4 := by
        change run isDigit cs ≤ 4
        omega
      split at found
      next rest coded =>
        obtain ⟨whole', plain⟩ := run_split isPayload rest
        rw [← whole, coded, ← whole']
        split at found
        next tail ended =>
          refine ⟨_, .command digits some_ few plain (.inl rfl), tail, ?_⟩
          simp [ended, escape, bell]
        next tail ended =>
          refine ⟨_, .command digits some_ few plain (.inr rfl), tail, ?_⟩
          simp [ended, escape, terminator]
        next => exact absurd rfl found
      next => exact absurd rfl found
  next => exact absurd rfl found

theorem exists_control (found : controlLength cs ≠ 0) :
    ∃ part, Sequence .control part ∧ part <+: cs := by
  unfold controlLength at found
  split at found
  next cs =>
    obtain ⟨whole, first⟩ := run_split isParameter cs
    obtain ⟨whole', second⟩ := run_split isIntermediate (cs.drop (run isParameter cs))
    rw [List.drop_drop] at whole'
    dsimp only at found
    split at found
    next last tail ended =>
      split at found
      next final =>
        refine ⟨_, .control first second final, tail, ?_⟩
        have after : (cs.drop (run isParameter cs)).takeWhile isIntermediate ++ last :: tail =
            cs.drop (run isParameter cs) := ended ▸ whole'
        simp only [List.cons_append, List.append_assoc, List.nil_append, after, whole]
        rfl
      next => exact absurd rfl found
    next => exact absurd rfl found
  next => exact absurd rfl found

theorem throughTerminator_ne_zero (payload rest : List Char) :
    throughTerminator (payload ++ (terminator ++ rest)) ≠ 0 := by
  induction payload with
  | nil => exact Nat.succ_ne_zero 1
  | cons c payload ih =>
    rw [List.cons_append]
    generalize payload ++ (terminator ++ rest) = cs at ih
    unfold throughTerminator
    split
    · cases ‹_ :: _ = []›
    · exact Nat.succ_ne_zero 1
    next same =>
      obtain ⟨-, rfl⟩ := List.cons.inj same
      obtain ⟨n, later⟩ := Nat.exists_eq_succ_of_ne_zero ih
      rw [later]
      exact Nat.succ_ne_zero _

theorem exists_terminator (found : throughTerminator cs ≠ 0) :
    ∃ payload rest, cs = payload ++ (terminator ++ rest) := by
  fun_induction throughTerminator cs with
  | case1 => exact absurd rfl found
  | case2 rest => exact ⟨[], rest, rfl⟩
  | case3 c cs _ none ih => exact absurd rfl found
  | case4 c cs _ n later ih =>
    obtain ⟨payload, rest, rfl⟩ := ih (by omega)
    exact ⟨c :: payload, rest, rfl⟩

theorem exists_application (found : applicationLength cs ≠ 0) :
    ∃ part, Sequence .application part ∧ part <+: cs := by
  unfold applicationLength at found
  split at found
  next cs =>
    have ended : throughTerminator cs ≠ 0 := fun none => by rw [none] at found; exact found rfl
    obtain ⟨payload, rest, rfl⟩ := exists_terminator ended
    refine ⟨_, .application payload, rest, ?_⟩
    rw [List.cons_append, List.cons_append, List.append_assoc]
    rfl
  next => exact absurd rfl found

theorem finds_sequences (f : Family) : Finds f.measure (Sequence f) where
  some_ := by
    rintro ⟨⟩
  found_iff cs := by
    constructor
    · intro found
      cases f with
      | command => exact exists_command found
      | control => exact exists_control found
      | application => exact exists_application found
    · rintro ⟨part, formed, rest, rfl⟩
      cases formed with
      | command digits some_ few plain ends =>
        have length := commandLength_eq digits some_ few plain ends rest
        simp only [Family.measure, List.cons_append, List.append_assoc]
        omega
      | control first second final =>
        have length := controlLength_eq first second final rest
        simp only [Family.measure, List.cons_append, List.append_assoc, List.nil_append]
        omega
      | application payload =>
        obtain ⟨n, ended⟩ := Nat.exists_eq_succ_of_ne_zero (throughTerminator_ne_zero payload rest)
        have length : applicationLength (escape :: '_' :: (payload ++ (terminator ++ rest))) =
            n + 3 := by
          change applicationLength ('\x1b' :: '_' :: _) = _
          simp only [applicationLength, ended]
        simp only [Family.measure, List.cons_append, List.append_assoc]
        omega

end Families

section Whole

variable {cs : List Char}

def returnLength : List Char → Nat
  | '\r' :: '\n' :: _ => 1
  | _ => 0

def bellLength : List Char → Nat
  | '\x07' :: _ => 1
  | _ => 0

theorem finds_returns : Finds returnLength (· = ['\r', '\n']) where
  some_ := nofun
  found_iff cs := by
    unfold returnLength
    split
    next rest => exact ⟨fun _ => ⟨_, rfl, rest, rfl⟩, fun _ => Nat.one_ne_zero⟩
    next other =>
      refine ⟨fun found => absurd rfl found, ?_⟩
      rintro ⟨part, rfl, rest, whole⟩
      exact absurd whole.symm (other rest)

theorem finds_bells : Finds bellLength (· = [bell]) where
  some_ := nofun
  found_iff cs := by
    unfold bellLength
    split
    next rest => exact ⟨fun _ => ⟨_, rfl, rest, rfl⟩, fun _ => Nat.one_ne_zero⟩
    next other =>
      refine ⟨fun found => absurd rfl found, ?_⟩
      rintro ⟨part, rfl, rest, whole⟩
      exact absurd whole.symm (other rest)

theorem foldLineEnds_eq_strip (cs : List Char) : foldLineEnds cs = strip returnLength 0 cs := by
  fun_induction foldLineEnds cs with
  | case1 => rfl
  | case2 cs ih =>
    have feed : strip returnLength 0 ('\n' :: cs) = '\n' :: strip returnLength 0 cs := strip_kept rfl
    rw [strip_cons_of_found (n := 0) rfl, feed, ih]
  | case3 c cs other ih =>
    have none : returnLength (c :: cs) = 0 := by
      unfold returnLength
      split
      next rest same =>
        obtain ⟨rfl, rfl⟩ := List.cons.inj same
        exact absurd rfl (other rest rfl)
      next => rfl
    rw [strip_kept none, ih]

theorem filter_eq_strip (cs : List Char) : cs.filter (· ≠ bell) = strip bellLength 0 cs := by
  induction cs with
  | nil => rfl
  | cons c cs ih =>
    by_cases same : c = bell
    · subst same
      rw [strip_cons_of_found (n := 0) rfl, ← ih]
      rfl
    · have none : bellLength (c :: cs) = 0 := by
        unfold bellLength
        split
        next head => exact absurd (List.cons.inj head).1 same
        next => rfl
      rw [strip_kept none, ← ih, List.filter_cons_of_pos (by simpa using same)]

namespace Kind

/-- What the pass for a kind goes by; of a line end it takes out the carriage return. -/
def measure : Kind → List Char → Nat
  | lineEnd => returnLength
  | sequence f => f.measure
  | bell => bellLength

theorem finds (k : Kind) : Finds k.measure k.Is := by
  cases k with
  | lineEnd => exact finds_returns
  | sequence f => exact finds_sequences f
  | bell => exact finds_bells

def order : List Kind :=
  [lineEnd, sequence .command, sequence .control, sequence .application, bell]

theorem mem_order (k : Kind) : k ∈ order := by
  cases k with
  | sequence f => cases f <;> decide
  | _ => decide

def pass (cs : List Char) (k : Kind) : List Char := strip k.measure 0 cs

theorem passes_sublist (kinds : List Kind) (cs : List Char) : (kinds.foldl pass cs).Sublist cs := by
  induction kinds generalizing cs with
  | nil => exact List.Sublist.refl cs
  | cons k kinds ih => exact (ih (pass cs k)).trans (strip_sublist _ _ _)

/-- Passes that change a text together change it one by one: none puts back what another took. -/
theorem passes_eq_iff (kinds : List Kind) :
    kinds.foldl pass cs = cs ↔ ∀ k ∈ kinds, pass cs k = cs := by
  induction kinds with
  | nil => simp
  | cons k kinds ih =>
    rw [List.foldl_cons, List.forall_mem_cons, ← ih]
    constructor
    · intro same
      have later := passes_sublist kinds (pass cs k)
      rw [same] at later
      have first : pass cs k = cs := (strip_sublist _ _ _).antisymm later
      rw [first] at same
      exact ⟨first, same⟩
    · rintro ⟨first, same⟩
      rw [first, same]

theorem leaves_passes (kinds : List Kind) (cs : List Char) :
    Leaves (fun part => ∃ k ∈ kinds, Is k part) cs (kinds.foldl pass cs) := by
  induction kinds generalizing cs with
  | nil =>
    have back : (cs.map fun c => (c, true)).map Prod.fst = cs := by
      rw [List.map_map]
      exact List.map_id cs
    have all : (cs.map fun c => (c, true)).filter Prod.snd = cs.map fun c => (c, true) := by
      rw [List.filter_eq_self]
      intro p mem
      obtain ⟨c, -, rfl⟩ := List.mem_map.mp mem
      rfl
    refine ⟨cs.map fun c => (c, true), back, all.symm ▸ back, ?_⟩
    rintro stretch - - ⟨k, mem, -⟩
    cases mem
  | cons k kinds ih =>
    refine ((k.finds.leaves_strip 0 cs).trans (ih (pass cs k))).mono ?_
    rintro part ⟨k', mem, one⟩
    rcases List.mem_cons.mp mem with rfl | mem
    · exact Or.inl one
    · exact Or.inr ⟨k', mem, one⟩

end Kind

theorem ofChars_eq_passes (cs : List Char) : ofChars cs = Kind.order.foldl Kind.pass cs := by
  simp only [ofChars, foldLineEnds_eq_strip, filter_eq_strip]
  rfl

theorem ofChars_eq_iff : ofChars cs = cs ↔ Clean cs := by
  rw [ofChars_eq_passes, Kind.passes_eq_iff]
  constructor
  · intro same k
    exact k.finds.strip_eq_iff.mp (same k k.mem_order)
  · intro clean k _
    exact k.finds.strip_eq_iff.mpr (clean k)

/-- Nothing begins a line end or a sequence in a text of ordinary characters and line feeds. -/
theorem clean_of_plain (plain : ∀ c ∈ cs, c ∉ [escape, bell, '\r']) : Clean cs := by
  intro k part one within
  have start : ∃ c ∈ part, c ∈ [escape, bell, '\r'] := by
    cases k with
    | lineEnd =>
      obtain rfl : part = ['\r', '\n'] := one
      exact ⟨'\r', by decide, by decide⟩
    | bell =>
      obtain rfl : part = [bell] := one
      exact ⟨bell, by decide, by decide⟩
    | sequence f =>
      refine ⟨escape, ?_, by decide⟩
      cases one <;> exact List.mem_cons_self
  obtain ⟨c, mem, special⟩ := start
  exact plain c (within.subset mem) special

theorem clean_kept (tokens : List Token) : Clean (tokens.flatMap Token.kept) := by
  refine clean_of_plain fun c mem => ?_
  obtain ⟨t, -, mem⟩ := List.mem_flatMap.mp mem
  cases t with
  | ordinary d plain =>
    obtain rfl := List.mem_singleton.mp mem
    simpa using plain
  | lineEnd =>
    obtain rfl := List.mem_singleton.mp mem
    decide
  | _ => cases mem

end Whole

/-- What the passes take out is left only where dropped characters stood inside it, and making plain
text again changes nothing exactly if there is none of it. -/
theorem plain_plain_eq_iff (s : String) :
    bell ∉ (plain s).toList ∧
      (plain (plain s) = plain s ↔ Clean (plain s).toList) ∧
      Leaves (fun part => ∃ k, Kind.Is k part) s.toList (plain s).toList ∧
      ∀ tokens, Clean (plain (String.ofList (textOf tokens))).toList := by
  have listed (s : String) : (plain s).toList = ofChars s.toList := String.toList_ofList
  refine ⟨?_, ?_, ?_, fun tokens => ?_⟩
  · rw [listed, ofChars]
    intro mem
    exact of_decide_eq_true (List.mem_filter.mp mem).2 rfl
  · rw [← ofChars_eq_iff, ← listed, String.toList_inj]
  · rw [listed, ofChars_eq_passes]
    refine (Kind.leaves_passes Kind.order s.toList).mono ?_
    rintro part ⟨k, one⟩
    exact ⟨k, k.mem_order, one⟩
  · have whole := ofChars_textOf tokens []
    rw [listed, String.toList_ofList]
    rw [List.append_nil] at whole
    rw [whole]
    exact (List.append_nil _).symm ▸ clean_kept tokens

/-- A bell inside a colour, a colour inside a title, and a carriage return before a line end: what is
dropped joins what stood around it. -/
theorem dropping_joins :
    (plain "\x1b\x07[31m" = "\x1b[31m" ∧ plain (plain "\x1b\x07[31m") = "" ∧
      ¬ Clean (plain "\x1b\x07[31m").toList) ∧
    (plain "\x1b]0;\x1b[m~\x1b\\" = "\x1b]0;~\x1b\\" ∧
      plain (plain "\x1b]0;\x1b[m~\x1b\\") = "" ∧
      ¬ Clean (plain "\x1b]0;\x1b[m~\x1b\\").toList) ∧
    plain "\r\r\n" = "\r\n" ∧ plain (plain "\r\r\n") = "\n" ∧
      ¬ Clean (plain "\r\r\n").toList := by
  have colour : plain "\x1b\x07[31m" = "\x1b[31m" := by decide
  have title : plain "\x1b]0;\x1b[m~\x1b\\" = "\x1b]0;~\x1b\\" := by decide
  have line : plain "\r\r\n" = "\r\n" := by decide
  refine ⟨⟨colour, by rw [colour]; decide, fun clean => ?_⟩,
    ⟨title, by rw [title]; decide, fun clean => ?_⟩, line, by rw [line]; decide, fun clean => ?_⟩
  · rw [colour] at clean
    have parameters : ∀ c ∈ ['3', '1'], isParameter c := List.all_eq_true.mp (by decide)
    have formed : Sequence .control "\x1b[31m".toList :=
      @Sequence.control ['3', '1'] [] 'm' parameters nofun (by decide)
    exact clean (.sequence .control) _ formed (List.infix_refl _)
  · rw [title] at clean
    have digits : ∀ c ∈ ['0'], isDigit c := List.all_eq_true.mp (by decide)
    have payload : ∀ c ∈ ['~'], isPayload c := List.all_eq_true.mp (by decide)
    have formed : Sequence .command "\x1b]0;~\x1b\\".toList :=
      @Sequence.command ['0'] ['~'] terminator digits (by decide) (by decide) payload (.inr rfl)
    exact clean (.sequence .command) _ formed (List.infix_refl _)
  · rw [line] at clean
    exact clean .lineEnd _ rfl (List.infix_refl _)

end HostWatch.Text.Plain
