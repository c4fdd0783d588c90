import HostWatch.Proofs.Watch.Isolation
import HostWatch.Watch.Timeline
import Mathlib.Data.List.Forall2

namespace HostWatch

def Event.note? (generation : Nat) : Event → Option Note
  | .replied g topic reply => if g = generation then some (.reply topic reply) else none
  | .killReplied pid g (.ok ()) => if g = generation then some (.killed pid) else none
  | _ => none

namespace System

variable {s : System} {e : Errand} {event : Event}

theorem Sound.note (h : Sound s) (mem : e ∈ s.errands) (leads : e.act.leadsTo event) :
    s.note? e event = event.note? s.engine.telemetry.generation := by
  cases event with
  | replied g topic reply =>
    simp only [System.note?, Event.note?, ← h.current mem leads rfl, eq_comm]
  | killReplied pid g reply =>
    cases reply with
    | error error => rfl
    | ok done => simp only [System.note?, Event.note?, ← h.current mem leads rfl, eq_comm]
  | _ => rfl

theorem Sound.finish_heard (h : Sound s) {place : Nat} (at_place : s.errands[place]? = some e)
    (leads : e.act.leadsTo event) :
    (s.finish place e event).1.heard =
      s.heard ++ (event.note? s.engine.telemetry.generation).toList := by
  rw [← h.note (List.mem_of_getElem? at_place) leads]
  rfl

def Hears (s : System) (events : List Event) (s' : System) : Prop :=
  s'.heard = s.heard ++ events.filterMap (·.note? s.engine.telemetry.generation) ∧
    s'.engine.telemetry.generation = s.engine.telemetry.generation

theorem hears_nil (s : System) : s.Hears [] s := ⟨(List.append_nil _).symm, rfl⟩

theorem Hears.append {s' s'' : System} {es es' : List Event} (h : s.Hears es s')
    (h' : s'.Hears es' s'') : s.Hears (es ++ es') s'' := by
  refine ⟨?_, h'.2.trans h.2⟩
  rw [h'.1, h.1, h.2, List.filterMap_append, List.append_assoc]

theorem Sound.hears_finish (h : Sound s) {place : Nat} (at_place : s.errands[place]? = some e)
    (leads : e.act.leadsTo event) : s.Hears [event] (s.finish place e event).1 := by
  refine ⟨?_, (Engine.step_spec h.published event).1.generation⟩
  rw [h.finish_heard at_place leads]
  simp only [List.filterMap_cons, List.filterMap_nil]
  cases event.note? s.engine.telemetry.generation <;> rfl

end System

namespace Timeline

variable {σ : Type}

inductive Input where
  | start (target : Target)
  | stop
  | kill (pid : UInt32)
  | settle
  | advance (millis : Nat)
  deriving DecidableEq, Repr

/-- The timeline after a call; a target whose address is no good changes nothing. -/
def take (t : Timeline σ) : Input → Timeline σ
  | .start target => (t.start target).toOption.getD t
  | .stop => t.stop
  | .kill pid => t.kill pid
  | .settle => t.settle
  | .advance millis => t.advance millis

def takeAll (t : Timeline σ) (inputs : List Input) : Timeline σ := inputs.foldl take t

def Input.isTurn : Input → Bool
  | .start target => target.base.isOk
  | .stop => true
  | _ => false

def eventsThrough : Nat → Nat → Timeline σ → List Event
  | 0, _, _ => []
  | fuel + 1, limit, t =>
    match firstDue limit t.jobs with
    | some (j, others) => (j.event t.host).1 :: eventsThrough fuel limit (t.perform j others)
    | none => []

def settled (t : Timeline σ) : List Event := eventsThrough (t.budget t.now) t.now t

def events (t : Timeline σ) : Input → List Event
  | .settle => t.settled
  | .advance millis =>
    let u := t.settle
    t.settled ++ eventsThrough (u.budget (u.now + millis)) (u.now + millis) u
  | _ => []

def Ends (j : Job σ) (e : Errand) : Prop := ∀ host, e.act.leadsTo (j.event host).1

structure Tracks (t : Timeline σ) (s : System) : Prop where
  engine : t.engine = s.engine
  jobs : List.SublistForall₂ Ends t.jobs s.errands

theorem firstDue_spec {limit : Nat} {jobs others : List (Job σ)} {j : Job σ}
    (h : firstDue limit jobs = some (j, others)) :
    ∃ i : Nat, jobs[i]? = some j ∧ others = jobs.eraseIdx i := by
  induction jobs generalizing j others with
  | nil => cases h
  | cons k ks ih =>
    unfold firstDue at h
    split at h
    next k' rest first =>
      split at h
      · cases h
        exact ⟨0, rfl, rfl⟩
      · cases h
        obtain ⟨i, there, rfl⟩ := ih first
        exact ⟨i + 1, there, rfl⟩
    next =>
      split at h
      · cases h
        exact ⟨0, rfl, rfl⟩
      · cases h

section Sublist

variable {α β : Type} {R : α → β → Prop} {xs : List α} {ys : List β}

theorem sublistForall₂_eraseIdx (h : List.SublistForall₂ R xs ys) {i : Nat} {x : α}
    (hx : xs[i]? = some x) :
    ∃ k y, ys[k]? = some y ∧ R x y ∧ List.SublistForall₂ R (xs.eraseIdx i) (ys.eraseIdx k) := by
  induction h generalizing i with
  | nil => simp at hx
  | cons head tail ih =>
    cases i with
    | zero =>
      cases hx
      exact ⟨0, _, rfl, head, tail⟩
    | succ i =>
      obtain ⟨k, y, hy, related, rest⟩ := ih hx
      exact ⟨k + 1, y, hy, related, .cons head rest⟩
  | cons_right tail ih =>
    obtain ⟨k, y, hy, related, rest⟩ := ih hx
    exact ⟨k + 1, y, hy, related, .cons_right rest⟩

theorem sublistForall₂_append (h : List.SublistForall₂ R xs ys) {xs' : List α} {ys' : List β}
    (h' : List.SublistForall₂ R xs' ys') : List.SublistForall₂ R (xs ++ xs') (ys ++ ys') := by
  induction h with
  | @nil ys =>
    induction ys with
    | nil => exact h'
    | cons y ys ih => exact .cons_right ih
  | cons head tail ih => exact .cons head ih
  | cons_right tail ih => exact .cons_right ih

theorem sublistForall₂_filter (h : List.SublistForall₂ R xs ys) (p : α → Bool) :
    List.SublistForall₂ R (xs.filter p) ys := by
  induction h with
  | nil => exact .nil
  | @cons x y xs ys head tail ih =>
    rw [List.filter_cons]
    split
    · exact .cons head ih
    · exact .cons_right ih
  | cons_right tail ih => exact .cons_right ih

end Sublist

section Tracks

variable {t : Timeline σ} {s : System} {errands : List Errand}

theorem carryOut_engine (t : Timeline σ) (a : Act) : (t.carryOut a).engine = t.engine := by
  cases a with
  | dropLoop g begun => cases begun <;> rfl
  | _ => rfl

theorem carryOut_ends (h : List.SublistForall₂ Ends t.jobs errands) (run : Nat) (a : Act) :
    List.SublistForall₂ Ends (t.carryOut a).jobs (errands ++ System.errandsOf run [a]) := by
  have planned {jobs : List (Job σ)} (h : List.SublistForall₂ Ends jobs errands) {j : Job σ}
      (leads : ∀ host, a.leadsTo (j.event host).1) :
      List.SublistForall₂ Ends (jobs ++ [j]) (errands ++ [⟨run, a⟩]) :=
    sublistForall₂_append h (.cons leads .nil)
  have nothing {jobs : List (Job σ)} (h : List.SublistForall₂ Ends jobs errands) :
      List.SublistForall₂ Ends jobs (errands ++ []) := (List.append_nil errands).symm ▸ h
  cases a with
  | publish => exact nothing h
  | report outcome => exact nothing h
  | startLoop g => exact planned h fun _ => decide_eq_true rfl
  | dropLoop g begun =>
    have left := sublistForall₂_filter h (·.loop ≠ some g)
    cases begun with
    | false => exact nothing left
    | true => exact planned left fun _ => rfl
  | fetch g topic base =>
    refine planned h fun host => ?_
    simp [answered, Act.leadsTo]
  | rest g => exact planned h fun _ => decide_eq_true rfl
  | startKill pid aim =>
    refine planned h fun host => ?_
    simp [always, Act.leadsTo]
  | requestKill pid aim =>
    refine planned h fun host => ?_
    simp [answered, Act.leadsTo]

theorem follow_tracks (h : List.SublistForall₂ Ends t.jobs s.errands) (run : Nat)
    (o : Engine.Outcome) : (t.follow o).Tracks (s.follow run o).1 := by
  obtain ⟨e, acts⟩ := o
  have all : ∀ (t : Timeline σ) (errands : List Errand),
      List.SublistForall₂ Ends t.jobs errands →
      (acts.foldl Timeline.carryOut t).engine = t.engine ∧
        List.SublistForall₂ Ends (acts.foldl Timeline.carryOut t).jobs
          (errands ++ System.errandsOf run acts) := by
    induction acts with
    | nil => exact fun t errands h => ⟨rfl, (List.append_nil errands).symm ▸ h⟩
    | cons a acts ih =>
      intro t errands h
      obtain ⟨engine, jobs⟩ := ih (t.carryOut a) _ (carryOut_ends h run a)
      refine ⟨engine.trans (carryOut_engine t a), ?_⟩
      rw [List.append_assoc] at jobs
      have split : System.errandsOf run [a] ++ System.errandsOf run acts =
          System.errandsOf run (a :: acts) := by
        unfold System.errandsOf
        rw [← List.map_append, ← List.filter_append]
        rfl
      rw [split] at jobs
      exact jobs
  obtain ⟨engine, jobs⟩ := all { t with engine := e } s.errands h
  exact ⟨engine, jobs⟩

theorem Tracks.perform (h : t.Tracks s) {limit : Nat} {j : Job σ} {others : List (Job σ)}
    (first : firstDue limit t.jobs = some (j, others)) :
    ∃ place e, s.errands[place]? = some e ∧ e.act.leadsTo (j.event t.host).1 ∧
      (t.perform j others).Tracks (s.finish place e (j.event t.host).1).1 := by
  obtain ⟨i, there, rfl⟩ := firstDue_spec first
  obtain ⟨place, e, at_place, ends, rest⟩ := sublistForall₂_eraseIdx h.jobs there
  refine ⟨place, e, at_place, ends t.host, ?_⟩
  unfold Timeline.perform System.finish
  rw [h.engine]
  exact follow_tracks rest e.run _

/-- A timeline tracks a system after some events, and no run has begun or ended. -/
def TracksAfter (t : Timeline σ) (s : System) (events : List Event) : Prop :=
  ∃ moves : List System.Move, (∀ move ∈ moves, ¬ move.isTurn) ∧ t.Tracks (s.run moves) ∧
    s.Hears events (s.run moves)

theorem Tracks.after (h : t.Tracks s) : t.TracksAfter s [] := ⟨[], by simp, h, s.hears_nil⟩

theorem TracksAfter.append {es es' : List Event} (h : t.TracksAfter s es) {t' : Timeline σ}
    (h' : ∀ s, s.Sound → t.Tracks s → t'.TracksAfter s es') (sound : s.Sound) :
    t'.TracksAfter s (es ++ es') := by
  obtain ⟨moves, same, tracks, heard⟩ := h
  obtain ⟨moves', same', tracks', heard'⟩ := h' _ (sound.run moves) tracks
  refine ⟨moves ++ moves', fun move mem => ?_, ?_, ?_⟩
  · exact (List.mem_append.mp mem).elim (same move) (same' move)
  · rw [System.run_append]
    exact tracks'
  · rw [System.run_append]
    exact heard.append heard'

theorem Tracks.performAfter (h : t.Tracks s) (sound : s.Sound) {limit : Nat} {j : Job σ}
    {others : List (Job σ)} (first : firstDue limit t.jobs = some (j, others)) :
    (t.perform j others).TracksAfter s [(j.event t.host).1] := by
  obtain ⟨place, e, at_place, leads, tracks⟩ := h.perform first
  have moved :
      s.run [.done place (j.event t.host).1] = (s.finish place e (j.event t.host).1).1 := by
    simp only [System.run, List.foldl_cons, List.foldl_nil, System.next, at_place, leads, if_true]
  refine ⟨[.done place (j.event t.host).1], ?_, ?_, ?_⟩
  · simp [System.Move.isTurn, System.Move.begins]
  · rw [moved]
    exact tracks
  · rw [moved]
    exact sound.hears_finish at_place leads

theorem Tracks.runThrough (h : t.Tracks s) (sound : s.Sound) (fuel limit : Nat) :
    (Timeline.runThrough fuel limit t).TracksAfter s (eventsThrough fuel limit t) := by
  induction fuel generalizing t s with
  | zero => exact h.after
  | succ fuel ih =>
    cases first : firstDue limit t.jobs with
    | none =>
      simp only [Timeline.runThrough, eventsThrough, first]
      exact h.after
    | some due =>
      obtain ⟨j, others⟩ := due
      simp only [Timeline.runThrough, eventsThrough, first]
      exact (h.performAfter sound first).append (fun s sound tracks => ih tracks sound) sound

theorem Tracks.settle (h : t.Tracks s) (sound : s.Sound) : t.settle.TracksAfter s t.settled :=
  h.runThrough sound _ _

theorem start_of_ok (t : Timeline σ) {target : Target} {base : Address.Url}
    (ok : target.base = .ok base) :
    ∃ o, t.engine.start target = .ok o ∧ t.take (.start target) = t.follow o := by
  refine ⟨_, Engine.start_ok t.engine ok, ?_⟩
  simp only [take, Timeline.start]
  rw [Engine.start_ok t.engine ok]
  rfl

theorem start_of_error (t : Timeline σ) {target : Target} {error : Error}
    (failed : target.base = .error error) : t.take (.start target) = t := by
  simp only [take, Timeline.start]
  rw [Engine.start_error t.engine failed]
  rfl

/-- A call that neither begins a run nor ends one leads to what happens through its time. -/
theorem Tracks.take_same (h : t.Tracks s) (sound : s.Sound) {input : Input}
    (same : ¬ input.isTurn) : (t.take input).TracksAfter s (t.events input) := by
  cases input with
  | start target =>
    cases ok : target.base with
    | ok base => simp [Input.isTurn, ok, Except.isOk, Except.toBool] at same
    | error error =>
      rw [start_of_error t ok]
      exact h.after
  | stop => exact absurd rfl same
  | kill pid =>
    refine ⟨[.kill pid], by simp [System.Move.isTurn, System.Move.begins], ?_, ?_, rfl⟩
    · change (t.follow (t.engine.kill pid)).Tracks (s.follow s.runs (s.engine.kill pid)).1
      rw [h.engine]
      exact follow_tracks h.jobs _ _
    · exact (List.append_nil _).symm
  | settle => exact h.settle sound
  | advance millis =>
    refine (h.settle sound).append (fun s' sound' tracks => ?_) sound
    obtain ⟨moves, same, tracks', heard⟩ := tracks.runThrough sound' _ _
    exact ⟨moves, same, ⟨tracks'.engine, tracks'.jobs⟩, heard⟩

theorem Tracks.start (h : t.Tracks s) {target : Target} {base : Address.Url}
    (ok : target.base = .ok base) :
    (t.take (.start target)).Tracks (s.next (.start target)).1 := by
  obtain ⟨o, started, eq⟩ := t.start_of_ok ok
  rw [h.engine] at started
  rw [eq]
  simp only [System.next, started]
  exact follow_tracks (s := { s with runs := s.runs + 1, heard := [] }) h.jobs _ _

theorem Tracks.take (h : t.Tracks s) (sound : s.Sound) (input : Input) :
    ∃ moves, (t.take input).Tracks (s.run moves) := by
  by_cases turn : input.isTurn
  · cases input with
    | start target =>
      cases ok : target.base with
      | ok base => exact ⟨[.start target], h.start ok⟩
      | error error => simp [Input.isTurn, ok, Except.isOk, Except.toBool] at turn
    | stop =>
      refine ⟨[.stop], ?_⟩
      change (t.follow t.engine.stop).Tracks (s.follow s.runs s.engine.stop).1
      rw [h.engine]
      exact follow_tracks h.jobs _ _
    | _ => cases turn
  · obtain ⟨moves, -, tracks, -⟩ := h.take_same sound turn
    exact ⟨moves, tracks⟩

/-- Whatever is called on a timeline, what it comes to is what can happen in some order. -/
theorem Tracks.takeAll (h : t.Tracks s) (sound : s.Sound) (inputs : List Input) :
    ∃ moves, (t.takeAll inputs).Tracks (s.run moves) := by
  induction inputs generalizing t s with
  | nil => exact ⟨[], h⟩
  | cons input inputs ih =>
    obtain ⟨moves, tracks⟩ := h.take sound input
    obtain ⟨moves', tracks'⟩ := ih tracks (sound.run moves)
    refine ⟨moves ++ moves', ?_⟩
    rw [System.run_append]
    exact tracks'

end Tracks

end Timeline

end HostWatch
