import HostWatch.Proofs.Watch.Replies
import HostWatch.Proofs.Watch.Step

namespace HostWatch

namespace Act

def isAwaited : Act → Bool
  | .publish | .report _ | .dropLoop _ false => false
  | _ => true

def leadsTo : Act → Event → Bool
  | .startLoop g, .loopBegins g' => g = g'
  | .dropLoop _ true, .loopCleared => true
  | .fetch g topic _, .replied g' topic' _ => g = g' && topic = topic'
  | .rest g, .rested g' => g = g'
  | .startKill pid aim, .killBegins pid' aim' => pid = pid' && aim = aim'
  | .requestKill pid aim, .killReplied pid' g _ => pid = pid' && aim.generation = g
  | _, _ => false

theorem leadsTo_generation {a : Act} {event : Event} (h : a.leadsTo event) :
    a.generation? = event.generation? := by
  cases a with
  | dropLoop g begun =>
    cases begun <;> cases event <;> simp_all [leadsTo, generation?, Event.generation?]
  | _ => cases event <;> simp_all [leadsTo, generation?, Event.generation?]

end Act

theorem Telemetry.ComesFrom.awaitAll {t : Telemetry} {notes : List Note} (h : t.ComesFrom notes)
    (none : ∀ topic, repliesIn notes topic = []) : t.awaitAll.ComesFrom notes := by
  unfold Telemetry.awaitAll Topic.all
  simp only [List.foldl_cons, List.foldl_nil]
  exact (((h.await none _).await none _).await none _).await none _

/-- An act that something is to come of, and the run that it was caused in. -/
structure Errand where
  run : Nat
  act : Act
  deriving DecidableEq, Repr

/-- An engine, its errands, and what the present run has heard, the earliest first. -/
structure System where
  engine : Engine := {}
  runs : Nat := 0
  errands : List Errand := []
  heard : List Note := []

namespace System

/-- What can happen: a call, or that an errand comes to its end or to none at all. -/
inductive Move where
  | start (target : Target)
  | stop
  | kill (pid : UInt32)
  | done (place : Nat) (event : Event)
  | lost (place : Nat)

def errandsOf (run : Nat) (acts : List Act) : List Errand :=
  (acts.filter Act.isAwaited).map fun a => ⟨run, a⟩

def follow (run : Nat) (o : Engine.Outcome) (s : System) : System × List Act :=
  ({ s with engine := o.1, errands := s.errands ++ errandsOf run o.2 }, o.2)

/-- What the present run hears when an errand ends: the replies to what it has asked for itself. -/
def note? (s : System) (e : Errand) : Event → Option Note
  | .replied _ topic reply =>
    if s.engine.isRunning && e.run = s.runs then some (.reply topic reply) else none
  | .killReplied pid _ (.ok ()) =>
    if s.engine.isRunning && e.run = s.runs then some (.killed pid) else none
  | _ => none

def finish (s : System) (place : Nat) (e : Errand) (event : Event) : System × List Act :=
  { s with
    errands := s.errands.eraseIdx place
    heard := s.heard ++ (s.note? e event).toList }.follow e.run (s.engine.step event)

/-- What a move leads to, and the acts that are done. What cannot happen changes nothing. -/
def next (s : System) : Move → System × List Act
  | .start target =>
    match s.engine.start target with
    | .ok o => { s with runs := s.runs + 1, heard := [] }.follow (s.runs + 1) o
    | .error _ => (s, [])
  | .stop => s.follow s.runs s.engine.stop
  | .kill pid => s.follow s.runs (s.engine.kill pid)
  | .done place event =>
    match s.errands[place]? with
    | some e => if e.act.leadsTo event then s.finish place e event else (s, [])
    | none => (s, [])
  | .lost place => ({ s with errands := s.errands.eraseIdx place }, [])

def run (s : System) (moves : List Move) : System := moves.foldl (fun s move => (s.next move).1) s

theorem run_append (s : System) (moves moves' : List Move) :
    s.run (moves ++ moves') = (s.run moves).run moves' := List.foldl_append

def acts : System → List Move → List Act
  | _, [] => []
  | s, move :: moves => (s.next move).2 ++ (s.next move).1.acts moves

/-- What holds of the system at all times. -/
structure Sound (s : System) : Prop where
  known : s.engine.telemetry.ComesFrom s.heard
  published : ∀ r ∈ s.engine.run, s.engine.telemetry.generation = r.generation
  waiting : ∀ r ∈ s.engine.run, r.progress = .waiting →
    (∀ topic, repliesIn s.heard topic = []) ∧
      ∀ e ∈ s.errands, e.act.loop? = some r.generation → e.act = .startLoop r.generation
  stamped : ∀ e ∈ s.errands, ∀ g ∈ e.act.generation?,
    g ≤ s.engine.telemetry.generation ∧
      (g = s.engine.telemetry.generation ↔ s.engine.isRunning = true ∧ e.run = s.runs)
  past : ∀ e ∈ s.errands, e.run ≤ s.runs

theorem sound_init : Sound {} where
  known := rfl
  published := by simp
  waiting := by simp
  stamped := by simp
  past := by simp

theorem mem_errandsOf {run : Nat} {acts : List Act} {e : Errand} (h : e ∈ errandsOf run acts) :
    e.run = run ∧ e.act ∈ acts := by
  obtain ⟨a, ha, rfl⟩ := List.mem_map.mp h
  exact ⟨rfl, (List.mem_filter.mp ha).1⟩

section Sound

variable {s : System}

theorem Sound.start (h : Sound s) {target : Target} {base : Address.Url}
    (ok : target.base = .ok base) : Sound (s.next (.start target)).1 := by
  simp only [next, Engine.start_ok s.engine ok, follow]
  have fresh {e : Errand} (mem : e ∈ errandsOf (s.runs + 1) (s.engine.giveUp.2 ++
      [.publish, .startLoop (s.engine.telemetry.generation + 1)])) :
      e.run = s.runs + 1 ∧
        (e.act.generation? = none ∨ e.act = .startLoop (s.engine.telemetry.generation + 1)) := by
    obtain ⟨same, act⟩ := mem_errandsOf mem
    refine ⟨same, ?_⟩
    rcases List.mem_append.mp act with given | act
    · obtain ⟨r, -, eq⟩ := Engine.mem_giveUp.mp given
      exact Or.inl (eq ▸ rfl)
    · simp only [List.mem_cons, List.not_mem_nil, or_false] at act
      rcases act with eq | eq
      · exact Or.inl (eq ▸ rfl)
      · exact Or.inr eq
  refine ⟨Telemetry.comesFrom_nil _ _, ?_, ?_, ?_, ?_⟩
  · rintro r ⟨⟩
    rfl
  · rintro r ⟨⟩ -
    refine ⟨fun topic => rfl, fun e mem loop => ?_⟩
    have generation := Act.generation_of_loop loop
    rcases List.mem_append.mp mem with old | new
    · have earlier := (h.stamped e old _ generation).1
      dsimp only at earlier
      omega
    · rcases (fresh new).2 with none | eq
      · rw [none] at generation
        cases generation
      · exact eq
  · intro e mem g hg
    rcases List.mem_append.mp mem with old | new
    · have earlier := (h.stamped e old g hg).1
      have past := h.past e old
      simp only [Telemetry.fresh]
      omega
    · obtain ⟨same, none | eq⟩ := fresh new
      · rw [none] at hg
        cases hg
      · rw [eq] at hg
        cases hg
        exact ⟨Nat.le_refl _, fun _ => ⟨rfl, same⟩, fun _ => rfl⟩
  · intro e mem
    rcases List.mem_append.mp mem with old | new
    · exact Nat.le_succ_of_le (h.past e old)
    · exact Nat.le_of_eq (fresh new).1

theorem Sound.stop (h : Sound s) : Sound (s.next .stop).1 := by
  cases hr : s.engine.run with
  | none =>
    simp only [next, Engine.stop_none hr, follow, errandsOf, List.filter_nil, List.map_nil,
      List.append_nil]
    exact h
  | some r =>
    simp only [next, Engine.stop_some hr, follow]
    have fresh {e : Errand} (mem : e ∈ errandsOf s.runs
        [.publish, .dropLoop r.generation (r.progress ≠ .waiting)]) :
        e.run = s.runs ∧ e.act.generation? = none := by
      obtain ⟨same, act⟩ := mem_errandsOf mem
      simp only [List.mem_cons, List.not_mem_nil, or_false] at act
      refine ⟨same, ?_⟩
      rcases act with eq | eq <;> rw [eq] <;> rfl
    refine ⟨?_, by simp, by simp, ?_, ?_⟩
    · have known := h.known
      unfold Telemetry.ComesFrom at known ⊢
      rw [known]
    · intro e mem g hg
      rcases List.mem_append.mp mem with old | new
      · have earlier := (h.stamped e old g hg).1
        simp only [Engine.isRunning, Option.isSome_none, Bool.false_eq_true, false_and, iff_false]
        omega
      · rw [(fresh new).2] at hg
        cases hg
    · intro e mem
      rcases List.mem_append.mp mem with old | new
      · exact h.past e old
      · exact Nat.le_of_eq (fresh new).1

theorem Sound.kill (h : Sound s) (pid : UInt32) : Sound (s.next (.kill pid)).1 := by
  have cases {e : Errand} (mem : e ∈ (s.next (.kill pid)).1.errands) :
      e ∈ s.errands ∨
        e = ⟨s.runs, .startKill pid (s.engine.run.map fun r => ⟨r.base, r.generation⟩)⟩ := by
    rcases List.mem_append.mp mem with old | new
    · exact Or.inl old
    · exact Or.inr (List.mem_singleton.mp new)
  refine ⟨h.known, h.published, ?_, ?_, ?_⟩
  · intro r hr waiting
    refine ⟨(h.waiting r hr waiting).1, fun e mem loop => ?_⟩
    rcases cases mem with old | rfl
    · exact (h.waiting r hr waiting).2 e old loop
    · cases loop
  · intro e mem g hg
    rcases cases mem with old | rfl
    · exact h.stamped e old g hg
    · obtain ⟨aim, aimed, rfl⟩ := Option.map_eq_some_iff.mp hg
      obtain ⟨r, hr, rfl⟩ := Option.map_eq_some_iff.mp aimed
      have published := h.published r hr
      refine ⟨Nat.le_of_eq published.symm, fun _ => ⟨?_, rfl⟩, fun _ => published.symm⟩
      exact Option.isSome_of_mem hr
  · intro e mem
    rcases cases mem with old | rfl
    · exact h.past e old
    · exact Nat.le_refl _

theorem Sound.lost (h : Sound s) (place : Nat) : Sound (s.next (.lost place)).1 := by
  have fewer {e : Errand} (mem : e ∈ s.errands.eraseIdx place) : e ∈ s.errands :=
    List.mem_of_mem_eraseIdx mem
  refine ⟨h.known, h.published, fun r hr waiting => ?_, ?_, ?_⟩
  · obtain ⟨none, only⟩ := h.waiting r hr waiting
    exact ⟨none, fun e mem => only e (fewer mem)⟩
  · exact fun e mem => h.stamped e (fewer mem)
  · exact fun e mem => h.past e (fewer mem)

section Finish

variable {e : Errand} {event : Event}

/-- What ends is of the present run just when it is of the published generation. -/
theorem Sound.current (h : Sound s) (mem : e ∈ s.errands) (leads : e.act.leadsTo event) {g : Nat}
    (hg : event.generation? = some g) :
    s.engine.telemetry.generation = g ↔ (s.engine.isRunning && e.run = s.runs) = true := by
  rw [← Act.leadsTo_generation leads] at hg
  rw [Bool.and_eq_true, decide_eq_true_eq, ← (h.stamped e mem g hg).2]
  exact eq_comm

theorem Sound.learn (h : Sound s) (mem : e ∈ s.errands) (leads : e.act.leadsTo event) :
    (s.engine.knows event).ComesFrom (s.heard ++ (s.note? e event).toList) := by
  have same := h.known
  cases event with
  | loopBegins g =>
    have silent : s.note? e (.loopBegins g) = none := rfl
    rw [silent, Option.toList_none, List.append_nil, Engine.knows]
    split
    next begins =>
      obtain ⟨r, hr, -, waiting⟩ := begins
      exact same.awaitAll (h.waiting r hr waiting).1
    next => exact same
  | replied g topic reply =>
    have current := h.current mem leads rfl
    by_cases now : s.engine.telemetry.generation = g
    · rw [note?, Engine.knows, if_pos now, if_pos (current.mp now)]
      exact same.take topic reply
    · rw [note?, Engine.knows, if_neg now, if_neg fun own => now (current.mpr own)]
      simpa using same
  | killReplied pid g reply =>
    cases reply with
    | error error =>
      have silent : s.note? e (.killReplied pid g (.error error)) = none := rfl
      rw [silent, Option.toList_none, List.append_nil]
      exact same
    | ok done =>
      have current := h.current mem leads rfl
      by_cases now : s.engine.telemetry.generation = g
      · rw [note?, Engine.knows, if_pos now, if_pos (current.mp now)]
        exact same.takeKill pid
      · rw [note?, Engine.knows, if_neg now, if_neg fun own => now (current.mpr own)]
        simpa using same
  | _ => simpa [note?, Engine.knows] using same

theorem Sound.silent (h : Sound s) (mem : e ∈ s.errands) (leads : e.act.leadsTo event) {r : Run}
    (hr : r ∈ s.engine.run) (waiting : r.progress = .waiting) (topic : Topic) :
    repliesIn (s.heard ++ (s.note? e event).toList) topic = [] := by
  obtain ⟨none, only⟩ := h.waiting r hr waiting
  have old := none topic
  have new : (s.note? e event).toList.filterMap (Note.about topic) = [] := by
    cases event with
    | replied g about reply =>
      have current := h.current mem leads rfl
      by_cases now : s.engine.telemetry.generation = g
      · have loop : e.act.loop? = some r.generation := by
          rw [← h.published r hr, now]
          cases act : e.act <;> simp_all [Act.leadsTo, Act.loop?]
        rw [only e mem loop] at leads
        cases leads
      · rw [note?, if_neg fun own => now (current.mpr own)]
        rfl
    | killReplied pid g reply =>
      cases reply with
      | error error => rfl
      | ok done =>
        simp only [note?]
        split <;> cases topic <;> rfl
    | _ => rfl
  unfold repliesIn at old ⊢
  rw [List.filterMap_append, old, new]
  rfl

theorem Sound.finish (h : Sound s) {place : Nat} (at_place : s.errands[place]? = some e)
    (leads : e.act.leadsTo event) : Sound (s.finish place e event).1 := by
  have mem := List.mem_of_getElem? at_place
  obtain ⟨goesOn, knows⟩ := Engine.step_spec h.published event
  have cases {e' : Errand} (mem' : e' ∈ (s.finish place e event).1.errands) :
      e' ∈ s.errands ∨ e'.run = e.run ∧ e'.act ∈ (s.engine.step event).2 := by
    rcases List.mem_append.mp mem' with old | new
    · exact Or.inl (List.mem_of_mem_eraseIdx old)
    · exact Or.inr (mem_errandsOf new)
  refine ⟨?_, ?_, ?_, ?_, ?_⟩
  · have learnt := h.learn mem leads
    rw [← knows] at learnt
    exact learnt
  · intro r hr
    obtain ⟨r', hr', generation, -⟩ := goesOn.earlier hr
    exact goesOn.generation.trans ((h.published r' hr').trans generation)
  · intro r hr waiting
    have begun := goesOn.begun r hr waiting
    refine ⟨h.silent mem leads begun waiting, fun e' mem' loop => ?_⟩
    rcases cases mem' with old | ⟨-, new⟩
    · exact (h.waiting r begun waiting).2 e' old loop
    · obtain ⟨r', hr', progress⟩ := goesOn.loop _ new (by simp [loop])
      cases Option.some.inj (hr'.symm.trans hr)
      exact absurd waiting progress
  · intro e' mem' g hg
    have generation := goesOn.generation
    have running := goesOn.isRunning
    change g ≤ (s.engine.step event).1.telemetry.generation ∧
      (g = (s.engine.step event).1.telemetry.generation ↔
        (s.engine.step event).1.isRunning = true ∧ e'.run = s.runs)
    rw [generation, running]
    rcases cases mem' with old | ⟨same, new⟩
    · exact h.stamped e' old g hg
    · rw [same]
      exact h.stamped e mem g ((Act.leadsTo_generation leads).trans (goesOn.stamp _ new g hg))
  · intro e' mem'
    rcases cases mem' with old | ⟨same, -⟩
    · exact h.past e' old
    · exact same ▸ h.past e mem

end Finish

theorem Sound.next (h : Sound s) (move : Move) : Sound (s.next move).1 := by
  cases move with
  | start target =>
    cases ok : target.base with
    | ok base => exact h.start ok
    | error error =>
      simp only [System.next, Engine.start_error s.engine ok]
      exact h
  | stop => exact h.stop
  | kill pid => exact h.kill pid
  | done place event =>
    simp only [System.next]
    split
    next e at_place =>
      split
      next leads => exact h.finish at_place leads
      next => exact h
    next => exact h
  | lost place => exact h.lost place

theorem Sound.run (h : Sound s) (moves : List Move) : Sound (s.run moves) := by
  induction moves generalizing s with
  | nil => exact h
  | cons move moves ih => exact ih (h.next move)

end Sound

end System

end HostWatch
