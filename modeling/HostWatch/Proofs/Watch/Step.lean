import HostWatch.Watch.Engine

namespace HostWatch

namespace Act

def loop? : Act → Option Nat
  | .startLoop g | .fetch g _ _ | .rest g => some g
  | _ => none

def generation? : Act → Option Nat
  | .startLoop g | .fetch g _ _ | .rest g => some g
  | .startKill _ aim => aim.map (·.generation)
  | .requestKill _ aim => some aim.generation
  | _ => none

theorem generation_of_loop {a : Act} {g : Nat} (h : a.loop? = some g) : a.generation? = some g := by
  cases a <;> first | exact h | cases h

end Act

def Event.generation? : Event → Option Nat
  | .loopBegins g | .replied g _ _ | .rested g | .killReplied _ g _ => some g
  | .killBegins _ aim => aim.map (·.generation)
  | .loopCleared => none

namespace Engine

/-- A change that leaves the run with its address and its generation; it never begins anew, and all
acts are of the generation that has caused them. -/
structure GoesOn (cause : Option Nat) (e : Engine) (o : Outcome) : Prop where
  generation : o.1.telemetry.generation = e.telemetry.generation
  target : o.1.telemetry.target = e.telemetry.target
  run : o.1.run.map (fun r => (r.base, r.generation)) = e.run.map fun r => (r.base, r.generation)
  begun : ∀ r ∈ o.1.run, r.progress = .waiting → e.run = some r
  loop : ∀ a ∈ o.2, a.loop? ≠ none → ∃ r ∈ o.1.run, r.progress ≠ .waiting
  fetch : ∀ g topic base, .fetch g topic base ∈ o.2 → ∃ r ∈ o.1.run, r.base = base
  stamp : ∀ a ∈ o.2, ∀ g ∈ a.generation?, cause = some g

section

variable {cause : Option Nat}

theorem GoesOn.refl (e : Engine) : GoesOn cause e (e, []) := by
  refine ⟨rfl, rfl, rfl, fun r hr _ => hr, ?_, ?_, ?_⟩ <;> simp

/-- The run keeps its generation, so what its loop has been told to do stays its own. -/
theorem GoesOn.later {e : Engine} {o : Outcome} (h : GoesOn cause e o) {r : Run} (hr : r ∈ e.run) :
    ∃ r' ∈ o.1.run, r'.generation = r.generation ∧ r'.base = r.base ∧
      (r'.progress = .waiting → r' = r) := by
  have run := h.run
  rw [Option.mem_def.mp hr] at run
  obtain ⟨r', hr', eq⟩ := Option.map_eq_some_iff.mp run
  obtain ⟨base, generation⟩ := Prod.mk.injEq .. ▸ eq
  refine ⟨r', hr', generation, base, fun waiting => ?_⟩
  have := h.begun r' hr' waiting
  exact Option.some.inj (this.symm.trans hr)

theorem GoesOn.earlier {e : Engine} {o : Outcome} (h : GoesOn cause e o) {r : Run}
    (hr : r ∈ o.1.run) : ∃ r' ∈ e.run, r'.generation = r.generation ∧ r'.base = r.base := by
  have run := h.run
  rw [Option.mem_def.mp hr] at run
  obtain ⟨r', hr', eq⟩ := Option.map_eq_some_iff.mp run.symm
  obtain ⟨base, generation⟩ := Prod.mk.injEq .. ▸ eq
  exact ⟨r', hr', generation, base⟩

theorem GoesOn.isRunning {e : Engine} {o : Outcome} (h : GoesOn cause e o) :
    o.1.isRunning = e.isRunning := by
  have run := congrArg Option.isSome h.run
  rwa [Option.isSome_map, Option.isSome_map] at run

theorem GoesOn.and {e : Engine} {o : Outcome} {f : Engine → Outcome} (h : GoesOn cause e o)
    (h' : GoesOn cause o.1 (f o.1)) : GoesOn cause e (o.and f) where
  generation := h'.generation.trans h.generation
  target := h'.target.trans h.target
  run := h'.run.trans h.run
  begun r hr waiting := h.begun r (h'.begun r hr waiting) waiting
  loop a ha own := by
    rcases List.mem_append.mp ha with ha | ha
    · obtain ⟨r, hr, progress⟩ := h.loop a ha own
      obtain ⟨r', hr', -, -, same⟩ := h'.later hr
      refine ⟨r', hr', fun waiting => ?_⟩
      exact progress (same waiting ▸ waiting)
    · exact h'.loop a ha own
  fetch g topic base ha := by
    rcases List.mem_append.mp ha with ha | ha
    · obtain ⟨r, hr, eq⟩ := h.fetch g topic base ha
      obtain ⟨r', hr', -, base', -⟩ := h'.later hr
      exact ⟨r', hr', base'.trans eq⟩
    · exact h'.fetch g topic base ha
  stamp a ha := (List.mem_append.mp ha).elim (h.stamp a) (h'.stamp a)

theorem goesOn_write (g : Nat) {change : Telemetry → Telemetry}
    (same : ∀ t, (change t).generation = t.generation ∧ (change t).target = t.target)
    (e : Engine) : GoesOn cause e (write g change e) := by
  unfold write
  split
  · refine ⟨(same _).1, (same _).2, rfl, fun r hr _ => hr, ?_, ?_, ?_⟩ <;>
      simp [Act.loop?, Act.generation?]
  · exact GoesOn.refl e

/-- The run gets on to another place of its loop, and asks for what belongs there. -/
theorem goesOn_progress {e e' : Engine} {r : Run} {p : Progress} {acts : List Act}
    (before : e.run = some r) (after : e'.run = some { r with progress := p })
    (generation : e'.telemetry.generation = e.telemetry.generation)
    (target : e'.telemetry.target = e.telemetry.target) (begun : p ≠ .waiting)
    (own : ∀ a ∈ acts, a = .publish ∨ a = .rest r.generation ∨
      ∃ topic, a = .fetch r.generation topic r.base) :
    GoesOn (some r.generation) e (e', acts) where
  generation := generation
  target := target
  run := by rw [before, after]; rfl
  begun r' hr' waiting := by
    rw [after] at hr'
    cases Option.some.inj hr'
    exact absurd waiting begun
  loop _ _ _ := ⟨_, after, begun⟩
  fetch g topic base ha := by
    rcases own _ ha with eq | eq | ⟨topic, eq⟩
    · cases eq
    · cases eq
    · cases eq
      exact ⟨_, after, rfl⟩
  stamp a ha g hg := by
    rcases own a ha with rfl | rfl | ⟨topic, rfl⟩
    · cases hg
    · exact hg
    · exact hg

end

end Engine

namespace Telemetry

theorem await_frame (t : Telemetry) (topic : Topic) :
    (t.await topic).generation = t.generation ∧ (t.await topic).target = t.target := by
  cases topic <;> exact ⟨rfl, rfl⟩

theorem take_frame (t : Telemetry) (topic : Topic) (r : Except Error topic.Report) :
    (t.take topic r).generation = t.generation ∧ (t.take topic r).target = t.target := by
  cases topic with
  | memory =>
    simp only [take, takeMemory]
    cases r.bind withMemory <;> exact ⟨rfl, rfl⟩
  | _ => cases r <;> exact ⟨rfl, rfl⟩

def awaitAll (t : Telemetry) : Telemetry := Topic.all.foldl await t

end Telemetry

namespace Engine

variable {cause : Option Nat}

/-- A round shows what it awaits if it is the first, and asks about all topics. -/
theorem beginRound_eq {e : Engine} {r : Run} (h : e.telemetry.generation = r.generation)
    (first : Bool) :
    beginRound r first e =
      ({ e with
          telemetry := if first then e.telemetry.awaitAll else e.telemetry
          run := some { r with progress := .fetching first Topic.all } },
        (if first then Topic.all.map fun _ => .publish else []) ++
          Topic.all.map fun topic => .fetch r.generation topic r.base) := by
  have frame (t : Telemetry) (topic : Topic) : (t.await topic).generation = t.generation :=
    (t.await_frame topic).1
  cases first with
  | false => rfl
  | true => simp [beginRound, Topic.all, Outcome.and, write, h, frame, Telemetry.awaitAll]

theorem goesOn_beginRound {e : Engine} {r : Run} (hr : e.run = some r)
    (h : e.telemetry.generation = r.generation) (first : Bool) :
    GoesOn (some r.generation) e (beginRound r first e) := by
  rw [beginRound_eq h]
  refine goesOn_progress hr rfl ?_ ?_ (by simp) ?_
  · cases first <;> rfl
  · cases first <;> rfl
  · intro a ha
    rcases List.mem_append.mp ha with ha | ha
    · cases first
      · simp at ha
      · exact Or.inl (by simpa [Topic.all] using ha)
    · obtain ⟨topic, -, rfl⟩ := List.mem_map.mp ha
      exact Or.inr (Or.inr ⟨topic, rfl⟩)

theorem mem_runOf {e : Engine} {g : Nat} {r : Run} (h : e.runOf g = some r) :
    e.run = some r ∧ r.generation = g := by
  obtain ⟨hr, eq⟩ := Option.mem_filter_iff.mp h
  exact ⟨hr, by simpa using eq⟩

/-- That a reply has arrived changes nothing of what is known; the loop goes on when it was the last
one awaited. -/
theorem arrived_spec {e : Engine} (h : ∀ r ∈ e.run, e.telemetry.generation = r.generation)
    (g : Nat) (topic : Topic) :
    GoesOn (some g) e (arrived g topic e) ∧ (arrived g topic e).1.telemetry = e.telemetry := by
  unfold arrived
  cases hr : e.runOf g with
  | none => exact ⟨GoesOn.refl e, rfl⟩
  | some r =>
    obtain ⟨run, rfl⟩ := mem_runOf hr
    have published := h r run
    cases hp : r.progress with
    | waiting => exact ⟨by simpa [hp] using @GoesOn.refl (some r.generation) e, by simp [hp]⟩
    | resting => exact ⟨by simpa [hp] using @GoesOn.refl (some r.generation) e, by simp [hp]⟩
    | fetching first awaited =>
      simp only [hp]
      split
      · cases first with
        | true =>
          refine ⟨goesOn_beginRound run published false, ?_⟩
          simp [endRound, beginRound_eq published]
        | false => exact ⟨goesOn_progress run rfl rfl rfl (by simp) (by simp), rfl⟩
      · exact ⟨goesOn_progress run rfl rfl rfl (by simp) (by simp), rfl⟩

def knows (e : Engine) : Event → Telemetry
  | .loopBegins g =>
    if ∃ r ∈ e.run, r.generation = g ∧ r.progress = .waiting then e.telemetry.awaitAll
    else e.telemetry
  | .replied g topic reply =>
    if e.telemetry.generation = g then e.telemetry.take topic reply else e.telemetry
  | .killReplied pid g (.ok ()) =>
    if e.telemetry.generation = g then e.telemetry.takeKill pid else e.telemetry
  | _ => e.telemetry

theorem runOf_eq_none {e : Engine} {g : Nat} (h : e.runOf g = none) :
    ∀ r ∈ e.run, r.generation ≠ g := by
  intro r hr eq
  have := Option.filter_eq_none_iff.mp h r hr
  simp [eq] at this

theorem GoesOn.counted {e : Engine} {o : Outcome} {n : Nat}
    (h : GoesOn cause { e with liveLoops := n } o) : GoesOn cause e o :=
  ⟨h.generation, h.target, h.run, h.begun, h.loop, h.fetch, h.stamp⟩

theorem takeKill_frame (t : Telemetry) (pid : UInt32) :
    (t.takeKill pid).generation = t.generation ∧ (t.takeKill pid).target = t.target := ⟨rfl, rfl⟩

theorem goesOn_report (e : Engine) (o : KillOutcome) : GoesOn cause e (e, [.report o]) := by
  refine ⟨rfl, rfl, rfl, fun r hr _ => hr, ?_, ?_, ?_⟩ <;>
    simp [Act.loop?, Act.generation?]

theorem write_telemetry (g : Nat) (change : Telemetry → Telemetry) (e : Engine) :
    (write g change e).1.telemetry =
      if e.telemetry.generation = g then change e.telemetry else e.telemetry := by
  unfold write
  split <;> rfl

theorem write_run (g : Nat) (change : Telemetry → Telemetry) (e : Engine) :
    (write g change e).1.run = e.run := by
  unfold write
  split <;> rfl

theorem write_published {e : Engine} (h : ∀ r ∈ e.run, e.telemetry.generation = r.generation)
    (g : Nat) {change : Telemetry → Telemetry}
    (same : ∀ t, (change t).generation = t.generation ∧ (change t).target = t.target) :
    ∀ r ∈ (write g change e).1.run, (write g change e).1.telemetry.generation = r.generation := by
  have wrote : GoesOn none e (write g change e) := goesOn_write g same e
  rw [write_run, wrote.generation]
  exact h

/-- An event changes what is known only if it is of the published generation, and lets the run, if
there is one, go on. -/
theorem step_spec {e : Engine} (h : ∀ r ∈ e.run, e.telemetry.generation = r.generation)
    (event : Event) :
    GoesOn event.generation? e (e.step event) ∧ (e.step event).1.telemetry = e.knows event := by
  cases event with
  | loopBegins g =>
    simp only [Engine.step, knows]
    cases hr : e.runOf g with
    | none =>
      have absent := runOf_eq_none hr
      refine ⟨GoesOn.refl e, ?_⟩
      rw [if_neg fun ⟨r, hr, eq, _⟩ => absent r hr eq]
    | some r =>
      obtain ⟨run, rfl⟩ := mem_runOf hr
      by_cases waiting : r.progress = .waiting
      · have now : ∃ r' ∈ e.run, r'.generation = r.generation ∧ r'.progress = .waiting :=
          ⟨r, run, rfl, waiting⟩
        have begins :=
          goesOn_beginRound (e := { e with liveLoops := e.liveLoops + 1 }) run (h r run) true
        rw [if_pos now]
        simp only [waiting, ↓reduceIte]
        refine ⟨begins.counted, ?_⟩
        rw [beginRound_eq (e := { e with liveLoops := e.liveLoops + 1 }) (h r run)]
        rfl
      · simp only [waiting, ↓reduceIte]
        refine ⟨GoesOn.refl e, ?_⟩
        rw [if_neg]
        rintro ⟨r', hr', -, waiting'⟩
        exact waiting (Option.some.inj (hr'.symm.trans run) ▸ waiting')
  | loopCleared =>
    refine ⟨?_, rfl⟩
    refine ⟨rfl, rfl, rfl, fun r hr _ => hr, ?_, ?_, ?_⟩ <;> simp [Engine.step]
  | replied g topic reply =>
    have wrote : GoesOn (some g) e _ := goesOn_write g (fun t => t.take_frame topic reply) e
    have still := write_published h g fun t => t.take_frame topic reply
    obtain ⟨goesOn, telemetry⟩ := arrived_spec still g topic
    refine ⟨wrote.and goesOn, ?_⟩
    change (arrived g topic (write g (·.take topic reply) e).1).1.telemetry = _
    rw [telemetry, write_telemetry]
    rfl
  | rested g =>
    simp only [Engine.step, knows]
    cases hr : e.runOf g with
    | none => exact ⟨GoesOn.refl e, rfl⟩
    | some r =>
      obtain ⟨run, rfl⟩ := mem_runOf hr
      dsimp only
      split
      · exact ⟨goesOn_beginRound run (h r run) false, by rw [beginRound_eq (h r run)]; rfl⟩
      · exact ⟨GoesOn.refl e, rfl⟩
  | killBegins pid aim =>
    cases aim with
    | none => exact ⟨goesOn_report e _, rfl⟩
    | some aim =>
      refine ⟨?_, rfl⟩
      refine ⟨rfl, rfl, rfl, fun r hr _ => hr, ?_, ?_, ?_⟩ <;>
        simp [Engine.step, Act.loop?, Act.generation?, Event.generation?]
  | killReplied pid g reply =>
    cases reply with
    | error error => exact ⟨goesOn_report e _, rfl⟩
    | ok done =>
      have wrote : GoesOn (some g) e _ := goesOn_write g (fun t => takeKill_frame t pid) e
      have reported : GoesOn (some g) _ _ :=
        goesOn_report (write g (·.takeKill pid) e).1 (.accepted pid)
      exact ⟨wrote.and (f := fun e => (e, [.report (.accepted pid)])) reported,
        write_telemetry g _ e⟩

theorem mem_giveUp {e : Engine} {a : Act} :
    a ∈ e.giveUp.2 ↔ ∃ r ∈ e.run, a = .dropLoop r.generation (r.progress ≠ .waiting) := by
  unfold giveUp
  cases hr : e.run <;> simp

theorem start_ok (e : Engine) {target : Target} {base : Address.Url} (h : target.base = .ok base) :
    e.start target =
      .ok ({ e with
              telemetry := .fresh (e.telemetry.generation + 1) target
              run := some ⟨base, e.telemetry.generation + 1, .waiting⟩ },
            e.giveUp.2 ++ [.publish, .startLoop (e.telemetry.generation + 1)]) := by
  unfold Engine.start giveUp
  rw [h]
  cases hr : e.run <;> rfl

theorem start_error (e : Engine) {target : Target} {error : Error}
    (h : target.base = .error error) : e.start target = .error error := by
  unfold Engine.start
  rw [h]
  rfl

theorem stop_none {e : Engine} (h : e.run = none) : e.stop = (e, []) := by
  simp [Engine.stop, h]

theorem stop_some {e : Engine} {r : Run} (h : e.run = some r) :
    e.stop =
      ({ e with telemetry.generation := e.telemetry.generation + 1, run := none },
        [.publish, .dropLoop r.generation (r.progress ≠ .waiting)]) := by
  simp [Engine.stop, Outcome.and, giveUp, h]

end Engine

end HostWatch
