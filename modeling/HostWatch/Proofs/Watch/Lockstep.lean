import HostWatch.Watch.Engine

namespace HostWatch

def Telemetry.part : Topic → Telemetry → Telemetry
  | .cpu, t =>
    { cpu := t.cpu
      cpuPercent := t.cpuPercent
      cpuTemperature := t.cpuTemperature
      lastCounters := t.lastCounters }
  | .memory, t => { memory := t.memory, memoryPercent := t.memoryPercent, memoryUse := t.memoryUse }
  | .processes, t => { processes := t.processes, killing := t.killing }
  | .outside, t => { outside := t.outside, outsideTemperature := t.outsideTemperature }

inductive Event.Alike (topic : Topic) : Event → Event → Prop
  | same (event : Event) : Alike topic event event
  | other {g : Nat} {about : Topic} (h : about ≠ topic) (r r' : Except Error about.Report) :
    Alike topic (.replied g about r) (.replied g about r')

section Part

variable {topic : Topic} {t t' : Telemetry}

theorem part_take_other {about : Topic} (h : about ≠ topic) (r : Except Error about.Report) :
    (t.take about r).part topic = t.part topic := by
  cases about with
  | memory =>
    simp only [Telemetry.take, Telemetry.takeMemory]
    cases topic with
    | memory => exact absurd rfl h
    | _ => cases r.bind Telemetry.withMemory <;> rfl
  | _ => cases topic <;> first | exact absurd rfl h | (cases r <;> rfl)

theorem part_take_own (t : Telemetry) (r : Except Error topic.Report) :
    (t.take topic r).part topic = ((t.part topic).take topic r).part topic := by
  cases topic with
  | memory =>
    simp only [Telemetry.take, Telemetry.takeMemory]
    cases r.bind Telemetry.withMemory <;> rfl
  | _ => cases r <;> rfl

theorem part_take (same : t'.part topic = t.part topic) (about : Topic)
    (r : Except Error about.Report) :
    (t'.take about r).part topic = (t.take about r).part topic := by
  by_cases own : about = topic
  · subst own
    rw [part_take_own t', same, ← part_take_own t]
  · rw [part_take_other own, part_take_other own, same]

theorem part_await (same : t'.part topic = t.part topic) (about : Topic) :
    (t'.await about).part topic = (t.await about).part topic := by
  have own (t : Telemetry) :
      (t.await about).part topic = ((t.part topic).await about).part topic := by
    cases about <;> cases topic <;> rfl
  rw [own t', same, ← own t]

theorem part_takeKill (same : t'.part topic = t.part topic) (pid : UInt32) :
    (t'.takeKill pid).part topic = (t.takeKill pid).part topic := by
  have own (t : Telemetry) :
      (t.takeKill pid).part topic = ((t.part topic).takeKill pid).part topic := by
    cases topic <;> rfl
  rw [own t', same, ← own t]

end Part

namespace Engine

/-- Two engines that differ at most in what they know about other topics. -/
structure Alike (topic : Topic) (e e' : Engine) : Prop where
  run : e'.run = e.run
  liveLoops : e'.liveLoops = e.liveLoops
  generation : e'.telemetry.generation = e.telemetry.generation
  part : e'.telemetry.part topic = e.telemetry.part topic

def InStep (topic : Topic) (o o' : Outcome) : Prop := Alike topic o.1 o'.1 ∧ o'.2 = o.2

section InStep

variable {topic : Topic} {e e' : Engine}

theorem InStep.and {o o' : Outcome} {f f' : Engine → Outcome} (h : InStep topic o o')
    (then_ : ∀ {e e'}, Alike topic e e' → InStep topic (f e) (f' e')) :
    InStep topic (o.and f) (o'.and f') := by
  obtain ⟨alike, acts⟩ := then_ h.1
  refine ⟨alike, ?_⟩
  change o'.2 ++ (f' o'.1).2 = o.2 ++ (f o.1).2
  rw [h.2, acts]

theorem Alike.write (h : Alike topic e e') (g : Nat) {change change' : Telemetry → Telemetry}
    (same : (change' e'.telemetry).part topic = (change e.telemetry).part topic)
    (generation : ∀ t, (change t).generation = t.generation)
    (generation' : ∀ t, (change' t).generation = t.generation) :
    InStep topic (write g change e) (write g change' e') := by
  unfold Engine.write
  rw [h.generation]
  split
  · refine ⟨⟨h.run, h.liveLoops, ?_, same⟩, rfl⟩
    exact (generation' _).trans (h.generation.trans (generation _).symm)
  · exact ⟨h, rfl⟩

theorem Alike.runOf (h : Alike topic e e') (g : Nat) : e'.runOf g = e.runOf g := by
  unfold Engine.runOf
  rw [h.run]

theorem Alike.beginRound (h : Alike topic e e') (r : Run) (first : Bool) :
    InStep topic (beginRound r first e) (beginRound r first e') := by
  have awaits {e e' : Engine} (h : Alike topic e e') (about : Topic) :
      InStep topic (Engine.write r.generation (·.await about) e)
        (Engine.write r.generation (·.await about) e') := by
    refine h.write _ (part_await h.part about) ?_ ?_ <;> intro t <;> cases about <;> rfl
  have shown : ∀ (topics : List Topic) {o o' : Outcome}, InStep topic o o' →
      InStep topic
        (topics.foldl (fun o about => o.and (Engine.write r.generation (·.await about))) o)
        (topics.foldl (fun o about => o.and (Engine.write r.generation (·.await about))) o') := by
    intro topics
    induction topics with
    | nil => exact fun h => h
    | cons about topics ih => exact fun h => ih (h.and fun h => awaits h about)
  unfold Engine.beginRound
  refine InStep.and ?_ fun h => ⟨⟨rfl, h.liveLoops, h.generation, h.part⟩, rfl⟩
  split
  · exact shown Topic.all ⟨h, rfl⟩
  · exact ⟨h, rfl⟩

theorem Alike.arrived (h : Alike topic e e') (g : Nat) (about : Topic) :
    InStep topic (arrived g about e) (arrived g about e') := by
  unfold Engine.arrived
  rw [h.runOf]
  cases e.runOf g with
  | none => exact ⟨h, rfl⟩
  | some r =>
    cases hp : r.progress with
    | waiting => simpa only [hp] using ⟨h, rfl⟩
    | resting => simpa only [hp] using ⟨h, rfl⟩
    | fetching first awaited =>
      simp only [hp]
      split
      · cases first with
        | true => exact h.beginRound r false
        | false => exact ⟨⟨rfl, h.liveLoops, h.generation, h.part⟩, rfl⟩
      · exact ⟨⟨rfl, h.liveLoops, h.generation, h.part⟩, rfl⟩

theorem Alike.step (h : Alike topic e e') {event event' : Event}
    (heard : event.Alike topic event') : InStep topic (e.step event) (e'.step event') := by
  have taken (t : Telemetry) (about : Topic) (r : Except Error about.Report) :
      (t.take about r).generation = t.generation := by
    cases about with
    | memory =>
      simp only [Telemetry.take, Telemetry.takeMemory]
      cases r.bind Telemetry.withMemory <;> rfl
    | _ => cases r <;> rfl
  cases heard with
  | other other r r' =>
    rename_i g about
    refine InStep.and (h.write g ?_ (taken · _ _) (taken · _ _)) fun h => h.arrived _ _
    rw [part_take_other other, part_take_other other]
    exact h.part
  | same =>
    cases event with
    | loopBegins g =>
      simp only [Engine.step, h.runOf]
      cases e.runOf g with
      | none => exact ⟨h, rfl⟩
      | some r =>
        dsimp only
        split
        · have counted : Alike topic { e with liveLoops := e.liveLoops + 1 }
              { e' with liveLoops := e'.liveLoops + 1 } :=
            ⟨h.run, congrArg (· + 1) h.liveLoops, h.generation, h.part⟩
          exact counted.beginRound r true
        · exact ⟨h, rfl⟩
    | loopCleared => exact ⟨⟨h.run, congrArg (· - 1) h.liveLoops, h.generation, h.part⟩, rfl⟩
    | replied g about reply =>
      exact InStep.and (h.write g (part_take h.part about reply) (taken · _ _) (taken · _ _))
        fun h => h.arrived _ _
    | rested g =>
      simp only [Engine.step, h.runOf]
      cases e.runOf g with
      | none => exact ⟨h, rfl⟩
      | some r =>
        dsimp only
        split
        · exact h.beginRound r false
        · exact ⟨h, rfl⟩
    | killBegins pid aim => cases aim <;> exact ⟨h, rfl⟩
    | killReplied pid g reply =>
      cases reply with
      | error error => exact ⟨h, rfl⟩
      | ok done =>
        exact InStep.and (h.write g (part_takeKill h.part pid) (fun _ => rfl) fun _ => rfl)
          fun h => ⟨h, rfl⟩

theorem Alike.giveUp (h : Alike topic e e') : InStep topic e.giveUp e'.giveUp := by
  unfold Engine.giveUp
  rw [h.run]
  split
  · exact ⟨h, rfl⟩
  · exact ⟨⟨rfl, h.liveLoops, h.generation, h.part⟩, rfl⟩

theorem Alike.start (h : Alike topic e e') {target : Target} {o o' : Outcome}
    (started : e.start target = .ok o) (started' : e'.start target = .ok o') :
    InStep topic o o' := by
  unfold Engine.start at started started'
  cases ok : target.base with
  | error error =>
    rw [ok] at started
    cases started
  | ok base =>
    rw [ok] at started started'
    cases started
    cases started'
    rw [h.generation]
    exact InStep.and h.giveUp fun given => ⟨⟨rfl, given.liveLoops, rfl, rfl⟩, rfl⟩

theorem Alike.stop (h : Alike topic e e') : InStep topic e.stop e'.stop := by
  unfold Engine.stop
  rw [h.run]
  split
  · exact ⟨h, rfl⟩
  · refine InStep.and ⟨⟨rfl, h.liveLoops, congrArg (· + 1) h.generation, ?_⟩, rfl⟩ Alike.giveUp
    cases topic <;> exact h.part

theorem Alike.kill (h : Alike topic e e') (pid : UInt32) :
    InStep topic (e.kill pid) (e'.kill pid) := by
  unfold Engine.kill
  rw [h.run]
  exact ⟨h, rfl⟩

end InStep

end Engine

end HostWatch
