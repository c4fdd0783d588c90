import HostWatch.Proofs.Watch.Resting
import HostWatch.Watch.Script

namespace HostWatch.Timeline

variable {σ : Type} {t : Timeline σ} {plans : List Plan}

def turns (t : Timeline σ) : Move → Bool
  | .start target => (t.start target).isOk
  | .stop => t.engine.isRunning
  | _ => false

theorem Carries.none_prompt (h : t.Carries plans) (rest : t.AtRest) {a : Act}
    (mem : a ∈ plans.map (·.act)) : ¬ a.isPrompt := by
  intro prompt
  obtain ⟨p, planned, rfl⟩ := List.mem_map.mp mem
  have due := h.prompt p planned prompt
  obtain ⟨j, job, same⟩ := h.job planned
  have later := rest j job
  omega

theorem Carries.loops_at_rest (h : t.Carries plans) (rest : t.AtRest) :
    t.engine.liveLoops = if t.engine.isRunning then 1 else 0 := by
  have cleared : (plans.map (·.act)).countP Act.isCleaning = 0 := by
    refine List.countP_eq_zero.mpr fun a mem cleaning => ?_
    refine h.none_prompt rest mem ?_
    cases a <;> first | rfl | cases cleaning
  rw [h.agenda.live, cleared, Engine.isRunning]
  cases run : t.engine.run with
  | none => rfl
  | some r =>
    have begun : r.progress ≠ .waiting := by
      intro waiting
      have loop := h.agenda.loop
      simp only [run, Option.elim_some, Run.awaits, waiting] at loop
      have mem := (List.mem_filter.mp (loop.mem_iff.mpr List.mem_cons_self)).1
      exact h.none_prompt rest mem rfl
    simp [Engine.begun, begun]

theorem Carries.cleared (h : t.Carries plans) {place : Nat} {j : Job σ}
    (at_place : t.jobs[place]? = some j) (clears : (j.event t.host).1 = .loopCleared) :
    (t.next (.happen place)).engine.liveLoops + 1 = t.engine.liveLoops := by
  obtain ⟨p, there, serves, -⟩ := h.plan at_place
  have leads := serves.leads t.host
  rw [clears] at leads
  have cleaning : p.act.isCleaning := by
    cases act : p.act with
    | dropLoop g begun => cases begun <;> simp_all [Act.leadsTo, Act.isCleaning]
    | _ => simp [act, Act.leadsTo] at leads
  have counted : 0 < (plans.map (·.act)).countP Act.isCleaning :=
    List.countP_pos_iff.mpr ⟨p.act, List.mem_map_of_mem (List.mem_of_getElem? there), cleaning⟩
  have live := h.agenda.live
  simp only [Timeline.next, at_place]
  rw [perform_eq, (follow_frame _ _).1, clears]
  simp only [Engine.step]
  omega

theorem start_isOk (t : Timeline σ) (target : Target) :
    (t.start target).isOk = target.base.isOk := by
  unfold Timeline.start
  cases ok : target.base with
  | error error =>
    rw [Engine.start_error t.engine ok]
    rfl
  | ok base =>
    rw [Engine.start_ok t.engine ok]
    rfl

theorem stop_idle (idle : t.engine.isRunning = false) : t.stop = t := by
  have none : t.engine.run = none := by simpa [Engine.isRunning] using idle
  unfold Timeline.stop
  rw [Engine.stop_none none]
  rfl

theorem Carries.generation_next (h : t.Carries plans) (move : Move) :
    (t.next move).engine.telemetry.generation =
      t.engine.telemetry.generation + if t.turns move then 1 else 0 := by
  cases move with
  | start target =>
    cases ok : target.base with
    | error error =>
      simp only [Timeline.next, start_of_error t ok, turns, start_isOk, ok]
      rfl
    | ok base =>
      obtain ⟨o, started, eq⟩ := t.start_of_ok ok
      rw [Engine.start_ok t.engine ok] at started
      cases started
      simp only [Timeline.next, eq, turns, start_isOk, ok, (follow_frame _ _).1]
      rfl
  | stop =>
    cases run : t.engine.run with
    | none =>
      have idle : t.turns .stop = false := by simp [turns, Engine.isRunning, run]
      rw [idle]
      exact congrArg (·.engine.telemetry.generation) (stop_idle idle)
    | some r =>
      have running : t.turns .stop = true := by simp [turns, Engine.isRunning, run]
      rw [running, Timeline.next, Timeline.stop, (follow_frame _ _).1, Engine.stop_some run]
      rfl
  | kill pid => rfl
  | happen place =>
    simp only [Timeline.next, turns]
    split
    next j at_place =>
      rw [perform_eq, (follow_frame _ _).1]
      exact (Engine.step_spec h.agenda.published _).1.generation
    next => rfl
  | wait millis => rfl

/-- Once nothing is due, one loop is live if the engine is running and none otherwise. A start
succeeds just where the address is good, and the generation counts the runs begun and stopped. -/
theorem one_loop_one_generation (source : Source σ) (interval : Interval) (host : σ)
    (moves : List Move) :
    let t := ({ source, interval, host } : Timeline σ).goThrough moves
    (t.AtRest → t.engine.liveLoops = if t.engine.isRunning then 1 else 0) ∧
    (∀ place j, t.jobs[place]? = some j → (j.event t.host).1 = .loopCleared →
      (t.next (.happen place)).engine.liveLoops + 1 = t.engine.liveLoops) ∧
    (∀ r ∈ t.engine.run, t.engine.telemetry.generation = r.generation) ∧
    (∀ move, (t.next move).engine.telemetry.generation =
      t.engine.telemetry.generation + if t.turns move then 1 else 0) ∧
    (t.engine.isRunning = false → t.stop = t) ∧
    (∀ target, (t.start target).isOk =
      (Address.Url.parse ("http://" ++ target.text ++ "/")).isOk) ∧
    (∀ target base, Address.Url.parse ("http://" ++ target.text ++ "/") = .ok base →
      (t.next (.start target)).engine.run =
        some ⟨base, t.engine.telemetry.generation + 1, .waiting⟩) ∧
    (∀ target fault, Address.Url.parse ("http://" ++ target.text ++ "/") = .error fault →
      t.start target = .error (.address fault) ∧ t.next (.start target) = t) ∧
    t.settle.AtRest ∧ (∀ millis, (t.advance millis).AtRest) ∧
    ∀ inputs, ∃ moves', t.takeAll inputs = t.goThrough moves' := by
  intro t
  obtain ⟨plans, carries⟩ := (carries_init source interval host).goThrough moves
  refine ⟨carries.loops_at_rest, fun place j => carries.cleared, carries.agenda.published,
    carries.generation_next, stop_idle, fun target => ?_, fun target base good => ?_,
    fun target fault bad => ?_, carries.settle_rests, carries.advance_rests, t.takeAll_moves⟩
  · rw [start_isOk]
    unfold Target.base
    cases Address.Url.parse ("http://" ++ target.text ++ "/") <;> rfl
  · have ok : target.base = .ok base := by
      unfold Target.base
      rw [good]
      rfl
    obtain ⟨o, started, eq⟩ := t.start_of_ok ok
    rw [Engine.start_ok t.engine ok] at started
    cases started
    rw [Timeline.next, eq, (follow_frame _ _).1]
  · have base : target.base = .error (.address fault) := by
      unfold Target.base
      rw [bad]
      rfl
    refine ⟨?_, start_of_error t base⟩
    unfold Timeline.start
    rw [Engine.start_error t.engine base]
    rfl

/-- A run that has begun its loop, and a start that fails and one that succeeds after it. -/
theorem one_loop_of_second_start :
    let slow (delay : Nat) : ScriptedReply := ⟨delay, .fails .noTarget⟩
    let script : Script :=
      { cpu := [slow 30], memory := [slow 20], processes := [slow 10], outside := [slow 40] }
    let target : Target := ⟨"10.0.0.2", 8080⟩
    let t := ({ source := Script.source, interval := ⟨1000, by decide⟩, host := script } :
      Timeline Script).goThrough [.start ⟨"10.0.0.3", 8080⟩, .happen 0]
    t.AtRest ∧ t.engine.liveLoops = 1 ∧ t.engine.telemetry.generation = 1 ∧
      (t.start target).isOk ∧ (t.next (.start target)).engine.telemetry.generation = 2 ∧
      (t.start ⟨"a b", 8080⟩).isOk = false ∧ t.next (.start ⟨"a b", 8080⟩) = t := by
  intro slow script target t
  obtain ⟨loops, -, -, generation, -, succeeds, -, fails, -⟩ := one_loop_one_generation
    Script.source ⟨1000, by decide⟩ script [.start ⟨"10.0.0.3", 8080⟩, .happen 0]
  have rest : t.AtRest := by
    unfold AtRest
    decide +kernel
  have running : t.engine.isRunning = true := by decide +kernel
  have first : t.engine.telemetry.generation = 1 := by decide +kernel
  have good : (t.start target).isOk := by
    rw [succeeds]
    decide +kernel
  have bad : Address.Url.parse ("http://" ++ Target.text ⟨"a b", 8080⟩ ++ "/") =
      .error .badName := by decide +kernel
  obtain ⟨refused, unchanged⟩ := fails ⟨"a b", 8080⟩ .badName bad
  refine ⟨rest, ?_, first, good, ?_, ?_, unchanged⟩
  · rw [loops rest, if_pos running]
  · rw [generation (.start target), first, turns, if_pos good]
  · exact congrArg Except.isOk refused

end HostWatch.Timeline
