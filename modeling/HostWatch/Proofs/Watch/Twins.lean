import HostWatch.Proofs.Watch.Lockstep
import HostWatch.Proofs.Watch.Schedule
import HostWatch.Watch.Script

namespace HostWatch

namespace Script

def replies : Topic → Script → List ScriptedReply
  | .cpu, s => s.cpu
  | .memory, s => s.memory
  | .processes, s => s.processes
  | .outside, s => s.outside

/-- Two scripts that differ only in the contents of the replies about other topics. -/
structure SameBut (topic : Topic) (s s' : Script) : Prop where
  own : s'.replies topic = s.replies topic
  kill : s'.kill = s.kill
  delays : ∀ about, (s'.replies about).map (·.delay) = (s.replies about).map (·.delay)

def decode : (topic : Topic) → List UInt8 → Except Json.Fault topic.Report
  | .cpu => Report.cpu?
  | .memory => Report.memory?
  | .processes => Report.processes?
  | .outside => Report.outside?

def reading (about : Topic) (r : ScriptedReply) : Except Error about.Report :=
  ((call (decode about) r : Call Unit about.Report).answer ()).1

def drop : Topic → Script → Script
  | .cpu, s => { s with cpu := (next s.cpu).2 }
  | .memory, s => { s with memory := (next s.memory).2 }
  | .processes, s => { s with processes := (next s.processes).2 }
  | .outside, s => { s with outside := (next s.outside).2 }

def agreed (r : ScriptedReply) : Except Error Unit :=
  ((call (fun _ => .ok ()) r : Call Unit Unit).answer ()).1

def dropKill (s : Script) : Script := { s with kill := (next s.kill).2 }

theorem ask_eq (about : Topic) (s : Script) :
    ask about s = (call (decode about) (next (s.replies about)).1, s.drop about) := by
  cases about <;> rfl

@[simp] theorem drop_kill (about : Topic) (s : Script) : (s.drop about).kill = s.kill := by
  cases about <;> rfl

theorem replies_drop (about other : Topic) (s : Script) :
    (s.drop about).replies other =
      if other = about then (next (s.replies about)).2 else s.replies other := by
  cases about <;> cases other <;> rfl

theorem next_delays {rs rs' : List ScriptedReply} (h : rs'.map (·.delay) = rs.map (·.delay)) :
    (next rs').1.delay = (next rs).1.delay ∧
      (next rs').2.map (·.delay) = (next rs).2.map (·.delay) := by
  match rs, rs' with
  | [], [] => exact ⟨rfl, rfl⟩
  | [r], [r'] => simpa [next] using h
  | _ :: _ :: _, _ :: _ :: _ => simpa [next] using h
  | [], _ :: _ => simp at h
  | _ :: _, [] => simp at h
  | [_], _ :: _ :: _ => simp at h
  | _ :: _ :: _, [_] => simp at h

variable {topic : Topic} {s s' : Script}

theorem SameBut.drop (h : SameBut topic s s') (about : Topic) :
    SameBut topic (s.drop about) (s'.drop about) := by
  refine ⟨?_, ?_, fun other => ?_⟩
  · rw [replies_drop, replies_drop]
    split
    next eq => rw [← eq, h.own]
    next => exact h.own
  · rw [drop_kill, drop_kill, h.kill]
  · rw [replies_drop, replies_drop]
    split
    next => exact (next_delays (h.delays about)).2
    next => exact h.delays other

theorem SameBut.dropKill (h : SameBut topic s s') : SameBut topic s.dropKill s'.dropKill := by
  have kept (s : Script) (about : Topic) : s.dropKill.replies about = s.replies about := by
    cases about <;> rfl
  refine ⟨?_, congrArg (fun rs => (next rs).2) h.kill, fun about => ?_⟩
  · rw [kept, kept, h.own]
  · rw [kept, kept, h.delays]

end Script

namespace Timeline

open Script (SameBut)

/-- Two jobs that are due at once and lead to the same, but for replies about other topics. -/
structure Twins (topic : Topic) (j j' : Job Script) : Prop where
  due : j'.due = j.due
  order : j'.order = j.order
  loop : j'.loop = j.loop
  event : ∃ e e' : Event, e.Alike topic e' ∧ j.event = always e ∧ j'.event = always e'

/-- Two timelines of scripted hosts that are in step. -/
structure Alike (topic : Topic) (t t' : Timeline Script) : Prop where
  source : t.source = Script.source
  source' : t'.source = Script.source
  interval : t'.interval = t.interval
  now : t'.now = t.now
  planned : t'.planned = t.planned
  host : SameBut topic t.host t'.host
  engine : t.engine.Alike topic t'.engine
  jobs : List.Forall₂ (Twins topic) t.jobs t'.jobs

variable {topic : Topic} {t t' : Timeline Script}

theorem Alike.plan (h : t.Alike topic t') (delay : Nat) (loop : Option Nat) {e e' : Event}
    (alike : e.Alike topic e') :
    (t.plan delay loop (always e)).Alike topic (t'.plan delay loop (always e')) where
  source := h.source
  source' := h.source'
  interval := h.interval
  now := h.now
  planned := congrArg (· + 1) h.planned
  host := h.host
  engine := h.engine
  jobs := by
    have twins : Twins topic ⟨t.now + delay, t.planned, loop, always e⟩
        ⟨t'.now + delay, t'.planned, loop, always e'⟩ :=
      ⟨congrArg (· + delay) h.now, h.planned, rfl, e, e', alike, rfl, rfl⟩
    exact List.rel_append h.jobs (List.Forall₂.cons twins List.Forall₂.nil)

theorem carryOut_fetch (scripted : t.source = Script.source) (g : Nat) (about : Topic)
    (base : Address.Url) :
    t.carryOut (.fetch g about base) =
      { t with
        journal := ⟨t.now, .fetch g about base⟩ :: t.journal
        host := t.host.drop about }.plan (Script.next (t.host.replies about)).1.delay (some g)
        (always (.replied g about
          (Script.reading about (Script.next (t.host.replies about)).1))) := by
  have asked : t.source.ask about base t.host =
      (Script.call (Script.decode about) (Script.next (t.host.replies about)).1,
        t.host.drop about) := by
    rw [scripted]
    exact Script.ask_eq about t.host
  simp only [carryOut, asked]
  rfl

theorem Alike.fetch (h : t.Alike topic t') (g : Nat) (about : Topic) (base : Address.Url) :
    (t.carryOut (.fetch g about base)).Alike topic (t'.carryOut (.fetch g about base)) := by
  have later := (Script.next_delays (h.host.delays about)).1
  have asked (entry entry' : Entry) : Alike topic
      { t with journal := entry :: t.journal, host := t.host.drop about }
      { t' with journal := entry' :: t'.journal, host := t'.host.drop about } :=
    ⟨h.source, h.source', h.interval, h.now, h.planned, h.host.drop about, h.engine, h.jobs⟩
  rw [carryOut_fetch h.source, carryOut_fetch h.source', later]
  refine (asked _ _).plan _ _ ?_
  by_cases own : about = topic
  · subst own
    rw [h.host.own]
    exact .same _
  · exact .other own _ _

theorem carryOut_requestKill (scripted : t.source = Script.source) (pid : UInt32) (aim : Aim) :
    t.carryOut (.requestKill pid aim) =
      { t with
        journal := ⟨t.now, .requestKill pid aim⟩ :: t.journal
        host := t.host.dropKill }.plan (Script.next t.host.kill).1.delay none
        (always (.killReplied pid aim.generation (Script.agreed (Script.next t.host.kill).1))) := by
  simp only [carryOut, scripted]
  rfl

theorem Alike.requestKill (h : t.Alike topic t') (pid : UInt32) (aim : Aim) :
    (t.carryOut (.requestKill pid aim)).Alike topic (t'.carryOut (.requestKill pid aim)) := by
  have asked (entry entry' : Entry) : Alike topic
      { t with journal := entry :: t.journal, host := t.host.dropKill }
      { t' with journal := entry' :: t'.journal, host := t'.host.dropKill } :=
    ⟨h.source, h.source', h.interval, h.now, h.planned, h.host.dropKill, h.engine, h.jobs⟩
  rw [carryOut_requestKill h.source, carryOut_requestKill h.source', h.host.kill]
  exact (asked _ _).plan _ _ (.same _)

theorem Alike.carryOut (h : t.Alike topic t') (a : Act) :
    (t.carryOut a).Alike topic (t'.carryOut a) := by
  have noted (entry entry' : Entry) : Alike topic { t with journal := entry :: t.journal }
      { t' with journal := entry' :: t'.journal } :=
    ⟨h.source, h.source', h.interval, h.now, h.planned, h.host, h.engine, h.jobs⟩
  cases a with
  | publish => exact noted _ _
  | report outcome => exact noted _ _
  | startLoop g => exact (noted _ _).plan _ _ (.same _)
  | dropLoop g begun =>
    have dropped (entry entry' : Entry) : Alike topic
        { t with journal := entry :: t.journal, jobs := t.jobs.filter (·.loop ≠ some g) }
        { t' with journal := entry' :: t'.journal, jobs := t'.jobs.filter (·.loop ≠ some g) } := by
      refine ⟨h.source, h.source', h.interval, h.now, h.planned, h.host, h.engine, ?_⟩
      refine List.rel_filter (fun j j' twins => ?_) h.jobs
      simp [twins.loop]
    cases begun with
    | false => exact dropped _ _
    | true => exact (dropped _ _).plan _ _ (.same _)
  | fetch g about base => exact h.fetch g about base
  | rest g =>
    simp only [Timeline.carryOut]
    rw [congrArg Interval.millis h.interval]
    exact (noted _ _).plan _ _ (.same _)
  | startKill pid aim => exact (noted _ _).plan _ _ (.same _)
  | requestKill pid aim => exact h.requestKill pid aim

theorem Alike.follow (h : t.Alike topic t') {o o' : Engine.Outcome}
    (inStep : Engine.InStep topic o o') : (t.follow o).Alike topic (t'.follow o') := by
  obtain ⟨e, acts⟩ := o
  obtain ⟨e', acts'⟩ := o'
  obtain ⟨engine, rfl⟩ := inStep
  have all (acts : List Act) : ∀ {t t' : Timeline Script}, t.Alike topic t' →
      (acts.foldl Timeline.carryOut t).Alike topic (acts.foldl Timeline.carryOut t') := by
    induction acts with
    | nil => exact fun h => h
    | cons a acts ih => exact fun h => ih (h.carryOut a)
  exact all _ ⟨h.source, h.source', h.interval, h.now, h.planned, h.host, engine, h.jobs⟩

theorem firstDue_twins (limit : Nat) {js js' : List (Job Script)}
    (h : List.Forall₂ (Twins topic) js js') :
    Option.Rel (fun p p' => Twins topic p.1 p'.1 ∧ List.Forall₂ (Twins topic) p.2 p'.2)
      (firstDue limit js) (firstDue limit js') := by
  induction h with
  | nil => exact .none
  | @cons j j' js js' twins tail ih =>
    unfold firstDue
    cases first : firstDue limit js with
    | none =>
      cases first' : firstDue limit js' with
      | none =>
        dsimp only
        rw [twins.due]
        split
        · exact .some ⟨twins, tail⟩
        · exact .none
      | some p' =>
        rw [first, first'] at ih
        cases ih
    | some p =>
      cases first' : firstDue limit js' with
      | none =>
        rw [first, first'] at ih
        cases ih
      | some p' =>
        rw [first, first'] at ih
        cases ih with
        | some both =>
          obtain ⟨same, rest⟩ := both
          have order : isBefore j' p'.1 = isBefore j p.1 := by
            unfold isBefore
            rw [twins.due, twins.order, same.due, same.order]
          dsimp only
          rw [order]
          split
          · exact .some ⟨twins, tail⟩
          · exact .some ⟨same, List.Forall₂.cons twins rest⟩

theorem Alike.perform (h : t.Alike topic t') {j j' : Job Script} (twins : Twins topic j j')
    {others others' : List (Job Script)} (rest : List.Forall₂ (Twins topic) others others') :
    (t.perform j others).Alike topic (t'.perform j' others') := by
  obtain ⟨e, e', alike, event, event'⟩ := twins.event
  have now : max t'.now j'.due = max t.now j.due := by rw [h.now, twins.due]
  have moved : Alike topic { t with now := max t.now j.due, jobs := others }
      { t' with now := max t'.now j'.due, jobs := others' } :=
    ⟨h.source, h.source', h.interval, now, h.planned, h.host, h.engine, rest⟩
  unfold Timeline.perform
  rw [event, event']
  exact moved.follow (h.engine.step alike)

theorem Alike.runThrough (h : t.Alike topic t') (fuel limit : Nat) :
    (Timeline.runThrough fuel limit t).Alike topic (Timeline.runThrough fuel limit t') := by
  induction fuel generalizing t t' with
  | zero => exact h
  | succ fuel ih =>
    have due := firstDue_twins limit h.jobs
    unfold Timeline.runThrough
    cases first : firstDue limit t.jobs with
    | none =>
      rw [first] at due
      cases first' : firstDue limit t'.jobs with
      | none => exact h
      | some p' =>
        rw [first'] at due
        cases due
    | some p =>
      rw [first] at due
      cases first' : firstDue limit t'.jobs with
      | none =>
        rw [first'] at due
        cases due
      | some p' =>
        rw [first'] at due
        obtain ⟨twins, rest⟩ := Option.rel_some_some.mp due
        exact ih (h.perform twins rest)

theorem Alike.budget (h : t.Alike topic t') (limit : Nat) : t'.budget limit = t.budget limit := by
  unfold Timeline.budget
  rw [h.jobs.length_eq, h.now]

theorem Alike.settle (h : t.Alike topic t') : t.settle.Alike topic t'.settle := by
  unfold Timeline.settle
  rw [h.budget, h.now]
  exact h.runThrough _ _

theorem Alike.advance (h : t.Alike topic t') (millis : Nat) :
    (t.advance millis).Alike topic (t'.advance millis) := by
  have settled := h.settle
  have ran := settled.runThrough (t.settle.budget (t.settle.now + millis)) (t.settle.now + millis)
  unfold Timeline.advance
  dsimp only
  rw [settled.now, settled.budget]
  exact ⟨ran.source, ran.source', ran.interval, rfl, ran.planned, ran.host, ran.engine, ran.jobs⟩

theorem Alike.start (h : t.Alike topic t') (target : Target) :
    (t.take (.start target)).Alike topic (t'.take (.start target)) := by
  cases ok : target.base with
  | ok base =>
    obtain ⟨o, started, eq⟩ := t.start_of_ok ok
    obtain ⟨o', started', eq'⟩ := t'.start_of_ok ok
    rw [eq, eq']
    exact h.follow (h.engine.start started started')
  | error error =>
    rw [start_of_error t ok, start_of_error t' ok]
    exact h

theorem Alike.take (h : t.Alike topic t') (input : Input) :
    (t.take input).Alike topic (t'.take input) := by
  cases input with
  | start target => exact h.start target
  | stop => exact h.follow h.engine.stop
  | kill pid => exact h.follow (h.engine.kill pid)
  | settle => exact h.settle
  | advance millis => exact h.advance millis

theorem Alike.takeAll (h : t.Alike topic t') (inputs : List Input) :
    (t.takeAll inputs).Alike topic (t'.takeAll inputs) := by
  induction inputs generalizing t t' with
  | nil => exact h
  | cons input inputs ih => exact ih (h.take input)

end Timeline

end HostWatch
