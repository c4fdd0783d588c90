import HostWatch.Proofs.Watch.Scripted
import Mathlib.Data.List.Nodup

namespace HostWatch

/-- What the loop of a run asks for in a round that begins at a time. -/
def Run.round (r : Run) (time : Nat) : List Entry :=
  Topic.all.map fun topic => ⟨time, .fetch r.generation topic r.base⟩

/-- What the loop of a run has asked for when `n` of its rounds have begun. -/
def Run.rounds (r : Run) (tt : Timetable) (n : Nat) : List Entry :=
  (List.range n).flatMap fun k => r.round (tt.round k)

theorem round_acts (r : Run) (first : Bool) (topic : Topic) :
    (r.at (.fetching first Topic.all)).awaits.countP (Act.asks topic) = 1 ∧
      (r.at (.fetching first Topic.all)).awaits.filter Act.isFetch =
        Topic.all.map fun topic => .fetch r.generation topic r.base := by
  cases topic <;> simp [Run.awaits, Run.at, Topic.all, Act.asks, Act.isFetch]

/-- Whatever an engine does when something has come to its end, it asks about all topics or none. -/
theorem Engine.Turn.asks {e : Engine} {o : Engine.Outcome} {a : Act}
    (turn : e.Turn o a) (topic topic' : Topic) :
    o.2.countP (Act.asks topic) = o.2.countP (Act.asks topic') := by
  rw [Act.countP_asks, Act.countP_asks topic']
  cases turn with
  | begins run waiting gives => rw [gives.news, (round_acts _ _ _).1, (round_acts _ _ _).1]
  | @replied r first awaited about run fetching mem gives =>
    rw [gives.news]
    split
    · cases first with
      | true => exact (round_acts r false _).1.trans (round_acts r false _).1.symm
      | false => rfl
    · rfl
  | rested run resting gives => rw [gives.news, (round_acts _ _ _).1, (round_acts _ _ _).1]
  | cleared gives => rw [gives.news]; rfl
  | aside kill gives =>
    rw [gives.news]
    cases a with
    | startKill pid aim => cases aim <;> rfl
    | _ => rfl

theorem Engine.start_silent {e : Engine} {target : Target} {o : Engine.Outcome}
    (started : e.start target = .ok o) : ∀ a ∈ o.2, ¬ a.isFetch := by
  intro a mem
  rcases Engine.mem_start started mem with ⟨g, begun, rfl⟩ | rfl | ⟨g, rfl⟩ <;>
    exact Bool.false_ne_true

theorem Engine.stop_silent (e : Engine) : ∀ a ∈ e.stop.2, ¬ a.isFetch := by
  intro a mem
  rcases Engine.mem_stop mem with ⟨g, begun, rfl⟩ | rfl <;> exact Bool.false_ne_true

namespace Timetable

/-- What a loop at some place waits for is due as the timetable says, when `n` rounds have begun. -/
def At (tt : Timetable) (n now : Nat) (plans : List Plan) : Progress → Prop
  | .waiting => n = 0 ∧ ∀ p ∈ plans, p.act.isLoop → p.due = tt.begins
  | .fetching first awaited => ∃ k, n = k + 1 ∧ first = decide (k = 0) ∧ tt.round k ≤ now ∧
      (∀ topic ∉ awaited, tt.round k + tt.script.delay k topic ≤ now) ∧
      ∀ p ∈ plans, ∀ g topic base, p.act = .fetch g topic base →
        p.due = tt.round k + tt.script.delay k topic
  | .resting => ∃ k, n = k + 2 ∧ tt.round (k + 1) ≤ now ∧
      ∀ p ∈ plans, p.act.isLoop → p.due = tt.round (k + 2)

variable {tt : Timetable} {n now : Nat} {plans : List Plan} {p : Progress}

theorem At.mono (h : tt.At n now plans p) {now' : Nat} {plans' : List Plan} (le : now ≤ now')
    (sub : ∀ q ∈ plans', q.act.isLoop → q ∈ plans) : tt.At n now' plans' p := by
  cases p with
  | waiting => exact ⟨h.1, fun q mem own => h.2 q (sub q mem own) own⟩
  | fetching first awaited =>
    obtain ⟨k, eq, initial, begun, arrived, due⟩ := h
    refine ⟨k, eq, initial, by omega, fun topic other => ?_, fun q mem g topic base act => ?_⟩
    · have := arrived topic other
      omega
    · exact due q (sub q mem (by simp [act, Act.isLoop, Act.loop?])) g topic base act
  | resting =>
    obtain ⟨k, eq, begun, due⟩ := h
    exact ⟨k, eq, by omega, fun q mem own => due q (sub q mem own) own⟩

theorem At.rounds_le (h : tt.At n now plans p) :
    n ≤ 2 + (now - tt.begins) / tt.interval.millis := by
  have spaced (k : Nat) (begun : tt.round (k + 1) ≤ now) :
      k ≤ (now - tt.begins) / tt.interval.millis := by
    rw [Nat.le_div_iff_mul_le tt.interval.pos]
    have apart := tt.begins_le_round k
    omega
  cases p with
  | waiting => exact h.1 ▸ Nat.zero_le _
  | fetching first awaited =>
    obtain ⟨k, rfl, -, begun, -⟩ := h
    cases k with
    | zero => exact Nat.le_trans (by decide : 1 ≤ 2) (Nat.le_add_right _ _)
    | succ k =>
      have := spaced k begun
      omega
  | resting =>
    obtain ⟨k, rfl, begun, -⟩ := h
    have := spaced k begun
    omega

theorem At.begun (h : tt.At n now plans p) {k : Nat} (before : k < n) : tt.round k ≤ now := by
  cases p with
  | waiting => exact absurd before (h.1 ▸ Nat.not_lt_zero k)
  | fetching first awaited =>
    obtain ⟨k', rfl, -, begun, -⟩ := h
    exact Nat.le_trans (tt.round_mono (Nat.le_of_lt_succ before)) begun
  | resting =>
    obtain ⟨k', rfl, begun, -⟩ := h
    exact Nat.le_trans (tt.round_mono (Nat.le_of_lt_succ before)) begun

end Timetable

namespace Timeline

variable {t t' : Timeline Script} {plans news : List Plan}

/-- A timeline with a run that is on its timetable, when `n` of its rounds have begun. -/
structure OnTime (tt : Timetable) (n : Nat) (r : Run) (old : List Entry) (t : Timeline Script)
    (plans : List Plan) : Prop where
  prepared : t.Prepared plans
  interval : t.interval = tt.interval
  replies : ∀ k topic, t.host.delay k topic = tt.script.delay (n + k) topic
  requests : t.requests = old ++ r.rounds tt n
  run : ∃ p, t.engine.run = some (r.at p) ∧ tt.At n t.now plans p

/-- When the loop gets to a place and all that it awaits there is new, nothing else of it is left.
-/
theorem Carries.only_new {σ : Type} {t : Timeline σ} {kept news : List Plan} {r : Run}
    (h : t.Carries (kept ++ news)) (run : t.engine.run = some r)
    (acts : news.map (·.act) = r.awaits) : ∀ p ∈ kept, ¬ p.act.isLoop := by
  intro p mem own
  have loop := h.agenda.loop.length_eq
  rw [run, List.map_append, List.filter_append, acts, Run.awaits_isLoop] at loop
  simp only [Option.elim_some, List.length_append] at loop
  have some : 0 < ((kept.map (·.act)).filter Act.isLoop).length :=
    List.length_pos_of_mem (List.mem_filter.mpr ⟨List.mem_map_of_mem mem, own⟩)
  omega

section Happens

variable {tt : Timetable} {n place : Nat} {r : Run} {old : List Entry} {o : Engine.Outcome}
  {p : Plan}

theorem OnTime.round (h : OnTime tt n r old t plans) (happens : t.Happens plans t' o place p news)
    {first : Bool} (run : o.1.run = some (r.at (.fetching first Topic.all)))
    (acts : o.2.filter Act.isAwaited = (r.at (.fetching first Topic.all)).awaits)
    (due : p.due = tt.round n) (initial : first = decide (n = 0)) :
    OnTime tt (n + 1) r old t' (plans.eraseIdx place ++ news) := by
  have running : t'.engine.run = some (r.at (.fetching first Topic.all)) := by
    rw [happens.engine, run]
  have asked := happens.acts.trans acts
  have none := happens.prepared.carries.only_new running asked
  refine ⟨happens.prepared, happens.interval.trans h.interval, fun k topic => ?_, ?_, _, running,
    n, rfl, initial, ?_, fun topic other => absurd topic.mem_all other,
    fun q mem g topic base fetch => ?_⟩
  · rw [happens.replies, asked, (round_acts r first topic).1, h.replies]
    congr 1
    omega
  · rw [happens.requests, asked, (round_acts r first .cpu).2, h.requests, due, List.map_map,
      Run.rounds, Run.rounds, List.range_succ, List.flatMap_append, List.flatMap_singleton,
      List.append_assoc]
    rfl
  · rw [happens.now, due]
  · rcases List.mem_append.mp mem with old | new
    · exact absurd (by simp [fetch, Act.isLoop, Act.loop?]) (none q old)
    · have once := (round_acts r first topic).1
      rw [← asked] at once
      rw [happens.reply q new g topic base fetch once.le, due, h.replies]
      rfl

theorem OnTime.between (h : OnTime tt n r old t plans)
    (happens : t.Happens plans t' o place p news)
    (silent : ∀ a ∈ o.2.filter Act.isAwaited, ¬ a.isFetch)
    (run : ∃ p', t'.engine.run = some (r.at p') ∧
      tt.At n t'.now (plans.eraseIdx place ++ news) p') :
    OnTime tt n r old t' (plans.eraseIdx place ++ news) := by
  rw [← happens.acts] at silent
  refine ⟨happens.prepared, happens.interval.trans h.interval, fun k topic => ?_, ?_, run⟩
  · rw [happens.replies, Act.countP_asks_eq_zero silent]
    exact h.replies k topic
  · rw [happens.requests, List.filter_eq_nil_iff.mpr silent, h.requests]
    exact List.append_nil _

theorem OnTime.arrived (h : OnTime tt n r old t plans)
    (happens : t.Happens plans t' o place p news) {k : Nat} {awaited : List Topic} {topic : Topic}
    (before : ∀ other ∉ awaited, tt.round k + tt.script.delay k other ≤ t.now)
    (due : p.due = tt.round k + tt.script.delay k topic)
    (last : awaited.filter (· ≠ topic) = []) : p.due = tt.round k + tt.script.slowest k := by
  have now := h.prepared.timely p (List.mem_of_getElem? happens.there)
  have all : tt.script.slowest k ≤ p.due - tt.round k := by
    refine Script.slowest_le fun other => ?_
    by_cases same : other = topic
    · rw [same]
      omega
    · have absent : other ∉ awaited := by
        intro mem
        have left : other ∈ awaited.filter (· ≠ topic) := List.mem_filter.mpr ⟨mem, by simpa⟩
        rw [last] at left
        cases left
      have := before other absent
      omega
  have := tt.script.delay_le_slowest k topic
  omega

theorem OnTime.perform (h : OnTime tt n r old t plans)
    (happens : t.Happens plans t' o place p news) :
    ∃ n', OnTime tt n' r old t' (plans.eraseIdx place ++ news) := by
  obtain ⟨progress, running, here⟩ := h.run
  have mem := List.mem_of_getElem? happens.there
  have late := h.prepared.timely p mem
  have fewer : ∀ q ∈ plans.eraseIdx place, q ∈ plans := fun q => List.mem_of_mem_eraseIdx
  have turn := happens.turn
  generalize act : p.act = a at turn
  cases turn with
  | begins run waiting gives =>
    cases Option.some.inj (running.symm.trans run)
    cases (waiting : progress = .waiting)
    obtain ⟨rfl, due⟩ := here
    exact ⟨1, h.round happens gives.run gives.news (due p mem (by rw [act]; rfl)) rfl⟩
  | @replied _ first awaited topic run fetching mem' gives =>
    cases Option.some.inj (running.symm.trans run)
    cases (fetching : progress = .fetching first awaited)
    obtain ⟨k, rfl, initial, begun, before, due⟩ := here
    have replied := due p mem _ _ _ act
    by_cases last : awaited.filter (· ≠ topic) = []
    · have arrived := h.arrived happens before replied last
      have run' := gives.run
      have acts := gives.news
      rw [last] at run' acts
      cases first with
      | true =>
        obtain rfl : k = 0 := by simpa using initial.symm
        exact ⟨2, h.round happens run' acts arrived rfl⟩
      | false =>
        obtain ⟨k, rfl⟩ : ∃ k', k = k' + 1 :=
          Nat.exists_eq_succ_of_ne_zero (by simpa using initial.symm)
        refine ⟨k + 2, h.between happens ?_ ⟨.resting, ?_, k, rfl, ?_, fun q mem own => ?_⟩⟩
        · rw [gives.news, if_pos last]
          simp [Run.awaits, Run.at, Progress.afterRound, Act.isFetch]
        · rw [happens.engine, run']
          rfl
        · rw [happens.now]
          omega
        · have none := happens.prepared.carries.only_new (r := r.at .resting)
            (happens.engine ▸ run') (happens.acts.trans acts)
          rcases List.mem_append.mp mem with old | new
          · exact absurd own (none q old)
          · have rests : q.act = .rest r.generation := by
              have mem : q.act ∈ news.map (·.act) := List.mem_map_of_mem new
              rw [happens.acts, acts] at mem
              exact List.mem_singleton.mp mem
            rw [happens.rest q new _ rests, arrived, h.interval]
            rfl
    · refine ⟨k + 1, h.between happens ?_ ⟨.fetching first (awaited.filter (· ≠ topic)), ?_, k, rfl,
        initial, ?_, fun other absent => ?_, fun q mem => ?_⟩⟩
      · rw [gives.news, if_neg last]
        simp
      · rw [happens.engine, gives.run, Progress.onward, if_neg last]
        rfl
      · rw [happens.now]
        omega
      · rw [happens.now]
        by_cases same : other = topic
        · rw [same, replied]
        · have := before other fun mem => absent (List.mem_filter.mpr ⟨mem, by simpa⟩)
          omega
      · have acts := happens.acts
        rw [gives.news, if_neg last] at acts
        rw [List.map_eq_nil_iff.mp acts, List.append_nil] at mem
        exact due q (fewer q mem)
  | rested run resting gives =>
    cases Option.some.inj (running.symm.trans run)
    cases (resting : progress = .resting)
    obtain ⟨k, rfl, begun, due⟩ := here
    exact ⟨k + 3, h.round happens gives.run gives.news (due p mem (by rw [act]; rfl)) rfl⟩
  | cleared gives =>
    have acts := happens.acts.trans gives.news
    refine ⟨n, h.between happens (by simp [gives.news]) ⟨progress, ?_, ?_⟩⟩
    · rw [happens.engine, gives.run, running]
    · rw [List.map_eq_nil_iff.mp acts, List.append_nil, happens.now]
      exact here.mono late fun q mem _ => fewer q mem
  | aside kill gives =>
    have other : ∀ b ∈ a.killNext, ¬ b.isFetch ∧ ¬ b.isLoop := by
      cases a with
      | startKill pid aim => cases aim <;> simp [Act.killNext, Act.isFetch, Act.isLoop, Act.loop?]
      | _ => simp [Act.killNext]
    refine ⟨n, h.between happens ?_ ⟨progress, ?_, ?_⟩⟩
    · rw [gives.news]
      exact fun b mem => (other b mem).1
    · rw [happens.engine, gives.run, running]
    · rw [happens.now]
      refine here.mono late fun q mem own => ?_
      rcases List.mem_append.mp mem with old | new
      · exact fewer q old
      · have made : q.act ∈ news.map (·.act) := List.mem_map_of_mem new
        rw [happens.acts, gives.news] at made
        exact absurd own (other _ made).2

end Happens

section Inputs

variable {tt : Timetable} {n : Nat} {r : Run} {old : List Entry}

/-- The run that begins when a target is watched, and its timetable. -/
def nextRun {σ : Type} (t : Timeline σ) (base : Address.Url) : Run :=
  ⟨base, t.engine.telemetry.generation + 1, .waiting⟩

def timetable (t : Timeline Script) : Timetable := ⟨t.interval, t.host, t.now⟩

theorem Prepared.onTime (h : t.Prepared plans) {target : Target} {base : Address.Url}
    (ok : target.base = .ok base) :
    ∃ plans', OnTime t.timetable 0 (t.nextRun base) t.requests (t.take (.start target)) plans' := by
  obtain ⟨o, started, eq⟩ := t.start_of_ok ok
  obtain ⟨news, prepared, -⟩ := h.follow (h.carries.agenda.start started)
  have silent := Engine.start_silent started
  have begun := (Engine.start_ok t.engine ok).symm.trans started
  obtain ⟨engine, now, interval⟩ := t.follow_frame o
  rw [eq]
  have run : o.1.run = some (t.nextRun base) := by
    cases begun
    rfl
  refine ⟨_, prepared, interval, fun k topic => ?_, ?_, .waiting, engine ▸ run, rfl,
    fun p mem own => ?_⟩
  · have delays :=
      (foldl_carryOut_delay o.2 (t := { t with engine := o.1 }) h.source).2 k topic
    rw [Act.countP_asks_eq_zero silent] at delays
    rw [Nat.zero_add]
    exact delays
  · rw [follow_requests, ← Act.filter_isFetch, List.filter_eq_nil_iff.mpr silent, List.map_nil]
    rfl
  · obtain ⟨r, running, awaited⟩ :=
      prepared.carries.agenda.mem_awaits (List.mem_map_of_mem mem) own
    rw [engine, run] at running
    cases running
    have prompt : p.act.isPrompt := by
      rw [List.mem_singleton.mp awaited]
      rfl
    have due := prepared.carries.prompt p mem prompt
    have timely := prepared.timely p mem
    rw [now] at due timely
    exact Nat.le_antisymm due timely

theorem OnTime.kill (h : OnTime tt n r old t plans) (pid : UInt32) :
    ∃ plans', OnTime tt n r old (t.kill pid) plans' := by
  obtain ⟨news, prepared, -, makes⟩ := h.prepared.follow (h.prepared.carries.agenda.kill pid)
  obtain ⟨progress, running, here⟩ := h.run
  refine ⟨_, prepared, h.interval, h.replies, ?_, progress, running,
    here.mono (Nat.le_refl _) fun q mem own => ?_⟩
  · exact (follow_requests t (t.engine.kill pid)).trans ((List.append_nil _).trans h.requests)
  · rcases List.mem_append.mp mem with old | new
    · exact (List.mem_filter.mp old).1
    · rw [List.mem_singleton.mp (makes q new).mem] at own
      cases own

theorem OnTime.pass (h : OnTime tt n r old t plans) {limit : Nat} (le : t.now ≤ limit)
    (rest : ∀ j ∈ t.jobs, limit < j.due) :
    OnTime tt n r old ({ t with now := limit } : Timeline Script) plans := by
  obtain ⟨progress, running, here⟩ := h.run
  exact ⟨h.prepared.pass le rest, h.interval, h.replies, h.requests, progress, running,
    here.mono le fun q mem _ => mem⟩

theorem OnTime.take (h : OnTime tt n r old t plans) {input : Input} (same : ¬ input.isTurn) :
    ∃ n' plans', OnTime tt n' r old (t.take input) plans' := by
  have step (t : Timeline Script) (limit : Nat) (j : Job Script) (others : List (Job Script))
      (onTime : ∃ n plans, OnTime tt n r old t plans)
      (first : firstDue limit t.jobs = some (j, others)) :
      ∃ n plans, OnTime tt n r old (t.perform j others) plans := by
    obtain ⟨n, plans, onTime⟩ := onTime
    obtain ⟨o, place, p, news, happens⟩ := onTime.prepared.perform first
    obtain ⟨n', later⟩ := onTime.perform happens
    exact ⟨n', _, later⟩
  cases input with
  | start target =>
    cases ok : target.base with
    | ok base => simp [Input.isTurn, ok, Except.isOk, Except.toBool] at same
    | error error =>
      rw [start_of_error t ok]
      exact ⟨n, plans, h⟩
  | stop => exact absurd rfl same
  | kill pid => exact ⟨n, h.kill pid⟩
  | settle => exact runThrough_preserves (fun t => step t _) _ ⟨n, plans, h⟩
  | advance millis =>
    refine advance_preserves step (fun t limit here le rest => ?_) (fun t here => ?_) ⟨n, plans, h⟩
      millis
    · obtain ⟨n, plans, onTime⟩ := here
      exact ⟨n, plans, onTime.pass le rest⟩
    · obtain ⟨n, plans, onTime⟩ := here
      exact ⟨plans, onTime.prepared.carries⟩

theorem OnTime.takeAll (h : OnTime tt n r old t plans) {inputs : List Input}
    (same : ∀ input ∈ inputs, ¬ input.isTurn) :
    ∃ n' plans', OnTime tt n' r old (t.takeAll inputs) plans' := by
  induction inputs generalizing t n plans with
  | nil => exact ⟨n, plans, h⟩
  | cons input inputs ih =>
    obtain ⟨n', plans', later⟩ := h.take (same input List.mem_cons_self)
    exact ih later fun i mem => same i (List.mem_cons_of_mem _ mem)

theorem OnTime.at_rest (h : OnTime tt n r old t plans) (rest : t.AtRest) (k : Nat) :
    tt.round k ≤ t.now ↔ k < n := by
  obtain ⟨progress, running, here⟩ := h.run
  have later : ∀ p ∈ plans, t.now < p.due := by
    intro p mem
    obtain ⟨j, planned, due⟩ := h.prepared.carries.job mem
    exact due ▸ rest j planned
  have awaited (a : Act) (mem : a ∈ (r.at progress).awaits) : ∃ p ∈ plans, p.act = a := by
    have loop := h.prepared.carries.agenda.loop
    rw [running] at loop
    exact List.mem_map.mp (List.mem_filter.mp (loop.mem_iff.mpr mem)).1
  refine ⟨fun begun => Nat.not_le.mp fun le => ?_, here.begun⟩
  have next : tt.round n ≤ t.now := Nat.le_trans (tt.round_mono le) begun
  cases progress with
  | waiting =>
    obtain ⟨rfl, due⟩ := here
    obtain ⟨p, mem, act⟩ := awaited (.startLoop r.generation) List.mem_cons_self
    have := later p mem
    rw [due p mem (by rw [act]; rfl)] at this
    exact absurd next (Nat.not_le.mpr this)
  | fetching first topics =>
    obtain ⟨k', rfl, -, -, -, due⟩ := here
    obtain ⟨some, -⟩ := h.prepared.carries.agenda.awaited _ running first topics rfl
    obtain ⟨topic, wanted⟩ := List.exists_mem_of_ne_nil _ some
    obtain ⟨p, mem, act⟩ := awaited _ (List.mem_map_of_mem wanted)
    have after := later p mem
    rw [due p mem _ _ _ act] at after
    have slow := tt.script.delay_le_slowest k' topic
    have arrived := tt.arrived_le_round k'
    omega
  | resting =>
    obtain ⟨k', rfl, -, due⟩ := here
    obtain ⟨p, mem, act⟩ := awaited (.rest r.generation) List.mem_cons_self
    have := later p mem
    rw [due p mem (by rw [act]; rfl)] at this
    exact absurd next (Nat.not_le.mpr this)

end Inputs

section Asked

variable {σ : Type} {t : Timeline σ} {plans : List Plan}

def asked (t : Timeline σ) (topic : Topic) : Nat := t.requests.countP (·.act.asks topic)

def Answers (j : Job σ) (topic : Topic) : Prop :=
  ∃ host g reply, (j.event host).1 = .replied g topic reply

theorem follow_asked (t : Timeline σ) (o : Engine.Outcome) (topic : Topic) :
    (t.follow o).asked topic = t.asked topic + o.2.countP (Act.asks topic) := by
  unfold asked
  rw [follow_requests, List.countP_append, ← Act.filter_isFetch, List.countP_map,
    List.countP_filter]
  congr 1
  refine List.countP_congr fun a _ => ?_
  cases a <;> simp [Act.asks, Act.isFetch]

theorem asked_rounds (r : Run) (tt : Timetable) (n : Nat) (topic : Topic) :
    (r.rounds tt n).countP (·.act.asks topic) = n := by
  unfold Run.rounds
  induction n with
  | zero => rfl
  | succ n ih =>
    rw [List.range_succ, List.flatMap_append, List.countP_append, ih, List.flatMap_singleton]
    cases topic <;> rfl

theorem Carries.asked_next (h : t.Carries plans)
    (equal : ∀ topic topic', t.asked topic = t.asked topic') (move : Move) (topic topic' : Topic) :
    (t.next move).asked topic = (t.next move).asked topic' := by
  have silent {o : Engine.Outcome} (silent : ∀ a ∈ o.2, ¬ a.isFetch) :
      (t.follow o).asked topic = (t.follow o).asked topic' := by
    rw [follow_asked, follow_asked, Act.countP_asks_eq_zero silent, Act.countP_asks_eq_zero silent]
    exact equal topic topic'
  cases move with
  | start target =>
    cases ok : target.base with
    | error error =>
      simp only [Timeline.next, start_of_error t ok]
      exact equal topic topic'
    | ok base =>
      obtain ⟨o, started, eq⟩ := t.start_of_ok ok
      simp only [Timeline.next, eq]
      exact silent (Engine.start_silent started)
  | stop => exact silent t.engine.stop_silent
  | kill pid => exact silent (o := t.engine.kill pid) (by simp [Engine.kill, Act.isFetch])
  | happen place =>
    simp only [Timeline.next]
    split
    next j at_place =>
      obtain ⟨p, news, -, -, turn, -⟩ := h.perform at_place
      rw [perform_eq, follow_asked, follow_asked, turn.asks topic topic']
      exact congrArg (· + _) (equal topic topic')
    next => exact equal topic topic'
  | wait millis => exact equal topic topic'

theorem Carries.asked_equal (h : t.Carries plans)
    (equal : ∀ topic topic', t.asked topic = t.asked topic') (moves : List Move) :
    ∀ topic topic', (t.goThrough moves).asked topic = (t.goThrough moves).asked topic' := by
  induction moves generalizing t plans with
  | nil => exact equal
  | cons move moves ih =>
    obtain ⟨plans', later⟩ := h.next move
    exact ih later (h.asked_next equal move)

/-- No topic is asked about while the reply to another question about it is awaited. -/
theorem Carries.answers_apart (h : t.Carries plans) (topic : Topic) :
    t.jobs.Pairwise fun j j' => ¬ (Answers j topic ∧ Answers j' topic) := by
  have distinct : ((plans.map (·.act)).filter Act.isLoop).Nodup := by
    refine h.agenda.loop.nodup_iff.mpr ?_
    cases run : t.engine.run with
    | none => exact .nil
    | some r =>
      cases progress : r.progress with
      | waiting => simp [Run.awaits, progress]
      | resting => simp [Run.awaits, progress]
      | fetching first awaited =>
        have sub := (h.agenda.awaited r run first awaited progress).2
        simp only [Option.elim_some, Run.awaits, progress]
        exact (sub.nodup Topic.nodup_all).map fun topic topic' same => (Act.fetch.inj same).2.1
  have asks {j : Job σ} {p : Plan} (mem : p ∈ plans) (serves : Serves j p)
      (answers : Answers j topic) :
      ∃ r, t.engine.run = some r ∧ p.act = .fetch r.generation topic r.base := by
    obtain ⟨host, g, reply, event⟩ := answers
    have leads := serves.leads host
    rw [event] at leads
    have fetch : ∃ g base, p.act = .fetch g topic base := by
      cases act : p.act <;> simp_all [Act.leadsTo]
    obtain ⟨g, base, act⟩ := fetch
    obtain ⟨r, run, own⟩ := h.agenda.mem_awaits (List.mem_map_of_mem mem) (by rw [act]; rfl)
    refine ⟨r, run, ?_⟩
    rw [act] at own ⊢
    rcases Run.mem_awaits.mp own with ⟨_, eq⟩ | ⟨_, _, _, _, _, eq⟩ | ⟨_, eq⟩ <;> cases eq
    rfl
  have apart := List.pairwise_iff_getElem.mp (List.pairwise_filter.mp distinct)
  refine List.pairwise_iff_getElem.mpr fun i k bound bound' less both => ?_
  obtain ⟨answers, answers'⟩ := both
  have size := h.serves.length_eq
  have plan : i < plans.length := size ▸ bound
  have plan' : k < plans.length := size ▸ bound'
  obtain ⟨r, run, act⟩ := asks (List.getElem_mem plan) (h.serves.get bound plan) answers
  obtain ⟨r', run', act'⟩ := asks (List.getElem_mem plan') (h.serves.get bound' plan') answers'
  cases Option.some.inj (run.symm.trans run')
  have other := apart i k (by simpa using plan) (by simpa using plan') less
  simp only [List.getElem_map, act, act'] at other
  exact other rfl rfl rfl

end Asked

/-- The rounds of a run are those of its timetable, whatever is called and let happen while it
lasts; running what is due always comes to an end. -/
theorem rounds_on_timetable (interval : Interval) (script : Script) (before during : List Input)
    {target : Target} {base : Address.Url} (ok : target.base = .ok base)
    (same : ∀ input ∈ during, ¬ input.isTurn) :
    let t := ({ source := Script.source, interval, host := script } : Timeline Script).takeAll before
    let now := (t.take (.start target)).takeAll during
    ∃ n, now.requests = t.requests ++ (t.nextRun base).rounds t.timetable n ∧
      (now.AtRest → ∀ k, t.timetable.round k ≤ now.now ↔ k < n) ∧
      n ≤ 2 + (now.now - t.now) / interval.millis ∧
      (∀ topic, now.asked topic = t.asked topic + n) ∧
      (∀ topic topic', now.asked topic = now.asked topic') ∧
      now.settle.AtRest ∧ (∀ millis, (now.advance millis).AtRest) ∧
      ∀ moves topic, (now.goThrough moves).jobs.Pairwise fun j j' =>
        ¬ (Answers j topic ∧ Answers j' topic) := by
  intro t now
  obtain ⟨plans, prepared⟩ := (prepared_init interval script).takeAll before
  have kept : t.interval = interval := by
    obtain ⟨moves, reached⟩ :=
      takeAll_moves { source := Script.source, interval, host := script } before
    simp only [t, reached, goThrough_settings]
  obtain ⟨plans', begun⟩ := prepared.onTime ok
  obtain ⟨n, plans'', onTime⟩ := begun.takeAll same
  have carries := onTime.prepared.carries
  obtain ⟨moves, reached⟩ := takeAll_moves { source := Script.source, interval, host := script }
    (before ++ .start target :: during)
  have here : now = ({ source := Script.source, interval, host := script } :
      Timeline Script).goThrough moves := by
    rw [← reached]
    simp only [now, t, takeAll, List.foldl_append, List.foldl_cons]
  refine ⟨n, onTime.requests, onTime.at_rest, ?_, fun topic => ?_, ?_, carries.settle_rests,
    carries.advance_rests, fun moves topic => ?_⟩
  · obtain ⟨progress, -, at_place⟩ := onTime.run
    exact kept ▸ at_place.rounds_le
  · rw [asked, onTime.requests, List.countP_append, asked_rounds]
    rfl
  · rw [here]
    exact (carries_init _ _ _).asked_equal (fun _ _ => rfl) moves
  · obtain ⟨later, carried⟩ := carries.goThrough moves
    exact carried.answers_apart topic

/-- A second run, when two rounds of a first one have used up some of the replies. -/
theorem rounds_of_second_run :
    let late (delay : Nat) : ScriptedReply := ⟨delay, .fails .noTarget⟩
    let script : Script :=
      { cpu := [late 30], memory := [late 100, late 50, late 20], outside := [late 0, late 70] }
    let interval : Interval := ⟨1000, by decide⟩
    let target : Target := ⟨"10.0.0.2", 8080⟩
    let base : Address.Url :=
      { scheme := "http", authority := some { host := .ipv4 167772162, port := some 8080 },
        path := "/" }
    let before : List Input := [.start target, .advance 120, .stop]
    let during : List Input := [.kill 7, .advance 500, .settle, .advance 1600]
    let t := ({ source := Script.source, interval, host := script } : Timeline Script).takeAll before
    let now := (t.take (.start target)).takeAll during
    target.base = .ok base ∧ now.requests = t.requests ++ (t.nextRun base).rounds t.timetable 3 ∧
      (List.range 4).map t.timetable.round = [120, 190, 1260, 2330] ∧ now.now = 2220 := by
  intro late script interval target base before during t now
  have ok : target.base = .ok base := by decide +kernel
  have same : ∀ input ∈ during, ¬ input.isTurn := by decide +kernel
  obtain ⟨n, requests, rest, -⟩ := rounds_on_timetable interval script before during ok same
  have quiet : now.AtRest := by
    unfold AtRest
    decide +kernel
  obtain rfl : n = 3 := by
    have third := (rest quiet 2).mp (by decide +kernel)
    have fourth := mt (rest quiet 3).mpr (by decide +kernel)
    omega
  exact ⟨ok, requests, by decide +kernel, by decide +kernel⟩

end Timeline

end HostWatch
