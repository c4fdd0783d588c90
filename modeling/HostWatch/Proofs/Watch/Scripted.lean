import HostWatch.Proofs.Watch.Resting
import HostWatch.Proofs.Watch.Timetable

namespace HostWatch

namespace Act

def isFetch : Act → Bool
  | .fetch _ _ _ => true
  | _ => false

def asks (topic : Topic) : Act → Bool
  | .fetch _ about _ => topic = about
  | _ => false

theorem filter_isFetch (acts : List Act) :
    acts.filter isFetch = (acts.filter isAwaited).filter isFetch := by
  rw [List.filter_filter]
  refine List.filter_congr fun a _ => ?_
  cases a <;> rfl

theorem countP_asks_eq_zero {acts : List Act} (silent : ∀ a ∈ acts, ¬ a.isFetch) (topic : Topic) :
    acts.countP (asks topic) = 0 := by
  refine List.countP_eq_zero.mpr fun a mem asks => silent a mem ?_
  cases a <;> first | rfl | cases asks

theorem countP_asks (topic : Topic) (acts : List Act) :
    acts.countP (asks topic) = (acts.filter isAwaited).countP (asks topic) := by
  rw [List.countP_filter]
  refine List.countP_congr fun a _ => ?_
  cases a <;> simp [asks, isAwaited]

end Act

namespace Timeline

section Requests

variable {σ : Type} {t : Timeline σ}

def requests (t : Timeline σ) : List Entry := t.journal.reverse.filter (·.act.isFetch)

theorem follow_requests (t : Timeline σ) (o : Engine.Outcome) :
    (t.follow o).requests =
      t.requests ++ ((o.2.filter Act.isAwaited).filter Act.isFetch).map fun a => ⟨t.now, a⟩ := by
  unfold requests
  rw [follow_journal, List.reverse_append, List.reverse_reverse, List.filter_append,
    ← Act.filter_isFetch, List.filter_map]
  rfl

end Requests

section Scripted

variable {t : Timeline Script}

theorem carryOut_delay (scripted : t.source = Script.source) (a : Act) (k : Nat) (topic : Topic) :
    (t.carryOut a).host.delay k topic = t.host.delay (k + if a.asks topic then 1 else 0) topic := by
  cases a with
  | dropLoop g begun => cases begun <;> rfl
  | fetch g about base =>
    rw [carryOut_fetch scripted]
    simp only [plan, Script.delay_drop, Act.asks, decide_eq_true_eq]
  | requestKill pid aim =>
    rw [carryOut_requestKill scripted]
    exact t.host.delay_dropKill topic k
  | _ => rfl

theorem foldl_carryOut_delay (acts : List Act) (scripted : t.source = Script.source) :
    (acts.foldl carryOut t).source = Script.source ∧ ∀ k topic,
      (acts.foldl carryOut t).host.delay k topic =
        t.host.delay (k + acts.countP (Act.asks topic)) topic := by
  induction acts generalizing t with
  | nil => exact ⟨scripted, fun k topic => rfl⟩
  | cons a acts ih =>
    obtain ⟨source, delays⟩ := ih ((t.carryOut_source a).trans scripted)
    refine ⟨source, fun k topic => ?_⟩
    rw [List.foldl_cons, delays, carryOut_delay scripted, List.countP_cons]
    congr 1
    omega

/-- A scripted host replies to a question about a topic as if no other had been asked. -/
theorem Makes.reply {acts : List Act} {p : Plan} (h : t.Makes acts p)
    (scripted : t.source = Script.source) {g : Nat} {topic : Topic} {base : Address.Url}
    (asked : p.act = .fetch g topic base) (once : acts.countP (Act.asks topic) ≤ 1) :
    p.due = t.now + t.host.delay 0 topic := by
  obtain ⟨before, after, rfl, due⟩ := h
  obtain ⟨source, delays⟩ := foldl_carryOut_delay before scripted
  have first : before.countP (Act.asks topic) = 0 := by
    rw [List.countP_append, List.countP_cons_of_pos (by simp [asked, Act.asks])] at once
    omega
  have later := delays 0 topic
  rw [first, Script.delay_zero] at later
  rw [due, asked, ← later]
  simp only [delayOf, source]
  congr 1
  exact congrArg (·.1.delay) (Script.ask_eq topic _)

/-- A timeline of a scripted host on which nothing is overdue and all replies are settled. -/
structure Prepared (t : Timeline Script) (plans : List Plan) : Prop where
  carries : t.Carries plans
  source : t.source = Script.source
  timely : ∀ p ∈ plans, t.now ≤ p.due
  settled : ∀ j ∈ t.jobs, ∀ host, (j.event host).2 = host

theorem carryOut_settled (scripted : t.source = Script.source)
    (h : ∀ j ∈ t.jobs, ∀ host, (j.event host).2 = host) (a : Act) :
    ∀ j ∈ (t.carryOut a).jobs, ∀ host, (j.event host).2 = host := by
  have planned {jobs : List (Job Script)} (h : ∀ j ∈ jobs, ∀ host, (j.event host).2 = host)
      {j : Job Script} {e : Event} (event : j.event = always e) :
      ∀ k ∈ jobs ++ [j], ∀ host, (k.event host).2 = host := by
    intro k mem host
    rcases List.mem_append.mp mem with old | new
    · exact h k old host
    · rw [List.mem_singleton.mp new, event]
      rfl
  cases a with
  | publish => exact h
  | report outcome => exact h
  | dropLoop g begun =>
    have left : ∀ j ∈ t.jobs.filter (·.loop ≠ some g), ∀ host, (j.event host).2 = host :=
      fun j mem => h j (List.mem_filter.mp mem).1
    cases begun with
    | false => exact left
    | true => exact planned left rfl
  | fetch g about base =>
    rw [carryOut_fetch scripted]
    exact planned h rfl
  | requestKill pid aim =>
    rw [carryOut_requestKill scripted]
    exact planned h rfl
  | _ => exact planned h rfl

theorem foldl_carryOut_settled (acts : List Act) (scripted : t.source = Script.source)
    (h : ∀ j ∈ t.jobs, ∀ host, (j.event host).2 = host) :
    ∀ j ∈ (acts.foldl carryOut t).jobs, ∀ host, (j.event host).2 = host := by
  induction acts generalizing t with
  | nil => exact h
  | cons a acts ih =>
    exact ih ((t.carryOut_source a).trans scripted) (carryOut_settled scripted h a)

variable {plans : List Plan}

theorem Prepared.follow (h : t.Prepared plans) {o : Engine.Outcome}
    (agenda : o.1.Agenda (o.2.foldl Act.enter (plans.map (·.act)))) :
    ∃ news, (t.follow o).Prepared (plans.filter (Act.spared o.2 ·.act) ++ news) ∧
      news.map (·.act) = o.2.foldl Act.enter [] ∧
      ∀ p ∈ news, { t with engine := o.1 }.Makes o.2 p := by
  obtain ⟨engine, now, -⟩ := t.follow_frame o
  obtain ⟨news, serves, acts, makes⟩ := follow_serves h.carries.serves o
  refine ⟨news, ⟨⟨serves, ?_, fun p mem prompt => ?_⟩, ?_, fun p mem => ?_, ?_⟩, acts, makes⟩
  · rw [engine, map_spared plans acts]
    exact agenda
  · rw [now]
    rcases List.mem_append.mp mem with old | new
    · exact h.carries.prompt p ((List.mem_filter.mp old).1) prompt
    · exact Nat.le_of_eq ((makes p new).prompt prompt)
  · exact (foldl_carryOut_delay o.2 (t := { t with engine := o.1 }) h.source).1
  · rw [now]
    rcases List.mem_append.mp mem with old | new
    · exact h.timely p ((List.mem_filter.mp old).1)
    · exact (makes p new).later
  · exact foldl_carryOut_settled o.2 (t := { t with engine := o.1 }) h.source h.settled

/-- What happens on the timeline of a scripted host. -/
structure Happens (t : Timeline Script) (plans : List Plan) (t' : Timeline Script)
    (o : Engine.Outcome) (place : Nat) (p : Plan) (news : List Plan) : Prop where
  there : plans[place]? = some p
  turn : t.engine.Turn o p.act
  prepared : t'.Prepared (plans.eraseIdx place ++ news)
  engine : t'.engine = o.1
  interval : t'.interval = t.interval
  now : t'.now = p.due
  acts : news.map (·.act) = o.2.filter Act.isAwaited
  requests : t'.requests =
    t.requests ++ ((news.map (·.act)).filter Act.isFetch).map fun a => ⟨p.due, a⟩
  replies : ∀ k topic, t'.host.delay k topic =
    t.host.delay (k + (news.map (·.act)).countP (Act.asks topic)) topic
  reply : ∀ q ∈ news, ∀ g topic base, q.act = .fetch g topic base →
    (news.map (·.act)).countP (Act.asks topic) ≤ 1 → q.due = p.due + t.host.delay 0 topic
  rest : ∀ q ∈ news, ∀ g, q.act = .rest g → q.due = p.due + t.interval.millis

theorem Prepared.happens (h : t.Prepared plans) {place : Nat} {j : Job Script}
    (at_place : t.jobs[place]? = some j) (first : ∀ k ∈ t.jobs, j.due ≤ k.due) :
    ∃ p news, t.Happens plans (t.perform j (t.jobs.eraseIdx place))
      (t.engine.step (j.event t.host).1) place p news := by
  obtain ⟨p, news, there, serves, turn, carries, acts, makes⟩ := h.carries.perform at_place
  have mem := List.mem_of_getElem? at_place
  have host : (j.event t.host).2 = t.host := h.settled j mem t.host
  have now : max t.now j.due = p.due := by
    rw [serves.due]
    exact Nat.max_eq_right (h.timely p (List.mem_of_getElem? there))
  have least : ∀ q ∈ plans, p.due ≤ q.due := by
    intro q mem
    obtain ⟨k, planned, due⟩ := h.carries.job mem
    exact serves.due ▸ due ▸ first k planned
  obtain ⟨engine, moved, interval⟩ := (t.taking j (t.jobs.eraseIdx place)).follow_frame
    (t.engine.step (j.event t.host).1)
  obtain ⟨source, delays⟩ := foldl_carryOut_delay (t.engine.step (j.event t.host).1).2
    (t := { t.taking j (t.jobs.eraseIdx place) with
      engine := (t.engine.step (j.event t.host).1).1 }) h.source
  have later : (t.taking j (t.jobs.eraseIdx place)).now = p.due := now
  refine ⟨p, news, there, turn, ⟨carries, source, fun q mem => ?_, ?_⟩, engine, interval,
    moved.trans later, acts, ?_, fun k topic => ?_, fun q mem g topic base asked once => ?_,
    fun q mem g rest => ?_⟩
  · rw [perform_eq, moved, later]
    rcases List.mem_append.mp mem with old | new
    · exact least q (List.mem_of_mem_eraseIdx old)
    · exact later ▸ (makes q new).later
  · refine foldl_carryOut_settled _ (t := { t.taking j (t.jobs.eraseIdx place) with
      engine := (t.engine.step (j.event t.host).1).1 }) h.source fun k mem => ?_
    exact h.settled k (List.mem_of_mem_eraseIdx mem)
  · rw [perform_eq, follow_requests, acts, later]
    rfl
  · have replied := delays k topic
    rw [Act.countP_asks, ← acts] at replied
    rw [perform_eq, Timeline.follow, replied]
    exact congrArg (Script.delay · _ topic) host
  · have reply := (makes q mem).reply h.source asked (by rwa [Act.countP_asks, ← acts])
    rw [reply]
    exact congrArg₂ (· + ·) later (congrArg (Script.delay · 0 topic) host)
  · exact ((makes q mem).rest rest).trans (congrArg (· + t.interval.millis) later)

theorem Prepared.perform (h : t.Prepared plans) {limit : Nat} {j : Job Script}
    {others : List (Job Script)} (first : firstDue limit t.jobs = some (j, others)) :
    ∃ o place p news, t.Happens plans (t.perform j others) o place p news := by
  obtain ⟨place, at_place, rfl⟩ := firstDue_spec first
  obtain ⟨p, news, happens⟩ := h.happens at_place (firstDue_least first)
  exact ⟨_, place, p, news, happens⟩

theorem Prepared.start (h : t.Prepared plans) {target : Target} {o : Engine.Outcome}
    (started : t.engine.start target = .ok o) : ∃ plans', (t.follow o).Prepared plans' := by
  obtain ⟨news, prepared, -⟩ := h.follow (h.carries.agenda.start started)
  exact ⟨_, prepared⟩

theorem Prepared.stop (h : t.Prepared plans) : ∃ plans', t.stop.Prepared plans' := by
  obtain ⟨news, prepared, -⟩ := h.follow h.carries.agenda.stop
  exact ⟨_, prepared⟩

theorem Prepared.pass (h : t.Prepared plans) {limit : Nat} (le : t.now ≤ limit)
    (rest : ∀ j ∈ t.jobs, limit < j.due) :
    ({ t with now := limit } : Timeline Script).Prepared plans := by
  refine ⟨⟨h.carries.serves, h.carries.agenda, fun p mem prompt => ?_⟩, h.source, fun p mem => ?_,
    h.settled⟩
  · exact Nat.le_trans (h.carries.prompt p mem prompt) le
  · obtain ⟨j, planned, due⟩ := h.carries.job mem
    exact due ▸ Nat.le_of_lt (rest j planned)

theorem Prepared.take (h : t.Prepared plans) (input : Input) :
    ∃ plans', (t.take input).Prepared plans' := by
  have step (t : Timeline Script) (limit : Nat) (j : Job Script) (others : List (Job Script))
      (prepared : ∃ plans, t.Prepared plans) (first : firstDue limit t.jobs = some (j, others)) :
      ∃ plans, (t.perform j others).Prepared plans := by
    obtain ⟨plans, prepared⟩ := prepared
    obtain ⟨o, place, p, news, happens⟩ := prepared.perform first
    exact ⟨_, happens.prepared⟩
  cases input with
  | start target =>
    cases ok : target.base with
    | error error =>
      rw [start_of_error t ok]
      exact ⟨plans, h⟩
    | ok base =>
      obtain ⟨o, started, eq⟩ := t.start_of_ok ok
      rw [eq]
      exact h.start started
  | stop => exact h.stop
  | kill pid =>
    obtain ⟨news, prepared, -⟩ := h.follow (h.carries.agenda.kill pid)
    exact ⟨_, prepared⟩
  | settle => exact runThrough_preserves (fun t => step t _) _ ⟨plans, h⟩
  | advance millis =>
    refine advance_preserves step (fun t limit here le rest => ?_) (fun t here => ?_) ⟨plans, h⟩
      millis
    · obtain ⟨plans, prepared⟩ := here
      exact ⟨plans, prepared.pass le rest⟩
    · obtain ⟨plans, prepared⟩ := here
      exact ⟨plans, prepared.carries⟩

theorem Prepared.takeAll (h : t.Prepared plans) (inputs : List Input) :
    ∃ plans', (t.takeAll inputs).Prepared plans' := by
  induction inputs generalizing t plans with
  | nil => exact ⟨plans, h⟩
  | cons input inputs ih =>
    obtain ⟨plans', prepared⟩ := h.take input
    exact ih prepared

theorem prepared_init (interval : Interval) (script : Script) :
    Prepared { source := Script.source, interval, host := script } [] :=
  ⟨carries_init _ _ _, rfl, by simp, by simp⟩

end Scripted

end Timeline

end HostWatch
