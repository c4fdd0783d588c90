import HostWatch.Proofs.Watch.Agenda
import HostWatch.Proofs.Watch.Schedule

namespace HostWatch

/-- An act that something is to come of, and when that is due. -/
structure Plan where
  due : Nat
  act : Act
  deriving DecidableEq, Repr

def Act.isPrompt : Act → Bool
  | .startLoop _ | .dropLoop _ _ | .startKill _ _ => true
  | _ => false

namespace Timeline

variable {σ : Type}

/-- A job is what is to come of a plan. -/
structure Serves (j : Job σ) (p : Plan) : Prop where
  due : j.due = p.due
  loop : j.loop = p.act.loop?
  leads : ∀ host, p.act.leadsTo (j.event host).1

def delayOf (t : Timeline σ) : Act → Nat
  | .fetch _ topic base => (t.source.ask topic base t.host).1.delay
  | .rest _ => t.interval.millis
  | .requestKill pid aim => (t.source.kill pid aim.base t.host).1.delay
  | _ => 0

/-- A plan that is made when some acts are done one after the other. -/
def Makes (t : Timeline σ) (acts : List Act) (p : Plan) : Prop :=
  ∃ before after, acts = before ++ p.act :: after ∧
    p.due = t.now + (before.foldl carryOut t).delayOf p.act

/-- What can be done on a timeline: a call, to let a planned event happen, and to let time pass. -/
inductive Move where
  | start (target : Target)
  | stop
  | kill (pid : UInt32)
  | happen (place : Nat)
  | wait (millis : Nat)
  deriving DecidableEq, Repr

def next (t : Timeline σ) : Move → Timeline σ
  | .start target => t.take (.start target)
  | .stop => t.stop
  | .kill pid => t.kill pid
  | .happen place =>
    match t.jobs[place]? with
    | some j => t.perform j (t.jobs.eraseIdx place)
    | none => t
  | .wait millis => { t with now := t.now + millis }

def goThrough (t : Timeline σ) (moves : List Move) : Timeline σ := moves.foldl next t

def Move.isQuiet : Move → Bool
  | .happen _ | .wait _ => true
  | _ => false

theorem goThrough_append (t : Timeline σ) (moves moves' : List Move) :
    t.goThrough (moves ++ moves') = (t.goThrough moves).goThrough moves' := List.foldl_append

section Follow

variable {t : Timeline σ} {plans : List Plan}

theorem carryOut_interval (t : Timeline σ) (a : Act) : (t.carryOut a).interval = t.interval := by
  cases a with
  | dropLoop g begun => cases begun <;> rfl
  | _ => rfl

theorem carryOut_now (t : Timeline σ) (a : Act) : (t.carryOut a).now = t.now := by
  cases a with
  | dropLoop g begun => cases begun <;> rfl
  | _ => rfl

theorem Makes.mem {acts : List Act} {p : Plan} (h : t.Makes acts p) : p.act ∈ acts := by
  obtain ⟨before, after, rfl, -⟩ := h
  exact List.mem_append_right before List.mem_cons_self

theorem Makes.later {acts : List Act} {p : Plan} (h : t.Makes acts p) : t.now ≤ p.due := by
  obtain ⟨before, after, -, due⟩ := h
  omega

theorem Makes.prompt {acts : List Act} {p : Plan} (h : t.Makes acts p) (prompt : p.act.isPrompt) :
    p.due = t.now := by
  obtain ⟨before, after, -, due⟩ := h
  rw [due]
  cases act : p.act <;> simp_all [Act.isPrompt, delayOf]

theorem foldl_carryOut_frame (acts : List Act) (t : Timeline σ) :
    (acts.foldl carryOut t).engine = t.engine ∧ (acts.foldl carryOut t).now = t.now ∧
      (acts.foldl carryOut t).interval = t.interval := by
  induction acts generalizing t with
  | nil => exact ⟨rfl, rfl, rfl⟩
  | cons a acts ih =>
    obtain ⟨engine, now, interval⟩ := ih (t.carryOut a)
    exact ⟨engine.trans (t.carryOut_engine a), now.trans (t.carryOut_now a),
      interval.trans (t.carryOut_interval a)⟩

theorem follow_frame (t : Timeline σ) (o : Engine.Outcome) :
    (t.follow o).engine = o.1 ∧ (t.follow o).now = t.now ∧
      (t.follow o).interval = t.interval := by
  exact foldl_carryOut_frame o.2 { t with engine := o.1 }

theorem carryOut_source (t : Timeline σ) (a : Act) :
    (t.carryOut a).source = t.source := by
  cases a with
  | dropLoop g begun => cases begun <;> rfl
  | _ => rfl

theorem carryOut_journal (t : Timeline σ) (a : Act) :
    (t.carryOut a).journal = ⟨t.now, a⟩ :: t.journal := by
  cases a with
  | dropLoop g begun => cases begun <;> rfl
  | _ => rfl

theorem follow_journal (t : Timeline σ) (o : Engine.Outcome) :
    (t.follow o).journal = (o.2.map fun a => ⟨t.now, a⟩).reverse ++ t.journal := by
  have all (acts : List Act) (t : Timeline σ) : (acts.foldl carryOut t).journal =
      (acts.map fun a => ⟨t.now, a⟩).reverse ++ t.journal := by
    induction acts generalizing t with
    | nil => rfl
    | cons a acts ih =>
      rw [List.foldl_cons, ih, carryOut_now, carryOut_journal]
      simp
  exact all o.2 { t with engine := o.1 }

theorem Makes.rest {acts : List Act} {p : Plan} {g : Nat} (h : t.Makes acts p)
    (rest : p.act = .rest g) : p.due = t.now + t.interval.millis := by
  obtain ⟨before, after, -, due⟩ := h
  rw [due, rest, delayOf, (foldl_carryOut_frame before t).2.2]

/-- An act puts an end to what it drops, and is planned for if something is to come of it. -/
theorem carryOut_serves (h : List.Forall₂ Serves t.jobs plans) (a : Act) :
    ∃ news : List Plan, List.Forall₂ Serves (t.carryOut a).jobs
        (plans.filter (¬ a.drops ·.act) ++ news) ∧
      news.map (·.act) = [a].filter Act.isAwaited ∧
      ∀ p ∈ news, p = ⟨t.now + t.delayOf a, a⟩ := by
  have all (keeps : ¬ a.dropsLoop) : plans.filter (¬ a.drops ·.act) = plans := by
    refine List.filter_eq_self.mpr fun p _ => ?_
    cases a <;> first | rfl | exact absurd rfl keeps
  have planned {jobs : List (Job σ)} {plans : List Plan} (h : List.Forall₂ Serves jobs plans)
      {j : Job σ} (due : j.due = t.now + t.delayOf a) (loop : j.loop = a.loop?)
      (leads : ∀ host, a.leadsTo (j.event host).1) :
      List.Forall₂ Serves (jobs ++ [j]) (plans ++ [⟨t.now + t.delayOf a, a⟩]) :=
    List.rel_append h (.cons ⟨due, loop, leads⟩ .nil)
  cases a with
  | publish =>
    rw [all (by simp [Act.dropsLoop])]
    exact ⟨[], (List.append_nil plans).symm ▸ h, rfl, by simp⟩
  | report outcome =>
    rw [all (by simp [Act.dropsLoop])]
    exact ⟨[], (List.append_nil plans).symm ▸ h, rfl, by simp⟩
  | dropLoop g begun =>
    have left : List.Forall₂ Serves (t.jobs.filter (·.loop ≠ some g))
        (plans.filter (¬ (Act.dropLoop g begun).drops ·.act)) := by
      refine List.rel_filter (fun j p serves => ?_) h
      simp [serves.loop, Act.drops]
    cases begun with
    | false => exact ⟨[], (List.append_nil _).symm ▸ left, rfl, by simp⟩
    | true => exact ⟨_, planned left rfl rfl fun _ => rfl, rfl, by simp⟩
  | startLoop g =>
    rw [all (by simp [Act.dropsLoop])]
    exact ⟨_, planned h rfl rfl fun _ => decide_eq_true rfl, rfl, by simp⟩
  | fetch g topic base =>
    rw [all (by simp [Act.dropsLoop])]
    exact ⟨_, planned h rfl rfl fun _ => by simp [answered, Act.leadsTo], rfl, by simp⟩
  | rest g =>
    rw [all (by simp [Act.dropsLoop])]
    exact ⟨_, planned h rfl rfl fun _ => decide_eq_true rfl, rfl, by simp⟩
  | startKill pid aim =>
    rw [all (by simp [Act.dropsLoop])]
    exact ⟨_, planned h rfl rfl fun _ => by simp [always, Act.leadsTo], rfl, by simp⟩
  | requestKill pid aim =>
    rw [all (by simp [Act.dropsLoop])]
    exact ⟨_, planned h rfl rfl fun _ => by simp [answered, Act.leadsTo], rfl, by simp⟩

/-- What is planned after an outcome: what was planned before unless it has been dropped, and what
is newly under way. -/
theorem follow_serves (h : List.Forall₂ Serves t.jobs plans) (o : Engine.Outcome) :
    ∃ news : List Plan,
      List.Forall₂ Serves (t.follow o).jobs (plans.filter (Act.spared o.2 ·.act) ++ news) ∧
      news.map (·.act) = o.2.foldl Act.enter [] ∧
      ∀ p ∈ news, { t with engine := o.1 }.Makes o.2 p := by
  obtain ⟨e, acts⟩ := o
  -- the plans made so far are kept apart from those that were there before
  have all (acts : List Act) : ∀ (t : Timeline σ) (old made : List Plan),
      List.Forall₂ Serves t.jobs (old ++ made) →
      ∃ news : List Plan, List.Forall₂ Serves (acts.foldl carryOut t).jobs
          (old.filter (Act.spared acts ·.act) ++ news) ∧
        news.map (·.act) = acts.foldl Act.enter (made.map (·.act)) ∧
        ∀ p ∈ news, p ∈ made ∨ t.Makes acts p := by
    induction acts with
    | nil =>
      intro t old made h
      refine ⟨made, ?_, rfl, fun p mem => Or.inl mem⟩
      have all : old.filter (Act.spared [] ·.act) = old := List.filter_eq_self.mpr fun _ _ => rfl
      rwa [all]
    | cons a acts ih =>
      intro t old made h
      obtain ⟨news, serves, eq, fresh⟩ := carryOut_serves h a
      rw [List.filter_append, List.append_assoc] at serves
      obtain ⟨later, serves', eq', fresh'⟩ := ih (t.carryOut a) _ _ serves
      refine ⟨later, ?_, ?_, ?_⟩
      · rw [List.filter_filter] at serves'
        have spared : (fun p : Plan => Act.spared (a :: acts) p.act) =
            fun p => Act.spared acts p.act && decide (¬ a.drops p.act = true) := by
          funext p
          simp [Act.spared, Bool.and_comm]
        rwa [spared]
      · rw [eq', List.map_append, eq, List.foldl_cons, Act.enter, List.filter_map]
        rfl
      · intro p mem
        rcases fresh' p mem with mem | now
        · rcases List.mem_append.mp mem with old | new
          · exact Or.inl (List.mem_filter.mp old).1
          · obtain rfl := fresh p new
            exact Or.inr ⟨[], acts, rfl, rfl⟩
        · obtain ⟨before, after, rfl, due⟩ := now
          rw [carryOut_now] at due
          exact Or.inr ⟨a :: before, after, rfl, due⟩
  have begun : List.Forall₂ Serves ({ t with engine := e } : Timeline σ).jobs (plans ++ []) :=
    (List.append_nil plans).symm ▸ h
  obtain ⟨news, serves, eq, fresh⟩ := all acts _ _ _ begun
  exact ⟨news, serves, eq, fun p mem => (fresh p mem).resolve_left List.not_mem_nil⟩

theorem map_spared (plans : List Plan) {news : List Plan} {acts : List Act}
    (eq : news.map (·.act) = acts.foldl Act.enter []) :
    (plans.filter (Act.spared acts ·.act) ++ news).map (·.act) =
      acts.foldl Act.enter (plans.map (·.act)) := by
  rw [List.map_append, eq, Act.foldl_enter acts (plans.map _), List.filter_map]
  rfl

end Follow

theorem follow_source (t : Timeline σ) (o : Engine.Outcome) : (t.follow o).source = t.source := by
  have all (acts : List Act) (t : Timeline σ) : (acts.foldl carryOut t).source = t.source := by
    induction acts generalizing t with
    | nil => rfl
    | cons a acts ih => exact (ih _).trans (t.carryOut_source a)
  exact all o.2 { t with engine := o.1 }

theorem next_settings (t : Timeline σ) (move : Move) :
    (t.next move).interval = t.interval ∧ (t.next move).source = t.source := by
  have followed (t : Timeline σ) (o : Engine.Outcome) :
      (t.follow o).interval = t.interval ∧ (t.follow o).source = t.source :=
    ⟨(t.follow_frame o).2.2, t.follow_source o⟩
  cases move with
  | start target =>
    cases ok : target.base with
    | error error =>
      simp only [next, start_of_error t ok]
      exact ⟨trivial, trivial⟩
    | ok base =>
      obtain ⟨o, -, eq⟩ := t.start_of_ok ok
      simp only [next, eq]
      exact followed t o
  | stop => exact followed t _
  | kill pid => exact followed t _
  | happen place =>
    simp only [next]
    split
    · exact followed _ _
    · exact ⟨rfl, rfl⟩
  | wait millis => exact ⟨rfl, rfl⟩

theorem goThrough_settings (t : Timeline σ) (moves : List Move) :
    (t.goThrough moves).interval = t.interval ∧ (t.goThrough moves).source = t.source := by
  induction moves generalizing t with
  | nil => exact ⟨rfl, rfl⟩
  | cons move moves ih =>
    obtain ⟨interval, source⟩ := ih (t.next move)
    exact ⟨interval.trans (t.next_settings move).1, source.trans (t.next_settings move).2⟩

/-- What holds of a timeline at all times: what is planned is under way and what the engine waits
for, and what is prompt has been due since it was planned. -/
structure Carries (t : Timeline σ) (plans : List Plan) : Prop where
  serves : List.Forall₂ Serves t.jobs plans
  agenda : t.engine.Agenda (plans.map (·.act))
  prompt : ∀ p ∈ plans, p.act.isPrompt → p.due ≤ t.now

section Carries

variable {t : Timeline σ} {plans : List Plan}

theorem carries_init (source : Source σ) (interval : Interval) (host : σ) :
    Carries { source, interval, host } [] := ⟨.nil, Engine.agenda_init, by simp⟩

theorem Carries.follow (h : t.Carries plans) {o : Engine.Outcome}
    (agenda : o.1.Agenda (o.2.foldl Act.enter (plans.map (·.act)))) :
    ∃ plans', (t.follow o).Carries plans' := by
  obtain ⟨engine, now, -⟩ := t.follow_frame o
  obtain ⟨news, serves, acts, fresh⟩ := follow_serves h.serves o
  refine ⟨_, serves, ?_, ?_⟩
  · rw [engine, map_spared plans acts]
    exact agenda
  · intro p mem prompt
    rw [now]
    rcases List.mem_append.mp mem with old | new
    · exact h.prompt p (List.mem_filter.mp old).1 prompt
    · exact Nat.le_of_eq ((fresh p new).prompt prompt)

theorem Carries.job (h : t.Carries plans) {p : Plan} (mem : p ∈ plans) :
    ∃ j ∈ t.jobs, j.due = p.due := by
  obtain ⟨place, bound, rfl⟩ := List.mem_iff_getElem.mp mem
  have bound' : place < t.jobs.length := by rwa [h.serves.length_eq]
  exact ⟨t.jobs[place], List.getElem_mem bound', (h.serves.get bound' bound).due⟩

theorem Carries.plan (h : t.Carries plans) {place : Nat} {j : Job σ}
    (at_place : t.jobs[place]? = some j) :
    ∃ p, plans[place]? = some p ∧ Serves j p ∧
      List.Forall₂ Serves (t.jobs.eraseIdx place) (plans.eraseIdx place) := by
  have taken : ∀ {jobs : List (Job σ)} {plans : List Plan}, List.Forall₂ Serves jobs plans →
      ∀ {place}, jobs[place]? = some j → ∃ p, plans[place]? = some p ∧ Serves j p ∧
        List.Forall₂ Serves (jobs.eraseIdx place) (plans.eraseIdx place) := by
    intro jobs plans serves
    induction serves with
    | nil => simp
    | cons head tail ih =>
      intro place at_place
      cases place with
      | zero =>
        cases at_place
        exact ⟨_, rfl, head, tail⟩
      | succ place =>
        obtain ⟨p, there, serves, rest⟩ := ih at_place
        exact ⟨p, there, serves, .cons head rest⟩
  exact taken h.serves at_place

/-- The timeline with a job taken off, at the time when it happens. -/
def taking (t : Timeline σ) (j : Job σ) (others : List (Job σ)) : Timeline σ :=
  { t with now := max t.now j.due, host := (j.event t.host).2, jobs := others }

theorem perform_eq (t : Timeline σ) (j : Job σ) (others : List (Job σ)) :
    t.perform j others =
      (t.taking j others).follow (t.engine.step (j.event t.host).1) := rfl

/-- What happens takes its plan off, lets the engine go on, and adds what is newly under way. -/
theorem Carries.perform (h : t.Carries plans) {place : Nat} {j : Job σ}
    (at_place : t.jobs[place]? = some j) :
    let o := t.engine.step (j.event t.host).1
    ∃ p news, plans[place]? = some p ∧ Serves j p ∧ t.engine.Turn o p.act ∧
      (t.perform j (t.jobs.eraseIdx place)).Carries (plans.eraseIdx place ++ news) ∧
      news.map (·.act) = o.2.filter Act.isAwaited ∧
      ∀ q ∈ news, { t.taking j (t.jobs.eraseIdx place) with engine := o.1 }.Makes o.2 q := by
  intro o
  obtain ⟨p, there, serves, rest⟩ := h.plan at_place
  have there' : (plans.map (·.act))[place]? = some p.act := by simp [there]
  have turn := h.agenda.turn (List.mem_of_getElem? there') (serves.leads t.host)
  obtain ⟨news, serves', acts, fresh⟩ :=
    follow_serves (t := t.taking j (t.jobs.eraseIdx place)) rest o
  obtain ⟨engine, now, -⟩ := (t.taking j (t.jobs.eraseIdx place)).follow_frame o
  rw [List.filter_eq_self.mpr fun q _ => Act.spared_of_keeps turn.keeps q.act] at serves'
  rw [Act.foldl_enter_of_keeps turn.keeps] at acts
  have agenda := h.agenda.turned there' turn
  refine ⟨p, news, there, serves, turn, ⟨serves', ?_, fun q mem prompt => ?_⟩, acts, fresh⟩
  · rw [perform_eq, engine, List.map_append, ← List.eraseIdx_map, acts]
    exact agenda
  · rw [perform_eq, now]
    rcases List.mem_append.mp mem with old | new
    · exact Nat.le_trans (h.prompt q (List.mem_of_mem_eraseIdx old) prompt) (Nat.le_max_left _ _)
    · exact Nat.le_of_eq ((fresh q new).prompt prompt)

theorem Carries.next (h : t.Carries plans) (move : Move) :
    ∃ plans', (t.next move).Carries plans' := by
  cases move with
  | start target =>
    cases ok : target.base with
    | error error =>
      refine ⟨plans, ?_⟩
      simp only [Timeline.next, start_of_error t ok]
      exact h
    | ok base =>
      obtain ⟨o, started, eq⟩ := t.start_of_ok ok
      simp only [Timeline.next, eq]
      exact h.follow (h.agenda.start started)
  | stop => exact h.follow h.agenda.stop
  | kill pid => exact h.follow (h.agenda.kill pid)
  | happen place =>
    simp only [Timeline.next]
    split
    next j at_place =>
      obtain ⟨p, news, -, -, -, later, -⟩ := h.perform at_place
      exact ⟨_, later⟩
    next => exact ⟨plans, h⟩
  | wait millis =>
    refine ⟨plans, h.serves, h.agenda, fun p mem prompt => ?_⟩
    exact Nat.le_trans (h.prompt p mem prompt) (Nat.le_add_right _ _)

theorem Carries.goThrough (h : t.Carries plans) (moves : List Move) :
    ∃ plans', (t.goThrough moves).Carries plans' := by
  induction moves generalizing t plans with
  | nil => exact ⟨plans, h⟩
  | cons move moves ih =>
    obtain ⟨plans', later⟩ := h.next move
    exact ih later

end Carries

section Inputs

theorem firstDue_due {limit : Nat} {jobs others : List (Job σ)} {j : Job σ}
    (h : firstDue limit jobs = some (j, others)) : j.due ≤ limit := by
  induction jobs generalizing j others with
  | nil => cases h
  | cons k ks ih =>
    unfold firstDue at h
    split at h
    next k' rest first =>
      have later := ih first
      split at h <;> cases h
      next before =>
        simp only [isBefore, Bool.or_eq_true, Bool.and_eq_true, decide_eq_true_eq] at before
        omega
      next => exact later
    next =>
      split at h <;> cases h
      assumption

theorem runThrough_moves (fuel limit : Nat) (t : Timeline σ) (until_limit : t.now ≤ limit) :
    (runThrough fuel limit t).now ≤ limit ∧
      ∃ moves : List Move, (∀ move ∈ moves, move.isQuiet) ∧
        runThrough fuel limit t = t.goThrough moves := by
  induction fuel generalizing t with
  | zero => exact ⟨until_limit, [], by simp, rfl⟩
  | succ fuel ih =>
    unfold runThrough
    cases first : firstDue limit t.jobs with
    | none => exact ⟨until_limit, [], by simp, rfl⟩
    | some due =>
      obtain ⟨j, others⟩ := due
      obtain ⟨place, at_place, rfl⟩ := firstDue_spec first
      have still : (t.perform j (t.jobs.eraseIdx place)).now ≤ limit := by
        rw [perform_eq, (follow_frame _ _).2.1]
        exact Nat.max_le.mpr ⟨until_limit, firstDue_due first⟩
      obtain ⟨now, moves, quiet, eq⟩ := ih _ still
      refine ⟨now, .happen place :: moves, ?_, ?_⟩
      · simpa [Move.isQuiet] using quiet
      · dsimp only
        rw [eq]
        simp only [goThrough, List.foldl_cons, Timeline.next, at_place]

/-- Running what is due, at an instant or for a while, is to let some things happen and time pass.
-/
theorem advance_moves (t : Timeline σ) (millis : Nat) :
    ∃ moves : List Move, (∀ move ∈ moves, move.isQuiet) ∧
      t.advance millis = t.goThrough moves := by
  obtain ⟨-, first, quiet, eq⟩ := runThrough_moves (t.budget t.now) t.now t (Nat.le_refl _)
  obtain ⟨now, rest, quiet', eq'⟩ := runThrough_moves (t.settle.budget (t.settle.now + millis))
    (t.settle.now + millis) t.settle (Nat.le_add_right _ _)
  refine ⟨first ++ rest ++ [.wait (t.settle.now + millis - (t.settle.goThrough rest).now)], ?_, ?_⟩
  · intro move mem
    simp only [List.mem_append, List.mem_singleton] at mem
    rcases mem with (mem | mem) | rfl
    · exact quiet move mem
    · exact quiet' move mem
    · rfl
  · have settled : t.goThrough first = t.settle := eq.symm
    rw [goThrough_append, goThrough_append, settled]
    rw [eq'] at now
    simp only [advance, eq', goThrough, List.foldl_cons, List.foldl_nil, Timeline.next] at now ⊢
    rw [Nat.add_sub_cancel' now]

theorem take_moves (t : Timeline σ) (input : Input) :
    ∃ moves : List Move, t.take input = t.goThrough moves := by
  cases input with
  | start target => exact ⟨[.start target], rfl⟩
  | stop => exact ⟨[.stop], rfl⟩
  | kill pid => exact ⟨[.kill pid], rfl⟩
  | settle =>
    obtain ⟨-, moves, -, eq⟩ := runThrough_moves (t.budget t.now) t.now t (Nat.le_refl _)
    exact ⟨moves, eq⟩
  | advance millis =>
    obtain ⟨moves, -, eq⟩ := t.advance_moves millis
    exact ⟨moves, eq⟩

theorem takeAll_moves (t : Timeline σ) (inputs : List Input) :
    ∃ moves : List Move, t.takeAll inputs = t.goThrough moves := by
  induction inputs generalizing t with
  | nil => exact ⟨[], rfl⟩
  | cons input inputs ih =>
    obtain ⟨moves, eq⟩ := t.take_moves input
    obtain ⟨moves', eq'⟩ := ih (t.take input)
    refine ⟨moves ++ moves', ?_⟩
    rw [goThrough_append, ← eq]
    exact eq'

end Inputs

end Timeline

end HostWatch
