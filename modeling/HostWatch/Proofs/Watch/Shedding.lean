import HostWatch.Proofs.Watch.Kills
import HostWatch.Proofs.Watch.Rounds

namespace HostWatch

namespace Engine

variable {e e' : Engine} {o o' : Outcome} {a : Act}

theorem Turn.generation (turn : e.Turn o a) :
    o.1.telemetry.generation = e.telemetry.generation := by
  cases turn with
  | begins run waiting gives => exact gives.generation
  | replied run fetching mem gives => exact gives.generation
  | rested run resting gives => exact gives.generation
  | cleared gives => exact gives.generation
  | aside kill gives => exact gives.generation

theorem Turn.of_kill (turn : e.Turn o a) (kill : a.isKill) :
    Gives e o e.run e.liveLoops a.killNext := by
  cases turn with
  | aside kill gives => exact gives
  | _ => cases kill

theorem Turn.same (turn : e.Turn o a) (turn' : e'.Turn o' a) (run : e'.run = e.run) :
    o'.1.run = o.1.run ∧ o'.2.filter Act.isAwaited = o.2.filter Act.isAwaited := by
  have both {after : Option Run} {live live' : Nat} {news : List Act}
      (gives : Gives e o after live news) (gives' : Gives e' o' after live' news) :
      o'.1.run = o.1.run ∧ o'.2.filter Act.isAwaited = o.2.filter Act.isAwaited :=
    ⟨gives'.run.trans gives.run.symm, gives'.news.trans gives.news.symm⟩
  cases turn with
  | @begins r running waiting gives =>
    generalize act : Act.startLoop r.generation = a at turn'
    cases turn' with
    | begins running' waiting' gives' =>
      cases Option.some.inj (running'.symm.trans (run.trans running))
      exact both gives gives'
    | aside kill gives' =>
      subst act
      cases kill
    | _ => cases act
  | @replied r first awaited topic running fetching mem gives =>
    generalize act : Act.fetch r.generation topic r.base = a at turn'
    cases turn' with
    | replied running' fetching' mem' gives' =>
      cases Option.some.inj (running'.symm.trans (run.trans running))
      cases fetching.symm.trans fetching'
      cases act
      exact both gives gives'
    | aside kill gives' =>
      subst act
      cases kill
    | _ => cases act
  | @rested r running resting gives =>
    generalize act : Act.rest r.generation = a at turn'
    cases turn' with
    | rested running' resting' gives' =>
      cases Option.some.inj (running'.symm.trans (run.trans running))
      exact both gives gives'
    | aside kill gives' =>
      subst act
      cases kill
    | _ => cases act
  | cleared gives =>
    cases turn' with
    | cleared gives' => exact both gives (run ▸ gives')
    | aside kill gives' => cases kill
  | aside kill gives => exact both gives (run ▸ turn'.of_kill kill)

/-- What the loop goes on to wait for: nothing more, its rest, or the replies of a round. -/
theorem Turn.loop_news (turn : e.Turn o a) (other : ¬ a.isKill) :
    o.2.filter Act.isAwaited = [] ∨ (∃ g, o.2.filter Act.isAwaited = [.rest g]) ∨
      ∃ r first, o.2.filter Act.isAwaited = (Run.at r (.fetching first Topic.all)).awaits := by
  cases turn with
  | begins run waiting gives => exact .inr (.inr ⟨_, _, gives.news⟩)
  | @replied r first awaited topic run fetching mem gives =>
    rw [gives.news]
    split
    · cases first with
      | true => exact .inr (.inr ⟨r, false, rfl⟩)
      | false => exact .inr (.inl ⟨_, rfl⟩)
    · exact .inl rfl
  | rested run resting gives => exact .inr (.inr ⟨_, _, gives.news⟩)
  | cleared gives => exact .inl gives.news
  | aside kill gives => exact absurd kill other

theorem Turn.loop_acts (turn : e.Turn o a) (other : ¬ a.isKill) :
    ∀ b ∈ o.2.filter Act.isAwaited, b.isLoop := by
  rcases turn.loop_news other with none | ⟨g, rest⟩ | ⟨r, first, round⟩
  · simp [none]
  · simp [rest, Act.isLoop, Act.loop?]
  · rw [round, ← Run.awaits_isLoop]
    exact fun b mem => (List.mem_filter.mp mem).2

theorem start_same (run : e'.run = e.run)
    (generation : e'.telemetry.generation = e.telemetry.generation) {target : Target}
    (started : e.start target = .ok o) (started' : e'.start target = .ok o') :
    o'.2 = o.2 ∧ o'.1.run = o.1.run ∧
      o'.1.telemetry.generation = o.1.telemetry.generation := by
  cases ok : target.base with
  | error error =>
    rw [start_error e ok] at started
    cases started
  | ok base =>
    rw [start_ok e ok] at started
    rw [start_ok e' ok] at started'
    cases started
    cases started'
    have given : e'.giveUp.2 = e.giveUp.2 := by
      unfold giveUp
      rw [run]
      cases e.run <;> rfl
    simp [given, generation, Telemetry.fresh]

theorem stop_same (run : e'.run = e.run)
    (generation : e'.telemetry.generation = e.telemetry.generation) :
    e'.stop.2 = e.stop.2 ∧ e'.stop.1.run = e.stop.1.run ∧
      e'.stop.1.telemetry.generation = e.stop.1.telemetry.generation := by
  cases running : e.run with
  | none =>
    rw [stop_none running, stop_none (run.trans running)]
    exact ⟨rfl, run, generation⟩
  | some r =>
    rw [stop_some running, stop_some (run.trans running)]
    exact ⟨rfl, rfl, congrArg (· + 1) generation⟩

theorem start_prompt {target : Target} (started : e.start target = .ok o) :
    ∀ a ∈ o.2, a.isAwaited → a.isPrompt ∧ ¬ a.isKill := by
  intro a mem awaited
  rcases mem_start started mem with ⟨g, begun, rfl⟩ | rfl | ⟨g, rfl⟩
  · exact ⟨rfl, Bool.false_ne_true⟩
  · cases awaited
  · exact ⟨rfl, Bool.false_ne_true⟩

theorem stop_prompt (e : Engine) : ∀ a ∈ e.stop.2, a.isAwaited → a.isPrompt ∧ ¬ a.isKill := by
  intro a mem awaited
  rcases mem_stop mem with ⟨g, begun, rfl⟩ | rfl
  · exact ⟨rfl, Bool.false_ne_true⟩
  · cases awaited

end Engine

namespace Timeline

def Input.isKill : Input → Bool
  | .kill _ => true
  | _ => false

section Order

variable {σ : Type} {t : Timeline σ} {plans : List Plan}

/-- Jobs stand in the order in which they were planned. -/
structure Ordered (t : Timeline σ) : Prop where
  sorted : t.jobs.Pairwise (·.order < ·.order)
  planned : ∀ j ∈ t.jobs, j.order < t.planned

theorem ordered_next (h : t.Ordered) (move : Move) : (t.next move).Ordered := by
  obtain ⟨kept, news, ext⟩ := t.next_extends move
  have left : (t.left move).Sublist t.jobs := by
    cases move with
    | happen place => exact List.eraseIdx_sublist _ _
    | _ => exact List.Sublist.refl _
  have old {j : Job σ} (mem : j ∈ (t.left move).filter kept) : j.order < t.planned :=
    h.planned j (left.subset (List.mem_filter.mp mem).1)
  refine ⟨?_, fun j mem => ?_⟩
  · rw [ext.jobs]
    refine List.pairwise_append.mpr ⟨(h.sorted.sublist left).filter _, ext.sorted, ?_⟩
    exact fun j mem j' mem' => Nat.lt_of_lt_of_le (old mem) (ext.numbered j' mem').1
  · rw [ext.jobs] at mem
    rcases List.mem_append.mp mem with mem | new
    · exact Nat.lt_of_lt_of_le (old mem) ext.planned
    · exact (ext.numbered j new).2

/-- The first of some plans that are due the earliest, between those before and after it. -/
structure Foremost (limit : Nat) (before : List Plan) (p : Plan) (after : List Plan) : Prop where
  due : p.due ≤ limit
  earliest : ∀ q ∈ before, p.due < q.due
  first : ∀ q ∈ after, p.due ≤ q.due

theorem Foremost.filter {limit : Nat} {before after : List Plan} {p : Plan}
    (h : Foremost limit before p after) (kept : Plan → Bool) :
    Foremost limit (before.filter kept) p (after.filter kept) :=
  ⟨h.due, fun q mem => h.earliest q (List.mem_filter.mp mem).1,
    fun q mem => h.first q (List.mem_filter.mp mem).1⟩

theorem Foremost.unique {limit : Nat} {before before' after after' : List Plan} {p p' : Plan}
    (h : Foremost limit before p after) (h' : Foremost limit before' p' after')
    (same : before ++ p :: after = before' ++ p' :: after') : before = before' ∧ p = p' := by
  have apart {before before' after after' more : List Plan} {p p' q : Plan}
      (h : Foremost limit before p after) (h' : Foremost limit before' p' after')
      (longer : before' = before ++ q :: more) (rest : p :: after = q :: more ++ p' :: after') :
      False := by
    obtain ⟨rfl, eq⟩ := List.cons.inj rest
    have early := h'.earliest p (longer ▸ List.mem_append_right _ List.mem_cons_self)
    have late := h.first p' (eq ▸ List.mem_append_right _ List.mem_cons_self)
    omega
  rcases List.append_eq_append_iff.mp same with ⟨more, longer, rest⟩ | ⟨more, longer, rest⟩
  · cases more with
    | nil => exact ⟨(longer.trans (List.append_nil _)).symm, (List.cons.inj rest).1⟩
    | cons q more => exact (apart h h' longer rest).elim
  · cases more with
    | nil => exact ⟨longer.trans (List.append_nil _), (List.cons.inj rest).1.symm⟩
    | cons q more => exact (apart h' h longer rest).elim

theorem Ordered.firstDue (h : t.Ordered) (serves : List.Forall₂ Serves t.jobs plans) {limit : Nat}
    {j : Job σ} {others : List (Job σ)} (first : firstDue limit t.jobs = some (j, others)) :
    ∃ before p after, plans = before ++ p :: after ∧ Foremost limit before p after ∧
      t.jobs[before.length]? = some j ∧ others = t.jobs.eraseIdx before.length := by
  obtain ⟨place, there, rfl⟩ := firstDue_spec first
  have least := firstDue_first first
  obtain ⟨bound, rfl⟩ := List.getElem?_eq_some_iff.mp there
  have size := serves.length_eq
  have planned : place < plans.length := size ▸ bound
  have due (i : Nat) (inside : i < plans.length) : (t.jobs[i]).due = (plans[i]).due :=
    (serves.get (size ▸ inside) inside).due
  have place_eq : (plans.take place).length = place := by
    rw [List.length_take]
    omega
  have sorted := List.pairwise_iff_getElem.mp h.sorted
  refine ⟨plans.take place, plans[place], plans.drop (place + 1), ?_, ⟨?_, ?_, ?_⟩, ?_, ?_⟩
  · rw [List.getElem_cons_drop, List.take_append_drop]
  · exact due place planned ▸ firstDue_due first
  · intro q mem
    obtain ⟨i, inside, rfl⟩ := List.mem_iff_getElem.mp mem
    rw [place_eq] at inside
    rw [List.getElem_take]
    have before := least _ (List.getElem_mem (l := t.jobs) (n := i) (by omega))
    have order := sorted i place (by omega) bound inside
    have mine := due place planned
    have other := due i (by omega)
    simp only [isBefore, Bool.or_eq_true, Bool.and_eq_true, decide_eq_true_eq] at before
    omega
  · intro q mem
    obtain ⟨i, inside, rfl⟩ := List.mem_iff_getElem.mp mem
    rw [List.length_drop] at inside
    rw [List.getElem_drop]
    have before := least _ (List.getElem_mem (l := t.jobs) (n := place + 1 + i) (by omega))
    have mine := due place planned
    have other := due (place + 1 + i) (by omega)
    simp only [isBefore, Bool.or_eq_true, Bool.and_eq_true, decide_eq_true_eq] at before
    omega
  · rw [place_eq, there]
  · rw [place_eq]

theorem Ordered.firstDue_of_foremost (h : t.Ordered) {limit : Nat} {before after : List Plan}
    {p : Plan} (serves : List.Forall₂ Serves t.jobs (before ++ p :: after))
    (foremost : Foremost limit before p after) :
    ∃ j, Timeline.firstDue limit t.jobs = some (j, t.jobs.eraseIdx before.length) ∧
      t.jobs[before.length]? = some j := by
  cases first : Timeline.firstDue limit t.jobs with
  | none =>
    have size := serves.length_eq
    have inside : before.length < (before ++ p :: after).length := by simp
    have due := (serves.get (size ▸ inside) inside).due
    have late := firstDue_none first _ (List.getElem_mem (l := t.jobs) (size ▸ inside))
    have early := foremost.due
    simp only [List.get_eq_getElem, List.getElem_append_right (Nat.le_refl _), Nat.sub_self,
      List.getElem_cons_zero] at due
    omega
  | some found =>
    obtain ⟨j, others⟩ := found
    obtain ⟨before', p', after', same, foremost', there, rfl⟩ := h.firstDue serves first
    obtain ⟨rfl, -⟩ := foremost.unique foremost' same
    exact ⟨j, rfl, there⟩

theorem perform_next {place : Nat} {j : Job σ} (there : t.jobs[place]? = some j) :
    t.perform j (t.jobs.eraseIdx place) = t.next (.happen place) := by
  simp only [next, there]

theorem runThrough_succ {limit : Nat} {j : Job σ} {others : List (Job σ)}
    (first : firstDue limit t.jobs = some (j, others)) (fuel : Nat) :
    runThrough (fuel + 1) limit t = runThrough fuel limit (t.perform j others) := by
  simp only [runThrough, first]

theorem runThrough_of_late {limit : Nat} (late : ∀ j ∈ t.jobs, limit < j.due) (fuel : Nat) :
    runThrough fuel limit t = t := by
  cases fuel with
  | zero => rfl
  | succ fuel =>
    cases first : firstDue limit t.jobs with
    | none => simp only [runThrough, first]
    | some found =>
      obtain ⟨place, there, -⟩ := firstDue_spec first
      have due := firstDue_due first
      have := late _ (List.mem_of_getElem? there)
      omega

end Order

section Scripted

variable {t t' u u' : Timeline Script} {plans news news' : List Plan} {o o' : Engine.Outcome}
  {place place' : Nat} {p : Plan}

/-- How long the loop of a scripted host waits until something comes of an act. -/
def wait (t : Timeline Script) : Act → Nat
  | .fetch _ topic _ => t.host.delay 0 topic
  | .rest _ => t.interval.millis
  | _ => 0

theorem Happens.news_eq (h : t.Happens plans t' o place p news) (other : ¬ p.act.isKill) :
    news = (o.2.filter Act.isAwaited).map fun a => ⟨p.due + t.wait a, a⟩ := by
  have due : ∀ q ∈ news, q.due = p.due + t.wait q.act := by
    intro q mem
    have act := List.mem_map_of_mem (f := Plan.act) mem
    rw [h.acts] at act
    rcases h.turn.loop_news other with none | ⟨g, rest⟩ | ⟨r, first, round⟩
    · rw [none] at act
      cases act
    · rw [rest] at act
      rw [h.rest q mem g (List.mem_singleton.mp act), List.mem_singleton.mp act]
      rfl
    · rw [round] at act
      obtain ⟨topic, -, asked⟩ := List.mem_map.mp act
      have once := (round_acts r first topic).1
      rw [← round, ← h.acts] at once
      rw [h.reply q mem _ _ _ asked.symm once.le, ← asked]
      rfl
  rw [← h.acts, List.map_map]
  refine (List.map_id news).symm.trans (List.map_congr_left fun q mem => ?_)
  simp only [id_eq, Function.comp_apply, ← due q mem]

/-- A timeline of a scripted host, and one that is the same for the loop and has no kills. -/
structure Sheds (t u : Timeline Script) (plans : List Plan) : Prop where
  full : t.Prepared plans
  bare : u.Prepared (plans.filter (¬ ·.act.isKill))
  ordered : t.Ordered
  ordered' : u.Ordered
  interval : u.interval = t.interval
  run : u.engine.run = t.engine.run
  generation : u.engine.telemetry.generation = t.engine.telemetry.generation
  replies : ∀ k topic, u.host.delay k topic = t.host.delay k topic
  requests : u.requests = t.requests

theorem Sheds.aside (h : t.Sheds u plans) (happens : t.Happens plans t' o place p news)
    (ordered : t'.Ordered) (kill : p.act.isKill) : t'.Sheds u (plans.eraseIdx place ++ news) := by
  have gives := happens.turn.of_kill kill
  have acts : news.map (·.act) = p.act.killNext := happens.acts.trans gives.news
  have silent : ∀ a ∈ news.map (·.act), ¬ a.isFetch ∧ a.isKill := by
    intro a mem
    obtain ⟨pid, aim, rfl⟩ := Act.mem_killNext (acts ▸ mem)
    exact ⟨Bool.false_ne_true, rfl⟩
  have same : (plans.eraseIdx place ++ news).filter (¬ ·.act.isKill) =
      plans.filter (¬ ·.act.isKill) := by
    have none : news.filter (¬ ·.act.isKill) = [] := by
      refine List.filter_eq_nil_iff.mpr fun q mem => ?_
      simpa using (silent q.act (List.mem_map_of_mem mem)).2
    rw [List.filter_append, none, List.append_nil]
    exact filter_eraseIdx_of_neg happens.there (by simpa using kill)
  have unasked (topic : Topic) : (news.map (·.act)).countP (Act.asks topic) = 0 :=
    Act.countP_asks_eq_zero (fun a mem => (silent a mem).1) topic
  refine ⟨happens.prepared, same ▸ h.bare, ordered, h.ordered', ?_, ?_, ?_, fun k topic => ?_, ?_⟩
  · exact h.interval.trans happens.interval.symm
  · rw [happens.engine, gives.run, h.run]
  · rw [happens.engine, gives.generation, h.generation]
  · rw [happens.replies, unasked, h.replies]
    rfl
  · rw [happens.requests, List.filter_eq_nil_iff.mpr fun a mem => (silent a mem).1, h.requests]
    exact (List.append_nil _).symm

theorem Sheds.both (h : t.Sheds u plans) (happens : t.Happens plans t' o place p news)
    (happens' : u.Happens (plans.filter (¬ ·.act.isKill)) u' o' place' p news')
    (ordered : t'.Ordered) (ordered' : u'.Ordered) (other : ¬ p.act.isKill)
    (left : (plans.eraseIdx place).filter (¬ ·.act.isKill) =
      (plans.filter (¬ ·.act.isKill)).eraseIdx place') :
    t'.Sheds u' (plans.eraseIdx place ++ news) := by
  obtain ⟨run, acts⟩ := happens.turn.same happens'.turn h.run
  have waits : u.wait = t.wait := by
    funext a
    cases a with
    | fetch g topic base => exact h.replies 0 topic
    | rest g => exact congrArg Interval.millis h.interval
    | _ => rfl
  have same : news' = news := by
    rw [happens.news_eq other, happens'.news_eq other, acts, waits]
  subst same
  have loop : news'.filter (¬ ·.act.isKill) = news' := by
    refine List.filter_eq_self.mpr fun q mem => ?_
    have own := happens.turn.loop_acts other q.act (happens.acts ▸ List.mem_map_of_mem mem)
    cases act : q.act <;> simp_all [Act.isLoop, Act.loop?, Act.isKill]
  refine ⟨happens.prepared, ?_, ordered, ordered', ?_, ?_, ?_, fun k topic => ?_, ?_⟩
  · rw [List.filter_append, loop, left]
    exact happens'.prepared
  · rw [happens'.interval, h.interval, happens.interval]
  · rw [happens'.engine, run, happens.engine]
  · rw [happens'.engine, happens'.turn.generation, h.generation, happens.engine,
      happens.turn.generation]
  · rw [happens'.replies, happens.replies, h.replies]
  · rw [happens'.requests, happens.requests, h.requests]

theorem Sheds.late (h : t.Sheds u plans) {limit : Nat} (late : ∀ j ∈ t.jobs, limit < j.due) :
    ∀ j ∈ u.jobs, limit < j.due := by
  intro j mem
  obtain ⟨place, there⟩ := List.mem_iff_getElem?.mp mem
  obtain ⟨p, planned, serves, -⟩ := h.bare.carries.plan there
  obtain ⟨k, job, due⟩ := h.full.carries.job
    (List.mem_filter.mp (List.mem_of_getElem? planned)).1
  exact serves.due ▸ due ▸ late k job

theorem Sheds.pass (h : t.Sheds u plans) {limit : Nat} (le : t.now ≤ limit) (le' : u.now ≤ limit)
    (late : ∀ j ∈ t.jobs, limit < j.due) :
    ({ t with now := limit } : Timeline Script).Sheds { u with now := limit } plans where
  full := h.full.pass le late
  bare := h.bare.pass le' (h.late late)
  ordered := ⟨h.ordered.sorted, h.ordered.planned⟩
  ordered' := ⟨h.ordered'.sorted, h.ordered'.planned⟩
  interval := h.interval
  run := h.run
  generation := h.generation
  replies := h.replies
  requests := h.requests

theorem Sheds.bare_first {limit : Nat} {before after : List Plan}
    (h : t.Sheds u (before ++ p :: after)) (foremost : Foremost limit before p after)
    (other : ¬ p.act.isKill) :
    ∃ place' j' news', firstDue limit u.jobs = some (j', u.jobs.eraseIdx place') ∧
      u.jobs[place']? = some j' ∧
      u.Happens ((before ++ p :: after).filter (¬ ·.act.isKill))
        (u.perform j' (u.jobs.eraseIdx place')) (u.engine.step (j'.event u.host).1) place' p
        news' ∧
      ((before ++ p :: after).eraseIdx before.length).filter (¬ ·.act.isKill) =
        ((before ++ p :: after).filter (¬ ·.act.isKill)).eraseIdx place' := by
  have split : (before ++ p :: after).filter (¬ ·.act.isKill) =
      before.filter (¬ ·.act.isKill) ++ p :: after.filter (¬ ·.act.isKill) := by
    rw [List.filter_append, List.filter_cons_of_pos (by simpa using other)]
  have erased (before after : List Plan) :
      (before ++ p :: after).eraseIdx before.length = before ++ after := by
    rw [List.eraseIdx_append_of_length_le (Nat.le_refl _), Nat.sub_self, List.eraseIdx_zero,
      List.tail_cons]
  have serves := h.bare.carries.serves
  rw [split] at serves
  obtain ⟨j', first', there'⟩ := h.ordered'.firstDue_of_foremost serves (foremost.filter _)
  obtain ⟨p', news', happens'⟩ := h.bare.happens there' (firstDue_least first')
  obtain rfl : p = p' := by
    have here := happens'.there
    rwa [split, List.getElem?_append_right (Nat.le_refl _), Nat.sub_self,
      List.getElem?_cons_zero, Option.some_inj] at here
  refine ⟨_, j', news', first', there', happens', ?_⟩
  rw [split, erased, erased, List.filter_append]

theorem Sheds.runThrough {fuel fuel' limit : Nat} (h : t.Sheds u plans)
    (rests : ∀ j ∈ (runThrough fuel limit t).jobs, limit < j.due)
    (rests' : ∀ j ∈ (Timeline.runThrough fuel' limit u).jobs, limit < j.due) :
    ∃ plans', (Timeline.runThrough fuel limit t).Sheds (Timeline.runThrough fuel' limit u)
      plans' := by
  -- the induction is on the events of the full timeline, of which the bare one has some
  induction fuel generalizing fuel' t u plans with
  | zero => exact ⟨plans, (runThrough_of_late (h.late rests) fuel').symm ▸ h⟩
  | succ fuel ih =>
    cases first : firstDue limit t.jobs with
    | none =>
      have late := firstDue_none first
      rw [runThrough_of_late late, runThrough_of_late (h.late late)]
      exact ⟨plans, h⟩
    | some found =>
      obtain ⟨j, others⟩ := found
      rw [runThrough_succ first] at rests ⊢
      have least := firstDue_least first
      obtain ⟨before, p, after, rfl, foremost, there, rfl⟩ :=
        h.ordered.firstDue h.full.carries.serves first
      obtain ⟨p', news, happens⟩ := h.full.happens there least
      have ordered := ordered_next h.ordered (.happen before.length)
      rw [← perform_next there] at ordered
      obtain rfl : p' = p := by simpa using happens.there.symm
      by_cases kill : p'.act.isKill
      · exact ih (h.aside happens ordered kill) rests rests'
      obtain ⟨place', j', news', first', there', happens', left⟩ := h.bare_first foremost kill
      have ordered' := ordered_next h.ordered' (.happen place')
      rw [← perform_next there'] at ordered'
      cases fuel' with
      | zero =>
        have late := rests' j' (List.mem_of_getElem? there')
        have due := firstDue_due first'
        omega
      | succ fuel' =>
        rw [runThrough_succ first'] at rests' ⊢
        exact ih (h.both happens happens' ordered ordered' kill left) rests rests'

theorem plans_of_prompt {acts acts' : List Act}
    (entered : news.map (·.act) = acts.foldl Act.enter []) (makes : ∀ q ∈ news, t.Makes acts' q)
    (prompt : ∀ q ∈ news, q.act.isPrompt) :
    news = (acts.foldl Act.enter []).map (Plan.mk t.now) := by
  rw [← entered, List.map_map]
  refine (List.map_id news).symm.trans (List.map_congr_left fun q mem => ?_)
  simp only [id_eq, Function.comp_apply, ← (makes q mem).prompt (prompt q mem)]

theorem Sheds.follow (h : t.Sheds u plans) (now : u.now = t.now)
    (agenda : o.1.Agenda (o.2.foldl Act.enter (plans.map (·.act))))
    (agenda' : o'.1.Agenda
      (o'.2.foldl Act.enter ((plans.filter (¬ ·.act.isKill)).map (·.act))))
    (acts : o'.2 = o.2) (run : o'.1.run = o.1.run)
    (generation : o'.1.telemetry.generation = o.1.telemetry.generation)
    (prompt : ∀ a ∈ o.2, a.isAwaited → a.isPrompt ∧ ¬ a.isKill)
    (ordered : (t.follow o).Ordered) (ordered' : (u.follow o').Ordered) :
    ∃ plans', (t.follow o).Sheds (u.follow o') plans' := by
  obtain ⟨news, prepared, entered, makes⟩ := h.full.follow agenda
  obtain ⟨news', prepared', entered', makes'⟩ := h.bare.follow agenda'
  obtain ⟨engine, -, interval⟩ := t.follow_frame o
  obtain ⟨engine', -, interval'⟩ := u.follow_frame o'
  obtain ⟨-, delays⟩ := foldl_carryOut_delay o.2 (t := { t with engine := o.1 }) h.full.source
  obtain ⟨-, delays'⟩ := foldl_carryOut_delay o'.2 (t := { u with engine := o'.1 }) h.bare.source
  rw [acts] at entered' delays'
  have soon {news : List Plan} (entered : news.map (·.act) = o.2.foldl Act.enter []) (q : Plan)
      (mem : q ∈ news) : q.act.isPrompt ∧ ¬ q.act.isKill := by
    have act := List.mem_map_of_mem (f := Plan.act) mem
    rw [entered] at act
    obtain ⟨mem, awaited⟩ := Act.mem_of_entered act
    exact prompt _ mem awaited
  have same : news' = news := by
    rw [plans_of_prompt entered makes fun q mem => (soon entered q mem).1,
      plans_of_prompt entered' makes' fun q mem => (soon entered' q mem).1]
    exact congrArg (fun n => (o.2.foldl Act.enter []).map (Plan.mk n)) now
  have loop : news.filter (¬ ·.act.isKill) = news :=
    List.filter_eq_self.mpr fun q mem => by simpa using (soon entered q mem).2
  subst same
  refine ⟨_, prepared, ?_, ordered, ordered', ?_, ?_, ?_, fun k topic => ?_, ?_⟩
  · rw [List.filter_append, loop, List.filter_filter]
    rw [acts, List.filter_filter] at prepared'
    simpa only [Bool.and_comm] using prepared'
  · rw [interval', h.interval, interval]
  · rw [engine', run, engine]
  · rw [engine', generation, engine]
  · rw [Timeline.follow, acts, delays', Timeline.follow, delays]
    exact h.replies _ topic
  · rw [follow_requests, follow_requests, acts, h.requests, now]

theorem Sheds.kill (h : t.Sheds u plans) (pid : UInt32) :
    ∃ plans', (t.kill pid).Sheds u plans' := by
  obtain ⟨news, prepared, entered, -⟩ := h.full.follow (h.full.carries.agenda.kill pid)
  have keeps : ∀ a ∈ (t.engine.kill pid).2, ¬ a.dropsLoop := by simp [Engine.kill, Act.dropsLoop]
  have all : plans.filter (Act.spared (t.engine.kill pid).2 ·.act) = plans :=
    List.filter_eq_self.mpr fun q _ => Act.spared_of_keeps keeps q.act
  rw [all] at prepared
  have none : news.filter (¬ ·.act.isKill) = [] := by
    refine List.filter_eq_nil_iff.mpr fun q mem => ?_
    have act := List.mem_map_of_mem (f := Plan.act) mem
    rw [entered] at act
    rw [List.mem_singleton.mp (Act.mem_of_entered act).1]
    simp [Act.isKill]
  refine ⟨_, prepared, ?_, ordered_next h.ordered (.kill pid), h.ordered', h.interval, h.run,
    h.generation, h.replies, ?_⟩
  · rw [List.filter_append, none, List.append_nil]
    exact h.bare
  · rw [Timeline.kill, follow_requests, h.requests]
    exact (List.append_nil _).symm

theorem settle_now {σ : Type} (t : Timeline σ) : t.settle.now = t.now := by
  refine Nat.le_antisymm (runThrough_moves _ _ _ (Nat.le_refl _)).1 ?_
  refine runThrough_preserves (P := fun t' => t.now ≤ t'.now) (fun t' j others le _ => ?_) _
    (Nat.le_refl _)
  rw [perform_eq, (follow_frame _ _).2.1]
  exact Nat.le_trans le (Nat.le_max_left _ _)

theorem Sheds.settle (h : t.Sheds u plans) (now : u.now = t.now) :
    ∃ plans', t.settle.Sheds u.settle plans' := by
  have rests := h.full.carries.runThrough_rests (Nat.le_refl _)
    (h.full.carries.potential_le (Nat.le_refl _))
  have rests' := h.bare.carries.runThrough_rests (Nat.le_refl _)
    (h.bare.carries.potential_le (Nat.le_refl _))
  unfold Timeline.settle
  rw [now] at rests' ⊢
  exact h.runThrough rests rests'

theorem Sheds.advance (h : t.Sheds u plans) (now : u.now = t.now) (millis : Nat) :
    ∃ plans', (t.advance millis).Sheds (u.advance millis) plans' := by
  obtain ⟨plans', settled⟩ := h.settle now
  have le : t.settle.now ≤ t.settle.now + millis := Nat.le_add_right _ _
  have same : u.settle.now = t.settle.now := by rw [settle_now, settle_now, now]
  have le' : u.settle.now ≤ t.settle.now + millis := same ▸ le
  have rests := settled.full.carries.runThrough_rests le (settled.full.carries.potential_le le)
  have rests' := settled.bare.carries.runThrough_rests le' (settled.bare.carries.potential_le le')
  obtain ⟨plans'', ran⟩ := settled.runThrough rests rests'
  refine ⟨plans'', ?_⟩
  unfold Timeline.advance
  simp only [same]
  exact ran.pass (runThrough_moves _ _ _ le).1 (runThrough_moves _ _ _ le').1 rests

theorem Sheds.take (h : t.Sheds u plans) (now : u.now = t.now) (input : Input)
    (other : ¬ input.isKill) :
    ∃ plans', (t.take input).Sheds (u.take input) plans' ∧
      (u.take input).now = (t.take input).now := by
  cases input with
  | start target =>
    cases ok : target.base with
    | error error =>
      rw [start_of_error t ok, start_of_error u ok]
      exact ⟨plans, h, now⟩
    | ok base =>
      obtain ⟨o, started, eq⟩ := t.start_of_ok ok
      obtain ⟨o', started', eq'⟩ := u.start_of_ok ok
      obtain ⟨acts, run, generation⟩ := Engine.start_same h.run h.generation started started'
      obtain ⟨plans', later⟩ := h.follow now (h.full.carries.agenda.start started)
        (h.bare.carries.agenda.start started') acts run generation (Engine.start_prompt started)
        (eq ▸ ordered_next h.ordered (.start target))
        (eq' ▸ ordered_next h.ordered' (.start target))
      rw [eq, eq', (follow_frame _ _).2.1, (follow_frame _ _).2.1]
      exact ⟨plans', later, now⟩
  | stop =>
    obtain ⟨acts, run, generation⟩ := Engine.stop_same h.run h.generation
    obtain ⟨plans', later⟩ := h.follow now h.full.carries.agenda.stop h.bare.carries.agenda.stop
      acts run generation t.engine.stop_prompt (ordered_next h.ordered .stop)
      (ordered_next h.ordered' .stop)
    refine ⟨plans', later, ?_⟩
    simp only [Timeline.take, Timeline.stop, (follow_frame _ _).2.1, now]
  | kill pid => exact absurd rfl other
  | settle =>
    obtain ⟨plans', settled⟩ := h.settle now
    exact ⟨plans', settled, by rw [Timeline.take, Timeline.take, settle_now, settle_now, now]⟩
  | advance millis =>
    obtain ⟨plans', later⟩ := h.advance now millis
    refine ⟨plans', later, ?_⟩
    simp only [Timeline.take, Timeline.advance, settle_now, now]

theorem Sheds.takeAll (h : t.Sheds u plans) (now : u.now = t.now) (inputs : List Input) :
    ∃ plans', (t.takeAll inputs).Sheds (u.takeAll (inputs.filter (¬ ·.isKill))) plans' := by
  induction inputs generalizing t u plans with
  | nil => exact ⟨plans, h⟩
  | cons input inputs ih =>
    by_cases kill : input.isKill
    · rw [List.filter_cons_of_neg (by simpa using kill)]
      cases input with
      | kill pid =>
        obtain ⟨plans', later⟩ := h.kill pid
        refine ih later (now.trans ?_)
        rw [Timeline.take, Timeline.kill, (follow_frame _ _).2.1]
      | _ => cases kill
    · rw [List.filter_cons_of_pos (by simpa using kill)]
      obtain ⟨plans', later, now'⟩ := h.take now input kill
      exact ih later now'

theorem sheds_init (interval : Interval) (script : Script) :
    Sheds { source := Script.source, interval, host := script }
      { source := Script.source, interval, host := script } [] :=
  ⟨prepared_init interval script, prepared_init interval script, ⟨.nil, by simp⟩,
    ⟨.nil, by simp⟩, rfl, rfl, rfl, fun _ _ => rfl, rfl⟩

end Scripted

end Timeline

/-- Each kill goes to the host that was watched when it was called for and has one outcome, and no
kill changes what the loop asks for. -/
theorem each_kill_has_one_outcome :
    (∀ (σ : Type) (source : Source σ) (interval : Interval) (host : σ)
      (moves : List Timeline.Move),
      let l := ({ timeline := { source, interval, host } } : Ledger σ)
      let now := l.goThrough moves
      (∀ call pid, moves[call]? = some (.kill pid) →
        let current := (l.goThrough (moves.take call)).timeline.engine.run
        let aim : Option Aim := current.map fun r => ⟨r.base, r.generation⟩
        KillCourse source pid aim (now.course call) (now.underWay call) ∧
        (now.timeline.AtRest → .happened (.killBegins pid aim) ∈ now.course call)) ∧
      now.Accounted moves ∧ now.told = now.ended ∧
      ∀ move, now.timeline.ConcernsKill move → now.timeline.SameLoop (now.timeline.next move)) ∧
    ∀ (interval : Interval) (script : Script) (inputs : List Timeline.Input),
      let t : Timeline Script := { source := Script.source, interval, host := script }
      (t.takeAll (inputs.filter (¬ ·.isKill))).requests = (t.takeAll inputs).requests := by
  refine ⟨fun σ source interval host moves => ?_, fun interval script inputs => ?_⟩
  · intro l now
    have carries := Timeline.carries_init source interval host
    have sound := Ledger.sound_init source interval host
    obtain ⟨plans, later⟩ := carries.goThrough moves
    rw [← Ledger.goThrough_timeline l] at later
    refine ⟨fun call pid called => ?_, ?_, ?_, fun move => later.sameLoop⟩
    · have course := Ledger.kill_course source interval host called
      exact ⟨course, Ledger.begun_at_rest course later⟩
    · exact (Ledger.accounted_init source interval host).goThrough sound carries moves
    · exact Ledger.goThrough_told rfl carries moves
  · obtain ⟨plans, sheds⟩ := (Timeline.sheds_init interval script).takeAll rfl inputs
    exact sheds.requests

/-- One kill that nothing was watched for, and one that begins when its run has been replaced. -/
theorem kill_of_replaced_run :
    let target : Target := ⟨"10.0.0.2", 8080⟩
    let base : Address.Url :=
      { scheme := "http", authority := some { host := .ipv4 167772162, port := some 8080 },
        path := "/" }
    let source : Source Unit :=
      { ask := fun _ _ s => (.fixed 0 (.error .noTarget), s)
        kill := fun _ _ s => (.fixed 5 (.ok ()), s) }
    let moves : List Timeline.Move :=
      [.kill 5, .start target, .kill 7, .start ⟨"10.0.0.3", 8080⟩, .happen 1, .happen 0, .wait 5,
        .happen 1]
    let now := ({ timeline := { source, interval := ⟨1000, by decide⟩, host := () } } :
      Ledger Unit).goThrough moves
    KillCourse source 5 none (now.course 0) (now.underWay 0) ∧
      KillCourse source 7 (some ⟨base, 1⟩) (now.course 2) (now.underWay 2) ∧
      now.told = [.failed 5 "no target selected", .accepted 7] ∧
      now.timeline.engine.run.map (·.generation) = some 2 := by
  intro target base source moves now
  obtain ⟨kills, -⟩ := each_kill_has_one_outcome
  obtain ⟨course, -, told, -⟩ := kills Unit source ⟨1000, by decide⟩ () moves
  refine ⟨(course 0 5 rfl).1, ?_, by decide +kernel, by decide +kernel⟩
  have aim : (({ timeline := { source, interval := ⟨1000, by decide⟩, host := () } } :
      Ledger Unit).goThrough (moves.take 2)).timeline.engine.run.map
        (fun r => (⟨r.base, r.generation⟩ : Aim)) = some ⟨base, 1⟩ := by
    decide +kernel
  exact aim ▸ (course 2 7 rfl).1

end HostWatch
