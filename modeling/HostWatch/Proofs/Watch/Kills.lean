import HostWatch.Proofs.Watch.Killing
import HostWatch.Proofs.Watch.Ledger
import HostWatch.Proofs.Watch.Scripted

namespace HostWatch

def Event.outcome? : Event → Option KillOutcome
  | .killBegins pid none => some (.failed pid Error.noTarget.message)
  | .killReplied pid _ reply => some (.of pid reply)
  | _ => none

def Act.outcome? : Act → Option KillOutcome
  | .report outcome => some outcome
  | _ => none

namespace Mark

def forKill : Mark → Bool
  | .happened event => event.ofKill
  | .did act => act.forKill

def ended? : Mark → Option KillOutcome
  | .happened event => event.outcome?
  | .did _ => none

def told? : Mark → Option KillOutcome
  | .happened _ => none
  | .did act => act.outcome?

end Mark

theorem Act.forKill_of_leads {a : Act} {event : Event} (leads : a.leadsTo event)
    (own : event.ofKill) : a.forKill := by
  cases a with
  | dropLoop g begun =>
    cases begun with
    | false => cases leads
    | true => cases event <;> first | (cases leads; done) | cases own
  | _ => cases event <;> first | rfl | cases leads | cases own

namespace Engine

theorem step_killReplied (e : Engine) (pid : UInt32) (g : Nat) (reply : Except Error Unit) :
    (e.step (.killReplied pid g reply)).2.filter (· ≠ .publish) = [.report (.of pid reply)] := by
  cases reply with
  | error error => rfl
  | ok done =>
    simp only [step, write]
    split <;> rfl

/-- What happens to a kill leaves the run as it is, and leads to nothing that is of its loop. -/
theorem step_ofKill (e : Engine) {event : Event} (own : event.ofKill) :
    (e.step event).1.run = e.run ∧ ∀ a ∈ (e.step event).2, a = .publish ∨ a.forKill := by
  cases event with
  | killBegins pid aim => cases aim <;> simp [step, Act.forKill]
  | killReplied pid g reply =>
    cases reply with
    | error error => simp [step, Act.forKill]
    | ok done =>
      refine ⟨e.write_run g _, fun a mem => ?_⟩
      rcases List.mem_append.mp mem with wrote | told
      · refine Or.inl ?_
        unfold write at wrote
        split at wrote
        · exact List.mem_singleton.mp wrote
        · cases wrote
      · exact Or.inr (List.mem_singleton.mp told ▸ rfl)
  | _ => cases own

/-- What is told of kills when something happens is what becomes of the one that it ends. -/
theorem step_outcomes {e : Engine} (h : ∀ r ∈ e.run, e.telemetry.generation = r.generation)
    (event : Event) : (e.step event).2.filterMap Act.outcome? = event.outcome?.toList := by
  by_cases own : event.ofKill
  · cases event with
    | killBegins pid aim => cases aim <;> rfl
    | killReplied pid g reply =>
      cases reply with
      | error error => rfl
      | ok done =>
        simp only [step, write]
        split <;> rfl
    | _ => cases own
  · have silent : event.outcome? = none := by
      cases event <;> first | rfl | exact absurd rfl own
    rw [silent, Option.toList_none, List.filterMap_eq_nil_iff]
    intro a mem
    have other := step_forKill h own a mem
    cases a <;> first | rfl | exact absurd rfl other

theorem start_forKill {e : Engine} {target : Target} {o : Outcome}
    (started : e.start target = .ok o) : ∀ a ∈ o.2, ¬ a.forKill := by
  intro a mem
  rcases mem_start started mem with ⟨g, begun, rfl⟩ | rfl | ⟨g, rfl⟩ <;> exact Bool.false_ne_true

theorem stop_forKill (e : Engine) : ∀ a ∈ e.stop.2, ¬ a.forKill := by
  intro a mem
  rcases mem_stop mem with ⟨g, begun, rfl⟩ | rfl <;> exact Bool.false_ne_true

end Engine

section Places

variable {α : Type} {p : α → Bool} {xs : List α} {i : Nat} {x : α}

theorem filter_eraseIdx_of_neg (there : xs[i]? = some x) (other : ¬ p x) :
    (xs.eraseIdx i).filter p = xs.filter p := by
  obtain ⟨bound, rfl⟩ := List.getElem?_eq_some_iff.mp there
  have parts : xs.take i ++ xs[i] :: xs.drop (i + 1) = xs := by
    rw [List.getElem_cons_drop, List.take_append_drop]
  rw [List.eraseIdx_eq_take_drop_succ]
  conv_rhs => rw [← parts]
  rw [List.filter_append, List.filter_append, List.filter_cons_of_neg other]

theorem filter_eraseIdx_of_only {y : α} (only : xs.filter p = [y]) (there : xs[i]? = some x)
    (own : p x) : x = y ∧ (xs.eraseIdx i).filter p = [] := by
  obtain ⟨bound, rfl⟩ := List.getElem?_eq_some_iff.mp there
  have parts := (List.getElem_cons_eraseIdx_perm bound).filter p
  rw [List.filter_cons_of_pos own, only, List.perm_singleton] at parts
  exact List.cons.inj parts

end Places

namespace Timeline

variable {σ : Type} {t : Timeline σ} {plans : List Plan}

/-- A move by which a kill is called for, or something of one happens. -/
def ConcernsKill (t : Timeline σ) (move : Move) : Prop :=
  (∃ pid, move = .kill pid) ∨ ∃ event ∈ t.happening move, event.ofKill

theorem Carries.doings_forKill (h : t.Carries plans) {move : Move}
    (other : ¬ t.ConcernsKill move) : ∀ a ∈ t.doings move, ¬ a.forKill := by
  have still (eq : (t.next move).journal = t.journal) : ∀ a ∈ t.doings move, ¬ a.forKill := by
    rw [doings_of_still eq]
    simp
  cases move with
  | start target =>
    cases ok : target.base with
    | error error => exact still (congrArg _ (start_of_error t ok))
    | ok base =>
      obtain ⟨o, started, eq⟩ := t.start_of_ok ok
      have followed : t.next (.start target) = t.follow o := eq
      rw [doings_of_follow followed rfl]
      exact Engine.start_forKill started
  | stop =>
    rw [doings_of_follow (o := t.engine.stop) rfl rfl]
    exact t.engine.stop_forKill
  | kill pid => exact absurd (.inl ⟨pid, rfl⟩) other
  | happen place =>
    cases there : t.jobs[place]? with
    | none => exact still (by simp only [Timeline.next, there])
    | some j =>
      rw [doings_of_follow (next_happen there) rfl]
      refine Engine.step_forKill h.agenda.published fun own => other (.inr ⟨_, ?_, own⟩)
      simp [happening, there]
  | wait millis => exact still rfl

theorem Carries.doings_outcomes (h : t.Carries plans) (move : Move) :
    (t.doings move).filterMap Act.outcome? =
      (t.happening move).toList.filterMap Event.outcome? := by
  have silent (other : ¬ t.ConcernsKill move) :
      (t.doings move).filterMap Act.outcome? = [] := by
    refine List.filterMap_eq_nil_iff.mpr fun a mem => ?_
    have other := h.doings_forKill other a mem
    cases a <;> first | rfl | exact absurd rfl other
  cases move with
  | kill pid =>
    rw [doings_of_follow (o := t.engine.kill pid) rfl rfl]
    rfl
  | happen place =>
    cases there : t.jobs[place]? with
    | none => rw [silent (by simp [ConcernsKill, happening, there]), happening, there]; rfl
    | some j =>
      rw [doings_of_follow (next_happen there) rfl, Engine.step_outcomes h.agenda.published,
        happening, there]
      cases outcome : (j.event t.host).1.outcome? <;> simp [outcome]
  | _ => exact silent (by simp [ConcernsKill, happening])

theorem Carries.marks_told (h : t.Carries plans) (move : Move) :
    (t.marks move).filterMap Mark.told? = (t.marks move).filterMap Mark.ended? := by
  have outcomes := h.doings_outcomes move
  have told (acts : List Act) :
      (((acts.filter (· ≠ .publish)).map Mark.did).filterMap Mark.told?) =
        acts.filterMap Act.outcome? := by
    rw [List.filterMap_map, List.filterMap_filter]
    refine List.filterMap_congr fun a _ => ?_
    cases a <;> rfl
  have untold (events : List Event) : (events.map Mark.happened).filterMap Mark.told? = [] := by
    simp [Function.comp_def, Mark.told?]
  have unended (acts : List Act) : (acts.map Mark.did).filterMap Mark.ended? = [] := by
    simp [Function.comp_def, Mark.ended?]
  unfold marks
  rw [List.filterMap_append, List.filterMap_append, untold, unended, told, outcomes,
    List.nil_append, List.append_nil, List.filterMap_map]
  rfl

/-- Two moments between which nothing has changed for the loop: its place, what it has asked for,
and what it waits for. -/
structure SameLoop (t t' : Timeline σ) : Prop where
  run : t'.engine.run = t.engine.run
  requests : t'.requests = t.requests
  jobs : t'.jobs.filter (·.loop.isSome) = t.jobs.filter (·.loop.isSome)

theorem SameLoop.trans {t' t'' : Timeline σ} (h : t.SameLoop t') (h' : t'.SameLoop t'') :
    t.SameLoop t'' :=
  ⟨h'.run.trans h.run, h'.requests.trans h.requests, h'.jobs.trans h.jobs⟩

theorem carryOut_sameLoop (t : Timeline σ) {a : Act} (own : a = .publish ∨ a.forKill) :
    t.SameLoop (t.carryOut a) := by
  have asked : ¬ a.isFetch := by
    rcases own with rfl | own
    · exact Bool.false_ne_true
    · cases a <;> first | exact Bool.false_ne_true | cases own
  refine ⟨congrArg _ (t.carryOut_engine a), ?_, ?_⟩
  · unfold requests
    have silent : [(⟨t.now, a⟩ : Entry)].filter (·.act.isFetch) = [] := by simpa using asked
    rw [carryOut_journal, List.reverse_cons, List.filter_append, silent, List.append_nil]
  · have planned {j : Job σ} (free : j.loop = none) :
        (t.jobs ++ [j]).filter (·.loop.isSome) = t.jobs.filter (·.loop.isSome) := by
      rw [List.filter_append, List.filter_singleton, free, Option.isSome_none]
      exact List.append_nil _
    rcases own with rfl | own
    · rfl
    · cases a with
      | report outcome => rfl
      | startKill pid aim => exact planned rfl
      | requestKill pid aim => exact planned rfl
      | _ => cases own

theorem follow_sameLoop (t : Timeline σ) {o : Engine.Outcome} (run : o.1.run = t.engine.run)
    (own : ∀ a ∈ o.2, a = .publish ∨ a.forKill) : t.SameLoop (t.follow o) := by
  have all (acts : List Act) (own : ∀ a ∈ acts, a = .publish ∨ a.forKill) (t : Timeline σ) :
      t.SameLoop (acts.foldl carryOut t) := by
    induction acts generalizing t with
    | nil => exact ⟨rfl, rfl, rfl⟩
    | cons a acts ih =>
      exact (t.carryOut_sameLoop (own a List.mem_cons_self)).trans
        (ih (fun b mem => own b (List.mem_cons_of_mem _ mem)) _)
  have begun : t.SameLoop { t with engine := o.1 } := ⟨run, rfl, rfl⟩
  exact begun.trans (all o.2 own _)

/-- Neither a call for a kill nor what happens to a kill changes anything for the loop. -/
theorem Carries.sameLoop (h : t.Carries plans) {move : Move} (own : t.ConcernsKill move) :
    t.SameLoop (t.next move) := by
  rcases own with ⟨pid, rfl⟩ | ⟨event, happens, own⟩
  · exact t.follow_sameLoop (o := t.engine.kill pid) rfl (by simp [Engine.kill, Act.forKill])
  · cases move with
    | happen place =>
      obtain ⟨j, there, rfl⟩ := Option.map_eq_some_iff.mp happens
      obtain ⟨p, -, serves, -⟩ := h.plan there
      have free : j.loop = none := by
        have aside := Act.forKill_of_leads (serves.leads t.host) own
        rw [serves.loop]
        cases act : p.act <;> simp_all [Act.forKill, Act.loop?]
      have taken : t.SameLoop (t.taking j (t.jobs.eraseIdx place)) :=
        ⟨rfl, rfl, filter_eraseIdx_of_neg there (by simp [free])⟩
      obtain ⟨run, acts⟩ := t.engine.step_ofKill own
      rw [next_happen there]
      exact taken.trans (follow_sameLoop _ run acts)
    | _ => cases happens

end Timeline

namespace Ledger

variable {σ : Type} {l : Ledger σ} {call : Nat}

/-- What goes back to a call that has been made is something that has been planned for it. -/
theorem cause_eq (past : call < l.moves) {move : Timeline.Move} (own : l.cause move = call) :
    ∃ place j, move = .happen place ∧ l.timeline.jobs[place]? = some j ∧
      l.origin? j = some call := by
  cases move with
  | happen place =>
    simp only [cause] at own
    cases found : l.timeline.jobs[place]?.bind l.origin? with
    | none =>
      rw [found] at own
      exact absurd own (Nat.ne_of_gt past)
    | some origin =>
      rw [found] at own
      obtain ⟨j, there, from_⟩ := Option.bind_eq_some_iff.mp found
      exact ⟨place, j, rfl, there, from_.trans (congrArg some own)⟩
  | _ => exact absurd own (Nat.ne_of_gt past)

theorem left_filter (move : Timeline.Move) (other : l.cause move ≠ call) :
    (l.timeline.left move).filter (l.origin? · = some call) = l.underWay call := by
  cases move with
  | happen place =>
    simp only [Timeline.left, underWay]
    cases there : l.timeline.jobs[place]? with
    | none => rw [List.eraseIdx_of_length_le (List.getElem?_eq_none_iff.mp there)]
    | some j =>
      refine filter_eraseIdx_of_neg there fun own => other ?_
      simp only [cause, there, Option.bind_some, of_decide_eq_true own, Option.getD_some]
  | _ => rfl

theorem underWay_other (h : l.Sound) {move : Timeline.Move} (other : l.cause move ≠ call)
    (free : ∀ j ∈ l.underWay call, j.loop = none) :
    (l.next move).underWay call = l.underWay call := by
  obtain ⟨kept, news, ext⟩ := l.timeline.next_extends move
  have among : (l.timeline.left move).filter kept ⊆ l.timeline.jobs :=
    fun j mem => mem_left (List.mem_filter.mp mem).1
  rw [underWay_next h ext.jobs among ext.numbered, if_neg other, List.append_nil, List.filter_filter]
  simp only [Bool.and_comm _ (kept _)]
  rw [← List.filter_filter, left_filter move other]
  exact List.filter_eq_self.mpr fun j mem => ext.free j (free j mem)

theorem underWay_own (h : l.Sound) {place : Nat} {j k : Job σ} (only : l.underWay call = [k])
    (there : l.timeline.jobs[place]? = some j) (own : l.origin? j = some call) :
    j = k ∧ ∀ news, (l.timeline.next (.happen place)).jobs =
        l.timeline.jobs.eraseIdx place ++ news →
      (∀ n ∈ news, l.timeline.planned ≤ n.order ∧
        n.order < (l.timeline.next (.happen place)).planned) →
      (l.next (.happen place)).underWay call = news := by
  have cause : l.cause (.happen place) = call := by
    simp only [Ledger.cause, there, Option.bind_some, own, Option.getD_some]
  obtain ⟨same, none⟩ := filter_eraseIdx_of_only only there (decide_eq_true own)
  refine ⟨same, fun news jobs orders => ?_⟩
  rw [underWay_next h jobs (List.eraseIdx_subset) orders, if_pos cause, none, List.nil_append]

variable {source : Source σ} {pid : UInt32} {aim : Option Aim}

theorem free_of_course {marks : List Mark} {jobs : List (Job σ)}
    (h : KillCourse source pid aim marks jobs) : ∀ j ∈ jobs, j.loop = none := by
  cases h with
  | called free event => exact fun j mem => List.mem_singleton.mp mem ▸ free
  | refused => simp
  | asked free host event => exact fun j mem => List.mem_singleton.mp mem ▸ free
  | replied host later answer => simp

theorem next_course (h : KillCourse source pid aim (l.course call) (l.underWay call))
    (sound : l.Sound) (same : l.timeline.source = source) (past : call < l.moves)
    (move : Timeline.Move) :
    KillCourse source pid aim ((l.next move).course call) ((l.next move).underWay call) := by
  by_cases own : l.cause move = call
  · obtain ⟨place, j, rfl, there, origin⟩ := cause_eq past own
    have moved := Timeline.next_happen there
    have done : l.timeline.doings (.happen place) =
        (l.timeline.engine.step (j.event l.timeline.host).1).2 :=
      Timeline.doings_of_follow moved rfl
    have happened : l.timeline.happening (.happen place) = some (j.event l.timeline.host).1 := by
      simp only [Timeline.happening, there, Option.map_some]
    rw [course_next, if_pos own, Timeline.marks, done, happened]
    have under : j ∈ l.underWay call :=
      List.mem_filter.mpr ⟨List.mem_of_getElem? there, decide_eq_true origin⟩
    generalize course : l.course call = marks at h ⊢
    generalize jobs : l.underWay call = pending at h under
    cases h with
    | called free event =>
      obtain ⟨rfl, later⟩ := underWay_own sound jobs there origin
      rw [event] at moved ⊢
      cases aim with
      | none =>
        have none := later [] (by rw [moved, List.append_nil]; rfl) (by simp)
        rw [none]
        exact .refused
      | some aim =>
        have asked := later _ (by rw [moved]; rfl) (by
          rw [moved]
          intro n mem
          cases List.mem_singleton.mp mem
          exact ⟨Nat.le_refl _, Nat.lt_succ_self _⟩)
        rw [asked]
        exact .asked rfl (l.timeline.taking j (l.timeline.jobs.eraseIdx place)).host
          (by rw [← same]; rfl)
    | refused => cases under
    | @asked aim _ free host event =>
      obtain ⟨rfl, later⟩ := underWay_own sound jobs there origin
      rw [event] at moved ⊢
      simp only [Timeline.answered] at moved ⊢
      generalize answer : ((source.kill pid aim.base host).1.answer l.timeline.host).1 = reply
        at moved ⊢
      have none := later [] (by
        rw [moved, List.append_nil]
        cases reply with
        | error error => rfl
        | ok done =>
          simp only [Engine.step, Engine.write]
          split <;> rfl) (by simp)
      rw [none, Engine.step_killReplied]
      exact .replied host _ answer
    | replied host later answer => cases under
  · rw [course_next, if_neg own, List.append_nil, underWay_other sound own (free_of_course h)]
    exact h

theorem called_course (sound : l.Sound) (source : Source σ) (pid : UInt32) :
    KillCourse source pid (l.timeline.engine.run.map fun r => ⟨r.base, r.generation⟩)
      ((l.next (.kill pid)).course l.moves) ((l.next (.kill pid)).underWay l.moves) := by
  have unheard : l.course l.moves = [] := by
    unfold course
    rw [List.filter_eq_nil_iff.mpr fun entry mem => ?_, List.map_nil]
    have past := sound.entries entry mem
    simp only [decide_eq_true_eq]
    omega
  have idle : l.timeline.jobs.filter (l.origin? · = some l.moves) = [] := by
    refine List.filter_eq_nil_iff.mpr fun j mem origin => ?_
    have past := sound.origins l.moves (List.mem_of_getElem? (of_decide_eq_true origin))
    omega
  have done : l.timeline.doings (.kill pid) = (l.timeline.engine.kill pid).2 :=
    Timeline.doings_of_follow rfl rfl
  have own : l.cause (.kill pid) = l.moves := rfl
  have jobs : (l.timeline.next (.kill pid)).jobs = l.timeline.jobs ++ [_] := rfl
  have under := underWay_next sound jobs (List.Subset.refl _) (fun n mem => by
    cases List.mem_singleton.mp mem
    exact ⟨Nat.le_refl _, Nat.lt_succ_self _⟩) l.moves
  rw [course_next, unheard, if_pos own, Timeline.marks, done, under, idle, if_pos own]
  exact .called rfl rfl

theorem goThrough_course (h : KillCourse source pid aim (l.course call) (l.underWay call))
    (sound : l.Sound) (same : l.timeline.source = source) (past : call < l.moves)
    (moves : List Timeline.Move) :
    KillCourse source pid aim ((l.goThrough moves).course call)
      ((l.goThrough moves).underWay call) := by
  induction moves generalizing l with
  | nil => exact h
  | cons move moves ih =>
    exact ih (next_course h sound same past move) (sound.next move)
      ((l.timeline.next_settings move).2.trans same) (Nat.lt_succ_of_lt past)

theorem begun_at_rest (h : KillCourse source pid aim (l.course call) (l.underWay call))
    {plans : List Plan} (carries : l.timeline.Carries plans) (rest : l.timeline.AtRest) :
    .happened (.killBegins pid aim) ∈ l.course call := by
  have among : l.underWay call ⊆ l.timeline.jobs := List.filter_subset_self _
  generalize l.course call = marks at h ⊢
  generalize l.underWay call = jobs at h among
  cases h with
  | @called _ j free event =>
    obtain ⟨place, there⟩ := List.mem_iff_getElem?.mp (among List.mem_cons_self)
    obtain ⟨p, planned, serves, -⟩ := carries.plan there
    have leads := serves.leads l.timeline.host
    rw [event] at leads
    have prompt : p.act.isPrompt := by
      cases act : p.act <;> simp_all [Timeline.always, Act.leadsTo, Act.isPrompt]
    have mem : p.act ∈ plans.map (·.act) := List.mem_map_of_mem (List.mem_of_getElem? planned)
    exact absurd prompt (carries.none_prompt rest mem)
  | _ => simp

def told (l : Ledger σ) : List KillOutcome := l.entries.filterMap (·.2.told?)

/-- What has become of the kills that have ended, the earliest first. -/
def ended (l : Ledger σ) : List KillOutcome := l.entries.filterMap (·.2.ended?)

theorem told_next {plans : List Plan} (same : l.told = l.ended)
    (carries : l.timeline.Carries plans) (move : Timeline.Move) :
    (l.next move).told = (l.next move).ended := by
  have marks := carries.marks_told move
  simp only [told, ended] at same
  simp only [told, ended, next, List.filterMap_append, List.filterMap_map, Function.comp_def, same,
    marks]

theorem goThrough_told {plans : List Plan} (same : l.told = l.ended)
    (carries : l.timeline.Carries plans) (moves : List Timeline.Move) :
    (l.goThrough moves).told = (l.goThrough moves).ended := by
  induction moves generalizing l plans with
  | nil => exact same
  | cons move moves ih =>
    obtain ⟨plans', later⟩ := carries.next move
    exact ih (told_next same carries move) later

/-- All that is of a kill goes back to a call for one. -/
structure Accounted (l : Ledger σ) (moves : List Timeline.Move) : Prop where
  jobs : ∀ j ∈ l.timeline.jobs, ∀ host, (j.event host).1.ofKill →
    ∃ call pid, l.origin? j = some call ∧ moves[call]? = some (.kill pid)
  entries : ∀ entry ∈ l.entries, entry.2.forKill → ∃ pid, moves[entry.1]? = some (.kill pid)

section Accounted

variable {moves : List Timeline.Move} {plans : List Plan}

theorem Accounted.cause (h : l.Accounted moves) (count : l.moves = moves.length)
    {move : Timeline.Move} (own : l.timeline.ConcernsKill move) :
    ∃ pid, (moves ++ [move])[l.cause move]? = some (.kill pid) := by
  rcases own with ⟨pid, rfl⟩ | ⟨event, happens, own⟩
  · exact ⟨pid, by simp [Ledger.cause, count]⟩
  · cases move with
    | happen place =>
      obtain ⟨j, there, rfl⟩ := Option.map_eq_some_iff.mp happens
      obtain ⟨call, pid, origin, called⟩ := h.jobs j (List.mem_of_getElem? there) _ own
      refine ⟨pid, ?_⟩
      simp only [Ledger.cause, there, Option.bind_some, origin, Option.getD_some]
      rw [List.getElem?_append_left (List.getElem?_eq_some_iff.mp called).1, called]
    | _ => cases happens

theorem Accounted.next (h : l.Accounted moves) (sound : l.Sound)
    (carries : l.timeline.Carries plans) (count : l.moves = moves.length) (move : Timeline.Move) :
    (l.next move).Accounted (moves ++ [move]) := by
  have earlier {call : Nat} {called : Timeline.Move} (there : moves[call]? = some called) :
      (moves ++ [move])[call]? = some called := by
    rw [List.getElem?_append_left (List.getElem?_eq_some_iff.mp there).1, there]
  have done {a : Act} (mem : a ∈ l.timeline.doings move) (own : a.forKill) :
      ∃ pid, (moves ++ [move])[l.cause move]? = some (.kill pid) := by
    refine h.cause count ?_
    by_contra other
    exact carries.doings_forKill other a mem own
  refine ⟨fun j mem host own => ?_, fun entry mem own => ?_⟩
  · obtain ⟨kept, news, ext⟩ := l.timeline.next_extends move
    change j ∈ (l.timeline.next move).jobs at mem
    rw [ext.jobs] at mem
    rcases List.mem_append.mp mem with old | new
    · have old := mem_left (List.mem_filter.mp old).1
      obtain ⟨call, pid, origin, called⟩ := h.jobs j old host own
      exact ⟨call, pid, (origin_old sound move old).trans origin, earlier called⟩
    · obtain ⟨a, act, leads⟩ := ext.served j new
      obtain ⟨pid, called⟩ := done act (Act.forKill_of_leads (leads host) own)
      obtain ⟨from_, bound⟩ := ext.numbered j new
      exact ⟨l.cause move, pid, origin_new sound move from_ bound, called⟩
  · rcases List.mem_append.mp mem with old | new
    · obtain ⟨pid, called⟩ := h.entries entry old own
      exact ⟨pid, earlier called⟩
    · obtain ⟨m, mark, rfl⟩ := List.mem_map.mp new
      rcases List.mem_append.mp mark with happened | did
      · obtain ⟨event, happens, rfl⟩ := List.mem_map.mp happened
        exact h.cause count (.inr ⟨event, Option.mem_toList.mp happens, own⟩)
      · obtain ⟨a, act, rfl⟩ := List.mem_map.mp did
        exact done (List.mem_filter.mp act).1 own

theorem Accounted.goThrough {start : Timeline σ}
    (h : ({ timeline := start } : Ledger σ).Accounted [])
    (sound : ({ timeline := start } : Ledger σ).Sound) (carries : start.Carries plans)
    (moves : List Timeline.Move) :
    (({ timeline := start } : Ledger σ).goThrough moves).Accounted moves := by
  induction moves using List.reverseRecOn with
  | nil => exact h
  | append_singleton moves move ih =>
    obtain ⟨plans', later⟩ := carries.goThrough moves
    rw [← goThrough_timeline { timeline := start }] at later
    have count := goThrough_moves { timeline := start } moves
    rw [Ledger.goThrough, List.foldl_append]
    exact ih.next (sound.goThrough moves) later (by simpa using count) move

end Accounted

section Begun

variable (source : Source σ) (interval : Interval) (host : σ)

theorem sound_init : ({ timeline := { source, interval, host } } : Ledger σ).Sound :=
  ⟨rfl, by simp, by simp, by simp⟩

theorem accounted_init : ({ timeline := { source, interval, host } } : Ledger σ).Accounted [] :=
  ⟨by simp, by simp⟩

/-- Whatever has been called and has happened, all that goes back to a call for a kill is its course.
-/
theorem kill_course {moves : List Timeline.Move} {call : Nat}
    (called : moves[call]? = some (.kill pid)) :
    let l := ({ timeline := { source, interval, host } } : Ledger σ)
    KillCourse source pid
      ((l.goThrough (moves.take call)).timeline.engine.run.map fun r => ⟨r.base, r.generation⟩)
      ((l.goThrough moves).course call) ((l.goThrough moves).underWay call) := by
  intro l
  obtain ⟨bound, at_call⟩ := List.getElem?_eq_some_iff.mp called
  have split : moves = moves.take call ++ .kill pid :: moves.drop (call + 1) := by
    rw [← at_call, List.getElem_cons_drop, List.take_append_drop]
  have sound := (sound_init source interval host).goThrough (moves.take call)
  have count : (l.goThrough (moves.take call)).moves = call := by
    rw [goThrough_moves, List.length_take]
    simp only [l]
    omega
  have settings := ((l.goThrough (moves.take call)).timeline.next_settings (.kill pid)).2
  have same : (l.goThrough (moves.take call)).timeline.source = source := by
    rw [goThrough_timeline, (Timeline.goThrough_settings _ _).2]
  have begins := called_course sound source pid
  have past : call < ((l.goThrough (moves.take call)).next (.kill pid)).moves := by
    simp only [next, count]
    omega
  rw [count] at begins
  have all := goThrough_course begins (sound.next (.kill pid)) (settings.trans same) past
    (moves.drop (call + 1))
  have whole : l.goThrough moves =
      ((l.goThrough (moves.take call)).next (.kill pid)).goThrough (moves.drop (call + 1)) := by
    conv_lhs => rw [split]
    simp only [goThrough, List.foldl_append, List.foldl_cons]
  rw [whole]
  exact all

end Begun

end Ledger

end HostWatch
