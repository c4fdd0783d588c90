import HostWatch.Proofs.Watch.Plans
import Mathlib.Algebra.Order.BigOperators.Group.List
import Mathlib.Algebra.Order.Ring.Nat

namespace HostWatch

/-- How many events can come of an act up to a time, if the first of them comes at another. -/
def Act.cost (limit at_time : Nat) : Act → Nat
  | .startLoop _ => 9 + 5 * (limit - at_time)
  | .rest _ => 5 * (limit + 1 - at_time)
  | .startKill _ _ => 2
  | .fetch _ _ _ | .requestKill _ _ | .dropLoop _ true => 1
  | _ => 0

/-- How many events can still come up to a time, besides those of what is under way: of the round
that follows the first one at once, and of all the rounds after these. -/
def Progress.toCome (limit now : Nat) : Progress → Nat
  | .fetching first _ => (if first then 4 else 0) + 5 * (limit - now)
  | _ => 0

def Engine.toCome (limit now : Nat) (e : Engine) : Nat :=
  e.run.elim 0 fun r => r.progress.toCome limit now

def Plan.weight (limit now : Nat) (p : Plan) : Nat := p.act.cost limit (max now p.due)

theorem Act.cost_mono {limit now now' : Nat} (le : now ≤ now') (a : Act) :
    a.cost limit now' ≤ a.cost limit now := by
  cases a with
  | dropLoop g begun => cases begun <;> exact Nat.le_refl _
  | _ => simp only [cost]; omega

theorem Progress.toCome_mono (limit : Nat) {now now' : Nat} (le : now ≤ now') (p : Progress) :
    p.toCome limit now' ≤ p.toCome limit now := by
  cases p with
  | fetching first awaited => simp only [toCome]; omega
  | _ => exact Nat.le_refl _

theorem Engine.toCome_mono (limit : Nat) {now now' : Nat} (le : now ≤ now') (e : Engine) :
    e.toCome limit now' ≤ e.toCome limit now := by
  unfold toCome
  cases e.run with
  | none => exact Nat.le_refl _
  | some r => exact r.progress.toCome_mono limit le

theorem Engine.Turn.uses {e : Engine} {o : Engine.Outcome} {a : Act} (turn : e.Turn o a)
    {limit now later : Nat} (le : now ≤ later) (until_limit : later ≤ limit) :
    ((o.2.filter Act.isAwaited).map (Act.cost limit (later + 1))).sum + o.1.toCome limit later <
        a.cost limit later + e.toCome limit now ∧
      ∀ b ∈ o.2.filter Act.isAwaited, ¬ b.isPrompt := by
  have round (r : Run) (first : Bool) :
      ((r.at (.fetching first Topic.all)).awaits.map (Act.cost limit (later + 1))).sum = 4 ∧
        ∀ b ∈ (r.at (.fetching first Topic.all)).awaits, ¬ b.isPrompt := by
    simp [Run.awaits, Run.at, Topic.all, Act.cost, Act.isPrompt]
  cases turn with
  | @begins r run waiting gives =>
    obtain ⟨four, later⟩ := round r true
    rw [gives.news, four]
    refine ⟨?_, later⟩
    simp only [toCome, gives.run, run, waiting, Option.elim_some, Run.at, Progress.toCome, Act.cost,
      if_true]
    omega
  | @replied r first awaited topic run fetching mem gives =>
    rw [gives.news]
    simp only [toCome, gives.run, run, fetching, Option.elim_some, Run.at, Act.cost,
      Progress.onward, Progress.afterRound]
    split
    next last =>
      cases first with
      | true =>
        obtain ⟨four, later⟩ := round r false
        simp only [if_true]
        refine ⟨?_, later⟩
        simp only [Run.at] at four
        rw [four]
        simp only [Progress.toCome, if_true, Bool.false_eq_true, if_false]
        omega
      | false =>
        simp only [Bool.false_eq_true, if_false, Run.awaits, Progress.toCome, List.map_cons,
          List.map_nil, List.sum_cons, List.sum_nil, Act.cost, List.mem_singleton, forall_eq]
        refine ⟨by omega, by simp [Act.isPrompt]⟩
    next more =>
      have mono := (Progress.fetching first awaited).toCome_mono limit le
      simp only [Progress.toCome] at mono ⊢
      refine ⟨?_, by simp⟩
      simp only [List.map_nil, List.sum_nil]
      omega
  | @rested r run resting gives =>
    obtain ⟨four, later⟩ := round r false
    rw [gives.news, four]
    refine ⟨?_, later⟩
    simp only [toCome, gives.run, run, resting, Option.elim_some, Run.at, Progress.toCome, Act.cost,
      Bool.false_eq_true, if_false]
    omega
  | cleared gives =>
    have mono := e.toCome_mono limit le
    rw [gives.news]
    refine ⟨?_, by simp⟩
    unfold toCome at mono ⊢
    rw [gives.run]
    simp only [List.map_nil, List.sum_nil, Act.cost]
    omega
  | aside kill gives =>
    have mono := e.toCome_mono limit le
    rw [gives.news]
    unfold toCome at mono ⊢
    rw [gives.run]
    cases a with
    | startKill pid aim =>
      cases aim with
      | none =>
        refine ⟨?_, by simp [Act.killNext]⟩
        simp only [Act.killNext, List.map_nil, List.sum_nil, Act.cost]
        omega
      | some aim =>
        refine ⟨?_, by simp [Act.killNext, Act.isPrompt]⟩
        simp only [Act.killNext, List.map_cons, List.map_nil, List.sum_cons, List.sum_nil, Act.cost]
        omega
    | requestKill pid aim =>
      refine ⟨?_, by simp [Act.killNext]⟩
      simp only [Act.killNext, List.map_nil, List.sum_nil, Act.cost]
      omega
    | _ => cases kill

namespace Timeline

variable {σ : Type} {t : Timeline σ} {plans : List Plan}

def AtRest (t : Timeline σ) : Prop := ∀ j ∈ t.jobs, t.now < j.due

theorem firstDue_none {limit : Nat} {jobs : List (Job σ)} (h : firstDue limit jobs = none) :
    ∀ k ∈ jobs, limit < k.due := by
  induction jobs with
  | nil => simp
  | cons k ks ih =>
    unfold firstDue at h
    split at h
    · split at h <;> cases h
    next none =>
      split at h <;> cases h
      next later =>
        intro k' mem
        rcases List.mem_cons.mp mem with rfl | mem
        · exact Nat.not_le.mp later
        · exact ih none k' mem

/-- What comes first is due before all else, or at the same time and was planned before. -/
theorem firstDue_first {limit : Nat} {jobs others : List (Job σ)} {j : Job σ}
    (h : firstDue limit jobs = some (j, others)) : ∀ k ∈ jobs, ¬ isBefore k j := by
  induction jobs generalizing j others with
  | nil => cases h
  | cons k ks ih =>
    have self (j : Job σ) : ¬ isBefore j j := by simp [isBefore]
    unfold firstDue at h
    split at h
    next j' rest first =>
      have least := ih first
      split at h <;> cases h
      next before =>
        refine List.forall_mem_cons.mpr ⟨self k, fun k' mem => ?_⟩
        have later := least k' mem
        simp only [isBefore, Bool.or_eq_true, Bool.and_eq_true, decide_eq_true_eq] at before later ⊢
        omega
      next after => exact List.forall_mem_cons.mpr ⟨after, least⟩
    next none =>
      split at h <;> cases h
      next due =>
        refine List.forall_mem_cons.mpr ⟨self k, fun k' mem => ?_⟩
        have later := firstDue_none none k' mem
        simp only [isBefore, Bool.or_eq_true, Bool.and_eq_true, decide_eq_true_eq]
        omega

theorem firstDue_least {limit : Nat} {jobs others : List (Job σ)} {j : Job σ}
    (first : firstDue limit jobs = some (j, others)) : ∀ k ∈ jobs, j.due ≤ k.due := by
  intro k mem
  have before := firstDue_first first k mem
  simp only [isBefore, Bool.or_eq_true, decide_eq_true_eq] at before
  omega

def potential (limit : Nat) (t : Timeline σ) (plans : List Plan) : Nat :=
  (plans.map (·.weight limit t.now)).sum + t.engine.toCome limit t.now

theorem Makes.weight_le {acts : List Act} {p : Plan} (h : t.Makes acts p) (limit : Nat)
    (later : ¬ p.act.isPrompt) : p.weight limit t.now ≤ p.act.cost limit (t.now + 1) := by
  have pos := t.interval.pos
  unfold Plan.weight
  cases act : p.act with
  | rest g =>
    have due := h.rest act
    refine Act.cost_mono ?_ _
    omega
  | dropLoop g begun => simp [act, Act.isPrompt] at later
  | startLoop g => simp [act, Act.isPrompt] at later
  | _ => exact Nat.le_refl _

theorem Carries.perform_potential (h : t.Carries plans) {limit place : Nat} {j : Job σ}
    (at_place : t.jobs[place]? = some j) (now : t.now ≤ limit) (due : j.due ≤ limit) :
    ∃ plans', (t.perform j (t.jobs.eraseIdx place)).Carries plans' ∧
      potential limit (t.perform j (t.jobs.eraseIdx place)) plans' < potential limit t plans := by
  obtain ⟨p, news, there, serves, turn, carries, acts, fresh⟩ := h.perform at_place
  refine ⟨_, carries, ?_⟩
  obtain ⟨engine, moved, -⟩ := (t.taking j (t.jobs.eraseIdx place)).follow_frame
    (t.engine.step (j.event t.host).1)
  obtain ⟨uses, later⟩ := turn.uses (Nat.le_max_left t.now j.due) (Nat.max_le.mpr ⟨now, due⟩)
  have rest : ((plans.eraseIdx place).map (·.weight limit (max t.now j.due))).sum +
      p.act.cost limit (max t.now j.due) ≤ (plans.map (·.weight limit t.now)).sum := by
    obtain ⟨bound, rfl⟩ := List.getElem?_eq_some_iff.mp there
    have parts := (List.getElem_cons_eraseIdx_perm bound).map (·.weight limit t.now)
    have less : ((plans.eraseIdx place).map (·.weight limit (max t.now j.due))).sum ≤
        ((plans.eraseIdx place).map (·.weight limit t.now)).sum :=
      List.sum_le_sum fun q _ => Act.cost_mono (by omega) _
    rw [← parts.sum_nat, List.map_cons, List.sum_cons, Plan.weight, ← serves.due]
    omega
  have new : (news.map (·.weight limit (max t.now j.due))).sum ≤
      (((t.engine.step (j.event t.host).1).2.filter Act.isAwaited).map
        (Act.cost limit (max t.now j.due + 1))).sum := by
    rw [← acts, List.map_map]
    refine List.sum_le_sum fun q mem => (fresh q mem).weight_le limit ?_
    exact later _ (acts ▸ List.mem_map_of_mem mem)
  unfold potential
  rw [perform_eq, moved, engine, List.map_append, List.sum_append]
  simp only [taking]
  omega

theorem Carries.runThrough_rests (h : t.Carries plans) {limit fuel : Nat} (now : t.now ≤ limit)
    (enough : potential limit t plans ≤ fuel) :
    ∀ j ∈ (runThrough fuel limit t).jobs, limit < j.due := by
  induction fuel generalizing t plans with
  | zero =>
    cases first : firstDue limit t.jobs with
    | none => exact firstDue_none first
    | some due =>
      obtain ⟨j, others⟩ := due
      obtain ⟨place, at_place, rfl⟩ := firstDue_spec first
      obtain ⟨plans', -, less⟩ := h.perform_potential at_place now (firstDue_due first)
      omega
  | succ fuel ih =>
    unfold runThrough
    cases first : firstDue limit t.jobs with
    | none => exact firstDue_none first
    | some due =>
      obtain ⟨j, others⟩ := due
      obtain ⟨place, at_place, rfl⟩ := firstDue_spec first
      obtain ⟨plans', carries, less⟩ := h.perform_potential at_place now (firstDue_due first)
      refine ih carries ?_ (by omega)
      rw [perform_eq, (follow_frame _ _).2.1]
      exact Nat.max_le.mpr ⟨now, firstDue_due first⟩

theorem Carries.potential_le (h : t.Carries plans) {limit : Nat} (now : t.now ≤ limit) :
    potential limit t plans ≤ t.budget limit := by
  have weights : (plans.map (·.weight limit t.now)).sum ≤
      ((plans.map (·.act)).map (Act.cost limit t.now)).sum := by
    rw [List.map_map]
    exact List.sum_le_sum fun p _ => Act.cost_mono (Nat.le_max_left _ _) _
  have size : t.jobs.length = (plans.map (·.act)).length := by
    rw [List.length_map, h.serves.length_eq]
  have loop := h.agenda.loop
  unfold potential Timeline.budget Engine.toCome
  rw [size]
  generalize plans.map (·.act) = acts at weights loop
  have parts := List.filter_append_perm Act.isLoop acts
  have costs := (parts.map (Act.cost limit t.now)).sum_nat
  have count := parts.length_eq
  rw [List.map_append, List.sum_append, (loop.map (Act.cost limit t.now)).sum_nat] at costs
  rw [List.length_append, loop.length_eq] at count
  have others : ((acts.filter fun a => !a.isLoop).map (Act.cost limit t.now)).sum ≤
      2 * (acts.filter fun a => !a.isLoop).length := by
    have two : ((acts.filter fun a => !a.isLoop).map (Act.cost limit t.now)).sum ≤
        ((acts.filter fun a => !a.isLoop).map fun _ => 2).sum := by
      refine List.sum_le_sum fun a mem => ?_
      have own := (List.mem_filter.mp mem).2
      cases a with
      | dropLoop g begun => cases begun <;> simp [Act.cost]
      | _ => simp_all [Act.cost, Act.isLoop, Act.loop?]
    simpa [Nat.mul_comm] using two
  cases run : t.engine.run with
  | none =>
    rw [run] at costs count
    simp only [Option.elim_none, List.map_nil, List.sum_nil, List.length_nil] at costs count ⊢
    omega
  | some r =>
    rw [run] at costs count
    cases progress : r.progress with
    | waiting =>
      simp only [Option.elim_some, Run.awaits, progress, List.map_cons, List.map_nil,
        List.sum_cons, List.sum_nil, List.length_cons, List.length_nil, Act.cost,
        Progress.toCome] at costs count ⊢
      omega
    | fetching first awaited =>
      have each : ((awaited.map fun topic => Act.fetch r.generation topic r.base).map
          (Act.cost limit t.now)).sum = awaited.length := by
        rw [List.map_map]
        simp [Function.comp_def, Act.cost]
      simp only [Option.elim_some, Run.awaits, progress, each, List.length_map,
        Progress.toCome] at costs count ⊢
      split <;> omega
    | resting =>
      simp only [Option.elim_some, Run.awaits, progress, List.map_cons, List.map_nil,
        List.sum_cons, List.sum_nil, List.length_cons, List.length_nil, Act.cost,
        Progress.toCome] at costs count ⊢
      omega

theorem Carries.settle_rests (h : t.Carries plans) : t.settle.AtRest := by
  intro j mem
  have rests := h.runThrough_rests (Nat.le_refl t.now) (h.potential_le (Nat.le_refl _)) j mem
  have now := (runThrough_moves (t.budget t.now) t.now t (Nat.le_refl _)).1
  exact Nat.lt_of_le_of_lt now rests

theorem Carries.advance_rests (h : t.Carries plans) (millis : Nat) : (t.advance millis).AtRest := by
  obtain ⟨-, moves, -, eq⟩ := runThrough_moves (t.budget t.now) t.now t (Nat.le_refl _)
  obtain ⟨plans', settled⟩ := h.goThrough moves
  rw [← eq] at settled
  exact settled.runThrough_rests (Nat.le_add_right _ millis)
    (settled.potential_le (Nat.le_add_right _ _))

/-- What every event and the time that passes at rest preserve holds when what is due has happened.
-/
theorem runThrough_preserves {P : Timeline σ → Prop} {limit : Nat}
    (step : ∀ t j others, P t → firstDue limit t.jobs = some (j, others) →
      P (t.perform j others)) (fuel : Nat) (h : P t) : P (runThrough fuel limit t) := by
  induction fuel generalizing t with
  | zero => exact h
  | succ fuel ih =>
    unfold runThrough
    cases first : firstDue limit t.jobs with
    | none => exact h
    | some due =>
      obtain ⟨j, others⟩ := due
      exact ih (step t j others h first)

theorem advance_preserves {P : Timeline σ → Prop}
    (step : ∀ t limit j others, P t → firstDue limit t.jobs = some (j, others) →
      P (t.perform j others))
    (pass : ∀ t limit, P t → t.now ≤ limit → (∀ j ∈ t.jobs, limit < j.due) →
      P { t with now := limit })
    (carries : ∀ t, P t → ∃ plans, t.Carries plans) (h : P t) (millis : Nat) :
    P (t.advance millis) := by
  have settled : P t.settle := runThrough_preserves (fun t => step t _) _ h
  have ran : P (runThrough (t.settle.budget (t.settle.now + millis)) (t.settle.now + millis)
      t.settle) := runThrough_preserves (fun t => step t _) _ settled
  obtain ⟨plans, carried⟩ := carries _ settled
  have until_limit : t.settle.now ≤ t.settle.now + millis := Nat.le_add_right _ _
  exact pass _ _ ran (runThrough_moves _ _ _ until_limit).1
    (carried.runThrough_rests until_limit (carried.potential_le until_limit))

end Timeline

end HostWatch
