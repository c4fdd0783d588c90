import HostWatch.Proofs.Watch.Loops

namespace HostWatch

/-- What is entered: that something has happened, or has been done. -/
inductive Mark where
  | happened (event : Event)
  | did (act : Act)

def KillOutcome.of (pid : UInt32) : Except Error Unit → KillOutcome
  | .ok () => .accepted pid
  | .error error => .failed pid error.message

namespace Timeline

variable {σ : Type}

def happening (t : Timeline σ) : Move → Option Event
  | .happen place => t.jobs[place]?.map fun j => (j.event t.host).1
  | _ => none

def doings (t : Timeline σ) (move : Move) : List Act :=
  let journal := (t.next move).journal
  (journal.take (journal.length - t.journal.length)).reverse.map (·.act)

def marks (t : Timeline σ) (move : Move) : List Mark :=
  (t.happening move).toList.map .happened ++ ((t.doings move).filter (· ≠ .publish)).map .did

variable {t t' t'' : Timeline σ}

theorem doings_of_follow {move : Move} {u : Timeline σ} {o : Engine.Outcome}
    (eq : t.next move = u.follow o) (same : u.journal = t.journal) : t.doings move = o.2 := by
  unfold doings
  rw [eq, follow_journal, same]
  simp [Function.comp_def]

theorem doings_of_still {move : Move} (eq : (t.next move).journal = t.journal) :
    t.doings move = [] := by
  unfold doings
  rw [eq]
  simp

theorem next_happen {place : Nat} {j : Job σ} (there : t.jobs[place]? = some j) :
    t.next (.happen place) = (t.taking j (t.jobs.eraseIdx place)).follow
      (t.engine.step (j.event t.host).1) := by
  simp only [Timeline.next, there]
  rfl

def left (t : Timeline σ) : Move → List (Job σ)
  | .happen place => t.jobs.eraseIdx place
  | _ => t.jobs

/-- What is planned on a timeline after some acts: what belongs to no loop is kept, and what is new
comes of the acts and is numbered on in the order in which it is planned. -/
structure Extends (t : Timeline σ) (jobs : List (Job σ)) (acts : List Act) (t' : Timeline σ)
    (kept : Job σ → Bool) (news : List (Job σ)) : Prop where
  jobs : t'.jobs = jobs.filter kept ++ news
  free : ∀ j, j.loop = none → kept j
  numbered : ∀ j ∈ news, t.planned ≤ j.order ∧ j.order < t'.planned
  sorted : news.Pairwise (·.order < ·.order)
  served : ∀ j ∈ news, ∃ a ∈ acts, ∀ host, a.leadsTo (j.event host).1
  planned : t.planned ≤ t'.planned

theorem extends_refl (t : Timeline σ) : t.Extends t.jobs [] t (fun _ => true) [] := by
  refine ⟨?_, fun _ _ => rfl, by simp, .nil, by simp, Nat.le_refl _⟩
  rw [List.append_nil, List.filter_eq_self.mpr fun _ _ => rfl]

theorem Extends.trans {jobs : List (Job σ)} {acts acts' : List Act} {kept kept' : Job σ → Bool}
    {news news' : List (Job σ)} (h : t.Extends jobs acts t' kept news)
    (h' : t'.Extends t'.jobs acts' t'' kept' news') :
    t.Extends jobs (acts ++ acts') t'' (fun j => kept' j && kept j)
      (news.filter kept' ++ news') where
  jobs := by rw [h'.jobs, h.jobs, List.filter_append, List.filter_filter, List.append_assoc]
  free j none := by simp [h.free j none, h'.free j none]
  numbered j mem := by
    have le := h.planned
    have le' := h'.planned
    rcases List.mem_append.mp mem with old | new
    · have := h.numbered j (List.mem_filter.mp old).1
      omega
    · have := h'.numbered j new
      omega
  sorted := by
    refine List.pairwise_append.mpr ⟨h.sorted.filter _, h'.sorted, fun j mem j' mem' => ?_⟩
    have := h.numbered j (List.mem_filter.mp mem).1
    have := h'.numbered j' mem'
    omega
  served j mem := by
    rcases List.mem_append.mp mem with old | new
    · obtain ⟨a, act, leads⟩ := h.served j (List.mem_filter.mp old).1
      exact ⟨a, List.mem_append_left _ act, leads⟩
    · obtain ⟨a, act, leads⟩ := h'.served j new
      exact ⟨a, List.mem_append_right _ act, leads⟩
  planned := Nat.le_trans h.planned h'.planned

theorem carryOut_extends (t : Timeline σ) (a : Act) :
    ∃ kept news, t.Extends t.jobs [a] (t.carryOut a) kept news := by
  have planned {t' : Timeline σ} {kept : Job σ → Bool} {j : Job σ}
      (eq : t'.jobs = t.jobs.filter kept ++ [j]) (free : ∀ j, j.loop = none → kept j)
      (order : j.order = t.planned) (leads : ∀ host, a.leadsTo (j.event host).1)
      (next : t'.planned = t.planned + 1) : t.Extends t.jobs [a] t' kept [j] := by
    refine ⟨eq, free, fun k mem => ?_, List.pairwise_singleton _ _, fun k mem => ?_, by omega⟩
    · rw [List.mem_singleton.mp mem]
      omega
    · rw [List.mem_singleton.mp mem]
      exact ⟨a, List.mem_singleton_self a, leads⟩
  have all : t.jobs.filter (fun _ => true) = t.jobs := List.filter_eq_self.mpr fun _ _ => rfl
  have kept {t' : Timeline σ} (eq : t'.jobs = t.jobs) (same : t'.planned = t.planned) :
      t.Extends t.jobs [a] t' (fun _ => true) [] :=
    ⟨by rw [eq, all, List.append_nil], fun _ _ => rfl, by simp, .nil, by simp, same.ge⟩
  cases a with
  | publish => exact ⟨_, _, kept rfl rfl⟩
  | report outcome => exact ⟨_, _, kept rfl rfl⟩
  | dropLoop g begun =>
    cases begun with
    | false =>
      exact ⟨_, [], (List.append_nil _).symm, by simp +contextual, by simp, .nil, by simp,
        Nat.le_refl _⟩
    | true => exact ⟨_, _, planned rfl (by simp +contextual) rfl (fun _ => rfl) rfl⟩
  | _ =>
    refine ⟨_, _, planned (by rw [all]; rfl) (fun _ _ => rfl) rfl (fun host => ?_) rfl⟩
    simp [always, answered, Act.leadsTo]

theorem follow_extends (t : Timeline σ) (o : Engine.Outcome) :
    ∃ kept news, t.Extends t.jobs o.2 (t.follow o) kept news := by
  have all (acts : List Act) (t : Timeline σ) :
      ∃ kept news, t.Extends t.jobs acts (acts.foldl carryOut t) kept news := by
    induction acts generalizing t with
    | nil => exact ⟨_, _, t.extends_refl⟩
    | cons a acts ih =>
      obtain ⟨kept, news, first⟩ := t.carryOut_extends a
      obtain ⟨kept', news', rest⟩ := ih (t.carryOut a)
      exact ⟨_, _, first.trans rest⟩
  obtain ⟨kept, news, ext⟩ := all o.2 { t with engine := o.1 }
  exact ⟨kept, news, ext.jobs, ext.free, ext.numbered, ext.sorted, ext.served, ext.planned⟩

theorem next_extends (t : Timeline σ) (move : Move) :
    ∃ kept news, t.Extends (t.left move) (t.doings move) (t.next move) kept news := by
  have still (eq : t.next move = t) (all : t.left move = t.jobs) :
      ∃ kept news, t.Extends (t.left move) (t.doings move) (t.next move) kept news := by
    rw [doings_of_still (congrArg _ eq), eq, all]
    exact ⟨_, _, t.extends_refl⟩
  have followed {o : Engine.Outcome} (eq : t.next move = t.follow o)
      (all : t.left move = t.jobs) :
      ∃ kept news, t.Extends (t.left move) (t.doings move) (t.next move) kept news := by
    rw [doings_of_follow eq rfl, eq, all]
    exact t.follow_extends o
  cases move with
  | start target =>
    cases ok : target.base with
    | error error => exact still (start_of_error t ok) rfl
    | ok base =>
      obtain ⟨o, -, eq⟩ := t.start_of_ok ok
      exact followed eq rfl
  | stop => exact followed rfl rfl
  | kill pid => exact followed rfl rfl
  | happen place =>
    cases there : t.jobs[place]? with
    | some j =>
      rw [doings_of_follow (next_happen there) rfl, next_happen there]
      obtain ⟨kept, news, ext⟩ := (t.taking j (t.jobs.eraseIdx place)).follow_extends
        (t.engine.step (j.event t.host).1)
      exact ⟨kept, news, ext.jobs, ext.free, ext.numbered, ext.sorted, ext.served, ext.planned⟩
    | none =>
      refine still (by simp only [Timeline.next, there]) ?_
      exact List.eraseIdx_of_length_le (List.getElem?_eq_none_iff.mp there)
  | wait millis =>
    have still : (t.next (.wait millis)).journal = t.journal := rfl
    rw [doings_of_still still]
    obtain ⟨jobs, free, numbered, sorted, served, planned⟩ := t.extends_refl
    exact ⟨_, _, jobs, free, numbered, sorted, served, planned⟩

end Timeline

/-- A timeline with all that has been entered about it, each entry with the move that it goes back
to. -/
structure Ledger (σ : Type) where
  timeline : Timeline σ
  moves : Nat := 0
  origins : List Nat := []
  entries : List (Nat × Mark) := []

namespace Ledger

variable {σ : Type}

def origin? (l : Ledger σ) (j : Job σ) : Option Nat := l.origins[j.order]?

/-- The move that the next one goes back to: what happens goes back to what it was planned for, and
every other move to itself. -/
def cause (l : Ledger σ) : Timeline.Move → Nat
  | .happen place => (l.timeline.jobs[place]?.bind l.origin?).getD l.moves
  | _ => l.moves

def next (l : Ledger σ) (move : Timeline.Move) : Ledger σ :=
  let t := l.timeline.next move
  { timeline := t
    moves := l.moves + 1
    origins := l.origins ++ List.replicate (t.planned - l.timeline.planned) (l.cause move)
    entries := l.entries ++ (l.timeline.marks move).map fun m => (l.cause move, m) }

def goThrough (l : Ledger σ) (moves : List Timeline.Move) : Ledger σ := moves.foldl next l

def course (l : Ledger σ) (call : Nat) : List Mark :=
  (l.entries.filter (·.1 = call)).map (·.2)

def underWay (l : Ledger σ) (call : Nat) : List (Job σ) :=
  l.timeline.jobs.filter (l.origin? · = some call)

theorem goThrough_timeline (l : Ledger σ) (moves : List Timeline.Move) :
    (l.goThrough moves).timeline = l.timeline.goThrough moves := by
  induction moves generalizing l with
  | nil => rfl
  | cons move moves ih => exact ih (l.next move)

theorem goThrough_moves (l : Ledger σ) (moves : List Timeline.Move) :
    (l.goThrough moves).moves = l.moves + moves.length := by
  induction moves generalizing l with
  | nil => rfl
  | cons move moves ih =>
    refine (ih (l.next move)).trans ?_
    simp only [next, List.length_cons]
    omega

/-- What holds of a ledger at all times: all that is entered goes back to a move that has been. -/
structure Sound (l : Ledger σ) : Prop where
  planned : l.origins.length = l.timeline.planned
  orders : ∀ j ∈ l.timeline.jobs, j.order < l.timeline.planned
  origins : ∀ call ∈ l.origins, call < l.moves
  entries : ∀ entry ∈ l.entries, entry.1 < l.moves

section Sound

variable {l : Ledger σ}

theorem cause_lt (h : l.Sound) (move : Timeline.Move) : l.cause move < l.moves + 1 := by
  cases move with
  | happen place =>
    simp only [cause]
    cases found : l.timeline.jobs[place]?.bind l.origin? with
    | none => exact Nat.lt_succ_self _
    | some call =>
      obtain ⟨j, -, origin⟩ := Option.bind_eq_some_iff.mp found
      exact Nat.lt_succ_of_lt (h.origins call (List.mem_of_getElem? origin))
  | _ => exact Nat.lt_succ_self _

theorem mem_left {t : Timeline σ} {move : Timeline.Move} {j : Job σ} (mem : j ∈ t.left move) :
    j ∈ t.jobs := by
  cases move with
  | happen place => exact List.mem_of_mem_eraseIdx mem
  | _ => exact mem

theorem origin_old (h : l.Sound) (move : Timeline.Move) {j : Job σ} (mem : j ∈ l.timeline.jobs) :
    (l.next move).origin? j = l.origin? j := by
  have bound := h.orders j mem
  rw [← h.planned] at bound
  exact List.getElem?_append_left bound

theorem origin_new (h : l.Sound) (move : Timeline.Move) {j : Job σ}
    (from_ : l.timeline.planned ≤ j.order) (bound : j.order < (l.timeline.next move).planned) :
    (l.next move).origin? j = some (l.cause move) := by
  rw [← h.planned] at from_
  simp only [origin?, next]
  rw [List.getElem?_append_right from_, List.getElem?_replicate, if_pos]
  have := h.planned
  omega

theorem Sound.next (h : l.Sound) (move : Timeline.Move) : (l.next move).Sound := by
  obtain ⟨kept, news, ext⟩ := l.timeline.next_extends move
  have lt := cause_lt h move
  refine ⟨?_, fun j mem => ?_, fun call mem => ?_, fun entry mem => ?_⟩
  · have := h.planned
    have := ext.planned
    simp only [Ledger.next, List.length_append, List.length_replicate]
    omega
  · change j ∈ (l.timeline.next move).jobs at mem
    rw [ext.jobs] at mem
    rcases List.mem_append.mp mem with old | new
    · exact Nat.lt_of_lt_of_le (h.orders j (mem_left (List.mem_filter.mp old).1)) ext.planned
    · exact (ext.numbered j new).2
  · rcases List.mem_append.mp mem with old | new
    · exact Nat.lt_succ_of_lt (h.origins call old)
    · rw [List.eq_of_mem_replicate new]
      exact lt
  · rcases List.mem_append.mp mem with old | new
    · exact Nat.lt_succ_of_lt (h.entries entry old)
    · obtain ⟨m, -, rfl⟩ := List.mem_map.mp new
      exact lt

theorem Sound.goThrough (h : l.Sound) (moves : List Timeline.Move) : (l.goThrough moves).Sound := by
  induction moves generalizing l with
  | nil => exact h
  | cons move moves ih => exact ih (h.next move)

/-- What is under way for a call after a move: what is kept of it, and what is newly planned if the
move goes back to the call. -/
theorem underWay_next (h : l.Sound) {move : Timeline.Move} {old news : List (Job σ)}
    (jobs : (l.timeline.next move).jobs = old ++ news) (among : old ⊆ l.timeline.jobs)
    (orders : ∀ j ∈ news, l.timeline.planned ≤ j.order ∧
      j.order < (l.timeline.next move).planned) (call : Nat) :
    (l.next move).underWay call =
      old.filter (l.origin? · = some call) ++ if l.cause move = call then news else [] := by
  have later : (l.next move).timeline.jobs = old ++ news := jobs
  unfold underWay
  rw [later, List.filter_append]
  refine congrArg₂ (· ++ ·) (List.filter_congr fun j mem => ?_) ?_
  · rw [origin_old h move (among mem)]
  · split
    next own =>
      refine List.filter_eq_self.mpr fun j mem => ?_
      rw [origin_new h move (orders j mem).1 (orders j mem).2, own]
      exact decide_eq_true rfl
    next other =>
      refine List.filter_eq_nil_iff.mpr fun j mem => ?_
      rw [origin_new h move (orders j mem).1 (orders j mem).2]
      simpa using other

theorem course_next (l : Ledger σ) (move : Timeline.Move) (call : Nat) :
    (l.next move).course call =
      l.course call ++ if l.cause move = call then l.timeline.marks move else [] := by
  unfold course
  simp only [next, List.filter_append, List.map_append]
  congr 1
  split
  next own =>
    rw [List.filter_eq_self.mpr, List.map_map]
    · exact List.map_id _
    · intro entry mem
      obtain ⟨m, -, rfl⟩ := List.mem_map.mp mem
      simpa using own
  next other =>
    rw [List.filter_eq_nil_iff.mpr, List.map_nil]
    intro entry mem
    obtain ⟨m, -, rfl⟩ := List.mem_map.mp mem
    simpa using other

end Sound

end Ledger

/-- How a kill goes that was aimed at a run, or at none: what has happened and been done for it, and
what of it is still under way. -/
inductive KillCourse {σ : Type} (source : Source σ) (pid : UInt32) :
    Option Aim → List Mark → List (Job σ) → Prop where
  | called {aim : Option Aim} {j : Job σ} (free : j.loop = none)
      (event : j.event = Timeline.always (.killBegins pid aim)) :
      KillCourse source pid aim [.did (.startKill pid aim)] [j]
  | refused :
      KillCourse source pid none
        [.did (.startKill pid none), .happened (.killBegins pid none),
          .did (.report (.failed pid "no target selected"))] []
  | asked {aim : Aim} {j : Job σ} (free : j.loop = none) (host : σ)
      (event : j.event = Timeline.answered (source.kill pid aim.base host).1
        (.killReplied pid aim.generation)) :
      KillCourse source pid (some aim)
        [.did (.startKill pid (some aim)), .happened (.killBegins pid (some aim)),
          .did (.requestKill pid aim)] [j]
  | replied {aim : Aim} {reply : Except Error Unit} (host later : σ)
      (answer : ((source.kill pid aim.base host).1.answer later).1 = reply) :
      KillCourse source pid (some aim)
        [.did (.startKill pid (some aim)), .happened (.killBegins pid (some aim)),
          .did (.requestKill pid aim), .happened (.killReplied pid aim.generation reply),
          .did (.report (.of pid reply))] []

end HostWatch
