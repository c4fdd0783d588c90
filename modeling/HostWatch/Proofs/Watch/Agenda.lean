import HostWatch.Proofs.Watch.System
import Mathlib.Data.List.Perm.Basic

namespace HostWatch

def Run.awaits (r : Run) : List Act :=
  match r.progress with
  | .waiting => [.startLoop r.generation]
  | .fetching _ awaited => awaited.map fun topic => .fetch r.generation topic r.base
  | .resting => [.rest r.generation]

def Run.at (r : Run) (progress : Progress) : Run := { r with progress }

/-- Where the loop goes on when all replies of a round have arrived. -/
def Progress.afterRound (first : Bool) : Progress :=
  if first then .fetching false Topic.all else .resting

/-- Where the loop is when a reply has arrived, with the topics that are still awaited. -/
def Progress.onward (first : Bool) (left : List Topic) : Progress :=
  if left = [] then afterRound first else .fetching first left

theorem Topic.mem_all (topic : Topic) : topic ∈ Topic.all := by
  cases topic <;> decide

theorem Topic.nodup_all : Topic.all.Nodup := by decide

namespace Act

def isLoop (a : Act) : Bool := a.loop?.isSome

def isCleaning : Act → Bool
  | .dropLoop _ true => true
  | _ => false

def isKill : Act → Bool
  | .startKill _ _ | .requestKill _ _ => true
  | _ => false

def killNext : Act → List Act
  | .startKill pid (some aim) => [.requestKill pid aim]
  | _ => []

theorem mem_killNext {a b : Act} (mem : b ∈ a.killNext) : ∃ pid aim, b = .requestKill pid aim := by
  cases a with
  | startKill pid aim =>
    cases aim with
    | none => cases mem
    | some aim => exact ⟨pid, aim, List.mem_singleton.mp mem⟩
  | _ => cases mem

def drops : Act → Act → Bool
  | .dropLoop g _, a => a.loop? = some g
  | _, _ => false

def enter (pending : List Act) (a : Act) : List Act :=
  pending.filter (¬ a.drops ·) ++ [a].filter isAwaited

def dropsLoop : Act → Bool
  | .dropLoop _ _ => true
  | _ => false

theorem enter_of_keeps {a : Act} (keeps : ¬ a.dropsLoop) (pending : List Act) :
    enter pending a = pending ++ [a].filter isAwaited := by
  have none (b : Act) : a.drops b = false := by
    cases a <;> first | rfl | exact absurd rfl keeps
  unfold enter
  rw [List.filter_eq_self.mpr fun b _ => by simp [none]]

/-- Whether some acts leave another one that is under way as it is. -/
def spared (acts : List Act) (a : Act) : Bool := acts.all (¬ ·.drops a)

theorem enter_append (pending more : List Act) (a : Act) :
    enter (pending ++ more) a = pending.filter (¬ a.drops ·) ++ enter more a := by
  unfold enter
  rw [List.filter_append, List.append_assoc]

/-- What was under way stays so unless it is dropped, and what is new comes after it. -/
theorem foldl_enter (acts pending : List Act) :
    acts.foldl enter pending = pending.filter (spared acts) ++ acts.foldl enter [] := by
  have split (acts : List Act) : ∀ pending more : List Act,
      acts.foldl enter (pending ++ more) =
        pending.filter (spared acts) ++ acts.foldl enter more := by
    induction acts with
    | nil =>
      intro pending more
      have all : pending.filter (spared []) = pending := List.filter_eq_self.mpr fun _ _ => rfl
      rw [all]
      rfl
    | cons a acts ih =>
      intro pending more
      rw [List.foldl_cons, enter_append, ih, List.filter_filter]
      congr 1
      refine List.filter_congr fun b _ => ?_
      simp [spared, Bool.and_comm]
  have eq := split acts pending []
  rwa [List.append_nil] at eq

theorem spared_of_keeps {acts : List Act} (keep : ∀ a ∈ acts, ¬ a.dropsLoop) (b : Act) :
    spared acts b := by
  refine List.all_eq_true.mpr fun a mem => ?_
  have keeps := keep a mem
  cases a <;> first | rfl | exact absurd rfl keeps

theorem foldl_enter_of_keeps {acts : List Act} (keep : ∀ a ∈ acts, ¬ a.dropsLoop) :
    acts.foldl enter [] = acts.filter isAwaited := by
  induction acts with
  | nil => rfl
  | cons a acts ih =>
    have rest : ∀ b ∈ acts, ¬ b.dropsLoop := fun b mem => keep b (List.mem_cons_of_mem _ mem)
    rw [List.foldl_cons, enter_of_keeps (keep a List.mem_cons_self), foldl_enter, ih rest,
      List.filter_eq_self.mpr fun b _ => spared_of_keeps rest b, List.nil_append,
      ← List.filter_append]
    rfl

theorem mem_of_entered {acts : List Act} {a : Act} (entered : a ∈ acts.foldl enter []) :
    a ∈ acts ∧ a.isAwaited := by
  have all (acts : List Act) : ∀ pending : List Act, a ∈ acts.foldl enter pending →
      a ∈ pending ∨ a ∈ acts ∧ a.isAwaited := by
    induction acts with
    | nil => exact fun pending mem => Or.inl mem
    | cons b acts ih =>
      intro pending mem
      rcases ih _ mem with mem | ⟨mem, awaited⟩
      · rcases List.mem_append.mp mem with old | new
        · exact Or.inl (List.mem_filter.mp old).1
        · obtain ⟨mem, awaited⟩ := List.mem_filter.mp new
          exact Or.inr ⟨List.mem_singleton.mp mem ▸ List.mem_cons_self, awaited⟩
      · exact Or.inr ⟨List.mem_cons_of_mem _ mem, awaited⟩
  exact (all acts [] entered).resolve_left List.not_mem_nil

end Act

theorem Run.mem_awaits {r : Run} {a : Act} :
    a ∈ r.awaits ↔ (r.progress = .waiting ∧ a = .startLoop r.generation) ∨
      (∃ first awaited topic, r.progress = .fetching first awaited ∧ topic ∈ awaited ∧
        a = .fetch r.generation topic r.base) ∨
      (r.progress = .resting ∧ a = .rest r.generation) := by
  unfold Run.awaits
  cases progress : r.progress with
  | waiting => simp
  | fetching first awaited => simp [eq_comm]
  | resting => simp

theorem Run.awaits_isLoop (r : Run) : r.awaits.filter Act.isLoop = r.awaits := by
  refine List.filter_eq_self.mpr fun a mem => ?_
  rcases Run.mem_awaits.mp mem with ⟨_, rfl⟩ | ⟨_, _, _, _, _, rfl⟩ | ⟨_, rfl⟩ <;> rfl

theorem Run.awaits_isCleaning (r : Run) : r.awaits.countP Act.isCleaning = 0 := by
  refine List.countP_eq_zero.mpr fun a mem => ?_
  rcases Run.mem_awaits.mp mem with ⟨_, rfl⟩ | ⟨_, _, _, _, _, rfl⟩ | ⟨_, rfl⟩ <;>
    simp [Act.isCleaning]

namespace Engine

/-- What an outcome comes to: the run, the number of live loops, and what is newly under way. -/
structure Gives (e : Engine) (o : Outcome) (run : Option Run) (live : Nat) (news : List Act) :
    Prop where
  generation : o.1.telemetry.generation = e.telemetry.generation
  run : o.1.run = run
  live : o.1.liveLoops = live
  news : o.2.filter Act.isAwaited = news
  keeps : ∀ a ∈ o.2, ¬ a.dropsLoop

/-- What an engine does when an act of its own has come to its end. -/
inductive Turn (e : Engine) (o : Outcome) : Act → Prop where
  | begins {r : Run} (run : e.run = some r) (waiting : r.progress = .waiting)
      (gives : Gives e o (some (r.at (.fetching true Topic.all))) (e.liveLoops + 1)
        (r.at (.fetching true Topic.all)).awaits) :
      Turn e o (.startLoop r.generation)
  | replied {r : Run} {first : Bool} {awaited : List Topic} {topic : Topic}
      (run : e.run = some r) (fetching : r.progress = .fetching first awaited)
      (mem : topic ∈ awaited)
      (gives : Gives e o (some (r.at (.onward first (awaited.filter (· ≠ topic))))) e.liveLoops
        (if awaited.filter (· ≠ topic) = [] then (r.at (.afterRound first)).awaits else [])) :
      Turn e o (.fetch r.generation topic r.base)
  | rested {r : Run} (run : e.run = some r) (resting : r.progress = .resting)
      (gives : Gives e o (some (r.at (.fetching false Topic.all))) e.liveLoops
        (r.at (.fetching false Topic.all)).awaits) :
      Turn e o (.rest r.generation)
  | cleared {g : Nat} (gives : Gives e o e.run (e.liveLoops - 1) []) :
      Turn e o (.dropLoop g true)
  | aside {a : Act} (kill : a.isKill) (gives : Gives e o e.run e.liveLoops a.killNext) :
      Turn e o a

def begun : Option Run → Nat
  | none => 0
  | some r => if r.progress = .waiting then 0 else 1

theorem Turn.keeps {e : Engine} {o : Outcome} {a : Act} (turn : Turn e o a) :
    ∀ b ∈ o.2, ¬ b.dropsLoop := by
  cases turn with
  | begins run waiting gives => exact gives.keeps
  | replied run fetching mem gives => exact gives.keeps
  | rested run resting gives => exact gives.keeps
  | cleared gives => exact gives.keeps
  | aside kill gives => exact gives.keeps

/-- What is under way is what the engine waits for. -/
structure Agenda (e : Engine) (pending : List Act) : Prop where
  published : ∀ r ∈ e.run, e.telemetry.generation = r.generation
  awaited : ∀ r ∈ e.run, ∀ first awaited, r.progress = .fetching first awaited →
    awaited ≠ [] ∧ awaited.Sublist Topic.all
  loop : (pending.filter Act.isLoop).Perm (e.run.elim [] Run.awaits)
  live : e.liveLoops = pending.countP Act.isCleaning + begun e.run

theorem agenda_init : Agenda {} [] := ⟨by simp, by simp, .refl _, rfl⟩

theorem mem_start {e : Engine} {target : Target} {o : Outcome} (started : e.start target = .ok o)
    {a : Act} (mem : a ∈ o.2) :
    (∃ g begun, a = .dropLoop g begun) ∨ a = .publish ∨ ∃ g, a = .startLoop g := by
  cases ok : target.base with
  | error error =>
    rw [start_error e ok] at started
    cases started
  | ok base =>
    rw [start_ok e ok] at started
    cases started
    rcases List.mem_append.mp mem with given | mem
    · obtain ⟨r, -, rfl⟩ := mem_giveUp.mp given
      exact .inl ⟨_, _, rfl⟩
    · simp only [List.mem_cons, List.not_mem_nil, or_false] at mem
      exact .inr (mem.imp_right fun eq => ⟨_, eq⟩)

theorem mem_stop {e : Engine} {a : Act} (mem : a ∈ e.stop.2) :
    (∃ g begun, a = .dropLoop g begun) ∨ a = .publish := by
  cases run : e.run with
  | none =>
    rw [stop_none run] at mem
    cases mem
  | some r =>
    rw [stop_some run] at mem
    simp only [List.mem_cons, List.not_mem_nil, or_false] at mem
    exact mem.symm.imp_left fun eq => ⟨_, _, eq⟩

section Turn

variable {e : Engine} {r : Run}

theorem beginRound_gives (published : e.telemetry.generation = r.generation) (first : Bool) :
    Gives e (beginRound r first e) (some (r.at (.fetching first Topic.all))) e.liveLoops
      (r.at (.fetching first Topic.all)).awaits := by
  rw [beginRound_eq published]
  refine ⟨?_, rfl, rfl, ?_, ?_⟩
  · cases first <;> rfl
  · cases first <;> rfl
  · cases first <;> simp [Topic.all, Act.dropsLoop]

theorem Gives.of_counted {o : Outcome} {run : Option Run} {n live : Nat} {news : List Act}
    (h : Gives { e with liveLoops := n } o run live news) : Gives e o run live news :=
  ⟨h.generation, h.run, h.live, h.news, h.keeps⟩

theorem arrived_gives {topic : Topic} {first : Bool} {awaited : List Topic} (run : e.run = some r)
    (published : e.telemetry.generation = r.generation)
    (fetching : r.progress = .fetching first awaited) :
    Gives e (arrived r.generation topic e)
      (some (r.at (.onward first (awaited.filter (· ≠ topic))))) e.liveLoops
      (if awaited.filter (· ≠ topic) = [] then (r.at (.afterRound first)).awaits else []) := by
  have own : e.runOf r.generation = some r := by simp [runOf, run]
  unfold arrived
  simp only [own, fetching, List.isEmpty_iff, Progress.onward]
  split
  next last =>
    cases first with
    | true => exact beginRound_gives published false
    | false => exact ⟨rfl, rfl, rfl, rfl, by simp [endRound, Act.dropsLoop]⟩
  next => exact ⟨rfl, rfl, rfl, rfl, by simp⟩

theorem Gives.after_write {g : Nat} {change : Telemetry → Telemetry} {f : Engine → Outcome}
    {run : Option Run} {live : Nat} {news : List Act}
    (same : ∀ t, (change t).generation = t.generation)
    (h : ∀ e' : Engine, e'.telemetry.generation = e.telemetry.generation → e'.run = e.run →
      e'.liveLoops = e.liveLoops → Gives e' (f e') run live news) :
    Gives e (Outcome.and (write g change e) f) run live news := by
  unfold write
  split
  · have after := h { e with telemetry := change e.telemetry } (same _) rfl rfl
    refine ⟨after.generation.trans (same _), after.run, after.live, after.news, ?_⟩
    intro a mem
    rcases List.mem_append.mp mem with wrote | mem
    · cases List.mem_singleton.mp wrote
      simp [Act.dropsLoop]
    · exact after.keeps a mem
  · exact h e rfl rfl rfl

end Turn

section Agenda

variable {e : Engine} {pending : List Act}

theorem Agenda.mem_awaits (h : Agenda e pending) {a : Act} (mem : a ∈ pending)
    (own : a.isLoop) : ∃ r, e.run = some r ∧ a ∈ r.awaits := by
  have awaited := h.loop.mem_iff.mp (List.mem_filter.mpr ⟨mem, own⟩)
  cases run : e.run with
  | none =>
    rw [run] at awaited
    cases awaited
  | some r =>
    rw [run] at awaited
    exact ⟨r, rfl, awaited⟩

theorem Agenda.turn (h : Agenda e pending) {a : Act} (mem : a ∈ pending) {event : Event}
    (leads : a.leadsTo event) : Turn e (e.step event) a := by
  cases a with
  | publish => cases leads
  | report => cases leads
  | startLoop g =>
    obtain ⟨r, run, own⟩ := h.mem_awaits mem rfl
    rcases Run.mem_awaits.mp own with ⟨waiting, eq⟩ | ⟨_, _, _, _, _, eq⟩ | ⟨_, eq⟩ <;> cases eq
    cases event with
    | loopBegins g' =>
      cases of_decide_eq_true leads
      refine .begins run waiting ?_
      have own : e.runOf r.generation = some r := by simp [runOf, run]
      simp only [step, own, waiting, if_true]
      exact (beginRound_gives (e := { e with liveLoops := e.liveLoops + 1 })
        (h.published r run) true).of_counted
    | _ => cases leads
  | dropLoop g begun =>
    cases begun with
    | false => cases leads
    | true =>
      cases event with
      | loopCleared => exact .cleared ⟨rfl, rfl, rfl, rfl, by simp [step]⟩
      | _ => cases leads
  | fetch g topic base =>
    obtain ⟨r, run, own⟩ := h.mem_awaits mem rfl
    rcases Run.mem_awaits.mp own with
      ⟨_, eq⟩ | ⟨first, awaited, _, fetching, wanted, eq⟩ | ⟨_, eq⟩ <;> cases eq
    cases event with
    | replied g' topic' reply =>
      simp only [Act.leadsTo, Bool.and_eq_true, decide_eq_true_eq] at leads
      obtain ⟨rfl, rfl⟩ := leads
      refine .replied run fetching wanted ?_
      simp only [step]
      refine Gives.after_write (fun t => (t.take_frame topic reply).1) ?_
      intro e' generation run' live
      rw [← live]
      exact arrived_gives (run'.trans run) (generation.trans (h.published r run)) fetching
    | _ => cases leads
  | rest g =>
    obtain ⟨r, run, own⟩ := h.mem_awaits mem rfl
    rcases Run.mem_awaits.mp own with ⟨_, eq⟩ | ⟨_, _, _, _, _, eq⟩ | ⟨resting, eq⟩ <;> cases eq
    cases event with
    | rested g' =>
      cases of_decide_eq_true leads
      refine .rested run resting ?_
      have own : e.runOf r.generation = some r := by simp [runOf, run]
      simp only [step, own, resting, if_true]
      exact beginRound_gives (h.published r run) false
    | _ => cases leads
  | startKill pid aim =>
    cases event with
    | killBegins pid' aim' =>
      simp only [Act.leadsTo, Bool.and_eq_true, decide_eq_true_eq] at leads
      obtain ⟨rfl, rfl⟩ := leads
      refine .aside rfl ?_
      cases aim with
      | none => exact ⟨rfl, rfl, rfl, rfl, by simp [step, Act.dropsLoop]⟩
      | some aim => exact ⟨rfl, rfl, rfl, rfl, by simp [step, Act.dropsLoop]⟩
    | _ => cases leads
  | requestKill pid aim =>
    cases event with
    | killReplied pid' g reply =>
      refine .aside rfl ?_
      cases reply with
      | error error => exact ⟨rfl, rfl, rfl, rfl, by simp [step, Act.dropsLoop]⟩
      | ok done =>
        simp only [step]
        refine Gives.after_write (fun t => (takeKill_frame t pid').1) ?_
        intro e' generation run' live
        exact ⟨rfl, run', live, rfl, by simp [Act.dropsLoop]⟩
    | _ => cases leads

theorem Agenda.left (h : Agenda e pending) {r : Run} (run : e.run = some r) {place : Nat} {a : Act}
    (at_place : pending[place]? = some a) (own : a.isLoop) :
    (a :: (pending.eraseIdx place).filter Act.isLoop).Perm r.awaits ∧
      e.liveLoops = (pending.eraseIdx place).countP Act.isCleaning + begun (some r) := by
  obtain ⟨bound, rfl⟩ := List.getElem?_eq_some_iff.mp at_place
  have parts := List.getElem_cons_eraseIdx_perm bound
  have loop := h.loop
  have live := h.live
  rw [run] at loop live
  have still : ¬ (pending[place]).isCleaning := by
    cases act : pending[place] <;> simp_all [Act.isLoop, Act.loop?, Act.isCleaning]
  refine ⟨?_, ?_⟩
  · have filtered := (parts.filter Act.isLoop).trans loop
    rwa [List.filter_cons_of_pos own] at filtered
  · rw [live, ← parts.countP_eq, List.countP_cons_of_neg still]

theorem Agenda.left_aside (h : Agenda e pending) {place : Nat} {a : Act}
    (at_place : pending[place]? = some a) (other : ¬ a.isLoop) :
    ((pending.eraseIdx place).filter Act.isLoop).Perm (e.run.elim [] Run.awaits) ∧
      e.liveLoops =
        (if a.isCleaning then 1 else 0) + (pending.eraseIdx place).countP Act.isCleaning +
          begun e.run := by
  obtain ⟨bound, rfl⟩ := List.getElem?_eq_some_iff.mp at_place
  have parts := List.getElem_cons_eraseIdx_perm bound
  refine ⟨?_, ?_⟩
  · have filtered := (parts.filter Act.isLoop).trans h.loop
    rwa [List.filter_cons_of_neg other] at filtered
  · rw [h.live, ← parts.countP_eq, List.countP_cons]
    omega

theorem awaited_of_onward {first first' : Bool} {awaited left : List Topic}
    (sub : left.Sublist Topic.all) (h : Progress.onward first left = .fetching first' awaited) :
    awaited ≠ [] ∧ awaited.Sublist Topic.all := by
  unfold Progress.onward Progress.afterRound at h
  split at h
  next =>
    split at h <;> cases h
    exact ⟨by decide, .refl _⟩
  next more =>
    cases h
    exact ⟨more, sub⟩

/-- The loop gets to a place after its beginning, and awaits what belongs there. -/
theorem Agenda.goesTo (h : Agenda e pending) {r : Run} (run : e.run = some r) {o : Outcome}
    {p : Progress} {live : Nat} {news rest : List Act} (gives : Gives e o (some (r.at p)) live news)
    (begun : p ≠ .waiting)
    (awaited : ∀ first awaited, p = .fetching first awaited →
      awaited ≠ [] ∧ awaited.Sublist Topic.all)
    (loop : (rest.filter Act.isLoop ++ news.filter Act.isLoop).Perm (r.at p).awaits)
    (cleaning : news.countP Act.isCleaning = 0)
    (counted : live = rest.countP Act.isCleaning + 1) :
    Agenda o.1 (rest ++ o.2.filter Act.isAwaited) where
  published r' hr' := by
    rw [gives.run] at hr'
    cases hr'
    exact gives.generation.trans (h.published r run)
  awaited r' hr' := by
    rw [gives.run] at hr'
    cases hr'
    exact awaited
  loop := by
    rw [gives.news, gives.run, List.filter_append]
    exact loop
  live := by
    rw [gives.news, gives.run, gives.live, List.countP_append, cleaning, counted]
    exact congrArg _ (if_neg begun).symm

theorem Agenda.staysAt (h : Agenda e pending) {o : Outcome} {live : Nat} {news rest : List Act}
    (gives : Gives e o e.run live news)
    (loop : (rest.filter Act.isLoop).Perm (e.run.elim [] Run.awaits))
    (other : ∀ a ∈ news, ¬ a.isLoop ∧ ¬ a.isCleaning)
    (counted : live = rest.countP Act.isCleaning + begun e.run) :
    Agenda o.1 (rest ++ o.2.filter Act.isAwaited) where
  published := by
    rw [gives.run, gives.generation]
    exact h.published
  awaited := by
    rw [gives.run]
    exact h.awaited
  loop := by
    have none : news.filter Act.isLoop = [] :=
      List.filter_eq_nil_iff.mpr fun a mem => (other a mem).1
    rw [gives.news, gives.run, List.filter_append, none, List.append_nil]
    exact loop
  live := by
    have none : news.countP Act.isCleaning = 0 :=
      List.countP_eq_zero.mpr fun a mem => (other a mem).2
    rw [gives.news, gives.run, gives.live, List.countP_append, none, counted]
    rfl

theorem Agenda.turned (h : Agenda e pending) {o : Outcome} {place : Nat} {a : Act}
    (at_place : pending[place]? = some a) (turn : Turn e o a) :
    Agenda o.1 (pending.eraseIdx place ++ o.2.filter Act.isAwaited) := by
  cases turn with
  | @begins r run waiting gives =>
    obtain ⟨loop, live⟩ := h.left run at_place rfl
    have none := by
      simp only [Run.awaits, waiting] at loop
      exact (List.Perm.cons_inv loop).eq_nil
    refine h.goesTo run gives (by simp) ?_ ?_ (Run.awaits_isCleaning _) ?_
    · rintro _ _ ⟨⟩
      exact ⟨by decide, .refl _⟩
    · rw [none, Run.awaits_isLoop]
      exact .refl _
    · rw [live, begun, if_pos waiting]
  | @replied r first awaited topic run fetching mem gives =>
    obtain ⟨loop, live⟩ := h.left run at_place rfl
    obtain ⟨-, sub⟩ := h.awaited r run first awaited fetching
    have distinct : awaited.Nodup := sub.nodup Topic.nodup_all
    have left : awaited.erase topic = awaited.filter (· ≠ topic) := by
      rw [distinct.erase_eq_filter]
      refine List.filter_congr fun other _ => ?_
      by_cases same : other = topic <;> simp [same]
    have awaits : (((pending.eraseIdx place).filter Act.isLoop)).Perm
        ((awaited.filter (· ≠ topic)).map fun topic => .fetch r.generation topic r.base) := by
      simp only [Run.awaits, fetching] at loop
      have parts := (List.perm_cons_erase mem).map fun topic => Act.fetch r.generation topic r.base
      rw [left] at parts
      exact (loop.trans parts).cons_inv
    have begun' : begun (some r) = 1 := if_neg (by simp [fetching])
    refine h.goesTo run gives ?_ ?_ ?_ ?_ (begun' ▸ live)
    · unfold Progress.onward Progress.afterRound
      split <;> [split; skip] <;> simp
    · intro first' awaited' eq
      exact awaited_of_onward (List.filter_sublist.trans sub) eq
    · by_cases last : awaited.filter (· ≠ topic) = []
      · rw [last, List.map_nil] at awaits
        rw [if_pos last, awaits.eq_nil, Run.awaits_isLoop, Progress.onward, if_pos last]
        exact .refl _
      · rw [if_neg last, List.filter_nil, List.append_nil, Progress.onward, if_neg last]
        exact awaits
    · split
      · exact Run.awaits_isCleaning _
      · rfl
  | @rested r run resting gives =>
    obtain ⟨loop, live⟩ := h.left run at_place rfl
    have none := by
      simp only [Run.awaits, resting] at loop
      exact (List.Perm.cons_inv loop).eq_nil
    have begun' : begun (some r) = 1 := if_neg (by simp [resting])
    refine h.goesTo run gives (by simp) ?_ ?_ (Run.awaits_isCleaning _) (begun' ▸ live)
    · rintro _ _ ⟨⟩
      exact ⟨by decide, .refl _⟩
    · rw [none, Run.awaits_isLoop]
      exact .refl _
  | cleared gives =>
    obtain ⟨loop, live⟩ := h.left_aside at_place (by simp [Act.isLoop, Act.loop?])
    refine h.staysAt gives loop (by simp) ?_
    rw [live]
    simp only [Act.isCleaning, if_true]
    omega
  | aside kill gives =>
    have other : a.isLoop = false ∧ a.isCleaning = false := by
      cases a <;> first | exact ⟨rfl, rfl⟩ | cases kill
    obtain ⟨loop, live⟩ := h.left_aside at_place (by simp [other.1])
    refine h.staysAt gives loop ?_ ?_
    · intro b mem
      obtain ⟨pid, aim, rfl⟩ := Act.mem_killNext mem
      simp [Act.isLoop, Act.loop?, Act.isCleaning]
    · rw [live, other.2]
      simp

/-- Giving up a run leaves nothing of its loop under way but its clearing, if it has begun. -/
theorem Agenda.giveUp (h : Agenda e pending) :
    let left := e.giveUp.2.foldl Act.enter pending
    left.filter Act.isLoop = [] ∧ e.liveLoops = left.countP Act.isCleaning := by
  have loop := h.loop
  have live := h.live
  cases run : e.run with
  | none =>
    rw [run] at loop live
    simp only [Engine.giveUp, run, List.foldl_nil]
    exact ⟨loop.eq_nil, live⟩
  | some r =>
    rw [run] at loop live
    have own (a : Act) : a ∈ pending → a.isLoop → a.loop? = some r.generation := by
      intro mem own
      have awaited := loop.mem_iff.mp (List.mem_filter.mpr ⟨mem, own⟩)
      rcases Run.mem_awaits.mp awaited with ⟨_, rfl⟩ | ⟨_, _, _, _, _, rfl⟩ | ⟨_, rfl⟩ <;> rfl
    have dropped (begun : Bool) :
        pending.filter (¬ (Act.dropLoop r.generation begun).drops ·) =
          pending.filter (¬ Act.isLoop ·) := by
      refine List.filter_congr fun a mem => ?_
      have own := own a mem
      unfold Act.isLoop at own ⊢
      cases loop : a.loop? with
      | none => simp [Act.drops, loop]
      | some g =>
        rw [loop] at own
        cases own rfl
        simp [Act.drops, loop]
    have counted : (pending.filter (¬ Act.isLoop ·)).countP Act.isCleaning =
        pending.countP Act.isCleaning := by
      rw [List.countP_filter]
      refine List.countP_congr fun a _ => ?_
      cases a <;> simp [Act.isCleaning, Act.isLoop, Act.loop?]
    have none : (pending.filter (¬ Act.isLoop ·)).filter Act.isLoop = [] := by
      rw [List.filter_filter]
      refine List.filter_eq_nil_iff.mpr fun a _ => ?_
      simp
    simp only [Engine.giveUp, run, List.foldl_cons, List.foldl_nil, Act.enter, dropped]
    rw [List.filter_append, none, List.countP_append, counted, live]
    by_cases waiting : r.progress = .waiting
    · simp [waiting, begun, Act.isAwaited]
    · simp only [waiting, begun, ne_eq, not_false_eq_true, decide_true, if_false]
      exact ⟨rfl, rfl⟩

theorem Agenda.start (h : Agenda e pending) {target : Target} {o : Outcome}
    (started : e.start target = .ok o) : Agenda o.1 (o.2.foldl Act.enter pending) := by
  cases ok : target.base with
  | error error =>
    rw [Engine.start_error e ok] at started
    cases started
  | ok base =>
    rw [Engine.start_ok e ok] at started
    cases started
    obtain ⟨none, live⟩ := h.giveUp
    simp only [List.foldl_append, List.foldl_cons, List.foldl_nil]
    rw [Act.enter_of_keeps (by simp [Act.dropsLoop]), Act.enter_of_keeps (by simp [Act.dropsLoop])]
    refine ⟨by simp [Telemetry.fresh], by simp, ?_, ?_⟩
    · simp only [List.filter_append, none]
      exact .refl _
    · simp only [List.countP_append, ← live]
      rfl

theorem Agenda.stop (h : Agenda e pending) :
    Agenda e.stop.1 (e.stop.2.foldl Act.enter pending) := by
  cases run : e.run with
  | none =>
    rw [Engine.stop_none run]
    exact h
  | some r =>
    obtain ⟨none, live⟩ := h.giveUp
    simp only [Engine.giveUp, run, List.foldl_cons, List.foldl_nil] at none live
    rw [Engine.stop_some run]
    simp only [List.foldl_cons, List.foldl_nil]
    have published : Act.enter pending .publish = pending := by
      rw [Act.enter_of_keeps (by simp [Act.dropsLoop])]
      exact List.append_nil _
    rw [published]
    refine ⟨by simp, by simp, ?_, live⟩
    rw [none]
    exact .refl _

theorem Agenda.kill (h : Agenda e pending) (pid : UInt32) :
    Agenda (e.kill pid).1 ((e.kill pid).2.foldl Act.enter pending) := by
  simp only [Engine.kill, List.foldl_cons, List.foldl_nil]
  rw [Act.enter_of_keeps (by simp [Act.dropsLoop])]
  refine ⟨h.published, h.awaited, ?_, ?_⟩
  · rw [List.filter_append]
    exact (List.append_nil _).symm ▸ h.loop
  · rw [List.countP_append]
    exact h.live

end Agenda

end Engine

end HostWatch
