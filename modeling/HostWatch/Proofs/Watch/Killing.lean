import HostWatch.Proofs.History
import HostWatch.Proofs.Watch.Schedule

namespace HostWatch

theorem mem_insertAscending {n m : UInt32} {ns : List UInt32} :
    m ∈ insertAscending n ns ↔ m = n ∨ m ∈ ns := by
  induction ns with
  | nil => simp [insertAscending]
  | cons k ks ih =>
    by_cases below : n < k
    · simp [insertAscending, below]
    by_cases same : n = k
    · simp [insertAscending, same]
    · simp only [insertAscending, below, same, if_false, List.mem_cons, ih]
      exact or_left_comm

theorem Note.mem_killing {pid : UInt32} {pids : List UInt32} {note : Note} :
    pid ∈ Note.killing pids note ↔
      note = .killed pid ∨ pid ∈ pids ∧ ∀ ps, note = .reply .processes (.ok ps) → ps.lists pid := by
  cases note with
  | killed other => simp [Note.killing, mem_insertAscending, eq_comm (a := pid)]
  | reply topic reply =>
    cases topic with
    | processes => cases reply <;> simp [Note.killing]
    | _ => simp [Note.killing]

def Act.victim? : Act → Option UInt32
  | .startKill pid _ | .requestKill pid _ => some pid
  | _ => none

def Act.forKill : Act → Bool
  | .startKill _ _ | .requestKill _ _ | .report _ => true
  | _ => false

def Event.ofKill : Event → Bool
  | .killBegins _ _ | .killReplied _ _ _ => true
  | _ => false

theorem Act.victimless {a : Act} (h : ¬ a.forKill) : a.victim? = none := by
  cases a <;> first | rfl | exact absurd rfl h

namespace Engine

theorem beginRound_forKill {e : Engine} {r : Run} (h : e.telemetry.generation = r.generation)
    (first : Bool) : ∀ a ∈ (beginRound r first e).2, ¬ a.forKill := by
  rw [beginRound_eq h]
  intro a mem
  rcases List.mem_append.mp mem with shown | asked
  · cases first with
    | false => cases shown
    | true =>
      obtain ⟨topic, -, rfl⟩ := List.mem_map.mp shown
      exact Bool.false_ne_true
  · obtain ⟨topic, -, rfl⟩ := List.mem_map.mp asked
    exact Bool.false_ne_true

theorem write_forKill (g : Nat) (change : Telemetry → Telemetry) (e : Engine) :
    ∀ a ∈ (write g change e).2, ¬ a.forKill := by
  unfold write
  split <;> simp [Act.forKill]

theorem arrived_forKill {e : Engine} (h : ∀ r ∈ e.run, e.telemetry.generation = r.generation)
    (g : Nat) (topic : Topic) : ∀ a ∈ (arrived g topic e).2, ¬ a.forKill := by
  unfold arrived
  cases hr : e.runOf g with
  | none => simp
  | some r =>
    have run := (mem_runOf hr).1
    cases hp : r.progress with
    | fetching first awaited =>
      simp only [hp]
      split
      · cases first with
        | true => exact beginRound_forKill (h r run) false
        | false => simp [endRound, Act.forKill]
      · simp
    | _ => simp [hp]

theorem step_forKill {e : Engine} (h : ∀ r ∈ e.run, e.telemetry.generation = r.generation)
    {event : Event} (other : ¬ event.ofKill) : ∀ a ∈ (e.step event).2, ¬ a.forKill := by
  cases event with
  | loopBegins g =>
    simp only [Engine.step]
    cases hr : e.runOf g with
    | none => simp
    | some r =>
      dsimp only
      split
      · exact beginRound_forKill (e := { e with liveLoops := e.liveLoops + 1 })
          (h r (mem_runOf hr).1) true
      · simp
  | loopCleared => simp [Engine.step]
  | replied g topic reply =>
    have still := write_published h g fun t => t.take_frame topic reply
    intro a mem
    rcases List.mem_append.mp mem with shown | later
    · exact write_forKill _ _ _ a shown
    · exact arrived_forKill still g topic a later
  | rested g =>
    simp only [Engine.step]
    cases hr : e.runOf g with
    | none => simp
    | some r =>
      dsimp only
      split
      · exact beginRound_forKill (h r (mem_runOf hr).1) false
      · simp
  | killBegins pid aim => exact absurd rfl other
  | killReplied pid g reply => exact absurd rfl other

/-- A host is asked to kill a process only when a kill begins that was aimed at it. -/
theorem step_victim {e : Engine} (h : ∀ r ∈ e.run, e.telemetry.generation = r.generation)
    {event : Event} {a : Act} (mem : a ∈ (e.step event).2) {pid : UInt32}
    (victim : a.victim? = some pid) : ∃ aim, event = .killBegins pid (some aim) := by
  have harmless (none : a.victim? = none) : ∃ aim, event = .killBegins pid (some aim) := by
    rw [none] at victim
    cases victim
  by_cases own : event.ofKill
  · cases event with
    | killBegins other aim =>
      cases aim with
      | none => exact harmless (List.mem_singleton.mp mem ▸ rfl)
      | some aim =>
        rw [List.mem_singleton.mp mem] at victim
        cases victim
        exact ⟨aim, rfl⟩
    | killReplied other g reply =>
      cases reply with
      | error error => exact harmless (List.mem_singleton.mp mem ▸ rfl)
      | ok done =>
        rcases List.mem_append.mp mem with shown | told
        · exact harmless (Act.victimless (write_forKill _ _ _ a shown))
        · exact harmless (List.mem_singleton.mp told ▸ rfl)
    | _ => cases own
  · exact harmless (Act.victimless (step_forKill h own a mem))

end Engine

namespace System

/-- The host agrees to kill a process, as the present run has asked it to. -/
def Agrees (s : System) (pid : UInt32) (move : Move) : Prop := s.heardBy move = some (.killed pid)

def Gets (s : System) (ps : ProcessList) (move : Move) : Prop :=
  s.heardBy move = some (.reply .processes (.ok ps))

/-- A list of the processes, or a kill, that ends in an error. A kill without a target fails before
the host is asked. -/
def Move.fails : Move → Bool
  | .done _ (.replied _ .processes (.error _))
  | .done _ (.killBegins _ none)
  | .done _ (.killReplied _ _ (.error _)) => true
  | _ => false

variable {s : System}

theorem heardBy_of_fails {move : Move} (fails : move.fails) (pids : List UInt32) :
    (s.heardBy move).toList.foldl Note.killing pids = pids := by
  cases move with
  | done place event =>
    cases event with
    | replied g topic reply =>
      cases topic with
      | processes =>
        cases reply with
        | ok ps => cases fails
        | error error =>
          simp only [heardBy]
          cases s.errands[place]?.filter _ with
          | none => rfl
          | some e =>
            simp only [Option.bind_some, note?]
            split <;> rfl
      | _ => cases fails
    | killBegins pid aim =>
      simp only [heardBy]
      cases s.errands[place]?.filter _ <;> rfl
    | killReplied pid g reply =>
      cases reply with
      | ok done => cases fails
      | error error =>
        simp only [heardBy]
        cases s.errands[place]?.filter _ <;> rfl
    | _ => cases fails
  | _ => cases fails

section Asked

variable {moves : List Move} {move : Move} {pid : UInt32}

/-- The kills that are under way for the present run are among those that were called for. -/
def Asked (s : System) (moves : List Move) : Prop :=
  ∀ e ∈ s.errands, e.run = s.runs → ∀ pid, e.act.victim? = some pid → .kill pid ∈ moves

theorem Sound.asked_start (h : Sound s) {target : Target} {base : Address.Url}
    (ok : target.base = .ok base) : (s.next (.start target)).1.Asked [] := by
  simp only [System.next, Engine.start_ok s.engine ok, follow]
  intro e mem present pid victim
  -- errands under way belong to earlier runs, and those that a start adds kill nothing
  rcases List.mem_append.mp mem with old | new
  · have earlier := h.past e old
    dsimp only at present
    omega
  · rcases List.mem_append.mp (mem_errandsOf new).2 with given | begun
    · obtain ⟨r, -, eq⟩ := Engine.mem_giveUp.mp given
      rw [eq] at victim
      cases victim
    · simp only [List.mem_cons, List.not_mem_nil, or_false] at begun
      rcases begun with eq | eq <;> rw [eq] at victim <;> cases victim

theorem Asked.next (asked : s.Asked moves) (h : Sound s) (same : ¬ move.isTurn) :
    (s.next move).1.Asked (moves ++ [move]) := by
  have old {e : Errand} (mem : e ∈ s.errands) (present : e.run = s.runs) {pid : UInt32}
      (victim : e.act.victim? = some pid) : .kill pid ∈ moves ++ [move] :=
    List.mem_append_left _ (asked e mem present pid victim)
  cases move with
  | start target =>
    rw [next_failed same]
    exact fun e mem present pid victim => old mem present victim
  | stop => exact absurd rfl same
  | kill pid =>
    intro e mem present pid' victim
    rcases List.mem_append.mp mem with earlier | new
    · exact old earlier present victim
    · rw [List.mem_singleton.mp new] at victim
      cases victim
      simp
  | done place event =>
    rcases s.next_done place event with eq | ⟨e, at_place, leads, eq⟩
    · rw [eq]
      exact fun e mem present pid victim => old mem present victim
    · rw [eq]
      intro e' mem present pid victim
      rcases List.mem_append.mp mem with earlier | new
      · exact old (List.mem_of_mem_eraseIdx earlier) present victim
      -- the host is asked on behalf of the call whose kill has begun
      · obtain ⟨same_run, act⟩ := mem_errandsOf new
        obtain ⟨aim, rfl⟩ := Engine.step_victim h.published act victim
        have begins : e.act.victim? = some pid := by
          cases call : e.act <;> simp_all [Act.leadsTo, Act.victim?]
        exact old (List.mem_of_getElem? at_place) (same_run.symm.trans present) begins
  | lost place =>
    exact fun e mem present pid victim => old (List.mem_of_mem_eraseIdx mem) present victim

theorem Asked.agrees (asked : s.Asked moves) (agrees : s.Agrees pid move) : .kill pid ∈ moves := by
  cases move with
  | done place event =>
    obtain ⟨e, found, noted⟩ := Option.bind_eq_some_iff.mp agrees
    obtain ⟨at_place, leads⟩ := Option.mem_filter_iff.mp found
    cases event with
    | killReplied other g reply =>
      cases reply with
      | error error => cases noted
      | ok done =>
        simp only [note?, Option.ite_none_right_eq_some, Option.some.injEq, Note.killed.injEq,
          Bool.and_eq_true, decide_eq_true_eq] at noted
        obtain ⟨⟨-, present⟩, rfl⟩ := noted
        have victim : e.act.victim? = some other := by
          cases call : e.act <;> simp_all [Act.leadsTo, Act.victim?]
        exact asked e (List.mem_of_getElem? at_place) present other victim
    | replied g topic reply =>
      simp only [note?, Option.ite_none_right_eq_some, Option.some.injEq, reduceCtorEq,
        and_false] at noted
    | _ => cases noted
  | _ => cases agrees

end Asked

section Watched

variable {generation : Nat} {target : Target} {base : Address.Url}

theorem Watches.killing (w : s.Watches generation target base) (h : Sound s) :
    s.engine.telemetry.killing = s.heard.foldl Note.killing [] :=
  congrArg (·.killing) (w.known h)

theorem Watches.killing_next (w : s.Watches generation target base) (h : Sound s) {move : Move}
    (same : ¬ move.isTurn) :
    (s.next move).1.engine.telemetry.killing =
      (s.heardBy move).toList.foldl Note.killing s.engine.telemetry.killing := by
  rw [(w.next h same).1.killing (h.next move), s.heard_next same, List.foldl_append, w.killing h]

theorem Watches.mem_killing_next (w : s.Watches generation target base) (h : Sound s)
    {move : Move} (same : ¬ move.isTurn) (pid : UInt32) :
    pid ∈ (s.next move).1.engine.telemetry.killing ↔
      s.Agrees pid move ∨
        pid ∈ s.engine.telemetry.killing ∧ ∀ ps, s.Gets ps move → ps.lists pid := by
  rw [w.killing_next h same, Agrees]
  simp only [Gets]
  cases s.heardBy move with
  | none => simp
  | some note =>
    simp only [Option.toList_some, List.foldl_cons, List.foldl_nil, Option.some.injEq]
    exact Note.mem_killing

/-- What is shown as being killed at any time of a run: the kills that the run has called for and
the host has agreed to, as long as each list that it has sent since names the process. -/
theorem Watches.mem_killing_run (w : s.Watches generation target base) (h : Sound s)
    (asked : s.Asked []) (silent : s.heard = []) {moves : List Move}
    (same : ∀ move ∈ moves, ¬ move.isTurn) :
    (s.run moves).Asked moves ∧ ∀ pid, pid ∈ (s.run moves).engine.telemetry.killing ↔
      Since (fun past move => .kill pid ∈ past ∧ (s.run past).Agrees pid move)
        (fun past move => ∀ ps, (s.run past).Gets ps move → ps.lists pid) moves := by
  induction moves using List.reverseRecOn with
  | nil =>
    refine ⟨asked, fun pid => ?_⟩
    have none : (s.run []).engine.telemetry.killing = [] := by
      change s.engine.telemetry.killing = []
      rw [w.killing h, silent]
      rfl
    simp [none]
  | append_singleton moves move ih =>
    have earlier : ∀ move ∈ moves, ¬ move.isTurn := fun m mem => same m (List.mem_append_left _ mem)
    have last : ¬ move.isTurn := same move (List.mem_append_right _ (List.mem_singleton_self _))
    obtain ⟨asked, marked⟩ := ih earlier
    have watched := (w.run h earlier).1
    have step : s.run (moves ++ [move]) = ((s.run moves).next move).1 := s.run_append moves [move]
    refine ⟨step ▸ asked.next (h.run moves) last, fun pid => ?_⟩
    -- only what the run has called for is agreed to, so that is no further condition
    have called : .kill pid ∈ moves ∧ (s.run moves).Agrees pid move ↔
        (s.run moves).Agrees pid move := and_iff_right_of_imp asked.agrees
    rw [step, watched.mem_killing_next (h.run moves) last, marked, since_append_singleton, called]

end Watched

/-- A process is being killed just when the run has called for it, the host has agreed to such a
kill, and each list of processes got since names it. -/
theorem killing_iff_agreed_and_listed (before during : List Move) {target : Target}
    {base : Address.Url} (ok : target.base = .ok base) (same : ∀ move ∈ during, ¬ move.isTurn) :
    let begun := ((({} : System).run before).next (.start target)).1
    let now := begun.run during
    (∀ pid, pid ∈ now.engine.telemetry.killing ↔
      Since (fun past move => .kill pid ∈ past ∧ (begun.run past).Agrees pid move)
        (fun past move => ∀ ps, (begun.run past).Gets ps move → ps.lists pid) during) ∧
    (∀ move : Move, move.fails →
      (now.next move).1.engine.telemetry.killing = now.engine.telemetry.killing) ∧
    ∀ later : List Move, (∀ move ∈ later, ¬ move.begins) →
      ((now.next .stop).1.run later).engine.telemetry.killing = now.engine.telemetry.killing := by
  intro begun now
  have sound := sound_init.run before
  obtain ⟨started, silent, watches⟩ := sound.watches ok
  obtain ⟨watched, -⟩ := watches.run started same
  have present : now.Sound := started.run during
  refine ⟨?_, fun move fails => ?_, fun later unbegun => ?_⟩
  · exact (watches.mem_killing_run started (sound.asked_start ok) silent same).2
  · have unturned : ¬ move.isTurn := by
      cases move with
      | done place event => exact Bool.false_ne_true
      | _ => cases fails
    rw [watched.killing_next present unturned, heardBy_of_fails fails]
  · obtain ⟨-, -, r, mem, -⟩ := watched
    have running : now.engine.run = some r := mem
    have stopped : (now.next .stop).1.engine =
        { now.engine with
          telemetry.generation := now.engine.telemetry.generation + 1, run := none } := by
      simp only [next, Engine.stop_some running, follow]
    have frozen := ((present.next .stop).run_stopped (by rw [stopped]) unbegun).1
    rw [frozen, stopped]

/-- The host agrees to kill 7 in the present run, and 9 as the run before has asked. -/
theorem killing_of_second_run :
    let target : Target := ⟨"10.0.0.2", 8080⟩
    let base : Address.Url :=
      { scheme := "http", authority := some { host := .ipv4 167772162, port := some 8080 },
        path := "/" }
    let before : List Move := [.start target, .kill 9]
    let during : List Move := [.done 2 (.loopBegins 2),
      .kill 7, .done 6 (.killBegins 7 (some ⟨base, 2⟩)), .done 6 (.killReplied 7 2 (.ok ())),
      .done 1 (.killBegins 9 (some ⟨base, 1⟩)), .done 5 (.killReplied 9 1 (.ok ())),
      .done 3 (.replied 2 .processes (.ok [{ pid := 7 }])),
      .kill 8, .done 4 (.killBegins 8 (some ⟨base, 2⟩))]
    let begun := ((({} : System).run before).next (.start target)).1
    let now := begun.run during
    let killed (pid : UInt32) := Since
      (fun past move => .kill pid ∈ past ∧ (begun.run past).Agrees pid move)
      (fun past move => ∀ ps, (begun.run past).Gets ps move → ps.lists pid) during
    (target.base = .ok base ∧ killed 7 ∧ ¬ killed 9) ∧
      (now.next (.done 4 (.killReplied 8 2 (.error .noTarget)))).1.engine.telemetry.killing = [7] ∧
      ((now.next .stop).1.run
        [.done 4 (.killReplied 8 2 (.ok ()))]).engine.telemetry.killing = [7] := by
  intro target base before during
  have ok : target.base = .ok base := by decide +kernel
  have same : ∀ move ∈ during, ¬ move.isTurn := by decide +kernel
  obtain ⟨marked, failed, stopped⟩ := killing_iff_agreed_and_listed before during ok same
  have killing : ((((({} : System).run before).next (.start target)).1.run
      during).engine.telemetry.killing) = [7] := by decide +kernel
  rw [killing] at marked failed stopped
  refine ⟨⟨ok, ?_, ?_⟩, ?_, ?_⟩
  · exact (marked 7).mp (List.mem_singleton_self 7)
  · exact fun nine => absurd ((marked 9).mpr nine) (by decide)
  · exact failed (.done 4 (.killReplied 8 2 (.error .noTarget))) rfl
  · exact stopped [.done 4 (.killReplied 8 2 (.ok ()))] (by simp [Move.begins])

end System

end HostWatch
