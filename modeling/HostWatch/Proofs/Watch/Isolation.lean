import HostWatch.Proofs.Watch.System

namespace HostWatch.System

def Move.begins : Move → Bool
  | .start target => target.base.isOk
  | _ => false

def Move.isTurn : Move → Bool
  | .stop => true
  | move => move.begins

def FetchNothing (acts : List Act) : Prop := ∀ g topic base, .fetch g topic base ∉ acts

variable {s : System}

theorem next_failed {target : Target} (failed : ¬ (Move.start target).begins) :
    s.next (.start target) = (s, []) := by
  cases ok : target.base with
  | ok base => simp [Move.begins, ok, Except.isOk, Except.toBool] at failed
  | error error => simp only [next, Engine.start_error s.engine ok]

theorem next_done (s : System) (place : Nat) (event : Event) :
    s.next (.done place event) = (s, []) ∨ ∃ e, s.errands[place]? = some e ∧
      e.act.leadsTo event ∧ s.next (.done place event) = s.finish place e event := by
  cases at_place : s.errands[place]? with
  | none => exact Or.inl (by simp only [next, at_place])
  | some e =>
    by_cases leads : e.act.leadsTo event
    · exact Or.inr ⟨e, rfl, leads, by simp only [next, at_place, leads, if_true]⟩
    · exact Or.inl (by simp only [next, at_place, leads]; rfl)

def heardBy (s : System) : Move → Option Note
  | .done place event =>
    (s.errands[place]?.filter (·.act.leadsTo event)).bind (s.note? · event)
  | _ => none

theorem heard_next (s : System) {move : Move} (same : ¬ move.isTurn) :
    (s.next move).1.heard = s.heard ++ (s.heardBy move).toList := by
  cases move with
  | start target =>
    rw [next_failed same]
    exact (List.append_nil _).symm
  | stop => exact absurd rfl same
  | kill pid => exact (List.append_nil _).symm
  | done place event =>
    cases at_place : s.errands[place]? with
    | none => simp [next, heardBy, at_place]
    | some e =>
      by_cases leads : e.act.leadsTo event
      · simp only [next, heardBy, at_place, leads, if_true, Option.filter_some]
        rfl
      · simp [next, heardBy, at_place, leads, Option.filter_some]
  | lost place => exact (List.append_nil _).symm

section Foreign

variable {e : Errand} {event : Event}

theorem note_foreign (other : ¬ (s.engine.isRunning = true ∧ e.run = s.runs)) :
    s.note? e event = none := by
  cases event with
  | replied => exact if_neg (by simpa using other)
  | killReplied pid g reply =>
    cases reply with
    | error error => rfl
    | ok done => exact if_neg (by simpa using other)
  | _ => rfl

/-- What comes of an earlier run's errands, or of any when there is no run, changes nothing of what
is known. -/
theorem Sound.foreign (h : Sound s) (mem : e ∈ s.errands) (leads : e.act.leadsTo event)
    (other : ¬ (s.engine.isRunning = true ∧ e.run = s.runs)) :
    (s.engine.step event).1.telemetry = s.engine.telemetry := by
  have silent : s.note? e event = none := note_foreign other
  have learnt := h.learn mem leads
  obtain ⟨goesOn, knows⟩ := Engine.step_spec h.published event
  rw [silent, Option.toList_none, List.append_nil, ← knows] at learnt
  exact h.known.unique learnt goesOn.generation goesOn.target

end Foreign

section Stopped

theorem Sound.next_stopped (h : Sound s) (idle : s.engine.run = none) {move : Move}
    (same : ¬ move.begins) :
    (s.next move).1.engine.telemetry = s.engine.telemetry ∧ (s.next move).1.engine.run = none ∧
      FetchNothing (s.next move).2 := by
  cases move with
  | start target =>
    rw [next_failed same]
    exact ⟨rfl, idle, by simp [FetchNothing]⟩
  | stop =>
    simp only [System.next, Engine.stop_none idle]
    exact ⟨rfl, idle, by simp [FetchNothing, follow]⟩
  | kill pid => exact ⟨rfl, idle, by simp [FetchNothing, System.next, follow, Engine.kill]⟩
  | done place event =>
    rcases s.next_done place event with eq | ⟨e, at_place, leads, eq⟩
    · rw [eq]
      exact ⟨rfl, idle, by simp [FetchNothing]⟩
    · have goesOn := (Engine.step_spec h.published event).1
      have left : (s.engine.step event).1.run = none := by
        have running := goesOn.isRunning
        simpa [Engine.isRunning, idle] using running
      rw [eq]
      refine ⟨h.foreign (List.mem_of_getElem? at_place) leads (by simp [Engine.isRunning, idle]),
        left, fun g topic base fetched => ?_⟩
      obtain ⟨r, hr, -⟩ := goesOn.fetch g topic base fetched
      rw [left] at hr
      cases hr
  | lost place => exact ⟨rfl, idle, by simp [FetchNothing, System.next]⟩

theorem Sound.run_stopped (h : Sound s) (idle : s.engine.run = none) {moves : List Move}
    (same : ∀ move ∈ moves, ¬ move.begins) :
    (s.run moves).engine.telemetry = s.engine.telemetry ∧ FetchNothing (s.acts moves) := by
  induction moves generalizing s with
  | nil => exact ⟨rfl, by simp [FetchNothing, acts]⟩
  | cons move moves ih =>
    obtain ⟨known, left, first⟩ := h.next_stopped idle (same move List.mem_cons_self)
    obtain ⟨later, rest⟩ := ih (h.next move) left fun m mem => same m (List.mem_cons_of_mem _ mem)
    refine ⟨later.trans known, fun g topic base fetched => ?_⟩
    exact (List.mem_append.mp fetched).elim (first g topic base) (rest g topic base)

end Stopped

section Running

def Watches (s : System) (generation : Nat) (target : Target) (base : Address.Url) : Prop :=
  s.engine.telemetry.generation = generation ∧ s.engine.telemetry.target = some target ∧
    ∃ r ∈ s.engine.run, r.base = base

variable {generation : Nat} {target : Target} {base : Address.Url}

theorem Watches.next (w : s.Watches generation target base) (h : Sound s) {move : Move}
    (same : ¬ move.isTurn) :
    (s.next move).1.Watches generation target base ∧
      ∀ g topic b, .fetch g topic b ∈ (s.next move).2 → b = base := by
  cases move with
  | start other =>
    have failed : ¬ (Move.start other).begins := same
    rw [next_failed failed]
    exact ⟨w, by simp⟩
  | stop => exact absurd rfl same
  | kill pid => exact ⟨w, by simp [System.next, follow, Engine.kill]⟩
  | done place event =>
    rcases s.next_done place event with eq | ⟨e, at_place, leads, eq⟩
    · rw [eq]
      exact ⟨w, by simp⟩
    · rw [eq]
      obtain ⟨eq, eq', r, hr, rfl⟩ := w
      have goesOn := (Engine.step_spec h.published event).1
      obtain ⟨r', hr', -, base, -⟩ := goesOn.later hr
      refine ⟨⟨goesOn.generation.trans eq, goesOn.target.trans eq', r', hr', base⟩, ?_⟩
      intro g topic b fetched
      obtain ⟨r'', hr'', rfl⟩ := goesOn.fetch g topic b fetched
      cases Option.some.inj (hr''.symm.trans hr')
      exact base
  | lost place => exact ⟨w, by simp [System.next]⟩

theorem Watches.run (w : s.Watches generation target base) (h : Sound s) {moves : List Move}
    (same : ∀ move ∈ moves, ¬ move.isTurn) :
    (s.run moves).Watches generation target base ∧
      ∀ g topic b, .fetch g topic b ∈ s.acts moves → b = base := by
  induction moves generalizing s with
  | nil => exact ⟨w, by simp [acts]⟩
  | cons move moves ih =>
    obtain ⟨still, first⟩ := w.next h (same move List.mem_cons_self)
    obtain ⟨later, rest⟩ := ih still (h.next move) fun m mem => same m (List.mem_cons_of_mem _ mem)
    refine ⟨later, fun g topic b fetched => ?_⟩
    exact (List.mem_append.mp fetched).elim (first g topic b) (rest g topic b)

theorem Watches.known (w : s.Watches generation target base) (h : Sound s) :
    s.engine.telemetry =
      { Telemetry.ofNotes s.heard with generation := generation, target := some target } := by
  have known := h.known
  unfold Telemetry.ComesFrom at known
  rw [known, w.1, w.2.1]

end Running

theorem Sound.watches (h : Sound s) {target : Target} {base : Address.Url}
    (ok : target.base = .ok base) :
    Sound (s.next (.start target)).1 ∧ (s.next (.start target)).1.heard = [] ∧
      (s.next (.start target)).1.Watches (s.engine.telemetry.generation + 1) target base := by
  refine ⟨h.start ok, ?_⟩
  simp only [System.next, Engine.start_ok s.engine ok, follow]
  exact ⟨trivial, rfl, rfl, _, rfl, rfl⟩

/-- A run begins with nothing known, and what is known is then what it has heard, after any past.
Once stopped, nothing changes and nothing is fetched until the next one begins. -/
theorem run_isolated (before : List Move) :
    let s : System := ({} : System).run before
    (s.engine.isRunning = true → ∀ during : List Move, (∀ move ∈ during, ¬ move.begins) →
      let stopped := (s.next .stop).1
      (stopped.run during).engine.telemetry = stopped.engine.telemetry ∧
        FetchNothing (stopped.acts during)) ∧
    (∀ target base, target.base = .ok base →
      let generation := s.engine.telemetry.generation + 1
      let begun := (s.next (.start target)).1
      begun.engine.telemetry =
        { generation, target := some target, cpu := .loading, memory := .loading,
          processes := .loading, outside := .loading, killing := [], cpuPercent := none,
          cpuTemperature := none, outsideTemperature := none, memoryPercent := none,
          memoryUse := none, lastCounters := none } ∧
      begun.heard = [] ∧
      ∀ during : List Move, (∀ move ∈ during, ¬ move.isTurn) →
        let now := begun.run during
        now.engine.telemetry =
          { Telemetry.ofNotes now.heard with generation, target := some target } ∧
        (∀ g topic asked, .fetch g topic asked ∈ begun.acts during → asked = base) ∧
        ∀ before' during' : List Move, (∀ move ∈ during', ¬ move.isTurn) →
          let now' := ((({} : System).run before').next (.start target)).1.run during'
          now'.heard = now.heard →
            { now'.engine.telemetry with generation } = now.engine.telemetry) ∧
    ∀ place e event, s.errands[place]? = some e → e.run ≠ s.runs →
      let ended := (s.next (.done place event)).1
      ended.engine.telemetry = s.engine.telemetry ∧ ended.heard = s.heard := by
  intro s
  have sound : Sound s := sound_init.run before
  refine ⟨fun running during same => ?_, fun target base ok => ?_, ?_⟩
  · obtain ⟨r, hr⟩ := Option.isSome_iff_exists.mp running
    refine (sound.next .stop).run_stopped ?_ same
    simp only [next, Engine.stop_some hr, follow]
  · obtain ⟨started, silent, watches⟩ := sound.watches ok
    refine ⟨?_, silent, fun during same => ?_⟩
    · simp only [next, Engine.start_ok s.engine ok, follow]
      rfl
    · obtain ⟨still, asked⟩ := watches.run started same
      have known := still.known (started.run during)
      refine ⟨known, asked, fun before' during' same' heard => ?_⟩
      obtain ⟨started', -, watches'⟩ := (sound_init.run before').watches ok
      have known' := (watches'.run started' same').1.known (started'.run during')
      rw [known, known', heard]
  · intro place e event at_place earlier
    have other : ¬ (s.engine.isRunning = true ∧ e.run = s.runs) := fun now => earlier now.2
    rcases s.next_done place event with eq | ⟨e', at_place', leads, eq⟩
    · simp only [eq, and_self]
    · cases Option.some.inj (at_place'.symm.trans at_place)
      simp only [eq]
      refine ⟨sound.foreign (List.mem_of_getElem? at_place) leads other, ?_⟩
      change s.heard ++ _ = s.heard
      rw [note_foreign other, Option.toList_none, List.append_nil]

/-- A second run hears a success and a failure while the first one's fetches are still under way. -/
theorem run_isolated_after_replies :
    let address (host : UInt32) : Address.Url :=
      { scheme := "http", authority := some { host := .ipv4 host, port := some 8080 }, path := "/" }
    let target : Target := ⟨"10.0.0.2", 8080⟩
    let before : List Move := [.start ⟨"10.0.0.3", 8080⟩, .done 0 (.loopBegins 1)]
    let degrees : Number.Single := .ofNat 21
    let down : Error := .status 503 "down"
    let during : List Move := [.done 5 (.loopBegins 2),
      .done 8 (.replied 2 .outside (.ok degrees)), .done 5 (.replied 2 .cpu (.error down))]
    let now := ((({} : System).run before).next (.start target)).1.run during
    let shown := now.engine.telemetry
    let stopped := (now.next .stop).1
    (target.base = .ok (address 167772162) ∧ repliesIn now.heard .outside = [.ok degrees] ∧
      repliesIn now.heard .cpu = [.error down]) ∧
    (shown.outside = .success degrees ∧ shown.outsideTemperature = some degrees ∧
      shown.cpu = .failed "Error: host answered 503: down" ∧ shown.cpuPercent = none) ∧
    (now.next (.done 3 (.replied 1 .outside (.error down)))).1.engine.telemetry = shown ∧
    (stopped.run [.done 6 (.replied 2 .processes (.ok [])), .kill 7]).engine.telemetry =
      stopped.engine.telemetry := by
  intro address target before degrees down during now shown stopped
  have ok : target.base = .ok (address 167772162) := by decide +kernel
  have same : ∀ move ∈ during, ¬ move.isTurn := by decide +kernel
  have outside : repliesIn now.heard .outside = [.ok degrees] := by decide +kernel
  have cpu : repliesIn now.heard .cpu = [.error down] := by decide +kernel
  have running : now.engine.isRunning = true := by decide +kernel
  have foreign : now.errands[3]? = some ⟨1, .fetch 1 .outside (address 167772163)⟩ := by
    decide +kernel
  have earlier : 1 ≠ now.runs := by decide +kernel
  obtain ⟨-, -, begins⟩ := (run_isolated before).2.1 target _ ok
  obtain ⟨known, -, -⟩ := begins during same
  obtain ⟨stops, -, late⟩ := run_isolated (before ++ .start target :: during)
  have here : ((({} : System).run before).next (.start target)).1.run during = now := rfl
  have past : ({} : System).run (before ++ .start target :: during) = now :=
    (run_append {} before _).trans (List.foldl_cons ..)
  rw [here] at known
  rw [past] at stops late
  -- what is said of the run is all that matters from here on
  clear_value now
  refine ⟨⟨ok, outside, cpu⟩, ?_, ?_, ?_⟩
  · rw [show shown = _ from known]
    simp only [Telemetry.ofNotes, Telemetry.ofReplies, outside, cpu]
    exact ⟨rfl, rfl, rfl, rfl⟩
  · exact (late 3 _ (.replied 1 .outside (.error down)) foreign earlier).1
  · exact (stops running _ (by simp [Move.begins])).1

end HostWatch.System
