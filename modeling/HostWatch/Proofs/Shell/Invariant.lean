import HostWatch.Proofs.Shell.Deeds

namespace HostWatch

def Connection.isLive : Connection → Bool
  | .connecting | .opened => true
  | .closed _ _ | .failed _ => false

def SessionAct.attempt? : SessionAct → Option Nat
  | .open epoch _ => some epoch
  | _ => none

namespace Session

def Input.isConnect : Input → Bool
  | .reconnect _ => true
  | _ => false

theorem Input.isTurn_of_isConnect {i : Input} (connect : i.isConnect = true) : i.isTurn = true := by
  cases i with
  | reconnect url => rfl
  | _ => cases connect

variable {s t : Session}

/-- The epoch, the published state and the link in use fit together. -/
structure Sound (s : Session) : Prop extends s.Coherent where
  used : s.current.isSome → s.state.connection.isLive
  clear : s.state.connection.isLive → s.state.error = none
  failed : ∀ text, s.state.connection = .failed text → s.state.error = some text
  awaited : s.state.awaiting → s.state.connection = .opened ∧ s.current.isSome

theorem sound_initial : Sound {} where
  toCoherent := coherent_initial
  used := by simp
  clear _ := rfl
  failed := by simp
  awaited := by simp

theorem Sound.keep (h : s.Sound) (coherent : t.Coherent)
    (connection : t.state.connection = s.state.connection) (error : t.state.error = s.state.error)
    (current : t.current = s.current) (awaiting : t.state.awaiting → s.state.awaiting) :
    t.Sound where
  toCoherent := coherent
  used := by rw [current, connection]; exact h.used
  clear := by rw [connection, error]; exact h.clear
  failed := by rw [connection, error]; exact h.failed
  awaited mark := by rw [connection, current]; exact h.awaited (awaiting mark)

theorem Coherent.sound_of_ended (h : s.Coherent) (current : s.current = none)
    (awaiting : s.state.awaiting = false) (ended : s.state.connection.isLive = false)
    (failed : ∀ text, s.state.connection = .failed text → s.state.error = some text) :
    s.Sound where
  toCoherent := h
  used used := by simp [current] at used
  clear live := by simp [ended] at live
  failed := failed
  awaited mark := by simp [awaiting] at mark

theorem Sound.reconnect (h : s.Sound) (url : Address.Url) : (s.reconnect url).1.Sound where
  toCoherent := h.toCoherent.reconnect url
  used _ := rfl
  clear _ := rfl
  failed text eq := by cases eq
  awaited mark := by cases mark

theorem Sound.close (h : s.Sound) : s.close.1.Sound := by
  have coherent := h.toCoherent.close
  revert coherent
  unfold Session.close
  cases hc : s.current with
  | none => exact fun coherent => h.keep coherent rfl rfl (by simp [hc]) id
  | some old => exact fun coherent => coherent.sound_of_ended rfl rfl rfl (by simp [announce])

theorem Sound.submit (h : s.Sound) (accepts : Nat → Bool) (line : String) :
    (s.submit accepts line).2.1.Sound := by
  rw [h.submit_eq]
  by_cases blank : (Text.trim line).isEmpty
  · simpa only [blank, ↓reduceIte] using h
  by_cases opened : s.state.connection = .opened
  · simp only [blank, opened, Bool.false_eq_true, ↓reduceIte]
    cases taken : s.current.filter accepts with
    | none => exact h.keep (h.marked false) rfl rfl rfl (by simp [write])
    | some e =>
      have used : s.current.isSome :=
        Option.isSome_of_mem (Option.mem_filter_iff.mp taken).1
      exact ⟨h.marked true, h.used, h.clear, h.failed, fun _ => ⟨opened, used⟩⟩
  · simpa only [blank, opened, Bool.false_eq_true, ↓reduceIte] using h

theorem Sound.heard (h : s.Sound) (e : LinkEvent) : (s.heard e).Sound := by
  have coherent := h.toCoherent.heard e
  have dropped : s.current.filter (· ≠ s.epoch) = none :=
    Option.filter_eq_none_iff.mpr fun n hn => by simp [h.current n hn]
  cases e with
  | opened =>
    exact ⟨coherent, fun _ => rfl, fun _ => rfl, by simp [Session.heard, announce, write],
      fun mark => ⟨rfl, (h.awaited mark).2⟩⟩
  | message raw =>
    revert coherent
    by_cases blank : (Text.plain raw).isEmpty
    · simp only [Session.heard, blank, ↓reduceIte]
      exact fun coherent => h.keep coherent rfl rfl rfl id
    · simp only [Session.heard, blank, Bool.false_eq_true, ↓reduceIte]
      exact fun coherent => h.keep coherent rfl rfl rfl (by simp [forward, write])
  -- the link in use can only be that of the present epoch, so dropping it leaves none
  | closed code reason =>
    exact coherent.sound_of_ended dropped rfl rfl
      (by simp [Session.heard, announce, dropCurrent, write])
  | failed text =>
    exact coherent.sound_of_ended dropped rfl rfl
      (by simp [Session.heard, announce, dropCurrent, write])

theorem Sound.step (h : s.Sound) (accepts : Nat → Bool) (i : Input) :
    (s.step accepts i).2.1.Sound := by
  have coherent := h.toCoherent.step accepts i
  have becomes := h.toCoherent.becomes accepts i
  generalize (s.step accepts i).2.1 = t at coherent becomes
  cases becomes with
  | connected url => exact h.reconnect url
  | closed => exact h.close
  | submitted line => exact h.submit accepts line
  | heard e => exact h.heard e
  | aside other unheard fewer => exact h.keep coherent rfl rfl rfl id

/-- Only a call to connect begins an attempt, and it does so under the next epoch. -/
theorem step_attempts (h : s.Coherent) (accepts : Nat → Bool) (i : Input) :
    (s.step accepts i).2.2.filterMap SessionAct.attempt? =
      if i.isConnect then [s.epoch + 1] else [] := by
  have does := h.does accepts i
  generalize (s.step accepts i).2.2 = acts at does ⊢
  cases does with
  | connected url => cases s.current <;> rfl
  | closed used => rfl
  | wrote silent call taken =>
    have other : ¬ i.isConnect = true := fun connect =>
      Bool.false_ne_true <|
        (Input.isTurn_of_text call).symm.trans (Input.isTurn_of_isConnect connect)
    rw [List.filterMap_append, filterMap_of_silent rfl silent, if_neg other]
    rfl
  | superseded late => rfl
  | quiet silent stays _ _ =>
    have other : ¬ i.isConnect = true := by
      intro connect
      rw [(stays (Input.isTurn_of_isConnect connect)).1] at connect
      cases connect
    rw [filterMap_of_silent rfl silent, if_neg other]

def shellUrl : Address.Url :=
  { scheme := "ws", authority := some { host := .name "pi", port := some 3000 },
    path := "/terminal/ws" }

def Move.accepted (i : Input) : Move := ⟨fun _ _ => true, i⟩

namespace Course

theorem run_append (c : Course) (ms later : List Move) :
    c.run (ms ++ later) = (c.run ms).run later := List.foldl_append

theorem run_sound {c : Course} (h : c.session.Sound) (ms : List Move) :
    (c.run ms).session.Sound := by
  induction ms generalizing c with
  | nil => exact h
  | cons m ms ih => exact ih (h.step _ _)

def turns (ms : List Move) : Nat := ms.countP (·.input.isTurn)

theorem run_epoch {c : Course} (h : c.session.Coherent) (ms : List Move) :
    (c.run ms).session.epoch = c.session.epoch + turns ms := by
  induction ms generalizing c with
  | nil => rfl
  | cons m ms ih =>
    have first : (c.next m).session.epoch = _ := step_epoch h _ _
    rw [run_cons, ih (h.step _ _), first, turns, turns, List.countP_cons]
    omega

def attempts (c : Course) : List Nat := c.log.filterMap SessionAct.attempt?

theorem attempts_next {c : Course} (h : c.session.Coherent) (m : Move) :
    (c.next m).attempts =
      c.attempts ++ if m.input.isConnect then [c.session.epoch + 1] else [] := by
  have added : (c.answer m).2.2.filterMap SessionAct.attempt? = _ := step_attempts h _ _
  rw [attempts, attempts, next, List.filterMap_append, added]

theorem attempts_length {c : Course} (h : c.session.Coherent) (ms : List Move) :
    (c.run ms).attempts.length = c.attempts.length + ms.countP (·.input.isConnect) := by
  induction ms generalizing c with
  | nil => rfl
  | cons m ms ih =>
    rw [run_cons, ih (h.step _ _), attempts_next h, List.length_append, List.countP_cons]
    cases m.input.isConnect <;> simp
    omega

/-- Every attempt has a greater epoch than the one before it. -/
structure Numbered (c : Course) : Prop where
  increasing : c.attempts.Pairwise (· < ·)
  bounded : ∀ e ∈ c.attempts, e ≤ c.session.epoch

theorem Numbered.next {c : Course} (n : c.Numbered) (h : c.session.Coherent) (m : Move) :
    (c.next m).Numbered := by
  have epoch : (c.next m).session.epoch = _ := step_epoch h _ _
  -- a move that only closes takes an epoch too, so the attempts may leave epochs out
  cases connect : m.input.isConnect with
  | false =>
    have same : (c.next m).attempts = c.attempts := by simp [attempts_next h, connect]
    refine ⟨same ▸ n.increasing, fun e he => ?_⟩
    have := n.bounded e (same ▸ he)
    omega
  | true =>
    have turn : m.input.isTurn = true := Input.isTurn_of_isConnect connect
    have more : (c.next m).attempts = c.attempts ++ [c.session.epoch + 1] := by
      simp [attempts_next h, connect]
    rw [turn, if_pos rfl] at epoch
    constructor
    · rw [more]
      refine List.pairwise_append.mpr ⟨n.increasing, List.pairwise_singleton _ _, ?_⟩
      intro e he later hl
      have := n.bounded e he
      have := List.mem_singleton.mp hl
      omega
    · intro e he
      rw [more] at he
      rcases List.mem_append.mp he with he | he
      · have := n.bounded e he
        omega
      · have := List.mem_singleton.mp he
        omega

theorem Numbered.run {c : Course} (n : c.Numbered) (h : c.session.Coherent) (ms : List Move) :
    (c.run ms).Numbered := by
  induction ms generalizing c with
  | nil => exact n
  | cons m ms ih => exact ih (n.next h m) (h.step _ _)

theorem numbered_run (ms : List Move) : (({} : Course).run ms).Numbered :=
  Numbered.run ⟨List.Pairwise.nil, by simp [attempts]⟩ coherent_initial ms

/-- In every state that can be reached the parts of a session agree, and its epoch counts the calls
that connect or close. -/
theorem reachable_consistent (ms : List Move) :
    let c := ({} : Course).run ms
    let s := c.session
    s.state.epoch = s.epoch ∧ s.epoch = turns ms ∧
      c.attempts.length = ms.countP (·.input.isConnect) ∧ c.attempts.Pairwise (· < ·) ∧
      (∀ e ∈ c.attempts, e ≤ s.epoch) ∧
      (∀ e < s.epoch, ∀ during : List Move,
        (c.run during).session.epoch ≠ e ∧ e ∉ (c.run during).session.current) ∧
      (∀ e ∈ s.current, e = s.epoch ∧
        (s.state.connection = .connecting ∨ s.state.connection = .opened) ∧
        s.state.error = none) ∧
      (s.state.awaiting = true →
        s.state.connection = .opened ∧ s.state.error = none ∧ s.current.isSome) := by
  intro c s
  have sound : s.Sound := run_sound sound_initial ms
  have numbered : c.Numbered := numbered_run ms
  have live (used : s.current.isSome) :
      s.state.connection = .connecting ∨ s.state.connection = .opened := by
    have := sound.used used
    cases hc : s.state.connection <;> simp_all [Connection.isLive]
  refine ⟨sound.published, ?_, ?_, numbered.increasing, numbered.bounded, ?_, ?_, ?_⟩
  · simpa using run_epoch (c := {}) coherent_initial ms
  · simpa [attempts] using attempts_length (c := {}) coherent_initial ms
  -- epochs only grow from here, and a link in use always carries the epoch of its time
  · intro e past during
    have later : (c.run during).session.epoch = s.epoch + turns during :=
      run_epoch sound.toCoherent during
    refine ⟨by omega, fun used => ?_⟩
    have := (run_sound sound during).current e used
    omega
  · intro e he
    have used : s.current.isSome := Option.isSome_of_mem he
    exact ⟨sound.current e he, live used, sound.clear (sound.used used)⟩
  · intro mark
    obtain ⟨opened, used⟩ := sound.awaited mark
    exact ⟨opened, sound.clear (sound.used used), used⟩

theorem consistent_while_awaiting :
    let ms : List Move := [.accepted (.reconnect shellUrl), .accepted (.event 1 .opened),
      .accepted (.submit "ls")]
    let c := ({} : Course).run ms
    (c.session.state.awaiting = true ∧ c.session.state.connection = .opened ∧
      c.session.state.error = none ∧ c.session.current.isSome) ∧
      0 < c.session.epoch ∧ (c.run ms).session.epoch ≠ 0 := by
  intro ms c
  obtain ⟨-, -, -, -, -, past, -, awaited⟩ := reachable_consistent ms
  have mark : c.session.state.awaiting = true := by decide
  have begun : 0 < c.session.epoch := by decide
  exact ⟨⟨mark, awaited mark⟩, begun, (past 0 begun ms).1⟩

end Course

end Session

end HostWatch
