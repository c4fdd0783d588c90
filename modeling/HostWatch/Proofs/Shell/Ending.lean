import HostWatch.Proofs.Shell.Invariant

namespace HostWatch

def ShellState.standing (t : ShellState) : Connection × Option String := (t.connection, t.error)

namespace Session

/-- Whether an input is a report of the present attempt that brings another status than the one
shown. -/
def Input.overturns (s : Session) : Input → Bool
  | .event epoch e => s.epoch = epoch && e.status?.any (· ≠ s.state.connection)
  | _ => false

variable {s : Session}

section Step

theorem overturns_of_unheard {i : Input} (unheard : ∀ e, i ≠ .event s.epoch e) :
    i.overturns s = false := by
  cases i with
  | event epoch e =>
    have other : s.epoch ≠ epoch := fun eq => unheard e (eq ▸ rfl)
    simp [Input.overturns, other]
  | _ => rfl

theorem Sound.heard_standing_iff (h : s.Sound) (ended : s.state.connection.isLive = false)
    (e : LinkEvent) :
    (s.heard e).state.standing = s.state.standing ↔ ∀ c ∈ e.status?, c = s.state.connection := by
  cases e with
  | opened =>
    have other : Connection.opened ≠ s.state.connection := by
      intro eq
      simp [← eq, Connection.isLive] at ended
    simp [Session.heard, announce, write, ShellState.standing, LinkEvent.status?, other]
  | message raw =>
    by_cases blank : (Text.plain raw).isEmpty <;>
      simp [Session.heard, blank, forward, write, ShellState.standing, LinkEvent.status?]
  | closed code reason =>
    simp [Session.heard, announce, dropCurrent, write, ShellState.standing, LinkEvent.status?]
  | failed text =>
    simp only [Session.heard, announce, dropCurrent, write, ShellState.standing, LinkEvent.status?,
      Prod.mk.injEq, Option.mem_some_iff, forall_eq']
    exact ⟨fun same => same.1, fun same => ⟨same, (h.failed text same.symm).symm⟩⟩

/-- Until the next call to connect an end is kept by every step but the report of another status. -/
theorem Sound.step_standing_iff (h : s.Sound) (ended : s.state.connection.isLive = false)
    (accepts : Nat → Bool) {i : Input} (other : i.isConnect = false) :
    (s.step accepts i).2.1.state.standing = s.state.standing ↔ i.overturns s = false := by
  have unused : s.current = none := by
    cases hc : s.current with
    | none => rfl
    | some e => simpa [hc, ended] using h.used
  have becomes := h.toCoherent.becomes accepts i
  generalize (s.step accepts i).2.1 = t at becomes
  cases becomes with
  | connected url => cases other
  | closed => simp [Session.close, unused, ShellState.standing, Input.overturns]
  | submitted line =>
    obtain ⟨mark, eq⟩ := s.submit_marks accepts line
    simp [eq, write, ShellState.standing, Input.overturns]
  | heard e =>
    rw [h.heard_standing_iff ended e, Input.overturns]
    cases e.status? <;> simp
  | aside _ unheard _ => exact iff_of_true rfl (overturns_of_unheard unheard)

end Step

namespace Course

variable {c : Course}

theorem standing_kept_iff (h : c.session.Sound) (ended : c.session.state.connection.isLive = false)
    {ms : List Move} (others : ∀ m ∈ ms, m.input.isConnect = false) :
    (∀ n, (c.run (ms.take n)).session.state.standing = c.session.state.standing) ↔
      ∀ n (m : Move), ms[n]? = some m → m.input.overturns (c.run (ms.take n)).session = false := by
  -- as long as no move overturns the end, the next one meets the same end
  induction ms generalizing c with
  | nil => simp [run]
  | cons m ms ih =>
    have first : (c.next m).session.state.standing = c.session.state.standing ↔
        m.input.overturns c.session = false :=
      h.step_standing_iff ended _ (others m List.mem_cons_self)
    by_cases quiet : m.input.overturns c.session = false
    · have same := first.mpr quiet
      have ended' : (c.next m).session.state.connection.isLive = false := by
        rwa [show (c.next m).session.state.connection = _ from congrArg Prod.fst same]
      have later := ih (h.step _ _) ended' fun m' mem => others m' (List.mem_cons_of_mem m mem)
      rw [same] at later
      constructor
      · intro kept n m' at_n
        cases n with
        | zero => rwa [← Option.some.inj at_n]
        | succ n => exact later.mp (fun k => kept (k + 1)) n m' at_n
      · intro silent n
        cases n with
        | zero => rfl
        | succ n => exact later.mpr (fun k m' at_k => silent (k + 1) m' at_k) n
    · exact iff_of_false (fun kept => quiet (first.mp (kept 1)))
        fun silent => quiet (silent 0 m rfl)

/-- An end is kept until the next call to connect exactly as long as the present attempt brings no
other status; one that the session has brought about itself is always kept. -/
theorem end_kept_iff (before during : List Move) :
    let c := ({} : Course).run before
    c.session.state.connection.isLive = false → (∀ m ∈ during, m.input.isConnect = false) →
      let kept : Prop :=
        ∀ n, (c.run (during.take n)).session.state.standing = c.session.state.standing
      (kept ↔ ∀ n (m : Move), during[n]? = some m →
        m.input.overturns (c.run (during.take n)).session = false) ∧
      (c.session.epoch ∉ c.attempts →
        (∀ m ∈ during, ∀ epoch e, m.input = .event epoch e → epoch ∈ c.attempts) → kept) := by
  intro c ended others kept
  have sound : c.session.Sound := run_sound sound_initial before
  have kept_iff := standing_kept_iff sound ended others
  refine ⟨kept_iff, fun own known => kept_iff.mpr fun n m at_n => ?_⟩
  have numbered : c.Numbered := numbered_run before
  cases hi : m.input with
  | event epoch e =>
    -- an epoch without an attempt was taken by a close: all attempts lie below it, and so below
    -- every later epoch
    have attempt : epoch ∈ c.attempts := known m (List.mem_of_getElem? at_n) epoch e hi
    have past : epoch ≠ c.session.epoch := fun eq => own (eq ▸ attempt)
    have later : (c.run (during.take n)).session.epoch = c.session.epoch + _ :=
      run_epoch sound.toCoherent _
    have bound := numbered.bounded epoch attempt
    refine overturns_of_unheard fun e' same => ?_
    have := (Input.event.inj same).1
    omega
  | _ => rfl

theorem closed_session_stays_closed :
    let c := ({} : Course).run [.accepted (.reconnect shellUrl), .accepted (.event 1 .opened),
      .accepted .close]
    let during : List Move := [.accepted (.event 1 (.failed "reset")), .accepted (.event 1 .opened)]
    c.session.state.standing = (.closed 1000 "Normal closure", none) ∧
      ∀ n, (c.run (during.take n)).session.state.standing = c.session.state.standing := by
  intro c during
  have others : ∀ m ∈ during, m.input.isConnect = false := by decide
  have known : ∀ m ∈ during, ∀ epoch e, m.input = .event epoch e → epoch ∈ c.attempts := by
    simp [during, Move.accepted, show c.attempts = [1] from rfl]
  exact ⟨rfl, (end_kept_iff _ during rfl others).2 (by decide) known⟩

/-- An attempt that has failed and then reports that it opened is shown as open, with no error. -/
theorem failed_attempt_reopens :
    let c := ({} : Course).run [.accepted (.reconnect shellUrl),
      .accepted (.event 1 (.failed "connection refused"))]
    c.session.state.standing = (.failed "connection refused", some "connection refused") ∧
      (c.run [.accepted (.event 1 .opened)]).session.state.standing = (.opened, none) := by
  decide

end Course

end Session

end HostWatch
