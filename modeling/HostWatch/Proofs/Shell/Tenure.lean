import HostWatch.Proofs.History
import HostWatch.Proofs.Shell.Invariant

namespace HostWatch

def LinkEvent.isEnd : LinkEvent → Bool
  | .closed _ _ | .failed _ => true
  | _ => false

namespace Session

def Input.isClose : Input → Bool
  | .close => true
  | _ => false

theorem Input.isTurn_eq (i : Input) : i.isTurn = (i.isConnect || i.isClose) := by
  cases i <;> rfl

theorem Input.isConnect_of_isTurn {i : Input} (other : i.isTurn = false) : i.isConnect = false := by
  have split := i.isTurn_eq
  rw [other, eq_comm, Bool.or_eq_false_iff] at split
  exact split.1

def Input.reports (epoch : Nat) (kind : LinkEvent → Bool) : Input → Bool
  | .event e report => e = epoch && kind report
  | _ => false

theorem Input.reports_of_unheard {epoch : Nat} {i : Input} (unheard : ∀ e, i ≠ .event epoch e)
    (kind : LinkEvent → Bool) : i.reports epoch kind = false := by
  cases i with
  | event other report =>
    have other : other ≠ epoch := fun eq => unheard report (eq ▸ rfl)
    simp [Input.reports, other]
  | _ => rfl

theorem Input.reports_mono {epoch : Nat} {i : Input} {kind more : LinkEvent → Bool}
    (wider : ∀ e, kind e = true → more e = true) (silent : i.reports epoch more = false) :
    i.reports epoch kind = false := by
  cases i with
  | event other report =>
    simp only [Input.reports, Bool.and_eq_false_imp] at silent ⊢
    intro same
    cases told : kind report with
    | false => rfl
    | true => exact (wider report told).symm.trans (silent same)
  | _ => rfl

section Step

variable {s : Session}

theorem heard_current (h : s.Coherent) (e : LinkEvent) :
    (s.heard e).current = if e.isEnd then none else s.current := by
  have dropped : s.current.filter (· ≠ s.epoch) = none :=
    Option.filter_eq_none_iff.mpr fun n hn => by simp [h.current n hn]
  cases e with
  | opened => rfl
  | message raw =>
    by_cases blank : (Text.plain raw).isEmpty <;>
      simp [heard, blank, forward, write, LinkEvent.isEnd]
  | closed code reason => exact dropped
  | failed text => exact dropped

theorem heard_retired (s : Session) (e : LinkEvent) : (s.heard e).retired = s.retired := by
  cases e with
  | message raw => by_cases blank : (Text.plain raw).isEmpty <;> simp [heard, blank, forward, write]
  | _ => rfl

theorem heard_connection (s : Session) (e : LinkEvent) :
    (s.heard e).state.connection = e.status?.getD s.state.connection := by
  cases e with
  | message raw =>
    by_cases blank : (Text.plain raw).isEmpty <;>
      simp [heard, blank, forward, write, LinkEvent.status?]
  | _ => rfl

/-- A link in use stays in use unless the step is a turn or the end of that link. -/
theorem step_current (h : s.Coherent) (accepts : Nat → Bool) (i : Input) (epoch : Nat) :
    (s.step accepts i).2.1.current = some epoch ↔
      (i.isConnect = true ∧ epoch = s.epoch + 1) ∨
        s.current = some epoch ∧ i.isTurn = false ∧ i.reports epoch LinkEvent.isEnd = false := by
  have becomes := h.becomes accepts i
  generalize (s.step accepts i).2.1 = t at becomes
  cases becomes with
  | connected url => simp [reconnect, announce, Input.isConnect, Input.isTurn, eq_comm (a := epoch)]
  | closed => cases hc : s.current <;> simp [close, announce, hc, Input.isConnect, Input.isTurn]
  | submitted line =>
    obtain ⟨mark, eq⟩ := s.submit_marks accepts line
    simp [eq, write, Input.isConnect, Input.isTurn, Input.reports]
  | heard e =>
    have present (used : s.current = some epoch) : s.epoch = epoch := (h.current epoch used).symm
    rw [heard_current h]
    cases ended : e.isEnd <;> simp [Input.isConnect, Input.isTurn, Input.reports, ended]
    exact present
  | aside other unheard _ =>
    have ongoing : i.isConnect = false := Input.isConnect_of_isTurn other
    simp only [ongoing, other, Bool.false_eq_true, false_and, false_or, true_and, iff_self_and]
    intro used
    exact Input.reports_of_unheard (h.current epoch used ▸ unheard) _

/-- The link in use is retired when another takes its place, and a retired link is forgotten when it
reports that it has opened or ended. -/
theorem step_retired (h : s.Coherent) (accepts : Nat → Bool) (i : Input) :
    (s.step accepts i).2.1.retired = match i with
      | .reconnect _ => s.retired ++ s.current.toList
      | .event epoch e =>
        if e.status?.isSome then s.retired.filter (· ≠ epoch) else s.retired
      | _ => s.retired := by
  cases i with
  | submit line =>
    obtain ⟨mark, eq⟩ := s.submit_marks accepts line
    simp [Session.step, eq, write]
  | close => cases hc : s.current <;> simp [Session.step, close, announce, hc]
  | event epoch e =>
    by_cases current : s.epoch = epoch
    · subst current
      have earlier : s.retired.filter (· ≠ s.epoch) = s.retired :=
        List.filter_eq_self.mpr fun n hn => by simpa using Nat.ne_of_lt (h.retired n hn)
      simp only [Session.step, handle_current h, heard_retired, earlier, ite_self]
    · simp only [Session.step, handle_stale current]
      cases e with
      | opened =>
        by_cases late : epoch ∈ s.retired
        · simp [handleStale, late, LinkEvent.status?]
        · have absent : s.retired.filter (· ≠ epoch) = s.retired :=
            List.filter_eq_self.mpr fun n hn => by simpa using ne_of_mem_of_not_mem hn late
          simp only [handleStale, late, if_false, absent, ite_self]
      | _ => rfl
  | readStatus n =>
    simp only [Session.step, readStatus]
    cases s.statusFeeds[n]? <;> rfl
  | readMessages n =>
    simp only [Session.step, readMessages]
    cases s.messageFeeds[n]? <;> rfl
  | _ => rfl

theorem mem_step_retired (h : s.Coherent) (accepts : Nat → Bool) (i : Input) (epoch : Nat) :
    epoch ∈ (s.step accepts i).2.1.retired ↔
      (s.current = some epoch ∧ i.isConnect = true) ∨
        epoch ∈ s.retired ∧ i.reports epoch (·.status?.isSome) = false := by
  rw [step_retired h]
  cases i with
  | reconnect url => simp [Input.isConnect, Input.reports, or_comm]
  | event other e =>
    cases told : e.status?.isSome <;>
      simp [Input.isConnect, Input.reports, told, eq_comm (a := epoch)]
  | _ => simp [Input.isConnect, Input.reports]

theorem Coherent.writable_iff (h : s.Coherent) {epoch : Nat} :
    s.writable = some epoch ↔ s.current = some epoch ∧ s.state.connection = .opened := by
  rw [writable, Option.filter_eq_some_iff, h.published]
  exact and_congr_right fun used => by simp [h.current epoch used]

/-- Text can be written to the link in use from its report that it has opened until the next turn or
its end. -/
theorem step_writable (h : s.Coherent) (accepts : Nat → Bool) (i : Input) (epoch : Nat) :
    (s.step accepts i).2.1.writable = some epoch ↔
      (s.current = some epoch ∧ i.reports epoch (· = .opened) = true) ∨
        s.writable = some epoch ∧ i.isTurn = false ∧ i.reports epoch LinkEvent.isEnd = false := by
  have becomes := h.becomes accepts i
  have coherent := h.step accepts i
  rw [coherent.writable_iff, step_current h, h.writable_iff]
  generalize (s.step accepts i).2.1 = t at becomes
  cases becomes with
  | connected url => simp [reconnect, announce, Input.isTurn, Input.reports]
  | closed => simp [Input.isConnect, Input.isTurn, Input.reports]
  | submitted line =>
    obtain ⟨mark, eq⟩ := s.submit_marks accepts line
    simp [eq, write, Input.isConnect, Input.isTurn, Input.reports]
  | heard e =>
    rw [heard_connection]
    by_cases used : s.current = some epoch
    · have present : s.epoch = epoch := (h.current epoch used).symm
      cases e <;>
        simp [used, present, Input.isConnect, Input.isTurn, Input.reports, LinkEvent.status?,
          LinkEvent.isEnd]
    · simp [used, Input.isConnect]
  | aside other unheard _ =>
    have silent (used : s.current = some epoch) (kind : LinkEvent → Bool) :
        i.reports epoch kind = false :=
      Input.reports_of_unheard (h.current epoch used ▸ unheard) kind
    have ongoing : i.isConnect = false := Input.isConnect_of_isTurn other
    -- the link in use is that of the present epoch, which such a step does not report about
    by_cases used : s.current = some epoch
    · simp [used, silent used, ongoing, other]
    · simp [used, ongoing]

end Step

namespace Course

theorem run_append_singleton (c : Course) (ms : List Move) (m : Move) :
    c.run (ms ++ [m]) = (c.run ms).next m := c.run_append ms [m]

theorem coherent_run (ms : List Move) : (({} : Course).run ms).session.Coherent :=
  (run_sound sound_initial ms).toCoherent

theorem epoch_run (ms : List Move) : (({} : Course).run ms).session.epoch = turns ms := by
  simpa using run_epoch (c := {}) coherent_initial ms

/-- The link of an epoch was opened, and no turn and no end of it has come since. -/
def InUse (epoch : Nat) : List Move → Prop :=
  Since (fun past m => m.input.isConnect = true ∧ epoch = turns past + 1)
    fun _ m => m.input.isTurn = false ∧ m.input.reports epoch LinkEvent.isEnd = false

/-- The link in use has reported that it opened, and no turn and no end of it has come since. -/
def IsOpen (epoch : Nat) : List Move → Prop :=
  Since (fun past m => InUse epoch past ∧ m.input.reports epoch (· = .opened) = true)
    fun _ m => m.input.isTurn = false ∧ m.input.reports epoch LinkEvent.isEnd = false

/-- Another link has taken the place of the one in use, which has not reported since that it opened
or ended. -/
def Retired (epoch : Nat) : List Move → Prop :=
  Since (fun past m => InUse epoch past ∧ m.input.isConnect = true)
    fun _ m => m.input.reports epoch (·.status?.isSome) = false

variable {epoch : Nat}

theorem current_iff_inUse {ms : List Move} :
    (({} : Course).run ms).session.current = some epoch ↔ InUse epoch ms := by
  -- from the end of the run: what one more move does is what `Since` says of one more move
  induction ms using List.reverseRecOn with
  | nil => simp [InUse, run]
  | append_singleton ms m ih =>
    rw [run_append_singleton, InUse, since_append_singleton, ← InUse, ← ih, ← epoch_run]
    exact step_current (coherent_run ms) _ _ _

theorem writable_iff_isOpen {ms : List Move} :
    (({} : Course).run ms).session.writable = some epoch ↔ IsOpen epoch ms := by
  induction ms using List.reverseRecOn with
  | nil => simp [IsOpen, run, writable]
  | append_singleton ms m ih =>
    rw [run_append_singleton, IsOpen, since_append_singleton, ← IsOpen, ← ih, ← current_iff_inUse]
    exact step_writable (coherent_run ms) _ _ _

theorem mem_retired_iff {ms : List Move} :
    epoch ∈ (({} : Course).run ms).session.retired ↔ Retired epoch ms := by
  induction ms using List.reverseRecOn with
  | nil => simp [Retired, run]
  | append_singleton ms m ih =>
    rw [run_append_singleton, Retired, since_append_singleton, ← Retired, ← ih,
      ← current_iff_inUse]
    exact mem_step_retired (coherent_run ms) _ _ _

end Course

end Session

end HostWatch
