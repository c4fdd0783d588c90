import HostWatch.Shell.Session
import Mathlib.Data.List.Basic

namespace HostWatch

def SessionAct.isTo (epoch : Nat) : SessionAct → Bool
  | .publish => false
  | .open e _ | .write e _ | .close e _ _ => e = epoch

/-- Whether an act closes a link because it opened only after it was replaced. -/
def SessionAct.isSupersession : SessionAct → Bool
  | .close _ code reason => code = Session.normalClosure && reason = "superseded"
  | _ => false

def LinkEvent.status? : LinkEvent → Option Connection
  | .opened => some .opened
  | .message _ => none
  | .closed code reason => some (.closed code reason)
  | .failed text => some (.failed text)

namespace Session

def announced (s : Session) : Input → List Connection
  | .reconnect _ => [.connecting]
  | .close => if s.current.isSome then [.closed normalClosure closeReason] else []
  | .event epoch e => if s.epoch = epoch then e.status?.toList else []
  | _ => []

def delivered (s : Session) : Input → List String
  | .event epoch (.message raw) => if s.epoch = epoch then [raw] else []
  | _ => []

/-- The parts of a session that were stored apart fit together. -/
structure Coherent (s : Session) : Prop where
  published : s.state.epoch = s.epoch
  current : ∀ e ∈ s.current, e = s.epoch
  retired : ∀ e ∈ s.retired, e < s.epoch

theorem coherent_initial : Coherent {} := ⟨rfl, by simp, by simp⟩

theorem Coherent.mono {s t : Session} (h : s.Coherent) (epoch : t.epoch = s.epoch)
    (published : t.state.epoch = s.state.epoch) (current : ∀ e ∈ t.current, e ∈ s.current)
    (retired : ∀ e ∈ t.retired, e ∈ s.retired) : t.Coherent where
  published := by rw [published, epoch, h.published]
  current e he := by rw [epoch]; exact h.current e (current e he)
  retired e he := by rw [epoch]; exact h.retired e (retired e he)

theorem Coherent.reconnect {s : Session} (h : s.Coherent) (url : Address.Url) :
    (s.reconnect url).1.Coherent := by
  refine ⟨rfl, by simp [Session.reconnect, announce], ?_⟩
  intro e he
  simp only [Session.reconnect, announce, List.mem_append, Option.mem_toList] at he ⊢
  rcases he with he | he
  · exact Nat.lt_succ_of_lt (h.retired e he)
  · exact Nat.lt_succ_of_le (Nat.le_of_eq (h.current e he))

theorem Coherent.close {s : Session} (h : s.Coherent) : s.close.1.Coherent := by
  have retired : ∀ e ∈ s.retired, e < s.epoch + 1 :=
    fun e he => Nat.lt_succ_of_lt (h.retired e he)
  unfold Session.close
  split
  next hc => exact ⟨rfl, by simp [hc], retired⟩
  next => exact ⟨rfl, by simp [announce], retired⟩

theorem Coherent.marked {s : Session} (h : s.Coherent) (mark : Bool) :
    (s.write ({ · with awaiting := mark })).Coherent := ⟨h.published, h.current, h.retired⟩

/-- All that a submitted line can change in a session is the mark that an answer is awaited. -/
theorem submit_marks (s : Session) (accepts : Nat → Bool) (line : String) :
    ∃ mark, (s.submit accepts line).2.1 = s.write ({ · with awaiting := mark }) := by
  unfold Session.submit
  by_cases blank : (Text.trim line).isEmpty
  · exact ⟨s.state.awaiting, by simp [blank, write]⟩
  by_cases ready : s.state.epoch = s.epoch ∧ s.state.connection = .opened
  · simp only [blank, ready, and_self, Bool.false_eq_true, ↓reduceIte]
    cases (s.write ({ · with awaiting := true })).send accepts (Text.trim line ++ "\n") with
    | mk written acts =>
      cases written
      · exact ⟨false, rfl⟩
      · exact ⟨true, rfl⟩
  · exact ⟨s.state.awaiting, by simp [blank, ready, write]⟩

/-- What the session becomes when the link in use reports something. -/
def heard (s : Session) : LinkEvent → Session
  | .opened => announce .opened (s.write ({ · with connection := .opened, error := none }))
  | .message raw =>
    if (Text.plain raw).isEmpty then s.forward raw
    else forward raw (s.write fun t =>
      { t with transcript := t.transcript ++ Text.plain raw, awaiting := false })
  | .closed code reason =>
    announce (.closed code reason) (dropCurrent s.epoch
      (s.write ({ · with connection := .closed code reason, awaiting := false })))
  | .failed text =>
    announce (.failed text) (dropCurrent s.epoch
      (s.write ({ · with connection := .failed text, error := some text, awaiting := false })))

def isTold : LinkEvent → Bool
  | .message raw => !(Text.plain raw).isEmpty
  | _ => true

theorem handle_current {s : Session} (h : s.Coherent) (e : LinkEvent) :
    s.handle s.epoch e = (s.heard e, if isTold e then [.publish] else []) := by
  cases e with
  | message raw =>
    by_cases blank : (Text.plain raw).isEmpty <;>
      simp [handle, handleCurrent, heard, isTold, h.published, blank]
  | opened => simp [handle, handleCurrent, heard, isTold, h.published]
  | closed code reason => simp [handle, handleCurrent, heard, isTold, h.published]
  | failed text => simp [handle, handleCurrent, heard, isTold, h.published]

theorem handle_stale {s : Session} {epoch : Nat} (h : s.epoch ≠ epoch) (e : LinkEvent) :
    s.handle epoch e = s.handleStale epoch e := by simp [handle, h]

theorem Coherent.heard {s : Session} (h : s.Coherent) (e : LinkEvent) : (s.heard e).Coherent := by
  have fewer : ∀ n ∈ s.current.filter (· ≠ s.epoch), n ∈ s.current :=
    fun n hn => (Option.mem_filter_iff.mp hn).1
  cases e with
  | opened => exact h.mono rfl rfl (fun _ hn => hn) (fun _ hn => hn)
  | message raw =>
    by_cases blank : (Text.plain raw).isEmpty
    · simp only [Session.heard, blank, ↓reduceIte]
      exact h.mono rfl rfl (fun _ hn => hn) (fun _ hn => hn)
    · simp only [Session.heard, blank, Bool.false_eq_true, ↓reduceIte]
      exact h.mono rfl rfl (fun _ hn => hn) (fun _ hn => hn)
  | closed code reason => exact h.mono rfl rfl fewer (fun _ hn => hn)
  | failed text => exact h.mono rfl rfl fewer (fun _ hn => hn)

/-- What a link of another epoch reports changes nothing but which links are still retired. -/
theorem handleStale_retired (s : Session) (epoch : Nat) (e : LinkEvent) :
    ∃ kept, (s.handleStale epoch e).1 = { s with retired := kept } ∧
      ∀ n ∈ kept, n ∈ s.retired := by
  have fewer : ∀ n ∈ s.retired.filter (· ≠ epoch), n ∈ s.retired :=
    fun n hn => (List.mem_filter.mp hn).1
  cases e with
  | opened =>
    by_cases known : epoch ∈ s.retired
    · exact ⟨s.retired.filter (· ≠ epoch), by simp [handleStale, known], fewer⟩
    · exact ⟨s.retired, by simp [handleStale, known], fun _ hn => hn⟩
  | message raw => exact ⟨s.retired, rfl, fun _ hn => hn⟩
  | closed code reason => exact ⟨_, rfl, fewer⟩
  | failed text => exact ⟨_, rfl, fewer⟩

def Input.isTurn : Input → Bool
  | .reconnect _ | .close => true
  | _ => false

/-- What a step makes of a session, one case for all that leave its parts alone. -/
inductive Becomes (s : Session) (accepts : Nat → Bool) : Input → Session → Prop
  | connected (url : Address.Url) : Becomes s accepts (.reconnect url) (s.reconnect url).1
  | closed : Becomes s accepts .close s.close.1
  | submitted (line : String) : Becomes s accepts (.submit line) (s.submit accepts line).2.1
  | heard (e : LinkEvent) : Becomes s accepts (.event s.epoch e) (s.heard e)
  | aside {i : Input} {retired : List Nat} {status : List (LimitedFeed Connection)}
      {messages : List (LosslessFeed String)} (other : i.isTurn = false)
      (unheard : ∀ e, i ≠ .event s.epoch e) (fewer : ∀ n ∈ retired, n ∈ s.retired) :
      Becomes s accepts i { s with retired, statusFeeds := status, messageFeeds := messages }

theorem Coherent.becomes {s : Session} (h : s.Coherent) (accepts : Nat → Bool) (i : Input) :
    s.Becomes accepts i (s.step accepts i).2.1 := by
  cases i with
  | reconnect url => exact .connected url
  | close => exact .closed
  | submit line =>
    simp only [Session.step]
    exact .submitted line
  | event epoch e =>
    -- the epoch alone decides which of the two handlers a report reaches
    by_cases current : s.epoch = epoch
    · subst current
      simp only [Session.step, handle_current h]
      exact .heard e
    · obtain ⟨kept, eq, fewer⟩ := s.handleStale_retired epoch e
      simp only [Session.step, handle_stale current, eq]
      exact .aside rfl (by simp [Ne.symm current]) fewer
  | readStatus n =>
    simp only [Session.step, readStatus]
    cases s.statusFeeds[n]? <;> exact .aside rfl (by simp) fun _ hn => hn
  | readMessages n =>
    simp only [Session.step, readMessages]
    cases s.messageFeeds[n]? <;> exact .aside rfl (by simp) fun _ hn => hn
  | _ => exact .aside rfl (by simp) fun _ hn => hn

theorem Coherent.step {s : Session} (h : s.Coherent) (accepts : Nat → Bool) (i : Input) :
    (s.step accepts i).2.1.Coherent := by
  have becomes := h.becomes accepts i
  generalize (s.step accepts i).2.1 = t at becomes
  cases becomes with
  | connected url => exact h.reconnect url
  | closed => exact h.close
  | submitted line =>
    obtain ⟨mark, eq⟩ := s.submit_marks accepts line
    rw [eq]
    exact h.marked mark
  | heard e => exact h.heard e
  | aside other unheard fewer => exact h.mono rfl rfl (fun _ hn => hn) fewer

theorem heard_epoch (s : Session) (e : LinkEvent) : (s.heard e).epoch = s.epoch := by
  cases e with
  | message raw => by_cases blank : (Text.plain raw).isEmpty <;> simp [heard, blank, forward, write]
  | _ => rfl

theorem step_epoch {s : Session} (h : s.Coherent) (accepts : Nat → Bool) (i : Input) :
    (s.step accepts i).2.1.epoch = s.epoch + if i.isTurn then 1 else 0 := by
  have becomes := h.becomes accepts i
  generalize (s.step accepts i).2.1 = t at becomes
  cases becomes with
  | connected url => rfl
  | closed => cases hc : s.current <;> simp [Session.close, announce, hc, Input.isTurn]
  | submitted line =>
    obtain ⟨mark, eq⟩ := s.submit_marks accepts line
    simp [eq, write, Input.isTurn]
  | heard e => simp [heard_epoch, Input.isTurn]
  | aside other unheard fewer => simp [other]

theorem step_statusFeeds {s : Session} (h : s.Coherent) (accepts : Nat → Bool) (i : Input) :
    (s.step accepts i).2.1.statusFeeds = match i with
      | .subscribeStatus => s.statusFeeds ++ [{}]
      | .readStatus n => s.statusFeeds.modify n fun _ => {}
      | i =>
        s.statusFeeds.map fun f =>
          (s.announced i).foldl (fun f c => f.push statusLimit c) f := by
  cases i with
  | reconnect url => rfl
  | submit line =>
    obtain ⟨mark, eq⟩ := s.submit_marks accepts line
    simp [Session.step, eq, write, announced]
  | close =>
    cases hc : s.current <;> simp [Session.step, Session.close, announced, announce, hc]
  | event epoch e =>
    by_cases current : s.epoch = epoch
    · subst current
      simp only [Session.step, handle_current h]
      cases e with
      | message raw =>
        by_cases blank : (Text.plain raw).isEmpty <;>
          simp [heard, blank, announced, LinkEvent.status?, forward, write]
      | opened => simp [heard, announced, LinkEvent.status?, announce, write]
      | closed code reason =>
        simp [heard, announced, LinkEvent.status?, announce, dropCurrent, write]
      | failed text => simp [heard, announced, LinkEvent.status?, announce, dropCurrent, write]
    · obtain ⟨kept, eq, -⟩ := s.handleStale_retired epoch e
      simp [Session.step, handle_stale current, eq, announced, current]
  | readStatus n =>
    simp only [Session.step, readStatus]
    cases hf : s.statusFeeds[n]? with
    | none => simp [List.modify_eq_set_getElem?, hf]
    | some f => simp [List.modify_eq_set_getElem?, hf, LimitedFeed.drain]
  | readMessages n =>
    simp only [Session.step, readMessages]
    cases s.messageFeeds[n]? <;> simp [announced]
  | subscribeStatus => rfl
  | subscribeMessages => simp [Session.step, subscribeMessages, announced]
  | leaveMessages n => simp [Session.step, leaveMessages, announced]
  | send text => simp [Session.step, announced]
  | interrupt => simp [Session.step, announced]
  | backspace => simp [Session.step, announced]

theorem step_messageFeeds {s : Session} (h : s.Coherent) (accepts : Nat → Bool) (i : Input) :
    (s.step accepts i).2.1.messageFeeds = match i with
      | .subscribeMessages => s.messageFeeds ++ [{}]
      | .readMessages n => s.messageFeeds.modify n (·.drain.2)
      | .leaveMessages n => s.messageFeeds.modify n (·.leave)
      | i => s.messageFeeds.map fun f => (s.delivered i).foldl (fun f raw => f.push raw) f := by
  cases i with
  | reconnect url => simp [Session.step, Session.reconnect, announce, delivered]
  | submit line =>
    obtain ⟨mark, eq⟩ := s.submit_marks accepts line
    simp [Session.step, eq, write, delivered]
  | close =>
    cases hc : s.current <;> simp [Session.step, Session.close, delivered, announce, hc]
  | event epoch e =>
    by_cases current : s.epoch = epoch
    · subst current
      simp only [Session.step, handle_current h]
      cases e with
      | message raw =>
        by_cases blank : (Text.plain raw).isEmpty <;> simp [heard, blank, delivered, forward, write]
      | opened => simp [heard, delivered, announce, write]
      | closed code reason => simp [heard, delivered, announce, dropCurrent, write]
      | failed text => simp [heard, delivered, announce, dropCurrent, write]
    · obtain ⟨kept, eq, -⟩ := s.handleStale_retired epoch e
      cases e <;> simp [Session.step, handle_stale current, eq, delivered, current]
  | readMessages n =>
    simp only [Session.step, readMessages]
    cases hf : s.messageFeeds[n]? with
    | none => simp [List.modify_eq_set_getElem?, hf]
    | some f => simp [List.modify_eq_set_getElem?, hf]
  | readStatus n =>
    simp only [Session.step, readStatus]
    cases s.statusFeeds[n]? <;> simp [delivered]
  | leaveMessages n => rfl
  | subscribeMessages => rfl
  | subscribeStatus => simp [Session.step, subscribeStatus, delivered]
  | send text => simp [Session.step, delivered]
  | interrupt => simp [Session.step, delivered]
  | backspace => simp [Session.step, delivered]

/-- A thing done with a session. Whether a link accepts text at that time may depend on all that it
has been told before. -/
structure Move where
  accepts : Nat → List SessionAct → Bool
  input : Input

/-- A session and all that it has done so far, the earliest act first. -/
structure Course where
  session : Session := {}
  log : List SessionAct := []

namespace Course

def told (c : Course) (epoch : Nat) : List SessionAct := c.log.filter (·.isTo epoch)

def answer (c : Course) (m : Move) : Answer × Outcome :=
  c.session.step (fun e => m.accepts e (c.told e)) m.input

def next (c : Course) (m : Move) : Course :=
  ⟨(c.answer m).2.1, c.log ++ (c.answer m).2.2⟩

def run (c : Course) (ms : List Move) : Course := ms.foldl next c

@[simp] theorem run_cons (c : Course) (m : Move) (ms : List Move) :
    c.run (m :: ms) = (c.next m).run ms := rfl

end Course

end Session

end HostWatch
