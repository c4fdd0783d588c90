import HostWatch.Proofs.Shell.Reports

namespace HostWatch

def LinkAct.frame? : LinkAct → Option Frame
  | .emit _ => none
  | .write f => some f

def Frame.text? : Frame → Option String
  | .text words => some words
  | _ => none

def Frame.isClose : Frame → Bool
  | .close _ => true
  | _ => false

def LinkCommand.text? : LinkCommand → Option String
  | .text words => some words
  | .close _ _ => none

namespace Link

variable {l : Link}

def Input.isClose : Input → Bool
  | .close _ _ => true
  | _ => false

def admits (l : Link) : Input → List String
  | .send text => if (l.send text).1 then [text] else []
  | _ => []

def writes (l : Link) (i : Input) : List Frame := (l.step i).2.2.filterMap LinkAct.frame?

def beforeClose (inputs : List Input) : List Input := inputs.takeWhile (!·.isClose)

def Course.written (c : Course) : List Frame := c.log.filterMap LinkAct.frame?

/-- The texts that the calls give a link and that it accepts, the earliest first. -/
def Course.accepted (c : Course) : List Input → List String
  | [] => []
  | i :: inputs => c.link.admits i ++ (c.next i).accepted inputs

def waiting (queue : List LinkCommand) : List String := queue.filterMap LinkCommand.text?

def texts (frames : List Frame) : List String := frames.filterMap Frame.text?

/-- The commands that the task comes to before it comes to a close. -/
def ahead (queue : List LinkCommand) : List LinkCommand := queue.takeWhile (·.text?.isSome)

/-- While the task runs each text accepted is written or waits, in the order of the calls. Of those
that were accepted `early`, before a close was asked for, none stands behind that close. -/
structure Owing (l : Link) (accepted early : List String) (asked : Bool) (written : List Frame) :
    Prop where
  whole : texts written ++ waiting l.queue = accepted
  front : texts written ++ waiting (ahead l.queue) = early
  asked : l.isHeld = true → asked = l.queue.any (·.text?.isNone)
  unclosed : ∀ f ∈ written, f.isClose = false

/-- After the end some texts may be unwritten, but none of the early ones once a close is
written. -/
structure Settled (accepted early : List String) (written : List Frame) : Prop where
  ordered : texts written <+: accepted
  last : ∀ before cause after, written = before ++ .close cause :: after →
    after = [] ∧ texts before = early

/-- How the texts that are accepted stand to the frames that are written, by where a link is. -/
structure Stands (l : Link) (accepted early : List String) (asked : Bool) (written : List Frame) :
    Prop where
  running : l.phase ≠ .ended → l.Owing accepted early asked written
  settled : l.phase = .ended → Settled accepted early written
  fresh : l.phase = .connecting → accepted = []
  shut : (∀ decoder, l.phase ≠ .opened decoder) → l.accepts = false

section Stands

variable {accepted early : List String} {asked : Bool} {written : List Frame}

theorem texts_append_singleton (f : Frame) :
    texts (written ++ [f]) = texts written ++ f.text?.toList := by
  cases h : f.text? <;> simp [texts, h]

theorem waiting_append_singleton (queue : List LinkCommand) (c : LinkCommand) :
    waiting (queue ++ [c]) = waiting queue ++ c.text?.toList := by
  cases h : c.text? <;> simp [waiting, h]

theorem ahead_append_singleton (queue : List LinkCommand) (c : LinkCommand) :
    waiting (ahead (queue ++ [c])) =
      waiting (ahead queue) ++ if queue.any (·.text?.isNone) then [] else c.text?.toList := by
  induction queue with
  | nil => cases c <;> rfl
  | cons first queue ih =>
    cases first with
    | text text =>
      have step (rest : List LinkCommand) :
          waiting (ahead (.text text :: rest)) = text :: waiting (ahead rest) := rfl
      rw [List.cons_append, step, step, ih]
      rfl
    | close code reason => rfl

namespace Owing

theorem settled (owing : l.Owing accepted early asked written) :
    Settled accepted early written := by
  refine ⟨⟨_, owing.whole⟩, fun before cause after eq => ?_⟩
  have unclosed := owing.unclosed (.close cause) (by simp [eq])
  cases unclosed

/-- The task ends by writing a close frame, having come to all that is ahead of it. -/
theorem closes (owing : l.Owing accepted early asked written) (done : waiting (ahead l.queue) = [])
    (cause : Option (UInt16 × String)) :
    Settled accepted early (written ++ [.close cause]) := by
  have paid : texts written = early := by simpa [done] using owing.front
  refine ⟨?_, fun before other after eq => ?_⟩
  · rw [texts_append_singleton]
    exact ⟨_, by simpa [Frame.text?] using owing.whole⟩
  rcases List.eq_nil_or_concat after with rfl | ⟨more, f, rfl⟩
  · obtain ⟨rfl, -⟩ := List.append_inj' eq rfl
    exact ⟨rfl, paid⟩
  -- no close frame stands among those written before
  · rw [List.concat_eq_append, ← List.cons_append, ← List.append_assoc] at eq
    have front := (List.append_inj' eq rfl).1
    have unclosed := owing.unclosed (.close other) (by simp [front])
    cases unclosed

theorem concludes (owing : l.Owing accepted early asked written)
    (done : waiting (ahead l.queue) = []) (cause : Option (UInt16 × String))
    (result : Except String Unit) :
    Settled accepted early
      (written ++ (Link.written result (.close cause)).filterMap LinkAct.frame?) := by
  cases result with
  | ok => exact owing.closes done cause
  | error message => simpa [Link.written] using owing.settled

theorem pays {text : String} {queue : List LinkCommand}
    (owing : l.Owing accepted early asked written) (next : l.queue = .text text :: queue) :
    Owing { l with queue } accepted early asked (written ++ [.text text]) where
  whole := by
    rw [texts_append_singleton, ← owing.whole, next, List.append_assoc]
    rfl
  front := by
    rw [texts_append_singleton, ← owing.front, next, List.append_assoc]
    rfl
  asked := fun held => by simpa [next, LinkCommand.text?] using owing.asked held
  unclosed := by simpa [or_imp, forall_and, Frame.isClose] using owing.unclosed

theorem pings (owing : l.Owing accepted early asked written) :
    l.Owing accepted early asked (written ++ [.ping]) where
  whole := by simpa [texts_append_singleton, Frame.text?] using owing.whole
  front := by simpa [texts_append_singleton, Frame.text?] using owing.front
  asked := owing.asked
  unclosed := by simpa [or_imp, forall_and, Frame.isClose] using owing.unclosed

/-- A text that is accepted after a close was asked for stands behind that close. -/
theorem takes (owing : l.Owing accepted early asked written) (held : l.isHeld = true)
    (text : String) :
    Owing { l with queue := l.queue ++ [.text text] } (accepted ++ [text])
      (if asked then early else early ++ [text]) asked written where
  whole := by
    rw [waiting_append_singleton, ← owing.whole, List.append_assoc]
    rfl
  front := by
    rw [ahead_append_singleton, ← owing.front, ← owing.asked held, ← List.append_assoc]
    cases asked <;> simp [LinkCommand.text?]
  asked := fun _ => by simp [owing.asked held, LinkCommand.text?]
  unclosed := owing.unclosed

theorem asks (owing : l.Owing accepted early asked written) (code : UInt16) (reason : String) :
    Owing { l with accepts := false, queue := l.queue ++ [.close code reason] } accepted early true
      written where
  whole := by
    rw [waiting_append_singleton, ← owing.whole]
    simp [LinkCommand.text?]
  front := by
    rw [ahead_append_singleton, ← owing.front]
    simp [LinkCommand.text?]
  asked := fun _ => by simp [LinkCommand.text?]
  unclosed := owing.unclosed

end Owing

theorem frames_decoded (text : List Char) : (decoded text).filterMap LinkAct.frame? = [] := by
  unfold decoded
  cases text.isEmpty <;> rfl

theorem frames_flushed (decoder : Text.Utf8.Stream) :
    (flushed decoder).filterMap LinkAct.frame? = [] := frames_decoded _

theorem writes_connected (result : Except String Unit) : l.writes (.connected result) = [] := by
  unfold writes
  change (l.connected result).2.filterMap LinkAct.frame? = []
  unfold connected
  split <;> rfl

theorem writes_receive (a : Arrival) : l.writes (.receive a) = [] := by
  unfold writes step receive
  cases l.phase with
  | opened decoder =>
    cases a with
    | frame f =>
      cases f with
      | text text => simp [frames_flushed, LinkAct.frame?]
      | binary bytes => exact frames_decoded _
      | close cause => cases cause <;> simp [finish, frames_flushed, LinkAct.frame?]
      | _ => rfl
    | _ => simp [finish, frames_flushed, LinkAct.frame?]
  | _ => rfl

theorem Settled.stands (settled : Settled accepted early written) :
    l.finished.Stands accepted early asked written where
  running := fun live => absurd rfl live
  settled := fun _ => settled
  fresh := fun start => by cases start
  shut := fun _ => rfl

namespace Stands

theorem send (stands : l.Stands accepted early asked written) (text : String) :
    (l.send text).2.Stands (accepted ++ l.admits (.send text))
      (if asked then early else early ++ l.admits (.send text)) asked written := by
  by_cases taken : l.isHeld && l.accepts
  · obtain ⟨held, accepts⟩ := Bool.and_eq_true_iff.mp taken
    have after : (l.send text).2 = { l with queue := l.queue ++ [.text text] } := by
      simp [Link.send, taken]
    have admits : l.admits (.send text) = [text] := by simp [Link.admits, Link.send, taken]
    obtain ⟨decoder, opened⟩ : ∃ decoder, l.phase = .opened decoder := by
      by_contra unopened
      have shut := stands.shut (not_exists.mp unopened)
      simp [accepts] at shut
    rw [after, admits]
    exact {
      running := fun live => (stands.running live).takes held text
      settled := fun ended => by simp [opened] at ended
      fresh := fun start => by simp [opened] at start
      shut := fun unopened => absurd opened (unopened decoder) }
  · have after : (l.send text).2 = l := by simp [Link.send, taken]
    have admits : l.admits (.send text) = [] := by simp [Link.admits, Link.send, taken]
    rw [after, admits, List.append_nil, List.append_nil, ite_self]
    exact stands

theorem close (stands : l.Stands accepted early asked written) (code : UInt16) (reason : String) :
    (l.close code reason).Stands accepted early true written := by
  unfold Link.close
  split
  next reaches =>
    exact {
      running := fun live => (stands.running live).asks code reason
      settled := stands.settled
      fresh := stands.fresh
      shut := fun _ => rfl }
  next lost =>
    have released (live : l.phase ≠ .ended) : l.Owing accepted early true written :=
      { stands.running live with asked := fun held => absurd ⟨held, live⟩ lost }
    exact { stands with running := released }

theorem drop (stands : l.Stands accepted early asked written) :
    l.drop.Stands accepted early asked written where
  running := fun live => { stands.running live with asked := fun held => by cases held }
  settled := stands.settled
  fresh := stands.fresh
  shut := stands.shut

theorem «open» (stands : l.Stands accepted early asked written) (live : l.phase ≠ .ended)
    (decoder : Text.Utf8.Stream) (accepts : Bool) :
    Stands { l with phase := .opened decoder, accepts } accepted early asked written where
  running := fun _ => { stands.running live with }
  settled := fun ended => by cases ended
  fresh := fun start => by cases start
  shut := fun unopened => absurd rfl (unopened decoder)

theorem finishes (stands : l.Stands accepted early asked written) (live : l.phase ≠ .ended)
    (acts : List LinkAct) (e : LinkEvent) :
    (l.finish acts e).1.Stands accepted early asked written :=
  (stands.running live).settled.stands

theorem connected (stands : l.Stands accepted early asked written) (result : Except String Unit) :
    (l.connected result).1.Stands accepted early asked written := by
  unfold Link.connected
  split
  next start => exact stands.open (by simp [start]) {} true
  next start => exact stands.finishes (by simp [start]) [] _
  next => exact stands

theorem receive (stands : l.Stands accepted early asked written) (a : Arrival) :
    (l.receive a).1.Stands accepted early asked written := by
  unfold Link.receive
  split
  next decoder start =>
    have live : l.phase ≠ .ended := by simp [start]
    cases a with
    | frame f =>
      cases f with
      | text text => exact stands.open live decoder.flush.2 l.accepts
      | binary bytes => exact stands.open live (decoder.push bytes).2 l.accepts
      | ping => exact stands
      | pong => exact stands
      | close cause => cases cause <;> exact stands.finishes live _ _
    | fault message => exact stands.finishes live _ _
    | ended => exact stands.finishes live _ _
  next => exact stands

theorem obey (stands : l.Stands accepted early asked written) (result : Except String Unit) :
    (l.obey result).1.Stands accepted early asked (written ++ l.writes (.obey result)) := by
  cases start : l.phase with
  | ended =>
    have rests : l.obey result = (l, []) := by simp [Link.obey, start]
    simpa [writes, step, rests] using stands
  | connecting =>
    have owing := stands.running (by simp [start])
    cases next : l.queue with
    | nil =>
      cases held : l.isHeld with
      | true => simpa [writes, step, Link.obey, start, next, held] using stands
      | false => simpa [writes, step, Link.obey, start, next, held] using owing.settled.stands
    | cons c queue =>
      cases c with
      -- nothing has been accepted that could be passed over
      | text text =>
        have owed := owing.whole
        simp [stands.fresh start, next, waiting, LinkCommand.text?] at owed
      | close code reason =>
        simpa [writes, step, Link.obey, start, next, finish, List.filterMap_cons, LinkAct.frame?]
          using owing.settled.stands
  | opened decoder =>
    have owing := stands.running (by simp [start])
    cases next : l.queue with
    | nil =>
      cases held : l.isHeld with
      | true => simpa [writes, step, Link.obey, start, next, held] using stands
      | false =>
        have ends := owing.concludes (by simp [next, ahead, waiting]) none result
        simpa [writes, step, Link.obey, start, next, held] using ends.stands
    | cons c queue =>
      cases c with
      | text text =>
        cases result with
        | ok =>
          have paid : Stands { l with queue } accepted early asked (written ++ [.text text]) := {
            running := fun _ => owing.pays next
            settled := fun ended => by simp [start] at ended
            fresh := fun early => by simp [start] at early
            shut := stands.shut }
          simpa [writes, step, Link.obey, start, next, LinkAct.frame?] using paid
        | error message =>
          simpa [writes, step, Link.obey, start, next, finish, List.filterMap_cons, LinkAct.frame?]
            using owing.settled.stands
      | close code reason =>
        have done : waiting (ahead l.queue) = [] := by
          simp [next, ahead, waiting, LinkCommand.text?]
        have ends := owing.concludes done (some (code, reason)) result
        simpa [writes, step, Link.obey, start, next, finish, frames_flushed, List.filterMap_cons,
          LinkAct.frame?] using ends.stands

theorem ping (stands : l.Stands accepted early asked written) (result : Except String Unit) :
    (l.ping result).1.Stands accepted early asked (written ++ l.writes (.ping result)) := by
  cases start : l.phase with
  | opened decoder =>
    have owing := stands.running (by simp [start])
    cases result with
    | ok =>
      have pinged : l.Stands accepted early asked (written ++ [.ping]) :=
        { stands with
          running := fun _ => owing.pings
          settled := fun ended => by simp [start] at ended }
      simpa [writes, step, Link.ping, start, LinkAct.frame?] using pinged
    | error message =>
      simpa [writes, step, Link.ping, start, finish, List.filterMap_cons, LinkAct.frame?]
        using owing.settled.stands
  | _ =>
    have rests : l.ping result = (l, []) := by simp [Link.ping, start]
    simpa [writes, step, rests] using stands

theorem next (stands : l.Stands accepted early asked written) (i : Input) :
    (l.step i).2.1.Stands (accepted ++ l.admits i)
      (if asked || i.isClose then early else early ++ l.admits i) (asked || i.isClose)
      (written ++ l.writes i) := by
  cases i with
  | send text => simpa [writes, step, Input.isClose] using stands.send text
  | close code reason =>
    simpa [writes, step, admits, Input.isClose] using stands.close code reason
  | drop => simpa [writes, step, admits, Input.isClose] using stands.drop
  | connected result =>
    simpa [writes_connected, step, admits, Input.isClose] using stands.connected result
  | receive a =>
    simpa [writes_receive, step, admits, Input.isClose] using stands.receive a
  | obey result => simpa [step, admits, Input.isClose] using stands.obey result
  | ping result => simpa [step, admits, Input.isClose] using stands.ping result

end Stands

end Stands

namespace Course

theorem accepted_append (c : Course) (inputs more : List Input) :
    c.accepted (inputs ++ more) = c.accepted inputs ++ (c.run inputs).accepted more := by
  induction inputs generalizing c with
  | nil => rfl
  | cons i inputs ih =>
    rw [List.cons_append, accepted, accepted, ih, List.append_assoc]
    rfl

theorem accepted_beforeClose (c : Course) (inputs : List Input) (i : Input) :
    c.accepted (beforeClose (inputs ++ [i])) =
      if inputs.any Input.isClose || i.isClose then c.accepted (beforeClose inputs)
      else c.accepted (beforeClose inputs) ++ (c.run inputs).link.admits i := by
  induction inputs generalizing c with
  | nil => cases asked : i.isClose <;> simp [beforeClose, asked, accepted, run]
  | cons first inputs ih =>
    cases asked : first.isClose with
    | true => simp [beforeClose, asked]
    | false =>
      have step (rest : List Input) : c.accepted (beforeClose (first :: rest)) =
          c.link.admits first ++ (c.next first).accepted (beforeClose rest) := by
        simp [beforeClose, asked, accepted]
      rw [List.cons_append, step, step, ih, List.any_cons, asked, Bool.false_or, List.append_assoc,
        ← apply_ite]
      rfl

theorem stands_run (inputs : List Input) :
    (({} : Course).run inputs).link.Stands (({} : Course).accepted inputs)
      (({} : Course).accepted (beforeClose inputs)) (inputs.any Input.isClose)
      (({} : Course).run inputs).written := by
  induction inputs using List.reverseRecOn with
  | nil =>
    exact {
      running := fun _ => ⟨rfl, rfl, fun _ => rfl, by simp [run, written]⟩
      settled := fun ended => by cases ended
      fresh := fun _ => rfl
      shut := fun _ => rfl }
  | append_singleton inputs i ih =>
    have next := ih.next i
    rw [run_append_singleton, accepted_append, accepted_beforeClose, List.any_append]
    simpa [accepted, Course.next, written, writes] using next

theorem send_of_unopened {inputs : List Input}
    (unopened : LinkEvent.opened ∉ (({} : Course).run inputs).events) (text : String) :
    ((({} : Course).run inputs).link.send text).1 = false := by
  have fits := fits_run inputs
  have shut := (stands_run inputs).shut fun decoder start => by
    rw [start] at fits
    obtain ⟨texts, told⟩ := fits
    exact unopened (by simp [told])
  simp [send, shut]

theorem accepted_of_unopened {inputs : List Input}
    (unopened : LinkEvent.opened ∉ (({} : Course).run inputs).events) :
    ({} : Course).accepted inputs = [] := by
  induction inputs using List.reverseRecOn with
  | nil => rfl
  | append_singleton inputs i ih =>
    rw [run_append_singleton, events_next, List.mem_append, not_or] at unopened
    have refused : (({} : Course).run inputs).link.admits i = [] := by
      cases i with
      | send text => simp [admits, send_of_unopened unopened.1 text]
      | _ => rfl
    rw [accepted_append, ih unopened.1]
    simpa [accepted] using refused

theorem obey_text {c : Course} {decoder : Text.Utf8.Stream} {text : String}
    {queue : List LinkCommand} (opened : c.link.phase = .opened decoder)
    (first : c.link.queue = .text text :: queue) :
    let next := c.next (.obey (.ok ()))
    next.written = c.written ++ [.text text] ∧ next.link = { c.link with queue } := by
  have acts : c.link.obey (.ok ()) = ({ c.link with queue }, [.write (.text text)]) := by
    simp [Link.obey, opened, first]
  simp [Course.next, Link.step, acts, written, LinkAct.frame?]

/-- The texts written are the first of those accepted, in order, and while the link is open the
others wait their turn. Where a close frame ends it, all accepted before the close are written. -/
theorem delivers (inputs : List Input) :
    let c := ({} : Course).run inputs
    (LinkEvent.opened ∉ c.events →
        (∀ text, (c.link.send text).1 = false) ∧ ({} : Course).accepted inputs = []) ∧
      (c.link.phase = .connecting → waiting c.link.queue = []) ∧
      texts c.written <+: ({} : Course).accepted inputs ∧
      (c.link.phase ≠ .ended →
        ({} : Course).accepted inputs = texts c.written ++ waiting c.link.queue) ∧
      (∀ decoder text queue, c.link.phase = .opened decoder → c.link.queue = .text text :: queue →
        let next := c.next (.obey (.ok ()))
        next.written = c.written ++ [.text text] ∧ next.link = { c.link with queue }) ∧
      ∀ before cause after, c.written = before ++ .close cause :: after →
        after = [] ∧ texts before = ({} : Course).accepted (beforeClose inputs) := by
  intro c
  have stands := stands_run inputs
  have settled : Settled (({} : Course).accepted inputs)
      (({} : Course).accepted (beforeClose inputs)) c.written := by
    by_cases ended : c.link.phase = .ended
    · exact stands.settled ended
    · exact (stands.running ended).settled
  refine ⟨fun unopened => ⟨send_of_unopened unopened, accepted_of_unopened unopened⟩,
    fun start => ?_, settled.ordered, fun live => (stands.running live).whole.symm,
    fun _ _ _ => obey_text, settled.last⟩
  have owed := (stands.running (by simp [c, start])).whole
  rw [stands.fresh start] at owed
  exact (List.append_eq_nil_iff.mp owed).2

/-- A text comes too soon, two are accepted, and a close is asked for while one of them waits. -/
theorem delivers_before_closing :
    let soon : List Input := [.send "whoami\n"]
    let midway : List Input := soon ++
      [.connected (.ok ()), .send "ls\n", .send "pwd\n", .obey (.ok ())]
    let closing : List Input := [.close 1000 "bye", .ping (.ok ()), .obey (.ok ()), .obey (.ok ())]
    let written (inputs : List Input) := (({} : Course).run inputs).written
    (({} : Course).accepted soon = [] ∧ waiting (({} : Course).run soon).link.queue = []) ∧
    (({} : Course).accepted midway = ["ls\n"] ++ ["pwd\n"] ∧
      ((({} : Course).run midway).next (.obey (.ok ()))).written =
        written midway ++ [.text "pwd\n"]) ∧
    written (midway ++ closing) =
        [.text "ls\n", .ping, .text "pwd\n"] ++ .close (some (1000, "bye")) :: [] ∧
      ["ls\n", "pwd\n"] = ({} : Course).accepted (beforeClose (midway ++ closing)) := by
  intro soon midway closing written
  obtain ⟨refuses, waits, -⟩ := delivers soon
  obtain ⟨-, -, -, owes, writes, -⟩ := delivers midway
  obtain ⟨-, -, -, -, -, last⟩ := delivers (midway ++ closing)
  have whole : written (midway ++ closing) =
      [.text "ls\n", .ping, .text "pwd\n"] ++ .close (some (1000, "bye")) :: [] := by
    decide +kernel
  exact ⟨⟨(refuses (by decide)).2, waits rfl⟩, ⟨owes (by decide), (writes {} _ [] rfl rfl).1⟩,
    whole, (last _ _ _ whole).2⟩

end Course

end Link

end HostWatch
