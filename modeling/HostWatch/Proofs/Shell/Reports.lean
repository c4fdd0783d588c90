import HostWatch.Console.TerminalRun
import HostWatch.Proofs.Shell.Tenure

namespace HostWatch

def LinkAct.event? : LinkAct → Option LinkEvent
  | .emit e => some e
  | .write _ => none

def LinkEvent.text? : LinkEvent → Option String
  | .message text => some text
  | _ => none

def Frame.isWorded : Frame → Bool
  | .text _ | .binary _ => true
  | _ => false

/-- A whole life of a link, or the beginning of one, by what is reported of it. -/
inductive LinkEvent.Orderly : List LinkEvent → Prop
  | silent : Orderly []
  | barred {e : LinkEvent} : e.isEnd = true → Orderly [e]
  | «open» (texts : List String) : Orderly (.opened :: texts.map .message)
  | complete (texts : List String) {e : LinkEvent} : e.isEnd = true →
      Orderly (.opened :: texts.map .message ++ [e])

theorem LinkEvent.not_isEnd_of_mem {e : LinkEvent} {texts : List String}
    (mem : e ∈ LinkEvent.opened :: texts.map .message) : e.isEnd = false := by
  rcases List.mem_cons.mp mem with rfl | mem
  · rfl
  · obtain ⟨text, -, rfl⟩ := List.mem_map.mp mem
    rfl

theorem LinkEvent.Orderly.after_end {before after : List LinkEvent} {e : LinkEvent}
    (orderly : Orderly (before ++ e :: after)) (ends : e.isEnd = true) : after = [] := by
  generalize whole : before ++ e :: after = events at orderly
  cases orderly with
  | silent => simp at whole
  | barred last =>
    have len := congrArg List.length whole
    simp only [List.length_append, List.length_cons, List.length_nil] at len
    exact List.length_eq_zero_iff.mp (by omega)
  | «open» texts =>
    have mem : e ∈ LinkEvent.opened :: texts.map .message := by simp [← whole]
    simp [not_isEnd_of_mem mem] at ends
  | complete texts last =>
    rcases List.eq_nil_or_concat after with rfl | ⟨more, x, rfl⟩
    · rfl
    -- otherwise the end would stand among the messages
    · rw [List.concat_eq_append, ← List.cons_append, ← List.append_assoc] at whole
      have front := (List.append_inj' whole rfl).1
      have mem : e ∈ LinkEvent.opened :: texts.map .message := by simp [← front]
      simp [not_isEnd_of_mem mem] at ends

/-- The front end of a shell takes over what a link reports with the epoch of the link. -/
theorem TerminalRun.collect_pending (epoch : Nat) (acts : List LinkAct) (r : TerminalRun) :
    (r.collect epoch acts).pending =
      r.pending ++ (acts.filterMap LinkAct.event?).map fun e => (epoch, e) := by
  unfold collect
  induction acts generalizing r with
  | nil => simp
  | cons act acts ih =>
    rw [List.foldl_cons, ih]
    cases act with
    | emit e => simp [LinkAct.event?]
    | write f => by_cases listed : isListed f <;> simp [List.filterMap_cons, LinkAct.event?, listed]

namespace Link

variable {l : Link}

def reports (l : Link) (i : Input) : List LinkEvent := (l.step i).2.2.filterMap LinkAct.event?

def takes (l : Link) (i : Input) : List Frame :=
  match l.phase, i with
  | .opened _, .receive (.frame f) => [f]
  | _, _ => []

def verbatim (l : Link) (i : Input) : List String :=
  (l.takes i).filterMap fun
    | .text text => some text
    | _ => none

def held (l : Link) : List UInt8 :=
  match l.phase with
  | .opened decoder => decoder.held
  | _ => []

def writeFails (l : Link) : Input → Bool
  | .ping (.error _) => true
  | .obey (.error _) => l.queue.head?.any (· matches .text _)
  | _ => false

def spoken (text : List Char) : List LinkEvent :=
  if text.isEmpty then [] else [.message (String.ofList text)]

theorem filterMap_decoded (text : List Char) :
    (decoded text).filterMap LinkAct.event? = spoken text := by
  unfold decoded spoken
  cases text.isEmpty <;> rfl

/-- All that a step can do to a link, and what it reports then. -/
inductive Turn (l : Link) (i : Input) : LinkPhase → List LinkEvent → Prop
  | opens : l.phase = .connecting → Turn l i (.opened {}) [.opened]
  | barred {e : LinkEvent} : l.phase = .connecting → e.isEnd = true → Turn l i .ended [e]
  | decodes {decoder : Text.Utf8.Stream} (bytes : List UInt8) : l.phase = .opened decoder →
      l.takes i = [.binary bytes] →
      Turn l i (.opened (decoder.push bytes).2) (spoken (decoder.push bytes).1)
  | passesOn {decoder : Text.Utf8.Stream} (text : String) : l.phase = .opened decoder →
      l.takes i = [.text text] →
      Turn l i (.opened decoder.flush.2) (spoken decoder.flush.1 ++ [.message text])
  | ends {decoder : Text.Utf8.Stream} {e : LinkEvent} : l.phase = .opened decoder →
      (∀ f ∈ l.takes i, f.isWorded = false) → l.writeFails i = false → e.isEnd = true →
      Turn l i .ended (spoken decoder.flush.1 ++ [e])
  | breaks {decoder : Text.Utf8.Stream} {e : LinkEvent} : l.phase = .opened decoder →
      (∀ f ∈ l.takes i, f.isWorded = false) → l.writeFails i = true → e.isEnd = true →
      Turn l i .ended [e]
  | givenUp : (∀ f ∈ l.takes i, f.isWorded = false) → l.writeFails i = false → Turn l i .ended []
  | rests : (∀ f ∈ l.takes i, f.isWorded = false) → (l.held ≠ [] → l.writeFails i = false) →
      Turn l i l.phase []

theorem filterMap_flushed (decoder : Text.Utf8.Stream) :
    (flushed decoder).filterMap LinkAct.event? = spoken decoder.flush.1 := filterMap_decoded _

theorem filterMap_written (result : Except String Unit) (f : Frame) :
    (written result f).filterMap LinkAct.event? = [] := by
  cases result <;> rfl

theorem Turn.aside {i : Input} (same : (l.step i).2.1.phase = l.phase) (silent : l.reports i = [])
    (wordless : ∀ f ∈ l.takes i, f.isWorded = false)
    (sound : l.held ≠ [] → l.writeFails i = false) :
    l.Turn i (l.step i).2.1.phase (l.reports i) := by
  rw [same, silent]
  exact .rests wordless sound

theorem Turn.finishes {decoder : Text.Utf8.Stream} {i : Input} {acts : List LinkAct} (e : LinkEvent)
    (opened : l.phase = .opened decoder) (does : (l.step i).2 = l.finish acts e)
    (flushes : acts.filterMap LinkAct.event? = spoken decoder.flush.1)
    (wordless : ∀ f ∈ l.takes i, f.isWorded = false) (sound : l.writeFails i = false)
    (ends : e.isEnd = true) : l.Turn i (l.step i).2.1.phase (l.reports i) := by
  have told : l.reports i = spoken decoder.flush.1 ++ [e] := by
    unfold reports
    rw [does, ← flushes]
    simp [finish, LinkAct.event?]
  rw [told, does]
  exact .ends opened wordless sound ends

theorem turn_receive (l : Link) (a : Arrival) :
    l.Turn (.receive a) (l.step (.receive a)).2.1.phase (l.reports (.receive a)) := by
  cases opened : l.phase with
  | connecting =>
    refine .aside ?_ ?_ ?_ fun _ => rfl <;> simp [reports, step, receive, takes, opened]
  | ended => refine .aside ?_ ?_ ?_ fun _ => rfl <;> simp [reports, step, receive, takes, opened]
  | opened decoder =>
    cases a with
    | frame f =>
      cases f with
      | text text =>
        have told : l.reports (.receive (.frame (.text text))) =
            spoken decoder.flush.1 ++ [.message text] := by
          simp [reports, step, receive, opened, flushed, filterMap_decoded, LinkAct.event?]
        have after : (l.step (.receive (.frame (.text text)))).2.1.phase =
            .opened decoder.flush.2 := by
          simp [step, receive, opened]
        rw [told, after]
        exact .passesOn text opened (by simp [takes, opened])
      | binary bytes =>
        have told : l.reports (.receive (.frame (.binary bytes))) =
            spoken (decoder.push bytes).1 := by
          simp [reports, step, receive, opened, filterMap_decoded]
        have after : (l.step (.receive (.frame (.binary bytes)))).2.1.phase =
            .opened (decoder.push bytes).2 := by
          simp [step, receive, opened]
        rw [told, after]
        exact .decodes bytes opened (by simp [takes, opened])
      | ping =>
        refine .aside ?_ ?_ ?_ fun _ => rfl <;>
          simp [reports, step, receive, takes, opened, Frame.isWorded]
      | pong =>
        refine .aside ?_ ?_ ?_ fun _ => rfl <;>
          simp [reports, step, receive, takes, opened, Frame.isWorded]
      | close cause =>
        have wordless : ∀ f ∈ l.takes (.receive (.frame (.close cause))), f.isWorded = false := by
          simp [takes, opened, Frame.isWorded]
        cases cause with
        | none =>
          exact .finishes (.closed noCode "") opened (by simp [step, receive, opened])
            (filterMap_flushed decoder) wordless rfl rfl
        | some cause =>
          exact .finishes (.closed cause.1 cause.2) opened (by simp [step, receive, opened])
            (filterMap_flushed decoder) wordless rfl rfl
    | fault message =>
      exact .finishes (.failed message) opened (by simp [step, receive, opened])
        (filterMap_flushed decoder) (by simp [takes, opened]) rfl rfl
    | ended =>
      exact .finishes (.closed abnormalClosure "connection dropped") opened
        (by simp [step, receive, opened]) (filterMap_flushed decoder) (by simp [takes, opened])
        rfl rfl

theorem takes_of_unreceived {i : Input} (other : ∀ a, i ≠ .receive a) : l.takes i = [] := by
  cases i with
  | receive a => exact absurd rfl (other a)
  | _ => cases h : l.phase <;> simp [takes, h]

theorem turn_connected (l : Link) (result : Except String Unit) :
    l.Turn (.connected result) (l.step (.connected result)).2.1.phase
      (l.reports (.connected result)) := by
  have wordless : l.takes (.connected result) = [] := takes_of_unreceived (by simp)
  cases start : l.phase with
  | connecting =>
    cases result with
    | ok =>
      have told : l.reports (.connected (.ok ())) = [.opened] := by
        simp [reports, step, connected, start, LinkAct.event?]
      have after : (l.step (.connected (.ok ()))).2.1.phase = .opened {} := by
        simp [step, connected, start]
      rw [told, after]
      exact .opens start
    | error message =>
      have told : l.reports (.connected (.error message)) = [.failed message] := by
        simp [reports, step, connected, start, finish, LinkAct.event?]
      have after : (l.step (.connected (.error message))).2.1.phase = .ended := by
        simp [step, connected, start, finish, finished]
      rw [told, after]
      exact .barred start rfl
  | opened decoder =>
    refine .aside ?_ ?_ (by simp [wordless]) fun _ => rfl <;> simp [reports, step, connected, start]
  | ended =>
    refine .aside ?_ ?_ (by simp [wordless]) fun _ => rfl <;> simp [reports, step, connected, start]

theorem turn_obey (l : Link) (result : Except String Unit) :
    l.Turn (.obey result) (l.step (.obey result)).2.1.phase (l.reports (.obey result)) := by
  have wordless : ∀ f ∈ l.takes (.obey result), f.isWorded = false := by
    simp [takes_of_unreceived (l := l) (i := .obey result) (by simp)]
  cases start : l.phase with
  | connecting =>
    have empty : l.held = [] := by simp [held, start]
    cases waiting : l.queue with
    | nil =>
      cases there : l.isHeld with
      | true =>
        refine .aside ?_ ?_ wordless (absurd empty) <;>
          simp [reports, step, obey, start, waiting, there]
      | false =>
        have told : l.reports (.obey result) = [] := by
          simp [reports, step, obey, start, waiting, there]
        have after : (l.step (.obey result)).2.1.phase = .ended := by
          simp [step, obey, start, waiting, there, finished]
        rw [told, after]
        exact .givenUp wordless (by cases result <;> simp [writeFails, waiting])
    | cons c queue =>
      cases c with
      | text text =>
        refine .aside ?_ ?_ wordless (absurd empty) <;> simp [reports, step, obey, start, waiting]
      | close code reason =>
        have told : l.reports (.obey result) = [.closed code reason] := by
          simp [reports, step, obey, start, waiting, finish, LinkAct.event?]
        have after : (l.step (.obey result)).2.1.phase = .ended := by
          simp [step, obey, start, waiting, finish, finished]
        rw [told, after]
        exact .barred start rfl
  | opened decoder =>
    cases waiting : l.queue with
    | nil =>
      have sound : l.writeFails (.obey result) = false := by
        cases result <;> simp [writeFails, waiting]
      cases there : l.isHeld with
      | true =>
        refine .aside ?_ ?_ wordless fun _ => sound <;>
          simp [reports, step, obey, start, waiting, there]
      | false =>
        have told : l.reports (.obey result) = [] := by
          simp [reports, step, obey, start, waiting, there, filterMap_written]
        have after : (l.step (.obey result)).2.1.phase = .ended := by
          simp [step, obey, start, waiting, there, finished]
        rw [told, after]
        exact .givenUp wordless sound
    | cons c queue =>
      cases c with
      | text text =>
        cases result with
        | ok =>
          refine .aside ?_ ?_ wordless fun _ => rfl <;>
            simp [reports, step, obey, start, waiting, LinkAct.event?]
        | error message =>
          have told : l.reports (.obey (.error message)) = [.failed message] := by
            simp [reports, step, obey, start, waiting, finish, LinkAct.event?]
          have after : (l.step (.obey (.error message))).2.1.phase = .ended := by
            simp [step, obey, start, waiting, finish, finished]
          rw [told, after]
          exact .breaks start wordless (by simp [writeFails, waiting]) rfl
      | close code reason =>
        have flushes : (flushed decoder ++ written result (.close (some (code, reason)))).filterMap
            LinkAct.event? = spoken decoder.flush.1 := by
          rw [List.filterMap_append, filterMap_flushed, filterMap_written, List.append_nil]
        exact .finishes (.closed code reason) start (by simp [step, obey, start, waiting]) flushes
          wordless (by cases result <;> simp [writeFails, waiting]) rfl
  | ended =>
    have empty : l.held = [] := by simp [held, start]
    refine .aside ?_ ?_ wordless (absurd empty) <;> simp [reports, step, obey, start]

theorem turn_ping (l : Link) (result : Except String Unit) :
    l.Turn (.ping result) (l.step (.ping result)).2.1.phase (l.reports (.ping result)) := by
  have wordless : ∀ f ∈ l.takes (.ping result), f.isWorded = false := by
    simp [takes_of_unreceived (l := l) (i := .ping result) (by simp)]
  cases start : l.phase with
  | opened decoder =>
    cases result with
    | ok =>
      refine .aside ?_ ?_ wordless fun _ => rfl <;>
        simp [reports, step, ping, start, LinkAct.event?]
    | error message =>
      have told : l.reports (.ping (.error message)) = [.failed message] := by
        simp [reports, step, ping, start, finish, LinkAct.event?]
      have after : (l.step (.ping (.error message))).2.1.phase = .ended := by
        simp [step, ping, start, finish, finished]
      rw [told, after]
      exact .breaks start wordless rfl rfl
  | _ =>
    have empty : l.held = [] := by simp [held, start]
    refine .aside ?_ ?_ wordless (absurd empty) <;> simp [reports, step, ping, start]

theorem turn (l : Link) (i : Input) : l.Turn i (l.step i).2.1.phase (l.reports i) := by
  cases i with
  | send text =>
    refine .aside ?_ ?_ (by simp [takes_of_unreceived]) fun _ => rfl
    · by_cases accepted : l.isHeld && l.accepts <;> simp [step, send, accepted]
    · rfl
  | close code reason =>
    refine .aside ?_ rfl (by simp [takes_of_unreceived]) fun _ => rfl
    by_cases live : l.isHeld ∧ l.phase ≠ .ended <;> simp [step, close, live]
  | drop => exact .aside rfl rfl (by simp [takes_of_unreceived]) fun _ => rfl
  | connected result => exact l.turn_connected result
  | receive a => exact l.turn_receive a
  | obey result => exact l.turn_obey result
  | ping result => exact l.turn_ping result

/-- A link and what has come of it: all that it has done and the frames that it has taken in, the
earliest first. -/
structure Course where
  link : Link := {}
  log : List LinkAct := []
  frames : List Frame := []

namespace Course

def next (c : Course) (i : Input) : Course :=
  ⟨(c.link.step i).2.1, c.log ++ (c.link.step i).2.2, c.frames ++ c.link.takes i⟩

def run (c : Course) (inputs : List Input) : Course := inputs.foldl next c

def events (c : Course) : List LinkEvent := c.log.filterMap LinkAct.event?

theorem events_next (c : Course) (i : Input) : (c.next i).events = c.events ++ c.link.reports i :=
  List.filterMap_append

theorem run_append_singleton (c : Course) (inputs : List Input) (i : Input) :
    c.run (inputs ++ [i]) = (c.run inputs).next i := by
  simp [run]

end Course

def Fits : LinkPhase → List LinkEvent → Prop
  | .connecting, events => events = []
  | .opened _, events => ∃ texts : List String, events = .opened :: texts.map .message
  | .ended, events => LinkEvent.Orderly events

theorem exists_map_spoken (text : List Char) :
    ∃ texts : List String, spoken text = texts.map .message ∧ "" ∉ texts := by
  unfold spoken
  cases blank : text.isEmpty with
  | true => exact ⟨[], rfl, by simp⟩
  | false =>
    have filled : String.ofList text ≠ "" := by
      simpa [← String.toList_inj] using blank
    exact ⟨[String.ofList text], rfl, by simpa using filled.symm⟩

/-- Nothing is reported after the end, for a link that has ended stays so and is silent. -/
theorem Turn.fits {i : Input} {after : LinkPhase} {told events : List LinkEvent}
    (turn : l.Turn i after told) (fits : Fits l.phase events) : Fits after (events ++ told) := by
  cases turn with
  | opens start =>
    rw [start] at fits
    exact ⟨[], by rw [show events = [] from fits]; rfl⟩
  | barred start ends =>
    rw [start] at fits
    rw [show events = [] from fits]
    exact .barred ends
  | decodes bytes start takes =>
    rw [start] at fits
    obtain ⟨texts, rfl⟩ := fits
    obtain ⟨more, eq, -⟩ := exists_map_spoken _
    exact ⟨texts ++ more, by rw [eq, List.cons_append, List.map_append]⟩
  | passesOn text start takes =>
    rw [start] at fits
    obtain ⟨texts, rfl⟩ := fits
    obtain ⟨more, eq, -⟩ := exists_map_spoken _
    exact ⟨texts ++ more ++ [text], by rw [eq]; simp⟩
  | ends start wordless sound ends =>
    rw [start] at fits
    obtain ⟨texts, rfl⟩ := fits
    obtain ⟨more, eq, -⟩ := exists_map_spoken _
    have whole := LinkEvent.Orderly.complete (texts ++ more) ends
    change LinkEvent.Orderly _
    rw [eq]
    simpa using whole
  | breaks start wordless fails ends =>
    rw [start] at fits
    obtain ⟨texts, rfl⟩ := fits
    exact .complete texts ends
  | givenUp wordless sound =>
    rw [List.append_nil]
    cases start : l.phase with
    | connecting =>
      rw [start] at fits
      rw [show events = [] from fits]
      exact .silent
    | opened decoder =>
      rw [start] at fits
      obtain ⟨texts, rfl⟩ := fits
      exact .open texts
    | ended => rwa [start] at fits
  | rests wordless sound => simpa using fits

theorem Fits.orderly {phase : LinkPhase} {events : List LinkEvent} (fits : Fits phase events) :
    LinkEvent.Orderly events := by
  cases phase with
  | connecting => exact (show events = [] from fits) ▸ .silent
  | opened decoder =>
    obtain ⟨texts, rfl⟩ := fits
    exact .open texts
  | ended => exact fits

/-- The messages of a step are its decoded texts, none of them empty, and then the text of the frame
that it takes in. -/
theorem Turn.messages {i : Input} {after : LinkPhase} {told : List LinkEvent}
    (turn : l.Turn i after told) :
    ∃ decoded : List String, "" ∉ decoded ∧
      told.filterMap LinkEvent.text? = decoded ++ l.verbatim i := by
  have wordless_verbatim (wordless : ∀ f ∈ l.takes i, f.isWorded = false) : l.verbatim i = [] := by
    unfold verbatim
    rw [List.filterMap_eq_nil_iff]
    intro f mem
    cases f with
    | text text => cases wordless _ mem
    | _ => rfl
  have unopened (start : l.phase = .connecting) : l.verbatim i = [] := by
    simp [verbatim, takes, start]
  have texts_of_map (texts : List String) :
      (texts.map LinkEvent.message).filterMap LinkEvent.text? = texts := by
    rw [List.filterMap_map]
    exact List.filterMap_some
  have no_text {e : LinkEvent} (ends : e.isEnd = true) : e.text? = none := by
    cases e with
    | message text => cases ends
    | _ => rfl
  cases turn with
  | opens start => exact ⟨[], by simp, by simp [unopened start, LinkEvent.text?]⟩
  | barred start ends => exact ⟨[], by simp, by simp [unopened start, no_text ends]⟩
  | decodes bytes start takes =>
    obtain ⟨more, eq, filled⟩ := exists_map_spoken _
    refine ⟨more, filled, ?_⟩
    rw [eq, texts_of_map]
    simp [verbatim, takes]
  | passesOn text start takes =>
    obtain ⟨more, eq, filled⟩ := exists_map_spoken _
    refine ⟨more, filled, ?_⟩
    rw [eq, List.filterMap_append, texts_of_map]
    simp [verbatim, takes, LinkEvent.text?]
  | ends start wordless sound ends =>
    obtain ⟨more, eq, filled⟩ := exists_map_spoken _
    refine ⟨more, filled, ?_⟩
    rw [eq, List.filterMap_append, texts_of_map, wordless_verbatim wordless]
    simp [no_text ends]
  | breaks start wordless fails ends =>
    exact ⟨[], by simp, by simp [wordless_verbatim wordless, no_text ends]⟩
  | givenUp wordless sound => exact ⟨[], by simp, by simp [wordless_verbatim wordless]⟩
  | rests wordless sound => exact ⟨[], by simp, by simp [wordless_verbatim wordless]⟩

namespace Course

theorem fits_run (inputs : List Input) :
    Fits (({} : Course).run inputs).link.phase (({} : Course).run inputs).events := by
  induction inputs using List.reverseRecOn with
  | nil => rfl
  | append_singleton inputs i ih =>
    rw [run_append_singleton, events_next]
    exact (turn _ i).fits ih

/-- A link reports one end and nothing else, or that it opened, then messages and at most one end; a
message is empty only where the host has sent an empty text. -/
theorem reports_orderly (inputs : List Input) :
    let c := ({} : Course).run inputs
    LinkEvent.Orderly c.events ∧
      (∀ (epoch : Nat) (r : TerminalRun),
        (r.collect epoch c.log).pending = r.pending ++ c.events.map fun e => (epoch, e)) ∧
      ∀ i, ∃ decoded : List String, "" ∉ decoded ∧
        (c.link.reports i).filterMap LinkEvent.text? = decoded ++ c.link.verbatim i := by
  intro c
  have fits : Fits c.link.phase c.events := fits_run inputs
  refine ⟨fits.orderly, fun epoch r => r.collect_pending epoch c.log, fun i => ?_⟩
  exact (c.link.turn i).messages

end Course

end Link

end HostWatch
