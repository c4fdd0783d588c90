import HostWatch.Proofs.Shell.Received

namespace HostWatch

open Text.Utf8 (lossy split)

/-- A text that stands by itself, or a piece of a run. -/
inductive Item (β : Type) where
  | text (s : String)
  | piece (bs : List β)
  deriving DecidableEq

/-- Runs with texts between them: the one before the first text, and each text with the one after
it. -/
structure Runs (β : Type) where
  first : List β := []
  later : List (String × List β) := []
  deriving DecidableEq

namespace Runs

variable {β : Type}

def add : Item β → Runs β → Runs β
  | .text s, r => ⟨[], (s, r.first) :: r.later⟩
  | .piece bs, r => { r with first := bs ++ r.first }

def join (items : List (Item β)) : Runs β := items.foldr add {}

/-- The text of runs of bytes, where some bytes come before the first one. -/
def decodedFrom (bytes : List UInt8) (r : Runs UInt8) : Runs Char :=
  ⟨lossy (bytes ++ r.first), r.later.map fun run => (run.1, lossy run.2)⟩

def decoded (r : Runs UInt8) : Runs Char := r.decodedFrom []

@[simp] theorem add_nil (r : Runs β) : add (.piece []) r = r := rfl

theorem decodedFrom_split (bytes : List UInt8) (r : Runs UInt8) :
    r.decodedFrom bytes = add (.piece (split bytes).1) (r.decodedFrom (split bytes).2) := by
  have text : lossy (bytes ++ r.first) = (split bytes).1 ++ lossy ((split bytes).2 ++ r.first) := by
    rw [Text.Utf8.lossy_eq_split, Text.Utf8.split_append,
      Text.Utf8.lossy_eq_split ((split bytes).2 ++ r.first), List.append_assoc]
  simp [decodedFrom, add, text]

theorem decodedFrom_piece (bytes more : List UInt8) (r : Runs UInt8) :
    (add (.piece more) r).decodedFrom bytes = r.decodedFrom (bytes ++ more) := by
  simp [decodedFrom, add]

theorem decodedFrom_text (bytes : List UInt8) (s : String) (r : Runs UInt8) :
    (add (.text s) r).decodedFrom bytes = add (.piece (lossy bytes)) (add (.text s) r.decoded) := by
  simp [decodedFrom, decoded, add]

end Runs

namespace Frame

def item : Frame → Item UInt8
  | .text s => .text s
  | .binary bytes => .piece bytes
  | _ => .piece []

def runs (frames : List Frame) : Runs UInt8 := .join (frames.map item)

theorem foldr_item_wordless {frames : List Frame} (wordless : ∀ f ∈ frames, f.isWorded = false)
    (r : Runs UInt8) : (frames.map item).foldr Runs.add r = r := by
  induction frames with
  | nil => rfl
  | cons f frames ih =>
    have later := ih fun g mem => wordless g (List.mem_cons_of_mem f mem)
    have first := wordless f List.mem_cons_self
    rw [List.map_cons, List.foldr_cons, later]
    cases f with
    | text s => cases first
    | binary bytes => cases first
    | _ => exact r.add_nil

end Frame

def Item.words : Item Char → String
  | .text s => s
  | .piece cs => String.ofList cs

namespace LinkEvent

/-- The messages among some reports, of which the last `count` pass text frames on as they are. -/
def items (count : Nat) (events : List LinkEvent) : List (Item Char) :=
  let texts := events.filterMap text?
  (texts.take (texts.length - count)).map (.piece ·.toList) ++
    (texts.drop (texts.length - count)).map .text

theorem text?_of_isEnd {e : LinkEvent} (ends : e.isEnd = true) : e.text? = none := by
  cases e with
  | message s => cases ends
  | _ => rfl

theorem words_items (count : Nat) (events : List LinkEvent) :
    (items count events).map Item.words = events.filterMap text? := by
  have piece : Item.words ∘ (fun s : String => .piece s.toList) = id := by
    funext s
    exact String.ofList_toList
  have whole : Item.words ∘ .text = id := rfl
  rw [items, List.map_append, List.map_map, List.map_map, piece, whole, List.map_id, List.map_id,
    List.take_append_drop]

theorem items_eq {events : List LinkEvent} {decoded verbatim : List String}
    (eq : events.filterMap text? = decoded ++ verbatim) :
    items verbatim.length events = decoded.map (.piece ·.toList) ++ verbatim.map .text := by
  simp [items, eq]

end LinkEvent

def Arrival.isEnd : Arrival → Bool
  | .frame (.close _) | .fault _ | .ended => true
  | .frame _ => false

def LinkPhase.held : LinkPhase → List UInt8
  | .opened decoder => decoder.held
  | _ => []

namespace Link

variable {l : Link} {i : Input}

def isOpen (l : Link) : Bool := l.phase matches .opened _

theorem isOpen_iff : l.isOpen = true ↔ ∃ decoder, l.phase = .opened decoder := by
  cases phase : l.phase <;> simp [isOpen, phase]

/-- The messages of a step, those that pass a text frame on apart from those of decoded text. -/
def items (l : Link) (i : Input) : List (Item Char) :=
  LinkEvent.items (l.verbatim i).length (l.reports i)

theorem foldr_items_spoken (text : List Char) {events : List LinkEvent} {verbatim : List String}
    (eq : events.filterMap LinkEvent.text? = (spoken text).filterMap LinkEvent.text? ++ verbatim)
    (r : Runs Char) :
    (LinkEvent.items verbatim.length events).foldr Runs.add r =
      Runs.add (.piece text) ((verbatim.map .text).foldr Runs.add r) := by
  rw [LinkEvent.items_eq eq, List.foldr_append]
  cases text with
  | nil => rfl
  | cons c cs => simp [spoken, LinkEvent.text?]

/-- A step reports the text of the runs that it takes in, but for what is held back after it. -/
theorem Turn.decodedFrom {after : LinkPhase} {told : List LinkEvent} (turn : l.Turn i after told)
    (open_ : after ≠ .ended) (r : Runs UInt8) :
    (((l.takes i).map Frame.item).foldr Runs.add r).decodedFrom l.phase.held =
      (LinkEvent.items (l.verbatim i).length told).foldr Runs.add (r.decodedFrom after.held) := by
  cases turn with
  | opens start =>
    have silent : [LinkEvent.opened].filterMap LinkEvent.text? = [] := rfl
    simp [takes, verbatim, start, LinkEvent.items, silent, LinkPhase.held]
  | barred start ends => exact absurd rfl open_
  | @decodes decoder bytes start taken =>
    have verbatim : l.verbatim i = [] := by simp [verbatim, taken]
    rw [verbatim, foldr_items_spoken (decoder.push bytes).1 (by simp), taken, start]
    simp only [List.map_cons, List.map_nil, List.foldr_cons, List.foldr_nil, Frame.item,
      LinkPhase.held]
    rw [Runs.decodedFrom_piece, Runs.decodedFrom_split]
    rfl
  | @passesOn decoder s start taken =>
    have verbatim : l.verbatim i = [s] := by simp [verbatim, taken]
    rw [verbatim, foldr_items_spoken decoder.flush.1 (by simp [LinkEvent.text?]), taken, start]
    simp only [List.map_cons, List.map_nil, List.foldr_cons, List.foldr_nil, Frame.item,
      LinkPhase.held]
    exact Runs.decodedFrom_text decoder.held s r
  | ends start wordless sound ends => exact absurd rfl open_
  | breaks start wordless fails ends => exact absurd rfl open_
  | givenUp wordless sound => exact absurd rfl open_
  | rests wordless sound =>
    rw [Frame.foldr_item_wordless wordless]
    simp [LinkEvent.items]

theorem Turn.ended {after : LinkPhase} {told : List LinkEvent} (turn : l.Turn i after told)
    (ended : l.phase = .ended) : after = .ended := by
  cases turn <;> simp_all

theorem reports_finish {decoder : Text.Utf8.Stream} {e : LinkEvent}
    (does : (l.step i).2 = l.finish (flushed decoder) e) :
    l.reports i = spoken decoder.flush.1 ++ [e] := by
  rw [reports, does, finish, List.filterMap_append, filterMap_flushed]
  rfl

theorem verbatim_of_end {last : Arrival} (ends : last.isEnd = true) (l : Link) :
    l.verbatim (.receive last) = [] := by
  cases phase : l.phase with
  | opened decoder =>
    cases last with
    | frame f =>
      cases f with
      | close cause => simp [verbatim, takes, phase]
      | _ => cases ends
    | _ => simp [verbatim, takes, phase]
  | _ => simp [verbatim, takes, phase]

/-- What ends a connection decides alone which end is reported, after the text of what was held
back. -/
theorem exists_end {last : Arrival} (ends : last.isEnd = true) :
    ∃ e : LinkEvent, e.isEnd = true ∧ ∀ (l : Link) (decoder : Text.Utf8.Stream),
      l.phase = .opened decoder → l.reports (.receive last) = spoken decoder.flush.1 ++ [e] := by
  cases last with
  | frame f =>
    cases f with
    | close cause =>
      cases cause with
      | none =>
        exact ⟨.closed noCode "", rfl, fun l decoder opened =>
          reports_finish (by simp [step, receive, opened])⟩
      | some cause =>
        exact ⟨.closed cause.1 cause.2, rfl, fun l decoder opened =>
          reports_finish (by simp [step, receive, opened])⟩
    | _ => cases ends
  | fault message =>
    exact ⟨.failed message, rfl, fun l decoder opened =>
      reports_finish (by simp [step, receive, opened])⟩
  | ended =>
    exact ⟨.closed abnormalClosure "connection dropped", rfl, fun l decoder opened =>
      reports_finish (by simp [step, receive, opened])⟩

namespace Course

def messages (c : Course) : List Input → List (Item Char)
  | [] => []
  | i :: inputs => c.link.items i ++ (c.next i).messages inputs

variable {inputs : List Input}

theorem messages_append (c : Course) (inputs later : List Input) :
    c.messages (inputs ++ later) = c.messages inputs ++ (c.run inputs).messages later := by
  induction inputs generalizing c with
  | nil => rfl
  | cons i inputs ih =>
    rw [List.cons_append, messages, messages, ih, List.append_assoc]
    rfl

theorem messages_append_singleton (inputs : List Input) (i : Input) :
    ({} : Course).messages (inputs ++ [i]) =
      ({} : Course).messages inputs ++ (({} : Course).run inputs).link.items i := by
  rw [messages_append, messages, messages, List.append_nil]

theorem words_messages (inputs : List Input) :
    (({} : Course).messages inputs).map Item.words =
      (({} : Course).run inputs).events.filterMap LinkEvent.text? := by
  induction inputs using List.reverseRecOn with
  | nil => rfl
  | append_singleton inputs i ih =>
    rw [messages_append_singleton, run_append_singleton, events_next, List.map_append, ih,
      List.filterMap_append]
    exact congrArg _ (LinkEvent.words_items _ _)

theorem decoded_run (open_ : (({} : Course).run inputs).link.phase ≠ .ended) (r : Runs UInt8) :
    let c := ({} : Course).run inputs
    ((c.frames.map Frame.item).foldr Runs.add r).decoded =
      (({} : Course).messages inputs).foldr Runs.add (r.decodedFrom c.link.phase.held) := by
  induction inputs using List.reverseRecOn generalizing r with
  | nil => rfl
  | append_singleton inputs i ih =>
    let c := ({} : Course).run inputs
    have turn := c.link.turn i
    rw [run_append_singleton] at open_
    have before : c.link.phase ≠ .ended := fun ended => open_ (turn.ended ended)
    have last := turn.decodedFrom open_ r
    simp only [run_append_singleton, messages_append_singleton, next, List.map_append,
      List.foldr_append]
    rw [ih before, last]
    rfl

section End

variable {last : Arrival} {e : LinkEvent} {decoder : Text.Utf8.Stream}

/-- The messages of a run that the host ends are the texts of the runs that it has sent, each
decoded as a whole. -/
theorem join_messages_at_end
    (opened : (({} : Course).run inputs).link.phase = .opened decoder) (ends : last.isEnd = true)
    (reports : (({} : Course).run inputs).link.reports (.receive last) =
      spoken decoder.flush.1 ++ [e]) (isEnd : e.isEnd = true) :
    Runs.join (({} : Course).messages (inputs ++ [.receive last])) =
      (Frame.runs (({} : Course).run inputs).frames).decoded := by
  have open_ : (({} : Course).run inputs).link.phase ≠ .ended := by simp [opened]
  have items : ((({} : Course).run inputs).link.items (.receive last)).foldr Runs.add {} =
      Runs.decodedFrom decoder.held {} := by
    rw [items, verbatim_of_end ends, reports,
      foldr_items_spoken decoder.flush.1 (by simp [LinkEvent.text?_of_isEnd isEnd])]
    simp [Runs.add, Runs.decodedFrom, Text.Utf8.Stream.flush]
  rw [Frame.runs, Runs.join, Runs.join, decoded_run open_, messages_append_singleton,
    List.foldr_append, items, opened]
  rfl

theorem events_at_end
    (opened : (({} : Course).run inputs).link.phase = .opened decoder)
    (reports : (({} : Course).run inputs).link.reports (.receive last) =
      spoken decoder.flush.1 ++ [e]) (isEnd : e.isEnd = true) :
    ((({} : Course).run inputs).next (.receive last)).events =
      .opened :: (({} : Course).messages (inputs ++ [.receive last])).map (.message ·.words) ++
        [e] := by
  have fits := fits_run inputs
  rw [opened] at fits
  obtain ⟨texts, before⟩ := fits
  obtain ⟨more, after, -⟩ := exists_map_spoken decoder.flush.1
  have whole : ((({} : Course).run inputs).next (.receive last)).events =
      .opened :: (texts ++ more).map .message ++ [e] := by
    rw [events_next, before, reports, after]
    simp
  have words : (({} : Course).messages (inputs ++ [.receive last])).map Item.words =
      texts ++ more := by
    have said : ((texts ++ more).map LinkEvent.message).filterMap LinkEvent.text? =
        texts ++ more := by
      rw [List.filterMap_map]
      exact List.filterMap_some
    rw [words_messages, run_append_singleton, whole, List.filterMap_append,
      List.filterMap_cons_none rfl, said]
    simp [LinkEvent.text?_of_isEnd isEnd]
  rw [whole, ← words, List.map_map]
  rfl

end End

/-- Two links that receive the same bytes between the same text frames, and the same end, report the
same text, however the bytes are cut into binary frames. -/
theorem text_independent_of_cuts (inputs inputs' : List Input) (last : Arrival) :
    let c := ({} : Course).run inputs
    let c' := ({} : Course).run inputs'
    c.link.isOpen = true → c'.link.isOpen = true → last.isEnd = true →
    Frame.runs c.frames = Frame.runs c'.frames →
      let told := ({} : Course).messages (inputs ++ [.receive last])
      let told' := ({} : Course).messages (inputs' ++ [.receive last])
      Runs.join told = Runs.join told' ∧
        ∃ e : LinkEvent, e.isEnd = true ∧
          (c.next (.receive last)).events = .opened :: told.map (.message ·.words) ++ [e] ∧
          (c'.next (.receive last)).events = .opened :: told'.map (.message ·.words) ++ [e] := by
  intro c c' open_ open_' ends same told told'
  obtain ⟨decoder, opened⟩ := isOpen_iff.mp open_
  obtain ⟨decoder', opened'⟩ := isOpen_iff.mp open_'
  obtain ⟨e, isEnd, reports⟩ := exists_end ends
  have reported : c.link.reports (.receive last) = spoken decoder.flush.1 ++ [e] :=
    reports c.link decoder opened
  have reported' : c'.link.reports (.receive last) = spoken decoder'.flush.1 ++ [e] :=
    reports c'.link decoder' opened'
  refine ⟨?_, e, isEnd, events_at_end opened reported isEnd, events_at_end opened' reported' isEnd⟩
  calc Runs.join told
      = (Frame.runs c.frames).decoded := join_messages_at_end opened ends reported isEnd
    _ = (Frame.runs c'.frames).decoded := by rw [same]
    _ = Runs.join told' := (join_messages_at_end opened' ends reported' isEnd).symm

/-- A euro sign cut in two ways, with a ping inside it, and one that the next text frame breaks
off. -/
theorem text_of_euro_cut_twice :
    let inputs : List Input := [.connected (.ok ()), .receive (.frame (.binary [0x24, 0xE2])),
      .receive (.frame .ping), .receive (.frame (.binary [0x82, 0xAC, 0xE2])),
      .receive (.frame (.text "x")), .receive (.frame (.binary [0x82]))]
    let inputs' : List Input := [.connected (.ok ()), .receive (.frame (.binary [0x24])),
      .receive (.frame (.binary [0xE2, 0x82])), .send "ls\n", .obey (.ok ()),
      .receive (.frame (.binary [0xAC])), .receive (.frame (.binary [0xE2])),
      .receive (.frame (.text "x")), .receive (.frame .pong), .receive (.frame (.binary [0x82]))]
    let last : Arrival := .frame (.close none)
    let c := ({} : Course).run inputs
    let c' := ({} : Course).run inputs'
    (c.link.isOpen = true ∧ c'.link.isOpen = true ∧ last.isEnd = true ∧
      Frame.runs c.frames = Frame.runs c'.frames) ∧
      Runs.join (({} : Course).messages (inputs ++ [.receive last])) =
        Runs.join (({} : Course).messages (inputs' ++ [.receive last])) ∧
      Runs.join (({} : Course).messages (inputs ++ [.receive last])) =
        ⟨['$', '€', '\uFFFD'], [("x", ['\uFFFD'])]⟩ ∧
      (c.next (.receive last)).events = [.opened, .message "$", .message "€", .message "\uFFFD",
        .message "x", .message "\uFFFD", .closed noCode ""] ∧
      (c'.next (.receive last)).events = [.opened, .message "$", .message "€", .message "\uFFFD",
        .message "x", .message "\uFFFD", .closed noCode ""] := by
  intro inputs inputs' last c c'
  have alike : c.link.isOpen = true ∧ c'.link.isOpen = true ∧ last.isEnd = true ∧
      Frame.runs c.frames = Frame.runs c'.frames := by decide +kernel
  have ⟨open_, open_', ends, same⟩ := alike
  obtain ⟨joined, -⟩ := text_independent_of_cuts inputs inputs' last open_ open_' ends same
  exact ⟨alike, joined, by decide +kernel⟩

end Course

end Link

end HostWatch
