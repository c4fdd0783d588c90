import HostWatch.Proofs.Shell.Reports
import HostWatch.Proofs.Text.Pieces

namespace HostWatch

open Text.Utf8 (lossy split replacement)

/-- The text of frames that arrive after some bytes: the bytes of binary frames are decoded as if
they had arrived at once up to the next text frame. -/
def Frame.textFrom (bytes : List UInt8) : List Frame → List Char
  | [] => lossy bytes
  | .text s :: frames => lossy bytes ++ s.toList ++ textFrom [] frames
  | .binary more :: frames => textFrom (bytes ++ more) frames
  | _ :: frames => textFrom bytes frames

def Frame.textOf (frames : List Frame) : List Char := textFrom [] frames

theorem Frame.textFrom_wordless {fs : List Frame} (wordless : ∀ f ∈ fs, f.isWorded = false)
    (bytes : List UInt8) (more : List Frame) :
    textFrom bytes (fs ++ more) = textFrom bytes more := by
  induction fs with
  | nil => rfl
  | cons f fs ih =>
    have later := ih fun g mem => wordless g (List.mem_cons_of_mem f mem)
    have first := wordless f List.mem_cons_self
    cases f with
    | text s => cases first
    | binary more => cases first
    | _ => exact later

theorem Frame.textFrom_split (bytes : List UInt8) (fs : List Frame) :
    textFrom bytes fs = (split bytes).1 ++ textFrom (split bytes).2 fs := by
  induction fs generalizing bytes with
  | nil => exact Text.Utf8.lossy_eq_split bytes
  | cons f fs ih =>
    cases f with
    | text s =>
      simp only [textFrom]
      rw [Text.Utf8.lossy_eq_split bytes]
      simp
    | binary more =>
      simp only [textFrom]
      rw [ih (bytes ++ more), ih ((split bytes).2 ++ more), Text.Utf8.split_append]
      simp
    | _ => exact ih bytes

namespace Link

variable {l : Link} {events : List LinkEvent}

def wordsOf (events : List LinkEvent) : List Char :=
  (events.filterMap LinkEvent.text?).flatMap String.toList

theorem wordsOf_append (events later : List LinkEvent) :
    wordsOf (events ++ later) = wordsOf events ++ wordsOf later := by
  simp [wordsOf]

theorem wordsOf_spoken (text : List Char) : wordsOf (spoken text) = text := by
  unfold spoken
  cases text <;> simp [wordsOf, LinkEvent.text?]

theorem wordsOf_end {e : LinkEvent} (ends : e.isEnd = true) : wordsOf [e] = [] := by
  cases e with
  | message text => cases ends
  | _ => rfl

/-- Whether a step loses bytes: it is to write something and cannot, while bytes are held back. -/
def loses (l : Link) (i : Input) : Prop := l.writeFails i = true ∧ l.held ≠ []

theorem writeFails_of_takes {i : Input} {f : Frame} (takes : f ∈ l.takes i) :
    l.writeFails i = false := by
  cases i with
  | receive a => rfl
  | _ => simp [takes_of_unreceived] at takes

/-- The text of the frames taken in is accounted for by what has been reported, together with what
is held back; what is missing at the end has been lost. -/
def Accounts (frames : List Frame) (events : List LinkEvent) (lost : Prop) : LinkPhase → Prop
  | .connecting => frames = [] ∧ ¬ lost
  | .opened decoder =>
    split decoder.held = ([], decoder.held) ∧ ¬ lost ∧
      ∀ more, Frame.textOf (frames ++ more) = wordsOf events ++ Frame.textFrom decoder.held more
  | .ended =>
    (∃ e ∈ events, e.isEnd = true) →
      ¬ lost ∧ Frame.textOf frames = wordsOf events ∨
        lost ∧ Frame.textOf frames = wordsOf events ++ [replacement]

theorem Turn.accounts {i : Input} {after : LinkPhase} {told : List LinkEvent} {frames : List Frame}
    {lost : Prop} (turn : l.Turn i after told) (fits : Fits l.phase events)
    (accounts : Accounts frames events lost l.phase) :
    Accounts (frames ++ l.takes i) (events ++ told) (l.loses i ∨ lost) after := by
  cases turn with
  | opens start =>
    rw [start] at fits accounts
    obtain ⟨rfl, kept⟩ := accounts
    rw [show events = [] from fits]
    have sound : ¬ l.loses i := fun loss => loss.2 (by simp [held, start])
    refine ⟨by simp [split], by simp [sound, kept], fun more => ?_⟩
    simp [takes, start, Frame.textOf, wordsOf, LinkEvent.text?]
  | barred start ends =>
    rw [start] at fits accounts
    obtain ⟨rfl, kept⟩ := accounts
    rw [show events = [] from fits]
    have sound : ¬ l.loses i := fun loss => loss.2 (by simp [held, start])
    refine fun _ => Or.inl ⟨by simp [sound, kept], ?_⟩
    simp [takes, start, Frame.textOf, Frame.textFrom, lossy, wordsOf_end ends]
  | @decodes decoder bytes start taken =>
    rw [start] at accounts
    obtain ⟨-, kept, text⟩ := accounts
    have sound : ¬ l.loses i := by simp [loses, writeFails_of_takes (f := .binary bytes), taken]
    refine ⟨Text.Utf8.split_held _, by simp [sound, kept], fun more => ?_⟩
    calc Frame.textOf (frames ++ l.takes i ++ more)
        = wordsOf events ++ Frame.textFrom (decoder.held ++ bytes) more := by
          rw [taken, List.append_assoc, text]
          rfl
      _ = wordsOf (events ++ spoken (decoder.push bytes).1) ++
            Frame.textFrom (decoder.push bytes).2.held more := by
          rw [Frame.textFrom_split, wordsOf_append, wordsOf_spoken, List.append_assoc]
          rfl
  | @passesOn decoder s start taken =>
    rw [start] at accounts
    obtain ⟨-, kept, text⟩ := accounts
    have sound : ¬ l.loses i := by simp [loses, writeFails_of_takes (f := .text s), taken]
    refine ⟨by simp [Text.Utf8.Stream.flush, split], by simp [sound, kept], fun more => ?_⟩
    have own : wordsOf [.message s] = s.toList := by simp [wordsOf, LinkEvent.text?]
    rw [taken, List.append_assoc, text, wordsOf_append, wordsOf_append, wordsOf_spoken, own]
    simp [Frame.textFrom, Text.Utf8.Stream.flush]
  | @ends decoder e start wordless fine ends =>
    rw [start] at accounts
    obtain ⟨-, kept, text⟩ := accounts
    have sound : ¬ l.loses i := by simp [loses, fine]
    refine fun _ => Or.inl ⟨by simp [sound, kept], ?_⟩
    have last := Frame.textFrom_wordless wordless decoder.held []
    rw [List.append_nil] at last
    rw [text, last, wordsOf_append, wordsOf_append, wordsOf_spoken, wordsOf_end ends]
    simp [Frame.textFrom, Text.Utf8.Stream.flush]
  | @breaks decoder e start wordless fails ends =>
    rw [start] at accounts
    obtain ⟨back, kept, text⟩ := accounts
    have last := Frame.textFrom_wordless wordless decoder.held []
    rw [List.append_nil] at last
    have whole : Frame.textOf (frames ++ l.takes i) =
        wordsOf (events ++ [e]) ++ if decoder.held = [] then [] else [replacement] := by
      rw [text, last, wordsOf_append, wordsOf_end ends, List.append_nil,
        ← Text.Utf8.lossy_of_held back]
      rfl
    intro _
    have loses_iff : l.loses i ↔ decoder.held ≠ [] := by simp [loses, fails, held, start]
    by_cases empty : decoder.held = []
    · exact Or.inl ⟨by simp [loses_iff, empty, kept], by simpa [empty] using whole⟩
    · exact Or.inr ⟨by simp [loses_iff, empty], by simpa [empty] using whole⟩
  | givenUp wordless fine =>
    have sound : ¬ l.loses i := by simp [loses, fine]
    simp only [List.append_nil, sound, false_or]
    cases start : l.phase with
    | connecting =>
      rw [start] at fits
      rw [show events = [] from fits]
      rintro ⟨e, mem, -⟩
      cases mem
    | opened decoder =>
      rw [start] at fits
      obtain ⟨texts, rfl⟩ := fits
      rintro ⟨e, mem, ends⟩
      simp [LinkEvent.not_isEnd_of_mem mem] at ends
    | ended =>
      rw [start] at accounts
      simpa [takes, start] using accounts
  | rests wordless fine =>
    have sound : ¬ l.loses i := fun loss => Bool.noConfusion (loss.1.symm.trans (fine loss.2))
    simp only [List.append_nil, sound, false_or]
    cases start : l.phase with
    | opened decoder =>
      rw [start] at accounts
      obtain ⟨back, kept, text⟩ := accounts
      refine ⟨back, kept, fun more => ?_⟩
      rw [List.append_assoc, text, Frame.textFrom_wordless wordless]
    | _ =>
      rw [start] at accounts
      simpa [takes, start] using accounts

namespace Course

theorem accounts_run (inputs : List Input) :
    let c := ({} : Course).run inputs
    Accounts c.frames c.events
      (Once (fun past i => (({} : Course).run past).link.loses i) inputs) c.link.phase := by
  induction inputs using List.reverseRecOn with
  | nil => exact ⟨rfl, not_once_nil⟩
  | append_singleton inputs i ih =>
    have turned := (turn _ i).accounts (fits_run inputs) ih
    simp only [run_append_singleton, events_next, once_append_singleton]
    exact turned

/-- The messages before the end make up the text of all frames taken in, unless a text or a ping
could not be written while bytes were held back. -/
theorem text_reported_iff (inputs : List Input) :
    let c := ({} : Course).run inputs
    let lost := Once (fun past i => (({} : Course).run past).link.loses i) inputs
    ∀ before e after, c.events = .opened :: before ++ e :: after → e.isEnd = true →
      (wordsOf before = Frame.textOf c.frames ↔ ¬ lost) ∧
        (lost → Frame.textOf c.frames = wordsOf before ++ [replacement]) := by
  intro c lost before e after eq ends
  have fits : Fits c.link.phase c.events := fits_run inputs
  have accounts : Accounts c.frames c.events lost c.link.phase := accounts_run inputs
  have mem : e ∈ c.events := by simp [eq]
  have ended : c.link.phase = .ended := by
    cases at_ : c.link.phase with
    | connecting =>
      rw [at_] at fits
      simp [show c.events = [] from fits] at mem
    | opened decoder =>
      rw [at_] at fits
      obtain ⟨texts, same⟩ := fits
      rw [same] at mem
      simp [LinkEvent.not_isEnd_of_mem mem] at ends
    | ended => rfl
  have last : after = [] := LinkEvent.Orderly.after_end (eq ▸ fits.orderly) ends
  have words : wordsOf c.events = wordsOf before := by
    rw [eq, last, wordsOf_append, wordsOf_end ends, List.append_nil]
    rfl
  rw [ended] at accounts
  rw [← words]
  rcases accounts ⟨e, mem, ends⟩ with ⟨kept, text⟩ | ⟨loss, text⟩
  · exact ⟨by simp [kept, text], fun loss => absurd loss kept⟩
  · exact ⟨by simp [loss, text], fun _ => text⟩

/-- The host closes after two of the three bytes of a character. -/
theorem close_completes_text :
    let inputs : List Input := [.connected (.ok ()), .receive (.frame (.binary [0x24, 0xE2, 0x82])),
      .receive (.frame (.close none))]
    let c := ({} : Course).run inputs
    let before : List LinkEvent := [.message "$", .message "\uFFFD"]
    c.events = .opened :: before ++ [.closed noCode ""] ∧
      wordsOf before = Frame.textOf c.frames := by
  intro inputs c before
  have told : c.events = .opened :: before ++ [.closed noCode ""] := by decide +kernel
  have kept : ¬ Once (fun past i => (({} : Course).run past).link.loses i) inputs := by
    rw [show inputs = [] ++ [_] ++ [_] ++ [_] from rfl]
    simp only [once_append_singleton, not_once_nil, or_false]
    simp [loses, writeFails]
  exact ⟨told, (text_reported_iff inputs before _ [] told rfl).1.mpr kept⟩

/-- The same bytes are missing when the link ends because a ping cannot be written. -/
theorem failed_ping_loses_bytes :
    let c := ({} : Course).run [.connected (.ok ()),
      .receive (.frame (.binary [0x24, 0xE2, 0x82])),
      .ping (.error "IO error: Broken pipe (os error 32)")]
    c.events = [.opened, .message "$", .failed "IO error: Broken pipe (os error 32)"] ∧
      Frame.textOf c.frames = ['$', replacement] := by
  decide +kernel

end Course

end Link

end HostWatch
