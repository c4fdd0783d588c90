import HostWatch.Proofs.Shell.Invariant
import Mathlib.Data.List.DropRight

namespace HostWatch.Session

def Input.textOf? (epoch : Nat) : Input → Option String
  | .event e (.message raw) => if e = epoch then some raw else none
  | _ => none

theorem Input.textOf?_of_unheard {epoch : Nat} {i : Input} (unheard : ∀ e, i ≠ .event epoch e) :
    i.textOf? epoch = none := by
  cases i with
  | event later e =>
    have other : later ≠ epoch := fun eq => unheard e (eq ▸ rfl)
    cases e <;> simp [Input.textOf?, other]
  | _ => rfl

def plainText (raws : List String) : String := String.join (raws.map Text.plain)

@[simp] theorem plainText_nil : plainText [] = "" := rfl

theorem plainText_append (raws more : List String) :
    plainText (raws ++ more) = plainText raws ++ plainText more := by
  rw [plainText, List.map_append, String.join_append]
  rfl

variable {s : Session}

/-- The transcript grows at its end by the messages of the present attempt, whatever state its
connection is shown in. -/
theorem step_transcript (h : s.Coherent) (accepts : Nat → Bool) (i : Input) :
    (s.step accepts i).2.1.state.transcript =
      if i.isConnect then ""
      else s.state.transcript ++ plainText (i.textOf? s.epoch).toList := by
  have becomes := h.becomes accepts i
  generalize (s.step accepts i).2.1 = t at becomes
  cases becomes with
  | connected url => rfl
  | closed =>
    cases hc : s.current <;> simp [close, hc, announce, Input.isConnect, Input.textOf?]
  | submitted line =>
    obtain ⟨mark, eq⟩ := s.submit_marks accepts line
    simp [eq, write, Input.isConnect, Input.textOf?]
  | heard e =>
    cases e with
    | message raw =>
      by_cases blank : (Text.plain raw).isEmpty
      · have none : Text.plain raw = "" := by simpa using blank
        simp [heard, forward, none, Input.isConnect, Input.textOf?, plainText]
      · simp [heard, forward, write, blank, Input.isConnect, Input.textOf?, plainText]
    | _ => simp [heard, announce, dropCurrent, write, Input.isConnect, Input.textOf?]
  | aside other unheard _ =>
    have ongoing : ¬ i.isConnect = true := fun connect =>
      Bool.false_ne_true (other.symm.trans (Input.isTurn_of_isConnect connect))
    simp [ongoing, Input.textOf?_of_unheard unheard]

namespace Course

/-- The raw texts that come from the attempts present at the time, where `epoch` is the present one
at first. -/
def texts (epoch : Nat) : List Move → List String
  | [] => []
  | m :: ms =>
    (m.input.textOf? epoch).toList ++ texts (epoch + if m.input.isTurn then 1 else 0) ms

theorem run_transcript {c : Course} (h : c.session.Coherent) {ms : List Move}
    (others : ∀ m ∈ ms, m.input.isConnect = false) :
    (c.run ms).session.state.transcript =
      c.session.state.transcript ++ plainText (texts c.session.epoch ms) := by
  -- the epoch after a move is what `texts` reckons it to be, so both follow the same attempt
  induction ms generalizing c with
  | nil => simp [run, texts]
  | cons m ms ih =>
    have first : (c.next m).session.state.transcript = _ := step_transcript h _ _
    have epoch : (c.next m).session.epoch = _ := step_epoch h _ _
    rw [if_neg (by simp [others m List.mem_cons_self])] at first
    rw [run_cons, ih (h.step _ _) fun m' mem => others m' (List.mem_cons_of_mem m mem), first,
      epoch, texts, plainText_append, String.append_assoc]

def untilConnect (ms : List Move) : List Move := ms.rdropWhile (!·.input.isConnect)

def sinceConnect (ms : List Move) : List Move := ms.rtakeWhile (!·.input.isConnect)

theorem untilConnect_append_sinceConnect (ms : List Move) :
    untilConnect ms ++ sinceConnect ms = ms := by
  simp only [untilConnect, sinceConnect, List.rdropWhile_append_rtakeWhile]

theorem sinceConnect_others {ms : List Move} :
    ∀ m ∈ sinceConnect ms, m.input.isConnect = false := by
  intro m mem
  simpa using List.mem_rtakeWhile_imp mem

def transcriptAfter (ms : List Move) : String :=
  (({} : Course).run ms).session.state.transcript

theorem transcriptAfter_append (ms : List Move) {during : List Move}
    (others : ∀ m ∈ during, m.input.isConnect = false) :
    transcriptAfter (ms ++ during) =
      transcriptAfter ms ++ plainText (texts (turns ms) during) := by
  have coherent := (run_sound (c := {}) sound_initial ms).toCoherent
  have epoch : (({} : Course).run ms).session.epoch = 0 + turns ms := run_epoch coherent_initial ms
  rw [transcriptAfter, run_append, run_transcript coherent others, epoch, Nat.zero_add,
    transcriptAfter]

theorem transcriptAfter_untilConnect (ms : List Move) : transcriptAfter (untilConnect ms) = "" := by
  rcases List.eq_nil_or_concat (untilConnect ms) with none | ⟨before, last, some⟩
  · rw [none]
    rfl
  · have connect : last.input.isConnect = true := by
      have := List.rdropWhile_last_not (fun m : Move => !m.input.isConnect) ms
      simp only [untilConnect] at some
      simpa [some] using this
    have coherent := (run_sound (c := {}) sound_initial before).toCoherent
    have cleared : ((({} : Course).run before).next last).session.state.transcript = _ :=
      step_transcript coherent _ _
    rw [some, List.concat_eq_append, transcriptAfter, run_append]
    exact cleared.trans (if_pos connect)

/-- In every state that can be reached the transcript is the plain text of the present attempts'
messages since the last call to connect, in the order they were taken in. -/
theorem transcript_eq_plainText (ms : List Move) :
    transcriptAfter ms = plainText (texts (turns (untilConnect ms)) (sinceConnect ms)) ∧
      ∀ during : List Move, (∀ m ∈ during, m.input.isConnect = false) →
        transcriptAfter (ms ++ during) =
          transcriptAfter ms ++ plainText (texts (turns ms) during) := by
  refine ⟨?_, fun during others => transcriptAfter_append ms others⟩
  calc transcriptAfter ms
      = transcriptAfter (untilConnect ms ++ sinceConnect ms) := by
        rw [untilConnect_append_sinceConnect]
    _ = transcriptAfter (untilConnect ms) ++
          plainText (texts (turns (untilConnect ms)) (sinceConnect ms)) :=
        transcriptAfter_append (untilConnect ms) sinceConnect_others
    _ = plainText (texts (turns (untilConnect ms)) (sinceConnect ms)) := by
        rw [transcriptAfter_untilConnect, String.empty_append]

theorem transcript_of_second_attempt :
    let ms : List Move := [.accepted (.reconnect shellUrl), .accepted (.event 1 (.message "first")),
      .accepted (.reconnect shellUrl), .accepted (.event 1 (.message "late")),
      .accepted (.event 2 (.message "\x1b[32mok\x1b[0m\r\n"))]
    let during : List Move := [.accepted (.event 2 (.message "$ ")), .accepted .close,
      .accepted (.event 2 (.message "later"))]
    transcriptAfter ms = "ok\n" ∧ transcriptAfter (ms ++ during) = "ok\n$ " := by
  intro ms during
  obtain ⟨whole, grows⟩ := transcript_eq_plainText ms
  have others : ∀ m ∈ during, m.input.isConnect = false := by decide
  have shown : transcriptAfter ms = "ok\n" := whole.trans (by decide)
  have added : plainText (texts (turns ms) during) = "$ " := by decide
  refine ⟨shown, ?_⟩
  rw [grows during others, added, shown]
  rfl

end Course

end HostWatch.Session
