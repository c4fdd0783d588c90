import HostWatch.Proofs.Shell.Transcript
import HostWatch.Proofs.Text.LineEnds

namespace HostWatch.Session

open Text.Plain (escape ofChars)

def cutLineEnds (raws : List String) : Nat := Text.Plain.cutLineEnds (raws.map String.toList)

theorem toList_plainText (raws : List String) :
    (plainText raws).toList = ((raws.map String.toList).map ofChars).flatten := by
  induction raws with
  | nil => rfl
  | cons raw raws ih =>
    have split : plainText (raw :: raws) = Text.plain raw ++ plainText raws := by
      rw [plainText, List.map_cons, String.join_cons, ← plainText]
    simp [split, ih, Text.plain]

theorem toList_plain_join (raws : List String) :
    (Text.plain (String.join raws)).toList = ofChars (raws.map String.toList).flatten := by
  rw [Text.plain, String.toList_ofList, String.toList_join, List.flatMap_def]

namespace Course

/-- Messages without control sequences add the plain text of their uncut text to the transcript just
when no line end is cut between them. -/
theorem pieces_transcribed_iff (before during : List Move) :
    let raws := texts (turns before) during
    (∀ m ∈ during, m.input.isConnect = false) → (∀ raw ∈ raws, escape ∉ raw.toList) →
      ∃ added : String, transcriptAfter (before ++ during) = transcriptAfter before ++ added ∧
        let uncut := Text.plain (String.join raws)
        (added = uncut ↔ cutLineEnds raws = 0) ∧
          added.toList.count '\r' = uncut.toList.count '\r' + cutLineEnds raws ∧
          added.toList.filter (· ≠ '\r') = uncut.toList.filter (· ≠ '\r') := by
  intro raws others unescaped
  have none : escape ∉ (raws.map String.toList).flatten := by
    simpa using unescaped
  refine ⟨plainText raws, transcriptAfter_append before others, ?_⟩
  intro uncut
  rw [← String.toList_inj, toList_plainText, toList_plain_join]
  exact ⟨Text.Plain.map_ofChars_eq_iff none, Text.Plain.count_map_ofChars none,
    Text.Plain.filter_map_ofChars none⟩

/-- Cuts at line ends and around a bell, but none within a line end. -/
theorem pieces_of_two_lines :
    let before : List Move := [.accepted (.reconnect shellUrl), .accepted (.event 1 .opened)]
    let during : List Move := [.accepted (.event 1 (.message "total 0\r\n$")),
      .accepted (.submit "pwd"), .accepted (.event 1 (.message "")),
      .accepted (.event 1 (.message " pwd\x07")), .accepted (.event 1 (.message "\r\n/home/pi\r"))]
    let raws := texts (turns before) during
    String.join raws = "total 0\r\n$ pwd\x07\r\n/home/pi\r" ∧
      transcriptAfter (before ++ during) = "total 0\n$ pwd\n/home/pi\r" := by
  intro before during raws
  have others : ∀ m ∈ during, m.input.isConnect = false := by decide
  have unescaped : ∀ raw ∈ raws, escape ∉ raw.toList := by decide
  obtain ⟨added, grows, same, -⟩ := pieces_transcribed_iff before during others unescaped
  have whole : added = "total 0\n$ pwd\n/home/pi\r" := (same.mpr (by decide)).trans (by decide)
  refine ⟨by decide, ?_⟩
  rw [grows, whole]
  rfl

/-- A line end that is cut into two messages keeps its carriage return. -/
theorem cut_line_end_keeps_return :
    let before : List Move := [.accepted (.reconnect shellUrl), .accepted (.event 1 .opened)]
    let uncut : List Move := [.accepted (.event 1 (.message "a\r\nb"))]
    let cut : List Move := [.accepted (.event 1 (.message "a\r")),
      .accepted (.event 1 (.message "\nb"))]
    String.join (texts (turns before) cut) = "a\r\nb" ∧ Text.plain "a\r\nb" = "a\nb" ∧
      transcriptAfter (before ++ uncut) = "a\nb" ∧ transcriptAfter (before ++ cut) = "a\r\nb" := by
  decide

end Course

end HostWatch.Session
