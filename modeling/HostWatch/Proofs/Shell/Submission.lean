import HostWatch.Proofs.Shell.Invariant

namespace HostWatch

theorem ShellState.marked_eq_iff (t : ShellState) (mark : Bool) :
    { t with awaiting := mark } = t ↔ mark = t.awaiting := by
  cases t
  simp

namespace Session

variable {s : Session}

section Rejected

variable (accepts : Nat → Bool) (line : String)

/-- All that a rejected line can change is the mark, and a blank line does not change it. -/
theorem Sound.submit_rejected (h : s.Sound) (rejected : (s.submit accepts line).1 ≠ .sent) :
    (s.submit accepts line).2.1 =
      s.write ({ · with awaiting := s.state.awaiting && (Text.trim line).isEmpty }) := by
  rw [h.submit_eq] at rejected ⊢
  by_cases blank : (Text.trim line).isEmpty
  · simp [blank, write]
  by_cases opened : s.state.connection = .opened
  · simp only [blank, opened, Bool.false_eq_true, ↓reduceIte] at rejected ⊢
    cases taken : s.current.filter accepts with
    | none => simp
    | some e => simp [taken] at rejected
  -- the connection is not open, so the invariant leaves no mark that could be lost
  · have unmarked : s.state.awaiting = false := by
      cases mark : s.state.awaiting with
      | false => rfl
      | true => exact absurd (h.awaited mark).1 opened
    simp only [blank, opened, Bool.false_eq_true, ↓reduceIte, unmarked, Bool.false_and]
    simp [write, ← unmarked]

/-- A line that is rejected while an answer is awaited is blank, or the link in use refuses it. -/
theorem Sound.refused (h : s.Sound) (rejected : (s.submit accepts line).1 ≠ .sent)
    (mark : s.state.awaiting = true) (filled : (Text.trim line).isEmpty = false) :
    ∃ e ∈ s.current, accepts e = false := by
  obtain ⟨opened, used⟩ := h.awaited mark
  obtain ⟨e, he⟩ := Option.isSome_iff_exists.mp used
  refine ⟨e, he, ?_⟩
  cases taken : accepts e with
  | false => rfl
  | true => simp [h.submit_eq, filled, opened, he, Option.filter_some, taken] at rejected

end Rejected

namespace Course

/-- A rejected line leaves the published state as it was, unless an answer to an earlier line is
awaited, whose mark is then gone although it has not been answered. -/
theorem rejected_state_eq_iff (ms : List Move) (accepts : Nat → Bool) (line : String) :
    let s := (({} : Course).run ms).session
    let result := s.submit accepts line
    let after := result.2.1.state
    result.1 = .ignored ∨ result.1 = .notConnected →
      (after = s.state ↔ (s.state.awaiting = true → (Text.trim line).isEmpty)) ∧
      (after ≠ s.state →
        (∃ e ∈ s.current, accepts e = false) ∧ after = { s.state with awaiting := false } ∧
          s.state.output = .loading ∧ after.output = .success s.state.transcript) := by
  intro s
  have sound : s.Sound := run_sound sound_initial ms
  have session := sound.submit_rejected accepts line
  have refused := sound.refused accepts line
  generalize s.submit accepts line = submitted at session refused
  intro result after verdict
  have rejected : submitted.1 ≠ .sent := by
    rcases verdict with eq | eq <;> simp [show submitted.1 = _ from eq]
  have left : after =
      { s.state with awaiting := s.state.awaiting && (Text.trim line).isEmpty } :=
    congrArg (·.state) (session rejected)
  have kept_iff : after = s.state ↔ (s.state.awaiting = true → (Text.trim line).isEmpty) := by
    rw [left, s.state.marked_eq_iff]
    cases s.state.awaiting <;> simp
  refine ⟨kept_iff, fun changed => ?_⟩
  rw [ne_eq, kept_iff, Classical.not_imp, Bool.not_eq_true] at changed
  obtain ⟨mark, filled⟩ := changed
  have cleared : after = { s.state with awaiting := false } := by
    rw [left, filled, Bool.and_false]
  have clear : s.state.error = none := sound.clear (sound.used (sound.awaited mark).2)
  refine ⟨refused rejected mark filled, cleared, ?_, ?_⟩
  · simp [ShellState.output, clear, mark]
  · simp [cleared, ShellState.output, clear]

theorem refused_first_line_keeps_state :
    let ms : List Move := [.accepted (.reconnect shellUrl), .accepted (.event 1 .opened)]
    let s := (({} : Course).run ms).session
    let result := s.submit (fun _ => false) "ls"
    result.1 = .notConnected ∧ result.2.1.state = s.state := by
  intro ms s result
  have rejected : result.1 = .notConnected := rfl
  have unmarked : s.state.awaiting = false := rfl
  have kept := (rejected_state_eq_iff ms (fun _ => false) "ls" (Or.inr rejected)).1
  exact ⟨rejected, kept.mpr fun mark => absurd (unmarked.symm.trans mark) Bool.false_ne_true⟩

/-- A line that the link refuses makes the session forget that an earlier one awaits its answer. -/
theorem refused_line_forgets_earlier :
    let s := (({} : Course).run [.accepted (.reconnect shellUrl), .accepted (.event 1 .opened),
      .accepted (.submit "sleep 5")]).session
    let result := s.submit (fun _ => false) "ls"
    s.state.awaiting = true ∧ s.state.output = .loading ∧ result.1 = .notConnected ∧
      result.2.1.state.awaiting = false ∧ result.2.1.state.output = .success "" ∧
      result.2.1.state ≠ s.state := by
  decide

end Course

end Session

end HostWatch
