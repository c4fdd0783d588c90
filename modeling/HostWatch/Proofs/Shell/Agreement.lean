import HostWatch.Proofs.Shell.Closing
import HostWatch.Proofs.Shell.Reports

namespace HostWatch

theorem LinkEvent.Orderly.dropLast {events : List LinkEvent} {e : LinkEvent}
    (orderly : Orderly (events ++ [e])) : Orderly events := by
  generalize whole : events ++ [e] = all at orderly
  cases orderly with
  | silent => simp at whole
  | barred ends =>
    obtain rfl : events = [] := by simpa using congrArg List.length whole
    exact .silent
  | «open» texts =>
    rcases List.eq_nil_or_concat texts with rfl | ⟨front, text, rfl⟩
    · obtain rfl : events = [] := by simpa using congrArg List.length whole
      exact .silent
    · rw [List.concat_eq_append, List.map_append, ← List.cons_append] at whole
      obtain ⟨rfl, -⟩ := List.append_inj' whole rfl
      exact .open front
  | complete texts ends =>
    obtain ⟨rfl, -⟩ := List.append_inj' whole rfl
    exact .open texts

theorem LinkEvent.Orderly.front {before after : List LinkEvent}
    (orderly : Orderly (before ++ after)) : Orderly before := by
  induction after using List.reverseRecOn with
  | nil => simpa using orderly
  | append_singleton after e ih =>
    rw [← List.append_assoc] at orderly
    exact ih orderly.dropLast

namespace ShellState

variable {t : ShellState}

theorem output_eq_failed_iff {text : String} : t.output = .failed text ↔ t.error = some text := by
  unfold output
  cases t.error with
  | some e => simp
  | none => cases t.awaiting <;> simp

theorem output_eq_loading_iff : t.output = .loading ↔ t.error = none ∧ t.awaiting = true := by
  unfold output
  cases t.error with
  | some e => simp
  | none => cases t.awaiting <;> simp

theorem output_eq_success_iff {shown : String} :
    t.output = .success shown ↔
      t.error = none ∧ t.awaiting = false ∧ shown = t.transcript := by
  unfold output
  cases t.error with
  | some e => simp
  | none => cases t.awaiting <;> simp [eq_comm]

end ShellState

namespace Session

def Input.reportOf? (epoch : Nat) : Input → Option LinkEvent
  | .event e report => if e = epoch then some report else none
  | _ => none

theorem Input.eq_event_of_reports {epoch : Nat} {kind : LinkEvent → Bool} {i : Input}
    (told : i.reports epoch kind = true) : ∃ e, i = .event epoch e ∧ kind e = true := by
  cases i with
  | event other e =>
    obtain ⟨rfl, kind⟩ : other = epoch ∧ kind e = true := by simpa [Input.reports] using told
    exact ⟨e, rfl, kind⟩
  | _ => cases told

theorem Input.reports_opened_iff {epoch : Nat} {i : Input} :
    i.reports epoch (· = .opened) = true ↔ i = .event epoch .opened := by
  cases i <;> simp [Input.reports]

/-- An error is shown for a failed connection only, and an open connection has a link in use. -/
structure Agreed (s : Session) : Prop where
  error : ∀ text, s.state.error = some text → s.state.connection = .failed text
  used : s.state.connection = .opened → s.current.isSome

section Step

variable {s : Session}

theorem Agreed.heard (a : s.Agreed) (h : s.Sound) (used : s.current.isSome) (e : LinkEvent) :
    (s.heard e).Agreed := by
  have clear : s.state.error = none := h.clear (h.used used)
  cases e with
  | opened => exact ⟨by simp [Session.heard, announce, write], fun _ => used⟩
  | message raw =>
    by_cases blank : (Text.plain raw).isEmpty
    · simp only [Session.heard, blank, ↓reduceIte]
      exact ⟨a.error, a.used⟩
    · simp only [Session.heard, blank, Bool.false_eq_true, ↓reduceIte]
      exact ⟨a.error, a.used⟩
  -- the link in use is that of a connection without an error, so none outlasts a close
  | closed code reason =>
    exact ⟨by simp [Session.heard, announce, dropCurrent, write, clear],
      by simp [Session.heard, announce, dropCurrent, write]⟩
  | failed text =>
    exact ⟨by simp [Session.heard, announce, dropCurrent, write],
      by simp [Session.heard, announce, dropCurrent, write]⟩

theorem Agreed.step (a : s.Agreed) (h : s.Sound) (accepts : Nat → Bool) {i : Input}
    (used : ∀ e, i = .event s.epoch e → s.current.isSome) :
    (s.step accepts i).2.1.Agreed := by
  have becomes := h.becomes accepts i
  generalize (s.step accepts i).2.1 = t at becomes
  cases becomes with
  | connected url => exact ⟨by simp [reconnect, announce], by simp [reconnect, announce]⟩
  | closed =>
    cases hc : s.current with
    | none =>
      simp only [close, hc]
      exact ⟨a.error, by simpa [hc] using a.used⟩
    | some old =>
      have clear : s.state.error = none := h.clear (h.used (by simp [hc]))
      exact ⟨by simp [close, hc, announce, clear], by simp [close, hc, announce]⟩
  | submitted line =>
    obtain ⟨mark, eq⟩ := s.submit_marks accepts line
    rw [eq]
    exact ⟨a.error, a.used⟩
  | heard e => exact a.heard h (used e rfl) e
  | aside other unheard fewer => exact ⟨a.error, a.used⟩

end Step

namespace Course

def reported (epoch : Nat) (ms : List Move) : List LinkEvent :=
  ms.filterMap (·.input.reportOf? epoch)

/-- The links report as links do: none before it was opened, and each in order. -/
structure WellReported (ms : List Move) : Prop where
  begun : ∀ past m later, ms = past ++ m :: later → ∀ epoch e, m.input = .event epoch e →
    epoch ∈ (({} : Course).run past).attempts
  orderly : ∀ epoch, LinkEvent.Orderly (reported epoch ms)

variable {ms : List Move} {m : Move} {epoch : Nat}

theorem WellReported.front (w : WellReported (ms ++ [m])) : WellReported ms where
  begun past m' later split := w.begun past m' (later ++ [m]) (by simp [split])
  orderly epoch := by
    have orderly := w.orderly epoch
    rw [reported, List.filterMap_append] at orderly
    exact orderly.front

theorem wellReported_nil : WellReported [] where
  begun past m later split := by simp at split
  orderly _ := .silent

theorem WellReported.next (w : WellReported ms)
    (fits : ∀ epoch e, m.input = .event epoch e →
      epoch ∈ (({} : Course).run ms).attempts ∧ LinkEvent.Orderly (reported epoch ms ++ [e])) :
    WellReported (ms ++ [m]) where
  begun past m' later split epoch e report := by
    rcases List.eq_nil_or_concat later with rfl | ⟨front, last, rfl⟩
    · obtain ⟨rfl, same⟩ := List.append_inj' split rfl
      cases same
      exact (fits epoch e report).1
    · rw [List.concat_eq_append, ← List.cons_append, ← List.append_assoc] at split
      obtain ⟨split, -⟩ := List.append_inj' split rfl
      exact w.begun past m' front split epoch e report
  orderly epoch := by
    rw [reported, List.filterMap_append, ← reported]
    cases report : m.input.reportOf? epoch with
    | none => simpa [report] using w.orderly epoch
    | some e =>
      have eq : m.input = .event epoch e := by
        cases hi : m.input with
        | event other e' =>
          obtain ⟨rfl, rfl⟩ : other = epoch ∧ e' = e := by simpa [hi, Input.reportOf?] using report
          rfl
        | _ => simp [hi, Input.reportOf?] at report
      simpa [report] using (fits epoch e eq).2

theorem exists_end_of_ended (ended : Ended epoch ms) :
    ∃ before e after, reported epoch ms = before ++ e :: after ∧ e.isEnd = true := by
  obtain ⟨past, m, later, rfl, ⟨-, told⟩, -⟩ := ended
  obtain ⟨e, eq, ends⟩ := Input.eq_event_of_reports told
  exact ⟨reported epoch past, e, reported epoch later,
    by simp [reported, eq, Input.reportOf?], ends⟩

theorem not_turned_of_present (present : epoch = turns ms) :
    ¬ Replaced epoch ms ∧ ¬ Dismissed epoch ms := by
  have past_lt {past later : List Move} {m : Move} (split : ms = past ++ m :: later)
      (inUse : InUse epoch past) (turn : m.input.isTurn = true) : False := by
    have coherent := coherent_run past
    have earlier : epoch = turns past :=
      (coherent.current epoch (current_iff_inUse.mpr inUse)).trans (epoch_run past)
    have more : turns ms = turns past + (turns later + 1) := by
      simp [turns, split, List.countP_append, turn]
    omega
  constructor
  · rintro ⟨past, m, later, split, ⟨inUse, connect⟩, -⟩
    exact past_lt split inUse (Input.isTurn_of_isConnect connect)
  · rintro ⟨past, m, later, split, ⟨inUse, close⟩, -⟩
    exact past_lt split inUse (by rw [m.input.isTurn_eq, close, Bool.or_true])

theorem WellReported.used (w : WellReported (ms ++ [m])) {e : LinkEvent}
    (report : m.input = .event epoch e) (present : epoch = turns ms) :
    (({} : Course).run ms).session.current = some epoch := by
  have opened : epoch ∈ (({} : Course).run ms).attempts :=
    w.begun ms m [] rfl epoch e report
  obtain ⟨unreplaced, undismissed⟩ := not_turned_of_present present
  rcases out_of_use opened with inUse | ended | replaced | dismissed
  · exact current_iff_inUse.mpr inUse
  -- nothing is reported after an end
  · obtain ⟨before, last, after, eq, ends⟩ := exists_end_of_ended ended
    have orderly := w.orderly epoch
    have whole : reported epoch (ms ++ [m]) = before ++ last :: (after ++ [e]) := by
      rw [reported, List.filterMap_append, ← reported, eq]
      simp [report, Input.reportOf?]
    rw [whole] at orderly
    simpa using orderly.after_end ends
  · exact absurd replaced unreplaced
  · exact absurd dismissed undismissed

theorem WellReported.agreed (w : WellReported ms) : (({} : Course).run ms).session.Agreed := by
  induction ms using List.reverseRecOn with
  | nil => exact ⟨by simp [run], by simp [run]⟩
  | append_singleton ms m ih =>
    rw [run_append_singleton]
    refine (ih w.front).step (run_sound sound_initial ms) _ fun e report => ?_
    rw [w.used report (epoch_run ms)]
    rfl

theorem WellReported.isOpen (w : WellReported ms) (inUse : InUse epoch ms)
    (opened : Once (fun _ m => m.input = .event epoch .opened) ms) : IsOpen epoch ms := by
  induction ms using List.reverseRecOn with
  | nil => exact absurd opened not_once_nil
  | append_singleton ms m ih =>
    rw [IsOpen, since_append_singleton, ← IsOpen, Input.reports_opened_iff]
    rcases since_append_singleton.mp inUse with ⟨connect, next⟩ | ⟨before, stays, lasts⟩
    -- an attempt that begins only now has not reported anything
    · exfalso
      rcases once_append_singleton.mp opened with now | ⟨past, m', later, split, report, -⟩
      · simp [now, Input.isConnect] at connect
      · have attempt := w.front.begun past m' later split epoch .opened report
        have bound := (numbered_run past).bounded epoch attempt
        have more : turns ms = turns past + turns (m' :: later) := by
          simp [turns, split, List.countP_append]
        rw [epoch_run] at bound
        omega
    · rcases once_append_singleton.mp opened with now | earlier
      · exact Or.inl ⟨before, now⟩
      · exact Or.inr ⟨ih w.front before earlier, stays, lasts⟩

theorem WellReported.opened_iff (w : WellReported ms) :
    (({} : Course).run ms).session.state.connection = .opened ↔
      ∃ epoch, (({} : Course).run ms).session.current = some epoch ∧
        Once (fun _ m => m.input = .event epoch .opened) ms := by
  have coherent := coherent_run ms
  constructor
  · intro opened
    obtain ⟨epoch, used⟩ := Option.isSome_iff_exists.mp (w.agreed.used opened)
    have open_ : IsOpen epoch ms :=
      writable_iff_isOpen.mp (coherent.writable_iff.mpr ⟨used, opened⟩)
    obtain ⟨past, m, later, split, ⟨-, told⟩, -⟩ := open_
    exact ⟨epoch, used, past, m, later, split, Input.reports_opened_iff.mp told, by simp⟩
  · rintro ⟨epoch, used, once⟩
    have open_ := w.isOpen (current_iff_inUse.mp used) once
    exact (coherent.writable_iff.mp (writable_iff_isOpen.mpr open_)).2

/-- Over links that report in order, an error is shown just for a failed connection, the connection
is open just when its link is, and the output agrees with both. -/
theorem published_fields_agree (ms : List Move) (w : WellReported ms) :
    let s := (({} : Course).run ms).session
    (∀ text, s.state.error = some text ↔ s.state.connection = .failed text) ∧
      (s.state.connection = .opened ↔ ∃ epoch, s.current = some epoch ∧
        Once (fun _ m => m.input = .event epoch .opened) ms) ∧
      (∀ text, s.state.output = .failed text ↔ s.state.connection = .failed text) ∧
      (s.state.output = .loading ↔ s.state.awaiting = true) ∧
      ∀ shown, s.state.output = .success shown ↔
        (∀ text, s.state.connection ≠ .failed text) ∧ s.state.awaiting = false ∧
          shown = s.state.transcript := by
  intro s
  have sound : s.Sound := run_sound sound_initial ms
  have error_iff (text : String) :
      s.state.error = some text ↔ s.state.connection = .failed text :=
    ⟨w.agreed.error text, sound.failed text⟩
  have error_none_iff : s.state.error = none ↔ ∀ text, s.state.connection ≠ .failed text := by
    simp only [Option.eq_none_iff_forall_ne_some, ne_eq, error_iff]
  have clear (mark : s.state.awaiting = true) : s.state.error = none :=
    sound.clear (sound.used (sound.awaited mark).2)
  refine ⟨error_iff, w.opened_iff, fun text => ?_, ?_, fun shown => ?_⟩
  · rw [ShellState.output_eq_failed_iff, error_iff]
  · rw [ShellState.output_eq_loading_iff]
    exact ⟨fun loading => loading.2, fun mark => ⟨clear mark, mark⟩⟩
  · rw [ShellState.output_eq_success_iff, error_none_iff]

/-- The first attempt is replaced, ends late, and the second one fails. -/
theorem fields_of_failed_attempt :
    let ms : List Move := [.accepted (.reconnect shellUrl), .accepted (.event 1 .opened),
      .accepted (.submit "ls"), .accepted (.reconnect shellUrl),
      .accepted (.event 1 (.message "late")), .accepted (.event 1 (.closed 1000 "reconnecting")),
      .accepted (.event 2 (.failed "connection refused"))]
    let s := (({} : Course).run ms).session
    WellReported ms ∧ s.state.connection = .failed "connection refused" ∧
      s.state.error = some "connection refused" ∧
      s.state.output = .failed "connection refused" := by
  intro ms s
  have aside {ms : List Move} (i : Input) (w : WellReported ms)
      (other : ∀ epoch e, i ≠ .event epoch e) :
      WellReported (ms ++ [.accepted i]) :=
    w.next fun epoch e report => absurd report (other epoch e)
  have event {ms : List Move} (epoch : Nat) {e : LinkEvent} (w : WellReported ms)
      (begun : epoch ∈ (({} : Course).run ms).attempts)
      (orderly : LinkEvent.Orderly (reported epoch ms ++ [e])) :
      WellReported (ms ++ [.accepted (.event epoch e)]) :=
    w.next fun epoch e report => by cases report; exact ⟨begun, orderly⟩
  have w₁ := aside (.reconnect shellUrl) wellReported_nil (by simp)
  have w₂ := event 1 w₁ (by decide) (.open [])
  have w₃ := aside (.submit "ls") w₂ (by simp)
  have w₄ := aside (.reconnect shellUrl) w₃ (by simp)
  have w₅ := event 1 w₄ (by decide) (.open ["late"])
  have w₆ := event 1 w₅ (by decide) (.complete (e := .closed 1000 "reconnecting") ["late"] rfl)
  have w : WellReported ms :=
    event 2 w₆ (by decide) (.barred (e := .failed "connection refused") rfl)
  obtain ⟨error, -, output, -⟩ := published_fields_agree ms w
  have failed : s.state.connection = .failed "connection refused" := rfl
  exact ⟨w, failed, (error _).mpr failed, (output _).mpr failed⟩

end Course

end Session

end HostWatch
