import HostWatch.Proofs.Shell.Tenure

namespace HostWatch

/-- The code and the reason of a close that goes to the link of an epoch. -/
def SessionAct.closing? (epoch : Nat) : SessionAct → Option (UInt16 × String)
  | .close e code reason => if e = epoch then some (code, reason) else none
  | _ => none

namespace Session

abbrev reconnecting : UInt16 × String := (1000, "reconnecting")

/-- The close of a link that opens only after another has taken its place. -/
abbrev superseded : UInt16 × String := (1000, "superseded")

abbrev normalClose : UInt16 × String := (1000, "Normal closure")

theorem step_closings {s : Session} (h : s.Coherent) (accepts : Nat → Bool) (i : Input)
    (epoch : Nat) :
    (s.step accepts i).2.2.filterMap (SessionAct.closing? epoch) =
      (if s.current = some epoch ∧ i.isConnect = true then [reconnecting] else []) ++
      (if s.current = some epoch ∧ i.isClose = true then [normalClose] else []) ++
      if epoch ∈ s.retired ∧ i.reports epoch (· = .opened) = true then [superseded] else [] := by
  have does := h.does accepts i
  generalize (s.step accepts i).2.2 = acts at does ⊢
  cases does with
  | connected url =>
    cases hc : s.current with
    | none => simp [SessionAct.closing?, Input.isClose, Input.reports]
    | some old =>
      by_cases same : old = epoch <;>
        simp [List.filterMap_cons, SessionAct.closing?, Input.isConnect, Input.isClose,
          Input.reports, same, normalClosure]
  | @closed old used =>
    by_cases same : old = epoch <;>
      simp [List.filterMap_cons, SessionAct.closing?, Input.isConnect, Input.isClose,
        Input.reports, used, same, normalClosure, closeReason]
  | @wrote i _ _ _ silent call _ =>
    have quiet : i.isConnect = false ∧ i.isClose = false ∧
        i.reports epoch (· = .opened) = false := by
      cases i <;> first | exact ⟨rfl, rfl, rfl⟩ | cases call
    rw [List.filterMap_append, filterMap_of_silent rfl silent]
    simp [SessionAct.closing?, quiet]
  | @superseded other late =>
    by_cases same : other = epoch
    · subst same
      simp [SessionAct.closing?, Input.isConnect, Input.isClose, Input.reports, late, normalClosure]
    · simp [SessionAct.closing?, Input.isConnect, Input.isClose, Input.reports, same]
  | quiet silent stays _ present =>
    have unreplaced : ¬ (s.current = some epoch ∧ i.isConnect = true) := by
      rintro ⟨-, connect⟩
      rw [(stays (Input.isTurn_of_isConnect connect)).1] at connect
      cases connect
    have undismissed : ¬ (s.current = some epoch ∧ i.isClose = true) := by
      rintro ⟨used, close⟩
      have none := (stays (by rw [i.isTurn_eq, close, Bool.or_true])).2
      cases used.symm.trans none
    have unopened : ¬ (epoch ∈ s.retired ∧ i.reports epoch (· = .opened) = true) := by
      rintro ⟨late, opening⟩
      cases i with
      | event other e =>
        obtain ⟨rfl, rfl⟩ : other = epoch ∧ e = .opened := by simpa [Input.reports] using opening
        exact present other rfl late
      | _ => cases opening
    rw [filterMap_of_silent rfl silent, if_neg unreplaced, if_neg undismissed, if_neg unopened]
    rfl

namespace Course

def closings (c : Course) (epoch : Nat) : List (UInt16 × String) :=
  c.log.filterMap (SessionAct.closing? epoch)

variable {c : Course} {epoch : Nat}

section Next

theorem closings_next (h : c.session.Coherent) (m : Move) (epoch : Nat) :
    (c.next m).closings epoch = c.closings epoch ++
      ((if c.session.current = some epoch ∧ m.input.isConnect = true then [reconnecting] else []) ++
      (if c.session.current = some epoch ∧ m.input.isClose = true then [normalClose] else []) ++
      if epoch ∈ c.session.retired ∧ m.input.reports epoch (· = .opened) = true then [superseded]
      else []) := by
  have added : (c.answer m).2.2.filterMap (SessionAct.closing? epoch) = _ := step_closings h _ _ _
  rw [closings, closings, next, List.filterMap_append, added]

theorem unretired_of_current (h : c.session.Coherent) (used : c.session.current = some epoch) :
    epoch ∉ c.session.retired := by
  intro late
  have present := h.current epoch used
  have past := h.retired epoch late
  omega

theorem closings_next_inUse (h : c.session.Coherent) (m : Move)
    (used : c.session.current = some epoch) :
    (c.next m).closings epoch = c.closings epoch ++
      ((if m.input.isConnect = true then [reconnecting] else []) ++
        if m.input.isClose = true then [normalClose] else []) := by
  simp [closings_next h, used, unretired_of_current h used]

theorem closings_next_retired (h : c.session.Coherent) (m : Move)
    (late : epoch ∈ c.session.retired) :
    (c.next m).closings epoch = c.closings epoch ++
      if m.input.reports epoch (· = .opened) = true then [superseded] else [] := by
  have unused : c.session.current ≠ some epoch := fun used => unretired_of_current h used late
  simp [closings_next h, unused, late]

theorem closings_next_other (h : c.session.Coherent) (m : Move)
    (unused : c.session.current ≠ some epoch) (unretired : epoch ∉ c.session.retired) :
    (c.next m).closings epoch = c.closings epoch := by
  simp [closings_next h, unused, unretired]

end Next

/-- A link has not been closed before it goes out of use, and one that is retired has been closed
once. -/
structure Accounted (c : Course) (epoch : Nat) : Prop where
  unused : c.session.epoch < epoch → c.closings epoch = []
  inUse : c.session.current = some epoch → c.closings epoch = []
  retired : epoch ∈ c.session.retired → c.closings epoch = [reconnecting]
  form : c.closings epoch ∈ [[], [reconnecting], [reconnecting, superseded], [normalClose]]

theorem Accounted.next (a : c.Accounted epoch) (h : c.session.Coherent) (m : Move) :
    (c.next m).Accounted epoch := by
  have later : (c.next m).session.epoch = _ := step_epoch h _ _
  have current : (c.next m).session.current = some epoch ↔ _ := step_current h _ _ _
  have retired : epoch ∈ (c.next m).session.retired ↔ _ := mem_step_retired h _ _ _
  -- a link is told something only while it is in use or retired, and it is never both
  by_cases used : c.session.current = some epoch
  · have present := h.current epoch used
    have unretired := unretired_of_current h used
    have split := m.input.isTurn_eq
    have closings := closings_next_inUse h m used
    rw [a.inUse used, List.nil_append] at closings
    refine ⟨fun unused => by omega, fun still => ?_, fun late => ?_, ?_⟩
    · obtain ⟨-, next⟩ | ⟨-, stays, -⟩ := current.mp still
      · omega
      · rw [stays, eq_comm, Bool.or_eq_false_iff] at split
        simp [closings, split]
    · obtain ⟨-, connect⟩ | ⟨old, -⟩ := retired.mp late
      · have notClose : m.input.isClose = false := by
          cases hi : m.input <;> first | rfl | simp [hi, Input.isConnect] at connect
        simp [closings, connect, notClose]
      · exact absurd old unretired
    · cases hi : m.input <;> simp [closings, hi, Input.isConnect, Input.isClose]
  by_cases late : epoch ∈ c.session.retired
  · have past := h.retired epoch late
    have closings := closings_next_retired h m late
    rw [a.retired late] at closings
    refine ⟨fun unused => by omega, fun used' => ?_, fun still => ?_, ?_⟩
    · obtain ⟨-, next⟩ | ⟨old, -⟩ := current.mp used'
      · omega
      · exact absurd old used
    · obtain ⟨old, -⟩ | ⟨-, silent⟩ := retired.mp still
      · exact absurd old used
      · have unopened : m.input.reports epoch (· = .opened) = false :=
          Input.reports_mono (by simp [LinkEvent.status?]) silent
        simp [closings, unopened]
    · rw [closings]
      split <;> simp
  · have closings := closings_next_other h m used late
    refine ⟨fun unused => ?_, fun used' => ?_, fun still => ?_, closings ▸ a.form⟩
    · exact closings.trans (a.unused (by omega))
    · obtain ⟨-, next⟩ | ⟨old, -⟩ := current.mp used'
      · exact closings.trans (a.unused (by omega))
      · exact absurd old used
    · obtain ⟨old, -⟩ | ⟨old, -⟩ := retired.mp still
      · exact absurd old used
      · exact absurd old late

theorem accounted_run (ms : List Move) (epoch : Nat) : (({} : Course).run ms).Accounted epoch := by
  induction ms using List.reverseRecOn with
  | nil => exact ⟨fun _ => rfl, fun _ => rfl, by simp [run], by simp [run, closings]⟩
  | append_singleton ms m ih =>
    rw [run_append_singleton]
    exact ih.next (coherent_run ms) m

/-- The link of an epoch has reported its end while it was in use. -/
def Ended (epoch : Nat) : List Move → Prop :=
  Once fun past m => InUse epoch past ∧ m.input.reports epoch LinkEvent.isEnd = true

def Replaced (epoch : Nat) : List Move → Prop :=
  Once fun past m => InUse epoch past ∧ m.input.isConnect = true

def Dismissed (epoch : Nat) : List Move → Prop :=
  Once fun past m => InUse epoch past ∧ m.input.isClose = true

/-- The first that the link of an epoch reported of its state after it was replaced was that it had
opened. -/
def Superseded (epoch : Nat) : List Move → Prop :=
  Once fun past m => Retired epoch past ∧ m.input.reports epoch (· = .opened) = true

theorem mem_closings_iff (ms : List Move) (epoch : Nat) :
    let received := (({} : Course).run ms).closings epoch
    (reconnecting ∈ received ↔ Replaced epoch ms) ∧
      (normalClose ∈ received ↔ Dismissed epoch ms) ∧
      (superseded ∈ received ↔ Superseded epoch ms) := by
  induction ms using List.reverseRecOn with
  | nil => simp [run, closings, Replaced, Dismissed, Superseded]
  | append_singleton ms m ih =>
    obtain ⟨replaced, dismissed, late⟩ := ih
    simp only [run_append_singleton, closings_next (coherent_run ms), Replaced, Dismissed,
      Superseded, once_append_singleton, List.mem_append]
    rw [← Replaced, ← Dismissed, ← Superseded, ← replaced, ← dismissed, ← late,
      ← current_iff_inUse, ← mem_retired_iff]
    refine ⟨?_, ?_, ?_⟩ <;> simp [or_comm]

theorem closings_of_ended {ms : List Move} (ended : Ended epoch ms) :
    let c := ({} : Course).run ms
    c.closings epoch = [] ∧ epoch ≤ c.session.epoch ∧ c.session.current ≠ some epoch ∧
      epoch ∉ c.session.retired := by
  induction ms using List.reverseRecOn with
  | nil => exact absurd ended not_once_nil
  | append_singleton ms m ih =>
    have coherent := coherent_run ms
    have later : ((({} : Course).run ms).next m).session.epoch = _ := step_epoch coherent _ _
    have current : ((({} : Course).run ms).next m).session.current = some epoch ↔ _ :=
      step_current coherent _ _ _
    have retired : epoch ∈ ((({} : Course).run ms).next m).session.retired ↔ _ :=
      mem_step_retired coherent _ _ _
    rw [run_append_singleton]
    rcases once_append_singleton.mp ended with ⟨inUse, end_⟩ | earlier
    · have used := current_iff_inUse.mpr inUse
      have present := coherent.current epoch used
      have unretired := unretired_of_current coherent used
      obtain ⟨noConnect, noClose⟩ : m.input.isConnect = false ∧ m.input.isClose = false := by
        cases hi : m.input <;> first | exact ⟨rfl, rfl⟩ | simp [hi, Input.reports] at end_
      refine ⟨?_, by omega, fun still => ?_, fun late => ?_⟩
      · simp [closings_next_inUse coherent m used, (accounted_run ms epoch).inUse used, noConnect,
          noClose]
      · simp [current, noConnect, end_] at still
      · simp [retired, noConnect, unretired] at late
    -- an epoch is not used again, so a link that has gone stays gone
    · obtain ⟨none, past, unused, unretired⟩ := ih earlier
      refine ⟨(closings_next_other coherent m unused unretired).trans none, by omega,
        fun still => ?_, fun late => ?_⟩
      · obtain ⟨-, next⟩ | ⟨old, -⟩ := current.mp still
        · omega
        · exact unused old
      · obtain ⟨old, -⟩ | ⟨old, -⟩ := retired.mp late
        · exact unused old
        · exact unretired old

theorem out_of_use {ms : List Move} (opened : epoch ∈ (({} : Course).run ms).attempts) :
    InUse epoch ms ∨ Ended epoch ms ∨ Replaced epoch ms ∨ Dismissed epoch ms := by
  induction ms using List.reverseRecOn with
  | nil => simp [run, attempts] at opened
  | append_singleton ms m ih =>
    rw [run_append_singleton, attempts_next (coherent_run ms), List.mem_append] at opened
    simp only [InUse, Ended, Replaced, Dismissed, since_append_singleton, once_append_singleton]
    rw [← InUse, ← Ended, ← Replaced, ← Dismissed, ← epoch_run]
    rcases opened with earlier | now
    · rcases ih earlier with inUse | ended | replaced | dismissed
      · have split := m.input.isTurn_eq
        cases connect : m.input.isConnect with
        | true => exact Or.inr (Or.inr (Or.inl (Or.inl ⟨inUse, rfl⟩)))
        | false =>
          cases close : m.input.isClose with
          | true => exact Or.inr (Or.inr (Or.inr (Or.inl ⟨inUse, rfl⟩)))
          | false =>
            rw [connect, close] at split
            cases end_ : m.input.reports epoch LinkEvent.isEnd with
            | true => exact Or.inr (Or.inl (Or.inl ⟨inUse, rfl⟩))
            | false => exact Or.inl (Or.inr ⟨inUse, split, rfl⟩)
      · exact Or.inr (Or.inl (Or.inr ended))
      · exact Or.inr (Or.inr (Or.inl (Or.inr replaced)))
      · exact Or.inr (Or.inr (Or.inr (Or.inr dismissed)))
    · cases connect : m.input.isConnect with
      | true => exact Or.inl (Or.inl ⟨rfl, by simpa [connect] using now⟩)
      | false => simp [connect] at now

/-- What a link is told in its whole life: nothing while it is in use or when it ended by itself,
else that it is replaced, also that it was superseded, or that the session closes. -/
theorem links_closed_once (ms : List Move) :
    let c := ({} : Course).run ms
    (∀ epoch, epoch ∈ c.session.retired ↔ Retired epoch ms) ∧
    (∀ epoch, c.session.current = some epoch ↔ InUse epoch ms) ∧
    ∀ epoch ∈ c.attempts,
      let received := c.closings epoch
      (received = [] ∨ received = [(1000, "reconnecting")] ∨
        received = [(1000, "reconnecting"), (1000, "superseded")] ∨
        received = [(1000, "Normal closure")]) ∧
      (received = [] ↔ InUse epoch ms ∨ Ended epoch ms) ∧
      (received.head? = some (1000, "reconnecting") ↔ Replaced epoch ms) ∧
      (received = [(1000, "reconnecting"), (1000, "superseded")] ↔ Superseded epoch ms) ∧
      (received = [(1000, "Normal closure")] ↔ Dismissed epoch ms) ∧
      ∀ accepts, ((c.next ⟨accepts, .close⟩).closings epoch = [] ↔ Ended epoch ms) := by
  intro c
  refine ⟨fun _ => mem_retired_iff, fun _ => current_iff_inUse, ?_⟩
  intro epoch opened received
  have accounted := accounted_run ms epoch
  obtain ⟨replaced, dismissed, late⟩ := mem_closings_iff ms epoch
  have untold : received = [] ↔ InUse epoch ms ∨ Ended epoch ms := by
    constructor
    · intro none
      have silent (told : UInt16 × String) : told ∉ received := by simp [none]
      rcases out_of_use opened with inUse | ended | told | told
      · exact Or.inl inUse
      · exact Or.inr ended
      · exact absurd (replaced.mpr told) (silent _)
      · exact absurd (dismissed.mpr told) (silent _)
    · rintro (inUse | ended)
      · exact accounted.inUse (current_iff_inUse.mpr inUse)
      · exact (closings_of_ended ended).1
  have form : received = [] ∨ received = [reconnecting] ∨ received = [reconnecting, superseded] ∨
      received = [normalClose] := by
    simpa using accounted.form
  refine ⟨form, untold, ?_, ?_, ?_, fun accepts => ?_⟩
  · rw [← replaced]
    change received.head? = _ ↔ reconnecting ∈ received
    rcases form with eq | eq | eq | eq <;> simp [eq]
  · rw [← late]
    change received = _ ↔ superseded ∈ received
    rcases form with eq | eq | eq | eq <;> simp [eq]
  · rw [← dismissed]
    change received = _ ↔ normalClose ∈ received
    rcases form with eq | eq | eq | eq <;> simp [eq]
  -- the last close finds a link in use, or else it tells this link nothing new
  · constructor
    · intro none
      have told := closings_next (coherent_run ms) ⟨accepts, .close⟩ epoch
      rw [none, eq_comm, List.append_eq_nil_iff] at told
      rcases untold.mp told.1 with inUse | ended
      · simp [current_iff_inUse.mpr inUse, Input.isConnect, Input.isClose] at told
      · exact ended
    · intro ended
      obtain ⟨none, -, unused, unretired⟩ := closings_of_ended ended
      exact (closings_next_other (coherent_run ms) _ unused unretired).trans none

/-- Three attempts: the link of the first opens late, that of the second fails by itself, and the
third is in use when the session is closed. -/
theorem links_of_three_attempts :
    let ms : List Move := [.accepted (.reconnect shellUrl), .accepted (.reconnect shellUrl),
      .accepted (.event 1 .opened), .accepted (.event 2 (.failed "reset")),
      .accepted (.reconnect shellUrl), .accepted .close, .accepted (.event 3 .opened)]
    let c := ({} : Course).run ms
    c.attempts = [1, 2, 3] ∧ Superseded 1 ms ∧ Ended 2 ms ∧ Dismissed 3 ms ∧
      c.closings 1 = [(1000, "reconnecting"), (1000, "superseded")] ∧ c.closings 2 = [] ∧
      c.closings 3 = [(1000, "Normal closure")] := by
  intro ms c
  obtain ⟨-, -, each⟩ := links_closed_once ms
  obtain ⟨-, -, -, late, -, -⟩ := each 1 (by decide)
  obtain ⟨-, -, -, -, -, left⟩ := each 2 (by decide)
  obtain ⟨-, -, -, -, dismissed, -⟩ := each 3 (by decide)
  have first : c.closings 1 = [(1000, "reconnecting"), (1000, "superseded")] := by decide
  have second : c.closings 2 = [] := by decide
  have third : c.closings 3 = [(1000, "Normal closure")] := by decide
  exact ⟨by decide, late.mp first, (left fun _ _ => true).mp (by decide), dismissed.mp third, first,
    second, third⟩

end Course

end Session

end HostWatch
