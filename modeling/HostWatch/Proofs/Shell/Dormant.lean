import HostWatch.Proofs.Shell.Closing
import HostWatch.Proofs.Shell.Writing

namespace HostWatch.Session

def Input.isReading : Input → Bool
  | .subscribeStatus | .subscribeMessages | .readStatus _ | .readMessages _ | .leaveMessages _ =>
    true
  | _ => false

def feeds (s : Session) : List (LimitedFeed Connection) × List (LosslessFeed String) :=
  (s.statusFeeds, s.messageFeeds)

section Step

variable {s t : Session} {i : Input}

theorem Sound.unmarked (h : s.Sound) (unused : s.current = none) : s.state.awaiting = false := by
  cases mark : s.state.awaiting with
  | false => rfl
  | true => simpa [unused] using (h.awaited mark).2

/-- Without a link in use only a call to connect and the present attempt can change the state. -/
theorem Sound.step_state (h : s.Sound) (unused : s.current = none) (accepts : Nat → Bool)
    (other : i.isConnect = false) (unheard : ∀ e, i ≠ .event s.epoch e) :
    (s.step accepts i).2.1.state =
      { s.state with epoch := (s.step accepts i).2.1.epoch } := by
  have kept : s.state = { s.state with epoch := s.epoch } := by rw [← h.published]
  have becomes := h.toCoherent.becomes accepts i
  generalize (s.step accepts i).2.1 = t at becomes ⊢
  cases becomes with
  | connected url => cases other
  | closed => simp [Session.close, unused]
  | submitted line =>
    have same : (s.submit accepts line).2.1 = s := by
      have erased : s.write ({ · with awaiting := false }) = s := by
        simp [write, ← h.unmarked unused]
      rw [h.submit_eq, unused]
      by_cases blank : (Text.trim line).isEmpty
      · simp [blank]
      by_cases opened : s.state.connection = .opened <;> simp [blank, opened, erased]
    rw [same]
    exact kept
  | heard e => exact absurd rfl (unheard e)
  | aside _ _ _ => exact kept

theorem Coherent.step_unused (h : s.Coherent) (unused : s.current = none) (accepts : Nat → Bool)
    (other : i.isConnect = false) : (s.step accepts i).2.1.current = none := by
  refine Option.eq_none_iff_forall_ne_some.mpr fun epoch used => ?_
  obtain ⟨connect, -⟩ | ⟨old, -⟩ := (step_current h accepts i epoch).mp used
  · exact Bool.false_ne_true (other.symm.trans connect)
  · cases unused.symm.trans old

theorem announced_of_unused (unused : s.current = none) (other : i.isConnect = false)
    (unheard : ∀ e, i ≠ .event s.epoch e) : s.announced i = [] := by
  cases i with
  | reconnect url => cases other
  | close => simp [announced, unused]
  | event epoch e =>
    have late : s.epoch ≠ epoch := fun present => unheard e (present ▸ rfl)
    simp [announced, late]
  | _ => rfl

theorem delivered_of_unheard (unheard : ∀ e, i ≠ .event s.epoch e) : s.delivered i = [] := by
  cases i with
  | event epoch e =>
    have late : s.epoch ≠ epoch := fun present => unheard e (present ▸ rfl)
    cases e <;> simp [delivered, late]
  | _ => rfl

theorem step_feeds_of_silent (h : s.Coherent) (accepts : Nat → Bool) (quiet : i.isReading = false)
    (unannounced : s.announced i = []) (undelivered : s.delivered i = []) :
    (s.step accepts i).2.1.feeds = s.feeds := by
  rw [feeds, step_statusFeeds h, step_messageFeeds h]
  cases i with
  | subscribeStatus | subscribeMessages | readStatus | readMessages | leaveMessages => cases quiet
  | _ => simp [unannounced, undelivered, feeds]

/-- What a subscriber does to the feeds does not depend on the rest of the session. -/
theorem step_feeds_congr (h : s.Coherent) (h' : t.Coherent) (same : s.feeds = t.feeds)
    (accepts others : Nat → Bool) (reading : i.isReading = true) :
    (s.step accepts i).2.1.feeds = (t.step others i).2.1.feeds := by
  obtain ⟨status, messages⟩ := Prod.mk.inj same
  rw [feeds, feeds, step_statusFeeds h, step_messageFeeds h, step_statusFeeds h',
    step_messageFeeds h', status, messages]
  cases i with
  | subscribeStatus | subscribeMessages | readStatus | readMessages | leaveMessages =>
    simp [announced, delivered]
  | _ => cases reading

end Step

namespace Course

/-- No link is in use and the present epoch is not that of an attempt. -/
structure Dormant (c : Course) : Prop where
  sound : c.session.Sound
  unused : c.session.current = none
  earlier : ∀ e ∈ c.attempts, e < c.session.epoch

/-- Whether a move neither connects nor reports of anything but an attempt. -/
def Idle (c : Course) (m : Move) : Prop :=
  m.input.isConnect = false ∧ ∀ epoch e, m.input = .event epoch e → epoch ∈ c.attempts

variable {c d : Course} {m : Move}

theorem Dormant.unheard (h : c.Dormant) (idle : c.Idle m) :
    ∀ e, m.input ≠ .event c.session.epoch e :=
  fun e present => Nat.lt_irrefl _ (h.earlier _ (idle.2 _ e present))

theorem Dormant.attempts_next (h : c.Dormant) (idle : c.Idle m) :
    (c.next m).attempts = c.attempts := by
  simp [Course.attempts_next h.sound.toCoherent, idle.1]

theorem Dormant.next (h : c.Dormant) (idle : c.Idle m) : (c.next m).Dormant := by
  have epoch : (c.next m).session.epoch = _ := step_epoch h.sound.toCoherent _ _
  refine ⟨h.sound.step _ _, h.sound.toCoherent.step_unused h.unused _ idle.1, fun e he => ?_⟩
  have := h.earlier e (h.attempts_next idle ▸ he)
  omega

theorem Dormant.feeds_next (h : c.Dormant) (idle : c.Idle m) (quiet : m.input.isReading = false) :
    (c.next m).session.feeds = c.session.feeds :=
  step_feeds_of_silent h.sound.toCoherent _ quiet
    (announced_of_unused h.unused idle.1 (h.unheard idle)) (delivered_of_unheard (h.unheard idle))

theorem Dormant.handing (h : c.Dormant) (m : Move) : c.handing m = none := by
  simp [Course.handing, Session.handing, taker, writable, h.unused]

/-- One course has come out of a dormant one, and nothing of that has been moved. -/
structure Unmoved (c d : Course) : Prop extends d.Dormant where
  attempts : d.attempts = c.attempts
  state : d.session.state = { c.session.state with epoch := d.session.epoch }
  handed : d.handed = c.handed

theorem Dormant.unmoved (h : c.Dormant) : Unmoved c c :=
  ⟨h, rfl, by rw [← h.sound.published], rfl⟩

theorem Unmoved.next (h : Unmoved c d) (idle : c.Idle m) : Unmoved c (d.next m) := by
  have idle' : d.Idle m := by rwa [Idle, h.attempts]
  have state : (d.next m).session.state =
      { d.session.state with epoch := (d.next m).session.epoch } :=
    h.sound.step_state h.unused _ idle'.1 (h.unheard idle')
  refine ⟨h.toDormant.next idle', (h.attempts_next idle').trans h.attempts, ?_, ?_⟩
  · rw [state, h.state]
  · rw [handed_next h.sound.toCoherent, h.handing, h.handed]
    exact List.append_nil _

theorem Unmoved.run (h : Unmoved c d) {ms : List Move} (idle : ∀ m ∈ ms, c.Idle m) :
    Unmoved c (d.run ms) := by
  induction ms generalizing d with
  | nil => exact h
  | cons m ms ih =>
    exact ih (h.next (idle m List.mem_cons_self)) fun m' mem => idle m' (List.mem_cons_of_mem m mem)

theorem Dormant.feeds_run (hc : c.Dormant) (hd : d.Dormant) (known : d.attempts = c.attempts)
    (same : c.session.feeds = d.session.feeds) {ms : List Move} (idle : ∀ m ∈ ms, c.Idle m) :
    (c.run ms).session.feeds = (d.run (ms.filter (·.input.isReading))).session.feeds := by
  induction ms generalizing c d with
  | nil => exact same
  | cons m ms ih =>
    have first : c.Idle m := idle m List.mem_cons_self
    have first' : d.Idle m := by rwa [Idle, known]
    have attempts := hc.attempts_next first
    have later : ∀ m' ∈ ms, (c.next m).Idle m' := by
      intro m' mem
      rw [Idle, attempts]
      exact idle m' (List.mem_cons_of_mem m mem)
    cases reading : m.input.isReading with
    | true =>
      have kept : (m :: ms).filter (·.input.isReading) = m :: ms.filter (·.input.isReading) :=
        List.filter_cons_of_pos reading
      rw [kept, run_cons, run_cons]
      refine ih (hc.next first) (hd.next first') ?_ ?_ later
      · rw [hd.attempts_next first', attempts, known]
      · exact step_feeds_congr hc.sound.toCoherent hd.sound.toCoherent same _ _ reading
    -- the second course stands still while the first one takes in what moves nothing
    | false =>
      rw [List.filter_cons_of_neg (by simp [reading]), run_cons]
      refine ih (hc.next first) hd (known.trans attempts.symm) ?_ later
      exact (hc.feeds_next first reading).trans same

theorem Dormant.closings_run {past ms : List Move} (h : (({} : Course).run past).Dormant)
    (idle : ∀ m ∈ ms, (({} : Course).run past).Idle m) (epoch : Nat) :
    let c := ({} : Course).run past
    (c.run ms).closings epoch = c.closings epoch ∨
      c.closings epoch = [reconnecting] ∧
        (c.run ms).closings epoch = [reconnecting, superseded] := by
  intro c
  induction ms using List.reverseRecOn with
  | nil => exact Or.inl rfl
  | append_singleton ms m ih =>
    have earlier := ih fun m' mem => idle m' (List.mem_append_left [m] mem)
    have unmoved : Unmoved c (c.run ms) :=
      h.unmoved.run fun m' mem => idle m' (List.mem_append_left [m] mem)
    have whole : c.run ms = ({} : Course).run (past ++ ms) := (run_append _ past ms).symm
    have accounted : (c.run ms).Accounted epoch := whole ▸ accounted_run (past ++ ms) epoch
    have added := closings_next unmoved.sound.toCoherent m epoch
    simp only [unmoved.unused, reduceCtorEq, false_and, if_false, List.nil_append] at added
    rw [run_append_singleton, added]
    split
    next late =>
      -- a link that is still retired has been told once that it is replaced
      have told := accounted.retired late.1
      rw [told] at earlier ⊢
      rcases earlier with same | ⟨-, twice⟩
      · exact Or.inr ⟨same.symm, rfl⟩
      · cases twice
    next =>
      rw [List.append_nil]
      exact earlier

theorem dormant_close (before : List Move) (accepts : Nat → List SessionAct → Bool) :
    ((({} : Course).run before).next ⟨accepts, .close⟩).Dormant := by
  have sound : (({} : Course).run before).session.Sound := run_sound sound_initial before
  have numbered := numbered_run before
  have epoch : ((({} : Course).run before).next ⟨accepts, .close⟩).session.epoch = _ :=
    step_epoch sound.toCoherent _ _
  refine ⟨sound.step _ _, ?_, fun e he => ?_⟩
  · cases used : (({} : Course).run before).session.current <;>
      simp [next, answer, Session.step, Session.close, announce, used]
  · have same : ((({} : Course).run before).next ⟨accepts, .close⟩).attempts =
        (({} : Course).run before).attempts := by
      simp [Course.attempts_next sound.toCoherent, Input.isConnect]
    have := numbered.bounded e (same ▸ he)
    simp only [Input.isTurn, if_true] at epoch
    omega

/-- A call to close is final until the next call to connect, whatever else is called and whatever
the attempts still report, in any order. -/
theorem closed_until_connect (before during : List Move)
    (accepts : Nat → List SessionAct → Bool) :
    let prior := ({} : Course).run before
    let c := prior.next ⟨accepts, .close⟩
    let d := c.run during
    (∀ m ∈ during, m.input.isConnect = false) →
    (∀ m ∈ during, ∀ epoch e, m.input = .event epoch e → epoch ∈ c.attempts) →
      d.session.state = { c.session.state with epoch := d.session.epoch } ∧
      d.session.feeds = (c.run (during.filter (·.input.isReading))).session.feeds ∧
      (d.attempts = c.attempts ∧ d.handed = c.handed) ∧
      (∀ m : Move, m.input.isWriting = true → (d.answer m).1 = m.input.refusal) ∧
      (∀ epoch, prior.session.current = some epoch →
        d.closings epoch = [(1000, "Normal closure")]) ∧
      ∀ epoch, prior.session.current ≠ some epoch →
        d.closings epoch = prior.closings epoch ∨
          prior.closings epoch = [(1000, "reconnecting")] ∧
            d.closings epoch = [(1000, "reconnecting"), (1000, "superseded")] := by
  intro prior c d others known
  have dormant : c.Dormant := dormant_close before accepts
  have idle : ∀ m ∈ during, c.Idle m := fun m mem => ⟨others m mem, known m mem⟩
  have unmoved : Unmoved c d := dormant.unmoved.run idle
  have coherent : prior.session.Coherent := coherent_run before
  have run : c = ({} : Course).run (before ++ [⟨accepts, .close⟩]) :=
    (run_append_singleton _ before _).symm
  have closings (epoch : Nat) : d.closings epoch = c.closings epoch ∨
      c.closings epoch = [reconnecting] ∧ d.closings epoch = [reconnecting, superseded] := by
    have := Dormant.closings_run (run ▸ dormant) (run ▸ idle) epoch
    rwa [← run] at this
  have closed (epoch : Nat) : c.closings epoch = prior.closings epoch ++
      if prior.session.current = some epoch then [normalClose] else [] := by
    have told : c.closings epoch = _ := closings_next coherent _ epoch
    simpa [Input.isConnect, Input.isClose, Input.reports] using told
  refine ⟨unmoved.state, dormant.feeds_run dormant rfl rfl idle,
    ⟨unmoved.attempts, unmoved.handed⟩, fun m writing => ?_, fun epoch used => ?_,
    fun epoch unused => ?_⟩
  · have refused : d.handing m = none := unmoved.handing m
    have answer : (d.answer m).1 =
        if (d.handing m).isSome then m.input.success else m.input.refusal :=
      step_answer unmoved.sound.toCoherent _ writing
    simpa [refused] using answer
  · have first := closed epoch
    rw [if_pos used, (accounted_run before epoch).inUse used, List.nil_append] at first
    rcases closings epoch with same | ⟨replaced, -⟩
    · exact same.trans first
    · exact absurd (first.symm.trans replaced) (by decide)
  · have first := closed epoch
    rw [if_neg unused, List.append_nil] at first
    rw [← first]
    exact closings epoch

/-- The link of the first attempt opens after the session was closed, that of the second reports
what it had still to say, and nothing comes of a line that is typed. -/
theorem nothing_after_second_link_closed :
    let before : List Move := [.accepted (.reconnect shellUrl), .accepted (.reconnect shellUrl),
      .accepted .subscribeMessages, .accepted (.event 2 .opened),
      .accepted (.event 2 (.message "$ ")), .accepted (.submit "sleep 5")]
    let during : List Move := [.accepted (.event 2 (.message "done")),
      .accepted (.event 1 .opened), .accepted (.submit "ls"), .accepted .close,
      .accepted (.event 2 (.failed "reset"))]
    let c := (({} : Course).run before).next (.accepted .close)
    let d := c.run during
    d.session.state = ⟨4, .closed 1000 "Normal closure", "$ ", none, false⟩ ∧
      d.session.messageFeeds = [⟨true, ["$ "]⟩] ∧
      (d.answer (.accepted (.submit "ls"))).1 = .submitted .notConnected ∧
      d.closings 2 = [(1000, "Normal closure")] ∧
      d.closings 1 = [(1000, "reconnecting"), (1000, "superseded")] := by
  intro before during c d
  have others : ∀ m ∈ during, m.input.isConnect = false := by decide
  have known : ∀ m ∈ during, ∀ epoch e, m.input = .event epoch e → epoch ∈ c.attempts := by
    simp [during, Move.accepted, show c.attempts = [1, 2] from rfl]
  obtain ⟨state, feeds, -, refused, own, rest⟩ :=
    closed_until_connect before during (fun _ _ => true) others known
  have unread : c.session.feeds.2 = [⟨true, ["$ "]⟩] := by decide
  refine ⟨state.trans (by decide), (congrArg Prod.snd feeds).trans unread,
    (refused _ rfl).trans (by decide), own 2 rfl, ?_⟩
  rcases rest 1 (by decide) with same | ⟨-, twice⟩
  · exact absurd same (by decide)
  · exact twice

end Course

end HostWatch.Session
