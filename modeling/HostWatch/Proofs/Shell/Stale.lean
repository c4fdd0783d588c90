import HostWatch.Proofs.Shell.Deeds

namespace HostWatch.Session

/-- Whether an input is the report of an attempt other than the present one. -/
def Input.isStale (s : Session) : Input → Bool
  | .event epoch _ => s.epoch ≠ epoch
  | _ => false

def visible (s : Session) : Session := { s with retired := [] }

def shown (o : Answer × Outcome) : Answer × Outcome := (o.1, o.2.1.visible, o.2.2)

theorem step_congr {s : Session} {accepts others : Nat → Bool}
    (h : ∀ e ∈ s.current, accepts e = others e) (i : Input) :
    s.step accepts i = s.step others i := by
  have asked (t : Session) (ht : t.current = s.current) (text : String) :
      t.send accepts text = t.send others text := by
    unfold send
    cases hw : t.writable with
    | none => rfl
    | some e =>
      have : e ∈ s.current := ht ▸ (Option.mem_filter_iff.mp hw).1
      simp only [h e this]
  cases i with
  | send text => simp only [Session.step, asked s rfl]
  | interrupt => simp only [Session.step, asked s rfl]
  | backspace => simp only [Session.step, asked s rfl]
  | submit line => simp only [Session.step, submit, asked (s.write _) rfl]
  | _ => rfl

theorem shown_step_visible {s : Session} (h : s.Coherent) (accepts : Nat → Bool) {i : Input}
    (fresh : i.isStale s = false) :
    shown (s.visible.step accepts i) = shown (s.step accepts i) := by
  cases i with
  | event epoch e =>
    have current : s.epoch = epoch := by simpa [Input.isStale] using fresh
    subst current
    have hv : s.visible.Coherent := h.mono rfl rfl (fun _ he => he) (by simp [visible])
    have step : s.visible.handle s.epoch e =
        (s.visible.heard e, if isTold e then [.publish] else []) :=
      handle_current hv e
    simp only [Session.step, handle_current h, step, shown]
    cases e with
    | message raw =>
      by_cases blank : (Text.plain raw).isEmpty <;> simp [heard, blank, visible, forward, write]
    | _ => rfl
  | submit line =>
    have ready : s.visible.state = s.state ∧ s.visible.epoch = s.epoch := ⟨rfl, rfl⟩
    have sent (text : String) : (s.visible.write ({ · with awaiting := true })).send accepts text =
        (s.write ({ · with awaiting := true })).send accepts text := rfl
    simp only [Session.step, submit, ready, sent]
    split
    · rfl
    split
    · cases (s.write ({ · with awaiting := true })).send accepts (Text.trim line ++ "\n") with
      | mk written acts => cases written <;> rfl
    · rfl
  | close => cases hc : s.current <;> simp [Session.step, close, shown, visible, announce, hc]
  | readStatus n =>
    have feeds : s.visible.statusFeeds = s.statusFeeds := rfl
    simp only [Session.step, readStatus, feeds]
    cases s.statusFeeds[n]? <;> rfl
  | readMessages n =>
    have feeds : s.visible.messageFeeds = s.messageFeeds := rfl
    simp only [Session.step, readMessages, feeds]
    cases s.messageFeeds[n]? <;> rfl
  | _ => rfl

theorem announced_visible (s : Session) (i : Input) : s.visible.announced i = s.announced i := by
  cases i <;> rfl

theorem delivered_visible (s : Session) (i : Input) : s.visible.delivered i = s.delivered i := by
  cases i with
  | event epoch e => cases e <;> rfl
  | _ => rfl

theorem stale_silent {s : Session} {i : Input} (stale : i.isStale s) :
    s.announced i = [] ∧ s.delivered i = [] := by
  cases i with
  | event epoch e =>
    have other : s.epoch ≠ epoch := by simpa [Input.isStale] using stale
    cases e <;> simp [announced, delivered, other]
  | _ => simp [Input.isStale] at stale

/-- A report of an earlier attempt at most takes a link out of the table of retired links, and
closes it if it opened only now. -/
theorem stale_step {s : Session} (accepts : Nat → Bool) {i : Input} (stale : i.isStale s) :
    ∃ kept acts, s.step accepts i = (.none, { s with retired := kept }, acts) ∧
      (∀ e ∈ kept, e ∈ s.retired) ∧
      (acts = [] ∨ ∃ e ∈ s.retired, acts = [.close e normalClosure "superseded"]) := by
  cases i with
  | event epoch e =>
    have other : s.epoch ≠ epoch := by simpa [Input.isStale] using stale
    obtain ⟨kept, eq, fewer⟩ := s.handleStale_retired epoch e
    refine ⟨kept, (s.handleStale epoch e).2, ?_, fewer, ?_⟩
    · simp only [Session.step, handle_stale other, ← eq]
    · cases e with
      | opened =>
        by_cases known : epoch ∈ s.retired
        · exact Or.inr ⟨epoch, known, by simp [handleStale, known]⟩
        · exact Or.inl (by simp [handleStale, known])
      | _ => exact Or.inl rfl
  | _ => simp [Input.isStale] at stale

theorem fresh_acts {s : Session} (h : s.Coherent) (accepts : Nat → Bool) {i : Input}
    (fresh : i.isStale s = false) : ∀ a ∈ (s.step accepts i).2.2, a.isSupersession = false := by
  have does := h.does accepts i
  generalize (s.step accepts i).2.2 = acts at does ⊢
  cases does with
  | connected url => cases s.current <;> simp [SessionAct.isSupersession]
  | closed used => simp [SessionAct.isSupersession, closeReason]
  | wrote silent call taken =>
    simp only [List.forall_mem_append, List.forall_mem_singleton]
    exact ⟨fun a ha => silent a ha ▸ rfl, rfl⟩
  | @superseded epoch late =>
    have current : s.epoch = epoch := by simpa [Input.isStale] using fresh
    exact absurd (h.retired epoch late) (current ▸ Nat.lt_irrefl _)
  | quiet silent _ _ _ => exact fun a ha => silent a ha ▸ rfl

/-- What a step of a run shows. The session after it is seen without its retired links. -/
structure Observation where
  stale : Bool
  answer : Answer
  acts : List SessionAct
  announced : List Connection
  delivered : List String
  after : Session

namespace Course

def observe (c : Course) (m : Move) : Observation where
  stale := m.input.isStale c.session
  answer := (c.answer m).1
  acts := (c.answer m).2.2
  announced := c.session.announced m.input
  delivered := c.session.delivered m.input
  after := (c.next m).session.visible

def observations (c : Course) : List Move → List Observation
  | [] => []
  | m :: ms => c.observe m :: (c.next m).observations ms

def withoutStale (c : Course) : List Move → List Move
  | [] => []
  | m :: ms =>
    if m.input.isStale c.session then (c.next m).withoutStale ms
    else m :: (c.next m).withoutStale ms

/-- A course that also knew the reports of earlier attempts, and one that did not. -/
structure Hides (c d : Course) : Prop where
  coherent : c.session.Coherent
  coherent' : d.session.Coherent
  visible : d.session.visible = c.session.visible
  log : d.log = c.log.filter (!·.isSupersession)
  earlier : ∀ a ∈ c.log, a.isSupersession → ∀ e, a.isTo e → e < c.session.epoch

theorem Hides.initial : Hides {} {} :=
  ⟨coherent_initial, coherent_initial, rfl, rfl, by simp⟩

theorem Hides.epoch {c d : Course} (h : Hides c d) : d.session.epoch = c.session.epoch :=
  show d.session.visible.epoch = c.session.visible.epoch from congrArg _ h.visible

theorem Hides.told {c d : Course} (h : Hides c d) :
    d.told c.session.epoch = c.told c.session.epoch := by
  unfold Course.told
  rw [h.log, List.filter_filter]
  -- only acts towards links of earlier epochs are missing from the other log
  apply List.filter_congr
  intro a ha
  cases present : a.isTo c.session.epoch with
  | false => rfl
  | true =>
    cases closing : a.isSupersession with
    | false => rfl
    | true => exact absurd (h.earlier a ha closing _ present) (Nat.lt_irrefl _)

theorem Hides.isStale {c d : Course} (h : Hides c d) (i : Input) :
    i.isStale d.session = i.isStale c.session := by
  cases i <;> simp [Input.isStale, h.epoch]

theorem Hides.shown_answer {c d : Course} (h : Hides c d) {m : Move}
    (fresh : m.input.isStale c.session = false) : shown (d.answer m) = shown (c.answer m) := by
  have fresh' : m.input.isStale d.session = false := (h.isStale m.input).trans fresh
  have asked : ∀ e ∈ c.session.current, m.accepts e (d.told e) = m.accepts e (c.told e) := by
    intro e he
    rw [h.coherent.current e he, h.told]
  calc shown (d.answer m)
      = shown (d.session.visible.step (fun e => m.accepts e (d.told e)) m.input) :=
        (shown_step_visible h.coherent' _ fresh').symm
    _ = shown (c.session.visible.step (fun e => m.accepts e (d.told e)) m.input) := by
        rw [h.visible]
    _ = shown (c.session.step (fun e => m.accepts e (d.told e)) m.input) :=
        shown_step_visible h.coherent _ fresh
    _ = shown (c.answer m) := by rw [step_congr asked]; rfl

theorem Hides.fresh {c d : Course} (h : Hides c d) {m : Move}
    (fresh : m.input.isStale c.session = false) :
    d.observe m = c.observe m ∧ Hides (c.next m) (d.next m) := by
  have same := h.shown_answer fresh
  have acts : (d.answer m).2.2 = (c.answer m).2.2 := congrArg (·.2.2) same
  have after : (d.next m).session.visible = (c.next m).session.visible := congrArg (·.2.1) same
  have quiet := fresh_acts h.coherent (fun e => m.accepts e (c.told e)) fresh
  refine ⟨?_, ?_⟩
  · have announced : d.session.announced m.input = c.session.announced m.input := by
      rw [← announced_visible, h.visible, announced_visible]
    have delivered : d.session.delivered m.input = c.session.delivered m.input := by
      rw [← delivered_visible, h.visible, delivered_visible]
    simp only [observe, h.isStale, acts, after, announced, delivered, Observation.mk.injEq,
      true_and, and_true]
    exact congrArg (·.1) same
  · refine ⟨h.coherent.step _ _, h.coherent'.step _ _, after, ?_, ?_⟩
    · have all : (c.answer m).2.2.filter (!·.isSupersession) = (c.answer m).2.2 :=
        List.filter_eq_self.mpr fun a ha => by simp [quiet a ha]
      simp only [next, List.filter_append, h.log, acts, all]
    · intro a ha closing e toIt
      have grows : c.session.epoch ≤ (c.next m).session.epoch := by
        rw [next, answer, step_epoch h.coherent]
        exact Nat.le_add_right _ _
      rcases List.mem_append.mp ha with ha | ha
      · exact Nat.lt_of_lt_of_le (h.earlier a ha closing e toIt) grows
      · exact absurd closing (by simp [quiet a ha])

theorem Hides.stale {c d : Course} (h : Hides c d) {m : Move} (stale : m.input.isStale c.session) :
    Hides (c.next m) d := by
  obtain ⟨kept, acts, step, fewer, done⟩ :=
    stale_step (fun e => m.accepts e (c.told e)) stale
  have eq : c.next m = ⟨{ c.session with retired := kept }, c.log ++ acts⟩ := by
    simp only [next, answer, step]
  have closing : acts.filter (!·.isSupersession) = [] := by
    rcases done with rfl | ⟨e, -, rfl⟩
    · rfl
    · simp [SessionAct.isSupersession]
  rw [eq]
  refine ⟨h.coherent.mono rfl rfl (fun _ he => he) fewer, h.coherent', h.visible, ?_, ?_⟩
  · simp only [List.filter_append, closing, List.append_nil, h.log]
  · intro a ha sup e toIt
    rcases List.mem_append.mp ha with ha | ha
    · exact h.earlier a ha sup e toIt
    · rcases done with rfl | ⟨n, hn, rfl⟩
      · simp at ha
      · have : a = .close n normalClosure "superseded" := by simpa using ha
        subst this
        have : n = e := by simpa [SessionAct.isTo] using toIt
        exact this ▸ h.coherent.retired n hn

theorem Hides.run {c d : Course} (h : Hides c d) (ms : List Move) :
    d.observations (c.withoutStale ms) = (c.observations ms).filter (!·.stale) ∧
      Hides (c.run ms) (d.run (c.withoutStale ms)) := by
  -- a stale report moves the first course only, any other move takes both along
  induction ms generalizing c d with
  | nil => exact ⟨rfl, h⟩
  | cons m ms ih =>
    cases stale : m.input.isStale c.session with
    | true =>
      have := ih (h.stale stale)
      simp only [withoutStale, observations, observe, stale, run_cons]
      simpa using this
    | false =>
      obtain ⟨same, later⟩ := h.fresh stale
      obtain ⟨rest, last⟩ := ih later
      have kept : (c.observe m).stale = false := stale
      simp only [withoutStale, stale, Bool.false_eq_true, if_false, observations, same, rest,
        run_cons, last, and_true]
      simp [kept]

theorem observations_stale {c : Course} (h : c.session.Coherent) (ms : List Move) :
    ∀ o ∈ c.observations ms, o.stale → o.answer = .none ∧ o.announced = [] ∧ o.delivered = [] ∧
      (o.acts = [] ∨ ∃ e < o.after.epoch, o.acts = [.close e normalClosure "superseded"]) := by
  induction ms generalizing c with
  | nil => simp [observations]
  | cons m ms ih =>
    intro o ho stale
    rcases List.mem_cons.mp ho with rfl | ho
    · obtain ⟨kept, acts, step, -, done⟩ := stale_step (fun e => m.accepts e (c.told e)) stale
      have answer : c.answer m = (.none, { c.session with retired := kept }, acts) := step
      obtain ⟨announced, delivered⟩ := stale_silent stale
      refine ⟨by simp only [observe, answer], announced, delivered, ?_⟩
      simp only [observe, next, answer]
      exact done.imp_right fun ⟨e, he, eq⟩ => ⟨e, h.retired e he, eq⟩
    · exact ih (h.step _ _) o ho stale

/-- Without the reports of earlier attempts the remaining steps show the same, one by one; all that
these reports do is to close the link of such an attempt. -/
theorem stale_reports_unseen (ms : List Move) :
    let start : Course := {}
    let fewer := start.withoutStale ms
    start.observations fewer = (start.observations ms).filter (!·.stale) ∧
      (start.run fewer).session.visible = (start.run ms).session.visible ∧
      (start.run fewer).log = (start.run ms).log.filter (!·.isSupersession) ∧
      ∀ o ∈ start.observations ms, o.stale →
        o.answer = .none ∧ o.announced = [] ∧ o.delivered = [] ∧
          (o.acts = [] ∨ ∃ e < o.after.epoch, o.acts = [.close e normalClosure "superseded"]) := by
  intro start fewer
  obtain ⟨shown, last⟩ := Hides.initial.run ms
  exact ⟨shown, last.visible, last.log, observations_stale coherent_initial ms⟩

/-- The link of a replaced attempt that opens late is closed, and nothing else happens. -/
example (accepts : Nat → List SessionAct → Bool) (url : Address.Url) :
    (({} : Course).run [⟨accepts, .reconnect url⟩, ⟨accepts, .reconnect url⟩,
      ⟨accepts, .event 1 .opened⟩, ⟨accepts, .event 2 .opened⟩]).log =
      [.publish, .open 1 url, .publish, .close 1 1000 "reconnecting", .open 2 url,
        .close 1 1000 "superseded", .publish] := rfl

end Course

end HostWatch.Session
