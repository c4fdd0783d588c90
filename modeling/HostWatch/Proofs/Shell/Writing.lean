import HostWatch.Proofs.Shell.Tenure

namespace HostWatch

/-- The text that an act hands over, and the epoch of the link that takes it. -/
def SessionAct.handed? : SessionAct → Option (Nat × String)
  | .write epoch text => some (epoch, text)
  | _ => none

namespace Session

def Input.isWriting : Input → Bool
  | .send _ | .submit _ | .interrupt | .backspace => true
  | _ => false

def Input.success : Input → Answer
  | .submit _ => .submitted .sent
  | _ => .written true

def Input.refusal : Input → Answer
  | .submit line => .submitted (if (Text.trim line).isEmpty then .ignored else .notConnected)
  | _ => .written false

def Answer.isSuccess : Answer → Bool
  | .written done => done
  | .submitted s => s = .sent
  | _ => false

section Step

variable {s : Session}

def handing (s : Session) (accepts : Nat → Bool) (i : Input) : Option (Nat × String) :=
  i.text?.bind fun text => (s.taker accepts).map fun epoch => (epoch, text)

theorem handing_eq_some {accepts : Nat → Bool} {i : Input} {epoch : Nat} {text : String} :
    s.handing accepts i = some (epoch, text) ↔
      s.writable = some epoch ∧ i.text? = some text ∧ accepts epoch = true := by
  simp only [handing, taker, Option.bind_eq_some_iff, Option.map_eq_some_iff,
    Option.filter_eq_some_iff, Prod.mk.injEq]
  constructor
  · rintro ⟨text, call, epoch, ⟨open_, taken⟩, rfl, rfl⟩
    exact ⟨open_, call, taken⟩
  · rintro ⟨open_, call, taken⟩
    exact ⟨text, call, epoch, ⟨open_, taken⟩, rfl, rfl⟩

theorem step_handed (h : s.Coherent) (accepts : Nat → Bool) (i : Input) :
    (s.step accepts i).2.2.filterMap SessionAct.handed? = (s.handing accepts i).toList := by
  have does := h.does accepts i
  generalize (s.step accepts i).2.2 = acts at does ⊢
  cases does with
  | connected url => cases s.current <;> rfl
  | closed used => rfl
  | wrote silent call taken =>
    rw [List.filterMap_append, filterMap_of_silent rfl silent]
    simp [handing, call, taken, SessionAct.handed?]
  | superseded late => rfl
  | quiet silent _ untaken _ =>
    rw [filterMap_of_silent rfl silent]
    cases call : i.text? with
    | none => simp [handing, call]
    | some text => simp [handing, call, untaken (by simp [call])]

theorem step_answer (h : s.Coherent) (accepts : Nat → Bool) {i : Input}
    (writing : i.isWriting = true) :
    (s.step accepts i).1 = if (s.handing accepts i).isSome then i.success else i.refusal := by
  have written {i : Input} {text : String} (call : i.text? = some text) :
      Answer.written (s.send accepts text).1 =
        if (s.handing accepts i).isSome then .written true else .written false := by
    rw [send_eq, handing, call]
    cases s.taker accepts <;> rfl
  cases i with
  | send text => exact written rfl
  | interrupt => exact written rfl
  | backspace => exact written rfl
  -- a blank line is refused as such, whether there is a link to take it or not
  | submit line =>
    have taker := h.taker_eq accepts
    simp only [Session.step, h.submit_eq, handing, Input.text?, Input.success, Input.refusal, taker]
    by_cases blank : (Text.trim line).isEmpty
    · simp [blank]
    by_cases opened : s.state.connection = .opened
    · cases s.current.filter accepts <;> simp [blank, opened]
    · simp [blank, opened]
  | _ => cases writing

theorem isSuccess_step (h : s.Coherent) (accepts : Nat → Bool) (i : Input) :
    (s.step accepts i).1.isSuccess = (s.handing accepts i).isSome := by
  by_cases writing : i.isWriting = true
  · rw [step_answer h accepts writing]
    cases done : (s.handing accepts i).isSome with
    | true => cases i <;> rfl
    | false =>
      cases i with
      | submit line =>
        by_cases blank : (Text.trim line).isEmpty <;> simp [Input.refusal, Answer.isSuccess, blank]
      | _ => rfl
  · cases i <;> first | exact absurd rfl writing | rfl

end Step

namespace Course

/-- The texts that the links have been handed, each with the epoch of its link. -/
def handed (c : Course) : List (Nat × String) := c.log.filterMap SessionAct.handed?

/-- The texts of the calls that succeed, in the order of the calls. -/
def sent (c : Course) : List Move → List String
  | [] => []
  | m :: ms =>
    (if (c.answer m).1.isSuccess then m.input.text?.toList else []) ++ (c.next m).sent ms

variable {c : Course}

def handing (c : Course) (m : Move) : Option (Nat × String) :=
  c.session.handing (fun e => m.accepts e (c.told e)) m.input

theorem handed_next (h : c.session.Coherent) (m : Move) :
    (c.next m).handed = c.handed ++ (c.handing m).toList := by
  have added : (c.answer m).2.2.filterMap SessionAct.handed? = _ := step_handed h _ _
  rw [handed, next, List.filterMap_append, added, handed, handing]

theorem sent_eq_handed (h : c.session.Coherent) (ms : List Move) :
    (c.run ms).handed.map (·.2) = c.handed.map (·.2) ++ c.sent ms := by
  induction ms generalizing c with
  | nil => simp [run, sent]
  | cons m ms ih =>
    have success : (c.answer m).1.isSuccess = (c.handing m).isSome := isSuccess_step h _ _
    have text : (if (c.handing m).isSome then m.input.text?.toList else []) =
        (c.handing m).toList.map (·.2) := by
      cases done : c.handing m with
      | none => rfl
      | some pair =>
        have call := (handing_eq_some.mp done).2.1
        simp [call]
    rw [run_cons, ih (h.step _ _), handed_next h, sent, success, text, List.map_append,
      List.append_assoc]

/-- A call hands its text over once, to the link that is open, if there is one and it accepts the
text; otherwise it hands over nothing and says so. -/
theorem texts_reach_open_link (ms : List Move) :
    let c := ({} : Course).run ms
    (∀ m : Move, ∃ given : Option (Nat × String),
      (∀ epoch text, given = some (epoch, text) ↔
        IsOpen epoch ms ∧ m.input.text? = some text ∧ m.accepts epoch (c.told epoch) = true) ∧
      (c.next m).handed = c.handed ++ given.toList ∧
      (m.input.isWriting = true →
        (c.answer m).1 = if given.isSome then m.input.success else m.input.refusal)) ∧
    (∀ epoch text, (epoch, text) ∈ c.handed →
      Once (fun past m => IsOpen epoch past ∧ m.input.text? = some text) ms) ∧
    c.handed.map (·.2) = ({} : Course).sent ms := by
  intro c
  have given_iff (past : List Move) (m : Move) (epoch : Nat) (text : String) :
      (({} : Course).run past).handing m = some (epoch, text) ↔
        IsOpen epoch past ∧ m.input.text? = some text ∧
          m.accepts epoch ((({} : Course).run past).told epoch) = true := by
    rw [← writable_iff_isOpen]
    exact handing_eq_some
  refine ⟨fun m => ⟨c.handing m, given_iff ms m, handed_next (coherent_run ms) m, ?_⟩, ?_, ?_⟩
  · exact step_answer (coherent_run ms) _
  · induction ms using List.reverseRecOn with
    | nil => simp [c, run, handed]
    | append_singleton ms m ih =>
      intro epoch text given
      rw [once_append_singleton]
      simp only [c, run_append_singleton, handed_next (coherent_run ms), List.mem_append,
        Option.mem_toList] at given
      -- what was handed over last was handed over by the last move
      rcases given with earlier | now
      · exact Or.inr (ih epoch text earlier)
      · obtain ⟨open_, call, -⟩ := (given_iff ms m epoch text).mp now
        exact Or.inl ⟨open_, call⟩
  · simpa [handed] using sent_eq_handed (c := {}) coherent_initial ms

/-- A line that is submitted right after the host was changed goes nowhere, and once the new link
has opened it goes there, whatever the old one still reports. -/
theorem line_reaches_second_link :
    let ms : List Move := [.accepted (.reconnect shellUrl), .accepted (.event 1 .opened),
      .accepted (.reconnect shellUrl)]
    let opens : List Move := [.accepted (.event 2 .opened), .accepted (.event 1 (.failed "reset"))]
    let line : Move := .accepted (.submit " ls ")
    let early := ({} : Course).run (ms ++ [line])
    let late := early.run (opens ++ [line])
    (early.handed = [] ∧ ((({} : Course).run ms).answer line).1 = .submitted .notConnected) ∧
      late.handed = [(2, "ls\n")] ∧
      ((early.run opens).answer line).1 = .submitted .sent ∧
      Once (fun past m => IsOpen 2 past ∧ m.input.text? = some "ls\n")
        ((ms ++ [line]) ++ (opens ++ [line])) := by
  intro ms opens line early late
  obtain ⟨given, given_iff, handed, answer⟩ := (texts_reach_open_link ms).1 line
  have closed : given = none := by
    refine Option.eq_none_iff_forall_ne_some.mpr fun (epoch, text) some => ?_
    have open_ := writable_iff_isOpen.mpr ((given_iff epoch text).mp some).1
    cases open_
  rw [closed] at handed answer
  obtain ⟨given', given_iff', handed', answer'⟩ :=
    (texts_reach_open_link (ms ++ [line] ++ opens)).1 line
  have open_ : IsOpen 2 (ms ++ [line] ++ opens) := writable_iff_isOpen.mp rfl
  have taken : given' = some (2, "ls\n") := (given_iff' _ _).mpr ⟨open_, by decide, rfl⟩
  rw [taken] at handed' answer'
  have reached : late.handed = [(2, "ls\n")] := handed'.trans (by decide)
  refine ⟨⟨handed, (answer rfl).trans (by decide)⟩, reached, answer' rfl, ?_⟩
  exact (texts_reach_open_link _).2.1 2 "ls\n" (reached ▸ List.mem_singleton_self _)

end Course

end Session

end HostWatch
