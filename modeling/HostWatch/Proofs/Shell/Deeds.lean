import HostWatch.Proofs.Shell.Run

namespace HostWatch.Session

def Input.text? : Input → Option String
  | .send text => some text
  | .submit line => if (Text.trim line).isEmpty then none else some (Text.trim line ++ "\n")
  | .interrupt => some interruptText
  | .backspace => some backspaceText
  | _ => none

def taker (s : Session) (accepts : Nat → Bool) : Option Nat := s.writable.filter accepts

theorem Input.isTurn_of_text {i : Input} {text : String} (call : i.text? = some text) :
    i.isTurn = false := by
  cases i with
  | reconnect url => cases call
  | close => cases call
  | _ => rfl

theorem filterMap_of_silent {β : Type} {f : SessionAct → Option β} {acts : List SessionAct}
    (unseen : f .publish = none) (silent : ∀ a ∈ acts, a = .publish) : acts.filterMap f = [] :=
  List.filterMap_eq_nil_iff.mpr fun a ha => silent a ha ▸ unseen

variable {s : Session} {accepts : Nat → Bool}

theorem send_eq (s : Session) (accepts : Nat → Bool) (text : String) :
    s.send accepts text =
      match s.taker accepts with
      | some e => (true, [.write e text])
      | none => (false, []) := by
  unfold send taker
  cases s.writable with
  | none => rfl
  | some e => cases h : accepts e <;> simp [Option.filter_some, h]

theorem Coherent.taker_eq (h : s.Coherent) (accepts : Nat → Bool) :
    s.taker accepts =
      if s.state.connection = .opened then s.current.filter accepts else none := by
  unfold taker writable
  cases hc : s.current with
  | none => simp
  | some e =>
    have present : s.state.epoch = e := by rw [h.published, h.current e hc]
    by_cases opened : s.state.connection = .opened <;>
      simp [Option.filter_some, present, opened]

theorem Coherent.submit_eq (h : s.Coherent) (accepts : Nat → Bool) (line : String) :
    s.submit accepts line =
      if (Text.trim line).isEmpty then (.ignored, s, [])
      else if s.state.connection = .opened then
        match s.current.filter accepts with
        | some e =>
          (.sent, s.write ({ · with awaiting := true }),
            [.publish, .write e (Text.trim line ++ "\n")])
        | none => (.notConnected, s.write ({ · with awaiting := false }), [.publish, .publish])
      else (.notConnected, s, []) := by
  unfold submit
  by_cases blank : (Text.trim line).isEmpty
  · simp only [blank, ↓reduceIte]
  by_cases opened : s.state.connection = .opened
  · -- the line is written after the mark is made, which does not change who takes it
    have marked : (s.write ({ · with awaiting := true })).taker accepts = s.taker accepts := rfl
    simp only [blank, opened, h.published, send_eq, marked, h.taker_eq, and_self,
      Bool.false_eq_true, ↓reduceIte]
    cases s.current.filter accepts <;> rfl
  · simp only [blank, opened, and_false, Bool.false_eq_true, ↓reduceIte]

/-- What a step does, one case for each kind of act towards a link. -/
inductive Does (s : Session) (accepts : Nat → Bool) : Input → List SessionAct → Prop
  | connected (url : Address.Url) :
    Does s accepts (.reconnect url)
      (.publish :: s.current.toList.map (.close · normalClosure "reconnecting") ++
        [.open (s.epoch + 1) url])
  | closed {old : Nat} (used : s.current = some old) :
    Does s accepts .close [.publish, .close old normalClosure closeReason]
  | wrote {i : Input} {told : List SessionAct} {epoch : Nat} {text : String}
      (silent : ∀ a ∈ told, a = .publish) (call : i.text? = some text)
      (taken : s.taker accepts = some epoch) :
    Does s accepts i (told ++ [.write epoch text])
  | superseded {epoch : Nat} (late : epoch ∈ s.retired) :
    Does s accepts (.event epoch .opened) [.close epoch normalClosure "superseded"]
  | quiet {i : Input} {acts : List SessionAct} (silent : ∀ a ∈ acts, a = .publish)
      (stays : i.isTurn = true → i = .close ∧ s.current = none)
      (untaken : i.text?.isSome → s.taker accepts = none)
      (present : ∀ epoch, i = .event epoch .opened → epoch ∉ s.retired) :
    Does s accepts i acts

theorem does_send {i : Input} {text : String} (other : i.isTurn = false)
    (call : i.text? = some text) : Does s accepts i (s.send accepts text).2 := by
  have present : ∀ epoch, i = .event epoch .opened → epoch ∉ s.retired := by
    rintro epoch rfl
    cases call
  rw [send_eq]
  cases taken : s.taker accepts with
  | some e =>
    have silent : ∀ a ∈ ([] : List SessionAct), a = .publish := by simp
    exact .wrote silent call taken
  | none => exact .quiet (by simp) (by simp [other]) (fun _ => taken) present

theorem Coherent.does (h : s.Coherent) (accepts : Nat → Bool) (i : Input) :
    s.Does accepts i (s.step accepts i).2.2 := by
  cases i with
  | reconnect url =>
    have acts : (s.reconnect url).2 =
        .publish :: s.current.toList.map (.close · normalClosure "reconnecting") ++
          [.open (s.epoch + 1) url] := by
      cases hc : s.current <;> simp [Session.reconnect, hc]
    simp only [Session.step, acts]
    exact .connected url
  | close =>
    cases hc : s.current with
    | none =>
      simp only [Session.step, Session.close, hc]
      exact .quiet (by simp) (fun _ => ⟨rfl, hc⟩) (by simp [Input.text?]) (by simp)
    | some old =>
      simp only [Session.step, Session.close, hc]
      exact .closed hc
  | send text => exact does_send rfl rfl
  | interrupt => exact does_send rfl rfl
  | backspace => exact does_send rfl rfl
  | submit line =>
    have eq := h.taker_eq accepts
    simp only [Session.step, h.submit_eq]
    by_cases blank : (Text.trim line).isEmpty
    · simp only [blank, ↓reduceIte]
      exact .quiet (by simp) (by simp [Input.isTurn]) (by simp [Input.text?, blank]) (by simp)
    have call : (Input.submit line).text? = some (Text.trim line ++ "\n") := by
      simp [Input.text?, blank]
    by_cases opened : s.state.connection = .opened
    · simp only [blank, opened, Bool.false_eq_true, ↓reduceIte] at eq ⊢
      cases taken : s.current.filter accepts with
      | some e =>
        have silent : ∀ a ∈ [SessionAct.publish], a = .publish := by simp
        exact .wrote silent call (eq.trans taken)
      | none => exact .quiet (by simp) (by simp [Input.isTurn]) (fun _ => eq.trans taken) (by simp)
    · simp only [blank, opened, Bool.false_eq_true, ↓reduceIte] at eq ⊢
      exact .quiet (by simp) (by simp [Input.isTurn]) (fun _ => eq) (by simp)
  | event epoch e =>
    by_cases current : s.epoch = epoch
    · subst current
      simp only [Session.step, handle_current h]
      refine .quiet ?_ (by simp [Input.isTurn]) (by simp [Input.text?]) ?_
      · split <;> simp
      -- the present attempt is never among the retired ones, so its opening closes nothing
      · rintro epoch ⟨rfl, rfl⟩ late
        exact Nat.lt_irrefl _ (h.retired _ late)
    · simp only [Session.step, handle_stale current]
      cases e with
      | opened =>
        by_cases late : epoch ∈ s.retired
        · simp only [handleStale, late, if_true]
          exact .superseded late
        · simp only [handleStale, late, if_false]
          refine .quiet (by simp) (by simp [Input.isTurn]) (by simp [Input.text?]) ?_
          rintro epoch ⟨rfl, -⟩
          exact late
      | _ =>
        exact .quiet (by simp [handleStale]) (by simp [Input.isTurn]) (by simp [Input.text?])
          (by simp)
  | _ =>
    exact .quiet (by simp [Session.step]) (by simp [Input.isTurn]) (by simp [Input.text?]) (by simp)

end HostWatch.Session
