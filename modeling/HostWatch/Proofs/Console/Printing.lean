import HostWatch.Console.Terminal
import HostWatch.Proofs.Shell.Transcript

namespace HostWatch

namespace Text.Utf8

theorem suffixChars?_append (cs rest : List Char) :
    suffixChars? (encode cs).length (cs ++ rest) = some rest := by
  induction cs with
  | nil => simp [encode, suffixChars?]
  | cons c cs ih =>
    have size : (encode (c :: cs)).length =
        (String.utf8EncodeChar c).length + (encode cs).length := by
      simp [encode]
    obtain ⟨k, width⟩ : ∃ k, (String.utf8EncodeChar c).length = k + 1 :=
      ⟨_, (Nat.sub_add_cancel (String.length_utf8EncodeChar c ▸ c.utf8Size_pos)).symm⟩
    rw [size, width, Nat.add_right_comm, List.cons_append, suffixChars?, width,
      if_pos (by omega), show k + (encode cs).length + 1 - (k + 1) = (encode cs).length by omega, ih]

theorem suffix?_append (s rest : String) :
    suffix? (bytesOf s).length (s ++ rest) = some rest := by
  rw [suffix?, bytesOf, String.toList_append, suffixChars?_append, Option.map_some,
    String.ofList_toList]

theorem length_bytesOf_append (s rest : String) :
    (bytesOf (s ++ rest)).length = (bytesOf s).length + (bytesOf rest).length := by
  simp [bytesOf, encode]

theorem eq_empty_of_bytesOf {s : String} (none : (bytesOf s).length = 0) : s = "" := by
  rw [List.length_eq_zero_iff, bytesOf, encode, List.flatMap_eq_nil_iff] at none
  refine String.toList_eq_nil_iff.mp (List.eq_nil_iff_forall_not_mem.mpr fun c mem => ?_)
  exact String.utf8EncodeChar_ne_nil (none c mem)

end Text.Utf8

open Text.Utf8 (bytesOf suffix?)

namespace ShellState

/-- A state of a later epoch, or of the same one with more in its transcript. -/
def Precedes (s t : ShellState) : Prop :=
  s.epoch < t.epoch ∨ s.epoch = t.epoch ∧ ∃ more, t.transcript = s.transcript ++ more

theorem Precedes.refl (s : ShellState) : s.Precedes s := Or.inr ⟨rfl, "", by simp⟩

theorem Precedes.trans {s t u : ShellState} (h : s.Precedes t) (h' : t.Precedes u) :
    s.Precedes u := by
  rcases h with past | ⟨same, more, grown⟩ <;> rcases h' with past' | ⟨same', more', grown'⟩
  · exact Or.inl (by omega)
  · exact Or.inl (by omega)
  · exact Or.inl (by omega)
  · exact Or.inr ⟨same.trans same', more ++ more', by rw [grown', grown, String.append_assoc]⟩

/-- Those of some states that no other of the same epoch comes after. -/
def finals : List ShellState → List ShellState
  | [] => []
  | s :: ss => if ss.any (·.epoch = s.epoch) then finals ss else s :: finals ss

def joined (ss : List ShellState) : String := String.join (ss.map (·.transcript))

variable {s : ShellState} {ss : List ShellState}

theorem finals_append_singleton (ss : List ShellState) (s : ShellState) :
    finals (ss ++ [s]) = (finals ss).filter (·.epoch ≠ s.epoch) ++ [s] := by
  induction ss with
  | nil => simp [finals]
  | cons t ss ih =>
    rw [List.cons_append, finals, finals, List.any_append]
    by_cases last : s.epoch = t.epoch
    · by_cases other : ss.any (·.epoch = t.epoch) <;> simp [last, other, ih]
    · have kept : t.epoch ≠ s.epoch := Ne.symm last
      by_cases other : ss.any (·.epoch = t.epoch) <;> simp [last, kept, other, ih]

theorem joined_append_singleton (ss : List ShellState) (s : ShellState) :
    joined (ss ++ [s]) = joined ss ++ s.transcript := by
  simp [joined, String.join_append]

theorem mem_of_mem_finals (final : s ∈ finals ss) : s ∈ ss := by
  induction ss with
  | nil => exact final
  | cons t ss ih =>
    unfold finals at final
    split at final
    · exact List.mem_cons_of_mem t (ih final)
    · rcases List.mem_cons.mp final with rfl | later
      · exact List.mem_cons_self
      · exact List.mem_cons_of_mem t (ih later)

theorem pairwise_finals (ordered : ss.Pairwise Precedes) :
    (finals ss).Pairwise (·.epoch < ·.epoch) := by
  induction ss using List.reverseRecOn with
  | nil => exact List.Pairwise.nil
  | append_singleton ss s ih =>
    obtain ⟨before, -, last⟩ := List.pairwise_append.mp ordered
    rw [finals_append_singleton]
    refine List.pairwise_append.mpr
      ⟨(ih before).filter _, List.pairwise_singleton _ _, fun t mem u eq => ?_⟩
    obtain ⟨final, other⟩ := List.mem_filter.mp mem
    cases List.mem_singleton.mp eq
    rcases last t (mem_of_mem_finals final) _ eq with past | ⟨same, -⟩
    · exact past
    · exact absurd same (of_decide_eq_true other)

theorem exists_final (ordered : ss.Pairwise Precedes) (mem : s ∈ ss) :
    ∃ t ∈ finals ss, t.epoch = s.epoch ∧ ∃ more, t.transcript = s.transcript ++ more := by
  induction ss using List.reverseRecOn with
  | nil => cases mem
  | append_singleton ss last ih =>
    obtain ⟨before, -, later⟩ := List.pairwise_append.mp ordered
    rw [finals_append_singleton]
    have self : last ∈ (finals ss).filter (·.epoch ≠ last.epoch) ++ [last] := by simp
    rcases List.mem_append.mp mem with old | new
    · rcases later s old last (List.mem_singleton_self _) with past | ⟨same, more, grown⟩
      · obtain ⟨t, final, epoch, rest⟩ := ih before old
        refine ⟨t, List.mem_append_left _ (List.mem_filter.mpr ⟨final, ?_⟩), epoch, rest⟩
        exact decide_eq_true (by omega)
      · exact ⟨last, self, same.symm, more, grown⟩
    · rw [List.mem_singleton.mp new]
      exact ⟨last, self, rfl, "", by simp⟩

end ShellState

namespace Session

theorem Course.precedes_next {c : Course} (h : c.session.Coherent) (m : Move) :
    c.session.state.Precedes (c.next m).session.state := by
  have later : (c.next m).session.Coherent := h.step _ _
  have epoch : (c.next m).session.epoch = _ := step_epoch h _ _
  have transcript : (c.next m).session.state.transcript = _ := step_transcript h _ _
  unfold ShellState.Precedes
  rw [h.published, later.published, epoch, transcript]
  cases turn : m.input.isTurn with
  | true => exact Or.inl (Nat.lt_succ_self _)
  | false =>
    have ongoing : ¬ m.input.isConnect = true := fun connect =>
      Bool.false_ne_true (turn.symm.trans (Input.isTurn_of_isConnect connect))
    rw [if_neg ongoing]
    exact Or.inr ⟨rfl, _, rfl⟩

end Session

open Session (Course Move)

namespace Terminal

variable {s : ShellState} {t : Terminal}

/-- A look at a transcript that goes on where the printed part ends prints all the rest. -/
theorem look_of_grown {page more : String} (same : s.epoch = t.epoch)
    (printed : t.printed = (bytesOf page).length) (grown : s.transcript = page ++ more) :
    t.look s = ({ t with epoch := s.epoch, printed := (bytesOf s.transcript).length }, more) := by
  have size : (bytesOf s.transcript).length = (bytesOf page).length + (bytesOf more).length := by
    rw [grown, Text.Utf8.length_bytesOf_append]
  have unprinted : t.unprinted? s = some more := by
    rw [unprinted?, if_pos same, printed, grown, Text.Utf8.suffix?_append]
  unfold look
  simp only [same, if_true, printed, unprinted, Option.getD_some]
  split
  · rfl
  · -- nothing has come since
    have none : more = "" := Text.Utf8.eq_empty_of_bytesOf (by omega)
    rw [size, none]
    rfl

theorem look_of_other (other : s.epoch ≠ t.epoch) :
    t.look s =
      ({ t with epoch := s.epoch, printed := (bytesOf s.transcript).length }, s.transcript) := by
  have unprinted : t.unprinted? s = some s.transcript := by
    have whole := Text.Utf8.suffix?_append "" s.transcript
    rw [String.empty_append] at whole
    rw [unprinted?, if_neg other]
    exact whole
  unfold look
  simp only [other, if_false, unprinted, Option.getD_some]
  split
  · rfl
  · have none : (bytesOf s.transcript).length = 0 := by omega
    rw [none, Text.Utf8.eq_empty_of_bytesOf none]

end Terminal

/-- The front end at work on a session: what it has printed, the states that the session has had,
and those among them that were looked at. -/
structure Viewing where
  terminal : Terminal
  course : Course
  output : String := ""
  isOver : Bool := false
  states : List ShellState
  seen : List ShellState := []

namespace Viewing

/-- What can happen while the front end is at work. -/
inductive Happening where
  | reported (epoch : Nat) (e : LinkEvent)
  | typed (accepts : Nat → List SessionAct → Bool) (line : String)
  | told
  | woken
  | interrupted

def state (v : Viewing) : ShellState := v.course.session.state

def move (m : Move) (v : Viewing) : Viewing :=
  { v with course := v.course.next m, states := v.states ++ [(v.course.next m).session.state] }

def quit (v : Viewing) : Viewing := { v.move (.accepted .close) with isOver := true }

def look (v : Viewing) : Viewing :=
  { v with
    terminal := (v.terminal.look v.state).1
    output := v.output ++ (v.terminal.look v.state).2
    seen := v.seen ++ [v.state] }

def next (v : Viewing) (h : Happening) : Viewing :=
  if v.isOver then v
  else
    match h with
    | .reported epoch e => v.move (.accepted (.event epoch e))
    | .typed accepts line =>
      match v.terminal.request line with
      | .quit => v.quit
      | .call i => v.move ⟨accepts, i⟩
    | .told => v.move (.accepted (.readStatus 0))
    | .woken => v.look
    | .interrupted => v.quit

/-- The front end as it sets out: it has called the host and printed nothing. -/
def begin (target : Target) (url : Address.Url) : Viewing :=
  let course := ({} : Course).run [.accepted .subscribeStatus, .accepted (.reconnect url)]
  { terminal := ⟨target, url, course.session.epoch, 0⟩, course
    states := [course.session.state] }

def run (v : Viewing) (hs : List Happening) : Viewing := hs.foldl next v

open ShellState (finals joined)

/-- What is printed of the present epoch is a first part of its transcript, and before it stands the
last that was seen of each earlier epoch. -/
structure Faithful (v : Viewing) : Prop where
  coherent : v.course.session.Coherent
  ordered : v.states.Pairwise ShellState.Precedes
  present : v.state ∈ v.states
  latest : ∀ s ∈ v.states, s.Precedes v.state
  known : ∀ s ∈ v.seen, s ∈ v.states
  inTurn : v.seen.Pairwise ShellState.Precedes
  behind : ∀ s ∈ v.seen, s.epoch ≤ v.terminal.epoch
  bound : v.terminal.epoch ≤ v.state.epoch
  output : v.output = joined (finals v.seen)
  page : ∃ page, v.terminal.printed = (bytesOf page).length ∧
    v.output = joined ((finals v.seen).filter (·.epoch ≠ v.terminal.epoch)) ++ page ∧
    (v.terminal.epoch = v.state.epoch → ∃ more, v.state.transcript = page ++ more)

variable {v : Viewing}

theorem faithful_begin (target : Target) (url : Address.Url) : (begin target url).Faithful where
  coherent := (Session.coherent_initial.step _ _).step _ _
  ordered := List.pairwise_singleton _ _
  present := List.mem_singleton_self _
  latest s mem := List.mem_singleton.mp mem ▸ ShellState.Precedes.refl _
  known := by simp [begin]
  inTurn := List.Pairwise.nil
  behind := by simp [begin]
  bound := Nat.le_refl _
  output := rfl
  page := ⟨"", rfl, rfl, fun _ => ⟨"", rfl⟩⟩

theorem Faithful.move (h : v.Faithful) (m : Move) : (v.move m).Faithful := by
  have later : v.state.Precedes (v.move m).state := Course.precedes_next h.coherent m
  obtain ⟨page, printed, output, grown⟩ := h.page
  refine ⟨h.coherent.step _ _, ?_, List.mem_concat_self, ?_, ?_, h.inTurn, h.behind, ?_, h.output,
    page, printed, output, fun present => ?_⟩
  · refine List.pairwise_append.mpr ⟨h.ordered, List.pairwise_singleton _ _, fun s mem t eq => ?_⟩
    exact List.mem_singleton.mp eq ▸ (h.latest s mem).trans later
  · intro s mem
    rcases List.mem_append.mp mem with old | new
    · exact (h.latest s old).trans later
    · exact List.mem_singleton.mp new ▸ ShellState.Precedes.refl _
  · exact fun s mem => List.mem_append_left _ (h.known s mem)
  · have := h.bound
    change v.terminal.epoch ≤ _
    rcases later with past | ⟨same, -⟩ <;> omega
  -- a terminal at the epoch of the new state was at that of the old one, which has only grown
  · have := h.bound
    change v.terminal.epoch = (v.move m).state.epoch at present
    rcases later with past | ⟨same, more, grown'⟩
    · omega
    · obtain ⟨rest, whole⟩ := grown (present.trans same.symm)
      exact ⟨rest ++ more, by rw [grown', whole, String.append_assoc]⟩

/-- A look prints what is missing of the present transcript, and nothing twice. -/
theorem Faithful.look_eq (h : v.Faithful) :
    (v.terminal.look v.state).1 = { v.terminal with
      epoch := v.state.epoch, printed := (bytesOf v.state.transcript).length } ∧
    v.output ++ (v.terminal.look v.state).2 =
      joined ((finals v.seen).filter (·.epoch ≠ v.state.epoch)) ++ v.state.transcript := by
  obtain ⟨page, printed, output, grown⟩ := h.page
  by_cases same : v.state.epoch = v.terminal.epoch
  · obtain ⟨more, whole⟩ := grown same.symm
    rw [Terminal.look_of_grown same printed whole]
    refine ⟨rfl, ?_⟩
    rw [output, whole, same, String.append_assoc]
  · rw [Terminal.look_of_other same]
    refine ⟨rfl, ?_⟩
    -- nothing of the new epoch has been seen yet
    have earlier : (finals v.seen).filter (·.epoch ≠ v.state.epoch) = finals v.seen := by
      refine List.filter_eq_self.mpr fun s final => decide_eq_true ?_
      have := h.behind s (ShellState.mem_of_mem_finals final)
      have := h.bound
      omega
    rw [earlier, h.output]

theorem finals_look (v : Viewing) :
    finals v.look.seen = (finals v.seen).filter (·.epoch ≠ v.state.epoch) ++ [v.state] :=
  ShellState.finals_append_singleton _ _

theorem Faithful.output_look (h : v.Faithful) :
    v.look.output = joined ((finals v.seen).filter (·.epoch ≠ v.state.epoch)) ++
      v.state.transcript := h.look_eq.2

theorem Faithful.look (h : v.Faithful) : v.look.Faithful := by
  obtain ⟨terminal, -⟩ := h.look_eq
  have epoch : v.look.terminal.epoch = v.state.epoch := congrArg (·.epoch) terminal
  have printed : v.look.terminal.printed = (bytesOf v.state.transcript).length :=
    congrArg (·.printed) terminal
  refine ⟨h.coherent, h.ordered, h.present, h.latest, ?_, ?_, ?_, epoch.le, ?_, v.state.transcript,
    printed, ?_, fun _ => ⟨"", String.append_empty.symm⟩⟩
  · intro s mem
    rcases List.mem_append.mp mem with old | new
    · exact h.known s old
    · exact List.mem_singleton.mp new ▸ h.present
  · refine List.pairwise_append.mpr ⟨h.inTurn, List.pairwise_singleton _ _, fun s mem t eq => ?_⟩
    exact List.mem_singleton.mp eq ▸ h.latest s (h.known s mem)
  · intro s mem
    rw [epoch]
    rcases List.mem_append.mp mem with old | new
    · exact (h.behind s old).trans h.bound
    · exact List.mem_singleton.mp new ▸ le_rfl
  · rw [h.output_look, finals_look, ShellState.joined_append_singleton]
  · rw [h.output_look, finals_look, epoch]
    simp

theorem Faithful.quit (h : v.Faithful) : v.quit.Faithful := by
  obtain ⟨coherent, ordered, present, latest, known, inTurn, behind, bound, output, page⟩ :=
    h.move (.accepted .close)
  exact ⟨coherent, ordered, present, latest, known, inTurn, behind, bound, output, page⟩

theorem Faithful.next (h : v.Faithful) (happening : Happening) : (v.next happening).Faithful := by
  unfold Viewing.next
  split
  · exact h
  cases happening with
  | reported epoch e => exact h.move _
  | typed accepts line =>
    dsimp only
    cases v.terminal.request line with
    | quit => exact h.quit
    | call i => exact h.move _
  | told => exact h.move _
  | woken => exact h.look
  | interrupted => exact h.quit

theorem faithful_run (target : Target) (url : Address.Url) (hs : List Happening) :
    ((begin target url).run hs).Faithful := by
  induction hs using List.reverseRecOn with
  | nil => exact faithful_begin target url
  | append_singleton hs last ih =>
    rw [run, List.foldl_append]
    exact ih.next last

/-- The part of the transcript that has not been printed begins within it, with a character. -/
theorem Faithful.unprinted (h : v.Faithful) : (v.terminal.unprinted? v.state).isSome := by
  obtain ⟨page, printed, -, grown⟩ := h.page
  unfold Terminal.unprinted?
  split
  next same =>
    obtain ⟨more, whole⟩ := grown same.symm
    rw [printed, whole, Text.Utf8.suffix?_append]
    rfl
  next =>
    have whole := Text.Utf8.suffix?_append "" v.state.transcript
    rw [String.empty_append] at whole
    exact whole ▸ rfl

/-- What has been printed is one part for each epoch seen, in order: a first part of its transcript,
and after a look the whole of the present one. -/
theorem transcripts_printed_once (target : Target) (url : Address.Url) (hs : List Happening) :
    let v := (begin target url).run hs
    (v.terminal.unprinted? v.state).isSome ∧
      v.output = String.join ((finals v.seen).map (·.transcript)) ∧
      (finals v.seen).Pairwise (·.epoch < ·.epoch) ∧
      (∀ s ∈ v.seen, s ∈ v.states ∧ ∃ t ∈ finals v.seen, t.epoch = s.epoch) ∧
      (∀ s ∈ finals v.seen, ∃ t ∈ finals v.states, t.epoch = s.epoch ∧
        ∃ more, t.transcript = s.transcript ++ more) ∧
      (v.isOver = false →
        (v.next .woken).output =
          String.join (((finals v.seen).filter (·.epoch ≠ v.state.epoch)).map (·.transcript)) ++
            v.state.transcript) := by
  intro v
  have faithful : v.Faithful := faithful_run target url hs
  refine ⟨faithful.unprinted, faithful.output, ShellState.pairwise_finals faithful.inTurn, ?_, ?_,
    fun ongoing => ?_⟩
  · intro s mem
    obtain ⟨t, final, same, -⟩ := ShellState.exists_final faithful.inTurn mem
    exact ⟨faithful.known s mem, t, final, same⟩
  · intro s final
    exact ShellState.exists_final faithful.ordered
      (faithful.known s (ShellState.mem_of_mem_finals final))
  · have woken : v.next .woken = v.look := by
      unfold Viewing.next
      rw [ongoing]
      rfl
    rw [woken]
    exact faithful.output_look

/-- The last text of the first attempt comes while nobody looks and is not printed any more. -/
theorem printed_across_reconnect :
    let hs : List Happening := [.reported 1 .opened, .reported 1 (.message "é\r\n"), .woken, .woken,
      .reported 1 (.message "bye"), .typed (fun _ _ => true) "/reconnect", .told,
      .reported 1 (.message "late"), .reported 2 (.message "\x1b[1m€"), .woken,
      .reported 2 (.message "$ ")]
    let v := (begin ⟨"pi", 3000⟩ Session.shellUrl).run hs
    v.isOver = false ∧ v.output = "é\n€" ∧ (v.next .woken).output = "é\n€$ " := by
  intro hs v
  obtain ⟨-, output, -, -, -, woken⟩ :=
    transcripts_printed_once ⟨"pi", 3000⟩ Session.shellUrl hs
  have ongoing : v.isOver = false := by decide
  exact ⟨ongoing, output.trans (by decide), (woken ongoing).trans (by decide)⟩

end Viewing

end HostWatch
