import HostWatch.Console.ProcessTable
import HostWatch.Console.Summary
import HostWatch.Proofs.Address.Written
import HostWatch.Proofs.Report.Complaints
import HostWatch.Proofs.Text.Words
import HostWatch.Proofs.Watch.Isolation

namespace HostWatch

open Text

section Summary

/-- A facet of which nothing is said that goes over several lines. -/
def Facet.Plain {α : Type} (f : Facet α) : Prop := ∀ message, f = .failed message → OneLine message

namespace Summary

variable {t : Telemetry}

@[simp] theorem oneLine_places (n : Nat) (x : Number.Single) : OneLine (places n x) :=
  Number.Binary.oneLine_fixed n _

theorem oneLine_figures (t : Telemetry) :
    ∀ s ∈ [cpuPart t, memoryPart t, outsidePart t, processesPart t], OneLine s := by
  simp only [List.forall_mem_cons]
  refine ⟨?_, ?_, ?_, ?_, nofun⟩
  · unfold cpuPart
    split <;> simp +decide
  · unfold memoryPart
    split <;> simp +decide
  · unfold outsidePart
    split <;> simp +decide
  · unfold processesPart
    split <;> simp +decide

theorem oneLine_note {α : Type} (topic : Topic) (f : Facet α) :
    (∀ note ∈ note? topic f, OneLine note) ↔ f.Plain := by
  have named : OneLine topic.name := by cases topic <;> decide
  cases f with
  | loading => simp +decide [note?, Facet.Plain, named]
  | success v => simp [note?, Facet.Plain]
  | failed message => simp +decide [note?, Facet.Plain, named]

theorem oneLine_notes (t : Telemetry) : (∀ note ∈ notes t, OneLine note) ↔
    t.cpu.Plain ∧ t.memory.Plain ∧ t.processes.Plain ∧ t.outside.Plain := by
  simp only [← oneLine_note .cpu t.cpu, ← oneLine_note .memory t.memory,
    ← oneLine_note .processes t.processes, ← oneLine_note .outside t.outside]
  simp [notes, or_imp, forall_and, eq_comm (a := some _)]

/-- The line about a host goes over several lines just where the text of the host does, or what is
said of a topic that could not be fetched. -/
theorem oneLine_line (t : Telemetry) : OneLine (line t) ↔
    (∀ target ∈ t.target, OneLine target.text) ∧
      t.cpu.Plain ∧ t.memory.Plain ∧ t.processes.Plain ∧ t.outside.Plain := by
  have figures := (oneLine_intercalate (by decide : OneLine " | ")).mpr (oneLine_figures t)
  have target : OneLine ((t.target.map Target.text).getD "-") ↔
      ∀ target ∈ t.target, OneLine target.text := by
    cases t.target <;> simp +decide
  have remarks : OneLine (if (notes t).isEmpty then "" else
      "  [" ++ String.intercalate "; " (notes t) ++ "]") ↔ ∀ note ∈ notes t, OneLine note := by
    split
    next none => simp +decide [List.isEmpty_iff.mp none]
    next =>
      have between : OneLine "; " := by decide
      simp +decide [oneLine_intercalate between]
  have between : OneLine "  " := by decide
  unfold line
  dsimp only
  rw [oneLine_append, oneLine_append, oneLine_append, target, remarks, oneLine_notes]
  simp only [figures, between, and_true]

end Summary

end Summary

section Processes

/-- The texts of a process are on one line as they are shown, cut short or not. -/
structure HostProcess.Fits (p : HostProcess) : Prop where
  name : OneLine (truncateMiddle p.name 20)
  state : OneLine (truncateMiddle p.stateDescription 12)
  user : OneLine (truncateMiddle p.user 8)

namespace ProcessTable

theorem oneLine_columns (name state user resident virtual threads : String) :
    OneLine (columns name state user resident virtual threads) ↔
      OneLine name ∧ OneLine state ∧ OneLine user ∧ OneLine resident ∧ OneLine virtual ∧
        OneLine threads := by
  unfold columns
  rw [oneLine_intercalate (by decide)]
  simp

theorem oneLine_row (killing : List UInt32) (p : HostProcess) :
    OneLine (row killing p) ↔ p.Fits := by
  have mark : OneLine (if p.pid ∈ killing then "*" else " ") := by split <;> decide
  have sizes (units : UInt64) : OneLine (size units) := Size.oneLine_text _
  have texts : OneLine (row killing p) ↔ OneLine (truncateMiddle p.name 20) ∧
      OneLine (truncateMiddle p.stateDescription 12) ∧ OneLine (truncateMiddle p.user 8) := by
    unfold row
    simp +decide [mark, oneLine_columns, sizes]
  rw [texts]
  constructor
  · rintro ⟨name, state, user⟩
    exact ⟨name, state, user⟩
  · rintro ⟨name, state, user⟩
    exact ⟨name, state, user⟩

theorem oneLine_heading : OneLine heading := by decide

theorem isWord_number (n : Nat) (isKilled : Bool) :
    IsWord (toString n ++ if isKilled then "*" else "").toList := by
  have digits : (toString n).toList = Nat.toDigits 10 n := by
    rw [Nat.toString_eq_ofList_toDigits, String.toList_ofList]
  rw [String.toList_append, digits]
  refine ⟨List.append_ne_nil_of_left_ne_nil Nat.toDigits_ne_nil _, fun c mem => ?_⟩
  rcases List.mem_append.mp mem with digit | star
  · have digit := Nat.isDigit_of_mem_toDigits (by decide) (by decide) digit
    simp only [Char.isDigit, Bool.and_eq_true, decide_eq_true_eq] at digit
    have low : 48 ≤ c.toNat := digit.1
    have high : c.toNat ≤ 57 := digit.2
    simp only [isBlank, Bool.or_eq_false_iff, Bool.and_eq_false_iff, decide_eq_false_iff_not]
    omega
  · cases isKilled with
    | false => cases star
    | true =>
      obtain rfl := List.mem_singleton.mp star
      rfl

/-- The first word of the line of a process is its number, with a star if it is being killed. -/
theorem head_words_row (killing : List UInt32) (p : HostProcess) :
    (words (row killing p)).head? =
      some (toString p.pid.toNat ++ if p.pid ∈ killing then "*" else "") := by
  have blanks (n : Nat) : ∀ c ∈ List.replicate n ' ', isBlank c = true := by
    intro c mem
    obtain rfl := List.eq_of_mem_replicate mem
    rfl
  have shown : ∃ n rest, (row killing p).toList = List.replicate n ' ' ++
      ((toString p.pid.toNat ++ if p.pid ∈ killing then "*" else "").toList ++ ' ' :: rest) := by
    unfold row padLeft
    split
    next =>
      simp only [String.toList_append, String.toList_ofList, List.append_assoc]
      exact ⟨_, _, rfl⟩
    next =>
      simp only [String.toList_append, String.toList_ofList, List.append_assoc]
      exact ⟨_, _, rfl⟩
  obtain ⟨n, rest, shown⟩ := shown
  have isWord := isWord_number p.pid.toNat (decide (p.pid ∈ killing))
  simp only [decide_eq_true_eq] at isWord
  have cut := CutInto.more (blanks n) isWord (by decide : isBlank ' ' = true)
    (cutInto_iff.mpr (rfl : wordsOf rest = _))
  rw [words, shown, cutInto_iff.mp cut, List.map_cons, List.head?_cons, String.ofList_toList]

/-- The lines of the table are its heading and the lines of the processes, if these are lines. -/
theorem splitOn_text {t : Telemetry} {ps : ProcessList} (shown : t.processes.value? = some ps) :
    (text t).toList.splitOn '\n' =
        heading.toList :: ps.map (fun p => (row t.killing p).toList) ++ [[]] ↔
      ∀ p ∈ ps, p.Fits := by
  have listed : lines t = heading :: ps.map (row t.killing) := by rw [lines, shown]
  have columns : heading.toList :: ps.map (fun p => (row t.killing p).toList) =
      (lines t).map String.toList := by simp [listed]
  rw [columns, text, splitOn_join_lines, listed, List.forall_mem_cons, List.forall_mem_map]
  simp only [oneLine_row, oneLine_heading, true_and]

end ProcessTable

end Processes

section Replies

/-- A reply is what comes of an answer at the address of some target. -/
def Answers (topic : Topic) (reply : Except Error topic.Report) : Prop :=
  ∃ target base r, Target.base target = .ok base ∧
    reply = Reply.report topic ((Question.report topic).url base) r

theorem oneLine_url {target : Target} {base : Address.Url} (ok : target.base = .ok base)
    (topic : Topic) : OneLine ((Question.report topic).url base).text := by
  have named : OneLine topic.name := by cases topic <;> decide
  unfold Target.base at ok
  cases read : Address.Url.parse ("http://" ++ target.text ++ "/") with
  | error fault =>
    rw [read] at ok
    cases ok
  | ok url =>
    rw [read] at ok
    cases ok
    exact (Address.Url.unbroken_parse read).oneLine_sibling named

theorem Facet.plain_ofReplies {α : Type} (rs : List (Except Error α)) :
    (Facet.ofReplies rs).Plain ↔ ∀ e, rs.getLast? = some (.error e) → OneLine e.message := by
  unfold Facet.ofReplies
  split
  next none => simp [Facet.Plain, none]
  next v last => simp [Facet.Plain, last]
  next e last =>
    have kind : OneLine "Error: " := by decide
    simp [Facet.Plain, last, kind]

theorem Facet.plain_ofMemory (rs : Replies) : (Facet.ofReplies rs.ofMemory).Plain ↔
    ∀ e, (rs .memory).getLast? = some (.error e) → OneLine e.message := by
  rw [Facet.plain_ofReplies, Replies.ofMemory, List.getLast?_map]
  cases (rs .memory).getLast? with
  | none => simp
  | some last =>
    cases last with
    | error e => simp [Except.bind]
    | ok r =>
      have plain : ∀ e, Telemetry.withMemory r = .error e → OneLine e.message := by
        intro e refused
        unfold Telemetry.withMemory at refused
        split at refused
        · cases refused
          decide
        · cases refused
      simpa [Except.bind] using plain

/-- The line about a host stays one line unless the last thing heard about some topic is an error
that is told over several lines. -/
theorem Telemetry.ComesFrom.oneLine_line {t : Telemetry} {notes : List Note}
    (h : t.ComesFrom notes) : OneLine (Summary.line t) ↔
      (∀ target ∈ t.target, OneLine target.text) ∧
        ∀ topic e, (repliesIn notes topic).getLast? = some (.error e) → OneLine e.message := by
  have cpu : t.cpu = .ofReplies (repliesIn notes .cpu) := congrArg Telemetry.cpu h
  have memory : t.memory = .ofReplies (repliesIn notes).ofMemory := congrArg Telemetry.memory h
  have processes : t.processes = .ofReplies (repliesIn notes .processes) :=
    congrArg Telemetry.processes h
  have outside : t.outside = .ofReplies (repliesIn notes .outside) := congrArg Telemetry.outside h
  rw [Summary.oneLine_line, cpu, memory, processes, outside, Facet.plain_ofMemory,
    Facet.plain_ofReplies, Facet.plain_ofReplies, Facet.plain_ofReplies]
  refine and_congr_right fun _ => ⟨?_, fun plain => ?_⟩
  · rintro ⟨cpu, memory, processes, outside⟩ topic
    cases topic with
    | cpu => exact cpu
    | memory => exact memory
    | processes => exact processes
    | outside => exact outside
  · exact ⟨plain .cpu, plain .memory, plain .processes, plain .outside⟩

end Replies

namespace System

def Move.Carried : Move → Prop
  | .done _ (.replied _ topic reply) => Answers topic reply
  | _ => True

variable {s : System} {move : Move} {moves : List Move} {topic : Topic}
  {reply : Except Error topic.Report}

theorem answers_next (known : ∀ topic reply, .reply topic reply ∈ s.heard → Answers topic reply)
    (carried : move.Carried) (mem : .reply topic reply ∈ (s.next move).1.heard) :
    Answers topic reply := by
  cases move with
  | start target =>
    simp only [next] at mem
    split at mem
    · cases mem
    · exact known topic reply mem
  | stop => exact known topic reply mem
  | kill pid => exact known topic reply mem
  | lost place => exact known topic reply mem
  | done place event =>
    rcases s.next_done place event with same | ⟨e, -, -, finished⟩
    · rw [same] at mem
      exact known topic reply mem
    · rw [finished] at mem
      -- only a reply of the run that goes on is taken note of as one
      rcases List.mem_append.mp mem with old | new
      · exact known topic reply old
      · have new := Option.mem_toList.mp new
        cases event with
        | replied g topic' reply' =>
          simp only [note?] at new
          split at new
          · cases new
            exact carried
          · cases new
        | killReplied pid g outcome =>
          cases outcome with
          | error e => cases new
          | ok done =>
            simp only [note?] at new
            split at new
            · cases new
            · cases new
        | _ => cases new

theorem answers_run (known : ∀ topic reply, .reply topic reply ∈ s.heard → Answers topic reply)
    (carried : ∀ move ∈ moves, move.Carried) (mem : .reply topic reply ∈ (s.run moves).heard) :
    Answers topic reply := by
  induction moves generalizing s with
  | nil => exact known topic reply mem
  | cons move moves ih =>
    obtain ⟨first, later⟩ := List.forall_mem_cons.mp carried
    exact ih (fun topic reply => answers_next known first) later mem

theorem mem_of_repliesIn {notes : List Note} (mem : reply ∈ repliesIn notes topic) :
    .reply topic reply ∈ notes := by
  obtain ⟨note, heard, about⟩ := List.mem_filterMap.mp mem
  cases note with
  | killed pid => cases topic <;> cases about
  | reply topic' reply' =>
    cases topic <;> cases topic' <;> cases about
    all_goals exact heard

/-- The line about a host is one line unless a refusal has a body of several lines, and the table
has one line for each process unless a text of one goes past its line. -/
theorem printed_lines_iff (moves : List Move) (carried : ∀ move ∈ moves, move.Carried) :
    let s := ({} : System).run moves
    let t := s.engine.telemetry
    (OneLine (Summary.line t) ↔ (∀ target ∈ t.target, OneLine target.text) ∧
      ∀ topic url r, (repliesIn s.heard topic).getLast? = some (Reply.report topic url r) →
        ¬ r.Sprawls) ∧
      (∀ address default target, Target.parse address default = .ok target →
        OneLine target.text) ∧
      ∀ ps, t.processes.value? = some ps →
        ((ProcessTable.text t).toList.splitOn '\n' = ProcessTable.heading.toList ::
            ps.map (fun p => (ProcessTable.row t.killing p).toList) ++ [[]] ↔
          ∀ p ∈ ps, p.Fits) ∧
        ∀ p ∈ ps, (words (ProcessTable.row t.killing p)).head? =
          some (toString p.pid.toNat ++ if p.pid ∈ t.killing then "*" else "") := by
  intro s t
  have answered {topic : Topic} {reply : Except Error topic.Report}
      (last : (repliesIn s.heard topic).getLast? = some reply) : Answers topic reply :=
    @answers_run {} moves topic reply (fun _ _ mem => absurd mem List.not_mem_nil) carried
      (mem_of_repliesIn (List.mem_of_getLast? last))
  refine ⟨?_, ?_, fun ps shown =>
    ⟨ProcessTable.splitOn_text shown, fun p _ => ProcessTable.head_words_row t.killing p⟩⟩
  · rw [(sound_init.run moves).known.oneLine_line]
    refine and_congr_right fun _ => ⟨?_, ?_⟩
    · intro plain topic url r last sprawls
      obtain ⟨status, text, failed, broken⟩ := sprawls.report topic url
      have told := plain topic _ (failed ▸ last)
      exact broken (oneLine_append.mp told).2
    · intro short topic e last
      obtain ⟨target, base, r, ok, same⟩ := answered last
      exact Reply.oneLine_report same.symm (oneLine_url ok topic) (short topic _ r (same ▸ last))
  · intro address default target parsed
    obtain ⟨u, host, read, named, rfl⟩ := Target.completed_host parsed
    obtain ⟨-, span, -, found⟩ := Address.parse_host read named
    have port : OneLine (toString (u.port?.getD default).toNat) := oneLine_repr _
    exact oneLine_append.mpr ⟨oneLine_append.mpr ⟨Address.Host.oneLine_text found, by decide⟩, port⟩

/-- A host refuses one topic in a line, and lists a process that is being killed, whose name is cut
short where it goes over two lines. -/
theorem lines_kept_by_cut_name :
    let target : Target := ⟨"pi.local", 3000⟩
    let base : Address.Url := ⟨"http", some ⟨"", .name "pi.local", some 3000⟩, "/", none, none⟩
    let replied (topic : Topic) (r : Reply) : Event :=
      .replied 1 topic (r.report topic ((Question.report topic).url base))
    let refusal := Utf8.bytesOf "worker died\r"
    let list := Utf8.bytesOf
      "\x7b\"processes\":[\x7b\"pid\":7,\"name\":\"a name of\\nmore than one line\"\x7d]\x7d"
    let p : HostProcess := { pid := 7, name := "a name of\nmore than one line" }
    let moves : List Move := [.start target, .kill 7, .done 0 (.loopBegins 1),
      .done 0 (.killBegins 7 (some ⟨base, 1⟩)), .done 4 (.killReplied 7 1 (.ok ())),
      .done 0 (replied .cpu (.answer 500 refusal true)),
      .done 1 (replied .processes (.answer 200 list true))]
    let t := (({} : System).run moves).engine.telemetry
    (∀ move ∈ moves, move.Carried) ∧ OneLine (Summary.line t) ∧
      t.processes.value? = some [p] ∧ ¬ OneLine p.name ∧
      (ProcessTable.text t).toList.splitOn '\n' =
        [ProcessTable.heading.toList, (ProcessTable.row [7] p).toList, []] ∧
      (words (ProcessTable.row [7] p)).head? = some "7*" := by
  intro target base replied refusal list p moves t
  have reached : target.base = .ok base := by decide +kernel
  have answers (topic : Topic) (r : Reply) :
      Answers topic (r.report topic ((Question.report topic).url base)) :=
    ⟨target, base, r, reached, rfl⟩
  have carried : ∀ move ∈ moves, move.Carried := by
    simp only [moves, List.forall_mem_cons]
    exact ⟨trivial, trivial, trivial, trivial, trivial, answers .cpu _, answers .processes _,
      by simp⟩
  obtain ⟨line, -, table⟩ := printed_lines_iff moves carried
  have shown : t.processes.value? = some [p] := by decide +kernel
  have killing : t.killing = [7] := by decide +kernel
  obtain ⟨rows, marked⟩ := table [p] shown
  have fits : p.Fits := ⟨by decide, by decide, by decide⟩
  refine ⟨carried, line.mpr ⟨?_, ?_⟩, shown, by decide, ?_, ?_⟩
  · have same : t.target = some target := by decide +kernel
    rw [same]
    rintro _ ⟨⟩
    decide
  · intro topic url r last sprawls
    obtain ⟨status, text, failed, broken⟩ := sprawls.report topic url
    rw [failed] at last
    let heard := repliesIn (({} : System).run moves).heard
    cases topic with
    | cpu =>
      have refused : (heard .cpu).getLast? = some (.error (.status 500 "worker died\r")) := by
        decide +kernel
      rw [refused] at last
      cases last
      exact broken (by decide)
    | memory =>
      have silent : (heard .memory).getLast? = none := by decide +kernel
      cases silent.symm.trans last
    | processes =>
      have listed : (heard .processes).getLast? = some (.ok [p]) := by decide +kernel
      cases listed.symm.trans last
    | outside =>
      have silent : (heard .outside).getLast? = none := by decide +kernel
      cases silent.symm.trans last
  · rw [← killing]
    exact rows.mpr (List.forall_mem_singleton.mpr fits)
  · have first := marked p List.mem_cons_self
    rw [killing] at first
    exact first.trans (by decide)

/-- A host refuses one topic in two lines and lists a process whose name goes over two lines. -/
theorem refusal_and_name_break_lines :
    let target : Target := ⟨"pi.local", 3000⟩
    let base : Address.Url := ⟨"http", some ⟨"", .name "pi.local", some 3000⟩, "/", none, none⟩
    let replied (topic : Topic) (r : Reply) : Event :=
      .replied 1 topic (r.report topic ((Question.report topic).url base))
    let refusal := Utf8.bytesOf "worker died\nrestart"
    let list := Utf8.bytesOf "\x7b\"processes\":[\x7b\"pid\":7,\"name\":\"ev\\nil\"\x7d]\x7d"
    let moves : List Move := [.start target, .done 0 (.loopBegins 1),
      .done 0 (replied .cpu (.answer 500 refusal true)),
      .done 1 (replied .processes (.answer 200 list true))]
    let t := (({} : System).run moves).engine.telemetry
    (∀ move ∈ moves, move.Carried) ∧ ¬ OneLine (Summary.line t) ∧
      t.processes.value? = some [{ pid := 7, name := "ev\nil" }] ∧
      (ProcessTable.text t).toList.count '\n' = 3 := by
  intro target base replied refusal list moves t
  have reached : target.base = .ok base := by decide +kernel
  have answers (topic : Topic) (r : Reply) :
      Answers topic (r.report topic ((Question.report topic).url base)) :=
    ⟨target, base, r, reached, rfl⟩
  refine ⟨?_, ?_, ?_, ?_⟩
  · simp only [moves, List.forall_mem_cons]
    exact ⟨trivial, trivial, answers .cpu _, answers .processes _, by simp⟩
  · decide +kernel
  · decide +kernel
  · decide +kernel

end System

end HostWatch
