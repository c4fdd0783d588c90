import HostWatch.Exchange.Reply
import HostWatch.Proofs.Json.Truncation
import HostWatch.Proofs.Report.Spelled

namespace HostWatch

open Json

theorem of_mapError {ε δ α : Type} {g : ε → δ} {outcome : Except ε α} {v : α}
    (h : outcome.mapError g = .ok v) : outcome = .ok v := by
  cases outcome with
  | error e => cases h
  | ok w =>
    cases h
    rfl

namespace Report

theorem steady_counter : Steady counter := (steady_natural _ _).bind fun _ => steady_pure _

theorem steady_identifier : Steady identifier := (steady_natural _ _).bind fun _ => steady_pure _

section Fields

variable {σ α : Type} {name : String} {value : Read α} {set : σ → α → σ} {fs : List (Json.Field σ)}

theorem steadyFields_nil : Shape.SteadyFields ([] : List (Json.Field σ)) := fun _ mem => nomatch mem

theorem steadyFields_lenient (h : Steady value) (h' : Shape.SteadyFields fs) :
    Shape.SteadyFields (Json.Field.lenient name value set :: fs) :=
  List.forall_mem_cons.mpr ⟨fun _ => h.bind fun _ => steady_pure _, h'⟩

theorem steadyFields_needed (h : Steady value) (h' : Shape.SteadyFields fs) :
    Shape.SteadyFields (Json.Field.needed name value set :: fs) :=
  List.forall_mem_cons.mpr ⟨fun _ => h.bind fun _ => steady_pure _, h'⟩

end Fields

section Cores

variable {value : Read Found}

theorem continues_forgetItems (h : Steady value) (n m : Nat) (le : n ≤ m) (first : Bool) :
    Continues (forgetItems value n first) (forgetItems value m first) := by
  induction n, m, le using countdown generalizing first with
  | out m => exact continues_of_failing fun _ _ => nofun
  | left n m le ih =>
    have later := ih false
    refine Continues.bind (steady_moreItems first) fun more => Continues.ite ?_ (steady_pure _)
    exact Continues.bind h fun _ => later

theorem continues_forgetMembers (h : Steady value) (n m : Nat) (le : n ≤ m) (first : Bool) :
    Continues (forgetMembers value n first) (forgetMembers value m first) := by
  induction n, m, le using countdown generalizing first with
  | out m => exact continues_of_failing fun _ _ => nofun
  | left n m le ih =>
    have later := ih false
    refine Continues.bind (steady_moreMembers first) fun more => Continues.ite ?_ (steady_pure _)
    refine Continues.bind steady_memberName fun _ => Continues.bind steady_colon fun _ => ?_
    exact Continues.bind h fun _ => later

theorem steady_valueWith {inside : Option (Read Found)} (h : ∀ value ∈ inside, Steady value) :
    Steady (valueWith inside) := by
  refine steady_token.bind fun next => ?_
  split
  · exact steady_failNext _
  · exact steady_advance.bind fun _ => (steady_word _).bind fun _ => steady_pure _
  · exact steady_advance.bind fun _ => (steady_word _).bind fun _ => steady_pure _
  · exact steady_advance.bind fun _ => (steady_word _).bind fun _ => steady_pure _
  · exact steady_advance.bind fun _ => (Numeral.steady_read _).bind fun _ => steady_pure _
  · exact steady_advance.bind fun _ => steady_string.bind fun _ => steady_pure _
  · split
    next => exact steady_failNext _
    next value =>
      have items : Steady (do forgetItems value ((← get).rest.length + 1) true) :=
        Steady.budgeted fun n m le => continues_forgetItems (h value rfl) n m le true
      exact items.inList.steady.bind fun _ => steady_pure _
  · split
    next => exact steady_failNext _
    next value =>
      have members : Steady (do forgetMembers value ((← get).rest.length + 1) true) :=
        Steady.budgeted fun n m le => continues_forgetMembers (h value rfl) n m le true
      exact members.inObject.steady.bind fun _ => steady_pure _
  · exact ((Numeral.steady_read _).bind fun _ => steady_pure _).ite (steady_failNext _)

theorem steady_anyValue (budget : Nat) : Steady (anyValue budget) := by
  induction budget with
  | zero => exact steady_valueWith nofun
  | succ budget ih =>
    refine steady_valueWith ?_
    rintro _ ⟨⟩
    exact ih

theorem continues_coreMembers (n m : Nat) (le : n ≤ m) (first : Bool) (id : Option UInt32)
    (kept : List (String × Found)) :
    Continues (coreMembers n first id kept) (coreMembers m first id kept) := by
  induction n, m, le using countdown generalizing first id kept with
  | out m => exact continues_of_failing fun _ _ => nofun
  | left n m le ih =>
    have later := ih false
    refine Continues.bind (steady_moreMembers first) fun more => Continues.ite ?_ ?_
    · refine Continues.bind steady_memberName fun name => Continues.ite ?_ ?_
      · refine Continues.ite (steady_failPending _) ?_
        refine Continues.bind steady_colon fun _ => Continues.bind steady_identifier fun n => ?_
        exact later (some n) kept
      · refine Continues.bind steady_colon fun _ => ?_
        refine Continues.bind (steady_anyValue _) fun found => ?_
        exact later id ((name, found) :: kept)
    · split
      · exact steady_failPending _
      · split
        · exact steady_pure _
        · exact steady_failPending _

theorem steady_core : Steady core := by
  refine steady_token.bind fun next => ?_
  split
  · exact steady_failNext _
  · have members : Steady (do coreMembers ((← get).rest.length + 1) true none []) :=
      Steady.budgeted fun n m le => continues_coreMembers n m le true none []
    exact members.inObject.steady
  · exact steady_wrongType _

end Cores

theorem ends_counters : Ends countersShape.read := by
  refine Shape.ends_read fun f mem r => ?_
  obtain ⟨named, -, rfl⟩ := List.mem_map.mp mem
  exact steady_counter.bind fun _ => steady_pure _

theorem ends_usage : Ends usageShape.read :=
  Shape.ends_read <| steadyFields_needed ends_counters.steady <|
    steadyFields_lenient steady_core.list steadyFields_nil

theorem ends_cpu : Ends cpuShape.read :=
  Shape.ends_read <| steadyFields_lenient steady_single.nullable <|
    steadyFields_needed ends_usage.steady steadyFields_nil

theorem ends_memory : Ends memoryShape.read :=
  Shape.ends_read <| steadyFields_lenient steady_counter <| steadyFields_lenient steady_counter <|
    steadyFields_lenient steady_counter steadyFields_nil

theorem ends_process : Ends processShape.read :=
  Shape.ends_read <| steadyFields_lenient steady_identifier <| steadyFields_lenient steady_text <|
    steadyFields_lenient steady_text <| steadyFields_lenient steady_text <|
    steadyFields_lenient steady_text <| steadyFields_lenient steady_text <|
    steadyFields_lenient steady_counter <| steadyFields_lenient steady_counter <|
    steadyFields_lenient steady_counter <| steadyFields_lenient steady_identifier <|
    steadyFields_lenient steady_counter steadyFields_nil

theorem ends_processes : Ends processesShape.read :=
  Shape.ends_read <| steadyFields_needed ends_process.steady.list steadyFields_nil

theorem ends_outside : Ends outsideShape.read :=
  Shape.ends_read <| steadyFields_needed steady_single steadyFields_nil

theorem ends_kill : Ends killShape.read :=
  Shape.ends_read <| steadyFields_needed steady_identifier steadyFields_nil

end Report

section Cut

variable {front back : List UInt8}

theorem Topic.cut_refused {topic : Topic} {v : topic.Report}
    (whole : topic.decode (front ++ back) = .ok v) (shows : ∃ b ∈ back, ¬ Cursor.isBlank b) :
    ∃ fault, topic.decode front = .error fault := by
  cases topic with
  | cpu => exact Report.ends_cpu.readAll_cut whole shows
  | memory => exact Report.ends_memory.readAll_cut whole shows
  | processes => exact Report.ends_processes.readAll_cut whole shows
  | outside => exact Report.ends_outside.readAll_cut whole shows

/-- An answer that passes for whole but was cut is refused for what it says, never believed. -/
theorem Reply.cut_refused {topic : Topic} {url : Address.Url} {status : Nat} {v : topic.Report}
    (whole : Reply.report topic url (.answer status (front ++ back) true) = .ok v)
    (shows : ∃ b ∈ back, ¬ Cursor.isBlank b) :
    ∃ fault, Reply.report topic url (.answer status front true) = .error (.decode fault) := by
  by_cases success : Reply.isSuccess status
  · have reads (body : List UInt8) : Reply.report topic url (.answer status body true) =
        (topic.decode body).mapError .decode := by
      simp only [Reply.report, Reply.success, success, if_true, bind, Except.bind]
    rw [reads] at whole ⊢
    obtain ⟨fault, refused⟩ := Topic.cut_refused (of_mapError whole) shows
    exact ⟨fault, congrArg (Except.mapError Error.decode) refused⟩
  · simp only [Reply.report, Reply.success, success, bind, Except.bind] at whole
    cases whole

end Cut

/-- What goes over the wire between the program and a host. -/
inductive Payload where
  | report (topic : Topic)
  | kill
  deriving DecidableEq, Repr

namespace Payload

def Value : Payload → Type
  | report topic => topic.Report
  | kill => UInt32

def decode : (k : Payload) → List UInt8 → Except Error k.Value
  | report topic, bs => (topic.decode bs).mapError .decode
  | kill, bs => (Report.kill? bs).mapError .decode

/-- A payload that ends before its last character that shows is refused: neither a number, a string
or an escape that was cut, nor a record that lacks no more than its bracket, stands for anything. -/
theorem decode_cut {k : Payload} {front back : List UInt8} {v : k.Value}
    (whole : k.decode (front ++ back) = .ok v) (shows : ∃ b ∈ back, ¬ Cursor.isBlank b) :
    ∃ fault, k.decode front = .error (.decode fault) := by
  cases k with
  | report topic =>
    obtain ⟨fault, refused⟩ := Topic.cut_refused (of_mapError whole) shows
    exact ⟨fault, congrArg (Except.mapError Error.decode) refused⟩
  | kill =>
    obtain ⟨fault, refused⟩ := Report.ends_kill.readAll_cut (of_mapError whole) shows
    exact ⟨fault, congrArg (Except.mapError Error.decode) refused⟩

/-- A list of one process whose number is cut in two. -/
theorem number_cut :
    let front := Text.Utf8.bytesOf "\x7b\"processes\":[\x7b\"pid\":1"
    let back := Text.Utf8.bytesOf "2\x7d]\x7d\n"
    (report .processes).decode (front ++ back) = .ok [{ pid := 12 }] ∧
      (∃ b ∈ back, ¬ Cursor.isBlank b) ∧
      ∃ fault, (report .processes).decode front = .error (.decode fault) := by
  intro front back
  let process : HostProcess := { pid := 12 }
  have nothing : Lead true [] := isGap_nil
  have ended : Series false [] [] := .done isGap_nil
  have pid : SpellsMember "pid" (SpellsNatural 12) _ := spellsMember_plain (by decide) rfl
  have spelled : SpellsRecord process.entries 0 _ :=
    ⟨["pid"], by simp [process, HostProcess.entries], _, .part nothing pid ended, rfl⟩
  have list : SpellsList [SpellsRecord process.entries 0] _ := ⟨_, .part nothing spelled ended, rfl⟩
  have member : SpellsMember "processes" _ _ := spellsMember_plain (by decide) list
  have text : SpellsText (SpellsRecord (ProcessList.entries [process] 0) 0) (front ++ back) :=
    ⟨[], _, ['\n'], isGap_nil, ⟨["processes"], by simp [ProcessList.entries], _,
      .part nothing member ended, rfl⟩, by decide, rfl⟩
  have read : readAll Report.processesShape.read (front ++ back) = .ok [process] :=
    text.readAll fun _ => Report.takes_processes
  have decoded (bs : List UInt8) (h : readAll Report.processesShape.read bs = .ok [process]) :
      (report .processes).decode bs = .ok [process] := congrArg (Except.mapError Error.decode) h
  have whole : (report .processes).decode (front ++ back) = .ok [process] := decoded _ read
  have shows : ∃ b ∈ back, ¬ Cursor.isBlank b := by decide
  exact ⟨whole, shows, decode_cut whole shows⟩

end Payload

end HostWatch
