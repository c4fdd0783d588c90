import HostWatch.Exchange.Reply
import HostWatch.Proofs.Json.Complaints

namespace HostWatch

open Json Text

namespace Report

theorem terse_counter : Terse counter :=
  (terse_natural _ (by decide)).bind fun _ => terse_pure _

theorem terse_identifier : Terse identifier :=
  (terse_natural _ (by decide)).bind fun _ => terse_pure _

theorem oneLine_counterFields : ∀ f ∈ counterFields, OneLine f.1 := by decide

theorem terse_counters : countersShape.Terse := by
  refine ⟨by decide, fun f mem => ?_⟩
  obtain ⟨named, listed, rfl⟩ := List.mem_map.mp mem
  exact .lenient (oneLine_counterFields named listed) terse_counter

section Cores

variable {value : Read Found}

theorem terse_forgetItems (h : Terse value) (fuel : Nat) (first : Bool) :
    Terse (forgetItems value fuel first) := by
  induction fuel generalizing first with
  | zero => exact terse_fail (by trivial)
  | succ fuel ih =>
    have later := ih false
    refine (terse_moreItems first).bind fun more => Terse.ite ?_ (terse_pure _)
    exact h.bind fun _ => later

theorem terse_forgetMembers (h : Terse value) (fuel : Nat) (first : Bool) :
    Terse (forgetMembers value fuel first) := by
  induction fuel generalizing first with
  | zero => exact terse_fail (by trivial)
  | succ fuel ih =>
    have later := ih false
    refine (terse_moreMembers first).bind fun more => Terse.ite ?_ (terse_pure _)
    refine terse_memberName.bind fun _ => terse_colon.bind fun _ => ?_
    exact h.bind fun _ => later

theorem terse_valueWith {inside : Option (Read Found)} (h : ∀ value ∈ inside, Terse value) :
    Terse (valueWith inside) := by
  refine terse_token.bind fun next => ?_
  split
  · exact terse_failNext (by trivial)
  · exact terse_advance.bind fun _ => (terse_word _).bind fun _ => terse_pure _
  · exact terse_advance.bind fun _ => (terse_word _).bind fun _ => terse_pure _
  · exact terse_advance.bind fun _ => (terse_word _).bind fun _ => terse_pure _
  · exact terse_advance.bind fun _ => (Numeral.terse_read _).bind fun _ => terse_pure _
  · exact terse_advance.bind fun _ => terse_string.bind fun _ => terse_pure _
  · split
    next => exact terse_failNext (by trivial)
    next value =>
      have items : Terse (do forgetItems value ((← get).rest.length + 1) true) :=
        Terse.budgeted fun n => terse_forgetItems (h value rfl) n true
      exact items.inList.bind fun _ => terse_pure _
  · split
    next => exact terse_failNext (by trivial)
    next value =>
      have members : Terse (do forgetMembers value ((← get).rest.length + 1) true) :=
        Terse.budgeted fun n => terse_forgetMembers (h value rfl) n true
      exact members.inObject.bind fun _ => terse_pure _
  · exact ((Numeral.terse_read _).bind fun _ => terse_pure _).ite (terse_failNext (by trivial))

theorem terse_anyValue (budget : Nat) : Terse (anyValue budget) := by
  induction budget with
  | zero => exact terse_valueWith nofun
  | succ budget ih =>
    refine terse_valueWith ?_
    rintro _ ⟨⟩
    exact ih

theorem plain_of_counterOf {found : Found} {p : Problem} (refused : counterOf found = .error p) :
    p.Plain := by
  cases found with
  | natural n => cases refused
  | _ =>
    cases refused
    exact (by decide : OneLine "u64")

theorem plain_of_enterCounters {seen : List String} {c : Counters} {kept : List (String × Found)}
    {p : Problem} (refused : enterCounters seen c kept = .error p) : p.Plain := by
  induction kept generalizing seen c with
  | nil => cases refused
  | cons member kept ih =>
    obtain ⟨name, found⟩ := member
    unfold enterCounters at refused
    split at refused
    next => exact ih refused
    next f set listed =>
      split at refused
      · cases refused
        have same : f = name := by simpa using List.find?_some listed
        exact same ▸ oneLine_counterFields _ (List.mem_of_find?_eq_some listed)
      · split at refused
        next => exact ih refused
        next bad =>
          cases refused
          exact plain_of_counterOf bad

theorem terse_coreMembers (fuel : Nat) (first : Bool) (id : Option UInt32)
    (kept : List (String × Found)) : Terse (coreMembers fuel first id kept) := by
  induction fuel generalizing first id kept with
  | zero => exact terse_fail (by trivial)
  | succ fuel ih =>
    have later := ih false
    refine (terse_moreMembers first).bind fun more => Terse.ite ?_ ?_
    · refine terse_memberName.bind fun name => ?_
      split
      next same =>
        have plain : (Problem.duplicateField name).Plain := same ▸ (by decide : OneLine "core_id")
        refine (terse_failPending plain).ite ?_
        exact terse_colon.bind fun _ => terse_identifier.bind fun n => later (some n) kept
      next =>
        refine terse_colon.bind fun _ => (terse_anyValue _).bind fun found => ?_
        exact later id ((name, found) :: kept)
    · split
      · exact terse_failPending (by decide : OneLine "core_id")
      · split
        next => exact terse_pure _
        next bad => exact terse_failPending (plain_of_enterCounters bad)

theorem terse_core : Terse core := by
  refine terse_token.bind fun next => ?_
  split
  · exact terse_failNext (by trivial)
  · have members : Terse (do coreMembers ((← get).rest.length + 1) true none []) :=
      Terse.budgeted fun n => terse_coreMembers n true none []
    exact members.inObject
  · exact terse_wrongType (by decide)

end Cores

theorem terse_usage : usageShape.Terse where
  title := by decide
  fields := by
    simp only [usageShape, List.forall_mem_cons]
    exact ⟨.needed (by decide) terse_counters.read, .lenient (by decide) terse_core.list, nofun⟩

theorem terse_cpu : cpuShape.Terse where
  title := by decide
  fields := by
    simp only [cpuShape, List.forall_mem_cons]
    exact ⟨.lenient (by decide) terse_single.nullable, .needed (by decide) terse_usage.read, nofun⟩

theorem terse_memory : memoryShape.Terse where
  title := by decide
  fields := by
    simp only [memoryShape, List.forall_mem_cons]
    exact ⟨.lenient (by decide) terse_counter, .lenient (by decide) terse_counter,
      .lenient (by decide) terse_counter, nofun⟩

theorem terse_process : processShape.Terse where
  title := by decide
  fields := by
    simp only [processShape, List.forall_mem_cons]
    exact ⟨.lenient (by decide) terse_identifier, .lenient (by decide) terse_text,
      .lenient (by decide) terse_text, .lenient (by decide) terse_text,
      .lenient (by decide) terse_text, .lenient (by decide) terse_text,
      .lenient (by decide) terse_counter, .lenient (by decide) terse_counter,
      .lenient (by decide) terse_counter, .lenient (by decide) terse_identifier,
      .lenient (by decide) terse_counter, nofun⟩

theorem terse_processes : processesShape.Terse where
  title := by decide
  fields := by
    simp only [processesShape, List.forall_mem_cons]
    exact ⟨.needed (by decide) terse_process.read.list, nofun⟩

theorem terse_outside : outsideShape.Terse where
  title := by decide
  fields := by
    simp only [outsideShape, List.forall_mem_cons]
    exact ⟨.needed (by decide) terse_single, nofun⟩

end Report

theorem Topic.oneLine_refusal {topic : Topic} {bs : List UInt8} {fault : Fault}
    (refused : topic.decode bs = .error fault) : OneLine fault.message := by
  cases topic with
  | cpu => exact Report.terse_cpu.read.readAll refused
  | memory => exact Report.terse_memory.read.readAll refused
  | processes => exact Report.terse_processes.read.readAll refused
  | outside => exact Report.terse_outside.read.readAll refused

namespace Reply

/-- An answer with a status other than success that has a body of several lines. -/
def Sprawls : Reply → Prop
  | answer status body isWhole => isSuccess status = false ∧ isWhole = true ∧ 0x0A ∈ body
  | brokenOff _ => False

theorem Sprawls.report {r : Reply} (sprawls : r.Sprawls) (topic : Topic) (url : Address.Url) :
    ∃ status text, r.report topic url = .error (.status status text) ∧ ¬ OneLine text := by
  cases r with
  | brokenOff timedOut => cases sprawls
  | answer status body isWhole =>
    obtain ⟨bad, rfl, line⟩ := sprawls
    refine ⟨status, Utf8.lossyText body, ?_, ?_⟩
    · simp [Reply.report, success, bad, bind, Except.bind]
    · rw [Utf8.oneLine_lossyText]
      exact fun plain => plain line

theorem oneLine_report {topic : Topic} {url : Address.Url} {r : Reply} {e : Error}
    (failed : r.report topic url = .error e) (plain : OneLine url.text) (short : ¬ r.Sprawls) :
    OneLine e.message := by
  have broken (timedOut : Bool) : OneLine (Error.exchange url.text timedOut).message :=
    oneLine_append.mpr ⟨oneLine_append.mpr ⟨by decide, plain⟩, by decide⟩
  cases r with
  | brokenOff timedOut =>
    cases failed
    exact broken timedOut
  | answer status body isWhole =>
    by_cases good : isSuccess status = true
    · simp only [Reply.report, success, good, if_true, bind, Except.bind] at failed
      split at failed
      · cases decoded : topic.decode body with
        | error fault =>
          rw [decoded] at failed
          cases failed
          exact oneLine_append.mpr ⟨by decide, Topic.oneLine_refusal decoded⟩
        | ok v =>
          rw [decoded] at failed
          cases failed
      · cases failed
        exact broken false
    · simp only [Reply.report, success, good, bind, Except.bind] at failed
      cases failed
      have told : OneLine (if isWhole then Utf8.lossyText body else "") := by
        split
        next whole =>
          rw [Utf8.oneLine_lossyText]
          exact fun line => short ⟨Bool.eq_false_iff.mpr good, whole, line⟩
        next => decide
      have answered : OneLine ("host answered " ++ toString status ++ ": ") :=
        oneLine_append.mpr ⟨oneLine_append.mpr ⟨by decide, oneLine_repr _⟩, by decide⟩
      exact oneLine_append.mpr ⟨answered, told⟩

end Reply

end HostWatch
