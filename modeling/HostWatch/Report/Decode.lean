import HostWatch.Json.Record
import HostWatch.Report.Basic

namespace HostWatch.Report

open Json
open Number (Single)

def counter : Read UInt64 := do return UInt64.ofNat (← natural64)

def identifier : Read UInt32 := do return UInt32.ofNat (← natural32)

def counterFields : List (String × (Counters → UInt64 → Counters)) :=
  [("user_norm", fun c n => { c with userNorm := n }),
   ("user_nice", fun c n => { c with userNice := n }),
   ("kernel", fun c n => { c with kernel := n }),
   ("idle", fun c n => { c with idle := n }),
   ("iowait", fun c n => { c with ioWait := n }),
   ("irq", fun c n => { c with irq := n }),
   ("soft_irq", fun c n => { c with softIrq := n })]

def countersShape : Shape Counters :=
  ⟨"struct CpuStats", counterFields.map fun (name, set) => Field.lenient name counter set, {}⟩

def nestingLimit : Nat := 127

def coreNesting : Nat := 4

def forgetItems (value : Read Found) : Nat → Bool → Read Unit
  | 0, _ => Read.fail .endInList
  | fuel + 1, first => do
    if ← moreItems first then
      let _ ← value
      forgetItems value fuel false

def forgetMembers (value : Read Found) : Nat → Bool → Read Unit
  | 0, _ => Read.fail .endInObject
  | fuel + 1, first => do
    if ← moreMembers first then
      let _ ← memberName
      colon
      let _ ← value
      forgetMembers value fuel false

/-- Reads any value, of which only what `Found` tells is kept; without a reader for the values
inside lists and objects, none may be opened. -/
def valueWith (inside : Option (Read Found)) : Read Found := do
  match ← Read.token with
  | none => Read.failNext .endInValue
  | some 'n' => do Read.advance; word "ull".toList; return .null
  | some 't' => do Read.advance; word "rue".toList; return .boolean true
  | some 'f' => do Read.advance; word "alse".toList; return .boolean false
  | some '-' => do Read.advance; return (← Numeral.read false).found
  | some '"' => do Read.advance; return .text (← Json.string)
  | some '[' =>
    match inside with
    | none => Read.failNext .tooDeep
    | some value =>
      inList (do forgetItems value ((← get).rest.length + 1) true)
      return .sequence
  | some '{' =>
    match inside with
    | none => Read.failNext .tooDeep
    | some value =>
      inObject (do forgetMembers value ((← get).rest.length + 1) true)
      return .map
  | some d =>
    if (Number.digit? d).isSome then return (← Numeral.read true).found
    else Read.failNext .noValue

/-- Reads any value in which a number of lists and objects may be open at once. -/
def anyValue : Nat → Read Found
  | 0 => valueWith none
  | budget + 1 => valueWith (some (anyValue budget))

def counterOf : Found → Except Problem UInt64
  | .natural n => .ok (UInt64.ofNat n)
  | .negative n => .error (.wrongValue (.negative n) "u64")
  | found => .error (.wrongType found "u64")

/-- Enters kept members into counters, passing over those that name none; `seen` are the counters
entered so far. -/
def enterCounters (seen : List String) (c : Counters) :
    List (String × Found) → Except Problem Counters
  | [] => .ok c
  | (name, found) :: rest =>
    match counterFields.find? (·.1 = name) with
    | none => enterCounters seen c rest
    | some (_, set) =>
      if name ∈ seen then .error (.duplicateField name)
      else
        match counterOf found with
        | .ok n => enterCounters (name :: seen) (set c n) rest
        | .error p => .error p

def coreMembers : Nat → Bool → Option UInt32 → List (String × Found) → Read CoreCounters
  | 0, _, _, _ => Read.fail .endInObject
  | fuel + 1, first, id, kept => do
    if ← moreMembers first then
      let name ← memberName
      if name = "core_id" then
        if id.isSome then Read.failPending (.duplicateField name)
        else do
          colon
          let n ← identifier
          coreMembers fuel false (some n) kept
      else do
        colon
        let found ← anyValue (nestingLimit - coreNesting)
        coreMembers fuel false id ((name, found) :: kept)
    else
      match id with
      | none => Read.failPending (.missingField "core_id")
      | some n =>
        match enterCounters [] {} kept.reverse with
        | .ok c => return ⟨n, c⟩
        | .error p => Read.failPending p

def core : Read CoreCounters := do
  match ← Read.token with
  | none => Read.failNext .endInValue
  | some '{' => inObject (do coreMembers ((← get).rest.length + 1) true none [])
  | some _ => wrongType "struct CoreStats"

/-- The counters of the whole processor and of its cores. -/
structure Usage where
  full : Counters := {}
  cores : List CoreCounters := []

def usageShape : Shape Usage :=
  ⟨"struct CpuUsage",
    [Field.needed "full" countersShape.read fun u c => { u with full := c },
     Field.lenient "cores" (Json.list core) fun u cs => { u with cores := cs }], {}⟩

def cpuShape : Shape CpuReport :=
  ⟨"struct CpuResponse",
    [Field.lenient "cpu_temperature" (nullable single) fun r t => { r with temperature := t },
     Field.needed "cpu_usage" usageShape.read fun r u =>
       { r with full := u.full, cores := u.cores }],
    ⟨none, {}, []⟩⟩

def memoryShape : Shape MemoryReport :=
  ⟨"struct MemoryResponse",
    [Field.lenient "total" counter fun m n => { m with total := n },
     Field.lenient "available" counter fun m n => { m with available := n },
     Field.lenient "free" counter fun m n => { m with free := n }], {}⟩

def processShape : Shape HostProcess :=
  ⟨"struct ProcessInfo",
    [Field.lenient "pid" identifier fun p n => { p with pid := n },
     Field.lenient "name" text fun p s => { p with name := s },
     Field.lenient "state_code" text fun p s => { p with stateCode := s },
     Field.lenient "state_description" text fun p s => { p with stateDescription := s },
     Field.lenient "user" text fun p s => { p with user := s },
     Field.lenient "group" text fun p s => { p with group := s },
     Field.lenient "memory_rss" counter fun p n => { p with resident := n },
     Field.lenient "memory_virt" counter fun p n => { p with virtual := n },
     Field.lenient "swap" counter fun p n => { p with swap := n },
     Field.lenient "threads" identifier fun p n => { p with threads := n },
     Field.lenient "utime" counter fun p n => { p with time := n }], {}⟩

def processesShape : Shape ProcessList :=
  ⟨"struct ProcessList",
    [Field.needed "processes" (Json.list processShape.read) fun _ ps => ps], []⟩

def outsideShape : Shape Single :=
  ⟨"struct ExternalTemperature", [Field.needed "temperature" single fun _ t => t], ⟨0⟩⟩

def killShape : Shape UInt32 :=
  ⟨"struct KillRequest", [Field.needed "pid" identifier fun _ n => n], 0⟩

def cpu? : List UInt8 → Except Fault CpuReport := readAll cpuShape.read
def memory? : List UInt8 → Except Fault MemoryReport := readAll memoryShape.read
def processes? : List UInt8 → Except Fault ProcessList := readAll processesShape.read
def outside? : List UInt8 → Except Fault Single := readAll outsideShape.read
def kill? : List UInt8 → Except Fault UInt32 := readAll killShape.read

end HostWatch.Report
