import HostWatch.Proofs.Json.Fields
import HostWatch.Proofs.Report.Cores

namespace HostWatch

open Json

/-- The names under which 32 bits are kept; under all others it is 64. -/
def narrowNames : List String := ["pid", "threads", "core_id"]

def figureBound (name : String) : Nat := if name ∈ narrowNames then UInt32.size else UInt64.size

def table {α : Type} (names : List String) (d : String → α) : List (String × α) :=
  names.map fun name => (name, d name)

def Fits (names : List String) (d : String → Nat) : Prop :=
  ∀ name ∈ names, d name < figureBound name

def figureTrial (d : String → Nat) (name : String) : Trial :=
  ⟨⟨name, SpellsNatural (d name), d name = 0⟩, d name < figureBound name⟩

def neededTrial (d : String → Nat) (name : String) : Trial :=
  ⟨⟨name, SpellsNatural (d name), False⟩, d name < figureBound name⟩

def textTrial (d : String → String) (name : String) : Trial :=
  ⟨⟨name, SpellsString (d name), d name = ""⟩, True⟩

theorem figureBound_pos (name : String) : 0 < figureBound name := by
  unfold figureBound
  split <;> decide

theorem table_mod {names : List String} {d : String → Nat} (fits : Fits names d) :
    table names (fun name => d name % figureBound name) = table names d := by
  apply List.map_congr_left
  intro name mem
  have whole : d name % figureBound name = d name := Nat.mod_eq_of_lt (fits name mem)
  exact congrArg (name, ·) whole

namespace Counters

def figureNames : List String :=
  ["user_norm", "user_nice", "kernel", "idle", "iowait", "irq", "soft_irq"]

def figures (c : Counters) : List (String × Nat) := c.named.map fun m => (m.1, m.2.toNat)

def ofFigures (d : String → Nat) : Counters where
  userNorm := .ofNat (d "user_norm")
  userNice := .ofNat (d "user_nice")
  kernel := .ofNat (d "kernel")
  idle := .ofNat (d "idle")
  ioWait := .ofNat (d "iowait")
  irq := .ofNat (d "irq")
  softIrq := .ofNat (d "soft_irq")

theorem figures_ofFigures (d : String → Nat) :
    (ofFigures d).figures = table figureNames fun name => d name % figureBound name := rfl

theorem wide_of_mem {name : String} (mem : name ∈ figureNames) : name ∉ narrowNames := by
  have all : ∀ name ∈ figureNames, name ∉ narrowNames := by decide
  exact all name mem

end Counters

namespace CoreCounters

def figureNames : List String := "core_id" :: Counters.figureNames

def figures (k : CoreCounters) : List (String × Nat) :=
  ("core_id", k.id.toNat) :: k.counters.figures

def ofFigures (d : String → Nat) : CoreCounters := ⟨.ofNat (d "core_id"), Counters.ofFigures d⟩

theorem figures_ofFigures (d : String → Nat) :
    (ofFigures d).figures = table figureNames fun name => d name % figureBound name := rfl

end CoreCounters

namespace MemoryReport

def figureNames : List String := ["total", "available", "free"]

def figures (m : MemoryReport) : List (String × Nat) :=
  [("total", m.total.toNat), ("available", m.available.toNat), ("free", m.free.toNat)]

def ofFigures (d : String → Nat) : MemoryReport :=
  ⟨.ofNat (d "total"), .ofNat (d "available"), .ofNat (d "free")⟩

theorem figures_ofFigures (d : String → Nat) :
    (ofFigures d).figures = table figureNames fun name => d name % figureBound name := rfl

def known (m : MemoryReport) (seen : List String) : MemoryReport where
  total := if "total" ∈ seen then m.total else 0
  available := if "available" ∈ seen then m.available else 0
  free := if "free" ∈ seen then m.free else 0

end MemoryReport

/-- A process as it is written: a number or a text under each name. -/
structure ProcessDraft where
  figure : String → Nat
  text : String → String

namespace HostProcess

def figureNames : List String := ["pid", "memory_rss", "memory_virt", "swap", "threads", "utime"]

def textNames : List String := ["name", "state_code", "state_description", "user", "group"]

def figures (p : HostProcess) : List (String × Nat) :=
  [("pid", p.pid.toNat), ("memory_rss", p.resident.toNat), ("memory_virt", p.virtual.toNat),
   ("swap", p.swap.toNat), ("threads", p.threads.toNat), ("utime", p.time.toNat)]

def texts (p : HostProcess) : List (String × String) :=
  [("name", p.name), ("state_code", p.stateCode), ("state_description", p.stateDescription),
   ("user", p.user), ("group", p.group)]

def ofDraft (d : ProcessDraft) : HostProcess where
  pid := .ofNat (d.figure "pid")
  name := d.text "name"
  stateCode := d.text "state_code"
  stateDescription := d.text "state_description"
  user := d.text "user"
  group := d.text "group"
  resident := .ofNat (d.figure "memory_rss")
  virtual := .ofNat (d.figure "memory_virt")
  swap := .ofNat (d.figure "swap")
  threads := .ofNat (d.figure "threads")
  time := .ofNat (d.figure "utime")

theorem figures_ofDraft (d : ProcessDraft) :
    (ofDraft d).figures = table figureNames fun name => d.figure name % figureBound name := rfl

theorem texts_ofDraft (d : ProcessDraft) : (ofDraft d).texts = table textNames d.text := rfl

def known (p : HostProcess) (seen : List String) : HostProcess where
  pid := if "pid" ∈ seen then p.pid else 0
  name := if "name" ∈ seen then p.name else ""
  stateCode := if "state_code" ∈ seen then p.stateCode else ""
  stateDescription := if "state_description" ∈ seen then p.stateDescription else ""
  user := if "user" ∈ seen then p.user else ""
  group := if "group" ∈ seen then p.group else ""
  resident := if "memory_rss" ∈ seen then p.resident else 0
  virtual := if "memory_virt" ∈ seen then p.virtual else 0
  swap := if "swap" ∈ seen then p.swap else 0
  threads := if "threads" ∈ seen then p.threads else 0
  time := if "utime" ∈ seen then p.time else 0

end HostProcess

def ProcessDraft.trials (d : ProcessDraft) : List Trial :=
  [figureTrial d.figure "pid", textTrial d.text "name", textTrial d.text "state_code",
   textTrial d.text "state_description", textTrial d.text "user", textTrial d.text "group",
   figureTrial d.figure "memory_rss", figureTrial d.figure "memory_virt",
   figureTrial d.figure "swap", figureTrial d.figure "threads", figureTrial d.figure "utime"]

namespace CpuReport

def knownUsage (r : CpuReport) (seen : List String) : Report.Usage where
  full := if "full" ∈ seen then r.full else {}
  cores := if "cores" ∈ seen then r.cores else []

def known (r : CpuReport) (seen : List String) : CpuReport where
  temperature := if "cpu_temperature" ∈ seen then r.temperature else none
  full := if "cpu_usage" ∈ seen then r.full else {}
  cores := if "cpu_usage" ∈ seen then r.cores else []

end CpuReport

namespace Report

variable {w : List Char} {n depth : Nat}

theorem decides_counter (h : SpellsNatural n w) :
    Decides (n < UInt64.size) counter w (.ofNat n) := by
  have word : Number.maxWord64 = UInt64.size - 1 := rfl
  have decided := (decides_natural h (Nat.le_refl _) "u64").map UInt64.ofNat
  exact decided.congr (by rw [word]; exact Nat.le_sub_one_iff_lt (by decide))

theorem decides_identifier (h : SpellsNatural n w) :
    Decides (n < UInt32.size) identifier w (.ofNat n) := by
  have word : Number.maxWord32 = UInt32.size - 1 := rfl
  have fits : Number.maxWord32 ≤ Number.maxWord64 := by decide
  have decided := (decides_natural h fits "u32").map UInt32.ofNat
  exact decided.congr (by rw [word]; exact Nat.le_sub_one_iff_lt (by decide))

section Fields

variable {σ : Type} {known : List String → σ} {d : String → Nat} {name : String}

theorem decides_wide (wide : name ∉ narrowNames) (w : List Char) (h : SpellsNatural (d name) w) :
    Decides (d name < figureBound name) counter w (.ofNat (d name)) := by
  have bound : figureBound name = UInt64.size := if_neg wide
  rw [bound]
  exact decides_counter h

theorem decides_narrow (narrow : name ∈ narrowNames) (w : List Char)
    (h : SpellsNatural (d name) w) :
    Decides (d name < figureBound name) identifier w (.ofNat (d name)) := by
  have bound : figureBound name = UInt32.size := if_pos narrow
  rw [bound]
  exact decides_identifier h

theorem good_of_zero (absent : d name = 0) : d name < figureBound name := by
  rw [absent]
  exact figureBound_pos name

theorem weighs_counter {set : σ → UInt64 → σ} (wide : name ∉ narrowNames)
    (entered : ∀ seen, set (known seen) (.ofNat (d name)) = known (name :: seen)) :
    Json.Field.Weighs known (.lenient name counter set) (figureTrial d name) :=
  Json.Field.lenient_weighs (decides_wide wide) entered good_of_zero

theorem weighs_identifier {set : σ → UInt32 → σ} (narrow : name ∈ narrowNames)
    (entered : ∀ seen, set (known seen) (.ofNat (d name)) = known (name :: seen)) :
    Json.Field.Weighs known (.lenient name identifier set) (figureTrial d name) :=
  Json.Field.lenient_weighs (decides_narrow narrow) entered good_of_zero

theorem weighs_text {set : σ → String → σ} {d : String → String}
    (entered : ∀ seen, set (known seen) (d name) = known (name :: seen)) :
    Json.Field.Weighs known (.lenient name text set) (textTrial d name) :=
  Json.Field.lenient_weighs (fun _ spelled => (takes_text spelled).decides trivial) entered
    fun _ => trivial

end Fields

theorem decides_counters {d : String → Nat}
    (h : SpellsFields ((Counters.figureNames.map (figureTrial d)).map Trial.entry) depth w) :
    Decides (Fits Counters.figureNames d) countersShape.read w (.ofFigures d) := by
  let c := Counters.ofFigures d
  have fields : List.Forall₂ (fun field name => field.1 ∉ narrowNames ∧ field.1 = name ∧
      ∀ seen, field.2 (c.known seen) (.ofNat (d name)) = c.known (name :: seen))
      counterFields Counters.figureNames := by
    have wide : ∀ field ∈ counterFields, field.1 ∉ narrowNames :=
      fun field mem => Counters.wide_of_mem (List.mem_map_of_mem mem)
    have entered : List.Forall₂ (fun field m => field.1 = m.1 ∧
        ∀ seen, field.2 (c.known seen) m.2 = c.known (m.1 :: seen)) counterFields
        (Counters.figureNames.map fun name => (name, UInt64.ofNat (d name))) := c.entered
    exact (List.forall₂_and_left _ _).mpr ⟨wide, List.forall₂_map_right_iff.mp entered⟩
  have apart : Counters.figureNames.Nodup := by decide
  have weighs : countersShape.Weighs (Counters.figureNames.map (figureTrial d)) c.known := by
    refine ⟨rfl, List.forall₂_map_left_iff.mpr (List.forall₂_map_right_iff.mpr ?_), apart⟩
    refine fields.imp ?_
    rintro ⟨name, set⟩ name' ⟨wide, rfl, entered⟩
    exact weighs_counter wide entered
  refine (weighs.decides (fun seen there => c.known_whole ?_) h).congr List.forall_mem_map
  intro m mem
  obtain ⟨name, mem', rfl⟩ : ∃ name ∈ Counters.figureNames, (name, .ofNat (d name)) = m :=
    List.mem_map.mp mem
  have absent := there (figureTrial d name) (List.mem_map_of_mem mem')
  exact absent.imp_left (congrArg UInt64.ofNat)

theorem weighs_memory (d : String → Nat) :
    memoryShape.Weighs (MemoryReport.figureNames.map (figureTrial d))
      (MemoryReport.ofFigures d).known := by
  have apart : MemoryReport.figureNames.Nodup := by decide
  refine ⟨rfl, .cons (weighs_counter (by decide) fun _ => ?_) <|
    .cons (weighs_counter (by decide) fun _ => ?_) <|
    .cons (weighs_counter (by decide) fun _ => ?_) .nil, apart⟩
  all_goals simp [MemoryReport.known, MemoryReport.ofFigures]

theorem weighs_process (d : ProcessDraft) :
    processShape.Weighs d.trials (HostProcess.ofDraft d).known := by
  have apart : (d.trials.map fun t => t.entry.name).Nodup := by
    simp [ProcessDraft.trials, figureTrial, textTrial]
  refine ⟨rfl, .cons (weighs_identifier (by decide) fun _ => ?_) <|
    .cons (weighs_text fun _ => ?_) <| .cons (weighs_text fun _ => ?_) <|
    .cons (weighs_text fun _ => ?_) <| .cons (weighs_text fun _ => ?_) <|
    .cons (weighs_text fun _ => ?_) <| .cons (weighs_counter (by decide) fun _ => ?_) <|
    .cons (weighs_counter (by decide) fun _ => ?_) <|
    .cons (weighs_counter (by decide) fun _ => ?_) <|
    .cons (weighs_identifier (by decide) fun _ => ?_) <|
    .cons (weighs_counter (by decide) fun _ => ?_) .nil, apart⟩
  all_goals simp [HostProcess.known, HostProcess.ofDraft]

theorem decides_memory {d : String → Nat}
    (h : SpellsFields ((MemoryReport.figureNames.map (figureTrial d)).map Trial.entry) depth w) :
    Decides (Fits MemoryReport.figureNames d) memoryShape.read w (.ofFigures d) := by
  refine ((weighs_memory d).decides (fun seen there => ?_) h).congr List.forall_mem_map
  obtain ⟨total, available, free⟩ : (d "total" = 0 ∨ "total" ∈ seen) ∧
      (d "available" = 0 ∨ "available" ∈ seen) ∧ (d "free" = 0 ∨ "free" ∈ seen) := by
    simpa [MemoryReport.figureNames, figureTrial] using there
  unfold MemoryReport.known MemoryReport.ofFigures
  congr 1
  · exact ite_default (total.imp_left (congrArg UInt64.ofNat))
  · exact ite_default (available.imp_left (congrArg UInt64.ofNat))
  · exact ite_default (free.imp_left (congrArg UInt64.ofNat))

theorem decides_process {d : ProcessDraft}
    (h : SpellsFields (d.trials.map Trial.entry) depth w) :
    Decides (Fits HostProcess.figureNames d.figure) processShape.read w (.ofDraft d) := by
  have good : (∀ t ∈ d.trials, t.good) ↔ Fits HostProcess.figureNames d.figure := by
    simp [ProcessDraft.trials, HostProcess.figureNames, Fits, figureTrial, textTrial]
  refine ((weighs_process d).decides (fun seen there => ?_) h).congr good
  simp only [ProcessDraft.trials, List.forall_mem_cons, figureTrial, textTrial] at there
  obtain ⟨pid, name, stateCode, stateDescription, user, group, resident, virtual, swap, threads,
    time, -⟩ := there
  unfold HostProcess.known HostProcess.ofDraft
  congr 1
  · exact ite_default (pid.imp_left (congrArg UInt32.ofNat))
  · exact ite_default name
  · exact ite_default stateCode
  · exact ite_default stateDescription
  · exact ite_default user
  · exact ite_default group
  · exact ite_default (resident.imp_left (congrArg UInt64.ofNat))
  · exact ite_default (virtual.imp_left (congrArg UInt64.ofNat))
  · exact ite_default (swap.imp_left (congrArg UInt64.ofNat))
  · exact ite_default (threads.imp_left (congrArg UInt32.ofNat))
  · exact ite_default (time.imp_left (congrArg UInt64.ofNat))

theorem decides_kill {d : String → Nat}
    (h : SpellsFields [(neededTrial d "pid").entry] depth w) :
    Decides (Fits ["pid"] d) killShape.read w (.ofNat (d "pid")) := by
  let known (seen : List String) : UInt32 := if "pid" ∈ seen then .ofNat (d "pid") else 0
  have narrow : "pid" ∈ narrowNames := by decide
  have decides := decides_narrow (d := d) narrow
  have weighs : killShape.Weighs [neededTrial d "pid"] known :=
    ⟨rfl, .cons (Json.Field.needed_weighs decides (by simp [known])) .nil, by simp⟩
  have good : (∀ t ∈ [neededTrial d "pid"], t.good) ↔ Fits ["pid"] d := by
    simp [neededTrial, Fits]
  refine (weighs.decides (fun seen there => ?_) h).congr good
  have read : "pid" ∈ seen := by simpa [neededTrial] using there
  exact if_pos read

section Shapes

variable {good good' : Prop} {l l' : Language} {optional : Prop}

theorem decides_processes {ps : ProcessList}
    (decides : ∀ w, l w → Decides good (Json.list processShape.read) w ps)
    (h : SpellsFields [⟨"processes", l, False⟩] depth w) :
    Decides good processesShape.read w ps := by
  let known (seen : List String) : ProcessList := if "processes" ∈ seen then ps else []
  have weighs : processesShape.Weighs [⟨⟨"processes", l, False⟩, good⟩] known :=
    ⟨rfl, .cons (Json.Field.needed_weighs decides (by simp [known])) .nil, by simp⟩
  refine (weighs.decides (fun seen there => ?_) h).congr (by simp)
  have read : "processes" ∈ seen := by simpa using there
  exact if_pos read

theorem decides_usage {r : CpuReport} (full : ∀ w, l w → Decides good countersShape.read w r.full)
    (cores : ∀ w, l' w → Decides good' (Json.list core) w r.cores)
    (none : optional → good' ∧ r.cores = [])
    (h : SpellsFields [⟨"full", l, False⟩, ⟨"cores", l', optional⟩] depth w) :
    Decides (good ∧ good') usageShape.read w ⟨r.full, r.cores⟩ := by
  have weighs : usageShape.Weighs
      [⟨⟨"full", l, False⟩, good⟩, ⟨⟨"cores", l', optional⟩, good'⟩] r.knownUsage := by
    refine ⟨rfl, .cons (Json.Field.needed_weighs full fun _ => ?_) <|
      .cons (Json.Field.lenient_weighs cores (fun _ => ?_) fun gone => (none gone).1) .nil,
      by simp⟩
    all_goals simp [CpuReport.knownUsage]
  refine (weighs.decides (fun seen there => ?_) h).congr (by simp)
  obtain ⟨read, listed⟩ : "full" ∈ seen ∧ (optional ∨ "cores" ∈ seen) := by simpa using there
  unfold CpuReport.knownUsage
  rw [if_pos read, ite_default (listed.imp_left fun gone => (none gone).2)]

theorem decides_cpu {r : CpuReport}
    (temperature : ∀ w, l w → Takes (nullable single) w r.temperature)
    (none : optional → r.temperature = none)
    (usage : ∀ w, l' w → Decides good usageShape.read w ⟨r.full, r.cores⟩)
    (h : SpellsFields [⟨"cpu_temperature", l, optional⟩, ⟨"cpu_usage", l', False⟩] depth w) :
    Decides good cpuShape.read w r := by
  have weighs : cpuShape.Weighs
      [⟨⟨"cpu_temperature", l, optional⟩, True⟩, ⟨⟨"cpu_usage", l', False⟩, good⟩] r.known := by
    refine ⟨rfl, .cons (Json.Field.lenient_weighs (fun w spelled =>
      (temperature w spelled).decides trivial) (fun _ => ?_) fun _ => trivial) <|
      .cons (Json.Field.needed_weighs usage fun _ => ?_) .nil, by simp⟩
    all_goals simp [CpuReport.known]
  refine (weighs.decides (fun seen there => ?_) h).congr (by simp)
  obtain ⟨warm, read⟩ : (optional ∨ "cpu_temperature" ∈ seen) ∧ "cpu_usage" ∈ seen := by
    simpa using there
  unfold CpuReport.known
  rw [ite_default (warm.imp_left none), if_pos read, if_pos read]

end Shapes

end Report

end HostWatch
