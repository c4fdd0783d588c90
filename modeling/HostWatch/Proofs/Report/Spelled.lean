import HostWatch.Proofs.Json.Numerals
import HostWatch.Proofs.Report.Drafts

namespace HostWatch

open Json

def SpellsTemperature : Option Number.Single → Language
  | none, w => w = "null".toList
  | some t, w => SpellsSingle t w

namespace Counters

def number (c : Counters) (name : String) : Nat := (c.figures.lookup name).getD 0

theorem ofFigures_number (c : Counters) : ofFigures c.number = c := by
  simp [ofFigures, number, figures, named, List.lookup_cons]

theorem fits_number (c : Counters) : Fits figureNames c.number := by
  simp [Fits, figureNames, number, figures, named, List.lookup_cons, figureBound, narrowNames,
    UInt64.toNat_lt_size]

theorem entries_eq (c : Counters) :
    c.entries = (figureNames.map (figureTrial c.number)).map Trial.entry := by
  simp [entries, figureNames, figureTrial, number, figures, named, List.lookup_cons,
    ← UInt64.toNat_inj]

end Counters

namespace MemoryReport

def entries (m : MemoryReport) : List Entry :=
  [⟨"total", SpellsNatural m.total.toNat, m.total = 0⟩,
   ⟨"available", SpellsNatural m.available.toNat, m.available = 0⟩,
   ⟨"free", SpellsNatural m.free.toNat, m.free = 0⟩]

def number (m : MemoryReport) (name : String) : Nat := (m.figures.lookup name).getD 0

theorem ofFigures_number (m : MemoryReport) : ofFigures m.number = m := by
  simp [ofFigures, number, figures, List.lookup_cons]

theorem fits_number (m : MemoryReport) : Fits figureNames m.number := by
  simp [Fits, figureNames, number, figures, List.lookup_cons, figureBound, narrowNames,
    UInt64.toNat_lt_size]

theorem entries_eq (m : MemoryReport) :
    m.entries = (figureNames.map (figureTrial m.number)).map Trial.entry := by
  simp [entries, figureNames, figureTrial, number, figures, List.lookup_cons, ← UInt64.toNat_inj]

end MemoryReport

namespace HostProcess

def entries (p : HostProcess) : List Entry :=
  [⟨"pid", SpellsNatural p.pid.toNat, p.pid = 0⟩,
   ⟨"name", SpellsString p.name, p.name = ""⟩,
   ⟨"state_code", SpellsString p.stateCode, p.stateCode = ""⟩,
   ⟨"state_description", SpellsString p.stateDescription, p.stateDescription = ""⟩,
   ⟨"user", SpellsString p.user, p.user = ""⟩,
   ⟨"group", SpellsString p.group, p.group = ""⟩,
   ⟨"memory_rss", SpellsNatural p.resident.toNat, p.resident = 0⟩,
   ⟨"memory_virt", SpellsNatural p.virtual.toNat, p.virtual = 0⟩,
   ⟨"swap", SpellsNatural p.swap.toNat, p.swap = 0⟩,
   ⟨"threads", SpellsNatural p.threads.toNat, p.threads = 0⟩,
   ⟨"utime", SpellsNatural p.time.toNat, p.time = 0⟩]

def draft (p : HostProcess) : ProcessDraft :=
  ⟨fun name => (p.figures.lookup name).getD 0, fun name => (p.texts.lookup name).getD ""⟩

theorem ofDraft_draft (p : HostProcess) : ofDraft p.draft = p := by
  simp [ofDraft, draft, figures, texts, List.lookup_cons]

theorem fits_draft (p : HostProcess) : Fits figureNames p.draft.figure := by
  simp [Fits, figureNames, draft, figures, List.lookup_cons, figureBound, narrowNames,
    UInt64.toNat_lt_size, UInt32.toNat_lt_size]

theorem entries_eq (p : HostProcess) : p.entries = p.draft.trials.map Trial.entry := by
  simp [entries, ProcessDraft.trials, figureTrial, textTrial, draft, figures, texts,
    List.lookup_cons, ← UInt64.toNat_inj, ← UInt32.toNat_inj]

end HostProcess

namespace ProcessList

def entries (ps : ProcessList) (depth : Nat) : List Entry :=
  [⟨"processes", SpellsList (ps.map fun p => SpellsRecord p.entries depth), False⟩]

end ProcessList

namespace CpuReport

def usageEntries (r : CpuReport) (depth : Nat) : List Entry :=
  [⟨"full", SpellsRecord r.full.entries depth, False⟩,
   ⟨"cores", SpellsList (r.cores.map fun k => SpellsRecord k.entries depth), r.cores = []⟩]

def entries (r : CpuReport) (depth : Nat) : List Entry :=
  [⟨"cpu_temperature", SpellsTemperature r.temperature, r.temperature = none⟩,
   ⟨"cpu_usage", SpellsRecord (r.usageEntries depth) depth, False⟩]

end CpuReport

namespace Report

variable {w : List Char} {depth : Nat}

theorem takes_temperature {t : Option Number.Single} (h : SpellsTemperature t w) :
    Takes (nullable single) w t := by
  cases t with
  | none =>
    cases h
    exact ⟨⟨'n', _, rfl, rfl, by decide, by decide⟩, fun gap rest blank _ =>
      (reads_token (c := 'n') blank rfl (by decide)).bind ((reads_advance rfl).bind
        ((reads_word (by decide) rest).bind (reads_pure none rest)))⟩
  | some t =>
    have taken := takes_single h
    refine ⟨taken.starts, fun gap rest blank closed => ?_⟩
    have number := taken.reads [] rest isGap_nil closed
    obtain ⟨c, cs, rfl, ascii, solid, -⟩ := taken.starts
    refine (reads_token blank ascii solid).bind ?_
    split
    next same =>
      cases same
      exact absurd (h.1 'n' List.mem_cons_self) (by decide)
    next => exact number.bind (reads_pure (some t) rest)

theorem takes_counters {c : Counters} (h : SpellsRecord c.entries depth w) :
    Takes countersShape.read w c := by
  rw [c.entries_eq] at h
  have taken := (decides_counters (Or.inl h)).takes c.fits_number
  rwa [c.ofFigures_number] at taken

theorem takes_memory {m : MemoryReport} (h : SpellsRecord m.entries depth w) :
    Takes memoryShape.read w m := by
  rw [m.entries_eq] at h
  have taken := (decides_memory (Or.inl h)).takes m.fits_number
  rwa [m.ofFigures_number] at taken

theorem takes_process {p : HostProcess} (h : SpellsRecord p.entries depth w) :
    Takes processShape.read w p := by
  rw [p.entries_eq] at h
  have taken := (decides_process (Or.inl h)).takes p.fits_draft
  rwa [p.ofDraft_draft] at taken

theorem takes_each {α : Type} {item : Read α} {vs : List α} {language : α → Language}
    (each : ∀ v ∈ vs, ∀ w, language v w → Takes item w v) (h : SpellsList (vs.map language) w) :
    Takes (Json.list item) w vs :=
  takes_list h (List.forall₂_map_left_iff.mpr (List.forall₂_same.mpr each))

theorem takes_processes {ps : ProcessList} (h : SpellsRecord (ps.entries depth) depth w) :
    Takes processesShape.read w ps := by
  have each (w : List Char) (h : SpellsList (ps.map fun p => SpellsRecord p.entries depth) w) :=
    takes_each (fun _ _ _ => takes_process) h
  exact (decides_processes (fun w h => (each w h).decides trivial) (Or.inl h)).takes trivial

theorem takes_usage {r : CpuReport} (shallow : depth ≤ nestingLimit - coreNesting)
    (h : SpellsRecord (r.usageEntries depth) depth w) :
    Takes usageShape.read w ⟨r.full, r.cores⟩ := by
  have cores (w : List Char)
      (h : SpellsList (r.cores.map fun k => SpellsRecord k.entries depth) w) :=
    takes_each (fun _ _ _ => takes_core shallow) h
  refine (decides_usage (fun w h => (takes_counters h).decides trivial)
    (fun w h => (cores w h).decides trivial) (fun none => ⟨trivial, none⟩) (Or.inl h)).takes ?_
  exact ⟨trivial, trivial⟩

theorem takes_cpu {r : CpuReport} (shallow : depth ≤ nestingLimit - coreNesting)
    (h : SpellsRecord (r.entries depth) depth w) : Takes cpuShape.read w r :=
  (decides_cpu (fun _ => takes_temperature) id
    (fun _ h => (takes_usage shallow h).decides trivial) (Or.inl h)).takes trivial

/-- Whatever way a report is written, it is read as what it was written from: order, further
members, white space, escapes and what is left out never tell. -/
theorem read_as_written (depth : Nat) :
    (depth ≤ nestingLimit - coreNesting → ∀ (r : CpuReport) (bs : List UInt8),
      SpellsText (SpellsRecord (r.entries depth) depth) bs → cpu? bs = .ok r) ∧
    (∀ (m : MemoryReport) (bs : List UInt8),
      SpellsText (SpellsRecord m.entries depth) bs → memory? bs = .ok m) ∧
    (∀ (ps : ProcessList) (bs : List UInt8),
      SpellsText (SpellsRecord (ps.entries depth) depth) bs → processes? bs = .ok ps) :=
  ⟨fun shallow _ _ spelled => spelled.readAll fun _ => takes_cpu shallow,
    fun _ _ spelled => spelled.readAll fun _ => takes_memory,
    fun _ _ spelled => spelled.readAll fun _ => takes_processes⟩

/-- Members out of order and unknown ones, white space, a lone unit and a surrogate pair in
hexadecimal, an escaped slash, a temperature with an exponent, and counters left out. -/
theorem reads_odd_spellings :
    cpu? (Text.Utf8.bytesOf ("\x7b\"cpu_usage\":\x7b\"cores\":[\x7b\"idle\":3,\"b\":\x7b\x7d," ++
        "\"core_id\":1\x7d],\"full\":\x7b\x7d\x7d,\"cpu_temperature\":215e-1\x7d")) =
      .ok ⟨some ⟨0x41AC0000⟩, {}, [⟨1, { idle := 3 }⟩]⟩ ∧
    memory? (Text.Utf8.bytesOf " \x7b\"free\":7 ,\n\"a\":[null], \"total\":1\x7d") =
      .ok { total := 1, free := 7 } ∧
    processes? (Text.Utf8.bytesOf
        "\x7b\"processes\":[\x7b\"name\":\"\\u00e9\\uD83d\\ude00/\\/\"\x7d]\x7d\n") =
      .ok [{ name := "é😀//" }] := by
  have nothing : Lead true [] := isGap_nil
  have comma : Lead false [','] := ⟨[], [], rfl, isGap_nil, isGap_nil⟩
  have ended : Series false [] [] := .done isGap_nil
  have empty : SpellsAny 1 "\x7b\x7d".toList := .inr (.inr ⟨[], [], .done isGap_nil, rfl⟩)
  have null : SpellsAny 0 "null".toList := Or.inl (by decide)
  refine ⟨?_, ?_, ?_⟩
  · let core : CoreCounters := ⟨1, { idle := 3 }⟩
    let report : CpuReport := ⟨some ⟨0x41AC0000⟩, {}, [core]⟩
    have idle : SpellsMember "idle" (SpellsNatural 3) _ := spellsMember_plain (by decide) rfl
    have other : SpellsMember "b" (SpellsAny 1) _ := spellsMember_plain (by decide) empty
    have number : SpellsMember "core_id" (SpellsNatural 1) _ := spellsMember_plain (by decide) rfl
    have members := Series.part nothing idle (.part comma other (.part comma number ended))
    have spelled : SpellsRecord core.entries 1 _ :=
      ⟨["idle", "b", "core_id"], by simp [core, CoreCounters.entries, Counters.entries,
        Counters.named], _, members, rfl⟩
    have list : SpellsList [SpellsRecord core.entries 1] _ := ⟨_, .part nothing spelled ended, rfl⟩
    have cores : SpellsMember "cores" _ _ := spellsMember_plain (by decide) list
    have zeros : SpellsRecord report.full.entries 1 _ :=
      ⟨[], by simp [report, Counters.entries, Counters.named], _, .done isGap_nil, rfl⟩
    have full : SpellsMember "full" _ _ := spellsMember_plain (by decide) zeros
    have usage : SpellsRecord (report.usageEntries 1) 1 _ :=
      ⟨["cores", "full"], by simp [CpuReport.usageEntries], _,
        .part nothing cores (.part comma full ended), rfl⟩
    have first : SpellsMember "cpu_usage" _ _ := spellsMember_plain (by decide) usage
    have read : SpellsTemperature report.temperature "215e-1".toList :=
      ⟨List.all_eq_true.mp (by decide), rfl⟩
    have second : SpellsMember "cpu_temperature" _ _ := spellsMember_plain (by decide) read
    exact (read_as_written 1).1 (by decide) report _ ⟨[], _, [], isGap_nil,
      ⟨["cpu_usage", "cpu_temperature"], by simp [CpuReport.entries], _,
        .part nothing first (.part comma second ended), rfl⟩, isGap_nil, rfl⟩
  · have list : SpellsAny 1 "[null]".toList :=
      .inr (.inl ⟨1, _, .part nothing null ended, rfl⟩)
    have free : SpellsMember "free" (SpellsNatural 7) _ := spellsMember_plain (by decide) rfl
    have other : SpellsMember "a" (SpellsAny 1) _ := spellsMember_plain (by decide) list
    have total : SpellsMember "total" (SpellsNatural 1) _ := spellsMember_plain (by decide) rfl
    have blank : Blank [' '] := by decide
    have line : Blank ['\n'] := by decide
    have wide : Lead false " ,\n".toList := ⟨[' '], ['\n'], rfl, blank, line⟩
    have space : Lead false ", ".toList := ⟨[], [' '], rfl, isGap_nil, blank⟩
    have members := Series.part nothing free (.part wide other (.part space total ended))
    exact (read_as_written 1).2.1 _ _ ⟨[' '], _, [], by decide,
      ⟨["free", "a", "total"], by simp [MemoryReport.entries], _, members, rfl⟩, isGap_nil, rfl⟩
  · let process : HostProcess := { name := "é😀//" }
    have accent : SpellsChar 'é' "\\u00e9".toList := .unit (by decide) (by decide)
    have high : HexUnit 0xD83D "D83d".toList := by decide
    have low : HexUnit 0xDE00 "de00".toList := by decide
    have face : SpellsChar '😀' _ := .pair (by decide) high low
    have raw : SpellsChar '/' ['/'] := .raw (by decide) (by decide) (by decide)
    have slash : SpellsChar '/' ['\\', '/'] := .letter (by decide)
    have text : SpellsString "é😀//" _ :=
      ⟨_, .cons accent (.cons face (.cons raw (.cons slash .nil))), rfl⟩
    have name : SpellsMember "name" _ _ := spellsMember_plain (by decide) text
    have spelled : SpellsRecord process.entries 0 _ :=
      ⟨["name"], by simp [process, HostProcess.entries], _, .part nothing name ended, rfl⟩
    have list : SpellsList [SpellsRecord process.entries 0] _ :=
      ⟨_, .part nothing spelled ended, rfl⟩
    have whole : SpellsMember "processes" _ _ := spellsMember_plain (by decide) list
    exact (read_as_written 0).2.2 [process] _ ⟨[], _, ['\n'], isGap_nil,
      ⟨["processes"], by simp [ProcessList.entries], _, .part nothing whole ended, rfl⟩,
      by decide, rfl⟩

end Report

end HostWatch
