import HostWatch.Proofs.Report.Truncation

namespace HostWatch

open Json

def coreTrials (d : String → Nat) : List Trial :=
  neededTrial d "core_id" :: Counters.figureNames.map (figureTrial d)

namespace Report

variable {d : String → Nat} {depth budget : Nat} {w : List Char} {name : String}

section Kept

/-- A kept value under the name of a counter which no counter can be taken from. -/
def Spoils (m : String × Found) : Prop :=
  m.1 ∈ Counters.figureNames ∧ ∃ p, counterOf m.2 = .error p

theorem counterField_of_mem (mem : name ∈ Counters.figureNames) :
    ∃ set, counterFields.find? (·.1 = name) = some (name, set) := by
  have names : counterFields.map Prod.fst = Counters.figureNames := rfl
  obtain ⟨⟨name', set⟩, mem', rfl⟩ := List.mem_map.mp (names ▸ mem)
  have apart : (counterFields.map Prod.fst).Nodup := by decide
  exact ⟨set, find?_of_mem_nodup apart mem'⟩

theorem enterCounters_spoiled {kept : List (String × Found)} (spoilt : ∃ m ∈ kept, Spoils m)
    (seen : List String) (c : Counters) : ∃ p, enterCounters seen c kept = .error p := by
  induction kept generalizing seen c with
  | nil =>
    obtain ⟨m, mem, -⟩ := spoilt
    cases mem
  | cons m kept ih =>
    obtain ⟨name, found⟩ := m
    rw [enterCounters]
    cases field : counterFields.find? (·.1 = name) with
    | none =>
      obtain ⟨m, mem, named, wrong⟩ := spoilt
      rcases List.mem_cons.mp mem with rfl | later
      · obtain ⟨set, found⟩ := counterField_of_mem named
        cases field.symm.trans found
      · exact ih ⟨m, later, named, wrong⟩ seen c
    | some entry =>
      obtain ⟨name', set⟩ := entry
      dsimp only
      split
      · exact ⟨_, rfl⟩
      cases value : counterOf found with
      | error p => exact ⟨p, rfl⟩
      | ok n =>
        obtain ⟨m, mem, named, wrong⟩ := spoilt
        rcases List.mem_cons.mp mem with rfl | later
        · obtain ⟨p, refused⟩ := wrong
          cases value.symm.trans refused
        · exact ih ⟨m, later, named, wrong⟩ _ _

/-- Among all values a number past 64 bits is refused, or kept as what no counter is taken from. -/
theorem any_past {n : Nat} (h : SpellsNatural n w) (past : Number.maxWord64 < n)
    (inside : Option (Read Found)) :
    Refused (valueWith inside) w ∨ ∃ v, Takes (valueWith inside) w (.float v) := by
  rcases Numeral.ofDigits_of_past past with ⟨v, eq⟩ | eq
  · refine Or.inr ⟨v, h.starts, fun gap rest blank closed => ?_⟩
    have number := comesTo_any h inside blank closed
    rw [eq] at number
    exact number.reads (reads_pure (Found.float v) rest)
  · refine Or.inl ⟨h.starts, fun gap rest blank closed => ?_⟩
    have number := comesTo_any h inside blank closed
    rw [eq] at number
    exact number.refuses ((refuses_fail _ rest).bind _)

/-- Under the name of a counter stands its number, under any other name anything. -/
theorem valueOf_coreTrials (other : name ≠ "core_id") :
    valueOf ((coreTrials d).map Trial.entry) depth name =
      if name ∈ Counters.figureNames then SpellsNatural (d name) else SpellsAny depth := by
  have here : ((coreTrials d).map Trial.entry).find? (·.name = name) =
      (Counters.figureNames.find? (· = name)).map fun name => (figureTrial d name).entry := by
    have apart : ¬ decide ((neededTrial d "core_id").entry.name = name) :=
      fun same => other (of_decide_eq_true same).symm
    rw [coreTrials, List.map_cons,
      List.find?_cons_of_neg (p := fun e : Entry => e.name = name) apart, List.map_map,
      List.find?_map]
    rfl
  rw [valueOf, here]
  cases found : Counters.figureNames.find? (· = name) with
  | none =>
    have absent : name ∉ Counters.figureNames := by
      intro mem
      simpa using List.find?_eq_none.mp found name mem
    rw [if_neg absent]
    rfl
  | some name' =>
    obtain rfl : name' = name := by simpa using List.find?_some found
    rw [if_pos (List.mem_of_find?_eq_some found)]
    rfl

/-- A member other than the core's number is refused or kept, and a counter that does not fit is
kept as what spoils the core. -/
theorem any_member (shallow : depth ≤ budget) (other : name ≠ "core_id")
    (h : valueOf ((coreTrials d).map Trial.entry) depth name w) :
    Refused (anyValue budget) w ∨ ∃ found, Takes (anyValue budget) w found ∧
      (name ∈ Counters.figureNames → ¬ d name < figureBound name → Spoils (name, found)) := by
  rw [valueOf_coreTrials other] at h
  by_cases named : name ∈ Counters.figureNames
  · rw [if_pos named] at h
    have bound : figureBound name = Number.maxWord64 + 1 := if_neg (Counters.wide_of_mem named)
    obtain ⟨inside, eq⟩ := anyValue_eq budget
    rw [eq]
    by_cases fits : d name ≤ Number.maxWord64
    · refine Or.inr ⟨_, takes_any_natural h fits inside, fun _ large => ?_⟩
      omega
    · refine (any_past h (Nat.lt_of_not_le fits) inside).imp_right ?_
      rintro ⟨v, taken⟩
      exact ⟨.float v, taken, fun _ _ => ⟨named, _, rfl⟩⟩
  · rw [if_neg named] at h
    obtain ⟨found, taken⟩ := takes_any h shallow
    exact Or.inr ⟨found, taken, fun mem => absurd mem named⟩

end Kept

/-- A core is refused for a number that does not fit: for its own number where this stands, and for
a counter at the end if not before. -/
theorem refuses_coreMembers (shallow : depth ≤ nestingLimit - coreNesting) (rest : List Char)
    {names : List String} {first : Bool} {ws : List Char}
    (series : Series first (names.map fun name =>
      SpellsMember name (valueOf ((coreTrials d).map Trial.entry) depth name)) ws)
    {id : Option UInt32} {kept : List (String × Found)}
    (bad : (∃ name ∈ CoreCounters.figureNames, ¬ d name < figureBound name ∧ name ∈ names) ∨
      ∃ m ∈ kept, Spoils m) (fuel : Nat) :
    Refuses (coreMembers fuel first id kept) (ws ++ '\x7d' :: rest) := by
  induction names generalizing id kept first ws fuel with
  | nil =>
    obtain ⟨blank⟩ := series
    cases fuel with
    | zero => exact refuses_fail _ _
    | succ fuel =>
      refine (reads_moreMembers_end blank first rest).refuses ?_
      simp only [Bool.false_eq_true, if_false]
      cases id with
      | none => exact refuses_failPending _ _
      | some n =>
        -- only now are the counters taken from what was kept, in the order it was written
        have spoilt : ∃ m ∈ kept.reverse, Spoils m := by
          simpa using bad
        obtain ⟨p, refused⟩ := enterCounters_spoiled spoilt [] {}
        simp only [refused]
        exact refuses_failPending _ _
  | cons name names ih =>
    rw [List.map_cons] at series
    cases fuel with
    | zero => exact refuses_fail _ _
    | succ fuel =>
      cases series with
      | @part _ _ _ lead w ws leads spelled others =>
        obtain ⟨named, blank, blank', spelled⟩ := spelled
        have closed := others.closes (closes_objectEnd rest)
        simp only [List.append_assoc, List.cons_append]
        refine (named.reads_moreMembers leads _).refuses ?_
        simp only [if_true]
        refine (named.reads_memberName _).refuses ?_
        by_cases own : name = "core_id"
        · subst own
          simp only [if_true]
          cases id with
          | some n => exact refuses_failPending _ _
          | none =>
            have narrow : "core_id" ∈ narrowNames := by decide
            have decided := decides_narrow (d := d) narrow _ spelled
            simp only [Option.isSome_none, Bool.false_eq_true, if_false]
            refine (reads_colon blank _).refuses ?_
            by_cases fits : d "core_id" < figureBound "core_id"
            · refine ((decided.takes fits).reads _ _ blank' closed).refuses (ih others ?_ fuel)
              refine bad.imp_left ?_
              rintro ⟨name, mem, large, there⟩
              refine ⟨name, mem, large, (List.mem_cons.mp there).resolve_left ?_⟩
              rintro rfl
              exact large fits
            · exact ((decided.refused fits).refuses _ _ blank' closed).bind _
        · simp only [own, if_false]
          refine (reads_colon blank _).refuses ?_
          rcases any_member shallow own spelled with refused | ⟨found, taken, spoils⟩
          · exact (refused.refuses _ _ blank' closed).bind _
          · refine (taken.reads _ _ blank' closed).refuses (ih others ?_ fuel)
            rcases bad with ⟨name', mem, large, there⟩ | ⟨m, mem, spoilt⟩
            · rcases List.mem_cons.mp there with rfl | later
              · have counter := (List.mem_cons.mp mem).resolve_left own
                exact Or.inr ⟨_, List.mem_cons_self, spoils counter large⟩
              · exact Or.inl ⟨name', mem, large, later⟩
            · exact Or.inr ⟨m, List.mem_cons_of_mem _ mem, spoilt⟩

theorem entries_of_fits (fits : Fits CoreCounters.figureNames d) :
    (coreTrials d).map Trial.entry = (CoreCounters.ofFigures d).entries := by
  obtain ⟨number, counters⟩ := List.forall_mem_cons.mp fits
  have whole : (UInt32.ofNat (d "core_id")).toNat = d "core_id" := UInt32.toNat_ofNat_of_lt' number
  have others : (Counters.ofFigures d).entries = Counters.figureNames.map fun name =>
      ⟨name, SpellsNatural (UInt64.ofNat (d name)).toNat, UInt64.ofNat (d name) = 0⟩ := rfl
  rw [CoreCounters.entries, CoreCounters.ofFigures, whole, others, coreTrials, List.map_cons,
    List.map_map]
  congr 1
  refine List.map_congr_left fun name mem => ?_
  have bound : figureBound name = UInt64.size := if_neg (Counters.wide_of_mem mem)
  have whole : (UInt64.ofNat (d name)).toNat = d name :=
    UInt64.toNat_ofNat_of_lt' (bound ▸ counters name mem)
  have zero : (UInt64.ofNat (d name) = 0) = (d name = 0) := by
    rw [← UInt64.toNat_inj, whole]
    rfl
  rw [whole, zero]
  rfl

theorem decides_core (shallow : depth ≤ nestingLimit - coreNesting)
    (h : SpellsRecord ((coreTrials d).map Trial.entry) depth w) :
    Decides (Fits CoreCounters.figureNames d) core w (.ofFigures d) := by
  refine ⟨fun fits => ?_, fun bad => ?_⟩
  · rw [entries_of_fits fits] at h
    exact takes_core shallow h
  · obtain ⟨names, counted, ws, series, rfl⟩ := h
    obtain ⟨name, mem, large⟩ : ∃ name ∈ CoreCounters.figureNames, ¬ d name < figureBound name := by
      simpa only [Fits, not_forall, exists_prop] using bad
    have needed : ∃ e ∈ (coreTrials d).map Trial.entry, e.name = name ∧ ¬ e.optional := by
      rcases List.mem_cons.mp mem with rfl | counter
      · exact ⟨_, List.mem_cons_self, rfl, id⟩
      · refine ⟨(figureTrial d name).entry, ?_, rfl, fun absent => large (good_of_zero absent)⟩
        exact List.mem_cons_of_mem _ (List.mem_map_of_mem (List.mem_map_of_mem counter))
    obtain ⟨e, mem', rfl, must⟩ := needed
    have there : e.name ∈ names := (counted e mem').2.resolve_left must
    rw [List.map_map] at series
    refine refused_enclosed (Or.inr rfl) fun rest => Refuses.inObject (refuses_get fun _ => ?_)
    exact refuses_coreMembers shallow rest series (Or.inl ⟨e.name, mem, large, there⟩) _

end Report

/-- The report of a processor as it is written. -/
structure CpuDraft where
  temperature : Option Number.Single
  full : String → Nat
  cores : List (String → Nat)

namespace CpuDraft

def usageEntries (d : CpuDraft) (depth : Nat) : List Entry :=
  [⟨"full", SpellsFields ((Counters.figureNames.map (figureTrial d.full)).map Trial.entry) depth,
    False⟩,
   ⟨"cores", SpellsList (d.cores.map fun k => SpellsRecord ((coreTrials k).map Trial.entry) depth),
    d.cores = []⟩]

def entries (d : CpuDraft) (depth : Nat) : List Entry :=
  [⟨"cpu_temperature", SpellsTemperature d.temperature, d.temperature = none⟩,
   ⟨"cpu_usage", SpellsFields (d.usageEntries depth) depth, False⟩]

def report (d : CpuDraft) : CpuReport :=
  ⟨d.temperature, .ofFigures d.full, d.cores.map CoreCounters.ofFigures⟩

end CpuDraft

namespace Report

variable {depth : Nat} {w : List Char}

theorem decides_draft (d : CpuDraft) (shallow : depth ≤ nestingLimit - coreNesting)
    (h : SpellsFields (d.entries depth) depth w) :
    Decides (Fits Counters.figureNames d.full ∧ ∀ k ∈ d.cores, Fits CoreCounters.figureNames k)
      cpuShape.read w d.report := by
  refine decides_cpu (fun _ => takes_temperature) id (fun w spelled => ?_) h
  refine decides_usage (fun _ => decides_counters) (fun w spelled => ?_) (fun none => ?_) spelled
  · exact decides_list spelled fun k _ w => decides_core shallow
  · constructor
    · rw [none]
      exact nofun
    · exact List.map_eq_nil_iff.mpr none

end Report

/-- What is written for a payload: under each name of a number any number, however large. -/
inductive Draft : Payload → Type where
  | cpu (d : CpuDraft) : Draft (.report .cpu)
  | memory (d : String → Nat) : Draft (.report .memory)
  | processes (ds : List ProcessDraft) : Draft (.report .processes)
  | kill (d : String → Nat) : Draft .kill

namespace Draft

/-- The ways to write a payload, but for the white space around it. -/
def language (depth : Nat) : {k : Payload} → Draft k → Language
  | _, cpu d => SpellsFields (d.entries depth) depth
  | _, memory d =>
    SpellsFields ((MemoryReport.figureNames.map (figureTrial d)).map Trial.entry) depth
  | _, processes ds =>
    SpellsFields [⟨"processes",
      SpellsList (ds.map fun d => SpellsFields (d.trials.map Trial.entry) depth), False⟩] depth
  | _, kill d => SpellsFields [(neededTrial d "pid").entry] depth

def Fits : {k : Payload} → Draft k → Prop
  | _, cpu d => HostWatch.Fits Counters.figureNames d.full ∧
      ∀ k ∈ d.cores, HostWatch.Fits CoreCounters.figureNames k
  | _, memory d => HostWatch.Fits MemoryReport.figureNames d
  | _, processes ds => ∀ d ∈ ds, HostWatch.Fits HostProcess.figureNames d.figure
  | _, kill d => HostWatch.Fits ["pid"] d

/-- A value holds the numbers and the texts that are written for it. -/
def Describes : {k : Payload} → Draft k → k.Value → Prop
  | _, cpu d, (r : CpuReport) => r.temperature = d.temperature ∧
      r.full.figures = table Counters.figureNames d.full ∧
      r.cores.map CoreCounters.figures = d.cores.map (table CoreCounters.figureNames)
  | _, memory d, (m : MemoryReport) => m.figures = table MemoryReport.figureNames d
  | _, processes ds, (ps : ProcessList) =>
      ps.map HostProcess.figures = ds.map (fun d => table HostProcess.figureNames d.figure) ∧
      ps.map HostProcess.texts = ds.map fun d => table HostProcess.textNames d.text
  | _, kill d, (pid : UInt32) => pid.toNat = d "pid"

def value : {k : Payload} → Draft k → k.Value
  | _, cpu d => d.report
  | _, memory d => MemoryReport.ofFigures d
  | _, processes ds => ds.map HostProcess.ofDraft
  | _, kill d => UInt32.ofNat (d "pid")

theorem describes_value {k : Payload} (d : Draft k) (fits : d.Fits) : d.Describes d.value := by
  cases d with
  | cpu d =>
    refine ⟨rfl, (Counters.figures_ofFigures d.full).trans (table_mod fits.1), ?_⟩
    change (d.cores.map CoreCounters.ofFigures).map CoreCounters.figures = _
    rw [List.map_map]
    apply List.map_congr_left
    intro k mem
    exact (CoreCounters.figures_ofFigures k).trans (table_mod (fits.2 k mem))
  | memory d => exact (MemoryReport.figures_ofFigures d).trans (table_mod fits)
  | processes ds =>
    change (ds.map HostProcess.ofDraft).map HostProcess.figures = _ ∧
      (ds.map HostProcess.ofDraft).map HostProcess.texts = _
    rw [List.map_map, List.map_map]
    refine ⟨List.map_congr_left fun p mem => ?_, List.map_congr_left fun p _ => ?_⟩
    · exact (HostProcess.figures_ofDraft p).trans (table_mod (fits p mem))
    · exact HostProcess.texts_ofDraft p
  | kill d =>
    have small : d "pid" < UInt32.size := fits "pid" List.mem_cons_self
    exact UInt32.toNat_ofNat_of_lt' small

theorem decode {k : Payload} (d : Draft k) {depth : Nat}
    (shallow : k = .report .cpu → depth ≤ Report.nestingLimit - Report.coreNesting)
    {bs : List UInt8} (spelled : SpellsText (d.language depth) bs) :
    (d.Fits → k.decode bs = .ok d.value) ∧
      (¬ d.Fits → ∃ fault, k.decode bs = .error (.decode fault)) := by
  have mapped {α : Type} {good : Prop} {outcome : Except Fault α} {v : α}
      (read : (good → outcome = .ok v) ∧ (¬ good → ∃ fault, outcome = .error fault)) :
      (good → outcome.mapError Error.decode = .ok v) ∧
        (¬ good → ∃ fault, outcome.mapError Error.decode = .error (.decode fault)) := by
    refine ⟨fun fits => congrArg _ (read.1 fits), fun bad => ?_⟩
    obtain ⟨fault, refused⟩ := read.2 bad
    exact ⟨fault, congrArg _ refused⟩
  cases d with
  | cpu d => exact mapped (spelled.decides fun w => Report.decides_draft d (shallow rfl))
  | memory d => exact mapped (spelled.decides fun w => Report.decides_memory)
  | processes ds =>
    refine mapped (spelled.decides fun w => Report.decides_processes fun w list => ?_)
    exact decides_list list fun p _ w => Report.decides_process
  | kill d => exact mapped (spelled.decides fun w => Report.decides_kill)

end Draft

/-- Whatever numbers are written in a payload, and in whatever way it is written: if all of them fit
it is read with just these numbers, and if any does not it is refused. -/
theorem Payload.figures_kept_or_refused {k : Payload} (d : Draft k) {depth : Nat}
    (shallow : k = .report .cpu → depth ≤ Report.nestingLimit - Report.coreNesting)
    {bs : List UInt8} (spelled : SpellsText (d.language depth) bs) :
    (d.Fits → ∃ v, k.decode bs = .ok v ∧ d.Describes v) ∧
      (¬ d.Fits → ∃ fault, k.decode bs = .error (.decode fault)) := by
  obtain ⟨read, refused⟩ := d.decode shallow spelled
  exact ⟨fun fits => ⟨d.value, read fits, d.describes_value fits⟩, refused⟩

/-- A core whose number is the greatest of 32 bits, with a counter that is the greatest of 64 bits
and with one that is past it. What holds the core is written as a list. -/
theorem Payload.core_counter_at_bound :
    let text (n : Nat) := Text.Utf8.bytesOf
      ("\x7b\"cpu_usage\":[[],[\x7b\"idle\":" ++ toString n ++ ",\"core_id\":4294967295\x7d]]\x7d")
    (∃ r : CpuReport, (report .cpu).decode (text 18446744073709551615) = .ok r ∧
      r.cores.map CoreCounters.figures =
        [[("core_id", 4294967295), ("user_norm", 0), ("user_nice", 0), ("kernel", 0),
          ("idle", 18446744073709551615), ("iowait", 0), ("irq", 0), ("soft_irq", 0)]]) ∧
    ∃ fault, (report .cpu).decode (text 18446744073709551616) = .error (.decode fault) := by
  intro text
  let k (n : Nat) (name : String) : Nat :=
    if name = "core_id" then 4294967295 else if name = "idle" then n else 0
  let d (n : Nat) : CpuDraft := ⟨none, fun _ => 0, [k n]⟩
  have nothing : Lead true [] := isGap_nil
  have comma : Lead false [','] := ⟨[], [], rfl, isGap_nil, isGap_nil⟩
  have ended : Series false [] [] := .done isGap_nil
  have spelled (n : Nat) : SpellsText ((Draft.cpu (d n)).language 0) (text n) := by
    have greatest : SpellsNatural 4294967295 "4294967295".toList := rfl
    have idle : SpellsMember "idle" (SpellsNatural n) _ := spellsMember_plain (by decide) rfl
    have number : SpellsMember "core_id" (SpellsNatural 4294967295) _ :=
      spellsMember_plain (by decide) greatest
    have members := Series.part nothing idle (.part comma number ended)
    have counted : ∀ e ∈ (coreTrials (k n)).map Trial.entry,
        ["idle", "core_id"].count e.name ≤ 1 ∧ (e.optional ∨ e.name ∈ ["idle", "core_id"]) := by
      simp [coreTrials, Counters.figureNames, figureTrial, neededTrial, k]
    have core : SpellsRecord ((coreTrials (k n)).map Trial.entry) 0 _ :=
      ⟨_, counted, _, members, rfl⟩
    have cores : SpellsList [SpellsRecord ((coreTrials (k n)).map Trial.entry) 0] _ :=
      ⟨_, .part nothing core ended, rfl⟩
    have full : SpellsFields ((Counters.figureNames.map (figureTrial (d n).full)).map Trial.entry)
        0 "[]".toList :=
      Or.inr ⟨[], _, rfl, by simp [figureTrial, d], [], .done isGap_nil, rfl⟩
    have usage : SpellsFields ((d n).usageEntries 0) 0 _ :=
      Or.inr ⟨_, [], (List.append_nil _).symm, by simp, _,
        .part nothing full (.part comma cores ended), rfl⟩
    have member : SpellsMember "cpu_usage" _ _ := spellsMember_plain (by decide) usage
    have whole : (Draft.cpu (d n)).language 0 _ :=
      Or.inl ⟨["cpu_usage"], by simp [CpuDraft.entries, d], _, .part nothing member ended, rfl⟩
    refine ⟨[], _, [], isGap_nil, whole, isGap_nil, ?_⟩
    simp [text, Text.Utf8.bytesOf]
  have fits : (Draft.cpu (d 18446744073709551615)).Fits := by
    simp [Draft.Fits, Fits, Counters.figureNames, CoreCounters.figureNames, figureBound,
      narrowNames, d, k]
  have bad : ¬ (Draft.cpu (d 18446744073709551616)).Fits := by
    intro fits
    have small : k 18446744073709551616 "idle" < figureBound "idle" :=
      fits.2 _ List.mem_cons_self "idle" (by decide)
    exact absurd small (by decide)
  constructor
  · obtain ⟨r, read, -, -, cores⟩ :=
      (figures_kept_or_refused _ (fun _ => Nat.zero_le _) (spelled _)).1 fits
    exact ⟨r, read, cores⟩
  · exact (figures_kept_or_refused _ (fun _ => Nat.zero_le _) (spelled _)).2 bad

end HostWatch
