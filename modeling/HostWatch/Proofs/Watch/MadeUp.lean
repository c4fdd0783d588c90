import HostWatch.Proofs.Report.Shares
import HostWatch.Proofs.Watch.Plans
import HostWatch.Watch.Demo
import Mathlib.Data.List.Chain

namespace HostWatch

/-- From one time to another no counter goes back, and the processor has been busy for a while and
idle for a while. -/
structure Counters.Before (c d : Counters) : Prop where
  grown : List.Forall₂ (· ≤ ·) c.all d.all
  rested : c.idle < d.idle
  worked : (c.active.map UInt64.toNat).sum < (d.active.map UInt64.toNat).sum

/-- A report comes before another one of the same processor. -/
structure CpuReport.Before (r r' : CpuReport) : Prop where
  full : r.full.Before r'.full
  cores : List.Forall₂ (fun k k' => k.id = k'.id ∧ k.counters.Before k'.counters) r.cores r'.cores

/-- Not all memory is taken, and what is free is part of it. -/
structure MemoryReport.AddsUp (m : MemoryReport) : Prop where
  present : 0 < m.total
  free : m.free ≤ m.available
  available : m.available ≤ m.total

def HostProcess.Remains (p q : HostProcess) : Prop := q = { p with time := q.time }

structure HostProcess.Ages (p q : HostProcess) : Prop where
  same : p.Remains q
  time : p.time ≤ q.time

/-- A later list: some processes are gone, and the others stand in their order. -/
def ProcessList.Follows (goesOn : HostProcess → HostProcess → Prop) (before after : ProcessList) :
    Prop :=
  ∃ left, left.Sublist before ∧ List.Forall₂ goesOn left after

theorem Counters.Before.since {c d e : Counters} (grown : List.Forall₂ (· ≤ ·) c.all d.all)
    (next : d.Before e) : c.Before e := by
  obtain ⟨grown', rested, worked⟩ := next
  simp only [all, List.forall₂_cons, List.Forall₂.nil, UInt64.le_iff_toNat_le] at grown grown'
  simp only [UInt64.lt_iff_toNat_lt, active, List.map_cons, List.map_nil, List.sum_cons,
    List.sum_nil] at rested worked
  refine ⟨?_, ?_, ?_⟩
  · simp only [all, List.forall₂_cons, List.Forall₂.nil, UInt64.le_iff_toNat_le, and_true]
    omega
  · rw [UInt64.lt_iff_toNat_lt]
    omega
  · simp only [active, List.map_cons, List.map_nil, List.sum_cons, List.sum_nil]
    omega

theorem ProcessList.lists_iff {ps : ProcessList} {pid : UInt32} :
    ps.lists pid ↔ pid ∈ ps.map (·.pid) := by
  simp [lists]

theorem ProcessList.lists_filter {ps : ProcessList} {pid pid' : UInt32} :
    lists (ps.filter (·.pid ≠ pid')) pid ↔ ps.lists pid ∧ pid ≠ pid' := by
  simp only [lists_iff, List.mem_map, List.mem_filter, decide_eq_true_eq]
  constructor
  · rintro ⟨p, ⟨mem, other⟩, rfl⟩
    exact ⟨⟨p, mem, rfl⟩, other⟩
  · rintro ⟨⟨p, mem, rfl⟩, other⟩
    exact ⟨p, ⟨mem, other⟩, rfl⟩

namespace DemoHost

variable {h : DemoHost}

theorem toNat_add_ofNat {a : UInt64} {n : Nat} (fits : a.toNat + n < 2 ^ 64) :
    (a + UInt64.ofNat n).toNat = a.toNat + n := by
  rw [UInt64.toNat_add, UInt64.toNat_ofNat']
  omega

theorem grow_before {c : Counters} {t : Nat} (userNorm : c.userNorm.toNat < 2 ^ 63)
    (kernel : c.kernel.toNat < 2 ^ 63) (idle : c.idle.toNat < 2 ^ 63) : c.Before (grow c t) := by
  have norm : (grow c t).userNorm.toNat = c.userNorm.toNat + (1 + t * 7 % 5) :=
    toNat_add_ofNat (by omega)
  have system : (grow c t).kernel.toNat = c.kernel.toNat + (2 + t * 3 % 5) :=
    toNat_add_ofNat (by omega)
  have rest : (grow c t).idle.toNat = c.idle.toNat + (8 + t * 11 % 13) :=
    toNat_add_ofNat (by omega)
  have others : (grow c t).userNice = c.userNice ∧ (grow c t).ioWait = c.ioWait ∧
      (grow c t).irq = c.irq ∧ (grow c t).softIrq = c.softIrq := ⟨rfl, rfl, rfl, rfl⟩
  obtain ⟨nice, ioWait, irq, softIrq⟩ := others
  refine ⟨?_, ?_, ?_⟩
  · simp only [Counters.all, List.forall₂_cons, List.Forall₂.nil, UInt64.le_iff_toNat_le, nice,
      ioWait, irq, softIrq, and_true]
    omega
  · rw [UInt64.lt_iff_toNat_lt]
    omega
  · simp only [Counters.active, List.map_cons, List.map_nil, List.sum_cons, List.sum_nil, nice,
      ioWait, irq, softIrq]
    omega

/-- The memory in use is bounded by the whole, so that what is left is never below nothing. -/
theorem memory_addsUp (h : DemoHost) : h.memory.AddsUp := by
  have whole (n : Nat) : (UInt64.ofNat (totalMemory - n)).toNat = totalMemory - n :=
    UInt64.toNat_ofNat_of_lt' (by unfold totalMemory UInt64.size; omega)
  have half (n : Nat) : (UInt64.ofNat ((totalMemory - n) / 2)).toNat = (totalMemory - n) / 2 :=
    UInt64.toNat_ofNat_of_lt' (by unfold totalMemory UInt64.size; omega)
  have present : 0 < UInt64.ofNat totalMemory := by decide
  refine ⟨present, ?_, ?_⟩
  · rw [UInt64.le_iff_toNat_le]
    simp only [memory, whole, half]
    omega
  · rw [UInt64.le_iff_toNat_le]
    simp only [memory, whole]
    exact Nat.sub_le _ _

/-- The host after a request to kill. One that names no process of it takes none away. -/
theorem kill_snd (pid : UInt32) :
    (h.kill pid).2 = { h with processes := h.processes.filter (·.pid ≠ pid) } := by
  unfold kill
  split
  next => rfl
  next absent =>
    have others : ∀ p ∈ h.processes, p.pid ≠ pid := by simpa [ProcessList.lists] using absent
    rw [List.filter_eq_self.mpr fun p mem => decide_eq_true (others p mem)]

theorem kill_fst_iff (pid : UInt32) : (h.kill pid).1 = .ok () ↔ h.processes.lists pid := by
  unfold kill
  split <;> simp_all

/-- What can be done with a host, in any order: to ask it, and to tell it to kill a process. -/
inductive Move where
  | ask (topic : Topic)
  | kill (pid : UInt32)
  deriving DecidableEq, Repr

/-- A host and what it has answered, the earliest first. -/
structure Course where
  host : DemoHost := initial
  cpu : List CpuReport := []
  memory : List MemoryReport := []
  lists : List ProcessList := []

namespace Course

def next (c : Course) : Move → Course
  | .ask .cpu => { c with host := c.host.cpu.2, cpu := c.cpu ++ [c.host.cpu.1] }
  | .ask .memory => { c with memory := c.memory ++ [c.host.memory] }
  | .ask .processes => { c with host := c.host.list.2, lists := c.lists ++ [c.host.list.1] }
  | .ask .outside => c
  | .kill pid => { c with host := (c.host.kill pid).2 }

def run (c : Course) (moves : List Move) : Course := moves.foldl next c

theorem run_append_singleton (c : Course) (moves : List Move) (move : Move) :
    c.run (moves ++ [move]) = (c.run moves).next move := by
  simp [run]

end Course

theorem memory_run (moves : List Move) : ∀ m ∈ (({} : Course).run moves).memory, m.AddsUp := by
  induction moves using List.reverseRecOn with
  | nil => simp [Course.run]
  | append_singleton moves move ih =>
    rw [Course.run_append_singleton]
    cases move with
    | ask topic =>
      cases topic with
      | memory =>
        intro m told
        rcases List.mem_append.mp told with told | now
        · exact ih m told
        · exact List.mem_singleton.mp now ▸ memory_addsUp _
      | _ => exact ih
    | kill pid => exact ih

/-- What holds of the counters, and of all that has been told of them. -/
structure Course.Rising (c : Course) : Prop where
  userNorm : c.host.counters.userNorm.toNat ≤ 100 + 5 * c.host.tick
  kernel : c.host.counters.kernel.toNat ≤ 200 + 6 * c.host.tick
  idle : c.host.counters.idle.toNat ≤ 3000 + 20 * c.host.tick
  past : ∀ r ∈ c.cpu,
    List.Forall₂ (· ≤ ·) r.full.all c.host.counters.all ∧ r.cores = [⟨0, r.full⟩]
  ordered : c.cpu.Pairwise CpuReport.Before

theorem toNat_add_ofNat_le (a : UInt64) (n : Nat) : (a + UInt64.ofNat n).toNat ≤ a.toNat + n := by
  rw [UInt64.toNat_add, UInt64.toNat_ofNat']
  omega

theorem Course.Rising.cpu {c : Course} (rising : c.Rising) (few : c.host.tick < 2 ^ 40) :
    (c.next (.ask .cpu)).Rising := by
  have userNorm := rising.userNorm
  have kernel := rising.kernel
  have idle := rising.idle
  have grows : c.host.counters.Before (grow c.host.counters (c.host.tick + 1)) :=
    grow_before (by omega) (by omega) (by omega)
  have later {r : CpuReport} (told : r ∈ c.cpu) : r.Before c.host.cpu.1 := by
    obtain ⟨grown, cores⟩ := rising.past r told
    have before : r.full.Before c.host.cpu.1.full := .since grown grows
    refine ⟨before, ?_⟩
    rw [cores]
    exact .cons ⟨rfl, before⟩ .nil
  have norm := toNat_add_ofNat_le c.host.counters.userNorm (1 + (c.host.tick + 1) * 7 % 5)
  have system := toNat_add_ofNat_le c.host.counters.kernel (2 + (c.host.tick + 1) * 3 % 5)
  have rest := toNat_add_ofNat_le c.host.counters.idle (8 + (c.host.tick + 1) * 11 % 13)
  constructor
  · change (_ + UInt64.ofNat _).toNat ≤ 100 + 5 * (c.host.tick + 1)
    omega
  · change (_ + UInt64.ofNat _).toNat ≤ 200 + 6 * (c.host.tick + 1)
    omega
  · change (_ + UInt64.ofNat _).toNat ≤ 3000 + 20 * (c.host.tick + 1)
    omega
  · intro r told
    rcases List.mem_append.mp told with told | now
    · exact ⟨(later told).full.grown, (rising.past r told).2⟩
    · obtain rfl := List.mem_singleton.mp now
      exact ⟨List.forall₂_same.mpr fun n _ => UInt64.le_refl n, rfl⟩
  · refine List.pairwise_append.mpr ⟨rising.ordered, List.pairwise_singleton _ _, ?_⟩
    intro r told r' now
    obtain rfl := List.mem_singleton.mp now
    exact later told

theorem Course.Rising.next {c : Course} (rising : c.Rising) (move : Move)
    (few : (c.next move).host.tick < 2 ^ 40) : (c.next move).Rising := by
  cases move with
  | ask topic =>
    cases topic with
    | cpu => exact rising.cpu (Nat.lt_of_succ_lt few)
    | _ => exact { rising with }
  | kill pid =>
    simp only [Course.next, kill_snd]
    exact { rising with }

theorem tick_run (moves : List Move) :
    (({} : Course).run moves).host.tick = moves.count (.ask .cpu) := by
  induction moves using List.reverseRecOn with
  | nil => rfl
  | append_singleton moves move ih =>
    rw [Course.run_append_singleton, List.count_append, ← ih]
    cases move with
    | ask topic => cases topic <;> rfl
    | kill pid =>
      simp only [Course.next, kill_snd]
      rfl

theorem rising_run {moves : List Move} (few : moves.count (.ask .cpu) < 2 ^ 40) :
    (({} : Course).run moves).Rising := by
  induction moves using List.reverseRecOn with
  | nil => exact ⟨by decide, by decide, by decide, by simp [Course.run], .nil⟩
  | append_singleton moves move ih =>
    have fewer : moves.count (.ask .cpu) < 2 ^ 40 :=
      Nat.lt_of_le_of_lt ((List.sublist_append_left moves [move]).count_le _) few
    rw [← tick_run, Course.run_append_singleton] at few
    rw [Course.run_append_singleton]
    exact (ih fewer).next move few

/-- What holds of the processes, and of the lists that have been told. No time goes back before so
many lists that it may have passed the greatest word. -/
structure Course.Listed (c : Course) : Prop where
  bounded : c.host.processes.length ≤ 6
  distinct : (c.host.processes.map (·.pid)).Nodup
  aged : ∀ p ∈ c.host.processes, p.time.toNat ≤ 6 * c.lists.length
  told : ∀ ps ∈ c.lists, (ps.map (·.pid)).Nodup
  last : ∀ ps ∈ c.lists.getLast?, c.host.processes.Sublist ps
  ordered : c.lists.IsChain (ProcessList.Follows HostProcess.Remains)
  aging : 6 * c.lists.length < 2 ^ 64 → c.lists.IsChain (ProcessList.Follows HostProcess.Ages)

theorem map_pid_list : h.list.1.map (·.pid) = h.processes.map (·.pid) := by
  refine List.ext_getElem (by simp [list]) fun i _ _ => ?_
  simp [list]

theorem lists_list (pid : UInt32) : h.list.1.lists pid = h.processes.lists pid := by
  rw [Bool.eq_iff_iff, ProcessList.lists_iff, ProcessList.lists_iff, map_pid_list]

theorem forall₂_list {goesOn : HostProcess → HostProcess → Prop}
    (each : ∀ (i : Nat) (bound : i < h.processes.length), goesOn h.processes[i]
      { h.processes[i] with time := h.processes[i].time + UInt64.ofNat (h.tick % (i + 2)) }) :
    List.Forall₂ goesOn h.processes h.list.1 := by
  refine List.forall₂_iff_get.mpr ⟨by simp [list], fun i bound _ => ?_⟩
  simpa [list] using each i bound

theorem remains_list : List.Forall₂ HostProcess.Remains h.processes h.list.1 :=
  forall₂_list fun _ _ => rfl

/-- There are six processes at most, and the last one of six has used no more than six ticks. -/
theorem step_le (few : h.processes.length ≤ 6) {i : Nat} (bound : i < h.processes.length) :
    h.tick % (i + 2) ≤ 6 := by
  have below := Nat.mod_lt h.tick (show 0 < i + 2 by omega)
  omega

theorem ages_list (few : h.processes.length ≤ 6)
    (room : ∀ p ∈ h.processes, p.time.toNat + 6 < 2 ^ 64) :
    List.Forall₂ HostProcess.Ages h.processes h.list.1 := by
  refine forall₂_list fun i bound => ⟨rfl, ?_⟩
  have step := step_le few bound
  have fits := room _ (List.getElem_mem bound)
  rw [UInt64.le_iff_toNat_le, toNat_add_ofNat (by omega)]
  exact Nat.le_add_right _ _

theorem time_list_le {n : Nat} (few : h.processes.length ≤ 6)
    (aged : ∀ p ∈ h.processes, p.time.toNat ≤ 6 * n) :
    ∀ q ∈ h.list.1, q.time.toNat ≤ 6 * (n + 1) := by
  have slow : List.Forall₂ (fun p q => q.time.toNat ≤ p.time.toNat + 6) h.processes h.list.1 := by
    refine forall₂_list fun i bound => ?_
    have step := step_le few bound
    have sum := toNat_add_ofNat_le h.processes[i].time (h.tick % (i + 2))
    dsimp only
    omega
  intro q mem
  obtain ⟨i, bound, rfl⟩ := List.mem_iff_getElem.mp mem
  have bound' : i < h.processes.length := by rwa [slow.length_eq]
  have later := slow.get bound' bound
  have before := aged _ (List.getElem_mem bound')
  simp only [List.get_eq_getElem] at later
  omega

theorem Course.Listed.list {c : Course} (listed : c.Listed) :
    (c.next (.ask .processes)).Listed := by
  have follows {goesOn : HostProcess → HostProcess → Prop}
      (ordered : c.lists.IsChain (ProcessList.Follows goesOn))
      (now : List.Forall₂ goesOn c.host.processes c.host.list.1) :
      (c.lists ++ [c.host.list.1]).IsChain (ProcessList.Follows goesOn) := by
    refine List.isChain_append.mpr ⟨ordered, .singleton _, fun ps last qs first => ?_⟩
    obtain rfl : c.host.list.1 = qs := by simpa using first
    exact ⟨c.host.processes, listed.last ps last, now⟩
  have distinct : (c.host.list.1.map (·.pid)).Nodup := map_pid_list ▸ listed.distinct
  have length : (c.next (.ask .processes)).lists.length = c.lists.length + 1 := by simp [next]
  constructor
  · exact remains_list.length_eq ▸ listed.bounded
  · exact distinct
  · rw [length]
    exact time_list_le listed.bounded listed.aged
  · intro ps told
    rcases List.mem_append.mp told with told | now
    · exact listed.told ps told
    · obtain rfl := List.mem_singleton.mp now
      exact distinct
  · intro ps last
    obtain rfl : c.host.list.1 = ps := by simpa [next] using last
    exact .refl _
  · exact follows listed.ordered remains_list
  · rw [length]
    intro short
    refine follows (listed.aging (by omega)) (ages_list listed.bounded fun p mem => ?_)
    have aged := listed.aged p mem
    omega

theorem Course.Listed.next {c : Course} (listed : c.Listed) (move : Move) :
    (c.next move).Listed := by
  cases move with
  | ask topic =>
    cases topic with
    | processes => exact listed.list
    | _ => exact { listed with }
  | kill pid =>
    simp only [Course.next, kill_snd]
    have left : (c.host.processes.filter (·.pid ≠ pid)).Sublist c.host.processes :=
      List.filter_sublist
    exact {
      bounded := Nat.le_trans left.length_le listed.bounded
      distinct := listed.distinct.sublist (left.map _)
      aged := fun p mem => listed.aged p (left.subset mem)
      told := listed.told
      last := fun ps last => left.trans (listed.last ps last)
      ordered := listed.ordered
      aging := listed.aging }

theorem listed_run (moves : List Move) : (({} : Course).run moves).Listed := by
  induction moves using List.reverseRecOn with
  | nil =>
    exact ⟨by decide, by decide, by decide, by simp [Course.run], by simp [Course.run], .nil,
      fun _ => .nil⟩
  | append_singleton moves move ih =>
    rw [Course.run_append_singleton]
    exact ih.next move

theorem length_lists_run (moves : List Move) :
    (({} : Course).run moves).lists.length = moves.count (.ask .processes) := by
  induction moves using List.reverseRecOn with
  | nil => rfl
  | append_singleton moves move ih =>
    rw [Course.run_append_singleton, List.count_append, ← ih]
    cases move with
    | ask topic => cases topic <;> first | rfl | exact List.length_append
    | kill pid => rfl

theorem lists_run (moves : List Move) (pid : UInt32) :
    (({} : Course).run moves).host.processes.lists pid ↔
      initial.processes.lists pid ∧ .kill pid ∉ moves := by
  induction moves using List.reverseRecOn with
  | nil => simp [Course.run]
  | append_singleton moves move ih =>
    rw [Course.run_append_singleton, List.mem_append, not_or, ← and_assoc, ← ih]
    generalize (({} : Course).run moves) = c
    cases move with
    | ask topic =>
      have same : (c.next (.ask topic)).host.processes.lists pid ↔ c.host.processes.lists pid := by
        cases topic with
        | processes => exact iff_of_eq (congrArg (· = true) (lists_list pid))
        | _ => rfl
      simp [same]
    | kill pid' =>
      simp only [Course.next, kill_snd, ProcessList.lists_filter]
      simp

/-- An event that may come of watching the host: what it replies is one of its answers. -/
def Tells : Event → Prop
  | .replied _ topic reply => ∃ h : DemoHost, reply = .ok (answer topic h).1
  | _ => True

theorem isFailed_await {t : Telemetry} (sound : t.isFailed = false) (topic : Topic) :
    (t.await topic).isFailed = false := by
  simp only [Telemetry.isFailed, Bool.or_eq_false_iff] at sound ⊢
  obtain ⟨⟨⟨cpu, memory⟩, processes⟩, outside⟩ := sound
  cases topic with
  | cpu => exact ⟨⟨⟨rfl, memory⟩, processes⟩, outside⟩
  | memory => exact ⟨⟨⟨cpu, rfl⟩, processes⟩, outside⟩
  | processes => exact ⟨⟨⟨cpu, memory⟩, rfl⟩, outside⟩
  | outside => exact ⟨⟨⟨cpu, memory⟩, processes⟩, rfl⟩

theorem isFailed_take {t : Telemetry} (sound : t.isFailed = false) (topic : Topic) (h : DemoHost) :
    (t.take topic (.ok (answer topic h).1)).isFailed = false := by
  simp only [Telemetry.isFailed, Bool.or_eq_false_iff] at sound ⊢
  obtain ⟨⟨⟨cpu, memory⟩, processes⟩, outside⟩ := sound
  cases topic with
  | cpu => exact ⟨⟨⟨rfl, memory⟩, processes⟩, outside⟩
  | memory =>
    have present : h.memory.total ≠ 0 := (UInt64.ne_of_lt h.memory_addsUp.present).symm
    simp only [Telemetry.take, Telemetry.takeMemory, answer, Except.bind, Telemetry.withMemory,
      present, ↓reduceIte]
    exact ⟨⟨⟨cpu, rfl⟩, processes⟩, outside⟩
  | processes => exact ⟨⟨⟨cpu, memory⟩, rfl⟩, outside⟩
  | outside => exact ⟨⟨⟨cpu, memory⟩, processes⟩, rfl⟩

theorem isFailed_awaitAll {t : Telemetry} (sound : t.isFailed = false) :
    t.awaitAll.isFailed = false :=
  isFailed_await (isFailed_await (isFailed_await (isFailed_await sound .cpu) .memory) .processes)
    .outside

theorem isFailed_knows {e : Engine} (sound : e.telemetry.isFailed = false) {event : Event}
    (tells : Tells event) : (e.knows event).isFailed = false := by
  cases event with
  | loopBegins generation =>
    simp only [Engine.knows]
    split
    · exact isFailed_awaitAll sound
    · exact sound
  | replied generation topic reply =>
    obtain ⟨h, rfl⟩ := tells
    simp only [Engine.knows]
    split
    · exact isFailed_take sound topic h
    · exact sound
  | killReplied pid generation reply =>
    cases reply with
    | error error => exact sound
    | ok done =>
      simp only [Engine.knows]
      split <;> exact sound
  | _ => exact sound

/-- What holds of a timeline on which an engine watches the host. -/
structure Content (t : Timeline DemoHost) : Prop where
  made : t.source = source
  sound : t.engine.telemetry.isFailed = false
  tells : ∀ j ∈ t.jobs, ∀ h, Tells (j.event h).1

section Content

variable {t : Timeline DemoHost}

theorem tells_carryOut (made : t.source = source) (tells : ∀ j ∈ t.jobs, ∀ h, Tells (j.event h).1)
    (act : Act) : ∀ j ∈ (t.carryOut act).jobs, ∀ h, Tells (j.event h).1 := by
  have planned {jobs : List (Job DemoHost)} (tells : ∀ j ∈ jobs, ∀ h, Tells (j.event h).1)
      {j : Job DemoHost} (new : ∀ h, Tells (j.event h).1) :
      ∀ j' ∈ jobs ++ [j], ∀ h, Tells (j'.event h).1 := by
    intro j' mem
    rcases List.mem_append.mp mem with old | now
    · exact tells j' old
    · exact List.mem_singleton.mp now ▸ new
  cases act with
  | publish => exact tells
  | report outcome => exact tells
  | startLoop generation => exact planned tells fun _ => trivial
  | dropLoop generation begun =>
    have left : ∀ j ∈ t.jobs.filter (·.loop ≠ some generation), ∀ h, Tells (j.event h).1 :=
      fun j mem => tells j (List.mem_of_mem_filter mem)
    cases begun with
    | true => exact planned left fun _ => trivial
    | false => exact left
  | fetch generation topic base =>
    refine planned tells fun h => ⟨h, ?_⟩
    simp [made, source]
  | rest generation => exact planned tells fun _ => trivial
  | startKill pid aim => exact planned tells fun _ => trivial
  | requestKill pid aim => exact planned tells fun _ => trivial

theorem content_follow (made : t.source = source) (tells : ∀ j ∈ t.jobs, ∀ h, Tells (j.event h).1)
    {o : Engine.Outcome} (sound : o.1.telemetry.isFailed = false) : Content (t.follow o) where
  made := (t.follow_source o).trans made
  sound := by rw [(t.follow_frame o).1]; exact sound
  tells := by
    have all (acts : List Act) : ∀ t : Timeline DemoHost, t.source = source →
        (∀ j ∈ t.jobs, ∀ h, Tells (j.event h).1) →
        ∀ j ∈ (acts.foldl Timeline.carryOut t).jobs, ∀ h, Tells (j.event h).1 := by
      induction acts with
      | nil => exact fun t _ tells => tells
      | cons act acts ih =>
        intro t made tells
        exact ih _ ((t.carryOut_source act).trans made) (tells_carryOut made tells act)
    exact all o.2 { t with engine := o.1 } made tells

theorem Content.next {plans : List Plan} (content : Content t) (carries : t.Carries plans)
    (move : Timeline.Move) : Content (t.next move) := by
  cases move with
  | start target =>
    cases ok : target.base with
    | error error =>
      simp only [Timeline.next, Timeline.start_of_error t ok]
      exact content
    | ok base =>
      obtain ⟨o, started, eq⟩ := t.start_of_ok ok
      rw [Engine.start_ok t.engine ok] at started
      simp only [Timeline.next, eq]
      cases started
      exact content_follow content.made content.tells rfl
  | stop =>
    refine content_follow content.made content.tells ?_
    cases run : t.engine.run with
    | none => rw [Engine.stop_none run]; exact content.sound
    | some r => rw [Engine.stop_some run]; exact content.sound
  | kill pid => exact content_follow content.made content.tells content.sound
  | happen place =>
    simp only [Timeline.next]
    split
    next j at_place =>
      have told := content.tells j (List.mem_of_getElem? at_place) t.host
      have left : ∀ j ∈ t.jobs.eraseIdx place, ∀ h, Tells (j.event h).1 :=
        fun j mem => content.tells j (List.mem_of_mem_eraseIdx mem)
      rw [Timeline.perform_eq]
      refine content_follow (t := t.taking j (t.jobs.eraseIdx place)) content.made left ?_
      rw [(Engine.step_spec carries.agenda.published _).2]
      exact isFailed_knows content.sound told
    next => exact content
  | wait millis => exact ⟨content.made, content.sound, content.tells⟩

theorem Content.goThrough {plans : List Plan} (content : Content t) (carries : t.Carries plans)
    (moves : List Timeline.Move) : Content (t.goThrough moves) := by
  induction moves generalizing t plans with
  | nil => exact content
  | cons move moves ih =>
    obtain ⟨plans', later⟩ := carries.next move
    exact ih (content.next carries move) later

end Content

/-- However the host is used, it reports like a real one, and an engine that watches it never shows
a failure. No time goes back before it can have passed the greatest word. -/
theorem lifelike (moves : List Move) (few : moves.count (.ask .cpu) < 2 ^ 40) :
    let c := ({} : Course).run moves
    c.cpu.Pairwise CpuReport.Before ∧
      (∀ m ∈ c.memory, m.AddsUp) ∧
      (∀ ps ∈ c.lists, (ps.map (·.pid)).Nodup) ∧
      c.lists.IsChain (ProcessList.Follows HostProcess.Remains) ∧
      (6 * moves.count (.ask .processes) < 2 ^ 64 →
        c.lists.IsChain (ProcessList.Follows HostProcess.Ages)) ∧
      (∀ pid, (c.host.list.1.lists pid ↔ initial.processes.lists pid ∧ .kill pid ∉ moves) ∧
        ((c.host.kill pid).1 = .ok () ↔ c.host.list.1.lists pid) ∧
        ((c.host.kill pid).1 = .ok () ∨ (c.host.kill pid).2 = c.host)) ∧
      ∀ (interval : Interval) (moves : List Timeline.Move),
        (({ source, interval, host := c.host } : Timeline DemoHost).goThrough
          moves).engine.telemetry.isFailed = false := by
  intro c
  have listed := listed_run moves
  have aging := listed.aging
  rw [length_lists_run] at aging
  refine ⟨(rising_run few).ordered, memory_run moves, listed.told, listed.ordered, aging,
    fun pid => ?_, fun interval moves => ?_⟩
  · rw [lists_list]
    refine ⟨lists_run moves pid, kill_fst_iff pid, ?_⟩
    unfold kill
    split
    · exact .inl rfl
    · exact .inr rfl
  · have begun : Content { source, interval, host := c.host } := ⟨rfl, rfl, by simp⟩
    exact (begun.goThrough (Timeline.carries_init source interval c.host) moves).sound

/-- A process is killed twice between two lists, and the counters are told before and after. -/
theorem lifelike_after_killing :
    let moves : List Move := [.ask .cpu, .ask .processes, .kill 4, .ask .memory, .kill 4,
      .ask .processes, .ask .outside, .ask .cpu]
    let c := ({} : Course).run moves
    (c.cpu.length, c.memory.length, c.lists.length) = (2, 1, 2) ∧
      c.cpu.Pairwise CpuReport.Before ∧ c.lists.IsChain (ProcessList.Follows HostProcess.Ages) ∧
      ¬ c.host.list.1.lists 4 ∧ (c.host.kill 4).1 ≠ .ok () ∧ (c.host.kill 5).1 = .ok () := by
  intro moves c
  obtain ⟨cpu, -, -, -, lists, kills, -⟩ := lifelike moves (by decide)
  obtain ⟨four, killed, -⟩ := kills 4
  obtain ⟨five, there, -⟩ := kills 5
  have gone : ¬ c.host.list.1.lists 4 := fun listed => (four.mp listed).2 (by decide)
  exact ⟨rfl, cpu, lists (by decide), gone, fun ok => gone (killed.mp ok),
    there.mpr (five.mpr ⟨by decide, by decide⟩)⟩

def wearing (n : Nat) : List Move :=
  List.replicate 6 (.ask .cpu) ++ List.replicate n (.ask .processes)

def worn (n : Nat) : ProcessList :=
  initial.processes.mapIdx fun i p => { p with time := UInt64.ofNat (n * (6 % (i + 2))) }

theorem run_wearing (n : Nat) :
    let c := ({} : Course).run (wearing n)
    c.host.tick = 6 ∧ c.host.processes = worn n ∧
      c.lists = (List.range n).map fun k => worn (k + 1) := by
  induction n with
  | zero => exact ⟨rfl, rfl, rfl⟩
  | succ n ih =>
    have last : wearing (n + 1) = wearing n ++ [.ask .processes] := by
      rw [wearing, wearing, @List.replicate_succ' n, ← List.append_assoc]
    rw [last, Course.run_append_singleton]
    generalize ({} : Course).run (wearing n) = c at ih ⊢
    obtain ⟨tick, processes, lists⟩ := ih
    have wears : c.host.list.1 = worn (n + 1) := by
      simp only [list, tick, processes, worn, List.mapIdx_mapIdx, Function.comp_def, Nat.succ_mul,
        UInt64.ofNat_add]
    refine ⟨tick, wears, ?_⟩
    rw [List.range_succ, List.map_append, ← lists]
    exact congrArg (c.lists ++ [·]) wears

theorem length_worn (n : Nat) : (worn n).length = 6 := List.length_mapIdx

theorem not_follows_worn {n : Nat} (before : 6 * n < 2 ^ 64) (past : 2 ^ 64 ≤ 6 * (n + 1)) :
    ¬ ProcessList.Follows HostProcess.Ages (worn n) (worn (n + 1)) := by
  rintro ⟨left, sublist, ages⟩
  obtain rfl : left = worn n :=
    sublist.eq_of_length (ages.length_eq.trans (by rw [length_worn, length_worn]))
  have bound (n : Nat) : 5 < (worn n).length := by rw [length_worn]; decide
  have time (n : Nat) : ((worn n).get ⟨5, bound n⟩).time.toNat = n * 6 % 2 ^ 64 := by
    simp [worn]
  have later := (ages.get (bound n) (bound (n + 1))).time
  rw [UInt64.le_iff_toNat_le, time, time] at later
  omega

/-- After six ticks the last process reaches its greatest time in some 3 * 10 ^ 18 lists. -/
theorem time_goes_back :
    let moves := wearing 3074457345618258603
    moves.count (.ask .cpu) < 2 ^ 40 ∧
      ¬ (({} : Course).run moves).lists.IsChain (ProcessList.Follows HostProcess.Ages) := by
  have goesBack (n : Nat) (before : 6 * (n + 1) < 2 ^ 64) (past : 2 ^ 64 ≤ 6 * (n + 2)) :
      ¬ (({} : Course).run (wearing (n + 2))).lists.IsChain
        (ProcessList.Follows HostProcess.Ages) := by
    intro ordered
    rw [(run_wearing (n + 2)).2.2, List.isChain_iff_getElem] at ordered
    have last := ordered n (by simp)
    simp only [List.getElem_map, List.getElem_range] at last
    exact not_follows_worn before past last
  refine ⟨?_, goesBack 3074457345618258601 (by decide) (by decide)⟩
  rw [wearing, List.count_append, List.count_replicate_self, List.count_replicate]
  decide

end DemoHost

end HostWatch
