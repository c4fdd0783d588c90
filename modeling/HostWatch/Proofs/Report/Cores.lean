import HostWatch.Report.Decode
import HostWatch.Proofs.Json.Records

namespace HostWatch

open Json

theorem ite_default {α : Type} {v d : α} {p : Prop} [Decidable p] (h : v = d ∨ p) :
    (if p then v else d) = v := by
  split
  · rfl
  · next absent => exact (h.resolve_right absent).symm

namespace Counters

def named (c : Counters) : List (String × UInt64) :=
  [("user_norm", c.userNorm), ("user_nice", c.userNice), ("kernel", c.kernel), ("idle", c.idle),
   ("iowait", c.ioWait), ("irq", c.irq), ("soft_irq", c.softIrq)]

/-- A counter is written as its number, and may be left out when it is zero. -/
def entries (c : Counters) : List Entry :=
  c.named.map fun m => ⟨m.1, SpellsNatural m.2.toNat, m.2 = 0⟩

def known (c : Counters) (seen : List String) : Counters where
  userNorm := if "user_norm" ∈ seen then c.userNorm else 0
  userNice := if "user_nice" ∈ seen then c.userNice else 0
  kernel := if "kernel" ∈ seen then c.kernel else 0
  idle := if "idle" ∈ seen then c.idle else 0
  ioWait := if "iowait" ∈ seen then c.ioWait else 0
  irq := if "irq" ∈ seen then c.irq else 0
  softIrq := if "soft_irq" ∈ seen then c.softIrq else 0

theorem known_whole (c : Counters) {seen : List String}
    (there : ∀ m ∈ c.named, m.2 = 0 ∨ m.1 ∈ seen) : c.known seen = c := by
  simp only [named, List.forall_mem_cons] at there
  obtain ⟨norm, nice, kernel, idle, ioWait, irq, softIrq, -⟩ := there
  unfold known
  rw [ite_default norm, ite_default nice, ite_default kernel, ite_default idle,
    ite_default ioWait, ite_default irq, ite_default softIrq]

theorem entered (c : Counters) :
    List.Forall₂ (fun field m => field.1 = m.1 ∧
      ∀ seen, field.2 (c.known seen) m.2 = c.known (m.1 :: seen)) Report.counterFields c.named :=
  .cons ⟨rfl, fun _ => by simp [known]⟩ (.cons ⟨rfl, fun _ => by simp [known]⟩
    (.cons ⟨rfl, fun _ => by simp [known]⟩ (.cons ⟨rfl, fun _ => by simp [known]⟩
      (.cons ⟨rfl, fun _ => by simp [known]⟩ (.cons ⟨rfl, fun _ => by simp [known]⟩
        (.cons ⟨rfl, fun _ => by simp [known]⟩ .nil))))))

end Counters

namespace Report

variable {w : List Char}

theorem takes_identifier {n : UInt32} (h : SpellsNatural n.toNat w) : Takes identifier w n := by
  have small : n.toNat ≤ Number.maxWord32 := Nat.le_sub_one_of_lt n.toNat_lt
  have taken := (takes_natural h small (by decide) "u32").map UInt32.ofNat
  rwa [UInt32.ofNat_toNat] at taken

section Any

variable {value : Read Found} {first : Bool} {parts : List Language} {ws rest : List Char}

theorem comesTo_any {n : Nat} (h : SpellsNatural n w) (inside : Option (Read Found))
    {gap : List Char} (blank : Blank gap) (closed : Closes rest) :
    ComesTo (valueWith inside) (gap ++ (w ++ rest)) (do return (← Numeral.ofDigits n).found)
      rest := by
  obtain ⟨d, ds, first, digit⟩ := h.digits
  obtain ⟨ascii, solid, -⟩ := solid_of_isDigit digit
  have number := comesTo_ofDigits n closed.endsNumber
  rw [← h, first, List.cons_append] at number
  rw [first, List.cons_append]
  refine ((reads_token blank ascii solid).comesTo _).trans ?_
  split
  next same => cases same
  next same => cases same; cases digit
  next same => cases same; cases digit
  next same => cases same; cases digit
  next same => cases same; cases digit
  next same => cases same; cases digit
  next same => cases same; cases digit
  next same => cases same; cases digit
  next c _ _ _ _ _ _ _ same =>
    cases same
    simp only [digit?_of_isDigit digit, Option.isSome_some, if_true]
    exact number.bind _

theorem takes_any_natural {n : Nat} (h : SpellsNatural n w) (fits : n ≤ Number.maxWord64)
    (inside : Option (Read Found)) : Takes (valueWith inside) w (.natural n) := by
  refine ⟨h.starts, fun gap rest blank closed => ?_⟩
  have number := comesTo_any h inside blank closed
  rw [Numeral.ofDigits_of_fits fits] at number
  exact number.reads (reads_pure (Found.natural n) rest)

theorem takes_any_scalar (h : SpellsScalar w) (inside : Option (Read Found)) :
    ∃ found, Takes (valueWith inside) w found := by
  rcases h with mem | ⟨n, fits, spelled⟩ | ⟨s, spelled⟩
  · simp only [List.mem_cons, List.not_mem_nil, or_false] at mem
    rcases mem with rfl | rfl | rfl
    · exact ⟨.null, ⟨'n', _, rfl, rfl, by decide, by decide⟩, fun gap rest blank _ =>
        (reads_token (c := 'n') blank rfl (by decide)).bind ((reads_advance rfl).bind
          ((reads_word (by decide) rest).bind (reads_pure _ rest)))⟩
    · exact ⟨.boolean true, ⟨'t', _, rfl, rfl, by decide, by decide⟩, fun gap rest blank _ =>
        (reads_token (c := 't') blank rfl (by decide)).bind ((reads_advance rfl).bind
          ((reads_word (by decide) rest).bind (reads_pure _ rest)))⟩
    · exact ⟨.boolean false, ⟨'f', _, rfl, rfl, by decide, by decide⟩, fun gap rest blank _ =>
        (reads_token (c := 'f') blank rfl (by decide)).bind ((reads_advance rfl).bind
          ((reads_word (by decide) rest).bind (reads_pure _ rest)))⟩
  · exact ⟨.natural n, takes_any_natural spelled fits inside⟩
  · obtain ⟨cs, rfl, reads⟩ := spelled.reads
    exact ⟨.text s, spelled.starts, fun gap rest blank _ =>
      (reads_token blank rfl (by decide)).bind ((reads_advance rfl).bind
        ((reads rest).bind (reads_pure _ rest)))⟩

theorem reads_forgetItems (h : Series first parts ws)
    (each : ∀ part ∈ parts, ∀ w, part w → ∃ found, Takes value w found) {fuel : Nat}
    (enough : ws.length < fuel) :
    Reads (forgetItems value fuel first) (ws ++ ']' :: rest) () (']' :: rest) := by
  induction h generalizing fuel with
  | done blank =>
    obtain ⟨fuel, rfl⟩ : ∃ k, fuel = k + 1 := ⟨fuel - 1, by omega⟩
    exact (reads_moreItems_end blank _ rest).bind (reads_pure () _)
  | @part first part parts lead w ws leads spelled others ih =>
    obtain ⟨fuel, rfl⟩ : ∃ k, fuel = k + 1 := ⟨fuel - 1, by omega⟩
    obtain ⟨found, taken⟩ := each part List.mem_cons_self w spelled
    have long := taken.starts.pos
    simp only [List.length_append] at enough
    rw [List.append_assoc, List.append_assoc]
    refine (taken.starts.reads_moreItems leads _).bind ?_
    refine (taken.reads [] _ isGap_nil (others.closes (closes_listEnd rest))).bind ?_
    exact ih (fun part mem => each part (List.mem_cons_of_mem _ mem)) (by omega)

theorem reads_forgetMembers {members : List (String × Language)}
    (h : Series first (members.map fun m => SpellsMember m.1 m.2) ws)
    (each : ∀ m ∈ members, ∀ w, m.2 w → ∃ found, Takes value w found) {fuel : Nat}
    (enough : ws.length < fuel) :
    Reads (forgetMembers value fuel first) (ws ++ '\x7d' :: rest) () ('\x7d' :: rest) := by
  induction members generalizing first ws fuel with
  | nil =>
    obtain ⟨blank⟩ := h
    obtain ⟨fuel, rfl⟩ : ∃ k, fuel = k + 1 := ⟨fuel - 1, by omega⟩
    exact (reads_moreMembers_end blank _ rest).bind (reads_pure () _)
  | cons m members ih =>
    rw [List.map_cons] at h
    obtain ⟨fuel, rfl⟩ : ∃ k, fuel = k + 1 := ⟨fuel - 1, by omega⟩
    cases h with
    | @part _ _ _ lead w ws leads spelled others =>
    obtain ⟨named, blank, blank', spelled⟩ := spelled
    obtain ⟨found, taken⟩ := each m List.mem_cons_self _ spelled
    simp only [List.length_append, List.length_cons] at enough
    have following := ih others (fun m mem => each m (List.mem_cons_of_mem _ mem))
      (show ws.length < fuel by omega)
    simp only [List.append_assoc, List.cons_append]
    refine (named.reads_moreMembers leads _).bind ((named.reads_memberName _).bind ?_)
    refine (reads_colon blank _).bind ?_
    exact (taken.reads _ _ blank' (others.closes (closes_objectEnd rest))).bind following

theorem anyValue_eq (budget : Nat) : ∃ inside, anyValue budget = valueWith inside := by
  cases budget with
  | zero => exact ⟨none, rfl⟩
  | succ budget => exact ⟨some (anyValue budget), rfl⟩

/-- Any value is taken, however it is written, unless it opens more than may be open. -/
theorem takes_any {depth budget : Nat} (h : SpellsAny depth w) (shallow : depth ≤ budget) :
    ∃ found, Takes (anyValue budget) w found := by
  induction depth generalizing w budget with
  | zero =>
    obtain ⟨inside, eq⟩ := anyValue_eq budget
    exact eq ▸ takes_any_scalar h inside
  | succ depth ih =>
    obtain ⟨budget, rfl⟩ : ∃ k, budget = k + 1 := ⟨budget - 1, by omega⟩
    rcases h with scalar | ⟨n, ws, series, rfl⟩ | ⟨names, ws, series, rfl⟩
    · exact takes_any_scalar scalar (some (anyValue budget))
    · refine ⟨.sequence, ⟨'[', _, rfl, rfl, by decide, by decide⟩, fun gap rest blank _ => ?_⟩
      rw [List.cons_append, List.append_assoc]
      refine (reads_token blank rfl (by decide)).bind ?_
      refine Reads.bind (v := ()) (Reads.inList ?_) (reads_pure _ rest)
      refine reads_get fun _ => reads_forgetItems series ?_ (length_lt_budget ws _)
      intro part mem w spelled
      rw [List.eq_of_mem_replicate mem] at spelled
      exact ih spelled (by omega)
    · refine ⟨.map, ⟨'\x7b', _, rfl, rfl, by decide, by decide⟩, fun gap rest blank _ => ?_⟩
      rw [List.cons_append, List.append_assoc]
      refine (reads_token blank rfl (by decide)).bind ?_
      refine Reads.bind (v := ()) (Reads.inObject ?_) (reads_pure _ rest)
      refine reads_get fun _ => reads_forgetMembers series ?_ (length_lt_budget ws _)
      intro m mem w spelled
      obtain ⟨name, -, rfl⟩ := List.mem_map.mp mem
      exact ih spelled (by omega)

end Any

section Kept

variable {c : Counters}

/-- What is kept of a member under a counter's name is the counter. -/
def Keeps (c : Counters) (m : String × Found) : Prop :=
  ∀ k, c.named.find? (·.1 = m.1) = some k → m.2 = .natural k.2.toNat

/-- The counters are taken from what was kept, whatever else was kept with them. -/
theorem enterCounters_kept {seen : List String} {kept : List (String × Found)}
    (keeps : ∀ m ∈ kept, Keeps c m)
    (once : ∀ k ∈ c.named, (kept.map Prod.fst).count k.1 + seen.count k.1 ≤ 1)
    (there : ∀ k ∈ c.named, k.2 = 0 ∨ k.1 ∈ kept.map Prod.fst ∨ k.1 ∈ seen) :
    enterCounters seen (c.known seen) kept = .ok c := by
  induction kept generalizing seen with
  | nil =>
    have there' : ∀ k ∈ c.named, k.2 = 0 ∨ k.1 ∈ seen := fun k mem => by
      simpa using there k mem
    rw [enterCounters, c.known_whole there']
  | cons m kept ih =>
    obtain ⟨name, found⟩ := m
    obtain ⟨first, others⟩ := List.forall_mem_cons.mp keeps
    rw [enterCounters]
    rcases find?_of_forall₂ c.entered (p := (·.1 = name)) (q := (·.1 = name))
      (fun _ _ fits => by rw [fits.1]) with ⟨none, none'⟩ | ⟨field, k, hit, hit', same, entered⟩
    · have apart : ∀ k ∈ c.named, k.1 ≠ name := by simpa using none'
      rw [none]
      refine ih others (fun k mem => ?_) fun k mem => ?_
      · simpa [List.count_cons_of_ne (apart k mem).symm] using once k mem
      · simpa [apart k mem] using there k mem
    · obtain rfl : k.1 = name := by simpa using List.find?_some hit'
      have mem := List.mem_of_find?_eq_some hit'
      have unseen : k.1 ∉ seen := by
        intro mem'
        have twice := once k mem
        have counted := List.count_pos_iff.mpr mem'
        rw [List.map_cons, List.count_cons_self] at twice
        omega
      have value : counterOf found = .ok k.2 := by
        have found_as : found = .natural k.2.toNat := first k hit'
        rw [found_as, counterOf, UInt64.ofNat_toNat]
      rw [hit]
      simp only [unseen, if_false, value, entered]
      refine ih others (fun k' mem => ?_) fun k' mem => ?_
      · have all := once k' mem
        simp only [List.map_cons, List.count_cons] at all ⊢
        omega
      · have all := there k' mem
        simp only [List.map_cons, List.mem_cons] at all ⊢
        tauto

end Kept

end Report

namespace CoreCounters

def entries (k : CoreCounters) : List Entry :=
  ⟨"core_id", SpellsNatural k.id.toNat, False⟩ :: k.counters.entries

/-- A member other than the core's number is kept as what it may be entered from. -/
theorem keeps_member (k : CoreCounters) {depth budget : Nat} (shallow : depth ≤ budget)
    {name : String} (other : name ≠ "core_id") {w : List Char}
    (h : valueOf k.entries depth name w) :
    ∃ found, Takes (Report.anyValue budget) w found ∧ Report.Keeps k.counters (name, found) := by
  have here : k.entries.find? (·.name = name) =
      (k.counters.named.find? (·.1 = name)).map fun m =>
        ⟨m.1, SpellsNatural m.2.toNat, m.2 = 0⟩ := by
    rw [entries, List.find?_cons_of_neg (by simpa using other.symm), Counters.entries,
      List.find?_map]
    rfl
  rw [valueOf, here] at h
  cases found : k.counters.named.find? (·.1 = name) with
  | none =>
    rw [found] at h
    obtain ⟨f, taken⟩ := Report.takes_any h shallow
    exact ⟨f, taken, fun m hit => absurd (found.symm.trans hit) nofun⟩
  | some m =>
    rw [found] at h
    obtain ⟨inside, eq⟩ := Report.anyValue_eq budget
    refine ⟨.natural m.2.toNat, ?_, fun m' hit => ?_⟩
    · rw [eq]
      exact Report.takes_any_natural h (Nat.le_sub_one_of_lt m.2.toNat_lt) inside
    · cases found.symm.trans hit
      rfl

end CoreCounters

namespace Report

/-- What has been read of a core while members are still to come: nothing but what belongs to the
core, and with the members to come each of its own at most once and all that may not be left out. -/
structure Awaits (k : CoreCounters) (names : List String) (id : Option UInt32)
    (kept : List (String × Found)) : Prop where
  number : id = none ∨ id = some k.id
  keeps : ∀ m ∈ kept, Keeps k.counters m
  numberOnce : names.count "core_id" + id.toList.length ≤ 1
  numberThere : "core_id" ∈ names ∨ id.isSome
  once : ∀ m ∈ k.counters.named, names.count m.1 + (kept.map Prod.fst).count m.1 ≤ 1
  there : ∀ m ∈ k.counters.named, m.2 = 0 ∨ m.1 ∈ names ∨ m.1 ∈ kept.map Prod.fst

namespace Awaits

variable {k : CoreCounters} {names : List String} {id : Option UInt32}
  {kept : List (String × Found)}

theorem start (counted : ∀ e ∈ k.entries, names.count e.name ≤ 1 ∧ (e.optional ∨ e.name ∈ names)) :
    Awaits k names none [] := by
  obtain ⟨⟨once, there⟩, counters⟩ := List.forall_mem_cons.mp counted
  have each (m : String × UInt64) (mem : m ∈ k.counters.named) :=
    counters _ (List.mem_map_of_mem mem)
  exact ⟨Or.inl rfl, nofun, once, Or.inl (there.resolve_left id), fun m mem => (each m mem).1,
    fun m mem => (each m mem).2.imp_right Or.inl⟩

theorem takeNumber (h : Awaits k ("core_id" :: names) id kept) :
    id = none ∧ Awaits k names (some k.id) kept := by
  have other : ∀ m ∈ k.counters.named, m.1 ≠ "core_id" := by simp [Counters.named]
  have once := h.numberOnce
  rw [List.count_cons_self] at once
  have first : id.toList.length = 0 := by omega
  refine ⟨?_, Or.inr rfl, h.keeps, ?_, Or.inr rfl, fun m mem => ?_, fun m mem => ?_⟩
  · exact Option.toList_eq_nil_iff.mp (List.eq_nil_of_length_eq_zero first)
  · simp only [Option.toList_some, List.length_singleton]
    omega
  · simpa [List.count_cons_of_ne (other m mem).symm] using h.once m mem
  · simpa [other m mem] using h.there m mem

theorem keep {name : String} {found : Found} (h : Awaits k (name :: names) id kept)
    (other : name ≠ "core_id") (keeps : Keeps k.counters (name, found)) :
    Awaits k names id ((name, found) :: kept) := by
  refine ⟨h.number, List.forall_mem_cons.mpr ⟨keeps, h.keeps⟩, ?_, ?_, fun m mem => ?_,
    fun m mem => ?_⟩
  · simpa [List.count_cons_of_ne other] using h.numberOnce
  · simpa [other.symm] using h.numberThere
  · have all := h.once m mem
    simp only [List.map_cons, List.count_cons] at all ⊢
    omega
  · have all := h.there m mem
    simp only [List.map_cons, List.mem_cons] at all ⊢
    tauto

theorem finish (h : Awaits k [] id kept) :
    id = some k.id ∧ enterCounters [] {} kept.reverse = .ok k.counters := by
  constructor
  · rcases h.number with rfl | same
    · exact absurd h.numberThere (by simp)
    · exact same
  · have keeps : ∀ m ∈ kept.reverse, Keeps k.counters m :=
      fun m mem => h.keeps m (List.mem_reverse.mp mem)
    refine enterCounters_kept keeps (fun m mem => ?_) fun m mem => ?_
    · simpa [List.map_reverse] using h.once m mem
    · simpa [List.map_reverse] using h.there m mem

end Awaits

theorem reads_coreMembers {k : CoreCounters} {depth : Nat}
    (shallow : depth ≤ nestingLimit - coreNesting) {names : List String} {first : Bool}
    {ws : List Char} (rest : List Char)
    (series : Series first (names.map fun name => SpellsMember name (valueOf k.entries depth name))
      ws)
    {id : Option UInt32} {kept : List (String × Found)} (awaits : Awaits k names id kept)
    {fuel : Nat} (enough : ws.length < fuel) :
    Reads (coreMembers fuel first id kept) (ws ++ '\x7d' :: rest) k ('\x7d' :: rest) := by
  induction names generalizing id kept first ws fuel with
  | nil =>
    obtain ⟨blank⟩ := series
    obtain ⟨fuel, rfl⟩ : ∃ k, fuel = k + 1 := ⟨fuel - 1, by omega⟩
    obtain ⟨rfl, counters⟩ := awaits.finish
    refine (reads_moreMembers_end blank first rest).bind ?_
    simp only [Bool.false_eq_true, if_false, counters]
    exact reads_pure k _
  | cons name names ih =>
    rw [List.map_cons] at series
    obtain ⟨fuel, rfl⟩ : ∃ k, fuel = k + 1 := ⟨fuel - 1, by omega⟩
    cases series with
    | @part _ _ _ lead w ws leads spelled others =>
    obtain ⟨named, blank, blank', spelled⟩ := spelled
    simp only [List.length_append, List.length_cons] at enough
    have closed := others.closes (closes_objectEnd rest)
    simp only [List.append_assoc, List.cons_append]
    refine (named.reads_moreMembers leads _).bind ?_
    simp only [if_true]
    refine (named.reads_memberName _).bind ?_
    by_cases own : name = "core_id"
    · subst own
      obtain ⟨rfl, awaits'⟩ := awaits.takeNumber
      have number : Takes identifier _ k.id := takes_identifier spelled
      simp only [if_true, Option.isSome_none, Bool.false_eq_true, if_false]
      refine (reads_colon blank _).bind ((number.reads _ _ blank' closed).bind ?_)
      exact ih others awaits' (show ws.length < fuel by omega)
    · obtain ⟨found, taken, keeps⟩ := k.keeps_member shallow own spelled
      simp only [own, if_false]
      refine (reads_colon blank _).bind ((taken.reads _ _ blank' closed).bind ?_)
      exact ih others (awaits.keep own keeps) (show ws.length < fuel by omega)

theorem takes_core {k : CoreCounters} {depth : Nat} (shallow : depth ≤ nestingLimit - coreNesting)
    {w : List Char} (h : SpellsRecord k.entries depth w) : Takes core w k := by
  obtain ⟨names, counted, ws, series, rfl⟩ := h
  rw [List.map_map] at series
  refine takes_enclosed (Or.inr rfl) fun rest => Reads.inObject (reads_get fun _ => ?_)
  exact reads_coreMembers shallow rest series (.start counted) (length_lt_budget ws _)

end Report

end HostWatch
