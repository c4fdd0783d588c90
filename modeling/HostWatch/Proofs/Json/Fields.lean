import HostWatch.Proofs.Json.Refusal

namespace HostWatch.Json

/-- The values of a record's members in their order, as a list; those at the end may be left out. -/
def SpellsInOrder (own : List Entry) : Language := fun w =>
  ∃ written left, own = written ++ left ∧ (∀ e ∈ left, e.optional) ∧
    SpellsList (written.map Entry.value) w

def SpellsFields (own : List Entry) (depth : Nat) : Language := fun w =>
  SpellsRecord own depth w ∨ SpellsInOrder own w

/-- A member that a record may be written with, and when its value can be read. -/
structure Trial where
  entry : Entry
  good : Prop

/-- A field takes what is written for it just where that is good, and what may be left out is good.
-/
structure Field.Weighs {σ : Type} (known : List String → σ) (f : Field σ) (t : Trial) : Prop where
  name : f.name = t.entry.name
  optional : t.entry.optional → f.optional ∧ t.good
  decides : ∀ seen w, t.entry.value w →
    Decides t.good (f.enter (known seen)) w (known (t.entry.name :: seen))

/-- The fields of a record are those of some members; `known` is the record with some entered. -/
structure Shape.Weighs {σ : Type} (s : Shape σ) (own : List Trial) (known : List String → σ) :
    Prop where
  blank : known [] = s.blank
  fields : List.Forall₂ (Field.Weighs known) s.fields own
  apart : (own.map fun t => t.entry.name).Nodup

section Fields

variable {σ α : Type} {known : List String → σ} {value : Read α} {set : σ → α → σ} {v : α}
  {name : String} {l : Language} {optional good : Prop}

theorem Field.lenient_weighs (decides : ∀ w, l w → Decides good value w v)
    (entered : ∀ seen, set (known seen) v = known (name :: seen)) (left : optional → good) :
    Field.Weighs known (.lenient name value set) ⟨⟨name, l, optional⟩, good⟩ :=
  ⟨rfl, fun absent => ⟨rfl, left absent⟩,
    fun seen w spelled => entered seen ▸ (decides w spelled).map _⟩

theorem Field.needed_weighs (decides : ∀ w, l w → Decides good value w v)
    (entered : ∀ seen, set (known seen) v = known (name :: seen)) :
    Field.Weighs known (.needed name value set) ⟨⟨name, l, False⟩, good⟩ :=
  ⟨rfl, False.elim, fun seen w spelled => entered seen ▸ (decides w spelled).map _⟩

end Fields

theorem find?_of_mem_nodup {α : Type} {key : α → String} {as : List α} (apart : (as.map key).Nodup)
    {a : α} (mem : a ∈ as) : as.find? (fun b => key b = key a) = some a := by
  induction as with
  | nil => cases mem
  | cons b as ih =>
    rw [List.map_cons, List.nodup_cons] at apart
    rcases List.mem_cons.mp mem with rfl | later
    · exact List.find?_cons_of_pos (decide_eq_true rfl)
    · have other : key b ≠ key a := fun same => apart.1 (same ▸ List.mem_map_of_mem later)
      rw [List.find?_cons_of_neg (by simpa using other)]
      exact ih apart.2 later

namespace Shape

variable {σ : Type} {s : Shape σ} {own : List Trial} {known : List String → σ}

theorem Weighs.follows (h : s.Weighs own known) (all : ∀ t ∈ own, t.good) :
    s.Follows (own.map Trial.entry) known := by
  refine ⟨h.blank, List.forall₂_map_right_iff.mpr ?_⟩
  have fields := h.fields
  clear h
  generalize s.fields = fs at fields
  induction fields with
  | nil => exact .nil
  | @cons f t fs own weighs others ih =>
    obtain ⟨good, rest⟩ := List.forall_mem_cons.mp all
    refine .cons ⟨weighs.name, fun absent => (weighs.optional absent).1, ?_⟩ (ih rest)
    exact fun seen w spelled => (weighs.decides seen w spelled).takes good

/-- A name is either that of a field and of a member of the record's own, or of neither. -/
theorem Weighs.find (h : s.Weighs own known) (depth : Nat) (name : String) :
    (s.fields.find? (·.name = name) = none ∧ (∀ t ∈ own, t.entry.name ≠ name) ∧
      valueOf (own.map Trial.entry) depth name = SpellsAny depth) ∨
    ∃ f, ∃ t ∈ own, s.fields.find? (·.name = name) = some f ∧ t.entry.name = name ∧
      f.Weighs known t ∧ valueOf (own.map Trial.entry) depth name = t.entry.value := by
  have same (f : Field σ) (t : Trial) (weighs : f.Weighs known t) :
      decide (f.name = name) = decide (t.entry.name = name) := by rw [weighs.name]
  have here : (own.map Trial.entry).find? (·.name = name) =
      (own.find? (·.entry.name = name)).map Trial.entry := List.find?_map
  unfold valueOf
  rw [here]
  rcases find?_of_forall₂ h.fields same with ⟨none, none'⟩ | ⟨f, t, found, found', weighs⟩
  · rw [none']
    exact Or.inl ⟨none, by simpa using none', rfl⟩
  · rw [found']
    have name' : t.entry.name = name := by simpa using List.find?_some found'
    exact Or.inr ⟨f, t, List.mem_of_find?_eq_some found', found, name', weighs, rfl⟩

theorem Weighs.refuses_named (h : s.Weighs own known) {depth : Nat} {names seen : List String}
    {first : Bool} {ws : List Char} (rest : List Char)
    (series : Series first
      (names.map fun name => SpellsMember name (valueOf (own.map Trial.entry) depth name)) ws)
    {t : Trial} (mem : t ∈ own) (bad : ¬ t.good) (there : t.entry.name ∈ names) (fuel : Nat) :
    Refuses (s.named fuel seen first (known seen)) (ws ++ '\x7d' :: rest) := by
  induction names generalizing seen first ws fuel with
  | nil => cases there
  | cons name names ih =>
    rw [List.map_cons] at series
    cases fuel with
    | zero => exact refuses_fail _ _
    | succ fuel =>
      cases series with
      | @part _ _ _ lead w ws leads spelled others =>
        obtain ⟨named, blank, blank', spelled⟩ := spelled
        have closed := others.closes (closes_objectEnd rest)
        simp only [List.append_assoc, List.cons_append]
        refine (named.reads_moreMembers leads _).refuses ?_
        simp only [if_true]
        refine (named.reads_memberName _).refuses ?_
        rcases h.find depth name with ⟨none, apart, any⟩ | ⟨f, t', mem', found, same, weighs, own'⟩
        · have later : t.entry.name ∈ names :=
            (List.mem_cons.mp there).resolve_left (apart t mem)
          simp only [none]
          rw [any] at spelled
          have passed := (takes_skipValue spelled).reads _ _ blank' closed
          exact (reads_colon blank _).refuses (passed.refuses (ih others later fuel))
        · simp only [found]
          by_cases again : name ∈ seen
          · rw [if_pos again]
            exact refuses_failPending _ _
          · rw [if_neg again]
            refine (reads_colon blank _).refuses ?_
            rw [own'] at spelled
            have decided := weighs.decides seen _ spelled
            by_cases good : t'.good
            · -- no two members share a name, so the bad one is still to come
              have other : t.entry.name ≠ name := by
                intro same'
                have found' := find?_of_mem_nodup h.apart mem'
                rw [same.trans same'.symm, find?_of_mem_nodup h.apart mem] at found'
                exact bad (Option.some.inj found' ▸ good)
              have later : t.entry.name ∈ names := (List.mem_cons.mp there).resolve_left other
              refine ((decided.takes good).reads _ _ blank' closed).refuses ?_
              rw [same]
              exact ih others later fuel
            · exact ((decided.refused good).refuses _ _ blank' closed).bind _

theorem listed_ended {fs : List (Field σ)} (optional : ∀ f ∈ fs, f.optional) (n : Nat) (x : σ) :
    listed.ended s fs n x = pure x := by
  induction fs generalizing n with
  | nil => rfl
  | cons f fs ih =>
    obtain ⟨first, others⟩ := List.forall_mem_cons.mp optional
    rw [listed.ended, if_pos first, ih others]

theorem optional_of_forall₂ {fs : List (Field σ)} {left : List Entry}
    (fields : List.Forall₂ (Field.Fits known) fs left) (absent : ∀ e ∈ left, e.optional) :
    ∀ f ∈ fs, f.optional := by
  induction fields with
  | nil => exact nofun
  | cons fits _ ih =>
    obtain ⟨first, others⟩ := List.forall_mem_cons.mp absent
    exact List.forall_mem_cons.mpr ⟨fits.2.1 first, ih others⟩

/-- The fields of a record are read in their order, up to those that are left out. -/
theorem reads_listed {fs : List (Field σ)} {written left : List Entry}
    (fields : List.Forall₂ (Field.Fits known) fs (written ++ left))
    (absent : ∀ e ∈ left, e.optional) (rest : List Char) {n : Nat} {ws : List Char}
    (series : Series (n = 0) (written.map Entry.value) ws) (seen : List String) :
    ∃ gap, Blank gap ∧ Reads (s.listed fs n (known seen)) (ws ++ ']' :: rest)
      (known ((written.map Entry.name).reverse ++ seen)) (gap ++ ']' :: rest) := by
  induction written generalizing fs n seen ws with
  | nil =>
    obtain ⟨blank⟩ := series
    cases fields with
    | nil => exact ⟨ws, blank, reads_pure _ _⟩
    | @cons f e fs left fits others =>
      obtain ⟨first, absent'⟩ := List.forall_mem_cons.mp absent
      refine ⟨[], isGap_nil, (reads_moreItems_end blank _ rest).bind ?_⟩
      simp only [Bool.false_eq_true, if_false, fits.2.1 first, if_true]
      rw [listed_ended (optional_of_forall₂ others absent')]
      exact reads_pure _ _
  | cons e written ih =>
    rw [List.map_cons] at series
    cases fields with
    | @cons f _ fs _ fits others =>
      cases series with
      | @part _ _ _ lead w ws leads spelled series =>
        have taken := fits.2.2 seen w spelled
        obtain ⟨gap, blank, reads⟩ := ih (n := n + 1) others series (e.name :: seen)
        refine ⟨gap, blank, ?_⟩
        rw [List.append_assoc, List.append_assoc, List.map_cons, List.reverse_cons,
          List.append_assoc]
        refine (taken.starts.reads_moreItems leads _).bind ?_
        simp only [if_true]
        exact (taken.reads [] _ isGap_nil (series.closes (closes_listEnd rest))).bind reads

theorem Follows.takes_listed {own : List Entry} (h : s.Follows own known) {v : σ}
    (whole : ∀ seen, (∀ e ∈ own, e.optional ∨ e.name ∈ seen) → known seen = v) {w : List Char}
    (spelled : SpellsInOrder own w) : Takes s.read w v := by
  obtain ⟨written, left, rfl, absent, ws, series, rfl⟩ := spelled
  refine takes_enclosed (Or.inl rfl) fun rest => ?_
  obtain ⟨gap, blank, reads⟩ := reads_listed h.fields absent rest (n := 0) series []
  have all : known ((written.map Entry.name).reverse ++ []) = v := by
    refine whole _ fun e mem => ?_
    rcases List.mem_append.mp mem with here | gone
    · right
      simpa using ⟨e, here, rfl⟩
    · exact Or.inl (absent e gone)
  rw [all, h.blank] at reads
  exact Reads.inList_of_gap blank reads

theorem refuses_listed {fs : List (Field σ)} {written left : List Trial}
    (fields : List.Forall₂ (Field.Weighs known) fs (written ++ left)) (rest : List Char)
    {n : Nat} {seen : List String} {ws : List Char}
    (series : Series (n = 0) (written.map fun t => t.entry.value) ws)
    (bad : ¬ ∀ t ∈ written, t.good) :
    Refuses (s.listed fs n (known seen)) (ws ++ ']' :: rest) := by
  induction written generalizing fs n seen ws with
  | nil => exact absurd nofun bad
  | cons t written ih =>
    rw [List.map_cons] at series
    cases fields with
    | @cons f _ fs _ weighs others =>
      cases series with
      | @part _ _ _ lead w ws leads spelled series =>
        have decided := weighs.decides seen w spelled
        have closed := series.closes (closes_listEnd rest)
        rw [List.append_assoc, List.append_assoc]
        refine (decided.starts.reads_moreItems leads _).refuses ?_
        simp only [if_true]
        by_cases good : t.good
        · have bad' : ¬ ∀ t ∈ written, t.good :=
            fun all => bad (List.forall_mem_cons.mpr ⟨good, all⟩)
          refine ((decided.takes good).reads [] _ isGap_nil closed).refuses ?_
          exact ih (n := n + 1) others series bad'
        · exact ((decided.refused good).refuses [] _ isGap_nil closed).bind _

theorem Weighs.good_of_optional (h : s.Weighs own known) :
    ∀ t ∈ own, t.entry.optional → t.good := by
  have fields := h.fields
  clear h
  generalize s.fields = fs at fields
  induction fields with
  | nil => exact nofun
  | cons weighs _ ih =>
    exact List.forall_mem_cons.mpr ⟨fun absent => (weighs.optional absent).2, ih⟩

theorem Weighs.refused (h : s.Weighs own known) (bad : ¬ ∀ t ∈ own, t.good) {depth : Nat}
    {w : List Char} (spelled : SpellsFields (own.map Trial.entry) depth w) : Refused s.read w := by
  rcases spelled with ⟨names, counted, ws, series, rfl⟩ |
    ⟨written, left, eq, absent, ws, series, rfl⟩
  · obtain ⟨t, mem, ill⟩ : ∃ t ∈ own, ¬ t.good := by
      simpa only [not_forall, exists_prop] using bad
    have needed : ¬ t.entry.optional := fun absent => ill (h.good_of_optional t mem absent)
    have there : t.entry.name ∈ names :=
      (counted t.entry (List.mem_map_of_mem mem)).2.resolve_left needed
    rw [List.map_map] at series
    refine refused_enclosed (Or.inr rfl) fun rest => Refuses.inObject (refuses_get fun _ => ?_)
    rw [← h.blank]
    exact h.refuses_named rest series mem ill there _
  · obtain ⟨first, last, rfl, rfl, rfl⟩ := List.map_eq_append_iff.mp eq
    -- what is left out at the end is good, so what is bad is written
    have ill : ¬ ∀ t ∈ first, t.good := by
      intro all
      refine bad fun t mem => ?_
      rcases List.mem_append.mp mem with here | gone
      · exact all t here
      · exact h.good_of_optional t mem (absent t.entry (List.mem_map_of_mem gone))
    rw [List.map_map] at series
    refine refused_enclosed (Or.inl rfl) fun rest => Refuses.inList ?_
    rw [← h.blank]
    exact refuses_listed (n := 0) h.fields rest series ill

theorem Weighs.decides (h : s.Weighs own known) {v : σ}
    (whole : ∀ seen, (∀ t ∈ own, t.entry.optional ∨ t.entry.name ∈ seen) → known seen = v)
    {depth : Nat} {w : List Char} (spelled : SpellsFields (own.map Trial.entry) depth w) :
    Decides (∀ t ∈ own, t.good) s.read w v := by
  refine ⟨fun all => ?_, fun bad => h.refused bad spelled⟩
  have whole' : ∀ seen, (∀ e ∈ own.map Trial.entry, e.optional ∨ e.name ∈ seen) →
      known seen = v := by
    intro seen there
    exact whole seen fun t mem => there t.entry (List.mem_map_of_mem mem)
  rcases spelled with object | list
  · exact (h.follows all).takes whole' object
  · exact (h.follows all).takes_listed whole' list

end Shape

end HostWatch.Json
