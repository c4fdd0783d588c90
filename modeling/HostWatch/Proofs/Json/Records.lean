import HostWatch.Proofs.Json.Passing

namespace HostWatch.Json

theorem find?_of_forall₂ {α β : Type} {R : α → β → Prop} {as : List α} {bs : List β}
    (h : List.Forall₂ R as bs) {p : α → Bool} {q : β → Bool} (same : ∀ a b, R a b → p a = q b) :
    (as.find? p = none ∧ bs.find? q = none) ∨
      ∃ a b, as.find? p = some a ∧ bs.find? q = some b ∧ R a b := by
  induction h with
  | nil => exact Or.inl ⟨rfl, rfl⟩
  | @cons a b as bs fits others ih =>
    cases hit : q b with
    | true =>
      have hit' : p a := (same a b fits).trans hit
      exact Or.inr ⟨a, b, List.find?_cons_of_pos hit', List.find?_cons_of_pos hit, fits⟩
    | false =>
      have miss : ¬ p a := by simp [same a b fits, hit]
      rwa [List.find?_cons_of_neg miss, List.find?_cons_of_neg (by simp [hit])]

/-- A field of a record and the member it is written with; `known` is the record with some members
entered. -/
def Field.Fits {σ : Type} (known : List String → σ) (f : Field σ) (e : Entry) : Prop :=
  f.name = e.name ∧ (e.optional → f.optional) ∧
    ∀ seen w, e.value w → Takes (f.enter (known seen)) w (known (e.name :: seen))

/-- The fields of a record are those of the members that it is written with. -/
structure Shape.Follows {σ : Type} (s : Shape σ) (own : List Entry) (known : List String → σ) :
    Prop where
  blank : known [] = s.blank
  fields : List.Forall₂ (Field.Fits known) s.fields own

namespace Shape

variable {σ : Type} {s : Shape σ} {own : List Entry} {known : List String → σ}

/-- A name is either that of a field and of a member of the record's own, or of neither. -/
theorem Follows.find (h : s.Follows own known) (depth : Nat) (name : String) :
    (s.fields.find? (·.name = name) = none ∧ valueOf own depth name = SpellsAny depth ∧
      ∀ e ∈ own, e.name ≠ name) ∨
    ∃ f, s.fields.find? (·.name = name) = some f ∧ (∃ e ∈ own, e.name = name) ∧
      ∀ seen w, valueOf own depth name w →
        Takes (f.enter (known seen)) w (known (name :: seen)) := by
  have same (f : Field σ) (e : Entry) (fits : f.Fits known e) :
      decide (f.name = name) = decide (e.name = name) := by rw [fits.1]
  unfold valueOf
  rcases find?_of_forall₂ h.fields same with ⟨none, none'⟩ | ⟨f, e, found, found', fits⟩
  · rw [none']
    exact Or.inl ⟨none, rfl, by simpa using none'⟩
  · obtain rfl : e.name = name := by simpa using List.find?_some found'
    rw [found']
    exact Or.inr ⟨f, found, ⟨e, List.mem_of_find?_eq_some found', rfl⟩, fits.2.2⟩

/-- Once all members that may not be left out have been seen, no field is missing. -/
theorem Follows.complete (h : s.Follows own known) {seen : List String}
    (there : ∀ e ∈ own, e.optional ∨ e.name ∈ seen) :
    s.fields.find? (fun f => !f.optional && !seen.contains f.name) = none := by
  have fields := h.fields
  generalize s.fields = fs at fields
  clear h
  induction fields with
  | nil => rfl
  | @cons f e fs own fits others ih =>
    obtain ⟨first, there⟩ := List.forall_mem_cons.mp there
    rw [List.find?_cons_of_neg, ih there]
    rcases first with optional | mem
    · simp [fits.2.1 optional]
    · simp [fits.1, mem]

theorem reads_other {first : Bool} {lead gap cs value cs' rest : List Char} {name : String}
    {seen : List String} {x y : σ} {fuel : Nat} (leads : Lead first lead)
    (found : s.fields.find? (·.name = name) = none) (blank : Blank gap)
    (named : Reads string cs name (gap ++ ':' :: value)) (passed : Reads skipValue value () cs')
    (others : Reads (s.named fuel seen false x) cs' y rest) :
    Reads (s.named (fuel + 1) seen first x) (lead ++ '"' :: cs) y rest := by
  refine (reads_moreMembers leads _).bind ?_
  simp only [if_true]
  refine ((reads_advance rfl).bind named).bind ?_
  simp only [found]
  exact (reads_colon blank value).bind (passed.bind others)

theorem Follows.reads_named (h : s.Follows own known) {depth : Nat} {names seen : List String}
    {first : Bool} {ws : List Char} (rest : List Char)
    (series : Series first (names.map fun name => SpellsMember name (valueOf own depth name)) ws)
    (once : ∀ e ∈ own, names.count e.name + seen.count e.name ≤ 1)
    (there : ∀ e ∈ own, e.optional ∨ e.name ∈ names ∨ e.name ∈ seen)
    {fuel : Nat} (enough : ws.length < fuel) :
    ∃ seen', (∀ e ∈ own, e.optional ∨ e.name ∈ seen') ∧
      Reads (s.named fuel seen first (known seen)) (ws ++ '\x7d' :: rest) (known seen')
        ('\x7d' :: rest) := by
  induction names generalizing seen first ws fuel with
  | nil =>
    obtain ⟨blank⟩ := series
    obtain ⟨fuel, rfl⟩ : ∃ k, fuel = k + 1 := ⟨fuel - 1, by omega⟩
    have there' : ∀ e ∈ own, e.optional ∨ e.name ∈ seen := fun e mem => by
      simpa using there e mem
    exact ⟨seen, there', reads_end blank (h.complete there') rest⟩
  | cons name names ih =>
    rw [List.map_cons] at series
    obtain ⟨fuel, rfl⟩ : ∃ k, fuel = k + 1 := ⟨fuel - 1, by omega⟩
    cases series with
    | @part _ _ _ lead w ws leads spelled others =>
    obtain ⟨named, blank, blank', spelled⟩ := spelled
    obtain ⟨cs, rfl, inside⟩ := named.reads
    simp only [List.length_append, List.length_cons] at enough
    have closed := others.closes (closes_objectEnd rest)
    simp only [List.append_assoc, List.cons_append]
    rcases h.find depth name with ⟨none, any, apart⟩ | ⟨f, found, ⟨e, mem, rfl⟩, enters⟩
    · have once' : ∀ e ∈ own, names.count e.name + seen.count e.name ≤ 1 := fun e mem => by
        simpa [List.count_cons_of_ne (apart e mem).symm] using once e mem
      have there' : ∀ e ∈ own, e.optional ∨ e.name ∈ names ∨ e.name ∈ seen := fun e mem => by
        simpa [apart e mem] using there e mem
      obtain ⟨seen', all, reads⟩ := ih others once' there' (show ws.length < fuel by omega)
      rw [any] at spelled
      have passed := (takes_skipValue spelled).reads _ _ blank' closed
      exact ⟨seen', all, reads_other leads none blank (inside _) passed reads⟩
    · have unseen : e.name ∉ seen := by
        intro mem'
        have twice := once e mem
        have counted := List.count_pos_iff.mpr mem'
        rw [List.count_cons_self] at twice
        omega
      have once' : ∀ e' ∈ own, names.count e'.name + (e.name :: seen).count e'.name ≤ 1 :=
        fun e' mem => by
          have all := once e' mem
          simp only [List.count_cons] at all ⊢
          omega
      have there' : ∀ e' ∈ own, e'.optional ∨ e'.name ∈ names ∨ e'.name ∈ e.name :: seen :=
        fun e' mem => by
          have all := there e' mem
          simp only [List.mem_cons] at all ⊢
          tauto
      obtain ⟨seen', all, reads⟩ := ih others once' there' (show ws.length < fuel by omega)
      have entered := (enters seen _ spelled).reads _ _ blank' closed
      exact ⟨seen', all, reads_member leads found unseen blank (inside _) entered reads⟩

theorem Follows.takes (h : s.Follows own known) {v : σ}
    (whole : ∀ seen, (∀ e ∈ own, e.optional ∨ e.name ∈ seen) → known seen = v) {depth : Nat}
    {w : List Char} (spelled : SpellsRecord own depth w) : Takes s.read w v := by
  obtain ⟨names, counted, ws, series, rfl⟩ := spelled
  rw [List.map_map] at series
  refine takes_enclosed (Or.inr rfl) fun rest => Reads.inObject (reads_get fun _ => ?_)
  have once : ∀ e ∈ own, names.count e.name + ([] : List String).count e.name ≤ 1 :=
    fun e mem => (counted e mem).1
  have there : ∀ e ∈ own, e.optional ∨ e.name ∈ names ∨ e.name ∈ ([] : List String) :=
    fun e mem => (counted e mem).2.imp_right Or.inl
  obtain ⟨seen, all, reads⟩ := h.reads_named rest series once there (length_lt_budget ws _)
  rw [whole seen all, h.blank] at reads
  exact reads

end Shape

end HostWatch.Json
