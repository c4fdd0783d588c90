import HostWatch.Proofs.Hosts.Selection

namespace HostWatch

namespace KnownHosts

variable {k : KnownHosts}

def StandsFirst (k : KnownHosts) : Prop :=
  ∀ i < k.selected.toNat, k.address? i ≠ k.address? k.selected.toNat

theorem standsFirst_iff {address : String} (known : k.address? k.selected.toNat = some address) :
    k.StandsFirst ↔ k.addresses.idxOf address = k.selected.toNat := by
  obtain ⟨bound, eq⟩ := List.getElem?_eq_some_iff.mp known
  have mem : address ∈ k.addresses := eq ▸ List.getElem_mem bound
  have first : k.addresses.idxOf address < k.addresses.length := List.idxOf_lt_length_iff.mpr mem
  have there : k.address? (k.addresses.idxOf address) = some address :=
    List.getElem?_idxOf mem
  constructor
  · intro stands
    have notAhead : ¬ k.addresses.idxOf address < k.selected.toNat := by
      intro ahead
      exact stands _ ahead (there.trans known.symm)
    have notBehind : ¬ k.selected.toNat < k.addresses.idxOf address := by
      intro behind
      have other := List.not_of_lt_findIdx behind
      simp [eq] at other
    omega
  · intro same i ahead here
    rw [known] at here
    obtain ⟨bound', eq'⟩ := List.getElem?_eq_some_iff.mp here
    have other := List.not_of_lt_findIdx (same ▸ ahead : i < k.addresses.idxOf address)
    simp [eq'] at other

theorem selected_selecting {i : Nat} (inside : i < k.addresses.length) (small : i < UInt64.size) :
    (k.selecting i).selected.toNat = i := by
  rw [selecting_eq, if_pos inside]
  exact UInt64.toNat_ofNat_of_lt' small

theorem selection?_of_known {address : String}
    (known : k.address? k.selected.toNat = some address) : k.selection? = some address := by
  simp [selection?, known]

theorem selection?_of_unknown (outside : ¬ k.selected.toNat < k.addresses.length) :
    k.selection? = k.addresses.head? := by
  have unknown : k.address? k.selected.toNat = none :=
    List.getElem?_eq_none (Nat.le_of_not_lt outside)
  simp [selection?, unknown]

end KnownHosts

namespace HostRequest

variable {k : KnownHosts}

/-- A request that names nothing leads to the first host with the selected address. -/
theorem resolve_unnamed {address : String} (known : k.address? k.selected.toNat = some address) :
    resolve {} k = .known (k.addresses.idxOf address) address := by
  apply resolve_eq_known.mpr
  exact ⟨rfl, Or.inr ⟨rfl, k.selection?_of_known known, rfl⟩⟩

theorem resolve_unnamed_outside {address : String} {rest : List String}
    (hosts : k.addresses = address :: rest)
    (outside : ¬ k.selected.toNat < k.addresses.length) : resolve {} k = .known 0 address := by
  apply resolve_eq_known.mpr
  refine ⟨rfl, Or.inr ⟨rfl, ?_, ?_⟩⟩
  · rw [KnownHosts.selection?_of_unknown outside, hosts]
    rfl
  · rw [hosts, List.idxOf_cons_self]

theorem resolve_unnamed_empty (none : k.addresses = []) : resolve {} k = .noHost := by
  simp [resolve, KnownHosts.selection?, KnownHosts.address?, none]

end HostRequest

namespace Launch

variable {environment : String → Option String} {place : HostsPlace} {line : List String}
  {a : Arguments}

/-- The arguments ask for no host and make none known. -/
structure Unnamed (a : Arguments) : Prop where
  address : a.address = none
  target : a.target = none
  add : a.add = none
  demo : a.demo = false

/-- A launch that names no host keeps the selected one where it stands, or moves the selection to
where its address stands first. -/
theorem ofCommandLine_unnamed (read : Arguments.parse line = .ok a) (unnamed : Unnamed a)
    {address : String} (known : place.load.address? place.load.selected.toNat = some address) :
    let l := ofCommandLine environment place line
    let i := place.load.addresses.idxOf address
    (l.hosts = if place.load.selected.toNat = i then place.load else place.load.selecting i) ∧
      l.place = if place.load.selected.toNat = i then place
        else place.keep (place.load.selecting i) := by
  intro l i
  let start : Launch := { place, hosts := place.load }
  have chosen : l = choose a (settings environment a) start := by
    simp [l, start, ofCommandLine, read, unnamed.demo, addAndChoose, unnamed.add]
  have found : HostRequest.resolve ⟨a.address, a.target⟩ start.hosts = .known i address := by
    rw [unnamed.address, unnamed.target]
    exact HostRequest.resolve_unnamed known
  rw [chosen, choose_known found, (openHost_frame _ _ _ _ _).1, (openHost_frame _ _ _ _ _).2]
  by_cases same : place.load.selected.toNat = i
  · simp [start, same]
  · simp [start, same, taking]

/-- A launch that names no host leaves a selection in range, and the file, as they are just where
the address of the selected host does not stand ahead of it. -/
theorem selection_stays_iff (k : KnownHosts) :
    (∀ address, k.address? k.selected.toNat = some address →
        (HostRequest.resolve {} k = .known k.selected.toNat address ↔ k.StandsFirst)) ∧
      (∀ address rest, k.addresses = address :: rest → ¬ k.selected.toNat < k.addresses.length →
        HostRequest.resolve {} k = .known 0 address) ∧
      (k.addresses = [] → HostRequest.resolve {} k = .noHost) ∧
      ∀ environment place line a, Arguments.parse line = .ok a → Unnamed a → place.load = k →
        k.selected.toNat < k.addresses.length →
        let l := ofCommandLine environment place line
        (l.place = place ↔ k.StandsFirst) ∧
          (l.place.load.selected = k.selected ↔ k.StandsFirst) ∧
          (l.hosts.selected = k.selected ↔ k.StandsFirst) := by
  refine ⟨fun address known => ?_, fun address rest hosts outside =>
    HostRequest.resolve_unnamed_outside hosts outside, HostRequest.resolve_unnamed_empty, ?_⟩
  · rw [HostRequest.resolve_unnamed known, KnownHosts.standsFirst_iff known]
    simp
  · intro environment place line a read unnamed loaded inside l
    let address := k.addresses[k.selected.toNat]
    let i := k.addresses.idxOf address
    have known : k.address? k.selected.toNat = some address := List.getElem?_eq_getElem inside
    have launched : l.hosts = (if k.selected.toNat = i then k else k.selecting i) ∧
        l.place = if k.selected.toNat = i then place else place.keep (k.selecting i) := by
      subst loaded
      exact ofCommandLine_unnamed read unnamed known
    obtain ⟨hosts, kept⟩ := launched
    have first : k.StandsFirst ↔ i = k.selected.toNat := k.standsFirst_iff known
    by_cases same : k.selected.toNat = i
    · rw [if_pos same] at hosts kept
      have stands : k.StandsFirst := first.mpr same.symm
      rw [hosts, kept, loaded]
      exact ⟨iff_of_true rfl stands, iff_of_true rfl stands, iff_of_true rfl stands⟩
    · rw [if_neg same] at hosts kept
      have ahead : ¬ k.StandsFirst := fun stands => same (first.mp stands).symm
      obtain ⟨mem, small⟩ := KnownHosts.idxOf_selection (k.selection?_of_known known)
      have moved : (k.selecting i).selected ≠ k.selected := by
        intro still
        have there : (k.selecting i).selected.toNat = i :=
          k.selected_selecting (List.idxOf_lt_length_iff.mpr mem) small
        exact same (still ▸ there)
      have reloaded : l.place.load = k.selecting i := by
        rw [kept]
        apply (place.keep_cases (k.selecting i)).resolve_left
        rintro rfl
        subst loaded
        exact absurd inside (by decide)
      have rewritten : l.place ≠ place := by
        intro untouched
        rw [untouched, loaded] at reloaded
        exact moved (congrArg KnownHosts.selected reloaded.symm)
      rw [hosts, reloaded]
      exact ⟨iff_of_false rewritten ahead, iff_of_false moved ahead, iff_of_false moved ahead⟩

/-- The second of three hosts is selected; the first one is known a second time behind it. With an
index past them the first host is chosen, and without hosts none. -/
theorem second_host_stays_selected :
    let k : KnownHosts := ⟨["pi.local", "10.0.0.2:4000", "pi.local"], 1, 0⟩
    let past : KnownHosts := { k with selected := 7 }
    let place : HostsPlace := .open (some (Text.Utf8.bytesOf k.text))
    let line := ["pimon", "--terminal"]
    HostRequest.resolve {} k = .known 1 "10.0.0.2:4000" ∧
      (¬ past.selected.toNat < past.addresses.length ∧
        HostRequest.resolve {} past = .known 0 "pi.local") ∧
      HostRequest.resolve {} ⟨[], 7, 0⟩ = .noHost ∧
      Arguments.parse line = .ok { terminal := true } ∧ Unnamed { terminal := true } ∧
      place.load = k ∧ k.selected.toNat < k.addresses.length ∧
      (ofCommandLine (fun _ => none) place line).place = place := by
  intro k past place line
  have loaded : place.load = k := ((HostsPlace.open none).keep_cases k).resolve_left (by simp)
  have read : Arguments.parse line = .ok { terminal := true } := by decide
  have unnamed : Unnamed { terminal := true } := ⟨rfl, rfl, rfl, rfl⟩
  have inside : k.selected.toNat < k.addresses.length := by decide
  have outside : ¬ past.selected.toNat < past.addresses.length := by decide
  have stands : k.StandsFirst := by
    intro i ahead
    have zero : i = 0 := Nat.lt_one_iff.mp ahead
    rw [zero]
    decide
  obtain ⟨resolved, _, _, launched⟩ := selection_stays_iff k
  obtain ⟨_, first, _, _⟩ := selection_stays_iff past
  obtain ⟨_, _, nothing, _⟩ := selection_stays_iff ⟨[], 7, 0⟩
  refine ⟨(resolved _ rfl).mpr stands, ⟨outside, first _ _ rfl outside⟩, nothing rfl, read, unnamed,
    loaded, inside, ?_⟩
  exact (launched (fun _ => none) place line _ read unnamed loaded inside).1.mpr stands

/-- The same address is known twice, and its second place is selected: asked for no host, the
request leads to the first place, and a launch moves the selection there and keeps it so. -/
theorem repeated_address_moves_selection :
    let k : KnownHosts := ⟨["pi.local", "pi.local"], 1, 0⟩
    let place : HostsPlace := .open (some (Text.Utf8.bytesOf k.text))
    let l := ofCommandLine (fun _ => none) place ["pimon", "--dry-run"]
    place.load = k ∧ k.selected.toNat < k.addresses.length ∧
      HostRequest.resolve {} k = .known 0 "pi.local" ∧ l.hosts.selected = 0 ∧
      l.place.load.selected = 0 := by
  intro k place l
  let moved : KnownHosts := { k with selected := 0 }
  have loads (k : KnownHosts) : HostsPlace.load (.open (some (Text.Utf8.bytesOf k.text))) = k :=
    ((HostsPlace.open none).keep_cases k).resolve_left (by simp)
  have loaded : place.load = k := loads k
  have read : Arguments.parse ["pimon", "--dry-run"] = .ok { dryRun := true } := by decide
  have known : place.load.address? place.load.selected.toNat = some "pi.local" := by
    rw [loaded]
    rfl
  have launched : l.hosts = place.load.selecting 0 ∧
      l.place = place.keep (place.load.selecting 0) := by
    have moves := @ofCommandLine_unnamed (fun _ => none) place _ _ read ⟨rfl, rfl, rfl, rfl⟩ _ known
    rw [loaded] at moves ⊢
    exact moves
  obtain ⟨hosts, kept⟩ := launched
  rw [loaded] at hosts kept
  have selected : l.hosts = moved := hosts
  have saved : l.place = place.keep moved := kept
  refine ⟨loaded, by decide, by decide, congrArg KnownHosts.selected selected, ?_⟩
  rw [saved]
  exact congrArg KnownHosts.selected (loads moved)

end Launch

end HostWatch
