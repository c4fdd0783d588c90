import HostWatch.Launch
import HostWatch.Proofs.Hosts.Saved
import Mathlib.Data.List.Basic

namespace HostWatch

namespace KnownHosts

variable {k : KnownHosts}

/-- An address that is made known is found where it first stands, at the end if it is new. -/
theorem add_eq (k : KnownHosts) (address : String) :
    k.add address = (k.addresses.idxOf (Text.trim address),
      if Text.trim address ∈ k.addresses then k
      else { k with addresses := k.addresses ++ [Text.trim address] }) := by
  unfold add
  cases found : k.addresses.idxOf? (Text.trim address) with
  | some i =>
    have mem : Text.trim address ∈ k.addresses := List.isSome_idxOf?.mp (by simp [found])
    simp [mem, List.idxOf_eq_getD_idxOf?, found]
  | none =>
    have new : Text.trim address ∉ k.addresses := List.idxOf?_eq_none_iff.mp found
    simp [found, new]

theorem add_selected (k : KnownHosts) (address : String) :
    (k.add address).2.selected = k.selected := by
  rw [add_eq]
  by_cases mem : Text.trim address ∈ k.addresses <;> simp [mem]

theorem mem_add (k : KnownHosts) (address : String) :
    Text.trim address ∈ (k.add address).2.addresses := by
  rw [add_eq]
  by_cases mem : Text.trim address ∈ k.addresses <;> simp [mem]

theorem prefix_add (k : KnownHosts) (address : String) :
    k.addresses <+: (k.add address).2.addresses := by
  rw [add_eq]
  by_cases mem : Text.trim address ∈ k.addresses <;> simp [mem]

theorem length_add_le (k : KnownHosts) (address : String) :
    (k.add address).2.addresses.length ≤ k.addresses.length + 1 := by
  rw [add_eq]
  by_cases mem : Text.trim address ∈ k.addresses <;> simp [mem]

theorem idxOf_add (k : KnownHosts) (address : String) :
    (k.add address).2.addresses.idxOf (Text.trim address) = (k.add address).1 := by
  rw [add_eq]
  by_cases mem : Text.trim address ∈ k.addresses
  · simp [mem]
  · simp [mem, List.idxOf_append_of_notMem, List.idxOf_of_notMem]

/-- An address that was made known before keeps its place when more are made known. -/
theorem add_of_prefix {more : KnownHosts} {address : String}
    (later : (k.add address).2.addresses <+: more.addresses) :
    more.add address = ((k.add address).1, more) := by
  obtain ⟨rest, eq⟩ := later
  have known := k.mem_add address
  have same : more.addresses.idxOf (Text.trim address) = (k.add address).1 := by
    rw [← eq, List.idxOf_append_of_mem known, idxOf_add]
  have mem : Text.trim address ∈ more.addresses := by
    rw [← eq]
    exact List.mem_append_left rest known
  rw [add_eq, same, if_pos mem]

def selecting (i : Nat) (k : KnownHosts) : KnownHosts := (k.select? i).getD k

theorem selecting_eq (i : Nat) (k : KnownHosts) :
    k.selecting i =
      if i < k.addresses.length then { k with selected := UInt64.ofNat i } else k := by
  unfold selecting select?
  by_cases inside : i < k.addresses.length <;> simp [inside]

@[simp] theorem selecting_addresses (i : Nat) (k : KnownHosts) :
    (k.selecting i).addresses = k.addresses := by
  rw [selecting_eq]
  by_cases inside : i < k.addresses.length <;> simp [inside]

@[simp] theorem selecting_selecting (i : Nat) (k : KnownHosts) :
    (k.selecting i).selecting i = k.selecting i := by
  rw [selecting_eq i (k.selecting i), selecting_addresses, selecting_eq]
  by_cases inside : i < k.addresses.length <;> simp [inside]

/-- A selected host stands no later than the stored index, and so its first index can be stored. -/
theorem idxOf_selection {address : String} (selection : k.selection? = some address) :
    address ∈ k.addresses ∧ k.addresses.idxOf address < UInt64.size := by
  unfold selection? address? at selection
  cases inside : k.addresses[k.selected.toNat]? with
  | none =>
    rw [inside] at selection
    obtain ⟨rest, eq⟩ := List.head?_eq_some_iff.mp selection
    rw [eq]
    exact ⟨List.mem_cons_self, by simp⟩
  | some other =>
    rw [inside] at selection
    obtain rfl : other = address := Option.some.inj selection
    refine ⟨List.mem_of_getElem? inside, Nat.lt_of_le_of_lt ?_ k.selected.toNat_lt⟩
    obtain ⟨bound, eq⟩ := List.getElem?_eq_some_iff.mp inside
    apply Nat.le_of_not_lt
    intro earlier
    have differs := List.not_of_lt_findIdx earlier
    simp [eq] at differs

end KnownHosts

namespace HostsPlace

@[simp] theorem keep_keep (k more : KnownHosts) (p : HostsPlace) :
    (p.keep k).keep more = p.keep more := by
  cases p <;> rfl

theorem keep_cases (k : KnownHosts) (p : HostsPlace) : p = .blocked ∨ (p.keep k).load = k := by
  cases p with
  | blocked => exact Or.inl rfl
  | «open» file =>
    right
    change (KnownHosts.ofBytes? (Text.Utf8.bytesOf k.text)).getD {} = k
    rw [k.ofBytes?_text]
    rfl

end HostsPlace

namespace HostRequest

variable {r : HostRequest} {k : KnownHosts} {i : Nat} {address : String}

theorem resolve_eq_direct : r.resolve k = .direct address ↔ r.address = some address := by
  unfold resolve
  cases r.address with
  | some given => simp
  | none =>
    cases r.index with
    | some j =>
      dsimp only
      cases k.address? j <;> simp
    | none => cases k.selection? <;> simp

/-- A known host is chosen by its index, or as the selected one by the first index that holds its
address. -/
theorem resolve_eq_known : r.resolve k = .known i address ↔ r.address = none ∧
    (r.index = some i ∧ k.address? i = some address ∨
      r.index = none ∧ k.selection? = some address ∧ k.addresses.idxOf address = i) := by
  unfold resolve
  cases r.address with
  | some given => simp
  | none =>
    cases r.index with
    | some j =>
      dsimp only
      cases found : k.address? j with
      | none =>
        simp only [reduceCtorEq, Option.some.injEq, true_and, false_and, or_false, false_iff]
        rintro ⟨rfl, known⟩
        simp [found] at known
      | some other =>
        simp only [HostChoice.known.injEq, Option.some.injEq, true_and, reduceCtorEq, false_and,
          or_false]
        constructor
        · rintro ⟨rfl, rfl⟩
          exact ⟨rfl, found⟩
        · rintro ⟨rfl, known⟩
          exact ⟨rfl, Option.some.inj (found.symm.trans known)⟩
    | none =>
      cases k.selection? with
      | none => simp
      | some other =>
        simp only [HostChoice.known.injEq, reduceCtorEq, Option.some.injEq, false_and, true_and,
          false_or]
        constructor
        · rintro ⟨first, rfl⟩
          exact ⟨rfl, first⟩
        · rintro ⟨rfl, first⟩
          exact ⟨first, rfl⟩

theorem address?_of_resolve (found : r.resolve k = .known i address) :
    k.address? i = some address := by
  obtain ⟨-, ⟨-, known⟩ | ⟨-, selection, first⟩⟩ := resolve_eq_known.mp found
  · exact known
  · rw [← first]
    exact List.getElem?_idxOf (KnownHosts.idxOf_selection selection).1

end HostRequest

namespace Launch

variable {a : Arguments} {s : Settings} {l : Launch}

def taking (k : KnownHosts) (l : Launch) : Launch := { l with hosts := k, place := l.place.keep k }

@[simp] theorem taking_taking (k more : KnownHosts) (l : Launch) :
    (l.taking k).taking more = l.taking more := by
  simp [taking]

def adding (address : String) (l : Launch) : Launch :=
  (l.taking (l.hosts.add address).2).complain
    ("target " ++ toString (l.hosts.add address).1 ++ ": " ++ Text.trim address)

theorem dryRun_frame (index : Nat) (target : Target) (l : Launch) :
    (l.dryRun index target).hosts = l.hosts ∧ (l.dryRun index target).place = l.place := by
  unfold dryRun
  cases target.base with
  | error e => exact ⟨rfl, rfl⟩
  | ok base => cases target.terminal <;> exact ⟨rfl, rfl⟩

theorem openHost_frame (a : Arguments) (s : Settings) (index : Nat) (address : String)
    (l : Launch) : (openHost a s index address l).hosts = l.hosts ∧
      (openHost a s index address l).place = l.place := by
  unfold openHost
  cases Target.parse address s.defaultPort with
  | error e => exact ⟨rfl, rfl⟩
  | ok target =>
    by_cases dry : a.dryRun
    · simp only [dry, ↓reduceIte]
      exact dryRun_frame index target l
    · simp [dry]

theorem choose_direct {address : String} {target : Target} (given : a.address = some address)
    (good : Target.parse address s.defaultPort = .ok target) :
    choose a s l = openHost a s (l.hosts.add address).1 address
      (l.taking ((l.hosts.add address).2.selecting (l.hosts.add address).1)) := by
  have direct : HostRequest.resolve ⟨a.address, a.target⟩ l.hosts = .direct address :=
    HostRequest.resolve_eq_direct.mpr given
  simp only [choose, direct, good]
  rfl

theorem choose_known {address : String} {i : Nat}
    (found : HostRequest.resolve ⟨a.address, a.target⟩ l.hosts = .known i address) :
    choose a s l = openHost a s i address
      (if l.hosts.selected.toNat = i then l else l.taking (l.hosts.selecting i)) := by
  simp only [choose, found]
  rfl

/-- All that choosing a host can come to. -/
inductive Choice (a : Arguments) (s : Settings) (l : Launch) : Launch → Prop
  | refused {address : String} {e : Error} : a.address = some address →
      Target.parse address s.defaultPort = .error e →
      Choice a s l (l.fail (invalidHost address) e)
  | direct {address : String} {target : Target} : a.address = some address →
      Target.parse address s.defaultPort = .ok target →
      Choice a s l (openHost a s (l.hosts.add address).1 address
        (l.taking ((l.hosts.add address).2.selecting (l.hosts.add address).1)))
  | known {i : Nat} {address : String} :
      HostRequest.resolve ⟨a.address, a.target⟩ l.hosts = .known i address →
      Choice a s l (openHost a s i address
        (if l.hosts.selected.toNat = i then l else l.taking (l.hosts.selecting i)))
  | missing (complaint : String) :
      (∀ i address, HostRequest.resolve ⟨a.address, a.target⟩ l.hosts ≠ .known i address) →
      Choice a s l (l.complain complaint).finish

theorem choice (a : Arguments) (s : Settings) (l : Launch) : Choice a s l (choose a s l) := by
  cases found : HostRequest.resolve ⟨a.address, a.target⟩ l.hosts with
  | direct address =>
    have given : a.address = some address := HostRequest.resolve_eq_direct.mp found
    cases parsed : Target.parse address s.defaultPort with
    | error e =>
      have refused : choose a s l = l.fail (invalidHost address) e := by
        simp only [choose, found, parsed]
      rw [refused]
      exact .refused given parsed
    | ok target =>
      rw [choose_direct given parsed]
      exact .direct given parsed
  | known i address =>
    rw [choose_known found]
    exact .known found
  | outOfRange i =>
    simp only [choose, found]
    exact .missing _ (by simp [found])
  | noHost =>
    simp only [choose, found]
    exact .missing _ (by simp [found])

/-- A launch leaves the hosts and their file as they were, or keeps the hosts that it comes to. -/
theorem choose_keeps (a : Arguments) (s : Settings) (l : Launch) :
    (choose a s l).hosts = l.hosts ∧ (choose a s l).place = l.place ∨
      (choose a s l).place = l.place.keep (choose a s l).hosts := by
  have choice := choice a s l
  generalize choose a s l = l' at choice
  cases choice with
  | refused given bad => exact Or.inl ⟨rfl, rfl⟩
  | direct given good =>
    right
    rw [(openHost_frame _ _ _ _ _).1, (openHost_frame _ _ _ _ _).2]
    rfl
  | known found =>
    rw [(openHost_frame _ _ _ _ _).1, (openHost_frame _ _ _ _ _).2]
    split
    · exact Or.inl ⟨rfl, rfl⟩
    · exact Or.inr rfl
  | missing complaint none => exact Or.inl ⟨rfl, rfl⟩

theorem choose_only_adds (a : Arguments) (s : Settings) (l : Launch) :
    l.hosts.addresses <+: (choose a s l).hosts.addresses := by
  have choice := choice a s l
  generalize choose a s l = l' at choice
  cases choice with
  | refused given bad => exact List.prefix_rfl
  | @direct address target given good =>
    rw [(openHost_frame _ _ _ _ _).1]
    simpa [taking] using l.hosts.prefix_add address
  | known found =>
    rw [(openHost_frame _ _ _ _ _).1]
    split
    · exact List.prefix_rfl
    · simp [taking]
  | missing complaint none => exact List.prefix_rfl

theorem choose_length_le (a : Arguments) (s : Settings) (l : Launch) :
    (choose a s l).hosts.addresses.length ≤ l.hosts.addresses.length + 1 := by
  have choice := choice a s l
  generalize choose a s l = l' at choice
  cases choice with
  | refused given bad => exact Nat.le_succ _
  | @direct address target given good =>
    rw [(openHost_frame _ _ _ _ _).1]
    simpa [taking] using l.hosts.length_add_le address
  | known found =>
    rw [(openHost_frame _ _ _ _ _).1]
    split
    · exact Nat.le_succ _
    · simp [taking]
  | missing complaint none => exact Nat.le_succ _

/-- All that a launch can come to that is to make a host known. -/
inductive Addition (a : Arguments) (s : Settings) (l : Launch) : Launch → Prop
  | refused {address : String} {e : Error} : a.add = some address →
      Target.parse address s.defaultPort = .error e →
      Addition a s l (l.fail (invalidHost address) e)
  | added {address : String} {target : Target} : a.add = some address →
      Target.parse address s.defaultPort = .ok target →
      Addition a s l (choose a s (l.adding address))
  | none : a.add = .none → Addition a s l (choose a s l)

theorem addition (a : Arguments) (s : Settings) (l : Launch) :
    Addition a s l (addAndChoose a s l) := by
  unfold addAndChoose
  cases given : a.add with
  | none => exact .none given
  | some address =>
    cases parsed : Target.parse address s.defaultPort with
    | error e =>
      simp only [parsed]
      exact .refused given parsed
    | ok target =>
      simp only [parsed]
      exact .added given parsed

theorem addAndChoose_length_le (a : Arguments) (s : Settings) (l : Launch) :
    (addAndChoose a s l).hosts.addresses.length ≤ l.hosts.addresses.length + 2 := by
  have addition := addition a s l
  generalize addAndChoose a s l = l' at addition
  cases addition with
  | refused given bad => exact Nat.le_add_right _ 2
  | @added address target given good =>
    have added : (l.adding address).hosts.addresses.length ≤ l.hosts.addresses.length + 1 :=
      l.hosts.length_add_le address
    exact Nat.le_trans (choose_length_le a s _) (Nat.succ_le_succ added)
  | none given => exact Nat.le_succ_of_le (choose_length_le a s l)

theorem addAndChoose_keeps (a : Arguments) (s : Settings) (l : Launch) :
    (addAndChoose a s l).hosts = l.hosts ∧ (addAndChoose a s l).place = l.place ∨
      (addAndChoose a s l).place = l.place.keep (addAndChoose a s l).hosts := by
  have addition := addition a s l
  generalize addAndChoose a s l = l' at addition
  cases addition with
  | refused given bad => exact Or.inl ⟨rfl, rfl⟩
  | none given => exact choose_keeps a s l
  | @added address target given good =>
    right
    rcases choose_keeps a s (l.adding address) with ⟨hosts, place⟩ | place
    · rw [hosts, place]
      rfl
    · rw [place]
      exact HostsPlace.keep_keep _ _ _

end Launch

end HostWatch
