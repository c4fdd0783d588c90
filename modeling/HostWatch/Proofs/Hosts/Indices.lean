import HostWatch.Proofs.Hosts.Selection

namespace HostWatch

namespace KnownHosts

/-- What can be asked of known hosts. An index is a word, as the stored one is. -/
inductive Change where
  | add (address : String)
  | select (index : UInt64)
  deriving DecidableEq, Repr

/-- The hosts after a change; one that is refused leaves them as they are. -/
def change (k : KnownHosts) : Change → KnownHosts
  | .add address => (k.add address).2
  | .select i => k.selecting i.toNat

def changes (k : KnownHosts) (cs : List Change) : KnownHosts := cs.foldl change k

/-- No address has blanks at its ends, and none is known twice. -/
structure Tidy (k : KnownHosts) : Prop where
  trimmed : ∀ address ∈ k.addresses, Text.trim address = address
  distinct : k.addresses.Nodup

def InRange (k : KnownHosts) : Prop := k.selected.toNat < k.addresses.length

variable {k more : KnownHosts} {address : String} {i : Nat}

theorem tidy_nothing : Tidy {} := ⟨by simp, List.nodup_nil⟩

theorem Tidy.add (tidy : k.Tidy) (address : String) : (k.add address).2.Tidy := by
  rw [add_eq]
  by_cases mem : Text.trim address ∈ k.addresses
  · simpa only [if_pos mem] using tidy
  · simp only [if_neg mem]
    constructor
    · intro other here
      rcases List.mem_append.mp here with old | new
      · exact tidy.trimmed other old
      · have same : other = Text.trim address := List.mem_singleton.mp new
        rw [same, Text.trim_trim]
    · apply List.nodup_append.mpr
      refine ⟨tidy.distinct, List.pairwise_singleton _ _, ?_⟩
      rintro old here new last rfl
      have same : old = Text.trim address := List.mem_singleton.mp last
      exact mem (same ▸ here)

theorem Tidy.selecting (tidy : k.Tidy) (i : Nat) : (k.selecting i).Tidy := by
  have same : (k.selecting i).addresses = k.addresses := selecting_addresses i k
  exact ⟨same ▸ tidy.trimmed, same ▸ tidy.distinct⟩

theorem InRange.add (inside : k.InRange) (address : String) : (k.add address).2.InRange := by
  have longer : k.addresses.length ≤ (k.add address).2.addresses.length :=
    (k.prefix_add address).length_le
  have same : (k.add address).2.selected = k.selected := k.add_selected address
  unfold InRange at inside ⊢
  rw [same]
  omega

theorem InRange.selecting (inside : k.InRange) (i : UInt64) : (k.selecting i.toNat).InRange := by
  rw [selecting_eq]
  by_cases here : i.toNat < k.addresses.length
  · rw [if_pos here, UInt64.ofNat_toNat]
    exact here
  · rwa [if_neg here]

theorem Tidy.change (tidy : k.Tidy) (c : Change) : (k.change c).Tidy := by
  cases c with
  | add address => exact tidy.add address
  | select i => exact tidy.selecting i.toNat

theorem InRange.change (inside : k.InRange) (c : Change) : (k.change c).InRange := by
  cases c with
  | add address => exact inside.add address
  | select i => exact inside.selecting i

theorem prefix_change (k : KnownHosts) (c : Change) :
    k.addresses <+: (k.change c).addresses := by
  cases c with
  | add address => exact k.prefix_add address
  | select i =>
    have same : (k.selecting i.toNat).addresses = k.addresses := selecting_addresses i.toNat k
    exact same ▸ List.prefix_rfl

theorem Tidy.changes (tidy : k.Tidy) (cs : List Change) : (k.changes cs).Tidy := by
  induction cs generalizing k with
  | nil => exact tidy
  | cons c cs ih => exact ih (tidy.change c)

theorem prefix_changes (k : KnownHosts) (cs : List Change) :
    k.addresses <+: (k.changes cs).addresses := by
  induction cs generalizing k with
  | nil => exact List.prefix_rfl
  | cons c cs ih => exact (k.prefix_change c).trans (ih (k.change c))

theorem InRange.changes (inside : k.InRange) (cs : List Change) : (k.changes cs).InRange := by
  induction cs generalizing k with
  | nil => exact inside
  | cons c cs ih => exact ih (inside.change c)

theorem address?_of_prefix (within : k.addresses <+: more.addresses)
    (known : k.address? i = some address) : more.address? i = some address := by
  obtain ⟨rest, eq⟩ := within
  have bound : i < k.addresses.length := (List.getElem?_eq_some_iff.mp known).1
  unfold address? at known ⊢
  rw [← eq, List.getElem?_append_left bound, known]

theorem address?_add (k : KnownHosts) (address : String) :
    (k.add address).2.address? (k.add address).1 = some (Text.trim address) := by
  rw [← idxOf_add]
  exact List.getElem?_idxOf (k.mem_add address)

theorem add_eq_self_iff (k : KnownHosts) (address : String) :
    (k.add address).2 = k ↔ Text.trim address ∈ k.addresses := by
  rw [add_eq]
  by_cases mem : Text.trim address ∈ k.addresses
  · simp [mem]
  · simp only [mem, iff_false]
    intro same
    have longer := congrArg (fun k => k.addresses.length) same
    simp at longer

theorem add_grows_iff (k : KnownHosts) (address : String) :
    (k.add address).2 = { k with addresses := k.addresses ++ [Text.trim address] } ↔
      Text.trim address ∉ k.addresses := by
  rw [add_eq]
  by_cases mem : Text.trim address ∈ k.addresses
  · simp only [mem, not_true_eq_false, iff_false]
    intro same
    have longer := congrArg (fun k => k.addresses.length) same
    simp at longer
  · simp [mem]

theorem select?_isSome_iff (k : KnownHosts) (i : Nat) :
    (k.select? i).isSome ↔ i < k.addresses.length := by
  unfold select?
  by_cases inside : i < k.addresses.length <;> simp [inside]

/-- However tidy hosts change, an index that was told for an address names it from then on, and a
selection that is in range stays so. -/
theorem indices_name_for_good (tidy : k.Tidy) (before later : List Change) :
    let now := k.changes before
    let last := now.changes later
    now.Tidy ∧ now.addresses <+: last.addresses ∧
      (∀ i address, now.address? i = some address → last.address? i = some address) ∧
      (now.InRange → last.InRange) ∧
      (∀ address, let added := now.add address
        (∀ cs, (added.2.changes cs).address? added.1 = some (Text.trim address)) ∧
        (added.2 = now ↔ Text.trim address ∈ now.addresses) ∧
        (added.2 = { now with addresses := now.addresses ++ [Text.trim address] } ↔
          Text.trim address ∉ now.addresses)) ∧
      ∀ i : UInt64, ((now.select? i.toNat).isSome ↔ i.toNat < now.addresses.length) ∧
        now.change (.select i) =
          if i.toNat < now.addresses.length then { now with selected := i } else now := by
  intro now last
  have within : now.addresses <+: last.addresses := prefix_changes now later
  refine ⟨tidy.changes before, within, fun i address => address?_of_prefix within,
    fun inside => inside.changes later, fun address => ?_, fun i => ?_⟩
  · refine ⟨fun cs => ?_, now.add_eq_self_iff address, now.add_grows_iff address⟩
    exact address?_of_prefix (prefix_changes _ cs) (now.address?_add address)
  · refine ⟨now.select?_isSome_iff i.toNat, ?_⟩
    have selected : now.change (.select i) = now.selecting i.toNat := rfl
    rw [selected, selecting_eq, UInt64.ofNat_toNat]

/-- Two hosts are made known, one of them twice, and the second is selected; an index that is out of
range is refused. -/
theorem indices_of_two_hosts :
    let asked : List Change :=
      [.add "pi.local", .add " 10.0.0.2:4000\n", .select 1, .add "pi.local ", .select 2]
    let now := changes {} asked
    Tidy {} ∧ now = ⟨["pi.local", "10.0.0.2:4000"], 1, 0⟩ ∧ now.Tidy ∧ now.InRange ∧
      ∀ cs, (now.changes cs).address? 1 = some "10.0.0.2:4000" ∧ (now.changes cs).InRange := by
  intro asked now
  have reached : now = ⟨["pi.local", "10.0.0.2:4000"], 1, 0⟩ := by decide
  have inside : now.InRange := by
    rw [reached]
    exact Nat.lt_add_one 1
  have known : now.address? 1 = some "10.0.0.2:4000" := by
    rw [reached]
    rfl
  refine ⟨tidy_nothing, reached, (indices_name_for_good tidy_nothing asked []).1, inside, ?_⟩
  intro cs
  obtain ⟨-, -, names, stays, -⟩ := indices_name_for_good tidy_nothing asked cs
  exact ⟨names 1 _ known, stays inside⟩

end KnownHosts

end HostWatch
