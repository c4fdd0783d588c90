import HostWatch.Proofs.Hosts.Choosing
import Mathlib.Data.List.DropRight

namespace HostWatch

theorem Text.trimChars_trimChars (cs : List Char) : trimChars (trimChars cs) = trimChars cs := by
  change (((cs.dropWhile isBlank).rdropWhile isBlank).dropWhile isBlank).rdropWhile isBlank = _
  have front : ((cs.dropWhile isBlank).rdropWhile isBlank).dropWhile isBlank =
      (cs.dropWhile isBlank).rdropWhile isBlank := by
    obtain ⟨rest, eq⟩ := List.rdropWhile_prefix isBlank (cs.dropWhile isBlank)
    generalize (cs.dropWhile isBlank).rdropWhile isBlank = ds at eq
    cases ds with
    | nil => rfl
    | cons d ds =>
      have filled : cs.dropWhile isBlank ≠ [] := by simp [← eq]
      have first := List.head_dropWhile_not isBlank filled
      simp only [← eq, List.cons_append, List.head_cons] at first
      simp [first]
  rw [front, List.rdropWhile_idempotent]
  rfl

@[simp] theorem Text.trim_trim (s : String) : trim (trim s) = trim s := by
  unfold trim
  rw [String.toList_ofList, trimChars_trimChars]

/-- Whether an address can be read, where a port that it does not name is given. -/
def Target.isReadable (port : UInt16) (address : String) : Bool := (parse address port).isOk

theorem Target.isReadable_trim (port : UInt16) (address : String) :
    isReadable port (Text.trim address) = isReadable port address := by
  simp [isReadable, parse]

theorem Target.isReadable_of_ok {port : UInt16} {address : String} {target : Target}
    (ok : parse address port = .ok target) : isReadable port address = true := by
  simp [isReadable, ok, Except.isOk, Except.toBool]

theorem Target.isReadable_of_error {port : UInt16} {address : String} {e : Error}
    (bad : parse address port = .error e) : isReadable port address = false := by
  simp [isReadable, bad, Except.isOk, Except.toBool]

namespace KnownHosts

variable {k : KnownHosts} {port : UInt16} {i : Nat}

/-- Where the selection of some hosts has changed, its address can be read. -/
def MovesWell (port : UInt16) (before after : KnownHosts) : Prop :=
  after.selected ≠ before.selected →
    ∃ address, after.address? after.selected.toNat = some address ∧
      Target.isReadable port address = true

/-- A host is not the selected one, and its address cannot be read. -/
def Traps (port : UInt16) (k : KnownHosts) (i : Nat) : Prop :=
  i ≠ k.selected.toNat ∧
    ∃ address, k.address? i = some address ∧ Target.isReadable port address = false

theorem movesWell_of_same {before after : KnownHosts} (same : after.selected = before.selected) :
    MovesWell port before after := fun moved => absurd same moved

theorem movesWell_of_selected {before other after : KnownHosts}
    (same : other.selected = before.selected) :
    MovesWell port other after ↔ MovesWell port before after := by
  rw [MovesWell, same, MovesWell]

theorem movesWell_selecting_iff (room : k.addresses.length ≤ UInt64.size) :
    MovesWell port k (k.selecting i) ↔ ¬ k.Traps port i := by
  rw [selecting_eq]
  by_cases inside : i < k.addresses.length
  · have stored : (UInt64.ofNat i).toNat = i :=
      UInt64.toNat_ofNat_of_lt' (Nat.lt_of_lt_of_le inside room)
    have moved : UInt64.ofNat i ≠ k.selected ↔ i ≠ k.selected.toNat := by
      rw [ne_eq, ← UInt64.toNat_inj, stored]
    have known : k.address? i = some k.addresses[i] := List.getElem?_eq_getElem inside
    rw [if_pos inside]
    simp only [MovesWell, Traps, moved, stored]
    change (_ → ∃ address, k.address? i = some address ∧ _) ↔ _
    simp [known]
  · have unknown : k.address? i = none := List.getElem?_eq_none (Nat.le_of_not_lt inside)
    simp [inside, movesWell_of_same, Traps, unknown]

theorem movesWell_adding {address : String} (room : k.addresses.length + 1 ≤ UInt64.size)
    (readable : Target.isReadable port address = true) :
    MovesWell port k ((k.add address).2.selecting (k.add address).1) := by
  intro moved
  have known : (k.add address).2.address? (k.add address).1 = some (Text.trim address) := by
    rw [← idxOf_add]
    exact List.getElem?_idxOf (k.mem_add address)
  have inside : (k.add address).1 < (k.add address).2.addresses.length :=
    (List.getElem?_eq_some_iff.mp known).1
  have stored : (UInt64.ofNat (k.add address).1).toNat = (k.add address).1 :=
    UInt64.toNat_ofNat_of_lt'
      (Nat.lt_of_lt_of_le inside (Nat.le_trans (k.length_add_le address) room))
  rw [selecting_eq, if_pos inside]
  refine ⟨Text.trim address, ?_, (Target.isReadable_trim port address).trans readable⟩
  change (k.add address).2.address? (UInt64.ofNat (k.add address).1).toNat = _
  rw [stored, known]

end KnownHosts

def Arguments.knowing (a : Arguments) (k : KnownHosts) : KnownHosts :=
  match a.add with
  | some address => (k.add address).2
  | none => k

namespace Launch

variable {a : Arguments} {s : Settings} {l : Launch} {port : UInt16} {k : KnownHosts}

def LeadsToTrap (port : UInt16) (a : Arguments) (k : KnownHosts) : Prop :=
  ∃ i address, HostRequest.resolve ⟨a.address, a.target⟩ k = .known i address ∧ k.Traps port i

/-- The arguments lead to a trap among the hosts that are known once theirs has been made known. -/
def Trapped (port : UInt16) (a : Arguments) (k : KnownHosts) : Prop :=
  (∀ address, a.add = some address → Target.isReadable port address = true) ∧
    LeadsToTrap port a (a.knowing k)

theorem not_leadsToTrap_of_address {address : String} (given : a.address = some address) :
    ¬ LeadsToTrap port a k := by
  rintro ⟨i, known, found, -⟩
  have none : a.address = none := (HostRequest.resolve_eq_known.mp found).1
  rw [given] at none
  cases none

theorem leadsToTrap_iff {i : Nat} {address : String}
    (found : HostRequest.resolve ⟨a.address, a.target⟩ k = .known i address) :
    LeadsToTrap port a k ↔ k.Traps port i := by
  constructor
  · rintro ⟨j, other, same, traps⟩
    obtain ⟨rfl, -⟩ := HostChoice.known.inj (found.symm.trans same)
    exact traps
  · exact fun traps => ⟨i, address, found, traps⟩

theorem choose_movesWell_iff (room : l.hosts.addresses.length + 1 ≤ UInt64.size) :
    KnownHosts.MovesWell s.defaultPort l.hosts (choose a s l).hosts ↔
      ¬ LeadsToTrap s.defaultPort a l.hosts := by
  have choice := choice a s l
  generalize choose a s l = l' at choice
  cases choice with
  | refused given bad =>
    exact iff_of_true (KnownHosts.movesWell_of_same rfl) (not_leadsToTrap_of_address given)
  | @direct address target given good =>
    rw [(openHost_frame _ _ _ _ _).1]
    exact iff_of_true (KnownHosts.movesWell_adding room (Target.isReadable_of_ok good))
      (not_leadsToTrap_of_address given)
  | @known i address found =>
    rw [(openHost_frame _ _ _ _ _).1, leadsToTrap_iff found]
    by_cases same : l.hosts.selected.toNat = i
    · rw [if_pos same]
      exact iff_of_true (KnownHosts.movesWell_of_same rfl) fun traps => traps.1 same.symm
    · rw [if_neg same]
      exact KnownHosts.movesWell_selecting_iff (Nat.le_of_lt room)
  | missing complaint none =>
    refine iff_of_true (KnownHosts.movesWell_of_same rfl) ?_
    rintro ⟨i, address, found, -⟩
    exact none i address found

theorem addAndChoose_movesWell_iff (room : l.hosts.addresses.length + 2 ≤ UInt64.size) :
    KnownHosts.MovesWell s.defaultPort l.hosts (addAndChoose a s l).hosts ↔
      ¬ Trapped s.defaultPort a l.hosts := by
  have addition := addition a s l
  generalize addAndChoose a s l = l' at addition
  cases addition with
  | @refused address e given bad =>
    refine iff_of_true (KnownHosts.movesWell_of_same rfl) fun trapped => ?_
    have good := trapped.1 address given
    rw [Target.isReadable_of_error bad] at good
    cases good
  | @added address target given good =>
    have space : (l.adding address).hosts.addresses.length + 1 ≤ UInt64.size :=
      Nat.le_trans (Nat.succ_le_succ (l.hosts.length_add_le address)) room
    have known : a.knowing l.hosts = (l.hosts.add address).2 := by
      simp [Arguments.knowing, given]
    have still : (l.adding address).hosts.selected = l.hosts.selected :=
      l.hosts.add_selected address
    rw [← KnownHosts.movesWell_of_selected still, choose_movesWell_iff space, Trapped, known]
    have read (other : String) (same : a.add = some other) :
        Target.isReadable s.defaultPort other = true := by
      obtain rfl : address = other := Option.some.inj (given.symm.trans same)
      exact Target.isReadable_of_ok good
    exact not_congr (and_iff_right read).symm
  | none given =>
    have space : l.hosts.addresses.length + 1 ≤ UInt64.size := by omega
    rw [choose_movesWell_iff space, Trapped]
    simp [Arguments.knowing, given]

/-- A launch that has printed nothing and ends over an address that is no good. -/
def EndsInvalid (l : Launch) : Prop :=
  ∃ c address e, c.output = "" ∧ l.screen = Screen.fail (invalidHost address) e c

theorem dryRun_output (index : Nat) (target : Target) (l : Launch) :
    (l.dryRun index target).screen.output ≠ "" := by
  unfold dryRun
  cases target.base with
  | error e => simp [print, fail, Screen.fail, Screen.complain, Screen.printLine, Screen.print]
  | ok base =>
    cases target.terminal with
    | error e => simp [print, fail, Screen.fail, Screen.complain, Screen.printLine, Screen.print]
    | ok url => simp [print, finish, Screen.finish, Screen.printLine, Screen.print]

theorem not_endsInvalid_openHost {i : Nat} {address : String} {target : Target}
    (running : l.screen.ended = none) (good : Target.parse address s.defaultPort = .ok target) :
    ¬ EndsInvalid (openHost a s i address l) := by
  rintro ⟨c, other, e, blank, same⟩
  simp only [openHost, good] at same
  by_cases dry : a.dryRun
  · rw [if_pos dry] at same
    apply dryRun_output i target l
    rw [same]
    exact blank
  · rw [if_neg dry] at same
    rw [show l.screen = _ from same] at running
    cases running

/-- When a launch ends over an address that is no good, a selection that moved well has not moved.
-/
theorem choose_invalid (running : l.screen.ended = none) (invalid : EndsInvalid (choose a s l))
    (room : l.hosts.addresses.length ≤ UInt64.size)
    (well : KnownHosts.MovesWell s.defaultPort l.hosts (choose a s l).hosts) :
    (choose a s l).hosts.selected = l.hosts.selected := by
  have choice := choice a s l
  generalize choose a s l = l' at choice invalid well
  cases choice with
  | refused given bad => rfl
  | direct given good => exact absurd invalid (not_endsInvalid_openHost running good)
  | @known i address found =>
    rw [(openHost_frame _ _ _ _ _).1] at well ⊢
    by_cases same : l.hosts.selected.toNat = i
    · rw [if_pos same]
    · rw [if_neg same] at well invalid
      cases parsed : Target.parse address s.defaultPort with
      | ok target => exact absurd invalid (not_endsInvalid_openHost running parsed)
      | error e =>
        have traps : l.hosts.Traps s.defaultPort i := ⟨Ne.symm same, address,
          HostRequest.address?_of_resolve found, Target.isReadable_of_error parsed⟩
        exact absurd traps ((KnownHosts.movesWell_selecting_iff room).mp well)
  | missing complaint none =>
    obtain ⟨c, other, e, -, same⟩ := invalid
    cases congrArg Screen.ended same

theorem addAndChoose_invalid (running : l.screen.ended = none)
    (invalid : EndsInvalid (addAndChoose a s l))
    (room : l.hosts.addresses.length + 1 ≤ UInt64.size)
    (well : KnownHosts.MovesWell s.defaultPort l.hosts (addAndChoose a s l).hosts) :
    (addAndChoose a s l).hosts.selected = l.hosts.selected := by
  have addition := addition a s l
  generalize addAndChoose a s l = l' at addition invalid well
  cases addition with
  | refused given bad => rfl
  | @added address target given good =>
    have still : (l.adding address).hosts.selected = l.hosts.selected :=
      l.hosts.add_selected address
    have space : (l.adding address).hosts.addresses.length ≤ UInt64.size :=
      Nat.le_trans (l.hosts.length_add_le address) room
    rw [← still]
    exact choose_invalid running invalid space ((KnownHosts.movesWell_of_selected still).mpr well)
  | none given => exact choose_invalid running invalid (Nat.le_of_lt room) well

def begun (place : HostsPlace) (line : List String) : KnownHosts :=
  match Arguments.parse line with
  | .ok a => if a.demo then {} else place.load
  | .error _ => {}

theorem begun_cases (place : HostsPlace) (line : List String) :
    begun place line = {} ∨ begun place line = place.load := by
  unfold begun
  cases Arguments.parse line with
  | error p => exact Or.inl rfl
  | ok a => by_cases demo : a.demo <;> simp [demo]

def TrappedBy (port : UInt16) (line : List String) (k : KnownHosts) : Prop :=
  ∃ a, Arguments.parse line = .ok a ∧ a.demo = false ∧ Trapped port a k

theorem settings_defaultPort (environment : String → Option String) (a : Arguments) :
    (settings environment a).defaultPort = (Settings.ofEnvironment environment).defaultPort := by
  unfold settings
  cases a.interval <;> rfl

/-- All that a launch can come to. -/
inductive Beginning (environment : String → Option String) (place : HostsPlace)
    (line : List String) : Launch → Prop
  | apart (screen : Screen) (mode : Option Mode) : begun place line = {} →
      (∀ a, Arguments.parse line = .ok a → a.demo = true) →
      Beginning environment place line { place, screen, mode }
  | chosen {a : Arguments} : Arguments.parse line = .ok a → a.demo = false →
      begun place line = place.load → Beginning environment place line
        (addAndChoose a (settings environment a) { place, hosts := place.load })

theorem beginning (environment : String → Option String) (place : HostsPlace)
    (line : List String) :
    Beginning environment place line (ofCommandLine environment place line) := by
  unfold ofCommandLine
  cases read : Arguments.parse line with
  | error p => exact .apart _ _ (by simp [begun, read]) (by simp [read])
  | ok a =>
    dsimp only
    by_cases demo : a.demo
    · rw [if_pos demo]
      exact .apart _ _ (by simp [begun, read, demo]) (by simpa [read] using demo)
    · rw [if_neg demo]
      exact .chosen read (by simpa using demo) (by simp [begun, read, demo])

section

variable (environment : String → Option String) (place : HostsPlace) (line : List String)

theorem ofCommandLine_keeps :
    let l := ofCommandLine environment place line
    l.hosts = begun place line ∧ l.place = place ∨
      begun place line = place.load ∧ l.place = place.keep l.hosts := by
  intro l
  have beginning : Beginning environment place line l := beginning environment place line
  generalize l = l at beginning
  cases beginning with
  | apart screen mode start other => exact Or.inl ⟨start.symm, rfl⟩
  | @chosen a read real start =>
    rw [start]
    exact (addAndChoose_keeps a (settings environment a) { place, hosts := place.load }).imp_right
      fun kept => ⟨rfl, kept⟩

theorem ofCommandLine_movesWell_iff (room : place.load.addresses.length + 2 ≤ UInt64.size) :
    let port := (Settings.ofEnvironment environment).defaultPort
    KnownHosts.MovesWell port (begun place line) (ofCommandLine environment place line).hosts ↔
      ¬ TrappedBy port line place.load := by
  intro port
  have beginning := beginning environment place line
  generalize ofCommandLine environment place line = l at beginning ⊢
  cases beginning with
  | apart screen mode start other =>
    refine iff_of_true (KnownHosts.movesWell_of_same (by rw [start])) ?_
    rintro ⟨a, read, real, -⟩
    simp [other a read] at real
  | @chosen a read real start =>
    have moves := addAndChoose_movesWell_iff (a := a) (s := settings environment a)
      (l := { place, hosts := place.load }) room
    rw [start, show port = _ from (settings_defaultPort environment a).symm]
    refine moves.trans (not_congr ⟨fun trapped => ⟨a, read, real, trapped⟩, ?_⟩)
    rintro ⟨b, same, -, trapped⟩
    obtain rfl : a = b := Except.ok.inj (read.symm.trans same)
    exact trapped

theorem ofCommandLine_length_le :
    (ofCommandLine environment place line).hosts.addresses.length ≤
      place.load.addresses.length + 2 := by
  have beginning := beginning environment place line
  generalize ofCommandLine environment place line = l at beginning
  cases beginning with
  | apart screen mode start other => exact Nat.zero_le _
  | @chosen a read real start =>
    exact addAndChoose_length_le a (settings environment a) { place, hosts := place.load }

theorem ofCommandLine_invalid (room : place.load.addresses.length + 1 ≤ UInt64.size) :
    let l := ofCommandLine environment place line
    EndsInvalid l → KnownHosts.MovesWell (Settings.ofEnvironment environment).defaultPort
      (begun place line) l.hosts → l.hosts.selected = (begun place line).selected := by
  intro l invalid well
  have beginning : Beginning environment place line l := beginning environment place line
  generalize l = l at beginning invalid well ⊢
  cases beginning with
  | apart screen mode start other => rw [start]
  | @chosen a read real start =>
    rw [← settings_defaultPort environment a] at well
    rw [start] at well ⊢
    exact addAndChoose_invalid rfl invalid room well

end

end Launch

end HostWatch
