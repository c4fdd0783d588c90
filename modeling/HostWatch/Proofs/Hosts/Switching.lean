import HostWatch.Console.Monitor
import HostWatch.Proofs.Hosts.Selection

namespace HostWatch

namespace HostsPlace

variable {p : HostsPlace} {k more : KnownHosts} {port : UInt16}

def Holds (k : KnownHosts) (p : HostsPlace) : Prop := p = .blocked ∨ p.load = k

theorem keep_holds (k : KnownHosts) (p : HostsPlace) : (p.keep k).Holds k := by
  rcases p.keep_cases k with rfl | loaded
  · exact Or.inl rfl
  · exact Or.inr loaded

theorem Holds.movesWell_keep (holds : p.Holds k) (well : KnownHosts.MovesWell port k more) :
    KnownHosts.MovesWell port p.load (p.keep more).load := by
  have blocked : KnownHosts.MovesWell port HostsPlace.blocked.load (keep more .blocked).load :=
    KnownHosts.movesWell_of_same rfl
  rcases holds with rfl | rfl
  · exact blocked
  · rcases p.keep_cases more with rfl | loaded
    · exact blocked
    · rwa [loaded]

end HostsPlace

namespace Monitor

variable {m : Monitor} {i : Nat}

theorem switchTo_eq (i : Nat) (m : Monitor) : (m.switchTo i).2 =
    if i < m.hosts.addresses.length then
      { m with hosts := m.hosts.selecting i, place := m.place.keep (m.hosts.selecting i) }
    else m := by
  unfold switchTo KnownHosts.selecting KnownHosts.select? KnownHosts.address?
  by_cases inside : i < m.hosts.addresses.length <;> simp [inside]

/-- Switching changes nothing just where no host stands at the index, or where the host that does
is selected and kept already. -/
theorem switchTo_still_iff (room : m.hosts.addresses.length ≤ UInt64.size) :
    (m.switchTo i).2 = m ↔ m.hosts.address? i = none ∨
      i = m.hosts.selected.toNat ∧ m.place.keep m.hosts = m.place := by
  rw [switchTo_eq]
  by_cases inside : i < m.hosts.addresses.length
  · have known : m.hosts.address? i ≠ none := by simp [KnownHosts.address?, inside]
    have stored : (UInt64.ofNat i).toNat = i :=
      UInt64.toNat_ofNat_of_lt' (Nat.lt_of_lt_of_le inside room)
    have same : m.hosts.selecting i = m.hosts ↔ i = m.hosts.selected.toNat := by
      rw [KnownHosts.selecting_eq, if_pos inside, ← stored, UInt64.toNat_inj, stored]
      constructor
      · exact fun same => congrArg KnownHosts.selected same
      · exact fun same => by rw [same]
    rw [if_pos inside, or_iff_right known, ← same]
    constructor
    · intro still
      have hosts : m.hosts.selecting i = m.hosts := congrArg Monitor.hosts still
      have place := congrArg Monitor.place still
      dsimp only at place
      exact ⟨hosts, by rwa [hosts] at place⟩
    · rintro ⟨hosts, place⟩
      rw [hosts, place]
  · have unknown : m.hosts.address? i = none := by simpa [KnownHosts.address?] using inside
    rw [if_neg inside]
    exact iff_of_true rfl (Or.inl unknown)

/-- The hosts can be counted, and the file holds them if there are any. -/
structure Sound (m : Monitor) : Prop where
  room : m.hosts.addresses.length ≤ UInt64.size
  held : m.hosts.addresses = [] ∨ m.place.Holds m.hosts

theorem Sound.switchTo (sound : m.Sound) (i : Nat) : (m.switchTo i).2.Sound := by
  rw [switchTo_eq]
  by_cases inside : i < m.hosts.addresses.length
  · rw [if_pos inside]
    exact ⟨by simpa using sound.room, Or.inr (m.place.keep_holds _)⟩
  · rw [if_neg inside]
    exact sound

/-- Switching moves the selection well, in memory and in the file, unless the host traps. -/
theorem Sound.switchTo_movesWell_iff (sound : m.Sound) (port : UInt16) :
    (KnownHosts.MovesWell port m.hosts (m.switchTo i).2.hosts ∧
      KnownHosts.MovesWell port m.place.load (m.switchTo i).2.place.load) ↔
        ¬ m.hosts.Traps port i := by
  rw [← KnownHosts.movesWell_selecting_iff sound.room, switchTo_eq]
  by_cases inside : i < m.hosts.addresses.length
  · rw [if_pos inside]
    refine and_iff_left_of_imp fun well => ?_
    rcases sound.held with none | holds
    · simp [none] at inside
    · exact holds.movesWell_keep well
  · rw [if_neg inside, KnownHosts.selecting_eq, if_neg inside]
    have still (k : KnownHosts) : KnownHosts.MovesWell port k k := KnownHosts.movesWell_of_same rfl
    exact iff_of_true ⟨still _, still _⟩ (still _)

def TakesTrap (line : String) (m : Monitor) : Prop :=
  m.canSwitch = true ∧
    ∃ i, Command.ofLine? line = some (.target i) ∧ m.hosts.Traps m.defaultPort i

theorem take_cases (t : Telemetry) (line : String) (m : Monitor) :
    (m.take t line).1 = m ∧ ¬ m.TakesTrap line ∨
      ∃ i, m.canSwitch = true ∧ Command.ofLine? line = some (.target i) ∧
        (m.take t line).1 = (m.switchTo i).2 := by
  unfold take TakesTrap
  cases Command.ofLine? line with
  | none => simp
  | some c =>
    cases c with
    | target i =>
      by_cases can : m.canSwitch
      · right
        refine ⟨i, can, rfl, ?_⟩
        simp only [obey, can, ↓reduceIte]
        rcases m.switchTo i with ⟨target | message, m'⟩ <;> rfl
      · left
        simp [obey, can]
    | _ => simp [obey]

def after (typed : List (Telemetry × String)) (m : Monitor) : Monitor :=
  typed.foldl (fun m l => (m.take l.1 l.2).1) m

theorem Sound.take (sound : m.Sound) (t : Telemetry) (line : String) :
    (m.take t line).1.Sound ∧ (m.take t line).1.defaultPort = m.defaultPort := by
  rcases take_cases t line m with ⟨same, -⟩ | ⟨i, -, -, switched⟩
  · rw [same]
    exact ⟨sound, rfl⟩
  · rw [switched]
    refine ⟨sound.switchTo i, ?_⟩
    rw [switchTo_eq]
    split <;> rfl

theorem Sound.after (sound : m.Sound) (typed : List (Telemetry × String)) :
    (m.after typed).Sound ∧ (m.after typed).defaultPort = m.defaultPort := by
  induction typed generalizing m with
  | nil => exact ⟨sound, rfl⟩
  | cons l typed later =>
    obtain ⟨next, port⟩ := sound.take l.1 l.2
    obtain ⟨last, same⟩ := later next
    exact ⟨last, same.trans port⟩

theorem Sound.take_movesWell_iff (sound : m.Sound) (t : Telemetry) (line : String) :
    (KnownHosts.MovesWell m.defaultPort m.hosts (m.take t line).1.hosts ∧
      KnownHosts.MovesWell m.defaultPort m.place.load (m.take t line).1.place.load) ↔
        ¬ m.TakesTrap line := by
  rcases take_cases t line m with ⟨same, free⟩ | ⟨i, can, asked, switched⟩
  · rw [same]
    exact iff_of_true ⟨KnownHosts.movesWell_of_same rfl, KnownHosts.movesWell_of_same rfl⟩ free
  · rw [switched, sound.switchTo_movesWell_iff, TakesTrap, asked]
    simp [can]

end Monitor

namespace Launch

section

variable (environment : String → Option String) (place : HostsPlace) (line : List String)

/-- After a launch the file holds what it held before, or the hosts that the launch has come to. -/
theorem ofCommandLine_file :
    let l := ofCommandLine environment place line
    l.place.load = place.load ∨ begun place line = place.load ∧ l.place.load = l.hosts := by
  intro l
  rcases (ofCommandLine_keeps environment place line :
    l.hosts = _ ∧ l.place = _ ∨ _ ∧ l.place = _) with ⟨-, same⟩ | ⟨loaded, kept⟩
  · exact Or.inl (congrArg HostsPlace.load same)
  · rw [kept]
    rcases place.keep_cases l.hosts with rfl | again
    · exact Or.inl rfl
    · exact Or.inr ⟨loaded, again⟩

theorem ofCommandLine_sound (room : place.load.addresses.length + 2 ≤ UInt64.size) (port : UInt16)
    (canSwitch : Bool) :
    let l := ofCommandLine environment place line
    Monitor.Sound ⟨l.hosts, l.place, port, canSwitch, ""⟩ := by
  intro l
  refine ⟨Nat.le_trans (ofCommandLine_length_le environment place line) room, ?_⟩
  rcases (ofCommandLine_keeps environment place line :
    l.hosts = _ ∧ l.place = _ ∨ _ ∧ l.place = _) with ⟨hosts, same⟩ | ⟨-, kept⟩
  · rcases begun_cases place line with none | loaded
    · exact Or.inl (congrArg KnownHosts.addresses (hosts.trans none))
    · exact Or.inr (Or.inr ((congrArg HostsPlace.load same).trans (hosts.trans loaded).symm))
  · right
    change HostsPlace.Holds l.hosts l.place
    rw [kept]
    exact place.keep_holds l.hosts

end

/-- The selection moves well, in memory and in the file, unless the command line or a typed line
leads to a known host whose address cannot be read. -/
theorem selection_moves_well_iff (environment : String → Option String) (place : HostsPlace)
    (line : List String) (room : place.load.addresses.length + 2 ≤ UInt64.size) :
    let port := (Settings.ofEnvironment environment).defaultPort
    let first := begun place line
    let l := ofCommandLine environment place line
    (KnownHosts.MovesWell port first l.hosts ∧ KnownHosts.MovesWell port place.load l.place.load ↔
        ¬ TrappedBy port line place.load) ∧
      (EndsInvalid l →
        (l.hosts.selected = first.selected ∧ l.place.load.selected = place.load.selected ↔
          ¬ TrappedBy port line place.load)) ∧
      ∀ canSwitch typed, let m := Monitor.after typed ⟨l.hosts, l.place, port, canSwitch, ""⟩
        (∀ t typedLine, let next := (m.take t typedLine).1
          (KnownHosts.MovesWell port m.hosts next.hosts ∧
            KnownHosts.MovesWell port m.place.load next.place.load ↔ ¬ m.TakesTrap typedLine)) ∧
        ∀ i message, (m.switchTo i).1 = .error message →
          ((m.switchTo i).2 = m ↔ m.hosts.address? i = none ∨
            i = m.hosts.selected.toNat ∧ m.place.keep m.hosts = m.place) := by
  intro port first l
  have moves : KnownHosts.MovesWell port first l.hosts ↔ ¬ TrappedBy port line place.load :=
    ofCommandLine_movesWell_iff environment place line room
  have file : l.place.load = place.load ∨ first = place.load ∧ l.place.load = l.hosts :=
    ofCommandLine_file environment place line
  refine ⟨?_, ?_, ?_⟩
  · rw [← moves, and_iff_left_iff_imp]
    intro well
    rcases file with same | ⟨loaded, kept⟩
    · rw [same]
      exact KnownHosts.movesWell_of_same rfl
    · rwa [kept, ← loaded]
  · intro invalid
    rw [← moves]
    constructor
    · exact fun still => KnownHosts.movesWell_of_same still.1
    · intro well
      have still : l.hosts.selected = first.selected :=
        ofCommandLine_invalid environment place line (Nat.le_of_succ_le room) invalid well
      refine ⟨still, ?_⟩
      rcases file with same | ⟨loaded, kept⟩
      · rw [same]
      · rw [kept, ← loaded, still]
  · intro canSwitch typed m
    obtain ⟨sound, same⟩ :=
      (ofCommandLine_sound environment place line room port canSwitch).after typed
    refine ⟨fun t typedLine => ?_, fun i message _ => Monitor.switchTo_still_iff sound.room⟩
    have next := sound.take_movesWell_iff t typedLine
    rw [same] at next
    exact next

/-- One host is made known and another one is given by its address, which is read first. -/
theorem selection_moves_to_given_address :
    let environment : String → Option String := fun _ => none
    let place : HostsPlace := .open none
    let line := ["pimon", "--add", "pi.local", "10.0.0.7:8080"]
    let l := ofCommandLine environment place line
    place.load.addresses.length + 2 ≤ UInt64.size ∧ l.hosts.selected ≠ 0 ∧
      ∃ address, l.hosts.address? l.hosts.selected.toNat = some address ∧
        Target.isReadable 3000 address = true := by
  intro environment place line l
  have room : place.load.addresses.length + 2 ≤ UInt64.size := by decide
  have moved : l.hosts.selected ≠ 0 := by decide +kernel
  have free : ¬ TrappedBy (Settings.ofEnvironment environment).defaultPort line place.load := by
    rintro ⟨a, read, -, -, trap⟩
    have known : Arguments.parse line =
        .ok { address := some "10.0.0.7:8080", add := some "pi.local" } := by decide
    obtain rfl := Except.ok.inj (known.symm.trans read)
    exact not_leadsToTrap_of_address rfl trap
  obtain ⟨⟨-, well⟩, -⟩ := selection_moves_well_iff environment place line room
  exact ⟨room, moved, (well free).1 moved⟩

/-- A host whose address is empty is selected and kept, by its index on the command line and by a
typed command, and only then its address is read. -/
theorem unreadable_host_stays_selected :
    let k : KnownHosts := ⟨["pi.local", ""], 0, 0⟩
    let place : HostsPlace := .open (some (Text.Utf8.bytesOf k.text))
    let l := ofCommandLine (fun _ => none) place ["pimon", "--target", "1"]
    let switched := Monitor.switchTo 1 ⟨k, place, 3000, true, ""⟩
    place.load.selected = 0 ∧ Target.isReadable 3000 "" = false ∧
      (EndsInvalid l ∧ l.hosts.address? 1 = some "" ∧ l.hosts.selected = 1 ∧
        l.place.load.selected = 1) ∧
      switched.1 = .error "malformed reply: empty host" ∧ switched.2.hosts.selected = 1 ∧
        switched.2.place.load.selected = 1 := by
  intro k place l switched
  have loads (k : KnownHosts) : HostsPlace.load (.open (some (Text.Utf8.bytesOf k.text))) = k :=
    ((HostsPlace.open none).keep_cases k).resolve_left (by simp)
  let after : KnownHosts := { k with selected := 1 }
  have read : Arguments.parse ["pimon", "--target", "1"] = .ok { target := some 1 } := by decide
  have launched : l = Launch.fail (invalidHost "") (.malformed "empty host")
      { place := place.keep after, hosts := after } := by
    simp only [l, ofCommandLine, read, place]
    rw [loads k]
    rfl
  have kept : (place.keep after).load = after := loads after
  refine ⟨?_, by decide, ⟨?_, ?_, ?_, ?_⟩, ?_, ?_, ?_⟩
  · rw [loads k]
  · rw [launched]
    exact ⟨{}, "", .malformed "empty host", rfl, rfl⟩
  · rw [launched]; rfl
  · rw [launched]; rfl
  · rw [launched]
    exact congrArg KnownHosts.selected kept
  · decide
  · rfl
  · exact congrArg KnownHosts.selected kept

end Launch

end HostWatch
