import HostWatch.Proofs.Hosts.Plain

namespace HostWatch

theorem Target.parse_trim (address : String) (port : UInt16) :
    parse (Text.trim address) port = parse address port := by
  simp [parse]

namespace KnownHosts

variable {k : KnownHosts} {address : String}

/-- The address is new, and the selected index is the one at which it becomes known. -/
def Displaced (k : KnownHosts) (address : String) : Prop :=
  k.selected.toNat = k.addresses.length ∧ Text.trim address ∉ k.addresses

theorem selection?_mem (selection : k.selection? = some address) : address ∈ k.addresses :=
  (idxOf_selection selection).1

theorem selection?_add_of_displaced (displaced : k.Displaced address) :
    (k.add address).2.selection? = some (Text.trim address) := by
  obtain ⟨last, new⟩ := displaced
  apply selection?_of_known
  rw [add_eq, if_neg new]
  simp [address?, last]

theorem selection?_add (filled : k.addresses ≠ []) (still : ¬ k.Displaced address) :
    (k.add address).2.selection? = k.selection? := by
  rw [add_eq]
  by_cases mem : Text.trim address ∈ k.addresses
  · rw [if_pos mem]
  · rw [if_neg mem]
    have apart : k.selected.toNat ≠ k.addresses.length := fun last => still ⟨last, mem⟩
    have first : (k.addresses ++ [Text.trim address]).head? = k.addresses.head? :=
      List.head?_append_of_ne_nil _ filled
    have there : (k.addresses ++ [Text.trim address])[k.selected.toNat]? =
        k.addresses[k.selected.toNat]? := by
      by_cases inside : k.selected.toNat < k.addresses.length
      · exact List.getElem?_append_left inside
      · -- the index points past the longer list too, so that the first host is still selected
        have past : k.addresses.length + 1 ≤ k.selected.toNat := by omega
        rw [List.getElem?_eq_none (Nat.le_of_succ_le past), List.getElem?_eq_none]
        simpa using past
    simp only [selection?, address?, there, first]

theorem selection?_add_iff (filled : k.addresses ≠ []) (address : String) :
    (k.add address).2.selection? = k.selection? ↔ ¬ k.Displaced address := by
  constructor
  · intro same displaced
    rw [selection?_add_of_displaced displaced] at same
    exact displaced.2 (selection?_mem same.symm)
  · exact selection?_add filled

theorem exists_selection (filled : k.addresses ≠ []) : ∃ address, k.selection? = some address := by
  obtain ⟨first, rest, eq⟩ := List.exists_cons_of_ne_nil filled
  by_cases inside : k.selected.toNat < k.addresses.length
  · exact ⟨_, selection?_of_known (List.getElem?_eq_getElem inside)⟩
  · rw [selection?_of_unknown inside, eq]
    exact ⟨first, rfl⟩

end KnownHosts

namespace HostRequest

variable {k : KnownHosts} {address : String}

theorem resolve_selection (selection : k.selection? = some address) :
    resolve {} k = .known (k.addresses.idxOf address) address :=
  resolve_eq_known.mpr ⟨rfl, Or.inr ⟨rfl, selection, rfl⟩⟩

theorem resolve_add_of_displaced (displaced : k.Displaced address) :
    resolve {} (k.add address).2 = .known k.addresses.length (Text.trim address) := by
  rw [resolve_selection (KnownHosts.selection?_add_of_displaced displaced), KnownHosts.idxOf_add,
    KnownHosts.add_eq]
  exact congrArg (HostChoice.known · _) (List.idxOf_of_notMem displaced.2)

theorem resolve_add (filled : k.addresses ≠ []) (still : ¬ k.Displaced address) :
    resolve {} (k.add address).2 = resolve {} k := by
  obtain ⟨selected, selection⟩ := KnownHosts.exists_selection filled
  have kept : (k.add address).2.selection? = some selected :=
    (KnownHosts.selection?_add filled still).trans selection
  obtain ⟨rest, grown⟩ := k.prefix_add address
  rw [resolve_selection kept, resolve_selection selection, ← grown,
    List.idxOf_append_of_mem (KnownHosts.selection?_mem selection)]

theorem resolve_add_iff (filled : k.addresses ≠ []) (address : String) :
    resolve {} (k.add address).2 = resolve {} k ↔ ¬ k.Displaced address := by
  constructor
  · intro same displaced
    obtain ⟨selected, selection⟩ := KnownHosts.exists_selection filled
    rw [resolve_add_of_displaced displaced, resolve_selection selection] at same
    obtain ⟨-, rfl⟩ := HostChoice.known.inj same
    exact displaced.2 (KnownHosts.selection?_mem selection)
  · exact resolve_add filled

end HostRequest

namespace Launch

variable {a : Arguments} {s : Settings} {l plain : Launch} {told : String}

/-- Two launches that come to the same, but that one has told something first. -/
structure Beside (told : String) (l plain : Launch) : Prop where
  mode : l.mode = plain.mode
  screen : l.screen = { plain.screen with complaints := told ++ plain.screen.complaints }

theorem Beside.print (beside : Beside told l plain) (text : String) :
    Beside told (l.print text) (plain.print text) := by
  refine ⟨beside.mode, ?_⟩
  simp only [Launch.print, beside.screen]
  rfl

theorem Beside.finish (beside : Beside told l plain) : Beside told l.finish plain.finish := by
  refine ⟨beside.mode, ?_⟩
  simp only [Launch.finish, beside.screen]
  rfl

theorem Beside.fail (beside : Beside told l plain) (doing : Option String) (e : Error) :
    Beside told (l.fail doing e) (plain.fail doing e) := by
  refine ⟨beside.mode, ?_⟩
  simp only [Launch.fail, beside.screen]
  simp [Screen.fail, Screen.complain, String.append_assoc]

theorem Beside.dryRun (beside : Beside told l plain) (index : Nat) (target : Target) :
    Beside told (l.dryRun index target) (plain.dryRun index target) := by
  unfold Launch.dryRun
  cases target.base with
  | error e => exact (beside.print _).fail none e
  | ok base =>
    cases target.terminal with
    | error e => exact ((beside.print _).print _).fail none e
    | ok url => exact (((beside.print _).print _).print _).finish

theorem Beside.openHost (beside : Beside told l plain) (a : Arguments) (s : Settings)
    (index : Nat) (address : String) :
    Beside told (openHost a s index address l) (openHost a s index address plain) := by
  unfold Launch.openHost
  cases Target.parse address s.defaultPort with
  | error e => exact beside.fail _ e
  | ok target =>
    by_cases dry : a.dryRun
    · simp only [dry, if_true]
      exact beside.dryRun index target
    · simp only [dry, Bool.false_eq_true, if_false]
      exact ⟨rfl, beside.screen⟩

/-- A launch that is not to run anything names the index of its host before anything else. -/
theorem dryRun_names_index (index : Nat) (target : Target) (l : Launch) :
    ∃ rest, (l.dryRun index target).screen.output =
      l.screen.output ++ "target " ++ toString index ++ ": " ++ rest := by
  let named := l.screen.output ++ "target " ++ toString index ++ ": "
  have printed (rest line : String) (l : Launch) (so : l.screen.output = named ++ rest) :
      (l.print line).screen.output = named ++ (rest ++ line ++ "\n") := by
    simp [print, Screen.printLine, Screen.print, so, String.append_assoc]
  let first := l.print ("target " ++ toString index ++ ": " ++ target.text)
  have begun : first.screen.output = named ++ (target.text ++ "\n") := by
    simp [first, named, print, Screen.printLine, Screen.print, String.append_assoc]
  unfold dryRun
  cases target.base with
  | error e => exact ⟨_, begun⟩
  | ok base =>
    have second := printed _ ("http: " ++ base.text) first begun
    cases target.terminal with
    | error e => exact ⟨_, second⟩
    | ok url => exact ⟨_, printed _ ("terminal: " ++ url.text) _ second⟩

theorem index_named_once {m n : Nat} {rest rest' : String}
    (same : toString m ++ ": " ++ rest = toString n ++ ": " ++ rest') : m = n := by
  have chars := congrArg String.toList same
  simp only [String.toList_append, Nat.toString_eq_ofList_toDigits, String.toList_ofList,
    List.append_assoc] at chars
  have digits (n : Nat) (cs : List Char) :
      (Nat.toDigits 10 n ++ (": ".toList ++ cs)).takeWhile Char.isDigit = Nat.toDigits 10 n := by
    rw [List.takeWhile_append_of_pos]
    · exact List.append_nil _
    · intro c mem
      exact Nat.isDigit_of_mem_toDigits (by decide) (by decide) mem
  have written : Nat.toDigits 10 m = Nat.toDigits 10 n := by
    rw [← digits m rest.toList, ← digits n rest'.toList, chars]
  rw [← @Nat.ofDigitChars_ten_toDigits m, written, Nat.ofDigitChars_ten_toDigits]

theorem openHost_names_index {address : String} {target : Target} (dry : a.dryRun = true)
    (index : Nat) (good : Target.parse address s.defaultPort = .ok target)
    (blank : l.screen.output = "") :
    ∃ rest, (openHost a s index address l).screen.output =
      "target " ++ (toString index ++ ": " ++ rest) := by
  obtain ⟨rest, printed⟩ := dryRun_names_index index target l
  refine ⟨rest, ?_⟩
  simp only [openHost, good, dry, if_true, printed, blank, String.empty_append,
    String.append_assoc]

/-- A launch that is not to run anything prints a host's index, or nothing if the address is no
good. -/
theorem openHost_names_index_or_none (dry : a.dryRun = true) (index : Nat) (address : String)
    (blank : l.screen.output = "") :
    (openHost a s index address l).screen.output = "" ∨
      ∃ rest, (openHost a s index address l).screen.output =
        "target " ++ (toString index ++ ": " ++ rest) := by
  cases parsed : Target.parse address s.defaultPort with
  | error e =>
    left
    rw [openHost, parsed]
    exact blank
  | ok target => exact Or.inr (openHost_names_index dry index parsed blank)

/-- The arguments make a host known, and name none to watch. -/
structure Adds (a : Arguments) (address : String) : Prop where
  add : a.add = some address
  address : a.address = none
  target : a.target = none
  demo : a.demo = false

section

variable {environment : String → Option String} {place : HostsPlace} {line : List String}
  {address : String} {target : Target}

def withoutAddition (a : Arguments) : Arguments := { a with add := none }

theorem ofCommandLine_adds (read : Arguments.parse line = .ok a) (adds : Adds a address)
    (good : Target.parse address (settings environment a).defaultPort = .ok target) :
    ofCommandLine environment place line =
      choose a (settings environment a) (adding address { place, hosts := place.load }) := by
  simp only [ofCommandLine, read, adds.demo, Bool.false_eq_true, if_false, addAndChoose, adds.add,
    good]
  rfl

theorem ofCommandLine_without (read : Arguments.parse line = .ok (withoutAddition a))
    (adds : Adds a address) :
    ofCommandLine environment place line =
      choose (withoutAddition a) (settings environment a) { place, hosts := place.load } := by
  have settled : settings environment (withoutAddition a) = settings environment a := rfl
  simp only [ofCommandLine, read, settled]
  simp only [withoutAddition, adds.demo, Bool.false_eq_true, if_false, addAndChoose]

theorem ofCommandLine_refused {e : Error} (read : Arguments.parse line = .ok a)
    (adds : Adds a address)
    (bad : Target.parse address (settings environment a).defaultPort = .error e) :
    ofCommandLine environment place line =
      fail (invalidHost address) e { place, hosts := place.load } := by
  simp only [ofCommandLine, read, adds.demo, Bool.false_eq_true, if_false, addAndChoose, adds.add,
    bad]

end

def additionNotice (k : KnownHosts) (address : String) : String :=
  "target " ++ toString (k.add address).1 ++ ": " ++ Text.trim address ++ "\n"

section

variable {address : String}

theorem beside_adding (blank : l.screen.complaints = "") :
    Beside (additionNotice l.hosts address) (l.adding address) l := by
  refine ⟨rfl, ?_⟩
  simp only [blank, String.append_empty]
  simp [adding, taking, complain, Screen.complainLine, Screen.complain, blank, additionNotice]

def going (i : Nat) (l : Launch) : Launch :=
  if l.hosts.selected.toNat = i then l else l.taking (l.hosts.selecting i)

theorem going_frame (i : Nat) (l : Launch) :
    (l.going i).mode = l.mode ∧ (l.going i).screen = l.screen := by
  unfold going
  split <;> exact ⟨rfl, rfl⟩

theorem Beside.going (beside : Beside told l plain) (i : Nat) :
    Beside told (l.going i) (plain.going i) := by
  obtain ⟨mode, screen⟩ := l.going_frame i
  obtain ⟨mode', screen'⟩ := plain.going_frame i
  exact ⟨by rw [mode, mode', beside.mode], by rw [screen, screen', beside.screen]⟩

theorem Adds.resolve (adds : Adds a address) (k : KnownHosts) :
    HostRequest.resolve ⟨a.address, a.target⟩ k = HostRequest.resolve {} k := by
  rw [adds.address, adds.target]

theorem choose_without (adds : Adds a address) {selected : String}
    (selection : l.hosts.selection? = some selected) :
    choose (withoutAddition a) s l =
      openHost a s (l.hosts.addresses.idxOf selected) selected
        (l.going (l.hosts.addresses.idxOf selected)) :=
  choose_known (a := withoutAddition a)
    ((adds.resolve l.hosts).trans (HostRequest.resolve_selection selection))

theorem choose_adding (adds : Adds a address) (filled : l.hosts.addresses ≠ [])
    (still : ¬ l.hosts.Displaced address) (blank : l.screen.complaints = "") :
    Beside (additionNotice l.hosts address) (choose a s (l.adding address))
      (choose (withoutAddition a) s l) := by
  obtain ⟨selected, selection⟩ := KnownHosts.exists_selection filled
  have found : HostRequest.resolve ⟨a.address, a.target⟩ (l.adding address).hosts =
      .known (l.hosts.addresses.idxOf selected) selected :=
    (adds.resolve _).trans ((HostRequest.resolve_add filled still).trans
      (HostRequest.resolve_selection selection))
  rw [choose_known found, choose_without adds selection]
  exact ((beside_adding blank).going _).openHost a s _ selected

theorem choose_adding_displaced (adds : Adds a address) (displaced : l.hosts.Displaced address) :
    choose a s (l.adding address) = openHost a s l.hosts.addresses.length (Text.trim address)
      ((l.adding address).going l.hosts.addresses.length) :=
  choose_known ((adds.resolve _).trans (HostRequest.resolve_add_of_displaced displaced))

/-- With a displaced selection a launch that is not to run anything prints something else. -/
theorem choose_adding_prints {target : Target} (adds : Adds a address)
    (filled : l.hosts.addresses ≠ []) (displaced : l.hosts.Displaced address)
    (dry : a.dryRun = true) (good : Target.parse address s.defaultPort = .ok target)
    (blank : l.screen.output = "") :
    (choose a s (l.adding address)).screen.output ≠
      (choose (withoutAddition a) s l).screen.output := by
  obtain ⟨selected, selection⟩ := KnownHosts.exists_selection filled
  have earlier : l.hosts.addresses.idxOf selected < l.hosts.addresses.length :=
    List.idxOf_lt_length_iff.mpr (KnownHosts.selection?_mem selection)
  rw [choose_adding_displaced adds displaced, choose_without adds selection]
  generalize l.hosts.addresses.idxOf selected = i at earlier
  generalize l.hosts.addresses.length = n at earlier
  have trimmed : Target.parse (Text.trim address) s.defaultPort = .ok target :=
    (Target.parse_trim address _).trans good
  have silent : ((l.adding address).going n).screen.output = "" := by
    rw [((l.adding address).going_frame n).2]
    exact blank
  have silent' : (l.going i).screen.output = "" := by rw [(l.going_frame i).2, blank]
  obtain ⟨rest, printed⟩ := openHost_names_index dry n trimmed silent
  rw [printed]
  rcases openHost_names_index_or_none dry i selected silent' with nothing | ⟨rest', printed'⟩
  · rw [nothing]
    simp
  · rw [printed']
    intro same
    have index : n = i := index_named_once (String.append_right_inj _ |>.mp same)
    omega

theorem openHost_mode {i : Nat} {target : Target} (running : a.dryRun = false)
    (good : Target.parse address s.defaultPort = .ok target) :
    (openHost a s i address l).mode =
      some (if a.terminal then .terminal target else .monitor target) := by
  simp [openHost, good, running]

end

/-- A host made known leaves the selected host as it is just where it was known already or the
selected index does not point just past the end of the list. -/
theorem addition_keeps_selection_iff {k : KnownHosts} (filled : k.addresses ≠ [])
    (address : String) :
    ((k.add address).2.selection? = k.selection? ↔ ¬ k.Displaced address) ∧
      (HostRequest.resolve {} (k.add address).2 = HostRequest.resolve {} k ↔
        ¬ k.Displaced address) ∧
      ∀ environment place line line' a, place.load = k → Arguments.parse line = .ok a →
        Arguments.parse line' = .ok (withoutAddition a) → Adds a address →
        let l := ofCommandLine environment place line
        let plain := ofCommandLine environment place line'
        (∀ target, Target.parse address (settings environment a).defaultPort = .ok target →
          (¬ k.Displaced address → Beside (additionNotice k address) l plain) ∧
            (k.Displaced address → a.dryRun = false →
              l.mode = some (if a.terminal then .terminal target else .monitor target)) ∧
            (a.dryRun = true → (l.screen.output = plain.screen.output ↔ ¬ k.Displaced address))) ∧
          ∀ e, Target.parse address (settings environment a).defaultPort = .error e →
            l = fail (invalidHost address) e { place, hosts := k } := by
  refine ⟨KnownHosts.selection?_add_iff filled address,
    HostRequest.resolve_add_iff filled address, ?_⟩
  rintro environment place line line' a rfl read read' adds l plain
  refine ⟨fun target good => ?_, fun e bad => ofCommandLine_refused read adds bad⟩
  let start : Launch := { place, hosts := place.load }
  have launched : l = choose a (settings environment a) (start.adding address) :=
    ofCommandLine_adds read adds good
  have launched' : plain = choose (withoutAddition a) (settings environment a) start :=
    ofCommandLine_without read' adds
  have beside (still : ¬ place.load.Displaced address) :
      Beside (additionNotice place.load address) l plain := by
    rw [launched, launched']
    exact choose_adding (l := start) adds filled still rfl
  refine ⟨beside, fun displaced running => ?_, fun dry => ⟨fun same displaced => ?_, ?_⟩⟩
  · rw [launched, choose_adding_displaced adds displaced]
    exact openHost_mode running ((Target.parse_trim address _).trans good)
  · rw [launched, launched'] at same
    exact choose_adding_prints adds filled displaced dry good rfl same
  · intro still
    rw [(beside still).screen]

/-- The second of two hosts is selected, and a third one is made known. -/
theorem selection_kept_beside_third_host :
    let k : KnownHosts := ⟨["pi.local", "10.0.0.2:4000"], 1, 0⟩
    let place : HostsPlace := .open (some (Text.Utf8.bytesOf k.text))
    let line := ["pimon", "--add", " c.local:9000\n", "--dry-run"]
    let a : Arguments := { add := some " c.local:9000\n", dryRun := true }
    let l := ofCommandLine (fun _ => none) place line
    let plain := ofCommandLine (fun _ => none) place ["pimon", "--dry-run"]
    k.addresses ≠ [] ∧ place.load = k ∧ Arguments.parse line = .ok a ∧
      Arguments.parse ["pimon", "--dry-run"] = .ok (withoutAddition a) ∧
      Adds a " c.local:9000\n" ∧
      Target.parse " c.local:9000\n" (settings (fun _ => none) a).defaultPort =
        .ok ⟨"c.local", 9000⟩ ∧
      (k.add " c.local:9000\n").2.selection? = k.selection? ∧
      Beside "target 2: c.local:9000\n" l plain := by
  intro k place line a l plain
  have filled : k.addresses ≠ [] := by decide
  have loaded : place.load = k := ((HostsPlace.open none).keep_cases k).resolve_left (by simp)
  have read : Arguments.parse line = .ok a := by decide
  have read' : Arguments.parse ["pimon", "--dry-run"] = .ok (withoutAddition a) := by decide
  have adds : Adds a " c.local:9000\n" := ⟨rfl, rfl, rfl, rfl⟩
  have good : Target.parse " c.local:9000\n" (settings (fun _ => none) a).defaultPort =
      .ok ⟨"c.local", 9000⟩ := by decide +kernel
  have still : ¬ k.Displaced " c.local:9000\n" := fun displaced =>
    absurd displaced.1 (by decide)
  obtain ⟨selection, -, launched⟩ := addition_keeps_selection_iff filled " c.local:9000\n"
  refine ⟨filled, loaded, read, read', adds, good, selection.mpr still, ?_⟩
  have notice : additionNotice k " c.local:9000\n" = "target 2: c.local:9000\n" := by decide
  rw [← notice]
  exact ((launched (fun _ => none) place line _ a loaded read read' adds).1 _ good).1 still

/-- The selected index points just past the only host, which is selected for that reason. A second
host that is made known stands there, and is selected and watched instead. -/
theorem added_host_takes_selection :
    let k : KnownHosts := ⟨["a.local"], 1, 0⟩
    let place : HostsPlace := .open (some (Text.Utf8.bytesOf k.text))
    let watched (line : List String) := (ofCommandLine (fun _ => none) place line).mode
    place.load = k ∧ k.selection? = some "a.local" ∧
      (k.add "b.local").2.selection? = some "b.local" ∧
      watched ["pimon"] = some (.monitor ⟨"a.local", 3000⟩) ∧
      watched ["pimon", "--add", "b.local"] = some (.monitor ⟨"b.local", 3000⟩) := by
  intro k place watched
  have loaded : place.load = k := ((HostsPlace.open none).keep_cases k).resolve_left (by simp)
  have plain : Arguments.parse ["pimon"] = .ok {} := by decide
  have adding : Arguments.parse ["pimon", "--add", "b.local"] = .ok { add := some "b.local" } := by
    decide
  refine ⟨loaded, by decide, by decide, ?_, ?_⟩
  · simp only [watched, ofCommandLine, plain, loaded]
    decide +kernel
  · simp only [watched, ofCommandLine, adding, loaded]
    decide +kernel

end Launch

end HostWatch
