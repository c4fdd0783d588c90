import HostWatch.Program
import HostWatch.Proofs.Hosts.Choosing

namespace HostWatch

namespace KnownHosts

variable {k : KnownHosts} {address : String}

/-- The host that a request chooses is chosen again after it has been selected. -/
theorem resolve_selecting {r : HostRequest} {i : Nat} (chosen : r.resolve k = .known i address) :
    r.resolve (k.selecting i) = .known i address := by
  have known : k.addresses[i]? = some address := HostRequest.address?_of_resolve chosen
  rw [HostRequest.resolve_eq_known] at chosen ⊢
  obtain ⟨given, ⟨index, -⟩ | ⟨index, selection, first⟩⟩ := chosen
  · exact ⟨given, Or.inl ⟨index, by simpa [address?] using known⟩⟩
  · have small : i < UInt64.size := first ▸ (idxOf_selection selection).2
    have inside : i < k.addresses.length := (List.getElem?_eq_some_iff.mp known).1
    have stored : (UInt64.ofNat i).toNat = i := UInt64.toNat_ofNat_of_lt' small
    refine ⟨given, Or.inr ⟨index, ?_, by simpa using first⟩⟩
    rw [selecting_eq, if_pos inside, selection?, address?, stored, known]
    rfl

end KnownHosts

namespace Launch

variable {a : Arguments} {s : Settings}

/-- A launch with the hosts and the file that another one has left. -/
def after (l left : Launch) : Launch := { l with hosts := left.hosts, place := left.place }

theorem choose_again (a : Arguments) (s : Settings) (l : Launch) :
    choose a s (l.after (choose a s l)) = choose a s l := by
  have choice := choice a s l
  generalize eq : choose a s l = l' at choice
  cases choice with
  | refused given bad => exact eq
  | @direct address target given good =>
    let i := (l.hosts.add address).1
    let k := (l.hosts.add address).2.selecting i
    have left : l.after (openHost a s i address (l.taking k)) = l.taking k := by
      rw [after, (openHost_frame _ _ _ _ _).1, (openHost_frame _ _ _ _ _).2]
      rfl
    have known : k.add address = (i, k) := KnownHosts.add_of_prefix (by simp [k])
    rw [left, choose_direct given good]
    change openHost a s (k.add address).1 address
      ((l.taking k).taking ((k.add address).2.selecting (k.add address).1)) = _
    rw [known]
    simp [k, i]
  | @known i address found =>
    by_cases same : l.hosts.selected.toNat = i
    · rw [if_pos same] at eq ⊢
      have left : l.after (openHost a s i address l) = l := by
        rw [after, (openHost_frame _ _ _ _ _).1, (openHost_frame _ _ _ _ _).2]
      rw [left, eq]
    · rw [if_neg same]
      have left : l.after (openHost a s i address (l.taking (l.hosts.selecting i))) =
          l.taking (l.hosts.selecting i) := by
        rw [after, (openHost_frame _ _ _ _ _).1, (openHost_frame _ _ _ _ _).2]
        rfl
      rw [left, choose_known (KnownHosts.resolve_selecting found)]
      simp [taking]
  | missing complaint none => exact eq

theorem addAndChoose_again (a : Arguments) (s : Settings) (l : Launch) :
    addAndChoose a s (l.after (addAndChoose a s l)) = addAndChoose a s l := by
  have addition := addition a s l
  generalize eq : addAndChoose a s l = l' at addition
  cases addition with
  | refused given bad => exact eq
  | none given =>
    have alone (l : Launch) : addAndChoose a s l = choose a s l := by simp [addAndChoose, given]
    rw [alone, choose_again]
  | @added address target given good =>
    have adds (l : Launch) : addAndChoose a s l = choose a s (l.adding address) := by
      simp only [addAndChoose, given, good]
      rfl
    let first := l.adding address
    let left := choose a s first
    have known : left.hosts.add address = ((l.hosts.add address).1, left.hosts) :=
      KnownHosts.add_of_prefix (choose_only_adds a s first)
    have kept : left.place.keep left.hosts = left.place := by
      rcases choose_keeps a s first with ⟨hosts, place⟩ | place
      · rw [hosts, place]
        exact HostsPlace.keep_keep _ _ _
      · rw [place]
        exact HostsPlace.keep_keep _ _ _
    have same : (l.after left).adding address = first.after left := by
      simp only [adding, after, taking, known, kept]
      rfl
    rw [adds, same]
    exact choose_again a s first

/-- A launch that finds the file as an equal launch has left it comes to the same in every respect.
-/
theorem ofCommandLine_again (environment : String → Option String) (place : HostsPlace)
    (line : List String) :
    ofCommandLine environment (ofCommandLine environment place line).place line =
      ofCommandLine environment place line := by
  unfold ofCommandLine
  cases Arguments.parse line with
  | error p => rfl
  | ok a =>
    by_cases demo : a.demo
    · simp [demo]
    simp only [demo, Bool.false_eq_true, ↓reduceIte]
    let s := settings environment a
    let l : Launch := { place, hosts := place.load }
    let left := addAndChoose a s l
    have again : addAndChoose a s (l.after left) = left := addAndChoose_again a s l
    change addAndChoose a s { place := left.place, hosts := left.place.load } = left
    have synced (loaded : left.place.load = left.hosts) :
        addAndChoose a s { place := left.place, hosts := left.place.load } = left := by
      rw [loaded]
      exact again
    rcases addAndChoose_keeps a s l with ⟨hosts, kept⟩ | kept
    · exact synced ((congrArg HostsPlace.load kept).trans hosts.symm)
    · rcases place.keep_cases left.hosts with rfl | loaded
      -- where nothing can be kept the second launch finds just what the first one found
      · rw [show left.place = .blocked from kept]
      · exact synced ((congrArg HostsPlace.load kept).trans loaded)

theorem dryRun_ends (index : Nat) (target : Target) (l : Launch) :
    (l.dryRun index target).mode = l.mode ∧
      (l.dryRun index target).screen.ended.isSome = true := by
  unfold dryRun
  cases target.base with
  | error e => exact ⟨rfl, rfl⟩
  | ok base => cases target.terminal <;> exact ⟨rfl, rfl⟩

theorem choose_ends (dry : a.dryRun = true) (l : Launch) :
    (choose a s l).mode = l.mode ∧ (choose a s l).screen.ended.isSome = true := by
  have opened (i : Nat) (address : String) (l : Launch) :
      (openHost a s i address l).mode = l.mode ∧
        (openHost a s i address l).screen.ended.isSome = true := by
    unfold openHost
    cases Target.parse address s.defaultPort with
    | error e => exact ⟨rfl, rfl⟩
    | ok target =>
      simp only [dry, ↓reduceIte]
      exact dryRun_ends i target l
  have choice := choice a s l
  generalize choose a s l = l' at choice
  cases choice with
  | refused given bad => exact ⟨rfl, rfl⟩
  | direct given good => exact opened _ _ _
  | known found =>
    split
    · exact opened _ _ _
    · exact opened _ _ _
  | missing complaint none => exact ⟨rfl, rfl⟩

theorem addAndChoose_ends (dry : a.dryRun = true) (l : Launch) :
    (addAndChoose a s l).mode = l.mode ∧
      (addAndChoose a s l).screen.ended.isSome = true := by
  have addition := addition a s l
  generalize addAndChoose a s l = l' at addition
  cases addition with
  | refused given bad => exact ⟨rfl, rfl⟩
  | @added address target given good => exact choose_ends dry (l.adding address)
  | none given => exact choose_ends dry l

end Launch

namespace Program

/-- A program that is not to run anything, begun again on the file it has left, prints the same,
ends in the same way and leaves the file byte for byte as it is. -/
theorem dry_run_again (w w' : World) (environment : String → Option String) (place : HostsPlace)
    (line : List String) {a : Arguments} (read : Arguments.parse line = .ok a)
    (dry : a.dryRun = true) (real : a.demo = false) :
    ∃ left screen, screen.ended.isSome = true ∧
      ofCommandLine w environment place line = .ended left screen ∧
      ofCommandLine w' environment left line = .ended left screen := by
  let l := Launch.ofCommandLine environment place line
  have again : Launch.ofCommandLine environment l.place line = l :=
    Launch.ofCommandLine_again environment place line
  have chosen : l = Launch.addAndChoose a (Launch.settings environment a)
      { place, hosts := place.load } := by
    simp [l, Launch.ofCommandLine, read, real]
  obtain ⟨idle, ends⟩ := Launch.addAndChoose_ends (s := Launch.settings environment a) dry
    { place, hosts := place.load }
  rw [← chosen] at idle ends
  refine ⟨l.place, l.screen, ends, ?_, ?_⟩
  · change ofLaunch w _ l = _
    simp [ofLaunch, idle]
  · unfold ofCommandLine
    rw [again]
    simp [ofLaunch, idle]

/-- The file is malformed, one host is made known and another one is given by its address. -/
theorem dry_run_again_after_addition :
    let line := ["pimon", "--add", " pi.local", "--dry-run", "10.0.0.7:8080"]
    let place : HostsPlace := .open (some (Text.Utf8.bytesOf "["))
    let a : Arguments :=
      { address := some "10.0.0.7:8080", add := some " pi.local", dryRun := true }
    Arguments.parse line = .ok a ∧ a.dryRun = true ∧ a.demo = false ∧
      ∃ left screen, screen.ended.isSome = true ∧
        ofCommandLine { network := .unreachable } (fun _ => none) place line = .ended left screen ∧
        ofCommandLine { network := .reachable } (fun _ => none) left line = .ended left screen := by
  intro line place a
  have read : Arguments.parse line = .ok a := by decide
  exact ⟨read, rfl, rfl, dry_run_again _ _ _ place line read rfl rfl⟩

end Program

end HostWatch
