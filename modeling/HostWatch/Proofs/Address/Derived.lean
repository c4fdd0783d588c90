import HostWatch.Proofs.Address.Ports

namespace HostWatch

namespace Address

def Host.ofKind (kind : SchemeKind) (cs : List Char) : Except Fault Host :=
  if kind.isSpecial then Host.special cs else Host.other cs

section Reading

variable {kind : SchemeKind} {cs rest : List Char} {a : Authority} {u : Url} {host : Host}

theorem hostSpan_begins (kind : SchemeKind) (inBrackets : Bool) (cs : List Char) :
    Url.hostSpan kind inBrackets cs <+: cs := by
  induction cs generalizing inBrackets with
  | nil => exact List.prefix_refl _
  | cons c cs ih =>
    unfold Url.hostSpan
    split
    · exact List.nil_prefix
    · exact (List.prefix_cons_inj c).mpr (ih _)

theorem readUserinfo_suffix {user : String} (read : Url.readUserinfo kind cs = .ok (user, rest)) :
    rest <:+ cs := by
  unfold Url.readUserinfo at read
  dsimp only at read
  split at read
  · obtain ⟨-, rfl⟩ := Prod.mk.inj (Except.ok.inj read)
    exact List.suffix_refl _
  · split at read
    · split at read
      · cases read
      · obtain ⟨-, rfl⟩ := Prod.mk.inj (Except.ok.inj read)
        exact List.drop_suffix _ _
    · obtain ⟨-, rfl⟩ := Prod.mk.inj (Except.ok.inj read)
      exact List.drop_suffix _ _

/-- What follows a host: its port, if there is one, and the rest of the address. -/
def Url.afterHost (kind : SchemeKind) (user : String) (host : Host) :
    List Char → Except Fault (Authority × List Char)
  | ':' :: cs =>
    if host.isEmpty then .error .emptyHost
    else (readPort cs).map fun (n, cs) => (⟨user, host, keptPort kind n⟩, cs)
  | cs =>
    if host.isEmpty && !user.isEmpty then .error .emptyHost else .ok (⟨user, host, none⟩, cs)

theorem readAuthority_eq (kind : SchemeKind) (cs : List Char) : Url.readAuthority kind cs =
    (Url.readUserinfo kind cs).bind fun (user, cs) =>
      if kind.isSpecial && (Url.hostSpan kind false cs).isEmpty then .error .emptyHost
      else (Host.ofKind kind (Url.hostSpan kind false cs)).bind fun host =>
        Url.afterHost kind user host (cs.drop (Url.hostSpan kind false cs).length) := by
  have after (user : String) (host : Host) (cs : List Char) : Url.afterHost kind user host cs = do
      match cs with
      | ':' :: cs =>
        if host.isEmpty then throw .emptyHost
        let (n, cs) ← Url.readPort cs
        return (⟨user, host, Url.keptPort kind n⟩, cs)
      | cs =>
        if host.isEmpty && !user.isEmpty then throw .emptyHost
        return (⟨user, host, none⟩, cs) := by
    unfold Url.afterHost
    split
    next cs =>
      dsimp only
      split
      · rfl
      · cases Url.readPort cs <;> rfl
    next =>
      split
      · rfl
      · rfl
  simp only [after]
  unfold Url.readAuthority Host.ofKind
  cases Url.readUserinfo kind cs with
  | error fault => rfl
  | ok q =>
    obtain ⟨user, cs⟩ := q
    by_cases none : (kind.isSpecial && (Url.hostSpan kind false cs).isEmpty) = true
    · simp only [bind, Except.bind, none, if_true]
      rfl
    · by_cases special : kind.isSpecial = true
      · simp only [bind, Except.bind, special, if_true]
        rfl
      · simp only [bind, Except.bind, special]
        rfl

theorem afterHost_host {user : String} (read : Url.afterHost kind user host cs = .ok (a, rest)) :
    a.host = host := by
  unfold Url.afterHost at read
  split at read
  next cs =>
    split at read
    · cases read
    · cases port : Url.readPort cs with
      | error fault =>
        rw [port] at read
        cases read
      | ok q =>
        rw [port] at read
        cases read
        rfl
  next =>
    split at read
    · cases read
    · cases read
      rfl

theorem readAuthority_host (read : Url.readAuthority kind cs = .ok (a, rest)) :
    ∃ span, span ⊆ cs ∧ Host.ofKind kind span = .ok a.host := by
  rw [readAuthority_eq] at read
  cases user : Url.readUserinfo kind cs with
  | error fault =>
    rw [user] at read
    cases read
  | ok q =>
    obtain ⟨user, after⟩ := q
    have within : Url.hostSpan kind false after ⊆ cs :=
      List.Subset.trans (hostSpan_begins kind false after).subset (readUserinfo_suffix ‹_›).subset
    rw [‹Url.readUserinfo kind cs = _›] at read
    simp only [Except.bind] at read
    split at read
    · cases read
    · cases named : Host.ofKind kind (Url.hostSpan kind false after) with
      | error fault =>
        rw [named] at read
        cases read
      | ok host =>
        rw [named] at read
        exact ⟨_, within, afterHost_host read ▸ named⟩

theorem host?_eq_some (named : u.host? = some host) :
    host.isEmpty = false ∧ ∃ a, u.authority = some a ∧ a.host = host := by
  unfold Url.host? at named
  split at named
  next a found =>
    split at named
    · cases named
    next some_ =>
      cases named
      exact ⟨Bool.eq_false_iff.mpr some_, a, found, rfl⟩
  next => cases named

theorem parseFile_host (read : Url.parseFile cs = .ok u) (named : u.host? = some host) :
    u.scheme = "file" ∧ ∃ span, span ⊆ cs ∧ Host.special span = .ok host := by
  have nobody {scheme : String} {path : List Char → String} {cs : List Char}
      (named : (Url.finish .file scheme none path cs).host? = some host) : False := nomatch named
  unfold Url.parseFile at read
  dsimp only at read
  split at read
  next x y after =>
    split at read
    · split at read
      · cases read
        exact (nobody named).elim
      split at read
      · cases read
        exact (nobody named).elim
      have within : after.takeWhile (fun c => !Url.endsAuthority .file c) ⊆ x :: y :: after :=
        List.Subset.trans (List.takeWhile_subset _)
          (List.Subset.trans (List.subset_cons_self y after) (List.subset_cons_self x _))
      cases found : Host.special (after.takeWhile fun c => !Url.endsAuthority .file c) with
      | error fault =>
        rw [found] at read
        cases read
      | ok own =>
        rw [found] at read
        obtain ⟨-, a, kept, rfl⟩ := host?_eq_some named
        have same := Except.ok.inj read
        rw [← same] at kept ⊢
        refine ⟨rfl, _, within, ?_⟩
        change (if _ then none else some (⟨"", own, none⟩ : Authority)) = some a at kept
        split at kept
        · cases kept
        · cases kept
          exact found
    · split at read
      · cases read
        exact (nobody named).elim
      · cases read
        exact (nobody named).elim
  next =>
    cases read
    exact (nobody named).elim
  next =>
    cases read
    exact (nobody named).elim

theorem scheme?_suffix {scheme : String} (found : Url.scheme? cs = some (scheme, rest)) :
    rest <:+ cs := by
  unfold Url.scheme? at found
  dsimp only at found
  split at found
  next after _ left =>
    split at found
    · cases found
      exact (List.suffix_cons ':' rest).trans (left ▸ List.drop_suffix _ _)
    · cases found
  next => cases found

theorem eq_file {scheme : String} (file : SchemeKind.of scheme = .file) : scheme = "file" := by
  unfold SchemeKind.of at file
  split at file
  next same => exact same
  next =>
    split at file
    · cases file
    split at file
    · cases file
    split at file
    · cases file
    · cases file

/-- The host of an address is read of some of its characters, in the way of its scheme. -/
theorem parse_host {s : String} (read : Url.parse s = .ok u) (named : u.host? = some host) :
    (∃ rest, Url.scheme? (Url.significant s) = some (u.scheme, rest)) ∧
      ∃ span, span ⊆ Url.significant s ∧ Host.ofKind (.of u.scheme) span = .ok host := by
  have authority {scheme : String} {cs : List Char} {path : List Char → String}
      (read : ((Url.readAuthority (.of scheme) cs).bind fun q =>
        .ok (Url.finish (.of scheme) scheme (some q.1) path q.2)) = .ok u) :
      u.scheme = scheme ∧ ∃ span, span ⊆ cs ∧ Host.ofKind (.of scheme) span = .ok host := by
    cases found : Url.readAuthority (.of scheme) cs with
    | error fault =>
      rw [found] at read
      cases read
    | ok q =>
      obtain ⟨a, rest⟩ := q
      rw [found] at read
      obtain ⟨-, a', kept, rfl⟩ := host?_eq_some named
      obtain rfl := Except.ok.inj read
      obtain rfl := Option.some.inj kept
      exact ⟨rfl, readAuthority_host found⟩
  unfold Url.parse at read
  split at read
  next => cases read
  next scheme cs begins =>
    have within : cs ⊆ Url.significant s := (scheme?_suffix begins).subset
    dsimp only at read
    split at read
    next file =>
      obtain ⟨same, span, mem, found⟩ := parseFile_host read named
      rw [same, begins, eq_file file]
      exact ⟨⟨cs, rfl⟩, span, List.Subset.trans mem within, found⟩
    next =>
      obtain ⟨same, span, mem, found⟩ := authority read
      rw [same]
      exact ⟨⟨cs, begins⟩, span,
        List.Subset.trans mem (List.Subset.trans (List.dropWhile_suffix _).subset within), found⟩
    next =>
      split at read
      next after =>
        obtain ⟨same, span, mem, found⟩ := authority read
        have inner : after ⊆ '/' :: '/' :: after := List.subset_append_right ['/', '/'] after
        rw [same]
        exact ⟨⟨_, begins⟩, span, List.Subset.trans mem (List.Subset.trans inner within), found⟩
      next =>
        cases read
        cases named
      next =>
        cases read
        cases named

end Reading

namespace Host

variable {cs : List Char} {c : Char} {host : Host} {h : String}

theorem mem_encode {set : Char → Bool} (mem : c ∈ Percent.encode set cs) :
    (c ∈ cs ∧ set c = false) ∨ c = '%' ∨ ∃ d < 16, c = (Nat.digitChar d).toUpper := by
  obtain ⟨e, from_, mem⟩ := List.mem_flatMap.mp mem
  split at mem
  · obtain ⟨b, -, mem⟩ := List.mem_flatMap.mp mem
    have small := b.toNat_lt
    simp only [Number.upperHex, List.mem_cons, List.not_mem_nil, or_false] at mem
    rcases mem with rfl | rfl | rfl
    · exact Or.inr (Or.inl rfl)
    · exact Or.inr (Or.inr ⟨_, by omega, rfl⟩)
    · exact Or.inr (Or.inr ⟨_, by omega, rfl⟩)
  next free =>
    obtain rfl := List.mem_singleton.mp mem
    exact Or.inl ⟨from_, Bool.eq_false_iff.mpr free⟩

/-- What stands in the text of a host outside brackets whose scheme is no well-known one. -/
def Loose (c : Char) : Prop :=
  Name.isAscii c ∧ isForbidden c = false ∧ Percent.isControl c = false

theorem Loose.plain (loose : Loose c) : ¬ Text.isBlank c ∧ ¬ isControl c ∧
    c ∉ ['/', '\\', '?', '#', '@', ':', '['] := by
  obtain ⟨ascii, free⟩ := loose
  revert free
  refine Name.of_isAscii ascii ?_
  decide

theorem other_cases (read : other cs = .ok host) :
    special cs = .ok host ∨ ∃ written, host = .name written ∧ ∀ c ∈ written.toList, Loose c := by
  unfold other at read
  split at read
  next => exact Or.inl read
  next =>
    split at read
    · cases read
    next free =>
      cases read
      refine Or.inr ⟨_, rfl, fun c mem => ?_⟩
      rw [String.toList_ofList] at mem
      have digits : ∀ d < 16, Name.isAscii (Nat.digitChar d).toUpper ∧
          isForbidden (Nat.digitChar d).toUpper = false ∧
          Percent.isControl (Nat.digitChar d).toUpper = false := by decide
      rcases mem_encode mem with ⟨own, plain⟩ | rfl | ⟨d, digit, rfl⟩
      · have low : c.toNat < 0x80 := by
          simp only [Percent.isControl, Bool.or_eq_false_iff, decide_eq_false_iff_not] at plain
          omega
        have allowed : isForbidden c = false :=
          Bool.eq_false_iff.mpr fun bad => free (List.any_eq_true.mpr ⟨c, own, bad⟩)
        exact ⟨decide_eq_true low, allowed, plain⟩
      · exact ⟨by decide, by decide, by decide⟩
      · exact digits d digit

theorem bare_other (read : other cs = .ok host) (some_ : host.isEmpty = false) :
    Bare host.text.toList ∧ host.text.toList ≠ [] := by
  rcases other_cases read with own | ⟨written, rfl, loose⟩
  · exact bare_text own
  · have plain := fun c mem => (loose c mem).plain
    refine ⟨⟨fun c mem => ?_, Or.inl ⟨fun mem => ?_, fun mem => ?_⟩⟩, fun none => ?_⟩
    · obtain ⟨blank, control, other⟩ := plain c mem
      exact ⟨blank, control, fun mem => other (List.mem_append_left [':', '['] mem)⟩
    · exact absurd (plain _ mem).2.2 (by decide)
    · exact absurd (plain _ mem).2.2 (by decide)
    · obtain rfl : written = "" := String.toList_eq_nil_iff.mp none
      cases some_

/-- A host text in written form: a literal address, or a name that is written as it stands. -/
def Written (h : String) : Prop :=
  (∃ pieces : List UInt16, pieces.length = 8 ∧ h = (Host.ipv6 pieces).text) ∨
    (∃ address, h = Ipv4.text address) ∨
    (h ≠ "" ∧ Name.ofChars? h.toList = some h.toList ∧ Ipv4.endsInNumber h.toList = false)

theorem written_iff : (∃ host, special h.toList = .ok host ∧ host.text = h) ↔ Written h := by
  constructor
  · rintro ⟨host, read, rfl⟩
    rcases special_cases read with
      ⟨pieces, eight, rfl⟩ | ⟨address, rfl⟩ | ⟨name, written, bytes, found, some_, name_, rfl⟩
    · exact Or.inl ⟨pieces, eight, rfl⟩
    · exact Or.inr (Or.inl ⟨address, rfl⟩)
    · rw [toList_name] at bytes
      have solid : ∀ c ∈ written, Solid c := fun c => Name.mem_ofChars? found
      have plain : '%' ∉ written := fun mem => absurd (solid _ mem).plain.2.2 (by decide)
      rw [decode_plain plain, Text.Utf8.strict?_encode] at bytes
      obtain rfl := Option.some.inj bytes
      refine Or.inr (Or.inr ⟨fun none => some_ ?_, ?_, ?_⟩)
      · rw [← toList_name written, none]
        rfl
      · rwa [toList_name]
      · rwa [toList_name]
  · rintro (⟨pieces, eight, rfl⟩ | ⟨address, rfl⟩ | ⟨some_, same, name_⟩)
    · exact ⟨_, special_ipv6 eight, rfl⟩
    · exact ⟨_, special_ipv4 address, rfl⟩
    · have there : h.toList ≠ [] := fun none => some_ (String.toList_eq_nil_iff.mp none)
      refine ⟨_, special_name (fun c mem => Name.mem_ofChars? same mem) same there name_, ?_⟩
      exact String.ofList_toList

theorem Written.small (written : Written h) :
    (∀ c ∈ h.toList, ¬ c.isUpper) ∧ Name.Short h.toList := by
  rcases written with ⟨pieces, -, rfl⟩ | ⟨address, rfl⟩ | ⟨-, same, -⟩
  · exact ⟨fun c mem => (ipv6_letters mem).1, short_of_not_mem fun mem => (ipv6_letters mem).2 rfl⟩
  · exact ⟨fun c mem => (ipv4_plain mem).2.1, short_of_not_mem fun mem => (ipv4_plain mem).2.2 rfl⟩
  · have ascii := fun c mem => (Name.mem_ofChars? (c := c) same mem).1
    obtain ⟨lower, short⟩ := Name.ofChars?_ascii ascii same
    refine ⟨fun c mem => ?_, short⟩
    rw [lower] at mem
    obtain ⟨d, from_, rfl⟩ := List.mem_map.mp mem
    exact (Name.toLower_ascii (ascii d from_)).2.1

/-- The text of a host that was read in the way of a well-known scheme is in written form if it has
no capitals and none of its labels has grown too long. -/
theorem written_text_iff (read : special cs = .ok host) : Written host.text ↔
    (∀ c ∈ host.text.toList, ¬ c.isUpper) ∧ Name.Short host.text.toList := by
  refine ⟨Written.small, fun ⟨small, short⟩ => ?_⟩
  exact written_iff.mp ⟨host, special_text read small short, rfl⟩

end Host

end Address

namespace Target

open Address

variable {s h : String} {d p : UInt16} {t : Target}

/-- The address that a text is completed to before its host is looked for. -/
def completed (s : String) : String :=
  if Text.occursIn "://".toList (Text.trim s).toList then Text.trim s else "http://" ++ Text.trim s

/-- An address leads to a target under a path. -/
structure Leads (t : Target) (path : String) (u : Url) : Prop where
  host : u.host?.map Host.text = some t.host
  port : reached u = some t.port
  path : u.path = path

/-- Both of the addresses that a target is for are there, and lead to it. -/
def Yields (t : Target) : Prop :=
  (∃ u, t.base = .ok u ∧ Leads t "/" u) ∧ ∃ u, t.terminal = .ok u ∧ Leads t "/terminal/ws" u

theorem completed_host (parsed : parse s d = .ok t) : ∃ u host, Url.parse (completed s) = .ok u ∧
    u.host? = some host ∧ t = ⟨host.text, u.port?.getD d⟩ := by
  unfold parse at parsed
  dsimp only at parsed
  split at parsed
  · cases parsed
  · split at parsed
    next => cases parsed
    next u read =>
      split at parsed
      next => cases parsed
      next host named =>
        cases parsed
        exact ⟨u, host, read, named, rfl⟩

theorem leads_written_iff {scheme path : String} (bare : Bare h.toList) (nonempty : h.toList ≠ [])
    (known : scheme ∈ ["http", "ws"]) (listed : path ∈ ["/", "/terminal/ws"]) :
    (∃ u, (Url.parse (scheme ++ "://" ++ text ⟨h, p⟩ ++ path)).mapError Error.address = .ok u ∧
      Leads ⟨h, p⟩ path u) ↔ Host.Written h := by
  rw [← Host.written_iff]
  constructor
  · rintro ⟨u, found, leads⟩
    obtain ⟨host, read, named, -⟩ := reaches bare nonempty known listed found
    have same := leads.host
    rw [named] at same
    exact ⟨host, read, Option.some.inj same⟩
  · rintro ⟨host, read, same⟩
    have found := (written_eq_ok (p := p) bare nonempty known listed).mpr ⟨host, read, rfl⟩
    obtain ⟨host', read', named, port, under⟩ := reaches bare nonempty known listed found
    rw [read] at read'
    cases read'
    refine ⟨_, found, ?_, port, under⟩
    rw [named, Option.map_some, same]

theorem yields_iff (bare : Bare h.toList) (nonempty : h.toList ≠ []) :
    Yields ⟨h, p⟩ ↔ Host.Written h := by
  have first : "http" ++ "://" = "http://" := rfl
  have second : "ws" ++ "://" = "ws://" := rfl
  have base := leads_written_iff (p := p) bare nonempty (show "http" ∈ ["http", "ws"] by decide)
    (show "/" ∈ ["/", "/terminal/ws"] by decide)
  have terminal := leads_written_iff (p := p) bare nonempty (show "ws" ∈ ["http", "ws"] by decide)
    (show "/terminal/ws" ∈ ["/", "/terminal/ws"] by decide)
  rw [first] at base
  rw [second] at terminal
  exact (and_congr base terminal).trans (and_self_iff)

theorem significant_subset (s : String) : Url.significant s ⊆ s.toList := by
  intro c mem
  have inner := List.mem_reverse.mp (List.mem_of_mem_filter mem)
  exact (List.dropWhile_sublist _).subset
    (List.mem_reverse.mp ((List.dropWhile_sublist _).subset inner))

theorem mem_completed {c : Char} (mem : c ∈ (completed s).toList) :
    c ∈ s.toList ∨ c ∈ "http://".toList := by
  have trimmed {c : Char} (mem : c ∈ (Text.trim s).toList) : c ∈ s.toList := by
    rw [Text.trim, String.toList_ofList, Text.trimChars] at mem
    exact (List.dropWhile_sublist _).subset
      (List.mem_reverse.mp ((List.dropWhile_sublist _).subset (List.mem_reverse.mp mem)))
  unfold completed at mem
  split at mem
  · exact Or.inl (trimmed mem)
  · rw [String.toList_append] at mem
    rcases List.mem_append.mp mem with front | mem
    · exact Or.inr front
    · exact Or.inl (trimmed mem)

theorem scheme_of_bare (plain : Text.occursIn "://".toList (Text.trim s).toList = false)
    {scheme : String} {rest : List Char}
    (found : Url.scheme? (Url.significant (completed s)) = some (scheme, rest)) :
    scheme = "http" := by
  have front : ∀ c ∈ "http://".toList, ¬ (decide (c.toNat ≤ 0x20)) = true :=
    List.all_iff_forall_prop.mp (by decide)
  obtain ⟨tail, -, cut⟩ := trimmed (by decide) front (Text.trim s).toList
  have completed_ : (completed s).toList = "http://".toList ++ (Text.trim s).toList := by
    rw [completed, plain]
    exact String.toList_append
  have whole : "http://".toList.filter (fun c => decide (c ≠ '\t' ∧ c ≠ '\n' ∧ c ≠ '\r')) =
      "http://".toList := by decide
  have significant : Url.significant (completed s) = ("http" ++ "://").toList ++
      tail.filter (fun c => decide (c ≠ '\t' ∧ c ≠ '\n' ∧ c ≠ '\r')) := by
    simp only [Url.significant, completed_, cut, List.filter_append, whole]
    rfl
  rw [significant, (scheme?_web (by decide) _).1] at found
  exact (congrArg Prod.fst (Option.some.inj found)).symm

/-- A target is read of an address with any scheme, and its own addresses are the right ones exactly
if its host is in written form. -/
theorem urls_yielded_iff (parsed : parse s d = .ok t) :
    ∃ u, Url.parse (completed s) = .ok u ∧ u.host?.map Host.text = some t.host ∧
      u.port?.getD d = t.port ∧
      (∀ v, t.base = .ok v → reached v = some t.port ∧ v.path = "/") ∧
      (∀ v, t.terminal = .ok v → reached v = some t.port ∧ v.path = "/terminal/ws") ∧
      (Yields t ↔ Host.Written t.host) ∧
      (SchemeKind.of u.scheme ≠ .other →
        (Yields t ↔ (∀ c ∈ t.host.toList, ¬ c.isUpper) ∧ Name.Short t.host.toList) ∧
          ((∀ c ∈ s.toList, Name.isAscii c ∧ c ≠ '%') → Yields t)) ∧
      (Text.occursIn "://".toList (Text.trim s).toList = false → u.scheme = "http") := by
  obtain ⟨u, host, read, named, rfl⟩ := completed_host parsed
  obtain ⟨⟨rest, begins⟩, span, within, found⟩ := parse_host read named
  obtain ⟨bare, nonempty⟩ : Bare host.text.toList ∧ host.text.toList ≠ [] := by
    unfold Host.ofKind at found
    split at found
    · exact Host.bare_text found
    · exact Host.bare_other found (host?_eq_some named).1
  have yields (p : UInt16) : Yields ⟨host.text, p⟩ ↔ Host.Written host.text :=
    yields_iff bare nonempty
  refine ⟨u, read, by rw [named, Option.map_some], rfl, fun v leads => ?_, fun v leads => ?_,
    yields _, fun known => ?_, fun plain => scheme_of_bare plain begins⟩
  · obtain ⟨-, -, -, port, under⟩ := reaches bare nonempty (show "http" ∈ ["http", "ws"] by decide)
      (show "/" ∈ ["/", "/terminal/ws"] by decide) leads
    exact ⟨port, under⟩
  · obtain ⟨-, -, -, port, under⟩ := reaches bare nonempty (show "ws" ∈ ["http", "ws"] by decide)
      (show "/terminal/ws" ∈ ["/", "/terminal/ws"] by decide) leads
    exact ⟨port, under⟩
  · have special : Host.special span = .ok host := by
      unfold Host.ofKind at found
      rwa [if_pos] at found
      cases kind : SchemeKind.of u.scheme with
      | file => rfl
      | special => rfl
      | other => exact absurd kind known
    refine ⟨(yields _).trans (Host.written_text_iff special), fun ascii => ?_⟩
    refine (yields _).mpr ((Host.written_text_iff special).mpr (Host.small_of_ascii special ?_))
    intro c mem
    rcases mem_completed (significant_subset _ (within mem)) with own | web
    · exact ascii c own
    · have plain : ∀ c ∈ "http://".toList, Name.isAscii c ∧ c ≠ '%' :=
        List.all_iff_forall_prop.mp (by decide)
      exact plain c web

theorem local_name_yields : parse "pi.local:8080" 3000 = .ok ⟨"pi.local", 8080⟩ ∧
    Yields ⟨"pi.local", 8080⟩ := by
  have parsed : parse "pi.local:8080" 3000 = .ok ⟨"pi.local", 8080⟩ := by decide +kernel
  obtain ⟨u, -, -, -, -, -, -, known, bare⟩ := urls_yielded_iff parsed
  have plain : Text.occursIn "://".toList (Text.trim "pi.local:8080").toList = false := by decide
  have web : SchemeKind.of u.scheme ≠ .other := by
    rw [bare plain]
    decide
  have ascii : ∀ c ∈ "pi.local:8080".toList, Name.isAscii c ∧ c ≠ '%' :=
    List.all_iff_forall_prop.mp (by decide)
  exact ⟨parsed, (known web).2 ascii⟩

/-- Of a scheme that is not known a host is taken that no address of the web can have, and one that
such addresses write in another way. -/
theorem foreign_hosts_yield_nothing :
    (parse "foo://a%20b" 3000 = .ok ⟨"a%20b", 3000⟩ ∧
      base ⟨"a%20b", 3000⟩ = .error (.address .badName) ∧
      terminal ⟨"a%20b", 3000⟩ = .error (.address .badName)) ∧
    parse "foo://PI.local" 3000 = .ok ⟨"PI.local", 3000⟩ ∧ ¬ Yields ⟨"PI.local", 3000⟩ := by
  refine ⟨⟨by decide +kernel, by decide +kernel, by decide +kernel⟩, by decide +kernel, ?_⟩
  rintro ⟨⟨u, found, leads⟩, -⟩
  have other : (base ⟨"PI.local", 3000⟩).map (fun u => u.host?.map Host.text) =
      .ok (some "pi.local") := by decide +kernel
  rw [found] at other
  have same : u.host?.map Host.text = some "pi.local" := Except.ok.inj other
  rw [leads.host] at same
  exact absurd same (by decide)

end Target

end HostWatch
