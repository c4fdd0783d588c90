import HostWatch.Proofs.Address.Hosts

namespace HostWatch

theorem Text.occursIn_eq_false {part cs : List Char} {c : Char} (needed : c ∈ part)
    (absent : c ∉ cs) : Text.occursIn part cs = false := by
  have start (cs : List Char) (absent : c ∉ cs) : part.isPrefixOf cs = false := by
    rw [Bool.eq_false_iff]
    intro h
    exact absent ((List.isPrefixOf_iff_prefix.mp h).subset needed)
  induction cs with
  | nil =>
    rw [Text.occursIn, List.isEmpty_eq_false_iff]
    exact List.ne_nil_of_mem needed
  | cons d cs ih =>
    rw [Text.occursIn, start _ absent, ih fun mem => absent (List.mem_cons_of_mem d mem)]
    rfl

theorem isEmpty_eq_false {s : String} (some_ : s.toList ≠ []) : s.isEmpty = false := by
  rw [Bool.eq_false_iff]
  intro none
  rw [String.isEmpty_iff] at none
  subst none
  exact some_ rfl

namespace Target

open Address

/-- The texts that name a host and perhaps a port: these alone, or an address of either scheme with
any path. -/
inductive Names (h : String) (port : Option UInt16) : String → Prop
  | alone {w : List Char} (named : PortText port w) : Names h port (h ++ String.ofList w)
  | address {scheme : String} {w tail : List Char} (known : scheme ∈ ["http", "ws"])
      (named : PortText port w) (tailed : Tail tail) :
      Names h port (scheme ++ "://" ++ h ++ String.ofList (w ++ tail))

theorem names_alone (h : String) : Names h none h := by
  have named : Names h none (h ++ String.ofList []) := .alone rfl
  simpa using named

variable {h s : String} {port : Option UInt16}

theorem parse_of_address {scheme a : String} {w tail : List Char} (bare : Bare h.toList)
    (nonempty : h.toList ≠ []) (some_ : (Text.trim s).isEmpty = false)
    (completed : (if Text.occursIn "://".toList (Text.trim s).toList then Text.trim s
      else "http://" ++ Text.trim s) = a)
    (known : scheme ∈ ["http", "ws"]) (named : PortText port w) (tailed : Tail tail)
    (written : a.toList = (scheme ++ "://").toList ++ (h.toList ++ (w ++ tail))) (d : UInt16) :
    parse s d = match Host.special h.toList with
      | .error fault => .error (.address fault)
      | .ok host => .ok ⟨host.text, (kept port).getD d⟩ := by
  obtain ⟨finish, parts, read⟩ := parse_address known bare nonempty named tailed written
  simp only [parse, some_, Bool.false_eq_true, if_false, completed, read]
  cases special : Host.special h.toList with
  | error fault => rfl
  | ok host =>
    have authority := (parts host).2
    simp only [Except.map, Url.host?, Url.port?, authority, isEmpty_of_special special,
      Bool.false_eq_true, if_false, Option.bind_some]

theorem solid {w : List Char} (bare : Bare h.toList) (named : PortText port w) :
    ∀ c ∈ h.toList ++ w, ¬ Text.isBlank c ∧ c ≠ '/' := by
  intro c mem
  rcases List.mem_append.mp mem with mem | mem
  · obtain ⟨blank, -, plain⟩ := bare.plain c mem
    exact ⟨blank, fun same => plain (by simp [same])⟩
  · rcases named.plain mem with rfl | digit
    · decide
    · refine ⟨fun blank => ?_, ?_⟩
      · have range : 48 ≤ c.toNat ∧ c.toNat ≤ 57 := Char.isDigit_iff_toNat.mp digit
        simp only [Text.isBlank, Bool.or_eq_true, Bool.and_eq_true, decide_eq_true_eq] at blank
        omega
      · rintro rfl
        cases digit

theorem parse_alone {w : List Char} (bare : Bare h.toList) (nonempty : h.toList ≠ [])
    (named : PortText port w) (d : UInt16) :
    parse (h ++ String.ofList w) d = match Host.special h.toList with
      | .error fault => .error (.address fault)
      | .ok host => .ok ⟨host.text, (kept port).getD d⟩ := by
  have front : h.toList ++ w ≠ [] := by simp [nonempty]
  have listed : (h ++ String.ofList w).toList = h.toList ++ w := by
    rw [String.toList_append, String.toList_ofList]
  have whole : Text.trim (h ++ String.ofList w) = h ++ String.ofList w := by
    obtain ⟨tail, within, cut⟩ := trimmed front (fun c mem => (solid bare named c mem).1) []
    rw [List.prefix_nil.mp within, List.append_nil] at cut
    rw [Text.trim, listed, Text.trimChars, cut, String.ofList_append, String.ofList_toList]
  have some_ : (h ++ String.ofList w).isEmpty = false := isEmpty_eq_false (listed ▸ front)
  have plain : Text.occursIn "://".toList (h ++ String.ofList w).toList = false := by
    refine Text.occursIn_eq_false (c := '/') (by decide) fun mem => ?_
    exact (solid bare named '/' (listed ▸ mem)).2 rfl
  have completed : (if Text.occursIn "://".toList (Text.trim (h ++ String.ofList w)).toList then
      Text.trim (h ++ String.ofList w) else "http://" ++ Text.trim (h ++ String.ofList w)) =
      "http://" ++ (h ++ String.ofList w) := by
    rw [whole, plain]
    rfl
  have known : "http" ∈ ["http", "ws"] := by decide
  have tailed : Tail [] := by simp [Tail]
  refine parse_of_address bare nonempty (whole.symm ▸ some_) completed known named tailed ?_ d
  rw [String.toList_append, listed, List.append_nil]
  rfl

theorem parse_whole {scheme : String} {w tail : List Char} (bare : Bare h.toList)
    (nonempty : h.toList ≠ []) (known : scheme ∈ ["http", "ws"]) (named : PortText port w)
    (tailed : Tail tail) (d : UInt16) :
    parse (scheme ++ "://" ++ h ++ String.ofList (w ++ tail)) d =
      match Host.special h.toList with
      | .error fault => .error (.address fault)
      | .ok host => .ok ⟨host.text, (kept port).getD d⟩ := by
  have start : ∀ c ∈ (scheme ++ "://").toList ++ (h.toList ++ w), ¬ Text.isBlank c := by
    intro c mem
    rcases List.mem_append.mp mem with mem | mem
    · have all : ∀ scheme ∈ ["http", "ws"],
          (scheme ++ "://").toList.all fun c => ¬ Text.isBlank c := by decide
      exact List.all_iff_forall_prop.mp (all scheme known) c mem
    · exact (solid bare named c mem).1
  obtain ⟨tail', within, cut⟩ := trimmed (by simp) start tail
  have listed : (scheme ++ "://" ++ h ++ String.ofList (w ++ tail)).toList =
      (scheme ++ "://").toList ++ (h.toList ++ w) ++ tail := by
    simp only [String.toList_append, String.toList_ofList, List.append_assoc]
  have cut' : (Text.trim (scheme ++ "://" ++ h ++ String.ofList (w ++ tail))).toList =
      (scheme ++ "://").toList ++ (h.toList ++ (w ++ tail')) := by
    rw [Text.trim, String.toList_ofList, Text.trimChars, listed, cut, List.append_assoc,
      List.append_assoc]
  have marked : Text.occursIn "://".toList
      (Text.trim (scheme ++ "://" ++ h ++ String.ofList (w ++ tail))).toList = true := by
    rw [cut']
    simp only [List.mem_cons, List.not_mem_nil, or_false] at known
    rcases known with rfl | rfl <;> rfl
  refine parse_of_address bare nonempty ?_ (if_pos marked) known named
    (tailed.of_isPrefix within) cut' d
  exact isEmpty_eq_false (by rw [cut']; simp)

theorem parse_named (bare : Bare h.toList) (nonempty : h.toList ≠ []) (named : Names h port s)
    (d : UInt16) : parse s d = match Host.special h.toList with
      | .error fault => .error (.address fault)
      | .ok host => .ok ⟨host.text, (kept port).getD d⟩ := by
  cases named with
  | alone named => exact parse_alone bare nonempty named d
  | address known named tailed => exact parse_whole bare nonempty known named tailed d

theorem special_of_parse (bare : Bare h.toList) {d : UInt16} {t : Target}
    (accepted : parse h d = .ok t) : h.toList ≠ [] ∧ t.port = d ∧
      ∃ host, Host.special h.toList = .ok host ∧ t.host = host.text := by
  have nonempty : h.toList ≠ [] := by
    intro none
    have empty : h = "" := String.toList_eq_nil_iff.mp none
    subst empty
    cases accepted
  rw [parse_named bare nonempty (names_alone h)] at accepted
  cases special : Host.special h.toList with
  | error fault =>
    rw [special] at accepted
    cases accepted
  | ok host =>
    rw [special] at accepted
    cases accepted
    exact ⟨nonempty, rfl, host, rfl, rfl⟩

theorem portText_toString (p : UInt16) :
    PortText (some p) (':' :: (toString p.toNat).toList) := by
  refine ⟨_, rfl, ?_⟩
  rw [Nat.toString_eq_ofList_toDigits, String.toList_ofList]
  exact ⟨Nat.toDigits_ne_nil, fun d => Nat.isDigit_of_mem_toDigits (by decide) (by decide),
    Nat.ofDigitChars_ten_toDigits⟩

def reached (u : Address.Url) : Option UInt16 :=
  match u.port?, SchemeKind.of u.scheme with
  | some p, _ => some p
  | none, .special p => some p
  | none, _ => none

theorem reached_kept {u : Address.Url} {host : Host} {p : UInt16}
    (known : u.scheme ∈ ["http", "ws"])
    (authority : u.authority = some ⟨"", host, kept (some p)⟩) : reached u = some p := by
  have kind : SchemeKind.of u.scheme = .special 80 := by
    simp only [List.mem_cons, List.not_mem_nil, or_false] at known
    rcases known with same | same <;> rw [same] <;> rfl
  simp only [reached, Url.port?, authority, Option.bind_some, kind, kept, Option.filter_some]
  by_cases own : p = 80 <;> simp [own]

section Written

variable {scheme path : String} {p : UInt16}

theorem significant_of_solid (solid : ∀ c ∈ s.toList, 0x20 < c.toNat)
    (some_ : s.toList ≠ []) : Url.significant s = s.toList := by
  have edges : ∀ c ∈ s.toList, ¬ (decide (c.toNat ≤ 0x20)) = true := fun c mem => by
    simpa using solid c mem
  obtain ⟨tail, within, cut⟩ := trimmed some_ edges []
  rw [List.prefix_nil.mp within, List.append_nil] at cut
  simp only [Url.significant, cut]
  refine List.filter_eq_self.mpr fun c mem => decide_eq_true ⟨?_, ?_, ?_⟩ <;>
    exact fun same => absurd (same ▸ solid c mem) (by decide)

/-- What is written for a host, a port and one of the paths is read as an address of the host that
the text stands for. -/
theorem parse_written_path (bare : Bare h.toList) (nonempty : h.toList ≠ []) (known : scheme ∈ ["http", "ws"]) (listed : path ∈ ["/", "/terminal/ws"]) :
    Url.parse (scheme ++ "://" ++ text ⟨h, p⟩ ++ path) = (Host.special h.toList).map fun host =>
      ⟨scheme, some ⟨"", host, kept (some p)⟩, path, none, none⟩ := by
  have named := portText_toString p
  have paths : ∀ path ∈ ["/", "/terminal/ws"], path.toList.head? = some '/' ∧
      (path.toList.all fun c => 0x20 < c.toNat) = true ∧
      (Url.cutTail path.toList).2 = (none, none) ∧
      Url.pathText web (Url.cutTail path.toList).1 = path := by decide
  obtain ⟨slash, clean, nothing, resolved⟩ := paths path listed
  have tailed : Tail path.toList := by
    intro c first
    rw [slash] at first
    cases first
    decide
  have written : (scheme ++ "://" ++ text ⟨h, p⟩ ++ path).toList = (scheme ++ "://").toList ++
      (h.toList ++ ((':' :: (toString p.toNat).toList) ++ path.toList)) := by
    simp [text]
  have significant : Url.significant (scheme ++ "://" ++ text ⟨h, p⟩ ++ path) =
      (scheme ++ "://").toList ++
        (h.toList ++ ((':' :: (toString p.toNat).toList) ++ path.toList)) := by
    rw [← written]
    refine significant_of_solid (fun c mem => ?_) ?_
    · rw [written, ← List.append_assoc h.toList, ← List.append_assoc] at mem
      rcases List.mem_append.mp mem with mem | mem
      · exact solid_address known bare named mem
      · exact of_decide_eq_true (List.all_eq_true.mp clean c mem)
    · rw [written]
      simp
  rw [parse_of_significant known bare nonempty named tailed significant]
  congr 1
  funext host
  unfold Url.finish
  generalize Url.cutTail path.toList = parts at nothing resolved
  obtain ⟨front, query, fragment⟩ := parts
  cases nothing
  exact congrArg (Url.mk scheme (some ⟨"", host, kept (some p)⟩) · none none) resolved

theorem written_eq_ok (bare : Bare h.toList) (nonempty : h.toList ≠ [])
    (known : scheme ∈ ["http", "ws"]) (listed : path ∈ ["/", "/terminal/ws"]) {u : Url} :
    (Url.parse (scheme ++ "://" ++ text ⟨h, p⟩ ++ path)).mapError Error.address = .ok u ↔
      ∃ host, Host.special h.toList = .ok host ∧
        u = ⟨scheme, some ⟨"", host, kept (some p)⟩, path, none, none⟩ := by
  rw [parse_written_path bare nonempty known listed]
  cases Host.special h.toList with
  | error fault =>
    constructor
    · intro found
      cases found
    · rintro ⟨host, read, -⟩
      cases read
  | ok host =>
    constructor
    · intro found
      exact ⟨host, rfl, (Except.ok.inj found).symm⟩
    · rintro ⟨host', read, rfl⟩
      cases read
      rfl

/-- An address that is put together reaches the port under the path, whatever host is read of it. -/
theorem reaches (bare : Bare h.toList) (nonempty : h.toList ≠ []) (known : scheme ∈ ["http", "ws"])
    (listed : path ∈ ["/", "/terminal/ws"]) {u : Url}
    (found : (Url.parse (scheme ++ "://" ++ text ⟨h, p⟩ ++ path)).mapError Error.address = .ok u) :
    ∃ host, Host.special h.toList = .ok host ∧ u.host? = some host ∧ reached u = some p ∧
      u.path = path := by
  obtain ⟨host, read, rfl⟩ := (written_eq_ok bare nonempty known listed).mp found
  have named : Url.host? ⟨scheme, some ⟨"", host, kept (some p)⟩, path, none, none⟩ =
      some host := if_neg (Bool.eq_false_iff.mp (isEmpty_of_special read))
  exact ⟨host, read, named, reached_kept known rfl, rfl⟩

/-- What is written for a host and a port leads to the port, if it is an address at all. -/
theorem leads_iff (bare : Bare h.toList) (nonempty : h.toList ≠ [])
    (known : scheme ∈ ["http", "ws"]) (listed : path ∈ ["/", "/terminal/ws"]) :
    (∃ u, (Url.parse (scheme ++ "://" ++ text ⟨h, p⟩ ++ path)).mapError Error.address = .ok u ∧
      reached u = some p) ↔ ∃ host, Host.special h.toList = .ok host := by
  constructor
  · rintro ⟨u, found, -⟩
    obtain ⟨host, read, -⟩ := reaches bare nonempty known listed found
    exact ⟨host, read⟩
  · rintro ⟨host, read⟩
    have found := (written_eq_ok (p := p) bare nonempty known listed).mpr ⟨host, read, rfl⟩
    obtain ⟨-, -, -, port, -⟩ := reaches bare nonempty known listed found
    exact ⟨_, found, port⟩

end Written

theorem base_iff {cs : List Char} {host : Host} (read : Host.special cs = .ok host) (p : UInt16) :
    (∃ u, base ⟨host.text, p⟩ = .ok u ∧ reached u = some p) ↔
      ∃ host', Host.special host.text.toList = .ok host' := by
  have scheme : "http" ++ "://" = "http://" := rfl
  obtain ⟨bare, nonempty⟩ := Host.bare_text read
  have leads := leads_iff (p := p) bare nonempty (show "http" ∈ ["http", "ws"] by decide)
    (show "/" ∈ ["/", "/terminal/ws"] by decide)
  rwa [scheme] at leads

theorem terminal_iff {cs : List Char} {host : Host} (read : Host.special cs = .ok host)
    (p : UInt16) : (∃ u, terminal ⟨host.text, p⟩ = .ok u ∧ reached u = some p) ↔
      ∃ host', Host.special host.text.toList = .ok host' := by
  have scheme : "ws" ++ "://" = "ws://" := rfl
  obtain ⟨bare, nonempty⟩ := Host.bare_text read
  have leads := leads_iff (p := p) bare nonempty (show "ws" ∈ ["http", "ws"] by decide)
    (show "/terminal/ws" ∈ ["/", "/terminal/ws"] by decide)
  rwa [scheme] at leads

/-- A port is honoured that the target has and that both of its addresses lead to. -/
def Honours (s : String) (d p : UInt16) : Prop :=
  ∃ t, parse s d = .ok t ∧ t.port = p ∧ (∃ u, t.base = .ok u ∧ reached u = some p) ∧
    ∃ u, t.terminal = .ok u ∧ reached u = some p

theorem getD_kept (p d : UInt16) : (kept (some p)).getD d = if p = 80 then d else p := by
  by_cases own : p = 80 <;> simp [kept, Option.filter_some, own]

/-- A text that is read alone is read wherever the host may stand, and its own text alone, too, if
that is a host. -/
theorem parse_written (bare : Bare h.toList) {d₀ : UInt16} {t₀ : Target}
    (accepted : parse h d₀ = .ok t₀) : ∃ host, Host.special h.toList = .ok host ∧
      t₀.host = host.text ∧ (∀ port s d, Names h port s →
        parse s d = .ok ⟨t₀.host, (kept port).getD d⟩) ∧
      ∀ d, parse t₀.host d = match Host.special host.text.toList with
        | .error fault => .error (.address fault)
        | .ok host' => .ok ⟨host'.text, d⟩ := by
  obtain ⟨nonempty, -, host, read, same⟩ := special_of_parse bare accepted
  obtain ⟨bare', nonempty'⟩ := Host.bare_text read
  refine ⟨host, read, same, fun port s d named => ?_, fun d => ?_⟩
  · rw [parse_named bare nonempty named, read, same]
  · rw [same, parse_named bare' nonempty' (names_alone host.text)]
    rfl

/-- A named port is taken unless it is 80, which the schemes have anyway; it is honoured exactly
where it is taken or is the default and the host is accepted as it is written. -/
theorem explicit_port_honoured_iff (bare : Bare h.toList) {d₀ : UInt16} {t₀ : Target}
    (accepted : parse h d₀ = .ok t₀) :
    (∀ s d, Names h none s → parse s d = .ok ⟨t₀.host, d⟩) ∧
      (∀ p s d, Names h (some p) s → parse s d = .ok ⟨t₀.host, if p = 80 then d else p⟩ ∧
        (Honours s d p ↔ (p ≠ 80 ∨ d = 80) ∧ ∃ t, parse t₀.host d = .ok t)) ∧
      ((∀ c ∈ t₀.host.toList, ¬ c.isUpper) →
        ∀ d, (∃ t, parse t₀.host d = .ok t) ↔ Name.Short t₀.host.toList) ∧
      ((∀ c ∈ h.toList, Name.isAscii c ∧ c ≠ '%') →
        ∀ p s d, Names h (some p) s → (Honours s d p ↔ p ≠ 80 ∨ d = 80)) := by
  obtain ⟨host, read, same, named, again⟩ := parse_written bare accepted
  have accepts (d : UInt16) : (∃ t, parse t₀.host d = .ok t) ↔
      ∃ host', Host.special host.text.toList = .ok host' := by
    rw [again]
    cases Host.special host.text.toList <;> simp
  have ports (p : UInt16) (s : String) (d : UInt16) (names : Names h (some p) s) :
      parse s d = .ok ⟨t₀.host, if p = 80 then d else p⟩ := by
    rw [named _ s d names, getD_kept]
  have honours (p : UInt16) (s : String) (d : UInt16) (names : Names h (some p) s) :
      Honours s d p ↔ (p ≠ 80 ∨ d = 80) ∧ ∃ t, parse t₀.host d = .ok t := by
    have taken : (if p = 80 then d else p) = p ↔ p ≠ 80 ∨ d = 80 := by
      by_cases own : p = 80 <;> simp [own]
    rw [accepts, ← taken, Honours, ports p s d names, same]
    constructor
    · rintro ⟨t, found, port, leads, -⟩
      cases found
      dsimp only at port leads
      rw [port] at leads
      exact ⟨port, (base_iff read p).mp leads⟩
    · rintro ⟨port, again⟩
      rw [port]
      exact ⟨_, rfl, rfl, (base_iff read p).mpr again, (terminal_iff read p).mpr again⟩
  refine ⟨fun s d names => ?_, fun p s d names => ⟨ports p s d names, honours p s d names⟩,
    fun small d => ?_, fun ascii p s d names => ?_⟩
  · rw [named _ s d names]
    rfl
  · rw [accepts, same]
    rw [same] at small
    exact ⟨fun ⟨host', found⟩ => Host.short_of_special read small found,
      fun short => ⟨host, Host.special_text read small short⟩⟩
  · obtain ⟨small, short⟩ := Host.small_of_ascii read ascii
    rw [honours p s d names, accepts, and_iff_left ⟨host, Host.special_text read small short⟩]

theorem local_name_keeps_port : Bare "pi.local".toList ∧
    parse "pi.local" 3000 = .ok ⟨"pi.local", 3000⟩ ∧
    Names "pi.local" (some 4000) "ws://pi.local:4000/terminal/ws" ∧
    Honours "ws://pi.local:4000/terminal/ws" 3000 4000 := by
  have bare : Bare "pi.local".toList :=
    ⟨List.all_iff_forall_prop.mp (by decide), Or.inl ⟨by decide, by decide⟩⟩
  have accepted : parse "pi.local" 3000 = .ok ⟨"pi.local", 3000⟩ := by decide +kernel
  have port : PortText (some 4000) ":4000".toList :=
    ⟨"4000".toList, rfl, by decide, List.all_eq_true.mp (by decide), by decide⟩
  have tailed : Tail "/terminal/ws".toList := by simp [Tail]
  have written : "ws" ++ "://" ++ "pi.local" ++ String.ofList (":4000".toList ++
      "/terminal/ws".toList) = "ws://pi.local:4000/terminal/ws" := by decide
  have named : Names "pi.local" (some 4000) "ws://pi.local:4000/terminal/ws" :=
    written ▸ .address (by decide) port tailed
  refine ⟨bare, accepted, named, ?_⟩
  have ascii : ∀ c ∈ "pi.local".toList, Name.isAscii c ∧ c ≠ '%' :=
    List.all_iff_forall_prop.mp (by decide)
  exact ((explicit_port_honoured_iff bare accepted).2.2.2 ascii 4000 _ 3000 named).mpr
    (Or.inl (by decide))

/-- The address names port 80, and the shell is opened on the default port. -/
theorem explicit_eighty_becomes_default : Bare "pi.local".toList ∧
    parse "pi.local" 3000 = .ok ⟨"pi.local", 3000⟩ ∧
    Names "pi.local" (some 80) "pi.local:80" ∧
    parse "pi.local:80" 3000 = .ok ⟨"pi.local", 3000⟩ ∧ ¬ Honours "pi.local:80" 3000 80 := by
  have bare : Bare "pi.local".toList :=
    ⟨List.all_iff_forall_prop.mp (by decide), Or.inl ⟨by decide, by decide⟩⟩
  have port : PortText (some 80) ":80".toList :=
    ⟨"80".toList, rfl, by decide, List.all_eq_true.mp (by decide), by decide⟩
  have written : "pi.local" ++ String.ofList ":80".toList = "pi.local:80" := by decide
  have found : parse "pi.local:80" 3000 = .ok ⟨"pi.local", 3000⟩ := by decide +kernel
  refine ⟨bare, by decide +kernel, written ▸ .alone port, found, ?_⟩
  rintro ⟨t, found', eighty, -⟩
  rw [found] at found'
  cases found'
  cases eighty

end Target

end HostWatch
