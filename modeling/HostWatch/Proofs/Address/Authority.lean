import HostWatch.Address.Target
import Mathlib.Data.Bool.AllAny
import Mathlib.Data.List.TakeWhile

namespace HostWatch.Address

def isControl (c : Char) : Bool := c.toNat < 0x20 || (0x7F ≤ c.toNat && c.toNat < 0xA0)

/-- A host as it may be typed: a name or an IPv4 address, or an IPv6 address in brackets. -/
structure Bare (h : List Char) : Prop where
  plain : ∀ c ∈ h, ¬ Text.isBlank c ∧ ¬ isControl c ∧ c ∉ ['/', '\\', '?', '#', '@']
  shape : (':' ∉ h ∧ '[' ∉ h) ∨ ∃ cs, h = '[' :: (cs ++ [']']) ∧ ']' ∉ cs

def PortText : Option UInt16 → List Char → Prop
  | none, w => w = []
  | some p, w => ∃ ds, w = ':' :: ds ∧ ds ≠ [] ∧ (∀ d ∈ ds, d.isDigit) ∧
    Nat.ofDigitChars 10 ds 0 = p.toNat

/-- What may stand after host and port: nothing, or what begins a path, a query or a fragment. -/
def Tail (tail : List Char) : Prop := ∀ c ∈ tail.head?, c ∈ ['/', '\\', '?', '#']

def web : SchemeKind := .special 80

section Parts

variable {h w tail : List Char} {port : Option UInt16}

theorem endsAuthority_web (c : Char) :
    Url.endsAuthority web c = decide (c ∈ ['/', '\\', '?', '#']) := by
  simp only [Url.endsAuthority, web, SchemeKind.isSpecial, Bool.true_and, List.mem_cons,
    List.not_mem_nil, or_false, Bool.decide_or]
  ac_rfl

theorem Bare.not_ends (bare : Bare h) {c : Char} (mem : c ∈ h) :
    Url.endsAuthority web c = false := by
  have plain := (bare.plain c mem).2.2
  simp only [List.mem_cons, List.not_mem_nil, or_false, not_or] at plain
  simp [endsAuthority_web, plain]

theorem PortText.cases (named : PortText port w) : w = [] ∨ ∃ ds, w = ':' :: ds := by
  cases port with
  | none => exact Or.inl named
  | some p =>
    obtain ⟨ds, rfl, -⟩ := named
    exact Or.inr ⟨ds, rfl⟩

theorem PortText.plain (named : PortText port w) {c : Char} (mem : c ∈ w) :
    c = ':' ∨ c.isDigit := by
  cases port with
  | none => cases (named : w = []) ▸ mem
  | some p =>
    obtain ⟨ds, rfl, -, digits, -⟩ := named
    exact (List.mem_cons.mp mem).imp_right (digits c)

theorem hostSpan_rest (named : PortText port w) (tailed : Tail tail) :
    Url.hostSpan web false (w ++ tail) = [] := by
  rcases named.cases with rfl | ⟨ds, rfl⟩
  · cases tail with
    | nil => rfl
    | cons c tail =>
      have ends : Url.endsAuthority web c := by
        rw [endsAuthority_web]
        exact decide_eq_true (tailed c rfl)
      simp [Url.hostSpan, ends]
  · rfl

theorem hostSpan_bare (bare : Bare h) (named : PortText port w) (tailed : Tail tail) :
    Url.hostSpan web false (h ++ (w ++ tail)) = h := by
  have ended := hostSpan_rest named tailed
  have ends := fun c => bare.not_ends (c := c)
  rcases bare.shape with ⟨colon, bracket⟩ | ⟨cs, rfl, inner⟩
  · clear bare
    induction h with
    | nil => exact ended
    | cons c h ih =>
      simp only [List.mem_cons, not_or] at colon bracket
      have plain := ends c List.mem_cons_self
      have others := ih (fun c mem => ends c (List.mem_cons_of_mem _ mem)) colon.2 bracket.2
      simp [Url.hostSpan, plain, Ne.symm colon.1, Ne.symm bracket.1, others]
  · have inside (cs : List Char) (inner : ']' ∉ cs)
        (ends : ∀ c ∈ cs, Url.endsAuthority web c = false) :
        Url.hostSpan web true (cs ++ (']' :: (w ++ tail))) = cs ++ [']'] := by
      induction cs with
      | nil =>
        have close : Url.endsAuthority web ']' = false := rfl
        simp [Url.hostSpan, close, ended]
      | cons c cs ih =>
        simp only [List.mem_cons, not_or] at inner
        have others := ih inner.2 fun c mem => ends c (List.mem_cons_of_mem _ mem)
        simp [Url.hostSpan, ends c List.mem_cons_self, Ne.symm inner.1, others]
    have opened : Url.endsAuthority web '[' = false := rfl
    have others := inside cs inner fun c mem => ends c (by simp [mem])
    simp [Url.hostSpan, opened, others]

theorem PortText.not_ends (named : PortText port w) {c : Char} (mem : c ∈ w) :
    Url.endsAuthority web c = false := by
  rcases named.plain mem with rfl | digit
  · rfl
  · rw [endsAuthority_web, decide_eq_false_iff_not]
    intro other
    simp only [List.mem_cons, List.not_mem_nil, or_false] at other
    rcases other with rfl | rfl | rfl | rfl <;> cases digit

theorem readUserinfo_bare (bare : Bare h) (named : PortText port w) (tailed : Tail tail) :
    Url.readUserinfo web (h ++ (w ++ tail)) = .ok ("", h ++ (w ++ tail)) := by
  have within : ∀ c ∈ h ++ w, (!Url.endsAuthority web c) = true := by
    intro c mem
    rcases List.mem_append.mp mem with mem | mem
    · rw [bare.not_ends mem, Bool.not_false]
    · rw [named.not_ends mem, Bool.not_false]
  have ended : tail.takeWhile (fun c => !Url.endsAuthority web c) = [] := by
    cases tail with
    | nil => rfl
    | cons c tail =>
      have ends : Url.endsAuthority web c := by
        rw [endsAuthority_web]
        exact decide_eq_true (tailed c rfl)
      simp [ends]
  have authority : (h ++ (w ++ tail)).takeWhile (fun c => !Url.endsAuthority web c) = h ++ w := by
    rw [← List.append_assoc, List.takeWhile_append_of_pos within, ended, List.append_nil]
  have nobody : ∀ c ∈ (h ++ w).reverse, decide (c ≠ '@') = true := by
    intro c mem
    rw [decide_eq_true_eq]
    rintro rfl
    rcases List.mem_append.mp (List.mem_reverse.mp mem) with mem | mem
    · exact absurd (bare.plain '@' mem).2.2 (by decide)
    · rcases named.plain mem with colon | digit
      · cases colon
      · cases digit
  have whole : ((h ++ w).reverse.takeWhile (· ≠ '@')).reverse = h ++ w := by
    rw [List.takeWhile_eq_self_iff.mpr nobody, List.reverse_reverse]
  unfold Url.readUserinfo
  simp only [authority, whole, if_true]

theorem readPort_digits {ds : List Char} {p : UInt16} (some_ : ds ≠ [])
    (digits : ∀ d ∈ ds, d.isDigit) (value : Nat.ofDigitChars 10 ds 0 = p.toNat)
    (tailed : Tail tail) : Url.readPort (ds ++ tail) = .ok (some p.toNat, tail) := by
  have ended : tail.takeWhile Char.isDigit = [] := by
    cases tail with
    | nil => rfl
    | cons c tail =>
      have mark := tailed c rfl
      simp only [List.mem_cons, List.not_mem_nil, or_false] at mark
      rcases mark with rfl | rfl | rfl | rfl <;> rfl
  have span : (ds ++ tail).takeWhile Char.isDigit = ds := by
    rw [List.takeWhile_append_of_pos digits, ended, List.append_nil]
  have sum : ds.foldl (fun n c => n * 10 + (c.toNat - '0'.toNat)) 0 = p.toNat := by
    rw [← value]
    unfold Nat.ofDigitChars
    congr 1
    funext n c
    rw [Nat.mul_comm]
  have fits : ¬ 65535 < p.toNat := by
    have := p.toNat_lt
    omega
  have marked : tail.head?.any (fun c => !(c = '/' || c = '\\' || c = '?' || c = '#')) = false := by
    cases tail with
    | nil => rfl
    | cons c tail =>
      have mark := tailed c rfl
      simp only [List.mem_cons, List.not_mem_nil, or_false] at mark
      rcases mark with rfl | rfl | rfl | rfl <;> rfl
  have nonempty : ds.isEmpty = false := by simpa using some_
  unfold Url.readPort
  simp only [span, List.drop_left, sum, fits, if_false, marked, Bool.false_eq_true, nonempty]

theorem isEmpty_of_special {host : Host} (h' : Host.special h = .ok host) :
    host.isEmpty = false := by
  unfold Host.special at h'
  split at h'
  · unfold Host.bracketed at h'
    split at h'
    · split at h'
      · cases h'
        rfl
      · cases h'
    · cases h'
  · split at h'
    next written _ =>
      unfold Host.ofWritten at h'
      split at h'
      · cases h'
      split at h'
      · split at h'
        · cases h'
          rfl
        · cases h'
      · next some_ _ =>
        cases h'
        simp only [Host.isEmpty, decide_eq_false_iff_not, Host.name.injEq]
        intro none
        have empty : written = [] := by
          rw [← String.toList_ofList (l := written), none]
          rfl
        rw [empty] at some_
        exact some_ rfl
    · cases h'

def kept (port : Option UInt16) : Option UInt16 := port.filter (· ≠ 80)

theorem keptPort_some (p : UInt16) : Url.keptPort web (some p.toNat) = kept (some p) := by
  have same : (some p.toNat).map UInt16.ofNat = some p := by
    rw [Option.map_some, UInt16.ofNat_toNat]
  unfold Url.keptPort kept
  rw [same, Option.filter_some]
  by_cases own : p = 80 <;> simp [web, own]

theorem readAuthority_bare (bare : Bare h) (nonempty : h ≠ []) (named : PortText port w)
    (tailed : Tail tail) : Url.readAuthority web (h ++ (w ++ tail)) =
      (Host.special h).map fun host => (⟨"", host, kept port⟩, tail) := by
  have span := hostSpan_bare bare named tailed
  have there : h.isEmpty = false := by simpa using nonempty
  have special : web.isSpecial = true := rfl
  unfold Url.readAuthority
  rw [readUserinfo_bare bare named tailed]
  simp only [bind, Except.bind, span, List.drop_left, special, there, Bool.and_false, if_true,
    Bool.false_eq_true, if_false]
  cases read : Host.special h with
  | error e => rfl
  | ok host =>
    have solid := isEmpty_of_special read
    cases port with
    | none =>
      obtain rfl : w = [] := named
      simp only [List.nil_append, solid, Bool.false_and, Bool.false_eq_true, if_false]
      split
      · exact absurd (tailed ':' rfl) (by decide)
      · rfl
    | some p =>
      obtain ⟨ds, rfl, some_, digits, value⟩ := named
      rw [List.cons_append]
      simp only [solid, Bool.false_eq_true, if_false, readPort_digits some_ digits value tailed,
        keptPort_some]
      rfl

end Parts

section Ends

variable {front tail : List Char}

theorem Tail.of_isPrefix {tail' : List Char} (tailed : Tail tail) (h : tail' <+: tail) :
    Tail tail' := by
  obtain ⟨more, rfl⟩ := h
  cases tail' with
  | nil => exact nofun
  | cons c tail' => exact tailed

/-- What is taken off the ends of a text before its host is looked at comes off the tail alone. -/
theorem trimmed {p : Char → Bool} (some_ : front ≠ []) (solid : ∀ c ∈ front, ¬ p c)
    (tail : List Char) : ∃ tail', tail' <+: tail ∧
      (((front ++ tail).dropWhile p).reverse.dropWhile p).reverse = front ++ tail' := by
  obtain ⟨c, cs, rfl⟩ := List.exists_cons_of_ne_nil some_
  have first := solid c List.mem_cons_self
  refine ⟨(tail.reverse.dropWhile p).reverse, ?_, ?_⟩
  · rw [← List.reverse_suffix, List.reverse_reverse]
    exact List.dropWhile_suffix p
  · have kept : (c :: cs ++ tail).dropWhile p = c :: cs ++ tail := by
      rw [List.cons_append, List.dropWhile_cons_of_neg first]
    have ends : ((c :: cs).reverse).dropWhile p = (c :: cs).reverse := by
      obtain ⟨d, ds, back⟩ := List.exists_cons_of_ne_nil
        (show (c :: cs).reverse ≠ [] by simp)
      have last : d ∈ c :: cs := List.mem_reverse.mp (back ▸ List.mem_cons_self)
      rw [back, List.dropWhile_cons_of_neg (solid d last)]
    rw [kept, List.reverse_append, List.dropWhile_append]
    split
    next none =>
      rw [ends, List.reverse_reverse, List.isEmpty_iff.mp none]
      simp
    next =>
      rw [List.reverse_append, List.reverse_reverse]

theorem significant_address {s : String} (written : s.toList = front ++ tail)
    (some_ : front ≠ []) (solid : ∀ c ∈ front, 0x20 < c.toNat) (tailed : Tail tail) :
    ∃ tail', Tail tail' ∧ Url.significant s = front ++ tail' := by
  have edges : ∀ c ∈ front, ¬ (decide (c.toNat ≤ 0x20)) = true := fun c mem => by
    simpa using solid c mem
  obtain ⟨tail', within, cut⟩ := trimmed some_ edges tail
  have tailed' := tailed.of_isPrefix within
  refine ⟨tail'.filter fun c => c ≠ '\t' ∧ c ≠ '\n' ∧ c ≠ '\r', ?_, ?_⟩
  · cases tail' with
    | nil => exact nofun
    | cons c tail' =>
      have mark := tailed' c rfl
      have kept : decide (c ≠ '\t' ∧ c ≠ '\n' ∧ c ≠ '\r') = true := by
        simp only [List.mem_cons, List.not_mem_nil, or_false] at mark
        rcases mark with rfl | rfl | rfl | rfl <;> rfl
      simp only [List.filter_cons, kept, if_true]
      exact tailed'
  · have whole : front.filter (fun c => decide (c ≠ '\t' ∧ c ≠ '\n' ∧ c ≠ '\r')) = front := by
      refine List.filter_eq_self.mpr fun c mem => decide_eq_true ⟨?_, ?_, ?_⟩ <;>
        exact fun same => absurd (same ▸ solid c mem) (by decide)
    simp only [Url.significant, written, cut, List.filter_append, whole]

end Ends

section Address

variable {scheme s : String} {h w tail : List Char} {port : Option UInt16}

theorem scheme?_web (known : scheme ∈ ["http", "ws"]) (rest : List Char) :
    Url.scheme? ((scheme ++ "://").toList ++ rest) = some (scheme, '/' :: '/' :: rest) ∧
      SchemeKind.of scheme = web := by
  simp only [List.mem_cons, List.not_mem_nil, or_false] at known
  rcases known with rfl | rfl
  · exact ⟨rfl, rfl⟩
  · exact ⟨rfl, rfl⟩

theorem Bare.solid (bare : Bare h) {c : Char} (mem : c ∈ h) : 0x20 < c.toNat := by
  obtain ⟨blank, control, -⟩ := bare.plain c mem
  simp only [Text.isBlank, isControl, Bool.or_eq_true, Bool.and_eq_true, decide_eq_true_eq,
    not_or] at blank control
  omega

theorem parse_of_significant (known : scheme ∈ ["http", "ws"]) (bare : Bare h) (nonempty : h ≠ [])
    (named : PortText port w) (tailed : Tail tail)
    (significant : Url.significant s = (scheme ++ "://").toList ++ (h ++ (w ++ tail))) :
    Url.parse s = (Host.special h).map fun host =>
      Url.finish web scheme (some ⟨"", host, kept port⟩) (Url.pathText web) tail := by
  obtain ⟨found, kind⟩ := scheme?_web known (h ++ (w ++ tail))
  have slashes : ('/' :: '/' :: (h ++ (w ++ tail))).dropWhile (Url.isSlash web) =
      h ++ (w ++ tail) := by
    obtain ⟨c, cs, rfl⟩ := List.exists_cons_of_ne_nil nonempty
    have plain := (bare.plain c List.mem_cons_self).2.2
    have other : Url.isSlash web c = false := by
      simp only [List.mem_cons, List.not_mem_nil, or_false, not_or] at plain
      simp [Url.isSlash, plain]
    have slash : Url.isSlash web '/' = true := rfl
    simp [slash, other]
  unfold Url.parse
  simp only [significant, found, kind]
  rw [show web = SchemeKind.special 80 from rfl] at slashes ⊢
  simp only [slashes]
  rw [show SchemeKind.special 80 = web from rfl, readAuthority_bare bare nonempty named tailed]
  cases Host.special h <;> rfl

theorem solid_address (known : scheme ∈ ["http", "ws"]) (bare : Bare h) (named : PortText port w)
    {c : Char} (mem : c ∈ (scheme ++ "://").toList ++ (h ++ w)) : 0x20 < c.toNat := by
  rcases List.mem_append.mp mem with mem | mem
  · have all : ∀ scheme ∈ ["http", "ws"],
        (scheme ++ "://").toList.all fun c => 0x20 < c.toNat := by decide
    exact List.all_iff_forall_prop.mp (all scheme known) c mem
  rcases List.mem_append.mp mem with mem | mem
  · exact bare.solid mem
  · rcases named.plain mem with rfl | digit
    · decide
    · have range : 48 ≤ c.toNat ∧ c.toNat ≤ 57 := Char.isDigit_iff_toNat.mp digit
      omega

/-- An address that names a host and perhaps a port is accepted if the host is; of its port the
scheme's own is dropped. -/
theorem parse_address (known : scheme ∈ ["http", "ws"]) (bare : Bare h) (nonempty : h ≠ [])
    (named : PortText port w) (tailed : Tail tail)
    (written : s.toList = (scheme ++ "://").toList ++ (h ++ (w ++ tail))) :
    ∃ finish : Host → Url, (∀ host, (finish host).scheme = scheme ∧
        (finish host).authority = some ⟨"", host, kept port⟩) ∧
      Url.parse s = (Host.special h).map finish := by
  have front : (scheme ++ "://").toList ++ (h ++ w) ≠ [] := by simp
  have written' : s.toList = (scheme ++ "://").toList ++ (h ++ w) ++ tail := by
    simpa only [List.append_assoc] using written
  obtain ⟨tail', tailed', significant⟩ :=
    significant_address written' front (fun _ => solid_address known bare named) tailed
  rw [List.append_assoc, List.append_assoc] at significant
  exact ⟨_, fun host => ⟨rfl, rfl⟩,
    parse_of_significant known bare nonempty named tailed' significant⟩

end Address

end HostWatch.Address
