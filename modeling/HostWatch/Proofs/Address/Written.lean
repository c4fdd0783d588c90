import HostWatch.Exchange.Request
import HostWatch.Proofs.Address.Derived
import HostWatch.Proofs.Text.OneLine

namespace HostWatch

namespace Address

open Text (OneLine oneLine_append oneLine_ofList oneLine_repr)

theorem of_bind {ε α β : Type} {r : Except ε α} {f : α → Except ε β} {w : β}
    (h : r.bind f = .ok w) : ∃ v, r = .ok v ∧ f v = .ok w := by
  cases r with
  | error e => cases h
  | ok v => exact ⟨v, rfl, h⟩

theorem Percent.line_not_mem_encode {set : Char → Bool} (own : set '\n' = true) (cs : List Char) :
    '\n' ∉ Percent.encode set cs := by
  intro mem
  rcases Host.mem_encode mem with ⟨-, free⟩ | percent | ⟨d, small, digit⟩
  · rw [own] at free
    cases free
  · exact absurd percent (by decide)
  · have digits : ∀ d < 16, '\n' ≠ (Nat.digitChar d).toUpper := by decide
    exact digits d small digit

namespace Path

def Resolved.Lineless (r : Resolved) : Prop := ∀ s ∈ r.segments, '\n' ∉ s

theorem Resolved.Lineless.add {r : Resolved} (h : r.Lineless) {s : List Char} (plain : '\n' ∉ s)
    (isFile last : Bool) : (r.add isFile s last).Lineless := by
  have more {ss : List (List Char)} (hs : ∀ s ∈ ss, '\n' ∉ s) :
      ∀ s ∈ (if last then [] :: ss else ss), '\n' ∉ s := by
    split
    · exact List.forall_mem_cons.mpr ⟨List.not_mem_nil, hs⟩
    · exact hs
  unfold Resolved.add
  split
  · refine more ?_
    split
    next d single =>
      split
      · exact single ▸ h
      · exact nofun
    next => exact fun s mem => h s (List.mem_of_mem_tail mem)
  split
  · exact more h
  split
  · refine List.forall_mem_cons.mpr ⟨?_, nofun⟩
    rw [List.mem_append, not_or]
    exact ⟨fun mem => plain (List.mem_of_mem_take mem), by decide⟩
  · exact List.forall_mem_cons.mpr ⟨plain, h⟩

theorem lineless_resolveAll {segments : List (List Char)} (plain : ∀ s ∈ segments, '\n' ∉ s)
    (isFile : Bool) {r : Resolved} (h : r.Lineless) : (resolveAll isFile r segments).Lineless := by
  fun_induction resolveAll isFile r segments with
  | case1 r => exact h
  | case2 r s => exact h.add (plain s List.mem_cons_self) isFile true
  | case3 r s ss _ ih =>
    obtain ⟨first, later⟩ := List.forall_mem_cons.mp plain
    exact ih later (h.add first isFile false)

theorem Resolved.Lineless.oneLine {r : Resolved} (h : r.Lineless) : OneLine r.text := by
  unfold Resolved.text
  rw [Text.oneLine_join]
  intro t mem
  obtain ⟨s, from_, rfl⟩ := List.mem_map.mp mem
  have plain : '\n' ∉ s := h s (List.mem_reverse.mp from_)
  exact oneLine_append.mpr ⟨by decide, oneLine_ofList.mpr plain⟩

theorem oneLine_resolve (isSeparator : Char → Bool) (isFile : Bool) (cs : List Char) :
    OneLine (resolve isSeparator isFile cs).text := by
  have empty : Resolved.Lineless {} := fun _ mem => nomatch mem
  refine (lineless_resolveAll (fun s mem => ?_) isFile empty).oneLine
  obtain ⟨written, -, rfl⟩ := List.mem_map.mp mem
  exact Percent.line_not_mem_encode (by decide) written

end Path

theorem Bare.line_not_mem {cs : List Char} (bare : Bare cs) : '\n' ∉ cs :=
  fun mem => (bare.plain _ mem).1 (by decide)

theorem Host.oneLine_text {kind : SchemeKind} {cs : List Char} {host : Host}
    (read : Host.ofKind kind cs = .ok host) : OneLine host.text := by
  have special (read : Host.special cs = .ok host) : OneLine host.text :=
    (Host.bare_text read).1.line_not_mem
  unfold Host.ofKind at read
  split at read
  · exact special read
  · rcases Host.other_cases read with own | ⟨written, rfl, loose⟩
    · exact special own
    · exact fun mem => absurd (loose _ mem).2.1 (by decide)

theorem oneLine_authorityText {a : Authority} (userinfo : OneLine a.userinfo)
    (host : OneLine a.host.text) : OneLine (Url.authorityText a) := by
  unfold Url.authorityText
  rw [oneLine_append, oneLine_append, oneLine_append]
  refine ⟨⟨⟨by decide, userinfo⟩, host⟩, ?_⟩
  split
  · exact oneLine_append.mpr ⟨by decide, oneLine_repr _⟩
  · decide

namespace Url

variable {u : Url}

/-- The parts that stay when an address is followed to another name hold no line feed. -/
structure Unbroken (u : Url) : Prop where
  scheme : OneLine u.scheme
  authority : ∀ a ∈ u.authority, OneLine (authorityText a)
  path : OneLine u.path

theorem Unbroken.oneLine_sibling (h : u.Unbroken) {name : String} (named : OneLine name) :
    OneLine (u.sibling name).text := by
  have directory : OneLine (u.sibling name).path := by
    refine oneLine_append.mpr ⟨oneLine_ofList.mpr fun mem => ?_, named⟩
    have mem := (List.dropWhile_sublist _).subset (List.mem_reverse.mp mem)
    exact h.path (List.mem_reverse.mp mem)
  unfold text
  simp only [oneLine_append]
  refine ⟨⟨⟨⟨⟨h.scheme, by decide⟩, ?_⟩, directory⟩, (by decide : OneLine "")⟩,
    (by decide : OneLine "")⟩
  split
  next a found => exact h.authority a found
  next =>
    split
    · decide
    split <;> decide

theorem oneLine_pathText (kind : SchemeKind) (cs : List Char) : OneLine (pathText kind cs) := by
  unfold pathText
  split
  · split <;> decide
  · exact Path.oneLine_resolve _ _ _

theorem oneLine_userinfoText (cs : List Char) : OneLine (userinfoText cs) := by
  have encoded (cs : List Char) : OneLine (String.ofList (Percent.encode Percent.inUserinfo cs)) :=
    oneLine_ofList.mpr (Percent.line_not_mem_encode (by decide) cs)
  have ended {s : String} (h : OneLine s) : OneLine (if s.isEmpty then "" else s ++ "@") := by
    split
    · decide
    · exact oneLine_append.mpr ⟨h, by decide⟩
  refine ended (oneLine_append.mpr ⟨encoded _, ?_⟩)
  split
  · decide
  · exact oneLine_append.mpr ⟨by decide, encoded _⟩

theorem oneLine_readUserinfo {kind : SchemeKind} {cs rest : List Char} {user : String}
    (read : readUserinfo kind cs = .ok (user, rest)) : OneLine user := by
  unfold readUserinfo at read
  dsimp only at read
  split at read
  · obtain ⟨rfl, -⟩ := Prod.mk.inj (Except.ok.inj read)
    decide
  · split at read
    · split at read
      · cases read
      · obtain ⟨rfl, -⟩ := Prod.mk.inj (Except.ok.inj read)
        decide
    · obtain ⟨rfl, -⟩ := Prod.mk.inj (Except.ok.inj read)
      exact oneLine_userinfoText _

theorem afterHost_cases {kind : SchemeKind} {user : String} {host : Host} {cs rest : List Char}
    {a : Authority} (read : afterHost kind user host cs = .ok (a, rest)) :
    a.userinfo = user ∧ a.host = host := by
  unfold afterHost at read
  split at read
  next cs =>
    split at read
    · cases read
    · cases port : readPort cs with
      | error fault =>
        rw [port] at read
        cases read
      | ok q =>
        rw [port] at read
        obtain ⟨rfl, -⟩ := Prod.mk.inj (Except.ok.inj read)
        exact ⟨rfl, rfl⟩
  next =>
    split at read
    · cases read
    · obtain ⟨rfl, -⟩ := Prod.mk.inj (Except.ok.inj read)
      exact ⟨rfl, rfl⟩

theorem oneLine_readAuthority {kind : SchemeKind} {cs rest : List Char} {a : Authority}
    (read : readAuthority kind cs = .ok (a, rest)) : OneLine (authorityText a) := by
  rw [readAuthority_eq] at read
  obtain ⟨⟨user, after⟩, own, read⟩ := of_bind read
  dsimp only at read
  split at read
  · cases read
  · obtain ⟨host, named, read⟩ := of_bind read
    obtain ⟨rfl, rfl⟩ := afterHost_cases read
    exact oneLine_authorityText (oneLine_readUserinfo own) (Host.oneLine_text named)

theorem unbroken_finish {kind : SchemeKind} {scheme : String} {authority : Option Authority}
    {path : List Char → String} (named : OneLine scheme)
    (whole : ∀ a ∈ authority, OneLine (authorityText a)) (under : ∀ cs, OneLine (path cs))
    (cs : List Char) : (finish kind scheme authority path cs).Unbroken := ⟨named, whole, under _⟩

theorem unbroken_parseFile {cs : List Char} (read : parseFile cs = .ok u) : u.Unbroken := by
  have nobody {path : List Char → String} (under : ∀ cs, OneLine (path cs)) (cs : List Char) :
      (finish .file "file" none path cs).Unbroken := unbroken_finish (by decide) (by simp) under cs
  unfold parseFile at read
  dsimp only at read
  split at read
  next x y after =>
    split at read
    · split at read
      · obtain rfl := Except.ok.inj read
        exact nobody (fun _ => oneLine_pathText _ _) _
      split at read
      · obtain rfl := Except.ok.inj read
        exact nobody (oneLine_pathText _) _
      · obtain ⟨host, named, read⟩ := of_bind read
        obtain rfl := Except.ok.inj read
        refine unbroken_finish (by decide) (fun a mem => ?_) (oneLine_pathText _) _
        split at mem
        · cases mem
        · cases mem
          exact oneLine_authorityText (by decide : OneLine "") (@Host.oneLine_text .file _ _ named)
    · split at read
      · obtain rfl := Except.ok.inj read
        exact nobody (fun _ => oneLine_pathText _ _) _
      · obtain rfl := Except.ok.inj read
        exact nobody (fun _ => oneLine_pathText _ _) _
  next =>
    obtain rfl := Except.ok.inj read
    exact nobody (fun _ => oneLine_pathText _ _) _
  next =>
    obtain rfl := Except.ok.inj read
    exact nobody (fun _ => oneLine_pathText _ _) _

theorem toLower_ne_line {c : Char}
    (part : c.isAlphanum || decide (c = '+') || decide (c = '-') || decide (c = '.')) :
    c.toLower ≠ '\n' := by
  intro same
  unfold Char.toLower at same
  -- a letter that is made small lies behind the capitals, and nothing else is changed
  split at same
  next upper =>
    have low : 65 ≤ c.val.toNat := upper.1
    have high : c.val.toNat ≤ 90 := upper.2
    have value : (c.val + 32).toNat = 10 := congrArg Char.toNat same
    rw [UInt32.toNat_add] at value
    change (c.val.toNat + 32) % 2 ^ 32 = 10 at value
    omega
  next =>
    subst same
    exact absurd part (by decide)

theorem oneLine_scheme {cs rest : List Char} {scheme : String}
    (found : scheme? cs = some (scheme, rest)) : OneLine scheme := by
  unfold scheme? at found
  dsimp only at found
  split at found
  · split at found
    · cases found
      rw [oneLine_ofList]
      intro mem
      obtain ⟨c, within, same⟩ := List.mem_map.mp mem
      have part := List.mem_takeWhile_imp within
      exact toLower_ne_line part same
    · cases found
  · cases found

/-- An address that has been read can be written down and followed on one line. -/
theorem unbroken_parse {s : String} (read : parse s = .ok u) : u.Unbroken := by
  unfold parse at read
  split at read
  next => cases read
  next scheme cs begins =>
    have named := oneLine_scheme begins
    dsimp only at read
    split at read
    next => exact unbroken_parseFile read
    next =>
      obtain ⟨⟨a, rest⟩, own, read⟩ := of_bind read
      obtain rfl := Except.ok.inj read
      refine unbroken_finish named ?_ (oneLine_pathText _) _
      rintro _ ⟨⟩
      exact oneLine_readAuthority own
    next =>
      split at read
      next =>
        obtain ⟨⟨a, rest⟩, own, read⟩ := of_bind read
        obtain rfl := Except.ok.inj read
        refine unbroken_finish named ?_ (oneLine_pathText _) _
        rintro _ ⟨⟩
        exact oneLine_readAuthority own
      next =>
        obtain rfl := Except.ok.inj read
        exact unbroken_finish named (by simp) (fun _ => oneLine_pathText _ _) _
      next =>
        obtain rfl := Except.ok.inj read
        refine unbroken_finish named (by simp) (fun cs => ?_) _
        exact oneLine_ofList.mpr (Percent.line_not_mem_encode (by decide) cs)

end Url

end Address

end HostWatch
