import HostWatch.Proofs.Json.Literal
import Mathlib.Data.Bool.AllAny

namespace HostWatch.Json

abbrev Language := List Char → Prop

def Blank : Language := fun w => ∀ c ∈ w, isGap c

instance (w : List Char) : Decidable (Blank w) := List.decidableBAll (fun c => isGap c) w

/-- The letters of the short escapes with the characters they stand for. -/
def letters : List (Char × Char) :=
  [('"', '"'), ('\\', '\\'), ('/', '/'), ('b', '\x08'), ('f', '\x0c'), ('n', '\n'), ('r', '\r'),
   ('t', '\t')]

def HexDigit (n : Nat) (d : Char) : Prop := d = Nat.digitChar n ∨ d = (Nat.digitChar n).toUpper

instance (n : Nat) (d : Char) : Decidable (HexDigit n d) :=
  inferInstanceAs (Decidable (d = Nat.digitChar n ∨ d = (Nat.digitChar n).toUpper))

def HexUnit (n : Nat) : Language := fun w =>
  List.Forall₂ HexDigit [n / 0x1000, n / 0x100 % 0x10, n / 0x10 % 0x10, n % 0x10] w

instance (n : Nat) (w : List Char) : Decidable (HexUnit n w) :=
  inferInstanceAs (Decidable (List.Forall₂ HexDigit _ w))

/-- A character in a string. From `U+10000` on, its hexadecimal escapes are the two surrogates. -/
inductive SpellsChar (c : Char) : Language
  | raw (quote : c ≠ '"') (backslash : c ≠ '\\') (solid : 0x20 ≤ c.toNat) : SpellsChar c [c]
  | letter {d : Char} (stands : (d, c) ∈ letters) : SpellsChar c ['\\', d]
  | unit {w : List Char} (small : c.toNat < 0x10000) (digits : HexUnit c.toNat w) :
      SpellsChar c ('\\' :: 'u' :: w)
  | pair {w w' : List Char} (large : 0x10000 ≤ c.toNat)
      (high : HexUnit (0xD800 + (c.toNat - 0x10000) / 0x400) w)
      (low : HexUnit (0xDC00 + (c.toNat - 0x10000) % 0x400) w') :
      SpellsChar c ('\\' :: 'u' :: (w ++ '\\' :: 'u' :: w'))

def SpellsString (s : String) : Language := fun w =>
  ∃ ws, List.Forall₂ SpellsChar s.toList ws ∧ w = '"' :: (ws.flatten ++ ['"'])

def SpellsNatural (n : Nat) : Language := fun w => w = (toString n).toList

/-- The parts of a list or of an object and the white space after the last one; the truth value
tells whether the first of them is the first of all. -/
inductive Series : Bool → List Language → Language
  | done {first : Bool} {gap : List Char} (blank : Blank gap) : Series first [] gap
  | part {first : Bool} {part : Language} {parts : List Language} {lead w ws : List Char}
      (leads : Lead first lead) (spelled : part w) (others : Series false parts ws) :
      Series first (part :: parts) (lead ++ (w ++ ws))

def SpellsList (parts : List Language) : Language := fun w =>
  ∃ ws, Series true parts ws ∧ w = '[' :: (ws ++ [']'])

inductive SpellsMember (name : String) (value : Language) : Language
  | member {n gap gap' v : List Char} (named : SpellsString name n) (blank : Blank gap)
      (blank' : Blank gap') (spelled : value v) :
      SpellsMember name value (n ++ (gap ++ ':' :: (gap' ++ v)))

def SpellsObject (members : List (String × Language)) : Language := fun w =>
  ∃ ws, Series true (members.map fun m => SpellsMember m.1 m.2) ws ∧
    w = '\x7b' :: (ws ++ ['\x7d'])

def SpellsScalar : Language := fun w =>
  w ∈ ["null".toList, "true".toList, "false".toList] ∨
    (∃ n ≤ Number.maxWord64, SpellsNatural n w) ∨ ∃ s, SpellsString s w

/-- Any value in which at most a number of lists and objects are open at once. -/
def SpellsAny : Nat → Language
  | 0, w => SpellsScalar w
  | depth + 1, w =>
    SpellsScalar w ∨ (∃ n, SpellsList (List.replicate n (SpellsAny depth)) w) ∨
      ∃ names : List String, SpellsObject (names.map (·, SpellsAny depth)) w

/-- A member of a record: its name, the ways to write its value, and when it may be left out. -/
structure Entry where
  name : String
  value : Language
  optional : Prop

/-- The ways to write the value of a member: its own, or any where the record has no such member. -/
def valueOf (own : List Entry) (depth : Nat) (name : String) : Language :=
  match own.find? (·.name = name) with
  | some e => e.value
  | none => SpellsAny depth

/-- An object whose members stand in any order, other members between them: each of the record's
own occurs at most once, and once unless it may be left out. -/
def SpellsRecord (own : List Entry) (depth : Nat) : Language := fun w =>
  ∃ names : List String,
    (∀ e ∈ own, names.count e.name ≤ 1 ∧ (e.optional ∨ e.name ∈ names)) ∧
      SpellsObject (names.map fun name => (name, valueOf own depth name)) w

def SpellsText (value : Language) (bs : List UInt8) : Prop :=
  ∃ gap w gap', Blank gap ∧ value w ∧ Blank gap' ∧ bs = Text.Utf8.encode (gap ++ (w ++ gap'))

section Strings

variable {c : Char} {n : Nat} {w rest : List Char}

theorem HexDigit.value {d : Char} (h : HexDigit n d) (small : n < 16) :
    isAscii d ∧ hexValue?.hexDigit? (UInt8.ofNat d.toNat) = some n := by
  have lower : ∀ n : Fin 16, isAscii (Nat.digitChar n) ∧
      hexValue?.hexDigit? (UInt8.ofNat (Nat.digitChar n).toNat) = some n.val := by decide
  have upper : ∀ n : Fin 16, isAscii (Nat.digitChar n).toUpper ∧
      hexValue?.hexDigit? (UInt8.ofNat (Nat.digitChar n).toUpper.toNat) = some n.val := by decide
  rcases h with rfl | rfl
  · exact lower ⟨n, small⟩
  · exact upper ⟨n, small⟩

theorem HexUnit.reads (h : HexUnit n w) (small : n < 0x10000) (rest : List Char) :
    Reads hexEscape (w ++ rest) n rest := by
  unfold HexUnit at h
  obtain ⟨a, w₁, ha, h₁, rfl⟩ := List.forall₂_cons_left_iff.mp h
  obtain ⟨b, w₂, hb, h₂, rfl⟩ := List.forall₂_cons_left_iff.mp h₁
  obtain ⟨c, w₃, hc, h₃, rfl⟩ := List.forall₂_cons_left_iff.mp h₂
  obtain ⟨d, w₄, hd, h₄, rfl⟩ := List.forall₂_cons_left_iff.mp h₃
  cases h₄
  obtain ⟨asciiA, valueA⟩ := ha.value (by omega)
  obtain ⟨asciiB, valueB⟩ := hb.value (by omega)
  obtain ⟨asciiC, valueC⟩ := hc.value (by omega)
  obtain ⟨asciiD, valueD⟩ := hd.value (by omega)
  refine reads_hexEscape asciiA asciiB asciiC asciiD ?_
  simp only [hexValue?, List.foldlM_cons, List.foldlM_nil, valueA, valueB, valueC, valueD,
    Option.map_some, Option.bind_eq_bind, Option.bind_some, Option.pure_def, Option.some.injEq]
  omega

theorem shortEscape?_of_mem {d : Char} (h : (d, c) ∈ letters) :
    isAscii d ∧ shortEscape? d = some c := by
  have all : ∀ m ∈ letters, isAscii m.1 ∧ shortEscape? m.1 = some m.2 := by decide
  exact all (d, c) h

theorem toNat_cases (c : Char) : c.toNat < 0xD800 ∨ 0xDFFF < c.toNat ∧ c.toNat < 0x110000 :=
  c.valid

theorem reads_escaped_hex (h : Reads codePoint w c rest) : Reads escaped ('u' :: w) c rest := by
  refine (reads_peek (c := 'u') rfl).bind ((reads_advance rfl).bind ?_)
  exact h

theorem HexUnit.reads_codePoint (h : HexUnit c.toNat w) (small : c.toNat < 0x10000)
    (rest : List Char) : Reads codePoint (w ++ rest) c rest := by
  have valid := toNat_cases c
  have leading : isLeadingSurrogate c.toNat = false := by
    simp only [isLeadingSurrogate, Bool.and_eq_false_iff, decide_eq_false_iff_not]
    omega
  have trailing : isTrailingSurrogate c.toNat = false := by
    simp only [isTrailingSurrogate, Bool.and_eq_false_iff, decide_eq_false_iff_not]
    omega
  refine (h.reads small rest).bind ?_
  simp only [leading, trailing, Bool.false_eq_true, if_false, Char.ofNat_toNat]
  exact reads_pure c rest

theorem reads_expectInString {d : Char} (ascii : isAscii d) (otherwise : Problem)
    (rest : List Char) : Reads (expectInString d otherwise) (d :: rest) () rest := by
  refine (reads_peek ascii).bind ((reads_advance ascii).bind ?_)
  simp only [if_true]
  exact reads_pure () rest

theorem HexUnit.reads_surrogates {w' : List Char} (large : 0x10000 ≤ c.toNat)
    (high : HexUnit (0xD800 + (c.toNat - 0x10000) / 0x400) w)
    (low : HexUnit (0xDC00 + (c.toNat - 0x10000) % 0x400) w') (rest : List Char) :
    Reads codePoint (w ++ '\\' :: 'u' :: (w' ++ rest)) c rest := by
  have valid := toNat_cases c
  have leading : isLeadingSurrogate (0xD800 + (c.toNat - 0x10000) / 0x400) = true := by
    simp only [isLeadingSurrogate, Bool.and_eq_true, decide_eq_true_eq]
    omega
  have other : isTrailingSurrogate (0xD800 + (c.toNat - 0x10000) / 0x400) = false := by
    simp only [isTrailingSurrogate, Bool.and_eq_false_iff, decide_eq_false_iff_not]
    omega
  have trailing : isTrailingSurrogate (0xDC00 + (c.toNat - 0x10000) % 0x400) = true := by
    simp only [isTrailingSurrogate, Bool.and_eq_true, decide_eq_true_eq]
    omega
  have sum : (0xD800 + (c.toNat - 0x10000) / 0x400 - 0xD800) * 0x400 +
      (0xDC00 + (c.toNat - 0x10000) % 0x400 - 0xDC00) + 0x10000 = c.toNat := by omega
  refine (high.reads (by omega) _).bind ?_
  simp only [leading, other, Bool.false_eq_true, if_false, if_true]
  refine (reads_expectInString rfl _ _).bind ((reads_expectInString rfl _ _).bind ?_)
  refine (low.reads (by omega) rest).bind ?_
  simp only [trailing, if_true, sum, Char.ofNat_toNat]
  exact reads_pure c rest

theorem SpellsChar.standsFor (h : SpellsChar c w) : StandsFor c w := by
  cases h with
  | raw quote backslash solid => exact Or.inl ⟨rfl, quote, backslash, solid⟩
  | letter stands =>
    obtain ⟨ascii, short⟩ := shortEscape?_of_mem stands
    exact Or.inr ⟨_, rfl, fun _ => reads_escaped ascii short⟩
  | unit small digits =>
    exact Or.inr ⟨_, rfl, fun rest => reads_escaped_hex (digits.reads_codePoint small rest)⟩
  | @pair w w' large high low =>
    refine Or.inr ⟨'u' :: (w ++ '\\' :: 'u' :: w'), rfl, fun rest => ?_⟩
    rw [List.cons_append, List.append_assoc, List.cons_append, List.cons_append]
    exact reads_escaped_hex (HexUnit.reads_surrogates large high low rest)

theorem SpellsString.reads {s : String} (h : SpellsString s w) :
    ∃ cs, w = '"' :: cs ∧ ∀ rest, Reads string (cs ++ rest) s rest := by
  obtain ⟨ws, spelled, rfl⟩ := h
  refine ⟨_, rfl, fun rest => ?_⟩
  have stands := spelled.imp fun _ _ => SpellsChar.standsFor
  have inside := reads_string_of_standsFor stands rest
  rw [String.ofList_toList] at inside
  rwa [List.append_assoc]

theorem spellsString_plain {s : String}
    (plain : ∀ c ∈ s.toList, c ≠ '"' ∧ c ≠ '\\' ∧ 0x20 ≤ c.toNat) :
    SpellsString s ('"' :: (s.toList ++ ['"'])) := by
  refine ⟨s.toList.map fun c => [c], ?_, ?_⟩
  · refine List.forall₂_map_right_iff.mpr (List.forall₂_same.mpr fun c mem => ?_)
    exact .raw (plain c mem).1 (plain c mem).2.1 (plain c mem).2.2
  · rw [← List.flatMap_def, List.flatMap_singleton']

theorem spellsMember_plain {name : String} {l : Language} {v : List Char}
    (plain : name.toList.all fun c => c ≠ '"' ∧ c ≠ '\\' ∧ 0x20 ≤ c.toNat) (spelled : l v) :
    SpellsMember name l ('"' :: (name.toList ++ ['"']) ++ ':' :: v) :=
  .member (spellsString_plain (List.all_iff_forall_prop.mp plain)) isGap_nil isGap_nil spelled

end Strings

/-- What may stand after a value: nothing, white space, or what goes on in the list or object
around it. -/
def Closes (rest : List Char) : Prop :=
  ∀ c ∈ rest.head?, isGap c ∨ c = ',' ∨ c = ']' ∨ c = '\x7d'

/-- A value begins with a character that is neither white space nor the end of a list. -/
def Starts (w : List Char) : Prop := ∃ c cs, w = c :: cs ∧ isAscii c ∧ ¬ isGap c ∧ c ≠ ']'

/-- A reader takes a value from some characters wherever these stand. -/
structure Takes {α : Type} (r : Read α) (w : List Char) (v : α) : Prop where
  starts : Starts w
  reads : ∀ gap rest, Blank gap → Closes rest → Reads r (gap ++ (w ++ rest)) v rest

theorem Closes.endsNumber {rest : List Char} (h : Closes rest) : endsNumber rest := by
  intro c mem
  rcases h c mem with blank | rfl | rfl | rfl
  · simp only [isGap, Bool.or_eq_true, decide_eq_true_eq] at blank
    rcases blank with ((rfl | rfl) | rfl) | rfl <;> decide
  · decide
  · decide
  · decide

theorem Closes.gap {gap rest : List Char} (blank : Blank gap) (h : Closes rest) :
    Closes (gap ++ rest) := by
  cases gap with
  | nil => exact h
  | cons c gap =>
    rintro c' ⟨⟩
    exact Or.inl (blank c List.mem_cons_self)

/-- What comes after a part closes its value: a comma, or the end of all parts. -/
theorem Series.closes {parts : List Language} {ws rest : List Char} (h : Series false parts ws)
    (closed : Closes rest) : Closes (ws ++ rest) := by
  cases h with
  | done blank => exact closed.gap blank
  | part leads =>
    obtain ⟨gap, gap', rfl, blank, -⟩ := leads
    rw [List.append_assoc, List.append_assoc]
    refine Closes.gap blank ?_
    rintro c ⟨⟩
    exact Or.inr (Or.inl rfl)

section Values

variable {α β : Type} {r : Read α} {w : List Char} {v : α}

theorem Takes.map (h : Takes r w v) (f : α → β) : Takes (do return f (← r)) w (f v) :=
  ⟨h.starts, fun gap rest blank closed => (h.reads gap rest blank closed).bind (reads_pure _ rest)⟩

theorem plain_of_opening {c : Char} (opening : c = '[' ∨ c = '\x7b') :
    isAscii c ∧ ¬ isGap c ∧ c ≠ ']' := by
  rcases opening with rfl | rfl <;> decide

/-- What stands between brackets is taken by a reader that goes by the opening one. -/
theorem takes_enclosed {f : Option Char → Read α} {c d : Char} {ws : List Char}
    (opening : c = '[' ∨ c = '\x7b')
    (inside : ∀ rest, Reads (f (some c)) (c :: (ws ++ d :: rest)) v rest) :
    Takes (Read.token >>= f) (c :: (ws ++ [d])) v := by
  have plain := plain_of_opening opening
  refine ⟨⟨c, _, rfl, plain⟩, fun gap rest blank _ => ?_⟩
  rw [List.cons_append, List.append_assoc]
  exact (reads_token blank plain.1 plain.2.1).bind (inside rest)

theorem SpellsText.readAll {l : Language} {bs : List UInt8} (h : SpellsText l bs)
    (takes : ∀ w, l w → Takes r w v) : readAll r bs = .ok v := by
  obtain ⟨gap, w, gap', blank, spelled, blank', rfl⟩ := h
  have closed : Closes gap' := by
    have ended : Closes [] := nofun
    simpa using ended.gap blank'
  exact readAll_of_reads ((takes w spelled).reads gap gap' blank closed) blank'

theorem Starts.pos (h : Starts w) : 0 < w.length := by
  obtain ⟨c, cs, rfl, -⟩ := h
  exact Nat.succ_pos _

theorem SpellsNatural.digits {n : Nat} (h : SpellsNatural n w) :
    ∃ d ds, w = d :: ds ∧ d.isDigit := by
  have digits : w = Nat.toDigits 10 n := by
    rw [h, Nat.toString_eq_ofList_toDigits, String.toList_ofList]
  obtain ⟨d, ds, first⟩ := List.exists_cons_of_ne_nil (Nat.toDigits_ne_nil (b := 10) (n := n))
  refine ⟨d, ds, digits.trans first, ?_⟩
  exact Nat.isDigit_of_mem_toDigits (by decide) (by decide) (first ▸ List.mem_cons_self)

theorem solid_of_isDigit {d : Char} (digit : d.isDigit) :
    isAscii d ∧ ¬ isGap d ∧ d ≠ ']' := by
  refine ⟨isAscii_of_isDigit digit, fun blank => ?_, ?_⟩
  · simp only [isGap, Bool.or_eq_true, decide_eq_true_eq] at blank
    rcases blank with ((rfl | rfl) | rfl) | rfl <;> cases digit
  · rintro rfl
    cases digit

theorem SpellsNatural.starts {n : Nat} (h : SpellsNatural n w) : Starts w := by
  obtain ⟨d, ds, first, digit⟩ := h.digits
  exact ⟨d, ds, first, solid_of_isDigit digit⟩

theorem takes_natural {n bound : Nat} (h : SpellsNatural n w) (small : n ≤ bound)
    (fits : bound ≤ Number.maxWord64) (wanted : String) : Takes (natural bound wanted) w n := by
  refine ⟨h.starts, fun gap rest blank closed => ?_⟩
  cases h
  exact reads_natural small fits wanted blank closed.endsNumber

theorem SpellsString.starts {s : String} (h : SpellsString s w) : Starts w := by
  obtain ⟨cs, rfl, -⟩ := h.reads
  exact ⟨'"', cs, rfl, rfl, by decide, by decide⟩

theorem takes_text {s : String} (h : SpellsString s w) : Takes text w s := by
  refine ⟨h.starts, fun gap rest blank _ => ?_⟩
  obtain ⟨cs, rfl, inside⟩ := h.reads
  exact (reads_token blank rfl (by decide)).bind ((reads_advance rfl).bind (inside rest))

end Values

section Lists

variable {α : Type} {item : Read α} {first : Bool} {parts : List Language} {ws rest : List Char}

theorem closes_listEnd (rest : List Char) : Closes (']' :: rest) := by
  rintro c ⟨⟩
  exact Or.inr (Or.inr (Or.inl rfl))

theorem closes_objectEnd (rest : List Char) : Closes ('\x7d' :: rest) := by
  rintro c ⟨⟩
  exact Or.inr (Or.inr (Or.inr rfl))

/-- As many steps as there are bytes are enough for the parts that stand in them. -/
theorem length_lt_budget (ws rest : List Char) :
    ws.length < (Text.Utf8.encode (ws ++ rest)).length + 1 := by
  have long := length_le_encode (ws ++ rest)
  rw [List.length_append] at long
  omega

theorem Starts.reads_moreItems {lead w : List Char} (h : Starts w) (leads : Lead first lead)
    (rest : List Char) : Reads (moreItems first) (lead ++ (w ++ rest)) true (w ++ rest) := by
  obtain ⟨c, cs, rfl, ascii, solid, more⟩ := h
  exact Json.reads_moreItems leads ascii solid more _

theorem Series.reads_items {vs : List α} (h : Series first parts ws)
    (each : List.Forall₂ (fun part v => ∀ w, part w → Takes item w v) parts vs) {fuel : Nat}
    (enough : ws.length < fuel) :
    Reads (items item fuel first) (ws ++ ']' :: rest) vs (']' :: rest) := by
  induction h generalizing vs fuel with
  | done blank =>
    obtain ⟨fuel, rfl⟩ : ∃ k, fuel = k + 1 := ⟨fuel - 1, by omega⟩
    cases each
    exact (reads_moreItems_end blank _ rest).bind (reads_pure [] _)
  | @part first part parts lead w ws leads spelled others ih =>
    obtain ⟨fuel, rfl⟩ : ∃ k, fuel = k + 1 := ⟨fuel - 1, by omega⟩
    obtain ⟨v, vs, takes, each', rfl⟩ := List.forall₂_cons_left_iff.mp each
    have taken := takes w spelled
    have long := taken.starts.pos
    simp only [List.length_append] at enough
    rw [List.append_assoc, List.append_assoc]
    refine (taken.starts.reads_moreItems leads _).bind ?_
    refine (taken.reads [] _ isGap_nil (others.closes (closes_listEnd rest))).bind ?_
    exact (ih each' (by omega)).bind (reads_pure (v :: vs) _)

theorem takes_list {vs : List α} {w : List Char} (h : SpellsList parts w)
    (each : List.Forall₂ (fun part v => ∀ w, part w → Takes item w v) parts vs) :
    Takes (list item) w vs := by
  obtain ⟨ws, series, rfl⟩ := h
  refine takes_enclosed (Or.inl rfl) fun rest => Reads.inList (reads_get fun _ => ?_)
  exact series.reads_items each (length_lt_budget ws _)

end Lists

section Members

variable {first : Bool} {lead name : List Char} {s : String}

theorem SpellsString.reads_memberName (h : SpellsString s name) (rest : List Char) :
    Reads memberName (name ++ rest) s rest := by
  obtain ⟨cs, rfl, inside⟩ := h.reads
  exact (reads_advance rfl).bind (inside rest)

theorem SpellsString.reads_moreMembers (h : SpellsString s name) (leads : Lead first lead)
    (rest : List Char) :
    Reads (moreMembers first) (lead ++ (name ++ rest)) true (name ++ rest) := by
  obtain ⟨cs, rfl, -⟩ := h.reads
  exact Json.reads_moreMembers leads _

end Members

end HostWatch.Json
