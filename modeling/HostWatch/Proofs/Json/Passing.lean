import HostWatch.Proofs.Json.Spelling

namespace HostWatch.Json

open Text.Utf8 (encode)

theorem reads_word {cs : List Char} (ascii : cs.all isAscii) (rest : List Char) :
    Reads (word cs) (cs ++ rest) () rest := by
  rw [List.all_eq_true] at ascii
  induction cs with
  | nil => exact reads_pure () rest
  | cons c cs ih =>
    have first := ascii c List.mem_cons_self
    refine (reads_peek first).bind ((reads_advance first).bind ?_)
    simp only [if_true]
    exact ih fun c mem => ascii c (List.mem_cons_of_mem _ mem)

theorem Closes.cases {rest : List Char} (h : Closes rest) :
    rest = [] ∨ ∃ c cs, rest = c :: cs ∧ c ∈ [' ', '\n', '\t', '\r', ',', ']', '\x7d'] := by
  cases rest with
  | nil => exact Or.inl rfl
  | cons c cs =>
    refine Or.inr ⟨c, cs, rfl, ?_⟩
    rcases h c rfl with blank | rfl | rfl | rfl
    · simp only [isGap, Bool.or_eq_true, decide_eq_true_eq] at blank
      rcases blank with ((rfl | rfl) | rfl) | rfl <;> decide
    all_goals decide

namespace Skip

section Strings

variable {c : Char} {w w' cs rest : List Char}

/-- Some characters of a string are passed over, in at most as many steps as they have bytes. -/
def Passed (w : List Char) : Prop :=
  ∀ fuel rest p, (encode w).length ≤ fuel →
    ∃ fuel' p', fuel ≤ fuel' + (encode w).length ∧
      string fuel ⟨encode (w ++ rest), p⟩ = string fuel' ⟨encode rest, p'⟩

theorem passed_nil : Passed [] := fun fuel _ p _ => ⟨fuel, p, Nat.le_refl _, rfl⟩

theorem Passed.append (h : Passed w) (h' : Passed w') : Passed (w ++ w') := by
  intro fuel rest p enough
  rw [encode_append, List.length_append] at enough ⊢
  obtain ⟨fuel', p', spent, eq⟩ := h fuel (w' ++ rest) p (by omega)
  obtain ⟨fuel'', p'', spent', eq'⟩ := h' fuel' rest p' (by omega)
  refine ⟨fuel'', p'', by omega, ?_⟩
  rw [List.append_assoc, eq, eq']

theorem toNat_byte (b : UInt8) : (Char.ofNat b.toNat).toNat = b.toNat := by
  have small : b.toNat < 256 := b.toNat_lt
  have valid : b.toNat.isValidChar := Or.inl (by omega)
  rw [Char.ofNat, dif_pos valid]
  rfl

theorem string_plain {b : UInt8} (plain : isPlain b) (fuel : Nat) (bs : List UInt8)
    (p : Position) : string (fuel + 1) ⟨b :: bs, p⟩ = string fuel ⟨bs, p.after b⟩ := by
  obtain ⟨quote, backslash, control⟩ := plain
  have value := toNat_byte b
  have other (d : Char) (differs : b.toNat ≠ d.toNat) : Char.ofNat b.toNat ≠ d := by
    rintro rfl
    exact differs value.symm
  have notQuote := other '"' fun same => quote (UInt8.toNat_inj.mp same)
  have notBackslash := other '\\' fun same => backslash (UInt8.toNat_inj.mp same)
  have solid : ¬ Char.ofNat b.toNat < ' ' := by
    intro low
    rw [Char.lt_def, UInt32.lt_iff_toNat_lt] at low
    change (Char.ofNat b.toNat).toNat < 0x20 at low
    rw [value] at low
    exact control (UInt8.lt_iff_toNat_lt.mpr low)
  change (if Char.ofNat b.toNat = '"' then Read.advance
    else if Char.ofNat b.toNat = '\\' then _
    else if Char.ofNat b.toNat < ' ' then _
    else _ : Read Unit) ⟨b :: bs, p⟩ = _
  rw [if_neg notQuote, if_neg notBackslash, if_neg solid]
  rfl

theorem string_plains {bs : List UInt8} (plain : ∀ b ∈ bs, isPlain b) (fuel : Nat)
    (more : List UInt8) (p : Position) :
    ∃ p', string (fuel + bs.length) ⟨bs ++ more, p⟩ = string fuel ⟨more, p'⟩ := by
  induction bs generalizing p with
  | nil => exact ⟨p, rfl⟩
  | cons b bs ih =>
    obtain ⟨p', eq⟩ := ih (fun b mem => plain b (List.mem_cons_of_mem _ mem)) (p.after b)
    refine ⟨p', ?_⟩
    rw [List.length_cons, ← Nat.add_assoc, List.cons_append,
      string_plain (plain b List.mem_cons_self), eq]

theorem passed_raw (h : c ≠ '"' ∧ c ≠ '\\' ∧ 0x20 ≤ c.toNat) : Passed [c] := by
  intro fuel rest p enough
  have bytes : encode [c] = String.utf8EncodeChar c := by
    rw [encode_cons, encode_nil, List.append_nil]
  rw [bytes] at enough ⊢
  obtain ⟨p', eq⟩ := string_plains (isPlain_of_mem h) (fuel - (String.utf8EncodeChar c).length)
    (encode rest) p
  rw [Nat.sub_add_cancel enough] at eq
  refine ⟨fuel - (String.utf8EncodeChar c).length, p', by omega, ?_⟩
  rw [encode_append, bytes, eq]

theorem passed_escape (h : ∀ rest, Reads escaped (cs ++ rest) () rest) : Passed ('\\' :: cs) := by
  intro fuel rest p enough
  have start (cs : List Char) : encode ('\\' :: cs) = 0x5C :: encode cs := by
    rw [encode_ascii rfl]
    rfl
  rw [start, List.length_cons] at enough ⊢
  obtain ⟨fuel, rfl⟩ : ∃ k, fuel = k + 1 := ⟨fuel - 1, by omega⟩
  obtain ⟨p', took⟩ := h rest (p.after 0x5C)
  refine ⟨fuel, p', by omega, ?_⟩
  rw [List.cons_append, start]
  change (escaped ⟨encode (cs ++ rest), p.after 0x5C⟩).bind (fun q => string fuel q.2) = _
  rw [took]
  rfl

theorem reads_letter {d : Char} (stands : (d, c) ∈ letters) (rest : List Char) :
    Reads escaped (d :: rest) () rest := by
  obtain ⟨ascii, short⟩ := shortEscape?_of_mem stands
  refine (reads_peek ascii).bind ((reads_advance ascii).bind ?_)
  simp only [short, Option.isSome_some, if_true]
  exact reads_pure () rest

theorem passed_unit {n : Nat} (h : HexUnit n w) (small : n < 0x10000) :
    Passed ('\\' :: 'u' :: w) := by
  refine passed_escape fun rest => ?_
  refine (reads_peek (c := 'u') rfl).bind ((reads_advance rfl).bind ?_)
  exact (h.reads small rest).bind (reads_pure () rest)

theorem passed_spelled (h : SpellsChar c w) : Passed w := by
  have valid := toNat_cases c
  cases h with
  | raw quote backslash solid => exact passed_raw ⟨quote, backslash, solid⟩
  | letter stands => exact passed_escape (reads_letter stands)
  | unit small digits => exact passed_unit digits small
  | pair large high low =>
    exact (passed_unit high (by omega)).append (passed_unit low (by omega))

theorem reads_string {s : String} (h : SpellsString s w) :
    ∃ cs, w = '"' :: cs ∧ ∀ rest,
      Reads (string ((encode (cs ++ rest)).length + 1)) (cs ++ rest) () rest := by
  obtain ⟨ws, spelled, rfl⟩ := h
  refine ⟨_, rfl, fun rest => ?_⟩
  have passed : Passed ws.flatten := by
    generalize s.toList = cs at spelled
    induction spelled with
    | nil => exact passed_nil
    | cons first _ ih => exact (passed_spelled first).append ih
  intro p
  rw [List.append_assoc, encode_append, List.length_append]
  have enough : 0 < (encode ('"' :: rest)).length := by
    rw [encode_ascii rfl]
    exact Nat.succ_pos _
  obtain ⟨fuel, p', spent, eq⟩ := passed
    ((encode ws.flatten).length + (encode ('"' :: rest)).length + 1) ('"' :: rest) p (by omega)
  obtain ⟨fuel, rfl⟩ : ∃ k, fuel = k + 1 := ⟨fuel - 1, by omega⟩
  rw [encode_append] at eq
  refine ⟨p'.after 0x22, ?_⟩
  change string ((encode ws.flatten).length + (encode ('"' :: rest)).length + 1)
    ⟨encode ws.flatten ++ encode ('"' :: rest), p⟩ = _
  rw [eq, encode_ascii rfl]
  rfl

end Strings

section Numbers

variable {n : Nat} {w rest : List Char}

theorem digits_cases (h : SpellsNatural n w) :
    w = ['0'] ∨ ∃ d ds, w = d :: ds ∧ d ≠ '0' ∧ d.isDigit ∧ ∀ d ∈ ds, d.isDigit := by
  have written : w = Nat.toDigits 10 n := by
    rw [h, Nat.toString_eq_ofList_toDigits, String.toList_ofList]
  by_cases zero : n = 0
  · subst zero
    exact Or.inl written
  · obtain ⟨d, ds, first⟩ := List.exists_cons_of_ne_nil (Nat.toDigits_ne_nil (b := 10) (n := n))
    have digits : ∀ d ∈ Nat.toDigits 10 n, d.isDigit :=
      fun d => Nat.isDigit_of_mem_toDigits (by decide) (by decide)
    have head := head_toDigits (Nat.pos_of_ne_zero zero)
    rw [first] at digits head
    refine Or.inr ⟨d, ds, written.trans first, fun same => head (congrArg some same),
      digits d List.mem_cons_self, fun d mem => digits d (List.mem_cons_of_mem _ mem)⟩

theorem reads_after_digits {f : Option Char → Read Unit} (closed : Closes rest)
    (ends : f none = return)
    (goes : [' ', '\n', '\t', '\r', ',', ']', '\x7d'].Forall fun c => f (some c) = return) :
    Reads (Read.peek >>= f) rest () rest := by
  rcases closed.cases with rfl | ⟨c, cs, rfl, mem⟩
  · refine reads_peek_end.bind ?_
    rw [ends]
    exact reads_pure () []
  · have ascii : ∀ c ∈ [' ', '\n', '\t', '\r', ',', ']', '\x7d'], isAscii c :=
      List.all_eq_true.mp (by decide)
    refine (reads_peek (ascii c mem)).bind ?_
    rw [List.forall_iff_forall_mem.mp goes c mem]
    exact reads_pure () _

theorem reads_number (h : SpellsNatural n w) (closed : Closes rest) :
    Reads number (w ++ rest) () rest := by
  have digit {d : Char} (h : d.isDigit) : (Number.digit? d).isSome = true := by
    rw [digit?_of_isDigit h]
    rfl
  have stops : ∀ c ∈ rest.head?, isAscii c ∧ ¬ c.isDigit :=
    fun c mem => ⟨(closed.endsNumber c mem).1, (closed.endsNumber c mem).2.1⟩
  rcases digits_cases h with rfl | ⟨d, ds, rfl, other, first, digits⟩
  · refine (reads_peek (c := '0') rfl).bind ((reads_advance rfl).bind ?_)
    exact reads_after_digits closed rfl ⟨rfl, rfl, rfl, rfl, rfl, rfl, rfl⟩
  · refine (reads_peek (isAscii_of_isDigit first)).bind ?_
    simp only [digit first, Bool.not_true, Bool.false_eq_true, if_false, other]
    refine (reads_advance (isAscii_of_isDigit first)).bind ?_
    exact (digitsAt_digits digits stops).bind
      (reads_after_digits closed rfl ⟨rfl, rfl, rfl, rfl, rfl, rfl, rfl⟩)

end Numbers

section Values

variable {item value : Read Unit} {first : Bool} {parts : List Language} {w ws rest : List Char}

theorem reads_items (h : Series first parts ws) {bound : Nat} (within : ws.length ≤ bound)
    (each : ∀ part ∈ parts, ∀ w, part w → w.length ≤ bound → Takes item w ()) {fuel : Nat}
    (enough : ws.length < fuel) : Reads (items item fuel first) (ws ++ ']' :: rest) () rest := by
  induction h generalizing fuel with
  | done blank =>
    obtain ⟨fuel, rfl⟩ : ∃ k, fuel = k + 1 := ⟨fuel - 1, by omega⟩
    exact (reads_token blank rfl (by decide)).bind (reads_advance rfl)
  | @part first part parts lead w ws leads spelled others ih =>
    obtain ⟨fuel, rfl⟩ : ∃ k, fuel = k + 1 := ⟨fuel - 1, by omega⟩
    simp only [List.length_append] at enough within
    have taken := each part List.mem_cons_self w spelled (by omega)
    have closed := others.closes (closes_listEnd rest)
    have following := ih (by omega) (fun part mem => each part (List.mem_cons_of_mem _ mem))
      (show ws.length < fuel by have := taken.starts.pos; omega)
    rw [List.append_assoc, List.append_assoc]
    cases first with
    | true =>
      have here := taken.reads [] _ isGap_nil closed
      obtain ⟨c, cs, rfl, ascii, solid, more⟩ := taken.starts
      refine (reads_token leads ascii solid).bind ?_
      split
      next none => cases none
      next last => cases last; exact absurd rfl more
      next => exact here.bind following
    | false =>
      obtain ⟨gap, gap', rfl, blank, blank'⟩ := leads
      rw [List.append_assoc, List.cons_append]
      refine (reads_token blank rfl (by decide)).bind ?_
      exact (reads_advance rfl).bind ((taken.reads gap' _ blank' closed).bind following)

theorem reads_member {name : String} {l : Language} (h : SpellsMember name l w) {bound : Nat}
    (within : w.length ≤ bound) (each : ∀ w, l w → w.length ≤ bound → Takes value w ())
    {gap : List Char} (blank : Blank gap) (closed : Closes rest) :
    Reads (member value) (gap ++ (w ++ rest)) () rest := by
  obtain ⟨named, between, blank', spelled⟩ := h
  obtain ⟨cs, rfl, passed⟩ := reads_string named
  simp only [List.length_append, List.length_cons] at within
  have taken := each _ spelled (by omega)
  simp only [List.append_assoc, List.cons_append]
  refine (reads_token blank rfl (by decide)).bind ((reads_advance rfl).bind ?_)
  refine reads_get fun _ => (passed _).bind ?_
  refine (reads_token (c := ':') between rfl (by decide)).bind ?_
  exact (reads_advance rfl).bind (taken.reads _ _ blank' closed)

theorem starts_member {name : String} {l : Language} (h : SpellsMember name l w) :
    ∃ cs, w = '"' :: cs := by
  obtain ⟨named, -, -, -⟩ := h
  obtain ⟨cs, rfl, -⟩ := named.reads
  exact ⟨_, rfl⟩

theorem reads_members {names : List (String × Language)}
    (h : Series first (names.map fun m => SpellsMember m.1 m.2) ws) {bound : Nat}
    (within : ws.length ≤ bound)
    (each : ∀ m ∈ names, ∀ w, m.2 w → w.length ≤ bound → Takes value w ()) {fuel : Nat}
    (enough : ws.length < fuel) :
    Reads (members value fuel first) (ws ++ '\x7d' :: rest) () rest := by
  induction names generalizing first ws fuel with
  | nil =>
    obtain ⟨blank⟩ := h
    obtain ⟨fuel, rfl⟩ : ∃ k, fuel = k + 1 := ⟨fuel - 1, by omega⟩
    exact (reads_token blank rfl (by decide)).bind (reads_advance rfl)
  | cons m names ih =>
    rw [List.map_cons] at h
    obtain ⟨fuel, rfl⟩ : ∃ k, fuel = k + 1 := ⟨fuel - 1, by omega⟩
    cases h with
    | @part _ _ _ lead w ws leads spelled others =>
    simp only [List.length_append] at enough within
    have closed := others.closes (closes_objectEnd rest)
    have long : 0 < w.length := by
      obtain ⟨cs, rfl⟩ := starts_member spelled
      exact Nat.succ_pos _
    have here {gap : List Char} (blank : Blank gap) :=
      reads_member spelled (show w.length ≤ bound by omega) (each m List.mem_cons_self) blank closed
    have following := ih others (by omega) (fun m mem => each m (List.mem_cons_of_mem _ mem))
      (show ws.length < fuel by omega)
    rw [List.append_assoc, List.append_assoc]
    cases first with
    | true =>
      have there := here (show Blank [] from isGap_nil)
      obtain ⟨cs, rfl⟩ := starts_member spelled
      exact (reads_token leads rfl (by decide)).bind (there.bind following)
    | false =>
      obtain ⟨gap, gap', rfl, blank, blank'⟩ := leads
      rw [List.append_assoc, List.cons_append]
      refine (reads_token blank rfl (by decide)).bind ?_
      exact (reads_advance rfl).bind ((here blank').bind following)

theorem takes_number {n : Nat} (h : SpellsNatural n w) (fuel : Nat) :
    Takes (Skip.value (fuel + 1)) w () := by
  obtain ⟨d, ds, first, digit⟩ := h.digits
  obtain ⟨ascii, solid, other⟩ := solid_of_isDigit digit
  refine ⟨⟨d, ds, first, ascii, solid, other⟩, fun gap rest blank closed => ?_⟩
  have passed := reads_number h closed
  rw [first, List.cons_append] at passed ⊢
  refine (reads_token blank ascii solid).bind ?_
  split
  next same => cases same
  next same => cases same; cases digit
  next same => cases same; cases digit
  next same => cases same; cases digit
  next same => cases same; cases digit
  next same => cases same; cases digit
  next same => cases same; cases digit
  next same => cases same; cases digit
  next c _ _ _ _ _ _ _ same =>
    cases same
    simp only [digit?_of_isDigit digit, Option.isSome_some, if_true]
    exact passed

theorem takes_scalar (h : SpellsScalar w) (fuel : Nat) : Takes (Skip.value (fuel + 1)) w () := by
  rcases h with mem | ⟨n, -, spelled⟩ | ⟨s, spelled⟩
  · simp only [List.mem_cons, List.not_mem_nil, or_false] at mem
    rcases mem with rfl | rfl | rfl
    · exact ⟨⟨'n', _, rfl, rfl, by decide, by decide⟩, fun gap rest blank _ =>
        (reads_token (c := 'n') blank rfl (by decide)).bind
          ((reads_advance rfl).bind (reads_word (by decide) rest))⟩
    · exact ⟨⟨'t', _, rfl, rfl, by decide, by decide⟩, fun gap rest blank _ =>
        (reads_token (c := 't') blank rfl (by decide)).bind
          ((reads_advance rfl).bind (reads_word (by decide) rest))⟩
    · exact ⟨⟨'f', _, rfl, rfl, by decide, by decide⟩, fun gap rest blank _ =>
        (reads_token (c := 'f') blank rfl (by decide)).bind
          ((reads_advance rfl).bind (reads_word (by decide) rest))⟩
  · exact takes_number spelled fuel
  · refine ⟨spelled.starts, fun gap rest blank _ => ?_⟩
    obtain ⟨cs, rfl, passed⟩ := reads_string spelled
    refine (reads_token blank rfl (by decide)).bind ((reads_advance rfl).bind ?_)
    exact reads_get fun _ => passed rest

/-- Any value is passed over, however it is written, with as many steps as it has characters. -/
theorem takes_any {depth : Nat} (h : SpellsAny depth w) {fuel : Nat} (enough : w.length < fuel) :
    Takes (Skip.value fuel) w () := by
  induction depth generalizing w fuel with
  | zero =>
    obtain ⟨fuel, rfl⟩ : ∃ k, fuel = k + 1 := ⟨fuel - 1, by omega⟩
    exact takes_scalar h fuel
  | succ depth ih =>
    obtain ⟨fuel, rfl⟩ : ∃ k, fuel = k + 1 := ⟨fuel - 1, by omega⟩
    rcases h with scalar | ⟨n, ws, series, rfl⟩ | ⟨names, ws, series, rfl⟩
    · exact takes_scalar scalar fuel
    · refine takes_enclosed (Or.inl rfl) fun rest => (reads_advance rfl).bind ?_
      simp only [List.length_cons, List.length_append] at enough
      refine reads_get fun _ => reads_items series (Nat.le_refl _) ?_ (length_lt_budget ws _)
      intro part mem w spelled within
      rw [List.eq_of_mem_replicate mem] at spelled
      exact ih spelled (by omega)
    · refine takes_enclosed (Or.inr rfl) fun rest => (reads_advance rfl).bind ?_
      simp only [List.length_cons, List.length_append] at enough
      refine reads_get fun _ => reads_members series (Nat.le_refl _) ?_ (length_lt_budget ws _)
      intro m mem w spelled within
      obtain ⟨name, -, rfl⟩ := List.mem_map.mp mem
      exact ih spelled (by omega)

end Values

end Skip

theorem takes_skipValue {depth : Nat} {w : List Char} (h : SpellsAny depth w) :
    Takes skipValue w () := by
  refine ⟨(Skip.takes_any h (Nat.lt_succ_self _)).starts, fun gap rest blank closed => ?_⟩
  refine reads_get fun _ => ?_
  have enough : w.length < (encode (gap ++ (w ++ rest))).length + 1 := by
    have long := length_le_encode (gap ++ (w ++ rest))
    simp only [List.length_append] at long
    omega
  exact (Skip.takes_any h enough).reads gap rest blank closed

end HostWatch.Json
