import HostWatch.Json.Printer
import HostWatch.Proofs.Json.Reading
import HostWatch.Proofs.Text.Utf8
import Mathlib.Data.List.Forall2

namespace HostWatch

namespace Text.Utf8

theorem text?_encode (cs : List Char) : text? (encode cs) = some (String.ofList cs) := by
  unfold text?
  rw [strict?_encode]
  rfl

end Text.Utf8

namespace Json

open Text.Utf8 (encode)

section Strings

variable {c d : Char} {cs rest : List Char}

theorem reads_escaped (ascii : isAscii d) (short : shortEscape? d = some c) :
    Reads escaped (d :: rest) c rest := by
  refine (reads_peek ascii).bind ((reads_advance ascii).bind ?_)
  simp only [short]
  exact reads_pure c rest

theorem reads_hexEscape {a b c d : Char} {n : Nat} (ha : isAscii a) (hb : isAscii b)
    (hc : isAscii c) (hd : isAscii d)
    (value : hexValue? [UInt8.ofNat a.toNat, UInt8.ofNat b.toNat, UInt8.ofNat c.toNat,
      UInt8.ofNat d.toNat] = some n) : Reads hexEscape (a :: b :: c :: d :: rest) n rest := by
  intro p
  rw [encode_ascii ha, encode_ascii hb, encode_ascii hc, encode_ascii hd]
  unfold hexEscape
  simp only [value]
  exact ⟨_, rfl⟩

theorem control_digits : ∀ n : Fin 32,
    isAscii (Nat.digitChar (n / 16)) ∧ isAscii (Nat.digitChar (n % 16)) ∧
      hexValue? [0x30, 0x30, UInt8.ofNat (Nat.digitChar (n / 16)).toNat,
        UInt8.ofNat (Nat.digitChar (n % 16)).toNat] = some n.val := by
  decide

theorem reads_escaped_control (control : c.toNat < 0x20) :
    Reads escaped ("u00".toList ++ [Nat.digitChar (c.toNat / 16), Nat.digitChar (c.toNat % 16)] ++
      rest) c rest := by
  obtain ⟨high, low, value⟩ := control_digits ⟨c.toNat, control⟩
  have digits : Reads hexEscape ('0' :: '0' :: Nat.digitChar (c.toNat / 16) ::
      Nat.digitChar (c.toNat % 16) :: rest) c.toNat rest := reads_hexEscape rfl rfl high low value
  have leading : isLeadingSurrogate c.toNat = false := by
    simp only [isLeadingSurrogate, Bool.and_eq_false_iff, decide_eq_false_iff_not]
    omega
  have trailing : isTrailingSurrogate c.toNat = false := by
    simp only [isTrailingSurrogate, Bool.and_eq_false_iff, decide_eq_false_iff_not]
    omega
  have point : Reads codePoint
      ('0' :: '0' :: Nat.digitChar (c.toNat / 16) :: Nat.digitChar (c.toNat % 16) :: rest)
      c rest := by
    refine digits.bind ?_
    simp only [leading, trailing, Bool.false_eq_true, if_false, Char.ofNat_toNat]
    exact reads_pure c rest
  refine (reads_peek (c := 'u') rfl).bind ((reads_advance rfl).bind ?_)
  exact point

/-- What stands for a character in a string: the character as it is, or an escape that is read
as it. -/
def StandsFor (c : Char) (w : List Char) : Prop :=
  (w = [c] ∧ c ≠ '"' ∧ c ≠ '\\' ∧ 0x20 ≤ c.toNat) ∨
    ∃ cs, w = '\\' :: cs ∧ ∀ rest, Reads escaped (cs ++ rest) c rest

theorem standsFor_escapeChar (c : Char) : StandsFor c (escapeChar c) := by
  have short {d : Char} (ascii : isAscii d) (stands : shortEscape? d = some c)
      (written : escapeChar c = ['\\', d]) :
      ∃ cs, escapeChar c = '\\' :: cs ∧ ∀ rest, Reads escaped (cs ++ rest) c rest :=
    ⟨[d], written, fun _ => reads_escaped ascii stands⟩
  by_cases quote : c = '"'
  · subst quote
    exact Or.inr (short (d := '"') rfl rfl rfl)
  by_cases backslash : c = '\\'
  · subst backslash
    exact Or.inr (short (d := '\\') rfl rfl rfl)
  by_cases back : c = '\x08'
  · subst back
    exact Or.inr (short (d := 'b') rfl rfl rfl)
  by_cases feed : c = '\x0c'
  · subst feed
    exact Or.inr (short (d := 'f') rfl rfl rfl)
  by_cases line : c = '\n'
  · subst line
    exact Or.inr (short (d := 'n') rfl rfl rfl)
  by_cases back' : c = '\r'
  · subst back'
    exact Or.inr (short (d := 'r') rfl rfl rfl)
  by_cases tab : c = '\t'
  · subst tab
    exact Or.inr (short (d := 't') rfl rfl rfl)
  by_cases control : c.toNat < 0x20
  · refine Or.inr ⟨_, ?_, fun rest => reads_escaped_control control⟩
    simp only [escapeChar, quote, backslash, back, feed, line, back', tab, control, if_true,
      if_false]
    rfl
  · refine Or.inl ⟨?_, quote, backslash, Nat.le_of_not_lt control⟩
    simp only [escapeChar, quote, backslash, back, feed, line, back', tab, control, if_false]

def isPlain (b : UInt8) : Prop := b ≠ 0x22 ∧ b ≠ 0x5C ∧ ¬ b < 0x20

theorem isPlain_of_le {b : UInt8} (h : 0x80 ≤ b.toNat) : isPlain b := by
  refine ⟨?_, ?_, ?_⟩
  · rintro rfl
    exact absurd h (by decide)
  · rintro rfl
    exact absurd h (by decide)
  · rw [UInt8.lt_iff_toNat_lt]
    exact fun low => absurd (Nat.lt_of_lt_of_le low (by decide)) (Nat.not_lt.mpr h)

theorem isPlain_of_mem (h : c ≠ '"' ∧ c ≠ '\\' ∧ 0x20 ≤ c.toNat) :
    ∀ b ∈ String.utf8EncodeChar c, isPlain b := by
  obtain ⟨quote, backslash, solid⟩ := h
  intro b mem
  by_cases ascii : isAscii c
  · rw [utf8EncodeChar_ascii ascii, List.mem_singleton] at mem
    subst mem
    have value := toNat_ascii ascii
    refine ⟨?_, ?_, ?_⟩
    · intro same
      rw [same] at value
      exact quote (Char.toNat_inj.mp value.symm)
    · intro same
      rw [same] at value
      exact backslash (Char.toNat_inj.mp value.symm)
    · rw [UInt8.lt_iff_toNat_lt, value]
      exact Nat.not_lt.mpr solid
  -- all bytes of a longer character lie above the ASCII ones
  · have high : ¬ c.val.toNat ≤ 127 := fun low => ascii (decide_eq_true (Nat.lt_succ_iff.mpr low))
    have tail (n : Nat) : isPlain (UInt8.ofNat (n % 64 + 128)) :=
      isPlain_of_le (by rw [UInt8.toNat_ofNat']; omega)
    have two (n : Nat) : isPlain (UInt8.ofNat (n % 32 + 192)) :=
      isPlain_of_le (by rw [UInt8.toNat_ofNat']; omega)
    have three (n : Nat) : isPlain (UInt8.ofNat (n % 16 + 224)) :=
      isPlain_of_le (by rw [UInt8.toNat_ofNat']; omega)
    have four (n : Nat) : isPlain (UInt8.ofNat (n % 8 + 240)) :=
      isPlain_of_le (by rw [UInt8.toNat_ofNat']; omega)
    unfold String.utf8EncodeChar at mem
    simp only [high, if_false] at mem
    split at mem
    · simp only [List.mem_cons, List.not_mem_nil, or_false] at mem
      rcases mem with rfl | rfl
      · exact two _
      · exact tail _
    split at mem
    · simp only [List.mem_cons, List.not_mem_nil, or_false] at mem
      rcases mem with rfl | rfl | rfl
      · exact three _
      · exact tail _
      · exact tail _
    · simp only [List.mem_cons, List.not_mem_nil, or_false] at mem
      rcases mem with rfl | rfl | rfl | rfl
      · exact four _
      · exact tail _
      · exact tail _
      · exact tail _

theorem stringBytes_plain {bs : List UInt8} (plain : ∀ b ∈ bs, isPlain b) (fuel : Nat)
    (acc : List (UInt8 × Position)) (more : List UInt8) (p : Position) :
    ∃ (p' : Position) (placed : List (UInt8 × Position)), placed.map Prod.fst = bs ∧
      stringBytes (fuel + bs.length) acc ⟨bs ++ more, p⟩ =
        stringBytes fuel (placed.reverse ++ acc) ⟨more, p'⟩ := by
  induction bs generalizing acc p with
  | nil => exact ⟨p, [], rfl, rfl⟩
  | cons b bs ih =>
    obtain ⟨quote, backslash, control⟩ := plain b List.mem_cons_self
    obtain ⟨p', placed, bytes, eq⟩ := ih (fun b mem => plain b (List.mem_cons_of_mem _ mem))
      ((b, p.after b) :: acc) (p.after b)
    refine ⟨p', (b, p.after b) :: placed, by rw [List.map_cons, bytes], ?_⟩
    rw [List.length_cons, ← Nat.add_assoc, List.cons_append, stringBytes]
    simp only [quote, backslash, control, if_false]
    rw [eq, List.reverse_cons, List.append_assoc]
    rfl

theorem StandsFor.stringBytes {w : List Char} (h : StandsFor c w) {fuel : Nat}
    (enough : (encode w).length ≤ fuel) (acc : List (UInt8 × Position)) (rest : List Char)
    (p : Position) :
    ∃ (fuel' : Nat) (p' : Position) (placed : List (UInt8 × Position)),
      fuel ≤ fuel' + (encode w).length ∧ placed.map Prod.fst = String.utf8EncodeChar c ∧
      stringBytes fuel acc ⟨encode (w ++ rest), p⟩ =
        stringBytes fuel' (placed.reverse ++ acc) ⟨encode rest, p'⟩ := by
  rcases h with ⟨rfl, plain⟩ | ⟨cs, rfl, reads⟩
  · have bytes : encode [c] = String.utf8EncodeChar c := by
      rw [encode_cons, encode_nil, List.append_nil]
    rw [bytes] at enough
    obtain ⟨p', placed, same, eq⟩ := stringBytes_plain (isPlain_of_mem plain)
      (fuel - (String.utf8EncodeChar c).length) acc (encode rest) p
    rw [Nat.sub_add_cancel enough] at eq
    refine ⟨fuel - (String.utf8EncodeChar c).length, p', placed, ?_, same, ?_⟩
    · rw [bytes]
      omega
    · rw [encode_append, bytes, eq]
  · have start (cs : List Char) : encode ('\\' :: cs) = 0x5C :: encode cs := by
      rw [encode_ascii rfl]
      rfl
    rw [start, List.length_cons] at enough
    obtain ⟨fuel, rfl⟩ : ∃ k, fuel = k + 1 := ⟨fuel - 1, by omega⟩
    obtain ⟨p', took⟩ := reads rest (p.after 0x5C)
    refine ⟨fuel, p', (String.utf8EncodeChar c).map (·, p'), ?_, ?_, ?_⟩
    · rw [start, List.length_cons]
      omega
    · rw [List.map_map]
      exact List.map_id _
    · have other : ¬ (0x5C : UInt8) = 0x22 := by decide
      rw [List.cons_append, start, Json.stringBytes]
      simp only [other, if_false, if_true]
      rw [took]

theorem stringBytes_written {ws : List (List Char)} (h : List.Forall₂ StandsFor cs ws)
    {fuel : Nat} (enough : (encode ws.flatten).length < fuel) (acc : List (UInt8 × Position))
    (rest : List Char) (p : Position) :
    ∃ (p' : Position) (placed : List (UInt8 × Position)), placed.map Prod.fst = encode cs ∧
      stringBytes fuel acc ⟨encode (ws.flatten ++ '"' :: rest), p⟩ =
        .ok (acc.reverse ++ placed, ⟨encode rest, p'⟩) := by
  induction h generalizing fuel acc p with
  | nil =>
    obtain ⟨fuel, rfl⟩ : ∃ k, fuel = k + 1 := ⟨fuel - 1, by omega⟩
    refine ⟨p.after 0x22, [], rfl, ?_⟩
    rw [List.flatten_nil, List.nil_append, encode_ascii rfl, List.append_nil]
    rfl
  | @cons c w cs ws stands others ih =>
    rw [List.flatten_cons, encode_append, List.length_append] at enough
    have first : (encode w).length ≤ fuel := by omega
    obtain ⟨fuel', p', placed, spent, bytes, eq⟩ :=
      stands.stringBytes first acc (ws.flatten ++ '"' :: rest) p
    have left : (encode ws.flatten).length < fuel' := by omega
    obtain ⟨p'', placed', bytes', eq'⟩ := ih left (placed.reverse ++ acc) p'
    refine ⟨p'', placed ++ placed', ?_, ?_⟩
    · rw [List.map_append, bytes, bytes', encode_cons]
    · rw [List.flatten_cons, List.append_assoc, eq, eq', List.reverse_append, List.reverse_reverse,
        List.append_assoc]

theorem reads_string_of_standsFor {ws : List (List Char)} (h : List.Forall₂ StandsFor cs ws)
    (rest : List Char) : Reads string (ws.flatten ++ '"' :: rest) (String.ofList cs) rest := by
  intro p
  have enough : (encode ws.flatten).length <
      (encode (ws.flatten ++ '"' :: rest)).length + 1 := by
    rw [encode_append, List.length_append]
    omega
  obtain ⟨p', placed, bytes, took⟩ := stringBytes_written h enough [] rest p
  refine ⟨p', ?_⟩
  change (Json.stringBytes _ [] _).bind (fun q => _) = _
  rw [took]
  simp only [Except.bind, List.reverse_nil, List.nil_append]
  rw [bytes, Text.Utf8.text?_encode]
  rfl

theorem reads_string (cs rest : List Char) :
    Reads string (cs.flatMap escapeChar ++ '"' :: rest) (String.ofList cs) rest := by
  have stands : List.Forall₂ StandsFor cs (cs.map escapeChar) :=
    List.forall₂_map_right_iff.mpr (List.forall₂_same.mpr fun c _ => standsFor_escapeChar c)
  exact List.flatMap_def ▸ reads_string_of_standsFor stands rest

theorem toList_stringLiteral (s : String) :
    (stringLiteral s).toList = '"' :: (s.toList.flatMap escapeChar ++ ['"']) := by
  unfold stringLiteral
  rw [String.toList_ofList]
  rfl

theorem reads_text (s : String) {gap : List Char} (blank : ∀ c ∈ gap, isGap c)
    (rest : List Char) : Reads text (gap ++ ((stringLiteral s).toList ++ rest)) s rest := by
  rw [toList_stringLiteral, List.cons_append, List.append_assoc]
  have inside := reads_string s.toList rest
  rw [String.ofList_toList] at inside
  exact (reads_token blank rfl (by decide)).bind ((reads_advance rfl).bind inside)

end Strings

section Numbers

theorem isAscii_of_isDigit {c : Char} (h : c.isDigit) : isAscii c := by
  have digit : 48 ≤ c.toNat ∧ c.toNat ≤ 57 := Char.isDigit_iff_toNat.mp h
  exact decide_eq_true (by omega)

theorem digit?_of_isDigit {c : Char} (h : c.isDigit) :
    Number.digit? c = some (c.toNat - '0'.toNat) := by
  have digit : '0' ≤ c ∧ c ≤ '9' := by
    simpa [Char.isDigit, Char.le_def] using h
  unfold Number.digit?
  exact if_pos digit

theorem digitsAt_digits {ds rest : List Char} (digits : ∀ d ∈ ds, d.isDigit)
    (stops : ∀ c ∈ rest.head?, isAscii c ∧ ¬ c.isDigit) :
    Reads Numeral.readDigits (ds ++ rest) (ds.map fun d => d.toNat - '0'.toNat) rest := by
  have digit {c : Char} (ascii : isAscii c) :
      (0x30 ≤ UInt8.ofNat c.toNat ∧ UInt8.ofNat c.toNat ≤ 0x39) ↔ c.isDigit := by
    rw [UInt8.le_iff_toNat_le, UInt8.le_iff_toNat_le, toNat_ascii ascii, Char.isDigit_iff_toNat]
    rfl
  intro p
  suffices h : ∃ p', Numeral.digitsAt.go (encode (ds ++ rest)) p =
      (ds.map fun d => d.toNat - '0'.toNat, ⟨encode rest, p'⟩) by
    obtain ⟨p', found⟩ := h
    exact ⟨p', congrArg Except.ok found⟩
  induction ds generalizing p with
  | nil =>
    refine ⟨p, ?_⟩
    cases rest with
    | nil => rfl
    | cons c cs =>
      obtain ⟨ascii, other⟩ := stops c rfl
      rw [List.nil_append, encode_ascii ascii, Numeral.digitsAt.go,
        if_neg fun inside => other ((digit ascii).mp inside)]
      rfl
  | cons d ds ih =>
    have first := digits d List.mem_cons_self
    have ascii := isAscii_of_isDigit first
    obtain ⟨p', found⟩ := ih (fun d mem => digits d (List.mem_cons_of_mem _ mem))
      (p.after (UInt8.ofNat d.toNat))
    refine ⟨p', ?_⟩
    rw [List.cons_append, encode_ascii ascii, Numeral.digitsAt.go, if_pos ((digit ascii).mpr first),
      found, toNat_ascii ascii]
    rfl

theorem le_ofDigitChars (ds : List Char) (n : Nat) : n ≤ Nat.ofDigitChars 10 ds n := by
  rw [Nat.ofDigitChars_eq_ofDigitChars_zero]
  have grown : n ≤ 10 ^ ds.length * n := Nat.le_mul_of_pos_left n (Nat.pow_pos (by decide))
  exact Nat.le_trans grown (Nat.le_add_right _ _)

theorem absorb_digits (ds : List Char) (n : Nat)
    (fits : Nat.ofDigitChars 10 ds n ≤ Number.maxWord64) :
    Numeral.absorb n (ds.map fun d => d.toNat - '0'.toNat) = (Nat.ofDigitChars 10 ds n, 0) := by
  induction ds generalizing n with
  | nil => rfl
  | cons d ds ih =>
    have step : Nat.ofDigitChars 10 (d :: ds) n =
        Nat.ofDigitChars 10 ds (n * 10 + (d.toNat - '0'.toNat)) := by
      rw [Nat.mul_comm]
      rfl
    rw [step] at fits ⊢
    have below := le_ofDigitChars ds (n * 10 + (d.toNat - '0'.toNat))
    rw [List.map_cons, Numeral.absorb, if_pos (Nat.le_trans below fits)]
    exact ih _ fits

theorem head_toDigits {n : Nat} (pos : 0 < n) : (Nat.toDigits 10 n).head? ≠ some '0' := by
  induction n using Nat.strongRecOn with
  | ind n ih =>
    by_cases small : n < 10
    · rw [Nat.toDigits_of_lt_base small]
      have others : ∀ n : Fin 10, 0 < n.val → [Nat.digitChar n].head? ≠ some '0' := by decide
      exact others ⟨n, small⟩ pos
    · have large : 10 ≤ n := Nat.le_of_not_lt small
      rw [Nat.toDigits_of_base_le (by decide) large, List.head?_append]
      have front := ih (n / 10) (by omega) (by omega)
      cases first : (Nat.toDigits 10 (n / 10)).head? with
      | none => exact absurd (List.head?_eq_none_iff.mp first) Nat.toDigits_ne_nil
      | some c =>
        rw [first] at front
        exact front

def endsNumber (rest : List Char) : Prop :=
  ∀ c ∈ rest.head?, isAscii c ∧ ¬ c.isDigit ∧ c ≠ '.' ∧ c ≠ 'e' ∧ c ≠ 'E'

/-- What a natural number is read as: itself, as long as its digits fit 64 bits. -/
def Numeral.ofDigits (n : Nat) : Read Numeral :=
  let taken := Numeral.absorb 0 ((Nat.toDigits 10 n).map fun d => d.toNat - '0'.toNat)
  if taken.2 ≠ 0 then do return .float (← Numeral.scaled true taken.1 taken.2)
  else pure (.natural taken.1)

theorem Numeral.ofDigits_of_fits {n : Nat} (fits : n ≤ Number.maxWord64) :
    ofDigits n = pure (.natural n) := by
  have value : Nat.ofDigitChars 10 (Nat.toDigits 10 n) 0 = n := Nat.ofDigitChars_ten_toDigits
  have absorbed := absorb_digits (Nat.toDigits 10 n) 0 (value.symm ▸ fits)
  simp only [ofDigits, absorbed, value, ne_eq, not_true_eq_false, if_false]

theorem comesTo_ofDigits (n : Nat) {rest : List Char} (ends : endsNumber rest) :
    ComesTo (Numeral.read true) ((toString n).toList ++ rest) (Numeral.ofDigits n) rest := by
  have digits : ∀ d ∈ Nat.toDigits 10 n, d.isDigit :=
    fun d => Nat.isDigit_of_mem_toDigits (by decide) (by decide)
  have stops : ∀ c ∈ rest.head?, isAscii c ∧ ¬ c.isDigit :=
    fun c mem => ⟨(ends c mem).1, (ends c mem).2.1⟩
  have written : (toString n).toList = Nat.toDigits 10 n := by
    rw [Nat.toString_eq_ofList_toDigits, String.toList_ofList]
  have undigit : (rest.head?.bind Number.digit?).isSome = false := by
    cases following : rest.head? with
    | none => rfl
    | some c =>
      have other : ¬ ('0' ≤ c ∧ c ≤ '9') := by
        simpa [Char.isDigit, Char.le_def] using (ends c following).2.1
      rw [Option.bind_some, Number.digit?, if_neg other]
      rfl
  have next : Reads Read.peek rest rest.head? rest := by
    cases rest with
    | nil => exact reads_peek_end
    | cons c cs => exact reads_peek (ends c rfl).1
  -- nothing that follows makes a fraction or an exponent of the digits
  have point : rest.head? ≠ some '.' := fun h => (ends _ h).2.2.1 rfl
  have small : rest.head? ≠ some 'e' := fun h => (ends _ h).2.2.2.1 rfl
  have large : rest.head? ≠ some 'E' := fun h => (ends _ h).2.2.2.2 rfl
  rw [written]
  unfold Numeral.read
  by_cases zero : n = 0
  · subst zero
    refine ((reads_peek (c := '0') rfl).comesTo _).trans ?_
    refine ((reads_advance rfl).comesTo _).trans ?_
    refine ((reads_pure [] rest).comesTo _).trans ((next.comesTo _).trans ?_)
    simp only [undigit, Bool.false_eq_true, and_false, if_false, Numeral.absorb, ne_eq,
      not_true_eq_false, if_true]
    exact fun p => ⟨p, rfl⟩
  · obtain ⟨d, ds, first⟩ : ∃ d ds, Nat.toDigits 10 n = d :: ds :=
      List.exists_cons_of_ne_nil Nat.toDigits_ne_nil
    have digit := digits d (first ▸ List.mem_cons_self)
    have other : d ≠ '0' := by
      have head := head_toDigits (Nat.pos_of_ne_zero zero)
      rw [first] at head
      exact fun same => head (congrArg some same)
    have taken := digitsAt_digits digits stops
    unfold Numeral.ofDigits
    rw [first] at taken ⊢
    rw [List.cons_append] at taken ⊢
    refine ((reads_peek (isAscii_of_isDigit digit)).comesTo _).trans ?_
    simp only [digit?_of_isDigit digit, other, Option.isSome_some, Bool.not_true,
      Bool.false_eq_true, if_false, false_and]
    refine (taken.comesTo _).trans ((next.comesTo _).trans ?_)
    simp only [if_true]
    exact fun p => ⟨p, rfl⟩

/-- A number in its decimal digits is looked for and found, after any white space. -/
theorem comesTo_numeral (n : Nat) (wanted : String) {gap rest : List Char}
    (blank : ∀ c ∈ gap, isGap c) (ends : endsNumber rest) :
    ComesTo (numeral wanted) (gap ++ ((toString n).toList ++ rest)) (Numeral.ofDigits n) rest := by
  have number := comesTo_ofDigits n ends
  obtain ⟨d, ds, first⟩ : ∃ d ds, (toString n).toList = d :: ds := by
    rw [Nat.toString_eq_ofList_toDigits, String.toList_ofList]
    exact List.exists_cons_of_ne_nil Nat.toDigits_ne_nil
  have digit : d.isDigit := by
    have written : d ∈ Nat.toDigits 10 n := by
      rw [Nat.toString_eq_ofList_toDigits, String.toList_ofList] at first
      exact first ▸ List.mem_cons_self
    exact Nat.isDigit_of_mem_toDigits (by decide) (by decide) written
  have solid : ¬ isGap d := by
    intro blank
    simp only [isGap, Bool.or_eq_true, decide_eq_true_eq] at blank
    rcases blank with ((rfl | rfl) | rfl) | rfl <;> cases digit
  rw [first, List.cons_append] at number ⊢
  refine ((reads_token blank (isAscii_of_isDigit digit) solid).comesTo _).trans ?_
  split
  next none => cases none
  next minus => cases minus; cases digit
  next c _ same =>
    cases same
    simp only [digit?_of_isDigit digit, Option.isSome_some, if_true]
    exact number

theorem reads_natural {n bound : Nat} (small : n ≤ bound) (fits : bound ≤ Number.maxWord64)
    (wanted : String) {gap rest : List Char} (blank : ∀ c ∈ gap, isGap c)
    (ends : endsNumber rest) :
    Reads (natural bound wanted) (gap ++ ((toString n).toList ++ rest)) n rest := by
  have found := comesTo_numeral n wanted blank ends
  rw [Numeral.ofDigits_of_fits (Nat.le_trans small fits)] at found
  refine (found.reads (reads_pure _ rest)).bind ?_
  simp only [Numeral.natural?, small, if_true]
  exact reads_pure n rest

end Numbers

section Layout

theorem isGap_newLine (depth : Nat) : ∀ c ∈ (newLine depth).toList, isGap c := by
  intro c mem
  unfold newLine at mem
  rw [String.toList_append] at mem
  rcases List.mem_append.mp mem with line | space
  · cases List.mem_singleton.mp line
    rfl
  · rw [String.toList_ofList] at space
    cases List.eq_of_mem_replicate space
    rfl

theorem toList_intercalate_cons (sep s : String) (ss : List String) :
    (String.intercalate sep (s :: ss)).toList =
      s.toList ++ ss.flatMap fun s => sep.toList ++ s.toList := by
  induction ss generalizing s with
  | nil => simp
  | cons t ss ih =>
    rw [String.intercalate_cons_cons, String.toList_append, String.toList_append, ih,
      List.flatMap_cons, List.append_assoc, List.append_assoc]

theorem toList_listLiteral_cons (depth : Nat) (s : String) (ss : List String) :
    (listLiteral depth (s :: ss)).toList =
      '[' :: ((newLine (depth + 1)).toList ++ s.toList ++
        (ss.flatMap (fun s => ',' :: (newLine (depth + 1)).toList ++ s.toList) ++
          ((newLine depth).toList ++ [']']))) := by
  simp only [listLiteral, List.isEmpty_cons, Bool.false_eq_true, if_false, String.toList_append,
    toList_intercalate_cons, List.append_assoc]
  rfl

def memberChars (name value : String) : List Char :=
  (stringLiteral name).toList ++ ':' :: ' ' :: value.toList

theorem Shape.reads_memberChars {σ : Type} {s : Shape σ} {f : Field σ} {name value : String}
    {seen : List String} (first : Bool) {fuel : Nat} {x y z : σ} {gap cs rest : List Char}
    (blank : ∀ c ∈ gap, isGap c) (found : s.fields.find? (·.name = name) = some f)
    (unseen : name ∉ seen) (entered : Reads (f.enter x) (' ' :: (value.toList ++ cs)) y cs)
    (others : Reads (s.named fuel (name :: seen) false y) cs z rest) :
    Reads (s.named (fuel + 1) seen first x)
      ((if first then [] else [',']) ++ gap ++ (memberChars name value ++ cs)) z rest := by
  have named := reads_string name.toList (':' :: ' ' :: (value.toList ++ cs))
  rw [String.ofList_toList] at named
  have leads : Lead first ((if first then [] else [',']) ++ gap) := by
    cases first with
    | true => exact blank
    | false => exact ⟨[], gap, rfl, isGap_nil, blank⟩
  have member := Shape.reads_member leads found unseen isGap_nil named entered others
  have written : memberChars name value ++ cs =
      '"' :: (name.toList.flatMap escapeChar ++ '"' :: ':' :: ' ' :: (value.toList ++ cs)) := by
    unfold memberChars
    rw [toList_stringLiteral]
    simp
  rw [written]
  exact member

theorem toList_objectLiteral_cons (depth : Nat) (name value : String)
    (members : List (String × String)) :
    (objectLiteral depth ((name, value) :: members)).toList =
      '\x7b' :: ((newLine (depth + 1)).toList ++ memberChars name value ++
        (members.flatMap (fun m => ',' :: (newLine (depth + 1)).toList ++ memberChars m.1 m.2) ++
          ((newLine depth).toList ++ ['\x7d']))) := by
  simp only [objectLiteral, List.map_cons, List.isEmpty_cons, Bool.false_eq_true, if_false,
    String.toList_append, toList_intercalate_cons, List.append_assoc, List.flatMap_map]
  simp [memberChars]

theorem length_le_encode (cs : List Char) : cs.length ≤ (encode cs).length := by
  induction cs with
  | nil => exact Nat.le_refl _
  | cons c cs ih =>
    obtain ⟨b, bs, code, -⟩ := Text.Utf8.firstChar_utf8EncodeChar c
    rw [encode_cons, code, List.length_append, List.length_cons, List.length_cons]
    omega

theorem length_le_flatMap {α β : Type} {f : α → List β} (long : ∀ a, f a ≠ []) (as : List α) :
    as.length ≤ (as.flatMap f).length := by
  induction as with
  | nil => exact Nat.le_refl _
  | cons a as ih =>
    have first := List.length_pos_iff.mpr (long a)
    rw [List.flatMap_cons, List.length_append, List.length_cons]
    omega

variable {α : Type} {item : Read α} {write : α → String}

theorem reads_list (h : Written item fun v => (write v).toList) (depth : Nat) (vs : List α)
    {gap : List Char} (blank : ∀ c ∈ gap, isGap c) (rest : List Char) :
    Reads (list item) (gap ++ ((listLiteral depth (vs.map write)).toList ++ rest)) vs rest := by
  cases vs with
  | nil =>
    have none : Reads (items item ((encode (']' :: rest)).length + 1) true) (']' :: rest) []
        (']' :: rest) :=
      (reads_moreItems_end isGap_nil true rest).bind (reads_pure [] _)
    have written : (listLiteral depth []).toList ++ rest = '[' :: ']' :: rest := by
      simp [listLiteral]
    rw [List.map_nil, written]
    exact (reads_token blank rfl (by decide)).bind (Reads.inList (reads_get fun _ => none))
  | cons v vs =>
    let inner := (newLine (depth + 1)).toList ++ (write v).toList ++
      (vs.flatMap (fun v => ',' :: (newLine (depth + 1)).toList ++ (write v).toList) ++
        ((newLine depth).toList ++ ']' :: rest))
    have layout : (listLiteral depth ((v :: vs).map write)).toList ++ rest = '[' :: inner := by
      rw [List.map_cons, toList_listLiteral_cons, List.flatMap_map]
      simp [inner]
    have inside {fuel : Nat} (enough : vs.length + 1 < fuel) :
        Reads (items item fuel true) inner (v :: vs) (']' :: rest) :=
      h.reads_items (isGap_newLine _) (isGap_newLine _) v vs enough
    rw [layout]
    refine (reads_token blank rfl (by decide)).bind (Reads.inList (reads_get fun p => inside ?_))
    have items := length_le_flatMap (f := fun v =>
      ',' :: (newLine (depth + 1)).toList ++ (write v).toList) (fun _ => List.cons_ne_nil _ _) vs
    have long := length_le_encode inner
    simp only [inner, List.length_append, List.length_cons] at long ⊢
    omega

end Layout

end Json

end HostWatch
