import HostWatch.Proofs.Text.Utf8

namespace HostWatch.Text.Utf8

/-- Bytes at the front of a byte string that are replaced together: no character stands there, and
they are the most bytes that begin one, or a single byte if none does. -/
structure IllFormed (sub rest : List UInt8) : Prop where
  some : sub ≠ []
  noChar : ∀ c, ¬ String.utf8EncodeChar c <+: sub ++ rest
  begins : Begins sub ∨ sub.length = 1
  most : ∀ longer, longer <+: sub ++ rest → sub.length < longer.length → ¬ Begins longer

/-- A text is the lossy decoding of a byte string: characters for their encodings, and a replacement
for every maximal ill-formed sequence between them. -/
inductive Decodes : List UInt8 → List Char → Prop
  | nil : Decodes [] []
  | char {rest : List UInt8} {text : List Char} (c : Char) : Decodes rest text →
      Decodes (String.utf8EncodeChar c ++ rest) (c :: text)
  | bad {sub rest : List UInt8} {text : List Char} : IllFormed sub rest → Decodes rest text →
      Decodes (sub ++ rest) (replacement :: text)

theorem not_begins_longer {sub longer rest : List UInt8} {x : UInt8}
    (next : ¬ Begins (sub ++ [x])) (front : longer <+: sub ++ x :: rest)
    (len : sub.length < longer.length) : ¬ Begins longer := by
  intro h
  apply next
  apply h.of_prefix
  have whole : sub ++ [x] <+: sub ++ x :: rest := ⟨rest, by simp⟩
  exact List.prefix_of_prefix_length_le whole front (by simpa using Nat.succ_le_of_lt len)

theorem noChar_of_firstChar {b : UInt8} {bs : List UInt8}
    (h : ∀ c rest, firstChar b bs ≠ .char c rest) (c : Char) :
    ¬ String.utf8EncodeChar c <+: b :: bs :=
  fun ⟨rest, eq⟩ => h c rest (firstChar_eq_char_iff.mpr eq.symm)

theorem illFormed_of_cut {b : UInt8} {bs : List UInt8} (h : firstChar b bs = .cut) :
    IllFormed (b :: bs) [] where
  some := by simp
  noChar c := by
    rw [List.append_nil]
    exact noChar_of_firstChar (fun _ _ => by simp [h]) c
  begins := Or.inl (begins_of_cut h)
  most longer front len := by
    have := front.length_le
    simp only [List.append_nil] at this
    omega

theorem illFormed_of_bad {b : UInt8} {bs rest : List UInt8} (h : firstChar b bs = .bad rest) :
    ∃ sub, b :: bs = sub ++ rest ∧ IllFormed sub rest := by
  have noChar : ∀ c, ¬ String.utf8EncodeChar c <+: b :: bs :=
    noChar_of_firstChar fun _ _ => by simp [h]
  rcases firstChar_bad h with ⟨no, rfl⟩ | ⟨sub, x, more, rfl, rfl, cut, bad⟩
  · have alone : firstChar b [] = .bad [] := by simp [firstChar, no]
    refine ⟨[b], rfl, by simp, noChar, Or.inr rfl, ?_⟩
    intro longer front len begins
    refine not_begins_of_bad alone (begins.of_prefix ?_)
    exact List.prefix_of_prefix_length_le ⟨rest, rfl⟩ front (Nat.le_of_lt len)
  · refine ⟨b :: sub, rfl, by simp, noChar, Or.inl (begins_of_cut cut), ?_⟩
    intro longer front len
    exact not_begins_longer (not_begins_of_bad bad) front len

theorem IllFormed.unique {sub rest sub' rest' : List UInt8} (h : IllFormed sub rest)
    (h' : IllFormed sub' rest') (eq : sub ++ rest = sub' ++ rest') : sub = sub' ∧ rest = rest' := by
  have shorter {a b r s : List UInt8} (ha : IllFormed a r) (hb : IllFormed b s)
      (eq : a ++ r = b ++ s) : b.length ≤ a.length := by
    apply Nat.le_of_not_lt
    intro longer
    have pos := List.length_pos_iff.mpr ha.some
    rcases hb.begins with begins | single
    · exact ha.most b ⟨s, eq.symm⟩ longer begins
    · omega
  have len := Nat.le_antisymm (shorter h' h eq.symm) (shorter h h' eq)
  exact List.append_inj eq len

theorem lossy_char {rest : List UInt8} (c : Char) :
    lossy (String.utf8EncodeChar c ++ rest) = c :: lossy rest := by
  obtain ⟨b, bs, enc, -⟩ := firstChar_utf8EncodeChar c
  have found : firstChar b (bs ++ rest) = .char c rest :=
    firstChar_eq_char_iff.mpr (by rw [enc, List.cons_append])
  rw [enc, List.cons_append, lossy]
  split <;> simp_all

theorem lossy_bad {sub rest : List UInt8} (h : IllFormed sub rest) :
    lossy (sub ++ rest) = replacement :: lossy rest := by
  obtain ⟨b, bs, whole⟩ : ∃ b bs, sub ++ rest = b :: bs := by
    cases hs : sub with
    | nil => exact absurd hs h.some
    | cons b bs => exact ⟨b, bs ++ rest, rfl⟩
  rw [whole, lossy]
  split
  next c more found =>
    have enc := firstChar_eq_char_iff.mp found
    exact absurd ⟨more, by rw [whole, enc]⟩ (h.noChar c)
  next more found =>
    obtain ⟨sub', eq, h'⟩ := illFormed_of_bad found
    rw [(h.unique h' (whole.trans eq)).2]
  next found =>
    have eq := (h.unique (illFormed_of_cut found) (by simpa using whole)).2
    rw [eq, lossy]

theorem decodes_iff {bs : List UInt8} {text : List Char} : Decodes bs text ↔ text = lossy bs := by
  constructor
  · intro h
    induction h with
    | nil => rw [lossy]
    | char c _ ih => rw [lossy_char, ih]
    | bad ill _ ih => rw [lossy_bad ill, ih]
  · rintro rfl
    fun_induction lossy bs with
    | case1 => exact .nil
    | case2 b bs c rest found ih =>
      rw [firstChar_eq_char_iff.mp found]
      exact .char c ih
    | case3 b bs rest found ih =>
      obtain ⟨sub, eq, ill⟩ := illFormed_of_bad found
      rw [eq]
      exact .bad ill ih
    | case4 b bs found => simpa using Decodes.bad (illFormed_of_cut found) .nil

theorem split_char {b : UInt8} {bs rest : List UInt8} {c : Char}
    (h : firstChar b bs = .char c rest) :
    split (b :: bs) = (c :: (split rest).1, (split rest).2) := by
  rw [split]
  split <;> simp_all

theorem split_bad {b : UInt8} {bs rest : List UInt8} (h : firstChar b bs = .bad rest) :
    split (b :: bs) = (replacement :: (split rest).1, (split rest).2) := by
  rw [split]
  split <;> simp_all

theorem split_cut {b : UInt8} {bs : List UInt8} (h : firstChar b bs = .cut) :
    split (b :: bs) = ([], b :: bs) := by
  rw [split]
  split <;> simp_all

/-- Decoding what a byte string completes and then the rest is decoding it all. -/
theorem lossy_eq_split (bs : List UInt8) : lossy bs = (split bs).1 ++ lossy (split bs).2 := by
  fun_induction lossy bs with
  | case1 => simp [split, lossy]
  | case2 b bs c rest found ih => simp [split_char found, ih]
  | case3 b bs rest found ih => simp [split_bad found, ih]
  | case4 b bs found =>
    have last := lossy_bad (illFormed_of_cut found)
    simp only [List.append_nil] at last
    simp [split_cut found, last, lossy]

/-- Where a byte string is cut makes no difference: what the first part holds back is split with the
second part. -/
theorem split_append (bs more : List UInt8) :
    split (bs ++ more) =
      ((split bs).1 ++ (split ((split bs).2 ++ more)).1, (split ((split bs).2 ++ more)).2) := by
  fun_induction lossy bs with
  | case1 => simp [split]
  | case2 b bs c rest found ih =>
    rw [List.cons_append, split_char (firstChar_append_char found more), split_char found, ih]
    rfl
  | case3 b bs rest found ih =>
    rw [List.cons_append, split_bad (firstChar_append_bad found more), split_bad found, ih]
    rfl
  | case4 b bs found => simp [split_cut found]

theorem split_held (bs : List UInt8) : split (split bs).2 = ([], (split bs).2) := by
  fun_induction lossy bs with
  | case1 => simp [split]
  | case2 b bs c rest found ih => simpa [split_char found] using ih
  | case3 b bs rest found ih => simpa [split_bad found] using ih
  | case4 b bs found => simp [split_cut found]

theorem lossy_of_held {bytes : List UInt8} (held : split bytes = ([], bytes)) :
    lossy bytes = if bytes = [] then [] else [replacement] := by
  cases bytes with
  | nil => rw [lossy]; rfl
  | cons b bs =>
    cases found : firstChar b bs with
    | char c rest => simp [split_char found] at held
    | bad rest => simp [split_bad found] at held
    | cut =>
      have whole := lossy_bad (illFormed_of_cut found)
      rw [List.append_nil] at whole
      rw [whole, lossy]
      rfl

theorem split_encode (cs : List Char) : split (encode cs) = (cs, []) := by
  induction cs with
  | nil => simp [encode, split]
  | cons c cs ih =>
    obtain ⟨b, bs, enc, -⟩ := firstChar_utf8EncodeChar c
    have whole : encode (c :: cs) = b :: (bs ++ encode cs) := by
      simp [encode, enc]
    have found : firstChar b (bs ++ encode cs) = .char c (encode cs) :=
      firstChar_eq_char_iff.mpr (by rw [enc, List.cons_append])
    rw [whole, split_char found, ih]

namespace Stream

/-- The texts that pieces complete one after another, and the stream after them. -/
def pushAll (s : Stream) : List (List UInt8) → List (List Char) × Stream
  | [] => ([], s)
  | piece :: pieces =>
    ((s.push piece).1 :: ((s.push piece).2.pushAll pieces).1, ((s.push piece).2.pushAll pieces).2)

theorem pushAll_eq_split (s : Stream) (pieces : List (List UInt8))
    (h : split s.held = ([], s.held)) :
    split (s.held ++ pieces.flatten) =
      ((s.pushAll pieces).1.flatten, (s.pushAll pieces).2.held) := by
  induction pieces generalizing s with
  | nil => simpa [pushAll] using h
  | cons piece pieces ih =>
    have later := ih (s.push piece).2 (split_held (s.held ++ piece))
    rw [List.flatten_cons, ← List.append_assoc, split_append]
    change ((s.push piece).1 ++ (split ((s.push piece).2.held ++ pieces.flatten)).1,
      (split ((s.push piece).2.held ++ pieces.flatten)).2) = _
    rw [later]
    rfl

/-- Text in pieces is decoded as if it had arrived at once, and well-formed text is given back
exactly, however it is cut. -/
theorem pushAll_flush_eq_lossy (pieces : List (List UInt8)) :
    let fed : List (List Char) × Stream := ({} : Stream).pushAll pieces
    let texts := fed.1.flatten
    let last := fed.2.flush.1
    texts ++ last = lossy pieces.flatten ∧
      (∀ text, Decodes pieces.flatten text ↔ text = texts ++ last) ∧
      ∀ cs, pieces.flatten = encode cs → texts = cs ∧ last = [] := by
  intro fed texts last
  have parts : split pieces.flatten = (texts, fed.2.held) :=
    pushAll_eq_split {} pieces (by simp [split])
  have whole : texts ++ last = lossy pieces.flatten := by
    rw [lossy_eq_split pieces.flatten, parts]
    rfl
  refine ⟨whole, fun text => by rw [whole]; exact decodes_iff, ?_⟩
  intro cs eq
  rw [eq, split_encode, Prod.mk.injEq] at parts
  refine ⟨parts.1.symm, ?_⟩
  change lossy fed.2.held = []
  rw [← parts.2, lossy]

/-- A cut euro sign, a lead that nothing follows, and a surrogate. -/
example : (({} : Stream).pushAll [[0xE2, 0x82], [0xAC, 0xC3], [0xED, 0xA0, 0x80]]).1 =
    [[], ['€'], List.replicate 4 replacement] := by
  cbv

end Stream

end HostWatch.Text.Utf8
