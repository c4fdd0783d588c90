import HostWatch.Json.Record

namespace HostWatch.Json

open Text.Utf8 (encode)

variable {α β : Type}

/-- A reader takes a value from the beginning of some characters and leaves the others. -/
def Reads (r : Read α) (cs : List Char) (v : α) (rest : List Char) : Prop :=
  ∀ p, ∃ p', r ⟨encode cs, p⟩ = .ok (v, ⟨encode rest, p'⟩)

def ComesTo (r : Read α) (cs : List Char) (r' : Read α) (cs' : List Char) : Prop :=
  ∀ p, ∃ p', r ⟨encode cs, p⟩ = r' ⟨encode cs', p'⟩

def isAscii (c : Char) : Bool := c.toNat < 0x80

def isGap (c : Char) : Bool := c = ' ' || c = '\n' || c = '\t' || c = '\r'

/-- What leads to a part of a list or of an object: white space, and unless the part is the first a
comma within it. -/
def Lead : Bool → List Char → Prop
  | true, w => ∀ c ∈ w, isGap c
  | false, w => ∃ gap gap', w = gap ++ ',' :: gap' ∧ (∀ c ∈ gap, isGap c) ∧ ∀ c ∈ gap', isGap c

@[simp] theorem encode_nil : encode [] = [] := rfl

theorem encode_append (cs cs' : List Char) : encode (cs ++ cs') = encode cs ++ encode cs' :=
  List.flatMap_append

theorem encode_cons (c : Char) (cs : List Char) :
    encode (c :: cs) = String.utf8EncodeChar c ++ encode cs := List.flatMap_cons

theorem utf8EncodeChar_ascii {c : Char} (h : isAscii c) :
    String.utf8EncodeChar c = [UInt8.ofNat c.toNat] := by
  have low : c.val.toNat ≤ 127 := Nat.lt_succ_iff.mp (of_decide_eq_true h)
  unfold String.utf8EncodeChar
  exact if_pos low

theorem encode_ascii {c : Char} (h : isAscii c) (cs : List Char) :
    encode (c :: cs) = UInt8.ofNat c.toNat :: encode cs := by
  rw [encode_cons, utf8EncodeChar_ascii h]
  rfl

theorem toNat_ascii {c : Char} (h : isAscii c) : (UInt8.ofNat c.toNat).toNat = c.toNat := by
  have low : c.toNat < 0x80 := of_decide_eq_true h
  rw [UInt8.toNat_ofNat']
  omega

theorem isAscii_of_isGap {c : Char} (h : isGap c) : isAscii c := by
  simp only [isGap, Bool.or_eq_true, decide_eq_true_eq] at h
  rcases h with ((rfl | rfl) | rfl) | rfl <;> rfl

theorem isBlank_ascii {c : Char} (h : isAscii c) :
    Cursor.isBlank (UInt8.ofNat c.toNat) = isGap c := by
  have same {d : Char} (hd : isAscii d) : UInt8.ofNat c.toNat = UInt8.ofNat d.toNat ↔ c = d := by
    rw [← UInt8.toNat_inj, toNat_ascii h, toNat_ascii hd, Char.toNat_inj]
  have space := same (d := ' ') rfl
  have line := same (d := '\n') rfl
  have tab := same (d := '\t') rfl
  have back := same (d := '\r') rfl
  simp only [Cursor.isBlank, isGap]
  simp only [← space, ← line, ← tab, ← back]
  rfl

section Steps

variable {r : Read α} {f : α → Read β} {v : α} {w : β} {c : Char} {cs rest rest' : List Char}

theorem reads_pure (v : α) (cs : List Char) : Reads (pure v) cs v cs := fun p => ⟨p, rfl⟩

theorem Reads.bind (h : Reads r cs v rest) (h' : Reads (f v) rest w rest') :
    Reads (r >>= f) cs w rest' := by
  intro p
  obtain ⟨middle, first⟩ := h p
  obtain ⟨last, second⟩ := h' middle
  refine ⟨last, ?_⟩
  change (r ⟨encode cs, p⟩).bind (fun q => f q.1 q.2) = _
  rw [first]
  exact second

theorem Reads.comesTo (h : Reads r cs v rest) (f : α → Read β) :
    ComesTo (r >>= f) cs (f v) rest := by
  intro p
  obtain ⟨p', first⟩ := h p
  refine ⟨p', ?_⟩
  change (r ⟨encode cs, p⟩).bind (fun q => f q.1 q.2) = _
  rw [first]
  rfl

theorem ComesTo.trans {r r' r'' : Read α} {cs cs' cs'' : List Char} (h : ComesTo r cs r' cs')
    (h' : ComesTo r' cs' r'' cs'') : ComesTo r cs r'' cs'' := by
  intro p
  obtain ⟨middle, first⟩ := h p
  obtain ⟨last, second⟩ := h' middle
  exact ⟨last, first.trans second⟩

theorem ComesTo.bind {r r' : Read α} {cs cs' : List Char} (h : ComesTo r cs r' cs')
    (f : α → Read β) : ComesTo (r >>= f) cs (r' >>= f) cs' := by
  intro p
  obtain ⟨p', same⟩ := h p
  refine ⟨p', ?_⟩
  change (r ⟨encode cs, p⟩).bind (fun q => f q.1 q.2) = _
  rw [same]
  rfl

theorem ComesTo.reads {r r' : Read α} {cs cs' : List Char} (h : ComesTo r cs r' cs')
    (h' : Reads r' cs' v rest) : Reads r cs v rest := by
  intro p
  obtain ⟨middle, same⟩ := h p
  obtain ⟨last, took⟩ := h' middle
  exact ⟨last, same.trans took⟩

theorem reads_get {f : Cursor → Read β}
    (h : ∀ p, Reads (f ⟨encode cs, p⟩) cs w rest) : Reads (get >>= f) cs w rest := by
  intro p
  obtain ⟨p', took⟩ := h p p
  exact ⟨p', took⟩

theorem reads_advance (h : isAscii c) : Reads Read.advance (c :: cs) () cs := by
  intro p
  refine ⟨p.after (UInt8.ofNat c.toNat), ?_⟩
  rw [encode_ascii h]
  rfl

theorem reads_peek (h : isAscii c) : Reads Read.peek (c :: cs) (some c) (c :: cs) := by
  intro p
  refine ⟨p, ?_⟩
  have whole : Char.ofNat (UInt8.ofNat c.toNat).toNat = c := by
    rw [toNat_ascii h, Char.ofNat_toNat]
  rw [encode_ascii h]
  change Except.ok (some (Char.ofNat (UInt8.ofNat c.toNat).toNat), _) = _
  rw [whole]

theorem reads_peek_end : Reads Read.peek [] none [] := fun p => ⟨p, rfl⟩

theorem reads_skipBlanks {gap : List Char} (blank : ∀ c ∈ gap, isGap c)
    (stops : ∀ c ∈ rest.head?, isAscii c ∧ ¬ isGap c) :
    Reads (modify Cursor.skipBlanks) (gap ++ rest) () rest := by
  intro p
  suffices h : ∃ p', Cursor.skipBlanks.go (encode (gap ++ rest)) p = ⟨encode rest, p'⟩ by
    obtain ⟨p', skipped⟩ := h
    exact ⟨p', congrArg (fun c => Except.ok ((), c)) skipped⟩
  induction gap generalizing p with
  | nil =>
    refine ⟨p, ?_⟩
    cases rest with
    | nil => rfl
    | cons c cs =>
      obtain ⟨ascii, solid⟩ := stops c rfl
      rw [List.nil_append, encode_ascii ascii, Cursor.skipBlanks.go, isBlank_ascii ascii,
        if_neg solid]
  | cons b gap ih =>
    have first := blank b List.mem_cons_self
    have ascii := isAscii_of_isGap first
    rw [List.cons_append, encode_ascii ascii, Cursor.skipBlanks.go, isBlank_ascii ascii,
      if_pos first]
    exact ih (fun c mem => blank c (List.mem_cons_of_mem _ mem)) _

theorem isGap_nil : ∀ c ∈ ([] : List Char), isGap c := by simp

theorem reads_token {gap : List Char} (blank : ∀ c ∈ gap, isGap c) (ascii : isAscii c)
    (solid : ¬ isGap c) : Reads Read.token (gap ++ c :: cs) (some c) (c :: cs) := by
  refine (reads_skipBlanks blank ?_).bind (reads_peek ascii)
  rintro c' ⟨⟩
  exact ⟨ascii, solid⟩

theorem reads_token_end {gap : List Char} (blank : ∀ c ∈ gap, isGap c) :
    Reads Read.token gap none [] := by
  have skipped : Reads (modify Cursor.skipBlanks) (gap ++ []) () [] :=
    reads_skipBlanks blank (by simp)
  rw [List.append_nil] at skipped
  exact skipped.bind reads_peek_end

theorem Reads.settling {settle : Cursor → Cursor} (h : Reads r cs v rest) :
    Reads (Read.settling settle r) cs v rest := by
  intro p
  obtain ⟨p', took⟩ := h p
  refine ⟨p', ?_⟩
  unfold Read.settling
  rw [took]

end Steps

theorem readAll_of_reads {r : Read α} {cs gap : List Char} {v : α} (h : Reads r cs v gap)
    (blank : ∀ c ∈ gap, isGap c) : readAll r (encode cs) = .ok v := by
  obtain ⟨p, took⟩ := h .start
  obtain ⟨p', ended⟩ := reads_token_end blank p
  have first : r.run (Cursor.ofBytes (encode cs)) = pure (v, ⟨encode gap, p⟩) := took
  have last : Read.token.run ⟨encode gap, p⟩ = pure (none, ⟨encode [], p'⟩) := ended
  simp only [readAll, StateT.run_bind, first, pure_bind, last]
  rfl

section Lists

variable {item : Read α} {write : α → List Char} {gap : List Char} {rest : List Char}

/-- How the items of a list are written: each from a character on that begins neither white space
nor what may stand around it. -/
structure Written (item : Read α) (write : α → List Char) : Prop where
  begins : ∀ v, ∃ c cs, write v = c :: cs ∧ isAscii c ∧ ¬ isGap c ∧ c ≠ ']'
  reads : ∀ v rest, Reads item (write v ++ rest) v rest

theorem reads_moreItems {first : Bool} {lead : List Char} (leads : Lead first lead) {c : Char}
    (ascii : isAscii c) (solid : ¬ isGap c) (more : c ≠ ']') (cs : List Char) :
    Reads (moreItems first) (lead ++ c :: cs) true (c :: cs) := by
  cases first with
  | true =>
    refine (reads_token leads ascii solid).bind ?_
    split
    next none => cases none
    next last => cases last; exact absurd rfl more
    next => exact reads_pure true _
  | false =>
    obtain ⟨gap, gap', rfl, blank, blank'⟩ := leads
    rw [List.append_assoc, List.cons_append]
    refine (reads_token blank rfl (by decide)).bind ?_
    refine (reads_advance rfl).bind ((reads_token blank' ascii solid).bind ?_)
    split
    next none => cases none
    next last => cases last; exact absurd rfl more
    next => exact reads_pure true _

theorem reads_moreItems_end (blank : ∀ c ∈ gap, isGap c) (first : Bool) (cs : List Char) :
    Reads (moreItems first) (gap ++ ']' :: cs) false (']' :: cs) :=
  (reads_token blank rfl (by decide)).bind (reads_pure false _)

theorem Written.reads_rest (h : Written item write) (blank : ∀ c ∈ gap, isGap c) {close : List Char}
    (blank' : ∀ c ∈ close, isGap c) (vs : List α) {fuel : Nat} (enough : vs.length < fuel) :
    Reads (items item fuel false)
      (vs.flatMap (fun v => ',' :: gap ++ write v) ++ (close ++ ']' :: rest)) vs (']' :: rest) := by
  induction vs generalizing fuel with
  | nil =>
    obtain ⟨fuel, rfl⟩ : ∃ k, fuel = k + 1 := ⟨fuel - 1, by simp at enough; omega⟩
    exact (reads_moreItems_end blank' false rest).bind (reads_pure [] _)
  | cons v vs ih =>
    obtain ⟨fuel, rfl⟩ : ∃ k, fuel = k + 1 := ⟨fuel - 1, by simp at enough; omega⟩
    obtain ⟨c, cs, first, ascii, solid, more⟩ := h.begins v
    rw [List.flatMap_cons, List.append_assoc, List.append_assoc, first, List.cons_append]
    have leads : Lead false (',' :: gap) := ⟨[], gap, rfl, isGap_nil, blank⟩
    refine (reads_moreItems leads ascii solid more _).bind ?_
    have there := h.reads v (vs.flatMap (fun v => ',' :: gap ++ write v) ++ (close ++ ']' :: rest))
    rw [first, List.cons_append] at there
    exact there.bind ((ih (by simpa using enough)).bind (reads_pure (v :: vs) _))

theorem Written.reads_items (h : Written item write) (blank : ∀ c ∈ gap, isGap c)
    {close : List Char} (blank' : ∀ c ∈ close, isGap c) (v : α) (vs : List α) {fuel : Nat}
    (enough : vs.length + 1 < fuel) :
    Reads (items item fuel true)
      (gap ++ write v ++ (vs.flatMap (fun v => ',' :: gap ++ write v) ++ (close ++ ']' :: rest)))
      (v :: vs) (']' :: rest) := by
  obtain ⟨fuel, rfl⟩ : ∃ k, fuel = k + 1 := ⟨fuel - 1, by omega⟩
  obtain ⟨c, cs, first, ascii, solid, more⟩ := h.begins v
  have there := h.reads v (vs.flatMap (fun v => ',' :: gap ++ write v) ++ (close ++ ']' :: rest))
  rw [List.append_assoc, first, List.cons_append]
  rw [first, List.cons_append] at there
  have leads : Lead true gap := blank
  refine (reads_moreItems leads ascii solid more _).bind ?_
  exact there.bind ((h.reads_rest blank blank' vs (by omega)).bind (reads_pure (v :: vs) _))

theorem reads_listEnd (blank : ∀ c ∈ gap, isGap c) (cs : List Char) :
    Reads listEnd (gap ++ ']' :: cs) () cs :=
  (reads_token blank rfl (by decide)).bind (reads_advance rfl)

/-- What is read of a list may end before the white space ahead of its bracket. -/
theorem Reads.inList_of_gap {r : Read α} {v : α} {cs rest : List Char}
    (blank : ∀ c ∈ gap, isGap c) (h : Reads r cs v (gap ++ ']' :: rest)) :
    Reads (inList r) ('[' :: cs) v rest :=
  (reads_advance rfl).bind (h.settling.bind ((reads_listEnd blank rest).bind (reads_pure v rest)))

theorem Reads.inList {r : Read α} {v : α} {cs rest : List Char}
    (h : Reads r cs v (']' :: rest)) : Reads (inList r) ('[' :: cs) v rest :=
  Reads.inList_of_gap isGap_nil h

end Lists

section Objects

variable {rest : List Char}

theorem reads_colon {gap : List Char} (blank : ∀ c ∈ gap, isGap c) (cs : List Char) :
    Reads colon (gap ++ ':' :: cs) () cs :=
  (reads_token blank rfl (by decide)).bind (reads_advance rfl)

theorem reads_objectEnd (cs : List Char) : Reads objectEnd ('\x7d' :: cs) () cs :=
  (reads_token isGap_nil rfl (by decide)).bind (reads_advance rfl)

theorem Reads.inObject {r : Read α} {v : α} {cs rest : List Char}
    (h : Reads r cs v ('\x7d' :: rest)) : Reads (inObject r) ('\x7b' :: cs) v rest :=
  (reads_advance rfl).bind (h.settling.bind ((reads_objectEnd rest).bind (reads_pure v rest)))

variable {gap : List Char}

theorem reads_moreMembers {first : Bool} {lead : List Char} (leads : Lead first lead)
    (cs : List Char) : Reads (moreMembers first) (lead ++ '"' :: cs) true ('"' :: cs) := by
  cases first with
  | true => exact (reads_token leads rfl (by decide)).bind (reads_pure true _)
  | false =>
    obtain ⟨gap, gap', rfl, blank, blank'⟩ := leads
    rw [List.append_assoc, List.cons_append]
    exact (reads_token blank rfl (by decide)).bind ((reads_advance rfl).bind
      ((reads_token blank' rfl (by decide)).bind (reads_pure true _)))

theorem reads_moreMembers_end (blank : ∀ c ∈ gap, isGap c) (first : Bool) (cs : List Char) :
    Reads (moreMembers first) (gap ++ '\x7d' :: cs) false ('\x7d' :: cs) :=
  (reads_token blank rfl (by decide)).bind (reads_pure false _)

variable {σ : Type} {s : Shape σ} {seen : List String} {x y : σ} {fuel : Nat}

theorem Shape.reads_member {first : Bool} {f : Field σ} {name : String}
    {lead cs value cs' : List Char} {z : σ} (leads : Lead first lead)
    (found : s.fields.find? (·.name = name) = some f) (unseen : name ∉ seen)
    (blank : ∀ c ∈ gap, isGap c) (named : Reads string cs name (gap ++ ':' :: value))
    (entered : Reads (f.enter x) value y cs')
    (others : Reads (s.named fuel (name :: seen) false y) cs' z rest) :
    Reads (s.named (fuel + 1) seen first x) (lead ++ '"' :: cs) z rest := by
  refine (reads_moreMembers leads _).bind ?_
  simp only [if_true]
  refine ((reads_advance rfl).bind named).bind ?_
  simp only [found, unseen, if_false]
  exact (reads_colon blank value).bind (entered.bind others)

theorem Reads.enter {α : Type} {value : Read α} {v : α} {cs : List Char}
    (h : Reads value cs v rest) (name : String) (set : σ → α → σ) :
    Reads ((Field.lenient name value set).enter x) cs (set x v) rest :=
  h.bind (reads_pure _ rest)

theorem Shape.reads_end {first : Bool} (blank : ∀ c ∈ gap, isGap c)
    (complete : s.fields.find? (fun f => !f.optional && !seen.contains f.name) = none)
    (cs : List Char) :
    Reads (s.named (fuel + 1) seen first x) (gap ++ '\x7d' :: cs) x ('\x7d' :: cs) := by
  refine (reads_moreMembers_end blank first cs).bind ?_
  simp only [Bool.false_eq_true, if_false, complete]
  exact reads_pure x _

end Objects

end HostWatch.Json
