import HostWatch.Proofs.Text.Pieces

namespace HostWatch.Text.Utf8

/-- What a look at some bytes comes to: the text up to where they go wrong and the bytes after that,
which are to be looked at again unless they are cut. -/
inductive Look where
  | last (text : List Char) (left : List UInt8)
  | again (text : List Char) (left : List UInt8)
  deriving DecidableEq

/-- Looks at bytes as far as they are well-formed, and at the first that are not. -/
def look (bs : List UInt8) : Look :=
  let text := lossy (bs.take (bs.length - (fromFault bs).length))
  match fromFault bs with
  | [] => .last text []
  | b :: more =>
    match firstChar b more with
    | .bad rest => .again (text ++ [replacement]) rest
    | _ => .last text (b :: more)

/-- Looks at bytes again and again, at most a number of times: the text, and what is left when there
is nothing to be looked at again. -/
def looks : Nat → List UInt8 → Option (List Char × List UInt8)
  | 0, _ => none
  | n + 1, bs =>
    match look bs with
    | .last text left => some (text, left)
    | .again text left => (looks n left).map fun later => (text ++ later.1, later.2)

variable {bs : List UInt8}

theorem encode_append_fromFault (bs : List UInt8) : ∃ cs, bs = encode cs ++ fromFault bs := by
  fun_induction fromFault bs with
  | case1 => exact ⟨[], rfl⟩
  | case2 b bs c rest found ih =>
    obtain ⟨cs, eq⟩ := ih
    refine ⟨c :: cs, ?_⟩
    rw [firstChar_eq_char_iff.mp found, encode, List.flatMap_cons, List.append_assoc, ← encode,
      ← eq]
  | case3 => exact ⟨[], rfl⟩
  | case4 => exact ⟨[], rfl⟩

theorem firstChar_fromFault {b : UInt8} {more : List UInt8} (h : fromFault bs = b :: more) (c : Char)
    (rest : List UInt8) : firstChar b more ≠ .char c rest := by
  fun_induction fromFault bs with
  | case1 => cases h
  | case2 b bs c rest found ih => exact ih h
  | case3 b bs rest found =>
    cases h
    simp [found]
  | case4 b bs found =>
    cases h
    simp [found]

theorem split_encode_append (cs : List Char) (bs : List UInt8) :
    split (encode cs ++ bs) = (cs ++ (split bs).1, (split bs).2) := by
  rw [split_append, split_encode]
  rfl

theorem look_spec (bs : List UInt8) :
    (∃ text left, look bs = .last text left ∧ split bs = (text, left)) ∨
      ∃ text left, look bs = .again text left ∧ left.length < bs.length ∧
        split bs = (text ++ (split left).1, (split left).2) := by
  obtain ⟨cs, eq⟩ := encode_append_fromFault bs
  have length := congrArg List.length eq
  rw [List.length_append] at length
  have front : bs.take (bs.length - (fromFault bs).length) = encode cs := by
    have taken : (encode cs ++ fromFault bs).take (encode cs).length = encode cs := List.take_left
    rw [← eq] at taken
    rwa [show bs.length - (fromFault bs).length = (encode cs).length by omega]
  have text : lossy (encode cs) = cs := by rw [lossy_eq_split, split_encode, lossy, List.append_nil]
  have whole := split_encode_append cs (fromFault bs)
  rw [← eq] at whole
  unfold look
  rw [front, text]
  cases fault : fromFault bs with
  | nil =>
    rw [fault] at whole
    exact Or.inl ⟨cs, [], rfl, by rw [whole]; simp [split]⟩
  | cons b more =>
    rw [fault] at whole
    cases found : firstChar b more with
    | char c rest => exact absurd found (firstChar_fromFault fault c rest)
    | bad rest =>
      refine Or.inr ⟨cs ++ [replacement], rest, by simp [found], ?_, ?_⟩
      · have shorter := firstChar_bad_shrinks found
        rw [fault, List.length_cons] at length
        omega
      · rw [whole, split_bad found]
        simp
    | cut =>
      refine Or.inl ⟨cs, b :: more, by simp [found], ?_⟩
      rw [whole, split_cut found, List.append_nil]

/-- As each look but the last takes off some bytes, one more look than there are bytes is enough. -/
theorem looks_eq_split {n : Nat} (enough : bs.length < n) : looks n bs = some (split bs) := by
  induction n generalizing bs with
  | zero => omega
  | succ n ih =>
    unfold looks
    rcases look_spec bs with ⟨text, left, eq, whole⟩ | ⟨text, left, eq, shorter, whole⟩
    · rw [eq, whole]
    · rw [eq, whole]
      simp only [ih (show left.length < n by omega), Option.map_some]

theorem held_cases (bs : List UInt8) :
    (split bs).2 = [] ∨ ∃ b more, (split bs).2 = b :: more ∧ firstChar b more = .cut := by
  fun_induction lossy bs with
  | case1 => simp [split]
  | case2 b bs c rest found ih => simpa [split_char found] using ih
  | case3 b bs rest found ih => simpa [split_bad found] using ih
  | case4 b bs found => exact Or.inr ⟨b, bs, by simp [split_cut found], found⟩

/-- What was cut may turn out to be another character than the one that stands for what is
ill-formed. -/
theorem firstChar_cut_other {b : UInt8} {bs : List UInt8} (h : firstChar b bs = .cut) :
    ∃ more c, c ≠ replacement ∧ String.utf8EncodeChar c = b :: bs ++ more := by
  obtain ⟨more, c, some, eq⟩ := firstChar_cut h
  by_cases same : c = replacement
  · -- the character before it has the same bytes but for the last one
    have last : String.utf8EncodeChar replacement = [0xEF, 0xBF] ++ [0xBD] := by decide
    have before : String.utf8EncodeChar '\uFFFC' = [0xEF, 0xBF] ++ [0xBC] := by decide
    obtain ⟨front, x, rfl⟩ := (List.eq_nil_or_concat more).resolve_left some
    rw [same, last, List.concat_eq_append, ← List.append_assoc] at eq
    obtain ⟨eq, -⟩ := List.append_inj' eq rfl
    refine ⟨front ++ [0xBC], '\uFFFC', by decide, ?_⟩
    rw [before, eq, List.append_assoc]
  · exact ⟨more, c, same, eq⟩

theorem lossy_append (bs more : List UInt8) :
    lossy (bs ++ more) = (split bs).1 ++ lossy ((split bs).2 ++ more) := by
  rw [lossy_eq_split, split_append, lossy_eq_split ((split bs).2 ++ more), List.append_assoc]

/-- A text is sure to come, whatever bytes come next, just if it has been completed. -/
theorem prefix_lossy_iff {text : List Char} :
    (∀ more, text <+: lossy (bs ++ more)) ↔ text <+: (split bs).1 := by
  constructor
  · intro sure
    rcases held_cases bs with none | ⟨b, more, eq, cut⟩
    · have now := sure []
      rwa [lossy_append, none, List.append_nil, lossy, List.append_nil] at now
    · obtain ⟨rest, c, other, enc⟩ := firstChar_cut_other cut
      have ended := sure []
      have completed := sure rest
      have bad := lossy_bad (illFormed_of_cut cut)
      have char : lossy (String.utf8EncodeChar c) = c :: lossy [] := by
        simpa using @lossy_char [] c
      rw [List.append_nil] at bad
      rw [lossy_append, eq, List.append_nil, bad, lossy] at ended
      rw [lossy_append, eq, ← enc, char, lossy] at completed
      rcases List.prefix_concat_iff.mp ended with rfl | shorter
      · exact absurd (by simpa using completed.eq_of_length (by simp)) other.symm
      · exact shorter
  · rintro shown more
    rw [lossy_append]
    exact shown.trans (List.prefix_append _ _)

namespace Stream

inductive Call where
  | push (piece : List UInt8)
  | flush
  deriving DecidableEq

/-- A stream, the bytes that it has been fed since it was flushed, and the text that it has given for
these. -/
structure Feeding where
  stream : Stream := {}
  fed : List UInt8 := []
  shown : List Char := []

namespace Feeding

def next (f : Feeding) : Call → Feeding
  | .push piece => ⟨(f.stream.push piece).2, f.fed ++ piece, f.shown ++ (f.stream.push piece).1⟩
  | .flush => ⟨f.stream.flush.2, [], []⟩

def run (f : Feeding) (calls : List Call) : Feeding := calls.foldl next f

theorem split_next {f : Feeding} (h : split f.fed = (f.shown, f.stream.held)) (call : Call) :
    split (f.next call).fed = ((f.next call).shown, (f.next call).stream.held) := by
  cases call with
  | push piece =>
    change split (f.fed ++ piece) = _
    rw [split_append, h]
    rfl
  | flush => simp [next, Stream.flush, split]

theorem split_run {f : Feeding} (h : split f.fed = (f.shown, f.stream.held)) (calls : List Call) :
    split (f.run calls).fed = ((f.run calls).shown, (f.run calls).stream.held) := by
  induction calls generalizing f with
  | nil => exact h
  | cons call calls ih => exact ih (split_next h call)

/-- A stream holds back at most three bytes, of a character that lacks others, and shows all the
text that no further bytes can change. -/
theorem held_back_least (calls : List Call) :
    let f := ({} : Feeding).run calls
    let held := f.stream.held
    (held = [] ∨ held ≠ [] ∧ held.length ≤ 3 ∧
      ∃ c more, more ≠ [] ∧ String.utf8EncodeChar c = held ++ more) ∧
    (∀ text, (∀ more, text <+: lossy (f.fed ++ more)) ↔ text <+: f.shown) ∧
    f.stream.flush = (if held = [] then [] else [replacement], ⟨[]⟩) ∧
    ∀ piece, looks ((held ++ piece).length + 1) (held ++ piece) =
      some ((f.stream.push piece).1, (f.stream.push piece).2.held) := by
  intro f held
  have parts : split f.fed = (f.shown, held) := split_run (by simp [split]) calls
  have back : split held = ([], held) := by
    have again := split_held f.fed
    rwa [parts] at again
  refine ⟨?_, fun text => ?_, ?_, fun piece => looks_eq_split (Nat.lt_succ_self _)⟩
  · have cases := held_cases f.fed
    rw [parts] at cases
    rcases cases with none | ⟨b, more, eq, cut⟩
    · exact Or.inl none
    · obtain ⟨rest, c, some, enc⟩ := firstChar_cut cut
      change held = b :: more at eq
      rw [← eq] at enc
      refine Or.inr ⟨by simp [eq], ?_, c, rest, some, enc⟩
      have whole := congrArg List.length enc
      have most := c.utf8Size_le_four
      have pos := List.length_pos_iff.mpr some
      rw [String.length_utf8EncodeChar, List.length_append] at whole
      omega
  · rw [prefix_lossy_iff, parts]
  · rw [Stream.flush, lossy_of_held back]

end Feeding

end Stream

end HostWatch.Text.Utf8
