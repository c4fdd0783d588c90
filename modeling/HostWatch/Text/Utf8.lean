namespace HostWatch.Text.Utf8

def replacement : Char := '\uFFFD'

/-- What the first byte of a character announces: how many bytes follow, the range of the one after
it, and its own share of the code point. -/
structure Lead where
  following : Nat
  low : UInt8
  high : UInt8
  bits : Nat
  deriving DecidableEq, Repr

/-- The lead of a multi-byte character. The ranges of `E0`, `ED`, `F0` and `F4` leave out overlong
forms, surrogates and what lies above U+10FFFF. -/
def lead? (b : UInt8) : Option Lead :=
  if b < 0x80 then some ⟨0, 0x80, 0xBF, b.toNat⟩
  else if b < 0xC2 then none
  else if b < 0xE0 then some ⟨1, 0x80, 0xBF, b.toNat - 0xC0⟩
  else if b < 0xF0 then
    some ⟨2, if b = 0xE0 then 0xA0 else 0x80, if b = 0xED then 0x9F else 0xBF, b.toNat - 0xE0⟩
  else if b < 0xF5 then
    some ⟨3, if b = 0xF0 then 0x90 else 0x80, if b = 0xF4 then 0x8F else 0xBF, b.toNat - 0xF0⟩
  else none

/-- How a byte string begins: with a character, with bytes that begin none, or with one cut short.
-/
inductive First where
  | char (c : Char) (rest : List UInt8)
  | bad (rest : List UInt8)
  | cut
  deriving DecidableEq, Repr

def following : Nat → UInt8 → UInt8 → Nat → List UInt8 → First
  | 0, _, _, n, bs => .char (Char.ofNat n) bs
  | _ + 1, _, _, _, [] => .cut
  | k + 1, low, high, n, b :: bs =>
    if low ≤ b ∧ b ≤ high then following k 0x80 0xBF (n * 64 + (b.toNat - 0x80)) bs
    else .bad (b :: bs)

def firstChar (b : UInt8) (bs : List UInt8) : First :=
  match lead? b with
  | none => .bad bs
  | some l => following l.following l.low l.high l.bits bs

theorem following_shrinks (k : Nat) (low high : UInt8) (n : Nat) (bs : List UInt8) :
    (∀ c rest, following k low high n bs = .char c rest → rest.length ≤ bs.length) ∧
      (∀ rest, following k low high n bs = .bad rest → rest.length ≤ bs.length) := by
  induction k generalizing low high n bs with
  | zero => simp [following]
  | succ k ih =>
    cases bs with
    | nil => simp [following]
    | cons b bs =>
      unfold following
      split
      next =>
        have h := ih 0x80 0xBF (n * 64 + (b.toNat - 0x80)) bs
        refine ⟨fun c rest e => ?_, fun rest e => ?_⟩
        · have := h.1 c rest e; simp; omega
        · have := h.2 rest e; simp; omega
      next => simp

theorem firstChar_char_shrinks {b : UInt8} {bs rest : List UInt8} {c : Char}
    (h : firstChar b bs = .char c rest) : rest.length ≤ bs.length := by
  unfold firstChar at h
  split at h
  · cases h
  · exact (following_shrinks _ _ _ _ _).1 c rest h

theorem firstChar_bad_shrinks {b : UInt8} {bs rest : List UInt8}
    (h : firstChar b bs = .bad rest) : rest.length ≤ bs.length := by
  unfold firstChar at h
  split at h
  · cases h; exact Nat.le_refl _
  · exact (following_shrinks _ _ _ _ _).2 rest h

/-- The text of a byte string; every maximal ill-formed sequence, a cut one at the end included,
becomes one replacement character. -/
def lossy : List UInt8 → List Char
  | [] => []
  | b :: bs =>
    match _h : firstChar b bs with
    | .char c rest => c :: lossy rest
    | .bad rest => replacement :: lossy rest
    | .cut => [replacement]
termination_by bs => bs.length
decreasing_by
  · have := firstChar_char_shrinks _h; simp; omega
  · have := firstChar_bad_shrinks _h; simp; omega

/-- The text that a byte string completes, and the bytes at its end that begin a further character.
-/
def split : List UInt8 → List Char × List UInt8
  | [] => ([], [])
  | b :: bs =>
    match _h : firstChar b bs with
    | .char c rest => let (text, held) := split rest; (c :: text, held)
    | .bad rest => let (text, held) := split rest; (replacement :: text, held)
    | .cut => ([], b :: bs)
termination_by bs => bs.length
decreasing_by
  · have := firstChar_char_shrinks _h; simp; omega
  · have := firstChar_bad_shrinks _h; simp; omega

def strict? : List UInt8 → Option (List Char)
  | [] => some []
  | b :: bs =>
    match _h : firstChar b bs with
    | .char c rest => (strict? rest).map (c :: ·)
    | .bad _ => none
    | .cut => none
termination_by bs => bs.length
decreasing_by have := firstChar_char_shrinks _h; simp; omega

def fromFault : List UInt8 → List UInt8
  | [] => []
  | b :: bs =>
    match _h : firstChar b bs with
    | .char _ rest => fromFault rest
    | .bad _ => b :: bs
    | .cut => b :: bs
termination_by bs => bs.length
decreasing_by have := firstChar_char_shrinks _h; simp; omega

def encode (cs : List Char) : List UInt8 := cs.flatMap String.utf8EncodeChar

def bytesOf (s : String) : List UInt8 := encode s.toList

def lossyText (bs : List UInt8) : String := String.ofList (lossy bs)

def text? (bs : List UInt8) : Option String := (strict? bs).map String.ofList

/-- The characters from a number of bytes on, if a character begins there or the text ends. -/
def suffixChars? : Nat → List Char → Option (List Char)
  | 0, cs => some cs
  | _ + 1, [] => none
  | n + 1, c :: cs =>
    if (String.utf8EncodeChar c).length ≤ n + 1 then
      suffixChars? (n + 1 - (String.utf8EncodeChar c).length) cs
    else none

/-- The text from a number of bytes on, if a character begins there or the text ends. -/
def suffix? (n : Nat) (s : String) : Option String := (suffixChars? n s.toList).map String.ofList

/-- Text arriving in pieces that may cut a character: the bytes held back for the next piece. -/
structure Stream where
  held : List UInt8 := []
  deriving DecidableEq, Repr, Inhabited

namespace Stream

/-- Takes a piece; the text completed by it is returned and an incomplete end is held back. -/
def push (s : Stream) (piece : List UInt8) : List Char × Stream :=
  let (text, held) := split (s.held ++ piece)
  (text, ⟨held⟩)

def flush (s : Stream) : List Char × Stream := (lossy s.held, ⟨[]⟩)

end Stream

end HostWatch.Text.Utf8
