import HostWatch.Number.Hex
import HostWatch.Text.Utf8

namespace HostWatch.Address.Percent

/-- Control characters and everything that is not ASCII; every part encodes these. -/
def isControl (c : Char) : Bool := c.toNat < 0x20 || 0x7E < c.toNat

def inFragment (c : Char) : Bool := isControl c || c ∈ [' ', '"', '<', '>', '`']

def inPath (c : Char) : Bool := inFragment c || c ∈ ['#', '?', '{', '}']

def inUserinfo (c : Char) : Bool :=
  inPath c || c ∈ ['/', ':', ';', '=', '@', '[', '\\', ']', '^', '|']

def inQuery (c : Char) : Bool := isControl c || c ∈ [' ', '"', '#', '<', '>']

def inSpecialQuery (c : Char) : Bool := inQuery c || c = '\''

def encodeChar (c : Char) : List Char :=
  (String.utf8EncodeChar c).flatMap fun b => '%' :: Number.upperHex b

def encode (set : Char → Bool) (cs : List Char) : List Char :=
  cs.flatMap fun c => if set c then encodeChar c else [c]

/-- The bytes that a text stands for: those of its encodings, and the UTF-8 of all else. -/
def decode : List Char → List UInt8
  | '%' :: a :: b :: cs =>
    match Number.hexDigit? a, Number.hexDigit? b with
    | some x, some y => UInt8.ofNat (16 * x + y) :: decode cs
    | _, _ => 0x25 :: decode (a :: b :: cs)
  | c :: cs => String.utf8EncodeChar c ++ decode cs
  | [] => []

end HostWatch.Address.Percent
