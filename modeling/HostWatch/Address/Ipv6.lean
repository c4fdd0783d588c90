import HostWatch.Number.Decimal
import HostWatch.Number.Hex

namespace HostWatch.Address.Ipv6

/-- One number of an IPv4 address inside an IPv6 address: at most 255, without leading zeros. -/
def byte? : List Char → Option Nat
  | ['0'] => some 0
  | '0' :: _ => none
  | cs => (Number.digits? cs).filter (· ≤ 255)

def mapped? (cs : List Char) : Option (List UInt16) :=
  let (a, rest) := cs.span (· ≠ '.')
  let (b, rest) := (rest.drop 1).span (· ≠ '.')
  let (c, rest) := (rest.drop 1).span (· ≠ '.')
  match byte? a, byte? b, byte? c, byte? (rest.drop 1) with
  | some a, some b, some c, some d =>
    some [UInt16.ofNat (256 * a + b), UInt16.ofNat (256 * c + d)]
  | _, _, _, _ => none

def piece? (cs : List Char) : Option UInt16 :=
  if cs.isEmpty ∨ 4 < cs.length then none
  else
    (cs.foldlM (fun n c => (Number.hexDigit? c).map (n * 16 + ·)) 0).map UInt16.ofNat

/-- The pieces of texts between colons; only the last may be an IPv4 address. -/
def pieces? : List (List Char) → Option (List UInt16)
  | [] => some []
  | [last] => if '.' ∈ last then mapped? last else (piece? last).map ([·])
  | cs :: rest => do return (← piece? cs) :: (← pieces? rest)

def parts (cs : List Char) : List (List Char) :=
  if cs.isEmpty then [] else go [] cs
where
  go (run : List Char) : List Char → List (List Char)
    | [] => [run.reverse]
    | ':' :: cs => run.reverse :: go [] cs
    | c :: cs => go (c :: run) cs

def gap? : List Char → Option (List Char × List Char)
  | ':' :: ':' :: cs => some ([], cs)
  | c :: cs => (gap? cs).map fun (before, after) => (c :: before, after)
  | [] => none

def ofText? (cs : List Char) : Option (List UInt16) :=
  match gap? cs with
  | none => (pieces? (parts cs)).filter (·.length = 8)
  | some (before, after) => do
    guard ('.' ∉ before)
    let xs ← pieces? (parts before)
    let ys ← pieces? (parts after)
    guard (xs.length + ys.length ≤ 7)
    return xs ++ List.replicate (8 - xs.length - ys.length) 0 ++ ys

def zeros (xs : List UInt16) : Nat := (xs.takeWhile (· = 0)).length

def longestRun (xs : List UInt16) : Nat × Nat :=
  (List.range xs.length).foldl
    (fun best i =>
      let n := zeros (xs.drop i)
      if best.2 < n then (i, n) else best)
    (0, 0)

def piecesText (xs : List UInt16) : String :=
  String.intercalate ":" (xs.map fun x => Number.lowerHex x.toNat)

/-- The text of an address; the first longest run of at least two zero pieces becomes two colons. -/
def text (xs : List UInt16) : String :=
  let (start, n) := longestRun xs
  if n < 2 then piecesText xs
  else piecesText (xs.take start) ++ "::" ++ piecesText (xs.drop (start + n))

end HostWatch.Address.Ipv6
