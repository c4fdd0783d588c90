import HostWatch.Number.Binary

namespace HostWatch.Number

def digit? (c : Char) : Option Nat :=
  if '0' ≤ c ∧ c ≤ '9' then some (c.toNat - '0'.toNat) else none

/-- The value of a text of ASCII digits; other characters refuse it, and so does an empty text. -/
def digits? (cs : List Char) : Option Nat :=
  if cs.isEmpty then none
  else cs.foldlM (fun n c => (digit? c).map (n * 10 + ·)) 0

/-- A natural number of at most `bound`: one optional plus sign and then digits, nothing else. -/
def natural? (bound : Nat) (s : String) : Option Nat :=
  let cs := s.toList
  let cs := if cs.head? = some '+' then cs.tail else cs
  (digits? cs).filter (· ≤ bound)

def maxWord16 : Nat := UInt16.size - 1
def maxWord32 : Nat := UInt32.size - 1
def maxWord64 : Nat := UInt64.size - 1

def placed (places n : Nat) : String :=
  let ds := Nat.toDigits 10 n
  let ds := List.replicate (places + 1 - ds.length) '0' ++ ds
  let whole := ds.take (ds.length - places)
  let fraction := ds.drop (ds.length - places)
  if places = 0 then String.ofList whole else String.ofList (whole ++ '.' :: fraction)

/-- A quotient with a fixed number of places; a half goes to the even neighbour. -/
def fixedRatio (places num den : Nat) : String :=
  placed places (roundQuotient (num * Nat.pow 10 places) den)

namespace Binary

/-- A value with a fixed number of places, rounded from its exact decimal expansion; a zero keeps
its sign. -/
def fixed (places : Nat) : Binary → String
  | .nan => "NaN"
  | .infinite negative => if negative then "-inf" else "inf"
  | .finite negative m e =>
    (if negative then "-" else "") ++ fixedRatio places (numerator m e) (denominator e)

/-- The decimal neighbours of `num / den` on the grid `10 ^ unit`, of which those strictly between
`low / den` and `high / den` (ends included when `closed`) are kept; the nearer comes first. -/
def neighbours (num low high den : Nat) (closed : Bool) (unit : Int) : List Nat :=
  let scale := Nat.pow 10 (-unit).toNat
  let step := den * Nat.pow 10 unit.toNat
  let inside (c : Nat) : Bool :=
    if closed then low * scale ≤ c * step ∧ c * step ≤ high * scale
    else low * scale < c * step ∧ c * step < high * scale
  let c := num * scale / step
  let r := num * scale % step
  let pair := if 2 * r < step ∨ (2 * r = step ∧ c % 2 = 0) then [c, c + 1] else [c + 1, c]
  pair.filter inside

/-- The greatest `k` with `10 ^ k ≤ num / den`, searched downwards from a bound. -/
def decimalExponent (num den : Nat) : Nat → Int → Int
  | 0, k => k
  | fuel + 1, k =>
    if den * Nat.pow 10 k.toNat ≤ num * Nat.pow 10 (-k).toNat then k
    else decimalExponent num den fuel (k - 1)

/-- The fewest decimal digits that read back as the value, with the exponent of the last one. -/
def shortest (f : Format) (m : Nat) (e : Int) : Nat × Int :=
  let one := Nat.pow 2 e.toNat
  let num := 4 * m * one
  let den := 4 * denominator e
  let below := if m = Nat.pow 2 (f.precision - 1) ∧ f.minExponent < e then one else 2 * one
  let k := decimalExponent num den 700 310
  let tries := (List.range 17).filterMap fun (n : Nat) =>
    let unit := k - (n : Int)
    (neighbours num (num - below) (num + 2 * one) den (m % 2 = 0) unit).head?.map (·, unit)
  tries.head?.getD (m, e)

/-- Digits without the zeros at their end, with the exponent of the last one left. -/
def trimZeros : Nat → Nat → Int → Nat × Int
  | 0, d, unit => (d, unit)
  | fuel + 1, d, unit =>
    if d ≠ 0 ∧ d % 10 = 0 then trimZeros fuel (d / 10) (unit + 1) else (d, unit)

/-- The text of digits: positional while the leading digit stands for `10 ^ -5` up to `10 ^ 15`, and
in scientific form with a signed exponent outside that range. -/
def digitsText (d : Nat) (unit : Int) : String :=
  let (d, unit) := trimZeros 20 d unit
  let ds := Nat.toDigits 10 d
  let lead := unit + (ds.length - 1 : Nat)
  if -5 ≤ lead ∧ lead ≤ 15 then
    if 0 ≤ unit then String.ofList (ds ++ List.replicate unit.toNat '0') ++ ".0"
    else placed (-unit).toNat d
  else
    let tail := ds.drop 1
    let fraction := if tail.isEmpty then "" else "." ++ String.ofList tail
    String.ofList (ds.take 1) ++ fraction ++ "e" ++ (if lead < 0 then "-" else "+") ++
      toString lead.natAbs

def shortestText : Binary → String
  | .nan => "NaN"
  | .infinite negative => if negative then "-inf" else "inf"
  | .finite negative m e =>
    (if negative then "-" else "") ++
      (if m = 0 then "0.0" else
        let (d, unit) := shortest Format.double m e
        digitsText d unit)

end Binary

end HostWatch.Number
