import HostWatch.Number.Decimal
import HostWatch.Number.Hex

namespace HostWatch.Address.Ipv4

def weight (k : Nat) : Nat := Nat.pow 256 k

def digits? (base : Nat) (cs : List Char) : Option Nat :=
  cs.foldlM (fun n c => ((Number.hexDigit? c).filter (· < base)).map (n * base + ·)) 0

/-- The value of one number: `0x` begins a hexadecimal one and a zero before other digits an octal
one. -/
def number? : List Char → Option Nat
  | [] => none
  | '0' :: 'x' :: cs => digits? 16 cs
  | '0' :: 'X' :: cs => digits? 16 cs
  | '0' :: c :: cs => digits? 8 (c :: cs)
  | cs => digits? 10 cs

def cut (sep : Char) : List Char → List (List Char)
  | [] => [[]]
  | c :: cs =>
    if c = sep then [] :: cut sep cs
    else
      match cut sep cs with
      | part :: parts => (c :: part) :: parts
      | [] => [[c]]

/-- The parts of a name between its dots; a dot at the end counts for nothing. -/
def parts (name : List Char) : List (List Char) :=
  let ps := cut '.' name
  if 1 < ps.length ∧ ps.getLast? = some [] then ps.dropLast else ps

/-- Whether the last part of a name makes it an IPv4 address or nothing: it has decimal digits only,
or it is a number. -/
def endsInNumber (name : List Char) : Bool :=
  match (parts name).getLast? with
  | none => false
  | some last =>
    (!last.isEmpty && last.all fun c => (Number.digit? c).isSome) || (number? last).isSome

def ofName? (name : List Char) : Option UInt32 := do
  let numbers ← (parts name).mapM number?
  let last ← numbers.getLast?
  let before := numbers.dropLast
  guard (before.length ≤ 3)
  guard (before.all (· ≤ 255))
  guard (last < weight (4 - before.length))
  let high := before.foldl (fun n x => n * 256 + x) 0
  return UInt32.ofNat (high * weight (4 - before.length) + last)

def text (address : UInt32) : String :=
  let n := address.toNat
  String.intercalate "."
    ([n / weight 3, n / weight 2 % 256, n / weight 1 % 256, n % 256].map toString)

end HostWatch.Address.Ipv4
