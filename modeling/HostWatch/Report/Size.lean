import HostWatch.Number.Decimal

namespace HostWatch.Size

open Number

def unit (k : Nat) : Nat := Nat.pow 1024 k

def nearest (n : Nat) : Nat :=
  match Format.double.ofNat n with
  | .finite _ m e => Binary.numerator m e / Binary.denominator e
  | _ => n

def text (bytes : Nat) : String :=
  let n := nearest bytes
  if n < unit 1 then fixedRatio 0 n 1 ++ "B"
  else if n < unit 2 then fixedRatio 1 n (unit 1) ++ "KB"
  else if n < unit 3 then fixedRatio 1 n (unit 2) ++ "MB"
  else if n < unit 4 then fixedRatio 1 n (unit 3) ++ "GB"
  else fixedRatio 2 n (unit 4) ++ "TB"

end HostWatch.Size
