namespace HostWatch.Number

/-- The quotient rounded to the nearest natural number; a half goes to the even neighbour. -/
def roundQuotient (num den : Nat) : Nat :=
  let q := num / den
  let r := num % den
  if 2 * r < den ∨ (2 * r = den ∧ q % 2 = 0) then q else q + 1

def floorLog (num den : Nat) : Int :=
  let d : Int := (Nat.log2 num : Int) - (Nat.log2 den : Int)
  if den * Nat.pow 2 d.toNat ≤ num * Nat.pow 2 (-d).toNat then d else d - 1

/-- A value of some binary format: a signed `mantissa * 2 ^ exponent`, an infinity, or no number. -/
inductive Binary where
  | finite (negative : Bool) (mantissa : Nat) (exponent : Int)
  | infinite (negative : Bool)
  | nan
  deriving DecidableEq, Repr, Inhabited

/-- A binary format: the significant bits of its values and the width of its exponent field. -/
structure Format where
  precision : Nat
  exponentBits : Nat
  deriving DecidableEq, Repr

namespace Format

def single : Format := ⟨24, 8⟩

def double : Format := ⟨53, 11⟩

def minExponent (f : Format) : Int :=
  3 - Nat.pow 2 (f.exponentBits - 1) - f.precision

def maxExponent (f : Format) : Int :=
  Nat.pow 2 (f.exponentBits - 1) - f.precision

/-- The value of the format nearest to `num / den`; past the largest it is an infinity. -/
def round (f : Format) (negative : Bool) (num den : Nat) : Binary :=
  if num = 0 then .finite negative 0 f.minExponent
  else
    let e := max f.minExponent (floorLog num den - (f.precision - 1 : Nat))
    let m := roundQuotient (num * Nat.pow 2 (-e).toNat) (den * Nat.pow 2 e.toNat)
    let carried := m = Nat.pow 2 f.precision
    let m' := if carried then Nat.pow 2 (f.precision - 1) else m
    let e' := if carried then e + 1 else e
    if f.maxExponent < e' then .infinite negative else .finite negative m' e'

def ofNat (f : Format) (n : Nat) : Binary :=
  f.round false n 1

def toBits (f : Format) : Binary → Nat
  | .nan =>
    (Nat.pow 2 f.exponentBits - 1) * Nat.pow 2 (f.precision - 1) + Nat.pow 2 (f.precision - 2)
  | .infinite negative =>
    signBit negative + (Nat.pow 2 f.exponentBits - 1) * Nat.pow 2 (f.precision - 1)
  | .finite negative m e =>
    let hidden := Nat.pow 2 (f.precision - 1)
    if m < hidden then signBit negative + m
    else signBit negative + (e - f.minExponent + 1).toNat * hidden + (m - hidden)
where
  signBit (negative : Bool) : Nat :=
    if negative then Nat.pow 2 (f.exponentBits + f.precision - 1) else 0

def ofBits (f : Format) (word : Nat) : Binary :=
  let hidden := Nat.pow 2 (f.precision - 1)
  let fraction := word % hidden
  let biased := word / hidden % Nat.pow 2 f.exponentBits
  let negative := word / hidden / Nat.pow 2 f.exponentBits % 2 = 1
  if biased = Nat.pow 2 f.exponentBits - 1 then
    if fraction = 0 then .infinite negative else .nan
  else if biased = 0 then .finite negative fraction f.minExponent
  else .finite negative (hidden + fraction) (f.minExponent + biased - 1)

end Format

namespace Binary

def numerator (mantissa : Nat) (exponent : Int) : Nat := mantissa * Nat.pow 2 exponent.toNat

def denominator (exponent : Int) : Nat := Nat.pow 2 (-exponent).toNat

def convert (f : Format) : Binary → Binary
  | .finite negative m e => f.round negative (numerator m e) (denominator e)
  | v => v

/-- The product of two finite values, rounded once; no other product is needed. -/
def mul (f : Format) : Binary → Binary → Binary
  | .finite s m e, .finite t n g =>
    f.round (s != t) (numerator m e * numerator n g) (denominator e * denominator g)
  | _, _ => .nan

/-- The quotient of two finite values, rounded once; the divisor is not zero. -/
def div (f : Format) : Binary → Binary → Binary
  | .finite s m e, .finite t n g =>
    f.round (s != t) (numerator m e * denominator g) (denominator e * numerator n g)
  | _, _ => .nan

def isInfinite : Binary → Bool
  | .infinite _ => true
  | _ => false

def isZero : Binary → Bool
  | .finite _ m _ => m = 0
  | _ => false

def neg : Binary → Binary
  | .finite s m e => .finite (!s) m e
  | .infinite s => .infinite (!s)
  | .nan => .nan

end Binary

/-- A single-precision value, kept as the word that stores it. -/
structure Single where
  word : UInt32
  deriving DecidableEq, Repr, Inhabited

namespace Single

def value (x : Single) : Binary := Format.single.ofBits x.word.toNat

def ofBinary (v : Binary) : Single :=
  ⟨UInt32.ofNat (Format.single.toBits (v.convert Format.single))⟩

def ofNat (n : Nat) : Single := ofBinary (Format.single.ofNat n)

def ofRatio (num den : Nat) : Single := ofBinary (Format.single.round false num den)

end Single

end HostWatch.Number
