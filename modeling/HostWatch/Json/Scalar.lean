import HostWatch.Json.Cursor
import HostWatch.Text.Utf8

namespace HostWatch.Json

open Number (Binary Format)

def word : List Char → Read Unit
  | [] => return
  | c :: cs => do
    match ← Read.peek with
    | none => Read.fail .endInValue
    | some d =>
      Read.advance
      if d = c then word cs else Read.fail .noIdent

/-- A number as it was written: an integer that fits 64 bits, or a value of double precision. -/
inductive Numeral where
  | natural (n : Nat)
  | negative (n : Nat)
  | float (v : Binary)
  deriving DecidableEq, Repr

namespace Numeral

def found : Numeral → Found
  | .natural n => .natural n
  | .negative n => .negative n
  | .float v => .float v

/-- Adds digits to a number while it fits 64 bits; from the first digit that does not fit, the
digits are only counted. -/
def absorb (n : Nat) : List Nat → Nat × Nat
  | [] => (n, 0)
  | d :: ds =>
    if n * 10 + d ≤ Number.maxWord64 then absorb (n * 10 + d) ds else (n, (d :: ds).length)

def digitsAt (c : Cursor) : List Nat × Cursor := go c.rest c.position
where
  go : List UInt8 → Position → List Nat × Cursor
    | [], p => ([], ⟨[], p⟩)
    | b :: bs, p =>
      if 0x30 ≤ b ∧ b ≤ 0x39 then
        let (ds, c) := go bs (p.after b)
        ((b.toNat - 0x30) :: ds, c)
      else ([], ⟨b :: bs, p⟩)

def readDigits : Read (List Nat) := fun c => .ok (digitsAt c)

def power (k : Nat) : Binary := Format.double.round false (Nat.pow 10 k) 1

/-- Divides by `10 ^ k`, in steps of at most `10 ^ 308`. Values below `2 ^ 64` are zero after two
full steps. -/
def scaleDown : Nat → Binary → Nat → Binary
  | 0, v, _ => v
  | steps + 1, v, k =>
    if k ≤ 308 then v.div Format.double (power k)
    else if v.isZero then v
    else scaleDown steps (v.div Format.double (power 308)) (k - 308)

/-- The double that `significand * 10 ^ exponent` is read as: both factors are rounded and then
their product or quotient. -/
def scaled (positive : Bool) (significand : Nat) (exponent : Int) : Read Binary := do
  let v := Format.double.ofNat significand
  let sign (v : Binary) : Binary := if positive then v else v.neg
  if exponent < 0 then return sign (scaleDown 3 v exponent.natAbs)
  else if 308 < exponent then
    if v.isZero then return sign v else Read.fail .numberOutOfRange
  else
    let v := v.mul Format.double (power exponent.toNat)
    if v.isInfinite then Read.fail .numberOutOfRange else return sign v

def maxExponent : Nat := Nat.pow 2 31 - 1

/-- Reads the digits of an exponent; `none` when the number they form is past all bounds. The digit
that makes it so is the last one read. -/
def exponentDigits (n : Nat) : List UInt8 → Position → Option Nat × Cursor
  | [], p => (some n, ⟨[], p⟩)
  | b :: bs, p =>
    if 0x30 ≤ b ∧ b ≤ 0x39 then
      let n' := n * 10 + (b.toNat - 0x30)
      if maxExponent < n' then (none, ⟨bs, p.after b⟩) else exponentDigits n' bs (p.after b)
    else (some n, ⟨b :: bs, p⟩)

def withExponent (positive : Bool) (significand : Nat) (exponent : Int) : Read Binary := do
  Read.advance
  let up ← match ← Read.peek with
    | some '+' => do Read.advance; pure true
    | some '-' => do Read.advance; pure false
    | _ => pure true
  match ← Read.peek with
  | none => Read.fail .endInValue
  | some d =>
    if !(Number.digit? d).isSome then
      Read.advance
      Read.fail .badNumber
    else
      match ← (fun c => .ok (exponentDigits 0 c.rest c.position) : Read (Option Nat)) with
      | some k => scaled positive significand (if up then exponent + k else exponent - k)
      | none =>
        if significand ≠ 0 ∧ up then Read.fail .numberOutOfRange
        else
          let _ ← readDigits
          return .finite (!positive) 0 Format.double.minExponent

def withFraction (positive : Bool) (significand : Nat) (exponent : Int) : Read Binary := do
  Read.advance
  let ds ← readDigits
  let (significand, dropped) := absorb significand ds
  let exponent := exponent - (ds.length - dropped : Nat)
  if ds.isEmpty then
    match ← Read.peek with
    | some _ => Read.failNext .badNumber
    | none => Read.failNext .endInValue
  else
    match ← Read.peek with
    | some 'e' | some 'E' => withExponent positive significand exponent
    | _ => scaled positive significand exponent

def read (positive : Bool) : Read Numeral := do
  match ← Read.peek with
  | none => Read.fail .endInValue
  | some d =>
    if !(Number.digit? d).isSome then
      Read.advance
      Read.fail .badNumber
    else
      let leadingZero := d = '0'
      if leadingZero then Read.advance
      let ds ← if leadingZero then pure [] else readDigits
      let next ← Read.peek
      if leadingZero ∧ (next.bind Number.digit?).isSome then Read.failNext .badNumber
      else
        let (significand, dropped) := absorb 0 ds
        match next with
        | some '.' => return .float (← withFraction positive significand dropped)
        | some 'e' | some 'E' => return .float (← withExponent positive significand dropped)
        | _ =>
          if dropped ≠ 0 then return .float (← scaled positive significand dropped)
          else if positive then return .natural significand
          else if significand = 0 ∨ Nat.pow 2 63 < significand then
            return .float (Format.double.ofNat significand).neg
          else return .negative significand

end Numeral

def hexValue? (ds : List UInt8) : Option Nat :=
  ds.foldlM (fun n b => (hexDigit? b).map (n * 16 + ·)) 0
where
  hexDigit? (b : UInt8) : Option Nat :=
    if 0x30 ≤ b ∧ b ≤ 0x39 then some (b.toNat - 0x30)
    else if 0x41 ≤ b ∧ b ≤ 0x46 then some (b.toNat - 0x41 + 10)
    else if 0x61 ≤ b ∧ b ≤ 0x66 then some (b.toNat - 0x61 + 10)
    else none

def hexEscape : Read Nat := fun c =>
  match c.rest with
  | b₀ :: b₁ :: b₂ :: b₃ :: rest =>
    let p := [b₀, b₁, b₂, b₃].foldl Position.after c.position
    match hexValue? [b₀, b₁, b₂, b₃] with
    | some n => .ok (n, ⟨rest, p⟩)
    | none => .error (.settled ⟨.badEscape, p⟩)
  | rest => .error (.settled ⟨.endInString, rest.foldl Position.after c.position⟩)

def isLeadingSurrogate (n : Nat) : Bool := 0xD800 ≤ n && n ≤ 0xDBFF

def isTrailingSurrogate (n : Nat) : Bool := 0xDC00 ≤ n && n ≤ 0xDFFF

def expectInString (ch : Char) (otherwise : Problem) : Read Unit := do
  match ← Read.peek with
  | none => Read.fail .endInString
  | some d =>
    Read.advance
    if d = ch then return else Read.fail otherwise

/-- Reads the code point of a hexadecimal escape, whose surrogates must come in pairs. -/
def codePoint : Read Char := do
  let n ← hexEscape
  if isTrailingSurrogate n then Read.fail .loneSurrogate
  else if isLeadingSurrogate n then
    expectInString '\\' .hexEscapeEnds
    expectInString 'u' .hexEscapeEnds
    let m ← hexEscape
    if isTrailingSurrogate m then
      return Char.ofNat ((n - 0xD800) * 0x400 + (m - 0xDC00) + 0x10000)
    else Read.fail .loneSurrogate
  else return Char.ofNat n

def shortEscape? : Char → Option Char
  | '"' => some '"'
  | '\\' => some '\\'
  | '/' => some '/'
  | 'b' => some '\x08'
  | 'f' => some '\x0c'
  | 'n' => some '\n'
  | 'r' => some '\r'
  | 't' => some '\t'
  | _ => none

def escaped : Read Char := do
  match ← Read.peek with
  | none => Read.fail .endInString
  | some d =>
    Read.advance
    match shortEscape? d with
    | some ch => return ch
    | none => if d = 'u' then codePoint else Read.fail .badEscape

/-- Reads the bytes of a string up to its closing quote, escapes resolved, each with the place after
it; `fuel` bounds their number. -/
def stringBytes : Nat → List (UInt8 × Position) → Read (List (UInt8 × Position))
  | 0, _ => Read.fail .endInString
  | fuel + 1, acc => fun c =>
    match c.rest with
    | [] => .error (.settled ⟨.endInString, c.position⟩)
    | b :: bs =>
      let next : Cursor := ⟨bs, c.position.after b⟩
      if b = 0x22 then .ok (acc.reverse, next)
      else if b = 0x5C then
        match escaped next with
        | .ok (ch, next) =>
          let bytes := (String.utf8EncodeChar ch).map (·, next.position)
          stringBytes fuel (bytes.reverse ++ acc) next
        | .error e => .error e
      else if b < 0x20 then .error (.settled ⟨.controlCharacter, next.position⟩)
      else stringBytes fuel ((b, next.position) :: acc) next

/-- Reads a string from the character after its opening quote on. Bytes that are no text are
complained about at the first of them. -/
def string : Read String := do
  let placed ← stringBytes ((← get).rest.length + 1) []
  let bytes := placed.map Prod.fst
  match Text.Utf8.text? bytes with
  | some s => return s
  | none =>
    let sound := bytes.length - (Text.Utf8.fromFault bytes).length
    match placed[sound]? with
    | some (_, p) => fun _ => .error (.settled ⟨.badCodePoint, p⟩)
    | none => Read.fail .badCodePoint

/-- Fails with a complaint that something else was wanted, after reading the scalar found there. -/
def wrongType (wanted : String) : Read α := do
  let complain (f : Found) : Read α := Read.fail (.wrongType f wanted)
  match ← Read.peek with
  | some 'n' => do Read.advance; word "ull".toList; complain .null
  | some 't' => do Read.advance; word "rue".toList; complain (.boolean true)
  | some 'f' => do Read.advance; word "alse".toList; complain (.boolean false)
  | some '-' => do Read.advance; complain (← Numeral.read false).found
  | some '"' => do Read.advance; complain (.text (← string))
  | some '[' => complain .sequence
  | some '{' => complain .map
  | some d =>
    if (Number.digit? d).isSome then complain (← Numeral.read true).found
    else Read.failNext .noValue
  | none => Read.failNext .noValue

def numeral (wanted : String) : Read Numeral := do
  match ← Read.token with
  | none => Read.failNext .endInValue
  | some '-' => do Read.advance; Numeral.read false
  | some d => if (Number.digit? d).isSome then Numeral.read true else wrongType wanted

def Numeral.natural? (bound : Nat) (wanted : String) : Numeral → Except Problem Nat
  | .natural n =>
    if n ≤ bound then .ok n else .error (.wrongValue (.natural n) wanted)
  | .negative n => .error (.wrongValue (.negative n) wanted)
  | .float v => .error (.wrongType (.float v) wanted)

def natural (bound : Nat) (wanted : String) : Read Nat := do
  match (← numeral wanted).natural? bound wanted with
  | .ok n => return n
  | .error p => Read.fail p

def natural64 : Read Nat := natural Number.maxWord64 "u64"

def natural32 : Read Nat := natural Number.maxWord32 "u32"

def Numeral.single : Numeral → Number.Single
  | .natural n => .ofNat n
  | .negative n => .ofBinary (Format.single.round true n 1)
  | .float v => .ofBinary v

def single : Read Number.Single := do return (← numeral "f32").single

def text : Read String := do
  match ← Read.token with
  | none => Read.failNext .endInValue
  | some '"' => do Read.advance; string
  | some _ => wrongType "a string"

def nullable (r : Read α) : Read (Option α) := do
  match ← Read.token with
  | some 'n' => do Read.advance; word "ull".toList; return none
  | _ => return some (← r)

end HostWatch.Json
