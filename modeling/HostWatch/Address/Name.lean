import HostWatch.Address.Ipv4
import HostWatch.Address.Name.Mapping
import HostWatch.Address.Percent
import HostWatch.Address.Punycode
import HostWatch.Text.Unicode.Direction
import HostWatch.Text.Unicode.Joining
import HostWatch.Text.Unicode.Mark
import HostWatch.Text.Unicode.Normal

namespace HostWatch.Address.Name

open Text.Unicode

def isAscii (c : Char) : Bool := c.toNat < 0x80

def isForbidden (c : Char) : Bool :=
  c.toNat ≤ 0x20 || c.toNat = 0x7F ||
    c ∈ ['%', '#', '/', ':', '<', '>', '?', '@', '[', '\\', ']', '^', '|']

def mapChar (c : Char) : Option (List Char) :=
  if isAscii c then some [c.toLower]
  else
    match lookup mappings c.toNat with
    | none => some [c]
    | some .refused => none
    | some .dropped => some []
    | some (.raised n) => some [Char.ofNat (c.toNat + n)]
    | some (.lowered n) => some [Char.ofNat (c.toNat - n)]
    | some (.paired parity) =>
      some [if c.toNat % 2 = parity then Char.ofNat (c.toNat + 1) else c]
    | some (.replaced cs) => some cs

def mapAll (cs : List Char) : Option (List Char) := do
  return normalize (← cs.mapM mapChar).flatten

def direction (c : Char) : Direction := (lookup directions c.toNat).getD .left

def joining (c : Char) : Option Joining := lookup joinings c.toNat

def isMark (c : Char) : Bool := (lookup marks c.toNat).isSome

def virama : Nat := 9

/-- Whether the nearest character that is not transparent joins in one of two ways. -/
def joins (ways : List Joining) (cs : List Char) : Bool :=
  match cs.find? fun c => joining c ≠ some .transparent with
  | some c => ways.any fun w => joining c = some w
  | none => false

/-- Whether a joiner may stand between what comes before it, the nearest first, and after it. -/
def joinerAllowed (c : Char) (before after : List Char) : Bool :=
  (before.head?.any fun b => combiningClass b = virama) ||
    (c = '\u200C' && joins [.left, .dual] before && joins [.right, .dual] after)

def joinersAllowed (before : List Char) : List Char → Bool
  | [] => true
  | c :: cs =>
    (if c = '\u200C' || c = '\u200D' then joinerAllowed c before cs else true) &&
      joinersAllowed (c :: before) cs

def isWellFormed (label : List Char) : Bool :=
  mapAll label = some label && !(label.head?.any isMark) && joinersAllowed [] label

def isRightToLeft (c : Char) : Bool :=
  !isAscii c &&
    (direction c = .right || direction c = .arabic || direction c = .arabicNumber)

def isWeak : Direction → Bool
  | .europeanNumber | .separator | .commonSeparator | .terminator | .neutral | .boundary
  | .mark => true
  | _ => false

def directionsAgree (label : List Char) : Bool :=
  let ds := label.map direction
  let last := (ds.reverse.dropWhile (· = .mark)).head?
  match ds.head? with
  | none => true
  | some .left =>
    ds.all (fun d => d = .left || isWeak d) && (last = some .left || last = some .europeanNumber)
  | some d =>
    (d = .right || d = .arabic) &&
      ds.all (fun d => d = .right || d = .arabic || d = .arabicNumber || isWeak d) &&
      (last = some .right || last = some .arabic || last = some .arabicNumber ||
        last = some .europeanNumber) &&
      !(ds.contains .europeanNumber && ds.contains .arabicNumber)

def punycodeMark : List Char := "xn--".toList

/-- The greatest lengths of a label that is taken from punycode and of one that is written in it. -/
def longestPunycode : Nat := 2000
def longestLabel : Nat := 1000

/-- A label of a name: its characters, and how it is written. -/
structure Label where
  chars : List Char
  written : List Char
  deriving DecidableEq, Repr

def label? (cs : List Char) : Option Label :=
  if punycodeMark.isPrefixOf cs then do
    let code := cs.drop punycodeMark.length
    guard (code.length ≤ longestPunycode)
    let chars ← Punycode.decode? code
    guard (!chars.all isAscii)
    guard (isWellFormed chars)
    return ⟨chars, cs⟩
  else if cs.all isAscii then some ⟨cs, cs⟩
  else if cs.length ≤ longestLabel ∧ isWellFormed cs then
    some ⟨cs, punycodeMark ++ Punycode.encode cs⟩
  else none

def ofChars? (cs : List Char) : Option (List Char) := do
  let mapped ← mapAll cs
  guard (!mapped.any fun c => isAscii c && isForbidden c)
  let labels ← (Ipv4.cut '.' mapped).mapM label?
  guard (!labels.any (·.chars.any isRightToLeft) || labels.all fun l => directionsAgree l.chars)
  return List.intercalate ['.'] (labels.map Label.written)

def ofBytes? (bs : List UInt8) : Option (List Char) := (Text.Utf8.strict? bs).bind ofChars?

end HostWatch.Address.Name
