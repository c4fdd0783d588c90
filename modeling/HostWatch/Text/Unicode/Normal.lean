import HostWatch.Text.Unicode.CombiningClass
import HostWatch.Text.Unicode.Composition
import HostWatch.Text.Unicode.Decomposition

namespace HostWatch.Text.Unicode

def combiningClass (c : Char) : Nat := (lookup combiningClasses c.toNat).getD 0

namespace Hangul

def syllables : Nat := 0xAC00
def leads : Nat := 0x1100
def vowels : Nat := 0x1161
def tails : Nat := 0x11A7
def leadCount : Nat := 19
def vowelCount : Nat := 21
def tailCount : Nat := 28

def parts? (c : Char) : Option (List Char) :=
  let n := c.toNat - syllables
  if c.toNat < syllables ∨ leadCount * vowelCount * tailCount ≤ n then none
  else
    let lead := Char.ofNat (leads + n / (vowelCount * tailCount))
    let vowel := Char.ofNat (vowels + n / tailCount % vowelCount)
    some (if n % tailCount = 0 then [lead, vowel]
      else [lead, vowel, Char.ofNat (tails + n % tailCount)])

/-- The syllable of a lead and a vowel, or of a syllable without a tail and a tail. -/
def compose? (a b : Char) : Option Char :=
  let l := a.toNat - leads
  let v := b.toNat - vowels
  let s := a.toNat - syllables
  let t := b.toNat - tails
  if leads ≤ a.toNat ∧ l < leadCount ∧ vowels ≤ b.toNat ∧ v < vowelCount then
    some (Char.ofNat (syllables + (l * vowelCount + v) * tailCount))
  else if syllables ≤ a.toNat ∧ s < leadCount * vowelCount * tailCount ∧ s % tailCount = 0 ∧
      tails < b.toNat ∧ t < tailCount then
    some (Char.ofNat (a.toNat + t))
  else none

end Hangul

def decompose (c : Char) : List Char :=
  match Hangul.parts? c with
  | some cs => cs
  | none => (lookup decompositions c.toNat).getD [c]

def compose? (a b : Char) : Option Char :=
  match Hangul.compose? a b with
  | some c => some c
  | none => ((lookup compositions a.toNat).getD []).lookup b

/-- Puts a character before others, but after those marks whose class is lower. -/
def putInOrder (c : Char) : List Char → List Char
  | [] => [c]
  | d :: ds =>
    if 0 < combiningClass d ∧ combiningClass d < combiningClass c then d :: putInOrder c ds
    else c :: d :: ds

/-- Composes what follows a character of class zero: `marks` are those after it that stay, the last
first. -/
def composeFrom (first : Char) (marks : List Char) : List Char → List Char
  | [] => first :: marks.reverse
  | c :: cs =>
    let free : Bool :=
      match marks with
      | [] => true
      | m :: _ => combiningClass m < combiningClass c
    match if free then compose? first c else none with
    | some d => composeFrom d marks cs
    | none =>
      if combiningClass c = 0 then first :: marks.reverse ++ composeFrom c [] cs
      else composeFrom first (c :: marks) cs

/-- Composes a text; marks at its very beginning have nothing to be composed with. -/
def composeAll : List Char → List Char
  | [] => []
  | c :: cs => if combiningClass c = 0 then composeFrom c [] cs else c :: composeAll cs

def normalize (cs : List Char) : List Char :=
  if cs.all (·.toNat < 0x80) then cs
  else composeAll ((cs.flatMap decompose).foldr putInOrder [])

end HostWatch.Text.Unicode
