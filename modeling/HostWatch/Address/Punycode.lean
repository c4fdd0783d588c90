namespace HostWatch.Address.Punycode

def base : Nat := 36
def leastThreshold : Nat := 1
def greatestThreshold : Nat := 26
def initialBias : Nat := 72
def firstCodePoint : Nat := 0x80

def bound : Nat := UInt32.size

def threshold (bias k : Nat) : Nat :=
  max leastThreshold (min greatestThreshold (k - bias))

theorem threshold_pos (bias k : Nat) : 1 ≤ threshold bias k := by
  unfold threshold leastThreshold
  omega

theorem threshold_le (bias k : Nat) : threshold bias k ≤ 26 := by
  unfold threshold leastThreshold greatestThreshold
  omega

/-- Divides a number down to the range of the bias and counts the digits left out. -/
def reduce (n k : Nat) : Nat :=
  if 455 < n then reduce (n / (base - leastThreshold)) (k + base)
  else k + (base - leastThreshold + 1) * n / (n + 38)
termination_by n
decreasing_by exact Nat.div_lt_self (by omega) (by decide)

def adapt (n length : Nat) (first : Bool) : Nat :=
  let n := if first then n / 700 else n / 2
  reduce (n + n / length) 0

/-- The value of a digit: letters of either case first, then the decimal digits. -/
def digit? (c : Char) : Option Nat :=
  if 'a' ≤ c ∧ c ≤ 'z' then some (c.toNat - 'a'.toNat)
  else if 'A' ≤ c ∧ c ≤ 'Z' then some (c.toNat - 'A'.toNat)
  else if '0' ≤ c ∧ c ≤ '9' then some (c.toNat - '0'.toNat + 26)
  else none

def digitChar (d : Nat) : Char :=
  if d < 26 then Char.ofNat ('a'.toNat + d) else Char.ofNat ('0'.toNat + d - 26)

def readNumber (bias k weight sum : Nat) : List Char → Option (Nat × List Char)
  | [] => none
  | c :: cs => do
    let d ← digit? c
    let sum := sum + d * weight
    guard (sum < bound)
    let t := threshold bias k
    if d < t then return (sum, cs)
    else
      let weight := weight * (base - t)
      guard (weight < bound)
      readNumber bias (k + base) weight sum cs

theorem readNumber_shrinks {bias k weight sum n : Nat} {cs rest : List Char}
    (h : readNumber bias k weight sum cs = some (n, rest)) : rest.length < cs.length := by
  induction cs generalizing k weight sum with
  | nil => cases h
  | cons c cs ih =>
    obtain ⟨d, -, h⟩ := Option.bind_eq_some_iff.mp h
    obtain ⟨-, -, h⟩ := Option.bind_eq_some_iff.mp h
    dsimp only at h
    by_cases last : d < threshold bias k
    · rw [if_pos last] at h
      cases h
      simp
    · rw [if_neg last] at h
      obtain ⟨-, -, h⟩ := Option.bind_eq_some_iff.mp h
      have := ih h
      simp
      omega

def char? (n : Nat) : Option Char :=
  if n < 0xD800 ∨ (0xDFFF < n ∧ n < 0x110000) then some (Char.ofNat n) else none

def insertAll (bias codePoint place : Nat) (label cs : List Char) : Option (List Char) :=
  match cs with
  | [] => some label
  | c :: rest =>
    match h : readNumber bias base 1 place (c :: rest) with
    | none => none
    | some (n, cs) =>
      let length := label.length + 1
      let codePoint := codePoint + n / length
      match char? codePoint with
      | none => none
      | some x =>
        have : cs.length < rest.length + 1 := readNumber_shrinks h
        insertAll (adapt (n - place) length (place = 0)) codePoint (n % length + 1)
          (label.insertIdx (n % length) x) cs
termination_by cs.length

/-- The parts of a text before and after its last hyphen; without one, or with one at the very
front, all of it comes after. -/
def cutHyphen (cs : List Char) : List Char × List Char :=
  let after := (cs.reverse.takeWhile (· ≠ '-')).reverse
  let before := cs.take (cs.length - after.length - 1)
  if before.isEmpty then ([], cs) else (before, after)

def decode? (cs : List Char) : Option (List Char) :=
  let (ascii, numbers) := cutHyphen cs
  if ascii.all (·.toNat < firstCodePoint) then insertAll initialBias firstCodePoint 0 ascii numbers
  else none

def writeNumber (bias k n : Nat) : List Char :=
  let t := threshold bias k
  if n < t then [digitChar n]
  else digitChar (t + (n - t) % (base - t)) :: writeNumber bias (k + base) ((n - t) / (base - t))
termination_by n
decreasing_by
  have := threshold_pos bias k
  calc
    (n - threshold bias k) / (base - threshold bias k) ≤ n - threshold bias k :=
      Nat.div_le_self _ _
    _ < n := by omega

/-- What has been written: the digits, the number due, the bias, and how many characters are done.
-/
structure Progress where
  digits : List Char
  due : Nat
  bias : Nat
  done : Nat

/-- Passes over one character of the label while characters of code point `n` are written. -/
def Progress.pass (ascii n : Nat) (p : Progress) (c : Char) : Progress :=
  if c.toNat < n then { p with due := p.due + 1 }
  else if c.toNat = n then
    { digits := p.digits ++ writeNumber p.bias base p.due
      due := 0
      bias := adapt p.due (p.done + 1) (p.done = ascii)
      done := p.done + 1 }
  else p

/-- Writes the characters of each code point of a list in turn; `next` is the first code point not
written yet. -/
def writeAll (label : List Char) (ascii : Nat) : Nat → List Nat → Progress → Progress
  | _, [], p => p
  | next, n :: ns, p =>
    let p := { p with due := p.due + (n - next) * (p.done + 1) }
    let p := label.foldl (Progress.pass ascii n) p
    writeAll label ascii (n + 1) ns { p with due := p.due + 1 }

def insertOnce (n : Nat) : List Nat → List Nat
  | [] => [n]
  | m :: ms => if n < m then n :: m :: ms else if n = m then m :: ms else m :: insertOnce n ms

def encode (label : List Char) : List Char :=
  let ascii := label.filter (·.toNat < firstCodePoint)
  let others := (label.filter (firstCodePoint ≤ ·.toNat)).map Char.toNat
  let p := writeAll label ascii.length firstCodePoint (others.foldr insertOnce [])
    ⟨[], 0, initialBias, ascii.length⟩
  ascii ++ (if ascii.isEmpty then [] else ['-']) ++ p.digits

end HostWatch.Address.Punycode
