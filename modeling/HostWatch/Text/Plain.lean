namespace HostWatch.Text

namespace Plain

def escape : Char := '\x1b'

def bell : Char := '\x07'

def isDigit (c : Char) : Bool := '0' ≤ c ∧ c ≤ '9'

def isPayload (c : Char) : Bool := c ≠ bell ∧ c ≠ escape

def isParameter (c : Char) : Bool := isDigit c || c = ';' || c = '?'

def isIntermediate (c : Char) : Bool := ' ' ≤ c ∧ c ≤ '/'

def isFinal (c : Char) : Bool := '@' ≤ c ∧ c ≤ '~'

def run (p : Char → Bool) (cs : List Char) : Nat := (cs.takeWhile p).length

/-- The length of the operating system command that a text begins with, or zero: `ESC ]`, one to
four digits, a semicolon, and text up to a bell or `ESC \`. -/
def commandLength : List Char → Nat
  | '\x1b' :: ']' :: cs =>
    let d := run isDigit cs
    if d = 0 ∨ 4 < d then 0
    else
      match cs.drop d with
      | ';' :: rest =>
        let p := run isPayload rest
        match rest.drop p with
        | '\x07' :: _ => 2 + d + 1 + p + 1
        | '\x1b' :: '\\' :: _ => 2 + d + 1 + p + 2
        | _ => 0
      | _ => 0
  | _ => 0

/-- The length of the control sequence that a text begins with, or zero: `ESC [`, parameters,
intermediates, and one final character. -/
def controlLength : List Char → Nat
  | '\x1b' :: '[' :: cs =>
    let p := run isParameter cs
    let i := run isIntermediate (cs.drop p)
    match cs.drop (p + i) with
    | c :: _ => if isFinal c then 2 + p + i + 1 else 0
    | [] => 0
  | _ => 0

/-- The number of characters up to and including the first `ESC \`, or zero if there is none. -/
def throughTerminator : List Char → Nat
  | [] => 0
  | '\x1b' :: '\\' :: _ => 2
  | _ :: cs =>
    match throughTerminator cs with
    | 0 => 0
    | n + 1 => n + 2

/-- The length of the application string that a text begins with, or zero: `ESC _` up to the first
`ESC \`. -/
def applicationLength : List Char → Nat
  | '\x1b' :: '_' :: cs =>
    match throughTerminator cs with
    | 0 => 0
    | n + 1 => n + 3
  | _ => 0

/-- A text without the sequences that `measure` finds, from left to right; `skip` characters of one
found before are still to be passed over. -/
def strip (measure : List Char → Nat) (skip : Nat) : List Char → List Char
  | [] => []
  | c :: cs =>
    match skip with
    | k + 1 => strip measure k cs
    | 0 =>
      match measure (c :: cs) with
      | 0 => c :: strip measure 0 cs
      | n + 1 => strip measure n cs

def foldLineEnds : List Char → List Char
  | [] => []
  | '\r' :: '\n' :: cs => '\n' :: foldLineEnds cs
  | c :: cs => c :: foldLineEnds cs

def ofChars (cs : List Char) : List Char :=
  let cs := foldLineEnds cs
  let cs := strip commandLength 0 cs
  let cs := strip controlLength 0 cs
  let cs := strip applicationLength 0 cs
  cs.filter (· ≠ bell)

end Plain

def plain (s : String) : String := String.ofList (Plain.ofChars s.toList)

def plainOrEmpty (s : Option String) : String := (s.map plain).getD ""

end HostWatch.Text
