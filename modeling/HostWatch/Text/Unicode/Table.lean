import HostWatch.Number.Hex

namespace HostWatch.Text.Unicode

/-- A range of code points, ends included, and what a table says about it. -/
structure Entry (α : Type) where
  first : Nat
  last : Nat
  value : α
  deriving Repr

/-- The number at the front of a text, in hexadecimal digits, and the text after it. -/
def takeHex (n : Nat) : List Char → Nat × List Char
  | [] => (n, [])
  | c :: cs =>
    match Number.hexDigit? c with
    | some d => takeHex (16 * n + d) cs
    | none => (n, c :: cs)

def numbers (cs : List Char) : List Nat := go 0 cs
where
  go (n : Nat) : List Char → List Nat
    | [] => [n]
    | ',' :: cs => n :: go 0 cs
    | c :: cs => go (16 * n + (Number.hexDigit? c).getD 0) cs

def ofField (read : List Char → Option α) (cs : List Char) : Option (Entry α) :=
  let (first, cs) := takeHex 0 cs
  let (last, cs) :=
    match cs with
    | '-' :: cs => takeHex 0 cs
    | cs => (first, cs)
  (read cs).map fun v => ⟨first, last, v⟩

def fields (s : String) : List (List Char) :=
  let (run, done) := s.toList.foldr step ([], [])
  close run done
where
  close (run : List Char) (done : List (List Char)) : List (List Char) :=
    if run.isEmpty then done else run :: done
  step (c : Char) (p : List Char × List (List Char)) : List Char × List (List Char) :=
    if c = ' ' ∨ c = '\n' then ([], close p.1 p.2) else (c :: p.1, p.2)

def entries (read : List Char → Option α) (s : String) : Array (Entry α) :=
  ((fields s).filterMap (ofField read)).toArray

def search (t : Array (Entry α)) (n lo hi : Nat) : Option α :=
  if lo < hi then
    let mid := (lo + hi) / 2
    match t[mid]? with
    | none => none
    | some e =>
      if n < e.first then search t n lo mid
      else if e.last < n then search t n (mid + 1) hi
      else some e.value
  else none
termination_by hi - lo

def lookup (t : Array (Entry α)) (n : Nat) : Option α := search t n 0 t.size

end HostWatch.Text.Unicode
