import HostWatch.Json.Fault

namespace HostWatch.Json

structure Cursor where
  rest : List UInt8
  position : Position
  deriving DecidableEq, Repr

namespace Cursor

def ofBytes (bs : List UInt8) : Cursor := ⟨bs, .start⟩

def advance (c : Cursor) : Cursor :=
  match c.rest with
  | [] => c
  | b :: bs => ⟨bs, c.position.after b⟩

/-- The next byte as a character; bytes of multi-byte characters stand for none that JSON uses. -/
def peek (c : Cursor) : Option Char := c.rest.head?.map fun b => Char.ofNat b.toNat

def isBlank (b : UInt8) : Bool := b = 0x20 || b = 0x0A || b = 0x09 || b = 0x0D

def skipBlanks (c : Cursor) : Cursor := go c.rest c.position
where
  go : List UInt8 → Position → Cursor
    | [], p => ⟨[], p⟩
    | b :: bs, p => if isBlank b then go bs (p.after b) else ⟨b :: bs, p⟩

end Cursor

/-- Why reading stopped: a problem whose place is settled, or one that its enclosure is to place. -/
inductive Failure where
  | settled (fault : Fault)
  | pending (problem : Problem) (cursor : Cursor)
  deriving DecidableEq, Repr

abbrev Read (α : Type) := StateT Cursor (Except Failure) α

namespace Read

def fail (p : Problem) : Read α := fun c => .error (.settled ⟨p, c.position⟩)

def failNext (p : Problem) : Read α := fun c => .error (.settled ⟨p, c.advance.position⟩)

def failPending (p : Problem) : Read α := fun c => .error (.pending p c)

def advance : Read Unit := modify Cursor.advance

def peek : Read (Option Char) := do return (← get).peek

def token : Read (Option Char) := do
  modify Cursor.skipBlanks
  peek

/-- Runs a reader; a pending problem is placed where `settle` leads from the cursor it was raised
at. -/
def settling (settle : Cursor → Cursor) (r : Read α) : Read α := fun c =>
  match r c with
  | .error (.pending p raised) => .error (.settled ⟨p, (settle raised).position⟩)
  | result => result

end Read

/-- Reads a whole text with a reader: white space may follow the value and nothing else. -/
def readAll (r : Read α) (bs : List UInt8) : Except Fault α :=
  match (do
    let v ← r
    match ← Read.token with
    | none => return v
    | some _ => Read.failNext .trailingCharacters : Read α).run (Cursor.ofBytes bs) with
  | .ok (v, _) => .ok v
  | .error (.settled f) => .error f
  | .error (.pending p c) => .error ⟨p, c.position⟩

end HostWatch.Json
