import HostWatch.Text.Blank

namespace HostWatch

/-- Addresses in the order they became known, and the index of the selected one. The index may be
past the end. -/
structure KnownHosts where
  addresses : List String := []
  selected : UInt64 := 0
  version : UInt32 := 0
  deriving DecidableEq, Repr, Inhabited

namespace KnownHosts

def address? (k : KnownHosts) (i : Nat) : Option String := k.addresses[i]?

/-- The address of the selected host, or the first one if the index is past the end. -/
def selection? (k : KnownHosts) : Option String :=
  k.address? k.selected.toNat <|> k.addresses.head?

/-- Makes an address known, without the blanks at its ends, and tells its index. One that is known
already keeps its place. -/
def add (k : KnownHosts) (address : String) : Nat × KnownHosts :=
  let address := Text.trim address
  match k.addresses.idxOf? address with
  | some i => (i, k)
  | none => (k.addresses.length, { k with addresses := k.addresses ++ [address] })

def select? (k : KnownHosts) (i : Nat) : Option KnownHosts :=
  if i < k.addresses.length then some { k with selected := UInt64.ofNat i } else none

end KnownHosts

structure HostRequest where
  address : Option String := none
  index : Option Nat := none
  deriving DecidableEq, Repr

inductive HostChoice where
  | direct (address : String)
  | known (index : Nat) (address : String)
  | outOfRange (index : Nat)
  | noHost
  deriving DecidableEq, Repr

/-- Finds the host asked for: a given address first, then a given index, then the selection, which
goes by the first index that holds its address. -/
def HostRequest.resolve (r : HostRequest) (k : KnownHosts) : HostChoice :=
  match r.address, r.index with
  | some address, _ => .direct address
  | none, some i =>
    match k.address? i with
    | some address => .known i address
    | none => .outOfRange i
  | none, none =>
    match k.selection? with
    | some address => .known (k.addresses.idxOf address) address
    | none => .noHost

end HostWatch
