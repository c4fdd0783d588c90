import HostWatch.Report.Basic

namespace HostWatch

open Number (Binary Format Single)

/-- A part of a whole, in the same unit; the whole is zero where nothing can be said. -/
structure Share where
  part : Nat
  whole : Nat
  deriving DecidableEq, Repr

namespace Share

/-- The percentage of a share: the quotient of the nearest doubles times a hundred, each step
rounded, and narrowed in the end. A share of nothing is zero. -/
def percent (s : Share) : Single :=
  if s.whole = 0 then ⟨0⟩
  else
    let f := Format.double
    let quotient := (f.ofNat s.part).div f (f.ofNat s.whole)
    .ofBinary (quotient.mul f (f.ofNat 100))

end Share

namespace Counters

def busy (c : Counters) : Share := ⟨c.total - c.idle.toNat, c.total⟩

/-- The busy share of the time between two snapshots. Nothing can be said if no time has passed, or
if the counters have started anew. -/
def busySince (prev curr : Counters) : Share :=
  let passed := curr.total - prev.total
  ⟨passed - min (curr.idle.toNat - prev.idle.toNat) passed, passed⟩

/-- The load that a snapshot shows: since the snapshot before it, or since the start of the host if
there was none. -/
def load (prev : Option Counters) (curr : Counters) : Single :=
  match prev with
  | some prev => (busySince prev curr).percent
  | none => curr.busy.percent

end Counters

namespace MemoryReport

def usedShare (m : MemoryReport) : Share := ⟨m.used, m.total.toNat⟩

def displayUnit : Nat := 1024 * 1024

def scaled (n : Nat) : Single :=
  let f := Format.double
  .ofBinary ((f.ofNat n).div f (f.ofNat displayUnit))

def usedAndTotal (m : MemoryReport) : Single × Single := (scaled m.used, scaled m.total.toNat)

end MemoryReport

end HostWatch
