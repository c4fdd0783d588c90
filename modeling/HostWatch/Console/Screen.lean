import HostWatch.Console.Complaint
import HostWatch.Text.Search

namespace HostWatch

structure Screen where
  output : String := ""
  complaints : String := ""
  ended : Option Bool := none
  deriving DecidableEq, Repr

namespace Screen

def print (s : String) (c : Screen) : Screen := { c with output := c.output ++ s }

def printLine (s : String) (c : Screen) : Screen := c.print (s ++ "\n")

def complain (s : String) (c : Screen) : Screen := { c with complaints := c.complaints ++ s }

def complainLine (s : String) (c : Screen) : Screen := c.complain (s ++ "\n")

def finish (c : Screen) : Screen := { c with ended := some false }

def fail (doing : Option String) (e : Error) (c : Screen) : Screen :=
  { c.complain (Complaint.ofError doing e) with ended := some true }

def exitCode? (c : Screen) : Option Nat := c.ended.map fun failed => if failed then 1 else 0

def readLines? (n : Nat) (c : Screen) : Option (List String × Screen) :=
  (Text.lines? n c.output.toList).map fun p => (p.1, { c with output := String.ofList p.2 })

def readComplaints? (n : Nat) (c : Screen) : Option (List String × Screen) :=
  (Text.lines? n c.complaints.toList).map fun p => (p.1, { c with complaints := String.ofList p.2 })

def readThrough? (part : String) (c : Screen) : Option (String × Screen) :=
  (Text.lineWith? part.toList c.output.toList).map fun p =>
    (p.1, { c with output := String.ofList p.2 })

def readAllWith? (part : String) (c : Screen) : Option (String × Screen) :=
  if Text.occursIn part.toList c.output.toList then some (c.output, { c with output := "" })
  else none

end Screen

end HostWatch
