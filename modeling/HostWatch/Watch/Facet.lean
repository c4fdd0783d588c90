namespace HostWatch

/-- A value that is awaited, has arrived, or could not be had. -/
inductive Facet (α : Type) where
  | loading
  | success (value : α)
  | failed (message : String)
  deriving DecidableEq, Repr, Inhabited

namespace Facet

variable {α : Type}

def isLoading : Facet α → Bool
  | loading => true
  | _ => false

def isFailed : Facet α → Bool
  | failed _ => true
  | _ => false

def value? : Facet α → Option α
  | success v => some v
  | _ => none

end Facet

end HostWatch
