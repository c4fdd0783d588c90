namespace HostWatch

/-- Unread entries, the oldest first, and how many older ones were lost. -/
structure LimitedFeed (α : Type) where
  lost : Nat := 0
  unread : List α := []
  deriving DecidableEq, Repr

namespace LimitedFeed

variable {α : Type}

def push (limit : Nat) (a : α) (f : LimitedFeed α) : LimitedFeed α :=
  if f.unread.length < limit then { f with unread := f.unread ++ [a] }
  else ⟨f.lost + 1, f.unread.tail ++ [a]⟩

inductive Item (α : Type) where
  | lagged (lost : Nat)
  | entry (a : α)
  deriving DecidableEq, Repr

def items (f : LimitedFeed α) : List (Item α) :=
  (if f.lost = 0 then [] else [.lagged f.lost]) ++ f.unread.map .entry

def drain (f : LimitedFeed α) : List (Item α) × LimitedFeed α := (f.items, {})

end LimitedFeed

/-- Unread entries, the oldest first, as long as there is a reader. -/
structure LosslessFeed (α : Type) where
  isRead : Bool := true
  unread : List α := []
  deriving DecidableEq, Repr

namespace LosslessFeed

variable {α : Type}

def push (a : α) (f : LosslessFeed α) : LosslessFeed α :=
  if f.isRead then { f with unread := f.unread ++ [a] } else f

def drain (f : LosslessFeed α) : List α × LosslessFeed α := (f.unread, { f with unread := [] })

def leave (_ : LosslessFeed α) : LosslessFeed α := ⟨false, []⟩

end LosslessFeed

end HostWatch
