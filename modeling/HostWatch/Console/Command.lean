import HostWatch.Number.Decimal
import HostWatch.Text.Blank

namespace HostWatch

inductive Command where
  | kill (pid : UInt32)
  | target (index : Nat)
  | processes
  | quit
  | unknown (line : String)
  deriving DecidableEq, Repr

namespace Command

/-- The command of a line, which its first two words decide; a line without words has none. -/
def ofLine? (line : String) : Option Command :=
  let unknown := Command.unknown (Text.trim line)
  match Text.words line with
  | [] => none
  | [word] =>
    if word = "procs" ∨ word = "p" then some .processes
    else if word = "quit" ∨ word = "q" ∨ word = "exit" then some .quit
    else some unknown
  | word :: value :: _ =>
    if word = "kill" ∨ word = "k" then
      match Number.natural? Number.maxWord32 value with
      | some n => some (.kill (UInt32.ofNat n))
      | none => some unknown
    else if word = "target" ∨ word = "t" then
      match Number.natural? Number.maxWord64 value with
      | some n => some (.target n)
      | none => some unknown
    else some unknown

end Command

end HostWatch
