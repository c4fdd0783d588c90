import HostWatch.Number.Decimal

namespace HostWatch.Json

def escapeChar (c : Char) : List Char :=
  if c = '"' then "\\\"".toList
  else if c = '\\' then "\\\\".toList
  else if c = '\x08' then "\\b".toList
  else if c = '\x0c' then "\\f".toList
  else if c = '\n' then "\\n".toList
  else if c = '\r' then "\\r".toList
  else if c = '\t' then "\\t".toList
  else if c.toNat < 0x20 then
    "\\u00".toList ++ [Nat.digitChar (c.toNat / 16), Nat.digitChar (c.toNat % 16)]
  else [c]

def stringLiteral (s : String) : String :=
  String.ofList ('"' :: s.toList.flatMap escapeChar ++ ['"'])

def newLine (depth : Nat) : String := "\n" ++ String.ofList (List.replicate (2 * depth) ' ')

def listLiteral (depth : Nat) (items : List String) : String :=
  if items.isEmpty then "[]"
  else
    "[" ++ newLine (depth + 1) ++ String.intercalate ("," ++ newLine (depth + 1)) items ++
      newLine depth ++ "]"

def objectLiteral (depth : Nat) (members : List (String × String)) : String :=
  let written := members.map fun (name, value) => stringLiteral name ++ ": " ++ value
  if written.isEmpty then "\x7b\x7d"
  else
    "\x7b" ++ newLine (depth + 1) ++ String.intercalate ("," ++ newLine (depth + 1)) written ++
      newLine depth ++ "\x7d"

end HostWatch.Json
