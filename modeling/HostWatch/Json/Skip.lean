import HostWatch.Json.Scalar

namespace HostWatch.Json

namespace Skip

def escaped : Read Unit := do
  match ← Read.peek with
  | none => Read.fail .endInString
  | some d =>
    Read.advance
    if (shortEscape? d).isSome then return
    else if d = 'u' then do let _ ← hexEscape
    else Read.fail .badEscape

def string : Nat → Read Unit
  | 0 => Read.fail .endInString
  | fuel + 1 => do
    match ← Read.peek with
    | none => Read.fail .endInString
    | some d =>
      if d = '"' then Read.advance
      else if d = '\\' then do
        Read.advance
        escaped
        string fuel
      else if d < ' ' then Read.fail .controlCharacter
      else do
        Read.advance
        string fuel

def exponent : Read Unit := do
  Read.advance
  match ← Read.peek with
  | some '+' | some '-' => Read.advance
  | _ => pure ()
  match ← Read.peek with
  | none => Read.fail .badNumber
  | some d =>
    Read.advance
    if (Number.digit? d).isSome then do let _ ← Numeral.readDigits
    else Read.fail .badNumber

def fraction : Read Unit := do
  Read.advance
  let ds ← Numeral.readDigits
  if ds.isEmpty then Read.failNext .badNumber
  else
    match ← Read.peek with
    | some 'e' | some 'E' => exponent
    | _ => return

def number : Read Unit := do
  match ← Read.peek with
  | none => Read.fail .badNumber
  | some d =>
    if !(Number.digit? d).isSome then do
      Read.advance
      Read.fail .badNumber
    else do
      Read.advance
      let next ← if d = '0' then Read.peek else do let _ ← Numeral.readDigits; Read.peek
      match next with
      | some '.' => fraction
      | some 'e' | some 'E' => exponent
      | some e => if (Number.digit? e).isSome then Read.failNext .badNumber else return
      | none => return

/-- Passes over the rest of a list: its first item, or what follows an item. -/
def items (item : Read Unit) : Nat → Bool → Read Unit
  | 0, _ => Read.fail .endInList
  | fuel + 1, first => do
    match ← Read.token with
    | none => Read.failNext .endInList
    | some ']' => Read.advance
    | some d =>
      if first then do
        item
        items item fuel false
      else if d = ',' then do
        Read.advance
        item
        items item fuel false
      else Read.failNext .noCommaOrListEnd

def member (value : Read Unit) : Read Unit := do
  match ← Read.token with
  | none => Read.failNext .endInObject
  | some '"' =>
    Read.advance
    string ((← get).rest.length + 1)
    match ← Read.token with
    | none => Read.failNext .endInObject
    | some ':' => do
      Read.advance
      value
    | some _ => Read.failNext .noColon
  | some _ => Read.failNext .keyNotString

/-- Passes over the rest of an object: its first member, or what follows a member. -/
def members (value : Read Unit) : Nat → Bool → Read Unit
  | 0, _ => Read.fail .endInObject
  | fuel + 1, first => do
    match ← Read.token with
    | none => Read.failNext .endInObject
    | some '}' => Read.advance
    | some d =>
      if first then do
        member value
        members value fuel false
      else if d = ',' then do
        Read.advance
        member value
        members value fuel false
      else Read.failNext .noCommaOrObjectEnd

def value : Nat → Read Unit
  | 0 => Read.fail .endInValue
  | fuel + 1 => do
    match ← Read.token with
    | none => Read.failNext .endInValue
    | some 'n' => do Read.advance; word "ull".toList
    | some 't' => do Read.advance; word "rue".toList
    | some 'f' => do Read.advance; word "alse".toList
    | some '-' => do Read.advance; number
    | some '"' => do Read.advance; string ((← get).rest.length + 1)
    | some '[' => do
      Read.advance
      items (value fuel) ((← get).rest.length + 1) true
    | some '{' => do
      Read.advance
      members (value fuel) ((← get).rest.length + 1) true
    | some d => if (Number.digit? d).isSome then number else Read.failNext .noValue

end Skip

def skipValue : Read Unit := do Skip.value ((← get).rest.length + 1)

end HostWatch.Json
