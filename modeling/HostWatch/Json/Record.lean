import HostWatch.Json.Skip

namespace HostWatch.Json

/-- Looks for a further item of a list, or for its end, which is left in place. -/
def moreItems (first : Bool) : Read Bool := do
  match ← Read.token with
  | none => Read.failNext .endInList
  | some ']' => return false
  | some d =>
    if first then return true
    else if d = ',' then do
      Read.advance
      match ← Read.token with
      | none => Read.failNext .endInValue
      | some ']' => Read.failNext .trailingComma
      | some _ => return true
    else Read.failNext .noCommaOrListEnd

/-- Looks for a further member of an object, or for its end, which is left in place. -/
def moreMembers (first : Bool) : Read Bool := do
  match ← Read.token with
  | none => Read.failNext .endInObject
  | some '}' => return false
  | some d =>
    if first then
      if d = '"' then return true else Read.failNext .keyNotString
    else if d = ',' then do
      Read.advance
      match ← Read.token with
      | none => Read.failNext .endInValue
      | some '"' => return true
      | some '}' => Read.failNext .trailingComma
      | some _ => Read.failNext .keyNotString
    else Read.failNext .noCommaOrObjectEnd

def memberName : Read String := do
  Read.advance
  string

def colon : Read Unit := do
  match ← Read.token with
  | none => Read.failNext .endInObject
  | some ':' => Read.advance
  | some _ => Read.failNext .noColon

def listEnd : Read Unit := do
  match ← Read.token with
  | none => Read.failNext .endInList
  | some ']' => Read.advance
  | some ',' => do
    Read.advance
    match ← Read.token with
    | some ']' => Read.failNext .trailingComma
    | _ => Read.failNext .trailingCharacters
  | some _ => Read.failNext .trailingCharacters

def objectEnd : Read Unit := do
  match ← Read.token with
  | none => Read.failNext .endInObject
  | some '}' => Read.advance
  | some ',' => Read.failNext .trailingComma
  | some _ => Read.failNext .trailingCharacters

/-- Where a list that could not be read is left: past its end, or past the comma in its place. -/
def Cursor.afterList (c : Cursor) : Cursor :=
  let c := c.skipBlanks
  match c.peek with
  | some ']' => c.advance
  | some ',' => c.advance.skipBlanks
  | _ => c

/-- Where an object that could not be read is left: past its end, or at what stands in its place. -/
def Cursor.afterObject (c : Cursor) : Cursor :=
  let c := c.skipBlanks
  match c.peek with
  | some '}' => c.advance
  | _ => c

def inList (inside : Read α) : Read α := do
  Read.advance
  let v ← Read.settling Cursor.afterList inside
  listEnd
  return v

def inObject (inside : Read α) : Read α := do
  Read.advance
  let v ← Read.settling Cursor.afterObject inside
  objectEnd
  return v

def items (item : Read α) : Nat → Bool → Read (List α)
  | 0, _ => Read.fail .endInList
  | fuel + 1, first => do
    if ← moreItems first then
      let v ← item
      let vs ← items item fuel false
      return v :: vs
    else return []

def list (item : Read α) : Read (List α) := do
  match ← Read.token with
  | none => Read.failNext .endInValue
  | some '[' => inList (do items item ((← get).rest.length + 1) true)
  | some _ => wrongType "a sequence"

/-- A field of a record that is built up from a value of type `σ`. -/
structure Field (σ : Type) where
  name : String
  optional : Bool
  enter : σ → Read σ

def Field.lenient (name : String) (value : Read α) (set : σ → α → σ) : Field σ :=
  ⟨name, true, fun r => do return set r (← value)⟩

def Field.needed (name : String) (value : Read α) (set : σ → α → σ) : Field σ :=
  ⟨name, false, fun r => do return set r (← value)⟩

/-- A record: what it is called in complaints, its fields in order, and the record with nothing
entered. -/
structure Shape (σ : Type) where
  title : String
  fields : List (Field σ)
  blank : σ

namespace Shape

variable {σ : Type} (s : Shape σ)

def tooShort (n : Nat) : Problem :=
  .wrongLength n
    (s.title ++ " with " ++ toString s.fields.length ++
      (if s.fields.length = 1 then " element" else " elements"))

/-- Reads fields in their order from a list, of which `n` items have been read. -/
def listed : List (Field σ) → Nat → σ → Read σ
  | [], _, r => return r
  | f :: fs, n, r => do
    if ← moreItems (n = 0) then listed fs (n + 1) (← f.enter r)
    else if f.optional then ended fs n r
    else Read.failPending (s.tooShort n)
where
  ended : List (Field σ) → Nat → σ → Read σ
    | [], _, r => return r
    | f :: fs, n, r =>
      if f.optional then ended fs (n + 1) r else Read.failPending (s.tooShort (n + 1))

/-- Reads the members of an object, `seen` being the fields entered so far; the first argument
bounds the number of members. -/
def named : Nat → List String → Bool → σ → Read σ
  | 0, _, _, _ => Read.fail .endInObject
  | fuel + 1, seen, first, r => do
    if ← moreMembers first then
      let name ← memberName
      match s.fields.find? (·.name = name) with
      | some f =>
        if name ∈ seen then Read.failPending (.duplicateField name)
        else do
          colon
          named fuel (name :: seen) false (← f.enter r)
      | none => do
        colon
        skipValue
        named fuel seen false r
    else
      match s.fields.find? fun f => !f.optional && !seen.contains f.name with
      | some f => Read.failPending (.missingField f.name)
      | none => return r

def read : Read σ := do
  match ← Read.token with
  | none => Read.failNext .endInValue
  | some '[' => inList (s.listed s.fields 0 s.blank)
  | some '{' => inObject (do s.named ((← get).rest.length + 1) [] true s.blank)
  | some _ => wrongType s.title

end Shape

end HostWatch.Json
