import HostWatch.Address.Host
import HostWatch.Address.Path

namespace HostWatch.Address

structure Authority where
  userinfo : String := ""
  host : Host
  port : Option UInt16 := none
  deriving DecidableEq, Repr

structure Url where
  scheme : String
  authority : Option Authority
  path : String
  query : Option String := none
  fragment : Option String := none
  deriving DecidableEq, Repr

/-- Schemes by the way their addresses are read. -/
inductive SchemeKind where
  | file
  | special (port : UInt16)
  | other
  deriving DecidableEq, Repr

def SchemeKind.of (scheme : String) : SchemeKind :=
  if scheme = "file" then .file
  else if scheme = "http" ∨ scheme = "ws" then .special 80
  else if scheme = "https" ∨ scheme = "wss" then .special 443
  else if scheme = "ftp" then .special 21
  else .other

def SchemeKind.isSpecial : SchemeKind → Bool
  | .other => false
  | _ => true

namespace Url

def endsAuthority (kind : SchemeKind) (c : Char) : Bool :=
  c = '/' || c = '?' || c = '#' || (kind.isSpecial && c = '\\')

def isSlash (kind : SchemeKind) (c : Char) : Bool := c = '/' || (kind.isSpecial && c = '\\')

/-- The characters of an address: control characters and spaces around it do not count, and neither
do tabs and line ends inside. -/
def significant (s : String) : List Char :=
  let isEdge (c : Char) : Bool := c.toNat ≤ 0x20
  let cs := ((s.toList.dropWhile isEdge).reverse.dropWhile isEdge).reverse
  cs.filter fun c => c ≠ '\t' ∧ c ≠ '\n' ∧ c ≠ '\r'

def scheme? (cs : List Char) : Option (String × List Char) :=
  let isPart (c : Char) : Bool := c.isAlphanum || c = '+' || c = '-' || c = '.'
  let name := cs.takeWhile isPart
  match cs.head?, cs.drop name.length with
  | some c, ':' :: rest =>
    if c.isAlpha then some (String.ofList (name.map Char.toLower), rest) else none
  | _, _ => none

/-- User name and password as written, from what stands before the last `@`. -/
def userinfoText (cs : List Char) : String :=
  let user := cs.takeWhile (· ≠ ':')
  let password := cs.drop (user.length + 1)
  let written := String.ofList (Percent.encode Percent.inUserinfo user) ++
    (if password.isEmpty then ""
      else ":" ++ String.ofList (Percent.encode Percent.inUserinfo password))
  if written.isEmpty then "" else written ++ "@"

/-- The user name and password of an address, and what follows them. The last `@` before the end of
the authority ends them; with nothing before it, something must follow. -/
def readUserinfo (kind : SchemeKind) (cs : List Char) : Except Fault (String × List Char) :=
  let authority := cs.takeWhile fun c => !endsAuthority kind c
  let host := (authority.reverse.takeWhile (· ≠ '@')).reverse
  if host.length = authority.length then .ok ("", cs)
  else
    let user := authority.take (authority.length - host.length - 1)
    let rest := cs.drop (user.length + 1)
    if user.isEmpty then
      if rest.head?.any (endsAuthority kind) then .error .emptyHost else .ok ("", rest)
    else .ok (userinfoText user, rest)

/-- The characters of the host at the front of a text; a colon ends them unless it is in brackets.
-/
def hostSpan (kind : SchemeKind) (inBrackets : Bool) : List Char → List Char
  | [] => []
  | c :: cs =>
    if (c = ':' && !inBrackets) || endsAuthority kind c then []
    else c :: hostSpan kind (c = '[' || (inBrackets && c ≠ ']')) cs

def readPort (cs : List Char) : Except Fault (Option Nat × List Char) :=
  let digits := cs.takeWhile Char.isDigit
  let rest := cs.drop digits.length
  let value := digits.foldl (fun n c => n * 10 + (c.toNat - '0'.toNat)) 0
  if 65535 < value then .error .badPort
  else if rest.head?.any fun c => !(c = '/' || c = '\\' || c = '?' || c = '#') then .error .badPort
  else .ok (if digits.isEmpty then none else some value, rest)

/-- The port to be written: the one that the scheme uses anyway is left out. -/
def keptPort (kind : SchemeKind) (n : Option Nat) : Option UInt16 :=
  match kind, n.map UInt16.ofNat with
  | .special default, some p => if p = default then none else some p
  | _, p => p

def readAuthority (kind : SchemeKind) (cs : List Char) : Except Fault (Authority × List Char) := do
  let (user, cs) ← readUserinfo kind cs
  let span := hostSpan kind false cs
  let rest := cs.drop span.length
  if kind.isSpecial && span.isEmpty then throw .emptyHost
  let host ← if kind.isSpecial then Host.special span else Host.other span
  match rest with
  | ':' :: rest =>
    if host.isEmpty then throw .emptyHost
    let (n, rest) ← readPort rest
    return (⟨user, host, keptPort kind n⟩, rest)
  | rest =>
    if host.isEmpty && !user.isEmpty then throw .emptyHost
    return (⟨user, host, none⟩, rest)

def cutTail (cs : List Char) : List Char × Option (List Char) × Option (List Char) :=
  let (before, fragment) :=
    match cs.dropWhile (· ≠ '#') with
    | _ :: f => (cs.takeWhile (· ≠ '#'), some f)
    | [] => (cs, none)
  match before.dropWhile (· ≠ '?') with
  | _ :: q => (before.takeWhile (· ≠ '?'), some q, fragment)
  | [] => (before, none, fragment)

def pathText (kind : SchemeKind) (cs : List Char) : String :=
  match cs with
  | [] => if kind.isSpecial then "/" else ""
  | c :: rest =>
    (Path.resolve (isSlash kind) (kind = .file) (if isSlash kind c then rest else c :: rest)).text

def finish (kind : SchemeKind) (scheme : String) (authority : Option Authority)
    (path : List Char → String) (cs : List Char) : Url :=
  let (p, q, f) := cutTail cs
  let querySet := if kind.isSpecial then Percent.inSpecialQuery else Percent.inQuery
  { scheme, authority
    path := path p
    query := q.map fun q => String.ofList (Percent.encode querySet q)
    fragment := f.map fun f => String.ofList (Percent.encode Percent.inFragment f) }

/-- Reads the rest of an address of the scheme `file`. A drive letter is no host, and before one at
the front of the path a host is dropped; this machine's own name is no host either. -/
def parseFile (cs : List Char) : Except Fault Url :=
  let slashed (authority : Option Authority) (cs : List Char) : Url :=
    finish .file "file" authority (fun p => pathText .file ('/' :: p)) cs
  match cs with
  | a :: b :: rest =>
    if isSlash .file a && isSlash .file b then
      let span := rest.takeWhile fun c => !endsAuthority .file c
      let rest' := rest.drop span.length
      if Path.isDriveLetter span then .ok (slashed none rest)
      else if span.isEmpty then .ok (finish .file "file" none (pathText .file) rest')
      else do
        let host ← Host.special span
        let (p, _, _) := cutTail rest'
        let drive := (Path.resolve (isSlash .file) true (p.drop 1)).drive
        let authority := if host = .name "localhost" || drive then none else some ⟨"", host, none⟩
        return finish .file "file" authority (pathText .file) rest'
    else if isSlash .file a then .ok (slashed none (b :: rest))
    else .ok (slashed none cs)
  | a :: rest => .ok (slashed none (if isSlash .file a then rest else a :: rest))
  | [] => .ok (slashed none [])

def parse (s : String) : Except Fault Url :=
  match scheme? (significant s) with
  | none => .error .noScheme
  | some (scheme, rest) =>
    let kind := SchemeKind.of scheme
    match kind with
    | .file => parseFile rest
    | .special _ => do
      let (a, rest) ← readAuthority kind (rest.dropWhile (isSlash kind))
      return finish kind scheme (some a) (pathText kind) rest
    | .other =>
      match rest with
      | '/' :: '/' :: rest => do
        let (a, rest) ← readAuthority kind rest
        return finish kind scheme (some a) (pathText kind) rest
      | '/' :: rest => .ok (finish kind scheme none (fun p => pathText kind ('/' :: p)) rest)
      | rest =>
        .ok (finish kind scheme none
          (fun p => String.ofList (Percent.encode Percent.isControl p)) rest)

def host? (u : Url) : Option Host :=
  match u.authority with
  | some a => if a.host.isEmpty then none else some a.host
  | none => none

def port? (u : Url) : Option UInt16 := u.authority.bind (·.port)

def authorityText (a : Authority) : String :=
  "//" ++ a.userinfo ++ a.host.text ++
    (match a.port with
      | some p => ":" ++ toString p.toNat
      | none => "")

def text (u : Url) : String :=
  u.scheme ++ ":" ++
    (match u.authority with
      | some a => authorityText a
      | none => if u.scheme = "file" then "//" else if u.path.startsWith "//" then "/." else "") ++
    u.path ++
    (match u.query with
      | some q => "?" ++ q
      | none => "") ++
    (match u.fragment with
      | some f => "#" ++ f
      | none => "")

/-- The address that has another name in place of what follows the last slash of the path. -/
def sibling (u : Url) (name : String) : Url :=
  let directory := (u.path.toList.reverse.dropWhile (· ≠ '/')).reverse
  { u with path := String.ofList directory ++ name, query := none, fragment := none }

end Url

end HostWatch.Address
