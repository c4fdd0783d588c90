import HostWatch.Address.Percent

namespace HostWatch.Address.Path

def isDot (s : List Char) : Bool :=
  let s := s.map Char.toLower
  s = ".".toList || s = "%2e".toList

def isDoubleDot (s : List Char) : Bool :=
  let s := s.map Char.toLower
  s = "..".toList || s = ".%2e".toList || s = "%2e.".toList || s = "%2e%2e".toList

def isDriveLetter : List Char → Bool
  | [a, b] => a.isAlpha && (b = ':' || b = '|')
  | _ => false

def cut (isSeparator : Char → Bool) : List Char → List (List Char)
  | [] => [[]]
  | c :: cs =>
    if isSeparator c then [] :: cut isSeparator cs
    else
      match cut isSeparator cs with
      | s :: ss => (c :: s) :: ss
      | [] => [[c]]

/-- What has been resolved: the segments, the last one first, and whether a drive letter began
them. -/
structure Resolved where
  segments : List (List Char) := []
  drive : Bool := false

def Resolved.add (isFile : Bool) (r : Resolved) (s : List Char) (last : Bool) : Resolved :=
  if isDoubleDot s then
    let kept :=
      match r.segments with
      | [d] => if isFile && isDriveLetter d then [d] else []
      | ss => ss.tail
    { r with segments := if last then [] :: kept else kept }
  else if isDot s then { r with segments := if last then [] :: r.segments else r.segments }
  else if isFile && r.segments.isEmpty && isDriveLetter s then
    ⟨[s.take 1 ++ [':']], true⟩
  else { r with segments := s :: r.segments }

def resolveAll (isFile : Bool) (r : Resolved) : List (List Char) → Resolved
  | [] => r
  | [s] => r.add isFile s true
  | s :: ss => resolveAll isFile (r.add isFile s false) ss

def resolve (isSeparator : Char → Bool) (isFile : Bool) (cs : List Char) : Resolved :=
  resolveAll isFile {}
    ((cut isSeparator cs).map (Percent.encode Percent.inPath))

def Resolved.text (r : Resolved) : String :=
  String.join (r.segments.reverse.map fun s => "/" ++ String.ofList s)

end HostWatch.Address.Path
