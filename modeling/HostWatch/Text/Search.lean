namespace HostWatch.Text

def occursIn (part : List Char) : List Char → Bool
  | [] => part.isEmpty
  | c :: cs => part.isPrefixOf (c :: cs) || occursIn part cs

def splitLine : List Char → Option (List Char × List Char)
  | [] => none
  | '\n' :: cs => some (['\n'], cs)
  | c :: cs => (splitLine cs).map fun p => (c :: p.1, p.2)

theorem splitLine_shrinks {cs line rest : List Char} (h : splitLine cs = some (line, rest)) :
    rest.length < cs.length := by
  fun_induction splitLine cs generalizing line rest with
  | case1 => cases h
  | case2 => cases h; simp
  | case3 c cs _ ih =>
    obtain ⟨p, hp, he⟩ := Option.map_eq_some_iff.1 h
    obtain ⟨-, rfl⟩ := Prod.mk.inj he
    have := ih hp
    simp
    omega

def lines? : Nat → List Char → Option (List String × List Char)
  | 0, cs => some ([], cs)
  | n + 1, cs => do
    let (line, rest) ← splitLine cs
    let (lines, rest) ← lines? n rest
    return (String.ofList line :: lines, rest)

def lineWith? (part : List Char) (cs : List Char) : Option (String × List Char) :=
  match _h : splitLine cs with
  | none => none
  | some (line, rest) =>
    if occursIn part line then some (String.ofList line, rest) else lineWith? part rest
termination_by cs.length
decreasing_by exact splitLine_shrinks _h

def typedLines : List Char → List (List Char)
  | [] => [[]]
  | '\n' :: cs => [] :: typedLines cs
  | c :: cs =>
    match typedLines cs with
    | [] => [[c]]
    | line :: lines => (c :: line) :: lines

end HostWatch.Text
