namespace HostWatch.Text

def isBlank (c : Char) : Bool :=
  let n := c.toNat
  (0x09 ≤ n && n ≤ 0x0D) || n = 0x20 || n = 0x85 || n = 0xA0 || n = 0x1680 ||
    (0x2000 ≤ n && n ≤ 0x200A) || n = 0x2028 || n = 0x2029 || n = 0x202F || n = 0x205F || n = 0x3000

def trimChars (cs : List Char) : List Char :=
  ((cs.dropWhile isBlank).reverse.dropWhile isBlank).reverse

def trim (s : String) : String := String.ofList (trimChars s.toList)

/-- The maximal runs of characters that are not blank, in order; `run` is the one being read,
backwards. -/
def wordsFrom (run : List Char) : List Char → List (List Char)
  | [] => if run.isEmpty then [] else [run.reverse]
  | c :: cs =>
    if isBlank c then
      if run.isEmpty then wordsFrom [] cs else run.reverse :: wordsFrom [] cs
    else wordsFrom (c :: run) cs

def wordsOf (cs : List Char) : List (List Char) := wordsFrom [] cs

def words (s : String) : List String := (wordsOf s.toList).map String.ofList

def padRight (width : Nat) (s : String) : String :=
  s ++ String.ofList (List.replicate (width - s.length) ' ')

def padLeft (width : Nat) (s : String) : String :=
  String.ofList (List.replicate (width - s.length) ' ') ++ s

/-- A text of at most `max` characters: a longer one keeps both ends around three dots, the end
getting the odd character. -/
def truncateMiddle (s : String) (max : Nat) : String :=
  let cs := s.toList
  if cs.length ≤ max then s
  else if max ≤ 3 then "..."
  else
    let keep := max - 3
    let left := keep / 2
    String.ofList (cs.take left ++ "...".toList ++ cs.drop (cs.length - (keep - left)))

end HostWatch.Text
