import HostWatch.Error

namespace HostWatch

def Error.chain (e : Error) : List String :=
  match e with
  | .decode fault => [e.message, fault.message]
  | .address fault => [e.message, fault.message]
  | _ => [e.message]

namespace Complaint

def indented (blanks : Nat) (s : String) : String :=
  String.ofList <| s.toList.flatMap fun c =>
    if c = '\n' then '\n' :: List.replicate blanks ' ' else [c]

def cause (number : Option Nat) (s : String) : String :=
  match number with
  | none => "\n    " ++ indented 4 s
  | some n =>
    let digits := toString n
    "\n" ++ String.ofList (List.replicate (5 - digits.length) ' ') ++ digits ++ ": " ++ indented 7 s

def text (failure : String) (causes : List String) : String :=
  let listed :=
    match causes with
    | [] => ""
    | [c] => "\n\nCaused by:" ++ cause none c
    | cs => "\n\nCaused by:" ++ String.join (cs.mapIdx fun i c => cause (some i) c)
  "Error: " ++ failure ++ listed ++ "\n"

def ofError (doing : Option String) (e : Error) : String :=
  match doing, e.chain with
  | some d, chain => text d chain
  | none, m :: causes => text m causes
  | none, [] => text "" []

end Complaint

end HostWatch
