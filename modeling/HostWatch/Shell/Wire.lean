import HostWatch.Shell.Link

namespace HostWatch

/-- What the bytes of a connection break the rules with. -/
inductive WireFault where
  | badOpcode (n : Nat)
  | reservedBits
  | masked
  | splitControl
  | longControl
  | nothingToContinue
  | unfinishedMessage (isText : Bool)
  | badClose
  | notText
  | reset
  deriving DecidableEq, Repr

namespace WireFault

def protocol (s : String) : String := "WebSocket protocol error: " ++ s

def message : WireFault → String
  | badOpcode n => protocol ("Encountered invalid opcode: " ++ toString n)
  | reservedBits => protocol "Reserved bits are non-zero"
  | masked => protocol "Received a masked frame from server"
  | splitControl => protocol "Fragmented control frame"
  | longControl => protocol "Control frame too big (payload must be 125 bytes or less)"
  | nothingToContinue => protocol "Continue frame but nothing to continue"
  | unfinishedMessage isText =>
    protocol
      ("While waiting for more fragments received: " ++ (if isText then "TEXT" else "BINARY"))
  | badClose => protocol "Invalid close sequence"
  | notText => "UTF-8 encoding error"
  | reset => protocol "Connection reset without closing handshake"

end WireFault

structure RawFrame where
  isFinal : Bool
  reserved : Bool
  opcode : Nat
  isMasked : Bool
  payload : List UInt8
  deriving DecidableEq, Repr

/-- What stands at the front of some bytes. -/
inductive RawFront where
  | incomplete
  | badOpcode (n : Nat)
  | frame (f : RawFrame) (rest : List UInt8)
  deriving DecidableEq, Repr

namespace RawFront

def bigEndian (bs : List UInt8) : Nat := bs.foldl (fun n b => n * 256 + b.toNat) 0

/-- How many bytes spell a length that the second byte of a frame gives or stands for. -/
def lengthWidth (length : Nat) : Nat :=
  if length = 126 then 2 else if length = 127 then 8 else 0

/-- The length that a frame announces, from the bytes after its first two, and the bytes after it.
-/
def announced (length : Nat) (bs : List UInt8) : Option (Nat × List UInt8) :=
  if bs.length < lengthWidth length then none
  else
    some (if lengthWidth length = 0 then length else bigEndian (bs.take (lengthWidth length)),
      bs.drop (lengthWidth length))

def isKnownOpcode (n : Nat) : Bool := n ≤ 2 || (8 ≤ n && n ≤ 10)

/-- Reads a frame, from its first two bytes, the number of bytes that mask it, its length and what
follows. An opcode that has no meaning shows before the payload is there. -/
def ofHead (first second : UInt8) (mask length : Nat) (bs : List UInt8) : RawFront :=
  if bs.length < mask then .incomplete
  else if !isKnownOpcode (first.toNat % 16) then .badOpcode (first.toNat % 16)
  else if bs.length < mask + length then .incomplete
  else
    .frame ⟨128 ≤ first.toNat, first.toNat / 16 % 8 ≠ 0, first.toNat % 16, 128 ≤ second.toNat,
      (bs.drop mask).take length⟩ (bs.drop (mask + length))

def ofBytes : List UInt8 → RawFront
  | first :: second :: bs =>
    match announced (second.toNat % 128) bs with
    | none => .incomplete
    | some (length, bs) => ofHead first second (if 128 ≤ second.toNat then 4 else 0) length bs
  | _ => .incomplete

theorem announced_shrinks {length n : Nat} {bs rest : List UInt8}
    (h : announced length bs = some (n, rest)) : rest.length ≤ bs.length := by
  unfold announced at h
  split at h
  · cases h
  · obtain ⟨-, rfl⟩ := Prod.mk.inj (Option.some.inj h)
    simp

theorem ofHead_shrinks {first second : UInt8} {mask length : Nat} {bs rest : List UInt8}
    {f : RawFrame} (h : ofHead first second mask length bs = .frame f rest) :
    rest.length ≤ bs.length := by
  unfold ofHead at h
  split at h
  · cases h
  · split at h
    · cases h
    · split at h
      · cases h
      · obtain ⟨-, rfl⟩ := RawFront.frame.inj h
        simp

theorem ofBytes_shrinks {bs rest : List UInt8} {f : RawFrame}
    (h : ofBytes bs = .frame f rest) : rest.length < bs.length := by
  unfold ofBytes at h
  split at h
  next first second tail =>
    split at h
    · cases h
    next n remaining ha =>
      have := announced_shrinks ha
      have := ofHead_shrinks h
      simp
      omega
  next => cases h

end RawFront

/-- A connection as far as it has been read: the message whose frames are still coming, and the
bytes of a frame that is not complete. -/
structure Wire where
  message : Option (Bool × List UInt8) := none
  unread : List UInt8 := []
  deriving DecidableEq, Repr

namespace Wire

/-- The cause of a close as it is taken: a code that must not be sent counts as a break of the
rules. -/
def taken (code : UInt16) (reason : String) : UInt16 × String :=
  if (1000 ≤ code ∧ code ≤ 1003) ∨ (1007 ≤ code ∧ code ≤ 1013) ∨ (3000 ≤ code ∧ code ≤ 4999) then
    (code, reason)
  else (1002, "Protocol violation")

def closeFrame : List UInt8 → Except WireFault Frame
  | [] => .ok (.close none)
  | [_] => .error .badClose
  | a :: b :: reason =>
    match Text.Utf8.text? reason with
    | some reason =>
      .ok (.close (some (taken (UInt16.ofNat (a.toNat * 256 + b.toNat)) reason)))
    | none => .error .notText

def beginsText (bs : List UInt8) : Bool :=
  match Text.Utf8.fromFault bs with
  | [] => true
  | b :: rest => Text.Utf8.firstChar b rest = .cut

/-- What a message has grown to: more frames are to come, or it is complete. -/
def grown (isText isFinal : Bool) (bytes : List UInt8) :
    Except WireFault (Option Frame × Option (Bool × List UInt8)) :=
  if isText ∧ !beginsText bytes then .error .notText
  else if !isFinal then .ok (none, some (isText, bytes))
  else if isText then
    match Text.Utf8.text? bytes with
    | some text => .ok (some (.text text), none)
    | none => .error .notText
  else .ok (some (.binary bytes), none)

def interpret (message : Option (Bool × List UInt8)) (f : RawFrame) :
    Except WireFault (Option Frame × Option (Bool × List UInt8)) :=
  if f.reserved then .error .reservedBits
  else if f.isMasked then .error .masked
  else if 8 ≤ f.opcode then
    if !f.isFinal then .error .splitControl
    else if 125 < f.payload.length then .error .longControl
    else if f.opcode = 8 then (closeFrame f.payload).map fun c => (some c, message)
    else .ok (some (if f.opcode = 9 then .ping else .pong), message)
  else
    match message with
    | none =>
      if f.opcode = 0 then .error .nothingToContinue
      else grown (f.opcode = 1) f.isFinal f.payload
    | some (isText, bytes) =>
      if f.opcode = 0 then grown isText f.isFinal (bytes ++ f.payload)
      else .error (.unfinishedMessage (f.opcode = 1))

def readFrom (message : Option (Bool × List UInt8)) (bs : List UInt8) : List Arrival × Wire :=
  match _h : RawFront.ofBytes bs with
  | .incomplete => ([], ⟨message, bs⟩)
  | .badOpcode n => ([.fault (WireFault.badOpcode n).message], {})
  | .frame f rest =>
    match interpret message f with
    | .error fault => ([.fault fault.message], {})
    | .ok (some (.close cause), _) => ([.frame (.close cause)], {})
    | .ok (frame, message) =>
      let (arrivals, w) := readFrom message rest
      (frame.toList.map .frame ++ arrivals, w)
termination_by bs.length
decreasing_by exact RawFront.ofBytes_shrinks _h

def push (w : Wire) (bs : List UInt8) : List Arrival × Wire := readFrom w.message (w.unread ++ bs)

end Wire

end HostWatch
