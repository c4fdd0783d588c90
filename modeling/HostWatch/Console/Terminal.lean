import HostWatch.Address.Target
import HostWatch.Shell.Session
import HostWatch.Text.Utf8

namespace HostWatch

/-- The attempt whose transcript is being printed, and how many bytes of it have been. -/
structure Terminal where
  target : Target
  url : Address.Url
  epoch : Nat
  printed : Nat := 0
  deriving DecidableEq, Repr

inductive TerminalRequest where
  | quit
  | call (input : Session.Input)

namespace Terminal

def greeting : String := "commands: /reconnect | /ctrl-c | /bs | /quit"

/-- The part of a transcript that has not been printed. A transcript of another attempt is printed
from its beginning. -/
def unprinted? (s : ShellState) (t : Terminal) : Option String :=
  Text.Utf8.suffix? (if s.epoch = t.epoch then t.printed else 0) s.transcript

/-- Takes a look at the state of the session; what is new of its transcript is printed. -/
def look (s : ShellState) (t : Terminal) : Terminal × String :=
  let seen := if s.epoch = t.epoch then t.printed else 0
  let size := (Text.Utf8.bytesOf s.transcript).length
  if seen < size then
    ({ t with epoch := s.epoch, printed := size }, (t.unprinted? s).getD "")
  else ({ t with epoch := s.epoch, printed := seen }, "")

def statusLine (t : Terminal) : Connection → String
  | .connecting => "-- connecting to " ++ t.url.text
  | .opened => "-- connected to " ++ t.target.text
  | .closed code reason =>
    "-- disconnected (" ++ toString code.toNat ++
      (if reason.isEmpty then "" else ": " ++ reason) ++ ")"
  | .failed text => "-- connection failed: " ++ text

def request (line : String) (t : Terminal) : TerminalRequest :=
  let word := Text.trim line
  if word = "/quit" then .quit
  else if word = "/reconnect" then .call (.reconnect t.url)
  else if word = "/ctrl-c" then .call .interrupt
  else if word = "/bs" then .call .backspace
  else .call (.submit line)

def complaint? : Session.Answer → Option String
  | .written false => some "-- not connected"
  | .submitted .notConnected => some "-- not connected"
  | _ => none

end Terminal

end HostWatch
