import HostWatch.Error
import HostWatch.Hosts.Basic
import HostWatch.Json.Printer
import HostWatch.Json.Record
import HostWatch.Text.Utf8

namespace HostWatch

namespace KnownHosts

def text (k : KnownHosts) : String :=
  Json.objectLiteral 0
    [("targets", Json.listLiteral 1 (k.addresses.map Json.stringLiteral)),
     ("selected", toString k.selected.toNat),
     ("version", toString k.version.toNat)]

def shape : Json.Shape KnownHosts :=
  ⟨"struct TargetsFile",
    [.lenient "targets" (Json.list Json.text) fun k as => { k with addresses := as },
     .lenient "selected" Json.natural64 fun k n => { k with selected := UInt64.ofNat n },
     .lenient "version" Json.natural32 fun k n => { k with version := UInt32.ofNat n }], {}⟩

def ofBytes? (bs : List UInt8) : Option KnownHosts := do
  let _ ← Text.Utf8.strict? bs
  (Json.readAll shape.read bs).toOption

end KnownHosts

/-- The place of the file: its directory may be impossible to make, and the file may be missing. -/
inductive HostsPlace where
  | blocked
  | open (file : Option (List UInt8))
  deriving DecidableEq, Repr

namespace HostsPlace

def load : HostsPlace → KnownHosts
  | .open (some bs) => (KnownHosts.ofBytes? bs).getD {}
  | _ => {}

def save (k : KnownHosts) : HostsPlace → Except Error HostsPlace
  | .blocked => .error .directoryBlocked
  | .open _ => .ok (.open (some (Text.Utf8.bytesOf k.text)))

def keep (k : KnownHosts) (p : HostsPlace) : HostsPlace := (p.save k).toOption.getD p

end HostsPlace

def joinPath (directory name : String) : String :=
  if directory.isEmpty || directory.endsWith "/" then directory ++ name
  else directory ++ "/" ++ name

/-- The directory of the file: below the one for configuration if the environment names one, else
below the home directory. -/
def hostsDirectory (configuration : Option String) (home : String) : String :=
  joinPath (configuration.getD (joinPath home ".config")) "pimon"

def hostsPath (configuration : Option String) (home : String) : String :=
  joinPath (hostsDirectory configuration home) "targets.json"

end HostWatch
