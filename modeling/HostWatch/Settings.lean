import HostWatch.Number.Decimal
import HostWatch.Text.Blank

namespace HostWatch

/-- The times are never below their floors. -/
structure Settings where
  refreshSeconds : Nat
  exchangeMillis : Nat
  keepAliveSeconds : Nat
  defaultPort : UInt16
  deriving DecidableEq, Repr

namespace Settings

/-- The number that the environment gives under a key, if it is one within the bound; blanks around
it are passed over. -/
def lookup (environment : String → Option String) (key : String) (bound default : Nat) : Nat :=
  ((environment key).bind fun s => Number.natural? bound (Text.trim s)).getD default

def keys : List String :=
  ["PIMON_REFRESH_SECS", "PIMON_HTTP_TIMEOUT_MS", "PIMON_KEEPALIVE_SECS", "PIMON_PORT"]

def ofEnvironment (environment : String → Option String) : Settings where
  refreshSeconds := max 1 (lookup environment "PIMON_REFRESH_SECS" Number.maxWord64 6)
  exchangeMillis := max 100 (lookup environment "PIMON_HTTP_TIMEOUT_MS" Number.maxWord64 5000)
  keepAliveSeconds := max 1 (lookup environment "PIMON_KEEPALIVE_SECS" Number.maxWord64 30)
  defaultPort := UInt16.ofNat (lookup environment "PIMON_PORT" Number.maxWord16 3000)

end Settings

end HostWatch
