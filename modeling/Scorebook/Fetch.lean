import Scorebook.Text.Numeral

/-!
# Failures of fetching

Why a page could not be fetched, and whether another attempt may help.
-/

namespace Scorebook

/-- Why a page could not be fetched. -/
inductive FetchError where
  | timeout
  /-- The connection failed. -/
  | transport (text : String)
  /-- The server answered with this status. -/
  | status (code : Nat)
deriving DecidableEq, Repr

namespace FetchError

def message : FetchError → String
  | .timeout => "fetch timed out"
  | .transport text => "transport error: " ++ text
  | .status code => "unexpected status " ++ Text.decimal code

/-- Whether another attempt may help: after a timeout, a broken connection, too many requests or an
error of the server. -/
def isRetryable : FetchError → Bool
  | .timeout => true
  | .transport _ => true
  | .status code => code == 429 || 500 ≤ code && code < 600

end FetchError

end Scorebook
