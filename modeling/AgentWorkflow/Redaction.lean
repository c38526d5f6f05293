import AgentWorkflow.Text.Search

/-!
URLs with their passwords hidden, as they appear in logs.
-/

namespace AgentWorkflow

open Text

/-- What stands in the place of a password. -/
def hiddenPassword : String := ":****@"

/-- A URL in which all that stands between the user and the host is hidden. The host begins behind
the last at sign, and the user ends at the first colon. A URL without an at sign stays as it is. -/
def redact (url : String) : String :=
  match splitFirst? "://".toList url.toList with
  | none => url
  | some (scheme, rest) =>
    match splitLast? '@' rest with
    | none => url
    | some (credentials, host) =>
      let user := ((splitFirst? [':'] credentials).map Prod.fst).getD credentials
      String.ofList scheme ++ "://" ++ String.ofList user ++ hiddenPassword ++ String.ofList host

end AgentWorkflow
