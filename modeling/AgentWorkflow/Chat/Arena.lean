import AgentWorkflow.Act
import AgentWorkflow.Chat.Provider

/-!
Model clients that are shared. Requests that name the same provider and model get the same client,
which is made once; a request that fails is forgotten, so that the next one tries again.
-/

namespace AgentWorkflow.Chat

variable {σ α : Type}

/-- The clients made so far, by provider and model name, the oldest first. -/
structure Arena (α : Type) where
  clients : List ((String × String) × α) := []

/-- The client of a provider and a model name, if it has been made. -/
def Arena.find? (arena : Arena α) (key : String × String) : Option α := arena.clients.lookup key

/-- Whether a failure already says what is wrong with a client. -/
def explainsItself : Failure → Bool
  | .error (.config _) => true
  | .error (.build _) => true
  | _ => false

/-- A failure to make a client. -/
def clientFailure (key : String × String) (failure : Failure) : Failure :=
  if explainsItself failure then failure
  else failure.causing fun cause => .build (.clientFailed key.1 key.2 cause)

/-- The client of a provider and a model name, and the arena that holds it. -/
def Arena.get (factory : String → String → Act σ α) (arena : Arena α) (provider name : String) :
    Act σ (α × Arena α) :=
  let key := normalized provider name
  match arena.find? key with
  | some client => pure (client, arena)
  | none => do
    let client ← (factory key.1 key.2).describe (clientFailure key)
    return (client, { clients := arena.clients ++ [(key, client)] })

end AgentWorkflow.Chat
