import CatalogSync.Catalog.Client
import CatalogSync.Event

namespace CatalogSync

-- The state of a client, the calls made to it, what was logged, and whether the session is over.
structure Session (σ : Type) where
  catalog : σ
  calls : List Call := []
  events : List Event := []
  isClosed : Bool := false

abbrev Action (σ : Type) := ExceptT Failure (StateM (Session σ))

namespace Action

variable {σ α : Type}

def perform (action : Action σ α) (session : Session σ) : Except Failure α × Session σ :=
  Id.run ((ExceptT.run action).run session)

def ofExcept (result : Except Failure α) : Action σ α := ExceptT.mk (pure result)

def log (event : Event) : Action σ Unit :=
  modify fun session => { session with events := session.events ++ [event] }

-- Makes a call, if there is a client. The call is recorded before the client answers it.
def call (client : Option (Client σ)) (call : Call) : Action σ call.Reply := ExceptT.mk <|
  match client with
  | none => pure (.error ⟨.noClient, []⟩)
  | some client => fun session =>
    let (reply, catalog) := client.answer call session.catalog
    (reply, { session with catalog, calls := session.calls ++ [call] })

def orElse (action : Action σ α) (handle : Failure → Action σ α) : Action σ α :=
  tryCatch action handle

end Action

end CatalogSync
