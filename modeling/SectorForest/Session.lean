import SectorForest.Sector.Code
import SectorForest.Service
import SectorForest.Store.Answer

/-!
# Sessions

A `Session` is what the service stands on when it works on a database: a connection, a source of
codes for new sectors, and the events so far. `Session.backend` is the backend over it, in any monad
that has a session among its state.
-/

namespace SectorForest

open Storage

/-- Take a step of the transaction of a connection. -/
def Storage.Connection.transact : TransactionStep → ClientAction Unit
  | .start => Connection.beginImmediate
  | .commit => Connection.commit
  | .rollback => Connection.rollback
  | .abandon => fun c => (.ok (), c.undone)

/-- A connection with the service's other needs. -/
structure Session where
  connection : Connection := {}
  /-- The code for the new sector with the given number in the session, counted from zero. -/
  codes : Nat → String := sectorCode
  /-- The number of codes used up. -/
  codesTaken : Nat := 0
  /-- The events so far, in order. -/
  events : List Event := []

namespace Session

/-- Act through the connection of a session. -/
def act {ε α : Type} (action : Connection → Except ε α × Connection) (s : Session) :
    Except ε α × Session :=
  let (result, connection) := action s.connection
  (result, { s with connection })

/-- Take the next code. -/
def takeCode (s : Session) : String × Session :=
  (s.codes s.codesTaken, { s with codesTaken := s.codesTaken + 1 })

/-- Take an event. -/
def record (event : Event) (s : Session) : Session :=
  { s with events := s.events ++ [event] }

/-- The backend over a session. -/
def backend {m : Type → Type} [MonadStateOf Session m] : Backend m where
  organizations request := modifyGetThe Session (act request.answer)
  sectors request := modifyGetThe Session (act request.answer)
  transact step := modifyGetThe Session (act (Connection.transact step))
  newCode := modifyGetThe Session takeCode
  emit event := modifyThe Session (record event)

/-- Let the stores look whether the database is fit for them, that of organizations first. The
service is used only after that. -/
def ready {m : Type → Type} [Monad m] [MonadStateOf Session m] : Serving m Unit := do
  let connection := (← getThe Session).connection
  match openOrganizations connection with
  | .error error => refuse (.persistence error)
  | .ok () =>
    match openSectors connection with
    | .error error => refuse (.persistence error)
    | .ok () => pure ()

end Session

end SectorForest
