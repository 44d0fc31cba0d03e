import SectorForest.Event
import SectorForest.Store.Request

/-!
# What the service stands on

A `Backend` answers requests for records, opens and closes transactions, makes codes for new sectors
and takes events. The service is written for any backend over any monad, so that it can run over a
database, over stores that fail at will, or step by step beside other clients.

`Backend.transaction` runs a body between the opening and the closing of a transaction: what the
body did is kept only if the body succeeds and the closing does too.
-/

namespace SectorForest

/-- What is done to the transaction of a connection. -/
inductive TransactionStep where
  /-- Open a transaction and take the right to write. -/
  | start
  /-- Keep what was done and close the transaction. -/
  | commit
  /-- Undo what was done and close the transaction. -/
  | rollback
  /-- Undo and close the transaction if one is open still. -/
  | abandon
  deriving DecidableEq, Repr, Inhabited

/-- What the service stands on. -/
structure Backend (m : Type → Type) where
  organizations : {α : Type} → OrganizationRequest α → m (Except StoreError α)
  sectors : {α : Type} → SectorRequest α → m (Except StoreError α)
  transact : TransactionStep → m (Except Storage.Fault Unit)
  /-- A code for a new sector. -/
  newCode : m String
  /-- Take an event. -/
  emit : Event → m Unit

/-- What the service does: it ends in an answer or in a failure. -/
abbrev Serving (m : Type → Type) (α : Type) := ExceptT Failure m α

/-- End in a service error. -/
def refuse {m : Type → Type} [Monad m] {α : Type} (error : ServiceError) : Serving m α :=
  throw (.refused error)

/-- Run an operation and take its ending, an answer or a failure, as a value. -/
def ending {m : Type → Type} [Monad m] {α : Type} (action : Serving m α) :
    Serving m (Except Failure α) :=
  ExceptT.lift action.run

namespace Backend

variable {m : Type → Type} [Monad m] {α : Type}

/-- Run `body` in a transaction of its own. If the body succeeds, its work is kept, or refused where
it cannot be; if the body fails, its work is undone. -/
def transaction (b : Backend m) (operation : String) (body : Serving m α) : Serving m α := do
  match ← b.transact .start with
  | .error fault => refuse (.ofFault fault)
  | .ok () =>
    match ← ending body with
    | .ok value =>
      match ← b.transact .commit with
      | .ok () =>
        b.emit (.committed operation)
        pure value
      | .error fault =>
        let _ ← b.transact .abandon
        refuse (.ofFault fault)
    | .error (.refused error) =>
      match ← b.transact .rollback with
      | .ok () => pure ()
      | .error fault =>
        let _ ← b.transact .abandon
        b.emit (.rollbackFailed operation fault)
      b.emit (.rolledBack operation error)
      refuse error
    | .error .tooDeep =>
      let _ ← b.transact .abandon
      throw .tooDeep

end Backend

end SectorForest
