import SectorForest.Proofs.Congruence
import SectorForest.Proofs.Process
import SectorForest.Proofs.Run

/-!
# Two clients of one database

The service runs over `Process Session` as it does over any other state: `Session.stepwise`. Every
request, code and event is a step then, and taken in one go the steps come to what the call comes to
otherwise: `Session.perform_run`.

A `Client` has a session of its own, in which the contents of the database are whatever they are
when its turn comes. A turn is one step, except that nobody else gets a turn while the client has a
transaction open: the right to write is taken as it is opened.
-/

namespace SectorForest

open Storage

variable {α β : Type}

namespace Session

/-- The backend over a session, step by step. -/
abbrev stepwise : Backend (Process Session) :=
  backend

/-- Taken in one go, the steps of `action` come to what `action'` comes to. -/
def Runs (action : Serving (Process Session) α) (action' : Serving (StateM Session) α) : Prop :=
  ∀ s : Session, Process.run action.run s = s.run action'

section Runs

variable {action : Serving (Process Session) α} {action' : Serving (StateM Session) α}

theorem Runs.bind {next : α → Serving (Process Session) β}
    {next' : α → Serving (StateM Session) β} (h : Runs action action')
    (hnext : ∀ a, Runs (next a) (next' a)) : Runs (action >>= next) (action' >>= next') := by
  intro s
  refine (Process.run_bind action.run (ExceptT.bindCont next) s).trans ?_
  rw [h s, run_bind]
  cases s.run action' with
  | mk result s' =>
    cases result with
    | error failure => rfl
    | ok a => exact hnext a s'

theorem Runs.ending (h : Runs action action') :
    Runs (SectorForest.ending action) (SectorForest.ending action') := by
  intro s
  rw [run_ending]
  refine (Process.run_bind action.run _ s).trans ?_
  rw [h s]
  rfl

theorem runs_elementary :
    Backend.Elementary Runs stepwise (backend (m := StateM Session)) where
  pure _ _ := rfl
  throw _ _ := rfl
  bind h hnext := h.bind hnext
  ending h := h.ending
  organizations _ _ := rfl
  sectors _ _ := rfl
  transact _ _ := rfl
  newCode _ := rfl
  emit _ _ := rfl

/-- Step by step, the service does what it does otherwise. -/
theorem runs_congruent :
    Backend.Congruent Runs stepwise (backend (m := StateM Session)) :=
  runs_elementary.congruent

theorem perform_run (s : Session) (mutation : Mutation) :
    Process.run (mutation.perform stepwise).run s = s.call mutation :=
  runs_congruent.perform mutation s

end Runs

/-- The session with other contents of its database. -/
def holding (s : Session) (database : Database) : Session :=
  { s with connection := { s.connection with database } }

@[simp]
theorem holding_database (s : Session) (database : Database) :
    (s.holding database).connection.database = database :=
  rfl

/-- Whether a transaction is open. -/
def busy (s : Session) : Bool :=
  s.connection.inTransaction

/-- No transaction is open, and nothing keeps the database from being written. -/
structure Idle (s : Session) : Prop where
  saved : s.connection.saved = none
  contended : s.connection.contended = false
  obstacle : s.connection.obstacle = none

end Session

/-- A session, and what is left to do in it. -/
structure Client (α : Type) where
  session : Session
  rest : Process Session α

/-- The client takes a turn on the database. -/
def Client.turn (c : Client α) (database : Database) : Client α × Database :=
  let (rest, session) := c.rest.advance Session.busy (c.session.holding database)
  ({ session, rest }, session.connection.database)

/-- The client does all that is left to do. -/
def Client.finish (c : Client α) (database : Database) : α × Database :=
  let (a, session) := c.rest.run (c.session.holding database)
  (a, session.connection.database)

/-- Two clients, and the database that they share. -/
structure Pair (α β : Type) where
  database : Database
  first : Client α
  second : Client β

/-- One of two clients. -/
inductive Side where
  | first
  | second
  deriving DecidableEq, Repr

/-- What two clients come to, and the contents of the database afterwards. -/
structure Outcome (α β : Type) where
  first : α
  second : β
  database : Database
  deriving DecidableEq

namespace Pair

/-- The clients take turns in the given order. A turn of a client that has ended changes nothing. -/
def follow : List Side → Pair α β → Pair α β
  | [], p => p
  | .first :: schedule, p =>
    let (first, database) := p.first.turn p.database
    follow schedule { p with database, first }
  | .second :: schedule, p =>
    let (second, database) := p.second.turn p.database
    follow schedule { p with database, second }

/-- The clients do all that is left to do, the first one before the second one. -/
def finish (p : Pair α β) : Outcome α β :=
  let (a, database) := p.first.finish p.database
  let (b, database) := p.second.finish database
  { first := a, second := b, database }

end Pair

instance : (x : Mutation) → DecidableEq x.Answer
  | .createOrganization _ _ => inferInstanceAs (DecidableEq OrganizationId)
  | .createSector _ _ _ _ => inferInstanceAs (DecidableEq SectorId)
  | .createSectorIn _ _ _ => inferInstanceAs (DecidableEq Sector)
  | .renameSector _ _ _ => inferInstanceAs (DecidableEq Unit)
  | .deleteSector _ _ => inferInstanceAs (DecidableEq Nat)
  | .renameOrganization _ _ _ => inferInstanceAs (DecidableEq Unit)
  | .deleteOrganization _ _ => inferInstanceAs (DecidableEq Unit)

namespace Session

variable (s t : Session) (x y : Mutation)

/-- Two clients that are about to make a call each, on the database of the first session. -/
def beside : Pair (Except Failure x.Answer) (Except Failure y.Answer) where
  database := s.connection.database
  first := { session := s, rest := (x.perform stepwise).run }
  second := { session := t, rest := (y.perform stepwise).run }

/-- What two calls come to if the clients take turns in the given order; what is left then is done
at last. So every order in which two calls can be interleaved is given by some list. -/
def interleaved (schedule : List Side) :
    Outcome (Except Failure x.Answer) (Except Failure y.Answer) :=
  ((s.beside t x y).follow schedule).finish

/-- What two calls come to, the first one before the second one. -/
def firstThenSecond : Outcome (Except Failure x.Answer) (Except Failure y.Answer) :=
  let (a, s') := s.call x
  let (b, t') := (t.holding s'.connection.database).call y
  { first := a, second := b, database := t'.connection.database }

/-- What two calls come to, the second one before the first one. -/
def secondThenFirst : Outcome (Except Failure x.Answer) (Except Failure y.Answer) :=
  let (b, t') := (t.holding s.connection.database).call y
  let (a, s') := (s.holding t'.connection.database).call x
  { first := a, second := b, database := s'.connection.database }

/-- The order of turns leads to what neither order of the calls leads to. -/
def Clash (schedule : List Side) : Prop :=
  s.interleaved t x y schedule ≠ s.firstThenSecond t x y ∧
    s.interleaved t x y schedule ≠ s.secondThenFirst t x y

instance (schedule : List Side) : Decidable (s.Clash t x y schedule) :=
  inferInstanceAs (Decidable (_ ∧ _))

end Session

end SectorForest
