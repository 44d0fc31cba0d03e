import SectorForest.Proofs.Update

/-!
# Running the service over a session

`Session.run` runs what the service does from a session on. The lemmas here say what running comes
to for each way of putting operations together and for each request, so that an operation of the
service can be followed step by step over the records behind the session.
-/

namespace SectorForest

open Storage

/-! ## Steps of a transaction -/

namespace Storage.Connection

variable {c : Connection}

theorem transact_start (hidle : c.saved = none) (hfree : c.contended = false) :
    transact .start c = (.ok (), { c with saved := some c.database }) := by
  simp [transact, beginImmediate, inTransaction, hidle, hfree]

theorem transact_start_contended (hidle : c.saved = none) (hcontended : c.contended = true) :
    transact .start c = (.error .locked, c) := by
  simp [transact, beginImmediate, inTransaction, hidle, hcontended]

theorem transact_start_open (hopen : c.inTransaction = true) :
    transact .start c = (.error .transactionOpen, c) := by
  simp [transact, beginImmediate, hopen]

theorem transact_commit (hopen : c.inTransaction = true) :
    transact .commit c = (.ok (), { c with saved := none }) := by
  simp [transact, commit, hopen]

theorem transact_rollback (hopen : c.inTransaction = true) :
    transact .rollback c = (.ok (), c.undone) := by
  simp [transact, rollback, hopen]

/-- A fault may have ended the transaction, and then there is none to roll back. -/
theorem transact_rollback_closed (hclosed : c.inTransaction = false) :
    transact .rollback c = (.error (.noTransaction "rollback"), c) := by
  simp [transact, rollback, hclosed]

end Storage.Connection

namespace Session

variable {α β : Type} {s : Session}

/-- The ending of what the service does from a session on, and the session afterwards. -/
def run (s : Session) (action : Serving (StateM Session) α) : Except Failure α × Session :=
  StateT.run action.run s

/-! ## Putting operations together -/

@[simp] theorem run_pure (a : α) : s.run (pure a) = (.ok a, s) := rfl

theorem run_bind (action : Serving (StateM Session) α) (next : α → Serving (StateM Session) β) :
    s.run (action >>= next) =
      match s.run action with
      | (.ok a, s') => s'.run (next a)
      | (.error failure, s') => (.error failure, s') := by
  simp only [run, ExceptT.run_bind, StateT.run_bind]
  cases StateT.run action.run s with
  | mk result s' => cases result <;> rfl

theorem run_map (f : α → β) (action : Serving (StateM Session) α) :
    s.run (f <$> action) = ((s.run action).1.map f, (s.run action).2) := by
  rw [← bind_pure_comp, run_bind]
  cases s.run action with
  | mk result s' => cases result <;> rfl

theorem run_bind_ok {action : Serving (StateM Session) α} {a : α} {s' : Session}
    (h : s.run action = (.ok a, s')) (next : α → Serving (StateM Session) β) :
    s.run (action >>= next) = s'.run (next a) := by
  rw [run_bind, h]

theorem run_bind_error {action : Serving (StateM Session) α} {failure : Failure} {s' : Session}
    (h : s.run action = (.error failure, s')) (next : α → Serving (StateM Session) β) :
    s.run (action >>= next) = (.error failure, s') := by
  rw [run_bind, h]

/-- What the first of two actions leads to, and the second one keeps, is what both lead to. -/
theorem run_bind_invariant {P : Session → Prop} {action : Serving (StateM Session) α}
    {next : α → Serving (StateM Session) β} (h : P (s.run action).2)
    (hnext : ∀ a s', P s' → P (s'.run (next a)).2) : P (s.run (action >>= next)).2 := by
  rw [run_bind]
  cases hrun : s.run action with
  | mk result s' =>
    rw [hrun] at h
    cases result with
    | error failure => exact h
    | ok a => exact hnext a s' h

@[simp] theorem run_ending (action : Serving (StateM Session) α) :
    s.run (ending action) = (.ok (s.run action).1, (s.run action).2) := by
  simp only [run, ending, ExceptT.run_lift, StateT.run_map]
  rfl

@[simp] theorem run_newCode :
    s.run (liftM (backend (m := StateM Session)).newCode) =
      (.ok (s.codes s.codesTaken), { s with codesTaken := s.codesTaken + 1 }) := rfl

@[simp] theorem run_transact (step : TransactionStep) :
    s.run (liftM ((backend (m := StateM Session)).transact step)) =
      (.ok (Connection.transact step s.connection).1,
        { s with connection := (Connection.transact step s.connection).2 }) := rfl

theorem run_answered (answer : StateM Session (Except StoreError α))
    (onError : StoreError → ServiceError) :
    s.run (Backend.answered answer onError) =
      ((StateT.run answer s).1.mapError fun error => .refused (onError error),
        (StateT.run answer s).2) := by
  have hlift : s.run (liftM answer) =
      (.ok (StateT.run answer s).1, (StateT.run answer s).2) := rfl
  rw [Backend.answered, run_bind_ok hlift]
  cases (StateT.run answer s).1 <;> rfl

/-- What an operation ended in, with the event of its ending. -/
def reporting (operation : String) (p : Except Failure α × Session) :
    Except Failure α × Session :=
  match p with
  | (.ok a, s) => (.ok a, s.record (.succeeded operation))
  | (.error (.refused error), s) =>
    (.error (.refused error), s.record (.refused operation error))
  | (.error .tooDeep, s) => (.error .tooDeep, s)

theorem run_reported (operation : String) (action : Serving (StateM Session) α) :
    s.run (backend.reported operation action) = reporting operation (s.run action) := by
  rw [Backend.reported, run_bind, run_ending]
  cases s.run action with
  | mk result s' =>
    cases result with
    | ok a => rfl
    | error failure => cases failure <;> rfl

@[simp] theorem reporting_fst (operation : String) (p : Except Failure α × Session) :
    (reporting operation p).1 = p.1 := by
  obtain ⟨⟨_ | _⟩ | a, s⟩ := p <;> rfl

@[simp] theorem reporting_connection (operation : String) (p : Except Failure α × Session) :
    (reporting operation p).2.connection = p.2.connection := by
  obtain ⟨⟨_ | _⟩ | a, s⟩ := p <;> rfl

/-! ## Transactions -/

/-- The session with a transaction open. -/
def opened (s : Session) : Session :=
  { s with connection := { s.connection with saved := some s.connection.database } }

section Transaction

variable (operation : String) {body : Serving (StateM Session) α}
  (hidle : s.connection.saved = none)
include hidle

/-- While another client may write no transaction is opened. -/
theorem run_transaction_contended (hcontended : s.connection.contended = true) :
    s.run (backend.transaction operation body) =
      (.error (.refused (.ofFault .locked)), s) := by
  rw [Backend.transaction, run_bind_ok (run_transact _),
    Connection.transact_start_contended hidle hcontended]
  rfl

variable (hfree : s.connection.contended = false) {s' : Session}
include hfree

theorem run_start :
    s.run (liftM ((backend (m := StateM Session)).transact .start)) = (.ok (.ok ()), s.opened) := by
  rw [run_transact, Connection.transact_start hidle hfree]
  rfl

/-- The work of a body that succeeds is kept. -/
theorem run_transaction_ok {a : α} (hbody : s.opened.run body = (.ok a, s'))
    (hopen : s'.connection.saved.isSome = true) :
    (s.run (backend.transaction operation body)).1 = .ok a ∧
      (s.run (backend.transaction operation body)).2.connection =
        { s'.connection with saved := none } := by
  rw [Backend.transaction, run_bind_ok (run_start hidle hfree)]
  simp only [run_bind, run_ending, hbody, run_transact, Connection.transact_commit hopen]
  exact ⟨rfl, rfl⟩

/-- The work of a body that fails is undone. -/
theorem run_transaction_error {failure : Failure}
    (hbody : s.opened.run body = (.error failure, s')) :
    (s.run (backend.transaction operation body)).1 = .error failure ∧
      (s.run (backend.transaction operation body)).2.connection = s'.connection.undone := by
  rw [Backend.transaction, run_bind_ok (run_start hidle hfree)]
  simp only [run_bind, run_ending, hbody]
  cases failure with
  | tooDeep => exact ⟨rfl, rfl⟩
  | refused error =>
    cases hopen : s'.connection.inTransaction with
    | false =>
      simp only [run_bind, run_transact, Connection.transact_rollback_closed hopen]
      exact ⟨rfl, rfl⟩
    | true =>
      simp only [run_bind, run_transact, Connection.transact_rollback hopen]
      exact ⟨rfl, rfl⟩

end Transaction

/-! ## Requests -/

theorem run_askOrganizations (request : OrganizationRequest α)
    (onError : StoreError → ServiceError) :
    s.run (backend.askOrganizations request onError) =
      ((request.answer s.connection).1.mapError fun error => .refused (onError error),
        { s with connection := (request.answer s.connection).2 }) :=
  run_answered _ _

theorem run_askSectors (request : SectorRequest α) (onError : StoreError → ServiceError) :
    s.run (backend.askSectors request onError) =
      ((request.answer s.connection).1.mapError fun error => .refused (onError error),
        { s with connection := (request.answer s.connection).2 }) :=
  run_answered _ _

end Session

end SectorForest
