import SectorForest.Proofs.Atomicity
import SectorForest.Proofs.Transcript

/-!
# What a transaction keeps and undoes

A `Body` is what may be done inside a transaction: requests, calls of the service and further
transactions, in any order, each chosen by what came of those before. A body may end in success
although some of what it did failed.

Where no transaction is open, `ClosedScope` says what comes of a body: all of what succeeded is
kept, or nothing is. Where one is open already, `NestedScope` says that no body is run and that the
open transaction is left alone. Opening and closing a transaction may fail.
`Session.transaction_scoped` says that it is so for all sessions.

What succeeded is read off the notes of the body: `redo` does it again without a transaction.
-/

namespace SectorForest

open Storage

variable {α β : Type}

/-! ## Bodies -/

/-- What may be done inside a transaction. -/
inductive Body : Type → Type 1 where
  | ends {α : Type} (ending : Except Failure α) : Body α
  | organizations {α β : Type} (request : OrganizationRequest β)
      (next : Except StoreError β → Body α) : Body α
  | sectors {α β : Type} (request : SectorRequest β) (next : Except StoreError β → Body α) : Body α
  | calls {α : Type} (operation : Operation) (next : Except Failure operation.Answer → Body α) :
      Body α
  | nests {α β : Type} (name : String) (body : Body β) (next : Except Failure β → Body α) : Body α

/-- Do what a body says. -/
def Body.perform {m : Type → Type} [Monad m] (b : Backend m) : {α : Type} → Body α → Serving m α
  | _, .ends (.ok a) => pure a
  | _, .ends (.error failure) => throw failure
  | _, .organizations request next => do
    let answer ← b.organizations request
    (next answer).perform b
  | _, .sectors request next => do
    let answer ← b.sectors request
    (next answer).perform b
  | _, .calls operation next => do
    let result ← ending (operation.perform b)
    (next result).perform b
  | _, .nests name body next => do
    let result ← ending (b.transaction name (body.perform b))
    (next result).perform b

/-- Bodies keep a relation that all their parts keep. -/
theorem Backend.Stepwise.perform_body {m n : Type → Type} [Monad m] [Monad n]
    {R : {α : Type} → Serving m α → Serving n α → Prop} {b : Backend m} {b' : Backend n}
    (h : Stepwise R b b') (htransaction : Transacts R b b') (body : Body α) :
    R (body.perform b) (body.perform b') := by
  induction body with
  | ends ending =>
    cases ending with
    | ok a => exact h.pure a
    | error failure => exact h.throw failure
  | organizations request next ih => exact h.bind (h.organizations request) ih
  | sectors request next ih => exact h.bind (h.sectors request) ih
  | calls operation next ih =>
    exact h.bind (h.ending ((h.congruent htransaction).operate operation)) ih
  | nests name body next ihbody ih => exact h.bind (h.ending (htransaction name ihbody)) ih

/-! ## Doing again what succeeded -/

/-- A request that was made: what it does to a connection, and the error it ended in. -/
structure Deed where
  act : StoreAction Unit
  error? : Option StoreError

/-- The deed of a request that is answered by `action`. -/
def Deed.of (action : StoreAction α) (answer : Except StoreError α) : Deed where
  act c := ((action c).1.map fun _ => (), (action c).2)
  error? := match answer with
    | .ok _ => none
    | .error error => some error

/-- Every request is a deed. -/
def deeds : Notebook Deed where
  organizations _ request answer := .of request.answer answer
  sectors _ request answer := .of request.answer answer

/-- The deeds that succeeded. -/
def succeeded (journal : List Deed) : List Deed :=
  journal.filter fun deed => deed.error?.isNone

/-- Do deeds in order up to the first that fails. -/
def redo : List Deed → StoreAction Unit
  | [], c => (.ok (), c)
  | deed :: rest, c =>
    match deed.act c with
    | (.ok (), c) => redo rest c
    | (.error error, c) => (.error error, c)

/-- Whatever failed has undone nothing but itself: no row number was missing, since for want of one
the whole transaction is undone. -/
def FailuresLocal (journal : List Deed) : Prop :=
  ∀ deed ∈ journal, deed.error? ≠ some (.ofFault .full)

theorem redo_append {earlier later : List Deed} {c c' : Connection}
    (h : redo earlier c = (.ok (), c')) : redo (earlier ++ later) c = redo later c' := by
  induction earlier generalizing c with
  | nil =>
    cases h
    rfl
  | cons deed rest ih =>
    rw [redo] at h
    rw [List.cons_append, redo]
    cases hact : deed.act c with
    | mk result c'' =>
      rw [hact] at h
      cases result with
      | error error => cases h
      | ok done => exact ih h

theorem succeeded_append (journal : List Deed) (deed : Deed) :
    succeeded (journal ++ [deed]) = succeeded journal ++ succeeded [deed] :=
  List.filter_append ..

theorem FailuresLocal.earlier {earlier later : List Deed} (h : FailuresLocal (earlier ++ later)) :
    FailuresLocal earlier :=
  fun deed hmem => h deed (List.mem_append_left _ hmem)

/-! ## An open transaction makes no difference to requests -/

/-- A store answers the same inside a transaction and outside, and leaves the same database, unless
the transaction is undone as a whole. -/
def Framed (action : StoreAction α) : Prop :=
  ∀ (c : Connection) (saved : Option Database),
    (action { c with saved }).1 = (action c).1 ∧
      ((action c).1 = .error (.ofFault .full) ∨
        (action { c with saved }).2 = { (action c).2 with saved })

theorem framed_look {query : Connection → Except StoreError α}
    (hquery : ∀ c saved, query { c with saved } = query c) : Framed (StoreAction.look query) :=
  fun c saved => ⟨hquery c saved, .inr rfl⟩

theorem framed_execute (statement : Statement) (part : Storage.Outcome → α) :
    Framed (StoreAction.execute statement part) := by
  intro c saved
  have hfault (p : Part) : Connection.writeFault? { c with saved } p = c.writeFault? p := rfl
  simp only [StoreAction.execute, Connection.execute, hfault]
  cases statement.prepare c.database with
  | error fault => exact ⟨rfl, .inr rfl⟩
  | ok _ =>
    by_cases hidle : statement.isIdle c.database = true
    · simp only [hidle, if_true, or_true, and_self]
    · simp only [hidle]
      cases c.writeFault? (statement.part c.database) with
      | some fault => exact ⟨rfl, .inr rfl⟩
      | none =>
        cases statement.run c.database with
        | ok p => exact ⟨rfl, .inr rfl⟩
        | error fault =>
          cases fault with
          | full => exact ⟨rfl, .inl rfl⟩
          | _ => exact ⟨rfl, .inr rfl⟩

theorem framed_organizations (request : OrganizationRequest α) : Framed request.answer := by
  cases request
  all_goals first
    | exact framed_look fun _ _ => rfl
    | exact framed_execute _ _

theorem framed_sectors (request : SectorRequest α) : Framed request.answer := by
  cases request
  all_goals first
    | exact framed_look fun _ _ => rfl
    | exact framed_execute _ _

/-! ## Transactions that cannot be opened or closed -/

/-- The faults of opening and closing a transaction. What is abandoned is gone without a word. -/
structure TransactionFaults where
  start : Option Fault := none
  commit : Option Fault := none
  rollback : Option Fault := none

/-- The fault of a step. -/
def TransactionFaults.at? (faults : TransactionFaults) : TransactionStep → Option Fault
  | .start => faults.start
  | .commit => faults.commit
  | .rollback => faults.rollback
  | .abandon => none

/-- Take a step of the transaction of a connection, or fail in its place. -/
def Storage.Connection.transactOr (faults : TransactionFaults) (step : TransactionStep) :
    ClientAction Unit := fun c =>
  match faults.at? step with
  | some fault => (.error fault, c)
  | none => Connection.transact step c

section

variable {faults : TransactionFaults} {step : TransactionStep} {c : Connection}

theorem Storage.Connection.transactOr_faulty {fault : Fault} (h : faults.at? step = some fault) :
    transactOr faults step c = (.error fault, c) := by
  rw [transactOr, h]

theorem Storage.Connection.transactOr_free (h : faults.at? step = none) :
    transactOr faults step c = transact step c := by
  rw [transactOr, h]

/-- A transaction is opened, or nothing is done. -/
theorem Storage.Connection.transactOr_start :
    transactOr faults .start c = (.ok (), { c with saved := some c.database }) ∨
      ∃ fault, transactOr faults .start c = (.error fault, c) := by
  cases hfault : faults.at? .start with
  | some fault => exact .inr ⟨fault, transactOr_faulty hfault⟩
  | none =>
    rw [transactOr_free hfault]
    simp only [transact, beginImmediate]
    split_ifs
    · exact .inr ⟨_, rfl⟩
    · exact .inr ⟨_, rfl⟩
    · exact .inl rfl

end

namespace Session

/-- The backend over a session with faults of the steps of a transaction. -/
def faulty (faults : TransactionFaults) : Backend (StateM Session) :=
  { backend with
    transact := fun step => modifyGetThe Session (act (Connection.transactOr faults step)) }

variable {faults : TransactionFaults} {s : Session} {c : Connection}

theorem run_faulty_transact (step : TransactionStep) :
    s.run (liftM ((faulty faults).transact step)) =
      (.ok (Connection.transactOr faults step s.connection).1,
        { s with connection := (Connection.transactOr faults step s.connection).2 }) := rfl

theorem run_faulty_reported (operation : String) (action : Serving (StateM Session) α) :
    s.run ((faulty faults).reported operation action) = reporting operation (s.run action) :=
  run_reported operation action

/-- Looking for an organization changes nothing. -/
theorem run_findOrganization_snd (tenant : TenantId) (code : String) :
    (s.run ((faulty faults).findOrganization tenant code)).2 = s := by
  have hask : s.run ((faulty faults).askOrganizations (.findByCode tenant code)) =
      (((OrganizationRequest.findByCode tenant code).answer s.connection).1.mapError
        fun error => .refused (.persistence error), s) :=
    run_askOrganizations _ _
  rw [Backend.findOrganization, run_bind, hask]
  cases ((OrganizationRequest.findByCode tenant code).answer s.connection).1 with
  | error error => rfl
  | ok found => cases found <;> rfl

/-! ## Inside a transaction -/

/-- A transaction was opened on the connection `c`, and the deeds of `journal` have made of it what
those that succeeded make of `c` without it. -/
def Within (c c' : Connection) (journal : List Deed) : Prop :=
  ∃ redone, redo (succeeded journal) c = (.ok (), redone) ∧
    (∃ db, redone = { c with database := db }) ∧ c' = { redone with saved := some c.database }

/-- What is done inside a transaction on `c` is done again in the same way, and noting it makes no
difference. -/
structure Inside (c : Connection) (action : Serving (Noting Deed Session) α)
    (action' : Serving (StateM Session) α) : Prop where
  mirrors : Mirrors action action'
  within (s : Session) (journal : List Deed) (hs : Within c s.connection journal)
    (hlocal : FailuresLocal (jot s journal action).1.2) :
    Within c (jot s journal action).2.connection (jot s journal action).1.2

theorem Within.openOn {c' : Connection} {journal : List Deed} (h : Within c c' journal) :
    OpenOn c c' := by
  obtain ⟨_, -, ⟨db, rfl⟩, rfl⟩ := h
  exact ⟨db, rfl⟩

theorem within_opened (s : Session) : Within s.connection s.opened.connection [] :=
  ⟨s.connection, rfl, ⟨s.connection.database, rfl⟩, rfl⟩

/-- A request made inside a transaction. -/
theorem Within.deed {action : StoreAction α} (hframed : Framed action)
    (hcontained : Contained action) (hidle : c.saved = none) {c' : Connection}
    {journal : List Deed} (h : Within c c' journal)
    (hlocal : FailuresLocal (journal ++ [.of action (action c').1])) :
    Within c (action c').2 (journal ++ [.of action (action c').1]) := by
  have hlast := hlocal (.of action (action c').1) (List.mem_append_right _ List.mem_cons_self)
  obtain ⟨redone, hredo, ⟨db, hdb⟩, rfl⟩ := h
  have hidle' : redone.saved = none := by
    rw [hdb]
    exact hidle
  obtain ⟨hanswer, hafter⟩ := hframed redone (some c.database)
  have hends := hcontained redone
  rw [Connection.undone_idle hidle'] at hends
  rw [hanswer] at hlast ⊢
  rw [Within, succeeded_append, redo_append hredo]
  cases hresult : (action redone).1 with
  | error error =>
    rw [hresult] at hlast hends hafter
    have hsame := hafter.resolve_left fun hfull => hlast (congrArg some (Except.error.inj hfull))
    have hsteps : (action redone).2 = redone := hends.elim id id
    rw [hsteps] at hsame
    exact ⟨redone, rfl, ⟨db, hdb⟩, hsame⟩
  | ok a =>
    rw [hresult] at hends hafter
    have hsame := hafter.resolve_left fun hfull => nomatch hfull
    obtain ⟨db', hsteps⟩ := hends
    refine ⟨(action redone).2, ?_, ⟨db', ?_⟩, hsame⟩
    · show redo [.of action (.ok a)] redone = _
      simp only [redo, Deed.of, hresult, Except.map]
    · rw [hsteps, hdb]

section

variable {action : Serving (Noting Deed Session) α} {action' : Serving (StateM Session) α}

/-- A step that leaves the connection alone and that nothing is noted of. -/
theorem Inside.silent (hmirrors : Mirrors action action')
    (hsilent : ∀ (s : Session) (journal : List Deed),
      (jot s journal action).2.connection = s.connection ∧ (jot s journal action).1.2 = journal) :
    Inside c action action' where
  mirrors := hmirrors
  within s journal hs _ := by
    obtain ⟨hconnection, hjournal⟩ := hsilent s journal
    rw [hconnection, hjournal]
    exact hs

theorem Inside.bind {next : α → Serving (Noting Deed Session) β}
    {next' : α → Serving (StateM Session) β} (h : Inside c action action')
    (hnext : ∀ a, Inside c (next a) (next' a)) :
    Inside c (action >>= next) (action' >>= next') where
  mirrors := h.mirrors.bind fun a => (hnext a).mirrors
  within s journal hs hlocal := by
    have hfirst := h.within s journal hs
    rw [jot_bind] at hlocal ⊢
    cases hjot : jot s journal action with
    | mk p s' =>
      rw [hjot] at hfirst hlocal
      obtain ⟨failure | a, journal'⟩ := p
      · exact hfirst hlocal
      · obtain ⟨later, hgrown⟩ := (hnext a).mirrors s' journal'
        have hlocal' : FailuresLocal journal' := by
          dsimp only at hlocal
          rw [hgrown] at hlocal
          exact hlocal.earlier
        exact (hnext a).within s' journal' (hfirst hlocal') hlocal

theorem Inside.ending (h : Inside c action action') :
    Inside c (SectorForest.ending action) (SectorForest.ending action') where
  mirrors := h.mirrors.ending
  within s journal hs hlocal := by
    rw [jot_ending] at hlocal ⊢
    exact h.within s journal hs hlocal

end

/-- All single steps but those of a transaction stay inside. -/
theorem stepwise_inside (hidle : c.saved = none) :
    Backend.Stepwise (Inside c) ((faulty faults).noted deeds) (faulty faults) where
  pure _ := .silent (mirrors_silent fun _ _ => rfl) fun _ _ => ⟨rfl, rfl⟩
  throw _ := .silent (mirrors_silent fun _ _ => rfl) fun _ _ => ⟨rfl, rfl⟩
  bind h hnext := h.bind hnext
  ending h := h.ending
  organizations request :=
    { mirrors := (mirrors_elementary _ _).organizations request
      within := fun _ _ hs hlocal =>
        hs.deed (framed_organizations request) (contained_organizations request) hidle hlocal }
  sectors request :=
    { mirrors := (mirrors_elementary _ _).sectors request
      within := fun _ _ hs hlocal =>
        hs.deed (framed_sectors request) (contained_sectors request) hidle hlocal }
  newCode := .silent (mirrors_elementary _ _).newCode fun _ _ => ⟨rfl, rfl⟩
  emit event := .silent ((mirrors_elementary _ _).emit event) fun _ _ => ⟨rfl, rfl⟩

/-! ## Where a transaction is open already -/

/-- The fault of opening a transaction inside another one. -/
def nestingFault (faults : TransactionFaults) : Fault :=
  (faults.at? .start).getD .transactionOpen

theorem transactOr_start_nested (hopen : c.inTransaction = true) :
    Connection.transactOr faults .start c = (.error (nestingFault faults), c) := by
  rw [nestingFault]
  cases hfault : faults.at? .start with
  | some fault => exact Connection.transactOr_faulty hfault
  | none =>
    rw [Connection.transactOr_free hfault]
    exact Connection.transact_start_open hopen

/-- No transaction is opened inside another one. -/
theorem run_transaction_nested (hopen : s.connection.inTransaction = true) (name : String)
    (body : Serving (StateM Session) α) :
    s.run ((faulty faults).transaction name body) =
      (.error (.refused (.ofFault (nestingFault faults))), s) := by
  rw [Backend.transaction, run_bind_ok (run_faulty_transact _), transactOr_start_nested hopen]
  rfl

theorem jot_transaction_nested (hopen : s.connection.inTransaction = true) (name : String)
    (journal : List Deed) (body : Serving (Noting Deed Session) α) :
    jot s journal (((faulty faults).noted deeds).transaction name body) =
      ((.error (.refused (.ofFault (nestingFault faults))), journal), s) := by
  have hstart : StateT.run ((faulty faults).transact .start) s =
      (.error (nestingFault faults), s) := by
    show act (Connection.transactOr faults .start) s = _
    rw [act, transactOr_start_nested hopen]
  rw [Backend.transaction, jot_bind_ok (jot_transact _), hstart]
  rfl

/-- Further transactions stay inside, since none is opened. -/
theorem transacts_inside :
    Backend.Transacts (Inside c) ((faulty faults).noted deeds) (faulty faults) := by
  intro α name body body' h
  refine ⟨(mirrors_elementary _ _).transaction name h.mirrors, ?_⟩
  intro s journal hs _
  rw [jot_transaction_nested hs.openOn.inTransaction]
  exact hs

/-- What comes of transactions where one is open. -/
structure NestedScope (faults : TransactionFaults) (s : Session) : Prop where
  /-- No body is run, and nothing at all is changed. -/
  transaction {α : Type} (name : String) (body : Serving (StateM Session) α) :
    s.run ((faulty faults).transaction name body) =
      (.error (.refused (.ofFault (nestingFault faults))), s)
  /-- No organization is created, whatever its code and label are. -/
  createOrganization (tenant : TenantId) (draft : OrganizationDraft) (code label : String)
    (hcode : normalize .code draft.code = .ok code)
    (hlabel : normalize .label draft.label = .ok label) :
    (s.run ((faulty faults).createOrganization tenant draft)).1 =
        .error (.refused (.ofFault (nestingFault faults))) ∧
      (s.run ((faulty faults).createOrganization tenant draft)).2.connection = s.connection
  /-- No organization is deleted that is found. -/
  deleteOrganization (tenant : TenantId) (code : String) (organization : Organization)
    (hfound : (s.run ((faulty faults).findOrganization tenant code)).1 = .ok organization) :
    (s.run ((faulty faults).deleteOrganization tenant code)).1 =
        .error (.refused (.ofFault (nestingFault faults))) ∧
      (s.run ((faulty faults).deleteOrganization tenant code)).2.connection = s.connection
  /-- What was done before in the open transaction can be kept still. -/
  commits : Connection.transact .commit s.connection = (.ok (), { s.connection with saved := none })

/-! ## Where no transaction is open -/

/-- What a body ends in that is run in a transaction on the connection of a session. -/
def endingOf (faults : TransactionFaults) (s : Session) (body : Body α) :
    Except Failure α :=
  (s.opened.run (body.perform (faulty faults))).1

/-- The deeds of a body that is run in a transaction on the connection of a session. -/
def journalOf (faults : TransactionFaults) (s : Session) (body : Body α) :
    List Deed :=
  (jot s.opened [] (body.perform ((faulty faults).noted deeds))).1.2

section Closed

variable (name : String) {body : Serving (StateM Session) α} {s' : Session}

theorem transactOr_start_ok (hstart : (Connection.transactOr faults .start c).1 = .ok ()) :
    Connection.transactOr faults .start c = (.ok (), { c with saved := some c.database }) := by
  rcases Connection.transactOr_start with heq | ⟨fault, heq⟩
  · exact heq
  · rw [heq] at hstart
    cases hstart

theorem transactOr_start_error {fault : Fault}
    (hstart : (Connection.transactOr faults .start c).1 = .error fault) :
    Connection.transactOr faults .start c = (.error fault, c) := by
  rcases Connection.transactOr_start with heq | ⟨fault', heq⟩
  · rw [heq] at hstart
    cases hstart
  · rw [heq] at hstart ⊢
    cases hstart
    rfl

theorem transactOr_commit_ok {c' : Connection}
    (hcommit : Connection.transactOr faults .commit c = (.ok (), c')) : c'.saved = none := by
  cases hfault : faults.at? .commit with
  | some fault =>
    rw [Connection.transactOr_faulty hfault] at hcommit
    cases hcommit
  | none =>
    rw [Connection.transactOr_free hfault] at hcommit
    simp only [Connection.transact, Connection.commit] at hcommit
    split_ifs at hcommit <;> cases hcommit
    rfl

variable (faults c) in
/-- A transaction is rolled back, or nothing is done. -/
theorem transactOr_rollback :
    Connection.transactOr faults .rollback c = (.ok (), c.undone) ∨
      ∃ fault, Connection.transactOr faults .rollback c = (.error fault, c) := by
  cases hfault : faults.at? .rollback with
  | some fault => exact .inr ⟨fault, Connection.transactOr_faulty hfault⟩
  | none =>
    rw [Connection.transactOr_free hfault]
    cases hopen : c.inTransaction with
    | true => exact .inl (Connection.transact_rollback hopen)
    | false => exact .inr ⟨_, Connection.transact_rollback_closed hopen⟩

variable (hstart : (Connection.transactOr faults .start s.connection).1 = .ok ())
include hstart

theorem run_faulty_start :
    s.run (liftM ((faulty faults).transact .start)) = (.ok (.ok ()), s.opened) := by
  rw [run_faulty_transact, transactOr_start_ok hstart]
  rfl

/-- After a body that succeeds its work is kept if the transaction can be closed. -/
theorem run_faulty_transaction_ok {a : α} (hbody : s.opened.run body = (.ok a, s'))
    {result : Except Fault Unit} {c' : Connection}
    (hcommit : Connection.transactOr faults .commit s'.connection = (result, c')) :
    ((s.run ((faulty faults).transaction name body)).1,
        (s.run ((faulty faults).transaction name body)).2.connection) =
      match result with
      | .ok () => (.ok a, c')
      | .error fault => (.error (.refused (.ofFault fault)), c'.undone) := by
  rw [Backend.transaction, run_bind_ok (run_faulty_start hstart)]
  simp only [run_bind, run_ending, hbody, run_faulty_transact, hcommit]
  cases result <;> rfl

/-- After a body that fails its work is undone, even if the transaction cannot be rolled back. -/
theorem run_faulty_transaction_error {failure : Failure}
    (hbody : s.opened.run body = (.error failure, s')) :
    (s.run ((faulty faults).transaction name body)).1 = .error failure ∧
      (s.run ((faulty faults).transaction name body)).2.connection = s'.connection.undone := by
  rw [Backend.transaction, run_bind_ok (run_faulty_start hstart)]
  simp only [run_bind, run_ending, hbody]
  cases failure with
  | tooDeep => exact ⟨rfl, rfl⟩
  | refused error =>
    rcases transactOr_rollback faults s'.connection with hdone | ⟨fault, hfault⟩
    · simp only [run_bind, run_faulty_transact, hdone]
      exact ⟨rfl, rfl⟩
    · simp only [run_bind, run_faulty_transact, hfault]
      exact ⟨rfl, rfl⟩

end Closed

/-- What running a body in a transaction ends in, and the session afterwards. -/
def transacted (faults : TransactionFaults) (s : Session) (name : String) (body : Body α) :
    Except Failure α × Session :=
  s.run ((faulty faults).transaction name (body.perform (faulty faults)))

/-- What comes of a transaction where none is open, for a body of which no failure undoes more than
itself. -/
structure ClosedScope (faults : TransactionFaults) (s : Session) (name : String)
    (body : Body α) : Prop where
  /-- Where it cannot be opened, nothing is done. -/
  unopened (fault : Fault)
    (hstart : (Connection.transactOr faults .start s.connection).1 = .error fault) :
    transacted faults s name body = (.error (.refused (.ofFault fault)), s)
  /-- If the body succeeds and the transaction can be closed, what succeeded is kept. -/
  kept (a : α) (hstart : (Connection.transactOr faults .start s.connection).1 = .ok ())
    (hbody : endingOf faults s body = .ok a) (hcommit : faults.commit = none) :
    (transacted faults s name body).1 = .ok a ∧
      redo (succeeded (journalOf faults s body)) s.connection =
        (.ok (), (transacted faults s name body).2.connection)
  /-- If the body succeeds and the transaction cannot be closed, nothing is kept. -/
  unkept (a : α) (fault : Fault)
    (hstart : (Connection.transactOr faults .start s.connection).1 = .ok ())
    (hbody : endingOf faults s body = .ok a) (hcommit : faults.commit = some fault) :
    (transacted faults s name body).1 = .error (.refused (.ofFault fault)) ∧
      (transacted faults s name body).2.connection = s.connection
  /-- If the body fails, nothing is kept. -/
  undone (failure : Failure)
    (hstart : (Connection.transactOr faults .start s.connection).1 = .ok ())
    (hbody : endingOf faults s body = .error failure) :
    (transacted faults s name body).1 = .error failure ∧
      (transacted faults s name body).2.connection = s.connection

/-! ## The scope of a transaction -/

/-- Inside its transaction a body leaves what its deeds that succeeded leave without it. -/
theorem within_body (hidle : s.connection.saved = none) (body : Body α)
    (hlocal : FailuresLocal (journalOf faults s body)) :
    Within s.connection (s.opened.run (body.perform (faulty faults))).2.connection
      (journalOf faults s body) := by
  have hinside : Inside s.connection (body.perform ((faulty faults).noted deeds))
      (body.perform (faulty faults)) :=
    (stepwise_inside hidle).perform_body transacts_inside body
  obtain ⟨later, hjot⟩ := hinside.mirrors s.opened []
  have hwithin := hinside.within s.opened [] (within_opened s) hlocal
  rw [hjot] at hwithin
  rw [journalOf, hjot]
  exact hwithin

theorem closedScope (hidle : s.connection.saved = none) (name : String) (body : Body α)
    (hlocal : FailuresLocal (journalOf faults s body)) : ClosedScope faults s name body := by
  have hwithin := within_body hidle body hlocal
  have hundone := hwithin.openOn.undone_eq hidle
  constructor
  · intro fault hstart
    rw [transacted, Backend.transaction, run_bind_ok (run_faulty_transact _),
      transactOr_start_error hstart]
    rfl
  · intro a hstart hbody hcommit
    obtain ⟨redone, hredo, ⟨db, rfl⟩, hconnection⟩ := hwithin
    have hclosed : Connection.transactOr faults .commit
        (s.opened.run (body.perform (faulty faults))).2.connection =
          (.ok (), { s.connection with database := db }) := by
      have hfree : faults.at? .commit = none := hcommit
      rw [Connection.transactOr_free hfree, hconnection, Connection.transact_commit rfl, ← hidle]
    have hrun := run_faulty_transaction_ok name hstart (Prod.ext hbody rfl) hclosed
    obtain ⟨hending, hafter⟩ := Prod.mk.inj hrun
    rw [transacted, hafter]
    exact ⟨hending, hredo⟩
  · intro a fault hstart hbody hcommit
    have hfailed : Connection.transactOr faults .commit
        (s.opened.run (body.perform (faulty faults))).2.connection =
          (.error fault, (s.opened.run (body.perform (faulty faults))).2.connection) :=
      Connection.transactOr_faulty hcommit
    have hrun := run_faulty_transaction_ok name hstart (Prod.ext hbody rfl) hfailed
    obtain ⟨hending, hafter⟩ := Prod.mk.inj hrun
    exact ⟨hending, hafter.trans hundone⟩
  · intro failure hstart hbody
    obtain ⟨hending, hafter⟩ :=
      run_faulty_transaction_error name hstart (Prod.ext hbody rfl)
    exact ⟨hending, hafter.trans hundone⟩

theorem nestedScope (hopen : s.connection.inTransaction = true) : NestedScope faults s := by
  constructor
  · exact fun name body => run_transaction_nested hopen name body
  · intro tenant draft code label hcode hlabel
    have hcode' : (Backend.normalized .code draft.code : Serving (StateM Session) String) =
        pure code := by
      rw [Backend.normalized, hcode]
    have hlabel' : (Backend.normalized .label draft.label : Serving (StateM Session) String) =
        pure label := by
      rw [Backend.normalized, hlabel]
    rw [Backend.createOrganization, run_faulty_reported, hcode', pure_bind, hlabel', pure_bind,
      run_transaction_nested hopen]
    exact ⟨rfl, rfl⟩
  · intro tenant code organization hfound
    have hfind : s.run ((faulty faults).findOrganization tenant code) = (.ok organization, s) :=
      Prod.ext hfound (run_findOrganization_snd tenant code)
    rw [Backend.deleteOrganization, run_faulty_reported, run_bind_ok hfind,
      run_transaction_nested hopen]
    exact ⟨rfl, rfl⟩
  · exact Connection.transact_commit hopen

/-- A transaction is closed again, however it ends. -/
theorem run_transaction_closes (hidle : s.connection.saved = none) (name : String)
    (body : Serving (StateM Session) α) :
    (s.run ((faulty faults).transaction name body)).2.connection.saved = none := by
  cases hstart : (Connection.transactOr faults .start s.connection).1 with
  | error fault =>
    rw [Backend.transaction, run_bind_ok (run_faulty_transact _), transactOr_start_error hstart]
    exact hidle
  | ok done =>
    cases hbody : s.opened.run body with
    | mk result s' =>
      cases result with
      | error failure =>
        rw [(run_faulty_transaction_error name hstart hbody).2]
        rfl
      | ok a =>
        cases hcommit : Connection.transactOr faults .commit s'.connection with
        | mk result c' =>
          have hrun := run_faulty_transaction_ok name hstart hbody hcommit
          cases result with
          | error fault =>
            rw [(Prod.mk.inj hrun).2]
            rfl
          | ok done =>
            rw [(Prod.mk.inj hrun).2]
            exact transactOr_commit_ok hcommit

/-- From any session on, whatever faults the steps of a transaction have: if no transaction is open
there is none afterwards, and all or nothing is kept of a body whose failures undo themselves alone;
if one is open it is left alone and can still be closed. -/
theorem transaction_scoped (faults : TransactionFaults) (s : Session) :
    (s.connection.saved = none → ∀ {α : Type} (name : String) (body : Body α),
      (transacted faults s name body).2.connection.saved = none ∧
      (FailuresLocal (journalOf faults s body) → ClosedScope faults s name body)) ∧
    (s.connection.inTransaction = true → NestedScope faults s) :=
  ⟨fun hidle _ name body =>
    ⟨run_transaction_closes hidle name _, fun hlocal => closedScope hidle name body hlocal⟩,
    nestedScope⟩

/-- A body that creates a sector, cannot give it the label of another one, cannot open a transaction
of its own, and succeeds nevertheless. -/
def mixed : Body Unit :=
  .calls (.change (.createSector 1 1 "North" none)) fun _ =>
    .sectors (.rename 1 2 "Acme") fun _ =>
      .nests "inner" (.ends (.ok ())) fun _ => .ends (.ok ())

open Records in
/-- The sector stays, unless the transaction cannot be closed. While the transaction is open no
organization is created. -/
theorem transaction_scoped_mixed :
    let s := founded.session "n"
    let locked : TransactionFaults := { commit := some .locked }
    (journalOf {} s mixed).map (fun deed => deed.error?.isSome) = [false, false, false, true] ∧
    ((transacted {} s "mixed" mixed).1 = .ok () ∧
      redo (succeeded (journalOf {} s mixed)) s.connection =
        (.ok (), (transacted {} s "mixed" mixed).2.connection)) ∧
    ((transacted locked s "mixed" mixed).1 = .error (.refused (.ofFault .locked)) ∧
      (transacted locked s "mixed" mixed).2.connection = s.connection) ∧
    (s.opened.run ((faulty {}).createOrganization 1
      { code := "b", label := "B", kind := .bu })).1 =
        .error (.refused (.ofFault .transactionOpen)) := by
  intro s locked
  have hlocal : FailuresLocal (journalOf {} s mixed) := by
    unfold FailuresLocal
    decide +kernel
  have hlocal' : FailuresLocal (journalOf locked s mixed) := by
    unfold FailuresLocal
    decide +kernel
  have hkept := (((transaction_scoped {} s).1 rfl "mixed" mixed).2 hlocal).kept ()
    (by decide +kernel) (by decide +kernel) rfl
  have hunkept := (((transaction_scoped locked s).1 rfl "mixed" mixed).2 hlocal').unkept () .locked
    (by decide +kernel) (by decide +kernel) rfl
  have hnested := ((transaction_scoped {} s.opened).2 rfl).createOrganization 1
    { code := "b", label := "B", kind := .bu } "b" "B" (by decide +kernel) (by decide +kernel)
  exact ⟨by decide +kernel, hkept, hunkept, hnested.1⟩

end Session

end SectorForest
