import SectorForest.Proofs.Run

/-!
# Calls whose steps fail at will

`Backend.failing` stands between the service and a backend and makes steps fail: any request, and
any opening or closing of a transaction, may end in any error without having done anything.
Whichever steps fail, a call that changes records with its last step, or in a transaction of its
own, fails without a trace: `Session.Reachable.failure_traceless`.

`Ensures` is what is shown on the way for each part of an operation. It speaks about connections
before and after and leaves out which steps have failed.
-/

namespace SectorForest

open Storage

variable {α β : Type}

/-! ## Making steps fail -/

/-- Which steps fail, and how: the step with a given number, counted from zero. -/
structure Faults where
  /-- The error of a request. -/
  store : Nat → Option StoreError := fun _ => none
  /-- The fault of a transaction that is to be opened or closed. -/
  transaction : Nat → Option Fault := fun _ => none

/-- One step of a transaction fails, if the step with the given number is one. -/
def Faults.only (step : Nat) (fault : Fault) : Faults where
  transaction n := if n = step then some fault else none

/-- Take a step, or fail in its place; either way the step counts. -/
def failingStep {m : Type → Type} [Monad m] {ε : Type} (fault? : Nat → Option ε)
    (step : m (Except ε α)) : StateT Nat m (Except ε α) := fun n =>
  match fault? n with
  | some error => pure (.error error, n + 1)
  | none => do
    let result ← step
    pure (result, n + 1)

/-- The backend with failing steps. What is abandoned is gone without a word, so that this does not
fail. -/
def Backend.failing {m : Type → Type} [Monad m] (b : Backend m) (faults : Faults) :
    Backend (StateT Nat m) where
  organizations request := failingStep faults.store (b.organizations request)
  sectors request := failingStep faults.store (b.sectors request)
  transact
    | .abandon => liftM (b.transact .abandon)
    | step => failingStep faults.transaction (b.transact step)
  newCode := liftM b.newCode
  emit event := liftM (b.emit event)

/-- What the service does over a session while steps fail. -/
abbrev Trial := StateT Nat (StateM Session)

namespace Records

variable {r r' : Records} {tenant : TenantId}

/-- Where no sector gets another label nothing changes. -/
theorem renameSector_zero {id : SectorId} {label : String}
    (h : r.renameSector tenant id label = .ok (0, r')) : r' = r := by
  rw [renameSector] at h
  split at h
  · cases h
    rfl
  · split at h <;> cases h

theorem renameOrganization_zero {code label : String}
    (h : r.renameOrganization tenant code label = .ok (0, r')) : r' = r := by
  rw [renameOrganization] at h
  split at h
  · cases h
    rfl
  · split at h <;> cases h

end Records

namespace Session

/-- The backend over a session with failing steps. -/
abbrev failing (faults : Faults) : Backend Trial :=
  (backend (m := StateM Session)).failing faults

/-- The ending of what the service does from a session on while steps fail, and the session
afterwards. The first step has the number `n`. -/
def attempt (s : Session) (n : Nat) (action : Serving Trial α) :
    (Except Failure α × Nat) × Session :=
  StateT.run (StateT.run action.run n) s

variable {s : Session} {n : Nat} {faults : Faults}

theorem attempt_bind (action : Serving Trial α) (next : α → Serving Trial β) :
    s.attempt n (action >>= next) =
      match s.attempt n action with
      | ((.ok a, n'), s') => s'.attempt n' (next a)
      | ((.error failure, n'), s') => ((.error failure, n'), s') := by
  simp only [attempt, ExceptT.run_bind, StateT.run_bind]
  cases StateT.run (StateT.run action.run n) s with
  | mk p s' =>
    obtain ⟨_ | _, n'⟩ := p <;> rfl

theorem attempt_ending (action : Serving Trial α) :
    s.attempt n (ending action) =
      ((.ok (s.attempt n action).1.1, (s.attempt n action).1.2), (s.attempt n action).2) := by
  simp only [attempt, ending, ExceptT.run_lift, StateT.run_map]
  rfl

/-- What a step that may fail comes to. -/
theorem run_failingStep {ε : Type} (fault? : Nat → Option ε)
    (step : StateM Session (Except ε α)) :
    StateT.run (StateT.run (failingStep fault? step) n) s =
      match fault? n with
      | some error => ((.error error, n + 1), s)
      | none => (((StateT.run step s).1, n + 1), (StateT.run step s).2) := by
  show StateT.run (failingStep fault? step n) s = _
  rw [failingStep]
  cases fault? n <;> rfl

/-! ## What a part of an operation ensures -/

/-- What is to hold of a connection after a success, and what after a failure. -/
def Ends {ε : Type} (after : α → Connection → Prop) (failed : Connection → Prop) :
    Except ε α → Connection → Prop
  | .ok a => after a
  | .error _ => failed

/-- From a connection that meets `before`, a part of an operation ends in an answer and a connection
that meet `after`, or it fails and leaves a connection that meets `failed`, whatever steps fail. -/
structure Ensures (before : Connection → Prop) (action : Serving Trial α)
    (after : α → Connection → Prop) (failed : Connection → Prop) : Prop where
  ends (s : Session) (n : Nat) (hs : before s.connection) :
    Ends after failed (s.attempt n action).1.1 (s.attempt n action).2.connection

section Rules

variable {before failed : Connection → Prop} {after : α → Connection → Prop}

theorem Ensures.pure {a : α} (h : ∀ c, before c → after a c) :
    Ensures before (pure a) after failed :=
  ⟨fun _ _ hs => h _ hs⟩

theorem Ensures.throw {failure : Failure} (h : ∀ c, before c → failed c) :
    Ensures before (throw failure) after failed :=
  ⟨fun _ _ hs => h _ hs⟩

theorem Ensures.refuse {error : ServiceError} (h : ∀ c, before c → failed c) :
    Ensures before (SectorForest.refuse error) after failed :=
  Ensures.throw h

theorem Ensures.bind {action : Serving Trial α} {next : α → Serving Trial β}
    {last : β → Connection → Prop} (h : Ensures before action after failed)
    (hnext : ∀ a, Ensures (after a) (next a) last failed) :
    Ensures before (action >>= next) last failed := by
  constructor
  intro s n hs
  have hfirst := h.ends s n hs
  rw [attempt_bind]
  cases hrun : s.attempt n action with
  | mk p s' =>
    obtain ⟨failure | a, n'⟩ := p
    · rw [hrun] at hfirst
      exact hfirst
    · rw [hrun] at hfirst
      exact (hnext a).ends s' n' hfirst

/-- A failure that is taken as a value is one no more. -/
theorem Ensures.ending {action : Serving Trial α} (h : Ensures before action after failed)
    (never : Connection → Prop) :
    Ensures before (SectorForest.ending action) (Ends after failed) never := by
  constructor
  intro s n hs
  rw [attempt_ending]
  exact h.ends s n hs

/-- Events and codes leave the connection alone. -/
theorem Ensures.emit {event : Event} :
    Ensures before (liftM ((failing faults).emit event)) (fun _ => before) failed :=
  ⟨fun _ _ hs => hs⟩

theorem Ensures.newCode :
    Ensures before (liftM (failing faults).newCode) (fun _ => before) failed :=
  ⟨fun _ _ hs => hs⟩

theorem Ensures.reported {operation : String} {action : Serving Trial α}
    (h : Ensures before action after failed) :
    Ensures before ((failing faults).reported operation action) after failed := by
  unfold Backend.reported
  apply (h.ending failed).bind
  rintro ((error | _) | a)
  · apply Ensures.emit.bind
    intro _
    exact .refuse fun _ hc => hc
  · exact .throw fun _ hc => hc
  · apply Ensures.emit.bind
    intro _
    exact .pure fun _ hc => hc

theorem Ensures.normalized {field : TextField} {text : String} (h : ∀ c, before c → failed c) :
    Ensures before (Backend.normalized field text) (fun _ => before) failed := by
  unfold Backend.normalized
  cases normalize field text with
  | ok chosen => exact .pure fun _ hc => hc
  | error error => exact .refuse h

theorem Ensures.found {entity : Entity} {key : String} {value : Option α}
    (h : ∀ c, before c → failed c) :
    Ensures before (Backend.found entity key value) (fun _ => before) failed := by
  cases value with
  | some a => exact .pure fun _ hc => hc
  | none => exact .refuse h

/-- A refusal that ends an operation early. -/
theorem Ensures.unless {taken : Prop} [Decidable taken] {error : ServiceError}
    {next : Unit → Serving Trial α} (h : ∀ c, before c → failed c)
    (hnext : Ensures before (next ()) after failed) :
    Ensures before
      (if taken then (do let done ← SectorForest.refuse error; next done) else next ())
      after failed := by
  split
  · exact .throw h
  · exact hnext

/-! ## Steps -/

/-- What holds after a step that fails in its place or acts through the connection. -/
theorem ends_failingStep {ε : Type} {fault? : Nat → Option ε}
    {action : Connection → Except ε α × Connection} (hskip : ∀ c, before c → failed c)
    (haction : ∀ c, before c → Ends after failed (action c).1 (action c).2)
    (hs : before s.connection) {step : StateM Session (Except ε α)}
    (hstep : step = modifyGetThe Session (act action)) :
    Ends after failed (StateT.run (StateT.run (failingStep fault? step) n) s).1.1
      (StateT.run (StateT.run (failingStep fault? step) n) s).2.connection := by
  subst hstep
  rw [run_failingStep]
  cases fault? n with
  | some error => exact hskip _ hs
  | none => exact haction _ hs

theorem Ensures.answered {answer : Trial (Except StoreError α)}
    {onError : StoreError → ServiceError}
    (h : ∀ (s : Session) n, before s.connection → Ends after failed
      (StateT.run (StateT.run answer n) s).1.1 (StateT.run (StateT.run answer n) s).2.connection) :
    Ensures before (Backend.answered answer onError) after failed := by
  have hanswer : Ensures before (liftM answer) (Ends after failed) failed := ⟨h⟩
  unfold Backend.answered
  apply hanswer.bind
  rintro (error | a)
  · exact .refuse fun _ hc => hc
  · exact .pure fun _ hc => hc

theorem Ensures.askOrganizations {request : OrganizationRequest α}
    {onError : StoreError → ServiceError} (hskip : ∀ c, before c → failed c)
    (hanswer : ∀ c, before c → Ends after failed (request.answer c).1 (request.answer c).2) :
    Ensures before ((failing faults).askOrganizations request onError) after failed :=
  .answered fun _ _ hs => ends_failingStep hskip hanswer hs rfl

theorem Ensures.askSectors {request : SectorRequest α} {onError : StoreError → ServiceError}
    (hskip : ∀ c, before c → failed c)
    (hanswer : ∀ c, before c → Ends after failed (request.answer c).1 (request.answer c).2) :
    Ensures before ((failing faults).askSectors request onError) after failed :=
  .answered fun _ _ hs => ends_failingStep hskip hanswer hs rfl

/-- A step of a transaction that may fail in its place. -/
theorem Ensures.transact {step : TransactionStep} {after : Unit → Connection → Prop}
    {never : Connection → Prop} (hstep : step ≠ .abandon) (hskip : ∀ c, before c → failed c)
    (haction : ∀ c, before c →
      Ends after failed (Connection.transact step c).1 (Connection.transact step c).2) :
    Ensures before (liftM ((failing faults).transact step)) (Ends after failed) never := by
  constructor
  intro s n hs
  cases step with
  | abandon => exact absurd rfl hstep
  | start => exact ends_failingStep hskip haction hs rfl
  | commit => exact ends_failingStep hskip haction hs rfl
  | rollback => exact ends_failingStep hskip haction hs rfl

theorem Ensures.abandon {never : Connection → Prop} (h : ∀ c, before c → failed c.undone) :
    Ensures before (liftM ((failing faults).transact .abandon)) (fun _ => failed) never :=
  ⟨fun _ _ hs => h _ hs⟩

end Rules

/-! ## Transactions -/

section Transactions

variable {c : Connection} {operation : String} {body : Serving Trial α}

/-- A transaction is open that was opened on the connection `c`. -/
def OpenOn (c : Connection) (c' : Connection) : Prop :=
  ∃ db, c' = { c with database := db, saved := some c.database }

theorem OpenOn.undone_eq {c' : Connection} (h : OpenOn c c') (hidle : c.saved = none) :
    c'.undone = c := by
  obtain ⟨db, rfl⟩ := h
  exact Connection.undone_saved hidle db

theorem OpenOn.inTransaction {c' : Connection} (h : OpenOn c c') : c'.inTransaction = true := by
  obtain ⟨db, rfl⟩ := h
  rfl

theorem ends_start (hidle : c.saved = none) :
    Ends (fun _ => OpenOn c) (fun c' => c' = c) (Connection.transact .start c).1
      (Connection.transact .start c).2 := by
  have hclosed : c.inTransaction = false := by
    rw [Connection.inTransaction, hidle]
    rfl
  simp only [Connection.transact, Connection.beginImmediate, hclosed, Bool.false_eq_true, if_false]
  split
  · rfl
  · exact ⟨c.database, rfl⟩

theorem ends_commit {c' : Connection} (hopen : OpenOn c c') (P : Connection → Prop) :
    Ends (fun _ _ => True) P (Connection.transact .commit c').1
      (Connection.transact .commit c').2 := by
  simp only [Connection.transact, Connection.commit, hopen.inTransaction]
  trivial

/-- Rolling back undoes what is there to be undone. -/
theorem ends_rollback {c' : Connection} (h : c'.undone = c) :
    Ends (fun _ c'' => c'' = c) (fun c'' => c''.undone = c) (Connection.transact .rollback c').1
      (Connection.transact .rollback c').2 := by
  simp only [Connection.transact, Connection.rollback]
  split
  · exact h
  · exact h

/-- A body whose failures can be undone leaves no trace of them, even if the transaction cannot be
closed. -/
theorem Ensures.transaction (hidle : c.saved = none)
    (hbody : Ensures (OpenOn c) body (fun _ => OpenOn c) (fun c' => c'.undone = c)) :
    Ensures (fun c' => c' = c) ((failing faults).transaction operation body) (fun _ _ => True)
      (fun c' => c' = c) := by
  have hstart : Ensures (fun c' => c' = c) (liftM ((failing faults).transact .start))
      (Ends (fun _ => OpenOn c) (fun c' => c' = c)) (fun c' => c' = c) := by
    apply Ensures.transact (by decide) fun _ h => h
    rintro _ rfl
    exact ends_start hidle
  have hcommit : Ensures (OpenOn c) (liftM ((failing faults).transact .commit))
      (Ends (fun _ _ => True) (fun c' => c'.undone = c)) (fun c' => c' = c) := by
    apply Ensures.transact (by decide) fun _ hopen => hopen.undone_eq hidle
    exact fun _ hopen => ends_commit hopen _
  have hrollback : Ensures (fun c' => c'.undone = c) (liftM ((failing faults).transact .rollback))
      (Ends (fun _ c' => c' = c) (fun c' => c'.undone = c)) (fun c' => c' = c) :=
    Ensures.transact (by decide) (fun _ h => h) fun _ h => ends_rollback h
  have habandon : Ensures (fun c' => c'.undone = c) (liftM ((failing faults).transact .abandon))
      (fun _ c' => c' = c) (fun c' => c' = c) :=
    Ensures.abandon fun _ h => h
  -- what is left to do when the work has been undone
  have hrefuse {cause : ServiceError} : Ensures (fun c' => c' = c)
      (do
        liftM ((failing faults).emit (.rolledBack operation cause))
        SectorForest.refuse cause : Serving Trial α) (fun _ _ => True) (fun c' => c' = c) := by
    apply Ensures.emit.bind
    exact fun _ => .refuse fun _ h => h
  unfold Backend.transaction
  apply hstart.bind
  rintro (fault | ⟨⟩)
  · exact .refuse fun _ h => h
  apply (hbody.ending fun c' => c' = c).bind
  rintro ((cause | _) | a)
  · apply hrollback.bind
    rintro (fault | ⟨⟩)
    · apply habandon.bind
      intro _
      apply Ensures.emit.bind
      exact fun _ => hrefuse
    · exact hrefuse
  · apply habandon.bind
    exact fun _ => .throw fun _ h => h
  · apply hcommit.bind
    rintro (fault | ⟨⟩)
    · apply habandon.bind
      exact fun _ => .refuse fun _ h => h
    · apply Ensures.emit.bind
      exact fun _ => .pure fun _ _ => trivial

end Transactions

/-! ## What stores do to a connection -/

/-- A store answers with another database at most; an error undoes the open transaction at most. -/
def Contained (action : StoreAction α) : Prop :=
  ∀ c, Ends (fun _ c' => ∃ db, c' = { c with database := db }) (fun c' => c' = c ∨ c' = c.undone)
    (action c).1 (action c).2

theorem contained_look (query : Connection → Except StoreError α) :
    Contained (StoreAction.look query) := by
  intro c
  simp only [StoreAction.look]
  cases query c with
  | ok a => exact ⟨c.database, rfl⟩
  | error error => exact .inl rfl

theorem contained_execute (statement : Statement) (part : Outcome → α) :
    Contained (StoreAction.execute statement part) := by
  intro c
  simp only [StoreAction.execute, Connection.execute]
  cases statement.prepare c.database with
  | error fault => exact .inl rfl
  | ok _ =>
    by_cases hidle : statement.isIdle c.database = true
    · simp only [hidle, if_true]
      exact ⟨c.database, rfl⟩
    · simp only [hidle]
      cases c.writeFault? (statement.part c.database) with
      | some fault => exact .inl rfl
      | none =>
        cases statement.run c.database with
        | ok p => exact ⟨p.2, rfl⟩
        | error fault =>
          -- running out of numbers is the one fault that ends a transaction
          cases fault with
          | full => exact .inr rfl
          | _ => exact .inl rfl

theorem contained_organizations (request : OrganizationRequest α) : Contained request.answer := by
  cases request
  all_goals first
    | exact contained_look _
    | exact contained_execute _ _

theorem contained_sectors (request : SectorRequest α) : Contained request.answer := by
  cases request
  all_goals first
    | exact contained_look _
    | exact contained_execute _ _

variable {c : Connection}

/-- Outside a transaction a store that fails leaves the connection as it was. -/
theorem Contained.outside {action : StoreAction α} (h : Contained action) (hidle : c.saved = none) :
    Ends (fun _ _ => True) (fun c' => c' = c) (action c).1 (action c).2 := by
  have hends := h c
  rw [Connection.undone_idle hidle] at hends
  cases hresult : (action c).1 with
  | ok a => trivial
  | error error =>
    rw [hresult] at hends
    exact hends.elim id id

/-- Inside a transaction a store that fails leaves what can be undone. -/
theorem Contained.inside {action : StoreAction α} (h : Contained action) (hidle : c.saved = none)
    {c' : Connection} (hopen : OpenOn c c') :
    Ends (fun _ => OpenOn c) (fun c'' => c''.undone = c) (action c').1 (action c').2 := by
  have hends := h c'
  have hundone := hopen.undone_eq hidle
  obtain ⟨before, rfl⟩ := hopen
  cases hresult : (action { c with database := before, saved := some c.database }).1 with
  | ok a =>
    rw [hresult] at hends
    obtain ⟨db, heq⟩ := hends
    exact ⟨db, heq⟩
  | error error =>
    rw [hresult] at hends
    show Connection.undone _ = c
    rcases hends with heq | heq
    · rw [heq, hundone]
    · rw [heq, hundone, Connection.undone_idle hidle]

/-- Looking leaves the connection alone. -/
theorem ends_look (query : Connection → Except StoreError α) :
    Ends (fun _ c' => c' = c) (fun c' => c' = c) (StoreAction.look query c).1
      (StoreAction.look query c).2 := by
  simp only [StoreAction.look]
  cases query c with
  | ok a => rfl
  | error error => rfl

/-! ## The operations -/

section Operations

variable {tenant : TenantId} {code label : String}

/-! Looking for a record outside a transaction changes nothing. -/

theorem ensures_askOrganizations {request : OrganizationRequest α}
    {onError : StoreError → ServiceError}
    (hlook : ∃ query, request.answer = StoreAction.look query) :
    Ensures (fun c' => c' = c) ((failing faults).askOrganizations request onError)
      (fun _ c' => c' = c) (fun c' => c' = c) := by
  obtain ⟨query, hquery⟩ := hlook
  apply Ensures.askOrganizations fun _ h => h
  rintro _ rfl
  rw [hquery]
  exact ends_look query

theorem ensures_askSectors {request : SectorRequest α} {onError : StoreError → ServiceError}
    (hlook : ∃ query, request.answer = StoreAction.look query) :
    Ensures (fun c' => c' = c) ((failing faults).askSectors request onError)
      (fun _ c' => c' = c) (fun c' => c' = c) := by
  obtain ⟨query, hquery⟩ := hlook
  apply Ensures.askSectors fun _ h => h
  rintro _ rfl
  rw [hquery]
  exact ends_look query

theorem ensures_findOrganization :
    Ensures (fun c' => c' = c) ((failing faults).findOrganization tenant code)
      (fun _ c' => c' = c) (fun c' => c' = c) := by
  unfold Backend.findOrganization
  apply (ensures_askOrganizations ⟨_, rfl⟩).bind
  exact fun _ => .found fun _ h => h

theorem ensures_findSector {id : SectorId} :
    Ensures (fun c' => c' = c) ((failing faults).findSector tenant id)
      (fun _ c' => c' = c) (fun c' => c' = c) := by
  unfold Backend.findSector
  apply (ensures_askSectors ⟨_, rfl⟩).bind
  exact fun _ => .found fun _ h => h

theorem ensures_findParent {org : OrganizationId} {parentCode : Option String} :
    Ensures (fun c' => c' = c) ((failing faults).findParent tenant org parentCode)
      (fun _ c' => c' = c) (fun c' => c' = c) := by
  unfold Backend.findParent Backend.findRoot
  split
  · apply (ensures_askSectors ⟨_, rfl⟩).bind
    exact fun _ => .found fun _ h => h
  · apply (ensures_askSectors ⟨_, rfl⟩).bind
    exact fun _ => .found fun _ h => h

/-- What an operation ensures that leaves no trace where it fails. -/
abbrev Traceless (c : Connection) (action : Serving Trial α) : Prop :=
  Ensures (fun c' => c' = c) action (fun _ _ => True) fun c' => c' = c

variable (hidle : c.saved = none)
include hidle

/-- A last request leaves no trace where it fails. -/
theorem traceless_askSectors (request : SectorRequest α) (onError : StoreError → ServiceError) :
    Traceless c ((failing faults).askSectors request onError) := by
  apply Ensures.askSectors fun _ h => h
  rintro _ rfl
  exact (contained_sectors request).outside hidle

theorem traceless_deleteSector {id : SectorId} :
    Traceless c ((failing faults).deleteSector tenant id) := by
  unfold Backend.deleteSector
  apply Ensures.reported
  apply ensures_findSector.bind
  exact fun _ => traceless_askSectors hidle _ _

theorem traceless_createSector {org : OrganizationId} {parentCode : Option String} :
    Traceless c ((failing faults).createSector tenant org label parentCode) := by
  unfold Backend.createSector Backend.addSector
  apply Ensures.reported
  apply (Ensures.normalized fun _ h => h).bind
  intro label
  apply (ensures_askSectors ⟨_, rfl⟩).bind
  intro owner
  apply Ensures.unless fun _ h => h
  apply ensures_findParent.bind
  intro parent
  apply Ensures.newCode.bind
  intro code
  split
  · exact .throw fun _ h => h
  · exact traceless_askSectors hidle _ _

/-- Outside a transaction, a change of records is made or leaves no trace. -/
theorem ends_change (change : Except Fault (α × Records)) :
    Ends (fun a c' => ∃ r, change = .ok (a, r) ∧ c' = { c with database := r.database })
      (fun c' => c' = c) (c.change change).1 (c.change change).2 := by
  have hundone := Connection.undone_idle hidle
  unfold Connection.change
  cases c.writeFault? .main with
  | some fault => rfl
  | none =>
    cases change with
    | ok p => exact ⟨p.2, rfl, rfl⟩
    | error fault =>
      cases fault with
      | full => exact hundone
      | _ => rfl

/-- A label that is given to no record leaves no trace. -/
theorem ends_relabel {change : Except Fault (Nat × Records)}
    (hnone : ∀ r, change = .ok (0, r) → r.database = c.database) :
    Ends (fun count c' => count = 0 → c' = c) (fun c' => c' = c) (c.change change).1
      (c.change change).2 := by
  have hends := ends_change hidle change
  cases hresult : (c.change change).1 with
  | error error =>
    rw [hresult] at hends
    exact hends
  | ok count =>
    rw [hresult] at hends
    obtain ⟨r, hchange, hafter⟩ := hends
    rintro rfl
    rw [hafter, hnone r hchange]

omit hidle in
/-- The end of a call that gives another label: the error that there is nothing to give it to comes
only where nothing was changed. -/
theorem traceless_counted {action : Serving Trial Nat} {error : ServiceError}
    (h : Ensures (fun c' => c' = c) action (fun count c' => count = 0 → c' = c)
      fun c' => c' = c) :
    Traceless c (do
      let changed ← action
      if changed = 0 then SectorForest.refuse error else pure ()) := by
  apply h.bind
  intro changed
  by_cases hzero : changed = 0
  · rw [if_pos hzero]
    exact .refuse fun _ hkept => hkept hzero
  · rw [if_neg hzero]
    exact .pure fun _ _ => trivial

section Renaming

variable {r : Records} (hdatabase : c.database = r.database) (hr : r.Sound)
include hdatabase hr

theorem traceless_renameSector {id : SectorId} :
    Traceless c ((failing faults).renameSector tenant id label) := by
  unfold Backend.renameSector
  apply Ensures.reported
  apply (Ensures.normalized fun _ h => h).bind
  intro label
  apply ensures_findSector.bind
  intro sector
  have hrest : Traceless c (do
      let changed ← (failing faults).askSectors (.rename tenant id label)
        (writeError .sector sector.code label)
      if changed = 0 then SectorForest.refuse (.notFound .sector (toString id.toInt))
      else pure ()) := by
    apply traceless_counted
    apply Ensures.askSectors fun _ h => h
    rintro _ rfl
    rw [SectorRequest.answer_rename hdatabase hr]
    exact ends_relabel hidle fun r' h => by rw [Records.renameSector_zero h, hdatabase]
  apply (ensures_askSectors ⟨_, rfl⟩).bind
  intro owner
  cases owner with
  | none => exact hrest
  | some owner => exact Ensures.unless (fun _ h => h) hrest

theorem traceless_renameOrganization :
    Traceless c ((failing faults).renameOrganization tenant code label) := by
  unfold Backend.renameOrganization
  apply Ensures.reported
  apply (Ensures.normalized fun _ h => h).bind
  intro label
  apply ensures_findOrganization.bind
  intro organization
  by_cases hsame : organization.label = label
  · rw [if_pos hsame]
    exact .pure fun _ _ => trivial
  · rw [if_neg hsame]
    apply (ensures_askOrganizations ⟨_, rfl⟩).bind
    intro taken
    apply Ensures.unless fun _ h => h
    apply traceless_counted
    apply Ensures.askOrganizations fun _ h => h
    rintro _ rfl
    rw [OrganizationRequest.answer_rename hdatabase hr]
    exact ends_relabel hidle fun r' h => by rw [Records.renameOrganization_zero h, hdatabase]

end Renaming

/-! Inside a transaction, whatever is asked for can be undone. -/

theorem undoable_askOrganizations (request : OrganizationRequest α)
    (onError : StoreError → ServiceError) :
    Ensures (OpenOn c) ((failing faults).askOrganizations request onError) (fun _ => OpenOn c)
      fun c' => c'.undone = c := by
  apply Ensures.askOrganizations fun _ hopen => hopen.undone_eq hidle
  exact fun _ hopen => (contained_organizations request).inside hidle hopen

theorem undoable_askSectors (request : SectorRequest α) (onError : StoreError → ServiceError) :
    Ensures (OpenOn c) ((failing faults).askSectors request onError) (fun _ => OpenOn c)
      fun c' => c'.undone = c := by
  apply Ensures.askSectors fun _ hopen => hopen.undone_eq hidle
  exact fun _ hopen => (contained_sectors request).inside hidle hopen

theorem traceless_createOrganization {draft : OrganizationDraft} :
    Traceless c ((failing faults).createOrganization tenant draft) := by
  unfold Backend.createOrganization
  apply Ensures.reported
  apply (Ensures.normalized fun _ h => h).bind
  intro code
  apply (Ensures.normalized fun _ h => h).bind
  intro label
  apply Ensures.transaction hidle
  apply (undoable_askOrganizations hidle _ _).bind
  intro codeTaken
  apply Ensures.unless fun _ hopen => hopen.undone_eq hidle
  apply (undoable_askOrganizations hidle _ _).bind
  intro labelTaken
  apply Ensures.unless fun _ hopen => hopen.undone_eq hidle
  apply (undoable_askOrganizations hidle _ _).bind
  intro org
  apply (undoable_askSectors hidle _ _).bind
  exact fun _ => .pure fun _ hopen => hopen

theorem traceless_deleteOrganization :
    Traceless c ((failing faults).deleteOrganization tenant code) := by
  unfold Backend.deleteOrganization
  apply Ensures.reported
  apply ensures_findOrganization.bind
  intro organization
  apply Ensures.transaction hidle
  apply (undoable_askSectors hidle _ _).bind
  intro _
  apply (undoable_askOrganizations hidle _ _).bind
  exact fun _ => .pure fun _ hopen => hopen

end Operations

/-! ## Calls -/

/-- What a call ends in while steps fail, and the session afterwards. -/
def callFailing (s : Session) (faults : Faults) (mutation : Mutation) :
    Except Failure mutation.Answer × Session :=
  let ((ending, _), after) := s.attempt 0 (mutation.perform (failing faults))
  (ending, after)

/-- In a reachable session, whichever steps of a call fail, a call that fails leaves everything that
is stored as it was before, with the greatest numbers given out, and no transaction open. The one
call left out reads the sector that it has created, and what it fails with then comes too late. -/
theorem Reachable.failure_traceless {s s' : Session} (h : s.Reachable) (faults : Faults)
    {mutation : Mutation}
    (hlast : ∀ tenant code draft, mutation ≠ .createSectorIn tenant code draft)
    {failure : Failure} (hcall : s.callFailing faults mutation = (.error failure, s')) :
    s'.connection.database = s.connection.database ∧ s'.records = s.records ∧
      s'.connection.saved = none := by
  have hholds := h.holds
  have htraceless : Traceless s.connection (mutation.perform (failing faults)) := by
    cases mutation with
    | createOrganization tenant draft => exact traceless_createOrganization hholds.idle
    | createSector tenant org label parentCode => exact traceless_createSector hholds.idle
    | createSectorIn tenant code draft => exact absurd rfl (hlast tenant code draft)
    | renameSector tenant id label =>
      exact traceless_renameSector hholds.idle hholds.database hholds.sound
    | deleteSector tenant id => exact traceless_deleteSector hholds.idle
    | renameOrganization tenant code label =>
      exact traceless_renameOrganization hholds.idle hholds.database hholds.sound
    | deleteOrganization tenant code => exact traceless_deleteOrganization hholds.idle
  have hends := htraceless.ends s 0 rfl
  simp only [callFailing, Prod.mk.injEq] at hcall
  rw [hcall.1, hcall.2] at hends
  have hsame : s'.connection = s.connection := hends
  rw [records, records, hsame]
  exact ⟨rfl, rfl, hholds.idle⟩

open Records in
/-- Deleting an organization fails at the very end, where its transaction is to be closed. -/
theorem failure_traceless_founded : (founded.session "").Reachable ∧
    ((founded.session "").callFailing (.only 4 .full) (.deleteOrganization 1 "acme")).1 =
      .error (.refused (.ofFault .full)) ∧
    ((founded.session "").callFailing (.only 4 .full) (.deleteOrganization 1 "acme")).2.records =
      founded := by
  have hreachable := reached_founded.reachable ""
  have hfails : ((founded.session "").callFailing (.only 4 .full)
      (.deleteOrganization 1 "acme")).1 = .error (.refused (.ofFault .full)) := by
    decide +kernel
  obtain ⟨-, hrecords, -⟩ := hreachable.failure_traceless (.only 4 .full)
    (by rintro _ _ _ ⟨⟩) (Prod.ext hfails rfl)
  rw [reached_founded.sound.records_session] at hrecords
  exact ⟨hreachable, hfails, hrecords⟩

end Session
end SectorForest
