import SectorForest.Proofs.Mutation

/-!
# All that the service does goes through its backend

The operations of the service are put together from a few parts: ending in an answer or a failure,
going on with an answer, asking for records, taking a code, reporting, and transactions.
`Backend.Congruent` says of a relation between what is served over two backends that all these parts
keep it, and `Backend.Congruent.perform` that calls then keep it, too. So two ways of running the
service are compared once for every part and never for a call.

Where the relation does not tell the errors of requests apart, `Backend.Elementary` is all there is
to show: it speaks of single steps, and reporting and transactions are put together from these.
Where opening and closing a transaction do not keep the relation each on its own, `Backend.Stepwise`
speaks of the other steps, and transactions are compared as a whole.

A `Query` names one of the operations that only read, as a `Mutation` does for the others; an
`Operation` is either.
-/

namespace SectorForest

/-- A call of the service that reads records. -/
inductive Query where
  | findOrganization (tenant : TenantId) (code : String)
  | listOrganizations (tenant : TenantId)
  | findSector (tenant : TenantId) (id : SectorId)
  | findSectorByCode (tenant : TenantId) (code : String)
  | findRoot (tenant : TenantId) (org : OrganizationId)
  | listSectors (tenant : TenantId) (org : OrganizationId)
  | sectorTree (tenant : TenantId) (code : String)
  deriving DecidableEq, Repr

namespace Query

/-- What the caller gets if the call succeeds. -/
abbrev Answer : Query → Type
  | .findOrganization .. => Organization
  | .listOrganizations .. => List Organization
  | .findSector .. => Sector
  | .findSectorByCode .. => Sector
  | .findRoot .. => Sector
  | .listSectors .. => List Sector
  | .sectorTree .. => SectorTree

/-- Do what is called for. -/
def perform {m : Type → Type} [Monad m] (b : Backend m) : (query : Query) → Serving m query.Answer
  | .findOrganization tenant code => b.findOrganization tenant code
  | .listOrganizations tenant => b.listOrganizations tenant
  | .findSector tenant id => b.findSector tenant id
  | .findSectorByCode tenant code => b.findSectorByCode tenant code
  | .findRoot tenant org => b.findRoot tenant org
  | .listSectors tenant org => b.listSectors tenant org
  | .sectorTree tenant code => b.sectorTree tenant code

end Query

/-- A call of the service. -/
inductive Operation where
  | change (mutation : Mutation)
  | ask (query : Query)
  deriving DecidableEq, Repr

namespace Operation

/-- What the caller gets if the call succeeds. -/
abbrev Answer : Operation → Type
  | change mutation => mutation.Answer
  | ask query => query.Answer

/-- Do what is called for. -/
def perform {m : Type → Type} [Monad m] (b : Backend m) :
    (operation : Operation) → Serving m operation.Answer
  | .change mutation => mutation.perform b
  | .ask query => query.perform b

end Operation

/-- An error of a store is passed on as it is, unless it is a violation of uniqueness. -/
def Faithfully (onError : StoreError → ServiceError) : Prop :=
  ∀ error, error.uniqueDetail? = none → onError error = .persistence error

theorem faithfully_persistence : Faithfully .persistence :=
  fun _ _ => rfl

theorem faithfully_writeError (entity : Entity) (code label : String) :
    Faithfully (writeError entity code label) := by
  intro error hunique
  rw [writeError, hunique]

namespace Backend

variable {m n : Type → Type} [Monad m] [Monad n]

/-- Whatever the service is put together from keeps the relation `R` between what is served over
one backend and over the other. -/
structure Congruent (R : {α : Type} → Serving m α → Serving n α → Prop) (b : Backend m)
    (b' : Backend n) : Prop where
  pure {α : Type} (a : α) : R (pure a) (pure a)
  throw {α : Type} (failure : Failure) : R (throw failure : Serving m α) (throw failure)
  bind {α β : Type} {action : Serving m α} {action' : Serving n α} {next : α → Serving m β}
    {next' : α → Serving n β} (h : R action action') (hnext : ∀ a, R (next a) (next' a)) :
    R (action >>= next) (action' >>= next')
  askOrganizations {α : Type} (request : OrganizationRequest α)
    {onError : StoreError → ServiceError} (h : Faithfully onError) :
    R (b.askOrganizations request onError) (b'.askOrganizations request onError)
  askSectors {α : Type} (request : SectorRequest α) {onError : StoreError → ServiceError}
    (h : Faithfully onError) : R (b.askSectors request onError) (b'.askSectors request onError)
  newCode : R (liftM b.newCode) (liftM b'.newCode)
  reported {α : Type} (operation : String) {action : Serving m α} {action' : Serving n α}
    (h : R action action') : R (b.reported operation action) (b'.reported operation action')
  transaction {α : Type} (operation : String) {body : Serving m α} {body' : Serving n α}
    (h : R body body') : R (b.transaction operation body) (b'.transaction operation body')

/-- The relation `R` holds between the single steps over one backend and over the other that leave
transactions alone, and going on after a step and taking an ending as a value keep it. -/
structure Stepwise (R : {α : Type} → Serving m α → Serving n α → Prop) (b : Backend m)
    (b' : Backend n) : Prop where
  pure {α : Type} (a : α) : R (pure a) (pure a)
  throw {α : Type} (failure : Failure) : R (throw failure : Serving m α) (throw failure)
  bind {α β : Type} {action : Serving m α} {action' : Serving n α} {next : α → Serving m β}
    {next' : α → Serving n β} (h : R action action') (hnext : ∀ a, R (next a) (next' a)) :
    R (action >>= next) (action' >>= next')
  ending {α : Type} {action : Serving m α} {action' : Serving n α} (h : R action action') :
    R (SectorForest.ending action) (SectorForest.ending action')
  organizations {α : Type} (request : OrganizationRequest α) :
    R (liftM (b.organizations request)) (liftM (b'.organizations request))
  sectors {α : Type} (request : SectorRequest α) :
    R (liftM (b.sectors request)) (liftM (b'.sectors request))
  newCode : R (liftM b.newCode) (liftM b'.newCode)
  emit (event : Event) : R (liftM (b.emit event)) (liftM (b'.emit event))

/-- The same of all single steps. -/
structure Elementary (R : {α : Type} → Serving m α → Serving n α → Prop) (b : Backend m)
    (b' : Backend n) : Prop extends Stepwise R b b' where
  transact (step : TransactionStep) : R (liftM (b.transact step)) (liftM (b'.transact step))

/-- Transactions whose bodies are related are related. -/
def Transacts (R : {α : Type} → Serving m α → Serving n α → Prop) (b : Backend m)
    (b' : Backend n) : Prop :=
  ∀ {α : Type} (operation : String) {body : Serving m α} {body' : Serving n α}, R body body' →
    R (b.transaction operation body) (b'.transaction operation body')

namespace Stepwise

variable {R : {α : Type} → Serving m α → Serving n α → Prop} {b : Backend m} {b' : Backend n}
  {α : Type} (h : Stepwise R b b')
include h

theorem answered {answer : m (Except StoreError α)} {answer' : n (Except StoreError α)}
    (hanswer : R (liftM answer) (liftM answer')) (onError : StoreError → ServiceError) :
    R (Backend.answered answer onError) (Backend.answered answer' onError) := by
  unfold Backend.answered
  apply h.bind hanswer
  rintro (error | a)
  · exact h.throw _
  · exact h.pure a

theorem reported (operation : String) {action : Serving m α} {action' : Serving n α}
    (haction : R action action') :
    R (b.reported operation action) (b'.reported operation action') := by
  unfold Backend.reported
  apply h.bind (h.ending haction)
  rintro ((error | _) | a)
  · exact h.bind (h.emit _) fun _ => h.throw _
  · exact h.throw _
  · exact h.bind (h.emit _) fun _ => h.pure a

/-- All that the service does is put together from single steps and transactions. -/
theorem congruent (htransaction : Transacts R b b') : Congruent R b b' where
  pure := h.pure
  throw := h.throw
  bind := h.bind
  askOrganizations request onError _ := h.answered (h.organizations request) onError
  askSectors request onError _ := h.answered (h.sectors request) onError
  newCode := h.newCode
  reported operation _ _ := h.reported operation
  transaction operation _ _ := htransaction operation

end Stepwise

namespace Elementary

variable {R : {α : Type} → Serving m α → Serving n α → Prop} {b : Backend m} {b' : Backend n}
  (h : Elementary R b b')
include h

theorem transaction : Transacts R b b' := by
  intro α operation body body' hbody
  have hundone (error : ServiceError) :
      R (do b.emit (.rolledBack operation error); (refuse error : Serving m α))
        (do b'.emit (.rolledBack operation error); refuse error) :=
    h.bind (h.emit _) fun _ => h.throw _
  unfold Backend.transaction
  apply h.bind (h.transact .start)
  rintro (fault | ⟨⟩)
  · exact h.throw _
  apply h.bind (h.ending hbody)
  rintro ((error | _) | a)
  · apply h.bind (h.transact .rollback)
    rintro (fault | ⟨⟩)
    · apply h.bind (h.transact .abandon)
      intro _
      exact h.bind (h.emit _) fun _ => hundone error
    · exact hundone error
  · exact h.bind (h.transact .abandon) fun _ => h.throw _
  · apply h.bind (h.transact .commit)
    rintro (fault | ⟨⟩)
    · exact h.bind (h.transact .abandon) fun _ => h.throw _
    · exact h.bind (h.emit _) fun _ => h.pure a

/-- All that the service does is put together from single steps. -/
theorem congruent : Congruent R b b' :=
  h.toStepwise.congruent h.transaction

end Elementary

namespace Congruent

variable {R : {α : Type} → Serving m α → Serving n α → Prop} {b : Backend m} {b' : Backend n}
  {α β : Type}

section

variable (h : Congruent R b b')
include h

theorem refuse (error : ServiceError) :
    R (SectorForest.refuse error : Serving m α) (SectorForest.refuse error) :=
  h.throw _

theorem found (entity : Entity) (key : String) (value : Option α) :
    R (Backend.found (m := m) entity key value) (Backend.found entity key value) := by
  cases value with
  | some a => exact h.pure a
  | none => exact h.refuse _

theorem normalized (field : TextField) (text : String) :
    R (Backend.normalized (m := m) field text) (Backend.normalized field text) := by
  unfold Backend.normalized
  cases normalize field text with
  | ok chosen => exact h.pure chosen
  | error error => exact h.refuse error

/-- A refusal that ends an operation early. -/
theorem unlessTaken {taken : Prop} [Decidable taken] {error : ServiceError}
    {next : Unit → Serving m α} {next' : Unit → Serving n α} (hnext : R (next ()) (next' ())) :
    R (if taken then (do let done ← SectorForest.refuse error; next done) else next ())
      (if taken then (do let done ← SectorForest.refuse error; next' done) else next' ()) := by
  split
  · exact h.bind (h.refuse error) fun _ => hnext
  · exact hnext

/-- Requests whose errors are passed on as they are. -/
theorem ask (request : SectorRequest α) :
    R (b.askSectors request) (b'.askSectors request) :=
  h.askSectors request faithfully_persistence

theorem findOrganization (tenant : TenantId) (code : String) :
    R (b.findOrganization tenant code) (b'.findOrganization tenant code) := by
  unfold Backend.findOrganization
  apply h.bind (h.askOrganizations _ faithfully_persistence)
  exact fun _ => h.found _ _ _

theorem findSector (tenant : TenantId) (id : SectorId) :
    R (b.findSector tenant id) (b'.findSector tenant id) := by
  unfold Backend.findSector
  apply h.bind (h.ask _)
  exact fun _ => h.found _ _ _

theorem findSectorByCode (tenant : TenantId) (code : String) :
    R (b.findSectorByCode tenant code) (b'.findSectorByCode tenant code) := by
  unfold Backend.findSectorByCode
  apply h.bind (h.ask _)
  exact fun _ => h.found _ _ _

theorem findRoot (tenant : TenantId) (org : OrganizationId) :
    R (b.findRoot tenant org) (b'.findRoot tenant org) := by
  unfold Backend.findRoot
  apply h.bind (h.ask _)
  exact fun _ => h.found _ _ _

theorem sectorTree (tenant : TenantId) (code : String) :
    R (b.sectorTree tenant code) (b'.sectorTree tenant code) := by
  unfold Backend.sectorTree
  apply h.bind (h.findOrganization tenant code)
  intro organization
  apply h.bind (h.ask _)
  intro sectors
  split
  · exact h.pure _
  · exact h.refuse _

/-- Queries keep the relation. -/
theorem inquire (query : Query) : R (query.perform b) (query.perform b') := by
  cases query with
  | findOrganization tenant code => exact h.findOrganization tenant code
  | listOrganizations tenant => exact h.askOrganizations _ faithfully_persistence
  | findSector tenant id => exact h.findSector tenant id
  | findSectorByCode tenant code => exact h.findSectorByCode tenant code
  | findRoot tenant org => exact h.findRoot tenant org
  | listSectors tenant org => exact h.ask _
  | sectorTree tenant code => exact h.sectorTree tenant code

theorem createOrganization (tenant : TenantId) (draft : OrganizationDraft) :
    R (b.createOrganization tenant draft) (b'.createOrganization tenant draft) := by
  apply h.reported
  apply h.bind (h.normalized _ _)
  intro code
  apply h.bind (h.normalized _ _)
  intro label
  apply h.transaction
  apply h.bind (h.askOrganizations _ faithfully_persistence)
  intro codeTaken
  apply h.unlessTaken
  apply h.bind (h.askOrganizations _ faithfully_persistence)
  intro labelTaken
  apply h.unlessTaken
  apply h.bind (h.askOrganizations _ (faithfully_writeError _ _ _))
  intro org
  apply h.bind (h.askSectors _ (faithfully_writeError _ _ _))
  exact fun _ => h.pure org

theorem renameOrganization (tenant : TenantId) (code label : String) :
    R (b.renameOrganization tenant code label) (b'.renameOrganization tenant code label) := by
  apply h.reported
  apply h.bind (h.normalized _ _)
  intro label
  apply h.bind (h.findOrganization tenant code)
  intro organization
  split
  · exact h.pure ()
  · apply h.bind (h.askOrganizations _ faithfully_persistence)
    intro taken
    apply h.unlessTaken
    apply h.bind (h.askOrganizations _ (faithfully_writeError _ _ _))
    intro changed
    split
    · exact h.refuse _
    · exact h.pure ()

theorem deleteOrganization (tenant : TenantId) (code : String) :
    R (b.deleteOrganization tenant code) (b'.deleteOrganization tenant code) := by
  apply h.reported
  apply h.bind (h.findOrganization tenant code)
  intro organization
  apply h.transaction
  apply h.bind (h.ask _)
  intro _
  apply h.bind (h.askOrganizations _ faithfully_persistence)
  exact fun _ => h.pure ()

theorem findParent (tenant : TenantId) (org : OrganizationId) (code : Option String) :
    R (b.findParent tenant org code) (b'.findParent tenant org code) := by
  unfold Backend.findParent
  split
  · apply h.bind (h.ask _)
    exact fun _ => h.found _ _ _
  · exact h.findRoot tenant org

theorem addSector (tenant : TenantId) (org : OrganizationId) (label : String)
    (parentCode : Option String) (status : Status) :
    R (b.addSector tenant org label parentCode status)
      (b'.addSector tenant org label parentCode status) := by
  unfold Backend.addSector
  apply h.bind (h.normalized _ _)
  intro label
  apply h.bind (h.ask _)
  intro owner
  apply h.unlessTaken
  apply h.bind (h.findParent tenant org parentCode)
  intro parent
  apply h.bind h.newCode
  intro code
  split
  · exact h.throw _
  · exact h.askSectors _ (faithfully_writeError _ _ _)

theorem createSectorIn (tenant : TenantId) (code : String) (draft : SectorDraft) :
    R (b.createSectorIn tenant code draft) (b'.createSectorIn tenant code draft) := by
  apply h.reported
  apply h.bind (h.findOrganization tenant code)
  intro organization
  apply h.bind (h.addSector tenant organization.id draft.label draft.parentCode draft.status)
  exact fun id => h.findSector tenant id

theorem renameSector (tenant : TenantId) (id : SectorId) (label : String) :
    R (b.renameSector tenant id label) (b'.renameSector tenant id label) := by
  apply h.reported
  apply h.bind (h.normalized _ _)
  intro label
  apply h.bind (h.findSector tenant id)
  intro sector
  have hrest : R
      (do
        let changed ← b.askSectors (.rename tenant id label)
          (writeError .sector sector.code label)
        if changed = 0 then SectorForest.refuse (.notFound .sector (toString id.toInt))
        else Pure.pure ())
      (do
        let changed ← b'.askSectors (.rename tenant id label)
          (writeError .sector sector.code label)
        if changed = 0 then SectorForest.refuse (.notFound .sector (toString id.toInt))
        else Pure.pure ()) := by
    apply h.bind (h.askSectors _ (faithfully_writeError _ _ _))
    intro changed
    split
    · exact h.refuse _
    · exact h.pure ()
  apply h.bind (h.ask _)
  intro owner
  cases owner with
  | none => exact hrest
  | some owner => exact h.unlessTaken hrest

theorem deleteSector (tenant : TenantId) (id : SectorId) :
    R (b.deleteSector tenant id) (b'.deleteSector tenant id) := by
  apply h.reported
  apply h.bind (h.findSector tenant id)
  exact fun _ => h.ask _

/-- Calls that change records keep the relation. -/
theorem perform (mutation : Mutation) : R (mutation.perform b) (mutation.perform b') := by
  cases mutation with
  | createOrganization tenant draft => exact h.createOrganization tenant draft
  | createSector tenant org label parentCode =>
    exact h.reported _ (h.addSector tenant org label parentCode .active)
  | createSectorIn tenant code draft => exact h.createSectorIn tenant code draft
  | renameSector tenant id label => exact h.renameSector tenant id label
  | deleteSector tenant id => exact h.deleteSector tenant id
  | renameOrganization tenant code label => exact h.renameOrganization tenant code label
  | deleteOrganization tenant code => exact h.deleteOrganization tenant code

/-- Calls of both kinds keep the relation. -/
theorem operate (operation : Operation) : R (operation.perform b) (operation.perform b') := by
  cases operation with
  | change mutation => exact h.perform mutation
  | ask query => exact h.inquire query

end
end Congruent
end Backend
end SectorForest
