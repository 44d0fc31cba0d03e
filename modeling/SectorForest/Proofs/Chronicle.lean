import SectorForest.Proofs.Congruence
import SectorForest.Proofs.Run

/-!
# What a call leaves in the log

The events of a call are told by what it ends in, by the operation called for, and by whether the
connection can be written: `Session.Reachable.call_events`. So labels get into the log in one way
only, as part of an error that the call ends in. `Session.Reachable.events_unlabelled` says it of
two calls that differ in the label only: if they end alike apart from labels in their errors, then
so do their events. The events are the same where the errors are the same, and a conflict over a
label is an error in which two labels are told apart.
-/

namespace SectorForest

open Storage

variable {α β : Type}

/-! ## What is told -/

/-- The failure that an operation ends in, if it does. -/
def failure? : Except Failure α → Option Failure
  | .ok _ => none
  | .error failure => some failure

/-- An error that an operation ends in before it would open a transaction. -/
def ServiceError.isEarly : ServiceError → Bool
  | .notFound _ _ | .invalidInput _ _ => true
  | _ => false

/-- The events of closing the transaction in which an operation does its work. -/
def closingEvents (c : Connection) (name : String) : Option Failure → List Event
  | none => [.committed name]
  | some .tooDeep => []
  | some (.refused error) =>
    if error.isEarly || c.contended then []
    else if c.obstacle = none ∧ error = .ofFault .full then
      -- for want of a row number the transaction has been undone already
      [.rollbackFailed name (.noTransaction "rollback"), .rolledBack name error]
    else [.rolledBack name error]

/-- The event of the end of an operation. -/
def endEvents (name : String) : Option Failure → List Event
  | none => [.succeeded name]
  | some .tooDeep => []
  | some (.refused error) => [.refused name error]

namespace Mutation

/-- The name under which an operation is reported. -/
def name : Mutation → String
  | .createOrganization .. => "org_create"
  | .createSector .. | .createSectorIn .. => "sector_create"
  | .renameSector .. => "sector_rename"
  | .deleteSector .. => "sector_delete"
  | .renameOrganization .. => "org_rename"
  | .deleteOrganization .. => "org_delete"

/-- Whether an operation does its work in a transaction. -/
def transacts : Mutation → Bool
  | .createOrganization .. | .deleteOrganization .. => true
  | _ => false

/-- The events of a call on a connection that ends in a failure or in none. -/
def told (c : Connection) (mutation : Mutation) (failure? : Option Failure) : List Event :=
  (if mutation.transacts then closingEvents c mutation.name failure? else []) ++
    endEvents mutation.name failure?

/-- The same call with another label, if it has one. -/
def relabelled (label : String) : Mutation → Mutation
  | .createOrganization tenant draft => .createOrganization tenant { draft with label }
  | .createSector tenant org _ parentCode => .createSector tenant org label parentCode
  | .createSectorIn tenant code draft => .createSectorIn tenant code { draft with label }
  | .renameSector tenant id _ => .renameSector tenant id label
  | .renameOrganization tenant code _ => .renameOrganization tenant code label
  | mutation => mutation

theorem told_relabelled (c : Connection) (mutation : Mutation) (label : String) :
    (mutation.relabelled label).told c = mutation.told c := by
  cases mutation <;> rfl

end Mutation

/-! ## Leaving labels out -/

/-- The error without the label in it. -/
def ServiceError.unlabelled : ServiceError → ServiceError
  | .conflict entity .label _ => .conflict entity .label ""
  | error => error

@[inherit_doc ServiceError.unlabelled]
def Failure.unlabelled : Failure → Failure
  | .refused error => .refused error.unlabelled
  | .tooDeep => .tooDeep

/-- The event without the label in its error. -/
def Event.unlabelled : Event → Event
  | .rolledBack operation cause => .rolledBack operation cause.unlabelled
  | .refused operation error => .refused operation error.unlabelled
  | event => event

@[simp] theorem ServiceError.isEarly_unlabelled (error : ServiceError) :
    error.unlabelled.isEarly = error.isEarly := by
  unfold unlabelled
  split <;> rfl

@[simp] theorem ServiceError.unlabelled_eq_ofFault (error : ServiceError) (fault : Fault) :
    error.unlabelled = .ofFault fault ↔ error = .ofFault fault := by
  unfold unlabelled
  split
  · exact ⟨ServiceError.noConfusion, ServiceError.noConfusion⟩
  · exact Iff.rfl

theorem closingEvents_unlabelled (c : Connection) (name : String) (failure? : Option Failure) :
    (closingEvents c name failure?).map Event.unlabelled =
      closingEvents c name (failure?.map Failure.unlabelled) := by
  rcases failure? with _ | error | _
  · rfl
  · simp only [closingEvents, Option.map_some, Failure.unlabelled, ServiceError.isEarly_unlabelled,
      ServiceError.unlabelled_eq_ofFault]
    split_ifs <;> rfl
  · rfl

theorem endEvents_unlabelled (name : String) (failure? : Option Failure) :
    (endEvents name failure?).map Event.unlabelled =
      endEvents name (failure?.map Failure.unlabelled) := by
  rcases failure? with _ | error | _ <;> rfl

theorem Mutation.told_unlabelled (c : Connection) (mutation : Mutation)
    (failure? : Option Failure) :
    (mutation.told c failure?).map Event.unlabelled =
      mutation.told c (failure?.map Failure.unlabelled) := by
  rw [told, told, List.map_append, endEvents_unlabelled]
  split
  · rw [closingEvents_unlabelled]
  · rfl

/-- A change is made, or refused without a trace, or it is the last one of an open transaction:
there is no row number for it, and nothing else is in its way. -/
theorem Storage.Connection.change_cases (c : Connection) (change : Except Fault (α × Records)) :
    (∃ a r, change = .ok (a, r) ∧ c.change change = (.ok a, { c with database := r.database })) ∨
    (∃ fault, c.change change = (.error (.ofFault fault), c) ∧
      ¬(c.obstacle = none ∧ fault = .full)) ∨
    (c.obstacle = none ∧ c.change change = (.error (.ofFault .full), c.undone)) := by
  unfold Connection.change
  cases hwrite : c.writeFault? .main with
  | some fault =>
    refine .inr (.inl ⟨fault, rfl, ?_⟩)
    -- if nothing stands in the way of the client, it is the right to write that is missing
    rintro ⟨hobstacle, rfl⟩
    rw [Connection.writeFault?, hobstacle] at hwrite
    cases hcontended : c.contended <;> simp [hcontended] at hwrite
  | none =>
    have hobstacle : c.obstacle = none := by
      rw [Connection.writeFault?] at hwrite
      exact (Option.or_eq_none_iff.mp hwrite).1
    rcases change with fault | ⟨a, r⟩
    · cases fault with
      | full => exact .inr (.inr ⟨hobstacle, rfl⟩)
      | _ => exact .inr (.inl ⟨_, rfl, by rintro ⟨-, hfull⟩; cases hfull⟩)
    · exact .inl ⟨a, r, rfl, rfl⟩

namespace Session

variable {s : Session}

theorem reporting_events (operation : String) (p : Except Failure α × Session) :
    (reporting operation p).2.events = p.2.events ++ endEvents operation (failure? p.1) := by
  obtain ⟨⟨_ | _⟩ | a, s⟩ := p
  · rfl
  · exact (List.append_nil _).symm
  · rfl

/-! ## Operations without a transaction -/

/-- The backend over a session that takes no events. -/
def silent : Backend (StateM Session) :=
  { backend with emit := fun _ => pure () }

/-- `action` does what `action'` does, and leaves the events as they are. -/
def Silenced (action action' : Serving (StateM Session) α) : Prop :=
  ∀ (s : Session) (events : List Event),
    run { s with events } action = ((s.run action').1, { (s.run action').2 with events })

theorem Silenced.bind {action action' : Serving (StateM Session) α}
    {next next' : α → Serving (StateM Session) β} (h : Silenced action action')
    (hnext : ∀ a, Silenced (next a) (next' a)) :
    Silenced (action >>= next) (action' >>= next') := by
  intro s events
  rw [run_bind, run_bind, h s events]
  cases s.run action' with
  | mk result s' =>
    cases result with
    | ok a => exact hnext a s' events
    | error failure => rfl

theorem Silenced.ending {action action' : Serving (StateM Session) α}
    (h : Silenced action action') :
    Silenced (SectorForest.ending action) (SectorForest.ending action') := by
  intro s events
  rw [run_ending, run_ending, h s events]

theorem silenced_elementary : Backend.Elementary Silenced silent backend where
  pure _ _ _ := rfl
  throw _ _ _ := rfl
  bind h hnext := h.bind hnext
  ending h := h.ending
  organizations _ _ _ := rfl
  sectors _ _ _ := rfl
  transact _ _ _ := rfl
  newCode _ _ := rfl
  emit _ _ _ := rfl

theorem run_silent_reported (operation : String) (action : Serving (StateM Session) α) :
    s.run (silent.reported operation action) = s.run action := by
  rw [Backend.reported, run_bind, run_ending]
  cases s.run action with
  | mk result s' =>
    cases result with
    | ok a => rfl
    | error failure => cases failure <;> rfl

/-- An operation that works the same where no events are taken reports its end and nothing else. -/
theorem reported_events {operation : String} {work : Serving (StateM Session) α}
    (h : Silenced (silent.reported operation work) (backend.reported operation work)) :
    (s.run (backend.reported operation work)).2.events =
      s.events ++ endEvents operation (failure? (s.run (backend.reported operation work)).1) := by
  have hquiet : (s.run work).2.events = s.events := by
    have hsame := h s s.events
    rw [run_silent_reported] at hsame
    exact congrArg (fun p => p.2.events) hsame
  rw [run_reported, reporting_events, hquiet, reporting_fst]

/-! ## Transactions -/

/-- How the body of a transaction ends: its errors are none of those found early, and the
transaction is open still unless it was undone for want of a row number. -/
structure Lasts (s : Session) (p : Except Failure α × Session) : Prop where
  events : p.2.events = s.events
  late (error : ServiceError) (herror : p.1 = .error (.refused error)) : error.isEarly = false
  open_iff : p.2.connection.inTransaction = true ↔
    ¬(s.connection.obstacle = none ∧ p.1 = .error (.refused (.ofFault .full)))

/-- An error of a store is none of those found early, and running out of row numbers stays what it
is. -/
def PassesOn (onError : StoreError → ServiceError) : Prop :=
  ∀ error, (onError error).isEarly = false ∧
    (onError error = .ofFault .full ↔ error = .ofFault .full)

theorem passesOn_persistence : PassesOn .persistence :=
  fun _ => ⟨rfl, ⟨fun h => ServiceError.persistence.inj h, fun h => congrArg _ h⟩⟩

theorem passesOn_writeError (entity : Entity) (code label : String) :
    PassesOn (writeError entity code label) := by
  intro error
  rw [writeError]
  cases hunique : error.uniqueDetail? with
  | none => exact passesOn_persistence error
  | some detail =>
    have hfull : error ≠ .ofFault .full := by
      rintro rfl
      cases hunique
    dsimp only
    split
    · exact ⟨rfl, ⟨ServiceError.noConfusion, fun h => absurd h hfull⟩⟩
    · exact ⟨rfl, ⟨ServiceError.noConfusion, fun h => absurd h hfull⟩⟩

theorem lasts_refused {error : ServiceError} {c : Connection} (hlate : error.isEarly = false)
    (hopen : c.inTransaction = true ↔ ¬(s.connection.obstacle = none ∧ error = .ofFault .full)) :
    Lasts s
      ((.error (.refused error), { s with connection := c }) : Except Failure α × Session) where
  events := rfl
  late error' herror := by
    cases herror
    exact hlate
  open_iff := by
    simp only [Except.error.injEq, Failure.refused.injEq]
    exact hopen

section Lasts

variable (hopen : s.connection.inTransaction = true)
include hopen

theorem lasts_pure (a : α) : Lasts s (s.run (pure a)) where
  events := rfl
  late _ herror := nomatch herror
  open_iff := ⟨fun _ h => (nomatch h.2), fun _ => hopen⟩

theorem lasts_conflict (entity : Entity) (field : TextField) (value : String) :
    Lasts s (s.run (refuse (.conflict entity field value) : Serving (StateM Session) α)) :=
  lasts_refused rfl ⟨fun _ h => (nomatch h.2), fun _ => hopen⟩

theorem lasts_unlessTaken {taken : Prop} [Decidable taken] {entity : Entity} {field : TextField}
    {value : String} {next : Unit → Serving (StateM Session) α}
    (h : Lasts s (s.run (next ()))) :
    Lasts s (s.run
      (if taken then (do let done ← refuse (.conflict entity field value); next done)
        else next ())) := by
  split
  · exact lasts_conflict hopen entity field value
  · exact h

/-- After a change of records, whatever is done next. -/
theorem lasts_change {action : Serving (StateM Session) α} {onError : StoreError → ServiceError}
    {change : Except Fault (α × Records)} {next : α → Serving (StateM Session) β}
    (hrun : s.run action = ((s.connection.change change).1.mapError fun e => .refused (onError e),
      { s with connection := (s.connection.change change).2 }))
    (hpasses : PassesOn onError)
    (hnext : ∀ a r' (s' : Session), change = .ok (a, r') →
      s' = { s with connection := { s.connection with database := r'.database } } →
        Lasts s' (s'.run (next a))) :
    Lasts s (s.run (action >>= next)) := by
  have hfull (fault : Fault) : onError (.ofFault fault) = .ofFault .full ↔ fault = .full := by
    rw [(hpasses _).2]
    exact ⟨fun h => DatabaseError.storage.inj (StoreError.database.inj h), fun h => congrArg _ h⟩
  rw [run_bind, hrun]
  rcases s.connection.change_cases change with
    ⟨a, r', hchange, heq⟩ | ⟨fault, heq, hfault⟩ | ⟨hobstacle, heq⟩
  · rw [heq]
    obtain ⟨hevents, hlate, hopen'⟩ := hnext a r' _ hchange rfl
    exact ⟨hevents, hlate, hopen'⟩
  · rw [heq]
    refine lasts_refused (hpasses _).1 ⟨fun _ h => ?_, fun _ => hopen⟩
    exact hfault ⟨h.1, (hfull fault).mp h.2⟩
  · rw [heq]
    exact lasts_refused (hpasses _).1
      ⟨fun h => (nomatch h), fun h => absurd ⟨hobstacle, (hfull _).mpr rfl⟩ h⟩

end Lasts

/-- A part of an operation that opens a transaction in the end tells how that was closed, if it got
that far. -/
def Closes (s : Session) (name : String) (action : Serving (StateM Session) α) : Prop :=
  (s.run action).2.events =
    s.events ++ closingEvents s.connection name (failure? (s.run action).1)

theorem closes_refuse {error : ServiceError} (hearly : error.isEarly = true) (name : String) :
    Closes s name (refuse error : Serving (StateM Session) α) := by
  have hclosing : closingEvents s.connection name (some (.refused error)) = [] := by
    simp [closingEvents, hearly]
  show s.events = s.events ++ closingEvents s.connection name (some (.refused error))
  rw [hclosing, List.append_nil]

theorem closes_normalized {name : String} {field : TextField} {text : String}
    {next : String → Serving (StateM Session) α} (h : ∀ chosen, Closes s name (next chosen)) :
    Closes s name (Backend.normalized field text >>= next) := by
  rw [Backend.normalized]
  cases hchosen : normalize field text with
  | ok chosen => exact h chosen
  | error error =>
    have hearly : error.isEarly = true := by
      rw [normalize] at hchosen
      split_ifs at hchosen <;> cases hchosen <;> rfl
    exact closes_refuse hearly name

theorem closes_transaction {name : String} {body : Serving (StateM Session) α}
    (hidle : s.connection.saved = none) (h : Lasts s.opened (s.opened.run body)) :
    Closes s name (backend.transaction name body) := by
  rw [Closes]
  cases hcontended : s.connection.contended with
  | true =>
    rw [run_transaction_contended name hidle hcontended]
    simp [failure?, closingEvents, hcontended]
  | false =>
    rw [Backend.transaction, run_bind_ok (run_start hidle hcontended)]
    cases hbody : s.opened.run body with
    | mk result s' =>
      rw [hbody] at h
      have hevents : s'.events = s.events := h.events
      have hopen : s'.connection.inTransaction = true ↔ ¬(s.connection.obstacle = none ∧
          result = .error (.refused (.ofFault .full))) := h.open_iff
      simp only [run_bind, run_ending, hbody]
      rcases result with (error | _) | a
      · have hlate : error.isEarly = false := h.late error rfl
        simp only [Except.error.injEq, Failure.refused.injEq] at hopen
        by_cases hfull : s.connection.obstacle = none ∧ error = .ofFault .full
        · have hclosed : s'.connection.inTransaction = false :=
            Bool.eq_false_iff.mpr fun hin => hopen.mp hin hfull
          simp only [run_bind, run_transact, Connection.transact_rollback_closed hclosed]
          show (s'.events ++ [_]) ++ [_] =
            s.events ++ closingEvents s.connection name (some (.refused error))
          have hclosing : closingEvents s.connection name (some (.refused error)) =
              [.rollbackFailed name (.noTransaction "rollback"), .rolledBack name error] := by
            rw [closingEvents, hlate, hcontended, if_neg (by decide), if_pos hfull]
          rw [hevents, hclosing, List.append_assoc]
          rfl
        · simp only [run_bind, run_transact, Connection.transact_rollback (hopen.mpr hfull)]
          show s'.events ++ [_] =
            s.events ++ closingEvents s.connection name (some (.refused error))
          rw [closingEvents, hlate, hcontended, if_neg (by decide), if_neg hfull, hevents]
      · show s'.events = s.events ++ []
        rw [hevents, List.append_nil]
      · have hin : s'.connection.inTransaction = true :=
          hopen.mpr (by rintro ⟨-, hfull⟩; cases hfull)
        simp only [run_bind, run_transact, Connection.transact_commit hin]
        show s'.events ++ [_] = s.events ++ [.committed name]
        rw [hevents]

/-- The events of an operation are these. -/
def Chronicled (s : Session) (mutation : Mutation) (action : Serving (StateM Session) α) : Prop :=
  (s.run action).2.events = s.events ++ mutation.told s.connection (failure? (s.run action).1)

theorem Closes.chronicled (mutation : Mutation) (htransacts : mutation.transacts = true)
    {action : Serving (StateM Session) α} (h : Closes s mutation.name action) :
    Chronicled s mutation (backend.reported mutation.name action) := by
  rw [Chronicled, run_reported, reporting_events, reporting_fst, Mutation.told, if_pos htransacts,
    ← List.append_assoc]
  exact congrArg (· ++ _) h

/-! ## Calls -/

section Calls

variable {r : Records} (h : s.Holds r)
include h

theorem Holds.chronicled_createOrganization (tenant : TenantId) (draft : OrganizationDraft) :
    Chronicled s (.createOrganization tenant draft) (backend.createOrganization tenant draft) := by
  rw [Backend.createOrganization]
  apply Closes.chronicled (.createOrganization tenant draft) rfl
  refine closes_normalized fun code => closes_normalized fun label => ?_
  apply closes_transaction h.idle
  have hdatabase : s.opened.connection.database = r.database := h.database
  have hopen : s.opened.connection.inTransaction = true := rfl
  have hcode := OrganizationRequest.answer_existsByCode hdatabase tenant code
  have hlabel := OrganizationRequest.answer_existsByLabel hdatabase tenant label
  rw [run_bind_ok (run_askOrganizations_ok hcode)]
  apply lasts_unlessTaken hopen
  rw [run_bind_ok (run_askOrganizations_ok hlabel)]
  apply lasts_unlessTaken hopen
  have hcreate := OrganizationRequest.answer_createInTransaction hdatabase h.sound
    { tenant, code, label, kind := draft.kind, status := draft.status }
  apply lasts_change hopen (run_askOrganizations_change hcreate) (passesOn_writeError _ _ _)
  intro org r' s' hinsert hs'
  have hdatabase' : s'.connection.database = r'.database := by rw [hs']
  have hroot := SectorRequest.answer_createInTransaction hdatabase'
    (h.sound.insertOrganization hinsert) (NewSector.root tenant org code label)
  apply lasts_change (hs' ▸ hopen) (run_askSectors_change hroot) (passesOn_writeError _ _ _)
  intro root r'' s'' _ hs''
  exact lasts_pure (hs'' ▸ hs' ▸ hopen) org

theorem Holds.chronicled_deleteOrganization (tenant : TenantId) (code : String) :
    Chronicled s (.deleteOrganization tenant code) (backend.deleteOrganization tenant code) := by
  have hfind := OrganizationRequest.answer_findByCode h.database tenant code
  rw [Backend.deleteOrganization]
  apply Closes.chronicled (.deleteOrganization tenant code) rfl
  rw [Backend.findOrganization, bind_assoc, Closes, run_bind_ok (run_askOrganizations_ok hfind)]
  cases r.organization? tenant code with
  | none => exact closes_refuse rfl _
  | some organization =>
    apply closes_transaction h.idle
    have hdatabase : s.opened.connection.database = r.database := h.database
    have hopen : s.opened.connection.inTransaction = true := rfl
    have hempty := SectorRequest.answer_deleteAllForOrganizationInTransaction hdatabase h.sound
      organization.id
    apply lasts_change hopen (run_askSectors_change hempty) passesOn_persistence
    intro emptied r' s' _ hs'
    have hdatabase' : s'.connection.database = r'.database := by rw [hs']
    have hremove := OrganizationRequest.answer_deleteInTransaction hdatabase' tenant code
    apply lasts_change (hs' ▸ hopen) (run_askOrganizations_change hremove) passesOn_persistence
    intro removed r'' s'' _ hs''
    exact lasts_pure (hs'' ▸ hs' ▸ hopen) ()

end Calls

/-- An operation that does its work without a transaction. -/
theorem chronicled_reported (mutation : Mutation) (htransacts : mutation.transacts = false)
    {work : Serving (StateM Session) mutation.Answer}
    (hwork : mutation.perform backend = backend.reported mutation.name work)
    (hsilent : mutation.perform silent = silent.reported mutation.name work) :
    Chronicled s mutation (mutation.perform backend) := by
  have h := silenced_elementary.congruent.perform mutation
  rw [hwork, hsilent] at h
  rw [Chronicled, Mutation.told, htransacts, hwork]
  exact reported_events h

theorem Holds.chronicled {r : Records} (h : s.Holds r) (mutation : Mutation) :
    Chronicled s mutation (mutation.perform backend) := by
  cases mutation with
  | createOrganization tenant draft => exact h.chronicled_createOrganization tenant draft
  | createSector => exact chronicled_reported _ rfl rfl rfl
  | createSectorIn => exact chronicled_reported _ rfl rfl rfl
  | renameSector => exact chronicled_reported _ rfl rfl rfl
  | deleteSector => exact chronicled_reported _ rfl rfl rfl
  | renameOrganization => exact chronicled_reported _ rfl rfl rfl
  | deleteOrganization tenant code => exact h.chronicled_deleteOrganization tenant code

/-- The events of a call. -/
def newEvents (s : Session) (mutation : Mutation) : List Event :=
  (s.call mutation).2.events.drop s.events.length

/-- In a reachable session the events of a call are added to those before it, and they are told by
the failure that the call ends in, or by there being none. -/
theorem Reachable.call_events (h : s.Reachable) (mutation : Mutation) :
    (s.call mutation).2.events =
      s.events ++ mutation.told s.connection (failure? (s.call mutation).1) :=
  h.holds.chronicled mutation

theorem Reachable.newEvents_eq (h : s.Reachable) (mutation : Mutation) :
    s.newEvents mutation = mutation.told s.connection (failure? (s.call mutation).1) := by
  rw [newEvents, h.call_events, List.drop_left]

/-- In a reachable session two calls that differ in their labels only, and that end alike but for
labels in their errors, leave the same events but for the labels in these errors. If they end alike
altogether the events are the same altogether. -/
theorem Reachable.events_unlabelled (h : s.Reachable) (mutation : Mutation)
    (label label' : String)
    (halike : (failure? (s.call (mutation.relabelled label)).1).map Failure.unlabelled =
      (failure? (s.call (mutation.relabelled label')).1).map Failure.unlabelled) :
    (s.newEvents (mutation.relabelled label)).map Event.unlabelled =
        (s.newEvents (mutation.relabelled label')).map Event.unlabelled ∧
      (failure? (s.call (mutation.relabelled label)).1 =
          failure? (s.call (mutation.relabelled label')).1 →
        s.newEvents (mutation.relabelled label) = s.newEvents (mutation.relabelled label')) := by
  rw [h.newEvents_eq, h.newEvents_eq, Mutation.told_unlabelled, Mutation.told_unlabelled,
    Mutation.told_relabelled, Mutation.told_relabelled, halike]
  refine ⟨rfl, ?_⟩
  intro hsame
  rw [hsame]

section Chain

open Records

/-- Two sectors that cannot be created since their labels are taken. -/
theorem events_unlabelled_chain :
    let s := chain.session ""
    s.Reachable ∧
    (failure? (s.call (.createSector 1 1 "North" none)).1).map Failure.unlabelled =
      (failure? (s.call (.createSector 1 1 "Pole" none)).1).map Failure.unlabelled ∧
    (s.newEvents (.createSector 1 1 "North" none)).map Event.unlabelled =
      (s.newEvents (.createSector 1 1 "Pole" none)).map Event.unlabelled := by
  intro s
  have hreachable : s.Reachable := reached_chain.reachable ""
  have halike : (failure? (s.call (.createSector 1 1 "North" none)).1).map Failure.unlabelled =
      (failure? (s.call (.createSector 1 1 "Pole" none)).1).map Failure.unlabelled := by
    decide +kernel
  exact ⟨hreachable, halike,
    (hreachable.events_unlabelled (.createSector 1 1 "" none) "North" "Pole" halike).1⟩

/-- What is left of them in the log tells the labels apart. -/
theorem events_labelled_chain :
    let s := chain.session ""
    s.Reachable ∧
    (failure? (s.call (.createSector 1 1 "North" none)).1).map Failure.unlabelled =
      (failure? (s.call (.createSector 1 1 "Pole" none)).1).map Failure.unlabelled ∧
    (s.newEvents (.createSector 1 1 "North" none)).map Event.message =
      ["event=sector_create module=service status=error duration_ms=0 " ++
        "error_code=sector_already_exists error=sector already exists with label `North`"] ∧
    (s.newEvents (.createSector 1 1 "Pole" none)).map Event.message =
      ["event=sector_create module=service status=error duration_ms=0 " ++
        "error_code=sector_already_exists error=sector already exists with label `Pole`"] ∧
    s.newEvents (.createSector 1 1 "North" none) ≠ s.newEvents (.createSector 1 1 "Pole" none) := by
  refine ⟨reached_chain.reachable "", ?_, ?_, ?_, ?_⟩ <;> decide +kernel

end Chain

end Session

end SectorForest
