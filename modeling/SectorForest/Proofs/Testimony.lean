import SectorForest.Proofs.Scope

/-!
# What the events of a transaction tell

A transaction is opened, runs its body, and keeps or undoes what the body did; how that went is told
in events. `Backend.witnessed` notes the steps that a transaction takes on its own account and the
events that it emits, and nothing of what its body does: a body may take steps of its own, and so
close the transaction that it is run in. `Course` lists the ways in which a transaction goes.

`Session.transaction_testified` says which events are emitted after which steps. It is told that
work was kept exactly if the step that was to keep it succeeded. But it is told that work was undone
whenever the body failed, also where the step that was to undo it failed and that is told as well.
-/

namespace SectorForest

open Storage

variable {σ α β : Type}

/-! ## Witnesses -/

/-- What a transaction does on its own account. -/
inductive Move where
  | takes (step : TransactionStep) (result : Except Fault Unit)
  | tells (event : Event)
  deriving DecidableEq

/-- The backend with steps of transactions and events noted. -/
def Backend.witnessed {m : Type → Type} [Monad m] (b : Backend m) :
    Backend (StateT (List Move) m) where
  organizations request := liftM (b.organizations request)
  sectors request := liftM (b.sectors request)
  transact step := fun moves => do
    let result ← b.transact step
    pure (result, moves ++ [.takes step result])
  newCode := liftM b.newCode
  emit event := fun moves => do
    b.emit event
    pure ((), moves ++ [.tells event])

/-- A body of which nothing is noted, whatever it does. -/
def unwitnessed (body : Serving (StateM σ) α) : Serving (Noting Move σ) α :=
  ExceptT.mk (liftM body.run)

/-- A transaction that is witnessed from a state on: its ending, its moves, and the state
afterwards. -/
def witness (b : Backend (StateM σ)) (s : σ) (name : String) (body : Serving (StateM σ) α) :
    (Except Failure α × List Move) × σ :=
  jot s [] (b.witnessed.transaction name (unwitnessed body))

/-- The moves of a transaction that is run from a state on. -/
def movesOf (b : Backend (StateM σ)) (s : σ) (name : String) (body : Serving (StateM σ) α) :
    List Move :=
  (witness b s name body).1.2

/-- The events among some moves. -/
def tellings (moves : List Move) : List Event :=
  moves.filterMap fun
    | .takes _ _ => none
    | .tells event => some event

variable {b : Backend (StateM σ)} {s : σ} {name : String} {body : Serving (StateM σ) α}
  {moves : List Move}

theorem mirrors_unwitnessed : Mirrors (unwitnessed body) body :=
  mirrors_silent fun _ _ => rfl

/-- Witnessing a transaction makes no difference to it. -/
theorem mirrors_witnessed : Backend.Elementary Mirrors b.witnessed b where
  pure _ := mirrors_silent fun _ _ => rfl
  throw _ := mirrors_silent fun _ _ => rfl
  bind h hnext := h.bind hnext
  ending h := h.ending
  organizations _ := mirrors_silent fun _ _ => rfl
  sectors _ := mirrors_silent fun _ _ => rfl
  transact step := fun s _ => ⟨[.takes step (StateT.run (b.transact step) s).1], rfl⟩
  newCode := mirrors_silent fun _ _ => rfl
  emit event := fun _ _ => ⟨[.tells event], rfl⟩

theorem witness_eq (b : Backend (StateM σ)) (s : σ) (name : String)
    (body : Serving (StateM σ) α) :
    (witness b s name body).1.1 = (StateT.run (b.transaction name body).run s).1 ∧
      (witness b s name body).2 = (StateT.run (b.transaction name body).run s).2 := by
  have hbody : Mirrors (unwitnessed body) body := mirrors_unwitnessed
  obtain ⟨later, hjot⟩ := mirrors_witnessed.transaction name hbody s []
  rw [witness, hjot]
  exact ⟨rfl, rfl⟩

/-! ## The course of a transaction -/

/-- How a transaction goes that is run from the state `s` on: its ending, its moves, and the state
afterwards. The states in between are numbered. -/
inductive Course (b : Backend (StateM σ)) (s : σ) (name : String)
    (body : Serving (StateM σ) α) : (Except Failure α × List Move) × σ → Prop
  /-- It cannot be opened. -/
  | unopened {fault : Fault} {s₁ : σ}
    (hstart : StateT.run (b.transact .start) s = (.error fault, s₁)) :
    Course b s name body
      ((.error (.refused (.ofFault fault)), [.takes .start (.error fault)]), s₁)
  /-- Its body succeeds, and the work is kept. -/
  | kept {a : α} {s₁ s₂ s₃ : σ} (hstart : StateT.run (b.transact .start) s = (.ok (), s₁))
    (hbody : StateT.run body.run s₁ = (.ok a, s₂))
    (hcommit : StateT.run (b.transact .commit) s₂ = (.ok (), s₃)) :
    Course b s name body
      ((.ok a, [.takes .start (.ok ()), .takes .commit (.ok ()), .tells (.committed name)]),
        (StateT.run (b.emit (.committed name)) s₃).2)
  /-- Its body succeeds, and the work cannot be kept. -/
  | unkept {a : α} {fault : Fault} {s₁ s₂ s₃ : σ}
    (hstart : StateT.run (b.transact .start) s = (.ok (), s₁))
    (hbody : StateT.run body.run s₁ = (.ok a, s₂))
    (hcommit : StateT.run (b.transact .commit) s₂ = (.error fault, s₃)) :
    Course b s name body
      ((.error (.refused (.ofFault fault)), [.takes .start (.ok ()), .takes .commit (.error fault),
          .takes .abandon (StateT.run (b.transact .abandon) s₃).1]),
        (StateT.run (b.transact .abandon) s₃).2)
  /-- Its body fails, and the work is undone. -/
  | undone {error : ServiceError} {s₁ s₂ s₃ : σ}
    (hstart : StateT.run (b.transact .start) s = (.ok (), s₁))
    (hbody : StateT.run body.run s₁ = (.error (.refused error), s₂))
    (hrollback : StateT.run (b.transact .rollback) s₂ = (.ok (), s₃)) :
    Course b s name body
      ((.error (.refused error), [.takes .start (.ok ()), .takes .rollback (.ok ()),
          .tells (.rolledBack name error)]),
        (StateT.run (b.emit (.rolledBack name error)) s₃).2)
  /-- Its body fails, and the work cannot be undone. -/
  | stuck {error : ServiceError} {fault : Fault} {s₁ s₂ s₃ s₄ s₅ : σ}
    (hstart : StateT.run (b.transact .start) s = (.ok (), s₁))
    (hbody : StateT.run body.run s₁ = (.error (.refused error), s₂))
    (hrollback : StateT.run (b.transact .rollback) s₂ = (.error fault, s₃))
    (habandon : (StateT.run (b.transact .abandon) s₃).2 = s₄)
    (hemit : (StateT.run (b.emit (.rollbackFailed name fault)) s₄).2 = s₅) :
    Course b s name body
      ((.error (.refused error), [.takes .start (.ok ()), .takes .rollback (.error fault),
          .takes .abandon (StateT.run (b.transact .abandon) s₃).1,
          .tells (.rollbackFailed name fault), .tells (.rolledBack name error)]),
        (StateT.run (b.emit (.rolledBack name error)) s₅).2)
  /-- Its body crashes. -/
  | crashed {s₁ s₂ : σ} (hstart : StateT.run (b.transact .start) s = (.ok (), s₁))
    (hbody : StateT.run body.run s₁ = (.error .tooDeep, s₂)) :
    Course b s name body
      ((.error .tooDeep, [.takes .start (.ok ()),
          .takes .abandon (StateT.run (b.transact .abandon) s₂).1]),
        (StateT.run (b.transact .abandon) s₂).2)

theorem jot_witnessed_transact {step : TransactionStep} {result : Except Fault Unit} {s' : σ}
    (h : StateT.run (b.transact step) s = (result, s'))
    (next : Except Fault Unit → Serving (Noting Move σ) α) :
    jot s moves (liftM (b.witnessed.transact step) >>= next) =
      jot s' (moves ++ [.takes step result]) (next result) := by
  have hstep : jot s moves (liftM (b.witnessed.transact step)) =
      ((.ok (StateT.run (b.transact step) s).1,
        moves ++ [.takes step (StateT.run (b.transact step) s).1]),
        (StateT.run (b.transact step) s).2) := rfl
  rw [h] at hstep
  exact jot_bind_ok hstep next

theorem jot_ending_unwitnessed {result : Except Failure α} {s' : σ}
    (h : StateT.run body.run s = (result, s'))
    (next : Except Failure α → Serving (Noting Move σ) β) :
    jot s moves (ending (unwitnessed body) >>= next) = jot s' moves (next result) := by
  have hbody : jot s moves (unwitnessed body) =
      (((StateT.run body.run s).1, moves), (StateT.run body.run s).2) := rfl
  rw [jot_bind, jot_ending, hbody, h]

/-- Every transaction takes one of the courses. -/
theorem course_witness (b : Backend (StateM σ)) (s : σ) (name : String)
    (body : Serving (StateM σ) α) : Course b s name body (witness b s name body) := by
  unfold witness Backend.transaction
  cases hstart : StateT.run (b.transact .start) s with
  | mk started s₁ =>
    rw [jot_witnessed_transact hstart]
    cases started with
    | error fault => exact .unopened hstart
    | ok _ =>
      cases hbody : StateT.run body.run s₁ with
      | mk result s₂ =>
        rw [jot_ending_unwitnessed hbody]
        obtain (error | _) | a := result
        · cases hrollback : StateT.run (b.transact .rollback) s₂ with
          | mk rolled s₃ =>
            dsimp only
            rw [jot_witnessed_transact hrollback]
            cases rolled with
            | ok _ => exact .undone hstart hbody hrollback
            | error fault => exact .stuck hstart hbody hrollback rfl rfl
        · exact .crashed hstart hbody
        · cases hcommit : StateT.run (b.transact .commit) s₂ with
          | mk committed s₃ =>
            dsimp only
            rw [jot_witnessed_transact hcommit]
            cases committed with
            | ok _ => exact .kept hstart hbody hcommit
            | error fault => exact .unkept hstart hbody hcommit

/-! ## What is told -/

/-- What an event says of the closing of a transaction: whether it went as it should. -/
def Event.closingStatus? : Event → Option String
  | .committed _ | .rolledBack _ _ => some "ok"
  | .rollbackFailed _ _ => some "error"
  | _ => none

/-- The status stands in the message. -/
theorem Event.message_of_closingStatus? {event : Event} {status : String}
    (h : event.closingStatus? = some status) :
    ∃ kind rest, event.message = heading kind "db" status ++ rest := by
  cases event <;> cases h
  case committed => exact ⟨"tx_commit", _, by simp only [message, String.append_assoc]; rfl⟩
  case rollbackFailed => exact ⟨"tx_rollback", _, by simp only [message, String.append_assoc]; rfl⟩
  case rolledBack => exact ⟨"tx_rollback", _, by simp only [message, String.append_assoc]; rfl⟩

/-- An event with the status is among some moves. -/
def Tells (moves : List Move) (status : String) : Prop :=
  ∃ event, .tells event ∈ moves ∧ event.closingStatus? = some status

/-- A transaction is opened from a state on, and its body ends from there on as given. -/
def BodyEnds (b : Backend (StateM σ)) (s : σ) (body : Serving (StateM σ) α)
    (P : Except Failure α → Prop) : Prop :=
  (StateT.run (b.transact .start) s).1 = .ok () ∧
    P (StateT.run body.run (StateT.run (b.transact .start) s).2).1

namespace Course

variable {w : (Except Failure α × List Move) × σ} (h : Course b s name body w)
include h

/-- What is told of is the closing. -/
theorem closingStatus?_isSome {event : Event} (hevent : .tells event ∈ w.1.2) :
    ∃ status, event.closingStatus? = some status := by
  cases h <;> simp at hevent
  case kept => exact ⟨"ok", by rw [hevent]; rfl⟩
  case undone => exact ⟨"ok", by rw [hevent]; rfl⟩
  case stuck =>
    rcases hevent with rfl | rfl
    · exact ⟨"error", rfl⟩
    · exact ⟨"ok", rfl⟩

theorem commits_iff : (∃ result, .takes .commit result ∈ w.1.2) ↔
    BodyEnds b s body fun ending => ∃ a, ending = .ok a := by
  cases h <;> simp [BodyEnds, *]

theorem rollsBack_iff : (∃ result, .takes .rollback result ∈ w.1.2) ↔
    BodyEnds b s body fun ending => ∃ error, ending = .error (.refused error) := by
  cases h <;> simp [BodyEnds, *]

theorem committed_iff : .tells (.committed name) ∈ w.1.2 ↔ .takes .commit (.ok ()) ∈ w.1.2 := by
  cases h <;> simp

theorem rollbackFailed_iff {fault : Fault} : .tells (.rollbackFailed name fault) ∈ w.1.2 ↔
    .takes .rollback (.error fault) ∈ w.1.2 := by
  cases h <;> simp

theorem rolledBack_iff {error : ServiceError} : .tells (.rolledBack name error) ∈ w.1.2 ↔
    BodyEnds b s body fun ending => ending = .error (.refused error) := by
  cases h <;> simp [BodyEnds, eq_comm, *]

theorem contradicts_iff : Tells w.1.2 "ok" ∧ Tells w.1.2 "error" ↔
    ∃ fault, .takes .rollback (.error fault) ∈ w.1.2 := by
  cases h <;> simp [Tells, Event.closingStatus?]

theorem once : ((tellings w.1.2).countP fun event => event.closingStatus? == some "ok") ≤ 1 := by
  cases h <;> simp [tellings, Event.closingStatus?]

end Course

/-- What the events of a transaction tell of it. -/
structure Testifies (b : Backend (StateM σ)) (s : σ) (name : String)
    (body : Serving (StateM σ) α) : Prop where
  /-- Being witnessed makes no difference to a transaction. -/
  unchanged : ((witness b s name body).1.1, (witness b s name body).2) =
    StateT.run (b.transaction name body).run s
  /-- Only the closing is told, and its status stands in the message. -/
  worded (event : Event) (h : .tells event ∈ movesOf b s name body) :
    ∃ status kind rest, event.closingStatus? = some status ∧
      event.message = Event.heading kind "db" status ++ rest
  /-- The work is to be kept if the body succeeds. -/
  commits_iff : (∃ result, .takes .commit result ∈ movesOf b s name body) ↔
    BodyEnds b s body fun ending => ∃ a, ending = .ok a
  /-- The work is to be undone if the body fails. -/
  rollsBack_iff : (∃ result, .takes .rollback result ∈ movesOf b s name body) ↔
    BodyEnds b s body fun ending => ∃ error, ending = .error (.refused error)
  /-- It is told that work was kept exactly if it was. -/
  committed_iff : .tells (.committed name) ∈ movesOf b s name body ↔
    .takes .commit (.ok ()) ∈ movesOf b s name body
  /-- It is told that work could not be undone exactly if it could not. -/
  rollbackFailed_iff (fault : Fault) : .tells (.rollbackFailed name fault) ∈ movesOf b s name body ↔
    .takes .rollback (.error fault) ∈ movesOf b s name body
  /-- It is told that work was undone exactly if it was to be, with the error of the body. -/
  rolledBack_iff (error : ServiceError) : .tells (.rolledBack name error) ∈ movesOf b s name body ↔
    BodyEnds b s body fun ending => ending = .error (.refused error)
  /-- Both that the closing went well and that it did not is told exactly if the work could not be
  undone. -/
  contradicts_iff : Tells (movesOf b s name body) "ok" ∧ Tells (movesOf b s name body) "error" ↔
    ∃ fault, .takes .rollback (.error fault) ∈ movesOf b s name body
  /-- That the closing went well is told once at most. -/
  once : ((tellings (movesOf b s name body)).countP fun event =>
    event.closingStatus? == some "ok") ≤ 1

theorem testifies (b : Backend (StateM σ)) (s : σ) (name : String)
    (body : Serving (StateM σ) α) : Testifies b s name body where
  unchanged := Prod.ext (witness_eq b s name body).1 (witness_eq b s name body).2
  worded event h := by
    obtain ⟨status, hstatus⟩ := (course_witness b s name body).closingStatus?_isSome h
    obtain ⟨kind, rest, hmessage⟩ := Event.message_of_closingStatus? hstatus
    exact ⟨status, kind, rest, hstatus, hmessage⟩
  commits_iff := (course_witness b s name body).commits_iff
  rollsBack_iff := (course_witness b s name body).rollsBack_iff
  committed_iff := (course_witness b s name body).committed_iff
  rollbackFailed_iff _ := (course_witness b s name body).rollbackFailed_iff
  rolledBack_iff _ := (course_witness b s name body).rolledBack_iff
  contradicts_iff := (course_witness b s name body).contradicts_iff
  once := (course_witness b s name body).once

/-! ## Transactions on a session -/

namespace Session

variable {faults : TransactionFaults} {s : Session} {name : String}
  {body : Serving (StateM Session) α}

theorem run_faulty_opened {s' : Session}
    (h : StateT.run ((faulty faults).transact .start) s = (.ok (), s')) : s' = s.opened := by
  have hstart : (Connection.transactOr faults .start s.connection).1 = .ok () :=
    congrArg Prod.fst h
  have hafter : s' =
      { s with connection := (Connection.transactOr faults .start s.connection).2 } :=
    (congrArg Prod.snd h).symm
  rw [hafter, transactOr_start_ok hstart]
  rfl

theorem events_faulty_transact {step : TransactionStep} {result : Except Fault Unit} {s' : Session}
    (h : StateT.run ((faulty faults).transact step) s = (result, s')) : s'.events = s.events := by
  have hafter : { s with connection := (Connection.transactOr faults step s.connection).2 } = s' :=
    congrArg Prod.snd h
  rw [← hafter]

/-- What has been told when the body of a transaction ends, or before it if it is not opened. -/
def eventsBefore (faults : TransactionFaults) (s : Session) (body : Serving (StateM Session) α) :
    List Event :=
  match (Connection.transactOr faults .start s.connection).1 with
  | .ok () => (s.opened.run body).2.events
  | .error _ => s.events

theorem eventsBefore_unopened {fault : Fault} {s₁ : Session}
    (hstart : StateT.run ((faulty faults).transact .start) s = (.error fault, s₁)) :
    eventsBefore faults s body = s.events := by
  have hfault : (Connection.transactOr faults .start s.connection).1 = .error fault :=
    congrArg Prod.fst hstart
  rw [eventsBefore, hfault]

theorem eventsBefore_opened {s₁ s₂ : Session} {ending : Except Failure α}
    (hstart : StateT.run ((faulty faults).transact .start) s = (.ok (), s₁))
    (hbody : StateT.run body.run s₁ = (ending, s₂)) : eventsBefore faults s body = s₂.events := by
  have hopened : (Connection.transactOr faults .start s.connection).1 = .ok () :=
    congrArg Prod.fst hstart
  have hrun : s.opened.run body = (ending, s₂) := by
    rw [← run_faulty_opened hstart]
    exact hbody
  rw [eventsBefore, hopened, hrun]

/-- The events of a transaction come after those of its body. -/
theorem events_course {w : (Except Failure α × List Move) × Session}
    (h : Course (faulty faults) s name body w) :
    w.2.events = eventsBefore faults s body ++ tellings w.1.2 := by
  cases h with
  | unopened hstart =>
    rw [eventsBefore_unopened hstart, events_faulty_transact hstart]
    exact (List.append_nil _).symm
  | kept hstart hbody hcommit =>
    rw [eventsBefore_opened hstart hbody, ← events_faulty_transact hcommit]
    rfl
  | unkept hstart hbody hcommit =>
    rw [eventsBefore_opened hstart hbody, ← events_faulty_transact hcommit]
    exact (List.append_nil _).symm
  | undone hstart hbody hrollback =>
    rw [eventsBefore_opened hstart hbody, ← events_faulty_transact hrollback]
    rfl
  | stuck hstart hbody hrollback habandon hemit =>
    rw [eventsBefore_opened hstart hbody, ← events_faulty_transact hrollback]
    subst habandon hemit
    exact List.append_assoc _ [_] [_]
  | crashed hstart hbody =>
    rw [eventsBefore_opened hstart hbody]
    exact (List.append_nil _).symm

/-- For every session, every body and all faults of the steps of a transaction: its events come
after those of its body, and tell of its closing as `Testifies` says. -/
theorem transaction_testified (faults : TransactionFaults) (s : Session) (name : String)
    (body : Serving (StateM Session) α) :
    Testifies (faulty faults) s name body ∧
      (s.run ((faulty faults).transaction name body)).2.events =
        eventsBefore faults s body ++ tellings (movesOf (faulty faults) s name body) := by
  have htestifies := testifies (faulty faults) s name body
  have hafter : (s.run ((faulty faults).transaction name body)).2 =
      (witness (faulty faults) s name body).2 :=
    congrArg Prod.snd htestifies.unchanged.symm
  refine ⟨htestifies, ?_⟩
  rw [hafter]
  exact events_course (course_witness _ _ _ _)

/-- A body that creates a sector, closes its transaction on its own, and fails. -/
def turncoat : Serving (StateM Session) Unit := do
  let _ ← backend.createSector 1 1 "North" none
  let _ ← backend.transact .commit
  refuse (.persistence (.invalidData "late"))

open Records in
/-- The sector stays. It is told that it could not be undone, and then that it was. -/
theorem transaction_belied :
    let s := founded.session "n"
    let moves := movesOf (faulty {}) s "probe" turncoat
    (tellings moves).map Event.line =
      ["WARN event=tx_rollback module=db status=error operation=probe " ++
          "error=cannot rollback - no transaction is active",
        "WARN event=tx_rollback module=db status=ok operation=probe duration_ms=0 " ++
          "cause=invalid persisted data: late"] ∧
      (Tells moves "ok" ∧ Tells moves "error") ∧
      .takes .rollback (.ok ()) ∉ moves ∧
      (s.run ((faulty {}).transaction "probe" turncoat)).2.records.sectors = [acmeRoot, north] := by
  refine ⟨by decide +kernel, ?_, by decide +kernel, by decide +kernel⟩
  exact ⟨⟨.rolledBack "probe" (.persistence (.invalidData "late")), by decide +kernel, rfl⟩,
    ⟨.rollbackFailed "probe" (.noTransaction "rollback"), by decide +kernel, rfl⟩⟩

end Session

end SectorForest
