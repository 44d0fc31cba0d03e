import SectorForest.Proofs.Congruence
import SectorForest.Proofs.ReadBack
import SectorForest.Proofs.Serving

/-!
# Calls that nothing has hindered

A step that fails ends a call in a refusal, and so does a database that cannot be written. So a call
that ends in anything else has met neither, although its steps might have failed: it is the call
that it would be if every step were taken and the database were free, `Session.unhindered_perform`.
Where no step may fail at all, the calls are the same throughout: `Session.callFailing_none`.
-/

namespace SectorForest

open Storage

variable {α β : Type}

/-- The connection while nothing keeps the database from being written. -/
def Storage.Connection.freed (c : Connection) : Connection :=
  { c with contended := false, obstacle := none }

namespace Session

/-- The session while nothing keeps the database from being written. -/
def freed (s : Session) : Session :=
  { s with connection := s.connection.freed }

/-- What was tried ended in a refusal. -/
def Refused (p : (Except Failure α × Nat) × Session) : Prop :=
  ∃ error, p.1.1 = .error (.refused error)

/-- Whatever steps fail, an action is refused, or it ends as the plain one does while nothing keeps
the database from being written. -/
def Unhindered (action : Serving Trial α) (plain : Serving (StateM Session) α) : Prop :=
  ∀ (s : Session) (n : Nat), Refused (s.attempt n action) ∨
    s.freed.run plain = ((s.attempt n action).1.1, (s.attempt n action).2.freed)

variable {faults : Faults} {s : Session} {n : Nat}

/-! ## Requests -/

/-- What succeeds for a connection succeeds while the database is free, with the same answer. -/
def Eased {ε : Type} (action : Connection → Except ε α × Connection) : Prop :=
  ∀ c a, (action c).1 = .ok a → action c.freed = (.ok a, (action c).2.freed)

theorem eased_statement (statement : Statement) : Eased (Connection.execute statement) := by
  intro c outcome h
  have hfree : c.freed.writeFault? (statement.part c.database) = none := by
    cases statement.part c.database <;> rfl
  have hsame : c.freed.database = c.database := rfl
  simp only [Connection.execute, hsame, hfree] at h ⊢
  cases hprepare : statement.prepare c.database with
  | error fault => rw [hprepare] at h; cases h
  | ok _ =>
    simp only [hprepare] at h ⊢
    by_cases hidle : statement.isIdle c.database = true
    · simp only [hidle, if_true] at h ⊢
      exact Prod.ext h rfl
    · simp only [hidle] at h ⊢
      cases hfault : c.writeFault? (statement.part c.database) with
      | some fault => simp only [hfault] at h; cases h
      | none =>
        simp only [hfault] at h ⊢
        cases hrun : statement.run c.database with
        | ok p => rw [hrun] at h; exact Prod.ext h rfl
        | error fault => rw [hrun] at h; cases fault <;> cases h

theorem eased_execute (statement : Statement) (part : Storage.Outcome → α) :
    Eased (StoreAction.execute statement part) := by
  intro c a h
  simp only [StoreAction.execute] at h ⊢
  cases hresult : (Connection.execute statement c).1 with
  | error fault => rw [hresult] at h; cases h
  | ok outcome =>
    rw [hresult] at h
    rw [eased_statement statement c outcome hresult]
    exact Prod.ext h rfl

theorem eased_organizations (request : OrganizationRequest α) : Eased request.answer := by
  cases request
  all_goals first
    | exact eased_execute _ _
    | exact fun c a h => Prod.ext h rfl

theorem eased_sectors (request : SectorRequest α) : Eased request.answer := by
  cases request
  all_goals first
    | exact eased_execute _ _
    | exact fun c a h => Prod.ext h rfl

theorem eased_transact (step : TransactionStep) : Eased (Connection.transact step) := by
  intro c a h
  have hsame : c.freed.inTransaction = c.inTransaction := rfl
  cases step with
  | start =>
    simp only [Connection.transact, Connection.beginImmediate, hsame] at h ⊢
    split at h
    · cases h
    · rename_i hclosed
      split at h
      · cases h
      · rename_i hopen
        simp only [hclosed, hopen]
        rfl
  | commit =>
    simp only [Connection.transact, Connection.commit, hsame] at h ⊢
    split at h
    · rename_i hopen
      simp only [hopen, if_true]
      rfl
    · cases h
  | rollback =>
    simp only [Connection.transact, Connection.rollback, hsame] at h ⊢
    split at h
    · rename_i hopen
      simp only [hopen, if_true]
      rfl
    · cases h
  | abandon => rfl

/-! ## Putting actions together -/

section Rules

variable {action : Serving Trial α} {plain : Serving (StateM Session) α}

theorem unhindered_pure (a : α) : Unhindered (pure a) (pure a) :=
  fun _ _ => .inr rfl

theorem unhindered_throw (failure : Failure) :
    Unhindered (throw failure : Serving Trial α) (throw failure) :=
  fun _ _ => .inr rfl

theorem Unhindered.bind {next : α → Serving Trial β} {plainNext : α → Serving (StateM Session) β}
    (h : Unhindered action plain) (hnext : ∀ a, Unhindered (next a) (plainNext a)) :
    Unhindered (action >>= next) (plain >>= plainNext) := by
  intro s n
  have hfirst := h s n
  rw [attempt_bind, run_bind]
  cases hrun : s.attempt n action with
  | mk p s' =>
    obtain ⟨failure | a, n'⟩ := p
    · rw [hrun] at hfirst
      rcases hfirst with ⟨error, herror⟩ | hplain
      · exact .inl ⟨error, congrArg _ (Except.error.inj herror)⟩
      · rw [hplain]
        exact .inr rfl
    · rw [hrun] at hfirst
      rcases hfirst with ⟨error, herror⟩ | hplain
      · cases herror
      · rw [hplain]
        exact hnext a s' n'

/-- An answer is given as it is where nothing is in the way. -/
theorem unhindered_answered {request : Connection → Except StoreError α × Connection}
    (heased : Eased request) (onError : StoreError → ServiceError) :
    Unhindered
      (Backend.answered (failingStep faults.store (modifyGetThe Session (act request))) onError)
      (Backend.answered (modifyGetThe Session (act request)) onError) := by
  intro s n
  rw [attempt_answered, run_answered]
  cases faults.store n with
  | some error => exact .inl ⟨_, rfl⟩
  | none =>
    cases hresult : (request s.connection).1 with
    | error error => exact .inl ⟨onError error, rfl⟩
    | ok a =>
      have hfreed : StateT.run (modifyGetThe (m := StateM Session) Session (act request)) s.freed =
          ((request s.connection.freed).1,
            { s.freed with connection := (request s.connection.freed).2 }) := rfl
      rw [hfreed, heased _ a hresult]
      exact .inr rfl

/-- What an action ended in is taken as a value. -/
theorem Unhindered.ending {k : Except Failure α → Serving Trial β}
    {plainK : Except Failure α → Serving (StateM Session) β} (h : Unhindered action plain)
    (hrefused : ∀ error s n, Refused (attempt s n (k (.error (.refused error)))))
    (htooDeep : Unhindered (k (.error .tooDeep)) (plainK (.error .tooDeep)))
    (hok : ∀ a, Unhindered (k (.ok a)) (plainK (.ok a))) :
    Unhindered (SectorForest.ending action >>= k) (SectorForest.ending plain >>= plainK) := by
  intro s n
  have hbody := h s n
  rw [attempt_bind, attempt_ending, run_bind, run_ending]
  cases hrun : s.attempt n action with
  | mk p s' =>
    obtain ⟨(error | _) | a, n'⟩ := p
    · exact .inl (hrefused error s' n')
    · rw [hrun] at hbody
      rw [hbody.resolve_left fun ⟨_, herror⟩ => by cases herror]
      exact htooDeep s' n'
    · rw [hrun] at hbody
      rw [hbody.resolve_left fun ⟨_, herror⟩ => by cases herror]
      exact hok a s' n'

/-- What a request or a step answers is no ending. -/
theorem attempt_lift (answer : Trial α) :
    s.attempt n (liftM answer) =
      ((.ok (StateT.run (StateT.run answer n) s).1.1, (StateT.run (StateT.run answer n) s).1.2),
        (StateT.run (StateT.run answer n) s).2) := rfl

theorem refused_lift {answer : Trial α} {k : α → Serving Trial β}
    (h : ∀ a s n, Refused (attempt s n (k a))) : Refused (s.attempt n (liftM answer >>= k)) := by
  rw [attempt_bind, attempt_lift]
  exact h _ _ _

theorem refused_refuse (error : ServiceError) :
    Refused (s.attempt n (refuse error : Serving Trial α)) :=
  ⟨error, rfl⟩

theorem unhindered_emit (event : Event) {k : Serving Trial α} {plainK : Serving (StateM Session) α}
    (h : Unhindered k plainK) :
    Unhindered (liftM ((failing faults).emit event) >>= fun _ => k)
      (liftM ((backend (m := StateM Session)).emit event) >>= fun _ => plainK) :=
  fun s n => h (s.record event) n

theorem Unhindered.reported (operation : String) (h : Unhindered action plain) :
    Unhindered ((failing faults).reported operation action)
      (backend.reported operation plain) := by
  unfold Backend.reported
  apply h.ending
  · exact fun error s n => refused_lift fun _ _ _ => refused_refuse error
  · exact unhindered_throw _
  · exact fun a => unhindered_emit _ (unhindered_pure a)

/-- A step of a transaction is taken, unless the action is refused. -/
theorem unhindered_transact {step : TransactionStep} (hstep : step ≠ .abandon)
    {k : Except Fault Unit → Serving Trial α}
    {plainK : Except Fault Unit → Serving (StateM Session) α}
    (herror : ∀ fault s n, Refused (attempt s n (k (.error fault))))
    (hok : Unhindered (k (.ok ())) (plainK (.ok ()))) :
    Unhindered (liftM ((failing faults).transact step) >>= k)
      (liftM ((backend (m := StateM Session)).transact step) >>= plainK) := by
  intro s n
  have hfailing : (failing faults).transact step =
      failingStep faults.transaction ((backend (m := StateM Session)).transact step) := by
    cases step with
    | abandon => exact absurd rfl hstep
    | _ => rfl
  rw [attempt_bind, attempt_lift, hfailing, run_failingStep, run_bind, run_transact]
  cases faults.transaction n with
  | some fault => exact .inl (herror fault s (n + 1))
  | none =>
    have hrun : StateT.run ((backend (m := StateM Session)).transact step) s =
        ((Connection.transact step s.connection).1,
          { s with connection := (Connection.transact step s.connection).2 }) := rfl
    rw [hrun]
    cases hresult : (Connection.transact step s.connection).1 with
    | error fault => exact .inl (herror fault _ _)
    | ok a =>
      have hfreed := eased_transact step _ a hresult
      have hsame : s.freed.connection = s.connection.freed := rfl
      rw [hsame, hfreed]
      exact hok { s with connection := (Connection.transact step s.connection).2 } (n + 1)

theorem unhindered_abandon {k : Serving Trial α} {plainK : Serving (StateM Session) α}
    (h : Unhindered k plainK) :
    Unhindered (liftM ((failing faults).transact .abandon) >>= fun _ => k)
      (liftM ((backend (m := StateM Session)).transact .abandon) >>= fun _ => plainK) :=
  fun s n => h { s with connection := s.connection.undone } n

theorem Unhindered.transaction (operation : String) (h : Unhindered action plain) :
    Unhindered ((failing faults).transaction operation action)
      (backend.transaction operation plain) := by
  unfold Backend.transaction
  apply unhindered_transact (by decide)
  · exact fun fault s n => refused_refuse _
  apply h.ending
  · -- the body is refused, and so is the whole, however it is undone
    intro error s n
    have hundone : ∀ s n, Refused (attempt s n (do
        liftM ((failing faults).emit (.rolledBack operation error))
        refuse error : Serving Trial α)) :=
      fun _ _ => refused_lift fun _ _ _ => refused_refuse error
    apply refused_lift
    rintro (fault | ⟨⟩) s n
    · exact refused_lift fun _ _ _ => refused_lift fun _ _ _ => hundone _ _
    · exact hundone s n
  · exact unhindered_abandon (unhindered_throw _)
  · intro a
    apply unhindered_transact (by decide)
    · exact fun fault s n => refused_lift fun _ _ _ => refused_refuse _
    · exact unhindered_emit _ (unhindered_pure a)

end Rules

/-! ## Calls -/

theorem unhindered_congruent :
    Backend.Congruent Unhindered (failing faults) (backend (m := StateM Session)) where
  pure := unhindered_pure
  throw := unhindered_throw
  bind h hnext := h.bind hnext
  askOrganizations request onError _ := unhindered_answered (eased_organizations request) onError
  askSectors request onError _ := unhindered_answered (eased_sectors request) onError
  newCode := fun _ _ => .inr rfl
  reported operation _ _ h := h.reported operation
  transaction operation _ _ h := h.transaction operation

/-- A call that is not refused, whatever steps might have failed, is the call that it is where
nothing keeps the database from being written. -/
theorem call_freed (s : Session) (faults : Faults) (mutation : Mutation) :
    (∃ error, (s.callFailing faults mutation).1 = .error (.refused error)) ∨
      s.freed.call mutation =
        ((s.callFailing faults mutation).1, (s.callFailing faults mutation).2.freed) :=
  unhindered_congruent.perform mutation s 0

/-! ## Where no step fails -/

/-- An action is the plain one, but for the count of its steps. -/
def Plainly (action : Serving Trial α) (plain : Serving (StateM Session) α) : Prop :=
  ∀ (s : Session) (n : Nat), ∃ n', s.attempt n action = (((s.run plain).1, n'), (s.run plain).2)

theorem plainly_step {ε : Type} (step : StateM Session (Except ε α)) :
    Plainly (liftM (failingStep (fun _ => none) step)) (liftM step) :=
  fun _ n => ⟨n + 1, rfl⟩

theorem plainly_elementary :
    Backend.Elementary Plainly (failing {}) (backend (m := StateM Session)) where
  pure a := fun _ n => ⟨n, rfl⟩
  throw failure := fun _ n => ⟨n, rfl⟩
  bind {_ _ action plain next plainNext} h hnext := by
    intro s n
    obtain ⟨n', hfirst⟩ := h s n
    rw [attempt_bind, hfirst, run_bind]
    cases s.run plain with
    | mk result s' =>
      cases result with
      | error failure => exact ⟨n', rfl⟩
      | ok a => exact hnext a s' n'
  ending {_ action plain} h := by
    intro s n
    obtain ⟨n', hbody⟩ := h s n
    rw [attempt_ending, hbody, run_ending]
    exact ⟨n', rfl⟩
  organizations request := plainly_step _
  sectors request := plainly_step _
  newCode := fun _ n => ⟨n, rfl⟩
  emit event := fun _ n => ⟨n, rfl⟩
  transact step := by
    cases step with
    | abandon => exact fun _ n => ⟨n, rfl⟩
    | _ => exact plainly_step _

theorem callFailing_none (s : Session) (mutation : Mutation) :
    s.callFailing {} mutation = s.call mutation := by
  obtain ⟨n', hcall⟩ := plainly_elementary.congruent.perform mutation s 0
  rw [callFailing, hcall]
  rfl

end Session

end SectorForest
