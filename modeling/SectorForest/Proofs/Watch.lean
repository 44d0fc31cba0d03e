import SectorForest.Proofs.Congruence
import SectorForest.Proofs.Run

/-!
# What the stores answer behind the scenes

`Backend.watched` notes the errors of all requests that are not answered while the service works,
also of those inside a transaction. Watching changes nothing of what a call does, and an error that
is no violation of uniqueness is always what the call ends in: `Session.tells_congruent`. So the
ending of a call tells which faults the database has met in it.
-/

namespace SectorForest

open Storage

variable {α β : Type}

/-- Note the error of a request that is not answered. -/
def noting {m : Type → Type} [Monad m] (answer : m (Except StoreError α)) :
    StateT (List StoreError) m (Except StoreError α) := fun errors => do
  match ← answer with
  | .ok a => pure (.ok a, errors)
  | .error error => pure (.error error, errors ++ [error])

/-- The backend with the errors of requests noted. -/
def Backend.watched {m : Type → Type} [Monad m] (b : Backend m) :
    Backend (StateT (List StoreError) m) where
  organizations request := noting (b.organizations request)
  sectors request := noting (b.sectors request)
  transact step := liftM (b.transact step)
  newCode := liftM b.newCode
  emit event := liftM (b.emit event)

/-- What the service does over a session while it is watched. -/
abbrev Watch := StateT (List StoreError) (StateM Session)

namespace Session

/-- The watched backend over a session. -/
abbrev watched : Backend Watch :=
  (backend (m := StateM Session)).watched

/-- The ending of what the service does from a session on while it is watched, the errors noted by
then, and the session afterwards. -/
def watch (s : Session) (errors : List StoreError) (action : Serving Watch α) :
    (Except Failure α × List StoreError) × Session :=
  StateT.run (StateT.run action.run errors) s

variable {s : Session} {errors : List StoreError}

theorem watch_bind (action : Serving Watch α) (next : α → Serving Watch β) :
    s.watch errors (action >>= next) =
      match s.watch errors action with
      | ((.ok a, errors'), s') => s'.watch errors' (next a)
      | ((.error failure, errors'), s') => ((.error failure, errors'), s') := by
  simp only [watch, ExceptT.run_bind, StateT.run_bind]
  cases StateT.run (StateT.run action.run errors) s with
  | mk p s' =>
    obtain ⟨_ | _, errors'⟩ := p <;> rfl

theorem watch_ending (action : Serving Watch α) :
    s.watch errors (ending action) =
      ((.ok (s.watch errors action).1.1, (s.watch errors action).1.2),
        (s.watch errors action).2) := by
  simp only [watch, ending, ExceptT.run_lift, StateT.run_map]
  rfl

/-- An error that is none of uniqueness is what an operation ends in. -/
def Surfaces (errors : List StoreError) (ending : Except Failure α) : Prop :=
  ∀ error ∈ errors, error.uniqueDetail? = none → ending = .error (.refused (.persistence error))

/-- Watching `action'` is running `action`, and what is noted surfaces. -/
def Tells (action : Serving Watch α) (action' : Serving (StateM Session) α) : Prop :=
  ∀ (s : Session) (errors : List StoreError), ∃ noted,
    s.watch errors action = (((s.run action').1, errors ++ noted), (s.run action').2) ∧
      Surfaces noted (s.run action').1

/-- A part that notes nothing. -/
def Silent (action : Serving Watch α) (action' : Serving (StateM Session) α) : Prop :=
  ∀ (s : Session) (errors : List StoreError),
    s.watch errors action = (((s.run action').1, errors), (s.run action').2)

theorem surfaces_nil (ending : Except Failure α) : Surfaces [] ending := by
  intro error herror
  cases herror

theorem Silent.tells {action : Serving Watch α} {action' : Serving (StateM Session) α}
    (h : Silent action action') : Tells action action' := by
  intro s errors
  refine ⟨[], ?_, surfaces_nil _⟩
  rw [List.append_nil]
  exact h s errors

/-- Where an answer was given, only violations of uniqueness have been noted. -/
theorem Surfaces.trans {noted noted' : List StoreError} {a : α} {ending : Except Failure β}
    (h : Surfaces noted (.ok a : Except Failure α)) (h' : Surfaces noted' ending) :
    Surfaces (noted ++ noted') ending := by
  intro error herror hother
  rcases List.mem_append.mp herror with herror | herror
  · cases h error herror hother
  · exact h' error herror hother

theorem Tells.bind {action : Serving Watch α} {action' : Serving (StateM Session) α}
    {next : α → Serving Watch β} {next' : α → Serving (StateM Session) β}
    (h : Tells action action') (hnext : ∀ a, Tells (next a) (next' a)) :
    Tells (action >>= next) (action' >>= next') := by
  intro s errors
  obtain ⟨noted, hwatch, hsurfaces⟩ := h s errors
  rw [watch_bind, hwatch, run_bind]
  cases hrun : s.run action' with
  | mk result s' =>
    rw [hrun] at hsurfaces
    cases result with
    | error failure => exact ⟨noted, rfl, fun error herror hother => by
        cases hsurfaces error herror hother
        rfl⟩
    | ok a =>
      obtain ⟨noted', hwatch', hsurfaces'⟩ := hnext a s' (errors ++ noted)
      refine ⟨noted ++ noted', ?_, hsurfaces.trans hsurfaces'⟩
      rw [← List.append_assoc]
      exact hwatch'

theorem Silent.bind {action : Serving Watch α} {action' : Serving (StateM Session) α}
    {next : α → Serving Watch β} {next' : α → Serving (StateM Session) β}
    (h : Silent action action') (hnext : ∀ a, Silent (next a) (next' a)) :
    Silent (action >>= next) (action' >>= next') := by
  intro s errors
  rw [watch_bind, h s errors, run_bind]
  cases s.run action' with
  | mk result s' =>
    cases result with
    | error failure => rfl
    | ok a => exact hnext a s' errors

theorem silent_pure (a : α) : Silent (pure a) (pure a) :=
  fun _ _ => rfl

theorem silent_throw (failure : Failure) :
    Silent (throw failure : Serving Watch α) (throw failure) :=
  fun _ _ => rfl

theorem silent_refuse (error : ServiceError) :
    Silent (refuse error : Serving Watch α) (refuse error) :=
  silent_throw _

theorem silent_transact (step : TransactionStep) :
    Silent (liftM (watched.transact step))
      (liftM ((backend (m := StateM Session)).transact step)) :=
  fun _ _ => rfl

theorem silent_emit (event : Event) :
    Silent (liftM (watched.emit event)) (liftM ((backend (m := StateM Session)).emit event)) :=
  fun _ _ => rfl

/-- What follows the ending of a part notes nothing and passes the error of a store on. -/
theorem Tells.ending {action : Serving Watch α} {action' : Serving (StateM Session) α}
    {next : Except Failure α → Serving Watch β}
    {next' : Except Failure α → Serving (StateM Session) β} (h : Tells action action')
    (hnext : ∀ result, Silent (next result) (next' result))
    (hpass : ∀ (s : Session) error, (s.run (next' (.error (.refused error)))).1 =
      .error (.refused error)) :
    Tells (SectorForest.ending action >>= next) (SectorForest.ending action' >>= next') := by
  intro s errors
  obtain ⟨noted, hwatch, hsurfaces⟩ := h s errors
  have hrun : s.run (SectorForest.ending action' >>= next') =
      (s.run action').2.run (next' (s.run action').1) := by
    rw [run_bind, run_ending]
  refine ⟨noted, ?_, fun error herror hother => ?_⟩
  · rw [watch_bind, watch_ending, hwatch, hrun]
    exact hnext _ _ _
  · rw [hrun, hsurfaces error herror hother]
    exact hpass _ _

theorem tells_answered {answer : StateM Session (Except StoreError α)}
    {onError : StoreError → ServiceError} (honError : Faithfully onError) :
    Tells (Backend.answered (noting answer) onError) (Backend.answered answer onError) := by
  intro s errors
  have hnoting : StateT.run (StateT.run (noting answer) errors) s =
      match (StateT.run answer s).1 with
      | .ok a => ((.ok a, errors), (StateT.run answer s).2)
      | .error error => ((.error error, errors ++ [error]), (StateT.run answer s).2) := by
    show StateT.run (noting answer errors) s = _
    rw [noting]
    simp only [StateT.run_bind]
    cases hanswer : StateT.run answer s with
    | mk result s' =>
      cases result <;> rfl
  have hwatch : s.watch errors (Backend.answered (noting answer) onError) =
      match (StateT.run answer s).1 with
      | .ok a => ((.ok a, errors), (StateT.run answer s).2)
      | .error error =>
        ((.error (.refused (onError error)), errors ++ [error]), (StateT.run answer s).2) := by
    unfold Backend.answered
    rw [watch_bind]
    have hlift : s.watch errors (liftM (noting answer)) =
        ((.ok (StateT.run (StateT.run (noting answer) errors) s).1.1,
          (StateT.run (StateT.run (noting answer) errors) s).1.2),
          (StateT.run (StateT.run (noting answer) errors) s).2) := rfl
    rw [hlift, hnoting]
    cases (StateT.run answer s).1 <;> rfl
  rw [hwatch, run_answered]
  cases (StateT.run answer s).1 with
  | ok a => exact ⟨[], by rw [List.append_nil]; rfl, surfaces_nil _⟩
  | error error =>
    refine ⟨[error], rfl, fun other hother hnone => ?_⟩
    rw [List.mem_singleton.mp hother] at hnone ⊢
    show Except.error (Failure.refused (onError error)) = _
    rw [honError error hnone]

theorem tells_reported (operation : String) {action : Serving Watch α}
    {action' : Serving (StateM Session) α} (h : Tells action action') :
    Tells (watched.reported operation action) (backend.reported operation action') := by
  unfold Backend.reported
  apply h.ending
  · rintro ((error | _) | a)
    · apply (silent_emit _).bind
      exact fun _ => silent_refuse error
    · exact silent_throw _
    · apply (silent_emit _).bind
      exact fun _ => silent_pure a
  · exact fun _ _ => rfl

theorem tells_transaction (operation : String) {body : Serving Watch α}
    {body' : Serving (StateM Session) α} (h : Tells body body') :
    Tells (watched.transaction operation body) (backend.transaction operation body') := by
  unfold Backend.transaction
  apply (silent_transact .start).tells.bind
  rintro (fault | ⟨⟩)
  · exact (silent_refuse _).tells
  apply h.ending
  · rintro ((error | _) | a)
    · apply (silent_transact .rollback).bind
      rintro (fault | ⟨⟩)
      · apply (silent_transact .abandon).bind
        intro _
        apply (silent_emit _).bind
        intro _
        apply (silent_emit _).bind
        exact fun _ => silent_refuse error
      · apply (silent_emit _).bind
        exact fun _ => silent_refuse error
    · apply (silent_transact .abandon).bind
      exact fun _ => silent_throw _
    · apply (silent_transact .commit).bind
      rintro (fault | ⟨⟩)
      · apply (silent_transact .abandon).bind
        exact fun _ => silent_refuse _
      · apply (silent_emit _).bind
        exact fun _ => silent_pure a
  · intro s error
    simp only [run_bind, run_transact]
    cases (Connection.transact .rollback s.connection).1 <;> rfl

/-- Watching the service is running it, and what is noted surfaces. -/
theorem tells_congruent : Backend.Congruent Tells watched (backend (m := StateM Session)) where
  pure a := (silent_pure a).tells
  throw failure := (silent_throw failure).tells
  bind h hnext := h.bind hnext
  askOrganizations _ _ h := tells_answered h
  askSectors _ _ h := tells_answered h
  newCode := Silent.tells fun _ _ => rfl
  reported operation _ _ h := tells_reported operation h
  transaction operation _ _ h := tells_transaction operation h

end Session

end SectorForest
