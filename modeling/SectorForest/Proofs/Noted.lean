import SectorForest.Proofs.Follow
import SectorForest.Proofs.Grounded

/-!
# Clients that note what they are refused

`Session.stepwiseNoted` is the backend of a client that takes its steps one by one and notes every
request that the database does not answer: the error, and what the database held. Without the notes
the service is what it is otherwise, `Session.forgets_congruent`.

`Session.Honest` says of an operation that it tells its caller of every code and label that it was
refused, whatever others change between its steps.
-/

namespace SectorForest

open Storage

variable {α β : Type}

/-- The error is a conflict of which `C` holds. -/
def ServiceError.IsConflict (C : Entity → TextField → String → Prop) (error : ServiceError) :
    Prop :=
  ∃ entity field value, error = .conflict entity field value ∧ C entity field value

/-- A request that the database has not answered. -/
structure Refusal where
  /-- What the database held. -/
  found : Database
  error : StoreError

/-- What is done step by step while refusals are noted. -/
abbrev Noted := StateT (List Refusal) (Process Session)

namespace Session

/-- Ask for something in one step, and note it if there is no answer. -/
def noted (answer : Session → Except StoreError α × Session) : Noted (Except StoreError α) :=
  fun refusals => .takes (fun s => (answer s).2) fun s =>
    match (answer s).1 with
    | .ok a => .ends (.ok a, refusals)
    | .error error => .ends (.error error, refusals ++ [{ found := s.connection.database, error }])

/-- The backend over a session, step by step, with refusals noted. -/
def stepwiseNoted : Backend Noted where
  organizations request := noted (act request.answer)
  sectors request := noted (act request.answer)
  transact step := liftM (stepwise.transact step)
  newCode := liftM stepwise.newCode
  emit event := liftM (stepwise.emit event)

/-- The steps of what the service does, from some notes on. -/
def steps (action : Serving Noted α) (refusals : List Refusal) :
    Process Session (Except Failure α × List Refusal) :=
  StateT.run action.run refusals

variable {refusals : List Refusal}

theorem steps_bind (action : Serving Noted α) (next : α → Serving Noted β) :
    steps (action >>= next) refusals = (steps action refusals).bind fun
      | (.ok a, refusals) => steps (next a) refusals
      | (.error failure, refusals) => .ends (.error failure, refusals) := by
  refine congrArg (Process.bind _) ?_
  funext ⟨result, refusals⟩
  cases result <;> rfl

theorem steps_ending (action : Serving Noted α) (next : Except Failure α → Serving Noted β) :
    steps (SectorForest.ending action >>= next) refusals =
      (steps action refusals).bind fun (result, refusals) => steps (next result) refusals := by
  rw [steps_bind]
  exact Process.bind_assoc (steps action refusals) _ _

/-! ## Without the notes -/

/-- Without its notes, `action` is `action'`. -/
def Forgets (action : Serving Noted α) (action' : Serving (Process Session) α) : Prop :=
  ∀ refusals, (steps action refusals).bind (fun p => .ends p.1) = action'.run

section Forgets

variable {action : Serving Noted α} {action' : Serving (Process Session) α}

theorem Forgets.bind {next : α → Serving Noted β} {next' : α → Serving (Process Session) β}
    (h : Forgets action action') (hnext : ∀ a, Forgets (next a) (next' a)) :
    Forgets (action >>= next) (action' >>= next') := by
  intro refusals
  show _ = action'.run.bind (ExceptT.bindCont next')
  rw [steps_bind, ← h refusals, Process.bind_assoc, Process.bind_assoc]
  congr 1
  funext ⟨result, refusals⟩
  cases result with
  | error failure => rfl
  | ok a => exact hnext a refusals

theorem Forgets.ending (h : Forgets action action') :
    Forgets (SectorForest.ending action) (SectorForest.ending action') := by
  intro refusals
  show _ = action'.run.bind _
  rw [← h refusals, Process.bind_assoc]
  exact Process.bind_assoc (steps action refusals) _ _

theorem forgets_noted (answer : Session → Except StoreError α × Session) :
    Forgets (liftM (noted answer))
      (liftM (modifyGetThe Session answer : Process Session (Except StoreError α))) := by
  intro refusals
  show Process.takes _ _ = Process.takes _ _
  congr 1
  funext s
  cases hanswer : (answer s).1 <;> simp only [hanswer] <;> rfl

/-- Noting refusals makes no difference to the service. -/
theorem forgets_congruent : Backend.Congruent Forgets stepwiseNoted stepwise :=
  Backend.Elementary.congruent
    { pure := fun _ _ => rfl
      throw := fun _ _ => rfl
      bind := fun h hnext => h.bind hnext
      ending := fun h => h.ending
      organizations := fun _ => forgets_noted _
      sectors := fun _ => forgets_noted _
      transact := fun _ _ => rfl
      newCode := fun _ => rfl
      emit := fun _ _ => rfl }

end Forgets

/-! ## Sessions that work on records -/

/-- The session has the given source of codes and may write, and it works on sound records, also if
its transaction is undone. -/
structure Sane (codes : Nat → String) (s : Session) : Prop where
  codes_eq : s.codes = codes
  free : s.connection.writeFault? .main = none
  database : s.connection.database.Sound
  saved : ∀ db, s.connection.saved = some db → db.Sound

section Sane

variable {codes : Nat → String} {s : Session}

theorem Sane.grounded (h : Sane codes s) : s.connection.Grounded :=
  ⟨h.database, h.saved⟩

/-- The database and the open transaction may be others that are as good. -/
theorem Sane.frame (h : Sane codes s) {c : Connection} (hgrounded : c.Grounded)
    (hframe : ∃ database saved, c = { s.connection with database, saved }) :
    Sane codes { s with connection := c } := by
  obtain ⟨_, _, rfl⟩ := hframe
  exact ⟨h.codes_eq, h.free, hgrounded.database, hgrounded.saved⟩

theorem Sane.transact (h : Sane codes s) (step : TransactionStep) :
    Sane codes (act (Connection.transact step) s).2 :=
  h.frame (h.grounded.transact step) (Connection.transact_frame step)

theorem Sane.change (h : Sane codes s) {change : Except Fault (α × Records)}
    (hsound : ∀ a r, change = .ok (a, r) → r.Sound) :
    Sane codes { s with connection := (s.connection.change change).2 } :=
  h.frame (h.grounded.change hsound) (Connection.change_frame change)

/-- A client finds other sound records when its turn comes. -/
theorem Sane.holding (h : Sane codes s) {r : Records} (hr : r.Sound) :
    Sane codes (s.holding r.database) :=
  ⟨h.codes_eq, h.free, ⟨r, hr, rfl⟩, h.saved⟩

end Sane

/-! ## Operations that tell what they were refused -/

/-- An answer meets `V` and comes without refusals. A failure is the conflict over any code or label
that was refused because it is taken; `C` says which conflicts there can be, as the database was. -/
def Explained (C : Records → Entity → TextField → String → Prop) (V : α → Prop) :
    Except Failure α × List Refusal → Prop
  | (.ok a, refusals) => V a ∧ refusals = []
  | (.error failure, refusals) => ∀ refusal ∈ refusals, refusal.error.uniqueDetail? ≠ none →
    ∃ error, failure = .refused error ∧ error.IsConflict (C refusal.found.records)

/-- Whatever a client finds on its way, what it comes to explains what it was refused. -/
structure Honest (codes : Nat → String) (C : Records → Entity → TextField → String → Prop)
    (V : α → Prop) (action : Serving Noted α) : Prop where
  steps_under : (steps action []).Under (Sane codes) (Explained C V)

/-- What is done after a failure notes nothing and fails in the same way. -/
def Passes (codes : Nat → String) (failure : Failure) (action : Serving Noted α) : Prop :=
  ∀ refusals, (steps action refusals).Under (Sane codes) (· = (.error failure, refusals))

section Honest

variable {codes : Nat → String} {C : Records → Entity → TextField → String → Prop}
  {V : α → Prop} {V' : β → Prop} {action : Serving Noted α} {failure : Failure}

theorem honest_pure {a : α} (h : V a) : Honest codes C V (pure a) :=
  ⟨h, rfl⟩

theorem honest_throw (failure : Failure) : Honest codes C V (throw failure) where
  steps_under := by
    intro refusal hrefusal
    cases hrefusal

theorem honest_refuse (error : ServiceError) : Honest codes C V (refuse error) :=
  honest_throw _

theorem Honest.bind {next : α → Serving Noted β} (h : Honest codes C V action)
    (hnext : ∀ a, V a → Honest codes C V' (next a)) : Honest codes C V' (action >>= next) := by
  refine ⟨?_⟩
  rw [steps_bind]
  refine h.steps_under.bind ?_
  rintro ⟨failure | a, refusals⟩ hexplained
  · exact hexplained
  · obtain ⟨ha, rfl⟩ := hexplained
    exact (hnext a ha).steps_under

theorem Honest.ending {next : Except Failure α → Serving Noted β} (h : Honest codes C V action)
    (hok : ∀ a, V a → Honest codes C V' (next (.ok a)))
    (hpass : ∀ failure, Passes codes failure (next (.error failure))) :
    Honest codes C V' (SectorForest.ending action >>= next) := by
  refine ⟨?_⟩
  rw [steps_ending]
  refine h.steps_under.bind ?_
  rintro ⟨failure | a, refusals⟩ hexplained
  · refine (hpass failure refusals).mono ?_
    rintro _ rfl
    exact hexplained
  · obtain ⟨ha, rfl⟩ := hexplained
    exact (hok a ha).steps_under

theorem honest_normalized (field : TextField) (text : String) :
    Honest codes C (fun chosen => normalize field text = .ok chosen)
      (Backend.normalized field text) := by
  rw [Backend.normalized]
  cases normalize field text with
  | ok chosen => exact honest_pure rfl
  | error error => exact honest_refuse error

theorem honest_found {entity : Entity} {key : String} {value : Option α}
    (h : ∀ a, value = some a → V a) : Honest codes C V (Backend.found entity key value) := by
  cases value with
  | some a => exact honest_pure (h a rfl)
  | none => exact honest_refuse _

theorem Honest.unlessTaken {taken : Prop} [Decidable taken] {error : ServiceError}
    {next : Unit → Serving Noted α} (h : Honest codes C V (next ())) :
    Honest codes C V
      (if taken then (do let done ← SectorForest.refuse error; next done) else next ()) := by
  split
  · exact honest_refuse error
  · exact h

theorem honest_newCode :
    Honest codes C (fun code => ∃ n, codes n = code) (liftM stepwiseNoted.newCode) :=
  ⟨fun s hs => ⟨⟨hs.codes_eq, hs.free, hs.database, hs.saved⟩,
    ⟨s.codesTaken, (congrFun hs.codes_eq s.codesTaken).symm⟩, rfl⟩⟩

theorem passes_throw : Passes codes failure (throw failure : Serving Noted α) :=
  fun _ => rfl

theorem Passes.transact (step : TransactionStep) {next : Except Fault Unit → Serving Noted α}
    (h : ∀ outcome, Passes codes failure (next outcome)) :
    Passes codes failure (liftM (stepwiseNoted.transact step) >>= next) :=
  fun refusals _ hs => ⟨hs.transact step, h _ refusals⟩

theorem Passes.emit (event : Event) {next : Unit → Serving Noted α}
    (h : Passes codes failure (next ())) :
    Passes codes failure (liftM (stepwiseNoted.emit event) >>= next) :=
  fun refusals _ hs => ⟨⟨hs.codes_eq, hs.free, hs.database, hs.saved⟩, h refusals⟩

theorem honest_transact (step : TransactionStep) :
    Honest codes C (fun _ => True) (liftM (stepwiseNoted.transact step)) :=
  ⟨fun _ hs => ⟨hs.transact step, trivial, rfl⟩⟩

theorem honest_emit (event : Event) :
    Honest codes C (fun _ => True) (liftM (stepwiseNoted.emit event)) :=
  ⟨fun _ hs => ⟨⟨hs.codes_eq, hs.free, hs.database, hs.saved⟩, trivial, rfl⟩⟩

theorem Honest.reported (operation : String) (h : Honest codes C V action) :
    Honest codes C V (stepwiseNoted.reported operation action) := by
  unfold Backend.reported
  apply h.ending
  · intro a ha
    exact (honest_emit _).bind fun _ _ => honest_pure ha
  · rintro (error | _)
    · exact .emit _ passes_throw
    · exact passes_throw

theorem Honest.transaction (operation : String) (h : Honest codes C V action) :
    Honest codes C V (stepwiseNoted.transaction operation action) := by
  unfold Backend.transaction
  apply (honest_transact .start).bind
  rintro (fault | ⟨⟩) _
  · exact honest_refuse _
  apply h.ending
  · intro a ha
    apply (honest_transact .commit).bind
    rintro (fault | ⟨⟩) _
    · exact (honest_transact .abandon).bind fun _ _ => honest_refuse _
    · exact (honest_emit _).bind fun _ _ => honest_pure ha
  · rintro (error | _)
    · apply Passes.transact .rollback
      rintro (fault | ⟨⟩)
      · apply Passes.transact .abandon
        intro _
        exact .emit _ (.emit _ passes_throw)
      · exact .emit _ passes_throw
    · exact .transact .abandon fun _ => passes_throw

/-! Requests -/

variable {answer : StoreAction α} {onError : StoreError → ServiceError}

/-- A request whose refusals are explained. -/
theorem honest_answered
    (hsane : ∀ s, Sane codes s → Sane codes (act answer s).2)
    (hok : ∀ s, Sane codes s → ∀ a, (act answer s).1 = .ok a → V a)
    (herror : ∀ s, Sane codes s → ∀ error, (act answer s).1 = .error error →
      error.uniqueDetail? ≠ none → (onError error).IsConflict (C s.connection.database.records)) :
    Honest codes C V (Backend.answered (noted (act answer)) onError) := by
  refine ⟨fun s hs => ⟨hsane s hs, ?_⟩⟩
  cases hanswer : (act answer s).1 with
  | ok a =>
    simp only [hanswer]
    exact ⟨hok s hs a hanswer, rfl⟩
  | error error =>
    simp only [hanswer]
    intro refusal hrefusal hunique
    obtain rfl := List.mem_singleton.mp hrefusal
    exact ⟨_, rfl, herror s hs error hanswer hunique⟩

/-- A request that only looks at records, and what is done with its answer. -/
theorem Honest.look {view : Records → α} {next : α → Serving Noted β}
    (hanswer : ∀ r : Records, r.Sound → ∀ c : Connection, c.database = r.database →
      answer c = (.ok (view r), c))
    (hnext : ∀ r : Records, r.Sound → Honest codes C V' (next (view r))) :
    Honest codes C V' (Backend.answered (noted (act answer)) onError >>= next) := by
  have hact (s : Session) (hs : Sane codes s) :
      ∃ r : Records, r.Sound ∧ act answer s = (.ok (view r), s) := by
    obtain ⟨r, hr, hdatabase⟩ := hs.database
    refine ⟨r, hr, ?_⟩
    rw [act, hanswer r hr _ hdatabase]
  apply Honest.bind (V := fun a => ∃ r : Records, r.Sound ∧ view r = a)
  · apply honest_answered <;> intro s hs <;> obtain ⟨r, hr, hact⟩ := hact s hs <;> rw [hact]
    · exact hs
    · rintro a ⟨⟩
      exact ⟨r, hr, rfl⟩
    · rintro error ⟨⟩
  · rintro _ ⟨r, hr, rfl⟩
    exact hnext r hr

/-- A request that changes records, and is refused by its table for a reason that is told. -/
theorem Honest.change {change : Records → Except Fault (α × Records)}
    (hanswer : ∀ r : Records, r.Sound → ∀ c : Connection, c.database = r.database →
      answer c = c.change (change r))
    (hsound : ∀ r a r', r.Sound → change r = .ok (a, r') → r'.Sound)
    (hfault : ∀ r fault, r.Sound → change r = .error fault → fault.uniqueDetail? ≠ none →
      (onError (.ofFault fault)).IsConflict (C r)) :
    Honest codes C (fun _ => True) (Backend.answered (noted (act answer)) onError) := by
  have hact (s : Session) (hs : Sane codes s) : ∃ r : Records, r.Sound ∧
      s.connection.database = r.database ∧ act answer s =
        ((s.connection.change (change r)).1,
          { s with connection := (s.connection.change (change r)).2 }) := by
    obtain ⟨r, hr, hdatabase⟩ := hs.database
    refine ⟨r, hr, hdatabase, ?_⟩
    rw [act, hanswer r hr _ hdatabase]
  apply honest_answered
  · intro s hs
    obtain ⟨r, hr, -, hact⟩ := hact s hs
    rw [hact]
    exact hs.change fun a r' => hsound r a r' hr
  · exact fun _ _ _ _ => trivial
  · intro s hs error herror hunique
    obtain ⟨r, hr, hdatabase, hact⟩ := hact s hs
    rw [hdatabase, Records.records_database hr.readable]
    have hchange : (s.connection.change (change r)).1 =
        ((change r).map Prod.fst).mapError StoreError.ofFault := by
      simp only [Connection.change, hs.free]
      cases change r with
      | ok p => rfl
      | error fault => cases fault <;> rfl
    rw [hact] at herror
    dsimp only at herror
    rw [hchange] at herror
    cases hrefused : change r with
    | ok p => rw [hrefused] at herror; cases herror
    | error fault =>
      rw [hrefused] at herror
      cases herror
      exact hfault r fault hr hrefused hunique

end Honest

end Session

end SectorForest
