import SectorForest.Proofs.Atomicity
import SectorForest.Proofs.Client
import SectorForest.Proofs.Script

/-!
# Calls follow their scripts

`Session.Follows` says that what the service does step by step makes the same of a database, turn by
turn, as a script makes of the records, whatever records a turn finds there. Every call follows its
script: `Session.follows_perform`. From then on, what happens between clients is a matter of
records.

A turn that opens a transaction lasts until it is closed. So the body of a transaction is to be run
within one turn, and nothing that is left to do afterwards may touch the connection.
-/

namespace SectorForest

open Storage

variable {α β : Type}

/-- Where a change can be made outside a transaction, a fault leaves everything as it was. -/
theorem Storage.Connection.change_idle {c : Connection} (hsaved : c.saved = none)
    (hfree : c.writeFault? .main = none) (change : Except Fault (α × Records)) :
    c.change change = ((change.map Prod.fst).mapError StoreError.ofFault,
      match change with
      | .ok (_, r) => { c with database := r.database }
      | .error _ => c) := by
  simp only [Connection.change, hfree]
  cases change with
  | ok p => rfl
  | error fault =>
    cases fault with
    | full => exact congrArg _ (Connection.undone_idle hsaved)
    | _ => rfl

theorem Settled.altered_eq {base c : Connection} {r : Records}
    {plan : Except Failure (α × Records)} {result : Except Failure α}
    (h : Settled base (· = base) plan result c) (hbase : base.database = r.database)
    (hfree : base.writeFault? .main = none) :
    result = plan.map Prod.fst ∧
      c = { base with database := (Script.altered r plan).database } := by
  cases h with
  | done a r' => exact ⟨rfl, rfl⟩
  | refused failure c hrestored =>
    refine ⟨rfl, hrestored.trans ?_⟩
    rw [Script.altered, ← hbase]
  | blocked _ failure c _ hfault => exact absurd hfree hfault

namespace Session

/-! ## Following a script -/

/-- From a session on, a process of the service follows a script: whatever the database holds when
its turn comes, a turn either leaves that alone or makes of the records what the next step of the
script makes of them, and in the end both come to the same. -/
inductive Follows : Process Session (Except Failure α) → Session → Script α → Prop
  | ends (result : Except Failure α) (s : Session) : Follows (.ends result) s (.ends result)
  /-- A turn that is none of the database's business. -/
  | aside {step : Session → Session} {next : Session → Process Session (Except Failure α)}
    {s : Session} {script : Script α} (p' : Database → Process Session (Except Failure α))
    (s' : Database → Session) (hidle : ∀ db, (s' db).Idle)
    (hturn : ∀ db,
      (Process.takes step next).advance busy (s.holding db) = (p' db, (s' db).holding db))
    (h : ∀ db, Follows (p' db) (s' db) script) : Follows (.takes step next) s script
  /-- A turn that takes the next step of the script. -/
  | along {step : Session → Session} {next : Session → Process Session (Except Failure α)}
    {s : Session} {change : Records → Records} {rest : Records → Script α}
    (p' : Records → Process Session (Except Failure α)) (s' : Records → Session)
    (hidle : ∀ r : Records, r.Sound → (s' r).Idle)
    (hsound : ∀ r : Records, r.Sound → (change r).Sound)
    (hturn : ∀ r : Records, r.Sound →
      (Process.takes step next).advance busy (s.holding r.database) =
        (p' r, (s' r).holding (change r).database))
    (h : ∀ r : Records, r.Sound → Follows (p' r) (s' r) (rest r)) :
    Follows (.takes step next) s (.takes change rest)

variable {s : Session} {p : Process Session (Except Failure α)} {script : Script α}

theorem Idle.holding (h : s.Idle) (db : Database) : (s.holding db).Idle :=
  ⟨h.saved, h.contended, h.obstacle⟩

theorem Idle.busy_holding (h : s.Idle) (db : Database) : (s.holding db).busy = false := by
  have hsaved : (s.holding db).connection.saved = none := h.saved
  rw [busy, Connection.inTransaction, hsaved]
  rfl

theorem Idle.writeFault?_eq (h : s.Idle) : s.connection.writeFault? .main = none := by
  rw [Connection.writeFault?, h.obstacle, h.contended]
  rfl

/-- What the database holds when a session begins is not looked at. -/
theorem Follows.holding (h : Follows p s script) (db : Database) :
    Follows p (s.holding db) script := by
  cases h with
  | ends result _ => exact .ends result _
  | aside p' s' hidle hturn h => exact .aside p' s' hidle hturn h
  | along p' s' hidle hsound hturn h => exact .along p' s' hidle hsound hturn h

theorem holding_eq_self {db : Database} (h : s.connection.database = db) : s.holding db = s := by
  rw [← h]
  rfl

/-- A turn that takes the next step of the script, told by where it leads. -/
theorem Follows.turn {step : Session → Session}
    {next : Session → Process Session (Except Failure α)} {change : Records → Records}
    {rest : Records → Script α}
    (hturn : ∀ r : Records, r.Sound → ∃ p' s',
      (Process.takes step next).advance busy (s.holding r.database) = (p', s') ∧ s'.Idle ∧
        s'.connection.database = (change r).database ∧ Follows p' s' (rest r))
    (hsound : ∀ r : Records, r.Sound → (change r).Sound) :
    Follows (.takes step next) s (.takes change rest) := by
  refine .along (fun r => ((Process.takes step next).advance busy (s.holding r.database)).1)
    (fun r => ((Process.takes step next).advance busy (s.holding r.database)).2)
    (fun r hr => ?_) hsound (fun r hr => ?_) fun r hr => ?_ <;>
    obtain ⟨p', s', hadvance, hidle, hdatabase, hfollows⟩ := hturn r hr <;> rw [hadvance]
  · exact hidle
  · exact Prod.ext rfl (holding_eq_self hdatabase).symm
  · exact hfollows

/-- A turn of a client makes of the records what its script makes of them in one step, or in
none. -/
theorem Follows.script_turn (h : Follows p s script) {r : Records} (hr : r.Sound) :
    ∃ p' s' script' r', (Client.mk s p).turn r.database = (⟨s', p'⟩, r'.database) ∧
      Follows p' s' script' ∧ r'.Sound ∧
      (script' = script ∧ r' = r ∨
        ∃ change rest, script = .takes change rest ∧ script' = rest r ∧ r' = change r) := by
  cases h with
  | ends result s =>
    exact ⟨.ends result, s.holding r.database, .ends result, r, rfl, .ends _ _, hr, .inl ⟨rfl, rfl⟩⟩
  | @aside step next s script p' s' hidle hturn h =>
    refine ⟨p' r.database, (s' r.database).holding r.database, script, r, ?_, (h _).holding _, hr,
      .inl ⟨rfl, rfl⟩⟩
    rw [Client.turn, hturn]
    rfl
  | @along step next s change rest p' s' hidle hsound hturn h =>
    refine ⟨p' r, (s' r).holding (change r).database, rest r, change r, ?_, (h r hr).holding _,
      hsound r hr, .inr ⟨change, rest, rfl, rfl, rfl⟩⟩
    rw [Client.turn, hturn r hr]
    rfl

/-- Taken in one go, the process and the script come to the same. -/
theorem Follows.run_eq (h : Follows p s script) {r : Records} (hr : r.Sound) :
    ∃ s' : Session, p.run (s.holding r.database) =
      ((script.run r).1, s'.holding (script.run r).2.database) ∧ (script.run r).2.Sound := by
  induction h generalizing r with
  | ends result s => exact ⟨s, rfl, hr⟩
  | aside p' s' _ hturn _ ih =>
    rw [← Process.run_advance busy, hturn]
    exact ih r.database hr
  | along p' s' _ hsound hturn _ ih =>
    rw [← Process.run_advance busy, hturn r hr]
    exact ih r hr (hsound r hr)

/-- What comes next follows what comes next in the script. -/
theorem Follows.bind {k : Except Failure α → Process Session (Except Failure β)}
    {k' : Except Failure α → Script β} (h : Follows p s script) (hs : s.Idle)
    (hk : ∀ result s', s'.Idle → Follows (k result) s' (k' result)) :
    Follows (p.bind k) s (script.bind k') := by
  induction h with
  | ends result s => exact hk result s hs
  | aside p' s' hidle hturn _ ih =>
    refine .aside (fun db => (p' db).bind k) s' hidle (fun db => ?_) fun db => ih db (hidle db)
    exact Process.advance_bind k (hturn db) ((hidle db).busy_holding db)
  | along p' s' hidle hsound hturn _ ih =>
    refine .along (fun r => (p' r).bind k) s' hidle hsound (fun r hr => ?_)
      fun r hr => ih r hr (hidle r hr)
    exact Process.advance_bind k (hturn r hr) ((hidle r hr).busy_holding _)

/-! ## Parts of the service -/

section Parts

variable {next : α → Serving (Process Session) β} {next' : α → Script β}

theorem follows_pure (a : α) :
    Follows (pure a : Serving (Process Session) α).run s (Script.done a) :=
  .ends _ _

theorem follows_throw (failure : Failure) :
    Follows (throw failure : Serving (Process Session) α).run s (.ends (.error failure)) :=
  .ends _ _

theorem Follows.normalized {field : TextField} {text : String}
    {next : String → Serving (Process Session) β} {next' : String → Script β}
    (h : ∀ chosen, Follows (next chosen).run s (next' chosen)) :
    Follows (Backend.normalized field text >>= next).run s
      (Script.settle (chosenText field text) next') := by
  rw [Backend.normalized, chosenText]
  cases normalize field text with
  | ok chosen => exact h chosen
  | error error => exact follows_throw _

theorem Follows.found {entity : Entity} {key : String} {value : Option α}
    (h : ∀ a, value = some a → Follows (next a).run s (next' a)) :
    Follows (Backend.found entity key value >>= next).run s
      (Script.settle (need entity key value) next') := by
  cases value with
  | some a => exact h a rfl
  | none => exact follows_throw _

theorem Follows.unlessTaken {taken : Prop} [Decidable taken] {takenBy : Bool}
    (htaken : taken ↔ takenBy = true) {error : ServiceError}
    {next : Unit → Serving (Process Session) β} {script : Script β}
    (h : Follows (next ()).run s script) :
    Follows
      (if taken then (do let done ← SectorForest.refuse error; next done) else next ()).run s
      (Script.settle (SectorForest.unlessTaken takenBy error) fun _ => script) := by
  cases takenBy with
  | true =>
    rw [if_pos (htaken.mpr rfl)]
    exact follows_throw _
  | false =>
    rw [if_neg fun ht => Bool.false_ne_true (htaken.mp ht)]
    exact h

theorem follows_unlessMissing (count : Nat) (error : ServiceError) :
    Follows (if count = 0 then SectorForest.refuse error else pure () :
      Serving (Process Session) Unit).run s
      (Script.settle (Script.unlessMissing count error) Script.done) := by
  rw [Script.unlessMissing]
  split
  · exact follows_throw _
  · exact follows_pure ()

theorem answered_bind (answer : Session → Except StoreError α × Session)
    (onError : StoreError → ServiceError) (next : α → Serving (Process Session) β) :
    (Backend.answered (modifyGetThe Session answer) onError >>= next).run =
      .takes (fun s => (answer s).2) fun s =>
        match (answer s).1 with
        | .ok a => (next a).run
        | .error error => .ends (.error (.refused (onError error))) := by
  show Process.takes _ _ = Process.takes _ _
  congr 1
  funext s
  show Process.bind (Process.bind (Process.bind (.ends (Except.ok (answer s).1)) _) _) _ = _
  cases (answer s).1 <;> rfl

section Answered

variable (hs : s.Idle) {answer : StoreAction α} {onError : StoreError → ServiceError}
include hs

/-- A request that only looks at records. -/
theorem Follows.look {view : Records → α} {rest : Records → Script β}
    (hanswer : ∀ r : Records, r.Sound → ∀ c : Connection, c.database = r.database →
      answer c = (.ok (view r), c))
    (h : ∀ r : Records, r.Sound → Follows (next (view r)).run s (rest r)) :
    Follows (Backend.answered (modifyGetThe Session (act answer)) onError >>= next).run s
      (.takes id rest) := by
  rw [answered_bind]
  refine .along (fun r => (next (view r)).run) (fun _ => s) (fun _ _ => hs) (fun _ hr => hr)
    (fun r hr => ?_) h
  have hact : act answer (s.holding r.database) = (.ok (view r), s.holding r.database) := by
    rw [act, hanswer r hr _ rfl]
  rw [Process.advance, hact]
  exact Process.persist_idle _ (hs.busy_holding _)

/-- A request that changes records. -/
theorem Follows.change {change : Records → Except Fault (α × Records)}
    (hanswer : ∀ r : Records, r.Sound → ∀ c : Connection, c.database = r.database →
      answer c = c.change (change r))
    (hsound : ∀ r a r', r.Sound → change r = .ok (a, r') → r'.Sound)
    (h : ∀ a, Follows (next a).run s (next' a)) :
    Follows (Backend.answered (modifyGetThe Session (act answer)) onError >>= next).run s
      (Script.alter (fun r => carryOut (change r) onError) next') := by
  rw [answered_bind]
  refine .along (fun r => match change r with
      | .ok (a, _) => (next a).run
      | .error fault => .ends (.error (.refused (onError (.ofFault fault)))))
    (fun _ => s) (fun _ _ => hs) (fun r hr => ?_) (fun r hr => ?_) fun r hr => ?_
  · beta_reduce
    cases hchange : change r with
    | ok p => exact hsound r p.1 p.2 hr hchange
    | error fault => exact hr
  · have hanswer' : answer (s.holding r.database).connection = _ :=
      (hanswer r hr _ rfl).trans
        (Connection.change_idle (hs.holding r.database).saved (hs.holding r.database).writeFault?_eq
          (change r))
    rw [Process.advance, act, hanswer']
    beta_reduce
    cases change r with
    | ok p => exact Process.persist_idle _ (hs.busy_holding p.2.database)
    | error fault => exact Process.persist_idle _ (hs.busy_holding r.database)
  · beta_reduce
    cases change r with
    | ok p => exact h p.1
    | error fault => exact follows_throw _

end Answered

/-- Codes for new sectors are a matter of the session. -/
theorem Follows.newCode (hs : s.Idle) {next : String → Serving (Process Session) β}
    {script : Script β}
    (h : ∀ s' : Session, s'.Idle → Follows (next (s.codes s.codesTaken)).run s' script) :
    Follows (liftM stepwise.newCode >>= next).run s script := by
  have htaken : ({ s with codesTaken := s.codesTaken + 1 } : Session).Idle :=
    ⟨hs.saved, hs.contended, hs.obstacle⟩
  refine .aside (fun _ => (next (s.codes s.codesTaken)).run)
    (fun _ => { s with codesTaken := s.codesTaken + 1 }) (fun _ => htaken) (fun db => ?_)
    fun _ => h _ htaken
  exact Process.persist_idle _ (htaken.busy_holding db)

/-- An event is noted in the session, and then the process ends. -/
theorem follows_emit (hs : s.Idle) (event : Event) (result : Except Failure α) :
    Follows (.takes (record event) fun _ => .ends result) s (.ends result) := by
  refine .aside (fun _ => .ends result) (fun _ => s.record event)
    (fun _ => ⟨hs.saved, hs.contended, hs.obstacle⟩) (fun db => rfl) fun _ => .ends result _

/-- Note how an operation has ended. -/
def report (operation : String) : Except Failure α → Process Session (Except Failure α)
  | .ok a => .takes (record (.succeeded operation)) fun _ => .ends (.ok a)
  | .error (.refused error) =>
    .takes (record (.refused operation error)) fun _ => .ends (.error (.refused error))
  | .error .tooDeep => .ends (.error .tooDeep)

theorem Follows.reported {action : Serving (Process Session) α} {operation : String}
    {script : Script α} (hs : s.Idle) (h : Follows action.run s script) :
    Follows (stepwise.reported operation action).run s script := by
  have hreport : Follows (action.run.bind (report operation)) s (script.bind .ends) := by
    refine h.bind hs fun result s' hs' => ?_
    rcases result with (error | _) | a
    · exact follows_emit hs' _ _
    · exact .ends _ _
    · exact follows_emit hs' _ _
  rw [Process.bind_ends] at hreport
  have hrun : (stepwise.reported operation action).run = action.run.bind (report operation) := by
    refine (Process.bind_assoc action.run _ _).trans (congrArg action.run.bind ?_)
    funext result
    rcases result with (error | _) | a <;> rfl
  rw [hrun]
  exact hreport

end Parts

/-! ## Transactions -/

section Transactions

variable {operation : String} {result : Except Failure α}

/-- A process that is let alone in an open transaction goes on in it, or is refused at once. -/
def Uninterrupted : Process Session (Except Failure α) → Prop
  | .ends _ => True
  | .takes step next => ∀ s : Session, s.busy = true →
    ((step s).busy = true ∧ Uninterrupted (next s)) ∨
      ∃ error, next s = .ends (.error (.refused error))

/-- Outside a transaction, a process does nothing to the connection and ends as given. -/
def Mute (result : Except Failure α) : Process Session (Except Failure α) → Prop
  | .ends result' => result' = result
  | .takes step next => ∀ s : Session, s.busy = false →
    (step s).connection = s.connection ∧ Mute result (next s)

theorem Uninterrupted.persist_eq (h : Uninterrupted p) (hs : s.busy = true) :
    p.persist busy s = (.ends (p.run s).1, (p.run s).2) ∧
      ((p.run s).2.busy = false → ∃ error, (p.run s).1 = .error (.refused error)) := by
  induction p generalizing s with
  | ends result => exact ⟨rfl, fun hidle => absurd (hs.symm.trans hidle) Bool.noConfusion⟩
  | takes step next ih =>
    rw [Process.persist, if_pos hs, Process.run]
    rcases h s hs with ⟨hbusy, hnext⟩ | ⟨error, herror⟩
    · exact ih s hnext hbusy
    · rw [herror]
      exact ⟨rfl, fun _ => ⟨error, rfl⟩⟩

theorem Mute.run_eq (h : Mute result p) (hs : s.busy = false) :
    (p.run s).1 = result ∧ (p.run s).2.connection = s.connection := by
  induction p generalizing s with
  | ends result' => exact ⟨h, rfl⟩
  | takes step next ih =>
    obtain ⟨hconnection, hnext⟩ := h s hs
    have hidle : (step s).busy = false := by
      rw [busy, hconnection]
      exact hs
    rw [← hconnection]
    exact ih s hnext hidle

theorem Mute.follows (h : Mute result p) (hs : s.Idle) : Follows p s (.ends result) := by
  induction p generalizing s with
  | ends result' =>
    rw [h]
    exact .ends _ _
  | takes step next ih =>
    have hconnection (db : Database) :
        (step (s.holding db)).connection = (s.holding db).connection :=
      (h _ (hs.busy_holding db)).1
    have hsame (db : Database) : (step (s.holding db)).holding db = step (s.holding db) :=
      holding_eq_self (congrArg Connection.database (hconnection db))
    have hidle (db : Database) : (step (s.holding db)).Idle := by
      obtain ⟨hsaved, hcontended, hobstacle⟩ := hs.holding db
      rw [← hconnection db] at hsaved hcontended hobstacle
      exact ⟨hsaved, hcontended, hobstacle⟩
    refine .aside (fun db => next (s.holding db)) (fun db => step (s.holding db)) hidle
      (fun db => ?_) fun db => ih _ (h _ (hs.busy_holding db)).2 (hidle db)
    rw [Process.advance, hsame]
    refine Process.persist_idle _ ?_
    rw [busy, hconnection]
    exact hs.busy_holding db

/-- What is done when the body of a transaction has ended. -/
def closing (operation : String) : Except Failure α → Serving (Process Session) α
  | .ok value => do
    match ← stepwise.transact .commit with
    | .ok () =>
      stepwise.emit (.committed operation)
      pure value
    | .error fault =>
      let _ ← stepwise.transact .abandon
      refuse (.ofFault fault)
  | .error (.refused error) => do
    match ← stepwise.transact .rollback with
    | .ok () => pure ()
    | .error fault =>
      let _ ← stepwise.transact .abandon
      stepwise.emit (.rollbackFailed operation fault)
    stepwise.emit (.rolledBack operation error)
    refuse error
  | .error .tooDeep => do
    let _ ← stepwise.transact .abandon
    throw .tooDeep

theorem transaction_run (body : Serving (Process Session) α) :
    (stepwise.transaction operation body).run =
      .takes (fun s => (act Connection.beginImmediate s).2) fun s =>
        match (act Connection.beginImmediate s).1 with
        | .ok () => body.run.bind fun result => (closing operation result).run
        | .error fault => .ends (.error (.refused (.ofFault fault))) := by
  show Process.takes _ _ = Process.takes _ _
  congr 1
  funext s
  show Process.bind (.ends (Except.ok (act Connection.beginImmediate s).1)) _ = _
  cases (act Connection.beginImmediate s).1 with
  | error fault => rfl
  | ok _ => exact Process.bind_assoc body.run _ _

theorem transact_bind (step : TransactionStep)
    (next : Except Fault Unit → Serving (Process Session) α) :
    (liftM (stepwise.transact step) >>= next).run =
      .takes (fun s => (act (Connection.transact step) s).2) fun s =>
        (next (act (Connection.transact step) s).1).run :=
  rfl

/-- The turn of a transaction is over with the step that closes it. -/
theorem persist_transact (step : TransactionStep) {outcome : Except Fault Unit} {c : Connection}
    (next : Except Fault Unit → Serving (Process Session) α) (hs : s.busy = true)
    (hstep : Connection.transact step s.connection = (outcome, c)) (hclosed : c.saved = none) :
    (liftM (stepwise.transact step) >>= next).run.persist busy s =
      ((next outcome).run, { s with connection := c }) := by
  have hact : act (Connection.transact step) s = (outcome, { s with connection := c }) := by
    rw [act, hstep]
  rw [transact_bind, Process.persist, if_pos hs, hact]
  refine Process.persist_idle _ ?_
  rw [busy, Connection.inTransaction, hclosed]
  rfl

variable (operation result) in
/-- A transaction that is open is closed in the same turn, and what is left then is mute. -/
theorem closing_busy (hs : s.busy = true) : ∃ p' s',
    (closing operation result).run.persist busy s = (p', s') ∧ s'.busy = false ∧
      Mute result p' := by
  have hopen : s.connection.inTransaction = true := hs
  have hrollback := Connection.transact_rollback hopen
  have hcommit := Connection.transact_commit hopen
  rcases result with (error | _) | a
  · exact ⟨_, _, persist_transact .rollback _ hs hrollback rfl, rfl, fun _ _ => ⟨rfl, rfl⟩⟩
  · exact ⟨_, _, persist_transact .abandon _ hs rfl rfl, rfl, rfl⟩
  · exact ⟨_, _, persist_transact .commit _ hs hcommit rfl, rfl, fun _ _ => ⟨rfl, rfl⟩⟩

theorem Mute.transact (step : TransactionStep)
    {next : Except Fault Unit → Serving (Process Session) α}
    (h : ∀ s : Session, s.busy = false → ∃ outcome,
      Connection.transact step s.connection = (outcome, s.connection) ∧
        Mute result (next outcome).run) :
    Mute result (liftM (stepwise.transact step) >>= next).run := by
  intro s hs
  obtain ⟨outcome, hstep, hnext⟩ := h s hs
  have hact : act (Connection.transact step) s = (outcome, s) := by
    rw [act, hstep]
  show (act (Connection.transact step) s).2.connection = _ ∧ Mute result (next (act _ s).1).run
  rw [hact]
  exact ⟨rfl, hnext⟩

/-- Where no transaction is open any more, what is done after a refusal is mute. -/
theorem mute_closing (error : ServiceError) : Mute (.error (.refused error))
    (closing operation (.error (.refused error) : Except Failure α)).run := by
  apply Mute.transact .rollback
  intro s hs
  have hclosed : s.connection.inTransaction = false := hs
  refine ⟨.error (.noTransaction "rollback"), Connection.transact_rollback_closed hclosed, ?_⟩
  apply Mute.transact .abandon
  intro s hs
  have hsaved : s.connection.saved = none := by
    simpa [busy, Connection.inTransaction] using hs
  refine ⟨.ok (), ?_, fun _ _ => ⟨rfl, fun _ _ => ⟨rfl, rfl⟩⟩⟩
  exact congrArg (Prod.mk _) (Connection.undone_idle hsaved)

variable (operation) in
/-- A transaction is one turn. -/
theorem transaction_turn {body : Serving (Process Session) α} (hbody : Uninterrupted body.run)
    (hs : s.Idle) : ∃ p' s',
    (stepwise.transaction operation body).run.advance busy s = (p', s') ∧ s'.busy = false ∧
      Mute (Process.run (stepwise.transaction operation body).run s).1 p' := by
  have hstart : act Connection.beginImmediate s = (.ok (), s.opened) := by
    simp [act, Connection.beginImmediate, Connection.inTransaction, hs.saved, hs.contended, opened]
  obtain ⟨hpersist, hrefused⟩ := hbody.persist_eq (s := s.opened) rfl
  -- the body is run within the turn
  have hturn : (stepwise.transaction operation body).run.advance busy s =
      (closing operation (Process.run body.run s.opened).1).run.persist busy
        (Process.run body.run s.opened).2 := by
    rw [transaction_run, Process.advance, hstart]
    exact Process.persist_bind_ends _ hpersist
  have hrun : Process.run (stepwise.transaction operation body).run s =
      Process.run (closing operation (Process.run body.run s.opened).1).run
        (Process.run body.run s.opened).2 := by
    rw [transaction_run, Process.run, hstart]
    exact Process.run_bind _ _ _
  rw [hturn, hrun]
  cases hopen : (Process.run body.run s.opened).2.busy with
  | true =>
    obtain ⟨p', s', hclosing, hclosed, hmute⟩ :=
      closing_busy operation (Process.run body.run s.opened).1 hopen
    refine ⟨p', s', hclosing, hclosed, ?_⟩
    rw [← Process.run_persist busy, hclosing, (hmute.run_eq hclosed).1]
    exact hmute
  | false =>
    -- the body has ended the transaction and was refused
    obtain ⟨error, herror⟩ := hrefused hopen
    rw [herror, Process.persist_idle _ hopen, ((mute_closing error).run_eq hopen).1]
    exact ⟨_, _, rfl, hopen, mute_closing error⟩

/-- A transaction that carries out a plan is one change of the records. -/
theorem Follows.transaction {body : Serving (Process Session) α}
    {body' : Serving (StateM Session) α} {change : Records → Except Failure (α × Records)}
    (hs : s.Idle) (hbody : Uninterrupted body.run) (hruns : Runs body body')
    (hsettles : ∀ r : Records, r.Sound → ∀ s : Session, s.connection.saved = none →
      s.connection.database = r.database →
      s.Settles s.connection (· = s.connection) (backend.transaction operation body') (change r))
    (hsound : ∀ r a r', r.Sound → change r = .ok (a, r') → r'.Sound) :
    Follows (stepwise.transaction operation body).run s (Script.alter change Script.done) := by
  have hturn (r : Records) (hr : r.Sound) : ∃ p' s',
      (stepwise.transaction operation body).run.advance busy (s.holding r.database) = (p', s') ∧
        s'.Idle ∧ s'.connection.database = (Script.altered r (change r)).database ∧
        Follows p' s' (Script.settle ((change r).map Prod.fst) Script.done) := by
    have hidle := hs.holding r.database
    obtain ⟨p', s', hadvance, hclosed, hmute⟩ :=
      transaction_turn operation hbody hidle
    have hrun : p'.run s' = (s.holding r.database).run (backend.transaction operation body') := by
      rw [← runs_elementary.transaction operation hruns, ← Process.run_advance busy _ (s.holding _),
        hadvance]
    obtain ⟨hresult, hafter⟩ :=
      (hsettles r hr (s.holding r.database) hidle.saved rfl).altered_eq rfl hidle.writeFault?_eq
    rw [runs_elementary.transaction operation hruns, hresult] at hmute
    obtain ⟨-, hconnection⟩ := hmute.run_eq hclosed
    rw [hrun, hafter] at hconnection
    have hidle' : s'.Idle := by
      obtain ⟨hsaved, hcontended, hobstacle⟩ := hs
      exact ⟨by rw [← hconnection]; exact hsaved, by rw [← hconnection]; exact hcontended,
        by rw [← hconnection]; exact hobstacle⟩
    rw [Script.settle_done]
    exact ⟨p', s', hadvance, hidle', by rw [← hconnection], hmute.follows hidle'⟩
  rw [transaction_run] at hturn ⊢
  refine .turn hturn fun r hr => ?_
  cases hchange : change r with
  | ok p => exact hsound r p.1 p.2 hr hchange
  | error failure => exact hr

/-! What is asked for in a transaction leaves it open, unless it fails. -/

theorem uninterrupted_ask {answer : StoreAction α} (hanswer : Contained answer)
    {onError : StoreError → ServiceError} {next : α → Serving (Process Session) β}
    (h : ∀ a, Uninterrupted (next a).run) :
    Uninterrupted (Backend.answered (modifyGetThe Session (act answer)) onError >>= next).run := by
  rw [answered_bind]
  intro s hs
  have hends := hanswer s.connection
  have hact : act answer s =
      ((answer s.connection).1, { s with connection := (answer s.connection).2 }) := rfl
  beta_reduce
  rw [hact]
  cases hresult : (answer s.connection).1 with
  | error error => exact .inr ⟨onError error, rfl⟩
  | ok a =>
    rw [hresult] at hends
    obtain ⟨db, hconnection⟩ := hends
    refine .inl ⟨?_, h a⟩
    rw [hconnection]
    exact hs

theorem uninterrupted_unlessTaken {taken : Prop} [Decidable taken] {error : ServiceError}
    {next : Unit → Serving (Process Session) α} (h : Uninterrupted (next ()).run) :
    Uninterrupted
      (if taken then (do let done ← SectorForest.refuse error; next done) else next ()).run := by
  split
  · trivial
  · exact h

end Transactions

/-! ## The calls -/

section Calls

variable (hs : s.Idle) (tenant : TenantId)
include hs

theorem follows_deleteSector (id : SectorId) :
    Follows (stepwise.deleteSector tenant id).run s (Script.deleteSector tenant id) := by
  unfold Backend.deleteSector Backend.findSector
  rw [bind_assoc]
  apply Follows.reported hs
  apply Follows.look hs fun r hr c hc => SectorRequest.answer_findById hc hr.readable tenant id
  intro r _
  apply Follows.found
  intro _ _
  rw [← bind_pure (stepwise.askSectors _)]
  apply Follows.change hs fun r hr c hc => SectorRequest.answer_delete hc hr tenant id
  · rintro r a r' hr ⟨⟩
    exact hr.removeSectors _
  · exact follows_pure

theorem follows_renameSector (id : SectorId) (label : String) :
    Follows (stepwise.renameSector tenant id label).run s
      (Script.renameSector tenant id label) := by
  unfold Backend.renameSector Backend.findSector
  simp only [bind_assoc]
  apply Follows.reported hs
  apply Follows.normalized
  intro label
  apply Follows.look hs fun r hr c hc => SectorRequest.answer_findById hc hr.readable tenant id
  intro r _
  apply Follows.found
  intro sector _
  apply Follows.look hs fun r _ c hc => SectorRequest.answer_findByLabel hc tenant label
  intro r _
  have hrest : Follows
      (do
        let changed ← stepwise.askSectors (.rename tenant id label)
          (writeError .sector sector.code label)
        if changed = 0 then refuse (.notFound .sector (toString id.toInt)) else pure () :
          Serving (Process Session) Unit).run s
      (Script.alter (fun r => carryOut (r.renameSector tenant id label)
        (writeError .sector sector.code label)) fun count =>
        Script.settle (Script.unlessMissing count (.notFound .sector (toString id.toInt)))
          Script.done) := by
    apply Follows.change hs fun r hr c hc => SectorRequest.answer_rename hc hr tenant id label
    · exact fun r a r' hr h => hr.renameSector h
    · exact fun count => follows_unlessMissing count _
  beta_reduce
  cases r.sectorByLabel? tenant label with
  | none => exact hrest
  | some owner => exact Follows.unlessTaken (by simp) hrest

theorem follows_renameOrganization (code label : String) :
    Follows (stepwise.renameOrganization tenant code label).run s
      (Script.renameOrganization tenant code label) := by
  unfold Backend.renameOrganization Backend.findOrganization
  simp only [bind_assoc]
  apply Follows.reported hs
  apply Follows.normalized
  intro label
  apply Follows.look hs fun r _ c hc => OrganizationRequest.answer_findByCode hc tenant code
  intro r _
  apply Follows.found
  intro organization _
  unfold Script.relabelOrganization
  split
  · exact follows_pure ()
  · apply Follows.look hs fun r _ c hc => OrganizationRequest.answer_existsByLabel hc tenant label
    intro r _
    apply Follows.unlessTaken Iff.rfl
    apply Follows.change hs fun r hr c hc =>
      OrganizationRequest.answer_rename hc hr tenant code label
    · exact fun r a r' hr h => hr.renameOrganization h
    · exact fun count => follows_unlessMissing count _

theorem Follows.findParent (org : OrganizationId) (code : Option String)
    {next : Sector → Serving (Process Session) β} {next' : Sector → Script β}
    (h : ∀ parent, Follows (next parent).run s (next' parent)) :
    Follows (stepwise.findParent tenant org code >>= next).run s
      (Script.inspect (fun r => r.parentFor tenant org code) next') := by
  unfold Backend.findParent Records.parentFor
  cases parentCode? code with
  | some code =>
    simp only [bind_assoc]
    apply Follows.look hs fun r hr c hc =>
      SectorRequest.answer_findByCode hc hr.readable tenant code
    exact fun r _ => Follows.found fun parent _ => h parent
  | none =>
    simp only [Backend.findRoot, bind_assoc]
    apply Follows.look hs fun r hr c hc => SectorRequest.answer_findRoot hc hr.readable tenant org
    exact fun r _ => Follows.found fun parent _ => h parent

theorem Follows.addSector (org : OrganizationId) (label : String) (parentCode : Option String)
    (status : Status) {next : SectorId → Serving (Process Session) β} {next' : SectorId → Script β}
    (h : ∀ (s' : Session) id, s'.Idle → Follows (next id).run s' (next' id)) :
    Follows (stepwise.addSector tenant org label parentCode status >>= next).run s
      (Script.addSector tenant (s.codes s.codesTaken) org label parentCode status next') := by
  unfold Backend.addSector
  simp only [bind_assoc]
  apply Follows.normalized
  intro label
  apply Follows.look hs fun r _ c hc => SectorRequest.answer_findByLabel hc tenant label
  intro r _
  beta_reduce
  cases r.sectorByLabel? tenant label with
  | some owner => exact follows_throw _
  | none =>
    simp only [Option.map_none, Option.isSome_none, Bool.false_eq_true, if_false, bind_assoc]
    apply Follows.findParent hs
    intro parent
    apply Follows.newCode hs
    intro s' hs'
    unfold Script.insertion Records.childBelow
    cases NewSector.childOf? parent (s.codes s.codesTaken) label status with
    | none => exact follows_throw _
    | some child =>
      apply Follows.change hs' fun r hr c hc => SectorRequest.answer_create hc hr child
      · exact fun r a r' hr h => hr.insertSector h
      · exact fun id => h s' id hs'

theorem follows_createSector (org : OrganizationId) (label : String) (parentCode : Option String) :
    Follows (stepwise.createSector tenant org label parentCode).run s
      (Script.addSector tenant (s.codes s.codesTaken) org label parentCode .active
        Script.done) := by
  unfold Backend.createSector
  rw [← bind_pure (stepwise.addSector _ _ _ _ _)]
  apply Follows.reported hs
  apply Follows.addSector hs
  exact fun _ id _ => follows_pure id

theorem follows_createSectorIn (code : String) (draft : SectorDraft) :
    Follows (stepwise.createSectorIn tenant code draft).run s
      (Script.createSectorIn tenant (s.codes s.codesTaken) code draft) := by
  unfold Backend.createSectorIn Backend.findOrganization
  rw [bind_assoc]
  apply Follows.reported hs
  apply Follows.look hs fun r _ c hc => OrganizationRequest.answer_findByCode hc tenant code
  intro r _
  apply Follows.found
  intro organization _
  apply Follows.addSector hs
  intro s' id hs'
  unfold Backend.findSector
  apply Follows.look hs' fun r hr c hc => SectorRequest.answer_findById hc hr.readable tenant id
  intro r _
  beta_reduce
  rw [← bind_pure (Backend.found _ _ _)]
  apply Follows.found
  exact fun sector _ => follows_pure sector

theorem follows_createOrganization (draft : OrganizationDraft) :
    Follows (stepwise.createOrganization tenant draft).run s
      (Script.createOrganization tenant draft) := by
  unfold Backend.createOrganization Script.createOrganization chosenText
  apply Follows.reported hs
  cases hcode : normalize .code draft.code with
  | error error =>
    simp only [Backend.normalized, hcode]
    exact follows_throw _
  | ok code =>
    cases hlabel : normalize .label draft.label with
    | error error =>
      simp only [Backend.normalized, hcode, hlabel, pure_bind]
      exact follows_throw _
    | ok label =>
      have hsettles (r : Records) (hr : r.Sound) (s : Session) (hidle : s.connection.saved = none)
          (hdatabase : s.connection.database = r.database) :=
        settles_createOrganization hidle hdatabase hr tenant draft
      unfold Backend.createOrganization at hsettles
      simp only [Backend.normalized, hcode, hlabel, pure_bind] at hsettles ⊢
      apply Follows.transaction hs _ _ fun r hr s hidle hdatabase => by
        simpa only [Settles, run_reported, reporting_fst, reporting_connection] using
          hsettles r hr s hidle hdatabase
      · intro r org r' hr hplan
        have heffect : r.Effect "" (.createOrganization tenant draft) org r' :=
          Records.effect_of_plan hr hplan
        exact heffect.sound hr
      · apply uninterrupted_ask (contained_organizations _)
        intro codeTaken
        apply uninterrupted_unlessTaken
        apply uninterrupted_ask (contained_organizations _)
        intro labelTaken
        apply uninterrupted_unlessTaken
        apply uninterrupted_ask (contained_organizations _)
        intro org
        apply uninterrupted_ask (contained_sectors _)
        exact fun _ => trivial
      · apply runs_congruent.bind (runs_congruent.askOrganizations _ faithfully_persistence)
        intro codeTaken
        apply runs_congruent.unlessTaken
        apply runs_congruent.bind (runs_congruent.askOrganizations _ faithfully_persistence)
        intro labelTaken
        apply runs_congruent.unlessTaken
        apply runs_congruent.bind
          (runs_congruent.askOrganizations _ (faithfully_writeError _ _ _))
        intro org
        apply runs_congruent.bind (runs_congruent.askSectors _ (faithfully_writeError _ _ _))
        exact fun _ => runs_congruent.pure org

theorem follows_deleteOrganization (code : String) :
    Follows (stepwise.deleteOrganization tenant code).run s
      (Script.deleteOrganization tenant code) := by
  unfold Backend.deleteOrganization Backend.findOrganization
  rw [bind_assoc]
  apply Follows.reported hs
  apply Follows.look hs fun r _ c hc => OrganizationRequest.answer_findByCode hc tenant code
  intro r _
  apply Follows.found
  intro organization _
  apply Follows.transaction hs _ _ fun r hr s hidle hdatabase =>
    settles_dissolution hidle hdatabase hr tenant code organization.id
  · intro r a r' hr hplan
    obtain ⟨⟨count, emptied⟩, hemptied, hplan⟩ := Except.bind_eq_ok hplan
    obtain ⟨⟨count', removed⟩, hremoved, hplan⟩ := Except.bind_eq_ok hplan
    cases hplan
    cases carryOut_eq_ok hemptied
    exact (hr.removeSectors _).deleteOrganization (carryOut_eq_ok hremoved)
  · apply uninterrupted_ask (contained_sectors _)
    intro _
    apply uninterrupted_ask (contained_organizations _)
    exact fun _ => trivial
  · apply runs_congruent.bind (runs_congruent.ask _)
    intro _
    apply runs_congruent.bind (runs_congruent.askOrganizations _ faithfully_persistence)
    exact fun _ => runs_congruent.pure ()

/-- Every call follows its script. -/
theorem follows_perform (mutation : Mutation) :
    Follows (mutation.perform stepwise).run s (mutation.script (s.codes s.codesTaken)) := by
  cases mutation with
  | createOrganization tenant draft => exact follows_createOrganization hs tenant draft
  | createSector tenant org label parentCode =>
    exact follows_createSector hs tenant org label parentCode
  | createSectorIn tenant code draft => exact follows_createSectorIn hs tenant code draft
  | renameSector tenant id label => exact follows_renameSector hs tenant id label
  | deleteSector tenant id => exact follows_deleteSector hs tenant id
  | renameOrganization tenant code label => exact follows_renameOrganization hs tenant code label
  | deleteOrganization tenant code => exact follows_deleteOrganization hs tenant code

end Calls

end Session

end SectorForest
