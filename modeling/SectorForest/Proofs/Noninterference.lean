import SectorForest.Proofs.Barred
import SectorForest.Proofs.Codes
import SectorForest.Proofs.Follow

/-!
# What a tenant can notice of others

Two reachable sessions that agree on the records of a tenant, on the numbers last given out, on the
codes that come next and on whether and why nothing can be written answer that tenant the same, call
after call, and keep agreeing: `Session.Reachable.noninterference`. This holds whatever records
other tenants have, as long as no other tenant has a sector with a code that a call gives to a new
one, `Session.Unclaimed`.

One call keeps the agreement, since its plan and the code that it takes are told by the records of
its tenant; a run keeps it by induction. While nothing can be written a call does not get as far as
its plan, and then `Session.Barred.perform` says that it ends the same.
-/

namespace SectorForest

open Storage

/-- The tenant that a call is made for. -/
def Operation.tenant : Operation → TenantId
  | change mutation => mutation.tenant
  | ask query => query.tenant

/-- A call and what its caller is told. -/
structure Reply where
  operation : Operation
  ending : Except Failure operation.Answer

/-- No other tenant has a sector with the code that a call gives to a new one. -/
def Records.Admits (r : Records) (newCode : String) : Operation → Prop
  | .change mutation => r.Unclaimed newCode mutation
  | .ask _ => True

namespace Session

/-- What a call of either kind ends in, and the session afterwards. -/
def serve (s : Session) : (operation : Operation) → Except Failure operation.Answer × Session
  | .change mutation => s.call mutation
  | .ask query => s.inquire query

/-- What a tenant can notice of a run: what each call ends in, and the records of the tenant after
it. -/
def observed (tenant : TenantId) : List Operation → Session → List (Reply × Records)
  | [], _ => []
  | operation :: rest, s =>
    (⟨operation, (s.serve operation).1⟩, (s.serve operation).2.records.within tenant) ::
      observed tenant rest (s.serve operation).2

/-- In a run, no other tenant has a sector with a code that a call gives to a new one. -/
def Unclaimed : List Operation → Session → Prop
  | [], _ => True
  | operation :: rest, s =>
    s.records.Admits (s.codes s.codesTaken) operation ∧ Unclaimed rest (s.serve operation).2

/-- Two sessions from which a tenant can expect the same: they agree on its records and the numbers
last given out, on the codes that come next, and on whether and why nothing can be written. -/
structure Agree (tenant : TenantId) (s s' : Session) : Prop where
  within_eq : s.records.within tenant = s'.records.within tenant
  codes_eq : ∀ n, s.codes (s.codesTaken + n) = s'.codes (s'.codesTaken + n)
  contended_eq : s.connection.contended = s'.connection.contended
  obstacle_eq : s.connection.obstacle = s'.connection.obstacle

variable {s s' : Session} {tenant : TenantId} {mutation : Mutation}

/-! ## One call -/

/-- A call on a database that can be written ends as planned. -/
theorem Holds.call_eq (h : s.Holds s.records) (hfree : s.connection.writeFault? .main = none)
    (mutation : Mutation) :
    (s.call mutation).1 = (s.records.plan (s.codes s.codesTaken) mutation).map Prod.fst ∧
      (s.call mutation).2.records =
        Script.altered s.records (s.records.plan (s.codes s.codesTaken) mutation) := by
  obtain ⟨hending, -⟩ := (call_settled h.idle h.database h.sound mutation).altered_eq h.database
    hfree
  refine ⟨hending, ?_⟩
  cases hplan : s.records.plan (s.codes s.codesTaken) mutation with
  | ok done => exact (h.call_of_plan hfree hplan).2.records
  | error failure =>
    rw [hplan] at hending
    rcases h.call mutation with ⟨_, -, hafter⟩ | ⟨a, _, hok, -⟩
    · exact hafter.records
    · rw [hok] at hending
      cases hending

theorem Holds.barred {fault : Fault} (h : s.Holds s.records)
    (hfault : s.connection.writeFault? .main = some fault) :
    Barred tenant (s.records.within tenant) fault s.connection :=
  ⟨⟨s.records, h.database, h.sound, rfl⟩, hfault⟩

/-- The codes that come next stay the same where the same number of them is taken. -/
theorem TakesCode.codes_eq {taken : Bool} {after after' : Session} (h : TakesCode taken s after)
    (h' : TakesCode taken s' after')
    (hcodes : ∀ n, s.codes (s.codesTaken + n) = s'.codes (s'.codesTaken + n)) (n : Nat) :
    after.codes (after.codesTaken + n) = after'.codes (after'.codesTaken + n) := by
  rw [h.1, h.2, h'.1, h'.2, Nat.add_assoc, Nat.add_assoc]
  exact hcodes _

theorem confined_fst {α : Type} (tenant : TenantId) (plan : Except Failure (α × Records)) :
    (Records.confined tenant <$> plan).map Prod.fst = plan.map Prod.fst := by
  cases plan <;> rfl

theorem altered_confined {α : Type} (r : Records) (tenant : TenantId)
    (plan : Except Failure (α × Records)) :
    Script.altered (r.within tenant) (Records.confined tenant <$> plan) =
      (Script.altered r plan).within tenant := by
  cases plan <;> rfl

/-- A call for a tenant on databases that can be written is answered the same in both sessions, and
leaves the same of the tenant. -/
theorem Agree.call_free (h : Agree mutation.tenant s s') (hs : s.Reachable) (hs' : s'.Reachable)
    (hfree : s.connection.writeFault? .main = none)
    (hfree' : s'.connection.writeFault? .main = none)
    (hunclaimed : s.records.Unclaimed (s.codes s.codesTaken) mutation)
    (hunclaimed' : s'.records.Unclaimed (s'.codes s'.codesTaken) mutation) :
    (s.call mutation).1 = (s'.call mutation).1 ∧
      (s.call mutation).2.records.within mutation.tenant =
        (s'.call mutation).2.records.within mutation.tenant := by
  obtain ⟨hending, hrecords⟩ := hs.holds.call_eq hfree mutation
  obtain ⟨hending', hrecords'⟩ := hs'.holds.call_eq hfree' mutation
  -- both plans come to that of the records that the sessions agree on
  have hplan := Records.plan_within hs.holds.sound hs.lineage hunclaimed
  have hplan' := Records.plan_within hs'.holds.sound hs'.lineage hunclaimed'
  have hnext : s.codes s.codesTaken = s'.codes s'.codesTaken := h.codes_eq 0
  rw [h.within_eq, hnext, hplan'] at hplan
  constructor
  · rw [hending, hending', hnext, ← confined_fst mutation.tenant, ← hplan, confined_fst]
  · rw [hrecords, hrecords', ← altered_confined, ← altered_confined, h.within_eq, hplan, hnext]

/-- A call for a tenant on databases that cannot be written is answered the same in both sessions,
and changes nothing. -/
theorem Agree.call_barred {fault : Fault} (h : Agree mutation.tenant s s') (hs : s.Reachable)
    (hs' : s'.Reachable) (hfault : s.connection.writeFault? .main = some fault)
    (hfault' : s'.connection.writeFault? .main = some fault) :
    (s.call mutation).1 = (s'.call mutation).1 ∧
      (s.call mutation).2.records.within mutation.tenant =
        (s'.call mutation).2.records.within mutation.tenant := by
  have hbarred' : Barred mutation.tenant (s.records.within mutation.tenant) fault s'.connection :=
    h.within_eq ▸ hs'.holds.barred hfault'
  obtain ⟨hending, hafter, hafter'⟩ := (hs.holds.barred hfault).perform hbarred' hs.holds.idle
    hs'.holds.idle h.contended_eq s s' rfl rfl h.codes_eq
  have hrecords : (s.call mutation).2.records = s.records := congrArg (·.database.records) hafter
  have hrecords' : (s'.call mutation).2.records = s'.records :=
    congrArg (·.database.records) hafter'
  rw [hrecords, hrecords']
  exact ⟨hending, h.within_eq⟩

/-- A call for a tenant is answered the same in both sessions, and they keep agreeing. -/
theorem Agree.call (h : Agree mutation.tenant s s') (hs : s.Reachable) (hs' : s'.Reachable)
    (hunclaimed : s.records.Unclaimed (s.codes s.codesTaken) mutation)
    (hunclaimed' : s'.records.Unclaimed (s'.codes s'.codesTaken) mutation) :
    (s.call mutation).1 = (s'.call mutation).1 ∧
      Agree mutation.tenant (s.call mutation).2 (s'.call mutation).2 := by
  have hfault : s.connection.writeFault? .main = s'.connection.writeFault? .main := by
    rw [Connection.writeFault?, Connection.writeFault?, h.contended_eq, h.obstacle_eq]
  have hends : (s.call mutation).1 = (s'.call mutation).1 ∧
      (s.call mutation).2.records.within mutation.tenant =
        (s'.call mutation).2.records.within mutation.tenant := by
    cases hfree : s.connection.writeFault? .main with
    | none => exact h.call_free hs hs' hfree (hfault ▸ hfree) hunclaimed hunclaimed'
    | some fault => exact h.call_barred hs hs' hfree (hfault ▸ hfree)
  have htakes := hs.holds.call_takesCode mutation
  rw [← Records.within_takesCode, h.within_eq, Records.within_takesCode] at htakes
  obtain ⟨database, hconnection⟩ := hs.holds.call_connection mutation
  obtain ⟨database', hconnection'⟩ := hs'.holds.call_connection mutation
  exact {
    left := hends.1
    right.within_eq := hends.2
    right.codes_eq := htakes.codes_eq (hs'.holds.call_takesCode mutation) h.codes_eq
    right.contended_eq := by rw [hconnection, hconnection']; exact h.contended_eq
    right.obstacle_eq := by rw [hconnection, hconnection']; exact h.obstacle_eq }

theorem Reachable.serve (h : s.Reachable) (operation : Operation) :
    (s.serve operation).2.Reachable := by
  cases operation with
  | change mutation => exact h.run (.call .start mutation)
  | ask query =>
    rw [Session.serve, h.holds.inquire_eq query]
    exact h

/-- A call of either kind is answered the same in both sessions, and they keep agreeing. -/
theorem Agree.serve {operation : Operation} (h : Agree operation.tenant s s') (hs : s.Reachable)
    (hs' : s'.Reachable) (hadmits : s.records.Admits (s.codes s.codesTaken) operation)
    (hadmits' : s'.records.Admits (s'.codes s'.codesTaken) operation) :
    (s.serve operation).1 = (s'.serve operation).1 ∧
      Agree operation.tenant (s.serve operation).2 (s'.serve operation).2 := by
  cases operation with
  | change mutation => exact Agree.call h hs hs' hadmits hadmits'
  | ask query =>
    have hreply : s.records.reply query = s'.records.reply query := by
      rw [← Records.reply_within, ← s'.records.reply_within]
      exact congrArg (fun r : Records => r.reply query) h.within_eq
    rw [Session.serve, Session.serve, hs.holds.inquire_eq query, hs'.holds.inquire_eq query]
    exact ⟨hreply, h⟩

/-! ## Runs -/

/-- Two reachable sessions that agree as to a tenant cannot be told apart by calls for it: each call
ends the same and leaves the same records of the tenant. What is asked for is that no call gives a
new sector a code that a sector of another tenant has. -/
theorem Reachable.noninterference (hs : s.Reachable) (hs' : s'.Reachable)
    (hagree : Agree tenant s s') {operations : List Operation}
    (htenant : ∀ operation ∈ operations, operation.tenant = tenant)
    (hunclaimed : Unclaimed operations s) (hunclaimed' : Unclaimed operations s') :
    observed tenant operations s = observed tenant operations s' := by
  induction operations generalizing s s' with
  | nil => rfl
  | cons operation rest ih =>
    obtain rfl := htenant operation List.mem_cons_self
    obtain ⟨hadmits, hrest⟩ := hunclaimed
    obtain ⟨hadmits', hrest'⟩ := hunclaimed'
    obtain ⟨hending, hafter⟩ := hagree.serve hs hs' hadmits hadmits'
    rw [observed, observed, hending, hafter.within_eq,
      ih (hs.serve operation) (hs'.serve operation) hafter
        (fun other hother => htenant other (List.mem_cons_of_mem _ hother)) hrest hrest']

open Records in
/-- A tenant cannot tell whether an organization of another one is stored or deleted. -/
theorem noninterference_neighbours :
    let departed := neighbours.dissolve otherAcme
    let operations := [.change (.createSector 1 2 "Dusk" none), .ask (.sectorTree 1 "umbra"),
      .change (.deleteOrganization 1 "acme")]
    (neighbours.session "d").Reachable ∧ (departed.session "d").Reachable ∧
    neighbours.ofOthers 1 ≠ departed.ofOthers 1 ∧
    ((neighbours.session "d").serve (.change (.createSector 1 2 "Dusk" none))).1 = .ok 7 ∧
    observed 1 operations (neighbours.session "d") =
      observed 1 operations (departed.session "d") := by
  intro departed operations
  have hplan : neighbours.plan "" (.deleteOrganization 2 "acme-2") = .ok ((), departed) := rfl
  have hdeparted : departed.Reached := reached_neighbours.next hplan
  have hcodes : ∀ x ∈ neighbours.sectors, x.code ≠ "d" := by decide
  -- only the first call gives a code
  have hunclaimed {r : Records} (hr : r.Sound) (hsub : r.sectors ⊆ neighbours.sectors) :
      Unclaimed operations (r.session "d") := by
    refine ⟨?_, trivial, ?_, trivial⟩
    · intro code hcode x hx _
      rw [hr.records_session] at hcode hx
      simp only [codeGiven?] at hcode
      split at hcode
      · cases hcode
        exact hcodes x (hsub hx)
      · cases hcode
    · intro code hcode
      cases hcode
  refine ⟨reached_neighbours.reachable "d", hdeparted.reachable "d", by decide,
    by decide +kernel, ?_⟩
  have hwithin : (neighbours.session "d").records.within 1 =
      (departed.session "d").records.within 1 := by
    rw [reached_neighbours.sound.records_session, hdeparted.sound.records_session]
    decide
  exact (reached_neighbours.reachable "d").noninterference (hdeparted.reachable "d")
    ⟨hwithin, fun _ => rfl, rfl, rfl⟩ (by decide)
    (hunclaimed reached_neighbours.sound (List.Subset.refl _))
    (hunclaimed hdeparted.sound List.filter_sublist.subset)

end Session

end SectorForest
