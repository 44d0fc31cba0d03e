import SectorForest.Proofs.Atomicity

/-!
# Creating a sector and reading it

To create a sector in the organization with a code, the service finds the organization, the label's
owner and the parent, has the sector written, and then reads its record. No transaction holds these
five requests together.

`Session.Reachable.creation_read_back` says where the call can fail, whichever steps do: before the
sector is written, and then it leaves no trace, or in the fifth request, and then the sector stays.
-/

namespace SectorForest

open Storage

variable {α β : Type}

/-- One request fails, the one with the given number. -/
def Faults.request (step : Nat) (error : StoreError) : Faults where
  store n := if n = step then some error else none

namespace Session

variable {s : Session} {n next : Nat} {faults : Faults}

/-- Two parts of an operation in a row fail in the first one or in the second. -/
theorem attempt_bind_error {action : Serving Trial α} {rest : α → Serving Trial β}
    {failure : Failure} (h : (s.attempt n (action >>= rest)).1.1 = .error failure) :
    ((s.attempt n action).1.1 = .error failure ∧
      (s.attempt n (action >>= rest)).2 = (s.attempt n action).2) ∨
    ∃ a, (s.attempt n action).1.1 = .ok a ∧ s.attempt n (action >>= rest) =
      (s.attempt n action).2.attempt (s.attempt n action).1.2 (rest a) := by
  rw [attempt_bind] at h ⊢
  cases hrun : s.attempt n action with
  | mk p s' =>
    obtain ⟨failure' | a, n'⟩ := p
    · rw [hrun] at h
      cases h
      exact .inl ⟨rfl, rfl⟩
    · exact .inr ⟨a, rfl, rfl⟩

/-! ## Looking while steps fail -/

/-- A part of an operation leaves the session as it is, whether it fails or not. If it does not, its
answer meets `P`, and the step behind it has the number `next`. -/
structure Looks (s : Session) (n : Nat) (action : Serving Trial α) (next : Nat) (P : α → Prop) :
    Prop where
  same : (s.attempt n action).2 = s
  goes {a : α} (h : (s.attempt n action).1.1 = .ok a) : (s.attempt n action).1.2 = next ∧ P a

section Rules

variable {P : α → Prop}

/-- What holds if the first part of an operation fails, and if the rest comes after its answer,
holds of the whole. -/
theorem Looks.then {R : (Except Failure β × Nat) × Session → Prop} {action : Serving Trial α}
    {rest : α → Serving Trial β} (h : Looks s n action next P)
    (hstops : ∀ failure n', R ((.error failure, n'), s))
    (hgoes : ∀ a, P a → R (s.attempt next (rest a))) :
    R (s.attempt n (action >>= rest)) := by
  have hsame := h.same
  have hnext := @h.goes
  rw [attempt_bind]
  cases hrun : s.attempt n action with
  | mk p s' =>
    obtain ⟨failure | a, n'⟩ := p
    · rw [hrun] at hsame
      subst hsame
      exact hstops failure n'
    · rw [hrun] at hsame hnext
      subst hsame
      obtain ⟨rfl, hP⟩ := hnext rfl
      exact hgoes a hP

theorem Looks.bind {Q : β → Prop} {last : Nat} {action : Serving Trial α}
    {rest : α → Serving Trial β} (h : Looks s n action next P)
    (hrest : ∀ a, P a → Looks s next (rest a) last Q) : Looks s n (action >>= rest) last Q := by
  have hwhole : (s.attempt n (action >>= rest)).2 = s ∧
      ∀ b, (s.attempt n (action >>= rest)).1.1 = .ok b →
        (s.attempt n (action >>= rest)).1.2 = last ∧ Q b :=
    h.then (R := fun p => p.2 = s ∧ ∀ b, p.1.1 = .ok b → p.1.2 = last ∧ Q b)
      (fun _ _ => ⟨rfl, nofun⟩)
      fun a hP => ⟨(hrest a hP).same, fun _ hok => (hrest a hP).goes hok⟩
  exact ⟨hwhole.1, fun hok => hwhole.2 _ hok⟩

theorem Looks.imp {Q : α → Prop} {action : Serving Trial α} (h : Looks s n action next P)
    (himp : ∀ a, P a → Q a) : Looks s n action next Q :=
  ⟨h.same, fun hok => ⟨(h.goes hok).1, himp _ (h.goes hok).2⟩⟩

theorem looks_refuse (error : ServiceError) : Looks s n (refuse error) next P :=
  ⟨rfl, fun h => by cases h⟩

theorem looks_found (entity : Entity) (key : String) (value : Option α) :
    Looks s n (Backend.found entity key value) n fun a => value = some a := by
  cases value with
  | none => exact looks_refuse _
  | some a => exact ⟨rfl, fun h => by cases h; exact ⟨rfl, rfl⟩⟩

theorem looks_normalized (field : TextField) (text : String) :
    Looks s n (Backend.normalized field text) n fun chosen =>
      normalize field text = .ok chosen := by
  unfold Backend.normalized
  cases normalize field text with
  | error error => exact looks_refuse _
  | ok chosen => exact ⟨rfl, fun h => by cases h; exact ⟨rfl, rfl⟩⟩

end Rules

/-! ## Requests -/

/-- What a request comes to: the error in its place, or its answer. -/
theorem attempt_answered (action : Connection → Except StoreError α × Connection)
    (onError : StoreError → ServiceError) :
    s.attempt n (Backend.answered
        (failingStep faults.store (modifyGetThe (m := StateM Session) Session (act action)))
        onError) =
      match faults.store n with
      | some error => ((.error (.refused (onError error)), n + 1), s)
      | none =>
        (((action s.connection).1.mapError fun error => .refused (onError error), n + 1),
          { s with connection := (action s.connection).2 }) := by
  have hlift (answer : Trial (Except StoreError α)) : s.attempt n (liftM answer) =
      ((.ok (StateT.run (StateT.run answer n) s).1.1, (StateT.run (StateT.run answer n) s).1.2),
        (StateT.run (StateT.run answer n) s).2) := rfl
  rw [Backend.answered, attempt_bind, hlift, run_failingStep]
  cases faults.store n with
  | some error => rfl
  | none =>
    have hrun : StateT.run (modifyGetThe (m := StateM Session) Session (act action)) s =
        ((action s.connection).1, { s with connection := (action s.connection).2 }) := rfl
    rw [hrun]
    cases (action s.connection).1 <;> rfl

/-- A request that leaves the connection as it is only looks. -/
theorem looks_answered {action : Connection → Except StoreError α × Connection} {a : α}
    (haction : action s.connection = (.ok a, s.connection))
    (onError : StoreError → ServiceError) :
    Looks s n (Backend.answered
        (failingStep faults.store (modifyGetThe (m := StateM Session) Session (act action)))
        onError) (n + 1) (· = a) := by
  have hattempt : s.attempt n (Backend.answered
      (failingStep faults.store (modifyGetThe (m := StateM Session) Session (act action)))
      onError) = _ := attempt_answered action onError
  rw [haction] at hattempt
  cases hfault : faults.store n with
  | some error =>
    rw [hfault] at hattempt
    exact ⟨by rw [hattempt], fun h => by rw [hattempt] at h; cases h⟩
  | none =>
    rw [hfault] at hattempt
    exact ⟨by rw [hattempt], fun h => by rw [hattempt] at h ⊢; cases h; exact ⟨rfl, rfl⟩⟩

/-- What an operation ends in is reported, and nothing else changes. -/
theorem attempt_reported (operation : String) (action : Serving Trial α) :
    (s.attempt n ((failing faults).reported operation action)).1 = (s.attempt n action).1 ∧
      (s.attempt n ((failing faults).reported operation action)).2.connection =
        (s.attempt n action).2.connection := by
  rw [Backend.reported, attempt_bind, attempt_ending]
  cases s.attempt n action with
  | mk p s' =>
    obtain ⟨failure | a, n'⟩ := p
    · cases failure <;> exact ⟨rfl, rfl⟩
    · exact ⟨rfl, rfl⟩

/-! ## The requests of the call -/

/-- The code for a new sector is taken without fail. -/
theorem attempt_newCode :
    s.attempt n (liftM (failing faults).newCode) =
      ((.ok (s.codes s.codesTaken), n), { s with codesTaken := s.codesTaken + 1 }) := rfl

/-- What creating a sector has come to: it has failed and left the connection `c` as it was, or the
sector is written, and the next step has the number `next`. -/
structure Written (c : Connection) (next : Nat) (r : Records) (newCode : String)
    (tenant : TenantId) (org : OrganizationId) (label : String) (parentCode : Option String)
    (status : Status) (p : (Except Failure SectorId × Nat) × Session) : Prop where
  fails {failure : Failure} (h : p.1.1 = .error failure) : p.2.connection = c
  goes {id : SectorId} (h : p.1.1 = .ok id) : p.1.2 = next ∧ ∃ parent child,
    r.Grows newCode tenant org label parentCode status parent child ∧ id = r.lastSector + 1 ∧
      p.2.Holds (r.addSector child)

section Creating

variable {r : Records} {tenant : TenantId} (h : s.Holds r)
include h

theorem looks_findOrganization (code : String) :
    Looks s n ((failing faults).findOrganization tenant code) (n + 1) fun o =>
      r.organization? tenant code = some o := by
  have hanswer := OrganizationRequest.answer_findByCode h.database tenant code
  unfold Backend.findOrganization
  apply (looks_answered hanswer _).bind
  rintro _ rfl
  exact looks_found _ _ _

theorem looks_findParent (org : OrganizationId) (parentCode : Option String) :
    Looks s n ((failing faults).findParent tenant org parentCode) (n + 1) fun parent =>
      r.parentFor tenant org parentCode = .ok parent := by
  have hreadable := h.sound.readable
  unfold Backend.findParent Backend.findRoot Records.parentFor
  cases parentCode? parentCode with
  | some code =>
    have hanswer := SectorRequest.answer_findByCode h.database hreadable tenant code
    apply (looks_answered hanswer _).bind
    rintro _ rfl
    refine (looks_found _ _ _).imp fun parent hparent => ?_
    show need .parentSector code _ = _
    rw [hparent, need]
  | none =>
    have hanswer := SectorRequest.answer_findRoot h.database hreadable tenant org
    apply (looks_answered hanswer _).bind
    rintro _ rfl
    refine (looks_found _ _ _).imp fun parent hparent => ?_
    show need .rootSector _ _ = _
    rw [hparent, need]

theorem written_create {newCode : String} {org : OrganizationId} {label text : String}
    {parentCode : Option String} {status : Status} {parent : Sector} {child : NewSector}
    (hlabel : normalize .label label = .ok text)
    (hparent : r.parentFor tenant org parentCode = .ok parent)
    (hchild : NewSector.childOf? parent newCode text status = some child)
    (onError : StoreError → ServiceError) :
    Written s.connection (n + 1) r newCode tenant org label parentCode status
      (s.attempt n ((failing faults).askSectors (.create child) onError)) := by
  have hanswer := SectorRequest.answer_create h.database h.sound child
  have hends := ends_change h.idle (r.insertSector child)
  have hattempt : s.attempt n ((failing faults).askSectors (.create child) onError) = _ :=
    attempt_answered (SectorRequest.create child).answer onError
  rw [hanswer] at hattempt
  rw [hattempt]
  cases faults.store n with
  | some error => exact ⟨fun _ => rfl, nofun⟩
  | none =>
    cases hresult : (s.connection.change (r.insertSector child)).1 with
    | error error =>
      rw [hresult] at hends
      exact ⟨fun _ => hends, nofun⟩
    | ok id =>
      rw [hresult] at hends
      obtain ⟨r', hinsert, hafter⟩ := hends
      obtain ⟨hgrows, hid, rfl⟩ :=
        Records.grows_of_insertSector hlabel hparent hchild hinsert
      refine ⟨nofun, fun hok => ⟨rfl, parent, child, hgrows, ?_, ?_⟩⟩
      · cases hok
        exact hid
      · show Session.Holds { s with connection := _ } _
        rw [hafter]
        exact ⟨h.idle, rfl, h.sound.grow hgrows⟩

/-- A sector is written by the third request, or there is no trace of it. -/
theorem written_addSector (org : OrganizationId) (label : String) (parentCode : Option String)
    (status : Status) :
    Written s.connection (n + 3) r (s.codes s.codesTaken) tenant org label parentCode status
      (s.attempt n ((failing faults).addSector tenant org label parentCode status)) := by
  have hstops (failure : Failure) (n' : Nat) : Written s.connection (n + 3) r
      (s.codes s.codesTaken) tenant org label parentCode status ((.error failure, n'), s) :=
    ⟨fun _ => rfl, nofun⟩
  unfold Backend.addSector
  apply (looks_normalized .label label).then hstops
  intro text htext
  have hlabel := SectorRequest.answer_findByLabel h.database tenant text
  apply (looks_answered hlabel _).then hstops
  rintro _ rfl
  split
  · exact hstops _ _
  apply (looks_findParent h org parentCode).then hstops
  intro parent hparent
  rw [attempt_bind, attempt_newCode]
  dsimp only
  cases hchild : NewSector.childOf? parent (s.codes s.codesTaken) text status with
  | none => exact ⟨fun _ => rfl, nofun⟩
  | some child =>
    have hheld : ({ s with codesTaken := s.codesTaken + 1 } : Session).Holds r :=
      ⟨h.idle, h.database, h.sound⟩
    exact written_create hheld htext hparent hchild _

end Creating

/-! ## The call -/

/-- The sector has been written like any other when the request for its record fails. -/
def FailsLate (s : Session) (faults : Faults) (tenant : TenantId) (code : String)
    (draft : SectorDraft) (failure : Failure) (s' : Session) : Prop :=
  ∃ error o parent child, faults.store 4 = some error ∧
    failure = .refused (.persistence error) ∧ s.records.organization? tenant code = some o ∧
    s.records.Grows (s.codes s.codesTaken) tenant o.id draft.label draft.parentCode draft.status
      parent child ∧
    s'.Holds (s.records.addSector child)

/-- A sector that has been written is found, unless the request for it fails. -/
theorem attempt_findSector_new {r : Records} {child : NewSector}
    (h : s.Holds (r.addSector child)) {failure : Failure}
    (hfails : (s.attempt n ((failing faults).findSector child.tenant (r.lastSector + 1))).1.1 =
      .error failure) :
    (∃ error, faults.store n = some error ∧ failure = .refused (.persistence error)) ∧
      (s.attempt n ((failing faults).findSector child.tenant (r.lastSector + 1))).2 = s := by
  have hanswer :=
    SectorRequest.answer_findById h.database h.sound.readable child.tenant (r.lastSector + 1)
  rw [h.sound.sector?_addSector] at hanswer
  have hattempt : s.attempt n ((failing faults).askSectors
      (.findById child.tenant (r.lastSector + 1)) .persistence) = _ :=
    attempt_answered (SectorRequest.findById child.tenant (r.lastSector + 1)).answer .persistence
  rw [hanswer] at hattempt
  rw [Backend.findSector, attempt_bind, hattempt] at hfails ⊢
  cases hfault : faults.store n with
  | some error =>
    rw [hfault] at hfails
    cases hfails
    exact ⟨⟨error, rfl, rfl⟩, rfl⟩
  | none =>
    rw [hfault] at hfails
    cases hfails

/-- The call without the event of its ending. -/
theorem creation_fails (h : s.Holds s.records) {tenant : TenantId} {code : String}
    {draft : SectorDraft} {p : (Except Failure Sector × Nat) × Session}
    (hattempt : s.attempt 0 (do
      let organization ← (failing faults).findOrganization tenant code
      let id ← (failing faults).addSector tenant organization.id draft.label draft.parentCode
        draft.status
      (failing faults).findSector tenant id) = p)
    {failure : Failure} (hfails : p.1.1 = .error failure) :
    p.2.connection = s.connection ∨ s.FailsLate faults tenant code draft failure p.2 := by
  subst hattempt
  revert hfails
  apply (looks_findOrganization h code).then (R := fun p =>
    p.1.1 = .error failure → p.2.connection = s.connection ∨ s.FailsLate faults tenant code draft
      failure p.2) fun _ _ _ => .inl rfl
  intro o ho hfails
  have hwritten : Written s.connection 4 s.records (s.codes s.codesTaken) tenant o.id draft.label
      draft.parentCode draft.status (s.attempt (0 + 1) ((failing faults).addSector tenant o.id
        draft.label draft.parentCode draft.status)) :=
    written_addSector h o.id draft.label draft.parentCode draft.status
  rcases attempt_bind_error hfails with ⟨hfirst, hsame⟩ | ⟨id, hfirst, hrest⟩
  · rw [hsame]
    exact .inl (hwritten.fails hfirst)
  · rw [hrest] at hfails ⊢
    generalize s.attempt (0 + 1) _ = p at *
    obtain ⟨hnext, parent, child, hgrows, rfl, hheld⟩ := hwritten.goes hfirst
    obtain rfl : child.tenant = tenant := hgrows.fields.1
    rw [hnext] at hfails ⊢
    obtain ⟨⟨error, hfault, rfl⟩, hsame⟩ := attempt_findSector_new hheld hfails
    rw [hsame]
    exact .inr ⟨error, o, parent, child, hfault, rfl, ho, hgrows, hheld⟩

/-- Where creating a sector in an organization fails, whichever steps do: either nothing is changed,
or the fifth request fails in its place, and then the call ends in its error although the sector has
been written like any other. -/
theorem Reachable.creation_read_back {s s' : Session} (h : s.Reachable) (faults : Faults)
    {tenant : TenantId} {code : String} {draft : SectorDraft} {failure : Failure}
    (hcall : s.callFailing faults (.createSectorIn tenant code draft) = (.error failure, s')) :
    s'.connection = s.connection ∨ s.FailsLate faults tenant code draft failure s' := by
  have hreported : (s.attempt 0 ((Mutation.createSectorIn tenant code draft).perform
      (failing faults))).1 = _ ∧ _ := attempt_reported "sector_create" _
  obtain ⟨hending, hafter⟩ := hreported
  simp only [callFailing, Prod.mk.injEq] at hcall
  obtain ⟨hfailure, rfl⟩ := hcall
  have hfails := (congrArg Prod.fst hending).symm.trans hfailure
  rcases creation_fails h.holds rfl hfails with hsame | hlate
  · exact .inl (hafter.trans hsame)
  · obtain ⟨error, o, parent, child, hfault, hfailure, ho, hgrows, hheld⟩ := hlate
    -- the event of the ending leaves the connection as it is
    refine .inr ⟨error, o, parent, child, hfault, hfailure, ho, hgrows, ?_, ?_, hheld.sound⟩
    · exact (congrArg Connection.saved hafter).trans hheld.idle
    · exact (congrArg Connection.database hafter).trans hheld.database

section Founded

open Records

/-- The call fails, and the sector is there. -/
theorem creation_traced_founded :
    let after := (founded.session "n").callFailing (.request 4 (.invalidData "cannot be read"))
      (.createSectorIn 1 "acme" { label := "North" })
    (founded.session "n").Reachable ∧ (founded.session "n").records = founded ∧
      after.1 = .error (.refused (.persistence (.invalidData "cannot be read"))) ∧
      after.2.records = ofAcme [acmeRoot, north] 2 ∧ ofAcme [acmeRoot, north] 2 ≠ founded := by
  refine ⟨reached_founded.reachable "n", ?_, ?_, ?_, ?_⟩ <;> decide +kernel

/-- A sector of which the caller is told that it cannot be read is stored like any other. -/
theorem creation_read_back_founded :
    let after := (founded.session "n").callFailing (.request 4 (.invalidData "cannot be read"))
      (.createSectorIn 1 "acme" { label := "North" })
    (founded.session "n").Reachable ∧
      after.1 = .error (.refused (.persistence (.invalidData "cannot be read"))) ∧
      (founded.session "n").FailsLate (.request 4 (.invalidData "cannot be read")) 1 "acme"
        { label := "North" } (.refused (.persistence (.invalidData "cannot be read"))) after.2 := by
  intro after
  have hreachable := reached_founded.reachable "n"
  have hfails : after.1 = .error (.refused (.persistence (.invalidData "cannot be read"))) := by
    decide +kernel
  have hwritten : after.2.records ≠ (founded.session "n").records := by
    decide +kernel
  have hended : after =
      (.error (.refused (.persistence (.invalidData "cannot be read"))), after.2) :=
    Prod.ext hfails rfl
  have hcases := hreachable.creation_read_back _ hended
  refine ⟨hreachable, hfails, hcases.resolve_left fun hsame => hwritten ?_⟩
  exact congrArg (·.database.records) hsame

end Founded

end Session

end SectorForest
