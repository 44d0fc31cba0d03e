import Mathlib.Data.List.Infix
import SectorForest.Proofs.Run
import SectorForest.Proofs.Transcript

/-!
# Stores that fail

Whatever the stores do, the first request that fails is the last one that an operation makes of
them, and the operation ends in an error made from the store's: `Operation.failure_ends`. It is the
store's error itself, unless a record was to be written and another one has its code or label
already; `blame` says which errors these are and what becomes of them.

The requests of an operation are read off its notes, by `Operation.storeCalls`. `Candid` says of a
part of an operation that it owns up to a failure in this way, and the parts of an operation are
gone through once with it.
-/

namespace SectorForest

variable {σ α β : Type}

/-! ## What is noted of a request -/

/-- A record that a request is to leave in a store: what it is, its code and its label. -/
structure Written where
  entity : Entity
  code : String
  label : String
  deriving DecidableEq, Repr

/-- What came of a request. -/
inductive StoreCall where
  /-- The sector with a number was asked for, and there is one. -/
  | found (tenant : TenantId) (id : SectorId) (sector : Sector)
  | answered
  /-- There was no answer; the request may have been to write a record. -/
  | failed (written : Option Written) (error : StoreError)
  deriving DecidableEq, Repr

/-- The sector found where the one with a number was asked for. -/
def StoreCall.sectorAt? (tenant : TenantId) (id : SectorId) : StoreCall → Option Sector
  | .found tenant' id' sector => if tenant' = tenant ∧ id' = id then some sector else none
  | _ => none

/-- The sector that was found last under a number. -/
def lastFound? (tenant : TenantId) (id : SectorId) (calls : List StoreCall) : Option Sector :=
  calls.reverse.findSome? (StoreCall.sectorAt? tenant id)

/-- The record that a request is to leave in a store. -/
def OrganizationRequest.written? : OrganizationRequest α → Option Written
  | .create organization => some ⟨.organization, organization.code, organization.label⟩
  | .createInTransaction organization =>
    some ⟨.organization, organization.code, organization.label⟩
  | .rename _ code label => some ⟨.organization, code, label⟩
  | _ => none

/-- The record that a request is to leave in a store. The one sector that is created within a
transaction is the root of a new organization. A request to rename names a sector by its number; the
code of that sector is known from finding it. -/
def SectorRequest.written? (calls : List StoreCall) : SectorRequest α → Option Written
  | .create sector => some ⟨.sector, sector.code, sector.label⟩
  | .createInTransaction sector => some ⟨.rootSector, sector.code, sector.label⟩
  | .rename tenant id label =>
    some ⟨.sector, ((lastFound? tenant id calls).map Sector.code).getD "", label⟩
  | _ => none

/-- The note of a request about organizations. -/
def OrganizationRequest.storeCall (request : OrganizationRequest α) :
    Except StoreError α → StoreCall
  | .ok _ => .answered
  | .error error => .failed request.written? error

/-- The note of a request about sectors. -/
def SectorRequest.storeCall (calls : List StoreCall) :
    SectorRequest α → Except StoreError α → StoreCall
  | .findById tenant id, .ok (some sector) => .found tenant id sector
  | _, .ok _ => .answered
  | request, .error error => .failed (request.written? calls) error

/-- Every request is noted. -/
def storeCalls : Notebook StoreCall where
  organizations _ request answer := request.storeCall answer
  sectors calls request answer := request.storeCall calls answer

theorem SectorRequest.storeCall_error (request : SectorRequest α) (calls : List StoreCall)
    (error : StoreError) :
    request.storeCall calls (.error error) = .failed (request.written? calls) error := by
  cases request <;> rfl

theorem lastFound?_found (tenant : TenantId) (id : SectorId) (calls : List StoreCall)
    (sector : Sector) :
    lastFound? tenant id (calls ++ [.found tenant id sector]) = some sector := by
  simp [lastFound?, StoreCall.sectorAt?]

theorem lastFound?_answered (tenant : TenantId) (id : SectorId) (calls : List StoreCall) :
    lastFound? tenant id (calls ++ [.answered]) = lastFound? tenant id calls := by
  rw [lastFound?, List.reverse_append]
  rfl

/-! ## What becomes of the error -/

/-- What the service makes of the error of a request. A violation of uniqueness by a record that was
to be written is a conflict: over the label if its detail tells of one, over the code otherwise. -/
def blame (written : Option Written) (error : StoreError) : ServiceError :=
  match written, error.uniqueDetail? with
  | some record, some detail =>
    if ".label".toList <:+: detail.toList then .conflict record.entity .label record.label
    else .conflict record.entity .code record.code
  | _, _ => .persistence error

theorem occursIn_iff (part whole : List Char) : occursIn part whole = true ↔ part <:+: whole := by
  induction whole with
  | nil => simp [occursIn]
  | cons c rest ih => simp [occursIn, ih, List.infix_cons_iff]

theorem writeError_eq_blame (entity : Entity) (code label : String) (error : StoreError) :
    writeError entity code label error = blame (some ⟨entity, code, label⟩) error := by
  unfold writeError blame
  cases error.uniqueDetail? with
  | none => rfl
  | some detail => simp only [occursIn_iff]

/-- A record that an operation writes, after some requests, has the code and the label that were
meant by the operation's caller. -/
def Operation.Means (calls : List StoreCall) (record : Written) : Operation → Prop
  | .change (.createOrganization _ draft) =>
    (record.entity = .organization ∨ record.entity = .rootSector) ∧
      normalize .code draft.code = .ok record.code ∧
      normalize .label draft.label = .ok record.label
  | .change (.createSector _ _ label _) =>
    record.entity = .sector ∧ normalize .label label = .ok record.label
  | .change (.createSectorIn _ _ draft) =>
    record.entity = .sector ∧ normalize .label draft.label = .ok record.label
  | .change (.renameSector tenant id label) =>
    record.entity = .sector ∧ normalize .label label = .ok record.label ∧
      ∃ sector, lastFound? tenant id calls = some sector ∧ record.code = sector.code
  | .change (.renameOrganization _ code label) =>
    record.entity = .organization ∧ record.code = code ∧
      normalize .label label = .ok record.label
  | _ => False

/-! ## Parts that own up to a failure -/

/-- No request has failed. -/
def Unfailed (calls : List StoreCall) : Prop :=
  ∀ written error, .failed written error ∉ calls

/-- How a part of an operation ends that owns up to a failure: either no request has failed, or the
last one has and the part ends in its error. -/
inductive OwnsUp (means : List StoreCall → Written → Prop) (after : α → List StoreCall → Prop) :
    Except Failure α × List StoreCall → Prop where
  | unfailed {ending : Except Failure α} {calls : List StoreCall} (hcalls : Unfailed calls)
      (hafter : ∀ a, ending = .ok a → after a calls) : OwnsUp means after (ending, calls)
  | failed {calls : List StoreCall} {written : Option Written} {error : StoreError}
      (hcalls : Unfailed calls) (hmeans : ∀ record ∈ written, means calls record) :
      OwnsUp means after (.error (.refused (blame written error)), calls ++ [.failed written error])

/-- Over any stores, a part of an operation owns up to a failure if none came before. If all is
answered and the part succeeds, `after` holds of its answer and the requests by then. -/
def Candid (means : List StoreCall → Written → Prop) (calls : List StoreCall)
    (action : Serving (Noting StoreCall σ) α) (after : α → List StoreCall → Prop) : Prop :=
  Unfailed calls → ∀ s, OwnsUp means after (jot s calls action).1

theorem unfailed_append {calls : List StoreCall} {call : StoreCall} (hcalls : Unfailed calls)
    (hcall : ∀ written error, call ≠ .failed written error) : Unfailed (calls ++ [call]) := by
  intro written error hmem
  rcases List.mem_append.mp hmem with hearlier | hlast
  · exact hcalls written error hearlier
  · exact hcall written error (List.mem_singleton.mp hlast).symm

/-- The requests of a part that owns up to a failure, taken apart at one that failed. -/
theorem OwnsUp.failed_last {means : List StoreCall → Written → Prop}
    {after : α → List StoreCall → Prop} {ending : Except Failure α}
    {earlier later : List StoreCall} {written : Option Written} {error : StoreError}
    (h : OwnsUp means after (ending, earlier ++ .failed written error :: later)) :
    later = [] ∧ ending = .error (.refused (blame written error)) ∧
      ∀ record ∈ written, means earlier record := by
  generalize hall : earlier ++ .failed written error :: later = all at h
  cases h with
  | unfailed hcalls =>
    exact absurd (hall ▸ List.mem_append_right _ List.mem_cons_self) (hcalls written error)
  | failed hcalls hmeans =>
    -- the failure stands at the end, since before the last request none has failed
    rcases List.eq_nil_or_concat' later with rfl | ⟨later, last, rfl⟩
    · obtain ⟨rfl, hlast⟩ := List.append_inj' hall rfl
      obtain ⟨rfl, rfl⟩ : written = _ ∧ error = _ := by simpa using hlast
      exact ⟨rfl, rfl, hmeans⟩
    · rw [← List.cons_append, ← List.append_assoc] at hall
      obtain ⟨rfl, -⟩ := List.append_inj' hall rfl
      exact absurd (List.mem_append_right _ List.mem_cons_self) (hcalls written error)

namespace Candid

variable {means : List StoreCall → Written → Prop} {calls : List StoreCall}
  {action : Serving (Noting StoreCall σ) α} {after : α → List StoreCall → Prop}
  {b : Backend (StateM σ)}

theorem pure {a : α} (h : after a calls) :
    Candid means calls (pure a : Serving (Noting StoreCall σ) α) after := by
  intro hcalls s
  refine .unfailed hcalls ?_
  intro a' ha'
  cases ha'
  exact h

theorem throw (failure : Failure) :
    Candid means calls (throw failure : Serving (Noting StoreCall σ) α) after :=
  fun hcalls _ => .unfailed hcalls fun _ ha => nomatch ha

theorem refuse (error : ServiceError) :
    Candid means calls (SectorForest.refuse error : Serving (Noting StoreCall σ) α) after :=
  throw _

theorem bind {next : α → Serving (Noting StoreCall σ) β} {afterwards : β → List StoreCall → Prop}
    (h : Candid means calls action after)
    (hnext : ∀ a calls', after a calls' → Candid means calls' (next a) afterwards) :
    Candid means calls (action >>= next) afterwards := by
  intro hcalls s
  rw [jot_bind]
  have hfirst := h hcalls s
  cases hjot : jot s calls action with
  | mk p s' =>
    rw [hjot] at hfirst
    obtain ⟨failure | a, calls'⟩ := p
    · cases hfirst with
      | unfailed hcalls' => exact .unfailed hcalls' fun _ ha => nomatch ha
      | failed hcalls' hmeans => exact .failed hcalls' hmeans
    · cases hfirst with
      | unfailed hcalls' hafter => exact hnext a calls' (hafter a rfl) hcalls' s'

theorem mono {afterwards : α → List StoreCall → Prop} (h : Candid means calls action after)
    (himp : ∀ a calls', after a calls' → afterwards a calls') :
    Candid means calls action afterwards := by
  intro hcalls s
  have howns := h hcalls s
  generalize (jot s calls action).1 = p at howns
  cases howns with
  | unfailed hcalls' hafter => exact .unfailed hcalls' fun a ha => himp a _ (hafter a ha)
  | failed hcalls' hmeans => exact .failed hcalls' hmeans

theorem normalized (field : TextField) (text : String) :
    Candid means calls (Backend.normalized field text : Serving (Noting StoreCall σ) String)
      (fun chosen calls' => normalize field text = .ok chosen ∧ calls' = calls) := by
  unfold Backend.normalized
  cases hchosen : normalize field text with
  | ok chosen => exact pure ⟨rfl, rfl⟩
  | error error => exact refuse error

theorem found (entity : Entity) (key : String) (value : Option α) :
    Candid means calls (Backend.found entity key value : Serving (Noting StoreCall σ) α)
      (fun a calls' => value = some a ∧ calls' = calls) := by
  cases value with
  | some a => exact pure ⟨rfl, rfl⟩
  | none => exact refuse _

theorem unlessTaken {taken : Prop} [Decidable taken] {error : ServiceError}
    {next : Unit → Serving (Noting StoreCall σ) α} (hnext : Candid means calls (next ()) after) :
    Candid means calls
      (if taken then (do let done ← SectorForest.refuse error; next done) else next ()) after := by
  split
  · have hrefused : Candid means calls
        (SectorForest.refuse error : Serving (Noting StoreCall σ) Unit) fun _ _ => False :=
      refuse error
    exact hrefused.bind fun _ _ h => h.elim
  · exact hnext

/-- A request of whose error the service makes what it should, and whose record is the one meant. -/
theorem answered {note : List StoreCall → Except StoreError α → StoreCall}
    {answer : StateM σ (Except StoreError α)} {onError : StoreError → ServiceError}
    {written : Option Written}
    (hok : ∀ a written' error, note calls (.ok a) ≠ .failed written' error)
    (herror : ∀ error, note calls (.error error) = .failed written error)
    (hblame : ∀ error, onError error = blame written error)
    (hmeans : ∀ record ∈ written, means calls record) :
    Candid means calls
      (Backend.answered (takingNote note answer) onError : Serving (Noting StoreCall σ) α)
      (fun a calls' => calls' = calls ++ [note calls (.ok a)]) := by
  intro hcalls s
  have hlift : jot s calls (liftM (takingNote note answer) : Serving (Noting StoreCall σ) _) =
      ((.ok (StateT.run answer s).1, calls ++ [note calls (StateT.run answer s).1]),
        (StateT.run answer s).2) := rfl
  rw [Backend.answered, jot_bind_ok hlift]
  cases (StateT.run answer s).1 with
  | ok a =>
    refine .unfailed (unfailed_append hcalls (hok a)) ?_
    intro a' ha'
    cases ha'
    rfl
  | error error =>
    rw [herror]
    dsimp only
    rw [hblame]
    exact .failed hcalls hmeans

theorem askOrganizations (request : OrganizationRequest α) {onError : StoreError → ServiceError}
    (hblame : ∀ error, onError error = blame request.written? error)
    (hmeans : ∀ record ∈ request.written?, means calls record) :
    Candid means calls ((b.noted storeCalls).askOrganizations request onError)
      (fun _ calls' => calls' = calls ++ [.answered]) :=
  answered (fun _ _ _ h => nomatch h) (fun _ => rfl) hblame hmeans

theorem askSectors (request : SectorRequest α) {onError : StoreError → ServiceError}
    (hblame : ∀ error, onError error = blame (request.written? calls) error)
    (hmeans : ∀ record ∈ request.written? calls, means calls record) :
    Candid means calls ((b.noted storeCalls).askSectors request onError)
      (fun a calls' => calls' = calls ++ [request.storeCall calls (.ok a)]) := by
  refine answered ?_ (request.storeCall_error calls) hblame hmeans
  intro a written error h
  cases request with
  | findById tenant id => cases a <;> cases h
  | _ => cases h

/-- What a request only reads is not written. -/
theorem lookUp (request : SectorRequest α) (hreads : request.written? calls = none) :
    Candid means calls ((b.noted storeCalls).askSectors request)
      (fun a calls' => calls' = calls ++ [request.storeCall calls (.ok a)]) := by
  apply askSectors
  · rw [hreads]
    exact fun _ => rfl
  · rw [hreads]
    exact fun _ h => nomatch h

theorem lookUpOrganization (request : OrganizationRequest α) (hreads : request.written? = none) :
    Candid means calls ((b.noted storeCalls).askOrganizations request)
      (fun _ calls' => calls' = calls ++ [.answered]) := by
  apply askOrganizations
  · rw [hreads]
    exact fun _ => rfl
  · rw [hreads]
    exact fun _ h => nomatch h

theorem newCode :
    Candid means calls (liftM (b.noted storeCalls).newCode : Serving (Noting StoreCall σ) String)
      (fun _ calls' => calls' = calls) := by
  intro hcalls s
  exact .unfailed hcalls fun _ _ => rfl

theorem reported (operation : String) (h : Candid means calls action after) :
    Candid means calls ((b.noted storeCalls).reported operation action) after := by
  intro hcalls s
  rw [jot_reported]
  exact h hcalls s

theorem transaction (operation : String) (h : Candid means calls action after) :
    Candid means calls ((b.noted storeCalls).transaction operation action) after := by
  intro hcalls s
  apply jot_transaction (P := OwnsUp means after)
  · exact fun _ => .unfailed hcalls fun _ ha => nomatch ha
  · exact h hcalls
  · intro s a fault hok
    have hbody := h hcalls s
    generalize (jot s calls action).1 = p at hbody hok
    cases hbody with
    | unfailed hcalls' => exact .unfailed hcalls' fun _ ha => nomatch ha
    | failed => cases hok

/-! ## The operations, part by part -/

/-- What follows a request that tells whether something can go on as meant. -/
theorem thenDone {next : α → Serving (Noting StoreCall σ) β} (h : Candid means calls action after)
    (hnext : ∀ a calls', Candid means calls' (next a) fun _ _ => True) :
    Candid means calls (action >>= next) fun _ _ => True :=
  h.bind fun a calls' _ => hnext a calls'

theorem findOrganization (tenant : TenantId) (code : String) :
    Candid means calls ((b.noted storeCalls).findOrganization tenant code) fun _ _ => True := by
  unfold Backend.findOrganization
  apply thenDone (lookUpOrganization _ rfl)
  exact fun _ _ => (found _ _ _).mono fun _ _ _ => trivial

theorem findSector (tenant : TenantId) (id : SectorId) :
    Candid means calls ((b.noted storeCalls).findSector tenant id)
      (fun sector calls' => lastFound? tenant id calls' = some sector) := by
  unfold Backend.findSector
  apply (lookUp _ rfl).bind
  rintro value calls' rfl
  apply (found _ _ _).mono
  rintro sector calls' ⟨rfl, rfl⟩
  exact lastFound?_found tenant id calls sector

theorem findRoot (tenant : TenantId) (org : OrganizationId) :
    Candid means calls ((b.noted storeCalls).findRoot tenant org) fun _ _ => True := by
  unfold Backend.findRoot
  apply thenDone (lookUp _ rfl)
  exact fun _ _ => (found _ _ _).mono fun _ _ _ => trivial

/-- Queries only look up. -/
theorem inquire (query : Query) :
    Candid means calls (query.perform (b.noted storeCalls)) fun _ _ => True := by
  cases query with
  | findOrganization tenant code => exact findOrganization tenant code
  | listOrganizations tenant => exact (lookUpOrganization _ rfl).mono fun _ _ _ => trivial
  | findSector tenant id => exact (findSector tenant id).mono fun _ _ _ => trivial
  | findSectorByCode tenant code =>
    apply thenDone (lookUp _ rfl)
    exact fun _ _ => (found _ _ _).mono fun _ _ _ => trivial
  | findRoot tenant org => exact findRoot tenant org
  | listSectors tenant org => exact (lookUp _ rfl).mono fun _ _ _ => trivial
  | sectorTree tenant code =>
    apply thenDone (findOrganization tenant code)
    intro organization calls'
    apply thenDone (lookUp _ rfl)
    intro sectors calls'
    split
    · exact pure trivial
    · exact refuse _

theorem createOrganization (tenant : TenantId) (draft : OrganizationDraft)
    (hmeans : ∀ calls entity code label, entity = .organization ∨ entity = .rootSector →
      normalize .code draft.code = .ok code → normalize .label draft.label = .ok label →
        means calls ⟨entity, code, label⟩) :
    Candid means calls ((b.noted storeCalls).createOrganization tenant draft)
      fun _ _ => True := by
  apply reported
  apply (normalized _ _).bind
  rintro code calls' ⟨hcode, rfl⟩
  apply (normalized _ _).bind
  rintro label calls' ⟨hlabel, rfl⟩
  apply transaction
  apply thenDone (lookUpOrganization _ rfl)
  intro codeTaken calls'
  apply unlessTaken
  apply thenDone (lookUpOrganization _ rfl)
  intro labelTaken calls'
  apply unlessTaken
  apply thenDone
  · apply askOrganizations _ (writeError_eq_blame _ _ _)
    rintro record ⟨⟩
    exact hmeans _ _ _ _ (.inl rfl) hcode hlabel
  intro org calls'
  apply thenDone
  · apply askSectors _ (writeError_eq_blame _ _ _)
    rintro record ⟨⟩
    exact hmeans _ _ _ _ (.inr rfl) hcode hlabel
  exact fun _ _ => pure trivial

theorem renameOrganization (tenant : TenantId) (code label : String)
    (hmeans : ∀ calls chosen, normalize .label label = .ok chosen →
      means calls ⟨.organization, code, chosen⟩) :
    Candid means calls ((b.noted storeCalls).renameOrganization tenant code label)
      fun _ _ => True := by
  apply reported
  apply (normalized _ _).bind
  rintro chosen calls' ⟨hchosen, rfl⟩
  apply thenDone (findOrganization tenant code)
  intro organization calls'
  split
  · exact pure trivial
  · apply thenDone (lookUpOrganization _ rfl)
    intro taken calls'
    apply unlessTaken
    apply thenDone
    · apply askOrganizations _ (writeError_eq_blame _ _ _)
      rintro record ⟨⟩
      exact hmeans _ _ hchosen
    intro changed calls'
    split
    · exact refuse _
    · exact pure trivial

theorem deleteOrganization (tenant : TenantId) (code : String) :
    Candid means calls ((b.noted storeCalls).deleteOrganization tenant code) fun _ _ => True := by
  apply reported
  apply thenDone (findOrganization tenant code)
  intro organization calls'
  apply transaction
  apply thenDone (lookUp _ rfl)
  intro _ calls'
  apply thenDone (lookUpOrganization _ rfl)
  exact fun _ _ => pure trivial

theorem findParent (tenant : TenantId) (org : OrganizationId) (code : Option String) :
    Candid means calls ((b.noted storeCalls).findParent tenant org code) fun _ _ => True := by
  unfold Backend.findParent
  split
  · apply thenDone (lookUp _ rfl)
    exact fun _ _ => (found _ _ _).mono fun _ _ _ => trivial
  · exact findRoot tenant org

theorem addSector (tenant : TenantId) (org : OrganizationId) (label : String)
    (parentCode : Option String) (status : Status)
    (hmeans : ∀ calls code chosen, normalize .label label = .ok chosen →
      means calls ⟨.sector, code, chosen⟩) :
    Candid means calls ((b.noted storeCalls).addSector tenant org label parentCode status)
      fun _ _ => True := by
  unfold Backend.addSector
  apply (normalized _ _).bind
  rintro chosen calls' ⟨hchosen, rfl⟩
  apply thenDone (lookUp _ rfl)
  intro owner calls'
  apply unlessTaken
  apply thenDone (findParent tenant org parentCode)
  intro parent calls'
  apply thenDone newCode
  intro code calls'
  cases hchild : NewSector.childOf? parent code chosen status with
  | none => exact throw _
  | some child =>
    obtain ⟨-, rfl⟩ := NewSector.childOf?_eq_some hchild
    apply (askSectors _ (writeError_eq_blame _ _ _) ?_).mono fun _ _ _ => trivial
    rintro record ⟨⟩
    exact hmeans _ _ _ hchosen

theorem renameSector (tenant : TenantId) (id : SectorId) (label : String)
    (hmeans : ∀ calls sector chosen, normalize .label label = .ok chosen →
      lastFound? tenant id calls = some sector → means calls ⟨.sector, sector.code, chosen⟩) :
    Candid means calls ((b.noted storeCalls).renameSector tenant id label) fun _ _ => True := by
  apply reported
  apply (normalized _ _).bind
  rintro chosen calls' ⟨hchosen, rfl⟩
  apply (findSector tenant id).bind
  intro sector calls' hfound
  have hrest (calls' : List StoreCall) (hfound : lastFound? tenant id calls' = some sector) :
      Candid means calls'
        (do
          let changed ← (b.noted storeCalls).askSectors (.rename tenant id chosen)
            (writeError .sector sector.code chosen)
          if changed = 0 then SectorForest.refuse (.notFound .sector (toString id.toInt))
          else Pure.pure ())
        fun _ _ => True := by
    have hwritten : (SectorRequest.rename tenant id chosen).written? calls' =
        some ⟨.sector, sector.code, chosen⟩ := by
      rw [SectorRequest.written?, hfound]
      rfl
    apply thenDone
    · apply askSectors
      · rw [hwritten]
        exact writeError_eq_blame _ _ _
      · rw [hwritten]
        rintro record ⟨⟩
        exact hmeans _ _ _ hchosen hfound
    intro changed calls'
    split
    · exact refuse _
    · exact pure trivial
  apply (lookUp _ rfl).bind
  rintro owner calls'' rfl
  have hfound' : lastFound? tenant id (calls' ++ [.answered]) = some sector := by
    rw [lastFound?_answered]
    exact hfound
  cases owner with
  | none => exact hrest _ hfound'
  | some owner => exact unlessTaken (hrest _ hfound')

theorem deleteSector (tenant : TenantId) (id : SectorId) :
    Candid means calls ((b.noted storeCalls).deleteSector tenant id) fun _ _ => True := by
  apply reported
  apply thenDone (findSector tenant id)
  exact fun _ _ => (lookUp _ rfl).mono fun _ _ _ => trivial

end Candid

namespace Operation

/-- The requests that an operation makes of the stores over a state, in order. -/
def storeCalls (operation : Operation) (b : Backend (StateM σ)) (s : σ) : List StoreCall :=
  (jot s [] (operation.perform (b.noted SectorForest.storeCalls))).1.2

/-- An operation owns up to a failure of a store. -/
theorem candid_perform (b : Backend (StateM σ)) (operation : Operation) (calls : List StoreCall) :
    Candid (fun calls record => operation.Means calls record) calls
      (operation.perform (b.noted SectorForest.storeCalls)) fun _ _ => True := by
  cases operation with
  | ask query => exact .inquire query
  | change mutation =>
    cases mutation with
    | createOrganization tenant draft =>
      exact .createOrganization tenant draft fun _ _ _ _ hentity hcode hlabel =>
        ⟨hentity, hcode, hlabel⟩
    | createSector tenant org label parentCode =>
      exact .reported _ <| .addSector tenant org label parentCode .active fun _ _ _ hlabel =>
        ⟨rfl, hlabel⟩
    | createSectorIn tenant code draft =>
      refine .reported _ (.thenDone (.findOrganization tenant code) ?_)
      intro organization calls'
      apply Candid.thenDone
      · exact .addSector tenant organization.id draft.label draft.parentCode draft.status
          fun _ _ _ hlabel => ⟨rfl, hlabel⟩
      · exact fun id _ => (Candid.findSector tenant id).mono fun _ _ _ => trivial
    | renameSector tenant id label =>
      exact .renameSector tenant id label fun _ sector _ hlabel hfound =>
        ⟨rfl, hlabel, sector, hfound, rfl⟩
    | deleteSector tenant id => exact .deleteSector tenant id
    | renameOrganization tenant code label =>
      exact .renameOrganization tenant code label fun _ _ hlabel => ⟨rfl, rfl, hlabel⟩
    | deleteOrganization tenant code => exact .deleteOrganization tenant code

/-- Noting the requests of an operation changes nothing else. -/
theorem jot_perform (b : Backend (StateM σ)) (operation : Operation) (s : σ) :
    jot s [] (operation.perform (b.noted SectorForest.storeCalls)) =
      (((StateT.run (operation.perform b).run s).1, operation.storeCalls b s),
        (StateT.run (operation.perform b).run s).2) := by
  obtain ⟨later, hjot⟩ :=
    (mirrors_elementary b SectorForest.storeCalls).congruent.operate operation s []
  rw [storeCalls, hjot]

/-- Over stores of any kind and from any state on, nothing more is asked of the stores after a
request that fails, and the operation ends in the error that the service makes of the store's. If a
record was to be written, then it was the one meant by the caller. -/
theorem failure_ends (b : Backend (StateM σ)) (operation : Operation) (s : σ)
    {earlier later : List StoreCall} {written : Option Written} {error : StoreError}
    (hfailed : operation.storeCalls b s = earlier ++ .failed written error :: later) :
    later = [] ∧
      (StateT.run (operation.perform b).run s).1 = .error (.refused (blame written error)) ∧
      ∀ record ∈ written, operation.Means earlier record := by
  have howns := candid_perform b operation [] (fun _ _ h => nomatch h) s
  rw [jot_perform, hfailed] at howns
  exact howns.failed_last

/-- An organization with the code of a sector that another tenant has. -/
def intruding : Operation :=
  .change (.createOrganization 2 { code := " acme ", label := "Second", kind := .bu })

/-- Its root cannot be created, and so it is refused over the code. -/
theorem failure_ends_intruding :
    let s := Records.chain.session ""
    intruding.storeCalls Session.backend s = [.answered, .answered, .answered,
      .failed (some ⟨.rootSector, "acme", "Second"⟩)
        (.ofFault (.notUnique "UNIQUE constraint failed: sectors.code"))] ∧
    (s.run (intruding.perform Session.backend)).1 =
      .error (.refused (.conflict .rootSector .code "acme")) := by
  intro s
  have hcalls : intruding.storeCalls Session.backend s = [.answered, .answered, .answered] ++
      .failed (some ⟨.rootSector, "acme", "Second"⟩)
        (.ofFault (.notUnique "UNIQUE constraint failed: sectors.code")) :: [] := by
    decide +kernel
  have hblame : blame (some ⟨.rootSector, "acme", "Second"⟩)
      (.ofFault (.notUnique "UNIQUE constraint failed: sectors.code")) =
        .conflict .rootSector .code "acme" := by
    decide +kernel
  obtain ⟨-, hending, -⟩ := failure_ends Session.backend intruding s hcalls
  rw [hblame] at hending
  exact ⟨hcalls, hending⟩

end Operation

end SectorForest
