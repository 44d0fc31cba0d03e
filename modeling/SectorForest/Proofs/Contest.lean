import SectorForest.Proofs.Noted

/-!
# Conflicts over codes and labels

What a call writes may be refused because of a code or label that is taken, even though the call has
looked before: somebody else may have come first. `Mutation.Contested` lists the texts that a call
may be refused for this reason, each with the record that has it, and `Session.honest_perform` says
that every call that is refused ends in the conflict over one of them.
-/

namespace SectorForest

open Storage

/-- The tenant of the sector that a call creates below another one, and the label it asks for. -/
def Mutation.newSector? : Mutation → Option (TenantId × String)
  | .createSector tenant _ label _ => some (tenant, label)
  | .createSectorIn tenant _ draft => some (tenant, draft.label)
  | _ => none

/-- A call cannot have a text as a code or label of what it is about, for a record has it. -/
inductive Mutation.Contested (codes : Nat → String) (r : Records) :
    Mutation → Entity → TextField → String → Prop
  | organizationCode {tenant : TenantId} {draft : OrganizationDraft} {code : String}
    (hcode : normalize .code draft.code = .ok code)
    (htaken : ∃ o ∈ r.organizations, o.tenant = tenant ∧ o.code = code) :
    Contested codes r (.createOrganization tenant draft) .organization .code code
  | organizationLabel {tenant : TenantId} {draft : OrganizationDraft} {label : String}
    (hlabel : normalize .label draft.label = .ok label)
    (htaken : ∃ o ∈ r.organizations, o.tenant = tenant ∧ o.label = label) :
    Contested codes r (.createOrganization tenant draft) .organization .label label
  /-- The root of an organization takes its code, which no sector of any tenant may have. -/
  | rootCode {tenant : TenantId} {draft : OrganizationDraft} {code : String}
    (hcode : normalize .code draft.code = .ok code) (htaken : ∃ x ∈ r.sectors, x.code = code) :
    Contested codes r (.createOrganization tenant draft) .rootSector .code code
  | rootLabel {tenant : TenantId} {draft : OrganizationDraft} {label : String}
    (hlabel : normalize .label draft.label = .ok label)
    (htaken : ∃ x ∈ r.sectors, x.tenant = tenant ∧ x.label = label) :
    Contested codes r (.createOrganization tenant draft) .rootSector .label label
  /-- The code of a new sector is one of those that the session gives. -/
  | sectorCode {mutation : Mutation} {tenant : TenantId} {text code : String}
    (hnew : mutation.newSector? = some (tenant, text)) (hcode : ∃ n, codes n = code)
    (htaken : ∃ x ∈ r.sectors, x.code = code) : Contested codes r mutation .sector .code code
  | sectorLabel {mutation : Mutation} {tenant : TenantId} {text label : String}
    (hnew : mutation.newSector? = some (tenant, text))
    (hlabel : normalize .label text = .ok label)
    (htaken : ∃ x ∈ r.sectors, x.tenant = tenant ∧ x.label = label) :
    Contested codes r mutation .sector .label label
  | renamedSector {tenant : TenantId} {id : SectorId} {text label : String}
    (hlabel : normalize .label text = .ok label)
    (htaken : ∃ x ∈ r.sectors, x.tenant = tenant ∧ x.label = label ∧ x.id ≠ id) :
    Contested codes r (.renameSector tenant id text) .sector .label label
  | renamedOrganization {tenant : TenantId} {code text label : String}
    (hlabel : normalize .label text = .ok label)
    (htaken : ∃ o ∈ r.organizations, o.tenant = tenant ∧ o.label = label ∧ o.code ≠ code) :
    Contested codes r (.renameOrganization tenant code text) .organization .label label

/-! ## What the tables refuse -/

section Refused

variable {fault : Fault} {entity : Entity} {C : Entity → TextField → String → Prop}

theorem Sector.fault?_conflict {others : List Sector} {s : Sector}
    (h : s.fault? others = some fault) (hunique : fault.uniqueDetail? ≠ none)
    (hcode : ∀ x ∈ others, x.code = s.code → C entity .code s.code)
    (hlabel : ∀ x ∈ others, x.tenant = s.tenant → x.label = s.label → C entity .label s.label) :
    (writeError entity s.code s.label (.ofFault fault)).IsConflict C := by
  obtain ⟨hlabelled, -, hcoded, -⟩ := writeError_notUnique entity s.code s.label
  rw [Sector.fault?_eq] at h
  split at h
  · cases h
    exact absurd rfl hunique
  · split at h
    · rename_i htaken
      cases h
      obtain ⟨x, hx, htenant, hsame⟩ := htaken
      exact ⟨_, _, _, hlabelled, hlabel x hx htenant hsame⟩
    · split at h
      · rename_i htaken
        cases h
        obtain ⟨x, hx, hsame⟩ := htaken
        exact ⟨_, _, _, hcoded, hcode x hx hsame⟩
      · cases h

theorem Organization.fault?_conflict {others : List Organization} {o : Organization}
    (h : o.fault? others = some fault)
    (hcode : ∀ x ∈ others, x.tenant = o.tenant → x.code = o.code → C entity .code o.code)
    (hlabel : ∀ x ∈ others, x.tenant = o.tenant → x.label = o.label → C entity .label o.label) :
    (writeError entity o.code o.label (.ofFault fault)).IsConflict C := by
  obtain ⟨-, hlabelled, -, hcoded⟩ := writeError_notUnique entity o.code o.label
  rw [Organization.fault?_eq] at h
  split at h
  · rename_i htaken
    cases h
    obtain ⟨x, hx, htenant, hsame⟩ := htaken
    exact ⟨_, _, _, hlabelled, hlabel x hx htenant hsame⟩
  · split at h
    · rename_i htaken
      cases h
      obtain ⟨x, hx, htenant, hsame⟩ := htaken
      exact ⟨_, _, _, hcoded, hcode x hx htenant hsame⟩
    · cases h

namespace Records

variable {r : Records}

theorem insertSector_conflict {new : NewSector} (h : r.insertSector new = .error fault)
    (hunique : fault.uniqueDetail? ≠ none)
    (hcode : ∀ x ∈ r.sectors, x.code = new.code → C entity .code new.code)
    (hlabel : ∀ x ∈ r.sectors, x.tenant = new.tenant → x.label = new.label →
      C entity .label new.label) :
    (writeError entity new.code new.label (.ofFault fault)).IsConflict C := by
  rw [insertSector] at h
  split at h
  · cases h
    exact absurd rfl hunique
  · split at h
    · rename_i hfault
      cases h
      exact Sector.fault?_conflict hfault hunique hcode hlabel
    · split at h
      · cases h
      · cases h
        exact absurd rfl hunique

theorem insertOrganization_conflict {new : NewOrganization}
    (h : r.insertOrganization new = .error fault) (hunique : fault.uniqueDetail? ≠ none)
    (hcode : ∀ x ∈ r.organizations, x.tenant = new.tenant → x.code = new.code →
      C entity .code new.code)
    (hlabel : ∀ x ∈ r.organizations, x.tenant = new.tenant → x.label = new.label →
      C entity .label new.label) :
    (writeError entity new.code new.label (.ofFault fault)).IsConflict C := by
  rw [insertOrganization] at h
  split at h
  · cases h
    exact absurd rfl hunique
  · split at h
    · rename_i hfault
      cases h
      exact Organization.fault?_conflict hfault hcode hlabel
    · cases h

theorem renameSector_conflict {tenant : TenantId} {id : SectorId} {code label : String}
    (h : r.renameSector tenant id label = .error fault)
    (hlabel : ∀ x ∈ r.sectors, x.tenant = tenant → x.label = label → x.id ≠ id →
      C entity .label label) :
    (writeError entity code label (.ofFault fault)).IsConflict C := by
  rw [renameSector] at h
  split at h
  · cases h
  · split at h
    · rename_i htaken
      cases h
      obtain ⟨x, hx, hother⟩ := List.any_eq_true.mp htaken
      simp only [Bool.and_eq_true, Bool.not_eq_true', beq_iff_eq, Bool.and_eq_false_imp,
        beq_eq_false_iff_ne] at hother
      obtain ⟨hid, htenant, hsame⟩ := hother
      exact ⟨_, _, _, (writeError_notUnique entity code label).1,
        hlabel x hx htenant.symm hsame.symm (hid htenant.symm)⟩
    · cases h

theorem renameOrganization_conflict {tenant : TenantId} {code label : String}
    (h : r.renameOrganization tenant code label = .error fault)
    (hlabel : ∀ x ∈ r.organizations, x.tenant = tenant → x.label = label → x.code ≠ code →
      C entity .label label) :
    (writeError entity code label (.ofFault fault)).IsConflict C := by
  rw [renameOrganization] at h
  split at h
  · cases h
  · split at h
    · rename_i htaken
      cases h
      obtain ⟨x, hx, hother⟩ := List.any_eq_true.mp htaken
      simp only [Bool.and_eq_true, Bool.not_eq_true', beq_iff_eq, Bool.and_eq_false_imp,
        beq_eq_false_iff_ne] at hother
      obtain ⟨hcode, htenant, hsame⟩ := hother
      exact ⟨_, _, _, (writeError_notUnique entity code label).2.1,
        hlabel x hx htenant.symm hsame.symm (hcode htenant.symm)⟩
    · cases h

end Records

end Refused

namespace Session

open Records

section Calls

variable {codes : Nat → String} {C : Records → Entity → TextField → String → Prop}
  {tenant : TenantId}

/-! ## What is looked for -/

theorem honest_findOrganization (code : String) :
    Honest codes C (fun _ => True) (stepwiseNoted.findOrganization tenant code) := by
  unfold Backend.findOrganization
  apply Honest.look fun r _ c hc => OrganizationRequest.answer_findByCode hc tenant code
  exact fun _ _ => honest_found fun _ _ => trivial

theorem honest_findSector (id : SectorId) :
    Honest codes C (fun _ => True) (stepwiseNoted.findSector tenant id) := by
  unfold Backend.findSector
  apply Honest.look fun r hr c hc => SectorRequest.answer_findById hc hr.readable tenant id
  exact fun _ _ => honest_found fun _ _ => trivial

/-- A parent is a sector of the tenant that is served. -/
theorem honest_findParent (org : OrganizationId) (code : Option String) :
    Honest codes C (fun parent => parent.tenant = tenant)
      (stepwiseNoted.findParent tenant org code) := by
  unfold Backend.findParent
  split
  · rename_i code _
    apply Honest.look fun r hr c hc =>
      SectorRequest.answer_findByCode hc hr.readable tenant code
    exact fun r _ => honest_found fun parent hparent =>
      (sectorByCode?_eq_some (Option.filter_eq_some_iff.mp hparent).1).2.1
  · unfold Backend.findRoot
    apply Honest.look fun r hr c hc => SectorRequest.answer_findRoot hc hr.readable tenant org
    exact fun r _ => honest_found fun parent hparent => (root?_eq_some hparent).2.1

/-! ## What is changed -/

theorem honest_addSector {mutation : Mutation} {label : String}
    (hnew : mutation.newSector? = some (tenant, label)) (org : OrganizationId)
    (parentCode : Option String) (status : Status) :
    Honest codes (fun r => mutation.Contested codes r) (fun _ => True)
      (stepwiseNoted.addSector tenant org label parentCode status) := by
  unfold Backend.addSector
  apply (honest_normalized _ _).bind
  intro chosen hchosen
  apply Honest.look fun r _ c hc => SectorRequest.answer_findByLabel hc tenant chosen
  intro r _
  apply Honest.unlessTaken
  apply (honest_findParent org parentCode).bind
  intro parent hparent
  apply honest_newCode.bind
  rintro code hcode
  cases hchild : NewSector.childOf? parent code chosen status with
  | none => exact honest_throw _
  | some child =>
    obtain ⟨-, rfl⟩ := NewSector.childOf?_eq_some hchild
    apply Honest.change fun r hr c hc => SectorRequest.answer_create hc hr _
    · exact fun r a r' hr h => hr.insertSector h
    · intro r fault _ hfault hunique
      refine insertSector_conflict hfault hunique (fun x hx hsame => ?_)
        fun x hx htenant hsame => ?_
      · exact .sectorCode hnew hcode ⟨x, hx, hsame⟩
      · exact .sectorLabel hnew hchosen ⟨x, hx, htenant.trans hparent, hsame⟩

theorem honest_createOrganization (draft : OrganizationDraft) :
    Honest codes (fun r => (Mutation.createOrganization tenant draft).Contested codes r)
      (fun _ => True) (stepwiseNoted.createOrganization tenant draft) := by
  unfold Backend.createOrganization
  apply Honest.reported
  apply (honest_normalized _ _).bind
  intro code hcode
  apply (honest_normalized _ _).bind
  intro label hlabel
  apply Honest.transaction
  apply Honest.look fun r _ c hc => OrganizationRequest.answer_existsByCode hc tenant code
  intro r _
  apply Honest.unlessTaken
  apply Honest.look fun r _ c hc => OrganizationRequest.answer_existsByLabel hc tenant label
  intro r _
  apply Honest.unlessTaken
  apply Honest.bind (V := fun _ => True)
  · apply Honest.change fun r hr c hc => OrganizationRequest.answer_createInTransaction hc hr _
    · exact fun r a r' hr h => hr.insertOrganization h
    · intro r fault _ hfault hunique
      refine insertOrganization_conflict hfault hunique (fun o ho htenant hsame => ?_)
        fun o ho htenant hsame => ?_
      · exact .organizationCode hcode ⟨o, ho, htenant, hsame⟩
      · exact .organizationLabel hlabel ⟨o, ho, htenant, hsame⟩
  intro org _
  apply Honest.bind (V := fun _ => True)
  · apply Honest.change fun r hr c hc => SectorRequest.answer_createInTransaction hc hr _
    · exact fun r a r' hr h => hr.insertSector h
    · intro r fault _ hfault hunique
      refine insertSector_conflict hfault hunique (fun x hx hsame => ?_)
        fun x hx htenant hsame => ?_
      · exact .rootCode hcode ⟨x, hx, hsame⟩
      · exact .rootLabel hlabel ⟨x, hx, htenant, hsame⟩
  exact fun _ _ => honest_pure trivial

theorem honest_renameSector (id : SectorId) (text : String) :
    Honest codes (fun r => (Mutation.renameSector tenant id text).Contested codes r)
      (fun _ => True) (stepwiseNoted.renameSector tenant id text) := by
  unfold Backend.renameSector
  apply Honest.reported
  apply (honest_normalized _ _).bind
  intro label hlabel
  apply (honest_findSector id).bind
  intro sector _
  have hrest : Honest codes (fun r => (Mutation.renameSector tenant id text).Contested codes r)
      (fun _ => True) (do
        let changed ← stepwiseNoted.askSectors (.rename tenant id label)
          (writeError .sector sector.code label)
        if changed = 0 then refuse (.notFound .sector (toString id.toInt)) else pure ()) := by
    apply Honest.bind (V := fun _ => True)
    · apply Honest.change fun r hr c hc => SectorRequest.answer_rename hc hr tenant id label
      · exact fun r a r' hr h => hr.renameSector h
      · intro r fault _ hfault _
        exact renameSector_conflict hfault fun x hx htenant hsame hother =>
          .renamedSector hlabel ⟨x, hx, htenant, hsame, hother⟩
    · intro changed _
      split
      · exact honest_refuse _
      · exact honest_pure trivial
  apply Honest.look fun r _ c hc => SectorRequest.answer_findByLabel hc tenant label
  intro r _
  cases r.sectorByLabel? tenant label with
  | none => exact hrest
  | some owner => exact hrest.unlessTaken

theorem honest_renameOrganization (code text : String) :
    Honest codes (fun r => (Mutation.renameOrganization tenant code text).Contested codes r)
      (fun _ => True) (stepwiseNoted.renameOrganization tenant code text) := by
  unfold Backend.renameOrganization
  apply Honest.reported
  apply (honest_normalized _ _).bind
  intro label hlabel
  apply (honest_findOrganization code).bind
  intro organization _
  split
  · exact honest_pure trivial
  apply Honest.look fun r _ c hc => OrganizationRequest.answer_existsByLabel hc tenant label
  intro r _
  apply Honest.unlessTaken
  apply Honest.bind (V := fun _ => True)
  · apply Honest.change fun r hr c hc =>
      OrganizationRequest.answer_rename hc hr tenant code label
    · exact fun r a r' hr h => hr.renameOrganization h
    · intro r fault _ hfault _
      exact renameOrganization_conflict hfault fun o ho htenant hsame hother =>
        .renamedOrganization hlabel ⟨o, ho, htenant, hsame, hother⟩
  · intro changed _
    split
    · exact honest_refuse _
    · exact honest_pure trivial

theorem honest_deleteSector (id : SectorId) :
    Honest codes C (fun _ => True) (stepwiseNoted.deleteSector tenant id) := by
  unfold Backend.deleteSector
  apply Honest.reported
  apply (honest_findSector id).bind
  intro sector _
  apply Honest.change fun r hr c hc => SectorRequest.answer_delete hc hr tenant id
  · rintro r a r' hr ⟨⟩
    exact hr.removeSectors _
  · rintro r fault _ ⟨⟩

theorem honest_deleteOrganization (code : String) :
    Honest codes C (fun _ => True) (stepwiseNoted.deleteOrganization tenant code) := by
  unfold Backend.deleteOrganization
  apply Honest.reported
  apply (honest_findOrganization code).bind
  intro organization _
  apply Honest.transaction
  apply Honest.bind (V := fun _ => True)
  · apply Honest.change fun r hr c hc =>
      SectorRequest.answer_deleteAllForOrganizationInTransaction hc hr organization.id
    · rintro r a r' hr ⟨⟩
      exact hr.removeSectors _
    · rintro r fault _ ⟨⟩
  intro _ _
  apply Honest.bind (V := fun _ => True)
  · apply Honest.change fun r hr c hc =>
      OrganizationRequest.answer_deleteInTransaction hc tenant code
    · exact fun r a r' hr h => hr.deleteOrganization h
    · intro r fault _ hfault hunique
      rw [Records.deleteOrganization] at hfault
      split at hfault
      · cases hfault
      · cases hfault
        exact absurd rfl hunique
  exact fun _ _ => honest_pure trivial

variable (codes) in
/-- Every call ends in the conflict over any code or label that it is refused. -/
theorem honest_perform (mutation : Mutation) :
    Honest codes (fun r => mutation.Contested codes r) (fun _ => True)
      (mutation.perform stepwiseNoted) := by
  cases mutation with
  | createOrganization tenant draft => exact honest_createOrganization draft
  | createSector tenant org label parentCode =>
    exact (honest_addSector rfl org parentCode .active).reported _
  | createSectorIn tenant code draft =>
    apply Honest.reported
    apply (honest_findOrganization code).bind
    intro organization _
    apply (honest_addSector rfl organization.id draft.parentCode draft.status).bind
    exact fun id _ => honest_findSector id
  | renameSector tenant id label => exact honest_renameSector id label
  | deleteSector tenant id => exact honest_deleteSector id
  | renameOrganization tenant code label => exact honest_renameOrganization code label
  | deleteOrganization tenant code => exact honest_deleteOrganization code

end Calls

end Session

end SectorForest
