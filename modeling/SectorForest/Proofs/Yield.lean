import SectorForest.Proofs.Script
import SectorForest.Proofs.Spare

/-!
# What is left of a call after another one

A call that has looked at records goes on with what it has seen, while another one changes them. For
every call, and every point of it, what is left to do comes to what the whole call would have come
to on the changed records, or it fails as the whole call would have failed before:
`Process.Agrees`. That is so since the tables refuse what was free when it was looked for and is not
any more, with the very error that a look would have led to, and since giving a label tells whether
there was anything to give it to.
-/

namespace SectorForest

open Process

variable {α β : Type}

variable {r r' : Records}

/-! ## What is left of a script

In each rule `whole` is what has been asked for, and `rest` what is left of it after some looks. -/

section Rules

variable {whole rest : Script α} {next : β → Script α}

/-- Where the whole script begins with a result, it is a matter of what comes next. -/
theorem agrees_settle {result : Except Failure β}
    (hrest : Looks r (Script.settle result next) rest)
    (h : ∀ b, result = .ok b → Looks r (next b) rest → Agrees r r' (next b) rest) :
    Agrees r r' (Script.settle result next) rest := by
  cases result with
  | error failure => exact hrest.agrees hrest r'
  | ok b => exact h b rfl hrest

theorem Process.Looks.agrees_settle (hrest : Looks r whole rest) {result : Except Failure β}
    (hleft : Looks r (Script.settle result next) rest)
    (h : ∀ b, result = .ok b → Looks r (next b) rest → Agrees r r' whole rest) :
    Agrees r r' whole rest := by
  cases result with
  | error failure => exact hrest.agrees hleft r'
  | ok b => exact h b rfl hleft

/-- A look is still to be taken, or has told something. -/
theorem Process.Looks.agrees_inspect (hrest : Looks r whole rest)
    {view : Records → Except Failure β} (hleft : Looks r (Script.inspect view next) rest)
    (hstart : Agrees r r' whole (Script.inspect view next))
    (h : ∀ b, view r = .ok b → Looks r (next b) rest → Agrees r r' whole rest) :
    Agrees r r' whole rest := by
  rcases hleft.cases_takes with rfl | ⟨-, hleft⟩
  · exact hstart
  · exact hrest.agrees_settle hleft h

/-- A change is still to be made, or has left everything as it was. -/
theorem Process.Looks.agrees_alter (hrest : Looks r whole rest)
    {change : Records → Except Failure (β × Records)}
    (hleft : Looks r (Script.alter change next) rest)
    (hstart : Agrees r r' whole (Script.alter change next))
    (h : ∀ b, change r = .ok (b, r) → Looks r (next b) rest → Agrees r r' whole rest) :
    Agrees r r' whole rest := by
  rcases hleft.cases_takes with rfl | ⟨hsame, hleft⟩
  · exact hstart
  refine hrest.agrees_settle hleft fun b hb => h b ?_
  cases hchange : change r with
  | error failure =>
    rw [hchange] at hb
    cases hb
  | ok changed =>
    rw [hchange] at hb hsame
    cases hb
    exact congrArg (fun r => Except.ok (changed.1, r)) hsame

/-- A change that nothing comes after is still to be made, or the script has ended. -/
theorem Process.Looks.agrees_alter_last (hrest : Looks r whole rest)
    {change : Records → Except Failure (β × Records)}
    (hleft : Looks r (Script.alter change next) rest)
    (hends : ∀ b, ∃ ending, next b = .ends ending)
    (hstart : Agrees r r' whole (Script.alter change next)) : Agrees r r' whole rest := by
  refine hrest.agrees_alter hleft hstart fun b _ hleft => ?_
  obtain ⟨ending, hending⟩ := hends b
  rw [hending] at hleft
  exact hrest.agrees hleft r'

end Rules

namespace Script

theorem run_inspect (view : Records → Except Failure β) (next : β → Script α) :
    (inspect view next).run r = (settle (view r) next).run r :=
  rfl

theorem run_alter (change : Records → Except Failure (β × Records)) (next : β → Script α) :
    (alter change next).run r =
      (settle ((change r).map Prod.fst) next).run (altered r (change r)) :=
  rfl

theorem run_alter_error {change : Records → Except Failure (β × Records)} {next : β → Script α}
    {failure : Failure} (h : change r = .error failure) :
    (alter change next).run r = (.error failure, r) := by
  rw [run_alter, h]
  rfl

end Script

/-- A label that the tables refuse is told as one that a look has found taken. -/
theorem carryOut_label {change : Except Storage.Fault (β × Records)} {entity : Entity}
    {code label : String}
    (h : change = .error (.notUnique Schema.sectorLabelDetail) ∨
      change = .error (.notUnique Schema.organizationLabelDetail)) :
    carryOut change (writeError entity code label) =
      .error (.refused (.conflict entity .label label)) := by
  rcases h with rfl | rfl <;> rfl

namespace Records

variable {newCode : String} {x : Mutation} {a : x.Answer} (h : r.Effect newCode x a r')
  {tenant : TenantId}

/-! ## Deleting -/

section
include h

theorem agrees_deleteSector {id : SectorId} {rest : Script Nat}
    (hspared : ∀ s, r.sector? tenant id = some s → x.removes r s = false)
    (hrest : Looks r (Script.deleteSector tenant id) rest) :
    Agrees r r' (Script.deleteSector tenant id) rest := by
  refine hrest.agrees_inspect hrest (.inl rfl) fun s hs hleft => ?_
  have hs := need_eq_ok hs
  refine hrest.agrees_alter_last hleft (fun _ => ⟨_, rfl⟩) (.inl ?_)
  obtain ⟨s', hs', -⟩ := h.sector?_again hs (hspared s hs)
  rw [Script.deleteSector, Script.run_inspect, hs', Script.settle_need]

theorem agrees_deleteOrganization {code : String} {rest : Script Unit}
    (hspared : ∀ o, r.organization? tenant code = some o → x ≠ .deleteOrganization tenant code)
    (hrest : Looks r (Script.deleteOrganization tenant code) rest) :
    Agrees r r' (Script.deleteOrganization tenant code) rest := by
  refine hrest.agrees_inspect hrest (.inl rfl) fun o ho hleft => ?_
  have ho := need_eq_ok ho
  refine hrest.agrees_alter_last hleft (fun _ => ⟨_, rfl⟩) (.inl ?_)
  obtain ⟨o', ho', hkept⟩ := h.organization?_again ho (hspared o ho)
  rw [Script.deleteOrganization, Script.run_inspect, ho', Script.settle_need,
    Organization.id_eq_of_unlabelled hkept]

end

/-! ## Giving labels -/

/-- Nothing to give a label to is told as it would be by a look. -/
theorem run_labelSector_missing {id : SectorId} {code label : String}
    (hs : r.sector? tenant id = none) :
    (Script.labelSector tenant id code label).run r =
      (.error (.refused (.notFound .sector (toString id.toInt))), r) := by
  rw [Script.labelSector, Script.run_alter, renameSector, hs]
  rfl

/-- A label that another sector has is refused as it would be by a look. -/
theorem run_labelSector_taken (hr : r.Sound) {id : SectorId} {label : String} {s : Sector}
    (hs : r.sector? tenant id = some s) (htaken : r.labelledOther tenant s.code label = true) :
    (Script.labelSector tenant id s.code label).run r =
      (.error (.refused (.conflict .sector .label label)), r) := by
  obtain ⟨owner, hmem, htenant, hlabel, hcode⟩ := hr.labelledOther_iff.mp htaken
  obtain ⟨hmem', -, hid⟩ := sector?_eq_some hs
  have hother : owner.id ≠ id := by
    intro heq
    have hsame : owner = s :=
      distinctBy_number hr.sectors_increasing owner hmem s hmem' (heq.trans hid.symm)
    exact hcode (by rw [hsame])
  have hclash : (r.sectors.any fun x =>
      !(x.tenant == tenant && x.id == id) && (tenant == x.tenant && label == x.label)) = true :=
    List.any_eq_true.mpr ⟨owner, hmem, by simp [htenant, hlabel, hother]⟩
  rw [Script.labelSector]
  refine Script.run_alter_error (carryOut_label (.inl ?_))
  rw [renameSector, hs]
  simp only [hclash, if_true]

theorem run_relabelSector (id : SectorId) (label : String) (s : Sector) :
    (Script.relabelSector tenant id label s).run r =
      if r.labelledOther tenant s.code label then
        (.error (.refused (.conflict .sector .label label)), r)
      else (Script.labelSector tenant id s.code label).run r := by
  rw [Script.relabelSector, Script.run_inspect]
  show (Script.settle (unlessTaken (r.labelledOther tenant s.code label) _) _).run r = _
  cases r.labelledOther tenant s.code label <;> rfl

section
variable (h : r.Effect newCode x a r') (hr : r.Sound) {id : SectorId} {s : Sector}
  (hs : r.sector? tenant id = some s)
include h hr hs

theorem Effect.code_same {s' : Sector} (hs' : r'.sector? tenant id = some s') :
    s'.code = s.code :=
  (Sector.fields_of_unlabelled (h.sector?_same hr hs hs')).2.2.2.1

omit hr in
/-- A sector that was found and is not found again was taken away, and nothing was added then. -/
theorem Effect.loses_sectors (hs' : r'.sector? tenant id = none) : r'.sectors ⊆ r.sectors := by
  rcases h.keeps_or_loses with ⟨hkeeps, -⟩ | ⟨hloses, -⟩
  · obtain ⟨s', hagain, -⟩ := h.sector?_again hs (hkeeps s)
    rw [hs'] at hagain
    cases hagain
  · exact hloses

/-- A sector was found under the number, and no look was taken at the label yet. -/
theorem agrees_relabelSector (label : String) :
    Agrees r r'
      (Script.inspect (fun r => need .sector (toString id.toInt) (r.sector? tenant id))
        (Script.relabelSector tenant id label))
      (Script.relabelSector tenant id label s) := by
  rw [Agrees, Script.run_inspect, Script.run_inspect, hs]
  cases hs' : r'.sector? tenant id with
  | some s' =>
    left
    show _ = (Script.relabelSector tenant id label s').run r'
    rw [run_relabelSector, run_relabelSector, h.code_same hr hs hs']
  | none =>
    cases htaken : r'.labelledOther tenant s.code label with
    | false =>
      left
      rw [run_relabelSector, htaken]
      exact run_labelSector_missing hs'
    | true =>
      -- whoever has the label now has had it before
      obtain ⟨owner, hmem, hother⟩ := (h.sound hr).labelledOther_iff.mp htaken
      have hbefore : r.labelledOther tenant s.code label = true :=
        hr.labelledOther_iff.mpr ⟨owner, h.loses_sectors hs hs' hmem, hother⟩
      refine .inr ⟨.error (.refused (.conflict .sector .label label)), ?_, ?_⟩
      · rw [run_relabelSector, htaken]
        rfl
      · show (Script.relabelSector tenant id label s).run r = _
        rw [run_relabelSector, hbefore]
        rfl

/-- A sector was found under the number, and no other one had the label. -/
theorem agrees_labelSector (label : String) :
    Agrees r r'
      (Script.inspect (fun r => need .sector (toString id.toInt) (r.sector? tenant id))
        (Script.relabelSector tenant id label))
      (Script.labelSector tenant id s.code label) := by
  left
  rw [Script.run_inspect]
  cases hs' : r'.sector? tenant id with
  | none => exact run_labelSector_missing hs'
  | some s' =>
    show _ = (Script.relabelSector tenant id label s').run r'
    have hcode := h.code_same hr hs hs'
    rw [run_relabelSector, hcode]
    cases htaken : r'.labelledOther tenant s.code label with
    | false => rfl
    | true =>
      rw [← hcode] at htaken ⊢
      exact run_labelSector_taken (h.sound hr) hs' htaken

end

theorem agrees_renameSector (h : r.Effect newCode x a r') (hr : r.Sound) {id : SectorId}
    {label : String} {rest : Script Unit}
    (hrest : Looks r (Script.renameSector tenant id label) rest) :
    Agrees r r' (Script.renameSector tenant id label) rest := by
  refine agrees_settle hrest fun text _ hrest => ?_
  refine hrest.agrees_inspect hrest (.inl rfl) fun s hs hleft => ?_
  have hs := need_eq_ok hs
  refine hrest.agrees_inspect hleft (agrees_relabelSector h hr hs text) fun _ _ hleft => ?_
  exact hrest.agrees_alter_last hleft (fun _ => ⟨_, Script.settle_done _⟩)
    (agrees_labelSector h hr hs text)

theorem run_labelOrganization_missing {code label : String}
    (ho : r.organization? tenant code = none) :
    (Script.labelOrganization tenant code label).run r =
      (.error (.refused (.notFound .organization code)), r) := by
  rw [Script.labelOrganization, Script.run_alter, renameOrganization, ho]
  rfl

theorem run_labelOrganization_taken (hr : r.Sound) {code label : String} {o : Organization}
    (ho : r.organization? tenant code = some o) (hne : o.label ≠ label)
    (htaken : r.hasOrganizationLabel tenant label = true) :
    (Script.labelOrganization tenant code label).run r =
      (.error (.refused (.conflict .organization .label label)), r) := by
  obtain ⟨hmem, htenant, hcode⟩ := organization?_eq_some ho
  obtain ⟨owner, howner, hkey⟩ := List.any_eq_true.mp htaken
  simp only [Bool.and_eq_true, beq_iff_eq] at hkey
  have hother : owner.code ≠ code := by
    intro heq
    have hsame : owner = o :=
      hr.organization_codes owner howner o hmem (by simp [hkey.1, htenant, heq, hcode])
    exact hne (by rw [← hsame, hkey.2])
  have hclash : (r.organizations.any fun x =>
      !(x.tenant == tenant && x.code == code) && (tenant == x.tenant && label == x.label)) = true :=
    List.any_eq_true.mpr ⟨owner, howner, by simp [hkey, hother]⟩
  rw [Script.labelOrganization]
  refine Script.run_alter_error (carryOut_label (.inr ?_))
  rw [renameOrganization, ho]
  simp only [hclash, if_true]

theorem run_relabelOrganization (code label : String) (o : Organization) :
    (Script.relabelOrganization tenant code label o).run r =
      if o.label = label then (.ok (), r)
      else if r.hasOrganizationLabel tenant label then
        (.error (.refused (.conflict .organization .label label)), r)
      else (Script.labelOrganization tenant code label).run r := by
  unfold Script.relabelOrganization
  by_cases hsame : o.label = label
  · rw [if_pos hsame, if_pos hsame]
    rfl
  · rw [if_neg hsame, if_neg hsame, Script.run_inspect]
    cases r.hasOrganizationLabel tenant label <;> rfl

/-- An organization has a new label only by a call that gives it this label. -/
theorem Effect.label_eq (h : r.Effect newCode x a r') (hr : r.Sound) {code label : String}
    {o o' : Organization} (ho : r.organization? tenant code = some o)
    (ho' : r'.organization? tenant code = some o') (hspared : x.labels tenant code label = false)
    (hlabel : o'.label = label) : o.label = label := by
  obtain ⟨hmem, rfl, rfl⟩ := organization?_eq_some ho
  obtain ⟨hmem', htenant, hcode⟩ := organization?_eq_some ho'
  have hkept (hold : o' ∈ r.organizations) : o.label = label := by
    have hsame : o' = o := hr.organization_codes o' hold o hmem (by simp [htenant, hcode])
    rw [← hsame]
    exact hlabel
  cases h with
  | createOrganization _ _ hfounds =>
    rcases List.mem_append.mp hmem' with hold | hnew
    · exact hkept hold
    · -- the code of the new one was free
      rw [List.mem_singleton.mp hnew] at htenant hcode
      exact absurd hcode.symm (hfounds.organization_code_free o hmem htenant.symm)
  | @renameOrganization tenant' code' label' text _ _ htext _ =>
    obtain ⟨before, hold, rfl⟩ := List.mem_map.mp hmem'
    by_cases hkey : before.tenant = tenant' ∧ before.code = code'
    · -- then it is this call that gives the label
      simp only [if_pos hkey] at htenant hcode hlabel
      have hlabels : (Mutation.renameOrganization tenant' code' label').labels o.tenant o.code
          label = true := by
        simp [Mutation.labels, ← hkey.1, ← hkey.2, htenant, hcode, htext, Except.toOption, hlabel]
      rw [hspared] at hlabels
      cases hlabels
    · rw [if_neg hkey] at hkept
      exact hkept hold
  | deleteOrganization _ => exact hkept (List.mem_of_mem_filter hmem')
  | _ => exact hkept hmem'

section
variable (h : r.Effect newCode x a r') (hr : r.Sound) {code : String} {o : Organization}
  (ho : r.organization? tenant code = some o)
include h hr ho

omit hr in
theorem Effect.loses_organizations (ho' : r'.organization? tenant code = none) :
    r'.organizations ⊆ r.organizations := by
  rcases h.keeps_or_loses with ⟨-, hkeeps⟩ | ⟨-, hloses⟩
  · obtain ⟨o', hagain, -⟩ := h.organization?_again ho (hkeeps tenant code)
    rw [ho'] at hagain
    cases hagain
  · exact hloses

variable {label : String} (hne : o.label ≠ label) (hspared : x.labels tenant code label = false)
include hne hspared

/-- An organization with another label was found, and no look was taken at the label yet. -/
theorem agrees_relabelOrganization :
    Agrees r r'
      (Script.inspect (fun r => need .organization code (r.organization? tenant code))
        (Script.relabelOrganization tenant code label))
      (Script.relabelOrganization tenant code label o) := by
  rw [Agrees, Script.run_inspect, Script.run_inspect, ho]
  cases ho' : r'.organization? tenant code with
  | some o' =>
    left
    show _ = (Script.relabelOrganization tenant code label o').run r'
    have hne' : o'.label ≠ label := fun heq => hne (h.label_eq hr ho ho' hspared heq)
    rw [run_relabelOrganization, run_relabelOrganization, if_neg hne, if_neg hne']
  | none =>
    cases htaken : r'.hasOrganizationLabel tenant label with
    | false =>
      left
      rw [run_relabelOrganization, if_neg hne, htaken]
      exact run_labelOrganization_missing ho'
    | true =>
      -- whoever has the label now has had it before
      obtain ⟨owner, hmem, hkey⟩ := List.any_eq_true.mp htaken
      have hbefore : r.hasOrganizationLabel tenant label = true :=
        List.any_eq_true.mpr ⟨owner, h.loses_organizations ho ho' hmem, hkey⟩
      refine .inr ⟨.error (.refused (.conflict .organization .label label)), ?_, ?_⟩
      · rw [run_relabelOrganization, if_neg hne, htaken]
        rfl
      · show (Script.relabelOrganization tenant code label o).run r = _
        rw [run_relabelOrganization, if_neg hne, hbefore]
        rfl

/-- An organization with another label was found, and none had the label. -/
theorem agrees_labelOrganization :
    Agrees r r'
      (Script.inspect (fun r => need .organization code (r.organization? tenant code))
        (Script.relabelOrganization tenant code label))
      (Script.labelOrganization tenant code label) := by
  left
  rw [Script.run_inspect]
  cases ho' : r'.organization? tenant code with
  | none => exact run_labelOrganization_missing ho'
  | some o' =>
    show _ = (Script.relabelOrganization tenant code label o').run r'
    have hne' : o'.label ≠ label := fun heq => hne (h.label_eq hr ho ho' hspared heq)
    rw [run_relabelOrganization, if_neg hne']
    cases htaken : r'.hasOrganizationLabel tenant label with
    | false => rfl
    | true => exact run_labelOrganization_taken (h.sound hr) ho' hne' htaken

end

theorem agrees_renameOrganization (h : r.Effect newCode x a r') (hr : r.Sound)
    {code label : String} {rest : Script Unit}
    (hspared : ∀ o text, r.organization? tenant code = some o → normalize .label label = .ok text →
      o.label = text ∨ x.labels tenant code text = false)
    (hrest : Looks r (Script.renameOrganization tenant code label) rest) :
    Agrees r r' (Script.renameOrganization tenant code label) rest := by
  refine agrees_settle hrest fun text htext hrest => ?_
  refine hrest.agrees_inspect hrest (.inl rfl) fun o ho hleft => ?_
  have ho := need_eq_ok ho
  by_cases hsame : o.label = text
  · rw [Script.relabelOrganization, if_pos hsame] at hleft
    exact hrest.agrees hleft r'
  have hspared := (hspared o text ho (chosenText_eq_ok htext)).resolve_left hsame
  have hagrees := agrees_relabelOrganization h hr ho hsame hspared
  rw [Script.relabelOrganization, if_neg hsame] at hleft hagrees
  refine hrest.agrees_inspect hleft hagrees fun _ _ hleft => ?_
  exact hrest.agrees_alter_last hleft (fun _ => ⟨_, Script.settle_done _⟩)
    (agrees_labelOrganization h hr ho hsame hspared)

/-! ## Creating -/

theorem agrees_createOrganization {draft : OrganizationDraft} {rest : Script OrganizationId}
    (hrest : Looks r (Script.createOrganization tenant draft) rest) :
    Agrees r r' (Script.createOrganization tenant draft) rest := by
  refine agrees_settle hrest fun _ _ hrest => agrees_settle hrest fun _ _ hrest => ?_
  exact hrest.agrees_alter_last hrest (fun _ => ⟨_, rfl⟩) (.inl rfl)

theorem childBelow_congr {parent parent' : Sector} (h : parent'.unlabelled = parent.unlabelled)
    (code label : String) (status : Status) :
    childBelow parent' code label status = childBelow parent code label status := by
  obtain ⟨hid, htenant, horg, -, -, hdepth⟩ := Sector.fields_of_unlabelled h
  simp only [childBelow, NewSector.childOf?, hid, htenant, horg, hdepth]

/-- Where no parent is found, it is told in the same words. -/
theorem parentFor_error {org : OrganizationId} {code : Option String} {failure failure' : Failure}
    (h : r.parentFor tenant org code = .error failure)
    (h' : r'.parentFor tenant org code = .error failure') : failure = failure' := by
  have hneed {entity : Entity} {key : String} {found found' : Option Sector}
      (h : need entity key found = .error failure) (h' : need entity key found' = .error failure') :
      failure = failure' := by
    cases found with
    | some _ => cases h
    | none =>
      cases found' with
      | some _ => cases h'
      | none => exact Except.error.inj (h.symm.trans h')
  rw [parentFor] at h h'
  cases hcode : parentCode? code <;> rw [hcode] at h h' <;> exact hneed h h'

theorem childBelow_isOk {parent : Sector} (h : parent.depth.toNat + 1 < UInt32.size)
    (code label : String) (status : Status) :
    ∃ child, childBelow parent code label status = .ok child := by
  rw [childBelow, NewSector.childOf?, if_pos h]
  exact ⟨_, rfl⟩

/-- A label that is taken is refused as it would be by a look. -/
theorem insertSector_taken (hroom : r.lastSector ≠ Int64.maxValue) {parent : Sector}
    {label : String} {status : Status} {child : NewSector}
    (hchild : childBelow parent newCode label status = .ok child)
    (htaken : (r.sectorByLabel? parent.tenant label).isSome = true) :
    r.insertSector child = .error (.notUnique Schema.sectorLabelDetail) := by
  obtain ⟨hdepth, rfl⟩ := NewSector.childOf?_eq_some (childBelow_eq_ok hchild)
  obtain ⟨owner, howner⟩ := Option.isSome_iff_exists.mp htaken
  obtain ⟨hmem, htenant, hlabel⟩ := sectorByLabel?_eq_some howner
  have hshaped := shaped_below hdepth parent.id
  have hclash : (r.sectors.any fun x =>
      parent.tenant == x.tenant && label == x.label) = true :=
    List.any_eq_true.mpr ⟨owner, hmem, by simp [htenant, hlabel]⟩
  rw [insertSector, if_neg hroom]
  simp only [NewSector.stored, Sector.fault?, hshaped, hclash, not_true_eq_false, if_false, if_true]

section
variable {org : OrganizationId} {text : String} {parentCode : Option String} {status : Status}
  {newCode' : String} {next : SectorId → Script α}

theorem run_placement (parent : Sector) (hparent : r.parentFor tenant org parentCode = .ok parent) :
    (Script.placement tenant newCode' org text parentCode status next).run r =
      (Script.insertion newCode' text status next parent).run r := by
  rw [Script.placement, Script.run_inspect, hparent]
  rfl

theorem run_insertion {parent : Sector} {child : NewSector}
    (hchild : childBelow parent newCode' text status = .ok child) :
    (Script.insertion newCode' text status next parent).run r =
      (Script.alter (fun r => carryOut (r.insertSector child)
        (writeError .sector newCode' text)) next).run r := by
  rw [Script.insertion, hchild]
  rfl

theorem run_insertion_taken (hroom : r.lastSector ≠ Int64.maxValue) {parent : Sector}
    {child : NewSector} (hchild : childBelow parent newCode' text status = .ok child)
    (htaken : (r.sectorByLabel? parent.tenant text).isSome = true) :
    (Script.insertion newCode' text status next parent).run r =
      (.error (.refused (.conflict .sector .label text)), r) := by
  rw [run_insertion hchild]
  exact Script.run_alter_error (carryOut_label (.inl (insertSector_taken hroom hchild htaken)))

theorem run_insertion_full (hfull : r.lastSector = Int64.maxValue) {parent : Sector}
    {child : NewSector} (hchild : childBelow parent newCode' text status = .ok child) :
    (Script.insertion newCode' text status next parent).run r =
      (.error (.refused (writeError .sector newCode' text (.ofFault .full))), r) := by
  rw [run_insertion hchild]
  refine Script.run_alter_error ?_
  rw [insertSector, if_pos hfull]
  rfl

variable (tenant newCode' org text parentCode status next) in
/-- The script of creating a sector under a label in its normal form. -/
abbrev placementUnlessTaken : Script α :=
  Script.inspect (fun r => unlessTaken (r.sectorByLabel? tenant text).isSome
    (.conflict .sector .label text)) fun _ =>
    Script.placement tenant newCode' org text parentCode status next

theorem run_placementUnlessTaken :
    (placementUnlessTaken tenant org text parentCode status newCode' next).run r =
      if (r.sectorByLabel? tenant text).isSome then
        (.error (.refused (.conflict .sector .label text)), r)
      else (Script.placement tenant newCode' org text parentCode status next).run r := by
  rw [Script.run_inspect]
  cases (r.sectorByLabel? tenant text).isSome <;> rfl

section
variable (h : r.Effect newCode x a r') (hr : r.Sound)
  (hnumber : x.uses tenant text = true → r.lastSector + 1 ≠ Int64.maxValue)
  (hspared : ∀ parent, r.parentFor tenant org parentCode = .ok parent → x.removes r parent = false)
  (hfree : r.sectorByLabel? tenant text = none)
include h hr hnumber hspared hfree

/-- The label was free, and the parent was found. -/
theorem agrees_insertion {parent : Sector}
    (hparent : r.parentFor tenant org parentCode = .ok parent) :
    Agrees r r' (placementUnlessTaken tenant org text parentCode status newCode' next)
      (Script.insertion newCode' text status next parent) := by
  obtain ⟨-, htenant, -⟩ := r.parentFor_eq_ok hparent
  obtain ⟨parent', hparent', hkept⟩ := h.parentFor_again hparent (hspared parent hparent)
  have hbefore : (placementUnlessTaken tenant org text parentCode status newCode' next).run r =
      (Script.insertion newCode' text status next parent).run r := by
    rw [run_placementUnlessTaken, hfree, run_placement parent hparent]
    rfl
  rw [Agrees, hbefore]
  cases hchild : childBelow parent newCode' text status with
  | error failure =>
    right
    rw [Script.insertion, hchild]
    exact ⟨.error failure, rfl, rfl⟩
  | ok child =>
  by_cases htaken : (r'.sectorByLabel? tenant text).isSome = true
  · by_cases hfull : r'.lastSector = Int64.maxValue
    · exact .inr ⟨_, run_insertion_full hfull hchild,
        run_insertion_full (h.leaves_number_taken hr hnumber hfree htaken hfull) hchild⟩
    left
    rw [run_placementUnlessTaken, if_pos htaken]
    rw [← htenant] at htaken
    exact run_insertion_taken hfull hchild htaken
  · left
    rw [run_placementUnlessTaken, if_neg htaken, run_placement parent' hparent']
    rw [Script.insertion, Script.insertion, childBelow_congr hkept]

/-- The label was free, and no look was taken at the parent yet. -/
theorem agrees_placement (hlevel : ∀ failure, r.parentFor tenant org parentCode = .error failure →
      x.uses tenant text = true → x.deepens r = false) :
    Agrees r r' (placementUnlessTaken tenant org text parentCode status newCode' next)
      (Script.placement tenant newCode' org text parentCode status next) := by
  cases hparent : r.parentFor tenant org parentCode with
  | ok parent =>
    have hagrees : Agrees r r'
        (placementUnlessTaken tenant org text parentCode status newCode' next)
        (Script.insertion newCode' text status next parent) :=
      agrees_insertion h hr hnumber hspared hfree hparent
    obtain ⟨parent', hparent', hkept⟩ := h.parentFor_again hparent (hspared parent hparent)
    have hsame : (Script.placement tenant newCode' org text parentCode status next).run r' =
        (Script.insertion newCode' text status next parent).run r' := by
      rw [run_placement parent' hparent', Script.insertion, Script.insertion,
        childBelow_congr hkept]
    rw [Agrees, hsame]
    exact hagrees
  | error failure =>
  cases hparent' : r'.parentFor tenant org parentCode with
  | ok parent' =>
    -- the parent is new, and there is a place below it if the label is taken
    left
    obtain ⟨hmem, htenant, -⟩ := r'.parentFor_eq_ok hparent'
    have hnew := h.parentFor_new hr hparent hparent'
    by_cases htaken : (r'.sectorByLabel? tenant text).isSome = true
    case neg => rw [run_placementUnlessTaken, if_neg htaken]
    have hroom : r'.lastSector ≠ Int64.maxValue := by
      intro hfull
      have hle := ((h.sound hr).sectors_le parent' hmem).2
      rw [hfull, ← h.leaves_number_taken hr hnumber hfree htaken hfull] at hle
      exact absurd hnew (Int64.not_lt.mpr hle)
    have hdepth := h.leaves_level_taken hr (hlevel failure hparent) hfree htaken parent' hmem hnew
    obtain ⟨child, hchild⟩ := childBelow_isOk hdepth newCode' text status
    rw [run_placementUnlessTaken, if_pos htaken, run_placement parent' hparent']
    rw [← htenant] at htaken
    exact run_insertion_taken hroom hchild htaken
  | error failure' =>
    refine .inr ⟨.error failure, ?_, ?_⟩
    · rw [Script.placement, Script.run_inspect, hparent', parentFor_error hparent hparent']
      rfl
    · rw [run_placementUnlessTaken, hfree, Script.placement, Script.run_inspect, hparent]
      rfl

end

theorem agrees_addSector (h : r.Effect newCode x a r') (hr : r.Sound)
    {label : String} (hspares : x.sparesPlace r tenant org label parentCode = true)
    {rest : Script α}
    (hrest : Looks r (Script.addSector tenant newCode' org label parentCode status next) rest) :
    Agrees r r' (Script.addSector tenant newCode' org label parentCode status next) rest := by
  have hspared (parent) (hparent : r.parentFor tenant org parentCode = .ok parent) :=
    Mutation.removes_eq_false hspares hparent
  refine agrees_settle hrest fun text htext hrest => ?_
  have htext := chosenText_eq_ok htext
  have hnumber := Mutation.leaves_number hspares htext
  refine hrest.agrees_inspect hrest (.inl rfl) fun _ hfree hleft => ?_
  have hfree : r.sectorByLabel? tenant text = none := by simpa using unlessTaken_eq_ok hfree
  refine hrest.agrees_inspect hleft (agrees_placement h hr hnumber hspared hfree
    fun failure hnone => Mutation.leaves_level hspares htext hnone)
    fun parent hparent hleft => ?_
  have hagrees : Agrees r r' _ (Script.insertion newCode' text status next parent) :=
    agrees_insertion h hr hnumber hspared hfree hparent
  refine hrest.agrees_settle hleft fun child hchild hleft => ?_
  rw [Script.insertion, hchild] at hagrees
  refine hrest.agrees_alter hleft hagrees fun id hinsert _ => ?_
  -- a sector that is added changes the records
  obtain ⟨hroom, -, -, -, hadded⟩ := insertSector_eq_ok (carryOut_eq_ok hinsert)
  have hnext := toInt_next hroom
  rw [show r.lastSector + 1 = r.lastSector from (congrArg Records.lastSector hadded).symm] at hnext
  omega

end

theorem agrees_createSectorIn (h : r.Effect newCode x a r') (hr : r.Sound)
    {code newCode' : String} {draft : SectorDraft}
    (hspares : x.spares r (.createSectorIn tenant code draft) = true) {rest : Script Sector}
    (hrest : Looks r (Script.createSectorIn tenant newCode' code draft) rest) :
    Agrees r r' (Script.createSectorIn tenant newCode' code draft) rest := by
  refine hrest.agrees_inspect hrest (.inl rfl) fun o ho hleft => ?_
  have ho := need_eq_ok ho
  obtain ⟨hother, hplace, -⟩ := Mutation.spares_createSectorIn hspares ho
  obtain ⟨o', ho', hkept⟩ := h.organization?_again ho hother
  refine (agrees_addSector h hr hplace hleft).of_run_eq ?_ ?_
  · rw [Script.createSectorIn, Script.run_inspect, ho, Script.settle_need]
  · rw [Script.createSectorIn, Script.run_inspect, ho', Script.settle_need,
      Organization.id_eq_of_unlabelled hkept]

/-- What is left of a call comes to the same as the whole call, if another call that succeeds spares
what it relies on. -/
theorem agrees_script (h : r.Effect newCode x a r') (hr : r.Sound) {y : Mutation}
    (hspares : x.spares r y = true) {newCode' : String} {rest : Script y.Answer}
    (hrest : Looks r (y.script newCode') rest) : Agrees r r' (y.script newCode') rest := by
  cases y with
  | createOrganization tenant draft => exact agrees_createOrganization hrest
  | createSector tenant org label parentCode => exact agrees_addSector h hr hspares hrest
  | createSectorIn tenant code draft => exact agrees_createSectorIn h hr hspares hrest
  | renameSector tenant id label => exact agrees_renameSector h hr hrest
  | deleteSector tenant id =>
    refine agrees_deleteSector h (fun s hs => ?_) hrest
    simpa [Mutation.spares, hs] using hspares
  | renameOrganization tenant code label =>
    refine agrees_renameOrganization h hr (fun o text ho htext => ?_) hrest
    simpa [Mutation.spares, ho, htext, Except.toOption] using hspares
  | deleteOrganization tenant code =>
    refine agrees_deleteOrganization h (fun o ho => ?_) hrest
    simpa [Mutation.spares, ho] using hspares

end Records

end SectorForest
