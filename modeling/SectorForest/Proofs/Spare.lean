import SectorForest.Proofs.Identity

/-!
# What one call leaves for another

While a call is between two of its looks at the records, another one may change them. Calls that
create records and calls that give new labels leave everything else of what was found there:
`Records.Survives`. Only the two calls that delete take anything away, and those add nothing.

`Mutation.spares` tells when a call leaves alone what another one relies on, once it has looked
for it: the parent of a new sector, the organization and the new sector of a call that reads it
back, what is to be deleted, and for a new label of an organization that the other call does not
give it the same one. A place for a new sector is relied on only where both calls want the same
label: the one that has found the label free, and finds no place any more, does not learn that the
label is taken. All other clashes show, so that they need not be ruled out.
-/

namespace SectorForest

theorem Sector.fields_of_unlabelled {a b : Sector} (h : a.unlabelled = b.unlabelled) :
    a.id = b.id ∧ a.tenant = b.tenant ∧ a.org = b.org ∧ a.code = b.code ∧
      a.hasParent = b.hasParent ∧ a.depth = b.depth := by
  simp only [unlabelled, mk.injEq] at h
  obtain ⟨hid, htenant, horg, hcode, -, -, hhas, hdepth, -⟩ := h
  exact ⟨hid, htenant, horg, hcode, hhas, hdepth⟩

theorem Sector.eq_of_unlabelled {a b : Sector} (h : a.unlabelled = b.unlabelled)
    (hlabel : a.label = b.label) : a = b := by
  cases a
  cases b
  simp_all [unlabelled]

theorem Organization.key_of_unlabelled {a b : Organization} (h : a.unlabelled = b.unlabelled) :
    a.tenant = b.tenant ∧ a.code = b.code := by
  simp only [unlabelled, mk.injEq] at h
  obtain ⟨-, htenant, hcode, -⟩ := h
  exact ⟨htenant, hcode⟩

/-! ## What calls take away -/

namespace Mutation

/-- Whether the call takes a sector away if it succeeds. -/
def removes (r : Records) (s : Sector) : Mutation → Bool
  | .deleteSector tenant id => (r.sector? tenant id).isSome && Records.goesWith tenant id s
  | .deleteOrganization tenant code => (r.organization? tenant code).any fun o => s.org == o.id
  | _ => false

/-- Whether the call gives a label to the sector with a number, or deletes it and those below it. -/
def addresses (tenant : TenantId) (id : SectorId) : Mutation → Bool
  | .renameSector tenant' id' _ => tenant' == tenant && id' == id
  | .deleteSector tenant' id' => tenant' == tenant && id' == id
  | _ => false

/-- Whether the call gives an organization a label, told in its normal form. -/
def labels (tenant : TenantId) (code text : String) : Mutation → Bool
  | .renameOrganization tenant' code' label =>
    tenant' == tenant && code' == code && (normalize .label label).toOption == some text
  | _ => false

/-- Whether the call creates a sector of a tenant under a label, told in its normal form. -/
def uses (tenant : TenantId) (text : String) : Mutation → Bool
  | .createOrganization tenant' draft =>
    tenant' == tenant && (normalize .label draft.label).toOption == some text
  | .createSector tenant' _ label _ =>
    tenant' == tenant && (normalize .label label).toOption == some text
  | .createSectorIn tenant' _ draft =>
    tenant' == tenant && (normalize .label draft.label).toOption == some text
  | _ => false

/-- Whether a new sector would lie on the deepest level. -/
def deepestBelow (r : Records) (tenant : TenantId) (org : OrganizationId)
    (parentCode : Option String) : Bool :=
  (r.parentFor tenant org parentCode).toOption.any fun parent =>
    parent.depth.toNat + 2 == UInt32.size

/-- Whether the call creates a sector on the deepest level. -/
def deepens (r : Records) : Mutation → Bool
  | .createSector tenant org _ parentCode => deepestBelow r tenant org parentCode
  | .createSectorIn tenant code draft =>
    (r.organization? tenant code).any fun o => deepestBelow r tenant o.id draft.parentCode
  | _ => false

/-- Whether the call spares the parent that a new sector would get and, if it creates one under the
same label, leaves a number for it, and a level where no parent is found yet. -/
def sparesPlace (r : Records) (tenant : TenantId) (org : OrganizationId) (label : String)
    (parentCode : Option String) (x : Mutation) : Bool :=
  let parent? := (r.parentFor tenant org parentCode).toOption
  (parent?.all fun parent => !x.removes r parent) &&
    (normalize .label label).toOption.all fun text =>
      !(x.uses tenant text && (r.lastSector + 1 == Int64.maxValue || parent?.isNone && x.deepens r))

/-- Whether the call `x` spares what the call `y` relies on once it has looked for it. -/
def spares (r : Records) (x : Mutation) : (y : Mutation) → Bool
  | .createSector tenant org label parentCode => x.sparesPlace r tenant org label parentCode
  | .createSectorIn tenant code draft =>
    (r.organization? tenant code).all fun o =>
      x != .deleteOrganization tenant code &&
        x.sparesPlace r tenant o.id draft.label draft.parentCode &&
        !x.addresses tenant (r.lastSector + 1)
  | .deleteSector tenant id => (r.sector? tenant id).all fun s => !x.removes r s
  | .renameOrganization tenant code label =>
    (r.organization? tenant code).all fun o =>
      (normalize .label label).toOption.all fun text =>
        o.label == text || !x.labels tenant code text
  | .deleteOrganization tenant code =>
    (r.organization? tenant code).all fun _ => x != .deleteOrganization tenant code
  | _ => true

section Spares

variable {r : Records} {x : Mutation} {tenant : TenantId}

theorem removes_eq_false {org : OrganizationId} {label : String} {parentCode : Option String}
    {parent : Sector} (h : x.sparesPlace r tenant org label parentCode = true)
    (hparent : r.parentFor tenant org parentCode = .ok parent) : x.removes r parent = false := by
  rw [sparesPlace, hparent, Bool.and_eq_true] at h
  simpa [Except.toOption] using h.1

theorem leaves_number {org : OrganizationId} {label text : String} {parentCode : Option String}
    (h : x.sparesPlace r tenant org label parentCode = true)
    (htext : normalize .label label = .ok text) (huses : x.uses tenant text = true) :
    r.lastSector + 1 ≠ Int64.maxValue := by
  rw [sparesPlace, htext, Bool.and_eq_true] at h
  intro hlast
  simp [Except.toOption, huses, hlast] at h

theorem leaves_level {org : OrganizationId} {label text : String} {parentCode : Option String}
    {failure : Failure} (h : x.sparesPlace r tenant org label parentCode = true)
    (htext : normalize .label label = .ok text)
    (hnone : r.parentFor tenant org parentCode = .error failure)
    (huses : x.uses tenant text = true) : x.deepens r = false := by
  rw [sparesPlace, htext, hnone, Bool.and_eq_true] at h
  simp only [Except.toOption, huses, Option.all_some, Option.isNone_none, Bool.true_and,
    Bool.not_eq_true', Bool.or_eq_false_iff] at h
  exact h.2.2

theorem spares_createSectorIn {code : String} {draft : SectorDraft} {o : Organization}
    (h : x.spares r (.createSectorIn tenant code draft) = true)
    (ho : r.organization? tenant code = some o) :
    x ≠ .deleteOrganization tenant code ∧
      x.sparesPlace r tenant o.id draft.label draft.parentCode = true ∧
      x.addresses tenant (r.lastSector + 1) = false := by
  simpa [spares, ho, and_assoc] using h

end Spares

end Mutation

namespace Records

/-! ## What is found again -/

section Lists

variable {α β : Type} {kept : α → β} {gone : α → Prop} {xs : List α}

/-- Whatever is found first among `xs`, by what `kept` keeps of it, is found first among `ys`, too,
unless it is gone. -/
def Survives (kept : α → β) (gone : α → Prop) (xs ys : List α) : Prop :=
  ∀ found : α → Bool, (∀ a b, kept a = kept b → found a = found b) →
    ∀ a, xs.find? found = some a → ¬ gone a → ∃ b, ys.find? found = some b ∧ kept b = kept a

theorem survives_refl : Survives kept gone xs xs :=
  fun _ _ a ha _ => ⟨a, ha, rfl⟩

theorem survives_append (ys : List α) : Survives kept gone xs (xs ++ ys) := by
  intro found _ a ha _
  exact ⟨a, by rw [List.find?_append, ha, Option.some_or], rfl⟩

theorem survives_map {change : α → α} (hchange : ∀ a, kept (change a) = kept a) :
    Survives kept gone xs (xs.map change) := by
  intro found hfound a ha _
  have hsame : found ∘ change = found := funext fun b => hfound _ _ (hchange b)
  exact ⟨change a, by rw [List.find?_map, hsame, ha, Option.map_some], hchange a⟩

theorem survives_filter {keep : α → Bool} (hkeep : ∀ a, ¬ gone a → keep a = true) :
    Survives kept gone xs (xs.filter keep) := by
  intro found _ a ha hstays
  obtain ⟨hfound, before, after, rfl, hbefore⟩ := List.find?_eq_some_iff_append.mp ha
  refine ⟨a, List.find?_eq_some_iff_append.mpr ⟨hfound, before.filter keep, after.filter keep, ?_,
    fun b hb => hbefore b (List.mem_of_mem_filter hb)⟩, rfl⟩
  rw [List.filter_append, List.filter_cons_of_pos (hkeep a hstays)]

end Lists

variable {r r' : Records} {newCode : String} {x : Mutation} {a : x.Answer}

/-- Of sectors, everything is found again that new labels do not touch. -/
theorem Effect.survives_but_labels {β : Type} (h : r.Effect newCode x a r') (kept : Sector → β)
    (hkept : ∀ tenant id label, x = .renameSector tenant id label → ∀ s : Sector, ∀ text,
      s.tenant = tenant ∧ s.id = id → kept { s with label := text } = kept s) :
    Survives kept (fun s => x.removes r s = true) r.sectors r'.sectors := by
  cases h with
  | createOrganization _ _ _ => exact survives_append _
  | createSector _ => exact survives_append _
  | createSectorIn _ _ => exact survives_append _
  | renameSector _ _ _ =>
    refine survives_map fun s => ?_
    split
    · exact hkept _ _ _ rfl s _ ‹_›
    · rfl
  | deleteSector hs =>
    exact survives_filter fun s hstays => by simpa [Mutation.removes, hs] using hstays
  | keepLabel _ _ => exact survives_refl
  | renameOrganization _ _ _ => exact survives_refl
  | deleteOrganization ho =>
    exact survives_filter fun s hs => by simpa [Mutation.removes, ho] using hs

theorem Effect.survives_sectors (h : r.Effect newCode x a r') :
    Survives Sector.unlabelled (fun s => x.removes r s = true) r.sectors r'.sectors :=
  h.survives_but_labels _ fun _ _ _ _ _ _ _ => rfl

theorem Effect.survives_organizations (h : r.Effect newCode x a r') :
    Survives Organization.unlabelled (fun o => x = .deleteOrganization o.tenant o.code)
      r.organizations r'.organizations := by
  cases h with
  | createOrganization _ _ _ => exact survives_append _
  | createSector _ => exact survives_refl
  | createSectorIn _ _ => exact survives_refl
  | renameSector _ _ _ => exact survives_refl
  | deleteSector _ => exact survives_refl
  | keepLabel _ _ => exact survives_refl
  | renameOrganization _ _ _ => exact survives_map fun o => by split <;> rfl
  | deleteOrganization ho =>
    obtain ⟨-, htenant, hcode⟩ := organization?_eq_some ho
    refine survives_filter fun o hstays => ?_
    simp only [Bool.not_eq_true', decide_eq_false_iff_not, htenant, hcode]
    rintro ⟨htenant', hcode'⟩
    exact hstays (by rw [htenant', hcode'])

/-- A sector that is not taken away is found again under its number. -/
theorem Effect.sector?_again (h : r.Effect newCode x a r') {tenant : TenantId} {id : SectorId}
    {s : Sector} (hs : r.sector? tenant id = some s) (hspared : x.removes r s = false) :
    ∃ s', r'.sector? tenant id = some s' ∧ s'.unlabelled = s.unlabelled := by
  refine h.survives_sectors _ (fun b b' hkept => ?_) s hs (by simp [hspared])
  obtain ⟨hid, htenant, -⟩ := Sector.fields_of_unlabelled hkept
  rw [hid, htenant]

/-- An organization that is not taken away is found again under its code. -/
theorem Effect.organization?_again (h : r.Effect newCode x a r') {tenant : TenantId}
    {code : String} {o : Organization} (ho : r.organization? tenant code = some o)
    (hspared : x ≠ .deleteOrganization tenant code) :
    ∃ o', r'.organization? tenant code = some o' ∧ o'.unlabelled = o.unlabelled := by
  obtain ⟨-, htenant, hcode⟩ := organization?_eq_some ho
  refine h.survives_organizations _ (fun b b' hkept => ?_) o ho ?_
  · obtain ⟨htenant, hcode⟩ := Organization.key_of_unlabelled hkept
    rw [htenant, hcode]
  · show x ≠ .deleteOrganization o.tenant o.code
    rwa [htenant, hcode]

/-- The parent for a new sector is found again, unless it is taken away. -/
theorem Effect.parentFor_again (h : r.Effect newCode x a r') {tenant : TenantId}
    {org : OrganizationId} {code : Option String} {parent : Sector}
    (hparent : r.parentFor tenant org code = .ok parent) (hspared : x.removes r parent = false) :
    ∃ parent', r'.parentFor tenant org code = .ok parent' ∧
      parent'.unlabelled = parent.unlabelled := by
  have hstays : ¬ x.removes r parent = true := by simp [hspared]
  rw [parentFor] at hparent ⊢
  cases hcode : parentCode? code with
  | some text =>
    rw [hcode] at hparent
    have hfound := need_eq_ok hparent
    rw [Option.filter_eq_some_iff] at hfound
    obtain ⟨s, hs, hkept⟩ := h.survives_sectors _ (fun b b' hkept => by
      obtain ⟨-, htenant, -, hcode, -⟩ := Sector.fields_of_unlabelled hkept
      rw [htenant, hcode]) parent hfound.1 hstays
    refine ⟨s, ?_, hkept⟩
    have hagain : (r'.sectorByCode? tenant text).filter (fun s => s.org == org) = some s := by
      rw [sectorByCode?, hs, Option.filter_eq_some_iff, (Sector.fields_of_unlabelled hkept).2.2.1]
      exact ⟨rfl, hfound.2⟩
    exact congrArg (need .parentSector text) hagain
  | none =>
    rw [hcode] at hparent
    obtain ⟨s, hs, hkept⟩ := h.survives_sectors _ (fun b b' hkept => by
      obtain ⟨-, htenant, horg, -, hhas, -⟩ := Sector.fields_of_unlabelled hkept
      rw [htenant, horg, hhas]) parent (need_eq_ok hparent) hstays
    exact ⟨s, congrArg (need .rootSector (toString org.toInt)) hs, hkept⟩

/-- A sector is found again as it was, unless it is taken away or given a label. -/
theorem Effect.sector?_kept (h : r.Effect newCode x a r') {tenant : TenantId} {id : SectorId}
    {s : Sector} (hs : r.sector? tenant id = some s) (hspared : x.removes r s = false)
    (haddressed : x.addresses tenant id = false) : r'.sector? tenant id = some s := by
  have hsurvives := h.survives_but_labels
    (fun s => (s.unlabelled, if s.tenant = tenant ∧ s.id = id then s.label else ""))
    fun tenant' id' label hx s text hkey => by
      have hother : ¬ (s.tenant = tenant ∧ s.id = id) := by
        rw [hkey.1, hkey.2]
        simpa [hx, Mutation.addresses] using haddressed
      simp only [if_neg hother]
      rfl
  obtain ⟨s', hs', hkept⟩ := hsurvives _ (fun b b' hkept => by
    obtain ⟨hid, htenant, -⟩ := Sector.fields_of_unlabelled (congrArg Prod.fst hkept)
    rw [hid, htenant]) s hs (by simp [hspared])
  obtain ⟨-, htenant, hid⟩ := sector?_eq_some hs
  obtain ⟨-, htenant', hid'⟩ := sector?_eq_some hs'
  simp only [htenant, hid, htenant', hid', and_self, if_true, Prod.mk.injEq] at hkept
  rw [← Sector.eq_of_unlabelled hkept.1 hkept.2]
  exact hs'

/-- Deleting a sector leaves a new one, unless it deletes that one or its parent. -/
theorem Sound.removes_deleteSector_new (hr : r.Sound) {tenant tenant' : TenantId}
    {org : OrganizationId} {label : String} {parentCode : Option String} {status : Status}
    {parent : Sector} {child : NewSector} {id : SectorId}
    (hgrows : r.Grows newCode tenant org label parentCode status parent child)
    (hparent : (Mutation.deleteSector tenant' id).removes r parent = false)
    (haddressed : (Mutation.deleteSector tenant' id).addresses tenant (r.lastSector + 1) = false) :
    (Mutation.deleteSector tenant' id).removes (r.addSector child)
      (child.stored (r.lastSector + 1)) = false := by
  obtain ⟨htenant, -, -, hparentId, -⟩ := hgrows.fields
  obtain ⟨hmem, hparentTenant, -⟩ := r.parentFor_eq_ok hgrows.parentFor_eq
  have hstays : ¬ goesWith tenant' id (child.stored (r.lastSector + 1)) = true := by
    rw [goesWith_iff]
    rintro ⟨heq, hid | hbelow⟩
    · simp [Mutation.addresses, ← htenant, ← heq, ← hid, NewSector.stored] at haddressed
    · -- then its parent is what is deleted
      have hid : parent.id = id := Option.some.inj (hparentId.symm.trans hbelow)
      have htenant' : tenant = tenant' := htenant.symm.trans heq
      have hfound := hr.sector?_of_mem hmem
      rw [hparentTenant, htenant', hid] at hfound
      simp [Mutation.removes, hfound, goesWith, hparentTenant, htenant', hid] at hparent
  simp [Mutation.removes, hstays]

/-- Deleting an organization leaves a new sector of another one. -/
theorem Sound.removes_deleteOrganization_new (hr : r.Sound) {tenant tenant' : TenantId}
    {o : Organization} {code code' : String} {label : String} {parentCode : Option String}
    {status : Status} {parent : Sector} {child : NewSector}
    (hgrows : r.Grows newCode tenant o.id label parentCode status parent child)
    (ho : r.organization? tenant code = some o)
    (hother : Mutation.deleteOrganization tenant' code' ≠ .deleteOrganization tenant code) :
    (Mutation.deleteOrganization tenant' code').removes (r.addSector child)
      (child.stored (r.lastSector + 1)) = false := by
  obtain ⟨-, horg, -⟩ := hgrows.fields
  cases ho' : r.organization? tenant' code' with
  | none =>
    have hnone : (r.addSector child).organization? tenant' code' = none := ho'
    simp [Mutation.removes, hnone]
  | some o' =>
    have hsome : (r.addSector child).organization? tenant' code' = some o' := ho'
    -- another organization has another number
    have hne : o'.id ≠ o.id := by
      intro heq
      obtain ⟨hmem, rfl, rfl⟩ := organization?_eq_some ho
      obtain ⟨hmem', rfl, rfl⟩ := organization?_eq_some ho'
      rw [distinctBy_number hr.organizations_increasing o' hmem' o hmem heq] at hother
      exact hother rfl
    simp [Mutation.removes, hsome, NewSector.stored, horg, hne.symm]

/-- A new sector that is read back is left as it was, by a call that spares it. -/
theorem Effect.sector?_new {tenant : TenantId} {code : String} {draft : SectorDraft}
    {sector : Sector} {y : Mutation} {newCode' : String} {b : y.Answer} {r'' : Records}
    (h : r.Effect newCode (.createSectorIn tenant code draft) sector r') (hr : r.Sound)
    (h' : r'.Effect newCode' y b r'')
    (hspares : y.spares r (.createSectorIn tenant code draft) = true) :
    r''.sector? tenant r'.lastSector = r'.sector? tenant r'.lastSector := by
  cases h with
  | @createSectorIn tenant code draft o parent child ho hgrows =>
  obtain ⟨hother, hparent, haddressed⟩ := Mutation.spares_createSectorIn hspares ho
  have hparent := Mutation.removes_eq_false hparent hgrows.parentFor_eq
  have hnew := (hr.grow hgrows).sector?_addSector
  rw [hgrows.fields.1] at hnew
  show r''.sector? tenant (r.lastSector + 1) = (r.addSector child).sector? tenant (r.lastSector + 1)
  rw [hnew]
  refine h'.sector?_kept hnew ?_ haddressed
  cases y with
  | deleteSector => exact hr.removes_deleteSector_new hgrows hparent haddressed
  | deleteOrganization => exact hr.removes_deleteOrganization_new hgrows ho hother
  | _ => rfl

/-- A number stands for the same sector as before. -/
theorem Effect.sector?_same (h : r.Effect newCode x a r') (hr : r.Sound) {tenant : TenantId}
    {id : SectorId} {s s' : Sector} (hs : r.sector? tenant id = some s)
    (hs' : r'.sector? tenant id = some s') : s'.unlabelled = s.unlabelled := by
  obtain ⟨hmem, -, hid⟩ := sector?_eq_some hs
  obtain ⟨hmem', -, hid'⟩ := sector?_eq_some hs'
  have hgiven : s'.id ≤ r.lastSector := by
    rw [hid', ← hid]
    exact (hr.sectors_le s hmem).2
  obtain ⟨s₀, hmem₀, hkept⟩ := h.continues.sectors s' hmem' hgiven
  have hsame : s₀ = s := by
    refine distinctBy_number hr.sectors_increasing s₀ hmem₀ s hmem ?_
    rw [hid, ← hid']
    exact Sector.id_eq_of_unlabelled hkept
  rw [← hkept, hsame]

/-- A call that takes sectors or organizations away adds nothing and gives no labels. -/
theorem Effect.keeps_or_loses (h : r.Effect newCode x a r') :
    ((∀ s, x.removes r s = false) ∧ ∀ tenant code, x ≠ .deleteOrganization tenant code) ∨
      (r'.sectors ⊆ r.sectors ∧ r'.organizations ⊆ r.organizations) := by
  cases h with
  | deleteSector _ => exact .inr ⟨List.filter_subset_self _, List.Subset.refl _⟩
  | deleteOrganization _ =>
    exact .inr ⟨List.filter_subset_self _, List.filter_subset_self _⟩
  | _ => exact .inl ⟨fun _ => rfl, by rintro _ _ ⟨⟩⟩

/-! ## What is new -/

/-- Where no parent was found before, it is a new sector. -/
theorem Effect.parentFor_new (h : r.Effect newCode x a r') (hr : r.Sound) {tenant : TenantId}
    {org : OrganizationId} {code : Option String} {parent : Sector} {failure : Failure}
    (hnone : r.parentFor tenant org code = .error failure)
    (hparent : r'.parentFor tenant org code = .ok parent) : r.lastSector < parent.id := by
  by_contra hold
  obtain ⟨hmem, htenant, horg, hcode⟩ := r'.parentFor_eq_ok hparent
  obtain ⟨s, hs, hkept⟩ := h.continues.sectors parent hmem (Int64.not_lt.mp hold)
  obtain ⟨-, htenant', horg', hcode', hhas', -⟩ := Sector.fields_of_unlabelled hkept
  rw [parentFor] at hnone hparent
  cases htext : parentCode? code with
  | some text =>
    simp only [htext] at hnone
    -- it would have been found under its code
    have hfound : r.sectorByCode? tenant text = some s := by
      rw [← htenant'.trans htenant, ← hcode'.trans (hcode text htext)]
      exact hr.sectorByCode?_of_mem hs
    have horg : (s.org == org) = true := by rw [horg', horg, beq_self_eq_true]
    rw [hfound, Option.filter_some, if_pos horg] at hnone
    cases hnone
  | none =>
    simp only [htext] at hnone hparent
    obtain ⟨-, -, -, hroot⟩ := root?_eq_some (need_eq_ok hparent)
    cases hfound : r.root? tenant org with
    | none =>
      have hbelow := root?_eq_none.mp hfound s hs (htenant'.trans htenant) (horg'.trans horg)
      rw [hhas', hroot] at hbelow
      cases hbelow
    | some _ =>
      rw [hfound] at hnone
      cases hnone

theorem Grows.leaves_level {tenant : TenantId} {org : OrganizationId} {label : String}
    {parentCode : Option String} {status : Status} {parent : Sector} {child : NewSector}
    (h : r.Grows newCode tenant org label parentCode status parent child)
    (hdeepest : Mutation.deepestBelow r tenant org parentCode = false) :
    child.depth.toNat + 1 < UInt32.size := by
  simp only [Mutation.deepestBelow, h.parentFor_eq, Except.toOption, Option.any_some,
    beq_eq_false_iff_ne] at hdeepest
  have hlt := h.depth_lt
  rw [h.toNat_depth]
  omega

theorem leaves_level_addSector (hle : ∀ s ∈ r.sectors, s.id ≤ r.lastSector) {new : NewSector}
    (hdepth : new.depth.toNat + 1 < UInt32.size) :
    ∀ s ∈ (r.addSector new).sectors, r.lastSector < s.id → s.depth.toNat + 1 < UInt32.size := by
  intro s hs hnew
  rcases List.mem_append.mp hs with hs | hs
  · exact absurd (hle s hs) (Int64.not_le.mpr hnew)
  · rw [List.mem_singleton.mp hs]
    exact hdepth

/-- Unless a call creates a sector on the deepest level, what is new has a level below it. -/
theorem Effect.leaves_level (h : r.Effect newCode x a r') (hr : r.Sound)
    (hdeepens : x.deepens r = false) :
    ∀ s ∈ r'.sectors, r.lastSector < s.id → s.depth.toNat + 1 < UInt32.size := by
  have hle (s) (hs : s ∈ r.sectors) := (hr.sectors_le s hs).2
  have hle' (s) (hs : s ∈ r'.sectors) := ((h.sound hr).sectors_le s hs).2
  cases h with
  | @createOrganization tenant draft code label _ _ _ =>
    have hroot : (0 : UInt32).toNat + 1 < UInt32.size := by decide
    exact leaves_level_addSector (r := r.addOrganization (draft.named tenant code label)) hle hroot
  | createSector hgrows => exact leaves_level_addSector hle (hgrows.leaves_level hdeepens)
  | createSectorIn ho hgrows =>
    simp only [Mutation.deepens, ho, Option.any_some] at hdeepens
    exact leaves_level_addSector hle (hgrows.leaves_level hdeepens)
  | _ => exact fun s hs hnew => absurd (hle' s hs) (Int64.not_le.mpr hnew)

theorem Effect.lastSector_eq_or (h : r.Effect newCode x a r') :
    r'.lastSector = r.lastSector ∨ r'.lastSector = r.lastSector + 1 := by
  cases h with
  | createOrganization _ _ _ => exact .inr rfl
  | createSector _ => exact .inr rfl
  | createSectorIn _ _ => exact .inr rfl
  | _ => exact .inl rfl

/-- A label that was free, and is not so any more, is that of the one sector that was added. -/
theorem owner_addSector {new : NewSector} {tenant : TenantId} {text : String} {owner : Sector}
    (hfree : r.sectorByLabel? tenant text = none)
    (howner : (r.addSector new).sectorByLabel? tenant text = some owner) :
    new.tenant = tenant ∧ new.label = text := by
  obtain ⟨hmem, htenant, hlabel⟩ := sectorByLabel?_eq_some howner
  rcases List.mem_append.mp hmem with hold | hnew
  · exact absurd hlabel (sectorByLabel?_eq_none.mp hfree owner hold htenant)
  · rw [List.mem_singleton.mp hnew] at htenant hlabel
    exact ⟨htenant, hlabel⟩

/-- Where a label is taken that was free, the call has created a sector under it, or it has created
none. -/
theorem Effect.uses_or_keeps (h : r.Effect newCode x a r') (hr : r.Sound) {tenant : TenantId}
    {text : String} (hfree : r.sectorByLabel? tenant text = none)
    (htaken : (r'.sectorByLabel? tenant text).isSome = true) :
    x.uses tenant text = true ∨
      r'.lastSector = r.lastSector ∧ ∀ s ∈ r'.sectors, s.id ≤ r.lastSector := by
  have hle' (s) (hs : s ∈ r'.sectors) := ((h.sound hr).sectors_le s hs).2
  obtain ⟨owner, howner⟩ := Option.isSome_iff_exists.mp htaken
  cases h with
  | @createOrganization tenant' draft code label _ hlabel _ =>
    have hadded : tenant' = tenant ∧ label = text :=
      owner_addSector (r := r.addOrganization _) hfree howner
    exact .inl (by simp [Mutation.uses, hlabel, hadded, Except.toOption])
  | createSector hgrows =>
    obtain ⟨htenant, hkey⟩ := owner_addSector hfree howner
    refine .inl ?_
    simp [Mutation.uses, hgrows.label_eq, hkey, ← htenant, hgrows.fields.1, Except.toOption]
  | createSectorIn ho hgrows =>
    obtain ⟨htenant, hkey⟩ := owner_addSector hfree howner
    refine .inl ?_
    simp [Mutation.uses, hgrows.label_eq, hkey, ← htenant, hgrows.fields.1, Except.toOption]
  | _ => exact .inr ⟨rfl, hle'⟩

/-- Where a label is taken that was free, numbers are used up only if they were so before, or if the
sector under that label has got the last one. -/
theorem Effect.leaves_number_taken (h : r.Effect newCode x a r') (hr : r.Sound) {tenant : TenantId}
    {text : String} (hnumber : x.uses tenant text = true → r.lastSector + 1 ≠ Int64.maxValue)
    (hfree : r.sectorByLabel? tenant text = none)
    (htaken : (r'.sectorByLabel? tenant text).isSome = true)
    (hfull : r'.lastSector = Int64.maxValue) : r.lastSector = Int64.maxValue := by
  rcases h.uses_or_keeps hr hfree htaken with huses | ⟨hlast, -⟩
  · rcases h.lastSector_eq_or with hlast | hlast
    · exact hlast.symm.trans hfull
    · exact absurd (hlast.symm.trans hfull) (hnumber huses)
  · exact hlast.symm.trans hfull

/-- Where a label is taken that was free, what is new has a level below it, unless it is the sector
under that label and lies on the deepest one. -/
theorem Effect.leaves_level_taken (h : r.Effect newCode x a r') (hr : r.Sound) {tenant : TenantId}
    {text : String} (hlevel : x.uses tenant text = true → x.deepens r = false)
    (hfree : r.sectorByLabel? tenant text = none)
    (htaken : (r'.sectorByLabel? tenant text).isSome = true) :
    ∀ s ∈ r'.sectors, r.lastSector < s.id → s.depth.toNat + 1 < UInt32.size := by
  rcases h.uses_or_keeps hr hfree htaken with huses | ⟨-, hold⟩
  · exact h.leaves_level hr (hlevel huses)
  · exact fun s hs hnew => absurd (hold s hs) (Int64.not_le.mpr hnew)

end Records

end SectorForest
