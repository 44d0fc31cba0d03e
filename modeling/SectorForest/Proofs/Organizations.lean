import SectorForest.Proofs.Run

/-!
# How long an organization is stored

Nothing but deleting it takes an organization away, and nothing but its label ever becomes another.
The number of an organization that is gone is not given out again, so that an organization created
later under the same code is a different one.
-/

namespace SectorForest

namespace Records

/-- An organization is stored, perhaps under another label. -/
def Stores (r : Records) (o : Organization) : Prop :=
  ∃ x ∈ r.organizations, x.id = o.id ∧ x.tenant = o.tenant ∧ x.code = o.code

/-- A number was given out to an organization that is not stored any more. -/
def Dissolved (r : Records) (org : OrganizationId) : Prop :=
  org ≤ r.lastOrganization ∧ ∀ x ∈ r.organizations, x.id ≠ org

variable {r r' : Records} {newCode : String} {o : Organization}

theorem stores_of_mem (ho : o ∈ r.organizations) : r.Stores o :=
  ⟨o, ho, rfl, rfl, rfl⟩

/-- A new number is above that of every stored organization. -/
theorem Sound.organization_id_lt_next (hr : r.Sound)
    (hroom : r.lastOrganization ≠ Int64.maxValue) :
    ∀ x ∈ r.organizations, x.id < r.lastOrganization + 1 :=
  fun x hx => Int64.lt_of_le_of_lt (hr.organizations_le x hx).2 (lt_next hroom)

/-- A new number is not that of a stored organization. -/
theorem Sound.organization_id_ne_next (hr : r.Sound)
    (hroom : r.lastOrganization ≠ Int64.maxValue) :
    ∀ x ∈ r.organizations, x.id ≠ r.lastOrganization + 1 :=
  fun x hx => Int64.ne_of_lt (hr.organization_id_lt_next hroom x hx)

/-- The number of a stored organization leads to its tenant and its code. -/
theorem Stores.key_eq (ho : r.Stores o) (hr : r.Sound) {tenant : TenantId} {code : String}
    {x : Organization} (hx : r.organization? tenant code = some x) (hid : x.id = o.id) :
    tenant = o.tenant ∧ code = o.code := by
  obtain ⟨y, hy, hid', htenant, hcode⟩ := ho
  obtain ⟨hmem, rfl, rfl⟩ := organization?_eq_some hx
  rw [distinctBy_number hr.organizations_increasing x hmem y hy (hid.trans hid'.symm)]
  exact ⟨htenant, hcode⟩

/-- The tenant and the code of a stored organization lead to its number. -/
theorem Stores.id_eq (ho : r.Stores o) (hr : r.Sound) {x : Organization}
    (hx : r.organization? o.tenant o.code = some x) : x.id = o.id := by
  obtain ⟨y, hy, hid, htenant, hcode⟩ := ho
  obtain ⟨hmem, htenant', hcode'⟩ := organization?_eq_some hx
  have hsame := hr.organization_codes x hmem y hy (by simp [htenant, hcode, htenant', hcode'])
  rw [hsame, hid]

/-- An organization stays until it is deleted. -/
theorem Effect.stores {mutation : Mutation} {a : mutation.Answer}
    (h : r.Effect newCode mutation a r') (ho : r.Stores o)
    (hkeep : mutation ≠ .deleteOrganization o.tenant o.code) : r'.Stores o := by
  obtain ⟨y, hy, hid, htenant, hcode⟩ := ho
  cases h with
  | createOrganization _ _ _ => exact ⟨y, List.mem_append_left _ hy, hid, htenant, hcode⟩
  | createSector _ => exact ⟨y, hy, hid, htenant, hcode⟩
  | createSectorIn _ _ => exact ⟨y, hy, hid, htenant, hcode⟩
  | renameSector _ _ _ => exact ⟨y, hy, hid, htenant, hcode⟩
  | deleteSector _ => exact ⟨y, hy, hid, htenant, hcode⟩
  | keepLabel _ _ => exact ⟨y, hy, hid, htenant, hcode⟩
  | renameOrganization _ _ _ =>
    refine ⟨_, List.mem_map_of_mem hy, ?_⟩
    split <;> exact ⟨hid, htenant, hcode⟩
  | deleteOrganization hx =>
    refine ⟨y, List.mem_filter.mpr ⟨hy, ?_⟩, hid, htenant, hcode⟩
    obtain ⟨-, htenant', hcode'⟩ := organization?_eq_some hx
    rw [Bool.not_eq_true', decide_eq_false_iff_not]
    -- to be removed it has to be named by its tenant and its code
    rintro ⟨hsame, hsame'⟩
    subst htenant' hcode'
    exact hkeep (by rw [← htenant, ← hcode, hsame, hsame'])

/-- Deleting an organization leaves none with its number. -/
theorem Effect.dissolves {mutation : Mutation} {a : mutation.Answer}
    (h : r.Effect newCode mutation a r') (hr : r.Sound) (ho : r.Stores o)
    (hdelete : mutation = .deleteOrganization o.tenant o.code) : r'.Dissolved o.id := by
  subst hdelete
  cases h with
  | @deleteOrganization _ _ x hx =>
    obtain ⟨hmem, -, -⟩ := organization?_eq_some hx
    have hid := ho.id_eq hr hx
    refine ⟨hid ▸ (hr.organizations_le x hmem).2, fun y hy heq => ?_⟩
    obtain ⟨hy, hkept⟩ := List.mem_filter.mp hy
    rw [distinctBy_number hr.organizations_increasing y hy x hmem (heq.trans hid.symm)] at hkept
    simp [organization?_eq_some hx] at hkept

/-- The number of an organization that is gone is not given out again. -/
theorem Effect.dissolved {mutation : Mutation} {a : mutation.Answer}
    (h : r.Effect newCode mutation a r') {org : OrganizationId} (hgone : r.Dissolved org) :
    r'.Dissolved org := by
  cases h with
  | createOrganization _ _ hfounds =>
    have hlt : org < r.lastOrganization + 1 :=
      Int64.lt_of_le_of_lt hgone.1 (lt_next hfounds.organization_room)
    refine ⟨Int64.le_of_lt hlt, fun x hx heq => ?_⟩
    rcases List.mem_append.mp hx with hx | hx
    · exact hgone.2 x hx heq
    · rw [List.mem_singleton.mp hx] at heq
      rw [← heq] at hlt
      exact Int64.lt_irrefl hlt
  | createSector _ => exact hgone
  | createSectorIn _ _ => exact hgone
  | renameSector _ _ _ => exact hgone
  | deleteSector _ => exact hgone
  | keepLabel _ _ => exact hgone
  | renameOrganization _ _ _ =>
    refine ⟨hgone.1, List.forall_mem_map.mpr fun x hx => ?_⟩
    split <;> exact hgone.2 x hx
  | deleteOrganization _ => exact ⟨hgone.1, fun x hx => hgone.2 x (List.mem_of_mem_filter hx)⟩

end Records

end SectorForest
