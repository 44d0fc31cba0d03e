import SectorForest.Proofs.Records

/-!
# Changes of records

The six ways in which records ever change, as functions on `Records`, and what the tables guarantee
of the records whoever changes them: `Records.Sound`. Each change keeps `Sound` under the conditions
that the tables check before they let it happen.
-/

namespace SectorForest

namespace Records

/-! ## The six changes -/

/-- The records with one more organization, under the next number. -/
def addOrganization (r : Records) (o : NewOrganization) : Records :=
  { r with
    organizations := r.organizations ++ [o.stored (r.lastOrganization + 1)]
    lastOrganization := r.lastOrganization + 1 }

/-- The records with one more sector, under the next number. -/
def addSector (r : Records) (s : NewSector) : Records :=
  { r with
    sectors := r.sectors ++ [s.stored (r.lastSector + 1)]
    lastSector := r.lastSector + 1 }

/-- The records with another label for the organization of a tenant with a code. -/
def relabelOrganization (r : Records) (tenant : TenantId) (code label : String) : Records :=
  { r with
    organizations := r.organizations.map fun o =>
      if o.tenant = tenant ∧ o.code = code then { o with label } else o }

/-- The records with another label for the sector of a tenant with a number. -/
def relabelSector (r : Records) (tenant : TenantId) (id : SectorId) (label : String) : Records :=
  { r with
    sectors := r.sectors.map fun s =>
      if s.tenant = tenant ∧ s.id = id then { s with label } else s }

/-- The records without the organization of a tenant with a code. -/
def removeOrganization (r : Records) (tenant : TenantId) (code : String) : Records :=
  { r with
    organizations := r.organizations.filter fun o => !decide (o.tenant = tenant ∧ o.code = code) }

/-- The records without the sectors that `gone` picks. -/
def removeSectors (r : Records) (gone : Sector → Bool) : Records :=
  { r with sectors := r.sectors.filter fun s => !gone s }

end Records

/-- What a sector says of its parent fits together: a root has no parent and depth zero, any other
sector has both a parent and a greater depth. -/
def Shaped (parent : Option SectorId) (hasParent : Bool) (depth : UInt32) : Prop :=
  (hasParent = false ∧ parent = none ∧ depth = 0) ∨
    (hasParent = true ∧ parent.isSome = true ∧ depth ≠ 0)

instance (parent : Option SectorId) (hasParent : Bool) (depth : UInt32) :
    Decidable (Shaped parent hasParent depth) :=
  inferInstanceAs (Decidable (_ ∨ _))

theorem Shaped.hasParent_eq {parent : Option SectorId} {hasParent : Bool} {depth : UInt32}
    (h : Shaped parent hasParent depth) : hasParent = parent.isSome := by
  rcases h with ⟨rfl, rfl, -⟩ | ⟨rfl, h, -⟩
  · rfl
  · exact h.symm

theorem Shaped.depth_eq_zero_iff {parent : Option SectorId} {hasParent : Bool} {depth : UInt32}
    (h : Shaped parent hasParent depth) : depth = 0 ↔ hasParent = false := by
  rcases h with ⟨rfl, -, hdepth⟩ | ⟨rfl, -, hdepth⟩ <;> simp [hdepth]

theorem toNat_below {depth : UInt32} (h : depth.toNat + 1 < UInt32.size) :
    (depth + 1).toNat = depth.toNat + 1 := by
  rw [UInt32.toNat_add]
  exact Nat.mod_eq_of_lt h

/-- There is a place below any sector that is not on the deepest level. -/
theorem shaped_below {depth : UInt32} (h : depth.toNat + 1 < UInt32.size) (parent : SectorId) :
    Shaped (some parent) true (depth + 1) := by
  refine .inr ⟨rfl, rfl, fun hzero => ?_⟩
  have hbelow := toNat_below h
  rw [hzero] at hbelow
  cases hbelow

/-- A child is made below any parent that is not on the deepest level. -/
theorem NewSector.childOf?_eq_some {parent : Sector} {code label : String} {status : Status}
    {child : NewSector} (h : childOf? parent code label status = some child) :
    parent.depth.toNat + 1 < UInt32.size ∧ child = {
      tenant := parent.tenant
      org := parent.org
      code, label
      parent := some parent.id
      hasParent := true
      depth := parent.depth + 1
      status } := by
  rw [childOf?] at h
  split at h
  · rename_i hdepth
    cases h
    exact ⟨hdepth, rfl⟩
  · cases h

/-! ## Numbers and keys -/

/-- No two members of a list have the same key. -/
def DistinctBy {α κ : Type} (key : α → κ) (xs : List α) : Prop :=
  ∀ a ∈ xs, ∀ b ∈ xs, key a = key b → a = b

section Lists

variable {α κ : Type} {key : α → κ} {number : α → Int64} {xs : List α}

theorem DistinctBy.append (h : DistinctBy key xs) {x : α} (hx : ∀ a ∈ xs, key a ≠ key x) :
    DistinctBy key (xs ++ [x]) := by
  intro a ha b hb hab
  rw [List.mem_append, List.mem_singleton] at ha hb
  rcases ha with ha | rfl <;> rcases hb with hb | rfl
  · exact h a ha b hb hab
  · exact absurd hab (hx a ha)
  · exact absurd hab.symm (hx b hb)
  · rfl

theorem DistinctBy.filter (h : DistinctBy key xs) (p : α → Bool) :
    DistinctBy key (xs.filter p) :=
  fun a ha b hb => h a (List.mem_of_mem_filter ha) b (List.mem_of_mem_filter hb)

theorem DistinctBy.map (h : DistinctBy key xs) {f : α → α} (hf : ∀ a, key (f a) = key a) :
    DistinctBy key (xs.map f) := by
  refine List.forall_mem_map.mpr fun a ha => List.forall_mem_map.mpr fun b hb hab => ?_
  rw [hf, hf] at hab
  rw [h a ha b hb hab]

/-- Giving one member a key that no other has keeps keys distinct. -/
theorem DistinctBy.map_one (h : DistinctBy key xs) {p : α → Prop} [DecidablePred p] {f : α → α}
    {k : κ} (hp : ∀ a ∈ xs, ∀ b ∈ xs, p a → p b → a = b) (hf : ∀ a, p a → key (f a) = k)
    (hk : ∀ a ∈ xs, key a = k → p a) :
    DistinctBy key (xs.map fun a => if p a then f a else a) := by
  refine List.forall_mem_map.mpr fun a ha => List.forall_mem_map.mpr fun b hb hab => ?_
  -- only one member gets the new key, and no other one has it
  by_cases hpa : p a <;> by_cases hpb : p b
  · rw [hp a ha b hb hpa hpb]
  · simp only [hpa, hpb, if_true, if_false, hf a hpa] at hab
    exact absurd (hk b hb hab.symm) hpb
  · simp only [hpa, hpb, if_true, if_false, hf b hpb] at hab
    exact absurd (hk a ha hab) hpa
  · simp only [hpa, hpb, if_false] at hab ⊢
    exact h a ha b hb hab

/-- The numbers of a list in which they increase. -/
theorem nodup_numbers (h : xs.Pairwise fun a b => number a < number b) : (xs.map number).Nodup :=
  List.pairwise_map.mpr <| h.imp fun {_ _} hlt heq => by
    rw [heq] at hlt
    exact Int64.lt_irrefl hlt

/-- In a list whose numbers increase, a number tells the members apart. -/
theorem distinctBy_number (h : xs.Pairwise fun a b => number a < number b) :
    DistinctBy number xs :=
  fun _ ha _ hb => List.inj_on_of_nodup_map (nodup_numbers h) ha hb

end Lists

/-- The number behind one that is not the greatest of all. -/
theorem toInt_next {last : Int64} (h : last ≠ Int64.maxValue) :
    (last + 1).toInt = last.toInt + 1 := by
  have hlt : last.toInt ≠ Int64.maxValue.toInt := fun heq => h (Int64.toInt_inj.mp heq)
  have hle := last.toInt_le
  have hge := last.le_toInt
  rw [Int64.toInt_maxValue] at hlt hle
  -- the sum does not wrap around
  rw [Int64.toInt_add, Int64.toInt_one]
  exact Int.bmod_eq_of_le (by omega) (by omega)

theorem lt_next {last : Int64} (h : last ≠ Int64.maxValue) : last < last + 1 := by
  rw [Int64.lt_iff_toInt_lt, toInt_next h]
  omega

/-- Numbers that increase up to `last` still do with the next one behind them. -/
theorem increasing_append {α : Type} {number : α → Int64} {xs : List α} {x : α} {last : Int64}
    (h : xs.Pairwise fun a b => number a < number b)
    (hle : ∀ a ∈ xs, 0 < number a ∧ number a ≤ last) (hx : number x = last + 1)
    (hmax : last ≠ Int64.maxValue) :
    (xs ++ [x]).Pairwise fun a b => number a < number b := by
  refine List.pairwise_append.mpr ⟨h, List.pairwise_singleton _ _, fun a ha b hb => ?_⟩
  rw [List.mem_singleton.mp hb, hx]
  exact Int64.lt_of_le_of_lt (hle a ha).2 (lt_next hmax)

theorem le_next_of_mem_append {α : Type} {number : α → Int64} {xs : List α} {x : α} {last : Int64}
    (hle : ∀ a ∈ xs, 0 < number a ∧ number a ≤ last) (hx : number x = last + 1)
    (hmax : last ≠ Int64.maxValue) (hlast : 0 ≤ last) :
    ∀ a ∈ xs ++ [x], 0 < number a ∧ number a ≤ last + 1 := by
  have hlt := lt_next hmax
  intro a ha
  rw [List.mem_append, List.mem_singleton] at ha
  rcases ha with ha | rfl
  · exact ⟨(hle a ha).1, Int64.le_trans (hle a ha).2 (Int64.le_of_lt hlt)⟩
  · rw [hx]
    exact ⟨Int64.lt_of_le_of_lt hlast hlt, Int64.le_refl _⟩

namespace Records

/-! ## What the tables guarantee -/

/-- What the tables guarantee of their records: numbers increase and are never above the greatest
one given out, codes and labels tell records apart, every sector has a stored owner, and what it
says of its parent fits together. -/
structure Sound (r : Records) : Prop where
  organizations_increasing : r.organizations.Pairwise fun a b => a.id < b.id
  organizations_le : ∀ o ∈ r.organizations, 0 < o.id ∧ o.id ≤ r.lastOrganization
  lastOrganization_nonneg : 0 ≤ r.lastOrganization
  sectors_increasing : r.sectors.Pairwise fun a b => a.id < b.id
  sectors_le : ∀ s ∈ r.sectors, 0 < s.id ∧ s.id ≤ r.lastSector
  lastSector_nonneg : 0 ≤ r.lastSector
  organization_codes : DistinctBy (fun o => (o.tenant, o.code)) r.organizations
  organization_labels : DistinctBy (fun o => (o.tenant, o.label)) r.organizations
  sector_codes : DistinctBy (fun s => s.code) r.sectors
  sector_labels : DistinctBy (fun s => (s.tenant, s.label)) r.sectors
  owned : ∀ s ∈ r.sectors, ∃ o ∈ r.organizations, o.id = s.org
  shaped : ∀ s ∈ r.sectors, Shaped s.parent s.hasParent s.depth

theorem sound_empty : Sound {} := by
  constructor <;> simp [DistinctBy]

variable {r : Records}

theorem Sound.readable (h : r.Sound) : r.Readable :=
  fun s hs => (h.shaped s hs).hasParent_eq

/-- A stored sector is found under its number. -/
theorem Sound.sector?_of_mem (h : r.Sound) {s : Sector} (hs : s ∈ r.sectors) :
    r.sector? s.tenant s.id = some s := by
  cases hfind : r.sector? s.tenant s.id with
  | none =>
    have hkey := List.find?_eq_none.mp hfind s hs
    simp at hkey
  | some found =>
    obtain ⟨hmem, -, hid⟩ := sector?_eq_some hfind
    rw [distinctBy_number h.sectors_increasing found hmem s hs hid]

/-- A stored sector is found under its code. -/
theorem Sound.sectorByCode?_of_mem (h : r.Sound) {s : Sector} (hs : s ∈ r.sectors) :
    r.sectorByCode? s.tenant s.code = some s := by
  cases hfind : r.sectorByCode? s.tenant s.code with
  | none =>
    have hkey := List.find?_eq_none.mp hfind s hs
    simp at hkey
  | some found =>
    obtain ⟨hmem, -, hcode⟩ := sectorByCode?_eq_some hfind
    rw [h.sector_codes found hmem s hs hcode]

/-- A stored sector is found under its label. -/
theorem Sound.sectorByLabel?_of_mem (h : r.Sound) {s : Sector} (hs : s ∈ r.sectors) :
    r.sectorByLabel? s.tenant s.label = some s := by
  cases hfind : r.sectorByLabel? s.tenant s.label with
  | none => exact absurd rfl (sectorByLabel?_eq_none.mp hfind s hs rfl)
  | some found =>
    obtain ⟨hmem, htenant, hlabel⟩ := sectorByLabel?_eq_some hfind
    rw [h.sector_labels found hmem s hs (by simp [htenant, hlabel])]

/-- Whether the label is one of a sector with another code. -/
def labelledOther (r : Records) (tenant : TenantId) (code label : String) : Bool :=
  (r.sectorByLabel? tenant label).any fun owner => owner.code != code

theorem Sound.labelledOther_iff (h : r.Sound) {tenant : TenantId} {code label : String} :
    r.labelledOther tenant code label = true ↔
      ∃ owner ∈ r.sectors, owner.tenant = tenant ∧ owner.label = label ∧ owner.code ≠ code := by
  rw [labelledOther]
  constructor
  · intro hother
    cases howner : r.sectorByLabel? tenant label with
    | none => rw [howner] at hother; cases hother
    | some owner =>
      rw [howner] at hother
      obtain ⟨hmem, htenant, hlabel⟩ := sectorByLabel?_eq_some howner
      exact ⟨owner, hmem, htenant, hlabel, by simpa using hother⟩
  · rintro ⟨owner, hmem, rfl, rfl, hcode⟩
    -- a label has one owner in a tenant
    rw [h.sectorByLabel?_of_mem hmem]
    simpa using hcode

theorem mem_addSector {s : NewSector} : s.stored (r.lastSector + 1) ∈ (r.addSector s).sectors :=
  List.mem_append_right _ (List.mem_singleton_self _)

/-- A new sector is the last one of its organization and makes no difference to other ones. -/
theorem sectorsOf_addSector (tenant : TenantId) (org : OrganizationId) {s : NewSector} :
    (r.addSector s).sectorsOf tenant org = r.sectorsOf tenant org ++
      if tenant = s.tenant ∧ org = s.org then [s.stored (r.lastSector + 1)] else [] := by
  rw [sectorsOf, addSector, List.filter_append, ← sectorsOf]
  simp only [List.filter_cons, List.filter_nil, NewSector.stored, Bool.and_eq_true, beq_iff_eq,
    @eq_comm _ s.tenant, @eq_comm _ s.org]

/-- A new sector is found under its number. -/
theorem Sound.sector?_addSector {s : NewSector} (h : (r.addSector s).Sound) :
    (r.addSector s).sector? s.tenant (r.lastSector + 1) =
      some (s.stored (r.lastSector + 1)) :=
  h.sector?_of_mem mem_addSector

/-- A new sector is found under its code. -/
theorem Sound.sectorByCode?_addSector {s : NewSector} (h : (r.addSector s).Sound) :
    (r.addSector s).sectorByCode? s.tenant s.code = some (s.stored (r.lastSector + 1)) :=
  h.sectorByCode?_of_mem mem_addSector

/-- A new sector is found under its label. -/
theorem Sound.sectorByLabel?_addSector {s : NewSector} (h : (r.addSector s).Sound) :
    (r.addSector s).sectorByLabel? s.tenant s.label = some (s.stored (r.lastSector + 1)) :=
  h.sectorByLabel?_of_mem mem_addSector

/-- A stored organization is found under its code. -/
theorem Sound.organization?_of_mem (h : r.Sound) {o : Organization} (ho : o ∈ r.organizations) :
    r.organization? o.tenant o.code = some o := by
  cases hfind : r.organization? o.tenant o.code with
  | none =>
    have hkey := List.find?_eq_none.mp hfind o ho
    simp at hkey
  | some found =>
    obtain ⟨hmem, htenant, hcode⟩ := organization?_eq_some hfind
    rw [h.organization_codes found hmem o ho (by simp [htenant, hcode])]

theorem mem_addOrganization {o : NewOrganization} :
    o.stored (r.lastOrganization + 1) ∈ (r.addOrganization o).organizations :=
  List.mem_append_right _ (List.mem_singleton_self _)

/-- A new organization is found under its code. -/
theorem Sound.organization?_addOrganization {o : NewOrganization}
    (h : (r.addOrganization o).Sound) :
    (r.addOrganization o).organization? o.tenant o.code =
      some (o.stored (r.lastOrganization + 1)) :=
  h.organization?_of_mem mem_addOrganization

theorem Sound.addOrganization (h : r.Sound) {o : NewOrganization}
    (hmax : r.lastOrganization ≠ Int64.maxValue)
    (hcode : ∀ x ∈ r.organizations, x.tenant = o.tenant → x.code ≠ o.code)
    (hlabel : ∀ x ∈ r.organizations, x.tenant = o.tenant → x.label ≠ o.label) :
    (r.addOrganization o).Sound where
  __ := h
  organizations_increasing :=
    increasing_append h.organizations_increasing h.organizations_le rfl hmax
  organizations_le :=
    le_next_of_mem_append h.organizations_le rfl hmax h.lastOrganization_nonneg
  lastOrganization_nonneg :=
    Int64.le_trans h.lastOrganization_nonneg (Int64.le_of_lt (lt_next hmax))
  organization_codes := h.organization_codes.append fun x hx heq =>
    hcode x hx (Prod.mk.inj heq).1 (Prod.mk.inj heq).2
  organization_labels := h.organization_labels.append fun x hx heq =>
    hlabel x hx (Prod.mk.inj heq).1 (Prod.mk.inj heq).2
  owned := fun s hs => by
    obtain ⟨o, ho, hid⟩ := h.owned s hs
    exact ⟨o, List.mem_append_left _ ho, hid⟩

theorem Sound.addSector (h : r.Sound) {s : NewSector} (hmax : r.lastSector ≠ Int64.maxValue)
    (hcode : ∀ x ∈ r.sectors, x.code ≠ s.code)
    (hlabel : ∀ x ∈ r.sectors, x.tenant = s.tenant → x.label ≠ s.label)
    (howned : ∃ o ∈ r.organizations, o.id = s.org)
    (hshaped : Shaped s.parent s.hasParent s.depth) :
    (r.addSector s).Sound where
  __ := h
  sectors_increasing := increasing_append h.sectors_increasing h.sectors_le rfl hmax
  sectors_le := le_next_of_mem_append h.sectors_le rfl hmax h.lastSector_nonneg
  lastSector_nonneg := Int64.le_trans h.lastSector_nonneg (Int64.le_of_lt (lt_next hmax))
  sector_codes := h.sector_codes.append hcode
  sector_labels := h.sector_labels.append fun x hx heq =>
    hlabel x hx (Prod.mk.inj heq).1 (Prod.mk.inj heq).2
  owned := fun x hx => by
    rcases List.mem_append.mp hx with hx | hx
    · exact h.owned x hx
    · rw [List.mem_singleton.mp hx]
      exact howned
  shaped := fun x hx => by
    rcases List.mem_append.mp hx with hx | hx
    · exact h.shaped x hx
    · rw [List.mem_singleton.mp hx]
      exact hshaped

theorem Sound.relabelOrganization (h : r.Sound) {tenant : TenantId} {code label : String}
    (hlabel : ∀ x ∈ r.organizations, x.tenant = tenant → x.label = label → x.code = code) :
    (r.relabelOrganization tenant code label).Sound where
  __ := h
  organizations_increasing := by
    refine List.pairwise_map.mpr (h.organizations_increasing.imp fun {a b} hlt => ?_)
    split <;> split <;> exact hlt
  organizations_le := by
    refine List.forall_mem_map.mpr fun o ho => ?_
    split <;> exact h.organizations_le o ho
  organization_codes := h.organization_codes.map fun o => by split <;> rfl
  organization_labels := by
    -- the code picks one organization, and no other one has the label
    refine h.organization_labels.map_one (k := (tenant, label)) ?_ ?_ ?_
    · rintro a ha b hb ⟨hta, hca⟩ ⟨htb, hcb⟩
      exact h.organization_codes a ha b hb (by simp [hta, hca, htb, hcb])
    · rintro a ⟨ht, -⟩
      simp [ht]
    · intro a ha hk
      obtain ⟨ht, hl⟩ := Prod.mk.inj hk
      exact ⟨ht, hlabel a ha ht hl⟩
  owned := fun s hs => by
    obtain ⟨o, ho, hid⟩ := h.owned s hs
    refine ⟨_, List.mem_map_of_mem ho, ?_⟩
    split <;> exact hid

theorem Sound.relabelSector (h : r.Sound) {tenant : TenantId} {id : SectorId} {label : String}
    (hlabel : ∀ x ∈ r.sectors, x.tenant = tenant → x.label = label → x.id = id) :
    (r.relabelSector tenant id label).Sound where
  __ := h
  sectors_increasing := by
    refine List.pairwise_map.mpr (h.sectors_increasing.imp fun {a b} hlt => ?_)
    split <;> split <;> exact hlt
  sectors_le := by
    refine List.forall_mem_map.mpr fun s hs => ?_
    split <;> exact h.sectors_le s hs
  sector_codes := h.sector_codes.map fun s => by split <;> rfl
  sector_labels := by
    -- the number picks one sector, and no other one has the label
    refine h.sector_labels.map_one (k := (tenant, label)) ?_ ?_ ?_
    · rintro a ha b hb ⟨-, hia⟩ ⟨-, hib⟩
      exact distinctBy_number h.sectors_increasing a ha b hb (hia.trans hib.symm)
    · rintro a ⟨ht, -⟩
      simp [ht]
    · intro a ha hk
      obtain ⟨ht, hl⟩ := Prod.mk.inj hk
      exact ⟨ht, hlabel a ha ht hl⟩
  owned := by
    refine List.forall_mem_map.mpr fun s hs => ?_
    split <;> exact h.owned s hs
  shaped := by
    refine List.forall_mem_map.mpr fun s hs => ?_
    split <;> exact h.shaped s hs

theorem Sound.removeOrganization (h : r.Sound) {tenant : TenantId} {code : String}
    (hfree : ∀ o ∈ r.organizations, o.tenant = tenant → o.code = code →
      ∀ s ∈ r.sectors, s.org ≠ o.id) :
    (r.removeOrganization tenant code).Sound where
  __ := h
  organizations_increasing := h.organizations_increasing.filter _
  organizations_le := fun o ho => h.organizations_le o (List.mem_of_mem_filter ho)
  organization_codes := h.organization_codes.filter _
  organization_labels := h.organization_labels.filter _
  owned := fun s hs => by
    obtain ⟨o, ho, hid⟩ := h.owned s hs
    refine ⟨o, List.mem_filter.mpr ⟨ho, ?_⟩, hid⟩
    simp only [Bool.not_eq_true', decide_eq_false_iff_not]
    -- the organization that goes owns nothing
    rintro ⟨ht, hc⟩
    exact hfree o ho ht hc s hs hid.symm

theorem Sound.removeSectors (h : r.Sound) (gone : Sector → Bool) :
    (r.removeSectors gone).Sound where
  __ := h
  sectors_increasing := h.sectors_increasing.filter _
  sectors_le := fun s hs => h.sectors_le s (List.mem_of_mem_filter hs)
  sector_codes := h.sector_codes.filter _
  sector_labels := h.sector_labels.filter _
  owned := fun s hs => h.owned s (List.mem_of_mem_filter hs)
  shaped := fun s hs => h.shaped s (List.mem_of_mem_filter hs)

end Records

end SectorForest
