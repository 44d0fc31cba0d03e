import SectorForest.Proofs.Lineage

/-!
# What a call leaves alone

A call is made for a tenant and is about one organization at most: `Mutation.target?`. Whatever it
does, it does to that organization of that tenant and to the sectors of it; all other records are
left as they are, `Records.besides`.

Two deletions are not held to a tenant or an organization by what they ask for. The sectors of an
organization are deleted by its number alone, and those below a sector by the number of their
parent. That they stay within bounds is due to `Records.Lineage`: a sector belongs to the tenant of
its organization, and to the organization of its parent as long as that is stored.
-/

namespace SectorForest

open Storage

/-! ## Whom a call is about -/

namespace Mutation

/-- The tenant that a call is made for. -/
def tenant : Mutation → TenantId
  | .createOrganization tenant _ => tenant
  | .createSector tenant _ _ _ => tenant
  | .createSectorIn tenant _ _ => tenant
  | .renameSector tenant _ _ => tenant
  | .deleteSector tenant _ => tenant
  | .renameOrganization tenant _ _ => tenant
  | .deleteOrganization tenant _ => tenant

/-- The number of the organization that a call is about. There is none where the call names a
record that is not stored. -/
def target? (r : Records) : Mutation → Option OrganizationId
  | .createOrganization _ _ => some (r.lastOrganization + 1)
  | .createSector _ org _ _ => some org
  | .createSectorIn tenant code _ => (r.organization? tenant code).map (·.id)
  | .renameSector tenant id _ => (r.sector? tenant id).map (·.org)
  | .deleteSector tenant id => (r.sector? tenant id).map (·.org)
  | .renameOrganization tenant code _ => (r.organization? tenant code).map (·.id)
  | .deleteOrganization tenant code => (r.organization? tenant code).map (·.id)

end Mutation

/-! ## All other records -/

/-- A change of some members of a list is not seen where none of them is picked. -/
theorem List.filter_map_unpicked {α : Type} {picked : α → Bool} {p : α → Prop} [DecidablePred p]
    {change : α → α} {xs : List α}
    (h : ∀ x ∈ xs, p x → picked x = false ∧ picked (change x) = false) :
    (xs.map fun x => if p x then change x else x).filter picked = xs.filter picked := by
  induction xs with
  | nil => rfl
  | cons x xs ih =>
    have hrest := ih fun y hy => h y (List.mem_cons_of_mem x hy)
    by_cases hx : p x
    · obtain ⟨hbefore, hafter⟩ := h x List.mem_cons_self hx
      simp [hx, hbefore, hafter, hrest]
    · simp [hx, List.filter_cons, hrest]

/-- Taking some members from a list is not seen where none of them is picked. -/
theorem List.filter_filter_unpicked {α : Type} {picked kept : α → Bool} {xs : List α}
    (h : ∀ x ∈ xs, kept x = false → picked x = false) :
    (xs.filter kept).filter picked = xs.filter picked := by
  rw [List.filter_filter]
  refine List.filter_congr fun x hx => ?_
  cases hkept : kept x with
  | true => rw [Bool.and_true]
  | false => rw [h x hx hkept, Bool.and_false]

/-- Whether an organization is another one than that of a tenant with a number. -/
def Organization.isOther (o : Organization) (tenant : TenantId) (org : OrganizationId) : Bool :=
  !(o.tenant == tenant && o.id == org)

/-- Whether a sector is none of the organization of a tenant with a number. -/
def Sector.isOther (s : Sector) (tenant : TenantId) (org : OrganizationId) : Bool :=
  !(s.tenant == tenant && s.org == org)

theorem Organization.isOther_eq_false {o : Organization} {tenant : TenantId}
    {org : OrganizationId} : o.isOther tenant org = false ↔ o.tenant = tenant ∧ o.id = org := by
  simp [isOther]

theorem Sector.isOther_eq_false {s : Sector} {tenant : TenantId} {org : OrganizationId} :
    s.isOther tenant org = false ↔ s.tenant = tenant ∧ s.org = org := by
  simp [isOther]

namespace Records

/-- All records but an organization of a tenant and its sectors. -/
def besides (r : Records) (tenant : TenantId) (org : OrganizationId) :
    List Organization × List Sector :=
  (r.organizations.filter (·.isOther tenant org), r.sectors.filter (·.isOther tenant org))

/-- All records of other tenants. -/
def ofOthers (r : Records) (tenant : TenantId) : List Organization × List Sector :=
  (r.organizations.filter (·.tenant != tenant), r.sectors.filter (·.tenant != tenant))

variable {r r' : Records} {tenant : TenantId} {org : OrganizationId} {newCode : String}

/-- Where all records stay but those of an organization of a tenant, those of other tenants stay. -/
theorem ofOthers_eq_of_besides_eq (h : r'.besides tenant org = r.besides tenant org) :
    r'.ofOthers tenant = r.ofOthers tenant := by
  obtain ⟨horganizations, hsectors⟩ := Prod.mk.inj h
  have hotherOrganization (o : Organization) :
      (o.tenant != tenant && o.isOther tenant org) = (o.tenant != tenant) := by
    cases htenant : o.tenant == tenant <;> simp [Organization.isOther, bne, htenant]
  have hotherSector (s : Sector) :
      (s.tenant != tenant && s.isOther tenant org) = (s.tenant != tenant) := by
    cases htenant : s.tenant == tenant <;> simp [Sector.isOther, bne, htenant]
  have horganizations := congrArg (List.filter (·.tenant != tenant)) horganizations
  have hsectors := congrArg (List.filter (·.tenant != tenant)) hsectors
  simp only [List.filter_filter, hotherOrganization] at horganizations
  simp only [List.filter_filter, hotherSector] at hsectors
  rw [ofOthers, ofOthers, horganizations, hsectors]

/-! ## Each change for itself -/

theorem besides_addOrganization {o : NewOrganization} (htenant : o.tenant = tenant) :
    (r.addOrganization o).besides tenant (r.lastOrganization + 1) =
      r.besides tenant (r.lastOrganization + 1) := by
  have hnew : (o.stored (r.lastOrganization + 1)).isOther tenant (r.lastOrganization + 1) = false :=
    Organization.isOther_eq_false.mpr ⟨htenant, rfl⟩
  simp [besides, addOrganization, List.filter_append, hnew]

theorem besides_addSector {s : NewSector} (htenant : s.tenant = tenant) (horg : s.org = org) :
    (r.addSector s).besides tenant org = r.besides tenant org := by
  have hnew : (s.stored (r.lastSector + 1)).isOther tenant org = false :=
    Sector.isOther_eq_false.mpr ⟨htenant, horg⟩
  simp [besides, addSector, List.filter_append, hnew]

theorem besides_relabelOrganization (hr : r.Sound) {code label : String} {o : Organization}
    (ho : r.organization? tenant code = some o) :
    (r.relabelOrganization tenant code label).besides tenant o.id = r.besides tenant o.id := by
  obtain ⟨hmem, htenant, hcode⟩ := organization?_eq_some ho
  refine Prod.ext (List.filter_map_unpicked fun x hx hpicked => ?_) rfl
  -- the tenant and the code pick the organization that was found
  obtain rfl := hr.organization_codes x hx o hmem
    (by simp [hpicked.1, hpicked.2, htenant, hcode])
  have hother := Organization.isOther_eq_false.mpr ⟨htenant, rfl⟩
  exact ⟨hother, hother⟩

theorem besides_relabelSector (hr : r.Sound) {id : SectorId} {label : String} {s : Sector}
    (hs : r.sector? tenant id = some s) :
    (r.relabelSector tenant id label).besides tenant s.org = r.besides tenant s.org := by
  obtain ⟨hmem, htenant, hid⟩ := sector?_eq_some hs
  refine Prod.ext rfl (List.filter_map_unpicked fun x hx hpicked => ?_)
  obtain rfl := distinctBy_number hr.sectors_increasing x hx s hmem (hpicked.2.trans hid.symm)
  have hother := Sector.isOther_eq_false.mpr ⟨htenant, rfl⟩
  exact ⟨hother, hother⟩

/-- What goes with a sector belongs to its organization. -/
theorem besides_deleteSector (hr : r.Sound) (hl : r.Lineage) {id : SectorId} {s : Sector}
    (hs : r.sector? tenant id = some s) :
    (r.removeSectors (goesWith tenant id)).besides tenant s.org = r.besides tenant s.org := by
  obtain ⟨hmem, htenant, hid⟩ := sector?_eq_some hs
  refine Prod.ext rfl (List.filter_filter_unpicked fun x hx hgone => ?_)
  rw [Bool.not_eq_false', goesWith_iff] at hgone
  obtain ⟨hxtenant, hxid | hparent⟩ := hgone
  · obtain rfl := distinctBy_number hr.sectors_increasing x hx s hmem (hxid.trans hid.symm)
    exact Sector.isOther_eq_false.mpr ⟨htenant, rfl⟩
  · obtain ⟨-, horg, -⟩ := hl.parent_above x hx s hmem (by rw [hparent, hid])
    exact Sector.isOther_eq_false.mpr ⟨hxtenant, horg.symm⟩

/-- What goes with an organization belongs to its tenant. -/
theorem besides_dissolve (hr : r.Sound) (hl : r.Lineage) {o : Organization}
    (ho : o ∈ r.organizations) :
    (r.dissolve o).besides o.tenant o.id = r.besides o.tenant o.id := by
  refine Prod.ext ?_ ?_
  · refine List.filter_filter_unpicked fun x hx hgone => ?_
    rw [Bool.not_eq_false', decide_eq_true_eq] at hgone
    obtain rfl := hr.organization_codes x hx o ho (by simp [hgone])
    exact Organization.isOther_eq_false.mpr ⟨rfl, rfl⟩
  · refine List.filter_filter_unpicked fun x hx hgone => ?_
    rw [Bool.not_eq_false', beq_iff_eq] at hgone
    exact Sector.isOther_eq_false.mpr ⟨(hl.tenant_eq x hx o ho hgone.symm).symm, hgone⟩

/-- A call that succeeds has an organization that it is about, and leaves all other records as they
are. -/
theorem Effect.besides_eq {mutation : Mutation} {a : mutation.Answer}
    (h : r.Effect newCode mutation a r') (hr : r.Sound) (hl : r.Lineage) :
    ∃ org, mutation.target? r = some org ∧
      r'.besides mutation.tenant org = r.besides mutation.tenant org := by
  cases h with
  | @createOrganization tenant draft code label _ _ _ =>
    refine ⟨r.lastOrganization + 1, rfl, ?_⟩
    let new := draft.named tenant code label
    have hrooted : (r.found new).besides tenant (r.lastOrganization + 1) =
        (r.addOrganization new).besides tenant (r.lastOrganization + 1) :=
      besides_addSector rfl rfl
    exact hrooted.trans (besides_addOrganization rfl)
  | createSector hgrows =>
    obtain ⟨htenant, horg, -⟩ := hgrows.fields
    exact ⟨_, rfl, besides_addSector htenant horg⟩
  | createSectorIn ho hgrows =>
    obtain ⟨htenant, horg, -⟩ := hgrows.fields
    exact ⟨_, congrArg (Option.map _) ho, besides_addSector htenant horg⟩
  | renameSector hs _ _ => exact ⟨_, congrArg (Option.map _) hs, besides_relabelSector hr hs⟩
  | deleteSector hs => exact ⟨_, congrArg (Option.map _) hs, besides_deleteSector hr hl hs⟩
  | keepLabel ho _ => exact ⟨_, congrArg (Option.map _) ho, rfl⟩
  | renameOrganization ho _ _ =>
    exact ⟨_, congrArg (Option.map _) ho, besides_relabelOrganization hr ho⟩
  | deleteOrganization ho =>
    obtain ⟨hmem, htenant, -⟩ := organization?_eq_some ho
    refine ⟨_, congrArg (Option.map _) ho, ?_⟩
    show (r.dissolve _).besides _ _ = r.besides _ _
    rw [Mutation.tenant, ← htenant]
    exact besides_dissolve hr hl hmem

/-! ### Organizations beside each other -/

/-- Another organization of the tenant of `acme`. -/
def umbra : Organization :=
  { acme with id := 2, code := "umbra", label := "Umbra" }

/-- The root of `umbra`. -/
def umbraRoot : Sector :=
  { acmeRoot with id := 5, org := 2, code := "umbra", label := "Umbra" }

/-- An organization of another tenant, with the label of `acme`. -/
def otherAcme : Organization :=
  { acme with id := 3, tenant := 2, code := "acme-2" }

/-- The root of `otherAcme`. -/
def otherAcmeRoot : Sector :=
  { acmeRoot with id := 6, tenant := 2, org := 3, code := "acme-2" }

/-- The records with all sectors of `acme`, and `umbra`. -/
def withUmbra : Records where
  organizations := [acme, umbra]
  sectors := chain.sectors ++ [umbraRoot]
  lastOrganization := 2
  lastSector := 5

/-- The records with all three organizations. -/
def neighbours : Records where
  organizations := [acme, umbra, otherAcme]
  sectors := chain.sectors ++ [umbraRoot, otherAcmeRoot]
  lastOrganization := 3
  lastSector := 6

theorem reached_neighbours : neighbours.Reached := by
  have humbra : chain.plan "" (.createOrganization 1
      { code := "umbra", label := "Umbra", kind := .bu }) = .ok (2, withUmbra) := rfl
  have hother : withUmbra.plan "" (.createOrganization 2
      { code := "acme-2", label := "Acme", kind := .bu }) = .ok (3, neighbours) := rfl
  exact (reached_chain.next humbra).next hother

end Records

/-! ## Reachable sessions -/

namespace Session

variable {s : Session}

/-- In a reachable session a call leaves the records of all other tenants as they are, and in its
own tenant all but those of one organization. Where the call fails it leaves them all. -/
theorem Reachable.writes_isolated (h : s.Reachable) (mutation : Mutation) :
    let s' := (s.call mutation).2
    s.connection.database = s.records.database ∧ s'.connection.database = s'.records.database ∧
    s'.records.ofOthers mutation.tenant = s.records.ofOthers mutation.tenant ∧
    ∃ org, s'.records.besides mutation.tenant org = s.records.besides mutation.tenant org := by
  have hholds := h.holds
  rcases hholds.call mutation with ⟨failure, -, hafter⟩ | ⟨a, r', -, heffect, hafter⟩
  · dsimp only
    rw [hafter.records]
    exact ⟨hholds.database, hafter.database, rfl, 0, rfl⟩
  · obtain ⟨org, -, hbesides⟩ := heffect.besides_eq hholds.sound h.lineage
    dsimp only
    rw [hafter.records]
    exact ⟨hholds.database, hafter.database, Records.ofOthers_eq_of_besides_eq hbesides, org,
      hbesides⟩

open Records in
/-- `acme` is deleted with all its sectors; one organization of the same tenant and one of another
tenant stay as they are. -/
theorem writes_isolated_neighbours :
    let s := neighbours.session ""
    let s' := (s.call (.deleteOrganization 1 "acme")).2
    s.Reachable ∧ s'.records.organizations = [umbra, otherAcme] ∧
    s'.records.ofOthers 1 = ([otherAcme], [otherAcmeRoot]) ∧
    ∃ org, s'.records.besides 1 org = neighbours.besides 1 org := by
  have hreachable := reached_neighbours.reachable ""
  have hplan : neighbours.plan "" (.deleteOrganization 1 "acme") =
      .ok ((), neighbours.dissolve acme) := rfl
  obtain ⟨-, hafter⟩ := reached_neighbours.sound.call_session hplan
  obtain ⟨-, -, hothers, hbesides⟩ := hreachable.writes_isolated (.deleteOrganization 1 "acme")
  rw [reached_neighbours.sound.records_session] at hothers hbesides
  refine ⟨hreachable, ?_, hothers.trans (by decide), hbesides⟩
  rw [hafter.records]
  decide

end Session

end SectorForest
