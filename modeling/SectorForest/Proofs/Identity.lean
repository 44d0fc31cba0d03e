import SectorForest.Proofs.Lineage

/-!
# What a number stands for

A number is given to one record only. From the day it is given out until the record is deleted, the
record keeps everything but its label, and afterwards the number stands for nothing.

Records that come from others by calls of the service `Continue` them: whatever has a number that
had been given out before was stored before, and differs in its label at most. The relation is
reflexive and transitive, so that one step for each effect is enough to compare any two points of a
run.
-/

namespace SectorForest

/-- What of an organization never changes: all but its label. -/
def Organization.unlabelled (o : Organization) : Organization :=
  { o with label := "" }

/-- What of a sector never changes: all but its label. -/
def Sector.unlabelled (s : Sector) : Sector :=
  { s with label := "" }

theorem Organization.id_eq_of_unlabelled {a b : Organization} (h : a.unlabelled = b.unlabelled) :
    a.id = b.id := by
  show a.unlabelled.id = b.unlabelled.id
  rw [h]

theorem Sector.id_eq_of_unlabelled {a b : Sector} (h : a.unlabelled = b.unlabelled) :
    a.id = b.id := by
  show a.unlabelled.id = b.unlabelled.id
  rw [h]

namespace Records

/-! ## Lists of numbered records -/

section Lists

variable {α : Type} {number : α → Int64} {kept : α → α} {last last' : Int64} {xs ys zs : List α}

/-- Every record of `ys` whose number had been given out up to `last` is a record of `xs`, as far as
`kept` tells. -/
def Inherits (number : α → Int64) (kept : α → α) (last : Int64) (xs ys : List α) : Prop :=
  ∀ y ∈ ys, number y ≤ last → ∃ x ∈ xs, kept x = kept y

theorem Inherits.refl : Inherits number kept last xs xs :=
  fun x hx _ => ⟨x, hx, rfl⟩

theorem Inherits.trans (hnumber : ∀ a b, kept a = kept b → number a = number b)
    (hle : last ≤ last') (hxy : Inherits number kept last xs ys)
    (hyz : Inherits number kept last' ys zs) : Inherits number kept last xs zs := by
  intro z hz hlast
  obtain ⟨y, hy, hkept⟩ := hyz z hz (Int64.le_trans hlast hle)
  -- the record in between has the same number
  rw [← hnumber y z hkept] at hlast
  obtain ⟨x, hx, hkept'⟩ := hxy y hy hlast
  exact ⟨x, hx, hkept'.trans hkept⟩

/-- A record under a new number inherits nothing and need not. -/
theorem Inherits.append {new : α} (hnew : last < number new) :
    Inherits number kept last xs (xs ++ [new]) := by
  intro y hy hlast
  rcases List.mem_append.mp hy with hy | hy
  · exact ⟨y, hy, rfl⟩
  · rw [List.mem_singleton.mp hy] at hlast
    exact absurd (Int64.lt_of_lt_of_le hnew hlast) Int64.lt_irrefl

theorem Inherits.map {change : α → α} (hchange : ∀ x, kept (change x) = kept x) :
    Inherits number kept last xs (xs.map change) := by
  intro y hy _
  obtain ⟨x, hx, rfl⟩ := List.mem_map.mp hy
  exact ⟨x, hx, (hchange x).symm⟩

theorem Inherits.filter (keep : α → Bool) : Inherits number kept last xs (xs.filter keep) :=
  fun x hx _ => ⟨x, List.mem_of_mem_filter hx, rfl⟩

/-- What is stored under a number at an earlier and at a later point is the same record, and it is
stored in between as well. -/
theorem Inherits.between (hnumber : ∀ a b, kept a = kept b → number a = number b)
    (hdistinct : DistinctBy number xs) (hle : last ≤ last')
    (hxy : Inherits number kept last xs ys) (hyz : Inherits number kept last' ys zs) {x z : α}
    (hx : x ∈ xs) (hlast : number x ≤ last) (hz : z ∈ zs) (hsame : number z = number x) :
    kept z = kept x ∧ ∃ y ∈ ys, kept y = kept x := by
  rw [← hsame] at hlast
  -- going back from the later point, each record has the number of the one behind it
  obtain ⟨y, hy, hyz⟩ := hyz z hz (Int64.le_trans hlast hle)
  rw [← hnumber y z hyz] at hlast
  obtain ⟨w, hw, hwy⟩ := hxy y hy hlast
  have hnumbers : number w = number x := by
    rw [hnumber w y hwy, hnumber y z hyz, hsame]
  obtain rfl : w = x := hdistinct w hw x hx hnumbers
  exact ⟨(hwy.trans hyz).symm, y, hy, hwy.symm⟩

end Lists

/-! ## Records that continue others -/

/-- The records `r'` came after the records `r`: no number has been taken back, and whatever has a
number that had been given out by then was stored by then, but for its label. -/
structure Continues (r r' : Records) : Prop where
  lastOrganization_le : r.lastOrganization ≤ r'.lastOrganization
  lastSector_le : r.lastSector ≤ r'.lastSector
  organizations : Inherits Organization.id Organization.unlabelled r.lastOrganization
    r.organizations r'.organizations
  sectors : Inherits Sector.id Sector.unlabelled r.lastSector r.sectors r'.sectors

variable {r r' r'' : Records} {newCode : String}

theorem Continues.refl (r : Records) : r.Continues r :=
  ⟨Int64.le_refl _, Int64.le_refl _, .refl, .refl⟩

theorem Continues.trans (h : r.Continues r') (h' : r'.Continues r'') : r.Continues r'' where
  lastOrganization_le := Int64.le_trans h.lastOrganization_le h'.lastOrganization_le
  lastSector_le := Int64.le_trans h.lastSector_le h'.lastSector_le
  organizations := h.organizations.trans (fun _ _ => Organization.id_eq_of_unlabelled)
    h.lastOrganization_le h'.organizations
  sectors := h.sectors.trans (fun _ _ => Sector.id_eq_of_unlabelled) h.lastSector_le h'.sectors

theorem continues_addOrganization (hroom : r.lastOrganization ≠ Int64.maxValue)
    (o : NewOrganization) : r.Continues (r.addOrganization o) :=
  ⟨Int64.le_of_lt (lt_next hroom), Int64.le_refl _, .append (lt_next hroom), .refl⟩

theorem continues_addSector (hroom : r.lastSector ≠ Int64.maxValue) (s : NewSector) :
    r.Continues (r.addSector s) :=
  ⟨Int64.le_refl _, Int64.le_of_lt (lt_next hroom), .refl, .append (lt_next hroom)⟩

theorem continues_relabelOrganization (tenant : TenantId) (code label : String) :
    r.Continues (r.relabelOrganization tenant code label) :=
  ⟨Int64.le_refl _, Int64.le_refl _, .map fun o => by split <;> rfl, .refl⟩

theorem continues_relabelSector (tenant : TenantId) (id : SectorId) (label : String) :
    r.Continues (r.relabelSector tenant id label) :=
  ⟨Int64.le_refl _, Int64.le_refl _, .refl, .map fun s => by split <;> rfl⟩

theorem continues_removeSectors (gone : Sector → Bool) : r.Continues (r.removeSectors gone) :=
  ⟨Int64.le_refl _, Int64.le_refl _, .refl, .filter _⟩

theorem continues_removeOrganization (tenant : TenantId) (code : String) :
    r.Continues (r.removeOrganization tenant code) :=
  ⟨Int64.le_refl _, Int64.le_refl _, .filter _, .refl⟩

/-- Whatever a call does, the records afterwards continue those before. -/
theorem Effect.continues {mutation : Mutation} {a : mutation.Answer}
    (h : r.Effect newCode mutation a r') : r.Continues r' := by
  cases h with
  | @createOrganization tenant draft code label _ _ hfounds =>
    -- the organization comes first, and its root under a number of its own
    have hadded := continues_addOrganization hfounds.organization_room
      (draft.named tenant code label)
    apply hadded.trans
    exact continues_addSector (r := r.addOrganization (draft.named tenant code label))
      hfounds.sector_room _
  | createSector hgrows => exact continues_addSector hgrows.room _
  | createSectorIn _ hgrows => exact continues_addSector hgrows.room _
  | renameSector _ _ _ => exact continues_relabelSector _ _ _
  | deleteSector _ => exact continues_removeSectors _
  | keepLabel _ _ => exact .refl r
  | renameOrganization _ _ _ => exact continues_relabelOrganization _ _ _
  | deleteOrganization _ =>
    apply (continues_removeSectors _).trans
    exact continues_removeOrganization _ _

end Records

/-! ## Reachable sessions -/

namespace Session

variable {s s' : Session} {calls : List Call} {r : Records}

/-- Along a run, records continue those at its start. -/
theorem Run.continues (hrun : s.Run calls s') (hholds : s.Holds r) :
    ∃ r', s'.Holds r' ∧ r.Continues r' :=
  hrun.records_induction (P := fun _ r' => r.Continues r') hholds (.refl r)
    (fun _ _ _ _ h => h) fun _ _ _ _ _ _ _ h heffect => h.trans heffect.continues

/-- In a reachable session codes and labels tell records apart: codes of sectors everywhere, all
others within a tenant. Among any three points of a run that follow each other, a record that is
stored under a number at the first and at the last one is stored at the one in between, and all
three agree but for the label. So the points at which a number stands for a record are not
interrupted, and a number whose record is deleted stands for none later. -/
theorem Reachable.identity_kept (h : s.Reachable) :
    s.connection.database = s.records.database ∧
    (s.records.sectors.map fun x => x.code).Nodup ∧
    (s.records.sectors.map fun x => (x.tenant, x.label)).Nodup ∧
    (s.records.organizations.map fun o => (o.tenant, o.code)).Nodup ∧
    (s.records.organizations.map fun o => (o.tenant, o.label)).Nodup ∧
    ∀ calls s', s.Run calls s' → ∀ later s'', s'.Run later s'' →
      (∀ x ∈ s.records.sectors, ∀ z ∈ s''.records.sectors, z.id = x.id →
        z.unlabelled = x.unlabelled ∧ ∃ y ∈ s'.records.sectors, y.unlabelled = x.unlabelled) ∧
      ∀ x ∈ s.records.organizations, ∀ z ∈ s''.records.organizations, z.id = x.id →
        z.unlabelled = x.unlabelled ∧
          ∃ y ∈ s'.records.organizations, y.unlabelled = x.unlabelled := by
  have hholds := h.holds
  have hsound := hholds.sound
  have hsectors := (nodup_numbers hsound.sectors_increasing).of_map
  have horganizations := (nodup_numbers hsound.organizations_increasing).of_map
  refine ⟨hholds.database, hsectors.map_on hsound.sector_codes,
    hsectors.map_on hsound.sector_labels, horganizations.map_on hsound.organization_codes,
    horganizations.map_on hsound.organization_labels, ?_⟩
  intro calls s' hrun later s'' hlater
  obtain ⟨r', hholds', hbetween⟩ := hrun.continues hholds
  obtain ⟨r'', hholds'', hafter⟩ := hlater.continues hholds'
  rw [hholds'.records, hholds''.records]
  constructor
  · intro x hx z hz hid
    exact hbetween.sectors.between (fun _ _ => Sector.id_eq_of_unlabelled)
      (distinctBy_number hsound.sectors_increasing) hbetween.lastSector_le hafter.sectors hx
      (hsound.sectors_le x hx).2 hz hid
  · intro x hx z hz hid
    exact hbetween.organizations.between (fun _ _ => Organization.id_eq_of_unlabelled)
      (distinctBy_number hsound.organizations_increasing) hbetween.lastOrganization_le
      hafter.organizations hx (hsound.organizations_le x hx).2 hz hid

open Records in
/-- The number of a sector that is deleted stands for no sector in whatever the session becomes. -/
theorem identity_kept_chain : (chain.session "").Reachable ∧
    (chain.sectors.map fun x => x.code).Nodup ∧ north ∈ chain.sectors ∧
    ∀ later s'', ((chain.session "").call (.deleteSector 1 north.id)).2.Run later s'' →
      ∀ z ∈ s''.records.sectors, z.id ≠ north.id := by
  have hreachable := reached_chain.reachable ""
  have hnorth : north ∈ chain.sectors := by decide
  obtain ⟨-, hcodes, -, -, -, hpoints⟩ := hreachable.identity_kept
  obtain ⟨-, hdeleted⟩ := reached_chain.sound.call_session plan_orphaned
  rw [reached_chain.sound.records_session] at hcodes hpoints
  refine ⟨hreachable, hcodes, hnorth, fun later s'' hlater z hz hid => ?_⟩
  obtain ⟨hsectors, -⟩ := hpoints _ _ (.call .start (.deleteSector 1 north.id)) later s'' hlater
  obtain ⟨-, y, hy, hsame⟩ := hsectors north hnorth z hz hid
  -- the sector would be stored right after it has been deleted
  have hnone : ∀ y ∈ orphaned.sectors, y.id ≠ north.id := by decide
  rw [show north.id = (2 : SectorId) from rfl, hdeleted.records] at hy
  exact hnone y hy (Sector.id_eq_of_unlabelled hsame)

end Session

end SectorForest
