import SectorForest.Proofs.Lineage
import SectorForest.Proofs.Script

/-!
# Scripts beside others

What a script of a call does for its part, whatever others do to the records between its steps: it
changes them once at most, never gives an organization a second root, and ends in no conflict once
it has changed something. That is `Script.Careful`, and `Script.careful_script` says that the script
of every call is careful.

The parent of a new sector may be gone when the sector is inserted, and the sector may be somewhere
else than it should be; but it has a parent, and so it is no root.
-/

namespace SectorForest

open Storage

variable {α β : Type}

/-! ## Roots -/

namespace Records

/-- The organizations that the sectors without a parent belong to. -/
def rootOwners (r : Records) : List OrganizationId :=
  (r.sectors.filter fun s => !s.hasParent).map (·.org)

/-- Every organization has one root at most. -/
def Rooted (r : Records) : Prop :=
  r.rootOwners.Nodup

variable {r : Records}

theorem Lineage.rooted (hl : r.Lineage) (hr : r.Sound) : r.Rooted := by
  have hnodup : r.sectors.Nodup := (nodup_numbers hr.sectors_increasing).of_map _
  refine List.Nodup.map_on (fun a ha b hb heq => ?_) (hnodup.filter _)
  rw [List.mem_filter, Bool.not_eq_true'] at ha hb
  exact hl.root_unique a ha.1 b hb.1 ha.2 hb.2 heq

theorem Rooted.addSector (h : r.Rooted) {new : NewSector} (hparent : new.hasParent = true) :
    (r.addSector new).Rooted := by
  have hsame : (r.addSector new).rootOwners = r.rootOwners := by
    simp [rootOwners, Records.addSector, NewSector.stored, hparent]
  rw [Rooted, hsame]
  exact h

theorem Rooted.found (h : r.Rooted) (hr : r.Sound) {o : NewOrganization} (hfounds : r.Founds o) :
    (r.found o).Rooted := by
  have hadded : (r.found o).rootOwners = r.rootOwners ++ [r.lastOrganization + 1] := by
    simp [rootOwners, Records.found, Records.addSector, Records.addOrganization, NewSector.stored,
      NewSector.root]
  rw [Rooted, hadded]
  refine List.nodup_append.mpr ⟨h, List.nodup_singleton _, ?_⟩
  -- the number of the new organization is that of no sector's owner
  rintro org horg _ hlast rfl
  obtain ⟨s, hs, rfl⟩ := List.mem_map.mp horg
  exact hr.org_ne_next hfounds.organization_room s (List.mem_of_mem_filter hs)
    (List.mem_singleton.mp hlast)

theorem Rooted.relabelSector (h : r.Rooted) (tenant : TenantId) (id : SectorId) (label : String) :
    (r.relabelSector tenant id label).Rooted := by
  have hsame : (r.relabelSector tenant id label).rootOwners = r.rootOwners := by
    simp only [rootOwners, Records.relabelSector, List.filter_map, List.map_map]
    refine congr (congrArg _ (funext fun s => ?_)) (congrArg (List.filter · _) (funext fun s => ?_))
    · dsimp only [Function.comp_apply]
      split <;> rfl
    · dsimp only [Function.comp_apply]
      split <;> rfl
  rw [Rooted, hsame]
  exact h

theorem Rooted.renameSector (h : r.Rooted) {tenant : TenantId} {id : SectorId} {label : String}
    {count : Nat} {r' : Records} (hrename : r.renameSector tenant id label = .ok (count, r')) :
    r'.Rooted := by
  cases hs : r.sector? tenant id with
  | none =>
    rw [Records.renameSector, hs] at hrename
    cases hrename
    exact h
  | some s =>
    obtain ⟨-, -, rfl⟩ := renameSector_eq_ok hs hrename
    exact h.relabelSector tenant id label

theorem Rooted.renameOrganization (h : r.Rooted) {tenant : TenantId} {code label : String}
    {count : Nat} {r' : Records}
    (hrename : r.renameOrganization tenant code label = .ok (count, r')) : r'.Rooted := by
  cases ho : r.organization? tenant code with
  | none =>
    rw [Records.renameOrganization, ho] at hrename
    cases hrename
    exact h
  | some o =>
    obtain ⟨-, -, rfl⟩ := renameOrganization_eq_ok ho hrename
    exact h

theorem Rooted.removeSectors (h : r.Rooted) (gone : Sector → Bool) :
    (r.removeSectors gone).Rooted :=
  h.sublist ((List.filter_sublist.filter _).map _)

end Records

/-! ## Scripts -/

namespace Script

open Records

variable {r : Records} {script : Script α} {entity : Entity} {field : TextField} {value : String}

/-- What is left of a script only looks at records, and ends in no conflict. -/
inductive Peaceful : Script α → Prop
  | ends (result : Except Failure α)
    (h : ∀ entity field value, result ≠ .error (.refused (.conflict entity field value))) :
    Peaceful (.ends result)
  | takes {step : Records → Records} {next : Records → Script α} (hlook : ∀ r, step r = r)
    (h : ∀ r, Peaceful (next r)) : Peaceful (.takes step next)

/-- A script leaves records alone until it changes them; that leaves every organization with one
root at most, and what is left to do then is peaceful. -/
inductive Careful : Script α → Prop
  | ends (result : Except Failure α) : Careful (.ends result)
  | takes {step : Records → Records} {next : Records → Script α}
    (hlook : ∀ r : Records, r.Sound → r.Rooted → step r = r → Careful (next r))
    (hchange : ∀ r : Records, r.Sound → r.Rooted → step r ≠ r →
      (step r).Rooted ∧ Peaceful (next r)) : Careful (.takes step next)

theorem Peaceful.run_ne (h : Peaceful script) (r : Records) :
    (script.run r).1 ≠ .error (.refused (.conflict entity field value)) := by
  induction h generalizing r with
  | ends result h => exact h entity field value
  | @takes step next _ _ ih => exact ih r (step r)

theorem Peaceful.careful (h : Peaceful script) : Careful script := by
  induction h with
  | ends result _ => exact .ends result
  | takes hlook _ ih => exact .takes (fun r _ _ _ => ih r) fun r _ _ hne => absurd (hlook r) hne

/-- A careful script that ends in a conflict has changed nothing. -/
theorem Careful.run_conflict (h : Careful script) (hr : r.Sound) (hrooted : r.Rooted)
    (hconflict : (script.run r).1 = .error (.refused (.conflict entity field value))) :
    (script.run r).2 = r := by
  induction h with
  | ends result => rfl
  | @takes step next _ hchange ih =>
    rw [Process.run] at hconflict ⊢
    by_cases hsame : step r = r
    · rw [hsame] at hconflict ⊢
      exact ih r hr hrooted hsame hconflict
    · exact absurd hconflict ((hchange r hr hrooted hsame).2.run_ne _)

theorem peaceful_done (a : α) : Peaceful (done a) :=
  .ends _ fun _ _ _ => nofun

theorem peaceful_unlessMissing (count : Nat) (entity : Entity) (key : String) :
    Peaceful (settle (unlessMissing count (.notFound entity key)) done) := by
  rw [settle_done, unlessMissing]
  split <;> exact .ends _ fun _ _ _ => nofun

theorem peaceful_readBack (tenant : TenantId) (id : SectorId) :
    Peaceful (readBack tenant id) := by
  refine .takes (fun _ => rfl) fun r => ?_
  rw [settle_done]
  refine .ends _ fun _ _ _ => ?_
  beta_reduce
  cases r.sector? tenant id <;> exact nofun

theorem careful_settle {result : Except Failure β} {next : β → Script α}
    (h : ∀ b, result = .ok b → Careful (next b)) : Careful (settle result next) := by
  cases result with
  | error failure => exact .ends _
  | ok b => exact h b rfl

theorem careful_inspect {view : Records → Except Failure β} {next : β → Script α}
    (h : ∀ b, Careful (next b)) : Careful (inspect view next) :=
  .takes (fun _ _ _ _ => careful_settle fun b _ => h b) fun _ _ _ hne => absurd rfl hne

theorem careful_alter {change : Records → Except Failure (β × Records)} {next : β → Script α}
    (hrooted : ∀ r b r', r.Sound → r.Rooted → change r = .ok (b, r') → r'.Rooted)
    (hnext : ∀ b, Peaceful (next b)) : Careful (alter change next) := by
  refine .takes (fun r _ _ _ => careful_settle fun b _ => (hnext b).careful) ?_
  intro r hr hroots hne
  cases hchange : change r with
  | error failure =>
    rw [hchange] at hne
    exact absurd rfl hne
  | ok changed =>
    exact ⟨hrooted r changed.1 changed.2 hr hroots hchange, hnext changed.1⟩

theorem careful_addSector {tenant : TenantId} {newCode : String} {org : OrganizationId}
    {label : String} {parentCode : Option String} {status : Status} {next : SectorId → Script α}
    (hnext : ∀ id, Peaceful (next id)) :
    Careful (addSector tenant newCode org label parentCode status next) := by
  refine careful_settle fun text _ => careful_inspect fun _ => careful_inspect fun parent => ?_
  refine careful_settle fun child hchild =>
    careful_alter (fun r id r' _ hrooted hinsert => ?_) hnext
  obtain ⟨-, -, -, -, rfl⟩ := insertSector_eq_ok (carryOut_eq_ok hinsert)
  obtain ⟨-, rfl⟩ := NewSector.childOf?_eq_some (childBelow_eq_ok hchild)
  exact hrooted.addSector rfl

/-- Every call has a careful script. -/
theorem careful_script (mutation : Mutation) (newCode : String) :
    Careful (mutation.script newCode) := by
  cases mutation with
  | createOrganization tenant draft =>
    rw [Mutation.script, createOrganization]
    refine careful_settle fun _ _ => careful_settle fun _ _ =>
      careful_alter (fun r id r' hr hrooted hplan => ?_) peaceful_done
    have heffect : r.Effect "" (.createOrganization tenant draft) id r' := effect_of_plan hr hplan
    cases heffect with
    | createOrganization _ _ hfounds => exact hrooted.found hr hfounds
  | createSector tenant org label parentCode =>
    exact careful_addSector peaceful_done
  | createSectorIn tenant code draft =>
    exact careful_inspect fun _ => careful_addSector (peaceful_readBack tenant)
  | renameSector tenant id label =>
    refine careful_settle fun text _ => careful_inspect fun s => careful_inspect fun _ =>
      careful_alter (fun r count r' _ hrooted hrename => ?_) fun count =>
        peaceful_unlessMissing count _ _
    exact hrooted.renameSector (carryOut_eq_ok hrename)
  | deleteSector tenant id =>
    refine careful_inspect fun _ => careful_alter (fun r count r' _ hrooted hdelete => ?_)
      peaceful_done
    cases carryOut_eq_ok hdelete
    exact hrooted.removeSectors _
  | renameOrganization tenant code label =>
    refine careful_settle fun text _ => careful_inspect fun o => ?_
    rw [relabelOrganization]
    split
    · exact .ends _
    · refine careful_inspect fun _ => careful_alter (fun r count r' _ hrooted hrename => ?_)
        fun count => peaceful_unlessMissing count _ _
      exact hrooted.renameOrganization (carryOut_eq_ok hrename)
  | deleteOrganization tenant code =>
    refine careful_inspect fun o => careful_alter (fun r _ r' _ hrooted hplan => ?_) peaceful_done
    obtain ⟨⟨count, emptied⟩, hemptied, hplan⟩ := Except.bind_eq_ok hplan
    obtain ⟨⟨count', removed⟩, hremoved, hplan⟩ := Except.bind_eq_ok hplan
    cases hplan
    cases carryOut_eq_ok hemptied
    obtain ⟨-, rfl⟩ := deleteOrganization_eq_ok (carryOut_eq_ok hremoved)
    exact hrooted.removeSectors _

end Script

end SectorForest
