import Mathlib.Data.List.Find
import SectorForest.Proofs.Refusals
import SectorForest.Proofs.RoundTrip

/-!
# The root that is found and the root of the tree

There are two ways to the root of an organization. The store looks for the first sector that says it
has no parent; the tree is built below the first sector of depth zero. Where the stores are asked
for anything, an organization may have many sectors without a parent, or some of another tenant, or
none. What the tables check of each sector brings both ways to the same one:
`Session.StoreReachable.roots_agree`.
-/

namespace SectorForest

open SectorTree

namespace Records

variable {r : Records} {tenant : TenantId} {org : OrganizationId} {root s : Sector} {t : SectorTree}

/-! ## The first sector without a parent -/

/-- A sector is the first one of an organization that has no parent. -/
structure IsFirstRoot (r : Records) (tenant : TenantId) (org : OrganizationId) (root : Sector) :
    Prop where
  mem : root ∈ r.sectors
  tenant_eq : root.tenant = tenant
  org_eq : root.org = org
  parent_eq : root.parent = none
  least : ∀ x ∈ r.sectors, x.tenant = tenant → x.org = org → x.parent = none → root.id ≤ x.id

/-- A sector that says it has no parent has none. -/
theorem Sound.hasParent_eq_false (hr : r.Sound) (hs : s ∈ r.sectors) :
    s.hasParent = false ↔ s.parent = none := by
  rw [hr.readable s hs, Option.isSome_eq_false_iff, Option.isNone_iff_eq_none]

theorem Sound.isFirstRoot (hr : r.Sound) (h : r.root? tenant org = some root) :
    r.IsFirstRoot tenant org root := by
  obtain ⟨hmem, htenant, horg, hhas⟩ := root?_eq_some h
  refine ⟨hmem, htenant, horg, (hr.hasParent_eq_false hmem).mp hhas, ?_⟩
  intro x hx hxtenant hxorg hxparent
  obtain ⟨-, before, after, heq, hbefore⟩ := List.find?_eq_some_iff_append.mp h
  have hincreasing := hr.sectors_increasing
  have hxhas := (hr.hasParent_eq_false hx).mpr hxparent
  rw [heq] at hx hincreasing
  -- all in front of the root are passed over, and all behind it have greater numbers
  rcases List.mem_append.mp hx with hx | hx
  · have hpassed := hbefore x hx
    simp [hxtenant, hxorg, hxhas] at hpassed
  · rcases List.mem_cons.mp hx with rfl | hx
    · exact Int64.le_refl _
    · have hbehind := (List.pairwise_append.mp hincreasing).2.1
      exact Int64.le_of_lt (List.rel_of_pairwise_cons hbehind hx)

theorem Sound.root?_isSome (hr : r.Sound) : (∃ root, r.root? tenant org = some root) ↔
    ∃ x ∈ r.sectors, x.tenant = tenant ∧ x.org = org ∧ x.parent = none := by
  constructor
  · rintro ⟨root, hroot⟩
    have hfirst := hr.isFirstRoot hroot
    exact ⟨root, hfirst.mem, hfirst.tenant_eq, hfirst.org_eq, hfirst.parent_eq⟩
  · rintro ⟨x, hx, htenant, horg, hparent⟩
    cases hroot : r.root? tenant org with
    | some root => exact ⟨root, rfl⟩
    | none =>
      have hhas := root?_eq_none.mp hroot x hx htenant horg
      rw [(hr.hasParent_eq_false hx).mpr hparent] at hhas
      cases hhas

/-! ## The root of the tree -/

/-- The first sector of depth zero is the first one without a parent. -/
theorem Sound.rootOf?_eq (hr : r.Sound) :
    rootOf? (r.sectorsOf tenant org) = r.root? tenant org := by
  rw [rootOf?, sectorsOf, List.find?_filter, root?]
  refine List.find?_congr fun s hs => ?_
  have hdepth : (s.depth == 0) = !s.hasParent := by
    rw [Bool.eq_iff_iff, beq_iff_eq, Bool.not_eq_true']
    exact (hr.shaped s hs).depth_eq_zero_iff
  simp only [hdepth, Bool.decide_and, Bool.decide_eq_true]

end Records

namespace SectorTree

variable {sectors : List Sector} {t n : SectorTree}

/-- What stands below the root is the child of a node. -/
theorem exists_parent_of_mem_below (hn : n ∈ preorderAll t.children) :
    ∃ m ∈ t.preorder, n ∈ m.children := by
  rw [preorderAll_eq] at hn
  obtain ⟨c, hc, hn⟩ := List.mem_flatMap.mp hn
  rcases exists_above hn with rfl | ⟨m, hm, hchild⟩
  · exact ⟨t, t.self_mem_preorder, hc⟩
  · exact ⟨m, mem_preorder_of_child hc hm, hchild⟩

/-- Sectors that name a parent do not lie at depth zero, and others do not get below the root. -/
theorem Linked.depth_ne_zero (h : Linked sectors t)
    (hshaped : ∀ s ∈ sectors, Shaped s.parent s.hasParent s.depth) :
    ∀ n ∈ preorderAll t.children, n.depth ≠ 0 := by
  intro n hn
  obtain ⟨m, hm, hchild⟩ := exists_parent_of_mem_below hn
  obtain ⟨s, hs, hparent, hcopies⟩ := h.exists_child hm hchild
  rw [hcopies.depth_eq, ne_eq, (hshaped s hs).depth_eq_zero_iff, (hshaped s hs).hasParent_eq,
    hparent]
  exact Bool.noConfusion

end SectorTree

/-! ## Both ways -/

/-- What looking for the root of an organization ends in, and what building its tree ends in. -/
structure RootsAgree (r : Records) (o : Organization) (found : Except Failure Sector)
    (built : Except Failure SectorTree) : Prop where
  /-- There is a tree exactly if a root is found. -/
  ok_iff : (∃ t, built = .ok t) ↔ ∃ root, found = .ok root
  /-- The tree begins with the sector that is found. -/
  copies : ∀ root t, found = .ok root → built = .ok t → Copies root t
  /-- No other root is nested in the tree. -/
  below : ∀ t, built = .ok t → ∀ n ∈ preorderAll t.children, n.depth ≠ 0
  /-- Otherwise both tell that there is no root. -/
  otherwise : (∀ root, found ≠ .ok root) →
    found = .error (.refused (.notFound .rootSector (toString o.id.toInt))) ∧
      built = .error (.refused .rootNotFound)
  /-- A root is found exactly if the organization has, for its tenant, a sector without a parent. -/
  found_iff : (∃ root, found = .ok root) ↔
    ∃ x ∈ r.sectors, x.tenant = o.tenant ∧ x.org = o.id ∧ x.parent = none
  /-- What is found is the first of them. -/
  first : ∀ root, found = .ok root → r.IsFirstRoot o.tenant o.id root

namespace Records

variable {r : Records} {o : Organization}

theorem Sound.reply_sectorTree (hr : r.Sound) (ho : o ∈ r.organizations) :
    r.reply (.sectorTree o.tenant o.code) =
      match build? (r.sectorsOf o.tenant o.id) with
      | some t => .ok t
      | none => .error (.refused .rootNotFound) := by
  rw [reply, hr.organization?_of_mem ho]
  rfl

theorem Sound.rootsAgree (hr : r.Sound) (ho : o ∈ r.organizations) :
    RootsAgree r o (r.reply (.findRoot o.tenant o.id)) (r.reply (.sectorTree o.tenant o.code)) := by
  rw [hr.reply_sectorTree ho, reply]
  cases hroot : r.root? o.tenant o.id with
  | some root =>
    obtain ⟨t, hbuild, hbuilt⟩ := exists_built (hr.rootOf?_eq.trans hroot)
    have hshaped : ∀ s ∈ r.sectorsOf o.tenant o.id, Shaped s.parent s.hasParent s.depth :=
      fun s hs => hr.shaped s (mem_sectorsOf.mp hs).1
    rw [hbuild]
    constructor
    case ok_iff => exact iff_of_true ⟨t, rfl⟩ ⟨root, rfl⟩
    case copies =>
      rintro _ _ ⟨⟩ ⟨⟩
      exact hbuilt.copies
    case below =>
      rintro _ ⟨⟩
      exact hbuilt.linked.depth_ne_zero hshaped
    case otherwise => exact fun hnone => absurd rfl (hnone root)
    case found_iff => exact iff_of_true ⟨root, rfl⟩ (hr.root?_isSome.mp ⟨root, hroot⟩)
    case first =>
      rintro _ ⟨⟩
      exact hr.isFirstRoot hroot
  | none =>
    have hbuild : build? (r.sectorsOf o.tenant o.id) = none := by
      rw [build?, hr.rootOf?_eq, hroot, Option.map_none]
    have hnone : ¬ ∃ x ∈ r.sectors, x.tenant = o.tenant ∧ x.org = o.id ∧ x.parent = none := by
      rw [← hr.root?_isSome, hroot]
      rintro ⟨_, ⟨⟩⟩
    rw [hbuild]
    constructor
    case ok_iff => exact iff_of_false (by rintro ⟨_, ⟨⟩⟩) (by rintro ⟨_, ⟨⟩⟩)
    case copies => rintro _ _ ⟨⟩
    case below => rintro _ ⟨⟩
    case otherwise => exact fun _ => ⟨rfl, rfl⟩
    case found_iff => exact iff_of_false (by rintro ⟨_, ⟨⟩⟩) hnone
    case first => rintro _ ⟨⟩

end Records

namespace Session

variable {s : Session} {o : Organization}

/-- Whatever the stores were asked for before, the root of an organization is found exactly if its
tree is built, and then it is the root of the tree, with no other root below it. Neither way changes
anything. -/
theorem StoreReachable.roots_agree (h : s.StoreReachable) (ho : o ∈ s.records.organizations) :
    (s.inquire (.findRoot o.tenant o.id)).2 = s ∧
      (s.inquire (.sectorTree o.tenant o.code)).2 = s ∧
      RootsAgree s.records o (s.inquire (.findRoot o.tenant o.id)).1
        (s.inquire (.sectorTree o.tenant o.code)).1 := by
  obtain ⟨hr, hdatabase⟩ := h.grounded.database.records
  rw [inquire_eq hdatabase hr, inquire_eq hdatabase hr]
  exact ⟨rfl, rfl, hr.rootsAgree ho⟩

section Rivals

open Records

/-- A second root of `acme`, for the same tenant. -/
def rivalRoot : NewSector where
  tenant := 1
  org := 1
  code := "r"
  label := "Rival"
  parent := none
  hasParent := false
  depth := 0
  status := .draft

/-- A sector below the root that `acme` was created with. -/
def branch : NewSector where
  tenant := 1
  org := 1
  code := "n"
  label := "North"
  parent := some 1
  hasParent := true
  depth := 1
  status := .active

/-- Records with three roots of `acme`, one of them of another tenant. -/
def rivals : Records :=
  (crooked.addSector rivalRoot).addSector branch

theorem rivals_storeReachable : rivals.Sound ∧ (rivals.session "").StoreReachable := by
  have hroot : crooked.insertSector rivalRoot = .ok (4, crooked.addSector rivalRoot) := rfl
  have hbranch : (crooked.addSector rivalRoot).insertSector branch = .ok (5, rivals) := rfl
  obtain ⟨hsound, hreachable⟩ := crooked_storeReachable
  have hreachable : (crooked.session "").StoreReachable := hreachable.meanwhile rfl rfl
  have hsound' := hsound.insertSector hroot
  exact ⟨hsound'.insertSector hbranch,
    .insertSector hsound' (.insertSector hsound hreachable hroot) hbranch⟩

/-- Of three roots, the one with the least number is found and begins the tree, and no other one is
a node of it. -/
theorem roots_agree_rivals :
    let s := rivals.session ""
    s.StoreReachable ∧ acme ∈ s.records.organizations ∧
    (s.inquire (.findRoot 1 1)).1 = .ok acmeRoot ∧
    ∃ t, (s.inquire (.sectorTree 1 "acme")).1 = .ok t ∧ Copies acmeRoot t ∧
      (∀ n ∈ preorderAll t.children, n.depth ≠ 0) ∧ t.ids = [1, 5] := by
  intro s
  obtain ⟨hsound, hreachable⟩ := rivals_storeReachable
  have hrecords : s.records = rivals := hsound.records_session
  have horganization : acme ∈ s.records.organizations := by
    rw [hrecords]
    decide
  obtain ⟨-, -, hagree⟩ := hreachable.roots_agree horganization
  have hfound : (s.inquire (.findRoot 1 1)).1 = .ok acmeRoot := by
    rw [inquire_eq rfl hsound]
    rfl
  obtain ⟨t, hbuilt⟩ := hagree.ok_iff.mpr ⟨acmeRoot, hfound⟩
  have hids : (rivals.reply (.sectorTree 1 "acme")).map ids = .ok [1, 5] := rfl
  refine ⟨hreachable, horganization, hfound, t, hbuilt, hagree.copies _ _ hfound hbuilt,
    hagree.below t hbuilt, ?_⟩
  have htree : rivals.reply (.sectorTree 1 "acme") = .ok t := by
    rw [← hbuilt]
    exact congrArg Prod.fst (inquire_eq (s := s) rfl hsound (.sectorTree 1 "acme")).symm
  rw [htree] at hids
  exact Except.ok.inj hids

end Rivals

end Session

end SectorForest
