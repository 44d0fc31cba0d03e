import SectorForest.Proofs.Decision

/-!
# What renaming comes to

Every outcome of giving a sector or an organization another label where the database can be written:
the reasons for which the caller may be refused, in the order in which they are told, and the one
record that changes where there is none.

The service looks for the owner of a label in two ways. For a sector it compares the code of the
owner with that of the sector, for an organization it compares the labels. Both come to what the
tables ask, whether another record has the label, because codes tell sectors apart and labels are
stored in their normal form.
-/

namespace SectorForest

open Storage

/-! ## Reasons -/

namespace Records

variable {r : Records} {tenant : TenantId} {id : SectorId} {code label : String}

/-- What may be against another label for a sector. -/
def sectorRenamingReasons (r : Records) (tenant : TenantId) (id : SectorId) (label : String) :
    List Reason :=
  Reason.ofText .label label ++
    [⟨¬ ∃ x ∈ r.sectors, x.tenant = tenant ∧ x.id = id, .notFound .sector (toString id.toInt)⟩,
      ⟨∃ x ∈ r.sectors, x.tenant = tenant ∧ x.label = label ∧ x.id ≠ id,
        .conflict .sector .label label⟩]

/-- What may be against another label for an organization. -/
def organizationRenamingReasons (r : Records) (tenant : TenantId) (code label : String) :
    List Reason :=
  Reason.ofText .label label ++
    [⟨¬ ∃ o ∈ r.organizations, o.tenant = tenant ∧ o.code = code,
        .notFound .organization code⟩,
      ⟨∃ o ∈ r.organizations, o.tenant = tenant ∧ o.label = label ∧ o.code ≠ code,
        .conflict .organization .label label⟩]

/-- Only labels are told to be in conflict. -/
theorem sectorRenamingReasons_label {reason : Reason} {entity : Entity} {value : String}
    (h : reason ∈ r.sectorRenamingReasons tenant id label) :
    reason.error ≠ .conflict entity .code value := by
  simp only [sectorRenamingReasons, Reason.ofText, List.cons_append, List.nil_append,
    List.mem_cons, List.not_mem_nil, or_false] at h
  rcases h with rfl | rfl | rfl | rfl <;> simp

theorem organizationRenamingReasons_label {reason : Reason} {entity : Entity} {value : String}
    (h : reason ∈ r.organizationRenamingReasons tenant code label) :
    reason.error ≠ .conflict entity .code value := by
  simp only [organizationRenamingReasons, Reason.ofText, List.cons_append, List.nil_append,
    List.mem_cons, List.not_mem_nil, or_false] at h
  rcases h with rfl | rfl | rfl | rfl <;> simp

/-! ## Sectors -/

theorem sector?_eq_none :
    r.sector? tenant id = none ↔ ¬ ∃ x ∈ r.sectors, x.tenant = tenant ∧ x.id = id := by
  simp [sector?]

/-- The sector of a tenant with a number is the only one. -/
theorem Sound.sector_unique (hr : r.Sound) {s : Sector} (hs : r.sector? tenant id = some s) :
    ∃! x, x ∈ r.sectors ∧ x.tenant = tenant ∧ x.id = id := by
  obtain ⟨hmem, htenant, hid⟩ := sector?_eq_some hs
  refine ⟨s, ⟨hmem, htenant, hid⟩, ?_⟩
  rintro x ⟨hx, -, hid'⟩
  exact distinctBy_number hr.sectors_increasing x hx s hmem (hid'.trans hid.symm)

/-- The owner of a label has another code exactly if it has another number. -/
theorem Sound.labelledOther_iff_id (hr : r.Sound) {s : Sector}
    (hs : r.sector? tenant id = some s) :
    r.labelledOther tenant s.code label = true ↔
      ∃ x ∈ r.sectors, x.tenant = tenant ∧ x.label = label ∧ x.id ≠ id := by
  obtain ⟨hmem, -, rfl⟩ := sector?_eq_some hs
  have hdiffers : ∀ x ∈ r.sectors, x.code ≠ s.code ↔ x.id ≠ s.id := by
    refine fun x hx => not_congr ⟨fun hcode => ?_, fun hid => ?_⟩
    · rw [hr.sector_codes x hx s hmem hcode]
    · rw [distinctBy_number hr.sectors_increasing x hx s hmem hid]
  rw [hr.labelledOther_iff]
  constructor
  · rintro ⟨x, hx, htenant, hlabel, hcode⟩
    exact ⟨x, hx, htenant, hlabel, (hdiffers x hx).mp hcode⟩
  · rintro ⟨x, hx, htenant, hlabel, hid⟩
    exact ⟨x, hx, htenant, hlabel, (hdiffers x hx).mpr hid⟩

/-- A sector gets a label that no other one has. -/
theorem renameSector_free {s : Sector} (hs : r.sector? tenant id = some s)
    (hfree : ¬ ∃ x ∈ r.sectors, x.tenant = tenant ∧ x.label = label ∧ x.id ≠ id) :
    r.renameSector tenant id label = .ok (1, r.relabelSector tenant id label) := by
  rw [renameSector, hs]
  refine if_neg fun hclash => hfree ?_
  obtain ⟨x, hx, hclash⟩ := List.any_eq_true.mp hclash
  simp only [Bool.and_eq_true, Bool.not_eq_true', beq_iff_eq] at hclash
  obtain ⟨hother, rfl, rfl⟩ := hclash
  exact ⟨x, hx, rfl, rfl, by simpa using hother⟩

/-- Giving a sector the label that it has changes nothing. -/
theorem Sound.relabelSector_self (hr : r.Sound) {s : Sector} (hs : s ∈ r.sectors) :
    r.relabelSector s.tenant s.id s.label = r := by
  have hkeep : (r.sectors.map fun x =>
      if x.tenant = s.tenant ∧ x.id = s.id then { x with label := s.label } else x) =
        r.sectors := by
    refine (List.map_congr_left fun x hx => ?_).trans (List.map_id _)
    split
    · rename_i hsame
      rw [distinctBy_number hr.sectors_increasing x hx s hs hsame.2]
      rfl
    · rfl
  rw [Records.relabelSector, hkeep]

theorem decides_planRenameSector (hr : r.Sound) (tenant : TenantId) (id : SectorId)
    (label : String) :
    Decides (r.sectorRenamingReasons tenant id (Text.trim label))
      (r.planRenameSector tenant id label) fun _ r' =>
        r.sector? tenant id ≠ none ∧ r' = r.relabelSector tenant id (Text.trim label) := by
  refine .chosenText <| .step (fun hnone => ?missing) fun hsome => ?stored
  case missing => rw [sector?_eq_none.mpr hnone, need]
  case stored =>
    obtain ⟨s, hs⟩ := Option.ne_none_iff_exists'.mp fun hnone => hsome (sector?_eq_none.mp hnone)
    refine ⟨s, by rw [hs, need], .unlessTaken (hr.labelledOther_iff_id hs) fun hfree => ?_⟩
    rw [renameSector_free hs hfree]
    exact .done ⟨by simp [hs], rfl⟩

/-! ## Organizations -/

theorem organization?_eq_none :
    r.organization? tenant code = none ↔
      ¬ ∃ o ∈ r.organizations, o.tenant = tenant ∧ o.code = code := by
  simp [organization?]

/-- The organization of a tenant with a code is the only one. -/
theorem Sound.organization_unique (hr : r.Sound) {o : Organization}
    (ho : r.organization? tenant code = some o) :
    ∃! x, x ∈ r.organizations ∧ x.tenant = tenant ∧ x.code = code := by
  obtain ⟨hmem, htenant, hcode⟩ := organization?_eq_some ho
  refine ⟨o, ⟨hmem, htenant, hcode⟩, ?_⟩
  rintro x ⟨hx, htenant', hcode'⟩
  exact hr.organization_codes x hx o hmem (by simp [htenant, htenant', hcode, hcode'])

/-- A label that an organization does not have itself is taken if another one has it. -/
theorem hasOrganizationLabel_iff_code {o : Organization} (hr : r.Sound)
    (ho : r.organization? tenant code = some o) (hlabel : o.label ≠ label) :
    r.hasOrganizationLabel tenant label = true ↔
      ∃ x ∈ r.organizations, x.tenant = tenant ∧ x.label = label ∧ x.code ≠ code := by
  obtain ⟨hmem, htenant, hcode⟩ := organization?_eq_some ho
  simp only [hasOrganizationLabel, List.any_eq_true, Bool.and_eq_true, beq_iff_eq]
  constructor
  · rintro ⟨x, hx, htenant', hlabel'⟩
    refine ⟨x, hx, htenant', hlabel', fun hcode' => hlabel ?_⟩
    rw [← hlabel', hr.organization_codes x hx o hmem (by simp [htenant, htenant', hcode, hcode'])]
  · rintro ⟨x, hx, htenant', hlabel', -⟩
    exact ⟨x, hx, htenant', hlabel'⟩

/-- An organization gets a label that no other one has. -/
theorem renameOrganization_free {o : Organization} (ho : r.organization? tenant code = some o)
    (hfree : ¬ ∃ x ∈ r.organizations, x.tenant = tenant ∧ x.label = label ∧ x.code ≠ code) :
    r.renameOrganization tenant code label = .ok (1, r.relabelOrganization tenant code label) := by
  rw [renameOrganization, ho]
  refine if_neg fun hclash => hfree ?_
  obtain ⟨x, hx, hclash⟩ := List.any_eq_true.mp hclash
  simp only [Bool.and_eq_true, Bool.not_eq_true', beq_iff_eq] at hclash
  obtain ⟨hother, rfl, rfl⟩ := hclash
  exact ⟨x, hx, rfl, rfl, by simpa using hother⟩

/-- Giving an organization the label that it has changes nothing. -/
theorem Sound.relabelOrganization_self (hr : r.Sound) {o : Organization}
    (ho : o ∈ r.organizations) : r.relabelOrganization o.tenant o.code o.label = r := by
  have hkeep : (r.organizations.map fun x =>
      if x.tenant = o.tenant ∧ x.code = o.code then { x with label := o.label } else x) =
        r.organizations := by
    refine (List.map_congr_left fun x hx => ?_).trans (List.map_id _)
    split
    · rename_i hsame
      rw [hr.organization_codes x hx o ho (by simp [hsame])]
      rfl
    · rfl
  rw [Records.relabelOrganization, hkeep]

theorem decides_planRenameOrganization (hr : r.Sound) (tenant : TenantId) (code label : String) :
    Decides (r.organizationRenamingReasons tenant code (Text.trim label))
      (r.planRenameOrganization tenant code label) fun _ r' =>
        r.organization? tenant code ≠ none ∧
          r' = r.relabelOrganization tenant code (Text.trim label) := by
  refine .chosenText <| .step (fun hnone => ?missing) fun hsome => ?stored
  case missing => rw [organization?_eq_none.mpr hnone, need]
  case stored =>
    obtain ⟨o, ho⟩ :=
      Option.ne_none_iff_exists'.mp fun hnone => hsome (organization?_eq_none.mp hnone)
    refine ⟨o, by rw [ho, need], ?_⟩
    by_cases hsame : o.label = Text.trim label
    case neg =>
      rw [if_neg hsame]
      refine .unlessTaken (hasOrganizationLabel_iff_code hr ho hsame) fun hfree => ?_
      rw [renameOrganization_free ho hfree]
      exact .done ⟨by simp [ho], rfl⟩
    case pos =>
      rw [if_pos hsame]
      obtain ⟨hmem, rfl, rfl⟩ := organization?_eq_some ho
      refine .cons (fun ⟨x, hx, htenant, hlabel, hcode⟩ => ?_) fun _ => .done ⟨by simp [ho], ?_⟩
      · -- no other organization has the label that this one has
        have hone := hr.organization_labels x hx o hmem (by simp [htenant, hlabel, hsame])
        exact absurd (by rw [hone]) hcode
      · rw [← hsame, hr.relabelOrganization_self hmem]

end Records

/-! ## Calls -/

namespace Session

variable {s : Session}

theorem Holds.renameSector_decided {r : Records} (h : s.Holds r)
    (hfree : s.connection.writeFault? .main = none) (tenant : TenantId) (id : SectorId)
    (label : String) :
    s.Decided (.renameSector tenant id label) (r.sectorRenamingReasons tenant id (Text.trim label))
      fun _ r' => (∃! x, x ∈ r.sectors ∧ x.tenant = tenant ∧ x.id = id) ∧
        r' = r.relabelSector tenant id (Text.trim label) := by
  refine h.decided hfree ((Records.decides_planRenameSector h.sound tenant id label).imp ?_)
  rintro _ _ ⟨hsome, hafter⟩
  obtain ⟨x, hx⟩ := Option.ne_none_iff_exists'.mp hsome
  exact ⟨h.sound.sector_unique hx, hafter⟩

theorem Holds.renameOrganization_decided {r : Records} (h : s.Holds r)
    (hfree : s.connection.writeFault? .main = none) (tenant : TenantId) (code label : String) :
    s.Decided (.renameOrganization tenant code label)
      (r.organizationRenamingReasons tenant code (Text.trim label))
      fun _ r' => (∃! o, o ∈ r.organizations ∧ o.tenant = tenant ∧ o.code = code) ∧
        r' = r.relabelOrganization tenant code (Text.trim label) := by
  refine h.decided hfree
    ((Records.decides_planRenameOrganization h.sound tenant code label).imp ?_)
  rintro _ _ ⟨hsome, hafter⟩
  obtain ⟨o, ho⟩ := Option.ne_none_iff_exists'.mp hsome
  exact ⟨h.sound.organization_unique ho, hafter⟩

/-- A stored sector can be given the label that it has. -/
theorem Reachable.renameSector_self (h : s.Reachable)
    (hfree : s.connection.writeFault? .main = none) {x : Sector} (hx : x ∈ s.records.sectors)
    {label : String} (hlabel : Text.trim label = x.label) :
    (s.call (.renameSector x.tenant x.id label)).1 = .ok () ∧
      (s.call (.renameSector x.tenant x.id label)).2.Holds s.records := by
  have hr := h.holds.sound
  have hdecided := h.holds.renameSector_decided hfree x.tenant x.id label
  rw [hlabel] at hdecided
  have hstored : ∃ y ∈ s.records.sectors, y.tenant = x.tenant ∧ y.id = x.id := ⟨x, hx, rfl, rfl⟩
  have hunshared : ¬ ∃ y ∈ s.records.sectors,
      y.tenant = x.tenant ∧ y.label = x.label ∧ y.id ≠ x.id := by
    rintro ⟨y, hy, htenant, hsame, hid⟩
    have hone := hr.sector_labels y hy x hx (by simp [htenant, hsame])
    exact hid (by rw [hone])
  have hfirst : Reason.first? (s.records.sectorRenamingReasons x.tenant x.id x.label) = none := by
    rw [Records.sectorRenamingReasons, Reason.first?_ofText .label (h.normal.sector_label x hx)]
    simp only [Reason.first?, not_not.mpr hstored, hunshared, if_false]
  obtain ⟨_, r, hresult, hholds, -, rfl⟩ := hdecided.succeeds hfirst
  rw [hr.relabelSector_self hx] at hholds
  exact ⟨hresult, hholds⟩

/-- A stored organization can be given the label that it has. -/
theorem Reachable.renameOrganization_self (h : s.Reachable)
    (hfree : s.connection.writeFault? .main = none) {o : Organization}
    (ho : o ∈ s.records.organizations) {label : String} (hlabel : Text.trim label = o.label) :
    (s.call (.renameOrganization o.tenant o.code label)).1 = .ok () ∧
      (s.call (.renameOrganization o.tenant o.code label)).2.Holds s.records := by
  have hr := h.holds.sound
  have hdecided := h.holds.renameOrganization_decided hfree o.tenant o.code label
  rw [hlabel] at hdecided
  have hstored : ∃ x ∈ s.records.organizations, x.tenant = o.tenant ∧ x.code = o.code :=
    ⟨o, ho, rfl, rfl⟩
  have hunshared : ¬ ∃ x ∈ s.records.organizations,
      x.tenant = o.tenant ∧ x.label = o.label ∧ x.code ≠ o.code := by
    rintro ⟨x, hx, htenant, hsame, hcode⟩
    have hone := hr.organization_labels x hx o ho (by simp [htenant, hsame])
    exact hcode (by rw [hone])
  have hfirst :
      Reason.first? (s.records.organizationRenamingReasons o.tenant o.code o.label) = none := by
    rw [Records.organizationRenamingReasons,
      Reason.first?_ofText .label (h.normal.organization_label o ho)]
    simp only [Reason.first?, not_not.mpr hstored, hunshared, if_false]
  obtain ⟨_, r, hresult, hholds, -, rfl⟩ := hdecided.succeeds hfirst
  rw [hr.relabelOrganization_self ho] at hholds
  exact ⟨hresult, hholds⟩

/-- The reasons decide what giving another label comes to. If none applies, the one record that is
meant gets the label and nothing else changes; the root of an organization keeps its own. A record
can always be given the label that it has, and no code is ever told to be in conflict. -/
theorem Reachable.renaming_decided (h : s.Reachable)
    (hfree : s.connection.writeFault? .main = none) :
    (∀ tenant id label,
      s.Decided (.renameSector tenant id label)
          (s.records.sectorRenamingReasons tenant id (Text.trim label)) (fun _ r =>
        (∃! x, x ∈ s.records.sectors ∧ x.tenant = tenant ∧ x.id = id) ∧
          r = { s.records with
            sectors := s.records.sectors.map fun x =>
              if x.tenant = tenant ∧ x.id = id then { x with label := Text.trim label } else x }) ∧
      (∀ entity value, (s.call (.renameSector tenant id label)).1 ≠
        .error (.refused (.conflict entity .code value)))) ∧
    (∀ tenant code label,
      s.Decided (.renameOrganization tenant code label)
          (s.records.organizationRenamingReasons tenant code (Text.trim label)) (fun _ r =>
        (∃! o, o ∈ s.records.organizations ∧ o.tenant = tenant ∧ o.code = code) ∧
          r = { s.records with
            organizations := s.records.organizations.map fun o =>
              if o.tenant = tenant ∧ o.code = code then { o with label := Text.trim label }
              else o }) ∧
      (∀ entity value, (s.call (.renameOrganization tenant code label)).1 ≠
        .error (.refused (.conflict entity .code value)))) ∧
    (∀ x ∈ s.records.sectors, ∀ label, Text.trim label = x.label →
      (s.call (.renameSector x.tenant x.id label)).1 = .ok () ∧
        (s.call (.renameSector x.tenant x.id label)).2.Holds s.records) ∧
    ∀ o ∈ s.records.organizations, ∀ label, Text.trim label = o.label →
      (s.call (.renameOrganization o.tenant o.code label)).1 = .ok () ∧
        (s.call (.renameOrganization o.tenant o.code label)).2.Holds s.records := by
  refine ⟨fun tenant id label => ?sector, fun tenant code label => ?organization,
    fun x hx label hlabel => h.renameSector_self hfree hx hlabel,
    fun o ho label hlabel => h.renameOrganization_self hfree ho hlabel⟩
  case sector =>
    have hdecided := h.holds.renameSector_decided hfree tenant id label
    refine ⟨hdecided, fun entity value hresult => ?_⟩
    obtain ⟨reason, hmem, -, hreason⟩ := hdecided.told hresult
    exact Records.sectorRenamingReasons_label hmem hreason
  case organization =>
    have hdecided := h.holds.renameOrganization_decided hfree tenant code label
    refine ⟨hdecided, fun entity value hresult => ?_⟩
    obtain ⟨reason, hmem, -, hreason⟩ := hdecided.told hresult
    exact Records.organizationRenamingReasons_label hmem hreason

open Records in
/-- The label of another sector is refused even with blanks around it, that of the sector itself is
not, and a root keeps its label when its organization gets another. -/
theorem renaming_decided_chain :
    ((chain.session "").call (.renameSector 1 2 " Pole ")).1 =
      .error (.refused (.conflict .sector .label "Pole")) ∧
    ((chain.session "").call (.renameSector 1 2 " North ")).2.Holds chain ∧
    ∃ r, ((chain.session "").call (.renameOrganization 1 "acme" "Acme Inc")).2.Holds r ∧
      r.organizations = [{ acme with label := "Acme Inc" }] ∧ r.sectors = chain.sectors := by
  have hrecords : (chain.session "").records = chain := reached_chain.sound.records_session
  obtain ⟨hsectors, horganizations, hself, -⟩ :=
    (reached_chain.reachable "").renaming_decided rfl
  rw [hrecords] at hsectors horganizations hself
  refine ⟨((hsectors 1 2 " Pole ").1.fails (by decide)).1,
    (hself north (by decide) " North " (by decide)).2, ?_⟩
  obtain ⟨_, r, -, hholds, -, rfl⟩ :=
    (horganizations 1 "acme" "Acme Inc").1.succeeds (by decide)
  exact ⟨_, hholds, rfl, rfl⟩

end Session

end SectorForest
