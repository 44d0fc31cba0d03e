import SectorForest.Proofs.Codes
import SectorForest.Proofs.Decision

/-!
# What creating comes to

Every outcome of creating an organization or a sector where the database can be written and has
numbers left: the reasons for which the caller may be refused, in the order in which they are told,
and what the records gain where there is none.
-/

namespace SectorForest

open Storage

/-! ## Organizations -/

namespace Records

variable {r : Records} {tenant : TenantId}

/-- What may be against a new organization with a code and a label, and against its root. -/
def foundingReasons (r : Records) (tenant : TenantId) (code label : String) : List Reason :=
  Reason.ofText .code code ++ (Reason.ofText .label label ++
    [⟨∃ o ∈ r.organizations, o.tenant = tenant ∧ o.code = code,
        .conflict .organization .code code⟩,
      ⟨∃ o ∈ r.organizations, o.tenant = tenant ∧ o.label = label,
        .conflict .organization .label label⟩,
      ⟨∃ x ∈ r.sectors, x.tenant = tenant ∧ x.label = label, .conflict .rootSector .label label⟩,
      ⟨∃ x ∈ r.sectors, x.code = code, .conflict .rootSector .code code⟩])

theorem decides_planOrganization (draft : OrganizationDraft)
    (hroom : r.lastOrganization ≠ Int64.maxValue) (hroom' : r.lastSector ≠ Int64.maxValue) :
    Decides (r.foundingReasons tenant (Text.trim draft.code) (Text.trim draft.label))
      (r.planOrganization tenant draft) fun id r' => id = r.lastOrganization + 1 ∧
        r' = r.found (draft.named tenant (Text.trim draft.code) (Text.trim draft.label)) := by
  refine .chosenText <| .chosenText <| .unlessTaken ?code fun hcode =>
    .unlessTaken ?label fun hlabel => ?root
  case code => simp [hasOrganizationCode]
  case label => simp [hasOrganizationLabel]
  case root =>
    have howner : ∃ o ∈ (r.addOrganization (draft.named tenant (Text.trim draft.code)
        (Text.trim draft.label))).organizations, o.id = r.lastOrganization + 1 :=
      ⟨_, mem_addOrganization, rfl⟩
    have hrooted := decides_insertSector (r := r.addOrganization _)
      (s := NewSector.root tenant _ (Text.trim draft.code) (Text.trim draft.label)) hroom' howner
      (.inl ⟨rfl, rfl, rfl⟩) .rootSector
    rw [insertOrganization_free hroom hcode hlabel]
    exact hrooted.bind fun _ r' _ hdone => ⟨_, r', rfl, rfl, hdone.2⟩

end Records

namespace Session

variable {s : Session}

/-- The reasons decide what creating an organization comes to. If none applies, the records gain the
organization and its root and nothing else. -/
theorem Reachable.founding_decided (h : s.Reachable)
    (hfree : s.connection.writeFault? .main = none)
    (hroom : s.records.lastOrganization ≠ Int64.maxValue)
    (hroom' : s.records.lastSector ≠ Int64.maxValue) (tenant : TenantId)
    (draft : OrganizationDraft) :
    s.Decided (.createOrganization tenant draft)
      (s.records.foundingReasons tenant (Text.trim draft.code) (Text.trim draft.label))
      fun id r => id = s.records.lastOrganization + 1 ∧
        (∀ o ∈ s.records.organizations, o.id < id) ∧
        (∀ x ∈ s.records.sectors, x.id < s.records.lastSector + 1) ∧ r = {
          organizations := s.records.organizations ++ [{
            id, tenant
            code := Text.trim draft.code
            label := Text.trim draft.label
            kind := draft.kind
            status := draft.status }]
          sectors := s.records.sectors ++ [{
            id := s.records.lastSector + 1
            tenant
            org := id
            code := Text.trim draft.code
            label := Text.trim draft.label
            parent := none
            hasParent := false
            depth := 0
            status := .active }]
          lastOrganization := id
          lastSector := s.records.lastSector + 1 } := by
  have hr := h.holds.sound
  refine h.holds.decided hfree ((Records.decides_planOrganization draft hroom hroom').imp ?_)
  rintro _ _ ⟨rfl, rfl⟩
  exact ⟨rfl, hr.organization_id_lt_next hroom, hr.id_lt_next hroom', rfl⟩

open Records in
/-- A code that a sector has already is no code for an organization, not even with blanks around it;
another one is. -/
theorem founding_decided_chain :
    ((chain.session "").call
        (.createOrganization 1 { code := " n ", label := "Norway", kind := .bu })).1 =
      .error (.refused (.conflict .rootSector .code "n")) ∧
    ∃ r, ((chain.session "").call
        (.createOrganization 1 { code := "no", label := "Norway", kind := .bu })).2.Holds r ∧
      r.organizations = [acme, {
        id := 2
        tenant := 1
        code := "no"
        label := "Norway"
        kind := .bu
        status := .active }] := by
  have hrecords : (chain.session "").records = chain := reached_chain.sound.records_session
  have hroom : (chain.session "").records.lastOrganization ≠ Int64.maxValue := by
    rw [hrecords]
    decide
  have hroom' : (chain.session "").records.lastSector ≠ Int64.maxValue := by
    rw [hrecords]
    decide
  have hdecided := (reached_chain.reachable "").founding_decided rfl hroom hroom' 1
  rw [hrecords] at hdecided
  refine ⟨((hdecided _).fails (by decide)).1, ?_⟩
  obtain ⟨id, r, -, hholds, rfl, -, -, rfl⟩ :=
    (hdecided { code := "no", label := "Norway", kind := .bu }).succeeds (by decide)
  exact ⟨_, hholds, rfl⟩

end Session

/-! ## Sectors -/

/-- What a new sector is to be, and whom it is to be put below. -/
structure Growth where
  tenant : TenantId
  org : OrganizationId
  label : String
  parentCode : Option String
  status : Status

namespace Growth

variable (g : Growth) {r : Records}

/-- The code of the parent, blank where the root is meant. -/
def parentText : String :=
  (g.parentCode.map Text.trim).getD ""

/-- A sector that the new one may be put below. -/
def Below (x : Sector) : Prop :=
  x.tenant = g.tenant ∧ x.org = g.org ∧
    if g.parentText = "" then x.hasParent = false else x.code = g.parentText

instance : DecidablePred g.Below :=
  fun _ => inferInstanceAs (Decidable (_ ∧ _ ∧ _))

/-- What the caller is told where there is no such sector. -/
def orphanError : ServiceError :=
  if g.parentText = "" then .notFound .rootSector (toString g.org.toInt)
  else .notFound .parentSector g.parentText

/-- What may be against the new sector before it gets a code. -/
def placeReasons (r : Records) : List Reason :=
  Reason.ofText .label (Text.trim g.label) ++
    [⟨∃ x ∈ r.sectors, x.tenant = g.tenant ∧ x.label = Text.trim g.label,
        .conflict .sector .label (Text.trim g.label)⟩,
      ⟨¬ ∃ x ∈ r.sectors, g.Below x, g.orphanError⟩]

/-- What may be against the new sector. -/
def reasons (r : Records) (newCode : String) : List Reason :=
  g.placeReasons r ++ [⟨∃ x ∈ r.sectors, x.code = newCode, .conflict .sector .code newCode⟩]

/-- The new sector. -/
def row (newCode : String) (id : SectorId) (parent : Sector) : Sector where
  id := id
  tenant := g.tenant
  org := g.org
  code := newCode
  label := Text.trim g.label
  parent := some parent.id
  hasParent := true
  depth := parent.depth + 1
  status := g.status

/-- The records gain `child` below `parent`, under a new number, and nothing else. -/
structure Adds (r : Records) (newCode : String) (parent child : Sector) (r' : Records) : Prop where
  mem : parent ∈ r.sectors
  below : g.Below parent
  only : ∀ x ∈ r.sectors, g.Below x → x = parent
  child_eq : child = g.row newCode (r.lastSector + 1) parent
  depth_eq : child.depth.toNat = parent.depth.toNat + 1
  id_lt : ∀ x ∈ r.sectors, x.id < child.id
  records_eq : r' = { r with sectors := r.sectors ++ [child], lastSector := child.id }

variable {g}

theorem parentCode?_eq :
    parentCode? g.parentCode = if g.parentText = "" then none else some g.parentText := by
  unfold parentText
  cases g.parentCode with
  | none => rfl
  | some code => simp [parentCode?, Option.filter, ite_not]

/-- Whom the new sector is put below can be told from what is asked for. -/
theorem Below.eq (hr : r.Sound) (hl : r.Lineage) {x y : Sector} (hx : x ∈ r.sectors)
    (hy : y ∈ r.sectors) (h : g.Below x) (h' : g.Below y) : x = y := by
  obtain ⟨-, horg, hfits⟩ := h
  obtain ⟨-, horg', hfits'⟩ := h'
  split at hfits
  case isTrue hblank =>
    rw [if_pos hblank] at hfits'
    exact hl.root_unique x hx y hy hfits hfits' (horg.trans horg'.symm)
  case isFalse hnamed =>
    rw [if_neg hnamed] at hfits'
    exact hr.sector_codes x hx y hy (hfits.trans hfits'.symm)

/-- The service looks for a parent among the sectors that the new one may be put below. -/
theorem parentFor_eq (hr : r.Sound) :
    (∃ parent ∈ r.sectors, g.Below parent ∧
      r.parentFor g.tenant g.org g.parentCode = .ok parent) ∨
    (¬ ∃ x ∈ r.sectors, g.Below x) ∧
      r.parentFor g.tenant g.org g.parentCode = .error (.refused g.orphanError) := by
  rw [Records.parentFor, parentCode?_eq]
  by_cases hblank : g.parentText = ""
  · simp only [Below, orphanError, if_pos hblank]
    cases hroot : r.root? g.tenant g.org with
    | some parent =>
      obtain ⟨hmem, htenant, horg, hroots⟩ := Records.root?_eq_some hroot
      exact .inl ⟨parent, hmem, ⟨htenant, horg, hroots⟩, rfl⟩
    | none =>
      refine .inr ⟨?_, rfl⟩
      rintro ⟨x, hx, htenant, horg, hroots⟩
      exact absurd hroots (by simp [Records.root?_eq_none.mp hroot x hx htenant horg])
  · simp only [Below, orphanError, if_neg hblank]
    cases hfound : (r.sectorByCode? g.tenant g.parentText).filter
        fun parent => parent.org == g.org with
    | some parent =>
      obtain ⟨hcode, horg⟩ := Option.filter_eq_some_iff.mp hfound
      obtain ⟨hmem, htenant, hcode⟩ := Records.sectorByCode?_eq_some hcode
      exact .inl ⟨parent, hmem, ⟨htenant, beq_iff_eq.mp horg, hcode⟩, rfl⟩
    | none =>
      refine .inr ⟨?_, rfl⟩
      rintro ⟨x, hx, htenant, horg, hcode⟩
      -- codes tell sectors apart, so that no other one is found in its place
      have hstored : r.sectorByCode? g.tenant g.parentText = some x := by
        rw [← htenant, ← hcode]
        exact hr.sectorByCode?_of_mem hx
      rw [hstored] at hfound
      simp [Option.filter, horg] at hfound

/-- The new sector finds its place exactly if nothing is against it before it gets a code. -/
theorem places_eq (hr : r.Sound) :
    r.places g.tenant g.org g.label g.parentCode = (Reason.first? (g.placeReasons r)).isNone := by
  simp only [Records.places, normalize_eq, placeReasons, Reason.ofText, List.cons_append,
    List.nil_append, Reason.first?, ← Records.isSome_sectorByLabel?]
  by_cases hblank : Text.trim g.label = ""
  · rw [if_pos hblank, if_pos hblank]
    rfl
  rw [if_neg hblank, if_neg hblank]
  by_cases hlong : maxTextLength < (Text.trim g.label).length
  · rw [if_pos hlong, if_pos hlong]
    rfl
  rw [if_neg hlong, if_neg hlong]
  cases hlabel : r.sectorByLabel? g.tenant (Text.trim g.label) with
  | some owner => simp [hlabel]
  | none =>
    obtain ⟨parent, hmem, hbelow, hparent⟩ | ⟨hnone, herror⟩ := parentFor_eq (g := g) hr
    · have hparents : ∃ x ∈ r.sectors, g.Below x := ⟨parent, hmem, hbelow⟩
      simp only [hlabel, hparent, hparents]
      rfl
    · simp only [hlabel, herror, hnone]
      rfl

/-- Once the label is free and the parent is found, only the new code may be taken. -/
theorem decides_below (hr : r.Sound) (hl : r.Lineage) (hroom : r.lastSector ≠ Int64.maxValue)
    {parent : Sector} (hmem : parent ∈ r.sectors) (hbelow : g.Below parent)
    (hdepth : parent.depth.toNat + 1 < UInt32.size)
    (hlabel : ¬ ∃ x ∈ r.sectors, x.tenant = g.tenant ∧ x.label = Text.trim g.label)
    (newCode : String) :
    Decides [⟨∃ x ∈ r.sectors, x.code = newCode, .conflict .sector .code newCode⟩]
      (Records.childBelow parent newCode (Text.trim g.label) g.status >>= fun child =>
        carryOut (r.insertSector child) (writeError .sector newCode (Text.trim g.label)))
      fun id r' => ∃ parent child, g.Adds r newCode parent child r' ∧ id = child.id := by
  obtain ⟨tenant, org, label, parentCode, status⟩ := g
  have htenant : parent.tenant = tenant := hbelow.1
  have horg : parent.org = org := hbelow.2.1
  subst htenant horg
  have hinsert := Records.decides_insertSector (s := {
    tenant := parent.tenant
    org := parent.org
    code := newCode
    label := Text.trim label
    parent := some parent.id
    hasParent := true
    depth := parent.depth + 1
    status }) hroom (hr.owned parent hmem) (shaped_below hdepth parent.id) .sector
  rw [Records.childBelow, NewSector.childOf?, if_pos hdepth]
  refine (hinsert.of_cons hlabel).imp ?_
  rintro _ _ ⟨rfl, rfl⟩
  exact ⟨parent, _, {
    mem := hmem
    below := hbelow
    only := fun x hx hx' => hx'.eq hr hl hx hmem hbelow
    child_eq := rfl
    depth_eq := toNat_below hdepth
    id_lt := hr.id_lt_next hroom
    records_eq := rfl }, rfl⟩

theorem decides_planSector (hr : r.Sound) (hl : r.Lineage)
    (hroom : r.lastSector ≠ Int64.maxValue)
    (hdepth : ∀ x ∈ r.sectors, g.Below x → x.depth.toNat + 1 < UInt32.size) (newCode : String) :
    Decides (g.reasons r newCode)
      (r.planSector newCode g.tenant g.org g.label g.parentCode g.status)
      fun id r' => ∃ parent child, g.Adds r newCode parent child r' ∧ id = child.id := by
  rw [reasons, placeReasons, List.append_assoc]
  refine .chosenText <| .unlessTaken Records.isSome_sectorByLabel? fun hlabel => ?_
  obtain ⟨parent, hmem, hbelow, hparent⟩ | ⟨hnone, herror⟩ := parentFor_eq (g := g) hr
  · refine .step (fun hnone => absurd ⟨parent, hmem, hbelow⟩ hnone) fun _ => ⟨parent, hparent, ?_⟩
    exact decides_below hr hl hroom hmem hbelow (hdepth parent hmem hbelow) hlabel newCode
  · exact .step (fun _ => herror) fun hsome => absurd hnone hsome

/-- The calls that ask for a sector, and what they answer when it is there. -/
inductive AskedBy (r : Records) :
    Growth → (mutation : Mutation) → (Sector → mutation.Answer) → Prop
  | createSector (tenant : TenantId) (org : OrganizationId) (label : String)
    (parentCode : Option String) :
    AskedBy r { tenant, org, label, parentCode, status := .active }
      (.createSector tenant org label parentCode) fun child => child.id
  | createSectorIn {o : Organization} (ho : o ∈ r.organizations) (draft : SectorDraft) :
    AskedBy r {
      tenant := o.tenant
      org := o.id
      label := draft.label
      parentCode := draft.parentCode
      status := draft.status } (.createSectorIn o.tenant o.code draft) fun child => child

/-- Such a call takes a code exactly if the sector finds its place. -/
theorem AskedBy.takesCode_eq (hr : r.Sound) {mutation : Mutation}
    {answer : Sector → mutation.Answer} (h : AskedBy r g mutation answer) :
    r.takesCode mutation = (Reason.first? (g.placeReasons r)).isNone := by
  rw [← places_eq hr]
  cases h with
  | createSector tenant org label parentCode => rfl
  | createSectorIn ho draft =>
    rw [Records.takesCode, hr.organization?_of_mem ho, Option.any_some]

/-- The plan of such a call comes to what is asked for, or to the first reason against it. -/
theorem AskedBy.decides (hr : r.Sound) (hl : r.Lineage) (hroom : r.lastSector ≠ Int64.maxValue)
    {mutation : Mutation} {answer : Sector → mutation.Answer} (h : AskedBy r g mutation answer)
    (hdepth : ∀ x ∈ r.sectors, g.Below x → x.depth.toNat + 1 < UInt32.size) (newCode : String) :
    Decides (g.reasons r newCode) (r.plan newCode mutation)
      fun a r' => ∃ parent child, g.Adds r newCode parent child r' ∧ a = answer child := by
  have hplanned := decides_planSector hr hl hroom hdepth newCode
  cases h with
  | createSector tenant org label parentCode => exact hplanned
  | @createSectorIn o ho draft =>
    have hplan : r.plan newCode (.createSectorIn o.tenant o.code draft) =
        r.planSector newCode o.tenant o.id draft.label draft.parentCode draft.status >>=
          fun p => need .sector (toString p.1.toInt) (p.2.sector? o.tenant p.1) >>=
            fun sector => pure (sector, p.2) := by
      rw [Records.plan, Records.planSectorIn, hr.organization?_of_mem ho]
      exact pure_bind o _
    rw [hplan]
    refine hplanned.bind fun id r' hplanned hdone => ?_
    obtain ⟨parent, child, hadds, rfl⟩ := hdone
    -- what is read is the sector that was added
    obtain ⟨-, _, hlast, hfound⟩ := hr.planSector hplanned
    cases List.append_cancel_left (hlast.symm.trans (congrArg Records.sectors hadds.records_eq))
    refine ⟨child, r', ?_, parent, child, hadds, rfl⟩
    dsimp only
    rw [hfound]
    exact pure_bind child _

end Growth

namespace Session

variable {s : Session}

/-- A call that asks for a sector comes to what is asked for, or to the first reason against it. It
takes a code exactly if the sector finds its place. -/
structure GrowsAs (s : Session) (g : Growth) (mutation : Mutation)
    (answer : Sector → mutation.Answer) : Prop where
  decided : s.Decided mutation (g.reasons s.records (s.codes s.codesTaken)) fun a r =>
    ∃ parent child, g.Adds s.records (s.codes s.codesTaken) parent child r ∧ a = answer child
  takesCode : TakesCode (Reason.first? (g.placeReasons s.records)).isNone s (s.call mutation).2

/-- No sector is created in an organization that is not stored. -/
theorem Holds.createSectorIn_unknown {r : Records} (h : s.Holds r)
    (hfree : s.connection.writeFault? .main = none) {tenant : TenantId} {code : String}
    (draft : SectorDraft) (hunknown : ∀ o ∈ r.organizations, o.tenant = tenant → o.code ≠ code) :
    (s.call (.createSectorIn tenant code draft)).1 =
        .error (.refused (.notFound .organization code)) ∧
      (s.call (.createSectorIn tenant code draft)).2.connection = s.connection ∧
      TakesCode false s (s.call (.createSectorIn tenant code draft)).2 := by
  have hnone : r.organization? tenant code = none := by
    simpa [Records.organization?] using hunknown
  have hplan : r.plan (s.codes s.codesTaken) (.createSectorIn tenant code draft) =
      .error (.refused (.notFound .organization code)) := by
    rw [Records.plan, Records.planSectorIn, hnone]
    rfl
  have htakes := h.call_takesCode (.createSectorIn tenant code draft)
  rw [Records.takesCode, hnone] at htakes
  obtain ⟨hresult, hsame⟩ := h.call_of_failure hfree hplan
  exact ⟨hresult, hsame, htakes⟩

/-- Every call that asks for a sector comes to what is asked for, or to the first reason against it,
unless it names an organization that is not stored. -/
theorem Reachable.growth_decided (h : s.Reachable)
    (hfree : s.connection.writeFault? .main = none)
    (hroom : s.records.lastSector ≠ Int64.maxValue) :
    (∀ (g : Growth) (mutation : Mutation) (answer : Sector → mutation.Answer),
      Growth.AskedBy s.records g mutation answer →
      (∀ x ∈ s.records.sectors, g.Below x → x.depth.toNat + 1 < UInt32.size) →
        s.GrowsAs g mutation answer) ∧
      ∀ (tenant : TenantId) (code : String) (draft : SectorDraft),
        (∀ o ∈ s.records.organizations, o.tenant = tenant → o.code ≠ code) →
          (s.call (.createSectorIn tenant code draft)).1 =
              .error (.refused (.notFound .organization code)) ∧
            (s.call (.createSectorIn tenant code draft)).2.connection = s.connection ∧
            TakesCode false s (s.call (.createSectorIn tenant code draft)).2 := by
  have hr := h.holds.sound
  refine ⟨fun g mutation answer hasked hdepth => ?_, fun tenant code draft hunknown =>
    h.holds.createSectorIn_unknown hfree draft hunknown⟩
  have hdecides := hasked.decides hr h.lineage hroom hdepth (s.codes s.codesTaken)
  have htakes := h.holds.call_takesCode mutation
  rw [hasked.takesCode_eq hr] at htakes
  exact ⟨h.holds.decided hfree hdecides, htakes⟩

open Records in
/-- A sector is put below the one with the code that is given, and takes a code itself. -/
theorem growth_decided_chain :
    ∃ r, ((chain.session "s").call (.createSector 1 1 " South " (some " n "))).1 = .ok 5 ∧
      ((chain.session "s").call (.createSector 1 1 " South " (some " n "))).2.Holds r ∧
      r.sectors = chain.sectors ++ [{
        id := 5
        tenant := 1
        org := 1
        code := "s"
        label := "South"
        parent := some 2
        hasParent := true
        depth := 2
        status := .active }] ∧
      ((chain.session "s").call (.createSector 1 1 " South " (some " n "))).2.codesTaken = 1 := by
  have hrecords : (chain.session "s").records = chain := reached_chain.sound.records_session
  have hroom : (chain.session "s").records.lastSector ≠ Int64.maxValue := by
    rw [hrecords]
    decide
  obtain ⟨hgrows, -⟩ := (reached_chain.reachable "s").growth_decided rfl hroom
  obtain ⟨hdecided, htakes⟩ := hgrows _ _ _ (.createSector 1 1 " South " (some " n ")) (by
    rw [hrecords]
    decide)
  rw [hrecords] at hdecided htakes
  obtain ⟨id, r, hresult, hholds, parent, child, hadds, rfl⟩ := hdecided.succeeds (by decide)
  have hnorth : north = parent := hadds.only north (by decide) (by decide)
  have hchild := hadds.child_eq
  subst hnorth hchild
  rw [hadds.records_eq] at hholds
  exact ⟨_, hresult, hholds, rfl, htakes.2⟩

end Session

end SectorForest
