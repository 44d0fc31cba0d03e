import SectorForest.Proofs.Creation

/-!
# Naming a parent by its code

A sector is put below the one whose code is given, and this code is trimmed before it is looked up;
a blank one stands for the root. Codes of organizations, and so of roots, are stored in their normal
form, but those that the source of codes makes are stored as they are.

`Session.Reachable.named_parent` says which sectors can be named: those whose code is neither blank
nor has blanks at its ends. The code of any other one names another sector, or the root, or none.
-/

namespace SectorForest

open Storage

/-- A code under which a sector is found when it is given as that of a parent. -/
structure IsAddress (code : String) : Prop where
  trimmed : Text.trim code = code
  nonempty : code ≠ ""

theorem IsNormal.isAddress {code : String} (h : IsNormal code) : IsAddress code :=
  ⟨h.trimmed, h.nonempty⟩

theorem parentCode?_blank {code : String} (h : Text.trim code = "") :
    parentCode? (some code) = none := by
  simp [parentCode?, h]

theorem parentCode?_named {code : String} (h : Text.trim code ≠ "") :
    parentCode? (some code) = some (Text.trim code) := by
  simp [parentCode?, h]

namespace Records

variable {r : Records} {p parent : Sector}

/-- What is found under the code of a stored sector is that sector if its code is an address, and
another one if it is not. -/
theorem Normal.parentFor_iff (hn : r.Normal) (hr : r.Sound) (hl : r.Lineage) (hp : p ∈ r.sectors)
    (hparent : r.parentFor p.tenant p.org (some p.code) = .ok parent) :
    parent = p ↔ IsAddress p.code := by
  obtain ⟨hmem, -, -, hcode⟩ := r.parentFor_eq_ok hparent
  by_cases hblank : Text.trim p.code = ""
  · -- the root is found, and its code is not blank
    rw [parentFor, parentCode?_blank hblank] at hparent
    obtain ⟨-, -, -, hroot⟩ := root?_eq_some (need_eq_ok hparent)
    have haddress := (hn.root_code hr hl hmem hroot).isAddress
    constructor
    · rintro rfl
      exact haddress
    · intro h
      exact absurd (h.trimmed.symm.trans hblank) h.nonempty
  · have hfound : parent.code = Text.trim p.code := hcode _ (parentCode?_named hblank)
    constructor
    · rintro rfl
      exact ⟨hfound.symm, hfound ▸ hblank⟩
    · intro h
      exact hr.sector_codes parent hmem p hp (hfound.trans h.trimmed)

end Records

/-- What is asked for when a sector is to be put below the one with the code of `p`. -/
def Sector.growth (p : Sector) (label : String) : Growth where
  tenant := p.tenant
  org := p.org
  label := label
  parentCode := some p.code
  status := .active

theorem Sector.below_growth {p : Sector} (h : IsAddress p.code) (label : String) :
    (p.growth label).Below p := by
  have htext : (p.growth label).parentText = p.code := h.trimmed
  refine ⟨rfl, rfl, ?_⟩
  rw [htext, if_neg h.nonempty]

/-- Nothing is against a sector that has a place, a free label and a free code. -/
theorem Growth.first?_reasons {r : Records} {g : Growth} {newCode : String}
    (hlabel : IsNormal (Text.trim g.label))
    (hunshared : ∀ x ∈ r.sectors, x.tenant = g.tenant → x.label ≠ Text.trim g.label)
    (hbelow : ∃ x ∈ r.sectors, g.Below x) (hnew : ∀ x ∈ r.sectors, x.code ≠ newCode) :
    Reason.first? (g.reasons r newCode) = none := by
  have hshared : ¬ ∃ x ∈ r.sectors, x.tenant = g.tenant ∧ x.label = Text.trim g.label :=
    fun ⟨x, hx, htenant, hsame⟩ => hunshared x hx htenant hsame
  have htaken : ¬ ∃ x ∈ r.sectors, x.code = newCode := fun ⟨x, hx, hsame⟩ => hnew x hx hsame
  rw [reasons, placeReasons, List.append_assoc, Reason.first?_ofText .label hlabel]
  simp only [List.cons_append, List.nil_append, Reason.first?, hshared, hbelow, htaken,
    not_true_eq_false, if_false]

namespace Session

variable {s : Session}

/-- A sector is put below the one whose code is given if this code is an address. -/
theorem Holds.named_created {r : Records} (h : s.Holds r)
    (hfree : s.connection.writeFault? .main = none) (hroom : r.lastSector ≠ Int64.maxValue)
    (hl : r.Lineage) {p : Sector} (hp : p ∈ r.sectors) (haddress : IsAddress p.code)
    (hdepth : p.depth.toNat + 1 < UInt32.size) {label : String}
    (hlabel : IsNormal (Text.trim label))
    (hunshared : ∀ x ∈ r.sectors, x.tenant = p.tenant → x.label ≠ Text.trim label)
    (hnew : ∀ x ∈ r.sectors, x.code ≠ s.codes s.codesTaken) :
    (s.call (.createSector p.tenant p.org label (some p.code))).1 = .ok (r.lastSector + 1) ∧
      (s.call (.createSector p.tenant p.org label (some p.code))).2.Holds { r with
        sectors := r.sectors ++
          [(p.growth label).row (s.codes s.codesTaken) (r.lastSector + 1) p]
        lastSector := r.lastSector + 1 } := by
  have hr := h.sound
  have hbelow := p.below_growth haddress label
  have hasked : Growth.AskedBy r (p.growth label)
      (.createSector p.tenant p.org label (some p.code)) fun child => child.id :=
    .createSector p.tenant p.org label (some p.code)
  have hdecided := h.decided hfree (hasked.decides hr hl hroom (fun x hx hx' => by
    rwa [hx'.eq hr hl hx hp hbelow]) (s.codes s.codesTaken))
  obtain ⟨_, r', hresult, hheld, parent, child, hadds, rfl⟩ :=
    hdecided.succeeds (Growth.first?_reasons hlabel hunshared ⟨p, hp, hbelow⟩ hnew)
  -- no other sector may be meant
  obtain rfl : p = parent := hadds.only p hp hbelow
  have hid : child.id = r.lastSector + 1 := by
    rw [hadds.child_eq]
    rfl
  rw [hadds.records_eq, hid, hadds.child_eq] at hheld
  exact ⟨hresult.trans (congrArg Except.ok hid), hheld⟩

/-- A stored sector whose code is an address is the one that a new sector is put below when the code
is given. A sector that is created under any other code is not put below the one that has it. The
codes of roots are addresses. -/
theorem Reachable.named_parent (h : s.Reachable) {p : Sector} (hp : p ∈ s.records.sectors) :
    (IsAddress p.code → s.connection.writeFault? .main = none →
      s.records.lastSector ≠ Int64.maxValue → p.depth.toNat + 1 < UInt32.size →
      ∀ label, IsNormal (Text.trim label) →
        (∀ x ∈ s.records.sectors, x.tenant = p.tenant → x.label ≠ Text.trim label) →
        (∀ x ∈ s.records.sectors, x.code ≠ s.codes s.codesTaken) →
        (s.call (.createSector p.tenant p.org label (some p.code))).1 =
            .ok (s.records.lastSector + 1) ∧
          (s.call (.createSector p.tenant p.org label (some p.code))).2.Holds { s.records with
            sectors := s.records.sectors ++ [{
              id := s.records.lastSector + 1
              tenant := p.tenant
              org := p.org
              code := s.codes s.codesTaken
              label := Text.trim label
              parent := some p.id
              hasParent := true
              depth := p.depth + 1
              status := .active }]
            lastSector := s.records.lastSector + 1 }) ∧
    (∀ label id s', s.call (.createSector p.tenant p.org label (some p.code)) = (.ok id, s') →
      ∃ parent child, s.records.Grows (s.codes s.codesTaken) p.tenant p.org label (some p.code)
          .active parent child ∧
        s'.Holds (s.records.addSector child) ∧ (parent = p ↔ IsAddress p.code)) ∧
    (p.hasParent = false → IsAddress p.code) := by
  have hr := h.holds.sound
  have hl := h.lineage
  refine ⟨?address, ?any, fun hroot => (h.normal.root_code hr hl hp hroot).isAddress⟩
  case any =>
    intro label id s' hcall
    obtain ⟨r', heffect, hafter⟩ := h.holds.call_ok hcall
    cases heffect with
    | @createSector _ _ _ _ parent child hgrows =>
      exact ⟨parent, child, hgrows, hafter,
        h.normal.parentFor_iff hr hl hp hgrows.parentFor_eq⟩
  case address =>
    intro haddress hfree hroom hdepth label hlabel hunshared hnew
    exact h.holds.named_created hfree hroom hl hp haddress hdepth hlabel hunshared hnew

section Padded

open Records

/-- A sector of `acme` below the root whose code is that of `north` behind a blank. -/
def south : Sector :=
  { acmeBranch acmeRoot " n" "South" with id := 3 }

/-- A sector of `acme` below the root whose code is blank. -/
def east : Sector :=
  { acmeBranch acmeRoot " " "East" with id := 4 }

/-- The records with sectors that a source of codes has given codes with blanks. -/
def padded : Records :=
  ofAcme [acmeRoot, north, south, east] 4

theorem reached_padded : padded.Reached := by
  have hnorth : founded.plan "n" (.createSector 1 1 "North" none) =
      .ok (2, ofAcme [acmeRoot, north] 2) := rfl
  have hsouth : (ofAcme [acmeRoot, north] 2).plan " n" (.createSector 1 1 "South" none) =
      .ok (3, ofAcme [acmeRoot, north, south] 3) := rfl
  have heast : (ofAcme [acmeRoot, north, south] 3).plan " " (.createSector 1 1 "East" none) =
      .ok (4, padded) := rfl
  exact ((reached_founded.next hnorth).next hsouth).next heast

theorem plan_farSouth : padded.plan "f" (.createSector 1 1 "Far South" (some south.code)) =
    .ok (5, ofAcme (padded.sectors ++ [{ acmeBranch north "f" "Far South" with id := 5 }]) 5) :=
  rfl

theorem plan_farEast : padded.plan "f" (.createSector 1 1 "Far East" (some east.code)) =
    .ok (5, ofAcme (padded.sectors ++ [{ acmeBranch acmeRoot "f" "Far East" with id := 5 }]) 5) :=
  rfl

/-- What is to be put below `south` is put below `north`, what is to be put below `east` below the
root. -/
theorem parent_missed_padded :
    let s := padded.session "f"
    s.Reachable ∧ s.records = padded ∧ south ∈ padded.sectors ∧ east ∈ padded.sectors ∧
    (s.call (.createSector 1 1 "Far South" (some south.code))).1 = .ok 5 ∧
    (s.call (.createSector 1 1 "Far South" (some south.code))).2.records.sectors =
      padded.sectors ++ [{ acmeBranch north "f" "Far South" with id := 5 }] ∧
    (s.call (.createSector 1 1 "Far East" (some east.code))).1 = .ok 5 ∧
    (s.call (.createSector 1 1 "Far East" (some east.code))).2.records.sectors =
      padded.sectors ++ [{ acmeBranch acmeRoot "f" "Far East" with id := 5 }] ∧
    south.id ≠ north.id ∧ east.id ≠ acmeRoot.id := by
  intro s
  obtain ⟨hsouth, hheldSouth⟩ := reached_padded.sound.call_session plan_farSouth
  obtain ⟨heast, hheldEast⟩ := reached_padded.sound.call_session plan_farEast
  refine ⟨reached_padded.reachable "f", reached_padded.sound.records_session, by decide, by decide,
    hsouth, ?_, heast, ?_, by decide, by decide⟩
  · exact congrArg Records.sectors hheldSouth.records
  · exact congrArg Records.sectors hheldEast.records

/-- A sector is put below `north` if its code is given, and none below `south` by any code. -/
theorem named_parent_padded :
    ((padded.session "f").call (.createSector 1 1 "Far North" (some north.code))).1 = .ok 5 ∧
    (∃ r, ((padded.session "f").call
        (.createSector 1 1 "Far North" (some north.code))).2.Holds r ∧
      r.sectors = padded.sectors ++ [{ acmeBranch north "f" "Far North" with id := 5 }]) ∧
    ∃ parent child, padded.Grows "f" 1 1 "Far South" (some south.code) .active parent child ∧
      parent ≠ south := by
  have hreachable := reached_padded.reachable "f"
  have hrecords : (padded.session "f").records = padded := reached_padded.sound.records_session
  have hnorth := hreachable.named_parent (p := north) (by rw [hrecords]; decide)
  have hsouth := hreachable.named_parent (p := south) (by rw [hrecords]; decide)
  rw [hrecords] at hnorth hsouth
  obtain ⟨hresult, hholds⟩ := hnorth.1 ⟨by decide, by decide⟩ rfl (by decide) (by decide)
    "Far North" ⟨by decide, by decide, by decide⟩ (by decide) (by decide)
  refine ⟨hresult, ⟨_, hholds, rfl⟩, ?_⟩
  obtain ⟨hcreated, -⟩ := reached_padded.sound.call_session plan_farSouth
  obtain ⟨parent, child, hgrows, -, hnamed⟩ :=
    hsouth.2.1 "Far South" 5 _ (Prod.ext hcreated rfl)
  refine ⟨parent, child, hgrows, fun hsame => ?_⟩
  exact absurd (hnamed.mp hsame).trimmed (by decide)

end Padded

end Session

end SectorForest
