import SectorForest.Proofs.Change

/-!
# What the tables ask of rows

Conditions, checks, groups of unique columns and references, read on the rows of records: each is
said here once in terms of the record alone. `rowFault?_sector` and `rowFault?_organization` are the
decision that the tables take about a new row, `referencesHold_database` the one about owners.
-/

namespace SectorForest

open Storage

/-! ## Cells that keep their value -/

namespace Storage

@[simp] theorem Affinity.store_int (i : Int64) : Affinity.integer.store (.int i) = .int i := rfl

@[simp] theorem Affinity.store_text (s : String) : Affinity.text.store (.text s) = .text s := rfl

@[simp] theorem Affinity.store_elim (i : Option Int64) :
    Affinity.integer.store (i.elim .null .int) = i.elim .null .int := by
  cases i <;> rfl

@[simp] theorem Affinity.operand_int (i : Int64) : Affinity.integer.operand (.int i) = .int i := rfl

@[simp] theorem Affinity.operand_text (s : String) :
    Affinity.text.operand (.text s) = .text s := rfl

@[simp] theorem Cell.agree_int (a b : Int64) : Cell.agree (.int a) (.int b) = (a == b) := by
  have hagree : Cell.agree (.int a) (.int b) = (Cell.int a == .int b) := rfl
  rw [hagree, beq_eq_beq, Cell.int.injEq]

@[simp] theorem Cell.agree_text (a b : String) : Cell.agree (.text a) (.text b) = (a == b) := by
  have hagree : Cell.agree (.text a) (.text b) = (Cell.text a == .text b) := rfl
  rw [hagree, beq_eq_beq, Cell.text.injEq]

theorem Cell.le_int (a b : Int64) : Cell.le (.int a) (.int b) = decide (a ≤ b) :=
  decide_eq_decide.mpr Int64.le_iff_toInt_le.symm

@[simp] theorem Cell.int_bne_null (i : Int64) : (Cell.int i != .null) = true := by
  simp

@[simp] theorem Cell.text_bne_null (s : String) : (Cell.text s != .null) = true := by
  simp

/-! ## Conditions -/

namespace Condition

section Comparing

variable (agreeing : Cell → Cell → Bool)

theorem compared_null (value : Cell) : compared agreeing .null value = none :=
  if_pos (.inl rfl)

theorem compared_int (a b : Int64) :
    compared agreeing (.int a) (.int b) = some (agreeing (.int a) (.int b)) :=
  if_neg (by simp)

theorem compared_text (a b : String) :
    compared agreeing (.text a) (.text b) = some (agreeing (.text a) (.text b)) :=
  if_neg (by simp)

end Comparing

section Combining

variable (cell : String → Cell) (left right : Condition)

theorem holds_both :
    (both left right).holds cell = (left.holds cell && right.holds cell) := by
  have htruth : (both left right).truth cell = conj (left.truth cell) (right.truth cell) := rfl
  rw [holds, holds, holds, htruth]
  rcases left.truth cell with _ | _ | _ <;> rcases right.truth cell with _ | _ | _ <;> rfl

theorem holds_either :
    (either left right).holds cell = (left.holds cell || right.holds cell) := by
  have htruth : (either left right).truth cell = disj (left.truth cell) (right.truth cell) := rfl
  rw [holds, holds, holds, htruth]
  rcases left.truth cell with _ | _ | _ <;> rcases right.truth cell with _ | _ | _ <;> rfl

theorem fails_both :
    (both left right).fails cell = (left.fails cell || right.fails cell) := by
  have htruth : (both left right).truth cell = conj (left.truth cell) (right.truth cell) := rfl
  rw [fails, fails, fails, htruth]
  rcases left.truth cell with _ | _ | _ <;> rcases right.truth cell with _ | _ | _ <;> rfl

theorem fails_either :
    (either left right).fails cell = (left.fails cell && right.fails cell) := by
  have htruth : (either left right).truth cell = disj (left.truth cell) (right.truth cell) := rfl
  rw [fails, fails, fails, htruth]
  rcases left.truth cell with _ | _ | _ <;> rcases right.truth cell with _ | _ | _ <;> rfl

end Combining

variable {cell : String → Cell} {column : String}

theorem truth_equals (value : Cell) :
    (equals column value).truth cell = compared Cell.agree (cell column) value := rfl

theorem truth_atLeast (value : Cell) :
    (atLeast column value).truth cell = compared (fun c v => Cell.le v c) (cell column) value := rfl

theorem truth_atMost (value : Cell) :
    (atMost column value).truth cell = compared (fun c v => Cell.le c v) (cell column) value := rfl

/-- A condition whose truth is known holds if it is true. -/
theorem holds_of_truth {condition : Condition} {p : Bool} (h : condition.truth cell = some p) :
    condition.holds cell = p := by
  rw [holds, h]
  cases p <;> rfl

/-- A condition whose truth is known fails if it is false. -/
theorem fails_of_truth {condition : Condition} {p : Bool} (h : condition.truth cell = some p) :
    condition.fails cell = !p := by
  rw [fails, h]
  cases p <;> rfl

theorem truth_equals_int {a : Int64} (h : cell column = .int a) (b : Int64) :
    (equals column (.int b)).truth cell = some (a == b) := by
  rw [truth_equals, h, compared_int, Cell.agree_int]

theorem holds_equals_int {a : Int64} (h : cell column = .int a) (b : Int64) :
    (equals column (.int b)).holds cell = (a == b) :=
  holds_of_truth (truth_equals_int h b)

theorem holds_equals_text {a : String} (h : cell column = .text a) (b : String) :
    (equals column (.text b)).holds cell = (a == b) := by
  refine holds_of_truth ?_
  rw [truth_equals, h, compared_text, Cell.agree_text]

theorem holds_equals_elim {a : Option Int64} (h : cell column = a.elim .null .int) (b : Int64) :
    (equals column (.int b)).holds cell = (a == some b) := by
  cases a with
  | none =>
    have hnull : cell column = .null := h
    rw [holds, truth_equals, hnull, compared_null]
    rfl
  | some a => exact holds_equals_int h b

theorem fails_equals_int {a : Int64} (h : cell column = .int a) (b : Int64) :
    (equals column (.int b)).fails cell = !(a == b) :=
  fails_of_truth (truth_equals_int h b)

theorem fails_atLeast_int {a : Int64} (h : cell column = .int a) (b : Int64) :
    (atLeast column (.int b)).fails cell = !decide (b ≤ a) := by
  refine fails_of_truth ?_
  rw [truth_atLeast, h, compared_int, Cell.le_int]

theorem fails_atMost_int {a : Int64} (h : cell column = .int a) (b : Int64) :
    (atMost column (.int b)).fails cell = !decide (a ≤ b) := by
  refine fails_of_truth ?_
  rw [truth_atMost, h, compared_int, Cell.le_int]

theorem fails_isNull_elim {a : Option Int64} (h : cell column = a.elim .null .int) :
    (isNull column).fails cell = a.isSome := by
  have htruth : (isNull column).truth cell = some (cell column == .null) := rfl
  rw [fails_of_truth htruth, h]
  cases a <;> rfl

theorem fails_isNotNull_elim {a : Option Int64} (h : cell column = a.elim .null .int) :
    (isNotNull column).fails cell = a.isNone := by
  have htruth : (isNotNull column).truth cell = some (cell column != .null) := rfl
  rw [fails_of_truth htruth, h]
  cases a <;> rfl

/-! Conditions are converted to the columns that they name before they are tested. -/

section Converting

variable {affinity : String → Affinity}

theorem holds_converted_both (left right : Condition) :
    ((both left right).converted affinity).holds cell =
      ((left.converted affinity).holds cell && (right.converted affinity).holds cell) :=
  holds_both _ _ _

theorem holds_converted_either (left right : Condition) :
    ((either left right).converted affinity).holds cell =
      ((left.converted affinity).holds cell || (right.converted affinity).holds cell) :=
  holds_either _ _ _

theorem converted_int (h : affinity column = .integer) (b : Int64) :
    (equals column (.int b)).converted affinity = equals column (.int b) := by
  have hconverted : (equals column (.int b)).converted affinity =
      equals column ((affinity column).operand (.int b)) := rfl
  rw [hconverted, h, Affinity.operand_int]

theorem converted_text (h : affinity column = .text) (b : String) :
    (equals column (.text b)).converted affinity = equals column (.text b) := by
  have hconverted : (equals column (.text b)).converted affinity =
      equals column ((affinity column).operand (.text b)) := rfl
  rw [hconverted, h, Affinity.operand_text]

end Converting

end Condition

end Storage

/-- Whether a sector's row meets a condition. -/
theorem Records.meets_sectorTable (r : Records) (condition : Condition) (s : Sector) :
    r.sectorTable.meets condition s.row =
      (condition.converted Schema.sectors.affinity).holds (Schema.sectors.cell s.row) := rfl

/-- Whether an organization's row meets a condition. -/
theorem Records.meets_organizationTable (r : Records) (condition : Condition) (o : Organization) :
    r.organizationTable.meets condition o.row =
      (condition.converted Schema.organizations.affinity).holds
        (Schema.organizations.cell o.row) := rfl

namespace Sector

variable (s : Sector) (tenant : TenantId)

theorem meets_code (r : Records) (code : String) :
    r.sectorTable.meets (textOf tenant "code" code) s.row =
      (s.tenant == tenant && s.code == code) := by
  simp [Records.meets_sectorTable, textOf, Condition.holds_converted_both, Condition.converted_int,
    Condition.converted_text, Condition.holds_equals_int, Condition.holds_equals_text]

theorem meets_label (r : Records) (label : String) :
    r.sectorTable.meets (textOf tenant "label" label) s.row =
      (s.tenant == tenant && s.label == label) := by
  simp [Records.meets_sectorTable, textOf, Condition.holds_converted_both, Condition.converted_int,
    Condition.converted_text, Condition.holds_equals_int, Condition.holds_equals_text]

theorem meets_id (r : Records) (id : SectorId) :
    r.sectorTable.meets (numberOf tenant "id" id) s.row = (s.tenant == tenant && s.id == id) := by
  simp [Records.meets_sectorTable, numberOf, Condition.holds_converted_both,
    Condition.converted_int, Condition.holds_equals_int]

theorem meets_org (r : Records) (org : OrganizationId) :
    r.sectorTable.meets (numberOf tenant "org_id" org) s.row =
      (s.tenant == tenant && s.org == org) := by
  simp [Records.meets_sectorTable, numberOf, Condition.holds_converted_both,
    Condition.converted_int, Condition.holds_equals_int]

theorem meets_root (r : Records) (org : OrganizationId) :
    r.sectorTable.meets
        (.both (numberOf tenant "org_id" org) (.equals "has_parent" (.int 0))) s.row =
      (s.tenant == tenant && s.org == org && !s.hasParent) := by
  have hflag : (Schema.flagNumber s.hasParent == 0) = !s.hasParent := by
    cases s.hasParent <;> rfl
  simp [Records.meets_sectorTable, numberOf, Condition.holds_converted_both,
    Condition.converted_int, Condition.holds_equals_int, hflag]

theorem meets_gone (r : Records) (id : SectorId) :
    r.sectorTable.meets
        (.both (.equals "tenant_id" (.int tenant))
          (.either (.equals "id" (.int id)) (.equals "parent_id" (.int id)))) s.row =
      (s.tenant == tenant && (s.id == id || s.parent == some id)) := by
  have hparent : (Condition.equals "parent_id" (.int id)).holds (Schema.sectors.cell s.row) =
      (s.parent == some id) :=
    Condition.holds_equals_elim (by simp) id
  simp [Records.meets_sectorTable, Condition.holds_converted_both,
    Condition.holds_converted_either, Condition.converted_int, Condition.holds_equals_int, hparent]

theorem meets_owner (r : Records) (org : OrganizationId) :
    r.sectorTable.meets (.equals "org_id" (.int org)) s.row = (s.org == org) := by
  simp [Records.meets_sectorTable, Condition.converted_int, Condition.holds_equals_int]

end Sector

namespace Organization

variable (o : Organization) (tenant : TenantId)

theorem meets_code (r : Records) (code : String) :
    r.organizationTable.meets (textOf tenant "code" code) o.row =
      (o.tenant == tenant && o.code == code) := by
  simp [Records.meets_organizationTable, textOf, Condition.holds_converted_both,
    Condition.converted_int, Condition.converted_text, Condition.holds_equals_int,
    Condition.holds_equals_text]

theorem meets_label (r : Records) (label : String) :
    r.organizationTable.meets (textOf tenant "label" label) o.row =
      (o.tenant == tenant && o.label == label) := by
  simp [Records.meets_organizationTable, textOf, Condition.holds_converted_both,
    Condition.converted_int, Condition.converted_text, Condition.holds_equals_int,
    Condition.holds_equals_text]

theorem meets_tenant (r : Records) :
    r.organizationTable.meets (.equals "tenant_id" (.int tenant)) o.row = (o.tenant == tenant) := by
  simp [Records.meets_organizationTable, Condition.converted_int, Condition.holds_equals_int]

end Organization

/-! ## New rows -/

namespace Schema

theorem organizations_columns : organizations.columns = [
    { name := "tenant_id", affinity := .integer, required := true },
    { name := "code", affinity := .text, required := true },
    { name := "label", affinity := .text, required := true },
    { name := "type", affinity := .text, required := true },
    { name := "status", affinity := .integer, required := true }] := rfl

theorem sectors_columns : sectors.columns = [
    { name := "tenant_id", affinity := .integer, required := true },
    { name := "org_id", affinity := .integer, required := true },
    { name := "code", affinity := .text, required := true },
    { name := "label", affinity := .text, required := true },
    { name := "parent_id", affinity := .integer },
    { name := "has_parent", affinity := .integer, required := true },
    { name := "depth", affinity := .integer, required := true },
    { name := "status", affinity := .integer, required := true }] := rfl

/-- The message of a second organization with the code of another. -/
def organizationCodeDetail : String :=
  "UNIQUE constraint failed: organizations.tenant_id, organizations.code"

/-- The message of a second organization with the label of another. -/
def organizationLabelDetail : String :=
  "UNIQUE constraint failed: organizations.tenant_id, organizations.label"

/-- The message of a second sector with the code of another. -/
def sectorCodeDetail : String :=
  "UNIQUE constraint failed: sectors.code"

/-- The message of a second sector with the label of another. -/
def sectorLabelDetail : String :=
  "UNIQUE constraint failed: sectors.tenant_id, sectors.label"

theorem flagNumber_beq_zero (flagged : Bool) : (flagNumber flagged == 0) = !flagged := by
  cases flagged <;> rfl

theorem flagNumber_beq_one (flagged : Bool) : (flagNumber flagged == 1) = flagged := by
  cases flagged <;> rfl

theorem uniqueDetail_eq :
    organizations.uniqueDetail ["tenant_id", "code"] = organizationCodeDetail ∧
    organizations.uniqueDetail ["tenant_id", "label"] = organizationLabelDetail ∧
    sectors.uniqueDetail ["code"] = sectorCodeDetail ∧
    sectors.uniqueDetail ["tenant_id", "label"] = sectorLabelDetail := by
  decide

end Schema

theorem Status.number_bounds (status : Status) : 0 ≤ status.number ∧ status.number ≤ 3 := by
  cases status <;> decide

theorem Status.fails_statusCheck {status : Status} {cell : String → Cell}
    {affinity : String → Affinity} (haffinity : affinity "status" = .integer)
    (h : cell "status" = .int status.number) :
    (Schema.statusCheck.condition.converted affinity).fails cell = false := by
  simp [Schema.statusCheck, Condition.converted, haffinity, Condition.fails_both,
    Condition.fails_atLeast_int h, Condition.fails_atMost_int h, status.number_bounds]

namespace Sector

variable (s : Sector)

theorem missingCell? (concerns : String → Bool) :
    Schema.sectors.missingCell? concerns s.row = none := by
  simp [Definition.missingCell?, Schema.sectors_columns]

/-- The cell in which a depth is stored, as a number. -/
theorem toInt_depth : (Int64.ofNat s.depth.toNat).toInt = s.depth.toNat :=
  Int64.toInt_ofNat_of_lt (by have := s.depth.toNat_lt; omega)

theorem depth_nonneg : 0 ≤ Int64.ofNat s.depth.toNat := by
  rw [Int64.le_iff_toInt_le, s.toInt_depth]
  exact Int.natCast_nonneg _

theorem depth_cell_eq_zero_iff : Int64.ofNat s.depth.toNat = 0 ↔ s.depth = 0 := by
  rw [← Int64.toInt_inj, s.toInt_depth, ← UInt32.toNat_inj]
  exact Int.natCast_eq_zero

theorem one_le_depth_cell_iff : 1 ≤ Int64.ofNat s.depth.toNat ↔ s.depth ≠ 0 := by
  rw [Int64.le_iff_toInt_le, s.toInt_depth, ne_eq, ← UInt32.toNat_inj, Int64.toInt_one]
  simp only [UInt32.toNat_zero]
  omega

theorem fails_flagCheck :
    ((Condition.oneOf "has_parent" [.int 0, .int 1]).converted Schema.sectors.affinity).fails
      (Schema.sectors.cell s.row) = false := by
  simp only [Condition.converted, Condition.fails, Condition.truth, Condition.compared, cell_row]
  cases s.hasParent <;> simp [Schema.flagNumber]

theorem fails_depthCheck :
    ((Condition.atLeast "depth" (.int 0)).converted Schema.sectors.affinity).fails
      (Schema.sectors.cell s.row) = false := by
  have h : Schema.sectors.cell s.row "depth" = .int (Int64.ofNat s.depth.toNat) := by simp
  simp [Condition.converted, Condition.fails_atLeast_int h, s.depth_nonneg]

theorem fails_parentCheck :
    (Schema.parentCheck.condition.converted Schema.sectors.affinity).fails
      (Schema.sectors.cell s.row) = !decide (Shaped s.parent s.hasParent s.depth) := by
  have hflag : Schema.sectors.cell s.row "has_parent" = .int (Schema.flagNumber s.hasParent) := by
    simp
  have hparent : Schema.sectors.cell s.row "parent_id" = s.parent.elim .null .int := by simp
  have hdepth : Schema.sectors.cell s.row "depth" = .int (Int64.ofNat s.depth.toNat) := by simp
  have hcondition : Schema.parentCheck.condition = .either
      (.both (.both (.equals "has_parent" (.int 0)) (.isNull "parent_id"))
        (.equals "depth" (.int 0)))
      (.both (.both (.equals "has_parent" (.int 1)) (.isNotNull "parent_id"))
        (.atLeast "depth" (.int 1))) := rfl
  rw [hcondition]
  simp only [Condition.converted, Schema.sectors_affinity,
    Affinity.operand_int, Condition.fails_either, Condition.fails_both,
    Condition.fails_equals_int hflag, Condition.fails_isNull_elim hparent,
    Condition.fails_isNotNull_elim hparent, Condition.fails_equals_int hdepth,
    Condition.fails_atLeast_int hdepth, one_le_depth_cell_iff]
  have hzero : (Int64.ofNat s.depth.toNat == 0) = decide (s.depth = 0) := by
    simp only [← s.depth_cell_eq_zero_iff]
    rfl
  rw [hzero, Schema.flagNumber_beq_zero, Schema.flagNumber_beq_one]
  -- both sides depend on three facts about the sector only
  by_cases h : s.depth = 0 <;> cases s.hasParent <;> cases s.parent <;> simp [Shaped, h]

/-- The one check that can fail is the one that ties a parent to a depth. -/
theorem failedCheck? :
    Schema.sectors.failedCheck? (fun _ => true) s.row =
      if Shaped s.parent s.hasParent s.depth then none
      else some (.check Schema.parentCheck.text) := by
  have hchecks : Schema.sectors.checks = [
      { text := "has_parent IN (0, 1)", condition := .oneOf "has_parent" [.int 0, .int 1] },
      { text := "depth >= 0", condition := .atLeast "depth" (.int 0) },
      Schema.statusCheck, Schema.parentCheck] := rfl
  have hstatus : (Schema.statusCheck.condition.converted Schema.sectors.affinity).fails
      (Schema.sectors.cell s.row) = false :=
    s.status.fails_statusCheck (by simp) (by simp)
  have hconcerned : (Schema.parentCheck.condition.columns.any fun _ => true) = true := rfl
  simp only [Definition.failedCheck?, hchecks, List.find?_cons, fails_flagCheck, fails_depthCheck,
    hstatus, fails_parentCheck, hconcerned, Bool.and_false, Bool.true_and]
  by_cases hs : Shaped s.parent s.hasParent s.depth <;> simp [hs]

/-- Two sectors agree where a group of unique columns says that no two may. -/
theorem agree_row (a b : Sector) :
    Schema.sectors.agree ["tenant_id", "label"] a.row b.row =
      (a.tenant == b.tenant && a.label == b.label) ∧
    Schema.sectors.agree ["code"] a.row b.row = (a.code == b.code) := by
  simp [Definition.agree]

/-- What the table of sectors finds wrong with a new sector beside others. -/
def fault? (others : List Sector) (s : Sector) : Option Fault :=
  if ¬ Shaped s.parent s.hasParent s.depth then some (.check Schema.parentCheck.text)
  else if others.any fun x => s.tenant == x.tenant && s.label == x.label then
    some (.notUnique Schema.sectorLabelDetail)
  else if others.any fun x => s.code == x.code then some (.notUnique Schema.sectorCodeDetail)
  else none

theorem fault?_eq (others : List Sector) (s : Sector) :
    s.fault? others =
      if ¬ Shaped s.parent s.hasParent s.depth then some (.check Schema.parentCheck.text)
      else if ∃ x ∈ others, x.tenant = s.tenant ∧ x.label = s.label then
        some (.notUnique Schema.sectorLabelDetail)
      else if ∃ x ∈ others, x.code = s.code then some (.notUnique Schema.sectorCodeDetail)
      else none := by
  simp only [fault?, List.any_eq_true, Bool.and_eq_true, beq_iff_eq, @eq_comm _ s.tenant,
    @eq_comm _ s.label, @eq_comm _ s.code]

theorem fault?_eq_none {others : List Sector} (h : s.fault? others = none) :
    Shaped s.parent s.hasParent s.depth ∧
      (∀ x ∈ others, x.tenant = s.tenant → x.label ≠ s.label) ∧ ∀ x ∈ others, x.code ≠ s.code := by
  rw [fault?_eq] at h
  split at h
  · cases h
  · rename_i hshaped
    split at h
    · cases h
    · rename_i hlabel
      split at h
      · cases h
      · rename_i hcode
        exact ⟨not_not.mp hshaped, fun x hx htenant heq => hlabel ⟨x, hx, htenant, heq⟩,
          fun x hx heq => hcode ⟨x, hx, heq⟩⟩

theorem rowFault?_new (others : List Sector) :
    Schema.sectors.rowFault? true (fun _ => true) (others.map row) s.row = s.fault? others := by
  -- the group declared last is compared first
  have huniques : Schema.sectors.uniques.reverse = [["tenant_id", "label"], ["code"]] := rfl
  simp only [Definition.rowFault?, missingCell?, failedCheck?, Definition.sharedGroup?, huniques,
    List.any_map, Function.comp_def, agree_row, List.find?_cons, List.find?_nil, List.any_cons,
    Bool.true_or, Bool.true_and, fault?]
  by_cases hs : Shaped s.parent s.hasParent s.depth
  · cases hl : others.any fun x => s.tenant == x.tenant && s.label == x.label <;>
      cases hc : others.any fun x => s.code == x.code <;>
      simp [hs, Schema.uniqueDetail_eq]
  · simp [hs]

/-- What the table of sectors finds wrong with a new label of a sector beside others. -/
theorem rowFault?_label (others : List Sector) :
    Schema.sectors.rowFault? true (Schema.sectors.sameColumn "label") (others.map row) s.row =
      if others.any fun x => s.tenant == x.tenant && s.label == x.label then
        some (.notUnique Schema.sectorLabelDetail)
      else none := by
  have huniques : Schema.sectors.uniques.reverse = [["tenant_id", "label"], ["code"]] := rfl
  -- checks are made again only where a column they name changes
  have hchecks : (Schema.sectors.checks.any fun k =>
      k.condition.columns.any (Schema.sectors.sameColumn "label")) = false := by decide
  have hchecked : Schema.sectors.failedCheck? (Schema.sectors.sameColumn "label") s.row = none := by
    simp only [Definition.failedCheck?, Option.map_eq_none_iff, List.find?_eq_none]
    intro k hk
    simp [List.any_eq_false.mp hchecks k hk]
  have hconcerned : ["tenant_id", "label"].any (Schema.sectors.sameColumn "label") = true ∧
      ["code"].any (Schema.sectors.sameColumn "label") = false := by decide
  simp only [Definition.rowFault?, missingCell?, hchecked, Definition.sharedGroup?, huniques,
    List.any_map, Function.comp_def, agree_row, List.find?_cons, hconcerned]
  cases others.any fun x => s.tenant == x.tenant && s.label == x.label <;>
    simp [Schema.uniqueDetail_eq]

end Sector

namespace Organization

variable (o : Organization)

theorem missingCell? (concerns : String → Bool) :
    Schema.organizations.missingCell? concerns o.row = none := by
  simp [Definition.missingCell?, Schema.organizations_columns]

/-- No check fails: kinds and statuses are stored under names and numbers that the table knows. -/
theorem failedCheck? (concerns : String → Bool) :
    Schema.organizations.failedCheck? concerns o.row = none := by
  have hkind : ((Condition.oneOf "type"
      [.text "lxsi", .text "bu", .text "community", .text "enterprise"]).converted
        Schema.organizations.affinity).fails (Schema.organizations.cell o.row) = false := by
    simp only [Condition.converted, Condition.fails, Condition.truth, Condition.compared, cell_row]
    cases o.kind <;> simp [OrganizationKind.name]
  have hstatus : (Schema.statusCheck.condition.converted Schema.organizations.affinity).fails
      (Schema.organizations.cell o.row) = false :=
    o.status.fails_statusCheck (by simp) (by simp)
  have hchecks : Schema.organizations.checks = [
      { text := "type IN ('lxsi', 'bu', 'community', 'enterprise')"
        condition :=
          .oneOf "type" [.text "lxsi", .text "bu", .text "community", .text "enterprise"] },
      Schema.statusCheck] := rfl
  simp [Definition.failedCheck?, hchecks, hkind, hstatus]

theorem agree_row (a b : Organization) :
    Schema.organizations.agree ["tenant_id", "label"] a.row b.row =
      (a.tenant == b.tenant && a.label == b.label) ∧
    Schema.organizations.agree ["tenant_id", "code"] a.row b.row =
      (a.tenant == b.tenant && a.code == b.code) := by
  simp [Definition.agree]

/-- What the table of organizations finds wrong with a new organization beside others. -/
def fault? (others : List Organization) (o : Organization) : Option Fault :=
  if others.any fun x => o.tenant == x.tenant && o.label == x.label then
    some (.notUnique Schema.organizationLabelDetail)
  else if others.any fun x => o.tenant == x.tenant && o.code == x.code then
    some (.notUnique Schema.organizationCodeDetail)
  else none

theorem fault?_eq (others : List Organization) (o : Organization) :
    o.fault? others =
      if ∃ x ∈ others, x.tenant = o.tenant ∧ x.label = o.label then
        some (.notUnique Schema.organizationLabelDetail)
      else if ∃ x ∈ others, x.tenant = o.tenant ∧ x.code = o.code then
        some (.notUnique Schema.organizationCodeDetail)
      else none := by
  simp only [fault?, List.any_eq_true, Bool.and_eq_true, beq_iff_eq, @eq_comm _ o.tenant,
    @eq_comm _ o.label, @eq_comm _ o.code]

theorem fault?_eq_none {others : List Organization} (h : o.fault? others = none) :
    (∀ x ∈ others, x.tenant = o.tenant → x.label ≠ o.label) ∧
      ∀ x ∈ others, x.tenant = o.tenant → x.code ≠ o.code := by
  rw [fault?_eq] at h
  split at h
  · cases h
  · rename_i hlabel
    split at h
    · cases h
    · rename_i hcode
      exact ⟨fun x hx htenant heq => hlabel ⟨x, hx, htenant, heq⟩,
        fun x hx htenant heq => hcode ⟨x, hx, htenant, heq⟩⟩

theorem rowFault?_new (others : List Organization) :
    Schema.organizations.rowFault? true (fun _ => true) (others.map row) o.row =
      o.fault? others := by
  have huniques : Schema.organizations.uniques.reverse =
      [["tenant_id", "label"], ["tenant_id", "code"]] := rfl
  simp only [Definition.rowFault?, missingCell?, failedCheck?, Definition.sharedGroup?, huniques,
    List.any_map, Function.comp_def, agree_row, List.find?_cons, List.find?_nil, List.any_cons,
    Bool.true_or, Bool.true_and, fault?]
  cases hl : others.any fun x => o.tenant == x.tenant && o.label == x.label <;>
    cases hc : others.any fun x => o.tenant == x.tenant && o.code == x.code <;>
    simp [Schema.uniqueDetail_eq]

/-- What the table of organizations finds wrong with a new label of an organization beside
others. -/
theorem rowFault?_label (others : List Organization) :
    Schema.organizations.rowFault? true (Schema.organizations.sameColumn "label")
        (others.map row) o.row =
      if others.any fun x => o.tenant == x.tenant && o.label == x.label then
        some (.notUnique Schema.organizationLabelDetail)
      else none := by
  have huniques : Schema.organizations.uniques.reverse =
      [["tenant_id", "label"], ["tenant_id", "code"]] := rfl
  have hconcerned :
      ["tenant_id", "label"].any (Schema.organizations.sameColumn "label") = true ∧
      ["tenant_id", "code"].any (Schema.organizations.sameColumn "label") = false := by
    decide
  simp only [Definition.rowFault?, missingCell?, failedCheck?, Definition.sharedGroup?, huniques,
    List.any_map, Function.comp_def, agree_row, List.find?_cons, hconcerned]
  cases others.any fun x => o.tenant == x.tenant && o.label == x.label <;>
    simp [Schema.uniqueDetail_eq]

end Organization

/-! ## Owners -/

namespace Records

variable (r : Records)

/-- Whether the owner of every sector is stored. -/
def hasOwners (r : Records) : Bool :=
  r.sectors.all fun s => r.organizations.any fun o => o.id == s.org

theorem referenceHolds_database :
    r.database.referenceHolds r.sectorTable
      { column := "org_id", table := "organizations", key := "id" } = r.hasOwners := by
  have hpart : Schema.sectors.part = .main := rfl
  have hkey : Schema.organizations.identifies "id" = true := by decide
  -- a reference holds at once where its cell is null, which an owner never is
  have hnull (s : Sector) : (Cell.int s.org == .null) = false := by simp
  simp only [Database.referenceHolds, sectorTable_definition, hpart, tableIn?_database,
    organizationTable_definition, hkey, sectorTable_rows, sectorTable_cell, List.all_map]
  simp [Function.comp_def, Database.hasCell, List.any_map, hasOwners, hnull]

/-- The references from and to either table hold if every sector's owner is stored. -/
theorem referencesHold_database :
    r.database.referencesHold Schema.organizations = r.hasOwners ∧
    r.database.referencesHold Schema.sectors = r.hasOwners := by
  rw [← referenceHolds_database]
  simp [Database.referencesHold, database, organizationTable, sectorTable, Schema.organizations,
    Schema.sectors, Text.sameName, Text.foldName]

/-- Putting a changed table of sectors into a database changes the sectors. -/
theorem setTable_sectorTable {r r' : Records}
    (horganizations : r'.organizationTable = r.organizationTable) :
    r.database.setTable r'.sectorTable = r'.database := by
  simp [Database.setTable, database, horganizations, Database.sameTable, Schema.organizations,
    Schema.sectors, Text.sameName, Text.foldName]

/-- Putting a changed table of organizations into a database changes the organizations. -/
theorem setTable_organizationTable {r r' : Records} (hsectors : r'.sectorTable = r.sectorTable) :
    r.database.setTable r'.organizationTable = r'.database := by
  simp [Database.setTable, database, hsectors, Database.sameTable, Schema.organizations,
    Schema.sectors, Text.sameName, Text.foldName]

theorem Sound.hasOwners {r : Records} (h : r.Sound) : r.hasOwners = true := by
  simpa [Records.hasOwners] using h.owned

end Records

end SectorForest
