import Mathlib.Data.List.DropRight
import SectorForest.Proofs.Lineage

/-!
# Texts in their normal form

`IsNormal` says of a text that nothing is left to do when it is brought into its normal form. The
service stores nothing else as the code or label of an organization or as the label of a sector:
`Records.Normal`. The code of a root is that of its organization, and so is normal too; that of any
other sector is stored as the source of codes makes it, whatever it is.
-/

namespace SectorForest

/-! ## Trimming -/

namespace Text

/-- A text without blanks at its beginning has none there either when its end is trimmed. -/
theorem dropWhile_rdropWhile {cs : List Char} (h : cs.dropWhile isBlank = cs) :
    (cs.rdropWhile isBlank).dropWhile isBlank = cs.rdropWhile isBlank := by
  rw [List.dropWhile_eq_self_iff] at h ⊢
  intro hlength
  have hprefix : cs.rdropWhile isBlank <+: cs := List.rdropWhile_prefix _ _
  -- what is left begins with the same character
  have hhead := hprefix.getElem hlength
  rw [hhead]
  exact h (hlength.trans_le hprefix.length_le)

theorem trimChars_trimChars (cs : List Char) : trimChars (trimChars cs) = trimChars cs := by
  have hbegin : (cs.dropWhile isBlank).dropWhile isBlank = cs.dropWhile isBlank :=
    List.dropWhile_idempotent _ _
  have htrim (cs : List Char) : trimChars cs = (cs.dropWhile isBlank).rdropWhile isBlank := rfl
  rw [htrim (trimChars cs), htrim cs, dropWhile_rdropWhile hbegin]
  exact List.rdropWhile_idempotent _ _

@[simp] theorem trim_trim (text : String) : trim (trim text) = trim text := by
  rw [trim, trim, String.toList_ofList, trimChars_trimChars]

end Text

/-! ## Normal forms -/

/-- A code or label as it is stored: without blanks at its ends, not empty and not too long. -/
structure IsNormal (text : String) : Prop where
  trimmed : Text.trim text = text
  nonempty : text ≠ ""
  short : text.length ≤ maxTextLength

variable {field : TextField} {text chosen : String}

/-- A normal text is its own normal form. -/
theorem IsNormal.normalize_eq (h : IsNormal text) (field : TextField) :
    normalize field text = .ok text := by
  simp only [normalize, h.trimmed, String.isEmpty_iff, h.nonempty, if_false]
  exact if_neg (Nat.not_lt.mpr h.short)

/-- What a normal form is, and that it is normal. -/
theorem normalize_eq_ok (h : normalize field text = .ok chosen) :
    chosen = Text.trim text ∧ IsNormal chosen := by
  simp only [normalize, String.isEmpty_iff] at h
  split at h
  · cases h
  · rename_i hnonempty
    split at h
    · cases h
    · rename_i hshort
      cases h
      exact ⟨rfl, Text.trim_trim text, hnonempty, Nat.not_lt.mp hshort⟩

/-! ## Stored texts -/

namespace Records

/-- The texts that callers chose are stored in their normal form. -/
structure Normal (r : Records) : Prop where
  organization_code : ∀ o ∈ r.organizations, IsNormal o.code
  organization_label : ∀ o ∈ r.organizations, IsNormal o.label
  sector_label : ∀ s ∈ r.sectors, IsNormal s.label

theorem normal_empty : Normal {} := by
  constructor <;> simp

variable {r r' : Records} {newCode : String}

theorem Normal.addOrganization (h : r.Normal) {o : NewOrganization} (hcode : IsNormal o.code)
    (hlabel : IsNormal o.label) : (r.addOrganization o).Normal where
  __ := h
  organization_code := by
    refine List.forall_mem_append.mpr ⟨h.organization_code, ?_⟩
    exact List.forall_mem_singleton.mpr hcode
  organization_label := by
    refine List.forall_mem_append.mpr ⟨h.organization_label, ?_⟩
    exact List.forall_mem_singleton.mpr hlabel

theorem Normal.addSector (h : r.Normal) {s : NewSector} (hlabel : IsNormal s.label) :
    (r.addSector s).Normal where
  __ := h
  sector_label := by
    refine List.forall_mem_append.mpr ⟨h.sector_label, ?_⟩
    exact List.forall_mem_singleton.mpr hlabel

theorem Normal.relabelSector (h : r.Normal) (tenant : TenantId) (id : SectorId) {label : String}
    (hlabel : IsNormal label) : (r.relabelSector tenant id label).Normal where
  __ := h
  sector_label := by
    refine List.forall_mem_map.mpr fun s hs => ?_
    split
    · exact hlabel
    · exact h.sector_label s hs

theorem Normal.relabelOrganization (h : r.Normal) (tenant : TenantId) (code : String)
    {label : String} (hlabel : IsNormal label) :
    (r.relabelOrganization tenant code label).Normal where
  __ := h
  organization_code := by
    refine List.forall_mem_map.mpr fun o ho => ?_
    split <;> exact h.organization_code o ho
  organization_label := by
    refine List.forall_mem_map.mpr fun o ho => ?_
    split
    · exact hlabel
    · exact h.organization_label o ho

theorem Normal.removeSectors (h : r.Normal) (gone : Sector → Bool) :
    (r.removeSectors gone).Normal where
  __ := h
  sector_label := fun s hs => h.sector_label s (List.mem_of_mem_filter hs)

theorem Normal.removeOrganization (h : r.Normal) (tenant : TenantId) (code : String) :
    (r.removeOrganization tenant code).Normal where
  __ := h
  organization_code := fun o ho => h.organization_code o (List.mem_of_mem_filter ho)
  organization_label := fun o ho => h.organization_label o (List.mem_of_mem_filter ho)

/-- Every effect stores normal texts. -/
theorem Effect.normal {mutation : Mutation} {a : mutation.Answer}
    (h : r.Effect newCode mutation a r') (hn : r.Normal) : r'.Normal := by
  cases h with
  | createOrganization hcode hlabel _ =>
    have hcode := (normalize_eq_ok hcode).2
    have hlabel := (normalize_eq_ok hlabel).2
    -- the root has the label of its organization
    exact (hn.addOrganization hcode hlabel).addSector hlabel
  | createSector hgrows => exact hn.addSector (normalize_eq_ok hgrows.label_eq).2
  | createSectorIn _ hgrows => exact hn.addSector (normalize_eq_ok hgrows.label_eq).2
  | renameSector _ hlabel _ => exact hn.relabelSector _ _ (normalize_eq_ok hlabel).2
  | deleteSector _ => exact hn.removeSectors _
  | keepLabel _ _ => exact hn
  | renameOrganization _ hlabel _ => exact hn.relabelOrganization _ _ (normalize_eq_ok hlabel).2
  | deleteOrganization _ => exact (hn.removeSectors _).removeOrganization _ _

/-- The code of a root is normal. -/
theorem Normal.root_code (h : r.Normal) (hr : r.Sound) (hl : r.Lineage) {s : Sector}
    (hs : s ∈ r.sectors) (hroot : s.hasParent = false) : IsNormal s.code := by
  obtain ⟨o, ho, hid⟩ := hr.owned s hs
  rw [← (hl.root_like s hs hroot).2 o ho hid]
  exact h.organization_code o ho

end Records

theorem Session.Reachable.normal {s : Session} (h : s.Reachable) : s.records.Normal :=
  (h.records_induction Records.normal_empty fun _ _ _ _ _ _ hn heffect => heffect.normal hn).2

end SectorForest
