import SectorForest.Proofs.Decision

/-!
# What becomes of a text that a caller chooses

A code or label is brought into its normal form before anything else is done with it. `Text.Trims`
says which blanks go and which stay without saying how they are found, and `normalize_ok_iff` which
texts have a normal form. As the service stores nothing but normal forms, stored texts are those
that are left alone: `Stored`. And as it looks at nothing but normal forms, callers may put blanks
around a text as they like: `Backend.IgnoresBlanks`.
-/

namespace SectorForest

/-! ## Trimming -/

namespace Text

/-- Taking the blanks at both ends of a text away leaves `core`. -/
structure Trims (text core : List Char) : Prop where
  split : ∃ front back, text = front ++ core ++ back ∧ (∀ c ∈ front, isBlank c = true) ∧
    ∀ c ∈ back, isBlank c = true
  head : ∀ c ∈ core.head?, isBlank c = false
  last : ∀ c ∈ core.getLast?, isBlank c = false

variable {cs front core : List Char} {text : String}

theorem dropWhile_of_head (h : ∀ c ∈ cs.head?, isBlank c = false) : cs.dropWhile isBlank = cs := by
  cases cs with
  | nil => rfl
  | cons c rest => rw [List.dropWhile_cons_of_neg (by simp [h c rfl])]

theorem head_of_dropWhile (h : cs.dropWhile isBlank = cs) : ∀ c ∈ cs.head?, isBlank c = false := by
  cases cs with
  | nil => rintro _ ⟨⟩
  | cons c rest =>
    rintro _ ⟨⟩
    have hhead := List.dropWhile_eq_self_iff.mp h (Nat.zero_lt_succ _)
    simpa using hhead

/-- What is trimmed begins behind the blanks in front and ends with the last other character. -/
theorem Trims.trimChars_eq (h : Trims cs core) : trimChars cs = core := by
  obtain ⟨⟨front, back, rfl, hfront, hback⟩, hhead, hlast⟩ := h
  have hbegin : (front ++ core ++ back).dropWhile isBlank = (core ++ back).dropWhile isBlank := by
    rw [List.append_assoc, List.dropWhile_append_of_pos hfront]
  have hend : (core ++ back).reverse.dropWhile isBlank = core.reverse := by
    rw [List.reverse_append, List.dropWhile_append_of_pos (by simpa using hback)]
    exact dropWhile_of_head (by simpa using hlast)
  rw [trimChars, hbegin]
  cases core with
  | nil =>
    -- there is nothing but blanks
    rw [List.nil_append, List.dropWhile_eq_nil_iff.mpr hback]
    rfl
  | cons c rest =>
    have hstays : (c :: rest ++ back).dropWhile isBlank = c :: rest ++ back :=
      dropWhile_of_head hhead
    rw [hstays, hend, List.reverse_reverse]

theorem trims_trimChars (cs : List Char) : Trims cs (trimChars cs) where
  split := by
    refine ⟨cs.takeWhile isBlank, (cs.dropWhile isBlank).rtakeWhile isBlank, ?_, ?_, ?_⟩
    · have hrest : trimChars cs ++ (cs.dropWhile isBlank).rtakeWhile isBlank =
          cs.dropWhile isBlank := List.rdropWhile_append_rtakeWhile
      rw [List.append_assoc, hrest, List.takeWhile_append_dropWhile]
    · exact fun c hc => List.mem_takeWhile_imp hc
    · exact fun c hc => List.mem_rtakeWhile_imp hc
  head := head_of_dropWhile (dropWhile_rdropWhile (List.dropWhile_idempotent _ _))
  last := by
    have hend : ((trimChars cs).reverse).dropWhile isBlank = (trimChars cs).reverse := by
      rw [trimChars, List.reverse_reverse]
      exact List.dropWhile_idempotent _ _
    simpa using head_of_dropWhile hend

/-- What is left of a text when it is trimmed, said without trimming it. -/
theorem trims_iff : Trims cs core ↔ trimChars cs = core :=
  ⟨Trims.trimChars_eq, fun h => h ▸ trims_trimChars cs⟩

theorem toList_trim (text : String) : Trims text.toList (trim text).toList := by
  rw [trim, String.toList_ofList]
  exact trims_trimChars _

end Text

/-! ## The texts that have a normal form -/

/-- A text has a normal form exactly if one to fifty characters are left of it when it is
trimmed. -/
theorem normalize_ok_iff (field : TextField) (text : String) :
    (∃ chosen, normalize field text = .ok chosen) ↔
      1 ≤ (Text.trim text).length ∧ (Text.trim text).length ≤ 50 := by
  constructor
  · rintro ⟨chosen, hchosen⟩
    obtain ⟨rfl, hnormal⟩ := normalize_eq_ok hchosen
    refine ⟨Nat.pos_of_ne_zero fun hzero => ?_, hnormal.short⟩
    exact hnormal.nonempty (String.length_eq_zero_iff.mp hzero)
  · rintro ⟨hlong, hshort⟩
    have hnonempty : Text.trim text ≠ "" := by
      intro hempty
      rw [hempty] at hlong
      cases hlong
    have hnotLong : ¬ maxTextLength < (Text.trim text).length := Nat.not_lt.mpr hshort
    rw [normalize_eq, if_neg hnonempty, if_neg hnotLong]
    exact ⟨_, rfl⟩

/-- A text as it may be stored: bringing it into its normal form leaves it alone. -/
structure Stored (text : String) : Prop where
  fixed : ∀ field, normalize field text = .ok text
  nonempty : text ≠ ""
  head : ∀ c ∈ text.toList.head?, Text.isBlank c = false
  last : ∀ c ∈ text.toList.getLast?, Text.isBlank c = false
  short : text.length ≤ 50

theorem IsNormal.stored {text : String} (h : IsNormal text) : Stored text where
  fixed := h.normalize_eq
  nonempty := h.nonempty
  head := by simpa only [h.trimmed] using (Text.toList_trim text).head
  last := by simpa only [h.trimmed] using (Text.toList_trim text).last
  short := h.short

/-! ## Blanks around texts -/

section Blanks

variable {text text' : String} {m : Type → Type} [Monad m]

theorem normalize_congr (h : Text.trim text = Text.trim text') (field : TextField) :
    normalize field text = normalize field text' := by
  rw [normalize, normalize, h]

theorem Backend.normalized_congr (h : Text.trim text = Text.trim text') (field : TextField) :
    normalized (m := m) field text = normalized field text' := by
  rw [normalized, normalized, normalize_congr h]

/-- Over a backend, the operations of the service do the same for any two texts that differ in the
blanks at their ends only. -/
structure Backend.IgnoresBlanks (b : Backend m) : Prop where
  createOrganization {code code' label label' : String} (tenant : TenantId)
    (draft : OrganizationDraft) (hcode : Text.trim code = Text.trim code')
    (hlabel : Text.trim label = Text.trim label') :
    b.createOrganization tenant { draft with code, label } =
      b.createOrganization tenant { draft with code := code', label := label' }
  createSector {label label' : String} (tenant : TenantId) (org : OrganizationId)
    (parentCode : Option String) (hlabel : Text.trim label = Text.trim label') :
    b.createSector tenant org label parentCode = b.createSector tenant org label' parentCode
  createSectorIn {label label' : String} (tenant : TenantId) (code : String) (draft : SectorDraft)
    (hlabel : Text.trim label = Text.trim label') :
    b.createSectorIn tenant code { draft with label } =
      b.createSectorIn tenant code { draft with label := label' }
  renameSector {label label' : String} (tenant : TenantId) (id : SectorId)
    (hlabel : Text.trim label = Text.trim label') :
    b.renameSector tenant id label = b.renameSector tenant id label'
  renameOrganization {label label' : String} (tenant : TenantId) (code : String)
    (hlabel : Text.trim label = Text.trim label') :
    b.renameOrganization tenant code label = b.renameOrganization tenant code label'

variable (b : Backend m)

theorem Backend.addSector_congr (h : Text.trim text = Text.trim text') (tenant : TenantId)
    (org : OrganizationId) (parentCode : Option String) (status : Status) :
    b.addSector tenant org text parentCode status =
      b.addSector tenant org text' parentCode status := by
  rw [addSector, addSector, normalized_congr h]

theorem Backend.ignoresBlanks : b.IgnoresBlanks where
  createOrganization tenant draft hcode hlabel := by
    simp only [Backend.createOrganization, normalized_congr hcode, normalized_congr hlabel]
  createSector tenant org parentCode hlabel := by
    rw [Backend.createSector, Backend.createSector, b.addSector_congr hlabel]
  createSectorIn tenant code draft hlabel := by
    simp only [Backend.createSectorIn, b.addSector_congr hlabel]
  renameSector tenant id hlabel := by
    rw [Backend.renameSector, Backend.renameSector, normalized_congr hlabel]
  renameOrganization tenant code hlabel := by
    rw [Backend.renameOrganization, Backend.renameOrganization, normalized_congr hlabel]

end Blanks

/-! ## Stored texts -/

namespace Session

variable {s : Session}

/-- In a reachable session all texts that callers chose, and the codes of roots, are left alone by
what brings a text into its normal form. That succeeds for the texts of which trimming leaves one to
fifty characters, and once is enough. Blanks at the ends of a text make no difference to any
operation. -/
theorem Reachable.texts_normal (h : s.Reachable) :
    (∀ o ∈ s.records.organizations, Stored o.code ∧ Stored o.label) ∧
    (∀ x ∈ s.records.sectors, Stored x.label ∧ (x.hasParent = false → Stored x.code)) ∧
    (∀ field text,
      Text.Trims text.toList (Text.trim text).toList ∧
      ((∃ chosen, normalize field text = .ok chosen) ↔
        1 ≤ (Text.trim text).length ∧ (Text.trim text).length ≤ 50) ∧
      ∀ chosen, normalize field text = .ok chosen →
        chosen = Text.trim text ∧ normalize field chosen = .ok chosen) ∧
    ∀ {m : Type → Type} [Monad m] (b : Backend m), b.IgnoresBlanks := by
  have hnormal := h.normal
  refine ⟨fun o ho => ?_, fun x hx => ?_, fun field text => ?_, fun b => b.ignoresBlanks⟩
  · exact ⟨(hnormal.organization_code o ho).stored, (hnormal.organization_label o ho).stored⟩
  · refine ⟨(hnormal.sector_label x hx).stored, fun hroot => ?_⟩
    exact (hnormal.root_code h.holds.sound h.lineage hx hroot).stored
  · refine ⟨Text.toList_trim text, normalize_ok_iff field text, fun chosen hchosen => ?_⟩
    obtain ⟨htrim, hchosen⟩ := normalize_eq_ok hchosen
    exact ⟨htrim, hchosen.normalize_eq field⟩

open Records in
/-- The texts of three sectors in a row, and a label with an ideographic space in front of it. -/
theorem texts_normal_chain :
    let s := chain.session ""
    s.Reachable ∧ Stored acme.code ∧ Stored pole.label ∧ Stored acmeRoot.code ∧
    normalize .label "\u3000South\t" = .ok "South" ∧
    s.call (.renameSector 1 2 "\u3000South\t") = s.call (.renameSector 1 2 "South") := by
  intro s
  have hreachable : s.Reachable := reached_chain.reachable ""
  have hrecords : s.records = chain := reached_chain.sound.records_session
  obtain ⟨horganizations, hsectors, hnormalize, hblanks⟩ := hreachable.texts_normal
  rw [hrecords] at horganizations hsectors
  have htrim : Text.trim "\u3000South\t" = Text.trim "South" := by decide
  refine ⟨hreachable, (horganizations acme (by decide)).1, (hsectors pole (by decide)).1,
    (hsectors acmeRoot (by decide)).2 rfl, ?_, ?_⟩
  · obtain ⟨-, hok, hfixed⟩ := hnormalize .label "\u3000South\t"
    obtain ⟨chosen, hchosen⟩ := hok.mpr (by decide)
    rw [hchosen, (hfixed chosen hchosen).1]
    decide
  · exact congrArg s.run ((hblanks backend).renameSector 1 2 htrim)

end Session

end SectorForest
