import SectorForest.Dump
import SectorForest.Proofs.Datum.Printed
import SectorForest.Proofs.Isolation
import SectorForest.Proofs.Opening
import SectorForest.Proofs.Readiness
import SectorForest.Proofs.Refusals
import SectorForest.Proofs.Tree.Written

/-!
# What the command prints

The command opens a database, lists the organizations of one tenant and looks each of them up again
for its tree. Over records of the service nothing of this can fail but a single tree, whose entry
says so, and which neither ends the listing nor touches the other entries. `Records.Lists` spells
out what the list is worth.

What is printed is a text. `Printed` says that the text is JSON for the list and is read as the list
again, and that the codes that are read off it (`printedCodes`) are those of the attached sectors of
the tenant, each of them once.

Which database is opened is up to the configuration. `DatabaseConfig.Names` says that it leads to a
given one, in whatever spelling and with whatever access: the listing asks for no right to write. A
configuration that names a database may still ask for a time to wait that no connection can be told,
and then the command crashes: `Records.dump_crashes_overlong`.
-/

namespace SectorForest

open Storage SectorTree

/-! ## Lists of organizations -/

/-- What is printed of an organization: its own texts, and its tree if it has a root. -/
structure Listed where
  organization : Organization
  tree : Option SectorTree

/-- The tree as it is printed. Where there is none, an error stands in its place. -/
def Listed.treeDatum (entry : Listed) : Datum :=
  match entry.tree with
  | some tree => tree.toDatum
  | none => .record [("error", .text "sector_root_not_found")]

/-- The entry that is printed. -/
def Listed.toDatum (entry : Listed) : Datum :=
  .record [("code", .text entry.organization.code), ("label", .text entry.organization.label),
    ("type", entry.organization.kind.toDatum), ("tree", entry.treeDatum)]

/-- The nodes that an entry shows. -/
def Listed.nodes (entry : Listed) : List SectorTree :=
  entry.tree.elim [] preorder

/-- The nodes that a list shows. -/
def shownNodes (listing : List Listed) : List SectorTree :=
  listing.flatMap Listed.nodes

/-! ### Codes in what is printed -/

namespace Datum

/-- The code in a record, if it has one. -/
def recordCode? (fields : List (String × Datum)) : Option String :=
  match field? fields "code" with
  | some (.text code) => some code
  | _ => none

/-- The codes in a datum: one for each record that has a code. -/
def codes (d : Datum) : List String :=
  d.records.filterMap recordCode?

/-- The codes in the tree of an entry. -/
def entryCodes : Datum → List String
  | .record fields => (field? fields "tree").elim [] codes
  | _ => []

end Datum

/-- The codes of sectors that can be read off a printed text. -/
def printedCodes (text : String) : List String :=
  match Datum.ofJson? text with
  | some (.list entries) => entries.flatMap Datum.entryCodes
  | _ => []

section Codes

open Datum

/-- The datum of a tree has the codes of its nodes, however its fields are ordered. -/
theorem SectorTree.codes_canonical_perm (t : SectorTree) :
    t.toDatum.canonical.codes.Perm (t.preorder.map (·.code)) := by
  induction t using induction_below with
  | h t ih =>
    let below := t.children.map fun c => c.toDatum.canonical
    let all := t.ownFields ++ childFields below
    have hcode : recordCode? (sortFields all) = some t.code := by
      rw [recordCode?, field?_sortFields (nodup_names_own t below)]
      rfl
    have hrecords : (recordsOfFields (sortFields all)).Perm (below.flatMap records) := by
      rw [recordsOfFields_eq, ← flatMap_records_fields t below]
      exact (sortFields_perm all).flatMap_right _
    have hbelow : (below.flatMap codes).Perm
        (t.children.flatMap fun c => c.preorder.map (·.code)) := by
      rw [List.flatMap_map]
      exact List.Perm.flatMap_left _ ih
    rw [canonical_toDatum, codes, records, List.filterMap_cons_some hcode, preorder_eq,
      List.map_cons, List.map_flatMap]
    refine ((hrecords.filterMap _).trans ?_).cons _
    rw [List.filterMap_flatMap]
    exact hbelow

/-- An entry has the codes of the nodes that it shows, and no others. -/
theorem Listed.entryCodes_canonical_perm (entry : Listed) :
    entry.toDatum.canonical.entryCodes.Perm (entry.nodes.map (·.code)) := by
  have hentry : entry.toDatum.canonical.entryCodes = entry.treeDatum.canonical.codes := by
    rw [toDatum, canonical, entryCodes, field?_sortFields]
    · rfl
    · exact of_decide_eq_true rfl
  have herror : (Datum.record [("error", .text "sector_root_not_found")]).canonical.codes = [] := by
    rw [canonical, sortFields, canonicalFields, canonicalFields, List.mergeSort_singleton]
    rfl
  rw [hentry, treeDatum, nodes]
  cases entry.tree with
  | none => exact herror ▸ List.Perm.nil
  | some t => exact t.codes_canonical_perm

theorem printedCodes_perm {text : String} {listing : List Listed}
    (h : ofJson? text = some (Datum.list (listing.map Listed.toDatum)).canonical) :
    (printedCodes text).Perm ((shownNodes listing).map (·.code)) := by
  have hcodes : printedCodes text =
      listing.flatMap fun entry => entry.toDatum.canonical.entryCodes := by
    rw [printedCodes, h, canonical, canonicalItems_eq, List.map_map]
    exact List.flatMap_map ..
  rw [hcodes, shownNodes, List.map_flatMap]
  exact List.Perm.flatMap_left _ fun entry _ => entry.entryCodes_canonical_perm

/-! ### What can be read back -/

theorem SectorTree.eq_of_mem_childFields {children : List Datum} {f : String × Datum}
    (h : f ∈ childFields children) : f = ("children", .list children) := by
  cases children with
  | nil => cases h
  | cons d rest => exact List.mem_singleton.mp h

theorem SectorTree.printable_toDatum (t : SectorTree) : t.toDatum.Printable := by
  induction t using induction_below with
  | h t ih =>
    have hmin : Int64.minValue.toInt ≤ 0 := by decide
    have hmax : t.depth.toNat < UInt64.size := Nat.lt_trans t.depth.toNat_lt (by decide)
    rw [toDatum_eq]
    refine .record (nodup_names_own t _) fun f hf => ?_
    rcases List.mem_append.mp hf with hown | hchild
    · simp only [ownFields, List.mem_cons, List.not_mem_nil, or_false] at hown
      rcases hown with rfl | rfl | rfl | rfl
      · exact .text _
      · exact .text _
      · exact .integer (Int.le_trans hmin (Int.natCast_nonneg _)) (Int.ofNat_lt.mpr hmax)
      · exact .text _
    · rw [eq_of_mem_childFields hchild]
      refine .list fun d hd => ?_
      obtain ⟨c, hc, rfl⟩ := List.mem_map.mp hd
      exact ih c hc

theorem Listed.printable_toDatum (entry : Listed) : entry.toDatum.Printable := by
  have htree : entry.treeDatum.Printable := by
    rw [treeDatum]
    cases entry.tree with
    | none =>
      refine .record (List.nodup_singleton _) fun f hf => ?_
      rw [List.mem_singleton.mp hf]
      exact .text _
    | some t => exact t.printable_toDatum
  refine .record (of_decide_eq_true rfl) fun f hf => ?_
  simp only [List.mem_cons, List.not_mem_nil, or_false] at hf
  rcases hf with rfl | rfl | rfl | rfl
  · exact .text _
  · exact .text _
  · exact .text _
  · exact htree

/-- What is printed of a list denotes it. -/
theorem ofJson?_listing (listing : List Listed) :
    ofJson? ((Datum.list (listing.map Listed.toDatum)).pretty ++ "\n") =
      some (Datum.list (listing.map Listed.toDatum)).canonical := by
  refine Printable.ofJson?_pretty (.list fun d hd => ?_)
  obtain ⟨entry, -, rfl⟩ := List.mem_map.mp hd
  exact entry.printable_toDatum

end Codes

theorem Listed.mem_nodes {entry : Listed} {n : SectorTree} :
    n ∈ entry.nodes ↔ ∃ t, entry.tree = some t ∧ n ∈ t.preorder := by
  cases htree : entry.tree <;> simp [nodes, htree]

/-! ### What a list is worth -/

namespace Records

variable {r : Records} {tenant : TenantId} {o : Organization} {s : Sector}

/-- A list is one of all organizations of a tenant, with all of their sectors that are attached. -/
structure Lists (r : Records) (tenant : TenantId) (listing : List Listed) : Prop where
  /-- There is an entry for each organization of the tenant, and for no other. -/
  organization_iff : ∀ o, (∃ entry ∈ listing, entry.organization = o) ↔
    o ∈ r.organizations ∧ o.tenant = tenant
  /-- The entries stand in the order of the organizations, so that none has two of them. -/
  increasing : listing.Pairwise fun a b => a.organization.id < b.organization.id
  /-- An entry has no tree exactly if the root of its organization is not stored. -/
  rootless_iff : ∀ entry ∈ listing,
    (entry.tree = none ↔ ∀ root, ¬ r.IsRoot entry.organization root)
  /-- A tree is the one of the organization, and shows its sectors as they are stored. -/
  mirrors : ∀ entry ∈ listing, ∀ t, entry.tree = some t → r.treeOf entry.organization = .ok t ∧
    ∃ root, r.IsRoot entry.organization root ∧ r.Mirrors entry.organization root t

/-- The entry of an organization. -/
def entryOf (r : Records) (o : Organization) : Listed where
  organization := o
  tree := build? (r.sectorsOf o.tenant o.id)

/-- The list of the organizations of a tenant. -/
def listing (r : Records) (tenant : TenantId) : List Listed :=
  (r.organizationsOf tenant).map r.entryOf

theorem mem_organizationsOf : o ∈ r.organizationsOf tenant ↔
    o ∈ r.organizations ∧ o.tenant = tenant := by
  simp [organizationsOf]

theorem mem_listing {entry : Listed} : entry ∈ r.listing tenant ↔
    ∃ o ∈ r.organizations, o.tenant = tenant ∧ r.entryOf o = entry := by
  simp [listing, mem_organizationsOf, and_assoc]

/-- A tree that is built for an organization mirrors its sectors. -/
theorem mirrors_of_build? (hr : r.Sound) (hl : r.Lineage) (ho : o ∈ r.organizations)
    {t : SectorTree} (ht : (r.entryOf o).tree = some t) :
    ∃ root, r.IsRoot o root ∧ r.Mirrors o root t := by
  have hsome : ¬∀ root, ¬ r.IsRoot o root := by
    rw [← build?_sectorsOf_eq_none hr hl ho]
    exact fun hnone => nomatch hnone.symm.trans ht
  obtain ⟨root, hroot⟩ := not_forall_not.mp hsome
  obtain ⟨t', hbuild, hdepicts⟩ := exists_depicts hr hl ho hroot
  obtain rfl : t' = t := Option.some.inj (hbuild.symm.trans ht)
  exact ⟨root, hroot, mirrors_of_depicts hr hl ho hroot hdepicts⟩

/-- The nodes of an entry are attached sectors of its organization. -/
theorem exists_copied (hr : r.Sound) (hl : r.Lineage) {entry : Listed}
    (hentry : entry ∈ r.listing tenant) {n : SectorTree} (hn : n ∈ entry.nodes) :
    ∃ s ∈ r.sectors, s.tenant = tenant ∧ s.org = entry.organization.id ∧ r.Attached s ∧
      Copies s n := by
  obtain ⟨o, ho, rfl, rfl⟩ := mem_listing.mp hentry
  obtain ⟨t, ht, hn⟩ := Listed.mem_nodes.mp hn
  obtain ⟨root, -, hmirrors⟩ := mirrors_of_build? hr hl ho ht
  obtain ⟨s, hs, horg, hattached, hcopies⟩ := hmirrors.node_copies n hn
  exact ⟨s, hs, (hl.tenant_eq s hs o ho horg.symm).symm, horg, hattached, hcopies⟩

theorem exists_shown (hr : r.Sound) (hl : r.Lineage) {n : SectorTree}
    (hn : n ∈ shownNodes (r.listing tenant)) :
    ∃ s ∈ r.sectors, s.tenant = tenant ∧ r.Attached s ∧ Copies s n := by
  obtain ⟨entry, hentry, hn⟩ := List.mem_flatMap.mp hn
  obtain ⟨s, hs, htenant, -, hattached, hcopies⟩ := exists_copied hr hl hentry hn
  exact ⟨s, hs, htenant, hattached, hcopies⟩

/-- An attached sector of a tenant is shown. -/
theorem mem_shown_of_attached (hr : r.Sound) (hl : r.Lineage) (hs : s ∈ r.sectors)
    (hattached : r.Attached s) :
    ∃ n ∈ shownNodes (r.listing s.tenant), Copies s n := by
  obtain ⟨o, ho, hid⟩ := hr.owned s hs
  obtain ⟨root, hroot⟩ := exists_root_of_attached hr hl hs hattached hid.symm
  obtain ⟨t, hbuild, hdepicts⟩ := exists_depicts hr hl ho hroot
  have hmirrors := mirrors_of_depicts hr hl ho hroot hdepicts
  obtain ⟨n, hn, hnumber⟩ := mem_ids.mp ((hmirrors.shown_iff s hs hid.symm).mpr hattached)
  -- the node with the sector's number copies no other sector
  obtain ⟨x, hx, -, -, hcopies⟩ := hmirrors.node_copies n hn
  obtain rfl : x = s :=
    distinctBy_number hr.sectors_increasing x hx s hs (hcopies.id_eq.symm.trans hnumber)
  have hentry : r.entryOf o ∈ r.listing x.tenant :=
    mem_listing.mpr ⟨o, ho, hl.tenant_eq x hs o ho hid, rfl⟩
  exact ⟨n, List.mem_flatMap.mpr ⟨_, hentry, Listed.mem_nodes.mpr ⟨t, hbuild, hn⟩⟩, hcopies⟩

theorem increasing_listing (hr : r.Sound) (tenant : TenantId) :
    (r.listing tenant).Pairwise fun a b => a.organization.id < b.organization.id :=
  (hr.organizations_increasing.filter _).map _ fun _ _ h => h

/-- No sector is shown twice: not in one tree, and not in two of them, for a sector belongs to one
organization. -/
theorem nodup_shown_ids (hr : r.Sound) (hl : r.Lineage) (tenant : TenantId) :
    ((shownNodes (r.listing tenant)).map (·.id)).Nodup := by
  rw [shownNodes, List.map_flatMap, List.nodup_flatMap]
  constructor
  · intro entry hentry
    cases htree : entry.tree with
    | none => simp [Listed.nodes, htree]
    | some t =>
      obtain ⟨o, ho, -, rfl⟩ := mem_listing.mp hentry
      obtain ⟨root, -, hmirrors⟩ := mirrors_of_build? hr hl ho htree
      simp only [Listed.nodes, htree, Option.elim_some]
      exact hmirrors.nodup
  · refine (increasing_listing hr tenant).imp_of_mem fun ha hb hlt id hida hidb => ?_
    obtain ⟨n, hn, rfl⟩ := List.mem_map.mp hida
    obtain ⟨m, hm, hid⟩ := List.mem_map.mp hidb
    obtain ⟨s, hs, -, horg, -, hcopies⟩ := exists_copied hr hl ha hn
    obtain ⟨x, hx, -, horg', -, hcopies'⟩ := exists_copied hr hl hb hm
    obtain rfl : s = x := distinctBy_number hr.sectors_increasing s hs x hx
      (hcopies.id_eq.symm.trans (hid.symm.trans hcopies'.id_eq))
    rw [← horg, ← horg'] at hlt
    exact Int64.lt_irrefl hlt

/-- Codes tell sectors apart, and so they tell nodes apart. -/
theorem nodup_shown_codes (hr : r.Sound) (hl : r.Lineage) (tenant : TenantId) :
    ((shownNodes (r.listing tenant)).map (·.code)).Nodup := by
  have hids := nodup_shown_ids hr hl tenant
  refine List.Nodup.map_on (fun n hn m hm hcode => ?_) hids.of_map
  obtain ⟨s, hs, -, -, hcopies⟩ := exists_shown hr hl hn
  obtain ⟨x, hx, -, -, hcopies'⟩ := exists_shown hr hl hm
  have hsame : s = x := hr.sector_codes s hs x hx
    (hcopies.code_eq.symm.trans (hcode.trans hcopies'.code_eq))
  exact List.inj_on_of_nodup_map hids hn hm
    (hcopies.id_eq.trans (hsame ▸ hcopies'.id_eq.symm))

theorem lists_listing (hr : r.Sound) (hl : r.Lineage) (tenant : TenantId) :
    r.Lists tenant (r.listing tenant) where
  organization_iff o := by
    constructor
    · rintro ⟨entry, hentry, rfl⟩
      obtain ⟨o, ho, htenant, rfl⟩ := mem_listing.mp hentry
      exact ⟨ho, htenant⟩
    · rintro ⟨ho, htenant⟩
      exact ⟨r.entryOf o, mem_listing.mpr ⟨o, ho, htenant, rfl⟩, rfl⟩
  increasing := increasing_listing hr tenant
  rootless_iff entry hentry := by
    obtain ⟨o, ho, -, rfl⟩ := mem_listing.mp hentry
    exact build?_sectorsOf_eq_none hr hl ho
  mirrors entry hentry t ht := by
    obtain ⟨o, ho, -, rfl⟩ := mem_listing.mp hentry
    refine ⟨?_, mirrors_of_build? hr hl ho ht⟩
    have hbuild : build? (r.sectorsOf o.tenant o.id) = some t := ht
    simp only [treeOf, entryOf, hbuild]

/-- The stores can work on the tables of records. -/
theorem ready_database (r : Records) : Schema.Ready r.database := by
  have hown : ∀ x ∈ Schema.required, ∃ t ∈ r.database.tables, t.definition = x.1 ∧
      r.database.table? x.1.name = some t := by
    intro x hx
    rcases List.mem_pair.mp hx with rfl | rfl
    · exact ⟨_, List.mem_cons_self, rfl, r.table?_database.1⟩
    · exact ⟨_, List.mem_cons_of_mem _ List.mem_cons_self, rfl, r.table?_database.2⟩
  intro x hx
  obtain ⟨t, ht, hdefinition, hdenoted⟩ := hown x hx
  have hcolumns : ∀ x ∈ Schema.required, x.1.part = .main ∧
      ∀ column ∈ x.2, column ∈ x.1.columnNames := by decide
  obtain ⟨hpart, hcolumns⟩ := hcolumns x hx
  refine ⟨⟨t, ht, hdefinition ▸ hpart, hdefinition ▸ rfl⟩, fun t' ht' column hcolumn => ?_⟩
  obtain rfl : t = t' := Option.some.inj (hdenoted.symm.trans ht')
  exact hdefinition ▸ hcolumns column hcolumn

end Records

/-! ## The list over a session -/

namespace Session

open Records

variable {s : Session} {r : Records} {tenant : TenantId}

/-- What is done for each entry of a list, and changes nothing, is done for all of them. -/
theorem run_mapM_same {α β : Type} {f : α → Serving (StateM Session) β} {g : α → β} {xs : List α}
    (h : ∀ x ∈ xs, s.run (f x) = (.ok (g x), s)) : s.run (xs.mapM f) = (.ok (xs.map g), s) := by
  induction xs with
  | nil => rfl
  | cons x xs ih =>
    rw [List.mapM_cons, run_bind_ok (h x List.mem_cons_self),
      run_bind_ok (ih fun y hy => h y (List.mem_cons_of_mem x hy))]
    rfl

/-- Looked up by its code, a stored organization of the tenant is found again. -/
theorem run_dumpEntry (hdatabase : s.connection.database = r.database) (hr : r.Sound)
    {o : Organization} (ho : o ∈ r.organizationsOf tenant) :
    s.run (do pure (dumpEntry o (← ending (backend.sectorTree tenant o.code)))) =
      (.ok (r.entryOf o).toDatum, s) := by
  obtain ⟨hstored, rfl⟩ := mem_organizationsOf.mp ho
  have htree : s.run (backend.sectorTree o.tenant o.code) =
      (r.reply (.sectorTree o.tenant o.code), s) :=
    inquire_eq hdatabase hr (.sectorTree o.tenant o.code)
  have hending : s.run (ending (backend.sectorTree o.tenant o.code)) =
      (.ok (r.reply (.sectorTree o.tenant o.code)), s) := by
    rw [run_ending, htree]
  rw [run_bind_ok hending, run_pure, reply, hr.organization?_of_mem hstored]
  simp only [need, bind, Except.bind, entryOf, Listed.toDatum, dumpEntry]
  cases build? (r.sectorsOf o.tenant o.id) <;> rfl

/-- The entries of a tenant's organizations are what is printed. -/
theorem run_dump (hdatabase : s.connection.database = r.database) (hr : r.Sound)
    (tenant : TenantId) : s.run (backend.dump tenant) =
      (.ok ((r.listing tenant).map Listed.toDatum),
        s.record (.dumped tenant (r.listing tenant).length)) := by
  have hlist : s.run (backend.listOrganizations tenant) = (.ok (r.organizationsOf tenant), s) :=
    inquire_eq hdatabase hr (.listOrganizations tenant)
  rw [Backend.dump, run_bind_ok hlist,
    run_bind_ok (run_mapM_same fun o ho => run_dumpEntry hdatabase hr ho)]
  simp only [listing, List.map_map, List.length_map]
  rfl

end Session

/-! ## The command -/

/-- Opening leads to a database: its file can be reached, and looked into. -/
def DatabaseConfig.Names (config : DatabaseConfig) (files : Files) (directory : Location)
    (database : Database) : Prop :=
  ∃ path address found, config.path = some path ∧ zeroByte? path = none ∧
    Address.ofText path = .ok address ∧ address.isMemory = false ∧
    reach files directory path address = .ok found ∧
    lookInto found.2 address found.1 = .ok database

namespace DatabaseConfig

variable {config : DatabaseConfig} {files : Files} {directory : Location} {r : Records}

theorem Names.leads {database : Database} (h : config.Names files directory database) :
    ∃ path, config.path = some path ∧ Leads files directory path := by
  obtain ⟨path, address, found, hpath, hzero, haddress, -, hreach, -⟩ := h
  exact ⟨path, hpath, hzero, address, haddress, .inr ⟨found, hreach⟩⟩

/-- Records that are opened stay as they are. -/
theorem Names.opened (h : config.Names files directory r.database)
    (htimeout : config.busyTimeout.toNat ≤ longestBusyTimeout) :
    ∃ c, (config.openDatabase files directory).result = .ok c ∧ c.database = r.database := by
  obtain ⟨path, address, ⟨place, files'⟩, hpath, hzero, haddress, hmemory, hreach, hlook⟩ := h
  have hprepare : ∀ c : Storage.Connection, c.database = r.database →
      prepareConnection config.openSettings c = (.ok (), config.openSettings.told c) := by
    intro c hc
    rw [prepareConnection_of_le htimeout, Schema.migrate_of_current]
    · rfl
    · exact congrArg Database.version hc
  rw [openDatabase, hpath]
  simp only [openFile, hzero, haddress, openAddress, hmemory, Bool.false_eq_true, if_false, hreach,
    hlook, prepareTold]
  rw [hprepare _ rfl]
  exact ⟨_, rfl, rfl⟩

/-- With a time to wait that is too long, opening crashes. -/
theorem Names.crashes {database : Database} (h : config.Names files directory database)
    (htimeout : longestBusyTimeout < config.busyTimeout.toNat) :
    (config.openDatabase files directory).result = .error .timeoutTooLong := by
  obtain ⟨path, hpath, hleads⟩ := h.leads
  rw [openDatabase, hpath]
  exact (settled_openFile files directory path config.openSettings).crashes_iff.mpr
    ⟨hleads, htimeout⟩

end DatabaseConfig

/-- The command has printed the list of a tenant's organizations. -/
structure Printed (r : Records) (tenant : TenantId) (result : CommandResult) : Prop where
  exitCode_eq : result.exitCode = 0
  stderr_eq : result.stderr = ""
  /-- The text is the list as JSON, and the list is what it denotes. -/
  stdout_eq : ∃ listing, r.Lists tenant listing ∧
    result.stdout = (Datum.list (listing.map Listed.toDatum)).pretty ++ "\n" ∧
    Datum.ofJson? result.stdout = some (Datum.list (listing.map Listed.toDatum)).canonical
  /-- Every attached sector of the tenant is printed once. -/
  printed_once : ∀ s ∈ r.sectors, s.tenant = tenant → r.Attached s →
    (printedCodes result.stdout).count s.code = 1
  /-- No others are printed. -/
  printed_own : ∀ code ∈ printedCodes result.stdout,
    ∃ s ∈ r.sectors, s.tenant = tenant ∧ r.Attached s ∧ s.code = code

/-- A text that shows the list of a tenant has been printed. -/
theorem Records.printed_listing {r : Records} (hr : r.Sound) (hl : r.Lineage) (tenant : TenantId)
    {result : CommandResult} (hexit : result.exitCode = 0) (hstderr : result.stderr = "")
    (hstdout : result.stdout =
      (Datum.list ((r.listing tenant).map Listed.toDatum)).pretty ++ "\n") :
    Printed r tenant result := by
  have hread : Datum.ofJson? result.stdout = some _ :=
    hstdout ▸ ofJson?_listing (r.listing tenant)
  have hcodes := printedCodes_perm hread
  refine ⟨hexit, hstderr, ⟨_, lists_listing hr hl tenant, hstdout, hread⟩, ?_, ?_⟩
  · intro s hs htenant hattached
    obtain ⟨n, hn, hcopies⟩ := mem_shown_of_attached hr hl hs hattached
    rw [htenant] at hn
    rw [hcodes.count_eq]
    refine List.count_eq_one_of_mem (nodup_shown_codes hr hl tenant) ?_
    exact List.mem_map.mpr ⟨n, hn, hcopies.code_eq⟩
  · intro code hcode
    obtain ⟨n, hn, rfl⟩ := List.mem_map.mp (hcodes.mem_iff.mp hcode)
    obtain ⟨s, hs, htenant, hattached, hcopies⟩ := exists_shown hr hl hn
    exact ⟨s, hs, htenant, hattached, hcopies.code_eq.symm⟩

section Command

variable {files : Files} {directory : Location} {r : Records} {config : Config}

/-- Without a directory the log stays off. -/
theorem run_activateFrom_none (start : ActiveLog → StateM Files (Except LoggingError Unit))
    (level : String) : (activateFrom start level none none).run files =
      ((.ok false, none), files) :=
  rfl

/-- Over the records of a database that opens, the list is printed. -/
theorem printed_runConfigured (hoff : config.logging.dir = none)
    (hnames : config.database.Names files directory r.database) (hr : r.Sound) (hl : r.Lineage)
    (htimeout : config.database.busyTimeout.toNat ≤ longestBusyTimeout) :
    Printed r config.tenant.defaultId (runConfigured config files directory) := by
  obtain ⟨c, hopen, hdatabase⟩ := hnames.opened htimeout
  let s : Session := { connection := c }
  have hversion : s.connection.database.version = Schema.latestVersion := by
    rw [hdatabase]
    rfl
  have hready := Session.readiness_current hversion
  have hrun : s.run Session.ready = (.ok (), s) :=
    Prod.ext (hready.ok_iff.mpr (hdatabase ▸ r.ready_database)) hready.session_eq
  have hserved : s.run (do Session.ready; Session.backend.dump config.tenant.defaultId) = _ :=
    (Session.run_bind_ok hrun _).trans (Session.run_dump hdatabase hr config.tenant.defaultId)
  simp only [runConfigured, hoff, run_activateFrom_none, hopen]
  simp only [Session.run] at hserved
  rw [hserved]
  exact Records.printed_listing hr hl config.tenant.defaultId rfl rfl rfl

/-- The command crashes over a time to wait that no connection can be told. -/
theorem crashes_runConfigured (hoff : config.logging.dir = none) {database : Database}
    (hnames : config.database.Names files directory database)
    (htimeout : longestBusyTimeout < config.database.busyTimeout.toNat) :
    (runConfigured config files directory).exitCode = 101 ∧
      (runConfigured config files directory).stdout = "" := by
  simp only [runConfigured, hoff, run_activateFrom_none, hnames.crashes htimeout]
  exact ⟨rfl, rfl⟩

end Command

/-- Let a configuration name the database of a reachable session, and turn the log off. The command
prints the list of its tenant's organizations, however many of them have lost their root, unless the
configuration asks for a time to wait that no connection can be told. With such a time the command
crashes, and prints nothing. -/
theorem Session.Reachable.dump_complete {s : Session} (h : s.Reachable) {files : Files}
    {directory : Location} {arguments : List String} {config : Config}
    (hconfig : commandConfig files directory arguments = .ok config)
    (hnames : config.database.Names files directory s.connection.database)
    (hoff : config.logging.dir = none) :
    let result := runCommand files directory arguments
    (Printed s.records config.tenant.defaultId result ↔
      config.database.busyTimeout.toNat ≤ longestBusyTimeout) ∧
    (longestBusyTimeout < config.database.busyTimeout.toNat →
      result.exitCode = 101 ∧ result.stdout = "") := by
  have hrun : runCommand files directory arguments = runConfigured config files directory := by
    rw [runCommand, hconfig]
  rw [h.holds.database] at hnames
  rw [hrun]
  refine ⟨⟨fun hprinted => ?_, printed_runConfigured hoff hnames h.holds.sound h.lineage⟩,
    crashes_runConfigured hoff hnames⟩
  by_contra htimeout
  have hcrash := (crashes_runConfigured hoff hnames (Nat.lt_of_not_le htimeout)).1
  exact absurd (hprinted.exitCode_eq.symm.trans hcrash) (by decide)

/-- At the root a name leads to the place of that name, whether or not there is anything. -/
theorem Files.follow_name (files : Files) {name : String} (hdot : name ≠ ".") (hdots : name ≠ "..")
    (hsize : name.utf8ByteSize ≤ longestName) : files.follow [] [name] = .ok [name] := by
  have hroot : files.isDirectory [] = true := rfl
  simp [follow, step, hroot, hdot, hdots, Nat.not_lt.mpr hsize]

namespace Records

/-- The records of three organizations, one of which has lost its root. -/
def uprooted : Records where
  organizations := [acme, umbra, otherAcme]
  sectors := [farNorth, pole, umbraRoot, otherAcmeRoot]
  lastOrganization := 3
  lastSector := 6

theorem reached_uprooted : uprooted.Reached := by
  have hplan : neighbours.plan "" (.deleteSector 1 1) = .ok (2, uprooted) := rfl
  exact reached_neighbours.next hplan

/-- A document that names a database. -/
def naming : String :=
  "[database]\npath = \"org.sqlite3\"\n"

/-- A directory with a document, and with what a session on the records has left behind. -/
def leftBehind (document : String) : Files :=
  Files.close { files := [(["org.toml"], .bytes document.toUTF8)] } (some ["org.sqlite3"])
    (uprooted.session "").connection

theorem readText_leftBehind (document : String) :
    (leftBehind document).readText [] "org.toml" = .ok document := by
  have hpath : checkPath "org.toml" = .ok () := by
    simp [checkPath]
    decide
  have hsteps : pathSteps "org.toml" = ["org.toml"] := by decide +kernel
  have hplace : (leftBehind document).follow (pathStart "org.toml" []) (pathSteps "org.toml") =
      .ok ["org.toml"] := by
    rw [pathStart, ite_self, hsteps]
    exact Files.follow_name _ (by decide) (by decide) (by decide +kernel)
  have hdirectory : (leftBehind document).isDirectory ["org.toml"] = false := rfl
  have hfile : (leftBehind document).file? ["org.toml"] = some (.bytes document.toUTF8) := rfl
  have hend : "org.toml".endsWith "/" = false := by decide +kernel
  have htext : String.fromUTF8? document.toUTF8 = some document := dif_pos document.isValidUTF8
  simp only [Files.readText, Files.readBytes, hpath, hplace, hdirectory, hfile, hend, bind,
    Except.bind, Bool.false_eq_true, if_false]
  rw [htext]

/-- The command's argument leads to what the document says. -/
theorem commandConfig_leftBehind {document : String} {config : Config}
    (h : (Config.ofToml document).toOption = some config) :
    commandConfig (leftBehind document) [] ["org.toml"] = .ok config := by
  have hload : commandConfig (leftBehind document) [] ["org.toml"] = Config.ofToml document := by
    rw [commandConfig, Config.load, readText_leftBehind]
  rw [hload]
  cases hread : Config.ofToml document with
  | error error => rw [hread] at h; cases h
  | ok read => rw [hread] at h; exact congrArg _ (Option.some.inj h)

theorem names_leftBehind (document : String) (busyTimeout : UInt64) :
    DatabaseConfig.Names { path := some "org.sqlite3", busyTimeout } (leftBehind document) []
      uprooted.database := by
  have hsteps : pathSteps "org.sqlite3" = ["org.sqlite3"] := by decide +kernel
  have hseen : canBeSeen (leftBehind document) ["org.sqlite3"] = true := by
    rw [canBeSeen, Files.follow_name _ (by decide) (by decide) (by decide +kernel)]
    decide +kernel
  have hsize : ¬ longestPlace < pathSize ["org.sqlite3"] := by decide +kernel
  have hplace : databasePlace? (leftBehind document) [] "org.sqlite3" = some ["org.sqlite3"] := by
    simp [databasePlace?, hsteps, pathStart, placeStep, hseen, hsize]
  have hdirectory : (leftBehind document).isDirectory ["org.sqlite3"] = false := rfl
  have hfile : ((leftBehind document).file? ["org.sqlite3"]).isSome = true := rfl
  refine ⟨"org.sqlite3", { path := "org.sqlite3" }, (["org.sqlite3"], leftBehind document), rfl,
    by decide +kernel, rfl, by decide +kernel, ?_, rfl⟩
  simp [reach, hplace, hdirectory, hfile]

/-- Of two organizations of the first tenant one has no tree; the other is listed with its own. -/
theorem dump_complete_uprooted :
    let config : Config := { database := { path := some "org.sqlite3" } }
    let result := runCommand (leftBehind naming) [] ["org.toml"]
    (uprooted.session "").Reachable ∧
      commandConfig (leftBehind naming) [] ["org.toml"] = .ok config ∧
      config.database.Names (leftBehind naming) [] uprooted.database ∧ config.logging.dir = none ∧
      config.database.busyTimeout.toNat ≤ longestBusyTimeout ∧ Printed uprooted 1 result := by
  intro config result
  have hreachable := reached_uprooted.reachable ""
  have hconfig : commandConfig (leftBehind naming) [] ["org.toml"] = .ok config :=
    commandConfig_leftBehind (by decide +kernel)
  have hnames : config.database.Names (leftBehind naming) [] uprooted.database :=
    names_leftBehind naming _
  have htimeout : config.database.busyTimeout.toNat ≤ longestBusyTimeout := by decide
  refine ⟨hreachable, hconfig, hnames, rfl, htimeout, ?_⟩
  have hprinted := (hreachable.dump_complete hconfig hnames rfl).1.mpr htimeout
  rwa [reached_uprooted.sound.records_session] at hprinted

/-- The document that asks for one millisecond too many is accepted and names the database. The
command crashes over it, and does not list the organizations. -/
theorem dump_crashes_overlong :
    let document := DatabaseConfig.patient
    let config : Config := { database := { path := some "org.sqlite3", busyTimeout := 2147483648 } }
    let result := runCommand (leftBehind document) [] ["org.toml"]
    (uprooted.session "").Reachable ∧
      commandConfig (leftBehind document) [] ["org.toml"] = .ok config ∧
      config.database.Names (leftBehind document) [] uprooted.database ∧
      config.logging.dir = none ∧
      result.exitCode = 101 ∧ result.stdout = "" ∧ ¬ Printed uprooted 1 result := by
  intro document config result
  have hconfig : commandConfig (leftBehind document) [] ["org.toml"] = .ok config :=
    commandConfig_leftBehind (by decide +kernel)
  have hnames : config.database.Names (leftBehind document) [] uprooted.database :=
    names_leftBehind document _
  have hrun : result = runConfigured config (leftBehind document) [] := by
    simp only [result, runCommand, hconfig]
  have hcrash : result.exitCode = 101 ∧ result.stdout = "" :=
    hrun ▸ crashes_runConfigured rfl hnames (by decide)
  refine ⟨reached_uprooted.reachable "", hconfig, hnames, rfl, hcrash.1, hcrash.2, fun h => ?_⟩
  exact absurd (h.exitCode_eq.symm.trans hcrash.1) (by decide)

end Records

end SectorForest
