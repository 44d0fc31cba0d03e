import SectorForest.Opening
import SectorForest.Proofs.Migration
import SectorForest.Proofs.Serving

/-!
# The stores over an opened database

A database that is opened is migrated, and a migration leaves a table that was there as it was, with
whatever columns it has. The stores look for the tables by their exact names and for all of their
columns. So they may refuse a database that has just been opened, and whether they do can be told
from what it held before: `Session.ready_opened` says that they take exactly the databases that are
`Schema.Usable`.
-/

namespace SectorForest

open Storage

namespace Schema

variable {c : Connection} {db : Database} {d : Definition} {table : String}
  {columns : List String}

/-- The tables that the stores work on, with the columns that they ask for. -/
def required : List (Definition × List String) :=
  [(organizations, organizationColumns), (sectors, sectorColumns)]

/-- A table that is kept has exactly the name. -/
def HasTable (db : Database) (table : String) : Prop :=
  ∃ t ∈ db.tables, t.definition.part = .main ∧ t.definition.name = table

/-- The table that a name denotes, if there is one, has the columns. -/
def HasColumns (db : Database) (table : String) (columns : List String) : Prop :=
  ∀ t, db.table? table = some t → ∀ column ∈ columns, column ∈ t.definition.columnNames

/-- The stores can work on what is there. -/
def Ready (db : Database) : Prop :=
  ∀ x ∈ required, HasTable db x.1.name ∧ HasColumns db x.1.name x.2

/-- A table of the schema can be worked on once the database is opened. -/
structure Fits (db : Database) (d : Definition) (columns : List String) : Prop where
  /-- Nothing is made in a database of the current version. -/
  there : db.version = latestVersion → (db.tableIn? .main d.name).isSome = true
  /-- A table with the name is spelled like it. -/
  spelled : (db.tableIn? .main d.name).isSome = true → HasTable db d.name
  /-- A table with the name has the columns. -/
  columned : HasColumns db d.name columns

/-- The stores can work on what there is once the database is opened. -/
def Usable (db : Database) : Prop :=
  ∀ x ∈ required, Fits db x.1 x.2

/-! ## What the stores look for -/

theorem mem_tables_of_required {x : Definition × List String} (hx : x ∈ required) :
    x.1 ∈ tables :=
  List.mem_map_of_mem (f := Prod.fst) hx

theorem HasTable.isSome (h : HasTable db table) : (db.tableIn? .main table).isSome = true := by
  obtain ⟨t, ht, hpart, hname⟩ := h
  rw [Database.tableIn?, List.find?_isSome]
  exact ⟨t, ht, by rw [hpart, hname]; simp⟩

/-- There is a table that the name denotes, which need not be the one that is kept. -/
theorem HasTable.denoted (h : HasTable db table) : ∃ t, db.table? table = some t := by
  obtain ⟨t, ht⟩ := Option.isSome_iff_exists.mp h.isSome
  rw [Database.table?, ht]
  cases db.tableIn? .temporary table with
  | none => exact ⟨t, rfl⟩
  | some temporary => exact ⟨temporary, rfl⟩

/-- How a store ends when it has looked for its table and for the columns of it. -/
structure Checked (db : Database) (table : String) (columns : List String)
    (result : Except StoreError Unit) : Prop where
  ok_iff : result = .ok () ↔ HasTable db table ∧ HasColumns db table columns
  refused : ∀ error, result = .error error →
    error = .missingTable table ∨ ∃ column ∈ columns, error = .missingColumn table column

theorem checked (hversion : c.database.version = latestVersion) :
    Checked c.database table columns (checkReady c table columns) := by
  have hcurrent : version c = .ok latestVersion := by
    rw [version, hversion]
    rfl
  have hany : (c.database.tables.any fun t =>
      t.definition.part == .main && t.definition.name == table) = true ↔
        HasTable c.database table := by
    simp [HasTable, List.any_eq_true]
  simp only [checkReady, hcurrent, ne_eq, not_true_eq_false, if_false]
  by_cases htable : HasTable c.database table
  · rw [if_pos (hany.mpr htable)]
    obtain ⟨t, ht⟩ := htable.denoted
    cases hmissing : columns.find? fun column => !t.definition.columnNames.contains column with
    | none =>
      simp only [ht, hmissing]
      refine ⟨iff_of_true rfl ⟨htable, fun t' ht' column hcolumn => ?_⟩, by simp⟩
      cases ht.symm.trans ht'
      simpa using List.find?_eq_none.mp hmissing column hcolumn
    | some column =>
      simp only [ht, hmissing]
      have hcolumn := List.mem_of_find?_eq_some hmissing
      have hlacks : column ∉ t.definition.columnNames := by
        simpa using List.find?_some hmissing
      refine ⟨iff_of_false (by simp) fun h => hlacks (h.2 t ht column hcolumn), fun error h => ?_⟩
      exact .inr ⟨column, hcolumn, (Except.error.inj h).symm⟩
  · rw [if_neg (mt hany.mp htable)]
    exact ⟨iff_of_false (by simp) fun h => htable h.1, fun _ h => .inl (Except.error.inj h).symm⟩

/-! ## What opening leaves there -/

/-- A table of the schema is there under its exact name unless one was there under another
spelling. -/
theorem hasTable_completed (hd : d ∈ tables) : HasTable (completed db) d.name ↔
    ((db.tableIn? .main d.name).isSome = true → HasTable db d.name) := by
  obtain ⟨added, htables, hnew⟩ := @tables_completed db
  constructor
  · rintro ⟨t, ht, hpart, hname⟩ hthere
    rw [htables] at ht
    rcases List.mem_append.mp ht with ht | ht
    · exact ⟨t, ht, hpart, hname⟩
    · have hmissing := (hnew t ht).missing
      rw [hname] at hmissing
      simp [hmissing] at hthere
  · intro hspelled
    cases hthere : db.tableIn? .main d.name with
    | some old =>
      obtain ⟨t, ht, hpart, hname⟩ := hspelled (by rw [hthere]; rfl)
      exact ⟨t, by rw [htables]; exact List.mem_append_left _ ht, hpart, hname⟩
    | none =>
      have hmade : (completed db).tableIn? .main d.name = some { definition := d } := by
        rw [tableIn?_completed hd, hthere]
        rfl
      have hpart : ∀ d ∈ tables, d.part = .main := by decide
      exact ⟨{ definition := d }, List.mem_of_find?_eq_some hmade, hpart d hd, rfl⟩

/-- A table of the schema that is made has all the columns, and one that was there keeps its own. -/
theorem hasColumns_completed {x : Definition × List String} (hx : x ∈ required) :
    HasColumns (completed db) x.1.name x.2 ↔ HasColumns db x.1.name x.2 := by
  have hown : ∀ x ∈ required, ∀ column ∈ x.2, column ∈ x.1.columnNames := by decide
  rw [HasColumns, HasColumns, table?_completed (mem_tables_of_required hx)]
  cases db.table? x.1.name with
  | none => simpa using hown x hx
  | some t => simp

/-- What is there once a connection is opened, and what there was before. -/
theorem database_opened {settings : OpenSettings} {c' : Connection}
    (hopen : prepareConnection settings c = (.ok (), c')) :
    c.database.version = latestVersion ∧ c'.database = c.database ∨
      c.database.version = 0 ∧ c'.database = completed c.database := by
  have hmigrate : migrate { c with foreignKeys := true, busyTimeout := settings.busyTimeout } =
      (.ok (), c') := by
    unfold prepareConnection at hopen
    split at hopen
    · cases hopen
    · generalize migrate _ = occur at hopen ⊢
      obtain ⟨_ | _, _⟩ := occur <;> cases hopen
      rfl
  -- the settings of the connection are not looked at by the migration
  generalize hc : ({ c with foreignKeys := true, busyTimeout := settings.busyTimeout } :
    Connection) = opened at hmigrate
  have hdatabase : opened.database = c.database := by rw [← hc]
  have hmigrated := migrated_migrate opened
  rw [hmigrate] at hmigrated
  rw [← hdatabase]
  cases hmigrated with
  | current hversion => exact .inl ⟨hversion, rfl⟩
  | completed h => exact .inr ⟨h.version_eq, rfl⟩

/-- The stores can work on an opened database exactly if it was usable before. -/
theorem ready_iff_usable {settings : OpenSettings} {c' : Connection}
    (hopen : prepareConnection settings c = (.ok (), c')) :
    c'.database.version = latestVersion ∧ (Ready c'.database ↔ Usable c.database) := by
  rcases database_opened hopen with ⟨hversion, hsame⟩ | ⟨hversion, hcompleted⟩
  · rw [hsame]
    refine ⟨hversion, forall₂_congr fun x hx => ⟨?_, ?_⟩⟩
    · rintro ⟨htable, hcolumns⟩
      exact ⟨fun _ => htable.isSome, fun _ => htable, hcolumns⟩
    · intro hfits
      exact ⟨hfits.spelled (hfits.there hversion), hfits.columned⟩
  · rw [hcompleted]
    have hold : c.database.version ≠ latestVersion := by
      rw [hversion]
      decide
    refine ⟨rfl, forall₂_congr fun x hx => ?_⟩
    rw [hasTable_completed (mem_tables_of_required hx), hasColumns_completed hx]
    exact ⟨fun ⟨hspelled, hcolumns⟩ => ⟨fun h => absurd h hold, hspelled, hcolumns⟩,
      fun hfits => ⟨hfits.spelled, hfits.columned⟩⟩

end Schema

/-! ## The service over an opened database -/

namespace Session

open Schema

variable {s : Session} {db : Database}

/-- The failure names a table that is missed, or a column of it. -/
def Misses (failure : Failure) : Prop :=
  ∃ x ∈ required, failure = .refused (.persistence (.missingTable x.1.name)) ∨
    ∃ column ∈ x.2, failure = .refused (.persistence (.missingColumn x.1.name column))

/-- How the stores end when they have looked whether a database is fit for them. -/
structure Readiness (usable : Prop) (s : Session) (outcome : Except Failure Unit × Session) :
    Prop where
  session_eq : outcome.2 = s
  ok_iff : outcome.1 = .ok () ↔ usable
  refused : ∀ failure, outcome.1 = .error failure → Misses failure

theorem misses_of_checked {x : Definition × List String} {error : StoreError} (hx : x ∈ required)
    (h : Checked db x.1.name x.2 (.error error)) : Misses (.refused (.persistence error)) := by
  rcases h.refused error rfl with rfl | ⟨column, hcolumn, rfl⟩
  · exact ⟨x, hx, .inl rfl⟩
  · exact ⟨x, hx, .inr ⟨column, hcolumn, rfl⟩⟩

theorem run_ready (s : Session) : s.run ready =
    ((openOrganizations s.connection).bind (fun () => openSectors s.connection)
      |>.mapError fun error => .refused (.persistence error), s) := by
  rw [ready, run_bind_ok (show s.run (getThe Session) = (.ok s, s) from rfl)]
  cases hfirst : openOrganizations s.connection with
  | error error =>
    simp only [hfirst]
    rfl
  | ok _ =>
    simp only [hfirst]
    cases openSectors s.connection <;> rfl

/-- Over a database of the current version the stores look for the tables and their columns. -/
theorem readiness_current (hversion : s.connection.database.version = latestVersion) :
    Readiness (Ready s.connection.database) s (s.run ready) := by
  have horganizations : Checked s.connection.database organizations.name organizationColumns
    (openOrganizations s.connection) := checked hversion
  have hsectors : Checked s.connection.database sectors.name sectorColumns
    (openSectors s.connection) := checked hversion
  have hready : Ready s.connection.database ↔
      openOrganizations s.connection = .ok () ∧ openSectors s.connection = .ok () := by
    rw [horganizations.ok_iff, hsectors.ok_iff]
    simp [Ready, required]
  rw [hready, run_ready]
  cases hfirst : openOrganizations s.connection with
  | error error =>
    rw [hfirst] at horganizations
    refine ⟨rfl, by simp [Except.bind, Except.mapError], fun failure h => ?_⟩
    rw [← Except.error.inj h]
    exact misses_of_checked List.mem_cons_self horganizations
  | ok _ =>
    cases hsecond : openSectors s.connection with
    | error error =>
      rw [hsecond] at hsectors
      refine ⟨rfl, by simp [Except.bind, Except.mapError], fun failure h => ?_⟩
      rw [← Except.error.inj h]
      exact misses_of_checked (List.mem_cons_of_mem _ List.mem_cons_self) hsectors
    | ok _ =>
      exact ⟨rfl, by simp [Except.bind, Except.mapError], by simp [Except.bind, Except.mapError]⟩

/-- Whatever a database held before it was opened, the service can be set up over the connection
exactly if the database was usable. Otherwise it is told which table or column is missed. -/
theorem ready_opened {settings : OpenSettings} {c : Connection}
    (hopen : prepareConnection settings c = (.ok (), s.connection)) :
    Readiness (Usable c.database) s (s.run ready) := by
  obtain ⟨hversion, hiff⟩ := ready_iff_usable hopen
  have hready := readiness_current hversion
  exact ⟨hready.session_eq, hready.ok_iff.trans hiff, hready.refused⟩

/-- A database of an older version with an organization in a table like that of the schema, and
with a table of its own. -/
def outgrown : Database where
  tables := [
    { definition := organizations
      rows := [{ id := 1, cells := [.int 1, .text "acme", .text "Acme", .text "bu", .int 1] }] },
    { definition := { name := "notes", columns := [{ name := "text" }] } }]

theorem ready_opened_outgrown :
    let c : Connection := { database := outgrown }
    let s : Session := { connection := (prepareConnection {} c).2 }
    prepareConnection {} c = (.ok (), s.connection) ∧ s.run ready = (.ok (), s) ∧
      Usable outgrown := by
  intro c s
  have hopen : prepareConnection {} c = (.ok (), s.connection) := Prod.ext (by decide) rfl
  have hready := ready_opened hopen
  have hok : (s.run ready).1 = .ok () := by decide
  exact ⟨hopen, Prod.ext hok hready.session_eq, hready.ok_iff.mp hok⟩

/-- A database of an older version whose table of organizations has other columns. -/
def foreign : Database where
  tables := [
    { definition :=
        { name := "organizations", columns := [{ name := "id" }, { name := "code" }] } }]

/-- Opening succeeds over a table with other columns, which stays as it is, and over a database that
has the current version and nothing else. The stores refuse both. -/
theorem unready_opened_foreign :
    let c : Connection := { database := foreign }
    let bare : Connection := { database := { version := latestVersion } }
    (prepareConnection {} c).1 = .ok () ∧
      (Session.run { connection := (prepareConnection {} c).2 } ready).1 =
        .error (.refused (.persistence (.missingColumn "organizations" "tenant_id"))) ∧
      (prepareConnection {} bare).1 = .ok () ∧
      (Session.run { connection := (prepareConnection {} bare).2 } ready).1 =
        .error (.refused (.persistence (.missingTable "organizations"))) := by
  decide

end Session

end SectorForest
