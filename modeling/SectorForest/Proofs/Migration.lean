import SectorForest.Schema

/-!
# Migrating any database

A migration meets whatever a database holds: other tables, tables that have the names it needs and
columns of their own, indexes, any version, an open transaction. `Database.withTable` and
`Database.withIndex` are what its statements add, and `Statement.Takes` and `Statement.TakesAll` say
of one statement, and of several in a row, exactly when they are carried out and that nothing is
left half done otherwise. So a migration completes the schema, which it does exactly if nothing in
the database is in its way (`Schema.Unhindered`), or leaves everything as it was:
`Schema.migrate_atomic`.
-/

namespace SectorForest

open Storage Text

/-! ## Adding tables and indexes -/

namespace Storage.Database

/-- The database with an empty table under a definition, unless a table has its name. -/
def withTable (db : Database) (d : Definition) : Database :=
  if (db.tableIn? d.part d.name).isSome then db
  else
    { db with
      tables := db.tables ++ [{ definition := d }]
      remembersNumbers := db.remembersNumbers || (d.part == .main && d.remembersNumbers) }

/-- The database with an index in the part of its table, unless an index there has its name. -/
def withIndex (db : Database) (i : Index) : Database :=
  if db.hasIndex (db.indexPart i) i.name then db
  else { db with indexes := db.indexes ++ [{ i with part := db.indexPart i }] }

variable {db : Database} {d : Definition} {i : Index} {part : Part} {name : String}

@[simp] theorem withTable_indexes : (db.withTable d).indexes = db.indexes := by
  unfold withTable
  split <;> rfl

@[simp] theorem withIndex_tables : (db.withIndex i).tables = db.tables := by
  unfold withIndex
  split <;> rfl

/-- The tables that were there stay as they are. There is an empty one more if none had its name. -/
theorem tables_withTable : ∃ added, (db.withTable d).tables = db.tables ++ added ∧
    ∀ t ∈ added, t = { definition := d } ∧ db.tableIn? d.part d.name = none := by
  cases h : db.tableIn? d.part d.name with
  | some t =>
    exact ⟨[], by simp [withTable, h], fun _ ht => nomatch ht⟩
  | none =>
    refine ⟨[{ definition := d }], by simp [withTable, h], fun t ht => ?_⟩
    exact ⟨List.mem_singleton.mp ht, rfl⟩

theorem indexes_prefix_withIndex : db.indexes <+: (db.withIndex i).indexes := by
  unfold withIndex
  split
  · exact List.prefix_rfl
  · exact List.prefix_append _ _

@[simp] theorem hasIndex_withTable :
    (db.withTable d).hasIndex part name = db.hasIndex part name := by
  rw [hasIndex, withTable_indexes, hasIndex]

@[simp] theorem tableIn?_withIndex :
    (db.withIndex i).tableIn? part name = db.tableIn? part name := by
  rw [tableIn?, withIndex_tables, tableIn?]

@[simp] theorem table?_withIndex : (db.withIndex i).table? name = db.table? name := by
  simp only [table?, tableIn?_withIndex]

@[simp] theorem indexPart_withIndex (j : Index) :
    (db.withIndex i).indexPart j = db.indexPart j := by
  simp only [indexPart, table?_withIndex]

/-- A table that was there is still what its name denotes; otherwise it is the new one. -/
theorem tableIn?_withTable_self : (db.withTable d).tableIn? d.part d.name =
    some ((db.tableIn? d.part d.name).getD { definition := d }) := by
  cases h : db.tableIn? d.part d.name with
  | some t => rw [withTable, h, if_pos Option.isSome_some, h, Option.getD_some]
  | none =>
    rw [withTable, h, Option.isSome_none, if_neg Bool.false_ne_true]
    have hnew : (d.part == d.part && sameName d.name d.name) = true := by simp
    rw [tableIn?, List.find?_append, ← tableIn?, h, List.find?_singleton, hnew]
    rfl

/-- Other names denote what they denoted before. -/
theorem tableIn?_withTable_of_ne (h : (d.part == part && sameName d.name name) = false) :
    (db.withTable d).tableIn? part name = db.tableIn? part name := by
  unfold withTable
  split
  · rfl
  · rw [tableIn?, List.find?_append, List.find?_singleton, h, tableIn?]
    exact Option.or_none

/-- The index is there afterwards. -/
theorem hasIndex_withIndex : (db.withIndex i).hasIndex (db.indexPart i) i.name = true := by
  unfold withIndex
  split
  · assumption
  · simp [hasIndex]

theorem hasIndex_withIndex_of_ne (h : sameName i.name name = false) :
    (db.withIndex i).hasIndex part name = db.hasIndex part name := by
  unfold withIndex
  split
  · rfl
  · simp [hasIndex, h]

end Storage.Database

/-! ## Statements -/

namespace Storage.Connection

/-- The right to write does not depend on what there is. -/
@[simp] theorem writeFault?_database (c : Connection) (db : Database) (part : Part) :
    ({ c with database := db } : Connection).writeFault? part = c.writeFault? part := by
  cases part <;> rfl

/-- What is temporary can be written wherever the rest can. -/
theorem writeFault?_eq_none {c : Connection} (h : c.writeFault? .main = none) (part : Part) :
    c.writeFault? part = none := by
  cases part with
  | main => exact h
  | temporary => rfl

end Storage.Connection

namespace Storage.Statement

variable {c : Connection} {statement : Statement} {rest : List Statement} {Allowed Later : Prop}
  {db db' : Database}

/-- A statement makes `db` of the database if it is allowed; if not, it fails and nothing
changes. -/
structure Takes (c : Connection) (statement : Statement) (Allowed : Prop) (db : Database) :
    Prop where
  done : Allowed → ∃ outcome, Connection.execute statement c =
    (.ok outcome, { c with database := db })
  refused : ¬ Allowed → ∃ fault, Connection.execute statement c = (.error fault, c)

/-- Statements make `db` of the database if they are allowed; if not, one of them fails, and nothing
but the database may have been changed by those in front of it. -/
structure TakesAll (c : Connection) (statements : List Statement) (Allowed : Prop)
    (db : Database) : Prop where
  done : Allowed → Connection.executeAll statements c = (.ok (), { c with database := db })
  refused : ¬ Allowed → ∃ fault database, Connection.executeAll statements c =
    (.error fault, { c with database })

theorem TakesAll.nil (c : Connection) : TakesAll c [] True c.database where
  done _ := rfl
  refused h := absurd trivial h

theorem TakesAll.cons (h : Takes c statement Allowed db)
    (hrest : TakesAll { c with database := db } rest Later db') :
    TakesAll c (statement :: rest) (Allowed ∧ Later) db' where
  done := by
    rintro ⟨hallowed, hlater⟩
    obtain ⟨outcome, hdone⟩ := h.done hallowed
    rw [Connection.executeAll, hdone]
    exact hrest.done hlater
  refused := by
    intro hnot
    by_cases hallowed : Allowed
    · obtain ⟨outcome, hdone⟩ := h.done hallowed
      rw [Connection.executeAll, hdone]
      exact hrest.refused fun hlater => hnot ⟨hallowed, hlater⟩
    · obtain ⟨fault, hfault⟩ := h.refused hallowed
      rw [Connection.executeAll, hfault]
      exact ⟨fault, c.database, rfl⟩

/-! ### Single statements -/

theorem Takes.of_error (fault : Fault) (hprepare : prepare c.database statement = .error fault)
    (hnot : ¬ Allowed) : Takes c statement Allowed db where
  done h := absurd h hnot
  refused _ := ⟨fault, by rw [Connection.execute, hprepare]⟩

theorem Takes.of_idle (hprepare : prepare c.database statement = .ok ())
    (hidle : isIdle c.database statement = true) (hallowed : Allowed) :
    Takes c statement Allowed c.database where
  done _ := ⟨{}, by rw [Connection.execute, hprepare]; exact if_pos hidle⟩
  refused hnot := absurd hallowed hnot

/-- A statement that is prepared and has something to do needs the right to write only. -/
theorem Takes.of_run (outcome : Outcome) (hprepare : prepare c.database statement = .ok ())
    (hidle : isIdle c.database statement = false)
    (hrun : run c.database statement = .ok (outcome, db))
    (hallowed : Allowed ↔ c.writeFault? (part c.database statement) = none) :
    Takes c statement Allowed db := by
  cases hwrite : c.writeFault? (part c.database statement) with
  | some fault =>
    have hexecute : Connection.execute statement c = (.error fault, c) := by
      simp [Connection.execute, hprepare, hidle, hwrite]
    have hnot : ¬ Allowed := by
      rw [hallowed, hwrite]
      exact Option.some_ne_none fault
    exact ⟨fun h => absurd h hnot, fun _ => ⟨fault, hexecute⟩⟩
  | none =>
    have hexecute : Connection.execute statement c =
        (.ok outcome, { c with database := db }) := by
      simp [Connection.execute, hprepare, hidle, hwrite, hrun]
    exact ⟨fun _ => ⟨outcome, hexecute⟩, fun hnot => absurd (hallowed.mpr hwrite) hnot⟩

/-- A table is made unless it is there already. For that its name may not be that of an index, and
the part that it is made in has to be writable. -/
theorem takes_createTable (c : Connection) {d : Definition}
    (hname : Database.isReservedName d.name = false)
    (hdistinct : repeatedName? [] d.columnNames = none) (hsome : d.columnNames.isEmpty = false) :
    Takes c (.createTable d true)
      ((c.database.tableIn? d.part d.name).isSome = true ∨
        c.database.hasIndex d.part d.name = false ∧ c.writeFault? d.part = none)
      (c.database.withTable d) := by
  cases hthere : (c.database.tableIn? d.part d.name).isSome with
  | true =>
    have hkept : c.database.withTable d = c.database := if_pos hthere
    rw [hkept]
    exact .of_idle (by simp [prepare, hthere]) hthere (.inl rfl)
  | false =>
    have hnone : c.database.tableIn? d.part d.name = none := by simpa using hthere
    cases hindex : c.database.hasIndex d.part d.name with
    | true =>
      refine .of_error (.nameTaken "an index" d.name) ?_ (by simp)
      simp [prepare, hnone, Database.nameFault?, hname, hindex]
    | false =>
      refine .of_run {} ?_ hthere ?_ (by simp [part])
      · simp [prepare, hnone, Database.nameFault?, hname, hindex, hdistinct, hsome]
      · simp [run, Database.withTable, hnone]

/-- An index is made unless it is there already. For that its name may not be that of a table, its
table has to have the columns, and has to be writable. -/
theorem takes_createIndex (c : Connection) {i : Index} {t : Table} (text : String)
    {offsets : List Nat} (htable : c.database.table? i.table = some t)
    (hoffsets : i.columns.length ≤ offsets.length) :
    Takes c (.createIndex i text offsets)
      (c.database.tableIn? (c.database.indexPart i) i.name = none ∧
        (c.database.hasIndex (c.database.indexPart i) i.name = true ∨
          (∀ column ∈ i.columns, t.definition.hasColumn column = true) ∧
            c.writeFault? (c.database.indexPart i) = none))
      (c.database.withIndex i) := by
  have hpart : t.definition.part = c.database.indexPart i := by
    rw [Database.indexPart, htable]
    rfl
  have hcolumns : (i.columns.zip offsets).find? (fun x => !t.definition.hasColumn x.1) = none ↔
      ∀ column ∈ i.columns, t.definition.hasColumn column = true := by
    -- every column has its place in the text
    have hplaces : (∀ column ∈ i.columns, t.definition.hasColumn column = true) ↔
        ∀ x ∈ i.columns.zip offsets, t.definition.hasColumn x.1 = true := by
      constructor
      · exact fun h x hx => h x.1 (List.of_mem_zip hx).1
      · intro h column hcolumn
        rw [← List.map_fst_zip hoffsets] at hcolumn
        obtain ⟨x, hx, rfl⟩ := List.mem_map.mp hcolumn
        exact h x hx
    rw [List.find?_eq_none, hplaces]
    simp
  cases hfree : c.database.tableIn? (c.database.indexPart i) i.name with
  | some taken =>
    refine .of_error (.nameTaken "a table" i.name) ?_ (by simp)
    simp [prepare, htable, hpart, hfree]
  | none =>
    cases hthere : c.database.hasIndex (c.database.indexPart i) i.name with
    | true =>
      have hkept : c.database.withIndex i = c.database := if_pos hthere
      rw [hkept]
      exact .of_idle (by simp [prepare, htable, hpart, hfree, hthere]) hthere (by simp)
    | false =>
      cases hmissing : (i.columns.zip offsets).find? (fun x => !t.definition.hasColumn x.1) with
      | some x =>
        rw [hmissing] at hcolumns
        refine .of_error (.located (.noColumn x.1) text x.2) ?_ (by simp [← hcolumns])
        simp [prepare, htable, hpart, hfree, hthere, hmissing]
      | none =>
        rw [hmissing] at hcolumns
        refine .of_run {} ?_ hthere ?_ (by simp [← hcolumns, part])
        · simp [prepare, htable, hpart, hfree, hthere, hmissing]
        · simp [run, Database.withIndex, hthere]

/-- The version is changed wherever the database can be written. -/
theorem takes_setVersion (c : Connection) (version : Int) :
    Takes c (.setVersion version) (c.writeFault? .main = none)
      { c.database with version := keptVersion version } :=
  .of_run {} rfl rfl rfl Iff.rfl

/-- Only what a statement is allowed under is looked at. -/
theorem TakesAll.congr {statements : List Statement} (h : TakesAll c statements Allowed db)
    (hiff : Later ↔ Allowed) : TakesAll c statements Later db where
  done hlater := h.done (hiff.mp hlater)
  refused hnot := h.refused fun hallowed => hnot (hiff.mpr hallowed)

end Storage.Statement

/-! ## What migrating makes of a database -/

namespace Schema

variable {c : Connection} {db : Database} {d : Definition} {i : Index} {part : Part}
  {name : String}

/-- The index of sectors by tenant and organization. -/
def organizationIndex : Index where
  name := "idx_sectors_tenant_org"
  table := "sectors"
  columns := ["tenant_id", "org_id"]

/-- The index of sectors by parent. -/
def parentIndex : Index where
  name := "idx_sectors_parent"
  table := "sectors"
  columns := ["parent_id"]

/-- The tables of the schema. -/
def tables : List Definition :=
  [organizations, sectors]

/-- The indexes of the schema. -/
def indexes : List Index :=
  [organizationIndex, parentIndex]

theorem mem_tables : d ∈ tables ↔ d = organizations ∨ d = sectors := by
  simp [tables]

theorem mem_indexes : i ∈ indexes ↔ i = organizationIndex ∨ i = parentIndex := by
  simp [indexes]

theorem forall_mem_tables {P : Definition → Prop} :
    (∀ d ∈ tables, P d) ↔ P organizations ∧ P sectors := by
  simp [tables]

theorem forall_mem_indexes {P : Index → Prop} :
    (∀ i ∈ indexes, P i) ↔ P organizationIndex ∧ P parentIndex := by
  simp [indexes]

/-- The database with the tables of the schema, empty ones where there were none. -/
def withTables (db : Database) : Database :=
  (db.withTable organizations).withTable sectors

/-- The database with the whole schema. -/
def completed (db : Database) : Database :=
  { ((withTables db).withIndex organizationIndex).withIndex parentIndex with
    version := latestVersion }

/-- Nothing in a database keeps the schema from being completed. -/
structure Unhindered (db : Database) : Prop where
  /-- No index has the name of a table that has to be made. -/
  table_free : ∀ d ∈ tables,
    (db.tableIn? .main d.name).isSome = true ∨ db.hasIndex .main d.name = false
  /-- No table has the name of an index. -/
  index_free : ∀ i ∈ indexes, db.tableIn? (db.indexPart i) i.name = none
  /-- A table has the columns that an index has to be made over. -/
  indexable : ∀ i ∈ indexes, db.hasIndex (db.indexPart i) i.name = true ∨
    ∀ t, db.table? i.table = some t → ∀ column ∈ i.columns, t.definition.hasColumn column = true

/-! ### Look-ups after the tables are made -/

theorem tableIn?_withTables_of_ne
    (h : ∀ d ∈ tables, (d.part == part && Text.sameName d.name name) = false) :
    (withTables db).tableIn? part name = db.tableIn? part name := by
  obtain ⟨horganizations, hsectors⟩ := forall_mem_tables.mp h
  rw [withTables, Database.tableIn?_withTable_of_ne hsectors,
    Database.tableIn?_withTable_of_ne horganizations]

/-- The tables of the schema are there, each as it was before or empty. -/
theorem tableIn?_withTables (hd : d ∈ tables) : (withTables db).tableIn? .main d.name =
    some ((db.tableIn? .main d.name).getD { definition := d }) := by
  rcases mem_tables.mp hd with rfl | rfl
  · rw [withTables, Database.tableIn?_withTable_of_ne (by decide)]
    exact Database.tableIn?_withTable_self
  · have hbefore : (db.withTable organizations).tableIn? .main sectors.name =
        db.tableIn? .main sectors.name := Database.tableIn?_withTable_of_ne (by decide)
    rw [← hbefore]
    exact Database.tableIn?_withTable_self

/-- What the name of a table of the schema denotes is what it denoted before, or the new table. -/
theorem table?_withTables (hd : d ∈ tables) : (withTables db).table? d.name =
    some ((db.table? d.name).getD { definition := d }) := by
  have htemporary : (withTables db).tableIn? .temporary d.name = db.tableIn? .temporary d.name := by
    have hparts : ∀ d ∈ tables, (d.part == .temporary) = false := by decide
    exact tableIn?_withTables_of_ne fun d hd => by rw [hparts d hd, Bool.false_and]
  rw [Database.table?, Database.table?, htemporary, tableIn?_withTables hd]
  cases db.tableIn? .temporary d.name <;> rfl

/-- The table that the indexes are over. -/
theorem table?_indexed (hi : i ∈ indexes) : (withTables db).table? i.table =
    some ((db.table? i.table).getD { definition := sectors }) := by
  have hname : i.table = sectors.name := by
    rcases mem_indexes.mp hi with rfl | rfl <;> rfl
  rw [hname]
  exact table?_withTables (mem_tables.mpr (.inr rfl))

theorem indexPart_withTables (hi : i ∈ indexes) :
    (withTables db).indexPart i = db.indexPart i := by
  have hpart : i.part = .main := by
    rcases mem_indexes.mp hi with rfl | rfl <;> rfl
  rw [Database.indexPart, Database.indexPart, hpart, table?_indexed hi]
  cases db.table? i.table <;> rfl

theorem indexes_withTables : (withTables db).indexes = db.indexes := by
  rw [withTables, Database.withTable_indexes, Database.withTable_indexes]

/-- No table of the schema has the name of an index of it. -/
theorem tableIn?_withTables_index (hi : i ∈ indexes) :
    (withTables db).tableIn? part i.name = db.tableIn? part i.name := by
  have hnames : ∀ i ∈ indexes, ∀ d ∈ tables, Text.sameName d.name i.name = false := by decide
  exact tableIn?_withTables_of_ne fun d hd => by rw [hnames i hi d hd, Bool.and_false]

/-! ### The pending statements -/

/-- The table that the schema makes itself has the columns of its indexes. -/
theorem hasColumn_withTables (hi : i ∈ indexes) :
    (∀ column ∈ i.columns,
        ((db.table? i.table).getD { definition := sectors }).definition.hasColumn column = true) ↔
      ∀ t, db.table? i.table = some t →
        ∀ column ∈ i.columns, t.definition.hasColumn column = true := by
  have hown : ∀ i ∈ indexes, ∀ column ∈ i.columns, sectors.hasColumn column = true := by decide
  cases db.table? i.table with
  | none => simpa using hown i hi
  | some t => simp

/-- An index of the schema over its tables, where `db` is what there was before the tables and no
index with its name has been made since. -/
theorem takes_index (hi : i ∈ indexes) (text : String) {offsets : List Nat}
    (hoffsets : i.columns.length ≤ offsets.length)
    (htables : c.database.tables = (withTables db).tables)
    (hindex : ∀ part, c.database.hasIndex part i.name = db.hasIndex part i.name) :
    Statement.Takes c (.createIndex i text offsets)
      (db.tableIn? (db.indexPart i) i.name = none ∧
        (db.hasIndex (db.indexPart i) i.name = true ∨
          (∀ t, db.table? i.table = some t →
            ∀ column ∈ i.columns, t.definition.hasColumn column = true) ∧
          c.writeFault? (db.indexPart i) = none))
      (c.database.withIndex i) := by
  have hlook : ∀ part name, c.database.tableIn? part name = (withTables db).tableIn? part name :=
    fun part name => by rw [Database.tableIn?, htables, Database.tableIn?]
  have hdenoted : ∀ name, c.database.table? name = (withTables db).table? name :=
    fun name => by simp only [Database.table?, hlook]
  have hsame : c.database.indexPart i = (withTables db).indexPart i := by
    rw [Database.indexPart, hdenoted, Database.indexPart]
  have hpart : c.database.indexPart i = db.indexPart i := hsame.trans (indexPart_withTables hi)
  have hindexed : c.database.table? i.table =
      some ((db.table? i.table).getD { definition := sectors }) := by
    rw [hdenoted, table?_indexed hi]
  have htakes := Statement.takes_createIndex c text hindexed hoffsets
  rwa [hpart, hlook, tableIn?_withTables_index hi, hindex, hasColumn_withTables hi] at htakes

section Pending

variable {rest : List Statement} {Later : Prop} {db' : Database}

/-- The tables first: each of them is there, or its name is free. -/
theorem takesAll_tables
    (hrest : Statement.TakesAll { c with database := withTables c.database } rest Later db') :
    Statement.TakesAll c (.createTable organizations true :: .createTable sectors true :: rest)
      ((∀ d ∈ tables, (c.database.tableIn? .main d.name).isSome = true ∨
          c.database.hasIndex .main d.name = false ∧ c.writeFault? .main = none) ∧ Later)
      db' := by
  have hfirst := Statement.takes_createTable c (d := organizations) (by decide) (by decide) rfl
  have hsecond := Statement.takes_createTable
    { c with database := c.database.withTable organizations } (d := sectors)
    (by decide) (by decide) rfl
  have hfresh : (c.database.withTable organizations).tableIn? sectors.part sectors.name =
      c.database.tableIn? sectors.part sectors.name :=
    Database.tableIn?_withTable_of_ne (by decide)
  simp only [hfresh, Database.hasIndex_withTable, Connection.writeFault?_database] at hsecond
  refine (Statement.TakesAll.cons hfirst (.cons hsecond hrest)).congr ?_
  -- the parts and the names are those of the definitions
  rw [forall_mem_tables, and_assoc]
  exact Iff.rfl

/-- The indexes over the tables, where `db` is what there was before the tables. -/
theorem takesAll_indexes (htables : c.database.tables = (withTables db).tables)
    (hindexes : c.database.indexes = db.indexes)
    (hrest : Statement.TakesAll
      { c with database := (c.database.withIndex organizationIndex).withIndex parentIndex }
      rest Later db') :
    Statement.TakesAll c
      (.createIndex organizationIndex organizationIndexText [68, 79] ::
        .createIndex parentIndex parentIndexText [64] :: rest)
      ((∀ i ∈ indexes, db.tableIn? (db.indexPart i) i.name = none ∧
          (db.hasIndex (db.indexPart i) i.name = true ∨
            (∀ t, db.table? i.table = some t →
              ∀ column ∈ i.columns, t.definition.hasColumn column = true) ∧
            c.writeFault? (db.indexPart i) = none)) ∧ Later)
      db' := by
  have hsame : ∀ part name, c.database.hasIndex part name = db.hasIndex part name :=
    fun part name => by rw [Database.hasIndex, hindexes, Database.hasIndex]
  have hfirst := takes_index (mem_indexes.mpr (.inl rfl)) organizationIndexText
    (show 2 ≤ [68, 79].length by decide) htables fun part => hsame part _
  have hsecond := takes_index
    (c := { c with database := c.database.withIndex organizationIndex })
    (mem_indexes.mpr (.inr rfl)) parentIndexText (show 1 ≤ [64].length by decide)
    (Database.withIndex_tables.trans htables) fun part =>
      (Database.hasIndex_withIndex_of_ne (by decide)).trans (hsame part _)
  rw [Connection.writeFault?_database] at hsecond
  refine (Statement.TakesAll.cons hfirst (.cons hsecond hrest)).congr ?_
  rw [forall_mem_indexes, and_assoc]

/-- The pending statements complete the schema exactly if nothing is in their way. -/
theorem takesAll_pending (c : Connection) : Statement.TakesAll c (pending 0)
    (c.writeFault? .main = none ∧ Unhindered c.database) (completed c.database) := by
  have hversion := Statement.takes_setVersion
    { c with
      database := ((withTables c.database).withIndex organizationIndex).withIndex parentIndex }
    latestVersion
  have hindexes := takesAll_indexes (c := { c with database := withTables c.database }) rfl
    indexes_withTables (.cons hversion (.nil _))
  refine (takesAll_tables hindexes).congr ?_
  simp only [Connection.writeFault?_database]
  constructor
  · rintro ⟨hwrite, hfree⟩
    have hall := Connection.writeFault?_eq_none hwrite
    exact ⟨fun d hd => (hfree.table_free d hd).imp_right (⟨·, hwrite⟩),
      fun i hi => ⟨hfree.index_free i hi, (hfree.indexable i hi).imp_right (⟨·, hall _⟩)⟩,
      hwrite, trivial⟩
  · rintro ⟨htables, hindexes, hwrite, -⟩
    exact ⟨hwrite, fun d hd => (htables d hd).imp_right And.left,
      fun i hi => (hindexes i hi).1, fun i hi => (hindexes i hi).2.imp_right And.left⟩

end Pending

/-! ### Whole migrations -/

theorem latestVersion_eq : latestVersion = 1 :=
  rfl

/-- A connection that the pending statements complete the schema of. -/
structure Completes (c : Connection) : Prop where
  version_eq : c.database.version = 0
  closed : c.saved = none
  writable : c.writeFault? .main = none
  unhindered : Unhindered c.database

theorem Completes.not_newer (h : Completes c) : ¬ latestVersion < c.database.version := by
  rw [h.version_eq]
  decide

/-- All that a migration may come to. -/
inductive Migrated (c : Connection) : Except DatabaseError Unit × Connection → Prop where
  | current (h : c.database.version = latestVersion) : Migrated c (.ok (), c)
  | completed (h : Completes c) :
    Migrated c (.ok (), { c with database := completed c.database })
  | newer (h : latestVersion < c.database.version) :
    Migrated c (.error (.unsupportedVersion c.database.version.toNat latestVersion), c)
  | failed (fault : Fault) (hold : c.database.version < latestVersion) (hnot : ¬ Completes c) :
    Migrated c (.error (.storage fault), c)

/-- The statements of a migration run in a transaction, which undoes what a failure leaves. -/
theorem migrated_pending (hversion : c.database.version = 0) : Migrated c (migrate c) := by
  have hcurrent : version c = .ok 0 := by
    rw [version, hversion]
    rfl
  have hold : c.database.version < latestVersion := by
    rw [hversion]
    decide
  cases hsaved : c.saved with
  | some before =>
    have hbegin : Connection.beginDeferred c = (.error .transactionOpen, c) := by
      simp [Connection.beginDeferred, Connection.inTransaction, hsaved]
    have hmigrate : migrate c = (.error (.storage .transactionOpen), c) := by
      simp [migrate, hcurrent, hbegin, latestVersion_eq]
    rw [hmigrate]
    exact .failed _ hold fun h => nomatch hsaved.symm.trans h.closed
  | none =>
    have hbegin : Connection.beginDeferred c =
        (.ok (), { c with saved := some c.database }) := by
      simp [Connection.beginDeferred, Connection.inTransaction, hsaved]
    have htakes := takesAll_pending { c with saved := some c.database }
    by_cases hallowed : c.writeFault? .main = none ∧ Unhindered c.database
    · have hdone := htakes.done hallowed
      have hmigrate : migrate c = (.ok (), { c with database := completed c.database }) := by
        simp [migrate, hcurrent, hbegin, latestVersion_eq, hdone, Connection.commit,
          Connection.inTransaction, ← hsaved]
      rw [hmigrate]
      exact .completed ⟨hversion, hsaved, hallowed.1, hallowed.2⟩
    · obtain ⟨fault, database, hfault⟩ := htakes.refused hallowed
      have hmigrate : migrate c = (.error (.storage fault), c) := by
        simp [migrate, hcurrent, hbegin, latestVersion_eq, hfault, Connection.undone, ← hsaved]
      rw [hmigrate]
      exact .failed _ hold fun h => hallowed ⟨h.writable, h.unhindered⟩

theorem migrate_of_current (h : c.database.version = latestVersion) : migrate c = (.ok (), c) := by
  have hversion : version c = .ok latestVersion := by
    rw [version, h]
    rfl
  simp only [migrate, hversion, Nat.lt_irrefl, if_false, if_true]

/-- A migration completes the schema, or there is nothing to do, or it is refused and leaves
everything as it was. -/
theorem migrated_migrate (c : Connection) : Migrated c (migrate c) := by
  by_cases hsign : 0 ≤ c.database.version
  · have hversion : version c = .ok c.database.version.toNat := if_pos hsign
    have hlatest := latestVersion_eq
    by_cases hnewer : latestVersion < c.database.version
    · have hlt : latestVersion < c.database.version.toNat := by omega
      have hmigrate : migrate c =
          (.error (.unsupportedVersion c.database.version.toNat latestVersion), c) := by
        simp only [migrate, hversion, if_pos hlt]
      rw [hmigrate]
      exact .newer hnewer
    · by_cases hcurrent : c.database.version = latestVersion
      · rw [migrate_of_current hcurrent]
        exact .current hcurrent
      · exact migrated_pending (by omega)
  · have hversion : version c = .error (.outOfRange c.database.version 0) := if_neg hsign
    have hmigrate : migrate c = (.error (.storage (.outOfRange c.database.version 0)), c) := by
      simp only [migrate, hversion]
    rw [hmigrate]
    have hlatest := latestVersion_eq
    exact .failed _ (by omega) fun h => hsign (Int.le_of_eq h.version_eq.symm)

theorem completed_version : (completed db).version = latestVersion :=
  rfl

theorem completed_tables : (completed db).tables = (withTables db).tables := by
  rw [completed, Database.withIndex_tables, Database.withIndex_tables]

/-- `t` is an empty table of the schema, and no table of `db` has its name. -/
structure IsNew (db : Database) (t : Table) : Prop where
  empty : t.rows = []
  mem_tables : t.definition ∈ tables
  missing : db.tableIn? .main t.definition.name = none

theorem tables_completed : ∃ added, (completed db).tables = db.tables ++ added ∧
    ∀ t ∈ added, IsNew db t := by
  obtain ⟨first, hfirst, hnew⟩ := @Database.tables_withTable db organizations
  obtain ⟨second, hsecond, hnew'⟩ := @Database.tables_withTable (db.withTable organizations) sectors
  refine ⟨first ++ second, ?_, fun t ht => ?_⟩
  · rw [completed_tables, withTables, hsecond, hfirst, List.append_assoc]
  · rcases List.mem_append.mp ht with ht | ht
    · obtain ⟨rfl, hmissing⟩ := hnew t ht
      exact ⟨rfl, mem_tables.mpr (.inl rfl), hmissing⟩
    · obtain ⟨rfl, hmissing⟩ := hnew' t ht
      rw [Database.tableIn?_withTable_of_ne (by decide)] at hmissing
      exact ⟨rfl, mem_tables.mpr (.inr rfl), hmissing⟩

theorem indexes_completed : db.indexes <+: (completed db).indexes := by
  rw [← indexes_withTables]
  exact Database.indexes_prefix_withIndex.trans Database.indexes_prefix_withIndex

theorem table?_completed (hd : d ∈ tables) : (completed db).table? d.name =
    some ((db.table? d.name).getD { definition := d }) := by
  rw [← table?_withTables hd]
  simp only [Database.table?, Database.tableIn?, completed_tables]

theorem tableIn?_completed (hd : d ∈ tables) : (completed db).tableIn? .main d.name =
    some ((db.tableIn? .main d.name).getD { definition := d }) := by
  rw [Database.tableIn?, completed_tables]
  exact tableIn?_withTables hd

theorem hasIndex_completed (hi : i ∈ indexes) :
    (completed db).hasIndex (db.indexPart i) i.name = true := by
  rw [← indexPart_withTables hi]
  rcases mem_indexes.mp hi with rfl | rfl
  · exact (Database.hasIndex_withIndex_of_ne (by decide)).trans Database.hasIndex_withIndex
  · rw [← Database.indexPart_withIndex (i := organizationIndex)]
    exact Database.hasIndex_withIndex

/-- What a migration leaves of a connection. -/
structure Atomic (c : Connection) (result : Except DatabaseError Unit) (c' : Connection) :
    Prop where
  /-- After a failure everything is as it was. -/
  failed : ∀ error, result = .error error → c' = c
  /-- A success brings the database to the current version. -/
  version_eq : result = .ok () → c'.database.version = latestVersion
  /-- Every table that was there keeps its definition and its rows. -/
  tables_kept : ∃ added, c'.database.tables = c.database.tables ++ added ∧
    ∀ t ∈ added, IsNew c.database t
  indexes_kept : c.database.indexes <+: c'.database.indexes
  /-- After a success from an older version every table is there, as it was or empty. -/
  tables_there : result = .ok () → c.database.version < latestVersion → ∀ d ∈ tables,
    c'.database.tableIn? .main d.name =
      some ((c.database.tableIn? .main d.name).getD { definition := d })
  /-- After a success from an older version every index is there. -/
  indexes_there : result = .ok () → c.database.version < latestVersion → ∀ i ∈ indexes,
    c'.database.hasIndex (c.database.indexPart i) i.name = true
  /-- A later version is refused. -/
  newer : latestVersion < c.database.version →
    result = .error (.unsupportedVersion c.database.version.toNat latestVersion)
  /-- After a success there is nothing left to do. -/
  again : result = .ok () → migrate c' = (.ok (), c')
  /-- It succeeds exactly if there is nothing to do, or nothing in the way of the schema. -/
  ok_iff : result = .ok () ↔ c.database.version = latestVersion ∨ Completes c

/-- What was not changed was kept. -/
theorem tables_unchanged : ∃ added, db.tables = db.tables ++ added ∧ ∀ t ∈ added, IsNew db t :=
  ⟨[], (List.append_nil _).symm, fun _ ht => nomatch ht⟩

theorem Atomic.refused {error : DatabaseError}
    (hnewer : latestVersion < c.database.version →
      error = .unsupportedVersion c.database.version.toNat latestVersion)
    (hcurrent : c.database.version ≠ latestVersion) (hnot : ¬ Completes c) :
    Atomic c (.error error) c where
  failed _ _ := rfl
  version_eq hok := nomatch hok
  tables_kept := tables_unchanged
  indexes_kept := List.prefix_rfl
  tables_there hok := nomatch hok
  indexes_there hok := nomatch hok
  newer hnew := congrArg _ (hnewer hnew)
  again hok := nomatch hok
  ok_iff := ⟨fun hok => (nomatch hok), fun h => (h.elim hcurrent hnot).elim⟩

/-- Whatever a database holds and whatever is open, migrating it is all or nothing, leaves every
table that was there as it was, and is done once. -/
theorem migrate_atomic (c : Connection) : Atomic c (migrate c).1 (migrate c).2 := by
  generalize hoccur : migrate c = occur
  have hmigrated : Migrated c occur := hoccur ▸ migrated_migrate c
  cases hmigrated with
  | current hversion =>
    exact {
      failed := fun _ _ => rfl
      version_eq := fun _ => hversion
      tables_kept := tables_unchanged
      indexes_kept := List.prefix_rfl
      tables_there := fun _ hold => absurd hversion (Int.ne_of_lt hold)
      indexes_there := fun _ hold => absurd hversion (Int.ne_of_lt hold)
      newer := fun hnew => absurd hversion (Int.ne_of_gt hnew)
      again := fun _ => migrate_of_current hversion
      ok_iff := ⟨fun _ => .inl hversion, fun _ => rfl⟩ }
  | completed h =>
    exact {
      failed := fun _ herror => nomatch herror
      version_eq := fun _ => completed_version
      tables_kept := tables_completed
      indexes_kept := indexes_completed
      tables_there := fun _ _ _ hd => tableIn?_completed hd
      indexes_there := fun _ _ _ hi => hasIndex_completed hi
      newer := fun hnew => absurd hnew h.not_newer
      again := fun _ => migrate_of_current completed_version
      ok_iff := ⟨fun _ => .inr h, fun _ => rfl⟩ }
  | newer hnew => exact .refused (fun _ => rfl) (Int.ne_of_gt hnew) fun h => h.not_newer hnew
  | failed fault hold hnot =>
    exact .refused (fun hnew => absurd hold (Int.not_lt.mpr (Int.le_of_lt hnew)))
      (Int.ne_of_lt hold) hnot

end Schema

end SectorForest
