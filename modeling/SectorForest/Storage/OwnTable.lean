import SectorForest.Storage.Connection

/-!
# Tables of the store's own

Beside the tables of a database there are some that the store keeps or answers itself: catalogs of
the tables, the greatest numbers of keyed tables, readers of JSON, and one table for every setting
that has a value. They can be neither removed nor, but for the numbers, changed. Where a table of
the database has such a name, the name denotes that table.

A table of a setting goes by the name under which a connection first asked for it.
-/

namespace SectorForest.Storage

open Text

/-- A table of the store's own, as far as a change of it can find out. -/
inductive OwnTable where
  /-- A table under the name by which it is reported. -/
  | closed (name : String)
  /-- The greatest numbers of keyed tables. Rows of it may be changed. -/
  | numbers
  /-- A table that answers nothing without being given more. -/
  | wanting (name : String)
  deriving DecidableEq, Repr, Inhabited

namespace OwnTable

/-- The table in which the store remembers the greatest numbers of keyed tables. -/
def numberTable : Definition where
  name := "sqlite_sequence"
  columns := [{ name := "name" }, { name := "seq" }]

/-- The name of the table that describes the tables of a part. -/
def catalogName : Part → String
  | .main => "sqlite_master"
  | .temporary => "sqlite_temp_master"

/-- The catalog that a name denotes. In the temporary part, the names of both catalogs denote the
one that is there. -/
def catalog? (t : TableName) : Option String :=
  let isMain := ["sqlite_master", "sqlite_schema"].any (sameName t.name)
  let isTemporary := ["sqlite_temp_master", "sqlite_temp_schema"].any (sameName t.name)
  match t.part with
  | some .main => if isMain then some (catalogName .main) else none
  | some .temporary => if isMain || isTemporary then some (catalogName .temporary) else none
  | none =>
    if isMain then some (catalogName .main)
    else if isTemporary then some (catalogName .temporary)
    else none

/-- The tables that the store answers without anything being kept. -/
def answered : List String :=
  ["json_each", "json_tree", "dbstat", "fts3tokenize"]

/-- The tables that the store answers only when it is given more. -/
def wantingNames : List String :=
  ["fts4aux"]

/-- How the names of the tables of settings start. -/
def settingPrefix : String := "pragma_"

/-- The settings that have a value. -/
def settings : List String :=
  ["analysis_limit", "application_id", "auto_vacuum", "automatic_index", "busy_timeout",
    "cache_size", "cache_spill", "cell_size_check", "checkpoint_fullfsync", "collation_list",
    "compile_options", "count_changes", "data_version", "database_list", "default_cache_size",
    "defer_foreign_keys", "empty_result_callbacks", "encoding", "foreign_key_check",
    "foreign_key_list", "foreign_keys", "freelist_count", "full_column_names", "fullfsync",
    "function_list", "hard_heap_limit", "ignore_check_constraints", "index_info", "index_list",
    "index_xinfo", "integrity_check", "journal_mode", "journal_size_limit", "legacy_alter_table",
    "locking_mode", "max_page_count", "module_list", "optimize", "page_count", "page_size",
    "pragma_list", "query_only", "quick_check", "read_uncommitted", "recursive_triggers",
    "reverse_unordered_selects", "schema_version", "secure_delete", "short_column_names",
    "soft_heap_limit", "synchronous", "table_info", "table_list", "table_xinfo", "temp_store",
    "threads", "trusted_schema", "user_version", "writable_schema"]

/-- Whether a name denotes the table of a setting. -/
def isSetting (name : String) : Bool :=
  settings.any fun setting => sameName (settingPrefix ++ setting) name

end OwnTable

namespace Connection

/-- The table that the store keeps for itself under a name. -/
def keptTable? (c : Connection) (t : TableName) : Option OwnTable :=
  match OwnTable.catalog? t with
  | some name => some (.closed name)
  | none =>
    if c.database.remembersNumbers && t.part != some .temporary &&
        sameName OwnTable.numberTable.name t.name then some .numbers
    else none

/-- The table that the store answers under a name, whatever part it is asked for in. -/
def answeredTable? (c : Connection) (name : String) : Option OwnTable :=
  let among (names : List String) : Option String := names.find? (sameName name)
  ((among OwnTable.answered).map .closed).or
    (((among OwnTable.wantingNames).map .wanting).or
      (if OwnTable.isSetting name then some (.closed ((among c.asked).getD name)) else none))

/-- The connection after it asked for a table that the store answers. -/
def asking (c : Connection) (name : String) : Connection :=
  if OwnTable.isSetting name && !c.asked.any (sameName name) then
    { c with asked := c.asked ++ [name] }
  else c

end Connection

end SectorForest.Storage
