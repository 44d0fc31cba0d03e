import SectorForest.Datum.Decode
import SectorForest.Opening
import SectorForest.Toml.Document

/-!
# Configuration

A `Config` says which database to open, where and how much to log, and which tenant to serve. It is
read from a TOML document; every setting may be left out, and none that is not known may be there.
The settings are visited in the order of the document, so the first misfit of the document is the
one reported.
-/

namespace SectorForest

/-- Which database to open, and how. -/
structure DatabaseConfig where
  /-- The file of the database; none opens a database in memory. -/
  path : Option String := none
  /-- How long to wait for another writer, in milliseconds. -/
  busyTimeout : UInt64 := 5000
  deriving DecidableEq, Repr, Inhabited

/-- Where and how much to log. -/
structure LogConfig where
  level : String := LogLevel.debug.name
  /-- The directory of the log; none turns the log off. -/
  dir : Option String := none
  deriving DecidableEq, Repr, Inhabited

/-- Which tenant to serve. -/
structure TenantConfig where
  defaultId : TenantId := 1
  deriving DecidableEq, Repr, Inhabited

/-- All settings. -/
structure Config where
  database : DatabaseConfig := {}
  logging : LogConfig := {}
  tenant : TenantConfig := {}
  deriving DecidableEq, Repr, Inhabited

open Datum

namespace DatabaseConfig

/-- The fields of the database section. -/
def layout : Layout where
  expected := "struct DatabaseConfig"
  rules := [rule "path" (asOption (asText "path string")) true,
    rule "busy_timeout_ms" asUInt64 true]
  ignoresUnknown := false
  ignoresSurplus := true

/-- The database section read from a datum. -/
def ofDatum (d : Datum) : Reading DatabaseConfig := do
  let fields ← layout.unpack d
  let path ← optional fields "path" (asOption (asText "path string")) none
  let busyTimeout ← optional fields "busy_timeout_ms" asUInt64 5000
  pure { path, busyTimeout }

/-- The settings of a connection that the section asks for. -/
def openSettings (c : DatabaseConfig) : OpenSettings where
  busyTimeout := c.busyTimeout.toNat

/-- Open the database that the section names. -/
def openDatabase (c : DatabaseConfig) (files : Files) (directory : Location) : Opening :=
  match c.path with
  | some path => openFile files directory path c.openSettings
  | none => openInMemory files

end DatabaseConfig

namespace LogConfig

/-- The fields of the logging section. -/
def layout : Layout where
  expected := "struct LoggingConfig"
  rules := [rule "level" (asText "a string") true, rule "dir" (asOption (asText "a string")) true]
  ignoresUnknown := false
  ignoresSurplus := true

/-- The logging section read from a datum. -/
def ofDatum (d : Datum) : Reading LogConfig := do
  let fields ← layout.unpack d
  let level ← optional fields "level" (asText "a string") LogLevel.debug.name
  let dir ← optional fields "dir" (asOption (asText "a string")) none
  pure { level, dir }

end LogConfig

namespace TenantConfig

/-- The fields of the tenant section. -/
def layout : Layout where
  expected := "struct TenantConfig"
  rules := [rule "default_id" asInt64 true]
  ignoresUnknown := false
  ignoresSurplus := true

/-- The tenant section read from a datum. -/
def ofDatum (d : Datum) : Reading TenantConfig := do
  let fields ← layout.unpack d
  let defaultId ← optional fields "default_id" asInt64 1
  pure { defaultId }

end TenantConfig

/-- Why there is no configuration. -/
inductive ConfigError where
  | unreadable (path : String) (cause : PathError)
  /-- The text is no TOML document. -/
  | notToml
  | misfit (cause : Misfit)
  deriving Inhabited

namespace Config

/-- The sections of a configuration. -/
def layout : Layout where
  expected := "struct CoreConfig"
  rules := [rule "database" DatabaseConfig.ofDatum true, rule "logging" LogConfig.ofDatum true,
    rule "tenant" TenantConfig.ofDatum true]
  ignoresUnknown := false
  ignoresSurplus := true

/-- A configuration read from a datum. -/
def ofDatum (d : Datum) : Reading Config := do
  let fields ← layout.unpack d
  let database ← optional fields "database" DatabaseConfig.ofDatum {}
  let logging ← optional fields "logging" LogConfig.ofDatum {}
  let tenant ← optional fields "tenant" TenantConfig.ofDatum {}
  pure { database, logging, tenant }

/-- A configuration read from the text of a TOML document. -/
def ofToml (source : String) : Except ConfigError Config :=
  match Toml.read? source with
  | none => .error .notToml
  | some d => (ofDatum d).mapError .misfit

/-- A configuration read from a file. -/
def load (files : Files) (directory : Location) (path : String) : Except ConfigError Config :=
  match files.readText directory path with
  | .error cause => .error (.unreadable path cause)
  | .ok source => ofToml source

end Config

/-- The wording of a configuration error. A text that is no TOML document is not worded further. -/
def ConfigError.message : ConfigError → String
  | .unreadable path cause => "failed to read config `" ++ path ++ "`: " ++ cause.message
  | .notToml => "invalid config: "
  | .misfit cause => "invalid config: " ++ cause.message Toml.style

end SectorForest
