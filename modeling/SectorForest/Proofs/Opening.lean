import Mathlib.Control.Monad.Basic
import SectorForest.Config
import SectorForest.Proofs.Migration

/-!
# What opening a database ends in

A connection that is opened is told first how long to wait for other writers, and it can be told so
up to a longest time. No configuration is refused for a longer one. So opening a database crashes
for a longer time, provided that there is a file to open or that none is needed: `OpenEnds` says so
of all ways to open a database, and `DatabaseConfig.Opened` of all configurations.

Where opening succeeds, the time that the connection was told is the one that the configuration
asks for. A database in memory is not asked for by a file, and gets the time that is usual.
-/

namespace SectorForest

open Storage

variable {settings : OpenSettings} {files : Files} {directory : Location} {text : String}

/-! ## Preparing a connection -/

/-- A connection that has been told the settings. -/
def OpenSettings.told (settings : OpenSettings) (c : Connection) : Connection :=
  { c with foreignKeys := true, busyTimeout := settings.busyTimeout }

theorem prepareConnection_of_lt {c : Connection}
    (h : longestBusyTimeout < settings.busyTimeout) :
    prepareConnection settings c = (.error .timeoutTooLong, c) :=
  if_pos h

theorem prepareConnection_of_le {c : Connection}
    (h : settings.busyTimeout ≤ longestBusyTimeout) :
    prepareConnection settings c = ((Schema.migrate (settings.told c)).1.mapError .refused,
      (Schema.migrate (settings.told c)).2) :=
  if_neg (Nat.not_lt.mpr h)

/-- A migration leaves the settings of a connection as they are. -/
theorem Schema.busyTimeout_migrate (c : Connection) :
    (migrate c).2.busyTimeout = c.busyTimeout := by
  have hmigrated := migrated_migrate c
  generalize migrate c = occur at hmigrated ⊢
  cases hmigrated <;> rfl

/-- How opening ends, where there is something to open and where there is not. -/
structure OpenEnds (isThere : Prop) (settings : OpenSettings)
    (result : Except OpenFailure Connection) : Prop where
  crashes_iff : result = .error .timeoutTooLong ↔
    isThere ∧ longestBusyTimeout < settings.busyTimeout
  busyTimeout_eq : ∀ c, result = .ok c → c.busyTimeout = settings.busyTimeout

theorem settled_refused (settings : OpenSettings) (error : DatabaseError) :
    OpenEnds False settings (.error (.refused error)) where
  crashes_iff := by simp
  busyTimeout_eq := by simp

/-- A connection that is prepared is there. -/
theorem settled_prepared (medium : Medium) (settings : OpenSettings) (c : Connection) :
    OpenEnds True settings ((prepareTold medium settings c).1.map fun () =>
      (prepareTold medium settings c).2.1) := by
  rcases Nat.lt_or_ge longestBusyTimeout settings.busyTimeout with hlong | hle
  · simp only [prepareTold, prepareConnection_of_lt hlong]
    exact ⟨by simp [Except.map, hlong], by simp [Except.map]⟩
  · have htimeout := Schema.busyTimeout_migrate (settings.told c)
    simp only [prepareTold, prepareConnection_of_le hle]
    generalize Schema.migrate _ = occur at htimeout ⊢
    obtain ⟨error | _, c'⟩ := occur
    · exact ⟨by simp [Except.mapError, Except.map, hle], by simp [Except.mapError, Except.map]⟩
    · exact ⟨by simp [Except.mapError, Except.map, hle],
        fun _ h => Except.ok.inj h ▸ htimeout⟩

/-! ## Databases at an address -/

/-- There is a database to open at an address: it needs no file, or its file is there or is made. -/
def IsThere (files : Files) (directory : Location) (text : String) (address : Address) : Prop :=
  address.isMemory = true ∨ ∃ found, reach files directory text address = .ok found

theorem settled_openAddress (files : Files) (directory : Location) (text : String)
    (address : Address) (settings : OpenSettings) :
    OpenEnds (IsThere files directory text address) settings
      (openAddress files directory text address settings).result := by
  unfold openAddress
  by_cases hmemory : address.isMemory = true
  · have hthere : IsThere files directory text address ↔ True := iff_true_intro (.inl hmemory)
    simp only [hmemory, if_true, hthere]
    exact settled_prepared _ _ _
  · simp only [hmemory]
    cases hreach : reach files directory text address with
    | error fault =>
      have hthere : IsThere files directory text address ↔ False := by
        simp [IsThere, hmemory, hreach]
      simp only [hthere]
      exact settled_refused _ _
    | ok found =>
      obtain ⟨place, files'⟩ := found
      have hthere : IsThere files directory text address ↔ True :=
        iff_true_intro (.inr ⟨_, hreach⟩)
      simp only [hthere]
      cases lookInto files' address place with
      | error fault =>
        rcases Nat.lt_or_ge longestBusyTimeout settings.busyTimeout with hlong | hle
        · simp only [if_pos hlong]
          exact ⟨by simp [hlong], by simp⟩
        · simp only [if_neg (Nat.not_lt.mpr hle)]
          exact ⟨by simp [hle], by simp⟩
      | ok database => exact settled_prepared _ _ _

/-- There is a database to open at the address that a text spells out. -/
def Leads (files : Files) (directory : Location) (text : String) : Prop :=
  zeroByte? text = none ∧
    ∃ address, Address.ofText text = .ok address ∧ IsThere files directory text address

theorem settled_openFile (files : Files) (directory : Location) (text : String)
    (settings : OpenSettings) :
    OpenEnds (Leads files directory text) settings
      (openFile files directory text settings).result := by
  unfold openFile
  cases hzero : zeroByte? text with
  | some position =>
    have hleads : Leads files directory text ↔ False := by simp [Leads, hzero]
    simp only [hleads]
    exact settled_refused _ _
  | none =>
    cases haddress : Address.ofText text with
    | error fault =>
      have hleads : Leads files directory text ↔ False := by simp [Leads, haddress]
      simp only [hleads]
      exact settled_refused _ _
    | ok address =>
      have hleads : Leads files directory text ↔ IsThere files directory text address := by
        simp [Leads, hzero, haddress]
      simp only [hleads]
      exact settled_openAddress _ _ _ _ _

/-- A database in memory is always opened, with the usual settings. -/
theorem openInMemory_ok (files : Files) :
    ∃ c, (openInMemory files).result = .ok c ∧ c.busyTimeout = ({} : OpenSettings).busyTimeout := by
  have hok : (prepareTold .memory {} {}).1 = .ok () := rfl
  have hsettled := settled_prepared .memory {} {}
  rw [hok] at hsettled
  refine ⟨(prepareTold .memory {} {}).2.1, ?_, hsettled.busyTimeout_eq _ rfl⟩
  have hresult : (openInMemory files).result =
      (prepareTold .memory {} {}).1.map fun () => (prepareTold .memory {} {}).2.1 := rfl
  rw [hresult, hok]
  rfl

/-! ## Databases that a configuration names -/

namespace DatabaseConfig

/-- What opening the database of a configuration ends in. -/
structure Opened (config : DatabaseConfig) (files : Files) (directory : Location) : Prop where
  /-- If the time to wait is not too long there is a connection, or an error that says why not. -/
  answered : config.busyTimeout.toNat ≤ longestBusyTimeout →
    (∃ c, (config.openDatabase files directory).result = .ok c) ∨
      ∃ error, (config.openDatabase files directory).result = .error (.refused error)
  /-- If it is too long, opening crashes as soon as there is a database to open. -/
  crashes_iff : (config.openDatabase files directory).result = .error .timeoutTooLong ↔
    ∃ path, config.path = some path ∧ Leads files directory path ∧
      longestBusyTimeout < config.busyTimeout.toNat
  /-- A connection to a named database waits as long as was asked for. -/
  busyTimeout_eq : ∀ path c, config.path = some path →
    (config.openDatabase files directory).result = .ok c → c.busyTimeout = config.busyTimeout.toNat
  /-- Without a path there always is a connection. -/
  unnamed : config.path = none → ∃ c, (config.openDatabase files directory).result = .ok c

/-- Opening the database of a configuration crashes exactly if the time to wait is longer than a
connection can be told, and there is a database to open. -/
theorem opening_settled (config : DatabaseConfig) (files : Files) (directory : Location) :
    config.Opened files directory := by
  cases hpath : config.path with
  | none =>
    have hopen : config.openDatabase files directory = openInMemory files := by
      rw [openDatabase, hpath]
    obtain ⟨c, hok, -⟩ := openInMemory_ok files
    rw [← hopen] at hok
    exact ⟨fun _ => .inl ⟨c, hok⟩, by simp [hok, hpath], by simp [hpath], fun _ => ⟨c, hok⟩⟩
  | some path =>
    have hopen : config.openDatabase files directory =
        openFile files directory path config.openSettings := by
      rw [openDatabase, hpath]
    have hsettled := settled_openFile files directory path config.openSettings
    rw [← hopen] at hsettled
    constructor
    case answered =>
      intro hle
      cases hresult : (config.openDatabase files directory).result with
      | ok c => exact .inl ⟨c, rfl⟩
      | error failure =>
        cases failure with
        | refused error => exact .inr ⟨error, rfl⟩
        | timeoutTooLong =>
          exact absurd (hsettled.crashes_iff.mp hresult).2 (Nat.not_lt.mpr hle)
    case crashes_iff => simp [hsettled.crashes_iff, hpath, openSettings]
    case busyTimeout_eq => exact fun _ c _ hok => hsettled.busyTimeout_eq c hok
    case unnamed => simp [hpath]

/-- A document that asks for one millisecond more than a connection can be told. -/
def patient : String :=
  "[database]\npath = \"org.sqlite3\"\nbusy_timeout_ms = 2147483648\n"

/-- The document is accepted, and opening its database crashes. With one millisecond less the
database is opened and waits as long as it was told. -/
theorem opening_crashes :
    let waiting (busyTimeout : UInt64) : DatabaseConfig :=
      { path := some "org.sqlite3", busyTimeout }
    (Config.ofToml patient).toOption = some { database := waiting 2147483648 } ∧
      ((waiting 2147483648).openDatabase {} []).result.map (·.busyTimeout) =
        .error .timeoutTooLong ∧
      ((waiting 2147483647).openDatabase {} []).result.map (·.busyTimeout) = .ok 2147483647 := by
  intro waiting
  refine ⟨by decide +kernel, by decide +kernel, by decide +kernel⟩

end DatabaseConfig

end SectorForest
