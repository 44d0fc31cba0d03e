import Mathlib.Data.List.Induction
import Mathlib.Logic.Relation
import Mathlib.Tactic.SplitIfs
import SectorForest.Config
import SectorForest.Logging

/-!
# When the log is active

The log is started by requests, which may come at any time, from any place of a program, and with
any settings. What the world is like at a request decides whether the log can be started then. So a
run is a list of calls, each with a world of its own, and everything is said of all runs, whatever
starts the log: `startLog` is one way, and its worlds are trees of files.

The log stays off until a call succeeds, and has the settings of that call ever after. To say which
later calls are accepted, `LogLevel.IsNamed` and `SameWay` tell without recourse to the checks which
texts name the same level, and which the same directory: paths that differ in repeated slashes, in
steps that stay where they are, and in a slash behind the last step lead the same way. A request
that could never start the log is refused for that, whether the log is active or not.
-/

namespace SectorForest

/-! ## Names of levels -/

/-- A text as it is compared with the names of levels. -/
def spelled (text : String) : String :=
  (Text.trim text).map Char.toLower

/-- A text names a level, up to case and to the blanks around it. One level has a second name. -/
def LogLevel.IsNamed (level : LogLevel) (text : String) : Prop :=
  spelled text = level.name ∨ level = .warn ∧ spelled text = "warning"

theorem parseLevel_eq_ok_iff {text : String} {level : LogLevel} :
    parseLevel text = .ok level ↔ level.IsNamed text := by
  have hparse : parseLevel text =
      if spelled text = "trace" then .ok .trace
      else if spelled text = "debug" then .ok .debug
      else if spelled text = "info" then .ok .info
      else if spelled text = "warn" ∨ spelled text = "warning" then .ok .warn
      else if spelled text = "error" then .ok .error
      else .error (.unsupportedLevel (spelled text)) := rfl
  rw [hparse, LogLevel.IsNamed]
  cases level <;> simp only [LogLevel.name] <;> split_ifs with _ _ _ hwarn <;> simp_all
  rcases hwarn with hname | hname <;> simp [hname]

/-- A text that names no level is refused as it is spelled. -/
theorem parseLevel_eq_error {text : String} (h : ∀ level : LogLevel, ¬level.IsNamed text) :
    parseLevel text = .error (.unsupportedLevel (spelled text)) := by
  cases hparse : parseLevel text with
  | ok level => exact absurd (parseLevel_eq_ok_iff.mp hparse) (h level)
  | error error =>
    simp only [parseLevel] at hparse
    split_ifs at hparse
    exact hparse.symm

/-- A text names one level at most. -/
theorem LogLevel.IsNamed.unique {a b : LogLevel} {text : String} (ha : a.IsNamed text)
    (hb : b.IsNamed text) : a = b :=
  Except.ok.inj ((parseLevel_eq_ok_iff.mpr ha).symm.trans (parseLevel_eq_ok_iff.mpr hb))

/-! ## Paths that lead the same way -/

/-- One change of a path that leads the same way as before. -/
inductive Rewritten : List Char → List Char → Prop
  /-- One of two slashes in a row is dropped. -/
  | slash (before after : List Char) :
      Rewritten (before ++ '/' :: '/' :: after) (before ++ '/' :: after)
  /-- A step that stays where it is is dropped. -/
  | stay (before after : List Char) :
      Rewritten (before ++ '/' :: '.' :: '/' :: after) (before ++ '/' :: after)
  /-- A slash at the end is dropped, unless it is the root. -/
  | last (before : List Char) (h : before ≠ []) : Rewritten (before ++ ['/']) before

/-- Two paths differ in nothing but slashes and steps that do not matter. -/
def SameWay (a b : String) : Prop :=
  Relation.EqvGen Rewritten a.toList b.toList

theorem isAbsolute_iff {path : String} : isAbsolute path = true ↔ ['/'] <+: path.toList := by
  simp [isAbsolute]

/-- The steps of a path that lead elsewhere. -/
def properSteps (path : List Char) : List (List Char) :=
  (path.splitOn '/').filter fun step => !step.isEmpty && step != ['.']

theorem properSteps_append (before after : List Char) :
    properSteps (before ++ '/' :: after) = properSteps before ++ properSteps after := by
  rw [properSteps, List.splitOn_append_cons_self, List.filter_append, properSteps, properSteps]

theorem properSteps_eq_of_rewritten {a b : List Char} (h : Rewritten a b) :
    properSteps a = properSteps b := by
  have hnil : properSteps [] = [] := rfl
  have hstay : properSteps ['.'] = [] := rfl
  cases h with
  | slash before after =>
    rw [properSteps_append, properSteps_append, ← List.nil_append ('/' :: after),
      properSteps_append, hnil, List.nil_append]
  | stay before after =>
    rw [properSteps_append, properSteps_append, ← List.singleton_append,
      properSteps_append ['.'] after, hstay, List.nil_append]
  | last before hne => rw [properSteps_append, hnil, List.append_nil]

theorem sameDirectory_iff_properSteps {a b : String} :
    sameDirectory a b = true ↔ properSteps a.toList = properSteps b.toList := by
  have hsteps : ∀ path : String,
      (pathSteps path).filter (· != ".") = (properSteps path.toList).map String.ofList := by
    intro path
    rw [pathSteps, List.filter_map, List.filter_filter, properSteps]
    congr 2
    funext step
    have hdot : String.ofList step = "." ↔ step = ['.'] := by
      rw [show "." = String.ofList ['.'] from rfl, String.ofList_inj]
    simp only [Function.comp, bne, Bool.and_comm]
    congr 2
    rw [Bool.eq_iff_iff, beq_iff_eq, beq_iff_eq, hdot]
  rw [sameDirectory, beq_iff_eq, hsteps, hsteps]
  exact (List.map_inj_right fun _ _ h => String.ofList_inj.mp h)

/-- A path spelled with a slash behind every step. -/
def slashed (steps : List (List Char)) : List Char :=
  '/' :: steps.flatMap (· ++ ['/'])

/-- Behind any other path, the steps that lead nowhere else can be dropped one by one. -/
theorem eqvGen_slashed (steps : List (List Char)) (before : List Char) :
    Relation.EqvGen Rewritten (before ++ slashed steps)
      (before ++ slashed (steps.filter fun step => !step.isEmpty && step != ['.'])) := by
  -- a step that is kept goes over to what stands before the others
  induction steps generalizing before with
  | nil => exact .refl _
  | cons step steps ih =>
    by_cases hempty : step = []
    · subst hempty
      exact .trans _ _ _ (.rel _ _ (.slash before (steps.flatMap (· ++ ['/'])))) (ih before)
    by_cases hstay : step = ['.']
    · subst hstay
      exact .trans _ _ _ (.rel _ _ (.stay before (steps.flatMap (· ++ ['/'])))) (ih before)
    · have hfilter : (step :: steps).filter (fun step => !step.isEmpty && step != ['.']) =
          step :: steps.filter fun step => !step.isEmpty && step != ['.'] :=
        List.filter_cons_of_pos (by simp [hempty, hstay])
      have hbehind : ∀ steps : List (List Char), before ++ slashed (step :: steps) =
          (before ++ '/' :: step) ++ slashed steps := by simp [slashed]
      rw [hfilter, hbehind, hbehind]
      exact ih _

/-- A path is spelled out by what stands between its slashes. -/
theorem flatMap_splitOn (path : List Char) :
    (path.splitOn '/').flatMap (· ++ ['/']) = path ++ ['/'] := by
  have hspell : ∀ steps : List (List Char), steps ≠ [] →
      steps.flatMap (· ++ ['/']) = ['/'].intercalate steps ++ ['/'] := by
    intro steps hne
    induction steps with
    | nil => exact absurd rfl hne
    | cons step steps ih =>
      cases steps with
      | nil => simp
      | cons next steps =>
        rw [List.flatMap_cons, ih (List.cons_ne_nil _ _),
          List.intercalate_cons_of_ne_nil (List.cons_ne_nil _ _)]
        simp
  rw [hspell _ (List.splitOn_ne_nil _ _), List.intercalate_splitOn]

/-- A path from the root leads the same way as the one with its proper steps only. -/
theorem eqvGen_properSteps {path : List Char} (h : ['/'] <+: path) :
    Relation.EqvGen Rewritten path (slashed (properSteps path)) := by
  obtain ⟨rest, rfl⟩ := h
  have hsteps : properSteps (['/'] ++ rest) = properSteps rest :=
    properSteps_append [] rest
  have hspelled : slashed (rest.splitOn '/') = (['/'] ++ rest) ++ ['/'] := by
    simp [slashed, flatMap_splitOn]
  -- with a slash behind it, the last step is like the others
  have hlast := Relation.EqvGen.rel _ _ (Rewritten.last (['/'] ++ rest) (by simp))
  rw [← hspelled] at hlast
  rw [hsteps]
  exact .trans _ _ _ (.symm _ _ hlast) (eqvGen_slashed _ [])

/-- What no single change affects is the same of paths that lead the same way. -/
theorem SameWay.congr {β : Sort*} {f : List Char → β} (hf : ∀ a b, Rewritten a b → f a = f b)
    {a b : String} (h : SameWay a b) : f a.toList = f b.toList := by
  unfold SameWay at h
  generalize a.toList = a at h
  generalize b.toList = b at h
  induction h with
  | rel _ _ h => exact hf _ _ h
  | refl => rfl
  | symm _ _ _ ih => exact ih.symm
  | trans _ _ _ _ _ ih₁ ih₂ => exact ih₁.trans ih₂

/-- Two directories told from the root are compared equal exactly if they lead the same way. -/
theorem sameDirectory_iff {a b : String} (ha : isAbsolute a = true) (hb : isAbsolute b = true) :
    sameDirectory a b = true ↔ SameWay a b := by
  rw [sameDirectory_iff_properSteps]
  constructor
  · intro h
    have hway := eqvGen_properSteps (isAbsolute_iff.mp ha)
    rw [h] at hway
    exact .trans _ _ _ hway (.symm _ _ (eqvGen_properSteps (isAbsolute_iff.mp hb)))
  · exact SameWay.congr fun _ _ => properSteps_eq_of_rewritten

/-- Paths that lead the same way are told from the root together. -/
theorem SameWay.absolute_iff {a b : String} (h : SameWay a b) :
    ['/'] <+: a.toList ↔ ['/'] <+: b.toList := by
  have hroot : ∀ a b : List Char, Rewritten a b → (['/'] <+: a) = (['/'] <+: b) := by
    intro a b h
    cases h with
    | slash before after => cases before <;> simp
    | stay before after => cases before <;> simp
    | last before hne =>
      obtain ⟨c, before, rfl⟩ := List.exists_cons_of_ne_nil hne
      simp
  rw [h.congr hroot]

/-! ## Requests -/

/-- A request to have the log active. -/
inductive LogRequest where
  | direct (level dir : String)
  | configured (settings : LogConfig)

namespace LogRequest

/-- The level that a request asks for, as it is spelled there. -/
def level : LogRequest → String
  | direct level _ => level
  | configured settings => settings.level

/-- The directory that a request asks for. Settings may leave it out. -/
def dir : LogRequest → Option String
  | direct _ dir => some dir
  | configured settings => settings.dir

/-- Do what a request asks for. The answer is whether the log is active. -/
def perform {m : Type → Type} [Monad m] (start : ActiveLog → m (Except LoggingError Unit))
    (active : Option ActiveLog) : LogRequest → m (Except LoggingError Bool × Option ActiveLog)
  | .direct level dir => do
    let (result, active) ← activate start level dir active
    pure (result.map fun () => true, active)
  | .configured settings => activateFrom start settings.level settings.dir active

/-- Why a request could never start the log. The level comes first. -/
inductive Unfit (request : LogRequest) : LoggingError → Prop
  | level {dir : String} (hdir : request.dir = some dir)
      (h : ∀ level : LogLevel, ¬level.IsNamed request.level) :
      Unfit request (.unsupportedLevel (spelled request.level))
  | empty {level : LogLevel} (hlevel : level.IsNamed request.level)
      (hdir : request.dir = some "") : Unfit request .emptyDirectory
  | relative {level : LogLevel} {dir : String} (hlevel : level.IsNamed request.level)
      (hdir : request.dir = some dir) (hne : dir ≠ "") (h : ¬['/'] <+: dir.toList) :
      Unfit request (.relativeDirectory dir)

/-- A request asks for a log with these settings. -/
structure AsksFor (request : LogRequest) (log : ActiveLog) : Prop where
  level : log.level.IsNamed request.level
  dir : request.dir = some log.dir
  absolute : ['/'] <+: log.dir.toList

variable {request : LogRequest}

/-- Every request names no directory, could never start the log, or asks for a log. -/
theorem sorted (request : LogRequest) : request.dir = none ∨ (∃ error, request.Unfit error) ∨
    ∃ log, request.AsksFor log := by
  cases hdir : request.dir with
  | none => exact .inl rfl
  | some dir =>
    refine .inr ?_
    by_cases hlevel : ∃ level : LogLevel, level.IsNamed request.level
    · obtain ⟨level, hlevel⟩ := hlevel
      by_cases hempty : dir = ""
      · exact .inl ⟨_, .empty hlevel (hempty ▸ hdir)⟩
      by_cases habsolute : ['/'] <+: dir.toList
      · exact .inr ⟨⟨level, dir⟩, hlevel, hdir, habsolute⟩
      · exact .inl ⟨_, .relative hlevel hdir hempty habsolute⟩
    · exact .inl ⟨_, .level hdir (not_exists.mp hlevel)⟩

/-- What names a level and is unfit is not told from the root. -/
theorem Unfit.not_absolute {error : LoggingError} (h : request.Unfit error) {dir : String}
    (hdir : request.dir = some dir) {level : LogLevel} (hlevel : level.IsNamed request.level) :
    ¬['/'] <+: dir.toList := by
  cases h with
  | level _ h => exact absurd hlevel (h level)
  | empty _ h =>
    obtain rfl : "" = dir := Option.some.inj (h.symm.trans hdir)
    simp
  | relative _ h _ hrelative => exact Option.some.inj (h.symm.trans hdir) ▸ hrelative

end LogRequest

theorem checkLogDirectory_of_absolute {dir : String} (h : ['/'] <+: dir.toList) :
    checkLogDirectory dir = .ok () := by
  have hne : ¬dir.isEmpty = true := by
    rintro hempty
    rw [String.isEmpty_iff] at hempty
    simp [hempty] at h
  rw [checkLogDirectory, if_neg hne, if_pos (isAbsolute_iff.mpr h)]

theorem checkLogDirectory_of_relative {dir : String} (hne : dir ≠ "")
    (h : ¬['/'] <+: dir.toList) : checkLogDirectory dir = .error (.relativeDirectory dir) := by
  rw [checkLogDirectory, if_neg (mt String.isEmpty_iff.mp hne), if_neg (mt isAbsolute_iff.mp h)]

/-! ## One request -/

section Request

variable {m : Type → Type} [Monad m] [LawfulMonad m]
  {start : ActiveLog → m (Except LoggingError Unit)} {active : Option ActiveLog}
  {request : LogRequest}

/-- A request for a directory is one to activate the log there, in whichever way it is made. -/
theorem LogRequest.perform_of_dir {dir : String} (hdir : request.dir = some dir) :
    request.perform start active = (fun done => (done.1.map fun () => true, done.2)) <$>
      activate start request.level dir active := by
  cases request with
  | direct level dir' =>
    obtain rfl : dir' = dir := Option.some.inj hdir
    rw [map_eq_pure_bind]
    rfl
  | configured settings =>
    have hdir : settings.dir = some dir := hdir
    rw [map_eq_pure_bind, perform, hdir]
    rfl

omit [LawfulMonad m] in
theorem LogRequest.perform_of_unnamed (hdir : request.dir = none) :
    request.perform start active = pure (.ok false, active) := by
  cases request with
  | direct level dir => exact nomatch hdir
  | configured settings =>
    have hdir : settings.dir = none := hdir
    rw [perform, hdir]
    rfl

theorem LogRequest.Unfit.perform {error : LoggingError} (h : request.Unfit error) :
    request.perform start active = pure (.error error, active) := by
  cases h with
  | level hdir h => simp [perform_of_dir hdir, activate, parseLevel_eq_error h, Except.map]
  | empty hlevel hdir =>
    have hcheck : checkLogDirectory "" = .error .emptyDirectory := rfl
    simp [perform_of_dir hdir, activate, parseLevel_eq_ok_iff.mpr hlevel, hcheck, Except.map]
  | relative hlevel hdir hne h =>
    simp [perform_of_dir hdir, activate, parseLevel_eq_ok_iff.mpr hlevel,
      checkLogDirectory_of_relative hne h, Except.map]

theorem LogRequest.AsksFor.perform_off {log : ActiveLog} (h : request.AsksFor log) :
    request.perform start none = (fun
      | .ok () => (.ok true, some log)
      | .error error => (.error error, none)) <$> start log := by
  simp only [perform_of_dir h.dir, activate, parseLevel_eq_ok_iff.mpr h.level,
    checkLogDirectory_of_absolute h.absolute, map_eq_pure_bind, bind_assoc]
  congr 1
  funext started
  cases started <;> simp [Except.map]

theorem LogRequest.AsksFor.perform_active {log asked : ActiveLog} (h : request.AsksFor asked) :
    request.perform start (some log) =
      pure ((checkSameSettings log asked.level asked.dir).map fun () => true, some log) := by
  simp [perform_of_dir h.dir, activate, parseLevel_eq_ok_iff.mpr h.level,
    checkLogDirectory_of_absolute h.absolute]

end Request

section Settings

variable {active : ActiveLog} {level : LogLevel} {dir : String}

theorem checkSameSettings_of_same (hactive : ['/'] <+: active.dir.toList)
    (hdir : ['/'] <+: dir.toList) (hway : SameWay active.dir dir) (hlevel : active.level = level) :
    checkSameSettings active level dir = .ok () := by
  have hsame := (sameDirectory_iff (isAbsolute_iff.mpr hactive) (isAbsolute_iff.mpr hdir)).mpr hway
  simp [checkSameSettings, hsame, hlevel]

theorem checkSameSettings_of_otherDirectory (hactive : ['/'] <+: active.dir.toList)
    (hdir : ['/'] <+: dir.toList) (hway : ¬SameWay active.dir dir) :
    checkSameSettings active level dir =
      .error (.alreadyInitialized "directory" active.dir dir) := by
  rw [← sameDirectory_iff (isAbsolute_iff.mpr hactive) (isAbsolute_iff.mpr hdir)] at hway
  simp [checkSameSettings, hway]

theorem checkSameSettings_of_otherLevel (hactive : ['/'] <+: active.dir.toList)
    (hdir : ['/'] <+: dir.toList) (hway : SameWay active.dir dir) (hlevel : active.level ≠ level) :
    checkSameSettings active level dir =
      .error (.alreadyInitialized "level" active.level.name level.name) := by
  have hsame := (sameDirectory_iff (isAbsolute_iff.mpr hactive) (isAbsolute_iff.mpr hdir)).mpr hway
  simp [checkSameSettings, hsame, hlevel]

end Settings

/-! ## Runs -/

/-- A request, and what the world is like when it is made. -/
structure LogCall (σ : Type) where
  request : LogRequest
  world : σ

section Runs

variable {σ : Type} (start : ActiveLog → StateM σ (Except LoggingError Unit))

/-- The answer to a call, whether the log is active then, and what the world is like. -/
def LogCall.outcome (active : Option ActiveLog) (call : LogCall σ) :
    (Except LoggingError Bool × Option ActiveLog) × σ :=
  (call.request.perform start active).run call.world

/-- The answer to a call. -/
def LogCall.answer (active : Option ActiveLog) (call : LogCall σ) : Except LoggingError Bool :=
  (call.outcome start active).1.1

/-- The active log after some calls, the first of them made while the log is off. -/
def statusAfter (calls : List (LogCall σ)) : Option ActiveLog :=
  calls.foldl (fun active call => (call.outcome start active).1.2) none

/-- No call of a run succeeds. -/
def NoneSucceeds (calls : List (LogCall σ)) : Prop :=
  ∀ before call after, calls = before ++ call :: after →
    call.answer start (statusAfter start before) ≠ .ok true

/-- How a call is answered, and what it changes. -/
structure Answered (active : Option ActiveLog) (call : LogCall σ) : Prop where
  unnamed : call.request.dir = none → call.outcome start active = ((.ok false, active), call.world)
  unfit : ∀ error, call.request.Unfit error →
    call.outcome start active = ((.error error, active), call.world)
  /-- While the log is off, a call that asks for a log starts it if it can be started, and leaves it
  off if not. -/
  starts : active = none → ∀ log world, call.request.AsksFor log →
    (start log).run call.world = (.ok (), world) →
    call.outcome start active = ((.ok true, some log), world)
  fails : active = none → ∀ log error world, call.request.AsksFor log →
    (start log).run call.world = (.error error, world) →
    call.outcome start active = ((.error error, none), world)
  /-- While it is active, a call for a directory succeeds exactly if the settings are the same. -/
  succeeds_iff : ∀ log, active = some log → ∀ dir, call.request.dir = some dir →
    (call.answer start active = .ok true ↔
      log.level.IsNamed call.request.level ∧ SameWay log.dir dir)
  otherDirectory : ∀ log, active = some log → ∀ asked, call.request.AsksFor asked →
    ¬SameWay log.dir asked.dir →
    call.answer start active = .error (.alreadyInitialized "directory" log.dir asked.dir)
  otherLevel : ∀ log, active = some log → ∀ asked, call.request.AsksFor asked →
    SameWay log.dir asked.dir → log.level ≠ asked.level →
    call.answer start active =
      .error (.alreadyInitialized "level" log.level.name asked.level.name)
  /-- No call changes anything while the log is active. -/
  kept : ∀ log, active = some log →
    (call.outcome start active).1.2 = some log ∧ (call.outcome start active).2 = call.world

/-- What is known after some calls: whether the log is active, with which settings, and how the next
call is answered. -/
structure Accounted (calls : List (LogCall σ)) : Prop where
  /-- The log is off until a call succeeds. -/
  off_iff : statusAfter start calls = none ↔ NoneSucceeds start calls
  /-- Ever after it has the settings of the first call that does. -/
  first : ∀ before call after, calls = before ++ call :: after → NoneSucceeds start before →
    call.answer start (statusAfter start before) = .ok true →
    ∃ log, call.request.AsksFor log ∧ statusAfter start calls = some log
  /-- A call names no directory, could never start the log, or asks for a log. -/
  sorted : ∀ call : LogCall σ, call.request.dir = none ∨ (∃ error, call.request.Unfit error) ∨
    ∃ log, call.request.AsksFor log
  answered : ∀ call, Answered start (statusAfter start calls) call

variable {start} {active : Option ActiveLog} {calls : List (LogCall σ)} {call : LogCall σ}

theorem LogCall.outcome_of_unnamed (h : call.request.dir = none) :
    call.outcome start active = ((.ok false, active), call.world) := by
  rw [outcome, LogRequest.perform_of_unnamed h]
  rfl

theorem LogRequest.Unfit.outcome {error : LoggingError} (h : call.request.Unfit error) :
    call.outcome start active = ((.error error, active), call.world) := by
  rw [LogCall.outcome, h.perform]
  rfl

theorem LogRequest.AsksFor.outcome_off {log : ActiveLog} (h : call.request.AsksFor log) :
    call.outcome start none = (match (start log).run call.world with
      | (.ok (), world) => ((.ok true, some log), world)
      | (.error error, world) => ((.error error, none), world)) := by
  rw [LogCall.outcome, h.perform_off, StateT.run_map]
  obtain ⟨_ | _, world⟩ := (start log).run call.world <;> rfl

theorem LogRequest.AsksFor.outcome_active {log asked : ActiveLog} (h : call.request.AsksFor asked) :
    call.outcome start (some log) =
      (((checkSameSettings log asked.level asked.dir).map fun () => true, some log),
        call.world) := by
  rw [LogCall.outcome, h.perform_active]
  rfl

/-- While the log is active a call changes nothing. -/
theorem LogCall.outcome_kept (log : ActiveLog) :
    (call.outcome start (some log)).1.2 = some log ∧
      (call.outcome start (some log)).2 = call.world := by
  rcases call.request.sorted with hnone | ⟨error, herror⟩ | ⟨asked, hasked⟩
  · rw [outcome_of_unnamed hnone]
    exact ⟨rfl, rfl⟩
  · rw [herror.outcome]
    exact ⟨rfl, rfl⟩
  · rw [hasked.outcome_active]
    exact ⟨rfl, rfl⟩

/-- While the log is off, it is a call that succeeds that makes it active. -/
theorem LogCall.outcome_off (start : ActiveLog → StateM σ (Except LoggingError Unit))
    (call : LogCall σ) :
    (call.answer start none ≠ .ok true ∧ (call.outcome start none).1.2 = none) ∨
      (call.answer start none = .ok true ∧
        ∃ log, call.request.AsksFor log ∧ (call.outcome start none).1.2 = some log) := by
  rw [answer]
  rcases call.request.sorted with hnone | ⟨error, herror⟩ | ⟨asked, hasked⟩
  · rw [outcome_of_unnamed hnone]
    exact .inl ⟨nofun, rfl⟩
  · rw [herror.outcome]
    exact .inl ⟨nofun, rfl⟩
  · rw [hasked.outcome_off]
    obtain ⟨_ | _, world⟩ := (start asked).run call.world
    · exact .inl ⟨nofun, rfl⟩
    · exact .inr ⟨rfl, asked, hasked, rfl⟩

/-- While the log is active a call for a directory succeeds exactly if it asks for the same. -/
theorem LogCall.answer_eq_ok_iff {log : ActiveLog} (hlog : ['/'] <+: log.dir.toList) {dir : String}
    (hdir : call.request.dir = some dir) :
    call.answer start (some log) = .ok true ↔
      log.level.IsNamed call.request.level ∧ SameWay log.dir dir := by
  rw [answer]
  rcases call.request.sorted with hnone | ⟨error, herror⟩ | ⟨asked, hasked⟩
  case inl => exact absurd (hdir.symm.trans hnone) nofun
  case inr.inl =>
    rw [herror.outcome]
    refine iff_of_false nofun ?_
    rintro ⟨hlevel, hway⟩
    exact herror.not_absolute hdir hlevel (hway.absolute_iff.mp hlog)
  case inr.inr =>
    obtain rfl : asked.dir = dir := Option.some.inj (hasked.dir.symm.trans hdir)
    rw [hasked.outcome_active]
    by_cases hway : SameWay log.dir asked.dir
    · by_cases hlevel : log.level = asked.level
      · rw [checkSameSettings_of_same hlog hasked.absolute hway hlevel]
        exact iff_of_true rfl ⟨hlevel ▸ hasked.level, hway⟩
      · rw [checkSameSettings_of_otherLevel hlog hasked.absolute hway hlevel]
        exact iff_of_false nofun fun h => hlevel (h.1.unique hasked.level)
    · rw [checkSameSettings_of_otherDirectory hlog hasked.absolute hway]
      exact iff_of_false nofun fun h => hway h.2

/-- The step: how any call is answered, provided that an active log was told from the root. -/
theorem answered_of_absolute (hactive : ∀ log, active = some log → ['/'] <+: log.dir.toList)
    (call : LogCall σ) : Answered start active call where
  unnamed := LogCall.outcome_of_unnamed
  unfit _ h := h.outcome
  starts := by
    rintro rfl log world hasked hstart
    rw [hasked.outcome_off, hstart]
  fails := by
    rintro rfl log error world hasked hstart
    rw [hasked.outcome_off, hstart]
  succeeds_iff := by
    rintro log rfl dir hdir
    exact LogCall.answer_eq_ok_iff (hactive log rfl) hdir
  otherDirectory := by
    rintro log rfl asked hasked hway
    rw [LogCall.answer, hasked.outcome_active,
      checkSameSettings_of_otherDirectory (hactive log rfl) hasked.absolute hway]
    rfl
  otherLevel := by
    rintro log rfl asked hasked hway hlevel
    rw [LogCall.answer, hasked.outcome_active,
      checkSameSettings_of_otherLevel (hactive log rfl) hasked.absolute hway hlevel]
    rfl
  kept := by
    rintro log rfl
    exact LogCall.outcome_kept log

theorem statusAfter_concat : statusAfter start (calls ++ [call]) =
    (call.outcome start (statusAfter start calls)).1.2 := by
  rw [statusAfter, List.foldl_append]
  rfl

theorem noneSucceeds_concat : NoneSucceeds start (calls ++ [call]) ↔
    NoneSucceeds start calls ∧ call.answer start (statusAfter start calls) ≠ .ok true := by
  constructor
  · intro h
    refine ⟨fun before earlier after hsplit => ?_, h calls call [] rfl⟩
    exact h before earlier (after ++ [call]) (by rw [hsplit, List.append_assoc, List.cons_append])
  · -- the call in question is the new one, or one before it
    rintro ⟨hcalls, hcall⟩ before earlier after hsplit
    rcases List.eq_nil_or_concat after with rfl | ⟨after, latest, rfl⟩
    · obtain ⟨rfl, hlast⟩ := List.append_inj' hsplit rfl
      obtain rfl : call = earlier := List.singleton_inj.mp hlast
      exact hcall
    · have hsplit : calls ++ [call] = (before ++ earlier :: after) ++ [latest] := by
        rw [hsplit, List.concat_eq_append, List.append_assoc, List.cons_append]
      exact hcalls before earlier after (List.append_inj' hsplit rfl).1

/-- The log is off after a run exactly if no call of the run succeeded. -/
theorem statusAfter_eq_none_iff : statusAfter start calls = none ↔ NoneSucceeds start calls := by
  induction calls using List.reverseRecOn with
  | nil => exact iff_of_true rfl fun before call after h => by simp at h
  | append_singleton calls call ih =>
    rw [statusAfter_concat, noneSucceeds_concat, ← ih]
    cases hstatus : statusAfter start calls with
    | some log =>
      rw [(LogCall.outcome_kept log).1]
      simp
    | none =>
      obtain ⟨hanswer, hoff⟩ | ⟨hanswer, asked, -, hon⟩ := call.outcome_off start
      · exact iff_of_true hoff ⟨rfl, hanswer⟩
      · rw [hon]
        exact iff_of_false nofun fun h => h.2 hanswer

/-- An active log stays as it is. -/
theorem statusAfter_append {log : ActiveLog} (h : statusAfter start calls = some log)
    (later : List (LogCall σ)) : statusAfter start (calls ++ later) = some log := by
  induction later using List.reverseRecOn with
  | nil => rwa [List.append_nil]
  | append_singleton later call ih =>
    rw [← List.append_assoc, statusAfter_concat, ih]
    exact (LogCall.outcome_kept log).1

example :
    let start (_ : ActiveLog) (ready : Bool) : Except LoggingError Unit × Bool :=
      (if ready then .ok () else .error .backend, ready)
    statusAfter start [⟨.direct "info" "/log", false⟩, ⟨.configured {}, true⟩,
      ⟨.direct " Warning" "/log/.", true⟩, ⟨.direct "info" "/log", true⟩] =
      some ⟨.warn, "/log/."⟩ := by
  decide +kernel

/-- An active log was told from the root, whatever the run. -/
theorem absolute_of_statusAfter {log : ActiveLog} (h : statusAfter start calls = some log) :
    ['/'] <+: log.dir.toList := by
  induction calls using List.reverseRecOn with
  | nil => exact nomatch h
  | append_singleton calls call ih =>
    rw [statusAfter_concat] at h
    cases hstatus : statusAfter start calls with
    | some active =>
      rw [hstatus, (LogCall.outcome_kept active).1] at h
      exact ih (hstatus.trans h)
    | none =>
      rw [hstatus] at h
      obtain ⟨-, hoff⟩ | ⟨-, asked, hasked, hon⟩ := call.outcome_off start
      · exact absurd (hoff.symm.trans h) nofun
      · exact Option.some.inj (hon.symm.trans h) ▸ hasked.absolute

/-- However the log is asked for, it is off until a call succeeds, and has the settings of that call
ever after. -/
theorem logging_accounted (start : ActiveLog → StateM σ (Except LoggingError Unit))
    (calls : List (LogCall σ)) : Accounted start calls where
  off_iff := statusAfter_eq_none_iff
  first := by
    rintro before call after rfl hbefore hcall
    have hoff := statusAfter_eq_none_iff.mpr hbefore
    rw [hoff] at hcall
    obtain ⟨hanswer, -⟩ | ⟨-, asked, hasked, hon⟩ := call.outcome_off start
    · exact absurd hcall hanswer
    · have hactive : statusAfter start (before ++ [call]) = some asked := by
        rw [statusAfter_concat, hoff, hon]
      rw [List.append_cons]
      exact ⟨asked, hasked, statusAfter_append hactive after⟩
  sorted call := call.request.sorted
  answered := answered_of_absolute fun _ => absolute_of_statusAfter

end Runs

end SectorForest
