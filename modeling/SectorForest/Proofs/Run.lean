import SectorForest.Proofs.Effect

/-!
# Runs of the service

A run is a sequence of calls on a session, each outside a transaction, that starts from a freshly
migrated database or from any session. Calls may succeed or fail, and between two of them everything
but the records may become another: the source of codes, the events, who else may write.

`Session.Run.records_induction` is how properties of runs are shown: what holds of the records at
the start, and is kept by every call that fails and by every effect, holds at the end.
-/

namespace SectorForest

open Storage

/-- The contents of an empty database after its migration. -/
def Schema.migrated : Database :=
  (migrate {}).2.database

/-- Migrating an empty database succeeds and gives the two tables without records. -/
theorem Schema.migrated_eq : migrated = Records.database {} := by
  decide

/-- A call and how it ended. -/
structure Call where
  mutation : Mutation
  ending : Except Failure mutation.Answer

namespace Session

/-- A session on a freshly migrated database. -/
structure Fresh (s : Session) : Prop where
  database : s.connection.database = Schema.migrated
  idle : s.connection.saved = none

/-- The sessions that a session becomes by calls, and the calls in their order. -/
inductive Run (start : Session) : List Call → Session → Prop
  | start : Run start [] start
  | call {calls : List Call} {s : Session} (h : Run start calls s) (mutation : Mutation) :
    Run start (calls ++ [⟨mutation, (s.call mutation).1⟩]) (s.call mutation).2
  /-- Between calls, anything may become another but the records. -/
  | meanwhile {calls : List Call} {s s' : Session} (h : Run start calls s)
    (hdatabase : s'.connection.database = s.connection.database)
    (hsaved : s'.connection.saved = s.connection.saved) :
    Run start calls s'

/-- A session that some run from a freshly migrated database leads to. -/
def Reachable (s : Session) : Prop :=
  ∃ (start : Session) (calls : List Call), start.Fresh ∧ start.Run calls s

variable {start s s' : Session} {calls later : List Call} {r : Records}

theorem Fresh.holds (h : s.Fresh) : s.Holds {} :=
  ⟨h.idle, h.database.trans Schema.migrated_eq, Records.sound_empty⟩

theorem Fresh.reachable (h : s.Fresh) : s.Reachable :=
  ⟨s, [], h, .start⟩

theorem Run.append (h : start.Run calls s) (hlater : s.Run later s') :
    start.Run (calls ++ later) s' := by
  induction hlater with
  | start => rwa [List.append_nil]
  | call _ mutation ih =>
    rw [← List.append_assoc]
    exact ih.call mutation
  | meanwhile _ hdatabase hsaved ih => exact ih.meanwhile hdatabase hsaved

theorem Reachable.run (h : s.Reachable) (hlater : s.Run later s') : s'.Reachable := by
  obtain ⟨start, calls, hfresh, hrun⟩ := h
  exact ⟨start, calls ++ later, hfresh, hrun.append hlater⟩

/-- What holds of the records at the start of a run, and is kept by every call, holds at its end. -/
theorem Run.records_induction {P : List Call → Records → Prop} (hrun : start.Run calls s)
    (hstart : start.Holds r) (hnone : P [] r)
    (hrefused : ∀ calls r mutation failure, P calls r →
      P (calls ++ [⟨mutation, .error failure⟩]) r)
    (heffect : ∀ calls r newCode mutation a r', r.Sound → P calls r →
      r.Effect newCode mutation a r' → P (calls ++ [⟨mutation, .ok a⟩]) r') :
    ∃ r', s.Holds r' ∧ P calls r' := by
  -- at every point of the run, the session holds records of which `P` is known
  induction hrun with
  | start => exact ⟨r, hstart, hnone⟩
  | @call calls s _ mutation ih =>
    obtain ⟨r', hholds, hp⟩ := ih
    rcases hholds.call mutation with ⟨failure, hresult, hafter⟩ | ⟨a, r'', hresult, hdone, hafter⟩
    · rw [hresult]
      exact ⟨r', hafter, hrefused _ _ _ _ hp⟩
    · rw [hresult]
      exact ⟨r'', hafter, heffect _ _ _ _ _ _ hholds.sound hp hdone⟩
  | meanwhile _ hdatabase hsaved ih =>
    obtain ⟨r', hholds, hp⟩ := ih
    exact ⟨r', ⟨hsaved.trans hholds.idle, hdatabase.trans hholds.database, hholds.sound⟩, hp⟩

/-- A property of records that the empty ones have and that every effect keeps. -/
theorem Reachable.records_induction {P : Records → Prop} (h : s.Reachable) (hempty : P {})
    (heffect : ∀ r newCode mutation a r', r.Sound → P r →
      r.Effect newCode mutation a r' → P r') :
    s.Holds s.records ∧ P s.records := by
  obtain ⟨start, calls, hfresh, hrun⟩ := h
  obtain ⟨r, hholds, hp⟩ := hrun.records_induction (P := fun _ r => P r) hfresh.holds hempty
    (fun _ _ _ _ hp => hp) fun _ r newCode mutation a r' => heffect r newCode mutation a r'
  rw [hholds.records]
  exact ⟨hholds, hp⟩

theorem Reachable.holds (h : s.Reachable) : s.Holds s.records :=
  (h.records_induction (P := fun _ => True) trivial fun _ _ _ _ _ _ _ _ => trivial).1

end Session

/-! ## Sessions on given records -/

namespace Records

/-- A session that stores records and is about to give a code to a new sector. -/
def session (r : Records) (newCode : String) : Session where
  connection := { database := r.database }
  codes := fun _ => newCode

/-- Some run leads to the records. -/
structure Reached (r : Records) : Prop where
  sound : r.Sound
  reachable (newCode : String) : (r.session newCode).Reachable

variable {r r' : Records} {newCode : String}

theorem Sound.session_holds (hr : r.Sound) (newCode : String) : (r.session newCode).Holds r :=
  ⟨rfl, rfl, hr⟩

theorem Sound.records_session (hr : r.Sound) : (r.session newCode).records = r :=
  (hr.session_holds newCode).records

theorem reached_empty : Reached {} where
  sound := sound_empty
  reachable _ := Session.Fresh.reachable ⟨Schema.migrated_eq.symm, rfl⟩

theorem Sound.call_session (hr : r.Sound) {mutation : Mutation} {a : mutation.Answer}
    (hplan : r.plan newCode mutation = .ok (a, r')) :
    ((r.session newCode).call mutation).1 = .ok a ∧
      ((r.session newCode).call mutation).2.Holds r' :=
  (hr.session_holds newCode).call_of_plan rfl hplan

/-- From records that some run leads to, a call that can be carried out leads on. -/
theorem Reached.next (h : r.Reached) {mutation : Mutation} {a : mutation.Answer}
    (hplan : r.plan newCode mutation = .ok (a, r')) : r'.Reached := by
  obtain ⟨-, hholds⟩ := h.sound.call_session hplan
  refine ⟨hholds.sound, fun newCode' => ?_⟩
  -- what else the call has changed may become another before the next one
  have hrun : (r.session newCode).Run _ ((r.session newCode).call mutation).2 :=
    .call .start mutation
  exact (h.reachable newCode).run (hrun.meanwhile hholds.database.symm hholds.idle.symm)

/-! ### An organization that loses sectors

The theorems about runs are tried on these records. -/

/-- The first organization. -/
def acme : Organization where
  id := 1
  tenant := 1
  code := "acme"
  label := "Acme"
  kind := .bu
  status := .active

/-- The root of `acme`. -/
def acmeRoot : Sector where
  id := 1
  tenant := 1
  org := 1
  code := "acme"
  label := "Acme"
  parent := none
  hasParent := false
  depth := 0
  status := .active

/-- The sector of `acme` that is created next after the sector `parent`, and below it. -/
def acmeBranch (parent : Sector) (code label : String) : Sector where
  id := parent.id + 1
  tenant := 1
  org := 1
  code := code
  label := label
  parent := some parent.id
  hasParent := true
  depth := parent.depth + 1
  status := .active

/-- Three sectors of `acme`, each below the one before. -/
def north : Sector :=
  acmeBranch acmeRoot "n" "North"

@[inherit_doc north]
def farNorth : Sector :=
  acmeBranch north "f" "Far North"

@[inherit_doc north]
def pole : Sector :=
  acmeBranch farNorth "p" "Pole"

/-- The records of `acme` and some of its sectors, with the last number that a sector was given. -/
def ofAcme (sectors : List Sector) (last : SectorId) : Records where
  organizations := [acme]
  sectors := sectors
  lastOrganization := 1
  lastSector := last

/-- The records after `acme` is created. -/
def founded : Records :=
  ofAcme [acmeRoot] 1

/-- The records with all sectors of `acme`. -/
def chain : Records :=
  ofAcme [acmeRoot, north, farNorth, pole] 4

/-- The records after `north` is deleted, and `farNorth` with it. -/
def orphaned : Records :=
  ofAcme [acmeRoot, pole] 4

theorem plan_founded : plan {} "" (.createOrganization 1
    { code := "acme", label := "Acme", kind := .bu }) = .ok (1, founded) := rfl

theorem plan_orphaned : chain.plan "" (.deleteSector 1 2) = .ok (2, orphaned) := rfl

theorem reached_founded : founded.Reached :=
  reached_empty.next plan_founded

theorem reached_chain : chain.Reached := by
  have hnorth : founded.plan "n" (.createSector 1 1 "North" none) =
      .ok (2, ofAcme [acmeRoot, north] 2) := rfl
  have hfarNorth : (ofAcme [acmeRoot, north] 2).plan "f"
      (.createSector 1 1 "Far North" (some "n")) =
        .ok (3, ofAcme [acmeRoot, north, farNorth] 3) := rfl
  have hpole : (ofAcme [acmeRoot, north, farNorth] 3).plan "p"
      (.createSector 1 1 "Pole" (some "f")) = .ok (4, chain) := rfl
  exact ((reached_founded.next hnorth).next hfarNorth).next hpole

theorem reached_orphaned : orphaned.Reached :=
  reached_chain.next plan_orphaned

end Records

end SectorForest
