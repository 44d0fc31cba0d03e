import SectorForest.Proofs.Careful
import SectorForest.Proofs.Contest

/-!
# Many clients of one database

A `Crowd` is any number of clients that work on one database, each with calls of its own. A client
may begin a call at any time, and the clients take turns in any order; `Crowd.Arises` says which
crowds come about. In all of them codes and labels tell records apart and organizations have one
root at most, and a call that loses a race for a code or label ends in a conflict and leaves nothing
behind: `Crowd.Arises.contests_settled`.

A caller is followed in two ways. What it has noted is explained by what it ends in, as
`Session.Honest` says, and what it does to the database is done by a careful script.
-/

namespace SectorForest

open Storage

/-! ## Crowds -/

/-- A client that is about to make a call, is making it, or has made it. -/
structure Caller where
  call : Mutation
  client : Client (Except Failure call.Answer × List Refusal)
  /-- Whether a turn of the client has changed the database since the call began. -/
  changed : Bool := false

/-- Clients that work on one database. -/
structure Crowd (ι : Type) where
  database : Database
  caller : ι → Option Caller := fun _ => none

namespace Crowd

variable {ι : Type} [DecidableEq ι]

/-- A client begins a call over a connection of its own. It keeps notes of what it is refused, and
does otherwise what the service does: `Session.forgets_congruent`. -/
def begins (crowd : Crowd ι) (i : ι) (s : Session) (call : Mutation) : Crowd ι :=
  let session := s.holding crowd.database
  let client := { session, rest := Session.steps (call.perform Session.stepwiseNoted) [] }
  { crowd with caller := Function.update crowd.caller i (some { call, client }) }

/-- A client takes a turn. One that has ended its call, or has not begun one, changes nothing. -/
def turn (crowd : Crowd ι) (i : ι) : Crowd ι :=
  match crowd.caller i with
  | none => crowd
  | some c =>
    let (client, database) := c.client.turn crowd.database
    let changed := c.changed || database != crowd.database
    { database, caller := Function.update crowd.caller i (some { c with client, changed }) }

/-- The crowds that come about on a database that the service works on. -/
inductive Arises : Crowd ι → Prop
  | opens {s : Session} (h : s.Reachable) : Arises { database := s.connection.database }
  | begins {crowd : Crowd ι} (h : Arises crowd) (i : ι) {s : Session} (hs : s.Idle)
    (call : Mutation) : Arises (crowd.begins i s call)
  | turn {crowd : Crowd ι} (h : Arises crowd) (i : ι) : Arises (crowd.turn i)

variable {crowd : Crowd ι}

/-- The clients take turns in the given order. -/
def follow (crowd : Crowd ι) (schedule : List ι) : Crowd ι :=
  schedule.foldl turn crowd

theorem Arises.follow (h : crowd.Arises) (schedule : List ι) : (crowd.follow schedule).Arises := by
  induction schedule generalizing crowd with
  | nil => exact h
  | cons i schedule ih => exact ih (h.turn i)

end Crowd

/-! ## One client among others -/

/-- Codes and labels tell records apart, and every organization has one root at most. -/
structure Records.ToldApart (r : Records) : Prop where
  sector_codes : (r.sectors.map (·.code)).Nodup
  sector_labels : (r.sectors.map fun s => (s.tenant, s.label)).Nodup
  organization_codes : (r.organizations.map fun o => (o.tenant, o.code)).Nodup
  organization_labels : (r.organizations.map fun o => (o.tenant, o.label)).Nodup
  root_owners : r.rootOwners.Nodup

theorem Records.Rooted.toldApart {r : Records} (h : r.Rooted) (hr : r.Sound) : r.ToldApart := by
  have hsectors : r.sectors.Nodup := (nodup_numbers hr.sectors_increasing).of_map _
  have horganizations : r.organizations.Nodup :=
    (nodup_numbers hr.organizations_increasing).of_map _
  exact {
    sector_codes := hsectors.map_on hr.sector_codes
    sector_labels := hsectors.map_on hr.sector_labels
    organization_codes := horganizations.map_on hr.organization_codes
    organization_labels := horganizations.map_on hr.organization_labels
    root_owners := h }

namespace Caller

open Session

variable {c : Caller} {r : Records}

/-- If the database refuses a caller a code or label because it is taken, the call ends in the
conflict over that text, and no turn of it has changed the database. What is left of the call is
taken to be done at once; what others do before that makes another crowd. -/
def Concedes (c : Caller) (db : Database) : Prop :=
  ∀ ending refusals db', c.client.finish db = ((ending, refusals), db') →
    ∀ refusal ∈ refusals, refusal.error.uniqueDetail? ≠ none →
      ∃ entity field value, ending = .error (.refused (.conflict entity field value)) ∧
        c.call.Contested c.client.session.codes refusal.found.records entity field value ∧
        c.changed = false ∧ db' = db

/-- What is known of a caller between its turns, whatever the others do. -/
structure Regular (c : Caller) : Prop where
  sane : Sane c.client.session.codes c.client.session
  honest : c.client.rest.Under (Sane c.client.session.codes)
    (Explained (fun r => c.call.Contested c.client.session.codes r) fun _ => True)
  /-- Its script is careful as long as it has changed nothing. -/
  script : ∃ script : Script c.call.Answer,
    Follows (c.client.rest.bind fun p => .ends p.1) c.client.session script ∧
      (c.changed = false ∧ script.Careful ∨ script.Peaceful)

theorem regular_begins {s : Session} (hs : s.Idle) (hr : r.Sound) (call : Mutation) :
    Regular { call, client :=
      { session := s.holding r.database, rest := steps (call.perform stepwiseNoted) [] } } where
  sane := by
    refine ⟨rfl, (hs.holding r.database).writeFault?_eq, ⟨r, hr, rfl⟩, fun db hsaved => ?_⟩
    cases hs.saved.symm.trans hsaved
  honest := (honest_perform s.codes call).steps_under
  script := by
    refine ⟨_, ?_, .inl ⟨rfl, Script.careful_script call (s.codes s.codesTaken)⟩⟩
    rw [forgets_congruent.perform call []]
    exact (follows_perform hs call).holding r.database

theorem Regular.concedes (h : c.Regular) (hr : r.Sound) (hrooted : r.Rooted) :
    c.Concedes r.database := by
  intro ending refusals db' hfinish refusal hrefusal hunique
  obtain ⟨script, hfollows, hscript⟩ := h.script
  obtain ⟨s', hrun, -⟩ := hfollows.run_eq hr
  rw [Process.run_bind] at hrun
  rw [Client.finish] at hfinish
  have hexplained := h.honest.run (h.sane.holding hr)
  generalize c.client.rest.run (c.client.session.holding r.database) = last at *
  obtain ⟨result, after⟩ := last
  cases hfinish
  obtain ⟨hends, hafter⟩ := Prod.mk.inj hrun
  cases ending with
  | ok a =>
    obtain ⟨-, rfl⟩ := hexplained
    cases hrefusal
  | error failure =>
    obtain ⟨_, rfl, entity, field, value, rfl, hcontested⟩ := hexplained refusal hrefusal hunique
    refine ⟨entity, field, value, rfl, hcontested, ?_⟩
    rcases hscript with ⟨hchanged, hcareful⟩ | hpeaceful
    · have hsame := hcareful.run_conflict hr hrooted hends.symm
      rw [hsame] at hafter
      exact ⟨hchanged, congrArg (·.connection.database) hafter⟩
    · exact absurd hends.symm (hpeaceful.run_ne r)

theorem Regular.turn (h : c.Regular) (hr : r.Sound) (hrooted : r.Rooted) :
    ∃ client, ∃ r' : Records, c.client.turn r.database = (client, r'.database) ∧ r'.Sound ∧
      r'.Rooted ∧
      Regular { c with client, changed := c.changed || r'.database != r.database } := by
  obtain ⟨script, hfollows, hscript⟩ := h.script
  obtain ⟨hsane, hhonest⟩ := h.honest.advance busy (h.sane.holding hr)
  obtain ⟨p', s', script', r', hturn, hfollows', hr', hstep⟩ := hfollows.script_turn hr
  simp only [Client.turn, Process.advance_map, Prod.mk.injEq, Client.mk.injEq] at hturn
  obtain ⟨⟨rfl, rfl⟩, hdatabase⟩ := hturn
  -- as long as nothing is changed, what is left of the script is careful
  have hrest : r'.Rooted ∧
      ((c.changed || r'.database != r.database) = false ∧ script'.Careful ∨ script'.Peaceful) := by
    rcases hstep with ⟨rfl, rfl⟩ | ⟨change, rest, rfl, rfl, rfl⟩
    · refine ⟨hrooted, hscript.imp_left fun hlook => ⟨?_, hlook.2⟩⟩
      simp [hlook.1]
    · rcases hscript with ⟨hchanged, _ | ⟨hlook, hchange⟩⟩ | _ | ⟨hlook, hpeaceful⟩
      · by_cases hsame : change r = r
        · rw [hsame]
          exact ⟨hrooted, .inl ⟨by simp [hchanged], hlook r hr hrooted hsame⟩⟩
        · exact (hchange r hr hrooted hsame).imp_right .inr
      · rw [hlook r]
        exact ⟨hrooted, .inr (hpeaceful r)⟩
  refine ⟨_, r', Prod.ext rfl hdatabase, hr', hrest.1, ?_⟩
  have hcodes := hsane.codes_eq
  rw [← hcodes] at hsane hhonest
  exact ⟨hsane, hhonest, script', hfollows', hrest.2⟩

end Caller

/-! ## All clients together -/

namespace Crowd

variable {ι : Type}

/-- Between turns, a crowd works on sound records on which every organization has one root at most,
and all its callers are regular. -/
structure Regular (crowd : Crowd ι) (r : Records) : Prop where
  database : crowd.database = r.database
  sound : r.Sound
  rooted : r.Rooted
  callers : ∀ i c, crowd.caller i = some c → c.Regular

variable [DecidableEq ι] {crowd : Crowd ι} {r : Records}

/-- Callers stay regular when one of them takes the place of another. -/
theorem Regular.update (h : crowd.Regular r) (i : ι) {c : Caller} (hc : c.Regular) (j : ι)
    (c' : Caller) (hc' : Function.update crowd.caller i (some c) j = some c') : c'.Regular := by
  rcases eq_or_ne j i with rfl | hne
  · rw [Function.update_self] at hc'
    cases hc'
    exact hc
  · rw [Function.update_of_ne hne] at hc'
    exact h.callers j c' hc'

theorem Regular.begins (h : crowd.Regular r) (i : ι) {s : Session} (hs : s.Idle)
    (call : Mutation) : (crowd.begins i s call).Regular r where
  database := h.database
  sound := h.sound
  rooted := h.rooted
  callers := by
    refine h.update i ?_
    rw [h.database]
    exact Caller.regular_begins hs h.sound call

theorem Regular.turn (h : crowd.Regular r) (i : ι) : ∃ r', (crowd.turn i).Regular r' := by
  unfold Crowd.turn
  cases hc : crowd.caller i with
  | none => exact ⟨r, h⟩
  | some c =>
    obtain ⟨client, r', hturn, hr', hrooted, hregular⟩ :=
      (h.callers i c hc).turn h.sound h.rooted
    rw [← h.database] at hturn hregular
    simp only [hturn]
    exact ⟨r', rfl, hr', hrooted, h.update i hregular⟩

theorem Arises.regular (h : crowd.Arises) : ∃ r, crowd.Regular r := by
  induction h with
  | @opens s h =>
    exact ⟨s.records, h.holds.database, h.holds.sound, h.lineage.rooted h.holds.sound, by simp⟩
  | begins _ i hs call ih =>
    obtain ⟨r, hregular⟩ := ih
    exact ⟨r, hregular.begins i hs call⟩
  | turn _ i ih =>
    obtain ⟨r, hregular⟩ := ih
    exact hregular.turn i

/-- Whatever calls any number of clients make on one database, and whatever turns they take, codes
and labels tell records apart at any time, and every organization has one root at most. A call that
the database refuses a code or label, because another client was faster, ends in the conflict over
it and has changed nothing. -/
theorem Arises.contests_settled (h : crowd.Arises) :
    crowd.database = crowd.database.records.database ∧ crowd.database.records.ToldApart ∧
      ∀ i c, crowd.caller i = some c → c.Concedes crowd.database := by
  obtain ⟨r, hregular⟩ := h.regular
  have hrecords : crowd.database.records = r := by
    rw [hregular.database, Records.records_database hregular.sound.readable]
  rw [hrecords, hregular.database]
  exact ⟨rfl, hregular.rooted.toldApart hregular.sound, fun i c hc =>
    (hregular.callers i c hc).concedes hregular.sound hregular.rooted⟩

open Records in
/-- Two clients find that a label is free, and then both create a sector with it. -/
theorem contests_settled_north :
    let create : Mutation := .createSector 1 1 "North" none
    let start : Crowd Side := { database := founded.database }
    let both := (start.begins .first (founded.session "n") create).begins .second
      (founded.session "m") create
    let crowd := both.follow [.first, .first, .second, .second, .first, .first, .second, .second]
    crowd.Arises ∧ crowd.database.records.ToldApart ∧ ∃ c, crowd.caller .second = some c ∧
      (c.client.finish crowd.database).1.1 =
        .error (.refused (.conflict .sector .label "North")) ∧
      ∃ refusal ∈ (c.client.finish crowd.database).1.2, refusal.error.uniqueDetail? ≠ none ∧
        c.call.Contested c.client.session.codes refusal.found.records .sector .label "North" ∧
        c.changed = false := by
  intro create start both crowd
  have hstart : start.Arises := .opens (reached_founded.reachable "n")
  have hidle (newCode : String) : (founded.session newCode).Idle := ⟨rfl, rfl, rfl⟩
  have hcrowd : crowd.Arises :=
    ((hstart.begins .first (hidle "n") create).begins .second (hidle "m") create).follow _
  have hlost : (crowd.caller .second).any (fun c =>
      let (ending, refusals) := (c.client.finish crowd.database).1
      decide (ending = .error (.refused (.conflict .sector .label "North"))) &&
        refusals.any (·.error.uniqueDetail?.isSome)) = true := by
    decide +kernel
  obtain ⟨c, hc, hlost⟩ := (Option.any_eq_true _ _).mp hlost
  rw [Bool.and_eq_true, decide_eq_true_eq] at hlost
  obtain ⟨refusal, hrefusal, hunique⟩ := List.any_eq_true.mp hlost.2
  rw [Option.isSome_iff_ne_none] at hunique
  obtain ⟨-, hapart, hconcedes⟩ := hcrowd.contests_settled
  obtain ⟨entity, field, value, hends, hcontested, hchanged, -⟩ :=
    hconcedes .second c hc _ _ _ rfl refusal hrefusal hunique
  cases hlost.1.symm.trans hends
  exact ⟨hcrowd, hapart, c, hc, hlost.1, refusal, hrefusal, hunique, hcontested, hchanged⟩

end Crowd

end SectorForest
