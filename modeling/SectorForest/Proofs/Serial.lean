import SectorForest.Proofs.Follow
import SectorForest.Proofs.Yield

/-!
# Two clients of one database

Two clients that make a call each on one database, turn by turn in any order, come to what they come
to one after the other: `Session.Reachable.serializable`. Their scripts take the same turns on the
records, and of two scripts the one that changes the records first comes first, unless the other one
is about to fail anyway.

What the service looks for outside of transactions may be gone when it writes. So each call has to
spare what the other one relies on, as `Mutation.spares` says.
-/

namespace SectorForest

open Process

/-- What a call makes of records, its script makes of them. -/
theorem Session.Idle.call_holding {s : Session} (hs : s.Idle) {r : Records} (hr : r.Sound)
    (x : Mutation) : ∃ s' : Session, (s.holding r.database).call x =
      (((x.script (s.codes s.codesTaken)).run r).1,
        s'.holding ((x.script (s.codes s.codesTaken)).run r).2.database) ∧
      ((x.script (s.codes s.codesTaken)).run r).2.Sound := by
  obtain ⟨s', hrun, hsound⟩ := (Session.follows_perform hs x).run_eq hr
  exact ⟨s', (Session.perform_run _ x).symm.trans hrun, hsound⟩

namespace Records

variable {r : Records}

/-- Taken in one go, the script of a call does what the call does. -/
theorem run_script (hr : r.Sound) (x : Mutation) (newCode : String) :
    (∃ failure, (x.script newCode).run r = (.error failure, r)) ∨
      ∃ a r', (x.script newCode).run r = (.ok a, r') ∧ r.Effect newCode x a r' := by
  have hidle : (r.session newCode).Idle := ⟨rfl, rfl, rfl⟩
  obtain ⟨s', hrun, hsound⟩ := hidle.call_holding hr x
  have hrun : (r.session newCode).call x = (((x.script newCode).run r).1,
      s'.holding ((x.script newCode).run r).2.database) := hrun
  have hsound : ((x.script newCode).run r).2.Sound := hsound
  -- the database afterwards tells the records
  have hrecords {r' : Records} (h : ((r.session newCode).call x).2.Holds r') :
      ((x.script newCode).run r).2 = r' := by
    rw [hrun] at h
    rw [← records_database hsound.readable, ← records_database h.sound.readable]
    exact congrArg Storage.Database.records h.database
  rcases (hr.session_holds newCode).call x with
    ⟨failure, hresult, hafter⟩ | ⟨a, r', hresult, heffect, hafter⟩
  · rw [hrun] at hresult
    exact .inl ⟨failure, Prod.ext hresult (hrecords hafter)⟩
  · rw [hrun] at hresult
    exact .inr ⟨a, r', Prod.ext hresult (hrecords hafter), heffect⟩

/-- Scripts of calls make way for each other. -/
theorem yields_script (hr : r.Sound) {x y : Mutation} (hxy : x.spares r y = true)
    (hyx : y.spares r x = true) (newCode newCode' : String) :
    Yields r (x.script newCode) (y.script newCode') := by
  intro step next hp hne rest hrest
  have hleaves := (x.changesOnce_script newCode).rest hp hne
  have hrun : (x.script newCode).run r = (next r).run (step r) := by rw [← hp.run_eq, run]
  obtain ⟨a, heffect⟩ : ∃ a, r.Effect newCode x a (step r) := by
    have hstate : ((x.script newCode).run r).2 = step r := by rw [hrun, hleaves.calm.run_state]
    rcases run_script hr x newCode with ⟨failure, hfails⟩ | ⟨a, r', hends, heffect⟩
    · rw [hfails] at hstate
      exact absurd hstate.symm hne
    · rw [hends] at hstate
      exact ⟨a, hstate ▸ heffect⟩
  have hagrees := agrees_script heffect hr hxy hrest
  have hstays {S : Records → Prop} (hstart : S (step r)) (hend : S (rest.run (step r)).2) :
      rest.Stays S (step r) :=
    ((y.changesOnce_script newCode').looks hrest).stays (fun _ _ h => h.calm) hstart hend
  refine ⟨hagrees, ?_⟩
  rw [hrun]
  cases x with
  | createSectorIn tenant code draft =>
    have hnext : next r = Script.readBack tenant (step r).lastSector := hleaves
    refine ⟨fun v => v.sector? tenant (step r).lastSector =
      (step r).sector? tenant (step r).lastSector, ?_, hstays rfl ?_⟩
    · rw [hnext]
      intro v hv
      refine ⟨rfl, ?_⟩
      beta_reduce
      rw [hv, Script.settle_done, Script.readBack, Script.run_inspect, Script.settle_done]
      rfl
    · rcases hagrees with hwhole | ⟨b, hrest, -⟩
      · rw [hwhole]
        rcases run_script (heffect.sound hr) y newCode' with ⟨_, hfails⟩ | ⟨b, r', hends, heffect'⟩
        · rw [hfails]
        · rw [hends]
          exact heffect.sector?_new hr heffect' hyx
      · rw [hrest]
  | _ =>
    obtain ⟨ending, hnext⟩ := hleaves
    rw [hnext]
    exact ⟨fun _ => True, rfl, hstays trivial trivial⟩

/-! ### Numbers that run out -/

/-- `north`, created once more behind a number. -/
def northBehind (last : SectorId) : Sector :=
  { north with id := last + 1 }

theorem plan_northBehind {last : SectorId} (hlast : last ≠ Int64.maxValue) :
    (ofAcme [acmeRoot] last).plan "n" (.createSector 1 1 "North" none) =
      .ok (last + 1, ofAcme [acmeRoot, northBehind last] (last + 1)) := by
  let child : NewSector :=
    { tenant := 1, org := 1, code := "n", label := "North", parent := some 1, hasParent := true,
      depth := 1, status := .active }
  have hplan : (ofAcme [acmeRoot] last).plan "n" (.createSector 1 1 "North" none) =
      carryOut ((ofAcme [acmeRoot] last).insertSector child)
        (writeError .sector "n" "North") := rfl
  have hroom : (ofAcme [acmeRoot] last).lastSector ≠ Int64.maxValue := hlast
  rw [hplan, insertSector, if_neg hroom]
  rfl

theorem plan_northGone {last : SectorId} (hpos : 0 < last.toInt) (hlast : last ≠ Int64.maxValue) :
    (ofAcme [acmeRoot, northBehind last] (last + 1)).plan "" (.deleteSector 1 (last + 1)) =
      .ok (1, ofAcme [acmeRoot] (last + 1)) := by
  have hne : (1 : SectorId) ≠ last + 1 := by
    intro heq
    have hnext := toInt_next hlast
    rw [← heq] at hnext
    have hone : (1 : SectorId).toInt = 1 := rfl
    omega
  have hroot : goesWith 1 (last + 1) acmeRoot = false := by
    simp [goesWith, acmeRoot, hne]
  have hnorth : goesWith 1 (last + 1) (northBehind last) = true := by
    simp [goesWith, northBehind, north, acmeBranch]
  have hfound : (ofAcme [acmeRoot, northBehind last] (last + 1)).sector? 1 (last + 1) =
      some (northBehind last) := by
    simp [sector?, ofAcme, acmeRoot, hne, northBehind, north, acmeBranch]
  rw [plan, planDeleteSector, hfound]
  simp only [deleteSectors, removeSectors, ofAcme, List.countP_cons, List.countP_nil,
    List.filter_cons, List.filter_nil, hroot, hnorth]
  rfl

/-- Any number but the very last may be the last one that was given: `north` is created and deleted
as often as that takes. -/
theorem reached_numbered (n : Nat) (hn : (n : Int) + 1 < Int64.maxValue.toInt) :
    ∃ last : SectorId, last.toInt = n + 1 ∧ (ofAcme [acmeRoot] last).Reached := by
  induction n with
  | zero => exact ⟨1, rfl, reached_founded⟩
  | succ n ih =>
    push_cast at hn
    obtain ⟨last, hvalue, hreached⟩ := ih (by omega)
    have hlast : last ≠ Int64.maxValue := by
      intro heq
      rw [heq] at hvalue
      omega
    refine ⟨last + 1, ?_, ?_⟩
    · rw [toInt_next hlast, hvalue]
      rfl
    · exact (hreached.next (plan_northBehind hlast)).next (plan_northGone (by omega) hlast)

theorem reached_filled : (ofAcme [acmeRoot] (Int64.maxValue - 1)).Reached := by
  obtain ⟨last, hvalue, hreached⟩ := reached_numbered (2 ^ 63 - 3) (by decide)
  have hsame : last = Int64.maxValue - 1 := Int64.toInt_inj.mp (hvalue.trans (by decide))
  exact hsame ▸ hreached

end Records

namespace Session

open Records

variable {α β : Type}

/-! ## Turns on a database and on records -/

/-- Whatever two scripts come to after a turn of the first client, they come to before it. -/
theorem Follows.client_turn {p : Process Session (Except Failure α)} {s : Session}
    {script : Script α} (h : Follows p s script) {r : Records} (hr : r.Sound) :
    ∃ p' s' script' r', (Client.mk s p).turn r.database = (⟨s', p'⟩, r'.database) ∧
      Follows p' s' script' ∧ r'.Sound ∧
      ∀ {β : Type} {script₂ : Script β} {a b r''},
        Woven script' script₂ r' a b r'' → Woven script script₂ r a b r'' := by
  obtain ⟨p', s', script', r', hturn, hfollows, hsound, hstep⟩ := h.script_turn hr
  refine ⟨p', s', script', r', hturn, hfollows, hsound, fun hwoven => ?_⟩
  rcases hstep with ⟨rfl, rfl⟩ | ⟨change, rest, rfl, rfl, rfl⟩
  · exact hwoven
  · exact .first hwoven

/-- What two clients come to, their scripts come to if they take turns in some order. -/
theorem Follows.woven {p : Process Session (Except Failure α)}
    {q : Process Session (Except Failure β)} {s t : Session} {script : Script α}
    {script₂ : Script β} (hp : Follows p s script) (hq : Follows q t script₂) {r : Records}
    (hr : r.Sound) (schedule : List Side) :
    ∃ a b r', Woven script script₂ r a b r' ∧
      (Pair.follow schedule ⟨r.database, ⟨s, p⟩, ⟨t, q⟩⟩).finish = ⟨a, b, r'.database⟩ := by
  induction schedule generalizing p q s t script script₂ r with
  | nil =>
    obtain ⟨s', hrun, hsound⟩ := hp.run_eq hr
    obtain ⟨t', hrun', -⟩ := hq.run_eq hsound
    refine ⟨_, _, _, woven_run script script₂ r, ?_⟩
    simp only [Pair.follow, Pair.finish, Client.finish, hrun, holding_database, hrun']
  | cons side schedule ih =>
    cases side with
    | first =>
      obtain ⟨p', s', script', r', hturn, hfollows, hsound, hwoven⟩ := hp.client_turn hr
      obtain ⟨a, b, r'', hends, hfinish⟩ := ih hfollows hq hsound
      refine ⟨a, b, r'', hwoven hends, ?_⟩
      rw [Pair.follow, hturn]
      exact hfinish
    | second =>
      obtain ⟨q', t', script', r', hturn, hfollows, hsound, hwoven⟩ := hq.client_turn hr
      obtain ⟨a, b, r'', hends, hfinish⟩ := ih hp hfollows hsound
      refine ⟨a, b, r'', (hwoven hends.swap).swap, ?_⟩
      rw [Pair.follow, hturn]
      exact hfinish

/-! ## One call after the other -/

section Serial

variable {s t : Session} {x y : Mutation}

theorem firstThenSecond_eq (hs : s.Idle) (ht : t.Idle) {r : Records} (hr : r.Sound)
    (hdatabase : s.connection.database = r.database) :
    let first := (x.script (s.codes s.codesTaken)).run r
    let second := (y.script (t.codes t.codesTaken)).run first.2
    s.firstThenSecond t x y = ⟨first.1, second.1, second.2.database⟩ := by
  obtain ⟨s', hcall, hsound⟩ := hs.call_holding hr x
  obtain ⟨t', hcall', -⟩ := ht.call_holding hsound y
  rw [holding_eq_self hdatabase] at hcall
  simp only [firstThenSecond, hcall, holding_database, hcall']

theorem secondThenFirst_eq (hs : s.Idle) (ht : t.Idle) {r : Records} (hr : r.Sound)
    (hdatabase : s.connection.database = r.database) :
    let second := (y.script (t.codes t.codesTaken)).run r
    let first := (x.script (s.codes s.codesTaken)).run second.2
    s.secondThenFirst t x y = ⟨first.1, second.1, first.2.database⟩ := by
  obtain ⟨t', hcall, hsound⟩ := ht.call_holding hr y
  obtain ⟨s', hcall', -⟩ := hs.call_holding hsound x
  simp only [secondThenFirst, hdatabase, hcall, holding_database, hcall']

/-- Two calls that spare what each other relies on come to what they come to one after the other,
whatever turns two clients take on one database and whatever calls have led to it. -/
theorem Reachable.serializable (h : s.Reachable) (hs : s.Idle) (ht : t.Idle)
    (hxy : x.spares s.records y = true) (hyx : y.spares s.records x = true) (schedule : List Side) :
    s.interleaved t x y schedule = s.firstThenSecond t x y ∨
      s.interleaved t x y schedule = s.secondThenFirst t x y := by
  have hr := h.holds.sound
  have hdatabase := h.holds.database
  obtain ⟨a, b, r', hwoven, hfinish⟩ :=
    (follows_perform hs x).woven (follows_perform ht y) hr schedule
  have hinterleaved : s.interleaved t x y schedule = ⟨a, b, r'.database⟩ := by
    rw [← hfinish, interleaved, beside, hdatabase]
  rw [hinterleaved, firstThenSecond_eq hs ht hr hdatabase, secondThenFirst_eq hs ht hr hdatabase]
  -- whoever changes the records first comes first, unless the other one had failed already
  rcases hwoven.serial (yields_script hr hxy hyx _ _)
    (yields_script hr hyx hxy _ _) with ⟨ha, hb⟩ | ⟨hb, ha⟩
  · left
    simp only [ha, hb]
  · right
    simp only [ha, hb]

/-- Two clients want the same label, one for a new sector and one for a sector that is there. -/
theorem serializable_contested :
    let s := (ofAcme [acmeRoot, north] 2).session "f"
    let create : Mutation := .createSector 1 1 "Far North" (some "n")
    let rename : Mutation := .renameSector 1 2 "Far North"
    let schedule := [.first, .first, .second, .second, .second]
    s.Reachable ∧ s.Idle ∧ create.spares s.records rename = true ∧
      rename.spares s.records create = true ∧
      (s.interleaved s create rename schedule = s.firstThenSecond s create rename ∨
        s.interleaved s create rename schedule = s.secondThenFirst s create rename) := by
  have hplan : founded.plan "n" (.createSector 1 1 "North" none) =
      .ok (2, ofAcme [acmeRoot, north] 2) := rfl
  have hreached := reached_founded.next hplan
  have hidle : ((ofAcme [acmeRoot, north] 2).session "f").Idle := ⟨rfl, rfl, rfl⟩
  have hrename : Mutation.spares (ofAcme [acmeRoot, north] 2) (.renameSector 1 2 "Far North")
      (.createSector 1 1 "Far North" (some "n")) = true := by decide +kernel
  have hrecords : ((ofAcme [acmeRoot, north] 2).session "f").records =
      ofAcme [acmeRoot, north] 2 := hreached.sound.records_session
  rw [← hrecords] at hrename
  exact ⟨hreached.reachable "f", hidle, rfl, hrename,
    (hreached.reachable "f").serializable hidle hidle rfl hrename _⟩

/-- What a call is asked to spare cannot be done without. The parent of a new sector is deleted
before the insert, and the sector is stored below nothing. In the same way the organization of a new
sector is deleted, the new sector gets a label before it is read back, both clients delete the same
sector, give the organization the same label, or delete the organization. Where one number is left,
both clients want a new sector under the same label. -/
theorem clash_unspared :
    let s := (ofAcme [acmeRoot, north] 2).session "f"
    let create : Mutation := .createSector 1 1 "Far North" (some "n")
    let createIn : Mutation := .createSectorIn 1 "acme" { label := "Far North" }
    let delete : Mutation := .deleteSector 1 2
    let rename : Mutation := .renameOrganization 1 "acme" "Acme Corp"
    let dissolve : Mutation := .deleteOrganization 1 "acme"
    let filled := (ofAcme [acmeRoot] (Int64.maxValue - 1)).session "n"
    let fill : Mutation := .createSector 1 1 "North" none
    s.Reachable ∧ s.Idle ∧
      s.interleaved s create delete [.first, .first, .second, .second] =
        ⟨.ok (3 : SectorId), .ok (1 : Nat), (ofAcme [acmeRoot, farNorth] 3).database⟩ ∧
      s.Clash s create delete [.first, .first, .second, .second] ∧
      s.Clash s createIn dissolve [.first, .second, .second] ∧
      s.Clash s createIn (.renameSector 1 3 "South")
        [.first, .first, .first, .first, .first, .second, .second, .second] ∧
      s.Clash s delete delete [.first, .second] ∧
      s.Clash s rename rename [.first, .second, .second, .second] ∧
      s.Clash s dissolve dissolve [.first, .second] ∧
      filled.Reachable ∧ filled.Idle ∧
      filled.Clash filled fill fill [.first, .second, .second, .second] := by
  have hplan : founded.plan "n" (.createSector 1 1 "North" none) =
      .ok (2, ofAcme [acmeRoot, north] 2) := rfl
  have hreached := reached_founded.next hplan
  refine ⟨hreached.reachable "f", ⟨rfl, rfl, rfl⟩, ?_, ?_, ?_, ?_, ?_, ?_, ?_,
    reached_filled.reachable "n", ⟨rfl, rfl, rfl⟩, ?_⟩ <;> decide +kernel

end Serial

end Session

end SectorForest
