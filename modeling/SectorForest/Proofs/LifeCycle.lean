import SectorForest.Proofs.Identity
import SectorForest.Proofs.Isolation
import SectorForest.Proofs.Organizations

/-!
# From creating an organization to deleting it

In between, an organization may get other labels, and its sectors may come and go in any order: its
root may be deleted, subtrees may lose what they hang on, and sectors may be created below those.
Whatever has become of it, deleting it succeeds and leaves the organizations and the sectors that
were there before it: `Session.Reachable.life_traceless`.

What carries through all calls in between is that the organization is stored and that all records
but its own are the same, `Records.besides`. As no other sector names the organization as its owner,
deleting it meets no reference that would be left without its row.
-/

namespace SectorForest

open Storage

namespace Records

variable {r r' : Records} {newCode : String} {o : Organization}

/-! ## Creating and deleting -/

/-- With a new organization come no records but its own. -/
theorem Sound.besides_found (hr : r.Sound) {new : NewOrganization} (h : r.Founds new) :
    (r.found new).besides new.tenant (r.lastOrganization + 1) = (r.organizations, r.sectors) := by
  have hrooted := besides_addSector (r := r.addOrganization new)
    (s := NewSector.root new.tenant (r.lastOrganization + 1) new.code new.label) rfl rfl
  refine hrooted.trans ((besides_addOrganization rfl).trans (Prod.ext ?_ ?_))
  · refine List.filter_eq_self.mpr fun x hx => Bool.of_not_eq_false fun hsame => ?_
    exact hr.organization_id_ne_next h.organization_room x hx
      (Organization.isOther_eq_false.mp hsame).2
  · refine List.filter_eq_self.mpr fun x hx => Bool.of_not_eq_false fun hsame => ?_
    exact hr.org_ne_next h.organization_room x hx (Sector.isOther_eq_false.mp hsame).2

/-- Deleting an organization leaves all records but its own. -/
theorem dissolve_eq_besides (hr : r.Sound) (hl : r.Lineage) (ho : o ∈ r.organizations) :
    ((r.dissolve o).organizations, (r.dissolve o).sectors) = r.besides o.tenant o.id := by
  refine Prod.ext (List.filter_congr fun x hx => ?_) (List.filter_congr fun x hx => ?_)
  · -- the code and the number name the same organization of the tenant
    rw [Bool.eq_iff_iff, ← not_iff_not]
    simp only [Bool.not_eq_true, Bool.not_eq_false', decide_eq_true_eq,
      Organization.isOther_eq_false]
    refine and_congr_right fun htenant => ⟨fun hcode => ?_, fun hid => ?_⟩
    · rw [hr.organization_codes x hx o ho (by simp [htenant, hcode])]
    · rw [distinctBy_number hr.organizations_increasing x hx o ho hid]
  · rw [Bool.eq_iff_iff, ← not_iff_not]
    simp only [Bool.not_eq_true, Bool.not_eq_false', beq_iff_eq, Sector.isOther_eq_false]
    exact ⟨fun horg => ⟨(hl.tenant_eq x hx o ho horg.symm).symm, horg⟩, And.right⟩

/-- A stored organization can be deleted: when it goes, its sectors are gone. -/
theorem Sound.plan_deleteOrganization (hr : r.Sound) {tenant : TenantId} {code : String}
    (ho : r.organization? tenant code = some o) :
    r.plan newCode (.deleteOrganization tenant code) = .ok ((), r.dissolve o) := by
  obtain ⟨hmem, rfl, rfl⟩ := organization?_eq_some ho
  have hremoved : (r.removeSectors fun s => s.org == o.id).deleteOrganization o.tenant o.code =
      .ok (_, r.dissolve o) :=
    if_pos (hr.dissolve hmem).hasOwners
  rw [plan, planDeleteOrganization, ho]
  show (carryOut _ .persistence >>= _) = _
  rw [hremoved]
  rfl

/-! ## What is done in between -/

/-- The call names the organization by its number or its code, or a sector that is none of another
organization. -/
def Addresses (r : Records) (o : Organization) : Mutation → Prop
  | .createOrganization _ _ => False
  | .createSector _ org _ _ => org = o.id
  | .createSectorIn tenant code _ => tenant = o.tenant ∧ code = o.code
  | .renameSector tenant id _ => ∀ x, r.sector? tenant id = some x → x.org = o.id
  | .deleteSector tenant id => ∀ x, r.sector? tenant id = some x → x.org = o.id
  | .renameOrganization tenant code _ => tenant = o.tenant ∧ code = o.code
  | .deleteOrganization _ _ => False

/-- A call that is addressed to a stored organization is about that one. -/
theorem Effect.target?_eq {mutation : Mutation} {a : mutation.Answer}
    (h : r.Effect newCode mutation a r') (hr : r.Sound) (hl : r.Lineage) (ho : r.Stores o)
    (haddresses : r.Addresses o mutation) :
    mutation.tenant = o.tenant ∧ mutation.target? r = some o.id := by
  -- a sector of the organization belongs to its tenant
  have htenant : ∀ x ∈ r.sectors, x.org = o.id → x.tenant = o.tenant := by
    intro x hx horg
    obtain ⟨y, hy, hid, hsame, -⟩ := ho
    rw [← hsame, hl.tenant_eq x hx y hy (hid.trans horg.symm)]
  cases h with
  | createOrganization => exact haddresses.elim
  | createSector hgrows =>
    obtain ⟨hmem, hparent, horg, -⟩ := r.parentFor_eq_ok hgrows.parentFor_eq
    obtain rfl : _ = o.id := haddresses
    exact ⟨hparent.symm.trans (htenant _ hmem horg), rfl⟩
  | createSectorIn hx _ =>
    obtain ⟨rfl, rfl⟩ := haddresses
    exact ⟨rfl, (congrArg (Option.map _) hx).trans (congrArg some (ho.id_eq hr hx))⟩
  | renameSector hs _ _ =>
    obtain ⟨hmem, hsame, -⟩ := sector?_eq_some hs
    have horg := haddresses _ hs
    exact ⟨hsame.symm.trans (htenant _ hmem horg),
      (congrArg (Option.map _) hs).trans (congrArg some horg)⟩
  | deleteSector hs =>
    obtain ⟨hmem, hsame, -⟩ := sector?_eq_some hs
    have horg := haddresses _ hs
    exact ⟨hsame.symm.trans (htenant _ hmem horg),
      (congrArg (Option.map _) hs).trans (congrArg some horg)⟩
  | keepLabel hx _ =>
    obtain ⟨rfl, rfl⟩ := haddresses
    exact ⟨rfl, (congrArg (Option.map _) hx).trans (congrArg some (ho.id_eq hr hx))⟩
  | renameOrganization hx _ _ =>
    obtain ⟨rfl, rfl⟩ := haddresses
    exact ⟨rfl, (congrArg (Option.map _) hx).trans (congrArg some (ho.id_eq hr hx))⟩
  | deleteOrganization => exact haddresses.elim

/-- What is addressed to an organization leaves it stored and all other records as they are. -/
theorem Effect.tends {mutation : Mutation} {a : mutation.Answer}
    (h : r.Effect newCode mutation a r') (hr : r.Sound) (hl : r.Lineage) (ho : r.Stores o)
    (haddresses : r.Addresses o mutation) :
    r'.Stores o ∧ r'.besides o.tenant o.id = r.besides o.tenant o.id := by
  obtain ⟨htenant, htarget⟩ := h.target?_eq hr hl ho haddresses
  obtain ⟨org, horg, hbesides⟩ := h.besides_eq hr hl
  obtain rfl : o.id = org := Option.some.inj (htarget.symm.trans horg)
  rw [htenant] at hbesides
  refine ⟨h.stores ho ?_, hbesides⟩
  rintro rfl
  exact haddresses

end Records

namespace Session

variable {s s₁ s₂ : Session} {r : Records} {o : Organization}

/-! ## The right to write -/

/-- A call changes nothing of a connection but the records behind it. -/
theorem Holds.call_connection (h : s.Holds r) (mutation : Mutation) :
    ∃ database, (s.call mutation).2.connection = { s.connection with database } := by
  have hsettled := call_settled h.idle h.database h.sound mutation
  generalize r.plan (s.codes s.codesTaken) mutation = plan at hsettled
  generalize (s.call mutation).1 = result at hsettled
  generalize (s.call mutation).2.connection = after at hsettled
  cases hsettled with
  | done _ r' => exact ⟨r'.database, rfl⟩
  | refused _ _ hrestored => exact ⟨s.connection.database, hrestored⟩
  | blocked _ _ _ hrestored _ => exact ⟨s.connection.database, hrestored⟩

theorem Holds.call_writeFault? (h : s.Holds r) (mutation : Mutation) :
    (s.call mutation).2.connection.writeFault? .main = s.connection.writeFault? .main := by
  obtain ⟨database, heq⟩ := h.call_connection mutation
  rw [heq]
  rfl

/-- A call that can be carried out leads on to another session that can be written. -/
theorem Holds.call_leads (h : s.Holds r) (hfree : s.connection.writeFault? .main = none)
    {mutation : Mutation} {a : mutation.Answer} {r' : Records}
    (hplan : r.plan (s.codes s.codesTaken) mutation = .ok (a, r')) :
    ∃ s', s.call mutation = (.ok a, s') ∧ s'.Holds r' ∧
      s'.connection.writeFault? .main = none := by
  obtain ⟨hcall, hafter⟩ := h.call_of_plan hfree hplan
  exact ⟨_, Prod.ext hcall rfl, hafter, (h.call_writeFault? mutation).trans hfree⟩

/-- A change is not made while the database cannot be written, whatever is planned. -/
theorem Settles.blocked {base : Connection} {Restored : Connection → Prop} {s : Session}
    {α β : Type} {ask : Serving (StateM Session) α} {onError : StoreError → ServiceError}
    {change : Except Fault (α × Records)}
    (hask : s.run ask = ((s.connection.change change).1.mapError fun e => .refused (onError e),
      { s with connection := (s.connection.change change).2 }))
    (hon : s.On base r) (hrestored : Restored s.connection)
    (hblocked : base.writeFault? .main ≠ none) (next : α → Serving (StateM Session) β)
    (plan : Except Failure (β × Records)) : s.Settles base Restored (ask >>= next) plan := by
  obtain ⟨fault, hfault⟩ := Option.ne_none_iff_exists'.mp hblocked
  have hsame : s.connection.writeFault? .main = some fault := by
    rw [hon]
    exact hfault
  have hrun : s.run ask = (.error (.refused (onError (.ofFault fault))), s) := by
    rw [hask]
    simp only [Connection.change, hsame]
    rfl
  rw [Settles, run_bind_error hrun]
  exact .blocked _ _ _ hrestored hblocked

/-- What carries out a plan that fails does not succeed. -/
theorem Settles.fails {base : Connection} {Restored : Connection → Prop} {α : Type}
    {action : Serving (StateM Session) α} {plan : Except Failure (α × Records)}
    (h : s.Settles base Restored action plan) (hplan : ∀ done, plan ≠ .ok done) :
    ∃ failure, (s.run action).1 = .error failure := by
  rw [Settles] at h
  generalize (s.run action).1 = result at h ⊢
  generalize (s.run action).2.connection = after at h
  cases h with
  | done a r' => exact absurd rfl (hplan (a, r'))
  | refused failure _ _ => exact ⟨failure, rfl⟩
  | blocked _ failure _ _ _ => exact ⟨failure, rfl⟩

/-- No organization is created while the database cannot be written. -/
theorem Holds.createOrganization_blocked (h : s.Holds r)
    (hblocked : s.connection.writeFault? .main ≠ none) (tenant : TenantId)
    (draft : OrganizationDraft) :
    ∃ failure, (s.call (.createOrganization tenant draft)).1 = .error failure := by
  have hon : s.opened.On s.opened.connection r := by
    rw [On, ← h.database]
    rfl
  obtain ⟨hrestored, -⟩ := On.undone h.idle hon
  -- a plan that stops before the first change is carried out as well as any other
  have hsettled : s.Settles s.connection (· = s.connection)
      (backend.createOrganization tenant draft)
      (chosenText .code draft.code >>= fun code => chosenText .label draft.label >>= fun label =>
        unlessTaken (r.hasOrganizationCode tenant code) (.conflict .organization .code code)
          >>= fun _ =>
        unlessTaken (r.hasOrganizationLabel tenant label) (.conflict .organization .label label)
          >>= fun _ => .error .tooDeep) := by
    rw [Backend.createOrganization]
    refine Settles.reported (Settles.normalized rfl fun code => ?_)
    refine Settles.normalized rfl fun label => ?_
    refine Settles.transaction h.idle ?_
    have hcode := OrganizationRequest.answer_existsByCode hon.database tenant code
    refine Settles.read (run_askOrganizations_ok hcode) ?_
    refine Settles.unlessTaken Iff.rfl hrestored fun _ => ?_
    have hlabel := OrganizationRequest.answer_existsByLabel hon.database tenant label
    refine Settles.read (run_askOrganizations_ok hlabel) ?_
    refine Settles.unlessTaken Iff.rfl hrestored fun _ => ?_
    have hcreate := OrganizationRequest.answer_createInTransaction hon.database h.sound
      { tenant, code, label, kind := draft.kind, status := draft.status }
    exact Settles.blocked (run_askOrganizations_change hcreate) hon hrestored hblocked _ _
  refine hsettled.fails fun done hplan => ?_
  obtain ⟨_, -, hplan⟩ := Except.bind_eq_ok hplan
  obtain ⟨_, -, hplan⟩ := Except.bind_eq_ok hplan
  obtain ⟨_, -, hplan⟩ := Except.bind_eq_ok hplan
  obtain ⟨_, -, hplan⟩ := Except.bind_eq_ok hplan
  cases hplan

/-! ## The whole life -/

/-- The sessions that a session becomes by calls that are addressed to an organization. -/
inductive Tended (o : Organization) (start : Session) : Session → Prop
  | start : Tended o start start
  | call {s : Session} (h : Tended o start s) (mutation : Mutation)
    (haddresses : s.records.Addresses o mutation) : Tended o start (s.call mutation).2

theorem Tended.next (h : s₁.Tended o s) {mutation : Mutation} {ending : Except Failure _}
    (hcall : s.call mutation = (ending, s₂)) (haddresses : s.records.Addresses o mutation) :
    s₁.Tended o s₂ := by
  have hafter := h.call mutation haddresses
  rwa [hcall] at hafter

theorem Tended.run (h : s₁.Tended o s₂) : ∃ calls, s₁.Run calls s₂ := by
  induction h with
  | start => exact ⟨[], .start⟩
  | call _ mutation _ ih =>
    obtain ⟨calls, hrun⟩ := ih
    exact ⟨_, hrun.call mutation⟩

/-- What carries through the calls that are addressed to an organization. -/
theorem Tended.keeps (h : s₁.Tended o s₂) (hreachable : s₁.Reachable)
    (ho : s₁.records.Stores o) :
    s₂.records.Stores o ∧ s₂.records.besides o.tenant o.id = s₁.records.besides o.tenant o.id ∧
      s₂.connection.writeFault? .main = s₁.connection.writeFault? .main := by
  induction h with
  | start => exact ⟨ho, rfl, rfl⟩
  | @call s h mutation haddresses ih =>
    obtain ⟨hstores, hbesides, hwrite⟩ := ih
    obtain ⟨calls, hrun⟩ := h.run
    have hreached := hreachable.run hrun
    have hwrite := (hreached.holds.call_writeFault? mutation).trans hwrite
    rcases hreached.holds.call mutation with ⟨failure, -, hafter⟩ | ⟨a, r', -, heffect, hafter⟩
    · rw [hafter.records]
      exact ⟨hstores, hbesides, hwrite⟩
    · obtain ⟨hstores', hbesides'⟩ :=
        heffect.tends hreached.holds.sound hreached.lineage hstores haddresses
      rw [hafter.records]
      exact ⟨hstores', hbesides'.trans hbesides, hwrite⟩

/-- After an organization is created, the database can be written, and holds nothing new but the
organization and its root. -/
theorem Reachable.creates (h : s.Reachable) {tenant : TenantId} {draft : OrganizationDraft}
    {id : OrganizationId} (hcreate : s.call (.createOrganization tenant draft) = (.ok id, s₁)) :
    s₁.connection.writeFault? .main = none ∧
    ∃ o ∈ s₁.records.organizations, o.id = id ∧ o.tenant = tenant ∧
      normalize .code draft.code = .ok o.code ∧
      s₁.records.besides o.tenant o.id = (s.records.organizations, s.records.sectors) := by
  have hholds := h.holds
  refine ⟨?_, ?_⟩
  · by_contra hblocked
    have hsame := hholds.call_writeFault? (.createOrganization tenant draft)
    rw [hcreate] at hsame
    obtain ⟨failure, hfailure⟩ :=
      hholds.createOrganization_blocked (hsame ▸ hblocked) tenant draft
    rw [hcreate] at hfailure
    cases hfailure
  · obtain ⟨r₁, heffect, hholds₁⟩ := hholds.call_ok hcreate
    rw [hholds₁.records]
    cases heffect with
    | createOrganization hcode _ hfounds =>
      exact ⟨_, Records.mem_addOrganization, rfl, rfl, hcode,
        hholds.sound.besides_found hfounds⟩

/-- An organization that calls were addressed to is deleted, and leaves what was there beside it. -/
theorem Tended.deletes (h : s₁.Tended o s₂) (hreachable : s₁.Reachable)
    (ho : o ∈ s₁.records.organizations) (hfree : s₁.connection.writeFault? .main = none) :
    let deletion := s₂.call (.deleteOrganization o.tenant o.code)
    deletion.1 = .ok () ∧ deletion.2.Holds { s₂.records with
      organizations := (s₁.records.besides o.tenant o.id).1
      sectors := (s₁.records.besides o.tenant o.id).2 } := by
  obtain ⟨⟨x, hx, hid, htenant, hcode⟩, hbesides, hwrite⟩ :=
    h.keeps hreachable (Records.stores_of_mem ho)
  obtain ⟨calls, hrun⟩ := h.run
  have hreached := hreachable.run hrun
  have hsound := hreached.holds.sound
  have hleft := Records.dissolve_eq_besides hsound hreached.lineage hx
  rw [htenant, hid, hbesides] at hleft
  have hfound := hsound.organization?_of_mem hx
  rw [htenant, hcode] at hfound
  rw [← hleft]
  exact hreached.holds.call_of_plan (hwrite.trans hfree) (hsound.plan_deleteOrganization hfound)

/-- Where an organization is created in a reachable session, and then any calls are addressed to
it, deleting it by its code succeeds. Afterwards the database holds the organizations and sectors
that it held before all this, and at most the numbers last given out have grown. -/
theorem Reachable.life_traceless (h : s.Reachable) {tenant : TenantId}
    {draft : OrganizationDraft} {id : OrganizationId}
    (hcreate : s.call (.createOrganization tenant draft) = (.ok id, s₁)) :
    s.connection.database = s.records.database ∧
    ∃ o ∈ s₁.records.organizations, o.id = id ∧ o.tenant = tenant ∧
      normalize .code draft.code = .ok o.code ∧
      ∀ s₂, s₁.Tended o s₂ →
        let deletion := s₂.call (.deleteOrganization tenant o.code)
        deletion.1 = .ok () ∧
        ∃ lastOrganization lastSector, s.records.lastOrganization ≤ lastOrganization ∧
          s.records.lastSector ≤ lastSector ∧
          deletion.2.connection.database =
            { s.records with lastOrganization, lastSector : Records }.database := by
  have hrun₁ : s.Run _ s₁ := congrArg Prod.snd hcreate ▸ Run.call .start _
  obtain ⟨hfree, o, ho, hid, htenant, hcode, hbesides⟩ := h.creates hcreate
  refine ⟨h.holds.database, o, ho, hid, htenant, hcode, fun s₂ htended => ?_⟩
  obtain ⟨hdeleted, hafter⟩ := htended.deletes (h.run hrun₁) ho hfree
  obtain ⟨calls, hrun₂⟩ := htended.run
  obtain ⟨r₂, hholds₂, hcontinues⟩ := (hrun₁.append hrun₂).continues h.holds
  obtain rfl := hholds₂.records
  subst htenant
  rw [hbesides] at hafter
  exact ⟨hdeleted, _, _, hcontinues.lastOrganization_le, hcontinues.lastSector_le,
    hafter.database⟩

open Records in
/-- `umbra` is created, gets another label and loses its root, after which it gets no sector; then
it is deleted. -/
theorem life_traceless_umbra :
    (chain.session "u").Reachable ∧ ∃ created renamed uprooted deleted,
      (chain.session "u").call (.createOrganization 1
        { code := "umbra", label := "Umbra", kind := .bu }) = (.ok 2, created) ∧
      created.call (.renameOrganization 1 "umbra" "Shade") = (.ok (), renamed) ∧
      renamed.call (.deleteSector 1 5) = (.ok 1, uprooted) ∧
      (uprooted.call (.createSector 1 2 "Upper" none)).2.call (.deleteOrganization 1 "umbra") =
        (.ok (), deleted) ∧
      ∃ lastOrganization lastSector, deleted.connection.database =
        { chain with lastOrganization, lastSector : Records }.database := by
  have hreachable := reached_chain.reachable "u"
  have hholds := reached_chain.sound.session_holds "u"
  obtain ⟨created, hcreate, hcreated, hfree⟩ := hholds.call_leads rfl
    (show chain.plan "u" (.createOrganization 1
      { code := "umbra", label := "Umbra", kind := .bu }) = .ok (2, withUmbra) from rfl)
  obtain ⟨renamed, hrename, hrenamed, hfree⟩ := hcreated.call_leads hfree
    (show withUmbra.plan _ (.renameOrganization 1 "umbra" "Shade") = .ok ((), _) from rfl)
  obtain ⟨uprooted, huproot, -, -⟩ := hrenamed.call_leads hfree
    (show plan _ _ (.deleteSector 1 5) = .ok (1, _) from rfl)
  obtain ⟨-, o, ho, hid, -, -, hlife⟩ := hreachable.life_traceless hcreate
  rw [reached_chain.sound.records_session] at hlife
  obtain rfl : o = umbra := by
    rw [hcreated.records] at ho
    exact (by decide : ∀ x ∈ withUmbra.organizations, x.id = 2 → x = umbra) o ho hid
  have haddresses : renamed.records.Addresses umbra (.deleteSector 1 5) := by
    intro x hx
    rw [hrenamed.records] at hx
    cases hx
    rfl
  have htended := (Tended.start.next hrename ⟨rfl, rfl⟩).next huproot haddresses
  obtain ⟨hdeleted, lastOrganization, lastSector, -, -, hdatabase⟩ :=
    hlife _ (htended.call (.createSector 1 2 "Upper" none) rfl)
  exact ⟨hreachable, created, renamed, uprooted, _, hcreate, hrename, huproot,
    Prod.ext hdeleted rfl, lastOrganization, lastSector, hdatabase⟩

end Session

end SectorForest
