import SectorForest.Proofs.Normal

/-!
# Which error a caller is told

Several things may be against a call at once, and its caller is told of the first one in a fixed
order. A `Reason` is one of them, in terms of the records, with the error that tells of it. Reasons
decide a call if it fails for the first one that applies, and then leaves everything as it was, and
succeeds if none applies: `Decides` for plans, and from there `Session.Decided` for calls.

A plan is gone through step by step; every step that looks for something has its reason.
-/

namespace SectorForest

open Storage

variable {α β : Type}

/-! ## Reasons -/

/-- Something that may be against a call, and what its caller is told then. -/
structure Reason where
  applies : Prop
  [decidable : Decidable applies]
  error : ServiceError

attribute [instance] Reason.decidable

namespace Reason

/-- The error of the first reason that applies. -/
def first? : List Reason → Option ServiceError
  | [] => none
  | reason :: later => if reason.applies then some reason.error else first? later

/-- What a caller is told is the error of a reason that applies. -/
theorem first?_eq_some {reasons : List Reason} {error : ServiceError}
    (h : first? reasons = some error) :
    ∃ reason ∈ reasons, reason.applies ∧ reason.error = error := by
  induction reasons with
  | nil => cases h
  | cons reason later ih =>
    rw [first?] at h
    split at h
    · rename_i happlies
      exact ⟨reason, List.mem_cons_self, happlies, Option.some.inj h⟩
    · obtain ⟨told, hmem, htold⟩ := ih h
      exact ⟨told, List.mem_cons_of_mem _ hmem, htold⟩

/-- What may be against a code or label without blanks at its ends. -/
def ofText (field : TextField) (text : String) : List Reason :=
  [⟨text = "", .invalidInput field .blank⟩,
    ⟨maxTextLength < text.length, .invalidInput field .tooLong⟩]

/-- Nothing is against a normal text. -/
theorem first?_ofText (field : TextField) {text : String} (h : IsNormal text)
    (later : List Reason) : first? (ofText field text ++ later) = first? later := by
  have hblank : ¬ text = "" := h.nonempty
  have hlong : ¬ maxTextLength < text.length := Nat.not_lt.mpr h.short
  simp only [ofText, List.cons_append, List.nil_append, first?, hblank, hlong, if_false]

end Reason

theorem normalize_eq (field : TextField) (text : String) :
    normalize field text =
      if Text.trim text = "" then .error (.invalidInput field .blank)
      else if maxTextLength < (Text.trim text).length then .error (.invalidInput field .tooLong)
      else .ok (Text.trim text) := by
  simp [normalize, String.isEmpty_iff]

/-! ## Plans -/

/-- A plan fails for the first of the reasons that applies; if none does, it succeeds, and `Done`
tells of its answer and the records afterwards. -/
structure Decides (reasons : List Reason) (plan : Except Failure (α × Records))
    (Done : α → Records → Prop) : Prop where
  fails {error : ServiceError} (hfirst : Reason.first? reasons = some error) :
    plan = .error (.refused error)
  succeeds (hfirst : Reason.first? reasons = none) : ∃ a r, plan = .ok (a, r) ∧ Done a r

namespace Decides

variable {reason : Reason} {later reasons : List Reason} {plan : Except Failure (α × Records)}
  {Done : α → Records → Prop} {error : ServiceError} {P : Prop} [Decidable P]

theorem done {a : α} {r : Records} (h : Done a r) : Decides [] (.ok (a, r)) Done where
  fails hfirst := by cases hfirst
  succeeds _ := ⟨a, r, rfl, h⟩

theorem cons (h : reason.applies → plan = .error (.refused reason.error))
    (hlater : ¬ reason.applies → Decides later plan Done) :
    Decides (reason :: later) plan Done := by
  by_cases happlies : reason.applies
  · have hfirst : Reason.first? (reason :: later) = some reason.error := if_pos happlies
    constructor
    case fails =>
      intro error herror
      rw [h happlies, Option.some.inj (hfirst.symm.trans herror)]
    case succeeds =>
      intro hnone
      cases hfirst.symm.trans hnone
  · have hfirst : Reason.first? (reason :: later) = Reason.first? later := if_neg happlies
    exact ⟨fun herror => (hlater happlies).fails (hfirst ▸ herror),
      fun hnone => (hlater happlies).succeeds (hfirst ▸ hnone)⟩

/-- A reason that is known not to apply may be left out. -/
theorem of_cons (h : Decides (reason :: later) plan Done) (happlies : ¬ reason.applies) :
    Decides later plan Done :=
  have hfirst : Reason.first? (reason :: later) = Reason.first? later := if_neg happlies
  ⟨fun herror => h.fails (hfirst.trans herror), fun hnone => h.succeeds (hfirst.trans hnone)⟩

theorem imp {Done' : α → Records → Prop} (h : Decides reasons plan Done)
    (himp : ∀ a r, Done a r → Done' a r) : Decides reasons plan Done' where
  fails := h.fails
  succeeds hnone := by
    obtain ⟨a, r, hplan, hdone⟩ := h.succeeds hnone
    exact ⟨a, r, hplan, himp a r hdone⟩

theorem chosenText {field : TextField} {text : String}
    {plan : String → Except Failure (α × Records)}
    (h : Decides later (plan (Text.trim text)) Done) :
    Decides (Reason.ofText field (Text.trim text) ++ later)
      (SectorForest.chosenText field text >>= plan) Done := by
  have hnormal := normalize_eq field text
  refine .cons (fun hblank => ?_) fun hblank => .cons (fun hlong => ?_) fun hlong => ?_
  · rw [if_pos hblank] at hnormal
    rw [SectorForest.chosenText, hnormal]
    rfl
  · rw [if_neg hblank, if_pos hlong] at hnormal
    rw [SectorForest.chosenText, hnormal]
    rfl
  · rw [if_neg hblank, if_neg hlong] at hnormal
    rw [SectorForest.chosenText, hnormal]
    exact h

theorem unlessTaken {taken : Bool} (htaken : taken = true ↔ P) (h : ¬ P → Decides later plan Done) :
    Decides (⟨P, error⟩ :: later) (SectorForest.unlessTaken taken error >>= fun _ => plan)
      Done := by
  refine .cons (fun hP => ?_) fun hP => ?_
  · rw [htaken.mpr hP]
    rfl
  · rw [Bool.eq_false_iff.mpr fun ht => hP (htaken.mp ht)]
    exact h hP

/-- A step that fails for one reason only. -/
theorem step {step : Except Failure β} {plan : β → Except Failure (α × Records)}
    (hfails : P → step = .error (.refused error))
    (h : ¬ P → ∃ b, step = .ok b ∧ Decides later (plan b) Done) :
    Decides (⟨P, error⟩ :: later) (step >>= plan) Done := by
  refine .cons (fun hP => ?_) fun hP => ?_
  · rw [hfails hP]
    rfl
  · obtain ⟨b, hstep, hplan⟩ := h hP
    rw [hstep]
    exact hplan

/-- A last step that cannot fail. -/
theorem bind {Done' : β → Records → Prop} {next : α × Records → Except Failure (β × Records)}
    (h : Decides reasons plan Done)
    (hnext : ∀ a r, plan = .ok (a, r) → Done a r → ∃ b r', next (a, r) = .ok (b, r') ∧ Done' b r') :
    Decides reasons (plan >>= next) Done' := by
  constructor
  case fails =>
    intro error herror
    rw [h.fails herror]
    rfl
  case succeeds =>
    intro hnone
    obtain ⟨a, r, hplan, hdone⟩ := h.succeeds hnone
    obtain ⟨b, r', hstep, hdone'⟩ := hnext a r hplan hdone
    exact ⟨b, r', by rw [hplan]; exact hstep, hdone'⟩

end Decides

/-! ## Tables -/

namespace Records

variable {r : Records}

/-- An organization whose code and label are free is added. -/
theorem insertOrganization_free {o : NewOrganization}
    (hroom : r.lastOrganization ≠ Int64.maxValue)
    (hcode : ¬ ∃ x ∈ r.organizations, x.tenant = o.tenant ∧ x.code = o.code)
    (hlabel : ¬ ∃ x ∈ r.organizations, x.tenant = o.tenant ∧ x.label = o.label) :
    r.insertOrganization o = .ok (r.lastOrganization + 1, r.addOrganization o) := by
  have hfault : (o.stored (r.lastOrganization + 1)).fault? r.organizations = none := by
    rw [Organization.fault?_eq]
    exact (if_neg hlabel).trans (if_neg hcode)
  rw [insertOrganization, if_neg hroom, hfault]

/-- A sector that fits is added. -/
theorem insertSector_free {s : NewSector} (hroom : r.lastSector ≠ Int64.maxValue)
    (howner : ∃ o ∈ r.organizations, o.id = s.org) (hshaped : Shaped s.parent s.hasParent s.depth)
    (hlabel : ¬ ∃ x ∈ r.sectors, x.tenant = s.tenant ∧ x.label = s.label)
    (hcode : ¬ ∃ x ∈ r.sectors, x.code = s.code) :
    r.insertSector s = .ok (r.lastSector + 1, r.addSector s) := by
  have howned : (r.organizations.any fun o => o.id == s.org) = true := by
    simpa using howner
  have hfault : (s.stored (r.lastSector + 1)).fault? r.sectors = none := by
    rw [Sector.fault?_eq]
    exact (if_neg (not_not.mpr hshaped)).trans ((if_neg hlabel).trans (if_neg hcode))
  rw [insertSector, if_neg hroom, hfault]
  exact if_pos howned

/-- A sector that says fitting things of its parent, and whose owner is stored, is refused for the
sake of its label or else of its code. -/
theorem decides_insertSector {s : NewSector} (hroom : r.lastSector ≠ Int64.maxValue)
    (howner : ∃ o ∈ r.organizations, o.id = s.org) (hshaped : Shaped s.parent s.hasParent s.depth)
    (entity : Entity) :
    Decides [⟨∃ x ∈ r.sectors, x.tenant = s.tenant ∧ x.label = s.label,
        .conflict entity .label s.label⟩,
      ⟨∃ x ∈ r.sectors, x.code = s.code, .conflict entity .code s.code⟩]
      (carryOut (r.insertSector s) (writeError entity s.code s.label))
      fun id r' => id = r.lastSector + 1 ∧ r' = r.addSector s := by
  have hfault := (Sector.fault?_eq r.sectors (s.stored (r.lastSector + 1))).trans
    (if_neg (not_not.mpr hshaped))
  obtain ⟨hlabelled, -, hcoded, -⟩ := writeError_notUnique entity s.code s.label
  refine .cons (fun hlabel => ?_) fun hlabel => .cons (fun hcode => ?_) fun hcode => ?_
  · rw [insertSector, if_neg hroom, hfault.trans (if_pos hlabel)]
    exact congrArg (fun error => Except.error (Failure.refused error)) hlabelled
  · rw [insertSector, if_neg hroom, hfault.trans ((if_neg hlabel).trans (if_pos hcode))]
    exact congrArg (fun error => Except.error (Failure.refused error)) hcoded
  · rw [insertSector_free hroom howner hshaped hlabel hcode]
    exact .done ⟨rfl, rfl⟩

end Records

/-! ## Calls -/

namespace Session

/-- Reasons decide a call: it is refused for the first one that applies, and leaves everything as it
was; if none does, it succeeds, and `Done` tells of its answer and the records afterwards. -/
structure Decided (s : Session) (mutation : Mutation) (reasons : List Reason)
    (Done : mutation.Answer → Records → Prop) : Prop where
  fails {error : ServiceError} (hfirst : Reason.first? reasons = some error) :
    (s.call mutation).1 = .error (.refused error) ∧ (s.call mutation).2.connection = s.connection
  succeeds (hfirst : Reason.first? reasons = none) :
    ∃ a r, (s.call mutation).1 = .ok a ∧ (s.call mutation).2.Holds r ∧ Done a r

variable {s : Session} {r : Records} {mutation : Mutation}

/-- A call whose plan fails fails like it and leaves everything as it was. -/
theorem Holds.call_of_failure (h : s.Holds r) (hfree : s.connection.writeFault? .main = none)
    {failure : Failure} (hplan : r.plan (s.codes s.codesTaken) mutation = .error failure) :
    (s.call mutation).1 = .error failure ∧ (s.call mutation).2.connection = s.connection := by
  have hsettled := call_settled h.idle h.database h.sound mutation
  rw [hplan] at hsettled
  generalize (s.call mutation).1 = result at hsettled
  generalize (s.call mutation).2.connection = after at hsettled
  cases hsettled with
  | refused _ _ hrestored => exact ⟨rfl, hrestored⟩
  | blocked _ _ _ _ hfault => exact absurd hfree hfault

/-- Where nothing keeps the database from being written, what decides the plan decides the call. -/
theorem Holds.decided (h : s.Holds r) (hfree : s.connection.writeFault? .main = none)
    {reasons : List Reason} {Done : mutation.Answer → Records → Prop}
    (hdecides : Decides reasons (r.plan (s.codes s.codesTaken) mutation) Done) :
    s.Decided mutation reasons Done where
  fails hfirst := h.call_of_failure hfree (hdecides.fails hfirst)
  succeeds hfirst := by
    obtain ⟨a, r', hplan, hdone⟩ := hdecides.succeeds hfirst
    obtain ⟨hresult, hholds⟩ := h.call_of_plan hfree hplan
    exact ⟨a, r', hresult, hholds, hdone⟩

/-- The error that a caller is told is that of a reason that applies. -/
theorem Decided.told {reasons : List Reason} {Done : mutation.Answer → Records → Prop}
    (h : s.Decided mutation reasons Done) {error : ServiceError}
    (hresult : (s.call mutation).1 = .error (.refused error)) :
    ∃ reason ∈ reasons, reason.applies ∧ reason.error = error := by
  cases hfirst : Reason.first? reasons with
  | none =>
    obtain ⟨a, _, hok, -⟩ := h.succeeds hfirst
    cases hresult.symm.trans hok
  | some first =>
    cases hresult.symm.trans (h.fails hfirst).1
    exact Reason.first?_eq_some hfirst

end Session

end SectorForest
