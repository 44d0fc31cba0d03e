import SectorForest.Proofs.Congruence

/-!
# Notes of requests

`Backend.noted` lets a backend take notes: of each request that is made of the stores a note is
kept, made from what has been noted before, the request and its answer. The backend may be any over
any state. Taking notes changes nothing of what the service does, and what has been noted stays
noted: `mirrors_elementary`.
-/

namespace SectorForest

variable {ν σ α β : Type}

/-- What is noted of a request and its answer, after other notes. -/
structure Notebook (ν : Type) where
  organizations : {α : Type} → List ν → OrganizationRequest α → Except StoreError α → ν
  sectors : {α : Type} → List ν → SectorRequest α → Except StoreError α → ν

/-- Ask, and note what comes of it. -/
def takingNote {m : Type → Type} [Monad m] (note : List ν → Except StoreError α → ν)
    (answer : m (Except StoreError α)) : StateT (List ν) m (Except StoreError α) := fun notes => do
  let result ← answer
  pure (result, notes ++ [note notes result])

/-- The backend with its requests noted. -/
def Backend.noted {m : Type → Type} [Monad m] (b : Backend m) (book : Notebook ν) :
    Backend (StateT (List ν) m) where
  organizations request :=
    takingNote (fun notes => book.organizations notes request) (b.organizations request)
  sectors request := takingNote (fun notes => book.sectors notes request) (b.sectors request)
  transact step := liftM (b.transact step)
  newCode := liftM b.newCode
  emit event := liftM (b.emit event)

/-- What the service does over a state while notes are taken. -/
abbrev Noting (ν σ : Type) := StateT (List ν) (StateM σ)

/-- The ending of what the service does from a state and some notes on, the notes taken by then, and
the state afterwards. -/
def jot (s : σ) (notes : List ν) (action : Serving (Noting ν σ) α) :
    (Except Failure α × List ν) × σ :=
  StateT.run (StateT.run action.run notes) s

section

variable {s : σ} {notes : List ν}

theorem jot_bind (action : Serving (Noting ν σ) α) (next : α → Serving (Noting ν σ) β) :
    jot s notes (action >>= next) =
      match jot s notes action with
      | ((.ok a, notes'), s') => jot s' notes' (next a)
      | ((.error failure, notes'), s') => ((.error failure, notes'), s') := by
  simp only [jot, ExceptT.run_bind, StateT.run_bind]
  cases StateT.run (StateT.run action.run notes) s with
  | mk p s' =>
    obtain ⟨_ | _, notes'⟩ := p <;> rfl

theorem jot_bind_ok {action : Serving (Noting ν σ) α} {a : α} {notes' : List ν} {s' : σ}
    (h : jot s notes action = ((.ok a, notes'), s')) (next : α → Serving (Noting ν σ) β) :
    jot s notes (action >>= next) = jot s' notes' (next a) := by
  rw [jot_bind, h]

theorem jot_ending (action : Serving (Noting ν σ) α) :
    jot s notes (ending action) =
      ((.ok (jot s notes action).1.1, (jot s notes action).1.2), (jot s notes action).2) := by
  simp only [jot, ending, ExceptT.run_lift, StateT.run_map]
  rfl

end

/-! ## Steps of which nothing is noted -/

section

variable {b : Backend (StateM σ)} {book : Notebook ν} {s : σ} {notes : List ν}

theorem jot_transact (step : TransactionStep) :
    jot s notes (liftM ((b.noted book).transact step)) =
      ((.ok (StateT.run (b.transact step) s).1, notes), (StateT.run (b.transact step) s).2) := rfl

/-- Reporting does not change how an operation ends, and nothing is noted of it. -/
theorem jot_reported (operation : String) (action : Serving (Noting ν σ) α) :
    (jot s notes ((b.noted book).reported operation action)).1 = (jot s notes action).1 := by
  rw [Backend.reported, jot_bind, jot_ending]
  cases jot s notes action with
  | mk p s' =>
    obtain ⟨(_ | _) | _, notes'⟩ := p <;> rfl

/-- A transaction ends in the fault of its opening, in the fault of its closing after its body
succeeded, or as its body; and of all this only the body's requests are noted. -/
theorem jot_transaction {P : Except Failure α × List ν → Prop} (operation : String)
    {body : Serving (Noting ν σ) α}
    (hstart : ∀ fault, P (.error (.refused (.ofFault fault)), notes))
    (hbody : ∀ s, P (jot s notes body).1)
    (hcommit : ∀ s a fault, (jot s notes body).1.1 = .ok a →
      P (.error (.refused (.ofFault fault)), (jot s notes body).1.2)) :
    P (jot s notes ((b.noted book).transaction operation body)).1 := by
  rw [Backend.transaction, jot_bind_ok (jot_transact _)]
  obtain ⟨started, s₁⟩ := StateT.run (b.transact .start) s
  cases started with
  | error fault => exact hstart fault
  | ok done =>
    have hbody₁ := hbody s₁
    have hcommit₁ := hcommit s₁
    dsimp only
    rw [jot_bind, jot_ending]
    cases hjot : jot s₁ notes body with
    | mk p s₂ =>
      rw [hjot] at hbody₁ hcommit₁
      obtain ⟨(error | _) | a, notes'⟩ := p
      · -- whether or not the transaction can be rolled back, the error of the body is the ending
        dsimp only
        rw [jot_bind_ok (jot_transact _)]
        obtain ⟨fault | _, s₃⟩ := StateT.run (b.transact .rollback) s₂
        · exact hbody₁
        · exact hbody₁
      · exact hbody₁
      · dsimp only
        rw [jot_bind_ok (jot_transact _)]
        obtain ⟨fault | _, s₃⟩ := StateT.run (b.transact .commit) s₂
        · exact hcommit₁ a fault rfl
        · exact hbody₁

end

/-! ## Nothing but notes -/

/-- With notes, `action` is what `action'` is without them, and it adds to what has been noted. -/
def Mirrors (action : Serving (Noting ν σ) α) (action' : Serving (StateM σ) α) : Prop :=
  ∀ (s : σ) (notes : List ν), ∃ later,
    jot s notes action =
      (((StateT.run action'.run s).1, notes ++ later), (StateT.run action'.run s).2)

section Mirrors

variable {action : Serving (Noting ν σ) α} {action' : Serving (StateM σ) α}

/-- A part of which nothing is noted. -/
theorem mirrors_silent (h : ∀ (s : σ) (notes : List ν), jot s notes action =
    (((StateT.run action'.run s).1, notes), (StateT.run action'.run s).2)) :
    Mirrors (ν := ν) action action' := by
  intro s notes
  refine ⟨[], ?_⟩
  rw [List.append_nil]
  exact h s notes

theorem Mirrors.bind {next : α → Serving (Noting ν σ) β} {next' : α → Serving (StateM σ) β}
    (h : Mirrors action action') (hnext : ∀ a, Mirrors (next a) (next' a)) :
    Mirrors (action >>= next) (action' >>= next') := by
  intro s notes
  obtain ⟨later, hfirst⟩ := h s notes
  have hplain : StateT.run (action' >>= next').run s =
      match StateT.run action'.run s with
      | (.ok a, s') => StateT.run (next' a).run s'
      | (.error failure, s') => (.error failure, s') := by
    rw [ExceptT.run_bind, StateT.run_bind]
    cases StateT.run action'.run s with
    | mk result s' => cases result <;> rfl
  rw [jot_bind, hfirst, hplain]
  cases StateT.run action'.run s with
  | mk result s' =>
    cases result with
    | error failure => exact ⟨later, rfl⟩
    | ok a =>
      obtain ⟨later', hrest⟩ := hnext a s' (notes ++ later)
      exact ⟨later ++ later', by rw [← List.append_assoc]; exact hrest⟩

theorem Mirrors.ending (h : Mirrors action action') :
    Mirrors (SectorForest.ending action) (SectorForest.ending action') := by
  intro s notes
  obtain ⟨later, hfirst⟩ := h s notes
  refine ⟨later, ?_⟩
  rw [jot_ending, hfirst]
  simp only [SectorForest.ending, ExceptT.run_lift, StateT.run_map]
  rfl

theorem mirrors_takingNote (note : List ν → Except StoreError α → ν)
    (answer : StateM σ (Except StoreError α)) :
    Mirrors (liftM (takingNote note answer) : Serving (Noting ν σ) _)
      (liftM answer : Serving (StateM σ) _) :=
  fun s notes => ⟨[note notes (StateT.run answer s).1], rfl⟩

end Mirrors

/-- Taking notes makes no difference to the service. -/
theorem mirrors_elementary (b : Backend (StateM σ)) (book : Notebook ν) :
    Backend.Elementary Mirrors (b.noted book) b where
  pure _ := mirrors_silent fun _ _ => rfl
  throw _ := mirrors_silent fun _ _ => rfl
  bind h hnext := h.bind hnext
  ending h := h.ending
  organizations _ := mirrors_takingNote _ _
  sectors _ := mirrors_takingNote _ _
  transact _ := mirrors_silent fun _ _ => rfl
  newCode := mirrors_silent fun _ _ => rfl
  emit _ := mirrors_silent fun _ _ => rfl

end SectorForest
