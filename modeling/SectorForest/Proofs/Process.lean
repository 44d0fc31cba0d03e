/-!
# Processes over a shared state

A `Process` changes a state one step at a time, so that several of them can take turns on it. It is
a monad that has the state among its own, and what is written for any such monad runs over it as it
stands.

`Process.advance` is one turn: a step, and with it the steps that follow as long as the state is
busy. `Woven` says what two processes come to that take turns in any order, and `Woven.serial` when
that is what they come to one after the other. The condition is `Yields`: what one of them has seen
before the other's only change must not make a difference afterwards.

`Process.Under` follows one process through states that others change between its steps, as long as
they keep an invariant.
-/

namespace SectorForest

/-- A program that changes a state step by step. -/
inductive Process (σ α : Type) where
  | ends (a : α)
  /-- Change the state, and go on as the state was before. -/
  | takes (step : σ → σ) (next : σ → Process σ α)

namespace Process

variable {σ α β γ : Type}

/-- One process after another. -/
def bind : Process σ α → (α → Process σ β) → Process σ β
  | ends a, f => f a
  | takes step next, f => takes step fun s => (next s).bind f

instance : Monad (Process σ) where
  pure := ends
  bind := bind

instance : MonadStateOf σ (Process σ) where
  get := takes id ends
  set s := takes (fun _ => s) fun _ => ends ()
  modifyGet f := takes (fun s => (f s).2) fun s => ends (f s).1

theorem bind_ends (p : Process σ α) : p.bind ends = p := by
  induction p with
  | ends a => rfl
  | takes step next ih => simp only [bind, ih]

theorem bind_assoc (p : Process σ α) (f : α → Process σ β) (g : β → Process σ γ) :
    (p.bind f).bind g = p.bind fun a => (f a).bind g := by
  induction p with
  | ends a => rfl
  | takes step next ih => simp only [bind, ih]

instance : LawfulMonad (Process σ) :=
  LawfulMonad.mk' (Process σ) bind_ends (fun _ _ => rfl) bind_assoc

/-- What a process comes to if it takes all its steps, and the state afterwards. -/
def run : Process σ α → σ → α × σ
  | ends a, s => (a, s)
  | takes step next, s => (next s).run (step s)

theorem run_bind (p : Process σ α) (f : α → Process σ β) (s : σ) :
    (p.bind f).run s = (f (p.run s).1).run (p.run s).2 := by
  induction p generalizing s with
  | ends a => rfl
  | takes step next ih => exact ih s (step s)

/-! ## Turns -/

section Turns

variable (busy : σ → Bool)

/-- Take steps as long as the state is busy. -/
def persist : Process σ α → σ → Process σ α × σ
  | ends a, s => (ends a, s)
  | takes step next, s =>
    if busy s then (next s).persist (step s) else (takes step next, s)

/-- Take a turn: one step, and more as long as the state is busy. -/
def advance : Process σ α → σ → Process σ α × σ
  | ends a, s => (ends a, s)
  | takes step next, s => (next s).persist busy (step s)

variable {busy} {p p' : Process σ α} {s s' : σ}

theorem persist_idle (p : Process σ α) (h : busy s = false) : p.persist busy s = (p, s) := by
  cases p with
  | ends a => rfl
  | takes step next => simp [persist, h]

theorem persist_bind (f : α → Process σ β) (h : p.persist busy s = (p', s'))
    (hidle : busy s' = false) : (p.bind f).persist busy s = (p'.bind f, s') := by
  induction p generalizing s with
  | ends a =>
    cases h
    exact persist_idle _ hidle
  | takes step next ih =>
    rw [bind, persist]
    rw [persist] at h
    split at h
    · rename_i hbusy
      rw [if_pos hbusy]
      exact ih s h
    · rename_i hbusy
      rw [if_neg hbusy]
      cases h
      rfl

/-- What keeps the state busy to its end goes on into what comes next. -/
theorem persist_bind_ends {a : α} (f : α → Process σ β) (h : p.persist busy s = (ends a, s')) :
    (p.bind f).persist busy s = (f a).persist busy s' := by
  induction p generalizing s with
  | ends b =>
    cases h
    rfl
  | takes step next ih =>
    rw [persist] at h
    split at h
    · rename_i hbusy
      rw [bind, persist, if_pos hbusy]
      exact ih s h
    · cases h

theorem advance_bind {step : σ → σ} {next : σ → Process σ α} (f : α → Process σ β)
    (h : (takes step next).advance busy s = (p', s')) (hidle : busy s' = false) :
    ((takes step next).bind f).advance busy s = (p'.bind f, s') :=
  persist_bind f h hidle

theorem persist_map (f : α → β) (p : Process σ α) (s : σ) :
    (p.bind fun a => ends (f a)).persist busy s =
      ((p.persist busy s).1.bind fun a => ends (f a), (p.persist busy s).2) := by
  induction p generalizing s with
  | ends a => rfl
  | takes step next ih =>
    rw [bind, persist, persist]
    split
    · exact ih s (step s)
    · rfl

/-- Turns do not look into what a process ends in. -/
theorem advance_map (f : α → β) (p : Process σ α) (s : σ) :
    (p.bind fun a => ends (f a)).advance busy s =
      ((p.advance busy s).1.bind fun a => ends (f a), (p.advance busy s).2) := by
  cases p with
  | ends a => rfl
  | takes step next => exact persist_map f (next s) (step s)

variable (busy) in
theorem run_persist (p : Process σ α) (s : σ) :
    (p.persist busy s).1.run (p.persist busy s).2 = p.run s := by
  induction p generalizing s with
  | ends a => rfl
  | takes step next ih =>
    rw [persist]
    split
    · exact ih s (step s)
    · rfl

variable (busy) in
/-- Turns make no difference to a process that is alone. -/
theorem run_advance (p : Process σ α) (s : σ) :
    (p.advance busy s).1.run (p.advance busy s).2 = p.run s := by
  cases p with
  | ends a => rfl
  | takes step next => exact run_persist busy (next s) (step s)

end Turns

/-! ## Two processes -/

/-- From a state on, two processes take turns until both have ended: their results, and the state
afterwards. -/
inductive Woven : Process σ α → Process σ β → σ → α → β → σ → Prop
  | ended (a : α) (b : β) (s : σ) : Woven (ends a) (ends b) s a b s
  | first {step : σ → σ} {next : σ → Process σ α} {q : Process σ β} {s s' : σ} {a : α} {b : β}
    (h : Woven (next s) q (step s) a b s') : Woven (takes step next) q s a b s'
  | second {step : σ → σ} {p : Process σ α} {next : σ → Process σ β} {s s' : σ} {a : α} {b : β}
    (h : Woven p (next s) (step s) a b s') : Woven p (takes step next) s a b s'

/-- What is left of a process after some steps that leave the state as it is. -/
inductive Looks (s : σ) (p : Process σ α) : Process σ α → Prop
  | start : Looks s p p
  | look {step : σ → σ} {next : σ → Process σ α} (h : Looks s p (takes step next))
    (hsame : step s = s) : Looks s p (next s)

/-- A process ends in `a` and leaves the state alone, as long as it finds states that meet `S`. -/
def Steady (S : σ → Prop) (a : α) : Process σ α → Prop
  | ends b => b = a
  | takes step next => ∀ s, S s → step s = s ∧ (next s).Steady S a

/-- From a state on, all states that a process finds or leaves meet `S`. -/
def Stays (S : σ → Prop) : Process σ α → σ → Prop
  | ends _, s => S s
  | takes step next, s => S s ∧ (next s).Stays S (step s)

/-- A process never changes a state. -/
def Calm : Process σ α → Prop
  | ends _ => True
  | takes step next => ∀ s, step s = s ∧ (next s).Calm

/-- A process changes a state only once, and then its rest meets `Rest`, together with the state. -/
inductive ChangesOnce (Rest : σ → Process σ α → Prop) : Process σ α → Prop
  | ends (a : α) : ChangesOnce Rest (ends a)
  | takes {step : σ → σ} {next : σ → Process σ α}
    (hlook : ∀ s, step s = s → ChangesOnce Rest (next s))
    (hchange : ∀ s, step s ≠ s → Rest (step s) (next s)) : ChangesOnce Rest (takes step next)

/-- From the states `s` and `t` on, what is left of a process comes to the same as the whole would
have come to: from `t` on, or else from `s` on, where both have changed nothing. -/
def Agrees (s t : σ) (whole rest : Process σ α) : Prop :=
  rest.run t = whole.run t ∨ ∃ a, rest.run t = (a, t) ∧ whole.run s = (a, s)

/-- When `p` first changes the state, `q` makes way for it: what is left of `q` comes to the same as
the whole, and what is left of `p` does not heed it. -/
def Yields (s : σ) (p : Process σ α) (q : Process σ β) : Prop :=
  ∀ step next, Looks s p (takes step next) → step s ≠ s → ∀ rest, Looks s q rest →
    Agrees s (step s) q rest ∧
      ∃ S, (next s).Steady S (p.run s).1 ∧ rest.Stays S (step s)

variable {p p₁ : Process σ α} {q : Process σ β} {s s' t : σ} {a : α} {b : β}

theorem Woven.swap (h : Woven p q s a b s') : Woven q p s b a s' := by
  induction h with
  | ended a b s => exact .ended b a s
  | first _ ih => exact .second ih
  | second _ ih => exact .first ih

/-- One process after the other is one of the ways to take turns. -/
theorem woven_run (p : Process σ α) (q : Process σ β) (s : σ) :
    Woven p q s (p.run s).1 (q.run (p.run s).2).1 (q.run (p.run s).2).2 := by
  induction p generalizing s with
  | takes step next ih => exact .first (ih s (step s))
  | ends a =>
    induction q generalizing s with
    | ends b => exact .ended a b s
    | takes step next ih => exact .second (ih s (step s))

theorem Looks.run_eq (h : Looks s p p₁) : p₁.run s = p.run s := by
  induction h with
  | start => rfl
  | @look step next _ hsame ih =>
    rw [← ih, run, hsame]

theorem Looks.takes {step : σ → σ} {next : σ → Process σ α} (hsame : step s = s)
    (h : Looks s (next s) p₁) : Looks s (takes step next) p₁ := by
  induction h with
  | start => exact .look .start hsame
  | look _ hsame' ih => exact .look ih hsame'

/-- What is left of a process is itself, or what is left after its first step. -/
theorem Looks.cases_takes {step : σ → σ} {next : σ → Process σ α}
    (h : Looks s (Process.takes step next) p₁) :
    p₁ = Process.takes step next ∨ step s = s ∧ Looks s (next s) p₁ := by
  induction h with
  | start => exact .inl rfl
  | look _ hsame ih =>
    rcases ih with heq | ⟨hfirst, hlooks⟩
    · cases heq
      exact .inr ⟨hsame, .start⟩
    · exact .inr ⟨hfirst, .look hlooks hsame⟩

/-- Nothing is left of a process that has ended. -/
theorem Looks.eq_ends (h : Looks s (ends a) p₁) : p₁ = ends a := by
  induction h with
  | start => rfl
  | look _ _ ih => cases ih

/-- A process that has ended does not care for what comes after. -/
theorem Looks.agrees (h : Looks s p p₁) (hends : Looks s (ends a) p₁) (t : σ) :
    Agrees s t p p₁ := by
  rw [hends.eq_ends] at h ⊢
  exact .inr ⟨a, rfl, h.run_eq.symm⟩

/-- What the whole would have come to is all that is asked of it. -/
theorem Agrees.of_run_eq {p' : Process σ α} (h : Agrees s t p' p₁) (hs : p.run s = p'.run s)
    (ht : p.run t = p'.run t) : Agrees s t p p₁ := by
  rw [Agrees, hs, ht]
  exact h

/-- Either nobody changes the state, or one of them is the first to do so. -/
theorem Woven.first_change (h : Woven p q s a b s') :
    (p.run s = (a, s) ∧ q.run s = (b, s) ∧ s' = s) ∨
    (∃ step next q₁, Looks s p (takes step next) ∧ step s ≠ s ∧ Looks s q q₁ ∧
      Woven (next s) q₁ (step s) a b s') ∨
    ∃ step next p₁, Looks s q (takes step next) ∧ step s ≠ s ∧ Looks s p p₁ ∧
      Woven p₁ (next s) (step s) a b s' := by
  induction h with
  | ended a b s => exact .inl ⟨rfl, rfl, rfl⟩
  | @first step next q s s' a b h ih =>
    by_cases hsame : step s = s
    · rw [hsame] at ih
      rcases ih with ⟨hp, hq, hs'⟩ | ⟨step', next', q₁, hp, hne, hq, hw⟩ |
        ⟨step', next', p₁, hq, hne, hp, hw⟩
      · refine .inl ⟨?_, hq, hs'⟩
        rw [run, hsame, hp]
      · exact .inr (.inl ⟨step', next', q₁, hp.takes hsame, hne, hq, hw⟩)
      · exact .inr (.inr ⟨step', next', p₁, hq, hne, hp.takes hsame, hw⟩)
    · exact .inr (.inl ⟨step, next, q, .start, hsame, .start, h⟩)
  | @second step p next s s' a b h ih =>
    by_cases hsame : step s = s
    · rw [hsame] at ih
      rcases ih with ⟨hp, hq, hs'⟩ | ⟨step', next', q₁, hp, hne, hq, hw⟩ |
        ⟨step', next', p₁, hq, hne, hp, hw⟩
      · refine .inl ⟨hp, ?_, hs'⟩
        rw [run, hsame, hq]
      · exact .inr (.inl ⟨step', next', q₁, hp, hne, hq.takes hsame, hw⟩)
      · exact .inr (.inr ⟨step', next', p₁, hq.takes hsame, hne, hp, hw⟩)
    · exact .inr (.inr ⟨step, next, p, .start, hsame, .start, h⟩)

theorem Stays.start {S : σ → Prop} (h : q.Stays S s) : S s := by
  cases q with
  | ends b => exact h
  | takes step next => exact h.1

theorem Steady.run_eq {S : σ → Prop} (h : p.Steady S a) (hs : S s) : p.run s = (a, s) := by
  induction p with
  | ends b => rw [run, h]
  | takes step next ih =>
    obtain ⟨hsame, hnext⟩ := h s hs
    rw [run, hsame]
    exact ih s hnext

/-- Beside a steady process the other one is as good as alone. -/
theorem Woven.steady {S : σ → Prop} {a₀ : α} (h : Woven p q s a b s') (hp : p.Steady S a₀)
    (hq : q.Stays S s) : a = a₀ ∧ q.run s = (b, s') := by
  induction h with
  | ended a b s => exact ⟨hp, rfl⟩
  | @first step next q s s' a b _ ih =>
    obtain ⟨hsame, hnext⟩ := hp s hq.start
    rw [hsame] at ih
    exact ih hnext hq
  | second _ ih => exact ih hp hq.2

/-- One process after the other, where the first one has been the first to change the state. -/
theorem Yields.serial {step : σ → σ} {next : σ → Process σ α} {q₁ : Process σ β}
    (h : Yields s p q) (hp : Looks s p (takes step next)) (hne : step s ≠ s) (hq : Looks s q q₁)
    (hw : Woven (next s) q₁ (step s) a b s') :
    ((p.run s).1 = a ∧ q.run (p.run s).2 = (b, s')) ∨
      ((q.run s).1 = b ∧ p.run (q.run s).2 = (a, s')) := by
  obtain ⟨hagrees, S, hsteady, hstays⟩ := h step next hp hne q₁ hq
  obtain ⟨ha, hrest⟩ := hw.steady hsteady hstays
  have hrun : p.run s = (a, step s) := by
    rw [← hp.run_eq, run, hsteady.run_eq hstays.start, ha]
  rcases hagrees with hwhole | ⟨b', hrest', hwhole⟩
  · -- the other one comes to what it comes to afterwards
    rw [hrun, ← hwhole]
    exact .inl ⟨rfl, hrest⟩
  · -- the other one comes to what it comes to before, and changes nothing
    rw [hrest] at hrest'
    cases hrest'
    rw [hwhole]
    exact .inr ⟨rfl, hrun⟩

/-- Two processes that make way for each other come to what they come to one after the other. -/
theorem Woven.serial (h : Woven p q s a b s') (hpq : Yields s p q) (hqp : Yields s q p) :
    ((p.run s).1 = a ∧ q.run (p.run s).2 = (b, s')) ∨
      ((q.run s).1 = b ∧ p.run (q.run s).2 = (a, s')) := by
  rcases h.first_change with ⟨hp, hq, rfl⟩ | ⟨step, next, q₁, hp, hne, hq, hw⟩ |
    ⟨step, next, p₁, hq, hne, hp, hw⟩
  · rw [hp]
    exact .inl ⟨rfl, hq⟩
  · exact hpq.serial hp hne hq hw
  · exact (hqp.serial hq hne hp hw.swap).symm

/-! ## Changing a state once -/

section ChangesOnce

variable {Rest : σ → Process σ α → Prop}

theorem ChangesOnce.looks (h : p.ChangesOnce Rest) (hp : Looks s p p₁) : p₁.ChangesOnce Rest := by
  induction hp with
  | start => exact h
  | look _ hsame ih =>
    cases ih with
    | takes hlook _ => exact hlook s hsame

/-- What is left when the state is changed for the first time. -/
theorem ChangesOnce.rest {step : σ → σ} {next : σ → Process σ α} (h : p.ChangesOnce Rest)
    (hp : Looks s p (.takes step next)) (hne : step s ≠ s) : Rest (step s) (next s) := by
  cases h.looks hp with
  | takes _ hchange => exact hchange s hne

theorem Calm.run_state (h : p.Calm) : (p.run s).2 = s := by
  induction p with
  | ends a => rfl
  | takes step next ih =>
    rw [run, (h s).1]
    exact ih s (h s).2

theorem Calm.stays {S : σ → Prop} (h : p.Calm) (hs : S s) : p.Stays S s := by
  induction p with
  | ends a => exact hs
  | takes step next ih =>
    refine ⟨hs, ?_⟩
    rw [(h s).1]
    exact ih s (h s).2

/-- A process that changes a state once finds and leaves no states but the first and the last. -/
theorem ChangesOnce.stays {S : σ → Prop} (h : p.ChangesOnce Rest)
    (hcalm : ∀ s rest, Rest s rest → rest.Calm) (hs : S s) (hend : S (p.run s).2) :
    p.Stays S s := by
  induction h with
  | ends a => exact hs
  | @takes step next _ hchange ih =>
    refine ⟨hs, ?_⟩
    by_cases hsame : step s = s
    · rw [run, hsame] at hend
      rw [hsame]
      exact ih s hsame hend
    · have hrest := hcalm _ _ (hchange s hsame)
      have hstep : S (step s) := by
        rw [run, hrest.run_state] at hend
        exact hend
      exact hrest.stays hstep

end ChangesOnce

/-! ## Keeping an invariant -/

section Under

variable {I : σ → Prop} {Q : α → Prop} {Q' : β → Prop} {p : Process σ α} {s : σ}

/-- As long as a process finds states that meet `I` it leaves such states, and it ends in what meets
`Q`. -/
def Under (I : σ → Prop) (Q : α → Prop) : Process σ α → Prop
  | ends a => Q a
  | takes step next => ∀ s, I s → I (step s) ∧ (next s).Under I Q

theorem Under.bind {f : α → Process σ β} (h : p.Under I Q) (hf : ∀ a, Q a → (f a).Under I Q') :
    (p.bind f).Under I Q' := by
  induction p with
  | ends a => exact hf a h
  | takes step next ih =>
    intro s hs
    obtain ⟨hstep, hnext⟩ := h s hs
    exact ⟨hstep, ih s hnext⟩

theorem Under.mono {Q' : α → Prop} (h : p.Under I Q) (hQ : ∀ a, Q a → Q' a) : p.Under I Q' := by
  induction p with
  | ends a => exact hQ a h
  | takes step next ih =>
    intro s hs
    obtain ⟨hstep, hnext⟩ := h s hs
    exact ⟨hstep, ih s hnext⟩

theorem Under.run (h : p.Under I Q) (hs : I s) : Q (p.run s).1 := by
  induction p generalizing s with
  | ends a => exact h
  | takes step next ih =>
    obtain ⟨hstep, hnext⟩ := h s hs
    exact ih s hnext hstep

theorem Under.persist (busy : σ → Bool) (h : p.Under I Q) (hs : I s) :
    I (p.persist busy s).2 ∧ (p.persist busy s).1.Under I Q := by
  induction p generalizing s with
  | ends a => exact ⟨hs, h⟩
  | takes step next ih =>
    rw [Process.persist]
    split
    · obtain ⟨hstep, hnext⟩ := h s hs
      exact ih s hnext hstep
    · exact ⟨hs, h⟩

/-- A turn leaves a state that meets the invariant, and what is left keeps to it. -/
theorem Under.advance (busy : σ → Bool) (h : p.Under I Q) (hs : I s) :
    I (p.advance busy s).2 ∧ (p.advance busy s).1.Under I Q := by
  cases p with
  | ends a => exact ⟨hs, h⟩
  | takes step next =>
    obtain ⟨hstep, hnext⟩ := h s hs
    exact hnext.persist busy hstep

end Under

end Process

end SectorForest
