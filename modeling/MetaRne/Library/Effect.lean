/-
# Actions that may raise

An action of type `EStateM ε σ α` reads and writes a state and either returns
or raises; what it wrote before it raised stays written.  This file collects
the rules a proof about such actions runs on.

* Inversion: how a run of a bind, of a lifted check or of a loop returned or
  raised (`bind_eq_ok`, `bind_eq_error`, `check_eq_ok`, …).
* `Respects R`: every run, returning or raising, moves the state along `R`.
  A reflexive and transitive `R` passes through pure, bind, checks and loops,
  so a frame condition is proved once per primitive action.
* `mapM_invariant`: the loop rule, for what a returning loop establishes.
* `Blind g`: the action neither reads nor writes what `g` changes.
-/

import Mathlib.Data.List.Forall2
import Mathlib.Order.Defs.Unbundled

namespace Library
namespace Effect

open EStateM (Result)

variable {ε σ α β : Type}

/-- A check that returns or raises, run as an action that leaves the state alone. -/
def check (x : Except ε α) : EStateM ε σ α := fun s =>
  match x with
  | .ok a => .ok a s
  | .error e => .error e s

instance instMonadLiftExcept : MonadLift (Except ε) (EStateM ε σ) := ⟨check⟩

/-- Raise if a condition holds. -/
def raiseIf (c : Prop) [Decidable c] (e : ε) : Except ε Unit := if c then .error e else .ok ()

/-- The state a run ends in, whether it returned or raised. -/
def final (x : EStateM ε σ α) (s : σ) : σ :=
  match x.run s with
  | .ok _ s' => s'
  | .error _ s' => s'

/-- Run an action from a state: its result or its exception, and the state after it. -/
def attempt (x : EStateM ε σ α) (s : σ) : Except ε α × σ :=
  match x.run s with
  | .ok a s' => (.ok a, s')
  | .error e s' => (.error e, s')

/-- Run an action inside a savepoint: what it wrote before it raised is taken back. -/
def savepoint (x : EStateM ε σ α) : EStateM ε σ α := fun s =>
  match x.run s with
  | .ok a s' => .ok a s'
  | .error e _ => .error e s

theorem savepoint_of_ok {x : EStateM ε σ α} {s s' : σ} {a : α} (h : x.run s = .ok a s') :
    (savepoint x).run s = .ok a s' := by
  change savepoint x s = _
  rw [savepoint, h]

theorem savepoint_of_error {x : EStateM ε σ α} {s s' : σ} {e : ε} (h : x.run s = .error e s') :
    (savepoint x).run s = .error e s := by
  change savepoint x s = _
  rw [savepoint, h]

@[simp] theorem attempt_of_ok {x : EStateM ε σ α} {s s' : σ} {a : α} (h : x.run s = .ok a s') :
    attempt x s = (.ok a, s') := by
  rw [attempt, h]

@[simp] theorem attempt_of_error {x : EStateM ε σ α} {s s' : σ} {e : ε}
    (h : x.run s = .error e s') : attempt x s = (.error e, s') := by
  rw [attempt, h]

theorem attempt_snd (x : EStateM ε σ α) (s : σ) : (attempt x s).2 = final x s := by
  unfold attempt final
  cases x.run s <;> rfl

@[simp] theorem final_of_ok {x : EStateM ε σ α} {s s' : σ} {a : α} (h : x.run s = .ok a s') :
    final x s = s' := by
  rw [final, h]

@[simp] theorem final_of_error {x : EStateM ε σ α} {s s' : σ} {e : ε}
    (h : x.run s = .error e s') : final x s = s' := by
  rw [final, h]

/-- Two runs side by side: one result and states in `S`, or exceptions in `E` and
states in `S`. -/
inductive Alike (E : ε → ε → Prop) (S : σ → σ → Prop) : Result ε σ α → Result ε σ α → Prop
  | ok (a : α) {s t : σ} (hs : S s t) : Alike E S (.ok a s) (.ok a t)
  | error {e e' : ε} {s t : σ} (he : E e e') (hs : S s t) : Alike E S (.error e s) (.error e' t)

/-! ### Inversion -/

@[simp] theorem pure_eq_ok {a b : α} {s s' : σ} :
    (pure a : EStateM ε σ α).run s = .ok b s' ↔ a = b ∧ s = s' := by
  simp only [EStateM.run_pure, Result.ok.injEq]

@[simp] theorem pure_ne_error {a : α} {e : ε} {s s' : σ} :
    (pure a : EStateM ε σ α).run s ≠ .error e s' := by
  simp only [EStateM.run_pure, ne_eq, reduceCtorEq, not_false_eq_true]

@[simp] theorem throw_ne_ok {e : ε} {a : α} {s s' : σ} :
    (throw e : EStateM ε σ α).run s ≠ .ok a s' := by
  rintro ⟨⟩

@[simp] theorem throw_eq_error {e e' : ε} {s s' : σ} :
    (throw e : EStateM ε σ α).run s = .error e' s' ↔ e = e' ∧ s = s' := by
  constructor
  · rintro ⟨⟩
    exact ⟨rfl, rfl⟩
  · rintro ⟨rfl, rfl⟩
    rfl

@[simp] theorem check_eq_ok {x : Except ε α} {a : α} {s s' : σ} :
    (liftM x : EStateM ε σ α).run s = .ok a s' ↔ x = .ok a ∧ s = s' := by
  cases x with
  | ok b =>
      change Result.ok b s = Result.ok a s' ↔ _
      rw [Result.ok.injEq, Except.ok.injEq]
  | error e =>
      change Result.error e s = Result.ok a s' ↔ _
      simp only [reduceCtorEq, false_and]

@[simp] theorem check_eq_error {x : Except ε α} {e : ε} {s s' : σ} :
    (liftM x : EStateM ε σ α).run s = .error e s' ↔ x = .error e ∧ s = s' := by
  cases x with
  | ok b =>
      change Result.ok b s = Result.error e s' ↔ _
      simp only [reduceCtorEq, false_and]
  | error e' =>
      change Result.error e' s = Result.error e s' ↔ _
      rw [Result.error.injEq, Except.error.injEq]

/-- A bind returns exactly when both its parts do. -/
theorem bind_eq_ok {x : EStateM ε σ α} {f : α → EStateM ε σ β} {s s' : σ} {b : β} :
    (x >>= f).run s = .ok b s' ↔ ∃ a s₁, x.run s = .ok a s₁ ∧ (f a).run s₁ = .ok b s' := by
  rw [EStateM.run_bind]
  cases x.run s with
  | ok a s₁ =>
      refine ⟨fun h => ⟨a, s₁, rfl, h⟩, fun ⟨_, _, hx, hf⟩ => ?_⟩
      cases hx
      exact hf
  | error e s₁ => exact ⟨nofun, fun ⟨_, _, hx, _⟩ => nomatch hx⟩

/-- A bind raises where its first part does, or where the rest does after it. -/
theorem bind_eq_error {x : EStateM ε σ α} {f : α → EStateM ε σ β} {s s' : σ} {e : ε} :
    (x >>= f).run s = .error e s' ↔
      x.run s = .error e s' ∨ ∃ a s₁, x.run s = .ok a s₁ ∧ (f a).run s₁ = .error e s' := by
  rw [EStateM.run_bind]
  cases x.run s with
  | ok a s₁ =>
      refine ⟨fun h => Or.inr ⟨a, s₁, rfl, h⟩, ?_⟩
      rintro (hx | ⟨_, _, hx, hf⟩)
      · cases hx
      · cases hx
        exact hf
  | error e₁ s₁ =>
      change Result.error e₁ s₁ = Result.error e s' ↔ _
      rw [Result.error.injEq, Result.error.injEq]
      refine ⟨Or.inl, ?_⟩
      rintro (hx | ⟨_, _, hx, _⟩)
      · exact hx
      · cases hx

/-- A check, then the rest: both return. -/
theorem check_bind_eq_ok {x : Except ε α} {f : α → EStateM ε σ β} {s s' : σ} {b : β} :
    ((liftM x : EStateM ε σ α) >>= f).run s = .ok b s' ↔
      ∃ a, x = .ok a ∧ (f a).run s = .ok b s' := by
  rw [bind_eq_ok]
  simp only [check_eq_ok]
  exact ⟨fun ⟨a, _, ⟨hx, hs⟩, hf⟩ => ⟨a, hx, hs ▸ hf⟩, fun ⟨a, hx, hf⟩ => ⟨a, s, ⟨hx, rfl⟩, hf⟩⟩

/-- A check, then the rest: the check raises, or the rest does after it. -/
theorem check_bind_eq_error {x : Except ε α} {f : α → EStateM ε σ β} {s s' : σ} {e : ε} :
    ((liftM x : EStateM ε σ α) >>= f).run s = .error e s' ↔
      (x = .error e ∧ s' = s) ∨ ∃ a, x = .ok a ∧ (f a).run s = .error e s' := by
  rw [bind_eq_error]
  simp only [check_eq_error, check_eq_ok]
  refine or_congr (and_congr_right fun _ => eq_comm) ?_
  exact ⟨fun ⟨a, _, ⟨hx, hs⟩, hf⟩ => ⟨a, hx, hs ▸ hf⟩, fun ⟨a, hx, hf⟩ => ⟨a, s, ⟨hx, rfl⟩, hf⟩⟩

/-- A check that passes, then the rest. -/
theorem check_bind_of_ok {x : Except ε α} {a : α} (h : x = .ok a) (f : α → EStateM ε σ β) (s : σ) :
    ((liftM x : EStateM ε σ α) >>= f).run s = (f a).run s := by
  rw [h]
  rfl

/-- A check that raises stops the rest. -/
theorem check_bind_of_error {x : Except ε α} {e : ε} (h : x = .error e) (f : α → EStateM ε σ β)
    (s : σ) : ((liftM x : EStateM ε σ α) >>= f).run s = .error e s := by
  rw [h]
  rfl

/-- A mapped result: the same run, another result. -/
theorem run_map_eq (f : α → β) (x : EStateM ε σ α) (s : σ) :
    (f <$> x).run s =
      match x.run s with
      | .ok a s' => .ok (f a) s'
      | .error e s' => .error e s' := by
  rw [map_eq_pure_bind, EStateM.run_bind]
  cases x.run s <;> rfl

@[simp] theorem final_map (f : α → β) (x : EStateM ε σ α) (s : σ) :
    final (f <$> x) s = final x s := by
  unfold final
  rw [run_map_eq]
  cases x.run s <;> rfl

@[simp] theorem get_bind (f : σ → EStateM ε σ β) (s : σ) :
    ((get : EStateM ε σ σ) >>= f).run s = (f s).run s := rfl

@[simp] theorem modify_bind (g : σ → σ) (f : PUnit → EStateM ε σ β) (s : σ) :
    ((modify g : EStateM ε σ PUnit) >>= f).run s = (f ⟨⟩).run (g s) := rfl

/-- For checks, which have no state. -/
theorem except_bind_eq_ok {x : Except ε α} {f : α → Except ε β} {b : β} :
    (x >>= f) = .ok b ↔ ∃ a, x = .ok a ∧ f a = .ok b := by
  cases x with
  | ok a =>
      refine ⟨fun h => ⟨a, rfl, h⟩, fun ⟨_, h, hf⟩ => ?_⟩
      cases h
      exact hf
  | error e => exact ⟨nofun, fun ⟨_, h, _⟩ => nomatch h⟩

theorem except_map_eq_ok {x : Except ε α} {f : α → β} {b : β} :
    (f <$> x) = .ok b ↔ ∃ a, x = .ok a ∧ f a = b := by
  cases x with
  | ok a => exact ⟨fun h => ⟨a, rfl, Except.ok.inj h⟩, fun ⟨_, h, hf⟩ => by cases h; rw [← hf]; rfl⟩
  | error e => exact ⟨nofun, fun ⟨_, h, _⟩ => nomatch h⟩

theorem except_bind_eq_error {x : Except ε α} {f : α → Except ε β} {e : ε} :
    (x >>= f) = .error e ↔ x = .error e ∨ ∃ a, x = .ok a ∧ f a = .error e := by
  cases x with
  | ok a =>
      refine ⟨fun h => Or.inr ⟨a, rfl, h⟩, ?_⟩
      rintro (h | ⟨_, h, hf⟩)
      · cases h
      · cases h
        exact hf
  | error e' =>
      change Except.error e' = Except.error e ↔ _
      rw [Except.error.injEq]
      refine ⟨fun h => Or.inl (by rw [h]), ?_⟩
      rintro (h | ⟨_, h, _⟩)
      · exact Except.error.inj h
      · cases h

theorem raiseIf_bind_eq_ok {c : Prop} [Decidable c] {e : ε} {f : Unit → Except ε β} {b : β} :
    (raiseIf c e >>= f) = .ok b ↔ ¬ c ∧ f () = .ok b := by
  by_cases h : c
  · rw [raiseIf, if_pos h]
    exact iff_of_false nofun fun h' => h'.1 h
  · rw [raiseIf, if_neg h]
    exact (and_iff_right h).symm

@[simp] theorem raiseIf_eq_ok {c : Prop} [Decidable c] {e : ε} {u : Unit} :
    raiseIf c e = .ok u ↔ ¬ c := by
  by_cases h : c
  · simp only [raiseIf, h, if_true, reduceCtorEq, not_true_eq_false]
  · simp only [raiseIf, h, if_false, not_false_eq_true]

@[simp] theorem raiseIf_eq_error {c : Prop} [Decidable c] {e e' : ε} :
    raiseIf c e = .error e' ↔ c ∧ e = e' := by
  by_cases h : c
  · simp only [raiseIf, h, if_true, Except.error.injEq, true_and]
  · simp only [raiseIf, h, if_false, reduceCtorEq, false_and]

/-- A condition that does not hold raises nothing. -/
theorem raiseIf_bind_of_not {c : Prop} [Decidable c] {e : ε} (h : ¬ c) (f : Unit → EStateM ε σ β)
    (s : σ) : ((liftM (raiseIf c e) : EStateM ε σ Unit) >>= f).run s = (f ()).run s :=
  check_bind_of_ok (raiseIf_eq_ok.2 h) f s

/-! ### What every run does to the state -/

/-- Every run of the action, returning or raising, moves the state along `R`. -/
def Respects (R : σ → σ → Prop) (x : EStateM ε σ α) : Prop := ∀ s, R s (final x s)

variable {R : σ → σ → Prop}

theorem Respects.of_ok {x : EStateM ε σ α} (h : Respects R x) {s s' : σ} {a : α}
    (hx : x.run s = .ok a s') : R s s' := by
  have hs := h s
  rwa [final_of_ok hx] at hs

theorem Respects.of_error {x : EStateM ε σ α} (h : Respects R x) {s s' : σ} {e : ε}
    (hx : x.run s = .error e s') : R s s' := by
  have hs := h s
  rwa [final_of_error hx] at hs

theorem respects_of_cases {x : EStateM ε σ α}
    (hok : ∀ s a s', x.run s = .ok a s' → R s s')
    (herr : ∀ s e s', x.run s = .error e s' → R s s') : Respects R x := by
  intro s
  cases hx : x.run s with
  | ok a s' =>
      rw [final_of_ok hx]
      exact hok s a s' hx
  | error e s' =>
      rw [final_of_error hx]
      exact herr s e s' hx

theorem Respects.mono {R' : σ → σ → Prop} {x : EStateM ε σ α} (h : Respects R x)
    (hR : ∀ s s', R s s' → R' s s') : Respects R' x := fun s => hR _ _ (h s)

theorem respects_pure (hrefl : ∀ s, R s s) (a : α) :
    Respects R (pure a : EStateM ε σ α) := fun s => hrefl s

theorem respects_throw (hrefl : ∀ s, R s s) (e : ε) :
    Respects R (throw e : EStateM ε σ α) := fun s => hrefl s

theorem respects_check (hrefl : ∀ s, R s s) (x : Except ε α) :
    Respects R (liftM x : EStateM ε σ α) := by
  refine respects_of_cases (fun s a s' h => ?_) fun s e s' h => ?_
  · rw [(check_eq_ok.1 h).2]
    exact hrefl s'
  · rw [(check_eq_error.1 h).2]
    exact hrefl s'

theorem Respects.bind (htrans : ∀ s₁ s₂ s₃, R s₁ s₂ → R s₂ s₃ → R s₁ s₃)
    {x : EStateM ε σ α} {f : α → EStateM ε σ β} (hx : Respects R x)
    (hf : ∀ a, Respects R (f a)) : Respects R (x >>= f) := by
  refine respects_of_cases (fun s b s' h => ?_) fun s e s' h => ?_
  · obtain ⟨a, s₁, h₁, h₂⟩ := bind_eq_ok.1 h
    exact htrans _ _ _ (hx.of_ok h₁) ((hf a).of_ok h₂)
  · rcases bind_eq_error.1 h with h₁ | ⟨a, s₁, h₁, h₂⟩
    · exact hx.of_error h₁
    · exact htrans _ _ _ (hx.of_ok h₁) ((hf a).of_error h₂)

/-- A check, then the rest, which need not do so where the check raises. -/
theorem respects_check_bind (hrefl : ∀ s, R s s) {x : Except ε α} {f : α → EStateM ε σ β}
    (hf : ∀ a, x = .ok a → Respects R (f a)) : Respects R (liftM x >>= f) := by
  cases x with
  | ok a => exact hf a rfl
  | error e => exact fun s => hrefl s

theorem Respects.map (hrefl : ∀ s, R s s) (htrans : ∀ s₁ s₂ s₃, R s₁ s₂ → R s₂ s₃ → R s₁ s₃)
    {f : α → β} {x : EStateM ε σ α} (hx : Respects R x) : Respects R (f <$> x) := by
  rw [map_eq_pure_bind]
  exact hx.bind htrans fun _ => respects_pure hrefl _

/-- A loop moves the state along `R` if each of its rounds does. -/
theorem Respects.mapM (hrefl : ∀ s, R s s) (htrans : ∀ s₁ s₂ s₃, R s₁ s₂ → R s₂ s₃ → R s₁ s₃)
    {f : α → EStateM ε σ β} (xs : List α) (hf : ∀ x ∈ xs, Respects R (f x)) :
    Respects R (xs.mapM f) := by
  induction xs with
  | nil => exact respects_pure hrefl []
  | cons x xs ih =>
      rw [List.mapM_cons]
      refine (hf x (List.mem_cons_self ..)).bind htrans fun y => ?_
      refine (ih fun z hz => hf z (List.mem_cons_of_mem _ hz)).bind htrans fun ys => ?_
      exact respects_pure hrefl _

/-! ### Loops -/

/-- Of two lists side by side, a member of the first stands beside one of the second. -/
theorem exists_right_of_forall₂ {R : α → β → Prop} {xs : List α} {ys : List β}
    (h : List.Forall₂ R xs ys) {x : α} (hx : x ∈ xs) : ∃ y ∈ ys, R x y := by
  induction h with
  | nil => exact absurd hx List.not_mem_nil
  | @cons x' y xs ys hhead _ ih =>
      rcases List.mem_cons.1 hx with rfl | hx
      · exact ⟨y, List.mem_cons_self .., hhead⟩
      · obtain ⟨y', hy', hR⟩ := ih hx
        exact ⟨y', List.mem_cons_of_mem _ hy', hR⟩

/-- And a member of the second beside one of the first. -/
theorem exists_left_of_forall₂ {R : α → β → Prop} {xs : List α} {ys : List β}
    (h : List.Forall₂ R xs ys) {y : β} (hy : y ∈ ys) : ∃ x ∈ xs, R x y :=
  exists_right_of_forall₂ h.flip hy

/-- A loop of checks returns what each of them does. -/
theorem except_mapM_eq_ok {f : α → Except ε β} {xs : List α} {ys : List β} :
    xs.mapM f = .ok ys ↔ List.Forall₂ (fun x y => f x = .ok y) xs ys := by
  induction xs generalizing ys with
  | nil =>
      rw [List.mapM_nil, List.forall₂_nil_left_iff]
      exact ⟨fun h => (Except.ok.inj h).symm, fun h => h ▸ rfl⟩
  | cons x xs ih =>
      simp only [List.mapM_cons, except_bind_eq_ok, ih, List.forall₂_cons_left_iff]
      constructor
      · rintro ⟨y, hy, ys', hys, h⟩
        exact ⟨y, ys', hy, hys, (Except.ok.inj h).symm⟩
      · rintro ⟨y, ys', hy, hys, rfl⟩
        exact ⟨y, hy, ys', hys, rfl⟩

/-- A result of a loop of checks is what one of them returned. -/
theorem exists_of_mem_except_mapM {f : α → Except ε β} {xs : List α} {ys : List β}
    (h : xs.mapM f = .ok ys) {y : β} (hy : y ∈ ys) : ∃ x ∈ xs, f x = .ok y :=
  exists_left_of_forall₂ (except_mapM_eq_ok.1 h) hy

/-- A loop of computations that return is a map. -/
theorem except_mapM_eq_map {f : α → Except ε β} {g : α → β} {xs : List α}
    (h : ∀ x ∈ xs, f x = .ok (g x)) : xs.mapM f = .ok (xs.map g) := by
  rw [except_mapM_eq_ok, List.forall₂_map_right_iff, List.forall₂_same]
  exact h

/-- A loop of checks returns if each of them does. -/
theorem except_mapM_isOk {f : α → Except ε β} {xs : List α} (h : ∀ x ∈ xs, ∃ y, f x = .ok y) :
    ∃ ys, xs.mapM f = .ok ys := by
  induction xs with
  | nil => exact ⟨[], rfl⟩
  | cons x xs ih =>
      obtain ⟨y, hy⟩ := h x (List.mem_cons_self ..)
      obtain ⟨ys, hys⟩ := ih fun z hz => h z (List.mem_cons_of_mem _ hz)
      refine ⟨y :: ys, ?_⟩
      rw [List.mapM_cons]
      exact except_bind_eq_ok.2 ⟨y, hy, except_bind_eq_ok.2 ⟨ys, hys, rfl⟩⟩

/-- **The loop rule.**  What holds of the rounds done so far, their results and
the state, and survives one more round, holds of a loop that returned. -/
theorem mapM_invariant (P : List α → List β → σ → Prop) {f : α → EStateM ε σ β}
    {xs : List α} {s s' : σ} {ys : List β} (h : (xs.mapM f).run s = .ok ys s') (hnil : P [] [] s)
    (hstep : ∀ done results x y s₁ s₂, done ++ [x] <+: xs → P done results s₁ →
      (f x).run s₁ = .ok y s₂ → P (done ++ [x]) (results ++ [y]) s₂) : P xs ys s' := by
  suffices hgen : ∀ (rest done : List α) (results : List β) (s₁ : σ) (zs : List β),
      done ++ rest = xs → P done results s₁ → (rest.mapM f).run s₁ = .ok zs s' →
        P (done ++ rest) (results ++ zs) s' by
    have hall := hgen xs [] [] s ys rfl hnil h
    simpa only [List.nil_append] using hall
  intro rest
  induction rest with
  | nil =>
      intro done results s₁ zs _ hP hrun
      rw [List.mapM_nil, pure_eq_ok] at hrun
      obtain ⟨rfl, rfl⟩ := hrun
      simpa only [List.append_nil] using hP
  | cons x rest ih =>
      intro done results s₁ zs hsplit hP hrun
      rw [List.mapM_cons] at hrun
      obtain ⟨y, s₂, hx, hrun⟩ := bind_eq_ok.1 hrun
      obtain ⟨ws, s₃, hrest, hrun⟩ := bind_eq_ok.1 hrun
      rw [pure_eq_ok] at hrun
      obtain ⟨rfl, rfl⟩ := hrun
      have hsplit' : done ++ [x] ++ rest = xs := by
        rw [List.append_assoc, List.singleton_append, hsplit]
      have hP₂ := hstep done results x y s₁ s₂ ⟨rest, hsplit'⟩ hP hx
      have hall := ih _ _ _ _ hsplit' hP₂ hrest
      simpa only [List.append_assoc, List.singleton_append] using hall

/-- A loop of reads: if each round returns what stands in `R` to its element and
leaves the state alone, so does the loop. -/
theorem mapM_of_reads {R : α → β → Prop} {f : α → EStateM ε σ β} {xs : List α} {s : σ}
    (h : ∀ x ∈ xs, ∃ y, (f x).run s = .ok y s ∧ R x y) :
    ∃ ys, (xs.mapM f).run s = .ok ys s ∧ List.Forall₂ R xs ys := by
  induction xs with
  | nil => exact ⟨[], rfl, .nil⟩
  | cons x xs ih =>
      obtain ⟨y, hy, hR⟩ := h x (List.mem_cons_self ..)
      obtain ⟨ys, hys, hall⟩ := ih fun z hz => h z (List.mem_cons_of_mem _ hz)
      refine ⟨y :: ys, ?_, .cons hR hall⟩
      rw [List.mapM_cons, bind_eq_ok]
      refine ⟨y, s, hy, bind_eq_ok.2 ⟨ys, s, hys, ?_⟩⟩
      exact pure_eq_ok.2 ⟨rfl, rfl⟩

/-! ### What an action does not look at -/

/-- The state of a run, changed by `g`. -/
def mapState (g : σ → σ) : Result ε σ α → Result ε σ α
  | .ok a s => .ok a (g s)
  | .error e s => .error e (g s)

/-- The action neither reads nor writes what `g` changes: after `g` it runs as before,
and `g` can as well be applied to where it ends. -/
def Blind (g : σ → σ) (x : EStateM ε σ α) : Prop := ∀ s, x.run (g s) = mapState g (x.run s)

section Blind

variable {g : σ → σ}

theorem blind_pure (a : α) : Blind g (pure a : EStateM ε σ α) := fun _ => rfl

theorem blind_check (x : Except ε α) : Blind g (liftM x : EStateM ε σ α) := fun s => by
  cases x <;> rfl

theorem Blind.bind {x : EStateM ε σ α} {f : α → EStateM ε σ β} (hx : Blind g x)
    (hf : ∀ a, Blind g (f a)) : Blind g (x >>= f) := fun s => by
  rw [EStateM.run_bind, EStateM.run_bind, hx s]
  cases x.run s with
  | ok a s' => exact hf a s'
  | error e s' => rfl

/-- Reading the state, if what is read is not changed. -/
theorem blind_get_bind {f : σ → EStateM ε σ β} (hsame : ∀ s, f (g s) = f s)
    (hf : ∀ s, Blind g (f s)) : Blind g (get >>= f) := fun s => by
  rw [get_bind, get_bind, hsame]
  exact hf s s

/-- Writing to the state, if the two changes commute. -/
theorem blind_modify_bind {h : σ → σ} (hcomm : ∀ s, h (g s) = g (h s))
    {f : PUnit → EStateM ε σ β} (hf : Blind g (f ⟨⟩)) : Blind g (modify h >>= f) := fun s => by
  rw [modify_bind, modify_bind, hcomm]
  exact hf (h s)

theorem Blind.mapM {f : α → EStateM ε σ β} (hf : ∀ x, Blind g (f x)) (xs : List α) :
    Blind g (xs.mapM f) := by
  induction xs with
  | nil => exact blind_pure []
  | cons x xs ih =>
      rw [List.mapM_cons]
      exact (hf x).bind fun y => ih.bind fun ys => blind_pure (y :: ys)

end Blind

end Effect
end Library
