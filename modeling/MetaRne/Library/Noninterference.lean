/-
# Noninterference

A relation `S` on states says that an observer cannot tell them apart.

* `Unaware S x`: from states that cannot be told apart the action answers the
  same and leaves states that cannot be told apart.  It passes through pure,
  checks, binds and loops.  An action that is `Blind` to every change that `S`
  allows is unaware (`Blind.unaware`).
* `serve_filter`: the unwinding rule.  If the visible calls are unaware and each
  of the others leaves a state that cannot be told from the one it found, then a
  run cannot be told from the run of its visible calls.
-/

import MetaRne.Library.Effect
import MetaRne.Library.Runs

namespace Library
namespace Effect

variable {ε σ α β : Type} {S : σ → σ → Prop}

/-- From states that cannot be told apart, the same answer and such states again. -/
def Unaware (S : σ → σ → Prop) (x : EStateM ε σ α) : Prop :=
  ∀ s t, S s t → Alike Eq S (x.run s) (x.run t)

theorem unaware_pure (a : α) : Unaware S (pure a : EStateM ε σ α) := fun _ _ h => .ok a h

theorem unaware_check (x : Except ε α) : Unaware S (liftM x : EStateM ε σ α) := fun s t h => by
  cases x with
  | ok a => exact Alike.ok a h
  | error e => exact Alike.error rfl h

theorem Unaware.bind {x : EStateM ε σ α} {f : α → EStateM ε σ β} (hx : Unaware S x)
    (hf : ∀ a, Unaware S (f a)) : Unaware S (x >>= f) := fun s t h => by
  have hparts := hx s t h
  rw [EStateM.run_bind, EStateM.run_bind]
  revert hparts
  cases x.run s with
  | ok a s' =>
      intro hparts
      cases ht : x.run t with
      | ok b t' =>
          rw [ht] at hparts
          cases hparts with
          | ok _ hs => exact hf a s' t' hs
      | error e t' =>
          rw [ht] at hparts
          cases hparts
  | error e s' =>
      intro hparts
      cases ht : x.run t with
      | ok b t' =>
          rw [ht] at hparts
          cases hparts
      | error e' t' =>
          rw [ht] at hparts
          cases hparts with
          | error he hs => exact Alike.error he hs

theorem Unaware.map {f : α → β} {x : EStateM ε σ α} (hx : Unaware S x) : Unaware S (f <$> x) := by
  rw [map_eq_pure_bind]
  exact hx.bind fun a => unaware_pure (f a)

theorem Unaware.mapM {f : α → EStateM ε σ β} (xs : List α) (hf : ∀ x ∈ xs, Unaware S (f x)) :
    Unaware S (xs.mapM f) := by
  induction xs with
  | nil => exact unaware_pure []
  | cons x xs ih =>
      rw [List.mapM_cons]
      refine (hf x (List.mem_cons_self ..)).bind fun y => ?_
      exact (ih fun z hz => hf z (List.mem_cons_of_mem _ hz)).bind fun ys => unaware_pure (y :: ys)

/-- An action is unaware of changes that it is blind to, if none of them becomes
visible where it ends. -/
theorem Unaware.of_blind {ι : Type} {g : ι → σ → σ} {x : EStateM ε σ α}
    (hx : ∀ i, Blind (g i) x) (hS : ∀ s t, S s t → ∃ i, t = g i s)
    (hkeep : ∀ i s, S s (g i s) → S (final x s) (g i (final x s))) : Unaware S x := by
  intro s t h
  obtain ⟨i, rfl⟩ := hS s t h
  have hend := hkeep i s h
  rw [hx i s]
  cases hrun : x.run s with
  | ok a s' =>
      rw [final_of_ok hrun] at hend
      exact .ok a hend
  | error e s' =>
      rw [final_of_error hrun] at hend
      exact .error rfl hend

/-- Called on states that cannot be told apart, an unaware action answers the same
and leaves such states. -/
theorem Unaware.attempt {x : EStateM ε σ α} (hx : Unaware S x) {s t : σ} (h : S s t) :
    (attempt x s).1 = (attempt x t).1 ∧ S (attempt x s).2 (attempt x t).2 := by
  have hruns := hx s t h
  unfold Effect.attempt
  revert hruns
  generalize x.run s = r
  generalize x.run t = r'
  rintro (⟨a, hs⟩ | ⟨rfl, hs⟩)
  · exact ⟨rfl, hs⟩
  · exact ⟨rfl, hs⟩

end Effect

namespace Runs

variable {ι ω σ : Type} {step : ι → σ → ω × σ}

/-- **The unwinding rule.**  Where the visible calls keep states that cannot be
told apart so, and every other call leaves a state that cannot be told from the
one it found, a run cannot be told from the run of its visible calls. -/
theorem serve_filter {S : σ → σ → Prop} {visible : ι → Bool} (calls : List ι)
    (hvisible : ∀ call ∈ calls, visible call = true → ∀ s t, S s t →
      S (step call s).2 (step call t).2)
    (hhidden : ∀ call ∈ calls, visible call = false → ∀ s t, S s t → S (step call s).2 t)
    {s t : σ} (h : S s t) :
    S (serve step calls s).2 (serve step (calls.filter visible) t).2 := by
  induction calls generalizing s t with
  | nil => exact h
  | cons call calls ih =>
      have hmem := List.mem_cons_self (a := call) (l := calls)
      have ih' := fun {s t : σ} (h : S s t) => ih
        (fun c hc => hvisible c (List.mem_cons_of_mem _ hc))
        (fun c hc => hhidden c (List.mem_cons_of_mem _ hc)) h
      rw [serve_cons, List.filter_cons]
      cases hsee : visible call with
      | true =>
          rw [if_pos rfl, serve_cons]
          exact ih' (hvisible call hmem hsee s t h)
      | false =>
          rw [if_neg Bool.false_ne_true]
          exact ih' (hhidden call hmem hsee s t h)

end Runs
end Library
