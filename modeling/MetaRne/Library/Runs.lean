/-
# Runs of calls

A machine answers one call at a time: `step` takes a call and the state and
gives a reply and the next state.  `serve` answers a list of calls in order and
keeps a log of calls and replies.  A list of calls is one interleaving of the
clients that made them, so what holds of `serve` holds of every interleaving of
atomic calls.

`serve_invariant` is the one induction: what holds of the empty log and the
first state, and survives one more answered call, holds of every run.
`serve_steps` is its companion for what a single call does to a reachable state.
-/

import Mathlib.Data.List.Chain
import Mathlib.Data.List.Induction

namespace Library
namespace Runs

variable {ι ω σ : Type}

/-- Answer the calls in order: the log of calls with their replies, and the last state. -/
def serve (step : ι → σ → ω × σ) : List ι → σ → List (ι × ω) × σ
  | [], s => ([], s)
  | call :: calls, s =>
    let answered := step call s
    let rest := serve step calls answered.2
    ((call, answered.1) :: rest.1, rest.2)

variable {step : ι → σ → ω × σ}

@[simp] theorem serve_nil (s : σ) : serve step [] s = ([], s) := rfl

theorem serve_cons (call : ι) (calls : List ι) (s : σ) :
    serve step (call :: calls) s =
      ((call, (step call s).1) :: (serve step calls (step call s).2).1,
        (serve step calls (step call s).2).2) := rfl

theorem serve_append (calls calls' : List ι) (s : σ) :
    serve step (calls ++ calls') s =
      ((serve step calls s).1 ++ (serve step calls' (serve step calls s).2).1,
        (serve step calls' (serve step calls s).2).2) := by
  induction calls generalizing s with
  | nil => rfl
  | cons call calls ih =>
      rw [List.cons_append, serve_cons, serve_cons, ih]
      rfl

/-- One more call after a run. -/
theorem serve_concat (calls : List ι) (call : ι) (s : σ) :
    serve step (calls ++ [call]) s =
      ((serve step calls s).1 ++ [(call, (step call (serve step calls s).2).1)],
        (step call (serve step calls s).2).2) := by
  rw [serve_append, serve_cons, serve_nil]

/-- The log names the calls that were made, in order. -/
theorem map_fst_serve (calls : List ι) (s : σ) :
    (serve step calls s).1.map Prod.fst = calls := by
  induction calls generalizing s with
  | nil => rfl
  | cons call calls ih => rw [serve_cons, List.map_cons, ih]

/-- **The induction over a run.**  What holds at the start and survives one more
answered call among `calls` holds at the end. -/
theorem serve_invariant (step : ι → σ → ω × σ) {P : List (ι × ω) → σ → Prop} {s : σ} (calls : List ι) (hstart : P [] s)
    (hstep : ∀ log s₁, ∀ call ∈ calls, P log s₁ →
      P (log ++ [(call, (step call s₁).1)]) (step call s₁).2) :
    P (serve step calls s).1 (serve step calls s).2 := by
  induction calls using List.reverseRecOn with
  | nil => exact hstart
  | append_singleton calls call ih =>
      rw [serve_concat]
      refine hstep _ _ call (List.mem_append_right _ (List.mem_singleton_self call)) (ih ?_)
      exact fun log s₁ c hc => hstep log s₁ c (List.mem_append_left _ hc)

/-- What a call does to any state with the invariant, it does wherever it stands
in a run. -/
theorem serve_steps {P : σ → Prop} {R : σ → σ → Prop} {s : σ} (calls : List ι) (hstart : P s)
    (hstep : ∀ s₁, ∀ call ∈ calls, P s₁ → P (step call s₁).2 ∧ R s₁ (step call s₁).2) :
    ∀ before call after, calls = before ++ call :: after →
      R (serve step before s).2 (serve step (before ++ [call]) s).2 := by
  rintro before call after rfl
  have hmem : call ∈ before ++ call :: after :=
    List.mem_append_right _ (List.mem_cons_self ..)
  have hP : P (serve step before s).2 :=
    serve_invariant step (P := fun _ s₁ => P s₁) before hstart fun _ s₁ c hc h₁ =>
      (hstep s₁ c (List.mem_append_left _ hc) h₁).1
  rw [serve_concat]
  exact (hstep _ call hmem hP).2

/-- **Two systems side by side.**  If related states answer every call alike and stay
related, they answer every run alike. -/
theorem serve_simulates {ρ : Type} {step : ι → σ → ω × σ} {step' : ι → ρ → ω × ρ}
    {R : σ → ρ → Prop} (hstep : ∀ call s t, R s t →
      (step call s).1 = (step' call t).1 ∧ R (step call s).2 (step' call t).2)
    (calls : List ι) {s : σ} {t : ρ} (h : R s t) :
    (serve step calls s).1 = (serve step' calls t).1 ∧
      R (serve step calls s).2 (serve step' calls t).2 := by
  induction calls generalizing s t with
  | nil => exact ⟨rfl, h⟩
  | cons call calls ih =>
      obtain ⟨hreply, hnext⟩ := hstep call s t h
      obtain ⟨hlog, hend⟩ := ih hnext
      rw [serve_cons, serve_cons]
      exact ⟨by rw [hreply, hlog], hend⟩

/-! ### A register -/

variable {φ : Type}

/-- What an answered call does to a register: nothing, or it leaves a value there
that stands in `R` to the one before. -/
inductive Takes (R : φ → φ → Prop) (held : Option φ) : Option φ → Option φ → Prop
  | kept : Takes R held none held
  | taken {x : φ} (h : ∀ y, held = some y → R y x) : Takes R held (some x) (some x)

end Runs
end Library
