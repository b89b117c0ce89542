/-
# Scripts: handlers, cleanups, deadlines

The control flow of a script over a state that no exception takes back.

* `caught handles x` is `try`/`except`: it hands over what `x` raised where the handler
  handles it, and lets every other exception pass.
* Lean's `tryFinally` is `try`/`finally`: its cleanup runs where the body ended, whichever
  way it ended (`final_tryFinally`).
* `Within R E x`: every run of `x` moves the state along `R` and raises nothing outside
  of `E`.
* `repeatUntil` is `while True` with a number of rounds, which a measure shows to be
  enough (`repeatUntil_ne_none`); a `Clock` is what bounds them in a loop with a deadline.
-/

import MetaRne.Library.Raising
import Mathlib.Algebra.Order.Ring.Rat
import Mathlib.Order.Monotone.Defs

namespace Library
namespace Effect

open EStateM (Result)

variable {ε σ α β δ : Type}

/-! ### Where a run ends -/

theorem final_congr {x : EStateM ε σ α} {y : EStateM ε σ α} {s s' : σ}
    (h : x.run s = y.run s') : final x s = final y s' := by
  unfold final
  rw [h]

/-- A bind ends where its first part does, or where the rest ends after it. -/
theorem Respects.final_bind {R : σ → σ → Prop} (hrefl : ∀ s, R s s) {x : EStateM ε σ α}
    {f : α → EStateM ε σ β} (hf : ∀ a, Respects R (f a)) (s : σ) :
    R (final x s) (final (x >>= f) s) := by
  cases hx : x.run s with
  | ok a s₁ =>
      have hbind : final (x >>= f) s = final (f a) s₁ := by
        unfold final
        rw [EStateM.run_bind, hx]
      rw [final_of_ok hx, hbind]
      exact hf a s₁
  | error e s₁ =>
      rw [final_of_error hx, final_of_error (bind_eq_error.2 (Or.inl hx))]
      exact hrefl s₁

/-! ### Handlers -/

/-- `try`/`except`: what was raised, where the handler handles it. -/
def caught (handles : ε → Option δ) (x : EStateM ε σ α) : EStateM ε σ (Except δ α) := fun s =>
  match x.run s with
  | .ok a s' => .ok (.ok a) s'
  | .error e s' =>
    match handles e with
    | some d => .ok (.error d) s'
    | none => .error e s'

section Caught

variable {handles : ε → Option δ} {x : EStateM ε σ α} {s s' : σ}

theorem caught_of_ok {a : α} (h : x.run s = .ok a s') :
    (caught handles x).run s = .ok (.ok a) s' := by
  change caught handles x s = _
  rw [caught, h]

theorem caught_of_handled {e : ε} {d : δ} (h : x.run s = .error e s') (hd : handles e = some d) :
    (caught handles x).run s = .ok (.error d) s' := by
  change caught handles x s = _
  simp only [caught, h, hd]

theorem caught_of_passed {e : ε} (h : x.run s = .error e s') (hnone : handles e = none) :
    (caught handles x).run s = .error e s' := by
  change caught handles x s = _
  simp only [caught, h, hnone]

/-- The state is the one in which the body ended. -/
@[simp] theorem final_caught : final (caught handles x) s = final x s := by
  cases hx : x.run s with
  | ok a s' => rw [final_of_ok hx, final_of_ok (caught_of_ok hx)]
  | error e s' =>
      rw [final_of_error hx]
      cases hhandles : handles e with
      | some d => exact final_of_ok (caught_of_handled hx hhandles)
      | none => exact final_of_error (caught_of_passed hx hhandles)

theorem caught_eq_ok_ok {a : α} :
    (caught handles x).run s = .ok (.ok a) s' ↔ x.run s = .ok a s' := by
  refine ⟨fun h => ?_, caught_of_ok⟩
  cases hx : x.run s with
  | ok b s₁ =>
      rw [caught_of_ok hx] at h
      cases h
      rfl
  | error e s₁ =>
      cases hhandles : handles e with
      | some d =>
          rw [caught_of_handled hx hhandles] at h
          cases h
      | none =>
          rw [caught_of_passed hx hhandles] at h
          cases h

/-- What a handler hands over was raised. -/
theorem caught_eq_ok_error {d : δ} :
    (caught handles x).run s = .ok (.error d) s' ↔
      ∃ e, x.run s = .error e s' ∧ handles e = some d := by
  refine ⟨fun h => ?_, fun ⟨e, he, hd⟩ => caught_of_handled he hd⟩
  cases hx : x.run s with
  | ok b s₁ =>
      rw [caught_of_ok hx] at h
      cases h
  | error e s₁ =>
      cases hhandles : handles e with
      | some d' =>
          rw [caught_of_handled hx hhandles] at h
          cases h
          exact ⟨e, rfl, hhandles⟩
      | none =>
          rw [caught_of_passed hx hhandles] at h
          cases h

/-- What passes a handler is not handled. -/
theorem caught_eq_error {e : ε} :
    (caught handles x).run s = .error e s' ↔ x.run s = .error e s' ∧ handles e = none := by
  refine ⟨fun h => ?_, fun ⟨he, hnone⟩ => caught_of_passed he hnone⟩
  cases hx : x.run s with
  | ok b s₁ =>
      rw [caught_of_ok hx] at h
      cases h
  | error e' s₁ =>
      cases hhandles : handles e' with
      | some d =>
          rw [caught_of_handled hx hhandles] at h
          cases h
      | none =>
          rw [caught_of_passed hx hhandles] at h
          cases h
          exact ⟨rfl, hhandles⟩

end Caught

/-! ### Cleanups -/

section Cleanup

variable {x : EStateM ε σ α} {cleanup : EStateM ε σ β} {s s₁ s₂ : σ}

theorem tryFinally_of_ok_ok {a : α} {b : β} (hx : x.run s = .ok a s₁)
    (hc : cleanup.run s₁ = .ok b s₂) : (tryFinally x cleanup).run s = .ok a s₂ := by
  have hx' : x s = .ok a s₁ := hx
  have hc' : cleanup s₁ = .ok b s₂ := hc
  rw [tryFinally, run_map_eq]
  simp only [EStateM.run, tryFinally', hx', hc']

theorem tryFinally_of_error_ok {e : ε} {b : β} (hx : x.run s = .error e s₁)
    (hc : cleanup.run s₁ = .ok b s₂) : (tryFinally x cleanup).run s = .error e s₂ := by
  have hx' : x s = .error e s₁ := hx
  have hc' : cleanup s₁ = .ok b s₂ := hc
  rw [tryFinally, run_map_eq]
  simp only [EStateM.run, tryFinally', hx', hc']

/-- What a cleanup raises replaces the result and the exception before it. -/
theorem tryFinally_of_cleanup_error {e : ε} (hc : cleanup.run (final x s) = .error e s₂) :
    (tryFinally x cleanup).run s = .error e s₂ := by
  have hc' : cleanup (final x s) = .error e s₂ := hc
  rw [tryFinally, run_map_eq]
  cases hx : x.run s with
  | ok a s₁ =>
      have hx' : x s = .ok a s₁ := hx
      rw [final_of_ok hx] at hc'
      simp only [EStateM.run, tryFinally', hx', hc']
  | error e' s₁ =>
      have hx' : x s = .error e' s₁ := hx
      rw [final_of_error hx] at hc'
      simp only [EStateM.run, tryFinally', hx', hc']

/-- **A cleanup runs where the body ended**, whichever way it ended. -/
@[simp] theorem final_tryFinally : final (tryFinally x cleanup) s = final cleanup (final x s) := by
  cases hc : cleanup.run (final x s) with
  | error e s₂ => rw [final_of_error (tryFinally_of_cleanup_error hc), final_of_error hc]
  | ok b s₂ =>
      rw [final_of_ok hc]
      cases hx : x.run s with
      | ok a s₁ =>
          rw [final_of_ok hx] at hc
          exact final_of_ok (tryFinally_of_ok_ok hx hc)
      | error e s₁ =>
          rw [final_of_error hx] at hc
          exact final_of_error (tryFinally_of_error_ok hx hc)

theorem tryFinally_eq_ok {a : α} :
    (tryFinally x cleanup).run s = .ok a s₂ ↔
      ∃ s₁ b, x.run s = .ok a s₁ ∧ cleanup.run s₁ = .ok b s₂ := by
  refine ⟨fun h => ?_, fun ⟨s₁, b, hx, hc⟩ => tryFinally_of_ok_ok hx hc⟩
  cases hc : cleanup.run (final x s) with
  | error e s₃ =>
      rw [tryFinally_of_cleanup_error hc] at h
      cases h
  | ok b s₃ =>
      cases hx : x.run s with
      | ok a' s₁ =>
          rw [final_of_ok hx] at hc
          rw [tryFinally_of_ok_ok hx hc] at h
          cases h
          exact ⟨s₁, b, rfl, hc⟩
      | error e s₁ =>
          rw [final_of_error hx] at hc
          rw [tryFinally_of_error_ok hx hc] at h
          cases h

/-- An exception comes from the cleanup, or from the body before a cleanup that returned. -/
theorem tryFinally_eq_error {e : ε} :
    (tryFinally x cleanup).run s = .error e s₂ ↔
      cleanup.run (final x s) = .error e s₂ ∨
        ∃ s₁ b, x.run s = .error e s₁ ∧ cleanup.run s₁ = .ok b s₂ := by
  constructor
  · intro h
    cases hc : cleanup.run (final x s) with
    | error e' s₃ =>
        rw [tryFinally_of_cleanup_error hc] at h
        cases h
        exact Or.inl rfl
    | ok b s₃ =>
        cases hx : x.run s with
        | ok a s₁ =>
            rw [final_of_ok hx] at hc
            rw [tryFinally_of_ok_ok hx hc] at h
            cases h
        | error e' s₁ =>
            rw [final_of_error hx] at hc
            rw [tryFinally_of_error_ok hx hc] at h
            cases h
            exact Or.inr ⟨s₁, b, rfl, hc⟩
  · rintro (hc | ⟨s₁, b, hx, hc⟩)
    · exact tryFinally_of_cleanup_error hc
    · exact tryFinally_of_error_ok hx hc

end Cleanup

/-! ### What every run does and raises -/

/-- Every run moves the state along `R`, and raises nothing outside of `E`. -/
def Within (R : σ → σ → Prop) (E : ε → Prop) (x : EStateM ε σ α) : Prop :=
  Respects R x ∧ ∀ s e s', x.run s = .error e s' → E e

section Within

variable {R : σ → σ → Prop} {E : ε → Prop}

theorem Within.of_ok {x : EStateM ε σ α} (h : Within R E x) {s s' : σ} {a : α}
    (hx : x.run s = .ok a s') : R s s' := h.1.of_ok hx

theorem Within.of_error {x : EStateM ε σ α} (h : Within R E x) {s s' : σ} {e : ε}
    (hx : x.run s = .error e s') : R s s' ∧ E e := ⟨h.1.of_error hx, h.2 s e s' hx⟩

theorem within_pure (hrefl : ∀ s, R s s) (a : α) : Within R E (pure a : EStateM ε σ α) :=
  ⟨respects_pure hrefl a, fun _ _ _ h => absurd h pure_ne_error⟩

theorem within_throw (hrefl : ∀ s, R s s) {e : ε} (he : E e) :
    Within R E (throw e : EStateM ε σ α) :=
  ⟨respects_throw hrefl e, fun _ _ _ h => (throw_eq_error.1 h).1 ▸ he⟩

theorem within_check (hrefl : ∀ s, R s s) {x : Except ε α} (hx : RaisesOnly E x) :
    Within R E (liftM x : EStateM ε σ α) :=
  ⟨respects_check hrefl x, fun _ e _ h => hx e (check_eq_error.1 h).1⟩

/-- An action that always returns. -/
theorem within_of_returns {x : EStateM ε σ α} (h : ∀ s, ∃ a s', x.run s = .ok a s' ∧ R s s') :
    Within R E x := by
  constructor
  · intro s
    obtain ⟨a, s', hx, hR⟩ := h s
    rwa [final_of_ok hx]
  · intro s e s' herror
    obtain ⟨a, s₁, hx, -⟩ := h s
    rw [hx] at herror
    cases herror

/-- The rest need only be within for what the first part may return. -/
theorem within_bind_of_ok (htrans : ∀ s₁ s₂ s₃, R s₁ s₂ → R s₂ s₃ → R s₁ s₃)
    {x : EStateM ε σ α} {f : α → EStateM ε σ β} (hx : Within R E x)
    (hf : ∀ s a s', x.run s = .ok a s' → Within R E (f a)) : Within R E (x >>= f) := by
  constructor
  · refine respects_of_cases (fun s b s' h => ?_) fun s e s' h => ?_
    · obtain ⟨a, s₁, h₁, h₂⟩ := bind_eq_ok.1 h
      exact htrans _ _ _ (hx.of_ok h₁) ((hf s a s₁ h₁).of_ok h₂)
    · rcases bind_eq_error.1 h with h₁ | ⟨a, s₁, h₁, h₂⟩
      · exact (hx.of_error h₁).1
      · exact htrans _ _ _ (hx.of_ok h₁) ((hf s a s₁ h₁).of_error h₂).1
  · intro s e s' h
    rcases bind_eq_error.1 h with h₁ | ⟨a, s₁, h₁, h₂⟩
    · exact hx.2 s e s' h₁
    · exact (hf s a s₁ h₁).2 s₁ e s' h₂

theorem Within.bind (htrans : ∀ s₁ s₂ s₃, R s₁ s₂ → R s₂ s₃ → R s₁ s₃) {x : EStateM ε σ α}
    {f : α → EStateM ε σ β} (hx : Within R E x) (hf : ∀ a, Within R E (f a)) :
    Within R E (x >>= f) := within_bind_of_ok htrans hx fun _ a _ _ => hf a

theorem Within.mapM (hrefl : ∀ s, R s s) (htrans : ∀ s₁ s₂ s₃, R s₁ s₂ → R s₂ s₃ → R s₁ s₃)
    {f : α → EStateM ε σ β} (xs : List α) (hf : ∀ x ∈ xs, Within R E (f x)) :
    Within R E (xs.mapM f) := by
  induction xs with
  | nil => exact within_pure hrefl []
  | cons x xs ih =>
      rw [List.mapM_cons]
      refine (hf x List.mem_cons_self).bind htrans fun y => ?_
      refine (ih fun z hz => hf z (List.mem_cons_of_mem _ hz)).bind htrans fun ys => ?_
      exact within_pure hrefl _

end Within

/-! ### Loops -/

/-- What each round says of its element and result, a loop says of its lists. -/
theorem forall₂_of_mapM {P : α → β → Prop} {f : α → EStateM ε σ β} {xs : List α} {s s' : σ}
    {ys : List β} (hf : ∀ x ∈ xs, ∀ s y s', (f x).run s = .ok y s' → P x y)
    (h : (xs.mapM f).run s = .ok ys s') : List.Forall₂ P xs ys := by
  induction xs generalizing s s' ys with
  | nil =>
      rw [List.mapM_nil] at h
      obtain ⟨hnil, -⟩ := pure_eq_ok.1 h
      rw [← hnil]
      exact List.Forall₂.nil
  | cons x xs ih =>
      rw [List.mapM_cons] at h
      obtain ⟨y, s₁, hx, h⟩ := bind_eq_ok.1 h
      obtain ⟨rest, s₂, hrest, h⟩ := bind_eq_ok.1 h
      obtain ⟨hcons, -⟩ := pure_eq_ok.1 h
      rw [← hcons]
      exact List.Forall₂.cons (hf x List.mem_cons_self _ y _ hx)
        (ih (fun z hz => hf z (List.mem_cons_of_mem _ hz)) hrest)

/-- Rounds that return their element's key beside a value. -/
theorem map_fst_of_mapM {κ : Type} {f : α → EStateM ε σ (κ × β)} {key : α → κ} {xs : List α}
    {ys : List (κ × β)} {s s' : σ}
    (hf : ∀ x ∈ xs, ∀ s y s', (f x).run s = .ok y s' → y.1 = key x)
    (h : (xs.mapM f).run s = .ok ys s') : ys.map Prod.fst = xs.map key := by
  have hall : List.Forall₂ (fun x y => y.1 = key x) xs ys := forall₂_of_mapM hf h
  have hflip : List.Forall₂ (fun y x => y.1 = key x) ys xs := hall.flip
  rw [← List.forall₂_map_right_iff, ← List.forall₂_map_left_iff] at hflip
  exact List.forall₂_eq_eq_eq ▸ hflip

/-- `while True` of at most so many rounds: what the round that stops hands over, `none`
where none of them stops. -/
def repeatUntil (round : β → EStateM ε σ (β × Bool)) : ℕ → β → EStateM ε σ (Option β)
  | 0, _ => pure none
  | rounds + 1, b => do
    let (next, stops) ← round b
    if stops then return some next else repeatUntil round rounds next

theorem repeatUntil_succ (round : β → EStateM ε σ (β × Bool)) (rounds : ℕ) (b : β) :
    repeatUntil round (rounds + 1) b = round b >>= fun result =>
      if result.2 then pure (some result.1) else repeatUntil round rounds result.1 := rfl

section RepeatUntil

variable {round : β → EStateM ε σ (β × Bool)} {I : β → Prop}

/-- **A round that goes on takes a measure up, but not beyond a limit**: then so many rounds
are enough, and a loop that returns hands something over. -/
theorem repeatUntil_ne_none {measure : σ → ℕ} {limit : ℕ}
    (hkeeps : ∀ b s next stops s', I b → (round b).run s = .ok (next, stops) s' → I next)
    (hround : ∀ b s next s', I b → (round b).run s = .ok (next, false) s' →
      measure s < measure s' ∧ measure s' ≤ limit)
    (rounds : ℕ) {b : β} (hb : I b) (s s' : σ) (hpos : 0 < rounds)
    (henough : limit < measure s + rounds) : (repeatUntil round rounds b).run s ≠ .ok none s' := by
  induction rounds generalizing b s with
  | zero => exact absurd hpos (Nat.lt_irrefl 0)
  | succ rounds ih =>
      intro h
      rw [repeatUntil_succ] at h
      obtain ⟨⟨next, stops⟩, s₁, hfirst, hrest⟩ := bind_eq_ok.1 h
      cases stops with
      | true => cases (pure_eq_ok.1 hrest).1
      | false =>
          obtain ⟨hup, hlimit⟩ := hround b s next s₁ hb hfirst
          exact ih (hkeeps b s next false s₁ hb hfirst) s₁ (by omega) (by omega) hrest

/-- The round that stopped. -/
theorem repeatUntil_eq_ok
    (hkeeps : ∀ b s next stops s', I b → (round b).run s = .ok (next, stops) s' → I next)
    {rounds : ℕ} {b last : β} {s s' : σ} (hb : I b)
    (h : (repeatUntil round rounds b).run s = .ok (some last) s') :
    ∃ b₁ s₁, I b₁ ∧ (round b₁).run s₁ = .ok (last, true) s' := by
  induction rounds generalizing b s with
  | zero => cases (pure_eq_ok.1 h).1
  | succ rounds ih =>
      rw [repeatUntil_succ] at h
      obtain ⟨⟨next, stops⟩, s₁, hfirst, hrest⟩ := bind_eq_ok.1 h
      cases stops with
      | true =>
          obtain ⟨hlast, hs⟩ := pure_eq_ok.1 hrest
          cases hlast
          cases hs
          exact ⟨b, s, hb, hfirst⟩
      | false => exact ih (hkeeps b s next false s₁ hb hfirst) hrest

/-- A loop does what its rounds do. -/
theorem within_repeatUntil {R : σ → σ → Prop} {E : ε → Prop} (hrefl : ∀ s, R s s)
    (htrans : ∀ s₁ s₂ s₃, R s₁ s₂ → R s₂ s₃ → R s₁ s₃)
    (hkeeps : ∀ b s next stops s', I b → (round b).run s = .ok (next, stops) s' → I next)
    (hround : ∀ b, I b → Within R E (round b)) (rounds : ℕ) {b : β} (hb : I b) :
    Within R E (repeatUntil round rounds b) := by
  induction rounds generalizing b with
  | zero => exact within_pure hrefl none
  | succ rounds ih =>
      rw [repeatUntil_succ]
      refine within_bind_of_ok htrans (hround b hb) fun s result s' hfirst => ?_
      split_ifs with hstops
      · exact within_pure hrefl _
      · exact ih (hkeeps b s result.1 result.2 s' hb hfirst)

end RepeatUntil

end Effect

/-- A clock that advances: its readings never go back, and every time comes. -/
structure Clock where
  reading : ℕ → ℚ
  mono : Monotone reading
  /-- A reading by which a time has come. -/
  reaches : ℚ → ℕ
  le_reading_reaches : ∀ t, t ≤ reading (reaches t)

namespace Clock

/-- A reading before a time is one of the first. -/
theorem lt_reaches (clock : Clock) {n : ℕ} {t : ℚ} (h : clock.reading n < t) :
    n < clock.reaches t := by
  by_contra hle
  have hpast := (clock.le_reading_reaches t).trans (clock.mono (not_lt.1 hle))
  exact absurd hpast (not_le.2 h)

/-- Readings that never go back and pass every time are those of a clock. -/
theorem exists_of_unbounded {reading : ℕ → ℚ} (hmono : Monotone reading)
    (hunbounded : ∀ t, ∃ n, t ≤ reading n) : ∃ clock : Clock, clock.reading = reading :=
  ⟨⟨reading, hmono, fun t => (hunbounded t).choose, fun t => (hunbounded t).choose_spec⟩, rfl⟩

end Clock
end Library
