/-
# Working copies of a shared state

Clients share a state.  Each makes a copy of it, makes calls on the copy alone,
and publishes the copy, which replaces the shared state whole.  What calls draw
on besides, a counter, is shared and never taken back.  A list of events is one
interleaving of any number of clients.

Publishing a copy drops what others published since the copy was made.  A run in
which this never happens, because no copy is published onto a shared state that
has changed since, is `Unraced`: it is serial (`serial_of_unraced`), the shared
state being what the published calls make of it one after another; and what
every call adds to a measure of the state is in the measure of the shared state
(`counted_of_unraced`).
-/

import Mathlib.Algebra.BigOperators.Group.List.Basic
import Mathlib.Algebra.Ring.Nat
import Mathlib.Data.List.Induction
import Mathlib.Logic.Function.Basic

namespace Library
namespace Snapshots

/-- What a call on a copy gives: its reply, and the counter and the copy after it. -/
structure Outcome (ω γ σ : Type) where
  reply : ω
  counter : γ
  state : σ

/-- A call that was made: on which counter, and how it was answered. -/
structure Entry (ι ω γ : Type) where
  call : ι
  counter : γ
  reply : ω

/-- A client's copy: the state it was made from, the copy as it is now, and the
calls made on it. -/
structure Copy (ι ω γ σ : Type) where
  base : σ
  working : σ
  log : List (Entry ι ω γ)

/-- The shared state and counter, the copies, and the calls that were published, in order. -/
structure World (υ ι ω γ σ : Type) where
  shared : σ
  counter : γ
  copies : υ → Option (Copy ι ω γ σ)
  published : List (Entry ι ω γ)

/-- What a client does. -/
inductive Event (υ ι : Type)
  | make (u : υ)
  | call (u : υ) (i : ι)
  | publish (u : υ)
  | reset (u : υ)
  deriving DecidableEq

section

variable {υ ι ω γ σ : Type} [DecidableEq υ] (perform : ι → γ → σ → Outcome ω γ σ)

/-- A copy that nothing has been done to. -/
def Copy.of (s : σ) : Copy ι ω γ σ := ⟨s, s, []⟩

/-- A call on a copy. -/
def Copy.after (copy : Copy ι ω γ σ) (i : ι) (counter : γ) : Copy ι ω γ σ where
  base := copy.base
  working := (perform i counter copy.working).state
  log := copy.log ++ [⟨i, counter, (perform i counter copy.working).reply⟩]

/-- A world in which a client has a copy. -/
def World.hold (w : World υ ι ω γ σ) (u : υ) (copy : Copy ι ω γ σ) : World υ ι ω γ σ :=
  { w with copies := Function.update w.copies u (some copy) }

/-- The world after a call on a client's copy. -/
def World.call (w : World υ ι ω γ σ) (u : υ) (i : ι) (copy : Copy ι ω γ σ) : World υ ι ω γ σ :=
  { w.hold u (copy.after perform i w.counter) with
    counter := (perform i w.counter copy.working).counter }

/-- The world after a client has published its copy. -/
def World.publish (w : World υ ι ω γ σ) (u : υ) (copy : Copy ι ω γ σ) : World υ ι ω γ σ :=
  { w.hold u (.of copy.working) with
    shared := copy.working
    published := w.published ++ copy.log }

/-- One event; without a copy of its client only `make` does anything. -/
def step : Event υ ι → World υ ι ω γ σ → World υ ι ω γ σ
  | .make u, w => w.hold u (.of w.shared)
  | .call u i, w =>
    match w.copies u with
    | none => w
    | some copy => w.call perform u i copy
  | .publish u, w =>
    match w.copies u with
    | none => w
    | some copy => w.publish u copy
  | .reset u, w =>
    match w.copies u with
    | none => w
    | some _ => w.hold u (.of w.shared)

/-- What every event that does something does: it gives a copy of the shared state, makes
a call or publishes. -/
theorem step_cases {P : World υ ι ω γ σ → Prop} (event : Event υ ι) {w : World υ ι ω γ σ}
    (hsame : P w) (hfresh : ∀ u, P (w.hold u (.of w.shared)))
    (hcall : ∀ u i copy, w.copies u = some copy → P (w.call perform u i copy))
    (hpublish : ∀ u copy, event = .publish u → w.copies u = some copy → P (w.publish u copy)) :
    P (step perform event w) := by
  cases event with
  | make u => exact hfresh u
  | call u i =>
      cases hcopy : w.copies u with
      | none => rwa [step, hcopy]
      | some copy =>
          rw [step, hcopy]
          exact hcall u i copy hcopy
  | publish u =>
      cases hcopy : w.copies u with
      | none => rwa [step, hcopy]
      | some copy =>
          rw [step, hcopy]
          exact hpublish u copy rfl hcopy
  | reset u =>
      cases hcopy : w.copies u with
      | none => rwa [step, hcopy]
      | some copy =>
          rw [step, hcopy]
          exact hfresh u

/-- The world after the events. -/
def after (events : List (Event υ ι)) (w : World υ ι ω γ σ) : World υ ι ω γ σ :=
  events.foldl (fun w event => step perform event w) w

theorem after_concat (events : List (Event υ ι)) (event : Event υ ι) (w : World υ ι ω γ σ) :
    after perform (events ++ [event]) w = step perform event (after perform events w) := by
  rw [after, List.foldl_append]
  rfl

/-- The event publishes no copy onto a shared state other than the one it was made from. -/
def Unraced (event : Event υ ι) (w : World υ ι ω γ σ) : Prop :=
  ∀ u copy, event = .publish u → w.copies u = some copy → w.shared = copy.base

/-- Every event of a run is unraced where it happens. -/
def UnracedRun (events : List (Event υ ι)) (w : World υ ι ω γ σ) : Prop :=
  ∀ before event later, events = before ++ event :: later →
    Unraced event (after perform before w)

variable {perform} {w : World υ ι ω γ σ}

theorem UnracedRun.start {events later : List (Event υ ι)}
    (h : UnracedRun perform (events ++ later) w) : UnracedRun perform events w := by
  rintro before event rest rfl
  exact h before event (rest ++ later) (by rw [List.append_assoc, List.cons_append])

/-- An unraced run is one whose first event is unraced and whose rest is unraced after it. -/
theorem unracedRun_cons {event : Event υ ι} {events : List (Event υ ι)}
    (h : Unraced event w) (hrest : UnracedRun perform events (step perform event w)) :
    UnracedRun perform (event :: events) w := by
  rintro before event' later hsplit
  cases before with
  | nil =>
      obtain ⟨rfl, -⟩ := List.cons.inj hsplit
      exact h
  | cons first before =>
      obtain ⟨rfl, rfl⟩ := List.cons.inj hsplit
      exact hrest before event' later rfl

theorem unracedRun_nil : UnracedRun perform [] w := fun before _ _ h => by
  cases before <;> cases h

omit [DecidableEq υ] in
/-- Only publishing can be raced. -/
theorem unraced_of_ne {event : Event υ ι} (h : ∀ u, event ≠ .publish u) : Unraced event w :=
  fun u _ hevent => absurd hevent (h u)

/-- **The induction over an unraced run.** -/
theorem after_invariant {P : World υ ι ω γ σ → Prop} (events : List (Event υ ι)) (hstart : P w)
    (hrun : UnracedRun perform events w)
    (hstep : ∀ event w₁, Unraced event w₁ → P w₁ → P (step perform event w₁)) :
    P (after perform events w) := by
  induction events using List.reverseRecOn with
  | nil => exact hstart
  | append_singleton events event ih =>
      rw [after_concat]
      exact hstep event _ (hrun events event [] rfl) (ih hrun.start)

/-- What a client holds after another was given a copy. -/
theorem copies_hold {u u' : υ} {copy copy' : Copy ι ω γ σ}
    (h : (w.hold u copy).copies u' = some copy') :
    copy' = copy ∨ w.copies u' = some copy' := by
  change Function.update w.copies u (some copy) u' = some copy' at h
  rw [Function.update_apply] at h
  split_ifs at h
  · exact Or.inl (Option.some.inj h).symm
  · exact Or.inr h

/-! ### Serial runs -/

variable (perform) in
/-- The calls of a log, made one after another on a state, with the answers they got
and the counters they got them on. -/
def Replays : List (Entry ι ω γ) → σ → σ → Prop
  | [], s, s' => s' = s
  | entry :: log, s, s' =>
    (perform entry.call entry.counter s).reply = entry.reply ∧
      Replays log (perform entry.call entry.counter s).state s'

theorem replays_append {log log' : List (Entry ι ω γ)} {s s₁ s' : σ}
    (h : Replays perform log s s₁) (h' : Replays perform log' s₁ s') :
    Replays perform (log ++ log') s s' := by
  induction log generalizing s with
  | nil =>
      obtain rfl : s₁ = s := h
      exact h'
  | cons entry log ih => exact ⟨h.1, ih h.2⟩

theorem replays_call (i : ι) (counter : γ) (s : σ) :
    Replays perform [⟨i, counter, (perform i counter s).reply⟩] s (perform i counter s).state :=
  ⟨rfl, rfl⟩

/-- Every copy is what its log makes of its base, and the shared state what the
published calls make of the first one. -/
structure Serial (perform : ι → γ → σ → Outcome ω γ σ) (start : σ) (w : World υ ι ω γ σ) :
    Prop where
  copies : ∀ u copy, w.copies u = some copy → Replays perform copy.log copy.base copy.working
  shared : Replays perform w.published start w.shared

theorem Serial.hold {start : σ} (h : Serial perform start w) (u : υ) {copy : Copy ι ω γ σ}
    (hcopy : Replays perform copy.log copy.base copy.working) :
    Serial perform start (w.hold u copy) := by
  refine ⟨fun u' copy' h' => ?_, h.shared⟩
  rcases copies_hold h' with rfl | h'
  · exact hcopy
  · exact h.copies u' copy' h'

theorem Serial.step {start : σ} {event : Event υ ι} (h : Serial perform start w)
    (hunraced : Unraced event w) : Serial perform start (step perform event w) := by
  refine step_cases perform event h (fun u => h.hold u rfl) (fun u i copy hcopy => ?_)
    fun u copy hevent hcopy => ?_
  · have hafter : Replays perform (copy.after perform i w.counter).log copy.base
        (copy.after perform i w.counter).working :=
      replays_append (h.copies u copy hcopy) (replays_call i w.counter copy.working)
    exact ⟨(h.hold u hafter).copies, h.shared⟩
  · have hshared := h.shared
    rw [hunraced u copy hevent hcopy] at hshared
    have hfresh : Replays perform (Copy.of copy.working).log copy.working copy.working := rfl
    exact ⟨(h.hold u hfresh).copies, replays_append hshared (h.copies u copy hcopy)⟩

/-- **An unraced run is serial**: the shared state is what the published calls make of
the first one, each with the answer it got. -/
theorem serial_of_unraced {events : List (Event υ ι)} (hrun : UnracedRun perform events w)
    (hcopies : ∀ u, w.copies u = none) (hpublished : w.published = []) :
    Serial perform w.shared (after perform events w) := by
  refine after_invariant events ⟨fun u copy h => ?_, ?_⟩ hrun fun _ _ hunraced h => h.step hunraced
  · rw [hcopies u] at h
    cases h
  · rw [hpublished]
    exact rfl

/-! ### What the calls add up to -/

/-- A measure of states under an invariant, and what every call adds to it. -/
structure Measures (perform : ι → γ → σ → Outcome ω γ σ) (I : γ → σ → Prop) (m : σ → ℕ)
    (weight : Entry ι ω γ → ℕ) : Prop where
  keeps : ∀ i c s, I c s → I (perform i c s).counter (perform i c s).state
  others : ∀ i c s s', I c s' → I (perform i c s).counter s'
  adds : ∀ i c s, I c s →
    m (perform i c s).state = m s + weight ⟨i, c, (perform i c s).reply⟩

/-- The invariant holds of every state, and every measure is what the calls added. -/
structure Counted (I : γ → σ → Prop) (m : σ → ℕ) (weight : Entry ι ω γ → ℕ) (start : σ)
    (w : World υ ι ω γ σ) : Prop where
  sharedHolds : I w.counter w.shared
  copiesHold : ∀ u copy, w.copies u = some copy → I w.counter copy.working
  shared : m w.shared = m start + (w.published.map weight).sum
  copies : ∀ u copy, w.copies u = some copy →
    m copy.working = m copy.base + (copy.log.map weight).sum

variable {I : γ → σ → Prop} {m : σ → ℕ} {weight : Entry ι ω γ → ℕ} {start : σ}

theorem Counted.hold (h : Counted I m weight start w) (u : υ) {copy : Copy ι ω γ σ}
    (hholds : I w.counter copy.working)
    (hcopy : m copy.working = m copy.base + (copy.log.map weight).sum) :
    Counted I m weight start (w.hold u copy) := by
  refine ⟨h.sharedHolds, fun u' copy' h' => ?_, h.shared, fun u' copy' h' => ?_⟩
  · rcases copies_hold h' with rfl | h'
    · exact hholds
    · exact h.copiesHold u' copy' h'
  · rcases copies_hold h' with rfl | h'
    · exact hcopy
    · exact h.copies u' copy' h'

omit [DecidableEq υ] in
/-- The counter moves on as a call moves it. -/
theorem Counted.count (h : Counted I m weight start w) {counter : γ}
    (hmoves : ∀ s, I w.counter s → I counter s) :
    Counted I m weight start { w with counter := counter } :=
  ⟨hmoves _ h.sharedHolds, fun u copy hcopy => hmoves _ (h.copiesHold u copy hcopy), h.shared,
    h.copies⟩

theorem Counted.step (hmeasures : Measures perform I m weight) {event : Event υ ι}
    (h : Counted I m weight start w) (hunraced : Unraced event w) :
    Counted I m weight start (step perform event w) := by
  refine step_cases perform event h (fun u => h.hold u h.sharedHolds (Nat.add_zero _).symm)
    (fun u i copy hcopy => ?_) fun u copy hevent hcopy => ?_
  · have hholds := h.copiesHold u copy hcopy
    have hcounted := h.count (hmeasures.others i w.counter copy.working)
    refine hcounted.hold u (hmeasures.keeps i w.counter copy.working hholds) ?_
    change m (perform i w.counter copy.working).state = _
    rw [hmeasures.adds i w.counter copy.working hholds, h.copies u copy hcopy, Copy.after,
      List.map_append, List.sum_append, List.map_singleton, List.sum_singleton, Nat.add_assoc]
  · have hholds := h.copiesHold u copy hcopy
    have hcounted : Counted I m weight start (w.hold u (.of copy.working)) :=
      h.hold u hholds (Nat.add_zero _).symm
    refine ⟨hholds, hcounted.copiesHold, ?_, hcounted.copies⟩
    change m copy.working = m start + ((w.published ++ copy.log).map weight).sum
    rw [h.copies u copy hcopy, ← hunraced u copy hevent hcopy, h.shared, List.map_append,
      List.sum_append, Nat.add_assoc]

/-- **Nothing that was published is lost** in an unraced run: the measure of the shared
state is that of the first one and what the published calls added. -/
theorem counted_of_unraced (hmeasures : Measures perform I m weight)
    {events : List (Event υ ι)} (hrun : UnracedRun perform events w)
    (hholds : I w.counter w.shared) (hcopies : ∀ u, w.copies u = none)
    (hpublished : w.published = []) :
    Counted I m weight w.shared (after perform events w) := by
  refine after_invariant events ⟨hholds, fun u copy h => ?_, ?_, fun u copy h => ?_⟩ hrun
    fun _ _ hunraced h => h.step hmeasures hunraced
  · rw [hcopies u] at h
    cases h
  · rw [hpublished]
    exact (Nat.add_zero _).symm
  · rw [hcopies u] at h
    cases h

end
end Snapshots
end Library
