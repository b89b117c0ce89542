/-
# Computations that raise

What a computation of type `Except ε α` may raise.  `RaisesOnly P` passes through
binds and loops, so a bound on the exceptions of a decoder is put together from
its readers.  `translate f` is a handler: it leaves a result alone and raises
`f e` for every exception `e`.

A loop raises what its first failing element raises (`mapM_eq_error`), and a
loop over encoded elements decodes them (`mapM_map_eq_ok`).

A check (`require`) returns the fact it checked, for the value that is built
after it.
-/

import MetaRne.Library.Effect

namespace Library
namespace Effect

variable {ε α β : Type}

/-- Whatever is raised is in `P`. -/
def RaisesOnly (P : ε → Prop) (x : Except ε α) : Prop := ∀ e, x = .error e → P e

/-- Raise `f e` where `e` would be raised. -/
def translate (f : ε → ε) : Except ε α → Except ε α
  | .ok a => .ok a
  | .error e => .error (f e)

@[simp] theorem ok_bind (a : α) (f : α → Except ε β) : (Except.ok a >>= f) = f a := rfl

@[simp] theorem translate_ok (f : ε → ε) (a : α) : translate f (.ok a) = .ok a := rfl

variable {P Q : ε → Prop}

theorem raisesOnly_ok (a : α) : RaisesOnly P (.ok a : Except ε α) := fun _ h => by cases h

theorem raisesOnly_pure (a : α) : RaisesOnly P (pure a : Except ε α) := raisesOnly_ok a

theorem raisesOnly_error {e : ε} (h : P e) : RaisesOnly P (.error e : Except ε α) := fun e' h' => by
  cases h'
  exact h

theorem RaisesOnly.mono {x : Except ε α} (h : RaisesOnly P x) (hPQ : ∀ e, P e → Q e) :
    RaisesOnly Q x := fun e he => hPQ e (h e he)

theorem RaisesOnly.bind {x : Except ε α} {f : α → Except ε β} (hx : RaisesOnly P x)
    (hf : ∀ a, RaisesOnly P (f a)) : RaisesOnly P (x >>= f) := by
  intro e he
  rcases except_bind_eq_error.1 he with herror | ⟨a, -, herror⟩
  · exact hx e herror
  · exact hf a e herror

theorem RaisesOnly.map {x : Except ε α} (hx : RaisesOnly P x) (f : α → β) :
    RaisesOnly P (f <$> x) := by
  cases x with
  | ok a => exact raisesOnly_ok _
  | error e => exact raisesOnly_error (hx e rfl)

theorem RaisesOnly.mapM {f : α → Except ε β} {xs : List α} (hf : ∀ x ∈ xs, RaisesOnly P (f x)) :
    RaisesOnly P (xs.mapM f) := by
  induction xs with
  | nil => exact raisesOnly_ok _
  | cons x xs ih =>
      rw [List.mapM_cons]
      refine (hf x List.mem_cons_self).bind fun y => ?_
      exact (ih fun z hz => hf z (List.mem_cons_of_mem _ hz)).bind fun ys => raisesOnly_pure _

theorem raisesOnly_raiseIf {c : Prop} [Decidable c] {e : ε} (h : P e) :
    RaisesOnly P (raiseIf c e) := by
  intro e' he'
  rw [← (raiseIf_eq_error.1 he').2]
  exact h

theorem translate_eq_ok {f : ε → ε} {x : Except ε α} {a : α} :
    translate f x = .ok a ↔ x = .ok a := by
  cases x with
  | ok b => rfl
  | error e => exact iff_of_false (fun h => by cases h) fun h => by cases h

theorem translate_eq_error {f : ε → ε} {x : Except ε α} {e : ε} :
    translate f x = .error e ↔ ∃ e', x = .error e' ∧ f e' = e := by
  cases x with
  | ok b =>
      refine iff_of_false (fun h => by cases h) fun h => ?_
      obtain ⟨e', h, -⟩ := h
      cases h
  | error e' =>
      constructor
      · intro h
        exact ⟨e', rfl, Except.error.inj h⟩
      · rintro ⟨e'', h, hf⟩
        cases h
        exact congrArg Except.error hf

/-- Handling exceptions of `P` leaves what the handler raises for them. -/
theorem RaisesOnly.translate {f : ε → ε} {x : Except ε α} (h : RaisesOnly P x)
    (hf : ∀ e, P e → Q (f e)) : RaisesOnly Q (translate f x) := by
  intro e he
  obtain ⟨e', herror, rfl⟩ := translate_eq_error.1 he
  exact hf e' (h e' herror)

/-- Something outside of `P` is raised. -/
def RaisesOutside (P : ε → Prop) (x : Except ε α) : Prop := ∃ e, x = .error e ∧ ¬ P e

theorem RaisesOnly.not_outside {x : Except ε α} (h : RaisesOnly P x) : ¬ RaisesOutside P x := by
  rintro ⟨e, herror, hnot⟩
  exact hnot (h e herror)

theorem not_outside_ok (a : α) : ¬ RaisesOutside P (.ok a : Except ε α) := (raisesOnly_ok a).not_outside

theorem outside_bind {x : Except ε α} {f : α → Except ε β} :
    RaisesOutside P (x >>= f) ↔
      RaisesOutside P x ∨ ∃ a, x = .ok a ∧ RaisesOutside P (f a) := by
  constructor
  · rintro ⟨e, herror, hnot⟩
    rcases except_bind_eq_error.1 herror with hx | ⟨a, hx, hf⟩
    · exact .inl ⟨e, hx, hnot⟩
    · exact .inr ⟨a, hx, e, hf, hnot⟩
  · rintro (⟨e, hx, hnot⟩ | ⟨a, hx, e, hf, hnot⟩)
    · exact ⟨e, except_bind_eq_error.2 (.inl hx), hnot⟩
    · exact ⟨e, except_bind_eq_error.2 (.inr ⟨a, hx, hf⟩), hnot⟩

/-- After a step that raises nothing else, what is raised outside of `P` is raised by
the rest. -/
theorem RaisesOnly.outside_bind {x : Except ε α} {f : α → Except ε β} (h : RaisesOnly P x) :
    RaisesOutside P (x >>= f) ↔ ∃ a, x = .ok a ∧ RaisesOutside P (f a) := by
  rw [Effect.outside_bind]
  exact or_iff_right h.not_outside

theorem outside_map {x : Except ε α} {f : α → β} :
    RaisesOutside P (f <$> x) ↔ RaisesOutside P x := by
  cases x with
  | ok a => exact iff_of_false (fun ⟨_, h, _⟩ => by cases h) fun ⟨_, h, _⟩ => by cases h
  | error e =>
      constructor
      · rintro ⟨e', h, hnot⟩
        cases h
        exact ⟨e, rfl, hnot⟩
      · rintro ⟨e', h, hnot⟩
        cases h
        exact ⟨e, rfl, hnot⟩

/-- A handler lets pass exactly what lies outside of what it handles. -/
theorem outside_translate {f : ε → ε} {x : Except ε α} (hf : ∀ e, P (f e) ↔ Q e) :
    RaisesOutside P (translate f x) ↔ RaisesOutside Q x := by
  constructor
  · rintro ⟨e, herror, hnot⟩
    obtain ⟨e', hx, rfl⟩ := translate_eq_error.1 herror
    exact ⟨e', hx, fun hQ => hnot ((hf e').2 hQ)⟩
  · rintro ⟨e, hx, hnot⟩
    exact ⟨f e, translate_eq_error.2 ⟨e, hx, rfl⟩, fun hP => hnot ((hf e).1 hP)⟩

/-- An element that is `bad`, after elements that are `good`. -/
def FirstBad (good bad : α → Prop) (xs : List α) : Prop :=
  ∃ before x after, xs = before ++ x :: after ∧ (∀ y ∈ before, good y) ∧ bad x

/-- **A loop raises what its first failing element raises.** -/
theorem mapM_eq_error {f : α → Except ε β} {xs : List α} {e : ε} :
    xs.mapM f = .error e ↔ ∃ before x after, xs = before ++ x :: after ∧
      (∀ y ∈ before, ∃ b, f y = .ok b) ∧ f x = .error e := by
  induction xs with
  | nil =>
      refine iff_of_false (fun h => by cases h) ?_
      rintro ⟨before, x, after, hnil, -, -⟩
      exact absurd hnil (by simp)
  | cons x xs ih =>
      rw [List.mapM_cons, except_bind_eq_error]
      constructor
      · rintro (herror | ⟨b, hb, hrest⟩)
        · exact ⟨[], x, xs, rfl, fun y hy => absurd hy List.not_mem_nil, herror⟩
        · rcases except_bind_eq_error.1 hrest with hloop | ⟨ys, -, hdone⟩
          · obtain ⟨before, y, after, rfl, hbefore, hy⟩ := ih.1 hloop
            exact ⟨x :: before, y, after, rfl, List.forall_mem_cons.2 ⟨⟨b, hb⟩, hbefore⟩, hy⟩
          · cases hdone
      · rintro ⟨before, y, after, hxs, hbefore, hy⟩
        cases before with
        | nil =>
            obtain ⟨rfl, rfl⟩ := List.cons.inj hxs
            exact .inl hy
        | cons z before =>
            obtain ⟨rfl, rfl⟩ := List.cons.inj hxs
            obtain ⟨⟨b, hb⟩, hrest⟩ := List.forall_mem_cons.1 hbefore
            have hloop := ih.2 ⟨before, y, after, rfl, hrest, hy⟩
            exact .inr ⟨b, hb, except_bind_eq_error.2 (.inl hloop)⟩

/-- A loop raises something outside of `P` where an element does that comes after
elements that raise nothing. -/
theorem outside_mapM {f : α → Except ε β} {xs : List α} :
    RaisesOutside P (xs.mapM f) ↔
      FirstBad (fun x => ∃ b, f x = .ok b) (fun x => RaisesOutside P (f x)) xs := by
  constructor
  · rintro ⟨e, herror, hnot⟩
    obtain ⟨before, x, after, rfl, hbefore, hx⟩ := mapM_eq_error.1 herror
    exact ⟨before, x, after, rfl, hbefore, e, hx, hnot⟩
  · rintro ⟨before, x, after, rfl, hbefore, e, hx, hnot⟩
    exact ⟨e, mapM_eq_error.2 ⟨before, x, after, rfl, hbefore, hx⟩, hnot⟩

/-- What is decoded element by element is the list that was encoded. -/
theorem mapM_map_eq_ok {γ : Type} {encode : α → β} {decode : β → Except ε γ} {of : α → γ}
    {xs : List α} (h : ∀ x ∈ xs, decode (encode x) = .ok (of x)) :
    (xs.map encode).mapM decode = .ok (xs.map of) := by
  induction xs with
  | nil => rfl
  | cons x xs ih =>
      have hx := h x List.mem_cons_self
      have hxs := ih fun y hy => h y (List.mem_cons_of_mem _ hy)
      rw [List.map_cons, List.mapM_cons, hx, List.map_cons]
      exact except_bind_eq_ok.2 ⟨_, rfl, except_bind_eq_ok.2 ⟨_, hxs, rfl⟩⟩

/-! ### Checks that return what they checked -/

/-- Raise `e` unless `p` holds. -/
def require (p : Prop) [Decidable p] (e : ε) : Except ε (PLift p) :=
  if h : p then .ok ⟨h⟩ else .error e

theorem require_eq_ok {p : Prop} [Decidable p] (e : ε) (h : p) : require p e = .ok ⟨h⟩ := by
  rw [require, dif_pos h]

theorem raisesOnly_require {p : Prop} [Decidable p] {e : ε} (h : P e) :
    RaisesOnly P (require p e) := by
  by_cases hp : p
  · rw [require_eq_ok e hp]
    exact raisesOnly_ok _
  · rw [require, dif_neg hp]
    exact raisesOnly_error h

theorem forall_mem_none {p : α → Prop} : ∀ a ∈ (none : Option α), p a := fun _ h => by cases h

theorem forall_mem_some {p : α → Prop} {a : α} (h : p a) : ∀ b ∈ some a, p b := fun b hb => by
  rwa [← Option.some.inj hb]

theorem forall_mem_nil {p : α → Prop} : ∀ a ∈ ([] : List α), p a :=
  fun _ h => absurd h List.not_mem_nil

/-- A check of the value that is there, if one is. -/
def requireOptional {p : α → Prop} (check : (a : α) → Except ε (PLift (p a))) :
    (value : Option α) → Except ε (PLift (∀ a ∈ value, p a))
  | none => .ok ⟨forall_mem_none⟩
  | some a => do
      let h ← check a
      return ⟨forall_mem_some h.down⟩

theorem requireOptional_eq_ok {p : α → Prop} {check : (a : α) → Except ε (PLift (p a))}
    {value : Option α} (hcheck : ∀ a (h : p a), check a = .ok ⟨h⟩) (h : ∀ a ∈ value, p a) :
    requireOptional check value = .ok ⟨h⟩ := by
  cases value with
  | none => rfl
  | some a =>
      rw [requireOptional, hcheck a (h a rfl)]
      rfl

theorem raisesOnly_requireOptional {p : α → Prop} {check : (a : α) → Except ε (PLift (p a))}
    {value : Option α} (h : ∀ a, RaisesOnly P (check a)) :
    RaisesOnly P (requireOptional check value) := by
  cases value with
  | none => exact raisesOnly_ok _
  | some a => exact (h a).bind fun _ => raisesOnly_pure _

/-- A check of every element, in order. -/
def requireEach {p : α → Prop} (check : (a : α) → Except ε (PLift (p a))) :
    (values : List α) → Except ε (PLift (∀ a ∈ values, p a))
  | [] => .ok ⟨forall_mem_nil⟩
  | a :: values => do
      let h ← check a
      let hs ← requireEach check values
      return ⟨List.forall_mem_cons.2 ⟨h.down, hs.down⟩⟩

theorem requireEach_cons {p : α → Prop} (check : (a : α) → Except ε (PLift (p a))) (a : α)
    (values : List α) :
    requireEach check (a :: values) = check a >>= fun h => requireEach check values >>= fun hs =>
      pure ⟨List.forall_mem_cons.2 ⟨h.down, hs.down⟩⟩ := rfl

theorem requireEach_eq_ok {p : α → Prop} {check : (a : α) → Except ε (PLift (p a))}
    {values : List α} (hcheck : ∀ a (h : p a), check a = .ok ⟨h⟩) (h : ∀ a ∈ values, p a) :
    requireEach check values = .ok ⟨h⟩ := by
  induction values with
  | nil => rfl
  | cons a values ih =>
      rw [requireEach_cons, hcheck a (h a List.mem_cons_self),
        ih fun b hb => h b (List.mem_cons_of_mem _ hb)]
      rfl

theorem raisesOnly_requireEach {p : α → Prop} {check : (a : α) → Except ε (PLift (p a))}
    {values : List α} (h : ∀ a, RaisesOnly P (check a)) :
    RaisesOnly P (requireEach check values) := by
  induction values with
  | nil => exact raisesOnly_ok _
  | cons a values ih =>
      exact (h a).bind fun _ => ih.bind fun _ => raisesOnly_pure _

end Effect
end Library
