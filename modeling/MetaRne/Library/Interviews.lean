/-
# Interviews

A computation that asks questions one after the other, of somebody who answers as they like,
by what was asked before.  Where each question is asked once and in a fixed order, what the
computation returns is a function of the answers alone: `Asks` relates the two, and passes
through binds and loops (`Asks.bind`, `Asks.mapM`), so that it is put together from the
questions.

The log of an interview is the questions asked so far.
-/

import MetaRne.Library.Effect
import Mathlib.Data.List.Infix
import Mathlib.Data.List.TakeWhile

namespace Library
namespace Interview

open Effect

variable {ε κ ρ α β : Type} [DecidableEq κ]

/-- Whoever answers: by the questions before this one. -/
abbrev Respondent (κ ρ : Type) := List κ → κ → ρ

/-- Ask a question and log it. -/
def ask (respond : Respondent κ ρ) (question : κ) : EStateM ε (List κ) ρ := fun asked =>
  .ok (respond asked question) (asked ++ [question])

/-- The answer to each of some questions, asked in their order after others. -/
def answers (respond : Respondent κ ρ) (asked questions : List κ) (question : κ) : ρ :=
  respond (asked ++ questions.takeWhile (· ≠ question)) question

/-- An outcome that depends on the answers to these questions only. -/
def ReadsOnly (questions : List κ) (outcome : (κ → ρ) → Except ε α) : Prop :=
  ∀ f g, (∀ q ∈ questions, f q = g q) → outcome f = outcome g

/-- **The computation asks these questions, and its outcome is that of the answers.**  It may
raise before it has asked all of them. -/
structure Asks (respond : Respondent κ ρ) (x : EStateM ε (List κ) α) (questions : List κ)
    (outcome : (κ → ρ) → Except ε α) : Prop where
  reads : ReadsOnly questions outcome
  returns : ∀ asked a, outcome (answers respond asked questions) = .ok a →
    x.run asked = .ok a (asked ++ questions)
  raises : ∀ asked e, outcome (answers respond asked questions) = .error e →
    ∃ log, log <+: questions ∧ x.run asked = .error e (asked ++ log)

section

variable {respond : Respondent κ ρ} {questions questions' : List κ}

/-- Questions that come first are answered as they are without the others. -/
theorem answers_append_left (asked : List κ) {question : κ} (h : question ∈ questions) :
    answers respond asked (questions ++ questions') question =
      answers respond asked questions question := by
  have hstops : ¬ (questions.takeWhile (· ≠ question)).length = questions.length := by
    intro hlength
    have hall := (List.takeWhile_prefix (· ≠ question)).eq_of_length hlength
    have hne := List.takeWhile_eq_self_iff.1 hall question h
    rw [decide_eq_true_iff] at hne
    exact hne rfl
  rw [answers, answers, List.takeWhile_append, if_neg hstops]

/-- Questions that come later are answered as after the others. -/
theorem answers_append_right (asked : List κ) {question : κ} (h : question ∉ questions) :
    answers respond asked (questions ++ questions') question =
      answers respond (asked ++ questions) questions' question := by
  have htake : (questions ++ questions').takeWhile (· ≠ question) =
      questions ++ questions'.takeWhile (· ≠ question) := by
    refine List.takeWhile_append_of_pos fun q hq => ?_
    rw [decide_eq_true_iff]
    rintro rfl
    exact h hq
  rw [answers, answers, htake, List.append_assoc]

/-! ### The rules -/

theorem Asks.congr {x : EStateM ε (List κ) α} {outcome outcome' : (κ → ρ) → Except ε α}
    (h : Asks respond x questions outcome) (heq : ∀ f, outcome f = outcome' f) :
    Asks respond x questions outcome' := by
  rwa [← funext heq]

theorem asks_check (x : Except ε α) :
    Asks respond (liftM x : EStateM ε (List κ) α) [] fun _ => x where
  reads _ _ _ := rfl
  returns asked a h := by
    rw [List.append_nil, check_eq_ok]
    exact ⟨h, rfl⟩
  raises asked e h := by
    refine ⟨[], List.prefix_refl _, ?_⟩
    rw [List.append_nil, check_eq_error]
    exact ⟨h, rfl⟩

theorem asks_pure (a : α) :
    Asks respond (pure a : EStateM ε (List κ) α) [] fun _ => .ok a where
  reads _ _ _ := rfl
  returns asked b h := by
    rw [List.append_nil, pure_eq_ok]
    exact ⟨Except.ok.inj h, rfl⟩
  raises asked e h := by cases h

theorem asks_ask (question : κ) :
    Asks respond (ask respond question : EStateM ε (List κ) ρ) [question]
      fun f => .ok (f question) where
  reads f g h := congrArg Except.ok (h question (List.mem_singleton_self question))
  returns asked a h := by
    have hanswer : respond asked question = a := by
      have := Except.ok.inj h
      rwa [answers, List.takeWhile_cons_of_neg (by simp), List.append_nil] at this
    rw [← hanswer]
    rfl
  raises asked e h := by cases h

/-- **One interview after another**, without a question that is asked twice. -/
theorem Asks.bind {x : EStateM ε (List κ) α} {k : α → EStateM ε (List κ) β}
    {outcome : (κ → ρ) → Except ε α} {outcome' : α → (κ → ρ) → Except ε β}
    (hx : Asks respond x questions outcome) (hk : ∀ a, Asks respond (k a) questions' (outcome' a))
    (hdisjoint : ∀ q ∈ questions', q ∉ questions) :
    Asks respond (x >>= k) (questions ++ questions') fun f => outcome f >>= fun a => outcome' a f := by
  have hleft : ∀ asked, outcome (answers respond asked (questions ++ questions')) =
      outcome (answers respond asked questions) :=
    fun asked => hx.reads _ _ fun q hq => answers_append_left asked hq
  have hright : ∀ asked a, outcome' a (answers respond asked (questions ++ questions')) =
      outcome' a (answers respond (asked ++ questions) questions') :=
    fun asked a => (hk a).reads _ _ fun q hq => answers_append_right asked (hdisjoint q hq)
  constructor
  · intro f g hfg
    have hfirst := hx.reads f g fun q hq => hfg q (List.mem_append_left _ hq)
    have hrest : ∀ a, outcome' a f = outcome' a g :=
      fun a => (hk a).reads f g fun q hq => hfg q (List.mem_append_right _ hq)
    simp only [hfirst, hrest]
  · intro asked b h
    obtain ⟨a, ha, hb⟩ := except_bind_eq_ok.1 h
    rw [hleft] at ha
    rw [hright] at hb
    rw [← List.append_assoc]
    exact bind_eq_ok.2 ⟨a, _, hx.returns asked a ha, (hk a).returns _ b hb⟩
  · intro asked e h
    rcases except_bind_eq_error.1 h with hfirst | ⟨a, ha, hrest⟩
    · rw [hleft] at hfirst
      obtain ⟨log, hlog, hrun⟩ := hx.raises asked e hfirst
      exact ⟨log, hlog.trans (List.prefix_append _ _), bind_eq_error.2 (.inl hrun)⟩
    · rw [hleft] at ha
      rw [hright] at hrest
      obtain ⟨log, hlog, hrun⟩ := (hk a).raises _ e hrest
      refine ⟨questions ++ log, (List.prefix_append_right_inj _).2 hlog, ?_⟩
      rw [← List.append_assoc]
      exact bind_eq_error.2 (.inr ⟨a, _, hx.returns asked a ha, hrun⟩)

/-- A loop of interviews. -/
theorem Asks.mapM {γ : Type} {f : γ → EStateM ε (List κ) α} {questions : γ → List κ}
    {outcome : γ → (κ → ρ) → Except ε α} {xs : List γ}
    (h : ∀ x ∈ xs, Asks respond (f x) (questions x) (outcome x))
    (hnodup : (xs.flatMap questions).Nodup) :
    Asks respond (xs.mapM f) (xs.flatMap questions) fun g => xs.mapM fun x => outcome x g := by
  induction xs with
  | nil => exact asks_pure []
  | cons x xs ih =>
      obtain ⟨hx, hxs⟩ := List.forall_mem_cons.1 h
      rw [List.flatMap_cons] at hnodup ⊢
      obtain ⟨-, hnodup, hdisjoint⟩ := List.nodup_append.1 hnodup
      have hrest := ih hxs hnodup
      simp only [List.mapM_cons]
      refine hx.bind (fun a => ?_) fun q hq hq' => hdisjoint q hq' q hq rfl
      have hdone := hrest.bind (fun as => asks_pure (a :: as)) fun q hq => absurd hq List.not_mem_nil
      rwa [List.append_nil] at hdone

/-! ### What is asked -/

/-- However it ends, a prefix of the questions has been asked. -/
theorem Asks.final_log {x : EStateM ε (List κ) α} {outcome : (κ → ρ) → Except ε α}
    (h : Asks respond x questions outcome) (asked : List κ) :
    ∃ log, log <+: questions ∧ final x asked = asked ++ log := by
  cases hout : outcome (answers respond asked questions) with
  | ok a => exact ⟨questions, List.prefix_refl _, final_of_ok (h.returns asked a hout)⟩
  | error e =>
      obtain ⟨log, hlog, hrun⟩ := h.raises asked e hout
      exact ⟨log, hlog, final_of_error hrun⟩

/-- The computation returns exactly what the outcome is. -/
theorem Asks.run_eq_ok {x : EStateM ε (List κ) α} {outcome : (κ → ρ) → Except ε α}
    (h : Asks respond x questions outcome) {asked log : List κ} {a : α} :
    x.run asked = .ok a log ↔
      outcome (answers respond asked questions) = .ok a ∧ log = asked ++ questions := by
  constructor
  · intro hrun
    cases hout : outcome (answers respond asked questions) with
    | ok b =>
        rw [h.returns asked b hout] at hrun
        cases hrun
        exact ⟨rfl, rfl⟩
    | error e =>
        obtain ⟨log', -, herror⟩ := h.raises asked e hout
        rw [herror] at hrun
        cases hrun
  · rintro ⟨hout, rfl⟩
    exact h.returns asked a hout

/-- And raises what the outcome is. -/
theorem Asks.eq_of_run_eq_error {x : EStateM ε (List κ) α} {outcome : (κ → ρ) → Except ε α}
    (h : Asks respond x questions outcome) {asked log : List κ} {e : ε}
    (hrun : x.run asked = .error e log) : outcome (answers respond asked questions) = .error e := by
  cases hout : outcome (answers respond asked questions) with
  | ok b =>
      rw [h.returns asked b hout] at hrun
      cases hrun
  | error e' =>
      obtain ⟨log', -, herror⟩ := h.raises asked e' hout
      rw [herror] at hrun
      cases hrun
      rfl

end

end Interview
end Library
