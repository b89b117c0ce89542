/-
# Polling clients

A client keeps a view of something it asks a server for.  It numbers its requests;
a new request aborts the one before, and a poll is skipped while the in-flight
marker is set.  Requests complete in any order, an aborted one possibly with its
answer all the same, and a list of events is one interleaving of what the client
does and what happens to its requests.

`Client.protocol` says what holds of every run of a client whose handlers keep
what is shown: only the latest request moves the view; while the client is mounted
the marker is set exactly while the latest request is unanswered
(`Invariant.outstanding_iff`), so that polling is never blocked for good; and what
is shown stays shown and does not go back.
-/

import Mathlib.Data.List.Nodup
import Mathlib.Data.Nat.Notation

namespace Library
namespace Polling

/-- How a request completes. -/
inductive Reply (ρ ε : Type)
  | success (response : ρ)
  | failure (error : ε)
  | aborted
  deriving DecidableEq

/-- A request that has not completed. -/
structure Request where
  number : ℕ
  background : Bool
  aborted : Bool
  deriving DecidableEq, Repr

/-- Only an aborted request completes as aborted. -/
def Request.mayEnd {ρ ε : Type} (request : Request) : Reply ρ ε → Bool
  | .aborted => request.aborted
  | _ => true

inductive Event (ρ ε : Type)
  | mount
  | unmount
  | refresh
  | poll
  | complete (number : ℕ) (reply : Reply ρ ε)
  deriving DecidableEq

/-- What a client makes of its view. -/
structure Client (V ρ ε : Type) where
  onRefresh : V → V
  onSuccess : ρ → V → V
  onFailure : (background : Bool) → ε → V → V

/-- A client's view and its bookkeeping, with the requests that have not completed. -/
structure State (V : Type) where
  view : V
  requestId : ℕ
  inFlightId : Option ℕ
  abortController : Option ℕ
  isMounted : Bool
  pending : List Request
  deriving DecidableEq, Repr

variable {V ρ ε : Type}

/-- A client before it is mounted for the first time. -/
def initial (view : V) : State V := ⟨view, 0, none, none, true, []⟩

/-- Abort the request whose controller is held. -/
def abort (s : State V) : State V :=
  { s with pending := s.pending.map fun request =>
      { request with aborted := request.aborted || s.abortController == some request.number } }

/-- Abort the request before and issue a new one. -/
def beginNewRequest (background : Bool) (s : State V) : State V :=
  { abort s with
    requestId := s.requestId + 1
    inFlightId := some (s.requestId + 1)
    abortController := some (s.requestId + 1)
    pending := (abort s).pending ++ [⟨s.requestId + 1, background, false⟩] }

/-- Whether the completion of a request still counts. -/
def isCurrent (s : State V) (number : ℕ) : Bool := s.isMounted && s.requestId == number

/-- Clear the marker if it is this request's. -/
def settle (number : ℕ) (s : State V) : State V :=
  { s with inFlightId := if s.inFlightId = some number then none else s.inFlightId }

/-- What the completion of a current request does. -/
def answer (client : Client V ρ ε) (request : Request) (s : State V) : Reply ρ ε → State V
  | .success response =>
    { settle request.number s with view := client.onSuccess response s.view }
  | .failure error =>
    { settle request.number s with view := client.onFailure request.background error s.view }
  | .aborted => s

/-- What a completed request does. -/
def handle (client : Client V ρ ε) (request : Request) (reply : Reply ρ ε) (s : State V) :
    State V :=
  if isCurrent s request.number then answer client request s reply else s

/-- A request completes, if it is there and can complete so. -/
def complete (client : Client V ρ ε) (number : ℕ) (reply : Reply ρ ε) (s : State V) : State V :=
  match s.pending.find? fun request => request.number == number with
  | none => s
  | some request =>
    if request.mayEnd reply then
      handle client request reply
        { s with pending := s.pending.filter fun request => request.number != number }
    else s

def step (client : Client V ρ ε) (s : State V) : Event ρ ε → State V
  | .mount => beginNewRequest false { s with isMounted := true }
  | .unmount => abort { s with isMounted := false }
  | .refresh => beginNewRequest false { s with view := client.onRefresh s.view }
  | .poll => if s.inFlightId = none then beginNewRequest true s else s
  | .complete number reply => complete client number reply s

/-- The events in order. -/
def run (client : Client V ρ ε) (s : State V) (events : List (Event ρ ε)) : State V :=
  events.foldl (step client) s

theorem run_concat (client : Client V ρ ε) (s : State V) (events : List (Event ρ ε))
    (event : Event ρ ε) :
    run client s (events ++ [event]) = step client (run client s events) event := by
  rw [run, List.foldl_append]
  rfl

/-- The latest request has not completed. -/
def Outstanding (s : State V) : Prop := ∃ request ∈ s.pending, request.number = s.requestId

instance (s : State V) : Decidable (Outstanding s) := by
  unfold Outstanding
  infer_instance

/-! ### The view -/

/-- What a completed request does to the view, and when it leaves the marker. -/
theorem handle_view (client : Client V ρ ε) (request : Request) (reply : Reply ρ ε) (s : State V) :
    ((handle client request reply s).view = s.view ∧
        (handle client request reply s).inFlightId = s.inFlightId) ∨
      (isCurrent s request.number = true ∧
        ((∃ response, reply = .success response ∧
            (handle client request reply s).view = client.onSuccess response s.view) ∨
          ∃ error, reply = .failure error ∧ (handle client request reply s).view =
            client.onFailure request.background error s.view)) := by
  by_cases hcurrent : isCurrent s request.number = true
  · rw [handle, if_pos hcurrent]
    cases reply with
    | success response => exact .inr ⟨hcurrent, .inl ⟨response, rfl, rfl⟩⟩
    | failure error => exact .inr ⟨hcurrent, .inr ⟨error, rfl, rfl⟩⟩
    | aborted => exact .inl ⟨rfl, rfl⟩
  · left
    rw [handle, if_neg hcurrent]
    exact ⟨rfl, rfl⟩

/-- A completion that changes nothing, or one that is handled. -/
theorem complete_cases (client : Client V ρ ε) (number : ℕ) (reply : Reply ρ ε) (s : State V) :
    complete client number reply s = s ∨ ∃ request ∈ s.pending, request.number = number ∧
      request.mayEnd reply = true ∧ complete client number reply s = handle client request reply
        { s with pending := s.pending.filter fun request => request.number != number } := by
  cases hfind : s.pending.find? fun request => request.number == number with
  | none =>
      left
      rw [complete, hfind]
  | some request =>
      by_cases hend : request.mayEnd reply = true
      · refine .inr ⟨request, List.mem_of_find?_eq_some hfind, ?_, hend, ?_⟩
        · have hnumber := List.find?_some hfind
          exact beq_iff_eq.1 hnumber
        · rw [complete, hfind]
          exact if_pos hend
      · left
        rw [complete, hfind]
        exact if_neg hend

/-- **What a completion does to the view.**  Nothing, or the latest request of a
mounted client was answered. -/
theorem complete_view (client : Client V ρ ε) (number : ℕ) (reply : Reply ρ ε) (s : State V) :
    ((complete client number reply s).view = s.view ∧
        (complete client number reply s).inFlightId = s.inFlightId) ∨
      ((s.isMounted = true ∧ s.requestId = number) ∧
        ((∃ response, reply = .success response ∧
            (complete client number reply s).view = client.onSuccess response s.view) ∨
          ∃ background error, reply = .failure error ∧
            (complete client number reply s).view = client.onFailure background error s.view)) := by
  rcases complete_cases client number reply s with hsame | ⟨request, -, rfl, -, hhandle⟩
  · left
    rw [hsame]
    exact ⟨rfl, rfl⟩
  · rw [hhandle]
    rcases handle_view client request reply
        { s with pending := s.pending.filter fun r => r.number != request.number } with
      hview | ⟨hcurrent, hview⟩
    · exact .inl hview
    · rw [isCurrent, Bool.and_eq_true, beq_iff_eq] at hcurrent
      refine .inr ⟨hcurrent, hview.imp_right ?_⟩
      rintro ⟨error, hreply, hfailure⟩
      exact ⟨request.background, error, hreply, hfailure⟩

/-! ### The bookkeeping -/

/-- What ties the marker to the requests that have not completed. -/
structure Invariant (s : State V) : Prop where
  marker : s.inFlightId = none ∨ s.inFlightId = some s.requestId
  numbers : ∀ request ∈ s.pending, request.number ≤ s.requestId
  outstanding : s.isMounted = true → (s.inFlightId ≠ none ↔ Outstanding s)
  live : s.isMounted = true → ∀ request ∈ s.pending, request.number = s.requestId →
    request.aborted = false

theorem mem_abort {s : State V} {request : Request} (h : request ∈ (abort s).pending) :
    ∃ before ∈ s.pending, before.number = request.number := by
  obtain ⟨before, hbefore, rfl⟩ := List.mem_map.1 h
  exact ⟨before, hbefore, rfl⟩

theorem outstanding_abort (s : State V) : Outstanding (abort s) ↔ Outstanding s := by
  constructor
  · rintro ⟨request, hmem, hnumber⟩
    obtain ⟨before, hbefore, hsame⟩ := mem_abort hmem
    exact ⟨before, hbefore, hsame.trans hnumber⟩
  · rintro ⟨request, hmem, hnumber⟩
    exact ⟨_, List.mem_map_of_mem hmem, hnumber⟩

theorem outstanding_beginNewRequest (background : Bool) (s : State V) :
    Outstanding (beginNewRequest background s) :=
  ⟨_, List.mem_append_right _ (List.mem_singleton_self _), rfl⟩

/-- A new request restores the invariant, whatever the marker was. -/
theorem invariant_beginNewRequest (background : Bool) {s : State V}
    (hnumbers : ∀ request ∈ s.pending, request.number ≤ s.requestId) :
    Invariant (beginNewRequest background s) := by
  have hcases : ∀ request ∈ (beginNewRequest background s).pending,
      request.number ≤ s.requestId ∨ request = ⟨s.requestId + 1, background, false⟩ := by
    intro request hmem
    rcases List.mem_append.1 hmem with hold | hnew
    · obtain ⟨before, hbefore, hsame⟩ := mem_abort hold
      have hle := hnumbers before hbefore
      exact .inl (by omega)
    · exact .inr (List.mem_singleton.1 hnew)
  refine ⟨.inr rfl, fun request hmem => ?_, fun _ => ?_, fun _ request hmem hnumber => ?_⟩
  · show request.number ≤ s.requestId + 1
    rcases hcases request hmem with hle | rfl
    · omega
    · exact Nat.le_refl _
  · exact iff_of_true (Option.some_ne_none _) (outstanding_beginNewRequest background s)
  · have hlatest : request.number = s.requestId + 1 := hnumber
    rcases hcases request hmem with hle | rfl
    · omega
    · rfl

theorem mem_completed {s : State V} {number : ℕ} {request : Request} :
    (request ∈ s.pending.filter fun request => request.number != number) ↔
      request ∈ s.pending ∧ request.number ≠ number := by
  rw [List.mem_filter, bne_iff_ne]

/-- The latest request of a mounted client is gone: the marker is cleared. -/
theorem invariant_handle (client : Client V ρ ε) {s : State V} (h : Invariant s)
    {request : Request} (hmem : request ∈ s.pending) {reply : Reply ρ ε}
    (hend : request.mayEnd reply = true) :
    Invariant (handle client request reply
      { s with pending := s.pending.filter fun r => r.number != request.number }) := by
  -- Every other field of the handled state is that of the state before.
  have hnumbers : ∀ r ∈ s.pending.filter fun r => r.number != request.number,
      r.number ≤ s.requestId := fun r hr => h.numbers r (mem_completed.1 hr).1
  by_cases hcurrent : s.isMounted = true ∧ s.requestId = request.number
  · obtain ⟨hmounted, hlatest⟩ := hcurrent
    have hcleared : (if s.inFlightId = some request.number then none else s.inFlightId) = none := by
      rcases h.marker with hnone | hsome
      · rw [hnone]
        rfl
      · rw [hsome, hlatest]
        exact if_pos rfl
    have hgone : ¬ ∃ r ∈ s.pending.filter (fun r => r.number != request.number),
        r.number = s.requestId := by
      rintro ⟨r, hr, hnumber⟩
      exact (mem_completed.1 hr).2 (hnumber.trans hlatest)
    have hlive := h.live hmounted request hmem hlatest.symm
    have hcur : isCurrent { s with pending := s.pending.filter fun r => r.number != request.number }
        request.number = true := by
      rw [isCurrent, Bool.and_eq_true, beq_iff_eq]
      exact ⟨hmounted, hlatest⟩
    rw [handle, if_pos hcur]
    cases reply with
    | aborted =>
        rw [Request.mayEnd, hlive] at hend
        cases hend
    | success response =>
        exact ⟨.inl hcleared, hnumbers, fun _ => iff_of_false (fun hne => hne hcleared) hgone,
          fun _ r hr hnumber => absurd ⟨r, hr, hnumber⟩ hgone⟩
    | failure error =>
        exact ⟨.inl hcleared, hnumbers, fun _ => iff_of_false (fun hne => hne hcleared) hgone,
          fun _ r hr hnumber => absurd ⟨r, hr, hnumber⟩ hgone⟩
  · have hcur : isCurrent { s with pending := s.pending.filter fun r => r.number != request.number }
        request.number = true → False := by
      rw [isCurrent, Bool.and_eq_true, beq_iff_eq]
      exact hcurrent
    rw [handle, if_neg hcur]
    refine ⟨h.marker, hnumbers, fun hmounted => ?_, fun hmounted r hr hnumber =>
      h.live hmounted r (mem_completed.1 hr).1 hnumber⟩
    have hother : s.requestId ≠ request.number := fun heq => hcurrent ⟨hmounted, heq⟩
    refine (h.outstanding hmounted).trans ⟨?_, ?_⟩
    · rintro ⟨r, hr, hnumber⟩
      exact ⟨r, mem_completed.2 ⟨hr, fun heq => hother (hnumber.symm.trans heq)⟩, hnumber⟩
    · rintro ⟨r, hr, hnumber⟩
      exact ⟨r, (mem_completed.1 hr).1, hnumber⟩

theorem invariant_initial (view : V) : Invariant (initial view) :=
  ⟨.inl rfl, fun _ h => absurd h List.not_mem_nil,
    fun _ => iff_of_false (fun h => h rfl) fun ⟨_, h, _⟩ => absurd h List.not_mem_nil,
    fun _ _ h => absurd h List.not_mem_nil⟩

/-- Every event keeps the invariant. -/
theorem invariant_step (client : Client V ρ ε) {s : State V} (h : Invariant s)
    (event : Event ρ ε) : Invariant (step client s event) := by
  cases event with
  | mount => exact invariant_beginNewRequest false h.numbers
  | refresh => exact invariant_beginNewRequest false h.numbers
  | poll =>
      by_cases hidle : s.inFlightId = none
      · rw [step, if_pos hidle]
        exact invariant_beginNewRequest true h.numbers
      · rw [step, if_neg hidle]
        exact h
  | unmount =>
      have hunmounted : (step client s .unmount).isMounted ≠ true := Bool.false_ne_true
      refine ⟨h.marker, fun request hmem => ?_, fun hm => absurd hm hunmounted,
        fun hm => absurd hm hunmounted⟩
      obtain ⟨before, hbefore, hsame⟩ := mem_abort hmem
      rw [← hsame]
      exact h.numbers before hbefore
  | complete number reply =>
      show Invariant (complete client number reply s)
      rcases complete_cases client number reply s with hsame | ⟨request, hmem, rfl, hend, hhandle⟩
      · rw [hsame]
        exact h
      · rw [hhandle]
        exact invariant_handle client h hmem hend

/-- The invariant holds in every run. -/
theorem invariant_run (client : Client V ρ ε) {s : State V} (h : Invariant s)
    (events : List (Event ρ ε)) : Invariant (run client s events) := by
  induction events generalizing s with
  | nil => exact h
  | cons event events ih => exact ih (invariant_step client h event)

/-- **Polling is skipped exactly while the latest request is unanswered.** -/
theorem poll_skipped_iff (client : Client V ρ ε) {s : State V} (h : Invariant s)
    (hmounted : s.isMounted = true) : step client s .poll = s ↔ Outstanding s := by
  rw [← h.outstanding hmounted]
  by_cases hidle : s.inFlightId = none
  · rw [step, if_pos hidle]
    refine iff_of_false (fun heq => ?_) fun hne => hne hidle
    have hnumber : s.requestId + 1 = s.requestId := congrArg State.requestId heq
    omega
  · rw [step, if_neg hidle]
    exact iff_of_true rfl hidle

/-- The answer to the latest request clears the marker. -/
theorem answer_inFlightId (client : Client V ρ ε) {s : State V} {request : Request}
    (hmarker : s.inFlightId = none ∨ s.inFlightId = some request.number) {reply : Reply ρ ε}
    (hreply : reply ≠ .aborted) : (answer client request s reply).inFlightId = none := by
  have hcleared : (settle request.number s).inFlightId = none := by
    rcases hmarker with hnone | hsome
    · rw [settle, hnone]
      rfl
    · rw [settle, hsome]
      exact if_pos rfl
  cases reply with
  | success response => exact hcleared
  | failure error => exact hcleared
  | aborted => exact absurd rfl hreply

/-- **The answer to the latest request frees the next poll.** -/
theorem complete_frees (client : Client V ρ ε) {s : State V} (h : Invariant s)
    (hmounted : s.isMounted = true) (houtstanding : Outstanding s) {reply : Reply ρ ε}
    (hreply : reply ≠ .aborted) :
    (step client s (.complete s.requestId reply)).inFlightId = none := by
  obtain ⟨request, hmem, hlatest⟩ := houtstanding
  have hsome : (s.pending.find? fun r => r.number == s.requestId).isSome = true :=
    List.find?_isSome.2 ⟨request, hmem, beq_iff_eq.2 hlatest⟩
  obtain ⟨found, hfind⟩ := Option.isSome_iff_exists.1 hsome
  have hnumber : found.number = s.requestId := by
    have hfound := List.find?_some hfind
    exact beq_iff_eq.1 hfound
  have hend : found.mayEnd reply = true := by
    cases reply with
    | success response => rfl
    | failure error => rfl
    | aborted => exact absurd rfl hreply
  show (complete client s.requestId reply s).inFlightId = none
  rw [complete, hfind]
  simp only [hend, if_true]
  rw [handle, if_pos]
  · refine answer_inFlightId client ?_ hreply
    rw [hnumber]
    exact h.marker
  · rw [isCurrent, Bool.and_eq_true, beq_iff_eq, hnumber]
    exact ⟨hmounted, rfl⟩

/-! ### The latest request -/

theorem handle_frame (client : Client V ρ ε) (request : Request) (reply : Reply ρ ε) (s : State V) :
    (handle client request reply s).requestId = s.requestId ∧
      (handle client request reply s).pending = s.pending := by
  unfold handle
  split
  · cases reply <;> exact ⟨rfl, rfl⟩
  · exact ⟨rfl, rfl⟩

/-- A mounted client stays mounted until it is unmounted. -/
theorem step_isMounted (client : Client V ρ ε) {s : State V} (h : s.isMounted = true)
    {event : Event ρ ε} (hevent : event ≠ .unmount) : (step client s event).isMounted = true := by
  cases event with
  | mount => rfl
  | unmount => exact absurd rfl hevent
  | refresh => exact h
  | poll =>
      rw [step]
      split
      · exact h
      · exact h
  | complete number reply =>
      show (complete client number reply s).isMounted = true
      rcases complete_cases client number reply s with hsame | ⟨request, -, -, -, hhandle⟩
      · rw [hsame]
        exact h
      · rw [hhandle, handle]
        split
        · cases reply <;> exact h
        · exact h

/-- A step issues a new request, or no request is outstanding that was not. -/
theorem step_requestId (client : Client V ρ ε) (s : State V) (event : Event ρ ε) :
    (step client s event).requestId = s.requestId + 1 ∨
      ((step client s event).requestId = s.requestId ∧
        (Outstanding (step client s event) → Outstanding s)) := by
  cases event with
  | mount => exact .inl rfl
  | unmount => exact .inr ⟨rfl, fun h => (outstanding_abort s).1 h⟩
  | refresh => exact .inl rfl
  | poll =>
      rw [step]
      split
      · exact .inl rfl
      · exact .inr ⟨rfl, id⟩
  | complete number reply =>
      right
      show (complete client number reply s).requestId = s.requestId ∧
        (Outstanding (complete client number reply s) → Outstanding s)
      rcases complete_cases client number reply s with hsame | ⟨request, -, -, -, hhandle⟩
      · rw [hsame]
        exact ⟨rfl, id⟩
      · rw [hhandle, Outstanding, (handle_frame client request reply _).1,
          (handle_frame client request reply _).2]
        refine ⟨rfl, ?_⟩
        rintro ⟨r, hr, hnumber⟩
        exact ⟨r, (mem_completed.1 hr).1, hnumber⟩

/-- **A completion that changes the view** answers the latest request, and leaves none
outstanding. -/
theorem complete_outstanding (client : Client V ρ ε) (number : ℕ) (reply : Reply ρ ε)
    (s : State V) : (complete client number reply s).view = s.view ∨
      (s.requestId = number ∧ Outstanding s ∧ ¬ Outstanding (complete client number reply s) ∧
        ((∃ response, reply = .success response ∧
            (complete client number reply s).view = client.onSuccess response s.view) ∨
          ∃ background error, reply = .failure error ∧
            (complete client number reply s).view = client.onFailure background error s.view)) := by
  rcases complete_cases client number reply s with hsame | ⟨request, hmem, rfl, -, hhandle⟩
  · exact .inl (congrArg State.view hsame)
  · obtain ⟨hid, hpending⟩ := handle_frame client request reply
      { s with pending := s.pending.filter fun r => r.number != request.number }
    rw [hhandle]
    rcases handle_view client request reply
        { s with pending := s.pending.filter fun r => r.number != request.number } with
      ⟨hview, -⟩ | ⟨hcurrent, hview⟩
    · exact .inl hview
    · rw [isCurrent, Bool.and_eq_true, beq_iff_eq] at hcurrent
      refine .inr ⟨hcurrent.2, ⟨request, hmem, hcurrent.2.symm⟩, ?_, hview.imp_right ?_⟩
      · rintro ⟨r, hr, hnumber⟩
        rw [hpending] at hr
        exact (mem_completed.1 hr).2 ((hnumber.trans hid).trans hcurrent.2)
      · rintro ⟨error, hreply, hfailure⟩
        exact ⟨request.background, error, hreply, hfailure⟩

/-- The response to the latest request is taken in. -/
theorem complete_success (client : Client V ρ ε) {s : State V} (hmounted : s.isMounted = true)
    (h : Outstanding s) (response : ρ) :
    (complete client s.requestId (.success response) s).view = client.onSuccess response s.view := by
  obtain ⟨request, hmem, hnumber⟩ := h
  have hsome : (s.pending.find? fun r => r.number == s.requestId).isSome = true :=
    List.find?_isSome.2 ⟨request, hmem, beq_iff_eq.2 hnumber⟩
  obtain ⟨found, hfind⟩ := Option.isSome_iff_exists.1 hsome
  have hfound := List.find?_some hfind
  have hend : found.mayEnd (Reply.success response : Reply ρ ε) = true := rfl
  rw [complete, hfind]
  simp only [hend, if_true]
  rw [handle, if_pos]
  · rfl
  · rw [isCurrent, Bool.and_eq_true, beq_iff_eq, beq_iff_eq.1 hfound]
    exact ⟨hmounted, rfl⟩

/-! ### What is shown -/

variable {δ : Type}

/-- The handlers of a client that keeps what it shows: a refresh and a failure leave
it, and a response only moves it forward.  A handled completion leaves the view idle. -/
structure Client.Keeps (client : Client V ρ ε) (shown : V → Option δ) (notBefore : δ → δ → Prop)
    (busy : V → Bool) : Prop where
  refl : ∀ data, notBefore data data
  trans : ∀ a b c, notBefore a b → notBefore b c → notBefore a c
  refresh : ∀ view, shown (client.onRefresh view) = shown view
  success : ∀ response view data, shown view = some data →
    ∃ data', shown (client.onSuccess response view) = some data' ∧ notBefore data data'
  failure : ∀ background error view data, shown view = some data →
    shown (client.onFailure background error view) = some data
  success_idle : ∀ response view, busy (client.onSuccess response view) = false
  failure_idle : ∀ background error view, busy (client.onFailure background error view) = false

section Keeps

variable {client : Client V ρ ε} {shown : V → Option δ} {notBefore : δ → δ → Prop}
  {busy : V → Bool}

/-- A failed request leaves what is shown. -/
theorem Client.Keeps.complete_failure (hkeeps : client.Keeps shown notBefore busy) {s : State V}
    {data : δ} (h : shown s.view = some data) (number : ℕ) (error : ε) :
    shown (step client s (.complete number (.failure error))).view = some data := by
  show shown (complete client number (.failure error) s).view = some data
  rcases complete_view client number (.failure error) s with
    ⟨hview, -⟩ | ⟨-, ⟨response, hreply, -⟩ | ⟨background, error', -, hview⟩⟩
  · rw [hview]
    exact h
  · cases hreply
  · rw [hview]
    exact hkeeps.failure background error' s.view data h

/-- What is shown stays shown, and does not go back. -/
theorem Client.Keeps.step_shown (hkeeps : client.Keeps shown notBefore busy) {s : State V}
    {data : δ} (h : shown s.view = some data) (event : Event ρ ε) :
    ∃ data', shown (step client s event).view = some data' ∧ notBefore data data' := by
  have hsame : ∀ s' : State V, shown s'.view = shown s.view →
      ∃ data', shown s'.view = some data' ∧ notBefore data data' := fun s' hs' =>
    ⟨data, hs'.trans h, hkeeps.refl data⟩
  cases event with
  | mount => exact hsame _ rfl
  | unmount => exact hsame _ rfl
  | refresh => exact hsame _ (hkeeps.refresh s.view)
  | poll =>
      refine hsame _ ?_
      rw [step]
      split
      · rfl
      · rfl
  | complete number reply =>
      show ∃ data', shown (complete client number reply s).view = some data' ∧ notBefore data data'
      rcases complete_view client number reply s with
        ⟨hview, -⟩ | ⟨-, ⟨response, -, hview⟩ | ⟨background, error, -, hview⟩⟩
      · rw [hview]
        exact hsame s rfl
      · rw [hview]
        exact hkeeps.success response s.view data h
      · rw [hview]
        exact ⟨data, hkeeps.failure background error s.view data h, hkeeps.refl data⟩

theorem Client.Keeps.run_shown (hkeeps : client.Keeps shown notBefore busy) {s : State V}
    {data : δ} (h : shown s.view = some data) (events : List (Event ρ ε)) :
    ∃ data', shown (run client s events).view = some data' ∧ notBefore data data' := by
  induction events generalizing s data with
  | nil => exact ⟨data, h, hkeeps.refl data⟩
  | cons event events ih =>
      obtain ⟨next, hnext, hle⟩ := hkeeps.step_shown h event
      obtain ⟨last, hlast, hle'⟩ := ih hnext
      exact ⟨last, hlast, hkeeps.trans data next last hle hle'⟩

/-- A busy view has the marker set. -/
theorem Client.Keeps.step_busy (hkeeps : client.Keeps shown notBefore busy) {s : State V}
    (h : busy s.view = true → s.inFlightId ≠ none) (event : Event ρ ε) :
    busy (step client s event).view = true → (step client s event).inFlightId ≠ none := by
  cases event with
  | mount => exact fun _ => Option.some_ne_none _
  | unmount => exact h
  | refresh => exact fun _ => Option.some_ne_none _
  | poll =>
      rw [step]
      split
      · exact fun _ => Option.some_ne_none _
      · exact h
  | complete number reply =>
      show busy (complete client number reply s).view = true →
        (complete client number reply s).inFlightId ≠ none
      intro hbusy
      rcases complete_view client number reply s with
        ⟨hview, hmarker⟩ | ⟨-, ⟨response, -, hview⟩ | ⟨background, error, -, hview⟩⟩
      · rw [hview] at hbusy
        rw [hmarker]
        exact h hbusy
      · rw [hview, hkeeps.success_idle] at hbusy
        cases hbusy
      · rw [hview, hkeeps.failure_idle] at hbusy
        cases hbusy

theorem Client.Keeps.run_busy (hkeeps : client.Keeps shown notBefore busy) {s : State V}
    (h : busy s.view = true → s.inFlightId ≠ none) (events : List (Event ρ ε)) :
    busy (run client s events).view = true → (run client s events).inFlightId ≠ none := by
  induction events generalizing s with
  | nil => exact h
  | cons event events ih => exact ih (hkeeps.step_busy h event)

end Keeps

/-- What a polling client does in a state that it reaches. -/
structure Protocol (client : Client V ρ ε) (shown : V → Option δ) (notBefore : δ → δ → Prop)
    (busy : V → Bool) (s : State V) : Prop where
  /-- Only the completion of the latest request of a mounted client changes the view. -/
  latest_only : ∀ number reply, (step client s (.complete number reply)).view ≠ s.view →
    s.isMounted = true ∧ s.requestId = number
  /-- The marker is set exactly while the latest request is unanswered. -/
  marker_iff : s.isMounted = true → (s.inFlightId ≠ none ↔ Outstanding s)
  /-- A poll is skipped exactly then. -/
  poll_skipped_iff : s.isMounted = true → (step client s .poll = s ↔ Outstanding s)
  /-- However the latest request completes, the next poll is not skipped. -/
  frees : s.isMounted = true → ∀ request ∈ s.pending, request.number = s.requestId →
    ∀ reply : Reply ρ ε, request.mayEnd reply = true →
      (step client s (.complete request.number reply)).inFlightId = none
  /-- What is shown stays shown from then on, and does not go back. -/
  stays : ∀ later data, shown s.view = some data →
    ∃ data', shown (run client s later).view = some data' ∧ notBefore data data'
  /-- A failed request leaves it as it is. -/
  failed : ∀ number error data, shown s.view = some data →
    shown (step client s (.complete number (.failure error))).view = some data
  /-- A busy view has the marker set, and while mounted a request outstanding. -/
  busy_marked : busy s.view = true → s.inFlightId ≠ none
  busy_outstanding : s.isMounted = true → busy s.view = true → Outstanding s

/-- **The polling protocol.**  A client that keeps what it shows follows it in every
run, from a view that is idle. -/
theorem Client.Keeps.protocol {client : Client V ρ ε} {shown : V → Option δ}
    {notBefore : δ → δ → Prop} {busy : V → Bool} (hkeeps : client.Keeps shown notBefore busy)
    {view : V} (hidle : busy view = false) (events : List (Event ρ ε)) :
    Protocol client shown notBefore busy (run client (initial view) events) := by
  have hinv := invariant_run client (invariant_initial view) events
  have hstart : busy (initial view).view = true → (initial view).inFlightId ≠ none := fun h =>
    absurd (hidle.symm.trans h) Bool.false_ne_true
  have hbusy := hkeeps.run_busy hstart events
  refine ⟨fun number reply hview => ?_, hinv.outstanding, fun hm => poll_skipped_iff client hinv hm,
    fun hm request hmem hlatest reply hend => ?_, fun later data h => hkeeps.run_shown h later,
    fun number error data h => hkeeps.complete_failure h number error, hbusy,
    fun hm h => (hinv.outstanding hm).1 (hbusy h)⟩
  · rcases complete_view client number reply (run client (initial view) events) with
      ⟨hsame, -⟩ | ⟨hcurrent, -⟩
    · exact absurd hsame hview
    · exact hcurrent
  · rw [hlatest]
    refine complete_frees client hinv hm ⟨request, hmem, hlatest⟩ fun haborted => ?_
    rw [haborted, Request.mayEnd, hinv.live hm request hmem hlatest] at hend
    cases hend

end Polling
end Library
