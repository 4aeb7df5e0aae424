import Aqap.Async.Co

/-!
# Requests that are coroutines themselves

In `c.subst h`, an await of `q` runs the coroutine `h q`: its awaits take the place of the request, and the
way in which it ends is the answer.

* `run_subst`: a run of `c.subst h` is a run of `c` whose events are expanded (`Expand`), each into a run
  of the coroutine that answered it.
* `Expand.mem`, `Expand.segment`: from an expanded event to its request, and back.
* `run_inr`: a coroutine whose requests are one side of a sum.
-/

namespace Async

/-- The event, on the right side of a sum of requests. -/
def Event.inr {σ Q Q' : Type} {A : Q → Type} {A' : Q' → Type} (ev : Event σ Q A) :
    Event σ (Q' ⊕ Q) (Sum.elim A' A) := ⟨.inr ev.req, ev.ans, ev.resumed⟩

namespace Co

variable {σ Q Q' : Type} {A : Q → Type} {A' : Q' → Type} {α β : Type}

/-- How a coroutine ends, as a value. -/
def outcome : Co σ Q A α → Co σ Q A (Except Exc α)
  | ret a => ret (.ok a)
  | raise e => ret (.error e)
  | get k => get fun s => (k s).outcome
  | set s c => set s c.outcome
  | await q k => await q fun ans => (k ans).outcome

/-- The coroutine in which every request `q` is the coroutine `h q`. -/
def subst (h : (q : Q) → Co σ Q' A' (A q)) : Co σ Q A α → Co σ Q' A' α
  | ret a => ret a
  | raise e => raise e
  | get k => get fun s => (k s).subst h
  | set s c => set s (c.subst h)
  | await q k => (h q).outcome.bind fun ans => (k ans).subst h

/-- The coroutine, with its requests on the right side of a sum. -/
def inr : Co σ Q A α → Co σ (Q' ⊕ Q) (Sum.elim A' A) α
  | ret a => ret a
  | raise e => raise e
  | get k => get fun s => (k s).inr
  | set s c => set s c.inr
  | await q k => await (.inr q) fun ans => (k ans).inr

variable {R : σ → σ → Prop} {s s' : σ} {c : Co σ Q A α} {r : Except Exc α}

theorem run_outcome {tr : List (Event σ Q A)} {x : Except Exc (Except Exc α)} :
    Run R c.outcome s tr s' x ↔ ∃ r, Run R c s tr s' r ∧ x = .ok r := by
  induction c generalizing s tr with
  | ret a => simp [outcome, Run, and_assoc]
  | raise e => simp [outcome, Run, and_assoc]
  | get k ih => exact ih s
  | set s₁ c ih => exact ih
  | await q k ih =>
    constructor
    · rintro ⟨ans, s₁, t, rfl, hR, h⟩
      obtain ⟨r, hrun, rfl⟩ := (ih ans).mp h
      exact ⟨r, ⟨ans, s₁, t, rfl, hR, hrun⟩, rfl⟩
    · rintro ⟨r, ⟨ans, s₁, t, rfl, hR, h⟩, rfl⟩
      exact ⟨ans, s₁, t, rfl, hR, (ih ans).mpr ⟨r, h, rfl⟩⟩

/-- A run that starts with a coroutine whose outcome is the answer. -/
theorem run_outcome_bind {c : Co σ Q A β} {f : Except Exc β → Co σ Q A α}
    {tr : List (Event σ Q A)} :
    Run R (c.outcome.bind f) s tr s' r ↔
      ∃ ans t₁ s₁ t₂, Run R c s t₁ s₁ ans ∧ tr = t₁ ++ t₂ ∧ Run R (f ans) s₁ t₂ s' r := by
  refine run_bind.trans ⟨?_, ?_⟩
  · rintro (⟨e, h, rfl⟩ | ⟨ans, t₁, s₁, t₂, h, rfl, h₂⟩)
    · obtain ⟨_, -, ⟨⟩⟩ := run_outcome.mp h
    · obtain ⟨ans, h₁, ⟨⟩⟩ := run_outcome.mp h
      exact ⟨ans, t₁, s₁, t₂, h₁, rfl, h₂⟩
  · rintro ⟨ans, t₁, s₁, t₂, h, rfl, h₂⟩
    exact .inr ⟨ans, t₁, s₁, t₂, run_outcome.mpr ⟨ans, h, rfl⟩, rfl, h₂⟩

/-- The events `tr` are the events `evs`, with each request expanded into a run of its coroutine. -/
inductive Expand (R : σ → σ → Prop) (h : (q : Q) → Co σ Q' A' (A q)) :
    List (Event σ Q A) → List (Event σ Q' A') → Prop
  | nil : Expand R h [] []
  | cons {q : Q} {ans : Except Exc (A q)} {s₀ s₁ : σ} {seg tr : List (Event σ Q' A')}
      {evs : List (Event σ Q A)} : Run R (h q) s₀ seg s₁ ans → Expand R h evs tr →
      Expand R h (⟨q, ans, s₁⟩ :: evs) (seg ++ tr)

variable {h : (q : Q) → Co σ Q' A' (A q)} {tr : List (Event σ Q' A')} {evs : List (Event σ Q A)}

/-- **A run of `c.subst h`** is a run of `c`, with its events expanded. -/
theorem run_subst (hrun : Run R (c.subst h) s tr s' r) :
    ∃ evs, Run (fun _ _ => True) c s evs s' r ∧ Expand R h evs tr := by
  induction c generalizing s tr with
  | ret a =>
    obtain ⟨rfl, rfl, rfl⟩ := hrun
    exact ⟨[], ⟨rfl, rfl, rfl⟩, .nil⟩
  | raise e =>
    obtain ⟨rfl, rfl, rfl⟩ := hrun
    exact ⟨[], ⟨rfl, rfl, rfl⟩, .nil⟩
  | get k ih => exact ih s hrun
  | set s₁ c ih => exact ih hrun
  | await q k ih =>
    obtain ⟨ans, t₁, s₁, t₂, h₁, rfl, h₂⟩ := run_outcome_bind.mp hrun
    obtain ⟨evs, hevs, hexp⟩ := ih ans h₂
    exact ⟨_, ⟨ans, s₁, evs, rfl, trivial, hevs⟩, .cons h₁ hexp⟩

/-- An expanded event belongs to the run of a request. -/
theorem Expand.mem (he : Expand R h evs tr) : ∀ ev ∈ tr, ∃ q ans s₀ s₁ seg,
    (⟨q, ans, s₁⟩ : Event σ Q A) ∈ evs ∧ Run R (h q) s₀ seg s₁ ans ∧ ev ∈ seg := by
  induction he with
  | nil => exact fun _ h => absurd h List.not_mem_nil
  | cons hrun _ ih =>
    intro ev hev
    rcases List.mem_append.mp hev with hev | hev
    · exact ⟨_, _, _, _, _, List.mem_cons_self, hrun, hev⟩
    · obtain ⟨q, ans, s₀, s₁, seg, hmem, hseg⟩ := ih ev hev
      exact ⟨q, ans, s₀, s₁, seg, List.mem_cons_of_mem _ hmem, hseg⟩

/-- The run of a request is a part of the expanded events. -/
theorem Expand.segment (he : Expand R h evs tr) : ∀ ev ∈ evs,
    ∃ s₀ seg, Run R (h ev.req) s₀ seg ev.resumed ev.ans ∧ ∀ ev' ∈ seg, ev' ∈ tr := by
  induction he with
  | nil => exact fun _ h => absurd h List.not_mem_nil
  | cons hrun _ ih =>
    intro ev hev
    rcases List.mem_cons.mp hev with rfl | hev
    · exact ⟨_, _, hrun, fun _ h => List.mem_append_left _ h⟩
    · obtain ⟨s₀, seg, hseg, hsub⟩ := ih ev hev
      exact ⟨s₀, seg, hseg, fun ev' h => List.mem_append_right _ (hsub ev' h)⟩

/-- A run on one side of a sum of requests. -/
theorem run_inr {t : List (Event σ (Q' ⊕ Q) (Sum.elim A' A))} :
    Run R (c.inr : Co σ (Q' ⊕ Q) (Sum.elim A' A) α) s t s' r ↔
      ∃ evs, Run R c s evs s' r ∧ t = evs.map Event.inr := by
  induction c generalizing s t with
  | ret a => simp [inr, Run, and_comm]
  | raise e => simp [inr, Run, and_comm]
  | get k ih => exact ih s
  | set s₁ c ih => exact ih
  | await q k ih =>
    constructor
    · rintro ⟨ans, s₁, t₁, rfl, hR, hrun⟩
      obtain ⟨evs, hevs, rfl⟩ := (ih ans).mp hrun
      exact ⟨⟨q, ans, s₁⟩ :: evs, ⟨ans, s₁, evs, rfl, hR, hevs⟩, rfl⟩
    · rintro ⟨_, ⟨ans, s₁, evs, rfl, hR, hevs⟩, rfl⟩
      exact ⟨ans, s₁, _, rfl, hR, (ih ans).mpr ⟨evs, hevs, rfl⟩⟩

end Co

end Async
