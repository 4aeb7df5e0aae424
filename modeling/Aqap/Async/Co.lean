import Mathlib.Tactic.Common

/-!
# Coroutines on a shared state

`Co σ Q A α` is an `async` function of an event loop: between two awaits it reads and writes the
shared state `σ` without interruption; at an await it issues a request `q : Q`, and while it waits
the other tasks may change the state. The request is answered with a value of type `A q` or with an
exception, also with a cancellation of the task.

* `tryExcept`, `tryFinally`: Python's `try` statements. `except Exception` does not catch a
  cancellation; `finally` runs on every exit.
* `Run R c s tr s' r`: a run of `c` from the state `s` to its end, with the events `tr`; `R` relates
  the states before and after each await. `run_bind`, `run_tryExcept` and `run_tryFinally` take a run
  of a compound coroutine apart, `run_call` a single await.
* `Guarded I G ok c`: as long as `I` holds whenever `c` goes on, `c` keeps `I`, changes the state only as
  `G` allows, and issues only requests that satisfy `ok`. It has a rule for each way to build a
  coroutine; `Guarded.run` is about its runs.
* `exec`: the run of a coroutine when nothing else runs; whatever the requests are answered with, there
  is one (`run_exec`).
-/

namespace Async

/-- What a coroutine raises: an `Exception` with its text, or `CancelledError`. -/
inductive Exc where
  | error (text : String)
  | cancelled
  deriving DecidableEq, Repr

/-- A coroutine that returns a value of type `α`. -/
inductive Co (σ Q : Type) (A : Q → Type) (α : Type) where
  | ret (a : α)
  | raise (e : Exc)
  | get (k : σ → Co σ Q A α)
  | set (s : σ) (c : Co σ Q A α)
  | await (q : Q) (k : Except Exc (A q) → Co σ Q A α)

/-- An await that was answered: the request, the answer, and the state that the coroutine found when
it went on. -/
structure Event (σ Q : Type) (A : Q → Type) where
  req : Q
  ans : Except Exc (A req)
  resumed : σ

namespace Co

variable {σ Q : Type} {A : Q → Type} {α β : Type}

/-- The rest goes on with the result; an exception ends both. -/
protected def bind : Co σ Q A α → (α → Co σ Q A β) → Co σ Q A β
  | ret a, f => f a
  | raise e, _ => raise e
  | get k, f => get fun s => (k s).bind f
  | set s c, f => set s (c.bind f)
  | await q k, f => await q fun ans => (k ans).bind f

instance : Monad (Co σ Q A) where
  pure := ret
  bind := Co.bind

/-- Read a part of the state. -/
def read (f : σ → α) : Co σ Q A α := get fun s => ret (f s)

/-- Change the state. -/
def update (f : σ → σ) : Co σ Q A Unit := get fun s => set (f s) (ret ())

/-- The answer of an await, in the coroutine: its value, or the exception raised there. -/
def ofExcept : Except Exc α → Co σ Q A α
  | .ok a => ret a
  | .error e => raise e

/-- The result of code without awaits, in the coroutine: it can raise an exception, but it is never
cancelled. -/
def lift : Except String α → Co σ Q A α
  | .ok a => ret a
  | .error text => raise (.error text)

/-- `await q`. -/
def call (q : Q) : Co σ Q A (A q) := await q ofExcept

/-- `try: c` with `except Exception as e: h(str(e))`. -/
def tryExcept : Co σ Q A α → (String → Co σ Q A α) → Co σ Q A α
  | ret a, _ => ret a
  | raise (.error text), h => h text
  | raise .cancelled, _ => raise .cancelled
  | get k, h => get fun s => (k s).tryExcept h
  | set s c, h => set s (c.tryExcept h)
  | await q k, h => await q fun ans => (k ans).tryExcept h

/-- `try: c` with `finally: f`, where `f` sees how `c` ended. An exception of `f` replaces that of
`c`. -/
def tryFinally : Co σ Q A α → (Except Exc α → Co σ Q A Unit) → Co σ Q A α
  | ret a, f => (f (.ok a)).bind fun _ => ret a
  | raise e, f => (f (.error e)).bind fun _ => raise e
  | get k, f => get fun s => (k s).tryFinally f
  | set s c, f => set s (c.tryFinally f)
  | await q k, f => await q fun ans => (k ans).tryFinally f

/-- Binding is associative. -/
theorem bind_assoc {γ : Type} (c : Co σ Q A α) (f : α → Co σ Q A β) (g : β → Co σ Q A γ) :
    c >>= f >>= g = c >>= fun a => f a >>= g := by
  show (c.bind f).bind g = c.bind fun a => (f a).bind g
  induction c with
  | ret a => rfl
  | raise e => rfl
  | get k ih => exact congrArg get (funext ih)
  | set s c ih => exact congrArg (set s) ih
  | await q k ih => exact congrArg (await q) (funext ih)

/-! ## Runs -/

/-- A run of a coroutine from the state `s`: it ends in the state `s'` with the result `r`, after the
events `tr`. At an await the state changes as `R` allows. -/
def Run (R : σ → σ → Prop) :
    Co σ Q A α → σ → List (Event σ Q A) → σ → Except Exc α → Prop
  | ret a, s, tr, s', r => tr = [] ∧ s' = s ∧ r = .ok a
  | raise e, s, tr, s', r => tr = [] ∧ s' = s ∧ r = .error e
  | get k, s, tr, s', r => Run R (k s) s tr s' r
  | set s₁ c, _, tr, s', r => Run R c s₁ tr s' r
  | await q k, s, tr, s', r =>
      ∃ ans s₁ tr₁, tr = ⟨q, ans, s₁⟩ :: tr₁ ∧ R s s₁ ∧ Run R (k ans) s₁ tr₁ s' r

variable {R : σ → σ → Prop} {s s' : σ} {tr : List (Event σ Q A)} {c : Co σ Q A α} {r : Except Exc α}

@[simp] theorem run_pure {a : α} :
    Run R (pure a : Co σ Q A α) s tr s' r ↔ tr = [] ∧ s' = s ∧ r = .ok a := Iff.rfl

@[simp] theorem run_raise {e : Exc} :
    Run R (raise e : Co σ Q A α) s tr s' r ↔ tr = [] ∧ s' = s ∧ r = .error e := Iff.rfl

@[simp] theorem run_read {f : σ → α} :
    Run R (read f : Co σ Q A α) s tr s' r ↔ tr = [] ∧ s' = s ∧ r = .ok (f s) := Iff.rfl

@[simp] theorem run_update {f : σ → σ} {r : Except Exc Unit} :
    Run R (update f : Co σ Q A Unit) s tr s' r ↔ tr = [] ∧ s' = f s ∧ r = .ok () := Iff.rfl

@[simp] theorem run_ofExcept {x : Except Exc α} :
    Run R (ofExcept x : Co σ Q A α) s tr s' r ↔ tr = [] ∧ s' = s ∧ r = x := by
  cases x <;> exact Iff.rfl

theorem run_call {q : Q} {r : Except Exc (A q)} :
    Run R (call q : Co σ Q A (A q)) s tr s' r ↔ tr = [⟨q, r, s'⟩] ∧ R s s' := by
  constructor
  · rintro ⟨ans, s₁, tr₁, rfl, hR, h⟩
    obtain ⟨rfl, rfl, rfl⟩ := run_ofExcept.mp h
    exact ⟨rfl, hR⟩
  · rintro ⟨rfl, hR⟩
    exact ⟨r, s', [], rfl, hR, run_ofExcept.mpr ⟨rfl, rfl, rfl⟩⟩

@[simp] theorem run_pure_bind {a : α} {f : α → Co σ Q A β} {r : Except Exc β} :
    Run R (pure a >>= f) s tr s' r ↔ Run R (f a) s tr s' r := Iff.rfl

@[simp] theorem run_read_bind {g : σ → α} {f : α → Co σ Q A β} {r : Except Exc β} :
    Run R (read g >>= f) s tr s' r ↔ Run R (f (g s)) s tr s' r := Iff.rfl

@[simp] theorem run_update_bind {g : σ → σ} {f : Unit → Co σ Q A β} {r : Except Exc β} :
    Run R (update g >>= f) s tr s' r ↔ Run R (f ()) (g s) tr s' r := Iff.rfl

theorem run_ofExcept_bind {x : Except Exc α} {f : α → Co σ Q A β} {r : Except Exc β} :
    Run R (ofExcept x >>= f) s tr s' r ↔
      (∃ e, x = .error e ∧ tr = [] ∧ s' = s ∧ r = .error e) ∨
        ∃ a, x = .ok a ∧ Run R (f a) s tr s' r := by
  cases x with
  | ok a => exact ⟨fun h => .inr ⟨a, rfl, h⟩, by rintro (⟨_, ⟨⟩, _⟩ | ⟨_, ⟨⟩, h⟩); exact h⟩
  | error e => exact ⟨fun h => .inl ⟨e, rfl, h⟩, by rintro (⟨_, ⟨⟩, h⟩ | ⟨_, ⟨⟩, _⟩); exact h⟩

theorem run_lift_bind {x : Except String α} {f : α → Co σ Q A β} {r : Except Exc β} :
    Run R (lift x >>= f) s tr s' r ↔
      (∃ text, x = .error text ∧ tr = [] ∧ s' = s ∧ r = .error (.error text)) ∨
        ∃ a, x = .ok a ∧ Run R (f a) s tr s' r := by
  cases x with
  | ok a => exact ⟨fun h => .inr ⟨a, rfl, h⟩, by rintro (⟨_, ⟨⟩, _⟩ | ⟨_, ⟨⟩, h⟩); exact h⟩
  | error e => exact ⟨fun h => .inl ⟨e, rfl, h⟩, by rintro (⟨_, ⟨⟩, h⟩ | ⟨_, ⟨⟩, _⟩); exact h⟩

/-- A run that starts with an await: it was answered with an exception, or `f` goes on. -/
theorem run_call_bind {q : Q} {f : A q → Co σ Q A β} {r : Except Exc β} :
    Run R (call q >>= f) s tr s' r ↔ ∃ ans s₁ tr₁, tr = ⟨q, ans, s₁⟩ :: tr₁ ∧ R s s₁ ∧
      ((∃ e, ans = .error e ∧ tr₁ = [] ∧ s' = s₁ ∧ r = .error e) ∨
        ∃ a, ans = .ok a ∧ Run R (f a) s₁ tr₁ s' r) := by
  refine exists_congr fun ans => exists_congr fun s₁ => exists_congr fun tr₁ => and_congr_right fun _ =>
    and_congr_right fun _ => ?_
  exact run_ofExcept_bind

/-- A run of `c` and then `f`: `c` raises, or `f` goes on with what `c` returned. -/
theorem run_bind {f : α → Co σ Q A β} {r : Except Exc β} :
    Run R (c >>= f) s tr s' r ↔
      (∃ e, Run R c s tr s' (.error e) ∧ r = .error e) ∨
        ∃ a tr₁ s₁ tr₂, Run R c s tr₁ s₁ (.ok a) ∧ tr = tr₁ ++ tr₂ ∧ Run R (f a) s₁ tr₂ s' r := by
  show Run R (c.bind f) s tr s' r ↔ _
  induction c generalizing s tr with
  | ret a => simp [Co.bind, Run]
  | raise e => simp [Co.bind, Run]; grind
  | get k ih => exact ih s
  | set s₀ c ih => exact ih
  | await q k ih =>
    constructor
    · rintro ⟨ans, s₁, tr₁, rfl, hR, hrun⟩
      rcases (ih ans).mp hrun with ⟨e, h, rfl⟩ | ⟨a, t₁, s₂, t₂, h₁, rfl, h₂⟩
      · exact .inl ⟨_, ⟨ans, s₁, tr₁, rfl, hR, h⟩, rfl⟩
      · exact .inr ⟨a, _, s₂, t₂, ⟨ans, s₁, t₁, rfl, hR, h₁⟩, rfl, h₂⟩
    · rintro (⟨e, ⟨ans, s₁, tr₁, rfl, hR, h⟩, rfl⟩ | ⟨a, _, s₂, t₂, ⟨ans, s₁, t₁, rfl, hR, h₁⟩, rfl, h₂⟩)
      · exact ⟨ans, s₁, tr₁, rfl, hR, (ih ans).mpr (.inl ⟨e, h, rfl⟩)⟩
      · exact ⟨ans, s₁, t₁ ++ t₂, rfl, hR, (ih ans).mpr (.inr ⟨a, t₁, s₂, t₂, h₁, rfl, h₂⟩)⟩

/-- A run of `try: c` with `except Exception: h`: `c` returns, it is cancelled, or `h` goes on with the
text of the exception. -/
theorem run_tryExcept {h : String → Co σ Q A α} :
    Run R (c.tryExcept h) s tr s' r ↔
      (∃ a, Run R c s tr s' (.ok a) ∧ r = .ok a) ∨
      (Run R c s tr s' (.error .cancelled) ∧ r = .error .cancelled) ∨
        ∃ text tr₁ s₁ tr₂, Run R c s tr₁ s₁ (.error (.error text)) ∧ tr = tr₁ ++ tr₂ ∧
          Run R (h text) s₁ tr₂ s' r := by
  induction c generalizing s tr with
  | ret a => simp [tryExcept, Run]; grind
  | raise e => cases e <;> simp [tryExcept, Run, and_assoc]
  | get k ih => exact ih s
  | set s₀ c ih => exact ih
  | await q k ih =>
    constructor
    · rintro ⟨ans, s₁, tr₁, rfl, hR, hrun⟩
      rcases (ih ans).mp hrun with ⟨a, h₁, rfl⟩ | ⟨h₁, rfl⟩ | ⟨text, t₁, s₂, t₂, h₁, rfl, h₂⟩
      · exact .inl ⟨a, ⟨ans, s₁, tr₁, rfl, hR, h₁⟩, rfl⟩
      · exact .inr (.inl ⟨⟨ans, s₁, tr₁, rfl, hR, h₁⟩, rfl⟩)
      · exact .inr (.inr ⟨text, _, s₂, t₂, ⟨ans, s₁, t₁, rfl, hR, h₁⟩, rfl, h₂⟩)
    · rintro (⟨a, ⟨ans, s₁, tr₁, rfl, hR, h₁⟩, rfl⟩ | ⟨⟨ans, s₁, tr₁, rfl, hR, h₁⟩, rfl⟩ |
        ⟨text, _, s₂, t₂, ⟨ans, s₁, t₁, rfl, hR, h₁⟩, rfl, h₂⟩)
      · exact ⟨ans, s₁, tr₁, rfl, hR, (ih ans).mpr (.inl ⟨a, h₁, rfl⟩)⟩
      · exact ⟨ans, s₁, tr₁, rfl, hR, (ih ans).mpr (.inr (.inl ⟨h₁, rfl⟩))⟩
      · exact ⟨ans, s₁, t₁ ++ t₂, rfl, hR,
          (ih ans).mpr (.inr (.inr ⟨text, t₁, s₂, t₂, h₁, rfl, h₂⟩))⟩

theorem run_bind_pure {f : α → β} {r : Except Exc β} :
    Run R (c >>= fun a => pure (f a)) s tr s' r ↔ ∃ r₁, Run R c s tr s' r₁ ∧ r = r₁.map f := by
  rw [run_bind]
  constructor
  · rintro (⟨e, h, rfl⟩ | ⟨a, tr₁, s₁, tr₂, h, rfl, rfl, rfl, rfl⟩)
    · exact ⟨_, h, rfl⟩
    · exact ⟨_, by rwa [List.append_nil], rfl⟩
  · rintro ⟨r₁, h, rfl⟩
    cases r₁ with
    | error e => exact .inl ⟨e, h, rfl⟩
    | ok a => exact .inr ⟨a, tr, s', [], h, (List.append_nil _).symm, rfl, rfl, rfl⟩

/-- A run of `c` and then a fixed outcome: an exception of `c` replaces it. -/
theorem run_then {c : Co σ Q A Unit} {x : Except Exc α} :
    Run R (c >>= fun _ => ofExcept x) s tr s' r ↔
      ∃ r₂, Run R c s tr s' r₂ ∧ r = r₂.bind fun _ => x := by
  rw [run_bind]
  constructor
  · rintro (⟨e, h, rfl⟩ | ⟨u, tr₁, s₁, tr₂, h, rfl, h₂⟩)
    · exact ⟨_, h, rfl⟩
    · obtain ⟨rfl, rfl, rfl⟩ := run_ofExcept.mp h₂
      exact ⟨.ok u, by rwa [List.append_nil], rfl⟩
  · rintro ⟨r₂, h, rfl⟩
    cases r₂ with
    | error e => exact .inl ⟨e, h, rfl⟩
    | ok u => exact .inr ⟨u, tr, s', [], h, (List.append_nil _).symm, run_ofExcept.mpr ⟨rfl, rfl, rfl⟩⟩

/-- A run of `try: c` with `finally: f`: `c` ends in some way, and then `f` runs. -/
theorem run_tryFinally {f : Except Exc α → Co σ Q A Unit} :
    Run R (c.tryFinally f) s tr s' r ↔
      ∃ r₁ tr₁ s₁ tr₂ r₂, Run R c s tr₁ s₁ r₁ ∧ tr = tr₁ ++ tr₂ ∧ Run R (f r₁) s₁ tr₂ s' r₂ ∧
        r = r₂.bind fun _ => r₁ := by
  induction c generalizing s tr with
  | ret a =>
    refine (run_then (x := .ok a)).trans ⟨?_, ?_⟩
    · rintro ⟨r₂, h, rfl⟩
      exact ⟨_, [], s, tr, r₂, ⟨rfl, rfl, rfl⟩, rfl, h, rfl⟩
    · rintro ⟨_, _, _, tr₂, r₂, ⟨rfl, rfl, rfl⟩, rfl, h, rfl⟩
      exact ⟨r₂, h, rfl⟩
  | raise e =>
    refine (run_then (x := .error e)).trans ⟨?_, ?_⟩
    · rintro ⟨r₂, h, rfl⟩
      exact ⟨_, [], s, tr, r₂, ⟨rfl, rfl, rfl⟩, rfl, h, rfl⟩
    · rintro ⟨_, _, _, tr₂, r₂, ⟨rfl, rfl, rfl⟩, rfl, h, rfl⟩
      exact ⟨r₂, h, rfl⟩
  | get k ih => exact ih s
  | set s₀ c ih => exact ih
  | await q k ih =>
    constructor
    · rintro ⟨ans, s₁, tr₁, rfl, hR, h⟩
      obtain ⟨r₁, t₁, s₂, t₂, r₂, h₁, rfl, h₂, rfl⟩ := (ih ans).mp h
      exact ⟨r₁, _, s₂, t₂, r₂, ⟨ans, s₁, t₁, rfl, hR, h₁⟩, rfl, h₂, rfl⟩
    · rintro ⟨r₁, _, s₂, t₂, r₂, ⟨ans, s₁, t₁, rfl, hR, h₁⟩, rfl, h₂, rfl⟩
      exact ⟨ans, s₁, t₁ ++ t₂, rfl, hR, (ih ans).mpr ⟨r₁, t₁, s₂, t₂, r₂, h₁, rfl, h₂, rfl⟩⟩

/-- A run in which less is known of the other tasks. -/
theorem Run.mono {R' : σ → σ → Prop} (hR : ∀ s s', R s s' → R' s s') (h : Run R c s tr s' r) :
    Run R' c s tr s' r := by
  induction c generalizing s tr with
  | ret a => exact h
  | raise e => exact h
  | get k ih => exact ih s h
  | set s₁ c ih => exact ih h
  | await q k ih =>
    obtain ⟨ans, st, rest, rfl, hst, hrest⟩ := h
    exact ⟨ans, st, rest, rfl, hR _ _ hst, ih ans hrest⟩

/-- A coroutine that sees the same events ends in the same way. -/
theorem Run.unique {R' : σ → σ → Prop} {s'' : σ} {tr' u u' : List (Event σ Q A)} {r' : Except Exc α}
    (h : Run R c s tr s' r) (h' : Run R' c s tr' s'' r') (heq : tr ++ u = tr' ++ u') :
    tr = tr' ∧ s' = s'' ∧ r = r' := by
  induction c generalizing s tr tr' with
  | ret a =>
    obtain ⟨rfl, rfl, rfl⟩ := h
    obtain ⟨rfl, rfl, rfl⟩ := h'
    exact ⟨rfl, rfl, rfl⟩
  | raise e =>
    obtain ⟨rfl, rfl, rfl⟩ := h
    obtain ⟨rfl, rfl, rfl⟩ := h'
    exact ⟨rfl, rfl, rfl⟩
  | get k ih => exact ih s h h' heq
  | set s₀ c ih => exact ih h h' heq
  | await q k ih =>
    obtain ⟨ans, s₁, t, rfl, -, h⟩ := h
    obtain ⟨ans', s₁', t', rfl, -, h'⟩ := h'
    obtain ⟨hev, htail⟩ := List.cons.inj heq
    cases hev
    obtain ⟨rfl, rfl, rfl⟩ := ih ans h h' htail
    exact ⟨rfl, rfl, rfl⟩

/-- The run in which every request `q` is answered with `answer q` and nothing else changes the
state: its events, its last state and its result. -/
def exec (answer : (q : Q) → Except Exc (A q)) :
    Co σ Q A α → σ → List (Event σ Q A) × σ × Except Exc α
  | ret a, s => ([], s, .ok a)
  | raise e, s => ([], s, .error e)
  | get k, s => (k s).exec answer s
  | set s₁ c, _ => c.exec answer s₁
  | await q k, s =>
    let (tr, s', r) := (k (answer q)).exec answer s
    (⟨q, answer q, s⟩ :: tr, s', r)

/-- **A coroutine always has a run**, whatever its requests are answered with. -/
theorem run_exec (hrefl : ∀ s, R s s) (answer : (q : Q) → Except Exc (A q)) (c : Co σ Q A α) (s : σ) :
    Run R c s (c.exec answer s).1 (c.exec answer s).2.1 (c.exec answer s).2.2 := by
  induction c generalizing s with
  | ret a => exact ⟨rfl, rfl, rfl⟩
  | raise e => exact ⟨rfl, rfl, rfl⟩
  | get k ih => exact ih s s
  | set s₁ c ih => exact ih s₁
  | await q k ih => exact ⟨answer q, s, _, rfl, hrefl s, ih (answer q) s⟩

theorem exec_ans (answer : (q : Q) → Except Exc (A q)) (c : Co σ Q A α) (s : σ) :
    ∀ ev ∈ (c.exec answer s).1, ev.ans = answer ev.req := by
  induction c generalizing s with
  | ret a => exact fun _ h => absurd h List.not_mem_nil
  | raise e => exact fun _ h => absurd h List.not_mem_nil
  | get k ih => exact ih s s
  | set s₁ c ih => exact ih s₁
  | await q k ih =>
    intro ev hev
    rcases List.mem_cons.mp hev with rfl | hev
    · rfl
    · exact ih (answer q) s ev hev

/-! ## What a coroutine relies on and guarantees -/

/-- From the state `s` on, `c` keeps `I` and changes the state only as `G` allows, as long as `I` holds
whenever an await is answered; and the requests of `c` satisfy `ok`. -/
def GuardedFrom (I : σ → Prop) (G : σ → σ → Prop) (ok : Q → Prop) : Co σ Q A α → σ → Prop
  | ret _, _ => True
  | raise _, _ => True
  | get k, s => GuardedFrom I G ok (k s) s
  | set s₁ c, s => (I s₁ ∧ G s s₁) ∧ GuardedFrom I G ok c s₁
  | await q k, _ => ok q ∧ ∀ ans s, I s → GuardedFrom I G ok (k ans) s

/-- `GuardedFrom`, from every state in which `I` holds. -/
def Guarded (I : σ → Prop) (G : σ → σ → Prop) (ok : Q → Prop) (c : Co σ Q A α) : Prop :=
  ∀ s, I s → c.GuardedFrom I G ok s

variable {I : σ → Prop} {G : σ → σ → Prop} {ok : Q → Prop} {c : Co σ Q A α}

namespace GuardedFrom

theorem ofExcept (x : Except Exc α) :
    GuardedFrom I G ok (Co.ofExcept x : Co σ Q A α) s := by
  cases x <;> trivial

theorem bind {f : α → Co σ Q A β} (hs : I s) (hc : GuardedFrom I G ok c s)
    (hf : ∀ a, Guarded I G ok (f a)) : GuardedFrom I G ok (c.bind f) s := by
  induction c generalizing s with
  | ret a => exact hf a s hs
  | raise e => trivial
  | get k ih => exact ih s hs hc
  | set s₁ c ih => exact ⟨hc.1, ih hc.1.1 hc.2⟩
  | await q k ih => exact ⟨hc.1, fun ans s₁ hs₁ => ih ans hs₁ (hc.2 ans s₁ hs₁)⟩

theorem tryExcept {h : String → Co σ Q A α} (hs : I s) (hc : GuardedFrom I G ok c s)
    (hh : ∀ e, Guarded I G ok (h e)) : GuardedFrom I G ok (c.tryExcept h) s := by
  induction c generalizing s with
  | ret a => trivial
  | raise e =>
    cases e with
    | error text => exact hh text s hs
    | cancelled => trivial
  | get k ih => exact ih s hs hc
  | set s₁ c ih => exact ⟨hc.1, ih hc.1.1 hc.2⟩
  | await q k ih => exact ⟨hc.1, fun ans s₁ hs₁ => ih ans hs₁ (hc.2 ans s₁ hs₁)⟩

theorem tryFinally {f : Except Exc α → Co σ Q A Unit} (hs : I s) (hc : GuardedFrom I G ok c s)
    (hf : ∀ r, Guarded I G ok (f r)) : GuardedFrom I G ok (c.tryFinally f) s := by
  induction c generalizing s with
  | ret a => exact (hf _ s hs).bind hs fun _ _ _ => trivial
  | raise e => exact (hf _ s hs).bind hs fun _ _ _ => trivial
  | get k ih => exact ih s hs hc
  | set s₁ c ih => exact ⟨hc.1, ih hc.1.1 hc.2⟩
  | await q k ih => exact ⟨hc.1, fun ans s₁ hs₁ => ih ans hs₁ (hc.2 ans s₁ hs₁)⟩

theorem mono {ok' : Q → Prop} (hc : GuardedFrom I G ok c s) (hok : ∀ q, ok q → ok' q) :
    GuardedFrom I G ok' c s := by
  induction c generalizing s with
  | ret a => trivial
  | raise e => trivial
  | get k ih => exact ih s hc
  | set s₁ c ih => exact ⟨hc.1, ih hc.2⟩
  | await q k ih => exact ⟨hok q hc.1, fun ans s₁ hs₁ => ih ans (hc.2 ans s₁ hs₁)⟩

/-- What `R` and the coroutine keep holds at the end of a run and after each of its awaits. -/
theorem run {R : σ → σ → Prop} {s s' : σ} {tr : List (Event σ Q A)} {r : Except Exc α}
    (hc : GuardedFrom I G ok c s) (hR : ∀ s s', R s s' → I s → I s') (hs : I s)
    (h : Run R c s tr s' r) : I s' ∧ ∀ ev ∈ tr, ok ev.req ∧ I ev.resumed := by
  induction c generalizing s tr with
  | ret a =>
    obtain ⟨rfl, rfl, -⟩ := h
    exact ⟨hs, fun _ h => absurd h List.not_mem_nil⟩
  | raise e =>
    obtain ⟨rfl, rfl, -⟩ := h
    exact ⟨hs, fun _ h => absurd h List.not_mem_nil⟩
  | get k ih => exact ih s hc hs h
  | set s₁ c ih => exact ih hc.2 hc.1.1 h
  | await q k ih =>
    obtain ⟨ans, s₁, tr₁, rfl, hRs, h⟩ := h
    have hs₁ := hR s s₁ hRs hs
    obtain ⟨hs', hev⟩ := ih ans (hc.2 ans s₁ hs₁) hs₁ h
    refine ⟨hs', fun ev hmem => ?_⟩
    rcases List.mem_cons.mp hmem with rfl | hmem
    · exact ⟨hc.1, hs₁⟩
    · exact hev ev hmem

end GuardedFrom

namespace Guarded

theorem pure (a : α) : Guarded I G ok (Pure.pure a : Co σ Q A α) := fun _ _ => trivial

theorem lift (x : Except String α) : Guarded I G ok (Co.lift x : Co σ Q A α) := by
  cases x <;> exact fun _ _ => trivial

theorem bind {f : α → Co σ Q A β} (hc : Guarded I G ok c) (hf : ∀ a, Guarded I G ok (f a)) :
    Guarded I G ok (c >>= f) := fun s hs => (hc s hs).bind hs hf

theorem lift_bind {x : Except String α} {f : α → Co σ Q A β}
    (h : ∀ a, x = .ok a → Guarded I G ok (f a)) : Guarded I G ok (Co.lift x >>= f) := by
  cases x with
  | ok a => exact h a rfl
  | error text => exact fun _ _ => trivial

/-- What was read comes from a state that satisfies `I`. -/
theorem read_bind {f : σ → α} {g : α → Co σ Q A β} (h : ∀ s, I s → Guarded I G ok (g (f s))) :
    Guarded I G ok (read f >>= g) := fun s hs => h s hs s hs

theorem update {f : σ → σ} (h : ∀ s, I s → I (f s) ∧ G s (f s)) :
    Guarded I G ok (Co.update f : Co σ Q A Unit) := fun s hs => ⟨h s hs, trivial⟩

theorem call {q : Q} (h : ok q) : Guarded I G ok (Co.call q : Co σ Q A (A q)) :=
  fun _ _ => ⟨h, fun ans _ _ => .ofExcept ans⟩

theorem tryExcept {h : String → Co σ Q A α} (hc : Guarded I G ok c)
    (hh : ∀ e, Guarded I G ok (h e)) : Guarded I G ok (c.tryExcept h) :=
  fun s hs => (hc s hs).tryExcept hs hh

theorem tryFinally {f : Except Exc α → Co σ Q A Unit} (hc : Guarded I G ok c)
    (hf : ∀ r, Guarded I G ok (f r)) : Guarded I G ok (c.tryFinally f) :=
  fun s hs => (hc s hs).tryFinally hs hf

theorem mono {ok' : Q → Prop} (hc : Guarded I G ok c) (hok : ∀ q, ok q → ok' q) :
    Guarded I G ok' c := fun s hs => (hc s hs).mono hok

/-- `GuardedFrom.run`, from a state in which `I` holds. -/
theorem run {R : σ → σ → Prop} {s s' : σ} {tr : List (Event σ Q A)} {r : Except Exc α}
    (hc : Guarded I G ok c) (hR : ∀ s s', R s s' → I s → I s') (hs : I s) (h : Run R c s tr s' r) :
    I s' ∧ ∀ ev ∈ tr, ok ev.req ∧ I ev.resumed := (hc s hs).run hR hs h

end Guarded

end Co

end Async
