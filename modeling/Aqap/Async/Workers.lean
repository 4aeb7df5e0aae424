import Aqap.Async.Co
import Aqap.Async.Lts
import Mathlib.Logic.Function.Basic

/-!
# Tasks that take turns at their awaits

A system of workers over one shared state: an idle worker takes an item and runs a coroutine on it,
a waiting worker goes on when its await is answered, and between the two any other worker may. Every
step runs one coroutine up to its next await (`Co.settle`), so a step issues at most one request; the
log keeps all that were issued, with the worker and its item.

* `Co.GuardedFrom.settle`: a step keeps what guards the coroutine.
* `Sys.Reach.invariant`: what every step of a run keeps holds in every state that the run reaches.
* `Sys.Path.forall_iff`: a property of all states of a run, from one of its steps.
* `Sys.exec`: a run that can be evaluated (`Sys.reach_exec`).
-/

namespace Async

namespace Co

variable {σ Q : Type} {A : Q → Type} {α β : Type}

/-- Run `c` from `s` up to its next await or its end. -/
def settle : Co σ Q A α → σ → σ × Co σ Q A α
  | ret a, s => (s, ret a)
  | raise e, s => (s, raise e)
  | get k, s => (k s).settle s
  | set s₁ c, _ => c.settle s₁
  | await q k, s => (s, await q k)

/-- A step keeps `I` and changes the state as `G` allows, and what is left of the coroutine is
guarded. -/
theorem GuardedFrom.settle {I : σ → Prop} {G : σ → σ → Prop} {ok : Q → Prop} {c : Co σ Q A α}
    {s : σ} (hrefl : ∀ s, G s s) (htrans : ∀ s₁ s₂ s₃, G s₁ s₂ → G s₂ s₃ → G s₁ s₃) (hs : I s)
    (hc : GuardedFrom I G ok c s) :
    I (c.settle s).1 ∧ G s (c.settle s).1 ∧ Guarded I G ok (c.settle s).2 := by
  induction c generalizing s with
  | ret a => exact ⟨hs, hrefl s, fun _ _ => trivial⟩
  | raise e => exact ⟨hs, hrefl s, fun _ _ => trivial⟩
  | get k ih => exact ih s hs hc
  | set s₁ c ih =>
    obtain ⟨hI, hG, hguard⟩ := ih hc.1.1 hc.2
    exact ⟨hI, htrans _ _ _ hc.1.2 hG, hguard⟩
  | await q k ih => exact ⟨hs, hrefl s, fun _ _ => hc⟩

end Co

/-- What a worker does: it waits for an item, it runs a coroutine on one (started in the state
`start`), or it has ended. -/
inductive Worker (M σ Q : Type) (A : Q → Type) (α : Type) where
  | idle
  | busy (item : M) (start : σ) (c : Co σ Q A α)
  | ended

/-- Workers over one shared state, and the requests that they issued. -/
structure Sys (ι M σ Q : Type) (A : Q → Type) (α : Type) where
  shared : σ
  workers : ι → Worker M σ Q A α
  log : List (ι × M × Q)

/-- What happens next: worker `i` takes the item `m`, or its await is answered with `answer`, or it ends;
or another task changes the state. -/
inductive Label (ι M Q : Type) (A : Q → Type) where
  | deliver (i : ι) (m : M)
  | resume (i : ι) (answer : (q : Q) → Except Exc (A q))
  | close (i : ι)
  | env

namespace Sys

variable {ι M σ Q : Type} {A : Q → Type} {α : Type}

/-- The worker after a step of its coroutine; `next` says after which results it takes another
item. -/
def after (next : Except Exc α → Bool) (m : M) (start : σ) : Co σ Q A α → Worker M σ Q A α
  | .ret a => if next (.ok a) then .idle else .ended
  | .raise e => if next (.error e) then .idle else .ended
  | c => .busy m start c

/-- The request at which a coroutine waits. -/
def issued (i : ι) (m : M) : Co σ Q A α → List (ι × M × Q)
  | .await q _ => [(i, m, q)]
  | _ => []

theorem after_busy {m m' : M} {start start' : σ} {next : Except Exc α → Bool}
    {c c' : Co σ Q A α}
    (h : after next m start c = .busy m' start' c') : m' = m ∧ start' = start ∧ c' = c := by
  cases c <;> simp only [after] at h <;> grind

theorem mem_issued {i i' : ι} {m m' : M} {q : Q} {c : Co σ Q A α}
    (h : (i', m', q) ∈ issued i m c) : i' = i ∧ m' = m ∧ ∃ k, c = .await q k := by
  cases c with
  | await q' k =>
    rw [issued, List.mem_singleton, Prod.mk.injEq, Prod.mk.injEq] at h
    obtain ⟨rfl, rfl, rfl⟩ := h
    exact ⟨rfl, rfl, k, rfl⟩
  | _ => exact absurd h List.not_mem_nil

variable [DecidableEq ι]

/-- Worker `i` runs `c` up to its next await. -/
def proceed (next : Except Exc α → Bool) (S : Sys ι M σ Q A α) (i : ι) (m : M) (start : σ)
    (c : Co σ Q A α) : Sys ι M σ Q A α where
  shared := (c.settle S.shared).1
  workers := Function.update S.workers i (after next m start (c.settle S.shared).2)
  log := S.log ++ issued i m (c.settle S.shared).2

/-- A step of the system; `body i m` is what worker `i` runs on the item `m`, and `E` is what the
other tasks do to the state. -/
inductive Step (next : Except Exc α → Bool) (body : ι → M → Co σ Q A α) (E : σ → σ → Prop) :
    Sys ι M σ Q A α → Label ι M Q A → Sys ι M σ Q A α → Prop
  | deliver {S : Sys ι M σ Q A α} {i : ι} {m : M} : S.workers i = .idle →
      Step next body E S (.deliver i m) (proceed next S i m S.shared (body i m))
  | resume {S : Sys ι M σ Q A α} {i : ι} {m : M} {start : σ} {q : Q}
      {k : Except Exc (A q) → Co σ Q A α} (answer : (q : Q) → Except Exc (A q)) :
      S.workers i = .busy m start (.await q k) →
      Step next body E S (.resume i answer) (proceed next S i m start (k (answer q)))
  | close {S : Sys ι M σ Q A α} {i : ι} : S.workers i = .idle →
      Step next body E S (.close i) { S with workers := Function.update S.workers i .ended }
  | env {S : Sys ι M σ Q A α} {s' : σ} : E S.shared s' →
      Step next body E S .env { S with shared := s' }

/-- The states reached by a run from `S₀` whose steps all meet the condition `meets`. -/
inductive Reach (next : Except Exc α → Bool) (body : ι → M → Co σ Q A α) (E : σ → σ → Prop)
    (meets : Sys ι M σ Q A α → Label ι M Q A → Prop) (S₀ : Sys ι M σ Q A α) :
    Sys ι M σ Q A α → Prop
  | start : Reach next body E meets S₀ S₀
  | step {S S' : Sys ι M σ Q A α} {l : Label ι M Q A} : Reach next body E meets S₀ S → meets S l →
      Step next body E S l S' → Reach next body E meets S₀ S'

variable {next : Except Exc α → Bool} {body : ι → M → Co σ Q A α} {E : σ → σ → Prop}
  {meets : Sys ι M σ Q A α → Label ι M Q A → Prop} {S₀ S : Sys ι M σ Q A α}

/-- What holds at the start and is kept by every step holds in every state of the run. -/
theorem Reach.invariant {Inv : Sys ι M σ Q A α → Prop} (h0 : Inv S₀)
    (hstep : ∀ S l S', Inv S → meets S l → Step next body E S l S' → Inv S')
    (h : Reach next body E meets S₀ S) : Inv S := by
  induction h with
  | start => exact h0
  | step _ hm hst ih => exact hstep _ _ _ ih hm hst

/-- A run from `S₀` to `S`: its steps, each with the state before it. -/
inductive Path (next : Except Exc α → Bool) (body : ι → M → Co σ Q A α) (E : σ → σ → Prop)
    (S₀ : Sys ι M σ Q A α) :
    List (Sys ι M σ Q A α × Label ι M Q A) → Sys ι M σ Q A α → Prop
  | start : Path next body E S₀ [] S₀
  | step {S S' : Sys ι M σ Q A α} {l : Label ι M Q A}
      {steps : List (Sys ι M σ Q A α × Label ι M Q A)} : Path next body E S₀ steps S →
      Step next body E S l S' → Path next body E S₀ (steps ++ [(S, l)]) S'

/-- A run of the system is one of its transition relation. -/
theorem Path.lts {steps : List (Sys ι M σ Q A α × Label ι M Q A)} (h : Path next body E S₀ steps S) :
    Lts.Path (Step next body E) S₀ steps S := by
  induction h with
  | start => exact .start
  | step _ hstep ih => exact .step ih hstep

/-- If a step from a state with `P` keeps `P` exactly if it meets the condition, then `P` holds
throughout a run exactly if all its steps meet the condition. `I` is an invariant of the runs in which
`P` holds throughout. -/
theorem Path.forall_iff {I P : Sys ι M σ Q A α → Prop}
    {steps : List (Sys ι M σ Q A α × Label ι M Q A)} (hI : I S₀)
    (hIstep : ∀ S l S', I S → P S → P S' → Step next body E S l S' → I S') (hP : P S₀)
    (hPstep : ∀ S l S', I S → P S → Step next body E S l S' → (P S' ↔ meets S l))
    (h : Path next body E S₀ steps S) :
    (P S ∧ ∀ e ∈ steps, P e.1) ↔ ∀ e ∈ steps, meets e.1 e.2 :=
  h.lts.throughout_iff hI hIstep hP hPstep

theorem proceed_self (i : ι) (m : M) (start : σ) (c : Co σ Q A α) :
    (proceed next S i m start c).workers i = after next m start (c.settle S.shared).2 :=
  Function.update_self ..

theorem proceed_other {i j : ι} (hj : j ≠ i) (m : M) (start : σ) (c : Co σ Q A α) :
    (proceed next S i m start c).workers j = S.workers j :=
  Function.update_of_ne hj ..

/-- A worker that is busy after a step of the worker `i` is that one, or it was busy before. -/
theorem busy_proceed {i j : ι} {m m' : M} {start start' : σ} {c c' : Co σ Q A α}
    (h : (proceed next S i m start c).workers j = .busy m' start' c') :
    (j = i ∧ m' = m ∧ start' = start ∧ c' = (c.settle S.shared).2) ∨
      (j ≠ i ∧ S.workers j = .busy m' start' c') := by
  by_cases hj : j = i
  · subst hj
    rw [proceed_self] at h
    exact .inl ⟨rfl, after_busy h⟩
  · rw [proceed_other hj] at h
    exact .inr ⟨hj, h⟩

/-- A worker that is busy after another one ended was busy before. -/
theorem busy_of_ended {i j : ι} {m : M} {start : σ} {c : Co σ Q A α}
    (h : Function.update S.workers i .ended j = .busy m start c) : S.workers j = .busy m start c := by
  rw [Function.update_apply] at h
  split at h
  · cases h
  · exact h

/-! ## Runs that can be evaluated -/

/-- The step `l`, if it is enabled. -/
def fire (next : Except Exc α → Bool) (body : ι → M → Co σ Q A α) (S : Sys ι M σ Q A α) :
    Label ι M Q A → Sys ι M σ Q A α
  | .deliver i m =>
    match S.workers i with
    | .idle => proceed next S i m S.shared (body i m)
    | _ => S
  | .resume i answer =>
    match S.workers i with
    | .busy m start (.await q k) => proceed next S i m start (k (answer q))
    | _ => S
  | .close i =>
    match S.workers i with
    | .idle => { S with workers := Function.update S.workers i .ended }
    | _ => S
  | .env => S

/-- The steps `ls`, one after another. -/
def exec (next : Except Exc α → Bool) (body : ι → M → Co σ Q A α) (S : Sys ι M σ Q A α)
    (ls : List (Label ι M Q A)) : Sys ι M σ Q A α := ls.foldl (fire next body) S

/-- Worker `i` waits for an answer. -/
def waits (S : Sys ι M σ Q A α) (i : ι) : Bool :=
  match S.workers i with
  | .busy _ _ (.await _ _) => true
  | _ => false

/-- An answer to a worker that waits is a step. -/
theorem step_resume {i : ι} (answer : (q : Q) → Except Exc (A q)) (h : S.waits i = true) :
    Step next body E S (.resume i answer) (fire next body S (.resume i answer)) := by
  unfold waits at h
  split at h
  · rename_i m start q k hw
    rw [fire, hw]
    exact .resume answer hw
  · cases h

theorem step_fire (S : Sys ι M σ Q A α) (l : Label ι M Q A) :
    Step next body E S l (fire next body S l) ∨ fire next body S l = S := by
  cases l with
  | deliver i m =>
    cases hw : S.workers i with
    | idle =>
      left
      rw [fire, hw]
      exact .deliver hw
    | _ => right; rw [fire, hw]
  | resume i answer =>
    cases hw : S.workers i with
    | busy m start c =>
      cases c with
      | await q k => exact .inl (step_resume answer (by rw [waits, hw]))
      | _ => right; rw [fire, hw]
    | _ => right; rw [fire, hw]
  | close i =>
    cases hw : S.workers i with
    | idle =>
      left
      rw [fire, hw]
      exact .close hw
    | _ => right; rw [fire, hw]
  | env => exact .inr rfl

/-- A run that is evaluated is a run of the system. -/
theorem reach_exec {ls : List (Label ι M Q A)} (hmeets : ∀ S, ∀ l ∈ ls, meets S l)
    (h : Reach next body E meets S₀ S) :
    Reach next body E meets S₀ (exec next body S ls) := by
  induction ls generalizing S with
  | nil => exact h
  | cons l ls ih =>
    refine ih (fun S l' hl' => hmeets S l' (List.mem_cons_of_mem _ hl')) ?_
    rcases step_fire (E := E) S l with hstep | heq
    · exact .step h (hmeets S l List.mem_cons_self) hstep
    · rwa [heq]

theorem exists_path_exec (ls : List (Label ι M Q A)) {steps : List (Sys ι M σ Q A α × Label ι M Q A)}
    (h : Path next body E S₀ steps S) :
    ∃ steps', Path next body E S₀ steps' (exec next body S ls) := by
  induction ls generalizing S steps with
  | nil => exact ⟨steps, h⟩
  | cons l ls ih =>
    rcases step_fire (E := E) S l with hstep | heq
    · exact ih (.step h hstep)
    · show ∃ steps', Path next body E S₀ steps' (exec next body (fire next body S l) ls)
      rw [heq]
      exact ih h

end Sys

end Async
