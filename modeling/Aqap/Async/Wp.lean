import Aqap.Async.Workers

/-!
# Weakest preconditions of coroutines

`Wp J R c post s`: from the state `s` on, whatever the coroutine `c` is answered, `J q` holds whenever `c`
awaits `q`, and `post` holds of its result and of the state at its end. The other tasks keep `J q` while
`c` awaits `q`; of the answers, only those that `R` allows in the state that `c` then finds are considered.

There is a rule for each way to build a coroutine, and `Wp.settle` for a step of a system that runs it.
-/

namespace Async.Co

variable {σ Q : Type} {A : Q → Type} {α β : Type}

/-- From the state `s` on, `c` ends with `post`. -/
def Wp (J : Q → σ → Prop) (R : (q : Q) → Except Exc (A q) → σ → Prop) :
    Co σ Q A α → (Except Exc α → σ → Prop) → σ → Prop
  | ret a, post, s => post (.ok a) s
  | raise e, post, s => post (.error e) s
  | get k, post, s => Wp J R (k s) post s
  | set s₁ c, post, _ => Wp J R c post s₁
  | await q k, post, s => J q s ∧ ∀ ans s₁, J q s₁ → R q ans s₁ → Wp J R (k ans) post s₁

variable {J : Q → σ → Prop} {R : (q : Q) → Except Exc (A q) → σ → Prop}
  {post post' : Except Exc α → σ → Prop} {s : σ} {c : Co σ Q A α}

@[simp] theorem wp_pure {a : α} : Wp J R (pure a) post s ↔ post (.ok a) s := Iff.rfl

@[simp] theorem wp_raise {e : Exc} : Wp J R (raise e) post s ↔ post (.error e) s := Iff.rfl

@[simp] theorem wp_ofExcept {x : Except Exc α} : Wp J R (ofExcept x) post s ↔ post x s := by
  cases x <;> exact Iff.rfl

@[simp] theorem wp_update {f : σ → σ} {post : Except Exc Unit → σ → Prop} :
    Wp J R (update f) post s ↔ post (.ok ()) (f s) := Iff.rfl

@[simp] theorem wp_read_bind {f : σ → β} {g : β → Co σ Q A α} :
    Wp J R (read f >>= g) post s ↔ Wp J R (g (f s)) post s := Iff.rfl

@[simp] theorem wp_update_bind {f : σ → σ} {g : Unit → Co σ Q A α} :
    Wp J R (update f >>= g) post s ↔ Wp J R (g ()) post (f s) := Iff.rfl

theorem wp_call {q : Q} {post : Except Exc (A q) → σ → Prop} :
    Wp J R (call q) post s ↔ J q s ∧ ∀ ans s₁, J q s₁ → R q ans s₁ → post ans s₁ := by
  show J q s ∧ (∀ ans s₁, J q s₁ → R q ans s₁ → Wp J R (ofExcept ans) post s₁) ↔ _
  simp only [wp_ofExcept]

theorem Wp.mono (hpost : ∀ r s, post r s → post' r s) (h : Wp J R c post s) : Wp J R c post' s := by
  induction c generalizing s with
  | ret a => exact hpost _ _ h
  | raise e => exact hpost _ _ h
  | get k ih => exact ih s h
  | set s₁ c ih => exact ih h
  | await q k ih =>
    obtain ⟨hJ, hk⟩ := h
    exact ⟨hJ, fun ans s₁ hs₁ hans => ih ans (hk ans s₁ hs₁ hans)⟩

/-- `c` and then `f`: where `c` returns, `f` goes on. -/
theorem wp_bind {f : α → Co σ Q A β} {post : Except Exc β → σ → Prop} :
    Wp J R (c >>= f) post s ↔
      Wp J R c (fun r s => match r with
        | .ok a => Wp J R (f a) post s
        | .error e => post (.error e) s) s := by
  show Wp J R (c.bind f) post s ↔ _
  induction c generalizing s with
  | ret a => exact Iff.rfl
  | raise e => exact Iff.rfl
  | get k ih => exact ih s
  | set s₁ c ih => exact ih
  | await q k ih =>
    refine and_congr_right fun _ => forall₂_congr fun ans s₁ => ?_
    exact imp_congr_right fun _ => imp_congr_right fun _ => ih ans

/-- `try: c` with `except Exception: h`: where `c` raises an exception other than a cancellation, `h` goes
on. -/
theorem wp_tryExcept {h : String → Co σ Q A α} :
    Wp J R (c.tryExcept h) post s ↔
      Wp J R c (fun r s => match r with
        | .error (.error text) => Wp J R (h text) post s
        | r => post r s) s := by
  induction c generalizing s with
  | ret a => exact Iff.rfl
  | raise e => cases e <;> exact Iff.rfl
  | get k ih => exact ih s
  | set s₁ c ih => exact ih
  | await q k ih =>
    refine and_congr_right fun _ => forall₂_congr fun ans s₁ => ?_
    exact imp_congr_right fun _ => imp_congr_right fun _ => ih ans

/-- An await, and then `f`. -/
theorem Wp.call_bind {q : Q} {f : A q → Co σ Q A α} (hJ : J q s)
    (herror : ∀ e s₁, J q s₁ → R q (.error e) s₁ → post (.error e) s₁)
    (hok : ∀ a s₁, J q s₁ → R q (.ok a) s₁ → Wp J R (f a) post s₁) :
    Wp J R (call q >>= f) post s := by
  rw [wp_bind, wp_call]
  refine ⟨hJ, fun ans s₁ hs₁ hans => ?_⟩
  cases ans with
  | error e => exact herror e s₁ hs₁ hans
  | ok a => exact hok a s₁ hs₁ hans

/-- What a step of `c` leads to: its end, or its next await. -/
theorem Wp.settle (h : Wp J R c post s) :
    (∃ a, (c.settle s).2 = ret a ∧ post (.ok a) (c.settle s).1) ∨
    (∃ e, (c.settle s).2 = raise e ∧ post (.error e) (c.settle s).1) ∨
      ∃ q k, (c.settle s).2 = await q k ∧ J q (c.settle s).1 ∧
        ∀ ans s₁, J q s₁ → R q ans s₁ → Wp J R (k ans) post s₁ := by
  induction c generalizing s with
  | ret a => exact .inl ⟨a, rfl, h⟩
  | raise e => exact .inr (.inl ⟨e, rfl, h⟩)
  | get k ih => exact ih s h
  | set s₁ c ih => exact ih h
  | await q k ih => exact .inr (.inr ⟨q, k, rfl, h.1, h.2⟩)

end Async.Co
