import Mathlib.Data.List.Basic

/-!
# Reading a stream in chunks

A reader returns the chunks of a finite stream one after the other, and then the empty chunk forever. What reads
from it is a state with the step that it makes on a chunk.

* `feed_of_stuck`: the steps after the end of the stream.
* `received_begins`: what was received is the beginning of the stream.
-/

namespace Async.Reader

variable {β σ : Type}

/-- What the `n`-th read returns. -/
def read (chunks : List (List β)) (n : Nat) : List β := chunks[n]?.getD []

/-- The state after `n` reads. -/
def feed (step : σ → List β → σ) (start : σ) (chunks : List (List β)) : Nat → σ
  | 0 => start
  | n + 1 => step (feed step start chunks n) (read chunks n)

/-- What was received with `n` reads. -/
def received (chunks : List (List β)) (n : Nat) : List β := (chunks.take n).flatten

variable {step : σ → List β → σ} {start : σ} {chunks : List (List β)} {n : Nat}

@[simp] theorem received_zero : received chunks 0 = [] := rfl

theorem received_succ (chunks : List (List β)) (n : Nat) :
    received chunks (n + 1) = received chunks n ++ read chunks n := by
  unfold received read
  rw [List.take_add_one, List.flatten_append]
  cases chunks[n]? with
  | none => rfl
  | some chunk => simp

theorem received_length (chunks : List (List β)) : received chunks chunks.length = chunks.flatten := by
  rw [received, List.take_length]

theorem received_begins (chunks : List (List β)) (n : Nat) : received chunks n <+: chunks.flatten :=
  ⟨(chunks.drop n).flatten, by rw [received, ← List.flatten_append, List.take_append_drop]⟩

theorem received_eq_take (chunks : List (List β)) (n : Nat) :
    received chunks n = chunks.flatten.take (received chunks n).length :=
  List.prefix_iff_eq_take.mp (received_begins chunks n)

/-- A part of the stream that comes one by one. -/
theorem received_singles (data : List β) (chunks : List (List β)) {n : Nat} (h : n ≤ data.length) :
    received (data.map (fun b => [b]) ++ chunks) n = data.take n := by
  have hlength : n ≤ (data.map fun b => [b]).length := by rwa [List.length_map]
  rw [received, List.take_append_of_le_length hlength, ← List.map_take]
  induction data.take n with
  | nil => rfl
  | cons b data ih => exact congrArg (b :: ·) ih

theorem read_of_length_le (h : chunks.length ≤ n) : read chunks n = [] := by
  rw [read, List.getElem?_eq_none h, Option.getD_none]

theorem read_mem (h : n < chunks.length) : read chunks n ∈ chunks := by
  rw [read, List.getElem?_eq_getElem h, Option.getD_some]
  exact List.getElem_mem h

/-- What does not move without data stays as it is once the stream has ended. -/
theorem feed_of_stuck {s : σ} (hend : chunks.length ≤ n) (h : feed step start chunks n = s) (hstuck : step s [] = s)
    (m : Nat) : feed step start chunks (n + m) = s := by
  induction m with
  | zero => exact h
  | succ m ih =>
    show step (feed step start chunks (n + m)) (read chunks (n + m)) = s
    rw [ih, read_of_length_le (Nat.le_trans hend (Nat.le_add_right n m)), hstuck]

/-- A state that no read changes is kept. -/
theorem feed_of_final {s : σ} (h : feed step start chunks n = s) (hfinal : ∀ chunk, step s chunk = s) (m : Nat) :
    feed step start chunks (n + m) = s := by
  induction m with
  | zero => exact h
  | succ m ih =>
    show step (feed step start chunks (n + m)) (read chunks (n + m)) = s
    rw [ih, hfinal]

/-- Of two states that are kept, only one is reached. -/
theorem final_unique {s s' : σ} {m : Nat} (h : feed step start chunks n = s) (hfinal : ∀ chunk, step s chunk = s)
    (h' : feed step start chunks m = s') (hfinal' : ∀ chunk, step s' chunk = s') : s = s' := by
  rw [← feed_of_final h hfinal m, ← feed_of_final h' hfinal' n, Nat.add_comm]

end Async.Reader
