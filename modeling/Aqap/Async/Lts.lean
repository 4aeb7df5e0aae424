import Mathlib.Tactic.Common

/-!
# Runs of a transition relation

`step s l s'` says that the label `l` leads from `s` to `s'`. A run is given by its steps, each with the
state before it.

* `Path.throughout`: what every step keeps holds in all states of a run.
* `Path.throughout_of_meets`: the same for the runs whose steps meet a condition.
* `Path.since`: what a step makes true holds until a step breaks it.
* `path_trace`: the runs of a step function, which can be evaluated.
* `Path.throughout_and_iff`: if the condition decides whether a step keeps a property of the states and
  has a property of its own, it decides whether both hold throughout a run.
-/

namespace Async.Lts

variable {S L : Type}

/-- A run from `s₀` to `s`: its steps, each with the state before it. -/
inductive Path (step : S → L → S → Prop) (s₀ : S) : List (S × L) → S → Prop
  | start : Path step s₀ [] s₀
  | step {s s' : S} {l : L} {steps : List (S × L)} : Path step s₀ steps s → step s l s' →
      Path step s₀ (steps ++ [(s, l)]) s'

/-- `P` holds in every state of the run. -/
def Throughout (P : S → Prop) (steps : List (S × L)) (s : S) : Prop := P s ∧ ∀ e ∈ steps, P e.1

/-- Every step of the run meets the condition. -/
def AllMeet (meets : S → L → Prop) (steps : List (S × L)) : Prop := ∀ e ∈ steps, meets e.1 e.2

instance {meets : S → L → Prop} [∀ s l, Decidable (meets s l)] {steps : List (S × L)} :
    Decidable (AllMeet meets steps) :=
  inferInstanceAs (Decidable (∀ e ∈ steps, meets e.1 e.2))

theorem throughout_append {P : S → Prop} {steps : List (S × L)} {s s' : S} {l : L} :
    Throughout P (steps ++ [(s, l)]) s' ↔ P s' ∧ Throughout P steps s := by
  simp only [Throughout, List.forall_mem_append, List.forall_mem_singleton]
  tauto

theorem allMeet_append {meets : S → L → Prop} {steps : List (S × L)} {s : S} {l : L} :
    AllMeet meets (steps ++ [(s, l)]) ↔ AllMeet meets steps ∧ meets s l := by
  simp only [AllMeet, List.forall_mem_append, List.forall_mem_singleton]

variable {step : S → L → S → Prop} {s₀ s : S} {steps : List (S × L)} {meets : S → L → Prop}

/-- The labels of a run are those of steps. -/
theorem Path.exists_step (h : Path step s₀ steps s) {e : S × L} (he : e ∈ steps) :
    ∃ s', step e.1 e.2 s' := by
  induction h with
  | start => cases he
  | @step s s' l steps _ hl ih =>
    rcases List.mem_append.mp he with hold | hlast
    · exact ih hold
    · rw [List.mem_singleton.mp hlast]
      exact ⟨s', hl⟩

/-- The run up to one of its steps. -/
theorem Path.before {pre post : List (S × L)} {e : S × L} (h : Path step s₀ (pre ++ e :: post) s) :
    Path step s₀ pre e.1 := by
  generalize hsteps : pre ++ e :: post = steps at h
  induction h generalizing post with
  | start => simp at hsteps
  | @step s s' l steps hpath _ ih =>
    rcases List.eq_nil_or_concat post with rfl | ⟨post, last, rfl⟩
    · obtain ⟨rfl, rfl⟩ := List.append_singleton_inj.mp hsteps
      exact hpath
    · rw [List.concat_eq_append, ← List.cons_append, ← List.append_assoc] at hsteps
      exact ih (List.append_singleton_inj.mp hsteps).1

/-- A step before a run. -/
theorem Path.cons {s' : S} {l : L} (hl : step s' l s₀) (h : Path step s₀ steps s) :
    Path step s' ((s', l) :: steps) s := by
  induction h with
  | start => exact .step .start hl
  | step _ hstep ih => exact .step ih hstep

/-- What holds at the start and is kept by every step that meets the condition holds in all states of a
run whose steps meet it. -/
theorem Path.throughout_of_meets {I : S → Prop} (h₀ : I s₀)
    (hstep : ∀ s l s', I s → meets s l → step s l s' → I s') (h : Path step s₀ steps s)
    (hmeets : AllMeet meets steps) : Throughout I steps s := by
  induction h with
  | start => exact ⟨h₀, fun _ h => absurd h List.not_mem_nil⟩
  | step _ hl ih =>
    obtain ⟨hprev, hlast⟩ := allMeet_append.mp hmeets
    have hall := ih hprev
    exact throughout_append.mpr ⟨hstep _ _ _ hall.1 hlast hl, hall⟩

/-- What holds at the start and is kept by every step holds in all states of a run. -/
theorem Path.throughout {I : S → Prop} (h₀ : I s₀) (hstep : ∀ s l s', I s → step s l s' → I s')
    (h : Path step s₀ steps s) : Throughout I steps s := by
  have hmeets : AllMeet (fun _ _ => True) steps := fun _ _ => trivial
  exact h.throughout_of_meets h₀ (fun s l s' hs _ => hstep s l s' hs) hmeets

/-- What a step with `P` makes true holds as long as no step breaks it. `J` is an invariant of the runs. -/
theorem Path.since {J : S → Prop} {P : S × L → Prop} {I : S × L → S → Prop} {breaks : S → L → Prop}
    (hJ₀ : J s₀) (hJ : ∀ s l s', J s → step s l s' → J s')
    (hmade : ∀ s l s', J s → step s l s' → P (s, l) → I (s, l) s')
    (hkept : ∀ e s l s', J s → step s l s' → ¬ breaks s l → I e s → I e s')
    {pre mid : List (S × L)} {e : S × L} (h : Path step s₀ (pre ++ e :: mid) s) (he : P e)
    (hmid : ∀ e' ∈ mid, ¬ breaks e'.1 e'.2) : I e s := by
  generalize hsteps : pre ++ e :: mid = steps at h
  induction h generalizing mid with
  | start => simp at hsteps
  | @step s s' l steps hpath hstep ih =>
    have hJs : J s := (hpath.throughout hJ₀ hJ).1
    rcases List.eq_nil_or_concat mid with rfl | ⟨mid, last, rfl⟩
    · obtain ⟨rfl, rfl⟩ := List.append_singleton_inj.mp hsteps
      exact hmade s l s' hJs hstep he
    · rw [List.concat_eq_append, ← List.cons_append, ← List.append_assoc] at hsteps
      obtain ⟨rfl, rfl⟩ := List.append_singleton_inj.mp hsteps
      rw [List.concat_eq_append] at hmid
      obtain ⟨hold, hlast⟩ := List.forall_mem_append.mp hmid
      exact hkept e s l s' hJs hstep (hlast _ (List.mem_singleton_self _)) (ih hold rfl)

/-- If a step from a state with `P` keeps `P` and has `Q` exactly if it meets the condition, then `P` holds
throughout a run and `Q` of all its steps exactly if all of them meet the condition. `I` is an invariant
of the runs in which `P` holds throughout. -/
theorem Path.throughout_and_iff {I P : S → Prop} {Q : S → L → Prop} (hI : I s₀)
    (hIstep : ∀ s l s', I s → P s → P s' → step s l s' → I s') (hP : P s₀)
    (hstep : ∀ s l s', I s → P s → step s l s' → (P s' ∧ Q s l ↔ meets s l))
    (h : Path step s₀ steps s) : Throughout P steps s ∧ AllMeet Q steps ↔ AllMeet meets steps := by
  suffices (Throughout P steps s → I s) ∧
    (Throughout P steps s ∧ AllMeet Q steps ↔ AllMeet meets steps) from this.2
  induction h with
  | start =>
    exact ⟨fun _ => hI, iff_of_true ⟨⟨hP, fun _ h => absurd h List.not_mem_nil⟩,
      fun _ h => absurd h List.not_mem_nil⟩ fun _ h => absurd h List.not_mem_nil⟩
  | @step s s' l steps _ hl ih =>
    obtain ⟨hInv, hiff⟩ := ih
    rw [throughout_append, allMeet_append, allMeet_append]
    refine ⟨fun h => hIstep s l s' (hInv h.2) h.2.1 h.1 hl, ?_, ?_⟩
    · rintro ⟨⟨hs', hall⟩, hQ, hlast⟩
      exact ⟨hiff.mp ⟨hall, hQ⟩, (hstep s l s' (hInv hall) hall.1 hl).mp ⟨hs', hlast⟩⟩
    · rintro ⟨hmeets, hlast⟩
      obtain ⟨hall, hQ⟩ := hiff.mpr hmeets
      obtain ⟨hs', hl'⟩ := (hstep s l s' (hInv hall) hall.1 hl).mpr hlast
      exact ⟨⟨hs', hall⟩, hQ, hl'⟩

/-- The case without a property of the states. -/
theorem Path.allMeet_iff {I : S → Prop} {Q : S → L → Prop} (hI : I s₀)
    (hIstep : ∀ s l s', I s → step s l s' → I s')
    (hstep : ∀ s l s', I s → step s l s' → (Q s l ↔ meets s l)) (h : Path step s₀ steps s) :
    AllMeet Q steps ↔ AllMeet meets steps := by
  have hiff : Throughout (fun _ => True) steps s ∧ AllMeet Q steps ↔ AllMeet meets steps := by
    refine h.throughout_and_iff hI (fun s l s' hs _ _ hl => hIstep s l s' hs hl) trivial ?_
    intro s l s' hs _ hl
    rw [and_iff_right trivial]
    exact hstep s l s' hs hl
  rw [← hiff]
  exact (and_iff_right ⟨trivial, fun _ _ => trivial⟩).symm

/-- The case without a property of the steps. -/
theorem Path.throughout_iff {I P : S → Prop} (hI : I s₀)
    (hIstep : ∀ s l s', I s → P s → P s' → step s l s' → I s') (hP : P s₀)
    (hPstep : ∀ s l s', I s → P s → step s l s' → (P s' ↔ meets s l)) (h : Path step s₀ steps s) :
    Throughout P steps s ↔ AllMeet meets steps := by
  rw [← h.throughout_and_iff (Q := fun _ _ => True) hI hIstep hP]
  · exact (and_iff_left fun _ _ => trivial).symm
  · intro s l s' hs hPs hl
    rw [and_iff_left trivial]
    exact hPstep s l s' hs hPs hl

/-! ## Runs that can be evaluated -/

section

variable (fire : S → L → Option S)

/-- The state after the steps `ls`. A step that is not enabled leaves the state as it is. -/
def exec (s : S) : List L → S
  | [] => s
  | l :: ls => exec ((fire s l).getD s) ls

/-- The steps `ls`, each with the state before it. -/
def trace (s : S) : List L → List (S × L)
  | [] => []
  | l :: ls => (s, l) :: trace ((fire s l).getD s) ls

theorem exec_append (s : S) (ls ls' : List L) :
    exec fire s (ls ++ ls') = exec fire (exec fire s ls) ls' := by
  induction ls generalizing s with
  | nil => rfl
  | cons l ls ih => exact ih _

theorem trace_append (s : S) (ls ls' : List L) :
    trace fire s (ls ++ ls') = trace fire s ls ++ trace fire (exec fire s ls) ls' := by
  induction ls generalizing s with
  | nil => rfl
  | cons l ls ih => exact congrArg ((s, l) :: ·) (ih _)

/-- Steps that are enabled make a run. -/
theorem path_trace (s : S) (ls : List L) (h : ∀ e ∈ trace fire s ls, (fire e.1 e.2).isSome) :
    Path (fun s l s' => fire s l = some s') s (trace fire s ls) (exec fire s ls) := by
  induction ls generalizing s with
  | nil => exact .start
  | cons l ls ih =>
    obtain ⟨hl, hls⟩ := List.forall_mem_cons.mp h
    obtain ⟨s', hs'⟩ := Option.isSome_iff_exists.mp hl
    rw [hs', Option.getD_some] at hls
    rw [trace, exec, hs', Option.getD_some]
    exact .cons hs' (ih s' hls)

end

end Async.Lts
