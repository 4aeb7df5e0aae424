import Mathlib.Data.List.Nodup
import Mathlib.Data.List.Pairwise

/-!
# Dealing a sequence out

The members of a sequence without repetitions are dealt out, each one to at most one of the players; `line c` is
what `c` was dealt, of which some may be dropped later.

* `Dealt.more`, `Dealt.deal`, `Dealt.drop`: what the three do.
* `Dealt.once`: what is used in the order of its line is used once.
* `pairwise_of_usedBy`: what holds between all pairs of one user.
-/

namespace Async

variable {ι α : Type*} {dealt next batch : List α} {line line' : ι → List α}

/-- `dealt` was dealt out, and `line c` is some of what `c` was dealt. -/
structure Dealt (dealt : List α) (line : ι → List α) : Prop where
  nodup : dealt.Nodup
  sublist : ∀ c, (line c).Sublist dealt
  disjoint : ∀ c d a, a ∈ line c → a ∈ line d → c = d

/-- What `c` used. -/
def usedBy [DecidableEq ι] (c : ι) (used : List (ι × α)) : List α :=
  (used.filter fun e => e.1 = c).map Prod.snd

section

variable [DecidableEq ι] {used : List (ι × α)}

theorem mem_usedBy {e : ι × α} (he : e ∈ used) : e.2 ∈ usedBy e.1 used :=
  List.mem_map_of_mem (List.mem_filter.mpr ⟨he, decide_eq_true rfl⟩)

theorem usedBy_append (c : ι) (used used' : List (ι × α)) :
    usedBy c (used ++ used') = usedBy c used ++ usedBy c used' := by
  rw [usedBy, List.filter_append, List.map_append]
  rfl

theorem usedBy_singleton (c d : ι) (a : α) : usedBy c [(d, a)] = if d = c then [a] else [] := by
  by_cases h : d = c <;> simp [usedBy, h]

/-- What holds between the things of each user holds between all pairs of one user. -/
theorem pairwise_of_usedBy {R : α → α → Prop} (h : ∀ c, (usedBy c used).Pairwise R) :
    used.Pairwise fun e e' => e.1 = e'.1 → R e.2 e'.2 := by
  induction used with
  | nil => exact .nil
  | cons e used ih =>
    refine .cons (fun e' he' huser => ?_) (ih fun c => ?_)
    · have hline := h e.1
      rw [usedBy, List.filter_cons_of_pos (by simp), List.map_cons] at hline
      exact (List.pairwise_cons.mp hline).1 e'.2 (huser ▸ mem_usedBy he')
    · exact (h c).sublist (((List.sublist_cons_self e used).filter _).map _)

end

namespace Dealt

theorem nil : Dealt [] fun _ : ι => ([] : List α) where
  nodup := List.nodup_nil
  sublist _ := .slnil
  disjoint _ _ _ h := absurd h List.not_mem_nil

/-- What is left when something is dropped. -/
theorem drop (h : Dealt dealt line) (hline : ∀ c, (line' c).Sublist (line c)) : Dealt dealt line' where
  nodup := h.nodup
  sublist c := (hline c).trans (h.sublist c)
  disjoint c d a hc hd := h.disjoint c d a ((hline c).mem hc) ((hline d).mem hd)

/-- The sequence goes on, and nobody is dealt what comes. -/
theorem more (h : Dealt dealt line) (hnodup : (dealt ++ next).Nodup) : Dealt (dealt ++ next) line where
  nodup := hnodup
  sublist c := (h.sublist c).trans (List.sublist_append_left _ _)
  disjoint := h.disjoint

/-- The sequence goes on, and `c` is dealt what comes, or a part of it. -/
theorem deal {c : ι} (h : Dealt dealt line) (hnodup : (dealt ++ next).Nodup) (hbatch : batch.Sublist next)
    (hself : line' c = line c ++ batch) (hother : ∀ d, d ≠ c → line' d = line d) :
    Dealt (dealt ++ next) line' := by
  have hdisjoint : ∀ d a, a ∈ batch → a ∉ line d := fun d a ha hold =>
    List.disjoint_of_nodup_append hnodup ((h.sublist d).mem hold) (hbatch.mem ha)
  -- What is new is with `c`.
  have hnew : ∀ d a, a ∈ line' d → a ∈ line d ∨ d = c ∧ a ∈ batch := by
    intro d a ha
    by_cases hd : d = c
    · subst hd
      rw [hself] at ha
      exact (List.mem_append.mp ha).imp id (⟨rfl, ·⟩)
    · rw [hother d hd] at ha
      exact .inl ha
  refine ⟨hnodup, fun d => ?_, fun d e a hd he => ?_⟩
  · by_cases hd : d = c
    · subst hd
      rw [hself]
      exact (h.sublist d).append hbatch
    · rw [hother d hd]
      exact (h.more hnodup).sublist d
  · rcases hnew d a hd with hold | ⟨rfl, hbatchd⟩
    · rcases hnew e a he with hold' | ⟨rfl, hbatche⟩
      · exact h.disjoint d e a hold hold'
      · exact absurd hold (hdisjoint d a hbatche)
    · rcases hnew e a he with hold' | ⟨rfl, -⟩
      · exact absurd hold' (hdisjoint e a hbatchd)
      · rfl

variable [DecidableEq ι] {used : List (ι × α)}

/-- Nothing is used twice. -/
theorem once (h : Dealt dealt line) (hused : ∀ c, (usedBy c used).Sublist (line c)) :
    (used.map Prod.snd).Nodup := by
  have hsame := pairwise_of_usedBy fun c => h.nodup.sublist ((hused c).trans (h.sublist c))
  rw [List.Nodup, List.pairwise_map]
  refine hsame.imp_of_mem fun {e e'} he he' hne heq => hne ?_ heq
  have hmem := (hused e.1).mem (mem_usedBy he)
  rw [heq] at hmem
  exact h.disjoint _ _ _ hmem ((hused e'.1).mem (mem_usedBy he'))

end Dealt

end Async
