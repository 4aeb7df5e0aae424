import Aqap.Kernel.Schema
import Aqap.Rust.Sort

/-!
# The topic router

Topics with the ids of their handlers, and handlers by id. `add_topic` writes the one map, `add_handler` and
`remove_handler` the other one.

* `resolve_history`: a topic has all ids that were ever registered for it.
* `router_consistent_iff`: the router is consistent exactly if no id is removed after it was registered.
* `removed_resolved`: a removed handler that its topic still resolves to.
-/

namespace Aqap.Kernel

open Py Rust

/-- Which handlers a topic has, and which callable a handler is; neither map looks at the other one. -/
structure Router (PyObject : Type) where
  /-- topic -> list of handler_ids -/
  topics : Dict String (List String)
  /-- handler_id -> Python callable -/
  handlers : Dict String PyObject

namespace Router

variable {PyObject : Type} (iter : Iteration (String × List String))

def new : Router PyObject := ⟨.empty, .empty⟩

/-- A handler that is added twice is there twice. -/
def add_topic (self : Router PyObject) (topic handler_id : String) : Router PyObject where
  topics := self.topics.set topic ((self.topics.get? topic).getD [] ++ [handler_id])
  handlers := self.handlers

def resolve (self : Router PyObject) (topic : String) : List String := (self.topics.get? topic).getD []

def add_handler (self : Router PyObject) (handler_id : String) (callback : PyObject) : Router PyObject where
  topics := self.topics
  handlers := self.handlers.set handler_id callback

/-- The topics keep the id. -/
def remove_handler (self : Router PyObject) (handler_id : String) : Router PyObject where
  topics := self.topics
  handlers := self.handlers.pop handler_id

def list_topics (self : Router PyObject) : List String :=
  sort_by_key id ((iter.order self.topics.items).map Prod.fst)

/-- There is a handler for the topic. -/
def has_topic (self : Router PyObject) (topic : String) : Bool :=
  match self.topics.get? topic with
  | some ids => !ids.isEmpty
  | none => false

def handler_count (self : Router PyObject) (topic : String) : Nat :=
  ((self.topics.get? topic).map List.length).getD 0

/-- A call that changes the router. -/
inductive Op (PyObject : Type) where
  | add_topic (topic handler_id : String)
  | add_handler (handler_id : String) (callback : PyObject)
  | remove_handler (handler_id : String)

def apply (self : Router PyObject) : Op PyObject → Router PyObject
  | .add_topic topic handler_id => self.add_topic topic handler_id
  | .add_handler handler_id callback => self.add_handler handler_id callback
  | .remove_handler handler_id => self.remove_handler handler_id

/-- The router after the calls. -/
def history (ops : List (Op PyObject)) : Router PyObject := ops.foldl apply new

/-! ## What a consistent router does -/

/-- The id that a call registers for the topic. -/
def Op.registers (topic : String) : Op PyObject → Option String
  | .add_topic t handler_id => if t = topic then some handler_id else none
  | _ => none

/-- The ids that were registered for a topic, in their order. -/
def registered (ops : List (Op PyObject)) (topic : String) : List String :=
  ops.filterMap (Op.registers topic)

/-- The call adds the handler. -/
def Op.Adds (handler_id : String) : Op PyObject → Prop
  | .add_topic _ h => h = handler_id
  | .add_handler h _ => h = handler_id
  | .remove_handler _ => False

/-- The handler was removed and not added again. -/
def Removed (ops : List (Op PyObject)) (handler_id : String) : Prop :=
  ∃ before since, ops = before ++ .remove_handler handler_id :: since ∧ ∀ op ∈ since, ¬ op.Adds handler_id

/-- What the router is to answer after the calls. -/
structure Consistent (ops : List (Op PyObject)) : Prop where
  unresolved : ∀ h, Removed ops h → ∀ topic, h ∉ (history ops).resolve topic
  uncounted : ∀ h, Removed ops h → ∀ topic,
    (history ops).handler_count topic = (((history ops).resolve topic).filter (· ≠ h)).length
  unlisted : ∀ h, Removed ops h → ∀ topic, (history ops).has_topic topic = true →
    ∃ h' ∈ (history ops).resolve topic, h' ≠ h
  has_topic : ∀ topic, (history ops).has_topic topic = true ↔ 0 < (history ops).handler_count topic
  length : ∀ topic, ((history ops).resolve topic).length = (history ops).handler_count topic
  order : ∀ topic, ((history ops).resolve topic).Sublist (registered ops topic)
  complete : ∀ h, .remove_handler h ∉ ops → ∀ topic,
    ((history ops).resolve topic).count h = (registered ops topic).count h
  sorted : ((history ops).list_topics iter).Pairwise (· < ·)
  listed : ∀ topic, topic ∈ (history ops).list_topics iter ↔ (history ops).has_topic topic = true

/-- Every handler that is removed was not registered for a topic before. -/
def RemovesUnregistered (ops : List (Op PyObject)) : Prop :=
  ∀ before h since, ops = before ++ .remove_handler h :: since → ∀ topic, .add_topic topic h ∉ before

/-! ## The topics -/

/-- What a call does to a topic. -/
theorem get?_apply (self : Router PyObject) (op : Op PyObject) (topic : String) :
    (self.apply op).topics.get? topic =
      match op.registers topic with
      | some h => some ((self.topics.get? topic).getD [] ++ [h])
      | none => self.topics.get? topic := by
  cases op with
  | add_handler h callback => rfl
  | remove_handler h => rfl
  | add_topic t h =>
    unfold apply add_topic Op.registers
    dsimp only
    rw [Dict.get?_set]
    by_cases ht : t = topic
    · subst ht
      rw [if_pos rfl, if_pos rfl]
    · rw [if_neg (Ne.symm ht), if_neg ht]

/-- A topic has the ids that were registered for it; a topic without any is not there. -/
theorem get?_history (ops : List (Op PyObject)) (topic : String) :
    (history ops).topics.get? topic =
      if registered ops topic = [] then none else some (registered ops topic) := by
  induction ops using List.reverseRecOn with
  | nil => rfl
  | append_singleton ops op ih =>
    have hstep : history (ops ++ [op]) = (history ops).apply op := by
      unfold history
      rw [List.foldl_append]
      rfl
    have hregistered : registered (ops ++ [op]) topic =
        registered ops topic ++ (op.registers topic).toList := by
      unfold registered
      rw [List.filterMap_append]
      cases h : op.registers topic with
      | none => simp [h]
      | some _ => simp [h]
    rw [hstep, get?_apply, hregistered, ih]
    cases op.registers topic with
    | none => simp
    | some h =>
      by_cases hnil : registered ops topic = []
      · simp [hnil]
      · simp [hnil]

theorem resolve_history (ops : List (Op PyObject)) (topic : String) :
    (history ops).resolve topic = registered ops topic := by
  unfold resolve
  rw [get?_history]
  split
  · rename_i hnil
    rw [hnil]
    rfl
  · rfl

theorem handler_count_history (ops : List (Op PyObject)) (topic : String) :
    (history ops).handler_count topic = (registered ops topic).length := by
  unfold handler_count
  rw [get?_history]
  split
  · rename_i hnil
    rw [hnil]
    rfl
  · rfl

theorem has_topic_history (ops : List (Op PyObject)) (topic : String) :
    (history ops).has_topic topic = true ↔ registered ops topic ≠ [] := by
  unfold has_topic
  rw [get?_history]
  by_cases hnil : registered ops topic = []
  · simp [hnil]
  · simp [hnil]

theorem mem_list_topics {ops : List (Op PyObject)} {topic : String} :
    topic ∈ (history ops).list_topics iter ↔ (history ops).has_topic topic = true := by
  unfold list_topics
  rw [mem_sort, List.mem_map, has_topic_history]
  simp only [Prod.exists, (iter.perm _).mem_iff, Dict.mem_items_iff, get?_history]
  by_cases hnil : registered ops topic = []
  · simp [hnil]
  · simp [hnil]

theorem pairwise_list_topics (self : Router PyObject) : (self.list_topics iter).Pairwise (· < ·) := by
  unfold list_topics
  apply pairwise_lt_sort
  rw [List.map_id']
  exact ((iter.perm _).map Prod.fst).nodup_iff.mpr self.topics.nodup

theorem mem_registered {ops : List (Op PyObject)} {topic h : String} :
    h ∈ registered ops topic ↔ .add_topic topic h ∈ ops := by
  unfold registered
  rw [List.mem_filterMap]
  constructor
  · rintro ⟨op, hop, hregisters⟩
    cases op with
    | add_topic t h' =>
      simp only [Op.registers, Option.ite_none_right_eq_some, Option.some.injEq] at hregisters
      obtain ⟨rfl, rfl⟩ := hregisters
      exact hop
    | add_handler h' callback => cases hregisters
    | remove_handler h' => cases hregisters
  · intro hop
    exact ⟨_, hop, by simp [Op.registers]⟩

/-! ## The condition -/

/-- A removed handler is resolved if it was registered before it was removed. -/
theorem not_mem_resolve {ops : List (Op PyObject)} (h : RemovesUnregistered ops) {handler_id : String}
    (hremoved : Removed ops handler_id) (topic : String) :
    handler_id ∉ (history ops).resolve topic := by
  obtain ⟨before, since, rfl, hsince⟩ := hremoved
  rw [resolve_history, mem_registered, List.mem_append, List.mem_cons]
  rintro (hbefore | heq | hafter)
  · exact h before handler_id since rfl topic hbefore
  · cases heq
  · exact hsince _ hafter rfl

theorem consistent_of_removesUnregistered {ops : List (Op PyObject)} (h : RemovesUnregistered ops) :
    Consistent iter ops where
  unresolved := fun _ hremoved topic => not_mem_resolve h hremoved topic
  uncounted := by
    intro handler_id hremoved topic
    have hne : ((history ops).resolve topic).filter (· ≠ handler_id) = (history ops).resolve topic := by
      apply List.filter_eq_self.mpr
      intro h' hmem
      rw [decide_eq_true_eq]
      rintro rfl
      exact not_mem_resolve h hremoved topic hmem
    rw [hne, resolve_history, handler_count_history]
  unlisted := by
    intro handler_id hremoved topic htopic
    obtain ⟨h', hmem⟩ := List.exists_mem_of_ne_nil _ ((has_topic_history ops topic).mp htopic)
    rw [← resolve_history] at hmem
    refine ⟨h', hmem, ?_⟩
    rintro rfl
    exact not_mem_resolve h hremoved topic hmem
  has_topic := by
    intro topic
    rw [has_topic_history, handler_count_history, List.length_pos_iff]
  length := by
    intro topic
    rw [resolve_history, handler_count_history]
  order := by
    intro topic
    rw [resolve_history]
  complete := by
    intro h' _ topic
    rw [resolve_history]
  sorted := pairwise_list_topics iter _
  listed := fun _ => mem_list_topics iter

/-- **When the router is consistent.** After each call of a sequence the router is consistent, exactly if no
handler is removed after it was registered for a topic. -/
theorem router_consistent_iff (ops : List (Op PyObject)) :
    (∀ calls, calls <+: ops → Consistent iter calls) ↔ RemovesUnregistered ops := by
  constructor
  · rintro h before handler_id since rfl topic hmem
    have hremoved : Removed (before ++ [.remove_handler handler_id]) handler_id :=
      ⟨before, [], rfl, List.forall_mem_nil _⟩
    have hconsistent := h (before ++ [.remove_handler handler_id]) ⟨since, by simp⟩
    apply hconsistent.unresolved handler_id hremoved topic
    rw [resolve_history, mem_registered]
    exact List.mem_append_left _ hmem
  · rintro h calls ⟨rest, rfl⟩
    apply consistent_of_removesUnregistered
    rintro before handler_id since rfl topic
    exact h before handler_id (since ++ rest) (by simp) topic

/-- One handler, registered and removed. -/
def removal : List (Op Unit) := [.add_topic "tasks" "h", .add_handler "h" (), .remove_handler "h"]

theorem removed_resolved :
    ¬ ∀ (iter : Iteration (String × List String)) (ops : List (Op Unit)), Consistent iter ops := by
  intro h
  have hconsistent := h ⟨id, fun _ => .refl _⟩ removal
  have hremoved : Removed removal "h" :=
    ⟨[.add_topic "tasks" "h", .add_handler "h" ()], [], rfl, List.forall_mem_nil _⟩
  apply hconsistent.unresolved "h" hremoved "tasks"
  decide

end Router

end Aqap.Kernel
