import Aqap.Async.Lts
import Aqap.Core.Message
import Mathlib.Data.List.Perm.Basic
import Mathlib.Logic.Function.Basic

/-!
# The RabbitMQ transport

A subscription consumes a queue of its topic and its group. The broker gives it up to `prefetch_count`
messages that are not settled. The transport settles only those that it cannot read: `ack` does nothing,
and the messages of the iterator are not acknowledged automatically.

* `settled_unreadable`: in every run, a message that was put into a queue waits there, is with a subscription
  or was unreadable; so whatever is yielded and acknowledged stays on the broker.
* `yields_at_most`: a subscription is yielded at most `prefetch_count` messages more than were taken back
  from it, so it comes to a stop.
-/

namespace Aqap.Transport

open Py Aqap.Core Async

/-- A message that was published, as a queue has it. -/
structure Delivery where
  seq : Nat
  body : List UInt8
  deriving DecidableEq

/-- What comes of a body. -/
inductive Parsed where
  /-- `Message.from_dict` of an object -/
  | message (data : List (String × Json))
  /-- `json.JSONDecodeError`, which is caught -/
  | unreadable
  /-- `UnicodeDecodeError`, or the `AttributeError` of a value that is no object: neither is caught. -/
  | raises

/-- `json.loads(body.decode())`; `loads` is `json.loads`. -/
def Delivery.parse (loads : String → Option Json) (self : Delivery) : Parsed :=
  match (Text.bytes self.body).decode with
  | none => .raises
  | some raw =>
    match loads raw with
    | none => .unreadable
    | some (.obj data) => .message data
    | some _ => .raises

/-- A delivery that is not settled. -/
structure Flight (ι : Type) where
  consumer : ι
  queue : String
  channel : Nat
  delivery : Delivery
  /-- The iterator has given it out. -/
  yielded : Bool

/-- Where a call of `_subscribe_loop` is. -/
inductive RabbitMQTransport.Phase where
  | fresh
  | subscribed (queue : String) (channel : Nat)
  | left
  deriving DecidableEq

/-- A transport with its calls of `_subscribe_loop`, and the broker. -/
structure RabbitMQTransport (ι : Type) where
  running : Bool
  /-- `_channel`, by its number: every `connect` opens another one. -/
  channel : Option Nat
  channels : Nat
  phase : ι → RabbitMQTransport.Phase
  /-- The queues that are bound to an exchange. -/
  bindings : String → List String
  ready : String → List Delivery
  inflight : List (Flight ι)
  published : Nat
  /-- The messages that were put into a queue. -/
  enqueued : String → List Delivery
  /-- Those that were acknowledged to the broker. -/
  acked : String → List Delivery
  /-- The messages that a subscription was yielded, and how many of them the broker took back. -/
  yielded : ι → List Delivery
  returned : ι → Nat

namespace RabbitMQTransport

variable {ι : Type}

def init : RabbitMQTransport ι where
  running := false
  channel := none
  channels := 0
  phase _ := .fresh
  bindings _ := []
  ready _ := []
  inflight := []
  published := 0
  enqueued _ := []
  acked _ := []
  yielded _ := []
  returned _ := 0

/-! ## The methods -/

section

variable (self : RabbitMQTransport ι)

/-- `connect`: the channel that was there before is not closed. -/
def connect : RabbitMQTransport ι :=
  { self with running := true, channel := some self.channels, channels := self.channels + 1 }

/-- `publish`: the exchange puts the message into the queues that are bound to it. -/
def publish (topic : String) (body : List UInt8) : RabbitMQTransport ι :=
  { self with
    published := self.published + 1
    ready := fun q =>
      if q ∈ self.bindings topic then self.ready q ++ [⟨self.published, body⟩] else self.ready q
    enqueued := fun q =>
      if q ∈ self.bindings topic then self.enqueued q ++ [⟨self.published, body⟩] else self.enqueued q }

/-- The unsettled deliveries that `back` selects go back to the heads of their queues. -/
def requeue [DecidableEq ι] (back : Flight ι → Bool) : RabbitMQTransport ι :=
  { self with
    ready := fun q =>
      ((self.inflight.filter back).filter (·.queue = q)).map (·.delivery) ++ self.ready q
    inflight := self.inflight.filter fun f => !back f
    returned := fun c =>
      self.returned c + (self.inflight.filter back).countP fun f => f.consumer = c && f.yielded }

variable [DecidableEq ι]

/-- `disconnect`: the channel is closed, and its consumers are gone. -/
def disconnect : RabbitMQTransport ι :=
  { self.requeue (fun f => some f.channel = self.channel) with
    running := false
    phase := fun c =>
      match self.phase c with
      | .subscribed queue channel =>
        if some channel = self.channel then .left else .subscribed queue channel
      | phase => phase }

/-- `_subscribe_loop`, up to the first message: the exchange and the queue are declared and bound. -/
def subscribe (c : ι) (topic group : String) (channel : Nat) : RabbitMQTransport ι :=
  { self with
    phase := Function.update self.phase c (.subscribed (topic ++ ":" ++ group) channel)
    bindings := Function.update self.bindings topic
      ((self.bindings topic).insert (topic ++ ":" ++ group)) }

/-- The broker gives a message to the consumer. -/
def push (c : ι) (queue : String) (channel : Nat) (delivery : Delivery) (rest : List Delivery) :
    RabbitMQTransport ι :=
  { self with
    ready := Function.update self.ready queue rest
    inflight := self.inflight ++ [⟨c, queue, channel, delivery, false⟩] }

/-- The message is yielded; `pre` and `post` are the other deliveries. -/
def deliver (pre : List (Flight ι)) (f : Flight ι) (post : List (Flight ι)) : RabbitMQTransport ι :=
  { self with
    inflight := pre ++ { f with yielded := true } :: post
    yielded := Function.update self.yielded f.consumer (self.yielded f.consumer ++ [f.delivery]) }

/-- `aio_msg.ack()` -/
def discard (pre : List (Flight ι)) (f : Flight ι) (post : List (Flight ι)) : RabbitMQTransport ι :=
  { self with
    inflight := pre ++ post
    acked := Function.update self.acked f.queue (self.acked f.queue ++ [f.delivery]) }

/-- The iterator is closed: the consumer is cancelled, and deliveries of its channel are rejected. -/
def leave (c : ι) (channel : Nat) (back : Flight ι → Bool) : RabbitMQTransport ι :=
  { self.requeue (fun f => f.channel = channel && back f) with
    phase := Function.update self.phase c .left }

/-- `ack` does nothing. -/
def ack (_topic : String) (_message_id : Option String) (_group : String) : RabbitMQTransport ι := self

end

/-- What may happen. -/
inductive Label (ι : Type) where
  | connect
  | disconnect
  | publish (topic : String) (body : List UInt8)
  | subscribe (c : ι) (topic group : String)
  | push (c : ι)
  | deliver (f : Flight ι)
  | discard (f : Flight ι)
  | leave (c : ι)
  | lost (channel : Nat)
  | ack (topic : String) (message_id : Option String) (group : String)

/-- How many deliveries of a consumer are not settled. -/
def unsettled [DecidableEq ι] (s : RabbitMQTransport ι) (c : ι) : Nat :=
  s.inflight.countP fun f => f.consumer = c

/-- The delivery is the next one of its consumer: those before it were yielded. -/
def IsNext (s : RabbitMQTransport ι) (pre : List (Flight ι)) (f : Flight ι) (post : List (Flight ι)) :
    Prop :=
  s.inflight = pre ++ f :: post ∧ f.yielded = false ∧
    (∀ e ∈ pre, e.consumer = f.consumer → e.yielded = true) ∧
    s.phase f.consumer = .subscribed f.queue f.channel

/-- A step of an iterator, of the server or of a caller of the transport. -/
inductive Step [DecidableEq ι] (prefetch_count : Nat) (loads : String → Option Json) :
    RabbitMQTransport ι → Label ι → RabbitMQTransport ι → Prop
  | connect {s : RabbitMQTransport ι} : Step prefetch_count loads s .connect s.connect
  | disconnect {s : RabbitMQTransport ι} : Step prefetch_count loads s .disconnect s.disconnect
  | publish {s : RabbitMQTransport ι} (topic : String) (body : List UInt8) : s.running →
      Step prefetch_count loads s (.publish topic body) (s.publish topic body)
  | subscribe {s : RabbitMQTransport ι} {c : ι} {channel : Nat} (topic group : String) :
      s.phase c = .fresh → s.running → s.channel = some channel →
      Step prefetch_count loads s (.subscribe c topic group) (s.subscribe c topic group channel)
  /-- A `prefetch_count` of zero is no limit. -/
  | push {s : RabbitMQTransport ι} {c : ι} {queue : String} {channel : Nat} {delivery : Delivery}
      {rest : List Delivery} : s.phase c = .subscribed queue channel → s.ready queue = delivery :: rest →
      prefetch_count = 0 ∨ s.unsettled c < prefetch_count →
      Step prefetch_count loads s (.push c) (s.push c queue channel delivery rest)
  | deliver {s : RabbitMQTransport ι} {pre post : List (Flight ι)} {f : Flight ι}
      {data : List (String × Json)} : s.IsNext pre f post → s.running → f.delivery.parse loads = .message data →
      Step prefetch_count loads s (.deliver f) (s.deliver pre f post)
  | discard {s : RabbitMQTransport ι} {pre post : List (Flight ι)} {f : Flight ι} : s.IsNext pre f post →
      s.running → f.delivery.parse loads = .unreadable →
      Step prefetch_count loads s (.discard f) (s.discard pre f post)
  /-- The transport was disconnected, an exception was raised, or the subscription is closed. -/
  | leave {s : RabbitMQTransport ι} {c : ι} {queue : String} {channel : Nat} (back : Flight ι → Bool) :
      s.phase c = .subscribed queue channel →
      Step prefetch_count loads s (.leave c) (s.leave c channel back)
  /-- A channel breaks down and is opened again, with its consumers. -/
  | lost {s : RabbitMQTransport ι} (channel : Nat) :
      Step prefetch_count loads s (.lost channel) (s.requeue fun f => f.channel = channel)
  | ack {s : RabbitMQTransport ι} (topic : String) (message_id : Option String) (group : String) :
      Step prefetch_count loads s (.ack topic message_id group) (s.ack topic message_id group)

/-! ## What stays on the broker -/

/-- The unsettled deliveries of a queue. -/
def held (s : RabbitMQTransport ι) (q : String) : List Delivery :=
  (s.inflight.filter (·.queue = q)).map (·.delivery)

/-- Every message that was put into a queue is ready, unsettled or acknowledged. -/
def Conserved (s : RabbitMQTransport ι) : Prop :=
  ∀ q, (s.ready q ++ (s.held q ++ s.acked q)).Perm (s.enqueued q)

/-- What is acknowledged was unreadable, and what is yielded was not. -/
structure Sorted (loads : String → Option Json) (s : RabbitMQTransport ι) : Prop where
  acked : ∀ q, ∀ d ∈ s.acked q, d.parse loads = .unreadable
  yielded : ∀ c, ∀ d ∈ s.yielded c, ∃ data, d.parse loads = .message data

/-- What a consumer was yielded is unsettled or was taken back, and it has no more unsettled deliveries than
it may have. -/
structure Accounted [DecidableEq ι] (prefetch_count : Nat) (s : RabbitMQTransport ι) : Prop where
  unsettled : ∀ c, s.unsettled c ≤ prefetch_count
  yielded : ∀ c, (s.yielded c).length =
    s.returned c + s.inflight.countP fun f => f.consumer = c && f.yielded

section

variable [DecidableEq ι] {s : RabbitMQTransport ι} {prefetch_count : Nat} {loads : String → Option Json}

omit [DecidableEq ι] in
theorem held_of_inflight {fs pre post : List (Flight ι)} {f : Flight ι} (h : fs = pre ++ f :: post)
    (q : String) : ((fs.filter (·.queue = q)).map (·.delivery)).Perm
      ((if f.queue = q then [f.delivery] else []) ++
        ((pre ++ post).filter (·.queue = q)).map (·.delivery)) := by
  subst h
  refine ((List.perm_middle.filter _).map _).trans (List.Perm.of_eq ?_)
  rw [List.filter_cons]
  by_cases hq : f.queue = q
  · simp [hq]
  · simp [hq]

theorem conserved_requeue (back : Flight ι → Bool) (h : s.Conserved) : (s.requeue back).Conserved := by
  intro q
  have hsplit : (((s.inflight.filter back).filter (·.queue = q)).map (·.delivery) ++
      ((s.inflight.filter fun f => !back f).filter (·.queue = q)).map (·.delivery)).Perm (s.held q) := by
    rw [← List.map_append, ← List.filter_append]
    exact ((List.filter_append_perm back s.inflight).filter _).map _
  refine List.Perm.trans ?_ (h q)
  show ((((s.inflight.filter back).filter (·.queue = q)).map (·.delivery) ++ s.ready q) ++
    (((s.inflight.filter fun f => !back f).filter (·.queue = q)).map (·.delivery) ++ s.acked q)).Perm _
  rw [← List.append_assoc]
  refine List.Perm.trans (List.Perm.append_right _ ?_) (List.Perm.of_eq (List.append_assoc ..))
  refine List.Perm.trans ?_ (List.Perm.append_left (s.ready q) hsplit)
  rw [List.append_assoc]
  exact (List.perm_append_comm_assoc ..)

theorem accounted_requeue (back : Flight ι → Bool) (h : s.Accounted prefetch_count) :
    (s.requeue back).Accounted prefetch_count where
  unsettled c := Nat.le_trans List.filter_sublist.countP_le (h.unsettled c)
  yielded c := by
    have hsplit := (List.filter_append_perm back s.inflight).countP_eq fun f =>
      f.consumer = c && f.yielded
    rw [List.countP_append] at hsplit
    show (s.yielded c).length = s.returned c + _ + _
    rw [h.yielded c, ← hsplit, Nat.add_assoc]
    rfl

theorem conserved_step {l : Label ι} {s' : RabbitMQTransport ι} (h : s.Conserved)
    (hstep : Step prefetch_count loads s l s') : s'.Conserved := by
  cases hstep with
  | connect => exact h
  | disconnect => exact conserved_requeue _ h
  | publish topic body _ =>
    intro q
    have hq := h q
    show ((if q ∈ s.bindings topic then s.ready q ++ [_] else s.ready q) ++ (s.held q ++ s.acked q)).Perm
      (if q ∈ s.bindings topic then s.enqueued q ++ [_] else s.enqueued q)
    split
    · rw [List.append_assoc]
      refine List.Perm.trans (List.Perm.append_left _ List.perm_append_comm) ?_
      rw [← List.append_assoc]
      exact hq.append_right _
    · exact hq
  | subscribe topic group _ _ _ => exact h
  | @push c queue channel delivery rest _ hready _ =>
    intro q
    have hq := h q
    have hheld : (s.push c queue channel delivery rest).held q =
        s.held q ++ if queue = q then [delivery] else [] := by
      unfold held
      show ((s.inflight ++ [_]).filter _).map _ = _
      rw [List.filter_append, List.map_append]
      by_cases hqueue : queue = q <;> simp [hqueue]
    rw [hheld]
    show (Function.update s.ready queue rest q ++ (_ ++ s.acked q)).Perm (s.enqueued q)
    by_cases hqueue : queue = q
    · subst hqueue
      rw [hready] at hq
      rw [Function.update_self, if_pos rfl, List.append_assoc]
      -- The head of the queue is now behind what was unsettled before.
      refine List.Perm.trans ?_ hq
      rw [← List.append_assoc, List.singleton_append]
      exact List.perm_middle.trans (List.Perm.of_eq (by simp))
    · rw [Function.update_of_ne (Ne.symm hqueue), if_neg hqueue, List.append_nil]
      exact hq
  | @deliver pre post f data hnext _ _ =>
    intro q
    have hbefore := held_of_inflight hnext.1 q
    have hafter := @held_of_inflight ι _ pre post { f with yielded := true } rfl q
    refine List.Perm.trans (List.Perm.append_left _ (List.Perm.append_right _ ?_)) (h q)
    exact hafter.trans hbefore.symm
  | @discard pre post f hnext _ _ =>
    intro q
    have hbefore := held_of_inflight hnext.1 q
    refine List.Perm.trans (List.Perm.append_left _ ?_) (h q)
    show (((pre ++ post).filter _).map _ ++
      Function.update s.acked f.queue (s.acked f.queue ++ [f.delivery]) q).Perm (s.held q ++ s.acked q)
    refine List.Perm.trans ?_ (hbefore.symm.append_right _)
    by_cases hqueue : f.queue = q
    · subst hqueue
      rw [Function.update_self, if_pos rfl, ← List.append_assoc]
      exact List.perm_append_singleton _ _
    · rw [Function.update_of_ne (Ne.symm hqueue), if_neg hqueue, List.nil_append]
  | leave back _ => exact conserved_requeue _ h
  | lost channel => exact conserved_requeue _ h
  | ack topic message_id group => exact h

theorem sorted_step {l : Label ι} {s' : RabbitMQTransport ι} (h : s.Sorted loads)
    (hstep : Step prefetch_count loads s l s') : s'.Sorted loads := by
  cases hstep with
  | @deliver pre post f data _ _ hparse =>
    refine ⟨h.acked, fun c d hd => ?_⟩
    have hd' : d ∈ Function.update s.yielded f.consumer (s.yielded f.consumer ++ [f.delivery]) c := hd
    by_cases hc : c = f.consumer
    · subst hc
      rw [Function.update_self, List.mem_append, List.mem_singleton] at hd'
      rcases hd' with hold | rfl
      · exact h.yielded _ d hold
      · exact ⟨data, hparse⟩
    · rw [Function.update_of_ne hc] at hd'
      exact h.yielded c d hd'
  | @discard pre post f _ _ hparse =>
    refine ⟨fun q d hd => ?_, h.yielded⟩
    have hd' : d ∈ Function.update s.acked f.queue (s.acked f.queue ++ [f.delivery]) q := hd
    by_cases hq : q = f.queue
    · subst hq
      rw [Function.update_self, List.mem_append, List.mem_singleton] at hd'
      rcases hd' with hold | rfl
      · exact h.acked _ d hold
      · exact hparse
    · rw [Function.update_of_ne hq] at hd'
      exact h.acked q d hd'
  | _ => exact ⟨h.acked, h.yielded⟩

theorem accounted_step (hpos : 0 < prefetch_count) {l : Label ι} {s' : RabbitMQTransport ι}
    (h : s.Accounted prefetch_count) (hstep : Step prefetch_count loads s l s') :
    s'.Accounted prefetch_count := by
  cases hstep with
  | disconnect =>
    have h' := accounted_requeue (fun f => decide (some f.channel = s.channel)) h
    exact ⟨h'.unsettled, h'.yielded⟩
  | @push c queue channel delivery rest _ _ hroom =>
    have hlt := hroom.resolve_left (Nat.ne_of_gt hpos)
    refine ⟨fun d => ?_, fun d => ?_⟩
    · show (s.inflight ++ [_]).countP _ ≤ prefetch_count
      rw [List.countP_append, List.countP_singleton]
      by_cases hc : c = d
      · subst hc
        rw [if_pos (by simp)]
        exact hlt
      · rw [if_neg (by simpa using hc), Nat.add_zero]
        exact h.unsettled d
    · show (s.yielded d).length = s.returned d + (s.inflight ++ [_]).countP _
      rw [List.countP_append, List.countP_singleton, if_neg (by simp), Nat.add_zero]
      exact h.yielded d
  -- The message changes from one that waits to one that was yielded.
  | @deliver pre post f data hnext _ _ =>
    obtain ⟨hinflight, hnot, -, -⟩ := hnext
    refine ⟨fun c => ?_, fun c => ?_⟩
    · have hle := h.unsettled c
      unfold unsettled at hle ⊢
      rw [hinflight] at hle
      show (pre ++ _ :: post).countP _ ≤ prefetch_count
      rw [List.countP_append, List.countP_cons] at hle ⊢
      exact hle
    · have heq := h.yielded c
      rw [hinflight, List.countP_append, List.countP_cons, hnot, Bool.and_false] at heq
      show (Function.update s.yielded f.consumer _ c).length = s.returned c + (pre ++ _ :: post).countP _
      rw [List.countP_append, List.countP_cons]
      by_cases hc : c = f.consumer
      · subst hc
        rw [Function.update_self, List.length_append, List.length_singleton]
        simp only [decide_true, Bool.and_true, if_true]
        simp only [Bool.false_eq_true, if_false] at heq
        omega
      · rw [Function.update_of_ne hc, if_neg (by simpa using Ne.symm hc)]
        simpa using heq
  | @discard pre post f hnext _ _ =>
    obtain ⟨hinflight, hnot, -, -⟩ := hnext
    have hsub : (pre ++ post).Sublist (pre ++ f :: post) :=
      List.Sublist.append_left (List.sublist_cons_self f post) pre
    refine ⟨fun c => ?_, fun c => ?_⟩
    · have hle := h.unsettled c
      unfold unsettled at hle ⊢
      rw [hinflight] at hle
      exact Nat.le_trans hsub.countP_le hle
    · have heq := h.yielded c
      rw [hinflight, List.countP_append, List.countP_cons, hnot, Bool.and_false] at heq
      show (s.yielded c).length = s.returned c + (pre ++ post).countP _
      rw [List.countP_append]
      simpa using heq
  -- What goes back to the queue was not acknowledged.
  | @leave c queue channel back _ =>
    have h' := accounted_requeue (fun f => decide (f.channel = channel) && back f) h
    exact ⟨h'.unsettled, h'.yielded⟩
  | lost channel => exact accounted_requeue _ h
  | _ => exact ⟨h.unsettled, h.yielded⟩

end

/-! ## Runs -/

variable [DecidableEq ι] {prefetch_count : Nat} {loads : String → Option Json}
  {steps : List (RabbitMQTransport ι × Label ι)} {s : RabbitMQTransport ι}

/-- **Only what cannot be read is settled.** In every run, with any subscriptions, acknowledgements and
failures, every message that was put into a queue is ready there or with a subscription, unless it was
acknowledged to the broker; then it was unreadable, and no one was yielded it. -/
theorem settled_unreadable (h : Lts.Path (Step prefetch_count loads) init steps s) :
    (∀ q, (s.ready q ++ (s.held q ++ s.acked q)).Perm (s.enqueued q)) ∧
    (∀ q, ∀ d ∈ s.acked q, d.parse loads = .unreadable) ∧
    ∀ c, ∀ d ∈ s.yielded c, ∃ data, d.parse loads = .message data := by
  have hconserved := (h.throughout (I := Conserved) (fun _ => List.Perm.refl _)
    fun _ _ _ hs hl => conserved_step hs hl).1
  have hinit : Sorted loads (init : RabbitMQTransport ι) :=
    ⟨fun _ _ hd => absurd hd List.not_mem_nil, fun _ _ hd => absurd hd List.not_mem_nil⟩
  have hsorted := (h.throughout hinit fun _ _ _ hs hl => sorted_step hs hl).1
  exact ⟨hconserved, hsorted.acked, hsorted.yielded⟩

/-- **A subscription comes to a stop.** In every run, a subscription was yielded at most `prefetch_count`
messages more than the broker took back from it, whatever was acknowledged. -/
theorem yields_at_most (hpos : 0 < prefetch_count)
    (h : Lts.Path (Step prefetch_count loads) init steps s) (c : ι) :
    (s.yielded c).length ≤ prefetch_count + s.returned c := by
  have hinit : Accounted prefetch_count (init : RabbitMQTransport ι) :=
    ⟨fun _ => Nat.zero_le _, fun _ => rfl⟩
  have haccounted := (h.throughout hinit fun _ _ _ hs hl => accounted_step hpos hs hl).1
  have hle : s.inflight.countP (fun f => f.consumer = c && f.yielded) ≤ s.unsettled c :=
    List.countP_mono_left fun f _ hf => by simpa using (Bool.and_eq_true_iff.mp hf).1
  have hunsettled := haccounted.unsettled c
  rw [haccounted.yielded c]
  omega

/-! ## A sample run -/

/-- An empty object. -/
def empty_body : List UInt8 := [0x7b, 0x7d]

def empty_loads (_ : String) : Option Json := some (.obj [])

def sample_flight : Flight Unit := ⟨(), "tasks:g", 0, ⟨0, empty_body⟩, false⟩

def sample_published : RabbitMQTransport Unit :=
  (init.connect.subscribe () "tasks" "g" 0).publish "tasks" empty_body

def sample_pushed : RabbitMQTransport Unit := sample_published.push () "tasks:g" 0 ⟨0, empty_body⟩ []

/-- A message was published, yielded to the one subscription and acknowledged by the agent. -/
def sample_stopped : RabbitMQTransport Unit :=
  (sample_pushed.deliver [] sample_flight []).ack "tasks" (some "m") "g"

theorem sample_run : ∃ steps, Lts.Path (Step 1 empty_loads) init steps sample_stopped := by
  have hsubscribe : Step 1 empty_loads init.connect (.subscribe () "tasks" "g")
      (init.connect.subscribe () "tasks" "g" 0) := .subscribe "tasks" "g" rfl rfl rfl
  have hpublish : Step 1 empty_loads (init.connect.subscribe () "tasks" "g" 0)
      (.publish "tasks" empty_body) sample_published := .publish "tasks" empty_body rfl
  have hpush : Step 1 empty_loads sample_published (.push ()) sample_pushed :=
    .push rfl (by decide) (.inr (by decide))
  have hdeliver : Step 1 empty_loads sample_pushed (.deliver sample_flight)
      (sample_pushed.deliver [] sample_flight []) :=
    .deliver ⟨rfl, rfl, fun _ h => absurd h List.not_mem_nil, rfl⟩ rfl rfl
  exact ⟨_, .step (.step (.step (.step (.step (.step .start .connect) hsubscribe) hpublish) hpush) hdeliver)
    (.ack "tasks" (some "m") "g")⟩

/-- The message is with the subscription, although it was acknowledged. -/
theorem settled_unreadable_sample :
    (∀ q, (sample_stopped.ready q ++ (sample_stopped.held q ++ sample_stopped.acked q)).Perm
      (sample_stopped.enqueued q)) ∧
    (∀ q, ∀ d ∈ sample_stopped.acked q, d.parse empty_loads = .unreadable) ∧
    ∀ c, ∀ d ∈ sample_stopped.yielded c, ∃ data, d.parse empty_loads = .message data :=
  sample_run.elim fun _ h => settled_unreadable h

/-- The subscription has all that it may have. -/
theorem yields_at_most_sample : (sample_stopped.yielded ()).length ≤ 1 + sample_stopped.returned () :=
  sample_run.elim fun _ h => yields_at_most (by decide) h ()

end RabbitMQTransport

end Aqap.Transport
