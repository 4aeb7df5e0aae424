import Aqap.Sdk.Bridge

/-!
# What the bridge takes for the body

The handler stops at the end of the chunk with which it has enough, and decodes all that it has read. What follows
the body in that chunk is decoded with it.

* `served_of_chunks`, `chunks_of_length`: how much of what follows the headers is decoded.
* `framed_iff`: which requests give the same message in every chunking.
-/

namespace Aqap.Sdk

open Py Aqap.Core Async.Reader

/-- A request with the blank line and at least as many bytes after it as the headers say. -/
structure Request where
  head : Bytes
  following : Bytes
  clen : Nat
  find_delim : Bytes.find delim (head ++ delim ++ following) = some head.length
  length_eq : content_length 0 (split_lines (Bytes.decode_replace head)) = .ok (clen : Int)
  enough : clen ≤ following.length

namespace Request

variable (request : Request)

def data : Bytes := request.head ++ delim ++ request.following

/-- The lines of its headers. -/
def lines : List (List Char) := split_lines (Bytes.decode_replace request.head)

/-- Where what follows the blank line begins. -/
def start : Nat := request.head.length + 4

variable {request} {m : Nat}

variable (request) in
theorem start_add_length : request.start + request.following.length = request.data.length := by
  rw [data, List.length_append, List.length_append]
  rfl

theorem drop_start : request.data.drop request.start = request.following := by
  rw [data]
  exact List.drop_left' (by rw [List.length_append]; rfl)

/-- Before its end, the blank line is not found. -/
theorem find_take_of_lt (h : m < request.start) : Bytes.find delim (request.data.take m) = none := by
  have hfind : Bytes.find delim (request.data.take m ++ request.data.drop m) = some request.head.length := by
    rw [List.take_append_drop]
    exact request.find_delim
  refine Bytes.find_of_short delim_ne_nil hfind ?_
  exact Nat.lt_of_le_of_lt (List.length_take_le m _) h

theorem find_take_of_le (h : request.start ≤ m) :
    Bytes.find delim (request.data.take m) = some request.head.length := by
  have hfind : Bytes.find delim (request.data.take m ++ request.data.drop m) = some request.head.length := by
    rw [List.take_append_drop]
    exact request.find_delim
  refine Bytes.find_of_append hfind ?_
  rw [List.length_take, ← start_add_length request]
  exact Nat.le_min.mpr ⟨h, Nat.le_add_right _ _⟩

/-- Behind the blank line, the rest is the body. -/
theorem split_take (h : request.start ≤ m) :
    split_request (request.data.take m) = (request.head, request.following.take (m - request.start)) := by
  have hhead : request.head.length ≤ m := Nat.le_trans (Nat.le_add_right _ 4) h
  have hdrop : request.head.length + 4 = request.start := rfl
  rw [split_request, find_take_of_le h]
  dsimp only
  rw [List.take_take, Nat.min_eq_left hhead, hdrop, List.drop_take, drop_start]
  rw [data, List.append_assoc, List.take_left]

theorem lines_take (h : request.start ≤ m) : Sdk.lines (request.data.take m) = request.lines := by
  rw [Sdk.lines, split_take h, lines]

theorem waiting_take_iff (h : request.start ≤ m) (hm : m ≤ request.data.length) :
    Waiting (request.data.take m) ↔ m < request.start + request.clen := by
  have hlength := start_add_length request
  have hclen : content_length 0 request.lines = .ok (request.clen : Int) := request.length_eq
  rw [Waiting, lines_take h, split_take h, hclen]
  dsimp only
  rw [List.length_take]
  constructor
  · rintro ⟨clen, heq, hless⟩
    cases heq
    omega
  · intro hless
    exact ⟨request.clen, rfl, by omega⟩

/-! ## How much is decoded -/

variable {bridge : HTTPBridge} {env : Surroundings} {chunks : List Chunk}

theorem read_headers_take (hm : m ≤ request.data.length) (henough : request.start + request.clen ≤ m) :
    bridge.read_headers env (request.data.take m) =
      .closed (bridge.serve env request.lines (request.following.take (m - request.start))) := by
  have hstart : request.start ≤ m := Nat.le_trans (Nat.le_add_right _ _) henough
  have hne : request.data.take m ≠ [] := by
    intro hnil
    have hfind := find_take_of_le hstart
    rw [hnil] at hfind
    cases hfind
  have hclen : content_length 0 request.lines = .ok (request.clen : Int) := request.length_eq
  have hnot : ¬ Waiting (request.data.take m) := fun h => absurd ((waiting_take_iff hstart hm).mp h) (by omega)
  rw [Waiting, lines_take hstart, split_take hstart, hclen] at hnot
  rw [HTTPBridge.read_headers, if_neg hne, lines_take hstart, hclen, split_take hstart]
  exact if_neg fun hless => hnot ⟨request.clen, rfl, hless⟩

theorem received_eq (hstream : stream chunks = request.data) (k : Nat) :
    received (chunks.map Chunk.data) k =
      request.data.take (received (chunks.map Chunk.data) k).length := by
  rw [← hstream]
  exact received_eq_take _ k

theorem received_length_le (hstream : stream chunks = request.data) (k : Nat) :
    (received (chunks.map Chunk.data) k).length ≤ request.data.length := by
  rw [← hstream]
  exact (received_begins _ k).length_le

/-- The blank line was found exactly if so much was received. -/
theorem find_received_iff (hstream : stream chunks = request.data) (k : Nat) :
    (Bytes.find delim (received (chunks.map Chunk.data) k)).isSome ↔
      request.start ≤ (received (chunks.map Chunk.data) k).length := by
  rw [received_eq hstream k, List.length_take, Nat.min_eq_left (received_length_le hstream k)]
  by_cases hstart : request.start ≤ (received (chunks.map Chunk.data) k).length
  · rw [find_take_of_le hstart]
    exact iff_of_true rfl hstart
  · rw [find_take_of_lt (Nat.lt_of_not_le hstart)]
    exact iff_of_false nofun hstart

theorem read_length_le (chunks : List Chunk) (k : Nat) : (read (chunks.map Chunk.data) k).length ≤ 4096 := by
  by_cases hk : k < (chunks.map Chunk.data).length
  · obtain ⟨chunk, -, hchunk⟩ := List.mem_map.mp (read_mem hk)
    rw [← hchunk]
    exact chunk.length_le
  · rw [read_of_length_le (Nat.le_of_not_lt hk)]
    exact Nat.zero_le 4096

variable (bridge env) in
/-- In each chunking, what follows the headers is decoded from its beginning to the end of a chunk. -/
theorem served_of_chunks (hstream : stream chunks = request.data) :
    ∃ k n, request.clen ≤ n ∧ n ≤ request.following.length ∧ n < request.clen + 4096 ∧
      bridge.conn env chunks k = .closed (bridge.serve env request.lines (request.following.take n)) := by
  have hlength := start_add_length request
  have henough := request.enough
  have hall : (Bytes.find delim (received (chunks.map Chunk.data) chunks.length)).isSome ∧
      ¬ Waiting (received (chunks.map Chunk.data) chunks.length) := by
    have htake : stream chunks = request.data.take request.data.length := by
      rw [hstream, List.take_length]
    rw [HTTPBridge.received_all, htake, find_take_of_le (by omega), waiting_take_iff (by omega) (Nat.le_refl _)]
    exact ⟨rfl, by omega⟩
  obtain ⟨k, -, hfind, hnot, hbefore, hconn⟩ :=
    HTTPBridge.closes_of_enough bridge env (Nat.le_refl _) hall
  have hstart := (find_received_iff hstream k).mp hfind
  have hle := received_length_le hstream k
  have hreceived := received_eq hstream k
  -- the chunk with which the handler has enough began before the end of the body
  have hbound : (received (chunks.map Chunk.data) k).length < request.start + request.clen + 4096 := by
    cases k with
    | zero =>
      rw [received_zero, List.length_nil]
      omega
    | succ k =>
      have hchunk := read_length_le chunks k
      rw [received_succ, List.length_append]
      by_cases hlast : request.start ≤ (received (chunks.map Chunk.data) k).length
      · have hwaiting := hbefore k (Nat.lt_succ_self k) ((find_received_iff hstream k).mpr hlast)
        rw [received_eq hstream k, waiting_take_iff hlast (received_length_le hstream k)] at hwaiting
        omega
      · omega
  generalize (received (chunks.map Chunk.data) k).length = m at hstart hle hreceived hbound
  rw [hreceived, waiting_take_iff hstart hle] at hnot
  rw [hreceived, read_headers_take hle (by omega)] at hconn
  exact ⟨k, m - request.start, by omega, by omega, by omega, hconn⟩

/-- The bytes one by one. -/
def singles (data : Bytes) : List Chunk := data.map fun b => ⟨[b], nofun, Nat.le_add_left 1 4095⟩

theorem map_singles (data : Bytes) : (singles data).map Chunk.data = data.map fun b => [b] := by
  rw [singles, List.map_map]
  rfl

theorem length_singles (data : Bytes) : (singles data).length = data.length := List.length_map _

theorem stream_singles (data : Bytes) : stream (singles data) = data := by
  rw [stream, map_singles]
  induction data with
  | nil => rfl
  | cons b data ih => exact congrArg (b :: ·) ih

variable (bridge env) in
/-- Every length up to a chunk more than the body is decoded in some chunking. -/
theorem chunks_of_length {n : Nat} (henough : request.clen ≤ n) (hn : n ≤ request.following.length)
    (hbound : n < request.clen + 4096) :
    ∃ chunks, stream chunks = request.data ∧
      ∃ k, bridge.conn env chunks k = .closed (bridge.serve env request.lines (request.following.take n)) := by
  have hlength := start_add_length request
  have hstart : 4 ≤ request.start := Nat.le_add_left 4 _
  -- the chunk begins with the last byte that is missing, and ends where it should
  let a := request.start + request.clen - 1
  let b := request.start + n
  have hchunk : ((request.data.take b).drop a).length = b - a := by
    rw [List.length_drop, List.length_take, Nat.min_eq_left (by omega)]
  let chunk : Chunk := ⟨(request.data.take b).drop a, List.ne_nil_of_length_pos (by omega), by omega⟩
  let chunks := singles (request.data.take a) ++ chunk :: singles (request.data.drop b)
  have hfront : request.data.take a = (request.data.take b).take a := by
    rw [List.take_take, Nat.min_eq_left (by omega)]
  have hdata : chunks.map Chunk.data =
      (request.data.take a).map (fun b => [b]) ++ chunk.data :: (singles (request.data.drop b)).map Chunk.data := by
    rw [← map_singles, ← List.map_cons, ← List.map_append]
  have hlengtha : (request.data.take a).length = a := by
    rw [List.length_take, Nat.min_eq_left (by omega)]
  have hbefore {m : Nat} (hm : m ≤ a) : received (chunks.map Chunk.data) m = request.data.take m := by
    rw [hdata, received_singles _ _ (by rwa [hlengtha]), List.take_take, Nat.min_eq_left hm]
  have hat : received (chunks.map Chunk.data) (a + 1) = request.data.take b := by
    have hlast : received (chunks.map Chunk.data) (a + 1) = received (chunks.map Chunk.data) a ++ chunk.data := by
      rw [received_succ, Async.Reader.read, hdata, List.getElem?_append_right (by rw [List.length_map, hlengtha])]
      rw [List.length_map, hlengtha, Nat.sub_self]
      rfl
    rw [hlast, hbefore (Nat.le_refl a), hfront, List.take_append_drop]
  refine ⟨chunks, ?_, a + 1, ?_⟩
  · rw [stream, hdata, List.flatten_append, List.flatten_cons, ← map_singles]
    show stream (singles (request.data.take a)) ++ (chunk.data ++ stream (singles (request.data.drop b))) = _
    rw [stream_singles, stream_singles, hfront, ← List.append_assoc, List.take_append_drop, List.take_append_drop]
  · have hle : a + 1 ≤ chunks.length := by
      rw [List.length_append, length_singles, hlengtha, List.length_cons]
      omega
    rw [HTTPBridge.conn_of_received hle, hat, find_take_of_le (by omega), if_pos Option.isSome_some,
      read_headers_take (by omega) (by omega), Nat.add_sub_cancel_left]
    intro m hm hfound
    have hma : m ≤ a := Nat.le_of_lt_succ hm
    rw [hbefore hma] at hfound ⊢
    have hstartm : request.start ≤ m := by
      by_contra hlt
      rw [find_take_of_lt (Nat.lt_of_not_le hlt)] at hfound
      cases hfound
    exact (waiting_take_iff hstartm (by omega)).mpr (by omega)

end Request

/-! ## The same message in every chunking -/

namespace HTTPBridge

variable {bridge : HTTPBridge} {env : Surroundings} {request : Request}

theorem published_serve {lines : List (List Char)} {body : Bytes} {msg : AQAPMessage} :
    (bridge.serve env lines body).published = some msg ↔
      ∃ payload, external_request env.loads body = .ok payload ∧ bridge.message env lines payload = msg := by
  unfold serve
  cases external_request env.loads body with
  | error e => simp
  | ok payload =>
    dsimp only
    cases env.publish (bridge.message env lines payload) <;> simp

theorem message_injective {lines : List (List Char)} {payload payload' : Json}
    (h : bridge.message env lines payload = bridge.message env lines payload') : payload = payload' := by
  have hpayload : (bridge.message env lines payload).payload = (bridge.message env lines payload').payload :=
    congrArg AQAPMessage.payload h
  simpa [message, AQAPMessage.new] using hpayload

/-- In every chunking of the request the handler publishes one message, with what the body says. -/
def Framed (bridge : HTTPBridge) (env : Surroundings) (request : Request) : Prop :=
  ∃ payload, external_request env.loads (request.following.take request.clen) = .ok payload ∧
    ∀ chunks, stream chunks = request.data →
      ∃ n served, bridge.conn env chunks n = .closed served ∧
        served.published = some (bridge.message env request.lines payload)

theorem decoded_of_framed (h : bridge.Framed env request) :
    ∃ payload, ∀ n, request.clen ≤ n → n ≤ request.following.length → n < request.clen + 4096 →
      external_request env.loads (request.following.take n) = .ok payload := by
  obtain ⟨payload, -, hchunks⟩ := h
  refine ⟨payload, fun n henough hn hbound => ?_⟩
  obtain ⟨chunks, hstream, k, hconn⟩ :=
    Request.chunks_of_length bridge env henough hn hbound
  obtain ⟨m, served, hserved, hpublished⟩ := hchunks chunks hstream
  have hsame : Conn.closed served = .closed (bridge.serve env request.lines (request.following.take n)) :=
    final_unique hserved (fun _ => rfl) hconn fun _ => rfl
  rw [Conn.closed.inj hsame] at hpublished
  obtain ⟨payload', hpayload, hmessage⟩ := published_serve.mp hpublished
  rw [hpayload, message_injective hmessage]

/-- The message is the same in every chunking, and that of the body, exactly if what follows the body in a chunk
does not change what is decoded. -/
theorem framed_iff (bridge : HTTPBridge) (env : Surroundings) (request : Request) :
    bridge.Framed env request ↔
      ∃ payload, ∀ n, request.clen ≤ n → n ≤ request.following.length → n < request.clen + 4096 →
        external_request env.loads (request.following.take n) = .ok payload := by
  refine ⟨decoded_of_framed, ?_⟩
  rintro ⟨payload, hdecoded⟩
  refine ⟨payload, hdecoded request.clen (Nat.le_refl _) request.enough (by omega), fun chunks hstream => ?_⟩
  obtain ⟨k, n, henough, hn, hbound, hconn⟩ := Request.served_of_chunks bridge env hstream
  exact ⟨k, _, hconn, published_serve.mpr ⟨payload, hdecoded n henough hn hbound, rfl⟩⟩

/-- A request with two bytes of JSON, and another byte behind them. -/
theorem byte_after_body :
    ¬ (HTTPBridge.mk 8080 "aqap:agent:probe").Framed
      { loads := fun body => if body = [123, 125] then .ok (.obj []) else .error .json_decode
        fresh := ⟨"message-1", "trace-1", "2026-01-01T00:00:00+00:00"⟩
        publish := fun _ => .ok "1-0" }
      { head := "POST /tasks HTTP/1.1\r\nContent-Length: 2".toList.map fun c => UInt8.ofNat c.toNat
        following := [123, 125, 88]
        clen := 2
        find_delim := by decide +kernel
        length_eq := by decide +kernel
        enough := by decide } := by
  intro h
  obtain ⟨payload, hdecoded⟩ := decoded_of_framed h
  have hbody := hdecoded 2 (by decide) (by decide) (by decide)
  have hmore := hdecoded 3 (by decide) (by decide) (by decide)
  cases hbody
  cases hmore

end HTTPBridge

end Aqap.Sdk
