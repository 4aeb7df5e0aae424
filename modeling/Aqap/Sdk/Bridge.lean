import Aqap.Async.Reader
import Aqap.Py.Bytes
import Aqap.Py.Case
import Aqap.Py.Int
import Aqap.Sdk.Message
import Mathlib.Data.Nat.Find

/-!
# The HTTP bridge

`HTTPBridge` reads a request up to the blank line, then until it has as many bytes of the body as the headers
say, and publishes a message. The first loop ends with the stream; the second one does not look for the end.

* `conn_of_received`: where the handler is after each read.
* `closes_iff`: on which streams it closes the connection.
-/

namespace Aqap.Sdk

open Py Aqap.Core Async.Reader

abbrev Bytes := List UInt8

/-- Why `json.loads` raises. -/
inductive LoadError where
  | json_decode
  | other (text : String)

/-- An exception of the handler. -/
inductive HandleError where
  | int_error (e : IntError)
  | index_error
  | load_error (text : String)
  | publish_error (text : String)
  deriving DecidableEq

structure HTTPBridge where
  port : Nat
  publish_topic : String

/-- What the handler gets from outside: `json.loads`, the identifiers and the time of the message, and the result
of publishing it. -/
structure Surroundings where
  loads : Bytes → Except LoadError Json
  fresh : Fresh
  publish : AQAPMessage → Except String String

/-- `202` with the identifiers of the message, or `500` with the text of the exception. -/
inductive Response where
  | accepted (message_id trace_id : Json)
  | failed (e : HandleError)

/-- What has happened when the connection is closed: the message that was passed on to be published, and the
response. -/
structure Served where
  published : Option AQAPMessage
  response : Option Response

def delim : Bytes := [13, 10, 13, 10]

/-- `request_data[:header_end]` and `request_data[header_end + 4:]`, where `header_end` can be `-1`. -/
def split_request (request_data : Bytes) : Bytes × Bytes :=
  match Bytes.find delim request_data with
  | some header_end => (request_data.take header_end, request_data.drop (header_end + 4))
  | none => (request_data.dropLast, request_data.drop 3)

/-- `s.split("\\r\\n")` -/
def split_lines : List Char → List (List Char)
  | [] => [[]]
  | '\r' :: '\n' :: s => [] :: split_lines s
  | c :: s =>
    match split_lines s with
    | line :: lines => (c :: line) :: lines
    | [] => [[c]]

/-- The lines of the headers. -/
def lines (request_data : Bytes) : List (List Char) :=
  split_lines (Bytes.decode_replace (split_request request_data).1)

/-- The loop over the lines; the last length counts. -/
def content_length (clen : Int) : List (List Char) → Except HandleError Int
  | [] => .ok clen
  | line :: lines =>
    if "content-length:".toList.isPrefixOf (Unicode.lower (String.ofList line)).toList then
      match (line.splitOn ':')[1]? with
      | none => .error .index_error
      | some value =>
        match int_of (strip value) with
        | .error e => .error (.int_error e)
        | .ok clen => content_length clen lines
    else content_length clen lines

/-- The payload of a body. -/
def external_request (loads : Bytes → Except LoadError Json) (body : Bytes) : Except HandleError Json :=
  if body = [] then .ok (.obj [])
  else
    match loads body with
    | .ok payload => .ok payload
    | .error .json_decode => .ok (.obj [("raw_body", .str (String.ofList (Bytes.decode_replace body)))])
    | .error (.other text) => .error (.load_error text)

namespace HTTPBridge

variable (bridge : HTTPBridge) (env : Surroundings)

/-- The message for the lines of the headers and the request in the body. -/
def message (lines : List (List Char)) (payload : Json) : AQAPMessage :=
  let words := (lines.headD []).splitOn ' '
  let method := String.ofList (words.headD [])
  let path := String.ofList (words[1]?.getD ['/'])
  .new env.fresh .TASK_DISPATCH (.str ("http-" ++ Unicode.lower method ++ "-" ++ toString bridge.port))
    (.obj [("http_method", .str method), ("http_path", .str path), ("external_request", payload)])
    .null (.str "") (.str bridge.publish_topic) .null (.str "") (.str AQAPMessage.PROTOCOL_VERSION) .null

/-- What the handler does once it has the body. -/
def serve (lines : List (List Char)) (body : Bytes) : Served :=
  match external_request env.loads body with
  | .error e => ⟨none, some (.failed e)⟩
  | .ok payload =>
    let msg := bridge.message env lines payload
    match env.publish msg with
    | .error text => ⟨some msg, some (.failed (.publish_error text))⟩
    | .ok _ => ⟨some msg, some (.accepted msg.message_id msg.trace_id)⟩

end HTTPBridge

/-- Where the handler is: at the read of one of its loops, or done. -/
inductive Conn where
  | headers (request_data : Bytes)
  | body (lines : List (List Char)) (clen : Int) (body : Bytes)
  | closed (served : Served)

namespace HTTPBridge

variable (bridge : HTTPBridge) (env : Surroundings)

/-- `while len(body) < clen`, up to the next read. -/
def read_body (lines : List (List Char)) (clen : Int) (body : Bytes) : Conn :=
  if body.length < clen then .body lines clen body else .closed (bridge.serve env lines body)

/-- What follows the first loop, up to the next read. -/
def read_headers (request_data : Bytes) : Conn :=
  if request_data = [] then .closed ⟨none, none⟩
  else
    match content_length 0 (lines request_data) with
    | .error e => .closed ⟨none, some (.failed e)⟩
    | .ok clen => bridge.read_body env (lines request_data) clen (split_request request_data).2

/-- A read returns, and the handler goes on to the next one. -/
def handle (conn : Conn) (chunk : Bytes) : Conn :=
  match conn with
  | .headers request_data =>
    if chunk = [] then bridge.read_headers env request_data
    else if (Bytes.find delim (request_data ++ chunk)).isSome then bridge.read_headers env (request_data ++ chunk)
    else .headers (request_data ++ chunk)
  | .body lines clen body => bridge.read_body env lines clen (body ++ chunk)
  | .closed served => .closed served

end HTTPBridge

/-- What one read returns before the end of the stream. -/
structure Chunk where
  data : Bytes
  ne_nil : data ≠ []
  length_le : data.length ≤ 4096

/-- The stream that the chunks make up. -/
def stream (chunks : List Chunk) : Bytes := (chunks.map Chunk.data).flatten

namespace HTTPBridge

variable (bridge : HTTPBridge) (env : Surroundings)

/-- The handler after `n` reads. -/
def conn (chunks : List Chunk) (n : Nat) : Conn :=
  feed (bridge.handle env) (.headers []) (chunks.map Chunk.data) n

/-- After finitely many reads the connection is closed. -/
def Closes (chunks : List Chunk) : Prop := ∃ n served, bridge.conn env chunks n = .closed served

end HTTPBridge

/-! ## How a request is split -/

section

variable {data rest : Bytes} {i : Nat}

theorem delim_ne_nil : delim ≠ [] := nofun

/-- The headers of a request do not change with what follows, and the body goes on. -/
theorem split_request_append (h : Bytes.find delim data = some i) (rest : Bytes) :
    split_request (data ++ rest) = ((split_request data).1, (split_request data).2 ++ rest) := by
  have hle : i + 4 ≤ data.length := Bytes.le_length_of_find delim_ne_nil h
  unfold split_request
  rw [Bytes.find_append h rest, h]
  dsimp only
  rw [List.take_append_of_le_length (by omega), List.drop_append_of_le_length hle]

theorem lines_append (h : Bytes.find delim data = some i) (rest : Bytes) : lines (data ++ rest) = lines data := by
  rw [lines, split_request_append h, lines]

/-- The second loop has to read more. -/
def Waiting (data : Bytes) : Prop :=
  ∃ clen, content_length 0 (lines data) = .ok clen ∧ (split_request data).2.length < clen

theorem not_waiting_nil : ¬ Waiting [] := by
  rintro ⟨clen, hclen, hless⟩
  cases hclen
  exact absurd hless (by decide)

/-- With less of the body, it is still waited for. -/
theorem waiting_of_append (h : Bytes.find delim data = some i) (hwaiting : Waiting (data ++ rest)) : Waiting data := by
  obtain ⟨clen, hclen, hless⟩ := hwaiting
  rw [lines_append h] at hclen
  rw [split_request_append h] at hless
  refine ⟨clen, hclen, ?_⟩
  dsimp only at hless
  rw [List.length_append] at hless
  omega

end

namespace HTTPBridge

variable {bridge : HTTPBridge} {env : Surroundings} {data : Bytes} {chunks : List Chunk} {n : Nat}

variable (bridge env) in
theorem read_headers_of_waiting (h : Waiting data) :
    ∃ lines clen body, bridge.read_headers env data = .body lines clen body ∧ body.length < clen := by
  have hne : data ≠ [] := by
    rintro rfl
    exact not_waiting_nil h
  obtain ⟨clen, hclen, hless⟩ := h
  refine ⟨lines data, clen, (split_request data).2, ?_, hless⟩
  rw [read_headers, if_neg hne, hclen]
  exact if_pos hless

variable (bridge env) in
theorem read_headers_of_not_waiting (h : ¬ Waiting data) : ∃ served, bridge.read_headers env data = .closed served := by
  by_cases hne : data = []
  · exact ⟨_, if_pos hne⟩
  · rw [read_headers, if_neg hne]
    cases hclen : content_length 0 (lines data) with
    | error e => exact ⟨_, rfl⟩
    | ok clen => exact ⟨_, if_neg fun hless => h ⟨clen, hclen, hless⟩⟩

/-- What the second loop does with a chunk is what the first one would have done with it. -/
theorem handle_read_headers {i : Nat} (hfind : Bytes.find delim data = some i) (h : Waiting data) (chunk : Bytes) :
    bridge.handle env (bridge.read_headers env data) chunk = bridge.read_headers env (data ++ chunk) := by
  have hne : data ≠ [] := by
    rintro rfl
    exact not_waiting_nil h
  obtain ⟨clen, hclen, hless⟩ := h
  have hbody : bridge.read_headers env data = .body (lines data) clen (split_request data).2 := by
    rw [read_headers, if_neg hne, hclen]
    exact if_pos hless
  rw [hbody, handle, read_headers, if_neg (fun hnil => hne (List.append_eq_nil_iff.mp hnil).1),
    lines_append hfind, hclen, split_request_append hfind]

/-- A handler that has not had enough is at the loop that what it has received says. -/
theorem conn_of_received (hn : n ≤ chunks.length)
    (h : ∀ m < n, (Bytes.find delim (received (chunks.map Chunk.data) m)).isSome →
      Waiting (received (chunks.map Chunk.data) m)) :
    bridge.conn env chunks n =
      if (Bytes.find delim (received (chunks.map Chunk.data) n)).isSome then
        bridge.read_headers env (received (chunks.map Chunk.data) n)
      else .headers (received (chunks.map Chunk.data) n) := by
  induction n with
  | zero => rfl
  | succ n ih =>
    have hlast := ih (Nat.le_of_succ_le hn) fun m hm => h m (Nat.lt_succ_of_lt hm)
    have hmem : read (chunks.map Chunk.data) n ∈ chunks.map Chunk.data := read_mem (by rwa [List.length_map])
    obtain ⟨chunk, -, hchunk⟩ := List.mem_map.mp hmem
    show bridge.handle env (bridge.conn env chunks n) (read (chunks.map Chunk.data) n) = _
    rw [hlast, received_succ, ← hchunk]
    cases hfind : Bytes.find delim (received (chunks.map Chunk.data) n) with
    | some i =>
      have hwaiting := h n (Nat.lt_succ_self n) (by rw [hfind]; rfl)
      rw [Bytes.find_append hfind, if_pos Option.isSome_some, if_pos Option.isSome_some,
        handle_read_headers hfind hwaiting]
    | none =>
      rw [if_neg nofun, handle, if_neg chunk.ne_nil]

theorem received_all : received (chunks.map Chunk.data) chunks.length = stream chunks := by
  rw [← List.length_map Chunk.data, received_length]
  rfl

/-- Without the blank line, all of the stream is in the headers. -/
theorem conn_of_find_eq_none (h : Bytes.find delim (stream chunks) = none) :
    bridge.conn env chunks (chunks.length + 1) = bridge.read_headers env (stream chunks) := by
  have hnone (m : Nat) : Bytes.find delim (received (chunks.map Chunk.data) m) = none := by
    cases hfind : Bytes.find delim (received (chunks.map Chunk.data) m) with
    | none => rfl
    | some i =>
      obtain ⟨rest, hrest⟩ := received_begins (chunks.map Chunk.data) m
      rw [stream, ← hrest, Bytes.find_append hfind] at h
      cases h
  have hlast : bridge.conn env chunks chunks.length = .headers (stream chunks) := by
    rw [conn_of_received (Nat.le_refl _) fun m _ hsome => by rw [hnone m] at hsome; cases hsome]
    rw [hnone, if_neg nofun, received_all]
  show bridge.handle env (bridge.conn env chunks chunks.length) (read (chunks.map Chunk.data) chunks.length) = _
  rw [hlast, read_of_length_le (by rw [List.length_map])]
  rw [handle, if_pos rfl]

/-! ## Closing the connection -/

/-- Of a waiting body there will be no more. -/
theorem handle_body_nil {lines : List (List Char)} {clen : Int} {body : Bytes} (h : body.length < clen) :
    bridge.handle env (.body lines clen body) [] = .body lines clen body := by
  rw [handle, List.append_nil]
  exact if_pos h

/-- With a waiting body at the end of the stream, the handler reads forever. -/
theorem not_closes_of_waiting {m : Nat} (hend : chunks.length ≤ m) (h : Waiting data)
    (hconn : bridge.conn env chunks m = bridge.read_headers env data) : ¬ bridge.Closes env chunks := by
  rintro ⟨n, served, hclosed⟩
  obtain ⟨lines, clen, body, hbody, hless⟩ := read_headers_of_waiting bridge env h
  have hstuck := feed_of_stuck (by rwa [List.length_map]) (hconn.trans hbody) (handle_body_nil hless) n
  have hkept := feed_of_final hclosed (fun _ => rfl) m
  rw [Nat.add_comm] at hkept
  cases hkept.symm.trans hstuck

variable (bridge env) in
/-- The first state in which the handler has enough. -/
theorem closes_of_enough {m : Nat} (hm : m ≤ chunks.length)
    (h : (Bytes.find delim (received (chunks.map Chunk.data) m)).isSome ∧
      ¬ Waiting (received (chunks.map Chunk.data) m)) :
    ∃ k ≤ m, (Bytes.find delim (received (chunks.map Chunk.data) k)).isSome ∧
      ¬ Waiting (received (chunks.map Chunk.data) k) ∧
      (∀ j < k, (Bytes.find delim (received (chunks.map Chunk.data) j)).isSome →
        Waiting (received (chunks.map Chunk.data) j)) ∧
      bridge.conn env chunks k = bridge.read_headers env (received (chunks.map Chunk.data) k) := by
  classical
  have hexists : ∃ k, (Bytes.find delim (received (chunks.map Chunk.data) k)).isSome ∧
      ¬ Waiting (received (chunks.map Chunk.data) k) := ⟨m, h⟩
  have hbefore : ∀ j < Nat.find hexists, (Bytes.find delim (received (chunks.map Chunk.data) j)).isSome →
      Waiting (received (chunks.map Chunk.data) j) := by
    intro j hj hsome
    by_contra hnot
    exact Nat.find_min hexists hj ⟨hsome, hnot⟩
  have hle : Nat.find hexists ≤ m := Nat.find_min' hexists h
  obtain ⟨hfound, hwaiting⟩ := Nat.find_spec hexists
  refine ⟨Nat.find hexists, hle, hfound, hwaiting, hbefore, ?_⟩
  rw [conn_of_received (hle.trans hm) hbefore, if_pos hfound]

/-- Where all of the stream leaves the body waiting, it was waiting at each chunk. -/
theorem waiting_of_stream (h : Waiting (stream chunks)) (m : Nat)
    (hsome : (Bytes.find delim (received (chunks.map Chunk.data) m)).isSome) :
    Waiting (received (chunks.map Chunk.data) m) := by
  obtain ⟨rest, hrest⟩ := received_begins (chunks.map Chunk.data) m
  obtain ⟨j, hj⟩ := Option.isSome_iff_exists.mp hsome
  refine waiting_of_append hj (?_ : Waiting (_ ++ rest))
  rw [hrest]
  exact h

theorem closes_iff_not_waiting : bridge.Closes env chunks ↔ ¬ Waiting (stream chunks) := by
  constructor
  · intro hcloses hwaiting
    cases hfind : Bytes.find delim (stream chunks) with
    | none => exact not_closes_of_waiting (Nat.le_succ _) hwaiting (conn_of_find_eq_none hfind) hcloses
    | some i =>
      have hconn : bridge.conn env chunks chunks.length = bridge.read_headers env (stream chunks) := by
        rw [conn_of_received (Nat.le_refl _) fun m _ => waiting_of_stream hwaiting m, received_all, hfind,
          if_pos Option.isSome_some]
      exact not_closes_of_waiting (Nat.le_refl _) hwaiting hconn hcloses
  · intro hnot
    cases hfind : Bytes.find delim (stream chunks) with
    | none =>
      obtain ⟨served, hserved⟩ := read_headers_of_not_waiting bridge env hnot
      exact ⟨chunks.length + 1, served, (conn_of_find_eq_none hfind).trans hserved⟩
    | some i =>
      have hsome : (Bytes.find delim (received (chunks.map Chunk.data) chunks.length)).isSome := by
        rw [received_all, hfind]
        rfl
      obtain ⟨k, -, -, henough, -, hconn⟩ :=
        closes_of_enough bridge env (Nat.le_refl chunks.length) ⟨hsome, by rwa [received_all]⟩
      obtain ⟨served, hserved⟩ := read_headers_of_not_waiting bridge env henough
      exact ⟨k, served, hconn.trans hserved⟩

/-- The connection is closed exactly if at least as many bytes follow the headers as they say, or if what they
say is no length. -/
theorem closes_iff (bridge : HTTPBridge) (env : Surroundings) (chunks : List Chunk) :
    bridge.Closes env chunks ↔
      ∀ clen, content_length 0 (lines (stream chunks)) = .ok clen →
        clen ≤ (split_request (stream chunks)).2.length := by
  rw [closes_iff_not_waiting, Waiting]
  simp only [not_exists, not_and, Int.not_lt]

/-- A client that announces five bytes and closes its side after two. -/
theorem unfinished_body :
    ¬ (HTTPBridge.mk 8080 "aqap:agent:probe").Closes
      { loads := fun _ => .error .json_decode
        fresh := ⟨"message-1", "trace-1", "2026-01-01T00:00:00+00:00"⟩
        publish := fun _ => .ok "1-0" }
      [{ data := "POST /tasks HTTP/1.1\r\nContent-Length: 5\r\n\r\nab".toList.map fun c => UInt8.ofNat c.toNat
         ne_nil := by decide +kernel
         length_le := by decide +kernel }] := by
  rw [closes_iff_not_waiting, not_not]
  exact ⟨5, by decide +kernel, by decide +kernel⟩

end HTTPBridge

end Aqap.Sdk
