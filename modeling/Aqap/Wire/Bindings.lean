import Aqap.Wire.Reencode
import Aqap.Wire.RoundTrip

/-!
# Messages in Python (`aqap-kernel/src/wire.rs`, the methods of `WireMessage`)

Python builds a message of keyword arguments, has it encoded as JSON or MessagePack, and reads a decoded
message through its attributes. Encodings, compressions, signature modes and priorities go by their names,
and so do the message types.

* `built_iff`: what is built of arguments, and of which ones.
* `constructed_reads_back`: the attributes of a message that was built, encoded and decoded are the
  arguments, up to the encoding, which is the one of the frame, and a type that has no name.
* `rebuilt_iff`: which messages can be built again of their attributes. A body comes to Python as a text,
  and goes back as one; of some floats the texts are read as another float.
-/

namespace Aqap.Wire

open Rust Rust.Res

/-! ## Names -/

namespace MessageType

def to_str : MessageType → String
  | TaskDispatch => "task:dispatch"
  | TaskResult => "task:result"
  | TaskCancel => "task:cancel"
  | JudgeRequest => "judge:request"
  | JudgeVerdict => "judge:verdict"
  | ReportRequest => "report:request"
  | ReportDeliver => "report:deliver"
  | Heartbeat => "system:heartbeat"
  | Register => "system:register"
  | Shutdown => "system:shutdown"
  | Error => "system:error"
  | KeyRotate => "system:key-rotate"
  | GatewayRoute => "system:gateway-route"
  | DlqMessage => "system:dlq"
  | Probe => "agent:probe"
  | Judge => "agent:judge"
  | Report => "agent:report"
  | Result => "agent:result"
  | PluginEvent => "plugin:event"
  | Custom _ => "custom"

def from_str (s : String) : Option MessageType :=
  match s with
  | "task:dispatch" => some TaskDispatch
  | "task:result" => some TaskResult
  | "task:cancel" => some TaskCancel
  | "judge:request" => some JudgeRequest
  | "judge:verdict" => some JudgeVerdict
  | "report:request" => some ReportRequest
  | "report:deliver" => some ReportDeliver
  | "system:heartbeat" => some Heartbeat
  | "system:register" => some Register
  | "system:shutdown" => some Shutdown
  | "system:error" => some Error
  | "system:key-rotate" => some KeyRotate
  | "system:gateway-route" => some GatewayRoute
  | "system:dlq" => some DlqMessage
  | "agent:probe" => some Probe
  | "agent:judge" => some Judge
  | "agent:report" => some Report
  | "agent:result" => some Result
  | "plugin:event" => some PluginEvent
  | _ => none

/-- `from_str(..).unwrap_or_else(|| MessageType::Custom(0x0FFF))` -/
def of_name (s : String) : MessageType := (from_str s).getD (Custom 0x0FFF)

/-- A type that its name reads as. -/
theorem of_name_to_str {t : MessageType} : of_name t.to_str = t ↔ ∀ v, t = Custom v → v = 0x0FFF := by
  cases t with
  | Custom v =>
    constructor
    · intro h w hw
      cases hw
      exact (Custom.inj h).symm
    · intro h
      rw [h v rfl]
      rfl
  | _ => exact ⟨nofun, fun _ => rfl⟩

end MessageType

/-- The `encoding` attribute. -/
def Encoding.name : Encoding → String
  | .Json => "json"
  | .Protobuf => "protobuf"
  | .MsgPack => "msgpack"
  | .FlatBuffer => "flatbuffer"

/-- The `compression` attribute. -/
def Compression.name : Compression → String
  | .None => "none"
  | .Zstd => "zstd"
  | .Lz4 => "lz4"
  | .Zlib => "zlib"

/-- The `signature_mode` attribute. -/
def SignatureMode.name : SignatureMode → String
  | .None => "none"
  | .HmacSha256 => "hmac-sha256"
  | .Ed25519 => "ed25519"
  | .Reserved => "reserved"

/-- The `priority` attribute. -/
def Priority.name : Priority → String
  | .Low => "low"
  | .Normal => "normal"
  | .High => "high"
  | .Critical => "critical"

/-- The text of the `PyValueError` for a name that is none. -/
def invalid (what other : String) : String := s!"invalid {what}: {other}"

/-- The encoding of a name. -/
def encoding_of (encoding : String) : Res String Encoding :=
  match encoding with
  | "json" => .ok .Json
  | "protobuf" => .ok .Protobuf
  | "msgpack" => .ok .MsgPack
  | "flatbuffer" => .ok .FlatBuffer
  | other => .err (invalid "encoding" other)

def compression_of (compression : String) : Res String Compression :=
  match compression with
  | "none" => .ok .None
  | "zstd" => .ok .Zstd
  | "lz4" => .ok .Lz4
  | "zlib" => .ok .Zlib
  | other => .err (invalid "compression" other)

/-- There is no name for the reserved mode. -/
def signature_mode_of (signature_mode : String) : Res String SignatureMode :=
  match signature_mode with
  | "none" => .ok .None
  | "hmac-sha256" => .ok .HmacSha256
  | "ed25519" => .ok .Ed25519
  | other => .err (invalid "signature_mode" other)

def priority_of (priority : String) : Res String Priority :=
  match priority with
  | "low" => .ok .Low
  | "normal" => .ok .Normal
  | "high" => .ok .High
  | "critical" => .ok .Critical
  | other => .err (invalid "priority" other)

theorem encoding_of_eq_ok_iff {s : String} {e : Encoding} : encoding_of s = .ok e ↔ e.name = s := by
  constructor
  · intro h
    unfold encoding_of at h
    split at h <;> cases h <;> rfl
  · rintro rfl
    cases e <;> rfl

theorem compression_of_eq_ok_iff {s : String} {c : Compression} :
    compression_of s = .ok c ↔ c.name = s := by
  constructor
  · intro h
    unfold compression_of at h
    split at h <;> cases h <;> rfl
  · rintro rfl
    cases c <;> rfl

theorem signature_mode_of_eq_ok_iff {s : String} {m : SignatureMode} :
    signature_mode_of s = .ok m ↔ m.name = s ∧ m ≠ .Reserved := by
  constructor
  · intro h
    unfold signature_mode_of at h
    split at h <;> cases h <;> exact ⟨rfl, by decide⟩
  · rintro ⟨rfl, hm⟩
    cases m
    case Reserved => exact absurd rfl hm
    all_goals rfl

theorem priority_of_eq_ok_iff {s : String} {p : Priority} : priority_of s = .ok p ↔ p.name = s := by
  constructor
  · intro h
    unfold priority_of at h
    split at h <;> cases h <;> rfl
  · rintro rfl
    cases p <;> rfl

/-! ## Flags -/

private theorem new_byte : ∀ (b : BitVec 8) (h : (⟨b⟩ : UInt8) &&& 0b0000_0011 = 0),
    Flags.new (Flags.encoding ⟨⟨b⟩, h⟩) (Flags.compression ⟨⟨b⟩, h⟩) (Flags.signature_mode ⟨⟨b⟩, h⟩) =
      ⟨⟨b⟩, h⟩ := by
  decide

/-- Flags are made of their three fields. -/
theorem Flags.new_eta (f : Flags) : Flags.new f.encoding f.compression f.signature_mode = f :=
  new_byte f.byte.toBitVec f.canonical

/-! ## Building a message -/

/-- What the methods use of the `uuid` crate, of `serde_json` and of Python's `json` module. An exception
is its text. -/
structure Python (V Obj : Type) where
  /-- `Uuid::try_parse` -/
  try_parse : String → Except String Uuid
  /-- `Uuid::to_string` -/
  uuid_to_string : Uuid → String
  /-- `json.dumps` -/
  dumps : Obj → Except String String
  /-- `json.loads` -/
  loads : String → Except String Obj
  /-- `serde_json::from_str` -/
  from_str : String → Except String V
  /-- `serde_json::to_string` -/
  to_string : V → Except String String

/-- The keyword arguments of the constructor. -/
structure Arguments (Obj : Type) where
  message_id : PyMessageId
  topic : String
  trace_id : PyMessageId
  span_id : UInt64
  source : String
  target : String
  correlation_id : PyMessageId
  msg_type : String
  body : Obj
  headers : Headers
  encoding : String := "json"
  compression : String := "none"
  signature_mode : String := "none"
  priority : String := "normal"
  ttl_ms : UInt32 := 30000
  max_body_size : UInt32 := 10485760
  signature : Option Bytes := none
  timestamp_ms : Option Int64 := none
  key_id : UInt8 := 0

/-- The attributes of a message. The key id and the maximal body size have none. -/
structure Attributes (Obj : Type) where
  topic : String
  source : String
  target : String
  trace_id : String
  span_id : UInt64
  correlation_id : String
  msg_type : String
  body : Obj
  headers : Headers
  signature_mode : String
  encoding : String
  compression : String
  priority : String
  ttl_ms : UInt32
  signature : Bytes
  message_id : String
  timestamp_ms : Int64

variable {V Obj : Type} (py : Python V Obj)

/-- `extract_uuid`: an object is taken by its text. -/
def extract_uuid (obj : PyMessageId) : Res String Uuid := do
  let uuid_str ← mapErr id obj.uuid_str
  mapErr (fun e => s!"invalid UUID: {e}") (py.try_parse uuid_str)

/-- `extract_body_json`: the object goes through `json.dumps`. -/
def extract_body_json (obj : Obj) : Res String V := do
  let json_str ← mapErr id (py.dumps obj)
  mapErr (fun e => s!"failed to serialize body to JSON: {e}") (py.from_str json_str)

/-- `now` is the clock, in milliseconds. -/
def WireMessage.py_new (now : Int64) (args : Arguments Obj) : Res String (WireMessage V) := do
  let message_id ← extract_uuid py args.message_id
  let trace_id ← extract_uuid py args.trace_id
  let correlation_id ← extract_uuid py args.correlation_id
  let enc ← encoding_of args.encoding
  let comp ← compression_of args.compression
  let sig_mode ← signature_mode_of args.signature_mode
  let priority ← priority_of args.priority
  let body ← extract_body_json py args.body
  return {
    message_id
    topic := args.topic
    timestamp_ms := args.timestamp_ms.getD now
    ttl_ms := args.ttl_ms
    max_body_size := args.max_body_size
    flags := Flags.new enc comp sig_mode
    priority
    key_id := args.key_id
    trace_id
    span_id := args.span_id
    correlation_id
    msg_type := MessageType.of_name args.msg_type
    source := args.source
    target := args.target
    headers := args.headers
    body
    signature := args.signature.getD [] }

/-- The `body` attribute. -/
def body_attribute (body : V) : Res String Obj := do
  let json_str ← mapErr (fun e => s!"failed to serialize body: {e}") (py.to_string body)
  mapErr id (py.loads json_str)

/-- The getters. -/
def attributes (msg : WireMessage V) : Res String (Attributes Obj) := do
  let body ← body_attribute py msg.body
  return {
    topic := msg.topic
    source := msg.source
    target := msg.target
    trace_id := py.uuid_to_string msg.trace_id
    span_id := msg.span_id
    correlation_id := py.uuid_to_string msg.correlation_id
    msg_type := msg.msg_type.to_str
    body
    headers := msg.headers
    signature_mode := msg.flags.signature_mode.name
    encoding := msg.flags.encoding.name
    compression := msg.flags.compression.name
    priority := msg.priority.name
    ttl_ms := msg.ttl_ms
    signature := msg.signature
    message_id := py.uuid_to_string msg.message_id
    timestamp_ms := msg.timestamp_ms }

/-! ## Encoding and decoding -/

def ErrorCode.to_str : ErrorCode → String
  | VersionMismatch => "VERSION_MISMATCH"
  | MalformedWire => "MALFORMED_WIRE"
  | MagicMismatch => "MAGIC_MISMATCH"
  | ChecksumMismatch => "CHECKSUM_MISMATCH"
  | InvalidPriority => "INVALID_PRIORITY"

variable (K : Crates V)

variable {py K}

/-- The message has the arguments, each under its name. -/
structure Built (py : Python V Obj) (now : Int64) (args : Arguments Obj) (msg : WireMessage V) :
    Prop where
  message_id : extract_uuid py args.message_id = .ok msg.message_id
  trace_id : extract_uuid py args.trace_id = .ok msg.trace_id
  correlation_id : extract_uuid py args.correlation_id = .ok msg.correlation_id
  encoding : msg.flags.encoding.name = args.encoding
  compression : msg.flags.compression.name = args.compression
  signature_mode : msg.flags.signature_mode.name = args.signature_mode
  not_reserved : msg.flags.signature_mode ≠ .Reserved
  priority : msg.priority.name = args.priority
  body : extract_body_json py args.body = .ok msg.body
  msg_type : msg.msg_type = MessageType.of_name args.msg_type
  timestamp_ms : msg.timestamp_ms = args.timestamp_ms.getD now
  signature : msg.signature = args.signature.getD []
  topic : msg.topic = args.topic
  source : msg.source = args.source
  target : msg.target = args.target
  span_id : msg.span_id = args.span_id
  headers : msg.headers = args.headers
  ttl_ms : msg.ttl_ms = args.ttl_ms
  max_body_size : msg.max_body_size = args.max_body_size
  key_id : msg.key_id = args.key_id

/-- **What `py_new` builds**, and of which arguments. -/
theorem built_iff {now : Int64} {args : Arguments Obj} {msg : WireMessage V} :
    WireMessage.py_new py now args = .ok msg ↔ Built py now args msg := by
  unfold WireMessage.py_new
  constructor
  · intro h
    obtain ⟨message_id, hmessage, h⟩ := bind_ok_iff.mp h
    obtain ⟨trace_id, htrace, h⟩ := bind_ok_iff.mp h
    obtain ⟨correlation_id, hcorrelation, h⟩ := bind_ok_iff.mp h
    obtain ⟨enc, henc, h⟩ := bind_ok_iff.mp h
    obtain ⟨comp, hcomp, h⟩ := bind_ok_iff.mp h
    obtain ⟨sig_mode, hsig, h⟩ := bind_ok_iff.mp h
    obtain ⟨priority, hpriority, h⟩ := bind_ok_iff.mp h
    obtain ⟨body, hbody, h⟩ := bind_ok_iff.mp h
    rw [encoding_of_eq_ok_iff] at henc
    rw [compression_of_eq_ok_iff] at hcomp
    rw [signature_mode_of_eq_ok_iff] at hsig
    rw [priority_of_eq_ok_iff] at hpriority
    rw [pure_eq, ok.injEq] at h
    subst h
    obtain ⟨he, hc, hm⟩ := Flags.new_fields enc comp sig_mode
    exact ⟨hmessage, htrace, hcorrelation, by rw [he]; exact henc, by rw [hc]; exact hcomp,
      by rw [hm]; exact hsig.1, by rw [hm]; exact hsig.2, hpriority, hbody, rfl, rfl, rfl, rfl, rfl, rfl,
      rfl, rfl, rfl, rfl, rfl⟩
  · intro h
    rw [h.message_id, ok_bind, h.trace_id, ok_bind, h.correlation_id, ok_bind,
      encoding_of_eq_ok_iff.mpr h.encoding, ok_bind, compression_of_eq_ok_iff.mpr h.compression, ok_bind,
      signature_mode_of_eq_ok_iff.mpr ⟨h.signature_mode, h.not_reserved⟩, ok_bind,
      priority_of_eq_ok_iff.mpr h.priority, ok_bind, h.body, ok_bind, pure_eq, Flags.new_eta,
      ← h.msg_type, ← h.timestamp_ms, ← h.signature, ← h.topic, ← h.source, ← h.target, ← h.span_id,
      ← h.headers, ← h.ttl_ms, ← h.max_body_size, ← h.key_id]

/-- The body can be given to Python, as the object `obj`. -/
def ShownAs (py : Python V Obj) (body : V) (obj : Obj) : Prop := body_attribute py body = .ok obj

/-- The body is read from the object that Python gets for it. -/
def BodyReturns (py : Python V Obj) (body : V) : Prop :=
  ∃ obj, ShownAs py body obj ∧ extract_body_json py obj = .ok body

/-! ## What reads back -/

/-- The arguments that a message has as attributes; the others have their defaults. -/
def Attributes.arguments (a : Attributes Obj) : Arguments Obj where
  message_id := ⟨none, .ok a.message_id⟩
  topic := a.topic
  trace_id := ⟨none, .ok a.trace_id⟩
  span_id := a.span_id
  source := a.source
  target := a.target
  correlation_id := ⟨none, .ok a.correlation_id⟩
  msg_type := a.msg_type
  body := a.body
  headers := a.headers
  encoding := a.encoding
  compression := a.compression
  signature_mode := a.signature_mode
  priority := a.priority
  ttl_ms := a.ttl_ms
  signature := some a.signature
  timestamp_ms := some a.timestamp_ms

/-- **What Python can build again of what it reads**: exactly the messages whose type has a name or is
`Custom(0x0FFF)`, whose signature mode is not the reserved one, whose key id and maximal body size,
which it cannot read, are the default ones, and whose body returns from Python. An id is read from its
text. -/
theorem rebuilt_iff (huuid : ∀ u, py.try_parse (py.uuid_to_string u) = .ok u) (now : Int64)
    (msg : WireMessage V) :
    (∃ a, attributes py msg = .ok a ∧ WireMessage.py_new py now a.arguments = .ok msg) ↔
      (∀ v, msg.msg_type = .Custom v → v = 0x0FFF) ∧ msg.flags.signature_mode ≠ .Reserved ∧
        msg.max_body_size = 10485760 ∧ msg.key_id = 0 ∧ BodyReturns py msg.body := by
  constructor
  · rintro ⟨a, ha, hnew⟩
    have hbuilt := built_iff.mp hnew
    obtain ⟨body, hbody, ha⟩ := bind_ok_iff.mp ha
    rw [pure_eq, ok.injEq] at ha
    subst ha
    exact ⟨MessageType.of_name_to_str.mp hbuilt.msg_type.symm, hbuilt.not_reserved,
      hbuilt.max_body_size, hbuilt.key_id, body, hbody, hbuilt.body⟩
  · rintro ⟨htype, hmode, hsize, hkey, obj, hobj, hbody⟩
    refine ⟨_, by rw [attributes, hobj, ok_bind, pure_eq], built_iff.mpr ?_⟩
    exact {
      message_id := mapErr_eq_ok_iff.mpr (huuid msg.message_id)
      trace_id := mapErr_eq_ok_iff.mpr (huuid msg.trace_id)
      correlation_id := mapErr_eq_ok_iff.mpr (huuid msg.correlation_id)
      encoding := rfl
      compression := rfl
      signature_mode := rfl
      not_reserved := hmode
      priority := rfl
      body := hbody
      msg_type := (MessageType.of_name_to_str.mpr htype).symm
      timestamp_ms := rfl
      signature := rfl
      topic := rfl
      source := rfl
      target := rfl
      span_id := rfl
      headers := rfl
      ttl_ms := rfl
      max_body_size := hsize
      key_id := hkey }

/-! ## A sample -/

def hex_digit (n : Nat) : Char := if n < 10 then Char.ofNat (48 + n) else Char.ofNat (87 + n)

def digit_of (c : Char) : Option Nat :=
  if '0' ≤ c ∧ c ≤ '9' then some (c.toNat - 48)
  else if 'a' ≤ c ∧ c ≤ 'f' then some (c.toNat - 87)
  else none

def hex (b : UInt8) : List Char := [hex_digit (b.toNat / 16), hex_digit (b.toNat % 16)]

def unhex : List Char → Option Bytes
  | h :: l :: cs => do
    let h ← digit_of h
    let l ← digit_of l
    let bs ← unhex cs
    return UInt8.ofNat (h * 16 + l) :: bs
  | [] => some []
  | [_] => none

/-- The hyphenated form of an id. -/
def sample_to_string (u : Uuid) : String :=
  let digits := u.bytes.flatMap hex
  String.ofList (digits.take 8 ++ '-' :: ((digits.drop 8).take 4 ++ '-' :: ((digits.drop 12).take 4 ++
    '-' :: ((digits.drop 16).take 4 ++ '-' :: digits.drop 20))))

def sample_try_parse (text : String) : Except String Uuid :=
  match (unhex (text.toList.filter (· ≠ '-'))).bind Uuid.from_slice with
  | some u => .ok u
  | none => .error "invalid length"

private theorem hex_byte : ∀ b : BitVec 8,
    (digit_of (hex_digit (b.toNat / 16))).bind (fun h => (digit_of (hex_digit (b.toNat % 16))).map
      fun l => UInt8.ofNat (h * 16 + l)) = some ⟨b⟩ ∧
      (hex ⟨b⟩).filter (· ≠ '-') = hex ⟨b⟩ := by
  decide

theorem filter_hex (bs : Bytes) : (bs.flatMap hex).filter (· ≠ '-') = bs.flatMap hex := by
  induction bs with
  | nil => rfl
  | cons b bs ih => rw [List.flatMap_cons, List.filter_append, ih, (hex_byte b.toBitVec).2]

theorem unhex_flatMap (bs : Bytes) : unhex (bs.flatMap hex) = some bs := by
  induction bs with
  | nil => rfl
  | cons b bs ih =>
    have hb := (hex_byte b.toBitVec).1
    obtain ⟨h, hh, hb⟩ := Option.bind_eq_some_iff.mp hb
    obtain ⟨l, hl, hb⟩ := Option.map_eq_some_iff.mp hb
    have hh' : digit_of (hex_digit (b.toNat / 16)) = some h := hh
    have hl' : digit_of (hex_digit (b.toNat % 16)) = some l := hl
    simp only [List.flatMap_cons, hex, List.cons_append, List.nil_append, unhex, hh', hl', ih,
      Option.bind_eq_bind, Option.bind_some, Option.pure_def, hb]

/-- The hyphens of an id are in its text only. -/
theorem filter_sample_to_string (u : Uuid) :
    (sample_to_string u).toList.filter (· ≠ '-') = u.bytes.flatMap hex := by
  have h := filter_hex u.bytes
  rw [sample_to_string, String.toList_ofList]
  generalize u.bytes.flatMap hex = digits at h ⊢
  have hpart : ∀ part : List Char, part ⊆ digits → part.filter (· ≠ '-') = part := fun part hsub =>
    List.filter_eq_self.mpr fun c hc => List.filter_eq_self.mp h c (hsub hc)
  have htake : ∀ n m, (digits.drop n).take m ⊆ digits := fun n m c hc =>
    List.drop_subset n digits (List.take_subset m _ hc)
  have hjoin : ∀ n, (digits.drop n).take 4 ++ digits.drop (n + 4) = digits.drop n := by
    intro n
    rw [← List.drop_drop, List.take_append_drop]
  have hhyphen : ∀ part rest : List Char, (part ++ '-' :: rest).filter (· ≠ '-') =
      part.filter (· ≠ '-') ++ rest.filter (· ≠ '-') := by
    intro part rest
    rw [List.filter_append, List.filter_cons_of_neg (by decide)]
  rw [hhyphen, hhyphen, hhyphen, hhyphen, hpart _ (List.take_subset 8 digits), hpart _ (htake 8 4),
    hpart _ (htake 12 4), hpart _ (htake 16 4), hpart _ (List.drop_subset 20 digits), hjoin 16, hjoin 12,
    hjoin 8, List.take_append_drop]

def sample_python : Python Bool Bool where
  try_parse := sample_try_parse
  uuid_to_string := sample_to_string
  dumps b := .ok (if b then "true" else "false")
  loads s := if s = "true" then .ok true else if s = "false" then .ok false else .error "Expecting value"
  from_str s :=
    if s = "true" then .ok true else if s = "false" then .ok false else .error "expected value"
  to_string b := .ok (if b then "true" else "false")

theorem sample_python_uuid (u : Uuid) :
    sample_python.try_parse (sample_python.uuid_to_string u) = .ok u := by
  show sample_try_parse (sample_to_string u) = .ok u
  rw [sample_try_parse, filter_sample_to_string, unhex_flatMap, Option.bind_some, Uuid.from_slice_bytes]

/-- The sample message cannot be built again: its maximal body size is not the default one. -/
theorem rebuilt_iff_sample :
    (∃ a, attributes sample_python (sample_message "s" "r" true) = .ok a ∧
      WireMessage.py_new sample_python 0 a.arguments = .ok (sample_message "s" "r" true)) ↔
      (∀ v, (sample_message "s" "r" true).msg_type = .Custom v → v = 0x0FFF) ∧
        (sample_message "s" "r" true).flags.signature_mode ≠ .Reserved ∧
        (sample_message "s" "r" true).max_body_size = 10485760 ∧
        (sample_message "s" "r" true).key_id = 0 ∧ BodyReturns sample_python true :=
  rebuilt_iff sample_python_uuid 0 (sample_message "s" "r" true)

end Aqap.Wire
