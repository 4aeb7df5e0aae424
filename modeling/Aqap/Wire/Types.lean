import Mathlib.Tactic.Common

/-!
# Wire types (`aqap-kernel/src/types.rs`, `aqap-kernel/src/error.rs`)

The message types with their codes, the flags byte with its three packed fields, and the error of
the wire layer.

* `MessageType.from_u16_to_u16`: a code reads back as its message type, except for a `Custom` type
  that carries the code of a named one (`MessageType.Canonical`).
* `Flags` holds only bytes that `Flags.new` or `Flags.from_byte` can produce: the two reserved bits
  are zero. `Flags.from_byte_as_byte` reads them back.
-/

namespace Aqap.Wire

/-! ## Message types -/

/-- The message types. -/
inductive MessageType where
  | TaskDispatch | TaskResult | TaskCancel
  | JudgeRequest | JudgeVerdict
  | ReportRequest | ReportDeliver
  | Heartbeat | Register | Shutdown | Error | KeyRotate | GatewayRoute | DlqMessage
  | Probe | Judge | Report | Result
  | PluginEvent
  | Custom (v : UInt16)
  deriving DecidableEq, Repr

namespace MessageType

/-- The message type of a code; a code without a name is `Custom`. -/
def from_u16 (v : UInt16) : MessageType :=
  match v.toNat with
  | 0x0000 => TaskDispatch
  | 0x0001 => TaskResult
  | 0x0002 => TaskCancel
  | 0x0010 => JudgeRequest
  | 0x0011 => JudgeVerdict
  | 0x0020 => ReportRequest
  | 0x0021 => ReportDeliver
  | 0x0100 => Heartbeat
  | 0x0101 => Register
  | 0x0102 => Shutdown
  | 0x0103 => Error
  | 0x0104 => KeyRotate
  | 0x0105 => GatewayRoute
  | 0x0106 => DlqMessage
  | 0x0200 => Probe
  | 0x0201 => Judge
  | 0x0202 => Report
  | 0x0203 => Result
  | 0x0300 => PluginEvent
  | _ => Custom v

def to_u16 : MessageType → UInt16
  | TaskDispatch => 0x0000
  | TaskResult => 0x0001
  | TaskCancel => 0x0002
  | JudgeRequest => 0x0010
  | JudgeVerdict => 0x0011
  | ReportRequest => 0x0020
  | ReportDeliver => 0x0021
  | Heartbeat => 0x0100
  | Register => 0x0101
  | Shutdown => 0x0102
  | Error => 0x0103
  | KeyRotate => 0x0104
  | GatewayRoute => 0x0105
  | DlqMessage => 0x0106
  | Probe => 0x0200
  | Judge => 0x0201
  | Report => 0x0202
  | Result => 0x0203
  | PluginEvent => 0x0300
  | Custom v => v

/-- Not `Custom` of the code of a named type. -/
def Canonical : MessageType → Prop
  | Custom v => from_u16 v = Custom v
  | _ => True

instance : DecidablePred Canonical := fun t => by
  cases t <;> unfold Canonical <;> infer_instance

theorem from_u16_to_u16 {t : MessageType} (h : t.Canonical) : from_u16 t.to_u16 = t := by
  cases t with
  | Custom v => exact h
  | _ => rfl

theorem to_u16_from_u16 (v : UInt16) : (from_u16 v).to_u16 = v := by
  unfold from_u16
  split <;> first | rfl | (rename_i h; exact UInt16.toNat_inj.mp h.symm)

/-- A decoded message type is canonical. -/
theorem canonical_from_u16 (v : UInt16) : (from_u16 v).Canonical := by
  cases h : from_u16 v with
  | Custom w =>
    have hw := to_u16_from_u16 v
    rw [h, to_u16] at hw
    rw [hw] at h ⊢
    exact h
  | _ => trivial

end MessageType

/-! ## Flags -/

/-- Body encoding (flags bits 7-6). -/
inductive Encoding where
  | Json | Protobuf | MsgPack | FlatBuffer
  deriving DecidableEq, Repr

/-- Compression algorithm (flags bits 5-4). -/
inductive Compression where
  | None | Zstd | Lz4 | Zlib
  deriving DecidableEq, Repr

/-- Signature mode (flags bits 3-2). -/
inductive SignatureMode where
  | None | HmacSha256 | Ed25519 | Reserved
  deriving DecidableEq, Repr

/-- `encoding as u8`. -/
def Encoding.toUInt8 : Encoding → UInt8
  | .Json => 0b00
  | .Protobuf => 0b01
  | .MsgPack => 0b10
  | .FlatBuffer => 0b11

/-- `compression as u8`. -/
def Compression.toUInt8 : Compression → UInt8
  | .None => 0b00
  | .Zstd => 0b01
  | .Lz4 => 0b10
  | .Zlib => 0b11

/-- `signature as u8`. -/
def SignatureMode.toUInt8 : SignatureMode → UInt8
  | .None => 0b00
  | .HmacSha256 => 0b01
  | .Ed25519 => 0b10
  | .Reserved => 0b11

/-- The length of a signature of the mode. -/
def SignatureMode.sig_len : SignatureMode → Nat
  | .None => 0
  | .HmacSha256 => 32
  | .Ed25519 => 64
  | .Reserved => 0

theorem SignatureMode.sig_len_le (s : SignatureMode) : s.sig_len ≤ 64 := by
  cases s <;> decide

/-- The flags byte (header offset 10). Its field is private in the source: every value comes from
`Flags.new` or `Flags.from_byte`, so the reserved bits 1-0 are zero. -/
structure Flags where
  byte : UInt8
  canonical : byte &&& 0b0000_0011 = 0
  deriving DecidableEq, Repr

namespace Flags

def new (encoding : Encoding) (compression : Compression) (signature : SignatureMode) : Flags where
  byte := (encoding.toUInt8 <<< 6) ||| (compression.toUInt8 <<< 4) ||| (signature.toUInt8 <<< 2)
  canonical := by cases encoding <;> cases compression <;> cases signature <;> decide

def encoding (f : Flags) : Encoding :=
  match ((f.byte >>> 6) &&& 0b11).toNat with
  | 0b00 => .Json
  | 0b01 => .Protobuf
  | 0b10 => .MsgPack
  | _ => .FlatBuffer

def compression (f : Flags) : Compression :=
  match ((f.byte >>> 4) &&& 0b11).toNat with
  | 0b00 => .None
  | 0b01 => .Zstd
  | 0b10 => .Lz4
  | _ => .Zlib

def signature_mode (f : Flags) : SignatureMode :=
  match ((f.byte >>> 2) &&& 0b11).toNat with
  | 0b00 => .None
  | 0b01 => .HmacSha256
  | 0b10 => .Ed25519
  | _ => .Reserved

def as_byte (f : Flags) : UInt8 := f.byte

def from_byte (b : UInt8) : Flags where
  byte := b &&& 0b1111_1100
  canonical := by rw [UInt8.and_assoc]; exact UInt8.and_zero

@[ext] theorem ext {f g : Flags} (h : f.byte = g.byte) : f = g := by
  cases f; cases g; cases h; rfl

private theorem and_mask : ∀ b : BitVec 8, b &&& 0b0000_0011#8 = 0#8 → b &&& 0b1111_1100#8 = b := by
  decide

theorem from_byte_as_byte (f : Flags) : from_byte f.as_byte = f := by
  apply Flags.ext
  have h := congrArg UInt8.toBitVec f.canonical
  exact UInt8.eq_of_toBitVec_eq (and_mask f.byte.toBitVec h)

/-- The three fields of new flags are the ones that they were made of. -/
theorem new_fields (e : Encoding) (c : Compression) (s : SignatureMode) :
    (new e c s).encoding = e ∧ (new e c s).compression = c ∧ (new e c s).signature_mode = s := by
  cases e <;> cases c <;> cases s <;> decide

end Flags

/-! ## Priority and constants -/

/-- Priority (header offset 11). -/
inductive Priority where
  | Low | Normal | High | Critical
  deriving DecidableEq, Repr

/-- `priority as u8`. -/
def Priority.toUInt8 : Priority → UInt8
  | .Low => 0
  | .Normal => 1
  | .High => 2
  | .Critical => 3

/-- The bytes `AQAP`. -/
def MAGIC : UInt32 := 0x4151_4150
def VERSION_MAJOR : UInt16 := 3
def VERSION_MINOR : UInt16 := 0
def VERSION_PATCH : UInt16 := 0
def HEADER_SIZE : Nat := 64

/-! ## Errors -/

/-- The error codes that the wire layer uses. -/
inductive ErrorCode where
  | VersionMismatch | MalformedWire | MagicMismatch | ChecksumMismatch | InvalidPriority
  deriving DecidableEq, Repr

/-- `KernelError::Wire`. -/
structure KernelError where
  code : ErrorCode
  detail : String
  deriving DecidableEq, Repr

end Aqap.Wire
