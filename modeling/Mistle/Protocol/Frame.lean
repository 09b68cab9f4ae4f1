import Mathlib.Algebra.Ring.Nat
import Mistle.Protocol.Validation

/-!
# Binary Data Frames

A data frame is one byte of frame kind, four bytes of stream id in big-endian
order, one byte of payload kind and the payload. Encoding and decoding check the
same two fields, so a frame that could be encoded decodes to itself, and the
model passes decoded frames around instead of bytes.

## Main definitions

* `checkedFrame`: The checks of encoding, without the bytes.
* `StreamDataFrame.bytes`: The bytes of a frame.
* `encodeStreamDataFrame`, `decodeStreamDataFrame`: The source's codec.

## Theorems

* `decode_encode`: What encodes decodes to the same frame.
* `checkedFrame_ok`: A checked frame has a stream id and a known payload kind.
* `checkedFrame_of_ne_zero`: A raw frame of a stream passes the checks.
* `exists_encode`: A frame of a stream and a known payload kind encodes.
-/

namespace Mistle

/-- A frame, if its stream id and payload kind may be sent. -/
def checkedFrame (streamId : StreamId) (payloadKind : UInt8) (payload : List UInt8) :
    Except TunnelProtocolError StreamDataFrame := do
  validateStreamId streamId
  validatePayloadKind payloadKind
  return { streamId, payloadKind, payload }

/-- Big-endian bytes of a 32-bit integer. -/
def toBeBytes (n : UInt32) : List UInt8 :=
  [UInt8.ofNat (n.toNat / 2 ^ 24), UInt8.ofNat (n.toNat / 2 ^ 16), UInt8.ofNat (n.toNat / 2 ^ 8),
    UInt8.ofNat n.toNat]

/-- The 32-bit integer of four big-endian bytes. -/
def fromBeBytes (a b c d : UInt8) : UInt32 :=
  UInt32.ofNat (a.toNat * 2 ^ 24 + b.toNat * 2 ^ 16 + c.toNat * 2 ^ 8 + d.toNat)

/-- The bytes of a frame. -/
def StreamDataFrame.bytes (frame : StreamDataFrame) : List UInt8 :=
  dataFrameKind :: toBeBytes frame.streamId ++ frame.payloadKind :: frame.payload

def encodeStreamDataFrame (streamId : StreamId) (payloadKind : UInt8) (payload : List UInt8) :
    Except TunnelProtocolError (List UInt8) :=
  (checkedFrame streamId payloadKind payload).map StreamDataFrame.bytes

def decodeStreamDataFrame : List UInt8 → Except TunnelProtocolError StreamDataFrame
  | kind :: a :: b :: c :: d :: payloadKind :: payload => do
    rejectIf (kind != dataFrameKind) s!"frameKind is not supported: {kind}"
    checkedFrame (fromBeBytes a b c d) payloadKind payload
  | _ => .error ⟨s!"data frame must be at least {dataFrameHeaderLen} bytes long"⟩

@[simp] theorem rejectIf_false (message : String) : rejectIf false message = .ok () := rfl

@[simp] theorem rejectIf_true (message : String) : rejectIf true message = .error ⟨message⟩ := rfl

theorem fromBeBytes_toBeBytes (n : UInt32) :
    fromBeBytes (UInt8.ofNat (n.toNat / 2 ^ 24)) (UInt8.ofNat (n.toNat / 2 ^ 16))
      (UInt8.ofNat (n.toNat / 2 ^ 8)) (UInt8.ofNat n.toNat) = n := by
  have hlt : n.toNat < 2 ^ 32 := n.toNat_lt
  unfold fromBeBytes
  simp only [UInt8.toNat_ofNat']
  have hsum : n.toNat / 2 ^ 24 % 2 ^ 8 * 2 ^ 24 + n.toNat / 2 ^ 16 % 2 ^ 8 * 2 ^ 16
      + n.toNat / 2 ^ 8 % 2 ^ 8 * 2 ^ 8 + n.toNat % 2 ^ 8 = n.toNat := by omega
  rw [hsum, UInt32.ofNat_toNat]

theorem checkedFrame_ok {streamId : StreamId} {payloadKind : UInt8} {payload : List UInt8}
    {frame : StreamDataFrame} (h : checkedFrame streamId payloadKind payload = .ok frame) :
    streamId ≠ 0 ∧ frame = { streamId, payloadKind, payload } := by
  unfold checkedFrame validateStreamId at h
  cases hid : streamId == 0 with
  | true => simp only [hid, rejectIf_true, bind, Except.bind, reduceCtorEq] at h
  | false =>
      refine ⟨by simpa only [beq_eq_false_iff_ne] using hid, ?_⟩
      cases hkind : validatePayloadKind payloadKind with
      | error e =>
          simp only [hid, hkind, rejectIf_false, bind, Except.bind, reduceCtorEq] at h
      | ok _ =>
          simp only [hid, hkind, rejectIf_false, bind, Except.bind, pure, Except.pure,
            Except.ok.injEq] at h
          exact h.symm

/-- A raw frame of any stream but zero passes the checks. -/
theorem checkedFrame_of_ne_zero {streamId : StreamId} (h : streamId ≠ 0) (payload : List UInt8) :
    checkedFrame streamId payloadKindRawBytes payload
      = .ok { streamId, payloadKind := payloadKindRawBytes, payload } := by
  have hid : (streamId == 0) = false := beq_eq_false_iff_ne.mpr h
  unfold checkedFrame validateStreamId
  rw [hid]
  rfl

/-- Every stream but zero may send every known payload kind. -/
theorem exists_encode {streamId : StreamId} {payloadKind : UInt8} (hid : streamId ≠ 0)
    (hkind : payloadKind ∈
      [payloadKindRawBytes, payloadKindWebsocketText, payloadKindWebsocketBinary])
    (payload : List UInt8) :
    ∃ bytes, encodeStreamDataFrame streamId payloadKind payload = .ok bytes := by
  have hsupported : validatePayloadKind payloadKind = .ok () := by
    simp only [List.mem_cons, List.not_mem_nil, or_false] at hkind
    rcases hkind with rfl | rfl | rfl
    · rfl
    · rfl
    · rfl
  refine ⟨StreamDataFrame.bytes { streamId, payloadKind, payload }, ?_⟩
  unfold encodeStreamDataFrame checkedFrame validateStreamId
  rw [beq_eq_false_iff_ne.mpr hid, rejectIf_false, hsupported]
  rfl

theorem decode_encode {streamId : StreamId} {payloadKind : UInt8} {payload bytes : List UInt8}
    (h : encodeStreamDataFrame streamId payloadKind payload = .ok bytes) :
    decodeStreamDataFrame bytes = .ok { streamId, payloadKind, payload } := by
  unfold encodeStreamDataFrame at h
  cases hframe : checkedFrame streamId payloadKind payload with
  | error e => simp only [hframe, Except.map, reduceCtorEq] at h
  | ok frame =>
      simp only [hframe, Except.map, Except.ok.injEq] at h
      rw [(checkedFrame_ok hframe).2] at h hframe
      rw [← h]
      simp only [StreamDataFrame.bytes, toBeBytes, List.cons_append, List.nil_append,
        decodeStreamDataFrame, bne_self_eq_false, rejectIf_false, fromBeBytes_toBeBytes]
      exact hframe

end Mistle
