import Mistle.Lib.DataView
import Mistle.Protocol.Frame

/-!
# Data Frames of the Session Protocol

The codec of the other end of the wire. It takes stream ids and payload kinds as
numbers, of which it has to check that they are integers in range, and writes
them into a buffer through a view.

## Main definitions

* `JsNumber`: A number, told apart by whether it is an integer.
* `StreamDataFrame`: A decoded frame.
* `encodeDataFrame`, `decodeDataFrame`: The source's codec.
* `StreamDataFrame.ofTunnel`: A frame of sandboxd, in this protocol's words.

## Theorems

* `encodeDataFrame_eq`: What encodes, and to which bytes.
* `decodeDataFrame_eq`: What decodes, and to which frame.
* `encode_decode`: A frame that sandboxd decoded encodes back to its bytes.
-/

namespace Mistle

namespace SessionProtocol

def dataFrameHeaderByteLength : Nat := 6
def dataFrameKindData : Nat := 0x01
def payloadKindRawBytes : Nat := 0x01
def payloadKindWebSocketText : Nat := 0x02
def payloadKindWebSocketBinary : Nat := 0x03
def maxStreamId : Nat := 0xffffffff

/-- A number, as far as `Number.isInteger` and comparisons with integers tell it
    from others: every number that is no integer keeps its text only. -/
inductive JsNumber where
  | int (n : Int)
  | frac (text : String)
  deriving DecidableEq

instance : ToString JsNumber where
  toString
    | .int n => toString n
    | .frac text => text

/-- One decoded binary data frame. -/
structure StreamDataFrame where
  frameKind : Nat
  streamId : Nat
  payloadKind : Nat
  payload : List UInt8
  deriving DecidableEq

/-- The integer between 1 and the greatest stream id that a number is. -/
def validateStreamId : JsNumber → Except String Nat
  | .int n =>
    if n ≤ 0 ∨ n > maxStreamId then
      .error s!"streamId must be an integer between 1 and {maxStreamId}"
    else .ok n.toNat
  | .frac _ => .error s!"streamId must be an integer between 1 and {maxStreamId}"

/-- The payload kind that a number is. -/
def validatePayloadKind (payloadKind : JsNumber) : Except String Nat :=
  if payloadKind = .int payloadKindRawBytes then .ok payloadKindRawBytes
  else if payloadKind = .int payloadKindWebSocketText then .ok payloadKindWebSocketText
  else if payloadKind = .int payloadKindWebSocketBinary then .ok payloadKindWebSocketBinary
  else .error s!"payloadKind is not supported: {payloadKind}"

def encodeDataFrame (streamId payloadKind : JsNumber) (payload : List UInt8) :
    Except String (List UInt8) := do
  let streamId ← validateStreamId streamId
  let payloadKind ← validatePayloadKind payloadKind
  let encoded := List.replicate (dataFrameHeaderByteLength + payload.length) 0
  let encoded := DataView.setUint8 encoded 0 dataFrameKindData
  let encoded := DataView.setUint32 encoded 1 streamId
  let encoded := DataView.setUint8 encoded 5 payloadKind
  return DataView.setBytes encoded payload dataFrameHeaderByteLength

def decodeDataFrame (encoded : List UInt8) : Except String StreamDataFrame := do
  if encoded.length < dataFrameHeaderByteLength then
    throw s!"data frame must be at least {dataFrameHeaderByteLength} bytes long"
  let frameKind := DataView.getUint8 encoded 0
  if frameKind ≠ dataFrameKindData then
    throw s!"frameKind is not supported: {frameKind}"
  let streamId ← validateStreamId (.int (DataView.getUint32 encoded 1))
  let payloadKind ← validatePayloadKind (.int (DataView.getUint8 encoded 5))
  return { frameKind, streamId, payloadKind, payload := encoded.drop dataFrameHeaderByteLength }

/-- A frame of sandboxd, in the words of this protocol. -/
def StreamDataFrame.ofTunnel (frame : Mistle.StreamDataFrame) : StreamDataFrame where
  frameKind := dataFrameKindData
  streamId := frame.streamId.toNat
  payloadKind := frame.payloadKind.toNat
  payload := frame.payload

/-! ### The two codecs -/

theorem toNat_fromBeBytes (a b c d : UInt8) : (fromBeBytes a b c d).toNat
    = a.toNat * 2 ^ 24 + b.toNat * 2 ^ 16 + c.toNat * 2 ^ 8 + d.toNat := by
  have ha := a.toNat_lt
  have hb := b.toNat_lt
  have hc := c.toNat_lt
  have hd := d.toNat_lt
  unfold fromBeBytes
  rw [UInt32.toNat_ofNat']
  omega

theorem toBeBytes_fromBeBytes (a b c d : UInt8) : toBeBytes (fromBeBytes a b c d) = [a, b, c, d] := by
  have ha := a.toNat_lt
  have hb := b.toNat_lt
  have hc := c.toNat_lt
  have hd := d.toNat_lt
  unfold toBeBytes
  rw [toNat_fromBeBytes]
  simp only [List.cons.injEq, and_true, ← UInt8.toNat_inj, UInt8.toNat_ofNat']
  omega

/-- A stream id of 32 bits passes in both codecs or in neither. -/
theorem validateStreamId_eq (streamId : StreamId) :
    (validateStreamId (.int streamId.toNat)).toOption
      = (Mistle.validateStreamId streamId).toOption.map fun _ => streamId.toNat := by
  have hlt : streamId.toNat < 2 ^ 32 := streamId.toNat_lt
  unfold validateStreamId Mistle.validateStreamId
  by_cases hzero : streamId = 0
  · rw [hzero]
    rfl
  · have hpos : streamId.toNat ≠ 0 := fun h => hzero (UInt32.toNat_inj.mp h)
    have hrange : ¬ ((streamId.toNat : Int) ≤ 0 ∨ (streamId.toNat : Int) > maxStreamId) := by
      unfold maxStreamId
      omega
    simp only [if_neg hrange, beq_eq_false_iff_ne.mpr hzero, rejectIf_false, Except.toOption,
      Option.map_some, Int.toNat_natCast]

/-- A payload kind of one byte passes in both codecs or in neither. -/
theorem validatePayloadKind_eq (payloadKind : UInt8) :
    (validatePayloadKind (.int payloadKind.toNat)).toOption
      = (Mistle.validatePayloadKind payloadKind).toOption.map fun _ => payloadKind.toNat := by
  by_cases hraw : payloadKind = Mistle.payloadKindRawBytes
  · rw [hraw]
    rfl
  by_cases htext : payloadKind = payloadKindWebsocketText
  · rw [htext]
    rfl
  by_cases hbinary : payloadKind = payloadKindWebsocketBinary
  · rw [hbinary]
    rfl
  -- None of the three: both refuse.
  have hne : ∀ kind : UInt8, payloadKind ≠ kind →
      (JsNumber.int payloadKind.toNat) ≠ .int kind.toNat := by
    intro kind h heq
    rw [JsNumber.int.injEq, Int.natCast_inj, UInt8.toNat_inj] at heq
    exact h heq
  unfold validatePayloadKind Mistle.validatePayloadKind
  have hraw' : JsNumber.int payloadKind.toNat ≠ .int payloadKindRawBytes := hne _ hraw
  have htext' : JsNumber.int payloadKind.toNat ≠ .int payloadKindWebSocketText := hne _ htext
  have hbinary' : JsNumber.int payloadKind.toNat ≠ .int payloadKindWebSocketBinary := hne _ hbinary
  rw [if_neg hraw', if_neg htext', if_neg hbinary', bne_iff_ne.mpr hraw, bne_iff_ne.mpr htext,
    bne_iff_ne.mpr hbinary]
  rfl

@[simp] theorem toOption_ok {ε α : Type} (a : α) : (.ok a : Except ε α).toOption = some a := rfl

@[simp] theorem toOption_error {ε α : Type} (e : ε) :
    (.error e : Except ε α).toOption = none := rfl

theorem toOption_eq_some {ε α : Type} {x : Except ε α} {a : α} :
    x.toOption = some a ↔ x = .ok a := by
  cases x with
  | error e => simp only [toOption_error, reduceCtorEq]
  | ok b => simp only [toOption_ok, Option.some.injEq, Except.ok.injEq]

theorem toOption_bind {ε α β : Type} (x : Except ε α) (f : α → Except ε β) :
    (x >>= f).toOption = x.toOption.bind fun a => (f a).toOption := by
  cases x with
  | error e => rfl
  | ok a => rfl

/-- The buffer that encoding fills, as the bytes of a frame. -/
theorem filled_eq (streamId : StreamId) (payloadKind : UInt8) (payload : List UInt8) :
    DataView.setBytes (DataView.setUint8 (DataView.setUint32 (DataView.setUint8
      (List.replicate (dataFrameHeaderByteLength + payload.length) 0) 0 dataFrameKindData)
        1 streamId.toNat) 5 payloadKind.toNat) payload dataFrameHeaderByteLength
      = Mistle.StreamDataFrame.bytes { streamId, payloadKind, payload } := by
  have hzeros : List.replicate (dataFrameHeaderByteLength + payload.length) (0 : UInt8)
      = 0 :: 0 :: 0 :: 0 :: 0 :: 0 :: List.replicate payload.length 0 := by
    rw [List.replicate_add]
    rfl
  have hheader : DataView.setUint8 (DataView.setUint32 (DataView.setUint8
      (0 :: 0 :: 0 :: 0 :: 0 :: 0 :: List.replicate payload.length 0) 0 dataFrameKindData)
        1 streamId.toNat) 5 payloadKind.toNat
      = UInt8.ofNat dataFrameKindData :: toBeBytes streamId
        ++ UInt8.ofNat payloadKind.toNat :: List.replicate payload.length 0 := rfl
  have hlength : (toBeBytes streamId).length = 4 := rfl
  rw [hzeros, hheader, UInt8.ofNat_toNat]
  unfold DataView.setBytes
  -- The payload ends where the buffer does.
  rw [List.drop_eq_nil_of_le (by
    simp only [List.length_append, List.length_cons, List.length_replicate, hlength,
      dataFrameHeaderByteLength]
    omega), List.append_nil]
  rfl

/-- What encodes, and to which bytes. -/
theorem encodeDataFrame_eq (streamId : StreamId) (payloadKind : UInt8) (payload : List UInt8) :
    (encodeDataFrame (.int streamId.toNat) (.int payloadKind.toNat) payload).toOption
      = (encodeStreamDataFrame streamId payloadKind payload).toOption := by
  unfold encodeDataFrame encodeStreamDataFrame checkedFrame
  rw [toOption_bind, validateStreamId_eq]
  cases Mistle.validateStreamId streamId with
  | error e => rfl
  | ok _ =>
      simp only [toOption_ok, Option.map_some, Option.bind_some]
      rw [toOption_bind, validatePayloadKind_eq]
      cases Mistle.validatePayloadKind payloadKind with
      | error e => rfl
      | ok _ => exact congrArg some (filled_eq streamId payloadKind payload)

/-- Only a stream id and a payload kind that fit their bytes encode. -/
theorem exists_of_encodeDataFrame {streamId payloadKind : JsNumber} {payload bytes : List UInt8}
    (h : encodeDataFrame streamId payloadKind payload = .ok bytes) :
    ∃ (id : StreamId) (kind : UInt8), streamId = .int id.toNat ∧ payloadKind = .int kind.toNat ∧
      encodeStreamDataFrame id kind payload = .ok bytes := by
  have hid : ∃ id : StreamId, streamId = .int id.toNat := by
    cases streamId with
    | frac text => exact absurd h (by simp only [encodeDataFrame, validateStreamId, bind,
        Except.bind, reduceCtorEq, not_false_eq_true])
    | int n =>
        by_cases hrange : n ≤ 0 ∨ n > maxStreamId
        · simp only [encodeDataFrame, validateStreamId, if_pos hrange, bind, Except.bind,
            reduceCtorEq] at h
        · unfold maxStreamId at hrange
          refine ⟨UInt32.ofNat n.toNat, congrArg JsNumber.int ?_⟩
          rw [UInt32.toNat_ofNat']
          omega
  rcases hid with ⟨id, hid⟩
  have hkind : ∃ kind : UInt8, payloadKind = .int kind.toNat := by
    by_cases hraw : payloadKind = .int payloadKindRawBytes
    · exact ⟨Mistle.payloadKindRawBytes, hraw⟩
    by_cases htext : payloadKind = .int payloadKindWebSocketText
    · exact ⟨payloadKindWebsocketText, htext⟩
    by_cases hbinary : payloadKind = .int payloadKindWebSocketBinary
    · exact ⟨payloadKindWebsocketBinary, hbinary⟩
    have hnone := congrArg Except.toOption h
    rw [encodeDataFrame, toOption_bind, validatePayloadKind, if_neg hraw, if_neg htext,
      if_neg hbinary] at hnone
    cases hstream : validateStreamId streamId with
    | error e => rw [hstream] at hnone; exact absurd hnone (by simp)
    | ok n => rw [hstream] at hnone; exact absurd hnone (by simp)
  rcases hkind with ⟨kind, hkind⟩
  refine ⟨id, kind, hid, hkind, ?_⟩
  rw [← toOption_eq_some, ← encodeDataFrame_eq, ← hid, ← hkind, h, toOption_ok]

/-- What decodes, and to which frame. -/
theorem decodeDataFrame_eq (encoded : List UInt8) :
    (decodeDataFrame encoded).toOption
      = (decodeStreamDataFrame encoded).toOption.map StreamDataFrame.ofTunnel := by
  match encoded with
  | [] | [_] | [_, _] | [_, _, _] | [_, _, _, _] | [_, _, _, _, _] => rfl
  | kind :: a :: b :: c :: d :: payloadKind :: payload =>
      have hlength : ¬ (kind :: a :: b :: c :: d :: payloadKind :: payload).length
          < dataFrameHeaderByteLength := by
        simp only [List.length_cons, dataFrameHeaderByteLength]
        omega
      have hid : DataView.getUint32 (kind :: a :: b :: c :: d :: payloadKind :: payload) 1
          = (fromBeBytes a b c d).toNat := by
        rw [toNat_fromBeBytes]
        simp only [DataView.getUint32, DataView.getUint8, List.getD_cons_succ, List.getD_cons_zero]
      by_cases hkind : kind = dataFrameKind
      · have htunnel : decodeStreamDataFrame (kind :: a :: b :: c :: d :: payloadKind :: payload)
            = checkedFrame (fromBeBytes a b c d) payloadKind payload := by
          simp only [decodeStreamDataFrame, hkind, bne_self_eq_false, rejectIf_false, bind,
            Except.bind]
        rw [htunnel, decodeDataFrame, if_neg hlength, hid, hkind]
        unfold checkedFrame
        change (validateStreamId (.int (fromBeBytes a b c d).toNat) >>= _).toOption = _
        rw [toOption_bind, validateStreamId_eq]
        cases Mistle.validateStreamId (fromBeBytes a b c d) with
        | error e => rfl
        | ok _ =>
            change (validatePayloadKind (.int payloadKind.toNat) >>= _).toOption = _
            rw [toOption_bind, validatePayloadKind_eq]
            cases Mistle.validatePayloadKind payloadKind with
            | error e => rfl
            | ok _ => rfl
      · -- A kind that is no data kind is refused before anything else is read.
        have hkind' : DataView.getUint8 (kind :: a :: b :: c :: d :: payloadKind :: payload) 0
            ≠ dataFrameKindData := fun h => hkind (UInt8.toNat_inj.mp h)
        have htunnel : (decodeStreamDataFrame
            (kind :: a :: b :: c :: d :: payloadKind :: payload)).toOption = none := by
          unfold decodeStreamDataFrame
          simp only [bne_iff_ne.mpr hkind, rejectIf_true]
          rfl
        rw [htunnel, decodeDataFrame, if_neg hlength]
        simp only [hkind', ne_eq, not_false_eq_true, if_true]
        rfl

/-- A frame that sandboxd decoded encodes back to its bytes. -/
theorem encode_decode {bytes : List UInt8} {frame : Mistle.StreamDataFrame}
    (h : decodeStreamDataFrame bytes = .ok frame) :
    encodeStreamDataFrame frame.streamId frame.payloadKind frame.payload = .ok bytes := by
  match bytes with
  | [] | [_] | [_, _] | [_, _, _] | [_, _, _, _] | [_, _, _, _, _] =>
      exact absurd h (by simp only [decodeStreamDataFrame, reduceCtorEq, not_false_eq_true])
  | kind :: a :: b :: c :: d :: payloadKind :: payload =>
      unfold decodeStreamDataFrame at h
      cases hkind : kind != dataFrameKind with
      | true => exact absurd h (by
          simp only [hkind, rejectIf_true, bind, Except.bind, reduceCtorEq, not_false_eq_true])
      | false =>
          simp only [hkind, rejectIf_false, bind, Except.bind] at h
          have hfields := (checkedFrame_ok h).2
          rw [hfields] at h
          rw [hfields, encodeStreamDataFrame, h]
          simp only [Except.map, Mistle.StreamDataFrame.bytes, toBeBytes_fromBeBytes,
            bne_eq_false_iff_eq.mp hkind, List.cons_append, List.nil_append]

end SessionProtocol

end Mistle
