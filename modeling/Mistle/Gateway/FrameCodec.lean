import Mistle.SessionProtocol.DataFrame

/-!
# The Frame Codec of the Gateway

The gateway moves a data frame from one stream to another without decoding it: it
reads the header in place and writes another stream id over the old one. That is
worth something only if it accepts the frames that the two ends of the wire accept
and leaves the bytes that encoding the moved frame would have given.

## Main definitions

* `TunnelDataFrameHeader`: What the gateway reads of a frame.
* `readDataFrameHeader`, `rewriteStreamId`: The source's codec.

## Theorems

* `readDataFrameHeader_eq`: The header of what decodes, and of nothing else.
* `setUint32_bytes`: Writing a stream id into the bytes of a frame.
* `rewriteStreamId_eq`: Rewriting is decoding, then encoding for another stream.
* `data_frame_codecs_agree`: The three codecs are one.
-/

namespace Mistle

open SessionProtocol (JsNumber decodeDataFrame encodeDataFrame toOption_ok toOption_error
  toOption_eq_some)

namespace Gateway

structure TunnelDataFrameHeader where
  payloadKind : Nat
  streamId : Nat
  deriving DecidableEq

def isSupportedDataFramePayloadKind (payloadKind : Nat) : Bool :=
  payloadKind == SessionProtocol.payloadKindRawBytes ||
    payloadKind == SessionProtocol.payloadKindWebSocketText ||
    payloadKind == SessionProtocol.payloadKindWebSocketBinary

/-- The header of a frame, unless it is malformed. -/
def readDataFrameHeader (payload : List UInt8) : Option TunnelDataFrameHeader :=
  if payload.length < SessionProtocol.dataFrameHeaderByteLength then none
  else if DataView.getUint8 payload 0 ≠ SessionProtocol.dataFrameKindData then none
  else
    let streamId := DataView.getUint32 payload 1
    if streamId = 0 ∨ streamId > SessionProtocol.maxStreamId then none
    else
      let payloadKind := DataView.getUint8 payload 5
      if isSupportedDataFramePayloadKind payloadKind then some { payloadKind, streamId }
      else none

/-- A frame with another stream id, unless the frame or the id is invalid. -/
def rewriteStreamId (payload : List UInt8) : (streamId : JsNumber) → Option (List UInt8)
  | .frac _ => none
  | .int streamId =>
    if streamId ≤ 0 ∨ streamId > SessionProtocol.maxStreamId then none
    else match readDataFrameHeader payload with
      | none => none
      | some _ => some (DataView.setUint32 payload 1 streamId.toNat)

/-- The gateway supports the payload kinds that decode. -/
theorem validatePayloadKind_eq (payloadKind : Nat) :
    (SessionProtocol.validatePayloadKind (.int payloadKind)).toOption
      = if isSupportedDataFramePayloadKind payloadKind then some payloadKind else none := by
  unfold SessionProtocol.validatePayloadKind isSupportedDataFramePayloadKind
  by_cases hraw : payloadKind = SessionProtocol.payloadKindRawBytes
  · rw [hraw]
    rfl
  by_cases htext : payloadKind = SessionProtocol.payloadKindWebSocketText
  · rw [htext]
    rfl
  by_cases hbinary : payloadKind = SessionProtocol.payloadKindWebSocketBinary
  · rw [hbinary]
    rfl
  simp only [JsNumber.int.injEq, Int.natCast_inj, hraw, htext, hbinary, if_false,
    beq_eq_false_iff_ne.mpr hraw, beq_eq_false_iff_ne.mpr htext, beq_eq_false_iff_ne.mpr hbinary,
    Bool.or_self, Bool.false_eq_true, toOption_error]

/-- The header of what decodes, and of nothing else. -/
theorem readDataFrameHeader_eq (payload : List UInt8) : readDataFrameHeader payload
    = (decodeDataFrame payload).toOption.map fun frame =>
      { payloadKind := frame.payloadKind, streamId := frame.streamId } := by
  unfold readDataFrameHeader decodeDataFrame
  by_cases hlength : payload.length < SessionProtocol.dataFrameHeaderByteLength
  · rw [if_pos hlength, if_pos hlength]
    rfl
  rw [if_neg hlength, if_neg hlength]
  by_cases hframe : DataView.getUint8 payload 0 ≠ SessionProtocol.dataFrameKindData
  · rw [if_pos hframe]
    simp only [if_pos hframe]
    rfl
  rw [if_neg hframe]
  simp only [if_neg hframe]
  rw [SessionProtocol.toOption_bind]
  unfold SessionProtocol.validateStreamId
  by_cases hid : DataView.getUint32 payload 1 = 0
      ∨ DataView.getUint32 payload 1 > SessionProtocol.maxStreamId
  · have hid' : (DataView.getUint32 payload 1 : Int) ≤ 0
        ∨ (DataView.getUint32 payload 1 : Int) > SessionProtocol.maxStreamId := by omega
    simp only [if_pos hid, if_pos hid', toOption_error, Option.bind_none, Option.map_none]
  · have hid' : ¬ ((DataView.getUint32 payload 1 : Int) ≤ 0
        ∨ (DataView.getUint32 payload 1 : Int) > SessionProtocol.maxStreamId) := by omega
    simp only [if_neg hid, if_neg hid', toOption_ok, Option.bind_some, Int.toNat_natCast]
    rw [SessionProtocol.toOption_bind, validatePayloadKind_eq]
    by_cases hkind : isSupportedDataFramePayloadKind (DataView.getUint8 payload 5)
    · rw [if_pos hkind, if_pos hkind]
      rfl
    · rw [if_neg hkind, if_neg hkind]
      rfl

/-- Writing a stream id into the bytes of a frame. -/
theorem setUint32_bytes (frame : StreamDataFrame) (streamId : StreamId) :
    DataView.setUint32 frame.bytes 1 streamId.toNat = { frame with streamId }.bytes := rfl

/-- A frame may go to every stream if it may go to one. -/
theorem encode_retarget {frame : StreamDataFrame} {payload : List UInt8} {streamId : StreamId}
    (h : encodeStreamDataFrame frame.streamId frame.payloadKind frame.payload = .ok payload)
    (hid : streamId ≠ 0) :
    encodeStreamDataFrame streamId frame.payloadKind frame.payload
      = .ok (DataView.setUint32 payload 1 streamId.toNat) := by
  have hchecked : validateStreamId streamId = .ok () := by
    unfold validateStreamId
    rw [beq_eq_false_iff_ne.mpr hid, rejectIf_false]
  unfold encodeStreamDataFrame checkedFrame at h ⊢
  cases hold : validateStreamId frame.streamId with
  | error e => simp only [hold, bind, Except.bind, Except.map, reduceCtorEq] at h
  | ok _ =>
      cases hkind : validatePayloadKind frame.payloadKind with
      | error e => simp only [hold, hkind, bind, Except.bind, Except.map, reduceCtorEq] at h
      | ok _ =>
          simp only [hold, hkind, bind, Except.bind, pure, Except.pure, Except.map,
            Except.ok.injEq] at h
          simp only [hchecked, bind, Except.bind, pure, Except.pure, Except.map]
          rw [← h, ← setUint32_bytes]

/-- Rewriting is decoding, then encoding for the other stream. -/
theorem rewriteStreamId_eq (payload : List UInt8) (streamId : JsNumber) :
    rewriteStreamId payload streamId = (decodeDataFrame payload).toOption.bind fun frame =>
      (encodeDataFrame streamId (.int frame.payloadKind) frame.payload).toOption := by
  cases streamId with
  | frac text =>
      cases (decodeDataFrame payload).toOption with
      | none => rfl
      | some frame => rfl
  | int n =>
      unfold rewriteStreamId
      by_cases hrange : n ≤ 0 ∨ n > SessionProtocol.maxStreamId
      · have hrefused : ∀ frame : SessionProtocol.StreamDataFrame,
            (encodeDataFrame (.int n) (.int frame.payloadKind) frame.payload).toOption = none := by
          intro frame
          simp only [encodeDataFrame, SessionProtocol.validateStreamId, if_pos hrange, bind,
            Except.bind, toOption_error]
        simp only [if_pos hrange, hrefused, Option.bind_fun_none]
      · -- A stream id in range is one of 32 bits.
        have hid : ∃ id : StreamId, id ≠ 0 ∧ n = id.toNat := by
          unfold SessionProtocol.maxStreamId at hrange
          refine ⟨UInt32.ofNat n.toNat, fun hzero => ?_, ?_⟩
          · have hnat := congrArg UInt32.toNat hzero
            rw [UInt32.toNat_ofNat', UInt32.toNat_zero] at hnat
            omega
          · rw [UInt32.toNat_ofNat']
            omega
        rcases hid with ⟨id, hne, hn⟩
        simp only [if_neg hrange]
        rw [readDataFrameHeader_eq, hn, SessionProtocol.decodeDataFrame_eq]
        cases hdecoded : decodeStreamDataFrame payload with
        | error e => rfl
        | ok frame =>
            simp only [toOption_ok, Option.map_some, Option.bind_some,
              SessionProtocol.StreamDataFrame.ofTunnel]
            rw [SessionProtocol.encodeDataFrame_eq,
              encode_retarget (SessionProtocol.encode_decode hdecoded) hne]
            rfl

end Gateway

/-- The codec of sandboxd, the codec of the session protocol and the rewriting of
    the gateway agree on every byte string. -/
theorem data_frame_codecs_agree :
    -- Every frame that may be sent has one encoding, which decodes to it at both ends.
    (∀ (streamId : StreamId) (payloadKind : UInt8) (payload : List UInt8), streamId ≠ 0 →
      payloadKind ∈ [payloadKindRawBytes, payloadKindWebsocketText, payloadKindWebsocketBinary] →
      ∃ bytes, encodeStreamDataFrame streamId payloadKind payload = .ok bytes ∧
        encodeDataFrame (.int streamId.toNat) (.int payloadKind.toNat) payload = .ok bytes ∧
        decodeStreamDataFrame bytes = .ok { streamId, payloadKind, payload } ∧
        decodeDataFrame bytes = .ok (.ofTunnel { streamId, payloadKind, payload })) ∧
    -- What a decoder accepts encodes back to the same bytes.
    (∀ bytes frame, decodeStreamDataFrame bytes = .ok frame →
      encodeStreamDataFrame frame.streamId frame.payloadKind frame.payload = .ok bytes) ∧
    (∀ bytes frame, decodeDataFrame bytes = .ok frame →
      encodeDataFrame (.int frame.streamId) (.int frame.payloadKind) frame.payload = .ok bytes) ∧
    -- The decoders accept the same bytes and read the same frame from them.
    (∀ bytes, (decodeDataFrame bytes).toOption
      = (decodeStreamDataFrame bytes).toOption.map SessionProtocol.StreamDataFrame.ofTunnel) ∧
    -- Rewriting is decoding and encoding with the other stream id, whatever the id is.
    (∀ bytes streamId, Gateway.rewriteStreamId bytes streamId
      = (decodeDataFrame bytes).toOption.bind fun frame =>
        (encodeDataFrame streamId (.int frame.payloadKind) frame.payload).toOption) ∧
    -- For a stream id in range it refuses exactly what the decoders refuse.
    (∀ bytes (streamId : StreamId), streamId ≠ 0 →
      (Gateway.rewriteStreamId bytes (.int streamId.toNat) = none ↔
        (decodeDataFrame bytes).toOption = none)) := by
  refine ⟨?_, fun bytes frame h => SessionProtocol.encode_decode h, ?_,
    SessionProtocol.decodeDataFrame_eq, Gateway.rewriteStreamId_eq, ?_⟩
  · intro streamId payloadKind payload hid hkind
    rcases exists_encode hid hkind payload with ⟨bytes, hencoded⟩
    have hdecoded := decode_encode hencoded
    refine ⟨bytes, hencoded, ?_, hdecoded, ?_⟩
    · rw [← toOption_eq_some, SessionProtocol.encodeDataFrame_eq, hencoded, toOption_ok]
    · rw [← toOption_eq_some, SessionProtocol.decodeDataFrame_eq, hdecoded, toOption_ok,
        Option.map_some]
  · intro bytes frame h
    rw [← toOption_eq_some, SessionProtocol.decodeDataFrame_eq, Option.map_eq_some_iff] at h
    rcases h with ⟨tunnelFrame, hdecoded, hframe⟩
    have hencoded := SessionProtocol.encode_decode (toOption_eq_some.mp hdecoded)
    rw [← hframe, ← toOption_eq_some]
    exact (SessionProtocol.encodeDataFrame_eq _ _ _).trans (toOption_eq_some.mpr hencoded)
  · intro bytes streamId hid
    rw [Gateway.rewriteStreamId_eq, SessionProtocol.decodeDataFrame_eq]
    cases hdecoded : decodeStreamDataFrame bytes with
    | error e => simp only [toOption_error, Option.map_none, Option.bind_none]
    | ok frame =>
        -- What decodes may be encoded for every stream.
        have hencoded := Gateway.encode_retarget (SessionProtocol.encode_decode hdecoded) hid
        simp only [toOption_ok, Option.map_some, Option.bind_some,
          SessionProtocol.StreamDataFrame.ofTunnel, SessionProtocol.encodeDataFrame_eq, hencoded,
          reduceCtorEq]

end Mistle
