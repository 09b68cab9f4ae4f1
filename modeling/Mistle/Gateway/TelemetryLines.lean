import Mistle.Lib.Split
import Mistle.Lib.Text

/-!
# Lines of a Telemetry Log

The log of a sandbox comes as bytes in frames that know nothing of its lines. What
a frame leaves behind its last line break is kept, and the next frame is read behind
it, so a line or a character may be in any number of frames.

A line is decoded as a text is by default: a byte order mark in front of it is taken
for a mark, and is no part of the text.

## Main definitions

* `decodeUtf8Line`: The text of a line.
* `SandboxTelemetryLogLineDecoder.append`, `SandboxTelemetryLogLineDecoder.finalize`: What a
  decoder does with a frame, and at the end.
* `SandboxTelemetryLogLineDecoder.appendAll`: What it does with many frames.
* `decodeLines`: The texts of the lines that are not empty.

## Theorems

* `appendLoop_eq`: The loop over the bytes decodes the lines that they complete.
* `SandboxTelemetryLogLineDecoder.appendAll_eq`: The frames are decoded as they would be in
  one.
* `appendAll_of_lines`: The law of a decoder, for every way of cutting the log into frames.
-/

namespace Mistle

def lineDelimiterByte : UInt8 := 0x0a

def maxTelemetryLineBytes : Nat := 16 * 1024 * 1024

structure SandboxTelemetryResetError where
  code : String
  message : String
  deriving DecidableEq

def invalidTelemetryLogShape : SandboxTelemetryResetError where
  code := "invalid_telemetry_log_shape"
  message := "Telemetry log line does not match mistle.sandbox-runtime.log.v1."

def unterminatedTelemetryLine : SandboxTelemetryResetError where
  code := "unterminated_telemetry_line"
  message := "Telemetry stream closed with an incomplete log line."

def byteOrderMark : Char := Char.ofNat 0xFEFF

/-- A text without the byte order mark in front of it. -/
def dropByteOrderMark (text : String) : String :=
  match text.toList with
  | c :: rest => if c = byteOrderMark then String.ofList rest else text
  | [] => text

/-- The text of bytes, as a decoder that takes no errors gives it. -/
def decodeUtf8Line (lineBytes : List UInt8) : Except SandboxTelemetryResetError String :=
  match ofUtf8 lineBytes with
  | some text => .ok (dropByteOrderMark text)
  | none => .error invalidTelemetryLogShape

def ensureLineByteLength (lineBytes : List UInt8) : Except SandboxTelemetryResetError Unit :=
  if lineBytes.length ≤ maxTelemetryLineBytes then .ok () else .error invalidTelemetryLogShape

structure SandboxTelemetryLogLineDecoder where
  pendingBytes : List UInt8
  deriving DecidableEq

/-- What the loop over the bytes does at one of them, with the index where the line starts and
    the lines before it. -/
def appendAt (combined : List UInt8) (lines : Nat × List String) (byteIndex : Nat) :
    Except SandboxTelemetryResetError (Nat × List String) :=
  if combined[byteIndex]? ≠ some lineDelimiterByte then .ok lines
  else
    let lineBytes := (combined.take byteIndex).drop lines.1
    if lineBytes.length = 0 then .ok (byteIndex + 1, lines.2)
    else do
      ensureLineByteLength lineBytes
      let line ← decodeUtf8Line lineBytes
      .ok (byteIndex + 1, lines.2 ++ [line])

namespace SandboxTelemetryLogLineDecoder

/-- A decoder at the start of a log. -/
def new : SandboxTelemetryLogLineDecoder where
  pendingBytes := []

/-- The lines that a frame completes. An error leaves the decoder as it was. -/
def append (decoder : SandboxTelemetryLogLineDecoder) (payload : List UInt8) :
    Except SandboxTelemetryResetError (List String) × SandboxTelemetryLogLineDecoder :=
  if payload.length = 0 then (.ok [], decoder)
  else
    let combined := decoder.pendingBytes ++ payload
    match (List.range combined.length).foldlM (appendAt combined) (0, []) with
    | .error error => (.error error, decoder)
    | .ok (lineStartIndex, completedLines) =>
      (.ok completedLines, { pendingBytes := combined.drop lineStartIndex })

def finalize (decoder : SandboxTelemetryLogLineDecoder) :
    Except SandboxTelemetryResetError Unit × SandboxTelemetryLogLineDecoder :=
  if decoder.pendingBytes.length = 0 then (.ok (), decoder)
  else (.error unterminatedTelemetryLine, { pendingBytes := [] })

/-- The frames of a log, up to one that is refused. -/
def appendAll (decoder : SandboxTelemetryLogLineDecoder) :
    List (List UInt8) →
      Except SandboxTelemetryResetError (List String) × SandboxTelemetryLogLineDecoder
  | [] => (.ok [], decoder)
  | payload :: payloads =>
    match decoder.append payload with
    | (.error error, decoder) => (.error error, decoder)
    | (.ok lines, decoder) =>
      match decoder.appendAll payloads with
      | (.error error, decoder) => (.error error, decoder)
      | (.ok more, decoder) => (.ok (lines ++ more), decoder)

end SandboxTelemetryLogLineDecoder

/-! ### One frame -/

/-- The text of a line that is within the limit. -/
def decodeLine (line : List UInt8) : Except SandboxTelemetryResetError String := do
  ensureLineByteLength line
  decodeUtf8Line line

/-- The texts of the lines that are not empty. -/
def decodeLines (lines : List (List UInt8)) : Except SandboxTelemetryResetError (List String) :=
  (lines.filter fun line => line.length ≠ 0).mapM decodeLine

theorem decodeLines_append (lines more : List (List UInt8)) :
    decodeLines (lines ++ more) = (do
      let texts ← decodeLines lines
      let others ← decodeLines more
      .ok (texts ++ others)) := by
  rw [decodeLines, List.filter_append, List.mapM_append]
  rfl

theorem decodeLines_singleton (line : List UInt8) :
    decodeLines [line] =
      if line.length = 0 then .ok [] else (decodeLine line).map fun text => [text] := by
  by_cases hempty : line.length = 0
  · rw [if_pos hempty, decodeLines, List.filter_cons_of_neg (by simpa using hempty)]
    rfl
  · rw [if_neg hempty, decodeLines, List.filter_cons_of_pos (by simpa using hempty)]
    cases hline : decodeLine line with
    | error error => simp [hline, List.mapM_cons, bind, Except.bind, Except.map]
    | ok text => simp [hline, List.mapM_cons, bind, Except.bind, Except.map, pure, Except.pure]

/-- At a line break, the loop decodes the line that ends there. -/
theorem appendAt_delimiter {combined : List UInt8} {n : Nat} (lineStartIndex : Nat)
    (texts : List String) (hbyte : combined[n]? = some lineDelimiterByte) :
    appendAt combined (lineStartIndex, texts) n =
      (decodeLines [(combined.take n).drop lineStartIndex]).map
        fun text => (n + 1, texts ++ text) := by
  rw [appendAt, if_neg (not_not_intro hbyte), decodeLines_singleton]
  dsimp only
  split
  · rw [Except.map, List.append_nil]
  · rw [decodeLine]
    cases ensureLineByteLength ((combined.take n).drop lineStartIndex) with
    | error error => rfl
    | ok _ =>
        cases decodeUtf8Line ((combined.take n).drop lineStartIndex) with
        | error error => rfl
        | ok line => rfl

/-- The loop over the first bytes decodes the lines that they complete, and stands at the line
    that they leave. -/
theorem appendLoop_eq (combined : List UInt8) :
    ∀ n ≤ combined.length, ∃ lineStartIndex,
      (combined.take n).drop lineStartIndex = remainder lineDelimiterByte (combined.take n) ∧
      lineStartIndex ≤ n ∧
      (List.range n).foldlM (appendAt combined) (0, []) =
        (decodeLines (completed lineDelimiterByte (combined.take n))).map
          fun texts => (lineStartIndex, texts) := by
  intro n
  induction n with
  | zero => exact fun _ => ⟨0, rfl, le_rfl, rfl⟩
  | succ n ih =>
      intro hn
      rcases ih (by omega) with ⟨lineStartIndex, hrest, hstart, hfold⟩
      have hbyte : combined[n]? = some combined[n] := List.getElem?_eq_getElem (by omega)
      have htake : combined.take (n + 1) = combined.take n ++ [combined[n]] := by
        rw [List.take_add_one, hbyte, Option.toList_some]
      rw [List.range_succ, List.foldlM_append, hfold, htake, completed_snoc, remainder_snoc]
      by_cases hdelimiter : combined[n] = lineDelimiterByte
      · rw [if_pos hdelimiter, if_pos hdelimiter, decodeLines_append]
        refine ⟨n + 1, ?_, le_rfl, ?_⟩
        · rw [List.drop_eq_nil_iff, List.length_append, List.length_take, List.length_singleton]
          omega
        · cases decodeLines (completed lineDelimiterByte (combined.take n)) with
          | error error => rfl
          | ok texts =>
              have hat := appendAt_delimiter lineStartIndex texts
                (hbyte.trans (congrArg some hdelimiter))
              rw [hrest] at hat
              change (List.foldlM (appendAt combined) (lineStartIndex, texts) [n]) = _
              rw [List.foldlM_cons, hat]
              cases decodeLines [remainder lineDelimiterByte (combined.take n)] with
              | error error => rfl
              | ok text => rfl
      · rw [if_neg hdelimiter, if_neg hdelimiter]
        refine ⟨lineStartIndex, ?_, by omega, ?_⟩
        · rw [List.drop_append_of_le_length (by rw [List.length_take]; omega), hrest]
        · cases decodeLines (completed lineDelimiterByte (combined.take n)) with
          | error error => rfl
          | ok texts =>
              change (List.foldlM (appendAt combined) (lineStartIndex, texts) [n]) = _
              have hother : combined[n]? ≠ some lineDelimiterByte := by
                rw [hbyte]
                exact fun h => hdelimiter (Option.some.inj h)
              rw [List.foldlM_cons, appendAt, if_pos hother]
              rfl

namespace SandboxTelemetryLogLineDecoder

/-- A frame completes the lines of the bytes that are pending with the frame behind them. -/
theorem append_eq (decoder : SandboxTelemetryLogLineDecoder) (payload : List UInt8)
    (hpending : lineDelimiterByte ∉ decoder.pendingBytes) :
    decoder.append payload =
      match decodeLines (completed lineDelimiterByte (decoder.pendingBytes ++ payload)) with
      | .error error => (.error error, decoder)
      | .ok lines =>
        (.ok lines, ⟨remainder lineDelimiterByte (decoder.pendingBytes ++ payload)⟩) := by
  have hnone := cut_of_splitOn [] (List.splitOn_eq_singleton hpending)
  rw [append]
  split
  · rename_i hempty
    rw [List.length_eq_zero_iff.mp hempty, List.append_nil, hnone.1, hnone.2]
    rfl
  · dsimp only
    rcases appendLoop_eq (decoder.pendingBytes ++ payload) _ le_rfl with
      ⟨lineStartIndex, hrest, _, hfold⟩
    rw [List.take_length] at hrest hfold
    rw [hfold]
    cases decodeLines (completed lineDelimiterByte (decoder.pendingBytes ++ payload)) with
    | error error => rfl
    | ok texts => rw [← hrest]; rfl

/-- An incomplete line is reported exactly if bytes are pending. -/
theorem finalize_iff (decoder : SandboxTelemetryLogLineDecoder) :
    (decoder.finalize.1 = .ok () ↔ decoder.pendingBytes = []) ∧
      (decoder.finalize.1 = .error unterminatedTelemetryLine ↔ decoder.pendingBytes ≠ []) := by
  rw [finalize]
  by_cases hempty : decoder.pendingBytes = []
  · rw [if_pos (by rw [hempty]; rfl)]
    exact ⟨⟨fun _ => hempty, fun _ => rfl⟩, ⟨fun h => (by cases h), fun h => absurd hempty h⟩⟩
  · rw [if_neg (by rwa [List.length_eq_zero_iff])]
    exact ⟨⟨fun h => (by cases h), fun h => absurd h hempty⟩, ⟨fun _ => hempty, fun _ => rfl⟩⟩

/-! ### Many frames -/

/-- The frames of a log whose lines decode are decoded as they would be in one. -/
theorem appendAll_eq (payloads : List (List UInt8)) :
    ∀ (decoder : SandboxTelemetryLogLineDecoder) (texts : List String),
      lineDelimiterByte ∉ decoder.pendingBytes →
      decodeLines (completed lineDelimiterByte (decoder.pendingBytes ++ payloads.flatten))
        = .ok texts →
      decoder.appendAll payloads = (.ok texts,
        ⟨remainder lineDelimiterByte (decoder.pendingBytes ++ payloads.flatten)⟩) := by
  induction payloads with
  | nil =>
      intro decoder texts hpending hdecode
      have hnone := cut_of_splitOn [] (List.splitOn_eq_singleton hpending)
      rw [List.flatten_nil, List.append_nil, hnone.1] at hdecode
      rw [List.flatten_nil, List.append_nil, hnone.2, appendAll]
      cases hdecode
      rfl
  | cons payload payloads ih =>
      intro decoder texts hpending hdecode
      have hcut := cut_append lineDelimiterByte (decoder.pendingBytes ++ payload) payloads.flatten
      rw [List.flatten_cons, ← List.append_assoc, hcut.1, decodeLines_append] at hdecode
      rw [List.flatten_cons, ← List.append_assoc, hcut.2, appendAll,
        decoder.append_eq payload hpending]
      cases hfirst : decodeLines (completed lineDelimiterByte (decoder.pendingBytes ++ payload)) with
      | error error =>
          rw [hfirst] at hdecode
          cases hdecode
      | ok lines =>
          rw [hfirst] at hdecode
          cases hrest : decodeLines (completed lineDelimiterByte
              (remainder lineDelimiterByte (decoder.pendingBytes ++ payload)
                ++ payloads.flatten)) with
          | error error =>
              rw [hrest] at hdecode
              cases hdecode
          | ok more =>
              rw [hrest] at hdecode
              cases hdecode
              have hmore := ih ⟨remainder lineDelimiterByte (decoder.pendingBytes ++ payload)⟩ more
                (not_mem_remainder _ _) hrest
              dsimp only
              rw [hmore]

end SandboxTelemetryLogLineDecoder

/-- Lines within the limit whose bytes are text decode to their texts. -/
theorem decodeLines_of_text {lines : List (List UInt8)}
    (h : ∀ line ∈ lines, line.length ≤ maxTelemetryLineBytes ∧ (ofUtf8 line).isSome = true) :
    ∃ texts, decodeLines lines = .ok texts ∧
      texts.map some = (lines.filter fun line => line.length ≠ 0).map
        fun line => (ofUtf8 line).map dropByteOrderMark := by
  rw [decodeLines]
  have hkept : ∀ line ∈ lines.filter fun line => line.length ≠ 0,
      line.length ≤ maxTelemetryLineBytes ∧ (ofUtf8 line).isSome = true :=
    fun line hline => h line (List.mem_of_mem_filter hline)
  generalize lines.filter (fun line => line.length ≠ 0) = kept at hkept ⊢
  induction kept with
  | nil => exact ⟨[], rfl, rfl⟩
  | cons line kept ih =>
      rcases ih fun line hline => hkept line (List.mem_cons_of_mem _ hline) with
        ⟨texts, htexts, hmap⟩
      rcases hkept line List.mem_cons_self with ⟨hlength, htext⟩
      rcases Option.isSome_iff_exists.mp htext with ⟨text, hline⟩
      have hdecode : decodeLine line = .ok (dropByteOrderMark text) := by
        rw [decodeLine, ensureLineByteLength, if_pos hlength, decodeUtf8Line, hline]
        rfl
      refine ⟨dropByteOrderMark text :: texts, ?_, ?_⟩
      · rw [List.mapM_cons, hdecode, htexts]
        rfl
      · rw [List.map_cons, List.map_cons, hline, hmap]
        rfl

/-- A log whose lines are text within the limit, cut into frames in any way: the lines that the
    frames return are the texts of its lines that are not empty, without the byte order mark that
    a text may begin with; and there is an incomplete line at the end exactly if bytes remain
    behind the last line break. -/
theorem appendAll_of_lines (payloads : List (List UInt8))
    (h : ∀ line ∈ completed lineDelimiterByte payloads.flatten,
      line.length ≤ maxTelemetryLineBytes ∧ (ofUtf8 line).isSome = true) :
    ∃ texts decoder,
      SandboxTelemetryLogLineDecoder.new.appendAll payloads = (.ok texts, decoder) ∧
      texts.map some = ((completed lineDelimiterByte payloads.flatten).filter
        fun line => line.length ≠ 0).map (fun line => (ofUtf8 line).map dropByteOrderMark) ∧
      (decoder.finalize.1 = .ok () ↔ remainder lineDelimiterByte payloads.flatten = []) ∧
      (decoder.finalize.1 = .error unterminatedTelemetryLine ↔
        remainder lineDelimiterByte payloads.flatten ≠ []) := by
  rcases decodeLines_of_text h with ⟨texts, hdecode, hmap⟩
  have hall := SandboxTelemetryLogLineDecoder.appendAll_eq payloads .new texts List.not_mem_nil
    hdecode
  exact ⟨texts, _, hall, hmap, SandboxTelemetryLogLineDecoder.finalize_iff _⟩

/-- A line of the letter a, cut in two, and the beginning of a second line. -/
theorem appendAll_of_lines_cut : ∃ texts decoder,
    SandboxTelemetryLogLineDecoder.new.appendAll [[97], [], [10, 98]] = (.ok texts, decoder) ∧
      decoder.finalize.1 = .error unterminatedTelemetryLine := by
  rcases appendAll_of_lines [[97], [], [10, 98]] (by
    intro line hline
    have hcut : completed lineDelimiterByte ([[97], [], [10, 98]] : List (List UInt8)).flatten
        = [[97]] := by decide
    rw [hcut, List.mem_singleton] at hline
    rw [hline]
    exact ⟨by decide, by decide⟩) with ⟨texts, decoder, hall, _, _, hfinal⟩
  exact ⟨texts, decoder, hall, hfinal.mpr (by decide)⟩

/-- A line that begins with a byte order mark comes back without it. -/
theorem appendAll_byteOrderMark :
    ¬ ∀ payloads : List (List UInt8),
      (∀ line ∈ completed lineDelimiterByte payloads.flatten,
        line.length ≤ maxTelemetryLineBytes ∧ (ofUtf8 line).isSome = true) →
      ∃ texts decoder,
        SandboxTelemetryLogLineDecoder.new.appendAll payloads = (.ok texts, decoder) ∧
        texts.map some = ((completed lineDelimiterByte payloads.flatten).filter
          fun line => line.length ≠ 0).map ofUtf8 := by
  intro h
  have hcut : completed lineDelimiterByte ([[0xEF, 0xBB, 0xBF, 97, 10]] : List (List UInt8)).flatten
      = [[0xEF, 0xBB, 0xBF, 97]] := by decide
  have htext : ofUtf8 [0xEF, 0xBB, 0xBF, 97] = some (String.ofList [byteOrderMark, 'a']) := by
    decide
  have happend : (SandboxTelemetryLogLineDecoder.new.appendAll [[0xEF, 0xBB, 0xBF, 97, 10]]).1
      = .ok ["a"] := by rfl
  rcases h [[0xEF, 0xBB, 0xBF, 97, 10]] (by
    intro line hline
    rw [hcut, List.mem_singleton] at hline
    rw [hline, htext]
    exact ⟨by decide, rfl⟩) with ⟨texts, decoder, hall, hmap⟩
  rw [hall] at happend
  rw [Except.ok.inj happend, hcut, List.filter_cons_of_pos (by decide), List.filter_nil,
    List.map_singleton, List.map_singleton, htext] at hmap
  exact absurd hmap (by decide)

end Mistle
