import Mathlib.Data.Nat.Find
import Mistle.Lib.Text
import Mistle.Tunnel.Router

/-!
# Output of a Command

The two outputs of a command are read by a thread each, and both take what they
keep from one budget behind a lock. A thread reads a buffer first and takes the
lock afterwards, so any number of steps of the other thread may come between.

What is not allowed is dropped and the reading goes on, to leave no command stuck
on a full pipe. Nothing is kept behind something that was dropped: bytes are
dropped only when the budget is gone, and it never comes back. So what is kept is
a prefix of the stream whatever the order of the steps was.

The limit may fall inside a character, and then the text ends in front of it. That
is only done for an output that was cut; bytes that are no text otherwise fail the
command.

## Main definitions

* `OutputReader`, `ExecOutput`: A reader thread, and two of them on their budget.
* `OutputReader.step`, `ExecOutput.step`: One step of a thread.
* `validUpTo`: How much of the bytes is text.
* `decodeBoundedOutput`: The text of what was kept.
* `ExecOutput.result`: What the command answers when both threads are done.
* `OutputReader.Keeps`: What was kept and dropped of a stream.

## Theorems

* `OutputReader.Keeps.step`: A step of a thread keeps a prefix.
* `ExecOutput.Inv.run`: The threads keep to the budget, step by step and over a run.
* `decodeBoundedOutput_spec`: The text is that of a prefix, and of everything if
  nothing was cut.
* `execOutput_bounded`: The law of the output over any run of the two threads.
-/

namespace Mistle

def defaultExecMaxOutputBytes : Nat := 16 * 1024 * 1024

def execOutputReadBufferBytes : Nat := 8192

/-- What a reader thread is at. -/
inductive ReaderPhase where
  | reading
  | holding (buffer : List UInt8)
  | finished
  | failed (error : String)
  deriving DecidableEq

/-- A reader thread, with the part of its stream that is still to come. -/
structure OutputReader where
  unread : List UInt8
  phase : ReaderPhase
  output : List UInt8
  truncated : Bool
  deriving DecidableEq

def OutputReader.start (stream : List UInt8) : OutputReader where
  unread := stream
  phase := .reading
  output := []
  truncated := false

/-- What a read answers: a number of bytes, which is zero only at the end of the stream,
    or an error; and the turn of a thread on the budget. -/
inductive ReadEvent where
  | read (bytesRead : Nat)
  | readError (error : String)
  | takeBudget
  deriving DecidableEq

/-- One step of a reader thread, with the budget before and after. -/
def OutputReader.step (reader : OutputReader) (remaining : Nat) :
    ReadEvent → Option (OutputReader × Nat)
  | .read bytesRead =>
    match reader.phase with
    | .reading =>
      if bytesRead ≤ execOutputReadBufferBytes ∧ bytesRead ≤ reader.unread.length ∧
          (bytesRead = 0 → reader.unread = []) then
        if bytesRead = 0 then some ({ reader with phase := .finished }, remaining)
        else some ({ reader with
          phase := .holding (reader.unread.take bytesRead)
          unread := reader.unread.drop bytesRead }, remaining)
      else none
    | _ => none
  | .readError error =>
    match reader.phase with
    | .reading =>
      some ({ reader with phase := .failed s!"failed to read command output: {error}" }, remaining)
    | _ => none
  | .takeBudget =>
    match reader.phase with
    | .holding buffer =>
      let allowedBytes := min remaining buffer.length
      some ({ reader with
        phase := .reading
        output := reader.output ++ buffer.take allowedBytes
        truncated := reader.truncated || allowedBytes < buffer.length }, remaining - allowedBytes)
    | _ => none

/-- The two reader threads and their shared budget. -/
structure ExecOutput where
  remainingBytes : Nat
  stdout : OutputReader
  stderr : OutputReader
  deriving DecidableEq

def ExecOutput.start (maxOutputBytes : Option Nat) (stdout stderr : List UInt8) : ExecOutput where
  remainingBytes := maxOutputBytes.getD defaultExecMaxOutputBytes
  stdout := .start stdout
  stderr := .start stderr

inductive OutputName where
  | stdout
  | stderr
  deriving DecidableEq

/-- One step of one of the threads. -/
def ExecOutput.step (state : ExecOutput) : OutputName × ReadEvent → Option ExecOutput
  | (.stdout, event) =>
    (state.stdout.step state.remainingBytes event).map fun (stdout, remainingBytes) =>
      { state with stdout, remainingBytes }
  | (.stderr, event) =>
    (state.stderr.step state.remainingBytes event).map fun (stderr, remainingBytes) =>
      { state with stderr, remainingBytes }

/-- The steps of the threads in the order in which they happen. -/
def ExecOutput.run (state : ExecOutput) (events : List (OutputName × ReadEvent)) :
    Option ExecOutput :=
  events.foldlM ExecOutput.step state

/-- The greatest index up to which the bytes are text. -/
def validUpTo (bytes : List UInt8) : Nat :=
  Nat.findGreatest (fun n => (ofUtf8 (bytes.take n)).isSome = true) bytes.length

structure BoundedOutput where
  text : String
  truncated : Bool
  deriving DecidableEq

section

-- The text of the error about bytes that are no text.
variable (utf8Error : List UInt8 → String)

def decodeBoundedOutput (output : List UInt8) (truncated : Bool) : Except String BoundedOutput :=
  match ofUtf8 output with
  | some text => .ok { text, truncated }
  | none =>
    if truncated then
      let bytes := output.take (validUpTo output)
      match ofUtf8 bytes with
      | some text => .ok { text, truncated := true }
      | none => .error s!"command output was not valid utf-8: {utf8Error bytes}"
    else .error s!"command output was not valid utf-8: {utf8Error output}"

/-- What joining a reader thread gives, once it has ended. -/
def OutputReader.result (reader : OutputReader) : Option (Except String BoundedOutput) :=
  match reader.phase with
  | .finished => some (decodeBoundedOutput utf8Error reader.output reader.truncated)
  | .failed error => some (.error error)
  | .reading => none
  | .holding _ => none

/-- What the command answers once waiting for it gave its exit code, if it has one; the
    threads are joined one after the other. -/
def ExecOutput.result (state : ExecOutput) (status : Except String (Option Int)) :
    Option (Except String ExecCommandResult) :=
  match status with
  | .error error => some (.error error)
  | .ok code =>
    match state.stdout.result utf8Error with
    | none => none
    | some (.error error) => some (.error error)
    | some (.ok stdout) =>
      match state.stderr.result utf8Error with
      | none => none
      | some (.error error) => some (.error error)
      | some (.ok stderr) => some (.ok {
          exitCode := code.getD (-1)
          stdout := stdout.text
          stderr := stderr.text
          truncated := stdout.truncated || stderr.truncated })

end

/-! ### The readers -/

/-- The bytes that a thread has read and not yet decided about. -/
def OutputReader.held (reader : OutputReader) : List UInt8 :=
  match reader.phase with
  | .holding buffer => buffer
  | _ => []

/-- A stream is what was kept of it, what was dropped, and what is still to come; and nothing
    was dropped while there was budget. -/
structure OutputReader.Keeps (stream : List UInt8) (remaining : Nat) (reader : OutputReader) :
    Prop where
  split : ∃ dropped, stream = reader.output ++ (dropped ++ (reader.held ++ reader.unread)) ∧
    (dropped ≠ [] → reader.truncated = true ∧ remaining = 0)
  finished : reader.phase = .finished → reader.unread = []

theorem OutputReader.keeps_start (stream : List UInt8) (remaining : Nat) :
    (OutputReader.start stream).Keeps stream remaining where
  split := ⟨[], rfl, fun h => absurd rfl h⟩
  finished := fun h => absurd h (by simp [OutputReader.start])

/-- Less budget is none the more for a thread. -/
theorem OutputReader.Keeps.mono {stream : List UInt8} {remaining less : Nat}
    {reader : OutputReader} (h : reader.Keeps stream remaining) (hle : less ≤ remaining) :
    reader.Keeps stream less where
  split := by
    rcases h.split with ⟨dropped, hstream, hdropped⟩
    refine ⟨dropped, hstream, fun hne => ⟨(hdropped hne).1, ?_⟩⟩
    have hzero := (hdropped hne).2
    omega
  finished := h.finished

/-- A step of a thread keeps a prefix of its stream, and takes from the budget what it keeps. -/
theorem OutputReader.Keeps.step {stream : List UInt8} {remaining rest : Nat}
    {reader next : OutputReader} {event : ReadEvent} (h : reader.Keeps stream remaining)
    (hstep : reader.step remaining event = some (next, rest)) :
    next.Keeps stream rest ∧ rest ≤ remaining ∧
      next.output.length + rest = reader.output.length + remaining := by
  rcases h.split with ⟨dropped, hstream, hdropped⟩
  cases event with
  | read bytesRead =>
      rw [OutputReader.step] at hstep
      split at hstep
      · rename_i hphase
        have hheld : reader.held = [] := by rw [OutputReader.held, hphase]
        rw [hheld, List.nil_append] at hstream
        split at hstep
        · rename_i hread
          split at hstep
          · -- The end of the stream.
            rename_i hzero
            simp only [Option.some.injEq, Prod.mk.injEq] at hstep
            rw [← hstep.1, ← hstep.2]
            exact ⟨⟨⟨dropped, hstream, hdropped⟩, fun _ => hread.2.2 hzero⟩, le_rfl, rfl⟩
          · simp only [Option.some.injEq, Prod.mk.injEq] at hstep
            rw [← hstep.1, ← hstep.2]
            refine ⟨⟨⟨dropped, ?_, hdropped⟩, fun hfinished => ?_⟩, le_rfl, rfl⟩
            · rw [hstream, OutputReader.held, List.take_append_drop]
            · exact absurd hfinished (by simp)
        · exact absurd hstep (by simp only [reduceCtorEq, not_false_eq_true])
      · exact absurd hstep (by simp only [reduceCtorEq, not_false_eq_true])
  | readError error =>
      rw [OutputReader.step] at hstep
      split at hstep
      · rename_i hphase
        have hheld : reader.held = [] := by rw [OutputReader.held, hphase]
        rw [hheld, List.nil_append] at hstream
        simp only [Option.some.injEq, Prod.mk.injEq] at hstep
        rw [← hstep.1, ← hstep.2]
        exact ⟨⟨⟨dropped, hstream, hdropped⟩, fun hfinished => absurd hfinished (by simp)⟩,
          le_rfl, rfl⟩
      · exact absurd hstep (by simp only [reduceCtorEq, not_false_eq_true])
  | takeBudget =>
      rw [OutputReader.step] at hstep
      split at hstep
      · rename_i buffer hphase
        have hheld : reader.held = buffer := by rw [OutputReader.held, hphase]
        rw [hheld] at hstream
        simp only [Option.some.injEq, Prod.mk.injEq] at hstep
        rw [← hstep.1, ← hstep.2]
        refine ⟨⟨?_, fun hfinished => absurd hfinished (by simp)⟩, Nat.sub_le _ _, ?_⟩
        · by_cases hnone : dropped = []
          · -- The first bytes that are dropped are those the budget does not reach to.
            refine ⟨buffer.drop (min remaining buffer.length), ?_, ?_⟩
            · rw [hstream, hnone, OutputReader.held, List.nil_append, List.nil_append,
                List.append_assoc, ← List.append_assoc (buffer.take _), List.take_append_drop]
            · intro hne
              rw [ne_eq, List.drop_eq_nil_iff, not_le] at hne
              refine ⟨?_, by omega⟩
              rw [Bool.or_eq_true, decide_eq_true_eq]
              exact .inr hne
          · -- The budget was gone before, so the whole buffer is dropped.
            have hgone := hdropped hnone
            refine ⟨dropped ++ buffer, ?_, fun _ => ⟨?_, ?_⟩⟩
            · rw [hstream, hgone.2, Nat.zero_min, List.take_zero, List.append_nil,
                OutputReader.held, List.nil_append, List.append_assoc]
            · rw [hgone.1, Bool.true_or]
            · rw [hgone.2, Nat.zero_sub]
        · rw [List.length_append, List.length_take]
          omega
      · exact absurd hstep (by simp only [reduceCtorEq, not_false_eq_true])

/-- What a thread keeps is a prefix, and the whole stream if it ended without a cut. -/
theorem OutputReader.Keeps.prefix {stream : List UInt8} {remaining : Nat} {reader : OutputReader}
    (h : reader.Keeps stream remaining) : reader.output <+: stream := by
  rcases h.split with ⟨dropped, hstream, _⟩
  rw [hstream]
  exact List.prefix_append _ _

theorem OutputReader.Keeps.complete {stream : List UInt8} {remaining : Nat}
    {reader : OutputReader} (h : reader.Keeps stream remaining)
    (hfinished : reader.phase = .finished) (huncut : reader.truncated = false) :
    reader.output = stream := by
  rcases h.split with ⟨dropped, hstream, hdropped⟩
  have hnone : dropped = [] := by
    by_contra hne
    rw [(hdropped hne).1] at huncut
    exact absurd huncut (by decide)
  have hheld : reader.held = [] := by rw [OutputReader.held, hfinished]
  rw [hstream, hnone, hheld, h.finished hfinished]
  simp

/-! ### The command -/

/-- Both threads keep to their streams, and what they keep is what the budget lost. -/
structure ExecOutput.Inv (maxOutputBytes : Nat) (stdout stderr : List UInt8)
    (state : ExecOutput) : Prop where
  stdout : state.stdout.Keeps stdout state.remainingBytes
  stderr : state.stderr.Keeps stderr state.remainingBytes
  kept : state.stdout.output.length + state.stderr.output.length + state.remainingBytes
    = maxOutputBytes

theorem ExecOutput.inv_start (maxOutputBytes : Option Nat) (stdout stderr : List UInt8) :
    (ExecOutput.start maxOutputBytes stdout stderr).Inv
      (maxOutputBytes.getD defaultExecMaxOutputBytes) stdout stderr where
  stdout := OutputReader.keeps_start stdout _
  stderr := OutputReader.keeps_start stderr _
  kept := Nat.zero_add _

theorem ExecOutput.Inv.step {maxOutputBytes : Nat} {stdout stderr : List UInt8}
    {state next : ExecOutput} {event : OutputName × ReadEvent}
    (h : state.Inv maxOutputBytes stdout stderr) (hstep : state.step event = some next) :
    next.Inv maxOutputBytes stdout stderr := by
  have hkept := h.kept
  rcases event with ⟨name, event⟩
  cases name with
  | stdout =>
      rcases Option.map_eq_some_iff.mp hstep with ⟨⟨reader, rest⟩, hreader, hnext⟩
      have hafter := h.stdout.step hreader
      have hsum : reader.output.length + state.stderr.output.length + rest = maxOutputBytes := by
        omega
      rw [← hnext]
      exact ⟨hafter.1, h.stderr.mono hafter.2.1, hsum⟩
  | stderr =>
      rcases Option.map_eq_some_iff.mp hstep with ⟨⟨reader, rest⟩, hreader, hnext⟩
      have hafter := h.stderr.step hreader
      have hsum : state.stdout.output.length + reader.output.length + rest = maxOutputBytes := by
        omega
      rw [← hnext]
      exact ⟨h.stdout.mono hafter.2.1, hafter.1, hsum⟩

theorem ExecOutput.Inv.run {maxOutputBytes : Nat} {stdout stderr : List UInt8}
    {events : List (OutputName × ReadEvent)} {state final : ExecOutput}
    (h : state.Inv maxOutputBytes stdout stderr) (hrun : state.run events = some final) :
    final.Inv maxOutputBytes stdout stderr := by
  induction events generalizing state with
  | nil =>
      rw [ExecOutput.run, List.foldlM_nil] at hrun
      cases hrun
      exact h
  | cons event events ih =>
      rw [ExecOutput.run, List.foldlM_cons] at hrun
      rcases Option.bind_eq_some_iff.mp hrun with ⟨next, hstep, hrest⟩
      exact ih (h.step hstep) hrest

/-! ### The text -/

theorem decodeBoundedOutput_spec {utf8Error : List UInt8 → String} {output : List UInt8}
    {truncated : Bool} {decoded : BoundedOutput}
    (h : decodeBoundedOutput utf8Error output truncated = .ok decoded) :
    decoded.truncated = truncated ∧
      ∃ kept, kept <+: output ∧ ofUtf8 kept = some decoded.text ∧
        (truncated = false → kept = output) := by
  rw [decodeBoundedOutput] at h
  split at h
  · rename_i text htext
    cases h
    exact ⟨rfl, output, List.prefix_refl _, htext, fun _ => rfl⟩
  · split at h
    · -- Only an output that was cut is shortened to a character boundary.
      rename_i hcut
      dsimp only at h
      split at h
      · rename_i text htext
        cases h
        refine ⟨hcut.symm, _, List.take_prefix _ _, htext, fun huncut => ?_⟩
        rw [hcut] at huncut
        exact absurd huncut (by decide)
      · cases h
    · cases h

theorem OutputReader.Keeps.result {utf8Error : List UInt8 → String} {stream : List UInt8}
    {remaining : Nat} {reader : OutputReader} {decoded : BoundedOutput}
    (h : reader.Keeps stream remaining) (hresult : reader.result utf8Error = some (.ok decoded)) :
    ∃ kept, kept <+: stream ∧ kept <+: reader.output ∧ ofUtf8 kept = some decoded.text ∧
      (decoded.truncated = false → kept = stream) := by
  rw [OutputReader.result] at hresult
  split at hresult
  · rename_i hfinished
    simp only [Option.some.injEq] at hresult
    rcases decodeBoundedOutput_spec hresult with ⟨hflag, kept, hprefix, htext, hwhole⟩
    refine ⟨kept, hprefix.trans h.prefix, hprefix, htext, fun huncut => ?_⟩
    rw [hflag] at huncut
    rw [hwhole huncut, h.complete hfinished huncut]
  · cases hresult
  · cases hresult
  · cases hresult

/-- Whatever the streams, however they come in and in whatever order the threads take their
    turns: what is kept is within the limit; a result shows prefixes of the streams, as text;
    and a result that is not marked as truncated shows both streams. -/
theorem execOutput_bounded (utf8Error : List UInt8 → String) (maxOutputBytes : Option Nat)
    (stdout stderr : List UInt8) (events : List (OutputName × ReadEvent)) (state : ExecOutput)
    (hrun : (ExecOutput.start maxOutputBytes stdout stderr).run events = some state) :
    state.stdout.output.length + state.stderr.output.length
        ≤ maxOutputBytes.getD defaultExecMaxOutputBytes ∧
      ∀ status result, state.result utf8Error status = some (.ok result) →
        ∃ keptStdout keptStderr,
          keptStdout <+: stdout ∧ ofUtf8 keptStdout = some result.stdout ∧
          keptStderr <+: stderr ∧ ofUtf8 keptStderr = some result.stderr ∧
          keptStdout.length + keptStderr.length
            ≤ maxOutputBytes.getD defaultExecMaxOutputBytes ∧
          (result.truncated = false → keptStdout = stdout ∧ keptStderr = stderr) := by
  have hinv := (ExecOutput.inv_start maxOutputBytes stdout stderr).run hrun
  have hkept := hinv.kept
  refine ⟨by omega, fun status result hresult => ?_⟩
  rw [ExecOutput.result.eq_def] at hresult
  split at hresult
  · cases hresult
  · split at hresult
    · cases hresult
    · cases hresult
    · rename_i out hout
      split at hresult
      · cases hresult
      · cases hresult
      · rename_i err herr
        cases hresult
        rcases hinv.stdout.result hout with ⟨keptOut, hprefixOut, hshortOut, htextOut, hwholeOut⟩
        rcases hinv.stderr.result herr with ⟨keptErr, hprefixErr, hshortErr, htextErr, hwholeErr⟩
        have hlengthOut := hshortOut.length_le
        have hlengthErr := hshortErr.length_le
        refine ⟨keptOut, keptErr, hprefixOut, htextOut, hprefixErr, htextErr, by omega,
          fun huncut => ?_⟩
        -- The result is marked as soon as one of the two texts is.
        have hflags := Bool.or_eq_false_iff.mp huncut
        exact ⟨hwholeOut hflags.1, hwholeErr hflags.2⟩

/-- A limit of four bytes, of which the other output takes one: of the three bytes that are
    left, the third begins a character that does not fit. -/
def splitCharacter : List (OutputName × ReadEvent) :=
  [(.stdout, .read 4), (.stderr, .read 1), (.stderr, .takeBudget), (.stdout, .takeBudget),
    (.stderr, .read 0), (.stdout, .read 0)]

theorem execOutput_bounded_split_character :
    ((ExecOutput.start (some 4) [97, 98, 0xC3, 0xA9] [99]).run splitCharacter).isSome = true ∧
      ∀ state, (ExecOutput.start (some 4) [97, 98, 0xC3, 0xA9] [99]).run splitCharacter
          = some state →
        state.stdout.output.length + state.stderr.output.length ≤ 4 :=
  ⟨by decide, fun state hrun =>
    (execOutput_bounded (fun _ => "") (some 4) _ _ splitCharacter state hrun).1⟩

end Mistle
