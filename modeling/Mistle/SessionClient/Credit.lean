import Mistle.SessionClient.OneStream

/-!
# What a Stream May Send

A stream starts with the send window of its channel. A frame is sent only if the window covers
it, and lowers the window by its payload; a `stream.window` raises it, up to a maximum beyond which
the connection is closed. So what a stream has sent never exceeds the first window and the
credit that came in, and as long as the stream is active, its window is what is left of them.

A stream whose id no frame can bear is the exception: the window is lowered before the frame is
encoded, so what could not be sent is paid for all the same.

## Main definitions

* `sentBytes`: The payloads that were sent for a stream.
* `creditOf`: The credit that came in for a stream.
* `Funded`: What was sent, what came in and what is left.

## Theorems

* `StreamStep.window_cases`: What a step does to a stream's window.
* `sent_within_credit`: A stream sends what it has credit for.
-/

namespace Mistle

namespace SessionClient

open Handler SessionProtocol

/-- The payload that an output sends for a stream. -/
def TransportOutput.sentBytes (id : Nat) : TransportOutput → Nat
  | .sendsBinary _ encoded =>
    match decodeDataFrame encoded with
    | .ok frame => if frame.streamId = id then frame.payload.length else 0
    | .error _ => 0
  | _ => 0

/-- The payloads that were sent for a stream, in bytes. -/
def sentBytes (id : Nat) (out : List TransportOutput) : Nat :=
  (out.map (TransportOutput.sentBytes id)).sum

/-- The credit that came in for a stream, in bytes. -/
def creditOf (id : Nat) (trace : List (Entry TransportInput TransportOutput)) : Nat :=
  (trace.map fun entry => entry.input.credit id).sum

section

variable {id gained : Nat} {socket : Option Nat} {v v' : StreamView}
  {out more : List TransportOutput}

@[simp] theorem sentBytes_nil : sentBytes id [] = 0 := rfl

@[simp] theorem sentBytes_append : sentBytes id (out ++ more) =
    sentBytes id out + sentBytes id more := by
  simp only [sentBytes, List.map_append, List.sum_append]

theorem creditOf_snoc (trace : List (Entry TransportInput TransportOutput))
    (input : TransportInput) :
    creditOf id (trace ++ [⟨input, out⟩]) = creditOf id trace + input.credit id := by
  simp only [creditOf, List.map_append, List.map_cons, List.map_nil, List.sum_append,
    List.sum_cons, List.sum_nil, Nat.add_zero]

/-- Only outputs that bear the stream's id send bytes for it. -/
theorem sentBytes_about : sentBytes id (about id out) = sentBytes id out := by
  induction out with
  | nil => rfl
  | cons o out ih =>
      by_cases hbears : o.streamId? = some id
      · have habout : about id (o :: out) = o :: about id out :=
          List.filter_cons_of_pos (decide_eq_true hbears)
        rw [habout]
        simp only [sentBytes, List.map_cons, List.sum_cons] at ih ⊢
        rw [ih]
      · have habout : about id (o :: out) = about id out :=
          List.filter_cons_of_neg fun h => hbears (of_decide_eq_true h)
        have hnone : o.sentBytes id = 0 := by
          cases o with
          | sendsBinary n encoded =>
              simp only [TransportOutput.streamId?] at hbears
              simp only [TransportOutput.sentBytes]
              cases hdecode : decodeDataFrame encoded with
              | error error => rfl
              | ok frame =>
                  rw [hdecode, toOption_ok, Option.map_some, Option.some.injEq] at hbears
                  exact if_neg hbears
          | _ => rfl
        rw [habout, ih]
        simp only [sentBytes, List.map_cons, List.sum_cons, hnone, Nat.zero_add]

/-- A step either leaves the stream without a window and sends nothing for it, or lowers its window
    by what it sends and raises it by the credit it is given. -/
theorem StreamStep.window_cases (hstep : StreamStep id socket gained v out v')
    (hmade : v.made = true) :
    (v'.window = none ∧ sentBytes id out = 0) ∨
      ∃ w w', v.window = some w ∧ v'.window = some w' ∧ sentBytes id out + w' ≤ w + gained ∧
        (0 < id ∧ id ≤ maxStreamId → sentBytes id out + w' = w + gained) ∧
        w' ≤ max w maxStreamWindowBytes := by
  -- A step that sends nothing and leaves the window as it is.
  have hsame : gained = 0 → sentBytes id out = 0 → v'.window = v.window →
      (v'.window = none ∧ sentBytes id out = 0) ∨
      ∃ w w', v.window = some w ∧ v'.window = some w' ∧ sentBytes id out + w' ≤ w + gained ∧
        (0 < id ∧ id ≤ maxStreamId → sentBytes id out + w' = w + gained) ∧
        w' ≤ max w maxStreamWindowBytes := by
    intro hgained hsent hwindow
    rw [hgained, hsent, hwindow]
    cases hw : v.window with
    | none => exact .inl ⟨rfl, rfl⟩
    | some w =>
        exact .inr ⟨w, w, rfl, rfl, (Nat.zero_add w).le, fun _ => Nat.zero_add w, le_max_left ..⟩
  cases hstep with
  | asks channel hsocket hnew => exact absurd (hmade.symm.trans hnew) Bool.noConfusion
  | givesUp failure hsettled => exact .inl ⟨rfl, rfl⟩
  | @pays _ n w payload payloadKind encoded hsocket hwindow hfits hencoded =>
      rcases decodeDataFrame_of_encodeDataFrame hencoded with ⟨frame, hdecode, hid, hpayload⟩
      have hsent : sentBytes id [.sendsBinary n encoded] = payload.length := by
        simp only [sentBytes, List.map_cons, List.map_nil, List.sum_cons, List.sum_nil,
          TransportOutput.sentBytes, hdecode, hid, hpayload, if_true, Nat.add_zero]
      have hpaid : sentBytes id [.sendsBinary n encoded] + (w - payload.length) = w + 0 := by
        omega
      exact .inr ⟨w, w - payload.length, hwindow, rfl, hpaid.le, fun _ => hpaid,
        (Nat.sub_le ..).trans (le_max_left ..)⟩
  | @wastes _ w paid hwindow hfits hid =>
      refine .inr ⟨w, w - paid, hwindow, rfl, ?_, fun hrange => absurd hrange hid,
        (Nat.sub_le ..).trans (le_max_left ..)⟩
      rw [sentBytes_nil]
      omega
  | @gains _ w _ hwindow hfits =>
      have hraised : sentBytes id [] + (w + gained) = w + gained := Nat.zero_add _
      exact .inr ⟨w, w + gained, hwindow, rfl, hraised.le, fun _ => hraised,
        hfits.trans (le_max_right ..)⟩
  | ends pending settled hanswer => exact .inl ⟨rfl, rfl⟩
  | _ => exact hsame rfl rfl rfl

theorem StreamStep.made (hstep : StreamStep id socket gained v out v') (h : v.made = true) :
    v'.made = true := by
  cases hstep with
  | asks channel hsocket hnew => rfl
  | _ => exact h

/-- What a stream has sent, what it was given and what it has left. -/
structure Funded (id first sent received : Nat) (v : StreamView) : Prop where
  made : v.made = true
  within : sent ≤ first + received
  left : ∀ w, v.window = some w → w ≤ maxStreamWindowBytes ∧ sent + w ≤ first + received ∧
    (0 < id ∧ id ≤ maxStreamId → sent + w = first + received)

theorem Funded.step {first sent received credit : Nat} (h : Funded id first sent received v)
    (hstep : StreamStep id socket gained v more v')
    (hcredit : v.window = none ∨ v'.window = none ∨ gained = credit) :
    Funded id first (sent + sentBytes id more) (received + credit) v' := by
  have hmade := hstep.made h.made
  have hwithin := h.within
  rcases hstep.window_cases h.made with ⟨hnone, hsent⟩ | ⟨w, w', hw, hw', hle, heq, hmax⟩
  · rw [hsent, Nat.add_zero]
    refine ⟨hmade, hwithin.trans (by omega), fun w hsome => ?_⟩
    rw [hnone] at hsome
    exact absurd hsome (Option.some_ne_none w).symm
  · have hgained : gained = credit := by
      rw [hw, hw'] at hcredit
      simpa only [reduceCtorEq, false_or] using hcredit
    rw [hgained] at hle heq
    rcases h.left w hw with ⟨hsmall, hleft, hexact⟩
    refine ⟨hmade, by omega, fun w'' hsome => ?_⟩
    rw [hw', Option.some.injEq] at hsome
    rw [← hsome]
    refine ⟨hmax.trans (max_le hsmall le_rfl), by omega, fun hid => ?_⟩
    have hbefore := hexact hid
    have hnow := heq hid
    omega

end

/-- `openStream` on an open socket: the next id is handed out, with the window of its channel. -/
theorem openStream_state {t : Transport} {n : Nat} (h : t.openSocket? = some n)
    (channel : StreamChannel) : ((openStream channel t).state.view t.nextStreamId).made = true ∧
      ((openStream channel t).state.view t.nextStreamId).window =
        some (getInitialSendWindowBytes channel) := by
  unfold openStream
  rw [get_bind_apply]
  dsimp only
  rw [h]
  exact ⟨decide_eq_true (Nat.lt_succ_self _), InsertionMap.get?_set_self ..⟩

theorem nextStreamId_pos {trace : List (Entry TransportInput TransportOutput)} {t : Transport}
    (run : Run Steps .new trace t) : 0 < t.nextStreamId :=
  have hnew : (Transport.new.view 0).made = true := rfl
  of_decide_eq_true (view_of_run (P := fun _ v => v.made = true) hnew
    (fun _ _ _ _ _ _ h hstep => hstep.made h) run)

/-- A stream sends what it has credit for: along every run behind the `openStream` that made it, the
    payloads sent for it add up to no more than the first window of its channel and the credit that
    came in since. While it is active, its window is within the maximum; and unless its id is too
    large for a frame, the window is exactly what is left. -/
theorem sent_within_credit {before after : List (Entry TransportInput TransportOutput)}
    {s u t : Transport} {n : Nat} {channel : StreamChannel} {out : List TransportOutput}
    (run : Run Steps .new before s) (hsocket : s.openSocket? = some n)
    (hopen : Steps s (.openStream channel) out u) (later : Run Steps u after t) :
    sentBytes s.nextStreamId (outputs after) ≤
        getInitialSendWindowBytes channel + creditOf s.nextStreamId after ∧
      ∀ w, t.activeStreamsByStreamId.get? s.nextStreamId = some w → w ≤ maxStreamWindowBytes ∧
        (s.nextStreamId ≤ maxStreamId → sentBytes s.nextStreamId (outputs after) + w =
          getInitialSendWindowBytes channel + creditOf s.nextStreamId after) := by
  have hinv : Funded s.nextStreamId (getInitialSendWindowBytes channel)
      (sentBytes s.nextStreamId (outputs after)) (creditOf s.nextStreamId after)
      (t.view s.nextStreamId) := by
    refine later.history (P := fun trace t => Funded s.nextStreamId
      (getInitialSendWindowBytes channel) (sentBytes s.nextStreamId (outputs trace))
      (creditOf s.nextStreamId trace) (t.view s.nextStreamId)) ?_ ?_
    · rcases openStream_state hsocket channel with ⟨hmade, hwindow⟩
      rcases steps_cases hopen with ⟨_, hu, _⟩
      rw [react] at hu
      rw [hu] at hmade hwindow
      refine ⟨hmade, Nat.zero_le _, fun w hsome => ?_⟩
      rw [hwindow, Option.some.injEq] at hsome
      rw [← hsome]
      refine ⟨?_, (Nat.zero_add _).le, fun _ => Nat.zero_add _⟩
      cases channel with
      | _ => exact le_rfl
    · rintro trace a input out b _ hfunded hstep
      rcases streamStep_of_steps hstep with ⟨gained, hacts, hcredit⟩
      have hnext := hfunded.step hacts hcredit
      rw [sentBytes_about] at hnext
      rw [outputs_append, outputs_singleton, sentBytes_append, creditOf_snoc]
      exact hnext
  refine ⟨hinv.within, fun w hw => ⟨(hinv.left w hw).1, fun hid => ?_⟩⟩
  exact (hinv.left w hw).2.2 ⟨nextStreamId_pos run, hid⟩

/-- Three bytes are sent, and one of them is granted back. -/
theorem sent_within_credit_three :
    ∃ before s out u after t, Run Steps .new before s ∧ Steps s (.openStream .processes) out u ∧
      Run Steps u after t ∧ sentBytes s.nextStreamId (outputs after) = 3 ∧
      creditOf s.nextStreamId after = 1 ∧
      (t.activeStreamsByStreamId.get? s.nextStreamId).isSome ∧
      ∀ w, t.activeStreamsByStreamId.get? s.nextStreamId = some w →
        w ≤ maxStreamWindowBytes ∧ (s.nextStreamId ≤ maxStreamId →
          sentBytes s.nextStreamId (outputs after) + w =
            getInitialSendWindowBytes .processes + creditOf s.nextStreamId after) := by
  have hexecutes : executesTo step .new [.connect (.ok ()), .socketOpens 0] (fun _ s =>
      s.openSocket? = some 0 ∧ (step s (.openStream .processes)).any (fun next =>
        executesTo step next.1 [.receives 0 (.control (.streamOpenOk 1)), .openStreamGoesOn 1,
            .sendDataFrame 1 [104, 105, 10] (.int SessionProtocol.payloadKindRawBytes),
            .receives 0 (.control (.streamWindow 1 1))]
          fun after t => sentBytes s.nextStreamId (outputs after) = 3 ∧
            creditOf s.nextStreamId after = 1 ∧
            (t.activeStreamsByStreamId.get? s.nextStreamId).isSome) = true) = true := by
    decide +kernel
  rcases exists_run_of_executesTo hexecutes with ⟨before, s, run, _, hcheck⟩
  rcases of_decide_eq_true hcheck with ⟨hsocket, hrest⟩
  rcases (Option.any_eq_true ..).mp hrest with ⟨⟨u, out⟩, hopen, hlater⟩
  rcases exists_run_of_executesTo hlater with ⟨after, t, later, _, hafter⟩
  rcases of_decide_eq_true hafter with ⟨hsent, hcredit, hactive⟩
  exact ⟨before, s, out, u, after, t, run, hopen, later, hsent, hcredit, hactive,
    (sent_within_credit run hsocket hopen later).2⟩

end SessionClient

end Mistle
