import Mistle.Egress.TokenProvider
import Std.Data.String.ToNat

/-!
# Egress Tokens of One Generation

A token is kept, or handed to a caller, only if its request was made after the last
change of the acting user and of the attachment. A caller learns of a change by the
generation it took along, so this holds as long as the counter of generations moves.

## Main definitions

* `TokenState.Changes`: What begins a generation.
* `LookedIn`, `NumberedIn`, `AnsweredIn`: What a trace says of a request.
* `Current`: A token of the generation that a state is in.
* `TokenInvariant`: What callers, sessions and the cache hold.

## Theorems

* `tokenStep_provider`: What a step does to a generation.
* `tokenStep_invariant`: The invariant is kept.
* `current_of_generation`: The same generation means no change.
* `tokens_of_current_generation`: Every run.
-/

namespace Mistle

open Handler

/-- A new acting user, an attachment or a detachment: each begins a generation. -/
def TokenState.Changes (st : TokenState) : TokenInput → Prop
  | .setActingUserId actingUserId => st.provider.actingUserId ≠ actingUserId
  | .attach _ => True
  | .detach => True
  | _ => False

namespace TokenCall

/-- What a call took along. -/
def snapshot? : TokenCall → Option TokenSnapshot
  | .snapshotted snapshot => some snapshot
  | .numbered request => some request.toTokenSnapshot
  | .waiting request _ => some request.toTokenSnapshot
  | .answered request _ => some request.toTokenSnapshot
  | _ => none

def request? : TokenCall → Option TokenRequest
  | .numbered request => some request
  | .waiting request _ => some request
  | .answered request _ => some request
  | _ => none

/-- A token that came for a call. -/
def Holds (call : TokenCall) (request : TokenRequest) (token : TunnelEgressToken) : Prop :=
  match call with
  | .waiting asked answers => asked = request ∧ .ok token ∈ answers
  | .answered asked received => asked = request ∧ received = token
  | _ => False

/-- A session may still answer a call that it knows by a request id. -/
def Awaits (call : TokenCall) (session : SessionId) (requestId : String) : Prop :=
  match call with
  | .waiting request _ => request.requestSender = session ∧ request.requestId = requestId
  | .answered request _ => request.requestSender = session ∧ request.requestId = requestId
  | .returned => True
  | _ => False

end TokenCall

section

variable (context : TunnelSessionLoopContext) (user : Option String)

/-- A call looked at the provider, which was as the call took along. -/
def LookedIn (trace : List (Entry TokenInput TokenOutput)) (call : ResponseSender)
    (snapshot : TokenSnapshot) : Prop :=
  ∃ earlier now out later s, trace = earlier ++ ⟨.look call now, out⟩ :: later ∧
    Run (TokenSteps context) (.initial user) earlier s ∧
    s.provider.generation = snapshot.generation ∧
    s.provider.requestSender = some snapshot.requestSender ∧
    s.provider.actingUserId = snapshot.actingUserId

/-- A call took the number that a request id is made of. -/
def NumberedIn (trace : List (Entry TokenInput TokenOutput)) (call : ResponseSender)
    (requestId : String) : Prop :=
  ∃ earlier out later s, trace = earlier ++ ⟨.number call, out⟩ :: later ∧
    Run (TokenSteps context) (.initial user) earlier s ∧
    requestId = requestIdText s.nextRequestId

/-- The session of a request got a token for its id. -/
def AnsweredIn (trace : List (Entry TokenInput TokenOutput)) (request : TokenRequest)
    (token : TunnelEgressToken) : Prop :=
  ∃ e ∈ trace, ∃ world response,
    e.input = .message request.requestSender world (.response response) ∧
    response.requestId = request.requestId ∧
    token = ⟨response.token, response.expiresAt, response.ttlMs⟩

/-- A token of the generation that a state is in: its request was made for the acting
    user and over the session that the provider has, and no generation began since. -/
structure Current (trace : List (Entry TokenInput TokenOutput)) (st : TokenState)
    (call : ResponseSender) (request : TokenRequest) (token : TunnelEgressToken) : Prop where
  asked : ∃ earlier now out later s, trace = earlier ++ ⟨.look call now, out⟩ :: later ∧
    Run (TokenSteps context) (.initial user) earlier s ∧
    EveryStep (TokenSteps context) s (⟨.look call now, out⟩ :: later)
      fun a input _ => ¬ a.Changes input
  attachment : st.provider.requestSender = some request.requestSender
  actingUser : st.provider.actingUserId = request.actingUserId
  numbered : NumberedIn context user trace call request.requestId
  answered : AnsweredIn trace request token

/-- What callers, sessions and the cache hold was asked for and answered. -/
structure TokenInvariant (trace : List (Entry TokenInput TokenOutput)) (st : TokenState) :
    Prop where
  looked : ∀ call snapshot, (st.calls call).snapshot? = some snapshot →
    LookedIn context user trace call snapshot
  numbered : ∀ call request, (st.calls call).request? = some request →
    NumberedIn context user trace call request.requestId
  waits : ∀ session id call,
    (st.sessions session).state.pendingEgressTokenRequests[id]? = some call →
    (st.calls call).Awaits session id
  queued : ∀ session queued, queued ∈ (st.sessions session).queue →
    (st.calls queued.responseSender).Awaits session queued.requestId
  answered : ∀ call request token, (st.calls call).Holds request token →
    AnsweredIn trace request token
  cached : ∀ cached, st.provider.cachedToken = some cached → ∃ call request,
    LookedIn context user trace call request.toTokenSnapshot ∧
    request.generation = st.provider.generation ∧
    NumberedIn context user trace call request.requestId ∧
    request.requestId = cached.sourceRequestId ∧ AnsweredIn trace request cached.token

end

/-! ### Delivering answers -/

section

variable {context : TunnelSessionLoopContext} {user : Option String}

theorem deliver_rest (effects : List TunnelEffect) : ∀ st : TokenState,
    (st.deliver effects).provider = st.provider ∧
      (st.deliver effects).nextRequestId = st.nextRequestId ∧
      (st.deliver effects).sessions = st.sessions := by
  induction effects with
  | nil => exact fun _ => ⟨rfl, rfl, rfl⟩
  | cons effect effects ih =>
      intro st
      cases effect with
      | answerEgressToken sender result =>
          simp only [TokenState.deliver]
          split
          · exact ih _
          · exact ih st
      | write _ | task _ | answerClose _ _ | answerSigning _ _ | answerSet _ => exact ih st

/-- A call gets the answers that are for it, if it waits. -/
theorem deliver_calls (effects : List TunnelEffect) : ∀ (st : TokenState) (call : ResponseSender),
    (st.deliver effects).calls call = st.calls call ∨
    ∃ request answers more, st.calls call = .waiting request answers ∧
      (st.deliver effects).calls call = .waiting request (answers ++ more) ∧
      ∀ token, .ok token ∈ more → .answerEgressToken call (.ok token) ∈ effects := by
  induction effects with
  | nil => exact fun _ _ => .inl rfl
  | cons effect effects ih =>
      intro st call
      have hskip : ((st.deliver effects).calls call = st.calls call ∨
          ∃ request answers more, st.calls call = .waiting request answers ∧
            (st.deliver effects).calls call = .waiting request (answers ++ more) ∧
            ∀ token, .ok token ∈ more → .answerEgressToken call (.ok token) ∈ effect :: effects) := by
        rcases ih st call with hsame | ⟨request, answers, more, hbefore, hafter, hmore⟩
        · exact .inl hsame
        · exact .inr ⟨request, answers, more, hbefore, hafter,
            fun token htoken => List.mem_cons_of_mem _ (hmore token htoken)⟩
      cases effect with
      | write _ | task _ | answerClose _ _ | answerSigning _ _ | answerSet _ => exact hskip
      | answerEgressToken sender result =>
          simp only [TokenState.deliver]
          split
          · rename_i request answers hwaiting
            by_cases hcall : call = sender
            · rw [hcall]
              rcases ih (st.setCall sender (.waiting request (answers ++ [result]))) sender
                with hsame | ⟨request', answers', more, hbefore, hafter, hmore⟩
              · rw [hsame, TokenState.setCall_self]
                refine .inr ⟨request, answers, [result], hwaiting, rfl, fun token htoken => ?_⟩
                rw [List.mem_singleton.mp htoken]
                exact List.mem_cons_self
              · rw [TokenState.setCall_self, TokenCall.waiting.injEq] at hbefore
                rw [hafter, ← hbefore.1, ← hbefore.2]
                refine .inr ⟨request, answers, result :: more, hwaiting, ?_, fun token htoken => ?_⟩
                · rw [List.append_assoc, List.singleton_append]
                · rcases List.mem_cons.mp htoken with heq | htoken
                  · rw [heq]
                    exact List.mem_cons_self
                  · exact List.mem_cons_of_mem _ (hmore token htoken)
            · rcases ih (st.setCall sender (.waiting request (answers ++ [result]))) call
                with hsame | ⟨request', answers', more, hbefore, hafter, hmore⟩
              · rw [hsame, TokenState.setCall_ne _ hcall]
                exact .inl rfl
              · rw [TokenState.setCall_ne _ hcall] at hbefore
                exact .inr ⟨request', answers', more, hbefore, hafter,
                  fun token htoken => List.mem_cons_of_mem _ (hmore token htoken)⟩
          · exact hskip

/-! ### Generations -/

/-- What a step does to a generation. -/
theorem tokenStep_provider {st st' : TokenState} {input : TokenInput} {out : List TokenOutput}
    (h : TokenSteps context st input out st') :
    (st.Changes input ∧ st'.provider.generation = st.provider.nextGeneration ∧
      st'.provider.cachedToken = none) ∨
    (¬ st.Changes input ∧ st'.provider.generation = st.provider.generation ∧
      st'.provider.requestSender = st.provider.requestSender ∧
      st'.provider.actingUserId = st.provider.actingUserId) := by
  have hsame : ∀ {next : TokenState}, ¬ st.Changes input → next = st' →
      next.provider = st.provider → (st.Changes input ∧ st'.provider.generation = st.provider.nextGeneration ∧
        st'.provider.cachedToken = none) ∨
      (¬ st.Changes input ∧ st'.provider.generation = st.provider.generation ∧
        st'.provider.requestSender = st.provider.requestSender ∧
        st'.provider.actingUserId = st.provider.actingUserId) := by
    intro next hkeeps hnext hprovider
    rw [← hnext, hprovider]
    exact .inr ⟨hkeeps, rfl, rfl, rfl⟩
  unfold TokenSteps tokenStep at h
  cases input with
  | setActingUserId actingUserId =>
      rw [Option.some.injEq, Prod.mk.injEq] at h
      rw [← h.1]
      by_cases hactor : st.provider.actingUserId = actingUserId
      · refine .inr ⟨fun hne => hne hactor, ?_⟩
        simp only [GatewayEgressTokenProviderState.setActingUserId, if_pos hactor, and_self]
      · refine .inl ⟨hactor, ?_⟩
        simp only [GatewayEgressTokenProviderState.setActingUserId, if_neg hactor, and_self]
  | attach session =>
      rw [Option.some.injEq, Prod.mk.injEq] at h
      rw [← h.1]
      exact .inl ⟨trivial, rfl, rfl⟩
  | detach =>
      rw [Option.some.injEq, Prod.mk.injEq] at h
      rw [← h.1]
      exact .inl ⟨trivial, rfl, rfl⟩
  | look call now =>
      simp only at h
      split at h
      · rw [Option.some.injEq, Prod.mk.injEq] at h
        refine hsame (fun hno => hno) h.1 ?_
        unfold TokenState.look
        split
        · rfl
        · rfl
        · rfl
      · exact absurd h (by simp only [reduceCtorEq, not_false_eq_true])
  | number call =>
      simp only at h
      split at h
      · rw [Option.some.injEq, Prod.mk.injEq] at h
        exact hsame (fun hno => hno) h.1 rfl
      · exact absurd h (by simp only [reduceCtorEq, not_false_eq_true])
  | send call =>
      simp only at h
      split at h
      · rw [Option.some.injEq, Prod.mk.injEq] at h
        refine hsame (fun hno => hno) h.1 ?_
        unfold TokenState.send
        simp only
        split
        · rfl
        · rfl
      · exact absurd h (by simp only [reduceCtorEq, not_false_eq_true])
  | receive call =>
      simp only at h
      split at h
      · rw [Option.some.injEq, Prod.mk.injEq] at h
        exact hsame (fun hno => hno) h.1 rfl
      · rw [Option.some.injEq, Prod.mk.injEq] at h
        exact hsame (fun hno => hno) h.1 rfl
      · exact absurd h (by simp only [reduceCtorEq, not_false_eq_true])
  | timeOut call =>
      simp only at h
      split at h
      · rw [Option.some.injEq, Prod.mk.injEq] at h
        exact hsame (fun hno => hno) h.1 rfl
      · exact absurd h (by simp only [reduceCtorEq, not_false_eq_true])
  | store call now =>
      simp only at h
      split at h
      · rename_i request token _
        rw [Option.some.injEq, Prod.mk.injEq] at h
        rw [← h.1]
        refine .inr ⟨fun hno => hno, ?_⟩
        simp only [TokenState.store, TokenState.setCall, GatewayEgressTokenProviderState.storeToken]
        split
        · exact ⟨rfl, rfl, rfl⟩
        · exact ⟨rfl, rfl, rfl⟩
      · exact absurd h (by simp only [reduceCtorEq, not_false_eq_true])
  | request session world =>
      simp only at h
      split at h
      · exact absurd h (by simp only [reduceCtorEq, not_false_eq_true])
      · rw [Option.some.injEq, Prod.mk.injEq] at h
        exact hsame (fun hno => hno) h.1 (deliver_rest _ _).1
  | message session world message =>
      rw [Option.some.injEq, Prod.mk.injEq] at h
      exact hsame (fun hno => hno) h.1 (deliver_rest _ _).1
  | failPending session ending =>
      rw [Option.some.injEq, Prod.mk.injEq] at h
      exact hsame (fun hno => hno) h.1 (deliver_rest _ _).1
  | other session state =>
      rw [Option.some.injEq, Prod.mk.injEq] at h
      exact hsame (fun hno => hno) h.1 rfl
  | connect session state =>
      rw [Option.some.injEq, Prod.mk.injEq] at h
      exact hsame (fun hno => hno) h.1 rfl
  | close session =>
      rw [Option.some.injEq, Prod.mk.injEq] at h
      exact hsame (fun hno => hno) h.1 rfl

/-- Generations do not go back, as long as the counter moves. -/
theorem generation_mono {s t : TokenState} {trace : List (Entry TokenInput TokenOutput)}
    (run : Run (TokenSteps context) s trace t)
    (hmoves : EveryStep (TokenSteps context) s trace
      fun a input _ => a.Changes input → a.provider.generation < lastGeneration) :
    s.provider.generation ≤ t.provider.generation ∧
      (t.provider.generation = s.provider.generation →
        EveryStep (TokenSteps context) s trace (fun a input _ => ¬ a.Changes input) ∧
        t.provider.requestSender = s.provider.requestSender ∧
        t.provider.actingUserId = s.provider.actingUserId) := by
  induction run with
  | nil =>
      refine ⟨Nat.le_refl _, fun _ => ⟨?_, rfl, rfl⟩⟩
      intro before input out after a htrace _
      exact absurd htrace.symm (List.append_ne_nil_of_right_ne_nil _ (List.cons_ne_nil _ _))
  | @snoc a b trace input out run last ih =>
      rcases ih hmoves.init with ⟨hle, hsame⟩
      rcases tokenStep_provider last with ⟨hchanges, hnext, _⟩ | ⟨hkeeps, hgeneration, hrest⟩
      · -- A change moves the counter, so the generation is another one.
        have hlt : a.provider.generation < lastGeneration :=
          hmoves trace input out [] a rfl run hchanges
        have hmore : b.provider.generation = a.provider.generation + 1 := by
          rw [hnext]
          unfold GatewayEgressTokenProviderState.nextGeneration
          omega
        exact ⟨by omega, fun heq => by omega⟩
      · refine ⟨by omega, fun heq => ?_⟩
        rcases hsame (by omega) with ⟨hevery, hsender, huser⟩
        exact ⟨EveryStep.snoc (functional_of_step _) hevery run hkeeps, hrest.1.trans hsender,
          hrest.2.trans huser⟩

/-! ### The invariant -/

theorem LookedIn.append {trace more : List (Entry TokenInput TokenOutput)} {call : ResponseSender}
    {snapshot : TokenSnapshot} (h : LookedIn context user trace call snapshot) :
    LookedIn context user (trace ++ more) call snapshot := by
  rcases h with ⟨earlier, now, out, later, s, htrace, hrest⟩
  refine ⟨earlier, now, out, later ++ more, s, ?_, hrest⟩
  rw [htrace, List.append_assoc, List.cons_append]

theorem NumberedIn.append {trace more : List (Entry TokenInput TokenOutput)}
    {call : ResponseSender} {requestId : String}
    (h : NumberedIn context user trace call requestId) :
    NumberedIn context user (trace ++ more) call requestId := by
  rcases h with ⟨earlier, out, later, s, htrace, hrest⟩
  refine ⟨earlier, out, later ++ more, s, ?_, hrest⟩
  rw [htrace, List.append_assoc, List.cons_append]

theorem AnsweredIn.append {trace more : List (Entry TokenInput TokenOutput)}
    {request : TokenRequest} {token : TunnelEgressToken} (h : AnsweredIn trace request token) :
    AnsweredIn (trace ++ more) request token := by
  rcases h with ⟨e, he, hrest⟩
  exact ⟨e, List.mem_append_left _ he, hrest⟩

/-- A call goes on: what it holds it held, or the trace tells of it. -/
structure CallMoves (context : TunnelSessionLoopContext) (user : Option String)
    (trace : List (Entry TokenInput TokenOutput)) (call : ResponseSender)
    (before after : TokenCall) : Prop where
  looked : ∀ snapshot, after.snapshot? = some snapshot →
    before.snapshot? = some snapshot ∨ LookedIn context user trace call snapshot
  numbered : ∀ request, after.request? = some request →
    before.request? = some request ∨ NumberedIn context user trace call request.requestId
  awaits : ∀ session id, before.Awaits session id → after.Awaits session id
  holds : ∀ request token, after.Holds request token →
    before.Holds request token ∨ AnsweredIn trace request token

theorem CallMoves.refl (trace : List (Entry TokenInput TokenOutput)) (call : ResponseSender)
    (stays : TokenCall) : CallMoves context user trace call stays stays :=
  ⟨fun _ h => .inl h, fun _ h => .inl h, fun _ _ h => h, fun _ _ h => .inl h⟩

/-- A call that returns drops everything. -/
theorem CallMoves.returns (trace : List (Entry TokenInput TokenOutput)) (call : ResponseSender)
    (before : TokenCall) : CallMoves context user trace call before .returned where
  looked _ h := absurd h (by simp only [TokenCall.snapshot?, reduceCtorEq, not_false_eq_true])
  numbered _ h := absurd h (by simp only [TokenCall.request?, reduceCtorEq, not_false_eq_true])
  awaits _ _ _ := trivial
  holds _ _ h := h.elim

/-- The invariant of a state whose calls, sessions and cache have moved on. -/
theorem TokenInvariant.moves {trace more : List (Entry TokenInput TokenOutput)}
    {st st' : TokenState} (h : TokenInvariant context user trace st)
    (hcalls : ∀ call, CallMoves context user (trace ++ more) call (st.calls call) (st'.calls call))
    (hwaits : ∀ session id call,
      (st'.sessions session).state.pendingEgressTokenRequests[id]? = some call →
      (st.sessions session).state.pendingEgressTokenRequests[id]? = some call ∨
        (st'.calls call).Awaits session id)
    (hqueued : ∀ session queued, queued ∈ (st'.sessions session).queue →
      queued ∈ (st.sessions session).queue ∨
        (st'.calls queued.responseSender).Awaits session queued.requestId)
    (hcached : ∀ cached, st'.provider.cachedToken = some cached →
      (st.provider.cachedToken = some cached ∧
        st'.provider.generation = st.provider.generation) ∨
      ∃ call request, (st.calls call).snapshot? = some request.toTokenSnapshot ∧
        (st.calls call).request? = some request ∧
        request.generation = st'.provider.generation ∧
        request.requestId = cached.sourceRequestId ∧ (st.calls call).Holds request cached.token) :
    TokenInvariant context user (trace ++ more) st' := by
  constructor
  · intro call snapshot hsnapshot
    rcases (hcalls call).looked snapshot hsnapshot with hbefore | hlooked
    · exact (h.looked call snapshot hbefore).append
    · exact hlooked
  · intro call request hrequest
    rcases (hcalls call).numbered request hrequest with hbefore | hnumbered
    · exact (h.numbered call request hbefore).append
    · exact hnumbered
  · intro session id call hwaiting
    rcases hwaits session id call hwaiting with hbefore | hawaits
    · exact (hcalls call).awaits session id (h.waits session id call hbefore)
    · exact hawaits
  · intro session queued hmem
    rcases hqueued session queued hmem with hbefore | hawaits
    · exact (hcalls _).awaits _ _ (h.queued session queued hbefore)
    · exact hawaits
  · intro call request token hholds
    rcases (hcalls call).holds request token hholds with hbefore | hanswered
    · exact (h.answered call request token hbefore).append
    · exact hanswered
  · intro cached hcache
    rcases hcached cached hcache with ⟨hbefore, hgeneration⟩ | hstored
    · rcases h.cached cached hbefore
        with ⟨call, request, hlooked, hsame, hnumbered, hid, hanswered⟩
      exact ⟨call, request, hlooked.append, hsame.trans hgeneration.symm, hnumbered.append, hid,
        hanswered.append⟩
    · rcases hstored with ⟨call, request, hsnapshot, hrequest, hgeneration, hid, hholds⟩
      exact ⟨call, request, (h.looked call _ hsnapshot).append, hgeneration,
        (h.numbered call _ hrequest).append, hid, (h.answered call _ _ hholds).append⟩

/-- The same where only one call moves. -/
theorem TokenInvariant.moves_one {trace more : List (Entry TokenInput TokenOutput)}
    {st : TokenState} (h : TokenInvariant context user trace st) (call : ResponseSender)
    {next : TokenCall}
    (hcall : CallMoves context user (trace ++ more) call (st.calls call) next)
    {st' : TokenState} (hcalls : st'.calls = (st.setCall call next).calls)
    (hsessions : st'.sessions = st.sessions) (hprovider : st'.provider = st.provider) :
    TokenInvariant context user (trace ++ more) st' := by
  refine h.moves (fun other => ?_) (fun session id other hwaiting => .inl ?_)
    (fun session queued hmem => .inl ?_) fun cached hcached => .inl ⟨?_, ?_⟩
  · rw [hcalls]
    by_cases hsame : other = call
    · rw [hsame, TokenState.setCall_self]
      exact hcall
    · rw [TokenState.setCall_ne _ hsame]
      exact .refl _ _ _
  · rwa [hsessions] at hwaiting
  · rwa [hsessions] at hmem
  · rwa [hprovider] at hcached
  · rw [hprovider]

/-- The same where a handler of a session ran. -/
theorem TokenInvariant.handles {trace more : List (Entry TokenInput TokenOutput)}
    {st : TokenState} (h : TokenInvariant context user trace st) {α : Type} {session : SessionId}
    {queue : List QueuedTokenRequest} {handler : Session α}
    (added : String → ResponseSender → Prop) (granted : String → TunnelEgressToken → Prop)
    (htable : Follows (tokenTable added granted) handler)
    (hqueue : ∀ queued ∈ queue, queued ∈ (st.sessions session).queue)
    (hadded : ∀ id sender, added id sender → (st.calls sender).Awaits session id)
    (hgranted : ∀ request token, granted request.requestId token →
      request.requestSender = session → AnsweredIn (trace ++ more) request token) :
    TokenInvariant context user (trace ++ more) (st.handle session queue handler) := by
  rcases htable (st.sessions session).state with ⟨hpending, hanswers⟩
  have hrest := deliver_rest (handler (st.sessions session).state).emitted
    (st.setSession session { st.sessions session with
      queue, state := (handler (st.sessions session).state).state })
  have hawaits : ∀ id sender,
      ((st.sessions session).state.pendingEgressTokenRequests[id]? = some sender ∨
        added id sender) → (st.calls sender).Awaits session id := by
    rintro id sender (hid | hid)
    · exact h.waits session id sender hid
    · exact hadded id sender hid
  have hcalls : ∀ call, CallMoves context user (trace ++ more) call (st.calls call)
      ((st.handle session queue handler).calls call) := by
    intro call
    rcases deliver_calls (handler (st.sessions session).state).emitted
      (st.setSession session { st.sessions session with
        queue, state := (handler (st.sessions session).state).state }) call
      with hsame | ⟨request, answers, new, hbefore, hafter, hnew⟩
    · have hstays : (st.handle session queue handler).calls call = st.calls call := hsame
      rw [hstays]
      exact .refl _ _ _
    · have hwas : st.calls call = .waiting request answers := hbefore
      have hgoes : (st.handle session queue handler).calls call
          = .waiting request (answers ++ new) := hafter
      rw [hwas, hgoes]
      refine ⟨fun _ hsnapshot => .inl hsnapshot, fun _ hrequest => .inl hrequest,
        fun _ _ hawait => hawait, fun asked token hholds => ?_⟩
      rcases List.mem_append.mp hholds.2 with hold | htoken
      · exact .inl ⟨hholds.1, hold⟩
      · -- The token was granted to an id that the session knows this call by.
        rcases hanswers call token (hnew token htoken) with ⟨id, hid, hwaiting⟩
        have hawait := hawaits id call hwaiting
        rw [hwas] at hawait
        rw [← hawait.2] at hid
        rw [← hholds.1]
        exact .inr (hgranted request token hid hawait.1)
  refine h.moves hcalls (fun other id sender hwaiting => ?_) (fun other queued hmem => .inl ?_)
    fun cached hcached => .inl ⟨?_, ?_⟩
  · unfold TokenState.handle at hwaiting
    rw [hrest.2.2] at hwaiting
    by_cases hsession : other = session
    · rw [hsession, TokenState.setSession_self] at hwaiting
      rw [hsession]
      rcases hpending id sender hwaiting with hold | hnew
      · exact .inl hold
      · exact .inr ((hcalls sender).awaits session id (hadded id sender hnew))
    · rw [TokenState.setSession_ne _ hsession] at hwaiting
      exact .inl hwaiting
  · unfold TokenState.handle at hmem
    rw [hrest.2.2] at hmem
    by_cases hsession : other = session
    · rw [hsession, TokenState.setSession_self] at hmem
      rw [hsession]
      exact hqueue queued hmem
    · rwa [TokenState.setSession_ne _ hsession] at hmem
  · unfold TokenState.handle at hcached
    rwa [hrest.1] at hcached
  · unfold TokenState.handle
    rw [hrest.1]
    rfl

/-- The invariant is kept by every step. -/
theorem tokenStep_invariant {trace : List (Entry TokenInput TokenOutput)} {st st' : TokenState}
    {input : TokenInput} {out : List TokenOutput}
    (run : Run (TokenSteps context) (.initial user) trace st)
    (h : TokenInvariant context user trace st) (hstep : TokenSteps context st input out st') :
    TokenInvariant context user (trace ++ [⟨input, out⟩]) st' := by
  have hchange : ∀ {next : TokenState}, next = st' → next.calls = st.calls →
      next.sessions = st.sessions → (next.provider = st.provider ∨
        next.provider.cachedToken = none) →
      TokenInvariant context user (trace ++ [⟨input, out⟩]) st' := by
    intro next hnext hcalls hsessions hprovider
    rw [← hnext]
    refine h.moves (fun call => ?_) (fun session id call hwaiting => .inl ?_)
      (fun session queued hmem => .inl ?_) fun cached hcached => ?_
    · rw [hcalls]
      exact .refl _ _ _
    · rwa [hsessions] at hwaiting
    · rwa [hsessions] at hmem
    · rcases hprovider with hsame | hnone
      · rw [hsame] at hcached ⊢
        exact .inl ⟨hcached, rfl⟩
      · rw [hnone] at hcached
        exact absurd hcached (by simp only [reduceCtorEq, not_false_eq_true])
  have hsession : ∀ {session : SessionId} {next : TokenSession}, st.setSession session next = st' →
      (∀ (id : String) call, next.state.pendingEgressTokenRequests[id]? = some call →
        (st.sessions session).state.pendingEgressTokenRequests[id]? = some call) →
      (∀ queued ∈ next.queue, queued ∈ (st.sessions session).queue) →
      TokenInvariant context user (trace ++ [⟨input, out⟩]) st' := by
    intro session next hnext hpending hqueue
    rw [← hnext]
    refine h.moves (fun call => .refl _ _ _) (fun other id call hwaiting => .inl ?_)
      (fun other queued hmem => .inl ?_) fun cached hcached => .inl ⟨hcached, rfl⟩
    · by_cases hsame : other = session
      · rw [hsame] at hwaiting ⊢
        rw [TokenState.setSession_self] at hwaiting
        exact hpending id call hwaiting
      · rwa [TokenState.setSession_ne _ hsame] at hwaiting
    · by_cases hsame : other = session
      · rw [hsame] at hmem ⊢
        rw [TokenState.setSession_self] at hmem
        exact hqueue queued hmem
      · rwa [TokenState.setSession_ne _ hsame] at hmem
  unfold TokenSteps tokenStep at hstep
  cases input with
  | setActingUserId actingUserId =>
      rw [Option.some.injEq, Prod.mk.injEq] at hstep
      refine hchange hstep.1 rfl rfl ?_
      simp only [GatewayEgressTokenProviderState.setActingUserId]
      split
      · exact .inl rfl
      · exact .inr rfl
  | attach session =>
      rw [Option.some.injEq, Prod.mk.injEq] at hstep
      exact hchange hstep.1 rfl rfl (.inr rfl)
  | detach =>
      rw [Option.some.injEq, Prod.mk.injEq] at hstep
      exact hchange hstep.1 rfl rfl (.inr rfl)
  | look call now =>
      simp only at hstep
      split at hstep
      · rw [Option.some.injEq, Prod.mk.injEq] at hstep
        rw [← hstep.1]
        unfold TokenState.look
        split
        · exact h.moves_one _ (.returns _ _ _) rfl rfl rfl
        · exact h.moves_one _ (.returns _ _ _) rfl rfl rfl
        · rename_i hidle _ snapshot hsnapshot
          refine h.moves_one _ ⟨fun taken htaken => .inr ?_, ?_, ?_, ?_⟩ rfl rfl rfl
          · -- The snapshot is what the provider is.
            rw [TokenCall.snapshot?, Option.some.injEq] at htaken
            rw [← htaken]
            unfold GatewayEgressTokenProviderState.providerSnapshot at hsnapshot
            split at hsnapshot
            · exact absurd hsnapshot (by simp only [Except.ok.injEq, reduceCtorEq,
                not_false_eq_true])
            · split at hsnapshot
              · exact absurd hsnapshot (by simp only [reduceCtorEq, not_false_eq_true])
              · rename_i requestSender hsender
                rw [Except.ok.injEq, GatewayEgressTokenProviderSnapshot.request.injEq] at hsnapshot
                rw [← hsnapshot]
                exact ⟨trace, now, _, [], st, rfl, run, rfl, hsender, rfl⟩
          · exact fun _ hrequest => absurd hrequest (by
              simp only [TokenCall.request?, reduceCtorEq, not_false_eq_true])
          · intro session id hawaits
            rw [hidle] at hawaits
            exact hawaits.elim
          · exact fun _ _ hholds => hholds.elim
      · exact absurd hstep (by simp only [reduceCtorEq, not_false_eq_true])
  | number call =>
      simp only at hstep
      split at hstep
      · rename_i snapshot hcall
        rw [Option.some.injEq, Prod.mk.injEq] at hstep
        rw [← hstep.1]
        refine h.moves_one call ⟨fun taken htaken => .inl ?_, fun request hrequest => .inr ?_,
          ?_, ?_⟩ rfl rfl rfl
        · rw [hcall]
          exact htaken
        · rw [TokenCall.request?, Option.some.injEq] at hrequest
          rw [← hrequest]
          exact ⟨trace, _, [], st, rfl, run, rfl⟩
        · intro session id hawaits
          rw [hcall] at hawaits
          exact hawaits.elim
        · exact fun _ _ hholds => hholds.elim
      · exact absurd hstep (by simp only [reduceCtorEq, not_false_eq_true])
  | send call =>
      simp only at hstep
      split at hstep
      · rename_i request hcall
        rw [Option.some.injEq, Prod.mk.injEq] at hstep
        rw [← hstep.1]
        unfold TokenState.send
        simp only
        split
        · have hsends : ∀ next : TokenSession,
              next.state = (st.sessions request.requestSender).state →
              next.queue = (st.sessions request.requestSender).queue
                ++ [⟨request.requestId, request.actingUserId, call⟩] →
              TokenInvariant context user (trace ++ [⟨.send call, out⟩])
                ((st.setSession request.requestSender next).setCall call (.waiting request [])) := by
            intro next hstate hqueue
            refine h.moves (fun other => ?_) (fun session id other hwaiting => .inl ?_)
              (fun session queued hmem => ?_) fun cached hcached => .inl ⟨hcached, rfl⟩
            · by_cases hsame : other = call
              · rw [hsame, TokenState.setCall_self]
                rw [hcall]
                refine ⟨fun _ hsnapshot => .inl hsnapshot, fun _ hrequest => .inl hrequest,
                  fun _ _ hawaits => hawaits.elim, fun _ _ hholds => ?_⟩
                exact absurd hholds.2 List.not_mem_nil
              · rw [TokenState.setCall_ne _ hsame]
                exact .refl _ _ _
            · change ((st.setSession _ next).sessions session).state.pendingEgressTokenRequests[id]?
                = _ at hwaiting
              by_cases hsame : session = request.requestSender
              · rw [hsame, TokenState.setSession_self, hstate] at hwaiting
                rwa [hsame]
              · rwa [TokenState.setSession_ne _ hsame] at hwaiting
            · change queued ∈ ((st.setSession _ next).sessions session).queue at hmem
              by_cases hsame : session = request.requestSender
              · rw [hsame, TokenState.setSession_self, hqueue] at hmem
                rcases List.mem_append.mp hmem with hold | hnew
                · rw [hsame]
                  exact .inl hold
                · rw [List.mem_singleton.mp hnew, TokenState.setCall_self]
                  exact .inr ⟨hsame.symm, rfl⟩
              · rw [TokenState.setSession_ne _ hsame] at hmem
                exact .inl hmem
          exact hsends _ rfl rfl
        · exact h.moves_one _ (.returns _ _ _) rfl rfl rfl
      · exact absurd hstep (by simp only [reduceCtorEq, not_false_eq_true])
  | receive call =>
      simp only at hstep
      split at hstep
      · rename_i request token rest hcall
        rw [Option.some.injEq, Prod.mk.injEq] at hstep
        rw [← hstep.1]
        refine h.moves_one call ⟨fun _ hsnapshot => .inl ?_, fun _ hrequest => .inl ?_,
          fun session id hawaits => ?_, fun asked received hholds => .inl ?_⟩ rfl rfl rfl
        · rw [hcall]
          exact hsnapshot
        · rw [hcall]
          exact hrequest
        · rw [hcall] at hawaits
          exact hawaits
        · rw [hcall]
          exact ⟨hholds.1, hholds.2 ▸ List.mem_cons_self⟩
      · rw [Option.some.injEq, Prod.mk.injEq] at hstep
        rw [← hstep.1]
        exact h.moves_one _ (.returns _ _ _) rfl rfl rfl
      · exact absurd hstep (by simp only [reduceCtorEq, not_false_eq_true])
  | timeOut call =>
      simp only at hstep
      split at hstep
      · rw [Option.some.injEq, Prod.mk.injEq] at hstep
        rw [← hstep.1]
        exact h.moves_one _ (.returns _ _ _) rfl rfl rfl
      · exact absurd hstep (by simp only [reduceCtorEq, not_false_eq_true])
  | store call now =>
      simp only at hstep
      split at hstep
      · rename_i request token hcall
        rw [Option.some.injEq, Prod.mk.injEq] at hstep
        rw [← hstep.1]
        refine h.moves (fun other => ?_) (fun _ _ _ hwaiting => .inl hwaiting)
          (fun _ _ hmem => .inl hmem) fun cached hcached => ?_
        · by_cases hsame : other = call
          · rw [hsame]
            have hself : (st.store call request token now).1.calls call = .returned :=
              TokenState.setCall_self _ _ _
            rw [hself]
            exact .returns _ _ _
          · have hother : (st.store call request token now).1.calls other = st.calls other :=
              TokenState.setCall_ne _ hsame _
            rw [hother]
            exact .refl _ _ _
        · simp only [TokenState.store, TokenState.setCall,
            GatewayEgressTokenProviderState.storeToken] at hcached ⊢
          by_cases hgeneration : st.provider.generation ≠ request.generation
          · simp only [if_pos hgeneration] at hcached ⊢
            exact .inl ⟨hcached, trivial⟩
          · simp only [if_neg hgeneration, Option.some.injEq] at hcached ⊢
            refine .inr ⟨call, request, ?_, ?_, (not_ne_iff.mp hgeneration).symm, ?_, ?_⟩
            · rw [hcall]
              rfl
            · rw [hcall]
              rfl
            · rw [← hcached]
            · rw [hcall, ← hcached]
              exact ⟨rfl, rfl⟩
      · exact absurd hstep (by simp only [reduceCtorEq, not_false_eq_true])
  | request session world =>
      simp only at hstep
      split at hstep
      · exact absurd hstep (by simp only [reduceCtorEq, not_false_eq_true])
      · rename_i queued rest hqueue
        rw [Option.some.injEq, Prod.mk.injEq] at hstep
        rw [← hstep.1]
        have hhead : queued ∈ (st.sessions session).queue := by
          rw [hqueue]
          exact List.mem_cons_self
        refine h.handles (fun id sender => id = queued.requestId ∧ sender = queued.responseSender)
          (fun _ _ => False) (handleEgressTokenSessionRequest_table context world _ _ _ ⟨rfl, rfl⟩)
          (fun other hother => ?_) (fun id sender hadded => ?_) fun _ _ hfalse _ => hfalse.elim
        · rw [hqueue]
          exact List.mem_cons_of_mem _ hother
        · rw [hadded.1, hadded.2]
          exact h.queued session queued hhead
  | message session world message =>
      rw [Option.some.injEq, Prod.mk.injEq] at hstep
      rw [← hstep.1]
      refine h.handles (fun _ _ => False) (fun id token => ∃ response,
          message = .response response ∧ response.requestId = id ∧
          token = ⟨response.token, response.expiresAt, response.ttlMs⟩)
        (handleEgressTokenControlMessage_table context world message fun response hresponse =>
          ⟨response, hresponse, rfl, rfl⟩)
        (fun _ hmem => hmem) (fun _ _ hfalse => hfalse.elim) ?_
      rintro request token ⟨response, hresponse, hid, htoken⟩ hsender
      refine ⟨_, List.mem_append_right _ List.mem_cons_self, world, response, ?_, hid, htoken⟩
      rw [hresponse, hsender]
  | failPending session ending =>
      rw [Option.some.injEq, Prod.mk.injEq] at hstep
      rw [← hstep.1]
      exact h.handles (fun _ _ => False) (fun _ _ => False)
        (failPendingRequests_table ending) (fun _ hmem => hmem) (fun _ _ hfalse => hfalse.elim)
        fun _ _ hfalse _ => hfalse.elim
  | other session state =>
      rw [Option.some.injEq, Prod.mk.injEq] at hstep
      exact hsession hstep.1 (fun _ _ hwaiting => hwaiting) fun _ hmem => hmem
  | connect session state =>
      rw [Option.some.injEq, Prod.mk.injEq] at hstep
      refine hsession hstep.1 ?_ fun _ hmem => hmem
      intro id call hwaiting
      have hempty : (∅ : Std.ExtTreeMap String ResponseSender)[id]? = some call := hwaiting
      rw [Std.ExtTreeMap.getElem?_empty] at hempty
      exact absurd hempty (by simp only [reduceCtorEq, not_false_eq_true])
  | close session =>
      rw [Option.some.injEq, Prod.mk.injEq] at hstep
      exact hsession hstep.1 (fun _ _ hwaiting => hwaiting) fun _ hmem =>
        absurd hmem List.not_mem_nil

/-! ### Request ids -/

def TokenInput.isNumber : TokenInput → Bool
  | .number _ => true
  | _ => false

theorem tokenStep_nextRequestId {st st' : TokenState} {input : TokenInput}
    {out : List TokenOutput} (h : TokenSteps context st input out st') :
    st'.nextRequestId = if input.isNumber then st.nextRequestId + 1 else st.nextRequestId := by
  unfold TokenSteps tokenStep at h
  cases input with
  | setActingUserId _ | attach _ | detach | other _ _ | connect _ _ | close _ =>
      rw [Option.some.injEq, Prod.mk.injEq] at h
      rw [← h.1]
      rfl
  | message _ _ _ | failPending _ _ =>
      rw [Option.some.injEq, Prod.mk.injEq] at h
      rw [← h.1]
      exact (deliver_rest _ _).2.1
  | look call now =>
      simp only at h
      split at h
      · rw [Option.some.injEq, Prod.mk.injEq] at h
        rw [← h.1]
        unfold TokenState.look
        split
        · rfl
        · rfl
        · rfl
      · exact absurd h (by simp only [reduceCtorEq, not_false_eq_true])
  | send call =>
      simp only at h
      split at h
      · rw [Option.some.injEq, Prod.mk.injEq] at h
        rw [← h.1]
        unfold TokenState.send
        simp only
        split
        · rfl
        · rfl
      · exact absurd h (by simp only [reduceCtorEq, not_false_eq_true])
  | receive call =>
      simp only at h
      split at h
      · rw [Option.some.injEq, Prod.mk.injEq] at h
        rw [← h.1]
        rfl
      · rw [Option.some.injEq, Prod.mk.injEq] at h
        rw [← h.1]
        rfl
      · exact absurd h (by simp only [reduceCtorEq, not_false_eq_true])
  | number _ | timeOut _ | store _ _ =>
      simp only at h
      split at h
      · rw [Option.some.injEq, Prod.mk.injEq] at h
        rw [← h.1]
        rfl
      · exact absurd h (by simp only [reduceCtorEq, not_false_eq_true])
  | request session world =>
      simp only at h
      split at h
      · exact absurd h (by simp only [reduceCtorEq, not_false_eq_true])
      · rw [Option.some.injEq, Prod.mk.injEq] at h
        rw [← h.1]
        exact (deliver_rest _ _).2.1

/-- How many requests a trace has numbered. -/
def numbersTaken (trace : List (Entry TokenInput TokenOutput)) : Nat :=
  trace.countP fun e => e.input.isNumber

theorem nextRequestId_eq {trace : List (Entry TokenInput TokenOutput)} {st : TokenState}
    (run : Run (TokenSteps context) (.initial user) trace st) :
    st.nextRequestId = UInt64.ofNat (numbersTaken trace + 1) := by
  induction run with
  | nil => rfl
  | @snoc a b trace input out run last ih =>
      rw [tokenStep_nextRequestId last, ih, numbersTaken, numbersTaken, List.countP_append,
        List.countP_singleton]
      cases input.isNumber with
      | true => exact (UInt64.ofNat_add _ _).symm
      | false => rfl

theorem requestIdText_injective {m n : Nat} (hm : m < UInt64.size) (hn : n < UInt64.size)
    (h : requestIdText (UInt64.ofNat m) = requestIdText (UInt64.ofNat n)) : m = n := by
  unfold requestIdText at h
  have hrepr : (UInt64.ofNat m).toNat.repr = (UInt64.ofNat n).toNat.repr := by
    have hlist := congrArg String.toList h
    simp only [String.toList_append] at hlist
    exact String.toList_inj.mp (List.append_cancel_left hlist)
  have hnat := Nat.repr_injective hrepr
  rwa [UInt64.toNat_ofNat_of_lt' hm, UInt64.toNat_ofNat_of_lt' hn] at hnat

/-- As long as the counter has not come round, an id belongs to one call. -/
theorem numberedIn_unique {trace : List (Entry TokenInput TokenOutput)}
    (hfew : numbersTaken trace < UInt64.size) {call call' : ResponseSender} {requestId : String}
    (h : NumberedIn context user trace call requestId)
    (h' : NumberedIn context user trace call' requestId) : call = call' := by
  have hcount : ∀ {earlier later : List (Entry TokenInput TokenOutput)} {call out},
      trace = earlier ++ ⟨.number call, out⟩ :: later → numbersTaken earlier + 1 < UInt64.size ∨
        numbersTaken earlier + 1 = numbersTaken trace := by
    intro earlier later call out htrace
    have hsplit : numbersTaken trace = numbersTaken earlier + (numbersTaken later + 1) := by
      rw [htrace]
      simp only [numbersTaken, List.countP_append, List.countP_cons, TokenInput.isNumber, if_true]
    omega
  rcases h with ⟨earlier, out, later, s, htrace, run, hid⟩
  rcases h' with ⟨earlier', out', later', s', htrace', run', hid'⟩
  rw [nextRequestId_eq run] at hid
  rw [nextRequestId_eq run', hid] at hid'
  have hsame : numbersTaken earlier = numbersTaken earlier' := by
    have hlt : numbersTaken earlier + 1 < UInt64.size := by
      rcases hcount htrace with hlt | heq
      · exact hlt
      · omega
    have hlt' : numbersTaken earlier' + 1 < UInt64.size := by
      rcases hcount htrace' with hlt | heq
      · exact hlt
      · omega
    have hnumbers := requestIdText_injective hlt hlt' hid'
    omega
  -- Two different steps that take a number have taken different counts before them.
  have hordered : ∀ {a b : List (Entry TokenInput TokenOutput)} {c d : ResponseSender} {x y l m},
      a ++ ⟨.number c, x⟩ :: l = b ++ ⟨.number d, y⟩ :: m → numbersTaken a = numbersTaken b →
      a.length ≤ b.length → c = d := by
    intro a b c d x y l m heq hcounts hlength
    rcases List.append_eq_append_iff.mp heq with ⟨more, hb, hrest⟩ | ⟨more, ha, hrest⟩
    · cases more with
      | nil =>
          rw [List.nil_append, List.cons.injEq, Entry.mk.injEq, TokenInput.number.injEq] at hrest
          exact hrest.1.1
      | cons e more =>
          rw [List.cons_append, List.cons.injEq] at hrest
          rw [hb, ← hrest.1] at hcounts
          simp only [numbersTaken, List.countP_append, List.countP_cons, TokenInput.isNumber,
            if_true] at hcounts
          omega
    · have hmore : more = [] := by
        rw [ha, List.length_append] at hlength
        exact List.length_eq_zero_iff.mp (by omega)
      rw [hmore, List.nil_append, List.cons.injEq, Entry.mk.injEq, TokenInput.number.injEq] at hrest
      exact hrest.1.1.symm
  rcases Nat.le_total earlier.length earlier'.length with hle | hle
  · exact hordered (htrace.symm.trans htrace') hsame hle
  · exact (hordered (htrace'.symm.trans htrace) hsame.symm hle).symm

/-! ### Runs -/

theorem tokenInvariant_initial : TokenInvariant context user [] (.initial user) := by
  constructor
  · exact fun _ _ h => absurd h (by simp only [TokenState.initial, TokenCall.snapshot?, reduceCtorEq,
      not_false_eq_true])
  · exact fun _ _ h => absurd h (by simp only [TokenState.initial, TokenCall.request?, reduceCtorEq,
      not_false_eq_true])
  · intro session id call h
    exact absurd h (by simp only [TokenState.initial, TunnelSessionMutableState.fresh,
      Std.ExtTreeMap.getElem?_empty, reduceCtorEq, not_false_eq_true])
  · exact fun _ _ h => absurd h List.not_mem_nil
  · exact fun _ _ _ h => h.elim
  · exact fun _ h => absurd h (by simp only [TokenState.initial, GatewayEgressTokenProviderState.new,
      reduceCtorEq, not_false_eq_true])

theorem tokenInvariant_run {trace : List (Entry TokenInput TokenOutput)} {st : TokenState}
    (run : Run (TokenSteps context) (.initial user) trace st) :
    TokenInvariant context user trace st :=
  run.history tokenInvariant_initial fun _ _ _ _ _ run h hstep => tokenStep_invariant run h hstep

/-- A request of the generation that a state is in is one of its user and session. -/
theorem current_of_generation {trace : List (Entry TokenInput TokenOutput)} {st : TokenState}
    (run : Run (TokenSteps context) (.initial user) trace st)
    (hmoves : EveryStep (TokenSteps context) (.initial user) trace
      fun a input _ => a.Changes input → a.provider.generation < lastGeneration)
    {call : ResponseSender} {request : TokenRequest} {token : TunnelEgressToken}
    (hlooked : LookedIn context user trace call request.toTokenSnapshot)
    (hgeneration : request.generation = st.provider.generation)
    (hnumbered : NumberedIn context user trace call request.requestId)
    (hanswered : AnsweredIn trace request token) :
    Current context user trace st call request token := by
  rcases hlooked with ⟨earlier, now, out, later, s, htrace, hearlier, hsame, hsender, hactor⟩
  rw [htrace] at run hmoves
  rcases run.split _ _ rfl with ⟨s', hearlier', hrest⟩
  rw [← Run.functional (functional_of_step _) hearlier s' hearlier'] at hrest
  have hmoves' : EveryStep (TokenSteps context) s (⟨.look call now, out⟩ :: later)
      fun a input _ => a.Changes input → a.provider.generation < lastGeneration := by
    intro before input out' after t hsplit hbefore
    refine hmoves (earlier ++ before) input out' after t ?_ (hearlier.trans hbefore)
    rw [hsplit, List.append_assoc]
  rcases (generation_mono hrest hmoves').2 (hgeneration.symm.trans hsame.symm)
    with ⟨hevery, hattachment, huser⟩
  exact ⟨⟨earlier, now, out, later, s, htrace, hearlier, hevery⟩, hattachment.trans hsender,
    huser.trans hactor, hnumbered, hanswered⟩

/-- A call that returns a token returns what it stored, or what is kept. -/
theorem returned_token {st st' : TokenState} {input : TokenInput} {out : List TokenOutput}
    (hstep : TokenSteps context st input out st') {call : ResponseSender}
    {token : TunnelEgressToken} (h : ⟨call, .ok token⟩ ∈ out) :
    (∃ request, st.calls call = .answered request token ∧
      request.generation = st.provider.generation) ∨
    ∃ cached, st.provider.cachedToken = some cached ∧ cached.token = token := by
  unfold TokenSteps tokenStep at hstep
  cases input with
  | setActingUserId _ | attach _ | detach | other _ _ | connect _ _ | close _ | message _ _ _
  | failPending _ _ =>
      rw [Option.some.injEq, Prod.mk.injEq] at hstep
      rw [← hstep.2] at h
      exact absurd h List.not_mem_nil
  | look caller now =>
      simp only at hstep
      split at hstep
      · rw [Option.some.injEq, Prod.mk.injEq] at hstep
        rw [← hstep.2] at h
        unfold TokenState.look at h
        split at h
        · rw [List.mem_singleton, TokenOutput.mk.injEq] at h
          exact absurd h.2 (by simp only [reduceCtorEq, not_false_eq_true])
        · rename_i kept hsnapshot
          rw [List.mem_singleton, TokenOutput.mk.injEq, Except.ok.injEq] at h
          rw [h.2]
          unfold GatewayEgressTokenProviderState.providerSnapshot at hsnapshot
          split at hsnapshot
          · rename_i found hcached
            rw [Except.ok.injEq, GatewayEgressTokenProviderSnapshot.cached.injEq] at hsnapshot
            unfold GatewayEgressTokenProviderState.cachedTokenFromState at hcached
            split at hcached
            · exact absurd hcached (by simp only [reduceCtorEq, not_false_eq_true])
            · rename_i cached hsome
              dsimp only at hcached
              split at hcached
              · exact absurd hcached (by simp only [reduceCtorEq, not_false_eq_true])
              · rw [Option.some.injEq] at hcached
                exact .inr ⟨cached, hsome, hcached.trans hsnapshot⟩
          · split at hsnapshot
            · exact absurd hsnapshot (by simp only [reduceCtorEq, not_false_eq_true])
            · exact absurd hsnapshot (by simp only [Except.ok.injEq, reduceCtorEq,
                not_false_eq_true])
        · exact absurd h List.not_mem_nil
      · exact absurd hstep (by simp only [reduceCtorEq, not_false_eq_true])
  | number caller =>
      simp only at hstep
      split at hstep
      · rw [Option.some.injEq, Prod.mk.injEq] at hstep
        rw [← hstep.2] at h
        exact absurd h List.not_mem_nil
      · exact absurd hstep (by simp only [reduceCtorEq, not_false_eq_true])
  | send caller =>
      simp only at hstep
      split at hstep
      · rw [Option.some.injEq, Prod.mk.injEq] at hstep
        rw [← hstep.2] at h
        unfold TokenState.send at h
        simp only at h
        split at h
        · exact absurd h List.not_mem_nil
        · rw [List.mem_singleton, TokenOutput.mk.injEq] at h
          exact absurd h.2 (by simp only [reduceCtorEq, not_false_eq_true])
      · exact absurd hstep (by simp only [reduceCtorEq, not_false_eq_true])
  | receive caller =>
      simp only at hstep
      split at hstep
      · rw [Option.some.injEq, Prod.mk.injEq] at hstep
        rw [← hstep.2] at h
        exact absurd h List.not_mem_nil
      · rw [Option.some.injEq, Prod.mk.injEq] at hstep
        rw [← hstep.2, List.mem_singleton, TokenOutput.mk.injEq] at h
        exact absurd h.2 (by simp only [reduceCtorEq, not_false_eq_true])
      · exact absurd hstep (by simp only [reduceCtorEq, not_false_eq_true])
  | timeOut caller =>
      simp only at hstep
      split at hstep
      · rw [Option.some.injEq, Prod.mk.injEq] at hstep
        rw [← hstep.2, List.mem_singleton, TokenOutput.mk.injEq] at h
        exact absurd h.2 (by simp only [reduceCtorEq, not_false_eq_true])
      · exact absurd hstep (by simp only [reduceCtorEq, not_false_eq_true])
  | store caller now =>
      simp only at hstep
      split at hstep
      · rename_i request received hcall
        rw [Option.some.injEq, Prod.mk.injEq] at hstep
        rw [← hstep.2] at h
        simp only [TokenState.store, GatewayEgressTokenProviderState.storeToken] at h
        by_cases hgeneration : st.provider.generation ≠ request.generation
        · simp only [if_pos hgeneration, Except.map, List.mem_singleton, TokenOutput.mk.injEq,
            reduceCtorEq, and_false] at h
        · simp only [if_neg hgeneration, Except.map, List.mem_singleton, TokenOutput.mk.injEq,
            Except.ok.injEq] at h
          rw [h.1, h.2]
          exact .inl ⟨request, hcall, (not_ne_iff.mp hgeneration).symm⟩
      · exact absurd hstep (by simp only [reduceCtorEq, not_false_eq_true])
  | request session world =>
      simp only at hstep
      split at hstep
      · exact absurd hstep (by simp only [reduceCtorEq, not_false_eq_true])
      · rw [Option.some.injEq, Prod.mk.injEq] at hstep
        rw [← hstep.2] at h
        exact absurd h List.not_mem_nil

end

/-- In every run in which the counter of generations is not at its end when a generation
    begins: a token that is kept, and a token that a caller gets, is one of the
    generation the provider is then in; and ids tell calls apart until their counter has
    come round. -/
theorem tokens_of_current_generation (context : TunnelSessionLoopContext) (user : Option String)
    {trace : List (Entry TokenInput TokenOutput)} {st : TokenState}
    (run : Run (TokenSteps context) (.initial user) trace st)
    (hmoves : EveryStep (TokenSteps context) (.initial user) trace
      fun a input _ => a.Changes input → a.provider.generation < lastGeneration) :
    (∀ before after s cached, trace = before ++ after →
      Run (TokenSteps context) (.initial user) before s → s.provider.cachedToken = some cached →
      ∃ asker request, Current context user before s asker request cached.token) ∧
    (∀ before input out after s call token, trace = before ++ ⟨input, out⟩ :: after →
      Run (TokenSteps context) (.initial user) before s → ⟨call, .ok token⟩ ∈ out →
      ∃ asker request, Current context user before s asker request token ∧
        (asker = call ∨ ∃ cached, s.provider.cachedToken = some cached ∧ cached.token = token)) ∧
    (numbersTaken trace < UInt64.size → ∀ call call' requestId,
      NumberedIn context user trace call requestId →
      NumberedIn context user trace call' requestId → call = call') := by
  have hkept : ∀ before after s cached, trace = before ++ after →
      Run (TokenSteps context) (.initial user) before s → s.provider.cachedToken = some cached →
      ∃ asker request, Current context user before s asker request cached.token := by
    intro before after s cached htrace hbefore hcached
    rw [htrace] at hmoves
    rcases (tokenInvariant_run hbefore).cached cached hcached
      with ⟨asker, request, hlooked, hgeneration, hnumbered, _, hanswered⟩
    exact ⟨asker, request, current_of_generation hbefore hmoves.init hlooked hgeneration hnumbered
      hanswered⟩
  refine ⟨hkept, ?_, fun hfew _ _ _ => numberedIn_unique hfew⟩
  intro before input out after s call token htrace hbefore hout
  have hstep : ∃ t, TokenSteps context s input out t := by
    rw [htrace] at run
    exact Run.step_at (functional_of_step _) run hbefore
  rcases hstep with ⟨t, hstep⟩
  rcases returned_token hstep hout with ⟨request, hcall, hgeneration⟩ | ⟨cached, hcached, htoken⟩
  · have hinvariant := tokenInvariant_run hbefore
    rw [htrace] at hmoves
    refine ⟨call, request, current_of_generation hbefore hmoves.init (hinvariant.looked call _ ?_)
      hgeneration (hinvariant.numbered call request ?_) (hinvariant.answered call request token ?_),
      .inl rfl⟩
    · rw [hcall]
      rfl
    · rw [hcall]
      rfl
    · rw [hcall]
      exact ⟨rfl, rfl⟩
  · rcases hkept before _ s cached htrace hbefore hcached with ⟨asker, request, hcurrent⟩
    rw [htoken] at hcurrent
    exact ⟨asker, request, hcurrent, .inr ⟨cached, hcached, htoken⟩⟩

/-- A provider that was attached to session 0 so often that it is in a generation. -/
def TokenState.attached (generation : Nat) : TokenState :=
  { TokenState.initial none with provider := ⟨generation, some 0, none, none⟩ }

theorem exists_run_to_attached (context : TunnelSessionLoopContext) (n : Nat)
    (hn : n < lastGeneration) :
    ∃ trace, Run (TokenSteps context) (.initial none) trace (.attached (n + 1)) ∧
      ∀ e ∈ trace, e.input = .attach 0 := by
  induction n with
  | zero =>
      refine ⟨_, Run.single (i := .attach 0) rfl, fun e he => ?_⟩
      rw [List.mem_singleton.mp he]
  | succ n ih =>
      rcases ih (by omega) with ⟨trace, run, hattaches⟩
      have hnext : min (n + 1 + 1) lastGeneration = n + 1 + 1 := by omega
      have hstep : TokenSteps context (.attached (n + 1)) (.attach 0) [] (.attached (n + 1 + 1)) := by
        unfold TokenSteps tokenStep
        simp only [TokenState.attached, GatewayEgressTokenProviderState.attach,
          GatewayEgressTokenProviderState.nextGeneration, hnext]
      refine ⟨_, run.snoc hstep, fun e he => ?_⟩
      rcases List.mem_append.mp he with he | he
      · exact hattaches e he
      · rw [List.mem_singleton.mp he]

/-- The gateway's answer to the first request. -/
def firstToken : EgressTokenControlMessage :=
  .response ⟨"egress.token.response", "egress_token_req_1", "token_1", "2026-01-01T00:10:00Z", 600000⟩

/-- A call asks and gets its token, while the acting user changes after it has looked. -/
def staleStore : List TokenInput :=
  [.look 0 0, .setActingUserId (some "usr_2"), .number 0, .send 0, .request 0 .idle,
    .message 0 .idle firstToken, .receive 0, .store 0 0]

/-- Once the counter is at its end, a token that was asked for before the acting user
    changed is kept. -/
theorem exhausted_generation_keeps_stale_token :
    ∃ trace st cached, Run (TokenSteps (.ofDocuments [])) (.initial none) trace st ∧
      st.provider.cachedToken = some cached ∧
      ¬ ∃ asker request, Current (.ofDocuments []) none trace st asker request cached.token := by
  rcases exists_run_to_attached (.ofDocuments []) (lastGeneration - 1) (by decide)
    with ⟨attaches, hattached, hattaches⟩
  have hexecutes : executesTo (tokenStep (.ofDocuments [])) (.attached lastGeneration) staleStore
      (fun _ st => st.provider.cachedToken.isSome) = true := by
    decide +kernel
  rcases exists_run_of_executesTo hexecutes with ⟨tail, st, run, hinputs, hcached⟩
  rcases Option.isSome_iff_exists.mp hcached with ⟨cached, hcached⟩
  refine ⟨attaches ++ tail, st, cached, hattached.trans run, hcached, ?_⟩
  rintro ⟨asker, request, hcurrent⟩
  rcases hcurrent.asked with ⟨earlier, now, out, later, s, htrace, hearlier, hevery⟩
  rcases List.map_eq_cons_iff.mp hinputs with ⟨first, rest, htail, hfirst, hrest⟩
  rcases List.map_eq_cons_iff.mp hrest with ⟨second, rest', hrest', hsecond, hlast⟩
  rcases first with ⟨input, out₁⟩
  rcases second with ⟨input', out₂⟩
  simp only at hfirst hsecond
  rw [hfirst] at htail
  rw [hsecond] at hrest'
  have hlook : ∀ e ∈ rest, ∀ call instant, e.input ≠ .look call instant := by
    intro e he call instant hinput
    have hmem : TokenInput.look call instant ∈ rest.map Entry.input := by
      rw [← hinput]
      exact List.mem_map_of_mem he
    rw [hrest] at hmem
    simp only [List.mem_cons, reduceCtorEq, List.not_mem_nil, or_self] at hmem
  -- There is one look, and the acting user changes right after it.
  have hsplit : earlier = attaches ∧ later = rest ∧
      (⟨.look asker now, out⟩ : Entry TokenInput TokenOutput) = ⟨.look 0 0, out₁⟩ := by
    rw [htail] at htrace
    rcases List.append_eq_append_iff.mp htrace with ⟨more, hmore, hrests⟩ | ⟨more, hmore, hrests⟩
    · cases more with
      | nil =>
          rw [List.append_nil] at hmore
          rw [List.nil_append, List.cons.injEq] at hrests
          exact ⟨hmore, hrests.2.symm, hrests.1.symm⟩
      | cons e more =>
          rw [List.cons_append, List.cons.injEq] at hrests
          refine absurd rfl (hlook ⟨.look asker now, out⟩ ?_ asker now)
          rw [hrests.2]
          exact List.mem_append_right _ List.mem_cons_self
    · cases more with
      | nil =>
          rw [List.append_nil] at hmore
          rw [List.nil_append, List.cons.injEq] at hrests
          exact ⟨hmore.symm, hrests.2, hrests.1⟩
      | cons e more =>
          rw [List.cons_append, List.cons.injEq] at hrests
          have hattach := hattaches ⟨.look asker now, out⟩ (by
            rw [hmore, ← hrests.1]
            exact List.mem_append_right _ List.mem_cons_self)
          exact absurd hattach (by simp only [reduceCtorEq, not_false_eq_true])
  rw [hsplit.1] at hearlier
  rw [← Run.functional (functional_of_step _) hattached s hearlier, hsplit.2.1, hsplit.2.2,
    hrest'] at hevery
  rw [htail, hrest'] at run
  rcases run.uncons with ⟨t, hstep, _⟩
  have hsame : t.provider.actingUserId = none := by
    rcases tokenStep_provider hstep with ⟨hchanges, _⟩ | ⟨_, _, _, hactor⟩
    · exact hchanges.elim
    · exact hactor
  refine hevery [⟨.look 0 0, out₁⟩] _ out₂ rest' t rfl (Run.single hstep) ?_
  change t.provider.actingUserId ≠ some "usr_2"
  rw [hsame]
  simp only [ne_eq, reduceCtorEq, not_false_eq_true]

/-- A call asks and gets a token, and the next one finds it kept. -/
def twoTokens : List TokenInput :=
  [.attach 0, .look 0 0, .number 0, .send 0, .request 0 .idle, .message 0 .idle firstToken,
    .receive 0, .store 0 0, .look 1 1000]

theorem tokens_of_current_generation_twice :
    ∃ trace st, Run (TokenSteps (.ofDocuments [])) (.initial (some "usr_1")) trace st ∧
      (outputs trace).map TokenOutput.call = [0, 1] ∧
      ∀ before after s cached, trace = before ++ after →
        Run (TokenSteps (.ofDocuments [])) (.initial (some "usr_1")) before s →
        s.provider.cachedToken = some cached →
        ∃ asker request, Current (.ofDocuments []) (some "usr_1") before s asker request
          cached.token := by
  have hexecutes : executesTo (tokenStep (.ofDocuments [])) (.initial (some "usr_1")) twoTokens
      (fun trace _ => (outputs trace).map TokenOutput.call == [0, 1]) = true := by
    decide +kernel
  have hpass : stepsPass (tokenStep (.ofDocuments []))
      (fun s _ => decide (s.provider.generation < lastGeneration)) (.initial (some "usr_1"))
      twoTokens = true := by
    decide +kernel
  rcases exists_run_of_stepsPass hexecutes hpass with ⟨trace, st, run, _, hcalls, hevery⟩
  refine ⟨trace, st, run, beq_iff_eq.mp hcalls, ?_⟩
  refine (tokens_of_current_generation (.ofDocuments []) (some "usr_1") run ?_).1
  intro before input out after s htrace hbefore _
  exact of_decide_eq_true (hevery before input out after s htrace hbefore)

end Mistle
