import Mistle.Tunnel.Sparing

/-!
# What a Session Has Under Way

A session starts commands and dials of the agent, and an upload has a temporary file.
What is under way is read off what the session emits: a start adds to it, a stop or a
report of the task takes away, and a file is gone once it is removed or moved.

The tables are ahead of what is under way: whatever is under way is held by one of
them. Every handler keeps that, except for one way of finishing an upload, which takes
the upload out of its table first and removes or moves the file only if the writer and
the file system let it.

## Main definitions

* `SessionResources`: What was started and is not over.
* `SessionResources.after`, `SessionResources.reported`: What effects and items make of it.
* `SessionResources.Covered`: The tables hold what is under way.
* `covering`: The tables stay ahead, as a trail.
* `FileUploadState.Finishes`, `ItemReleases`: What an item needs in order to leave no file.

## Theorems

* `finalizeFileUpload_spec`, `finalizeFileUpload_unfinished`: A finished upload has no
  temporary file, and one that is not finished keeps it.
* `handleStreamClose_covering`, `handleBootstrapText_covering`: Closing a stream.
* `observeShutdown_spec`: The flag for shutting down stops every command and dial.
* `handleSessionItem_covered`: Every item.
-/

namespace Mistle

open Handler

/-! ### What is under way -/

/-- Commands and dials that have not reported and were not stopped, and temporary files
    that are there. -/
structure SessionResources where
  execs : List StreamId
  agentDials : List StreamId
  tempFiles : List String
  deriving DecidableEq

def SessionResources.none : SessionResources := ⟨[], [], []⟩

namespace SessionResources

def withoutExec (r : SessionResources) (streamId : StreamId) : SessionResources :=
  { r with execs := r.execs.filter (· ≠ streamId) }

def withoutDial (r : SessionResources) (streamId : StreamId) : SessionResources :=
  { r with agentDials := r.agentDials.filter (· ≠ streamId) }

def withoutFile (r : SessionResources) (path : String) : SessionResources :=
  { r with tempFiles := r.tempFiles.filter (· ≠ path) }

section

-- Whether the file system removes a file when it is asked to.
variable (removes : String → Bool)

/-- What one effect makes of what is under way. -/
def afterEffect (r : SessionResources) : TunnelEffect → SessionResources
  | .task (.spawnExec message _) => { r with execs := message.streamId :: r.execs }
  | .task (.cancelExec streamId) => r.withoutExec streamId
  | .task (.spawnAgentDial streamId _) => { r with agentDials := streamId :: r.agentDials }
  | .task (.abortAgentDial streamId) => r.withoutDial streamId
  | .task (.createFile path) => { r with tempFiles := path :: r.tempFiles }
  | .task (.removeFile path) => if removes path then r.withoutFile path else r
  | .task (.renameFile source _) => r.withoutFile source
  | _ => r

def after (r : SessionResources) (out : List TunnelEffect) : SessionResources :=
  out.foldl (afterEffect removes) r

/-- What is over once an item is taken: a command that completed, a dial that ended. -/
def reported (r : SessionResources) : SessionItem → SessionResources
  | .event (.execCompleted streamId _) => r.withoutExec streamId
  | .event (.agentDialed streamId _) => r.withoutDial streamId
  | _ => r

@[simp] theorem after_nil (r : SessionResources) : r.after removes [] = r := rfl

@[simp] theorem after_append (r : SessionResources) (out out' : List TunnelEffect) :
    r.after removes (out ++ out') = (r.after removes out).after removes out' :=
  List.foldl_append

theorem afterEffect_of_quiet (r : SessionResources) {effect : TunnelEffect}
    (h : effect.isResource = false) : r.afterEffect removes effect = r := by
  unfold TunnelEffect.isResource at h
  split at h
  · rename_i command
    cases command with
    | spawnExec | cancelExec | spawnAgentDial | abortAgentDial => exact nomatch h
    | createFile | removeFile | renameFile => exact nomatch h
    | _ => rfl
  · rename_i hother
    cases effect with
    | task command => exact absurd rfl (hother command)
    | _ => rfl

theorem after_of_quiet (r : SessionResources) {out : List TunnelEffect}
    (h : ∀ o ∈ out, o.isResource = false) : r.after removes out = r := by
  induction out with
  | nil => rfl
  | cons o out ih =>
      have hhead := r.afterEffect_of_quiet removes (h o (List.mem_cons_self ..))
      have htail := ih fun o' ho' => h o' (List.mem_cons_of_mem _ ho')
      calc r.after removes (o :: out) = (r.afterEffect removes o).after removes out := rfl
        _ = r := by rw [hhead, htail]

/-- Stopping one thing after another. -/
theorem after_cancelExecs (ids : List StreamId) : ∀ (r : SessionResources),
    r.after removes (ids.map fun id => .task (.cancelExec id))
      = { r with execs := r.execs.filter (· ∉ ids) } := by
  induction ids with
  | nil =>
      intro r
      simp only [List.map_nil, after_nil, List.not_mem_nil, not_false_eq_true, decide_true,
        List.filter_true]
  | cons id ids ih =>
      intro r
      have hstep : r.after removes ((id :: ids).map fun id => .task (.cancelExec id))
          = (r.withoutExec id).after removes (ids.map fun id => .task (.cancelExec id)) := rfl
      rw [hstep, ih]
      simp only [withoutExec, List.filter_filter, List.mem_cons, not_or, Bool.decide_and,
        Bool.and_comm]

theorem after_abortAgentDials (ids : List StreamId) : ∀ (r : SessionResources),
    r.after removes (ids.map fun id => .task (.abortAgentDial id))
      = { r with agentDials := r.agentDials.filter (· ∉ ids) } := by
  induction ids with
  | nil =>
      intro r
      simp only [List.map_nil, after_nil, List.not_mem_nil, not_false_eq_true, decide_true,
        List.filter_true]
  | cons id ids ih =>
      intro r
      have hstep : r.after removes ((id :: ids).map fun id => .task (.abortAgentDial id))
          = (r.withoutDial id).after removes (ids.map fun id => .task (.abortAgentDial id)) := rfl
      rw [hstep, ih]
      simp only [withoutDial, List.filter_filter, List.mem_cons, not_or, Bool.decide_and,
        Bool.and_comm]

end

end SessionResources

/-- The tables hold everything that is under way. -/
structure SessionResources.Covered (r : SessionResources) (tables : ResourceTables) : Prop where
  execs : ∀ s ∈ r.execs, tables.execs[s]?.isSome
  agentDials : ∀ s ∈ r.agentDials, tables.agentDials[s]?.isSome
  tempFiles : ∀ path ∈ r.tempFiles,
    ∃ (s : StreamId) (upload : FileUploadState),
      tables.uploads[s]? = some upload ∧ upload.tempPath = path

namespace SessionResources.Covered

variable {r : SessionResources} {tables : ResourceTables}

theorem none (tables : ResourceTables) : SessionResources.none.Covered tables :=
  ⟨fun _ h => absurd h List.not_mem_nil, fun _ h => absurd h List.not_mem_nil,
    fun _ h => absurd h List.not_mem_nil⟩

/-- An entry of another stream survives the removal of one. -/
theorem isSome_erase {α : Type} {table : Table α} {s t : StreamId} (hne : t ≠ s)
    (h : table[t]?.isSome) : (table.erase s)[t]?.isSome := by
  rw [Std.ExtTreeMap.getElem?_erase, if_neg]
  · exact h
  · exact fun hst => hne (Std.LawfulEqCmp.eq_of_compare hst).symm

theorem isSome_insert {α : Type} {table : Table α} {s t : StreamId} {entry : α}
    (h : t = s ∨ table[t]?.isSome) : (table.insert s entry)[t]?.isSome := by
  rw [Std.ExtTreeMap.getElem?_insert]
  split
  · rfl
  · rename_i hst
    rcases h with rfl | h
    · exact absurd Std.ReflCmp.compare_self hst
    · exact h

theorem spawnExec (h : r.Covered tables) (s : StreamId) :
    SessionResources.Covered { r with execs := s :: r.execs }
      { tables with execs := tables.execs.insert s () } where
  execs t ht := isSome_insert ((List.mem_cons.mp ht).imp_right (h.execs t))
  agentDials := h.agentDials
  tempFiles := h.tempFiles

theorem spawnDial (h : r.Covered tables) (s : StreamId) :
    SessionResources.Covered { r with agentDials := s :: r.agentDials }
      { tables with agentDials := tables.agentDials.insert s () } where
  execs := h.execs
  agentDials t ht := isSome_insert ((List.mem_cons.mp ht).imp_right (h.agentDials t))
  tempFiles := h.tempFiles

theorem eraseExec (h : r.Covered tables) (s : StreamId) :
    (r.withoutExec s).Covered { tables with execs := tables.execs.erase s } where
  execs t ht := by
    rcases List.mem_filter.mp ht with ⟨hmem, hne⟩
    exact isSome_erase (of_decide_eq_true hne) (h.execs t hmem)
  agentDials := h.agentDials
  tempFiles := h.tempFiles

theorem eraseDial (h : r.Covered tables) (s : StreamId) :
    (r.withoutDial s).Covered { tables with agentDials := tables.agentDials.erase s } where
  execs := h.execs
  agentDials t ht := by
    rcases List.mem_filter.mp ht with ⟨hmem, hne⟩
    exact isSome_erase (of_decide_eq_true hne) (h.agentDials t hmem)
  tempFiles := h.tempFiles

/-- What is no longer under way may stay in the table for now. -/
theorem withoutExec (h : r.Covered tables) (s : StreamId) : (r.withoutExec s).Covered tables where
  execs t ht := h.execs t (List.mem_filter.mp ht).1
  agentDials := h.agentDials
  tempFiles := h.tempFiles

theorem withoutDial (h : r.Covered tables) (s : StreamId) : (r.withoutDial s).Covered tables where
  execs := h.execs
  agentDials t ht := h.agentDials t (List.mem_filter.mp ht).1
  tempFiles := h.tempFiles

theorem reported (h : r.Covered tables) (item : SessionItem) :
    (r.reported item).Covered tables := by
  unfold SessionResources.reported
  split
  · exact h.withoutExec _
  · exact h.withoutDial _
  · exact h

theorem createFile (h : r.Covered tables) (s : StreamId) (upload : FileUploadState)
    (hfree : tables.uploads[s]? = Option.none) :
    SessionResources.Covered { r with tempFiles := upload.tempPath :: r.tempFiles }
      { tables with uploads := tables.uploads.insert s upload } where
  execs := h.execs
  agentDials := h.agentDials
  tempFiles path hpath := by
    rcases List.mem_cons.mp hpath with rfl | hpath
    · exact ⟨s, upload, Std.ExtTreeMap.getElem?_insert_self, rfl⟩
    · rcases h.tempFiles path hpath with ⟨t, other, hother, hpath⟩
      refine ⟨t, other, ?_, hpath⟩
      rw [Std.ExtTreeMap.getElem?_insert, if_neg]
      · exact hother
      · intro hst
        rw [← Std.LawfulEqCmp.eq_of_compare hst, hfree] at hother
        exact absurd hother (by simp only [reduceCtorEq, not_false_eq_true])

/-- An upload and its file go together. -/
theorem eraseUpload (h : r.Covered tables) {s : StreamId} {upload : FileUploadState}
    (hupload : tables.uploads[s]? = some upload) :
    (r.withoutFile upload.tempPath).Covered { tables with uploads := tables.uploads.erase s } where
  execs := h.execs
  agentDials := h.agentDials
  tempFiles path hpath := by
    rcases List.mem_filter.mp hpath with ⟨hmem, hne⟩
    rcases h.tempFiles path hmem with ⟨t, other, hother, rfl⟩
    refine ⟨t, other, ?_, rfl⟩
    rw [Std.ExtTreeMap.getElem?_erase, if_neg]
    · exact hother
    · intro hst
      rw [← Std.LawfulEqCmp.eq_of_compare hst, hupload] at hother
      exact of_decide_eq_true hne (congrArg _ (Option.some.inj hother)).symm

/-- A change of uploads that leaves their files where they are. -/
theorem modifyUpload (h : r.Covered tables) (s : StreamId) {f : FileUploadState → FileUploadState}
    (hf : ∀ upload, (f upload).tempPath = upload.tempPath) :
    r.Covered { tables with uploads := tables.uploads.modify s f } where
  execs := h.execs
  agentDials := h.agentDials
  tempFiles path hpath := by
    rcases h.tempFiles path hpath with ⟨t, upload, hupload, hpath⟩
    simp only [Std.ExtTreeMap.getElem?_modify]
    by_cases hst : compare s t = .eq
    · refine ⟨t, f upload, ?_, (hf upload).trans hpath⟩
      rw [if_pos hst, Std.LawfulEqCmp.eq_of_compare hst, hupload]
      rfl
    · refine ⟨t, upload, ?_, hpath⟩
      rw [if_neg hst]
      exact hupload

end SessionResources.Covered

/-! ### Handlers -/

/-- A call that ends in taking the turn does not pass it on. -/
theorem taken_ne_passed {α : Type} {x : Session α} {st : TunnelSessionMutableState} :
    ((x >>= fun _ => (pure true : Session Bool)) st).result ≠ .ok false := by
  intro h
  rcases bind_result_ok h with ⟨_, _, hresult⟩
  exact absurd hresult (by simp only [pure_apply, Except.ok.injEq, Bool.true_eq_false,
    not_false_eq_true])

/-- A value put behind a call changes neither what it emitted nor where it stopped. -/
theorem bind_pure_same {α β : Type} (x : Session α) (b : β) (st : TunnelSessionMutableState) :
    ((x >>= fun _ => (pure b : Session β)) st).emitted = (x st).emitted ∧
      ((x >>= fun _ => (pure b : Session β)) st).state = (x st).state := by
  rcases hx : x st with ⟨result, st', out⟩
  cases result with
  | error error =>
      rw [bind_error hx]
      exact ⟨rfl, rfl⟩
  | ok =>
      rw [bind_ok hx]
      exact ⟨List.append_nil out, rfl⟩

/-- Nothing that a finished upload depends on has changed. -/
structure Untouched (st st' : TunnelSessionMutableState) : Prop where
  writer : st'.tunnelWriter = st.tunnelWriter
  tables : st'.resourceTables = st.resourceTables

theorem Untouched.refl (st : TunnelSessionMutableState) : Untouched st st := ⟨rfl, rfl⟩

theorem Untouched.trans {a b c : TunnelSessionMutableState} (hab : Untouched a b)
    (hbc : Untouched b c) : Untouched a c :=
  ⟨hbc.writer.trans hab.writer, hbc.tables.trans hab.tables⟩

/-- A step passes the turn on only if it touched nothing. -/
def PassesUntouched (step : Session Bool) : Prop :=
  ∀ st, (step st).result = .ok false → Untouched st (step st).state

/-- Steps that are tried in turn, each in a state as untouched as the first. -/
theorem firstOf_from {T : Trail TunnelSessionMutableState TunnelEffect}
    {before : TunnelSessionMutableState} (steps : List (Session Bool)) :
    ∀ st, Untouched before st →
      (∀ step ∈ steps, PassesUntouched step ∧
        ∀ st, Untouched before st → FollowsFrom T step st) →
      FollowsFrom T (firstOf steps) st := by
  induction steps with
  | nil => exact fun st _ _ => Follows.pure _ st
  | cons step rest ih =>
      intro st h hsteps
      rcases hsteps step (List.mem_cons_self ..) with ⟨hpasses, hstep⟩
      refine FollowsFrom.bind (hstep st h) fun done hdone => ?_
      cases done with
      | true => exact Follows.pure _ _
      | false =>
          exact ih _ (h.trans (hpasses st hdone)) fun step hmem =>
            hsteps step (List.mem_cons_of_mem _ hmem)

/-- A step that looks an entry up and passes the turn on if there is none. -/
theorem passes_of_lookup {α : Type} (find : TunnelSessionMutableState → Option α)
    {step : Session Bool} (hnone : ∀ st, find st = none → step st = ⟨.ok false, st, []⟩)
    (hsome : ∀ st a, find st = some a → (step st).result ≠ .ok false) : PassesUntouched step := by
  intro st hresult
  cases hfind : find st with
  | none =>
      rw [hnone st hfind]
      exact Untouched.refl st
  | some a => exact absurd hresult (hsome st a hfind)

section

variable (removes : String → Bool)

/-- The tables stay ahead of what is under way, as a trail. -/
def covering : Trail TunnelSessionMutableState TunnelEffect where
  rel a out b := ∀ r : SessionResources,
    r.Covered a.resourceTables → (r.after removes out).Covered b.resourceTables
  refl _ _ h := h
  comp hfirst hsecond r h := by
    rw [SessionResources.after_append]
    exact hsecond _ (hfirst r h)

variable {removes}

theorem covering_of_sparing {α : Type} {x : Session α} (h : Follows sparing x) :
    Follows (covering removes) x := by
  intro st r hr
  rw [r.after_of_quiet removes (h st).quiet, (h st).tables]
  exact hr

/-- A change of the tables together with the effect that goes with it. -/
theorem covering_modify_emit {st : TunnelSessionMutableState}
    {f : TunnelSessionMutableState → TunnelSessionMutableState} {effect : TunnelEffect} {α : Type}
    {rest : Session α}
    (h : ∀ r : SessionResources, r.Covered st.resourceTables →
      (r.afterEffect removes effect).Covered (f st).resourceTables)
    (hrest : Follows sparing rest) :
    FollowsFrom (covering removes) (modify f >>= fun _ => emit effect >>= fun _ => rest) st := by
  have hboth : (covering removes).rel st [effect] (f st) := h
  have hall := (covering removes).comp hboth (covering_of_sparing hrest (f st))
  exact hall

theorem openAgentStream_covering (message : AgentStreamOpen) :
    Follows (covering removes) (openAgentStream message) := by
  refine Follows.read fun st => ?_
  split
  · exact covering_of_sparing (writeTunnelText_sparing _) st
  · exact fun r hr => hr.spawnDial message.streamId

theorem openExecStream_covering (message : ExecStreamOpen) :
    Follows (covering removes) (openExecStream message) :=
  Follows.read fun _ => covering_modify_emit (fun _ hr => hr.spawnExec message.streamId)
    (writeTunnelText_sparing _)

theorem openFileUpload_covering {context : TunnelSessionLoopContext} {world : World}
    {message : FileUploadStreamOpen} {st : TunnelSessionMutableState}
    (hfree : st.fileUploads[message.streamId]? = none) :
    FollowsFrom (covering removes) (openFileUpload context world message) st := by
  unfold openFileUpload
  split
  · exact Follows.throw _ st
  · rename_i upload _
    have hopened : (covering removes).rel st [.task (.createFile upload.tempPath)]
        { st with fileUploads := st.fileUploads.insert message.streamId upload } :=
      fun r hr => hr.createFile message.streamId upload hfree
    exact (covering removes).comp hopened (covering_of_sparing (writeTunnelText_sparing _) _)

theorem discardFileUpload_covering {streamId : StreamId} {upload : FileUploadState}
    {st : TunnelSessionMutableState} (hupload : st.fileUploads[streamId]? = some upload)
    (hremoves : removes upload.tempPath = true) (code reason : String) :
    FollowsFrom (covering removes) (discardFileUpload streamId upload.tempPath code reason) st := by
  refine covering_modify_emit (fun r hr => ?_) (writeTunnelText_sparing _)
  have herased := hr.eraseUpload hupload
  rw [SessionResources.afterEffect, if_pos hremoves]
  exact herased

theorem handleFileUploadFrame_covering {world : World} {frame : StreamDataFrame}
    {st : TunnelSessionMutableState}
    (hremoves : ∀ upload, st.fileUploads[frame.streamId]? = some upload →
      removes upload.tempPath = true) :
    FollowsFrom (covering removes) (handleFileUploadFrame world frame) st := by
  refine FollowsFrom.read ?_
  split
  · exact Follows.pure _ st
  · rename_i upload hupload
    split
    · exact discardFileUpload_covering hupload (hremoves upload hupload) _ _
    · refine FollowsFrom.bind (fun r hr => ?_) fun _ _ => ?_
      · exact hr.modifyUpload _ fun _ => rfl
      · split
        · refine @discardFileUpload_covering removes _ { upload with
            receivedBytes := saturatingAdd upload.receivedBytes frame.payload.length } _
            ?_ (hremoves upload hupload) _ _
          simp only [modify_apply, Std.ExtTreeMap.getElem?_modify_self, hupload, Option.map_some]
        · split
          · exact Follows.throw _ _
          · exact covering_of_sparing (Follows.bind (emit_sparing (by rfl))
              fun _ => writeTunnelText_sparing _) _

/-- What finishing an upload needs in order to leave no temporary file: the writer takes
    the reset, or the file is synced and moved. -/
def FileUploadState.Finishes (upload : FileUploadState) (world : World) (writer : TunnelWriter) :
    Prop :=
  if upload.receivedBytes ≠ upload.sizeBytes then writer.send ≠ none
  else world.syncFile = .ok () ∧
    if (classifyUploadedFile upload.mimeType upload.originalFilename
        world.uploadSignature).isOk then
      world.renameFile = .ok ()
    else writer.send ≠ none

instance (upload : FileUploadState) (world : World) (writer : TunnelWriter) :
    Decidable (upload.Finishes world writer) := by
  unfold FileUploadState.Finishes
  infer_instance

/-- The reset of an upload that failed its checks, with its file removed. -/
theorem rejectFileUpload_spec {streamId : StreamId} {upload : FileUploadState}
    {st : TunnelSessionMutableState} (hsend : st.tunnelWriter.send ≠ none)
    (hremoves : removes upload.tempPath = true) (code message : String) (r : SessionResources) :
    r.after removes (rejectFileUpload streamId upload code message st).emitted
        = r.withoutFile upload.tempPath ∧
      (rejectFileUpload streamId upload code message st).state.resourceTables
        = st.resourceTables := by
  rcases Option.ne_none_iff_exists'.mp hsend with ⟨writer, hwriter⟩
  unfold rejectFileUpload
  rw [bind_ok (writeTunnelText_of_send hwriter _)]
  refine ⟨?_, rfl⟩
  show (r.afterEffect removes (.write (.text (.streamReset streamId code message)))).afterEffect
    removes (.task (.removeFile upload.tempPath)) = _
  rw [r.afterEffect_of_quiet removes rfl, SessionResources.afterEffect, if_pos hremoves]

/-- A finished upload has no temporary file, and finishing touches no table. -/
theorem finalizeFileUpload_spec {world : World} {streamId : StreamId} {upload : FileUploadState}
    {st : TunnelSessionMutableState} (hfinishes : upload.Finishes world st.tunnelWriter)
    (hremoves : removes upload.tempPath = true) (r : SessionResources) :
    r.after removes (finalizeFileUpload world streamId upload st).emitted
        = r.withoutFile upload.tempPath ∧
      (finalizeFileUpload world streamId upload st).state.resourceTables = st.resourceTables := by
  unfold FileUploadState.Finishes at hfinishes
  unfold finalizeFileUpload
  split at hfinishes
  · rename_i hcount
    rw [if_pos hcount]
    exact rejectFileUpload_spec hfinishes hremoves _ _ r
  · rename_i hcount
    rcases hfinishes with ⟨hsync, hrest⟩
    rw [if_neg hcount, hsync]
    dsimp only
    cases hclassified : classifyUploadedFile upload.mimeType upload.originalFilename
        world.uploadSignature with
    | error error =>
      rw [hclassified, if_neg (by simp only [Except.isOk, Except.toBool, Bool.false_eq_true,
        not_false_eq_true])] at hrest
      cases error with
      | io message => exact rejectFileUpload_spec hrest hremoves _ _ r
      | reset code message => exact rejectFileUpload_spec hrest hremoves _ _ r
    | ok classification =>
      have hrename : world.renameFile = .ok () := by
        rw [hclassified] at hrest
        exact hrest
      rw [hrename]
      dsimp only
      -- The file is moved before anything is written, so the writer may be gone.
      have hwrites : ∀ completed, Follows sparing (do
          writeTunnelText (.fileUploadCompletedEvent completed)
          writeTunnelText (.streamComplete streamId) : Session Unit) :=
        fun _ => Follows.bind (writeTunnelText_sparing _) fun _ => writeTunnelText_sparing _
      refine ⟨?_, (hwrites _ st).tables⟩
      exact (r.withoutFile upload.tempPath).after_of_quiet removes (hwrites _ st).quiet

/-- Otherwise nothing is removed or moved. -/
theorem finalizeFileUpload_unfinished {world : World} {streamId : StreamId}
    {upload : FileUploadState} {st : TunnelSessionMutableState}
    (hunfinished : ¬ upload.Finishes world st.tunnelWriter) :
    (finalizeFileUpload world streamId upload st).emitted = [] := by
  have hreject : ∀ code message, st.tunnelWriter.send = none →
      (rejectFileUpload streamId upload code message st).emitted = [] := by
    intro code message hgone
    unfold rejectFileUpload
    rw [bind_error (writeTunnelText_of_gone hgone _)]
  unfold FileUploadState.Finishes at hunfinished
  unfold finalizeFileUpload
  split at hunfinished
  · rename_i hcount
    rw [if_pos hcount]
    exact hreject _ _ (not_not.mp hunfinished)
  · rename_i hcount
    rw [if_neg hcount]
    cases hsync : world.syncFile with
    | error error => rfl
    | ok =>
        dsimp only
        cases hclassified : classifyUploadedFile upload.mimeType upload.originalFilename
            world.uploadSignature with
        | error error =>
            have hgone : st.tunnelWriter.send = none := by
              rw [hclassified, if_neg (by simp only [Except.isOk, Except.toBool,
                Bool.false_eq_true, not_false_eq_true])] at hunfinished
              exact not_not.mp fun hsend => hunfinished ⟨hsync, hsend⟩
            cases error with
            | io message => exact hreject _ _ hgone
            | reset code message => exact hreject _ _ hgone
        | ok classification =>
            dsimp only
            cases hrename : world.renameFile with
            | error error => rfl
            | ok =>
                refine absurd ⟨hsync, ?_⟩ hunfinished
                rw [hclassified]
                exact hrename

/-! ### Closing a stream -/

theorem closeFileUpload_covering {world : World} {streamId : StreamId}
    {st : TunnelSessionMutableState}
    (hfinishes : ∀ upload, st.fileUploads[streamId]? = some upload →
      removes upload.tempPath = true ∧ upload.Finishes world st.tunnelWriter) :
    FollowsFrom (covering removes) (closeFileUpload world streamId) st := by
  refine FollowsFrom.read ?_
  split
  · exact Follows.pure _ st
  · rename_i upload hupload
    rcases hfinishes upload hupload with ⟨hremoves, hfinishes⟩
    intro r hr
    have hspec := @finalizeFileUpload_spec removes world streamId upload
      { st with fileUploads := st.fileUploads.erase streamId } hfinishes hremoves r
    rw [bind_ok (modify_apply _ st), (bind_pure_same _ true _).1, (bind_pure_same _ true _).2,
      List.nil_append, hspec.1, hspec.2]
    exact hr.eraseUpload hupload

/-- An agent stream that was there is handed back. -/
theorem removed_of_some {context : TunnelSessionLoopContext} {world : World} {streamId : StreamId}
    {termination : AgentStreamTermination} {st : TunnelSessionMutableState}
    {agentStream : AgentStreamState} (hsome : st.agentStreams[streamId]? = some agentStream)
    {removed : Option AgentStreamState}
    (hremoved : (removeAgentStreamAndPublishSummary context world streamId termination st).result
      = .ok removed) : removed = some agentStream := by
  unfold removeAgentStreamAndPublishSummary at hremoved
  rw [bind_ok (get_apply st), hsome] at hremoved
  rcases bind_result_ok hremoved with ⟨_, _, hpublished⟩
  rcases bind_result_ok hpublished with ⟨_, _, hreturned⟩
  rw [pure_apply, Except.ok.injEq] at hreturned
  exact hreturned.symm

theorem handleStreamClose_covering {context : TunnelSessionLoopContext} {world : World}
    {streamId : StreamId} {st : TunnelSessionMutableState}
    (hfinishes : ∀ upload, st.fileUploads[streamId]? = some upload →
      removes upload.tempPath = true ∧ upload.Finishes world st.tunnelWriter) :
    FollowsFrom (covering removes) (handleStreamClose context world streamId) st := by
  have hclose : ∀ step ∈ [abortPendingAgentOpen streamId, closeAgentStream context world streamId,
      closeProcessStream streamId, closeFileSearchStreamOfGateway context world streamId,
      cancelPendingExecOpen streamId, closeFileUpload world streamId],
      PassesUntouched step ∧
        ∀ st', Untouched st st' → FollowsFrom (covering removes) step st' := by
    simp only [List.forall_mem_cons, List.not_mem_nil, IsEmpty.forall_iff, implies_true, and_true]
    refine ⟨⟨?_, fun st' _ => ?_⟩, ⟨?_, fun st' _ => ?_⟩, ⟨?_, fun st' _ => ?_⟩,
      ⟨?_, fun st' _ => ?_⟩, ⟨?_, fun st' _ => ?_⟩, ⟨?_, fun st' huntouched => ?_⟩⟩
    · refine passes_of_lookup (fun st => st.pendingAgentOpens[streamId]?) (fun st hnone => ?_)
        fun st a hsome => ?_
      · unfold abortPendingAgentOpen
        rw [bind_ok (get_apply st), hnone]
        rfl
      · unfold abortPendingAgentOpen
        rw [bind_ok (get_apply st), hsome]
        exact fun h => nomatch h
    · refine FollowsFrom.read ?_
      split
      · exact Follows.pure _ st'
      · exact covering_modify_emit (fun r hr => hr.eraseDial streamId) (Follows.pure _)
    · refine passes_of_lookup (fun st => st.agentStreams[streamId]?) (fun st hnone => ?_)
        fun st a hsome => ?_
      · unfold closeAgentStream
        rw [bind_ok (removeAgentStreamAndPublishSummary_of_none _ _ hnone _)]
        rfl
      · unfold closeAgentStream
        intro hpassed
        rcases bind_result_ok hpassed with ⟨removed, hremoved, hrest⟩
        rw [removed_of_some hsome hremoved] at hrest
        exact nomatch hrest
    · refine covering_of_sparing (Follows.bind (removeAgentStreamAndPublishSummary_sparing _ _ _ _)
        fun removed => ?_) st'
      split
      · exact Follows.pure _
      · exact Follows.bind (emit_sparing (by rfl)) fun _ => Follows.pure _
    · refine passes_of_lookup (fun st => st.processStreams.sendWindows[streamId]?)
        (fun st hnone => ?_) fun st a hsome => ?_
      · unfold closeProcessStream
        rw [bind_ok (get_apply st), hnone]
        rfl
      · unfold closeProcessStream
        rw [bind_ok (get_apply st), hsome]
        exact fun h => nomatch h
    · exact covering_of_sparing (closeProcessStream_sparing streamId) st'
    · refine passes_of_lookup (fun st => st.fileSearchStreams[streamId]?) (fun st hnone => ?_)
        fun st a hsome => ?_
      · unfold closeFileSearchStreamOfGateway
        rw [bind_ok (get_apply st), hnone]
        rfl
      · unfold closeFileSearchStreamOfGateway
        rw [bind_ok (get_apply st), hsome]
        exact taken_ne_passed
    · refine covering_of_sparing (Follows.read fun st => ?_) st'
      split
      · exact Follows.pure _ st
      · exact Follows.bind (closeFileSearchStream_sparing _ _ _ _) (fun _ => Follows.pure _) st
    · refine passes_of_lookup (fun st => st.pendingExecOpens[streamId]?) (fun st hnone => ?_)
        fun st a hsome => ?_
      · unfold cancelPendingExecOpen
        rw [bind_ok (get_apply st), hnone]
        rfl
      · unfold cancelPendingExecOpen
        rw [bind_ok (get_apply st), hsome]
        exact fun h => nomatch h
    · refine FollowsFrom.read ?_
      split
      · exact Follows.pure _ st'
      · exact covering_modify_emit (fun r hr => hr.eraseExec streamId) (Follows.pure _)
    · refine passes_of_lookup (fun st => st.fileUploads[streamId]?) (fun st hnone => ?_)
        fun st a hsome => ?_
      · unfold closeFileUpload
        rw [bind_ok (get_apply st), hnone]
        rfl
      · unfold closeFileUpload
        rw [bind_ok (get_apply st), hsome]
        exact taken_ne_passed
    · refine closeFileUpload_covering fun upload hupload => ?_
      have hsame : st'.fileUploads = st.fileUploads := congrArg ResourceTables.uploads
        huntouched.tables
      rw [hsame] at hupload
      rw [huntouched.writer]
      exact hfinishes upload hupload
  refine FollowsFrom.bind (firstOf_from _ st (Untouched.refl st) hclose) fun done _ => ?_
  cases done with
  | true => exact Follows.pure _ _
  | false => exact covering_of_sparing (writeTunnelText_sparing _) _

/-! ### Messages of the gateway -/

section

variable {context : TunnelSessionLoopContext} {world : World}

/-- The stream that a text asks to close. -/
def closedStream? (serde : SerdeJson) (payload : String) : Option StreamId :=
  match parseStreamControlMessage serde payload with
  | .ok (.close message) => some message.streamId
  | _ => none

/-- The file system removes the temporary file of every upload. -/
def UploadsRemovable (removes : String → Bool) (st : TunnelSessionMutableState) : Prop :=
  ∀ (s : StreamId) (upload : FileUploadState), st.fileUploads[s]? = some upload →
    removes upload.tempPath = true

instance (st : TunnelSessionMutableState) : Decidable (UploadsRemovable removes st) :=
  decidable_of_iff (∀ entry ∈ st.fileUploads.toList, removes entry.2.tempPath = true) (by
    simp only [UploadsRemovable, Prod.forall, Std.ExtTreeMap.mem_toList_iff_getElem?_eq_some])

theorem openUnlessDuplicate_covering {streamId : StreamId} {openStream : Session Unit}
    {st : TunnelSessionMutableState}
    (hopen : st.fileUploads[streamId]? = none → FollowsFrom (covering removes) openStream st) :
    FollowsFrom (covering removes) (openUnlessDuplicate streamId openStream) st := by
  unfold openUnlessDuplicate rejectDuplicateTunnelStreamOpen
  cases hactive : portAccessStreamIsActive st streamId with
  | true =>
      refine FollowsFrom.bind (FollowsFrom.read ?_) fun duplicate hduplicate => ?_
      · rw [if_pos hactive]
        exact covering_of_sparing (Follows.bind (writeTunnelText_sparing _)
          fun _ => Follows.pure _) st
      · rw [bind_ok (get_apply st), if_pos hactive] at hduplicate
        rcases bind_result_ok hduplicate with ⟨_, _, htrue⟩
        rw [pure_apply, Except.ok.injEq] at htrue
        rw [← htrue]
        exact Follows.pure _ _
  | false =>
      have hfree := count_eq_zero_of_not_active hactive
      have hnone : st.fileUploads[streamId]? = none := by
        have hupload : (st.entries streamId).fileUpload.isSome.toNat = 0 := by
          unfold StreamEntries.count at hfree
          omega
        rw [Bool.toNat_eq_zero, Option.isSome_eq_false_iff, Option.isNone_iff_eq_none] at hupload
        exact hupload
      have hpasses : rejectDuplicateTunnelStreamOpen streamId st = ⟨.ok false, st, []⟩ := by
        unfold rejectDuplicateTunnelStreamOpen
        rw [bind_ok (get_apply st), if_neg (Bool.eq_false_iff.mp hactive)]
        rfl
      have hrest := hopen hnone
      unfold FollowsFrom at hrest ⊢
      show (covering removes).rel st ((rejectDuplicateTunnelStreamOpen streamId >>= _) st).emitted
        ((rejectDuplicateTunnelStreamOpen streamId >>= _) st).state
      rw [bind_ok hpasses, if_neg Bool.false_ne_true, List.nil_append]
      exact hrest

theorem handleTunnelControlMessage_covering {message : StreamControlMessage}
    {st : TunnelSessionMutableState}
    (hfinishes : ∀ m, message = .close m → ∀ upload, st.fileUploads[m.streamId]? = some upload →
      removes upload.tempPath = true ∧ upload.Finishes world st.tunnelWriter) :
    FollowsFrom (covering removes) (handleTunnelControlMessage context world message) st := by
  cases message with
  | openAgent message =>
      exact openUnlessDuplicate_covering fun _ => openAgentStream_covering message st
  | openProcesses message =>
      exact openUnlessDuplicate_covering fun _ =>
        covering_of_sparing (openProcessStream_sparing _ _ _) st
  | openFileUpload message =>
      exact openUnlessDuplicate_covering fun hfree => openFileUpload_covering hfree
  | openExec message =>
      exact openUnlessDuplicate_covering fun _ => openExecStream_covering message st
  | openFileSearch message =>
      exact openUnlessDuplicate_covering fun _ =>
        covering_of_sparing (openFileSearchStream_sparing _ _ _) st
  | signal message => exact covering_of_sparing (writeTunnelText_sparing _) st
  | close message => exact handleStreamClose_covering (hfinishes message rfl)
  | window message => exact covering_of_sparing (handleStreamWindow_sparing _ _ _) st

theorem handleTunnelBinaryFrame_covering {frame : StreamDataFrame} {st : TunnelSessionMutableState}
    (hremovable : UploadsRemovable removes st) :
    FollowsFrom (covering removes) (handleTunnelBinaryFrame context world frame) st := by
  refine FollowsFrom.read ?_
  split
  · exact covering_of_sparing (forwardGatewayFrameToAgent_sparing _ _ _) st
  split
  · exact covering_of_sparing (handleProcessStreamFrame_sparing _ _ _) st
  split
  · exact covering_of_sparing (handleFileSearchFrame_sparing _ _ _) st
  split
  · exact covering_of_sparing (handlePortAccessTcpDataFrame_sparing _ _) st
  split
  · exact handleFileUploadFrame_covering (hremovable frame.streamId)
  · exact covering_of_sparing (writeTunnelText_sparing _) st

/-- A parser's turn that is passed on touches nothing. -/
theorem offerText_passes {α : Type} (parsed : Except TunnelProtocolError (Option α))
    (handle : α → Session Unit) : PassesUntouched (offerText context world parsed handle) := by
  unfold offerText
  split
  · exact fun _ hresult => absurd hresult taken_ne_passed
  · exact fun st _ => Untouched.refl st
  · exact fun _ hresult => absurd hresult taken_ne_passed

theorem handleTelemetryText_passes (payload : String) :
    PassesUntouched (handleTelemetryText context world payload) := by
  intro st
  unfold handleTelemetryText
  rw [bind_ok (get_apply st)]
  dsimp only
  rw [bind_ok (modify_apply _ st)]
  dsimp only
  generalize (st.telemetryRelay.handleControlMessage context.serde payload).1 = answer
  cases answer with
  | error error => exact fun hresult => absurd hresult taken_ne_passed
  | ok frames =>
      cases frames with
      | none => exact fun _ => ⟨rfl, rfl⟩
      | some frames => exact fun hresult => absurd hresult taken_ne_passed

theorem handleOperationControlMessage_passes (serde : SerdeJson) (payload : String) :
    PassesUntouched (handleOperationControlMessage serde payload) := by
  unfold handleOperationControlMessage
  split
  · exact fun st _ => Untouched.refl st
  unfold handleOperationValue
  split
  · exact fun st _ => Untouched.refl st
  · exact fun _ hresult => absurd hresult taken_ne_passed
  · exact fun _ hresult => absurd hresult taken_ne_passed
  · exact fun _ hresult => absurd hresult taken_ne_passed
  · exact fun _ hresult => absurd hresult taken_ne_passed
  · exact fun st _ => Untouched.refl st

theorem handleStreamControlText_passes (payload : String) :
    PassesUntouched (handleStreamControlText context world payload) := by
  unfold handleStreamControlText
  split
  · exact fun _ hresult => absurd hresult taken_ne_passed
  · exact fun _ hresult => absurd hresult taken_ne_passed

/-- A text of the gateway, where the upload it may finish is finished. -/
theorem handleBootstrapText_covering {payload : String} {st : TunnelSessionMutableState}
    (hfinishes : ∀ s, closedStream? context.serde payload = some s →
      ∀ upload, st.fileUploads[s]? = some upload →
        removes upload.tempPath = true ∧ upload.Finishes world st.tunnelWriter) :
    FollowsFrom (covering removes) (handleBootstrapText context world payload) st := by
  have hsteps : ∀ step ∈ textHandlers context world payload, PassesUntouched step ∧
      ∀ st', Untouched st st' → FollowsFrom (covering removes) step st' := by
    unfold textHandlers
    simp only [List.forall_mem_cons, List.not_mem_nil, IsEmpty.forall_iff, implies_true, and_true]
    refine ⟨⟨handleTelemetryText_passes _, fun st' _ => ?_⟩,
      ⟨offerText_passes _ _, fun st' _ => ?_⟩, ⟨offerText_passes _ _, fun st' _ => ?_⟩,
      ⟨offerText_passes _ _, fun st' _ => ?_⟩, ⟨offerText_passes _ _, fun st' _ => ?_⟩,
      ⟨handleOperationControlMessage_passes _ _, fun st' _ => ?_⟩,
      ⟨offerText_passes _ _, fun st' _ => ?_⟩,
      ⟨handleStreamControlText_passes _, fun st' huntouched => ?_⟩⟩
    · exact covering_of_sparing (handleTelemetryText_sparing _ _ _) st'
    · refine covering_of_sparing (offerText_sparing _ _ _ fun message => ?_) st'
      cases message with
      | targetAuthorize message => exact handlePortsControlMessage_sparing _ _
    · exact covering_of_sparing (offerText_sparing _ _ _
        fun message => handlePortsTransportText_sparing _ _ message) st'
    · exact covering_of_sparing (offerText_sparing _ _ _
        fun message => handleSigningControlMessage_sparing message) st'
    · exact covering_of_sparing (offerText_sparing _ _ _
        fun message => handleEgressTokenControlMessage_sparing _ _ message) st'
    · exact covering_of_sparing (handleOperationControlMessage_sparing _ _) st'
    · exact covering_of_sparing (offerText_sparing _ _ _
        fun message => handlePtySessionControlMessage_sparing message) st'
    · unfold handleStreamControlText
      split
      · rename_i message hmessage
        refine FollowsFrom.bind ?_ fun _ _ => Follows.pure _ _
        refine handleTunnelControlMessage_covering fun m hm upload hupload => ?_
        have hsame : st'.fileUploads = st.fileUploads :=
          congrArg ResourceTables.uploads huntouched.tables
        have hclosed : closedStream? context.serde payload = some m.streamId := by
          unfold closedStream?
          rw [hmessage, hm]
        rw [hsame] at hupload
        rw [huntouched.writer]
        exact hfinishes m.streamId hclosed upload hupload
      · exact covering_of_sparing (Follows.bind (publishTunnelTelemetryLog_sparing _ _ _ _ _)
          fun _ => Follows.pure _) st'
  exact FollowsFrom.bind (firstOf_from _ st (Untouched.refl st) hsteps) fun _ _ => Follows.pure _ _

end

/-! ### Items -/

section

variable (removes) (context : TunnelSessionLoopContext) (world : World)

/-- The upload that an item finishes. -/
def closedUpload? (serde : SerdeJson) (st : TunnelSessionMutableState) :
    SessionItem → Option FileUploadState
  | .event (.bootstrapMessage (.text payload)) =>
    (closedStream? serde payload).bind fun s => st.fileUploads[s]?
  | _ => none

/-- What an item needs in order to leave no temporary file. -/
structure ItemReleases (st : TunnelSessionMutableState) (item : SessionItem) : Prop where
  removable : UploadsRemovable removes st
  finishes : ∀ upload ∈ closedUpload? context.serde st item,
    upload.Finishes world st.tunnelWriter

instance (st : TunnelSessionMutableState) (item : SessionItem) :
    Decidable (ItemReleases removes context world st item) :=
  decidable_of_iff (UploadsRemovable removes st ∧
    ∀ upload ∈ closedUpload? context.serde st item, upload.Finishes world st.tunnelWriter)
    ⟨fun h => ⟨h.1, h.2⟩, fun h => ⟨h.removable, h.finishes⟩⟩

variable {removes context world}
variable {st : TunnelSessionMutableState} {r : SessionResources}

/-- A dial that has ended leaves its table, if it is still there. -/
theorem handleAgentDialed_covered (hr : r.Covered st.resourceTables) (streamId : StreamId)
    (result : Except String Unit) :
    ((r.withoutDial streamId).after removes
        (handleAgentDialed world streamId result st).emitted).Covered
      (handleAgentDialed world streamId result st).state.resourceTables := by
  unfold handleAgentDialed
  rw [bind_ok (get_apply st), List.nil_append]
  dsimp only
  cases hpending : st.pendingAgentOpens[streamId]? with
  | none => exact hr.withoutDial streamId
  | some entry =>
      dsimp only
      rw [bind_ok (modify_apply _ st), List.nil_append]
      refine covering_of_sparing ?_ _ _ (hr.eraseDial streamId)
      cases result with
      | ok =>
          refine Follows.bind (emit_sparing (by rfl)) fun _ => ?_
          exact Follows.bind (modify_sparing fun _ => by rfl) fun _ => writeTunnelText_sparing _
      | error error => exact writeTunnelText_sparing _

/-- A command that has completed leaves its table, if it is still there. -/
theorem handleExecCompleted_covered (hr : r.Covered st.resourceTables) (streamId : StreamId)
    (result : Except String ExecCommandResult) :
    ((r.withoutExec streamId).after removes
        (handleExecCompleted streamId result st).emitted).Covered
      (handleExecCompleted streamId result st).state.resourceTables := by
  unfold handleExecCompleted
  rw [bind_ok (get_apply st), List.nil_append]
  dsimp only
  cases hpending : st.pendingExecOpens[streamId]? with
  | none => exact hr.withoutExec streamId
  | some entry =>
      dsimp only
      rw [bind_ok (modify_apply _ st), List.nil_append]
      refine covering_of_sparing ?_ _ _ (hr.eraseExec streamId)
      cases result with
      | ok =>
          exact Follows.bind (writeTunnelText_sparing _) fun _ => writeTunnelText_sparing _
      | error error => exact writeTunnelText_sparing _

theorem covering_continueWith {handler : Session Unit}
    (h : FollowsFrom (covering removes) handler st) :
    FollowsFrom (covering removes) (continueWith handler) st :=
  FollowsFrom.bind h fun _ _ => Follows.pure _ _

theorem handleBootstrapMessage_covering {message : WebsocketMessage}
    (h : ItemReleases removes context world st (.event (.bootstrapMessage message))) :
    FollowsFrom (covering removes) (handleBootstrapMessage context world message) st := by
  cases message with
  | text payload =>
      refine covering_continueWith (handleBootstrapText_covering fun s hs upload hupload => ?_)
      refine ⟨h.removable s upload hupload, h.finishes upload ?_⟩
      exact Option.bind_eq_some_iff.mpr ⟨s, hs, hupload⟩
  | binary payload =>
      refine covering_continueWith ?_
      unfold handleBootstrapBinary
      split
      · exact covering_of_sparing (publishTunnelTelemetryLog_sparing _ _ _ _ _) st
      · exact handleTunnelBinaryFrame_covering h.removable
  | ping payload => exact covering_continueWith (covering_of_sparing (writeTunnelPong_sparing _) st)
  | pong payload => exact Follows.pure _ st
  | close => exact Follows.pure _ st
  | frame => exact Follows.pure _ st

theorem handleTunnelSessionEvent_covered {event : TunnelSessionEvent}
    (h : ItemReleases removes context world st (.event event)) (hr : r.Covered st.resourceTables) :
    ((r.reported (.event event)).after removes
        (handleTunnelSessionEvent context world event st).emitted).Covered
      (handleTunnelSessionEvent context world event st).state.resourceTables := by
  cases event with
  | bootstrapMessage message => exact handleBootstrapMessage_covering h r hr
  | bootstrapClosed restart reason =>
      refine covering_of_sparing (Follows.bind (handleBootstrapClosed_sparing _ _ _)
        fun _ => Follows.pure _) st r hr
  | agentDialed streamId result =>
      unfold handleTunnelSessionEvent
      rw [continueWith_emitted, continueWith_state]
      exact handleAgentDialed_covered hr streamId result
  | agentMessage streamId message =>
      exact covering_continueWith
        (covering_of_sparing (handleAgentRuntimeMessage_sparing _ _ _ _) st) r hr
  | agentWriteCompleted streamId bytes =>
      exact covering_continueWith
        (covering_of_sparing (handleAgentWriteCompleted_sparing _ _) st) r hr
  | portAccessTransport event =>
      exact covering_continueWith
        (covering_of_sparing (handlePortAccessTransportEvent_sparing _) st) r hr
  | agentClosed streamId reason =>
      exact covering_continueWith
        (covering_of_sparing (handleAgentClosed_sparing _ _ _ _) st) r hr
  | execCompleted streamId result =>
      unfold handleTunnelSessionEvent
      rw [continueWith_emitted, continueWith_state]
      exact handleExecCompleted_covered hr streamId result
  | fileSearch event =>
      exact covering_continueWith
        (covering_of_sparing (handleFileSearchWorkerEvent_sparing _ _ _) st) r hr
  | wake => exact covering_continueWith (covering_of_sparing (handleWake_sparing _ _) st) r hr

theorem handleTunnelSessionRequest_sparing (request : TunnelSessionRequest) :
    Follows sparing (handleTunnelSessionRequest context world request) := by
  have hcontinue : ∀ {handler : Session Unit}, Follows sparing handler →
      Follows sparing (continueWith handler) :=
    fun h => Follows.bind h fun _ => Follows.pure _
  have hset : ∀ (f : TunnelSessionMutableState → TunnelSessionMutableState)
      (sender : ResponseSender), (∀ st, (f st).resourceTables = st.resourceTables) →
      Follows sparing (do
        modify f
        emit (.answerSet sender)
        return .continue : Session TunnelSessionControlFlow) :=
    fun f sender hf => Follows.bind (modify_sparing hf) fun _ =>
      Follows.bind (emit_sparing rfl) fun _ => Follows.pure _
  cases request with
  | shutdown => exact Follows.pure _
  | setAgentEndpoint url sender => exact hset _ sender fun _ => rfl
  | setRuntimeEnvironment env sender => exact hset _ sender fun _ => rfl
  | signing request sender => exact hcontinue (handleSigningSessionRequest_sparing _ _)
  | egressToken requestId actingUserId sender =>
      exact hcontinue (handleEgressTokenSessionRequest_sparing _ _ _ _ _)
  | operationRecord line => exact hcontinue (recordOperation_sparing _)
  | operationClose sender => exact hcontinue (closeOperationStream_sparing _)

/-! ### Shutting down -/

theorem each_emit {α : Type} (effect : α → TunnelEffect) (as : List α)
    (st : TunnelSessionMutableState) :
    (each (fun a => (emit (effect a) : Session Unit)) as) st = ⟨.ok (), st, as.map effect⟩ := by
  induction as with
  | nil => rfl
  | cons a as ih =>
      have hstep : each (fun a => (emit (effect a) : Session Unit)) (a :: as)
          = (emit (effect a) >>= fun _ => each (fun a => emit (effect a)) as) := rfl
      rw [hstep, bind_ok (emit_apply (effect a) st), ih]
      rfl

/-- Everything a covering table knows of is listed by its keys. -/
theorem filter_keys_eq_nil {α : Type} {table : Table α} {ids : List StreamId}
    (h : ∀ s ∈ ids, table[s]?.isSome) : ids.filter (· ∉ table.keys) = [] := by
  refine List.filter_eq_nil_iff.mpr fun s hs => ?_
  have hmem : s ∈ table.keys := by
    rw [Std.ExtTreeMap.mem_keys, Std.ExtTreeMap.mem_iff_contains,
      Std.ExtTreeMap.contains_eq_isSome_getElem?]
    exact h s hs
  simp only [hmem, not_true_eq_false, decide_false, Bool.false_eq_true, not_false_eq_true]

/-- Once the flag for shutting down is seen, no command and no dial is under way. -/
theorem observeShutdown_spec (hr : r.Covered st.resourceTables) :
    r.after removes (observeShutdown st).emitted = { r with execs := [], agentDials := [] } ∧
      (observeShutdown st).state.resourceTables = { st.resourceTables with execs := ∅ } := by
  have hrest : ∀ frames relay, Follows sparing (do
      modify fun st => { st with telemetryRelay := relay }
      let _ ← attempt (sendTelemetryFrames frames)
      failPendingRequests "shut down"
      let _ ← sendToWriter .close
      return .shutdownRequested : Session TunnelSessionControlFlow) := by
    intro frames relay
    refine Follows.bind (modify_sparing fun _ => by rfl) fun _ => ?_
    refine Follows.bind (Follows.attempt (sendTelemetryFrames_sparing frames)) fun _ => ?_
    refine Follows.bind (failPendingRequests_sparing _) fun _ => ?_
    exact Follows.bind (sendToWriter_sparing _) fun _ => Follows.pure _
  have hstopped := hrest st.telemetryRelay.detachTunnelConnection.1
    st.telemetryRelay.detachTunnelConnection.2 { st with pendingExecOpens := ∅ }
  unfold observeShutdown
  rw [bind_ok (get_apply st), List.nil_append]
  dsimp only
  rw [bind_ok (each_emit (fun streamId => .task (.abortAgentDial streamId)) _ st)]
  dsimp only
  rw [bind_ok (modify_apply _ st), List.nil_append]
  dsimp only
  rw [bind_ok (each_emit (fun streamId => .task (.cancelExec streamId)) _ _)]
  dsimp only
  refine ⟨?_, hstopped.tables⟩
  rw [SessionResources.after_append, SessionResources.after_append,
    SessionResources.after_abortAgentDials, SessionResources.after_cancelExecs,
    SessionResources.after_of_quiet _ _ hstopped.quiet]
  have hdials : r.agentDials.filter (· ∉ st.pendingAgentOpens.keys) = [] :=
    filter_keys_eq_nil hr.agentDials
  have hexecs : r.execs.filter (· ∉ st.pendingExecOpens.keys) = [] :=
    filter_keys_eq_nil hr.execs
  rw [hdials, hexecs]

theorem handleSessionItem_covered {item : SessionItem}
    (h : ItemReleases removes context world st item) (hr : r.Covered st.resourceTables) :
    ((r.reported item).after removes (handleSessionItem context world item st).emitted).Covered
      (handleSessionItem context world item st).state.resourceTables := by
  have hsparing : ∀ {handler : Session TunnelSessionControlFlow}, Follows sparing handler →
      (r.after removes (handler st).emitted).Covered (handler st).state.resourceTables :=
    fun hhandler => covering_of_sparing hhandler st r hr
  cases item with
  | event event => exact handleTunnelSessionEvent_covered h hr
  | request request => exact hsparing (handleTunnelSessionRequest_sparing request)
  | lifecycleLines lines =>
      exact hsparing (Follows.bind (forwardSupervisorLifecycleEvents_sparing lines)
        fun _ => Follows.pure _)
  | keepaliveState ttlMs active =>
      exact hsparing (Follows.bind (writeTunnelText_sparing _) fun _ => Follows.pure _)
  | runtimeReady ready =>
      exact hsparing (Follows.bind (writeTunnelText_sparing _) fun _ => Follows.pure _)
  | ptyReport requestId ptySessionId outcome =>
      exact hsparing (Follows.bind (Follows.attempt (writeTunnelText_sparing _))
        fun _ => Follows.pure _)
  | shutdownObserved =>
      have hspec := @observeShutdown_spec removes st r hr
      rcases hspec with ⟨hresources, htables⟩
      show (r.after removes (observeShutdown st).emitted).Covered
        (observeShutdown st).state.resourceTables
      rw [hresources, htables]
      exact ⟨fun _ hs => absurd hs List.not_mem_nil, fun _ hs => absurd hs List.not_mem_nil,
        hr.tempFiles⟩

end

end

end Mistle
