import Mistle.Tunnel.Footprint

/-!
# File Upload Streams

An upload stream collects raw bytes into a temporary file and, on close, checks
that as many arrived as the open announced, classifies the file by its first
bytes and moves it into place. Anything wrong with the bytes or their number
resets the stream; what the file system refuses is an error of the session.

## Main definitions

* `createFileUploadState`: The temporary file of an open.
* `handleFileUploadFrame`: A data frame of the gateway.
* `classifyUploadedFile`: The kind and extension of an upload.
* `finalizeFileUpload`: The close.

## Theorems

* `handleFileUploadFrame_footprint`, `finalizeFileUpload_footprint`,
  `openFileUpload_footprint`: Each serves its stream only.
-/

namespace Mistle

open Handler

def maxUploadSizeBytes : Nat := 16 * 1024 * 1024
def maxUploadThreadIdLength : Nat := 128

/-- Bytes a thread id may hold. -/
def isThreadIdChar (c : Char) : Bool :=
  c.isAlphanum || c == '_' || c == '-'

def assertSafeUploadThreadId (threadId : String) : Except String Unit :=
  if isBlank threadId then .error "threadId is required."
  else if trim threadId ≠ threadId then
    .error "threadId must not include leading or trailing whitespace."
  else if (utf8 threadId).length > maxUploadThreadIdLength then
    .error "threadId exceeds the configured length limit."
  else if !threadId.toList.all isThreadIdChar then
    .error "threadId must use only ASCII letters, digits, '_' or '-'."
  else .ok ()

def assertUploadMetadata (threadId mimeType : String) (sizeBytes : Nat) : Except String Unit := do
  assertSafeUploadThreadId threadId
  if isBlank mimeType then .error "mimeType is required."
  else if sizeBytes = 0 then .error "sizeBytes must be greater than 0."
  else if sizeBytes > maxUploadSizeBytes then
    .error "sizeBytes exceeds the configured upload limit."
  else .ok ()

/-! ### Classification -/

inductive UploadClassificationError where
  | io (message : String)
  | reset (code message : String)
  deriving DecidableEq

structure UploadedFileClassification where
  kind : String
  extension : String
  deriving DecidableEq

def pngSignature : List UInt8 := [0x89, 0x50, 0x4e, 0x47, 0x0d, 0x0a, 0x1a, 0x0a]
def jpegSignature : List UInt8 := [0xff, 0xd8, 0xff]
def gif87aSignature : List UInt8 := [0x47, 0x49, 0x46, 0x38, 0x37, 0x61]
def gif89aSignature : List UInt8 := [0x47, 0x49, 0x46, 0x38, 0x39, 0x61]
def webpRiffSignature : List UInt8 := [0x52, 0x49, 0x46, 0x46]
def webpBrandSignature : List UInt8 := [0x57, 0x45, 0x42, 0x50]

def matchesSignature (bytes : List UInt8) (offset : Nat) (signature : List UInt8) : Bool :=
  signature.isPrefixOf (bytes.drop offset)

def detectSupportedImageMimeType (bytes : List UInt8) : Option String :=
  if matchesSignature bytes 0 pngSignature then some "image/png"
  else if matchesSignature bytes 0 jpegSignature then some "image/jpeg"
  else if matchesSignature bytes 0 gif87aSignature || matchesSignature bytes 0 gif89aSignature then
    some "image/gif"
  else if matchesSignature bytes 0 webpRiffSignature
      && matchesSignature bytes 8 webpBrandSignature then some "image/webp"
  else none

def resolveImageExtension (mimeType : String) : Option String :=
  match mimeType with
  | "image/png" => some "png"
  | "image/jpeg" => some "jpg"
  | "image/webp" => some "webp"
  | "image/gif" => some "gif"
  | _ => none

def defaultUploadExtension := "bin"
def maxUploadExtensionLength : Nat := 16

/-- `Path::extension` of a name without separators: what follows the last dot,
    unless that is the first character. -/
def pathExtension (name : String) : Option String :=
  if name = ".." then none
  else
    let extension := name.toList.reverse.takeWhile (· ≠ '.')
    let stem := name.toList.reverse.drop (extension.length + 1)
    if stem.isEmpty then none else some (String.ofList extension.reverse)

def resolveGenericUploadExtension (originalFilename : String) : String :=
  if originalFilename.toList.any fun c => c == '/' || c == '\\' then defaultUploadExtension
  else match pathExtension originalFilename with
    | none => defaultUploadExtension
    | some extension =>
      let normalized := extension.toList.map Char.toLower
      if normalized.isEmpty || (utf8 (String.ofList normalized)).length > maxUploadExtensionLength
          || !normalized.all Char.isAlphanum then defaultUploadExtension
      else String.ofList normalized

/-- The class of an upload from its first bytes, or why they could not be read. -/
def classifyUploadedFile (declaredMimeType originalFilename : String)
    (signature : Except String (List UInt8)) :
    Except UploadClassificationError UploadedFileClassification :=
  match signature with
  | .error message => .error (.io message)
  | .ok bytes =>
    match detectSupportedImageMimeType bytes with
    | some detected =>
      if (resolveImageExtension declaredMimeType).isSome ∧ detected ≠ declaredMimeType then
        .error (.reset fileUploadResetCodeMimeTypeMismatch
          (s!"uploaded file content is '{detected}', which does not match declared MIME type "
            ++ s!"'{declaredMimeType}'"))
      else .ok { kind := "image", extension := (resolveImageExtension detected).getD "" }
    | none =>
      if (resolveImageExtension declaredMimeType).isSome then
        .error (.reset fileUploadResetCodeInvalidFileType
          "uploaded file is not a supported image")
      else .ok { kind := "file", extension := resolveGenericUploadExtension originalFilename }

/-! ### Handlers -/

variable (context : TunnelSessionLoopContext) (world : World)

/-- The state of an upload and its temporary file, or why there is none. -/
def createFileUploadState (message : FileUploadStreamOpen) : Except String FileUploadState := do
  let channel := message.channel
  assertUploadMetadata channel.threadId channel.mimeType channel.sizeBytes
  let threadDirectoryPath := context.attachmentRoot ++ "/" ++ channel.threadId
  world.createDirectory.mapError fun error =>
    s!"failed to create upload thread directory {threadDirectoryPath}: {error}"
  let attachmentId := s!"att_{world.nowMs}_{world.uploadCounter}"
  let tempPath := s!"{threadDirectoryPath}/.{attachmentId}.part"
  world.createFile.mapError fun error =>
    s!"failed to create temporary upload file {tempPath}: {error}"
  return {
    attachmentId
    threadDirectoryPath
    threadId := channel.threadId
    mimeType := channel.mimeType
    originalFilename := channel.originalFilename
    sizeBytes := channel.sizeBytes
    tempPath
    receivedBytes := 0 }

/-- The upload branch of the control router, after the check for duplicates. -/
def openFileUpload (message : FileUploadStreamOpen) : Session Unit := do
  match createFileUploadState context world message with
  | .error error => throw (.fileUpload error)
  | .ok uploadState =>
    emit (.task (.createFile uploadState.tempPath))
    modify fun st => { st with fileUploads := st.fileUploads.insert message.streamId uploadState }
    writeTunnelText (.streamOpenOk message.streamId)

/-- Drop an upload with its temporary file and reset its stream. -/
def discardFileUpload (streamId : StreamId) (tempPath code reason : String) : Session Unit := do
  modify fun st => { st with fileUploads := st.fileUploads.erase streamId }
  emit (.task (.removeFile tempPath))
  writeTunnelText (.streamReset streamId code reason)

/-- The upload branch of the frame router. -/
def handleFileUploadFrame (frame : StreamDataFrame) : Session Unit := do
  let st ← get
  match st.fileUploads[frame.streamId]? with
  | none => return ()
  | some uploadState =>
    if frame.payloadKind ≠ payloadKindRawBytes then
      discardFileUpload frame.streamId uploadState.tempPath streamResetCodeInvalidStreamData
        "file upload stream only accepts raw byte payloads"
    else
      let receivedBytes := saturatingAdd uploadState.receivedBytes frame.payload.length
      modify fun st => { st with
        fileUploads := st.fileUploads.modify frame.streamId fun uploadState =>
          { uploadState with receivedBytes } }
      if receivedBytes > uploadState.sizeBytes then
        discardFileUpload frame.streamId uploadState.tempPath fileUploadResetCodeByteCountExceeded
          "received more bytes than declared by the upload metadata"
      else match world.writeFile with
        | .error error => throw (.fileUpload error)
        | .ok () =>
          emit (.task (.writeFile uploadState.tempPath frame.payload))
          writeTunnelText (.streamWindow frame.streamId frame.payload.length)

/-- Reset the stream of an upload that failed its checks. -/
def rejectFileUpload (streamId : StreamId) (uploadState : FileUploadState)
    (code message : String) : Session Unit := do
  writeTunnelText (.streamReset streamId code message)
  emit (.task (.removeFile uploadState.tempPath))

def finalizeFileUpload (streamId : StreamId) (uploadState : FileUploadState) : Session Unit := do
  if uploadState.receivedBytes ≠ uploadState.sizeBytes then
    rejectFileUpload streamId uploadState fileUploadResetCodeByteCountMismatch
      "uploaded byte count did not match declared size"
  else match world.syncFile with
    | .error error => throw (.fileUpload error)
    | .ok () =>
      match classifyUploadedFile uploadState.mimeType uploadState.originalFilename
          world.uploadSignature with
      | .error (.io message) =>
          rejectFileUpload streamId uploadState fileUploadResetCodeInvalidFileType message
      | .error (.reset code message) => rejectFileUpload streamId uploadState code message
      | .ok classification =>
        let finalPath := uploadState.threadDirectoryPath ++ "/" ++ uploadState.attachmentId ++ "."
          ++ classification.extension
        match world.renameFile with
        | .error error => throw (.fileUpload error)
        | .ok () =>
          emit (.task (.renameFile uploadState.tempPath finalPath))
          writeTunnelText (.fileUploadCompletedEvent {
            streamId
            kind := classification.kind
            attachmentId := uploadState.attachmentId
            threadId := uploadState.threadId
            originalFilename := uploadState.originalFilename
            mimeType := uploadState.mimeType
            sizeBytes := uploadState.sizeBytes
            path := finalPath })
          writeTunnelText (.streamComplete streamId)

/-! ### Footprints -/

section

variable {scope : Scope}

theorem openFileUpload_footprint {message : FileUploadStreamOpen}
    {st : TunnelSessionMutableState} (h : scope.streams message.streamId)
    (hfree : (st.entries message.streamId).count = 0) :
    FollowsFrom (footprint scope) (openFileUpload context world message) st := by
  unfold openFileUpload
  split
  · exact Follows.throw _ st
  · refine FollowsFrom.bind (task_footprint _ st) fun _ _ => ?_
    refine FollowsFrom.bind (StreamTable.fileUploads.insert_from h hfree _) fun _ _ => ?_
    exact writeTunnelText_on rfl h _

theorem discardFileUpload_footprint {streamId : StreamId} (h : scope.streams streamId)
    (tempPath code reason : String) :
    Follows (footprint scope) (discardFileUpload streamId tempPath code reason) :=
  Follows.bind (StreamTable.fileUploads.erase_footprint h) fun _ =>
    Follows.bind (task_footprint _) fun _ =>
      writeTunnelText_on rfl h

theorem handleFileUploadFrame_footprint {frame : StreamDataFrame}
    (h : scope.streams frame.streamId) :
    Follows (footprint scope) (handleFileUploadFrame world frame) := by
  refine Follows.read fun st => ?_
  split
  · exact Follows.pure _ st
  · split
    · exact discardFileUpload_footprint h _ _ _ st
    · refine Follows.bind (StreamTable.fileUploads.modify_footprint h _) (fun _ => ?_) st
      split
      · exact discardFileUpload_footprint h _ _ _
      split
      · exact Follows.throw _
      · exact Follows.bind (task_footprint _) fun _ =>
          writeTunnelText_on rfl h

theorem rejectFileUpload_footprint {streamId : StreamId} (h : scope.streams streamId)
    (uploadState : FileUploadState) (code message : String) :
    Follows (footprint scope) (rejectFileUpload streamId uploadState code message) :=
  Follows.bind (writeTunnelText_on rfl h)
    fun _ => task_footprint _

theorem finalizeFileUpload_footprint {streamId : StreamId} (h : scope.streams streamId)
    (uploadState : FileUploadState) :
    Follows (footprint scope) (finalizeFileUpload world streamId uploadState) := by
  unfold finalizeFileUpload
  split
  · exact rejectFileUpload_footprint h _ _ _
  split
  · exact Follows.throw _
  split
  · exact rejectFileUpload_footprint h _ _ _
  · exact rejectFileUpload_footprint h _ _ _
  · dsimp only
    split
    · exact Follows.throw _
    · refine Follows.bind (task_footprint _) fun _ => ?_
      refine Follows.bind (writeTunnelText_on rfl h)
        fun _ => ?_
      exact writeTunnelText_on rfl h

end

end Mistle
