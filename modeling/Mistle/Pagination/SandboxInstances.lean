import Mathlib.Data.Prod.Lex
import Mathlib.Data.String.Basic
import Mistle.Lifecycle.Transition
import Mistle.Pagination.Engine

/-!
# Listing Sandbox Instances

The instances of an organization that pass the filters, a page at a time, newest
first. What two instances are told apart by when they were created at one time is
their id, so a creation time and an id together are a key that no two rows share.

The database is a list of rows with what it does to values: it compares timestamps
and, by its collation, ids; it writes a timestamp as text and reads a text as a
timestamp. A cursor carries both as texts, so its timestamp is read back by the
database when the next page is asked for.

## Main definitions

* `InstanceDatabase`: The table and how its values compare.
* `listSandboxInstances`: The service.
* `instances`: The rows that pass the filters, newest first.
* `FollowsNext`: The pages that following the links to the next page gives.
* `Reached`: The pages that following links in any order reaches.

## Theorems

* `exactQuery`: The query of the service is exact over the instances.
* `exists_followsNext`: Following the links to the next page visits the instances.
* `Reached.listedAt`: A page that is reached is a stretch of the instances.
* `listSandboxInstances_exact`: Both, for the service.
-/

namespace Mistle

namespace Pagination

inductive SandboxInstanceStarterKind where
  | user
  | apiKey
  | system
  deriving DecidableEq

inductive SandboxInstanceSource where
  | dashboard
  | webhook
  | schedule
  | system
  deriving DecidableEq

/-- A row of the table, with the columns the listing reads. -/
structure SandboxInstance (Time : Type) where
  id : String
  organizationId : String
  sandboxProfileId : String
  sandboxProfileVersion : Nat
  status : SandboxInstanceStatus
  startedByKind : SandboxInstanceStarterKind
  startedById : String
  source : SandboxInstanceSource
  purpose : SandboxInstancePurpose
  title : Option String
  failureCode : Option String
  failureMessage : Option String
  deletedAt : Option Time
  createdAt : Time
  updatedAt : Time
  deriving DecidableEq

/-- The table, with what the database does to its values. Its ids are those of rows, so
    they are distinct and none is empty. -/
structure InstanceDatabase (Time Collation : Type) where
  rows : List (SandboxInstance Time)
  ids_nodup : (rows.map SandboxInstance.id).Nodup
  ids_nonempty : ∀ row ∈ rows, row.id ≠ ""
  collate : String ↪ Collation
  timestampText : Time → String
  parseTimestamp : String → Option Time
  ilike : String → String → Bool

inductive StartedByScope where
  | self
  | others
  deriving DecidableEq

inductive SourceFilter where
  | dashboard
  | trigger
  | webhook
  | schedule
  deriving DecidableEq

structure ListSandboxInstancesInput where
  organizationId : String
  limit : Option Nat
  startedBy : Option (SandboxInstanceStarterKind × String)
  startedByScope : Option (StartedByScope × String)
  source : Option SourceFilter
  titleSearch : Option String
  matchingSandboxProfileIds : Option (List String)
  matchingStartedByUserIds : Option (List String)
  matchingStartedBySystemIds : Option (List String)
  startedBySystemIds : Option (List String)
  after : Option String
  before : Option String
  deriving DecidableEq

structure SandboxInstancesCursor where
  createdAt : String
  id : String
  deriving DecidableEq

inductive ListError where
  | badRequest (code message : String)
  | pagination (error : KeysetPaginationInputError)
  | database
  deriving DecidableEq

/-! ### Cursors -/

def SandboxInstancesCursor.payload (cursor : SandboxInstancesCursor) : Json String :=
  .obj [("createdAt", .str cursor.createdAt), ("id", .str cursor.id)]

def minOne : Option (Json String) → Option String
  | some (.str s) => if s = "" then none else some s
  | _ => none

/-- An object of the two fields and no other. -/
def SandboxInstancesCursorSchema (payload : Json String) : Option SandboxInstancesCursor :=
  match payload with
  | .obj fields =>
    if fields.all fun field => field.1 = "createdAt" ∨ field.1 = "id" then
      (minOne (payload.get? "createdAt")).bind fun createdAt =>
        (minOne (payload.get? "id")).map fun id => { createdAt, id }
    else none
  | _ => none

theorem cursorSchema_payload {cursor : SandboxInstancesCursor} (hcreatedAt : cursor.createdAt ≠ "")
    (hid : cursor.id ≠ "") : SandboxInstancesCursorSchema cursor.payload = some cursor := by
  show ((if cursor.createdAt = "" then none else some cursor.createdAt).bind fun createdAt =>
    (if cursor.id = "" then none else some cursor.id).map fun id =>
      ({ createdAt, id } : SandboxInstancesCursor)) = _
  rw [if_neg hcreatedAt, if_neg hid]
  rfl

def createInvalidCursorErrorMessage (cursorName : CursorName) :
    KeysetCursorDecodeErrorReason → String
  | .invalidBase64url => s!"`{cursorName.text}` cursor is not valid base64url."
  | .invalidJson => s!"`{cursorName.text}` cursor does not contain valid JSON."
  | .invalidShape => s!"`{cursorName.text}` cursor has an invalid shape."

def decodeCursor (text : CursorText) (cursorName : CursorName) (encodedCursor : String) :
    Except ListError SandboxInstancesCursor :=
  (decodeKeysetCursor text SandboxInstancesCursorSchema encodedCursor).mapError fun reason =>
    .badRequest "INVALID_PAGINATION_CURSOR" (createInvalidCursorErrorMessage cursorName reason)

/-! ### Filters -/

/-- Escape the characters a pattern gives a meaning to. -/
def escapeLikePattern (value : String) : String :=
  ((value.replace "\\" "\\\\").replace "%" "\\%").replace "_" "\\_"

section Query

variable {Time Collation : Type} [LinearOrder Time] [LinearOrder Collation]

abbrev Condition (Time : Type) := SandboxInstance Time → Bool

def combineAnd (conditions : List (Condition Time)) : Condition Time := fun row =>
  conditions.all fun condition => condition row

def combineOr (conditions : List (Condition Time)) : Condition Time := fun row =>
  conditions.any fun condition => condition row

def startedByFilters : Option (SandboxInstanceStarterKind × String) → List (Condition Time)
  | none => []
  | some (kind, id) => [fun row => row.startedByKind = kind, fun row => row.startedById = id]

def startedByScopeFilters : Option (StartedByScope × String) → List (Condition Time)
  | none => []
  | some (.self, userId) =>
    [fun row => row.startedByKind = .user, fun row => row.startedById = userId]
  | some (.others, userId) =>
    [fun row => row.startedByKind = .user, fun row => row.startedById ≠ userId]

def startedBySystemFilters : Option (List String) → List (Condition Time)
  | none => []
  | some ids => [fun row => row.startedByKind = .system, fun row => row.startedById ∈ ids]

def sourceFilters : Option SourceFilter → List (Condition Time)
  | none => []
  | some .dashboard => [fun row => row.source = .dashboard]
  | some .trigger => [fun row => row.source ∈ [SandboxInstanceSource.webhook, .schedule]]
  | some .webhook => [fun row => row.source = .webhook]
  | some .schedule => [fun row => row.source = .schedule]

/-- The filters of a search, of which a row passes one. A row without a title is not found
    by its title. -/
def searchFilters (db : InstanceDatabase Time Collation) (input : ListSandboxInstancesInput) :
    List (Condition Time) :=
  (input.titleSearch.map fun titleSearch row =>
    row.title.any fun title => db.ilike title ("%" ++ escapeLikePattern titleSearch ++ "%")).toList ++
  (input.matchingSandboxProfileIds.map fun ids row => decide (row.sandboxProfileId ∈ ids)).toList ++
  (input.matchingStartedByUserIds.map fun ids =>
    combineAnd [fun row => row.startedByKind = .user, fun row => row.startedById ∈ ids]).toList ++
  (input.matchingStartedBySystemIds.map fun ids =>
    combineAnd [fun row => row.startedByKind = .system, fun row => row.startedById ∈ ids]).toList

/-- The filters of the listing, which the rows and their number are asked for with alike. -/
def filters (db : InstanceDatabase Time Collation) (input : ListSandboxInstancesInput) :
    List (Condition Time) :=
  [fun row : SandboxInstance Time => decide (row.organizationId = input.organizationId),
    fun row => decide (row.purpose = .session), fun row => row.deletedAt.isNone] ++
  startedByFilters input.startedBy ++
  startedByScopeFilters input.startedByScope ++
  startedBySystemFilters input.startedBySystemIds ++
  sourceFilters input.source ++
  (if (searchFilters db input).length > 0 then [combineOr (searchFilters db input)] else [])

/-! ### The query -/

/-- The rows on the far side of a cursor. The database reads the cursor's timestamp. -/
def cursorFilters (db : InstanceDatabase Time Collation) (direction : KeysetPaginationDirection) :
    Option SandboxInstancesCursor → Except ListError (List (Condition Time))
  | none => .ok []
  | some cursor =>
    match db.parseTimestamp cursor.createdAt with
    | none => .error .database
    | some createdAt =>
      match direction with
      | .forward => .ok [combineOr [fun row => row.createdAt < createdAt,
          combineAnd [fun row => row.createdAt = createdAt,
            fun row => db.collate row.id < db.collate cursor.id]]]
      | .backward => .ok [combineOr [fun row => row.createdAt > createdAt,
          combineAnd [fun row => row.createdAt = createdAt,
            fun row => db.collate row.id > db.collate cursor.id]]]

/-- Ascending by creation time and then by id. -/
def ascending (db : InstanceDatabase Time Collation) (a b : SandboxInstance Time) : Prop :=
  a.createdAt < b.createdAt ∨ a.createdAt = b.createdAt ∧ db.collate a.id ≤ db.collate b.id

instance (db : InstanceDatabase Time Collation) : DecidableRel (ascending db) := fun _ _ =>
  inferInstanceAs (Decidable (_ ∨ _ ∧ _))

/-- Descending by creation time and then by id. -/
def descending (db : InstanceDatabase Time Collation) (a b : SandboxInstance Time) : Prop :=
  a.createdAt > b.createdAt ∨ a.createdAt = b.createdAt ∧ db.collate a.id ≥ db.collate b.id

instance decidableDescending (db : InstanceDatabase Time Collation) :
    DecidableRel (descending db) := fun _ _ => inferInstanceAs (Decidable (_ ∨ _ ∧ _))

def orderBy (db : InstanceDatabase Time Collation) (direction : KeysetPaginationDirection)
    (rows : List (SandboxInstance Time)) : List (SandboxInstance Time) :=
  match direction with
  | .backward => rows.insertionSort (ascending db)
  | .forward => rows.insertionSort (descending db)

def fetchPage (db : InstanceDatabase Time Collation) (input : ListSandboxInstancesInput)
    (direction : KeysetPaginationDirection) (cursor : Option SandboxInstancesCursor)
    (limitPlusOne : Nat) : Except ListError (List (SandboxInstance Time)) := do
  let behind ← cursorFilters db direction cursor
  return (orderBy db direction (db.rows.filter (combineAnd (filters db input ++ behind)))).take
    limitPlusOne

def countTotalResults (db : InstanceDatabase Time Collation) (input : ListSandboxInstancesInput) :
    Except ListError Nat :=
  .ok (db.rows.filter (combineAnd (filters db input))).length

/-! ### The service -/

structure ListedInstance where
  id : String
  sandboxProfileId : String
  title : Option String
  sandboxProfileVersion : Nat
  status : SandboxInstanceStatus
  startedBy : SandboxInstanceStarterKind × String
  source : SandboxInstanceSource
  createdAt : String
  updatedAt : String
  failureCode : Option String
  failureMessage : Option String
  deriving DecidableEq

def listedInstance (db : InstanceDatabase Time Collation) (row : SandboxInstance Time) :
    ListedInstance where
  id := row.id
  sandboxProfileId := row.sandboxProfileId
  title := row.title
  sandboxProfileVersion := row.sandboxProfileVersion
  status := row.status
  startedBy := (row.startedByKind, row.startedById)
  source := row.source
  createdAt := db.timestampText row.createdAt
  updatedAt := db.timestampText row.updatedAt
  failureCode := row.failureCode
  failureMessage := row.failureMessage

def pageSize (input : ListSandboxInstancesInput) : Nat :=
  input.limit.getD 20

def paginateInput (db : InstanceDatabase Time Collation) (text : CursorText)
    (input : ListSandboxInstancesInput) :
    PaginateKeysetInput ListError (SandboxInstance Time) SandboxInstancesCursor where
  pageSize := pageSize input
  decodeCursor := decodeCursor text
  encodeCursor cursor := encodeKeysetCursor text cursor.payload
  getCursor item := { createdAt := db.timestampText item.createdAt, id := item.id }
  fetchPage := fetchPage db input
  countTotalResults := countTotalResults db input
  inputError := .pagination

/-- What the service makes of the engine's errors. -/
def serviceError : ListError → ListError
  | .pagination error =>
    if error.reason = "BOTH_CURSORS_PROVIDED" then
      .badRequest "INVALID_LIST_INPUT" "Only one of `after` or `before` can be provided."
    else .pagination error
  | error => error

def listResponse (db : InstanceDatabase Time Collation)
    (response : KeysetPaginatedResult (SandboxInstance Time)) :
    KeysetPaginatedResult ListedInstance where
  totalResults := response.totalResults
  items := response.items.map (listedInstance db)
  nextPage := response.nextPage
  previousPage := response.previousPage

def listSandboxInstances (db : InstanceDatabase Time Collation) (text : CursorText)
    (input : ListSandboxInstancesInput) : Except ListError (KeysetPaginatedResult ListedInstance) :=
  ((paginateKeyset (paginateInput db text input) ⟨input.after, input.before⟩).map
    (listResponse db)).mapError serviceError

/-! ### Following links -/

/-- Ask for the next page as its link says. -/
def withNext (input : ListSandboxInstancesInput) (link : KeysetNextPage) :
    ListSandboxInstancesInput :=
  { input with after := some link.after, before := none, limit := some link.limit }

/-- Ask for the previous page as its link says. -/
def withPrevious (input : ListSandboxInstancesInput) (link : KeysetPreviousPage) :
    ListSandboxInstancesInput :=
  { input with after := none, before := some link.before, limit := some link.limit }

/-- Ask without a cursor. -/
def withoutCursor (input : ListSandboxInstancesInput) : ListSandboxInstancesInput :=
  { input with after := none, before := none }

/-- The pages from a request on, each the one the link of the last leads to, up to the one
    without a link. -/
inductive FollowsNext (db : InstanceDatabase Time Collation) (text : CursorText) :
    ListSandboxInstancesInput → List (KeysetPaginatedResult ListedInstance) → Prop
  | last {input page} (hpage : listSandboxInstances db text input = .ok page)
      (hlast : page.nextPage = none) : FollowsNext db text input [page]
  | next {input page link pages} (hpage : listSandboxInstances db text input = .ok page)
      (hlink : page.nextPage = some link) (hnext : FollowsNext db text (withNext input link) pages) :
      FollowsNext db text input (page :: pages)

/-- The pages that are reached from the first by following links. -/
inductive Reached (db : InstanceDatabase Time Collation) (text : CursorText)
    (input : ListSandboxInstancesInput) : KeysetPaginatedResult ListedInstance → Prop
  | first {page} (hpage : listSandboxInstances db text (withoutCursor input) = .ok page) :
      Reached db text input page
  | next {page link next} (h : Reached db text input page) (hlink : page.nextPage = some link)
      (hpage : listSandboxInstances db text (withNext input link) = .ok next) :
      Reached db text input next
  | previous {page link previous} (h : Reached db text input page)
      (hlink : page.previousPage = some link)
      (hpage : listSandboxInstances db text (withPrevious input link) = .ok previous) :
      Reached db text input previous

/-! ### The query is exact -/

/-- The key of a row: creation time, then id. -/
def rowKey (db : InstanceDatabase Time Collation) (row : SandboxInstance Time) :
    Time ×ₗ Collation :=
  toLex (row.createdAt, db.collate row.id)

/-- The rows that pass the filters, newest first. -/
def instances (db : InstanceDatabase Time Collation) (input : ListSandboxInstancesInput) :
    List (SandboxInstance Time) :=
  (db.rows.filter (combineAnd (filters db input))).insertionSort (descending db)

/-- What the claim about pages takes for granted of the rows' cursors: the database reads a
    timestamp back from its text, and the runtime reads back what it wrote. -/
structure ReadsBack (db : InstanceDatabase Time Collation) (text : CursorText) : Prop where
  timestamp : ∀ row ∈ db.rows,
    db.parseTimestamp (db.timestampText row.createdAt) = some row.createdAt
  timestamp_ne : ∀ row ∈ db.rows, db.timestampText row.createdAt ≠ ""
  base64url : ∀ row ∈ db.rows,
    let payload := SandboxInstancesCursor.payload ⟨db.timestampText row.createdAt, row.id⟩
    text.fromBase64url (text.toBase64url (text.stringify payload)) = text.stringify payload
  json : ∀ row ∈ db.rows,
    let payload := SandboxInstancesCursor.payload ⟨db.timestampText row.createdAt, row.id⟩
    text.parse (text.stringify payload) = some payload

variable {db : InstanceDatabase Time Collation} {text : CursorText}
  {input : ListSandboxInstancesInput} {page : KeysetPaginatedResult ListedInstance}

theorem rowKey_lt (a b : SandboxInstance Time) : rowKey db a < rowKey db b ↔
    a.createdAt < b.createdAt ∨ a.createdAt = b.createdAt ∧ db.collate a.id < db.collate b.id :=
  Prod.Lex.toLex_lt_toLex

theorem rowKey_le (a b : SandboxInstance Time) : rowKey db a ≤ rowKey db b ↔ ascending db a b :=
  Prod.Lex.toLex_le_toLex

theorem descending_iff (a b : SandboxInstance Time) :
    descending db a b ↔ rowKey db b ≤ rowKey db a := by
  rw [rowKey_le, descending, ascending, eq_comm (a := a.createdAt)]

omit [LinearOrder Time] [LinearOrder Collation] in
theorem rowKeys_nodup (db : InstanceDatabase Time Collation) :
    (db.rows.map (rowKey db)).Nodup := by
  have hids : (db.rows.map fun row => db.collate row.id).Nodup := by
    have h := db.ids_nodup.map db.collate.injective
    rwa [List.map_map] at h
  refine List.Nodup.of_map (fun key => (ofLex key).2) ?_
  rw [List.map_map]
  exact hids

omit [LinearOrder Time] [LinearOrder Collation] in
theorem passingKeys_nodup (conditions : List (Condition Time)) :
    ((db.rows.filter (combineAnd conditions)).map (rowKey db)).Nodup :=
  (rowKeys_nodup db).sublist (List.filter_sublist.map _)

theorem mem_instances (row : SandboxInstance Time) : row ∈ instances db input ↔
    row ∈ db.rows ∧ combineAnd (filters db input) row = true := by
  rw [instances, List.mem_insertionSort, List.mem_filter]

theorem descends_instances : Descends (rowKey db) (instances db input) :=
  descends_insertionSort descending_iff (passingKeys_nodup _)

omit [LinearOrder Time] in
theorem filter_combineAnd (conditions : List (Condition Time)) (condition : Condition Time)
    (rows : List (SandboxInstance Time)) :
    rows.filter (combineAnd (conditions ++ [condition])) =
      (rows.filter (combineAnd conditions)).filter condition := by
  rw [List.filter_filter]
  refine List.filter_congr fun row _ => ?_
  rw [combineAnd, List.all_append, List.all_cons, List.all_nil, Bool.and_true, Bool.and_comm]
  rfl

/-- The database reads the cursor of a row, and takes the rows on its far side. -/
theorem cursorFilters_forward (h : ReadsBack db text) {a : SandboxInstance Time}
    (ha : a ∈ db.rows) :
    cursorFilters db .forward (some ⟨db.timestampText a.createdAt, a.id⟩) =
      .ok [fun row => decide (rowKey db row < rowKey db a)] := by
  rw [cursorFilters, h.timestamp a ha]
  refine congrArg (fun condition => Except.ok [condition]) (funext fun row => ?_)
  rw [Bool.eq_iff_iff, decide_eq_true_iff, rowKey_lt]
  simp only [combineOr, combineAnd, List.any_cons, List.any_nil, List.all_cons, List.all_nil,
    Bool.or_false, Bool.and_true, Bool.or_eq_true, Bool.and_eq_true, decide_eq_true_eq]

theorem cursorFilters_backward (h : ReadsBack db text) {a : SandboxInstance Time}
    (ha : a ∈ db.rows) :
    cursorFilters db .backward (some ⟨db.timestampText a.createdAt, a.id⟩) =
      .ok [fun row => decide (rowKey db a < rowKey db row)] := by
  rw [cursorFilters, h.timestamp a ha]
  refine congrArg (fun condition => Except.ok [condition]) (funext fun row => ?_)
  rw [Bool.eq_iff_iff, decide_eq_true_iff, rowKey_lt]
  simp only [combineOr, combineAnd, List.any_cons, List.any_nil, List.all_cons, List.all_nil,
    Bool.or_false, Bool.and_true, Bool.or_eq_true, Bool.and_eq_true, decide_eq_true_eq, gt_iff_lt,
    eq_comm (a := row.createdAt)]

/-- Over rows that do not change the query of the service is exact. -/
theorem exactQuery (h : ReadsBack db text) (input : ListSandboxInstancesInput) :
    ExactQuery (rowKey db) (instances db input) (paginateInput db text input) where
  descends := descends_instances
  decode a ha name := by
    have hrow := ((mem_instances a).mp ha).1
    show decodeCursor text name (encodeKeysetCursor text
      (SandboxInstancesCursor.payload ⟨db.timestampText a.createdAt, a.id⟩)) = .ok _
    rw [decodeCursor, decode_encodeKeysetCursor (h.base64url a hrow) (h.json a hrow)
      (cursorSchema_payload (h.timestamp_ne a hrow) (db.ids_nonempty a hrow))]
    rfl
  head limit := by
    show Except.ok ((orderBy db .forward
      (db.rows.filter (combineAnd (filters db input ++ [])))).take limit) = _
    rw [List.append_nil]
    rfl
  forward a ha limit := by
    have hrow := ((mem_instances a).mp ha).1
    show fetchPage db input .forward (some ⟨db.timestampText a.createdAt, a.id⟩) limit = _
    rw [fetchPage, cursorFilters_forward h hrow]
    show Except.ok ((orderBy db .forward (db.rows.filter (combineAnd (filters db input ++ _)))).take
      limit) = _
    rw [filter_combineAnd, orderBy, insertionSort_filter descending_iff (passingKeys_nodup _)]
    rfl
  backward a ha limit := by
    have hrow := ((mem_instances a).mp ha).1
    show fetchPage db input .backward (some ⟨db.timestampText a.createdAt, a.id⟩) limit = _
    rw [fetchPage, cursorFilters_backward h hrow]
    show Except.ok ((orderBy db .backward
      (db.rows.filter (combineAnd (filters db input ++ _)))).take limit) = _
    -- The rows are sorted the other way around, and the page is turned around again.
    have hkeys : (((db.rows.filter (combineAnd (filters db input))).filter fun row =>
        decide (rowKey db a < rowKey db row)).map (rowKey db)).Nodup :=
      (passingKeys_nodup _).sublist (List.filter_sublist.map _)
    rw [filter_combineAnd, orderBy, insertionSort_reverse descending_iff
      (fun a b => (rowKey_le a b).symm) hkeys,
      insertionSort_filter descending_iff (passingKeys_nodup _)]
    rfl
  count := congrArg Except.ok (List.length_insertionSort _ _).symm

/-! ### Links -/

/-- A page of the service that is a stretch of the instances. -/
def ListedAt (db : InstanceDatabase Time Collation) (text : CursorText)
    (input : ListSandboxInstancesInput) (before : List (SandboxInstance Time))
    (page : KeysetPaginatedResult ListedInstance) (after : List (SandboxInstance Time)) : Prop :=
  ∃ response, page = listResponse db response ∧
    PageAt (instances db input) (paginateInput db text input) before response after

theorem listSandboxInstances_ok {response : KeysetPaginatedResult (SandboxInstance Time)}
    (h : paginateKeyset (paginateInput db text input) ⟨input.after, input.before⟩ =
      .ok response) : listSandboxInstances db text input = .ok (listResponse db response) := by
  rw [listSandboxInstances, h]
  rfl

/-- A link asks for a page of the size it was made for, of the same instances. -/
theorem paginateInput_withNext {link : KeysetNextPage} (hlimit : link.limit = pageSize input) :
    paginateInput db text (withNext input link) = paginateInput db text input := by
  rw [paginateInput, paginateInput, ← hlimit]
  rfl

theorem paginateInput_withPrevious {link : KeysetPreviousPage}
    (hlimit : link.limit = pageSize input) :
    paginateInput db text (withPrevious input link) = paginateInput db text input := by
  rw [paginateInput, paginateInput, ← hlimit]
  rfl

theorem first_listedAt (h : ReadsBack db text) (hsize : 1 ≤ pageSize input) :
    ∃ page, listSandboxInstances db text (withoutCursor input) = .ok page ∧
      ListedAt db text input [] page ((instances db input).drop (pageSize input)) := by
  rcases paginateKeyset_first (exactQuery h input) hsize with ⟨response, hresponse, hat⟩
  exact ⟨_, @listSandboxInstances_ok _ _ _ _ _ _ (withoutCursor input) _ hresponse, response, rfl, hat⟩

section Stretch

variable {before after : List (SandboxInstance Time)}

theorem ListedAt.next_listedAt (hat : ListedAt db text input before page after)
    (h : ReadsBack db text) (hsize : 1 ≤ pageSize input) {link : KeysetNextPage}
    (hlink : page.nextPage = some link) :
    ∃ here next, listSandboxInstances db text (withNext input link) = .ok next ∧
      next.items = (after.take (pageSize input)).map (listedInstance db) ∧
      ListedAt db text input (before ++ here) next (after.drop (pageSize input)) := by
  rcases hat with ⟨response, rfl, hat⟩
  rcases paginateKeyset_next (exactQuery h input) hsize hat hlink with
    ⟨hlimit, next, hnext, hitems, hat'⟩
  rw [← paginateInput_withNext hlimit] at hnext
  exact ⟨_, _, @listSandboxInstances_ok _ _ _ _ _ _ (withNext input link) _ hnext,
    congrArg (List.map (listedInstance db)) hitems, next, rfl, hat'⟩

theorem ListedAt.previous_listedAt (hat : ListedAt db text input before page after)
    (h : ReadsBack db text) (hsize : 1 ≤ pageSize input) {link : KeysetPreviousPage}
    (hlink : page.previousPage = some link) :
    ∃ previous rest, listSandboxInstances db text (withPrevious input link) = .ok previous ∧
      previous.items =
        (before.drop (before.length - pageSize input)).map (listedInstance db) ∧
      ListedAt db text input (before.take (before.length - pageSize input)) previous rest := by
  rcases hat with ⟨response, rfl, hat⟩
  rcases paginateKeyset_previous (exactQuery h input) hsize hat hlink with
    ⟨hlimit, previous, hprevious, hitems, hat'⟩
  rw [← paginateInput_withPrevious hlimit] at hprevious
  exact ⟨_, _, @listSandboxInstances_ok _ _ _ _ _ _ (withPrevious input link) _ hprevious,
    congrArg (List.map (listedInstance db)) hitems, previous, rfl, hat'⟩

/-- The items of a page and its links, by where it is. -/
theorem ListedAt.split (hat : ListedAt db text input before page after) :
    ∃ here, instances db input = before ++ (here ++ after) ∧
      page.items = here.map (listedInstance db) ∧ (here = [] → instances db input = []) ∧
      (page.nextPage = none ↔ after = []) ∧ (page.previousPage = none ↔ before = []) := by
  rcases hat with ⟨response, rfl, hat⟩
  refine ⟨response.items, hat.split, rfl, hat.nonempty, ?_, ?_⟩
  · refine (Iff.of_eq (congrArg (· = none) hat.next)).trans ⟨fun hnone => ?_, fun hnil => ?_⟩
    · -- A page without items is the only one of a list without items.
      by_contra hne
      rw [if_neg hne, Option.map_eq_none_iff, List.getLast?_eq_none_iff] at hnone
      have hsplit := hat.split
      rw [hat.nonempty hnone, hnone] at hsplit
      exact hne (List.append_eq_nil_iff.mp hsplit.symm).2
    · rw [if_pos hnil]
  · refine (Iff.of_eq (congrArg (· = none) hat.previous)).trans ⟨fun hnone => ?_, fun hnil => ?_⟩
    · by_contra hne
      rw [if_neg hne, Option.map_eq_none_iff, List.head?_eq_none_iff] at hnone
      have hsplit := hat.split
      rw [hat.nonempty hnone, hnone] at hsplit
      exact hne (List.append_eq_nil_iff.mp hsplit.symm).1
    · rw [if_pos hnil]

end Stretch

/-- What is behind a page is visited from it on. -/
theorem exists_followsNext_of_listedAt (h : ReadsBack db text) (hsize : 1 ≤ pageSize input) :
    ∀ (length : Nat) {request : ListSandboxInstancesInput}
      {before after : List (SandboxInstance Time)} {page : KeysetPaginatedResult ListedInstance},
      after.length ≤ length → listSandboxInstances db text request = .ok page →
      ListedAt db text input before page after →
      (∀ link, withNext request link = withNext input link) →
      ∃ pages, FollowsNext db text request (page :: pages) ∧
        pages.flatMap KeysetPaginatedResult.items = after.map (listedInstance db) := by
  intro length
  induction length with
  | zero =>
    intro request before after page hlength hpage hat _
    have hnil : after = [] := List.eq_nil_of_length_eq_zero (Nat.le_zero.mp hlength)
    rcases hat.split with ⟨_, _, _, _, hnext, _⟩
    refine ⟨[], .last hpage (hnext.mpr hnil), ?_⟩
    rw [hnil]
    rfl
  | succ length ih =>
    intro request before after page hlength hpage hat hrequest
    rcases hat.split with ⟨_, _, _, _, hnext, _⟩
    cases hlink : page.nextPage with
    | none =>
      refine ⟨[], .last hpage hlink, ?_⟩
      rw [hnext.mp hlink]
      rfl
    | some link =>
      rcases hat.next_listedAt h hsize hlink with ⟨here, next, hlist, hitems, hat'⟩
      -- The page that follows takes at least one instance away.
      have hshorter : (after.drop (pageSize input)).length ≤ length := by
        rw [List.length_drop]
        omega
      rw [← hrequest] at hlist
      rcases ih hshorter hlist hat' fun link' => hrequest link' with ⟨pages, hpages, hflat⟩
      refine ⟨next :: pages, .next hpage hlink hpages, ?_⟩
      rw [List.flatMap_cons, hitems, hflat, ← List.map_append, List.take_append_drop]

/-- From a request on there is one way to follow the links to the next page. -/
theorem FollowsNext.unique {request : ListSandboxInstancesInput}
    {pages pages' : List (KeysetPaginatedResult ListedInstance)}
    (hpages : FollowsNext db text request pages) (hpages' : FollowsNext db text request pages') :
    pages = pages' := by
  induction hpages generalizing pages' with
  | last hpage hlast =>
    cases hpages' with
    | last hpage' _ => rw [Except.ok.inj (hpage.symm.trans hpage')]
    | next hpage' hlink' _ =>
      rw [Except.ok.inj (hpage.symm.trans hpage'), hlink'] at hlast
      exact absurd hlast nofun
  | next hpage hlink _ ih =>
    cases hpages' with
    | last hpage' hlast' =>
      rw [Except.ok.inj (hpage.symm.trans hpage'), hlast'] at hlink
      exact absurd hlink nofun
    | next hpage' hlink' hnext' =>
      rw [Except.ok.inj (hpage.symm.trans hpage')] at hlink ⊢
      rw [hlink] at hlink'
      injection hlink' with hlink'
      rw [ih (hlink' ▸ hnext')]

/-- The pages that following the links to the next page gives, from no cursor on. -/
theorem exists_followsNext (h : ReadsBack db text) (hsize : 1 ≤ pageSize input) :
    ∃ pages, FollowsNext db text (withoutCursor input) pages ∧
      pages.flatMap KeysetPaginatedResult.items =
        (instances db input).map (listedInstance db) := by
  rcases first_listedAt h hsize with ⟨page, hpage, hat⟩
  rcases exists_followsNext_of_listedAt h hsize _ le_rfl hpage hat fun _ => rfl with
    ⟨pages, hpages, hflat⟩
  rcases hat.split with ⟨here, hsplit, hitems, _, _, _⟩
  refine ⟨_, hpages, ?_⟩
  rw [List.flatMap_cons, hitems, hflat, ← List.map_append]
  exact congrArg (List.map (listedInstance db)) hsplit.symm

/-- A page that is reached is a stretch of the instances, whichever links led to it. -/
theorem Reached.listedAt (h : ReadsBack db text) (hsize : 1 ≤ pageSize input)
    (hreached : Reached db text input page) :
    ∃ before after, ListedAt db text input before page after := by
  induction hreached with
  | first hpage =>
    rcases first_listedAt h hsize with ⟨page', hpage', hat⟩
    rw [Except.ok.inj (hpage.symm.trans hpage')]
    exact ⟨_, _, hat⟩
  | next _ hlink hpage ih =>
    rcases ih with ⟨before, after, hat⟩
    rcases hat.next_listedAt h hsize hlink with ⟨here, next', hpage', _, hat'⟩
    rw [Except.ok.inj (hpage.symm.trans hpage')]
    exact ⟨_, _, hat'⟩
  | previous _ hlink hpage ih =>
    rcases ih with ⟨before, after, hat⟩
    rcases hat.previous_listedAt h hsize hlink with ⟨previous', rest, hpage', _, hat'⟩
    rw [Except.ok.inj (hpage.symm.trans hpage')]
    exact ⟨_, _, hat'⟩

/-- Over rows that do not change, following the links to the next page visits every
    instance that passes the filters once, newest first, and ends. On every page that is
    reached a link leads to the instances next to it on its side, and is absent exactly if
    there are none. -/
theorem listSandboxInstances_exact (db : InstanceDatabase Time Collation) (text : CursorText)
    (input : ListSandboxInstancesInput) (h : ReadsBack db text) (hsize : 1 ≤ pageSize input) :
    (Descends (rowKey db) (instances db input) ∧ (instances db input).Nodup ∧
      ∀ row, row ∈ instances db input ↔
        row ∈ db.rows ∧ combineAnd (filters db input) row = true) ∧
    (∃ pages, FollowsNext db text (withoutCursor input) pages) ∧
    (∀ pages, FollowsNext db text (withoutCursor input) pages →
      pages.flatMap KeysetPaginatedResult.items =
        (instances db input).map (listedInstance db)) ∧
    ∀ page, Reached db text input page → ∃ before here after,
      instances db input = before ++ (here ++ after) ∧
      page.items = here.map (listedInstance db) ∧ (here = [] → instances db input = []) ∧
      (page.nextPage = none ↔ after = []) ∧
      (∀ link, page.nextPage = some link → ∃ next,
        listSandboxInstances db text (withNext input link) = .ok next ∧
        next.items = (after.take (pageSize input)).map (listedInstance db)) ∧
      (page.previousPage = none ↔ before = []) ∧
      ∀ link, page.previousPage = some link → ∃ previous,
        listSandboxInstances db text (withPrevious input link) = .ok previous ∧
        previous.items =
          (before.drop (before.length - pageSize input)).map (listedInstance db) := by
  rcases exists_followsNext h hsize with ⟨visited, hvisited, hflat⟩
  refine ⟨⟨descends_instances, descends_instances.nodup, mem_instances⟩, ⟨visited, hvisited⟩,
    fun pages hpages => ?_, fun page hreached => ?_⟩
  · rw [hpages.unique hvisited]
    exact hflat
  · rcases hreached.listedAt h hsize with ⟨before, after, hat⟩
    rcases hat.split with ⟨here, hsplit, hitems, hempty, hnext, hprevious⟩
    refine ⟨before, here, after, hsplit, hitems, hempty, hnext, fun link hlink => ?_, hprevious,
      fun link hlink => ?_⟩
    · rcases hat.next_listedAt h hsize hlink with ⟨_, next, hpage, hitems, _⟩
      exact ⟨next, hpage, hitems⟩
    · rcases hat.previous_listedAt h hsize hlink with ⟨previous, _, hpage, hitems, _⟩
      exact ⟨previous, hpage, hitems⟩

end Query

/-! ### Two instances of one time -/

def twin (id : String) : SandboxInstance Nat where
  id := id
  organizationId := "org"
  sandboxProfileId := "sbp"
  sandboxProfileVersion := 1
  status := .running
  startedByKind := .user
  startedById := "usr"
  source := .dashboard
  purpose := .session
  title := none
  failureCode := none
  failureMessage := none
  deletedAt := none
  createdAt := 0
  updatedAt := 0

def twins : InstanceDatabase Nat String where
  rows := [twin "sbi_a", twin "sbi_b"]
  ids_nodup := by decide
  ids_nonempty := by decide
  collate := Function.Embedding.refl String
  timestampText _ := "2026-01-01 00:00:00+00"
  parseTimestamp s := if s = "2026-01-01 00:00:00+00" then some 0 else none
  ilike _ _ := false

def twinPayload (id : String) : Json String :=
  SandboxInstancesCursor.payload ⟨"2026-01-01 00:00:00+00", id⟩

def twinText (id : String) : String :=
  "\x7b\"createdAt\":\"2026-01-01 00:00:00+00\",\"id\":\"" ++ id ++ "\"\x7d"

def twinsText : CursorText where
  stringify payload := if payload = twinPayload "sbi_a" then twinText "sbi_a"
    else if payload = twinPayload "sbi_b" then twinText "sbi_b" else ""
  parse s := if s = twinText "sbi_a" then some (twinPayload "sbi_a")
    else if s = twinText "sbi_b" then some (twinPayload "sbi_b") else none
  toBase64url s :=
    if s = twinText "sbi_a" then
      "eyJjcmVhdGVkQXQiOiIyMDI2LTAxLTAxIDAwOjAwOjAwKzAwIiwiaWQiOiJzYmlfYSJ9"
    else if s = twinText "sbi_b" then
      "eyJjcmVhdGVkQXQiOiIyMDI2LTAxLTAxIDAwOjAwOjAwKzAwIiwiaWQiOiJzYmlfYiJ9"
    else ""
  fromBase64url s :=
    if s = "eyJjcmVhdGVkQXQiOiIyMDI2LTAxLTAxIDAwOjAwOjAwKzAwIiwiaWQiOiJzYmlfYSJ9" then
      twinText "sbi_a"
    else if s = "eyJjcmVhdGVkQXQiOiIyMDI2LTAxLTAxIDAwOjAwOjAwKzAwIiwiaWQiOiJzYmlfYiJ9" then
      twinText "sbi_b"
    else ""

theorem twins_readsBack : ReadsBack twins twinsText where
  timestamp := by decide +kernel
  timestamp_ne := by decide +kernel
  base64url := by decide +kernel
  json := by decide +kernel

def twinsInput : ListSandboxInstancesInput where
  organizationId := "org"
  limit := some 1
  startedBy := none
  startedByScope := none
  source := none
  titleSearch := none
  matchingSandboxProfileIds := none
  matchingStartedByUserIds := none
  matchingStartedBySystemIds := none
  startedBySystemIds := none
  after := none
  before := none

theorem listSandboxInstances_exact_twins :
    ∃ pages, FollowsNext twins twinsText (withoutCursor twinsInput) pages ∧
      (pages.flatMap KeysetPaginatedResult.items).map ListedInstance.id = ["sbi_b", "sbi_a"] := by
  rcases listSandboxInstances_exact twins twinsText twinsInput twins_readsBack (by decide) with
    ⟨_, ⟨pages, hpages⟩, hflat, _⟩
  refine ⟨pages, hpages, ?_⟩
  rw [hflat pages hpages]
  decide +kernel

end Pagination

end Mistle
