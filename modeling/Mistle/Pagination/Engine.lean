import Mistle.Lib.Json
import Mistle.Lib.Keyset

/-!
# Keyset Pagination

A page of a query is asked for with the cursor of an item: the items behind it, or
those before it. The engine asks the query for one row more than the page has room
for, and tells from that row whether there is another page in the direction it goes.
In the other direction it does not look: it takes the item it came from to be there.

A query is exact over a list that descends by a key if it gives the head of the list
without a cursor, and what is behind or before an item with its cursor, the nearest
first. Over such a query a page is a stretch of the list, its links are there exactly
if the list goes on, and each leads to the stretch next to it.

## Main definitions

* `encodeKeysetCursor`, `decodeKeysetCursor`: Cursors as texts.
* `paginateKeyset`: The engine.
* `ExactQuery`: A query that is exact over a list.
* `PageAt`: A page that is a stretch of a list.

## Theorems

* `decode_encodeKeysetCursor`: A cursor that was written is read back.
* `paginateKeyset_first`: The first page.
* `paginateKeyset_next`, `paginateKeyset_previous`: Where the links of a page lead.
-/

namespace Mistle

namespace Pagination

inductive KeysetPaginationDirection where
  | forward
  | backward
  deriving DecidableEq

inductive CursorName where
  | after
  | before
  deriving DecidableEq

def CursorName.text : CursorName → String
  | .after => "after"
  | .before => "before"

structure KeysetPaginationInputError where
  reason : String
  message : String
  deriving DecidableEq

inductive KeysetCursorDecodeErrorReason where
  | invalidBase64url
  | invalidJson
  | invalidShape
  deriving DecidableEq

/-! ### Cursors -/

/-- What the runtime does with texts: `JSON.stringify` and `JSON.parse`, and the base64url
    of a text's UTF-8 bytes, which every text has and which reads every text. -/
structure CursorText where
  stringify : Json String → String
  parse : String → Option (Json String)
  toBase64url : String → String
  fromBase64url : String → String

def encodeKeysetCursor (text : CursorText) (cursor : Json String) : String :=
  text.toBase64url (text.stringify cursor)

def decodeKeysetCursor {TCursor : Type} (text : CursorText) (schema : Json String → Option TCursor)
    (encodedCursor : String) : Except KeysetCursorDecodeErrorReason TCursor :=
  match text.parse (text.fromBase64url encodedCursor) with
  | none => .error .invalidJson
  | some payload =>
    match schema payload with
    | none => .error .invalidShape
    | some cursor => .ok cursor

theorem decode_encodeKeysetCursor {TCursor : Type} {text : CursorText}
    {schema : Json String → Option TCursor} {payload : Json String} {cursor : TCursor}
    (hbase64url : text.fromBase64url (text.toBase64url (text.stringify payload)) =
      text.stringify payload)
    (hjson : text.parse (text.stringify payload) = some payload)
    (hschema : schema payload = some cursor) :
    decodeKeysetCursor text schema (encodeKeysetCursor text payload) = .ok cursor := by
  rw [decodeKeysetCursor, encodeKeysetCursor, hbase64url, hjson]
  dsimp only
  rw [hschema]

/-! ### The engine -/

structure KeysetNextPage where
  after : String
  limit : Nat
  deriving DecidableEq

structure KeysetPreviousPage where
  before : String
  limit : Nat
  deriving DecidableEq

structure KeysetPaginatedResult (TItem : Type) where
  totalResults : Nat
  items : List TItem
  nextPage : Option KeysetNextPage
  previousPage : Option KeysetPreviousPage

/-- The cursors of a query. -/
structure KeysetPaginationQuery where
  after : Option String
  before : Option String
  deriving DecidableEq

/-- The input of the engine, besides the query. -/
structure PaginateKeysetInput (ε TItem TCursor : Type) where
  pageSize : Nat
  decodeCursor : CursorName → String → Except ε TCursor
  encodeCursor : TCursor → String
  getCursor : TItem → TCursor
  fetchPage : KeysetPaginationDirection → Option TCursor → Nat → Except ε (List TItem)
  countTotalResults : Except ε Nat
  inputError : KeysetPaginationInputError → ε

variable {ε TItem TCursor : Type}

/-- Decode a cursor if there is one. -/
def decodeOptional (input : PaginateKeysetInput ε TItem TCursor) (cursorName : CursorName) :
    Option String → Except ε (Option TCursor)
  | none => .ok none
  | some encodedCursor => (input.decodeCursor cursorName encodedCursor).map some

/-- The page of items in the order of the list, with the links it gets. -/
def pageOfItems (input : PaginateKeysetInput ε TItem TCursor)
    (direction : KeysetPaginationDirection) (afterGiven hasExtraRow : Bool) (totalResults : Nat)
    (items : List TItem) : KeysetPaginatedResult TItem :=
  match items.head?, items.getLast? with
  | some firstItem, some lastItem =>
    { totalResults
      items
      nextPage :=
        if direction = .backward ∨ hasExtraRow = true then
          some { after := input.encodeCursor (input.getCursor lastItem), limit := input.pageSize }
        else none
      previousPage :=
        if direction = .forward ∧ afterGiven = true then
          some { before := input.encodeCursor (input.getCursor firstItem), limit := input.pageSize }
        else if direction = .backward ∧ hasExtraRow = true then
          some { before := input.encodeCursor (input.getCursor firstItem), limit := input.pageSize }
        else none }
  | _, _ => { totalResults, items, nextPage := none, previousPage := none }

/-- The page of the rows that were fetched. -/
def pageOfRows (input : PaginateKeysetInput ε TItem TCursor)
    (direction : KeysetPaginationDirection) (afterGiven : Bool) (totalResults : Nat)
    (rows : List TItem) : KeysetPaginatedResult TItem :=
  let hasExtraRow := decide (rows.length > input.pageSize)
  let pagedRows := if hasExtraRow = true then rows.take input.pageSize else rows
  pageOfItems input direction afterGiven hasExtraRow totalResults
    (if direction = .backward then pagedRows.reverse else pagedRows)

def paginateKeyset (input : PaginateKeysetInput ε TItem TCursor) (query : KeysetPaginationQuery) :
    Except ε (KeysetPaginatedResult TItem) :=
  if query.after.isSome ∧ query.before.isSome then
    .error (input.inputError
      ⟨"BOTH_CURSORS_PROVIDED", "Only one of `after` or `before` can be provided."⟩)
  else do
    let afterCursor ← decodeOptional input .after query.after
    let beforeCursor ← decodeOptional input .before query.before
    let direction := if beforeCursor.isNone then .forward else .backward
    let rows ← input.fetchPage direction (beforeCursor.or afterCursor) (input.pageSize + 1)
    let totalResults ← input.countTotalResults
    return pageOfRows input direction afterCursor.isSome totalResults rows

/-! ### Exact queries -/

variable {κ : Type} [LinearOrder κ] {key : TItem → κ} {items : List TItem}
  {input : PaginateKeysetInput ε TItem TCursor}

/-- A query is exact over a list: it gives what follows or precedes an item, the nearest
    first, and the cursors of the items are read back. -/
structure ExactQuery (key : TItem → κ) (items : List TItem)
    (input : PaginateKeysetInput ε TItem TCursor) : Prop where
  descends : Descends key items
  decode : ∀ a ∈ items, ∀ name,
    input.decodeCursor name (input.encodeCursor (input.getCursor a)) = .ok (input.getCursor a)
  head : ∀ limit, input.fetchPage .forward none limit = .ok (items.take limit)
  forward : ∀ a ∈ items, ∀ limit, input.fetchPage .forward (some (input.getCursor a)) limit =
    .ok ((items.filter fun b => key b < key a).take limit)
  backward : ∀ a ∈ items, ∀ limit, input.fetchPage .backward (some (input.getCursor a)) limit =
    .ok ((items.filter fun b => key a < key b).reverse.take limit)
  count : input.countTotalResults = .ok items.length

/-- A page is the stretch of a list between two others. Its links are there exactly if
    there is something beyond them. -/
structure PageAt (items : List TItem) (input : PaginateKeysetInput ε TItem TCursor)
    (before : List TItem) (page : KeysetPaginatedResult TItem) (after : List TItem) : Prop where
  split : items = before ++ (page.items ++ after)
  nonempty : page.items = [] → items = []
  total : page.totalResults = items.length
  next : page.nextPage = if after = [] then none else page.items.getLast?.map fun last =>
    { after := input.encodeCursor (input.getCursor last), limit := input.pageSize }
  previous : page.previousPage = if before = [] then none else page.items.head?.map fun first =>
    { before := input.encodeCursor (input.getCursor first), limit := input.pageSize }

/-- The rows of one more than a page are the page's, and say whether there are more. -/
theorem pageOfRows_take (direction : KeysetPaginationDirection) (afterGiven : Bool) (total : Nat)
    (rows : List TItem) :
    pageOfRows input direction afterGiven total (rows.take (input.pageSize + 1)) =
      pageOfItems input direction afterGiven (decide (rows.drop input.pageSize ≠ [])) total
        (if direction = .backward then (rows.take input.pageSize).reverse
          else rows.take input.pageSize) := by
  have hextra : (rows.take (input.pageSize + 1)).length > input.pageSize ↔
      rows.drop input.pageSize ≠ [] := by
    rw [List.length_take, Ne, List.drop_eq_nil_iff]
    omega
  have hpaged : (if decide ((rows.take (input.pageSize + 1)).length > input.pageSize) = true
      then (rows.take (input.pageSize + 1)).take input.pageSize
      else rows.take (input.pageSize + 1)) = rows.take input.pageSize := by
    by_cases h : (rows.take (input.pageSize + 1)).length > input.pageSize
    · rw [if_pos (decide_eq_true h), List.take_take, Nat.min_eq_left (Nat.le_succ _)]
    · -- There are no more rows than the page has room for.
      have hlength : rows.length ≤ input.pageSize := by
        rw [List.length_take] at h
        omega
      rw [if_neg (by rwa [decide_eq_true_iff]), List.take_of_length_le hlength,
        List.take_of_length_le (Nat.le_succ_of_le hlength)]
  rw [pageOfRows, hpaged]
  simp only [hextra]

theorem pageOfItems_nil (direction : KeysetPaginationDirection) (afterGiven extra : Bool)
    (total : Nat) : pageOfItems input direction afterGiven extra total [] = ⟨total, [], none, none⟩ :=
  rfl

/-- The links of a page with items, where the direction it was fetched in tells whether
    there is something before and behind it. -/
theorem pageAt_pageOfItems {direction : KeysetPaginationDirection} {afterGiven extra : Bool}
    {before middle after : List TItem} (hsplit : items = before ++ (middle ++ after))
    (hmiddle : middle ≠ [])
    (hafter : (direction = .backward ∨ extra = true) ↔ after ≠ [])
    (hbefore : (direction = .forward ∧ afterGiven = true ∨ direction = .backward ∧ extra = true) ↔
      before ≠ []) :
    (pageOfItems input direction afterGiven extra items.length middle).items = middle ∧
      PageAt items input before
        (pageOfItems input direction afterGiven extra items.length middle) after := by
  rcases List.exists_cons_of_ne_nil hmiddle with ⟨first, rest, hfirst⟩
  have hhead : middle.head? = some first := by
    rw [hfirst, List.head?_cons]
  have hlast : middle.getLast? = some (middle.getLast hmiddle) := List.getLast?_eq_some_getLast hmiddle
  have hpage : pageOfItems input direction afterGiven extra items.length middle =
      { totalResults := items.length
        items := middle
        nextPage := if after = [] then none else middle.getLast?.map fun last =>
          { after := input.encodeCursor (input.getCursor last), limit := input.pageSize }
        previousPage := if before = [] then none else middle.head?.map fun first =>
          { before := input.encodeCursor (input.getCursor first), limit := input.pageSize } } := by
    rw [pageOfItems, hhead, hlast]
    dsimp only [Option.map_some]
    congr 1
    · by_cases hnil : after = []
      · rw [if_pos hnil, if_neg fun h => hafter.mp h hnil]
      · rw [if_neg hnil, if_pos (hafter.mpr hnil)]
    · by_cases hnil : before = []
      · rw [if_pos hnil, if_neg fun h => hbefore.mp (.inl h) hnil,
          if_neg fun h => hbefore.mp (.inr h) hnil]
      · rw [if_neg hnil]
        rcases hbefore.mpr hnil with hgiven | hextra
        · rw [if_pos hgiven]
        · rw [if_pos hextra, ite_self]
  rw [hpage]
  exact ⟨rfl, hsplit, fun hnil => absurd hnil hmiddle, rfl, rfl, rfl⟩

/-- A page of rows that go forward. -/
theorem pageOfRows_forward {before after : List TItem} {afterGiven : Bool}
    (hsplit : items = before ++ after) (hnonempty : after = [] → items = [])
    (hgiven : afterGiven = true ↔ before ≠ []) (hsize : 1 ≤ input.pageSize) :
    ∃ page, pageOfRows input .forward afterGiven items.length (after.take (input.pageSize + 1)) =
        page ∧ page.items = after.take input.pageSize ∧
      PageAt items input before page (after.drop input.pageSize) := by
  rw [pageOfRows_take, if_neg nofun]
  refine ⟨_, rfl, ?_⟩
  by_cases hafter : after = []
  · -- Only a list without items has a page without items.
    have hitems := hnonempty hafter
    have hbefore : before = [] := (List.append_eq_nil_iff.mp (hsplit.symm.trans hitems)).1
    rw [hafter, List.take_nil, pageOfItems_nil]
    refine ⟨rfl, ?_, fun _ => hitems, rfl, ?_, ?_⟩
    · rw [hsplit, hafter, List.drop_nil, List.nil_append]
    · rw [if_pos List.drop_nil]
    · rw [if_pos hbefore]
  · have hmiddle : after.take input.pageSize ≠ [] := by
      rw [Ne, List.take_eq_nil_iff]
      rintro (hzero | hnil)
      · omega
      · exact hafter hnil
    refine pageAt_pageOfItems ?_ hmiddle ?_ ?_
    · rw [List.take_append_drop]
      exact hsplit
    · rw [decide_eq_true_iff]
      exact ⟨fun h => h.resolve_left nofun, .inr⟩
    · exact ⟨fun h => hgiven.mp (h.resolve_right fun h => nomatch h.1).2,
        fun h => .inl ⟨rfl, hgiven.mpr h⟩⟩

/-- A page of rows that go backward. -/
theorem pageOfRows_backward {before after : List TItem} {afterGiven : Bool}
    (hsplit : items = before ++ after) (hbefore : before ≠ []) (hafter : after ≠ [])
    (hsize : 1 ≤ input.pageSize) :
    ∃ page, pageOfRows input .backward afterGiven items.length
        (before.reverse.take (input.pageSize + 1)) = page ∧
      page.items = before.drop (before.length - input.pageSize) ∧
      PageAt items input (before.take (before.length - input.pageSize)) page after := by
  have hitems : (before.reverse.take input.pageSize).reverse =
      before.drop (before.length - input.pageSize) := by
    rw [List.take_reverse, List.reverse_reverse]
  have hextra : before.reverse.drop input.pageSize ≠ [] ↔
      before.take (before.length - input.pageSize) ≠ [] := by
    rw [List.drop_reverse, Ne, List.reverse_eq_nil_iff]
  have hmiddle : before.drop (before.length - input.pageSize) ≠ [] := by
    have hpos := List.length_pos_iff.mpr hbefore
    rw [Ne, List.drop_eq_nil_iff]
    omega
  rw [pageOfRows_take, if_pos rfl, hitems]
  refine ⟨_, rfl, pageAt_pageOfItems ?_ hmiddle ?_ ?_⟩
  · rw [← List.append_assoc, List.take_append_drop]
    exact hsplit
  · exact iff_of_true (.inl rfl) hafter
  · rw [decide_eq_true_iff, ← hextra]
    exact ⟨fun h => (h.resolve_left fun h => nomatch h.1).2, fun h => .inr ⟨rfl, h⟩⟩

/-- The first page of an exact query. -/
theorem paginateKeyset_first (h : ExactQuery key items input) (hsize : 1 ≤ input.pageSize) :
    ∃ page, paginateKeyset input ⟨none, none⟩ = .ok page ∧
      PageAt items input [] page (items.drop input.pageSize) := by
  have hgiven : false = true ↔ ([] : List TItem) ≠ [] := by
    simp only [Bool.false_eq_true, ne_eq, not_true_eq_false]
  have hsplit : items = [] ++ items := rfl
  rcases pageOfRows_forward hsplit id hgiven hsize with ⟨page, hpage, _, hat⟩
  refine ⟨page, ?_, hat⟩
  show (do
    let rows ← input.fetchPage .forward none (input.pageSize + 1)
    let totalResults ← input.countTotalResults
    return pageOfRows input .forward false totalResults rows) = _
  rw [h.head, h.count]
  exact congrArg Except.ok hpage

/-- The link to the next page leads to the stretch behind the page. -/
theorem paginateKeyset_next (h : ExactQuery key items input) (hsize : 1 ≤ input.pageSize)
    {before after : List TItem} {page : KeysetPaginatedResult TItem}
    (hpage : PageAt items input before page after) {link : KeysetNextPage}
    (hlink : page.nextPage = some link) :
    link.limit = input.pageSize ∧ ∃ next, paginateKeyset input ⟨some link.after, none⟩ = .ok next ∧
      next.items = after.take input.pageSize ∧
      PageAt items input (before ++ page.items) next (after.drop input.pageSize) := by
  have hafter : after ≠ [] := by
    intro hnil
    rw [hpage.next, if_pos hnil] at hlink
    exact absurd hlink (by simp only [reduceCtorEq, not_false_eq_true])
  rw [hpage.next, if_neg hafter] at hlink
  rcases Option.map_eq_some_iff.mp hlink with ⟨last, hlast, hlinkEq⟩
  rcases List.getLast?_eq_some_iff.mp hlast with ⟨init, hinit⟩
  have hsplit : items = before ++ init ++ last :: after := by
    rw [hpage.split, hinit, List.append_assoc, List.append_assoc, List.singleton_append]
  have hmem : last ∈ items := by
    rw [hsplit]
    exact List.mem_append_right _ List.mem_cons_self
  have hbehind : (items.filter fun b => key b < key last) = after := by
    have hdescends := h.descends
    rw [hsplit] at hdescends ⊢
    exact hdescends.filter_lt
  have hne : before ++ page.items ≠ [] := by
    rw [hinit]
    exact List.append_ne_nil_of_right_ne_nil _ (List.append_ne_nil_of_right_ne_nil _
      (List.cons_ne_nil _ _))
  have hsplit : items = (before ++ page.items) ++ after :=
    hpage.split.trans (List.append_assoc _ _ _).symm
  have hgiven : true = true ↔ before ++ page.items ≠ [] := iff_of_true rfl hne
  rcases pageOfRows_forward hsplit (fun hnil => absurd hnil hafter) hgiven hsize with
    ⟨next, hnext, hitems, hat⟩
  rw [← hlinkEq]
  refine ⟨rfl, next, ?_, hitems, hat⟩
  show (do
    let afterCursor ← (input.decodeCursor .after (input.encodeCursor (input.getCursor last))).map
      some
    let rows ← input.fetchPage .forward (Option.or none afterCursor) (input.pageSize + 1)
    let totalResults ← input.countTotalResults
    return pageOfRows input .forward afterCursor.isSome totalResults rows) = _
  rw [h.decode last hmem]
  show (do
    let rows ← input.fetchPage .forward (some (input.getCursor last)) (input.pageSize + 1)
    let totalResults ← input.countTotalResults
    return pageOfRows input .forward true totalResults rows) = _
  rw [h.forward last hmem, h.count, hbehind]
  exact congrArg Except.ok hnext

/-- The link to the previous page leads to the stretch before the page. -/
theorem paginateKeyset_previous (h : ExactQuery key items input) (hsize : 1 ≤ input.pageSize)
    {before after : List TItem} {page : KeysetPaginatedResult TItem}
    (hpage : PageAt items input before page after) {link : KeysetPreviousPage}
    (hlink : page.previousPage = some link) :
    link.limit = input.pageSize ∧
      ∃ previous, paginateKeyset input ⟨none, some link.before⟩ = .ok previous ∧
        previous.items = before.drop (before.length - input.pageSize) ∧
        PageAt items input (before.take (before.length - input.pageSize)) previous
          (page.items ++ after) := by
  have hbefore : before ≠ [] := by
    intro hnil
    rw [hpage.previous, if_pos hnil] at hlink
    exact absurd hlink (by simp only [reduceCtorEq, not_false_eq_true])
  rw [hpage.previous, if_neg hbefore] at hlink
  rcases Option.map_eq_some_iff.mp hlink with ⟨first, hfirst, hlinkEq⟩
  rcases List.head?_eq_some_iff.mp hfirst with ⟨rest, hrest⟩
  have hsplit : items = before ++ first :: (rest ++ after) := by
    rw [hpage.split, hrest, List.cons_append]
  have hmem : first ∈ items := by
    rw [hsplit]
    exact List.mem_append_right _ List.mem_cons_self
  have hbehind : (items.filter fun b => key first < key b) = before := by
    have hdescends := h.descends
    rw [hsplit] at hdescends ⊢
    exact hdescends.filter_gt
  have hne : page.items ++ after ≠ [] := by
    rw [hrest, List.cons_append]
    exact List.cons_ne_nil _ _
  rcases @pageOfRows_backward _ _ _ _ _ before (page.items ++ after) false hpage.split hbefore hne
    hsize with ⟨previous, hprevious, hitems, hat⟩
  rw [← hlinkEq]
  refine ⟨rfl, previous, ?_, hitems, hat⟩
  show (do
    let beforeCursor ← (input.decodeCursor .before
      (input.encodeCursor (input.getCursor first))).map some
    let rows ← input.fetchPage (if beforeCursor.isNone then .forward else .backward)
      (beforeCursor.or none) (input.pageSize + 1)
    let totalResults ← input.countTotalResults
    return pageOfRows input (if beforeCursor.isNone then .forward else .backward) false
      totalResults rows) = _
  rw [h.decode first hmem]
  show (do
    let rows ← input.fetchPage .backward (some (input.getCursor first)) (input.pageSize + 1)
    let totalResults ← input.countTotalResults
    return pageOfRows input .backward false totalResults rows) = _
  rw [h.backward first hmem, h.count, hbehind]
  exact congrArg Except.ok hprevious

end Pagination

end Mistle
