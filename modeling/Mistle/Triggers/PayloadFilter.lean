import Mistle.Triggers.PayloadPath

/-!
# Filters of Webhook Payloads

A filter combines comparisons of the values at paths. Evaluating one first tries
to restate it in a smaller language that other triggers share, which has no null,
no negated comparison, no comparison of two paths and no test for an ending. A
filter that has a part outside that language is evaluated as it is written, and
each of its parts again tries the shared language first.

So a part may be evaluated in either language, depending on what stands beside
it, and the two evaluators have to agree. They do because every operator that the
shared language keeps has the same cases there: what is not a scalar, or is null,
is in no list that it has, and what is not a text contains nothing.

## Main definitions

* `WebhookPayloadFilter`, `SharedFilter`: The two languages.
* `normalizeWebhookFilter`: A filter in the shared language, if it can be stated there.
* `evaluateFilterNode`, `evaluateWebhookPayloadFilter`: The two evaluators.
* `Holds`: What a filter says of a payload.

## Theorems

* `evaluateFilterNode_iff`: The shared evaluator on a restated filter.
* `evaluate_iff`, `evaluateWebhookPayloadFilter_eq`: Evaluating a filter decides what it
  says.
-/

namespace Mistle

namespace Triggers

inductive WebhookPayloadFilterScalar (ν : Type) where
  | string (s : JsString)
  | number (n : ν)
  | boolean (b : Bool)
  | null
  deriving DecidableEq

abbrev WebhookPayloadFilterPath := List JsString

inductive WebhookPayloadFilter (ν : Type) where
  | and (filters : List (WebhookPayloadFilter ν))
  | or (filters : List (WebhookPayloadFilter ν))
  | not (filter : WebhookPayloadFilter ν)
  | eq (path : WebhookPayloadFilterPath) (value : WebhookPayloadFilterScalar ν)
  | neq (path : WebhookPayloadFilterPath) (value : WebhookPayloadFilterScalar ν)
  | eqPath (path otherPath : WebhookPayloadFilterPath)
  | neqPath (path otherPath : WebhookPayloadFilterPath)
  | «in» (path : WebhookPayloadFilterPath) (values : List (WebhookPayloadFilterScalar ν))
  | contains (path : WebhookPayloadFilterPath) (value : JsString)
  | containsToken (path : WebhookPayloadFilterPath) (value : JsString)
  | startsWith (path : WebhookPayloadFilterPath) (value : JsString)
  | endsWith (path : WebhookPayloadFilterPath) (value : JsString)
  | «exists» (path : WebhookPayloadFilterPath)
  | notExists (path : WebhookPayloadFilterPath)

inductive SharedFilterScalar (ν : Type) where
  | string (s : JsString)
  | number (n : ν)
  | boolean (b : Bool)
  deriving DecidableEq

inductive SharedFilter (ν : Type) where
  | all (filters : List (SharedFilter ν))
  | any (filters : List (SharedFilter ν))
  | not (filter : SharedFilter ν)
  | eq (path : List JsString) (value : SharedFilterScalar ν)
  | «in» (path : List JsString) (values : List (SharedFilterScalar ν))
  | contains (path : List JsString) (value : JsString)
  | containsToken (path : List JsString) (value : JsString)
  | startsWith (path : List JsString) (value : JsString)
  | «exists» (path : List JsString)

section

variable {ν : Type}

/-- A scalar of a filter as a value of a payload. -/
def WebhookPayloadFilterScalar.toValue : WebhookPayloadFilterScalar ν → JsonValue ν
  | .string s => .string s
  | .number n => .number n
  | .boolean b => .boolean b
  | .null => .null

/-- `isWebhookPayloadFilterScalar`, with the value as what it was found to be. -/
def JsonValue.scalar? : JsonValue ν → Option (WebhookPayloadFilterScalar ν)
  | .string s => some (.string s)
  | .number n => some (.number n)
  | .boolean b => some (.boolean b)
  | .null => some .null
  | .array _ => none
  | .object _ => none

/-- A value that is a string, a number or a Boolean. -/
def JsonValue.sharedScalar? : JsonValue ν → Option (SharedFilterScalar ν)
  | .string s => some (.string s)
  | .number n => some (.number n)
  | .boolean b => some (.boolean b)
  | _ => none

def JsonValue.string? : JsonValue ν → Option JsString
  | .string s => some s
  | _ => none

/-- A scalar that is not null, for the shared language. -/
def sharedScalar : WebhookPayloadFilterScalar ν → Option (SharedFilterScalar ν)
  | .string s => some (.string s)
  | .number n => some (.number n)
  | .boolean b => some (.boolean b)
  | .null => none

mutual

def normalizeWebhookFilter : WebhookPayloadFilter ν → Option (SharedFilter ν)
  | .and filters => (normalizeWebhookFilters filters).map .all
  | .or filters => (normalizeWebhookFilters filters).map .any
  | .not filter => (normalizeWebhookFilter filter).map .not
  | .exists path => some (.exists path)
  | .eq path value => (sharedScalar value).map (.eq path)
  | .in path values => (values.mapM sharedScalar).map (.in path)
  | .contains path value => some (.contains path value)
  | .containsToken path value => some (.containsToken path value)
  | .startsWith path value => some (.startsWith path value)
  | .neq _ _ | .eqPath _ _ | .neqPath _ _ | .endsWith _ _ | .notExists _ => none

/-- The nested filters, until one cannot be restated. -/
def normalizeWebhookFilters : List (WebhookPayloadFilter ν) → Option (List (SharedFilter ν))
  | [] => some []
  | filter :: filters =>
    (normalizeWebhookFilter filter).bind fun normalizedNestedFilter =>
      (normalizeWebhookFilters filters).map (normalizedNestedFilter :: ·)

end

end

section

variable {ν : Type} [DecidableEq ν] (isWordCodePoint : Nat → Bool)

section

variable (resolveValueAtPath : List JsString → Option (Located ν))

mutual

def evaluateFilterNode : SharedFilter ν → Bool
  | .all filters => evaluateEveryNode filters
  | .any filters => evaluateSomeNode filters
  | .not filter => !evaluateFilterNode filter
  | .exists path => (resolveValueAtPath path).isSome
  | .eq path value =>
    (resolveValueAtPath path).bind (·.value.sharedScalar?) == some value
  | .in path values =>
    ((resolveValueAtPath path).bind (·.value.sharedScalar?)).any fun resolvedValue =>
      values.contains resolvedValue
  | .contains path value =>
    ((resolveValueAtPath path).bind (·.value.string?)).any fun resolvedValue =>
      includes resolvedValue value
  | .containsToken path value =>
    ((resolveValueAtPath path).bind (·.value.string?)).any fun resolvedValue =>
      Mistle.containsToken isWordCodePoint resolvedValue value
  | .startsWith path value =>
    ((resolveValueAtPath path).bind (·.value.string?)).any fun resolvedValue =>
      startsWith resolvedValue value

/-- `filters.every` -/
def evaluateEveryNode : List (SharedFilter ν) → Bool
  | [] => true
  | filter :: filters => evaluateFilterNode filter && evaluateEveryNode filters

/-- `filters.some` -/
def evaluateSomeNode : List (SharedFilter ν) → Bool
  | [] => false
  | filter :: filters => evaluateFilterNode filter || evaluateSomeNode filters

end

end

section

variable (integerOf : JsString → Option Nat) (payload : JsonValue ν)

def getWebhookPayloadValueAtPath (path : WebhookPayloadFilterPath) : Option (Located ν) :=
  getValueAtPath integerOf payload path { allowArrayTraversal := true, propertyAccess := .own }

mutual

def evaluateWebhookPayloadFilter (filter : WebhookPayloadFilter ν) : Bool :=
  match normalizeWebhookFilter filter with
  | some normalizedFilter =>
    evaluateFilterNode isWordCodePoint (getWebhookPayloadValueAtPath integerOf payload)
      normalizedFilter
  | none =>
    match filter with
    | .and filters => evaluateEveryWebhookPayloadFilter filters
    | .or filters => evaluateSomeWebhookPayloadFilter filters
    | .not filter => !evaluateWebhookPayloadFilter filter
    | .exists path => (getWebhookPayloadValueAtPath integerOf payload path).isSome
    | .notExists path => (getWebhookPayloadValueAtPath integerOf payload path).isNone
    | .eq path value =>
      (getWebhookPayloadValueAtPath integerOf payload path).bind (·.value.scalar?) == some value
    | .neq path value =>
      (getWebhookPayloadValueAtPath integerOf payload path).bind (·.value.scalar?) != some value
    | .eqPath path otherPath =>
      strictlyEqual (getWebhookPayloadValueAtPath integerOf payload path)
        (getWebhookPayloadValueAtPath integerOf payload otherPath)
    | .neqPath path otherPath =>
      !strictlyEqual (getWebhookPayloadValueAtPath integerOf payload path)
        (getWebhookPayloadValueAtPath integerOf payload otherPath)
    | .in path values =>
      ((getWebhookPayloadValueAtPath integerOf payload path).bind (·.value.scalar?)).any
        fun resolvedValue => values.contains resolvedValue
    | .contains path value =>
      ((getWebhookPayloadValueAtPath integerOf payload path).bind (·.value.string?)).any
        fun resolvedValue => includes resolvedValue value
    | .containsToken path value =>
      ((getWebhookPayloadValueAtPath integerOf payload path).bind (·.value.string?)).any
        fun resolvedValue => Mistle.containsToken isWordCodePoint resolvedValue value
    | .startsWith path value =>
      ((getWebhookPayloadValueAtPath integerOf payload path).bind (·.value.string?)).any
        fun resolvedValue => startsWith resolvedValue value
    | .endsWith path value =>
      ((getWebhookPayloadValueAtPath integerOf payload path).bind (·.value.string?)).any
        fun resolvedValue => endsWith resolvedValue value

/-- `filters.every` -/
def evaluateEveryWebhookPayloadFilter : List (WebhookPayloadFilter ν) → Bool
  | [] => true
  | filter :: filters =>
    evaluateWebhookPayloadFilter filter && evaluateEveryWebhookPayloadFilter filters

/-- `filters.some` -/
def evaluateSomeWebhookPayloadFilter : List (WebhookPayloadFilter ν) → Bool
  | [] => false
  | filter :: filters =>
    evaluateWebhookPayloadFilter filter || evaluateSomeWebhookPayloadFilter filters

end

/-- The value at a path is a scalar. -/
def IsScalarAt (path : WebhookPayloadFilterPath) (value : WebhookPayloadFilterScalar ν) : Prop :=
  ∃ found, getWebhookPayloadValueAtPath integerOf payload path = some found ∧
    found.value = value.toValue

/-- The value at a path is a text. -/
def IsTextAt (path : WebhookPayloadFilterPath) (text : JsString) : Prop :=
  ∃ found, getWebhookPayloadValueAtPath integerOf payload path = some found ∧
    found.value = .string text

mutual

/-- What a filter says of a payload. A negated comparison holds where nothing is found. -/
def Holds : WebhookPayloadFilter ν → Prop
  | .and filters => HoldsAll filters
  | .or filters => HoldsAny filters
  | .not filter => ¬ Holds filter
  | .eq path value => IsScalarAt integerOf payload path value
  | .neq path value => ¬ IsScalarAt integerOf payload path value
  | .eqPath path otherPath =>
    strictlyEqual (getWebhookPayloadValueAtPath integerOf payload path)
      (getWebhookPayloadValueAtPath integerOf payload otherPath) = true
  | .neqPath path otherPath =>
    ¬ strictlyEqual (getWebhookPayloadValueAtPath integerOf payload path)
      (getWebhookPayloadValueAtPath integerOf payload otherPath) = true
  | .in path values => ∃ value ∈ values, IsScalarAt integerOf payload path value
  | .contains path value => ∃ text, IsTextAt integerOf payload path text ∧ value <:+: text
  | .containsToken path value =>
    ∃ text, IsTextAt integerOf payload path text ∧
      Mistle.containsToken isWordCodePoint text value = true
  | .startsWith path value => ∃ text, IsTextAt integerOf payload path text ∧ value <+: text
  | .endsWith path value => ∃ text, IsTextAt integerOf payload path text ∧ value <:+ text
  | .exists path => getWebhookPayloadValueAtPath integerOf payload path ≠ none
  | .notExists path => getWebhookPayloadValueAtPath integerOf payload path = none

def HoldsAll : List (WebhookPayloadFilter ν) → Prop
  | [] => True
  | filter :: filters => Holds filter ∧ HoldsAll filters

def HoldsAny : List (WebhookPayloadFilter ν) → Prop
  | [] => False
  | filter :: filters => Holds filter ∨ HoldsAny filters

end

theorem holdsAll_iff (filters : List (WebhookPayloadFilter ν)) :
    HoldsAll isWordCodePoint integerOf payload filters ↔
      ∀ filter ∈ filters, Holds isWordCodePoint integerOf payload filter := by
  induction filters with
  | nil => simp [HoldsAll]
  | cons filter filters ih => rw [HoldsAll, ih, List.forall_mem_cons]

theorem holdsAny_iff (filters : List (WebhookPayloadFilter ν)) :
    HoldsAny isWordCodePoint integerOf payload filters ↔
      ∃ filter ∈ filters, Holds isWordCodePoint integerOf payload filter := by
  induction filters with
  | nil => simp [HoldsAny]
  | cons filter filters ih => rw [HoldsAny, ih, List.exists_mem_cons_iff]

end

end

/-! ### The scalars of the two languages -/

section

variable {ν : Type}

theorem scalar?_eq_some_iff (v : JsonValue ν) (value : WebhookPayloadFilterScalar ν) :
    v.scalar? = some value ↔ v = value.toValue := by
  cases v <;> cases value <;> simp [JsonValue.scalar?, WebhookPayloadFilterScalar.toValue]

/-- A scalar that the shared language has is the same value there. -/
theorem sharedScalar?_eq_some_iff (v : JsonValue ν) {value : WebhookPayloadFilterScalar ν}
    {shared : SharedFilterScalar ν} (h : sharedScalar value = some shared) :
    v.sharedScalar? = some shared ↔ v = value.toValue := by
  cases value with
  | null => exact absurd h (by simp [sharedScalar])
  | string _ | number _ | boolean _ =>
      rw [sharedScalar, Option.some.injEq] at h
      rw [← h]
      cases v <;> simp [JsonValue.sharedScalar?, WebhookPayloadFilterScalar.toValue]

theorem string?_eq_some_iff (v : JsonValue ν) (text : JsString) :
    v.string? = some text ↔ v = .string text := by
  cases v <;> simp [JsonValue.string?]

/-- A list that is restated has the same scalars in it. -/
theorem exists_mem_of_mapM_sharedScalar {values : List (WebhookPayloadFilterScalar ν)}
    {shared : List (SharedFilterScalar ν)} (h : values.mapM sharedScalar = some shared)
    (v : JsonValue ν) :
    (∃ s ∈ shared, v.sharedScalar? = some s) ↔ ∃ value ∈ values, v = value.toValue := by
  induction values generalizing shared with
  | nil =>
      rw [List.mapM_nil] at h
      injection h with h
      simp [← h]
  | cons value values ih =>
      rw [List.mapM_cons] at h
      rcases Option.bind_eq_some_iff.mp h with ⟨s, hs, h⟩
      rcases Option.bind_eq_some_iff.mp h with ⟨rest, hrest, h⟩
      injection h with h
      rw [← h, List.exists_mem_cons_iff, List.exists_mem_cons_iff, ih hrest,
        sharedScalar?_eq_some_iff v hs]

end

/-! ### The leaves -/

section

variable {ν : Type} (integerOf : JsString → Option Nat) (payload : JsonValue ν)
variable {path : WebhookPayloadFilterPath}

theorem bind_scalar?_iff (value : WebhookPayloadFilterScalar ν) :
    (getWebhookPayloadValueAtPath integerOf payload path).bind (·.value.scalar?) = some value ↔
      IsScalarAt integerOf payload path value := by
  simp only [Option.bind_eq_some_iff, scalar?_eq_some_iff, IsScalarAt]

theorem bind_sharedScalar?_iff {value : WebhookPayloadFilterScalar ν}
    {shared : SharedFilterScalar ν} (h : sharedScalar value = some shared) :
    (getWebhookPayloadValueAtPath integerOf payload path).bind (·.value.sharedScalar?)
        = some shared ↔ IsScalarAt integerOf payload path value := by
  simp only [Option.bind_eq_some_iff, sharedScalar?_eq_some_iff _ h, IsScalarAt]

theorem bind_string?_iff (text : JsString) :
    (getWebhookPayloadValueAtPath integerOf payload path).bind (·.value.string?) = some text ↔
      IsTextAt integerOf payload path text := by
  simp only [Option.bind_eq_some_iff, string?_eq_some_iff, IsTextAt]

/-- A test of the text at a path fails where there is none. -/
theorem testText_iff (test : JsString → Bool) :
    ((getWebhookPayloadValueAtPath integerOf payload path).bind (·.value.string?)).any
        test = true ↔
      ∃ text, IsTextAt integerOf payload path text ∧ test text = true := by
  rw [Option.any_eq_true]
  simp only [bind_string?_iff]

theorem in_iff [DecidableEq ν] (values : List (WebhookPayloadFilterScalar ν)) :
    ((getWebhookPayloadValueAtPath integerOf payload path).bind (·.value.scalar?)).any
        (fun resolvedValue => values.contains resolvedValue) = true ↔
      ∃ value ∈ values, IsScalarAt integerOf payload path value := by
  rw [Option.any_eq_true]
  simp only [bind_scalar?_iff, List.contains_iff_mem]
  exact ⟨fun ⟨value, hat, hmem⟩ => ⟨value, hmem, hat⟩, fun ⟨value, hmem, hat⟩ => ⟨value, hat, hmem⟩⟩

theorem sharedIn_iff [DecidableEq ν] {values : List (WebhookPayloadFilterScalar ν)}
    {shared : List (SharedFilterScalar ν)} (h : values.mapM sharedScalar = some shared) :
    ((getWebhookPayloadValueAtPath integerOf payload path).bind (·.value.sharedScalar?)).any
        (fun resolvedValue => shared.contains resolvedValue) = true ↔
      ∃ value ∈ values, IsScalarAt integerOf payload path value := by
  rw [Option.any_eq_true]
  simp only [Option.bind_eq_some_iff, List.contains_iff_mem]
  constructor
  · rintro ⟨s, ⟨found, hfound, hs⟩, hmem⟩
    rcases (exists_mem_of_mapM_sharedScalar h found.value).mp ⟨s, hmem, hs⟩ with
      ⟨value, hvalue, heq⟩
    exact ⟨value, hvalue, found, hfound, heq⟩
  · rintro ⟨value, hvalue, found, hfound, heq⟩
    rcases (exists_mem_of_mapM_sharedScalar h found.value).mpr ⟨value, hvalue, heq⟩ with
      ⟨s, hmem, hs⟩
    exact ⟨s, ⟨found, hfound, hs⟩, hmem⟩

end

/-! ### The evaluators -/

section

variable {ν : Type} [DecidableEq ν] (isWordCodePoint : Nat → Bool)
variable (integerOf : JsString → Option Nat) (payload : JsonValue ν)

mutual

/-- A filter that is restated says the same to the shared evaluator. -/
theorem evaluateFilterNode_iff (filter : WebhookPayloadFilter ν) (normalized : SharedFilter ν)
    (h : normalizeWebhookFilter filter = some normalized) :
    evaluateFilterNode isWordCodePoint (getWebhookPayloadValueAtPath integerOf payload)
        normalized = true ↔ Holds isWordCodePoint integerOf payload filter := by
  cases filter with
  | and filters =>
      rcases Option.map_eq_some_iff.mp h with ⟨nested, hnested, hnormalized⟩
      rw [← hnormalized, evaluateFilterNode, Holds]
      exact (evaluateNodes_iff filters nested hnested).1
  | or filters =>
      rcases Option.map_eq_some_iff.mp h with ⟨nested, hnested, hnormalized⟩
      rw [← hnormalized, evaluateFilterNode, Holds]
      exact (evaluateNodes_iff filters nested hnested).2
  | not filter =>
      rcases Option.map_eq_some_iff.mp h with ⟨nested, hnested, hnormalized⟩
      rw [← hnormalized, evaluateFilterNode, Holds, Bool.not_eq_true', Bool.eq_false_iff, ne_eq,
        evaluateFilterNode_iff filter nested hnested]
  | eq path value =>
      rcases Option.map_eq_some_iff.mp h with ⟨shared, hshared, hnormalized⟩
      rw [← hnormalized, evaluateFilterNode, Holds, beq_iff_eq]
      exact bind_sharedScalar?_iff integerOf payload hshared
  | «in» path values =>
      rcases Option.map_eq_some_iff.mp h with ⟨shared, hshared, hnormalized⟩
      rw [← hnormalized, evaluateFilterNode, Holds]
      exact sharedIn_iff integerOf payload hshared
  | contains path value =>
      injection h with h
      rw [← h, evaluateFilterNode, Holds]
      simp only [testText_iff, includes_iff]
  | containsToken path value =>
      injection h with h
      rw [← h, evaluateFilterNode, Holds]
      exact testText_iff integerOf payload _
  | startsWith path value =>
      injection h with h
      rw [← h, evaluateFilterNode, Holds]
      simp only [testText_iff, startsWith_iff]
  | «exists» path =>
      injection h with h
      rw [← h, evaluateFilterNode, Holds, Option.isSome_iff_ne_none]
  | neq | eqPath | neqPath | endsWith | notExists =>
      exact absurd h (by simp [normalizeWebhookFilter])

theorem evaluateNodes_iff (filters : List (WebhookPayloadFilter ν))
    (normalized : List (SharedFilter ν)) (h : normalizeWebhookFilters filters = some normalized) :
    (evaluateEveryNode isWordCodePoint (getWebhookPayloadValueAtPath integerOf payload)
        normalized = true ↔ HoldsAll isWordCodePoint integerOf payload filters) ∧
      (evaluateSomeNode isWordCodePoint (getWebhookPayloadValueAtPath integerOf payload)
        normalized = true ↔ HoldsAny isWordCodePoint integerOf payload filters) := by
  cases filters with
  | nil =>
      injection h with h
      rw [← h]
      simp [evaluateEveryNode, evaluateSomeNode, HoldsAll, HoldsAny]
  | cons filter filters =>
      rcases Option.bind_eq_some_iff.mp h with ⟨first, hfirst, h⟩
      rcases Option.map_eq_some_iff.mp h with ⟨rest, hrest, hnormalized⟩
      have hhead := evaluateFilterNode_iff filter first hfirst
      have htail := evaluateNodes_iff filters rest hrest
      rw [← hnormalized, evaluateEveryNode, evaluateSomeNode, Bool.and_eq_true, Bool.or_eq_true,
        hhead, htail.1, htail.2, HoldsAll, HoldsAny]
      exact ⟨Iff.rfl, Iff.rfl⟩

end

mutual

/-- Evaluating a filter succeeds exactly when the filter holds of the payload. -/
theorem evaluate_iff (filter : WebhookPayloadFilter ν) :
    evaluateWebhookPayloadFilter isWordCodePoint integerOf payload filter = true ↔
      Holds isWordCodePoint integerOf payload filter := by
  unfold evaluateWebhookPayloadFilter
  cases hnormalized : normalizeWebhookFilter filter with
  | some normalized =>
      exact evaluateFilterNode_iff isWordCodePoint integerOf payload filter normalized hnormalized
  | none =>
      cases filter with
      | and filters => exact evaluateEvery_iff filters
      | or filters => exact evaluateSome_iff filters
      | not filter =>
          simp only [Holds, Bool.not_eq_true', Bool.eq_false_iff, ne_eq]
          exact not_congr (evaluate_iff filter)
      | eq path value =>
          simp only [Holds, beq_iff_eq]
          exact bind_scalar?_iff integerOf payload value
      | neq path value =>
          simp only [Holds, bne_iff_ne, ne_eq]
          exact not_congr (bind_scalar?_iff integerOf payload value)
      | eqPath path otherPath => exact Iff.rfl
      | neqPath path otherPath => simp only [Holds, Bool.not_eq_true', Bool.eq_false_iff, ne_eq]
      | «in» path values => exact in_iff integerOf payload values
      | contains path value =>
          simp only [Holds, testText_iff, includes_iff]
      | containsToken path value => exact testText_iff integerOf payload _
      | startsWith path value => simp only [Holds, testText_iff, startsWith_iff]
      | endsWith path value => simp only [Holds, testText_iff, endsWith_iff]
      | «exists» path => simp only [Holds, Option.isSome_iff_ne_none]
      | notExists path => simp only [Holds, Option.isNone_iff_eq_none]

theorem evaluateEvery_iff (filters : List (WebhookPayloadFilter ν)) :
    evaluateEveryWebhookPayloadFilter isWordCodePoint integerOf payload filters = true ↔
      HoldsAll isWordCodePoint integerOf payload filters := by
  cases filters with
  | nil => simp [evaluateEveryWebhookPayloadFilter, HoldsAll]
  | cons filter filters =>
      rw [evaluateEveryWebhookPayloadFilter, HoldsAll, Bool.and_eq_true, evaluate_iff filter,
        evaluateEvery_iff filters]

theorem evaluateSome_iff (filters : List (WebhookPayloadFilter ν)) :
    evaluateSomeWebhookPayloadFilter isWordCodePoint integerOf payload filters = true ↔
      HoldsAny isWordCodePoint integerOf payload filters := by
  cases filters with
  | nil => simp [evaluateSomeWebhookPayloadFilter, HoldsAny]
  | cons filter filters =>
      rw [evaluateSomeWebhookPayloadFilter, HoldsAny, Bool.or_eq_true, evaluate_iff filter,
        evaluateSome_iff filters]

end

/-- Evaluating a filter returns the value of what the filter says of the payload. -/
theorem evaluateWebhookPayloadFilter_eq (filter : WebhookPayloadFilter ν)
    [Decidable (Holds isWordCodePoint integerOf payload filter)] :
    evaluateWebhookPayloadFilter isWordCodePoint integerOf payload filter
      = decide (Holds isWordCodePoint integerOf payload filter) := by
  rw [Bool.eq_iff_iff, decide_eq_true_eq]
  exact evaluate_iff isWordCodePoint integerOf payload filter

end

end Triggers

end Mistle
