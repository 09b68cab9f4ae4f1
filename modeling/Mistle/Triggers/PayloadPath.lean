import Mistle.Triggers.ContainsToken

/-!
# Payloads and Their Paths

What a filter looks at: the value of a JSON payload at a path, or nothing. A
segment names a field of an object, and an element of an array where it reads as
a number that is an integer and not negative; scalars have nothing inside.

The language compares objects and arrays by identity, and a payload that has been
parsed holds each of them once. A value that is found is therefore kept together
with its location in the payload, and two objects are the same one exactly when
their locations are the same.

The numbers of the language and its reading of a text as a number are parameters.
A payload holds no `NaN`, so comparing numbers is an equality.

## Main definitions

* `JsonValue`: A parsed payload.
* `Located`: A value with its location.
* `getValueAtPath`: The value at a path, if there is one.
* `strictlyEqual`: The language's `===`.
* `includes`, `startsWith`, `endsWith`: Its comparisons of texts.

## Theorems

* `includes_iff`, `startsWith_iff`, `endsWith_iff`: A text inside, at the start and at
  the end of another.
-/

namespace Mistle

namespace Triggers

/-- A parsed payload over the numbers of the language. -/
inductive JsonValue (ν : Type) where
  | null
  | boolean (b : Bool)
  | number (n : ν)
  | string (s : JsString)
  | array (items : List (JsonValue ν))
  | object (fields : List (JsString × JsonValue ν))

/-- A step from an array or an object to something in it. -/
inductive PathStep where
  | index (i : Nat)
  | key (k : JsString)
  deriving DecidableEq

/-- A value of a payload and where it is. -/
structure Located (ν : Type) where
  location : List PathStep
  value : JsonValue ν

inductive PathPropertyAccessMode where
  | own
  | plain
  deriving DecidableEq

structure GetValueAtPathOptions where
  allowArrayTraversal : Bool
  propertyAccess : PathPropertyAccessMode

section

variable {ν : Type}

/-- A field of a parsed object is a plain value of its own, so both ways of access read it. -/
def readObjectProperty (fields : List (JsString × JsonValue ν)) (key : JsString) :
    PathPropertyAccessMode → Option (JsonValue ν)
  | .own => fields.lookup key
  | .plain => fields.lookup key

-- `Number` of a text, where that is an integer and not negative.
variable (integerOf : JsString → Option Nat)

/-- One round of the loop over the segments. -/
def readSegment (options : GetValueAtPathOptions) (cursor : Located ν) (segment : JsString) :
    Option (Located ν) :=
  match cursor.value with
  | .array items =>
    if !options.allowArrayTraversal then none
    else
      (integerOf segment).bind fun index =>
        items[index]?.map fun item => ⟨cursor.location ++ [.index index], item⟩
  | .object fields =>
    (readObjectProperty fields segment options.propertyAccess).map fun value =>
      ⟨cursor.location ++ [.key segment], value⟩
  | _ => none

/-- The value at a path; nothing is found behind nothing. -/
def getValueAtPath (payload : JsonValue ν) (path : List JsString)
    (options : GetValueAtPathOptions) : Option (Located ν) :=
  path.foldlM (readSegment integerOf options) ⟨[], payload⟩

end

section

variable {ν : Type} [DecidableEq ν]

/-- `===` of what two paths lead to, where nothing equals nothing. -/
def strictlyEqual : Option (Located ν) → Option (Located ν) → Bool
  | none, none => true
  | some a, some b =>
    match a.value, b.value with
    | .null, .null => true
    | .boolean x, .boolean y => x == y
    | .number x, .number y => x == y
    | .string x, .string y => x == y
    | .array _, .array _ => a.location == b.location
    | .object _, .object _ => a.location == b.location
    | _, _ => false
  | _, _ => false

end

def includes (text value : JsString) : Bool :=
  (indexOf text value 0).isSome

def startsWith (text value : JsString) : Bool :=
  value.isPrefixOf text

def endsWith (text value : JsString) : Bool :=
  value.isSuffixOf text

@[simp] theorem includes_iff (text value : JsString) :
    includes text value = true ↔ value <:+: text := by
  unfold includes
  rw [Option.isSome_iff_ne_none, ne_eq, indexOf_eq_none_iff]
  constructor
  · intro h
    by_contra hinfix
    apply h
    intro j _ _ hprefix
    rcases hprefix with ⟨after, hafter⟩
    refine hinfix ⟨text.take j, after, ?_⟩
    rw [List.append_assoc, hafter, List.take_append_drop]
  · rintro ⟨before, after, htext⟩ h
    rw [List.append_assoc] at htext
    have hlength : before.length ≤ text.length := by
      rw [← htext, List.length_append]
      exact Nat.le_add_right _ _
    exact h before.length (by omega) hlength (prefix_drop_of_eq htext.symm)

@[simp] theorem startsWith_iff (text value : JsString) :
    startsWith text value = true ↔ value <+: text :=
  List.isPrefixOf_iff_prefix

@[simp] theorem endsWith_iff (text value : JsString) :
    endsWith text value = true ↔ value <:+ text :=
  List.isSuffixOf_iff_suffix

end Triggers

end Mistle
