import Mistle.Lib.Text

/-!
# JSON Trees

A JSON document after its text has been read, over any type of strings. The
string type is a parameter because the two ends of a wire need not agree on it:
one end may hold scalar strings and the other UTF-16 code units, and a document
crosses between them by `map` one way and by `traverse` the other.

A number is an integer when its value is one, whatever its size, and otherwise
keeps the text it was written as; no consumer here reads into a fraction.
An object is its list of fields. A reader of a key takes the first field with
that key, so trees that differ only behind a repeated key are the same document
to every reader below.

## Main definitions

* `Json`: JSON trees.
* `Json.map`, `Json.traverse`: Changing the string type, totally or partially.
* `Json.get?`: The value of an object's key.
* `Json.set`: An object with one key replaced or added.
* `Json.str?`, `Json.bool?`, `Json.nat?`, `Json.int?`, `Json.arr?`: Scalar readers.

## Theorems

* `traverse_map`: What `map` writes, `traverse` by a partial inverse reads back.
* `get?_map`: Reading a key commutes with an injective change of strings.
* `get?_set_self`, `get?_set_ne`: What a replaced key reads as.
-/

namespace Mistle

/-- A JSON tree over strings of type `σ`. -/
inductive Json (σ : Type) where
  | null
  | bool (b : Bool)
  | int (n : Int)
  | frac (text : String)
  | str (s : σ)
  | arr (items : List (Json σ))
  | obj (fields : List (σ × Json σ))

namespace Json

variable {σ τ : Type}

mutual

/-- Equality of trees is decidable when equality of strings is. -/
def decEq [DecidableEq σ] : (a b : Json σ) → Decidable (a = b)
  | .null, .null => isTrue rfl
  | .bool a, .bool b => decidable_of_iff (a = b) (by simp only [bool.injEq])
  | .int a, .int b => decidable_of_iff (a = b) (by simp only [int.injEq])
  | .frac a, .frac b => decidable_of_iff (a = b) (by simp only [frac.injEq])
  | .str a, .str b => decidable_of_iff (a = b) (by simp only [str.injEq])
  | .arr a, .arr b => match decEqItems a b with
    | isTrue h => isTrue (h ▸ rfl)
    | isFalse h => isFalse fun e => h (by injection e)
  | .obj a, .obj b => match decEqFields a b with
    | isTrue h => isTrue (h ▸ rfl)
    | isFalse h => isFalse fun e => h (by injection e)
  | .null, .bool _ | .null, .int _ | .null, .frac _ | .null, .str _ | .null, .arr _
  | .null, .obj _ | .bool _, .null | .bool _, .int _ | .bool _, .frac _ | .bool _, .str _
  | .bool _, .arr _ | .bool _, .obj _ | .int _, .null | .int _, .bool _ | .int _, .frac _
  | .int _, .str _ | .int _, .arr _ | .int _, .obj _ | .frac _, .null | .frac _, .bool _
  | .frac _, .int _ | .frac _, .str _ | .frac _, .arr _ | .frac _, .obj _ | .str _, .null
  | .str _, .bool _ | .str _, .int _ | .str _, .frac _ | .str _, .arr _ | .str _, .obj _
  | .arr _, .null | .arr _, .bool _ | .arr _, .int _ | .arr _, .frac _ | .arr _, .str _
  | .arr _, .obj _ | .obj _, .null | .obj _, .bool _ | .obj _, .int _ | .obj _, .frac _
  | .obj _, .str _ | .obj _, .arr _ => isFalse nofun

def decEqItems [DecidableEq σ] : (a b : List (Json σ)) → Decidable (a = b)
  | [], [] => isTrue rfl
  | a :: as, b :: bs => match decEq a b, decEqItems as bs with
    | isTrue h, isTrue hs => isTrue (by rw [h, hs])
    | isFalse h, _ => isFalse fun e => h (by injection e)
    | _, isFalse h => isFalse fun e => h (by injection e)
  | [], _ :: _ | _ :: _, [] => isFalse nofun

def decEqFields [DecidableEq σ] : (a b : List (σ × Json σ)) → Decidable (a = b)
  | [], [] => isTrue rfl
  | (k, a) :: as, (l, b) :: bs => match decEq a b, decEqFields as bs with
    | isTrue h, isTrue hs => decidable_of_iff (k = l) (by
        rw [h, hs, List.cons.injEq, Prod.mk.injEq, and_iff_left rfl, and_iff_left rfl])
    | isFalse h, _ => isFalse fun e => h (by injection e with e; injection e)
    | _, isFalse h => isFalse fun e => h (by injection e)
  | [], _ :: _ | _ :: _, [] => isFalse nofun

end

instance [DecidableEq σ] : DecidableEq (Json σ) := decEq

mutual

/-- Change every string of a tree, keys included. -/
def map (f : σ → τ) : Json σ → Json τ
  | .null => .null
  | .bool b => .bool b
  | .int n => .int n
  | .frac t => .frac t
  | .str s => .str (f s)
  | .arr items => .arr (mapItems f items)
  | .obj fields => .obj (mapFields f fields)

def mapItems (f : σ → τ) : List (Json σ) → List (Json τ)
  | [] => []
  | j :: js => map f j :: mapItems f js

def mapFields (f : σ → τ) : List (σ × Json σ) → List (τ × Json τ)
  | [] => []
  | (k, v) :: rest => (f k, map f v) :: mapFields f rest

end

mutual

/-- Change every string of a tree by a partial function; `none` if one of them
    has no image. -/
def traverse (f : σ → Option τ) : Json σ → Option (Json τ)
  | .null => some .null
  | .bool b => some (.bool b)
  | .int n => some (.int n)
  | .frac t => some (.frac t)
  | .str s => (f s).map .str
  | .arr items => (traverseItems f items).map .arr
  | .obj fields => (traverseFields f fields).map .obj

def traverseItems (f : σ → Option τ) : List (Json σ) → Option (List (Json τ))
  | [] => some []
  | j :: js => (traverse f j).bind fun j' => (traverseItems f js).map (j' :: ·)

def traverseFields (f : σ → Option τ) : List (σ × Json σ) → Option (List (τ × Json τ))
  | [] => some []
  | (k, v) :: rest =>
    (f k).bind fun k' => (traverse f v).bind fun v' =>
      (traverseFields f rest).map ((k', v') :: ·)

end

mutual

theorem traverse_map {f : σ → τ} {g : τ → Option σ} (h : ∀ s, g (f s) = some s) :
    ∀ j : Json σ, traverse g (map f j) = some j
  | .null => rfl
  | .bool _ => rfl
  | .int _ => rfl
  | .frac _ => rfl
  | .str s => by rw [map, traverse, h, Option.map_some]
  | .arr items => by rw [map, traverse, traverseItems_map h items, Option.map_some]
  | .obj fields => by rw [map, traverse, traverseFields_map h fields, Option.map_some]

theorem traverseItems_map {f : σ → τ} {g : τ → Option σ} (h : ∀ s, g (f s) = some s) :
    ∀ js : List (Json σ), traverseItems g (mapItems f js) = some js
  | [] => rfl
  | j :: js => by
      rw [mapItems, traverseItems, traverse_map h j, Option.bind_some, traverseItems_map h js,
        Option.map_some]

theorem traverseFields_map {f : σ → τ} {g : τ → Option σ} (h : ∀ s, g (f s) = some s) :
    ∀ fs : List (σ × Json σ), traverseFields g (mapFields f fs) = some fs
  | [] => rfl
  | (k, v) :: rest => by
      rw [mapFields, traverseFields, h, Option.bind_some, traverse_map h v, Option.bind_some,
        traverseFields_map h rest, Option.map_some]

end

/-- The first field with a key. -/
def lookup [DecidableEq σ] (key : σ) : List (σ × Json σ) → Option (Json σ)
  | [] => none
  | (k, v) :: rest => if k = key then some v else lookup key rest

/-- The value of an object's key; `none` for anything that is not an object. -/
def get? [DecidableEq σ] (j : Json σ) (key : σ) : Option (Json σ) :=
  match j with
  | .obj fields => lookup key fields
  | _ => none

/-- Replace the first field with a key, or add it at the end. -/
def setField [DecidableEq σ] (key : σ) (value : Json σ) : List (σ × Json σ) → List (σ × Json σ)
  | [] => [(key, value)]
  | (k, v) :: rest => if k = key then (key, value) :: rest else (k, v) :: setField key value rest

/-- An object with one key replaced or added. -/
def set [DecidableEq σ] (j : Json σ) (key : σ) (value : Json σ) : Json σ :=
  match j with
  | .obj fields => .obj (setField key value fields)
  | j => j

/-- Read a string. -/
def str? : Json σ → Option σ
  | .str s => some s
  | _ => none

/-- Read a Boolean. -/
def bool? : Json σ → Option Bool
  | .bool b => some b
  | _ => none

/-- Read an integer. -/
def int? : Json σ → Option Int
  | .int n => some n
  | _ => none

/-- Read a natural number below a bound. -/
def nat? (bound : Nat) : Json σ → Option Nat
  | .int (.ofNat n) => if n < bound then some n else none
  | _ => none

/-- Read an array. -/
def arr? : Json σ → Option (List (Json σ))
  | .arr items => some items
  | _ => none

section

variable [DecidableEq σ] [DecidableEq τ]

theorem lookup_mapFields {f : σ → τ} (hf : Function.Injective f) (key : σ) :
    ∀ fs : List (σ × Json σ), lookup (f key) (mapFields f fs) = (lookup key fs).map (map f)
  | [] => rfl
  | (k, v) :: rest => by
      rw [mapFields, lookup, lookup]
      by_cases hk : k = key
      · rw [if_pos hk, if_pos (congrArg f hk), Option.map_some]
      · rw [if_neg hk, if_neg (fun h => hk (hf h)), lookup_mapFields hf key rest]

theorem get?_map {f : σ → τ} (hf : Function.Injective f) (j : Json σ) (key : σ) :
    (map f j).get? (f key) = (j.get? key).map (map f) := by
  cases j with
  | obj fields => exact lookup_mapFields hf key fields
  | null | bool _ | int _ | frac _ | str _ | arr _ => rfl

theorem lookup_setField_self (key : σ) (value : Json σ) (fs : List (σ × Json σ)) :
    lookup key (setField key value fs) = some value := by
  induction fs with
  | nil => rw [setField, lookup, if_pos rfl]
  | cons kv rest ih =>
      rcases kv with ⟨k, v⟩
      rw [setField]
      by_cases hk : k = key
      · rw [if_pos hk, lookup, if_pos rfl]
      · rw [if_neg hk, lookup, if_neg hk, ih]

theorem lookup_setField_ne {key other : σ} (hne : key ≠ other) (value : Json σ)
    (fs : List (σ × Json σ)) : lookup other (setField key value fs) = lookup other fs := by
  induction fs with
  | nil => simp only [setField, lookup, if_neg hne]
  | cons kv rest ih =>
      rcases kv with ⟨k, v⟩
      rw [setField]
      by_cases hk : k = key
      · rw [if_pos hk, lookup, if_neg hne, lookup, if_neg (hk ▸ hne)]
      · rw [if_neg hk, lookup, lookup, ih]

theorem get?_set_self (fs : List (σ × Json σ)) (key : σ) (value : Json σ) :
    ((Json.obj fs).set key value).get? key = some value :=
  lookup_setField_self key value fs

theorem get?_set_ne {key other : σ} (hne : key ≠ other) (j value : Json σ) :
    (j.set key value).get? other = j.get? other := by
  cases j with
  | obj fields => exact lookup_setField_ne hne value fields
  | null | bool _ | int _ | frac _ | str _ | arr _ => rfl

end

end Json

end Mistle
