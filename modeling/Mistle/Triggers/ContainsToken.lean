import Mistle.Lib.CodePoints

/-!
# Searching for a Token

Whether a text contains a token that stands by itself: no letter, digit, mark or
underscore directly in front of it or behind it. The search goes from one match
to the next by code units, while the characters around a match are read as code
points.

A match that is refused moves the search on by one unit and not past the match,
so no occurrence is skipped, the ones that overlap it included, and the search
ends because a match that is longer than nothing starts inside the text.

Which code points are letters, digits and marks is Unicode's table, a parameter
here that nothing is assumed about.

## Main definitions

* `indexOf`: The first match that does not start before a position.
* `isTokenBoundaryCharacter`: A code point that no word goes on with.
* `getCodePointBefore`, `getCodePointAfter`: The code points around a position.
* `containsToken`: The search.
* `StandsAlone`: The boundaries of an occurrence.

## Theorems

* `indexOf_eq_some_iff`, `indexOf_eq_none_iff`: What `indexOf` finds.
* `getCodePointBefore_append`, `getCodePointAfter_append`: The code points around
  a cut.
* `containsToken_of_ne_nil`, `containsToken_iff`: The search succeeds exactly when an
  occurrence stands alone.
* `containsToken_toJs_iff`: The same for scalar strings, in characters.
-/

namespace Mistle

/-- The first index from a position on at which a token occurs in a text. -/
def indexOf (value token : JsString) (position : Nat) : Option Nat :=
  let start := min position value.length
  (List.range' start (value.length + 1 - start)).find? fun index =>
    token.isPrefixOf (value.drop index)

/-- The units between two indices. -/
def sliceUnits (value : JsString) (start stop : Nat) : JsString :=
  (value.take stop).drop start

def isLowSurrogate (u : UInt16) : Bool :=
  0xDC00 ≤ u.toNat && u.toNat ≤ 0xDFFF

def isHighSurrogate (u : UInt16) : Bool :=
  0xD800 ≤ u.toNat && u.toNat ≤ 0xDBFF

def getCodePointBefore (value : JsString) (index : Nat) : Option JsString :=
  if index ≤ 0 then none
  else if value[index - 1]?.any isLowSurrogate && 2 ≤ index &&
      value[index - 2]?.any isHighSurrogate then
    some (sliceUnits value (index - 2) index)
  else some (sliceUnits value (index - 1) index)

def getCodePointAfter (value : JsString) (index : Nat) : Option JsString :=
  if index ≥ value.length then none
  else if value[index]?.any isHighSurrogate && index + 1 < value.length &&
      value[index + 1]?.any isLowSurrogate then
    some (sliceUnits value index (index + 2))
  else some (sliceUnits value index (index + 1))

theorem indexOf_eq_some_iff {value token : JsString} {position index : Nat} :
    indexOf value token position = some index ↔
      (min position value.length ≤ index ∧ index ≤ value.length ∧ token <+: value.drop index) ∧
        ∀ j, min position value.length ≤ j → j < index → ¬ token <+: value.drop j := by
  unfold indexOf
  rw [List.find?_range'_eq_some]
  simp only [List.isPrefixOf_iff_prefix, List.mem_range'_1, Bool.not_eq_true',
    Bool.eq_false_iff, ne_eq]
  constructor
  · rintro ⟨hstarts, hrange, hfirst⟩
    exact ⟨⟨by omega, by omega, hstarts⟩, fun j hj hlt => hfirst j hj hlt⟩
  · rintro ⟨⟨hge, hle, hstarts⟩, hfirst⟩
    exact ⟨hstarts, by omega, fun j hj hlt => hfirst j hj hlt⟩

theorem indexOf_eq_none_iff {value token : JsString} {position : Nat} :
    indexOf value token position = none ↔
      ∀ j, min position value.length ≤ j → j ≤ value.length → ¬ token <+: value.drop j := by
  unfold indexOf
  rw [List.find?_range'_eq_none]
  simp only [List.isPrefixOf_iff_prefix, Bool.not_eq_true', Bool.eq_false_iff, ne_eq]
  constructor
  · intro h j hj hle
    exact h j hj (by omega)
  · intro h j hj hlt
    exact h j hj (by omega)

/-- A match of a token that is not empty starts at the position or behind it, and inside the
    text. -/
theorem indexOf_bounds {value token : JsString} {position index : Nat} (htoken : token ≠ [])
    (h : indexOf value token position = some index) : position ≤ index ∧ index < value.length := by
  rcases (indexOf_eq_some_iff.mp h).1 with ⟨hge, hle, hstarts⟩
  have hlength := hstarts.length_le
  have hpos := List.length_pos_of_ne_nil htoken
  rw [List.length_drop] at hlength
  omega

section

-- Unicode's categories `L`, `N` and `M`, as a table of code points.
variable (isWordCodePoint : Nat → Bool)

/-- The number of a code point that is given by its units. -/
def codePointValue : JsString → Nat
  | [u, v] => 0x10000 + (u.toNat - 0xD800) * 0x400 + (v.toNat - 0xDC00)
  | [u] => u.toNat
  | _ => 0

/-- No letter, digit, mark or underscore is in the text. -/
def isTokenBoundaryCharacter (value : JsString) : Bool :=
  !(codePoints value).any fun c => isWordCodePoint (codePointValue c) || codePointValue c == 0x5F

/-- The search from an index on. -/
def containsTokenFrom (value token : JsString) (htoken : token ≠ []) (searchStartIndex : Nat) :
    Bool :=
  match hmatched : indexOf value token searchStartIndex with
  | none => false
  | some matchedIndex =>
    let precedingCharacter := getCodePointBefore value matchedIndex
    let followingCharacter := getCodePointAfter value (matchedIndex + token.length)
    let hasLeadingBoundary := precedingCharacter.all (isTokenBoundaryCharacter isWordCodePoint)
    let hasTrailingBoundary := followingCharacter.all (isTokenBoundaryCharacter isWordCodePoint)
    if hasLeadingBoundary && hasTrailingBoundary then true
    else containsTokenFrom value token htoken (matchedIndex + 1)
  termination_by value.length - searchStartIndex
  decreasing_by
    have hbounds := indexOf_bounds htoken hmatched
    omega

def containsToken (value token : JsString) : Bool :=
  if htoken : token = [] then false
  else containsTokenFrom isWordCodePoint value token htoken 0

/-- An occurrence has on each side the end of the text or a boundary. -/
def StandsAlone (before after : JsString) : Prop :=
  (∀ c, (codePoints before).getLast? = some c →
      isTokenBoundaryCharacter isWordCodePoint c = true) ∧
    ∀ c, (codePoints after).head? = some c → isTokenBoundaryCharacter isWordCodePoint c = true

end

theorem sliceUnits_append (a b c : JsString) :
    sliceUnits (a ++ (b ++ c)) a.length (a.length + b.length) = b := by
  unfold sliceUnits
  rw [← List.append_assoc, ← List.length_append, List.take_left, List.drop_left]

theorem isSurrogatePair_eq (u v : UInt16) :
    isSurrogatePair u v = (isHighSurrogate u && isLowSurrogate v) := by
  simp only [isSurrogatePair, isHighSurrogate, isLowSurrogate, Bool.and_assoc]

/-- The code point in front of a cut is the last one of the part before it. -/
theorem getCodePointBefore_append (before rest : JsString) :
    getCodePointBefore (before ++ rest) before.length = (codePoints before).getLast? := by
  rcases List.eq_nil_or_concat before with hnil | ⟨init, u, hconcat⟩
  · rw [hnil]
    rfl
  rw [List.concat_eq_append] at hconcat
  have hlength : before.length = init.length + 1 := by rw [hconcat, List.length_append]; rfl
  have hlast : (before ++ rest)[before.length - 1]? = some u := by
    rw [hlength, hconcat, List.append_assoc, Nat.add_sub_cancel, List.getElem?_append_right
      (Nat.le_refl _), Nat.sub_self]
    rfl
  have hsingle : sliceUnits (before ++ rest) (before.length - 1) before.length = [u] := by
    rw [hlength, hconcat, List.append_assoc, Nat.add_sub_cancel]
    exact sliceUnits_append init [u] rest
  unfold getCodePointBefore
  rw [if_neg (by omega), hlast]
  rcases List.eq_nil_or_concat init with hinit | ⟨init', w, hinit⟩
  · -- A single unit is a code point by itself.
    rw [hinit] at hlength hconcat
    rw [if_neg, hsingle, hconcat]
    · rfl
    · rw [hlength]
      simp
  rw [List.concat_eq_append] at hinit
  have hlength' : before.length = init'.length + 2 := by
    rw [hlength, hinit, List.length_append]
    rfl
  have hprevious : (before ++ rest)[before.length - 2]? = some w := by
    rw [hlength', hconcat, hinit, List.append_assoc, List.append_assoc, Nat.add_sub_cancel,
      List.getElem?_append_right (Nat.le_refl _), Nat.sub_self]
    rfl
  rw [hprevious, Option.any_some, Option.any_some]
  by_cases hpair : isSurrogatePair w u = true
  · rw [if_pos]
    · have hbefore : before = init' ++ [w, u] := by rw [hconcat, hinit, List.append_assoc]; rfl
      have hpoints : codePoints before = codePoints init' ++ [[w, u]] := by
        rw [hbefore, codePoints_append, codePoints_pair hpair]
        · rfl
        · intro x y _ hy
          rw [List.head?_cons, Option.some.injEq] at hy
          rw [← hy]
          exact isSurrogatePair_high hpair
      rw [hpoints, List.getLast?_concat, hlength', hbefore, List.append_assoc, Nat.add_sub_cancel]
      exact congrArg some (sliceUnits_append init' [w, u] rest)
    · rw [isSurrogatePair_eq, Bool.and_eq_true] at hpair
      rw [hpair.1, hpair.2, hlength']
      simp
  · rw [if_neg]
    · have hpoints : codePoints before = codePoints init ++ [[u]] := by
        rw [hconcat, codePoints_append]
        · rfl
        · intro x y hx hy
          rw [hinit, List.getLast?_concat, Option.some.injEq] at hx
          rw [List.head?_cons, Option.some.injEq] at hy
          rw [← hx, ← hy, Bool.eq_false_iff]
          exact hpair
      rw [hpoints, List.getLast?_concat, hsingle]
    · rw [isSurrogatePair_eq, Bool.and_eq_true] at hpair
      simp only [Bool.and_eq_true, not_and]
      intro hlow hhigh
      exact hpair ⟨hhigh, hlow.1⟩

/-- The code point behind a cut is the first one of the part behind it. -/
theorem getCodePointAfter_append (before after : JsString) :
    getCodePointAfter (before ++ after) before.length = (codePoints after).head? := by
  unfold getCodePointAfter
  cases after with
  | nil =>
      rw [if_pos (by rw [List.append_nil])]
      rfl
  | cons u after =>
      have hfirst : (before ++ u :: after)[before.length]? = some u := by
        rw [List.getElem?_append_right (Nat.le_refl _), Nat.sub_self]
        rfl
      have hsecond : (before ++ u :: after)[before.length + 1]? = after.head? := by
        rw [List.getElem?_append_right (Nat.le_add_right _ 1), Nat.add_sub_cancel_left,
          List.getElem?_cons_succ, List.head?_eq_getElem?]
      have hsingle : sliceUnits (before ++ u :: after) before.length (before.length + 1) = [u] :=
        sliceUnits_append before [u] after
      rw [if_neg (by rw [List.length_append, List.length_cons]; omega), hfirst, hsecond, hsingle]
      cases after with
      | nil =>
          rw [if_neg (by simp)]
          rfl
      | cons v after =>
          rw [List.head?_cons, Option.any_some, Option.any_some]
          by_cases hpair : isSurrogatePair u v = true
          · rw [codePoints_pair hpair, List.head?_cons, if_pos]
            · exact congrArg some (sliceUnits_append before [u, v] after)
            · rw [isSurrogatePair_eq, Bool.and_eq_true] at hpair
              rw [hpair.1, hpair.2]
              simp
          · rw [codePoints, if_neg hpair, List.head?_cons, if_neg]
            rw [isSurrogatePair_eq, Bool.and_eq_true] at hpair
            simp only [Bool.and_eq_true, not_and]
            intro hhigh hlow
            exact hpair ⟨hhigh.1, hlow⟩

/-- An occurrence is where dropping the units in front of it leaves it first. -/
theorem prefix_drop_of_eq {value before token after : JsString}
    (h : value = before ++ (token ++ after)) : token <+: value.drop before.length := by
  rw [h, List.drop_left]
  exact List.prefix_append token after

theorem split_of_prefix_drop {value token : JsString} {index : Nat} (hle : index ≤ value.length)
    (h : token <+: value.drop index) :
    ∃ before after, value = before ++ (token ++ after) ∧ before.length = index := by
  rcases h with ⟨after, hafter⟩
  refine ⟨value.take index, after, ?_, ?_⟩
  · rw [hafter, List.take_append_drop]
  · rw [List.length_take, Nat.min_eq_left hle]

section

variable (isWordCodePoint : Nat → Bool)

/-- The test of a match: the occurrence at its index stands alone. -/
theorem boundaries_iff {value token before after : JsString}
    (hvalue : value = before ++ (token ++ after)) :
    ((getCodePointBefore value before.length).all (isTokenBoundaryCharacter isWordCodePoint) &&
        (getCodePointAfter value (before.length + token.length)).all
          (isTokenBoundaryCharacter isWordCodePoint)) = true ↔
      StandsAlone isWordCodePoint before after := by
  have hbefore : getCodePointBefore value before.length = (codePoints before).getLast? := by
    rw [hvalue]
    exact getCodePointBefore_append before (token ++ after)
  have hafter : getCodePointAfter value (before.length + token.length)
      = (codePoints after).head? := by
    rw [hvalue, ← List.append_assoc, ← List.length_append]
    exact getCodePointAfter_append (before ++ token) after
  rw [hbefore, hafter, Bool.and_eq_true, Option.all_eq_true, Option.all_eq_true]
  rfl

theorem containsTokenFrom_none {value token : JsString} (htoken : token ≠ []) {index : Nat}
    (h : indexOf value token index = none) :
    containsTokenFrom isWordCodePoint value token htoken index = false := by
  rw [containsTokenFrom]
  split
  · rfl
  · rename_i hmatched
    rw [h] at hmatched
    exact absurd hmatched (by simp only [reduceCtorEq, not_false_eq_true])

/-- A match is accepted, or the search goes on one unit behind its start. -/
theorem containsTokenFrom_some {value token : JsString} (htoken : token ≠ [])
    {index matchedIndex : Nat} (h : indexOf value token index = some matchedIndex) :
    containsTokenFrom isWordCodePoint value token htoken index =
      (((getCodePointBefore value matchedIndex).all (isTokenBoundaryCharacter isWordCodePoint) &&
          (getCodePointAfter value (matchedIndex + token.length)).all
            (isTokenBoundaryCharacter isWordCodePoint)) ||
        containsTokenFrom isWordCodePoint value token htoken (matchedIndex + 1)) := by
  conv_lhs => rw [containsTokenFrom]
  split
  · rename_i hmatched
    rw [h] at hmatched
    exact absurd hmatched (by simp only [reduceCtorEq, not_false_eq_true])
  · rename_i matchedIndex' hmatched
    rw [h, Option.some.injEq] at hmatched
    rw [← hmatched]
    simp only []
    split
    · rename_i hboundaries
      rw [hboundaries, Bool.true_or]
    · rename_i hboundaries
      rw [Bool.eq_false_iff.mpr hboundaries, Bool.false_or]

/-- A search from an index finds an occurrence that stands alone, if one starts there or
    behind. -/
theorem containsTokenFrom_iff {value token : JsString} (htoken : token ≠ [])
    (searchStartIndex : Nat) :
    containsTokenFrom isWordCodePoint value token htoken searchStartIndex = true ↔
      ∃ before after, value = before ++ (token ++ after) ∧ searchStartIndex ≤ before.length ∧
        StandsAlone isWordCodePoint before after := by
  induction searchStartIndex using
    containsTokenFrom.induct isWordCodePoint value token htoken with
  | case1 index hnone =>
      rw [containsTokenFrom_none isWordCodePoint htoken hnone]
      refine ⟨fun h => absurd h Bool.false_ne_true, ?_⟩
      rintro ⟨before, after, hvalue, hstart, _⟩
      have hlength : before.length ≤ value.length := by
        rw [hvalue, List.length_append]
        exact Nat.le_add_right _ _
      have hno := indexOf_eq_none_iff.mp hnone before.length (by omega) hlength
      exact absurd (prefix_drop_of_eq hvalue) hno
  | case2 index matchedIndex hmatched _ _ _ _ hboundaries =>
      have hfound := (indexOf_eq_some_iff.mp hmatched).1
      rcases split_of_prefix_drop hfound.2.1 hfound.2.2 with ⟨before, after, hvalue, hlength⟩
      rw [containsTokenFrom_some isWordCodePoint htoken hmatched]
      have halone : StandsAlone isWordCodePoint before after := by
        rw [← boundaries_iff isWordCodePoint hvalue, hlength]
        exact hboundaries
      refine ⟨fun _ => ⟨before, after, hvalue, ?_, halone⟩, fun _ => ?_⟩
      · rw [hlength]
        exact (indexOf_bounds htoken hmatched).1
      · rw [Bool.or_eq_true]
        exact .inl hboundaries
  | case3 index matchedIndex hmatched _ _ _ _ hboundaries ih =>
      rw [containsTokenFrom_some isWordCodePoint htoken hmatched, Bool.or_eq_true, ih]
      constructor
      · rintro (h | ⟨before, after, hvalue, hstart, halone⟩)
        · exact absurd h hboundaries
        · have hbounds := indexOf_bounds htoken hmatched
          exact ⟨before, after, hvalue, by omega, halone⟩
      · rintro ⟨before, after, hvalue, hstart, halone⟩
        refine .inr ⟨before, after, hvalue, ?_, halone⟩
        have hlength : before.length ≤ value.length := by
          rw [hvalue, List.length_append]
          exact Nat.le_add_right _ _
        -- The occurrence is not before the match, which is the first, and not the match
        -- itself, which was refused.
        have hnotless : ¬ before.length < matchedIndex := by
          intro hless
          exact (indexOf_eq_some_iff.mp hmatched).2 before.length (by omega) hless
            (prefix_drop_of_eq hvalue)
        have hnotmatch : before.length ≠ matchedIndex := by
          intro hmatch
          apply hboundaries
          rw [← boundaries_iff isWordCodePoint hvalue, hmatch] at halone
          exact halone
        omega

theorem containsToken_nil (value : JsString) : containsToken isWordCodePoint value [] = false := by
  unfold containsToken
  rw [dif_pos rfl]

theorem containsToken_of_ne_nil {value token : JsString} (htoken : token ≠ []) :
    containsToken isWordCodePoint value token = true ↔
      ∃ before after, value = before ++ token ++ after ∧
        StandsAlone isWordCodePoint before after := by
  unfold containsToken
  rw [dif_neg htoken, containsTokenFrom_iff]
  constructor
  · rintro ⟨before, after, hvalue, _, halone⟩
    exact ⟨before, after, by rw [hvalue, List.append_assoc], halone⟩
  · rintro ⟨before, after, hvalue, halone⟩
    exact ⟨before, after, by rw [hvalue, List.append_assoc], Nat.zero_le _, halone⟩

/-- The search succeeds exactly when the token is not empty and some occurrence of it has, on
    each side, the end of the text or a boundary. -/
theorem containsToken_iff (value token : JsString) :
    containsToken isWordCodePoint value token = true ↔
      token ≠ [] ∧ ∃ before after, value = before ++ token ++ after ∧
        StandsAlone isWordCodePoint before after := by
  by_cases htoken : token = []
  · rw [htoken, containsToken_nil]
    exact ⟨fun h => absurd h Bool.false_ne_true, fun h => absurd rfl h.1⟩
  · rw [containsToken_of_ne_nil isWordCodePoint htoken, and_iff_right htoken]

theorem standsAlone_flatMap (before after : List Char) :
    StandsAlone isWordCodePoint (before.flatMap charUnits) (after.flatMap charUnits) ↔
      (∀ c, before.getLast? = some c →
          isTokenBoundaryCharacter isWordCodePoint (charUnits c) = true) ∧
        ∀ c, after.head? = some c →
          isTokenBoundaryCharacter isWordCodePoint (charUnits c) = true := by
  unfold StandsAlone
  rw [codePoints_flatMap, codePoints_flatMap, List.getLast?_map, List.head?_map]
  simp only [Option.map_eq_some_iff, forall_exists_index, and_imp, forall_apply_eq_imp_iff₂]

/-- On scalar strings an occurrence is one of characters, and so are its boundaries. -/
theorem containsToken_toJs_iff (value token : String) :
    containsToken isWordCodePoint (toJs value) (toJs token) = true ↔
      token ≠ "" ∧ ∃ before after, value.toList = before ++ token.toList ++ after ∧
        (∀ c, before.getLast? = some c →
            isTokenBoundaryCharacter isWordCodePoint (charUnits c) = true) ∧
          ∀ c, after.head? = some c →
            isTokenBoundaryCharacter isWordCodePoint (charUnits c) = true := by
  by_cases hempty : token = ""
  · have hnil : toJs "" = [] := rfl
    rw [hempty, hnil, containsToken_nil]
    exact ⟨fun h => absurd h Bool.false_ne_true, fun h => absurd rfl h.1⟩
  have htoken : toJs token ≠ [] := fun h => hempty (toJs_injective h)
  rw [containsToken_of_ne_nil isWordCodePoint htoken, and_iff_right hempty]
  constructor
  · rintro ⟨before, after, hvalue, halone⟩
    have hchars : token.toList ≠ [] := fun h => hempty (String.toList_eq_nil_iff.mp h)
    have hhead : ∃ v, (toJs token ++ after).head? = some v ∧
        ¬ (0xDC00 ≤ v.toNat ∧ v.toNat ≤ 0xDFFF) := by
      unfold toJs
      cases hlist : token.toList with
      | nil => exact absurd hlist hchars
      | cons c cs =>
          rcases head?_charUnits c with ⟨u, rest, hunits, hu⟩
          exact ⟨u, by rw [List.flatMap_cons, hunits]; rfl, hu⟩
    rw [List.append_assoc] at hvalue
    rcases chars_of_append hvalue hhead with ⟨xs, ys, hlist, hbefore, hrest⟩
    rcases chars_of_append_left hrest.symm with ⟨zs, hys, hafter⟩
    refine ⟨xs, zs, by rw [hlist, hys, List.append_assoc], ?_⟩
    rw [hbefore, hafter] at halone
    exact (standsAlone_flatMap isWordCodePoint xs zs).mp halone
  · rintro ⟨before, after, hvalue, halone⟩
    refine ⟨before.flatMap charUnits, after.flatMap charUnits, ?_,
      (standsAlone_flatMap isWordCodePoint before after).mpr halone⟩
    unfold toJs
    rw [hvalue, List.flatMap_append, List.flatMap_append]

end

end Mistle
