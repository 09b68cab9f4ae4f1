import Mistle.Lib.Text

/-!
# Code Points of a Code-Unit String

A string of UTF-16 code units reads as a list of code points from left to right:
a high surrogate in front of a low one is read together with it, and every other
unit stands for itself, surrogates that pair with nothing included. No unit is
both high and low, so where a string is cut makes a difference only if the cut
falls inside a pair, and the last code point is told by the last two units just
as the first is by the first two.

## Main definitions

* `codePoints`: The code points of a string, each as the units it is written with.

## Theorems

* `codePoints_append`: Code points on both sides of a cut that splits no pair.
* `codePoints_flatMap`: A scalar string reads as its characters.
* `chars_of_append`: Where a scalar string is cut in front of a character.
-/

namespace Mistle

/-- The code points of a string, each as the units it is written with. -/
def codePoints : JsString → List JsString
  | [] => []
  | [u] => [[u]]
  | u :: v :: rest =>
    if isSurrogatePair u v then [u, v] :: codePoints rest
    else [u] :: codePoints (v :: rest)

theorem codePoints_pair {u v : UInt16} (h : isSurrogatePair u v = true) (rest : JsString) :
    codePoints (u :: v :: rest) = [u, v] :: codePoints rest := by
  rw [codePoints, if_pos h]

theorem codePoints_single {u : UInt16} {rest : JsString}
    (h : ∀ v, rest.head? = some v → isSurrogatePair u v = false) :
    codePoints (u :: rest) = [u] :: codePoints rest := by
  cases rest with
  | nil => rfl
  | cons v rest =>
      rw [codePoints, if_neg]
      rw [h v rfl]
      exact Bool.false_ne_true

/-- The high unit of a pair is the low unit of no other. -/
theorem isSurrogatePair_high {u v w : UInt16} (h : isSurrogatePair u v = true) :
    isSurrogatePair w u = false := by
  simp only [isSurrogatePair, Bool.and_eq_true, decide_eq_true_eq] at h
  rw [Bool.eq_false_iff]
  simp only [isSurrogatePair, ne_eq, Bool.and_eq_true, decide_eq_true_eq]
  omega

/-- A cut that splits no pair splits the code points. -/
theorem codePoints_append (a b : JsString)
    (h : ∀ u v, a.getLast? = some u → b.head? = some v → isSurrogatePair u v = false) :
    codePoints (a ++ b) = codePoints a ++ codePoints b := by
  induction a using codePoints.induct with
  | case1 => rfl
  | case2 u =>
      rw [List.singleton_append, codePoints_single fun v hv => h u v rfl hv]
      rfl
  | case3 u v rest hpair ih =>
      have hrest := ih fun w x hw hx => h w x (by simp [List.getLast?_cons, hw]) hx
      rw [List.cons_append, List.cons_append, codePoints_pair hpair, codePoints_pair hpair, hrest]
      rfl
  | case4 u v rest hpair ih =>
      have hrest := ih fun w x hw hx => h w x (by rw [List.getLast?_cons, hw]; rfl) hx
      have hsingle : ∀ tail : JsString, codePoints (u :: v :: tail) = [u] :: codePoints (v :: tail) :=
        fun tail => by rw [codePoints, if_neg hpair]
      rw [List.cons_append, List.cons_append, hsingle, ← List.cons_append, hrest, hsingle]
      rfl

/-- The code points of a character's units: one. -/
theorem codePoints_charUnits (c : Char) (rest : JsString)
    (h : ∀ v, rest.head? = some v → ¬ (0xDC00 ≤ v.toNat ∧ v.toNat ≤ 0xDFFF)) :
    codePoints (charUnits c ++ rest) = charUnits c :: codePoints rest := by
  have hvalid : c.toNat < 0xD800 ∨ (0xDFFF < c.toNat ∧ c.toNat < 0x110000) := c.valid
  unfold charUnits
  by_cases hsmall : c.toNat < 0x10000
  · rw [if_pos hsmall, List.singleton_append]
    refine codePoints_single fun v hv => ?_
    have hlow := h v hv
    rw [Bool.eq_false_iff]
    simp only [isSurrogatePair, ne_eq, Bool.and_eq_true, decide_eq_true_eq]
    omega
  · rw [if_neg hsmall, List.cons_append, List.singleton_append]
    refine codePoints_pair ?_ rest
    have hhi : (UInt16.ofNat (0xD800 + (c.toNat - 0x10000) / 0x400)).toNat
        = 0xD800 + (c.toNat - 0x10000) / 0x400 := by
      rw [UInt16.toNat_ofNat']
      omega
    have hlo : (UInt16.ofNat (0xDC00 + (c.toNat - 0x10000) % 0x400)).toNat
        = 0xDC00 + (c.toNat - 0x10000) % 0x400 := by
      rw [UInt16.toNat_ofNat']
      omega
    simp only [isSurrogatePair, hhi, hlo, Bool.and_eq_true, decide_eq_true_eq]
    omega

/-- A character is one unit, or two of which the second is a low surrogate. -/
theorem charUnits_cases (c : Char) :
    (∃ u, charUnits c = [u]) ∨
      ∃ u v, charUnits c = [u, v] ∧ 0xDC00 ≤ v.toNat ∧ v.toNat ≤ 0xDFFF := by
  have hvalid : c.toNat < 0xD800 ∨ (0xDFFF < c.toNat ∧ c.toNat < 0x110000) := c.valid
  unfold charUnits
  by_cases hsmall : c.toNat < 0x10000
  · rw [if_pos hsmall]
    exact .inl ⟨_, rfl⟩
  · rw [if_neg hsmall]
    refine .inr ⟨_, _, rfl, ?_⟩
    rw [UInt16.toNat_ofNat']
    omega

/-- The units of a character do not start with a low surrogate. -/
theorem head?_charUnits (c : Char) :
    ∃ u rest, charUnits c = u :: rest ∧ ¬ (0xDC00 ≤ u.toNat ∧ u.toNat ≤ 0xDFFF) := by
  have hvalid : c.toNat < 0xD800 ∨ (0xDFFF < c.toNat ∧ c.toNat < 0x110000) := c.valid
  unfold charUnits
  by_cases hsmall : c.toNat < 0x10000
  · rw [if_pos hsmall]
    refine ⟨_, _, rfl, ?_⟩
    rw [UInt16.toNat_ofNat']
    omega
  · rw [if_neg hsmall]
    refine ⟨_, _, rfl, ?_⟩
    rw [UInt16.toNat_ofNat']
    omega

theorem head?_flatMap_charUnits {cs : List Char} {v : UInt16}
    (h : (cs.flatMap charUnits).head? = some v) : ¬ (0xDC00 ≤ v.toNat ∧ v.toNat ≤ 0xDFFF) := by
  cases cs with
  | nil => exact absurd h (by simp)
  | cons c cs =>
      rcases head?_charUnits c with ⟨u, rest, hunits, hu⟩
      rw [List.flatMap_cons, hunits, List.cons_append, List.head?_cons, Option.some.injEq] at h
      rwa [← h]

/-- A scalar string reads as its characters. -/
theorem codePoints_flatMap (cs : List Char) :
    codePoints (cs.flatMap charUnits) = cs.map charUnits := by
  induction cs with
  | nil => rfl
  | cons c cs ih =>
      rw [List.flatMap_cons, codePoints_charUnits c _ fun v hv => head?_flatMap_charUnits hv, ih,
        List.map_cons]

/-- A string of characters that starts with others has the rest behind them. -/
theorem chars_of_append_left {cs ts : List Char} {after : JsString}
    (h : cs.flatMap charUnits = ts.flatMap charUnits ++ after) :
    ∃ ys, cs = ts ++ ys ∧ after = ys.flatMap charUnits := by
  induction ts generalizing cs with
  | nil => exact ⟨cs, rfl, h.symm⟩
  | cons t ts ih =>
      have hread := unitsChars_flatMap cs
      rw [h, List.flatMap_cons, List.append_assoc, unitsChars_charUnits,
        Option.map_eq_some_iff] at hread
      rcases hread with ⟨rest, hrest, hcs⟩
      rcases ih (flatMap_of_unitsChars _ rest hrest) with ⟨ys, hys, hafter⟩
      exact ⟨ys, by rw [← hcs, hys, List.cons_append], hafter⟩

/-- A cut of a scalar string in front of something that does not start with a low surrogate
    is between two characters. -/
theorem chars_of_append {cs : List Char} {before rest : JsString}
    (h : cs.flatMap charUnits = before ++ rest)
    (hrest : ∃ v, rest.head? = some v ∧ ¬ (0xDC00 ≤ v.toNat ∧ v.toNat ≤ 0xDFFF)) :
    ∃ xs ys, cs = xs ++ ys ∧ before = xs.flatMap charUnits ∧ rest = ys.flatMap charUnits := by
  induction cs generalizing before with
  | nil =>
      rw [List.flatMap_nil] at h
      rcases List.append_eq_nil_iff.mp h.symm with ⟨hbefore, hnil⟩
      exact ⟨[], [], rfl, hbefore, hnil⟩
  | cons c cs ih =>
      cases before with
      | nil => exact ⟨[], c :: cs, rfl, rfl, h.symm⟩
      | cons u before =>
          rw [List.flatMap_cons] at h
          rcases charUnits_cases c with ⟨w, hone⟩ | ⟨w, v, htwo, hlow⟩
          · rw [hone, List.singleton_append, List.cons_append, List.cons.injEq] at h
            rcases ih h.2 with ⟨xs, ys, hcs, hbefore, hys⟩
            refine ⟨c :: xs, ys, by rw [hcs, List.cons_append], ?_, hys⟩
            rw [List.flatMap_cons, hone, hbefore, h.1, List.singleton_append]
          · rw [htwo, List.cons_append, List.cons_append, List.cons_append, List.cons.injEq] at h
            cases before with
            | nil =>
                -- The cut would be inside the pair.
                rcases hrest with ⟨w, hw, hnot⟩
                rw [List.nil_append, List.nil_append] at h
                rw [← h.2, List.head?_cons, Option.some.injEq] at hw
                rw [← hw] at hnot
                exact absurd hlow hnot
            | cons v' before =>
                rw [List.cons_append, List.cons.injEq, List.nil_append] at h
                rcases ih h.2.2 with ⟨xs, ys, hcs, hbefore, hys⟩
                refine ⟨c :: xs, ys, by rw [hcs, List.cons_append], ?_, hys⟩
                rw [List.flatMap_cons, htwo, hbefore, h.1, h.2.1]
                rfl

end Mistle
