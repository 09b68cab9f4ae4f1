import Mathlib.Data.List.Basic
import Mathlib.Data.List.Induction

/-!
# Cutting Lists

Prefixes and suffixes taken off a list, a list cut at the first or the last
occurrence of a separator, and lists put together with a separator between them.

## Main definitions

* `stripPrefix`, `stripSuffix`: What is left without a prefix or a suffix.
* `splitOnce`, `rsplitOnce`: The two sides of the first or the last separator.
* `completed`, `remainder`: The pieces that a separator ends, and what no separator ends.

## Theorems

* `stripPrefix_append`, `stripSuffix_append`: What was put on comes off.
* `splitOnce_append`, `rsplitOnce_append`: The separator found is the one put there.
* `intercalate_cons_inj`, `intercalate_inj`: Lists put together with a separator can be taken off again,
  as long as the separator is not in them.
* `cut_append`: A list in two parts is cut as its second part is
  behind what the first left.
-/

namespace Mistle

section

variable {α : Type} [DecidableEq α]

/-- The rest of a list behind a prefix, if it begins with it. -/
def stripPrefix : (start l : List α) → Option (List α)
  | [], l => some l
  | _ :: _, [] => none
  | a :: start, b :: l => if a = b then stripPrefix start l else none

/-- The rest of a list before a suffix, if it ends with it. -/
def stripSuffix (ending l : List α) : Option (List α) :=
  (stripPrefix ending.reverse l.reverse).map List.reverse

/-- What stands before and behind the first separator. -/
def splitOnce (separator : α) : List α → Option (List α × List α)
  | [] => none
  | a :: l =>
    if a = separator then some ([], l)
    else (splitOnce separator l).map fun (before, after) => (a :: before, after)

/-- What stands before and behind the last separator. -/
def rsplitOnce (separator : α) (l : List α) : Option (List α × List α) :=
  (splitOnce separator l.reverse).map fun (before, after) => (after.reverse, before.reverse)

@[simp] theorem stripPrefix_append (start l : List α) :
    stripPrefix start (start ++ l) = some l := by
  induction start with
  | nil => rfl
  | cons a start ih => rw [List.cons_append, stripPrefix, if_pos rfl, ih]

@[simp] theorem stripSuffix_append (l ending : List α) :
    stripSuffix ending (l ++ ending) = some l := by
  rw [stripSuffix, List.reverse_append, stripPrefix_append, Option.map_some, List.reverse_reverse]

theorem splitOnce_append {separator : α} {before : List α} (h : separator ∉ before)
    (after : List α) : splitOnce separator (before ++ separator :: after) = some (before, after) := by
  induction before with
  | nil => rw [List.nil_append, splitOnce, if_pos rfl]
  | cons a before ih =>
      rw [List.mem_cons, not_or] at h
      rw [List.cons_append, splitOnce, if_neg (Ne.symm h.1), ih h.2, Option.map_some]

theorem rsplitOnce_append {separator : α} {after : List α} (h : separator ∉ after)
    (before : List α) :
    rsplitOnce separator (before ++ separator :: after) = some (before, after) := by
  rw [rsplitOnce, List.reverse_append, List.reverse_cons, List.append_assoc,
    List.singleton_append, splitOnce_append (fun hmem => h (List.mem_reverse.mp hmem))]
  simp only [Option.map_some, List.reverse_reverse]

theorem splitOnce_eq_none {separator : α} {l : List α} (h : separator ∉ l) :
    splitOnce separator l = none := by
  induction l with
  | nil => rfl
  | cons a l ih =>
      rw [List.mem_cons, not_or] at h
      rw [splitOnce, if_neg (Ne.symm h.1), ih h.2, Option.map_none]

theorem not_mem_of_splitOnce {separator : α} {l : List α} (h : splitOnce separator l = none) :
    separator ∉ l := by
  induction l with
  | nil => exact List.not_mem_nil
  | cons a l ih =>
      rw [splitOnce] at h
      split at h
      · exact absurd h (by simp only [reduceCtorEq, not_false_eq_true])
      · rename_i ha
        rw [List.mem_cons, not_or]
        exact ⟨Ne.symm ha, ih (Option.map_eq_none_iff.mp h)⟩

/-- What was cut at its first separator. -/
theorem append_of_splitOnce {separator : α} {l before after : List α}
    (h : splitOnce separator l = some (before, after)) :
    l = before ++ separator :: after ∧ separator ∉ before := by
  induction l generalizing before with
  | nil => exact absurd h (by simp only [splitOnce, reduceCtorEq, not_false_eq_true])
  | cons a l ih =>
      rw [splitOnce] at h
      split at h
      · rename_i ha
        rw [Option.some.injEq, Prod.mk.injEq] at h
        rw [← h.1, ← h.2, ha]
        exact ⟨rfl, List.not_mem_nil⟩
      · rename_i ha
        rcases Option.map_eq_some_iff.mp h with ⟨⟨before', after'⟩, hsplit, hresult⟩
        rw [Prod.mk.injEq] at hresult
        rw [hresult.2] at hsplit
        rcases ih hsplit with ⟨hl, hbefore⟩
        rw [← hresult.1, hl, List.cons_append, List.mem_cons, not_or]
        exact ⟨rfl, Ne.symm ha, hbefore⟩

/-- The first of the lists that were put together, and whether another one follows. -/
theorem splitOnce_intercalate {separator : α} {a : List α} (h : separator ∉ a)
    (rest : List (List α)) :
    splitOnce separator (List.intercalate [separator] (a :: rest)) =
      if rest = [] then none else some (a, List.intercalate [separator] rest) := by
  cases rest with
  | nil => rw [List.intercalate_singleton, splitOnce_eq_none h, if_pos rfl]
  | cons b rest =>
      rw [List.intercalate_cons_cons, List.append_assoc, List.singleton_append,
        splitOnce_append h, if_neg (List.cons_ne_nil b rest)]

theorem intercalate_cons_inj {separator : α} {a b : List α} {as bs : List (List α)}
    (ha : separator ∉ a) (hb : separator ∉ b)
    (h : List.intercalate [separator] (a :: as) = List.intercalate [separator] (b :: bs)) :
    a = b ∧ (as = [] ↔ bs = []) ∧
      List.intercalate [separator] as = List.intercalate [separator] bs := by
  have hsplit := congrArg (splitOnce separator) h
  rw [splitOnce_intercalate ha, splitOnce_intercalate hb] at hsplit
  by_cases has : as = []
  · by_cases hbs : bs = []
    · rw [has, hbs, List.intercalate_singleton, List.intercalate_singleton] at h
      exact ⟨h, by rw [has, hbs], by rw [has, hbs]⟩
    · rw [if_pos has, if_neg hbs] at hsplit
      exact absurd hsplit (by simp only [reduceCtorEq, not_false_eq_true])
  · by_cases hbs : bs = []
    · rw [if_neg has, if_pos hbs] at hsplit
      exact absurd hsplit (by simp only [reduceCtorEq, not_false_eq_true])
    · rw [if_neg has, if_neg hbs, Option.some.injEq, Prod.mk.injEq] at hsplit
      exact ⟨hsplit.1, by simp only [has, hbs], hsplit.2⟩

/-- Lists without the separator are told by what they are together. -/
theorem intercalate_inj {separator : α} : ∀ {as bs : List (List α)}, as ≠ [] → bs ≠ [] →
    (∀ a ∈ as, separator ∉ a) → (∀ b ∈ bs, separator ∉ b) →
    List.intercalate [separator] as = List.intercalate [separator] bs → as = bs
  | [], _, has, _, _, _, _ => absurd rfl has
  | _ :: _, [], _, hbs, _, _, _ => absurd rfl hbs
  | a :: as, b :: bs, _, _, ha, hb, h => by
      rcases intercalate_cons_inj (ha a (List.mem_cons_self ..)) (hb b (List.mem_cons_self ..)) h
        with ⟨hfirst, hends, hrest⟩
      rw [hfirst, List.cons.injEq, and_iff_right rfl]
      by_cases hnil : as = []
      · rw [hnil, hends.mp hnil]
      · exact intercalate_inj hnil (fun h => hnil (hends.mpr h))
          (fun a' ha' => ha a' (List.mem_cons_of_mem _ ha'))
          (fun b' hb' => hb b' (List.mem_cons_of_mem _ hb')) hrest

/-! ### Pieces that a separator ends -/

/-- The pieces of a list that a separator ends. -/
def completed (separator : α) (l : List α) : List (List α) :=
  (l.splitOn separator).dropLast

/-- What stands behind the last separator. -/
def remainder (separator : α) (l : List α) : List α :=
  (l.splitOn separator).getLastD []

@[simp] theorem completed_nil (separator : α) : completed separator [] = [] := rfl

@[simp] theorem remainder_nil (separator : α) : remainder separator [] = [] := rfl

theorem splitOn_eq_completed (separator : α) (l : List α) :
    l.splitOn separator = completed separator l ++ [remainder separator l] := by
  have hne := List.splitOn_ne_nil separator l
  rw [completed, remainder, List.getLastD_eq_getLast?, List.getLast?_eq_some_getLast hne,
    Option.getD_some, List.dropLast_append_getLast]

theorem cut_of_splitOn {separator : α} {l rest : List α} (pieces : List (List α))
    (h : l.splitOn separator = pieces ++ [rest]) :
    completed separator l = pieces ∧ remainder separator l = rest := by
  rw [completed, remainder, h, List.dropLast_concat, List.getLastD_concat]
  exact ⟨rfl, rfl⟩

/-- One more element lengthens the last piece, or ends it. -/
theorem splitOn_snoc (separator : α) (l : List α) (a : α) :
    (l ++ [a]).splitOn separator =
      if a = separator then completed separator l ++ [remainder separator l, []]
      else completed separator l ++ [remainder separator l ++ [a]] := by
  by_cases ha : a = separator
  · rw [if_pos ha, ha, List.splitOn_append_cons_self, splitOn_eq_completed]
    simp
  · rw [if_neg ha]
    induction l with
    | nil =>
        rw [List.nil_append, List.splitOn_eq_singleton (by simpa using fun h => ha h.symm)]
        rfl
    | cons b l ih =>
        have hl := splitOn_eq_completed separator l
        rw [List.cons_append, List.splitOn_cons_eq_if_modifyHead, ih]
        by_cases hb : b = separator
        · have hcut : (b :: l).splitOn separator =
              ([] :: completed separator l) ++ [remainder separator l] := by
            rw [List.splitOn_cons_eq_if_modifyHead, if_pos (by simpa using hb), hl,
              List.cons_append]
          rw [if_pos (by simpa using hb), (cut_of_splitOn _ hcut).1, (cut_of_splitOn _ hcut).2,
            List.cons_append]
        · -- The head is in front of the first piece, which may be the last one too.
          rw [if_neg (by simpa using hb)]
          have hcut := List.splitOn_cons_eq_if_modifyHead b l (a := separator)
          rw [if_neg (by simpa using hb), hl] at hcut
          cases hpieces : completed separator l with
          | nil =>
              rw [hpieces] at hcut
              rw [(cut_of_splitOn [] hcut).1, (cut_of_splitOn [] hcut).2]
              rfl
          | cons piece pieces =>
              rw [hpieces] at hcut
              rw [(cut_of_splitOn ((b :: piece) :: pieces) hcut).1,
                (cut_of_splitOn ((b :: piece) :: pieces) hcut).2]
              rfl

theorem completed_snoc (separator : α) (l : List α) (a : α) :
    completed separator (l ++ [a]) =
      if a = separator then completed separator l ++ [remainder separator l]
      else completed separator l := by
  have h := splitOn_snoc separator l a
  split at h
  · rw [if_pos ‹_›]
    exact (cut_of_splitOn (_ ++ [_]) (by rw [h, List.append_assoc]; rfl)).1
  · rw [if_neg ‹_›]
    exact (cut_of_splitOn _ h).1

theorem remainder_snoc (separator : α) (l : List α) (a : α) :
    remainder separator (l ++ [a]) =
      if a = separator then [] else remainder separator l ++ [a] := by
  have h := splitOn_snoc separator l a
  split at h
  · rw [if_pos ‹_›]
    exact (cut_of_splitOn (completed separator l ++ [remainder separator l])
      (by rw [h, List.append_assoc]; rfl)).2
  · rw [if_neg ‹_›]
    exact (cut_of_splitOn _ h).2

theorem not_mem_remainder (separator : α) (l : List α) : separator ∉ remainder separator l := by
  induction l using List.reverseRecOn with
  | nil => exact List.not_mem_nil
  | append_singleton l a ih =>
      rw [remainder_snoc]
      split
      · exact List.not_mem_nil
      · rename_i ha
        rw [List.mem_append, List.mem_singleton, not_or]
        exact ⟨ih, fun h => ha h.symm⟩

/-- What no separator ends is one piece. -/
theorem cut_remainder (separator : α) (l : List α) :
    completed separator (remainder separator l) = [] ∧
      remainder separator (remainder separator l) = remainder separator l :=
  cut_of_splitOn [] (List.splitOn_eq_singleton (not_mem_remainder separator l))

/-- A list in two parts is cut as its second part is behind what the first left. -/
theorem cut_append (separator : α) (l m : List α) :
    completed separator (l ++ m) =
        completed separator l ++ completed separator (remainder separator l ++ m) ∧
      remainder separator (l ++ m) = remainder separator (remainder separator l ++ m) := by
  induction m using List.reverseRecOn with
  | nil =>
      have hcut := cut_remainder separator l
      rw [List.append_nil, List.append_nil, hcut.1, hcut.2, List.append_nil]
      exact ⟨rfl, rfl⟩
  | append_singleton m a ih =>
      rw [← List.append_assoc, ← List.append_assoc, completed_snoc, completed_snoc,
        remainder_snoc, remainder_snoc, ih.1, ih.2]
      split
      · exact ⟨List.append_assoc _ _ _, rfl⟩
      · exact ⟨rfl, rfl⟩

end

end Mistle
