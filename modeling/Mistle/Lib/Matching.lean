import Mathlib.Data.List.Pairwise
import Mathlib.Tactic.Common

/-!
# Matching Against Patterns

A pattern admits some values, and what two patterns both admit is what a request may
have that is matched by both. Where a pattern is made of independent sides, two patterns
meet exactly where all their sides do.

A path prefix admits the paths that are it or go on behind it with a separator. Two
prefixes admit a common path exactly where one of them admits the other, so the question
about all paths is one about two texts.

Candidates that are tried one after the other, until one matches or a test fails, give an
answer that may depend on their order. It does not where at most one matches, no test
fails beside a match, and the tests fail in one way only.

## Main definitions

* `Covers`: A path is a prefix, or goes on behind it.
* `cutLast`: A prefix without the separator at its end.
* `PrefixesMeet`, `Pattern.Meet`: Patterns that have something in common.
* `readUntil`: What can be read before the first failure.

## Theorems

* `covers_meet_iff`, `prefixesMeet_iff`: Prefixes have a path in common exactly where one
  covers the other.
* `Pattern.meet_iff`: Patterns meet exactly where all their sides do.
* `anyM_eq_true_iff`: Some test holds, and none before it fails.
* `findM?_eq_find?_iff`: When tests that may fail find what plain ones find.
* `findM?_perm`: The first match does not depend on the order.
* `length_filter_le_one_iff`: At most one of a list is matched.
-/

namespace Mistle

section

variable {α : Type}

/-! ### Prefixes of paths -/

/-- A path is the prefix or goes on behind it, and everything is behind the separator
    alone. -/
def Covers (separator : α) (start path : List α) : Prop :=
  start = [separator] ∨ path = start ∨ start ++ [separator] <+: path

instance [DecidableEq α] (separator : α) (start path : List α) :
    Decidable (Covers separator start path) :=
  inferInstanceAs (Decidable (_ ∨ _ ∨ _))

theorem Covers.refl (separator : α) (start : List α) : Covers separator start start :=
  .inr (.inl rfl)

/-- Of two prefixes of one path one covers the other. -/
theorem Covers.comparable {separator : α} {a b path : List α} (ha : Covers separator a path)
    (hb : Covers separator b path) : Covers separator a b ∨ Covers separator b a := by
  rcases ha with ha | ha | ha
  · exact .inl (.inl ha)
  · rw [← ha]
    exact .inr hb
  · rcases hb with hb | hb | hb
    · exact .inr (.inl hb)
    · rw [← hb]
      exact .inl (.inr (.inr ha))
    · -- Both go on, so the shorter one is a prefix of the longer one.
      rcases List.prefix_or_prefix_of_prefix ha hb with hab | hba
      · rcases List.prefix_concat_iff.mp hab with heq | hab
        · exact .inl (.inr (.inl (List.append_inj' heq rfl).1.symm))
        · exact .inl (.inr (.inr hab))
      · rcases List.prefix_concat_iff.mp hba with heq | hba
        · exact .inr (.inr (.inl (List.append_inj' heq rfl).1.symm))
        · exact .inr (.inr (.inr hba))

/-- Two prefixes have a path in common exactly where one covers the other. -/
theorem covers_meet_iff {separator : α} {a b : List α} {P : List α → Prop} (ha : P a) (hb : P b) :
    (∃ path, P path ∧ Covers separator a path ∧ Covers separator b path) ↔
      Covers separator a b ∨ Covers separator b a := by
  constructor
  · rintro ⟨path, _, ha, hb⟩
    exact ha.comparable hb
  · rintro (hab | hba)
    · exact ⟨b, hb, hab, .refl separator b⟩
    · exact ⟨a, ha, .refl separator a, hba⟩

/-- What covers a path that begins with the separator does so too. -/
theorem Covers.head? {separator : α} {start path : List α} (h : Covers separator start path)
    (hstart : start ≠ []) (hpath : path.head? = some separator) :
    start.head? = some separator := by
  rcases h with h | h | h
  · rw [h]
    rfl
  · rw [← h]
    exact hpath
  · rcases List.exists_cons_of_ne_nil hstart with ⟨a, rest, hcons⟩
    rcases h with ⟨more, hmore⟩
    rw [hcons, List.cons_append, List.cons_append] at hmore
    rw [← hmore, List.head?_cons] at hpath
    rw [hcons, List.head?_cons]
    exact hpath

/-- What covers a path has nothing in it that the path has not, but for the separator. -/
theorem Covers.subset {separator a : α} {start path : List α} (h : Covers separator start path)
    (ha : a ∈ start) : a = separator ∨ a ∈ path := by
  rcases h with h | h | h
  · rw [h, List.mem_singleton] at ha
    exact .inl ha
  · rw [h]
    exact .inr ha
  · exact .inr (h.subset (List.mem_append_left _ ha))

/-- A prefix for all paths that begin with the separator, where it is empty. -/
def rootStart (separator : α) : List α → List α
  | [] => [separator]
  | a :: rest => a :: rest

theorem rootStart_ne_nil (separator : α) (start : List α) : rootStart separator start ≠ [] := by
  cases start <;> exact List.cons_ne_nil _ _

theorem covers_rootStart {separator : α} {start path : List α}
    (hpath : path.head? = some separator) :
    Covers separator (rootStart separator start) path ↔ Covers separator start path := by
  cases start with
  | cons a rest => exact Iff.rfl
  | nil =>
      refine iff_of_true (.inl rfl) (.inr (.inr ?_))
      rcases List.head?_eq_some_iff.mp hpath with ⟨rest, hrest⟩
      exact ⟨rest, hrest.symm⟩

section

variable [DecidableEq α]

/-- A prefix without the separator at its end, but for the separator alone. -/
def cutLast (separator : α) (start : List α) : List α :=
  if start = [separator] then [separator]
  else if start.getLast? = some separator then start.dropLast
  else start

theorem cutLast_head? {separator : α} {start : List α} (h : start.head? = some separator) :
    (cutLast separator start).head? = some separator := by
  rw [cutLast]
  split
  · rfl
  · split
    · rename_i hne hlast
      cases start with
      | nil => exact absurd h (by simp only [List.head?_nil, reduceCtorEq, not_false_eq_true])
      | cons a rest =>
          rw [List.head?_cons, Option.some.injEq] at h
          cases rest with
          | nil => exact absurd (by rw [h]) hne
          | cons b rest => rw [List.dropLast_cons_cons, List.head?_cons, h]
    · exact h

/-- A prefix is as it was cut, or goes on with the separator alone. -/
theorem cutLast_or (separator : α) (start : List α) :
    start = cutLast separator start ∨ start = cutLast separator start ++ [separator] := by
  rw [cutLast]
  split
  · rename_i h
    exact .inl h
  · split
    · rename_i hlast
      rcases List.getLast?_eq_some_iff.mp hlast with ⟨before, hbefore⟩
      rw [hbefore, List.dropLast_concat]
      exact .inr rfl
    · exact .inl rfl

/-- Of two prefixes one covers the other as it stands exactly where one covers the other
    after both were cut. -/
theorem covers_cutLast_iff {separator : α} {a b : List α} :
    (Covers separator (cutLast separator b) a ∨ Covers separator (cutLast separator a) b) ↔
      (Covers separator (cutLast separator a) (cutLast separator b) ∨
        Covers separator (cutLast separator b) (cutLast separator a)) := by
  have hcut : ∀ x y : List α, Covers separator (cutLast separator x) y →
      Covers separator (cutLast separator x) (cutLast separator y) ∨
        Covers separator (cutLast separator y) (cutLast separator x) := by
    intro x y h
    rcases cutLast_or separator y with hy | hy
    · rw [← hy]
      exact .inl h
    · rcases h with h | h | h
      · exact .inl (.inl h)
      · have heq : cutLast separator y ++ [separator] = cutLast separator x := hy.symm.trans h
        exact .inr (.inr (.inr (⟨[], by rw [List.append_nil, heq]⟩)))
      · rw [hy] at h
        rcases List.prefix_concat_iff.mp h with heq | h
        · exact .inl (.inr (.inl (List.append_inj' heq rfl).1.symm))
        · exact .inl (.inr (.inr h))
  have hback : ∀ x y : List α, Covers separator x (cutLast separator y) → Covers separator x y := by
    intro x y h
    rcases cutLast_or separator y with hy | hy
    · rw [hy]
      exact h
    · rcases h with h | h | h
      · exact .inl h
      · have heq : x ++ [separator] = y := by
          rw [← h]
          exact hy.symm
        exact .inr (.inr (⟨[], by rw [List.append_nil, heq]⟩))
      · refine .inr (.inr ?_)
        rw [hy]
        exact h.trans (List.prefix_append _ _)
  constructor
  · rintro (h | h)
    · exact (hcut b a h).symm
    · exact hcut a b h
  · rintro (h | h)
    · exact .inr (hback _ _ h)
    · exact .inl (hback _ _ h)

end

/-- Prefixes of two lists that have a path of a kind in common. -/
def PrefixesMeet (separator : α) (kind : List α → Prop) (left right : List (List α)) : Prop :=
  ∃ a ∈ left, ∃ b ∈ right, kind a ∧ kind b ∧ (Covers separator a b ∨ Covers separator b a)

instance [DecidableEq α] (separator : α) (kind : List α → Prop) [DecidablePred kind]
    (left right : List (List α)) : Decidable (PrefixesMeet separator kind left right) :=
  inferInstanceAs (Decidable (∃ a ∈ left, ∃ b ∈ right, _ ∧ _ ∧ (_ ∨ _)))

/-- A path of a kind is covered from both sides exactly where two prefixes meet, if what
    covers a path of the kind is of the kind itself. -/
theorem prefixesMeet_iff {separator : α} {kind : List α → Prop} {left right : List (List α)}
    (hleft : ∀ a ∈ left, ∀ path, Covers separator a path → kind path → kind a)
    (hright : ∀ b ∈ right, ∀ path, Covers separator b path → kind path → kind b) :
    (∃ path, kind path ∧ (∃ a ∈ left, Covers separator a path) ∧
        ∃ b ∈ right, Covers separator b path) ↔ PrefixesMeet separator kind left right := by
  constructor
  · rintro ⟨path, hkind, ⟨a, ha, hcovers⟩, b, hb, hcovers'⟩
    exact ⟨a, ha, b, hb, hleft a ha path hcovers hkind, hright b hb path hcovers' hkind,
      hcovers.comparable hcovers'⟩
  · rintro ⟨a, ha, b, hb, hkind, hkind', hmeet⟩
    rcases (covers_meet_iff hkind hkind').mpr hmeet with ⟨path, hpath, hcovers, hcovers'⟩
    exact ⟨path, hpath, ⟨a, ha, hcovers⟩, b, hb, hcovers'⟩

/-! ### Patterns with independent sides -/

/-- What a pattern says of each of three sides. -/
structure Pattern (σ τ υ : Type) where
  first : σ → Prop
  second : τ → Prop
  third : υ → Prop

section

variable {σ τ υ : Type}

def Pattern.Admits (p : Pattern σ τ υ) (x : σ) (y : τ) (z : υ) : Prop :=
  p.first x ∧ p.second y ∧ p.third z

/-- Both patterns have something in common on every side, among what is possible. -/
structure Pattern.Meet (possible a b : Pattern σ τ υ) : Prop where
  first : ∃ x, possible.first x ∧ a.first x ∧ b.first x
  second : ∃ y, possible.second y ∧ a.second y ∧ b.second y
  third : ∃ z, possible.third z ∧ a.third z ∧ b.third z

theorem Pattern.meet_iff {possible a b : Pattern σ τ υ} :
    (∃ x y z, possible.Admits x y z ∧ a.Admits x y z ∧ b.Admits x y z) ↔
      Pattern.Meet possible a b := by
  constructor
  · rintro ⟨x, y, z, hpossible, ha, hb⟩
    exact ⟨⟨x, hpossible.1, ha.1, hb.1⟩, ⟨y, hpossible.2.1, ha.2.1, hb.2.1⟩,
      ⟨z, hpossible.2.2, ha.2.2, hb.2.2⟩⟩
  · rintro ⟨⟨x, hx⟩, ⟨y, hy⟩, z, hz⟩
    exact ⟨x, y, z, ⟨hx.1, hy.1, hz.1⟩, ⟨hx.2.1, hy.2.1, hz.2.1⟩, hx.2.2, hy.2.2, hz.2.2⟩

end

/-! ### Tests that may fail -/

section

variable {ε β : Type}

/-- What can be read from the beginning of a list, before the first failure. -/
def readUntil (read : α → Except ε β) : List α → List β
  | [] => []
  | a :: rest =>
    match read a with
    | .error _ => []
    | .ok b => b :: readUntil read rest

theorem mem_readUntil {read : α → Except ε β} {l : List α} {b : β}
    (h : b ∈ readUntil read l) : ∃ a ∈ l, read a = .ok b := by
  induction l with
  | nil => exact absurd h List.not_mem_nil
  | cons a rest ih =>
      rw [readUntil] at h
      split at h
      · exact absurd h List.not_mem_nil
      · rename_i b' hread
        rcases List.mem_cons.mp h with hb | hmem
        · exact ⟨a, List.mem_cons_self, hb ▸ hread⟩
        · rcases ih hmem with ⟨a', ha', hread'⟩
          exact ⟨a', List.mem_cons_of_mem _ ha', hread'⟩

/-- Some test holds, and none before it fails. -/
theorem anyM_eq_true_iff {read : α → Except ε β} {test : β → Bool} {l : List α} :
    (l.anyM fun a => (read a).map test) = .ok true ↔ ∃ b ∈ readUntil read l, test b = true := by
  induction l with
  | nil =>
      simp only [List.anyM, pure, Except.pure, Except.ok.injEq, Bool.false_eq_true, readUntil,
        List.not_mem_nil, false_and, exists_false]
  | cons a rest ih =>
      rw [List.anyM_cons, readUntil]
      cases hread : read a with
      | error e =>
          simp only [Except.map, bind, Except.bind, reduceCtorEq, List.not_mem_nil, false_and,
            exists_false]
      | ok b =>
          have hhead : Except.map (ε := ε) test (.ok b) = .ok (test b) := rfl
          rw [hhead]
          cases htest : test b with
          | true =>
              simp only [bind, Except.bind, if_true, pure, Except.pure, true_iff]
              exact ⟨b, List.mem_cons_self, htest⟩
          | false =>
              simp only [bind, Except.bind, Bool.false_eq_true, if_false, List.mem_cons,
                exists_eq_or_imp, htest, false_or]
              exact ih

theorem readUntil_of_total {read : α → Except ε β} {f : α → β} {l : List α}
    (h : ∀ a ∈ l, read a = .ok (f a)) : readUntil read l = l.map f := by
  induction l with
  | nil => rfl
  | cons a rest ih =>
      rw [readUntil, h a List.mem_cons_self, List.map_cons,
        ih fun b hb => h b (List.mem_cons_of_mem _ hb)]

/-- Where no test fails, one of them holds together with the others. -/
theorem anyM_of_total {test : α → Except ε Bool} {l : List α}
    (h : ∀ a ∈ l, ∃ b, test a = .ok b) :
    ∃ b, l.anyM test = .ok b ∧ (b = true ↔ ∃ a ∈ l, test a = .ok true) := by
  induction l with
  | nil => exact ⟨false, rfl, by simp only [Bool.false_eq_true, List.not_mem_nil, false_and,
      exists_false]⟩
  | cons a rest ih =>
      rw [List.anyM_cons]
      rcases h a List.mem_cons_self with ⟨first, hfirst⟩
      rw [hfirst]
      cases first with
      | true => exact ⟨true, rfl, iff_of_true rfl ⟨a, List.mem_cons_self, hfirst⟩⟩
      | false =>
          rcases ih fun b hb => h b (List.mem_cons_of_mem _ hb) with ⟨b, hb, hiff⟩
          refine ⟨b, hb, hiff.trans ?_⟩
          simp only [List.mem_cons, exists_eq_or_imp, hfirst, Except.ok.injEq, Bool.false_eq_true,
            false_or]

/-- A test of several fails where one of them does. -/
theorem anyM_eq_error {test : α → Except ε Bool} {l : List α} {e : ε}
    (h : l.anyM test = .error e) : ∃ a ∈ l, test a = .error e := by
  induction l with
  | nil => exact absurd h (by simp only [List.anyM, pure, Except.pure, reduceCtorEq,
      not_false_eq_true])
  | cons a rest ih =>
      rw [List.anyM_cons] at h
      cases htest : test a with
      | error e' =>
          rw [htest] at h
          exact ⟨a, List.mem_cons_self, htest.trans h⟩
      | ok b =>
          rw [htest] at h
          cases b with
          | true => exact absurd h (by simp only [bind, Except.bind, if_true, pure, Except.pure,
              reduceCtorEq, not_false_eq_true])
          | false =>
              rcases ih h with ⟨a', hmem, htest'⟩
              exact ⟨a', List.mem_cons_of_mem _ hmem, htest'⟩

/-- Where no test holds and none fails, none of them holds together. -/
theorem anyM_eq_false_iff {test : α → Except ε Bool} {l : List α} :
    l.anyM test = .ok false ↔ ∀ a ∈ l, test a = .ok false := by
  induction l with
  | nil => simp only [List.anyM, pure, Except.pure, List.not_mem_nil, false_imp_iff, implies_true]
  | cons a rest ih =>
      rw [List.anyM_cons, List.forall_mem_cons, ← ih]
      cases htest : test a with
      | error e => simp only [bind, Except.bind, reduceCtorEq, false_and]
      | ok b =>
          cases b with
          | true => simp only [bind, Except.bind, if_true, pure, Except.pure, Except.ok.injEq,
              Bool.true_eq_false, false_and]
          | false => simp only [bind, Except.bind, Bool.false_eq_true, if_false, true_and]

/-- The first match, from what the tests say of the candidates in any order. -/
theorem findM?_cases (test : α → Except ε Bool) (l : List α) :
    (∃ a ∈ l, test a = .ok true ∧ l.findM? test = .ok (some a)) ∨
    (∃ a ∈ l, ∃ e, test a = .error e ∧ l.findM? test = .error e) ∨
    ((∀ a ∈ l, test a = .ok false) ∧ l.findM? test = .ok none) := by
  induction l with
  | nil => exact .inr (.inr ⟨fun a h => absurd h List.not_mem_nil, rfl⟩)
  | cons a rest ih =>
      cases htest : test a with
      | error e =>
          refine .inr (.inl ⟨a, List.mem_cons_self, e, htest, ?_⟩)
          simp only [List.findM?, htest, bind, Except.bind]
      | ok b =>
          cases b with
          | true =>
              refine .inl ⟨a, List.mem_cons_self, htest, ?_⟩
              simp only [List.findM?, htest, bind, Except.bind, pure, Except.pure]
          | false =>
              have hrest : (a :: rest).findM? test = rest.findM? test := by
                simp only [List.findM?, htest, bind, Except.bind]
              rw [hrest]
              rcases ih with ⟨b, hmem, hfound⟩ | ⟨b, hmem, hfailed⟩ | ⟨hnone, hresult⟩
              · exact .inl ⟨b, List.mem_cons_of_mem _ hmem, hfound⟩
              · exact .inr (.inl ⟨b, List.mem_cons_of_mem _ hmem, hfailed⟩)
              · refine .inr (.inr ⟨?_, hresult⟩)
                intro b hmem
                rcases List.mem_cons.mp hmem with hb | hmem
                · rw [hb]
                  exact htest
                · exact hnone b hmem

/-- Tests of what is read come to an end where one holds before the first failure, or
    everything can be read. -/
theorem anyM_ok_iff {read : α → Except ε β} {test : β → Bool} {l : List α} :
    (∃ b, (l.anyM fun a => (read a).map test) = .ok b) ↔
      (∃ b ∈ readUntil read l, test b = true) ∨ ∀ a ∈ l, ∃ b, read a = .ok b := by
  constructor
  · rintro ⟨b, hb⟩
    cases b with
    | true => exact .inl (anyM_eq_true_iff.mp hb)
    | false =>
        refine .inr fun a ha => ?_
        have hfalse := anyM_eq_false_iff.mp hb a ha
        cases hread : read a with
        | ok b => exact ⟨b, rfl⟩
        | error e =>
            rw [hread] at hfalse
            exact absurd hfalse nofun
  · rintro (h | h)
    · exact ⟨true, anyM_eq_true_iff.mpr h⟩
    · have htotal : ∀ a ∈ l, ∃ b, (read a).map test = .ok b := by
        intro a ha
        rcases h a ha with ⟨b, hb⟩
        rw [hb]
        exact ⟨test b, rfl⟩
      rcases anyM_of_total htotal with ⟨b, hb, _⟩
      exact ⟨b, hb⟩

/-- A search with tests that may fail finds what a plain search finds exactly where the tests
    agree with the plain ones on each candidate that the plain search gets to. -/
theorem findM?_eq_find?_iff {test : α → Except ε Bool} {p : α → Bool} {l : List α} :
    l.findM? test = .ok (l.find? p) ↔
      ∀ before a after, l = before ++ a :: after → (∀ b ∈ before, p b = false) →
        test a = .ok (p a) := by
  induction l with
  | nil => exact iff_of_true rfl fun before a after h => absurd h (by simp)
  | cons first rest ih =>
      -- What the search gets to is the first candidate, and behind it what it would get to.
      have hreach : (∀ before a after, first :: rest = before ++ a :: after →
            (∀ b ∈ before, p b = false) → test a = .ok (p a)) ↔
          test first = .ok (p first) ∧ (p first = false →
            ∀ before a after, rest = before ++ a :: after → (∀ b ∈ before, p b = false) →
              test a = .ok (p a)) := by
        constructor
        · intro h
          refine ⟨h [] first rest rfl fun b hb => absurd hb List.not_mem_nil, ?_⟩
          intro hfirst before a after hrest hbefore
          exact h (first :: before) a after (by rw [hrest, List.cons_append])
            (List.forall_mem_cons.mpr ⟨hfirst, hbefore⟩)
        · rintro ⟨hfirst, hbehind⟩ before a after heq hbefore
          cases before with
          | nil =>
              rw [List.nil_append, List.cons.injEq] at heq
              rw [← heq.1]
              exact hfirst
          | cons b before =>
              rw [List.cons_append, List.cons.injEq] at heq
              rw [List.forall_mem_cons, ← heq.1] at hbefore
              exact hbehind hbefore.1 before a after heq.2 hbefore.2
      rw [hreach]
      cases hp : p first with
      | true =>
          have hfind : (first :: rest).find? p = some first := List.find?_cons_of_pos hp
          rw [hfind]
          simp only [Bool.true_eq_false, false_imp_iff, and_true]
          constructor
          · intro h
            rcases findM?_cases test (first :: rest) with ⟨a, _, htest, hfound⟩ |
              ⟨_, _, e, _, hfailed⟩ | ⟨_, hnone⟩
            · rw [h, Except.ok.injEq, Option.some.injEq] at hfound
              rw [hfound]
              exact htest
            · rw [h] at hfailed
              exact absurd hfailed nofun
            · rw [h] at hnone
              exact absurd hnone nofun
          · intro htest
            simp only [List.findM?, htest, bind, Except.bind, pure, Except.pure]
      | false =>
          have hfind : (first :: rest).find? p = rest.find? p :=
            List.find?_cons_of_neg (by rw [hp]; exact Bool.false_ne_true)
          rw [hfind, eq_self, true_imp_iff]
          cases htest : test first with
          | error e =>
              refine iff_of_false ?_ fun h => absurd h.1 nofun
              simp only [List.findM?, htest, bind, Except.bind, reduceCtorEq, not_false_eq_true]
          | ok b =>
              cases b with
              | false =>
                  have hrest : (first :: rest).findM? test = rest.findM? test := by
                    simp only [List.findM?, htest, bind, Except.bind]
                  rw [hrest, ih]
                  exact (and_iff_right rfl).symm
              | true =>
                  refine iff_of_false ?_ fun h => absurd h.1 nofun
                  -- The first candidate would be found, which the plain search passes over.
                  have hfound : (first :: rest).findM? test = .ok (some first) := by
                    simp only [List.findM?, htest, bind, Except.bind, pure, Except.pure]
                  rw [hfound, Except.ok.injEq]
                  intro heq
                  have hpfirst := List.find?_some heq.symm
                  rw [hp] at hpfirst
                  exact absurd hpfirst Bool.false_ne_true

/-- The first match does not depend on the order, where at most one candidate matches, no
    test fails beside a match, and all tests that fail do so in the same way. -/
theorem findM?_perm {test : α → Except ε Bool} {l l' : List α} (hperm : l'.Perm l)
    (hunique : ∀ a ∈ l, ∀ b ∈ l, test a = .ok true → test b = .ok true → a = b)
    (halone : ∀ a ∈ l, ∀ b ∈ l, test a = .ok true → ∀ e, test b ≠ .error e)
    (hsame : ∀ a ∈ l, ∀ b ∈ l, ∀ e e', test a = .error e → test b = .error e' → e = e') :
    l'.findM? test = l.findM? test := by
  have hmem : ∀ a, a ∈ l' → a ∈ l := fun a => hperm.mem_iff.mp
  rcases findM?_cases test l' with ⟨a, ha, hok, hfirst⟩ | ⟨a, ha, e, hfailed, hfirst⟩ |
    ⟨hnone, hfirst⟩
  · rcases findM?_cases test l with ⟨b, hb, hok', hsecond⟩ | ⟨b, hb, e', hfailed', _⟩ | ⟨hnone', _⟩
    · rw [hfirst, hsecond, hunique a (hmem a ha) b hb hok hok']
    · exact absurd hfailed' (halone a (hmem a ha) b hb hok e')
    · rw [hnone' a (hmem a ha)] at hok
      exact absurd hok (by simp only [Except.ok.injEq, Bool.false_eq_true, not_false_eq_true])
  · rcases findM?_cases test l with ⟨b, hb, hok', _⟩ | ⟨b, hb, e', hfailed', hsecond⟩ | ⟨hnone', _⟩
    · exact absurd hfailed (halone b hb a (hmem a ha) hok' e)
    · rw [hfirst, hsecond, hsame a (hmem a ha) b hb e e' hfailed hfailed']
    · rw [hnone' a (hmem a ha)] at hfailed
      exact absurd hfailed (by simp only [reduceCtorEq, not_false_eq_true])
  · rcases findM?_cases test l with ⟨b, hb, hok', _⟩ | ⟨b, hb, e', hfailed', _⟩ | ⟨_, hsecond⟩
    · rw [hnone b (hperm.mem_iff.mpr hb)] at hok'
      exact absurd hok' (by simp only [Except.ok.injEq, Bool.false_eq_true, not_false_eq_true])
    · rw [hnone b (hperm.mem_iff.mpr hb)] at hfailed'
      exact absurd hfailed' (by simp only [reduceCtorEq, not_false_eq_true])
    · rw [hfirst, hsecond]

end

/-! ### How many match -/

/-- At most one of a list is matched, where no two are. -/
theorem length_filter_le_one_iff {p : α → Bool} {l : List α} :
    (l.filter p).length ≤ 1 ↔ l.Pairwise fun a b => ¬ (p a = true ∧ p b = true) := by
  induction l with
  | nil => simp only [List.filter_nil, List.length_nil, Nat.zero_le, List.Pairwise.nil]
  | cons a rest ih =>
      rw [List.pairwise_cons]
      cases hp : p a with
      | true =>
          rw [List.filter_cons_of_pos hp, List.length_cons]
          constructor
          · intro h
            have hnone : rest.filter p = [] := List.length_eq_zero_iff.mp (by omega)
            have hfalse : ∀ b ∈ rest, ¬ p b = true := List.filter_eq_nil_iff.mp hnone
            refine ⟨fun b hb hboth => hfalse b hb hboth.2, ih.mp ?_⟩
            rw [hnone]
            exact Nat.zero_le 1
          · rintro ⟨hfirst, _⟩
            have hnone : rest.filter p = [] :=
              List.filter_eq_nil_iff.mpr fun b hb hpb => hfirst b hb ⟨rfl, hpb⟩
            have hlength : (rest.filter p).length = 0 := List.length_eq_zero_iff.mpr hnone
            omega
      | false =>
          rw [List.filter_cons_of_neg (by rw [hp]; exact Bool.false_ne_true), ih]
          simp only [Bool.false_eq_true, false_and, not_false_eq_true, implies_true, true_and]

/-- Two different members are related in one order or the other. -/
theorem pairwise_either {R : α → α → Prop} {l : List α} (h : l.Pairwise R) {a b : α}
    (ha : a ∈ l) (hb : b ∈ l) (hne : a ≠ b) : R a b ∨ R b a := by
  have hsymm : Std.Symm fun a b => R a b ∨ R b a := ⟨fun _ _ => Or.symm⟩
  exact (h.imp fun hab => Or.inl hab : l.Pairwise fun a b => R a b ∨ R b a).forall ha hb hne

theorem pairwise_forall {ι : Type} {R : ι → α → α → Prop} {l : List α} :
    (∀ i, l.Pairwise (R i)) ↔ l.Pairwise fun a b => ∀ i, R i a b := by
  simp only [List.pairwise_iff_getElem]
  exact ⟨fun h i j hi hj hlt k => h k i j hi hj hlt, fun h k i j hi hj hlt => h i j hi hj hlt k⟩

end

end Mistle
