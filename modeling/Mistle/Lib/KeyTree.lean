import Mathlib.Data.List.Infix
import Mathlib.Tactic.Common

/-!
# Trees Read by Path

A tree whose inner nodes have a kind and children by key, and what is read at the end of a
path of keys. Two trees that read the same along every path are the same document to every
reader, whatever the order of their keys, so facts about a tree are stated about what is
read.

A tree is written at a path by giving it another tree there. What is read below the path is
then what the other tree reads, what is read elsewhere is what it was, and the nodes on the
way are of the kind that the writer makes. Several writes follow each other: the last that
reached a place decides what is read there.

A tree is finite, so it is never a proper part of itself.

## Main definitions

* `KeyTree`, `Reading`: Trees, and what is read of one node.
* `KeyTree.at?`, `KeyTree.look`: The end of a path.
* `KeyTree.assign`: A node with one key written.
* `Comparable`: One path is on the way of the other.
* `Overwrites`: What a write changes.

## Theorems

* `look_append`, `look_assign`: Reading along a path, and behind a written key.
* `eq_nil_of_look_eq`: A tree is not a proper part of itself.
* `Overwrites.cons`: A write below a key.
-/

namespace Mistle

/-- A tree whose inner nodes have a kind and children by key. -/
inductive KeyTree (σ τ : Type) where
  | leaf (value : σ)
  | node (kind : τ) (children : List (String × KeyTree σ τ))

/-- What is read of one node. -/
inductive Reading (σ τ : Type) where
  | leaf (value : σ)
  | node (kind : τ)
  deriving DecidableEq

/-- Another value in a leaf. -/
def Reading.map {σ τ : Type} (f : σ → σ) : Reading σ τ → Reading σ τ
  | .leaf value => .leaf (f value)
  | .node kind => .node kind

/-- One path is on the way of the other. -/
def Comparable (p q : List String) : Prop := p <+: q ∨ q <+: p

instance (p q : List String) : Decidable (Comparable p q) := inferInstanceAs (Decidable (_ ∨ _))

theorem comparable_cons {k : String} {p q : List String} :
    Comparable (k :: p) (k :: q) ↔ Comparable p q := by
  unfold Comparable
  rw [List.cons_prefix_cons, List.cons_prefix_cons, and_iff_right rfl, and_iff_right rfl]

namespace KeyTree

variable {σ τ : Type}

def reading : KeyTree σ τ → Reading σ τ
  | .leaf value => .leaf value
  | .node kind _ => .node kind

def child? (key : String) : KeyTree σ τ → Option (KeyTree σ τ)
  | .leaf _ => none
  | .node _ children => (children.find? fun entry => entry.1 = key).map Prod.snd

/-- The tree at the end of a path. -/
def at? : List String → KeyTree σ τ → Option (KeyTree σ τ)
  | [], t => some t
  | key :: rest, t => (t.child? key).bind (at? rest)

/-- What is read at the end of a path. -/
def look (path : List String) (t : KeyTree σ τ) : Option (Reading σ τ) :=
  (t.at? path).map reading

@[simp] theorem at?_nil (t : KeyTree σ τ) : t.at? [] = some t := rfl

@[simp] theorem look_nil (t : KeyTree σ τ) : t.look [] = some t.reading := rfl

theorem at?_append (p q : List String) (t : KeyTree σ τ) :
    t.at? (p ++ q) = (t.at? p).bind (at? q) := by
  induction p generalizing t with
  | nil => rfl
  | cons key rest ih =>
      rw [List.cons_append, at?, at?, Option.bind_assoc]
      exact congrArg _ (funext ih)

theorem look_append (p q : List String) (t : KeyTree σ τ) :
    t.look (p ++ q) = (t.at? p).bind (look q) := by
  rw [look, at?_append, Option.map_bind]
  rfl

theorem look_cons (key : String) (q : List String) (t : KeyTree σ τ) :
    t.look (key :: q) = (t.child? key).bind (look q) :=
  look_append [key] q t |>.trans (by rw [at?, Option.bind_assoc]; rfl)

theorem look_singleton (key : String) (t : KeyTree σ τ) :
    t.look [key] = (t.child? key).map reading := by
  rw [look_cons]
  cases t.child? key with
  | none => rfl
  | some c => rfl

/-! ### A tree is not a part of itself -/

theorem sizeOf_child? {t c : KeyTree σ τ} {key : String} (h : t.child? key = some c) :
    sizeOf c < sizeOf t := by
  cases t with
  | leaf value => exact nomatch h
  | node kind children =>
      rcases Option.map_eq_some_iff.mp h with ⟨entry, hfind, hc⟩
      have hmem := List.sizeOf_lt_of_mem (List.mem_of_find?_eq_some hfind)
      rcases entry with ⟨k, v⟩
      rw [← hc]
      simp only [Prod.mk.sizeOf_spec, node.sizeOf_spec] at hmem ⊢
      omega

/-- What is read is at most as deep as the tree is large. -/
theorem length_lt_of_look {path : List String} {t : KeyTree σ τ} (h : t.look path ≠ none) :
    path.length < sizeOf t := by
  induction path generalizing t with
  | nil =>
      cases t with
      | leaf value => simp
      | node kind children =>
          rw [node.sizeOf_spec, List.length_nil]
          omega
  | cons key rest ih =>
      rw [look_cons] at h
      cases hchild : t.child? key with
      | none => exact absurd (by rw [hchild]; rfl) h
      | some c =>
          rw [hchild] at h
          have hrest := ih h
          have hsize := sizeOf_child? hchild
          rw [List.length_cons]
          omega

/-- A tree that reads the same behind a path as it does itself is at the end of no path. -/
theorem eq_nil_of_look_eq {t : KeyTree σ τ} {r : List String}
    (h : ∀ q, t.look (r ++ q) = t.look q) : r = [] := by
  have hrepeat : ∀ n, t.look (List.replicate n r).flatten ≠ none := by
    intro n
    induction n with
    | zero => exact Option.some_ne_none _
    | succ n ih =>
        rw [List.replicate_succ, List.flatten_cons, h]
        exact ih
  by_contra hr
  have hlength := length_lt_of_look (hrepeat (sizeOf t))
  have hpos : 1 ≤ r.length := List.length_pos_iff.mpr hr
  rw [List.length_flatten, List.map_replicate, List.sum_replicate_nat] at hlength
  exact absurd hlength (Nat.not_lt.mpr (Nat.le_mul_of_pos_right _ hpos))

/-! ### Writing a key -/

/-- The children with one key written. -/
def setChild (key : String) (value : KeyTree σ τ) :
    List (String × KeyTree σ τ) → List (String × KeyTree σ τ)
  | [] => [(key, value)]
  | entry :: rest =>
    if entry.1 = key then (key, value) :: rest else entry :: setChild key value rest

/-- A node with one key written. A leaf has no keys. -/
def assign : KeyTree σ τ → String → KeyTree σ τ → KeyTree σ τ
  | .leaf v, _, _ => .leaf v
  | .node kind children, key, value => .node kind (setChild key value children)

theorem find?_setChild (key other : String) (value : KeyTree σ τ)
    (children : List (String × KeyTree σ τ)) :
    ((setChild key value children).find? fun entry => entry.1 = other).map Prod.snd
      = if other = key then some value
        else (children.find? fun entry => entry.1 = other).map Prod.snd := by
  induction children with
  | nil =>
      rw [setChild]
      by_cases hkey : key = other
      · simp [hkey]
      · simp [hkey, Ne.symm hkey]
  | cons entry rest ih =>
      rw [setChild]
      by_cases hentry : entry.1 = key
      · rw [if_pos hentry]
        by_cases hkey : key = other
        · simp [hkey]
        · simp [hkey, Ne.symm hkey, hentry]
      · rw [if_neg hentry]
        by_cases hother : entry.1 = other
        · have hkey : other ≠ key := fun h => hentry (hother.trans h)
          simp [hother, hkey]
        · rw [List.find?_cons_of_neg (by simpa using hother), ih,
            List.find?_cons_of_neg (by simpa using hother)]

theorem child?_assign (key other : String) (value : KeyTree σ τ) (kind : τ)
    (children : List (String × KeyTree σ τ)) :
    (assign (.node kind children) key value).child? other
      = if other = key then some value else child? other (.node kind children) :=
  find?_setChild key other value children

end KeyTree

/-! ### Writes -/

/-- What a tree written at a path changes, where nodes on the way are of one kind and leaves
    elsewhere may be read another way. -/
structure Overwrites {σ τ : Type} (onTheWay : τ) (path : List String) (value : KeyTree σ τ)
    (before after : KeyTree σ τ) : Prop where
  inside : ∀ q, after.look (path ++ q) = value.look q
  above : ∀ q, q <+: path → q ≠ path → after.look q = some (.node onTheWay)
  elsewhere : ∀ q, ¬ Comparable q path → after.look q = before.look q

theorem Overwrites.single {σ τ : Type} (kind : τ) (key : String) (value : KeyTree σ τ)
    (children : List (String × KeyTree σ τ)) :
    Overwrites kind [key] value (.node kind children) ((KeyTree.node kind children).assign key value)
    where
  inside q := by
    rw [List.singleton_append, KeyTree.look_cons, KeyTree.child?_assign, if_pos rfl]
    rfl
  above q hq hne := by
    cases q with
    | nil => rfl
    | cons k rest =>
        rcases List.cons_prefix_cons.mp hq with ⟨hk, hrest⟩
        rw [List.prefix_nil.mp hrest, hk] at hne
        exact absurd rfl hne
  elsewhere q hq := by
    cases q with
    | nil => exact absurd (.inl List.nil_prefix) hq
    | cons k rest =>
        have hk : k ≠ key := fun h => hq (.inr (h ▸ List.cons_prefix_cons.mpr ⟨rfl, List.nil_prefix⟩))
        rw [KeyTree.look_cons, KeyTree.look_cons, KeyTree.child?_assign, if_neg hk]

/-- A write below a key. -/
theorem Overwrites.cons {σ τ : Type} {kind : τ} {key : String} {path : List String}
    {value next : KeyTree σ τ} {children : List (String × KeyTree σ τ)} {old : KeyTree σ τ}
    (hold : ∀ q, ¬ Comparable q path → old.look q
      = ((KeyTree.node kind children).child? key).bind (KeyTree.look q))
    (h : Overwrites kind path value old next) :
    Overwrites kind (key :: path) value (.node kind children)
      ((KeyTree.node kind children).assign key next) where
  inside q := by
    rw [List.cons_append, KeyTree.look_cons, KeyTree.child?_assign, if_pos rfl]
    exact h.inside q
  above q hq hne := by
    cases q with
    | nil => rfl
    | cons k rest =>
        rcases List.cons_prefix_cons.mp hq with ⟨hk, hrest⟩
        rw [KeyTree.look_cons, KeyTree.child?_assign, if_pos hk]
        exact h.above rest hrest fun heq => hne (by rw [hk, heq])
  elsewhere q hq := by
    cases q with
    | nil => exact absurd (.inl List.nil_prefix) hq
    | cons k rest =>
        rw [KeyTree.look_cons, KeyTree.look_cons, KeyTree.child?_assign]
        by_cases hk : k = key
        · rw [hk, comparable_cons] at hq
          rw [if_pos hk, hk]
          exact (h.elsewhere rest hq).trans (hold rest hq)
        · rw [if_neg hk]

end Mistle
