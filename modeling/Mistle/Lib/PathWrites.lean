import Mistle.Lib.KeyTree

/-!
# Writes One after the Other

The same table is written into a tree at one path after the other. A write makes the nodes
on its way, except that leaves of some values swallow it: a write whose path leads through
such a leaf leaves the tree as it is. Between two writes the tree is stored and read again,
which may change the values of leaves, but neither those of the table nor whether a leaf
swallows writes.

What a path's table reads as at the end depends on the later writes. A write on the way to
the path replaces it by a part of the table, a write into one of its entries changes that
entry, and neither can put back what it took, because the table would then be a part of
itself. So the table of a path is read at the end exactly when some write at that very path
was not swallowed and no later one came near its entries.

## Main definitions

* `Rewriting`: The table, the leaves that swallow writes, and reading again.
* `Rewriting.Step`, `Rewriting.Chain`: One write, and any number.
* `Rewriting.Keeps`: The table is read at a path.
* `Rewriting.Untouched`: When it is, told by the paths and the tree at first.

## Theorems

* `Chain.blockAt_iff`: The leaves that swallow writes at the end.
* `Chain.keeps_iff`: The table is read at a path exactly when it is untouched.
* `Chain.look_elsewhere`: What is read where no write came.
* `Chain.look_ne_of_key`: What is never read at a key that no path has.
-/

namespace Mistle

/-- A table to be written, the leaves that swallow a write through them, and what a leaf is
    read as after it was stored. -/
structure Rewriting (σ τ : Type) where
  table : KeyTree σ τ
  onTheWay : τ
  blocks : σ → Bool
  reread : σ → σ
  blocks_reread : ∀ value, blocks (reread value) = blocks value
  reread_reread : ∀ value, reread (reread value) = reread value
  table_free : ∀ path value, table.look path = some (.leaf value) → blocks value = false
  reread_eq_table_iff : ∀ path (r : Option (Reading σ τ)),
    r.map (Reading.map reread) = table.look path ↔ r = table.look path

namespace Rewriting

variable {σ τ : Type} (R : Rewriting σ τ)

/-- A leaf that swallows writes. -/
def BlockAt (path : List String) (t : KeyTree σ τ) : Prop :=
  ∃ value, t.look path = some (.leaf value) ∧ R.blocks value = true

/-- The path leads through such a leaf. -/
def Blocked (path : List String) (t : KeyTree σ τ) : Prop :=
  ∃ way, way <+: path ∧ way ≠ path ∧ R.BlockAt way t

/-- A tree that was stored is read again. -/
def Reread (before after : KeyTree σ τ) : Prop :=
  ∀ q, after.look q = (before.look q).map (Reading.map R.reread)

/-- One write. -/
inductive Step (path : List String) (before after : KeyTree σ τ) : Prop
  | written (mid : KeyTree σ τ) (hfree : ¬ R.Blocked path before)
      (hwrite : Overwrites R.onTheWay path R.table before mid) (hread : R.Reread mid after)
  | swallowed (hblocked : R.Blocked path before) (hread : R.Reread before after)

/-- Writes at one path after the other. -/
inductive Chain (first : KeyTree σ τ) : List (List String) → KeyTree σ τ → Prop
  | nil : Chain first [] first
  | snoc {paths : List (List String)} {path : List String} {t u : KeyTree σ τ}
      (chain : Chain first paths t) (last : R.Step path t u) : Chain first (paths ++ [path]) u

/-- The entries of the table are read at a path. -/
def Keeps (names : List String) (path : List String) (t : KeyTree σ τ) : Prop :=
  ∀ name ∈ names, ∀ q, t.look (path ++ name :: q) = R.table.look (name :: q)

/-- Some write at the path is not swallowed, and none behind it comes near the entries. -/
def Untouched (names : List String) (first : KeyTree σ τ) (paths : List (List String))
    (path : List String) : Prop :=
  ∃ before after, paths = before ++ path :: after ∧
    (∀ way, way <+: path → way ≠ path → R.BlockAt way first → ∃ e ∈ before, e <+: way) ∧
    ∀ e ∈ after, ∀ name ∈ names, ¬ Comparable e (path ++ [name])

variable {R}

/-! ### One write -/

/-- Nothing is read behind a leaf. -/
theorem look_eq_none_of_leaf {t : KeyTree σ τ} {way path : List String} {value : σ}
    (h : t.look way = some (.leaf value)) (hpath : way <+: path) (hne : way ≠ path) :
    t.look path = none := by
  rcases hpath with ⟨rest, hrest⟩
  rw [← hrest, KeyTree.look_append]
  cases hat : t.at? way with
  | none => rfl
  | some c =>
      rw [KeyTree.look, hat, Option.map_some, Option.some.injEq] at h
      cases c with
      | node kind children => cases h
      | leaf v =>
          cases rest with
          | nil => exact absurd (List.append_nil way ▸ hrest) hne
          | cons key rest => rfl

theorem Reread.blockAt_iff {before after : KeyTree σ τ} (h : R.Reread before after)
    (path : List String) : R.BlockAt path after ↔ R.BlockAt path before := by
  unfold BlockAt
  rw [h path]
  cases before.look path with
  | none => simp
  | some r =>
      cases r with
      | node kind => simp [Reading.map]
      | leaf value => simp [Reading.map, R.blocks_reread]

/-- A path that is not near an entry is not near what is read of it. -/
theorem not_comparable_append {e p : List String} (h : ¬ Comparable e p) (q : List String) :
    ¬ Comparable (p ++ q) e := by
  rintro (hpre | hpre)
  · exact h (.inr ((List.prefix_append p q).trans hpre))
  · exact h (List.prefix_or_prefix_of_prefix hpre (List.prefix_append p q))

theorem Step.look_elsewhere {before after : KeyTree σ τ} {path q : List String}
    (h : R.Step path before after) (hq : ¬ Comparable q path) :
    after.look q = (before.look q).map (Reading.map R.reread) := by
  cases h with
  | written mid hfree hwrite hread => rw [hread, hwrite.elsewhere q hq]
  | swallowed hblocked hread => exact hread q

theorem Step.look_inside {before after : KeyTree σ τ} {path : List String}
    (h : R.Step path before after) (hfree : ¬ R.Blocked path before) (q : List String) :
    after.look (path ++ q) = R.table.look q := by
  cases h with
  | written mid _ hwrite hread =>
      rw [hread, hwrite.inside, R.reread_eq_table_iff]
  | swallowed hblocked => exact absurd hblocked hfree

/-- Behind a leaf that swallowed the write, nothing is read. -/
theorem Step.look_eq_none_of_blocked {before after : KeyTree σ τ} {path : List String}
    (h : R.Step path before after) (hblocked : R.Blocked path before) {q : List String}
    (hq : path <+: q) : after.look q = none := by
  cases h with
  | written mid hfree => exact absurd hblocked hfree
  | swallowed _ hread =>
      rcases hblocked with ⟨way, hway, hne, value, hlook, _⟩
      have hread := hread way
      rw [hlook] at hread
      refine look_eq_none_of_leaf hread (hway.trans hq) fun heq => hne ?_
      exact hway.eq_of_length_le (heq ▸ hq.length_le)

/-- A write takes the leaves at and behind its path away, and adds none. -/
theorem Step.blockAt_iff {before after : KeyTree σ τ} {path : List String}
    (h : R.Step path before after) (q : List String) :
    R.BlockAt q after ↔ R.BlockAt q before ∧ ¬ path <+: q := by
  cases h with
  | written mid hfree hwrite hread =>
      rw [hread.blockAt_iff]
      by_cases hinside : path <+: q
      · -- The table has no such leaf.
        refine ⟨fun ⟨value, hlook, hblocks⟩ => ?_, fun h => absurd hinside h.2⟩
        rcases hinside with ⟨rest, hrest⟩
        rw [← hrest, hwrite.inside] at hlook
        rw [R.table_free rest value hlook] at hblocks
        exact nomatch hblocks
      by_cases habove : q <+: path
      · have hne : q ≠ path := fun heq => hinside (heq ▸ List.prefix_rfl)
        refine ⟨fun ⟨value, hlook, _⟩ => ?_, fun h => ?_⟩
        · rw [hwrite.above q habove hne] at hlook
          exact nomatch hlook
        · exact absurd ⟨q, habove, hne, h.1⟩ hfree
      · have hapart : ¬ Comparable q path := fun h => h.elim habove hinside
        unfold BlockAt
        rw [hwrite.elsewhere q hapart, and_iff_left hinside]
  | swallowed hblocked hread =>
      rw [hread.blockAt_iff]
      refine ⟨fun hblock => ⟨hblock, fun hpath => ?_⟩, And.left⟩
      rcases hblocked with ⟨way, hway, hne, value, hlook, _⟩
      rcases hblock with ⟨value', hlook', _⟩
      have hnone : before.look q = none := by
        refine look_eq_none_of_leaf hlook (hway.trans hpath) fun heq => hne ?_
        exact hway.eq_of_length_le (heq ▸ hpath.length_le)
      rw [hnone] at hlook'
      exact nomatch hlook'

/-! ### Any number of writes -/

variable {first last : KeyTree σ τ} {paths : List (List String)} {names : List String}
variable {path : List String}

/-- The leaves that swallow writes at the end are those of the first tree that no write took
    away. -/
theorem Chain.blockAt_iff (h : R.Chain first paths last) (q : List String) :
    R.BlockAt q last ↔ R.BlockAt q first ∧ ∀ e ∈ paths, ¬ e <+: q := by
  induction h with
  | nil => simp
  | snoc _ hlast ih =>
      rw [hlast.blockAt_iff, ih, and_assoc]
      refine and_congr_right fun _ => ?_
      simp only [List.mem_append, List.mem_singleton, or_imp, forall_and, forall_eq]

/-- What is read where no write came. -/
theorem Chain.look_elsewhere (h : R.Chain first paths last) (hpaths : paths ≠ [])
    {q : List String} (hq : ∀ e ∈ paths, ¬ Comparable q e) :
    last.look q = (first.look q).map (Reading.map R.reread) := by
  induction h with
  | nil => exact absurd rfl hpaths
  | @snoc paths path t u chain hlast ih =>
      rw [hlast.look_elsewhere (hq path (List.mem_append_right _ List.mem_cons_self))]
      by_cases hnil : paths = []
      · rw [hnil] at chain
        generalize hempty : ([] : List (List String)) = none at chain
        cases chain with
        | nil => rfl
        | snoc => exact absurd hempty.symm (List.append_ne_nil_of_right_ne_nil _ (List.cons_ne_nil _ _))
      · rw [ih hnil fun e he => hq e (List.mem_append_left _ he), Option.map_map]
        congr 1
        funext r
        cases r with
        | node kind => rfl
        | leaf value => exact congrArg Reading.leaf (R.reread_reread value)

/-- Writes that come near no entry of the table leave it. -/
theorem Keeps.step {t u : KeyTree σ τ} {e : List String} (h : R.Step e t u)
    (haway : ∀ name ∈ names, ¬ Comparable e (path ++ [name])) :
    R.Keeps names path u ↔ R.Keeps names path t := by
  refine forall_congr' fun name => forall_congr' fun hname => forall_congr' fun q => ?_
  have hapart : ¬ Comparable (path ++ name :: q) e := by
    rw [← List.singleton_append, ← List.append_assoc]
    exact not_comparable_append (haway name hname) q
  rw [h.look_elsewhere hapart, R.reread_eq_table_iff]

/-- A path is swallowed where the first tree has a leaf on its way that no write took away. -/
theorem blocked_iff (h : R.Chain first paths last) :
    R.Blocked path last ↔ ∃ way, way <+: path ∧ way ≠ path ∧ R.BlockAt way first ∧
      ∀ e ∈ paths, ¬ e <+: way := by
  unfold Blocked
  simp only [h.blockAt_iff]

/-- A write that comes near no entry is behind the one that counts. -/
theorem untouched_snoc_of_away {e : List String} (hne : e ≠ path)
    (haway : ∀ name ∈ names, ¬ Comparable e (path ++ [name])) :
    R.Untouched names first (paths ++ [e]) path ↔ R.Untouched names first paths path := by
  constructor
  · rintro ⟨before, after, hpaths, hways, hafter⟩
    rcases List.eq_nil_or_concat after with hnil | ⟨init, e', hconcat⟩
    · rw [hnil] at hpaths
      exact absurd (List.head_eq_of_cons_eq (List.append_inj' hpaths rfl).2) hne
    · rw [hconcat, List.concat_eq_append, ← List.cons_append, ← List.append_assoc] at hpaths
      refine ⟨before, init, (List.append_inj' hpaths rfl).1, hways, fun e'' he'' => ?_⟩
      refine hafter e'' ?_
      rw [hconcat, List.concat_eq_append]
      exact List.mem_append_left _ he''
  · rintro ⟨before, after, hpaths, hways, hafter⟩
    refine ⟨before, after ++ [e], by rw [hpaths]; simp, hways, fun e' he' => ?_⟩
    rcases List.mem_append.mp he' with hmem | hmem
    · exact hafter e' hmem
    · rw [List.mem_singleton.mp hmem]
      exact haway

/-- Nothing comes behind a write near an entry, so it has to be at the path itself. -/
theorem untouched_snoc_of_near {e : List String} {name : String} {t : KeyTree σ τ}
    (chain : R.Chain first paths t) (hname : name ∈ names)
    (hnear : Comparable e (path ++ [name])) :
    R.Untouched names first (paths ++ [e]) path ↔ e = path ∧ ¬ R.Blocked path t := by
  rw [blocked_iff chain]
  constructor
  · rintro ⟨before, after, hpaths, hways, hafter⟩
    rcases List.eq_nil_or_concat after with hnil | ⟨init, e', hconcat⟩
    · rw [hnil] at hpaths
      rcases List.append_inj' hpaths rfl with ⟨hbefore, he⟩
      refine ⟨List.head_eq_of_cons_eq he, ?_⟩
      rw [hbefore]
      rintro ⟨way, hway, hne, hblock, hnone⟩
      rcases hways way hway hne hblock with ⟨e', he', hpre⟩
      exact hnone e' he' hpre
    · rw [hconcat, List.concat_eq_append, ← List.cons_append, ← List.append_assoc] at hpaths
      have he : e = e' := List.head_eq_of_cons_eq (List.append_inj' hpaths rfl).2
      refine absurd hnear (hafter e ?_ name hname)
      rw [hconcat, List.concat_eq_append, he]
      exact List.mem_append_right _ List.mem_cons_self
  · rintro ⟨he, hfree⟩
    refine ⟨paths, [], by rw [he], fun way hway hne hblock => ?_, fun e' he' => ?_⟩
    · by_contra hnone
      simp only [not_exists, not_and] at hnone
      exact hfree ⟨way, hway, hne, hblock, hnone⟩
    · exact absurd he' List.not_mem_nil

/-- Where no path has a key, none of its readings but those of the table comes to be. -/
theorem Chain.look_ne_of_key {key : String} {kind : τ}
    (htable : ∀ q, R.table.look (q ++ [key]) ≠ some (.node kind))
    (h : R.Chain first paths last) (hkey : ∀ e ∈ paths, key ∉ e) (hpath : path ∈ paths) :
    last.look (path ++ [key]) ≠ some (.node kind) := by
  induction h with
  | nil => exact absurd hpath List.not_mem_nil
  | @snoc paths e t u chain hlast ih =>
      have hfresh : key ∉ e := hkey e (List.mem_append_right _ List.mem_cons_self)
      by_cases habove : e <+: path
      · by_cases hblocked : R.Blocked e t
        · rw [hlast.look_eq_none_of_blocked hblocked
            (habove.trans (List.prefix_append path [key]))]
          exact nofun
        · rcases habove with ⟨rest, hrest⟩
          rw [← hrest, List.append_assoc, hlast.look_inside hblocked]
          exact htable rest
      · have haway : ¬ Comparable (path ++ [key]) e := by
          rintro (hpre | hpre)
          · exact hfresh (hpre.subset (List.mem_append_right _ List.mem_cons_self))
          · rcases List.prefix_concat_iff.mp hpre with heq | hpre
            · exact hfresh (heq ▸ List.mem_append_right _ List.mem_cons_self)
            · exact habove hpre
        have hbefore : path ∈ paths := by
          rcases List.mem_append.mp hpath with hmem | hmem
          · exact hmem
          · exact absurd (List.mem_singleton.mp hmem ▸ List.prefix_rfl) habove
        have hearlier := ih (fun e' he' => hkey e' (List.mem_append_left _ he')) hbefore
        rw [hlast.look_elsewhere haway]
        intro hlook
        rcases Option.map_eq_some_iff.mp hlook with ⟨r, hr, hnode⟩
        cases r with
        | leaf value => exact nomatch hnode
        | node kind' =>
            rw [hr, ← hnode] at hearlier
            exact hearlier rfl

section

variable (hnames : ∀ name, R.table.look [name] ≠ none ↔ name ∈ names)

include hnames

/-- Where something is read of the table, it is of an entry. -/
theorem mem_names_of_look {name : String} {q : List String}
    (h : R.table.look (name :: q) ≠ none) : name ∈ names := by
  rw [← hnames]
  intro hnone
  refine h ?_
  rw [KeyTree.look_cons] at hnone ⊢
  cases hchild : R.table.child? name with
  | none => rfl
  | some c =>
      rw [hchild] at hnone
      exact nomatch hnone

/-- Behind a write on the way to the path, the entries are no longer read. -/
theorem not_keeps_of_above {t u : KeyTree σ τ} {e : List String} (hnonempty : names ≠ [])
    (h : R.Step e t u) (he : e <+: path) (hne : e ≠ path) : ¬ R.Keeps names path u := by
  intro hkeeps
  rcases List.exists_mem_of_ne_nil names hnonempty with ⟨name, hname⟩
  have hsome : ∀ name ∈ names, u.look (path ++ [name]) ≠ none := by
    intro name hname
    rw [hkeeps name hname []]
    exact (hnames name).mpr hname
  by_cases hblocked : R.Blocked e t
  · exact hsome name hname (h.look_eq_none_of_blocked hblocked
      (he.trans (List.prefix_append path [name])))
  · rcases he with ⟨rest, hrest⟩
    cases rest with
    | nil => exact hne (List.append_nil e ▸ hrest)
    | cons key rest =>
        have hread : ∀ q, u.look (path ++ q) = R.table.look (key :: (rest ++ q)) := by
          intro q
          rw [← hrest, List.append_assoc, List.cons_append]
          exact h.look_inside hblocked _
        have hkey : key ∈ names := by
          have hlook := hsome name hname
          rw [hread] at hlook
          exact mem_names_of_look hnames hlook
        -- The entry under the key would be a part of itself.
        cases hchild : R.table.child? key with
        | none =>
            have hlook := (hnames key).mpr hkey
            rw [KeyTree.look_cons, hchild] at hlook
            exact hlook rfl
        | some c =>
            have hpart : ∀ q, c.look ((rest ++ [key]) ++ q) = c.look q := by
              intro q
              have hentry := hkeeps key hkey q
              rw [hread, KeyTree.look_cons, KeyTree.look_cons, hchild] at hentry
              rw [List.append_assoc, List.singleton_append]
              exact hentry
            exact absurd (KeyTree.eq_nil_of_look_eq hpart)
              (List.append_ne_nil_of_right_ne_nil _ (List.cons_ne_nil _ _))

/-- Behind a write into an entry, it is no longer read. -/
theorem not_keeps_of_inside {t u : KeyTree σ τ} {e : List String} {name : String}
    (hname : name ∈ names) (h : R.Step e t u) (he : path ++ [name] <+: e) :
    ¬ R.Keeps names path u := by
  intro hkeeps
  rcases he with ⟨rest, hrest⟩
  by_cases hblocked : R.Blocked e t
  · rcases hblocked with ⟨way, hway, hne, hblock⟩
    have hleft : R.BlockAt way u := (h.blockAt_iff way).mpr ⟨hblock, fun hpath =>
      hne (hway.eq_of_length_le hpath.length_le)⟩
    rcases hleft with ⟨value, hlook, hblocks⟩
    rcases List.prefix_or_prefix_of_prefix hway ⟨rest, hrest⟩ with hshort | ⟨more, hmore⟩
    · by_cases hentry : way = path ++ [name]
      · have htable := hkeeps name hname []
        rw [← hentry, hlook] at htable
        rw [R.table_free _ value htable.symm] at hblocks
        exact nomatch hblocks
      · have hnone := look_eq_none_of_leaf hlook hshort hentry
        rw [hkeeps name hname []] at hnone
        exact (hnames name).mpr hname hnone
    · have htable := hkeeps name hname more
      rw [← List.singleton_append, ← List.append_assoc, hmore, hlook] at htable
      rw [R.table_free _ value htable.symm] at hblocks
      exact nomatch hblocks
  · have hpart : ∀ q, R.table.look ((name :: rest) ++ q) = R.table.look q := by
      intro q
      have hentry := hkeeps name hname (rest ++ q)
      have hlook := h.look_inside hblocked q
      rw [← hrest, List.append_assoc, List.append_assoc, List.singleton_append] at hlook
      rw [hentry] at hlook
      exact hlook
    exact absurd (KeyTree.eq_nil_of_look_eq hpart) (List.cons_ne_nil _ _)

/-- A write at the path itself leaves the entries to be read unless it is swallowed. -/
theorem keeps_at_iff {t u : KeyTree σ τ} (hnonempty : names ≠ []) (h : R.Step path t u) :
    R.Keeps names path u ↔ ¬ R.Blocked path t := by
  constructor
  · intro hkeeps hblocked
    rcases List.exists_mem_of_ne_nil names hnonempty with ⟨name, hname⟩
    have hnone := h.look_eq_none_of_blocked hblocked (List.prefix_append path [name])
    rw [hkeeps name hname []] at hnone
    exact (hnames name).mpr hname hnone
  · intro hfree name _ q
    exact h.look_inside hfree _

/-- The table is read at a path at the end exactly when it is untouched there. -/
theorem Chain.keeps_iff (hnonempty : names ≠ []) (h : R.Chain first paths last)
    (hpath : path ∈ paths) :
    R.Keeps names path last ↔ R.Untouched names first paths path := by
  induction h with
  | nil => exact absurd hpath List.not_mem_nil
  | @snoc paths e t u chain hlast ih =>
      by_cases haway : ∀ name ∈ names, ¬ Comparable e (path ++ [name])
      · have hne : e ≠ path := by
          rcases List.exists_mem_of_ne_nil names hnonempty with ⟨name, hname⟩
          intro heq
          exact haway name hname (.inl (heq ▸ List.prefix_append path [name]))
        have hbefore : path ∈ paths := by
          rcases List.mem_append.mp hpath with hmem | hmem
          · exact hmem
          · exact absurd (List.mem_singleton.mp hmem).symm hne
        rw [Keeps.step hlast haway, ih hbefore, untouched_snoc_of_away hne haway]
      · simp only [not_forall, not_not] at haway
        rcases haway with ⟨name, hname, hnear⟩
        rw [untouched_snoc_of_near chain hname hnear]
        by_cases he : e = path
        · rw [he] at hlast
          rw [keeps_at_iff hnames hnonempty hlast, and_iff_right he]
        · refine ⟨fun hkeeps => ?_, fun h => absurd h.1 he⟩
          rcases hnear with habove | hinside
          · by_cases hentry : e = path ++ [name]
            · exact absurd hkeeps
                (not_keeps_of_inside hnames hname hlast (hentry ▸ List.prefix_rfl))
            · refine absurd hkeeps (not_keeps_of_above hnames hnonempty hlast ?_ he)
              exact (List.prefix_concat_iff.mp habove).resolve_left hentry
          · exact absurd hkeeps (not_keeps_of_inside hnames hname hlast hinside)

end

end Rewriting

end Mistle
