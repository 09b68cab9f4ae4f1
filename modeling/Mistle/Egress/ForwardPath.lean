import Mistle.Egress.Routes

/-!
# Paths of Managed Requests

The gateway sends a managed request to the base URL of its route. A request path that
is at or under the base path already is taken as it is, and any other is put under it.
The route matches by a prefix that was derived from the same base URL, by other code:
there a slash at the end of the base path is cut off, and here it is not.

So for a base path with a slash at its end, a path that the prefix matches is not
found under the base path, and the base path is put in front of it a second time. The
path that comes out has that fault again. Two base paths end with a slash and do not
suffer from it, because they stand for the root here: the slash alone, and two of them.

## Main definitions

* `UrlPathname`: The path of a URL, as its parser leaves it.
* `resolveForwardPath`, `joinPath`: What the gateway makes of a request path.
* `resolveRoutePathPrefixFromBaseUrl`: The prefix that matches it.
* `ForwardsWithin`: The law of the two.
* `ForwardsCleanly`: The base paths and request paths that the slash does no harm to.

## Theorems

* `resolveForwardPath_of_under`, `resolveForwardPath_of_not_under`: The two ways of a path.
* `ForwardsWithin.of_open`, `ForwardsWithin.of_root`: The base paths that the law holds for.
* `forwardsWithin_closed_iff`: The other base paths.
* `forwardsWithin_iff`: The law holds exactly where the slash does no harm.
-/

namespace Mistle

/-- The path of a URL: it begins with a slash and has no white space in it. -/
structure UrlPathname where
  text : Text
  rooted : text.head? = some '/'
  plain : ∀ c ∈ text, isJsWhiteSpace c = false

def resolveRoutePathPrefixFromBaseUrl (base : UrlPathname) : Except EgressRouteError Text :=
  normalizeRoutePathPrefix base.text

namespace ManagedEgress

def normalizePath (path : Text) : Text :=
  if path = [] then ['/'] else if path.head? = some '/' then path else '/' :: path

def joinPath (basePath suffixPath : Text) : Text :=
  let normalizedBasePath := if basePath.getLast? = some '/' then basePath.dropLast else basePath
  let normalizedSuffixPath :=
    if suffixPath.head? = some '/' then suffixPath.tail else suffixPath
  if normalizedBasePath.length = 0 ∨ normalizedBasePath = ['/'] then
    if normalizedSuffixPath.length = 0 then ['/'] else '/' :: normalizedSuffixPath
  else if normalizedSuffixPath.length = 0 then normalizedBasePath
  else normalizedBasePath ++ '/' :: normalizedSuffixPath

def resolveForwardPath (basePath targetPath : Text) : Text :=
  let normalizedBasePath := normalizePath basePath
  let normalizedTargetPath := normalizePath targetPath
  if normalizedBasePath ≠ ['/'] ∧ (normalizedTargetPath = normalizedBasePath ∨
      normalizedBasePath ++ ['/'] <+: normalizedTargetPath) then
    normalizedTargetPath
  else joinPath normalizedBasePath normalizedTargetPath

/-- The prefix that is derived from the base URL matches the request path. -/
def MatchedByBaseUrl (base path : UrlPathname) : Prop :=
  ∃ pathPrefix, resolveRoutePathPrefixFromBaseUrl base = .ok pathPrefix ∧
    pathBelongsToPrefix path.text pathPrefix = .ok true

/-- The law of forwarding: a path is forwarded to one at or under the base path, that one is
    forwarded to itself, and so is a path that the derived prefix matches. -/
structure ForwardsWithin (base path : UrlPathname) : Prop where
  within : pathBelongsToPrefix (resolveForwardPath base.text path.text) base.text = .ok true
  settled : resolveForwardPath base.text (resolveForwardPath base.text path.text) =
    resolveForwardPath base.text path.text
  unchanged : MatchedByBaseUrl base path → resolveForwardPath base.text path.text = path.text

/-- The slash at the end of the base path does no harm: there is none, or the base path stands
    for the root; or the request path is under the base path with its slash; or it begins with
    two slashes, and the prefix does not match it. -/
def ForwardsCleanly (base path : UrlPathname) : Prop :=
  base.text.getLast? ≠ some '/' ∨ base.text = ['/'] ∨ base.text = ['/', '/'] ∨
    path.text = base.text ∨ base.text ++ ['/'] <+: path.text ∨
    (['/', '/'] <+: path.text ∧ ¬ MatchedByBaseUrl base path)

/-! ### Paths -/

theorem normalizePath_of_rooted {path : Text} (h : path.head? = some '/') :
    normalizePath path = path := by
  rw [normalizePath, if_pos h, if_neg]
  intro hnil
  rw [hnil] at h
  cases h

theorem jsTrim_of_plain {text : Text} (h : ∀ c ∈ text, isJsWhiteSpace c = false) :
    jsTrim text = text := by
  have hfront : ∀ t : Text, (∀ c ∈ t, isJsWhiteSpace c = false) →
      t.dropWhile isJsWhiteSpace = t := by
    intro t ht
    cases t with
    | nil => rfl
    | cons c rest => rw [List.dropWhile_cons, if_neg (by rw [ht c List.mem_cons_self]; decide)]
  rw [jsTrim, trimWith, hfront text h, hfront text.reverse fun c hc => h c (List.mem_reverse.mp hc),
    List.reverse_reverse]

theorem normalizeRoutePathPrefix_of_plain {pathPrefix : Text}
    (hrooted : pathPrefix.head? = some '/') (hplain : ∀ c ∈ pathPrefix, isJsWhiteSpace c = false) :
    normalizeRoutePathPrefix pathPrefix = .ok (cutLast '/' pathPrefix) := by
  have hlength : pathPrefix.length ≠ 0 := by
    intro hnil
    rw [List.length_eq_zero_iff.mp hnil] at hrooted
    cases hrooted
  rw [normalizeRoutePathPrefix, jsTrim_of_plain hplain, if_neg hlength, if_neg (not_not_intro hrooted)]

/-- A prefix has no white space in it that the path it was cut from has not. -/
theorem cutLast_plain {pathPrefix : Text} (h : ∀ c ∈ pathPrefix, isJsWhiteSpace c = false) :
    ∀ c ∈ cutLast '/' pathPrefix, isJsWhiteSpace c = false := by
  intro c hc
  rcases cutLast_or '/' pathPrefix with hcut | hcut
  · exact h c (hcut ▸ hc)
  · exact h c (hcut ▸ List.mem_append_left _ hc)

theorem pathBelongsToPrefix_iff {path pathPrefix : Text} (hpath : path.head? = some '/')
    (hrooted : pathPrefix.head? = some '/') (hplain : ∀ c ∈ pathPrefix, isJsWhiteSpace c = false) :
    pathBelongsToPrefix path pathPrefix = .ok true ↔ Covers '/' (cutLast '/' pathPrefix) path := by
  have hlength : path.length ≠ 0 := by
    intro hnil
    rw [List.length_eq_zero_iff.mp hnil] at hpath
    cases hpath
  rw [pathBelongsToPrefix, Mistle.normalizePath, if_neg hlength, if_pos hpath,
    normalizeRoutePathPrefix_of_plain hrooted hplain]
  exact ⟨fun h => of_decide_eq_true (Except.ok.inj h), fun h => congrArg _ (decide_eq_true h)⟩

theorem matchedByBaseUrl_iff (base path : UrlPathname) :
    MatchedByBaseUrl base path ↔ Covers '/' (cutLast '/' (cutLast '/' base.text)) path.text := by
  have hprefix := normalizeRoutePathPrefix_of_plain base.rooted base.plain
  have hbelongs := pathBelongsToPrefix_iff path.rooted (cutLast_head? base.rooted)
    (cutLast_plain base.plain)
  constructor
  · rintro ⟨pathPrefix, hstart, hmatched⟩
    rw [resolveRoutePathPrefixFromBaseUrl, hprefix] at hstart
    rw [← Except.ok.inj hstart] at hmatched
    exact hbelongs.mp hmatched
  · exact fun h => ⟨_, hprefix, hbelongs.mpr h⟩

/-- A path at or under the base path is taken as it is. -/
theorem resolveForwardPath_of_under {base path : Text} (hbase : base.head? = some '/')
    (hpath : path.head? = some '/') (hroot : base ≠ ['/'])
    (h : path = base ∨ base ++ ['/'] <+: path) : resolveForwardPath base path = path := by
  rw [resolveForwardPath, normalizePath_of_rooted hbase, normalizePath_of_rooted hpath,
    if_pos ⟨hroot, h⟩]

/-- Any other path is put under it. -/
theorem resolveForwardPath_of_not_under {base path : Text} (hbase : base.head? = some '/')
    (hpath : path.head? = some '/') (h : base = ['/'] ∨ ¬ (path = base ∨ base ++ ['/'] <+: path)) :
    resolveForwardPath base path = joinPath base path := by
  rw [resolveForwardPath, normalizePath_of_rooted hbase, normalizePath_of_rooted hpath, if_neg]
  rintro ⟨hroot, hunder⟩
  rcases h with h | h
  · exact hroot h
  · exact h hunder

theorem joinPath_slash (base : Text) (suffix : Text) :
    joinPath (base ++ ['/']) ('/' :: suffix) =
      if base = [] ∨ base = ['/'] then '/' :: suffix
      else if suffix = [] then base else base ++ '/' :: suffix := by
  have hdrop : (if (base ++ ['/']).getLast? = some '/' then (base ++ ['/']).dropLast
      else base ++ ['/']) = base := by
    rw [if_pos List.getLast?_concat, List.dropLast_concat]
  rw [joinPath, hdrop, if_pos List.head?_cons, List.tail_cons]
  simp only [List.length_eq_zero_iff]
  split
  · split
    · rename_i hsuffix
      rw [hsuffix]
    · rfl
  · rfl

theorem joinPath_open {base : Text} (hopen : base.getLast? ≠ some '/') (hne : base ≠ [])
    (suffix : Text) :
    joinPath base ('/' :: suffix) = if suffix = [] then base else base ++ '/' :: suffix := by
  have hslash : base ≠ ['/'] := by
    rintro rfl
    exact hopen rfl
  rw [joinPath, if_neg hopen, if_pos List.head?_cons, List.tail_cons]
  simp only [List.length_eq_zero_iff]
  rw [if_neg (not_or.mpr ⟨hne, hslash⟩)]

/-! ### Base paths that the law holds for -/

theorem cutLast_of_open {base : Text} (hopen : base.getLast? ≠ some '/') :
    cutLast '/' base = base := by
  rw [cutLast, if_neg hopen]
  split
  · rename_i h
    exact h.symm
  · rfl

theorem ForwardsWithin.of_open {base path : UrlPathname} (hopen : base.text.getLast? ≠ some '/') :
    ForwardsWithin base path := by
  have hroot : base.text ≠ ['/'] := by
    intro h
    rw [h] at hopen
    exact hopen rfl
  have hne : base.text ≠ [] := by
    intro h
    have hrooted := base.rooted
    rw [h] at hrooted
    cases hrooted
  have hcut := cutLast_of_open hopen
  -- Whatever the path was, what comes out is at or under the base path.
  have hforward : (resolveForwardPath base.text path.text).head? = some '/' ∧
      (resolveForwardPath base.text path.text = base.text ∨
        base.text ++ ['/'] <+: resolveForwardPath base.text path.text) := by
    by_cases hunder : path.text = base.text ∨ base.text ++ ['/'] <+: path.text
    · rw [resolveForwardPath_of_under base.rooted path.rooted hroot hunder]
      exact ⟨path.rooted, hunder⟩
    · rcases List.head?_eq_some_iff.mp path.rooted with ⟨suffix, hsuffix⟩
      rw [resolveForwardPath_of_not_under base.rooted path.rooted (.inr hunder), hsuffix,
        joinPath_open hopen hne]
      split
      · exact ⟨base.rooted, .inl rfl⟩
      · refine ⟨?_, .inr ⟨suffix, by rw [List.append_assoc]; rfl⟩⟩
        rw [List.head?_append_of_ne_nil _ hne]
        exact base.rooted
  refine ⟨?_, resolveForwardPath_of_under base.rooted hforward.1 hroot hforward.2, ?_⟩
  · rw [pathBelongsToPrefix_iff hforward.1 base.rooted base.plain, hcut]
    exact .inr hforward.2
  · rw [matchedByBaseUrl_iff, hcut, hcut]
    rintro (h | h)
    · exact absurd h hroot
    · exact resolveForwardPath_of_under base.rooted path.rooted hroot h

/-- A base path that stands for the root changes no path. -/
theorem resolveForwardPath_of_root {base path : Text} (hbase : base = ['/'] ∨ base = ['/', '/'])
    (hpath : path.head? = some '/') : resolveForwardPath base path = path := by
  have hrooted : base.head? = some '/' := by
    rcases hbase with rfl | rfl
    · rfl
    · rfl
  rcases List.head?_eq_some_iff.mp hpath with ⟨suffix, hsuffix⟩
  have hjoin : joinPath base path = path := by
    rcases hbase with rfl | rfl
    · rw [hsuffix, show ['/'] = [] ++ ['/'] from rfl, joinPath_slash, if_pos (.inl rfl)]
    · rw [hsuffix, show ['/', '/'] = ['/'] ++ ['/'] from rfl, joinPath_slash, if_pos (.inr rfl)]
  by_cases hunder : base ≠ ['/'] ∧ (path = base ∨ base ++ ['/'] <+: path)
  · exact resolveForwardPath_of_under hrooted hpath hunder.1 hunder.2
  · rw [resolveForwardPath_of_not_under hrooted hpath, hjoin]
    rw [not_and_or, not_not] at hunder
    exact hunder

theorem ForwardsWithin.of_root {base path : UrlPathname}
    (hbase : base.text = ['/'] ∨ base.text = ['/', '/']) : ForwardsWithin base path := by
  have hsame := resolveForwardPath_of_root hbase path.rooted
  refine ⟨?_, by rw [hsame, hsame], fun _ => hsame⟩
  rw [hsame, pathBelongsToPrefix_iff path.rooted base.rooted base.plain]
  rcases hbase with hbase | hbase
  · rw [hbase]
    exact .inl rfl
  · rw [hbase]
    exact .inl rfl

/-! ### Base paths with a slash at their end -/

/-- A path that is not under a base path with a slash at its end comes out longer. -/
theorem resolveForwardPath_closed {start suffix : Text} (hstart : start.head? = some '/')
    (hunder : ¬ ('/' :: suffix = start ++ ['/'] ∨ start ++ ['/'] ++ ['/'] <+: '/' :: suffix))
    (hroot : start ≠ ['/']) :
    resolveForwardPath (start ++ ['/']) ('/' :: suffix) =
      if suffix = [] then start else start ++ '/' :: suffix := by
  have hne : start ≠ [] := by
    rintro rfl
    cases hstart
  have hbase : (start ++ ['/']).head? = some '/' := by
    rw [List.head?_append_of_ne_nil _ hne]
    exact hstart
  rw [resolveForwardPath_of_not_under hbase rfl (.inr hunder), joinPath_slash,
    if_neg (not_or.mpr ⟨hne, hroot⟩)]

section

variable {start : Text} (hstart : start.head? = some '/') (hroot : start ≠ ['/'])

include hstart hroot

/-- Such a base path takes a path as it is exactly if the path is under it. -/
theorem resolveForwardPath_closed_eq_iff {path : Text} (hpath : path.head? = some '/') :
    resolveForwardPath (start ++ ['/']) path = path ↔
      path = start ++ ['/'] ∨ start ++ ['/'] ++ ['/'] <+: path := by
  have hne : start ≠ [] := by
    rintro rfl
    cases hstart
  have hbase : (start ++ ['/']).head? = some '/' := by
    rw [List.head?_append_of_ne_nil _ hne]
    exact hstart
  constructor
  · intro hsame
    by_contra hunder
    rcases List.head?_eq_some_iff.mp hpath with ⟨suffix, hsuffix⟩
    rw [hsuffix] at hsame hunder
    rw [resolveForwardPath_closed hstart hunder hroot] at hsame
    split at hsame
    · rename_i hempty
      rw [hempty] at hsame
      exact hroot hsame
    · -- The path comes out longer than it was.
      have hlength := congrArg List.length hsame
      have hpos := List.length_pos_iff.mpr hne
      rw [List.length_append, List.length_cons] at hlength
      omega
  · intro hunder
    have hclosed : start ++ ['/'] ≠ ['/'] := by
      intro h
      have hlength := congrArg List.length h
      have hpos := List.length_pos_iff.mpr hne
      rw [List.length_append, List.length_singleton] at hlength
      omega
    exact resolveForwardPath_of_under hbase hpath hclosed hunder

/-- What comes out for a path that is not under the base path is at or under the prefix, and
    under the base path exactly if the path began with two slashes. -/
theorem resolveForwardPath_closed_spec {suffix : Text}
    (hunder : ¬ ('/' :: suffix = start ++ ['/'] ∨ start ++ ['/'] ++ ['/'] <+: '/' :: suffix)) :
    (resolveForwardPath (start ++ ['/']) ('/' :: suffix)).head? = some '/' ∧
      Covers '/' start (resolveForwardPath (start ++ ['/']) ('/' :: suffix)) ∧
      ((resolveForwardPath (start ++ ['/']) ('/' :: suffix) = start ++ ['/'] ∨
        start ++ ['/'] ++ ['/'] <+: resolveForwardPath (start ++ ['/']) ('/' :: suffix)) ↔
          ['/', '/'] <+: '/' :: suffix) := by
  have hne : start ≠ [] := by
    rintro rfl
    cases hstart
  rw [resolveForwardPath_closed hstart hunder hroot]
  by_cases hempty : suffix = []
  · rw [if_pos hempty, hempty]
    refine ⟨hstart, .refl '/' start, iff_of_false ?_ (by decide)⟩
    rintro (h | h)
    · have hlength := congrArg List.length h
      rw [List.length_append, List.length_singleton] at hlength
      omega
    · have hlength := h.length_le
      rw [List.length_append, List.length_append, List.length_singleton] at hlength
      omega
  · rw [if_neg hempty]
    refine ⟨?_, .inr (.inr ⟨suffix, by rw [List.append_assoc]; rfl⟩), ?_⟩
    · rw [List.head?_append_of_ne_nil _ hne]
      exact hstart
    · have hlonger : start ++ '/' :: suffix ≠ start ++ ['/'] := by
        intro h
        rw [List.append_cancel_left_eq, List.cons.injEq] at h
        exact hempty h.2
      rw [List.append_assoc, List.prefix_append_right_inj]
      exact ⟨fun h => h.resolve_left hlonger, .inr⟩

end

theorem forwardsWithin_closed_iff {base path : UrlPathname} {start : Text}
    (hbase : base.text = start ++ ['/']) (hstart : start.head? = some '/')
    (hroot : start ≠ ['/']) :
    ForwardsWithin base path ↔
      path.text = base.text ∨ base.text ++ ['/'] <+: path.text ∨
        (['/', '/'] <+: path.text ∧ ¬ MatchedByBaseUrl base path) := by
  have hcut : cutLast '/' base.text = start := by
    rw [cutLast, hbase, List.dropLast_concat, if_pos List.getLast?_concat, if_neg]
    intro h
    rw [List.append_eq_singleton_iff] at h
    rcases h with h | h
    · rw [h.1] at hstart
      cases hstart
    · exact absurd h.2 (List.cons_ne_nil _ _)
  by_cases hunder : path.text = start ++ ['/'] ∨ start ++ ['/'] ++ ['/'] <+: path.text
  · have hsame := (resolveForwardPath_closed_eq_iff hstart hroot path.rooted).mpr hunder
    rw [← hbase] at hsame hunder
    refine iff_of_true ⟨?_, by rw [hsame, hsame], fun _ => hsame⟩ ?_
    · rw [hsame, pathBelongsToPrefix_iff path.rooted base.rooted base.plain, hcut]
      refine .inr (.inr ?_)
      rw [← hbase]
      rcases hunder with h | h
      · exact ⟨[], by rw [List.append_nil, h]⟩
      · exact (List.prefix_append _ _).trans h
    · rcases hunder with h | h
      · exact .inl h
      · exact .inr (.inl h)
  · rcases List.head?_eq_some_iff.mp path.rooted with ⟨suffix, hsuffix⟩
    have hchanged := (resolveForwardPath_closed_eq_iff hstart hroot path.rooted).not.mpr hunder
    rw [hsuffix] at hunder
    rcases resolveForwardPath_closed_spec hstart hroot hunder with ⟨hhead, hcovers, htwice⟩
    rw [← hsuffix, ← hbase] at hhead hcovers htwice
    rw [← hbase] at hchanged
    have hsettled := resolveForwardPath_closed_eq_iff hstart hroot hhead
    rw [← hbase, htwice] at hsettled
    rw [← hsuffix, ← hbase, not_or] at hunder
    constructor
    · intro h
      exact .inr (.inr ⟨hsettled.mp h.settled, fun hmatched => hchanged (h.unchanged hmatched)⟩)
    · rintro (h | h | h)
      · exact absurd h hunder.1
      · exact absurd h hunder.2
      · refine ⟨?_, hsettled.mpr h.1, fun hmatched => absurd hmatched h.2⟩
        rw [pathBelongsToPrefix_iff hhead base.rooted base.plain, hcut]
        exact hcovers

/-- The law of forwarding holds exactly where the slash at the end of the base path does no
    harm. -/
theorem forwardsWithin_iff (base path : UrlPathname) :
    ForwardsWithin base path ↔ ForwardsCleanly base path := by
  by_cases hopen : base.text.getLast? = some '/'
  · rcases List.getLast?_eq_some_iff.mp hopen with ⟨start, hbase⟩
    by_cases hroot : base.text = ['/'] ∨ base.text = ['/', '/']
    · refine iff_of_true (ForwardsWithin.of_root hroot) (.inr ?_)
      rcases hroot with h | h
      · exact .inl h
      · exact .inr (.inl h)
    · rw [not_or] at hroot
      have hne : start ≠ [] := by
        rintro rfl
        exact hroot.1 hbase
      have hstart : start.head? = some '/' := by
        have hrooted := base.rooted
        rw [hbase, List.head?_append_of_ne_nil _ hne] at hrooted
        exact hrooted
      have hslash : start ≠ ['/'] := by
        rintro rfl
        exact hroot.2 hbase
      rw [forwardsWithin_closed_iff hbase hstart hslash, ForwardsCleanly]
      constructor
      · exact fun h => .inr (.inr (.inr h))
      · rintro (h | h | h | h)
        · exact absurd hopen h
        · exact absurd h hroot.1
        · exact absurd h hroot.2
        · exact h
  · exact iff_of_true (ForwardsWithin.of_open hopen) (.inl hopen)

theorem plain_of_all {text : Text} (h : text.all (fun c => !isJsWhiteSpace c) = true) :
    ∀ c ∈ text, isJsWhiteSpace c = false := by
  intro c hc
  have hplain := List.all_eq_true.mp h c hc
  rw [Bool.not_eq_true'] at hplain
  exact hplain

/-- A request for the base path itself, without the slash at its end: the path doubles. -/
theorem forwarded_path_doubles :
    ¬ ∀ base path : UrlPathname, ForwardsWithin base path := by
  intro h
  have hlaw := h ⟨"/mcp/primary/".toList, by decide, plain_of_all (by decide)⟩
    ⟨"/mcp/primary".toList, by decide, plain_of_all (by decide)⟩
  have hsame := hlaw.unchanged ⟨"/mcp/primary".toList, by decide, by decide⟩
  exact absurd hsame (by decide)

end ManagedEgress

end Mistle
