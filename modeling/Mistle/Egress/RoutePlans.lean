import Mistle.Egress.RouteOverlap

/-!
# Plans of Routes

The routes of a plan are accepted if no two of them overlap. At most one of them is for a
request then, in all three matchers and in any order, exactly where no two of them meet as
the matchers read them.

A plan may be written so that nothing is left to reading: hosts and methods without padding,
prefixes that begin with a slash, no empty lists. Of such routes the test for overlap is
exact, and a plan that is accepted has one route for a request.

## Main definitions

* `OneRoute`: At most one route is for a request, in all matchers and any order.
* `NoRoutesMeet`: No two routes meet, as any of the matchers reads them.
* `WrittenPlainly`: A route is written the way it is read.

## Theorems

* `resolveRouteForRequest_perm`: The route that is found does not depend on the order.
* `overlapsAsRead_of_plain`, `noRoutesMeet_of_plain`: What holds of routes that are written
  plainly.
* `routesOverlap_exact_iff`: When the test for overlap is exact, and when it is enough.
-/

namespace Mistle

section

variable {cases : CaseMapping} {route left right : EgressCredentialRoute}

/-! ### Looking up among accepted routes -/

/-- Two prefixes that were compared can be read. -/
theorem pathPrefixesOverlap_false {leftPrefix rightPrefix : Text}
    (h : pathPrefixesOverlap leftPrefix rightPrefix = .ok false) :
    (∃ start, normalizeRoutePathPrefix leftPrefix = .ok start) ∧
      ∃ start, normalizeRoutePathPrefix rightPrefix = .ok start := by
  have hread : ∀ path pathPrefix, pathBelongsToPrefix path pathPrefix = .ok false →
      ∃ start, normalizeRoutePathPrefix pathPrefix = .ok start := by
    intro path pathPrefix hbelongs
    rw [pathBelongsToPrefix] at hbelongs
    cases hpath : normalizePath path with
    | error e =>
        rw [hpath] at hbelongs
        exact absurd hbelongs (by simp only [bind, Except.bind, reduceCtorEq, not_false_eq_true])
    | ok normalized =>
        cases hprefix : normalizeRoutePathPrefix pathPrefix with
        | error e =>
            rw [hpath, hprefix] at hbelongs
            exact absurd hbelongs (by simp only [bind, Except.bind, Except.map, reduceCtorEq,
              not_false_eq_true])
        | ok start => exact ⟨start, rfl⟩
  rw [pathPrefixesOverlap] at h
  cases hright : pathBelongsToPrefix leftPrefix rightPrefix with
  | error e =>
      rw [hright] at h
      exact absurd h (by simp only [bind, Except.bind, reduceCtorEq, not_false_eq_true])
  | ok belongs =>
      rw [hright] at h
      cases belongs with
      | true =>
          exact absurd h (by simp only [bind, Except.bind, if_true, pure, Except.pure,
            Except.ok.injEq, Bool.true_eq_false, not_false_eq_true])
      | false =>
          simp only [bind, Except.bind, Bool.false_eq_true, if_false] at h
          exact ⟨hread _ _ h, hread _ _ hright⟩

/-- Prefixes that were all compared can be read, if there is one on the other side. -/
theorem readable_of_hasPathPrefixOverlap {leftPrefixes rightPrefixes : List Text}
    (h : hasPathPrefixOverlap (some leftPrefixes) (some rightPrefixes) = .ok false) :
    (rightPrefixes ≠ [] → ∀ a ∈ leftPrefixes, ∃ start, normalizeRoutePathPrefix a = .ok start) ∧
      (leftPrefixes ≠ [] → ∀ b ∈ rightPrefixes, ∃ start, normalizeRoutePathPrefix b = .ok start) := by
  have hall : ∀ a ∈ leftPrefixes, ∀ b ∈ rightPrefixes, pathPrefixesOverlap a b = .ok false :=
    fun a ha => anyM_eq_false_iff.mp (anyM_eq_false_iff.mp h a ha)
  constructor
  · intro hne a ha
    rcases List.exists_mem_of_ne_nil _ hne with ⟨b, hb⟩
    exact (pathPrefixesOverlap_false (hall a ha b hb)).1
  · intro hne b hb
    rcases List.exists_mem_of_ne_nil _ hne with ⟨a, ha⟩
    exact (pathPrefixesOverlap_false (hall a ha b hb)).2

/-- How a request fails that does not fail itself: at a prefix that is not blank. -/
def requestError (cases : CaseMapping) (request : EgressRequest) : EgressRouteError :=
  match normalizeHost cases request.host, normalizeMethod cases request.method,
      normalizePath request.path with
  | .error e, _, _ => e
  | _, .error e, _ => e
  | _, _, .error e => e
  | .ok _, .ok _, .ok _ => .error "Route path prefix must start with '/'.".toList

/-- A prefix that is not blank fails where it does not begin with a slash. -/
theorem prefix_error {path pathPrefix : Text} {e : EgressRouteError} (hrooted : Rooted path)
    (h : pathBelongsToPrefix path pathPrefix = .error e) (hblank : jsTrim pathPrefix ≠ []) :
    e = .error "Route path prefix must start with '/'.".toList ∧
      ∀ start, normalizeRoutePathPrefix pathPrefix ≠ .ok start := by
  rw [pathBelongsToPrefix, normalizePath_of_rooted hrooted] at h
  cases hread : normalizeRoutePathPrefix pathPrefix with
  | ok start =>
      rw [hread] at h
      cases h
  | error e' =>
      rw [hread] at h
      refine ⟨?_, fun start => by simp only [ne_eq, reduceCtorEq, not_false_eq_true]⟩
      have he : e' = e := Except.error.inj h
      rw [← he]
      rw [normalizeRoutePathPrefix] at hread
      split at hread
      · rename_i hempty
        exact absurd (List.length_eq_zero_iff.mp hempty) hblank
      · split at hread
        · exact (Except.error.inj hread).symm
        · exact absurd hread (by simp only [reduceCtorEq, not_false_eq_true])

/-- A request fails at itself, or at a prefix of the route where its host and method
    match. -/
theorem matchesRoute_error {request : EgressRequest} {e : EgressRouteError}
    (hblank : NoBlankPrefix route) (h : matchesRoute cases route request = .error e) :
    e = requestError cases request ∧
      ∀ host method path, normalizeHost cases request.host = .ok host →
        normalizeMethod cases request.method = .ok method → normalizePath request.path = .ok path →
        (corePattern cases route).first host ∧ (corePattern cases route).second method ∧
          ∃ pathPrefixes, route.routeMatch.pathPrefixes = some pathPrefixes ∧
            ∃ a ∈ pathPrefixes, ∀ start, normalizeRoutePathPrefix a ≠ .ok start := by
  rw [matchesRoute] at h
  rw [requestError]
  cases hhost : normalizeHost cases request.host with
  | error e' =>
      rw [hhost] at h
      exact ⟨(Except.error.inj h).symm, fun _ _ _ hok => absurd hok (by simp only [reduceCtorEq, not_false_eq_true])⟩
  | ok host =>
      cases hmethod : normalizeMethod cases request.method with
      | error e' =>
          rw [hhost, hmethod] at h
          exact ⟨(Except.error.inj h).symm, fun _ _ _ _ hok => absurd hok (by simp only [reduceCtorEq, not_false_eq_true])⟩
      | ok method =>
          cases hpath : normalizePath request.path with
          | error e' =>
              rw [hhost, hmethod, hpath] at h
              exact ⟨(Except.error.inj h).symm, fun _ _ _ _ _ hok => absurd hok (by simp only [reduceCtorEq, not_false_eq_true])⟩
          | ok path =>
              rw [hhost, hmethod, hpath] at h
              simp only [bind, Except.bind] at h
              split at h
              · cases h
              · rename_i hhosts
                split at h
                · cases h
                · rename_i hmethods
                  split at h
                  · cases h
                  · rename_i pathPrefixes hprefixes
                    rcases anyM_eq_error h with ⟨a, ha, herror⟩
                    rcases prefix_error (rooted_of_normalizePath hpath) herror
                      (hblank a (by rw [hprefixes]; exact ha)) with ⟨he, hread⟩
                    refine ⟨he, fun host' method' path' hhost' hmethod' _ => ?_⟩
                    rw [Except.ok.injEq] at hhost' hmethod'
                    rw [← hhost', ← hmethod']
                    simp only [Bool.not_eq_true', Bool.not_eq_false, List.any_eq_true,
                      decide_eq_true_eq] at hhosts
                    simp only [Bool.not_eq_true', Bool.not_eq_false, Option.all_eq_true,
                      decide_eq_true_eq, List.mem_map] at hmethods
                    exact ⟨hhosts, hmethods, pathPrefixes, hprefixes, a, ha, hread⟩

/-- A route whose prefixes admit a path has prefixes, and the first can be read. -/
theorem ne_nil_of_readPathPrefixes {pathPrefixes : List Text} {start : Text}
    (hprefixes : route.routeMatch.pathPrefixes = some pathPrefixes)
    (h : start ∈ readPathPrefixes route) : pathPrefixes ≠ [] := by
  intro hempty
  rw [readPathPrefixes, hprefixes, hempty] at h
  exact List.not_mem_nil h

/-- Beside a route that matches, no route fails that was found not to overlap with it. -/
theorem no_error_beside_match {request : EgressRequest} (hblank : NoBlankPrefix right)
    (hoverlap : routesOverlap cases left right = .ok false ∨
      routesOverlap cases right left = .ok false)
    (hmatch : matchesRoute cases left request = .ok true) (e : EgressRouteError) :
    matchesRoute cases right request ≠ .error e := by
  intro herror
  rcases matchesRoute_iff.mp hmatch with ⟨host, method, path, hhost, hmethod, hpath, hleft⟩
  rcases (matchesRoute_error hblank herror).2 host method path hhost hmethod hpath with
    ⟨hhosts, hmethods, pathPrefixes, hprefixes, a, ha, hread⟩
  rcases hleft with ⟨⟨leftHost, hleftHost, hlower⟩, hleftMethods, start, hstart, _⟩
  rcases hhosts with ⟨rightHost, hrightHost, hlower'⟩
  have hshared : ∀ left right : EgressCredentialRoute,
      (∃ a ∈ left.routeMatch.hosts, cases.toLowerCase a = host) →
      (∃ b ∈ right.routeMatch.hosts, cases.toLowerCase b = host) →
      (corePattern cases left).second method → (corePattern cases right).second method →
      routesOverlap cases left right = .ok false →
      hasPathPrefixOverlap left.routeMatch.pathPrefixes right.routeMatch.pathPrefixes =
        .ok false := by
    rintro left right ⟨a, ha, hlower⟩ ⟨b, hb, hlower'⟩ hmethods hmethods' h
    have hhosts : hasHostOverlap cases left.routeMatch.hosts right.routeMatch.hosts = true :=
      hasHostOverlap_iff.mpr ⟨a, ha, b, hb, hlower.trans hlower'.symm, trivial⟩
    have hmeet : OptionalTextsMeet cases.toUpperCase (fun _ => True) left.routeMatch.methods
        right.routeMatch.methods :=
      (optionalTextsMeet_iff ⟨method, trivial⟩).mp ⟨method, trivial, hmethods, hmethods'⟩
    rwa [routesOverlap, hhosts, hasMethodOverlap_of_meet hmeet] at h
  have hpaths : hasPathPrefixOverlap left.routeMatch.pathPrefixes right.routeMatch.pathPrefixes =
        .ok false ∨
      hasPathPrefixOverlap right.routeMatch.pathPrefixes left.routeMatch.pathPrefixes =
        .ok false :=
    hoverlap.imp
      (hshared left right ⟨leftHost, hleftHost, hlower⟩ ⟨rightHost, hrightHost, hlower'⟩
        hleftMethods hmethods)
      (hshared right left ⟨rightHost, hrightHost, hlower'⟩ ⟨leftHost, hleftHost, hlower⟩
        hmethods hleftMethods)
  rw [hprefixes] at hpaths
  cases hleftPrefixes : left.routeMatch.pathPrefixes with
  | none =>
      rw [hleftPrefixes] at hpaths
      rcases hpaths with hpaths | hpaths
      · cases hpaths
      · cases hpaths
  | some leftPrefixes =>
      -- The comparison has read every prefix of the other route, in either order.
      have hne : leftPrefixes ≠ [] := ne_nil_of_readPathPrefixes hleftPrefixes hstart
      rw [hleftPrefixes] at hpaths
      have hok : ∃ start, normalizeRoutePathPrefix a = .ok start := by
        rcases hpaths with hpaths | hpaths
        · exact (readable_of_hasPathPrefixOverlap hpaths).2 hne a ha
        · exact (readable_of_hasPathPrefixOverlap hpaths).1 hne a ha
      rcases hok with ⟨start, hok⟩
      exact hread start hok

/-- Where no two routes meet, the route that is found does not depend on the order. -/
theorem resolveRouteForRequest_perm (hcases : cases.Lawful) {routes routes' : List EgressCredentialRoute}
    (hperm : routes'.Perm routes) (hblank : ∀ route ∈ routes, NoBlankPrefix route)
    (hoverlap : routes.Pairwise fun left right => routesOverlap cases left right = .ok false)
    (hmeet : routes.Pairwise fun left right => ¬ CoreMeet cases left right)
    (request : EgressRequest) :
    resolveRouteForRequest cases routes' request = resolveRouteForRequest cases routes request := by
  have hordered : (orderRoutesForMatching cases routes).Perm routes := List.perm_insertionSort _ _
  have hordered' : (orderRoutesForMatching cases routes').Perm routes' := List.perm_insertionSort _ _
  have hmem : ∀ route, route ∈ orderRoutesForMatching cases routes → route ∈ routes :=
    fun route => hordered.mem_iff.mp
  refine findM?_perm (hordered'.trans (hperm.trans hordered.symm)) ?_ ?_ ?_
  · intro a ha b hb hok hok'
    by_contra hne
    rcases pairwise_either hmeet (hmem a ha) (hmem b hb) hne with hno | hno
    · exact hno ((coreMeet_iff hcases).mp ⟨request, hok, hok'⟩)
    · exact hno ((coreMeet_iff hcases).mp ⟨request, hok', hok⟩)
  · intro a ha b hb hok e
    by_cases heq : a = b
    · rw [← heq, hok]
      exact nofun
    · exact no_error_beside_match (hblank b (hmem b hb))
        (pairwise_either hoverlap (hmem a ha) (hmem b hb) heq) hok e
  · intro a ha b hb e e' herror herror'
    rw [(matchesRoute_error (hblank a (hmem a ha)) herror).1,
      (matchesRoute_error (hblank b (hmem b hb)) herror').1]

/-! ### One route for a request -/

/-- At most one route is for a request: the compiler finds one at most and the same one in
    any order, for the gateway it is never ambiguous, and the sandbox never fails it. -/
structure OneRoute (cases : CaseMapping) (routes : List EgressCredentialRoute) : Prop where
  core : ∀ request,
    (routes.filter fun route => decide (matchesRoute cases route request = .ok true)).length ≤ 1
  order : ∀ routes', routes'.Perm routes → ∀ request,
    resolveRouteForRequest cases routes' request = resolveRouteForRequest cases routes request
  gateway : ∀ authority method path matching,
    Gateway.classifyRuntimePlanEgressRoute cases authority method path routes ≠ .ambiguous matching
  sandbox : ∀ host path method message,
    Sandbox.matchRoute (routes.map Sandbox.proxyRoute) host path method ≠ .error message

/-- No two routes meet, as any of the matchers reads them. -/
def NoRoutesMeet (cases : CaseMapping) (routes : List EgressCredentialRoute) : Prop :=
  routes.Pairwise fun left right => ¬ CoreMeet cases left right ∧
    ¬ Gateway.RoutesMeet cases left right ∧ ¬ Sandbox.RoutesMeet left right

/-- At most one route matches any request where no two routes are both matched by one. -/
theorem all_length_filter_le_one_iff {ι : Type} {p : ι → EgressCredentialRoute → Bool}
    {meet : EgressCredentialRoute → EgressCredentialRoute → Prop}
    (hmeet : ∀ left right, (∃ i, p i left = true ∧ p i right = true) ↔ meet left right)
    {routes : List EgressCredentialRoute} :
    (∀ i, (routes.filter (p i)).length ≤ 1) ↔
      routes.Pairwise fun left right => ¬ meet left right := by
  simp only [length_filter_le_one_iff, pairwise_forall, ← hmeet, not_exists]

theorem classify_not_ambiguous_iff {authority method path : Text}
    {routes : List EgressCredentialRoute} :
    (∀ matching, Gateway.classifyRuntimePlanEgressRoute cases authority method path routes ≠
        .ambiguous matching) ↔
      (routes.filter (Gateway.matches? cases authority method path)).length ≤ 1 := by
  rcases Gateway.classifyRuntimePlanEgressRoute_cases cases authority method path routes with
    ⟨hfilter, hresult⟩ | ⟨route, hfilter, hresult⟩ | ⟨hlength, hresult⟩
  · rw [hresult, hfilter]
    exact iff_of_true nofun (Nat.zero_le 1)
  · rw [hresult, hfilter]
    exact iff_of_true nofun (Nat.le_refl 1)
  · rw [hresult]
    exact iff_of_false (fun h => h _ rfl) (by omega)

theorem matchRoute_not_error_iff {host path method : Text} {routes : List EgressCredentialRoute} :
    (∀ message, Sandbox.matchRoute (routes.map Sandbox.proxyRoute) host path method ≠
        .error message) ↔
      (routes.filter fun route =>
        Sandbox.matches? host path method (Sandbox.proxyRoute route)).length ≤ 1 := by
  have hlength : ((routes.map Sandbox.proxyRoute).filter
      (Sandbox.matches? host path method)).length = (routes.filter fun route =>
        Sandbox.matches? host path method (Sandbox.proxyRoute route)).length := by
    rw [List.filter_map, List.length_map]
    rfl
  rw [← hlength]
  rcases Sandbox.matchRoute_cases (routes.map Sandbox.proxyRoute) host path method with
    ⟨hfilter, hresult⟩ | ⟨route, hfilter, hresult⟩ | ⟨hlength, message, hresult⟩
  · rw [hresult, hfilter]
    exact iff_of_true nofun (Nat.zero_le 1)
  · rw [hresult, hfilter]
    exact iff_of_true nofun (Nat.le_refl 1)
  · rw [hresult]
    exact iff_of_false (fun h => h message rfl) (by omega)

/-- At most one of the accepted routes is for a request exactly where no two of them meet. -/
theorem oneRoute_iff (hcases : cases.Lawful) {routes : List EgressCredentialRoute}
    (haccepted : validateRoutes cases routes = .ok ()) :
    OneRoute cases routes ↔ NoRoutesMeet cases routes := by
  have hcore : (∀ request : EgressRequest, (routes.filter fun route =>
      decide (matchesRoute cases route request = .ok true)).length ≤ 1) ↔
      routes.Pairwise fun left right => ¬ CoreMeet cases left right := by
    refine all_length_filter_le_one_iff fun left right => ?_
    rw [← coreMeet_iff hcases]
    simp only [decide_eq_true_eq]
  have hgateway : (∀ request : Text × Text × Text, (routes.filter
      (Gateway.matches? cases request.1 request.2.1 request.2.2)).length ≤ 1) ↔
      routes.Pairwise fun left right => ¬ Gateway.RoutesMeet cases left right := by
    refine all_length_filter_le_one_iff fun left right => ?_
    rw [← Gateway.routesMeet_iff hcases]
    simp only [Prod.exists]
  have hsandbox : (∀ request : Text × Text × Text, (routes.filter fun route =>
      Sandbox.matches? request.1 request.2.1 request.2.2 (Sandbox.proxyRoute route)).length ≤ 1) ↔
      routes.Pairwise fun left right => ¬ Sandbox.RoutesMeet left right := by
    refine all_length_filter_le_one_iff fun left right => ?_
    rw [← Sandbox.routesMeet_iff]
    simp only [Prod.exists]
  rcases validateRoutes_ok haccepted with ⟨hblank, _, hoverlap⟩
  rw [NoRoutesMeet, List.pairwise_and_iff, List.pairwise_and_iff, ← hcore, ← hgateway, ← hsandbox]
  constructor
  · intro h
    exact ⟨h.core, fun request => classify_not_ambiguous_iff.mp (h.gateway _ _ _),
      fun request => matchRoute_not_error_iff.mp (h.sandbox _ _ _)⟩
  · rintro ⟨h, hone, hone'⟩
    exact ⟨h, fun routes' hperm request =>
        resolveRouteForRequest_perm hcases hperm hblank hoverlap (hcore.mp h) request,
      fun authority method path => classify_not_ambiguous_iff.mpr (hone ⟨authority, method, path⟩),
      fun host path method => matchRoute_not_error_iff.mpr (hone' ⟨host, path, method⟩)⟩

/-! ### Routes that are written plainly -/

/-- A route is written the way it is read: no padding, no brackets and no blank text, no list
    without a member, and prefixes that begin with a slash. -/
structure WrittenPlainly (cases : CaseMapping) (route : EgressCredentialRoute) : Prop where
  host : ∀ host ∈ route.routeMatch.hosts, Unpadded (cases.toLowerCase host) ∧
    Sandbox.normalizeMatchHost host = cases.toLowerCase host
  methods : ∀ methods, route.routeMatch.methods = some methods → methods ≠ [] ∧
    ∀ method ∈ methods, Unpadded (cases.toUpperCase method) ∧
      Sandbox.toAsciiUppercase method = cases.toUpperCase method
  pathPrefixes : ∀ pathPrefixes, route.routeMatch.pathPrefixes = some pathPrefixes →
    pathPrefixes ≠ [] ∧ ∀ pathPrefix ∈ pathPrefixes, Rooted pathPrefix ∧
      jsTrim pathPrefix = pathPrefix ∧ Sandbox.rustTrim pathPrefix = pathPrefix

/-- The prefixes of a route without their last slash. -/
def cutPrefixes (route : EgressCredentialRoute) : List Text :=
  (route.routeMatch.pathPrefixes.getD [['/']]).map (cutLast '/')

theorem normalizeRoutePathPrefix_of_plain {pathPrefix : Text} (hrooted : Rooted pathPrefix)
    (htrim : jsTrim pathPrefix = pathPrefix) :
    normalizeRoutePathPrefix pathPrefix = .ok (cutLast '/' pathPrefix) := by
  have hne : pathPrefix.length ≠ 0 := by
    intro hempty
    rw [Rooted, List.length_eq_zero_iff.mp hempty] at hrooted
    cases hrooted
  have hslash : ¬ pathPrefix.head? ≠ some '/' := not_not.mpr hrooted
  simp only [normalizeRoutePathPrefix, htrim]
  rw [if_neg hne, if_neg hslash]

theorem WrittenPlainly.readPathPrefixes (h : WrittenPlainly cases route) :
    readPathPrefixes route = cutPrefixes route := by
  rw [Mistle.readPathPrefixes, cutPrefixes]
  cases hprefixes : route.routeMatch.pathPrefixes with
  | none => rfl
  | some pathPrefixes =>
      refine readUntil_of_total fun pathPrefix hmem => ?_
      have hplain := (h.pathPrefixes pathPrefixes hprefixes).2 pathPrefix hmem
      exact normalizeRoutePathPrefix_of_plain hplain.1 hplain.2.1

/-- Trimming in one way or the other and a slash for blank prefixes change nothing. -/
theorem map_starts_of_plain (h : WrittenPlainly cases route) {trimmed : Text → Text}
    (htrimmed : ∀ pathPrefixes, route.routeMatch.pathPrefixes = some pathPrefixes →
      ∀ pathPrefix ∈ pathPrefixes, trimmed pathPrefix = pathPrefix)
    (hslash : trimmed ['/'] = ['/']) :
    ((route.routeMatch.pathPrefixes.getD [['/']]).map fun pathPrefix =>
      rootStart '/' (cutLast '/' (trimmed pathPrefix))) = cutPrefixes route := by
  rw [cutPrefixes]
  refine List.map_congr_left fun pathPrefix hmem => ?_
  have hplain : trimmed pathPrefix = pathPrefix ∧ Rooted pathPrefix := by
    cases hprefixes : route.routeMatch.pathPrefixes with
    | none =>
        rw [hprefixes, Option.getD_none, List.mem_singleton] at hmem
        rw [hmem]
        exact ⟨hslash, rfl⟩
    | some pathPrefixes =>
        rw [hprefixes, Option.getD_some] at hmem
        exact ⟨htrimmed pathPrefixes hprefixes pathPrefix hmem,
          ((h.pathPrefixes pathPrefixes hprefixes).2 pathPrefix hmem).1⟩
  have hhead := cutLast_head? hplain.2
  rw [hplain.1]
  cases hcut : cutLast '/' pathPrefix with
  | nil =>
      rw [hcut] at hhead
      exact absurd hhead nofun
  | cons c rest => rfl

theorem WrittenPlainly.gateway_starts (h : WrittenPlainly cases route) :
    Gateway.starts route = cutPrefixes route :=
  map_starts_of_plain h
    (fun pathPrefixes hprefixes pathPrefix hmem =>
      ((h.pathPrefixes pathPrefixes hprefixes).2 pathPrefix hmem).2.1) (by decide)

theorem WrittenPlainly.sandbox_starts (h : WrittenPlainly cases route) :
    Sandbox.starts route = cutPrefixes route :=
  map_starts_of_plain h
    (fun pathPrefixes hprefixes pathPrefix hmem =>
      ((h.pathPrefixes pathPrefixes hprefixes).2 pathPrefix hmem).2.2) (by decide)

/-- Where two routes share texts at all, they share texts that a request may have. -/
theorem OptionalTextsMeet.of_possible {read read' : Text → Text} {possible possible' : Text → Prop}
    {left right : Option (List Text)}
    (hleft : ∀ texts, left = some texts → ∀ a ∈ texts, read' a = read a ∧ possible (read a))
    (hright : ∀ texts, right = some texts → ∀ b ∈ texts, read' b = read b ∧ possible (read b))
    (h : OptionalTextsMeet read' possible' left right) :
    OptionalTextsMeet read possible left right := by
  cases left with
  | none =>
      cases right with
      | none => trivial
      | some right =>
          rcases h with ⟨b, hb, _⟩
          exact ⟨b, hb, (hright right rfl b hb).2⟩
  | some left =>
      cases right with
      | none =>
          rcases h with ⟨a, ha, _⟩
          exact ⟨a, ha, (hleft left rfl a ha).2⟩
      | some right =>
          rcases h with ⟨a, ha, b, hb, heq, _⟩
          have hlefta := hleft left rfl a ha
          have hrightb := hright right rfl b hb
          exact ⟨a, ha, b, hb, by rw [← hlefta.1, ← hrightb.1, heq], hlefta.2⟩

theorem coreMeet_of_gateway (hleft : WrittenPlainly cases left) (hright : WrittenPlainly cases right)
    (h : Gateway.RoutesMeet cases left right) : CoreMeet cases left right := by
  refine ⟨?_, ?_, ?_⟩
  · rcases h.hosts with ⟨a, ha, b, hb, heq, _⟩
    exact ⟨a, ha, b, hb, heq, (hleft.host a ha).1⟩
  · exact h.methods.of_possible
      (fun methods hmethods m hm => ⟨rfl, ((hleft.methods methods hmethods).2 m hm).1⟩)
      fun methods hmethods m hm => ⟨rfl, ((hright.methods methods hmethods).2 m hm).1⟩
  · rw [hleft.readPathPrefixes, hright.readPathPrefixes, ← hleft.gateway_starts,
      ← hright.gateway_starts]
    exact h.paths

theorem coreMeet_of_sandbox (hleft : WrittenPlainly cases left) (hright : WrittenPlainly cases right)
    (h : Sandbox.RoutesMeet left right) : CoreMeet cases left right := by
  refine ⟨?_, ?_, ?_⟩
  · rcases h.hosts with ⟨a, ha, b, hb, heq, _⟩
    have hlefta := hleft.host a ha
    exact ⟨a, ha, b, hb, by rw [← hlefta.2, ← (hright.host b hb).2, heq], hlefta.1⟩
  · refine h.methods.of_possible (fun methods hmethods m hm => ?_) fun methods hmethods m hm => ?_
    · have hplain := (hleft.methods methods hmethods).2 m hm
      exact ⟨hplain.2, hplain.1⟩
    · have hplain := (hright.methods methods hmethods).2 m hm
      exact ⟨hplain.2, hplain.1⟩
  · rw [hleft.readPathPrefixes, hright.readPathPrefixes, ← hleft.sandbox_starts,
      ← hright.sandbox_starts]
    rcases h.paths with ⟨a, ha, b, hb, hkind, hkind', hmeet⟩
    exact ⟨a, ha, b, hb, hkind.1, hkind'.1, hmeet⟩

/-- Plain prefixes come together as they are written exactly where they do as they are
    read. -/
theorem pathPrefixesOverlap_of_plain {a b : Text} (ha : Rooted a) (hatrim : jsTrim a = a)
    (hb : Rooted b) (hbtrim : jsTrim b = b) :
    ∃ overlap, pathPrefixesOverlap a b = .ok overlap ∧
      (overlap = true ↔ Covers '/' (cutLast '/' a) (cutLast '/' b) ∨
        Covers '/' (cutLast '/' b) (cutLast '/' a)) := by
  have hbelongs : ∀ x y : Text, Rooted x → Rooted y → jsTrim y = y →
      pathBelongsToPrefix x y = .ok (decide (Covers '/' (cutLast '/' y) x)) := by
    intro x y hx hy hytrim
    rw [pathBelongsToPrefix, normalizePath_of_rooted hx, normalizeRoutePathPrefix_of_plain hy hytrim]
    rfl
  refine ⟨decide (Covers '/' (cutLast '/' b) a) || decide (Covers '/' (cutLast '/' a) b), ?_, ?_⟩
  · rw [pathPrefixesOverlap, hbelongs a b ha hb hbtrim, hbelongs b a hb ha hatrim]
    by_cases hcovers : Covers '/' (cutLast '/' b) a
    · simp only [hcovers, decide_true, Bool.true_or]
      rfl
    · simp only [hcovers, decide_false, Bool.false_or]
      rfl
  · rw [Bool.or_eq_true, decide_eq_true_eq, decide_eq_true_eq]
    exact covers_cutLast_iff

theorem mem_cutPrefixes {start : Text} :
    start ∈ cutPrefixes route ↔
      ∃ pathPrefix ∈ route.routeMatch.pathPrefixes.getD [['/']], cutLast '/' pathPrefix = start :=
  List.mem_map

/-- Paths of plain routes overlap as they are written exactly where they meet. -/
theorem hasPathPrefixOverlap_of_plain (hleft : WrittenPlainly cases left)
    (hright : WrittenPlainly cases right) :
    hasPathPrefixOverlap left.routeMatch.pathPrefixes right.routeMatch.pathPrefixes = .ok true ↔
      PrefixesMeet '/' Rooted (readPathPrefixes left) (readPathPrefixes right) := by
  have hroot : ∀ starts : List Text, (∀ b ∈ starts, Rooted b) → starts ≠ [] →
      PrefixesMeet '/' Rooted [['/']] starts ∧ PrefixesMeet '/' Rooted starts [['/']] := by
    intro starts hrooted hne
    rcases List.exists_mem_of_ne_nil _ hne with ⟨b, hb⟩
    have hslash : ['/'] ∈ [['/']] := List.mem_singleton.mpr rfl
    exact ⟨⟨['/'], hslash, b, hb, rfl, hrooted b hb, .inl (.inl rfl)⟩,
      ⟨b, hb, ['/'], hslash, hrooted b hb, rfl, .inr (.inl rfl)⟩⟩
  have hne : ∀ route, WrittenPlainly cases route → readPathPrefixes route ≠ [] := by
    intro route hplain
    rw [hplain.readPathPrefixes, cutPrefixes]
    cases hprefixes : route.routeMatch.pathPrefixes with
    | none => exact List.cons_ne_nil _ _
    | some pathPrefixes =>
        intro hempty
        exact (hplain.pathPrefixes pathPrefixes hprefixes).1 (List.map_eq_nil_iff.mp hempty)
  cases hl : left.routeMatch.pathPrefixes with
  | none =>
      have hstarts : readPathPrefixes left = [['/']] := by rw [readPathPrefixes, hl]
      rw [hstarts]
      exact iff_of_true rfl
        (hroot _ (fun b hb => rooted_of_readPathPrefixes hb) (hne right hright)).1
  | some leftPrefixes =>
      cases hr : right.routeMatch.pathPrefixes with
      | none =>
          have hstarts : readPathPrefixes right = [['/']] := by rw [readPathPrefixes, hr]
          rw [hstarts]
          exact iff_of_true rfl
            (hroot _ (fun b hb => rooted_of_readPathPrefixes hb) (hne left hleft)).2
      | some rightPrefixes =>
          have hpair : ∀ a ∈ leftPrefixes, ∀ b ∈ rightPrefixes, ∃ overlap,
              pathPrefixesOverlap a b = .ok overlap ∧
              (overlap = true ↔ Covers '/' (cutLast '/' a) (cutLast '/' b) ∨
                Covers '/' (cutLast '/' b) (cutLast '/' a)) := by
            intro a ha b hb
            have hplain := (hleft.pathPrefixes leftPrefixes hl).2 a ha
            have hplain' := (hright.pathPrefixes rightPrefixes hr).2 b hb
            exact pathPrefixesOverlap_of_plain hplain.1 hplain.2.1 hplain'.1 hplain'.2.1
          have hrow : ∀ a ∈ leftPrefixes, ∃ overlap,
              (rightPrefixes.anyM fun b => pathPrefixesOverlap a b) = .ok overlap ∧
              (overlap = true ↔ ∃ b ∈ rightPrefixes, pathPrefixesOverlap a b = .ok true) :=
            fun a ha => anyM_of_total fun b hb => (hpair a ha b hb).imp fun _ h => h.1
          have hcell : ∀ a ∈ leftPrefixes,
              ((rightPrefixes.anyM fun b => pathPrefixesOverlap a b) = .ok true ↔
                ∃ b ∈ rightPrefixes, Covers '/' (cutLast '/' a) (cutLast '/' b) ∨
                  Covers '/' (cutLast '/' b) (cutLast '/' a)) := by
            intro a ha
            rcases hrow a ha with ⟨overlap, hok, hiff⟩
            rw [hok, Except.ok.injEq, hiff]
            refine exists_congr fun b => and_congr_right fun hb => ?_
            rcases hpair a ha b hb with ⟨overlap', hok', hiff'⟩
            rw [hok', Except.ok.injEq, hiff']
          rcases anyM_of_total fun a ha => (hrow a ha).imp fun _ h => h.1 with
            ⟨overlap, hok, hiff⟩
          rw [hasPathPrefixOverlap, hok, Except.ok.injEq, hiff, hleft.readPathPrefixes,
            hright.readPathPrefixes, PrefixesMeet]
          simp only [mem_cutPrefixes, hl, hr, Option.getD_some]
          constructor
          · rintro ⟨a, ha, hany⟩
            rcases (hcell a ha).mp hany with ⟨b, hb, hmeet⟩
            have hplain := (hleft.pathPrefixes leftPrefixes hl).2 a ha
            have hplain' := (hright.pathPrefixes rightPrefixes hr).2 b hb
            exact ⟨_, ⟨a, ha, rfl⟩, _, ⟨b, hb, rfl⟩, cutLast_head? hplain.1,
              cutLast_head? hplain'.1, hmeet⟩
          · rintro ⟨_, ⟨a, ha, rfl⟩, _, ⟨b, hb, rfl⟩, _, _, hmeet⟩
            exact ⟨a, ha, (hcell a ha).mpr ⟨b, hb, hmeet⟩⟩

theorem methodsMeet_of_plain (hleft : WrittenPlainly cases left)
    (hright : WrittenPlainly cases right)
    (h : hasMethodOverlap cases left.routeMatch.methods right.routeMatch.methods = true) :
    OptionalTextsMeet cases.toUpperCase Unpadded left.routeMatch.methods
      right.routeMatch.methods := by
  cases hl : left.routeMatch.methods with
  | none =>
      cases hr : right.routeMatch.methods with
      | none => trivial
      | some rightMethods =>
          rcases List.exists_mem_of_ne_nil _ (hright.methods rightMethods hr).1 with ⟨b, hb⟩
          exact ⟨b, hb, ((hright.methods rightMethods hr).2 b hb).1⟩
  | some leftMethods =>
      cases hr : right.routeMatch.methods with
      | none =>
          rcases List.exists_mem_of_ne_nil _ (hleft.methods leftMethods hl).1 with ⟨a, ha⟩
          exact ⟨a, ha, ((hleft.methods leftMethods hl).2 a ha).1⟩
      | some rightMethods =>
          rw [hl, hr, hasMethodOverlap, List.any_eq_true] at h
          rcases h with ⟨a, ha, hmem⟩
          rcases List.mem_map.mp (of_decide_eq_true hmem) with ⟨b, hb, heq⟩
          exact ⟨a, ha, b, hb, heq.symm, ((hleft.methods leftMethods hl).2 a ha).1⟩

/-- Of routes that are written plainly the test for overlap is exact. -/
theorem overlapsAsRead_of_plain (hleft : WrittenPlainly cases left)
    (hright : WrittenPlainly cases right) : OverlapsAsRead cases left right := by
  refine ⟨fun hhosts hmethods hpaths => ⟨?_, ?_, ?_⟩, fun h => ?_⟩
  · rcases hasHostOverlap_iff.mp hhosts with ⟨a, ha, b, hb, heq, _⟩
    exact ⟨a, ha, b, hb, heq, (hleft.host a ha).1⟩
  · exact methodsMeet_of_plain hleft hright hmethods
  · exact (hasPathPrefixOverlap_of_plain hleft hright).mp hpaths
  · exact (hasPathPrefixOverlap_of_plain hleft hright).mpr h.paths

/-- Of accepted routes that are written plainly no two meet. -/
theorem noRoutesMeet_of_plain (hcases : cases.Lawful) {routes : List EgressCredentialRoute}
    (haccepted : validateRoutes cases routes = .ok ())
    (hplain : ∀ route ∈ routes, WrittenPlainly cases route) : NoRoutesMeet cases routes := by
  refine (validateRoutes_ok haccepted).2.2.imp_of_mem ?_
  intro left right hleft hright hoverlap
  have hnone : ¬ CoreMeet cases left right := by
    intro hmeet
    have htrue := ((routesOverlap_iff hcases).mpr (overlapsAsRead_of_plain (hplain left hleft)
      (hplain right hright))).mpr ((coreMeet_iff hcases).mpr hmeet)
    rw [hoverlap] at htrue
    exact absurd htrue (by decide)
  exact ⟨hnone, fun h => hnone (coreMeet_of_gateway (hplain left hleft) (hplain right hright) h),
    fun h => hnone (coreMeet_of_sandbox (hplain left hleft) (hplain right hright) h)⟩

end

/-- Upper and lower case in ASCII. -/
def asciiCases : CaseMapping where
  toLowerCase := Sandbox.toAsciiLowercase
  toUpperCase := Sandbox.toAsciiUppercase
  localeCompare := fun left right => if left < right then -1 else if right < left then 1 else 0

theorem asciiCases_lawful : asciiCases.Lawful where
  toLowerCase_trim := trimWith_map isJsWhiteSpace_toLower
  toUpperCase_trim := trimWith_map isJsWhiteSpace_toUpper
  toUpperCase_idem text := by
    simp only [asciiCases, Sandbox.toAsciiUppercase, List.map_map, Function.comp_def,
      toUpper_toUpper]
  toUpperCase_get := by decide

def apiRoute (egressRuleId host : String) (methods : Option (List String)) (pathPrefix : String) :
    EgressCredentialRoute where
  egressRuleId := egressRuleId.toList
  bindingId := "bind_1".toList
  routeMatch := ⟨[host.toList], methods.map (List.map String.toList), some [pathPrefix.toList]⟩
  upstreamBaseUrl := "https://api.example.com".toList

/-- Two routes of one host with prefixes of their own. -/
def twoRoutes : List EgressCredentialRoute :=
  [apiRoute "a" "api.example.com" (some ["GET", "POST"]) "/v1",
    apiRoute "b" "api.example.com" none "/v2"]

theorem twoRoutes_plain : ∀ route ∈ twoRoutes, WrittenPlainly asciiCases route := by
  refine List.forall_mem_cons.mpr ⟨⟨by decide, ?_, ?_⟩, List.forall_mem_cons.mpr
    ⟨⟨by decide, nofun, ?_⟩, List.forall_mem_nil _⟩⟩
  · intro methods hmethods
    cases hmethods
    decide
  · intro pathPrefixes hprefixes
    cases hprefixes
    decide
  · intro pathPrefixes hprefixes
    cases hprefixes
    decide

end Mistle
