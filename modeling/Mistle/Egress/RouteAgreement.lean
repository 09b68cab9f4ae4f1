import Mistle.Egress.RoutePlans

/-!
# Agreement of the Route Matchers

The compiler, the gateway and the sandbox each look a request up among the routes of a plan.
They read the host, the method and the path of the request in their own ways: the compiler
keeps a port and brackets, which the others take off, the sandbox keeps lower case in a
method, and it alone leaves the query out of the path.

The compiler tries the routes one after the other, and fails where a request or a prefix
cannot be read. The others look at all routes. The three choose the same route exactly where
the gateway and the sandbox admit the same routes and no two of them, and the compiler reads
each route it gets to as the gateway does. Nothing is left to the readings for requests and
routes that are written plainly.

## Main definitions

* `MatchersAgree`: All three choose the same route, or none.
* `ReadAlike`: The routes are read in the same way, as far as each matcher looks at them.
* `PlainRequest`: The three read a request alike.

## Theorems

* `matchesRoute_iff_gateway`: When the compiler reads a route as the gateway does.
* `matchersAgree_iff`: When the three matchers agree.
* `readAlike_of_plain`: Plain routes and requests are read alike.
-/

namespace Mistle

/-- The three matchers choose the same route, or all choose none. -/
def MatchersAgree (cases : CaseMapping) (routes : List EgressCredentialRoute)
    (request : EgressRequest) : Prop :=
  (∃ route, resolveRouteForRequest cases routes request = .ok (some route) ∧
    Gateway.classifyRuntimePlanEgressRoute cases request.host request.method request.path routes =
      .matched route ∧
    Sandbox.matchRoute (routes.map Sandbox.proxyRoute) request.host request.path request.method =
      .ok (some (Sandbox.proxyRoute route))) ∨
  (resolveRouteForRequest cases routes request = .ok none ∧
    Gateway.classifyRuntimePlanEgressRoute cases request.host request.method request.path routes =
      .unmatched ∧
    Sandbox.matchRoute (routes.map Sandbox.proxyRoute) request.host request.path request.method =
      .ok none)

/-- The route admits the request as the compiler reads it. -/
def CoreAdmits (cases : CaseMapping) (request : EgressRequest) (route : EgressCredentialRoute) :
    Prop :=
  (corePattern cases route).Admits (cases.toLowerCase (jsTrim request.host))
    (cases.toUpperCase (jsTrim request.method)) (Gateway.normalizePath request.path)

/-- The route admits the request as the gateway reads it. -/
def GatewayAdmits (cases : CaseMapping) (request : EgressRequest) (route : EgressCredentialRoute) :
    Prop :=
  (Gateway.pattern cases route).Admits (Gateway.normalizeAuthorityHost cases request.host)
    (cases.toUpperCase request.method) (Gateway.normalizePath request.path)

/-- The route admits the request as the sandbox reads it. -/
def SandboxAdmits (request : EgressRequest) (route : EgressCredentialRoute) : Prop :=
  (Sandbox.pattern route).Admits (Sandbox.normalizeAuthorityHost request.host) request.method
    (Sandbox.normalizePath request.path)

/-- The compiler's reading of the request and of the route comes to an end: the request has a
    host, a method and a path, and where host and method are the route's, the path is under a
    prefix before the first that cannot be read, or all prefixes can be read. -/
structure Readable (cases : CaseMapping) (request : EgressRequest) (route : EgressCredentialRoute) :
    Prop where
  host : cases.toLowerCase (jsTrim request.host) ≠ []
  method : cases.toUpperCase (jsTrim request.method) ≠ []
  path : request.path ≠ []
  prefixes : (corePattern cases route).first (cases.toLowerCase (jsTrim request.host)) →
    (corePattern cases route).second (cases.toUpperCase (jsTrim request.method)) →
    (corePattern cases route).third (Gateway.normalizePath request.path) ∨
      ∀ pathPrefixes, route.routeMatch.pathPrefixes = some pathPrefixes →
        ∀ pathPrefix ∈ pathPrefixes, ∃ start, normalizeRoutePathPrefix pathPrefix = .ok start

/-- The gateway and the sandbox admit the same routes and no two of them, and the compiler
    reads each route as the gateway does that it gets to, which are those up to the first that
    the gateway admits. -/
structure ReadAlike (cases : CaseMapping) (routes : List EgressCredentialRoute)
    (request : EgressRequest) : Prop where
  sandbox : ∀ route ∈ routes, (GatewayAdmits cases request route ↔ SandboxAdmits request route)
  single : routes.Pairwise fun left right =>
    ¬ (GatewayAdmits cases request left ∧ GatewayAdmits cases request right)
  core : ∀ before route after, orderRoutesForMatching cases routes = before ++ route :: after →
    (∀ earlier ∈ before, ¬ GatewayAdmits cases request earlier) →
    Readable cases request route ∧
      (CoreAdmits cases request route ↔ GatewayAdmits cases request route)

/-- A request is written the way it is read: with nothing empty, no padding, no port and no
    brackets, the method in upper case and the path without a query. -/
structure PlainRequest (cases : CaseMapping) (request : EgressRequest) : Prop where
  host : cases.toLowerCase (jsTrim request.host) ≠ [] ∧
    Gateway.normalizeAuthorityHost cases request.host = cases.toLowerCase (jsTrim request.host) ∧
    Sandbox.normalizeAuthorityHost request.host = cases.toLowerCase (jsTrim request.host)
  method : cases.toUpperCase (jsTrim request.method) ≠ [] ∧
    cases.toUpperCase request.method = cases.toUpperCase (jsTrim request.method) ∧
    request.method = cases.toUpperCase (jsTrim request.method)
  path : request.path ≠ [] ∧ '?' ∉ request.path

section

variable {cases : CaseMapping} {request : EgressRequest} {route : EgressCredentialRoute}
  {routes : List EgressCredentialRoute}

theorem normalizePath_of_ne_nil {path : Text} (h : path ≠ []) :
    normalizePath path = .ok (Gateway.normalizePath path) := by
  have hlength : path.length ≠ 0 := fun hempty => h (List.length_eq_zero_iff.mp hempty)
  rw [normalizePath, if_neg hlength, Gateway.normalizePath]
  split <;> rfl

/-- The compiler's verdict on a request that can be read. -/
theorem matchesRoute_of_read (hhost : cases.toLowerCase (jsTrim request.host) ≠ [])
    (hmethod : cases.toUpperCase (jsTrim request.method) ≠ []) (hpath : request.path ≠ [])
    (hfirst : (corePattern cases route).first (cases.toLowerCase (jsTrim request.host)))
    (hsecond : (corePattern cases route).second (cases.toUpperCase (jsTrim request.method))) :
    matchesRoute cases route request =
      match route.routeMatch.pathPrefixes with
      | none => .ok true
      | some pathPrefixes =>
        pathPrefixes.anyM (pathBelongsToPrefix (Gateway.normalizePath request.path)) := by
  have hhosts : (route.routeMatch.hosts.any fun routeHost =>
      decide (cases.toLowerCase routeHost = cases.toLowerCase (jsTrim request.host))) = true := by
    simp only [List.any_eq_true, decide_eq_true_eq]
    exact hfirst
  have hmethods : (route.routeMatch.methods.all fun methods =>
      decide (cases.toUpperCase (jsTrim request.method) ∈ methods.map cases.toUpperCase)) =
        true := by
    simp only [Option.all_eq_true, decide_eq_true_eq, List.mem_map]
    exact hsecond
  rw [matchesRoute, normalizeHost_ok.mpr ⟨hhost, rfl⟩, normalizeMethod_ok.mpr ⟨hmethod, rfl⟩,
    normalizePath_of_ne_nil hpath]
  simp only [bind, Except.bind, hhosts, hmethods, Bool.not_true, Bool.false_eq_true, if_false]
  rfl

/-- A host or a method that is not the route's is not matched. -/
theorem matchesRoute_of_apart (hhost : cases.toLowerCase (jsTrim request.host) ≠ [])
    (hmethod : cases.toUpperCase (jsTrim request.method) ≠ []) (hpath : request.path ≠ [])
    (h : ¬ ((corePattern cases route).first (cases.toLowerCase (jsTrim request.host)) ∧
      (corePattern cases route).second (cases.toUpperCase (jsTrim request.method)))) :
    matchesRoute cases route request = .ok false := by
  have hhosts : (route.routeMatch.hosts.any fun routeHost =>
      decide (cases.toLowerCase routeHost = cases.toLowerCase (jsTrim request.host))) = true ↔
      (corePattern cases route).first (cases.toLowerCase (jsTrim request.host)) := by
    simp only [List.any_eq_true, decide_eq_true_eq, corePattern]
  have hmethods : (route.routeMatch.methods.all fun methods =>
      decide (cases.toUpperCase (jsTrim request.method) ∈ methods.map cases.toUpperCase)) =
        true ↔ (corePattern cases route).second (cases.toUpperCase (jsTrim request.method)) := by
    simp only [Option.all_eq_true, decide_eq_true_eq, List.mem_map, corePattern]
  rw [← hhosts, ← hmethods, not_and_or, Bool.not_eq_true, Bool.not_eq_true] at h
  rw [matchesRoute, normalizeHost_ok.mpr ⟨hhost, rfl⟩, normalizeMethod_ok.mpr ⟨hmethod, rfl⟩,
    normalizePath_of_ne_nil hpath]
  simp only [bind, Except.bind]
  rcases h with h | h
  · rw [h]
    rfl
  · rw [h]
    split <;> rfl

/-- The compiler comes to a verdict exactly where it can read. -/
theorem matchesRoute_ok_iff :
    (∃ b, matchesRoute cases route request = .ok b) ↔ Readable cases request route := by
  have hprefixes : (∃ b, (match route.routeMatch.pathPrefixes with
        | none => .ok true
        | some pathPrefixes =>
          pathPrefixes.anyM (pathBelongsToPrefix (Gateway.normalizePath request.path))) =
        (.ok b : Except EgressRouteError Bool)) ↔
      (corePattern cases route).third (Gateway.normalizePath request.path) ∨
      ∀ pathPrefixes, route.routeMatch.pathPrefixes = some pathPrefixes →
        ∀ pathPrefix ∈ pathPrefixes, ∃ start, normalizeRoutePathPrefix pathPrefix = .ok start := by
    cases hnone : route.routeMatch.pathPrefixes with
    | none =>
        refine iff_of_true ⟨true, rfl⟩ (.inr fun _ hsome => ?_)
        exact absurd hsome (by simp only [reduceCtorEq, not_false_eq_true])
    | some pathPrefixes =>
        have htest : pathBelongsToPrefix (Gateway.normalizePath request.path) = fun pathPrefix =>
            (normalizeRoutePathPrefix pathPrefix).map fun start =>
              decide (Covers '/' start (Gateway.normalizePath request.path)) := by
          funext pathPrefix
          rw [pathBelongsToPrefix, normalizePath_of_rooted (Gateway.rooted_normalizePath _)]
          rfl
        simp only [htest, anyM_ok_iff, decide_eq_true_eq, corePattern, readPathPrefixes, hnone,
          Option.some.injEq, forall_eq']
  constructor
  · rintro ⟨b, hb⟩
    have hhost : cases.toLowerCase (jsTrim request.host) ≠ [] := by
      intro hempty
      rw [matchesRoute, normalizeHost, hempty] at hb
      cases hb
    have hmethod : cases.toUpperCase (jsTrim request.method) ≠ [] := by
      intro hempty
      rw [matchesRoute, normalizeHost_ok.mpr ⟨hhost, rfl⟩, normalizeMethod, hempty] at hb
      cases hb
    have hpath : request.path ≠ [] := by
      intro hempty
      rw [matchesRoute, normalizeHost_ok.mpr ⟨hhost, rfl⟩, normalizeMethod_ok.mpr ⟨hmethod, rfl⟩,
        normalizePath, hempty] at hb
      cases hb
    refine ⟨hhost, hmethod, hpath, fun hfirst hsecond => hprefixes.mp ⟨b, ?_⟩⟩
    rw [← matchesRoute_of_read hhost hmethod hpath hfirst hsecond]
    exact hb
  · intro h
    by_cases hboth : (corePattern cases route).first (cases.toLowerCase (jsTrim request.host)) ∧
        (corePattern cases route).second (cases.toUpperCase (jsTrim request.method))
    · rw [matchesRoute_of_read h.host h.method h.path hboth.1 hboth.2]
      exact hprefixes.mpr (h.prefixes hboth.1 hboth.2)
    · exact ⟨false, matchesRoute_of_apart h.host h.method h.path hboth⟩

/-- What can be read is matched exactly where it is admitted. -/
theorem matchesRoute_iff_admits (hread : Readable cases request route) :
    matchesRoute cases route request = .ok true ↔ CoreAdmits cases request route := by
  rw [matchesRoute_iff, CoreAdmits]
  constructor
  · rintro ⟨host, method, path, hhost, hmethod, hpath, hadmits⟩
    rw [normalizePath_of_ne_nil hread.path, Except.ok.injEq] at hpath
    rw [(normalizeHost_ok.mp hhost).2, (normalizeMethod_ok.mp hmethod).2, hpath]
    exact hadmits
  · intro h
    exact ⟨_, _, _, normalizeHost_ok.mpr ⟨hread.host, rfl⟩,
      normalizeMethod_ok.mpr ⟨hread.method, rfl⟩, normalizePath_of_ne_nil hread.path, h⟩

theorem gateway_matches?_iff (hcases : cases.Lawful) :
    Gateway.matches? cases request.host request.method request.path route = true ↔
      GatewayAdmits cases request route :=
  Gateway.matches?_iff hcases

theorem sandbox_matches?_iff :
    Sandbox.matches? request.host request.path request.method (Sandbox.proxyRoute route) = true ↔
      SandboxAdmits request route :=
  Sandbox.matches?_iff

/-! ### What each of them chooses -/

theorem classify_matched_iff {authority method path : Text} :
    Gateway.classifyRuntimePlanEgressRoute cases authority method path routes = .matched route ↔
      routes.filter (Gateway.matches? cases authority method path) = [route] := by
  rcases Gateway.classifyRuntimePlanEgressRoute_cases cases authority method path routes with
    ⟨hfilter, hresult⟩ | ⟨first, hfilter, hresult⟩ | ⟨hlength, hresult⟩
  · rw [hresult, hfilter]
    exact iff_of_false nofun nofun
  · rw [hresult, hfilter, Gateway.EgressRouteClassification.matched.injEq, List.cons.injEq]
    exact ⟨fun h => ⟨h, rfl⟩, fun h => h.1⟩
  · rw [hresult]
    refine iff_of_false nofun fun hfilter => ?_
    rw [hfilter, List.length_singleton] at hlength
    omega

theorem classify_unmatched_iff {authority method path : Text} :
    Gateway.classifyRuntimePlanEgressRoute cases authority method path routes = .unmatched ↔
      ∀ route ∈ routes, Gateway.matches? cases authority method path route = false := by
  have hnone : (routes.filter (Gateway.matches? cases authority method path) = [] ↔
      ∀ route ∈ routes, Gateway.matches? cases authority method path route = false) := by
    simp only [List.filter_eq_nil_iff, Bool.not_eq_true]
  rw [← hnone]
  rcases Gateway.classifyRuntimePlanEgressRoute_cases cases authority method path routes with
    ⟨hfilter, hresult⟩ | ⟨first, hfilter, hresult⟩ | ⟨hlength, hresult⟩
  · exact iff_of_true hresult hfilter
  · rw [hresult, hfilter]
    exact iff_of_false nofun nofun
  · rw [hresult]
    refine iff_of_false nofun fun hfilter => ?_
    rw [hfilter, List.length_nil] at hlength
    omega

/-- The sandbox's routes that match, as routes of the plan. -/
theorem filter_proxyRoutes {host path method : Text} :
    (routes.map Sandbox.proxyRoute).filter (Sandbox.matches? host path method) =
      (routes.filter fun route =>
        Sandbox.matches? host path method (Sandbox.proxyRoute route)).map Sandbox.proxyRoute := by
  rw [List.filter_map]
  rfl

theorem matchRoute_some_iff {host path method : Text} {proxyRoute : Sandbox.EgressProxyRoute} :
    Sandbox.matchRoute (routes.map Sandbox.proxyRoute) host path method = .ok (some proxyRoute) ↔
      ∃ route, Sandbox.proxyRoute route = proxyRoute ∧ (routes.filter fun route =>
        Sandbox.matches? host path method (Sandbox.proxyRoute route)) = [route] := by
  have hsingle : ((routes.map Sandbox.proxyRoute).filter (Sandbox.matches? host path method) =
      [proxyRoute]) ↔ ∃ route, Sandbox.proxyRoute route = proxyRoute ∧ (routes.filter fun route =>
        Sandbox.matches? host path method (Sandbox.proxyRoute route)) = [route] := by
    rw [filter_proxyRoutes, List.map_eq_singleton_iff]
    exact exists_congr fun route => and_comm
  rw [← hsingle]
  rcases Sandbox.matchRoute_cases (routes.map Sandbox.proxyRoute) host path method with
    ⟨hfilter, hresult⟩ | ⟨first, hfilter, hresult⟩ | ⟨hlength, message, hresult⟩
  · rw [hresult, hfilter]
    exact iff_of_false nofun nofun
  · rw [hresult, hfilter, Except.ok.injEq, Option.some.injEq, List.cons.injEq]
    exact ⟨fun h => ⟨h, rfl⟩, fun h => h.1⟩
  · rw [hresult]
    refine iff_of_false nofun fun hfilter => ?_
    rw [hfilter, List.length_singleton] at hlength
    omega

theorem matchRoute_none_iff {host path method : Text} :
    Sandbox.matchRoute (routes.map Sandbox.proxyRoute) host path method = .ok none ↔
      ∀ route ∈ routes, Sandbox.matches? host path method (Sandbox.proxyRoute route) = false := by
  have hnone : ((routes.map Sandbox.proxyRoute).filter (Sandbox.matches? host path method) = [] ↔
      ∀ route ∈ routes, Sandbox.matches? host path method (Sandbox.proxyRoute route) = false) := by
    rw [filter_proxyRoutes, List.map_eq_nil_iff]
    simp only [List.filter_eq_nil_iff, Bool.not_eq_true]
  rw [← hnone]
  rcases Sandbox.matchRoute_cases (routes.map Sandbox.proxyRoute) host path method with
    ⟨hfilter, hresult⟩ | ⟨first, hfilter, hresult⟩ | ⟨hlength, message, hresult⟩
  · exact iff_of_true hresult hfilter
  · rw [hresult, hfilter]
    exact iff_of_false nofun nofun
  · rw [hresult]
    refine iff_of_false nofun fun hfilter => ?_
    rw [hfilter, List.length_nil] at hlength
    omega

/-! ### Agreement -/

/-- The compiler comes to the gateway's verdict on a route exactly where it can read it and
    reads it alike. -/
theorem matchesRoute_iff_gateway (hcases : cases.Lawful) :
    matchesRoute cases route request =
        .ok (Gateway.matches? cases request.host request.method request.path route) ↔
      Readable cases request route ∧
        (CoreAdmits cases request route ↔ GatewayAdmits cases request route) := by
  rw [← gateway_matches?_iff hcases]
  constructor
  · intro h
    have hread := matchesRoute_ok_iff.mp ⟨_, h⟩
    refine ⟨hread, ?_⟩
    rw [← matchesRoute_iff_admits hread, h, Except.ok.injEq]
  · rintro ⟨hread, halike⟩
    rcases matchesRoute_ok_iff.mpr hread with ⟨b, hb⟩
    rw [← matchesRoute_iff_admits hread, hb, Except.ok.injEq, ← Bool.eq_iff_iff] at halike
    rw [hb, halike]

/-- The routes that two matchers choose from, where one of them finds the only one. -/
theorem matchersAgree_iff_find? (haccepted : validateRoutes cases routes = .ok ()) :
    MatchersAgree cases routes request ↔
      (∀ route ∈ routes, Gateway.matches? cases request.host request.method request.path route =
        Sandbox.matches? request.host request.path request.method (Sandbox.proxyRoute route)) ∧
      (routes.filter (Gateway.matches? cases request.host request.method request.path)).length ≤ 1 ∧
      resolveRouteForRequest cases routes request = .ok ((orderRoutesForMatching cases routes).find?
        (Gateway.matches? cases request.host request.method request.path)) := by
  have hmem : ∀ route, route ∈ orderRoutesForMatching cases routes ↔ route ∈ routes :=
    fun route => (List.perm_insertionSort _ _).mem_iff
  constructor
  · rintro (⟨route, hresolve, hclassify, hsandbox⟩ | ⟨hresolve, hclassify, hsandbox⟩)
    · have hfilter := classify_matched_iff.mp hclassify
      have hgateway : ∀ other, (other ∈ routes ∧
          Gateway.matches? cases request.host request.method request.path other = true) ↔
          other = route := by
        intro other
        rw [← List.mem_filter, hfilter, List.mem_singleton]
      have hroute := (hgateway route).mpr rfl
      rcases matchRoute_some_iff.mp hsandbox with ⟨chosen, hproxy, hchosen⟩
      have hsame : chosen = route := by
        have hin : chosen ∈ routes :=
          (List.mem_filter.mp (hchosen ▸ List.mem_singleton.mpr rfl)).1
        have hid := congrArg Sandbox.EgressProxyRoute.egressRuleId hproxy
        by_contra hne
        rcases pairwise_either (validateRoutes_ok haccepted).2.1 hin hroute.1 hne with hno | hno
        · exact hno hid
        · exact hno hid.symm
      refine ⟨fun other hother => ?_, ?_, ?_⟩
      · have hother' : other ∈ (routes.filter fun route => Sandbox.matches? request.host
            request.path request.method (Sandbox.proxyRoute route)) ↔ other = route := by
          rw [hchosen, List.mem_singleton, hsame]
        rw [List.mem_filter, and_iff_right hother] at hother'
        rw [Bool.eq_iff_iff, hother', ← hgateway other, and_iff_right hother]
      · rw [hfilter, List.length_singleton]
      · rw [hresolve]
        cases hfind : (orderRoutesForMatching cases routes).find?
            (Gateway.matches? cases request.host request.method request.path) with
        | none => exact absurd hroute.2 (List.find?_eq_none.mp hfind route ((hmem route).mpr hroute.1))
        | some found =>
            rw [(hgateway found).mp ⟨(hmem found).mp (List.mem_of_find?_eq_some hfind),
              List.find?_some hfind⟩]
    · have hgateway := classify_unmatched_iff.mp hclassify
      have hsandbox' := matchRoute_none_iff.mp hsandbox
      refine ⟨fun route hroute => (hgateway route hroute).trans (hsandbox' route hroute).symm, ?_, ?_⟩
      · rw [List.filter_eq_nil_iff.mpr fun route hroute => by
          rw [hgateway route hroute]
          exact Bool.false_ne_true]
        exact Nat.zero_le 1
      · rw [hresolve, List.find?_eq_none.mpr fun route hroute => by
          rw [hgateway route ((hmem route).mp hroute)]
          exact Bool.false_ne_true]
  · rintro ⟨halike, hlength, hresolve⟩
    have hfilter : (routes.filter fun route => Sandbox.matches? request.host request.path
        request.method (Sandbox.proxyRoute route)) =
        routes.filter (Gateway.matches? cases request.host request.method request.path) :=
      List.filter_congr fun route hroute => (halike route hroute).symm
    cases hfind : (orderRoutesForMatching cases routes).find?
        (Gateway.matches? cases request.host request.method request.path) with
    | some route =>
        left
        have hin : route ∈
            routes.filter (Gateway.matches? cases request.host request.method request.path) :=
          List.mem_filter.mpr ⟨(hmem route).mp (List.mem_of_find?_eq_some hfind),
            List.find?_some hfind⟩
        have hsingle :
            routes.filter (Gateway.matches? cases request.host request.method request.path) =
              [route] := by
          have hpos := List.length_pos_of_mem hin
          rcases List.length_eq_one_iff.mp (Nat.le_antisymm hlength hpos) with ⟨only, honly⟩
          rw [honly, List.mem_singleton] at hin
          rw [honly, hin]
        rw [hfind] at hresolve
        exact ⟨route, hresolve, classify_matched_iff.mpr hsingle,
          matchRoute_some_iff.mpr ⟨route, rfl, hfilter.trans hsingle⟩⟩
    | none =>
        right
        have hnone : ∀ route ∈ routes,
            Gateway.matches? cases request.host request.method request.path route = false := by
          intro route hroute
          rw [← Bool.not_eq_true]
          exact List.find?_eq_none.mp hfind route ((hmem route).mpr hroute)
        rw [hfind] at hresolve
        exact ⟨hresolve, classify_unmatched_iff.mpr hnone, matchRoute_none_iff.mpr
          fun route hroute => (halike route hroute).symm.trans (hnone route hroute)⟩

/-- The matchers agree exactly where they read alike. -/
theorem agree_iff_readAlike (hcases : cases.Lawful)
    (haccepted : validateRoutes cases routes = .ok ()) :
    MatchersAgree cases routes request ↔ ReadAlike cases routes request := by
  have hgateway : ∀ route,
      Gateway.matches? cases request.host request.method request.path route = true ↔
        GatewayAdmits cases request route := fun _ => gateway_matches?_iff hcases
  have hfirst : resolveRouteForRequest cases routes request =
        .ok ((orderRoutesForMatching cases routes).find?
          (Gateway.matches? cases request.host request.method request.path)) ↔
      ∀ before route after, orderRoutesForMatching cases routes = before ++ route :: after →
        (∀ earlier ∈ before, ¬ GatewayAdmits cases request earlier) →
        Readable cases request route ∧
          (CoreAdmits cases request route ↔ GatewayAdmits cases request route) := by
    rw [resolveRouteForRequest, findM?_eq_find?_iff]
    simp only [matchesRoute_iff_gateway hcases, ← hgateway, Bool.not_eq_true]
  have hsandbox : (∀ route ∈ routes,
        Gateway.matches? cases request.host request.method request.path route =
          Sandbox.matches? request.host request.path request.method (Sandbox.proxyRoute route)) ↔
      ∀ route ∈ routes, (GatewayAdmits cases request route ↔ SandboxAdmits request route) := by
    refine forall_congr' fun route => forall_congr' fun _ => ?_
    rw [Bool.eq_iff_iff, hgateway, sandbox_matches?_iff]
  rw [matchersAgree_iff_find? haccepted, hfirst, hsandbox, length_filter_le_one_iff]
  simp only [hgateway]
  exact ⟨fun h => ⟨h.1, h.2.1, h.2.2⟩, fun h => ⟨h.sandbox, h.single, h.core⟩⟩

/-! ### Plain requests -/

theorem normalizePath_of_no_query {path : Text} (h : '?' ∉ path) :
    Sandbox.normalizePath path = Gateway.normalizePath path := by
  have hplain : Sandbox.PlainPath (Gateway.normalizePath path) := by
    refine ⟨Gateway.rooted_normalizePath path, fun hmem => ?_⟩
    rw [Gateway.normalizePath] at hmem
    split at hmem
    · exact h hmem
    · rcases List.mem_cons.mp hmem with heq | hmem
      · exact absurd heq (by decide)
      · exact h hmem
  have hsplit : splitOnce '?' (Gateway.normalizePath path) = none := splitOnce_eq_none hplain.2
  rw [Gateway.normalizePath] at hsplit ⊢
  rw [Sandbox.normalizePath, hsplit]

/-- A plain route has one pattern. -/
theorem WrittenPlainly.gateway_pattern (h : WrittenPlainly cases route) :
    Gateway.pattern cases route = corePattern cases route := by
  rw [Gateway.pattern, h.gateway_starts, ← h.readPathPrefixes]
  rfl

theorem WrittenPlainly.sandbox_admits (h : WrittenPlainly cases route) {host method path : Text} :
    (Sandbox.pattern route).Admits host method path ↔
      (corePattern cases route).Admits host method path := by
  have hhosts : (Sandbox.pattern route).first host ↔ (corePattern cases route).first host := by
    refine exists_congr fun routeHost => and_congr_right fun hmem => ?_
    rw [(h.host routeHost hmem).2]
  have hmethods : (Sandbox.pattern route).second method ↔
      (corePattern cases route).second method := by
    refine forall_congr' fun methods => forall_congr' fun hmethods => ?_
    refine exists_congr fun routeMethod => and_congr_right fun hmem => ?_
    rw [((h.methods methods hmethods).2 routeMethod hmem).2]
  have hpaths : (Sandbox.pattern route).third path ↔ (corePattern cases route).third path := by
    simp only [Sandbox.pattern, corePattern, h.sandbox_starts, h.readPathPrefixes]
  rw [Pattern.Admits, Pattern.Admits, hhosts, hmethods, hpaths]

theorem PlainRequest.readable (hrequest : PlainRequest cases request)
    (hroute : WrittenPlainly cases route) : Readable cases request route := by
  refine ⟨hrequest.host.1, hrequest.method.1, hrequest.path.1, fun _ _ => .inr ?_⟩
  intro pathPrefixes hprefixes pathPrefix hmem
  have hplain := (hroute.pathPrefixes pathPrefixes hprefixes).2 pathPrefix hmem
  exact ⟨_, normalizeRoutePathPrefix_of_plain hplain.1 hplain.2.1⟩

theorem PlainRequest.gateway_iff (hrequest : PlainRequest cases request)
    (hroute : WrittenPlainly cases route) :
    CoreAdmits cases request route ↔ GatewayAdmits cases request route := by
  rw [CoreAdmits, GatewayAdmits, hroute.gateway_pattern, hrequest.host.2.1, hrequest.method.2.1]

theorem PlainRequest.sandbox_iff (hrequest : PlainRequest cases request)
    (hroute : WrittenPlainly cases route) :
    CoreAdmits cases request route ↔ SandboxAdmits request route := by
  rw [CoreAdmits, SandboxAdmits, hroute.sandbox_admits, hrequest.host.2.2,
    normalizePath_of_no_query hrequest.path.2, ← hrequest.method.2.2]

/-- Plain requests and plain routes are read alike. -/
theorem readAlike_of_plain (hcases : cases.Lawful)
    (haccepted : validateRoutes cases routes = .ok ())
    (hplain : ∀ route ∈ routes, WrittenPlainly cases route)
    (hrequest : PlainRequest cases request) : ReadAlike cases routes request := by
  refine ⟨fun route hroute => ?_, ?_, fun before route after horder _ => ?_⟩
  · exact (hrequest.gateway_iff (hplain route hroute)).symm.trans
      (hrequest.sandbox_iff (hplain route hroute))
  · refine (noRoutesMeet_of_plain hcases haccepted hplain).imp fun hnone hboth => ?_
    exact hnone.2.1 ((Gateway.routesMeet_iff hcases).mp ⟨request.host, request.method, request.path,
      (gateway_matches?_iff hcases).mpr hboth.1, (gateway_matches?_iff hcases).mpr hboth.2⟩)
  · have hroute : route ∈ routes := by
      have hmem : route ∈ orderRoutesForMatching cases routes := by
        rw [horder]
        exact List.mem_append_right _ List.mem_cons_self
      exact (List.perm_insertionSort _ _).mem_iff.mp hmem
    exact ⟨hrequest.readable (hplain route hroute), hrequest.gateway_iff (hplain route hroute)⟩

end

def apiRequest (host path method : String) : EgressRequest :=
  ⟨host.toList, path.toList, method.toList⟩

end Mistle
