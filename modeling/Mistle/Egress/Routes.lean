import Mistle.Lib.Matching
import Mistle.Lib.Text
import Mathlib.Data.List.Sort

/-!
# Egress Routes

A route names the hosts, the path prefixes and the methods of the requests it is for. The
compiler of runtime plans checks that no two routes overlap, and looks a request up among
the routes of a plan, the most specific ones first. Both read the texts of a route as they
stand in it, with their own normalization: the test for overlap compares two texts of
routes, the lookup a text of a route with one of a request.

Comparing in some order is left to a parameter, as is the mapping of upper and lower case
beyond what is said of it.

## Main definitions

* `EgressCredentialRoute`, `EgressRequest`: Routes and requests.
* `CaseMapping`: Lower and upper case.
* `routesOverlap`: Whether two routes overlap.
* `matchesRoute`, `resolveRouteForRequest`: Whether a route matches, and which one.
* `validateRoutes`: What is checked of the routes of a plan.

## Theorems

* `validateRoutes_ok`: What is known of routes that are accepted.
-/

namespace Mistle

structure EgressRouteMatch where
  hosts : List Text
  methods : Option (List Text)
  pathPrefixes : Option (List Text)
  deriving DecidableEq

/-- A route, with the address of what it is for. -/
structure EgressCredentialRoute where
  egressRuleId : Text
  bindingId : Text
  routeMatch : EgressRouteMatch
  upstreamBaseUrl : Text
  deriving DecidableEq

structure EgressRequest where
  host : Text
  path : Text
  method : Text

/-- The mappings to lower and upper case, and the order of texts in the locale. -/
structure CaseMapping where
  toLowerCase : Text → Text
  toUpperCase : Text → Text
  localeCompare : Text → Text → Int

abbrev jsTrim : Text → Text := trimWith isJsWhiteSpace

theorem jsTrim_jsTrim (text : Text) : jsTrim (jsTrim text) = jsTrim text :=
  trimWith_trimWith isJsWhiteSpace text

/-- White space has no case, and no letter becomes white space. What is in upper case stays
    as it is. -/
structure CaseMapping.Lawful (cases : CaseMapping) : Prop where
  toLowerCase_trim : ∀ text, cases.toLowerCase (jsTrim text) = jsTrim (cases.toLowerCase text)
  toUpperCase_trim : ∀ text, cases.toUpperCase (jsTrim text) = jsTrim (cases.toUpperCase text)
  toUpperCase_idem : ∀ text, cases.toUpperCase (cases.toUpperCase text) = cases.toUpperCase text
  toUpperCase_get : cases.toUpperCase "GET".toList = "GET".toList

inductive EgressRouteError where
  | error (message : Text)
  | routeConflict (message : Text)
  deriving DecidableEq

def normalizeRoutePathPrefix (pathPrefix : Text) : Except EgressRouteError Text :=
  let normalizedPathPrefix := jsTrim pathPrefix
  if normalizedPathPrefix.length = 0 then
    .error (.error "Route path prefix must be non-empty.".toList)
  else if normalizedPathPrefix.head? ≠ some '/' then
    .error (.error "Route path prefix must start with '/'.".toList)
  else .ok (cutLast '/' normalizedPathPrefix)

def normalizeHost (cases : CaseMapping) (host : Text) : Except EgressRouteError Text :=
  let normalized := cases.toLowerCase (jsTrim host)
  if normalized.length = 0 then .error (.error "Egress request host must be non-empty.".toList)
  else .ok normalized

def normalizeMethod (cases : CaseMapping) (method : Text) : Except EgressRouteError Text :=
  let normalized := cases.toUpperCase (jsTrim method)
  if normalized.length = 0 then .error (.error "Egress request method must be non-empty.".toList)
  else .ok normalized

def normalizePath (path : Text) : Except EgressRouteError Text :=
  if path.length = 0 then .error (.error "Egress request path must be non-empty.".toList)
  else if path.head? = some '/' then .ok path
  else .ok ('/' :: path)

def pathBelongsToPrefix (path pathPrefix : Text) : Except EgressRouteError Bool := do
  let normalizedPath ← normalizePath path
  (normalizeRoutePathPrefix pathPrefix).map fun start => decide (Covers '/' start normalizedPath)

/-! ### Overlap -/

def hasHostOverlap (cases : CaseMapping) (leftHosts rightHosts : List Text) : Bool :=
  leftHosts.any fun leftHost =>
    decide (cases.toLowerCase leftHost ∈ rightHosts.map cases.toLowerCase)

def hasMethodOverlap (cases : CaseMapping) :
    (leftMethods rightMethods : Option (List Text)) → Bool
  | some leftMethods, some rightMethods =>
    leftMethods.any fun leftMethod =>
      decide (cases.toUpperCase leftMethod ∈ rightMethods.map cases.toUpperCase)
  | _, _ => true

/-- One of two prefixes belongs to the other as it is written. -/
def pathPrefixesOverlap (leftPrefix rightPrefix : Text) : Except EgressRouteError Bool := do
  if ← pathBelongsToPrefix leftPrefix rightPrefix then return true
  pathBelongsToPrefix rightPrefix leftPrefix

def hasPathPrefixOverlap :
    (leftPathPrefixes rightPathPrefixes : Option (List Text)) → Except EgressRouteError Bool
  | some leftPathPrefixes, some rightPathPrefixes =>
    leftPathPrefixes.anyM fun leftPrefix =>
      rightPathPrefixes.anyM fun rightPrefix => pathPrefixesOverlap leftPrefix rightPrefix
  | _, _ => .ok true

def routesOverlap (cases : CaseMapping) (left right : EgressCredentialRoute) :
    Except EgressRouteError Bool :=
  if hasHostOverlap cases left.routeMatch.hosts right.routeMatch.hosts &&
      hasMethodOverlap cases left.routeMatch.methods right.routeMatch.methods then
    hasPathPrefixOverlap left.routeMatch.pathPrefixes right.routeMatch.pathPrefixes
  else .ok false

/-! ### Looking a request up -/

def matchesRoute (cases : CaseMapping) (route : EgressCredentialRoute) (request : EgressRequest) :
    Except EgressRouteError Bool := do
  let normalizedHost ← normalizeHost cases request.host
  let normalizedMethod ← normalizeMethod cases request.method
  let normalizedPath ← normalizePath request.path
  if !route.routeMatch.hosts.any fun host => decide (cases.toLowerCase host = normalizedHost) then
    return false
  else if !(route.routeMatch.methods.all fun methods =>
      decide (normalizedMethod ∈ methods.map cases.toUpperCase)) then
    return false
  else
    match route.routeMatch.pathPrefixes with
    | none => return true
    | some pathPrefixes => pathPrefixes.anyM (pathBelongsToPrefix normalizedPath)

def getLongestPathPrefixLength (route : EgressCredentialRoute) : Nat :=
  ((route.routeMatch.pathPrefixes.getD []).map lengthInUnits).foldl max 0

/-- The order in which routes are tried, as a number below, at or above zero. -/
def compareRoutes (cases : CaseMapping) (left right : EgressCredentialRoute) : Int :=
  let leftHostSpecificity := left.routeMatch.hosts.length
  let rightHostSpecificity := right.routeMatch.hosts.length
  if leftHostSpecificity ≠ rightHostSpecificity then
    (leftHostSpecificity : Int) - rightHostSpecificity
  else if left.routeMatch.methods.isSome ≠ right.routeMatch.methods.isSome then
    if left.routeMatch.methods.isSome then -1 else 1
  else
    let leftMethods := (left.routeMatch.methods.getD []).length
    let rightMethods := (right.routeMatch.methods.getD []).length
    if leftMethods ≠ rightMethods then (leftMethods : Int) - rightMethods
    else
      let leftLongestPathPrefix := getLongestPathPrefixLength left
      let rightLongestPathPrefix := getLongestPathPrefixLength right
      if leftLongestPathPrefix ≠ rightLongestPathPrefix then
        (rightLongestPathPrefix : Int) - leftLongestPathPrefix
      else cases.localeCompare left.egressRuleId right.egressRuleId

def orderRoutesForMatching (cases : CaseMapping) (routes : List EgressCredentialRoute) :
    List EgressCredentialRoute :=
  routes.insertionSort fun left right => compareRoutes cases left right ≤ 0

def resolveRouteForRequest (cases : CaseMapping) (routes : List EgressCredentialRoute)
    (request : EgressRequest) : Except EgressRouteError (Option EgressCredentialRoute) :=
  (orderRoutesForMatching cases routes).findM? fun route => matchesRoute cases route request

/-! ### Accepting the routes of a plan -/

/-- No prefix of a route is blank. -/
def checkPathPrefixes (route : EgressCredentialRoute) : Except EgressRouteError Unit :=
  match (route.routeMatch.pathPrefixes.getD []).findIdx? fun pathPrefix =>
      decide ((jsTrim pathPrefix).length = 0) with
  | none => .ok ()
  | some pathPrefixIndex => .error (.routeConflict ("Egress route '".toList ++ route.egressRuleId ++
      "' contains an empty path prefix at index ".toList ++ (toString pathPrefixIndex).toList ++
      ".".toList))

/-- Every route has an id of its own, and no blank prefix. -/
def checkRoutes : (seen routes : List EgressCredentialRoute) → Except EgressRouteError Unit
  | _, [] => .ok ()
  | seen, route :: routes => do
    checkPathPrefixes route
    match seen.find? fun other => decide (other.egressRuleId = route.egressRuleId) with
    | some existingRoute =>
      .error (.routeConflict ("Duplicate egress rule id '".toList ++ route.egressRuleId ++
        "' detected for bindings '".toList ++ existingRoute.bindingId ++ "' and '".toList ++
        route.bindingId ++ "'.".toList))
    | none => checkRoutes (seen ++ [route]) routes

/-- A route overlaps with none of those behind it. -/
def checkOverlap (cases : CaseMapping) (leftRoute : EgressCredentialRoute) :
    List EgressCredentialRoute → Except EgressRouteError Unit
  | [] => .ok ()
  | rightRoute :: routes => do
    if ← routesOverlap cases leftRoute rightRoute then
      .error (.routeConflict ("Overlapping egress routes detected: '".toList ++
        leftRoute.egressRuleId ++ "' and '".toList ++ rightRoute.egressRuleId ++ "'.".toList))
    else checkOverlap cases leftRoute routes

def checkOverlaps (cases : CaseMapping) : List EgressCredentialRoute → Except EgressRouteError Unit
  | [] => .ok ()
  | leftRoute :: routes => do
    checkOverlap cases leftRoute routes
    checkOverlaps cases routes

def validateRoutes (cases : CaseMapping) (routes : List EgressCredentialRoute) :
    Except EgressRouteError Unit := do
  checkRoutes [] routes
  checkOverlaps cases routes

/-! ### Routes that are accepted -/

section

variable {cases : CaseMapping} {route : EgressCredentialRoute}
  {routes seen : List EgressCredentialRoute}

/-- No prefix of the route is blank. -/
def NoBlankPrefix (route : EgressCredentialRoute) : Prop :=
  ∀ pathPrefix ∈ route.routeMatch.pathPrefixes.getD [], jsTrim pathPrefix ≠ []

theorem checkPathPrefixes_ok (h : checkPathPrefixes route = .ok ()) : NoBlankPrefix route := by
  intro pathPrefix hmem hblank
  rw [checkPathPrefixes] at h
  split at h
  · rename_i hnone
    have hcheck := List.findIdx?_eq_none_iff.mp hnone pathPrefix hmem
    rw [hblank] at hcheck
    exact absurd hcheck (by decide)
  · exact absurd h (by simp only [reduceCtorEq, not_false_eq_true])

theorem checkRoutes_ok (h : checkRoutes seen routes = .ok ()) : ∀ route ∈ routes, NoBlankPrefix route := by
  induction routes generalizing seen with
  | nil => exact fun route hroute => absurd hroute List.not_mem_nil
  | cons first rest ih =>
      rw [checkRoutes] at h
      cases hfirst : checkPathPrefixes first with
      | error e =>
          rw [hfirst] at h
          exact absurd h (by simp only [bind, Except.bind, reduceCtorEq, not_false_eq_true])
      | ok u =>
          rw [hfirst] at h
          simp only [bind, Except.bind] at h
          split at h
          · exact absurd h (by simp only [reduceCtorEq, not_false_eq_true])
          · intro route hroute
            rcases List.mem_cons.mp hroute with heq | hmem
            · rw [heq]
              exact checkPathPrefixes_ok hfirst
            · exact ih h route hmem

/-- The ids are told apart from those seen before and from each other. -/
theorem checkRoutes_ids (h : checkRoutes seen routes = .ok ()) :
    (∀ other ∈ seen, ∀ route ∈ routes, other.egressRuleId ≠ route.egressRuleId) ∧
      routes.Pairwise fun left right => left.egressRuleId ≠ right.egressRuleId := by
  induction routes generalizing seen with
  | nil => exact ⟨fun _ _ route hroute => absurd hroute List.not_mem_nil, .nil⟩
  | cons first rest ih =>
      rw [checkRoutes] at h
      cases hfirst : checkPathPrefixes first with
      | error e =>
          rw [hfirst] at h
          exact absurd h (by simp only [bind, Except.bind, reduceCtorEq, not_false_eq_true])
      | ok u =>
          rw [hfirst] at h
          simp only [bind, Except.bind] at h
          split at h
          · exact absurd h (by simp only [reduceCtorEq, not_false_eq_true])
          · rename_i hnone
            rcases ih h with ⟨hseen, hpairwise⟩
            refine ⟨fun other hother route hroute => ?_, .cons (fun route hroute => ?_) hpairwise⟩
            · rcases List.mem_cons.mp hroute with heq | hmem
              · have hne := List.find?_eq_none.mp hnone other hother
                rw [decide_eq_true_eq] at hne
                rw [heq]
                exact hne
              · exact hseen other (List.mem_append_left _ hother) route hmem
            · exact hseen first (List.mem_append_right _ (List.mem_singleton.mpr rfl)) route hroute

theorem checkOverlap_ok (h : checkOverlap cases route routes = .ok ()) :
    ∀ other ∈ routes, routesOverlap cases route other = .ok false := by
  induction routes with
  | nil => exact fun other hother => absurd hother List.not_mem_nil
  | cons first rest ih =>
      rw [checkOverlap] at h
      cases hfirst : routesOverlap cases route first with
      | error e =>
          rw [hfirst] at h
          exact absurd h (by simp only [bind, Except.bind, reduceCtorEq, not_false_eq_true])
      | ok overlap =>
          rw [hfirst] at h
          cases overlap with
          | true =>
              exact absurd h (by simp only [bind, Except.bind, if_true, reduceCtorEq,
                not_false_eq_true])
          | false =>
              simp only [bind, Except.bind, Bool.false_eq_true, if_false] at h
              intro other hother
              rcases List.mem_cons.mp hother with heq | hmem
              · rw [heq]
                exact hfirst
              · exact ih h other hmem

theorem checkOverlaps_ok (h : checkOverlaps cases routes = .ok ()) :
    routes.Pairwise fun left right => routesOverlap cases left right = .ok false := by
  induction routes with
  | nil => exact .nil
  | cons first rest ih =>
      rw [checkOverlaps] at h
      cases hfirst : checkOverlap cases first rest with
      | error e =>
          rw [hfirst] at h
          exact absurd h (by simp only [bind, Except.bind, reduceCtorEq, not_false_eq_true])
      | ok u =>
          rw [hfirst] at h
          exact .cons (checkOverlap_ok hfirst) (ih h)

/-- What is known of routes that are accepted. -/
theorem validateRoutes_ok (h : validateRoutes cases routes = .ok ()) :
    (∀ route ∈ routes, NoBlankPrefix route) ∧
      (routes.Pairwise fun left right => left.egressRuleId ≠ right.egressRuleId) ∧
      routes.Pairwise fun left right => routesOverlap cases left right = .ok false := by
  rw [validateRoutes] at h
  cases hroutes : checkRoutes [] routes with
  | error e =>
      rw [hroutes] at h
      exact absurd h (by simp only [bind, Except.bind, reduceCtorEq, not_false_eq_true])
  | ok u =>
      rw [hroutes] at h
      exact ⟨checkRoutes_ok hroutes, (checkRoutes_ids hroutes).2, checkOverlaps_ok h⟩

end

end Mistle
