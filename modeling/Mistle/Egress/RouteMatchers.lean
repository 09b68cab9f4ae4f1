import Mistle.Egress.Routes
import Mistle.Lib.Split

/-!
# The Other Route Matchers

The gateway and the sandbox look a request up for themselves. Neither orders the routes:
where several match, the gateway calls the request ambiguous and the sandbox fails it. The
gateway takes the host out of an authority, in lower case and without brackets or a port.
The sandbox does the same to the host of the request, but does something to the hosts of
the routes, too: there it trims them and takes off the brackets. It compares the method of
the request as it stands with the upper case of the route's, in ASCII, and looks at the
path up to a question mark.

## Main definitions

* `classifyRuntimePlanEgressRoute`: What the gateway makes of a request.
* `buildGatewayEgressRoute`, `EgressProxyRoute`: A route in the sandbox.
* `matchRoute`: What the sandbox makes of a request.

## Theorems

* `classifyRuntimePlanEgressRoute_cases`, `matchRoute_cases`: What they make of the routes
  that match.
-/

namespace Mistle

/-! ### The gateway -/

namespace Gateway

inductive EgressRouteClassification where
  | unmatched
  | matched (route : EgressCredentialRoute)
  | ambiguous (routes : List EgressCredentialRoute)
  deriving DecidableEq

def normalizeAuthorityHost (cases : CaseMapping) (authority : Text) : Text :=
  let trimmedAuthority := cases.toLowerCase (jsTrim authority)
  match stripPrefix ['['] trimmedAuthority with
  | some rest =>
    match splitOnce ']' rest with
    | none => trimmedAuthority
    | some (host, _) => host
  | none =>
    match splitOnce ':' trimmedAuthority with
    | none => trimmedAuthority
    | some (host, _) => host

def normalizePathPrefix (pathPrefix : Text) : Text :=
  cutLast '/' (jsTrim pathPrefix)

/-- The path with a slash before it. -/
def normalizePath (path : Text) : Text :=
  if path.head? = some '/' then path else '/' :: path

def pathBelongsToPrefix (path pathPrefix : Text) : Bool :=
  decide (Covers '/' (normalizePathPrefix pathPrefix) (normalizePath path))

def doesRouteMatchRequest (cases : CaseMapping) (host method path : Text)
    (route : EgressCredentialRoute) : Bool :=
  (route.routeMatch.hosts.any fun routeHost => decide (cases.toLowerCase routeHost = host)) &&
    ((route.routeMatch.pathPrefixes.getD [['/']]).any (pathBelongsToPrefix path)) &&
    ((route.routeMatch.methods.getD [method]).any fun routeMethod =>
      decide (cases.toUpperCase routeMethod = method))

/-- Whether a route of the plan matches a request. -/
def matches? (cases : CaseMapping) (authority method path : Text) (route : EgressCredentialRoute) :
    Bool :=
  doesRouteMatchRequest cases (normalizeAuthorityHost cases authority) (cases.toUpperCase method)
    path route

def classifyRuntimePlanEgressRoute (cases : CaseMapping) (authority method path : Text)
    (egressRoutes : List EgressCredentialRoute) : EgressRouteClassification :=
  match egressRoutes.filter (matches? cases authority method path) with
  | [] => .unmatched
  | [route] => .matched route
  | routes => .ambiguous routes

theorem classifyRuntimePlanEgressRoute_cases (cases : CaseMapping) (authority method path : Text)
    (egressRoutes : List EgressCredentialRoute) :
    (egressRoutes.filter (matches? cases authority method path) = [] ∧
      classifyRuntimePlanEgressRoute cases authority method path egressRoutes = .unmatched) ∨
    (∃ route, egressRoutes.filter (matches? cases authority method path) = [route] ∧
      classifyRuntimePlanEgressRoute cases authority method path egressRoutes = .matched route) ∨
    (2 ≤ (egressRoutes.filter (matches? cases authority method path)).length ∧
      classifyRuntimePlanEgressRoute cases authority method path egressRoutes =
        .ambiguous (egressRoutes.filter (matches? cases authority method path))) := by
  rw [classifyRuntimePlanEgressRoute]
  cases hfilter : egressRoutes.filter (matches? cases authority method path) with
  | nil => exact .inl ⟨rfl, rfl⟩
  | cons first rest =>
      cases rest with
      | nil => exact .inr (.inl ⟨first, rfl, rfl⟩)
      | cons second rest =>
          refine .inr (.inr ⟨?_, rfl⟩)
          simp only [List.length_cons]
          omega

end Gateway

/-! ### The sandbox -/

namespace Sandbox

/-- A route as the sandbox keeps it. -/
structure EgressProxyRoute where
  egressRuleId : Text
  hosts : List Text
  pathPrefixes : List Text
  methods : Option (List Text)
  deriving DecidableEq

abbrev rustTrim : Text → Text := trimWith isWhiteSpace

def toAsciiLowercase (text : Text) : Text :=
  text.map Char.toLower

def toAsciiUppercase (text : Text) : Text :=
  text.map Char.toUpper

def normalizeMatchHost (host : Text) : Text :=
  let normalizedHost := toAsciiLowercase (rustTrim host)
  match (stripPrefix ['['] normalizedHost).bind (splitOnce ']') with
  | some (host, _) => host
  | none => normalizedHost

def normalizeAuthorityHost (authority : Text) : Text :=
  let normalizedAuthority := toAsciiLowercase (rustTrim authority)
  match (stripPrefix ['['] normalizedAuthority).bind (splitOnce ']') with
  | some (host, _) => host
  | none =>
    match splitOnce ':' normalizedAuthority with
    | some (host, _) => host
    | none => normalizedAuthority

def proxyRoute (route : EgressCredentialRoute) : EgressProxyRoute where
  egressRuleId := route.egressRuleId
  hosts := route.routeMatch.hosts.map normalizeMatchHost
  pathPrefixes := route.routeMatch.pathPrefixes.getD [['/']]
  methods := route.routeMatch.methods.map fun methods => methods.map toAsciiUppercase

/-- A route is taken on if its upstream address can be read and has a host, and there is a
    host it matches. `parseUrl` reads an address and says whether it has a host. -/
def buildGatewayEgressRoute (parseUrl : Text → Except Text Bool) (route : EgressCredentialRoute) :
    Except Text EgressProxyRoute :=
  match parseUrl route.upstreamBaseUrl with
  | .error error => .error ("runtime plan egress route '".toList ++ route.egressRuleId ++
      "' has invalid upstream base url '".toList ++ route.upstreamBaseUrl ++ "': ".toList ++ error)
  | .ok false => .error ("runtime plan egress route '".toList ++ route.egressRuleId ++
      "' upstream '".toList ++ route.upstreamBaseUrl ++ "' must include a host".toList)
  | .ok true =>
    if route.routeMatch.hosts.isEmpty then
      .error ("runtime plan egress route '".toList ++ route.egressRuleId ++
        "' must include at least one match host".toList)
    else .ok (proxyRoute route)

def normalizePathPrefix (pathPrefix : Text) : Text :=
  cutLast '/' (rustTrim pathPrefix)

/-- The path with a slash before it, up to a question mark. -/
def normalizePath (path : Text) : Text :=
  let path := if path.head? = some '/' then path else '/' :: path
  match splitOnce '?' path with
  | some (path, _) => path
  | none => path

def pathBelongsToPrefix (path pathPrefix : Text) : Bool :=
  decide (Covers '/' (normalizePathPrefix pathPrefix) (normalizePath path))

/-- Whether a route matches a request. -/
def matches? (host path method : Text) (route : EgressProxyRoute) : Bool :=
  (route.hosts.any fun routeHost => decide (routeHost = normalizeAuthorityHost host)) &&
    (route.pathPrefixes.any (pathBelongsToPrefix path)) &&
    (route.methods.all fun methods => methods.any fun routeMethod => decide (routeMethod = method))

def matchRoute (routes : List EgressProxyRoute) (host path method : Text) :
    Except Text (Option EgressProxyRoute) :=
  match routes.filter (matches? host path method) with
  | [] => .ok none
  | [route] => .ok (some route)
  | _ => .error ("multiple sandbox egress routes matched proxied request ".toList ++ method ++
      " ".toList ++ host ++ path)

theorem matchRoute_cases (routes : List EgressProxyRoute) (host path method : Text) :
    (routes.filter (matches? host path method) = [] ∧
      matchRoute routes host path method = .ok none) ∨
    (∃ route, routes.filter (matches? host path method) = [route] ∧
      matchRoute routes host path method = .ok (some route)) ∨
    (2 ≤ (routes.filter (matches? host path method)).length ∧
      ∃ message, matchRoute routes host path method = .error message) := by
  rw [matchRoute]
  cases hfilter : routes.filter (matches? host path method) with
  | nil => exact .inl ⟨rfl, rfl⟩
  | cons first rest =>
      cases rest with
      | nil => exact .inr (.inl ⟨first, rfl, rfl⟩)
      | cons second rest =>
          refine .inr (.inr ⟨?_, _, rfl⟩)
          simp only [List.length_cons]
          omega

end Sandbox

end Mistle
