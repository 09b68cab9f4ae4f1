import Mistle.Egress.RouteMatchers

/-!
# Overlapping Routes

Each of the three matchers reads a request as a host, a method and a path, and reads a
route as a pattern of these, so whether some request is matched by two routes is a question
about two patterns. The test for overlap is another reading of the same texts: it does not
trim them where the matchers do, takes a list that admits nothing for one that was left out,
and stops at a prefix that cannot be read.

The readings agree on routes whose texts are written the way they are read. Where they
differ, the test may report two routes that no request meets, or let two routes pass that
one request meets.

## Main definitions

* `CoreMeet`, `Gateway.RoutesMeet`, `Sandbox.RoutesMeet`: Two routes have something in
  common, as each matcher reads them.
* `OverlapsAsRead`: The test for overlap and the reading agree.

## Theorems

* `coreMeet_iff`, `Gateway.routesMeet_iff`, `Sandbox.routesMeet_iff`: Some request is
  matched by both routes exactly where they meet.
* `routesOverlap_iff`: The test for overlap is exact where what is written is what is read.
-/

namespace Mistle

/-! ### Texts that are shared -/

/-- Both lists have a text in common, as it is read, that a request may have. -/
def TextsMeet (read : Text → Text) (possible : Text → Prop) (left right : List Text) : Prop :=
  ∃ a ∈ left, ∃ b ∈ right, read a = read b ∧ possible (read a)

/-- The same where a list that is left out admits everything. -/
def OptionalTextsMeet (read : Text → Text) (possible : Text → Prop) :
    (left right : Option (List Text)) → Prop
  | none, none => True
  | some left, none => ∃ a ∈ left, possible (read a)
  | none, some right => ∃ b ∈ right, possible (read b)
  | some left, some right => TextsMeet read possible left right

theorem textsMeet_iff {read : Text → Text} {possible : Text → Prop} {left right : List Text} :
    (∃ x, possible x ∧ (∃ a ∈ left, read a = x) ∧ ∃ b ∈ right, read b = x) ↔
      TextsMeet read possible left right := by
  constructor
  · rintro ⟨x, hx, ⟨a, ha, hax⟩, b, hb, hbx⟩
    exact ⟨a, ha, b, hb, hax.trans hbx.symm, hax ▸ hx⟩
  · rintro ⟨a, ha, b, hb, heq, hpossible⟩
    exact ⟨read a, hpossible, ⟨a, ha, rfl⟩, b, hb, heq.symm⟩

theorem TextsMeet.congr {read : Text → Text} {possible possible' : Text → Prop}
    (h : ∀ text, possible (read text) ↔ possible' (read text)) {left right : List Text} :
    TextsMeet read possible left right ↔ TextsMeet read possible' left right := by
  simp only [TextsMeet, h]

theorem OptionalTextsMeet.congr {read : Text → Text} {possible possible' : Text → Prop}
    (h : ∀ text, possible (read text) ↔ possible' (read text)) {left right : Option (List Text)} :
    OptionalTextsMeet read possible left right ↔ OptionalTextsMeet read possible' left right := by
  cases left <;> cases right <;> simp only [OptionalTextsMeet, h, TextsMeet]

theorem optionalTextsMeet_iff {read : Text → Text} {possible : Text → Prop}
    (hsome : ∃ x, possible x) {left right : Option (List Text)} :
    (∃ x, possible x ∧ (∀ texts, left = some texts → ∃ a ∈ texts, read a = x) ∧
        ∀ texts, right = some texts → ∃ b ∈ texts, read b = x) ↔
      OptionalTextsMeet read possible left right := by
  cases left with
  | none =>
      cases right with
      | none =>
          rcases hsome with ⟨x, hx⟩
          exact ⟨fun _ => trivial, fun _ => ⟨x, hx, nofun, nofun⟩⟩
      | some right =>
          constructor
          · rintro ⟨x, hx, _, hright⟩
            rcases hright right rfl with ⟨b, hb, hbx⟩
            exact ⟨b, hb, hbx ▸ hx⟩
          · rintro ⟨b, hb, hpossible⟩
            refine ⟨read b, hpossible, nofun, fun texts htexts => ?_⟩
            rw [Option.some.injEq] at htexts
            exact ⟨b, htexts ▸ hb, rfl⟩
  | some left =>
      cases right with
      | none =>
          constructor
          · rintro ⟨x, hx, hleft, _⟩
            rcases hleft left rfl with ⟨a, ha, hax⟩
            exact ⟨a, ha, hax ▸ hx⟩
          · rintro ⟨a, ha, hpossible⟩
            refine ⟨read a, hpossible, fun texts htexts => ?_, nofun⟩
            rw [Option.some.injEq] at htexts
            exact ⟨a, htexts ▸ ha, rfl⟩
      | some right =>
          rw [OptionalTextsMeet, ← textsMeet_iff]
          simp only [Option.some.injEq, forall_eq']

/-! ### The compiler's matcher -/

/-- A text that is neither blank nor padded. -/
def Unpadded (text : Text) : Prop :=
  text ≠ [] ∧ jsTrim text = text

instance : DecidablePred Unpadded := fun text => inferInstanceAs (Decidable (text ≠ [] ∧ _ = _))

/-- A path that begins with a slash. -/
def Rooted (path : Text) : Prop :=
  path.head? = some '/'

instance : DecidablePred Rooted := fun _ => inferInstanceAs (Decidable (_ = _))

/-- The prefixes of a route that can be read, up to the first that cannot. -/
def readPathPrefixes (route : EgressCredentialRoute) : List Text :=
  match route.routeMatch.pathPrefixes with
  | none => [['/']]
  | some pathPrefixes => readUntil normalizeRoutePathPrefix pathPrefixes

/-- Two routes have a host, a method and a path in common that a request may have. -/
structure CoreMeet (cases : CaseMapping) (left right : EgressCredentialRoute) : Prop where
  hosts : TextsMeet cases.toLowerCase Unpadded left.routeMatch.hosts right.routeMatch.hosts
  methods : OptionalTextsMeet cases.toUpperCase Unpadded left.routeMatch.methods
    right.routeMatch.methods
  paths : PrefixesMeet '/' Rooted (readPathPrefixes left) (readPathPrefixes right)

section

variable {cases : CaseMapping} {route left right : EgressCredentialRoute}

/-- A text that is read and must not be empty. -/
theorem nonempty_ok {ε : Type} {e : ε} {text normalized : Text} :
    (if text.length = 0 then .error e else .ok text) = (.ok normalized : Except ε Text) ↔
      normalized ≠ [] ∧ text = normalized := by
  by_cases hempty : text.length = 0
  · rw [if_pos hempty]
    rw [List.length_eq_zero_iff] at hempty
    simp only [reduceCtorEq, false_iff, not_and]
    intro hne heq
    exact hne (heq ▸ hempty)
  · rw [if_neg hempty, Except.ok.injEq]
    rw [List.length_eq_zero_iff] at hempty
    exact ⟨fun heq => ⟨heq ▸ hempty, heq⟩, fun h => h.2⟩

theorem normalizeHost_ok {host normalized : Text} :
    normalizeHost cases host = .ok normalized ↔
      normalized ≠ [] ∧ cases.toLowerCase (jsTrim host) = normalized :=
  nonempty_ok

theorem normalizeMethod_ok {method normalized : Text} :
    normalizeMethod cases method = .ok normalized ↔
      normalized ≠ [] ∧ cases.toUpperCase (jsTrim method) = normalized :=
  nonempty_ok

theorem rooted_of_normalizePath {path normalized : Text}
    (h : normalizePath path = .ok normalized) : Rooted normalized := by
  rw [normalizePath] at h
  split at h
  · exact absurd h (by simp only [reduceCtorEq, not_false_eq_true])
  · split at h
    · rename_i hrooted
      rw [Except.ok.injEq] at h
      rw [← h]
      exact hrooted
    · rw [Except.ok.injEq] at h
      rw [← h]
      rfl

theorem normalizePath_of_rooted {path : Text} (h : Rooted path) : normalizePath path = .ok path := by
  have hne : path.length ≠ 0 := by
    intro hempty
    rw [List.length_eq_zero_iff] at hempty
    rw [hempty] at h
    exact absurd h (by simp only [Rooted, List.head?_nil, reduceCtorEq, not_false_eq_true])
  rw [normalizePath, if_neg hne]
  exact if_pos h

theorem rooted_of_normalizeRoutePathPrefix {pathPrefix normalized : Text}
    (h : normalizeRoutePathPrefix pathPrefix = .ok normalized) : Rooted normalized := by
  rw [normalizeRoutePathPrefix] at h
  split at h
  · exact absurd h (by simp only [reduceCtorEq, not_false_eq_true])
  · split at h
    · exact absurd h (by simp only [reduceCtorEq, not_false_eq_true])
    · rename_i hrooted
      rw [Except.ok.injEq] at h
      rw [← h]
      exact cutLast_head? (not_not.mp hrooted)

theorem rooted_of_readPathPrefixes {start : Text} (h : start ∈ readPathPrefixes route) :
    Rooted start := by
  rw [readPathPrefixes] at h
  split at h
  · rw [List.mem_singleton] at h
    rw [h]
    rfl
  · rcases mem_readUntil h with ⟨pathPrefix, _, hread⟩
    exact rooted_of_normalizeRoutePathPrefix hread

theorem prefixesMatch_iff {path : Text} (hrooted : Rooted path) :
    (match route.routeMatch.pathPrefixes with
      | none => .ok true
      | some pathPrefixes => pathPrefixes.anyM (pathBelongsToPrefix path)) =
        (.ok true : Except EgressRouteError Bool) ↔
      ∃ start ∈ readPathPrefixes route, Covers '/' start path := by
  rw [readPathPrefixes]
  cases route.routeMatch.pathPrefixes with
  | none => simp only [true_iff, List.mem_singleton, exists_eq_left]; exact .inl rfl
  | some pathPrefixes =>
      have htest : pathBelongsToPrefix path = fun pathPrefix =>
          (normalizeRoutePathPrefix pathPrefix).map fun start =>
            decide (Covers '/' start path) := by
        funext pathPrefix
        rw [pathBelongsToPrefix, normalizePath_of_rooted hrooted]
        rfl
      simp only [htest, anyM_eq_true_iff, decide_eq_true_eq]

/-- A request that is matched, by what is read of it. -/
theorem matchesRoute_iff {request : EgressRequest} :
    matchesRoute cases route request = .ok true ↔
      ∃ host method path, normalizeHost cases request.host = .ok host ∧
        normalizeMethod cases request.method = .ok method ∧ normalizePath request.path = .ok path ∧
        (∃ routeHost ∈ route.routeMatch.hosts, cases.toLowerCase routeHost = host) ∧
        (∀ methods, route.routeMatch.methods = some methods →
          ∃ routeMethod ∈ methods, cases.toUpperCase routeMethod = method) ∧
        ∃ start ∈ readPathPrefixes route, Covers '/' start path := by
  rw [matchesRoute]
  cases hhost : normalizeHost cases request.host with
  | error e => simp only [bind, Except.bind, reduceCtorEq, false_and, exists_false]
  | ok host =>
      cases hmethod : normalizeMethod cases request.method with
      | error e => simp only [bind, Except.bind, reduceCtorEq, false_and, and_false, exists_false]
      | ok method =>
          cases hpath : normalizePath request.path with
          | error e =>
              simp only [bind, Except.bind, reduceCtorEq, false_and, and_false, exists_false]
          | ok path =>
              have hhosts : (route.routeMatch.hosts.any fun routeHost =>
                  decide (cases.toLowerCase routeHost = host)) = true ↔
                  ∃ routeHost ∈ route.routeMatch.hosts, cases.toLowerCase routeHost = host := by
                simp only [List.any_eq_true, decide_eq_true_eq]
              have hmethods : (route.routeMatch.methods.all fun methods =>
                  decide (method ∈ methods.map cases.toUpperCase)) = true ↔
                  ∀ methods, route.routeMatch.methods = some methods →
                    ∃ routeMethod ∈ methods, cases.toUpperCase routeMethod = method := by
                simp only [Option.all_eq_true, decide_eq_true_eq, List.mem_map]
              simp only [bind, Except.bind, Except.ok.injEq, exists_and_left, exists_eq_left']
              rw [← hhosts, ← hmethods, ← prefixesMatch_iff (rooted_of_normalizePath hpath)]
              cases route.routeMatch.hosts.any fun routeHost =>
                  decide (cases.toLowerCase routeHost = host) with
              | false => simp [pure, Except.pure]
              | true =>
                  cases route.routeMatch.methods.all fun methods =>
                      decide (method ∈ methods.map cases.toUpperCase) with
                  | false => simp [pure, Except.pure]
                  | true =>
                      simp only [Bool.not_true, Bool.false_eq_true, if_false, true_and]
                      rfl

/-- A route as a pattern. -/
def corePattern (cases : CaseMapping) (route : EgressCredentialRoute) : Pattern Text Text Text where
  first := fun host => ∃ routeHost ∈ route.routeMatch.hosts, cases.toLowerCase routeHost = host
  second := fun method => ∀ methods, route.routeMatch.methods = some methods →
    ∃ routeMethod ∈ methods, cases.toUpperCase routeMethod = method
  third := fun path => ∃ start ∈ readPathPrefixes route, Covers '/' start path

/-- What a request may be read as. -/
def corePossible (cases : CaseMapping) : Pattern Text Text Text where
  first := fun host => ∃ text, normalizeHost cases text = .ok host
  second := fun method => ∃ text, normalizeMethod cases text = .ok method
  third := Rooted

theorem both_matchesRoute_iff :
    (∃ request, matchesRoute cases left request = .ok true ∧
        matchesRoute cases right request = .ok true) ↔
      Pattern.Meet (corePossible cases) (corePattern cases left) (corePattern cases right) := by
  rw [← Pattern.meet_iff]
  constructor
  · rintro ⟨request, hleft, hright⟩
    rcases matchesRoute_iff.mp hleft with ⟨host, method, path, hhost, hmethod, hpath, hadmits⟩
    rcases matchesRoute_iff.mp hright with ⟨host', method', path', hhost', hmethod', hpath', hadmits'⟩
    rw [hhost, Except.ok.injEq] at hhost'
    rw [hmethod, Except.ok.injEq] at hmethod'
    rw [hpath, Except.ok.injEq] at hpath'
    rw [← hhost', ← hmethod', ← hpath'] at hadmits'
    exact ⟨host, method, path, ⟨⟨_, hhost⟩, ⟨_, hmethod⟩, rooted_of_normalizePath hpath⟩,
      hadmits, hadmits'⟩
  · rintro ⟨host, method, path, ⟨⟨host₀, hhost⟩, ⟨method₀, hmethod⟩, hrooted⟩, hleft, hright⟩
    have hpath : normalizePath path = .ok path := normalizePath_of_rooted hrooted
    exact ⟨⟨host₀, path, method₀⟩,
      matchesRoute_iff.mpr ⟨host, method, path, hhost, hmethod, hpath, hleft⟩,
      matchesRoute_iff.mpr ⟨host, method, path, hhost, hmethod, hpath, hright⟩⟩

/-- A request may have the host of a route, in lower case, exactly where it is not padded. -/
theorem possible_host_iff (hcases : cases.Lawful) (text : Text) :
    (∃ host, normalizeHost cases host = .ok (cases.toLowerCase text)) ↔
      Unpadded (cases.toLowerCase text) := by
  simp only [normalizeHost_ok]
  constructor
  · rintro ⟨host, hne, hhost⟩
    refine ⟨hne, ?_⟩
    rw [← hhost, ← hcases.toLowerCase_trim, jsTrim_jsTrim]
  · rintro ⟨hne, htrim⟩
    exact ⟨text, hne, by rw [hcases.toLowerCase_trim, htrim]⟩

theorem possible_method_iff (hcases : cases.Lawful) (text : Text) :
    (∃ method, normalizeMethod cases method = .ok (cases.toUpperCase text)) ↔
      Unpadded (cases.toUpperCase text) := by
  simp only [normalizeMethod_ok]
  constructor
  · rintro ⟨method, hne, hmethod⟩
    refine ⟨hne, ?_⟩
    rw [← hmethod, ← hcases.toUpperCase_trim, jsTrim_jsTrim]
  · rintro ⟨hne, htrim⟩
    exact ⟨text, hne, by rw [hcases.toUpperCase_trim, htrim]⟩

theorem possible_get (hcases : cases.Lawful) :
    ∃ x text, normalizeMethod cases text = .ok x := by
  refine ⟨"GET".toList, "GET".toList, normalizeMethod_ok.mpr ⟨by decide, ?_⟩⟩
  rw [show jsTrim "GET".toList = "GET".toList from by decide, hcases.toUpperCase_get]

/-- Some request is matched by both routes exactly where they meet. -/
theorem coreMeet_iff (hcases : cases.Lawful) :
    (∃ request, matchesRoute cases left request = .ok true ∧
        matchesRoute cases right request = .ok true) ↔ CoreMeet cases left right := by
  have hhosts : (∃ host, (corePossible cases).first host ∧ (corePattern cases left).first host ∧
      (corePattern cases right).first host) ↔ TextsMeet cases.toLowerCase (corePossible cases).first
        left.routeMatch.hosts right.routeMatch.hosts := textsMeet_iff
  have hmethods : (∃ method, (corePossible cases).second method ∧
      (corePattern cases left).second method ∧ (corePattern cases right).second method) ↔
      OptionalTextsMeet cases.toUpperCase (corePossible cases).second left.routeMatch.methods
        right.routeMatch.methods := optionalTextsMeet_iff (possible_get hcases)
  have hpaths : (∃ path, Rooted path ∧ (corePattern cases left).third path ∧
      (corePattern cases right).third path) ↔
      PrefixesMeet '/' Rooted (readPathPrefixes left) (readPathPrefixes right) :=
    prefixesMeet_iff (fun a ha _ _ _ => rooted_of_readPathPrefixes ha)
      fun b hb _ _ _ => rooted_of_readPathPrefixes hb
  rw [both_matchesRoute_iff]
  constructor
  · rintro ⟨hfirst, hsecond, hthird⟩
    exact ⟨(TextsMeet.congr (possible_host_iff hcases)).mp (hhosts.mp hfirst),
      (OptionalTextsMeet.congr (possible_method_iff hcases)).mp (hmethods.mp hsecond),
      hpaths.mp hthird⟩
  · rintro ⟨hfirst, hsecond, hthird⟩
    exact ⟨hhosts.mpr ((TextsMeet.congr (possible_host_iff hcases)).mpr hfirst),
      hmethods.mpr ((OptionalTextsMeet.congr (possible_method_iff hcases)).mpr hsecond),
      hpaths.mpr hthird⟩

/-! ### The gateway's matcher -/

/-- What is to be found at the beginning of a path, with a blank prefix for all paths. -/
def Gateway.starts (route : EgressCredentialRoute) : List Text :=
  (route.routeMatch.pathPrefixes.getD [['/']]).map fun pathPrefix =>
    rootStart '/' (Gateway.normalizePathPrefix pathPrefix)

structure Gateway.RoutesMeet (cases : CaseMapping) (left right : EgressCredentialRoute) : Prop where
  hosts : TextsMeet cases.toLowerCase
    (fun host => ∃ authority, Gateway.normalizeAuthorityHost cases authority = host)
    left.routeMatch.hosts right.routeMatch.hosts
  methods : OptionalTextsMeet cases.toUpperCase (fun _ => True) left.routeMatch.methods
    right.routeMatch.methods
  paths : PrefixesMeet '/' Rooted (Gateway.starts left) (Gateway.starts right)

theorem Gateway.rooted_normalizePath (path : Text) : Rooted (Gateway.normalizePath path) := by
  rw [Gateway.normalizePath]
  split
  · rename_i h
    exact h
  · rfl

theorem Gateway.normalizePath_of_rooted {path : Text} (h : Rooted path) :
    Gateway.normalizePath path = path :=
  if_pos h

theorem Gateway.starts_ne_nil {start : Text} (h : start ∈ Gateway.starts route) : start ≠ [] := by
  rcases List.mem_map.mp h with ⟨pathPrefix, _, hstart⟩
  rw [← hstart]
  exact rootStart_ne_nil '/' _

def Gateway.pattern (cases : CaseMapping) (route : EgressCredentialRoute) :
    Pattern Text Text Text where
  first := (corePattern cases route).first
  second := (corePattern cases route).second
  third := fun path => ∃ start ∈ Gateway.starts route, Covers '/' start path

def Gateway.possible (cases : CaseMapping) : Pattern Text Text Text where
  first := fun host => ∃ authority, Gateway.normalizeAuthorityHost cases authority = host
  second := fun method => ∃ text, cases.toUpperCase text = method
  third := Rooted

theorem Gateway.matches?_iff (hcases : cases.Lawful) {authority method path : Text} :
    Gateway.matches? cases authority method path route = true ↔
      (Gateway.pattern cases route).Admits (Gateway.normalizeAuthorityHost cases authority)
        (cases.toUpperCase method) (Gateway.normalizePath path) := by
  have hhosts : (route.routeMatch.hosts.any fun routeHost => decide
        (cases.toLowerCase routeHost = Gateway.normalizeAuthorityHost cases authority)) = true ↔
      (Gateway.pattern cases route).first (Gateway.normalizeAuthorityHost cases authority) := by
    simp only [List.any_eq_true, decide_eq_true_eq, Gateway.pattern, corePattern]
  have hmethods : ((route.routeMatch.methods.getD [cases.toUpperCase method]).any fun routeMethod =>
        decide (cases.toUpperCase routeMethod = cases.toUpperCase method)) = true ↔
      (Gateway.pattern cases route).second (cases.toUpperCase method) := by
    cases hroute : route.routeMatch.methods with
    | none =>
        simp only [Option.getD_none, List.any_cons, List.any_nil, Bool.or_false,
          hcases.toUpperCase_idem, decide_true, true_iff, Gateway.pattern, corePattern, hroute]
        exact nofun
    | some methods =>
        simp only [Option.getD_some, List.any_eq_true, decide_eq_true_eq, Gateway.pattern,
          corePattern, hroute, Option.some.injEq, forall_eq']
  have hpaths : ((route.routeMatch.pathPrefixes.getD [['/']]).any
        (Gateway.pathBelongsToPrefix path)) = true ↔
      (Gateway.pattern cases route).third (Gateway.normalizePath path) := by
    simp only [Gateway.pattern, Gateway.starts, List.mem_map, exists_exists_and_eq_and,
      covers_rootStart (Gateway.rooted_normalizePath path), List.any_eq_true,
      Gateway.pathBelongsToPrefix, decide_eq_true_eq]
  rw [Gateway.matches?, Gateway.doesRouteMatchRequest, Bool.and_eq_true, Bool.and_eq_true, hhosts,
    hmethods, hpaths, Pattern.Admits]
  tauto

/-- Some request is matched by both routes exactly where they meet. -/
theorem Gateway.routesMeet_iff (hcases : cases.Lawful) :
    (∃ authority method path, Gateway.matches? cases authority method path left = true ∧
        Gateway.matches? cases authority method path right = true) ↔
      Gateway.RoutesMeet cases left right := by
  have hboth : (∃ authority method path, Gateway.matches? cases authority method path left = true ∧
        Gateway.matches? cases authority method path right = true) ↔
      Pattern.Meet (Gateway.possible cases) (Gateway.pattern cases left)
        (Gateway.pattern cases right) := by
    rw [← Pattern.meet_iff]
    simp only [Gateway.matches?_iff hcases]
    constructor
    · rintro ⟨authority, method, path, hleft, hright⟩
      exact ⟨_, _, _, ⟨⟨authority, rfl⟩, ⟨method, rfl⟩, Gateway.rooted_normalizePath path⟩, hleft,
        hright⟩
    · rintro ⟨host, method, path, ⟨⟨authority, hhost⟩, ⟨text, hmethod⟩, hrooted⟩, hadmits⟩
      refine ⟨authority, text, path, ?_⟩
      rw [hhost, hmethod, Gateway.normalizePath_of_rooted hrooted]
      exact hadmits
  have hhosts : (∃ host, (Gateway.possible cases).first host ∧
      (Gateway.pattern cases left).first host ∧ (Gateway.pattern cases right).first host) ↔
      TextsMeet cases.toLowerCase (Gateway.possible cases).first left.routeMatch.hosts
        right.routeMatch.hosts := textsMeet_iff
  have hmethods : (∃ method, (Gateway.possible cases).second method ∧
      (Gateway.pattern cases left).second method ∧ (Gateway.pattern cases right).second method) ↔
      OptionalTextsMeet cases.toUpperCase (Gateway.possible cases).second left.routeMatch.methods
        right.routeMatch.methods := optionalTextsMeet_iff ⟨_, [], rfl⟩
  have hpossible : ∀ text, (Gateway.possible cases).second (cases.toUpperCase text) ↔ True :=
    fun text => iff_of_true ⟨text, rfl⟩ trivial
  have hpaths : (∃ path, Rooted path ∧ (Gateway.pattern cases left).third path ∧
      (Gateway.pattern cases right).third path) ↔
      PrefixesMeet '/' Rooted (Gateway.starts left) (Gateway.starts right) :=
    prefixesMeet_iff (fun a ha _ hcovers hrooted => hcovers.head? (Gateway.starts_ne_nil ha) hrooted)
      fun b hb _ hcovers hrooted => hcovers.head? (Gateway.starts_ne_nil hb) hrooted
  rw [hboth]
  constructor
  · rintro ⟨hfirst, hsecond, hthird⟩
    exact ⟨hhosts.mp hfirst, (OptionalTextsMeet.congr hpossible).mp (hmethods.mp hsecond),
      hpaths.mp hthird⟩
  · rintro ⟨hfirst, hsecond, hthird⟩
    exact ⟨hhosts.mpr hfirst, hmethods.mpr ((OptionalTextsMeet.congr hpossible).mpr hsecond),
      hpaths.mpr hthird⟩

/-! ### The sandbox's matcher -/

/-- What is to be found at the beginning of a path, with a blank prefix for all paths. -/
def Sandbox.starts (route : EgressCredentialRoute) : List Text :=
  (route.routeMatch.pathPrefixes.getD [['/']]).map fun pathPrefix =>
    rootStart '/' (Sandbox.normalizePathPrefix pathPrefix)

/-- A path that begins with a slash and has no question mark. -/
def Sandbox.PlainPath (path : Text) : Prop :=
  Rooted path ∧ '?' ∉ path

instance : DecidablePred Sandbox.PlainPath := fun path =>
  inferInstanceAs (Decidable (Rooted path ∧ '?' ∉ path))

structure Sandbox.RoutesMeet (left right : EgressCredentialRoute) : Prop where
  hosts : TextsMeet Sandbox.normalizeMatchHost
    (fun host => ∃ authority, Sandbox.normalizeAuthorityHost authority = host)
    left.routeMatch.hosts right.routeMatch.hosts
  methods : OptionalTextsMeet Sandbox.toAsciiUppercase (fun _ => True) left.routeMatch.methods
    right.routeMatch.methods
  paths : PrefixesMeet '/' Sandbox.PlainPath (Sandbox.starts left) (Sandbox.starts right)

theorem Sandbox.starts_ne_nil {start : Text} (h : start ∈ Sandbox.starts route) : start ≠ [] := by
  rcases List.mem_map.mp h with ⟨pathPrefix, _, hstart⟩
  rw [← hstart]
  exact rootStart_ne_nil '/' _

theorem Sandbox.plainPath_normalizePath (path : Text) :
    Sandbox.PlainPath (Sandbox.normalizePath path) := by
  rw [Sandbox.normalizePath]
  have hrooted : Rooted (if path.head? = some '/' then path else '/' :: path) :=
    Gateway.rooted_normalizePath path
  generalize (if path.head? = some '/' then path else '/' :: path) = rooted at hrooted
  cases hsplit : splitOnce '?' rooted with
  | none => exact ⟨hrooted, not_mem_of_splitOnce hsplit⟩
  | some cut =>
      rcases cut with ⟨before, after⟩
      rcases append_of_splitOnce hsplit with ⟨hrest, hmem⟩
      refine ⟨?_, hmem⟩
      rw [hrest] at hrooted
      cases before with
      | nil => exact absurd (Option.some.inj hrooted) (by decide)
      | cons c before => exact hrooted

theorem Sandbox.normalizePath_of_plainPath {path : Text} (h : Sandbox.PlainPath path) :
    Sandbox.normalizePath path = path := by
  have hrooted : (if path.head? = some '/' then path else '/' :: path) = path := if_pos h.1
  rw [Sandbox.normalizePath, hrooted, splitOnce_eq_none h.2]

theorem Sandbox.PlainPath.of_covers {start path : Text} (h : Sandbox.PlainPath path)
    (hstart : start ≠ []) (hcovers : Covers '/' start path) : Sandbox.PlainPath start := by
  refine ⟨hcovers.head? hstart h.1, fun hmem => ?_⟩
  rcases hcovers.subset hmem with heq | hmem
  · exact absurd heq (by decide)
  · exact h.2 hmem

def Sandbox.pattern (route : EgressCredentialRoute) : Pattern Text Text Text where
  first := fun host => ∃ routeHost ∈ route.routeMatch.hosts,
    Sandbox.normalizeMatchHost routeHost = host
  second := fun method => ∀ methods, route.routeMatch.methods = some methods →
    ∃ routeMethod ∈ methods, Sandbox.toAsciiUppercase routeMethod = method
  third := fun path => ∃ start ∈ Sandbox.starts route, Covers '/' start path

def Sandbox.possible : Pattern Text Text Text where
  first := fun host => ∃ authority, Sandbox.normalizeAuthorityHost authority = host
  second := fun _ => True
  third := Sandbox.PlainPath

theorem Sandbox.matches?_iff {host path method : Text} :
    Sandbox.matches? host path method (Sandbox.proxyRoute route) = true ↔
      (Sandbox.pattern route).Admits (Sandbox.normalizeAuthorityHost host) method
        (Sandbox.normalizePath path) := by
  have hhosts : ((Sandbox.proxyRoute route).hosts.any fun routeHost =>
        decide (routeHost = Sandbox.normalizeAuthorityHost host)) = true ↔
      (Sandbox.pattern route).first (Sandbox.normalizeAuthorityHost host) := by
    simp only [Sandbox.proxyRoute, List.any_map, List.any_eq_true, Function.comp_apply,
      decide_eq_true_eq, Sandbox.pattern]
  have hmethods : ((Sandbox.proxyRoute route).methods.all fun methods =>
        methods.any fun routeMethod => decide (routeMethod = method)) = true ↔
      (Sandbox.pattern route).second method := by
    simp only [Sandbox.proxyRoute, Option.all_map, Option.all_eq_true, Function.comp_apply,
      List.any_map, List.any_eq_true, decide_eq_true_eq, Sandbox.pattern]
  have hpaths : ((Sandbox.proxyRoute route).pathPrefixes.any
        (Sandbox.pathBelongsToPrefix path)) = true ↔
      (Sandbox.pattern route).third (Sandbox.normalizePath path) := by
    simp only [Sandbox.proxyRoute, Sandbox.pattern, Sandbox.starts, List.mem_map,
      exists_exists_and_eq_and, covers_rootStart (Sandbox.plainPath_normalizePath path).1,
      List.any_eq_true, Sandbox.pathBelongsToPrefix, decide_eq_true_eq]
  rw [Sandbox.matches?, Bool.and_eq_true, Bool.and_eq_true, hhosts, hmethods, hpaths,
    Pattern.Admits]
  tauto

/-- Some request is matched by both routes exactly where they meet. -/
theorem Sandbox.routesMeet_iff :
    (∃ host path method, Sandbox.matches? host path method (Sandbox.proxyRoute left) = true ∧
        Sandbox.matches? host path method (Sandbox.proxyRoute right) = true) ↔
      Sandbox.RoutesMeet left right := by
  have hboth : (∃ host path method,
        Sandbox.matches? host path method (Sandbox.proxyRoute left) = true ∧
        Sandbox.matches? host path method (Sandbox.proxyRoute right) = true) ↔
      Pattern.Meet Sandbox.possible (Sandbox.pattern left) (Sandbox.pattern right) := by
    rw [← Pattern.meet_iff]
    simp only [Sandbox.matches?_iff]
    constructor
    · rintro ⟨host, path, method, hleft, hright⟩
      exact ⟨_, _, _, ⟨⟨host, rfl⟩, trivial, Sandbox.plainPath_normalizePath path⟩, hleft, hright⟩
    · rintro ⟨host, method, path, ⟨⟨authority, hhost⟩, _, hplain⟩, hadmits⟩
      refine ⟨authority, path, method, ?_⟩
      rw [hhost, Sandbox.normalizePath_of_plainPath hplain]
      exact hadmits
  have hhosts : (∃ host, Sandbox.possible.first host ∧ (Sandbox.pattern left).first host ∧
      (Sandbox.pattern right).first host) ↔
      TextsMeet Sandbox.normalizeMatchHost Sandbox.possible.first left.routeMatch.hosts
        right.routeMatch.hosts := textsMeet_iff
  have hmethods : (∃ method, Sandbox.possible.second method ∧ (Sandbox.pattern left).second method ∧
      (Sandbox.pattern right).second method) ↔
      OptionalTextsMeet Sandbox.toAsciiUppercase Sandbox.possible.second left.routeMatch.methods
        right.routeMatch.methods := optionalTextsMeet_iff ⟨[], trivial⟩
  have hpaths : (∃ path, Sandbox.PlainPath path ∧ (Sandbox.pattern left).third path ∧
      (Sandbox.pattern right).third path) ↔
      PrefixesMeet '/' Sandbox.PlainPath (Sandbox.starts left) (Sandbox.starts right) :=
    prefixesMeet_iff
      (fun a ha _ hcovers hplain => hplain.of_covers (Sandbox.starts_ne_nil ha) hcovers)
      fun b hb _ hcovers hplain => hplain.of_covers (Sandbox.starts_ne_nil hb) hcovers
  rw [hboth]
  constructor
  · rintro ⟨hfirst, hsecond, hthird⟩
    exact ⟨hhosts.mp hfirst, hmethods.mp hsecond, hpaths.mp hthird⟩
  · rintro ⟨hfirst, hsecond, hthird⟩
    exact ⟨hhosts.mpr hfirst, hmethods.mpr hsecond, hpaths.mpr hthird⟩

/-! ### The test for overlap -/

theorem hasHostOverlap_iff {leftHosts rightHosts : List Text} :
    hasHostOverlap cases leftHosts rightHosts = true ↔
      TextsMeet cases.toLowerCase (fun _ => True) leftHosts rightHosts := by
  rw [hasHostOverlap, List.any_eq_true]
  constructor
  · rintro ⟨a, ha, hmem⟩
    rcases List.mem_map.mp (of_decide_eq_true hmem) with ⟨b, hb, heq⟩
    exact ⟨a, ha, b, hb, heq.symm, trivial⟩
  · rintro ⟨a, ha, b, hb, heq, _⟩
    exact ⟨a, ha, decide_eq_true (List.mem_map.mpr ⟨b, hb, heq.symm⟩)⟩

theorem hasMethodOverlap_of_meet {possible : Text → Prop} {leftMethods rightMethods : Option (List Text)}
    (h : OptionalTextsMeet cases.toUpperCase possible leftMethods rightMethods) :
    hasMethodOverlap cases leftMethods rightMethods = true := by
  cases leftMethods with
  | none => rfl
  | some left =>
      cases rightMethods with
      | none => rfl
      | some right =>
          rcases h with ⟨a, ha, b, hb, heq, _⟩
          rw [hasMethodOverlap, List.any_eq_true]
          exact ⟨a, ha, decide_eq_true (List.mem_map.mpr ⟨b, hb, heq.symm⟩)⟩

theorem routesOverlap_true_iff :
    routesOverlap cases left right = .ok true ↔
      hasHostOverlap cases left.routeMatch.hosts right.routeMatch.hosts = true ∧
      hasMethodOverlap cases left.routeMatch.methods right.routeMatch.methods = true ∧
      hasPathPrefixOverlap left.routeMatch.pathPrefixes right.routeMatch.pathPrefixes = .ok true := by
  rw [routesOverlap]
  split
  · rename_i h
    rw [Bool.and_eq_true] at h
    exact ⟨fun hpaths => ⟨h.1, h.2, hpaths⟩, fun h => h.2.2⟩
  · rename_i h
    rw [Bool.and_eq_true] at h
    simp only [Except.ok.injEq, Bool.false_eq_true, false_iff, not_and]
    exact fun hhosts hmethods => absurd ⟨hhosts, hmethods⟩ h

/-- What the routes share as they are written they share as they are read, and the paths
    they share as they are read they share as they are written. -/
structure OverlapsAsRead (cases : CaseMapping) (left right : EgressCredentialRoute) : Prop where
  read : hasHostOverlap cases left.routeMatch.hosts right.routeMatch.hosts = true →
    hasMethodOverlap cases left.routeMatch.methods right.routeMatch.methods = true →
    hasPathPrefixOverlap left.routeMatch.pathPrefixes right.routeMatch.pathPrefixes = .ok true →
    CoreMeet cases left right
  written : CoreMeet cases left right →
    hasPathPrefixOverlap left.routeMatch.pathPrefixes right.routeMatch.pathPrefixes = .ok true

/-- The test for overlap is exact where what is written is what is read. -/
theorem routesOverlap_iff (hcases : cases.Lawful) :
    (routesOverlap cases left right = .ok true ↔
      ∃ request, matchesRoute cases left request = .ok true ∧
        matchesRoute cases right request = .ok true) ↔ OverlapsAsRead cases left right := by
  rw [coreMeet_iff hcases, routesOverlap_true_iff]
  constructor
  · intro h
    exact ⟨fun hhosts hmethods hpaths => h.mp ⟨hhosts, hmethods, hpaths⟩, fun hmeet => (h.mpr hmeet).2.2⟩
  · rintro ⟨hread, hwritten⟩
    refine ⟨fun h => hread h.1 h.2.1 h.2.2, fun hmeet => ⟨?_, ?_, hwritten hmeet⟩⟩
    · rcases hmeet.hosts with ⟨a, ha, b, hb, heq, _⟩
      exact hasHostOverlap_iff.mpr ⟨a, ha, b, hb, heq, trivial⟩
    · exact hasMethodOverlap_of_meet hmeet.methods

end

end Mistle
