import Mistle.Lib.Run
import Mistle.Lib.Split
import Std.Data.String.ToNat

/-!
# Keys of Cached Credentials

A managed egress request needs a credential. What resolves it is an input made from the
route's resolver, the organization, the sandbox and the acting user, and what was
resolved is kept in a cache under a key made from the same input. The key puts the
fields together with colons, an absent field as an empty one, so it says as much as the
input does wherever the fields can be taken apart again: the fields before the last have
no colon in them, and no field that may be absent is there and empty.

The mode of a linked principal, whether it is required or only preferred, is not part of
the key. It is not sent to the resolver either.

## Main definitions

* `CredentialResolverRef`, `CredentialResolverInput`: What a route names, and what resolves.
* `toCredentialResolverInputFromRef`, `createCredentialCacheKey`, `toCacheKey`: From the
  one to the other and to the key.
* `resolverCall`: What is asked for on a miss.
* `CredentialCacheKeyInput.TakesApart`: Fields that can be taken apart again.
* `CredentialStep`: The steps of requests on one cache.

## Theorems

* `toCacheKey_injective`: A key determines the fields it was made from.
* `resolver_of_cacheKey`: Requests with the same key send the same to the resolver.
* `cached_credential_resolved`: What is read from the cache was resolved under the same key.
-/

namespace Mistle

inductive CredentialResolutionMode where
  | required
  | preferred
  deriving DecidableEq

/-- What a route of the runtime plan says its credential is resolved by. -/
inductive CredentialResolverRef where
  | integrationConnection (connectionId secretType : String) (slotKey resolverKey : Option String)
  | linkedPrincipal (providerFamily : String) (integrationConnectionId : Option String)
      (actingUserRequired : Bool) (resolutionMode : CredentialResolutionMode)
      (credentialKind : Option String)
  | mistleMcpToken (apiKeyId : String)
  | mistleMcpSetupAssistantToken (sandboxProfileId : String) (sandboxProfileVersion : Nat)
  | mistleMcpDesignerToken (designerSessionId : String)
  | platformOpenaiApiKey
  | platformLangfuseSecretKey
  deriving DecidableEq

inductive CredentialResolverInput where
  | integrationConnection (connectionId secretType : String) (slotKey resolverKey : Option String)
  | linkedPrincipal (organizationId providerFamily : String)
      (integrationConnectionId : Option String) (actingUserRequired : Bool)
      (resolutionMode : CredentialResolutionMode) (actingUserId credentialKind : Option String)
  | mistleMcpToken (organizationId sandboxInstanceId apiKeyId : String)
  | mistleMcpSetupAssistantToken (organizationId sandboxInstanceId sandboxProfileId : String)
      (sandboxProfileVersion : Nat)
  | mistleMcpDesignerToken (organizationId sandboxInstanceId designerSessionId : String)
  | platformOpenaiApiKey
  | platformLangfuseSecretKey
  deriving DecidableEq

/-- The shapes of `CredentialCacheKeyInput`. -/
inductive CredentialCacheKeyResolver where
  | integrationConnection (connectionId secretType : String) (slotKey resolverKey : Option String)
  | linkedPrincipal (organizationId providerFamily : String)
      (integrationConnectionId : Option String) (actingUserRequired : Bool)
      (actingUserId credentialKind : Option String)
  | mistleMcpToken (organizationId sandboxInstanceId apiKeyId : String)
  | mistleMcpSetupAssistantToken (organizationId sandboxInstanceId sandboxProfileId : String)
      (sandboxProfileVersion : Nat)
  | mistleMcpDesignerToken (organizationId sandboxInstanceId designerSessionId : String)
  | platformOpenaiApiKey
  | platformLangfuseSecretKey
  deriving DecidableEq

structure CredentialCacheKeyInput where
  testEnvironmentId : Option String
  bindingId : String
  resolver : CredentialCacheKeyResolver
  deriving DecidableEq

inductive EgressFailureCode where
  | credentialResolutionFailed
  | credentialInjectionFailed
  | requestMiddlewareFailed
  deriving DecidableEq

structure GatewayManagedEgressUnsupportedRouteError where
  message : String
  failureCode : EgressFailureCode
  deriving DecidableEq

def missingActingUserId : GatewayManagedEgressUnsupportedRouteError where
  message := "Linked-principal credential resolver is missing actingUserId."
  failureCode := .credentialResolutionFailed

def toCredentialResolverInputFromRef (organizationId sandboxInstanceId : String)
    (actingUserId : Option String) :
    CredentialResolverRef →
      Except GatewayManagedEgressUnsupportedRouteError CredentialResolverInput
  | .integrationConnection connectionId secretType slotKey resolverKey =>
    .ok (.integrationConnection connectionId secretType slotKey resolverKey)
  | .mistleMcpToken apiKeyId => .ok (.mistleMcpToken organizationId sandboxInstanceId apiKeyId)
  | .mistleMcpSetupAssistantToken sandboxProfileId sandboxProfileVersion =>
    .ok (.mistleMcpSetupAssistantToken organizationId sandboxInstanceId sandboxProfileId
      sandboxProfileVersion)
  | .mistleMcpDesignerToken designerSessionId =>
    .ok (.mistleMcpDesignerToken organizationId sandboxInstanceId designerSessionId)
  | .platformOpenaiApiKey => .ok .platformOpenaiApiKey
  | .platformLangfuseSecretKey => .ok .platformLangfuseSecretKey
  | .linkedPrincipal providerFamily integrationConnectionId actingUserRequired resolutionMode
      credentialKind =>
    if actingUserRequired = true ∧ actingUserId = none then .error missingActingUserId
    else .ok (.linkedPrincipal organizationId providerFamily integrationConnectionId
      actingUserRequired resolutionMode actingUserId credentialKind)

def createCredentialCacheKey (testEnvironmentId : Option String) (bindingId : String)
    (resolver : CredentialResolverInput) : CredentialCacheKeyInput where
  testEnvironmentId := testEnvironmentId
  bindingId := bindingId
  resolver := match resolver with
    | .integrationConnection connectionId secretType slotKey resolverKey =>
      .integrationConnection connectionId secretType slotKey resolverKey
    | .mistleMcpToken organizationId sandboxInstanceId apiKeyId =>
      .mistleMcpToken organizationId sandboxInstanceId apiKeyId
    | .mistleMcpSetupAssistantToken organizationId sandboxInstanceId sandboxProfileId
        sandboxProfileVersion =>
      .mistleMcpSetupAssistantToken organizationId sandboxInstanceId sandboxProfileId
        sandboxProfileVersion
    | .mistleMcpDesignerToken organizationId sandboxInstanceId designerSessionId =>
      .mistleMcpDesignerToken organizationId sandboxInstanceId designerSessionId
    | .platformOpenaiApiKey => .platformOpenaiApiKey
    | .platformLangfuseSecretKey => .platformLangfuseSecretKey
    | .linkedPrincipal organizationId providerFamily integrationConnectionId actingUserRequired
        _ actingUserId credentialKind =>
      .linkedPrincipal organizationId providerFamily integrationConnectionId actingUserRequired
        actingUserId credentialKind

/-- A credential that was resolved for any provider connection is not kept. -/
def shouldUseCredentialCache : CredentialResolverInput → Bool
  | .linkedPrincipal _ _ none _ _ _ _ => false
  | _ => true

inductive CredentialResolverKind where
  | integrationConnection
  | linkedPrincipal
  | mistleMcpToken
  | mistleMcpSetupAssistantToken
  | mistleMcpDesignerToken
  | platformOpenaiApiKey
  | platformLangfuseSecretKey

def CredentialResolverKind.text : CredentialResolverKind → String
  | .integrationConnection => "integration_connection"
  | .linkedPrincipal => "linked_principal"
  | .mistleMcpToken => "mistle_mcp_token"
  | .mistleMcpSetupAssistantToken => "mistle_mcp_setup_assistant_token"
  | .mistleMcpDesignerToken => "mistle_mcp_designer_token"
  | .platformOpenaiApiKey => "platform_openai_api_key"
  | .platformLangfuseSecretKey => "platform_langfuse_secret_key"

namespace CredentialCacheKeyResolver

def credentialResolverKind : CredentialCacheKeyResolver → CredentialResolverKind
  | .integrationConnection .. => .integrationConnection
  | .linkedPrincipal .. => .linkedPrincipal
  | .mistleMcpToken .. => .mistleMcpToken
  | .mistleMcpSetupAssistantToken .. => .mistleMcpSetupAssistantToken
  | .mistleMcpDesignerToken .. => .mistleMcpDesignerToken
  | .platformOpenaiApiKey => .platformOpenaiApiKey
  | .platformLangfuseSecretKey => .platformLangfuseSecretKey

/-- The fields of a shape, in the order in which they stand in the key. -/
def parts : CredentialCacheKeyResolver → List String
  | .integrationConnection connectionId secretType slotKey resolverKey =>
    [connectionId, secretType, slotKey.getD "", resolverKey.getD ""]
  | .mistleMcpToken organizationId sandboxInstanceId apiKeyId =>
    [organizationId, sandboxInstanceId, apiKeyId]
  | .mistleMcpSetupAssistantToken organizationId sandboxInstanceId sandboxProfileId
      sandboxProfileVersion =>
    [organizationId, sandboxInstanceId, sandboxProfileId, toString sandboxProfileVersion]
  | .mistleMcpDesignerToken organizationId sandboxInstanceId designerSessionId =>
    [organizationId, sandboxInstanceId, designerSessionId]
  | .platformOpenaiApiKey => []
  | .platformLangfuseSecretKey => []
  | .linkedPrincipal organizationId providerFamily integrationConnectionId actingUserRequired
      actingUserId credentialKind =>
    [organizationId, providerFamily, integrationConnectionId.getD "", toString actingUserRequired,
      actingUserId.getD "", credentialKind.getD ""]

/-- The fields that a shape may lack. -/
def optionalFields : CredentialCacheKeyResolver → List (Option String)
  | .integrationConnection _ _ slotKey resolverKey => [slotKey, resolverKey]
  | .linkedPrincipal _ _ integrationConnectionId _ actingUserId credentialKind =>
    [integrationConnectionId, actingUserId, credentialKind]
  | _ => []

end CredentialCacheKeyResolver

/-- The parts of a key, in their order. -/
def CredentialCacheKeyInput.parts (input : CredentialCacheKeyInput) : List String :=
  input.testEnvironmentId.getD "" :: input.bindingId ::
    input.resolver.credentialResolverKind.text :: input.resolver.parts

def toCacheKey (input : CredentialCacheKeyInput) : String :=
  "gateway-egress-credential:" ++ String.intercalate ":" input.parts

/-- The fields can be told apart in the key: none but the last has a colon, and a field
    that may be absent is not there and empty. -/
structure CredentialCacheKeyInput.TakesApart (input : CredentialCacheKeyInput) : Prop where
  noColon : ∀ part ∈ input.parts.dropLast, ':' ∉ part.toList
  noEmpty : ∀ field ∈ input.testEnvironmentId :: input.resolver.optionalFields, field ≠ some ""

instance (input : CredentialCacheKeyInput) : Decidable input.TakesApart :=
  decidable_of_iff
    ((∀ part ∈ input.parts.dropLast, ':' ∉ part.toList) ∧
      ∀ field ∈ input.testEnvironmentId :: input.resolver.optionalFields, field ≠ some "")
    ⟨fun h => ⟨h.1, h.2⟩, fun h => ⟨h.1, h.2⟩⟩

/-! ### A key and its fields -/

/-- An absent field and an empty one are written alike, others as they are. -/
theorem getD_empty_inj {a b : Option String} (ha : a ≠ some "") (hb : b ≠ some "")
    (h : a.getD "" = b.getD "") : a = b := by
  cases a with
  | none =>
      cases b with
      | none => rfl
      | some b => exact absurd (congrArg some h.symm) hb
  | some a =>
      cases b with
      | none => exact absurd (congrArg some h) ha
      | some b => exact congrArg some h

theorem kind_text_noColon (kind : CredentialResolverKind) : ':' ∉ kind.text.toList := by
  cases kind <;> decide

theorem kind_text_injective : Function.Injective CredentialResolverKind.text := by
  intro a b h
  cases a <;> cases b <;> first | rfl | exact absurd h (by decide)

theorem toString_bool_injective : Function.Injective (toString : Bool → String) := by
  intro a b h
  cases a <;> cases b <;> first | rfl | exact absurd h (by decide)

/-- What follows the first part of a key. -/
theorem intercalate_parts_inj {a b : String} {as bs : List String} (ha : ':' ∉ a.toList)
    (hb : ':' ∉ b.toList)
    (h : String.intercalate ":" (a :: as) = String.intercalate ":" (b :: bs)) :
    a = b ∧ String.intercalate ":" as = String.intercalate ":" bs := by
  have hlist := congrArg String.toList h
  rw [String.toList_intercalate, String.toList_intercalate, List.map_cons, List.map_cons] at hlist
  rcases intercalate_cons_inj ha hb hlist with ⟨hfirst, _, hrest⟩
  refine ⟨String.toList_inj.mp hfirst, String.toList_inj.mp ?_⟩
  rw [String.toList_intercalate, String.toList_intercalate]
  exact hrest

/-- Fields of the same number that are put together alike are the same. -/
theorem parts_inj : ∀ {as bs : List String}, as.length = bs.length →
    (∀ part ∈ as.dropLast, ':' ∉ part.toList) → (∀ part ∈ bs.dropLast, ':' ∉ part.toList) →
    String.intercalate ":" as = String.intercalate ":" bs → as = bs
  | [], [], _, _, _, _ => rfl
  | [], _ :: _, hlen, _, _, _ => by simp only [List.length_nil, List.length_cons] at hlen; omega
  | _ :: _, [], hlen, _, _, _ => by simp only [List.length_nil, List.length_cons] at hlen; omega
  | [a], [b], _, _, _, h => by
      rw [String.intercalate_singleton, String.intercalate_singleton] at h
      rw [h]
  | [_], _ :: _ :: _, hlen, _, _, _ => by
      simp only [List.length_nil, List.length_cons] at hlen
      omega
  | _ :: _ :: _, [_], hlen, _, _, _ => by
      simp only [List.length_nil, List.length_cons] at hlen
      omega
  | a :: a' :: as, b :: b' :: bs, hlen, ha, hb, h => by
      rw [List.dropLast_cons_cons] at ha hb
      have hfirst := intercalate_parts_inj (ha a (List.mem_cons_self ..))
        (hb b (List.mem_cons_self ..)) h
      have hlen' : (a' :: as).length = (b' :: bs).length := by
        simp only [List.length_cons] at hlen ⊢
        omega
      rw [hfirst.1, parts_inj hlen' (fun part hpart => ha part (List.mem_cons_of_mem _ hpart))
        (fun part hpart => hb part (List.mem_cons_of_mem _ hpart)) hfirst.2]

/-- Shapes of one kind with the same parts are the same. -/
theorem resolver_of_parts {r r' : CredentialCacheKeyResolver}
    (hr : ∀ field ∈ r.optionalFields, field ≠ some "")
    (hr' : ∀ field ∈ r'.optionalFields, field ≠ some "")
    (hkind : r.credentialResolverKind = r'.credentialResolverKind) (hparts : r.parts = r'.parts) :
    r = r' := by
  -- Two different kinds are never the same; what is left is a shape against itself.
  cases r <;> cases r' <;>
    simp only [CredentialCacheKeyResolver.credentialResolverKind, reduceCtorEq] at hkind
  case integrationConnection.integrationConnection =>
    simp only [CredentialCacheKeyResolver.optionalFields, List.forall_mem_cons] at hr hr'
    simp only [CredentialCacheKeyResolver.parts, List.cons.injEq, and_true] at hparts
    rcases hparts with ⟨hconnection, hsecret, hslot, hresolver⟩
    rw [hconnection, hsecret, getD_empty_inj hr.1 hr'.1 hslot,
      getD_empty_inj hr.2.1 hr'.2.1 hresolver]
  case linkedPrincipal.linkedPrincipal =>
    simp only [CredentialCacheKeyResolver.optionalFields, List.forall_mem_cons] at hr hr'
    simp only [CredentialCacheKeyResolver.parts, List.cons.injEq, and_true] at hparts
    rcases hparts with ⟨horganization, hfamily, hconnection, hrequired, huser, hcredential⟩
    rw [horganization, hfamily, getD_empty_inj hr.1 hr'.1 hconnection,
      toString_bool_injective hrequired, getD_empty_inj hr.2.1 hr'.2.1 huser, getD_empty_inj hr.2.2.1 hr'.2.2.1 hcredential]
  case mistleMcpToken.mistleMcpToken =>
    simp only [CredentialCacheKeyResolver.parts, List.cons.injEq, and_true] at hparts
    rw [hparts.1, hparts.2.1, hparts.2.2]
  case mistleMcpSetupAssistantToken.mistleMcpSetupAssistantToken =>
    simp only [CredentialCacheKeyResolver.parts, List.cons.injEq, and_true] at hparts
    rw [hparts.1, hparts.2.1, hparts.2.2.1, Nat.repr_injective hparts.2.2.2]
  case mistleMcpDesignerToken.mistleMcpDesignerToken =>
    simp only [CredentialCacheKeyResolver.parts, List.cons.injEq, and_true] at hparts
    rw [hparts.1, hparts.2.1, hparts.2.2]
  case platformOpenaiApiKey.platformOpenaiApiKey => rfl
  case platformLangfuseSecretKey.platformLangfuseSecretKey => rfl

/-- Shapes of one kind have as many parts. -/
theorem parts_length {r r' : CredentialCacheKeyResolver}
    (hkind : r.credentialResolverKind = r'.credentialResolverKind) :
    r.parts.length = r'.parts.length := by
  cases r <;> cases r' <;>
    simp only [CredentialCacheKeyResolver.credentialResolverKind, reduceCtorEq] at hkind <;> rfl

theorem CredentialCacheKeyInput.TakesApart.first {input : CredentialCacheKeyInput}
    (h : input.TakesApart) : ':' ∉ (input.testEnvironmentId.getD "").toList ∧
      ':' ∉ input.bindingId.toList := by
  have hparts := h.noColon
  rw [CredentialCacheKeyInput.parts, List.dropLast_cons_cons, List.dropLast_cons_cons] at hparts
  exact ⟨hparts _ (List.mem_cons_self ..),
    hparts _ (List.mem_cons_of_mem _ (List.mem_cons_self ..))⟩

theorem parts_of_cacheKey {input input' : CredentialCacheKeyInput}
    (hkey : toCacheKey input = toCacheKey input') :
    String.intercalate ":" input.parts = String.intercalate ":" input'.parts :=
  (String.append_right_inj _).mp hkey

/-- A key determines what it was made from. -/
theorem toCacheKey_injective {input input' : CredentialCacheKeyInput} (h : input.TakesApart)
    (h' : input'.TakesApart) (hkey : toCacheKey input = toCacheKey input') : input = input' := by
  have hjoined := parts_of_cacheKey hkey
  -- The test environment and the binding come off first, and then the kind.
  have henvironment := intercalate_parts_inj h.first.1 h'.first.1 hjoined
  have hbinding := intercalate_parts_inj h.first.2 h'.first.2 henvironment.2
  have hkinds := intercalate_parts_inj (kind_text_noColon _) (kind_text_noColon _) hbinding.2
  have hkind := kind_text_injective hkinds.1
  have hparts : input.parts = input'.parts := by
    refine parts_inj ?_ h.noColon h'.noColon hjoined
    simp only [CredentialCacheKeyInput.parts, List.length_cons, parts_length hkind]
  simp only [CredentialCacheKeyInput.parts, List.cons.injEq] at hparts
  have hresolver := resolver_of_parts
    (fun field hfield => h.noEmpty field (List.mem_cons_of_mem _ hfield))
    (fun field hfield => h'.noEmpty field (List.mem_cons_of_mem _ hfield)) hkind hparts.2.2.2
  cases input with
  | mk testEnvironmentId bindingId resolver =>
      cases input' with
      | mk testEnvironmentId' bindingId' resolver' =>
          have htest := getD_empty_inj (h.noEmpty _ (List.mem_cons_self ..))
            (h'.noEmpty _ (List.mem_cons_self ..)) henvironment.1
          simp only at htest hbinding hresolver
          rw [htest, hbinding.1, hresolver]

/-! ### What is sent on a miss -/

/-- The claims of a token that the gateway mints itself. -/
inductive McpTokenClaims where
  | apiKey (sub organizationId apiKeyId : String)
  | setupAssistant (sub organizationId sandboxProfileId : String) (sandboxProfileVersion : Nat)
  | designer (sub organizationId designerSessionId : String)
  deriving DecidableEq

def mistleMcpTokenTtlSeconds : Nat := 300

/-- What a credential is asked for with. A platform credential is read from the
    gateway's configuration. -/
inductive ResolverCall where
  | resolveIntegrationCredential (testEnvironmentId : Option String)
      (bindingId connectionId secretType : String) (slotKey resolverKey : Option String)
  | mintMcpToken (claims : McpTokenClaims) (ttlSeconds : Nat)
  | platformOpenaiApiKey
  | platformLangfuseSecretKey
  | resolveIdentityLinkPrincipalCredential (testEnvironmentId : Option String)
      (organizationId actingUserId providerFamily : String)
      (integrationConnectionId credentialKind : Option String)
  deriving DecidableEq

/-- What `resolveCredentialWithCache` asks for where the cache has nothing. -/
def resolverCall (testEnvironmentId : Option String) (bindingId : String) :
    CredentialResolverInput → Except GatewayManagedEgressUnsupportedRouteError ResolverCall
  | .integrationConnection connectionId secretType slotKey resolverKey =>
    .ok (.resolveIntegrationCredential testEnvironmentId bindingId connectionId secretType slotKey
      resolverKey)
  | .mistleMcpToken organizationId sandboxInstanceId apiKeyId =>
    .ok (.mintMcpToken (.apiKey sandboxInstanceId organizationId apiKeyId)
      mistleMcpTokenTtlSeconds)
  | .mistleMcpSetupAssistantToken organizationId sandboxInstanceId sandboxProfileId
      sandboxProfileVersion =>
    .ok (.mintMcpToken (.setupAssistant sandboxInstanceId organizationId sandboxProfileId
      sandboxProfileVersion) mistleMcpTokenTtlSeconds)
  | .mistleMcpDesignerToken organizationId sandboxInstanceId designerSessionId =>
    .ok (.mintMcpToken (.designer sandboxInstanceId organizationId designerSessionId)
      mistleMcpTokenTtlSeconds)
  | .platformOpenaiApiKey => .ok .platformOpenaiApiKey
  | .platformLangfuseSecretKey => .ok .platformLangfuseSecretKey
  | .linkedPrincipal organizationId providerFamily integrationConnectionId _ _ actingUserId
      credentialKind =>
    match actingUserId with
    | none => .error missingActingUserId
    | some actingUserId =>
      .ok (.resolveIdentityLinkPrincipalCredential testEnvironmentId organizationId actingUserId
        providerFamily integrationConnectionId credentialKind)

/-- The same input in another resolution mode. -/
def CredentialResolverInput.withResolutionMode (mode : CredentialResolutionMode) :
    CredentialResolverInput → CredentialResolverInput
  | .linkedPrincipal organizationId providerFamily integrationConnectionId actingUserRequired _
      actingUserId credentialKind =>
    .linkedPrincipal organizationId providerFamily integrationConnectionId actingUserRequired mode
      actingUserId credentialKind
  | input => input

/-- The key input has every field of a resolver input but its mode. -/
theorem input_of_createCredentialCacheKey {testEnvironmentId testEnvironmentId' : Option String}
    {bindingId bindingId' : String} {input input' : CredentialResolverInput}
    (h : createCredentialCacheKey testEnvironmentId bindingId input =
      createCredentialCacheKey testEnvironmentId' bindingId' input') :
    testEnvironmentId = testEnvironmentId' ∧ bindingId = bindingId' ∧
      ∃ mode, input' = input.withResolutionMode mode := by
  simp only [createCredentialCacheKey, CredentialCacheKeyInput.mk.injEq] at h
  rcases h with ⟨henvironment, hbinding, hresolver⟩
  refine ⟨henvironment, hbinding, ?_⟩
  cases input <;> cases input' <;> simp only [reduceCtorEq] at hresolver
  case linkedPrincipal.linkedPrincipal mode' _ _ =>
    rw [CredentialCacheKeyResolver.linkedPrincipal.injEq] at hresolver
    rcases hresolver with ⟨horganization, hfamily, hconnection, hrequired, huser, hkind⟩
    refine ⟨mode', ?_⟩
    rw [CredentialResolverInput.withResolutionMode, horganization, hfamily, hconnection, hrequired,
      huser, hkind]
  case platformOpenaiApiKey.platformOpenaiApiKey => exact ⟨.required, rfl⟩
  case platformLangfuseSecretKey.platformLangfuseSecretKey => exact ⟨.required, rfl⟩
  all_goals
    injection hresolver
    refine ⟨.required, ?_⟩
    simp only [CredentialResolverInput.withResolutionMode, *]

/-- The mode is not sent. -/
theorem resolverCall_withResolutionMode (testEnvironmentId : Option String) (bindingId : String)
    (input : CredentialResolverInput) (mode : CredentialResolutionMode) :
    resolverCall testEnvironmentId bindingId (input.withResolutionMode mode) =
      resolverCall testEnvironmentId bindingId input := by
  cases input <;> rfl

/-! ### Requests on one cache -/

/-- A managed egress request, as far as it asks for a credential. -/
structure CredentialRequest where
  testEnvironmentId : Option String
  bindingId : String
  organizationId : String
  sandboxInstanceId : String
  actingUserId : Option String
  credentialResolver : CredentialResolverRef
  deriving DecidableEq

namespace CredentialRequest

def resolver (request : CredentialRequest) :
    Except GatewayManagedEgressUnsupportedRouteError CredentialResolverInput :=
  toCredentialResolverInputFromRef request.organizationId request.sandboxInstanceId
    request.actingUserId request.credentialResolver

/-- The fields of the key of a request that is resolved by `input`. -/
def keyInput (request : CredentialRequest) (input : CredentialResolverInput) :
    CredentialCacheKeyInput :=
  createCredentialCacheKey request.testEnvironmentId request.bindingId input

def cacheKey (request : CredentialRequest) (input : CredentialResolverInput) : String :=
  toCacheKey (request.keyInput input)

def call (request : CredentialRequest) (input : CredentialResolverInput) :
    Except GatewayManagedEgressUnsupportedRouteError ResolverCall :=
  resolverCall request.testEnvironmentId request.bindingId input

/-- Two requests are resolved by the same input, but for its mode, and send the same. -/
structure SameResolver (request request' : CredentialRequest)
    (input input' : CredentialResolverInput) : Prop where
  upToMode : ∃ mode, input' = input.withResolutionMode mode
  sends : request.call input = request'.call input'

end CredentialRequest

/-- Requests with the same key send the same to the resolver. -/
theorem resolver_of_cacheKey {request request' : CredentialRequest}
    {input input' : CredentialResolverInput} (h : (request.keyInput input).TakesApart)
    (h' : (request'.keyInput input').TakesApart)
    (hkey : request.cacheKey input = request'.cacheKey input') :
    request.SameResolver request' input input' := by
  rcases input_of_createCredentialCacheKey (toCacheKey_injective h h' hkey) with
    ⟨henvironment, hbinding, mode, hmode⟩
  refine ⟨⟨mode, hmode⟩, ?_⟩
  rw [CredentialRequest.call, CredentialRequest.call, hmode, resolverCall_withResolutionMode,
    henvironment, hbinding]

section

variable {γ : Type}

/-- What happens on the cache: a request looks, a request has its answer and keeps it,
    an entry goes. -/
inductive CredentialStep (γ : Type) where
  | lookUp (request : CredentialRequest)
  | resolved (request : CredentialRequest) (credential : γ)
  | removed (key : String)

/-- A request and the credential that it gets. -/
structure CredentialReturned (γ : Type) where
  request : CredentialRequest
  credential : γ

/-- A step of `resolveCredentialWithCache` on the entries of the cache. -/
def credentialStep (entries : String → Option γ) :
    CredentialStep γ → Option ((String → Option γ) × List (CredentialReturned γ))
  | .lookUp request =>
    match request.resolver with
    | .error _ => none
    | .ok input =>
      if shouldUseCredentialCache input then
        some (entries,
          ((entries (request.cacheKey input)).map (CredentialReturned.mk request)).toList)
      else some (entries, [])
  | .resolved request credential =>
    match request.resolver with
    | .error _ => none
    | .ok input =>
      some (if shouldUseCredentialCache input then
          Function.update entries (request.cacheKey input) (some credential)
        else entries, [⟨request, credential⟩])
  | .removed key => some (Function.update entries key none, [])

abbrev CredentialTrace (γ : Type) := List (Entry (CredentialStep γ) (CredentialReturned γ))

abbrev CredentialRuns (trace : CredentialTrace γ)
    (entries : String → Option γ) : Prop :=
  Run (fun s i out t => credentialStep s i = some (t, out)) (fun _ => none) trace entries

/-- In a trace, a credential was resolved for a request. -/
def ResolvedFor (trace : CredentialTrace γ) (request : CredentialRequest) (credential : γ) :
    Prop :=
  ∃ out, ⟨.resolved request credential, out⟩ ∈ trace

/-- The same for a request with a key. -/
def ResolvedUnder (trace : CredentialTrace γ) (key : String) (credential : γ) : Prop :=
  ∃ request input, ResolvedFor trace request credential ∧ request.resolver = .ok input ∧
    request.cacheKey input = key

/-- What is in the cache was resolved under the key that it is kept under. -/
theorem cached_credential_resolved {trace : CredentialTrace γ} {entries : String → Option γ}
    (run : CredentialRuns trace entries) :
    ∀ key credential, entries key = some credential → ResolvedUnder trace key credential := by
  refine run.history
    (P := fun trace entries => ∀ key credential, entries key = some credential →
      ResolvedUnder trace key credential) ?_ ?_
  · intro key credential h
    exact absurd h (by simp only [reduceCtorEq, not_false_eq_true])
  · intro trace entries step out entries' _ ih hstep key credential hentry
    have hbefore : entries key = some credential →
        ResolvedUnder (trace ++ [⟨step, out⟩]) key credential := by
      intro hold
      rcases ih key credential hold with ⟨request, input, ⟨out', hmem⟩, hresolver, hkey⟩
      exact ⟨request, input, ⟨out', List.mem_append_left _ hmem⟩, hresolver, hkey⟩
    cases step with
    | lookUp request =>
        rw [credentialStep] at hstep
        split at hstep
        · exact absurd hstep (by simp only [reduceCtorEq, not_false_eq_true])
        · split at hstep
          all_goals
            rw [Option.some.injEq, Prod.mk.injEq] at hstep
            rw [← hstep.1] at hentry
            exact hbefore hentry
    | resolved request resolved =>
        rw [credentialStep] at hstep
        split at hstep
        · exact absurd hstep (by simp only [reduceCtorEq, not_false_eq_true])
        · rename_i input hresolver
          rw [Option.some.injEq, Prod.mk.injEq] at hstep
          rw [← hstep.1] at hentry
          by_cases huse : shouldUseCredentialCache input = true
          · rw [if_pos huse] at hentry
            by_cases hkey : key = request.cacheKey input
            · rw [hkey, Function.update_self, Option.some.injEq] at hentry
              rw [← hentry]
              exact ⟨request, input, ⟨out, List.mem_append_right _ (List.mem_singleton_self _)⟩,
                hresolver, hkey.symm⟩
            · rw [Function.update_of_ne hkey] at hentry
              exact hbefore hentry
          · rw [if_neg huse] at hentry
            exact hbefore hentry
    | removed removed =>
        rw [credentialStep, Option.some.injEq, Prod.mk.injEq] at hstep
        rw [← hstep.1] at hentry
        by_cases hkey : key = removed
        · rw [hkey, Function.update_self] at hentry
          exact absurd hentry (by simp only [reduceCtorEq, not_false_eq_true])
        · rw [Function.update_of_ne hkey] at hentry
          exact hbefore hentry

/-- A request that fits its key: its fields can be told apart in it. -/
def CredentialRequest.TakesApart (request : CredentialRequest) : Prop :=
  ∀ input, request.resolver = .ok input → (request.keyInput input).TakesApart

end

/-- Two requests for one connection: a slot with a colon in its name, and a slot with a
    resolver that is named like the rest of it. -/
def slotRequest (slotKey : String) (resolverKey : Option String) : CredentialRequest where
  testEnvironmentId := none
  bindingId := "bind_1"
  organizationId := "org_1"
  sandboxInstanceId := "sbi_1"
  actingUserId := none
  credentialResolver := .integrationConnection "icn_1" "api_key" (some slotKey) resolverKey

/-- A linked principal of user 1. -/
def principalRequest (mode : CredentialResolutionMode) : CredentialRequest where
  testEnvironmentId := none
  bindingId := "bind_1"
  organizationId := "org_1"
  sandboxInstanceId := "sbi_1"
  actingUserId := some "usr_1"
  credentialResolver := .linkedPrincipal "github" (some "icn_1") true mode none

theorem slotRequest_takesApart : (slotRequest "aws" (some "default")).TakesApart := by
  intro input hinput
  rw [CredentialRequest.resolver, slotRequest, toCredentialResolverInputFromRef,
    Except.ok.injEq] at hinput
  rw [← hinput]
  decide

/-- A request resolves its credential, and reads it back when it comes again. -/
def readBackTrace : CredentialTrace String :=
  [⟨.resolved (slotRequest "aws" (some "default")) "secret",
      [⟨slotRequest "aws" (some "default"), "secret"⟩]⟩,
    ⟨.lookUp (slotRequest "aws" (some "default")),
      [⟨slotRequest "aws" (some "default"), "secret"⟩]⟩]

end Mistle
