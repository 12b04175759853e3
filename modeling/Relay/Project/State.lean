import Relay.Quotas.Quota

/-!
# Project states

`ProjectState` is the cached configuration of one project key, as fetched from upstream:
its identifiers, whether it is disabled or could not be parsed, its public key and its
quotas.  This file models the methods of `ProjectState` in `actors/project.rs` that the
project actor uses: the freshness classification `check_expiry`, the request checks
`check_request` and `check_disabled`, and `scope_request`.
-/

namespace Relay

/-- `ProjectConfig`, with the fields the modelled code reads. -/
structure ProjectConfig where
  allowedDomains : List String
  quotas : List Quota
  deriving DecidableEq

/-- `ProjectConfig::default()` -/
def ProjectConfig.default : ProjectConfig := ⟨["*"], []⟩

/-- `PublicKeyConfig` -/
structure PublicKeyConfig where
  publicKey : ProjectKey
  numericId : Option Nat
  deriving DecidableEq

/-- `ProjectState`, with the fields the modelled code reads. -/
structure ProjectState where
  projectId : Option ProjectId
  disabled : Bool
  publicKeys : List PublicKeyConfig
  config : ProjectConfig
  organizationId : Option Nat
  lastFetch : Instant
  invalid : Bool
  deriving DecidableEq

/-- `Expiry`: how outdated a project state is. -/
inductive Expiry
  | updated
  | stale
  | expired
  deriving DecidableEq

namespace ProjectState

/-- `ProjectState::missing()`, created at `now`. -/
def missing (now : Instant) : ProjectState where
  projectId := none
  disabled := true
  publicKeys := []
  config := ProjectConfig.default
  organizationId := none
  lastFetch := now
  invalid := false

/-- `ProjectState::allowed()` -/
def allowed (now : Instant) : ProjectState := { missing now with disabled := false }

/-- `ProjectState::err()` -/
def err (now : Instant) : ProjectState := { missing now with invalid := true }

/-- `get_public_key_config` -/
def getPublicKeyConfig (state : ProjectState) : Option PublicKeyConfig :=
  state.publicKeys.head?

/-- `check_expiry`: compares the time since the last fetch with the expiry and the grace
period; states without a project id use the cache-miss expiry. -/
def checkExpiry (state : ProjectState) (config : Config) (now : Instant) : Expiry :=
  let expiry := match state.projectId with
    | none => config.cacheMissExpiry
    | some _ => config.projectCacheExpiry
  let elapsed := now - state.lastFetch
  if expiry + config.projectGracePeriod ≤ elapsed then .expired
  else if expiry ≤ elapsed then .stale
  else .updated

/-- `is_valid_project_id` -/
def isValidProjectId (state : ProjectState) (statedId : Option ProjectId)
    (config : Config) : Bool :=
  match state.projectId, statedId, config.overrideProjectIds with
  | some actualId, some statedId, false => actualId == statedId
  | _, _, _ => true

/-- `is_valid_origin`, given `relay_filter::matches_any_origin`. -/
def isValidOrigin (matchesAnyOrigin : String → List String → Bool) (state : ProjectState)
    (origin : Option String) : Bool :=
  match origin with
  | none => true
  | some origin =>
    if state.config.allowedDomains.isEmpty then false
    else matchesAnyOrigin origin state.config.allowedDomains

/-- `is_matching_key` -/
def isMatchingKey (state : ProjectState) (projectKey : ProjectKey) : Bool :=
  match state.getPublicKeyConfig with
  | some keyConfig => keyConfig.publicKey == projectKey
  | none => state.projectId.isNone

/-- `scope_request`: amends the request's partial scoping with the key, project and
organization known to this state. -/
def scopeRequest (state : ProjectState) (meta : RequestMeta) : Scoping :=
  { meta.partialScoping with
    keyId := state.getPublicKeyConfig.bind (·.numericId)
    projectId := state.projectId.getD meta.partialScoping.projectId
    organizationId := state.organizationId.getD 0 }

/-- `get_quotas` -/
def getQuotas (state : ProjectState) : List Quota := state.config.quotas

/-- `check_disabled`: an expired state lets everything through. -/
def checkDisabled (state : ProjectState) (config : Config) (now : Instant) :
    Except DiscardReason Unit :=
  if state.checkExpiry config now = .expired then .ok ()
  else if state.invalid then .error .projectState
  else if state.disabled then .error .projectId
  else .ok ()

/-- `check_request`: project id, origin, public key and disabled checks, in that order. -/
def checkRequest (matchesAnyOrigin : String → List String → Bool) (state : ProjectState)
    (meta : RequestMeta) (config : Config) (now : Instant) : Except DiscardReason Unit :=
  if !state.isValidProjectId meta.projectId config then .error .projectId
  else if !state.isValidOrigin matchesAnyOrigin meta.origin then .error .cors
  else if !state.isMatchingKey meta.publicKey then .error .projectId
  else state.checkDisabled config now

/-- `sanitize`: drops the quotas that are neither hard rejects nor trackable. -/
def sanitize (state : ProjectState) : ProjectState :=
  { state with config := { state.config with quotas := state.config.quotas.filter Quota.isValid } }

end ProjectState

end Relay
