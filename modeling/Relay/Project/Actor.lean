import Relay.Project.State

/-!
# The project actor

`Project` holds the latest state of one project key, the broadcast channel of the fetch in
flight, and the envelopes that wait for a usable state.  Each method of `Project` in
`actors/project.rs` is modelled as a function of the project and the current instant that
returns the updated project and the messages the method sends, in the order it sends
them: requests to the project cache, states to waiting senders, envelopes to the
processor, buckets to the aggregator, and outcomes.

The code that `Project` calls in other crates (origin matching, the envelope limiter,
the sampling key of an envelope, the metrics limiter) is taken as the parameter
`Collaborators`, so that every result here holds whatever that code does.
-/

namespace Relay

/-- A `ProjectSender`: the receiving end of one `get_state` request. -/
structure ProjectSender where
  id : Nat
  deriving DecidableEq

/-- `ProcessEnvelope`: a checked envelope on its way to the processor. -/
structure ProcessEnvelope where
  envelope : Envelope
  envelopeContext : EnvelopeContext
  projectState : ProjectState
  samplingProjectState : Option ProjectState
  deriving DecidableEq

/-- `CheckedEnvelope`: what `check_envelope` lets through, with the rate limits it found. -/
structure CheckedEnvelope where
  envelope : Option (Envelope × EnvelopeContext)
  rateLimits : RateLimits
  deriving DecidableEq

/-- A message sent by the project actor. -/
inductive Effect
  /-- `RequestUpdate::new(project_key, no_cache)` to the project cache. -/
  | requestUpdate (projectKey : ProjectKey) (noCache : Bool)
  /-- `sender.send(state)`, directly or through the state channel. -/
  | sendState (sender : ProjectSender) (state : ProjectState)
  /-- `ProcessEnvelope` to the envelope processor. -/
  | processEnvelope (message : ProcessEnvelope)
  /-- `AddSamplingState::new(sampling_key, message)` to the project cache. -/
  | addSamplingState (samplingKey : ProjectKey) (message : ProcessEnvelope)
  /-- `envelope_context.reject(outcome)` -/
  | reject (context : EnvelopeContext) (outcome : Outcome)
  /-- An outcome of `enforcement.track_outcomes`. -/
  | trackOutcome (scoping : Scoping) (outcome : Outcome)
  /-- `MergeBuckets::new(project_key, buckets)` to the aggregator. -/
  | mergeBuckets (projectKey : ProjectKey) (buckets : List Bucket)
  /-- `SendMetrics` to the envelope manager. -/
  | sendMetrics (buckets : List Bucket) (scoping : Scoping) (partitionKey : Option Nat)
  /-- `RateLimitFlushBuckets` to the processor, with the limiter's buckets. -/
  | rateLimitFlushBuckets (buckets : List Bucket) (partitionKey : Option Nat)
  deriving DecidableEq

/-- The code of other crates that `Project` calls, with the signature its call gives it. -/
structure Collaborators where
  /-- `relay_filter::matches_any_origin` -/
  matchesAnyOrigin : String → List String → Bool
  /-- `EnvelopeLimiter::new(config, check).enforce(envelope, scoping)` where `check` reads
  the given rate limits against the given quotas: the items kept, the outcomes tracked
  for the dropped ones, and the rate limits found. -/
  enforce : Option ProjectConfig → List Quota → RateLimits → Envelope → Scoping →
    List Item × List Outcome × RateLimits
  /-- `utils::get_sampling_key` -/
  samplingKey : Envelope → Option ProjectKey
  /-- `MetricsLimiter::create(buckets, quotas, scoping)` and `enforce_limits` against the
  cached rate limits: `none` when `create` hands the buckets back, otherwise whether they
  were rate limited and the buckets kept. -/
  limitMetrics : List Bucket → List Quota → Scoping → RateLimits → Option (Bool × List Bucket)
  /-- Whether the crate is built with the `processing` feature. -/
  processingFeature : Bool

/-- `StateChannel`: the broadcast channel of a fetch in flight, with its attached senders. -/
structure StateChannel where
  senders : List ProjectSender
  noCache : Bool
  deriving DecidableEq

/-- `StateChannel::new()` -/
def StateChannel.new : StateChannel := ⟨[], false⟩

/-- `channel.inner.attach(sender)` -/
def StateChannel.attach (channel : StateChannel) (sender : ProjectSender) : StateChannel :=
  { channel with senders := channel.senders ++ [sender] }

/-- `ExpiryState`: the held state, if it has not expired. -/
inductive ExpiryState
  | updated (state : ProjectState)
  | stale (state : ProjectState)
  | expired

/-- `GetOrFetch`: a usable state, or the channel of the fetch that will deliver one. -/
inductive GetOrFetch
  | cached (state : ProjectState)
  | scheduled (channel : StateChannel)

/-- `Project`, with every field its methods read. -/
structure Project where
  lastUpdatedAt : Instant
  projectKey : ProjectKey
  config : Config
  state : Option ProjectState
  stateChannel : Option StateChannel
  pendingValidations : List (Envelope × EnvelopeContext)
  pendingSampling : List ProcessEnvelope
  rateLimits : RateLimits
  lastNoCache : Instant

namespace Project

variable (ext : Collaborators)

/-- `Project::new`, at the instant `now`. -/
def new (key : ProjectKey) (config : Config) (now : Instant) : Project where
  lastUpdatedAt := now
  projectKey := key
  config := config
  state := none
  stateChannel := none
  pendingValidations := []
  pendingSampling := []
  rateLimits := RateLimits.new
  lastNoCache := now

/-- `expiry_state` -/
def expiryState (p : Project) (now : Instant) : ExpiryState :=
  match p.state with
  | some state =>
    match state.checkExpiry p.config now with
    | .updated => .updated state
    | .stale => .stale state
    | .expired => .expired
  | none => .expired

/-- `valid_state` -/
def validState (p : Project) (now : Instant) : Option ProjectState :=
  match p.expiryState now with
  | .updated state => some state
  | .stale state => some state
  | .expired => none

/-- `merge_rate_limits` -/
def mergeRateLimits (p : Project) (rateLimits : RateLimits) : Project :=
  { p with rateLimits := p.rateLimits.merge rateLimits }

/-- `fetch_state`: opens the state channel or upgrades it to `no_cache`, sending a
request to the project cache unless the fetch in flight already covers this one. -/
def fetchState (p : Project) (noCache : Bool) : Project × StateChannel × List Effect :=
  let shouldFetch := !(match p.stateChannel with
    | some channel => channel.noCache || !noCache
    | none => false)
  let channel := p.stateChannel.getD StateChannel.new
  if shouldFetch then
    let channel := { channel with noCache := noCache }
    ({ p with stateChannel := some channel }, channel, [.requestUpdate p.projectKey noCache])
  else ({ p with stateChannel := some channel }, channel, [])

/-- The first block of `get_or_fetch_state`: at most one `no_cache` request per second;
a later one within the second is downgraded. -/
def throttleNoCache (p : Project) (noCache : Bool) (now : Instant) : Project × Bool :=
  if noCache then
    if now - p.lastNoCache < Duration.fromSecs 1 then (p, false)
    else ({ p with lastNoCache := now }, true)
  else (p, false)

/-- `get_or_fetch_state` -/
def getOrFetchState (p : Project) (noCache : Bool) (now : Instant) :
    Project × GetOrFetch × List Effect :=
  let (p, noCache) := p.throttleNoCache noCache now
  match noCache, p.expiryState now with
  | false, .updated state => (p, .cached state, [])
  | false, .stale state =>
    let (p, _, effects) := p.fetchState false
    (p, .cached state, effects)
  | _, _ =>
    let (p, channel, effects) := p.fetchState noCache
    (p, .scheduled channel, effects)

/-- `get_cached_state` -/
def getCachedState (p : Project) (noCache : Bool) (now : Instant) :
    Project × Option ProjectState × List Effect :=
  match p.getOrFetchState noCache now with
  | (p, .cached state, effects) => (p, some state, effects)
  | (p, .scheduled _, effects) => (p, none, effects)

/-- `get_state`: a usable state goes to the sender at once; otherwise the sender is
attached to the channel of the fetch. -/
def getState (p : Project) (sender : ProjectSender) (noCache : Bool) (now : Instant) :
    Project × List Effect :=
  match p.getOrFetchState noCache now with
  | (p, .cached state, effects) => (p, effects ++ [.sendState sender state])
  | (p, .scheduled channel, effects) =>
    ({ p with stateChannel := some (channel.attach sender) }, effects)

/-- `prefetch` -/
def prefetch (p : Project) (noCache : Bool) (now : Instant) : Project × List Effect :=
  let (p, _, effects) := p.getCachedState noCache now
  (p, effects)

/-- The part of `check_envelope` after the request checks: cleans the cached rate limits,
runs the envelope limiter with the state's config and quotas, and rejects an envelope
left without items. -/
def limitEnvelope (p : Project) (state : Option ProjectState) (envelope : Envelope)
    (context : EnvelopeContext) (scoping : Scoping) (now : Instant) :
    Project × Except DiscardReason CheckedEnvelope × List Effect :=
  let p := { p with rateLimits := p.rateLimits.cleanExpired now }
  let config := state.map (·.config)
  let quotas := (state.map (·.getQuotas)).getD []
  let (items, outcomes, rateLimits) := ext.enforce config quotas p.rateLimits envelope scoping
  let envelope := { envelope with items }
  let context := context.update envelope
  let tracked := outcomes.map (Effect.trackOutcome scoping)
  if envelope.items.isEmpty then
    (p, .ok ⟨none, rateLimits⟩, tracked ++ [.reject context (.rateLimited none)])
  else (p, .ok ⟨some (envelope, context), rateLimits⟩, tracked)

/-- `check_envelope`: validates the envelope against the valid state, if any, and
applies rate limits. -/
def checkEnvelope (p : Project) (envelope : Envelope) (context : EnvelopeContext)
    (now : Instant) : Project × Except DiscardReason CheckedEnvelope × List Effect :=
  match p.validState now with
  | some state =>
    let scoping := state.scopeRequest envelope.meta
    let context := context.scope scoping
    match state.checkRequest ext.matchesAnyOrigin envelope.meta p.config now with
    | .error reason => (p, .error reason, [.reject context (.invalid reason)])
    | .ok () => p.limitEnvelope ext (some state) envelope context scoping now
  | none => p.limitEnvelope ext none envelope context context.scoping now

/-- Where `flush_validation` sends a checked envelope: to the processor, with the own
state as sampling state when the envelope samples by this project's key, or to the
project cache to add another project's sampling state. -/
def routeChecked (process : ProcessEnvelope) : Effect :=
  match ext.samplingKey process.envelope with
  | some samplingKey =>
    if some samplingKey = process.projectState.getPublicKeyConfig.map (·.publicKey) then
      .processEnvelope { process with samplingProjectState := some process.projectState }
    else .addSamplingState samplingKey process
  | none => .processEnvelope process

/-- `flush_validation` -/
def flushValidation (p : Project) (envelope : Envelope) (context : EnvelopeContext)
    (projectState : ProjectState) (now : Instant) : Project × List Effect :=
  match p.checkEnvelope ext envelope context now with
  | (p, .ok ⟨some (envelope, context), _⟩, effects) =>
    (p, effects ++ [routeChecked ext ⟨envelope, context, projectState, none⟩])
  | (p, _, effects) => (p, effects)

/-- `enqueue_validation` -/
def enqueueValidation (p : Project) (envelope : Envelope) (context : EnvelopeContext)
    (now : Instant) : Project × List Effect :=
  match p.getCachedState envelope.meta.noCache now with
  | (p, some state, effects) =>
    let (p, flushed) := p.flushValidation ext envelope context state now
    (p, effects ++ flushed)
  | (p, none, effects) =>
    ({ p with pendingValidations := p.pendingValidations ++ [(envelope, context)] }, effects)

/-- `flush_sampling`: attaches the valid state as sampling state unless it belongs to
another organization. -/
def flushSampling (p : Project) (message : ProcessEnvelope) (now : Instant) : Effect :=
  match p.validState now with
  | some state =>
    if state.organizationId = message.projectState.organizationId then
      .processEnvelope { message with samplingProjectState := some state }
    else .processEnvelope message
  | none => .processEnvelope message

/-- `enqueue_sampling` -/
def enqueueSampling (p : Project) (message : ProcessEnvelope) (now : Instant) :
    Project × List Effect :=
  match p.getCachedState message.envelope.meta.noCache now with
  | (p, some _, effects) => (p, effects ++ [p.flushSampling message now])
  | (p, none, effects) =>
    ({ p with pendingSampling := p.pendingSampling ++ [message] }, effects)

/-- The state `update_state` publishes: the new one, unless it is invalid while the held
one is still usable, in which case the held one is kept. -/
def publish (p : Project) (state : ProjectState) (now : Instant) : Project × ProjectState :=
  match p.expiryState now with
  | .updated old | .stale old =>
    if state.invalid then (p, old) else ({ p with state := some state }, state)
  | .expired => ({ p with state := some state }, state)

/-- The first loop of `update_state`: `flush_validation` of every queued envelope, in
order, with the published state. -/
def flushValidations (state : ProjectState) (now : Instant) :
    Project → List (Envelope × EnvelopeContext) → Project × List Effect
  | p, [] => (p, [])
  | p, (envelope, context) :: rest =>
    let (p, effects) := p.flushValidation ext envelope context state now
    let (p, more) := flushValidations state now p rest
    (p, effects ++ more)

/-- `update_state`: a response to a fetch.  Without an open channel it does nothing; a
plain response to a `no_cache` channel leaves the channel in place.  Otherwise it takes
the channel, publishes the state, flushes both queues and sends the published state to
every attached sender. -/
def updateState (p : Project) (state : ProjectState) (noCache : Bool) (now : Instant) :
    Project × List Effect :=
  match p.stateChannel with
  | none => (p, [])
  | some channel =>
    if channel.noCache && !noCache then (p, [])
    else
      let (p, state) := { p with stateChannel := none }.publish state now
      let (p, validated) :=
        flushValidations ext state now { p with pendingValidations := [] } p.pendingValidations
      let sampled := p.pendingSampling.map (p.flushSampling · now)
      ({ p with pendingSampling := [] },
        validated ++ sampled ++ channel.senders.map (Effect.sendState · state))

/-- `scoping`: the project's own scoping, once a state with a project id is held. -/
def scoping (p : Project) : Option Scoping := do
  let state ← p.state
  let projectId ← state.projectId
  pure { organizationId := state.organizationId.getD 0
         projectId := projectId
         projectKey := p.projectKey
         keyId := state.getPublicKeyConfig.bind (·.numericId) }

/-- `flush_buckets`: buckets of an expired project go back to the aggregator, buckets of
a known disabled project are dropped, the others are rate limited and sent on. -/
def flushBuckets (p : Project) (partitionKey : Option Nat) (buckets : List Bucket)
    (now : Instant) : Project × List Effect :=
  match p.getCachedState false now with
  | (p, none, effects) => (p, effects ++ [.mergeBuckets p.projectKey buckets])
  | (p, some projectState, effects) =>
    match p.scoping with
    | none => (p, effects ++ [.mergeBuckets p.projectKey buckets])
    | some scoping =>
      match projectState.checkDisabled p.config now with
      | .error _ => (p, effects)
      | .ok () =>
        let forward (buckets : List Bucket) : List Effect :=
          if buckets.isEmpty then [] else [.sendMetrics buckets scoping partitionKey]
        match ext.limitMetrics buckets projectState.config.quotas scoping p.rateLimits with
        | some (wasRateLimited, limited) =>
          if ext.processingFeature && !wasRateLimited && p.config.processingEnabled then
            (p, effects ++ [.rateLimitFlushBuckets limited partitionKey])
          else (p, effects ++ forward limited)
        | none => (p, effects ++ forward buckets)

/-- `metrics_allowed`: a project whose valid state is disabled refuses metrics; one without a
valid state allows them. -/
def metricsAllowed (p : Project) (now : Instant) : Bool :=
  match p.validState now with
  | some state => (state.checkDisabled p.config now).isOk
  | none => true

/-- `rate_limit_metrics`, where `limit` is `MetricsLimiter::create` and `enforce_limits` for
the kind of metrics: with a held state, expired or not, and a scoping, the metrics the limiter
keeps against the cached rate limits and the state's quotas; otherwise all of them. -/
def rateLimitMetrics {α : Type}
    (limit : List α → List Quota → Scoping → RateLimits → Option (Bool × List α))
    (p : Project) (metrics : List α) : List α :=
  match p.state, p.scoping with
  | some state, some scoping =>
    match limit metrics state.config.quotas scoping p.rateLimits with
    | some (_, limited) => limited
    | none => metrics
  | _, _ => metrics

/-- The shared body of `merge_buckets` and `insert_metrics`: the metrics the project sends to
the aggregator under its key, if it sends any. -/
def metricsToAggregate {α : Type}
    (limit : List α → List Quota → Scoping → RateLimits → Option (Bool × List α))
    (p : Project) (metrics : List α) (now : Instant) : Option (List α) :=
  if p.metricsAllowed now then
    let metrics := p.rateLimitMetrics limit metrics
    if metrics.isEmpty then none else some metrics
  else none

/-- `merge_buckets` -/
def mergeBuckets (p : Project) (buckets : List Bucket) (now : Instant) : List Effect :=
  ((p.metricsToAggregate ext.limitMetrics buckets now).map (.mergeBuckets p.projectKey)).toList

/-- `insert_metrics`, where `limit` is the `MetricsLimiter` of single metrics: the metrics of
the `InsertMetrics` message it sends to the aggregator, if it sends one. -/
def insertMetrics {Metric : Type}
    (limit : List Metric → List Quota → Scoping → RateLimits → Option (Bool × List Metric))
    (p : Project) (metrics : List Metric) (now : Instant) : Option (List Metric) :=
  p.metricsToAggregate limit metrics now

end Project

end Relay
