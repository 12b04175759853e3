import Mathlib.Data.List.Basic

/-!
# Identifiers, clocks, configuration and envelopes

The values every part of the relay core passes around: monotonic instants, project keys
and event identifiers, the configuration values that the project cache and the store
read, and envelopes with their items and request metadata.  The types of other crates
(`relay_config::Config`, `crate::envelope`, `crate::extractors::RequestMeta`) are not among
the sources; they are modelled by the fields and accessors that the modelled code calls.
-/

namespace Relay

/-- Monotonic instants (`tokio::time::Instant`), counted in nanoseconds. -/
abbrev Instant := Nat

/-- Durations (`std::time::Duration`), counted in nanoseconds. -/
abbrev Duration := Nat

/-- `Duration::from_secs`. -/
def Duration.fromSecs (secs : Nat) : Duration := secs * 1000000000

/-- A public project key (`relay_common::ProjectKey`): 128 opaque bits. -/
abbrev ProjectKey := BitVec 128

/-- A numeric project identifier (`relay_common::ProjectId`). -/
abbrev ProjectId := Nat

/-- A 128-bit UUID (`relay_common::Uuid`); `EventId` wraps one. -/
abbrev Uuid := BitVec 128

/-- `Uuid::nil()`. -/
def Uuid.nil : Uuid := 0

/-- The accessors of `relay_config::Config` that the modelled code calls. -/
structure Config where
  /-- `project_cache_expiry()`: freshness of a state with a project id. -/
  projectCacheExpiry : Duration
  /-- `cache_miss_expiry()`: freshness of a state without a project id. -/
  cacheMissExpiry : Duration
  /-- `project_grace_period()`: how long an outdated state is still served. -/
  projectGracePeriod : Duration
  /-- `override_project_ids()` -/
  overrideProjectIds : Bool
  /-- `processing_enabled()` -/
  processingEnabled : Bool
  /-- `attachment_chunk_size()` -/
  attachmentChunkSize : Nat
  deriving DecidableEq

/-- The scoping of a request (`relay_quotas::Scoping`). -/
structure Scoping where
  organizationId : Nat
  projectId : ProjectId
  projectKey : ProjectKey
  keyId : Option Nat
  deriving DecidableEq

/-- `ItemType`, the type header of an envelope item. -/
inductive ItemType
  | event
  | transaction
  | security
  | attachment
  | formData
  | rawSecurity
  | unrealReport
  | userReport
  | session
  | sessions
  | statsd
  | metricBuckets
  | clientReport
  | profile
  | replayEvent
  | replayRecording
  | unknown
  deriving DecidableEq

/-- `AttachmentType`; `attachment` is its default. -/
inductive AttachmentType
  | attachment
  | minidump
  | appleCrashReport
  | eventPayload
  | breadcrumbs
  | unrealContext
  | unrealLogs
  | unknown
  deriving DecidableEq

/-- An envelope item: its type header, payload and the headers the store reads. -/
structure Item where
  ty : ItemType
  payload : List UInt8
  filename : Option String
  contentType : Option String
  attachmentType : Option AttachmentType
  rateLimited : Bool
  deriving DecidableEq

/-- A metrics bucket (`relay_metrics::Bucket`), with the name the store reads; the project
only hands buckets on. -/
structure Bucket where
  name : String
  deriving DecidableEq

/-- `RequestMeta`, with `get_partial_scoping()` taken as the field `partialScoping`. -/
structure RequestMeta where
  projectId : Option ProjectId
  origin : Option String
  publicKey : ProjectKey
  noCache : Bool
  partialScoping : Scoping
  client : Option String
  clientAddr : Option String
  deriving DecidableEq

/-- An envelope: request metadata, the event id header, the retention and the items. -/
structure Envelope where
  meta : RequestMeta
  eventId : Option Uuid
  retention : Nat
  items : List Item
  deriving DecidableEq

/-- Why a request was discarded (`DiscardReason`), for the reasons the project raises. -/
inductive DiscardReason
  | projectId
  | cors
  | projectState
  deriving DecidableEq

/-- An outcome recorded for discarded data (`Outcome`). -/
inductive Outcome
  | invalid (reason : DiscardReason)
  | rateLimited (reasonCode : Option String)
  deriving DecidableEq

/-- `EnvelopeContext`: the scoping under which outcomes of one envelope are recorded and
the items it last summarised. -/
structure EnvelopeContext where
  scoping : Scoping
  summary : List Item
  deriving DecidableEq

/-- `EnvelopeContext::scope` -/
def EnvelopeContext.scope (context : EnvelopeContext) (scoping : Scoping) : EnvelopeContext :=
  { context with scoping }

/-- `EnvelopeContext::update`: summarise the envelope's remaining items. -/
def EnvelopeContext.update (context : EnvelopeContext) (envelope : Envelope) :
    EnvelopeContext :=
  { context with summary := envelope.items }

end Relay
