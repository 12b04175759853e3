import Relay.Store.Chunks

/-!
# Publishing one item

The store publishes each kind of envelope item with its own function: user reports, single
sessions and session aggregates, metric buckets, profiles, replay events and replay
recordings, the last either in one message or in chunks followed by a message that
references them.  Parsing sessions and metric buckets, telling a metric's namespace and
hashing distinct ids is done by other crates; the model takes those as parameters and keeps,
of what they return, the fields that the store reads or sends.  Given the envelope's event
id, every message an item function publishes goes out under it, except the kinds that are
keyed at random.
-/

namespace Relay

/-- `SessionUpdate`, with the fields the store reads; `started` as in `SessionKafkaMessage`. -/
structure SessionUpdate where
  sessionId : Uuid
  distinctId : Option String
  sequence : Nat
  init : Bool
  started : Nat
  status : SessionStatus
  errors : Nat
  deriving DecidableEq

/-- One entry of `SessionAggregates::aggregates`, with the fields the store reads. -/
structure SessionAggregateItem where
  started : Nat
  distinctId : Option String
  exited : Nat
  errored : Nat
  abnormal : Nat
  crashed : Nat
  deriving DecidableEq

/-- `MetricNamespace` -/
inductive MetricNamespace
  | sessions
  | transactions
  | unsupported
  deriving DecidableEq

/-- The parsers the store calls: `SessionUpdate::parse`, `SessionAggregates::parse`,
`Bucket::parse_all` and `MetricResourceIdentifier::parse`, not among the sources, and
`make_distinct_id` (store.rs:40), whose UUID v5 hashing is taken as a parameter. -/
structure StoreParsers where
  parseSessionUpdate : List UInt8 → Option SessionUpdate
  parseSessionAggregates : List UInt8 → Option (List SessionAggregateItem)
  parseAllBuckets : List UInt8 → Option (List Bucket)
  metricNamespace : String → Option MetricNamespace
  makeDistinctId : String → Uuid

variable (env : StoreEnv) (parsers : StoreParsers)

/-- `event_id.ok_or(StoreError::NoEventId)?` -/
def requireEventId : Option Uuid → StoreM Uuid
  | some eventId => pure eventId
  | none => throw (.error .noEventId)

@[simp]
theorem requireEventId_some (eventId : Uuid) : requireEventId (some eventId) = pure eventId :=
  rfl

/-- `StoreService::produce_user_report` -/
def produceUserReport (eventId : Uuid) (organizationId : Nat) (projectId : ProjectId)
    (startTime : Nat) (item : Item) : StoreM Unit :=
  produce env .attachments organizationId (.userReport ⟨projectId, startTime, item.payload, eventId⟩)

/-- `StoreService::send_session_message` -/
def sendSessionMessage (organizationId : Nat) (message : SessionKafkaMessage) : StoreM Unit :=
  produce env .sessions organizationId (.session message)

/-- The distinct id a session message carries: `make_distinct_id` of the given one, or nil. -/
def distinctIdOf (distinctId : Option String) : Uuid :=
  (distinctId.map parsers.makeDistinctId).getD Uuid.nil

/-- `StoreService::produce_session_update` -/
def produceSessionUpdate (orgId : Nat) (projectId : ProjectId) (eventRetention : Nat)
    (client : Option String) (session : SessionUpdate) : StoreM Unit :=
  sendSessionMessage env orgId ⟨orgId, projectId, session.sessionId,
    distinctIdOf parsers session.distinctId, 1, if session.init then 0 else session.sequence,
    session.started, session.status,
    max (if session.status = .crashed then 1 else 0) (min session.errors 65535), client,
    eventRetention⟩

/-- `MAX_EXPLODED_SESSIONS` -/
def maxExplodedSessions : Nat := 100

/-- The four `if count > 0` blocks of the loop body of `produce_sessions_from_aggregate`, in
the code's order: the count each tests and the fields it sets on the message. -/
def aggregateBranches (item : SessionAggregateItem) :
    List (Nat × (SessionKafkaMessage → SessionKafkaMessage)) :=
  [(item.exited, fun message => { message with errors := 0, quantity := item.exited }),
    (item.errored, fun message =>
      { message with errors := 1, status := .errored, quantity := item.errored }),
    (item.abnormal, fun message =>
      { message with errors := 1, status := .abnormal, quantity := item.abnormal }),
    (item.crashed, fun message =>
      { message with errors := 1, status := .crashed, quantity := item.crashed })]

/-- Runs the blocks on the one mutable message: a block whose count is positive updates the
message and sends it, and the next block starts from the message as this one left it. -/
def runBranches : SessionKafkaMessage → List (Nat × (SessionKafkaMessage → SessionKafkaMessage)) →
    List SessionKafkaMessage
  | _, [] => []
  | message, (count, update) :: rest =>
    if 0 < count then update message :: runBranches (update message) rest
    else runBranches message rest

/-- The messages the loop body of `produce_sessions_from_aggregate` sends for one aggregate,
starting from a clone of the message with the aggregate's start and distinct id. -/
def aggregateMessages (message : SessionKafkaMessage) (item : SessionAggregateItem) :
    List SessionKafkaMessage :=
  let distinctId := distinctIdOf parsers item.distinctId
  runBranches { message with started := item.started, distinctId } (aggregateBranches item)

/-- `StoreService::produce_sessions_from_aggregate` -/
def produceSessionsFromAggregate (orgId : Nat) (projectId : ProjectId) (eventRetention : Nat)
    (client : Option String) (aggregates : List SessionAggregateItem) : StoreM Unit :=
  let message : SessionKafkaMessage :=
    ⟨orgId, projectId, Uuid.nil, Uuid.nil, 1, 0, 0, .exited, 0, client, eventRetention⟩
  (aggregates.take maxExplodedSessions).forM fun item =>
    (aggregateMessages parsers message item).forM (sendSessionMessage env orgId)

/-- `StoreService::produce_sessions`: a session that does not parse is skipped, and a single
session never goes out as errored. -/
def produceSessions (orgId : Nat) (projectId : ProjectId) (eventRetention : Nat)
    (client : Option String) (item : Item) : StoreM Unit :=
  match item.ty with
  | .session =>
    match parsers.parseSessionUpdate item.payload with
    | none => pure ()
    | some session =>
      produceSessionUpdate env parsers orgId projectId eventRetention client
        (if session.status = .errored then { session with status := .exited } else session)
  | .sessions =>
    match parsers.parseSessionAggregates item.payload with
    | none => pure ()
    | some aggregates =>
      produceSessionsFromAggregate env parsers orgId projectId eventRetention client aggregates
  | _ => pure ()

/-- `StoreService::send_metric_message`: a metric of no supported namespace is dropped. -/
def sendMetricMessage (organizationId : Nat) (message : MetricKafkaMessage) : StoreM Unit :=
  match parsers.metricNamespace message.name with
  | some .transactions => produce env .metricsTransactions organizationId (.metric message)
  | some .sessions => produce env .metricsSessions organizationId (.metric message)
  | some .unsupported | none => pure ()

/-- `StoreService::produce_metrics`: a payload that does not parse holds no buckets. -/
def produceMetrics (orgId : Nat) (projectId : ProjectId) (item : Item) : StoreM Unit :=
  ((parsers.parseAllBuckets item.payload).getD []).forM fun bucket =>
    sendMetricMessage env parsers orgId ⟨orgId, projectId, bucket.name⟩

/-- `StoreService::produce_profile` -/
def produceProfile (organizationId : Nat) (projectId : ProjectId) (keyId : Option Nat)
    (startTime : Nat) (item : Item) : StoreM Unit :=
  produce env .profiles organizationId
    (.profile ⟨organizationId, projectId, keyId, startTime, item.payload⟩)

/-- `StoreService::produce_replay_event` -/
def produceReplayEvent (replayId : Uuid) (organizationId : Nat) (projectId : ProjectId)
    (startTime retentionDays : Nat) (item : Item) : StoreM Unit :=
  produce env .replayEvents organizationId
    (.replayEvent ⟨item.payload, startTime, replayId, projectId, retentionDays⟩)

/-- `StoreService::produce_replay_recording`, with at most `fuel` turns of the chunk loop: a
recording below a megabyte less 2000 bytes of metadata goes out in one message, a larger one
in chunks followed by the message that references them. -/
def produceReplayRecording (fuel : Nat) (eventId : Option Uuid) (scoping : Scoping) (item : Item)
    (startTime retention : Nat) : StoreM Unit :=
  let maxMessageSize := 1000 * 1000
  let maxMessageMetadataSize := 2000
  let maxPayloadSize := maxMessageSize - maxMessageMetadataSize
  if item.payload.length < maxPayloadSize then do
    let replayId ← requireEventId eventId
    produce env .replayRecordings scoping.organizationId (.replayRecordingNotChunked
      ⟨replayId, scoping.keyId, scoping.organizationId, scoping.projectId, startTime, retention,
        item.payload⟩)
  else do
    let replayRecording ← produceReplayRecordingChunks env fuel (← requireEventId eventId)
      scoping.organizationId scoping.projectId item
    let replayId ← requireEventId eventId
    produce env .replayRecordings scoping.organizationId (.replayRecording
      ⟨replayId, scoping.keyId, scoping.organizationId, scoping.projectId, startTime, retention,
        replayRecording⟩)

/-- A recording below `1000 * 1000 - 2000` bytes goes out whole in one message, a larger one in
chunks under one id followed by the message referencing them, all on its topic; with every
send succeeding and fuel per byte, the function returns. -/
theorem replay_recording_published (eventId : Uuid) (scoping : Scoping) (item : Item)
    (startTime retention fuel : Nat) :
    let maxPayloadSize := 1000 * 1000 - 2000
    let chunks := chunksOf maxPayloadSize item.payload
    ChunkLayout maxPayloadSize item.payload chunks ∧
    (maxPayloadSize ≤ item.payload.length → 1 ≤ chunks.length) ∧
    Publishes (produceReplayRecording env fuel (some eventId) scoping item startTime retention)
      (fun _ new => (∀ p ∈ new, p.topic = .replayRecordings) ∧
        if item.payload.length < maxPayloadSize then
          new.map (·.message) = [.replayRecordingNotChunked ⟨eventId, scoping.keyId,
            scoping.organizationId, scoping.projectId, startTime, retention, item.payload⟩]
        else ∃ id, new.map (·.message) =
          chunks.enum.map (fun chunk =>
              .replayRecordingChunk ⟨chunk.2, eventId, scoping.projectId, id, chunk.1⟩) ++
            [.replayRecording ⟨eventId, scoping.keyId, scoping.organizationId, scoping.projectId,
              startTime, retention, ⟨id, chunks.length, some item.payload.length⟩⟩]) ∧
    ((∀ topic organizationId key message, env.send topic organizationId key message = .ok ()) →
      item.payload.length ≤ fuel → ∀ state, ∃ after,
        (produceReplayRecording env fuel (some eventId) scoping item startTime retention).run state =
          .ok ((), after)) := by
  dsimp only
  have positive : 0 < 1000 * 1000 - 2000 := by decide
  have layout := chunksOf_layout positive item.payload
  refine ⟨layout, fun large => ?_, ?_, fun sent enough state => ?_⟩
  · rw [layout.count]
    exact Nat.div_pos (by omega) positive
  · unfold produceReplayRecording
    simp only [requireEventId_some, pure_bind]
    split_ifs with small
    · exact (publishes_produce env _ _ _).mono fun _ new ⟨key, published⟩ => by
        subst published
        simp
    · refine (publishes_produceChunked env).bind
        fun summary new ⟨id, summarized, messages, topics⟩ => ?_
      subst summarized
      refine (publishes_produce env _ _ _).mono fun _ more ⟨key, published⟩ => ?_
      subst published
      refine ⟨fun p member => ?_, ⟨id, by simp [messages]⟩⟩
      rcases List.mem_append.mp member with chunk | summary
      · exact topics p chunk
      · rw [List.mem_singleton.mp summary]
  · unfold produceReplayRecording
    simp only [requireEventId_some, pure_bind]
    split_ifs with small
    · obtain ⟨_, _, ran, -⟩ := produce_run env .replayRecordings scoping.organizationId _ state
        (sent _ _ · _)
      exact ⟨_, ran⟩
    · obtain ⟨summary, chunked, ranChunks⟩ := produceReplayRecordingChunks_run env sent enough
        eventId scoping.organizationId scoping.projectId state
      obtain ⟨_, _, ran, -⟩ := produce_run env .replayRecordings scoping.organizationId
        (.replayRecording ⟨eventId, scoping.keyId, scoping.organizationId, scoping.projectId,
          startTime, retention, summary⟩) chunked (sent _ _ · _)
      exact ⟨_, by simp only [StoreM.run_bind, ranChunks]; exact ran⟩

/-- A replay recording of five bytes. -/
def Sample.recordingItem : Item := ⟨.replayRecording, [1, 2, 3, 4, 5], none, none, none, false⟩

/-- A five-byte recording goes out in one message, and the function returns. -/
theorem sample_recording_returns :
    ∃ after, (produceReplayRecording Sample.storeEnv 5 (some 7) ⟨1, 42, 0, none⟩
      Sample.recordingItem 0 30).run ⟨0, []⟩ = .ok ((), after) :=
  (replay_recording_published Sample.storeEnv 7 ⟨1, 42, 0, none⟩ Sample.recordingItem 0 30 5).2.2.2
    (fun _ _ _ _ => rfl) (by decide) ⟨0, []⟩

section KeyedBy

variable {e : Uuid}

theorem publishesOnly_keyedBy_produceUserReport (named : e ≠ Uuid.nil) (organizationId : Nat)
    (projectId : ProjectId) (startTime : Nat) (item : Item) :
    PublishesOnly (KeyedBy e) (produceUserReport env e organizationId projectId startTime item) :=
  publishesOnly_keyedBy_produce env named fun _ => rfl

theorem publishesOnly_keyedBy_produceProfile (organizationId : Nat) (projectId : ProjectId)
    (keyId : Option Nat) (startTime : Nat) (item : Item) :
    PublishesOnly (KeyedBy e) (produceProfile env organizationId projectId keyId startTime item) :=
  publishesOnly_keyedBy_random env rfl

theorem publishesOnly_keyedBy_produceReplayEvent (named : e ≠ Uuid.nil) (organizationId : Nat)
    (projectId : ProjectId) (startTime retentionDays : Nat) (item : Item) :
    PublishesOnly (KeyedBy e)
      (produceReplayEvent env e organizationId projectId startTime retentionDays item) :=
  publishesOnly_keyedBy_produce env named fun _ => rfl

theorem publishesOnly_keyedBy_sendSessionMessage (organizationId : Nat)
    (message : SessionKafkaMessage) :
    PublishesOnly (KeyedBy e) (sendSessionMessage env organizationId message) :=
  publishesOnly_keyedBy_random env rfl

theorem publishesOnly_keyedBy_produceSessions (orgId : Nat) (projectId : ProjectId)
    (eventRetention : Nat) (client : Option String) (item : Item) :
    PublishesOnly (KeyedBy e)
      (produceSessions env parsers orgId projectId eventRetention client item) := by
  have each : ∀ messages : List SessionKafkaMessage,
      PublishesOnly (KeyedBy e) (messages.forM (sendSessionMessage env orgId)) := fun messages =>
    publishesOnly_forM messages fun message _ =>
      publishesOnly_keyedBy_sendSessionMessage env orgId message
  unfold produceSessions
  split
  · split
    · exact publishesOnly_pure _
    · exact publishesOnly_keyedBy_sendSessionMessage env orgId _
  · split
    · exact publishesOnly_pure _
    · exact publishesOnly_forM _ fun _ _ => each _
  · exact publishesOnly_pure _

theorem publishesOnly_keyedBy_produceMetrics (orgId : Nat) (projectId : ProjectId) (item : Item) :
    PublishesOnly (KeyedBy e) (produceMetrics env parsers orgId projectId item) := by
  refine publishesOnly_forM _ fun bucket _ => ?_
  unfold sendMetricMessage
  split <;> first | exact publishesOnly_pure _ | exact publishesOnly_keyedBy_random env rfl

theorem publishesOnly_keyedBy_produceReplayRecording (named : e ≠ Uuid.nil) (fuel : Nat)
    {eventId : Option Uuid} (carried : eventId = some e) (scoping : Scoping) (item : Item)
    (startTime retention : Nat) :
    PublishesOnly (KeyedBy e)
      (produceReplayRecording env fuel eventId scoping item startTime retention) := by
  subst carried
  unfold produceReplayRecording
  simp only [requireEventId_some, pure_bind]
  split
  · exact publishesOnly_keyedBy_random env rfl
  · exact (publishesOnly_keyedBy_produceReplayRecordingChunks env named fuel _ _ item).bind
      fun _ => publishesOnly_keyedBy_produce env named fun _ => rfl

end KeyedBy

end Relay
