import Relay.Store.Attachments
import Relay.Store.Sessions

/-!
# Where the store sends each message

`handle_store_envelope` sends every message to the topic of its kind: the event and the
standalone attachments to the topic of the envelope (`storeTopic`), attachment chunks and user
reports to the attachments topic, sessions to the sessions topic, metrics to the topic of
their namespace, and profiles, replay events and replay recordings with their chunks each to
their own topic.  Every message goes out for the organization of the envelope's scoping,
every organization id a message carries in its body is that one, and every message names the
project of the scoping.  So the store never files one project's data under another project
or organization, and never puts a message on a topic for another kind.
-/

namespace Relay

namespace KafkaMessage

/-- The project a message names. -/
def projectId : KafkaMessage → ProjectId
  | .event message => message.projectId
  | .attachment message => message.projectId
  | .attachmentChunk message => message.projectId
  | .userReport message => message.projectId
  | .session message => message.projectId
  | .metric message => message.projectId
  | .profile message => message.projectId
  | .replayEvent message => message.projectId
  | .replayRecordingNotChunked message => message.projectId
  | .replayRecording message => message.projectId
  | .replayRecordingChunk message => message.projectId

/-- The organization a message names in its body, for the kinds that name one. -/
def organizationId? : KafkaMessage → Option Nat
  | .session message => some message.orgId
  | .metric message => some message.orgId
  | .profile message => some message.organizationId
  | .replayRecordingNotChunked message => some message.orgId
  | .replayRecording message => some message.orgId
  | _ => none

/-- The topic for each kind of message, where the event and standalone attachments of the
envelope go to `eventTopic`; a metric of no supported namespace has none. -/
def topicOf (parsers : StoreParsers) (eventTopic : KafkaTopic) : KafkaMessage → Option KafkaTopic
  | .event _ | .attachment _ => some eventTopic
  | .attachmentChunk _ | .userReport _ => some .attachments
  | .session _ => some .sessions
  | .metric message =>
    match parsers.metricNamespace message.name with
    | some .transactions => some .metricsTransactions
    | some .sessions => some .metricsSessions
    | some .unsupported | none => none
  | .profile _ => some .profiles
  | .replayEvent _ => some .replayEvents
  | .replayRecordingNotChunked _ | .replayRecording _ | .replayRecordingChunk _ =>
    some .replayRecordings

end KafkaMessage

/-- `p` went to the topic of its kind, for the organization of `scoping`, names no other
organization in its body, and names the project of `scoping`. -/
structure Routed (parsers : StoreParsers) (eventTopic : KafkaTopic) (scoping : Scoping)
    (p : Published) : Prop where
  topic : p.message.topicOf parsers eventTopic = some p.topic
  organization : p.organizationId = scoping.organizationId
  named : ∀ organizationId ∈ p.message.organizationId?, organizationId = scoping.organizationId
  project : p.message.projectId = scoping.projectId

section Routed

variable (env : StoreEnv) (parsers : StoreParsers) (config : Config) (fuel : Nat)
  {eventTopic : KafkaTopic} {scoping : Scoping}

/-- A message of its kind's topic that names the scoping's organization and project goes out
routed. -/
theorem publishesOnly_routed_produce {topic : KafkaTopic} {message : KafkaMessage}
    (routed : message.topicOf parsers eventTopic = some topic)
    (named : ∀ organizationId ∈ message.organizationId?, organizationId = scoping.organizationId)
    (project : message.projectId = scoping.projectId) :
    PublishesOnly (Routed parsers eventTopic scoping)
      (produce env topic scoping.organizationId message) :=
  publishesOnly_produce env fun _ _ => ⟨routed, rfl, named, project⟩

theorem publishesOnly_routed_sendSessionMessage {message : SessionKafkaMessage}
    (organization : message.orgId = scoping.organizationId)
    (project : message.projectId = scoping.projectId) :
    PublishesOnly (Routed parsers eventTopic scoping)
      (sendSessionMessage env scoping.organizationId message) :=
  publishesOnly_routed_produce env parsers (by rfl)
    (by simp [KafkaMessage.organizationId?, organization]) project

/-- Every message `produce_sessions` sends names the organization and project it is given. -/
theorem publishesOnly_routed_produceSessions (eventRetention : Nat) (client : Option String)
    (item : Item) :
    PublishesOnly (Routed parsers eventTopic scoping)
      (produceSessions env parsers scoping.organizationId scoping.projectId eventRetention client
        item) := by
  unfold produceSessions
  split
  · split
    · exact publishesOnly_pure _
    · exact publishesOnly_routed_sendSessionMessage env parsers rfl rfl
  · split
    · exact publishesOnly_pure _
    · refine publishesOnly_forM _ fun aggregate _ => publishesOnly_forM _ fun message member => ?_
      rw [aggregateMessages_eq] at member
      obtain ⟨counted, -, rfl⟩ := List.mem_map.mp member
      exact publishesOnly_routed_sendSessionMessage env parsers rfl rfl
  · exact publishesOnly_pure _

/-- A metric goes to the topic of its namespace, and one of no supported namespace nowhere. -/
theorem publishesOnly_routed_produceMetrics (item : Item) :
    PublishesOnly (Routed parsers eventTopic scoping)
      (produceMetrics env parsers scoping.organizationId scoping.projectId item) := by
  refine publishesOnly_forM _ fun bucket _ => ?_
  unfold sendMetricMessage
  split
  all_goals first
    | exact publishesOnly_pure _
    | exact publishesOnly_routed_produce env parsers
        (by simp [KafkaMessage.topicOf, *]) (by simp [KafkaMessage.organizationId?]) rfl

theorem publishesOnly_routed_produceReplayRecording (eventId : Option Uuid) (item : Item)
    (startTime retention : Nat) :
    PublishesOnly (Routed parsers eventTopic scoping)
      (produceReplayRecording env fuel eventId scoping item startTime retention) := by
  unfold produceReplayRecording
  dsimp only
  split
  · exact (publishesOnly_requireEventId eventId).bind fun _ => publishesOnly_routed_produce env
      parsers (by rfl) (by simp [KafkaMessage.organizationId?]) rfl
  · refine (publishesOnly_requireEventId eventId).bind fun _ => ?_
    refine (publishesOnly_produceChunked env fun _ _ _ => publishesOnly_routed_produce env parsers
      (by rfl) (by simp [KafkaMessage.organizationId?]) rfl).bind fun _ => ?_
    exact (publishesOnly_requireEventId eventId).bind fun _ => publishesOnly_routed_produce env
      parsers (by rfl) (by simp [KafkaMessage.organizationId?]) rfl

/-- Every message one turn of the item loop publishes is routed. -/
theorem publishesOnly_routed_storeItem (message : StoreEnvelope) (item : Item) :
    PublishesOnly (Routed parsers eventTopic message.scoping)
      (storeItem env parsers config fuel message item) := by
  unfold storeItem
  split
  · exact (publishesOnly_requireEventId _).bind fun _ => (publishesOnly_produceChunked env
      fun _ _ _ => publishesOnly_routed_produce env parsers (by rfl)
        (by simp [KafkaMessage.organizationId?]) rfl).bind fun _ => publishesOnly_pure _
  · exact (publishesOnly_requireEventId _).bind fun _ => (publishesOnly_routed_produce env parsers
      (by rfl) (by simp [KafkaMessage.organizationId?]) rfl).bind fun _ => publishesOnly_pure _
  · exact (publishesOnly_routed_produceSessions env parsers _ _ item).bind fun _ =>
      publishesOnly_pure _
  · exact (publishesOnly_routed_produceSessions env parsers _ _ item).bind fun _ =>
      publishesOnly_pure _
  · exact (publishesOnly_routed_produceMetrics env parsers item).bind fun _ => publishesOnly_pure _
  · exact (publishesOnly_routed_produce env parsers (by rfl)
      (by simp [KafkaMessage.organizationId?]) rfl).bind fun _ => publishesOnly_pure _
  · exact (publishesOnly_routed_produceReplayRecording env parsers fuel _ item _ _).bind fun _ =>
      publishesOnly_pure _
  · exact (publishesOnly_requireEventId _).bind fun _ => (publishesOnly_routed_produce env parsers
      (by rfl) (by simp [KafkaMessage.organizationId?]) rfl).bind fun _ => publishesOnly_pure _
  · exact publishesOnly_pure _

theorem publishesOnly_routed_storeItems (message : StoreEnvelope) :
    ∀ (items : List Item) (attachments : List ChunkedAttachment),
      PublishesOnly (Routed parsers eventTopic message.scoping)
        (storeItems env parsers config fuel message attachments items)
  | [], _ => publishesOnly_pure _
  | item :: items, _ => (publishesOnly_routed_storeItem env parsers config fuel message item).bind
      fun _ => publishesOnly_routed_storeItems message items _

end Routed

/-- Every message a successful store publishes goes to the topic of its kind, for the
organization of the envelope's scoping, naming no other organization and naming the scoping's
project. -/
theorem stored_messages_routed (env : StoreEnv) (parsers : StoreParsers) (config : Config)
    (fuel : Nat) (message : StoreEnvelope) :
    PublishesOnly (Routed parsers (storeTopic message.envelope) message.scoping)
      (handleStoreEnvelope env parsers config fuel message) := by
  unfold handleStoreEnvelope
  refine (publishesOnly_routed_storeItems env parsers config fuel message _ _).bind
    fun attachments => ?_
  split
  · exact (publishesOnly_requireEventId _).bind fun _ =>
      publishesOnly_routed_produce env parsers (by rfl) (by simp [KafkaMessage.organizationId?]) rfl
  · split
    · exact publishesOnly_pure _
    · exact publishesOnly_forM _ fun _ _ => (publishesOnly_requireEventId _).bind fun _ =>
        publishesOnly_routed_produce env parsers (by rfl) (by simp [KafkaMessage.organizationId?]) rfl

end Relay
