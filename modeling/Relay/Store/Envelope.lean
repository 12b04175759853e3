import Relay.Store.Items

/-!
# Storing an envelope

`handle_store_envelope` publishes an envelope's items one by one, collecting the summaries of
the attachments it cut into chunks, and then publishes the event with these summaries, or,
without an event, one standalone message per attachment.  Kafka keeps the order of messages
only within a partition, so the chunks of an object are read before the message that
references them only if all of them share one key.  They do whenever the envelope's event id
is not nil: every message that carries the id is keyed by it.  A nil event id is a valid
header, and then `KafkaMessage::key` draws a fresh random key for each message.
-/

namespace Relay

/-- `StoreEnvelope`; `startTime` is the request's start as
`UnixTimestamp::from_instant(start_time).as_secs()` gives it. -/
structure StoreEnvelope where
  envelope : Envelope
  startTime : Nat
  scoping : Scoping
  deriving DecidableEq

/-- `is_slow_item`: items that must go to the attachments topic. -/
def isSlowItem (item : Item) : Bool :=
  item.ty == .attachment || item.ty == .userReport

/-- The event item of `handle_store_envelope`: the first event, transaction or security item. -/
def eventItemOf (envelope : Envelope) : Option Item :=
  envelope.items.find? fun item =>
    item.ty == .event || item.ty == .transaction || item.ty == .security

/-- The topic `handle_store_envelope` publishes the event and standalone attachments to. -/
def storeTopic (envelope : Envelope) : KafkaTopic :=
  if (envelope.items.find? isSlowItem).isSome then .attachments
  else if (eventItemOf envelope).map (·.ty) = some .transaction then .transactions
  else .events

variable (env : StoreEnv) (parsers : StoreParsers) (config : Config) (fuel : Nat)

/-- One turn of the item loop of `handle_store_envelope`: publishes the item and returns the
summary of the attachment it cut into chunks, if it is one. -/
def storeItem (message : StoreEnvelope) (item : Item) : StoreM (Option ChunkedAttachment) :=
  let envelope := message.envelope
  let scoping := message.scoping
  match item.ty with
  | .attachment => do
    let eventId ← requireEventId envelope.eventId
    let attachment ← produceAttachmentChunks env config fuel eventId scoping.organizationId
      scoping.projectId item
    pure (some attachment)
  | .userReport => do
    let eventId ← requireEventId envelope.eventId
    produceUserReport env eventId scoping.organizationId scoping.projectId message.startTime item
    pure none
  | .session | .sessions => do
    produceSessions env parsers scoping.organizationId scoping.projectId envelope.retention
      envelope.meta.client item
    pure none
  | .metricBuckets => do
    produceMetrics env parsers scoping.organizationId scoping.projectId item
    pure none
  | .profile => do
    produceProfile env scoping.organizationId scoping.projectId scoping.keyId message.startTime
      item
    pure none
  | .replayRecording => do
    produceReplayRecording env fuel envelope.eventId scoping item message.startTime
      envelope.retention
    pure none
  | .replayEvent => do
    let eventId ← requireEventId envelope.eventId
    produceReplayEvent env eventId scoping.organizationId scoping.projectId message.startTime
      envelope.retention item
    pure none
  | _ => pure none

/-- The item loop of `handle_store_envelope`, pushing the summary of every chunked attachment
onto `attachments`. -/
def storeItems (message : StoreEnvelope) (attachments : List ChunkedAttachment) :
    List Item → StoreM (List ChunkedAttachment)
  | [] => pure attachments
  | item :: items => do
    let attachment ← storeItem env parsers config fuel message item
    storeItems message (attachments ++ attachment.toList) items

/-- `StoreService::handle_store_envelope`, with at most `fuel` turns of each chunk loop. -/
def handleStoreEnvelope (message : StoreEnvelope) : StoreM Unit := do
  let envelope := message.envelope
  let scoping := message.scoping
  let topic := storeTopic envelope
  let attachments ← storeItems env parsers config fuel message [] envelope.items
  match eventItemOf envelope with
  | some eventItem => do
    let eventId ← requireEventId envelope.eventId
    produce env topic scoping.organizationId (.event ⟨eventItem.payload, message.startTime,
      eventId, scoping.projectId, envelope.meta.clientAddr, attachments⟩)
  | none =>
    if attachments.isEmpty then pure ()
    else attachments.forM fun attachment => do
      let eventId ← requireEventId envelope.eventId
      produce env topic scoping.organizationId (.attachment ⟨eventId, scoping.projectId,
        attachment⟩)

section KeyedBy

variable {e : Uuid} (named : e ≠ Uuid.nil) {message : StoreEnvelope}
  (carried : message.envelope.eventId = some e)
include named carried

theorem publishesOnly_keyedBy_storeItem (item : Item) :
    PublishesOnly (KeyedBy e) (storeItem env parsers config fuel message item) := by
  unfold storeItem
  simp only [carried, requireEventId_some, pure_bind]
  split
  · exact (publishesOnly_keyedBy_produceAttachmentChunks env named config fuel _ _ item).bind
      fun _ => publishesOnly_pure _
  · exact (publishesOnly_keyedBy_produceUserReport env named _ _ _ item).bind fun _ =>
      publishesOnly_pure _
  · exact (publishesOnly_keyedBy_produceSessions env parsers _ _ _ _ item).bind fun _ =>
      publishesOnly_pure _
  · exact (publishesOnly_keyedBy_produceSessions env parsers _ _ _ _ item).bind fun _ =>
      publishesOnly_pure _
  · exact (publishesOnly_keyedBy_produceMetrics env parsers _ _ item).bind fun _ =>
      publishesOnly_pure _
  · exact (publishesOnly_keyedBy_produceProfile env _ _ _ _ item).bind fun _ =>
      publishesOnly_pure _
  · exact (publishesOnly_keyedBy_produceReplayRecording env named fuel rfl _ item _ _).bind
      fun _ => publishesOnly_pure _
  · exact (publishesOnly_keyedBy_produceReplayEvent env named _ _ _ _ item).bind fun _ =>
      publishesOnly_pure _
  · exact publishesOnly_pure _

theorem publishesOnly_keyedBy_storeItems :
    ∀ (items : List Item) (attachments : List ChunkedAttachment),
      PublishesOnly (KeyedBy e) (storeItems env parsers config fuel message attachments items)
  | [], _ => publishesOnly_pure _
  | item :: items, _ => (publishesOnly_keyedBy_storeItem env parsers config fuel named carried
      item).bind fun _ => publishesOnly_keyedBy_storeItems items _

end KeyedBy

/-- With an event id `e` that is not nil, every message a successful store publishes goes out
under `e`, except sessions, metrics, profiles and unchunked replay recordings, keyed at
random; so chunks share one key with the message that references them. -/
theorem stored_messages_keyed_by_event_id {e : Uuid} (named : e ≠ Uuid.nil)
    (message : StoreEnvelope) (carried : message.envelope.eventId = some e)
    (state after : StoreState)
    (stored : (handleStoreEnvelope env parsers config fuel message).run state = .ok ((), after)) :
    ∃ new, after.published = state.published ++ new ∧
      ∀ p ∈ new, p.message.randomlyKeyed = false → p.key = e := by
  have only : PublishesOnly (KeyedBy e) (handleStoreEnvelope env parsers config fuel message) := by
    unfold handleStoreEnvelope
    refine (publishesOnly_keyedBy_storeItems env parsers config fuel named carried _ _).bind
      fun attachments => ?_
    simp only [carried, requireEventId_some, pure_bind]
    split
    · exact publishesOnly_keyedBy_produce env named fun _ => rfl
    · split
      · exact publishesOnly_pure _
      · exact publishesOnly_forM _ fun _ _ => publishesOnly_keyedBy_produce env named fun _ => rfl
  exact only state () after stored

namespace Sample

/-- Parsers that find no session and no bucket in any payload. -/
def storeParsers : StoreParsers :=
  ⟨fun _ => none, fun _ => none, fun _ => none, fun _ => none, fun _ => Uuid.nil⟩

/-- A request for project 42 of organization 1, without client or address. -/
def storeMeta : RequestMeta := ⟨some 42, none, 0, false, ⟨1, 42, 0, none⟩, none, none⟩

/-- An envelope with the event id `eventId` and a three-byte attachment, which at chunk size
two goes out in two chunks and a standalone attachment message. -/
def attachmentEnvelope (eventId : Uuid) : StoreEnvelope :=
  ⟨⟨storeMeta, some eventId, 90, [⟨.attachment, [1, 2, 3], none, none, none, false⟩]⟩, 0,
    ⟨1, 42, 0, none⟩⟩

/-- The store's state after storing `attachmentEnvelope 7`. -/
def keyedStore : StoreState :=
  match (handleStoreEnvelope storeEnv storeParsers storeConfig 3 (attachmentEnvelope 7)).run
    ⟨0, []⟩ with
  | .ok (_, after) => after
  | .error _ => ⟨0, []⟩

end Sample

theorem sample_envelope_keyed_by_event_id :
    ∃ new, Sample.keyedStore.published = [] ++ new ∧
      ∀ p ∈ new, p.message.randomlyKeyed = false → p.key = 7 :=
  stored_messages_keyed_by_event_id Sample.storeEnv Sample.storeParsers Sample.storeConfig 3
    (by decide) (Sample.attachmentEnvelope 7) rfl ⟨0, []⟩ Sample.keyedStore (by rfl)

/-- With the nil event id, the two chunks of one attachment and the standalone message that
references them go out under three different keys. -/
theorem nil_event_id_scatters_chunk_keys :
    ((handleStoreEnvelope Sample.storeEnv Sample.storeParsers Sample.storeConfig 3
      (Sample.attachmentEnvelope Uuid.nil)).run ⟨0, []⟩).map
        (fun result => result.2.published.map fun p => (p.key, p.message.randomlyKeyed)) =
      .ok [(2, false), (3, false), (4, false)] := by
  rfl

end Relay
