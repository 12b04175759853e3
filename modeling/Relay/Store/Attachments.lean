import Relay.Store.Envelope

/-!
# Every attachment is referenced once

`handle_store_envelope` cuts each attachment item into chunks while it walks the items, keeps
the summary `ChunkedAttachment` that `produce_attachment_chunks` returns, and references the
summaries only at the end: all of them in the event message, or, without an event, each in a
standalone attachment message.  A successful run therefore publishes, item after item, the
chunks of every attachment on the attachments topic, then the messages that reference the
summaries, and these references are exactly the summaries, one per attachment item, in item
order.  No item function publishes a message that references an attachment.
-/

namespace Relay

/-- The chunked attachments a message references: those of an event, or the one of a
standalone attachment message. -/
def KafkaMessage.attachments : KafkaMessage → List ChunkedAttachment
  | .event message => message.attachments
  | .attachment message => [message.attachment]
  | _ => []

/-- A published message that references no attachment. -/
def Unreferencing (p : Published) : Prop := p.message.attachments = []

variable (env : StoreEnv) (parsers : StoreParsers) (config : Config) (fuel : Nat)

theorem PublishesOnly.publishes {α : Type} {good : Published → Prop} {m : StoreM α}
    (only : PublishesOnly good m) : Publishes m fun _ new => ∀ p ∈ new, good p :=
  only

theorem publishes_requireEventId (eventId : Option Uuid) :
    Publishes (requireEventId eventId) fun e new => eventId = some e ∧ new = [] := by
  cases eventId with
  | none => exact publishes_throw _
  | some e => exact publishes_pure ⟨rfl, rfl⟩

theorem publishesOnly_requireEventId {good : Published → Prop} (eventId : Option Uuid) :
    PublishesOnly good (requireEventId eventId) :=
  (publishes_requireEventId eventId).mono fun _ _ ⟨_, nothing⟩ p member => by
    simp [nothing] at member

section Unreferencing

theorem publishesOnly_unreferencing_produce {topic : KafkaTopic} {organizationId : Nat}
    {message : KafkaMessage} (plain : message.attachments = []) :
    PublishesOnly Unreferencing (produce env topic organizationId message) :=
  publishesOnly_produce env fun _ _ => plain

theorem publishesOnly_unreferencing_produceSessions (orgId : Nat) (projectId : ProjectId)
    (eventRetention : Nat) (client : Option String) (item : Item) :
    PublishesOnly Unreferencing
      (produceSessions env parsers orgId projectId eventRetention client item) := by
  have each : ∀ messages : List SessionKafkaMessage,
      PublishesOnly Unreferencing (messages.forM (sendSessionMessage env orgId)) := fun messages =>
    publishesOnly_forM messages fun _ _ => publishesOnly_unreferencing_produce env (by rfl)
  unfold produceSessions
  split
  · split
    · exact publishesOnly_pure _
    · exact publishesOnly_unreferencing_produce env (by rfl)
  · split
    · exact publishesOnly_pure _
    · exact publishesOnly_forM _ fun _ _ => each _
  · exact publishesOnly_pure _

theorem publishesOnly_unreferencing_produceMetrics (orgId : Nat) (projectId : ProjectId)
    (item : Item) : PublishesOnly Unreferencing (produceMetrics env parsers orgId projectId item) := by
  refine publishesOnly_forM _ fun bucket _ => ?_
  unfold sendMetricMessage
  split <;> first | exact publishesOnly_pure _ | exact publishesOnly_unreferencing_produce env (by rfl)

theorem publishesOnly_unreferencing_produceReplayRecording (eventId : Option Uuid)
    (scoping : Scoping) (item : Item) (startTime retention : Nat) :
    PublishesOnly Unreferencing
      (produceReplayRecording env fuel eventId scoping item startTime retention) := by
  unfold produceReplayRecording
  dsimp only
  split
  · exact (publishesOnly_requireEventId eventId).bind fun _ =>
      publishesOnly_unreferencing_produce env (by rfl)
  · exact (publishesOnly_requireEventId eventId).bind fun _ =>
      (publishesOnly_produceChunked env fun _ _ _ => publishesOnly_unreferencing_produce env (by rfl)).bind
        fun _ => (publishesOnly_requireEventId eventId).bind fun _ =>
          publishesOnly_unreferencing_produce env (by rfl)

end Unreferencing

/-- What a successful turn of the item loop publishes and returns for `item`: messages that
reference no attachment; for an attachment, with the envelope's event id, its chunks on the
attachments topic, in order and under the id of the summary it returns, which counts them and
gives the payload's size; for any other item, no summary. -/
def ItemStored (message : StoreEnvelope) (item : Item) (summary : Option ChunkedAttachment)
    (new : List Published) : Prop :=
  (∀ p ∈ new, Unreferencing p) ∧
  if item.ty = .attachment then
    ∃ eventId attachment, message.envelope.eventId = some eventId ∧ summary = some attachment ∧
      attachment.chunks = (chunksOf config.attachmentChunkSize item.payload).length ∧
      attachment.size = some item.payload.length ∧
      new.map (·.message) = (chunksOf config.attachmentChunkSize item.payload).enum.map
        (fun chunk => .attachmentChunk
          ⟨chunk.2, eventId, message.scoping.projectId, attachment.id, chunk.1⟩) ∧
      ∀ p ∈ new, p.topic = .attachments
  else summary = none

/-- `outcomes` pairs each item with what its turn returned and published. -/
def ItemsStored (message : StoreEnvelope) (items : List Item)
    (outcomes : List (Option ChunkedAttachment × List Published)) : Prop :=
  List.Forall₂ (fun item outcome => ItemStored config message item outcome.1 outcome.2) items
    outcomes

variable {config}

/-- A turn that only publishes messages without references and returns no summary stores an
item that is not an attachment. -/
theorem itemStored_of_unreferencing {message : StoreEnvelope} {item : Item}
    (plain : item.ty ≠ .attachment) {m : StoreM Unit} (only : PublishesOnly Unreferencing m) :
    Publishes (m >>= fun _ => pure none) (ItemStored config message item) :=
  only.publishes.bind fun _ _ unreferencing =>
    publishes_pure ⟨by simpa using unreferencing, by rw [if_neg plain]⟩

/-- Every successful turn of the item loop stores its item as `ItemStored` says. -/
theorem publishes_storeItem (message : StoreEnvelope) (item : Item) :
    Publishes (storeItem env parsers config fuel message item) (ItemStored config message item) := by
  unfold storeItem
  split
  next attachment =>
    refine (publishes_requireEventId _).bind fun eventId new ⟨carried, nothing⟩ => ?_
    subst nothing
    refine ((publishes_produceChunked env).and (publishesOnly_produceChunked env fun _ _ _ =>
      publishesOnly_unreferencing_produce env (by rfl)).publishes).bind
      fun summary more ⟨⟨id, summarized, messages, topics⟩, unreferencing⟩ =>
        publishes_pure ⟨by simpa using unreferencing, ?_⟩
    rw [if_pos attachment]
    subst summarized
    exact ⟨eventId, _, carried, rfl, rfl, rfl, by simpa using messages, by simpa using topics⟩
  next _ userReport =>
    refine (publishes_requireEventId _).bind fun _ _ ⟨_, nothing⟩ => ?_
    subst nothing
    simpa only [List.nil_append] using itemStored_of_unreferencing (show item.ty ≠ .attachment by simp [userReport])
      (publishesOnly_unreferencing_produce env (by rfl))
  next _ session =>
    exact itemStored_of_unreferencing (by simp [session])
      (publishesOnly_unreferencing_produceSessions env parsers _ _ _ _ item)
  next _ sessions =>
    exact itemStored_of_unreferencing (by simp [sessions])
      (publishesOnly_unreferencing_produceSessions env parsers _ _ _ _ item)
  next _ metrics =>
    exact itemStored_of_unreferencing (by simp [metrics])
      (publishesOnly_unreferencing_produceMetrics env parsers _ _ item)
  next _ profile =>
    exact itemStored_of_unreferencing (by simp [profile])
      (publishesOnly_unreferencing_produce env (by rfl))
  next _ recording =>
    exact itemStored_of_unreferencing (by simp [recording])
      (publishesOnly_unreferencing_produceReplayRecording env fuel _ _ item _ _)
  next _ replayEvent =>
    refine (publishes_requireEventId _).bind fun _ _ ⟨_, nothing⟩ => ?_
    subst nothing
    simpa only [List.nil_append] using itemStored_of_unreferencing (show item.ty ≠ .attachment by simp [replayEvent])
      (publishesOnly_unreferencing_produce env (by rfl))
  next _ plain _ _ _ _ _ _ _ => exact publishes_pure ⟨by simp, by rw [if_neg plain]⟩

/-- Every successful run of the item loop publishes, item after item, what each item's turn
publishes, and returns the summaries collected before it followed by those of the items. -/
theorem publishes_storeItems (message : StoreEnvelope) :
    ∀ (items : List Item) (attachments : List ChunkedAttachment),
      Publishes (storeItems env parsers config fuel message attachments items) fun result new =>
        ∃ outcomes, ItemsStored config message items outcomes ∧ new = (outcomes.map (·.2)).flatten ∧
          result = attachments ++ outcomes.filterMap (·.1)
  | [], attachments => publishes_pure ⟨[], .nil, rfl, by simp⟩
  | item :: items, attachments =>
    (publishes_storeItem env parsers fuel message item).bind fun summary new stored =>
      (publishes_storeItems message items _).mono fun result more ⟨outcomes, each, published,
          collected⟩ =>
        ⟨(summary, new) :: outcomes, .cons stored each, by simp [published], by
          cases summary <;> simp [collected]⟩

/-- The turns of the items publish no reference to an attachment. -/
theorem unreferencing_of_itemsStored {message : StoreEnvelope} {items : List Item}
    {outcomes : List (Option ChunkedAttachment × List Published)}
    (stored : ItemsStored config message items outcomes) :
    ((outcomes.map (·.2)).flatten).flatMap (·.message.attachments) = [] := by
  induction stored with
  | nil => rfl
  | cons first _ ih =>
    simp only [List.map_cons, List.flatten_cons, List.flatMap_append, ih, List.append_nil]
    exact List.flatMap_eq_nil_iff.mpr first.1

/-- A summary comes from an attachment item. -/
theorem exists_attachment_of_summary {message : StoreEnvelope} {items : List Item}
    {outcomes : List (Option ChunkedAttachment × List Published)}
    (stored : ItemsStored config message items outcomes) {summary : ChunkedAttachment}
    (member : summary ∈ outcomes.filterMap (·.1)) : ∃ item ∈ items, item.ty = .attachment := by
  induction stored with
  | nil => simp at member
  | @cons item outcome _ _ first _ ih =>
    by_cases attachment : item.ty = .attachment
    · exact ⟨item, List.mem_cons_self _ _, attachment⟩
    have none : outcome.1 = none := by simpa [ItemStored, attachment] using first.2
    obtain ⟨other, member, attached⟩ := ih (by simpa [List.filterMap_cons, none] using member)
    exact ⟨other, List.mem_cons_of_mem _ member, attached⟩

/-- An envelope with an attachment item publishes its event or standalone attachments to the
attachments topic. -/
theorem storeTopic_of_attachment {envelope : Envelope} {item : Item}
    (member : item ∈ envelope.items) (attachment : item.ty = .attachment) :
    storeTopic envelope = .attachments := by
  unfold storeTopic
  rw [if_pos (List.find?_isSome.mpr ⟨item, member, by simp [isSlowItem, attachment]⟩)]

/-- A successful store publishes each item's turn, then the messages referencing the summaries:
the event message with all of them, or one standalone message each, on the attachments topic;
the references are exactly the summaries, one per attachment item. -/
theorem attachments_referenced_once (message : StoreEnvelope) :
    Publishes (handleStoreEnvelope env parsers config fuel message) fun _ new =>
      ∃ outcomes final, ItemsStored config message message.envelope.items outcomes ∧
        new = (outcomes.map (·.2)).flatten ++ final ∧
        new.flatMap (·.message.attachments) = outcomes.filterMap (·.1) ∧
        match eventItemOf message.envelope with
        | some eventItem => ∃ eventId, message.envelope.eventId = some eventId ∧
            final.map (·.message) = [.event ⟨eventItem.payload, message.startTime, eventId,
              message.scoping.projectId, message.envelope.meta.clientAddr,
              outcomes.filterMap (·.1)⟩] ∧
            (outcomes.filterMap (·.1) ≠ [] → ∀ p ∈ final, p.topic = .attachments)
        | none => (∀ p ∈ final, p.topic = .attachments) ∧ ∃ eventId,
            (final ≠ [] → message.envelope.eventId = some eventId) ∧
            final.map (·.message) = (outcomes.filterMap (·.1)).map fun attachment =>
              .attachment ⟨eventId, message.scoping.projectId, attachment⟩ := by
  unfold handleStoreEnvelope
  refine (publishes_storeItems env parsers fuel message _ []).bind
    fun attachments new ⟨outcomes, stored, published, collected⟩ => ?_
  subst published
  rw [List.nil_append] at collected
  subst collected
  have quiet := unreferencing_of_itemsStored stored
  cases eventItemOf message.envelope with
  | some eventItem =>
    dsimp only
    refine (publishes_requireEventId _).bind fun eventId _ ⟨carried, nothing⟩ => ?_
    subst nothing
    refine (publishes_produce env _ _ _).mono fun _ more ⟨key, sent⟩ => ?_
    subst sent
    refine ⟨outcomes, _, stored, rfl, ?_, ?_⟩
    · rw [List.flatMap_append, quiet]
      simp [KafkaMessage.attachments]
    refine ⟨eventId, carried, rfl, fun summaries p sent => ?_⟩
    obtain ⟨first, rest, listed⟩ := List.exists_cons_of_ne_nil summaries
    obtain ⟨item, member, attachment⟩ :=
      exists_attachment_of_summary stored (listed ▸ List.mem_cons_self first rest)
    rw [List.mem_singleton.mp sent]
    exact storeTopic_of_attachment member attachment
  | none =>
    dsimp only
    split_ifs with empty
    · have none : outcomes.filterMap (·.1) = [] := List.isEmpty_iff.mp empty
      refine publishes_pure ⟨outcomes, [], stored, by simp, by simp [quiet, none], ?_⟩
      exact ⟨by simp, Uuid.nil, by simp, by simp [none]⟩
    obtain ⟨first, rest, listed⟩ := List.exists_cons_of_ne_nil
      (by simpa using empty : outcomes.filterMap (·.1) ≠ [])
    obtain ⟨item, member, attachment⟩ :=
      exists_attachment_of_summary stored (listed ▸ List.mem_cons_self first rest)
    cases carried : message.envelope.eventId with
    | none =>
      rw [listed]
      have failed : Publishes (requireEventId none) fun _ _ => False := publishes_throw _
      exact (failed.bind fun _ _ impossible => impossible.elim : Publishes _ fun _ _ => False).bind
        fun _ _ impossible => impossible.elim
    | some e =>
      simp only [requireEventId_some, pure_bind]
      refine (publishes_forM (fun _ => publishes_produce env _ _ _) _).mono
        fun _ final ⟨parts, turns, flat⟩ => ?_
      subst flat
      obtain ⟨messages, topics⟩ := forall₂_produced turns
      refine ⟨outcomes, parts.flatten, stored, rfl, ?_, ?_⟩
      · rw [List.flatMap_append, quiet, List.nil_append, ← List.flatMap_map, messages]
        simp [List.flatMap_map, KafkaMessage.attachments]
      · exact ⟨fun p sent => (topics p sent).trans (storeTopic_of_attachment member attachment), e,
          fun _ => rfl, messages⟩

/-- An event with a three-byte attachment, under the event id 7. -/
def Sample.eventAttachmentEnvelope : StoreEnvelope :=
  ⟨⟨Sample.storeMeta, some 7, 90, [⟨.event, [], none, none, none, false⟩,
    ⟨.attachment, [1, 2, 3], none, none, none, false⟩]⟩, 0, ⟨1, 42, 0, none⟩⟩

/-- Stored with an event, the three-byte attachment goes out in two chunks and is referenced
once, by the event message; all three messages go to the attachments topic. -/
theorem event_references_attachment :
    ∃ after, (handleStoreEnvelope Sample.storeEnv Sample.storeParsers Sample.storeConfig 3
        Sample.eventAttachmentEnvelope).run ⟨0, []⟩ = .ok ((), after) ∧
      after.published.map (·.topic) = [.attachments, .attachments, .attachments] ∧
      ∃ new, after.published = [] ++ new ∧ ∃ outcomes final,
        ItemsStored Sample.storeConfig Sample.eventAttachmentEnvelope
          Sample.eventAttachmentEnvelope.envelope.items outcomes ∧
        new = (outcomes.map (·.2)).flatten ++ final ∧
        new.flatMap (·.message.attachments) = outcomes.filterMap (·.1) ∧
        match eventItemOf Sample.eventAttachmentEnvelope.envelope with
        | some eventItem => ∃ eventId, Sample.eventAttachmentEnvelope.envelope.eventId = some eventId ∧
            final.map (·.message) = [.event ⟨eventItem.payload, Sample.eventAttachmentEnvelope.startTime,
              eventId, Sample.eventAttachmentEnvelope.scoping.projectId,
              Sample.eventAttachmentEnvelope.envelope.meta.clientAddr, outcomes.filterMap (·.1)⟩] ∧
            (outcomes.filterMap (·.1) ≠ [] → ∀ p ∈ final, p.topic = .attachments)
        | none => (∀ p ∈ final, p.topic = .attachments) ∧ ∃ eventId,
            (final ≠ [] → Sample.eventAttachmentEnvelope.envelope.eventId = some eventId) ∧
            final.map (·.message) = (outcomes.filterMap (·.1)).map fun attachment =>
              .attachment ⟨eventId, Sample.eventAttachmentEnvelope.scoping.projectId, attachment⟩ :=
  ⟨_, rfl, rfl, attachments_referenced_once Sample.storeEnv Sample.storeParsers 3
    Sample.eventAttachmentEnvelope ⟨0, []⟩ () _ rfl⟩

end Relay
