import Relay.Store.Envelope

/-!
# When storing an envelope fails

`handle_store_envelope` reads the envelope's event id, with `ok_or(StoreError::NoEventId)?`,
for every attachment, user report and replay event, in `produce_replay_recording`, and for the
event item; every other item is stored without it.  So with a broker that accepts every
message, a positive attachment chunk size and a turn of each chunk loop per byte, a run
stops with `NoEventId` exactly when the envelope has no event id and an item that needs it,
whatever the store's state, and succeeds otherwise: no other item and no order of items
makes it fail.
-/

namespace Relay

/-- Whether the item loop reads the event id to store the item: attachments, user reports,
replay events and replay recordings. -/
def readsEventId (item : Item) : Bool :=
  item.ty == .attachment || item.ty == .userReport || item.ty == .replayEvent ||
    item.ty == .replayRecording

/-- The items `handle_store_envelope` takes for its event item. -/
def isEventItem (item : Item) : Bool :=
  item.ty == .event || item.ty == .transaction || item.ty == .security

theorem eventItemOf_eq (envelope : Envelope) : eventItemOf envelope = envelope.items.find? isEventItem :=
  rfl

/-- An envelope without event id that holds an item whose storing needs it. -/
def missesEventId (envelope : Envelope) : Bool :=
  envelope.eventId.isNone && envelope.items.any fun item => readsEventId item || isEventItem item

/-- Every run of `m` succeeds, whatever the store's state, with a result satisfying `post`. -/
def Returns {α : Type} (m : StoreM α) (post : α → Prop) : Prop :=
  ∀ state, ∃ result after, m.run state = .ok (result, after) ∧ post result

section Returns

variable (env : StoreEnv) {α β : Type} {post : β → Prop}

theorem returns_pure {value : β} (holds : post value) : Returns (pure value) post :=
  fun state => ⟨value, state, rfl, holds⟩

theorem Returns.bind {first : StoreM α} {middle : α → Prop} {next : α → StoreM β}
    (firstReturns : Returns first middle) (nextReturns : ∀ value, middle value → Returns (next value) post) :
    Returns (first >>= next) post := fun state =>
  let ⟨value, between, firstRan, established⟩ := firstReturns state
  let ⟨result, after, nextRan, holds⟩ := nextReturns value established between
  ⟨result, after, by rw [StoreM.run_bind, firstRan]; exact nextRan, holds⟩

theorem Returns.mono {m : StoreM β} {weaker : β → Prop} (returns : Returns m post)
    (implies : ∀ result, post result → weaker result) : Returns m weaker := fun state =>
  let ⟨result, after, ran, holds⟩ := returns state
  ⟨result, after, ran, implies result holds⟩

theorem returns_forM {f : α → StoreM PUnit} (each : ∀ a, Returns (f a) fun _ => True)
    (list : List α) : Returns (list.forM f) fun _ => True := fun state =>
  let ⟨after, ran⟩ := forM_run_ok (fun a state =>
    let ⟨⟨⟩, after, ran, _⟩ := each a state
    ⟨after, ran⟩) list state
  ⟨⟨⟩, after, ran, trivial⟩

variable (sent : ∀ topic organizationId key message, env.send topic organizationId key message = .ok ())
include sent

theorem returns_produce (topic : KafkaTopic) (organizationId : Nat) (message : KafkaMessage) :
    Returns (produce env topic organizationId message) fun _ => True := fun state =>
  let ⟨_, _, ran, _⟩ := produce_run env topic organizationId message state (sent _ _ · _)
  ⟨_, _, ran, trivial⟩

theorem returns_produceChunked {topic : KafkaTopic} {organizationId maxChunkSize : Nat}
    {chunkMessage : Uuid → List UInt8 → Nat → KafkaMessage} {payload : List UInt8}
    {summary : Uuid → Nat → α} (positive : 0 < maxChunkSize) {fuel : Nat}
    (enough : payload.length ≤ fuel) :
    Returns (produceChunked env topic organizationId maxChunkSize chunkMessage payload summary fuel)
      fun _ => True := fun state =>
  let ⟨after, ran, _⟩ := produceChunked_run env sent positive enough state
  ⟨_, after, ran, trivial⟩

theorem returns_produceSessions (parsers : StoreParsers) (orgId : Nat) (projectId : ProjectId)
    (eventRetention : Nat) (client : Option String) (item : Item) :
    Returns (produceSessions env parsers orgId projectId eventRetention client item)
      fun _ => True := by
  unfold produceSessions
  split
  · split
    · exact returns_pure trivial
    · exact returns_produce env sent _ _ _
  · split
    · exact returns_pure trivial
    · exact returns_forM (fun _ => returns_forM (fun _ =>
        returns_produce env sent _ _ _) _) _
  · exact returns_pure trivial

theorem returns_produceMetrics (parsers : StoreParsers) (orgId : Nat) (projectId : ProjectId)
    (item : Item) : Returns (produceMetrics env parsers orgId projectId item) fun _ => True := by
  refine returns_forM (fun bucket => ?_) _
  unfold sendMetricMessage
  split
  all_goals first | exact returns_pure trivial | exact returns_produce env sent _ _ _

theorem returns_produceReplayRecording {eventId : Option Uuid} {e : Uuid} (carried : eventId = some e)
    {fuel : Nat} {item : Item} (enough : item.payload.length ≤ fuel) (scoping : Scoping)
    (startTime retention : Nat) :
    Returns (produceReplayRecording env fuel eventId scoping item startTime retention)
      fun _ => True := by
  unfold produceReplayRecording
  simp only [carried, requireEventId_some, pure_bind]
  split
  · exact returns_produce env sent _ _ _
  · exact (returns_produceChunked env sent (by decide) enough).bind fun _ _ =>
      returns_produce env sent _ _ _

end Returns

/-- Every run of `m` stops with `stop`, whatever the store's state. -/
def Stops {α : Type} (m : StoreM α) (stop : Stop) : Prop := ∀ state, m.run state = .error stop

section Stops

variable {α β : Type} {stop : Stop}

theorem stops_throw : Stops (throw stop : StoreM α) stop := fun _ => rfl

theorem Stops.bind {first : StoreM α} (stops : Stops first stop) (next : α → StoreM β) :
    Stops (first >>= next) stop := fun state => by
  rw [StoreM.run_bind, stops state]

theorem Returns.bind_stops {first : StoreM α} {middle : α → Prop} {next : α → StoreM β}
    (returns : Returns first middle) (nextStops : ∀ value, middle value → Stops (next value) stop) :
    Stops (first >>= next) stop := fun state => by
  obtain ⟨value, between, ran, established⟩ := returns state
  rw [StoreM.run_bind, ran]
  exact nextStops value established between

end Stops

section Items

variable (env : StoreEnv) (parsers : StoreParsers) (config : Config) (fuel : Nat)

/-- One turn of the item loop succeeds when the item has its event id or does not read it,
and returns a summary only for an attachment. -/
theorem returns_storeItem
    (sent : ∀ topic organizationId key message, env.send topic organizationId key message = .ok ())
    (positive : 0 < config.attachmentChunkSize) {message : StoreEnvelope} {item : Item}
    (enough : item.payload.length ≤ fuel)
    (available : message.envelope.eventId.isSome ∨ readsEventId item = false) :
    Returns (storeItem env parsers config fuel message item) fun summary =>
      summary.isSome → item.ty = .attachment := by
  have withId (reads : readsEventId item = true) : ∃ e, message.envelope.eventId = some e := by
    simpa [reads, Option.isSome_iff_exists] using available
  unfold storeItem
  split
  case h_1 attachment =>
    obtain ⟨e, carried⟩ := withId (by simp [readsEventId, attachment])
    simp only [carried, requireEventId_some, pure_bind]
    exact (returns_produceChunked env sent positive enough).bind fun _ _ =>
      returns_pure fun _ => attachment
  case h_2 report =>
    obtain ⟨e, carried⟩ := withId (by simp [readsEventId, report])
    simp only [carried, requireEventId_some, pure_bind]
    exact (returns_produce env sent _ _ _).bind fun _ _ => returns_pure (by simp)
  case h_3 | h_4 =>
    exact (returns_produceSessions env sent parsers _ _ _ _ item).bind fun _ _ =>
      returns_pure (by simp)
  case h_5 =>
    exact (returns_produceMetrics env sent parsers _ _ item).bind fun _ _ => returns_pure (by simp)
  case h_6 =>
    exact (returns_produce env sent _ _ _).bind fun _ _ => returns_pure (by simp)
  case h_7 recording =>
    obtain ⟨e, carried⟩ := withId (by simp [readsEventId, recording])
    exact (returns_produceReplayRecording env sent carried enough _ _ _).bind fun _ _ =>
      returns_pure (by simp)
  case h_8 replayEvent =>
    obtain ⟨e, carried⟩ := withId (by simp [readsEventId, replayEvent])
    simp only [carried, requireEventId_some, pure_bind]
    exact (returns_produce env sent _ _ _).bind fun _ _ => returns_pure (by simp)
  case h_9 => exact returns_pure (by simp)

/-- Without event id, one turn of the item loop on an item that reads it stops with
`NoEventId` before publishing anything. -/
theorem storeItem_stops {message : StoreEnvelope} {item : Item}
    (missing : message.envelope.eventId = none) (reads : readsEventId item = true) :
    Stops (storeItem env parsers config fuel message item) (.error .noEventId) := by
  have noId : Stops (requireEventId message.envelope.eventId) (.error .noEventId) := by
    rw [missing]
    exact stops_throw
  unfold storeItem
  split
  case h_1 | h_2 | h_8 => exact noId.bind _
  case h_7 =>
    refine Stops.bind ?_ _
    unfold produceReplayRecording
    dsimp only
    split
    · exact noId.bind _
    · exact noId.bind _
  all_goals simp_all [readsEventId]

/-- The item loop, from any summaries on, succeeds when the envelope has its event id or no
item reads it, and then adds summaries only for attachments. -/
theorem returns_storeItems
    (sent : ∀ topic organizationId key message, env.send topic organizationId key message = .ok ())
    (positive : 0 < config.attachmentChunkSize) {message : StoreEnvelope}
    (available : message.envelope.eventId.isSome ∨
      ∀ item ∈ message.envelope.items, readsEventId item = false) :
    ∀ (items : List Item), items ⊆ message.envelope.items →
      (∀ item ∈ items, item.payload.length ≤ fuel) → ∀ attachments,
      Returns (storeItems env parsers config fuel message attachments items) fun result =>
        (∀ item ∈ items, item.ty ≠ .attachment) → result = attachments
  | [], _, _, attachments => returns_pure fun _ => rfl
  | item :: items, within, enough, attachments =>
    (returns_storeItem env parsers config fuel sent positive (enough item (List.mem_cons_self _ _))
        (available.imp_right fun none => none item (within (List.mem_cons_self _ _)))).bind
      fun summary summarised =>
        (returns_storeItems sent positive available items (List.subset_of_cons_subset within)
          (fun other member => enough other (List.mem_cons_of_mem _ member)) _).mono
          fun result kept plain => by
            have single : summary = none := Option.not_isSome_iff_eq_none.mp fun some =>
              plain item (List.mem_cons_self _ _) (summarised some)
            rw [kept fun other member => plain other (List.mem_cons_of_mem _ member), single]
            exact List.append_nil attachments

/-- Without event id, the item loop stops with `NoEventId` if some item reads it. -/
theorem storeItems_stops
    (sent : ∀ topic organizationId key message, env.send topic organizationId key message = .ok ())
    (positive : 0 < config.attachmentChunkSize) {message : StoreEnvelope} (missing : message.envelope.eventId = none) :
    ∀ (items : List Item), (∀ item ∈ items, item.payload.length ≤ fuel) →
      (∃ item ∈ items, readsEventId item = true) → ∀ attachments,
      Stops (storeItems env parsers config fuel message attachments items) (.error .noEventId)
  | [], _, ⟨_, member, _⟩, _ => absurd member (List.not_mem_nil _)
  | item :: items, enough, reading, attachments => by
    cases reads : readsEventId item
    case true => exact (storeItem_stops env parsers config fuel missing reads).bind _
    case false =>
      obtain ⟨other, member, otherReads⟩ := reading
      have later : other ∈ items := (List.mem_cons.mp member).resolve_left fun same => by
        simp [same, reads] at otherReads
      exact (returns_storeItem env parsers config fuel sent positive
          (enough item (List.mem_cons_self _ _)) (.inr reads)).bind_stops fun _ _ =>
        storeItems_stops sent positive missing items (fun other member => enough other (List.mem_cons_of_mem _ member))
          ⟨other, later, otherReads⟩ _

/-- An item the loop stores without the event id is no attachment. -/
theorem ne_attachment_of_readsEventId {item : Item} (plain : readsEventId item = false) :
    item.ty ≠ .attachment := fun attachment => by
  simp [readsEventId, attachment] at plain

section Envelope

variable (sent : ∀ topic organizationId key message, env.send topic organizationId key message = .ok ())
  (positive : 0 < config.attachmentChunkSize) {message : StoreEnvelope}
  (enough : ∀ item ∈ message.envelope.items, item.payload.length ≤ fuel)
include sent positive enough

/-- Without event id, an envelope with an item that needs it stops with `NoEventId`: in the
item loop if an item reads the id, or else when the event message is built. -/
theorem handleStoreEnvelope_stops (misses : missesEventId message.envelope = true) :
    Stops (handleStoreEnvelope env parsers config fuel message) (.error .noEventId) := by
  unfold handleStoreEnvelope
  dsimp only
  simp only [missesEventId, Bool.and_eq_true, Option.isNone_iff_eq_none, List.any_eq_true,
    Bool.or_eq_true] at misses
  obtain ⟨missing, item, member, needs⟩ := misses
  by_cases reading : ∃ item ∈ message.envelope.items, readsEventId item = true
  · exact (storeItems_stops env parsers config fuel sent positive missing _ enough reading
      []).bind _
  simp only [not_exists, not_and, Bool.not_eq_true] at reading
  have event : isEventItem item = true := by simpa [reading item member] using needs
  obtain ⟨eventItem, found⟩ : ∃ eventItem, eventItemOf message.envelope = some eventItem :=
    Option.isSome_iff_exists.mp (List.find?_isSome.mpr ⟨item, member, event⟩)
  refine (returns_storeItems env parsers config fuel sent positive (.inr reading) _
    (List.Subset.refl _) enough []).bind_stops fun _ _ => ?_
  simp only [found, missing]
  exact stops_throw.bind _

/-- An envelope that has its event id, or needs none, is stored. -/
theorem returns_handleStoreEnvelope (kept : missesEventId message.envelope = false) :
    Returns (handleStoreEnvelope env parsers config fuel message) fun _ => True := by
  have items := @returns_storeItems env parsers config fuel sent positive message
  unfold handleStoreEnvelope
  dsimp only
  cases carried : message.envelope.eventId with
  | some e =>
    refine (items (.inl (by simp [carried])) _ (List.Subset.refl _) enough []).bind
      fun attachments _ => ?_
    simp only [carried, requireEventId_some, pure_bind]
    split
    · exact returns_produce env sent _ _ _
    · split
      · exact returns_pure trivial
      · exact returns_forM (fun _ => returns_produce env sent _ _ _) _
  | none =>
    simp only [missesEventId, carried, Option.isNone_none, Bool.true_and, List.any_eq_false,
      Bool.not_eq_true, Bool.or_eq_false_iff] at kept
    have noEvent : eventItemOf message.envelope = none := (eventItemOf_eq _).trans
      (List.find?_eq_none.mpr fun item member => by simp [(kept item member).2])
    refine (items (.inr fun item member => (kept item member).1) _ (List.Subset.refl _) enough
      []).bind fun attachments none => ?_
    rw [none fun item member => ne_attachment_of_readsEventId (kept item member).1, noEvent]
    exact returns_pure trivial

end Envelope

end Items

/-- With a broker that accepts every message, a positive attachment chunk size and a turn of
each chunk loop per byte of every item, `handle_store_envelope` stops with `NoEventId` from
every state of the store when the envelope has no event id and an attachment, user report,
replay event, replay recording or event item, and succeeds from every state otherwise. -/
theorem store_fails_only_without_event_id (env : StoreEnv) (parsers : StoreParsers)
    (config : Config) (fuel : Nat)
    (sent : ∀ topic organizationId key message, env.send topic organizationId key message = .ok ())
    (positive : 0 < config.attachmentChunkSize) (message : StoreEnvelope)
    (enough : ∀ item ∈ message.envelope.items, item.payload.length ≤ fuel) :
    (missesEventId message.envelope = true → ∀ state,
      (handleStoreEnvelope env parsers config fuel message).run state =
        .error (.error .noEventId)) ∧
    (missesEventId message.envelope = false → ∀ state, ∃ after,
      (handleStoreEnvelope env parsers config fuel message).run state = .ok ((), after)) :=
  ⟨handleStoreEnvelope_stops env parsers config fuel sent positive enough,
    fun kept state => by
      obtain ⟨⟨⟩, after, ran, -⟩ :=
        returns_handleStoreEnvelope env parsers config fuel sent positive enough kept state
      exact ⟨after, ran⟩⟩

/-- `attachmentEnvelope` without its event id. -/
def Sample.anonymousEnvelope : StoreEnvelope :=
  { Sample.attachmentEnvelope 7 with
    envelope := { (Sample.attachmentEnvelope 7).envelope with eventId := none } }

theorem anonymous_attachment_stops :
    missesEventId Sample.anonymousEnvelope.envelope = true ∧
      (handleStoreEnvelope Sample.storeEnv Sample.storeParsers Sample.storeConfig 3
        Sample.anonymousEnvelope).run ⟨0, []⟩ = .error (.error .noEventId) :=
  have misses : missesEventId Sample.anonymousEnvelope.envelope = true := by decide
  ⟨misses, (store_fails_only_without_event_id Sample.storeEnv Sample.storeParsers
    Sample.storeConfig 3 (fun _ _ _ _ => rfl) (by decide) Sample.anonymousEnvelope (by decide)).1
    misses ⟨0, []⟩⟩

end Relay
