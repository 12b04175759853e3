import Relay.Basic

/-!
# Messages to Kafka

The store publishes each message to a Kafka topic under a 16-byte partition key: the event
or replay id the message carries, or a fresh random UUID when the message carries none or a
nil one.  Publishing is modelled with an explicit state: how many UUIDs `Uuid::new_v4` has
drawn so far, and the messages published so far with their keys.  The random stream and the
broker's answer to each send are parameters.
-/

namespace Relay

/-- `KafkaTopic`, the topics the store publishes to. -/
inductive KafkaTopic
  | events
  | transactions
  | attachments
  | sessions
  | metricsTransactions
  | metricsSessions
  | profiles
  | replayEvents
  | replayRecordings
  deriving DecidableEq

/-- `ChunkedAttachment`; the model keeps the id as the UUID whose text the code sends. -/
structure ChunkedAttachment where
  id : Uuid
  name : String
  contentType : Option String
  attachmentType : AttachmentType
  chunks : Nat
  size : Option Nat
  rateLimited : Option Bool
  deriving DecidableEq

/-- `EventKafkaMessage` -/
structure EventKafkaMessage where
  payload : List UInt8
  startTime : Nat
  eventId : Uuid
  projectId : ProjectId
  remoteAddr : Option String
  attachments : List ChunkedAttachment
  deriving DecidableEq

/-- `AttachmentKafkaMessage` -/
structure AttachmentKafkaMessage where
  eventId : Uuid
  projectId : ProjectId
  attachment : ChunkedAttachment
  deriving DecidableEq

/-- `AttachmentChunkKafkaMessage` -/
structure AttachmentChunkKafkaMessage where
  payload : List UInt8
  eventId : Uuid
  projectId : ProjectId
  id : Uuid
  chunkIndex : Nat
  deriving DecidableEq

/-- `UserReportKafkaMessage` -/
structure UserReportKafkaMessage where
  projectId : ProjectId
  startTime : Nat
  payload : List UInt8
  eventId : Uuid
  deriving DecidableEq

/-- `SessionStatus` -/
inductive SessionStatus
  | ok
  | exited
  | crashed
  | abnormal
  | errored
  deriving DecidableEq

/-- `SessionKafkaMessage`, without the time received, the duration, the release and the
environment, which the store copies from the parsed session unchanged; `started` is the
start time as `datetime_to_timestamp` gives it. -/
structure SessionKafkaMessage where
  orgId : Nat
  projectId : ProjectId
  sessionId : Uuid
  distinctId : Uuid
  quantity : Nat
  seq : Nat
  started : Nat
  status : SessionStatus
  errors : Nat
  sdk : Option String
  retentionDays : Nat
  deriving DecidableEq

/-- `MetricKafkaMessage`, without the value, timestamp and tags that the store copies from the
parsed bucket unchanged. -/
structure MetricKafkaMessage where
  orgId : Nat
  projectId : ProjectId
  name : String
  deriving DecidableEq

/-- `ProfileKafkaMessage` -/
structure ProfileKafkaMessage where
  organizationId : Nat
  projectId : ProjectId
  keyId : Option Nat
  received : Nat
  payload : List UInt8
  deriving DecidableEq

/-- `ReplayEventKafkaMessage` -/
structure ReplayEventKafkaMessage where
  payload : List UInt8
  startTime : Nat
  replayId : Uuid
  projectId : ProjectId
  retentionDays : Nat
  deriving DecidableEq

/-- `ReplayRecordingChunkMeta`; the id as in `ChunkedAttachment`. -/
structure ReplayRecordingChunkMeta where
  id : Uuid
  chunks : Nat
  size : Option Nat
  deriving DecidableEq

/-- `ReplayRecordingKafkaMessage` -/
structure ReplayRecordingKafkaMessage where
  replayId : Uuid
  keyId : Option Nat
  orgId : Nat
  projectId : ProjectId
  received : Nat
  retentionDays : Nat
  replayRecording : ReplayRecordingChunkMeta
  deriving DecidableEq

/-- `ReplayRecordingNotChunkedKafkaMessage` -/
structure ReplayRecordingNotChunkedKafkaMessage where
  replayId : Uuid
  keyId : Option Nat
  orgId : Nat
  projectId : ProjectId
  received : Nat
  retentionDays : Nat
  payload : List UInt8
  deriving DecidableEq

/-- `ReplayRecordingChunkKafkaMessage` -/
structure ReplayRecordingChunkKafkaMessage where
  payload : List UInt8
  replayId : Uuid
  projectId : ProjectId
  id : Uuid
  chunkIndex : Nat
  deriving DecidableEq

/-- `KafkaMessage` -/
inductive KafkaMessage
  | event (message : EventKafkaMessage)
  | attachment (message : AttachmentKafkaMessage)
  | attachmentChunk (message : AttachmentChunkKafkaMessage)
  | userReport (message : UserReportKafkaMessage)
  | session (message : SessionKafkaMessage)
  | metric (message : MetricKafkaMessage)
  | profile (message : ProfileKafkaMessage)
  | replayEvent (message : ReplayEventKafkaMessage)
  | replayRecordingNotChunked (message : ReplayRecordingNotChunkedKafkaMessage)
  | replayRecording (message : ReplayRecordingKafkaMessage)
  | replayRecordingChunk (message : ReplayRecordingChunkKafkaMessage)
  deriving DecidableEq

/-- The id `KafkaMessage::key` starts from: the event or replay id, or nil. -/
def KafkaMessage.partitionId : KafkaMessage → Uuid
  | .event message => message.eventId
  | .attachment message => message.eventId
  | .attachmentChunk message => message.eventId
  | .userReport message => message.eventId
  | .session _ => Uuid.nil
  | .metric _ => Uuid.nil
  | .profile _ => Uuid.nil
  | .replayEvent message => message.replayId
  | .replayRecording message => message.replayId
  | .replayRecordingChunk message => message.replayId
  | .replayRecordingNotChunked _ => Uuid.nil

/-- Whether `KafkaMessage::key` keys the message at random whatever it holds: sessions,
metrics, profiles and unchunked replay recordings carry the nil id. -/
def KafkaMessage.randomlyKeyed : KafkaMessage → Bool
  | .session _ | .metric _ | .profile _ | .replayRecordingNotChunked _ => true
  | _ => false

/-- One published message: its topic, the organization it was sent for and its partition
key. -/
structure Published where
  topic : KafkaTopic
  organizationId : Nat
  key : Uuid
  message : KafkaMessage
  deriving DecidableEq

/-- The store's state: the UUIDs drawn so far and the messages published so far. -/
structure StoreState where
  draws : Nat
  published : List Published
  deriving DecidableEq

/-- `relay_kafka::ClientError` -/
structure ClientError where
  description : String
  deriving DecidableEq

/-- `StoreError` -/
inductive StoreError
  | sendFailed (error : ClientError)
  | noEventId
  deriving DecidableEq

/-- How a run of the store stops early: with an error the code returns, or with the model's
fuel for a loop used up. -/
inductive Stop
  | error (error : StoreError)
  | outOfFuel
  deriving DecidableEq

/-- The store's computations: state passing with early stops. -/
abbrev StoreM := StateT StoreState (Except Stop)

@[simp]
theorem StoreM.except_pure {α : Type} (value : α) : (pure value : Except Stop α) = .ok value :=
  rfl

@[simp]
theorem StoreM.except_ok_bind {α β : Type} (value : α) (next : α → Except Stop β) :
    (Except.ok value >>= next) = next value :=
  rfl

@[simp]
theorem StoreM.run_pure {α : Type} (value : α) (state : StoreState) :
    (pure value : StoreM α).run state = .ok (value, state) := rfl

@[simp]
theorem StoreM.run_bind {α β : Type} (first : StoreM α) (next : α → StoreM β)
    (state : StoreState) :
    (first >>= next).run state =
      match first.run state with
      | .ok (value, state) => (next value).run state
      | .error stop => .error stop := by
  change StateT.bind first next state =
    match first state with
    | .ok (value, state) => next value state
    | .error stop => .error stop
  unfold StateT.bind
  rcases first state with _ | ⟨value, state⟩ <;> rfl

@[simp]
theorem StoreM.run_throw {α : Type} (stop : Stop) (state : StoreState) :
    (throw stop : StoreM α).run state = .error stop := rfl

@[simp]
theorem StoreM.run_modify (change : StoreState → StoreState) (state : StoreState) :
    (modify change : StoreM Unit).run state = .ok ((), change state) := rfl

/-- The code the store calls that is not among the sources, as far as the modelled
functions use it: `Uuid::new_v4` as a stream of UUIDs, and the broker's answer to
`KafkaClient::send_message` for a topic, an organization, a key and a message. -/
structure StoreEnv where
  random : Nat → Uuid
  send : KafkaTopic → Nat → Uuid → KafkaMessage → Except ClientError Unit

variable (env : StoreEnv)

/-- `Uuid::new_v4()`: the next UUID of the random stream. -/
def newV4 : StoreM Uuid := fun state =>
  .ok (env.random state.draws, { state with draws := state.draws + 1 })

@[simp]
theorem run_newV4 (state : StoreState) :
    (newV4 env).run state = .ok (env.random state.draws, { state with draws := state.draws + 1 }) :=
  rfl

/-- `KafkaMessage::key`: the message's id, or a fresh random UUID if that is nil. -/
def KafkaMessage.key (message : KafkaMessage) : StoreM Uuid :=
  if message.partitionId = Uuid.nil then newV4 env else pure message.partitionId

/-- `StoreService::produce`: `KafkaClient::send_message`, the parameter `env.send`, sends the
message under `KafkaMessage::key`, and a failed send becomes `SendFailed`. -/
def produce (topic : KafkaTopic) (organizationId : Nat) (message : KafkaMessage) :
    StoreM Unit := do
  let key ← message.key env
  match env.send topic organizationId key message with
  | .ok () => modify fun state =>
      { state with published := state.published ++ [⟨topic, organizationId, key, message⟩] }
  | .error error => throw (.error (.sendFailed error))

/-- Computing the key draws at most one UUID and publishes nothing; a non-nil id is the key. -/
theorem KafkaMessage.key_run (message : KafkaMessage) (state : StoreState) :
    ∃ key draws, (message.key env).run state = .ok (key, ⟨draws, state.published⟩) ∧
      (message.partitionId ≠ Uuid.nil → key = message.partitionId ∧ draws = state.draws) := by
  by_cases nil : message.partitionId = Uuid.nil
  · exact ⟨env.random state.draws, state.draws + 1, by simp [KafkaMessage.key, nil],
      fun named => absurd nil named⟩
  · exact ⟨_, _, by simp [KafkaMessage.key, nil], fun _ => ⟨rfl, rfl⟩⟩

/-- A message that the broker accepts is published, under its id if that is not nil, and
nothing else changes but the draws. -/
theorem produce_run (topic : KafkaTopic) (organizationId : Nat) (message : KafkaMessage)
    (state : StoreState) (sent : ∀ key, env.send topic organizationId key message = .ok ()) :
    ∃ key draws, (produce env topic organizationId message).run state =
        .ok ((), ⟨draws, state.published ++ [⟨topic, organizationId, key, message⟩]⟩) ∧
      (message.partitionId ≠ Uuid.nil → key = message.partitionId ∧ draws = state.draws) := by
  obtain ⟨key, draws, keyed, named⟩ := message.key_run env state
  exact ⟨key, draws, by simp [produce, keyed, sent], named⟩

/-- Every run of `m` that succeeds keeps the messages published before it and publishes only
messages that satisfy `good`. -/
def PublishesOnly {α : Type} (good : Published → Prop) (m : StoreM α) : Prop :=
  ∀ state result after, m.run state = .ok (result, after) →
    ∃ new, after.published = state.published ++ new ∧ ∀ p ∈ new, good p

section PublishesOnly

variable {good : Published → Prop} {α β : Type}

theorem publishesOnly_pure (value : α) : PublishesOnly good (pure value : StoreM α) := by
  intro state result after ran
  cases ran
  exact ⟨[], by simp, by simp⟩

theorem publishesOnly_throw (stop : Stop) : PublishesOnly good (throw stop : StoreM α) := by
  intro state result after ran
  cases ran

theorem publishesOnly_newV4 : PublishesOnly good (newV4 env) := by
  intro state result after ran
  cases ran
  exact ⟨[], by simp, by simp⟩

theorem PublishesOnly.bind {first : StoreM α} {next : α → StoreM β}
    (firstOnly : PublishesOnly good first) (nextOnly : ∀ value, PublishesOnly good (next value)) :
    PublishesOnly good (first >>= next) := by
  intro state result after ran
  rw [StoreM.run_bind] at ran
  rcases firstRan : first.run state with stop | ⟨value, middle⟩
  · simp [firstRan] at ran
  · simp only [firstRan] at ran
    obtain ⟨new, grown, goodNew⟩ := firstOnly state value middle firstRan
    obtain ⟨more, grownMore, goodMore⟩ := nextOnly value middle result after ran
    refine ⟨new ++ more, by rw [grownMore, grown, List.append_assoc], fun p member => ?_⟩
    rcases List.mem_append.mp member with early | late
    · exact goodNew p early
    · exact goodMore p late

/-- A run of `produce` publishes its message under the key `KafkaMessage::key` computes. -/
theorem publishesOnly_produce {topic : KafkaTopic} {organizationId : Nat}
    {message : KafkaMessage}
    (keyed : ∀ key, (message.partitionId ≠ Uuid.nil → key = message.partitionId) →
      good ⟨topic, organizationId, key, message⟩) :
    PublishesOnly good (produce env topic organizationId message) := by
  intro state result after ran
  obtain ⟨key, draws, keyRan, named⟩ := message.key_run env state
  simp only [produce, StoreM.run_bind, keyRan] at ran
  split at ran
  · cases ran
    exact ⟨[_], rfl, by simpa using keyed key fun nonNil => (named nonNil).1⟩
  · cases ran

theorem publishesOnly_forM {f : α → StoreM PUnit} :
    ∀ list : List α, (∀ a ∈ list, PublishesOnly good (f a)) → PublishesOnly good (list.forM f)
  | [], _ => publishesOnly_pure _
  | a :: rest, each => (each a (List.mem_cons_self _ _)).bind fun _ =>
    publishesOnly_forM rest fun b member => each b (List.mem_cons_of_mem _ member)

end PublishesOnly

/-- Every run of `m` that succeeds keeps the messages published before it and appends
messages `new` with `post result new`. -/
def Publishes {α : Type} (m : StoreM α) (post : α → List Published → Prop) : Prop :=
  ∀ state result after, m.run state = .ok (result, after) →
    ∃ new, after.published = state.published ++ new ∧ post result new

section Publishes

variable {α β : Type} {post : β → List Published → Prop}

/-- A successful run of a bind is a successful run of its first part and then of the rest. -/
theorem run_bind_ok {first : StoreM α} {next : α → StoreM β} {state after : StoreState}
    {result : β} (ran : (first >>= next).run state = .ok (result, after)) :
    ∃ value middle, first.run state = .ok (value, middle) ∧
      (next value).run middle = .ok (result, after) := by
  rw [StoreM.run_bind] at ran
  split at ran
  · exact ⟨_, _, ‹_›, ran⟩
  · cases ran

theorem Publishes.mono {m : StoreM β} {weaker : β → List Published → Prop}
    (holds : Publishes m post) (implies : ∀ result new, post result new → weaker result new) :
    Publishes m weaker := fun state result after ran =>
  let ⟨new, grown, established⟩ := holds state result after ran
  ⟨new, grown, implies result new established⟩

theorem publishes_pure {value : β} (holds : post value []) : Publishes (pure value) post := by
  intro state result after ran
  cases ran
  exact ⟨[], by simp, holds⟩

theorem publishes_throw (stop : Stop) : Publishes (throw stop : StoreM β) post := by
  intro state result after ran
  cases ran

theorem publishes_newV4 : Publishes (newV4 env) fun _ new => new = [] := by
  intro state result after ran
  cases ran
  exact ⟨[], by simp, rfl⟩

/-- The continuation's postcondition, shifted by what the first part published. -/
theorem Publishes.bind {first : StoreM α} {next : α → StoreM β}
    {middle : α → List Published → Prop} (firstHolds : Publishes first middle)
    (nextHolds : ∀ value new, middle value new →
      Publishes (next value) fun result more => post result (new ++ more)) :
    Publishes (first >>= next) post := by
  intro state result after ran
  obtain ⟨value, between, firstRan, nextRan⟩ := run_bind_ok ran
  obtain ⟨new, grown, established⟩ := firstHolds state value between firstRan
  obtain ⟨more, grownMore, holds⟩ := nextHolds value new established between result after nextRan
  exact ⟨new ++ more, by rw [grownMore, grown, List.append_assoc], holds⟩

/-- A run publishes one list of messages, so two postconditions of a computation hold of the
same list. -/
theorem Publishes.and {m : StoreM β} {other : β → List Published → Prop}
    (holds : Publishes m post) (alsoHolds : Publishes m other) :
    Publishes m fun result new => post result new ∧ other result new := by
  intro state result after ran
  obtain ⟨new, grown, established⟩ := holds state result after ran
  obtain ⟨new', grown', alsoEstablished⟩ := alsoHolds state result after ran
  have same : new' = new := List.append_cancel_left (grown'.symm.trans grown)
  exact ⟨new, grown, established, same ▸ alsoEstablished⟩

/-- A successful `produce` publishes its message once, under some key. -/
theorem publishes_produce (topic : KafkaTopic) (organizationId : Nat) (message : KafkaMessage) :
    Publishes (produce env topic organizationId message) fun _ new =>
      ∃ key, new = [⟨topic, organizationId, key, message⟩] := by
  intro state result after ran
  obtain ⟨key, draws, keyRan, -⟩ := message.key_run env state
  simp only [produce, StoreM.run_bind, keyRan] at ran
  split at ran
  · cases ran
    exact ⟨[⟨topic, organizationId, key, message⟩], rfl, key, rfl⟩
  · cases ran

/-- Every successful `forM` publishes, element after element, what each turn publishes. -/
theorem publishes_forM {f : α → StoreM PUnit} {each : α → List Published → Prop}
    (holds : ∀ a, Publishes (f a) fun _ new => each a new) :
    ∀ list : List α, Publishes (list.forM f) fun _ new =>
      ∃ parts, List.Forall₂ each list parts ∧ new = parts.flatten
  | [] => publishes_pure ⟨[], .nil, rfl⟩
  | a :: rest => (holds a).bind fun _ new first =>
    (publishes_forM holds rest).mono fun _ more ⟨parts, others, flat⟩ =>
      ⟨new :: parts, .cons first others, by rw [flat, List.flatten_cons]⟩

/-- Turns that each publish one message of a value publish, together, one message per value,
in order. -/
theorem forall₂_produced {topic : KafkaTopic} {organizationId : Nat} {message : α → KafkaMessage} :
    ∀ {values : List α} {parts : List (List Published)},
      List.Forall₂ (fun value new => ∃ key, new = [⟨topic, organizationId, key, message value⟩])
        values parts →
      parts.flatten.map (·.message) = values.map message ∧ ∀ p ∈ parts.flatten, p.topic = topic
  | _, _, .nil => ⟨rfl, by simp⟩
  | _, _, .cons ⟨key, sent⟩ rest => by
    obtain ⟨messages, topics⟩ := forall₂_produced rest
    subst sent
    refine ⟨by simp [messages], fun p member => ?_⟩
    rcases List.mem_cons.mp member with rfl | later
    · rfl
    · exact topics p later

/-- Turns that each publish a list of messages publish, together, the lists in order. -/
theorem forall₂_flatten {values : List α} {parts : List (List Published)}
    {messages : α → List KafkaMessage} {topic : KafkaTopic}
    (each : List.Forall₂ (fun value new =>
      new.map (·.message) = messages value ∧ ∀ p ∈ new, p.topic = topic) values parts) :
    parts.flatten.map (·.message) = values.flatMap messages ∧ ∀ p ∈ parts.flatten, p.topic = topic := by
  induction each with
  | nil => exact ⟨rfl, by simp⟩
  | cons first _ ih =>
    refine ⟨by simp [first.1, ih.1], fun p member => ?_⟩
    rcases List.mem_append.mp member with early | later
    · exact first.2 p early
    · exact ih.2 p later

/-- A `forM` whose turns all succeed succeeds. -/
theorem forM_run_ok {f : α → StoreM PUnit}
    (each : ∀ a state, ∃ after, (f a).run state = .ok (⟨⟩, after)) :
    ∀ (list : List α) (state : StoreState), ∃ after, (list.forM f).run state = .ok (⟨⟩, after)
  | [], state => ⟨state, rfl⟩
  | a :: rest, state => by
    obtain ⟨middle, first⟩ := each a state
    obtain ⟨after, others⟩ := forM_run_ok each rest middle
    refine ⟨after, ?_⟩
    show (f a >>= fun _ => rest.forM f).run state = _
    rw [StoreM.run_bind, first]
    exact others

end Publishes

/-- `p` went out under the key `e`, unless `KafkaMessage::key` keys its kind at random. -/
def KeyedBy (e : Uuid) (p : Published) : Prop :=
  p.message.randomlyKeyed = false → p.key = e

section KeyedBy

variable {e : Uuid} {topic : KafkaTopic} {organizationId : Nat} {message : KafkaMessage}

/-- A message that carries the non-nil id `e` goes out under the key `e`. -/
theorem publishesOnly_keyedBy_produce (named : e ≠ Uuid.nil)
    (carries : message.randomlyKeyed = false → message.partitionId = e) :
    PublishesOnly (KeyedBy e) (produce env topic organizationId message) :=
  publishesOnly_produce env fun key keyed notRandom => by
    rw [keyed (carries notRandom ▸ named), carries notRandom]

theorem publishesOnly_keyedBy_random (random : message.randomlyKeyed = true) :
    PublishesOnly (KeyedBy e) (produce env topic organizationId message) :=
  publishesOnly_produce env fun _ _ notRandom => absurd (random.symm.trans notRandom) (by decide)

end KeyedBy

end Relay

