import Relay.Store.Attachments
import Relay.Store.Sessions

/-!
# Session messages fit their fields

`SessionKafkaMessage::errors` is a `u16`.  `produce_session_update` fills it with
`session.errors.clamp(crashed as _, u16::MAX.into()) as _`, so the conversion never truncates
and a crashed session counts at least one error; the messages exploded from an aggregate count
no error for exited sessions and one otherwise, and only statuses with a positive count are
sent.  Every session message a store run publishes therefore counts at least one session, has
an error count of at most `u16::MAX`, and a positive one if its status is crashed.
-/

namespace Relay

/-- A published session message counts at least one session, its error count fits `u16`, and
is positive for a crashed session. -/
def SessionBounded (p : Published) : Prop :=
  ∀ session, p.message = .session session → 0 < session.quantity ∧
    session.errors ≤ 65535 ∧ (session.status = .crashed → 0 < session.errors)

section SessionBounded

variable (env : StoreEnv) (parsers : StoreParsers) (config : Config) (fuel : Nat)

theorem publishesOnly_sessionBounded_produce {topic : KafkaTopic} {organizationId : Nat}
    {message : KafkaMessage}
    (bounded : ∀ session, message = .session session → 0 < session.quantity ∧
      session.errors ≤ 65535 ∧ (session.status = .crashed → 0 < session.errors)) :
    PublishesOnly SessionBounded (produce env topic organizationId message) :=
  publishesOnly_produce env fun _ _ => bounded

/-- The clamp of `produce_session_update` keeps the error count within `u16`, and at least one
for a crashed session. -/
theorem publishesOnly_sessionBounded_produceSessionUpdate (orgId : Nat) (projectId : ProjectId)
    (eventRetention : Nat) (client : Option String) (session : SessionUpdate) :
    PublishesOnly SessionBounded
      (produceSessionUpdate env parsers orgId projectId eventRetention client session) :=
  publishesOnly_sessionBounded_produce env fun _ sent => by
    cases sent
    dsimp only
    refine ⟨Nat.one_pos, ?_, fun crashed => ?_⟩
    · split <;> omega
    · simp only [crashed, if_true]
      omega

/-- Single sessions and exploded aggregates alike fit their fields. -/
theorem publishesOnly_sessionBounded_produceSessions (orgId : Nat) (projectId : ProjectId)
    (eventRetention : Nat) (client : Option String) (item : Item) :
    PublishesOnly SessionBounded
      (produceSessions env parsers orgId projectId eventRetention client item) := by
  unfold produceSessions
  split
  · split
    · exact publishesOnly_pure _
    · exact publishesOnly_sessionBounded_produceSessionUpdate env parsers _ _ _ _ _
  · split
    · exact publishesOnly_pure _
    · refine publishesOnly_forM _ fun aggregate _ => publishesOnly_forM _ fun message member =>
        publishesOnly_sessionBounded_produce env fun _ sent => ?_
      rw [aggregateMessages_eq] at member
      obtain ⟨⟨status, count⟩, counted, rfl⟩ := List.mem_map.mp member
      have positive : 0 < count := (List.mem_filter.mp counted).2 |> of_decide_eq_true
      cases sent
      cases status <;> simp [explodedMessage, positive]
  · exact publishesOnly_pure _

theorem publishesOnly_sessionBounded_produceReplayRecording (eventId : Option Uuid)
    (scoping : Scoping) (item : Item) (startTime retention : Nat) :
    PublishesOnly SessionBounded
      (produceReplayRecording env fuel eventId scoping item startTime retention) := by
  unfold produceReplayRecording
  dsimp only
  split
  · exact (publishesOnly_requireEventId eventId).bind fun _ =>
      publishesOnly_sessionBounded_produce env (by simp)
  · exact (publishesOnly_requireEventId eventId).bind fun _ =>
      (publishesOnly_produceChunked env fun _ _ _ =>
        publishesOnly_sessionBounded_produce env (by simp)).bind fun _ =>
      (publishesOnly_requireEventId eventId).bind fun _ =>
        publishesOnly_sessionBounded_produce env (by simp)

theorem publishesOnly_sessionBounded_storeItem (message : StoreEnvelope) (item : Item) :
    PublishesOnly SessionBounded (storeItem env parsers config fuel message item) := by
  unfold storeItem
  split
  · exact (publishesOnly_requireEventId _).bind fun _ => (publishesOnly_produceChunked env
      fun _ _ _ => publishesOnly_sessionBounded_produce env (by simp)).bind fun _ =>
        publishesOnly_pure _
  · exact (publishesOnly_requireEventId _).bind fun _ =>
      (publishesOnly_sessionBounded_produce env (by simp)).bind fun _ => publishesOnly_pure _
  · exact (publishesOnly_sessionBounded_produceSessions env parsers _ _ _ _ item).bind fun _ =>
      publishesOnly_pure _
  · exact (publishesOnly_sessionBounded_produceSessions env parsers _ _ _ _ item).bind fun _ =>
      publishesOnly_pure _
  · refine (publishesOnly_forM _ fun bucket _ => ?_).bind fun _ => publishesOnly_pure _
    unfold sendMetricMessage
    split <;> first
      | exact publishesOnly_pure _
      | exact publishesOnly_sessionBounded_produce env (by simp)
  · exact (publishesOnly_sessionBounded_produce env (by simp)).bind fun _ => publishesOnly_pure _
  · exact (publishesOnly_sessionBounded_produceReplayRecording env fuel _ _ item _ _).bind
      fun _ => publishesOnly_pure _
  · exact (publishesOnly_requireEventId _).bind fun _ =>
      (publishesOnly_sessionBounded_produce env (by simp)).bind fun _ => publishesOnly_pure _
  · exact publishesOnly_pure _

theorem publishesOnly_sessionBounded_storeItems (message : StoreEnvelope) :
    ∀ (items : List Item) (attachments : List ChunkedAttachment),
      PublishesOnly SessionBounded (storeItems env parsers config fuel message attachments items)
  | [], _ => publishesOnly_pure _
  | item :: items, _ =>
    (publishesOnly_sessionBounded_storeItem env parsers config fuel message item).bind fun _ =>
      publishesOnly_sessionBounded_storeItems message items _

end SessionBounded

/-- Every session message a successful run of `handle_store_envelope` publishes, for a single
session or exploded from an aggregate, counts at least one session, has an error count that
fits the `u16` field, and a positive one if the session crashed. -/
theorem stored_sessions_fit_u16 (env : StoreEnv) (parsers : StoreParsers) (config : Config)
    (fuel : Nat) (message : StoreEnvelope) :
    PublishesOnly SessionBounded (handleStoreEnvelope env parsers config fuel message) := by
  unfold handleStoreEnvelope
  refine (publishesOnly_sessionBounded_storeItems env parsers config fuel message _ _).bind
    fun attachments => ?_
  split
  · exact (publishesOnly_requireEventId _).bind fun _ =>
      publishesOnly_sessionBounded_produce env (by simp)
  · split
    · exact publishesOnly_pure _
    · exact publishesOnly_forM _ fun _ _ => (publishesOnly_requireEventId _).bind fun _ =>
        publishesOnly_sessionBounded_produce env (by simp)

end Relay
