import Relay.Store.Items

/-!
# Exploding session aggregates

`produce_sessions_from_aggregate` clones one message per aggregate and runs four blocks on the
clone, one per status: a block whose count is positive sets some fields of the message and
sends it, and the next block starts from the message as this one left it.  Every block sets
the errors and the quantity, and every block but the first, which runs on the fresh clone,
sets the status.  So no field set by one block or for one aggregate reaches the message of
another: for each of the first hundred aggregates the store sends one message per status
with a positive count, with that status and count and nothing else carried over.
-/

namespace Relay

variable (env : StoreEnv) (parsers : StoreParsers)

/-- The statuses of an aggregate with their counts, in the order their messages are sent. -/
def statusCounts (item : SessionAggregateItem) : List (SessionStatus × Nat) :=
  [(.exited, item.exited), (.errored, item.errored), (.abnormal, item.abnormal),
    (.crashed, item.crashed)]

/-- The message for one status of an aggregate, as the specification describes it: that
status and count, no errors for exited sessions and one otherwise, the aggregate's start and
distinct id, and the fields of the template message. -/
def explodedMessage (orgId : Nat) (projectId : ProjectId) (eventRetention : Nat)
    (client : Option String) (item : SessionAggregateItem) (status : SessionStatus)
    (count : Nat) : SessionKafkaMessage :=
  ⟨orgId, projectId, Uuid.nil, distinctIdOf parsers item.distinctId, count, 0, item.started,
    status, if status = .exited then 0 else 1, client, eventRetention⟩

/-- From the template message, whose status is exited, the four blocks send exactly the
specified messages of the statuses with a positive count. -/
theorem aggregateMessages_eq (orgId : Nat) (projectId : ProjectId) (eventRetention : Nat)
    (client : Option String) (item : SessionAggregateItem) :
    aggregateMessages parsers
        ⟨orgId, projectId, Uuid.nil, Uuid.nil, 1, 0, 0, .exited, 0, client, eventRetention⟩ item =
      ((statusCounts item).filter (0 < ·.2)).map fun counted =>
        explodedMessage parsers orgId projectId eventRetention client item counted.1 counted.2 := by
  unfold aggregateMessages aggregateBranches statusCounts
  by_cases exited : 0 < item.exited <;> by_cases errored : 0 < item.errored <;>
    by_cases abnormal : 0 < item.abnormal <;> by_cases crashed : 0 < item.crashed <;>
    simp [runBranches, explodedMessage, exited, errored, abnormal, crashed]

/-- `produce_sessions_from_aggregate` publishes, for each of the first hundred aggregates, one
session message per status with a positive count, exited, errored, abnormal, crashed, in that
order; later aggregates publish nothing, and with every send succeeding it returns. -/
theorem aggregates_exploded (orgId : Nat) (projectId : ProjectId) (eventRetention : Nat)
    (client : Option String) (aggregates : List SessionAggregateItem) :
    Publishes (produceSessionsFromAggregate env parsers orgId projectId eventRetention client
        aggregates) (fun _ new =>
      new.map (·.message) = (aggregates.take maxExplodedSessions).flatMap (fun item =>
        ((statusCounts item).filter (0 < ·.2)).map fun counted => .session
          (explodedMessage parsers orgId projectId eventRetention client item counted.1 counted.2)) ∧
      ∀ p ∈ new, p.topic = .sessions) ∧
    ((∀ topic organizationId key message, env.send topic organizationId key message = .ok ()) →
      ∀ state, ∃ after, (produceSessionsFromAggregate env parsers orgId projectId eventRetention
        client aggregates).run state = .ok ((), after)) := by
  let template : SessionKafkaMessage :=
    ⟨orgId, projectId, Uuid.nil, Uuid.nil, 1, 0, 0, .exited, 0, client, eventRetention⟩
  have exploded : ∀ item, Publishes ((aggregateMessages parsers template item).forM
      (sendSessionMessage env orgId)) fun _ new =>
        new.map (·.message) = (aggregateMessages parsers template item).map .session ∧
          ∀ p ∈ new, p.topic = .sessions := fun item =>
    (publishes_forM (fun _ => publishes_produce env _ _ _) _).mono
      fun _ _ ⟨_, turns, flat⟩ => flat ▸ forall₂_produced turns
  refine ⟨(publishes_forM exploded _).mono fun _ new ⟨parts, turns, flat⟩ => ?_,
    fun sent => forM_run_ok (fun item => forM_run_ok (fun message state =>
      let ⟨_, _, ran, _⟩ := produce_run env .sessions orgId (.session message) state
        (sent _ _ · _)
      ⟨_, ran⟩) _) _⟩
  subst flat
  obtain ⟨messages, topics⟩ := forall₂_flatten turns
  refine ⟨?_, topics⟩
  rw [messages]
  exact List.flatMap_congr fun item _ => by rw [aggregateMessages_eq, List.map_map]; rfl

namespace Sample

/-- Parsers that read no payload and map every distinct id to the UUID 7. -/
def sessionParsers : StoreParsers :=
  ⟨fun _ => none, fun _ => none, fun _ => none, fun _ => none, fun _ => 7⟩

/-- An aggregate started at 100 by one user, with two exited and one crashed session. -/
def aggregate : SessionAggregateItem := ⟨100, some "u", 2, 0, 0, 1⟩

end Sample

/-- The aggregate of two exited sessions and a crashed one goes out as an exited message of
quantity two without errors and a crashed message of quantity one with one error. -/
theorem sample_aggregate_exploded :
    ∃ after, (produceSessionsFromAggregate Sample.storeEnv Sample.sessionParsers 1 42 90 none
        [Sample.aggregate]).run ⟨0, []⟩ = .ok ((), after) ∧
      after.published.map (·.message) =
        [.session ⟨1, 42, Uuid.nil, 7, 2, 0, 100, .exited, 0, none, 90⟩,
          .session ⟨1, 42, Uuid.nil, 7, 1, 0, 100, .crashed, 1, none, 90⟩] :=
  let exploded := aggregates_exploded Sample.storeEnv Sample.sessionParsers 1 42 90 none
    [Sample.aggregate]
  let ⟨after, ran⟩ := exploded.2 (fun _ _ _ _ => rfl) ⟨0, []⟩
  let ⟨_, grown, messages, _⟩ := exploded.1 _ _ _ ran
  ⟨after, ran, by rw [grown, List.nil_append, messages]; decide⟩

end Relay
