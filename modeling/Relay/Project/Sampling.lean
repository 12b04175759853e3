import Relay.Project.Cache
import Relay.Project.Queues

/-!
# Sampling states of one organization

`flush_validation` builds every `ProcessEnvelope` without a sampling state.  It attaches the
project's own state when the envelope samples by the project's own key, sends the envelope
as it is when it has no sampling key, and otherwise hands it to the project cache in
`AddSamplingState`.  The project cache hands that message to the project of the sampling
key through `enqueue_sampling`, and `flush_sampling` attaches that project's valid state
only when it belongs to the organization of the message's own state.  So no message
carries the sampling state of another organization: along the own-key shortcut, an
immediate flush and a flush from the `update_state` drain, whatever the states are.
Organization ids are optional, and the comparison is `==` on `Option<u64>`, so two states
without an organization id count as states of one organization.

The project cache is modelled as the arena of projects keyed by project key that the
projects of this file talk to: a project per key, created on first use, the mailbox of the
`AddSamplingState` messages the projects sent, and a ghost log of everything they sent.
The rest of the relay makes every call on a project but `enqueue_sampling`, which the
cache makes for the first message of its mailbox.
-/

namespace Relay

/-- The message carries no sampling state of another organization: none, or a state of the
organization of its own project state. -/
def ProcessEnvelope.SamplingConsistent (message : ProcessEnvelope) : Prop :=
  ∀ state, message.samplingProjectState = some state →
    state.organizationId = message.projectState.organizationId

instance (message : ProcessEnvelope) : Decidable message.SamplingConsistent :=
  decidable_of_iff (message.samplingProjectState.all fun state =>
      state.organizationId = message.projectState.organizationId) (by
    unfold ProcessEnvelope.SamplingConsistent
    cases message.samplingProjectState <;> simp)

theorem ProcessEnvelope.samplingConsistent_of_none {message : ProcessEnvelope}
    (fresh : message.samplingProjectState = none) : message.SamplingConsistent :=
  fun _ attached => nomatch fresh.symm.trans attached

/-- Every message that `effects` forward, to the processor or to the project cache, carries
no sampling state of another organization. -/
def ForwardsConsistent (effects : List Effect) : Prop :=
  ∀ message ∈ effects.filterMap Effect.forwarded?, message.SamplingConsistent

@[simp]
theorem forwardsConsistent_append {first second : List Effect} :
    ForwardsConsistent (first ++ second) ↔
      ForwardsConsistent first ∧ ForwardsConsistent second := by
  simp only [ForwardsConsistent, List.filterMap_append, List.mem_append, or_imp, forall_and]

@[simp]
theorem forwardsConsistent_singleton {effect : Effect} :
    ForwardsConsistent [effect] ↔
      ∀ message, effect.forwarded? = some message → message.SamplingConsistent := by
  cases forwarded : effect.forwarded? <;> simp [ForwardsConsistent, forwarded]

theorem forwardsConsistent_of_nil {effects : List Effect}
    (quiet : effects.filterMap Effect.forwarded? = []) : ForwardsConsistent effects := by
  simp [ForwardsConsistent, quiet]

namespace Effect

theorem forwarded?_of_samplingRequest? {effect : Effect} {request : ProjectKey × ProcessEnvelope}
    (requested : effect.samplingRequest? = some request) : effect.forwarded? = some request.2 := by
  cases effect <;> cases requested
  rfl

end Effect

theorem Op.eq_of_mem_queuesSampling {op : Op} {p : Project} {now : Instant}
    {message : ProcessEnvelope} (queued : message ∈ op.queuesSampling p now) :
    op = .enqueueSampling message := by
  cases op <;> simp only [Op.queuesSampling, List.not_mem_nil] at queued
  split_ifs at queued
  · rw [List.mem_singleton.mp queued]
  · cases queued

namespace Project

variable (ext : Collaborators)

/-- `get_or_fetch_state` forwards no envelope. -/
theorem getOrFetchState_forwarded (p : Project) (noCache : Bool) (now : Instant) :
    (p.getOrFetchState noCache now).2.2.filterMap Effect.forwarded? = [] := by
  have fetched (q : Project) (flag : Bool) : (q.fetchState flag).2.2.filterMap
      Effect.forwarded? = [] := by
    dsimp only [fetchState]
    split_ifs <;> rfl
  rcases getOrFetchState_cases p noCache now with ⟨_, _, served⟩ | ⟨_, _, served⟩ | served <;>
    rw [served]
  · rfl
  · exact fetched _ _
  · exact fetched _ _

theorem getCachedState_forwarded (p : Project) (noCache : Bool) (now : Instant) :
    (p.getCachedState noCache now).2.2.filterMap Effect.forwarded? = [] := by
  rw [(getCachedState_fst p noCache now).2, getOrFetchState_forwarded]

/-- `check_envelope` forwards no envelope: it only rejects and tracks outcomes. -/
theorem checkEnvelope_forwarded (p : Project) (envelope : Envelope) (context : EnvelopeContext)
    (now : Instant) :
    (p.checkEnvelope ext envelope context now).2.2.filterMap Effect.forwarded? = [] := by
  have limited (state : Option ProjectState) (context : EnvelopeContext) (scoping : Scoping) :
      (p.limitEnvelope ext state envelope context scoping now).2.2.filterMap
        Effect.forwarded? = [] := by
    dsimp only [limitEnvelope]
    split <;> simp [Effect.forwarded?, List.filterMap_map, Function.comp_def]
  unfold checkEnvelope
  split
  · split
    · rfl
    · exact limited ..
  · exact limited ..

/-- `flush_buckets` forwards no envelope. -/
theorem flushBuckets_forwarded (p : Project) (partitionKey : Option Nat) (buckets : List Bucket)
    (now : Instant) :
    (p.flushBuckets ext partitionKey buckets now).2.filterMap Effect.forwarded? = [] := by
  have fetched := getCachedState_forwarded p false now
  unfold flushBuckets
  generalize p.getCachedState false now = cached at fetched
  obtain ⟨q, result, effects⟩ := cached
  cases result with
  | none => simpa [Effect.forwarded?] using fetched
  | some state =>
    dsimp only
    split
    · simpa [Effect.forwarded?] using fetched
    · split
      · exact fetched
      · split
        · split <;> simpa [Effect.forwarded?] using fetched
        · simpa [Effect.forwarded?] using fetched

/-- `flush_validation` forwards its envelope without a sampling state, or with the project's
own state when the envelope samples by the project's own key. -/
theorem routeChecked_samplingConsistent {process : ProcessEnvelope}
    (fresh : process.samplingProjectState = none) :
    ∀ message, (routeChecked ext process).forwarded? = some message →
      message.SamplingConsistent := by
  unfold routeChecked
  split
  · split
    · rintro _ ⟨⟩ _ ⟨⟩
      rfl
    · rintro _ ⟨⟩
      exact ProcessEnvelope.samplingConsistent_of_none fresh
  · rintro _ ⟨⟩
    exact ProcessEnvelope.samplingConsistent_of_none fresh

theorem flushValidation_forwardsConsistent (p : Project) (envelope : Envelope)
    (context : EnvelopeContext) (state : ProjectState) (now : Instant) :
    ForwardsConsistent (p.flushValidation ext envelope context state now).2 := by
  have checked := checkEnvelope_forwarded ext p envelope context now
  unfold flushValidation
  generalize p.checkEnvelope ext envelope context now = result at checked
  obtain ⟨q, verdict, effects⟩ := result
  rcases verdict with _ | ⟨_ | ⟨envelope, context⟩, _⟩ <;> dsimp only at checked ⊢
  · exact forwardsConsistent_of_nil checked
  · exact forwardsConsistent_of_nil checked
  · exact forwardsConsistent_append.mpr ⟨forwardsConsistent_of_nil checked,
      forwardsConsistent_singleton.mpr (routeChecked_samplingConsistent ext rfl)⟩

theorem flushValidations_forwardsConsistent (state : ProjectState) (now : Instant) :
    ∀ (p : Project) (queue : List (Envelope × EnvelopeContext)),
      ForwardsConsistent (flushValidations ext state now p queue).2
  | _, [] => forwardsConsistent_of_nil rfl
  | p, (envelope, context) :: rest => by
    simp only [flushValidations, forwardsConsistent_append]
    exact ⟨flushValidation_forwardsConsistent ext p envelope context state now,
      flushValidations_forwardsConsistent state now _ rest⟩

/-- `flush_sampling` attaches the valid state only when it belongs to the organization of the
message's own state, and otherwise sends the message as it came. -/
theorem flushSampling_samplingConsistent (p : Project) {message : ProcessEnvelope}
    (consistent : message.SamplingConsistent) (now : Instant) :
    ∀ sent, (p.flushSampling message now).forwarded? = some sent → sent.SamplingConsistent := by
  unfold flushSampling
  split
  · split_ifs with same
    · rintro _ ⟨⟩ _ ⟨⟩
      exact same
    · rintro _ ⟨⟩
      exact consistent
  · rintro _ ⟨⟩
    exact consistent

theorem flushSamplings_forwardsConsistent (p : Project) {queue : List ProcessEnvelope}
    (consistent : ∀ message ∈ queue, message.SamplingConsistent) (now : Instant) :
    ForwardsConsistent (queue.map (p.flushSampling · now)) := by
  intro sent forwarded
  obtain ⟨effect, flushed, found⟩ := List.mem_filterMap.mp forwarded
  obtain ⟨message, queued, rfl⟩ := List.mem_map.mp flushed
  exact flushSampling_samplingConsistent p (consistent message queued) now sent found

/-- A call on a project whose queued sampling messages and incoming `AddSamplingState` message
carry no sampling state of another organization forwards no message that carries one. -/
theorem handle_forwardsConsistent {p : Project} (now : Instant) {op : Op}
    (pending : ∀ message ∈ p.pendingSampling, message.SamplingConsistent)
    (incoming : ∀ message, op = .enqueueSampling message → message.SamplingConsistent) :
    ForwardsConsistent (p.handle ext now op).2 := by
  cases op with
  | getState sender noCache =>
    rcases getState_shape p sender noCache now with ⟨_, _, served⟩ | ⟨_, _, served⟩ <;>
      simp [handle, served, forwardsConsistent_of_nil (getOrFetchState_forwarded p noCache now),
        Effect.forwarded?]
  | getCachedState noCache =>
    exact forwardsConsistent_of_nil (getCachedState_forwarded p noCache now)
  | prefetch noCache =>
    simpa [handle, prefetch] using
      forwardsConsistent_of_nil (getCachedState_forwarded p noCache now)
  | enqueueValidation envelope context =>
    have fetched := forwardsConsistent_of_nil (getCachedState_forwarded p envelope.meta.noCache now)
    rcases enqueueValidation_shape ext p envelope context now with
      ⟨state, _, served⟩ | ⟨_, served⟩ <;> rw [handle, served]
    · exact forwardsConsistent_append.mpr ⟨fetched,
        flushValidation_forwardsConsistent ext _ envelope context state now⟩
    · exact fetched
  | enqueueSampling message =>
    have fetched :=
      forwardsConsistent_of_nil (getCachedState_forwarded p message.envelope.meta.noCache now)
    rcases enqueueSampling_shape p message now with ⟨_, served⟩ | ⟨_, served⟩ <;>
      rw [handle, served]
    · exact forwardsConsistent_append.mpr ⟨fetched, forwardsConsistent_singleton.mpr
        (flushSampling_samplingConsistent _ (incoming message rfl) now)⟩
    · exact fetched
  | checkEnvelope envelope context =>
    exact forwardsConsistent_of_nil (checkEnvelope_forwarded ext p envelope context now)
  | flushBuckets partitionKey buckets =>
    exact forwardsConsistent_of_nil (flushBuckets_forwarded ext p partitionKey buckets now)
  | mergeRateLimits rateLimits => exact forwardsConsistent_of_nil rfl
  | updateState state noCache =>
    cases taken : p.consumes noCache
    · rw [handle, updateState_of_not_consumes ext taken]
      exact forwardsConsistent_of_nil rfl
    unfold consumes at taken
    split at taken
    · rename_i channel opened
      rw [handle,
        updateState_of_consumes ext opened (by simpa only [Bool.not_eq_true'] using taken)]
      have validated := flushValidations_sameButRateLimits ext
        ({ p with stateChannel := none }.publish state now).2 now
        ({ p with stateChannel := none }.publish state now).1.pendingValidations
        { ({ p with stateChannel := none }.publish state now).1 with pendingValidations := [] }
      simp only [forwardsConsistent_append]
      refine ⟨⟨flushValidations_forwardsConsistent ext _ now _ _,
        flushSamplings_forwardsConsistent _ ?_ now⟩,
        forwardsConsistent_of_nil
          (by simp [List.filterMap_map, Function.comp_def, Effect.forwarded?])⟩
      rw [validated.pendingSampling, publish_fst]
      exact pending
    · cases taken

/-- A call keeps every queued sampling message free of a sampling state of another
organization when the incoming `AddSamplingState` message is. -/
theorem handle_pendingSampling_consistent {p : Project} (now : Instant) {op : Op}
    (pending : ∀ message ∈ p.pendingSampling, message.SamplingConsistent)
    (incoming : ∀ message, op = .enqueueSampling message → message.SamplingConsistent) :
    ∀ message ∈ (p.handle ext now op).1.pendingSampling, message.SamplingConsistent := by
  rw [handle_pendingSampling]
  split_ifs
  · simp
  · intro message member
    rcases List.mem_append.mp member with queued | arrived
    · exact pending message queued
    · exact incoming message (Op.eq_of_mem_queuesSampling arrived)

end Project

namespace Cache

variable (ext : Collaborators)

/-- No message in the cache carries a sampling state of another organization: the messages
queued in its projects, those waiting in its mailbox, and those its projects forwarded. -/
structure SamplingSafe (c : Cache) : Prop where
  pending : ∀ key p, c.projects key = some p →
    ∀ message ∈ p.pendingSampling, message.SamplingConsistent
  mailbox : ∀ request ∈ c.mailbox, request.2.SamplingConsistent
  log : ForwardsConsistent c.log

theorem samplingSafe_init (config : Config) (now : Instant) : (init config now).SamplingSafe :=
  ⟨by simp [init], by simp [init], forwardsConsistent_of_nil rfl⟩

namespace SamplingSafe

variable {ext} {c : Cache} (safe : c.SamplingSafe)
include safe

theorem project_pending (key : ProjectKey) :
    ∀ message ∈ (c.project key).pendingSampling, message.SamplingConsistent := by
  cases found : c.projects key with
  | none => simp [project_of_none found, Project.new]
  | some p =>
    rw [project_of_some found]
    exact safe.pending key p found

/-- A call whose incoming `AddSamplingState` message carries no sampling state of another
organization keeps the cache safe. -/
theorem call {key : ProjectKey} {op : Op}
    (incoming : ∀ message, op = .enqueueSampling message → message.SamplingConsistent) :
    (c.call ext key op).SamplingSafe := by
  have pending := safe.project_pending key
  have forwarded := Project.handle_forwardsConsistent ext c.now pending incoming
  refine ⟨fun other p found => ?_, fun request member => ?_,
    forwardsConsistent_append.mpr ⟨safe.log, forwarded⟩⟩
  · simp only [Cache.call] at found
    split_ifs at found
    · cases found
      exact Project.handle_pendingSampling_consistent ext c.now pending incoming
    · exact safe.pending other p found
  · rcases List.mem_append.mp member with waiting | requested
    · exact safe.mailbox request waiting
    · obtain ⟨effect, sent, found⟩ := List.mem_filterMap.mp requested
      exact forwarded _ (List.mem_filterMap.mpr
        ⟨effect, sent, Effect.forwarded?_of_samplingRequest? found⟩)

/-- Handing the first message of the mailbox to its project keeps the cache safe. -/
theorem deliver : (c.deliver ext).SamplingSafe := by
  unfold Cache.deliver
  split
  · exact safe
  · rename_i key message rest waiting
    have rest_safe : ({ c with mailbox := rest } : Cache).SamplingSafe :=
      ⟨safe.pending, fun request member => safe.mailbox request (by simp [waiting, member]),
        safe.log⟩
    exact rest_safe.call fun _ arrived => by
      cases arrived
      exact safe.mailbox (key, message) (by simp [waiting])

theorem tick (elapsed : Duration) : (c.tick elapsed).SamplingSafe :=
  ⟨safe.pending, safe.mailbox, safe.log⟩

end SamplingSafe

theorem samplingSafe_of_reachable {config : Config} {start : Instant} {c : Cache}
    (reachable : c.Reachable ext config start) : c.SamplingSafe := by
  induction reachable with
  | init => exact samplingSafe_init config start
  | @call c key op external _ safe =>
    exact safe.call fun _ arrived => by
      subst arrived
      cases external
  | deliver _ safe => exact safe.deliver
  | tick elapsed _ safe => exact safe.tick elapsed

end Cache

/-- In every run of the project cache, every `ProcessEnvelope` sent to the processor has no
sampling state or one of its own project state's organization, whichever method sent it. -/
theorem processed_sampling_state_same_organization (ext : Collaborators) {config : Config}
    {start : Instant} {c : Cache} (reachable : c.Reachable ext config start)
    {message : ProcessEnvelope}
    (sent : Effect.processEnvelope message ∈ c.log) :
    message.samplingProjectState = none ∨ ∃ state, message.samplingProjectState = some state ∧
      state.organizationId = message.projectState.organizationId := by
  have consistent := (Cache.samplingSafe_of_reachable ext reachable).log message
    (List.mem_filterMap.mpr ⟨_, sent, rfl⟩)
  cases attached : message.samplingProjectState with
  | none => exact .inl rfl
  | some state => exact .inr ⟨state, rfl, consistent state attached⟩

/-- The envelope that the project of key 0 hands to the project of key 1 reaches the
processor without the state of organization 2. -/
theorem foreign_sampling_state_left_out :
    Effect.processEnvelope Sample.sampledMessage ∈ (Sample.samplingCache 2).log ∧
      (Sample.sampledMessage.samplingProjectState = none ∨
        ∃ state, Sample.sampledMessage.samplingProjectState = some state ∧
          state.organizationId = Sample.sampledMessage.projectState.organizationId) :=
  have sent : Effect.processEnvelope Sample.sampledMessage ∈ (Sample.samplingCache 2).log := by
    decide
  ⟨sent, processed_sampling_state_same_organization _ (Sample.samplingCache_reachable 2) sent⟩

example : (Sample.samplingCache 1).log.filterMap Effect.forwarded? =
    [Sample.sampledMessage,
      { Sample.sampledMessage with samplingProjectState := some (Sample.samplingState 1) }] := by
  decide

end Relay
