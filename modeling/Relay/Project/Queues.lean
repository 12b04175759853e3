import Relay.Project.Run

/-!
# The pending queues

An envelope that arrives while no usable state is held waits in `pending_validations`
(or `pending_sampling`) until the fetch in flight is answered.  Envelopes are queued only
when `get_cached_state` has just scheduled a fetch.  A call that does not take the state
channel only appends to the queues and never reads them: it sends the same messages whatever
they hold.  The `update_state` call that takes the channel calls `flush_validation` once on
each queued envelope, in order, then `flush_sampling` on each queued message, and empties
both queues.  Hence a queued envelope always has a fetch in flight, and every queued
envelope is flushed exactly once.
-/

namespace Relay

namespace Project

variable (ext : Collaborators)

/-- A call queues, or drains both queues; it changes them in no other way. -/
theorem handle_pendingValidations (p : Project) (now : Instant) (op : Op) :
    (p.handle ext now op).1.pendingValidations =
      if op.drains p then [] else p.pendingValidations ++ op.queues p now := by
  cases op with
  | getState sender noCache =>
    have frame := getOrFetchState_fetchFrame p noCache now
    rcases getState_shape p sender noCache now with ⟨_, _, served⟩ | ⟨_, _, served⟩ <;>
      simp [handle, served, Op.drains, Op.queues, frame.pendingValidations]
  | getCachedState noCache =>
    simp [handle, Op.drains, Op.queues, (getCachedState_fetchFrame p noCache now).pendingValidations]
  | prefetch noCache =>
    simp [handle, prefetch, Op.drains, Op.queues,
      (getCachedState_fetchFrame p noCache now).pendingValidations]
  | enqueueValidation envelope context =>
    have frame := getCachedState_fetchFrame p envelope.meta.noCache now
    rcases enqueueValidation_shape ext p envelope context now with
      ⟨state, found, served⟩ | ⟨missing, served⟩
    · simp [handle, served, Op.drains, Op.queues, found, frame.pendingValidations,
        (flushValidation_sameButRateLimits ext _ envelope context state now).pendingValidations]
    · simp [handle, served, Op.drains, Op.queues, missing, frame.pendingValidations]
  | enqueueSampling message =>
    have frame := getCachedState_fetchFrame p message.envelope.meta.noCache now
    rcases enqueueSampling_shape p message now with ⟨_, served⟩ | ⟨_, served⟩ <;>
      simp [handle, served, Op.drains, Op.queues, frame.pendingValidations]
  | checkEnvelope envelope context =>
    simp [handle, Op.drains, Op.queues,
      (checkEnvelope_sameButRateLimits ext p envelope context now).pendingValidations]
  | flushBuckets partitionKey buckets =>
    simp [handle, Op.drains, Op.queues, (flushBuckets_shape ext p partitionKey buckets now).1,
      (getCachedState_fetchFrame p false now).pendingValidations]
  | mergeRateLimits rateLimits => simp [handle, mergeRateLimits, Op.drains, Op.queues]
  | updateState state noCache =>
    cases taken : p.consumes noCache
    · simp [handle, updateState_of_not_consumes ext taken, Op.drains, Op.queues, taken]
    · simp [handle, (updateState_drains ext taken state now).1, Op.drains, taken]

theorem handle_pendingSampling (p : Project) (now : Instant) (op : Op) :
    (p.handle ext now op).1.pendingSampling =
      if op.drains p then [] else p.pendingSampling ++ op.queuesSampling p now := by
  cases op with
  | getState sender noCache =>
    have frame := getOrFetchState_fetchFrame p noCache now
    rcases getState_shape p sender noCache now with ⟨_, _, served⟩ | ⟨_, _, served⟩ <;>
      simp [handle, served, Op.drains, Op.queuesSampling, frame.pendingSampling]
  | getCachedState noCache =>
    simp [handle, Op.drains, Op.queuesSampling,
      (getCachedState_fetchFrame p noCache now).pendingSampling]
  | prefetch noCache =>
    simp [handle, prefetch, Op.drains, Op.queuesSampling,
      (getCachedState_fetchFrame p noCache now).pendingSampling]
  | enqueueValidation envelope context =>
    have frame := getCachedState_fetchFrame p envelope.meta.noCache now
    rcases enqueueValidation_shape ext p envelope context now with
      ⟨state, _, served⟩ | ⟨_, served⟩
    · simp [handle, served, Op.drains, Op.queuesSampling, frame.pendingSampling,
        (flushValidation_sameButRateLimits ext _ envelope context state now).pendingSampling]
    · simp [handle, served, Op.drains, Op.queuesSampling, frame.pendingSampling]
  | enqueueSampling message =>
    have frame := getCachedState_fetchFrame p message.envelope.meta.noCache now
    rcases enqueueSampling_shape p message now with ⟨found, served⟩ | ⟨missing, served⟩
    · simp_all [handle, Op.drains, Op.queuesSampling, frame.pendingSampling, Option.isSome_iff_ne_none]
    · simp [handle, served, Op.drains, Op.queuesSampling, missing, frame.pendingSampling]
  | checkEnvelope envelope context =>
    simp [handle, Op.drains, Op.queuesSampling,
      (checkEnvelope_sameButRateLimits ext p envelope context now).pendingSampling]
  | flushBuckets partitionKey buckets =>
    simp [handle, Op.drains, Op.queuesSampling, (flushBuckets_shape ext p partitionKey buckets now).1,
      (getCachedState_fetchFrame p false now).pendingSampling]
  | mergeRateLimits rateLimits => simp [handle, mergeRateLimits, Op.drains, Op.queuesSampling]
  | updateState state noCache =>
    cases taken : p.consumes noCache
    · simp [handle, updateState_of_not_consumes ext taken, Op.drains, Op.queuesSampling, taken]
    · simp [handle, (updateState_drains ext taken state now).2.1, Op.drains, taken]

/-- The project with both pending queues replaced. -/
def withQueues (p : Project) (validations : List (Envelope × EnvelopeContext))
    (sampling : List ProcessEnvelope) : Project :=
  { p with pendingValidations := validations, pendingSampling := sampling }

section WithQueues

variable (validations : List (Envelope × EnvelopeContext)) (sampling : List ProcessEnvelope)

@[simp]
theorem expiryState_withQueues (p : Project) (now : Instant) :
    (p.withQueues validations sampling).expiryState now = p.expiryState now := rfl

@[simp]
theorem validState_withQueues (p : Project) (now : Instant) :
    (p.withQueues validations sampling).validState now = p.validState now := rfl

theorem fetchState_withQueues (p : Project) (noCache : Bool) :
    (p.withQueues validations sampling).fetchState noCache =
      ((p.fetchState noCache).1.withQueues validations sampling, (p.fetchState noCache).2) := by
  simp only [fetchState, withQueues]
  split_ifs <;> rfl

theorem getOrFetchState_withQueues (p : Project) (noCache : Bool) (now : Instant) :
    (p.withQueues validations sampling).getOrFetchState noCache now =
      ((p.getOrFetchState noCache now).1.withQueues validations sampling,
        (p.getOrFetchState noCache now).2) := by
  have throttled : (p.withQueues validations sampling).throttleNoCache noCache now =
      ((p.throttleNoCache noCache now).1.withQueues validations sampling,
        (p.throttleNoCache noCache now).2) := by
    simp only [throttleNoCache, withQueues]
    split_ifs <;> rfl
  unfold getOrFetchState
  rw [throttled]
  obtain ⟨q, honoured⟩ := p.throttleNoCache noCache now
  dsimp only
  rw [expiryState_withQueues]
  cases honoured <;> cases q.expiryState now <;> simp [fetchState_withQueues]

theorem getCachedState_withQueues (p : Project) (noCache : Bool) (now : Instant) :
    (p.withQueues validations sampling).getCachedState noCache now =
      ((p.getCachedState noCache now).1.withQueues validations sampling,
        (p.getCachedState noCache now).2) := by
  unfold getCachedState
  rw [getOrFetchState_withQueues]
  obtain ⟨q, result, effects⟩ := p.getOrFetchState noCache now
  cases result <;> rfl

theorem checkEnvelope_withQueues (p : Project) (envelope : Envelope) (context : EnvelopeContext)
    (now : Instant) :
    (p.withQueues validations sampling).checkEnvelope ext envelope context now =
      ((p.checkEnvelope ext envelope context now).1.withQueues validations sampling,
        (p.checkEnvelope ext envelope context now).2) := by
  unfold checkEnvelope limitEnvelope
  rw [validState_withQueues]
  cases p.validState now with
  | none => simp only [withQueues]; split_ifs <;> rfl
  | some state =>
    simp only [withQueues]
    cases state.checkRequest ext.matchesAnyOrigin envelope.meta p.config now with
    | error => rfl
    | ok => dsimp only; split_ifs <;> rfl

theorem flushValidation_withQueues (p : Project) (envelope : Envelope)
    (context : EnvelopeContext) (state : ProjectState) (now : Instant) :
    (p.withQueues validations sampling).flushValidation ext envelope context state now =
      ((p.flushValidation ext envelope context state now).1.withQueues validations sampling,
        (p.flushValidation ext envelope context state now).2) := by
  unfold flushValidation
  rw [checkEnvelope_withQueues]
  obtain ⟨q, result, effects⟩ := p.checkEnvelope ext envelope context now
  rcases result with _ | ⟨_ | ⟨envelope, context⟩, rateLimits⟩ <;> rfl

theorem flushBuckets_withQueues (p : Project) (partitionKey : Option Nat) (buckets : List Bucket)
    (now : Instant) :
    (p.withQueues validations sampling).flushBuckets ext partitionKey buckets now =
      ((p.flushBuckets ext partitionKey buckets now).1.withQueues validations sampling,
        (p.flushBuckets ext partitionKey buckets now).2) := by
  unfold flushBuckets
  rw [getCachedState_withQueues]
  obtain ⟨q, result, effects⟩ := p.getCachedState false now
  cases result with
  | none => rfl
  | some projectState =>
    dsimp only
    rw [show (q.withQueues validations sampling).scoping = q.scoping from rfl]
    cases q.scoping with
    | none => rfl
    | some scoping =>
      simp only [withQueues]
      cases projectState.checkDisabled q.config now with
      | error => rfl
      | ok =>
        dsimp only
        cases ext.limitMetrics buckets projectState.config.quotas scoping q.rateLimits with
        | none => rfl
        | some result => dsimp only; split_ifs <;> rfl

/-- A call that does not take the channel reads neither queue: from a project with other
queues it sends the same messages. -/
theorem handle_withQueues {p : Project} {now : Instant} {op : Op} (kept : op.drains p = false) :
    ((p.withQueues validations sampling).handle ext now op).2 = (p.handle ext now op).2 := by
  cases op with
  | getState sender noCache =>
    simp only [handle, getState, getOrFetchState_withQueues]
    obtain ⟨q, result, effects⟩ := p.getOrFetchState noCache now
    cases result <;> rfl
  | getCachedState noCache => simp only [handle, getCachedState_withQueues]
  | prefetch noCache => simp only [handle, prefetch, getCachedState_withQueues]
  | enqueueValidation envelope context =>
    simp only [handle, enqueueValidation, getCachedState_withQueues]
    obtain ⟨q, result, effects⟩ := p.getCachedState envelope.meta.noCache now
    cases result <;> simp [flushValidation_withQueues]
  | enqueueSampling message =>
    simp only [handle, enqueueSampling, getCachedState_withQueues]
    obtain ⟨q, result, effects⟩ := p.getCachedState message.envelope.meta.noCache now
    cases result <;> rfl
  | checkEnvelope envelope context => simp only [handle, checkEnvelope_withQueues]
  | flushBuckets partitionKey buckets => simp only [handle, flushBuckets_withQueues]
  | mergeRateLimits rateLimits => rfl
  | updateState state noCache =>
    have kept' : (p.withQueues validations sampling).consumes noCache = false := kept
    simp only [handle, updateState_of_not_consumes ext kept, updateState_of_not_consumes ext kept']

end WithQueues

/-- `effects` are the messages of `flush_validation` called once on each envelope of the
queue, in order, through the projects from `p` to `q`. -/
inductive FlushesEach (state : ProjectState) (now : Instant) :
    Project → List (Envelope × EnvelopeContext) → List Effect → Project → Prop
  | nil (p : Project) : FlushesEach state now p [] [] p
  | cons {p q r : Project} {envelope : Envelope} {context : EnvelopeContext}
      {rest : List (Envelope × EnvelopeContext)} {effects more : List Effect}
      (flushed : p.flushValidation ext envelope context state now = (q, effects))
      (later : FlushesEach state now q rest more r) :
      FlushesEach state now p ((envelope, context) :: rest) (effects ++ more) r

theorem flushValidations_flushesEach (state : ProjectState) (now : Instant) :
    ∀ (p : Project) (queue : List (Envelope × EnvelopeContext)),
      FlushesEach ext state now p queue (flushValidations ext state now p queue).2
        (flushValidations ext state now p queue).1
  | p, [] => .nil p
  | _, (_, _) :: rest => .cons rfl (flushValidations_flushesEach state now _ rest)

/-- What a call that takes the channel does: it calls `flush_validation` once on each queued
envelope, in order, then `flush_sampling` on each queued message, then sends the published
state to each attached sender, and it leaves both queues empty. -/
def Drains (p : Project) (now : Instant) (op : Op) : Prop :=
  (∃ state first last validated,
    FlushesEach ext state now first p.pendingValidations validated last ∧
      (p.handle ext now op).2 = validated ++ p.pendingSampling.map (last.flushSampling · now) ++
        p.attached.map (Effect.sendState · state)) ∧
    (p.handle ext now op).1.pendingValidations = [] ∧ (p.handle ext now op).1.pendingSampling = []

theorem handle_drains {p : Project} {now : Instant} {op : Op} (drained : op.drains p) :
    p.Drains ext now op := by
  cases op with
  | updateState state noCache =>
    have taken : p.consumes noCache := drained
    obtain ⟨validations, sampling, -⟩ := updateState_drains ext taken state now
    refine ⟨?_, validations, sampling⟩
    unfold consumes at taken
    split at taken
    · rename_i channel opened
      have queue : ({ p with stateChannel := none }.publish state now).1.pendingValidations =
          p.pendingValidations := by rw [publish_fst]
      have validated := flushValidations_sameButRateLimits ext
        ({ p with stateChannel := none }.publish state now).2 now p.pendingValidations
        { ({ p with stateChannel := none }.publish state now).1 with pendingValidations := [] }
      refine ⟨_, _, _, _, flushValidations_flushesEach ext
        ({ p with stateChannel := none }.publish state now).2 now
        { ({ p with stateChannel := none }.publish state now).1 with pendingValidations := [] }
        p.pendingValidations, ?_⟩
      rw [handle, updateState_of_consumes ext opened (by simpa only [Bool.not_eq_true'] using taken)]
      simp only [queue, validated.pendingSampling, attached, opened, Option.map_some',
        Option.getD_some]
      rw [publish_fst]
    · cases taken
  | _ => cases drained

/-- Only the `update_state` that takes the channel closes it. -/
theorem handle_keepsOpen {p : Project} {now : Instant} {op : Op} (kept : op.drains p = false)
    (opened : p.stateChannel.isSome) : (p.handle ext now op).1.stateChannel.isSome := by
  cases op with
  | getState sender noCache =>
    have frame := getOrFetchState_fetchFrame p noCache now
    rcases getState_shape p sender noCache now with ⟨_, _, served⟩ | ⟨_, _, served⟩ <;>
      simp [handle, served, frame.keepsOpen opened]
  | getCachedState noCache =>
    exact (getCachedState_fetchFrame p noCache now).keepsOpen opened
  | prefetch noCache => exact (getCachedState_fetchFrame p noCache now).keepsOpen opened
  | enqueueValidation envelope context =>
    have frame := getCachedState_fetchFrame p envelope.meta.noCache now
    rcases enqueueValidation_shape ext p envelope context now with
      ⟨state, _, served⟩ | ⟨_, served⟩
    · simp [handle, served, frame.keepsOpen opened,
        (flushValidation_sameButRateLimits ext _ envelope context state now).stateChannel]
    · simp [handle, served, frame.keepsOpen opened]
  | enqueueSampling message =>
    have frame := getCachedState_fetchFrame p message.envelope.meta.noCache now
    rcases enqueueSampling_shape p message now with ⟨_, served⟩ | ⟨_, served⟩ <;>
      simp [handle, served, frame.keepsOpen opened]
  | checkEnvelope envelope context =>
    simpa [handle, (checkEnvelope_sameButRateLimits ext p envelope context now).stateChannel]
      using opened
  | flushBuckets partitionKey buckets =>
    simpa [handle, (flushBuckets_shape ext p partitionKey buckets now).1] using
      (getCachedState_fetchFrame p false now).keepsOpen opened
  | mergeRateLimits rateLimits => exact opened
  | updateState state noCache =>
    simpa [handle, updateState_of_not_consumes ext kept] using opened

/-- A call that queues an envelope has just scheduled a fetch. -/
theorem handle_opens_of_queues {p : Project} {now : Instant} {op : Op}
    (queues : op.queues p now ≠ [] ∨ op.queuesSampling p now ≠ []) :
    (p.handle ext now op).1.stateChannel.isSome := by
  cases op with
  | enqueueValidation envelope context =>
    rcases enqueueValidation_shape ext p envelope context now with
      ⟨state, found, _⟩ | ⟨missing, served⟩
    · simp [Op.queues, Op.queuesSampling, found] at queues
    · simpa [handle, served] using getCachedState_none_opened missing
  | enqueueSampling message =>
    rcases enqueueSampling_shape p message now with ⟨found, _⟩ | ⟨missing, served⟩
    · simp [Op.queues, Op.queuesSampling, Option.isSome_iff_ne_none.mp found] at queues
    · simpa [handle, served] using getCachedState_none_opened missing
  | _ => simp [Op.queues, Op.queuesSampling] at queues

end Project

namespace System

variable (ext : Collaborators)

/-- The queue invariant: a queued envelope has a fetch in flight, and each queue holds
exactly the envelopes put on it and not yet flushed, in order. -/
def QueuesAccounted (s : System) : Prop :=
  ((s.project.pendingValidations ≠ [] ∨ s.project.pendingSampling ≠ []) →
      s.project.stateChannel.isSome) ∧
    s.queued = s.flushed ++ s.project.pendingValidations ∧
    s.queuedSampling = s.flushedSampling ++ s.project.pendingSampling

theorem queuesAccounted_init (key : ProjectKey) (config : Config) (now : Instant) :
    (init key config now).QueuesAccounted := by
  simp [QueuesAccounted, init, Project.new]

theorem queuesAccounted_step {s : System} (accounted : s.QueuesAccounted) (op : Op) :
    (s.step ext op).QueuesAccounted := by
  obtain ⟨inFlight, validations, sampling⟩ := accounted
  have pending := Project.handle_pendingValidations ext s.project s.now op
  have pendingSampling := Project.handle_pendingSampling ext s.project s.now op
  cases drained : op.drains s.project
  · simp only [drained, Bool.false_eq_true, if_false] at pending pendingSampling
    refine ⟨fun queued => ?_, ?_, ?_⟩
    · by_cases fresh : op.queues s.project s.now ≠ [] ∨ op.queuesSampling s.project s.now ≠ []
      · exact Project.handle_opens_of_queues ext fresh
      · push_neg at fresh
        simp only [step, pending, pendingSampling, fresh.1, fresh.2, List.append_nil] at queued ⊢
        exact Project.handle_keepsOpen ext drained (inFlight queued)
    · simp [step, drained, pending, validations]
    · simp [step, drained, pendingSampling, sampling]
  · have notQueued : op.queues s.project s.now = [] ∧ op.queuesSampling s.project s.now = [] := by
      cases op <;> simp_all [Op.drains, Op.queues, Op.queuesSampling]
    simp_all [QueuesAccounted, step]

/-- Every reachable system keeps its queues accounted. -/
theorem queuesAccounted_of_reachable {key : ProjectKey} {config : Config} {start : Instant}
    {s : System} (reachable : Reachable ext key config start s) : s.QueuesAccounted := by
  induction reachable with
  | init => exact queuesAccounted_init key config start
  | step op _ ih => exact queuesAccounted_step ext ih op
  | tick elapsed _ ih => exact ih

/-- While an envelope waits a fetch is in flight; the call that takes the channel flushes each
queued envelope and message once, in order, and empties both queues; every other call sends
the same messages whatever the queues hold. -/
theorem pending_envelopes_flushed_once {key : ProjectKey} {config : Config} {start : Instant}
    {s : System} (reachable : Reachable ext key config start s) :
    ((s.project.pendingValidations ≠ [] ∨ s.project.pendingSampling ≠ []) →
        s.project.stateChannel.isSome) ∧
      s.queued = s.flushed ++ s.project.pendingValidations ∧
      s.queuedSampling = s.flushedSampling ++ s.project.pendingSampling ∧
      ∀ op, if op.drains s.project then s.project.Drains ext s.now op
        else ∀ validations sampling,
          ((s.project.withQueues validations sampling).handle ext s.now op).2 =
            (s.project.handle ext s.now op).2 := by
  obtain ⟨inFlight, validations, sampling⟩ := queuesAccounted_of_reachable ext reachable
  refine ⟨inFlight, validations, sampling, fun op => ?_⟩
  split
  · exact Project.handle_drains ext ‹_›
  · exact fun validations sampling =>
      Project.handle_withQueues ext validations sampling (eq_false_of_ne_true ‹_›)

/-- The envelope queued by `queuedSystem` is flushed by the answer to its fetch, which hands
it to `flush_validation` and empties the queue. -/
theorem queuedSystem_drained :
    Sample.queuedSystem.project.pendingValidations = [(Sample.envelope, Sample.context)] ∧
      Sample.queuedSystem.project.Drains Sample.collaborators Sample.queuedSystem.now
        (.updateState Sample.answer false) ∧
      (Sample.queuedSystem.step Sample.collaborators (.updateState Sample.answer false)).flushed =
        [(Sample.envelope, Sample.context)] := by
  have reachable : Reachable Sample.collaborators 0 Sample.config 0 Sample.queuedSystem :=
    .step _ .init
  have law := (pending_envelopes_flushed_once Sample.collaborators reachable).2.2.2
    (.updateState Sample.answer false)
  rw [if_pos (by decide)] at law
  exact ⟨by decide, law, by decide⟩

end System

end Relay
