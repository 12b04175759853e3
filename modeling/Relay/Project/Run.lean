import Relay.Project.Frame

/-!
# Runs of the project actor

The project cache drives one `Project` by calling its public methods, one message at a
time, while the clock advances.  A `System` is the project together with the clock and
ghost observations of the run so far: every message sent, stamped with its instant and
with the number of state channels opened until then, the senders handed to `get_state`,
and the envelopes put on the two pending queues and drained from them by the call that takes
the channel.  The ghost fields are written only from what each call does, and the project
never reads them; `Project.handle_drains` shows that the drained envelopes are exactly those
the call hands to `flush_validation` and `flush_sampling`, once each.
-/

namespace Relay

/-- A call the project cache makes on a project. -/
inductive Op
  | getState (sender : ProjectSender) (noCache : Bool)
  | getCachedState (noCache : Bool)
  | prefetch (noCache : Bool)
  | enqueueValidation (envelope : Envelope) (context : EnvelopeContext)
  | enqueueSampling (message : ProcessEnvelope)
  | checkEnvelope (envelope : Envelope) (context : EnvelopeContext)
  | flushBuckets (partitionKey : Option Nat) (buckets : List Bucket)
  | mergeRateLimits (rateLimits : RateLimits)
  | updateState (state : ProjectState) (noCache : Bool)

namespace Project

variable (ext : Collaborators)

/-- The project after one call, and the messages the call sends. -/
def handle (p : Project) (now : Instant) : Op → Project × List Effect
  | .getState sender noCache => p.getState sender noCache now
  | .getCachedState noCache => ((p.getCachedState noCache now).1, (p.getCachedState noCache now).2.2)
  | .prefetch noCache => p.prefetch noCache now
  | .enqueueValidation envelope context => p.enqueueValidation ext envelope context now
  | .enqueueSampling message => p.enqueueSampling message now
  | .checkEnvelope envelope context =>
    ((p.checkEnvelope ext envelope context now).1, (p.checkEnvelope ext envelope context now).2.2)
  | .flushBuckets partitionKey buckets => p.flushBuckets ext partitionKey buckets now
  | .mergeRateLimits rateLimits => (p.mergeRateLimits rateLimits, [])
  | .updateState state noCache => p.updateState ext state noCache now

/-- `get_state` serves a usable state at once, or attaches the sender to the channel of
the fetch it scheduled; either way after the requests of `get_or_fetch_state`. -/
theorem getState_shape (p : Project) (sender : ProjectSender) (noCache : Bool) (now : Instant) :
    (∃ state, (p.getOrFetchState noCache now).2.1 = .cached state ∧
      p.getState sender noCache now =
        ((p.getOrFetchState noCache now).1,
          (p.getOrFetchState noCache now).2.2 ++ [.sendState sender state])) ∨
    (∃ channel, (p.getOrFetchState noCache now).2.1 = .scheduled channel ∧
      p.getState sender noCache now =
        ({ (p.getOrFetchState noCache now).1 with stateChannel := some (channel.attach sender) },
          (p.getOrFetchState noCache now).2.2)) := by
  unfold getState
  generalize p.getOrFetchState noCache now = fetched
  obtain ⟨q, result, effects⟩ := fetched
  cases result
  · exact .inl ⟨_, rfl, rfl⟩
  · exact .inr ⟨_, rfl, rfl⟩

/-- `enqueue_validation` flushes the envelope with the usable state, or queues it. -/
theorem enqueueValidation_shape (p : Project) (envelope : Envelope) (context : EnvelopeContext)
    (now : Instant) :
    let cached := p.getCachedState envelope.meta.noCache now
    (∃ state, cached.2.1 = some state ∧
      p.enqueueValidation ext envelope context now =
        ((cached.1.flushValidation ext envelope context state now).1,
          cached.2.2 ++ (cached.1.flushValidation ext envelope context state now).2)) ∨
    (cached.2.1 = none ∧
      p.enqueueValidation ext envelope context now =
        ({ cached.1 with pendingValidations := cached.1.pendingValidations ++ [(envelope, context)] },
          cached.2.2)) := by
  unfold enqueueValidation
  generalize p.getCachedState envelope.meta.noCache now = cached
  obtain ⟨q, result, effects⟩ := cached
  cases result
  · exact .inr ⟨rfl, rfl⟩
  · exact .inl ⟨_, rfl, rfl⟩

/-- `enqueue_sampling` flushes the message with the valid state, or queues it. -/
theorem enqueueSampling_shape (p : Project) (message : ProcessEnvelope) (now : Instant) :
    let cached := p.getCachedState message.envelope.meta.noCache now
    (cached.2.1.isSome ∧
      p.enqueueSampling message now =
        (cached.1, cached.2.2 ++ [cached.1.flushSampling message now])) ∨
    (cached.2.1 = none ∧
      p.enqueueSampling message now =
        ({ cached.1 with pendingSampling := cached.1.pendingSampling ++ [message] },
          cached.2.2)) := by
  unfold enqueueSampling
  generalize p.getCachedState message.envelope.meta.noCache now = cached
  obtain ⟨q, result, effects⟩ := cached
  cases result
  · exact .inr ⟨rfl, rfl⟩
  · exact .inl ⟨rfl, rfl⟩

/-- `flush_buckets` changes the project only through `get_cached_state(false)`, and sends
only quiet messages after its requests. -/
theorem flushBuckets_shape (p : Project) (partitionKey : Option Nat) (buckets : List Bucket)
    (now : Instant) :
    (p.flushBuckets ext partitionKey buckets now).1 = (p.getCachedState false now).1 ∧
      ∃ tail, (p.flushBuckets ext partitionKey buckets now).2 =
        (p.getCachedState false now).2.2 ++ tail ∧ tail.all Effect.quiet := by
  unfold flushBuckets
  generalize p.getCachedState false now = cached
  obtain ⟨q, result, effects⟩ := cached
  cases result with
  | none => exact ⟨rfl, _, rfl, rfl⟩
  | some state =>
    dsimp only
    split
    · exact ⟨rfl, _, rfl, rfl⟩
    · split
      · exact ⟨rfl, [], by simp, rfl⟩
      · split
        · split
          · exact ⟨rfl, _, rfl, rfl⟩
          · split <;> exact ⟨rfl, _, rfl, by simp [Effect.quiet]⟩
        · split <;> exact ⟨rfl, _, rfl, by simp [Effect.quiet]⟩

end Project

/-- One ghost log entry: a message, when it was sent, and how many state channels had been
opened by then. -/
structure Sent where
  time : Instant
  channel : Nat
  effect : Effect

/-- A project, the clock, and ghost observations of the run that led to them. -/
structure System where
  project : Project
  now : Instant
  channels : Nat
  log : List Sent
  handed : List ProjectSender
  queued : List (Envelope × EnvelopeContext)
  flushed : List (Envelope × EnvelopeContext)
  queuedSampling : List ProcessEnvelope
  flushedSampling : List ProcessEnvelope

namespace Op

/-- The sender a call hands over. -/
def sender? : Op → Option ProjectSender
  | .getState sender _ => some sender
  | _ => none

/-- What a call puts on `pending_validations`: `enqueue_validation` queues its envelope
when `get_cached_state` finds no usable state. -/
def queues (p : Project) (now : Instant) : Op → List (Envelope × EnvelopeContext)
  | .enqueueValidation envelope context =>
    if (p.getCachedState envelope.meta.noCache now).2.1.isNone then [(envelope, context)]
    else []
  | _ => []

/-- What a call puts on `pending_sampling`. -/
def queuesSampling (p : Project) (now : Instant) : Op → List ProcessEnvelope
  | .enqueueSampling message =>
    if (p.getCachedState message.envelope.meta.noCache now).2.1.isNone then [message] else []
  | _ => []

/-- Whether the call is an `update_state` that takes the open channel, draining both
queues. -/
def drains (p : Project) : Op → Bool
  | .updateState _ noCache => p.consumes noCache
  | _ => false

end Op

namespace System

variable (ext : Collaborators)

/-- A new project created at `now`. -/
def init (key : ProjectKey) (config : Config) (now : Instant) : System :=
  ⟨Project.new key config now, now, 0, [], [], [], [], [], []⟩

/-- One call of the project cache on the project, at the current instant. -/
def step (s : System) (op : Op) : System :=
  let result := s.project.handle ext s.now op
  let channels :=
    if s.project.stateChannel.isNone && result.1.stateChannel.isSome then s.channels + 1
    else s.channels
  { project := result.1
    now := s.now
    channels := channels
    log := s.log ++ result.2.map (Sent.mk s.now channels)
    handed := s.handed ++ op.sender?.toList
    queued := s.queued ++ op.queues s.project s.now
    flushed := s.flushed ++ (if op.drains s.project then s.project.pendingValidations else [])
    queuedSampling := s.queuedSampling ++ op.queuesSampling s.project s.now
    flushedSampling :=
      s.flushedSampling ++ (if op.drains s.project then s.project.pendingSampling else []) }

/-- The clock advances. -/
def tick (s : System) (elapsed : Duration) : System := { s with now := s.now + elapsed }

/-- The systems a project created at `start` can reach. -/
inductive Reachable (key : ProjectKey) (config : Config) (start : Instant) : System → Prop
  | init : Reachable key config start (init key config start)
  | step {s : System} (op : Op) : Reachable key config start s →
      Reachable key config start (s.step ext op)
  | tick {s : System} (elapsed : Duration) : Reachable key config start s →
      Reachable key config start (s.tick elapsed)

end System

namespace Sample

/-- Collaborators that keep every item and track no outcome, find no sampling key and no
applicable metrics quota, and accept every origin. -/
def collaborators : Collaborators where
  matchesAnyOrigin _ _ := true
  enforce _ _ rateLimits envelope _ := (envelope.items, [], rateLimits)
  samplingKey _ := none
  limitMetrics _ _ _ _ := none
  processingFeature := false

/-- Five minutes of freshness, one minute of grace. -/
def config : Config :=
  ⟨Duration.fromSecs 300, Duration.fromSecs 60, Duration.fromSecs 60, false, false, 1000000⟩

def scoping : Scoping := ⟨1, 42, 0, none⟩

/-- An envelope for project 42 without items, sent without `no_cache`. -/
def envelope : Envelope := ⟨⟨some 42, none, 0, false, scoping, none, none⟩, none, 90, []⟩

def context : EnvelopeContext := ⟨scoping, []⟩

/-- The state every answer carries: an allowed project without a project id, fetched at
instant zero, so that under `config` it expires two minutes later. -/
def answer : ProjectState := ProjectState.allowed 0

/-- A project created at instant zero that has just queued `envelope`. -/
def queuedSystem : System :=
  (System.init 0 config 0).step collaborators (.enqueueValidation envelope context)

end Sample

end Relay
