import Relay.Project.Actor

/-!
# What the project's methods change

Each method of `Project` touches few of its fields and sends few kinds of messages.  This
file states that once per method: validating an envelope changes only the cached rate
limits and sends neither requests nor states, fetching changes only the state channel,
and the throttle changes only the instant of the last `no_cache` request.  The run
invariants of the actor are derived from these lemmas without unfolding the methods.
-/

namespace Relay

namespace Effect

/-- The `no_cache` flag of a request to the project cache. -/
def requestFlag? : Effect → Option Bool
  | .requestUpdate _ noCache => some noCache
  | _ => none

/-- The sender a state is sent to. -/
def recipient? : Effect → Option ProjectSender
  | .sendState sender _ => some sender
  | _ => none

/-- A message that is neither a request for the project's state nor a state sent to a
waiting sender. -/
def quiet : Effect → Bool
  | .requestUpdate .. | .sendState .. => false
  | _ => true

theorem requestFlag?_of_quiet {effect : Effect} (isQuiet : effect.quiet) :
    effect.requestFlag? = none := by
  cases effect <;> simp_all [quiet, requestFlag?]

theorem recipient?_of_quiet {effect : Effect} (isQuiet : effect.quiet) :
    effect.recipient? = none := by
  cases effect <;> simp_all [quiet, recipient?]

theorem requestFlags_of_all_quiet {effects : List Effect} (allQuiet : effects.all quiet) :
    effects.filterMap requestFlag? = [] :=
  List.filterMap_eq_nil_iff.mpr fun _ member =>
    requestFlag?_of_quiet (List.all_eq_true.mp allQuiet _ member)

theorem recipients_of_all_quiet {effects : List Effect} (allQuiet : effects.all quiet) :
    effects.filterMap recipient? = [] :=
  List.filterMap_eq_nil_iff.mpr fun _ member =>
    recipient?_of_quiet (List.all_eq_true.mp allQuiet _ member)

end Effect

namespace Project

variable (ext : Collaborators)

/-- Whether `update_state(_, no_cache)` takes the open channel. -/
def consumes (p : Project) (noCache : Bool) : Bool :=
  match p.stateChannel with
  | some channel => !(channel.noCache && !noCache)
  | none => false

/-- The senders attached to the open channel. -/
def attached (p : Project) : List ProjectSender := (p.stateChannel.map (·.senders)).getD []

/-- `q` is `p` with at most its cached rate limits changed. -/
def SameButRateLimits (p q : Project) : Prop := q = { p with rateLimits := q.rateLimits }

theorem SameButRateLimits.refl (p : Project) : p.SameButRateLimits p := rfl

theorem SameButRateLimits.trans {p q r : Project} (first : p.SameButRateLimits q)
    (second : q.SameButRateLimits r) : p.SameButRateLimits r := by
  unfold SameButRateLimits at *
  rw [second, first]

section SameButRateLimits

variable {p q : Project} (same : p.SameButRateLimits q)
include same

theorem SameButRateLimits.state : q.state = p.state := by rw [same]
theorem SameButRateLimits.stateChannel : q.stateChannel = p.stateChannel := by rw [same]
theorem SameButRateLimits.pendingValidations :
    q.pendingValidations = p.pendingValidations := by rw [same]
theorem SameButRateLimits.pendingSampling : q.pendingSampling = p.pendingSampling := by
  rw [same]
theorem SameButRateLimits.lastNoCache : q.lastNoCache = p.lastNoCache := by rw [same]
theorem SameButRateLimits.config : q.config = p.config := by rw [same]
theorem SameButRateLimits.projectKey : q.projectKey = p.projectKey := by rw [same]

theorem SameButRateLimits.validState (now : Instant) : q.validState now = p.validState now := by
  simp only [Project.validState, Project.expiryState, same.state, same.config]

end SameButRateLimits

theorem limitEnvelope_sameButRateLimits (p : Project) (state : Option ProjectState)
    (envelope : Envelope) (context : EnvelopeContext) (scoping : Scoping) (now : Instant) :
    p.SameButRateLimits (p.limitEnvelope ext state envelope context scoping now).1 := by
  dsimp only [limitEnvelope]
  split <;> rfl

theorem limitEnvelope_quiet (p : Project) (state : Option ProjectState) (envelope : Envelope)
    (context : EnvelopeContext) (scoping : Scoping) (now : Instant) :
    (p.limitEnvelope ext state envelope context scoping now).2.2.all Effect.quiet := by
  dsimp only [limitEnvelope]
  split <;> simp [Effect.quiet]

theorem checkEnvelope_sameButRateLimits (p : Project) (envelope : Envelope)
    (context : EnvelopeContext) (now : Instant) :
    p.SameButRateLimits (p.checkEnvelope ext envelope context now).1 := by
  unfold checkEnvelope
  split
  · split
    · exact SameButRateLimits.refl p
    · exact limitEnvelope_sameButRateLimits ext ..
  · exact limitEnvelope_sameButRateLimits ext ..

theorem checkEnvelope_quiet (p : Project) (envelope : Envelope) (context : EnvelopeContext)
    (now : Instant) : (p.checkEnvelope ext envelope context now).2.2.all Effect.quiet := by
  unfold checkEnvelope
  split
  · split
    · simp [Effect.quiet]
    · exact limitEnvelope_quiet ext ..
  · exact limitEnvelope_quiet ext ..

theorem routeChecked_quiet (process : ProcessEnvelope) : (routeChecked ext process).quiet := by
  unfold routeChecked
  split
  · split <;> simp [Effect.quiet]
  · simp [Effect.quiet]

theorem flushValidation_sameButRateLimits (p : Project) (envelope : Envelope)
    (context : EnvelopeContext) (state : ProjectState) (now : Instant) :
    p.SameButRateLimits (p.flushValidation ext envelope context state now).1 := by
  have checked := checkEnvelope_sameButRateLimits ext p envelope context now
  unfold flushValidation
  split <;> simp_all

theorem flushValidation_quiet (p : Project) (envelope : Envelope) (context : EnvelopeContext)
    (state : ProjectState) (now : Instant) :
    (p.flushValidation ext envelope context state now).2.all Effect.quiet := by
  have checked := checkEnvelope_quiet ext p envelope context now
  unfold flushValidation
  split <;> simp_all [routeChecked_quiet]

theorem flushValidations_sameButRateLimits (state : ProjectState) (now : Instant)
    (queue : List (Envelope × EnvelopeContext)) (p : Project) :
    p.SameButRateLimits (flushValidations ext state now p queue).1 := by
  induction queue generalizing p with
  | nil => exact SameButRateLimits.refl p
  | cons entry rest ih =>
    exact (flushValidation_sameButRateLimits ext p entry.1 entry.2 state now).trans (ih _)

theorem flushValidations_quiet (state : ProjectState) (now : Instant)
    (queue : List (Envelope × EnvelopeContext)) (p : Project) :
    (flushValidations ext state now p queue).2.all Effect.quiet := by
  induction queue generalizing p with
  | nil => rfl
  | cons entry rest ih =>
    simp only [flushValidations, List.all_append, flushValidation_quiet, ih, Bool.and_self]

theorem flushSampling_quiet (p : Project) (message : ProcessEnvelope) (now : Instant) :
    (p.flushSampling message now).quiet := by
  unfold flushSampling
  split
  · split <;> simp [Effect.quiet]
  · simp [Effect.quiet]

theorem flushSamplings_quiet (p : Project) (queue : List ProcessEnvelope) (now : Instant) :
    (queue.map (p.flushSampling · now)).all Effect.quiet := by
  simp [flushSampling_quiet]

@[simp]
theorem flushValidations_recipients (state : ProjectState) (now : Instant)
    (queue : List (Envelope × EnvelopeContext)) (p : Project) :
    (flushValidations ext state now p queue).2.filterMap Effect.recipient? = [] :=
  Effect.recipients_of_all_quiet (flushValidations_quiet ext state now queue p)

@[simp]
theorem flushValidations_requestFlags (state : ProjectState) (now : Instant)
    (queue : List (Envelope × EnvelopeContext)) (p : Project) :
    (flushValidations ext state now p queue).2.filterMap Effect.requestFlag? = [] :=
  Effect.requestFlags_of_all_quiet (flushValidations_quiet ext state now queue p)

@[simp]
theorem flushSamplings_recipients (p : Project) (queue : List ProcessEnvelope)
    (now : Instant) : (queue.map (p.flushSampling · now)).filterMap Effect.recipient? = [] :=
  Effect.recipients_of_all_quiet (flushSamplings_quiet p queue now)

@[simp]
theorem flushSamplings_requestFlags (p : Project) (queue : List ProcessEnvelope)
    (now : Instant) : (queue.map (p.flushSampling · now)).filterMap Effect.requestFlag? = [] :=
  Effect.requestFlags_of_all_quiet (flushSamplings_quiet p queue now)

@[simp]
theorem flushValidation_recipients (p : Project) (envelope : Envelope)
    (context : EnvelopeContext) (state : ProjectState) (now : Instant) :
    (p.flushValidation ext envelope context state now).2.filterMap Effect.recipient? = [] :=
  Effect.recipients_of_all_quiet (flushValidation_quiet ext p envelope context state now)

@[simp]
theorem flushValidation_requestFlags (p : Project) (envelope : Envelope)
    (context : EnvelopeContext) (state : ProjectState) (now : Instant) :
    (p.flushValidation ext envelope context state now).2.filterMap Effect.requestFlag? = [] :=
  Effect.requestFlags_of_all_quiet (flushValidation_quiet ext p envelope context state now)

@[simp]
theorem sendStates_recipients (senders : List ProjectSender) (state : ProjectState) :
    (senders.map (Effect.sendState · state)).filterMap Effect.recipient? = senders := by
  induction senders with
  | nil => rfl
  | cons sender rest ih => simp [ih, Effect.recipient?]

@[simp]
theorem sendStates_requestFlags (senders : List ProjectSender) (state : ProjectState) :
    (senders.map (Effect.sendState · state)).filterMap Effect.requestFlag? = [] := by
  induction senders with
  | nil => rfl
  | cons sender rest ih => simp [ih, Effect.requestFlag?]

theorem fetchState_fst (p : Project) (noCache : Bool) :
    (p.fetchState noCache).1 = { p with stateChannel := some (p.fetchState noCache).2.1 } := by
  dsimp only [fetchState]
  split_ifs <;> rfl

/-- Without a channel, `fetch_state` opens one and requests the state. -/
theorem fetchState_of_none {p : Project} (closed : p.stateChannel = none) (noCache : Bool) :
    p.fetchState noCache =
      ({ p with stateChannel := some ⟨[], noCache⟩ }, ⟨[], noCache⟩,
        [.requestUpdate p.projectKey noCache]) := by
  simp [fetchState, closed, StateChannel.new]

/-- A fetch in flight that is `no_cache`, or a plain request, sends nothing new. -/
theorem fetchState_of_covered {p : Project} {channel : StateChannel}
    (opened : p.stateChannel = some channel) {noCache : Bool}
    (covered : channel.noCache || !noCache) : p.fetchState noCache = (p, channel, []) := by
  cases p
  subst opened
  simp [fetchState, covered]

/-- A `no_cache` request upgrades a plain fetch in flight and requests the state again. -/
theorem fetchState_of_upgrade {p : Project} {channel : StateChannel}
    (opened : p.stateChannel = some channel) (plain : channel.noCache = false) :
    p.fetchState true =
      ({ p with stateChannel := some { channel with noCache := true } },
        { channel with noCache := true }, [.requestUpdate p.projectKey true]) := by
  simp [fetchState, opened, plain]

theorem fetchState_senders (p : Project) (noCache : Bool) :
    (p.fetchState noCache).2.1.senders = (p.stateChannel.map (·.senders)).getD [] := by
  dsimp only [fetchState]
  cases p.stateChannel <;> split_ifs <;> rfl

theorem throttleNoCache_fst (p : Project) (noCache : Bool) (now : Instant) :
    (p.throttleNoCache noCache now).1 =
      { p with lastNoCache := (p.throttleNoCache noCache now).1.lastNoCache } := by
  unfold throttleNoCache
  split
  · split <;> rfl
  · rfl

/-- A `no_cache` request is honoured only a second or more after the last honoured one,
and then becomes the last honoured one. -/
theorem throttleNoCache_honoured {p : Project} {noCache : Bool} {now : Instant}
    (honoured : (p.throttleNoCache noCache now).2) :
    Duration.fromSecs 1 ≤ now - p.lastNoCache ∧
      (p.throttleNoCache noCache now).1.lastNoCache = now := by
  unfold throttleNoCache at *
  by_cases within : now - p.lastNoCache < Duration.fromSecs 1 <;> cases noCache <;>
    simp [within] at honoured ⊢
  exact Nat.not_lt.mp within

/-- A call that does not honour `no_cache` leaves the last honoured instant alone. -/
theorem throttleNoCache_lastNoCache {p : Project} {noCache : Bool} {now : Instant}
    (downgraded : (p.throttleNoCache noCache now).2 = false) :
    (p.throttleNoCache noCache now).1.lastNoCache = p.lastNoCache := by
  unfold throttleNoCache at *
  by_cases within : now - p.lastNoCache < Duration.fromSecs 1 <;> cases noCache <;>
    simp [within] at downgraded ⊢

/-- `get_or_fetch_state` serves a fresh state without fetching, serves a stale state
while fetching with `no_cache = false`, or fetches with the throttled flag. -/
theorem getOrFetchState_cases (p : Project) (noCache : Bool) (now : Instant) :
    ((p.throttleNoCache noCache now).2 = false ∧ ∃ state, p.getOrFetchState noCache now =
        ((p.throttleNoCache noCache now).1, .cached state, [])) ∨
    ((p.throttleNoCache noCache now).2 = false ∧ ∃ state, p.getOrFetchState noCache now =
        (((p.throttleNoCache noCache now).1.fetchState false).1, .cached state,
          ((p.throttleNoCache noCache now).1.fetchState false).2.2)) ∨
    p.getOrFetchState noCache now =
      (((p.throttleNoCache noCache now).1.fetchState (p.throttleNoCache noCache now).2).1,
        .scheduled ((p.throttleNoCache noCache now).1.fetchState
          (p.throttleNoCache noCache now).2).2.1,
        ((p.throttleNoCache noCache now).1.fetchState (p.throttleNoCache noCache now).2).2.2) := by
  dsimp only [getOrFetchState]
  generalize p.throttleNoCache noCache now = throttled
  obtain ⟨q, honoured⟩ := throttled
  dsimp only
  split
  · exact .inl ⟨rfl, _, rfl⟩
  · exact .inr (.inl ⟨rfl, _, rfl⟩)
  · exact .inr (.inr rfl)

theorem publish_fst (p : Project) (state : ProjectState) (now : Instant) :
    (p.publish state now).1 = { p with state := (p.publish state now).1.state } := by
  unfold publish
  split
  · split <;> rfl
  · split <;> rfl
  · rfl

/-- A call that finds no channel to take, or whose plain response arrives while a
`no_cache` fetch is in flight, changes nothing and sends nothing. -/
theorem updateState_of_not_consumes {p : Project} {noCache : Bool}
    (ignored : p.consumes noCache = false) (state : ProjectState) (now : Instant) :
    p.updateState ext state noCache now = (p, []) := by
  unfold consumes at ignored
  unfold updateState
  split
  · rfl
  · rename_i channel opened
    simp only [opened, Bool.not_eq_false'] at ignored
    simp [ignored]

/-- `update_state` taking the channel: publish, flush the validation queue, then the
sampling queue, then send the published state to every attached sender. -/
theorem updateState_of_consumes {p : Project} {channel : StateChannel}
    (opened : p.stateChannel = some channel) {noCache : Bool}
    (taken : (channel.noCache && !noCache) = false) (state : ProjectState) (now : Instant) :
    p.updateState ext state noCache now =
      let published := { p with stateChannel := none }.publish state now
      let validated := flushValidations ext published.2 now
        { published.1 with pendingValidations := [] } published.1.pendingValidations
      ({ validated.1 with pendingSampling := [] },
        validated.2 ++ validated.1.pendingSampling.map (validated.1.flushSampling · now) ++
          channel.senders.map (Effect.sendState · published.2)) := by
  simp only [updateState, opened, taken, Bool.false_eq_true, if_false]

theorem state_of_expiryState_updated {p : Project} {now : Instant} {state : ProjectState}
    (usable : p.expiryState now = .updated state) : p.state = some state := by
  unfold expiryState at usable
  split at usable
  · split at usable <;> simp_all
  · simp at usable

theorem state_of_expiryState_stale {p : Project} {now : Instant} {state : ProjectState}
    (usable : p.expiryState now = .stale state) : p.state = some state := by
  unfold expiryState at usable
  split at usable
  · split at usable <;> simp_all
  · simp at usable

/-- The project right after publishing holds the published state. -/
theorem publish_state (p : Project) (state : ProjectState) (now : Instant) :
    (p.publish state now).1.state = some (p.publish state now).2 := by
  unfold publish
  split
  next _ old usable =>
    have held := state_of_expiryState_updated usable
    split_ifs <;> simp [held]
  next _ old usable =>
    have held := state_of_expiryState_stale usable
    split_ifs <;> simp [held]
  next => rfl

/-- What `get_or_fetch_state` may change: the state channel, whose senders it keeps and
which it never closes, and the instant of the last honoured `no_cache` request. -/
structure FetchFrame (p q : Project) : Prop where
  rest : q = { p with stateChannel := q.stateChannel, lastNoCache := q.lastNoCache }
  attached : q.attached = p.attached
  keepsOpen : p.stateChannel.isSome → q.stateChannel.isSome

theorem FetchFrame.trans {p q r : Project} (first : FetchFrame p q) (second : FetchFrame q r) :
    FetchFrame p r where
  rest := by rw [second.rest, first.rest]
  attached := second.attached.trans first.attached
  keepsOpen := second.keepsOpen ∘ first.keepsOpen

section FetchFrame

variable {p q : Project} (frame : FetchFrame p q)
include frame

theorem FetchFrame.pendingValidations : q.pendingValidations = p.pendingValidations := by
  rw [frame.rest]
theorem FetchFrame.pendingSampling : q.pendingSampling = p.pendingSampling := by
  rw [frame.rest]
theorem FetchFrame.state : q.state = p.state := by rw [frame.rest]
theorem FetchFrame.config : q.config = p.config := by rw [frame.rest]
theorem FetchFrame.projectKey : q.projectKey = p.projectKey := by rw [frame.rest]

theorem FetchFrame.validState (now : Instant) : q.validState now = p.validState now := by
  simp only [Project.validState, Project.expiryState, frame.state, frame.config]

end FetchFrame

theorem fetchState_fetchFrame (p : Project) (noCache : Bool) :
    FetchFrame p (p.fetchState noCache).1 where
  rest := by rw [fetchState_fst]
  attached := by simp only [attached, fetchState_fst, Option.map_some', Option.getD_some,
    fetchState_senders]
  keepsOpen _ := by simp [fetchState_fst]

theorem throttleNoCache_fetchFrame (p : Project) (noCache : Bool) (now : Instant) :
    FetchFrame p (p.throttleNoCache noCache now).1 where
  rest := by rw [throttleNoCache_fst]
  attached := by rw [throttleNoCache_fst]; rfl
  keepsOpen opened := by rw [throttleNoCache_fst]; exact opened

theorem getOrFetchState_fetchFrame (p : Project) (noCache : Bool) (now : Instant) :
    FetchFrame p (p.getOrFetchState noCache now).1 := by
  have throttled := throttleNoCache_fetchFrame p noCache now
  rcases getOrFetchState_cases p noCache now with ⟨_, _, served⟩ | ⟨_, _, served⟩ | served <;>
    rw [served]
  · exact throttled
  · exact throttled.trans (fetchState_fetchFrame _ _)
  · exact throttled.trans (fetchState_fetchFrame _ _)

/-- The channel `get_or_fetch_state` schedules on is the project's open channel. -/
theorem getOrFetchState_scheduled {p : Project} {noCache : Bool} {now : Instant}
    {channel : StateChannel}
    (scheduled : (p.getOrFetchState noCache now).2.1 = .scheduled channel) :
    (p.getOrFetchState noCache now).1.stateChannel = some channel := by
  rcases getOrFetchState_cases p noCache now with ⟨_, _, served⟩ | ⟨_, _, served⟩ | served <;>
    rw [served] at scheduled ⊢ <;> cases scheduled
  dsimp only
  rw [fetchState_fst]

/-- `get_or_fetch_state` sends requests only, and no state to any sender. -/
theorem getOrFetchState_recipients (p : Project) (noCache : Bool) (now : Instant) :
    (p.getOrFetchState noCache now).2.2.filterMap Effect.recipient? = [] := by
  have fetched (q : Project) (flag : Bool) : (q.fetchState flag).2.2.filterMap
      Effect.recipient? = [] := by
    dsimp only [fetchState]
    split_ifs <;> rfl
  rcases getOrFetchState_cases p noCache now with ⟨_, _, served⟩ | ⟨_, _, served⟩ | served <;>
    rw [served]
  · rfl
  · exact fetched _ _
  · exact fetched _ _

theorem getCachedState_fst (p : Project) (noCache : Bool) (now : Instant) :
    (p.getCachedState noCache now).1 = (p.getOrFetchState noCache now).1 ∧
      (p.getCachedState noCache now).2.2 = (p.getOrFetchState noCache now).2.2 := by
  unfold getCachedState
  split <;> simp_all

/-- When `get_cached_state` finds no usable state, a fetch is in flight. -/
theorem getCachedState_none_opened {p : Project} {noCache : Bool} {now : Instant}
    (missing : (p.getCachedState noCache now).2.1 = none) :
    (p.getCachedState noCache now).1.stateChannel.isSome := by
  unfold getCachedState at *
  split at missing
  · simp at missing
  · rename_i q channel effects scheduled
    have opened := getOrFetchState_scheduled (congrArg (·.2.1) scheduled)
    rw [scheduled] at opened
    simp only at opened
    simp [opened]

theorem getCachedState_fetchFrame (p : Project) (noCache : Bool) (now : Instant) :
    FetchFrame p (p.getCachedState noCache now).1 :=
  (getCachedState_fst p noCache now).1 ▸ getOrFetchState_fetchFrame p noCache now

/-- The `update_state` that takes the channel leaves no channel and both queues empty. -/
theorem updateState_drains {p : Project} {noCache : Bool} (taken : p.consumes noCache)
    (state : ProjectState) (now : Instant) :
    (p.updateState ext state noCache now).1.pendingValidations = [] ∧
      (p.updateState ext state noCache now).1.pendingSampling = [] ∧
      (p.updateState ext state noCache now).1.stateChannel = none := by
  unfold consumes at taken
  split at taken
  · rename_i channel opened
    rw [updateState_of_consumes ext opened (by simpa only [Bool.not_eq_true'] using taken)]
    have validated := flushValidations_sameButRateLimits ext
      ({ p with stateChannel := none }.publish state now).2 now
      ({ p with stateChannel := none }.publish state now).1.pendingValidations
      { ({ p with stateChannel := none }.publish state now).1 with pendingValidations := [] }
    refine ⟨validated.pendingValidations, rfl, ?_⟩
    dsimp only
    rw [validated.stateChannel, publish_fst]
  · simp at taken

end Project

end Relay
