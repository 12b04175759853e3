import Relay.Project.Validation

/-!
# The held state

`update_state` decides which state the project holds: the new one, unless it is invalid while
the held one is still usable.  It flushes the queued envelopes with that state and sends it
to every attached sender, so what the project holds, what the queue is validated with and
what the senders receive agree.

`flush_buckets` reads the held state twice: through `get_cached_state`, which serves it while
it has not expired, and through `scoping()`, which needs its project id.  A served state that
fails `check_disabled` drops the buckets only when it has a project id; a state without one,
such as `ProjectState::missing()`, fails `scoping()` first, and its buckets go back to the
aggregator on every flush.
-/

namespace Relay

namespace Project

variable (ext : Collaborators)

/-- The valid state is the held one. -/
theorem state_of_validState {p : Project} {now : Instant} {state : ProjectState}
    (valid : p.validState now = some state) : p.state = some state := by
  unfold validState at valid
  split at valid <;> cases valid
  · exact state_of_expiryState_updated ‹_›
  · exact state_of_expiryState_stale ‹_›

/-- `update_state` publishes the new state unless it is invalid, in which case it keeps the
usable state it holds, if any. -/
theorem publish_snd (p : Project) (state : ProjectState) (now : Instant) :
    (p.publish state now).2 = if state.invalid then (p.validState now).getD state else state := by
  unfold publish validState
  cases p.expiryState now <;> split_ifs <;> rfl

/-- Publishing sets the held state to the published one and changes nothing else. -/
theorem publish_eq (p : Project) (state : ProjectState) (now : Instant) :
    p.publish state now =
      ({ p with state := some (p.publish state now).2 }, (p.publish state now).2) := by
  rw [← publish_state, ← publish_fst]

/-- The published state is the held state when the new one is invalid and the held one is
usable, and the new one otherwise. -/
theorem publish_held (p : Project) (state : ProjectState) (now : Instant) :
    some (p.publish state now).2 =
      if state.invalid && (p.validState now).isSome then p.state else some state := by
  rw [publish_snd]
  cases valid : p.validState now with
  | none => simp
  | some old => cases state.invalid <;> simp [state_of_validState valid]

/-- `flush_sampling` reads the project only through its valid state. -/
theorem flushSampling_congr {p q : Project} {now : Instant}
    (same : q.validState now = p.validState now) (message : ProcessEnvelope) :
    q.flushSampling message now = p.flushSampling message now := by
  simp only [flushSampling, same]

/-- The `update_state` that takes the channel keeps a usable held state against an invalid new
one and holds the new state otherwise; it flushes both queues with the state it then holds
and sends that state to every attached sender. -/
theorem update_state_holds_sent_state {p : Project} {channel : StateChannel}
    (opened : p.stateChannel = some channel) {noCache : Bool}
    (consumed : channel.noCache = true → noCache = true) (state : ProjectState) (now : Instant) :
    (p.updateState ext state noCache now).1.state =
        (if state.invalid && (p.validState now).isSome then p.state else some state) ∧
      ∃ held, (p.updateState ext state noCache now).1.state = some held ∧
        (p.updateState ext state noCache now).2 =
          (flushValidations ext held now
            { p with stateChannel := none, state := some held, pendingValidations := [] }
            p.pendingValidations).2 ++
          p.pendingSampling.map ({ p with state := some held }.flushSampling · now) ++
          channel.senders.map (Effect.sendState · held) := by
  have taken : (channel.noCache && !noCache) = false := by
    cases noCache <;> simp_all
  have published := publish_held { p with stateChannel := none } state now
  rw [updateState_of_consumes ext opened taken, publish_eq]
  generalize ({ p with stateChannel := none }.publish state now).2 = held at published ⊢
  have validated := flushValidations_sameButRateLimits ext held now p.pendingValidations
    { p with stateChannel := none, state := some held, pendingValidations := [] }
  refine ⟨validated.state.trans published, held, validated.state, ?_⟩
  simp only [validated.pendingSampling, flushSampling_congr (validated.validState now)]
  rfl

/-- `scoping()` is defined exactly when the held state has a project id. -/
theorem scoping_isSome {p : Project} {state : ProjectState} (held : p.state = some state) :
    p.scoping.isSome = state.projectId.isSome := by
  cases projectId : state.projectId <;> simp [scoping, held, projectId]

/-- When `get_cached_state(false)` serves a state that fails `check_disabled`, `flush_buckets`
sends nothing beyond what `get_cached_state` sent if the state has a project id, so the
buckets are dropped; without a project id, `scoping()` fails first and the buckets go back
to the aggregator. -/
theorem flush_buckets_of_disabled {p : Project} {now : Instant} {projectState : ProjectState}
    (served : (p.getCachedState false now).2.1 = some projectState) {reason : DiscardReason}
    (refused : projectState.checkDisabled p.config now = .error reason)
    (partitionKey : Option Nat) (buckets : List Bucket) :
    p.flushBuckets ext partitionKey buckets now =
      ((p.getCachedState false now).1, (p.getCachedState false now).2.2 ++
        if projectState.projectId.isSome then [] else [.mergeBuckets p.projectKey buckets]) := by
  have frame := getCachedState_fetchFrame p false now
  have held := state_of_validState (getCachedState_validState served)
  rw [← frame.config] at refused
  rw [← frame.projectKey]
  have scopingDefined := scoping_isSome held
  unfold flushBuckets
  generalize p.getCachedState false now = cached at served refused scopingDefined ⊢
  obtain ⟨q, result, effects⟩ := cached
  cases served
  cases projectId : projectState.projectId
  · have unscoped : q.scoping = none :=
      Option.not_isSome_iff_eq_none.mp (by simp [scopingDefined, projectId])
    simp [unscoped]
  · obtain ⟨scoping, scopingEq⟩ := Option.isSome_iff_exists.mp
      (by simp [scopingDefined, projectId] : q.scoping.isSome)
    simp [scopingEq, refused]
end Project

namespace Sample

/-- Some session buckets. -/
def buckets : List Bucket := [⟨"c:sessions/session@none"⟩]

/-- A project created at instant zero that holds a disabled state of project 42. -/
def disabledProject : Project :=
  { Project.new 0 config 0 with state := some { ProjectState.missing 0 with projectId := some 42 } }

/-- A project created at instant zero that holds `ProjectState::missing()`. -/
def missingProject : Project :=
  { Project.new 0 config 0 with state := some (ProjectState.missing 0) }

end Sample

namespace Project

/-- The queued project publishes the allowed state when it arrives. -/
theorem queued_update_holds_allowed :
    (Sample.queuedSystem.project.updateState Sample.collaborators (ProjectState.allowed 0) false
      0).1.state = some (ProjectState.allowed 0) :=
  (@update_state_holds_sent_state Sample.collaborators Sample.queuedSystem.project ⟨[], false⟩ rfl
    false id (ProjectState.allowed 0) 0).1.trans (by decide)

/-- The project holding a disabled state of project 42 drops its buckets. -/
theorem disabled_project_drops_buckets :
    Sample.disabledProject.flushBuckets Sample.collaborators none Sample.buckets 0 =
      (Sample.disabledProject, []) :=
  (@flush_buckets_of_disabled Sample.collaborators Sample.disabledProject 0 _ rfl .projectId rfl
    none Sample.buckets).trans rfl

/-- The project holding `ProjectState::missing()`, which is disabled and not expired, merges
its buckets back into the aggregator. -/
theorem missing_state_buckets_merged_back :
    (ProjectState.missing 0).checkDisabled Sample.config 0 = .error .projectId ∧
      Sample.missingProject.flushBuckets Sample.collaborators none Sample.buckets 0 =
        (Sample.missingProject, [.mergeBuckets 0 Sample.buckets]) :=
  ⟨rfl, rfl⟩

end Project

end Relay
