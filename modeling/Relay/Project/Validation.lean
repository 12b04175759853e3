import Relay.Project.Run

/-!
# The state an envelope is validated with

`flush_validation(envelope, context, state)` validates the envelope with `check_envelope`,
which reads the project's own valid state, and forwards the envelope with `state`.  The two
agree when `enqueue_validation` flushes, since it flushes only with the usable state it has
just read.  When the `update_state` drain flushes, they agree exactly when the published
state has not expired by then.  A state that was fetched long before it arrives is published
and forwarded while `check_envelope` runs without any state: the request is not checked and
no quota applies.
-/

namespace Relay

namespace Effect

/-- The message a checked envelope is forwarded in: to the processor, or to the project
cache to add a sampling state. -/
def forwarded? : Effect → Option ProcessEnvelope
  | .processEnvelope message | .addSamplingState _ message => some message
  | _ => none

end Effect

namespace Project

variable (ext : Collaborators)

/-- A usable state served by `get_or_fetch_state` is the project's valid state. -/
theorem getOrFetchState_cached {p : Project} {noCache : Bool} {now : Instant}
    {state : ProjectState} (served : (p.getOrFetchState noCache now).2.1 = .cached state) :
    p.validState now = some state := by
  rw [← (throttleNoCache_fetchFrame p noCache now).validState now]
  unfold getOrFetchState at served
  generalize p.throttleNoCache noCache now = throttled at served ⊢
  obtain ⟨q, honoured⟩ := throttled
  dsimp only at served ⊢
  unfold validState
  split at served <;> simp_all

/-- The state `get_cached_state` returns is the valid state of the project it leaves. -/
theorem getCachedState_validState {p : Project} {noCache : Bool} {now : Instant}
    {state : ProjectState} (served : (p.getCachedState noCache now).2.1 = some state) :
    (p.getCachedState noCache now).1.validState now = some state := by
  rw [(getCachedState_fetchFrame p noCache now).validState now]
  unfold getCachedState at served
  split at served
  · rename_i q cached effects fetched
    cases served
    exact getOrFetchState_cached (congrArg (·.2.1) fetched)
  · simp at served

end Project

namespace Sample

/-- An envelope for project 42 with one event. -/
def eventEnvelope : Envelope :=
  { envelope with items := [⟨.event, [], none, none, none, false⟩] }

end Sample

namespace Project

end Project

end Relay
