import Relay.Project.Validation

/-!
# The project cache

The project cache owns one `Project` per project key and is the only caller of its methods,
one message at a time.  A project asks the cache, in an `AddSamplingState` message, to add
the state of another project for dynamic sampling; the cache handles that message later,
like any other, by `enqueue_sampling` on the project of the sampling key, which queues it
until that project has a usable state and then flushes it with `flush_sampling`.

`actors/project_cache.rs` is not among the sources modelled here.  The cache is the arena of
projects keyed by project key that the specification describes, with every mutation going
through it, together with what `actors/project.rs` says of it: it handles
`AddSamplingState` with `enqueue_sampling`, and creates a project with `Project::new` when
it first needs one.  The calls the rest of the relay makes arrive in any order between the
deliveries of the mailbox, and the clock advances between any two.  A ghost log records
every message the projects send.
-/

namespace Relay

namespace Op

/-- Whether the rest of the relay makes the call: every call but `enqueue_sampling`, which
the project cache makes itself for an `AddSamplingState` in its mailbox. -/
def external : Op → Bool
  | .enqueueSampling _ => false
  | _ => true

end Op

namespace Effect

/-- The sampling key and message of an `AddSamplingState` to the project cache. -/
def samplingRequest? : Effect → Option (ProjectKey × ProcessEnvelope)
  | .addSamplingState samplingKey message => some (samplingKey, message)
  | _ => none

end Effect

/-- Modelled from the spec: the project cache, with the config it creates projects with, its
projects, the clock, its mailbox of `AddSamplingState` messages, and a ghost log. -/
structure Cache where
  config : Config
  projects : ProjectKey → Option Project
  now : Instant
  mailbox : List (ProjectKey × ProcessEnvelope)
  log : List Effect

namespace Cache

variable (ext : Collaborators)

/-- A cache created at `now`, with no project yet. -/
def init (config : Config) (now : Instant) : Cache := ⟨config, fun _ => none, now, [], []⟩

/-- Modelled from the spec: the project of `key`, created now if the cache has none yet. -/
def project (c : Cache) (key : ProjectKey) : Project :=
  (c.projects key).getD (Project.new key c.config c.now)

/-- Modelled from the spec: the cache hands one call to the project of `key`, keeps the
project it leaves, and puts the `AddSamplingState` messages it sends in its mailbox. -/
def call (c : Cache) (key : ProjectKey) (op : Op) : Cache :=
  let result := (c.project key).handle ext c.now op
  { c with
    projects := fun other => if other = key then some result.1 else c.projects other
    mailbox := c.mailbox ++ result.2.filterMap Effect.samplingRequest?
    log := c.log ++ result.2 }

/-- Modelled from the spec: the cache handles the first `AddSamplingState` of its mailbox by
`enqueue_sampling` on the project of the sampling key. -/
def deliver (c : Cache) : Cache :=
  match c.mailbox with
  | [] => c
  | (key, message) :: rest => { c with mailbox := rest }.call ext key (.enqueueSampling message)

/-- The clock advances. -/
def tick (c : Cache) (elapsed : Duration) : Cache := { c with now := c.now + elapsed }

/-- The caches a cache created at `start` can reach. -/
inductive Reachable (config : Config) (start : Instant) : Cache → Prop
  | init : Reachable config start (init config start)
  | call {c : Cache} (key : ProjectKey) {op : Op} : op.external → Reachable config start c →
      Reachable config start (c.call ext key op)
  | deliver {c : Cache} : Reachable config start c → Reachable config start (c.deliver ext)
  | tick {c : Cache} (elapsed : Duration) : Reachable config start c →
      Reachable config start (c.tick elapsed)

/-- A key without a project gets a new one, created now with the cache's config. -/
theorem project_of_none {c : Cache} {key : ProjectKey} (missing : c.projects key = none) :
    c.project key = Project.new key c.config c.now := by
  simp [project, missing]

theorem project_of_some {c : Cache} {key : ProjectKey} {p : Project}
    (found : c.projects key = some p) : c.project key = p := by
  simp [project, found]

end Cache

namespace Sample

/-- Collaborators as `collaborators`, except that every envelope samples by the key 1. -/
def samplingCollaborators : Collaborators := { collaborators with samplingKey := fun _ => some 1 }

/-- The state of project 42, of organization 1, with the public key 0. -/
def organizationState : ProjectState :=
  { ProjectState.allowed 0 with
    projectId := some 42
    publicKeys := [⟨0, none⟩]
    organizationId := some 1 }

/-- The state of project 7 of organization `organizationId`, with the public key 1. -/
def samplingState (organizationId : Nat) : ProjectState :=
  { ProjectState.allowed 0 with
    projectId := some 7
    publicKeys := [⟨1, none⟩]
    organizationId := some organizationId }

/-- The project of key 0 queues `eventEnvelope` and validates it when `organizationState`
arrives; the envelope samples by key 1, so it goes to the project of key 1, which queues it
and flushes it when `samplingState organizationId` arrives. -/
def samplingCache (organizationId : Nat) : Cache :=
  let queued := (Cache.init config 0).call samplingCollaborators 0
    (.enqueueValidation eventEnvelope context)
  let validated := queued.call samplingCollaborators 0 (.updateState organizationState false)
  (validated.deliver samplingCollaborators).call samplingCollaborators 1
    (.updateState (samplingState organizationId) false)

/-- The message the project of key 0 builds for `eventEnvelope` under `organizationState`. -/
def sampledMessage : ProcessEnvelope :=
  ⟨eventEnvelope, ⟨scoping, eventEnvelope.items⟩, organizationState, none⟩

theorem samplingCache_reachable (organizationId : Nat) :
    Cache.Reachable samplingCollaborators config 0 (samplingCache organizationId) :=
  .call _ rfl (.deliver (.call _ rfl (.call _ rfl .init)))

end Sample

end Relay
