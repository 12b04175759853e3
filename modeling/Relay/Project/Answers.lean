import Relay.Project.Network
import Relay.Project.Queues

/-!
# Every open channel has its answer in flight

A project waits for its state through the open state channel, and only an answer the project
cache sends for a request in flight can take it.  While the channel is open, the last request
sent for it is still in flight: a plain answer never leaves a plain channel open, and the only
answer that leaves a channel open is a plain one to a `no_cache` channel, whose own `no_cache`
request stays in flight.  That request's answer takes the channel.  So an envelope waiting in
a pending queue is never stranded: whatever answers came before and in whatever order, some
request in flight will, once answered, take the channel and hand every waiting envelope to
`flush_validation` or `flush_sampling`.
-/

namespace Relay

namespace Network

variable (ext : Collaborators)

/-- Each network step is a step of the project's own run. -/
theorem system_reachable {key : ProjectKey} {config : Config} {start : Instant} {n : Network}
    (reachable : Reachable ext key config start n) :
    System.Reachable ext key config start n.system := by
  induction reachable with
  | init => exact .init
  | call op _ _ ih => exact .step op ih
  | respond request state _ _ ih => exact .step _ ih
  | tick elapsed _ ih => exact .tick elapsed ih

/-- While a channel is open, the request for it, sent while it was open and with its flag,
is in flight. -/
def ChannelRequested (n : Network) : Prop :=
  ∀ channel, n.system.project.stateChannel = some channel →
    ⟨n.system.channels, channel.noCache⟩ ∈ n.inFlight

theorem channelRequested_call {n : Network} (requested : n.ChannelRequested) {op : Op}
    (notUpdate : op.isUpdate = false) : (n.call ext op).ChannelRequested := by
  have kept : op.drains n.system.project = false := by
    cases op <;> simp_all [Op.isUpdate, Op.drains]
  have fetch := Project.handle_fetchStep ext n.system.project n.system.now kept
  have channels : (n.system.step ext op).channels =
      if n.system.project.stateChannel.isNone &&
        (n.system.project.handle ext n.system.now op).1.stateChannel.isSome
      then n.system.channels + 1 else n.system.channels := rfl
  intro channel' opened'
  have flag : (n.system.project.handle ext n.system.now op).1.channelFlag = some channel'.noCache := by
    simp [Project.channelFlag, System.step] at opened' ⊢
    simp [opened']
  simp only [call, call_system, List.mem_append, List.mem_map]
  cases opened : n.system.project.stateChannel with
  | none =>
    rcases fetch.opened opened with ⟨closed, -⟩ | ⟨noCache, flag', sent⟩
    · simp [System.step, closed] at opened'
    · obtain rfl := Option.some.inj (flag.symm.trans flag')
      have openedAfter : (n.system.project.handle ext n.system.now op).1.stateChannel =
          some channel' := opened'
      have fresh : (n.system.step ext op).channels = n.system.channels + 1 := by
        simp [channels, opened, openedAfter]
      exact .inr ⟨channel'.noCache, by simp [sent], by rw [fresh]⟩
  | some channel =>
    have same : (n.system.step ext op).channels = n.system.channels := by simp [channels, opened]
    rcases fetch.kept channel opened with ⟨flag', -⟩ | ⟨-, flag', sent⟩
    · have : channel'.noCache = channel.noCache := Option.some.inj (flag.symm.trans flag')
      exact .inl (by rw [same, this]; exact requested channel opened)
    · have upgraded : channel'.noCache = true := Option.some.inj (flag.symm.trans flag')
      exact .inr ⟨true, by simp [sent], by rw [same, upgraded]⟩

theorem channelRequested_respond {n : Network} (requested : n.ChannelRequested)
    (request : Request) (state : ProjectState) : (n.respond ext request state).ChannelRequested := by
  intro channel' opened'
  cases taken : n.system.project.consumes request.noCache
  case true =>
    have closed := (Project.updateState_drains ext taken state n.system.now).2.2
    simp [respond, System.step, Project.handle, closed] at opened'
  have same : n.system.project.updateState ext state request.noCache n.system.now =
      (n.system.project, []) := Project.updateState_of_not_consumes ext taken state _
  have project : (n.respond ext request state).system.project = n.system.project := by
    simp [respond, System.step, Project.handle, same]
  have channels : (n.respond ext request state).system.channels = n.system.channels := by
    simp only [respond, System.step, Project.handle, same]
    cases n.system.project.stateChannel <;> rfl
  rw [project] at opened'
  have plain : channel'.noCache = true ∧ request.noCache = false := by
    simpa [Project.consumes, opened'] using taken
  rw [channels]
  refine List.mem_erase_of_ne (fun same => ?_) |>.mpr (requested channel' opened')
  rw [← same] at plain
  simp at plain

theorem channelRequested_of_reachable {key : ProjectKey} {config : Config} {start : Instant}
    {n : Network} (reachable : Reachable ext key config start n) : n.ChannelRequested := by
  induction reachable with
  | init => intro channel opened; cases opened
  | call op notUpdate _ ih => exact channelRequested_call ext ih notUpdate
  | respond request state _ _ ih => exact channelRequested_respond ext ih request state
  | tick elapsed _ ih => exact ih

end Network

/-- In every run of a project whose requests the project cache answers in any order, while
envelopes wait in either pending queue a request is in flight whose answer, whatever state
it carries, takes the state channel, calls `flush_validation` once on each waiting envelope
and `flush_sampling` once on each waiting message, and leaves both queues empty. -/
theorem waiting_envelopes_answerable (ext : Collaborators) {key : ProjectKey} {config : Config}
    {start : Instant} {n : Network} (reachable : Network.Reachable ext key config start n)
    (waiting : n.system.project.pendingValidations ≠ [] ∨ n.system.project.pendingSampling ≠ []) :
    ∃ request ∈ n.inFlight, ∀ state,
      (n.respond ext request state).system.project.stateChannel = none ∧
      (n.respond ext request state).system.project.pendingValidations = [] ∧
      (n.respond ext request state).system.project.pendingSampling = [] ∧
      n.system.project.Drains ext n.system.now (.updateState state request.noCache) := by
  obtain ⟨channel, opened⟩ := Option.isSome_iff_exists.mp
    ((System.queuesAccounted_of_reachable ext (Network.system_reachable ext reachable)).1 waiting)
  have taken : n.system.project.consumes channel.noCache := by
    simp [Project.consumes, opened]
  refine ⟨_, Network.channelRequested_of_reachable ext reachable channel opened, fun state => ?_⟩
  obtain ⟨validations, sampling, closed⟩ := Project.updateState_drains ext taken state n.system.now
  exact ⟨closed, validations, sampling, Project.handle_drains ext taken⟩

/-- A project created at instant zero that has just queued `envelope` and requested its state. -/
def Sample.queuedNetwork : Network :=
  (Network.init 0 Sample.config 0).call Sample.collaborators
    (.enqueueValidation Sample.envelope Sample.context)

theorem Sample.queuedNetwork_reachable :
    Network.Reachable Sample.collaborators 0 Sample.config 0 Sample.queuedNetwork :=
  .call _ rfl .init

theorem queued_envelope_answerable :
    Sample.queuedNetwork.system.project.pendingValidations ≠ [] ∧
      ∃ request ∈ Sample.queuedNetwork.inFlight, ∀ state,
        (Sample.queuedNetwork.respond Sample.collaborators request state).system.project.stateChannel =
          none ∧
        (Sample.queuedNetwork.respond Sample.collaborators request state).system.project.pendingValidations =
          [] ∧
        (Sample.queuedNetwork.respond Sample.collaborators request state).system.project.pendingSampling =
          [] ∧
        Sample.queuedNetwork.system.project.Drains Sample.collaborators Sample.queuedNetwork.system.now
          (.updateState state request.noCache) :=
  have waiting : Sample.queuedNetwork.system.project.pendingValidations ≠ [] := by decide
  ⟨waiting, waiting_envelopes_answerable _ Sample.queuedNetwork_reachable (.inl waiting)⟩

end Relay
