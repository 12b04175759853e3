import Relay.Project.Requests

/-!
# Requests in flight

The project cache answers each `RequestUpdate` of a project by one `update_state` call with
the request's `no_cache` flag, whenever the upstream fetch completes, so answers arrive in any
order.  A `Network` is a run of the project together with the requests sent and not yet
answered, each stamped with the number of the state channel open when it was sent.

An answer to a `no_cache` request always takes the channel its request was sent for: while a
`no_cache` request is in flight it is the only one, and the open channel is the one it was
sent for and is `no_cache`.  A plain answer need not: when a plain fetch is upgraded and the
`no_cache` answer takes the channel, the plain request stays in flight, and its answer takes
the next channel if that one is plain, serving its senders the answer to a request sent
before the channel was opened.
-/

namespace Relay

/-- A request to the project cache not yet answered: the number of the state channel open
when it was sent, and its `no_cache` flag. -/
structure Request where
  channel : Nat
  noCache : Bool
  deriving DecidableEq

/-- Whether the call is an `update_state`, which only the project cache's answers make. -/
def Op.isUpdate : Op → Bool
  | .updateState .. => true
  | _ => false

/-- A run of the project together with the requests in flight. -/
structure Network where
  system : System
  inFlight : List Request

namespace Network

variable (ext : Collaborators)

/-- A project created at `now`, with nothing in flight. -/
def init (key : ProjectKey) (config : Config) (now : Instant) : Network :=
  ⟨System.init key config now, []⟩

/-- The project cache calls the project; the requests the call sends go in flight, stamped
with the channel open after the call. -/
def call (n : Network) (op : Op) : Network :=
  let system := n.system.step ext op
  ⟨system, n.inFlight ++ ((n.system.project.handle ext n.system.now op).2.filterMap
    Effect.requestFlag?).map (Request.mk system.channels)⟩

@[simp]
theorem call_system (n : Network) (op : Op) : (n.call ext op).system = n.system.step ext op := rfl

/-- The project cache answers `request` with `state`. -/
def respond (n : Network) (request : Request) (state : ProjectState) : Network :=
  ⟨n.system.step ext (.updateState state request.noCache), n.inFlight.erase request⟩

/-- The clock advances. -/
def tick (n : Network) (elapsed : Duration) : Network := ⟨n.system.tick elapsed, n.inFlight⟩

/-- The networks a project created at `start` can reach: the project cache calls it, or
answers a request in flight, or the clock advances. -/
inductive Reachable (key : ProjectKey) (config : Config) (start : Instant) : Network → Prop
  | init : Reachable key config start (init key config start)
  | call {n : Network} (op : Op) : op.isUpdate = false → Reachable key config start n →
      Reachable key config start (n.call ext op)
  | respond {n : Network} (request : Request) (state : ProjectState) : request ∈ n.inFlight →
      Reachable key config start n → Reachable key config start (n.respond ext request state)
  | tick {n : Network} (elapsed : Duration) : Reachable key config start n →
      Reachable key config start (n.tick elapsed)

/-- The `no_cache` requests in flight. -/
def noCacheInFlight (n : Network) : List Request := n.inFlight.filter (·.noCache)

/-- No `no_cache` request is in flight, or exactly one, sent for the open channel, which is
`no_cache`. -/
def NoCacheAnswered (n : Network) : Prop :=
  n.noCacheInFlight = [] ∨
    (n.noCacheInFlight = [⟨n.system.channels, true⟩] ∧ n.system.project.channelFlag = some true)

theorem noCacheInFlight_of_plain {n : Network} (answered : n.NoCacheAnswered)
    (plain : n.system.project.channelFlag ≠ some true) : n.noCacheInFlight = [] := by
  rcases answered with none | ⟨_, upgraded⟩
  · exact none
  · exact absurd upgraded plain

theorem noCacheAnswered_init (key : ProjectKey) (config : Config) (now : Instant) :
    (init key config now).NoCacheAnswered :=
  .inl rfl

theorem noCacheInFlight_call (n : Network) (op : Op) :
    (n.call ext op).noCacheInFlight = n.noCacheInFlight ++
      ((n.system.project.handle ext n.system.now op).2.filterMap Effect.requestFlag? |>.filter id
        |>.map (Request.mk (n.system.step ext op).channels)) := by
  simp [noCacheInFlight, call, List.filter_map, Function.comp_def]
  rfl

theorem noCacheAnswered_call {n : Network} (answered : n.NoCacheAnswered) {op : Op}
    (notUpdate : op.isUpdate = false) : (n.call ext op).NoCacheAnswered := by
  have kept : op.drains n.system.project = false := by
    cases op <;> simp_all [Op.isUpdate, Op.drains]
  have fetch := Project.handle_fetchStep ext n.system.project n.system.now kept
  have flights := noCacheInFlight_call ext n op
  have channels : (n.system.step ext op).channels =
      if n.system.project.stateChannel.isNone &&
        (n.system.project.handle ext n.system.now op).1.stateChannel.isSome
      then n.system.channels + 1 else n.system.channels := rfl
  cases opened : n.system.project.stateChannel with
  | none =>
    have none := noCacheInFlight_of_plain answered (by simp [Project.channelFlag, opened])
    rcases fetch.opened opened with ⟨_, silent⟩ | ⟨noCache, flag, sent⟩
    · exact .inl (by simp [flights, none, silent])
    · cases noCache
      · exact .inl (by simp [flights, none, sent])
      · have fresh : (n.system.step ext op).channels = n.system.channels + 1 := by
          have openedAfter : (n.system.project.handle ext n.system.now op).1.stateChannel.isSome := by
            simpa [Project.channelFlag] using congrArg Option.isSome flag
          simp [channels, opened, openedAfter]
        exact .inr ⟨by simp [flights, none, sent, fresh], flag⟩
  | some channel =>
    have kept : (n.system.step ext op).channels = n.system.channels := by simp [channels, opened]
    rcases fetch.kept channel opened with ⟨flag, silent⟩ | ⟨plain, flag, sent⟩
    · have same : (n.call ext op).system.project.channelFlag = n.system.project.channelFlag :=
        flag.trans (by simp [Project.channelFlag, opened])
      rcases answered with none | ⟨single, upgraded⟩
      · exact .inl (by simp [flights, none, silent])
      · exact .inr ⟨by simp [flights, single, silent, kept], same.trans upgraded⟩
    · have none := noCacheInFlight_of_plain answered (by simp [Project.channelFlag, opened, plain])
      exact .inr ⟨by simp [flights, none, sent, kept], flag⟩

theorem noCacheInFlight_respond (n : Network) (request : Request) (state : ProjectState) :
    (n.respond ext request state).noCacheInFlight = n.noCacheInFlight.erase request :=
  (List.erase_filter _ _).symm

theorem noCacheAnswered_respond {n : Network} (answered : n.NoCacheAnswered) {request : Request}
    (sent : request ∈ n.inFlight) (state : ProjectState) :
    (n.respond ext request state).NoCacheAnswered := by
  have flights := noCacheInFlight_respond ext n request state
  cases taken : n.system.project.consumes request.noCache
  · have same : n.system.project.updateState ext state request.noCache n.system.now =
        (n.system.project, []) := Project.updateState_of_not_consumes ext taken state _
    have project : (n.respond ext request state).system.project = n.system.project := by
      simp [respond, System.step, Project.handle, same]
    have channels : (n.respond ext request state).system.channels = n.system.channels := by
      simp only [respond, System.step, Project.handle, same]
      cases n.system.project.stateChannel <;> rfl
    rcases answered with none | ⟨single, upgraded⟩
    · exact .inl (by rw [flights, none, List.erase_nil])
    · have kept : (n.respond ext request state).noCacheInFlight.Sublist
          [⟨n.system.channels, true⟩] := by
        rw [flights, ← single]
        exact List.erase_sublist _ _
      rcases List.sublist_singleton.mp kept with none | single
      · exact .inl none
      · exact .inr ⟨by rw [single, channels], project ▸ upgraded⟩
  · rw [NoCacheAnswered, flights]
    left
    rcases answered with none | ⟨single, upgraded⟩
    · rw [none, List.erase_nil]
    · obtain ⟨channel, opened, upgradedChannel⟩ : ∃ channel,
          n.system.project.stateChannel = some channel ∧ channel.noCache = true := by
        simpa [Project.channelFlag] using upgraded
      have answersUpgrade : request.noCache = true := by
        simpa [Project.consumes, opened, upgradedChannel] using taken
      have upgradeSent : request ∈ n.noCacheInFlight := List.mem_filter.mpr ⟨sent, answersUpgrade⟩
      rw [single, List.mem_singleton] at upgradeSent
      rw [single, upgradeSent, List.erase_cons_head]

theorem noCacheAnswered_of_reachable {key : ProjectKey} {config : Config} {start : Instant}
    {n : Network} (reachable : Reachable ext key config start n) : n.NoCacheAnswered := by
  induction reachable with
  | init => exact noCacheAnswered_init key config start
  | call op notUpdate _ ih => exact noCacheAnswered_call ext ih notUpdate
  | respond request state sent _ ih => exact noCacheAnswered_respond ext ih sent state
  | tick elapsed _ ih => exact ih

/-- In every run at most one `no_cache` request is in flight, and its answer takes the
channel it was sent for: that channel is still the open one, it is `no_cache`, and an
answer with `no_cache = true` takes it. -/
theorem no_cache_answer_takes_its_channel {key : ProjectKey} {config : Config}
    {start : Instant} {n : Network} (reachable : Reachable ext key config start n) :
    n.noCacheInFlight.length ≤ 1 ∧
      ∀ request ∈ n.inFlight, request.noCache = true →
        request.channel = n.system.channels ∧ n.system.project.channelFlag = some true ∧
          n.system.project.consumes request.noCache := by
  rcases noCacheAnswered_of_reachable ext reachable with none | ⟨single, upgraded⟩
  · refine ⟨by simp [none], fun request sent upgrade => ?_⟩
    have member : request ∈ n.noCacheInFlight := List.mem_filter.mpr ⟨sent, upgrade⟩
    simp [none] at member
  · refine ⟨by simp [single], fun request sent upgrade => ?_⟩
    have member : request ∈ n.noCacheInFlight := List.mem_filter.mpr ⟨sent, upgrade⟩
    rw [single, List.mem_singleton] at member
    obtain ⟨channel, opened, _⟩ : ∃ channel,
        n.system.project.stateChannel = some channel ∧ channel.noCache = true := by
      simpa [Project.channelFlag] using upgraded
    exact ⟨by rw [member], upgraded, by simp [Project.consumes, opened, upgrade]⟩

end Network

namespace Sample

/-- A second after its creation a project fetches its state, then upgrades the fetch to
`no_cache`. -/
def upgradedNetwork : Network :=
  (((Network.init 0 config 0).tick (Duration.fromSecs 1)).call collaborators
    (.prefetch false)).call collaborators (.prefetch true)

theorem upgradedNetwork_reachable : Network.Reachable collaborators 0 config 0 upgradedNetwork :=
  .call _ rfl (.call _ rfl (.tick _ .init))

/-- The `no_cache` answer takes the first channel; once the state has expired, `get_state`
opens a second, plain channel and attaches its sender. -/
def reopenedNetwork : Network :=
  ((upgradedNetwork.respond collaborators ⟨1, true⟩ answer).tick (Duration.fromSecs 400)).call
    collaborators (.getState ⟨7⟩ false)

theorem reopenedNetwork_reachable : Network.Reachable collaborators 0 config 0 reopenedNetwork :=
  .call _ rfl (.tick _ (.respond _ _ (by decide) upgradedNetwork_reachable))

end Sample

namespace Network

theorem upgradedNetwork_answer_takes_channel :
    Sample.upgradedNetwork.system.project.consumes true :=
  ((no_cache_answer_takes_its_channel Sample.collaborators Sample.upgradedNetwork_reachable).2
    ⟨1, true⟩ (by decide) rfl).2.2

/-- The plain request sent for the first channel is still in flight while the second channel
is open; its answer takes that channel and serves the sender attached to it. -/
theorem plain_answer_takes_later_channel :
    Reachable Sample.collaborators 0 Sample.config 0 Sample.reopenedNetwork ∧
      (⟨1, false⟩ : Request) ∈ Sample.reopenedNetwork.inFlight ∧
      Sample.reopenedNetwork.system.channels = 2 ∧
      Sample.reopenedNetwork.system.project.consumes false ∧
      (Sample.reopenedNetwork.respond Sample.collaborators ⟨1, false⟩ Sample.answer).system.served =
        [⟨7⟩] :=
  ⟨Sample.reopenedNetwork_reachable, by decide, by decide, by decide, by decide⟩

end Network

end Relay
