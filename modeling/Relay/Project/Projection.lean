import Relay.Project.Cache
import Relay.Project.Queues
import Relay.Project.Requests

/-!
# Each project of the cache runs on its own

The project cache hands every call to the project of one key, and a call reads and changes
that project alone.  Seen from one key, a run of the cache is therefore a run of that
project by itself: every project the cache holds is the last project of a run of `System`
for its key, started when the cache created the project, at the cache's clock, and the cache
has logged the messages of that run in the same order.  Every invariant of the runs of one
project thus holds of every project the cache holds.

As a consequence, a project of the cache with envelopes waiting in a pending queue has a
fetch in flight, and the cache's log holds the request for that project's state, under the
project's own key and with the fetch's `no_cache` flag: no envelope waits for a state that
was never asked for.
-/

namespace Relay

namespace Effect

/-- The project key a request to the project cache names. -/
def requestKey? : Effect → Option ProjectKey
  | .requestUpdate projectKey _ => some projectKey
  | _ => none

theorem requestKey?_of_quiet {effect : Effect} (isQuiet : effect.quiet) :
    effect.requestKey? = none := by
  cases effect <;> simp_all [quiet, requestKey?]

/-- A message with a request flag is a request, for some key, with that flag. -/
theorem exists_requestUpdate {effect : Effect} {flag : Bool}
    (flagged : effect.requestFlag? = some flag) :
    ∃ key, effect = .requestUpdate key flag ∧ effect.requestKey? = some key := by
  cases effect <;> simp_all [requestFlag?, requestKey?]

end Effect

/-- Every request to the project cache among `effects` names `key`. -/
def RequestsFor (key : ProjectKey) (effects : List Effect) : Prop :=
  ∀ effect ∈ effects, ∀ other ∈ effect.requestKey?, other = key

@[simp]
theorem requestsFor_append {key : ProjectKey} {first second : List Effect} :
    RequestsFor key (first ++ second) ↔ RequestsFor key first ∧ RequestsFor key second := by
  simp [RequestsFor, or_imp, forall_and]

theorem requestsFor_of_all_quiet {key : ProjectKey} {effects : List Effect}
    (allQuiet : effects.all Effect.quiet) : RequestsFor key effects := fun effect member => by
  simp [Effect.requestKey?_of_quiet (List.all_eq_true.mp allQuiet effect member)]

namespace Project

variable (ext : Collaborators)

theorem fetchState_requestsFor (p : Project) (noCache : Bool) :
    RequestsFor p.projectKey (p.fetchState noCache).2.2 := by
  dsimp only [fetchState]
  split_ifs <;> simp [RequestsFor, Effect.requestKey?]

/-- `get_or_fetch_state` requests only the state of the project's own key. -/
theorem getOrFetchState_requestsFor (p : Project) (noCache : Bool) (now : Instant) :
    RequestsFor p.projectKey (p.getOrFetchState noCache now).2.2 := by
  have throttled := (throttleNoCache_fetchFrame p noCache now).projectKey
  rcases getOrFetchState_cases p noCache now with ⟨_, _, served⟩ | ⟨_, _, served⟩ | served <;>
    rw [served]
  · simp [RequestsFor]
  · exact throttled ▸ fetchState_requestsFor _ false
  · exact throttled ▸ fetchState_requestsFor _ _

theorem getCachedState_requestsFor (p : Project) (noCache : Bool) (now : Instant) :
    RequestsFor p.projectKey (p.getCachedState noCache now).2.2 :=
  (getCachedState_fst p noCache now).2 ▸ getOrFetchState_requestsFor p noCache now

/-- No call changes the project's key. -/
theorem handle_projectKey (p : Project) (now : Instant) (op : Op) :
    (p.handle ext now op).1.projectKey = p.projectKey := by
  cases op with
  | getState sender noCache =>
    rcases getState_shape p sender noCache now with ⟨_, _, served⟩ | ⟨_, _, served⟩ <;>
      simp [handle, served, (getOrFetchState_fetchFrame p noCache now).projectKey]
  | getCachedState noCache => exact (getCachedState_fetchFrame p noCache now).projectKey
  | prefetch noCache => exact (getCachedState_fetchFrame p noCache now).projectKey
  | enqueueValidation envelope context =>
    have frame := getCachedState_fetchFrame p envelope.meta.noCache now
    rcases enqueueValidation_shape ext p envelope context now with
      ⟨state, _, served⟩ | ⟨_, served⟩
    · simp [handle, served, frame.projectKey,
        (flushValidation_sameButRateLimits ext _ envelope context state now).projectKey]
    · simp [handle, served, frame.projectKey]
  | enqueueSampling message =>
    rcases enqueueSampling_shape p message now with ⟨_, served⟩ | ⟨_, served⟩ <;>
      simp [handle, served,
        (getCachedState_fetchFrame p message.envelope.meta.noCache now).projectKey]
  | checkEnvelope envelope context =>
    exact (checkEnvelope_sameButRateLimits ext p envelope context now).projectKey
  | flushBuckets partitionKey buckets =>
    simpa [handle, (flushBuckets_shape ext p partitionKey buckets now).1] using
      (getCachedState_fetchFrame p false now).projectKey
  | mergeRateLimits rateLimits => rfl
  | updateState state noCache =>
    cases taken : p.consumes noCache
    · simp [handle, updateState_of_not_consumes ext taken]
    · unfold consumes at taken
      split at taken
      · rename_i channel opened
        rw [handle, updateState_of_consumes ext opened (by simpa only [Bool.not_eq_true'] using taken)]
        have validated := flushValidations_sameButRateLimits ext
          ({ p with stateChannel := none }.publish state now).2 now
          ({ p with stateChannel := none }.publish state now).1.pendingValidations
          { ({ p with stateChannel := none }.publish state now).1 with pendingValidations := [] }
        dsimp only
        rw [validated.projectKey, publish_fst]
      · cases taken

/-- Every request a call sends names the project's own key. -/
theorem handle_requestsFor (p : Project) (now : Instant) (op : Op) :
    RequestsFor p.projectKey (p.handle ext now op).2 := by
  cases op with
  | getState sender noCache =>
    rcases getState_shape p sender noCache now with ⟨_, _, served⟩ | ⟨_, _, served⟩ <;>
      rw [handle, served]
    · exact requestsFor_append.mpr ⟨getOrFetchState_requestsFor p noCache now,
        by simp [RequestsFor, Effect.requestKey?]⟩
    · exact getOrFetchState_requestsFor p noCache now
  | getCachedState noCache => exact getCachedState_requestsFor p noCache now
  | prefetch noCache => exact getCachedState_requestsFor p noCache now
  | enqueueValidation envelope context =>
    rcases enqueueValidation_shape ext p envelope context now with
      ⟨state, _, served⟩ | ⟨_, served⟩ <;> rw [handle, served]
    · exact requestsFor_append.mpr ⟨getCachedState_requestsFor p _ now,
        requestsFor_of_all_quiet (flushValidation_quiet ext ..)⟩
    · exact getCachedState_requestsFor p _ now
  | enqueueSampling message =>
    rcases enqueueSampling_shape p message now with ⟨_, served⟩ | ⟨_, served⟩ <;>
      rw [handle, served]
    · exact requestsFor_append.mpr ⟨getCachedState_requestsFor p _ now,
        requestsFor_of_all_quiet (by simp [flushSampling_quiet])⟩
    · exact getCachedState_requestsFor p _ now
  | checkEnvelope envelope context => exact requestsFor_of_all_quiet (checkEnvelope_quiet ext ..)
  | flushBuckets partitionKey buckets =>
    obtain ⟨-, tail, effects, quiet⟩ := flushBuckets_shape ext p partitionKey buckets now
    rw [handle, effects]
    exact requestsFor_append.mpr ⟨getCachedState_requestsFor p false now,
      requestsFor_of_all_quiet quiet⟩
  | mergeRateLimits rateLimits => simp [handle, RequestsFor]
  | updateState state noCache =>
    cases taken : p.consumes noCache
    · simp [handle, updateState_of_not_consumes ext taken, RequestsFor]
    · unfold consumes at taken
      split at taken
      · rename_i channel opened
        rw [handle, updateState_of_consumes ext opened (by simpa only [Bool.not_eq_true'] using taken)]
        simp only [requestsFor_append]
        refine ⟨⟨requestsFor_of_all_quiet (flushValidations_quiet ext ..),
          requestsFor_of_all_quiet (flushSamplings_quiet ..)⟩, ?_⟩
        simp [RequestsFor, Effect.requestKey?]
      · cases taken

end Project

namespace System

variable (ext : Collaborators)

/-- A call logs the messages it sends after those of the run so far. -/
theorem step_log_effects (s : System) (op : Op) :
    (s.step ext op).log.map Sent.effect =
      s.log.map Sent.effect ++ (s.project.handle ext s.now op).2 := by
  simp [step, Function.comp_def]

/-- The project keeps the key of the run, and every request the run sent names it. -/
structure OwnKey (key : ProjectKey) (s : System) : Prop where
  projectKey : s.project.projectKey = key
  requests : RequestsFor key (s.log.map Sent.effect)

theorem ownKey_of_reachable {key : ProjectKey} {config : Config} {start : Instant} {s : System}
    (reachable : Reachable ext key config start s) : s.OwnKey key := by
  induction reachable with
  | init => exact ⟨rfl, by simp [init, RequestsFor]⟩
  | @step s op _ own =>
    refine ⟨(Project.handle_projectKey ext s.project s.now op).trans own.projectKey, ?_⟩
    rw [step_log_effects]
    exact requestsFor_append.mpr
      ⟨own.requests, own.projectKey ▸ Project.handle_requestsFor ext s.project s.now op⟩
  | tick _ _ own => exact ⟨own.projectKey, own.requests⟩

/-- While envelopes wait in a pending queue, a fetch is in flight, and the run has sent the
request for the state of its key with the fetch's `no_cache` flag. -/
theorem requested_of_waiting {key : ProjectKey} {config : Config} {start : Instant} {s : System}
    (reachable : Reachable ext key config start s)
    (waiting : s.project.pendingValidations ≠ [] ∨ s.project.pendingSampling ≠ []) :
    ∃ channel, s.project.stateChannel = some channel ∧
      Effect.requestUpdate key channel.noCache ∈ s.log.map Sent.effect := by
  obtain ⟨channel, opened⟩ :=
    Option.isSome_iff_exists.mp ((queuesAccounted_of_reachable ext reachable).1 waiting)
  have flagged : channel.noCache ∈ s.requestsOn s.channels := by
    rcases (requestsDebounced_of_reachable ext reachable).current channel.noCache
        (by simp [Project.channelFlag, opened]) with single | ⟨upgraded, pair⟩
    · simp [single]
    · simp [pair, upgraded]
  obtain ⟨sent, logged, request⟩ := List.mem_filterMap.mp flagged
  have member := List.mem_map_of_mem Sent.effect (List.mem_filter.mp logged).1
  obtain ⟨other, request, named⟩ := Effect.exists_requestUpdate request
  have own := (ownKey_of_reachable ext reachable).requests _ member other named
  exact ⟨channel, opened, own ▸ request ▸ member⟩

end System

namespace Cache

variable (ext : Collaborators)

/-- The cache's config never changes. -/
theorem config_of_reachable {config : Config} {start : Instant} {c : Cache}
    (reachable : c.Reachable ext config start) : c.config = config := by
  induction reachable with
  | init => rfl
  | call _ _ _ same => exact same
  | deliver _ same =>
    unfold deliver
    split <;> exact same
  | tick _ _ same => exact same

/-- `s` is the run of one project that the cache's project of `key` ends: a run for that key
from the cache's config, ending in the project the cache holds, at the cache's clock, whose
messages the cache has logged in the same order. -/
structure RunOf (c : Cache) (key : ProjectKey) (s : System) : Prop where
  reachable : ∃ created, System.Reachable ext key c.config created s
  project : c.projects key = some s.project
  now : s.now = c.now
  log : (s.log.map Sent.effect).Sublist c.log

/-- Every project the cache holds ends a run of its own. -/
def Projected (c : Cache) : Prop := ∀ key p, c.projects key = some p → ∃ s, c.RunOf ext key s

theorem projected_init (config : Config) (now : Instant) : (init config now).Projected ext := by
  intro key p found
  cases found

/-- The call extends the run of the project it is handed, a new one if the cache creates
the project. -/
theorem runOf_call {c : Cache} {key : ProjectKey} {s : System}
    (reachable : ∃ created, System.Reachable ext key c.config created s)
    (project : s.project = c.project key) (now : s.now = c.now)
    (log : (s.log.map Sent.effect).Sublist c.log) (op : Op) :
    (c.call ext key op).RunOf ext key (s.step ext op) := by
  obtain ⟨created, reached⟩ := reachable
  refine ⟨⟨created, .step op reached⟩, ?_, now, ?_⟩
  · simp [call, System.step, project, now]
  · rw [System.step_log_effects, project, now]
    exact log.append (List.Sublist.refl _)

namespace RunOf

variable {ext} {c : Cache} {key : ProjectKey} {s : System} (run : c.RunOf ext key s)
include run

/-- A call on another key leaves the run as it is and logs after it. -/
theorem call_other {other : ProjectKey} (distinct : key ≠ other) (op : Op) :
    (c.call ext other op).RunOf ext key s :=
  ⟨run.reachable, by simp [call, distinct, run.project], run.now,
    run.log.trans (List.sublist_append_left _ _)⟩

theorem mailbox (rest : List (ProjectKey × ProcessEnvelope)) :
    ({ c with mailbox := rest } : Cache).RunOf ext key s :=
  ⟨run.reachable, run.project, run.now, run.log⟩

theorem tick (elapsed : Duration) : (c.tick elapsed).RunOf ext key (s.tick elapsed) :=
  let ⟨created, reached⟩ := run.reachable
  ⟨⟨created, .tick elapsed reached⟩, run.project, by simp [Cache.tick, System.tick, run.now], run.log⟩

end RunOf

theorem Projected.call {c : Cache} (projected : c.Projected ext) (key : ProjectKey) (op : Op) :
    (c.call ext key op).Projected ext := by
  intro other p found
  by_cases same : other = key
  case neg =>
    obtain ⟨s, run⟩ := projected other p (by simpa [Cache.call, same] using found)
    exact ⟨s, run.call_other same op⟩
  subst same
  cases held : c.projects other with
  | none =>
    exact ⟨_, runOf_call ext ⟨c.now, .init⟩ (project_of_none held).symm rfl (by simp [System.init])
      op⟩
  | some q =>
    obtain ⟨s, run⟩ := projected other q held
    exact ⟨_, runOf_call ext run.reachable (project_of_some run.project).symm run.now run.log op⟩

theorem Projected.deliver {c : Cache} (projected : c.Projected ext) :
    (c.deliver ext).Projected ext := by
  unfold Cache.deliver
  split
  · exact projected
  · rename_i key message rest _
    refine Projected.call ext (c := { c with mailbox := rest }) (fun other p found => ?_) key _
    obtain ⟨s, run⟩ := projected other p found
    exact ⟨s, run.mailbox rest⟩

theorem Projected.tick {c : Cache} (projected : c.Projected ext) (elapsed : Duration) :
    (c.tick elapsed).Projected ext := fun key p found =>
  let ⟨s, run⟩ := projected key p found
  ⟨s.tick elapsed, run.tick elapsed⟩

theorem projected_of_reachable {config : Config} {start : Instant} {c : Cache}
    (reachable : c.Reachable ext config start) : c.Projected ext := by
  induction reachable with
  | init => exact projected_init ext config start
  | call key _ _ projected => exact projected.call ext key _
  | deliver _ projected => exact projected.deliver ext
  | tick elapsed _ projected => exact projected.tick ext elapsed

end Cache

/-- One event of a run of the project cache: a call handed to the project of a key, the
delivery of the first message of the mailbox, or an advance of the clock. -/
inductive CacheEvent
  | call (key : ProjectKey) (op : Op)
  | deliver
  | tick (elapsed : Duration)

namespace Cache

variable (ext : Collaborators)

/-- The cache after one event. -/
def apply (c : Cache) : CacheEvent → Cache
  | .call key op => c.call ext key op
  | .deliver => c.deliver ext
  | .tick elapsed => c.tick elapsed

/-- The cache after a run of events. -/
def run (c : Cache) : List CacheEvent → Cache
  | [] => c
  | event :: rest => (c.apply ext event).run rest

/-- The key and the call an event hands to a project, if any. -/
def handed (c : Cache) : CacheEvent → Option (ProjectKey × Op)
  | .call key op => some (key, op)
  | .deliver => c.mailbox.head?.map fun entry => (entry.1, .enqueueSampling entry.2)
  | .tick _ => none

/-- One event of the run of the project of `key` alone: the project is created by
`Project::new` when the cache first hands it a call, is given each call the cache hands to
`key`, and its clock advances with the cache's. -/
def soloStep (key : ProjectKey) (c : Cache) (s : Option System) : CacheEvent → Option System
  | .tick elapsed => s.map (·.tick elapsed)
  | event => match c.handed event with
    | some (other, op) =>
      if other = key then some ((s.getD (System.init key c.config c.now)).step ext op) else s
    | none => s

/-- The run of the project of `key` alone, along a run of the cache. -/
def soloRun (key : ProjectKey) (c : Cache) (s : Option System) : List CacheEvent → Option System
  | [] => s
  | event :: rest => soloRun key (c.apply ext event) (soloStep ext key c s event) rest

/-- The project of `key` is the last project of its run alone: none before the cache creates
it, and afterwards a run of its own that the cache holds and has logged. -/
def Solo (key : ProjectKey) (c : Cache) : Option System → Prop
  | none => c.projects key = none
  | some s => c.RunOf ext key s

theorem apply_config (c : Cache) (event : CacheEvent) : (c.apply ext event).config = c.config := by
  cases event with
  | deliver =>
    simp only [apply, deliver]
    split <;> rfl
  | _ => rfl

theorem run_config (c : Cache) (events : List CacheEvent) : (c.run ext events).config = c.config := by
  induction events generalizing c with
  | nil => rfl
  | cons event rest ih => exact (ih _).trans (apply_config ext c event)

variable {ext}

theorem solo_call {key : ProjectKey} {c : Cache} {s : Option System} (solo : Solo ext key c s)
    (other : ProjectKey) (op : Op) :
    Solo ext key (c.call ext other op)
      (if other = key then some ((s.getD (System.init key c.config c.now)).step ext op) else s) := by
  by_cases same : other = key
  case neg =>
    rw [if_neg same]
    cases s with
    | none => simpa [Solo, call, Ne.symm same] using solo
    | some s => exact RunOf.call_other solo (Ne.symm same) op
  subst same
  rw [if_pos rfl]
  cases s with
  | none =>
    exact runOf_call ext ⟨c.now, .init⟩ (project_of_none solo).symm rfl (by simp [System.init]) op
  | some s =>
    exact runOf_call ext solo.reachable (project_of_some solo.project).symm solo.now solo.log op

theorem solo_apply {key : ProjectKey} {c : Cache} {s : Option System} (solo : Solo ext key c s)
    (event : CacheEvent) : Solo ext key (c.apply ext event) (soloStep ext key c s event) := by
  cases event with
  | call other op => exact solo_call solo other op
  | deliver =>
    simp only [apply, deliver, soloStep, handed]
    split
    · rename_i empty
      simpa [empty] using solo
    · rename_i key' message rest listed
      simp only [listed, List.head?_cons, Option.map_some']
      have kept : Solo ext key ({ c with mailbox := rest } : Cache) s := by
        cases s with
        | none => exact solo
        | some s => exact RunOf.mailbox solo rest
      exact solo_call kept key' _
  | tick elapsed =>
    cases s with
    | none => exact solo
    | some s => exact RunOf.tick solo elapsed

theorem solo_run {key : ProjectKey} {c : Cache} {s : Option System} (solo : Solo ext key c s)
    (events : List CacheEvent) : Solo ext key (c.run ext events) (soloRun ext key c s events) := by
  induction events generalizing c s with
  | nil => exact solo
  | cons event rest ih => exact ih (solo_apply solo event)

end Cache

/-- Over every run of the cache, the project it holds for a key is the last project of that
project's run alone, given exactly the calls handed to the key; that run is reachable, at the
cache's clock, and the cache has logged its messages in order. -/
theorem cached_project_runs_alone (ext : Collaborators) (config : Config) (start : Instant)
    (events : List CacheEvent) (key : ProjectKey) :
    let c := (Cache.init config start).run ext events
    let solo := Cache.soloRun ext key (Cache.init config start) none events
    c.projects key = solo.map (·.project) ∧
      ∀ s ∈ solo, (∃ created, System.Reachable ext key config created s) ∧ s.now = c.now ∧
        (s.log.map Sent.effect).Sublist c.log := by
  dsimp only
  have run := @Cache.solo_run ext key (Cache.init config start) none rfl events
  have sameConfig : ((Cache.init config start).run ext events).config = config :=
    Cache.run_config ext _ events
  generalize Cache.soloRun ext key (Cache.init config start) none events = solo at run ⊢
  generalize (Cache.init config start).run ext events = c at run sameConfig ⊢
  cases solo with
  | none => exact ⟨run, by simp⟩
  | some s =>
    obtain ⟨created, reached⟩ := run.reachable
    refine ⟨run.project, fun t member => ?_⟩
    obtain rfl := Option.mem_some_iff.mp member
    exact ⟨⟨created, sameConfig ▸ reached⟩, run.now, run.log⟩

/-- The run of the sampling example, as events of the cache. -/
def Sample.samplingEvents : List CacheEvent :=
  [.call 0 (.enqueueValidation Sample.eventEnvelope Sample.context),
    .call 0 (.updateState Sample.organizationState false), .deliver,
    .call 1 (.updateState (Sample.samplingState 1) false)]

/-- The project of key 1 in the sampling example is created by the delivery of the sampled
message and then answered: it runs these two calls alone. -/
theorem sampling_project_runs_alone :
    let solo := Cache.soloRun Sample.samplingCollaborators 1 (Cache.init Sample.config 0) none
      Sample.samplingEvents
    solo = some (((System.init 1 Sample.config 0).step Sample.samplingCollaborators
        (.enqueueSampling Sample.sampledMessage)).step Sample.samplingCollaborators
        (.updateState (Sample.samplingState 1) false)) ∧
      ((Cache.init Sample.config 0).run Sample.samplingCollaborators Sample.samplingEvents).projects 1 =
        solo.map (·.project) :=
  ⟨rfl, (cached_project_runs_alone Sample.samplingCollaborators Sample.config 0
    Sample.samplingEvents 1).1⟩

/-- In every reachable cache, a project with envelopes waiting in either pending queue has a
fetch in flight, and the cache's log holds a request for the state of that project's key
with the `no_cache` flag of the fetch. -/
theorem waiting_project_requested (ext : Collaborators) {config : Config} {start : Instant}
    {c : Cache} (reachable : c.Reachable ext config start) {key : ProjectKey} {p : Project}
    (found : c.projects key = some p)
    (waiting : p.pendingValidations ≠ [] ∨ p.pendingSampling ≠ []) :
    ∃ channel, p.stateChannel = some channel ∧ Effect.requestUpdate key channel.noCache ∈ c.log := by
  obtain ⟨s, ⟨created, reached⟩, project, -, log⟩ :=
    Cache.projected_of_reachable ext reachable key p found
  obtain rfl := Option.some.inj (project.symm.trans found)
  obtain ⟨channel, opened, sent⟩ := System.requested_of_waiting ext reached waiting
  exact ⟨channel, opened, log.subset sent⟩

/-- The cache once the project of key 0 has queued `eventEnvelope`. -/
def Sample.queuedCache : Cache :=
  (Cache.init Sample.config 0).call Sample.samplingCollaborators 0
    (.enqueueValidation Sample.eventEnvelope Sample.context)

theorem Sample.queuedCache_reachable :
    Cache.Reachable Sample.samplingCollaborators Sample.config 0 Sample.queuedCache :=
  .call _ rfl .init

theorem queued_envelope_requested :
    (Sample.queuedCache.project 0).pendingValidations ≠ [] ∧
      ∃ channel, (Sample.queuedCache.project 0).stateChannel = some channel ∧
        Effect.requestUpdate 0 channel.noCache ∈ Sample.queuedCache.log :=
  have waiting : (Sample.queuedCache.project 0).pendingValidations ≠ [] := by decide
  ⟨waiting, waiting_project_requested _ Sample.queuedCache_reachable (by rfl) (.inl waiting)⟩

end Relay
