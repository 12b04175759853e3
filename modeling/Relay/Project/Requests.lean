import Relay.Project.Senders

/-!
# Requests for the project's state

Every `RequestUpdate` a project sends comes from `fetch_state`, and `fetch_state` sends one
only when it opens the state channel or upgrades a plain fetch in flight to `no_cache`.
Hence while one channel is open at most a plain request and then a `no_cache` request are
sent.  A `no_cache` request is sent only when `get_or_fetch_state` honours `no_cache`,
which it does at most once per second; so `no_cache` requests are a second apart.
-/

namespace Relay

/-- A full second elapsed since \`last\` puts \`now\` a second or more after it. -/
theorem add_second_le_of_elapsed {now last : Instant}
    (elapsed : Duration.fromSecs 1 ≤ now - last) : last + Duration.fromSecs 1 ≤ now := by
  unfold Duration.fromSecs Instant Duration at *
  omega

namespace Project

variable (ext : Collaborators)

/-- The `no_cache` flag of the open channel, if any. -/
def channelFlag (p : Project) : Option Bool := p.stateChannel.map (·.noCache)

/-- What one call that does not take the channel may do to the fetch in flight: open the
channel with one request, upgrade a plain channel with one `no_cache` request, or send
nothing and leave the flag as it is; and move the last honoured `no_cache` instant to
`now`, which it must do when it sends a `no_cache` request. -/
structure FetchStep (p q : Project) (now : Instant) (flags : List Bool) : Prop where
  opened : p.stateChannel = none →
    (q.stateChannel = none ∧ flags = []) ∨ ∃ noCache, q.channelFlag = some noCache ∧ flags = [noCache]
  kept : ∀ channel, p.stateChannel = some channel →
    (q.channelFlag = some channel.noCache ∧ flags = []) ∨
      (channel.noCache = false ∧ q.channelFlag = some true ∧ flags = [true])
  lastNoCache : q.lastNoCache = p.lastNoCache ∨
    (q.lastNoCache = now ∧ Duration.fromSecs 1 ≤ now - p.lastNoCache)
  honoured : true ∈ flags → q.lastNoCache = now ∧ Duration.fromSecs 1 ≤ now - p.lastNoCache

theorem FetchStep.refl (p : Project) (now : Instant) : FetchStep p p now [] where
  opened closed := .inl ⟨closed, rfl⟩
  kept channel opened := .inl ⟨by simp [channelFlag, opened], rfl⟩
  lastNoCache := .inl rfl
  honoured := by simp

/-- A fetch step seen through a later change that keeps the channel flag, the last honoured
instant and the requests. -/
theorem FetchStep.congr {p q q' : Project} {now : Instant} {flags : List Bool}
    (step : FetchStep p q now flags) (flag : q'.channelFlag = q.channelFlag)
    (honouredAt : q'.lastNoCache = q.lastNoCache) : FetchStep p q' now flags where
  opened closed := by
    rcases step.opened closed with ⟨none', rfl⟩ | ⟨noCache, some', rfl⟩
    · left
      refine ⟨?_, rfl⟩
      simpa [channelFlag, none'] using flag
    · exact .inr ⟨noCache, flag.trans some', rfl⟩
  kept channel opened := by rw [flag]; exact step.kept channel opened
  lastNoCache := by rw [honouredAt]; exact step.lastNoCache
  honoured member := by rw [honouredAt]; exact step.honoured member

/-- `fetch_state` after the throttle: `q` is the throttled project, which differs from `p`
at most in the last honoured instant, and honours `no_cache` if it asks for it. -/
theorem fetchState_fetchStep {p q : Project} {now : Instant} {noCache : Bool}
    (sameChannel : q.stateChannel = p.stateChannel)
    (lastNoCache : q.lastNoCache = p.lastNoCache ∨
      (q.lastNoCache = now ∧ Duration.fromSecs 1 ≤ now - p.lastNoCache))
    (honoured : noCache → q.lastNoCache = now ∧ Duration.fromSecs 1 ≤ now - p.lastNoCache) :
    FetchStep p (q.fetchState noCache).1 now
      ((q.fetchState noCache).2.2.filterMap Effect.requestFlag?) := by
  have kept : (q.fetchState noCache).1.lastNoCache = q.lastNoCache := by rw [fetchState_fst]
  cases opened : p.stateChannel with
  | none =>
    rw [fetchState_of_none (sameChannel.trans opened)]
    refine ⟨fun _ => .inr ⟨noCache, rfl, rfl⟩, fun _ none' => by simp [opened] at none', lastNoCache,
      fun member => honoured (by simpa [Effect.requestFlag?] using member)⟩
  | some channel =>
    have opened' := sameChannel.trans opened
    by_cases covered : (channel.noCache || !noCache) = true
    · rw [fetchState_of_covered opened' covered]
      refine ⟨fun none' => by simp [opened] at none', fun other same => ?_, lastNoCache, by simp⟩
      cases opened.symm.trans same
      exact .inl ⟨by simp [channelFlag, opened'], rfl⟩
    · have plain : channel.noCache = false ∧ noCache = true := by
        simpa using covered
      obtain ⟨plain, rfl⟩ := plain
      rw [fetchState_of_upgrade opened' plain]
      refine ⟨fun none' => by simp [opened] at none', fun other same => ?_, lastNoCache,
        fun _ => honoured rfl⟩
      cases opened.symm.trans same
      exact .inr ⟨plain, rfl, rfl⟩

/-- What `get_or_fetch_state` does to the fetch in flight. -/
theorem getOrFetchState_fetchStep (p : Project) (noCache : Bool) (now : Instant) :
    FetchStep p (p.getOrFetchState noCache now).1 now
      ((p.getOrFetchState noCache now).2.2.filterMap Effect.requestFlag?) := by
  have sameChannel : (p.throttleNoCache noCache now).1.stateChannel = p.stateChannel := by
    rw [throttleNoCache_fst]
  have honoured (flag : (p.throttleNoCache noCache now).2) :=
    throttleNoCache_honoured flag
  have lastNoCache : (p.throttleNoCache noCache now).1.lastNoCache = p.lastNoCache ∨
      ((p.throttleNoCache noCache now).1.lastNoCache = now ∧
        Duration.fromSecs 1 ≤ now - p.lastNoCache) := by
    cases flag : (p.throttleNoCache noCache now).2
    · exact .inl (throttleNoCache_lastNoCache flag)
    · exact .inr (honoured flag).symm
  rcases getOrFetchState_cases p noCache now with
    ⟨downgraded, _, served⟩ | ⟨_, _, served⟩ | served <;> rw [served]
  · refine FetchStep.congr (FetchStep.refl p now) ?_ (throttleNoCache_lastNoCache downgraded)
    simp [channelFlag, sameChannel]
  · exact fetchState_fetchStep sameChannel lastNoCache (by simp)
  · exact fetchState_fetchStep sameChannel lastNoCache fun flag => (honoured flag).symm

theorem FetchStep.sameButRateLimits {p q q' : Project} {now : Instant} {flags : List Bool}
    (step : FetchStep p q now flags) (same : q.SameButRateLimits q') : FetchStep p q' now flags :=
  step.congr (by simp only [channelFlag, same.stateChannel]) same.lastNoCache

/-- A fetch step sends at most one request. -/
theorem FetchStep.length_le_one {p q : Project} {now : Instant} {flags : List Bool}
    (step : FetchStep p q now flags) : flags.length ≤ 1 := by
  cases opened : p.stateChannel with
  | none => rcases step.opened opened with ⟨_, rfl⟩ | ⟨_, _, rfl⟩ <;> simp
  | some channel => rcases step.kept channel opened with ⟨_, rfl⟩ | ⟨_, _, rfl⟩ <;> simp

theorem getCachedState_fetchStep (p : Project) (noCache : Bool) (now : Instant) :
    FetchStep p (p.getCachedState noCache now).1 now
      ((p.getCachedState noCache now).2.2.filterMap Effect.requestFlag?) := by
  rw [(getCachedState_fst p noCache now).1, (getCachedState_fst p noCache now).2]
  exact getOrFetchState_fetchStep p noCache now

/-- A call that does not take the channel changes the fetch in flight only through
`get_or_fetch_state`. -/
theorem handle_fetchStep (p : Project) (now : Instant) {op : Op} (kept : op.drains p = false) :
    FetchStep p (p.handle ext now op).1 now
      ((p.handle ext now op).2.filterMap Effect.requestFlag?) := by
  cases op with
  | getState sender noCache =>
    have fetched := getOrFetchState_fetchStep p noCache now
    rcases getState_shape p sender noCache now with ⟨_, _, served⟩ | ⟨channel, scheduled, served⟩
    · simpa [handle, served, Effect.requestFlag?] using fetched
    · rw [handle, served]
      refine fetched.congr ?_ rfl
      simp [channelFlag, getOrFetchState_scheduled scheduled, StateChannel.attach]
  | getCachedState noCache => exact getCachedState_fetchStep p noCache now
  | prefetch noCache => simpa [handle, prefetch] using getCachedState_fetchStep p noCache now
  | enqueueValidation envelope context =>
    have fetched := getCachedState_fetchStep p envelope.meta.noCache now
    rcases enqueueValidation_shape ext p envelope context now with
      ⟨state, _, served⟩ | ⟨_, served⟩ <;> rw [handle, served]
    · simpa using fetched.sameButRateLimits
        (flushValidation_sameButRateLimits ext _ envelope context state now)
    · exact fetched.congr rfl rfl
  | enqueueSampling message =>
    have fetched := getCachedState_fetchStep p message.envelope.meta.noCache now
    rcases enqueueSampling_shape p message now with ⟨_, served⟩ | ⟨_, served⟩ <;>
      rw [handle, served]
    · simpa [Effect.requestFlag?_of_quiet (flushSampling_quiet ..)] using fetched
    · exact fetched.congr rfl rfl
  | checkEnvelope envelope context =>
    simpa [handle, Effect.requestFlags_of_all_quiet (checkEnvelope_quiet ext ..)] using
      (FetchStep.refl p now).sameButRateLimits (checkEnvelope_sameButRateLimits ext p envelope context now)
  | flushBuckets partitionKey buckets =>
    obtain ⟨project, tail, effects, quiet⟩ := flushBuckets_shape ext p partitionKey buckets now
    simpa [handle, project, effects, Effect.requestFlags_of_all_quiet quiet] using
      getCachedState_fetchStep p false now
  | mergeRateLimits rateLimits => exact (FetchStep.refl p now).congr rfl rfl
  | updateState state noCache =>
    simpa [handle, updateState_of_not_consumes ext kept] using FetchStep.refl p now

/-- The call that takes the channel sends no request and leaves the last honoured instant. -/
theorem handle_of_drains {p : Project} (now : Instant) {op : Op} (drained : op.drains p) :
    (p.handle ext now op).1.stateChannel = none ∧
      (p.handle ext now op).1.lastNoCache = p.lastNoCache ∧
      (p.handle ext now op).2.filterMap Effect.requestFlag? = [] := by
  cases op with
  | updateState state noCache =>
    have taken : p.consumes noCache := drained
    refine ⟨(updateState_drains ext taken state now).2.2, ?_⟩
    unfold consumes at taken
    split at taken
    · rename_i channel opened
      rw [handle, updateState_of_consumes ext opened (by simpa only [Bool.not_eq_true'] using taken)]
      have validated := flushValidations_sameButRateLimits ext
        ({ p with stateChannel := none }.publish state now).2 now
        ({ p with stateChannel := none }.publish state now).1.pendingValidations
        { ({ p with stateChannel := none }.publish state now).1 with pendingValidations := [] }
      refine ⟨?_, ?_⟩
      · dsimp only
        rw [validated.lastNoCache, publish_fst]
      · simp only [List.filterMap_append, flushValidations_requestFlags, flushSamplings_requestFlags,
          sendStates_requestFlags, List.append_nil]
    · simp at taken
  | _ => simp [Op.drains] at drained

/-- A fetch step sends a `no_cache` request at most once, and only when it moves the last
honoured instant to `now`. -/
theorem FetchStep.count_true {p q : Project} {now : Instant} {flags : List Bool}
    (step : FetchStep p q now flags) :
    flags.count true = 0 ∨ (flags.count true = 1 ∧ q.lastNoCache = now ∧
      Duration.fromSecs 1 ≤ now - p.lastNoCache) := by
  by_cases sent : true ∈ flags
  · have once : flags.count true ≤ 1 := (List.count_le_length _ _).trans step.length_le_one
    exact .inr ⟨by have := List.count_pos_iff.mpr sent; omega, step.honoured sent⟩
  · exact .inl (List.count_eq_zero.mpr sent)

/-- What one call does to the throttle: it keeps the last honoured instant or moves it to
`now`, a second or more later; and it sends a `no_cache` request only when it moves it,
and then only one. -/
theorem handle_throttled (p : Project) (now : Instant) (op : Op) :
    ((p.handle ext now op).1.lastNoCache = p.lastNoCache ∨
      ((p.handle ext now op).1.lastNoCache = now ∧ Duration.fromSecs 1 ≤ now - p.lastNoCache)) ∧
    (((p.handle ext now op).2.filterMap Effect.requestFlag?).count true = 0 ∨
      (((p.handle ext now op).2.filterMap Effect.requestFlag?).count true = 1 ∧
        (p.handle ext now op).1.lastNoCache = now ∧ Duration.fromSecs 1 ≤ now - p.lastNoCache)) := by
  cases drained : op.drains p
  · have step := handle_fetchStep ext p now drained
    exact ⟨step.lastNoCache, step.count_true⟩
  · obtain ⟨-, kept, silent⟩ := handle_of_drains ext now drained
    exact ⟨.inl kept, .inl (by rw [silent]; rfl)⟩

/-- Within a second of the last honoured `no_cache` request, `get_or_fetch_state` treats a
`no_cache` request as a plain one. -/
theorem getOrFetchState_downgraded {p : Project} {now : Instant}
    (within : now - p.lastNoCache < Duration.fromSecs 1) :
    p.getOrFetchState true now = p.getOrFetchState false now := by
  simp [getOrFetchState, throttleNoCache, within]

end Project

namespace System

variable (ext : Collaborators)

/-- The `no_cache` flags of the requests sent while the `k`-th state channel was open. -/
def requestsOn (s : System) (k : Nat) : List Bool :=
  (s.log.filter (·.channel == k)).filterMap (·.effect.requestFlag?)

/-- The requests of one channel are debounced: at most one plain request, at most one
`no_cache` request, and no plain request after the `no_cache` one. -/
def Debounced (flags : List Bool) : Prop := flags.Sublist [false, true]

instance (flags : List Bool) : Decidable (Debounced flags) :=
  inferInstanceAs (Decidable (flags.Sublist [false, true]))

theorem stamped_filter (effects : List Effect) (time : Instant) (channel k : Nat) :
    (effects.map (Sent.mk time channel)).filter (·.channel == k) =
      if channel = k then effects.map (Sent.mk time channel) else [] := by
  split_ifs with stamped <;> simp [List.filter_map, Function.comp_def, stamped]

/-- A call adds its requests to the channel open after it. -/
theorem requestsOn_step (s : System) (op : Op) (k : Nat) :
    (s.step ext op).requestsOn k = s.requestsOn k ++
      if (s.step ext op).channels = k then
        (s.project.handle ext s.now op).2.filterMap Effect.requestFlag?
      else [] := by
  simp only [requestsOn, step, List.filter_append, List.filterMap_append, stamped_filter]
  split_ifs <;> simp [List.filterMap_map, Function.comp_def]

theorem requestsOn_step_of_nil {s : System} {op : Op}
    (silent : (s.project.handle ext s.now op).2.filterMap Effect.requestFlag? = []) (k : Nat) :
    (s.step ext op).requestsOn k = s.requestsOn k := by
  simp [requestsOn_step, silent]

/-- Per channel, the requests sent so far: none for a channel not yet opened, a debounced
sequence for every channel, and for the open channel one request with its flag, or a plain
request and then the `no_cache` one that upgraded it. -/
structure RequestsDebounced (s : System) : Prop where
  unopened : ∀ k, s.channels < k → s.requestsOn k = []
  debounced : ∀ k, Debounced (s.requestsOn k)
  current : ∀ flag, s.project.channelFlag = some flag →
    s.requestsOn s.channels = [flag] ∨ (flag = true ∧ s.requestsOn s.channels = [false, true])

theorem requestsDebounced_init (key : ProjectKey) (config : Config) (now : Instant) :
    (init key config now).RequestsDebounced where
  unopened _ _ := rfl
  debounced _ := List.nil_sublist _
  current _ opened := by simp [init, Project.new, Project.channelFlag] at opened

/-- A call that sends no request and keeps the channel count keeps the invariant, provided
the open channel afterwards carries a flag the requests so far allow. -/
theorem requestsDebounced_step_of_nil {s : System} (debounced : s.RequestsDebounced) {op : Op}
    (silent : (s.project.handle ext s.now op).2.filterMap Effect.requestFlag? = [])
    (channels : (s.step ext op).channels = s.channels)
    (flag : (s.step ext op).project.channelFlag = none ∨
      (s.step ext op).project.channelFlag = s.project.channelFlag) :
    (s.step ext op).RequestsDebounced := by
  have requests := requestsOn_step_of_nil ext silent
  refine ⟨?_, fun k => requests k ▸ debounced.debounced k, fun noCache opened => ?_⟩
  · intro k later
    rw [requests]
    exact debounced.unopened k (channels ▸ later)
  · rw [channels, requests]
    rcases flag with closed | same
    · simp [closed] at opened
    · exact debounced.current noCache (same ▸ opened)

/-- A call that sends one request on the channel open after it, and opens no channel below
the current one, keeps the invariant, provided that channel's requests so far followed by the
new one are what its flag allows. -/
theorem requestsDebounced_step_of_sent {s : System} (debounced : s.RequestsDebounced) {op : Op}
    {noCache flag : Bool}
    (sent : (s.project.handle ext s.now op).2.filterMap Effect.requestFlag? = [noCache])
    (grown : s.channels ≤ (s.step ext op).channels)
    (opened : (s.step ext op).project.channelFlag = some flag)
    (shape : s.requestsOn (s.step ext op).channels ++ [noCache] = [flag] ∨
      (flag = true ∧ s.requestsOn (s.step ext op).channels ++ [noCache] = [false, true])) :
    (s.step ext op).RequestsDebounced := by
  have requests := requestsOn_step ext s op
  rw [sent] at requests
  refine ⟨fun k later => ?_, fun k => ?_, fun flag' opened' => ?_⟩
  · rw [requests, if_neg (by omega), List.append_nil]
    exact debounced.unopened k (by omega)
  · rw [requests]
    split_ifs with current
    · subst current
      rcases shape with single | ⟨-, upgraded⟩
      · rw [single]
        cases flag <;> decide
      · rw [upgraded]
        decide
    · simpa using debounced.debounced k
  · obtain rfl := Option.some.inj (opened'.symm.trans opened)
    rw [requests, if_pos rfl]
    exact shape

theorem requestsDebounced_step {s : System} (debounced : s.RequestsDebounced) (op : Op) :
    (s.step ext op).RequestsDebounced := by
  have channels : (s.step ext op).channels =
      if s.project.stateChannel.isNone && (s.project.handle ext s.now op).1.stateChannel.isSome
      then s.channels + 1 else s.channels := rfl
  cases drained : op.drains s.project
  case true =>
    obtain ⟨closed, -, silent⟩ := Project.handle_of_drains ext s.now drained
    refine requestsDebounced_step_of_nil ext debounced silent ?_ (.inl ?_)
    · simp [channels, closed]
    · simp [step, Project.channelFlag, closed]
  case false =>
  have fetch := Project.handle_fetchStep ext s.project s.now drained
  cases opened : s.project.stateChannel with
  | none =>
    rcases fetch.opened opened with ⟨closed, silent⟩ | ⟨noCache, flag, sent⟩
    · refine requestsDebounced_step_of_nil ext debounced silent ?_ (.inl ?_)
      · simp [channels, opened, closed]
      · simp [step, Project.channelFlag, closed]
    · have openedAfter : (s.project.handle ext s.now op).1.stateChannel.isSome := by
        simpa [Project.channelFlag] using congrArg Option.isSome flag
      have fresh : (s.step ext op).channels = s.channels + 1 := by
        simp [channels, opened, openedAfter]
      refine requestsDebounced_step_of_sent ext debounced sent (by omega) flag (.inl ?_)
      rw [fresh, debounced.unopened _ (Nat.lt_succ_self _), List.nil_append]
  | some channel =>
    have kept : (s.step ext op).channels = s.channels := by simp [channels, opened]
    rcases fetch.kept channel opened with ⟨flag, silent⟩ | ⟨plain, flag, sent⟩
    · exact requestsDebounced_step_of_nil ext debounced silent kept
        (.inr (flag.trans (by simp [Project.channelFlag, opened])))
    · have single : s.requestsOn s.channels = [false] := by
        rcases debounced.current false (by simp [Project.channelFlag, opened, plain]) with
          single | ⟨absurd, _⟩
        · exact single
        · cases absurd
      exact requestsDebounced_step_of_sent ext debounced sent kept.ge flag
        (.inr ⟨rfl, by rw [kept, single]; rfl⟩)

theorem requestsDebounced_of_reachable {key : ProjectKey} {config : Config} {start : Instant}
    {s : System} (reachable : Reachable ext key config start s) : s.RequestsDebounced := by
  induction reachable with
  | init => exact requestsDebounced_init key config start
  | step op _ ih => exact requestsDebounced_step ext ih op
  | tick elapsed _ ih => exact ⟨ih.unopened, ih.debounced, ih.current⟩

/-- Over every run, the requests sent while one channel is open are at most a plain request
and then a `no_cache` one; once the open channel is `no_cache`, no call sends a request. -/
theorem requests_debounced_per_channel {key : ProjectKey} {config : Config} {start : Instant}
    {s : System} (reachable : Reachable ext key config start s) :
    (∀ k, Debounced (s.requestsOn k)) ∧
      ∀ op channel, s.project.stateChannel = some channel → channel.noCache = true →
        (s.project.handle ext s.now op).2.filterMap Effect.requestFlag? = [] := by
  refine ⟨(requestsDebounced_of_reachable ext reachable).debounced, fun op channel opened upgraded => ?_⟩
  cases drained : op.drains s.project
  · rcases (Project.handle_fetchStep ext s.project s.now drained).kept channel opened with
      ⟨_, silent⟩ | ⟨plain, _⟩
    · exact silent
    · simp [upgraded] at plain
  · exact (Project.handle_of_drains ext s.now drained).2.2

/-- A second after its creation a project fetches its state and upgrades the fetch to
`no_cache`: its channel carries a plain and then a `no_cache` request, and asking again with
`no_cache` sends nothing. -/
theorem upgradedSystem_debounced :
    let upgraded := (((init 0 Sample.config 0).tick (Duration.fromSecs 1)).step Sample.collaborators
      (.prefetch false)).step Sample.collaborators (.prefetch true)
    upgraded.requestsOn 1 = [false, true] ∧ Debounced (upgraded.requestsOn 1) ∧
      (upgraded.project.handle Sample.collaborators upgraded.now (.prefetch true)).2.filterMap
        Effect.requestFlag? = [] := by
  intro upgraded
  have law := requests_debounced_per_channel Sample.collaborators
    (.step _ (.step _ (.tick _ .init)) : Reachable Sample.collaborators 0 Sample.config 0 upgraded)
  exact ⟨by decide, law.1 1, law.2 _ ⟨[], true⟩ (by decide) rfl⟩

/-- The instants of the `no_cache` requests sent so far, in order. -/
def noCacheTimes (s : System) : List Instant :=
  s.log.filterMap fun sent => if sent.effect.requestFlag? = some true then some sent.time else none

theorem stamped_noCacheTimes (effects : List Effect) (time : Instant) (channel : Nat) :
    (effects.map (Sent.mk time channel)).filterMap
        (fun sent => if sent.effect.requestFlag? = some true then some sent.time else none) =
      List.replicate ((effects.filterMap Effect.requestFlag?).count true) time := by
  induction effects with
  | nil => rfl
  | cons effect rest ih =>
    cases flag : effect.requestFlag? with
    | none => simp [flag, ih]
    | some noCache => cases noCache <;> simp [flag, ih, List.replicate_succ]

theorem noCacheTimes_step (s : System) (op : Op) :
    (s.step ext op).noCacheTimes = s.noCacheTimes ++ List.replicate
      (((s.project.handle ext s.now op).2.filterMap Effect.requestFlag?).count true) s.now := by
  simp only [noCacheTimes, step, List.filterMap_append, stamped_noCacheTimes]

/-- The throttle invariant: the last honoured instant is no earlier than the project's
creation and no earlier than any `no_cache` request sent, and the `no_cache` requests sent
are each a second or more after the creation and after each other. -/
structure NoCacheSpaced (start : Instant) (s : System) : Prop where
  afterStart : start ≤ s.project.lastNoCache
  sentBefore : ∀ t ∈ s.noCacheTimes, t ≤ s.project.lastNoCache
  late : ∀ t ∈ s.noCacheTimes, start + Duration.fromSecs 1 ≤ t
  spaced : s.noCacheTimes.Pairwise fun earlier later => earlier + Duration.fromSecs 1 ≤ later

theorem noCacheSpaced_init (key : ProjectKey) (config : Config) (start : Instant) :
    (init key config start).NoCacheSpaced start where
  afterStart := le_refl start
  sentBefore _ none := by simp [init, noCacheTimes] at none
  late _ none := by simp [init, noCacheTimes] at none
  spaced := List.Pairwise.nil

theorem noCacheSpaced_step {start : Instant} {s : System} (spaced : s.NoCacheSpaced start)
    (op : Op) : (s.step ext op).NoCacheSpaced start := by
  obtain ⟨moved, sent⟩ := Project.handle_throttled ext s.project s.now op
  have times := noCacheTimes_step ext s op
  rcases sent with none | ⟨one, recorded, elapsed⟩
  · rw [none, List.replicate_zero, List.append_nil] at times
    have later : s.project.lastNoCache ≤ (s.step ext op).project.lastNoCache := by
      rcases moved with same | ⟨moved, elapsed⟩
      · exact le_of_eq same.symm
      · change _ ≤ (s.project.handle ext s.now op).1.lastNoCache
        rw [moved]
        exact le_trans (Nat.le_add_right _ _) (add_second_le_of_elapsed elapsed)
    exact ⟨spaced.afterStart.trans later, fun t sent => (spaced.sentBefore t (times ▸ sent)).trans later,
      fun t sent => spaced.late t (times ▸ sent), times ▸ spaced.spaced⟩
  · rw [one, List.replicate_one] at times
    have recorded : (s.step ext op).project.lastNoCache = s.now := recorded
    have after := add_second_le_of_elapsed elapsed
    have old (t : Instant) (sent : t ∈ s.noCacheTimes) : t + Duration.fromSecs 1 ≤ s.now :=
      le_trans (Nat.add_le_add_right (spaced.sentBefore t sent) _) after
    refine ⟨?_, fun t sent => ?_, fun t sent => ?_, ?_⟩
    · rw [recorded]
      exact spaced.afterStart.trans (le_trans (Nat.le_add_right _ _) after)
    · rw [recorded]
      rw [times] at sent
      rcases List.mem_append.mp sent with sent | now
      · exact le_trans (Nat.le_add_right _ _) (old t sent)
      · exact le_of_eq (List.mem_singleton.mp now)
    · rw [times] at sent
      rcases List.mem_append.mp sent with sent | now
      · exact spaced.late t sent
      · rw [List.mem_singleton.mp now]
        exact le_trans (Nat.add_le_add_right spaced.afterStart _) after
    · rw [times]
      exact List.pairwise_append.mpr ⟨spaced.spaced, List.pairwise_singleton _ _,
        fun t sent _ now => by rw [List.mem_singleton.mp now]; exact old t sent⟩

theorem noCacheSpaced_of_reachable {key : ProjectKey} {config : Config} {start : Instant}
    {s : System} (reachable : Reachable ext key config start s) : s.NoCacheSpaced start := by
  induction reachable with
  | init => exact noCacheSpaced_init key config start
  | step op _ ih => exact noCacheSpaced_step ext ih op
  | tick elapsed _ ih => exact ⟨ih.afterStart, ih.sentBefore, ih.late, ih.spaced⟩

/-- The `no_cache` requests of a run are a second or more apart and after the creation; a call
sends one only a second after the last honoured one, and records it; within that second a
`no_cache` request is served as a plain one. -/
theorem no_cache_requests_spaced {key : ProjectKey} {config : Config} {start : Instant}
    {s : System} (reachable : Reachable ext key config start s) :
    s.noCacheTimes.Pairwise (fun earlier later => earlier + Duration.fromSecs 1 ≤ later) ∧
      (∀ t ∈ s.noCacheTimes, start + Duration.fromSecs 1 ≤ t) ∧
      (∀ op, true ∈ (s.project.handle ext s.now op).2.filterMap Effect.requestFlag? →
        Duration.fromSecs 1 ≤ s.now - s.project.lastNoCache ∧
          (s.project.handle ext s.now op).1.lastNoCache = s.now) ∧
      ∀ now, now - s.project.lastNoCache < Duration.fromSecs 1 →
        s.project.getOrFetchState true now = s.project.getOrFetchState false now := by
  have spaced := noCacheSpaced_of_reachable ext reachable
  refine ⟨spaced.spaced, spaced.late, fun op sent => ?_, fun _ => Project.getOrFetchState_downgraded⟩
  rcases (Project.handle_throttled ext s.project s.now op).2 with none | ⟨_, recorded, elapsed⟩
  · exact absurd (List.count_pos_iff.mpr sent) (by omega)
  · exact ⟨elapsed, recorded⟩

/-- A project asks for its state with `no_cache` a second after its creation, takes the
answer, and asks again with `no_cache` a second later: both requests are sent, a second
apart. -/
theorem answeredSystem_spaced :
    let first := ((init 0 Sample.config 0).tick (Duration.fromSecs 1)).step Sample.collaborators
      (.prefetch true)
    let again := ((first.step Sample.collaborators (.updateState Sample.answer true)).tick
      (Duration.fromSecs 1)).step Sample.collaborators (.prefetch true)
    again.noCacheTimes = [Duration.fromSecs 1, Duration.fromSecs 2] ∧
      again.noCacheTimes.Pairwise (fun earlier later => earlier + Duration.fromSecs 1 ≤ later) := by
  intro first again
  have reachable : Reachable Sample.collaborators 0 Sample.config 0 again :=
    .step _ (.tick _ (.step _ (.step _ (.tick _ .init))))
  exact ⟨by decide, (no_cache_requests_spaced Sample.collaborators reachable).1⟩

end System

end Relay
