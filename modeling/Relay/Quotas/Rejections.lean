import Relay.Quotas.Redis

/-!
# What the limiter reports

`is_rate_limited` adds a rate limit for each matching quota of limit zero and, once it has
invoked the script, one for each tracked quota the script rejected; `RateLimits::add` merges a
limit into an equivalent one only by keeping one of the two.  So every rate limit it returns
is the limit of one of these quotas, with that quota's categories, scope and reason code, and
never one of a quota that does not apply to the item.  Every such limit is still active when
it is returned, given a positive `REJECT_ALL_SECS` and a `max_limit` other than zero, because a
tracked quota's expiry lies after the timestamp.  Hence the result limits the item exactly
when a matching quota has limit zero or the script rejected a tracked quota: no rejection is
lost and none is invented.  With a `max_limit` of zero every zero-sized quota retries at once,
so it no longer keeps the script from being invoked.
-/

namespace Relay

namespace RateLimits

/-- `add` keeps the limits it had, or puts the new one in place of one. -/
theorem mem_add {rateLimits : RateLimits} {limit existing : RateLimit}
    (member : existing ∈ (rateLimits.add limit).limits) :
    existing ∈ rateLimits.limits ∨ existing = limit := by
  unfold add at member
  split at member
  · obtain ⟨old, kept, replaced⟩ := List.mem_map.mp member
    split_ifs at replaced
    · exact .inr replaced.symm
    · exact .inl (replaced ▸ kept)
  · simpa using member

theorem mem_addAll {rateLimits : RateLimits} {limits : List RateLimit} {existing : RateLimit}
    (member : existing ∈ (rateLimits.addAll limits).limits) :
    existing ∈ rateLimits.limits ∨ existing ∈ limits := by
  induction limits generalizing rateLimits with
  | nil => exact .inl member
  | cons limit limits ih =>
    rcases ih member with earlier | later
    · rcases mem_add earlier with old | rfl
      · exact .inl old
      · exact .inr (List.mem_cons_self _ _)
    · exact .inr (List.mem_cons_of_mem _ later)

end RateLimits

namespace RedisQuota

/-- A tracked quota keeps the quota and the timestamp it was made from. -/
theorem new_fields {quota : Quota} {scoping : ItemScoping} {timestamp : Nat}
    {tracked : RedisQuota} (made : RedisQuota.new quota scoping timestamp = some tracked) :
    tracked.quota = quota ∧ tracked.timestamp = timestamp := by
  unfold RedisQuota.new at made
  split at made
  · cases made
    exact ⟨rfl, rfl⟩
  · cases made

/-- With a positive window the expiry lies after the timestamp, shifted or not. -/
theorem timestamp_lt_expiry {quota : RedisQuota} (positive : 0 < quota.window) :
    quota.timestamp < quota.expiry := by
  have bound := Nat.lt_mul_div_succ (quota.timestamp - quota.shift) positive
  rw [Nat.mul_comm] at bound
  unfold expiry slot
  omega

end RedisQuota

namespace RedisRateLimiter

variable (env : LimiterEnv) (limiter : RedisRateLimiter) (itemScoping : ItemScoping)
  (quantity : Nat) (overAcceptOnce : Bool) (timestamp : Nat) (clock : Instant)

/-- The matching zero-sized quotas are among the quotas, match and have limit zero. -/
theorem mem_zeroQuotas {quotas : List Quota} {quota : Quota} :
    quota ∈ zeroQuotas env itemScoping quotas ↔
      quota ∈ quotas ∧ env.quotaMatches quota itemScoping = true ∧ quota.limit = some 0 := by
  simp [zeroQuotas]

/-- A tracked quota is made, at the timestamp, from a matching quota of the list. -/
theorem exists_of_mem_trackedQuotas {quotas : List Quota} {tracked : RedisQuota}
    (member : tracked ∈ trackedQuotas env itemScoping timestamp quotas) :
    tracked.quota ∈ quotas ∧ env.quotaMatches tracked.quota itemScoping = true ∧
      tracked.timestamp = timestamp := by
  obtain ⟨quota, kept, made⟩ := List.mem_filterMap.mp member
  obtain ⟨same, stamped⟩ := RedisQuota.new_fields made
  obtain ⟨listed, matched⟩ := List.mem_filter.mp kept
  subst same
  exact ⟨listed, ((Bool.and_eq_true _ _).mp matched).1, stamped⟩

variable {env limiter itemScoping quantity overAcceptOnce timestamp clock}

/-- What a successful `is_rate_limited` returns: no tracked quota faults in `u64`, and the
result is the rate limits of the zero-sized quotas, returned before the script, or these with
the limits of the tracked quotas the script rejected. -/
theorem isRateLimited_ok {quotas : List Quota} {rateLimits : RateLimits}
    (returned : isRateLimited env limiter itemScoping quantity overAcceptOnce timestamp clock quotas =
      some (.ok rateLimits)) :
    let tracked := trackedQuotas env itemScoping timestamp quotas
    let zeroLimits := RateLimits.new.addAll
      ((zeroQuotas env itemScoping quotas).map (zeroLimit env limiter itemScoping clock))
    (∀ quota ∈ tracked, quota.expiryU64.isSome) ∧
      ((tracked = [] ∨ zeroLimits.isLimited clock = true) ∧ rateLimits = zeroLimits ∨
        ∃ rejections, env.invoke ⟨tracked.flatMap scriptKeys,
            tracked.flatMap (scriptArgs quantity overAcceptOnce)⟩ = .ok rejections ∧
          rateLimits = zeroLimits.addAll ((tracked.zip rejections).filterMap fun entry =>
            if entry.2 then some (rejection limiter itemScoping timestamp clock entry.1) else none)) := by
  intro tracked zeroLimits
  simp only [isRateLimited, foldlM_collectQuota] at returned
  split_ifs at returned with panics
  · cases returned
  refine ⟨any_fault_eq_false.mp (eq_false_of_ne_true panics), ?_⟩
  simp only [Option.bind_eq_bind, Option.some_bind, List.nil_append] at returned
  split_ifs at returned with early
  · cases returned
    exact .inl ⟨by simpa [Bool.or_eq_true, List.isEmpty_iff] using early, rfl⟩
  · refine .inr ?_
    split at returned
    · cases returned
    · rename_i rejections answered
      cases returned
      exact ⟨rejections, answered, foldl_rejections limiter itemScoping timestamp clock _ _⟩

/-- Every rate limit `is_rate_limited` returns is the limit of a matching quota of limit zero,
or of a tracked quota that the script, invoked with the keys and arguments of the tracked
quotas, rejected. -/
theorem mem_isRateLimited {quotas : List Quota} {rateLimits : RateLimits}
    (returned : isRateLimited env limiter itemScoping quantity overAcceptOnce timestamp clock quotas =
      some (.ok rateLimits)) {limit : RateLimit} (member : limit ∈ rateLimits.limits) :
    let tracked := trackedQuotas env itemScoping timestamp quotas
    (∃ quota ∈ zeroQuotas env itemScoping quotas, limit = zeroLimit env limiter itemScoping clock quota) ∨
      ∃ rejections, env.invoke ⟨tracked.flatMap scriptKeys,
          tracked.flatMap (scriptArgs quantity overAcceptOnce)⟩ = .ok rejections ∧
        ∃ quota, (quota, true) ∈ tracked.zip rejections ∧
          limit = rejection limiter itemScoping timestamp clock quota := by
  intro tracked
  have zero (inZero : limit ∈ (RateLimits.new.addAll ((zeroQuotas env itemScoping quotas).map
      (zeroLimit env limiter itemScoping clock))).limits) :
      ∃ quota ∈ zeroQuotas env itemScoping quotas, limit = zeroLimit env limiter itemScoping clock quota := by
    rcases RateLimits.mem_addAll inZero with none | added
    · cases none
    · obtain ⟨quota, listed, rfl⟩ := List.mem_map.mp added
      exact ⟨quota, listed, rfl⟩
  rcases (isRateLimited_ok returned).2 with ⟨-, rfl⟩ | ⟨rejections, answered, rfl⟩
  · exact .inl (zero member)
  rcases RateLimits.mem_addAll member with inZero | rejected
  · exact .inl (zero inZero)
  obtain ⟨⟨quota, flag⟩, entry, made⟩ := List.mem_filterMap.mp rejected
  cases flag
  · cases made
  · cases made
    exact .inr ⟨rejections, answered, quota, entry, rfl⟩

end RedisRateLimiter

/-- The limiter of `Sample.limiterEnv`, whose script rejects the first tracked quota. -/
def Sample.rejectingEnv : LimiterEnv := { Sample.limiterEnv with invoke := fun _ => .ok [true] }

/-- One organization quota of ten errors a minute. -/
def Sample.minuteQuotas : List Quota := [Sample.bracedQuotas.get ⟨1, by decide⟩]

/-- Every rate limit a successful `is_rate_limited` returns is that of a quota of the list
that matches the item: it carries the quota's categories and reason code, and the scope of
the quota's kind for the item's scoping. -/
theorem rate_limits_of_matching_quotas (env : LimiterEnv) (limiter : RedisRateLimiter)
    (itemScoping : ItemScoping) (quantity : Nat) (overAcceptOnce : Bool) (timestamp : Nat)
    (clock : Instant) {quotas : List Quota} {rateLimits : RateLimits}
    (returned : limiter.isRateLimited env itemScoping quantity overAcceptOnce timestamp clock quotas =
      some (.ok rateLimits)) :
    ∀ limit ∈ rateLimits.limits, ∃ quota ∈ quotas, env.quotaMatches quota itemScoping = true ∧
      limit.categories = quota.categories ∧
      limit.scope = RateLimitScope.forQuota itemScoping.scoping quota.scope ∧
      limit.reasonCode = quota.reasonCode := by
  intro limit member
  rcases RedisRateLimiter.mem_isRateLimited returned member with
    ⟨quota, zero, rfl⟩ | ⟨_, _, tracked, entry, rfl⟩
  · obtain ⟨listed, matched, -⟩ := (RedisRateLimiter.mem_zeroQuotas env itemScoping).mp zero
    exact ⟨quota, listed, matched, rfl, rfl, rfl⟩
  · obtain ⟨listed, matched, -⟩ :=
      RedisRateLimiter.exists_of_mem_trackedQuotas env itemScoping timestamp (List.of_mem_zip entry).1
    exact ⟨tracked.quota, listed, matched, rfl, rfl, rfl⟩

theorem rejected_quota_matches :
    ∃ rateLimits, RedisRateLimiter.isRateLimited Sample.rejectingEnv ⟨none⟩ Sample.itemScoping 1
        false 1000 0 Sample.minuteQuotas = some (.ok rateLimits) ∧
      ∀ limit ∈ rateLimits.limits, ∃ quota ∈ Sample.minuteQuotas,
        Sample.rejectingEnv.quotaMatches quota Sample.itemScoping = true ∧
        limit.categories = quota.categories ∧
        limit.scope = RateLimitScope.forQuota Sample.itemScoping.scoping quota.scope ∧
        limit.reasonCode = quota.reasonCode :=
  ⟨_, rfl, rate_limits_of_matching_quotas _ ⟨none⟩ _ 1 false 1000 0 rfl⟩

/-- Given a positive `REJECT_ALL_SECS` and a `max_limit` other than zero, the rate limits a
successful `is_rate_limited` returns limit the item at the moment of return exactly when a
matching quota of the list has limit zero or the script, invoked with the keys and arguments
of the tracked quotas, rejected one of them. -/
theorem limited_iff_zero_sized_or_rejected (env : LimiterEnv) (limiter : RedisRateLimiter)
    (itemScoping : ItemScoping) (quantity : Nat) (overAcceptOnce : Bool) (timestamp : Nat)
    (clock : Instant) (rejecting : 0 < env.rejectAllSecs) (uncapped : limiter.maxLimit ≠ some 0)
    {quotas : List Quota} {rateLimits : RateLimits}
    (returned : limiter.isRateLimited env itemScoping quantity overAcceptOnce timestamp clock quotas =
      some (.ok rateLimits)) :
    let tracked := RedisRateLimiter.trackedQuotas env itemScoping timestamp quotas
    rateLimits.isLimited clock = true ↔
      (∃ quota ∈ quotas, env.quotaMatches quota itemScoping = true ∧ quota.limit = some 0) ∨
      ∃ rejections, env.invoke ⟨tracked.flatMap RedisRateLimiter.scriptKeys,
          tracked.flatMap (RedisRateLimiter.scriptArgs quantity overAcceptOnce)⟩ = .ok rejections ∧
        ∃ quota, (quota, true) ∈ tracked.zip rejections := by
  intro tracked
  obtain ⟨windows, shape⟩ := RedisRateLimiter.isRateLimited_ok returned
  constructor
  · intro limited
    obtain ⟨limit, member, -⟩ := RateLimits.isLimited_iff.mp limited
    rcases RedisRateLimiter.mem_isRateLimited returned member with
      ⟨quota, zero, -⟩ | ⟨rejections, answered, quota, entry, -⟩
    · exact .inl ⟨quota, (RedisRateLimiter.mem_zeroQuotas env itemScoping).mp zero⟩
    · exact .inr ⟨rejections, answered, quota, entry⟩
  have zeroLimited : (∃ quota ∈ quotas, env.quotaMatches quota itemScoping = true ∧
      quota.limit = some 0) → (RateLimits.new.addAll ((RedisRateLimiter.zeroQuotas env itemScoping
        quotas).map (RedisRateLimiter.zeroLimit env limiter itemScoping clock))).isLimited clock :=
    fun ⟨quota, sized⟩ => RateLimits.isLimited_addAll ⟨_, List.mem_map_of_mem _
      ((RedisRateLimiter.mem_zeroQuotas env itemScoping).mpr sized),
      limiter.retryAfter_active clock rejecting uncapped⟩
  rintro (sized | ⟨rejections, answered, quota, entry⟩)
  · rcases shape with ⟨-, rfl⟩ | ⟨_, _, rfl⟩
    · exact zeroLimited sized
    · exact RateLimits.isLimited_addAll_of_isLimited (zeroLimited sized) _
  rcases shape with ⟨empty | limited, rfl⟩ | ⟨rejections', answered', rfl⟩
  · simp [tracked, empty] at entry
  · exact limited
  obtain rfl : rejections' = rejections := Except.ok.inj (answered'.symm.trans answered)
  have listed := (List.of_mem_zip entry).1
  obtain ⟨_, computed⟩ := Option.isSome_iff_exists.mp (windows quota listed)
  have expires : timestamp < quota.expiry :=
    (RedisRateLimiter.exists_of_mem_trackedQuotas env itemScoping timestamp listed).2.2 ▸
      RedisQuota.timestamp_lt_expiry (RedisQuota.expiryU64_eq_some_iff.mp computed).1
  exact RateLimits.isLimited_addAll ⟨_, List.mem_filterMap.mpr ⟨_, entry, rfl⟩,
    limiter.retryAfter_active clock (Nat.sub_pos_of_lt expires) uncapped⟩

theorem rejected_quota_limits :
    ∃ rateLimits, RedisRateLimiter.isRateLimited Sample.rejectingEnv ⟨none⟩ Sample.itemScoping 1
        false 1000 0 Sample.minuteQuotas = some (.ok rateLimits) ∧
      rateLimits.isLimited 0 = true :=
  ⟨_, rfl, (@limited_iff_zero_sized_or_rejected Sample.rejectingEnv ⟨none⟩ Sample.itemScoping 1
    false 1000 0 (by decide) (by decide) Sample.minuteQuotas _ rfl).mpr
    (.inr ⟨[true], rfl, _, List.mem_singleton_self _⟩)⟩

namespace RedisRateLimiter

/-- With `max_limit = Some(0)` the rate limits of the zero-sized quotas retry at the current
instant and do not limit the item, so whenever a quota is tracked and none faults,
`is_rate_limited` invokes the script with the tracked quotas' keys and arguments, beside any
matching quota of limit zero, and returns what follows from its answer. -/
theorem zero_max_limit_invokes_script (env : LimiterEnv) (limiter : RedisRateLimiter)
    (itemScoping : ItemScoping) (quantity : Nat) (overAcceptOnce : Bool) (timestamp : Nat)
    (clock : Instant) (quotas : List Quota) (capped : limiter.maxLimit = some 0)
    (tracking : trackedQuotas env itemScoping timestamp quotas ≠ [])
    (sound : ∀ quota ∈ trackedQuotas env itemScoping timestamp quotas, quota.expiryU64.isSome) :
    let tracked := trackedQuotas env itemScoping timestamp quotas
    let zeroLimits := RateLimits.new.addAll
      ((zeroQuotas env itemScoping quotas).map (zeroLimit env limiter itemScoping clock))
    zeroLimits.isLimited clock = false ∧
      isRateLimited env limiter itemScoping quantity overAcceptOnce timestamp clock quotas =
        some (match env.invoke ⟨tracked.flatMap scriptKeys,
            tracked.flatMap (scriptArgs quantity overAcceptOnce)⟩ with
          | .error error => .error (.redis error)
          | .ok rejections => .ok (zeroLimits.addAll ((tracked.zip rejections).filterMap
              fun entry => if entry.2 then
                some (rejection limiter itemScoping timestamp clock entry.1) else none))) := by
  intro tracked zeroLimits
  have inactive : zeroLimits.isLimited clock = false := by
    refine Bool.eq_false_iff.mpr fun limited => ?_
    obtain ⟨limit, member, active⟩ := RateLimits.isLimited_iff.mp limited
    rcases RateLimits.mem_addAll member with none | added
    · cases none
    obtain ⟨quota, -, rfl⟩ := List.mem_map.mp added
    simp [zeroLimit, RateLimit.fromQuota, retryAfter, capped, RetryAfter.fromSecs,
      Duration.fromSecs] at active
  have notEmpty : tracked.isEmpty = false := by simpa [List.isEmpty_iff] using tracking
  refine ⟨inactive, ?_⟩
  simp only [tracked, zeroLimits] at notEmpty inactive ⊢
  simp only [isRateLimited, foldlM_collectQuota, any_fault_eq_false.mpr sound, notEmpty, inactive,
    Bool.false_eq_true, if_false, Option.bind_eq_bind, Option.some_bind, List.nil_append,
    Bool.or_false]
  split <;> next _ _ answered => simp [answered, foldl_rejections]

/-- At `max_limit = Some(0)`, beside a matching zero-sized quota, the script is invoked: its
failure is returned where the counter store cannot be reached, and where it rejects nothing
the item is let through. -/
theorem zero_sized_quota_admitted_under_zero_max_limit :
    isRateLimited Sample.unreachableEnv ⟨some 0⟩ Sample.itemScoping 1 false 1000 0
        (Sample.zeroSizedQuota :: Sample.minuteQuotas) =
      some (.error (.redis ⟨"connection refused"⟩)) ∧
    ∃ rateLimits, isRateLimited Sample.limiterEnv ⟨some 0⟩ Sample.itemScoping 1 false 1000 0
        (Sample.zeroSizedQuota :: Sample.minuteQuotas) = some (.ok rateLimits) ∧
      rateLimits.isLimited 0 = false :=
  ⟨(zero_max_limit_invokes_script Sample.unreachableEnv ⟨some 0⟩ Sample.itemScoping 1 false 1000 0
      _ rfl (by decide) (by decide)).2,
    _, (zero_max_limit_invokes_script Sample.limiterEnv ⟨some 0⟩ Sample.itemScoping 1 false 1000 0
      _ rfl (by decide) (by decide)).2,
    (zero_max_limit_invokes_script Sample.limiterEnv ⟨some 0⟩ Sample.itemScoping 1 false 1000 0
      _ rfl (by decide) (by decide)).1⟩

end RedisRateLimiter

end Relay
