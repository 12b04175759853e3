import Relay.Basic

/-!
# Quotas and rate limits

The quota model of `relay-quotas` as the rate limiter and the project actor read it:
quotas with their scope, limit and window; the scoping of one item; and the set of
active rate limits with their retry instants.  The files of `relay-quotas` that define
`Quota`, `RateLimit` and `RateLimits` are not among the sources: the quota fields follow
the struct literals of the tests in `redis.rs`, and the rate-limit set follows the
specification's description of `add`, `merge`, `is_limited` and `clean_expired`.
-/

namespace Relay

/-- The data categories a quota or an item can be counted in. -/
inductive DataCategory
  | default
  | error
  | transaction
  | security
  | attachment
  | session
  | profile
  | replay
  | transactionProcessed
  | unknown
  deriving DecidableEq

/-- `QuotaScope` -/
inductive QuotaScope
  | organization
  | project
  | key
  deriving DecidableEq

/-- `Quota`: which data it counts, in which scope, with which limit and window. -/
structure Quota where
  id : Option String
  categories : List DataCategory
  scope : QuotaScope
  scopeId : Option String
  limit : Option Nat
  window : Option Nat
  reasonCode : Option String
  deriving DecidableEq

/-- Modelled from the spec: `Quota::is_valid`, a quota that is a hard reject or can be
tracked in the counter store. -/
def Quota.isValid (quota : Quota) : Bool :=
  quota.limit == some 0 || (quota.id.isSome && quota.window.isSome)

/-- `ItemScoping`: the scoping of a request together with one item's data category. -/
structure ItemScoping where
  category : DataCategory
  scoping : Scoping
  deriving DecidableEq

/-- Modelled from the spec: `Scoping::scope_id`, the identifier of the scope a quota of the
given kind is counted in. -/
def ItemScoping.scopeId (itemScoping : ItemScoping) : QuotaScope → Option Nat
  | .organization => some itemScoping.scoping.organizationId
  | .project => some itemScoping.scoping.projectId
  | .key => itemScoping.scoping.keyId

/-- `RateLimitScope`: the scope value a rate limit applies to. -/
inductive RateLimitScope
  | organization (organizationId : Nat)
  | project (projectId : ProjectId)
  | key (projectKey : ProjectKey)
  deriving DecidableEq

/-- Modelled from the spec: `RateLimitScope::for_quota`. -/
def RateLimitScope.forQuota (scoping : Scoping) : QuotaScope → RateLimitScope
  | .organization => .organization scoping.organizationId
  | .project => .project scoping.projectId
  | .key => .key scoping.projectKey

/-- `RetryAfter`: the instant at which a rate limit ends. -/
structure RetryAfter where
  when : Instant
  deriving DecidableEq

/-- `RetryAfter::from_secs`, taken at the instant `clock`. -/
def RetryAfter.fromSecs (clock : Instant) (seconds : Nat) : RetryAfter :=
  ⟨clock + Duration.fromSecs seconds⟩

/-- `RateLimit`: an active rejection of some categories in one scope. -/
structure RateLimit where
  categories : List DataCategory
  scope : RateLimitScope
  reasonCode : Option String
  retryAfter : RetryAfter
  deriving DecidableEq

/-- Modelled from the spec: `RateLimit::from_quota`. -/
def RateLimit.fromQuota (quota : Quota) (itemScoping : ItemScoping)
    (retryAfter : RetryAfter) : RateLimit where
  categories := quota.categories
  scope := RateLimitScope.forQuota itemScoping.scoping quota.scope
  reasonCode := quota.reasonCode
  retryAfter := retryAfter

/-- `RateLimits`: the active rate limits, at most one per categories and scope. -/
structure RateLimits where
  limits : List RateLimit
  deriving DecidableEq

namespace RateLimits

/-- `RateLimits::new` -/
def new : RateLimits := ⟨[]⟩

/-- Modelled from the spec: `add` merges a limit into an equivalent one (same categories
and scope), keeping the later retry instant, or inserts it. -/
def add (rateLimits : RateLimits) (limit : RateLimit) : RateLimits :=
  if rateLimits.limits.any
      (fun existing => existing.categories == limit.categories && existing.scope == limit.scope)
  then
    ⟨rateLimits.limits.map fun existing =>
      if existing.categories == limit.categories && existing.scope == limit.scope &&
          existing.retryAfter.when < limit.retryAfter.when
      then limit else existing⟩
  else ⟨rateLimits.limits ++ [limit]⟩

/-- Every limit of a list added in turn. -/
def addAll (rateLimits : RateLimits) (limits : List RateLimit) : RateLimits :=
  limits.foldl add rateLimits

/-- Modelled from the spec: `merge` adds every limit of the other set. -/
def merge (rateLimits other : RateLimits) : RateLimits :=
  rateLimits.addAll other.limits

/-- Modelled from the spec: `is_limited`, some limit still active at `clock`. -/
def isLimited (rateLimits : RateLimits) (clock : Instant) : Bool :=
  rateLimits.limits.any fun limit => clock < limit.retryAfter.when

/-- Modelled from the spec: `clean_expired` drops the limits no longer active at `clock`. -/
def cleanExpired (rateLimits : RateLimits) (clock : Instant) : RateLimits :=
  ⟨rateLimits.limits.filter fun limit => clock < limit.retryAfter.when⟩

@[simp]
theorem addAll_nil (rateLimits : RateLimits) : rateLimits.addAll [] = rateLimits := rfl

@[simp]
theorem addAll_cons (rateLimits : RateLimits) (limit : RateLimit) (limits : List RateLimit) :
    rateLimits.addAll (limit :: limits) = (rateLimits.add limit).addAll limits := rfl

theorem addAll_append (rateLimits : RateLimits) (first second : List RateLimit) :
    rateLimits.addAll (first ++ second) = (rateLimits.addAll first).addAll second := by
  simp [addAll, List.foldl_append]

variable {rateLimits : RateLimits} {clock : Instant}

theorem isLimited_iff : rateLimits.isLimited clock = true ↔
    ∃ limit ∈ rateLimits.limits, clock < limit.retryAfter.when := by
  simp [isLimited]

/-- `add` only replaces a limit with a later one, so an active limit stays active. -/
theorem isLimited_add_of_isLimited (limited : rateLimits.isLimited clock = true)
    (limit : RateLimit) : (rateLimits.add limit).isLimited clock = true := by
  obtain ⟨active, member, before⟩ := isLimited_iff.mp limited
  unfold add
  split
  · refine isLimited_iff.mpr ⟨_, List.mem_map_of_mem _ member, ?_⟩
    split_ifs with replaced
    · simp only [Bool.and_eq_true, decide_eq_true_eq] at replaced
      exact Nat.lt_trans before replaced.2
    · exact before
  · exact isLimited_iff.mpr ⟨active, List.mem_append_left _ member, before⟩

/-- An added limit that is active leaves the set limited, whether it is inserted or merged
into an equivalent limit. -/
theorem isLimited_add_of_active {limit : RateLimit} (active : clock < limit.retryAfter.when) :
    (rateLimits.add limit).isLimited clock = true := by
  unfold add
  split
  case isTrue equivalent =>
    obtain ⟨existing, member, same⟩ := List.any_eq_true.mp equivalent
    refine isLimited_iff.mpr ⟨_, List.mem_map_of_mem _ member, ?_⟩
    split_ifs with replaced
    · exact active
    · simp only [same, Bool.true_and, decide_eq_true_eq] at replaced
      exact Nat.lt_of_lt_of_le active (Nat.not_lt.mp replaced)
  case isFalse =>
    exact isLimited_iff.mpr ⟨limit, List.mem_append_right _ (List.mem_singleton_self _), active⟩

theorem isLimited_addAll_of_isLimited (limited : rateLimits.isLimited clock = true)
    (limits : List RateLimit) : (rateLimits.addAll limits).isLimited clock = true := by
  induction limits generalizing rateLimits with
  | nil => exact limited
  | cons limit limits ih => exact ih (isLimited_add_of_isLimited limited limit)

/-- Adding a list with an active limit leaves the set limited. -/
theorem isLimited_addAll {limits : List RateLimit}
    (active : ∃ limit ∈ limits, clock < limit.retryAfter.when) :
    (rateLimits.addAll limits).isLimited clock = true := by
  induction limits generalizing rateLimits with
  | nil => simp at active
  | cons limit limits ih =>
    rw [addAll_cons]
    obtain ⟨first, member, firstActive⟩ := active
    rcases List.mem_cons.mp member with rfl | later
    · exact isLimited_addAll_of_isLimited (isLimited_add_of_active firstActive) limits
    · exact ih ⟨first, later, firstActive⟩

end RateLimits

end Relay
