import Mathlib.Data.Nat.Digits
import Relay.Quotas.Quota

/-!
# The Redis rate limiter

`RedisRateLimiter::is_rate_limited` walks the quotas in order.  A quota that does not match
the item is skipped; a matching quota with limit zero yields a rate limit at once; a
matching quota with an id and a window is tracked: its counter key, its refund key and four
arguments are appended to one invocation of the Lua script, which answers with one
rejection flag per tracked quota.  The script is invoked only if some quota is tracked and
no zero-sized quota has already limited the item.

The loop is modelled as it is written, with its accumulators, and proved equal to a
description by filters: the zero-sized matching quotas, and the tracked ones with their
keys and arguments in order.  Every counter key puts the organization id between braces,
which Redis Cluster reads as the key's hash tag; a quota id containing a brace moves that
tag.

The code computes a quota's slot and expiry in `u64`.  The loop follows a build with overflow
checks, as the tests run: a zero window (the remainder in `shift`), a timestamp before the
shift (the subtraction in `slot`) or an expiry past `u64::MAX` panics.  A release build
panics only on the zero window and wraps otherwise, which is not modelled.
-/

namespace Relay

/-- `GRACE`: seconds added to each counter's expiry for clock drift on the Redis side. -/
def grace : Nat := 60

/-- `get_refunded_quota_key` -/
def getRefundedQuotaKey (counterKey : String) : String := "r:" ++ counterKey

/-- `OptionalDisplay`: the value, or nothing. -/
def optionalDisplay : Option Nat → String
  | some value => toString value
  | none => ""

/-- `RedisQuota`: a quota with an id (the source's `prefix`) and a window in seconds, with
the item's scoping and the ingestion timestamp in seconds. -/
structure RedisQuota where
  quota : Quota
  scoping : ItemScoping
  quotaId : String
  window : Nat
  timestamp : Nat
  deriving DecidableEq

namespace RedisQuota

/-- `RedisQuota::new`: only a quota with an id and a window can be tracked. -/
def new (quota : Quota) (scoping : ItemScoping) (timestamp : Nat) : Option RedisQuota :=
  match quota.id, quota.window with
  | some quotaId, some window => some ⟨quota, scoping, quotaId, window, timestamp⟩
  | _, _ => none

/-- `RedisQuota::limit`: the limit for Redis, `-1` for unlimited. -/
def limit (quota : RedisQuota) : Int := (quota.quota.limit.map Int.ofNat).getD (-1)

/-- `RedisQuota::shift`.  The remainder panics in the code for a zero window. -/
def shift (quota : RedisQuota) : Nat := quota.scoping.scoping.organizationId % quota.window

/-- `RedisQuota::slot`, where the subtraction does not underflow (see `expiryU64`). -/
def slot (quota : RedisQuota) : Nat := (quota.timestamp - quota.shift) / quota.window

/-- `RedisQuota::expiry`, in seconds, where nothing overflows (see `expiryU64`). -/
def expiry (quota : RedisQuota) : Nat := (quota.slot + 1) * quota.window + quota.shift

/-- The id of the scope a quota is counted in below the organization, if any. -/
def subscope (quota : RedisQuota) : Option Nat :=
  match quota.quota.scope with
  | .organization => none
  | scope => quota.scoping.scopeId scope

/-- `RedisQuota::key`: `quota:{id}{{{org}}}{subscope}:{slot}`. -/
def key (quota : RedisQuota) : String :=
  "quota:" ++ quota.quotaId ++ "\x7b" ++ toString quota.scoping.scoping.organizationId ++
    "\x7d" ++ optionalDisplay quota.subscope ++ ":" ++ toString quota.slot

end RedisQuota

/-- `a - b` on `u64`: `none` where it underflows. -/
def checkedSub (a b : Nat) : Option Nat := if b ≤ a then some (a - b) else none

/-- `a + b` on `u64`: `none` where it overflows. -/
def checkedAdd (a b : Nat) : Option Nat := if a + b < 2 ^ 64 then some (a + b) else none

/-- `a * b` on `u64`: `none` where it overflows. -/
def checkedMul (a b : Nat) : Option Nat := if a * b < 2 ^ 64 then some (a * b) else none

/-- `a % b` on `u64`: `none` for a zero divisor, where Rust panics. -/
def checkedRem (a b : Nat) : Option Nat := if b = 0 then none else some (a % b)

/-- `a / b` on `u64`: `none` for a zero divisor, where Rust panics. -/
def checkedDiv (a b : Nat) : Option Nat := if b = 0 then none else some (a / b)

@[simp]
theorem checkedAdd_eq_some {a b c : Nat} : checkedAdd a b = some c ↔ c = a + b ∧ a + b < 2 ^ 64 := by
  rw [checkedAdd, Option.ite_none_right_eq_some, Option.some.injEq, @eq_comm _ (a + b), and_comm]

@[simp]
theorem checkedMul_eq_some {a b c : Nat} : checkedMul a b = some c ↔ c = a * b ∧ a * b < 2 ^ 64 := by
  rw [checkedMul, Option.ite_none_right_eq_some, Option.some.injEq, @eq_comm _ (a * b), and_comm]

@[simp]
theorem checkedSub_eq_some {a b c : Nat} : checkedSub a b = some c ↔ c = a - b ∧ b ≤ a := by
  rw [checkedSub, Option.ite_none_right_eq_some, Option.some.injEq, @eq_comm _ (a - b), and_comm]

@[simp]
theorem checkedRem_eq_some {a b c : Nat} : checkedRem a b = some c ↔ c = a % b ∧ b ≠ 0 := by
  rw [checkedRem, Option.ite_none_left_eq_some, Option.some.injEq, @eq_comm _ (a % b), and_comm]

@[simp]
theorem checkedDiv_eq_some {a b c : Nat} : checkedDiv a b = some c ↔ c = a / b ∧ b ≠ 0 := by
  rw [checkedDiv, Option.ite_none_left_eq_some, Option.some.injEq, @eq_comm _ (a / b), and_comm]

namespace RedisQuota

/-- `expiry().as_secs() + GRACE` evaluated in `u64` through `shift` and `slot`, as the code
computes it: `none` where a step divides by zero, underflows or overflows, which panics in a
build with overflow checks. -/
def expiryU64 (quota : RedisQuota) : Option Nat := do
  let shift ← checkedRem quota.scoping.scoping.organizationId quota.window
  let elapsed ← checkedSub quota.timestamp shift
  let slot ← checkedDiv elapsed quota.window
  let nextSlot ← checkedAdd slot 1
  let nextStart ← checkedMul nextSlot quota.window
  let expiry ← checkedAdd nextStart shift
  checkedAdd expiry grace

/-- The code's `u64` expiry is defined exactly when the window is positive, the timestamp
has passed the shift and the expiry plus the grace fits in `u64`; it is then the expiry of
the model plus the grace, and the slot of the key is the model's. -/
theorem expiryU64_eq_some_iff {quota : RedisQuota} {value : Nat} : quota.expiryU64 = some value ↔
    0 < quota.window ∧ quota.shift ≤ quota.timestamp ∧ quota.expiry + grace < 2 ^ 64 ∧
      value = quota.expiry + grace := by
  simp only [expiryU64, Option.bind_eq_bind, Option.bind_eq_some, checkedRem_eq_some,
    checkedSub_eq_some, checkedDiv_eq_some, checkedAdd_eq_some, checkedMul_eq_some, and_assoc,
    exists_eq_left]
  have grows : 0 < quota.window → quota.slot + 1 ≤ (quota.slot + 1) * quota.window :=
    Nat.le_mul_of_pos_right _
  unfold expiry slot shift grace at *
  constructor
  · omega
  · rintro ⟨positive, started, fits, rfl⟩
    have := grows positive
    omega

theorem expiryU64_eq {quota : RedisQuota} (positive : 0 < quota.window)
    (started : quota.shift ≤ quota.timestamp) (fits : quota.expiry + grace < 2 ^ 64) :
    quota.expiryU64 = some (quota.expiry + grace) :=
  expiryU64_eq_some_iff.mpr ⟨positive, started, fits, rfl⟩

end RedisQuota

/-- Modelled from the spec: the hash tag Redis Cluster reads from a key, the text between its
first `{` and the next `}`, when that text is not empty. -/
def hashTag (key : String) : Option String :=
  match key.data.dropWhile (· != '\x7b') with
  | [] => none
  | _ :: rest =>
    let tag := rest.takeWhile (· != '\x7d')
    if tag ≠ [] ∧ tag.length < rest.length then some ⟨tag⟩ else none

/-- No decimal digit is a closing brace. -/
theorem digitChar_ne_close : ∀ digit < 10, Nat.digitChar digit ≠ '\x7d' := by decide

theorem mem_toDigitsCore {fuel n : Nat} {digits : List Char} {c : Char}
    (member : c ∈ Nat.toDigitsCore 10 fuel n digits) :
    c ∈ digits ∨ ∃ digit < 10, c = Nat.digitChar digit := by
  induction fuel generalizing n digits with
  | zero => exact .inl member
  | succ fuel ih =>
    have small := Nat.mod_lt n (by decide : 10 > 0)
    simp only [Nat.toDigitsCore] at member
    split_ifs at member
    · rcases List.mem_cons.mp member with rfl | old
      · exact .inr ⟨_, small, rfl⟩
      · exact .inl old
    · rcases ih member with new | digit
      · rcases List.mem_cons.mp new with rfl | old
        · exact .inr ⟨_, small, rfl⟩
        · exact .inl old
      · exact .inr digit

theorem toDigitsCore_ne_nil {base fuel n : Nat} {digits : List Char} (filled : digits ≠ []) :
    Nat.toDigitsCore base fuel n digits ≠ [] := by
  induction fuel generalizing n digits with
  | zero => exact filled
  | succ fuel ih =>
    simp only [Nat.toDigitsCore]
    split_ifs
    · exact List.cons_ne_nil _ _
    · exact ih (List.cons_ne_nil _ _)

/-- A decimal rendering is not empty and holds no closing brace. -/
theorem toString_digits (n : Nat) :
    (toString n).data ≠ [] ∧ '\x7d' ∉ (toString n).data := by
  refine ⟨?_, fun member => ?_⟩
  · show Nat.toDigitsCore 10 (n + 1) n [] ≠ []
    simp only [Nat.toDigitsCore]
    split_ifs
    · exact List.cons_ne_nil _ _
    · exact toDigitsCore_ne_nil (List.cons_ne_nil _ _)
  · rcases mem_toDigitsCore member with none | ⟨digit, small, close⟩
    · cases none
    · exact digitChar_ne_close digit small close.symm

/-- A key whose first opening brace is followed by a closing one, with text between them
free of closing braces, has that text as its hash tag. -/
theorem hashTag_of_braced {key : String} {front tag rest : List Char}
    (shape : key.data = front ++ '\x7b' :: (tag ++ '\x7d' :: rest)) (plain : '\x7b' ∉ front)
    (filled : tag ≠ []) (closed : '\x7d' ∉ tag) : hashTag key = some ⟨tag⟩ := by
  have skipped : front.dropWhile (· != '\x7b') = [] :=
    List.dropWhile_eq_nil_iff.mpr fun c member => by
      simpa using fun same : c = '\x7b' => plain (same ▸ member)
  have taken : (tag ++ '\x7d' :: rest).takeWhile (· != '\x7d') = tag := by
    rw [List.takeWhile_append_of_pos fun c member => by
      simpa using fun same : c = '\x7d' => closed (same ▸ member)]
    simp
  simp [hashTag, shape, List.dropWhile_append, skipped, taken, filled]

namespace RedisQuota

/-- A tracked quota keeps the item's scoping. -/
theorem new_scoping {quota : Quota} {scoping : ItemScoping} {timestamp : Nat}
    {tracked : RedisQuota} (made : RedisQuota.new quota scoping timestamp = some tracked) :
    tracked.scoping = scoping := by
  unfold RedisQuota.new at made
  split at made
  · cases made
    rfl
  · cases made

/-- The counter key and the refund key of a quota whose id has no opening brace carry the
organization id as their hash tag. -/
theorem hashTag_keys (quota : RedisQuota) (plain : '\x7b' ∉ quota.quotaId.data) :
    ∀ key ∈ [quota.key, getRefundedQuotaKey quota.key],
      hashTag key = some (toString quota.scoping.scoping.organizationId) := by
  obtain ⟨filled, closed⟩ := toString_digits quota.scoping.scoping.organizationId
  have counter := @hashTag_of_braced quota.key ("quota:" ++ quota.quotaId).data _
    (optionalDisplay quota.subscope ++ ":" ++ toString quota.slot).data
    (by simp [key]) (by simpa using plain) filled closed
  have refund := @hashTag_of_braced (getRefundedQuotaKey quota.key)
    ("r:quota:" ++ quota.quotaId).data _
    (optionalDisplay quota.subscope ++ ":" ++ toString quota.slot).data
    (by simp [key, getRefundedQuotaKey]) (by simpa using plain) filled closed
  simp [counter, refund]

end RedisQuota

/-- An argument of the script invocation. -/
inductive ScriptArg
  | int (value : Int)
  | nat (value : Nat)
  | bool (value : Bool)
  deriving DecidableEq

/-- The keys and arguments of one invocation of the script. -/
structure Invocation where
  keys : List String
  args : List ScriptArg
  deriving DecidableEq

/-- A failure to talk to Redis (`RedisError`). -/
structure RedisError where
  description : String
  deriving DecidableEq

/-- `RateLimitingError` -/
inductive RateLimitingError
  | redis (error : RedisError)
  deriving DecidableEq

/-- The code `is_rate_limited` calls that is not among the sources: `Quota::matches`,
the constant `REJECT_ALL_SECS`, and taking a client from the pool and running the script,
which answers with one rejection flag per tracked quota. -/
structure LimiterEnv where
  quotaMatches : Quota → ItemScoping → Bool
  rejectAllSecs : Nat
  invoke : Invocation → Except RedisError (List Bool)

/-- `RedisRateLimiter`, with the field `is_rate_limited` reads. -/
structure RedisRateLimiter where
  maxLimit : Option Nat

namespace RedisRateLimiter

/-- `RedisRateLimiter::retry_after`, bounded by `max_limit`, taken at the instant `clock`. -/
def retryAfter (limiter : RedisRateLimiter) (clock : Instant) (seconds : Nat) : RetryAfter :=
  RetryAfter.fromSecs clock
    (match limiter.maxLimit with
      | some maxLimit => min seconds maxLimit
      | none => seconds)

/-- A positive number of seconds gives a retry instant after `clock`, unless `max_limit` is
zero, which clamps every retry to `clock` itself. -/
theorem retryAfter_active (limiter : RedisRateLimiter) (clock : Instant) {seconds : Nat}
    (positive : 0 < seconds) (uncapped : limiter.maxLimit ≠ some 0) :
    clock < (limiter.retryAfter clock seconds).when := by
  unfold retryAfter RetryAfter.fromSecs Duration.fromSecs Instant Duration
  split
  · next maxLimit capped =>
    have : maxLimit ≠ 0 := fun zero => uncapped (zero ▸ capped)
    simp only
    omega
  · simp only
    omega

/-- What the loop of `is_rate_limited` has built so far: the invocation, the tracked quotas
and the rate limits of zero-sized quotas. -/
structure Collected where
  invocation : Invocation
  tracked : List RedisQuota
  rateLimits : RateLimits
  deriving DecidableEq

variable (env : LimiterEnv) (limiter : RedisRateLimiter) (itemScoping : ItemScoping)
  (quantity : Nat) (overAcceptOnce : Bool) (timestamp : Nat) (clock : Instant)

/-- One turn of the loop of `is_rate_limited`; `none` where the code panics. -/
def collectQuota (collected : Collected) (quota : Quota) : Option Collected :=
  if !env.quotaMatches quota itemScoping then some collected
  else if quota.limit = some 0 then
    let retryAfter := limiter.retryAfter clock env.rejectAllSecs
    some { collected with
      rateLimits := collected.rateLimits.add (RateLimit.fromQuota quota itemScoping retryAfter) }
  else
    match RedisQuota.new quota itemScoping timestamp with
    | some quota =>
      -- `key()` and `expiry()` compute the slot in `u64`; where that succeeds it is `slot`
      match quota.expiryU64 with
      | none => none
      | some expiry =>
        let key := quota.key
        let refundKey := getRefundedQuotaKey key
        some { collected with
          invocation := ⟨collected.invocation.keys ++ [key, refundKey],
            collected.invocation.args ++ [.int quota.limit, .nat expiry,
              .nat quantity, .bool overAcceptOnce]⟩
          tracked := collected.tracked ++ [quota] }
    | none => some collected

/-- The rate limit of a tracked quota the script rejected. -/
def rejection (quota : RedisQuota) : RateLimit :=
  RateLimit.fromQuota quota.quota itemScoping
    (limiter.retryAfter clock (quota.expiry - timestamp))

/-- `RedisRateLimiter::is_rate_limited`; `none` where the code panics. -/
def isRateLimited (quotas : List Quota) : Option (Except RateLimitingError RateLimits) := do
  let collected ← quotas.foldlM
    (collectQuota env limiter itemScoping quantity overAcceptOnce timestamp clock)
    ⟨⟨[], []⟩, [], RateLimits.new⟩
  if collected.tracked.isEmpty || collected.rateLimits.isLimited clock then
    return .ok collected.rateLimits
  match env.invoke collected.invocation with
  | .error error => return .error (.redis error)
  | .ok rejections =>
    return .ok ((collected.tracked.zip rejections).foldl
      (fun rateLimits entry =>
        if entry.2 then rateLimits.add (rejection limiter itemScoping timestamp clock entry.1)
        else rateLimits)
      collected.rateLimits)

/-- The matching quotas with limit zero, in order. -/
def zeroQuotas (quotas : List Quota) : List Quota :=
  quotas.filter fun quota => env.quotaMatches quota itemScoping && quota.limit == some 0

/-- The quotas tracked in Redis, in order: the matching quotas with a limit other than zero
that have an id and a window. -/
def trackedQuotas (quotas : List Quota) : List RedisQuota :=
  (quotas.filter fun quota => env.quotaMatches quota itemScoping && quota.limit != some 0)
    |>.filterMap (RedisQuota.new · itemScoping timestamp)

/-- The rate limit of a zero-sized quota. -/
def zeroLimit (quota : Quota) : RateLimit :=
  RateLimit.fromQuota quota itemScoping (limiter.retryAfter clock env.rejectAllSecs)

/-- The two keys of a tracked quota: its counter and its refund counter. -/
def scriptKeys (quota : RedisQuota) : List String := [quota.key, getRefundedQuotaKey quota.key]

/-- The four arguments of a tracked quota. -/
def scriptArgs (quota : RedisQuota) : List ScriptArg :=
  [.int quota.limit, .nat (quota.expiry + grace), .nat quantity, .bool overAcceptOnce]

/-- The loop appends the keys and arguments of the tracked quotas in order, collects the
rate limits of the zero-sized ones, and panics if a tracked quota's `u64` expiry faults. -/
theorem foldlM_collectQuota (quotas : List Quota) (collected : Collected) :
    quotas.foldlM (collectQuota env limiter itemScoping quantity overAcceptOnce timestamp clock)
        collected =
      let tracked := trackedQuotas env itemScoping timestamp quotas
      if tracked.any (·.expiryU64.isNone) then none
      else some ⟨⟨collected.invocation.keys ++ tracked.flatMap scriptKeys,
          collected.invocation.args ++ tracked.flatMap (scriptArgs quantity overAcceptOnce)⟩,
        collected.tracked ++ tracked,
        collected.rateLimits.addAll
          ((zeroQuotas env itemScoping quotas).map (zeroLimit env limiter itemScoping clock))⟩ := by
  induction quotas generalizing collected with
  | nil => simp [trackedQuotas, zeroQuotas]
  | cons quota rest ih =>
    rw [List.foldlM_cons]
    by_cases matched : env.quotaMatches quota itemScoping
    case neg =>
      simpa [collectQuota, matched, trackedQuotas, zeroQuotas] using ih collected
    by_cases zero : quota.limit = some 0
    case pos =>
      simpa [collectQuota, matched, zero, trackedQuotas, zeroQuotas, zeroLimit] using ih _
    cases fresh : RedisQuota.new quota itemScoping timestamp with
    | none => simpa [collectQuota, matched, zero, fresh, trackedQuotas, zeroQuotas] using ih collected
    | some redisQuota =>
      cases computed : redisQuota.expiryU64 with
      | none => simp [collectQuota, matched, zero, fresh, computed, trackedQuotas]
      | some expiry =>
        obtain ⟨-, -, -, rfl⟩ := RedisQuota.expiryU64_eq_some_iff.mp computed
        simp only [collectQuota, matched, zero, fresh, computed, Bool.not_true, Bool.false_eq_true,
          if_false, Option.bind_eq_bind, Option.some_bind]
        rw [ih]
        simp [trackedQuotas, zeroQuotas, scriptKeys, scriptArgs, matched, zero, fresh, computed]

/-- Adding the rejected quotas one by one adds the rate limits of the rejected ones. -/
theorem foldl_rejections (entries : List (RedisQuota × Bool)) (rateLimits : RateLimits) :
    entries.foldl (fun rateLimits entry =>
        if entry.2 then rateLimits.add (rejection limiter itemScoping timestamp clock entry.1)
        else rateLimits) rateLimits =
      rateLimits.addAll (entries.filterMap fun entry =>
        if entry.2 then some (rejection limiter itemScoping timestamp clock entry.1) else none) := by
  induction entries generalizing rateLimits with
  | nil => rfl
  | cons entry rest ih =>
    obtain ⟨quota, rejected⟩ := entry
    cases rejected <;> simp [ih]

/-- The loop's fault test fails exactly when every tracked quota's `u64` expiry is defined. -/
theorem any_fault_eq_false {tracked : List RedisQuota} :
    tracked.any (·.expiryU64.isNone) = false ↔ ∀ quota ∈ tracked, quota.expiryU64.isSome := by
  simp [Option.isNone_iff_eq_none, Option.isSome_iff_ne_none]

/-- When no tracked quota's id has an opening brace, every key of the invocation carries the
organization id as its hash tag. -/
theorem hashTag_invocation_keys (quotas : List Quota)
    (plain : ∀ quota ∈ trackedQuotas env itemScoping timestamp quotas,
      '\x7b' ∉ quota.quotaId.data) :
    ∀ key ∈ (trackedQuotas env itemScoping timestamp quotas).flatMap scriptKeys,
      hashTag key = some (toString itemScoping.scoping.organizationId) := by
  intro key member
  obtain ⟨quota, tracked, keyOf⟩ := List.mem_flatMap.mp member
  obtain ⟨_, -, made⟩ := List.mem_filterMap.mp tracked
  rw [← RedisQuota.new_scoping made]
  exact quota.hashTag_keys (plain quota tracked) key keyOf

/-- A matching quota of limit zero makes `is_rate_limited` return the rate limits of the
zero-sized quotas, which do not depend on the script's answer and limit the item at the
moment of return, provided `REJECT_ALL_SECS` is positive, `max_limit` is not zero and no
tracked quota faults. -/
theorem zero_quota_rejects_without_script (quotas : List Quota)
    (zeroSized : ∃ quota ∈ quotas, env.quotaMatches quota itemScoping = true ∧ quota.limit = some 0)
    (rejecting : 0 < env.rejectAllSecs) (uncapped : limiter.maxLimit ≠ some 0)
    (sound : ∀ quota ∈ trackedQuotas env itemScoping timestamp quotas, quota.expiryU64.isSome) :
    let zeroLimits := RateLimits.new.addAll
      ((zeroQuotas env itemScoping quotas).map (zeroLimit env limiter itemScoping clock))
    isRateLimited env limiter itemScoping quantity overAcceptOnce timestamp clock quotas =
      some (.ok zeroLimits) ∧ zeroLimits.isLimited clock = true := by
  intro zeroLimits
  obtain ⟨quota, member, matched, zero⟩ := zeroSized
  have listed : quota ∈ zeroQuotas env itemScoping quotas :=
    List.mem_filter.mpr ⟨member, by simp [matched, zero]⟩
  have limited : zeroLimits.isLimited clock = true := RateLimits.isLimited_addAll
    ⟨_, List.mem_map_of_mem _ listed, limiter.retryAfter_active clock rejecting uncapped⟩
  refine ⟨?_, limited⟩
  simp only [isRateLimited, foldlM_collectQuota, any_fault_eq_false.mpr sound]
  simp [limited, zeroLimits]

end RedisRateLimiter

namespace Sample

/-- Every quota matches, a zero-sized quota limits for a minute, and the script rejects
nothing. -/
def limiterEnv : LimiterEnv := ⟨fun _ _ => true, 60, fun _ => .ok []⟩

/-- An error event of organization 42, project 7. -/
def itemScoping : ItemScoping := ⟨.error, ⟨42, 7, 0, none⟩⟩

/-- Two organization quotas of ten errors a minute; the id of the first holds braces. -/
def bracedQuotas : List Quota :=
  [⟨some "a\x7bb\x7d", [.error], .organization, none, some 10, some 60, none⟩,
    ⟨some "c", [.error], .organization, none, some 10, some 60, none⟩]

/-- A tracked quota with a zero window. -/
def zeroWindowQuota : Quota := ⟨some "w", [.error], .organization, none, some 10, some 0, none⟩

/-- A quota whose window, 10^10 seconds, is longer than the time since the epoch. -/
def centuryQuota : Quota :=
  ⟨some "century", [.error], .organization, none, some 10, some 10000000000, none⟩

/-- An error event of organization 5 * 10^9. -/
def largeOrganization : ItemScoping := ⟨.error, ⟨5000000000, 7, 0, none⟩⟩

/-- A zero-sized organization quota of errors. -/
def zeroSizedQuota : Quota := ⟨some "z", [.error], .organization, none, some 0, some 60, none⟩

/-- Every quota matches, and the counter store cannot be reached. -/
def unreachableEnv : LimiterEnv := ⟨fun _ _ => true, 60, fun _ => .error ⟨"connection refused"⟩⟩

end Sample

namespace RedisRateLimiter

/-- The keys the loop builds for `bracedQuotas` carry two different hash tags, and the first
two not the organization id 42. -/
theorem braced_quota_id_moves_hash_tag :
    (Sample.bracedQuotas.foldlM
        (collectQuota Sample.limiterEnv ⟨none⟩ Sample.itemScoping 1 false 1000 0)
        ⟨⟨[], []⟩, [], RateLimits.new⟩).map (·.invocation.keys.map hashTag) =
      some [some "b", some "b", some "42", some "42"] := by
  decide

end RedisRateLimiter

end Relay
