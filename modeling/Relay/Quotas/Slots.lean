import Relay.Quotas.Keys

/-!
# Slots and expiries

A tracked quota counts in slots of `window` seconds, shifted by the organization id modulo
the window so that organizations do not all expire together.  Once the timestamp has passed
the shift, the slot is the number of the bucket `[k * window + shift, (k + 1) * window +
shift)` that holds the timestamp, the expiry is the end of that bucket, and a rejection asks
to retry after one to `window` seconds.

The code computes these values in `u64`.  Where no step divides by zero, underflows or
overflows they are the values above; but `RedisQuota::new` admits a quota whose window is
zero, whose remainder panics, and a window longer than the time since the epoch, for which
`timestamp - shift` underflows for some organizations.
-/

namespace Relay

namespace RedisQuota

/-- The timestamp lies in bucket `k`: from `k * window + shift` up to the next bucket. -/
def InBucket (quota : RedisQuota) (k timestamp : Nat) : Prop :=
  k * quota.window + quota.shift ≤ timestamp ∧ timestamp < (k + 1) * quota.window + quota.shift

variable {quota : RedisQuota}

theorem expiry_eq (quota : RedisQuota) :
    quota.expiry = quota.slot * quota.window + quota.shift + quota.window := by
  rw [expiry, Nat.succ_mul]
  omega

/-- Once past the shift, the slot is the bucket of the timestamp. -/
theorem inBucket_slot (positive : 0 < quota.window) (started : quota.shift ≤ quota.timestamp) :
    quota.InBucket quota.slot quota.timestamp := by
  have split := Nat.div_add_mod (quota.timestamp - quota.shift) quota.window
  have rest := Nat.mod_lt (quota.timestamp - quota.shift) positive
  unfold InBucket slot
  rw [Nat.succ_mul, Nat.mul_comm]
  omega

/-- A timestamp past the shift lies in one bucket only. -/
theorem slot_eq_of_inBucket {k : Nat} (inside : quota.InBucket k quota.timestamp) :
    quota.slot = k := by
  obtain ⟨low, high⟩ := inside
  refine Nat.div_eq_of_lt_le (by omega) ?_
  rw [Nat.succ_mul] at high ⊢
  omega

theorem slot_mono {t₁ t₂ : Nat} (later : t₁ ≤ t₂) :
    { quota with timestamp := t₁ }.slot ≤ { quota with timestamp := t₂ }.slot :=
  Nat.div_le_div_right (Nat.sub_le_sub_right later _)

/-- Two timestamps past the shift share a slot exactly when they share a bucket. -/
theorem slot_eq_iff_inBucket (positive : 0 < quota.window) {t₁ t₂ : Nat}
    (started₁ : quota.shift ≤ t₁) (started₂ : quota.shift ≤ t₂) :
    { quota with timestamp := t₁ }.slot = { quota with timestamp := t₂ }.slot ↔
      ∃ k, quota.InBucket k t₁ ∧ quota.InBucket k t₂ := by
  constructor
  · intro same
    exact ⟨_, @inBucket_slot { quota with timestamp := t₁ } positive started₁,
      same ▸ @inBucket_slot { quota with timestamp := t₂ } positive started₂⟩
  · rintro ⟨k, first, second⟩
    rw [@slot_eq_of_inBucket { quota with timestamp := t₁ } k first,
      @slot_eq_of_inBucket { quota with timestamp := t₂ } k second]

end RedisQuota

/-- Past the shift, the slot's bucket holds the timestamp and ends at the expiry, one to
`window` seconds later, as the `u64` expiry does where it fits; two timestamps share a slot
and a key exactly when they share a bucket, and the slot grows with the timestamp. -/
theorem slot_bucket_law (quota : RedisQuota) (positive : 0 < quota.window)
    (started : quota.shift ≤ quota.timestamp) :
    quota.slot * quota.window + quota.shift ≤ quota.timestamp ∧
      quota.timestamp < quota.expiry ∧
      quota.expiry = quota.slot * quota.window + quota.shift + quota.window ∧
      1 ≤ quota.expiry - quota.timestamp ∧ quota.expiry - quota.timestamp ≤ quota.window ∧
      (∀ (limiter : RedisRateLimiter) (itemScoping : ItemScoping) (clock : Instant),
        (RedisRateLimiter.rejection limiter itemScoping quota.timestamp clock quota).retryAfter =
          RetryAfter.fromSecs clock (match limiter.maxLimit with
            | some maxLimit => min (quota.expiry - quota.timestamp) maxLimit
            | none => quota.expiry - quota.timestamp)) ∧
      (quota.expiry + grace < 2 ^ 64 → quota.expiryU64 = some (quota.expiry + grace)) ∧
      ∀ t₁ t₂, quota.shift ≤ t₁ → quota.shift ≤ t₂ →
        ({ quota with timestamp := t₁ }.slot = { quota with timestamp := t₂ }.slot ↔
          ∃ k, quota.InBucket k t₁ ∧ quota.InBucket k t₂) ∧
        ({ quota with timestamp := t₁ }.key = { quota with timestamp := t₂ }.key ↔
          ∃ k, quota.InBucket k t₁ ∧ quota.InBucket k t₂) ∧
        (t₁ ≤ t₂ → { quota with timestamp := t₁ }.slot ≤ { quota with timestamp := t₂ }.slot) := by
  obtain ⟨low, high⟩ := RedisQuota.inBucket_slot positive started
  have expiry := quota.expiry_eq
  rw [Nat.succ_mul] at high
  refine ⟨low, by omega, expiry, by omega, by omega, fun _ _ _ => rfl,
    RedisQuota.expiryU64_eq positive started, fun t₁ t₂ started₁ started₂ => ?_⟩
  have slots := RedisQuota.slot_eq_iff_inBucket positive started₁ started₂
  refine ⟨slots, ⟨fun same => slots.mp (RedisQuota.key_injective same).2.2.2, fun shared => ?_⟩,
    RedisQuota.slot_mono⟩
  simp only [RedisQuota.key, RedisQuota.subscope, slots.mpr shared]

namespace Sample

/-- A one-minute quota of organization 42 at timestamp 1000: shift 42, slot 15. -/
def minuteQuota : RedisQuota :=
  ⟨⟨some "c", [.error], .organization, none, some 10, some 60, none⟩, itemScoping, "c", 60, 1000⟩

end Sample

/-- At timestamp 1000 the one-minute quota of organization 42 counts in the bucket from 942
to 1002, and a rejection retries after one to sixty seconds. -/
theorem minute_quota_bucket :
    0 < Sample.minuteQuota.window ∧ Sample.minuteQuota.shift ≤ Sample.minuteQuota.timestamp ∧
      Sample.minuteQuota.slot * Sample.minuteQuota.window + Sample.minuteQuota.shift ≤
        Sample.minuteQuota.timestamp ∧
      Sample.minuteQuota.timestamp < Sample.minuteQuota.expiry :=
  let law := slot_bucket_law Sample.minuteQuota (by decide) (by decide)
  ⟨by decide, by decide, law.1, law.2.1⟩

/-- `RedisQuota::new` admits quotas whose `u64` expiry faults: a zero window, whose shift
divides by zero and makes `is_rate_limited` panic, and a window of 10^10 seconds, where at
the current time organization 5 * 10^9 has a shift past the timestamp, so that `slot`
subtracts below zero. -/
theorem admitted_quotas_fault :
    (∃ tracked, RedisQuota.new Sample.zeroWindowQuota Sample.itemScoping 1000 = some tracked ∧
      tracked.window = 0 ∧ tracked.expiryU64 = none) ∧
    RedisRateLimiter.isRateLimited Sample.limiterEnv ⟨none⟩ Sample.itemScoping 1 false 1000 0
      [Sample.zeroWindowQuota] = none ∧
    ∃ tracked, RedisQuota.new Sample.centuryQuota Sample.largeOrganization 1700000000 =
      some tracked ∧ tracked.timestamp < tracked.shift ∧ tracked.expiryU64 = none :=
  ⟨⟨_, rfl, rfl, rfl⟩, rfl, _, rfl, by decide, by decide⟩

end Relay
