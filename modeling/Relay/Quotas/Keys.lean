import Relay.Quotas.Redis

/-!
# Counter keys are injective

A counter key `quota:{id}{{{org}}}{subscope}:{slot}` inserts the quota id unescaped, so it
cannot be parsed from the left: the id may hold braces, digits and colons.  Read from the
right it parses uniquely, since the slot, the subscope and the organization id are decimal
renderings, each preceded by a character that is not a digit.  Together with the
injectivity of decimal rendering, which this file proves by reading the digits back, two
quotas share a counter key exactly when they agree on the id, the organization, the
subscope and the slot.  Refund keys start with `r`, counter keys with `q`, so no counter
key is a refund key.
-/

namespace Relay

/-- Reads a decimal rendering back, most significant digit first, from the value `start`
of the digits before it. -/
def readDecimal (start : Nat) (digits : List Char) : Nat :=
  digits.foldl (fun value digit => value * 10 + (digit.toNat - '0'.toNat)) start

theorem digitChar_value : ∀ digit < 10, (Nat.digitChar digit).toNat - '0'.toNat = digit := by
  decide

theorem digitChar_isDigit : ∀ digit < 10, (Nat.digitChar digit).isDigit = true := by
  decide

/-- With enough fuel, `toDigitsCore` prepends the digits of `n` to `digits`. -/
theorem readDecimal_toDigitsCore :
    ∀ {fuel n : Nat} (digits : List Char), n < fuel →
      readDecimal 0 (Nat.toDigitsCore 10 fuel n digits) = readDecimal n digits
  | 0, _, _, enough => absurd enough (Nat.not_lt_zero _)
  | fuel + 1, n, digits, enough => by
    have small := Nat.mod_lt n (by decide : 10 > 0)
    simp only [Nat.toDigitsCore]
    split_ifs with last
    · simp only [readDecimal, List.foldl_cons, Nat.zero_mul, Nat.zero_add,
        digitChar_value _ small]
      congr 1
      omega
    · rw [readDecimal_toDigitsCore _ (by omega)]
      simp only [readDecimal, List.foldl_cons, digitChar_value _ small]
      congr 1
      omega

theorem readDecimal_toString (n : Nat) : readDecimal 0 (toString n).data = n :=
  @readDecimal_toDigitsCore (n + 1) n [] (Nat.lt_succ_self n)

theorem toString_injective {m n : Nat} (same : toString m = toString n) : m = n := by
  rw [← readDecimal_toString m, ← readDecimal_toString n, same]

theorem isDigit_toString {n : Nat} : ∀ c ∈ (toString n).data, c.isDigit = true := by
  intro c member
  rcases mem_toDigitsCore member with none | ⟨digit, small, rfl⟩
  · cases none
  · exact digitChar_isDigit digit small

theorem optionalDisplay_injective {a b : Option Nat} (same : optionalDisplay a = optionalDisplay b) :
    a = b := by
  cases a <;> cases b <;> simp only [optionalDisplay] at same
  · rfl
  · exact absurd (congrArg String.data same).symm (toString_digits _).1
  · exact absurd (congrArg String.data same) (toString_digits _).1
  · rw [toString_injective same]

theorem isDigit_optionalDisplay (value : Option Nat) :
    ∀ c ∈ (optionalDisplay value).data, c.isDigit = true := by
  cases value
  · simp [optionalDisplay]
  · exact isDigit_toString

theorem takeWhile_digits {front rest : List Char} {stop : Char}
    (digits : ∀ c ∈ front, c.isDigit = true) (notDigit : stop.isDigit = false) :
    (front ++ stop :: rest).takeWhile (·.isDigit) = front ∧
      (front ++ stop :: rest).dropWhile (·.isDigit) = stop :: rest := by
  induction front with
  | nil => simp [notDigit]
  | cons c front ih =>
    have first := digits c (List.mem_cons_self _ _)
    obtain ⟨taken, dropped⟩ := ih fun d member => digits d (List.mem_cons_of_mem _ member)
    simp [first, taken, dropped]

/-- A run of digits ended by a character that is not one is read off uniquely. -/
theorem digits_append_inj {front front' rest rest' : List Char} {stop stop' : Char}
    (digits : ∀ c ∈ front, c.isDigit = true) (digits' : ∀ c ∈ front', c.isDigit = true)
    (notDigit : stop.isDigit = false) (notDigit' : stop'.isDigit = false)
    (same : front ++ stop :: rest = front' ++ stop' :: rest') :
    front = front' ∧ stop = stop' ∧ rest = rest' := by
  obtain ⟨taken, dropped⟩ := @takeWhile_digits front rest stop digits notDigit
  obtain ⟨taken', dropped'⟩ := @takeWhile_digits front' rest' stop' digits' notDigit'
  rw [same] at taken dropped
  obtain ⟨stops, rests⟩ := List.cons.inj (dropped.symm.trans dropped')
  exact ⟨taken.symm.trans taken', stops, rests⟩

theorem isDigit_reverse {digits : List Char} (all : ∀ c ∈ digits, c.isDigit = true) :
    ∀ c ∈ digits.reverse, c.isDigit = true :=
  fun c member => all c (List.mem_reverse.mp member)

namespace RedisQuota

/-- A counter key read from the right: the slot, a colon, the subscope, a closing brace,
the organization id, an opening brace, and the id after `quota:`. -/
theorem key_reverse (quota : RedisQuota) :
    quota.key.data.reverse = (toString quota.slot).data.reverse ++ ':' ::
      ((optionalDisplay quota.subscope).data.reverse ++ '\x7d' ::
        ((toString quota.scoping.scoping.organizationId).data.reverse ++ '\x7b' ::
          (quota.quotaId.data.reverse ++ "quota:".data.reverse))) := by
  simp [key, List.reverse_append]

theorem key_injective {quota quota' : RedisQuota} (same : quota.key = quota'.key) :
    quota.quotaId = quota'.quotaId ∧
      quota.scoping.scoping.organizationId = quota'.scoping.scoping.organizationId ∧
      quota.subscope = quota'.subscope ∧ quota.slot = quota'.slot := by
  have reversed := congrArg (fun key : String => key.data.reverse) same
  simp only [key_reverse] at reversed
  obtain ⟨slots, -, reversed⟩ := digits_append_inj (isDigit_reverse isDigit_toString)
    (isDigit_reverse isDigit_toString) (by decide) (by decide) reversed
  obtain ⟨subscopes, -, reversed⟩ := digits_append_inj
    (isDigit_reverse (isDigit_optionalDisplay _)) (isDigit_reverse (isDigit_optionalDisplay _))
    (by decide) (by decide) reversed
  obtain ⟨organizations, -, reversed⟩ := digits_append_inj (isDigit_reverse isDigit_toString)
    (isDigit_reverse isDigit_toString) (by decide) (by decide) reversed
  exact ⟨String.ext (List.reverse_injective (List.append_cancel_right reversed)),
    toString_injective (String.ext (List.reverse_injective organizations)),
    optionalDisplay_injective (String.ext (List.reverse_injective subscopes)),
    toString_injective (String.ext (List.reverse_injective slots))⟩

theorem key_ne_refunded (quota : RedisQuota) (counterKey : String) :
    quota.key ≠ getRefundedQuotaKey counterKey := by
  intro same
  have first := congrArg (fun key : String => key.data.head?) same
  simp [key, getRefundedQuotaKey] at first

end RedisQuota

/-- Two tracked quotas share a counter key exactly when they agree on the id, the
organization, the subscope and the slot, whatever characters the ids hold; and no counter
key is the refund key of any key. -/
theorem quota_keys_injective :
    (∀ quota quota' : RedisQuota, quota.key = quota'.key ↔
      quota.quotaId = quota'.quotaId ∧
        quota.scoping.scoping.organizationId = quota'.scoping.scoping.organizationId ∧
        quota.subscope = quota'.subscope ∧ quota.slot = quota'.slot) ∧
    ∀ (quota : RedisQuota) (counterKey : String), quota.key ≠ getRefundedQuotaKey counterKey := by
  refine ⟨fun quota quota' => ⟨RedisQuota.key_injective, ?_⟩, RedisQuota.key_ne_refunded⟩
  rintro ⟨ids, organizations, subscopes, slots⟩
  simp only [RedisQuota.key, ids, organizations, subscopes, slots]

end Relay
