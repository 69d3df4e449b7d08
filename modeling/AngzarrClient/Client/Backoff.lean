/-
The backoff of `ExponentialBackoffRetry` (`retry.rs`): `compute_delay` on the
machine's integers, and what it yields without jitter.
-/
import AngzarrClient.Lib.Retry

namespace AngzarrClient

/-- `std::time::Duration`. -/
structure Duration where
  secs : UInt64
  nanos : UInt32
  nanos_lt : nanos.toNat < 1000000000
deriving DecidableEq, Repr

namespace Duration

/-- The derived order: seconds first. -/
instance : LE Duration where
  le a b := a.secs < b.secs ∨ a.secs = b.secs ∧ a.nanos ≤ b.nanos

/-- The length in nanoseconds. -/
def toNanos (d : Duration) : Nat := d.secs.toNat * 1000000000 + d.nanos.toNat

/-- `Duration::as_nanos`, on `u128`. -/
def asNanos (d : Duration) : BitVec 128 :=
  BitVec.ofNat 128 d.secs.toNat * 1000000000#128 + BitVec.ofNat 128 d.nanos.toNat

/-- `Duration::from_nanos`. -/
def fromNanos (n : UInt64) : Duration where
  secs := n / 1000000000
  nanos := (n % 1000000000).toUInt32
  nanos_lt := by
    have hmod : (n % 1000000000).toNat = n.toNat % 1000000000 := rfl
    rw [UInt64.toNat_toUInt32, hmod]
    omega

/-- No operation of `as_nanos` overflows. -/
def NanosFit (d : Duration) : Prop :=
  (BitVec.ofNat 128 d.secs.toNat).umulOverflow 1000000000#128 = false ∧
    (BitVec.ofNat 128 d.secs.toNat * 1000000000#128).uaddOverflow
      (BitVec.ofNat 128 d.nanos.toNat) = false

theorem toNanos_lt (d : Duration) : d.toNanos < 18446744073709551616 * 1000000000 := by
  have hsecs : d.secs.toNat < 18446744073709551616 := d.secs.toNat_lt
  have hnanos := d.nanos_lt
  rw [toNanos]
  omega

theorem toNat_secs (d : Duration) :
    (BitVec.ofNat 128 d.secs.toNat * 1000000000#128).toNat = d.secs.toNat * 1000000000 := by
  have hsecs : d.secs.toNat < 18446744073709551616 := d.secs.toNat_lt
  rw [BitVec.toNat_mul, BitVec.toNat_ofNat, BitVec.toNat_ofNat, Nat.mod_eq_of_lt (by omega),
    Nat.mod_eq_of_lt (by omega)]

theorem toNat_nanos (d : Duration) :
    (BitVec.ofNat 128 d.nanos.toNat).toNat = d.nanos.toNat := by
  have hnanos := d.nanos_lt
  rw [BitVec.toNat_ofNat]
  exact Nat.mod_eq_of_lt (by omega)

theorem toNat_asNanos (d : Duration) : d.asNanos.toNat = d.toNanos := by
  have hlt := d.toNanos_lt
  rw [asNanos, BitVec.toNat_add, toNat_secs, toNat_nanos]
  exact Nat.mod_eq_of_lt (by rw [toNanos] at hlt; omega)

theorem nanosFit (d : Duration) : d.NanosFit := by
  have hlt := d.toNanos_lt
  have hsecs : d.secs.toNat < 18446744073709551616 := d.secs.toNat_lt
  constructor
  · rw [BitVec.umulOverflow, BitVec.toNat_ofNat, BitVec.toNat_ofNat, decide_eq_false_iff_not,
      Nat.mod_eq_of_lt (by omega)]
    omega
  · rw [BitVec.uaddOverflow, toNat_secs, toNat_nanos, decide_eq_false_iff_not]
    rw [toNanos] at hlt
    omega

theorem le_iff_toNanos {a b : Duration} : a ≤ b ↔ a.toNanos ≤ b.toNanos := by
  have ha := a.nanos_lt
  have hb := b.nanos_lt
  change a.secs < b.secs ∨ a.secs = b.secs ∧ a.nanos ≤ b.nanos ↔ _
  rw [UInt64.lt_iff_toNat_lt, ← UInt64.toNat_inj, UInt32.le_iff_toNat_le, toNanos, toNanos]
  omega

theorem toNanos_fromNanos (n : UInt64) : (fromNanos n).toNanos = n.toNat := by
  have hn : n.toNat < 18446744073709551616 := n.toNat_lt
  have hdiv : (n / 1000000000).toNat = n.toNat / 1000000000 := rfl
  have hmod : (n % 1000000000).toNat = n.toNat % 1000000000 := rfl
  rw [toNanos, fromNanos]
  dsimp only
  rw [UInt64.toNat_toUInt32, hdiv, hmod]
  omega

end Duration

/-- `ExponentialBackoffRetry`; of the `on_retry` hook the model keeps whether one
is installed. -/
structure ExponentialBackoffRetry where
  minDelay : Duration
  maxDelay : Duration
  maxAttempts : UInt32
  jitter : Bool
  hasOnRetry : Bool
deriving DecidableEq, Repr

/-- What one `rand::random` makes of a capped delay:
`(capped as f64 * (0.5 + frac * 0.5)) as u128`. -/
abbrev Draw := BitVec 128 → BitVec 128

namespace ExponentialBackoffRetry

/-- `raw_nanos` in `compute_delay`.  An attempt is a `u32`. -/
def rawNanos (policy : ExponentialBackoffRetry) (attempt : Nat) : BitVec 128 :=
  policy.minDelay.asNanos * (1#128 <<< min attempt 30)

/-- `capped` in `compute_delay`. -/
def cappedNanos (policy : ExponentialBackoffRetry) (attempt : Nat) : BitVec 128 :=
  if policy.rawNanos attempt ≤ policy.maxDelay.asNanos then policy.rawNanos attempt
  else policy.maxDelay.asNanos

/-- `ExponentialBackoffRetry::compute_delay`. -/
def computeDelay (policy : ExponentialBackoffRetry) (draw : Draw) (attempt : Nat) :
    Duration :=
  let capped := policy.cappedNanos attempt
  let result := if policy.jitter then draw capped else capped
  .fromNanos (UInt64.ofNat (min result.toNat (UInt64.size - 1)))

/-- No operation on `u128` in `compute_delay` overflows. -/
structure NoOverflow (policy : ExponentialBackoffRetry) (attempt : Nat) : Prop where
  minDelay : policy.minDelay.NanosFit
  maxDelay : policy.maxDelay.NanosFit
  shift : min attempt 30 < 128
  product : policy.minDelay.asNanos.umulOverflow (1#128 <<< min attempt 30) = false

theorem factor_le (attempt : Nat) : 2 ^ min attempt 30 ≤ 1073741824 :=
  Nat.pow_le_pow_right (n := 2) (by decide) (Nat.min_le_right attempt 30)

theorem toNat_factor (attempt : Nat) :
    (1#128 <<< min attempt 30).toNat = 2 ^ min attempt 30 := by
  have hle := factor_le attempt
  rw [BitVec.toNat_shiftLeft, BitVec.toNat_ofNat, Nat.shiftLeft_eq, Nat.one_mod_two_pow_eq_one.mpr
    (by decide), Nat.one_mul]
  exact Nat.mod_eq_of_lt (by omega)

/-- The largest product there is stays far below `2^128`. -/
theorem product_lt (policy : ExponentialBackoffRetry) (attempt : Nat) :
    policy.minDelay.toNanos * 2 ^ min attempt 30 < 2 ^ 128 := by
  have hmin : policy.minDelay.toNanos ≤ 18446744073709551616 * 1000000000 :=
    Nat.le_of_lt policy.minDelay.toNanos_lt
  have hproduct := Nat.mul_le_mul hmin (factor_le attempt)
  omega

theorem toNat_rawNanos (policy : ExponentialBackoffRetry) (attempt : Nat) :
    (policy.rawNanos attempt).toNat = policy.minDelay.toNanos * 2 ^ min attempt 30 := by
  rw [rawNanos, BitVec.toNat_mul, Duration.toNat_asNanos, toNat_factor]
  exact Nat.mod_eq_of_lt (policy.product_lt attempt)

theorem noOverflow (policy : ExponentialBackoffRetry) (attempt : Nat) :
    policy.NoOverflow attempt where
  minDelay := policy.minDelay.nanosFit
  maxDelay := policy.maxDelay.nanosFit
  shift := by omega
  product := by
    have hlt := policy.product_lt attempt
    rw [BitVec.umulOverflow, Duration.toNat_asNanos, toNat_factor, decide_eq_false_iff_not]
    omega

theorem toNat_cappedNanos (policy : ExponentialBackoffRetry) (attempt : Nat) :
    (policy.cappedNanos attempt).toNat =
      Retry.delay policy.minDelay.toNanos policy.maxDelay.toNanos 30 attempt := by
  rw [cappedNanos, Retry.delay, ← toNat_rawNanos, ← Duration.toNat_asNanos]
  split
  · rename_i hle
    exact (Nat.min_eq_left hle).symm
  · rename_i hlt
    exact (Nat.min_eq_right (Nat.le_of_not_le hlt)).symm

/-- Without jitter the delay is the capped doubling, cut at `u64::MAX`. -/
theorem toNanos_computeDelay {policy : ExponentialBackoffRetry}
    (hjitter : policy.jitter = false) (draw : Draw) (attempt : Nat) :
    (policy.computeDelay draw attempt).toNanos =
      min (Retry.delay policy.minDelay.toNanos policy.maxDelay.toNanos 30 attempt)
        (UInt64.size - 1) := by
  have hsize : UInt64.size = 18446744073709551616 := rfl
  rw [computeDelay, hjitter, Duration.toNanos_fromNanos]
  simp only [Bool.false_eq_true, if_false, toNat_cappedNanos]
  rw [UInt64.toNat_ofNat']
  exact Nat.mod_eq_of_lt (by omega)

/-- What `compute_delay` promises, whatever the attempt. -/
structure SoundDelays (policy : ExponentialBackoffRetry) (draw : Draw) : Prop where
  noOverflow (attempt : Nat) : policy.NoOverflow attempt
  le_maxDelay (attempt : Nat) : policy.computeDelay draw attempt ≤ policy.maxDelay
  mono (a b : Nat) : a ≤ b → policy.computeDelay draw a ≤ policy.computeDelay draw b
  /-- The clamp of the shift is not seen if the cap is reached before it. -/
  documented : policy.maxDelay.toNanos ≤ 2 ^ 30 * policy.minDelay.toNanos →
    policy.maxDelay.toNanos ≤ UInt64.size - 1 →
      ∀ attempt, (policy.computeDelay draw attempt).toNanos =
        min (policy.minDelay.toNanos * 2 ^ attempt) policy.maxDelay.toNanos

end ExponentialBackoffRetry

/-- Without jitter the delays never overflow, never exceed `max_delay`, never
decrease, and are the documented ones where `max_delay` is reached in time. -/
theorem computeDelay_sound {policy : ExponentialBackoffRetry}
    (hjitter : policy.jitter = false) (draw : Draw) : policy.SoundDelays draw where
  noOverflow := policy.noOverflow
  le_maxDelay attempt := by
    rw [Duration.le_iff_toNanos, policy.toNanos_computeDelay hjitter]
    exact (Nat.min_le_left _ _).trans (Retry.delay_le_cap _ _ _ _)
  mono a b hab := by
    rw [Duration.le_iff_toNanos, policy.toNanos_computeDelay hjitter,
      policy.toNanos_computeDelay hjitter]
    exact min_le_min (Retry.delay_mono _ _ _ hab) le_rfl
  documented hcap hfits attempt := by
    have hreached : policy.maxDelay.toNanos ≤ policy.minDelay.toNanos * 2 ^ 30 := by
      rwa [Nat.mul_comm] at hcap
    have hle := Retry.delay_le_cap policy.minDelay.toNanos policy.maxDelay.toNanos 30 attempt
    rw [policy.toNanos_computeDelay hjitter, Nat.min_eq_left (hle.trans hfits),
      Retry.delay_eq_of_cap_le hreached]

namespace Sample

/-- A tenth of a second, doubled up to one second. -/
def policy : ExponentialBackoffRetry where
  minDelay := .fromNanos 100000000
  maxDelay := .fromNanos 1000000000
  maxAttempts := 3
  jitter := false
  hasOnRetry := true

end Sample

open Sample in
theorem computeDelay_sound_sample :
    policy.computeDelay id 20 ≤ policy.maxDelay ∧
      (policy.computeDelay id 3).toNanos = 800000000 := by
  have hsound : policy.SoundDelays id := computeDelay_sound rfl id
  have hmin : policy.minDelay.toNanos = 100000000 := by decide
  have hmax : policy.maxDelay.toNanos = 1000000000 := by decide
  refine ⟨hsound.le_maxDelay 20, ?_⟩
  rw [hsound.documented (by rw [hmin, hmax]; omega) (by rw [hmax]; decide) 3, hmin, hmax]
  rfl

open Sample in
example : policy.computeDelay id 20 = .fromNanos 1000000000 := by decide

end AngzarrClient
