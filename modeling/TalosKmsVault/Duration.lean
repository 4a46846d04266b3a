import Mathlib.Tactic.Ring
import Mathlib.Data.Nat.Defs

/-!
# Durations and `int32(d.Seconds())`

A `time.Duration` is a count of nanoseconds and a `time.Time` is modelled the same way, as an
`Int` of nanoseconds. `createLease` stores the configured lease duration as
`int32(lm.config.LeaseDuration.Seconds())`, and `canAcquireLease` reads it back as
`time.Duration(*lease.Spec.LeaseDurationSeconds) * time.Second`.

`Duration.Seconds` computes `float64(sec) + float64(nsec)/1e9`, where `sec` and `nsec` are the
quotient and remainder of the nanosecond count by `1e9`, truncated toward zero. Each float64
operation returns the binary64 value nearest to the exact result, ties to even. We compute with
these values exactly, as fractions `num / den` of naturals: `roundBinary64 a b` is the binary64
value nearest to `a / b`. Every value here lies in the normal range, so neither overflow nor
subnormals arise. The conversion to `int32` truncates toward zero. Out of the `int32` range the
Go specification leaves the result to the implementation; `gc` on amd64 (`CVTTSD2SL`) gives
`-2^31`, which is the value we take.

**Theorem (`toInt32_seconds_whole`).** A duration that is a whole number of seconds in the
`int32` range is stored exactly. The other durations are not: `1.5s` is stored as one second.
The float rounding matters only past `2^24` seconds, where `Seconds` can round up to the next
whole second.
-/

namespace TalosKmsVault

/-- `⌊log₂ n⌋`, halving at most `fuel` times. `Nat.log2` is well-founded and does not reduce, so
`decide` could not evaluate a rounding through it. -/
def log2Fuel : Nat → Nat → Nat
  | 0, _ => 0
  | fuel + 1, n => if n < 2 then 0 else log2Fuel fuel (n / 2) + 1

/-- `a / d` rounded to the nearest natural number, ties to even. -/
def divRoundEven (a d : Nat) : Nat :=
  let q := a / d
  let r := a % d
  if 2 * r < d then q else if d < 2 * r then q + 1 else if q % 2 = 0 then q else q + 1

/-- The exponent `p` with `2 ^ p ≤ a / b < 2 ^ (p + 1)`, for `a, b > 0`. The difference of the
two logarithms is `p` or `p + 1`; one comparison decides. -/
def binade (a b : Nat) : Int :=
  let p : Int := (log2Fuel a a : Int) - log2Fuel b b
  if b * 2 ^ p.toNat ≤ a * 2 ^ (-p).toNat then p else p - 1

/-- The binary64 value nearest to `a / b`, ties to even, as a fraction. Its significand has 53
bits: the scale `2 ^ (52 - p)` brings `a / b` into `[2 ^ 52, 2 ^ 53)`. -/
def roundBinary64 (a b : Nat) : Nat × Nat :=
  let k : Int := 52 - binade a b
  (divRoundEven (a * 2 ^ k.toNat) (b * 2 ^ (-k).toNat) * 2 ^ (-k).toNat, 2 ^ k.toNat)

/-- `d.Seconds()` for `d ≥ 0`: `float64(sec) + float64(nsec)/1e9`, as a fraction. -/
def secondsAbs (d : Nat) : Nat × Nat :=
  let s := roundBinary64 (d / 1000000000) 1
  let n := roundBinary64 (d % 1000000000) 1
  let q := roundBinary64 n.1 (n.2 * 1000000000)
  roundBinary64 (s.1 * q.2 + q.1 * s.2) (s.2 * q.2)

/-- `d.Seconds()`. Truncating division and nearest rounding are odd functions, so a negative
duration gives the negated value of its absolute value. -/
def seconds (d : Int) : Int × Nat :=
  let x := secondsAbs d.natAbs
  (d.sign * x.1, x.2)

/-- `int32(x)` for a float64 `x`: truncation toward zero, and `-2^31` out of range. -/
def toInt32 (x : Int × Nat) : Int :=
  let t := x.1.tdiv x.2
  if -2 ^ 31 ≤ t ∧ t < 2 ^ 31 then t else -2 ^ 31

/-! ## The logarithm and the binade -/

theorem pow_log2Fuel_le (fuel : Nat) {n : Nat} (hn : 0 < n) : 2 ^ log2Fuel fuel n ≤ n := by
  induction fuel generalizing n with
  | zero => simpa [log2Fuel] using hn
  | succ fuel ih =>
    simp only [log2Fuel]
    split
    · simpa using hn
    · have := ih (n := n / 2) (by omega)
      rw [Nat.pow_succ]
      omega

theorem lt_pow_log2Fuel (fuel : Nat) {n : Nat} (hn : n < 2 ^ (fuel + 1)) :
    n < 2 ^ (log2Fuel fuel n + 1) := by
  induction fuel generalizing n with
  | zero => simpa [log2Fuel] using hn
  | succ fuel ih =>
    simp only [log2Fuel]
    split
    · simpa using ‹n < 2›
    · have := ih (n := n / 2) (by rw [Nat.pow_succ] at hn; omega)
      rw [Nat.pow_succ]
      omega

theorem lt_pow_log2Fuel_self (n : Nat) : n < 2 ^ (log2Fuel n n + 1) :=
  lt_pow_log2Fuel n (Nat.lt_trans (Nat.lt_two_pow n) (Nat.pow_lt_pow_right (by decide) (by omega)))

/-- Comparing `2 ^ q` with `a / b` for an integer exponent `q = x - y`. -/
theorem scale_le_iff {a b x y : Nat} {q : Int} (hq : q = (x : Int) - y) :
    b * 2 ^ q.toNat ≤ a * 2 ^ (-q).toNat ↔ b * 2 ^ x ≤ a * 2 ^ y := by
  have hxy : q.toNat + y = x + (-q).toNat := by omega
  have hl : b * 2 ^ q.toNat * 2 ^ y = b * 2 ^ x * 2 ^ (-q).toNat := by
    rw [Nat.mul_assoc, ← Nat.pow_add, hxy, Nat.pow_add, Nat.mul_assoc]
  have hr : a * 2 ^ (-q).toNat * 2 ^ y = a * 2 ^ y * 2 ^ (-q).toNat := Nat.mul_right_comm _ _ _
  constructor
  · intro h
    exact Nat.le_of_mul_le_mul_right (hl ▸ hr ▸ Nat.mul_le_mul_right _ h) (Nat.two_pow_pos _)
  · intro h
    exact Nat.le_of_mul_le_mul_right (hl ▸ hr ▸ Nat.mul_le_mul_right _ h) (Nat.two_pow_pos _)

theorem binade_le (ha : 0 < a) :
    b * 2 ^ (binade a b).toNat ≤ a * 2 ^ (-binade a b).toNat := by
  unfold binade
  dsimp only
  split
  · assumption
  · rw [scale_le_iff (x := log2Fuel a a) (y := log2Fuel b b + 1) (by push_cast; ring)]
    calc b * 2 ^ log2Fuel a a ≤ 2 ^ (log2Fuel b b + 1) * a :=
          Nat.mul_le_mul (lt_pow_log2Fuel_self b).le (pow_log2Fuel_le a ha)
      _ = a * 2 ^ (log2Fuel b b + 1) := Nat.mul_comm _ _

/-! ## Exact values are not rounded -/

@[simp] theorem divRoundEven_mul (n : Nat) {d : Nat} (hd : 0 < d) : divRoundEven (n * d) d = n := by
  simp [divRoundEven, hd, Nat.mul_div_cancel _ hd]

@[simp] theorem divRoundEven_zero (d : Nat) : divRoundEven 0 d = 0 := by
  simp [divRoundEven]

theorem roundBinary64_den_pos (a b : Nat) : 0 < (roundBinary64 a b).2 := Nat.two_pow_pos _

/-- **A value `m / 2 ^ j` with a 53-bit significand is its own binary64 rounding.** -/
theorem roundBinary64_exact {a b m j : Nat} (hb : 0 < b) (hm : m < 2 ^ 53)
    (h : a * 2 ^ j = m * b) : (roundBinary64 a b).1 * 2 ^ j = m * (roundBinary64 a b).2 := by
  rcases Nat.eq_zero_or_pos a with rfl | ha
  · obtain rfl : m = 0 := by simpa [hb.ne'] using h.symm
    simp [roundBinary64]
  set p := binade a b
  have hp := binade_le (b := b) ha
  -- `2 ^ p ≤ a / b = m / 2 ^ j < 2 ^ (53 - j)`, so the scale `52 - p` is at least `j`.
  have hpj : p.toNat + j < 53 + (-p).toNat := by
    have : b * 2 ^ (p.toNat + j) < b * 2 ^ (53 + (-p).toNat) := by
      calc b * 2 ^ (p.toNat + j) = b * 2 ^ p.toNat * 2 ^ j := by rw [Nat.pow_add, Nat.mul_assoc]
        _ ≤ a * 2 ^ (-p).toNat * 2 ^ j := Nat.mul_le_mul_right _ hp
        _ = m * b * 2 ^ (-p).toNat := by rw [Nat.mul_right_comm, h]
        _ < 2 ^ 53 * b * 2 ^ (-p).toNat :=
          Nat.mul_lt_mul_of_pos_right (Nat.mul_lt_mul_of_pos_right hm hb) (Nat.two_pow_pos _)
        _ = b * 2 ^ (53 + (-p).toNat) := by rw [Nat.pow_add]; ring
    exact (Nat.pow_lt_pow_iff_right (by decide)).mp (Nat.lt_of_mul_lt_mul_left this)
  obtain ⟨t, ht⟩ : ∃ t, (52 - p).toNat = t + j := ⟨(52 - p).toNat - j, by omega⟩
  have hk : (-(52 - p)).toNat = 0 := by omega
  simp only [roundBinary64, ← show p = binade a b from rfl, hk, ht, Nat.pow_zero, Nat.mul_one,
    Nat.pow_add, ← Nat.mul_assoc, h, Nat.mul_right_comm m b]
  rw [Nat.mul_right_comm a, h, Nat.mul_right_comm m, divRoundEven_mul _ hb]

/-! ## Whole seconds -/

theorem secondsAbs_whole {s : Nat} (hs : s < 2 ^ 53) :
    (secondsAbs (s * 1000000000)).1 = s * (secondsAbs (s * 1000000000)).2 := by
  have hsec : (roundBinary64 s 1).1 = s * (roundBinary64 s 1).2 := by
    simpa using roundBinary64_exact (j := 0) Nat.one_pos hs (by simp)
  have hzero (b : Nat) (hb : 0 < b) : (roundBinary64 0 b).1 = 0 := by
    simpa using roundBinary64_exact (m := 0) (j := 0) hb (by decide) (by simp)
  have hn := hzero 1 Nat.one_pos
  simp only [secondsAbs, Nat.mul_div_cancel _ (show 0 < 1000000000 by decide), Nat.mul_mod_left, hn,
    hzero _ (Nat.mul_pos (roundBinary64_den_pos 0 1) (show 0 < 1000000000 by decide)), Nat.zero_mul, Nat.add_zero]
  simpa [hsec, Nat.mul_assoc] using roundBinary64_exact (j := 0) (Nat.mul_pos
    (roundBinary64_den_pos s 1) (roundBinary64_den_pos _ _)) hs (by simp [hsec, Nat.mul_assoc])

/-- **A whole number of seconds in the `int32` range is stored exactly.** -/
theorem toInt32_seconds_whole {s : Nat} (hs : s < 2 ^ 31) :
    toInt32 (seconds (s * 1000000000 : Nat)) = s := by
  have hx := secondsAbs_whole (s := s) (by omega)
  have hd := roundBinary64_den_pos
  rcases Nat.eq_zero_or_pos s with rfl | hpos
  · simp [toInt32, seconds]
  · have hsign : ((s * 1000000000 : Nat) : Int).sign = 1 :=
      Int.sign_eq_one_of_pos (by omega)
    have hq : ((s * (secondsAbs (s * 1000000000)).2 : Nat) : Int).tdiv
        ((secondsAbs (s * 1000000000)).2 : Nat) = s := by
      rw [Nat.cast_mul, Int.mul_tdiv_cancel _ (by simp [secondsAbs, (hd _ _).ne'])]
    simp only [toInt32, seconds, hsign, Int.natAbs_ofNat, Int.one_mul, hx, hq]
    split_ifs with h
    · rfl
    · omega

end TalosKmsVault
