import TalosKmsVault.Duration
import TalosKmsVault.System

/-!
# The lease document and the `LeaseManager` functions

A `coordinationv1.Lease` is modelled by its `Spec`, each pointer field an `Option`. The lease
manager reads the lease, decides from it (`canAcquireLease`), and writes back a document built
from what it read (`updateLease`, the release in `ReleaseLease`) or a fresh one (`createLease`).
This module gives each of those documents as a function of the read and the clock; the store
and the interleaving of reads and writes are in `TalosKmsVault.Cluster`.

`canAcquireLease` dereferences `LeaseDurationSeconds` without a nil check once the holder and the
renew time are set; we return `none` there, for the panic.
-/

namespace TalosKmsVault

/-- An integer reduced into the range of a signed `w`-bit integer: Go's signed arithmetic wraps. -/
def wrapInt (w : Nat) (x : Int) : Int := (x + 2 ^ (w - 1)) % 2 ^ w - 2 ^ (w - 1)

theorem wrapInt_of_lt {w : Nat} {x : Int} (hw : 0 < w) (h₁ : -(2 ^ (w - 1) : Int) ≤ x)
    (h₂ : x < 2 ^ (w - 1)) : wrapInt w x = x := by
  have hpow : (2 : Int) ^ w = 2 ^ (w - 1) * 2 := by rw [← pow_succ, Nat.sub_add_cancel hw]
  unfold wrapInt
  rw [Int.emod_eq_of_lt (by omega) (by omega)]
  omega

theorem wrapInt_add (w : Nat) (x y : Int) : wrapInt w (wrapInt w x + y) = wrapInt w (x + y) := by
  unfold wrapInt
  rw [show (x + 2 ^ (w - 1)) % 2 ^ w - 2 ^ (w - 1) + y + 2 ^ (w - 1) = (x + 2 ^ (w - 1)) % 2 ^ w + y by
    ring, Int.emod_add_emod, show x + 2 ^ (w - 1) + y = x + y + 2 ^ (w - 1) by ring]

theorem wrapInt_wrapInt (w : Nat) (x : Int) : wrapInt w (wrapInt w x) = wrapInt w x := by
  simpa using wrapInt_add w x 0

/-- The `Spec` of a `coordinationv1.Lease`; `none` is a nil pointer. Times are nanoseconds, and
`leaseDurationSeconds`, `leaseTransitions` are int32 values. -/
structure LeaseSpec where
  holderIdentity : Option String
  leaseDurationSeconds : Option Int
  acquireTime : Option Int
  renewTime : Option Int
  leaseTransitions : Option Int
  deriving DecidableEq, Repr

/-- The fields of `LeaseConfig` the lease manager reads. -/
structure LeaseConfig where
  identity : String
  leaseDuration : Int
  deriving DecidableEq, Repr

/-- `canAcquireLease`: the holder may renew, a lease with no holder or no renew time is free, and
otherwise it is free once `renewTime + leaseDuration` is past. `none` is the panic of
`*lease.Spec.LeaseDurationSeconds` on a nil pointer. -/
def canAcquireLease (identity : String) (lease : LeaseSpec) (now : Int) : Option Bool :=
  if lease.holderIdentity = some identity then some true
  else if lease.holderIdentity = none then some true
  else match lease.renewTime with
    | none => some true
    | some renewTime =>
      lease.leaseDurationSeconds.map fun d => decide (renewTime + d * 1000000000 < now)

/-- The lease `createLease` creates. -/
def createLease (config : LeaseConfig) (now : Int) : LeaseSpec where
  holderIdentity := some config.identity
  leaseDurationSeconds := some (toInt32 (seconds config.leaseDuration))
  acquireTime := some now
  renewTime := some now
  leaseTransitions := some 0

/-- The lease `updateLease` writes over the read `lease`: a renewal sets the renew time, an
acquisition also the acquire time and the (int32) transition count. -/
def updateLease (identity : String) (lease : LeaseSpec) (now : Int) : LeaseSpec :=
  if lease.holderIdentity = some identity then
    { lease with holderIdentity := some identity, renewTime := some now }
  else
    { lease with
      holderIdentity := some identity, renewTime := some now, acquireTime := some now,
      leaseTransitions := some (match lease.leaseTransitions with
        | some t => wrapInt 32 (t + 1)
        | none => 1) }

/-- What `ReleaseLease` writes over the read `lease`: nothing unless this identity holds it, and
then the lease with holder, renew and acquire time cleared. -/
def releasedLease (identity : String) (lease : LeaseSpec) : Option LeaseSpec :=
  if lease.holderIdentity = some identity then
    some { lease with holderIdentity := none, renewTime := none, acquireTime := none }
  else none

/-- `time.Time{}`, in nanoseconds from the Unix epoch. -/
def zeroTime : Int := -62135596800000000000

/-- `LeaseInfo`, the snapshot `GetLeaseInfo` returns. -/
structure LeaseInfo where
  holderIdentity : String
  isLeader : Bool
  acquireTime : Int
  renewTime : Int
  leaseTransitions : Int
  leaseDuration : Int
  deriving DecidableEq, Repr

/-- `GetLeaseInfo` on a read lease: nil fields give Go's zero values. -/
def getLeaseInfo (identity : String) (lease : LeaseSpec) : LeaseInfo where
  holderIdentity := lease.holderIdentity.getD ""
  isLeader := decide (lease.holderIdentity = some identity)
  acquireTime := lease.acquireTime.getD zeroTime
  renewTime := lease.renewTime.getD zeroTime
  leaseTransitions := lease.leaseTransitions.getD 0
  leaseDuration := lease.leaseDurationSeconds.getD 0 * 1000000000

/-! ## What each write keeps -/

section Writes

variable (identity : String) (lease : LeaseSpec) (now : Int)

@[simp] theorem updateLease_holderIdentity :
    (updateLease identity lease now).holderIdentity = some identity := by
  unfold updateLease; split <;> rfl

@[simp] theorem updateLease_renewTime : (updateLease identity lease now).renewTime = some now := by
  unfold updateLease; split <;> rfl

@[simp] theorem updateLease_leaseDurationSeconds :
    (updateLease identity lease now).leaseDurationSeconds = lease.leaseDurationSeconds := by
  unfold updateLease; split <;> rfl

theorem releasedLease_eq_some {identity : String} {lease new : LeaseSpec}
    (h : releasedLease identity lease = some new) :
    lease.holderIdentity = some identity ∧
      new = { lease with holderIdentity := none, renewTime := none, acquireTime := none } := by
  unfold releasedLease at h
  split at h
  · exact ⟨‹_›, (Option.some.inj h).symm⟩
  · cases h

@[simp] theorem releasedLease_isSome {identity : String} {lease : LeaseSpec} :
    (releasedLease identity lease).isSome ↔ lease.holderIdentity = some identity := by
  unfold releasedLease; split <;> simp_all

theorem releasedLease_leaseDurationSeconds {identity : String} {lease new : LeaseSpec}
    (h : releasedLease identity lease = some new) :
    new.leaseDurationSeconds = lease.leaseDurationSeconds := by
  rw [(releasedLease_eq_some h).2]

end Writes

/-! ## When `canAcquireLease` answers -/

/-- `canAcquireLease` panics only on a lease with a holder other than the caller, a renew time,
and no duration. -/
theorem canAcquireLease_isSome {identity : String} {lease : LeaseSpec} (now : Int)
    (h : lease.leaseDurationSeconds.isSome) : (canAcquireLease identity lease now).isSome := by
  unfold canAcquireLease
  split_ifs
  · rfl
  · rfl
  · split
    · rfl
    · simpa using h

theorem canAcquireLease_eq_some_false {identity holder : String} {lease : LeaseSpec}
    {renew d now : Int} (hne : holder ≠ identity) (hh : lease.holderIdentity = some holder)
    (hr : lease.renewTime = some renew) (hd : lease.leaseDurationSeconds = some d)
    (hnow : now ≤ renew + d * 1000000000) : canAcquireLease identity lease now = some false := by
  simp [canAcquireLease, hh, hr, hd, hne, hnow]

/-! ## Runs of writes

`AcquireLease` and `ReleaseLease` write back a document built from the lease they read. Here
each write is made over the lease as it is, with no other write in between, and we follow the
transition count over a run of them from `createLease`. A run is any sequence of writes the
code makes: an acquisition where `canAcquireLease` answers true, a release by the holder. -/

/-- A write of the lease: the `updateLease` of `AcquireLease` by `identity` at `now`, or the
`Update` of `ReleaseLease` by `identity`. -/
inductive LeaseWrite
  | acquire (identity : String) (now : Int)
  | release (identity : String)
  deriving DecidableEq, Repr

/-- The lease after a write; `none` when the code does not write: `canAcquireLease` refuses,
or the releasing identity does not hold the lease. -/
def writeLease (lease : LeaseSpec) : LeaseWrite → Option LeaseSpec
  | .acquire identity now =>
    if canAcquireLease identity lease now = some true then some (updateLease identity lease now)
    else none
  | .release identity => releasedLease identity lease

/-- Whether a write is an acquisition by an identity that does not hold the lease. -/
def LeaseWrite.isTakeover (lease : LeaseSpec) : LeaseWrite → Bool
  | .acquire identity _ => lease.holderIdentity != some identity
  | .release _ => false

/-- A write, together with the number of takeovers so far. -/
def countedWrite (s : LeaseSpec × Nat) (w : LeaseWrite) : Option (LeaseSpec × Nat) :=
  (writeLease s.1 w).map fun l => (l, s.2 + if w.isTakeover s.1 then 1 else 0)

/-- What `updateLease` writes: holder and renew time always, acquire time and the int32
transition count only on a takeover. -/
theorem updateLease_eq (identity : String) (lease : LeaseSpec) (now : Int) :
    updateLease identity lease now =
      { lease with
        holderIdentity := some identity, renewTime := some now,
        acquireTime := (if lease.holderIdentity = some identity then lease.acquireTime else some now),
        leaseTransitions := (if lease.holderIdentity = some identity then lease.leaseTransitions
          else some (wrapInt 32 (lease.leaseTransitions.getD 0 + 1))) } := by
  unfold updateLease
  split
  · simp_all
  · cases lease.leaseTransitions <;> rfl

theorem updateLease_leaseTransitions (identity : String) (lease : LeaseSpec) (now : Int) :
    (updateLease identity lease now).leaseTransitions =
      if lease.holderIdentity = some identity then lease.leaseTransitions
      else some (wrapInt 32 (lease.leaseTransitions.getD 0 + 1)) := by
  rw [updateLease_eq]

/-- The transition count is the int32 image of the number of takeovers. -/
def TransitionsCounted (s : LeaseSpec × Nat) : Prop := s.1.leaseTransitions = some (wrapInt 32 s.2)

/-- What a write does to the transition count: one more, in int32 arithmetic, on a takeover,
and nothing otherwise. -/
theorem writeLease_leaseTransitions {lease l : LeaseSpec} {w : LeaseWrite}
    (h : writeLease lease w = some l) :
    l.leaseTransitions = if w.isTakeover lease then
      some (wrapInt 32 (lease.leaseTransitions.getD 0 + 1)) else lease.leaseTransitions := by
  cases w with
  | acquire identity now =>
    simp only [writeLease, Option.ite_none_right_eq_some, Option.some.injEq] at h
    obtain ⟨-, rfl⟩ := h
    by_cases hh : lease.holderIdentity = some identity <;>
      simp [updateLease_leaseTransitions, LeaseWrite.isTakeover, hh]
  | release identity =>
    obtain ⟨-, rfl⟩ := releasedLease_eq_some h
    rfl

theorem transitionsCounted_write {s s' : LeaseSpec × Nat} {w : LeaseWrite}
    (hs : TransitionsCounted s) (h : countedWrite s w = some s') :
    TransitionsCounted s' ∧ s.2 ≤ s'.2 ∧ s'.2 ≤ s.2 + 1 := by
  obtain ⟨l, hw, rfl⟩ := Option.map_eq_some'.1 h
  unfold TransitionsCounted at hs ⊢
  rw [writeLease_leaseTransitions hw]
  cases w.isTakeover s.1
  · rw [if_neg Bool.false_ne_true, if_neg Bool.false_ne_true, Nat.add_zero]
    exact ⟨hs, Nat.le_refl _, Nat.le_succ _⟩
  · rw [if_pos rfl, if_pos rfl, hs, Option.getD_some, wrapInt_add, Nat.cast_succ]
    exact ⟨rfl, Nat.le_succ _, Nat.le_refl _⟩

/-- **The transition count over a run of writes.** `updateLease` sets holder and renew time,
and on a takeover also the acquire time and the transition count plus one in int32 arithmetic
(one when absent); a release clears holder, renew and acquire time only. So over every run
from `createLease`, the count is the int32 image of the number of takeovers: it equals that
number, and so is non-negative and never decreases, while fewer than `2 ^ 31` takeovers have
been made. -/
theorem leaseTransitions_counts_takeovers :
    (∀ identity lease now, updateLease identity lease now =
      { lease with
        holderIdentity := some identity, renewTime := some now,
        acquireTime := (if lease.holderIdentity = some identity then lease.acquireTime else some now),
        leaseTransitions := (if lease.holderIdentity = some identity then lease.leaseTransitions
          else some (wrapInt 32 (lease.leaseTransitions.getD 0 + 1))) }) ∧
    (∀ identity lease new, releasedLease identity lease = some new →
      new = { lease with holderIdentity := none, renewTime := none, acquireTime := none }) ∧
    ∀ config now s, Reachable countedWrite anySchedule (createLease config now, 0) s →
      s.1.leaseTransitions = some (wrapInt 32 s.2) ∧
      (s.2 < 2 ^ 31 → s.1.leaseTransitions = some (s.2 : Int)) ∧
      ∀ w s', countedWrite s w = some s' → s.2 ≤ s'.2 ∧ s'.2 ≤ s.2 + 1 := by
  refine ⟨updateLease_eq, fun _ _ _ h => (releasedLease_eq_some h).2, fun config now s hr => ?_⟩
  have h₀ : TransitionsCounted (createLease config now, 0) :=
    show some 0 = some (wrapInt 32 ((0 : Nat) : Int)) by
      rw [Nat.cast_zero, wrapInt_of_lt (by decide) (by omega) (by omega)]
  have hs : TransitionsCounted s :=
    hr.induction _ h₀ fun _ _ _ hs _ h => (transitionsCounted_write hs h).1
  refine ⟨hs, fun hlt => ?_, fun w s' h => (transitionsCounted_write hs h).2⟩
  rw [hs, wrapInt_of_lt (by decide) (by omega) (by omega)]

/-- A release by the holder followed by its own acquisition is a takeover: after `k` such
pairs the count is the int32 image of `k`. -/
theorem reachable_takeovers (config : LeaseConfig) (now : Int) (k : Nat) :
    Reachable countedWrite anySchedule (createLease config now, 0)
      ({ createLease config now with leaseTransitions := some (wrapInt 32 k) }, k) := by
  induction k with
  | zero => exact .refl
  | succ k ih =>
    refine .tail (s := ({ createLease config now with
      holderIdentity := none, acquireTime := none, renewTime := none,
      leaseTransitions := some (wrapInt 32 k) }, k)) (.acquire config.identity now)
      (.tail (.release config.identity) ih trivial ?_) trivial ?_
    · simp [countedWrite, writeLease, releasedLease, LeaseWrite.isTakeover, createLease]
    · simp [countedWrite, writeLease, canAcquireLease, updateLease, LeaseWrite.isTakeover, createLease,
        wrapInt_add]

/-- At the int32 limit the count wraps: a takeover of a lease with `2 ^ 31 - 1` transitions
writes `-2 ^ 31`, and `2 ^ 31` takeovers from `createLease` leave the count at `-2 ^ 31`. -/
theorem leaseTransitions_wrap_at_int32 :
    updateLease "B" ⟨some "A", some 15, some 0, some 0, some (2 ^ 31 - 1)⟩ 20000000000 =
      ⟨some "B", some 15, some 20000000000, some 20000000000, some (-2 ^ 31)⟩ ∧
    ∃ s, Reachable countedWrite anySchedule (createLease ⟨"A", 15000000000⟩ 0, 0) s ∧
      s.2 = 2 ^ 31 ∧ s.1.leaseTransitions = some (-2 ^ 31) :=
  ⟨by decide, _, reachable_takeovers _ _ (2 ^ 31), rfl, by decide⟩

end TalosKmsVault
