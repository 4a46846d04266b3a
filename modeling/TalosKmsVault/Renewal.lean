import TalosKmsVault.Lease

/-!
# The token-renewal loop of `Manager`

`renewalLoop` waits `sleepDuration`, then sets the next wait from what it observed.

**The waits.** After a check that finds no renewal due, a successful `Renew`, or a failed
`Renew` followed by a successful `Authenticate`, the next wait is `calculateRenewalSleep`: an
hour for a TTL of zero, and otherwise half the TTL, truncated toward zero and clamped to
`[10s, 1h]`. A nil client gives ten seconds. A failed `Renew` followed by a failed
`Authenticate` doubles the wait, in int64 arithmetic, and caps it at five minutes with the
package's own `min`.

**The oracle.** What the authenticator reports (`ShouldRenew`, the results of `Renew` and
`Authenticate`, and each `GetTokenTTL`), and whether the client the loop reads is nil, are
given per wake-up (`Tick`), so a list of ticks is any run of the loop. A TTL is any integer.
Cancellation only ends the loop; the waits before it are those of the ticks so far.

**Theorem (`renewal_sleep_bounded`).** Every wait of every run lies in `[10s, 1h]`. The clamp
gives the bound after each computed wait, and the backoff, from a wait of at most an hour,
stays below two hours before the cap, far from the int64 range.
-/

namespace TalosKmsVault

namespace Auth

/-- `time.Second`, in nanoseconds. -/
def second : Int := 1000000000

def minute : Int := 60 * second

def hour : Int := 60 * minute

/-- The package's `min` of two durations. -/
protected def min (a b : Int) : Int := if a < b then a else b

/-- `calculateRenewalSleep`, given what `GetTokenTTL` returned. Go's `/` truncates toward
zero. -/
def calculateRenewalSleep (ttl : Int) : Int :=
  if ttl = 0 then hour
  else
    let sleep := ttl.tdiv 2
    if sleep < 10 * second then 10 * second
    else if sleep > hour then hour
    else sleep

/-- What one wake-up of the loop observed. `ttl` is what `GetTokenTTL` returns when
`calculateRenewalSleep` reads it. -/
structure Tick where
  shouldRenew : Bool
  clientNil : Bool
  renew : Except String Unit
  authenticate : Except String Unit
  ttl : Int

/-- The next `sleepDuration` after one wake-up. -/
def tick (sleepDuration : Int) (t : Tick) : Int :=
  if !t.shouldRenew then calculateRenewalSleep t.ttl
  else if t.clientNil then 10 * second
  else match t.renew with
    | .ok () => calculateRenewalSleep t.ttl
    | .error _ =>
      match t.authenticate with
      | .ok () => calculateRenewalSleep t.ttl
      | .error _ => Auth.min (wrapInt 64 (sleepDuration * 2)) (5 * minute)

/-- `renewalLoop` from the wait `sleepDuration` through the given wake-ups: the waits, in
order. The loop starts from `calculateRenewalSleep`. -/
def renewalLoop (sleepDuration : Int) : List Tick → List Int
  | [] => [sleepDuration]
  | t :: ts => sleepDuration :: renewalLoop (tick sleepDuration t) ts

/-! ## The bound -/

/-- A wait between ten seconds and an hour. -/
def SleepBounded (d : Int) : Prop := 10 * second ≤ d ∧ d ≤ hour

theorem calculateRenewalSleep_bounded (ttl : Int) : SleepBounded (calculateRenewalSleep ttl) := by
  unfold calculateRenewalSleep SleepBounded hour minute second
  dsimp only
  split_ifs <;> omega

/-- The backoff from a bounded wait: doubling cannot overflow, and the cap keeps it below an
hour. -/
theorem backoff_bounded {d : Int} (hd : SleepBounded d) :
    SleepBounded (Auth.min (wrapInt 64 (d * 2)) (5 * minute)) := by
  unfold SleepBounded hour minute second at *
  rw [wrapInt_of_lt (w := 64) (x := d * 2) (by decide) (by omega) (by omega)]
  unfold Auth.min
  split <;> omega

theorem tick_bounded {d : Int} (hd : SleepBounded d) (t : Tick) : SleepBounded (tick d t) := by
  unfold tick
  split
  · exact calculateRenewalSleep_bounded _
  split
  · unfold SleepBounded hour minute second; omega
  split
  · exact calculateRenewalSleep_bounded _
  split
  · exact calculateRenewalSleep_bounded _
  · exact backoff_bounded hd

theorem renewalLoop_bounded {d : Int} (hd : SleepBounded d) (ticks : List Tick) :
    ∀ x ∈ renewalLoop d ticks, SleepBounded x := by
  induction ticks generalizing d with
  | nil => simpa [renewalLoop] using hd
  | cons t ts ih =>
    simp only [renewalLoop, List.mem_cons, forall_eq_or_imp]
    exact ⟨hd, ih (tick_bounded hd t)⟩

/-- **The renewal loop never busy-spins.** Whatever the authenticator reports, TTLs of zero
or below included, every wait of every run lies in `[10s, 1h]`. -/
theorem renewal_sleep_bounded (ttl : Int) (ticks : List Tick) {d : Int}
    (hd : d ∈ renewalLoop (calculateRenewalSleep ttl) ticks) : 10 * second ≤ d ∧ d ≤ hour :=
  renewalLoop_bounded (calculateRenewalSleep_bounded ttl) ticks d hd

/-- A token with no TTL, then two failed renewals: the waits are an hour, then the backoff
capped at five minutes, twice. -/
theorem renewal_sleep_bounded_run :
    5 * minute ∈ renewalLoop (calculateRenewalSleep 0)
        [⟨true, false, .error "", .error "", 0⟩, ⟨true, false, .error "", .error "", 0⟩] ∧
      10 * second ≤ 5 * minute ∧ 5 * minute ≤ hour :=
  have h : 5 * minute ∈ renewalLoop (calculateRenewalSleep 0)
      [⟨true, false, .error "", .error "", 0⟩, ⟨true, false, .error "", .error "", 0⟩] := by
    decide
  ⟨h, renewal_sleep_bounded 0 _ h⟩

end Auth

end TalosKmsVault
