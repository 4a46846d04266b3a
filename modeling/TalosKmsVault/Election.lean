import TalosKmsVault.Lease

/-!
# `ElectionController`: leadership state and hook dispatch

The controller keeps `isLeader`, `currentLeader`, `lastLeaderChange` and three counters under
its mutex. Three functions change `isLeader`: `updateLeadershipState` (after a successful
`AcquireLease` and `GetLeaseInfo`), `stepDown` (after a failed `AcquireLease` while leading)
and `releaseLeadershipOnExit` (when the loop ends). Each may call the `OnStartedLeading` or
`OnStoppedLeading` hook. Here the backend is an oracle: a pass of `tryAcquireLease` is given
what `AcquireLease` and `GetLeaseInfo` returned (`Attempt`), so a list of attempts is any run of
the loop. The shared lease and the interleaving with other controllers are in
`TalosKmsVault.Cluster`, which calls the same functions.

**Theorem (`dispatches_alternate`).** When the two hooks are both set or both unset, as every
caller in the repository builds them, each call of a hook coincides with a flip of `isLeader` in
its direction, the calls of a run alternate starting with `OnStartedLeading`, and a run that
exits while leading calls `OnStoppedLeading` exactly once on exit, whether the release failed
or not. With only `OnStartedLeading` set, a run that leads, loses and leads again calls it
twice in a row (`started_hook_only_repeats`).

**Theorem (`step_down_flip_uncounted`).** Only `updateLeadershipState` counts a change in
`leadershipChanges` and `lastLeaderChange`; a step-down and the exit of a leader flip `isLeader`
and leave both as they were, so the counter misses those flips.
-/

namespace TalosKmsVault

/-- Which hooks of `LeaderElectionCallbacks` are set (non-nil). What a hook does is the
application's; the controller only decides when to call it. -/
structure LeaderElectionCallbacks where
  onStartedLeading : Bool
  onStoppedLeading : Bool
  onNewLeader : Bool
  deriving DecidableEq, Repr

/-- A hook call the controller dispatched. -/
inductive Dispatch
  | startedLeading
  | stoppedLeading
  | newLeader (identity : String)
  deriving DecidableEq, Repr

/-- The state `ElectionController` keeps under its mutex. The counters are int64. -/
structure ElectionController where
  isLeader : Bool
  currentLeader : String
  lastLeaderChange : Int
  leadershipChanges : Int
  acquisitionErrors : Int
  renewalErrors : Int
  deriving DecidableEq, Repr

/-- The state `NewElectionController` starts from: not leading, no known leader. -/
def ElectionController.initial : ElectionController :=
  ⟨false, "", zeroTime, 0, 0, 0⟩

/-- `NewElectionController`, which fails through `NewLeaseManager` on an empty identity. -/
def newElectionController (config : LeaseConfig) : Except String ElectionController :=
  if config.identity = "" then
    .error "failed to create lease manager: lease identity cannot be empty"
  else .ok .initial

/-- The call of the `OnStartedLeading` (`true`) or `OnStoppedLeading` (`false`) hook, if set. -/
def callLeadership (callbacks : LeaderElectionCallbacks) (started : Bool) : List Dispatch :=
  if started then (if callbacks.onStartedLeading then [.startedLeading] else [])
  else if callbacks.onStoppedLeading then [.stoppedLeading] else []

variable (callbacks : LeaderElectionCallbacks)

/-- `updateLeadershipState`: `isLeader` becomes the `AcquireLease` result, `currentLeader` the
holder `GetLeaseInfo` read; a change of either is counted and timed, a change of `isLeader`
calls the matching hook, a change of leader calls `OnNewLeader`. -/
def updateLeadershipState (now : Int) (ec : ElectionController) (acquired : Bool)
    (leaseInfo : LeaseInfo) : ElectionController × List Dispatch :=
  let leadershipChanged := ec.isLeader != acquired
  let leaderChanged := decide (ec.currentLeader ≠ leaseInfo.holderIdentity)
  let ec' := { ec with isLeader := acquired, currentLeader := leaseInfo.holderIdentity }
  let ec' := if leadershipChanged || leaderChanged then
      { ec' with lastLeaderChange := now, leadershipChanges := wrapInt 64 (ec.leadershipChanges + 1) }
    else ec'
  (ec', (if leadershipChanged then callLeadership callbacks acquired else []) ++
    if leaderChanged && callbacks.onNewLeader then [.newLeader leaseInfo.holderIdentity] else [])

def stepDown (ec : ElectionController) : ElectionController × List Dispatch :=
  ({ ec with isLeader := false }, if ec.isLeader then callLeadership callbacks false else [])

/-- The error branch of `tryAcquireLease`: the error is counted as an acquisition error while
leading and as a renewal error otherwise, and a leader steps down. -/
def onAcquireError (ec : ElectionController) : ElectionController × List Dispatch :=
  if ec.isLeader then stepDown callbacks { ec with acquisitionErrors := wrapInt 64 (ec.acquisitionErrors + 1) }
  else ({ ec with renewalErrors := wrapInt 64 (ec.renewalErrors + 1) }, [])

/-- What one pass of `tryAcquireLease` saw: `AcquireLease` failed; or it returned `acquired`
and `GetLeaseInfo` failed; or both returned. -/
inductive Attempt
  | acquireError
  | infoError (acquired : Bool)
  | ok (acquired : Bool) (leaseInfo : LeaseInfo)

/-- `tryAcquireLease`, at time `now`. A failed `GetLeaseInfo` leaves the state alone. -/
def tryAcquireLease (now : Int) (ec : ElectionController) :
    Attempt → ElectionController × List Dispatch
  | .acquireError => onAcquireError callbacks ec
  | .infoError _ => (ec, [])
  | .ok acquired leaseInfo => updateLeadershipState callbacks now ec acquired leaseInfo

/-- `releaseLeadershipOnExit`: `ReleaseLease` runs only when leading, and its failure is only
logged, so the hook is called either way. -/
def releaseLeadershipOnExit (ec : ElectionController) (_releaseFailed : Bool) :
    ElectionController × List Dispatch :=
  ({ ec with isLeader := false }, if ec.isLeader then callLeadership callbacks false else [])

/-- The loop of `run`: one `tryAcquireLease` per tick, with its time and attempt. -/
def runLoop (ec : ElectionController) : List (Int × Attempt) → ElectionController × List Dispatch
  | [] => (ec, [])
  | (now, a) :: rest =>
    let r := tryAcquireLease callbacks now ec a
    let r' := runLoop r.1 rest
    (r'.1, r.2 ++ r'.2)

/-- `run`: the loop, then `releaseLeadershipOnExit` when stop or cancellation is observed. -/
def run (ec : ElectionController) (attempts : List (Int × Attempt)) (releaseFailed : Bool) :
    ElectionController × List Dispatch :=
  let r := runLoop callbacks ec attempts
  let r' := releaseLeadershipOnExit callbacks r.1 releaseFailed
  (r'.1, r.2 ++ r'.2)

/-! ## What each function sets -/

section Fields

variable (now : Int) (ec : ElectionController) (acquired : Bool) (leaseInfo : LeaseInfo)

@[simp] theorem updateLeadershipState_isLeader :
    (updateLeadershipState callbacks now ec acquired leaseInfo).1.isLeader = acquired := by
  dsimp only [updateLeadershipState]; split <;> rfl

@[simp] theorem updateLeadershipState_currentLeader :
    (updateLeadershipState callbacks now ec acquired leaseInfo).1.currentLeader =
      leaseInfo.holderIdentity := by
  dsimp only [updateLeadershipState]; split <;> rfl

@[simp] theorem stepDown_isLeader : (stepDown callbacks ec).1.isLeader = false := rfl

@[simp] theorem onAcquireError_isLeader : (onAcquireError callbacks ec).1.isLeader = false := by
  unfold onAcquireError; split <;> simp_all

@[simp] theorem releaseLeadershipOnExit_isLeader (releaseFailed : Bool) :
    (releaseLeadershipOnExit callbacks ec releaseFailed).1.isLeader = false := rfl

end Fields

/-! ## Hook calls follow the flips of `isLeader` -/

/-- The leadership hook a dispatch calls: `true` for `OnStartedLeading`, `false` for
`OnStoppedLeading`. -/
def Dispatch.leadership : Dispatch → Option Bool
  | .startedLeading => some true
  | .stoppedLeading => some false
  | .newLeader _ => none

/-- The leadership hook calls among `ds`, in order. -/
def leadershipCalls (ds : List Dispatch) : List Bool := ds.filterMap Dispatch.leadership

/-- `l` alternates between `true` and `false`, starting with `b`. -/
def Alternating : Bool → List Bool → Prop
  | _, [] => True
  | b, x :: xs => x = b ∧ Alternating (!b) xs

instance decAlternating : ∀ b l, Decidable (Alternating b l)
  | _, [] => isTrue trivial
  | b, x :: xs =>
    haveI := decAlternating (!b) xs
    inferInstanceAs (Decidable (x = b ∧ Alternating (!b) xs))

/-- The hook call a flip of `isLeader` from `before` to `after` should make, when hooks are set. -/
def flipCalls (set before after : Bool) : List Bool := if set && before != after then [after] else []

/-- A flip's calls keep a sequence alternating: if the calls after the flip alternate from
`!after`, the whole alternates from `!before`. -/
theorem alternating_flipCalls {before after : Bool} {rest : List Bool}
    (h : Alternating (!after) rest) : Alternating (!before) (flipCalls true before after ++ rest) := by
  cases before <;> cases after <;> simp_all [flipCalls, Alternating]

@[simp] theorem leadershipCalls_append (l₁ l₂ : List Dispatch) :
    leadershipCalls (l₁ ++ l₂) = leadershipCalls l₁ ++ leadershipCalls l₂ :=
  List.filterMap_append l₁ l₂ _

@[simp] theorem leadershipCalls_nil : leadershipCalls [] = [] := rfl

section Paired

variable {callbacks}
variable (hp : callbacks.onStartedLeading = callbacks.onStoppedLeading)
include hp

theorem leadershipCalls_callLeadership (b : Bool) :
    leadershipCalls (callLeadership callbacks b) = if callbacks.onStartedLeading then [b] else [] := by
  cases b <;> cases h : callbacks.onStartedLeading <;>
    simp_all [callLeadership, leadershipCalls, Dispatch.leadership]

theorem stepDown_calls (ec : ElectionController) :
    leadershipCalls (stepDown callbacks ec).2 =
      flipCalls callbacks.onStartedLeading ec.isLeader (stepDown callbacks ec).1.isLeader := by
  cases h : ec.isLeader <;> simp [stepDown, flipCalls, h, leadershipCalls_callLeadership hp]

theorem updateLeadershipState_calls (now : Int) (ec : ElectionController) (acquired : Bool)
    (leaseInfo : LeaseInfo) :
    leadershipCalls (updateLeadershipState callbacks now ec acquired leaseInfo).2 =
      flipCalls callbacks.onStartedLeading ec.isLeader acquired := by
  have hn : leadershipCalls (if decide (ec.currentLeader ≠ leaseInfo.holderIdentity) &&
      callbacks.onNewLeader then [.newLeader leaseInfo.holderIdentity] else []) = [] := by
    split <;> rfl
  simp only [updateLeadershipState, leadershipCalls_append, hn, List.append_nil, flipCalls]
  split <;> simp [*, leadershipCalls_callLeadership hp]

/-- **Each hook call of a pass of `tryAcquireLease` is a flip of `isLeader`.** -/
theorem tryAcquireLease_calls (now : Int) (ec : ElectionController) (a : Attempt) :
    leadershipCalls (tryAcquireLease callbacks now ec a).2 =
      flipCalls callbacks.onStartedLeading ec.isLeader (tryAcquireLease callbacks now ec a).1.isLeader := by
  cases a with
  | acquireError =>
    by_cases h : ec.isLeader
    · rw [tryAcquireLease, onAcquireError, if_pos h]
      exact stepDown_calls hp _
    · simp [tryAcquireLease, onAcquireError, h, flipCalls]
  | infoError => simp [tryAcquireLease, flipCalls, leadershipCalls]
  | ok acquired leaseInfo =>
    rw [tryAcquireLease, updateLeadershipState_isLeader]
    exact updateLeadershipState_calls hp now ec acquired leaseInfo

theorem runLoop_alternating (hs : callbacks.onStartedLeading = true) (ec : ElectionController)
    (attempts : List (Int × Attempt)) {rest : List Bool}
    (h : Alternating (!(runLoop callbacks ec attempts).1.isLeader) rest) :
    Alternating (!ec.isLeader) (leadershipCalls (runLoop callbacks ec attempts).2 ++ rest) := by
  induction attempts generalizing ec with
  | nil => simpa [runLoop, leadershipCalls] using h
  | cons na attempts ih =>
    simp only [runLoop, leadershipCalls_append, List.append_assoc,
      tryAcquireLease_calls hp, hs] at h ⊢
    exact alternating_flipCalls (ih _ h)

theorem releaseLeadershipOnExit_calls (ec : ElectionController) (releaseFailed : Bool) :
    leadershipCalls (releaseLeadershipOnExit callbacks ec releaseFailed).2 =
      flipCalls callbacks.onStartedLeading ec.isLeader false :=
  stepDown_calls hp ec

end Paired

theorem runLoop_calls_of_unset (hs : callbacks.onStartedLeading = false)
    (hp : callbacks.onStartedLeading = callbacks.onStoppedLeading) (ec : ElectionController)
    (attempts : List (Int × Attempt)) : leadershipCalls (runLoop callbacks ec attempts).2 = [] := by
  induction attempts generalizing ec with
  | nil => rfl
  | cons na attempts ih => simp [runLoop, tryAcquireLease_calls hp, hs, flipCalls, ih]

/-- The law of hook calls: every call of a pass of the loop, and of the exit, is a flip of
`isLeader` in its direction; exit while leading calls `OnStoppedLeading` once, whatever the
release did; and the calls of every run, ended or not, alternate from `OnStartedLeading`. -/
def DispatchLaw (callbacks : LeaderElectionCallbacks) : Prop :=
  (∀ now ec a, leadershipCalls (tryAcquireLease callbacks now ec a).2 =
    flipCalls callbacks.onStartedLeading ec.isLeader (tryAcquireLease callbacks now ec a).1.isLeader) ∧
  (∀ ec releaseFailed, (releaseLeadershipOnExit callbacks ec releaseFailed).2 =
    if ec.isLeader && callbacks.onStoppedLeading then [.stoppedLeading] else []) ∧
  (∀ attempts, Alternating true (leadershipCalls (runLoop callbacks .initial attempts).2)) ∧
  (∀ attempts releaseFailed,
    Alternating true (leadershipCalls (run callbacks .initial attempts releaseFailed).2))

/-- **Hook calls alternate.** With both leadership hooks set or both unset, the calls follow
the flips of `isLeader`. -/
theorem dispatches_alternate (hp : callbacks.onStartedLeading = callbacks.onStoppedLeading) :
    DispatchLaw callbacks := by
  refine ⟨tryAcquireLease_calls hp, fun ec _ => ?_, fun attempts => ?_, fun attempts rf => ?_⟩
  · cases hl : ec.isLeader <;> cases h : callbacks.onStoppedLeading <;>
      simp [releaseLeadershipOnExit, callLeadership, h, hl]
  · cases hs : callbacks.onStartedLeading
    · simp [runLoop_calls_of_unset callbacks hs hp, Alternating]
    · simpa using runLoop_alternating hp hs .initial attempts (show Alternating _ [] from trivial)
  · cases hs : callbacks.onStartedLeading
    · simp [run, runLoop_calls_of_unset callbacks hs hp, releaseLeadershipOnExit_calls hp, hs,
        flipCalls, Alternating]
    · simp only [run, leadershipCalls_append, releaseLeadershipOnExit_calls hp, hs]
      refine runLoop_alternating hp hs .initial attempts ?_
      cases (runLoop callbacks .initial attempts).1.isLeader <;> simp [flipCalls, Alternating]

/-- The law for a controller with every hook set, as every `CallbackBuilder` bundle is. -/
theorem dispatchLaw_all_hooks :
    (⟨true, true, true⟩ : LeaderElectionCallbacks).onStartedLeading =
      (⟨true, true, true⟩ : LeaderElectionCallbacks).onStoppedLeading ∧
    DispatchLaw ⟨true, true, true⟩ :=
  ⟨rfl, dispatches_alternate _ rfl⟩

/-- Lead, lose, lead. -/
def leadLoseLead : List (Int × Attempt) :=
  [(0, .ok true ⟨"A", true, 0, 0, 0, 15000000000⟩),
    (2000000000, .ok false ⟨"B", false, 2000000000, 2000000000, 1, 15000000000⟩),
    (4000000000, .ok true ⟨"A", true, 4000000000, 4000000000, 2, 15000000000⟩)]

/-- With only `OnStartedLeading` set, a run that leads, loses and leads again calls it twice in
a row, with no `OnStoppedLeading` between. -/
theorem started_hook_only_repeats :
    leadershipCalls (runLoop ⟨true, false, true⟩ .initial leadLoseLead).2 = [true, true] ∧
      ¬ DispatchLaw ⟨true, false, true⟩ := by
  have h : leadershipCalls (runLoop ⟨true, false, true⟩ .initial leadLoseLead).2 = [true, true] := by
    decide
  exact ⟨h, fun hl => absurd (hl.2.2.1 leadLoseLead) (by rw [h]; decide)⟩

/-! ## The leadership-change counter

`updateLeadershipState` counts a change of `isLeader` or of `currentLeader` in
`leadershipChanges` (int64) and times it in `lastLeaderChange`. `stepDown` and
`releaseLeadershipOnExit` clear `isLeader` and touch neither, so the counter misses every flip
they make. -/

/-- Whether a pass is a step-down: `AcquireLease` failed while leading. -/
def Attempt.isStepDown (ec : ElectionController) : Attempt → Bool
  | .acquireError => ec.isLeader
  | _ => false

/-- The flips of `isLeader` along a run of the loop from `ec`. -/
def loopFlips (ec : ElectionController) : List (Int × Attempt) → Nat
  | [] => 0
  | (now, a) :: rest =>
    let ec' := (tryAcquireLease callbacks now ec a).1
    (if ec'.isLeader = ec.isLeader then 0 else 1) + loopFlips ec' rest

/-- The step-downs along a run of the loop from `ec`. -/
def loopStepDowns (ec : ElectionController) : List (Int × Attempt) → Nat
  | [] => 0
  | (now, a) :: rest =>
    (if a.isStepDown ec then 1 else 0) + loopStepDowns (tryAcquireLease callbacks now ec a).1 rest

/-- What a pass does to the counter: it leaves the counter and its time alone, and then flips
`isLeader` only by stepping down, or it counts a change at `now`. -/
theorem tryAcquireLease_leadershipChanges (now : Int) (ec : ElectionController) (a : Attempt) :
    ((tryAcquireLease callbacks now ec a).1.leadershipChanges = ec.leadershipChanges ∧
      (tryAcquireLease callbacks now ec a).1.lastLeaderChange = ec.lastLeaderChange ∧
      ((tryAcquireLease callbacks now ec a).1.isLeader ≠ ec.isLeader → a.isStepDown ec = true)) ∨
    ((tryAcquireLease callbacks now ec a).1.leadershipChanges = wrapInt 64 (ec.leadershipChanges + 1) ∧
      (tryAcquireLease callbacks now ec a).1.lastLeaderChange = now) := by
  cases a with
  | acquireError =>
    left
    by_cases h : ec.isLeader <;> simp [tryAcquireLease, onAcquireError, stepDown, Attempt.isStepDown, h]
  | infoError => exact .inl ⟨rfl, rfl, fun h => absurd rfl h⟩
  | ok acquired leaseInfo =>
    simp only [tryAcquireLease, updateLeadershipState]
    split
    · exact .inr ⟨rfl, rfl⟩
    · rename_i h
      simp only [Bool.or_eq_true, not_or, bne_iff_ne, ne_eq, Decidable.not_not] at h
      exact .inl ⟨rfl, rfl, fun h' => absurd h.1.symm h'⟩

/-- One pass below the int64 limit: a flip is counted or is a step-down, and the counter
moves up by at most one. -/
theorem tryAcquireLease_flip_counted (now : Int) (ec : ElectionController) (a : Attempt)
    (h₀ : 0 ≤ ec.leadershipChanges) (hlt : ec.leadershipChanges + 1 < 2 ^ 63) :
    ec.leadershipChanges + (if (tryAcquireLease callbacks now ec a).1.isLeader = ec.isLeader
          then 0 else 1 : Nat) ≤
        (tryAcquireLease callbacks now ec a).1.leadershipChanges + (if a.isStepDown ec then 1 else 0 : Nat) ∧
      ec.leadershipChanges ≤ (tryAcquireLease callbacks now ec a).1.leadershipChanges ∧
      (tryAcquireLease callbacks now ec a).1.leadershipChanges ≤ ec.leadershipChanges + 1 := by
  rcases tryAcquireLease_leadershipChanges callbacks now ec a with ⟨hc, -, hf⟩ | ⟨hc, -⟩
  · rw [hc]
    by_cases hl : (tryAcquireLease callbacks now ec a).1.isLeader = ec.isLeader
    · rw [if_pos hl]; split <;> omega
    · rw [if_neg hl, if_pos (hf hl)]; omega
  · rw [hc, wrapInt_of_lt (by decide) (by omega) (by omega)]
    split <;> split <;> omega

theorem runLoop_flips_le (ec : ElectionController) (attempts : List (Int × Attempt))
    (h₀ : 0 ≤ ec.leadershipChanges) (hlen : ec.leadershipChanges + attempts.length < 2 ^ 63) :
    ec.leadershipChanges + loopFlips callbacks ec attempts ≤
      (runLoop callbacks ec attempts).1.leadershipChanges + loopStepDowns callbacks ec attempts := by
  induction attempts generalizing ec with
  | nil => simp [loopFlips, loopStepDowns, runLoop]
  | cons na rest ih =>
    obtain ⟨now, a⟩ := na
    simp only [List.length_cons, Nat.cast_add, Nat.cast_one] at hlen
    have hpass := tryAcquireLease_flip_counted callbacks now ec a h₀ (by omega)
    have := ih (tryAcquireLease callbacks now ec a).1 (by omega) (by omega)
    simp only [loopFlips, loopStepDowns, runLoop, Nat.cast_add] at this ⊢
    omega

/-- **`leadershipChanges` misses the flips of `stepDown` and of the exit.** Every pass that
flips `isLeader` either steps down, leaving the counter and `lastLeaderChange` as they were,
or counts the change (in int64) at its time; `releaseLeadershipOnExit` leaves both alone. So
over every run from a new controller, short enough that the counter cannot wrap, the flips
of `isLeader` are at most `leadershipChanges` plus the step-downs. -/
theorem leadershipChanges_counts_update_flips :
    (∀ now ec a,
      ((tryAcquireLease callbacks now ec a).1.leadershipChanges = ec.leadershipChanges ∧
        (tryAcquireLease callbacks now ec a).1.lastLeaderChange = ec.lastLeaderChange ∧
        ((tryAcquireLease callbacks now ec a).1.isLeader ≠ ec.isLeader → a.isStepDown ec = true)) ∨
      ((tryAcquireLease callbacks now ec a).1.leadershipChanges = wrapInt 64 (ec.leadershipChanges + 1) ∧
        (tryAcquireLease callbacks now ec a).1.lastLeaderChange = now)) ∧
    (∀ ec releaseFailed,
      (releaseLeadershipOnExit callbacks ec releaseFailed).1.leadershipChanges = ec.leadershipChanges ∧
      (releaseLeadershipOnExit callbacks ec releaseFailed).1.lastLeaderChange = ec.lastLeaderChange) ∧
    ∀ attempts : List (Int × Attempt), attempts.length < 2 ^ 63 →
      (loopFlips callbacks .initial attempts : Int) ≤
        (runLoop callbacks .initial attempts).1.leadershipChanges +
          loopStepDowns callbacks .initial attempts :=
  ⟨tryAcquireLease_leadershipChanges callbacks, fun _ _ => ⟨rfl, rfl⟩, fun attempts hlen => by
    have := runLoop_flips_le callbacks .initial attempts le_rfl
      (by show (0 : Int) + attempts.length < 2 ^ 63; omega)
    simpa [ElectionController.initial] using this⟩

/-- A controller that leads after one pass and then fails to renew. -/
def leadThenFail : List (Int × Attempt) :=
  [(0, .ok true ⟨"A", true, 0, 0, 0, 15000000000⟩), (2000000000, .acquireError)]

/-- A step-down and the exit of a leader each flip `isLeader` and leave `leadershipChanges`
and `lastLeaderChange` as they were. So a controller that leads after one pass and then fails to
renew has flipped twice with one count, and its exit is a flip no count records. -/
theorem step_down_flip_uncounted :
    (∀ cb now (ec : ElectionController), ec.isLeader = true →
      (tryAcquireLease cb now ec .acquireError).1.isLeader = false ∧
      (tryAcquireLease cb now ec .acquireError).1.leadershipChanges = ec.leadershipChanges ∧
      (tryAcquireLease cb now ec .acquireError).1.lastLeaderChange = ec.lastLeaderChange) ∧
    (∀ cb (ec : ElectionController) releaseFailed, ec.isLeader = true →
      (releaseLeadershipOnExit cb ec releaseFailed).1.isLeader = false ∧
      (releaseLeadershipOnExit cb ec releaseFailed).1.leadershipChanges = ec.leadershipChanges ∧
      (releaseLeadershipOnExit cb ec releaseFailed).1.lastLeaderChange = ec.lastLeaderChange) ∧
    ¬ (∀ attempts, (loopFlips ⟨true, true, true⟩ .initial attempts : Int) ≤
        (runLoop ⟨true, true, true⟩ .initial attempts).1.leadershipChanges) ∧
    loopFlips ⟨true, true, true⟩ .initial leadThenFail = 2 ∧
    (runLoop ⟨true, true, true⟩ .initial leadThenFail).1.leadershipChanges = 1 ∧
    (run ⟨true, true, true⟩ .initial (leadThenFail.take 1) false).1.isLeader = false ∧
    (run ⟨true, true, true⟩ .initial (leadThenFail.take 1) false).1.leadershipChanges = 1 := by
  have h₂ : loopFlips ⟨true, true, true⟩ .initial leadThenFail = 2 := by decide
  have h₁ : (runLoop ⟨true, true, true⟩ .initial leadThenFail).1.leadershipChanges = 1 := by decide
  refine ⟨fun _ _ ec h => by simp [tryAcquireLease, onAcquireError, stepDown, h],
    fun _ _ _ _ => ⟨rfl, rfl, rfl⟩, fun h => absurd (h leadThenFail) (by rw [h₁, h₂]; decide), h₂, h₁,
    by decide, by decide⟩

end TalosKmsVault
