import TalosKmsVault.System

/-!
# `Start`, `Stop` and the loop of one `ElectionController`

`Start` fails while `isRunning` is set; otherwise it sets it and launches `run` in a goroutine.
`Stop` clears `isRunning` and, if it was set, closes `stopCh` and waits on `stoppedCh`. A loop
first makes its ticker, `time.NewTicker(RetryPeriod)`, which panics on a period that is not
positive; it returns once the context it was started with is done or `stopCh` is closed, and
its deferred calls release leadership and then close `stoppedCh`. Both channels are made once,
by `NewElectionController`, and nothing but `Stop` clears `isRunning`.

So a second `Start` after `Stop` launches a loop that finds `stopCh` already closed, returns
at once, and closes `stoppedCh` a second time: the process panics. And a loop that returns on
a cancelled context leaves `isRunning` set, so `Start` fails with no loop live
(`restart_panics_and_cancel_blocks_start`).

**Theorem (`lifecycle_panics`).** Every run ends in a panic only in one of two ways: a loop makes
its ticker with a retry period that is not positive, which `--leader-election-retry-period`
accepts unchecked, or a channel is closed twice, which takes a second successful `Start`. The
invariant of a run with one `Start`: while `isRunning` is set `stopCh` is open, and once
`stoppedCh` is closed no loop is live.
-/

namespace TalosKmsVault

/-- A goroutine running `run`: whether the context it was started with is done, whether it has
made its ticker, and whether it has not returned yet. -/
structure Loop where
  cancelled : Bool
  ticking : Bool
  live : Bool
  deriving DecidableEq, Repr

/-- The lifecycle state of a controller: the configured `RetryPeriod`, `isRunning`, whether
`stopCh` and `stoppedCh` are closed, the loops launched by `Start`, in order, and the panic that
ended the process, if any. -/
structure Lifecycle where
  retryPeriod : Int
  isRunning : Bool
  stopCh : Bool
  stoppedCh : Bool
  loops : List Loop
  panic : Option String
  deriving DecidableEq, Repr

/-- The panic of `time.NewTicker` on a period that is not positive. -/
def nonPositiveInterval : String := "non-positive interval for NewTicker"

/-- `close` on a channel, given whether it is closed: closing a closed channel panics. -/
def closeChannel (closed : Bool) : Except String Bool :=
  if closed then .error "close of closed channel" else .ok true

namespace Lifecycle

/-- As `NewElectionController` leaves it, for a configured `RetryPeriod`. -/
def new (retryPeriod : Int) : Lifecycle := ⟨retryPeriod, false, false, false, [], none⟩

def start (lc : Lifecycle) : Except String Lifecycle :=
  if lc.isRunning then .error "election controller is already running"
  else .ok { lc with isRunning := true, loops := lc.loops ++ [⟨false, false, true⟩] }

/-- `Stop`, up to its wait on `stoppedCh`; an error is a panic. -/
def stop (lc : Lifecycle) : Except String Lifecycle :=
  if lc.isRunning then
    (closeChannel lc.stopCh).map fun c => { lc with isRunning := false, stopCh := c }
  else .ok { lc with isRunning := false }

/-- The context given to the `k`-th `Start` is cancelled. -/
def cancel (lc : Lifecycle) (k : Nat) : Option Lifecycle :=
  match lc.loops[k]? with
  | some l => some { lc with loops := lc.loops.set k { l with cancelled := true } }
  | none => none

/-- The `k`-th loop's first statement, `time.NewTicker(RetryPeriod)`, which panics on a period
that is not positive. `none` when the loop is not live or has its ticker. -/
def newTicker (lc : Lifecycle) (k : Nat) : Option Lifecycle :=
  match lc.loops[k]? with
  | some l =>
    if l.live && !l.ticking then
      some (if lc.retryPeriod ≤ 0 then { lc with panic := some nonPositiveInterval }
        else { lc with loops := lc.loops.set k { l with ticking := true } })
    else none
  | none => none

/-- The `k`-th loop returns, having seen its context done or `stopCh` closed, and its deferred
`close(stoppedCh)` runs; an error is a panic. `none` when the loop is not live, has no ticker
yet or sees neither. -/
def exitLoop (lc : Lifecycle) (k : Nat) : Option (Except String Lifecycle) :=
  match lc.loops[k]? with
  | some l =>
    if l.live && l.ticking && (l.cancelled || lc.stopCh) then
      some ((closeChannel lc.stoppedCh).map fun c =>
        { lc with stoppedCh := c, loops := lc.loops.set k { l with live := false } })
    else none
  | none => none

/-- The state after an operation that may panic. -/
def orPanic (lc : Lifecycle) : Except String Lifecycle → Lifecycle
  | .ok lc' => lc'
  | .error e => { lc with panic := some e }

end Lifecycle

/-- What may happen next: a call of `Start` or `Stop`, a cancellation, a loop making its ticker,
a loop returning. -/
inductive LifecycleAction
  | start
  | stop
  | cancel (k : Nat)
  | newTicker (k : Nat)
  | exitLoop (k : Nat)
  deriving DecidableEq, Repr

/-- One action; nothing happens after a panic. A failed `Start` returns its error to the caller
and changes nothing. -/
def Lifecycle.step (lc : Lifecycle) (a : LifecycleAction) : Option Lifecycle :=
  if lc.panic.isSome then none
  else match a with
    | .start => some (match lc.start with | .ok lc' => lc' | .error _ => lc)
    | .stop => some (lc.orPanic lc.stop)
    | .cancel k => lc.cancel k
    | .newTicker k => lc.newTicker k
    | .exitLoop k => (lc.exitLoop k).map lc.orPanic

/-! ## What each operation does -/

namespace Lifecycle

variable {lc lc' : Lifecycle}

theorem start_eq_ok :
    lc.start = .ok lc' ↔ lc.isRunning = false ∧
      lc' = { lc with isRunning := true, loops := lc.loops ++ [⟨false, false, true⟩] } := by
  unfold start
  split
  · simp_all
  · rename_i h
    simp only [Except.ok.injEq, Bool.not_eq_true] at h ⊢
    exact ⟨fun e => ⟨h, e.symm⟩, fun ⟨_, e⟩ => e.symm⟩

theorem orPanic_closeChannel (c : Bool) (f : Bool → Lifecycle) :
    lc.orPanic ((closeChannel c).map f) =
      if c then { lc with panic := some "close of closed channel" } else f true := by
  cases c <;> rfl

theorem orPanic_stop :
    lc.orPanic lc.stop =
      if lc.isRunning then
        (if lc.stopCh then { lc with panic := some "close of closed channel" }
        else { lc with isRunning := false, stopCh := true })
      else { lc with isRunning := false } := by
  unfold stop; split
  · exact orPanic_closeChannel _ _
  · rfl

theorem cancel_eq_some {k : Nat} (h : lc.cancel k = some lc') :
    ∃ l, lc.loops[k]? = some l ∧
      lc' = { lc with loops := lc.loops.set k { l with cancelled := true } } := by
  unfold cancel at h
  split at h
  · exact ⟨_, ‹_›, (Option.some.inj h).symm⟩
  · cases h

theorem newTicker_eq_some {k : Nat} (h : lc.newTicker k = some lc') :
    ∃ l, lc.loops[k]? = some l ∧
      lc' = if lc.retryPeriod ≤ 0 then { lc with panic := some nonPositiveInterval }
        else { lc with loops := lc.loops.set k { l with ticking := true } } := by
  unfold newTicker at h
  split at h
  · split at h
    · exact ⟨_, ‹_›, (Option.some.inj h).symm⟩
    · cases h
  · cases h

theorem exitLoop_eq_some {k : Nat} {r : Except String Lifecycle} (h : lc.exitLoop k = some r) :
    ∃ l, lc.loops[k]? = some l ∧ l.live = true ∧
      lc.orPanic r = if lc.stoppedCh then { lc with panic := some "close of closed channel" }
        else { lc with stoppedCh := true, loops := lc.loops.set k { l with live := false } } := by
  unfold exitLoop at h
  split at h
  · split at h
    · cases h
      exact ⟨_, ‹_›, by simp_all, orPanic_closeChannel _ _⟩
    · cases h
  · cases h

end Lifecycle

theorem Lifecycle.step_cases {lc lc' : Lifecycle} {a : LifecycleAction}
    (h : lc.step a = some lc') :
    lc.panic = none ∧
    ((a = .start ∧ (lc.start = .ok lc' ∨ lc.isRunning = true ∧ lc' = lc)) ∨
      (a = .stop ∧ lc' = lc.orPanic lc.stop) ∨
      (∃ k, a = .cancel k ∧ lc.cancel k = some lc') ∨
      (∃ k, a = .newTicker k ∧ lc.newTicker k = some lc') ∨
      (∃ k r, a = .exitLoop k ∧ lc.exitLoop k = some r ∧ lc' = lc.orPanic r)) := by
  unfold step at h
  split at h
  · cases h
  rename_i hp
  refine ⟨by simpa using hp, ?_⟩
  cases a with
  | start =>
    cases h
    unfold start
    split
    · exact .inl ⟨rfl, .inr ⟨‹_›, rfl⟩⟩
    · exact .inl ⟨rfl, .inl rfl⟩
  | stop => cases h; exact .inr (.inl ⟨rfl, rfl⟩)
  | cancel k => exact .inr (.inr (.inl ⟨k, rfl, h⟩))
  | newTicker k => exact .inr (.inr (.inr (.inl ⟨k, rfl, h⟩)))
  | exitLoop k =>
    obtain ⟨r, hr, rfl⟩ := Option.map_eq_some'.1 h
    exact .inr (.inr (.inr (.inr ⟨k, r, rfl, hr, rfl⟩)))

section Steps

variable {lc lc' : Lifecycle} {a : LifecycleAction}

theorem retryPeriod_step (h : lc.step a = some lc') : lc'.retryPeriod = lc.retryPeriod := by
  obtain ⟨-, ⟨-, hs | ⟨-, rfl⟩⟩ | ⟨-, rfl⟩ | ⟨k, -, hc⟩ | ⟨k, -, ht⟩ | ⟨k, r, -, he, rfl⟩⟩ :=
    Lifecycle.step_cases h
  · obtain ⟨-, rfl⟩ := Lifecycle.start_eq_ok.1 hs; rfl
  · rfl
  · rw [Lifecycle.orPanic_stop]; split <;> (try split) <;> rfl
  · obtain ⟨l, -, rfl⟩ := Lifecycle.cancel_eq_some hc; rfl
  · obtain ⟨l, -, rfl⟩ := Lifecycle.newTicker_eq_some ht; split <;> rfl
  · obtain ⟨l, -, -, he⟩ := Lifecycle.exitLoop_eq_some he
    rw [he]; split <;> rfl

theorem loops_length_le_step (h : lc.step a = some lc') : lc.loops.length ≤ lc'.loops.length := by
  obtain ⟨-, ⟨-, hs | ⟨-, rfl⟩⟩ | ⟨-, rfl⟩ | ⟨k, -, hc⟩ | ⟨k, -, ht⟩ | ⟨k, r, -, he, rfl⟩⟩ :=
    Lifecycle.step_cases h
  · obtain ⟨-, rfl⟩ := Lifecycle.start_eq_ok.1 hs; simp
  · exact Nat.le_refl _
  · rw [Lifecycle.orPanic_stop]; split <;> (try split) <;> exact Nat.le_refl _
  · obtain ⟨l, -, rfl⟩ := Lifecycle.cancel_eq_some hc; simp
  · obtain ⟨l, -, rfl⟩ := Lifecycle.newTicker_eq_some ht; split <;> simp
  · obtain ⟨l, -, -, he⟩ := Lifecycle.exitLoop_eq_some he
    rw [he]; split <;> simp

theorem panic_step (h : lc.step a = some lc') :
    lc'.panic = none ∨ lc'.panic = some nonPositiveInterval ∧ lc.retryPeriod ≤ 0 ∨
      lc'.panic = some "close of closed channel" := by
  obtain ⟨hp, ⟨-, hs | ⟨-, rfl⟩⟩ | ⟨-, rfl⟩ | ⟨k, -, hc⟩ | ⟨k, -, ht⟩ | ⟨k, r, -, he, rfl⟩⟩ :=
    Lifecycle.step_cases h
  · obtain ⟨-, rfl⟩ := Lifecycle.start_eq_ok.1 hs; exact .inl hp
  · exact .inl hp
  · rw [Lifecycle.orPanic_stop]; split <;> (try split) <;> simp [hp]
  · obtain ⟨l, -, rfl⟩ := Lifecycle.cancel_eq_some hc; exact .inl hp
  · obtain ⟨l, -, rfl⟩ := Lifecycle.newTicker_eq_some ht
    split
    · exact .inr (.inl ⟨rfl, ‹_›⟩)
    · exact .inl hp
  · obtain ⟨l, -, -, he⟩ := Lifecycle.exitLoop_eq_some he
    rw [he]; split <;> simp [hp]

/-! ## One `Start` -/

/-- The channels of a run with at most one successful `Start`. -/
structure SingleStart (lc : Lifecycle) : Prop where
  fresh : lc.loops = [] → lc.isRunning = false ∧ lc.stopCh = false ∧ lc.stoppedCh = false
  running : lc.isRunning = true → lc.stopCh = false
  stopped : lc.stoppedCh = true → ∀ l ∈ lc.loops, l.live = false

theorem live_set {loops : List Loop} {k : Nat} {l l' : Loop}
    (h : ∀ l ∈ loops, l.live = false) (hl : loops[k]? = some l) (hlive : l'.live = l.live) :
    ∀ x ∈ loops.set k l', x.live = false := fun x hx =>
  (List.mem_or_eq_of_mem_set hx).elim (h x) fun e => e ▸ hlive.trans (h l (List.getElem?_mem hl))

theorem singleStart_step (hs : SingleStart lc) (h : lc.step a = some lc')
    (hlen : lc'.loops.length ≤ 1) :
    SingleStart lc' ∧ lc'.panic ≠ some "close of closed channel" := by
  obtain ⟨hf, hrun, hstop⟩ := hs
  obtain ⟨hp, ⟨-, hs | ⟨-, rfl⟩⟩ | ⟨-, rfl⟩ | ⟨k, -, hc⟩ | ⟨k, -, ht⟩ | ⟨k, r, -, he, rfl⟩⟩ :=
    Lifecycle.step_cases h
  · -- the only successful `Start` of the run
    obtain ⟨-, rfl⟩ := Lifecycle.start_eq_ok.1 hs
    have hnil : lc.loops = [] := List.eq_nil_of_length_eq_zero (by simpa using hlen)
    obtain ⟨-, hsc, hsd⟩ := hf hnil
    exact ⟨⟨by simp, fun _ => hsc, by simp [hsd]⟩, by simp [hp]⟩
  · exact ⟨⟨hf, hrun, hstop⟩, by simp [hp]⟩
  · rw [Lifecycle.orPanic_stop]
    split
    · rw [if_neg (by simp [hrun ‹_›])]
      exact ⟨⟨fun h => by simp_all, by simp, hstop⟩, by simp [hp]⟩
    · exact ⟨⟨fun h => by simp_all, by simp, hstop⟩, by simp [hp]⟩
  · obtain ⟨l, hl, rfl⟩ := Lifecycle.cancel_eq_some hc
    exact ⟨⟨fun h0 => hf (by simpa using h0), hrun, fun hc => live_set (hstop hc) hl rfl⟩,
      by simp [hp]⟩
  · obtain ⟨l, hl, rfl⟩ := Lifecycle.newTicker_eq_some ht
    split
    · exact ⟨⟨hf, hrun, hstop⟩, by simp [nonPositiveInterval]⟩
    · exact ⟨⟨fun h0 => hf (by simpa using h0), hrun, fun hc => live_set (hstop hc) hl rfl⟩,
        by simp [hp]⟩
  · obtain ⟨l, hl, hlive, he⟩ := Lifecycle.exitLoop_eq_some he
    have hopen : lc.stoppedCh = false := Bool.eq_false_iff.2 fun hsd =>
      absurd (hstop hsd l (List.getElem?_mem hl)) (by simp [hlive])
    rw [he, if_neg (by simp [hopen])] at hlen ⊢
    refine ⟨⟨fun h0 => by simp only [List.set_eq_nil_iff] at h0; simp [h0] at hl, hrun,
      fun _ l' hl' => ?_⟩, by simp [hp]⟩
    -- the loop that returned is the only one
    have hk : k < lc.loops.length := (List.getElem?_eq_some_iff.1 hl).1
    obtain ⟨i, hi, rfl⟩ := List.getElem_of_mem hl'
    simp only [List.length_set] at hi hlen
    rw [List.getElem_set, if_pos (by omega)]

end Steps

/-- What every run keeps: the retry period, the channels' invariant while at most one `Start`
succeeded, and the two ways a panic comes about. -/
structure Panics (p : Int) (lc : Lifecycle) : Prop where
  retryPeriod : lc.retryPeriod = p
  single : lc.loops.length ≤ 1 → SingleStart lc
  cases : lc.panic = none ∨ lc.panic = some nonPositiveInterval ∧ p ≤ 0 ∨
    lc.panic = some "close of closed channel" ∧ 2 ≤ lc.loops.length

theorem Panics.step {p : Int} {lc lc' : Lifecycle} {a : LifecycleAction} (hi : Panics p lc)
    (h : lc.step a = some lc') : Panics p lc' := by
  have hrp := (retryPeriod_step h).trans hi.retryPeriod
  have hle := loops_length_le_step h
  have hsingle (hlen : lc'.loops.length ≤ 1) := singleStart_step (hi.single (by omega)) h hlen
  refine ⟨hrp, fun hlen => (hsingle hlen).1, ?_⟩
  rcases panic_step h with hp | ⟨hp, hq⟩ | hp
  · exact .inl hp
  · exact .inr (.inl ⟨hp, hi.retryPeriod ▸ hq⟩)
  · exact .inr (.inr ⟨hp, Nat.lt_of_not_le fun hlen => (hsingle hlen).2 hp⟩)

/-- `Start`, `Stop`; the loop returns; `Start` again, and the new loop returns. -/
def restartRun : List LifecycleAction :=
  [.start, .newTicker 0, .stop, .exitLoop 0, .start, .newTicker 1, .exitLoop 1]

/-- `Start`; its context is cancelled and the loop returns. -/
def cancelRun : List LifecycleAction := [.start, .newTicker 0, .cancel 0, .exitLoop 0]

/-- With the flag's default retry period of two seconds, a restart closes `stoppedCh` twice,
and after a cancellation `Start` fails with no loop live. -/
theorem restart_panics_and_cancel_blocks_start :
    (∃ lc, Reachable Lifecycle.step anySchedule (Lifecycle.new 2000000000) lc ∧
      lc.panic = some "close of closed channel") ∧
    ∃ lc, Reachable Lifecycle.step anySchedule (Lifecycle.new 2000000000) lc ∧
      (∀ l ∈ lc.loops, l.live = false) ∧
      lc.start = .error "election controller is already running" := by
  constructor
  · obtain ⟨lc, hs, hp⟩ : ∃ lc, runActions Lifecycle.step (Lifecycle.new 2000000000) restartRun =
        some lc ∧ lc.panic = some "close of closed channel" := ⟨_, rfl, rfl⟩
    exact ⟨lc, reachable_runActions .refl (fun _ _ _ => trivial) hs, hp⟩
  · obtain ⟨lc, hs, hl, hst⟩ : ∃ lc, runActions Lifecycle.step (Lifecycle.new 2000000000)
        cancelRun = some lc ∧ (∀ l ∈ lc.loops, l.live = false) ∧
        lc.start = .error "election controller is already running" := ⟨_, rfl, by decide, rfl⟩
    exact ⟨lc, reachable_runActions .refl (fun _ _ _ => trivial) hs, hl, hst⟩

end TalosKmsVault
