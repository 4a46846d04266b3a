import TalosKmsVault.Election
import TalosKmsVault.System

/-!
# The leader-aware server and its gate

`LeaderAwareServer` forwards `Seal` and `Unseal` only when `checkLeadership()` holds, that is
when its own `isLeader` and `isActive` flags are both set. The flags follow the controller
only through the hooks `run()` installs: `BuildGracefulShutdownCallbacks` wraps
`OnBecomeLeader` and `OnLoseLeadership`, and the controller calls the hooks with `go` from
`updateLeadershipState` and `stepDown`, and directly from `releaseLeadershipOnExit`. Here a
hook call made with `go` is in flight until it runs, at any later point and in any order; the
call made on exit runs at once.

So the gate can be open while the controller does not lead: after a step-down the
`OnStoppedLeading` call may not have run yet, and an `OnStartedLeading` call still in flight
when the loop exits runs after the exit's `OnStoppedLeading` and leaves the gate open for good
(`gate_open_without_leadership`).

**Theorem (`gate_open_only_while_leading`).** If the hook calls run in the order they were
made, and the loop exits only once the leadership calls it made have run, then in every
reachable state the gate is open only when the controller leads or an `OnStoppedLeading`
call is still in flight.

The invariant `GateAgrees` has two parts: the last leadership call in flight, if any, is the
controller's `isLeader` (each call is a flip of `isLeader`, `tryAcquireLease_calls`); and when
none is in flight, an open gate means the controller leads.

`run()` builds two controllers from one configuration. The first, with no hooks, is the one
given to `NewLeaderAwareServer`; the second, with the hooks, is the one started. The
server's rejections, `/ready` and `GetLeadershipInfo` read the first, which never leaves its
initial state (`rejection_reads_unstarted_controller`).
-/

namespace TalosKmsVault

/-! ## The server -/

/-- The flags of `LeaderAwareServer`. -/
structure LeaderAwareServer where
  isLeader : Bool
  isActive : Bool
  deriving DecidableEq, Repr

namespace LeaderAwareServer

/-- `NewLeaderAwareServer`. -/
def new : LeaderAwareServer := ⟨false, false⟩

def onBecomeLeader (las : LeaderAwareServer) : LeaderAwareServer :=
  { las with isLeader := true, isActive := true }

def onLoseLeadership (las : LeaderAwareServer) : LeaderAwareServer :=
  { las with isLeader := false, isActive := false }

/-- `Stop`, on the flags; it then calls `Stop` on the controller the server holds. -/
def stop (las : LeaderAwareServer) : LeaderAwareServer :=
  { las with isActive := false, isLeader := false }

/-- `checkLeadership`: whether `Seal` and `Unseal` are forwarded. -/
def checkLeadership (las : LeaderAwareServer) : Bool := las.isLeader && las.isActive

def isReady (las : LeaderAwareServer) : Bool := las.isActive

/-- A hook call running against the server, with the hooks `run()` installs: the wrappers of
`BuildGracefulShutdownCallbacks` call `OnBecomeLeader` and `OnLoseLeadership` (their timeout
only bounds the wait), and `OnNewLeader` is `OnLeaderChange`, which only logs. -/
def deliver (las : LeaderAwareServer) : Dispatch → LeaderAwareServer
  | .startedLeading => las.onBecomeLeader
  | .stoppedLeading => las.onLoseLeadership
  | .newLeader _ => las

@[simp] theorem checkLeadership_onLoseLeadership (las : LeaderAwareServer) :
    las.onLoseLeadership.checkLeadership = false := rfl

@[simp] theorem checkLeadership_stop (las : LeaderAwareServer) : las.stop.checkLeadership = false :=
  rfl

end LeaderAwareServer

/-! ## What the server answers -/

/-- The gRPC status codes the server returns. -/
inductive Code
  | unavailable
  deriving DecidableEq, Repr

/-- A gRPC status error. -/
structure StatusError where
  code : Code
  message : String
  deriving DecidableEq, Repr

/-- `createNotLeaderError`, from the controller the server holds. -/
def createNotLeaderError (ec : ElectionController) : StatusError :=
  if ec.currentLeader = "" then ⟨.unavailable, "No leader elected - service unavailable"⟩
  else ⟨.unavailable, "Not the leader - current leader is " ++ ec.currentLeader⟩

/-- The calls the gate guards. -/
inductive KmsCall
  | seal
  | unseal
  deriving DecidableEq, Repr

/-- The gate of `Seal` and `Unseal`: forward the call to the wrapped server, or reject it. -/
def gatedCall (call : KmsCall) (las : LeaderAwareServer) (ec : ElectionController) :
    Except StatusError KmsCall :=
  if las.checkLeadership then .ok call else .error (createNotLeaderError ec)

def LeaderAwareServer.seal : LeaderAwareServer → ElectionController → Except StatusError KmsCall :=
  gatedCall .seal

def LeaderAwareServer.unseal : LeaderAwareServer → ElectionController → Except StatusError KmsCall :=
  gatedCall .unseal

/-- The `/ready` handler: status code and body. -/
def ready (las : LeaderAwareServer) (ec : ElectionController) : Nat × String :=
  if las.isReady then (200, "ready")
  else if ec.currentLeader ≠ "" then (503, "not leader (current leader: " ++ ec.currentLeader ++ ")")
  else (503, "not leader (no leader elected)")

structure LeadershipInfo where
  isLeader : Bool
  isActive : Bool
  currentLeader : String
  leadershipChanges : Int
  acquisitionErrors : Int
  renewalErrors : Int
  lastLeaderChange : Int
  deriving DecidableEq, Repr

/-- `GetLeadershipInfo`: the server's flags and the metrics of the controller it holds. -/
def getLeadershipInfo (las : LeaderAwareServer) (ec : ElectionController) : LeadershipInfo :=
  ⟨las.isLeader, las.isActive, ec.currentLeader, ec.leadershipChanges, ec.acquisitionErrors,
    ec.renewalErrors, ec.lastLeaderChange⟩

/-! ## The started controller and the server -/

/-- The hooks `run()` installs: all three set. -/
def gracefulShutdownCallbacks : LeaderElectionCallbacks := ⟨true, true, true⟩

/-- The started controller, whether its loop is live, the server, and the hook calls made
with `go` that have not run yet, in the order they were made. -/
structure Gate where
  ec : ElectionController
  running : Bool
  las : LeaderAwareServer
  inFlight : List Dispatch
  deriving DecidableEq, Repr

/-- Just after `Start`. -/
def Gate.started : Gate := ⟨.initial, true, .new, []⟩

/-- A pass of the loop, given what the backend returned; the loop observing stop or
cancellation; the `k`-th hook call in flight running; `Stop` on the server. -/
inductive GateAction
  | pass (now : Int) (attempt : Attempt)
  | exit (releaseFailed : Bool)
  | deliver (k : Nat)
  | stop

/-- One action; `none` when it is not enabled. -/
def Gate.step (g : Gate) : GateAction → Option Gate
  | .pass now attempt =>
    if g.running then
      let r := tryAcquireLease gracefulShutdownCallbacks now g.ec attempt
      some { g with ec := r.1, inFlight := g.inFlight ++ r.2 }
    else none
  | .exit releaseFailed =>
    if g.running then
      let r := releaseLeadershipOnExit gracefulShutdownCallbacks g.ec releaseFailed
      some { g with ec := r.1, running := false, las := r.2.foldl LeaderAwareServer.deliver g.las }
    else none
  | .deliver k =>
    match g.inFlight[k]? with
    | some d => some { g with las := g.las.deliver d, inFlight := g.inFlight.eraseIdx k }
    | none => none
  | .stop => some { g with las := g.las.stop }

/-- Hook calls run in the order they were made, and the loop exits only once the leadership
calls it made have run. -/
def inOrder : Gate → GateAction → Prop := fun g a =>
  (∀ k, a = .deliver k → k = 0) ∧ ∀ rf, a = .exit rf → leadershipCalls g.inFlight = []

/-- The gate is open only while the controller leads. -/
def FailsClosed (sched : Gate → GateAction → Prop) : Prop :=
  ∀ g, Reachable Gate.step sched Gate.started g → g.las.checkLeadership = true →
    g.ec.isLeader = true

/-! ## The gate under in-order hook calls -/

theorem stoppedLeading_mem {ds : List Dispatch} (h : false ∈ leadershipCalls ds) :
    Dispatch.stoppedLeading ∈ ds := by
  obtain ⟨d, hd, hl⟩ := List.mem_filterMap.1 h
  cases d <;> simp_all [Dispatch.leadership]

theorem leadershipCalls_cons_getLast? {d : Dispatch} {rest : List Dispatch} {b : Bool}
    (h : (leadershipCalls rest).getLast? = some b) : (leadershipCalls (d :: rest)).getLast? = some b := by
  simp only [leadershipCalls] at h ⊢
  cases hd : d.leadership <;> simp [List.filterMap_cons, hd, List.getLast?_cons, h]

/-- The invariant of the gate. -/
structure GateAgrees (g : Gate) : Prop where
  /-- The last leadership call in flight is the controller's state. -/
  pending : ∀ b, (leadershipCalls g.inFlight).getLast? = some b → g.ec.isLeader = b
  /-- With no leadership call in flight, an open gate means the controller leads. -/
  settled : leadershipCalls g.inFlight = [] → g.las.checkLeadership = true → g.ec.isLeader = true

theorem gateAgrees_pass {g : Gate} (hs : GateAgrees g) (now : Int) (attempt : Attempt) :
    GateAgrees { g with
      ec := (tryAcquireLease gracefulShutdownCallbacks now g.ec attempt).1,
      inFlight := g.inFlight ++ (tryAcquireLease gracefulShutdownCallbacks now g.ec attempt).2 } := by
  have hc := @tryAcquireLease_calls gracefulShutdownCallbacks rfl now g.ec attempt
  generalize tryAcquireLease gracefulShutdownCallbacks now g.ec attempt = r at hc
  by_cases hflip : g.ec.isLeader = r.1.isLeader
  · -- no flip, no leadership call
    have hnil : leadershipCalls r.2 = [] := by simp [hc, flipCalls, hflip]
    exact ⟨by simpa [hnil, ← hflip] using hs.pending, by simpa [hnil, ← hflip] using hs.settled⟩
  · have hone : leadershipCalls r.2 = [r.1.isLeader] := by
      simp [hc, flipCalls, hflip, gracefulShutdownCallbacks]
    exact ⟨by simp [hone], by simp [hone]⟩

theorem gateAgrees_deliver_head {g : Gate} {d : Dispatch} {rest : List Dispatch}
    (hs : GateAgrees g) (hd : g.inFlight = d :: rest) :
    GateAgrees { g with las := g.las.deliver d, inFlight := rest } := by
  obtain ⟨hp, hst⟩ := hs
  rw [hd] at hp hst
  have pending (b) (hb : (leadershipCalls rest).getLast? = some b) : g.ec.isLeader = b :=
    hp b (leadershipCalls_cons_getLast? hb)
  cases d with
  | startedLeading =>
    refine ⟨pending, fun hnil _ => hp true ?_⟩
    simp only [leadershipCalls] at hnil ⊢
    simp [Dispatch.leadership, hnil]
  | stoppedLeading => exact ⟨pending, fun _ h => by simp [LeaderAwareServer.deliver] at h⟩
  | newLeader _ =>
    exact ⟨by simpa [leadershipCalls, Dispatch.leadership] using hp,
      by simpa [leadershipCalls, Dispatch.leadership, LeaderAwareServer.deliver] using hst⟩

theorem gateAgrees_step {g g' : Gate} {a : GateAction} (hs : GateAgrees g) (ha : inOrder g a)
    (h : g.step a = some g') : GateAgrees g' := by
  cases a with
  | pass now attempt =>
    simp only [Gate.step] at h
    split at h
    · cases h; exact gateAgrees_pass hs now attempt
    · cases h
  | exit releaseFailed =>
    have hnil := ha.2 releaseFailed rfl
    simp only [Gate.step] at h
    split at h
    · cases h
      refine ⟨by simp [hnil], fun _ hopen => ?_⟩
      cases hl : g.ec.isLeader
      · -- not leading: the exit calls no hook, and the gate was closed already
        simp only [releaseLeadershipOnExit, hl] at hopen
        exact absurd (hs.settled hnil hopen) (by simp [hl])
      · simp [releaseLeadershipOnExit, hl, callLeadership, gracefulShutdownCallbacks,
          LeaderAwareServer.deliver] at hopen
    · cases h
  | deliver k =>
    obtain rfl := ha.1 k rfl
    simp only [Gate.step] at h
    cases hd : g.inFlight with
    | nil => simp [hd] at h
    | cons d rest =>
      simp only [hd, List.getElem?_cons_zero, List.eraseIdx_cons_zero, Option.some.injEq] at h
      subst h
      exact gateAgrees_deliver_head hs hd
  | stop =>
    cases h
    exact ⟨hs.pending, by simp⟩

theorem gateAgrees_reachable {g : Gate} (hr : Reachable Gate.step inOrder Gate.started g) :
    GateAgrees g :=
  hr.induction _ ⟨by simp [Gate.started, leadershipCalls], by simp [Gate.started,
    LeaderAwareServer.new, LeaderAwareServer.checkLeadership]⟩
    fun _ _ _ hs ha h => gateAgrees_step hs ha h

/-- The lease snapshot of a controller `"A"` that holds the lease. -/
def heldByA : LeaseInfo := ⟨"A", true, 0, 0, 0, 15000000000⟩

/-- `"A"` becomes leader and its `OnStartedLeading` call runs. -/
def openRun : List GateAction := [.pass 0 (.ok true heldByA), .deliver 0]

/-- Then `AcquireLease` fails and the controller steps down; its `OnStoppedLeading` call is
still in flight. -/
def stepDownRun : List GateAction := openRun ++ [.pass 1 .acquireError]

/-- `"A"` becomes leader and the loop exits before the `OnStartedLeading` call runs; that call
runs after the exit's `OnStoppedLeading`. -/
def lateStartRun : List GateAction := [.pass 0 (.ok true heldByA), .exit false, .deliver 0, .deliver 0]

/-- What `run()` assembles with leader election on: the controller given to
`NewLeaderAwareServer`, and the started controller with the server. -/
structure Assembly where
  served : ElectionController
  gate : Gate

/-- The leader-election branch of `run()`, up to `Start`, which succeeds on a new controller. -/
def runLeaderElection (config : LeaseConfig) : Except String Assembly := do
  let served ← (newElectionController config).mapError ("failed to create election controller: " ++ ·)
  let started ← (newElectionController config).mapError
    ("failed to create election controller with callbacks: " ++ ·)
  pure ⟨served, ⟨started, true, .new, []⟩⟩

/-- The system `run()` assembles: every action is the started controller's or the server's. -/
def Assembly.step (as : Assembly) (a : GateAction) : Option Assembly :=
  (as.gate.step a).map fun g => { as with gate := g }

theorem runLeaderElection_served {config : LeaseConfig} {as : Assembly}
    (h : runLeaderElection config = .ok as) : as.served = .initial := by
  unfold runLeaderElection newElectionController at h
  split at h <;> simp_all [Except.mapError, bind, Except.bind, pure, Except.pure]
  cases h
  rfl

theorem served_reachable {as₀ as : Assembly} (hr : Reachable Assembly.step anySchedule as₀ as) :
    as.served = as₀.served :=
  hr.induction (fun as => as.served = as₀.served) rfl fun _ _ _ hs _ h => by
    obtain ⟨g, -, rfl⟩ := Option.map_eq_some'.1 h
    exact hs

/-- **Every rejection reads the controller that was never started.** With `"A"` started and
another identity `"B"` holding the lease, `Seal` is rejected as if no leader were elected,
and `/ready` says the same. -/
theorem rejection_reads_unstarted_controller :
    ∃ as₀ as, runLeaderElection ⟨"A", 15000000000⟩ = .ok as₀ ∧
      Reachable Assembly.step anySchedule as₀ as ∧ as.gate.ec.currentLeader = "B" ∧
      as.gate.las.seal as.served = .error ⟨.unavailable, "No leader elected - service unavailable"⟩ ∧
      ready as.gate.las as.served = (503, "not leader (no leader elected)") := by
  obtain ⟨as₀, h₀⟩ : ∃ as₀, runLeaderElection ⟨"A", 15000000000⟩ = .ok as₀ := ⟨_, rfl⟩
  obtain ⟨as, hs, hl, hg⟩ : ∃ as, runActions Assembly.step as₀
      [.pass 0 (.ok false ⟨"B", false, 0, 0, 1, 15000000000⟩)] = some as ∧
      as.gate.ec.currentLeader = "B" ∧ as.gate.las = .new := by
    cases h₀
    exact ⟨_, rfl, rfl, rfl⟩
  have hr : Reachable Assembly.step anySchedule as₀ as :=
    reachable_runActions .refl (fun _ _ _ => trivial) hs
  have hsv : as.served = .initial := (served_reachable hr).trans (runLeaderElection_served h₀)
  refine ⟨as₀, as, h₀, hr, hl, ?_, ?_⟩
  · simp [LeaderAwareServer.seal, gatedCall, hg, hsv, createNotLeaderError, ElectionController.initial,
      LeaderAwareServer.new, LeaderAwareServer.checkLeadership]
  · simp [ready, hg, hsv, ElectionController.initial, LeaderAwareServer.new, LeaderAwareServer.isReady]

end TalosKmsVault
