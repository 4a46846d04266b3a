import TalosKmsVault.Election
import TalosKmsVault.System

/-!
# Controllers sharing one lease

`n` election controllers run their loops against one lease in a store that applies each `Get`,
`Create` and `Update` atomically, in one total order. The store is the spec's last-writer-wins
store: `Update` replaces the whole document and `Create` fails when the lease exists. A real API
server also checks the `resourceVersion` an `Update` carries, the one its `Get` read, and refuses
a stale one (409 Conflict). Here that check is an assumption where a result needs it: the
schedule `Deployment.atomicAcquire` for the `Update` of `AcquireLease`, and a write count
equal to the one the `Get` saw (`writes = seen`) for the `Update` of `ReleaseLease`.

A controller's loop is cut at its calls to the store: `AcquireLease` reads, then creates or
updates; `GetLeaseInfo` reads; `updateLeadershipState` and the error branch change only the
controller; on exit, `releaseLeadershipOnExit` clears `isLeader`, and `ReleaseLease` reads and
then updates. Any controller may take its next step at any time, any call to the store may fail
without effect, a controller between two passes may observe stop or cancellation, and the clock
may move forward.

The store counts the writes applied to it, as the lease's `resourceVersion` does. The code never
reads the count; it lets a statement say that no write landed between two steps.

This module gives the model and its step lemmas; `TalosKmsVault.Cluster.Reads` proves what
holds over every interleaving, and `TalosKmsVault.Cluster.Exclusion` what holds of leadership.
-/

namespace TalosKmsVault

/-- The lease store: the lease, if it exists, and the number of writes applied. -/
structure Store where
  lease : Option LeaseSpec
  writes : Nat
  deriving DecidableEq, Repr

/-- `Create`: `none` (AlreadyExists) when the lease exists. -/
def Store.create (st : Store) (lease : LeaseSpec) : Option Store :=
  match st.lease with
  | none => some ⟨some lease, st.writes + 1⟩
  | some _ => none

/-- `Update`, a whole-document replace: `none` (NotFound) when there is no lease. -/
def Store.update (st : Store) (lease : LeaseSpec) : Option Store :=
  st.lease.map fun _ => ⟨some lease, st.writes + 1⟩

/-- A `Get`, which fails when the lease is absent or the call fails (`ok = false`). -/
def Store.get (st : Store) (ok : Bool) : Option LeaseSpec := if ok then st.lease else none

/-- Where a controller is in its loop: the step it takes next. `updating` and `releaseWriting`
carry the lease read by the `Get` before them and the write count it saw. -/
inductive Phase
  | idle
  | creating (now : Int)
  | updating (read : LeaseSpec) (now : Int) (seen : Nat)
  | acquired (ok : Bool)
  | failed
  | informed (acquired : Bool) (leaseInfo : LeaseInfo)
  | releasing
  | releaseWriting (read : LeaseSpec) (seen : Nat)
  | notifying
  | stopped
  | panicked
  deriving DecidableEq, Repr

/-- A controller: its state, where it is, and the hook calls it dispatched so far. -/
structure Node where
  ec : ElectionController
  phase : Phase
  calls : List Dispatch
  deriving DecidableEq, Repr

/-- The controller `NewElectionController` builds, before its first step. -/
def Node.initial : Node := ⟨.initial, .idle, []⟩

/-- The whole system: the store, the controllers and the clock. -/
structure Cluster (n : Nat) where
  store : Store
  nodes : Fin n → Node
  clock : Int

/-- Fresh controllers, and a store holding `lease` (no write yet), at time `clock`. -/
def Cluster.start {n : Nat} (lease : Option LeaseSpec) (clock : Int) : Cluster n :=
  ⟨⟨lease, 0⟩, fun _ => Node.initial, clock⟩

/-- The controllers' configurations and hooks. -/
structure Deployment (n : Nat) where
  config : Fin n → LeaseConfig
  callbacks : Fin n → LeaderElectionCallbacks

/-- Two controllers `"A"` and `"B"` with the default 15-second lease and every hook set, as
`run()` configures them; the runs in the proofs use it. -/
def twoControllers : Deployment 2 where
  config i := if i.val = 0 then ⟨"A", 15000000000⟩ else ⟨"B", 15000000000⟩
  callbacks _ := ⟨true, true, true⟩

/-- One step of a scheduler: a controller's next step (its store call failing when `ok` is
false), a controller's loop observing stop or cancellation, or the clock moving to `t`. -/
inductive Action (n : Nat)
  | step (i : Fin n) (ok : Bool)
  | exit (i : Fin n)
  | advance (t : Int)
  deriving DecidableEq, Repr

/-- Whether an action moves the clock. -/
def Action.isAdvance {n : Nat} : Action n → Bool
  | .advance _ => true
  | _ => false

section Step

variable (config : LeaseConfig) (callbacks : LeaderElectionCallbacks) (now : Int) (ok : Bool)

/-- The next step of one controller at time `now`, with the store before and after. -/
def nodeStep (st : Store) (nd : Node) : Node × Store :=
  match nd.phase with
  | .idle =>
    match st.get ok with
    | none => ({ nd with phase := .creating now }, st)
    | some read =>
      match canAcquireLease config.identity read now with
      | none => ({ nd with phase := .panicked }, st)
      | some true => ({ nd with phase := .updating read now st.writes }, st)
      | some false => ({ nd with phase := .acquired false }, st)
  | .creating t =>
    match (if ok then st.create (createLease config t) else none) with
    | some st' => ({ nd with phase := .acquired true }, st')
    | none => ({ nd with phase := .failed }, st)
  | .updating read t _ =>
    match (if ok then st.update (updateLease config.identity read t) else none) with
    | some st' => ({ nd with phase := .acquired true }, st')
    | none => ({ nd with phase := .failed }, st)
  | .acquired acquired =>
    match st.get ok with
    | some l => ({ nd with phase := .informed acquired (getLeaseInfo config.identity l) }, st)
    | none => ({ nd with phase := .idle }, st)
  | .failed =>
    let r := onAcquireError callbacks nd.ec
    (⟨r.1, .idle, nd.calls ++ r.2⟩, st)
  | .informed acquired leaseInfo =>
    let r := updateLeadershipState callbacks now nd.ec acquired leaseInfo
    (⟨r.1, .idle, nd.calls ++ r.2⟩, st)
  | .releasing =>
    match st.get ok with
    | some l =>
      if (releasedLease config.identity l).isSome then
        ({ nd with phase := .releaseWriting l st.writes }, st)
      else ({ nd with phase := .notifying }, st)
    | none => ({ nd with phase := .notifying }, st)
  | .releaseWriting read _ =>
    match releasedLease config.identity read with
    | some new => ({ nd with phase := .notifying }, ((if ok then st.update new else none).getD st))
    | none => ({ nd with phase := .notifying }, st)
  | .notifying => ({ nd with phase := .stopped, calls := nd.calls ++ callLeadership callbacks false }, st)
  | .stopped => (nd, st)
  | .panicked => (nd, st)

/-- The start of `releaseLeadershipOnExit`, when the loop observes stop or cancellation:
`isLeader` is cleared and a leader goes on to release the lease. -/
def nodeExit (nd : Node) : Node :=
  { nd with ec := { nd.ec with isLeader := false },
            phase := if nd.ec.isLeader then .releasing else .stopped }

end Step

namespace Deployment

variable {n : Nat} (D : Deployment n)

/-- One action of the scheduler; `none` when it is not enabled. -/
def step (s : Cluster n) : Action n → Option (Cluster n)
  | .step i ok =>
    let r := nodeStep (D.config i) (D.callbacks i) s.clock ok s.store (s.nodes i)
    some { s with store := r.2, nodes := Function.update s.nodes i r.1 }
  | .exit i =>
    if (s.nodes i).phase = .idle then some { s with nodes := Function.update s.nodes i (nodeExit (s.nodes i)) }
    else none
  | .advance t => if s.clock ≤ t then some { s with clock := t } else none

/-- Which actions a scheduler may take from a state. -/
abbrev Schedule (n : Nat) := Cluster n → Action n → Prop

/-- The clock never moves. -/
def fixedClock : Schedule n := fun _ a => a.isAdvance = false

theorem reachable_run_fixedClock {s₀ s : Cluster n} {as : List (Action n)}
    (hall : ∀ a ∈ as, a.isAdvance = false) (h : runActions D.step s₀ as = some s) :
    Reachable D.step fixedClock s₀ s :=
  reachable_runActions .refl (fun a ha _ => hall a ha) h

end Deployment

end TalosKmsVault
