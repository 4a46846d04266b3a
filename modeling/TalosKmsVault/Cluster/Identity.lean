import TalosKmsVault.Cluster.Exclusion
import TalosKmsVault.Gate

/-!
# The controllers `run()` starts on a set of pods

With `--enable-leader-election`, each replica's `run()` configures its controller with
`createLeaderElectionConfig`: the lease duration is the flag's, unchecked, and the identity is
`DefaultIdentity()`, which takes `LEADER_ELECTION_IDENTITY`, else `POD_NAME`, else the hostname,
else `"unknown"` when the hostname cannot be read. `NewLeaseManager` refuses only the empty
identity, so a replica starts a controller exactly when its identity is not empty
(`StartedPod`). The controllers of the started replicas run against the one lease of
`TalosKmsVault.Cluster`.

**Theorem (`deployment_exclusive_iff`).** Take at least two started pods, a fresh store, the
clock fixed and every `AcquireLease` atomic (the assumptions under which
`TalosKmsVault.Cluster.Exclusion` keeps one leader). Then no two controllers ever lead at once
if and only if `DefaultIdentity` gives the pods pairwise distinct identities and the
lease-duration flag stores a duration that is not negative.

Both conditions are needed because `canAcquireLease` lets a controller take the lease just
created by another one in two cases. It lets in a controller that shares the creator's identity,
since that controller passes as the holder. It lets in anyone when the stored duration is
negative, since the lease has then already expired. Either way, the second controller's `Update`
lands, and both controllers set `isLeader`. So the `"unknown"` fallback collides on every pod
whose hostname lookup fails. A `LEADER_ELECTION_IDENTITY` written into a pod template collides
on every replica. And `--leader-election-lease-duration` accepts a negative value.
-/

namespace TalosKmsVault

/-! ## Identities -/

/-- What `DefaultIdentity` reads of its process: `os.Getenv`, and the result of `os.Hostname`. -/
structure Pod where
  getenv : String → String
  hostname : Except String String

def defaultIdentity (pod : Pod) : String :=
  if pod.getenv "LEADER_ELECTION_IDENTITY" ≠ "" then pod.getenv "LEADER_ELECTION_IDENTITY"
  else if pod.getenv "POD_NAME" ≠ "" then pod.getenv "POD_NAME"
  else match pod.hostname with
    | .error _ => "unknown"
    | .ok hostname => hostname

/-- `createLeaderElectionConfig`: the fields of the lease manager's configuration, from the
`--leader-election-lease-duration` flag and `DefaultIdentity`. -/
def createLeaderElectionConfig (leaderElectionLeaseDuration : Int) (pod : Pod) : LeaseConfig :=
  ⟨defaultIdentity pod, leaderElectionLeaseDuration⟩

/-- The leader-election branch of `run()` gets past both `NewElectionController` calls exactly
when the identity is not empty. -/
theorem runLeaderElection_ok_iff (config : LeaseConfig) :
    (∃ as, runLeaderElection config = .ok as) ↔ config.identity ≠ "" := by
  unfold runLeaderElection newElectionController
  by_cases h : config.identity = "" <;>
    simp [h, Except.mapError, bind, Except.bind, pure, Except.pure]

theorem defaultIdentity_eq_empty (pod : Pod) :
    defaultIdentity pod = "" ↔ pod.getenv "LEADER_ELECTION_IDENTITY" = "" ∧
      pod.getenv "POD_NAME" = "" ∧ pod.hostname = .ok "" := by
  unfold defaultIdentity
  split_ifs with h₁ h₂
  · simp [h₁]
  · simp [h₂]
  · push_neg at h₁ h₂
    split <;> simp_all

/-- The leader-election branch of `run()` fails on a pod exactly when neither variable is set and
the hostname is empty. -/
theorem runLeaderElection_createLeaderElectionConfig (leaderElectionLeaseDuration : Int)
    (pod : Pod) :
    (∃ as, runLeaderElection (createLeaderElectionConfig leaderElectionLeaseDuration pod) = .ok as) ↔
      ¬ (pod.getenv "LEADER_ELECTION_IDENTITY" = "" ∧ pod.getenv "POD_NAME" = "" ∧
        pod.hostname = .ok "") := by
  rw [runLeaderElection_ok_iff, ← defaultIdentity_eq_empty]
  rfl

/-- A pod whose `run()` gets past `NewElectionController`, and so runs a controller: its
identity is not empty. -/
structure StartedPod where
  pod : Pod
  identity_ne : defaultIdentity pod ≠ ""

/-- The pods that run a controller are exactly those whose leader-election branch starts. -/
theorem startedPod_iff (leaderElectionLeaseDuration : Int) (pod : Pod) :
    (∃ sp : StartedPod, sp.pod = pod) ↔
      ∃ as, runLeaderElection (createLeaderElectionConfig leaderElectionLeaseDuration pod) = .ok as := by
  rw [runLeaderElection_ok_iff]
  exact ⟨fun ⟨sp, h⟩ => h ▸ sp.identity_ne, fun h => ⟨⟨pod, h⟩, rfl⟩⟩

/-- The controllers `run()` starts on `n` started pods: each pod's configuration, and the hooks
`run()` installs (`BuildGracefulShutdownCallbacks` with `OnNewLeader` set). -/
def podDeployment {n : Nat} (leaderElectionLeaseDuration : Int) (pods : Fin n → StartedPod) :
    Deployment n where
  config i := createLeaderElectionConfig leaderElectionLeaseDuration (pods i).pod
  callbacks _ := gracefulShutdownCallbacks

/-! ## Two controllers that both lead -/

theorem canAcquireLease_createLease (identity : String) (config : LeaseConfig) (now : Int) :
    canAcquireLease identity (createLease config now) now = some true ↔
      identity = config.identity ∨ toInt32 (seconds config.leaseDuration) < 0 := by
  by_cases h : config.identity = identity
  · simp [canAcquireLease, createLease, h]
  · have h' : identity ≠ config.identity := Ne.symm h
    simp [canAcquireLease, createLease, h, h']
    omega

namespace Deployment

variable {n : Nat} (D : Deployment n)

theorem atomicAcquire_step {s : Cluster n} {i : Fin n} {ok : Bool}
    (h : ∀ read t seen, (s.nodes i).phase = .updating read t seen → seen = s.store.writes) :
    atomicAcquire s (.step i ok) :=
  ⟨rfl, by rintro _ read t seen ⟨⟩; exact h read t seen⟩

theorem reachable_lead_of_absent (s : Cluster n) (i : Fin n) (hl : s.store.lease = none)
    (hi : (s.nodes i).phase = .idle) :
    ∃ s', Reachable D.step atomicAcquire s s' ∧ (s'.nodes i).ec.isLeader = true ∧
      (∀ k, k ≠ i → s'.nodes k = s.nodes k) ∧
      s'.store.lease = some (createLease (D.config i) s.clock) ∧ s'.clock = s.clock := by
  refine ⟨_, .tail (.step i true) (.tail (.step i true) (.tail (.step i true)
    (.tail (.step i true) .refl (atomicAcquire_step ?_) rfl) (atomicAcquire_step ?_) rfl)
    (atomicAcquire_step ?_) rfl) (atomicAcquire_step ?_) rfl, ?_, fun k hk => ?_, ?_, rfl⟩ <;>
    simp [nodeStep, Store.get, Store.create, Function.update_noteq, *]

theorem reachable_lead_of_free (s : Cluster n) (j : Fin n) {l : LeaseSpec}
    (hl : s.store.lease = some l) (hj : (s.nodes j).phase = .idle)
    (hfree : canAcquireLease (D.config j).identity l s.clock = some true) :
    ∃ s', Reachable D.step atomicAcquire s s' ∧ (s'.nodes j).ec.isLeader = true ∧
      ∀ k, k ≠ j → s'.nodes k = s.nodes k := by
  refine ⟨_, .tail (.step j true) (.tail (.step j true) (.tail (.step j true)
    (.tail (.step j true) .refl (atomicAcquire_step ?_) rfl) (atomicAcquire_step ?_) rfl)
    (atomicAcquire_step ?_) rfl) (atomicAcquire_step ?_) rfl, ?_, fun k hk => ?_⟩ <;>
    simp [nodeStep, Store.get, Store.update, Function.update_noteq, *]

/-- From a fresh store, two controllers lead at once when the second finds free the lease the
first creates: the first creates the lease and leads, then the second takes it and leads too. -/
theorem not_mutualExclusion_of_free {i j : Fin n} (hij : i ≠ j) (t : Int)
    (hfree : canAcquireLease (D.config j).identity (createLease (D.config i) t) t = some true) :
    ¬ D.MutualExclusion atomicAcquire (.start none t) := by
  intro h
  obtain ⟨s₁, hr₁, hi₁, hk₁, hl₁, hc₁⟩ := D.reachable_lead_of_absent (.start none t) i rfl rfl
  obtain ⟨s₂, hr₂, hj₂, hk₂⟩ :=
    D.reachable_lead_of_free s₁ j hl₁ (by rw [hk₁ j hij.symm]; rfl) (by rwa [hc₁])
  exact hij (h s₂ (hr₁.trans hr₂) i j (by rw [hk₂ i hij]; exact hi₁) hj₂)

theorem Exclusive.identity_eq {D : Deployment n} {s : Cluster n} (hs : D.Exclusive s) {i j : Fin n}
    (hi : (s.nodes i).ec.isLeader = true) (hj : (s.nodes j).ec.isLeader = true) :
    (D.config i).identity = (D.config j).identity := by
  have owns (k : Fin n) (hk : (s.nodes k).ec.isLeader = true) : Owns (s.nodes k) :=
    .inl ⟨hk, Bool.eq_false_iff.2 fun hx => by simp [(hs k).exiting hx] at hk⟩
  obtain ⟨l, hl, hh⟩ := (hs i).owner (owns i hi)
  obtain ⟨l', hl', hh'⟩ := (hs j).owner (owns j hj)
  rw [hl] at hl'
  cases hl'
  exact Option.some.inj (hh.1.symm.trans hh'.1)

end Deployment

/-! ## One leader exactly when identities and duration allow it -/

/-- **One leader exactly when the identities are distinct and the duration is not negative.**
For at least two pods, from a fresh store with the clock fixed and every `AcquireLease`
atomic, the controllers `run()` starts never lead two at a time if and only if `DefaultIdentity`
is injective on the pods and the flag's duration is stored as a non-negative number of
seconds. -/
theorem deployment_exclusive_iff {n : Nat} (leaderElectionLeaseDuration : Int)
    (pods : Fin n → StartedPod) (hn : 2 ≤ n) (t : Int) :
    (podDeployment leaderElectionLeaseDuration pods).MutualExclusion Deployment.atomicAcquire
        (.start none t) ↔
      (Function.Injective fun i => defaultIdentity (pods i).pod) ∧
        0 ≤ toInt32 (seconds leaderElectionLeaseDuration) := by
  let D := podDeployment leaderElectionLeaseDuration pods
  constructor
  · intro h
    refine ⟨fun i j hid => ?_, ?_⟩
    · -- a controller sharing the creator's identity renews its lease
      by_contra hij
      exact D.not_mutualExclusion_of_free hij t
        ((canAcquireLease_createLease _ _ _).2 (.inl hid.symm)) h
    · -- a negative duration leaves the lease expired on creation
      by_contra hneg
      exact D.not_mutualExclusion_of_free (show (⟨0, by omega⟩ : Fin n) ≠ ⟨1, hn⟩ by simp) t
        ((canAcquireLease_createLease _ _ _).2 (.inr (not_le.1 hneg))) h
  · rintro ⟨hid, hdur⟩ s hr i j hi hj
    exact hid ((D.exclusive_reachable hid (fun _ => hdur) (fun _ h => by cases h)
      (fun _ => ⟨rfl, rfl⟩) hr).identity_eq hi hj)

/-- Two pods with neither variable set whose hostname lookups fail; both start, as `"unknown"`. -/
def hostlessPods : Fin 2 → StartedPod := fun _ =>
  ⟨⟨fun _ => "", .error "hostname unavailable"⟩, by decide⟩

/-- Both pods run as `"unknown"`, so with the default 15-second lease two of them can lead. -/
theorem hostless_pods_split_brain :
    ¬ (podDeployment 15000000000 hostlessPods).MutualExclusion Deployment.atomicAcquire
      (.start none 0) := fun h =>
  absurd ((deployment_exclusive_iff 15000000000 hostlessPods (by decide) 0).1 h).1 fun hid =>
    absurd (hid (show defaultIdentity (hostlessPods 0).pod = defaultIdentity (hostlessPods 1).pod
      from rfl))
      (by decide)

end TalosKmsVault
