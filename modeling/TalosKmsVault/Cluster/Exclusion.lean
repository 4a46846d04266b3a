import TalosKmsVault.Cluster.Reads

/-!
# Leadership over every interleaving

With the clock held fixed, a lease renewed during the run never expires, so one would expect
at most one controller to lead. That fails: two controllers can both read a lease with no
holder, both find it free, and both `Update`s land, since `Update` replaces the document with
no version check. Each then reads the lease (held by whichever wrote last) and sets
`isLeader := acquired`, so both lead, and the first leads while it reads the other as holder
(`split_brain_on_fixed_clock`, `leader_reads_other_holder`).

**Theorem (`leaders_exclusive_of_atomic_acquire`).** If instead the `Update` of
`AcquireLease` lands only when no write came after its `Get` (what a `resourceVersion` check
gives), then with the clock fixed, distinct identities and durations that are not negative,
no two controllers lead at once.

The same invariant gives that every leader then reads itself as holder
(`leader_reads_itself_of_atomic_acquire`): the disagreement of `leader_reads_other_holder`
needs the race as well.

The proof is an induction over the run with the invariant `Exclusive`, of each controller:

* *owner*: a controller that leads, or whose `AcquireLease` returned true, or that is
  releasing, holds the stored lease, renewed at the current time;
* *updating*, *creating*: a pending write was decided at the current time, and an `Update`
  found the lease free for it;
* *exiting*: a controller in `releaseLeadershipOnExit` does not lead;
* *informed*, *leader*: the `GetLeaseInfo` after a successful `AcquireLease` reads the
  controller as holder, so a leader's `currentLeader` is itself.

An `Update` by another controller would need the owner's lease to be free for it, which
`canAcquireLease` refuses for a lease renewed now with a duration that is not negative; a
`Create` needs no lease at all; a release write is made by the owner itself.
-/

namespace TalosKmsVault

/-! ## Who holds the lease -/

/-- The phases of `releaseLeadershipOnExit` and after it. -/
def Phase.exiting : Phase → Bool
  | .releasing | .releaseWriting _ _ | .notifying | .stopped => true
  | _ => false

/-- The controller leads, or its `AcquireLease` returned true, or it is releasing the lease. -/
def Owns (nd : Node) : Prop :=
  (nd.ec.isLeader = true ∧ nd.phase.exiting = false) ∨ nd.phase = .acquired true ∨
    (∃ info, nd.phase = .informed true info) ∨ nd.phase = .releasing ∨
    ∃ read seen, nd.phase = .releaseWriting read seen

/-- `identity` holds `l`, renewed at `now`. -/
def HeldAt (identity : String) (now : Int) (l : LeaseSpec) : Prop :=
  l.holderIdentity = some identity ∧ l.renewTime = some now

/-- A duration that is absent or not negative. -/
def NonNeg (d : Option Int) : Prop := ∀ x, d = some x → 0 ≤ x

theorem canAcquireLease_ne_some_true {holder identity : String} {l : LeaseSpec} {now : Int}
    (hne : holder ≠ identity) (hh : HeldAt holder now l) (hd : NonNeg l.leaseDurationSeconds) :
    canAcquireLease identity l now ≠ some true := by
  cases hdur : l.leaseDurationSeconds with
  | none => simp [canAcquireLease, hh.1, hh.2, hdur, hne]
  | some d =>
    have := hd d hdur
    rw [canAcquireLease_eq_some_false hne hh.1 hh.2 hdur (by omega)]
    simp

/-! ## One controller's step -/

section Step

variable (config : LeaseConfig) (callbacks : LeaderElectionCallbacks) (now : Int) (ok : Bool)

/-- A step that makes a controller an owner either keeps an owner and writes nothing, or is
the write of its `AcquireLease`. -/
theorem nodeStep_owns {st : Store} {nd : Node} (h : Owns (nodeStep config callbacks now ok st nd).1) :
    (Owns nd ∧ (nodeStep config callbacks now ok st nd).2 = st) ∨
    (∃ t, nd.phase = .creating t ∧
      (nodeStep config callbacks now ok st nd).2.lease = some (createLease config t)) ∨
    (∃ read t seen, nd.phase = .updating read t seen ∧
      (nodeStep config callbacks now ok st nd).2.lease = some (updateLease config.identity read t)) := by
  unfold Owns at h ⊢
  cases hp : nd.phase with
  | updating read t seen =>
    simp only [nodeStep, hp] at h ⊢
    split
    · exact .inr (.inr ⟨read, t, seen, rfl, by simp_all⟩)
    · simp_all [Phase.exiting]
  | _ => simp only [nodeStep, hp] at h ⊢; all_goals (repeat' split) <;> simp_all [Phase.exiting]

theorem nodeStep_creating {st : Store} {nd : Node} {t : Int}
    (h : (nodeStep config callbacks now ok st nd).1.phase = .creating t) : t = now := by
  unfold nodeStep at h
  split at h <;> (repeat' split at h) <;> simp_all

theorem nodeStep_exiting {st : Store} {nd : Node}
    (h : (nodeStep config callbacks now ok st nd).1.phase.exiting = true) :
    nd.phase.exiting = true ∧ (nodeStep config callbacks now ok st nd).1.ec = nd.ec := by
  cases hp : nd.phase <;> simp only [nodeStep, hp] at h ⊢ <;> (repeat' split at h) <;>
    simp_all [Phase.exiting]

theorem nodeStep_informed {st : Store} {nd : Node} {b : Bool} {info : LeaseInfo}
    (h : (nodeStep config callbacks now ok st nd).1.phase = .informed b info) :
    nd.phase = .acquired b ∧ ∃ l, st.lease = some l ∧ info = getLeaseInfo config.identity l := by
  unfold nodeStep at h
  split at h <;> (repeat' split at h) <;> simp_all [Store.get]

theorem nodeStep_ec (st : Store) (nd : Node) :
    (nodeStep config callbacks now ok st nd).1.ec = nd.ec ∨
    (nd.phase = .failed ∧
      (nodeStep config callbacks now ok st nd).1.ec = (onAcquireError callbacks nd.ec).1) ∨
    (∃ b info, nd.phase = .informed b info ∧
      (nodeStep config callbacks now ok st nd).1.ec = (updateLeadershipState callbacks now nd.ec b info).1) := by
  cases hp : nd.phase with
  | failed => exact .inr (.inl ⟨rfl, by simp [nodeStep, hp]⟩)
  | informed b info => exact .inr (.inr ⟨b, info, rfl, by simp [nodeStep, hp]⟩)
  | _ => left; simp only [nodeStep, hp]; all_goals (repeat' split) <;> rfl

theorem nodeExit_owns {nd : Node} (h : Owns (nodeExit nd)) : nd.ec.isLeader = true := by
  unfold Owns nodeExit at h
  split at h <;> simp_all [Phase.exiting]

end Step

namespace Deployment

variable {n : Nat} (D : Deployment n)

/-- No two controllers lead at once, in any state the schedule reaches. -/
def MutualExclusion (sched : Schedule n) (s₀ : Cluster n) : Prop :=
  ∀ s, Reachable D.step sched s₀ s → ∀ i j, (s.nodes i).ec.isLeader = true →
    (s.nodes j).ec.isLeader = true → i = j

/-- The clock is fixed, and the `Update` of `AcquireLease` lands only if no write came after
its `Get`; it may still fail. -/
def atomicAcquire : Schedule n := fun s a =>
  a.isAdvance = false ∧ ∀ i read t seen, a = .step i true →
    (s.nodes i).phase = .updating read t seen → seen = s.store.writes

/-- The invariant behind mutual exclusion, of controller `i` in state `nd`, with the store `st`
at time `clock`. -/
structure NodeExclusive (st : Store) (clock : Int) (i : Fin n) (nd : Node) : Prop where
  /-- An owner holds the stored lease, renewed at the current time. -/
  owner : Owns nd → ∃ l, st.lease = some l ∧ HeldAt (D.config i).identity clock l
  /-- A pending `Update` was decided now, and the read lease was free for it. -/
  updating : ∀ read t seen, nd.phase = .updating read t seen →
    t = clock ∧ canAcquireLease (D.config i).identity read t = some true
  /-- A pending `Create` was decided now. -/
  creating : ∀ t, nd.phase = .creating t → t = clock
  /-- A controller in `releaseLeadershipOnExit` does not lead. -/
  exiting : nd.phase.exiting = true → nd.ec.isLeader = false
  /-- After an `AcquireLease` that returned true, `GetLeaseInfo` read the controller as holder. -/
  informed : ∀ info, nd.phase = .informed true info → info.holderIdentity = (D.config i).identity
  /-- A leader's `currentLeader` is itself. -/
  leader : nd.ec.isLeader = true → nd.ec.currentLeader = (D.config i).identity

/-- The invariant behind mutual exclusion, of every controller. -/
def Exclusive (s : Cluster n) : Prop := ∀ i, D.NodeExclusive s.store s.clock i (s.nodes i)

theorem nodeExclusive_nodeStep {st : Store} {clock : Int} {i : Fin n} {nd : Node} (ok : Bool)
    (h : D.NodeExclusive st clock i nd) :
    D.NodeExclusive (nodeStep (D.config i) (D.callbacks i) clock ok st nd).2 clock i
      (nodeStep (D.config i) (D.callbacks i) clock ok st nd).1 where
  owner ho := by
    rcases nodeStep_owns _ _ _ _ ho with ⟨ho, hst⟩ | ⟨t, hp, hl⟩ | ⟨read, t, seen, hp, hl⟩
    · rw [hst]; exact h.owner ho
    · exact ⟨_, hl, rfl, by simp [createLease, h.creating t hp]⟩
    · exact ⟨_, hl, by simp, by simp [(h.updating read t seen hp).1]⟩
  updating read t seen hp := by
    obtain ⟨-, -, -, rfl, hcan⟩ := nodeStep_updating _ _ _ _ hp
    exact ⟨rfl, hcan⟩
  creating t hp := nodeStep_creating _ _ _ _ hp
  exiting hx := by
    obtain ⟨hx, hec⟩ := nodeStep_exiting _ _ _ _ hx
    rw [hec]
    exact h.exiting hx
  informed info hp := by
    obtain ⟨hacq, l, hl, rfl⟩ := nodeStep_informed _ _ _ _ hp
    obtain ⟨l', hl', hh⟩ := h.owner (.inr (.inl hacq))
    rw [hl] at hl'
    cases hl'
    simp [getLeaseInfo, hh.1]
  leader hl := by
    rcases nodeStep_ec (D.config i) (D.callbacks i) clock ok st nd with he | ⟨-, he⟩ | ⟨b, info, hp, he⟩
    · rw [he] at hl ⊢; exact h.leader hl
    · simp [he] at hl
    · rw [he] at hl ⊢
      simp only [updateLeadershipState_isLeader] at hl
      subst hl
      simpa using h.informed info hp

/-- Another controller's step keeps an owner's lease: a `Create` needs no lease, an `Update`
from a current read needs the lease free, and a release write is the holder's own. -/
theorem nodeExclusive_other (hid : Function.Injective fun i => (D.config i).identity)
    {s : Cluster n} {i j : Fin n} (ok : Bool) (hji : j ≠ i) (hs : D.Exclusive s)
    (hrc : ReadsCurrent s) (hd : DurationsIn NonNeg s)
    (hatomic : ok = true → ∀ read t seen, (s.nodes i).phase = .updating read t seen →
      seen = s.store.writes) :
    D.NodeExclusive (nodeStep (D.config i) (D.callbacks i) s.clock ok s.store (s.nodes i)).2
      s.clock j (s.nodes j) := by
  refine ⟨fun hj => ?_, (hs j).updating, (hs j).creating, (hs j).exiting, (hs j).informed,
    (hs j).leader⟩
  obtain ⟨l, hl, hh⟩ := (hs j).owner hj
  refine ⟨l, ?_, hh⟩
  rcases nodeStep_store (D.config i) (D.callbacks i) s.clock ok s.store (s.nodes i) with
    h' | ⟨t, -, h0, -⟩ | ⟨read, t, seen, hp, hok, -, -⟩ | ⟨read, seen, new, hp, -, -, -⟩
  · rw [h']; exact hl
  · simp [hl] at h0
  · -- the schedule makes the read current, and a current read is not free for `i`
    have hread := (hrc i read seen (by simp [hp, Phase.read?])).2 (hatomic hok read t seen hp)
    obtain ⟨rfl, hcan⟩ := (hs i).updating read t seen hp
    rw [hl] at hread
    cases hread
    exact absurd hcan (canAcquireLease_ne_some_true (fun e => hji (hid e)) hh (hd.1 l hl))
  · -- only the holder writes a release
    obtain ⟨l', hl', hh'⟩ := (hs i).owner (by simp [Owns, hp])
    rw [hl] at hl'
    cases hl'
    exact absurd (hid (Option.some.inj (hh.1.symm.trans hh'.1))) hji

theorem nodeExclusive_nodeExit {st : Store} {clock : Int} {i : Fin n} {nd : Node}
    (h : D.NodeExclusive st clock i nd) (hi : nd.phase = .idle) :
    D.NodeExclusive st clock i (nodeExit nd) where
  owner ho := h.owner (.inl ⟨nodeExit_owns ho, by simp [hi, Phase.exiting]⟩)
  updating _ _ _ hp := by simp only [nodeExit] at hp; split at hp <;> cases hp
  creating _ hp := by simp only [nodeExit] at hp; split at hp <;> cases hp
  exiting _ := rfl
  informed _ hp := by simp only [nodeExit] at hp; split at hp <;> cases hp
  leader hl := by simp [nodeExit] at hl

theorem exclusive_step (hid : Function.Injective fun i => (D.config i).identity)
    {s s' : Cluster n} {a : Action n} (hs : D.Exclusive s) (hrc : ReadsCurrent s)
    (hd : DurationsIn NonNeg s) (ha : atomicAcquire s a) (h : D.step s a = some s') :
    D.Exclusive s' := by
  obtain ⟨hadv, hatomic⟩ := ha
  rcases D.step_cases h with ⟨i, ok, rfl, rfl⟩ | ⟨i, rfl, hi, rfl⟩ | ⟨t, rfl, -, -⟩
  · intro j
    by_cases hji : j = i
    · subst hji
      simpa using D.nodeExclusive_nodeStep ok (hs j)
    · simpa [Function.update_noteq hji] using D.nodeExclusive_other hid ok hji hs hrc hd
        fun hok read t seen hp => hatomic i read t seen (by rw [hok]) hp
  · intro j
    by_cases hji : j = i
    · subst hji
      simpa using D.nodeExclusive_nodeExit (hs j) hi
    · simpa [Function.update_noteq hji] using hs j
  · cases hadv

theorem exclusive_reachable (hid : Function.Injective fun i => (D.config i).identity)
    (hdur : ∀ i, 0 ≤ toInt32 (seconds (D.config i).leaseDuration)) {s₀ s : Cluster n}
    (h₀ : ∀ l, s₀.store.lease = some l → NonNeg l.leaseDurationSeconds)
    (hn : ∀ i, (s₀.nodes i).phase = .idle ∧ (s₀.nodes i).ec.isLeader = false)
    (hr : Reachable D.step atomicAcquire s₀ s) : D.Exclusive s := by
  induction hr with
  | refl =>
    exact fun i => ⟨fun hi => by simp [Owns, hn i] at hi, fun _ _ _ hi => by simp [hn i] at hi,
      fun _ hi => by simp [hn i] at hi, fun hi => by simp [hn i, Phase.exiting] at hi,
      fun _ hi => by simp [hn i] at hi, fun hi => by simp [hn i] at hi⟩
  | tail a hrs ha h ih =>
    exact D.exclusive_step hid ih
      (D.readsCurrent_reachable (readsCurrent_of_idle fun i => (hn i).1) hrs)
      (D.durationsIn_reachable (fun i x hx => by cases hx; exact hdur i) h₀ (fun i => (hn i).1) hrs)
      ha h

/-- **No split-brain when `AcquireLease` is atomic.** With the clock fixed, distinct
identities, stored durations that are not negative, and every controller a follower at the
start, no two controllers lead at once, from any lease state. -/
theorem leaders_exclusive_of_atomic_acquire (hid : Function.Injective fun i => (D.config i).identity)
    (hdur : ∀ i, 0 ≤ toInt32 (seconds (D.config i).leaseDuration)) {s₀ : Cluster n}
    (h₀ : ∀ l, s₀.store.lease = some l → NonNeg l.leaseDurationSeconds)
    (hn : ∀ i, (s₀.nodes i).phase = .idle ∧ (s₀.nodes i).ec.isLeader = false) :
    D.MutualExclusion atomicAcquire s₀ := by
  intro s hr i j hi hj
  have hs := D.exclusive_reachable hid hdur h₀ hn hr
  have owns (k : Fin n) (hk : (s.nodes k).ec.isLeader = true) : Owns (s.nodes k) :=
    .inl ⟨hk, Bool.eq_false_iff.2 fun hx => by simp [(hs k).exiting hx] at hk⟩
  obtain ⟨l, hl, hh⟩ := (hs i).owner (owns i hi)
  obtain ⟨l', hl', hh'⟩ := (hs j).owner (owns j hj)
  rw [hl] at hl'
  cases hl'
  exact hid (Option.some.inj (hh.1.symm.trans hh'.1))

/-- **With an atomic `AcquireLease`, a leader reads itself as holder.** Under the same
assumptions, every leader's `currentLeader` is its own identity. -/
theorem leader_reads_itself_of_atomic_acquire
    (hid : Function.Injective fun i => (D.config i).identity)
    (hdur : ∀ i, 0 ≤ toInt32 (seconds (D.config i).leaseDuration)) {s₀ s : Cluster n}
    (h₀ : ∀ l, s₀.store.lease = some l → NonNeg l.leaseDurationSeconds)
    (hn : ∀ i, (s₀.nodes i).phase = .idle ∧ (s₀.nodes i).ec.isLeader = false)
    (hr : Reachable D.step atomicAcquire s₀ s) {i : Fin n} (hi : (s.nodes i).ec.isLeader = true) :
    (s.nodes i).ec.currentLeader = (D.config i).identity :=
  (D.exclusive_reachable hid hdur h₀ hn hr i).leader hi

end Deployment

/-! ## Two `Update`s from one read -/

/-- A lease with no holder, as `ReleaseLease` leaves it, and two fresh controllers. -/
def releasedStart : Cluster 2 := Cluster.start (some ⟨none, some 15, none, none, some 0⟩) 0

/-- Both controllers read the free lease, both `Update`s land (`"B"`'s last), and each reads
the lease and updates its state. -/
def splitBrainRun : List (Action 2) :=
  [.step 0 true, .step 1 true, .step 0 true, .step 1 true, .step 0 true, .step 0 true,
    .step 1 true, .step 1 true]

/-- With the clock fixed, both controllers lead. -/
theorem split_brain_on_fixed_clock :
    ¬ twoControllers.MutualExclusion Deployment.fixedClock releasedStart := by
  intro h
  obtain ⟨s, hs, h0, h1⟩ : ∃ s, runActions twoControllers.step releasedStart splitBrainRun = some s ∧
      (s.nodes 0).ec.isLeader = true ∧ (s.nodes 1).ec.isLeader = true := ⟨_, rfl, by decide, by decide⟩
  exact absurd (h s (twoControllers.reachable_run_fixedClock (by decide) hs) 0 1 h0 h1) (by decide)

/-- `"A"` leads although the `GetLeaseInfo` of its pass read `"B"` as holder. -/
theorem leader_reads_other_holder :
    ∃ s, Reachable twoControllers.step Deployment.fixedClock releasedStart s ∧
      (s.nodes 0).ec.isLeader = true ∧ (s.nodes 0).ec.currentLeader = "B" ∧
      (twoControllers.config 0).identity = "A" := by
  obtain ⟨s, hs, h0, h1⟩ : ∃ s, runActions twoControllers.step releasedStart splitBrainRun = some s ∧
      (s.nodes 0).ec.isLeader = true ∧ (s.nodes 0).ec.currentLeader = "B" :=
    ⟨_, rfl, by decide, by decide⟩
  exact ⟨s, twoControllers.reachable_run_fixedClock (by decide) hs, h0, h1, rfl⟩

set_option maxRecDepth 10000 in
theorem leaders_exclusive_two_controllers :
    (Function.Injective fun i => (twoControllers.config i).identity) ∧
    (∀ i, 0 ≤ toInt32 (seconds (twoControllers.config i).leaseDuration)) ∧
    (∀ l, releasedStart.store.lease = some l → NonNeg l.leaseDurationSeconds) ∧
    (∀ i, (releasedStart.nodes i).phase = .idle ∧ (releasedStart.nodes i).ec.isLeader = false) ∧
    twoControllers.MutualExclusion Deployment.atomicAcquire releasedStart := by
  have hid : Function.Injective fun i => (twoControllers.config i).identity := fun i j => by
    revert i j
    decide
  have hdur : ∀ i, 0 ≤ toInt32 (seconds (twoControllers.config i).leaseDuration) := by decide
  have h₀ : ∀ l, releasedStart.store.lease = some l → NonNeg l.leaseDurationSeconds := by
    rintro l ⟨⟩ x ⟨⟩
    decide
  have hn : ∀ i, (releasedStart.nodes i).phase = .idle ∧ (releasedStart.nodes i).ec.isLeader = false :=
    fun _ => ⟨rfl, rfl⟩
  exact ⟨hid, hdur, h₀, hn, twoControllers.leaders_exclusive_of_atomic_acquire hid hdur h₀ hn⟩

end TalosKmsVault
