import TalosKmsVault.Cluster.Reads

/-!
# Contention on the lease

A controller whose `Get` finds no lease calls `createLease`, and its `Create` fails with
`AlreadyExists` when another controller created the lease first. `createLease` returns that
failure as the error `failed to create lease: ...`, so `tryAcquireLease` takes its error
branch: it counts an error and, when leading, steps down (`create_race_loser_errs`). Only a
`Get` that reads a lease `canAcquireLease` refuses gives `(false, nil)`. In the last-writer-wins
store an `Update` always lands; on a real API server a stale one is refused with 409 Conflict,
which `Deployment.atomicAcquire` stands for.
-/

namespace TalosKmsVault

variable (config : LeaseConfig) (callbacks : LeaderElectionCallbacks) (now : Int) (ok : Bool)

theorem nodeStep_lease_isSome {st : Store} (nd : Node) (h : st.lease.isSome) :
    (nodeStep config callbacks now ok st nd).2.lease.isSome := by
  rcases nodeStep_store config callbacks now ok st nd with h' | ⟨_, -, -, h'⟩ |
    ⟨_, _, _, -, -, -, h'⟩ | ⟨_, _, _, -, -, -, h'⟩ <;> rw [h'] <;> simp [h]

/-- A `(false, nil)` from `AcquireLease` is a `Get` that read a lease `canAcquireLease`
refused. -/
theorem nodeStep_acquired_false {st : Store} {nd : Node}
    (h : (nodeStep config callbacks now ok st nd).1.phase = .acquired false) :
    nd.phase = .idle ∧ ∃ l, st.get ok = some l ∧ canAcquireLease config.identity l now = some false := by
  unfold nodeStep at h
  split at h <;> (repeat' split at h) <;> simp_all

/-- A controller about to `Update` finds the lease in the store. -/
def UpdatesFindLease {n : Nat} (s : Cluster n) : Prop :=
  ∀ i read t seen, (s.nodes i).phase = .updating read t seen → s.store.lease.isSome

namespace Deployment

variable {n : Nat} (D : Deployment n)

theorem updatesFindLease_step {s s' : Cluster n} {a : Action n} (hs : UpdatesFindLease s)
    (h : D.step s a = some s') : UpdatesFindLease s' := by
  rcases D.step_cases h with ⟨i, ok, -, rfl⟩ | ⟨i, -, -, rfl⟩ | ⟨t, -, -, rfl⟩
  · intro j read t seen hj
    by_cases hji : j = i
    · subst hji
      simp only [Function.update_same] at hj ⊢
      have hr : (nodeStep (D.config j) (D.callbacks j) s.clock ok s.store (s.nodes j)).1.phase.read? =
          some (read, seen) := by simp [hj, Phase.read?]
      obtain ⟨hl, -, hst⟩ := nodeStep_read? _ _ _ _ hr
      simp [hst, hl]
    · simp only [Function.update_noteq hji] at hj
      exact nodeStep_lease_isSome _ _ _ _ _ (hs j read t seen hj)
  · intro j read t seen hj
    by_cases hji : j = i
    · subst hji
      simp only [Function.update_same, nodeExit] at hj
      split at hj <;> cases hj
    · simp only [Function.update_noteq hji] at hj
      exact hs j read t seen hj
  · exact hs

/-- The outcomes of `AcquireLease` in the last-writer-wins store, from idle controllers. -/
theorem contention_outcomes {sched : Schedule n} {s₀ s : Cluster n}
    (h₀ : ∀ i, (s₀.nodes i).phase = .idle) (hr : Reachable D.step sched s₀ s) (i : Fin n) :
    (∀ t, (s.nodes i).phase = .creating t →
      (nodeStep (D.config i) (D.callbacks i) s.clock true s.store (s.nodes i)).1.phase =
        if s.store.lease.isSome then .failed else .acquired true) ∧
    (∀ read t seen, (s.nodes i).phase = .updating read t seen →
      (nodeStep (D.config i) (D.callbacks i) s.clock true s.store (s.nodes i)).1.phase =
        .acquired true) ∧
    (∀ ok, (nodeStep (D.config i) (D.callbacks i) s.clock ok s.store (s.nodes i)).1.phase =
        .acquired false →
      ∃ l, s.store.get ok = some l ∧ canAcquireLease (D.config i).identity l s.clock = some false) := by
  have hu : UpdatesFindLease s :=
    hr.induction _ (fun j _ _ _ hj => by simp [h₀ j] at hj) fun _ _ _ hs _ h => D.updatesFindLease_step hs h
  refine ⟨fun t hi => ?_, fun read t seen hi => ?_, fun ok h => (nodeStep_acquired_false _ _ _ _ h).2⟩
  · simp only [nodeStep, hi, if_true, Store.create]
    cases s.store.lease <;> rfl
  · obtain ⟨l, hl⟩ := Option.isSome_iff_exists.1 (hu i read t seen hi)
    simp [nodeStep, hi, Store.update, hl]

end Deployment

/-- `"A"` and `"B"` both find no lease, then both `Create` it: `"A"`'s lands first. Then
`"B"` takes the error branch of `tryAcquireLease`. -/
def createRace : List (Action 2) :=
  [.step 0 true, .step 1 true, .step 0 true, .step 1 true, .step 1 true]

/-- A `Create` that loses the race returns `(false, nil)`. -/
def CreateLossNotError {n : Nat} (D : Deployment n) (s₀ : Cluster n) : Prop :=
  ∀ s, Reachable D.step anySchedule s₀ s → ∀ i t, (s.nodes i).phase = .creating t →
    s.store.lease.isSome →
    (nodeStep (D.config i) (D.callbacks i) s.clock true s.store (s.nodes i)).1.phase = .acquired false

set_option maxRecDepth 10000 in
/-- Two controllers race on an absent lease: `"A"` acquires it, and `"B"`'s `Create` fails,
which `tryAcquireLease` counts as a renewal error. -/
theorem create_race_loser_errs :
    ¬ CreateLossNotError twoControllers (Cluster.start none 0) ∧
    ∃ s, Reachable twoControllers.step anySchedule (Cluster.start none 0) s ∧
      (s.nodes 0).phase = .acquired true ∧ (s.nodes 1).phase = .idle ∧
      (s.nodes 1).ec.renewalErrors = 1 := by
  constructor
  · intro h
    obtain ⟨s, hs, hp, hl⟩ : ∃ s, runActions twoControllers.step (Cluster.start none 0)
        (createRace.take 3) = some s ∧ (s.nodes 1).phase = .creating 0 ∧ s.store.lease.isSome :=
      ⟨_, rfl, by decide, by decide⟩
    have := h s (reachable_runActions .refl (fun _ _ _ => trivial) hs) 1 0 hp hl
    revert this
    rw [show s = _ from Option.some.inj hs.symm]
    decide
  · obtain ⟨s, hs, h₀, h₁, he⟩ : ∃ s, runActions twoControllers.step (Cluster.start none 0)
        createRace = some s ∧ (s.nodes 0).phase = .acquired true ∧
        (s.nodes 1).phase = .idle ∧ (s.nodes 1).ec.renewalErrors = 1 :=
      ⟨_, rfl, by decide, by decide, by decide⟩
    exact ⟨s, reachable_runActions .refl (fun _ _ _ => trivial) hs, h₀, h₁, he⟩

end TalosKmsVault
