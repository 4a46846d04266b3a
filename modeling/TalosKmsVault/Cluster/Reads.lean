import TalosKmsVault.Cluster

/-!
# What holds over every interleaving

Two facts of the shared store hold whatever the schedule, clock advances included.

* *Reads are current until the next write* (`readsCurrent_reachable`): a controller that has
  read the lease and will write back a document built from the read finds the stored lease
  equal to its read, as long as the write count is the one it saw. With no version check,
  nothing stops a write from landing in between; the count only says whether one did.
* *Durations are written from reads and configurations* (`durationsIn_reachable`): every
  stored lease, and every read a controller still holds, has a `leaseDurationSeconds` that
  either came from some controller's configuration or was already in the start state.

From the first, the `Update` of `ReleaseLease` lands on the caller's own lease unless a write
came between its `Get` and its `Update`, and one can (`release_clobbers_takeover`). From the
second, `canAcquireLease` never dereferences a nil duration on a lease the controllers wrote
(`acquireLease_never_panics`), and with whole-second durations the validity window is exactly
the configured one (`lease_window_whole_seconds`). `createLease` stores `int32(d.Seconds())`,
which truncates: a lease of `1.5s` can be taken after one second (`lease_window_fractional`).
-/

namespace TalosKmsVault

/-! ## One controller's step -/

@[simp] theorem Store.create_eq_some {st st' : Store} {l : LeaseSpec} :
    st.create l = some st' ↔ st.lease = none ∧ st' = ⟨some l, st.writes + 1⟩ := by
  unfold Store.create; split <;> simp_all [eq_comm]
@[simp] theorem Store.update_eq_some {st st' : Store} {l : LeaseSpec} :
    st.update l = some st' ↔ st.lease.isSome ∧ st' = ⟨some l, st.writes + 1⟩ := by
  cases h : st.lease <;> simp [Store.update, h, eq_comm]
theorem Store.update_getD (st : Store) (l : LeaseSpec) :
    (st.update l).getD st = st ∨ st.lease.isSome ∧ (st.update l).getD st = ⟨some l, st.writes + 1⟩ := by
  cases h : st.lease <;> simp [Store.update, h]
variable (config : LeaseConfig) (callbacks : LeaderElectionCallbacks) (now : Int) (ok : Bool)
theorem nodeStep_store (st : Store) (nd : Node) :
    (nodeStep config callbacks now ok st nd).2 = st ∨
    (∃ t, nd.phase = .creating t ∧ st.lease = none ∧
      (nodeStep config callbacks now ok st nd).2 = ⟨some (createLease config t), st.writes + 1⟩) ∨
    (∃ read t seen, nd.phase = .updating read t seen ∧ ok = true ∧ st.lease.isSome ∧
      (nodeStep config callbacks now ok st nd).2 = ⟨some (updateLease config.identity read t), st.writes + 1⟩) ∨
    (∃ read seen new, nd.phase = .releaseWriting read seen ∧ releasedLease config.identity read = some new ∧
      st.lease.isSome ∧ (nodeStep config callbacks now ok st nd).2 = ⟨some new, st.writes + 1⟩) := by
  cases hp : nd.phase with
  | creating t => simp only [nodeStep, hp]; split <;> simp_all
  | updating read t seen =>
    simp only [nodeStep, hp]
    split
    · simp_all only [Bool.if_true_right, Option.ite_none_right_eq_some, Store.update_eq_some]
      exact .inr (.inr (.inl ⟨read, t, seen, rfl, by simp_all⟩))
    · exact .inl rfl
  | releaseWriting read seen =>
    simp only [nodeStep, hp]
    split
    · rcases Bool.eq_false_or_eq_true ok with rfl | rfl
      · rcases Store.update_getD st ‹_› with h | h
        · exact .inl h
        · exact .inr (.inr (.inr ⟨read, seen, _, rfl, ‹_›, h⟩))
      · exact .inl rfl
    · exact .inl rfl
  | _ => left; simp only [nodeStep, hp]; all_goals (repeat' split) <;> rfl

theorem nodeStep_updating {st : Store} {nd : Node} {read : LeaseSpec} {t : Int} {seen : Nat}
    (h : (nodeStep config callbacks now ok st nd).1.phase = .updating read t seen) :
    nd.phase = .idle ∧ st.lease = some read ∧ seen = st.writes ∧ t = now ∧
      canAcquireLease config.identity read now = some true := by
  unfold nodeStep at h
  split at h <;> (repeat' split at h) <;> simp_all [Store.get]

theorem nodeStep_releaseWriting {st : Store} {nd : Node} {read : LeaseSpec} {seen : Nat}
    (h : (nodeStep config callbacks now ok st nd).1.phase = .releaseWriting read seen) :
    nd.phase = .releasing ∧ st.lease = some read ∧ seen = st.writes ∧
      (releasedLease config.identity read).isSome := by
  unfold nodeStep at h
  split at h <;> (repeat' split at h) <;> simp_all [Store.get]

theorem nodeStep_writes_le (st : Store) (nd : Node) :
    st.writes ≤ (nodeStep config callbacks now ok st nd).2.writes := by
  rcases nodeStep_store config callbacks now ok st nd with h | ⟨_, -, -, h⟩ | ⟨_, _, _, -, -, -, h⟩ |
    ⟨_, _, _, -, -, -, h⟩ <;> rw [h] <;> simp

theorem nodeStep_panicked {st : Store} {nd : Node}
    (h : (nodeStep config callbacks now ok st nd).1.phase = .panicked) :
    nd.phase = .panicked ∨ ∃ l, st.lease = some l ∧ canAcquireLease config.identity l now = none := by
  unfold nodeStep at h
  split at h <;> (repeat' split at h) <;> simp_all [Store.get]

theorem nodeStep_store_writes (st : Store) (nd : Node) :
    (nodeStep config callbacks now ok st nd).2 = st ∨
      (nodeStep config callbacks now ok st nd).2.writes = st.writes + 1 := by
  rcases nodeStep_store config callbacks now ok st nd with h | ⟨_, -, -, h⟩ | ⟨_, _, _, -, -, -, h⟩ |
    ⟨_, _, _, -, -, -, h⟩ <;> simp [h]

/-- The lease a controller has read and will write back from, with the write count it saw. -/
def Phase.read? : Phase → Option (LeaseSpec × Nat)
  | .updating read _ seen => some (read, seen)
  | .releaseWriting read seen => some (read, seen)
  | _ => none

theorem nodeStep_read? {st : Store} {nd : Node} {read : LeaseSpec} {seen : Nat}
    (h : (nodeStep config callbacks now ok st nd).1.phase.read? = some (read, seen)) :
    st.lease = some read ∧ seen = st.writes ∧ (nodeStep config callbacks now ok st nd).2 = st := by
  have hst (hp : nd.phase = .idle ∨ nd.phase = .releasing) :
      (nodeStep config callbacks now ok st nd).2 = st := by
    rcases nodeStep_store config callbacks now ok st nd with h | ⟨_, h', -⟩ | ⟨_, _, _, h', -⟩ |
      ⟨_, _, _, h', -⟩ <;> first | exact h | (rw [h'] at hp; simp at hp)
  cases hq : (nodeStep config callbacks now ok st nd).1.phase <;> simp [hq, Phase.read?] at h
  case updating =>
    obtain ⟨hp, hl, hs, -⟩ := nodeStep_updating config callbacks now ok hq
    obtain ⟨rfl, rfl⟩ := h
    exact ⟨hl, hs, hst (.inl hp)⟩
  case releaseWriting =>
    obtain ⟨hp, hl, hs, -⟩ := nodeStep_releaseWriting config callbacks now ok hq
    obtain ⟨rfl, rfl⟩ := h
    exact ⟨hl, hs, hst (.inr hp)⟩

@[simp] theorem nodeExit_read? (nd : Node) : (nodeExit nd).phase.read? = none := by
  unfold nodeExit; split <;> rfl

/-! ## The scheduler's step -/

namespace Deployment

variable {n : Nat} (D : Deployment n)

theorem step_cases {s s' : Cluster n} {a : Action n} (h : D.step s a = some s') :
    (∃ i ok, a = .step i ok ∧ s' = { s with
      store := (nodeStep (D.config i) (D.callbacks i) s.clock ok s.store (s.nodes i)).2,
      nodes := Function.update s.nodes i
        (nodeStep (D.config i) (D.callbacks i) s.clock ok s.store (s.nodes i)).1 }) ∨
    (∃ i, a = .exit i ∧ (s.nodes i).phase = .idle ∧
      s' = { s with nodes := Function.update s.nodes i (nodeExit (s.nodes i)) }) ∨
    (∃ t, a = .advance t ∧ s.clock ≤ t ∧ s' = { s with clock := t }) := by
  cases a with
  | step i ok => exact .inl ⟨i, ok, rfl, (Option.some.inj h).symm⟩
  | exit i =>
    simp only [step] at h
    split at h
    · exact .inr (.inl ⟨i, rfl, ‹_›, (Option.some.inj h).symm⟩)
    · cases h
  | advance t =>
    simp only [step] at h
    split at h
    · exact .inr (.inr ⟨t, rfl, ‹_›, (Option.some.inj h).symm⟩)
    · cases h

/-! ## Reads are current until the next write -/

/-- A read held by `nd` is still the stored lease, as long as no write has landed since. -/
def ReadCurrent (st : Store) (nd : Node) : Prop :=
  ∀ read seen, nd.phase.read? = some (read, seen) →
    seen ≤ st.writes ∧ (seen = st.writes → st.lease = some read)

/-- Every controller's read is current until the next write. -/
def ReadsCurrent (s : Cluster n) : Prop := ∀ i, ReadCurrent s.store (s.nodes i)

theorem readCurrent_of_write {st st' : Store} {nd : Node} (h : ReadCurrent st nd)
    (hw : st'.writes = st.writes + 1) : ReadCurrent st' nd := fun read seen hr => by
  have := (h read seen hr).1
  exact ⟨by omega, fun _ => by omega⟩

theorem readsCurrent_step {s s' : Cluster n} {a : Action n} (hs : ReadsCurrent s)
    (h : D.step s a = some s') : ReadsCurrent s' := by
  rcases D.step_cases h with ⟨i, ok, -, rfl⟩ | ⟨i, -, -, rfl⟩ | ⟨t, -, -, rfl⟩
  · intro j
    by_cases hj : j = i
    · subst hj
      intro read seen hr
      simp only [Function.update_same] at hr ⊢
      obtain ⟨hl, rfl, hst⟩ := nodeStep_read? _ _ _ _ hr
      rw [hst]
      exact ⟨le_rfl, fun _ => hl⟩
    · simp only [Function.update_noteq hj]
      rcases nodeStep_store_writes (D.config i) (D.callbacks i) s.clock ok s.store (s.nodes i) with
        hst | hst
      · rw [hst]; exact hs j
      · exact readCurrent_of_write (hs j) hst
  · intro j read seen hr
    by_cases hj : j = i
    · subst hj; simp at hr
    · simp only [Function.update_noteq hj] at hr
      exact hs j read seen hr
  · exact hs

/-- **Reads are current until the next write, over every interleaving.** -/
theorem readsCurrent_reachable {sched : Schedule n} {s₀ s : Cluster n} (h₀ : ReadsCurrent s₀)
    (hr : Reachable D.step sched s₀ s) : ReadsCurrent s :=
  hr.induction _ h₀ fun _ _ _ hs _ h => D.readsCurrent_step hs h

theorem readsCurrent_of_idle {s : Cluster n} (h : ∀ i, (s.nodes i).phase = .idle) :
    ReadsCurrent s := fun i read seen hr => by simp [h i, Phase.read?] at hr

/-! ## `ReleaseLease` and a takeover -/

/-- A controller about to write its release read itself as the holder. -/
def ReleaseGuard (s : Cluster n) : Prop :=
  ∀ i read seen, (s.nodes i).phase = .releaseWriting read seen →
    read.holderIdentity = some (D.config i).identity

theorem releaseGuard_step {s s' : Cluster n} {a : Action n} (hs : D.ReleaseGuard s)
    (h : D.step s a = some s') : D.ReleaseGuard s' := by
  rcases D.step_cases h with ⟨i, ok, -, rfl⟩ | ⟨i, -, -, rfl⟩ | ⟨t, -, -, rfl⟩
  · intro j read seen hr
    by_cases hj : j = i
    · subst hj
      simp only [Function.update_same] at hr
      exact releasedLease_isSome.mp (nodeStep_releaseWriting _ _ _ _ hr).2.2.2
    · simp only [Function.update_noteq hj] at hr
      exact hs j read seen hr
  · intro j read seen hr
    by_cases hj : j = i
    · subst hj
      simp only [Function.update_same, nodeExit] at hr
      split at hr <;> cases hr
    · simp only [Function.update_noteq hj] at hr
      exact hs j read seen hr
  · exact hs

/-- **`ReleaseLease` writes over its own lease unless a write came in between.** A controller
about to issue the `Update` of `ReleaseLease` with no write since its `Get` finds the stored
lease equal to its read, which names it as holder. -/
theorem release_update_lands_on_own_lease {sched : Schedule n} {s₀ s : Cluster n}
    (h₀ : ∀ i, (s₀.nodes i).phase = .idle) (hr : Reachable D.step sched s₀ s) {i : Fin n}
    {read : LeaseSpec} {seen : Nat} (hi : (s.nodes i).phase = .releaseWriting read seen)
    (hw : s.store.writes = seen) :
    s.store.lease = some read ∧ read.holderIdentity = some (D.config i).identity :=
  ⟨(D.readsCurrent_reachable (readsCurrent_of_idle h₀) hr i read seen (by simp [hi, Phase.read?])).2
      hw.symm,
    hr.induction _ (fun j _ _ hj => by simp [h₀ j] at hj) (fun _ _ _ hs _ h => D.releaseGuard_step hs h)
      i read seen hi⟩

/-! ## Durations -/

/-- Every stored lease, and every read a controller holds, has a duration `Q` admits. -/
def DurationsIn (Q : Option Int → Prop) (s : Cluster n) : Prop :=
  (∀ l, s.store.lease = some l → Q l.leaseDurationSeconds) ∧
  ∀ i read seen, (s.nodes i).phase.read? = some (read, seen) → Q read.leaseDurationSeconds

/-- A write copies the duration of the read it was built from, or takes the writer's
configured one. -/
theorem durationsIn_step {Q : Option Int → Prop}
    (hQ : ∀ i, Q (some (toInt32 (seconds (D.config i).leaseDuration)))) {s s' : Cluster n}
    {a : Action n} (hs : DurationsIn Q s) (h : D.step s a = some s') : DurationsIn Q s' := by
  obtain ⟨hst, hrd⟩ := hs
  rcases D.step_cases h with ⟨i, ok, -, rfl⟩ | ⟨i, -, -, rfl⟩ | ⟨t, -, -, rfl⟩
  · constructor
    · intro l hl
      rcases nodeStep_store (D.config i) (D.callbacks i) s.clock ok s.store (s.nodes i) with
        h' | ⟨t, -, -, h'⟩ | ⟨read, t, seen, hp, -, -, h'⟩ | ⟨read, seen, new, hp, hnew, -, h'⟩ <;>
        simp only [h'] at hl
      · exact hst l hl
      · cases hl; exact hQ i
      · cases hl
        simpa using hrd i read seen (by simp [hp, Phase.read?])
      · cases hl
        rw [releasedLease_leaseDurationSeconds hnew]
        exact hrd i read seen (by simp [hp, Phase.read?])
    · intro j read seen hr
      by_cases hj : j = i
      · subst hj
        simp only [Function.update_same] at hr
        exact hst read (nodeStep_read? _ _ _ _ hr).1
      · simp only [Function.update_noteq hj] at hr
        exact hrd j read seen hr
  · refine ⟨hst, fun j read seen hr => ?_⟩
    by_cases hj : j = i
    · subst hj; simp at hr
    · simp only [Function.update_noteq hj] at hr
      exact hrd j read seen hr
  · exact ⟨hst, hrd⟩

theorem durationsIn_reachable {Q : Option Int → Prop}
    (hQ : ∀ i, Q (some (toInt32 (seconds (D.config i).leaseDuration)))) {sched : Schedule n}
    {s₀ s : Cluster n} (h₀ : ∀ l, s₀.store.lease = some l → Q l.leaseDurationSeconds)
    (hn : ∀ i, (s₀.nodes i).phase = .idle) (hr : Reachable D.step sched s₀ s) : DurationsIn Q s :=
  hr.induction _ ⟨h₀, fun i _ _ hi => by simp [hn i, Phase.read?] at hi⟩
    fun _ _ _ hs _ h => D.durationsIn_step hQ hs h

theorem notPanicked_step {s s' : Cluster n} {a : Action n}
    (hp : ∀ i, (s.nodes i).phase ≠ .panicked)
    (hd : ∀ l, s.store.lease = some l → l.leaseDurationSeconds.isSome) (h : D.step s a = some s') :
    ∀ i, (s'.nodes i).phase ≠ .panicked := by
  rcases D.step_cases h with ⟨i, ok, -, rfl⟩ | ⟨i, -, -, rfl⟩ | ⟨t, -, -, rfl⟩
  · intro j hj'
    by_cases hj : j = i
    · subst hj
      simp only [Function.update_same] at hj'
      rcases nodeStep_panicked _ _ _ _ hj' with h' | ⟨l, hl, hc⟩
      · exact hp j h'
      · simpa [hc] using @canAcquireLease_isSome (D.config j).identity _ s.clock (hd l hl)
    · exact hp j (by simpa only [Function.update_noteq hj] using hj')
  · intro j hj'
    by_cases hj : j = i
    · subst hj
      simp only [Function.update_same, nodeExit] at hj'
      split at hj' <;> cases hj'
    · exact hp j (by simpa only [Function.update_noteq hj] using hj')
  · exact hp

/-- **`AcquireLease` never panics on a lease the controllers wrote.** From an absent lease,
every stored lease has a duration, so `canAcquireLease` answers on it, and no controller
panics, over every interleaving. -/
theorem acquireLease_never_panics {sched : Schedule n} {s₀ s : Cluster n}
    (h₀ : s₀.store.lease = none) (hn : ∀ i, (s₀.nodes i).phase = .idle)
    (hr : Reachable D.step sched s₀ s) :
    (∀ l, s.store.lease = some l → l.leaseDurationSeconds.isSome ∧
      ∀ identity now, (canAcquireLease identity l now).isSome) ∧
    ∀ i, (s.nodes i).phase ≠ .panicked := by
  have hd {s : Cluster n} (hr : Reachable D.step sched s₀ s) :=
    (D.durationsIn_reachable (Q := fun d => d.isSome) (fun _ => rfl) (fun l hl => by simp [h₀] at hl)
      hn hr).1
  refine ⟨fun l hl => ⟨hd hr l hl, fun _ now => canAcquireLease_isSome now (hd hr l hl)⟩, ?_⟩
  induction hr with
  | refl => exact fun i => by simp [hn i]
  | tail a hrs _ h ih => exact D.notPanicked_step ih (hd hrs) h

/-- **A whole-second duration gives a window of exactly that duration.** With every controller
configured with `sec` seconds (in the int32 range), every lease in the store, over every
interleaving from an absent lease, has `sec` as its duration, and a lease an identity wrote at
`t` cannot be taken by another identity up to `t` plus `sec` seconds. -/
theorem lease_window_whole_seconds {sec : Nat} (hsec : sec < 2 ^ 31)
    (hD : ∀ i, (D.config i).leaseDuration = ((sec * 1000000000 : Nat) : Int)) {sched : Schedule n}
    {s₀ s : Cluster n} (h₀ : s₀.store.lease = none) (hn : ∀ i, (s₀.nodes i).phase = .idle)
    (hr : Reachable D.step sched s₀ s) {l : LeaseSpec} (hl : s.store.lease = some l) :
    l.leaseDurationSeconds = some (sec : Int) ∧
    ∀ {a b : String} {t now : Int}, l.holderIdentity = some a → l.renewTime = some t → a ≠ b →
      now ≤ t + sec * 1000000000 → canAcquireLease b l now = some false := by
  have hQ (i : Fin n) : some (toInt32 (seconds (D.config i).leaseDuration)) = some (sec : Int) := by
    rw [hD i, toInt32_seconds_whole hsec]
  have hdur := (D.durationsIn_reachable (Q := (· = some (sec : Int))) hQ
    (fun l hl => by simp [h₀] at hl) hn hr).1 l hl
  exact ⟨hdur, fun ha ht hne hnow => canAcquireLease_eq_some_false hne ha ht hdur hnow⟩

end Deployment

set_option maxRecDepth 10000 in
/-- A lease of `1.5s` is stored as one second: `"B"` may take `"A"`'s new lease after `1.2s`. -/
theorem lease_window_fractional :
    ¬ ∀ (d : Int), 0 < d → ∀ (a b : String) (t now : Int), a ≠ b → t ≤ now → now ≤ t + d →
      canAcquireLease b (createLease ⟨a, d⟩ t) now = some false := fun h => by
  have := h 1500000000 (by decide) "A" "B" 0 1200000000 (by decide) (by decide) (by decide)
  revert this
  decide

/-- The run behind the examples of release: `"A"` creates the lease and leads, then exits and
reads the lease for release. -/
def releaseRun : List (Action 2) :=
  [.step 0 true, .step 0 true, .step 0 true, .step 0 true, .exit 0, .step 0 true]

/-- The `Update` of `ReleaseLease` never lands on a lease another identity holds. -/
def ReleaseNeverClobbers {n : Nat} (D : Deployment n) (s₀ : Cluster n) : Prop :=
  ∀ s, Reachable D.step anySchedule s₀ s → ∀ i read seen,
    (s.nodes i).phase = .releaseWriting read seen →
    ∀ l b, s.store.lease = some l → l.holderIdentity = some b → b = (D.config i).identity

/-- `"A"` has read the lease for release; the lease expires and `"B"` takes it over. -/
def takeoverRun : List (Action 2) :=
  releaseRun ++ [.advance 20000000000, .step 1 true, .step 1 true]

/-- Then `"A"`'s release lands, and `"B"` reads the lease and updates its state. -/
def clobberRun : List (Action 2) := takeoverRun ++ [.step 0 true, .step 1 true, .step 1 true]

set_option maxRecDepth 10000 in
/-- `"A"`'s release clears `"B"`'s lease, and `"B"` then leads with no holder in the store. -/
theorem release_clobbers_takeover :
    ¬ ReleaseNeverClobbers twoControllers (Cluster.start none 0) ∧
    ∃ s, Reachable twoControllers.step anySchedule (Cluster.start none 0) s ∧
      (s.nodes 1).ec.isLeader = true ∧ s.store.lease.bind (·.holderIdentity) = none := by
  constructor
  · intro h
    obtain ⟨s, hs, hp, hl⟩ : ∃ s, runActions twoControllers.step (Cluster.start none 0) takeoverRun = some s ∧
        (s.nodes 0).phase = .releaseWriting ⟨some "A", some 15, some 0, some 0, some 0⟩ 1 ∧
        s.store.lease = some ⟨some "B", some 15, some 20000000000, some 20000000000, some 1⟩ :=
      ⟨_, rfl, by decide, by decide⟩
    exact absurd (h s (reachable_runActions .refl (fun _ _ _ => trivial) hs) 0 _ _ hp _ "B"
      hl rfl) (by decide)
  · obtain ⟨s, hs, hp, hl⟩ : ∃ s, runActions twoControllers.step (Cluster.start none 0)
        clobberRun = some s ∧
        (s.nodes 1).ec.isLeader = true ∧ s.store.lease.bind (·.holderIdentity) = none :=
      ⟨_, rfl, by decide, by decide⟩
    exact ⟨s, reachable_runActions .refl (fun _ _ _ => trivial) hs, hp, hl⟩

set_option maxRecDepth 10000 in
theorem release_update_lands_on_own_lease_run :
    ∃ s read, Reachable twoControllers.step anySchedule (Cluster.start none 0) s ∧
      (s.nodes 0).phase = .releaseWriting read 1 ∧ s.store.writes = 1 ∧
      s.store.lease = some read ∧ read.holderIdentity = some "A" := by
  obtain ⟨s, hs, hp, hw⟩ : ∃ s, runActions twoControllers.step (Cluster.start none 0) releaseRun = some s ∧
      (s.nodes 0).phase = .releaseWriting ⟨some "A", some 15, some 0, some 0, some 0⟩ 1 ∧
      s.store.writes = 1 := ⟨_, rfl, by decide, by decide⟩
  have hr : Reachable twoControllers.step anySchedule _ s :=
    reachable_runActions .refl (fun _ _ _ => trivial) hs
  exact ⟨s, _, hr, hp, hw, twoControllers.release_update_lands_on_own_lease (fun _ => rfl) hr hp hw⟩

set_option maxRecDepth 10000 in
theorem acquireLease_never_panics_run :
    ∃ s, Reachable twoControllers.step anySchedule (Cluster.start none 0) s ∧
      s.store.lease.isSome ∧
      (∀ l, s.store.lease = some l → l.leaseDurationSeconds.isSome ∧
        ∀ identity now, (canAcquireLease identity l now).isSome) ∧
      ∀ i, (s.nodes i).phase ≠ .panicked := by
  obtain ⟨s, hs, hl⟩ : ∃ s, runActions twoControllers.step (Cluster.start none 0) clobberRun = some s ∧
      s.store.lease.isSome := ⟨_, rfl, by decide⟩
  have hr : Reachable twoControllers.step anySchedule _ s :=
    reachable_runActions .refl (fun _ _ _ => trivial) hs
  exact ⟨s, hr, hl, twoControllers.acquireLease_never_panics rfl (fun _ => rfl) hr⟩

end TalosKmsVault
