/-!
# Runs of a system

Each concurrent part of the repository is modelled as a step function `step : σ → α → Option σ`
on a state type, with `none` for an action that is not enabled, and a schedule saying which
enabled actions a run may take from a state. `Reachable step sched s₀` is the set of states
the schedule's runs reach from `s₀`; an invariant is proved once per step and extended to every
run with `Reachable.induction`. A concrete run is a list of actions given to `runActions`,
and `reachable_runActions` makes its end state reachable.
-/

namespace TalosKmsVault

variable {σ α : Type} (step : σ → α → Option σ)

/-- The states reached from `s₀` by enabled actions the schedule allows. -/
inductive Reachable (sched : σ → α → Prop) (s₀ : σ) : σ → Prop
  | refl : Reachable sched s₀ s₀
  | tail {s s' : σ} (a : α) : Reachable sched s₀ s → sched s a → step s a = some s' →
      Reachable sched s₀ s'

/-- Every action is allowed. -/
def anySchedule : σ → α → Prop := fun _ _ => True

/-- Run a list of actions; `none` if one is not enabled. -/
def runActions (s : σ) : List α → Option σ
  | [] => some s
  | a :: as => (step s a).bind fun s' => runActions s' as

variable {step}

theorem Reachable.mono {sched sched' : σ → α → Prop} (h : ∀ s a, sched s a → sched' s a)
    {s₀ s : σ} (hr : Reachable step sched s₀ s) : Reachable step sched' s₀ s := by
  induction hr with
  | refl => exact .refl
  | tail a _ ha hs ih => exact .tail a ih (h _ _ ha) hs

theorem Reachable.induction {sched : σ → α → Prop} {s₀ s : σ} (P : σ → Prop) (h₀ : P s₀)
    (hstep : ∀ s a s', P s → sched s a → step s a = some s' → P s')
    (hr : Reachable step sched s₀ s) : P s := by
  induction hr with
  | refl => exact h₀
  | tail a _ ha hs ih => exact hstep _ a _ ih ha hs

theorem Reachable.trans {sched : σ → α → Prop} {s₀ s₁ s : σ} (h₁ : Reachable step sched s₀ s₁)
    (h : Reachable step sched s₁ s) : Reachable step sched s₀ s := by
  induction h with
  | refl => exact h₁
  | tail a _ ha hs ih => exact .tail a ih ha hs

theorem reachable_runActions {sched : σ → α → Prop} {s₀ s₁ s : σ}
    (h₁ : Reachable step sched s₀ s₁) {as : List α} (hall : ∀ a ∈ as, ∀ s, sched s a)
    (h : runActions step s₁ as = some s) : Reachable step sched s₀ s := by
  induction as generalizing s₁ with
  | nil => cases h; exact h₁
  | cons a as ih =>
    obtain ⟨s', hs', hrun⟩ := Option.bind_eq_some.mp h
    exact ih (.tail a h₁ (hall a (List.mem_cons_self _ _) _) hs')
      (fun b hb => hall b (List.mem_cons_of_mem _ hb)) hrun

end TalosKmsVault
