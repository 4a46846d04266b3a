import TalosKmsVault.Authenticate
import TalosKmsVault.System

/-!
# The auth manager, and the program's use of it

`run` builds the auth config from the environment, checks it with `ValidateConfig`, makes a
`Manager` and calls `Start`: a first login, after which, with `AutoRenew`, a goroutine runs
`renewalLoop`. `run` then asks `GetClient` for the client, gives it to the KMS server, serves,
and on shutdown calls `Stop`, which cancels the loop, waits for it at most five seconds, and
revokes the token of the manager's client.

A pass of `renewalLoop` asks `ShouldRenew`. If a renewal is due it calls `Renew` with the
manager's client, and if that fails, `Authenticate`, whose new client replaces the manager's.
It then sets its next wait: `calculateRenewalSleep` of the TTL the authenticator reports, ten
seconds for a nil client, and a doubled wait capped at five minutes after a failed login.

Vault's answers are given per call (`Replies`). The interleavings of `run` with the loop are in
`TalosKmsVault.Manager.Run`.

**Theorem (`renewalPass_sleep`).** A pass sets its next wait as `tick` of the renewal model
does, from what the pass observed (`Manager.observe`).
-/

namespace TalosKmsVault

namespace Auth

/-! ## The manager -/

/-- The fields of `Manager` its methods use: the authenticator, the client (nil as `none`),
`config.AutoRenew`, and whether `startRenewal` has set `cancelRenewal` and `renewalDone`.
Clients are numbered in the order `Authenticate` made them. -/
structure Manager where
  authenticator : Live
  client : Option Nat
  autoRenew : Bool
  renewal : Bool
  deriving DecidableEq, Repr

/-- `NewManager`; a nil config is `none`. -/
def newManager (env : Env) : Option AuthConfig → Except String Manager
  | none => .error "auth config is required"
  | some config =>
    match newAuthenticator env (some config) with
    | .error e => .error ("failed to create authenticator: " ++ e)
    | .ok a => .ok ⟨Live.init a, none, config.autoRenew, false⟩

/-- The start of `run`: the config from the environment, `ValidateConfig`, and `NewManager`. -/
def runManager (env : Env) : Except String Manager :=
  let config := newAuthConfigFromEnvironment env
  match validateConfig (some config) with
  | .error e => .error e
  | .ok () => newManager env (some config)

/-- `Start` at `now`; `client` is the number of the client `Authenticate` makes. With
`AutoRenew` it calls `startRenewal`. -/
def Manager.start (m : Manager) (client : Nat) (now : Int) (r : Replies) :
    Manager × Except String Unit :=
  let auth := m.authenticator.authenticate now r
  match auth.2 with
  | .error e => ({ m with authenticator := auth.1 }, .error ("initial authentication failed: " ++ e))
  | .ok () =>
    ({ m with
      authenticator := auth.1
      client := some client
      renewal := m.autoRenew || m.renewal }, .ok ())

def Manager.getClient (m : Manager) : Except String Nat :=
  match m.client with
  | none => .error "not authenticated"
  | some c => .ok c

/-- `ForceRenewal` at `now`; `client` as in `start`. No code of the program calls it. -/
def Manager.forceRenewal (m : Manager) (client : Nat) (now : Int) (r₁ r₂ : Replies) :
    Manager × Except String Unit :=
  match m.client with
  | none => (m, .error "not authenticated")
  | some _ =>
    let renewed := m.authenticator.renew now r₁
    match renewed.2 with
    | .ok () => ({ m with authenticator := renewed.1 }, .ok ())
    | .error _ =>
      let reauth := renewed.1.authenticate now r₂
      match reauth.2 with
      | .error e =>
        ({ m with authenticator := reauth.1 }, .error ("renewal and re-authentication failed: " ++ e))
      | .ok () => ({ m with authenticator := reauth.1, client := some client }, .ok ())

/-- What the manager asks an authenticator to do. -/
inductive Op
  | authenticate
  | renew
  | revoke
  deriving DecidableEq, Repr

/-- One pass of `renewalLoop` whose `time.After(sleepDuration)` fired, at `now`: the manager
after it, the number of the next client, the next `sleepDuration`, and the calls it made with
their clients. `client` is the number of the client an `Authenticate` would make. -/
def Manager.renewalPass (m : Manager) (client : Nat) (sleepDuration now : Int) (r₁ r₂ : Replies) :
    Manager × Nat × Int × List (Nat × Op) :=
  if !m.authenticator.shouldRenew now then
    (m, client, calculateRenewalSleep m.authenticator.tokenTTL, [])
  else match m.client with
    | none => (m, client, 10 * second, [])
    | some c =>
      let renewed := m.authenticator.renew now r₁
      match renewed.2 with
      | .ok () => ({ m with authenticator := renewed.1 }, client,
          calculateRenewalSleep renewed.1.tokenTTL, [(c, .renew)])
      | .error _ =>
        let reauth := renewed.1.authenticate now r₂
        match reauth.2 with
        | .error _ => ({ m with authenticator := reauth.1 }, client + 1,
            Auth.min (wrapInt 64 (sleepDuration * 2)) (5 * minute),
            [(c, .renew), (client, .authenticate)])
        | .ok () => ({ m with authenticator := reauth.1, client := some client }, client + 1,
            calculateRenewalSleep reauth.1.tokenTTL, [(c, .renew), (client, .authenticate)])

theorem runManager_eq_ok {env : Env} {m : Manager} (h : runManager env = .ok m) :
    m.client = none ∧ ∃ a, m.authenticator = Live.init a := by
  unfold runManager newManager at h
  dsimp only at h
  split at h
  · cases h
  · split at h
    · cases h
    · cases h; exact ⟨rfl, _, rfl⟩

theorem Manager.start_authenticator (m : Manager) (client : Nat) (now : Int) (r : Replies) :
    (m.start client now r).1.authenticator = (m.authenticator.authenticate now r).1 := by
  unfold Manager.start; dsimp only; split <;> rfl

theorem Manager.start_autoRenew (m : Manager) (client : Nat) (now : Int) (r : Replies) :
    (m.start client now r).1.autoRenew = m.autoRenew := by
  unfold Manager.start; dsimp only; split <;> rfl

theorem Manager.start_client (m : Manager) (client : Nat) (now : Int) (r : Replies) :
    (m.start client now r).1.client =
      match (m.start client now r).2 with
      | .ok () => some client
      | .error _ => m.client := by
  unfold Manager.start; dsimp only; split <;> rfl

theorem renewalPass_of_not_due {m : Manager} {now : Int} (h : m.authenticator.shouldRenew now = false)
    (client : Nat) (sl : Int) (r₁ r₂ : Replies) :
    m.renewalPass client sl now r₁ r₂ =
      (m, client, calculateRenewalSleep m.authenticator.tokenTTL, []) := by
  simp [Manager.renewalPass, h]

/-! ## The pass refines the renewal model -/

/-- What a pass observes, as the `Tick` of the renewal model: `ShouldRenew`, a nil client, the
results of `Renew` and of `Authenticate`, and the TTL `calculateRenewalSleep` reads. -/
def Manager.observe (m : Manager) (now : Int) (r₁ r₂ : Replies) : Tick :=
  let renewed := m.authenticator.renew now r₁
  let reauth := renewed.1.authenticate now r₂
  ⟨m.authenticator.shouldRenew now, m.client.isNone, renewed.2, reauth.2,
    if !m.authenticator.shouldRenew now then m.authenticator.tokenTTL
    else match renewed.2 with
      | .ok () => renewed.1.tokenTTL
      | .error _ => reauth.1.tokenTTL⟩

theorem renewalPass_sleep (m : Manager) (client : Nat) (sl now : Int) (r₁ r₂ : Replies) :
    (m.renewalPass client sl now r₁ r₂).2.2.1 = tick sl (m.observe now r₁ r₂) := by
  unfold Manager.renewalPass Manager.observe tick
  cases m.authenticator.shouldRenew now
  · rfl
  · cases m.client
    · rfl
    · dsimp only
      cases (m.authenticator.renew now r₁).2
      · dsimp only
        cases ((m.authenticator.renew now r₁).1.authenticate now r₂).2 <;> rfl
      · rfl

/-! ## What a pass does to the client and the lease -/

/-- A pass keeps the manager's client or replaces it with the one its `Authenticate` made, and
calls the authenticator only with these two. -/
theorem renewalPass_clients (m : Manager) (client : Nat) (sl now : Int) (r₁ r₂ : Replies) :
    let p := m.renewalPass client sl now r₁ r₂
    (p.1.client = m.client ∨ p.1.client = some client ∧ p.2.1 = client + 1) ∧ client ≤ p.2.1 ∧
      ∀ x ∈ p.2.2.2, m.client = some x.1 ∨ x.1 = client := by
  unfold Manager.renewalPass
  split
  · exact ⟨.inl rfl, le_rfl, by simp⟩
  split
  · exact ⟨.inl rfl, le_rfl, by simp⟩
  rename_i c hc
  dsimp only
  split
  · exact ⟨.inl rfl, le_rfl, by simp [hc]⟩
  split
  · exact ⟨.inl rfl, Nat.le_succ _, by simp [hc]⟩
  · exact ⟨.inr ⟨rfl, rfl⟩, Nat.le_succ _, by simp [hc]⟩

/-- A pass that finds no renewal due changes nothing but the wait. Any pass keeps
`RenewBuffer`, and keeps the lease or takes a new one at `now`, after which it waits
`calculateRenewalSleep` of it. -/
theorem renewalPass_lease (m : Manager) (client : Nat) (sl now : Int) (r₁ r₂ : Replies) :
    let p := m.renewalPass client sl now r₁ r₂
    (m.authenticator.shouldRenew now = false → p.1.authenticator = m.authenticator ∧
      p.2.2.1 = calculateRenewalSleep m.authenticator.tokenTTL) ∧
    p.1.authenticator.renewBuffer = m.authenticator.renewBuffer ∧
    ((p.1.authenticator.tokenTTL = m.authenticator.tokenTTL ∧
        p.1.authenticator.lastRenewal = m.authenticator.lastRenewal) ∨
      (∃ d, p.1.authenticator.tokenTTL = wrapInt 64 (d * second)) ∧
        p.1.authenticator.lastRenewal = now ∧
        p.2.2.1 = calculateRenewalSleep p.1.authenticator.tokenTTL) := by
  by_cases hdue : m.authenticator.shouldRenew now = false
  · rw [renewalPass_of_not_due hdue]
    exact ⟨fun _ => ⟨rfl, rfl⟩, rfl, .inl ⟨rfl, rfl⟩⟩
  refine ⟨fun h => absurd h hdue, ?_⟩
  unfold Manager.renewalPass
  rw [if_neg (by simpa using hdue)]
  split
  · exact ⟨rfl, .inl ⟨rfl, rfl⟩⟩
  dsimp only
  split
  · -- `Renew` succeeded
    obtain ⟨hb, ⟨h₁, h₂⟩ | ⟨d, h₁, h₂⟩⟩ := renew_timing m.authenticator now r₁
    · exact ⟨hb, .inl ⟨h₁, h₂⟩⟩
    · exact ⟨hb, .inr ⟨⟨d, h₁⟩, h₂, rfl⟩⟩
  -- a failed `Renew` left the authenticator as it was
  rw [renew_of_error ‹_›]
  split
  · obtain ⟨h₁, h₂, h₃⟩ := authenticate_of_error ‹_›
    exact ⟨h₃, .inl ⟨h₁, h₂⟩⟩
  · obtain ⟨h₃, ⟨h₁, h₂⟩ | ⟨d, h₁, h₂⟩⟩ := authenticate_timing m.authenticator now r₂
    · exact ⟨h₃, .inl ⟨h₁, h₂⟩⟩
    · exact ⟨h₃, .inr ⟨⟨d, h₁⟩, h₂, rfl⟩⟩

end Auth

end TalosKmsVault
