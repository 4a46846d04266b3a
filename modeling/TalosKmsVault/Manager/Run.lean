import TalosKmsVault.Manager

/-!
# Runs of the auth manager in the program

`AuthRun.step` is one statement of `run`'s main goroutine or one pass of the renewal goroutine,
in any interleaving. The main goroutine calls `Start` and `GetClient`, and, when `run` returns,
the deferred `Stop`: it cancels the loop and, once the loop has returned or five seconds have
passed, revokes the token of the manager's client. The renewal goroutine computes its first
wait, passes each time its timer fires, and returns once its context is cancelled. The clock is
the monotonic one and never goes back. Every call the manager makes to its authenticator is
logged with its time and client; Vault's answers are given per call.

**Theorem (`server_client_abandoned`).** `run` hands the KMS server the client `GetClient`
returned, once. From any state where the manager's client is another one, which the renewal
loop's first re-authentication brings about, no later step makes a call with the server's
client: its token is never renewed, replaced or revoked, while the server keeps it. The
invariant behind it: every client the run holds was made already, so later clients are new.

**Theorem (`renewal_not_before_expiry`).** Suppose the Go runtime runs the renewal goroutine
within `δ` of when it is due (`Prompt`). Then a token whose TTL `T` lies between `10 min + 4δ`
and two hours is not renewed before it expires: a pass before `LastRenewal + T` finds no
renewal due, calls nothing, and sets its next timer at or after the expiry. The loop first
sleeps `T/2`, when more than five minutes are left, and then `T/2` again. The invariant: while
the TTL is in that range, the loop's timer fires within `δ` of the half-life, or at or after
the expiry.

**Theorem (`renewal_waits_bounded`).** A pass sets its next wait as `tick` of the renewal model
does for what it observed, so every wait of every run lies between ten seconds and an hour.

**Theorem (`manager_holds_client`).** After a successful `Start` the manager always holds a
client: `run` never takes `GetClient`'s error path, and the loop never finds a nil client.
-/

namespace TalosKmsVault

namespace Auth

/-! ## The run -/

/-- Where `run`'s main goroutine is: before `Start`; returned `Start`'s error, before any
`Stop` is deferred; after `Start`; serving; returning `GetClient`'s error; in the deferred
`Stop` since `stopAt`, `run` then returning `err`; returned `err`. -/
inductive Main
  | init
  | failed (err : String)
  | started
  | serving
  | returning (err : String)
  | stopping (stopAt : Int) (err : Option String)
  | done (err : Option String)
  deriving DecidableEq, Repr

/-- The error `run` returns when it leaves: none once its context is done while serving, or
`GetClient`'s. -/
def Main.returns : Main → Option (Option String)
  | .serving => some none
  | .returning e => some (some e)
  | _ => none

/-- While the deferred `Stop` waits: when it began, and the error `run` returns. -/
def Main.stopWait : Main → Option (Int × Option String)
  | .stopping t e => some (t, e)
  | _ => none

/-- The renewal goroutine: launched by `startRenewal` at a time, waiting on
`time.After(sleepDuration)` until `deadline`, or returned. -/
inductive Renewer
  | launched (time : Int)
  | waiting (sleepDuration deadline : Int)
  | returned
  deriving DecidableEq, Repr

/-- A call the manager made to its authenticator: when, with which client, and which. -/
structure Call where
  time : Int
  client : Nat
  op : Op
  deriving DecidableEq, Repr

/-- A run: the main goroutine, the manager, the renewal goroutine once launched, whether its
context is cancelled, the client `run` gave the KMS server, the number of clients made, the
clock, and the manager's calls so far. -/
structure AuthRun where
  main : Main
  manager : Manager
  loop : Option Renewer
  cancelled : Bool
  server : Option Nat
  clients : Nat
  clock : Int
  calls : List Call
  deriving DecidableEq, Repr

/-- A run once `NewManager` made `m`, at time `now`. -/
def AuthRun.new (m : Manager) (now : Int) : AuthRun := ⟨.init, m, none, false, none, 0, now, []⟩

/-- What a run does next. -/
inductive Act
  | start (now : Int) (r : Replies)
  | getClient
  | shutdown (now : Int)
  | revoke (now : Int)
  | begin (now : Int)
  | wake (now : Int) (r₁ r₂ : Replies)
  | exit

/-- `run` calls `Start` at `now`: after a login with `AutoRenew`, `startRenewal` launches the
loop; on an error `run` returns it. -/
def AuthRun.start (s : AuthRun) (now : Int) (r : Replies) : AuthRun :=
  let p := s.manager.start s.clients now r
  let s' := { s with
    manager := p.1
    clients := s.clients + 1
    clock := now
    calls := s.calls ++ [Call.mk now s.clients .authenticate] }
  match p.2 with
  | .ok () => { s' with
      main := .started
      loop := if p.1.autoRenew then some (.launched now) else s.loop }
  | .error e => { s' with main := .failed e }

/-- `run` calls `GetClient` and hands the client to the KMS server, or returns the error. -/
def AuthRun.getClient (s : AuthRun) : AuthRun :=
  match s.manager.getClient with
  | .ok c => { s with main := .serving, server := some c }
  | .error e => { s with main := .returning e }

/-- `run` returns `err`, and the deferred `Stop` calls `cancelRenewal`, if set, at `now`. -/
def AuthRun.shutdown (s : AuthRun) (now : Int) (err : Option String) : AuthRun :=
  { s with
    main := .stopping now err
    cancelled := s.cancelled || s.manager.renewal
    clock := now }

/-- `Stop`, its wait over, revokes the token of the manager's client, if any, at `now`; `run`
returns `err`. -/
def AuthRun.revoke (s : AuthRun) (now : Int) (err : Option String) : AuthRun :=
  { s with
    main := .done err
    clock := now
    calls := match s.manager.client with
      | some c => s.calls ++ [Call.mk now c .revoke]
      | none => s.calls }

/-- The loop's first statement, `sleepDuration := m.calculateRenewalSleep()`, and its first
`time.After`, at `now`. -/
def AuthRun.begin (s : AuthRun) (now : Int) : AuthRun :=
  let sl := calculateRenewalSleep s.manager.authenticator.tokenTTL
  { s with loop := some (.waiting sl (now + sl)), clock := now }

/-- A pass of the loop that waited `sl`, at `now`, and its next `time.After`. -/
def AuthRun.wake (s : AuthRun) (sl now : Int) (r₁ r₂ : Replies) : AuthRun :=
  let p := s.manager.renewalPass s.clients sl now r₁ r₂
  { s with
    manager := p.1
    clients := p.2.1
    loop := some (.waiting p.2.2.1 (now + p.2.2.1))
    clock := now
    calls := s.calls ++ p.2.2.2.map fun x => Call.mk now x.1 x.2 }

/-- One step of a run; `none` when it is not enabled. `Stop`'s wait is over once the loop has
returned, closing `renewalDone`, or five seconds have passed. -/
def AuthRun.step (s : AuthRun) : Act → Option AuthRun
  | .start now r => if s.main = .init ∧ s.clock ≤ now then some (s.start now r) else none
  | .getClient => if s.main = .started then some s.getClient else none
  | .shutdown now =>
    match s.main.returns with
    | some err => if s.clock ≤ now then some (s.shutdown now err) else none
    | none => none
  | .revoke now =>
    match s.main.stopWait with
    | some (stopAt, err) =>
      if s.clock ≤ now ∧ (s.manager.renewal = false ∨ s.loop = some .returned ∨
          stopAt + 5 * second ≤ now) then some (s.revoke now err) else none
    | none => none
  | .begin now =>
    match s.loop with
    | some (.launched _) => if s.clock ≤ now then some (s.begin now) else none
    | _ => none
  | .wake now r₁ r₂ =>
    match s.loop with
    | some (.waiting sl d) => if d ≤ now ∧ s.clock ≤ now then some (s.wake sl now r₁ r₂) else none
    | _ => none
  | .exit =>
    match s.loop with
    | some (.waiting _ _) => if s.cancelled then some { s with loop := some .returned } else none
    | _ => none

/-- The Go runtime runs the renewal goroutine within `δ` of when it is due: its first statement
within `δ` of its launch, and each pass within `δ` of its timer. -/
def Prompt (δ : Int) (s : AuthRun) : Act → Prop
  | .begin now =>
    match s.loop with
    | some (.launched t) => now ≤ t + δ
    | _ => True
  | .wake now _ _ =>
    match s.loop with
    | some (.waiting _ d) => now ≤ d + δ
    | _ => True
  | _ => True

instance (δ : Int) (s : AuthRun) (a : Act) : Decidable (Prompt δ s a) := by
  unfold Prompt; split <;> (try split) <;> infer_instance

/-! ## What a step can do -/

section Steps

variable {s s' : AuthRun} {a : Act}

theorem AuthRun.step_cases (h : s.step a = some s') :
    (∃ now r, a = .start now r ∧ s.main = .init ∧ s.clock ≤ now ∧ s' = s.start now r) ∨
    (a = .getClient ∧ s.main = .started ∧ s' = s.getClient) ∨
    (∃ now err, a = .shutdown now ∧ s.main.returns = some err ∧ s.clock ≤ now ∧
      s' = s.shutdown now err) ∨
    (∃ now stopAt err, a = .revoke now ∧ s.main.stopWait = some (stopAt, err) ∧ s.clock ≤ now ∧
      s' = s.revoke now err) ∨
    (∃ now t, a = .begin now ∧ s.loop = some (.launched t) ∧ s.clock ≤ now ∧ s' = s.begin now) ∨
    (∃ now r₁ r₂ sl d, a = .wake now r₁ r₂ ∧ s.loop = some (.waiting sl d) ∧ d ≤ now ∧
      s.clock ≤ now ∧ s' = s.wake sl now r₁ r₂) ∨
    (∃ sl d, a = .exit ∧ s.loop = some (.waiting sl d) ∧ s.cancelled = true ∧
      s' = { s with loop := some .returned }) := by
  cases a with
  | start now r =>
    simp only [AuthRun.step, Option.ite_none_right_eq_some, Option.some.injEq] at h
    exact .inl ⟨now, r, rfl, h.1.1, h.1.2, h.2.symm⟩
  | getClient =>
    simp only [AuthRun.step, Option.ite_none_right_eq_some, Option.some.injEq] at h
    exact .inr (.inl ⟨rfl, h.1, h.2.symm⟩)
  | shutdown now =>
    simp only [AuthRun.step] at h
    split at h
    next err hm =>
      simp only [Option.ite_none_right_eq_some, Option.some.injEq] at h
      exact .inr (.inr (.inl ⟨now, err, rfl, hm, h.1, h.2.symm⟩))
    next => cases h
  | revoke now =>
    simp only [AuthRun.step] at h
    split at h
    next stopAt err hm =>
      simp only [Option.ite_none_right_eq_some, Option.some.injEq] at h
      exact .inr (.inr (.inr (.inl ⟨now, stopAt, err, rfl, hm, h.1.1, h.2.symm⟩)))
    next => cases h
  | begin now =>
    simp only [AuthRun.step] at h
    split at h
    next t hl =>
      simp only [Option.ite_none_right_eq_some, Option.some.injEq] at h
      exact .inr (.inr (.inr (.inr (.inl ⟨now, t, rfl, hl, h.1, h.2.symm⟩))))
    next => cases h
  | wake now r₁ r₂ =>
    simp only [AuthRun.step] at h
    split at h
    next sl d hl =>
      simp only [Option.ite_none_right_eq_some, Option.some.injEq] at h
      exact .inr (.inr (.inr (.inr (.inr (.inl ⟨now, r₁, r₂, sl, d, rfl, hl, h.1.1, h.1.2,
        h.2.symm⟩)))))
    next => cases h
  | exit =>
    simp only [AuthRun.step] at h
    split at h
    next sl d hl =>
      simp only [Option.ite_none_right_eq_some, Option.some.injEq] at h
      exact .inr (.inr (.inr (.inr (.inr (.inr ⟨sl, d, rfl, hl, h.1, h.2.symm⟩)))))
    next => cases h

end Steps

/-! ### The fields each step changes -/

section Fields

variable {s : AuthRun} {now : Int} {r : Replies}

@[simp] theorem AuthRun.start_manager :
    (s.start now r).manager = (s.manager.start s.clients now r).1 := by
  unfold AuthRun.start; dsimp only; split <;> rfl

@[simp] theorem AuthRun.start_clients : (s.start now r).clients = s.clients + 1 := by
  unfold AuthRun.start; dsimp only; split <;> rfl

@[simp] theorem AuthRun.start_clock : (s.start now r).clock = now := by
  unfold AuthRun.start; dsimp only; split <;> rfl

@[simp] theorem AuthRun.start_server : (s.start now r).server = s.server := by
  unfold AuthRun.start; dsimp only; split <;> rfl

@[simp] theorem AuthRun.start_calls :
    (s.start now r).calls = s.calls ++ [Call.mk now s.clients .authenticate] := by
  unfold AuthRun.start; dsimp only; split <;> rfl

/-- After `Start`, `run` has returned its error, or goes on with the manager's new client and,
with `AutoRenew`, the loop launched. -/
theorem AuthRun.start_cases (s : AuthRun) (now : Int) (r : Replies) :
    ((∃ e, (s.start now r).main = .failed e) ∧ (s.start now r).loop = s.loop ∧
        (s.manager.start s.clients now r).1.client = s.manager.client) ∨
      ((s.start now r).main = .started ∧
        ((s.start now r).loop = s.loop ∨ (s.start now r).loop = some (.launched now)) ∧
        (s.manager.start s.clients now r).1.client = some s.clients) := by
  have hc := s.manager.start_client s.clients now r
  unfold AuthRun.start
  dsimp only
  split
  · next h =>
    rw [h] at hc
    refine .inr ⟨rfl, ?_, hc⟩
    dsimp only
    split
    · exact .inr rfl
    · exact .inl rfl
  · next e h =>
    rw [h] at hc
    exact .inl ⟨⟨e, rfl⟩, rfl, hc⟩

theorem AuthRun.getClient_of_some {c : Nat} (h : s.manager.client = some c) :
    s.getClient = { s with main := .serving, server := some c } := by
  simp [AuthRun.getClient, Manager.getClient, h]

end Fields

/-! ## Clients -/

/-- Every client the run holds was made already, and the server got its client from a started
manager. From a successful `Start` on, the manager holds a client: `GetClient` never fails, and
the loop runs with a client. -/
structure ClientsMade (s : AuthRun) : Prop where
  client : ∀ c, s.manager.client = some c → c < s.clients
  server : ∀ c, s.server = some c → c < s.clients
  served : s.server.isSome → s.main ≠ .init ∧ s.main ≠ .started
  held : s.main ≠ .init → (∀ e, s.main ≠ .failed e) → s.manager.client.isSome
  looping : s.loop.isSome → s.manager.client.isSome
  noReturn : ∀ e, s.main ≠ .returning e

theorem clientsMade_new {m : Manager} (hm : m.client = none) (t₀ : Int) :
    ClientsMade (AuthRun.new m t₀) :=
  ⟨by simp [AuthRun.new, hm], by simp [AuthRun.new], by simp [AuthRun.new],
    by simp [AuthRun.new], by simp [AuthRun.new], by simp [AuthRun.new]⟩

theorem ClientsMade.step {s s' : AuthRun} {a : Act} (hi : ClientsMade s)
    (h : s.step a = some s') : ClientsMade s' := by
  rcases AuthRun.step_cases h with ⟨now, r, -, hm, -, rfl⟩ | ⟨-, hm, rfl⟩ |
    ⟨now, err, -, hm, -, rfl⟩ | ⟨now, stopAt, err, -, hm, -, rfl⟩ | ⟨now, t, -, hl, -, rfl⟩ |
    ⟨now, r₁, r₂, sl, d, -, hl, -, -, rfl⟩ | ⟨sl, d, -, hl, -, rfl⟩
  · -- `Start`: the server has no client yet, and the new client is the newest
    have hs : s.server = none := by
      cases hs : s.server
      · rfl
      · exact absurd hm (hi.served (by simp [hs])).1
    rcases AuthRun.start_cases s now r with ⟨⟨e, he⟩, hl, hc⟩ | ⟨hst, hl, hc⟩
    · refine ⟨fun c h => ?_, by simp [hs], by simp [hs], fun _ hf => (hf e he).elim, fun h => ?_,
        by simp [he]⟩
      · rw [AuthRun.start_manager, hc] at h
        exact AuthRun.start_clients ▸ Nat.lt_succ_of_lt (hi.client c h)
      · rw [AuthRun.start_manager, hc]
        exact hi.looping (hl ▸ h)
    · refine ⟨?_, ?_, ?_, ?_, ?_, ?_⟩ <;> simp [hs, hst, hc]
  · -- `GetClient`: the manager holds a client, which the server gets
    obtain ⟨c, hc⟩ := Option.isSome_iff_exists.mp (hi.held (by simp [hm]) (by simp [hm]))
    rw [AuthRun.getClient_of_some hc]
    exact ⟨hi.client, by simpa [hc] using hi.client c hc, by simp, fun _ _ => by simp [hc],
      hi.looping, by simp⟩
  · -- `run` returns: it had started
    have hst : s.main ≠ .init ∧ ∀ e, s.main ≠ .failed e := by
      cases hmn : s.main <;> simp_all [Main.returns]
    exact ⟨hi.client, hi.server, fun _ => by simp [AuthRun.shutdown],
      fun _ _ => hi.held hst.1 hst.2, hi.looping, by simp [AuthRun.shutdown]⟩
  · have hst : s.main ≠ .init ∧ ∀ e, s.main ≠ .failed e := by
      cases hmn : s.main <;> simp_all [Main.stopWait]
    exact ⟨hi.client, hi.server, fun _ => by simp [AuthRun.revoke],
      fun _ _ => hi.held hst.1 hst.2, hi.looping, by simp [AuthRun.revoke]⟩
  · exact ⟨hi.client, hi.server, hi.served, hi.held, fun _ => hi.looping (by simp [hl]),
      hi.noReturn⟩
  · -- a pass keeps the client or holds the one it made
    obtain ⟨hc, hle, -⟩ := renewalPass_clients s.manager s.clients sl now r₁ r₂
    have hsome : (s.wake sl now r₁ r₂).manager.client.isSome := by
      have := hi.looping (by simp [hl])
      rcases hc with hc | ⟨hc, -⟩ <;> simp [AuthRun.wake, hc, this]
    refine ⟨?_, fun c h => Nat.lt_of_lt_of_le (hi.server c h) hle, hi.served, fun _ _ => hsome,
      fun _ => hsome, hi.noReturn⟩
    rcases hc with hc | ⟨hc, hn⟩ <;> simp only [AuthRun.wake, hc] <;> intro c h
    · exact Nat.lt_of_lt_of_le (hi.client c h) hle
    · cases h; omega
  · exact ⟨hi.client, hi.server, hi.served, hi.held, fun _ => hi.looping (by simp [hl]),
      hi.noReturn⟩

theorem ClientsMade.server_step {s s' : AuthRun} {a : Act} {c : Nat} (hi : ClientsMade s)
    (hs : s.server = some c) (h : s.step a = some s') : s'.server = some c := by
  rcases AuthRun.step_cases h with ⟨now, r, -, -, -, rfl⟩ | ⟨-, hm, rfl⟩ | ⟨_, _, -, -, -, rfl⟩ |
    ⟨_, _, _, -, -, -, rfl⟩ | ⟨_, _, -, -, -, rfl⟩ | ⟨_, _, _, _, _, -, -, -, -, rfl⟩ |
    ⟨_, _, -, -, -, rfl⟩
  · simpa using hs
  · exact absurd hm (hi.served (by simp [hs])).2
  all_goals exact hs

/-- The manager has moved on from client `c`: it holds another, `c` was made already, and no
call after `pre` used `c`. -/
structure MovedOn (c : Nat) (pre : List Call) (s : AuthRun) : Prop where
  client : s.manager.client ≠ some c
  made : c < s.clients
  calls : ∃ later, s.calls = pre ++ later ∧ ∀ x ∈ later, x.client ≠ c

theorem MovedOn.step {c : Nat} {pre : List Call} {s s' : AuthRun} {a : Act}
    (hmo : MovedOn c pre s) (h : s.step a = some s') : MovedOn c pre s' := by
  obtain ⟨hc, hm, later, hcalls, hl⟩ := hmo
  rcases AuthRun.step_cases h with ⟨now, r, -, -, -, rfl⟩ | ⟨-, -, rfl⟩ | ⟨_, _, -, -, -, rfl⟩ |
    ⟨now, _, err, -, -, -, rfl⟩ | ⟨_, _, -, -, -, rfl⟩ | ⟨now, r₁, r₂, sl, d, -, -, -, -, rfl⟩ |
    ⟨_, _, -, -, -, rfl⟩
  · -- `Start` calls with the client it makes, which is new
    refine ⟨?_, by simp; omega, later ++ [Call.mk now s.clients .authenticate],
      by simp [hcalls], ?_⟩
    · rw [AuthRun.start_manager, Manager.start_client]
      split
      · simp only [ne_eq, Option.some.injEq]; omega
      · exact hc
    · simp only [List.mem_append, List.mem_singleton]
      rintro x (hx | rfl)
      · exact hl x hx
      · exact Nat.ne_of_gt hm
  · unfold AuthRun.getClient
    split <;> exact ⟨hc, hm, later, hcalls, hl⟩
  · exact ⟨hc, hm, later, hcalls, hl⟩
  · -- `Stop` revokes with the manager's client
    refine ⟨hc, hm, ?_⟩
    unfold AuthRun.revoke
    cases hcl : s.manager.client with
    | none => exact ⟨later, hcalls, hl⟩
    | some c' =>
      refine ⟨later ++ [Call.mk now c' .revoke], by simp [hcalls], ?_⟩
      simp only [List.mem_append, List.mem_singleton]
      rintro x (hx | rfl)
      · exact hl x hx
      · exact fun he => hc (he ▸ hcl)
  · exact ⟨hc, hm, later, hcalls, hl⟩
  · -- a pass calls with the manager's client or the one it makes
    obtain ⟨hc', hle, hx⟩ := renewalPass_clients s.manager s.clients sl now r₁ r₂
    refine ⟨?_, Nat.lt_of_lt_of_le hm hle,
      later ++ (s.manager.renewalPass s.clients sl now r₁ r₂).2.2.2.map fun x => Call.mk now x.1 x.2,
      by simp [AuthRun.wake, hcalls], ?_⟩
    · rcases hc' with hc' | ⟨hc', -⟩ <;> simp only [AuthRun.wake, hc']
      · exact hc
      · simp only [ne_eq, Option.some.injEq]; omega
    · simp only [List.mem_append, List.mem_map]
      rintro x (hx | ⟨y, hy, rfl⟩)
      · exact hl x hx
      · show y.1 ≠ c
        rcases hx y hy with hy' | hy'
        · exact fun he => hc (he ▸ hy')
        · omega
  · exact ⟨hc, hm, later, hcalls, hl⟩

/-! ## The waits -/

/-- Every wait the loop sleeps lies between ten seconds and an hour. -/
def Sleeps (s : AuthRun) : Prop := ∀ sl d, s.loop = some (.waiting sl d) → SleepBounded sl

theorem Sleeps.step {s s' : AuthRun} {a : Act} (hs : Sleeps s) (h : s.step a = some s') :
    Sleeps s' := by
  rcases AuthRun.step_cases h with ⟨now, r, -, -, -, rfl⟩ | ⟨-, -, rfl⟩ | ⟨_, _, -, -, -, rfl⟩ |
    ⟨_, _, _, -, -, -, rfl⟩ | ⟨now, t, -, -, -, rfl⟩ | ⟨now, r₁, r₂, sl, d, -, hl, -, -, rfl⟩ |
    ⟨_, _, -, -, -, rfl⟩
  · rcases AuthRun.start_cases s now r with ⟨-, hl, -⟩ | ⟨-, hl | hl, -⟩ <;>
      intro sl d h <;> rw [hl] at h
    · exact hs sl d h
    · exact hs sl d h
    · cases h
  · unfold AuthRun.getClient
    split <;> exact hs
  · exact hs
  · exact hs
  · simp only [AuthRun.begin, Option.some.injEq, Renewer.waiting.injEq]
    rintro sl d ⟨rfl, -⟩
    exact calculateRenewalSleep_bounded _
  · -- the pass refines `tick`, which keeps the bound
    simp only [AuthRun.wake, Option.some.injEq, Renewer.waiting.injEq]
    rintro sl' d ⟨rfl, -⟩
    rw [renewalPass_sleep]
    exact tick_bounded (hs sl d hl) _
  · intro _ _ h
    cases h

/-! ## Renewal against expiry -/

/-- A TTL the loop first checks at half-life with more than five minutes left, when the
goroutine runs within `δ` of when it is due. -/
def Window (δ T : Int) : Prop := 10 * minute + 4 * δ < T ∧ T ≤ 2 * hour

theorem calculateRenewalSleep_half {T : Int} (h₁ : 20 * second ≤ T) (h₂ : T ≤ 2 * hour) :
    calculateRenewalSleep T = T / 2 := by
  unfold calculateRenewalSleep
  dsimp only
  rw [Int.tdiv_eq_ediv (by unfold second at h₁; omega) (by decide)]
  unfold hour minute second at *
  split_ifs <;> omega

theorem calculateRenewalSleep_window {δ T : Int} (hδ : 0 ≤ δ) (h : Window δ T) :
    calculateRenewalSleep T = T / 2 :=
  calculateRenewalSleep_half (by unfold Window minute second at h; unfold second; omega) h.2

/-- In the window, a pass at most `2δ` after the half-life of the lease finds no renewal due. -/
theorem Live.shouldRenew_near_halfLife {δ : Int} {a : Live} {now : Int} (hw : Window δ a.tokenTTL)
    (hb : a.renewBuffer = 5 * minute) (h₁ : a.lastRenewal + a.tokenTTL / 2 ≤ now)
    (h₂ : now ≤ a.lastRenewal + a.tokenTTL / 2 + 2 * δ) : a.shouldRenew now = false := by
  unfold Window minute second at hw
  exact Live.shouldRenew_eq_false (by omega) hw.2 (by rw [hb]; decide)
    (by unfold minute second at hb; omega)

/-- The lease of the manager's token against the loop's timer. Before `Start` there is no
lease and no loop; every TTL is even and `RenewBuffer` five minutes; a lease was taken by the
clock's time. While the TTL is in the window, the loop was launched by the time of the lease,
and its timer fires within `δ` of the half-life or at or after the expiry. -/
structure Timely (δ : Int) (s : AuthRun) : Prop where
  init : s.main = .init → s.manager.authenticator.tokenTTL = 0 ∧ s.loop = none
  even : 2 ∣ s.manager.authenticator.tokenTTL
  buffer : s.manager.authenticator.renewBuffer = 5 * minute
  issued : s.manager.authenticator.tokenTTL ≠ 0 → s.manager.authenticator.lastRenewal ≤ s.clock
  launched : ∀ t, s.loop = some (.launched t) → Window δ s.manager.authenticator.tokenTTL →
    t ≤ s.manager.authenticator.lastRenewal
  timer : ∀ sl d, s.loop = some (.waiting sl d) → Window δ s.manager.authenticator.tokenTTL →
    (s.manager.authenticator.lastRenewal + s.manager.authenticator.tokenTTL / 2 ≤ d ∧
      d ≤ s.manager.authenticator.lastRenewal + s.manager.authenticator.tokenTTL / 2 + δ) ∨
    s.manager.authenticator.lastRenewal + s.manager.authenticator.tokenTTL ≤ d

theorem timely_new {m : Manager} {a : Authenticator} (ha : m.authenticator = Live.init a)
    (δ t₀ : Int) : Timely δ (AuthRun.new m t₀) :=
  ⟨fun _ => by simp [AuthRun.new, ha, Live.init], by simp [AuthRun.new, ha, Live.init],
    by simp [AuthRun.new, ha, Live.init], by simp [AuthRun.new, ha, Live.init],
    by simp [AuthRun.new], by simp [AuthRun.new]⟩

theorem Timely.frame {δ : Int} {s s' : AuthRun} (hi : Timely δ s) (hm : s'.manager = s.manager)
    (hl : s'.loop = s.loop) (hc : s.clock ≤ s'.clock) (hmain : s'.main = .init → s.main = .init) :
    Timely δ s' := by
  obtain ⟨h₁, h₂, h₃, h₄, h₅, h₆⟩ := hi
  refine ⟨fun h => ?_, hm ▸ h₂, hm ▸ h₃, fun h => ?_, ?_, ?_⟩
  · rw [hm, hl]; exact h₁ (hmain h)
  · rw [hm] at h ⊢; exact (h₄ h).trans hc
  · rw [hm, hl]; exact h₅
  · rw [hm, hl]; exact h₆

theorem Timely.step {δ : Int} (hδ : 0 ≤ δ) {s s' : AuthRun} {a : Act} (hi : Timely δ s)
    (hp : Prompt δ s a) (h : s.step a = some s') (hs' : Sleeps s') : Timely δ s' := by
  rcases AuthRun.step_cases h with ⟨now, r, -, hm, hc, rfl⟩ | ⟨-, -, rfl⟩ |
    ⟨now, err, -, -, hc, rfl⟩ | ⟨now, _, err, -, -, hc, rfl⟩ | ⟨now, t, rfl, hl, hc, rfl⟩ |
    ⟨now, r₁, r₂, sl, d, rfl, hl, hd, hc, rfl⟩ | ⟨_, _, -, hl, -, rfl⟩
  · -- `Start`: the first lease, if any, is taken at `now`, when the loop is launched
    obtain ⟨h0, hl0⟩ := hi.init hm
    have hT : Timing s.manager.authenticator (s.start now r).manager.authenticator now := by
      rw [AuthRun.start_manager, Manager.start_authenticator]
      exact authenticate_timing _ _ _
    have hlease : (s.start now r).manager.authenticator.tokenTTL ≠ 0 →
        (s.start now r).manager.authenticator.lastRenewal = now := by
      rcases hT.2 with ⟨h₁, -⟩ | ⟨_, -, h₂⟩
      · exact fun h => absurd (h₁.trans h0) h
      · exact fun _ => h₂
    have hloop : (s.start now r).loop = none ∨ (s.start now r).loop = some (.launched now) := by
      rcases AuthRun.start_cases s now r with ⟨-, hl, -⟩ | ⟨-, hl | hl, -⟩
      · exact .inl (hl.trans hl0)
      · exact .inl (hl.trans hl0)
      · exact .inr hl
    have hmain : (s.start now r).main ≠ .init := by
      rcases AuthRun.start_cases s now r with ⟨⟨e, he⟩, -⟩ | ⟨he, -⟩ <;>
        simp [he]
    refine ⟨fun h => absurd h hmain, timing_even hT (h0 ▸ dvd_zero 2), hT.1.trans hi.buffer,
      fun hne => by rw [hlease hne, AuthRun.start_clock], fun t ht hw => ?_, fun sl d ht _ => ?_⟩
    · rcases hloop with h' | h' <;> rw [h'] at ht <;> cases ht
      unfold Window minute second at hw
      exact (hlease (by omega)).ge
    · rcases hloop with h' | h' <;> rw [h'] at ht <;> cases ht
  · unfold AuthRun.getClient
    split <;> exact hi.frame rfl rfl le_rfl (by simp)
  · exact hi.frame rfl rfl hc (by simp [AuthRun.shutdown])
  · exact hi.frame rfl rfl hc (by simp [AuthRun.revoke])
  · -- the first wait: the loop starts within `δ` of the lease, and waits half the TTL
    simp only [Prompt, hl] at hp
    refine ⟨fun h => absurd (hi.init h).2 (by simp [hl]), hi.even, hi.buffer,
      fun hne => (hi.issued hne).trans hc, by simp [AuthRun.begin], ?_⟩
    simp only [AuthRun.begin, Option.some.injEq, Renewer.waiting.injEq]
    rintro sl d ⟨-, rfl⟩ hw
    have ht := hi.launched t hl hw
    have hL := hi.issued (by unfold Window minute second at hw; omega)
    rw [calculateRenewalSleep_window hδ hw]
    left; omega
  · -- a pass: a new lease restarts at half its TTL; a pass at half-life changes nothing and
    -- waits half the TTL again, which reaches the expiry
    simp only [Prompt, hl] at hp
    obtain ⟨hnd, hb, hlease⟩ := renewalPass_lease s.manager s.clients sl now r₁ r₂
    refine ⟨fun h => absurd (hi.init h).2 (by simp [hl]), ?_, hb.trans hi.buffer, ?_,
      by simp [AuthRun.wake], ?_⟩
    · rcases hlease with ⟨h₁, -⟩ | ⟨⟨d', h₁⟩, -⟩
      · exact h₁ ▸ hi.even
      · exact h₁ ▸ even_wrapInt_seconds d'
    · rcases hlease with ⟨h₁, h₂⟩ | ⟨-, h₂, -⟩ <;> intro hne
      · simp only [AuthRun.wake] at hne ⊢
        rw [h₂]
        exact (hi.issued (h₁ ▸ hne)).trans hc
      · simp [AuthRun.wake, h₂]
    · intro sl' d' h' hw
      have hsl := hs' sl' d' h'
      simp only [AuthRun.wake, Option.some.injEq, Renewer.waiting.injEq] at h' hw ⊢
      obtain ⟨rfl, rfl⟩ := h'
      rcases hlease with ⟨h₁, h₂⟩ | ⟨-, h₂, h₃⟩
      · rw [h₁] at hw
        rw [h₁, h₂]
        rcases hi.timer sl d hl hw with ⟨hd₁, hd₂⟩ | hd₁
        · -- at half-life more than five minutes are left
          have hdue : s.manager.authenticator.shouldRenew now = false :=
            Live.shouldRenew_near_halfLife hw hi.buffer (by omega) (by omega)
          rw [(hnd hdue).2, calculateRenewalSleep_window hδ hw]
          have he := hi.even
          right; omega
        · unfold SleepBounded second at hsl
          right; omega
      · rw [h₂, h₃, calculateRenewalSleep_window hδ hw]
        left; omega
  · refine ⟨fun h => absurd (hi.init h).2 (by simp [hl]), hi.even, hi.buffer, hi.issued,
      by simp, by simp⟩

/-! ## The program's runs -/

section Program

variable {env : Env} {m : Manager} {t₀ : Int}

theorem clientsMade_of_reachable (hm : runManager env = .ok m) {sched : AuthRun → Act → Prop}
    {s : AuthRun} (hr : Reachable AuthRun.step sched (AuthRun.new m t₀) s) : ClientsMade s :=
  hr.induction ClientsMade (clientsMade_new (runManager_eq_ok hm).1 t₀)
    fun _ _ _ hi _ h => hi.step h

/-- **No renewal before expiry.** With the renewal goroutine run within `δ` of when it is due,
a pass at a time the schedule allows before a token of TTL in `(10 min + 4δ, 2 h]` expires finds
no renewal due: it calls nothing, keeps the manager, and sets its next timer at or after the
expiry. -/
theorem renewal_not_before_expiry {δ : Int} {s : AuthRun} (hm : runManager env = .ok m)
    (hδ : 0 ≤ δ) (hr : Reachable AuthRun.step (Prompt δ) (AuthRun.new m t₀) s)
    (hT : 10 * minute + 4 * δ < s.manager.authenticator.tokenTTL ∧
      s.manager.authenticator.tokenTTL ≤ 2 * hour)
    {sl d now : Int} (hw : s.loop = some (.waiting sl d)) (hnow : d ≤ now ∧ now ≤ d + δ)
    (hexp : now < s.manager.authenticator.lastRenewal + s.manager.authenticator.tokenTTL) :
    s.manager.authenticator.shouldRenew now = false ∧
      ∀ r₁ r₂ s', s.step (.wake now r₁ r₂) = some s' →
        s'.manager = s.manager ∧ s'.calls = s.calls ∧
        ∃ sl', s'.loop = some (.waiting sl' (now + sl')) ∧
          s.manager.authenticator.lastRenewal + s.manager.authenticator.tokenTTL ≤ now + sl' := by
  obtain ⟨-, a, ha⟩ := runManager_eq_ok hm
  have ht : Timely δ s := (hr.induction (fun s => Timely δ s ∧ Sleeps s)
    ⟨timely_new ha δ t₀, fun _ _ h => by cases h⟩
    fun _ _ _ ⟨ht, hs⟩ hp h => ⟨ht.step hδ hp h (hs.step h), hs.step h⟩).1
  have he := ht.even
  -- the pass comes within `δ` of the half-life: a timer at the expiry is too late
  obtain ⟨hd₁, hd₂⟩ : s.manager.authenticator.lastRenewal + s.manager.authenticator.tokenTTL / 2 ≤ d ∧
      d ≤ s.manager.authenticator.lastRenewal + s.manager.authenticator.tokenTTL / 2 + δ := by
    rcases ht.timer sl d hw hT with h | h
    · exact h
    · omega
  have hdue : s.manager.authenticator.shouldRenew now = false :=
    Live.shouldRenew_near_halfLife hT ht.buffer (by omega) (by omega)
  refine ⟨hdue, fun r₁ r₂ s' h => ?_⟩
  simp only [AuthRun.step, hw] at h
  split at h
  · cases h
    simp only [AuthRun.wake, renewalPass_of_not_due hdue, List.map_nil, List.append_nil,
      Option.some.injEq, Renewer.waiting.injEq, true_and]
    rw [calculateRenewalSleep_window hδ hT]
    exact ⟨_, ⟨rfl, rfl⟩, by omega⟩
  · cases h

/-- **Every wait of every run is bounded.** A pass computes its next wait as `tick` of the
renewal model does, for what it observed; so the loop of every run waits between ten seconds
and an hour. -/
theorem renewal_waits_bounded :
    (∀ (m : Manager) (client : Nat) (sl now : Int) (r₁ r₂ : Replies),
      (m.renewalPass client sl now r₁ r₂).2.2.1 = tick sl (m.observe now r₁ r₂)) ∧
    ∀ (m : Manager) (t₀ : Int) (s : AuthRun),
      Reachable AuthRun.step anySchedule (AuthRun.new m t₀) s →
      ∀ sl d, s.loop = some (.waiting sl d) → 10 * second ≤ sl ∧ sl ≤ hour :=
  ⟨renewalPass_sleep, fun _ _ _ hr =>
    hr.induction Sleeps (fun _ _ h => by cases h) fun _ _ _ hs _ h => hs.step h⟩

/-- **The manager holds a client from `Start` on.** After a successful `Start`, `GetClient`
returns a client the run made, also after `Stop` revoked its token; `run` never returns
`GetClient`'s error, and the loop never finds a nil client. -/
theorem manager_holds_client {s : AuthRun} (hm : runManager env = .ok m)
    (hr : Reachable AuthRun.step anySchedule (AuthRun.new m t₀) s) :
    (s.main ≠ .init → (∀ e, s.main ≠ .failed e) →
      ∃ c, s.manager.getClient = .ok c ∧ c < s.clients) ∧
    (∀ e, s.main ≠ .returning e) ∧ (s.loop.isSome → s.manager.client.isSome) := by
  have hi := clientsMade_of_reachable hm hr
  refine ⟨fun h₁ h₂ => ?_, hi.noReturn, hi.looping⟩
  obtain ⟨c, hc⟩ := Option.isSome_iff_exists.mp (hi.held h₁ h₂)
  exact ⟨c, by simp [Manager.getClient, hc], hi.client c hc⟩

end Program

/-! ## Runs with a token -/

/-- An environment with a Vault token and address. -/
def tokenEnv : Env :=
  ⟨fun k => if k = "VAULT_TOKEN" then "s.kms" else if k = "VAULT_ADDR" then "https://vault:8200" else "",
    fun _ => false, id⟩

/-- The manager `run` makes in `tokenEnv`. -/
def tokenManager : Manager :=
  ⟨Live.init ⟨authMethodToken, "https://vault:8200", .token "s.kms"⟩, none, true, false⟩

theorem runManager_tokenEnv : runManager tokenEnv = .ok tokenManager := rfl

/-- Vault's answers when every call succeeds and reports a renewable token of `ttl` seconds. -/
def answers (ttl : Int) : Replies :=
  ⟨.ok (), .ok (), .ok ⟨some ttl, some true⟩, .ok (some ttl), .ok none, .ok (), .ok ""⟩

/-- Vault's answers when every call fails. -/
def failures : Replies :=
  ⟨.error "e", .error "e", .error "e", .error "e", .error "e", .error "e", .error "e"⟩

/-- A one-hour token, the goroutine on time: half an hour in, no renewal is due. -/
theorem renewal_not_before_expiry_hour :
    let s := ((AuthRun.new tokenManager 0).start 0 (answers 3600)).begin 0
    Reachable AuthRun.step (Prompt 0) (AuthRun.new tokenManager 0) s ∧
      s.manager.authenticator.shouldRenew (30 * minute) = false := by
  intro s
  have hr : Reachable AuthRun.step (Prompt 0) (AuthRun.new tokenManager 0) s :=
    .tail (.begin 0) (.tail (.start 0 (answers 3600)) .refl trivial rfl) (by decide) rfl
  exact ⟨hr, (renewal_not_before_expiry runManager_tokenEnv le_rfl hr (by decide) rfl (by decide)
    (by decide)).1⟩

/-- The same token, the goroutine on time: the pass at half an hour calls nothing, and the
renewal comes at the hour, as the token expires. -/
example : (runActions AuthRun.step (AuthRun.new tokenManager 0)
      [.start 0 (answers 3600), .getClient, .begin 0, .wake (30 * minute) failures failures,
        .wake hour (answers 3600) failures]).map AuthRun.calls =
    some [⟨0, 0, .authenticate⟩, ⟨hour, 0, .renew⟩] := by decide

/-- After `Start` and `GetClient`, the manager holds the server's client. -/
theorem manager_holds_client_serving :
    ∃ s, Reachable AuthRun.step anySchedule (AuthRun.new tokenManager 0) s ∧ s.main = .serving ∧
      ((s.main ≠ .init → (∀ e, s.main ≠ .failed e) →
          ∃ c, s.manager.getClient = .ok c ∧ c < s.clients) ∧
        (∀ e, s.main ≠ .returning e) ∧ (s.loop.isSome → s.manager.client.isSome)) := by
  obtain ⟨s, hs, h₁⟩ : ∃ s, runActions AuthRun.step (AuthRun.new tokenManager 0)
      [.start 0 (answers 60), .getClient] = some s ∧ s.main = .serving := ⟨_, rfl, rfl⟩
  have hr := reachable_runActions .refl (fun _ _ _ => trivial) hs
  exact ⟨s, hr, h₁, manager_holds_client runManager_tokenEnv hr⟩

end Auth

end TalosKmsVault
