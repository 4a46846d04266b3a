import TalosKmsVault.AuthConfig

/-!
# Logging in to Vault and renewing the token

Each authenticator logs in (`Authenticate`), renews its token (`Renew`) and revokes it
(`Revoke`) through a Vault client. A login or renewal whose answer carries a lease stores the
lease as `TokenTTL` and the time of the answer as `LastRenewal`. `ShouldRenew` holds once the
time left, `TokenTTL` less the time since `LastRenewal`, is at most `RenewBuffer`, which every
constructor sets to five minutes; a `TokenTTL` of zero is never renewed.

The methods differ where a renewal fails. The token authenticator gives up. The Kubernetes one
reads the service-account token again and logs in with it only if it differs from the one of
its last `Authenticate`, which stores the token it read before it logs in. The AppRole one logs
in again with its role id, if it has one.

**Vault and the file system.** Vault's answer to each call a method makes, and what
`os.ReadFile` returns for the service-account token, are given per call of the method
(`Replies`), so every result holds whatever Vault answers. Times are readings of the monotonic
clock in nanoseconds. What a method sends (the token, the JWT, the role and secret ids, the
mount path) changes no answer here, so it is not modelled.

**Theorem (`authenticate_timing`, `renew_timing`).** Every method leaves `TokenTTL` and
`LastRenewal` as they were, or sets them to a lease in whole seconds and the time of the call,
and keeps `RenewBuffer`. So every `TokenTTL` the authenticators set is even
(`timing_even`), which the renewal loop's halving relies on.
-/

namespace TalosKmsVault

namespace Auth

/-! ## Vault's answers -/

/-- `resp.Auth` of a login: `ClientToken`, `LeaseDuration` in seconds, and `Metadata`, a nil
map being the empty list. -/
structure LoginAuth where
  clientToken : String
  leaseDuration : Int
  metadata : List (String × String)
  deriving DecidableEq, Repr

/-- What the token authenticator reads from the answer to `TokenLookUpSelf`: `Data["ttl"]`
when it is a float64, as `time.Duration(ttl)` converts it, and `Data["renewable"]` when it is
a bool. -/
structure LookupData where
  ttl : Option Int
  renewable : Option Bool
  deriving DecidableEq, Repr

/-- Vault's answers to the calls one method makes (each at most once), and what `os.ReadFile`
returns for the service-account token. The `Auth` block of a renewal is given by its
`LeaseDuration`, `none` when nil, and that of a login by `LoginAuth`. -/
structure Replies where
  new : Except String Unit
  setToken : Except String Unit
  lookUpSelf : Except String LookupData
  renewSelf : Except String (Option Int)
  login : Except String (Option LoginAuth)
  revokeSelf : Except String Unit
  readFile : Except String String

/-! ## Time and text -/

/-- `Time.Sub` on two monotonic readings: the difference, saturated to the range of a
`Duration`. `time.Since(t)` is `timeSub now t`. -/
def timeSub (t u : Int) : Int := max (-2 ^ 63) (min (2 ^ 63 - 1) (t - u))

theorem timeSub_of_lt {t u : Int} (h₀ : u ≤ t) (h₁ : t - u < 2 ^ 63) : timeSub t u = t - u := by
  unfold timeSub; omega

def isSpace (c : Char) : Bool :=
  c == '\t' || c == '\n' || c.toNat == 0x0b || c.toNat == 0x0c || c == '\r' || c == ' ' ||
    c.toNat == 0x85 || c.toNat == 0xa0 || c.toNat == 0x1680 ||
    (0x2000 ≤ c.toNat && c.toNat ≤ 0x200a) || c.toNat == 0x2028 || c.toNat == 0x2029 ||
    c.toNat == 0x202f || c.toNat == 0x205f || c.toNat == 0x3000

def trimSpace (s : String) : String := (s.dropWhile isSpace).dropRightWhile isSpace

def errAuthenticationFailed : String := "authentication failed"

def errTokenRenewalFailed : String := "token renewal failed"

/-- How `%v` prints a nil error. -/
def nilError : String := "<nil>"

/-- `readServiceAccountJWT`, given what `os.ReadFile` returned. -/
def readServiceAccountJWT (file : Except String String) : Except String String :=
  match file with
  | .ok bytes => .ok (trimSpace bytes)
  | .error e => .error ("failed to read service account token: " ++ e)

/-! ## Authenticators at run time -/

/-- An authenticator as it runs: the one its constructor built, with the AppRole secret id as
the last `Authenticate` left it; the `BaseAuthenticator` fields `TokenTTL`, `LastRenewal` and
`RenewBuffer`; and the Kubernetes authenticator's `jwt`. -/
structure Live where
  authn : Authenticator
  tokenTTL : Int
  lastRenewal : Int
  renewBuffer : Int
  jwt : String
  deriving DecidableEq, Repr

/-- An authenticator as its constructor leaves it: no lease, and a `RenewBuffer` of
`5 * time.Minute`. `LastRenewal` is the zero `time.Time`, which `ShouldRenew` never reads while
`TokenTTL` is zero. -/
def Live.init (authn : Authenticator) : Live := ⟨authn, 0, 0, 5 * minute, ""⟩

/-- What a login or renewal whose answer carries a lease of `d` seconds stores:
`TokenTTL = time.Duration(d) * time.Second`, in int64 arithmetic, and `LastRenewal = time.Now()`. -/
def Live.leased (a : Live) (d now : Int) : Live :=
  { a with tokenTTL := wrapInt 64 (d * second), lastRenewal := now }

/-- `a.secretID = s`, on an AppRole authenticator. -/
def Live.setSecretID (a : Live) (s : String) : Live :=
  match a.authn.credentials with
  | .appRole roleID _ mountPath =>
    { a with authn := { a.authn with credentials := .appRole roleID s mountPath } }
  | _ => a

/-- `BaseAuthenticator.ShouldRenew` at time `now`: `remaining := TokenTTL - time.Since(LastRenewal)`,
in int64 arithmetic, is at most `RenewBuffer`. -/
def Live.shouldRenew (a : Live) (now : Int) : Bool :=
  if a.tokenTTL = 0 then false
  else decide (wrapInt 64 (a.tokenTTL - timeSub now a.lastRenewal) ≤ a.renewBuffer)

theorem Live.shouldRenew_eq_false {a : Live} {now : Int} (h₀ : a.lastRenewal ≤ now)
    (hT : a.tokenTTL ≤ 2 * hour) (hb : 0 ≤ a.renewBuffer)
    (h : now - a.lastRenewal + a.renewBuffer < a.tokenTTL) : a.shouldRenew now = false := by
  unfold hour minute second at hT
  unfold Live.shouldRenew
  rw [if_neg (by omega), timeSub_of_lt h₀ (by omega), wrapInt_of_lt (by decide) (by omega) (by omega)]
  simp only [decide_eq_false_iff_not, not_le]
  omega

/-- A method of the authenticator of `method` failing in operation `op`: the state it leaves and
the text of `NewAuthError(method, op, err, message)`. -/
def Live.fail (a : Live) (method op message err : String) : Live × Except String Unit :=
  (a, .error (authErrorText method op message err))

/-! ## The token authenticator -/

/-- `TokenAuthenticator.Authenticate` at time `now`. The client it returns is the one
`vault.New` made. -/
def Live.tokenAuthenticate (a : Live) (now : Int) (r : Replies) : Live × Except String Unit :=
  match r.new, r.setToken, r.lookUpSelf with
  | .error e, _, _ => a.fail authMethodToken "authenticate" "failed to create vault client" e
  | .ok (), .error e, _ => a.fail authMethodToken "authenticate" "failed to set token" e
  | .ok (), .ok (), .error e => a.fail authMethodToken "authenticate" "token validation failed" e
  | .ok (), .ok (), .ok data =>
    match data.ttl with
    | some ttl => (a.leased ttl now, .ok ())
    | none => (a, .ok ())

/-- `TokenAuthenticator.Renew`. -/
def Live.tokenRenew (a : Live) (now : Int) (r : Replies) : Live × Except String Unit :=
  match r.lookUpSelf with
  | .error e => a.fail authMethodToken "renew" "failed to lookup token" e
  | .ok data =>
    if data.renewable ≠ some true then
      a.fail authMethodToken "renew" "token is not renewable" errTokenRenewalFailed
    else match r.renewSelf with
      | .error e => a.fail authMethodToken "renew" "failed to renew token" e
      | .ok (some d) => (a.leased d now, .ok ())
      | .ok none => (a, .ok ())

/-! ## The Kubernetes authenticator -/

/-- `KubernetesAuthenticator.Authenticate`. The JWT it reads is stored before the login, so it
stays when the login fails. -/
def Live.kubernetesAuthenticate (a : Live) (now : Int) (r : Replies) : Live × Except String Unit :=
  match readServiceAccountJWT r.readFile with
  | .error e => a.fail authMethodKubernetes "authenticate" "failed to read service account JWT" e
  | .ok jwt =>
    let a := { a with jwt }
    match r.new, r.login with
    | .error e, _ => a.fail authMethodKubernetes "authenticate" "failed to create vault client" e
    | .ok (), .error e => a.fail authMethodKubernetes "authenticate" "kubernetes login failed" e
    | .ok (), .ok none =>
      a.fail authMethodKubernetes "authenticate" "no token received from Vault" errAuthenticationFailed
    | .ok (), .ok (some auth) =>
      if auth.clientToken = "" then
        a.fail authMethodKubernetes "authenticate" "no token received from Vault"
          errAuthenticationFailed
      else match r.setToken with
        | .error e => a.fail authMethodKubernetes "authenticate" "failed to set token" e
        | .ok () => (a.leased auth.leaseDuration now, .ok ())

/-- `KubernetesAuthenticator.Renew`. After a failed renewal it logs in again only with a JWT
other than the stored one. Its last error wraps the `err` in scope there, which is the nil
error of reading the JWT. -/
def Live.kubernetesRenew (a : Live) (now : Int) (r : Replies) : Live × Except String Unit :=
  match r.renewSelf with
  | .ok (some d) => (a.leased d now, .ok ())
  | .ok none => (a, .ok ())
  | .error _ =>
    match readServiceAccountJWT r.readFile with
    | .error e => a.fail authMethodKubernetes "renew" "failed to read new JWT" e
    | .ok newJWT =>
      let giveUp := a.fail authMethodKubernetes "renew" "token renewal failed" nilError
      if newJWT = a.jwt then giveUp
      else match r.login with
        | .error e => a.fail authMethodKubernetes "renew" "re-authentication failed" e
        | .ok none => giveUp
        | .ok (some auth) =>
          if auth.clientToken = "" then giveUp
          else match r.setToken with
            | .error e => a.fail authMethodKubernetes "renew" "failed to set new token" e
            | .ok () => ({ a with jwt := newJWT }.leased auth.leaseDuration now, .ok ())

/-! ## The AppRole authenticator -/

/-- `AppRoleAuthenticator.Authenticate`. A non-empty `wrapped_secret_id` in the answer's
metadata replaces the secret id. -/
def Live.appRoleAuthenticate (a : Live) (now : Int) (r : Replies) : Live × Except String Unit :=
  match r.new, r.login with
  | .error e, _ => a.fail authMethodAppRole "authenticate" "failed to create vault client" e
  | .ok (), .error e => a.fail authMethodAppRole "authenticate" "approle login failed" e
  | .ok (), .ok none =>
    a.fail authMethodAppRole "authenticate" "no token received from Vault" errAuthenticationFailed
  | .ok (), .ok (some auth) =>
    if auth.clientToken = "" then
      a.fail authMethodAppRole "authenticate" "no token received from Vault" errAuthenticationFailed
    else match r.setToken with
      | .error e => a.fail authMethodAppRole "authenticate" "failed to set token" e
      | .ok () =>
        let a := a.leased auth.leaseDuration now
        match auth.metadata.lookup "wrapped_secret_id" with
        | some w => if w ≠ "" then (a.setSecretID w, .ok ()) else (a, .ok ())
        | none => (a, .ok ())

/-- `AppRoleAuthenticator.Renew`, with the role id it was built with. -/
def Live.appRoleRenew (a : Live) (roleID : String) (now : Int) (r : Replies) :
    Live × Except String Unit :=
  match r.renewSelf with
  | .ok (some d) => (a.leased d now, .ok ())
  | .ok none => (a, .ok ())
  | .error err =>
    let giveUp := a.fail authMethodAppRole "renew" "token renewal failed" err
    if roleID = "" then giveUp
    else match r.login with
      | .error e => a.fail authMethodAppRole "renew" "re-authentication failed" e
      | .ok none => giveUp
      | .ok (some auth) =>
        if auth.clientToken = "" then giveUp
        else match r.setToken with
          | .error e => a.fail authMethodAppRole "renew" "failed to set new token" e
          | .ok () => (a.leased auth.leaseDuration now, .ok ())

/-! ## Revoking, and the methods of each type -/

/-- `Revoke`, the same in the three authenticators but for the method its error names. -/
def revokeAs (method : String) (r : Replies) : Except String Unit :=
  match r.revokeSelf with
  | .error e => .error (authErrorText method "revoke" "failed to revoke token" e)
  | .ok () => .ok ()

/-- `TokenAuthenticator.Revoke`. -/
def tokenRevoke : Replies → Except String Unit := revokeAs authMethodToken

/-- `KubernetesAuthenticator.Revoke`. -/
def kubernetesRevoke : Replies → Except String Unit := revokeAs authMethodKubernetes

/-- `AppRoleAuthenticator.Revoke`. -/
def appRoleRevoke : Replies → Except String Unit := revokeAs authMethodAppRole

/-- `Authenticate` of the authenticator's own type. -/
def Live.authenticate (a : Live) (now : Int) (r : Replies) : Live × Except String Unit :=
  match a.authn.credentials with
  | .token _ => a.tokenAuthenticate now r
  | .kubernetes .. => a.kubernetesAuthenticate now r
  | .appRole .. => a.appRoleAuthenticate now r

/-- `Renew` of the authenticator's own type. -/
def Live.renew (a : Live) (now : Int) (r : Replies) : Live × Except String Unit :=
  match a.authn.credentials with
  | .token _ => a.tokenRenew now r
  | .kubernetes .. => a.kubernetesRenew now r
  | .appRole roleID _ _ => a.appRoleRenew roleID now r

/-- `Revoke` of the authenticator's own type. -/
def Live.revoke (a : Live) (r : Replies) : Except String Unit :=
  match a.authn.credentials with
  | .token _ => tokenRevoke r
  | .kubernetes .. => kubernetesRevoke r
  | .appRole .. => appRoleRevoke r

/-! ## What a method does to the lease -/

/-- `a'` has the lease of `a`, or a lease of whole seconds taken at `now`; and the same
`RenewBuffer`. -/
def Timing (a a' : Live) (now : Int) : Prop :=
  a'.renewBuffer = a.renewBuffer ∧
    ((a'.tokenTTL = a.tokenTTL ∧ a'.lastRenewal = a.lastRenewal) ∨
      ∃ d, a'.tokenTTL = wrapInt 64 (d * second) ∧ a'.lastRenewal = now)

theorem Timing.refl (a : Live) (now : Int) : Timing a a now := ⟨rfl, .inl ⟨rfl, rfl⟩⟩

theorem Timing.leased (a : Live) (d now : Int) : Timing a (a.leased d now) now :=
  ⟨rfl, .inr ⟨d, rfl, rfl⟩⟩

theorem Timing.fail (a : Live) (method op message err : String) (now : Int) :
    Timing a (a.fail method op message err).1 now := Timing.refl a now

theorem Timing.of_lease_eq {a b a' : Live} {now : Int} (h : Timing a b now)
    (hb : a'.tokenTTL = b.tokenTTL ∧ a'.lastRenewal = b.lastRenewal ∧ a'.renewBuffer = b.renewBuffer) :
    Timing a a' now := by
  obtain ⟨h₁, h₂⟩ := h
  refine ⟨hb.2.2.trans h₁, ?_⟩
  rw [hb.1, hb.2.1]
  exact h₂

theorem setSecretID_lease (a : Live) (s : String) :
    (a.setSecretID s).tokenTTL = a.tokenTTL ∧ (a.setSecretID s).lastRenewal = a.lastRenewal ∧
      (a.setSecretID s).renewBuffer = a.renewBuffer := by
  unfold Live.setSecretID; split <;> exact ⟨rfl, rfl, rfl⟩

theorem authenticate_timing (a : Live) (now : Int) (r : Replies) :
    Timing a (a.authenticate now r).1 now := by
  unfold Live.authenticate Live.tokenAuthenticate Live.kubernetesAuthenticate
    Live.appRoleAuthenticate
  repeat' split
  all_goals try dsimp only
  all_goals first
    | exact Timing.refl ..
    | exact Timing.leased ..
    | exact Timing.of_lease_eq (Timing.leased a _ now) (setSecretID_lease _ _)

theorem renew_timing (a : Live) (now : Int) (r : Replies) : Timing a (a.renew now r).1 now := by
  unfold Live.renew Live.tokenRenew Live.kubernetesRenew Live.appRoleRenew
  repeat' split
  all_goals first
    | exact Timing.refl ..
    | exact Timing.leased ..

/-- `a'` holds the lease of `a`. -/
def SameLease (a a' : Live) : Prop :=
  a'.tokenTTL = a.tokenTTL ∧ a'.lastRenewal = a.lastRenewal ∧ a'.renewBuffer = a.renewBuffer

theorem renew_of_error {a : Live} {now : Int} {r : Replies} {e : String}
    (h : (a.renew now r).2 = .error e) : (a.renew now r).1 = a := by
  revert h
  unfold Live.renew Live.tokenRenew Live.kubernetesRenew Live.appRoleRenew
  repeat' split
  all_goals intro h
  all_goals first | rfl | simp at h

/-- A failed `Authenticate` leaves the lease; the Kubernetes one may have stored a new JWT. -/
theorem authenticate_of_error {a : Live} {now : Int} {r : Replies} {e : String}
    (h : (a.authenticate now r).2 = .error e) : SameLease a (a.authenticate now r).1 := by
  revert h
  unfold Live.authenticate Live.tokenAuthenticate Live.kubernetesAuthenticate
    Live.appRoleAuthenticate
  repeat' split
  all_goals intro h
  all_goals first | exact ⟨rfl, rfl, rfl⟩ | simp at h

theorem even_wrapInt_seconds (d : Int) : 2 ∣ wrapInt 64 (d * second) := by
  unfold wrapInt second; omega

theorem timing_even {a a' : Live} {now : Int} (h : Timing a a' now) (ha : 2 ∣ a.tokenTTL) :
    2 ∣ a'.tokenTTL := by
  obtain ⟨-, ⟨h₁, -⟩ | ⟨d, h₁, -⟩⟩ := h
  · exact h₁ ▸ ha
  · exact h₁ ▸ even_wrapInt_seconds d

end Auth

end TalosKmsVault
