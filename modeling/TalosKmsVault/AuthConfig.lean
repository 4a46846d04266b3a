import TalosKmsVault.Renewal

/-!
# Choosing and configuring the Vault authenticator

`NewAuthConfigFromEnvironment` detects the method (`detectAuthMethod`): `VAULT_AUTH_METHOD`
lowercased if set, else Kubernetes when `KUBERNETES_SERVICE_HOST` is set and the default
service-account token exists, else AppRole when `VAULT_ROLE_ID` is set, else token when
`VAULT_TOKEN` is set. It then fills the method's block from the environment. Two functions
judge such a config: `ValidateConfig`, and `NewAuthenticator` with the constructor of the
method, which fall back to the environment for what the config leaves empty.

**The environment.** `os.Getenv`, whether `os.Stat` finds the file `token` in a directory, and
`strings.ToLower` are given as functions (`Env`), so every result holds for every environment
and for any lowercasing.

**Theorem (`newAuthenticator_fromEnvironment`).** On the config the environment gives,
`NewAuthenticator` succeeds exactly when `ValidateConfig` accepts the config and, for the
Kubernetes method, the process runs in Kubernetes: the service-account token exists at the
configured path and `KUBERNETES_SERVICE_HOST` is set. `ValidateConfig` checks neither, so it
accepts a Kubernetes config that `NewAuthenticator` rejects. The authenticator built has the
config's method and Vault address.
-/

namespace TalosKmsVault

namespace Auth

/-- What the auth package reads from the process: `os.Getenv` (the empty string when unset),
whether `os.Stat` finds the file `token` in a directory, and `strings.ToLower`. -/
structure Env where
  getenv : String → String
  hasToken : String → Bool
  toLower : String → String

/-! ## Methods and configuration -/

def authMethodToken : String := "token"

def authMethodKubernetes : String := "kubernetes"

def authMethodAppRole : String := "approle"

def defaultServiceAccountPath : String := "/var/run/secrets/kubernetes.io/serviceaccount"

def defaultKubernetesMountPath : String := "kubernetes"

def defaultAppRoleMountPath : String := "approle"

structure TokenConfig where
  token : String
  deriving DecidableEq, Repr

structure KubernetesConfig where
  role : String
  mountPath : String
  serviceAccountPath : String
  deriving DecidableEq, Repr

structure AppRoleConfig where
  roleID : String
  secretID : String
  mountPath : String
  deriving DecidableEq, Repr

/-- `AuthConfig`; a nil block is `none`. -/
structure AuthConfig where
  method : String
  vaultAddr : String
  autoRenew : Bool
  token : Option TokenConfig
  kubernetes : Option KubernetesConfig
  appRole : Option AppRoleConfig
  deriving DecidableEq, Repr

def detectAuthMethod (env : Env) : String :=
  if env.getenv "VAULT_AUTH_METHOD" ≠ "" then env.toLower (env.getenv "VAULT_AUTH_METHOD")
  else if env.getenv "KUBERNETES_SERVICE_HOST" ≠ "" ∧ env.hasToken defaultServiceAccountPath then
    authMethodKubernetes
  else if env.getenv "VAULT_ROLE_ID" ≠ "" then authMethodAppRole
  else if env.getenv "VAULT_TOKEN" ≠ "" then authMethodToken
  else ""

def newAuthConfigFromEnvironment (env : Env) : AuthConfig :=
  let method := detectAuthMethod env
  { method
    vaultAddr := env.getenv "VAULT_ADDR"
    autoRenew :=
      if env.getenv "VAULT_AUTO_RENEW" ≠ "" then env.toLower (env.getenv "VAULT_AUTO_RENEW") ≠ "false"
      else true
    token := if method = authMethodToken then some ⟨env.getenv "VAULT_TOKEN"⟩ else none
    kubernetes := if method = authMethodKubernetes then
        some ⟨env.getenv "VAULT_K8S_ROLE", env.getenv "VAULT_K8S_MOUNT_PATH",
          env.getenv "VAULT_K8S_SERVICE_ACCOUNT_PATH"⟩
      else none
    appRole := if method = authMethodAppRole then
        some ⟨env.getenv "VAULT_ROLE_ID", env.getenv "VAULT_SECRET_ID",
          env.getenv "VAULT_APPROLE_MOUNT_PATH"⟩
      else none }

/-- `ValidateConfig`; a nil config is `none`. -/
def validateConfig : Option AuthConfig → Except String Unit
  | none => .error "config is nil"
  | some config =>
    if config.vaultAddr = "" then .error "vault address is required"
    else if config.method = authMethodToken then
      match config.token with
      | some t => if t.token = "" then .error "token is required for token auth" else .ok ()
      | none => .error "token is required for token auth"
    else if config.method = authMethodKubernetes then
      match config.kubernetes with
      | some k => if k.role = "" then .error "role is required for kubernetes auth" else .ok ()
      | none => .error "role is required for kubernetes auth"
    else if config.method = authMethodAppRole then
      match config.appRole with
      | some a => if a.roleID = "" then .error "role_id is required for approle auth" else .ok ()
      | none => .error "role_id is required for approle auth"
    else if config.method = "" then .error "authentication method is required"
    else .error ("unsupported authentication method: " ++ config.method)

/-! ## The authenticators -/

/-- What an authenticator is built with. -/
inductive Credentials
  | token (token : String)
  | kubernetes (role mountPath serviceAccountPath : String)
  | appRole (roleID secretID mountPath : String)
  deriving DecidableEq, Repr

/-- An authenticator: the method and Vault address of its `BaseAuthenticator`, and its
credentials. -/
structure Authenticator where
  method : String
  vaultAddr : String
  credentials : Credentials
  deriving DecidableEq, Repr

/-- The text of `NewAuthError(method, op, err, message).Error()`. -/
def authErrorText (method op message err : String) : String :=
  "auth " ++ method ++ " [" ++ op ++ "]: " ++ message ++ ": " ++ err

def errMissingConfiguration : String := "missing required configuration"

def newTokenAuth (env : Env) (config : Option TokenConfig) (vaultAddr : String) :
    Except String Authenticator :=
  match config with
  | none => .error (authErrorText authMethodToken "new" "token configuration is required"
      errMissingConfiguration)
  | some config =>
    let token := if config.token = "" then env.getenv "VAULT_TOKEN" else config.token
    if token = "" then .error (authErrorText authMethodToken "new" "token is required" errMissingConfiguration)
    else .ok ⟨authMethodToken, vaultAddr, .token token⟩

def isRunningInKubernetes (env : Env) (serviceAccountPath : String) : Bool :=
  env.hasToken serviceAccountPath && env.getenv "KUBERNETES_SERVICE_HOST" != ""

def newKubernetesAuth (env : Env) (config : Option KubernetesConfig) (vaultAddr : String) :
    Except String Authenticator :=
  let config := config.getD ⟨"", "", ""⟩
  let serviceAccountPath :=
    if config.serviceAccountPath = "" then defaultServiceAccountPath else config.serviceAccountPath
  let mountPath := if config.mountPath = "" then defaultKubernetesMountPath else config.mountPath
  let role := if config.role = "" then env.getenv "VAULT_K8S_ROLE" else config.role
  if role = "" then .error (authErrorText authMethodKubernetes "new" "role is required" errMissingConfiguration)
  else if !isRunningInKubernetes env serviceAccountPath then
    .error (authErrorText authMethodKubernetes "new" "not running in Kubernetes environment"
      errMissingConfiguration)
  else .ok ⟨authMethodKubernetes, vaultAddr, .kubernetes role mountPath serviceAccountPath⟩

def newAppRoleAuth (env : Env) (config : Option AppRoleConfig) (vaultAddr : String) :
    Except String Authenticator :=
  let config := config.getD ⟨"", "", ""⟩
  let mountPath := if config.mountPath = "" then defaultAppRoleMountPath else config.mountPath
  let roleID := if config.roleID = "" then env.getenv "VAULT_ROLE_ID" else config.roleID
  if roleID = "" then .error (authErrorText authMethodAppRole "new" "role_id is required" errMissingConfiguration)
  else
    let secretID := if config.secretID = "" then env.getenv "VAULT_SECRET_ID" else config.secretID
    .ok ⟨authMethodAppRole, vaultAddr, .appRole roleID secretID mountPath⟩

/-- `NewAuthenticator`; a nil config is `none`. -/
def newAuthenticator (env : Env) : Option AuthConfig → Except String Authenticator
  | none => .error "auth config is required"
  | some config =>
    let method := if config.method = "" then detectAuthMethod env else config.method
    if method = "" then .error "no authentication method available"
    else
      let vaultAddr := if config.vaultAddr = "" then env.getenv "VAULT_ADDR" else config.vaultAddr
      if vaultAddr = "" then .error "vault address is required (set VAULT_ADDR)"
      else if method = authMethodToken then newTokenAuth env config.token vaultAddr
      else if method = authMethodKubernetes then newKubernetesAuth env config.kubernetes vaultAddr
      else if method = authMethodAppRole then newAppRoleAuth env config.appRole vaultAddr
      else .error ("unsupported authentication method: " ++ method)

/-! ## The two judges of a config from the environment -/

/-- **`NewAuthenticator` and `ValidateConfig` on the environment's config.** `NewAuthenticator`
succeeds exactly when `ValidateConfig` accepts and, for the Kubernetes method, the process runs
in Kubernetes at the configured service-account path; what it builds has the config's method
and Vault address. -/
theorem newAuthenticator_fromEnvironment (env : Env) :
    (∀ a, newAuthenticator env (some (newAuthConfigFromEnvironment env)) = .ok a →
      a.method = (newAuthConfigFromEnvironment env).method ∧
      a.vaultAddr = (newAuthConfigFromEnvironment env).vaultAddr) ∧
    ((newAuthenticator env (some (newAuthConfigFromEnvironment env))).toBool = true ↔
      validateConfig (some (newAuthConfigFromEnvironment env)) = .ok () ∧
      ((newAuthConfigFromEnvironment env).method = authMethodKubernetes →
        isRunningInKubernetes env (if env.getenv "VAULT_K8S_SERVICE_ACCOUNT_PATH" = "" then
          defaultServiceAccountPath else env.getenv "VAULT_K8S_SERVICE_ACCOUNT_PATH") = true)) := by
  unfold newAuthConfigFromEnvironment newAuthenticator
  -- `NewAuthenticator` detects again only an empty method, and finds the same one
  generalize detectAuthMethod env = m
  simp only [ite_self]
  by_cases ha : env.getenv "VAULT_ADDR" = ""
  · by_cases h0 : m = "" <;> simp [ha, h0, validateConfig, Except.toBool]
  by_cases ht : m = authMethodToken
  · subst ht
    by_cases hv : env.getenv "VAULT_TOKEN" = "" <;>
      simp [ha, hv, validateConfig, newTokenAuth, authMethodToken, authMethodKubernetes, Except.toBool]
  by_cases hk : m = authMethodKubernetes
  · -- the one check `ValidateConfig` does not make
    subst hk
    by_cases hr : env.getenv "VAULT_K8S_ROLE" = ""
    · simp [ha, hr, validateConfig, newKubernetesAuth, authMethodToken, authMethodKubernetes, Except.toBool]
    · cases hrun : isRunningInKubernetes env (if env.getenv "VAULT_K8S_SERVICE_ACCOUNT_PATH" = "" then
          defaultServiceAccountPath else env.getenv "VAULT_K8S_SERVICE_ACCOUNT_PATH") <;>
        simp [ha, hr, hrun, validateConfig, newKubernetesAuth, authMethodToken, authMethodKubernetes,
          Except.toBool]
  by_cases hp : m = authMethodAppRole
  · subst hp
    by_cases hr : env.getenv "VAULT_ROLE_ID" = "" <;>
      simp [ha, hr, validateConfig, newAppRoleAuth, authMethodToken, authMethodKubernetes,
        authMethodAppRole, Except.toBool]
  by_cases h0 : m = ""
  · subst h0
    simp [ha, validateConfig, authMethodToken, authMethodKubernetes, authMethodAppRole, Except.toBool]
  · simp [ha, h0, ht, hk, hp, validateConfig, Except.toBool]

/-- `VAULT_AUTH_METHOD=Kubernetes` outside Kubernetes: `ValidateConfig` accepts the config, and
`NewAuthenticator` fails. -/
example :
    let env : Env := ⟨fun k => if k = "VAULT_AUTH_METHOD" then "Kubernetes"
      else if k = "VAULT_ADDR" then "https://vault:8200" else if k = "VAULT_K8S_ROLE" then "kms" else "",
      fun _ => false, fun s => if s = "Kubernetes" then "kubernetes" else s⟩
    validateConfig (some (newAuthConfigFromEnvironment env)) = .ok () ∧
      newAuthenticator env (some (newAuthConfigFromEnvironment env)) =
        .error "auth kubernetes [new]: not running in Kubernetes environment: missing required configuration" :=
  ⟨rfl, rfl⟩

end Auth

end TalosKmsVault
