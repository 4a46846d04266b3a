import TalosKmsVault.Lease
import TalosKmsVault.Uuid.Spelling

/-!
# The validation middleware of the KMS server

`run` builds a `ValidationConfig` from its flags and the environment
(`createValidationConfig`), and from it a `ValidationMiddleware`, or none when validation is
disabled. When there is one, its `UnaryServerInterceptor` sits in front of every unary call of
the gRPC server. A call that is not a `kms.Request` goes to the handler; a `kms.Request` goes to
the handler only if `validateKMSRequest` passes it: `ValidateNodeUUID` on its node UUID, then
`validateRequestData` on the size of its data and on the method. Each outcome bumps one of two
int64 counters, and each is logged with `SanitizeForLogging` of the node UUID.

**The two levels.** The faithful model keeps the logging: every branch of `validateKMSRequest`
evaluates `SanitizeForLogging`, so a slice out of range there would panic (`none`). The
abstract model `checkCall` is the decision alone. `validateKMSRequest_eq` says the two agree
and the logging never panics; so does the interceptor (`unaryServerInterceptor_kms`).

**Theorem (`validation_middleware_run`).** Over every sequence of calls, the interceptor never
panics; each call gets the handler's reply exactly when it is not a `kms.Request`, or its node
UUID passes `ValidateNodeUUID` and its data is at most 4 MiB, non-empty for `Seal` and at least
six bytes for `Unseal` (`Admits`); every other call gets `InvalidArgument` with one of five fixed
messages; and the counters grow, in int64, by the numbers of passed and rejected requests.

The middleware `run` builds is absent exactly when `--disable-validation` or
`KMS_DISABLE_VALIDATION=true` disables it (`run_validation_rejects_malformed_uuids`). The data
limit is the constant `maxDataSize` of `validateRequestData`: `NewValidationMiddlewareFromConfig`
never reads `MaxRequestSize`, which `createValidationConfig` leaves at the same 4 MiB.
-/

namespace TalosKmsVault

namespace Validation

/-! ## Requests and status errors -/

/-- The `codes.Code` the middleware returns. -/
inductive Code
  | invalidArgument
  deriving DecidableEq, Repr

/-- `status.Error(code, msg)`. -/
structure StatusError where
  code : Code
  message : String
  deriving DecidableEq, Repr

/-- The fields of a `kms.Request` the middleware reads. -/
structure KmsRequest where
  nodeUuid : List UInt8
  data : List UInt8
  deriving DecidableEq, Repr

/-- The message of a unary call: a `*kms.Request`, or any other message. -/
inductive Incoming
  | kms (req : KmsRequest)
  | other
  deriving DecidableEq, Repr

/-- Whether the type assertion `req.(*kms.Request)` succeeds. -/
def Incoming.isKms : Incoming → Bool
  | .kms _ => true
  | .other => false

/-! ## `validateRequestData` -/

/-- `maxDataSize`: 4 MiB. -/
def maxDataSize : Nat := 4 * 1024 * 1024

/-- The full method name of `Seal`. -/
def sealMethod : String := "/kms.KMSService/Seal"

/-- The full method name of `Unseal`. -/
def unsealMethod : String := "/kms.KMSService/Unseal"

def validateRequestData (req : KmsRequest) (method : String) : Except StatusError Unit :=
  if req.data.length > maxDataSize then .error ⟨.invalidArgument, "request data too large"⟩
  else if method = sealMethod then
    if req.data.length = 0 then .error ⟨.invalidArgument, "seal operation requires data"⟩
    else .ok ()
  else if method = unsealMethod then
    if req.data.length = 0 then .error ⟨.invalidArgument, "unseal operation requires ciphertext"⟩
    else if req.data.length < 6 then .error ⟨.invalidArgument, "invalid ciphertext format"⟩
    else .ok ()
  else .ok ()

/-! ## The middleware -/

/-- `ValidationMiddleware`: its validator and its two int64 counters. -/
structure ValidationMiddleware where
  validator : UUIDValidator
  validationFailures : Int
  validationSuccess : Int
  deriving DecidableEq, Repr

/-- `NewValidationMiddleware`: a nil validator is replaced by `NewUUIDValidator()`. -/
def newValidationMiddleware (validator : Option UUIDValidator) : ValidationMiddleware :=
  ⟨validator.getD newUUIDValidator, 0, 0⟩

/-- `validateKMSRequest`. Each branch logs `SanitizeForLogging(req.NodeUuid)`, which Go
evaluates whatever the log level; `none` is a panic there. -/
def ValidationMiddleware.validateKMSRequest (vm : ValidationMiddleware) (req : KmsRequest)
    (method : String) : Option (Except StatusError Unit) :=
  match vm.validator.validateNodeUUID req.nodeUuid with
  | .error _ =>
    (sanitizeForLogging req.nodeUuid).map fun _ => .error ⟨.invalidArgument, "invalid node UUID format"⟩
  | .ok () =>
    match validateRequestData req method with
    | .error e => (sanitizeForLogging req.nodeUuid).map fun _ => .error e
    | .ok () => (sanitizeForLogging req.nodeUuid).map fun _ => .ok ()

/-- The interceptor of `UnaryServerInterceptor` on one call with full method `fullMethod`: the
middleware after the call, and the reply, which is the middleware's rejection or what `handler`
returned. -/
def ValidationMiddleware.unaryServerInterceptor {β : Type} (vm : ValidationMiddleware)
    (req : Incoming) (fullMethod : String) (handler : Incoming → β) :
    Option (ValidationMiddleware × Except StatusError β) :=
  match req with
  | .kms kmsReq =>
    (vm.validateKMSRequest kmsReq fullMethod).map fun
      | .error e => ({ vm with validationFailures := wrapInt 64 (vm.validationFailures + 1) }, .error e)
      | .ok () => ({ vm with validationSuccess := wrapInt 64 (vm.validationSuccess + 1) }, .ok (handler req))
  | .other => some (vm, .ok (handler req))

/-- `GetValidationStats`: successes, then failures. -/
def ValidationMiddleware.getValidationStats (vm : ValidationMiddleware) : Int × Int :=
  (vm.validationSuccess, vm.validationFailures)

/-- Calls one after another through the interceptor: the middleware after them and the replies,
or `none` on a panic. -/
def interceptRun {β : Type} (vm : ValidationMiddleware) (handler : Incoming → β) :
    List (Incoming × String) → Option (ValidationMiddleware × List (Except StatusError β))
  | [] => some (vm, [])
  | (req, fullMethod) :: calls =>
    (vm.unaryServerInterceptor req fullMethod handler).bind fun r =>
      (interceptRun r.1 handler calls).map fun rs => (rs.1, r.2 :: rs.2)

/-! ## The configuration -/

structure ValidationConfig where
  enabled : Bool
  requireUUIDv4 : Bool
  checkEntropy : Bool
  maxUUIDLength : Int
  maxRequestSize : Int
  logSuccessfulValidation : Bool
  logFailedValidation : Bool
  deriving DecidableEq, Repr

def defaultValidationConfig : ValidationConfig :=
  ⟨true, true, true, 36, 4 * 1024 * 1024, false, true⟩

/-- `NewValidationMiddlewareFromConfig`: none when disabled, and otherwise a middleware whose
validator allows hyphens. -/
def newValidationMiddlewareFromConfig (config : ValidationConfig) : Option ValidationMiddleware :=
  if !config.enabled then none
  else some (newValidationMiddleware (some ⟨config.requireUUIDv4, config.checkEntropy, true,
    config.maxUUIDLength⟩))

/-- The flags of `run` that `createValidationConfig` reads. -/
structure KmsFlags where
  disableValidation : Bool
  allowUUIDVersions : String
  disableEntropy : Bool
  deriving DecidableEq, Repr

/-- `createValidationConfig`, with `os.Getenv` as `getenv` (the empty string when unset). -/
def createValidationConfig (flags : KmsFlags) (getenv : String → String) : ValidationConfig :=
  let config := defaultValidationConfig
  if flags.disableValidation then { config with enabled := false }
  else
    let config := { config with
      requireUUIDv4 :=
        if flags.allowUUIDVersions = "v4" then true
        else if flags.allowUUIDVersions = "v1-v5" ∨ flags.allowUUIDVersions = "any" then false
        else true }
    let config := { config with checkEntropy := !flags.disableEntropy }
    let config := if getenv "KMS_DISABLE_VALIDATION" = "true" then { config with enabled := false }
      else config
    let config := if getenv "KMS_DISABLE_ENTROPY_CHECK" = "true" then { config with checkEntropy := false }
      else config
    let uuidVersions := getenv "KMS_ALLOW_UUID_VERSIONS"
    if uuidVersions ≠ "" then
      if uuidVersions = "v4" then { config with requireUUIDv4 := true }
      else if uuidVersions = "v1-v5" ∨ uuidVersions = "any" then { config with requireUUIDv4 := false }
      else config
    else config

/-! ## The decision -/

/-- The decision the interceptor makes on a call, without its logging: the abstract model. -/
def checkCall (v : UUIDValidator) (fullMethod : String) : Incoming → Except StatusError Unit
  | .kms req =>
    match v.validateNodeUUID req.nodeUuid with
    | .error _ => .error ⟨.invalidArgument, "invalid node UUID format"⟩
    | .ok () => validateRequestData req fullMethod
  | .other => .ok ()

/-- What the middleware lets through to the handler: a message that is not a `kms.Request`,
and a `kms.Request` whose node UUID the validator accepts and whose data is at most 4 MiB,
non-empty for `Seal` and at least six bytes for `Unseal`. -/
def Admits (v : UUIDValidator) (fullMethod : String) : Incoming → Prop
  | .kms req => v.validateNodeUUID req.nodeUuid = .ok () ∧ req.data.length ≤ maxDataSize ∧
      (fullMethod = sealMethod → req.data ≠ []) ∧ (fullMethod = unsealMethod → 6 ≤ req.data.length)
  | .other => True

/-- The messages of the middleware's rejections. -/
def rejectionMessages : List String :=
  ["invalid node UUID format", "request data too large", "seal operation requires data",
    "unseal operation requires ciphertext", "invalid ciphertext format"]

theorem validateRequestData_eq_ok {req : KmsRequest} {m : String} :
    validateRequestData req m = .ok () ↔ req.data.length ≤ maxDataSize ∧
      (m = sealMethod → req.data ≠ []) ∧ (m = unsealMethod → 6 ≤ req.data.length) := by
  have hsu : sealMethod ≠ unsealMethod := by decide
  unfold validateRequestData
  split_ifs <;> simp_all

theorem checkCall_eq_ok {v : UUIDValidator} {m : String} {req : Incoming} :
    checkCall v m req = .ok () ↔ Admits v m req := by
  cases req with
  | kms r =>
    unfold checkCall Admits
    cases h : v.validateNodeUUID r.nodeUuid <;> simp [h, validateRequestData_eq_ok]
  | other => exact iff_of_true rfl trivial

/-- Every rejection is `InvalidArgument` with one of five fixed messages: none names the node
UUID or says which UUID check failed. -/
theorem checkCall_error {v : UUIDValidator} {m : String} {req : Incoming} {e : StatusError}
    (h : checkCall v m req = .error e) : e.code = .invalidArgument ∧ e.message ∈ rejectionMessages := by
  cases req with
  | other => cases h
  | kms r =>
    simp only [checkCall] at h
    cases hv : v.validateNodeUUID r.nodeUuid <;> rw [hv] at h
    · cases h; simp [rejectionMessages]
    · unfold validateRequestData at h
      split_ifs at h <;> cases h <;> simp [rejectionMessages]

/-! ## The interceptor refines the decision -/

/-- The logging of `validateKMSRequest` never panics, and its result is the decision. -/
theorem validateKMSRequest_eq (vm : ValidationMiddleware) (req : KmsRequest) (method : String) :
    vm.validateKMSRequest req method = some (checkCall vm.validator method (.kms req)) := by
  obtain ⟨t, ht⟩ := Option.isSome_iff_exists.1 (sanitizeForLogging_isSome req.nodeUuid)
  unfold ValidationMiddleware.validateKMSRequest
  simp only [checkCall]
  cases hv : vm.validator.validateNodeUUID req.nodeUuid with
  | error => simp [ht]
  | ok => cases validateRequestData req method <;> simp [ht]

theorem unaryServerInterceptor_kms {β : Type} (vm : ValidationMiddleware) (req : KmsRequest)
    (fullMethod : String) (handler : Incoming → β) :
    vm.unaryServerInterceptor (.kms req) fullMethod handler =
      some (match checkCall vm.validator fullMethod (.kms req) with
        | .error e => ({ vm with validationFailures := wrapInt 64 (vm.validationFailures + 1) }, .error e)
        | .ok () =>
          ({ vm with validationSuccess := wrapInt 64 (vm.validationSuccess + 1) }, .ok (handler (.kms req)))) := by
  simp only [ValidationMiddleware.unaryServerInterceptor, validateKMSRequest_eq, Option.map_some']

/-- One call: the reply is the handler's on a passed call and the rejection otherwise; a passed
`kms.Request` bumps `validationSuccess`, and a rejection `validationFailures`. -/
theorem unaryServerInterceptor_eq {β : Type} (vm : ValidationMiddleware) (req : Incoming)
    (fullMethod : String) (handler : Incoming → β) :
    vm.unaryServerInterceptor req fullMethod handler = some (
      { vm with
        validationSuccess := if req.isKms && (checkCall vm.validator fullMethod req).toBool then
          wrapInt 64 (vm.validationSuccess + 1) else vm.validationSuccess,
        validationFailures := if (checkCall vm.validator fullMethod req).toBool then
          vm.validationFailures else wrapInt 64 (vm.validationFailures + 1) },
      (checkCall vm.validator fullMethod req).map fun _ => handler req) := by
  cases req with
  | other => rfl
  | kms r =>
    rw [unaryServerInterceptor_kms]
    cases checkCall vm.validator fullMethod (.kms r) <;> rfl

/-! ## Runs of calls -/

/-- The `kms.Request`s of a list of calls that the middleware passes. -/
def passedCount (v : UUIDValidator) (calls : List (Incoming × String)) : Nat :=
  calls.countP fun c => c.1.isKms && (checkCall v c.2 c.1).toBool

/-- The calls the middleware rejects. -/
def rejectedCount (v : UUIDValidator) (calls : List (Incoming × String)) : Nat :=
  calls.countP fun c => !(checkCall v c.2 c.1).toBool

/-- A run from counters in the int64 range: the counters advance by the passed and the
rejected calls, and each reply is the handler's exactly on a passed call. -/
theorem interceptRun_eq {β : Type} (vm : ValidationMiddleware) (handler : Incoming → β)
    (calls : List (Incoming × String)) (hs : wrapInt 64 vm.validationSuccess = vm.validationSuccess)
    (hf : wrapInt 64 vm.validationFailures = vm.validationFailures) :
    interceptRun vm handler calls = some (
      { vm with
        validationSuccess := wrapInt 64 (vm.validationSuccess + passedCount vm.validator calls),
        validationFailures := wrapInt 64 (vm.validationFailures + rejectedCount vm.validator calls) },
      calls.map fun c => (checkCall vm.validator c.2 c.1).map fun _ => handler c.1) := by
  induction calls generalizing vm with
  | nil => simp [interceptRun, passedCount, rejectedCount, hs, hf]
  | cons c calls ih =>
    obtain ⟨req, m⟩ := c
    rw [interceptRun, unaryServerInterceptor_eq, Option.some_bind, ih _ ?_ ?_, Option.map_some']
    · simp only [passedCount, rejectedCount, List.countP_cons, List.map_cons]
      cases (checkCall vm.validator m req).toBool <;> cases req.isKms <;>
        simp [wrapInt_add, add_assoc, add_comm (1 : Int)]
    all_goals simp only [apply_ite (wrapInt 64), wrapInt_wrapInt, hs, hf]

/-- **The middleware over every run.** From `NewValidationMiddleware`, over every sequence of
calls: no panic; each reply is the handler's exactly on a call the middleware admits, and
otherwise `InvalidArgument` with one of five fixed messages; and the counters are the int64
images of the numbers of passed `kms.Request`s and of rejected calls. -/
theorem validation_middleware_run {β : Type} (validator : Option UUIDValidator)
    (handler : Incoming → β) (calls : List (Incoming × String)) :
    interceptRun (newValidationMiddleware validator) handler calls =
      some (⟨validator.getD newUUIDValidator,
          wrapInt 64 (rejectedCount (validator.getD newUUIDValidator) calls),
          wrapInt 64 (passedCount (validator.getD newUUIDValidator) calls)⟩,
        calls.map fun c => (checkCall (validator.getD newUUIDValidator) c.2 c.1).map fun _ => handler c.1) ∧
    ∀ m req, (checkCall (validator.getD newUUIDValidator) m req = .ok () ↔
        Admits (validator.getD newUUIDValidator) m req) ∧
      ∀ e, checkCall (validator.getD newUUIDValidator) m req = .error e →
        e.code = .invalidArgument ∧ e.message ∈ rejectionMessages := by
  have h₀ : wrapInt 64 0 = 0 := wrapInt_of_lt (by decide) (by omega) (by omega)
  refine ⟨?_, fun _ _ => ⟨checkCall_eq_ok, fun _ => checkCall_error⟩⟩
  rw [interceptRun_eq _ handler calls h₀ h₀]
  simp only [newValidationMiddleware, zero_add]

/-! ## The configuration `run` builds -/

/-- `createValidationConfig` leaves validation on unless the flag or `KMS_DISABLE_VALIDATION=true`
turns it off, and keeps `MaxUUIDLength` at 36 and `MaxRequestSize` at 4 MiB. -/
theorem createValidationConfig_enabled (flags : KmsFlags) (getenv : String → String) :
    (createValidationConfig flags getenv).enabled =
        (!flags.disableValidation && getenv "KMS_DISABLE_VALIDATION" != "true") ∧
      (createValidationConfig flags getenv).maxUUIDLength = 36 ∧
      (createValidationConfig flags getenv).maxRequestSize = maxDataSize := by
  unfold createValidationConfig
  by_cases hd : flags.disableValidation = true
  · rw [if_pos hd, hd]
    exact ⟨rfl, rfl, rfl⟩
  · -- the version and entropy settings touch none of the three fields
    simp only [if_neg hd, Bool.eq_false_iff.2 hd, apply_ite ValidationConfig.enabled,
      apply_ite ValidationConfig.maxUUIDLength, apply_ite ValidationConfig.maxRequestSize, ite_self]
    by_cases h : getenv "KMS_DISABLE_VALIDATION" = "true"
    · simp only [if_pos h, h]
      exact ⟨rfl, rfl, rfl⟩
    · rw [if_neg h]
      exact ⟨(bne_iff_ne.2 h).symm, rfl, rfl⟩

/-- The middleware `run` builds, whatever the flags and the environment. -/
theorem run_validation_rejects_malformed_uuids (flags : KmsFlags) (getenv : String → String) :
    (newValidationMiddlewareFromConfig (createValidationConfig flags getenv) = none ↔
      flags.disableValidation = true ∨ getenv "KMS_DISABLE_VALIDATION" = "true") ∧
    ∀ vm, newValidationMiddlewareFromConfig (createValidationConfig flags getenv) = some vm →
      vm.validationSuccess = 0 ∧ vm.validationFailures = 0 ∧
      ∀ m req, checkCall vm.validator m (.kms req) = .ok () →
        req.nodeUuid ≠ [] ∧ req.nodeUuid.length ≤ 36 ∧ matchAtoms uuidPattern req.nodeUuid = true ∧
          req.data.length ≤ maxDataSize := by
  obtain ⟨he, hl, -⟩ := createValidationConfig_enabled flags getenv
  unfold newValidationMiddlewareFromConfig
  rw [he]
  refine ⟨?_, fun vm h => ?_⟩
  · cases flags.disableValidation <;> by_cases h : getenv "KMS_DISABLE_VALIDATION" = "true" <;> simp [h]
  · split at h
    · cases h
    cases h
    refine ⟨rfl, rfl, fun m req hc => ?_⟩
    obtain ⟨hv, hd, -⟩ := checkCall_eq_ok.1 hc
    obtain ⟨hne, hlen, hn⟩ := validateNodeUUID_eq_ok.1 hv
    simp only [hl, newValidationMiddleware, Option.getD_some] at hlen
    exact ⟨hne, by omega, (checkNormalized_eq_ok.1 hn).1, hd⟩

end Validation

end TalosKmsVault
