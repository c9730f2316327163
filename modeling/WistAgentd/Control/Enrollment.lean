/- # Control.Enrollment -- enrollment and renewal of the agent's credential

`control/enrollment.rs`: the start of the daemon (`ensureEnrolled`), the renewal its loop checks for
(`renewCredentialIfDue`) and the command line (`enrollWithOptionalToken`). -/
import WistAgentd.Control.Work
import WistAgentd.StateStore.ClientIdentity
import Mathlib.Data.List.Infix

namespace WistAgentd.Enrollment
open Theory.Utf8 (isWhitespace trim)
open Exec (Stored)
open Telemetry (Bytes)
open Theory.Crash
set_option autoImplicit false

/-! ## Texts -/

/-- A value that is more than blanks. -/
def requiredOption (value : Option String) : Option String :=
  (value.map trim).filter (· ≠ "")

def contains (text part : String) : Bool := decide (part.toList <:+: text.toList)

def trimEndSlashes (text : String) : String :=
  String.ofList (text.toList.reverse.dropWhile (· == '/')).reverse

def firstNonEmpty (values : List (Option String)) : Option String :=
  ((values.filterMap id).map trim).find? (· ≠ "")

def isRegisteredAgentId (value : String) : Bool :=
  let normalized := trim value
  normalized ≠ "" &&
    !(["local-agent", "unregistered-agent", "unknown", "unknown-agent"].contains normalized)

/-- Lines that go once enrollment is complete. -/
def isEnrollmentScopedLine (line : String) : Bool :=
  let trimmed := String.ofList (line.toList.dropWhile isWhitespace)
  trimmed.startsWith "enrollment_token" ||
    (trimmed.startsWith "auth_mode" && contains trimmed "enrollment_token")

/-! ## Rejections -/

def terminalAuthCodes : List String := ["certificate_revoked", "certificate_mismatch"]

def authRejectionCode (body : String) : Option String :=
  terminalAuthCodes.find? fun code => contains body code

inductive AuthRejection
  | terminal (code : String)
  | notRevoked

def classifyAuthRejection (status : Nat) (body : String) : AuthRejection :=
  if status = 401 ∨ status = 403 then
    match authRejectionCode body with
    | some code => .terminal code
    | none => .notRevoked
  else .notRevoked

def Response.isSuccess (response : Response) : Bool :=
  decide (200 ≤ response.status ∧ response.status < 300)

/-- What `error_for_status` refuses. -/
def Response.isError (response : Response) : Bool :=
  decide (400 ≤ response.status ∧ response.status < 600)

/-! ## Requests -/

section Requests

variable {Key : Type} (lib : Libraries Key) (env : Surroundings Key)

def buildHostProfile (config : AgentConfig) : HostProfile :=
  let machineId := env.machineId.getD "unknown"
  { nodeId := (firstNonEmpty [config.agent.instanceName, some machineId, some env.hostname]).getD
      "local-node"
    hostname := env.hostname, os := env.os, arch := env.arch, machineId
    cloudInstanceId := env.cloudInstanceId, k8sNodeUid := env.k8sNodeUid
    ipAddresses := env.ipAddresses }

/-- The local key, or a new one, and a request made with it. -/
def localCertificateSigningRequest : Enroll String := do
  let key ← (loadOrGenerateKeyPair lib env).mapError (·.within .io
    "prepare a local client key for the certificate signing request")
  (buildCertificateSigningRequest lib key).mapError
    (·.within .io "build the certificate signing request")

def buildEnrollmentRequest (token : String) : Enroll EnrollmentRequest := do
  let csr ← localCertificateSigningRequest lib env
  let home ← Prog.get
  pure
    { token, credentialRequest := "csr", certificateSigningRequest := csr
      hostProfile := buildHostProfile env home.config
      capabilities := "wist-agentd:discovery,telemetry,local-exec", requestedAt := env.nowText }

/-- The identity to present: certificate and key, if they can be read and have not expired. -/
def localClientIdentity : Enroll (Option Bytes) := do
  let status ← (clientCertificateStatus lib env).attempt
  match status with
  | .error _ => pure none
  | .ok status =>
    if status.map (·.validity) = some .expired then pure none
    else do
      let combined ← combinedClientIdentityPem.attempt
      match combined with
      | .error _ | .ok none => pure none
      | .ok (some pem) => match lib.identityFromPem pem with
        | .ok () => pure (some pem)
        | .error _ => pure none

def effectiveMode (config : AgentConfig) : String :=
  config.controlPlane.tlsMode.getD
    (if (config.controlPlane.endpoint.getD "").startsWith "https://" then "https" else "http")

/-- Whether a trust bundle is loaded; a mode that is not known is refused. -/
def loadTrust (config : AgentConfig) : Except EnrollmentError Bool :=
  let mode := effectiveMode config
  if mode = "https" ∨ mode = "verify" then
    match requiredOption config.controlPlane.trustBundle with
    | none => .ok false
    | some bundle => match lib.rootCertificate bundle with
      | .ok () => .ok true
      | .error err =>
        .error ⟨.invalidTrustBundle, "invalid control_plane.trust_bundle: " ++ err, none⟩
  else if mode = "none" ∨ mode = "http" then .ok false
  else .error ⟨.invalidTlsMode, "invalid control_plane.tls_mode: " ++ mode, none⟩

/-- The client, as the identity it presents. -/
def enrollmentHttpClient : Enroll (Option Bytes) := do
  let home ← Prog.get
  match loadTrust lib home.config with
  | .error err => Prog.throw err
  | .ok loadedTrustBundle => do
      let identity ← localClientIdentity lib env
      (Prog.effect .buildClient id).mapError fun err =>
        if loadedTrustBundle then
          ⟨.invalidTrustBundle, "invalid control_plane.trust_bundle: " ++ err.detail, none⟩
        else err.within .http "enrollment http error"
      pure identity

def enrollmentMaxAttempts : Nat := 3

/-- Only a transport error leads to another attempt. -/
def sendAttempts (request : ControlRequest) (identity : Option Bytes) :
    Nat → Nat → Enroll Response
  | _, 0 => Prog.throw ⟨.http, "enrollment http error", none⟩
  | attempt, left + 1 => do
      let sent ← (Prog.effect .send (·.log (.sent request identity)) : Enroll Unit).attempt
      match sent, env.replies attempt with
      | .ok (), some response => pure response
      | _, _ => sendAttempts request identity (attempt + 1) left

def sendWithRetry (request : ControlRequest) (identity : Option Bytes) : Enroll Response :=
  sendAttempts env request identity 0 enrollmentMaxAttempts

def postEnrollment (request : EnrollmentRequest) : Enroll EnrollmentOutcome := do
  let identity ← enrollmentHttpClient lib env
  let response ← sendWithRetry env (.enroll request) identity
  if response.isError then
    Prog.throw ⟨.http, "enrollment http error", some (lib.statusText response.status)⟩
  else
    match lib.decodeEnrollment response.body with
    | .ok outcome => pure outcome
    | .error err => Prog.throw ⟨.http, "decode enrollment response", some err⟩

/-! ## Credentials -/

def missingEndpoint : EnrollmentError :=
  ⟨.missingEndpoint, "control_plane.endpoint is required for enrollment", none⟩

def missingCertificate : EnrollmentError :=
  ⟨.invalidAcceptedResult, "accepted credential bundle is missing the client certificate", none⟩

def applyCredentialToConfig (credential : CredentialBundle) : Enroll Unit :=
  if credential.certificate.isBlank then Prog.throw missingCertificate
  else Prog.modify fun home =>
    { home with config := { home.config with controlPlane := { home.config.controlPlane with
        credentialId := some credential.credentialId
        authMode := some "certificate"
        enrollmentToken := none
        credentialExpiresAt :=
          credential.notAfter.or home.config.controlPlane.credentialExpiresAt } } }

def storeIssuedClientCertificate (credential : CredentialBundle) : Enroll Unit :=
  if credential.certificate.isBlank then Prog.throw missingCertificate
  else (storeClientCertificate credential.certificate).mapError
    (·.within .io "store client certificate")

def applyCredentialToRuntimeState (state : AgentRuntimeState) (credential : CredentialBundle) :
    AgentRuntimeState :=
  { state with
    credentialId := some credential.credentialId, credentialExpiresAt := credential.notAfter }

/-- `agent_runtime.json` is replaced at once. -/
def storeRuntimeState (state : AgentRuntimeState) : Enroll Unit :=
  (Prog.effect .storeRuntime fun home => { home with runtimeState := .intact state }).mapError
    (·.within .io "store runtime state")

def loadDefault : AgentRuntimeState :=
  ⟨"local-agent", (firstNonEmpty [some env.hostname]).getD "local-instance", env.version,
    env.nowText, none, none⟩

def loadRuntimeState : Enroll AgentRuntimeState := do
  (Prog.effect .readRuntime id).mapError (·.within .io "load runtime state")
  let home ← Prog.get
  match home.runtimeState with
  | .missing => pure (loadDefault env)
  | .corrupt => Prog.throw ⟨.io, "load runtime state", none⟩
  | .intact state => pure state

inductive RenewOutcome
  | done | revoked

/-- The reply to a renewal: a new credential is in the configuration, on disk and in the runtime
state, in this order. -/
def applyRenewal (response : Response) : Enroll RenewOutcome :=
  if response.isSuccess then
    match lib.decodeRenewal response.body with
    | .error err => Prog.throw ⟨.http, "decode renewal response", some err⟩
    | .ok credential => do
        applyCredentialToConfig credential
        storeIssuedClientCertificate credential
        let state ← loadRuntimeState env
        storeRuntimeState (applyCredentialToRuntimeState state credential)
        pure .done
  else
    match classifyAuthRejection response.status response.body with
    | .terminal _ => pure .revoked
    | .notRevoked => Prog.throw ⟨.http, "renewal http error: " ++ lib.statusText response.status ++
        " " ++ trim response.body, none⟩

def renewCredential : Enroll RenewOutcome := do
  let home ← Prog.get
  match requiredOption home.config.controlPlane.endpoint with
  | none => Prog.throw missingEndpoint
  | some _ => match requiredOption home.config.agent.agentId with
    | none => pure .done
    | some agentId => do
        let csr ← localCertificateSigningRequest lib env
        let identity ← enrollmentHttpClient lib env
        let response ← sendWithRetry env
          (.renew ⟨agentId, (requiredOption home.config.agent.instanceName).getD "", "csr", csr,
            env.nowText⟩) identity
        applyRenewal lib env response

/-! ## Renewal -/

inductive RenewalDecision
  | notDue | renewed
  | failed (detail : String)
  | needsReinstall | revoked
  deriving DecidableEq

def RenewalDecision.ledgerOutcome : RenewalDecision → String
  | .notDue => "not_due"
  | .renewed => "renewed"
  | .failed _ => "failed"
  | .needsReinstall => "needs_reinstall"
  | .revoked => "revoked"

def RenewalDecision.ledgerDetail : RenewalDecision → String
  | .notDue => "credential is not due for renewal"
  | .renewed => "credential renewed"
  | .failed detail => detail
  | .needsReinstall => "no usable client certificate; re-enroll or reinstall with a token"
  | .revoked => "gateway refused this agent as revoked (denylist); an operator must lift the " ++
      "revocation, then restart — reinstalling will not help"

def renewNow : Enroll RenewalDecision := do
  let outcome ← (renewCredential lib env).attempt
  match outcome with
  | .ok .done => pure .renewed
  | .ok .revoked => pure .revoked
  | .error err => pure (.failed (lib.errorText err))

def renewalDecision : Enroll RenewalDecision := do
  let status ← (clientCertificateStatus lib env).attempt
  match status with
  | .ok (some status) => match status.validity with
    | .expired => pure .needsReinstall
    | .valid => pure .notDue
    | .renewDue => renewNow lib env
  | .ok none => pure .needsReinstall
  | .error err => pure (.failed (lib.errorText err))

/-- What cannot be recorded is only printed. -/
def recordRenewalLedger (decision : RenewalDecision) : Enroll Unit := do
  let status ← (clientCertificateStatus lib env).attempt
  let notAfter := match status with
    | .ok (some status) => status.notAfter
    | _ => ""
  let _ ← (storeRenewalLedger lib
    ⟨env.nowText, decision.ledgerOutcome, decision.ledgerDetail, notAfter⟩).attempt
  pure ()

def renewCredentialIfDue : Enroll RenewalDecision := do
  let decision ← renewalDecision lib env
  recordRenewalLedger lib env decision
  pure decision

/-! ## Enrollment -/

inductive EnrollmentDecision
  | disabled | existingConfigIdentity | existingStateIdentity | enrolled

def scrubEnrollmentTokenFromConfigFile : Enroll Unit := do
  Prog.effect .readConfig id
  let home ← Prog.get
  match home.configLines with
  | none => pure ()
  | some lines =>
    if (lines.filter fun line => !isEnrollmentScopedLine line).length = lines.length then pure ()
    else (Prog.effect .storeConfig fun home =>
        { home with configLines := some (lines.filter fun line => !isEnrollmentScopedLine line) }
      ).mapError (·.within .io "scrub enrollment token")

def hasConfigIdentity (config : AgentConfig) : Bool :=
  (requiredOption config.agent.agentId).isSome

def AgentConfig.withIdentity (config : AgentConfig) (state : AgentRuntimeState) : AgentConfig :=
  let credentialId := state.credentialId.filter fun value => trim value ≠ ""
  let expiresAt := state.credentialExpiresAt.filter fun value => trim value ≠ ""
  let controlPlane := match credentialId with
    | none => config.controlPlane
    | some credentialId =>
      { config.controlPlane with
        credentialId := some credentialId, authMode := some "certificate"
        enrollmentToken := none }
  { config with
    agent := { config.agent with
      agentId := some state.agentId, instanceName := some state.instanceId }
    controlPlane := { controlPlane with
      credentialExpiresAt := expiresAt.or controlPlane.credentialExpiresAt } }

/-- Whether the state directory knows who the agent is. -/
def loadStateIdentity : Enroll Bool := do
  let home ← Prog.get
  match home.runtimeState with
  | .missing => pure false
  | _ => do
      let state ← loadRuntimeState env
      if isRegisteredAgentId state.agentId then do
        Prog.modify fun home => { home with config := home.config.withIdentity state }
        pure true
      else pure false

def notBlank (value : Option String) : Option String := value.filter fun value => trim value ≠ ""

def invalidResult (field : String) : EnrollmentError :=
  ⟨.invalidAcceptedResult, "accepted enrollment response is missing " ++ field, none⟩

/-- A credential that came with the enrollment: configuration, then certificate. -/
def takeCredential : Option CredentialBundle → Enroll Unit
  | none => pure ()
  | some credential => do
      applyCredentialToConfig credential
      storeIssuedClientCertificate credential

/-- The runtime state is written last: with it the agent counts as enrolled. -/
def applyEnrollmentResult (result : EnrollmentOutcome) : Enroll Unit :=
  match result.status with
  | .other name => Prog.throw ⟨.rejected, "enrollment rejected with status " ++ name ++ " reason " ++
      result.reasonCode.getD "unknown", none⟩
  | .accepted =>
    match notBlank (result.agentId.or (result.issuedIdentity.map (·.agentId))),
        notBlank (result.instanceId.or (result.issuedIdentity.map (·.instanceId))) with
    | none, _ => Prog.throw (invalidResult "agent_id")
    | some _, none => Prog.throw (invalidResult "instance_id")
    | some agentId, some instanceId => do
        Prog.modify fun home =>
          { home with config := { home.config with agent := { home.config.agent with
              environmentId := (result.issuedIdentity.map (·.environmentId)).or
                home.config.agent.environmentId } } }
        takeCredential result.credentialBundle
        Prog.modify fun home =>
          { home with config := { home.config with agent := { home.config.agent with
              agentId := some agentId, instanceName := some instanceId } } }
        let state : AgentRuntimeState :=
          ⟨agentId, instanceId, env.version, env.nowText, none, none⟩
        storeRuntimeState ((result.credentialBundle.map
          (applyCredentialToRuntimeState state)).getD state)

def missingEnrollmentToken : EnrollmentError :=
  ⟨.missingEnrollmentToken,
    "no enrollment token available; enroll first with `wist-agentd enroll --token <token>` " ++
      "(or install with `service install --enrollment-token <token>`)", none⟩

/-- The enrollment itself, with the endpoint and the token it needs. -/
def enrollNow : Enroll EnrollmentDecision := do
  let home ← Prog.get
  match requiredOption home.config.controlPlane.endpoint,
      requiredOption home.config.controlPlane.enrollmentToken with
  | none, _ => Prog.throw missingEndpoint
  | some _, none => Prog.throw missingEnrollmentToken
  | some _, some token => do
      let request ← buildEnrollmentRequest lib env token
      let outcome ← postEnrollment lib env request
      applyEnrollmentResult env outcome
      scrubEnrollmentTokenFromConfigFile
      pure .enrolled

/-- `ensure_enrolled_with_config_path` -/
def ensureEnrolled : Enroll EnrollmentDecision := do
  let home ← Prog.get
  if hasConfigIdentity home.config then do
    scrubEnrollmentTokenFromConfigFile
    pure .existingConfigIdentity
  else do
    let known ← loadStateIdentity env
    if known then do
      let _ ← renewCredentialIfDue lib env
      scrubEnrollmentTokenFromConfigFile
      pure .existingStateIdentity
    else do
      let home ← Prog.get
      if home.config.controlPlane.enabled then enrollNow lib env
      else pure .disabled

/-- Remove a file that may not be there. -/
def removeIfPresent (file : PrivateFile) (detail : String) : Enroll Unit := do
  let home ← Prog.get
  if (home.files file).isSome then
    (Prog.effect (.remove file) (·.put file none)).mapError (·.within .io detail)
  else pure ()

def removeRuntimeIfPresent : Enroll Unit := do
  let home ← Prog.get
  if home.runtimeState.present then
    (Prog.effect .removeRuntime fun home => { home with runtimeState := .missing }).mapError
      (·.within .io "discard local credential state")
  else pure ()

/-- For `--force`: everything the gateway has issued goes, the key stays. -/
def discardLocalIdentity : Enroll Unit := do
  removeRuntimeIfPresent
  removeIfPresent .certificate "discard local client certificate"
  removeIfPresent .renewal "discard renewal ledger"

/-- The command line, once the configuration is read and the directories are there. -/
def enrollWithOptionalToken (token : Option String) (force : Bool) : Enroll EnrollmentDecision := do
  (if force then discardLocalIdentity else pure () : Enroll Unit)
  Prog.modify fun home =>
    { home with config := { home.config with controlPlane := { home.config.controlPlane with
        enrollmentToken := token.or home.config.controlPlane.enrollmentToken } } }
  ensureEnrolled lib env

end Requests

end WistAgentd.Enrollment
