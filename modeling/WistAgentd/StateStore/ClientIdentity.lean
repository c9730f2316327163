/- # StateStore.ClientIdentity -- key, certificate and the renewal ledger

`state_store/client_identity.rs` over the state directory of the agent. A file is written in place,
byte after byte, so a program can end between any two of them.

* `Home`: the state directory, the configuration in memory, and what has gone out.
* `writePrivate`, `readOptional`: the files.
* `loadOrGenerateKeyPair`, `clientCertificateStatus`, `combinedClientIdentityPem`. -/
import WistAgentd.Exec.World
import WistAgentd.Theory.Crash

namespace WistAgentd.Enrollment
open Exec (Stored)
open Telemetry (Bytes ascii)
open Theory.Crash
open Theory.Utf8
set_option autoImplicit false

/-! ## Texts -/

/-- A string, as its bytes. -/
structure Text where
  bytes : Bytes
  valid : validUtf8 bytes = true

def Text.ofBytes? (bytes : Bytes) : Option Text :=
  if valid : validUtf8 bytes = true then some ⟨bytes, valid⟩ else none

/-- `trim().is_empty()` -/
def Text.isBlank (text : Text) : Bool := (trimStart text.bytes).isEmpty

/-! ## The state directory -/

inductive PrivateFile
  | key | certificate | renewal
  deriving DecidableEq

def PrivateFile.relativePath : PrivateFile → String
  | .key => "identity/client.key.pem"
  | .certificate => "identity/client.crt.pem"
  | .renewal => "identity/renewal.json"

structure AgentSection where
  agentId : Option String
  environmentId : Option String
  instanceName : Option String

structure ControlPlaneSection where
  enabled : Bool
  endpoint : Option String
  enrollmentToken : Option String
  credentialId : Option String
  credentialExpiresAt : Option String
  tlsMode : Option String
  trustBundle : Option String
  authMode : Option String

structure AgentConfig where
  agent : AgentSection
  controlPlane : ControlPlaneSection
  stateDir : String

structure AgentRuntimeState where
  agentId : String
  instanceId : String
  version : String
  updatedAt : String
  credentialId : Option String
  credentialExpiresAt : Option String

/-- `state/auth_terminal.json` -/
structure AuthTerminal where
  code : String
  source : String
  detectedAt : String
  attempts : Int
  deriving DecidableEq

structure HostProfile where
  nodeId : String
  hostname : String
  os : String
  arch : String
  machineId : String
  cloudInstanceId : Option String
  k8sNodeUid : Option String
  ipAddresses : List String
  deriving DecidableEq

structure EnrollmentRequest where
  token : String
  credentialRequest : String
  certificateSigningRequest : String
  hostProfile : HostProfile
  capabilities : String
  requestedAt : String
  deriving DecidableEq

structure CredentialRenewal where
  agentId : String
  instanceId : String
  credentialRequest : String
  certificateSigningRequest : String
  requestedAt : String
  deriving DecidableEq

/-- A request to the control plane; `fetch` stands for the policies, grants, acknowledgements and
results of an ordinary turn. -/
inductive ControlRequest
  | enroll (request : EnrollmentRequest)
  | renew (request : CredentialRenewal)
  | status
  | fetch (path : String)
  deriving DecidableEq

/-- What can be seen of the process from outside, in order. -/
inductive Happening
  | booted
  /-- A turn of the loop begins, at this instant. -/
  | turn (now : Nat)
  | sent (request : ControlRequest) (identity : Option Bytes)
  /-- A status report was answered with success. -/
  | accepted
  /-- A terminal rejection is on record. -/
  | recorded
  /-- A collection tick. -/
  | collected
  deriving DecidableEq

structure Home where
  files : PrivateFile → Option Bytes
  runtimeState : Stored AgentRuntimeState
  authTerminal : Stored AuthTerminal
  /-- The lines of `agentd.toml`, if it is there. -/
  configLines : Option (List String)
  /-- In memory; a new process reads it again. -/
  config : AgentConfig
  /-- Nothing looks at it. -/
  history : List Happening

namespace Home

def put (home : Home) (file : PrivateFile) (content : Option Bytes) : Home :=
  { home with files := fun other => if other = file then content else home.files other }

def log (home : Home) (happening : Happening) : Home :=
  { home with history := home.history ++ [happening] }

def path (home : Home) (file : PrivateFile) : String :=
  home.config.stateDir ++ "/" ++ file.relativePath

@[simp] theorem put_same (home : Home) (file : PrivateFile) (content : Option Bytes) :
    (home.put file content).files file = content := if_pos rfl

theorem put_other (home : Home) {file other : PrivateFile} (content : Option Bytes)
    (different : other ≠ file) : (home.put file content).files other = home.files other :=
  if_neg different

end Home

/-! ## Effects and errors -/

inductive Effect
  | createDir
  | protectDir
  | create (file : PrivateFile)
  | append (file : PrivateFile)
  | protect (file : PrivateFile)
  | read (file : PrivateFile)
  | remove (file : PrivateFile)
  | readRuntime
  | storeRuntime
  | removeRuntime
  | readConfig
  | storeConfig
  | buildClient
  | send
  | readTerminal
  | storeTerminal
  | clearTerminal
  deriving DecidableEq

inductive EnrollmentReason
  | io | missingEndpoint | missingEnrollmentToken | http | invalidTrustBundle | rejected
  | invalidAcceptedResult | invalidTlsMode
  deriving DecidableEq

/-- An error with the one it was made from. -/
structure EnrollmentError where
  reason : EnrollmentReason
  detail : String
  source : Option String := none
  deriving DecidableEq

def ioError (message : String) : EnrollmentError := ⟨.io, message, none⟩

/-- `source_err` -/
def EnrollmentError.within (reason : EnrollmentReason) (detail : String) (err : EnrollmentError) :
    EnrollmentError :=
  ⟨reason, detail, some err.detail⟩

abbrev Enroll := Prog Effect Home EnrollmentError

/-! ## What the libraries do -/

inductive CertificateValidity
  | valid | renewDue | expired
  deriving DecidableEq

structure ClientCertificateStatus where
  notAfter : String
  remainingSeconds : Int
  validity : CertificateValidity

structure RenewalLedger where
  checkedAt : String
  outcome : String
  detail : String
  notAfter : String

structure CredentialBundle where
  credentialId : String
  certificate : Text
  notAfter : Option String

structure AgentIdentity where
  agentId : String
  instanceId : String
  environmentId : String

inductive EnrollmentStatus
  | accepted
  | other (name : String)

structure EnrollmentOutcome where
  status : EnrollmentStatus
  reasonCode : Option String
  agentId : Option String
  instanceId : Option String
  issuedIdentity : Option AgentIdentity
  credentialBundle : Option CredentialBundle

/-- Keys, certificates and JSON as `rcgen`, `x509_parser`, `reqwest` and `serde_json` handle
them. -/
structure Libraries (Key : Type) where
  serializePem : Key → Text
  keyFromPem : Text → Except String Key
  signingRequest : Key → Except String String
  /-- `notAfter` of a certificate, in seconds. -/
  notAfter : Text → Except String Int
  identityFromPem : Bytes → Except String Unit
  rootCertificate : String → Except String Unit
  rfc3339 : Int → String
  ledgerJson : RenewalLedger → Bytes
  decodeEnrollment : String → Except String EnrollmentOutcome
  decodeRenewal : String → Except String CredentialBundle
  statusText : Nat → String
  errorText : EnrollmentError → String

structure Response where
  status : Nat
  body : String

/-- What an operation meets outside: the clock, a new key, and an answer to each attempt to send,
or none. -/
structure Surroundings (Key : Type) where
  now : Int
  nowText : String
  version : String
  generated : Except String Key
  replies : Nat → Option Response
  hostname : String
  os : String
  arch : String
  machineId : Option String
  cloudInstanceId : Option String
  k8sNodeUid : Option String
  ipAddresses : List String

/-! ## Files -/

variable (file : PrivateFile)

/-- `fs::write`: the file is emptied, then filled. -/
def write (bytes : Bytes) : Enroll Unit := do
  Prog.effect (.create file) (·.put file (some []))
  Prog.forEach bytes fun byte =>
    Prog.effect (.append file) fun home =>
      home.put file ((home.files file).map (· ++ [byte]))

def writePrivate (bytes : Bytes) : Enroll Unit := do
  Prog.effect .createDir id
  Prog.effect .protectDir id
  write file bytes
  Prog.effect (.protect file) id

def readToString : Enroll Text := do
  Prog.effect (.read file) id
  let home ← Prog.get
  match (home.files file).bind Text.ofBytes? with
  | some text => pure text
  | none => Prog.throw (ioError "stream did not contain valid UTF-8")

def readOptional : Enroll (Option Text) := do
  let home ← Prog.get
  if (home.files file).isSome then do
    let text ← readToString file
    pure (some text)
  else pure none

section Identity

variable {Key : Type} (lib : Libraries Key) (env : Surroundings Key)

/-- The local key; if there is none, a new one is written first. -/
def loadOrGenerateKeyPair : Enroll Key := do
  let home ← Prog.get
  if (home.files .key).isSome then do
    let pem ← readToString .key
    match lib.keyFromPem pem with
    | .ok key => pure key
    | .error err =>
      Prog.throw (ioError ("failed to parse local client key " ++ home.path .key ++ ": " ++ err))
  else
    match env.generated with
    | .error err => Prog.throw (ioError ("failed to generate local client key: " ++ err))
    | .ok key => do
        writePrivate .key (lib.serializePem key).bytes
        pure key

def buildCertificateSigningRequest (key : Key) : Enroll String :=
  match lib.signingRequest key with
  | .ok request => pure request
  | .error err => Prog.throw (ioError ("failed to build certificate signing request: " ++ err))

def storeClientCertificate (certificate : Text) : Enroll Unit :=
  writePrivate .certificate certificate.bytes

def renewalLeadSeconds : Int := 30 * 24 * 60 * 60

def certificateStatusFromPem (pem : Text) (now : Int) : Except String ClientCertificateStatus :=
  match lib.notAfter pem with
  | .error err => .error err
  | .ok notAfter =>
    let remainingSeconds := notAfter - now
    .ok
      { notAfter := lib.rfc3339 notAfter, remainingSeconds
        validity := if remainingSeconds ≤ 0 then .expired
          else if remainingSeconds ≤ renewalLeadSeconds then .renewDue else .valid }

/-- How long the local certificate is valid; none before enrollment. -/
def clientCertificateStatus : Enroll (Option ClientCertificateStatus) := do
  let pem ← readOptional .certificate
  match pem with
  | none => pure none
  | some pem => match certificateStatusFromPem lib pem env.now with
    | .ok status => pure (some status)
    | .error err => Prog.throw (ioError err)

/-- Certificate and key as one PEM, if both are there. -/
def combinedClientIdentityPem : Enroll (Option Bytes) := do
  let certificate ← readOptional .certificate
  match certificate with
  | none => pure none
  | some certificate => do
      let key ← readOptional .key
      match key with
      | none => pure none
      | some key =>
        pure (some ((certificate.bytes.reverse.dropWhile (· == 10)).reverse ++ [10] ++ key.bytes))

def storeRenewalLedger (ledger : RenewalLedger) : Enroll Unit :=
  writePrivate .renewal (lib.ledgerJson ledger)

end Identity

end WistAgentd.Enrollment
