/- # Control.IdentityCrash -- key and certificate across crashes

Key and certificate are written in place. However enrollment or renewal ends, the two files are
absent or complete exactly if it did not end, or fail, inside one of these writes.

* `quiet_*`: programs that do not touch the two files.
* `guards_*`: the programs that write them.
* `identity_intact_iff`: every operation; `torn_certificate` is a renewal that is stopped. -/
import WistAgentd.Control.Enrollment

namespace WistAgentd.Enrollment
open Exec (Stored)
open Telemetry (Bytes ascii)
open Theory.Crash
set_option autoImplicit false

variable {file : PrivateFile} {bytes : Bytes}

variable {Key : Type}

/-! ## Complete files -/

/-- What the agent itself would accept. -/
def Libraries.complete (lib : Libraries Key) : PrivateFile → Bytes → Bool
  | .key, bytes => (Text.ofBytes? bytes).any fun text => (lib.keyFromPem text).isOk
  | .certificate, bytes => (Text.ofBytes? bytes).any fun text => (lib.notAfter text).isOk
  | .renewal, _ => true

/-- Key and certificate are absent or complete. -/
def Home.Intact (lib : Libraries Key) (home : Home) : Prop :=
  ∀ file bytes, home.files file = some bytes → lib.complete file bytes = true

/-- The operation is not stopped in a write of the key or the certificate, unless what is there by
then is complete. -/
def Harmless (lib : Libraries Key) (event : Event Effect Home EnrollmentError) : Prop :=
  event.fate ≠ .done → ∀ file, event.label = .append file → ∀ bytes,
    event.before.files file = some bytes → lib.complete file bytes = true

/-- Keys can be read back as they are written, and the gateway issues certificates. -/
structure Honest (lib : Libraries Key) (env : Surroundings Key) : Prop where
  keys : ∀ key, lib.complete .key (lib.serializePem key).bytes = true
  enrolled : ∀ attempt response outcome credential, env.replies attempt = some response →
    lib.decodeEnrollment response.body = .ok outcome →
    outcome.credentialBundle = some credential →
    lib.complete .certificate credential.certificate.bytes = true
  renewed : ∀ attempt response credential, env.replies attempt = some response →
    lib.decodeRenewal response.body = .ok credential →
    lib.complete .certificate credential.certificate.bytes = true

/-- The two files are intact and, if `there` holds, the certificate is there. -/
def Sound (lib : Libraries Key) (there : Prop) (home : Home) : Prop :=
  home.Intact lib ∧ (there → (home.files .certificate).isSome)

def Broken (lib : Libraries Key) (home : Home) : Prop := ¬ home.Intact lib

/-- What the two predicates depend on. -/
def identityFiles (home : Home) : Option Bytes × Option Bytes :=
  (home.files .key, home.files .certificate)

/-- The two files, the record of a terminal rejection, and what has happened. -/
def Home.outside (home : Home) :
    (Option Bytes × Option Bytes) × Stored AuthTerminal × List Happening :=
  (identityFiles home, home.authTerminal, home.history)

section Predicates

variable {lib : Libraries Key} {there : Prop}

theorem Home.Intact.of_identityFiles {home other : Home}
    (same : identityFiles other = identityFiles home) (intact : home.Intact lib) :
    other.Intact lib := by
  obtain ⟨keys, certificates⟩ := Prod.mk.inj same
  intro file bytes found
  cases file with
  | key => exact intact .key bytes (keys ▸ found)
  | certificate => exact intact .certificate bytes (certificates ▸ found)
  | renewal => rfl

theorem sound_of_identityFiles (home other : Home)
    (same : identityFiles other = identityFiles home) (sound : Sound lib there home) :
    Sound lib there other :=
  ⟨sound.1.of_identityFiles same, fun was => (Prod.mk.inj same).2 ▸ sound.2 was⟩

theorem broken_of_identityFiles (home other : Home)
    (same : identityFiles other = identityFiles home) (broken : Broken lib home) :
    Broken lib other :=
  fun intact => broken (intact.of_identityFiles same.symm)

/-- Only appending can do harm. -/
theorem harmless_of_label {event : Event Effect Home EnrollmentError}
    (other : ∀ file, event.label ≠ .append file) : Harmless lib event :=
  fun _ file labelled => absurd labelled (other file)

theorem harmless_renewal (home : Home) (fate : Fate EnrollmentError) :
    Harmless lib ⟨.append .renewal, home, fate⟩ := by
  intro _ file labelled bytes _
  cases labelled
  rfl

end Predicates

/-! ## Programs that leave the two files alone -/

section Leaves

variable (lib : Libraries Key) (env : Surroundings Key)

/-- Neither file is touched, nor is anything else done that others could see. -/
abbrev Quiet {α : Type} (prog : Enroll α) : Prop :=
  Leaves (Harmless lib) Home.outside prog

variable {lib}

theorem quiet_effect {label : Effect} {update : Home → Home}
    (other : ∀ file, label ≠ .append file := by simp)
    (same : ∀ home, (update home).outside = home.outside := by exact fun _ => rfl) :
    Quiet lib (Prog.effect label update) :=
  leaves_effect same fun _ _ => harmless_of_label other

theorem quiet_readToString (file : PrivateFile) : Quiet lib (readToString file) := by
  refine leaves_bind quiet_effect fun _ =>
    leaves_bind leaves_get fun home => ?_
  split
  · exact leaves_pure
  · exact leaves_throw

theorem quiet_readOptional (file : PrivateFile) : Quiet lib (readOptional file) := by
  refine leaves_bind leaves_get fun home => ?_
  split
  · exact leaves_bind (quiet_readToString file) fun _ => leaves_pure
  · exact leaves_pure

theorem quiet_clientCertificateStatus : Quiet lib (clientCertificateStatus lib env) := by
  refine leaves_bind (quiet_readOptional _) fun pem => ?_
  cases pem with
  | none => exact leaves_pure
  | some pem =>
    dsimp only
    split
    · exact leaves_pure
    · exact leaves_throw

theorem quiet_combinedClientIdentityPem : Quiet lib combinedClientIdentityPem := by
  refine leaves_bind (quiet_readOptional _) fun certificate => ?_
  cases certificate with
  | none => exact leaves_pure
  | some certificate =>
    refine leaves_bind (quiet_readOptional _) fun key => ?_
    cases key with
    | none | some key => exact leaves_pure

theorem quiet_localClientIdentity : Quiet lib (localClientIdentity lib env) := by
  refine leaves_bind (leaves_attempt (quiet_clientCertificateStatus env)) fun status => ?_
  cases status with
  | error err => exact leaves_pure
  | ok status =>
    dsimp only
    split
    · exact leaves_pure
    · refine leaves_bind (leaves_attempt quiet_combinedClientIdentityPem) fun combined => ?_
      split
      · exact leaves_pure
      · exact leaves_pure
      · split <;> exact leaves_pure

theorem quiet_enrollmentHttpClient : Quiet lib (enrollmentHttpClient lib env) := by
  refine leaves_bind leaves_get fun home => ?_
  split
  · exact leaves_throw
  · refine leaves_bind (quiet_localClientIdentity env) fun identity => ?_
    exact leaves_bind (leaves_mapError quiet_effect) fun _ =>
      leaves_pure

theorem quiet_applyCredentialToConfig (credential : CredentialBundle) :
    Quiet lib (applyCredentialToConfig credential) := by
  unfold applyCredentialToConfig
  split
  · exact leaves_throw
  · exact leaves_modify fun _ => rfl

theorem quiet_storeRuntimeState (state : AgentRuntimeState) :
    Quiet lib (storeRuntimeState state) :=
  leaves_mapError quiet_effect

theorem quiet_loadRuntimeState : Quiet lib (loadRuntimeState env) := by
  refine leaves_bind (leaves_mapError quiet_effect) fun _ =>
    leaves_bind leaves_get fun home => ?_
  split
  · exact leaves_pure
  · exact leaves_throw
  · exact leaves_pure

theorem quiet_scrub : Quiet lib scrubEnrollmentTokenFromConfigFile := by
  refine leaves_bind quiet_effect fun _ =>
    leaves_bind leaves_get fun home => ?_
  split
  · exact leaves_pure
  · split
    · exact leaves_pure
    · exact leaves_mapError quiet_effect

theorem quiet_loadStateIdentity : Quiet lib (loadStateIdentity env) := by
  refine leaves_bind leaves_get fun home => ?_
  split
  · exact leaves_pure
  · refine leaves_bind (quiet_loadRuntimeState env) fun state => ?_
    split
    · exact leaves_bind (leaves_modify fun _ => rfl) fun _ => leaves_pure
    · exact leaves_pure

/-- The ledger is written like the two files, but nothing depends on it. -/
theorem quiet_storeRenewalLedger (ledger : RenewalLedger) :
    Quiet lib (storeRenewalLedger lib ledger) := by
  refine leaves_bind quiet_effect fun _ =>
    leaves_bind quiet_effect fun _ => leaves_bind ?_ fun _ =>
      quiet_effect
  refine leaves_bind quiet_effect fun _ => leaves_forEach (fun _ => ?_) _
  exact leaves_effect (fun _ => rfl) harmless_renewal

theorem quiet_recordRenewalLedger (decision : RenewalDecision) :
    Quiet lib (recordRenewalLedger lib env decision) :=
  leaves_bind (leaves_attempt (quiet_clientCertificateStatus env)) fun _ =>
    leaves_bind (leaves_attempt (quiet_storeRenewalLedger _)) fun _ => leaves_pure

end Leaves

/-! ## Programs that write them -/

/-- What enrollment and renewal write. -/
inductive Issued (lib : Libraries Key) (env : Surroundings Key) : PrivateFile → Bytes → Prop
  | key (key : Key) : Issued lib env .key (lib.serializePem key).bytes
  | enrolled {attempt : Nat} {response : Response} {outcome : EnrollmentOutcome}
      {credential : CredentialBundle} (reply : env.replies attempt = some response)
      (decoded : lib.decodeEnrollment response.body = .ok outcome)
      (issued : outcome.credentialBundle = some credential) :
      Issued lib env .certificate credential.certificate.bytes
  | renewed {attempt : Nat} {response : Response} {credential : CredentialBundle}
      (reply : env.replies attempt = some response)
      (decoded : lib.decodeRenewal response.body = .ok credential) :
      Issued lib env .certificate credential.certificate.bytes

/-- `I` is kept by the events that meet `A`, and `H` shows the others: so it is for requests and for
what is issued, and nothing else touches what the two depend on. -/
structure Guards (lib : Libraries Key) (env : Surroundings Key)
    (A : Event Effect Home EnrollmentError → Prop) (I H : Home → Prop) : Prop where
  harmless : ∀ event, Harmless lib event → A event
  only : ∀ home other : Home, other.outside = home.outside → I home → I other
  spoiled : ∀ home other : Home, other.outside = home.outside → H home → H other
  sends : ∀ request identity,
    Guarded A I H (Prog.effect .send (·.log (.sent request identity)) : Enroll Unit).attempt
  writes : ∀ file bytes, Issued lib env file bytes → Guarded A I H (write file bytes)

section Writes

variable {lib : Libraries Key} {env : Surroundings Key} {there : Prop}

/-- A file is being filled with `bytes`; `rest` is still to come. -/
def Filling (lib : Libraries Key) (there : Prop) (file : PrivateFile) (bytes rest : Bytes)
    (home : Home) : Prop :=
  (∃ written, written ++ rest = bytes ∧ home.files file = some written) ∧
    (∀ other ≠ file, ∀ content, home.files other = some content →
      lib.complete other content = true) ∧
    (there → (home.files .certificate).isSome)

/-- Stopped where what is written is complete, the files are intact. -/
theorem sound_of_filling {rest : Bytes} {home : Home}
    (filling : Filling lib there file bytes rest home)
    (complete : ∀ written, home.files file = some written → lib.complete file written = true) :
    Sound lib there home := by
  obtain ⟨-, others, present⟩ := filling
  refine ⟨fun other content found => ?_, present⟩
  by_cases same : other = file
  · subst same
    exact complete content found
  · exact others other same content found

theorem keeps_write (whole : lib.complete file bytes = true) :
    Keeps (Harmless lib) (Sound lib there) (write file bytes) := by
  have filled : TripleOr (Harmless lib) (Filling lib there file bytes bytes)
      (Prog.forEach bytes fun byte => Prog.effect (.append file) fun home =>
        home.put file ((home.files file).map (· ++ [byte])))
      (fun _ => Filling lib there file bytes []) (Sound lib there) := by
    -- the invariant: what is written, followed by what is to come, is the text
    refine triple_forEach (I := Filling lib there file bytes) (fun byte rest => ?_) bytes
    refine triple_effect ?_ ?_ ?_
    · rintro home ⟨⟨written, together, found⟩, others, present⟩ -
      refine ⟨⟨written ++ [byte], by simpa using together, by simp [found]⟩, ?_, ?_⟩
      · intro other different content
        rw [home.put_other _ different]
        exact others other different content
      · intro was
        by_cases same : PrivateFile.certificate = file
        · simp [← same, present was]
        · rw [home.put_other _ same]
          exact present was
    · exact fun _ _ filling harmless => sound_of_filling filling (harmless (by simp) file rfl)
    · exact fun _ filling harmless => sound_of_filling filling (harmless (by simp) file rfl)
  refine triple_bind (Q := fun _ => Filling lib there file bytes bytes) ?_ fun _ =>
    filled.after ?_
  · refine tripleOr_effect ?_ fun _ => id
    rintro home ⟨intact, present⟩
    refine ⟨⟨[], rfl, home.put_same ..⟩, ?_, ?_⟩
    · intro other different content
      rw [home.put_other _ different]
      exact intact other content
    · intro was
      by_cases same : PrivateFile.certificate = file
      · simp [← same]
      · rw [home.put_other _ same]
        exact present was
  · rintro - home filling
    refine sound_of_filling filling fun content found => ?_
    obtain ⟨⟨written, together, same⟩, -⟩ := filling
    rw [List.append_nil] at together
    rw [same, together] at found
    cases found
    exact whole

theorem aborts_append (file : PrivateFile) (update : Home → Home) :
    Aborts (Harmless lib) (Broken lib) (Prog.effect (.append file) update) := by
  refine aborts_effect fun home fate harmful => ?_
  simp only [Harmless, not_forall] at harmful
  obtain ⟨stopped, other, labelled, bytes, found, incomplete⟩ := harmful
  exact ⟨stopped, fun intact => incomplete (intact other bytes found)⟩

theorem aborts_write (file : PrivateFile) (bytes : Bytes) :
    Aborts (Harmless lib) (Broken lib) (write file bytes) := by
  have quiet : Aborts (Harmless lib) (Broken lib)
      (Prog.effect (.create file) (·.put file (some [])) : Enroll Unit) :=
    aborts_effect fun _ _ harmful => absurd (harmless_of_label (by simp)) harmful
  refine aborts_bind quiet fun _ => ?_
  induction bytes with
  | nil => exact aborts_pure
  | cons byte rest ih => exact aborts_bind (aborts_append file _) fun _ => ih

theorem Honest.complete (honest : Honest lib env) (issued : Issued lib env file bytes) :
    lib.complete file bytes = true := by
  cases issued with
  | key key => exact honest.keys key
  | enrolled reply decoded issued => exact honest.enrolled _ _ _ _ reply decoded issued
  | renewed reply decoded => exact honest.renewed _ _ _ reply decoded

/-- The two files, with an honest gateway. -/
theorem Honest.guards (honest : Honest lib env) :
    Guards lib env (Harmless lib) (Sound lib there) (Broken lib) where
  harmless _ harmless := harmless
  only home other same := sound_of_identityFiles home other (congrArg Prod.fst same)
  spoiled home other same := broken_of_identityFiles home other (congrArg Prod.fst same)
  sends request identity := by
    have sends : Leaves (Harmless lib) identityFiles
        (Prog.effect .send (·.log (.sent request identity)) : Enroll Unit) :=
      leaves_effect (fun _ => rfl) fun _ _ => harmless_of_label (by simp)
    exact (leaves_attempt sends).guarded sound_of_identityFiles
  writes file bytes issued := ⟨keeps_write (honest.complete issued), aborts_write file bytes⟩

variable {A : Event Effect Home EnrollmentError → Prop} {I H : Home → Prop}
  (guards : Guards lib env A I H)

include guards

theorem Guards.quiet {α : Type} {prog : Enroll α} (quiet : Quiet lib prog) : Guarded A I H prog :=
  (quiet.mono guards.harmless).guarded guards.only

theorem guards_writePrivate (issued : Issued lib env file bytes) :
    Guarded A I H (writePrivate file bytes) :=
  guarded_bind (guards.quiet quiet_effect) fun _ =>
    guarded_bind (guards.quiet quiet_effect) fun _ =>
      guarded_bind (guards.writes file bytes issued) fun _ =>
        guards.quiet quiet_effect

theorem guards_sendAttempts (request : ControlRequest) (identity : Option Bytes) :
    ∀ left attempt, Guarded A I H (sendAttempts env request identity attempt left)
  | 0, _ => guarded_throw
  | left + 1, attempt => by
      refine guarded_bind (guards.sends request identity) fun sent => ?_
      split
      · exact guarded_pure
      · exact guards_sendAttempts request identity left (attempt + 1)

theorem guards_loadOrGenerateKeyPair : Guarded A I H (loadOrGenerateKeyPair lib env) := by
  refine guarded_bind guarded_get fun home => ?_
  split
  · refine guarded_bind (guards.quiet (quiet_readToString _)) fun pem => ?_
    split
    · exact guarded_pure
    · exact guarded_throw
  · split
    · exact guarded_throw
    · exact guarded_bind (guards_writePrivate guards (.key _)) fun _ => guarded_pure

theorem guards_localCertificateSigningRequest :
    Guarded A I H (localCertificateSigningRequest lib env) := by
  refine guarded_bind (guarded_mapError (guards_loadOrGenerateKeyPair guards)) fun key =>
    guarded_mapError ?_
  unfold buildCertificateSigningRequest
  split
  · exact guarded_pure
  · exact guarded_throw

theorem guards_storeIssued {credential : CredentialBundle}
    (issued : Issued lib env .certificate credential.certificate.bytes) :
    Guarded A I H (storeIssuedClientCertificate credential) := by
  unfold storeIssuedClientCertificate
  split
  · exact guarded_throw
  · exact guarded_mapError (guards_writePrivate guards issued)

omit guards in
theorem sendAttempts_returns (request : ControlRequest) (identity : Option Bytes) :
    ∀ left attempt fates home response,
      (sendAttempts env request identity attempt left fates home).outcome = .ok response →
      ∃ attempt, env.replies attempt = some response
  | 0, _, _, _, _, returned => by cases returned
  | left + 1, attempt, fates, home, response, returned => by
      obtain ⟨sent, -, returned⟩ := bind_returned returned
      cases sent with
      | error err => exact sendAttempts_returns request identity left (attempt + 1) _ _ _ returned
      | ok done =>
        cases reply : env.replies attempt with
        | none =>
          simp only [reply] at returned
          exact sendAttempts_returns request identity left (attempt + 1) _ _ _ returned
        | some answer =>
          simp only [reply] at returned
          cases returned
          exact ⟨attempt, reply⟩

theorem guards_applyRenewal {response : Response}
    (reply : ∃ attempt, env.replies attempt = some response) :
    Guarded A I H (applyRenewal lib env response) := by
  obtain ⟨attempt, reply⟩ := reply
  unfold applyRenewal
  split
  · split
    · exact guarded_throw
    next credential decoded =>
      exact guarded_bind (guards.quiet (quiet_applyCredentialToConfig _)) fun _ =>
        guarded_bind (guards_storeIssued guards (.renewed reply decoded)) fun _ =>
          guarded_bind (guards.quiet (quiet_loadRuntimeState env)) fun _ =>
            guarded_bind (guards.quiet (quiet_storeRuntimeState _)) fun _ => guarded_pure
  · split
    · exact guarded_pure
    · exact guarded_throw

theorem guards_renewCredential : Guarded A I H (renewCredential lib env) := by
  refine guarded_bind guarded_get fun home => ?_
  split
  · exact guarded_throw
  · split
    · exact guarded_pure
    · exact guarded_bind (guards_localCertificateSigningRequest guards) fun csr =>
        guarded_bind (guards.quiet (quiet_enrollmentHttpClient env)) fun identity =>
          guarded_bind_of_returns (guards_sendAttempts guards _ _ _ _)
            (sendAttempts_returns _ _ _ _) fun _ reply => guards_applyRenewal guards reply

theorem guards_applyEnrollmentResult {response : Response} {outcome : EnrollmentOutcome}
    (reply : ∃ attempt, env.replies attempt = some response)
    (decoded : lib.decodeEnrollment response.body = .ok outcome) :
    Guarded A I H (applyEnrollmentResult env outcome) := by
  obtain ⟨attempt, reply⟩ := reply
  unfold applyEnrollmentResult
  split
  · exact guarded_throw
  · split
    · exact guarded_throw
    · exact guarded_throw
    · refine guarded_bind (guards.quiet (leaves_modify fun _ => rfl)) fun _ =>
        guarded_bind ?_ fun _ => guarded_bind (guards.quiet (leaves_modify fun _ => rfl)) fun _ =>
          guards.quiet (quiet_storeRuntimeState _)
      cases issued : outcome.credentialBundle with
      | none => exact guarded_pure
      | some credential =>
        exact guarded_bind (guards.quiet (quiet_applyCredentialToConfig _)) fun _ =>
          guards_storeIssued guards (.enrolled reply decoded issued)

omit guards in
theorem postEnrollment_returns (request : EnrollmentRequest) (fates : List (Fate EnrollmentError))
    (home : Home) (outcome : EnrollmentOutcome)
    (returned : (postEnrollment lib env request fates home).outcome = .ok outcome) :
    ∃ response, (∃ attempt, env.replies attempt = some response) ∧
      lib.decodeEnrollment response.body = .ok outcome := by
  obtain ⟨identity, -, returned⟩ := bind_returned returned
  obtain ⟨response, sent, returned⟩ := bind_returned returned
  refine ⟨response, sendAttempts_returns _ _ _ _ _ _ _ sent, ?_⟩
  split at returned
  · cases returned
  · cases decoded : lib.decodeEnrollment response.body <;> simp only [decoded] at returned <;>
      cases returned
    rfl

theorem guards_enrollNow : Guarded A I H (enrollNow lib env) := by
  refine guarded_bind guarded_get fun home => ?_
  split
  · exact guarded_throw
  · exact guarded_throw
  · refine guarded_bind ?_ fun request => guarded_bind_of_returns ?_ (postEnrollment_returns _)
      fun outcome ⟨response, reply, decoded⟩ =>
        guarded_bind (guards_applyEnrollmentResult guards reply decoded) fun _ =>
          guarded_bind (guards.quiet quiet_scrub) fun _ => guarded_pure
    · exact guarded_bind (guards_localCertificateSigningRequest guards) fun _ =>
        guarded_bind guarded_get fun _ => guarded_pure
    · refine guarded_bind (guards.quiet (quiet_enrollmentHttpClient env)) fun _ =>
        guarded_bind (guards_sendAttempts guards _ _ _ _) fun response => ?_
      split
      · exact guarded_throw
      · split
        · exact guarded_pure
        · exact guarded_throw

/-! ## Operations -/

theorem tolerates_quiet {α β : Type} {first : Enroll α} {next : α → Enroll β}
    (head : Tolerates A I H first)
    (tail : ∀ value, Quiet lib (next value)) :
    Tolerates A I H (first >>= next) :=
  tolerates_bind_leaves head (fun value => (tail value).mono guards.harmless) guards.only
    guards.spoiled

/-- A renewal that fails is only recorded. -/
theorem tolerates_renewCredentialIfDue : Tolerates A I H (renewCredentialIfDue lib env) := by
  refine tolerates_quiet guards ?_ fun decision =>
    leaves_bind (quiet_recordRenewalLedger env decision) fun _ => leaves_pure
  refine tolerates_bind (guards.quiet (leaves_attempt (quiet_clientCertificateStatus env)))
    fun status => ?_
  split
  · split
    · exact guarded_pure.tolerates
    · exact guarded_pure.tolerates
    · refine tolerates_quiet guards (tolerates_attempt (guards_renewCredential guards).tolerates)
        fun outcome => ?_
      split <;> exact leaves_pure
  · exact guarded_pure.tolerates
  · exact guarded_pure.tolerates

theorem tolerates_ensureEnrolled : Tolerates A I H (ensureEnrolled lib env) := by
  have scrubbed (decision : EnrollmentDecision) :
      Quiet lib (do scrubEnrollmentTokenFromConfigFile; pure decision) :=
    leaves_bind quiet_scrub fun _ => leaves_pure
  refine tolerates_bind guarded_get fun home => ?_
  split
  · exact (guards.quiet (scrubbed _)).tolerates
  · refine tolerates_bind (guards.quiet (quiet_loadStateIdentity env)) fun known => ?_
    split
    · exact tolerates_quiet guards (tolerates_renewCredentialIfDue guards) fun _ => scrubbed _
    · refine tolerates_bind guarded_get fun home => ?_
      split
      · exact (guards_enrollNow guards).tolerates
      · exact guarded_pure.tolerates

end Writes

/-- What the agent and its command line do with the identity. -/
inductive Operation
  /-- The start of the daemon. -/
  | start
  /-- The check of its loop. -/
  | renewal
  | enroll (token : Option String) (force : Bool)

def Operation.prog (lib : Libraries Key) (env : Surroundings Key) : Operation → Enroll Unit
  | .start => do let _ ← ensureEnrolled lib env
  | .renewal => do let _ ← renewCredentialIfDue lib env
  | .enroll token force => do let _ ← enrollWithOptionalToken lib env token force

/-- `enroll --force` gives the certificate up. -/
def Operation.discards : Operation → Bool
  | .enroll _ force => force
  | _ => false

section Operations

variable {lib : Libraries Key} {env : Surroundings Key} {there : Prop}

theorem guards_removeIfPresent (gone : ¬ there) (file : PrivateFile) (detail : String) :
    Guarded (Harmless lib) (Sound lib there) (Broken lib) (removeIfPresent file detail) := by
  refine guarded_bind guarded_get fun home => ?_
  split
  · refine guarded_mapError ⟨keeps_effect fun home sound => ?_, aborts_effect fun _ _ harmful =>
      absurd (harmless_of_label (by simp)) harmful⟩
    refine ⟨fun other content found => ?_, fun was => absurd was gone⟩
    by_cases same : other = file
    · simp [same] at found
    · rw [home.put_other _ same] at found
      exact sound.1 other content found
  · exact guarded_pure

theorem guards_discardLocalIdentity (gone : ¬ there) :
    Guarded (Harmless lib) (Sound lib there) (Broken lib) discardLocalIdentity := by
  refine guarded_bind ?_ fun _ => guarded_bind (guards_removeIfPresent gone _ _) fun _ =>
    guards_removeIfPresent gone _ _
  refine guarded_bind guarded_get fun home => ?_
  split
  · refine Leaves.guarded (leaves_mapError (leaves_effect (fun _ => rfl) fun _ _ => ?_))
      sound_of_identityFiles
    exact harmless_of_label (by simp)
  · exact guarded_pure

theorem tolerates_prog (honest : Honest lib env) {operation : Operation}
    (kept : operation.discards = true → ¬ there) :
    Tolerates (Harmless lib) (Sound lib there) (Broken lib) (operation.prog lib env) := by
  cases operation with
  | start =>
    exact tolerates_quiet honest.guards (tolerates_ensureEnrolled honest.guards) fun _ => leaves_pure
  | renewal =>
    exact tolerates_quiet honest.guards (tolerates_renewCredentialIfDue honest.guards) fun _ =>
      leaves_pure
  | enroll token force =>
    refine tolerates_quiet honest.guards (tolerates_bind ?_ fun _ =>
      tolerates_bind (honest.guards.quiet (leaves_modify fun _ => rfl)) fun _ =>
        tolerates_ensureEnrolled honest.guards) fun _ => leaves_pure
    cases force with
    | true => exact guards_discardLocalIdentity (kept rfl)
    | false => exact guarded_pure

end Operations

/-- **Identity and crashes**: enrollment, renewal and the command line, stopped or failing anywhere,
leave key and certificate absent or complete, and a certificate in place if there was one that they
do not discard, exactly if they are not stopped inside a write of one of the two files. -/
theorem identity_intact_iff (lib : Libraries Key) (env : Surroundings Key)
    (honest : Honest lib env) (operation : Operation) (fates : List (Fate EnrollmentError))
    (home : Home) (intact : home.Intact lib) :
    (((operation.prog lib env fates home).state.Intact lib) ∧
      (operation.discards = false → (home.files .certificate).isSome →
        ((operation.prog lib env fates home).state.files .certificate).isSome)) ↔
      ∀ event ∈ (operation.prog lib env fates home).trace, Harmless lib event := by
  have tolerates : Tolerates (Harmless lib)
      (Sound lib (operation.discards = false ∧ (home.files .certificate).isSome)) (Broken lib)
      (operation.prog lib env) :=
    tolerates_prog honest fun discards kept => by simp [discards] at kept
  rw [← tolerates.kept_iff (fun _ broken sound => broken sound.1) fates
    ⟨intact, fun was => was.2⟩, Sound, and_imp]

/-! ## A torn write -/

namespace TornWrite

def text (word : String) (valid : Theory.Utf8.validUtf8 (ascii word) = true) : Text :=
  ⟨ascii word, valid⟩

/-- A library in which "key" is a key and "old" and "new" are certificates. -/
def lib : Libraries Unit where
  serializePem _ := text "key" (by decide)
  keyFromPem pem := if pem.bytes = ascii "key" then .ok () else .error "not a key"
  signingRequest _ := .ok "csr"
  notAfter pem := if pem.bytes = ascii "old" then .ok 1000
    else if pem.bytes = ascii "new" then .ok 4000000 else .error "not a certificate"
  identityFromPem _ := .ok ()
  rootCertificate _ := .ok ()
  rfc3339 _ := ""
  ledgerJson _ := ascii "ledger"
  decodeEnrollment _ := .error "not an outcome"
  decodeRenewal _ := .ok ⟨"credential-2", text "new" (by decide), none⟩
  statusText _ := ""
  errorText err := err.detail

def env : Surroundings Unit where
  now := 0
  nowText := "now"
  version := "1"
  generated := .ok ()
  replies _ := some ⟨200, ""⟩
  hostname := "host"
  os := "linux"
  arch := "x86_64"
  machineId := none
  cloudInstanceId := none
  k8sNodeUid := none
  ipAddresses := []

/-- An enrolled agent whose certificate is due for renewal. -/
def home : Home where
  files
    | .key => some (ascii "key")
    | .certificate => some (ascii "old")
    | .renewal => none
  runtimeState := .intact ⟨"agent-1", "host", "1", "now", some "credential-1", none⟩
  authTerminal := .missing
  configLines := none
  config :=
    { agent := ⟨some "agent-1", none, some "host"⟩
      controlPlane := ⟨true, some "http://gateway", none, some "credential-1", none, none, none,
        some "certificate"⟩
      stateDir := "state" }
  history := []

/-- The process is stopped when one byte of the new certificate is written. -/
def fates : List (Fate EnrollmentError) := List.replicate 11 .done ++ [.crash]

theorem honest : Honest lib env where
  keys key := by
    cases key
    decide +kernel
  enrolled _ _ _ _ _ decoded := by cases decoded
  renewed _ _ _ _ decoded := by
    cases decoded
    decide +kernel

theorem intact : home.Intact lib := by
  intro file bytes found
  cases file <;> cases found <;> decide +kernel

end TornWrite

open TornWrite in
/-- A renewal that is not disturbed leaves the new certificate. -/
theorem identity_intact_iff_renewal :
    ((Operation.renewal.prog lib env [] home).state.files .certificate = some (ascii "new")) ∧
      (Operation.renewal.prog lib env [] home).state.Intact lib := by
  have calm : (Operation.renewal.prog lib env [] home).trace.all
      (fun event => decide (event.fate = .done)) = true := by decide +kernel
  refine ⟨by decide +kernel, ((identity_intact_iff lib env honest .renewal [] home intact).2
    fun event mem stopped => ?_).1⟩
  exact absurd (of_decide_eq_true (List.all_eq_true.1 calm event mem)) stopped

open TornWrite in
/-- The certificate that was there is gone, and what is there is none. -/
theorem torn_certificate : Honest lib env ∧ home.Intact lib ∧
    (Operation.renewal.prog lib env fates home).state.files .certificate = some (ascii "n") ∧
      ¬ (Operation.renewal.prog lib env fates home).state.Intact lib := by
  have torn : (Operation.renewal.prog lib env fates home).state.files .certificate =
      some (ascii "n") := by decide +kernel
  refine ⟨honest, intact, torn, fun whole => ?_⟩
  exact absurd (whole .certificate _ torn) (by decide +kernel)

end WistAgentd.Enrollment
