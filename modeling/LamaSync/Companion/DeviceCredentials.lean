import LamaSync.Lib.Faults
import LamaSync.Lib.Trace

/-!
# The credentials of a paired device

The vault, the binding, the registration and the cleanup marker are four stores, written one after another by operations that
can fail, be cancelled or end with the process between any two writes.  Whenever a binding or a registration is stored, the
vault is empty or holds what the exchange with that origin issued, and every operation but one sends the credentials to the
origin of a record it has read.  The exceptions are a reconnect without any record, and a cleanup retried for the origin that
was paired again (`credentials_stay`).
-/

namespace LamaSync

open Faults Trace

/-- `number` counts the registrations, so that a later one is told from an earlier one at the same origin. -/
structure PairedRegistration where
  origin : String
  hostId : String
  displayName : String
  enrolledAtEpochMillis : Int
  lastCheckInEpochMillis : Option Int := none
  lastCheckInAppVersion : Option String := none
  number : Nat
deriving DecidableEq

inductive EnrollmentStage where
  | exchanged
  | registered
deriving DecidableEq

structure EnrollmentBinding where
  origin : String
  enrollmentId : String
  hostId : String
  displayName : String
  stage : EnrollmentStage
deriving DecidableEq

/-- What the vault holds, with the origin whose exchange issued it. -/
structure DeviceSecrets where
  nativeToken : String
  webGrant : String
  issuer : String
deriving DecidableEq

structure PairedDevice where
  vault : Option DeviceSecrets := none
  registration : Option PairedRegistration := none
  binding : Option EnrollmentBinding := none
  cleanupPending : List String := []
  registrations : Nat := 0
  sent : List (DeviceSecrets × String) := []

structure EnrollmentQrPayload where
  serverOrigin : String
  enrollmentId : String
  secret : String

/-- What a server answers, as far as it is used. -/
structure ServerReply where
  nativeToken : String := ""
  webGrant : String := ""
  hostId : String := ""
  displayName : String := ""

inductive Thrown where
  | failed
  | cancelled
deriving DecidableEq

/-- A statement is done, is done with a refusal, throws before or after it took effect, or the process dies before it. -/
inductive DeviceFate where
  | done (reply : ServerReply)
  | refused
  | threw (e : Thrown) (after : Bool)
  | died

instance : Inhabited DeviceFate := ⟨.done {}⟩

abbrev DeviceProg (α : Type) := Prog DeviceFate PairedDevice Thrown α

namespace DeviceProg

def act (effect : PairedDevice → PairedDevice) : DeviceProg (Option ServerReply) :=
  Prog.attempt fun fate d => match fate with
    | .done reply => (.ok (some reply), effect d)
    | .refused => (.ok none, effect d)
    | .threw e after => (.error (.threw e), if after then effect d else d)
    | .died => (.error .crashed, d)

def catching {α : Type} (p handler : DeviceProg α) : DeviceProg α :=
  Prog.tryCatch p fun e => if e = .cancelled then Prog.throw e else handler

def succeeded (p : DeviceProg (Option ServerReply)) : DeviceProg Bool :=
  catching (do let _ ← p; pure true) (pure false)

/-- A request that carries the secrets: they have left the device whatever comes back. -/
def send (secrets : DeviceSecrets) (origin : String) : DeviceProg ServerReply := do
  match ← act fun d => { d with sent := (secrets, origin) :: d.sent } with
  | some reply => pure reply
  | none => Prog.throw .failed

def request : DeviceProg ServerReply := do
  match ← act id with
  | some reply => pure reply
  | none => Prog.throw .failed

def readVault : DeviceProg (Option DeviceSecrets) := do
  let readable ← act id
  let d ← Prog.get
  pure (if readable.isSome then d.vault else none)

def saveCredentials (secrets : DeviceSecrets) : DeviceProg (Option ServerReply) := act fun d => { d with vault := some secrets }

def clearVault : DeviceProg (Option ServerReply) := act fun d => { d with vault := none }

def saveBinding (binding : EnrollmentBinding) : DeviceProg (Option ServerReply) := act fun d => { d with binding := some binding }

def saveRegistration (registration : PairedRegistration) : DeviceProg (Option ServerReply) :=
  act fun d => { d with
    registration := some { registration with number := d.registrations + 1 }, registrations := d.registrations + 1 }

def updateCheckIn (registration : PairedRegistration) (epochMillis : Int) (appVersion : String) :
    DeviceProg (Option ServerReply) :=
  act fun d => { d with registration := some { registration with
    lastCheckInEpochMillis := some epochMillis, lastCheckInAppVersion := some appVersion } }

def saveCleanupPending (origins : List String) : DeviceProg (Option ServerReply) :=
  act fun d => { d with cleanupPending := origins }

def clearCleanupPending : DeviceProg (Option ServerReply) := act fun d => { d with cleanupPending := [] }

def clearStore : DeviceProg (Option ServerReply) :=
  act fun d => { d with registration := none, binding := none, cleanupPending := [] }

def clearSessionCookie : DeviceProg Bool := catching (do let reply ← act id; pure reply.isSome) (pure false)

def installSessionCookie : DeviceProg Bool := do let reply ← act id; pure reply.isSome

end DeviceProg

open DeviceProg

def PairedDevice.authOrigins (d : PairedDevice) : List String :=
  ((d.registration.map PairedRegistration.origin).toList ++ (d.binding.map EnrollmentBinding.origin).toList).eraseDups

def clearCookies : List String → DeviceProg (List String)
  | [] => pure []
  | origin :: origins => do
    let cleared ← clearSessionCookie
    let unconfirmed ← clearCookies origins
    pure (if cleared then unconfirmed else origin :: unconfirmed)

inductive EnrollStep where
  | exchange
  | cleanup
  | store
  | identity
  | webSession
deriving DecidableEq

abbrev EnrollOutcome := Except EnrollStep PairedRegistration

def clearLocalAuth : DeviceProg Bool := do
  let d ← Prog.get
  let origins := (d.authOrigins ++ d.cleanupPending).eraseDups
  if origins = [] then pure true
  else
    let unconfirmed ← clearCookies origins
    if unconfirmed ≠ [] then pure false
    else
      let vaultCleared ← succeeded clearVault
      if !vaultCleared then pure false else succeeded clearStore

def finishRegisteredEnrollment (origin : String) : DeviceProg EnrollOutcome := do
  let d ← Prog.get
  match d.registration with
  | none => pure (.error .webSession)
  | some registration =>
    if registration.origin ≠ origin then pure (.error .webSession)
    else match ← readVault with
      | none => pure (.error .webSession)
      | some secrets =>
        catching (do
          let _ ← send secrets origin
          let installed ← installSessionCookie
          pure (if installed then .ok registration else .error .webSession))
          (pure (.error .webSession))

/-- `Char.isWhitespace`: the white space of Java and the space characters of Unicode. -/
def isWhitespace (c : Char) : Bool :=
  0x09 ≤ c.toNat && c.toNat ≤ 0x0D || 0x1C ≤ c.toNat && c.toNat ≤ 0x20 || 0x2000 ≤ c.toNat && c.toNat ≤ 0x200A ||
    c.toNat ∈ [0xA0, 0x1680, 0x2028, 0x2029, 0x202F, 0x205F, 0x3000]

def isBlank (text : String) : Bool := text.toList.all isWhitespace

def resumeEnrollment (now : Int) (origin : String) : DeviceProg EnrollOutcome := do
  let d ← Prog.get
  match d.binding with
  | none => pure (.error .identity)
  | some binding =>
    if binding.origin ≠ origin then pure (.error .identity)
    else if binding.stage = .exchanged then
      match ← readVault with
      | none => pure (.error .identity)
      | some secrets =>
        match ← catching (do let profile ← send secrets origin; pure (some profile)) (pure none) with
        | none => pure (.error .identity)
        | some profile =>
          let _ ← saveRegistration {
            origin, hostId := profile.hostId, number := 0, enrolledAtEpochMillis := now
            displayName := if isBlank profile.displayName then binding.displayName else profile.displayName }
          let _ ← saveBinding { binding with hostId := profile.hostId, stage := .registered }
          finishRegisteredEnrollment origin
    else finishRegisteredEnrollment origin

def completeEnrollment (now : Int) (origin : String) : DeviceProg EnrollOutcome := do
  let d ← Prog.get
  match d.binding with
  | none => pure (.error .identity)
  | some binding => if binding.origin ≠ origin then pure (.error .identity) else resumeEnrollment now origin

def enroll (parseHttpsOrigin : String → Option String) (payload : EnrollmentQrPayload) (displayName : String) (now : Int) :
    DeviceProg EnrollOutcome := do
  match parseHttpsOrigin payload.serverOrigin with
  | none => pure (.error .exchange)
  | some canonicalOrigin =>
    let d ← Prog.get
    if (d.binding.any fun binding => binding.origin = canonicalOrigin ∧ binding.enrollmentId = payload.enrollmentId) ∧
        d.vault.isSome then
      completeEnrollment now canonicalOrigin
    else
      let cleared ← clearLocalAuth
      if !cleared then pure (.error .cleanup)
      else match ← catching (do let exchanged ← request; pure (some exchanged)) (pure none) with
        | none => pure (.error .exchange)
        | some exchanged =>
          let stored ← succeeded (saveCredentials ⟨exchanged.nativeToken, exchanged.webGrant, canonicalOrigin⟩)
          if !stored then pure (.error .store)
          else
            let _ ← saveBinding {
              origin := canonicalOrigin, enrollmentId := payload.enrollmentId, hostId := exchanged.hostId, displayName
              stage := .exchanged }
            resumeEnrollment now canonicalOrigin

def reconnectWebSession (origin : String) : DeviceProg Bool := do
  let d ← Prog.get
  if d.registration.any fun registration => registration.origin ≠ origin then pure false
  else if d.binding.any fun binding => binding.origin ≠ origin then pure false
  else match ← readVault with
    | none => pure false
    | some secrets =>
      catching (do let _ ← send secrets origin; installSessionCookie) (pure false)

def checkIn (appVersion : String) (now : Int) : DeviceProg Bool := do
  let d ← Prog.get
  match d.registration with
  | none => pure false
  | some registration => match ← readVault with
    | none => pure false
    | some secrets =>
      catching (do
        let _ ← send secrets registration.origin
        let _ ← updateCheckIn registration now appVersion
        pure true)
        (pure false)

/-- The revocation at the server, whose failure changes nothing of what follows. -/
def revokeRemotely : DeviceProg Unit := do
  let d ← Prog.get
  match d.registration with
  | none => pure ()
  | some registration => match ← readVault with
    | none => pure ()
    | some secrets =>
      catching (do
        let _ ← send secrets registration.origin
        let _ ← request
        pure ())
        (pure ())

def disconnect : DeviceProg Bool := do
  revokeRemotely
  let d ← Prog.get
  let unconfirmed ← clearCookies d.authOrigins
  let vaultCleared ← succeeded clearVault
  let storeCleared ← succeeded clearStore
  if unconfirmed ≠ [] then
    let _ ← succeeded (saveCleanupPending unconfirmed)
    pure false
  else pure (vaultCleared && storeCleared)

def retryLocalCleanup (origins : List String) : DeviceProg Bool := do
  let unconfirmed ← clearCookies origins
  if unconfirmed ≠ [] then
    let _ ← succeeded (saveCleanupPending unconfirmed)
    pure false
  else
    let d ← Prog.get
    if d.authOrigins.any fun origin => origin ∉ origins then
      let _ ← clearCleanupPending
      pure true
    else
      let vaultCleared ← succeeded clearVault
      let storeCleared ← succeeded clearStore
      if !vaultCleared || !storeCleared then
        let _ ← clearCleanupPending
        pure false
      else pure true

inductive DeviceOperation where
  | enroll (payload : EnrollmentQrPayload) (displayName : String)
  | completeEnrollment (origin : String)
  | reconnectWebSession (origin : String)
  | checkIn (appVersion : String)
  | disconnect
  | retryLocalCleanup (pairing : Nat) (origins : List String)

structure DeviceEvent where
  operation : DeviceOperation
  now : Int := 0
  fates : List DeviceFate := []

namespace PairedDevice

variable (parseHttpsOrigin : String → Option String) (d : PairedDevice)

def step (event : DeviceEvent) : PairedDevice := match event.operation with
  | .enroll payload displayName => (LamaSync.enroll parseHttpsOrigin payload displayName event.now d event.fates).state
  | .completeEnrollment origin => (LamaSync.completeEnrollment event.now origin d event.fates).state
  | .reconnectWebSession origin => (LamaSync.reconnectWebSession origin d event.fates).state
  | .checkIn appVersion => (LamaSync.checkIn appVersion event.now d event.fates).state
  | .disconnect => (LamaSync.disconnect d event.fates).state
  | .retryLocalCleanup _ origins => (LamaSync.retryLocalCleanup origins d event.fates).state

/-- Whatever was sent went to the origin that had issued it. -/
def SentToIssuer : Prop := ∀ entry ∈ d.sent, entry.1.issuer = entry.2

def Stays (event : DeviceEvent) : Prop :=
  (d.step parseHttpsOrigin event).SentToIssuer ∧ match event.operation with
    | .retryLocalCleanup pairing _ => ∀ registration, d.registration = some registration → pairing < registration.number →
      (d.step parseHttpsOrigin event).registration = some registration ∧ (d.step parseHttpsOrigin event).vault = d.vault
    | _ => True

def Guarded (event : DeviceEvent) : Prop := match event.operation with
  | .reconnectWebSession _ => d.registration = none → d.binding = none → d.vault = none
  | .retryLocalCleanup pairing origins => ∀ registration, d.registration = some registration →
    pairing < registration.number → registration.origin ∉ origins
  | _ => True

end PairedDevice

section Statements

variable {α : Type} {post : α → PairedDevice → Prop} {stopped : Stop Thrown → PairedDevice → Prop} {d : PairedDevice}

/-- Every run, whatever the fates. -/
abbrev Runs (p : DeviceProg α) (post : α → PairedDevice → Prop) (stopped : Stop Thrown → PairedDevice → Prop)
    (d : PairedDevice) : Prop :=
  wp (fun _ => True) p post stopped d

variable {effect : PairedDevice → PairedDevice}

theorem runs_act {post : Option ServerReply → PairedDevice → Prop}
    (hdone : ∀ reply, post reply (effect d)) (hbef : ∀ stop, stopped stop d) (haf : ∀ stop, stopped stop (effect d)) :
    Runs (act effect) post stopped d := by
  refine wp_attempt trivial fun fate _ rest hrest => ?_
  cases fate with
  | done reply | refused => exact ⟨hdone _, hrest⟩
  | threw e after =>
    cases after with
    | false => exact ⟨hbef _, hrest⟩
    | true => exact ⟨haf _, hrest⟩
  | died => exact ⟨hbef _, hrest⟩

theorem runs_idle {post : Option ServerReply → PairedDevice → Prop} (hdone : ∀ reply, post reply d)
    (hstop : ∀ stop, stopped stop d) : Runs (act id) post stopped d :=
  runs_act hdone hstop hstop

theorem runs_catching {p handler : DeviceProg α}
    (h : Runs p post (fun stop d' => stopped stop d' ∧ Runs handler post stopped d') d) :
    Runs (catching p handler) post stopped d := by
  refine wp_tryCatch (wp_mono h (fun _ _ h => h) ?_)
  intro stop d' hd'
  cases stop with
  | crashed => exact hd'.1
  | threw e =>
    dsimp only
    split
    · exact wp_throw (‹e = .cancelled› ▸ hd'.1)
    · exact hd'.2

theorem runs_succeeded {post : Bool → PairedDevice → Prop}
    (htrue : post true (effect d)) (hfa : post false d) (haf : post false (effect d)) (hbef : ∀ stop, stopped stop d)
    (hstop : ∀ stop, stopped stop (effect d)) : Runs (succeeded (act effect)) post stopped d :=
  runs_catching (wp_bind (runs_act (fun _ => wp_pure htrue) (fun stop => ⟨hbef stop, wp_pure hfa⟩)
    fun stop => ⟨hstop stop, wp_pure haf⟩))

theorem runs_readVault {post : Option DeviceSecrets → PairedDevice → Prop} (hnone : post none d) (hva : post d.vault d)
    (hstop : ∀ stop, stopped stop d) : Runs readVault post stopped d := by
  refine wp_bind (runs_idle (fun readable => wp_bind (wp_get (wp_pure ?_))) hstop)
  split
  · exact hva
  · exact hnone

theorem runs_request {post : ServerReply → PairedDevice → Prop} (hdone : ∀ reply, post reply d)
    (hstop : ∀ stop, stopped stop d) : Runs request post stopped d := by
  refine wp_bind (runs_idle (fun reply => ?_) hstop)
  cases reply with
  | none => exact wp_throw (hstop _)
  | some reply => exact wp_pure (hdone reply)

theorem runs_clearCookies {post : List String → PairedDevice → Prop} (origins : List String)
    (hdone : ∀ unconfirmed, post unconfirmed d) (hstop : ∀ stop, stopped stop d) :
    Runs (clearCookies origins) post stopped d := by
  induction origins generalizing post with
  | nil => exact wp_pure (hdone [])
  | cons origin origins ih =>
    have hco : Runs clearSessionCookie (fun _ d' => d' = d) (fun stop d' => d' = d) d :=
      runs_catching (wp_bind (runs_idle (fun _ => wp_pure rfl) fun _ => ⟨rfl, wp_pure rfl⟩))
    refine wp_bind (wp_mono hco ?_ fun stop d' h => h ▸ hstop stop)
    rintro cleared d' rfl
    exact wp_bind (ih fun unconfirmed => wp_pure (hdone _))

end Statements

structure SecretsBound (d : PairedDevice) : Prop where
  registration : ∀ secrets registration, d.vault = some secrets → d.registration = some registration →
    registration.origin = secrets.issuer
  binding : ∀ secrets binding, d.vault = some secrets → d.binding = some binding → binding.origin = secrets.issuer
  records : ∀ registration binding, d.registration = some registration → d.binding = some binding →
    registration.origin = binding.origin
  sent : d.SentToIssuer

variable {d : PairedDevice}

abbrev KeepsBound {α : Type} (p : DeviceProg α) (d : PairedDevice) : Prop :=
  Runs p (fun _ => SecretsBound) (fun _ => SecretsBound) d

theorem SecretsBound.clearVault (hd : SecretsBound d) : SecretsBound { d with vault := none } :=
  ⟨fun _ _ h => (by cases h), fun _ _ h => (by cases h), hd.records, hd.sent⟩

theorem SecretsBound.clearStore (hd : SecretsBound d) :
    SecretsBound { d with registration := none, binding := none, cleanupPending := [] } :=
  ⟨fun _ _ _ h => (by cases h), fun _ _ _ h => (by cases h), fun _ _ h => (by cases h), hd.sent⟩

theorem SecretsBound.marker (hd : SecretsBound d) (origins : List String) : SecretsBound { d with cleanupPending := origins } :=
  ⟨hd.registration, hd.binding, hd.records, hd.sent⟩

variable {secrets : DeviceSecrets} {origin : String}

theorem SecretsBound.send (hd : SecretsBound d) (h : secrets.issuer = origin) :
    SecretsBound { d with sent := (secrets, origin) :: d.sent } := by
  refine ⟨hd.registration, hd.binding, hd.records, ?_⟩
  intro entry he
  rcases List.mem_cons.1 he with rfl | he
  · exact h
  · exact hd.sent entry he

theorem keeps_send {post : ServerReply → PairedDevice → Prop}
    {stopped : Stop Thrown → PairedDevice → Prop} (hdone : ∀ reply, post reply { d with sent := (secrets, origin) :: d.sent })
    (hbef : ∀ stop, stopped stop d) (haf : ∀ stop, stopped stop { d with sent := (secrets, origin) :: d.sent }) :
    Runs (DeviceProg.send secrets origin) post stopped d := by
  refine wp_bind (runs_act (fun reply => ?_) hbef haf)
  cases reply with
  | none => exact wp_throw (haf _)
  | some reply => exact wp_pure (hdone reply)

theorem keeps_finish (hd : SecretsBound d) (origin : String) : KeepsBound (finishRegisteredEnrollment origin) d := by
  refine wp_bind (wp_get ?_)
  cases hreg : d.registration with
  | none => exact wp_pure hd
  | some registration =>
    dsimp only
    split
    · exact wp_pure hd
    rename_i horig
    refine wp_bind (runs_readVault (wp_pure hd) ?_ fun _ => hd)
    cases hva : d.vault with
    | none => exact wp_pure hd
    | some secrets =>
      have hsent := hd.send ((hd.registration secrets registration hva hreg).symm.trans (not_not.1 horig))
      refine runs_catching (wp_bind (keeps_send (fun _ => ?_) (fun _ => ⟨hd, wp_pure hd⟩) fun _ => ⟨hsent, wp_pure hsent⟩))
      exact wp_bind (wp_bind (runs_idle (fun _ => wp_pure (wp_pure hsent)) fun _ => ⟨hsent, wp_pure hsent⟩))

theorem keeps_resume (hd : SecretsBound d) (now : Int) (origin : String) : KeepsBound (resumeEnrollment now origin) d := by
  refine wp_bind (wp_get ?_)
  cases hbind : d.binding with
  | none => exact wp_pure hd
  | some binding =>
    dsimp only
    split
    · exact wp_pure hd
    rename_i horig
    replace horig := not_not.1 horig
    split
    · refine wp_bind (runs_readVault (wp_pure hd) ?_ fun _ => hd)
      cases hva : d.vault with
      | none => exact wp_pure hd
      | some secrets =>
        have his := (hd.binding secrets binding hva hbind).symm.trans horig
        have hsent := hd.send his
        refine wp_bind (runs_catching (wp_bind (keeps_send (fun profile => wp_pure ?_) (fun _ => ⟨hd, wp_pure (wp_pure hd)⟩)
          fun _ => ⟨hsent, wp_pure (wp_pure hsent)⟩)))
        -- the registration and the binding of the same origin are saved one after the other
        have hre : ∀ registration : PairedRegistration, registration.origin = origin → SecretsBound { d with
            sent := (secrets, origin) :: d.sent, registration := some registration, registrations := d.registrations + 1 } := by
          intro registration hreg
          refine ⟨?_, hsent.binding, ?_, hsent.sent⟩
          · intro secrets' registration' hva' h
            cases h
            rw [hreg, ← his, Option.mem_unique hva hva']
          intro registration' binding' h h'
          cases h
          rw [hreg, ← horig, Option.mem_unique hbind h']
        refine wp_bind (runs_act (fun _ => ?_) (fun _ => hsent) fun _ => hre _ rfl)
        have hbd : ∀ registration : PairedRegistration, registration.origin = origin → ∀ binding' : EnrollmentBinding,
            binding'.origin = origin → SecretsBound { d with sent := (secrets, origin) :: d.sent
                                                             registration := some registration
                                                             registrations := d.registrations + 1
                                                             binding := some binding' } := by
          intro registration hreg binding' hbind'
          have hbef := hre registration hreg
          refine ⟨hbef.registration, ?_, ?_, hbef.sent⟩
          · intro secrets' binding'' hva' h
            cases h
            rw [hbind', ← his, Option.mem_unique hva hva']
          intro registration' binding'' h h'
          cases h
          cases h'
          exact hreg.trans hbind'.symm
        refine wp_bind (runs_act (fun _ => keeps_finish ?_ origin) (fun _ => hre _ rfl) fun _ => ?_)
        · exact hbd _ rfl _ horig
        · exact hbd _ rfl _ horig
    · exact keeps_finish hd origin

theorem keeps_complete (hd : SecretsBound d) (now : Int) (origin : String) : KeepsBound (completeEnrollment now origin) d := by
  refine wp_bind (wp_get ?_)
  cases d.binding with
  | none => exact wp_pure hd
  | some binding =>
    dsimp only
    split
    · exact wp_pure hd
    · exact keeps_resume hd now origin

/-- A replacement that goes on leaves no record behind. -/
theorem keeps_clearLocalAuth (hd : SecretsBound d) :
    Runs clearLocalAuth (fun cleared d' => SecretsBound d' ∧ (cleared = true → d'.registration = none ∧ d'.binding = none))
      (fun _ => SecretsBound) d := by
  refine wp_bind (wp_get ?_)
  dsimp only
  split
  · -- without an origin there is no record
    rename_i hem
    refine wp_pure ⟨hd, fun _ => ?_⟩
    have hnone : ∀ origin, origin ∉ d.authOrigins := by
      intro origin horig
      have hmem : origin ∈ (d.authOrigins ++ d.cleanupPending).eraseDups :=
        List.mem_eraseDups.2 (List.mem_append_left _ horig)
      rw [hem] at hmem
      exact absurd hmem List.not_mem_nil
    constructor
    · cases hreg : d.registration with
      | none => rfl
      | some registration =>
        exact absurd (List.mem_eraseDups.2 (by simp [hreg])) (hnone registration.origin)
    cases hbind : d.binding with
    | none => rfl
    | some binding => exact absurd (List.mem_eraseDups.2 (by simp [hbind])) (hnone binding.origin)
  · refine wp_bind (runs_clearCookies _ (fun unconfirmed => ?_) fun _ => hd)
    split
    · exact wp_pure ⟨hd, by simp⟩
    have hrest : ∀ d', SecretsBound d' → Runs (do
        if !false then pure false else succeeded clearStore) (fun cleared d'' => SecretsBound d'' ∧
          (cleared = true → d''.registration = none ∧ d''.binding = none)) (fun _ => SecretsBound) d' :=
      fun d' hd' => wp_pure ⟨hd', by simp⟩
    refine wp_bind (runs_succeeded ?_ (hrest d hd) (hrest _ hd.clearVault) (fun _ => hd) fun _ => hd.clearVault)
    exact runs_succeeded ⟨hd.clearVault.clearStore, fun _ => ⟨rfl, rfl⟩⟩ ⟨hd.clearVault, by simp⟩
      ⟨hd.clearVault.clearStore, by simp⟩ (fun _ => hd.clearVault) fun _ => hd.clearVault.clearStore

theorem keeps_enroll (hd : SecretsBound d) (parseHttpsOrigin : String → Option String) (payload : EnrollmentQrPayload)
    (displayName : String) (now : Int) : KeepsBound (enroll parseHttpsOrigin payload displayName now) d := by
  unfold enroll
  cases parseHttpsOrigin payload.serverOrigin with
  | none => exact wp_pure hd
  | some canonicalOrigin =>
    refine wp_bind (wp_get ?_)
    split
    · exact keeps_complete hd now canonicalOrigin
    refine wp_bind (wp_mono (keeps_clearLocalAuth hd) ?_ fun _ _ h => h)
    rintro cleared d' ⟨hd', hre⟩
    cases cleared with
    | false => exact wp_pure hd'
    | true =>
      obtain ⟨hreg, hbind⟩ := hre rfl
      refine wp_bind (runs_catching (wp_bind (runs_request (fun exchanged => wp_pure ?_)
        fun _ => ⟨hd', wp_pure (wp_pure hd')⟩)))
      -- the secrets are in the vault while no record is stored, and the binding of their issuer follows
      have hva : ∀ secrets, SecretsBound { d' with vault := some secrets } := fun secrets =>
        ⟨fun _ _ _ h => (by rw [hreg] at h; cases h), fun _ _ _ h => (by rw [hbind] at h; cases h),
          hd'.records, hd'.sent⟩
      have hbd : ∀ secrets : DeviceSecrets, secrets.issuer = canonicalOrigin → ∀ binding : EnrollmentBinding,
          binding.origin = canonicalOrigin → SecretsBound { d' with vault := some secrets, binding := some binding } := by
        intro secrets hse binding horig
        refine ⟨(hva secrets).registration, ?_, fun _ _ h => (by rw [hreg] at h; cases h), hd'.sent⟩
        intro secrets' binding' h h'
        cases h
        cases h'
        rw [horig, hse]
      refine wp_bind (runs_succeeded ?_ (wp_pure hd') (wp_pure (hva _)) (fun _ => hd') fun _ => hva _)
      refine wp_bind (runs_act (fun _ => keeps_resume ?_ now canonicalOrigin) (fun _ => hva _) fun _ => ?_)
      · exact hbd _ rfl _ rfl
      · exact hbd _ rfl _ rfl

theorem keeps_reconnect (hd : SecretsBound d) (origin : String)
    (hg : d.registration = none → d.binding = none → d.vault = none) : KeepsBound (reconnectWebSession origin) d := by
  refine wp_bind (wp_get ?_)
  split
  · exact wp_pure hd
  rename_i hreg
  split
  · exact wp_pure hd
  rename_i hbind
  refine wp_bind (runs_readVault (wp_pure hd) ?_ fun _ => hd)
  cases hva : d.vault with
  | none => exact wp_pure hd
  | some secrets =>
    have his : secrets.issuer = origin := by
      cases hr : d.registration with
      | some registration =>
        rw [hr, Option.any_some, decide_eq_true_eq, not_not] at hreg
        exact (hd.registration secrets registration hva hr).symm.trans hreg
      | none => cases hb : d.binding with
        | some binding =>
          rw [hb, Option.any_some, decide_eq_true_eq, not_not] at hbind
          exact (hd.binding secrets binding hva hb).symm.trans hbind
        | none => exact absurd (hva.symm.trans (hg hr hb)) (by simp)
    have hsent := hd.send his
    exact runs_catching (wp_bind (keeps_send
      (fun _ => wp_bind (runs_idle (fun _ => wp_pure hsent) fun _ => ⟨hsent, wp_pure hsent⟩)) (fun _ => ⟨hd, wp_pure hd⟩)
      fun _ => ⟨hsent, wp_pure hsent⟩))

theorem keeps_checkIn (hd : SecretsBound d) (appVersion : String) (now : Int) : KeepsBound (checkIn appVersion now) d := by
  refine wp_bind (wp_get ?_)
  cases hreg : d.registration with
  | none => exact wp_pure hd
  | some registration =>
    refine wp_bind (runs_readVault (wp_pure hd) ?_ fun _ => hd)
    cases hva : d.vault with
    | none => exact wp_pure hd
    | some secrets =>
      have horig := hd.registration secrets registration hva hreg
      have hsent := hd.send horig.symm
      have hchk : ∀ registration' : PairedRegistration, registration'.origin = registration.origin → SecretsBound { d with
          sent := (secrets, registration.origin) :: d.sent, registration := some registration' } := by
        intro registration' hsame
        refine ⟨?_, hd.binding, ?_, hsent.sent⟩
        · intro secrets' registration'' hva' h
          cases h
          rw [hsame]
          exact hd.registration secrets' registration hva' hreg
        intro registration'' binding h hbind
        cases h
        rw [hsame]
        exact hd.records registration binding hreg hbind
      refine runs_catching (wp_bind (keeps_send (fun _ => ?_) (fun _ => ⟨hd, wp_pure hd⟩) fun _ => ⟨hsent, wp_pure hsent⟩))
      exact wp_bind (runs_act (fun _ => wp_pure (hchk _ (by rfl))) (fun _ => ⟨hsent, wp_pure hsent⟩)
        fun _ => ⟨hchk _ (by rfl), wp_pure (hchk _ (by rfl))⟩)

theorem keeps_revoke (hd : SecretsBound d) : KeepsBound revokeRemotely d := by
  refine wp_bind (wp_get ?_)
  cases hreg : d.registration with
  | none => exact wp_pure hd
  | some registration =>
    refine wp_bind (runs_readVault (wp_pure hd) ?_ fun _ => hd)
    cases hva : d.vault with
    | none => exact wp_pure hd
    | some secrets =>
      have hsent := hd.send (hd.registration secrets registration hva hreg).symm
      refine runs_catching (wp_bind (keeps_send (fun _ => ?_) (fun _ => ⟨hd, wp_pure hd⟩) fun _ => ⟨hsent, wp_pure hsent⟩))
      exact wp_bind (runs_request (fun _ => wp_pure hsent) fun _ => ⟨hsent, wp_pure hsent⟩)

theorem keeps_wipe {effect : PairedDevice → PairedDevice} (hd : SecretsBound d) (hef : SecretsBound (effect d)) :
    KeepsBound (succeeded (act effect)) d :=
  runs_succeeded hef hd hef (fun _ => hd) fun _ => hef

theorem keeps_disconnect (hd : SecretsBound d) : KeepsBound disconnect d := by
  refine wp_bind (wp_mono (keeps_revoke hd) ?_ fun _ _ h => h)
  intro _ d₁ hd₁
  refine wp_bind (wp_get (wp_bind (runs_clearCookies _ (fun unconfirmed => ?_) fun _ => hd₁)))
  refine wp_bind (wp_mono (keeps_wipe hd₁ hd₁.clearVault) ?_ fun _ _ h => h)
  intro vaultCleared d₂ hd₂
  refine wp_bind (wp_mono (keeps_wipe hd₂ hd₂.clearStore) ?_ fun _ _ h => h)
  intro storeCleared d₃ hd₃
  split
  · exact wp_bind (wp_mono (keeps_wipe hd₃ (hd₃.marker unconfirmed)) (fun _ _ h => wp_pure h) fun _ _ h => h)
  · exact wp_pure hd₃

theorem keeps_retry (hd : SecretsBound d) (origins : List String) : KeepsBound (retryLocalCleanup origins) d := by
  refine wp_bind (runs_clearCookies _ (fun unconfirmed => ?_) fun _ => hd)
  split
  · exact wp_bind (wp_mono (keeps_wipe hd (hd.marker unconfirmed)) (fun _ _ h => wp_pure h) fun _ _ h => h)
  refine wp_bind (wp_get ?_)
  split
  · exact wp_bind (runs_act (fun _ => wp_pure (hd.marker [])) (fun _ => hd) fun _ => hd.marker [])
  refine wp_bind (wp_mono (keeps_wipe hd hd.clearVault) ?_ fun _ _ h => h)
  intro vaultCleared d₂ hd₂
  refine wp_bind (wp_mono (keeps_wipe hd₂ hd₂.clearStore) ?_ fun _ _ h => h)
  intro storeCleared d₃ hd₃
  split
  · exact wp_bind (runs_act (fun _ => wp_pure (hd₃.marker [])) (fun _ => hd₃) fun _ => hd₃.marker [])
  · exact wp_pure hd₃

theorem retry_preserves {origins : List String} {registration : PairedRegistration} (h : d.registration = some registration)
    (horig : registration.origin ∉ origins) :
    Runs (retryLocalCleanup origins) (fun _ d' => d'.registration = some registration ∧ d'.vault = d.vault)
      (fun _ d' => d'.registration = some registration ∧ d'.vault = d.vault) d := by
  refine wp_bind (runs_clearCookies _ (fun unconfirmed => ?_) fun _ => ⟨h, rfl⟩)
  split
  · exact wp_bind (runs_succeeded (wp_pure ⟨h, rfl⟩) (wp_pure ⟨h, rfl⟩) (wp_pure ⟨h, rfl⟩) (fun _ => ⟨h, rfl⟩)
      fun _ => ⟨h, rfl⟩)
  refine wp_bind (wp_get ?_)
  have hany : (d.authOrigins.any fun origin => decide (origin ∉ origins)) = true :=
    List.any_eq_true.2 ⟨registration.origin, List.mem_eraseDups.2 (by simp [h]), decide_eq_true horig⟩
  rw [if_pos hany]
  exact wp_bind (runs_act (fun _ => wp_pure ⟨h, rfl⟩) (fun _ => ⟨h, rfl⟩) fun _ => ⟨h, rfl⟩)

variable {parseHttpsOrigin : String → Option String}

theorem keeps_step (hd : SecretsBound d) (event : DeviceEvent) (hg : d.Guarded event) :
    SecretsBound (d.step parseHttpsOrigin event) := by
  have hft : ∀ fate ∈ event.fates, True := fun _ _ => trivial
  unfold PairedDevice.step
  unfold PairedDevice.Guarded at hg
  cases hop : event.operation with
  | enroll payload displayName => exact (keeps_enroll hd parseHttpsOrigin payload displayName event.now).state hft
  | completeEnrollment origin => exact (keeps_complete hd event.now origin).state hft
  | reconnectWebSession origin =>
    rw [hop] at hg
    exact (keeps_reconnect hd origin hg).state hft
  | checkIn appVersion => exact (keeps_checkIn hd appVersion event.now).state hft
  | disconnect => exact (keeps_disconnect hd).state hft
  | retryLocalCleanup pairing origins => exact (keeps_retry hd origins).state hft

theorem stays_step (hd : SecretsBound d) (event : DeviceEvent) (hg : d.Guarded event) :
    d.Stays parseHttpsOrigin event := by
  refine ⟨(keeps_step hd event hg).sent, ?_⟩
  unfold PairedDevice.Guarded at hg
  unfold PairedDevice.step
  cases hop : event.operation with
  | retryLocalCleanup pairing origins =>
    rw [hop] at hg
    intro registration hreg hla
    exact (retry_preserves hreg (hg registration hreg hla)).state fun _ _ => trivial
  | _ => trivial

/-- In every run whose steps are guarded, the secrets go to their issuer only and later pairings outlive earlier cleanups. -/
theorem credentials_stay (events : List DeviceEvent)
    (h : Always (PairedDevice.step parseHttpsOrigin) PairedDevice.Guarded {} events) :
    Always (PairedDevice.step parseHttpsOrigin) (PairedDevice.Stays parseHttpsOrigin) {} events := by
  have hem : SecretsBound {} :=
    ⟨fun _ _ h => (by cases h), fun _ _ h => (by cases h), fun _ _ h => (by cases h), fun _ h => absurd h List.not_mem_nil⟩
  exact h.of_invariant hem (fun d event hd hg => keeps_step hd event hg)
    fun d event hd hg => stays_step hd event hg

def enrollAt (origin enrollmentId : String) (later : List DeviceFate) : DeviceEvent where
  operation := .enroll { serverOrigin := origin, enrollmentId, secret := "s" } "Phone"
  fates := .done { nativeToken := "token", webGrant := "grant", hostId := "host" } :: later

/-- The revocation succeeds, and the platform does not confirm that the cookie is gone. -/
def disconnectUnconfirmed : DeviceEvent := { operation := .disconnect, fates := [.done {}, .done {}, .done {}, .refused] }

def pairedElsewhere : List DeviceEvent :=
  [enrollAt "https://fleet.example.com" "e1" [], { operation := .checkIn "1.0" }, disconnectUnconfirmed,
    -- the cookie, the vault and the store of the earlier origin come before the exchange
    { enrollAt "https://home.example.com" "e2" [] with
      fates := [.done {}, .done {}, .done {}, .done { nativeToken := "token", webGrant := "grant", hostId := "host" }] }]

theorem credentials_stay_paired :
    (run (PairedDevice.step some) {} pairedElsewhere).registration.map (fun r => (r.origin, r.number)) =
        some ("https://home.example.com", 2) ∧
      Always (PairedDevice.step some) (PairedDevice.Stays some) {}
        (pairedElsewhere ++ [{ operation := .retryLocalCleanup 1 ["https://fleet.example.com"] }]) := by
  have hpa : (run (PairedDevice.step some) {} pairedElsewhere).registration.map (fun r => (r.origin, r.number)) =
      some ("https://home.example.com", 2) := by
    decide +kernel
  refine ⟨hpa, credentials_stay _ (always_append.2 ⟨⟨trivial, trivial, trivial, trivial, trivial⟩, ?_, trivial⟩)⟩
  intro registration hreg _
  rw [hreg] at hpa
  have horig : registration.origin = "https://home.example.com" := congrArg Prod.fst (Option.some.inj hpa)
  rw [horig]
  decide

/-- The process dies between the vault and the binding, and a reconnect with another origin sends it the grant.  A device
paired again with the server it left loses its pairing to the cleanup of the first one. -/
theorem credentials_leave :
    ¬ Always (PairedDevice.step some) (PairedDevice.Stays some) {}
        ([enrollAt "https://fleet.example.com" "e1" [.done {}, .died]] ++
          [{ operation := .reconnectWebSession "https://other.example.com" }]) ∧
      ¬ Always (PairedDevice.step some) (PairedDevice.Stays some) {}
        ([enrollAt "https://fleet.example.com" "e1" [], disconnectUnconfirmed,
            { enrollAt "https://fleet.example.com" "e2" [] with
              fates := [.done {}, .done {}, .done {}, .done { nativeToken := "token", webGrant := "grant", hostId := "host" }] }] ++
          [{ operation := .retryLocalCleanup 1 ["https://fleet.example.com"] }]) := by
  constructor
  · intro h
    have hsent := h.at.1
    revert hsent
    unfold PairedDevice.SentToIssuer
    decide +kernel
  intro h
  have her := h.at.2
  generalize hd : run (PairedDevice.step some) {} _ = d at her
  have hpa : d.registration.any (fun r => 1 < r.number) = true ∧
      (d.step some { operation := .retryLocalCleanup 1 ["https://fleet.example.com"] }).registration = none := by
    rw [← hd]
    decide +kernel
  obtain ⟨registration, hreg, hla⟩ := (Option.any_eq_true _ _).1 hpa.1
  have hthis := (her registration hreg (of_decide_eq_true hla)).1
  rw [hpa.2] at hthis
  cases hthis

end LamaSync
