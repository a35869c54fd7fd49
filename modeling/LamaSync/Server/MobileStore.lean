import LamaSync.Core.SeedArchive
import LamaSync.Lib.Rows
import LamaSync.Server.Auth

/-!
# The mobile store

An administrator shows a QR code, the enrollment; the phone exchanges its secret for a native token and a web grant,
and the grant opens web sessions.  A reconnect enrollment rotates the credentials of a registration that exists.  All
four secrets are kept as digests only.

The functions are synchronous and write in one transaction, so each is one step.  What they draw at random (ids
and secrets) and the clock are arguments.  A statement that violates a unique column throws and the transaction rolls
back; foreign keys are not enforced.
-/

namespace LamaSync

/-- The time of `Date.now()`, which is positive. -/
abbrev EpochMs := { t : Int // 0 < t }

/-- The two digest functions, and the configured origin. -/
structure MobileEnv where
  hashSecret : String → Sha256Hex
  deriveCsrfToken : String → String
  canonicalOrigin : Option String

def enrollmentTtlMs : Int := 10 * 60 * 1000

def sessionTtlMs : Int := 12 * 60 * 60 * 1000

def reconnectRotatedReason : String := "credentials rotated by reconnect"

inductive MobileEnrollmentKind where
  | new | reconnect
  deriving DecidableEq, Repr

inductive EnrollmentStatus where
  | pending | used | expired | revoked
  deriving DecidableEq, Repr

structure MobileEnrollmentRow where
  id : String
  secretHash : String
  hostId : String
  kind : MobileEnrollmentKind
  clientType : String
  webAdmin : Int
  status : EnrollmentStatus
  expiresAt : Int
  createdAt : Int
  consumedAt : Option Int
  revokedAt : Option Int
  deriving DecidableEq

structure MobileHostRow where
  id : String
  hostname : String
  lastSeen : Int
  status : String
  hostClass : String

structure MobileRegistration extends MobileRegistrationRow where
  appVersion : String
  createdAt : Int
  lastSeenAt : Option Int
  revokedReason : Option String

structure WebGrant extends WebGrantRow where
  grantHash : String
  registrationId : String
  admin : Int
  createdAt : Int
  revokedReason : Option String

structure WebSession extends WebSessionRow where
  issuedAt : Int

structure MobileDb where
  hosts : List MobileHostRow
  enrollments : List MobileEnrollmentRow
  registrations : List MobileRegistration
  grants : List WebGrant
  sessions : List WebSession

/-- Why a transaction rolls back. -/
inductive StoreError where
  | claimLost
  | targetLost
  | constraint
  deriving DecidableEq

section Statements

variable (db : MobileDb)

def findEnrollment (id : String) : Option MobileEnrollmentRow := db.enrollments.find? fun row => row.id == id

def findRegistrationByHostId (hostId : String) : Option MobileRegistration :=
  db.registrations.find? fun row => row.hostId == hostId

def insertEnrollmentRow (row : MobileEnrollmentRow) : Except StoreError MobileDb :=
  if db.enrollments.any fun r => r.id == row.id || r.secretHash == row.secretHash then .error .constraint
  else .ok { db with enrollments := db.enrollments ++ [row] }

def insertHost (row : MobileHostRow) : Except StoreError MobileDb :=
  if db.hosts.any fun r => r.id == row.id then .error .constraint
  else .ok { db with hosts := db.hosts ++ [row] }

def insertRegistration (row : MobileRegistration) : Except StoreError MobileDb :=
  if db.registrations.any fun r => r.hostId == row.hostId || r.nativeTokenHash == row.nativeTokenHash then
    .error .constraint
  else .ok { db with registrations := db.registrations ++ [row] }

def insertGrant (row : WebGrant) : Except StoreError MobileDb :=
  if db.grants.any fun r => r.id == row.id || r.grantHash == row.grantHash ||
      (r.registrationId == row.registrationId && r.revokedAt.isNone && row.revokedAt.isNone) then .error .constraint
  else .ok { db with grants := db.grants ++ [row] }

def insertSession (row : WebSession) : Except StoreError MobileDb :=
  if db.sessions.any fun r => r.id == row.id || r.sessionHash == row.sessionHash then .error .constraint
  else .ok { db with sessions := db.sessions ++ [row] }

def revokeEnrollments (guard : MobileEnrollmentRow → Bool) (now : Int) : MobileDb :=
  { db with enrollments := Rows.update db.enrollments guard fun row =>
      { row with status := .revoked, revokedAt := some now } }

def revokeOtherPendingNewEnrollments (keepId : String) (now : Int) : MobileDb :=
  revokeEnrollments db (fun row => row.id != keepId && row.status == .pending && row.kind == .new) now

def revokeOtherPendingReconnectsForHost (hostId keepId : String) (now : Int) : MobileDb :=
  revokeEnrollments db (fun row => row.id != keepId && row.hostId == hostId && row.status == .pending &&
    row.kind == .reconnect) now

def isClaimable (id : String) (now : Int) (row : MobileEnrollmentRow) : Bool :=
  row.id == id && row.status == .pending && decide (now < row.expiresAt)

def claimPendingEnrollment (id : String) (now : Int) : Except StoreError MobileDb :=
  if db.enrollments.countP (isClaimable id now) ≠ 1 then .error .claimLost
  else .ok { db with enrollments := Rows.update db.enrollments (isClaimable id now) fun row =>
      { row with status := .used, consumedAt := some now } }

def isRotatable (hostId : String) (row : MobileRegistration) : Bool :=
  row.hostId == hostId && (row.revokedAt == none || row.revokedAt == some 0)

def rotateRegistration (hostId nativeTokenHash displayName appVersion : String) (now : Int) :
    Except StoreError MobileDb :=
  if db.registrations.countP (isRotatable hostId) ≠ 1 then .error .targetLost
  else if db.registrations.any fun r => r.hostId != hostId && r.nativeTokenHash == nativeTokenHash then
    .error .constraint
  else .ok { db with registrations := Rows.update db.registrations (isRotatable hostId) fun row =>
      { row with
        nativeTokenHash := nativeTokenHash, displayName := displayName, appVersion := appVersion
        lastSeenAt := some now } }

def isOpenSession (hostId : String) (row : WebSession) : Bool := row.registrationId == hostId && row.revokedAt.isNone

def revokeOpenSessions (hostId : String) (now : Int) : MobileDb :=
  { db with sessions := Rows.update db.sessions (isOpenSession hostId) fun row => { row with revokedAt := some now } }

def revokeGrants (guard : WebGrant → Bool) (reason : Option String) (now : Int) : MobileDb :=
  { db with grants := Rows.update db.grants guard fun row =>
      { row with revokedAt := some now, revokedReason := reason } }

def touchHost (hostId : String) (now : Int) : MobileDb :=
  { db with hosts := Rows.update db.hosts (fun row => row.id == hostId) fun row =>
      { row with lastSeen := now, status := "online" } }

def renameHost (hostId old new : String) : MobileDb :=
  { db with hosts := Rows.update db.hosts (fun row => row.id == hostId && row.hostname == old) fun row =>
      { row with hostname := new } }

end Statements

structure CreatedEnrollment where
  enrollmentId : String
  secret : String
  serverOrigin : String
  clientType : String
  webAdmin : Bool
  expiresAt : Int
  expiresInSeconds : Int
  deriving DecidableEq

def createdEnrollment (enrollmentId secret serverOrigin clientType : String) (webAdmin : Bool) (now : Int) :
    CreatedEnrollment where
  enrollmentId := enrollmentId
  secret := secret
  serverOrigin := serverOrigin
  clientType := clientType
  webAdmin := webAdmin
  expiresAt := now + enrollmentTtlMs
  expiresInSeconds := enrollmentTtlMs / 1000

inductive ReconnectCreateOutcome where
  | ok (created : CreatedEnrollment)
  | notFound
  | revoked
  | authorityUnresolved (liveGrants : Nat)
  deriving DecidableEq

def enrollmentStatusOf (row : MobileEnrollmentRow) (now : Int) : EnrollmentStatus :=
  if row.status = .pending ∧ row.expiresAt ≤ now then .expired else row.status

def resolveReconnectAuthority (db : MobileDb) (hostId : String) : Except Nat Bool :=
  let live := db.grants.filter fun row =>
    row.registrationId == hostId && (row.revokedAt == none || row.revokedAt == some 0)
  match live with
  | [only] => .ok (only.admin == 1)
  | _ => .error live.length

structure MobileEnrollmentExchangeResponse where
  hostId : String
  nativeToken : String
  webGrant : String
  serverOrigin : String
  displayName : String
  clientType : String
  deriving DecidableEq

inductive ExchangeOutcome where
  | ok (response : MobileEnrollmentExchangeResponse) (hostId : String) (rotated : Bool) (revokedSessionIds : List String)
  | notFound
  | used
  | expired
  | revoked
  | invalidSecret
  | targetUnavailable
  deriving DecidableEq

structure ExchangeDraws where
  nativeToken : String
  webGrant : String
  grantId : String
  deriving DecidableEq

structure ExchangeRequest where
  enrollmentId : String
  secret : String
  displayName : String
  appVersion : String
  deriving DecidableEq

/-- A transaction that rolled back reports why; what is not a known reason is thrown. -/
def runExchange (db : MobileDb) (exchange : Except StoreError (MobileDb × ExchangeOutcome)) (enrollmentId : String)
    (now : Int) : MobileDb × Option ExchangeOutcome :=
  match exchange with
  | .ok (db', outcome) => (db', some outcome)
  | .error .targetLost => (db, some .targetUnavailable)
  | .error .claimLost =>
    match (findEnrollment db enrollmentId).map fun row => enrollmentStatusOf row now with
    | some .used => (db, some .used)
    | some .expired => (db, some .expired)
    | some .revoked => (db, some .revoked)
    | _ => (db, some .notFound)
  | .error .constraint => (db, none)

section Store

variable (env : MobileEnv)

/-- The token's digest as the columns hold it. -/
def MobileEnv.hash (secret : String) : String := (env.hashSecret secret).val

/-- The tables as the authentication hook reads them; the rest of its environment plays no part here. -/
def MobileDb.authEnv (db : MobileDb) : AuthEnv where
  masterKey := ""
  hashSecret := env.hash
  deriveCsrfToken := env.deriveCsrfToken
  canonicalOrigin := env.canonicalOrigin
  apiKeys := []
  registrations := db.registrations.map MobileRegistration.toMobileRegistrationRow
  grants := db.grants.map WebGrant.toWebGrantRow
  sessions := db.sessions.map WebSession.toWebSessionRow

def pendingEnrollment (id secret hostId clientType : String) (kind : MobileEnrollmentKind) (webAdmin : Bool) (now : Int) :
    MobileEnrollmentRow where
  id := id
  secretHash := env.hash secret
  hostId := hostId
  kind := kind
  clientType := clientType
  webAdmin := if webAdmin then 1 else 0
  status := .pending
  expiresAt := now + enrollmentTtlMs
  createdAt := now
  consumedAt := none
  revokedAt := none

def createMobileEnrollment (db : MobileDb) (enrollmentId hostId secret clientType : String) (webAdmin : Bool) (now : Int) :
    MobileDb × Option CreatedEnrollment :=
  match env.canonicalOrigin with
  | none => (db, none)
  | some origin =>
    match insertEnrollmentRow db (pendingEnrollment env enrollmentId secret hostId clientType .new webAdmin now) with
    | .error _ => (db, none)
    | .ok inserted =>
      (revokeOtherPendingNewEnrollments inserted enrollmentId now,
        some (createdEnrollment enrollmentId secret origin clientType webAdmin now))

def createReconnectEnrollment (db : MobileDb) (enrollmentId secret hostId : String) (now : Int) :
    MobileDb × Option ReconnectCreateOutcome :=
  match env.canonicalOrigin with
  | none => (db, none)
  | some origin =>
    match findRegistrationByHostId db hostId with
    | none => (db, some .notFound)
    | some registration =>
      if isRowRevoked registration.revokedAt then (db, some .revoked)
      else
        match resolveReconnectAuthority db hostId with
        | .error liveGrants => (db, some (.authorityUnresolved liveGrants))
        | .ok webAdmin =>
          match insertEnrollmentRow db
              (pendingEnrollment env enrollmentId secret hostId registration.clientType .reconnect webAdmin now) with
          | .error _ => (db, none)
          | .ok inserted =>
            (revokeOtherPendingReconnectsForHost inserted hostId enrollmentId now,
              some (.ok (createdEnrollment enrollmentId secret origin registration.clientType webAdmin now)))

def freshGrant (draws : ExchangeDraws) (hostId : String) (webAdmin now : Int) : WebGrant where
  id := draws.grantId
  revokedAt := none
  grantHash := env.hash draws.webGrant
  registrationId := hostId
  admin := if webAdmin = 1 then 1 else 0
  createdAt := now
  revokedReason := none

def newRegistration (draws : ExchangeDraws) (hostId displayName appVersion : String) (now : Int) : MobileRegistration where
  hostId := hostId
  clientType := "android"
  displayName := displayName
  nativeTokenHash := env.hash draws.nativeToken
  revokedAt := none
  appVersion := appVersion
  createdAt := now
  lastSeenAt := none
  revokedReason := none

def newEnrollmentTransaction (db : MobileDb) (row : MobileEnrollmentRow) (origin : String) (now : Int)
    (request : ExchangeRequest) (draws : ExchangeDraws) : Except StoreError (MobileDb × ExchangeOutcome) := do
  let claimed ← claimPendingEnrollment db request.enrollmentId now
  let hosted ← insertHost claimed ⟨row.hostId, request.displayName, now, "online", "phone"⟩
  let registered ←
    insertRegistration hosted (newRegistration env draws row.hostId request.displayName request.appVersion now)
  let granted ← insertGrant registered (freshGrant env draws row.hostId row.webAdmin now)
  let response : MobileEnrollmentExchangeResponse :=
    ⟨row.hostId, draws.nativeToken, draws.webGrant, origin, request.displayName, "android"⟩
  return (granted, .ok response row.hostId false [])

def exchangeNewEnrollment (db : MobileDb) (row : MobileEnrollmentRow) (now : Int) (request : ExchangeRequest)
    (draws : ExchangeDraws) : MobileDb × Option ExchangeOutcome :=
  match env.canonicalOrigin with
  | none => (db, none)
  | some origin =>
    runExchange db (newEnrollmentTransaction env db row origin now request draws) request.enrollmentId now

def reconnectTransaction (db : MobileDb) (row : MobileEnrollmentRow) (registration : MobileRegistration) (origin : String)
    (now : Int) (request : ExchangeRequest) (draws : ExchangeDraws) :
    Except StoreError (MobileDb × ExchangeOutcome) := do
  let claimed ← claimPendingEnrollment db request.enrollmentId now
  let rotated ←
    rotateRegistration claimed row.hostId (env.hash draws.nativeToken) request.displayName request.appVersion now
  let revokedSessionIds := (rotated.sessions.filter (isOpenSession row.hostId)).map fun session => session.id
  let ungranted := revokeGrants rotated (fun grant => grant.registrationId == row.hostId && grant.revokedAt.isNone)
    (some reconnectRotatedReason) now
  let granted ← insertGrant (revokeOpenSessions ungranted row.hostId now)
    (freshGrant env draws row.hostId row.webAdmin now)
  let response : MobileEnrollmentExchangeResponse :=
    ⟨row.hostId, draws.nativeToken, draws.webGrant, origin, request.displayName, registration.clientType⟩
  return (renameHost (touchHost granted row.hostId now) row.hostId registration.displayName request.displayName,
    .ok response row.hostId true revokedSessionIds)

def exchangeReconnectEnrollment (db : MobileDb) (row : MobileEnrollmentRow) (now : Int) (request : ExchangeRequest)
    (draws : ExchangeDraws) : MobileDb × Option ExchangeOutcome :=
  match findRegistrationByHostId db row.hostId with
  | none => (db, some .targetUnavailable)
  | some registration =>
    if isRowRevoked registration.revokedAt then (db, some .targetUnavailable)
    else
      match env.canonicalOrigin with
      | none => (db, none)
      | some origin =>
        runExchange db (reconnectTransaction env db row registration origin now request draws) request.enrollmentId now

def exchangeMobileEnrollment (db : MobileDb) (request : ExchangeRequest) (draws : ExchangeDraws) (now : Int) :
    MobileDb × Option ExchangeOutcome :=
  match findEnrollment db request.enrollmentId with
  | none => (db, some .notFound)
  | some row =>
    match enrollmentStatusOf row now with
    | .used => (db, some .used)
    | .expired => (db, some .expired)
    | .revoked => (db, some .revoked)
    | .pending =>
      if hashesEqual (env.hash request.secret) row.secretHash = false then (db, some .invalidSecret)
      else
        match row.kind with
        | .reconnect => exchangeReconnectEnrollment env db row now request draws
        | .new => exchangeNewEnrollment env db row now request draws

def mobileCheckIn (db : MobileDb) (hostId appVersion : String) (now : Int) : MobileDb :=
  touchHost { db with registrations := Rows.update db.registrations (fun row => row.hostId == hostId) fun row =>
    { row with lastSeenAt := some now, appVersion := appVersion } } hostId now

def resolveGrant (db : MobileDb) (grant : String) : Option (WebGrant × MobileRegistration) :=
  match db.grants.find? fun row => row.grantHash == env.hash grant with
  | none => none
  | some grantRow =>
    if isRowRevoked grantRow.revokedAt then none
    else
      match findRegistrationByHostId db grantRow.registrationId with
      | none => none
      | some registration => if isRowRevoked registration.revokedAt then none else some (grantRow, registration)

structure BootstrapResponse where
  hostId : String
  displayName : String
  expiresAt : Int
  csrfToken : String
  deriving DecidableEq

inductive BootstrapOutcome where
  | ok (response : BootstrapResponse) (sessionSecret hostId : String)
  | invalidGrant
  | nonAdminGrant
  deriving DecidableEq

def freshSession (sessionSecret sessionId : String) (grant : WebGrant) (registration : MobileRegistration) (now : Int) :
    WebSession where
  id := sessionId
  sessionHash := env.hash sessionSecret
  registrationId := registration.hostId
  grantId := grant.id
  admin := grant.admin
  expiresAt := now + sessionTtlMs
  revokedAt := none
  issuedAt := now

def bootstrapMobileWebSession (db : MobileDb) (grant sessionSecret sessionId : String) (now : Int) :
    MobileDb × Option BootstrapOutcome :=
  match resolveGrant env db grant with
  | none => (db, some .invalidGrant)
  | some (grantRow, registration) =>
    if grantRow.admin ≠ 1 then (db, some .nonAdminGrant)
    else
      match insertSession db (freshSession env sessionSecret sessionId grantRow registration now) with
      | .error _ => (db, none)
      | .ok db' =>
        let response : BootstrapResponse :=
          ⟨registration.hostId, registration.displayName, now + sessionTtlMs, env.deriveCsrfToken sessionSecret⟩
        (db', some (.ok response sessionSecret registration.hostId))

def revokeTransaction (db : MobileDb) (hostId : String) (reason : Option String) (now : Int) : MobileDb :=
  let unregistered : MobileDb :=
    { db with registrations := Rows.update db.registrations (fun row => row.hostId == hostId) fun row =>
        { row with revokedAt := some now, revokedReason := reason } }
  let ungranted := revokeGrants unregistered (fun grant => grant.registrationId == hostId) reason now
  revokeEnrollments (revokeOpenSessions ungranted hostId now)
    (fun row => row.hostId == hostId && row.status != .revoked) now

def revokeMobileRegistration (db : MobileDb) (hostId : String) (reason : Option String) (now : Int) :
    MobileDb × Bool × Int :=
  match findRegistrationByHostId db hostId with
  | none => (db, false, now)
  | some registration =>
    if isRowRevoked registration.revokedAt then (db, true, registration.revokedAt.getD now)
    else (revokeTransaction db hostId reason now, true, now)

def revokeMobileWebSession (db : MobileDb) (sessionSecret : String) (now : Int) : MobileDb × Bool :=
  let isOpen := fun row : WebSession => row.sessionHash == env.hash sessionSecret && row.revokedAt.isNone
  ({ db with sessions := Rows.update db.sessions isOpen fun row => { row with revokedAt := some now } },
    db.sessions.countP isOpen == 1)

end Store

end LamaSync
