import LamaSync.Lib.Trace
import LamaSync.Server.MobileStore

/-!
# Mobile credentials over runs

Phones and administrators call the mobile store in any order, with any clock.  Along every such run a registration has
one live grant until it is revoked and none after, a QR secret is exchanged once, and the credentials issued before a
reconnect, or before a revocation, do not resolve any more (`mobile_credentials_safe`).

`mobileStep_move` says once what a call can do to the tables; `MobileKept` is what every call keeps of their rows.
-/

namespace LamaSync

open Trace
open Rows (forall_update kept_update mem_update_of_mem nodup_update find_some nodup_concat eq_of_key)

/-! ### Digests in hex -/

private theorem mc_hexDigit {c : Char} (h : (('0' ≤ c && c ≤ '9') || ('a' ≤ c && c ≤ 'f')) = true) :
    ∃ x, hexDigit c = some x ∧ x < 16 ∧ c.toNat = if x < 10 then x + 48 else x + 87 := by
  simp only [Bool.or_eq_true, Bool.and_eq_true, decide_eq_true_eq, Char.le_def, UInt32.le_iff_toNat_le] at h
  have hzero : '0'.toNat = 48 := rfl
  have ha : 'a'.toNat = 97 := rfl
  have hval : c.val.toNat = c.toNat := rfl
  rcases h with ⟨hlow, hhigh⟩ | ⟨hlow, hhigh⟩
  · have hdi : '0' ≤ c ∧ c ≤ '9' := by
      simp only [Char.le_def, UInt32.le_iff_toNat_le]
      exact ⟨hlow, hhigh⟩
    change 48 ≤ c.toNat at hlow
    change c.toNat ≤ 57 at hhigh
    refine ⟨c.toNat - 48, ?_, by omega, by rw [if_pos (by omega)]; omega⟩
    rw [hexDigit, if_pos hdi, hzero]
  · have hle : 'a' ≤ c ∧ c ≤ 'f' := by
      simp only [Char.le_def, UInt32.le_iff_toNat_le]
      exact ⟨hlow, hhigh⟩
    change 97 ≤ c.toNat at hlow
    change c.toNat ≤ 102 at hhigh
    have hno : ¬ ('0' ≤ c ∧ c ≤ '9') := by
      simp only [Char.le_def, UInt32.le_iff_toNat_le]
      rintro ⟨-, hnine⟩
      change c.toNat ≤ 57 at hnine
      omega
    refine ⟨c.toNat - 97 + 10, ?_, by omega, by rw [if_neg (by omega)]; omega⟩
    rw [hexDigit, if_neg hno, if_pos hle, ha]

private theorem mc_hexDigit_inj {c d : Char} {x : Nat} (hc : (('0' ≤ c && c ≤ '9') || ('a' ≤ c && c ≤ 'f')) = true)
    (hd : (('0' ≤ d && d ≤ '9') || ('a' ≤ d && d ≤ 'f')) = true) (hcx : hexDigit c = some x)
    (hdx : hexDigit d = some x) : c = d := by
  obtain ⟨y, hy, -, hcy⟩ := mc_hexDigit hc
  obtain ⟨z, hz, -, hdz⟩ := mc_hexDigit hd
  have hxy : y = x := Option.mem_unique hy hcx
  have hxz : z = x := Option.mem_unique hz hdx
  rw [hxy] at hcy
  rw [hxz] at hdz
  exact Char.toNat_inj.1 (hcy.trans hdz.symm)

private theorem mc_bufferFromHex_inj {cs ds : List Char} (hlen : cs.length = ds.length) (heven : cs.length % 2 = 0)
    (hcs : ∀ c ∈ cs, (('0' ≤ c && c ≤ '9') || ('a' ≤ c && c ≤ 'f')) = true)
    (hds : ∀ c ∈ ds, (('0' ≤ c && c ≤ '9') || ('a' ≤ c && c ≤ 'f')) = true)
    (h : bufferFromHex cs = bufferFromHex ds) : cs = ds := by
  induction cs using bufferFromHex.induct generalizing ds with
  | case1 a b cs x y hy hx ih =>
    obtain _ | ⟨a', _ | ⟨b', ds⟩⟩ := ds
    · simp at hlen
    · simp at hlen
    obtain ⟨x', hx', hlt, -⟩ := mc_hexDigit (hds a' (by simp))
    obtain ⟨y', hy', hlt', -⟩ := mc_hexDigit (hds b' (by simp))
    obtain ⟨x'', hx'', hlt'', -⟩ := mc_hexDigit (hcs a (by simp))
    obtain ⟨y'', hy'', hlt''', -⟩ := mc_hexDigit (hcs b (by simp))
    have hxx : x'' = x := Option.mem_unique hx'' hx
    have hyy : y'' = y := Option.mem_unique hy'' hy
    simp only [bufferFromHex, hx, hy, hx', hy', List.cons.injEq] at h
    have hxeq : x = x' := by omega
    have hyeq : y = y' := by omega
    have ha : a = a' := mc_hexDigit_inj (hcs a (by simp)) (hds a' (by simp)) hx (hxeq ▸ hx')
    have hb : b = b' := mc_hexDigit_inj (hcs b (by simp)) (hds b' (by simp)) hy (hyeq ▸ hy')
    have hrest : cs = ds := by
      refine ih ?_ ?_ ?_ ?_ h.2
      · simpa using hlen
      · simp only [List.length_cons] at heven; omega
      · intro c hc; exact hcs c (by simp [hc])
      · intro c hc; exact hds c (by simp [hc])
    rw [ha, hb, hrest]
  | case2 a b cs hno =>
    obtain ⟨x, hx, -, -⟩ := mc_hexDigit (hcs a (by simp))
    obtain ⟨y, hy, -, -⟩ := mc_hexDigit (hcs b (by simp))
    exact absurd hy (hno x y hx)
  | case3 cs hno =>
    obtain _ | ⟨a, _ | ⟨b, cs⟩⟩ := cs
    · exact (List.length_eq_zero_iff.1 hlen.symm).symm
    · simp at heven
    · exact absurd rfl (hno a b cs)

theorem hashesEqual_iff (a b : Sha256Hex) : hashesEqual a.val b.val = true ↔ a = b := by
  obtain ⟨a, ha⟩ := a
  obtain ⟨b, hb⟩ := b
  simp only [isSha256Hex, Bool.and_eq_true, beq_iff_eq, List.all_eq_true] at ha hb
  constructor
  · intro h
    simp only [hashesEqual, Bool.and_eq_true, beq_iff_eq] at h
    have hch : a.toList = b.toList :=
      mc_bufferFromHex_inj (ha.1.trans hb.1.symm) (by rw [ha.1]) ha.2 hb.2 h.2
    exact Subtype.ext (String.toList_inj.1 hch)
  intro h
  have hab : a = b := congrArg Subtype.val h
  subst hab
  have hne : bufferFromHex a.toList ≠ [] := by
    obtain ⟨hlen, hdi⟩ := ha
    generalize a.toList = cs at hlen hdi ⊢
    rcases cs with - | ⟨c, - | ⟨d, cs⟩⟩
    · simp at hlen
    · simp at hlen
    obtain ⟨x, hx, -, -⟩ := mc_hexDigit (hdi c (by simp))
    obtain ⟨y, hy, -, -⟩ := mc_hexDigit (hdi d (by simp))
    simp [bufferFromHex, hx, hy]
  simpa [hashesEqual] using hne

/-- Calls of the store.  Drawn ids and secrets, and the clock, are part of a call. -/
inductive MobileEvent where
  | createEnrollment (enrollmentId hostId secret clientType : String) (webAdmin : Bool) (now : EpochMs)
  | createReconnect (enrollmentId secret hostId : String) (now : EpochMs)
  | exchange (request : ExchangeRequest) (draws : ExchangeDraws) (now : EpochMs)
  | bootstrap (grant sessionSecret sessionId : String) (now : EpochMs)
  | checkIn (hostId appVersion : String) (now : EpochMs)
  | revoke (hostId : String) (reason : Option String) (now : EpochMs)
  | logout (sessionSecret : String) (now : EpochMs)

inductive MobileCredential where
  | nativeToken (token : String)
  | webGrant (grant : String)
  | webSession (secret : String)
  deriving DecidableEq

section System

variable (env : MobileEnv)

def mobileStep (db : MobileDb) : MobileEvent → MobileDb
  | .createEnrollment enrollmentId hostId secret clientType webAdmin now =>
    (createMobileEnrollment env db enrollmentId hostId secret clientType webAdmin now).1
  | .createReconnect enrollmentId secret hostId now => (createReconnectEnrollment env db enrollmentId secret hostId now).1
  | .exchange request draws now => (exchangeMobileEnrollment env db request draws now).1
  | .bootstrap grant sessionSecret sessionId now => (bootstrapMobileWebSession env db grant sessionSecret sessionId now).1
  | .checkIn hostId appVersion now => mobileCheckIn db hostId appVersion now
  | .revoke hostId reason now => (revokeMobileRegistration db hostId reason now).1
  | .logout sessionSecret now => (revokeMobileWebSession env db sessionSecret now).1

def emptyMobileDb (hosts : List MobileHostRow) : MobileDb where
  hosts := hosts
  enrollments := []
  registrations := []
  grants := []
  sessions := []

def exchangedSecrets (db : MobileDb) : MobileEvent → List String
  | .exchange request draws now =>
    match (exchangeMobileEnrollment env db request draws now).2 with
    | some (.ok ..) => [request.secret]
    | _ => []
  | _ => []

def credentialsIssued (db : MobileDb) : MobileEvent → List (String × MobileCredential)
  | .exchange request draws now =>
    match (exchangeMobileEnrollment env db request draws now).2 with
    | some (.ok response hostId _ _) =>
      [(hostId, .nativeToken response.nativeToken), (hostId, .webGrant response.webGrant)]
    | _ => []
  | .bootstrap grant sessionSecret sessionId now =>
    match (bootstrapMobileWebSession env db grant sessionSecret sessionId now).2 with
    | some (.ok _ secret hostId) => [(hostId, .webSession secret)]
    | _ => []
  | _ => []

def resolveCredential (db : MobileDb) (now : Int) : MobileCredential → Option String
  | .nativeToken token => resolveNativeHost (db.authEnv env) token
  | .webGrant grant => (resolveGrant env db grant).map fun live => live.2.hostId
  | .webSession secret => (resolveLiveSession (db.authEnv env) now secret).map fun live => live.registration.hostId

def isLiveGrant (hostId : String) (grant : WebGrant) : Bool :=
  grant.registrationId == hostId && !isRowRevoked grant.revokedAt

def liveGrants (db : MobileDb) (hostId : String) : Nat := db.grants.countP (isLiveGrant hostId)

def pendingReconnects (db : MobileDb) (hostId : String) : Nat :=
  db.enrollments.countP fun row => row.hostId == hostId && row.kind == .reconnect && row.status == .pending

def drawnToken : MobileEvent → List String
  | .exchange _ draws _ => [env.hash draws.nativeToken]
  | _ => []

/-- The native tokens are drawn from 256 bits: no other draw of the run has the digest of this one.  Grants and sessions
keep their rows, so the unique columns say it of them. -/
def DrawnOnce (es : List MobileEvent) : MobileCredential → Prop
  | .nativeToken token => (es.flatMap (drawnToken env)).count (env.hash token) ≤ 1
  | .webGrant _ => True
  | .webSession _ => True

def ReconnectsHost (db : MobileDb) (hostId : String) : MobileEvent → Prop
  | .exchange request draws now => ∃ response revokedSessionIds,
      (exchangeMobileEnrollment env db request draws now).2 = some (.ok response hostId true revokedSessionIds)
  | _ => False

def RevokesHost (db : MobileDb) (hostId : String) : MobileEvent → Prop
  | .revoke revoked reason now => revoked = hostId ∧ (revokeMobileRegistration db revoked reason now).2.1 = true
  | _ => False

/-! ### What a call can do -/

structure ClaimedRow (db : MobileDb) (request : ExchangeRequest) (now : Int) (row : MobileEnrollmentRow) : Prop where
  found : row ∈ db.enrollments
  claimable : isClaimable request.enrollmentId now row = true
  secret : hashesEqual (env.hash request.secret) row.secretHash = true

def claimedEnrollments (db : MobileDb) (request : ExchangeRequest) (now : Int) : List MobileEnrollmentRow :=
  Rows.update db.enrollments (isClaimable request.enrollmentId now) fun row =>
    { row with status := .used, consumedAt := some now }

def GrantIsNew (db : MobileDb) (draws : ExchangeDraws) : Prop :=
  ∀ grant ∈ db.grants, grant.id ≠ draws.grantId ∧ grant.grantHash ≠ env.hash draws.webGrant

structure Installs (db : MobileDb) (request : ExchangeRequest) (draws : ExchangeDraws) (now : Int)
    (row : MobileEnrollmentRow) : Prop extends ClaimedRow env db request now row where
  newHost : ∀ r ∈ db.registrations, r.hostId ≠ row.hostId
  newToken : ∀ r ∈ db.registrations, r.nativeTokenHash ≠ env.hash draws.nativeToken
  newGrant : GrantIsNew env db draws

/-- The tables after it. -/
def installed (db : MobileDb) (request : ExchangeRequest) (draws : ExchangeDraws) (now : Int)
    (row : MobileEnrollmentRow) : MobileDb where
  hosts := db.hosts ++ [⟨row.hostId, request.displayName, now, "online", "phone"⟩]
  enrollments := claimedEnrollments db request now
  registrations := db.registrations ++ [newRegistration env draws row.hostId request.displayName request.appVersion now]
  grants := db.grants ++ [freshGrant env draws row.hostId row.webAdmin now]
  sessions := db.sessions

structure Rotates (db : MobileDb) (request : ExchangeRequest) (draws : ExchangeDraws) (now : Int)
    (row : MobileEnrollmentRow) : Prop extends ClaimedRow env db request now row where
  live : ∃ r ∈ db.registrations, isRotatable row.hostId r = true
  newToken : ∀ r ∈ db.registrations, r.hostId ≠ row.hostId → r.nativeTokenHash ≠ env.hash draws.nativeToken
  newGrant : GrantIsNew env db draws

def rotated (db : MobileDb) (hosts : List MobileHostRow) (request : ExchangeRequest) (draws : ExchangeDraws) (now : Int)
    (row : MobileEnrollmentRow) : MobileDb where
  hosts := hosts
  enrollments := claimedEnrollments db request now
  registrations := Rows.update db.registrations (isRotatable row.hostId) fun r =>
    { r with
      nativeTokenHash := env.hash draws.nativeToken, displayName := request.displayName
      appVersion := request.appVersion, lastSeenAt := some now }
  grants := Rows.update db.grants (fun grant => grant.registrationId == row.hostId && grant.revokedAt.isNone)
      (fun grant => { grant with revokedAt := some now, revokedReason := some reconnectRotatedReason }) ++
    [freshGrant env draws row.hostId row.webAdmin now]
  sessions := Rows.update db.sessions (isOpenSession row.hostId) fun session => { session with revokedAt := some now }

def openSessionIds (db : MobileDb) (hostId : String) : List String :=
  (db.sessions.filter (isOpenSession hostId)).map fun session => session.id

def EnrollmentIsNew (db : MobileDb) (row : MobileEnrollmentRow) : Prop :=
  ∀ r ∈ db.enrollments, r.id ≠ row.id ∧ r.secretHash ≠ row.secretHash

/-- What one call can do to the tables. -/
inductive MobileMove (db : MobileDb) : MobileEvent → MobileDb → Prop where
  | same {e} : MobileMove db e db
  | enrollNew {e} {row : MobileEnrollmentRow} {now : Int} (fresh : EnrollmentIsNew db row)
      (digest : ∃ secret, row.secretHash = env.hash secret) (kind : row.kind = .new) :
      MobileMove db e
        (revokeOtherPendingNewEnrollments { db with enrollments := db.enrollments ++ [row] } row.id now)
  | enrollReconnect {e} {row : MobileEnrollmentRow} {now : Int} (fresh : EnrollmentIsNew db row)
      (digest : ∃ secret, row.secretHash = env.hash secret) (kind : row.kind = .reconnect) :
      MobileMove db e (revokeOtherPendingReconnectsForHost { db with enrollments := db.enrollments ++ [row] } row.hostId
        row.id now)
  | install {request draws now row} (h : Installs env db request draws now.val row) :
      MobileMove db (.exchange request draws now) (installed env db request draws now.val row)
  | rotate {request draws now row hosts} (h : Rotates env db request draws now.val row) :
      MobileMove db (.exchange request draws now) (rotated env db hosts request draws now.val row)
  | openSession {grant sessionSecret sessionId now grantRow registration}
      (resolved : resolveGrant env db grant = some (grantRow, registration))
      (newSession : ∀ session ∈ db.sessions, session.sessionHash ≠ env.hash sessionSecret) :
      MobileMove db (.bootstrap grant sessionSecret sessionId now)
        { db with sessions := db.sessions ++ [freshSession env sessionSecret sessionId grantRow registration now.val] }
  | checkIn {hostId appVersion now} :
      MobileMove db (.checkIn hostId appVersion now) (mobileCheckIn db hostId appVersion now.val)
  | revoke {hostId reason now} :
      MobileMove db (.revoke hostId reason now) (revokeTransaction db hostId reason now.val)
  | logout {sessionSecret now} :
      MobileMove db (.logout sessionSecret now) (revokeMobileWebSession env db sessionSecret now.val).1

section Moves

variable {env} {db db' : MobileDb}

private theorem mc_bind {α β : Type} {x : Except StoreError α} {f : α → Except StoreError β} {b : β}
    (h : (x >>= f) = .ok b) : ∃ a, x = .ok a ∧ f a = .ok b := by
  cases x with
  | error e => cases h
  | ok a => exact ⟨a, rfl, h⟩

private theorem mc_any {ρ : Type} {rows : List ρ} {p : ρ → Bool} (h : ¬ rows.any p = true) {row : ρ} (hrow : row ∈ rows) :
    p row = false := by
  cases hp : p row with
  | false => rfl
  | true => exact absurd (List.any_eq_true.2 ⟨row, hrow, hp⟩) h

variable {row : MobileEnrollmentRow}

theorem insertEnrollmentRow_ok (h : insertEnrollmentRow db row = .ok db') :
    EnrollmentIsNew db row ∧ db' = { db with enrollments := db.enrollments ++ [row] } := by
  unfold insertEnrollmentRow at h
  split at h
  · cases h
  rename_i hno
  cases h
  refine ⟨?_, rfl⟩
  intro r hr
  have hp := mc_any hno hr
  simpa using hp

theorem insertHost_ok {row : MobileHostRow} (h : insertHost db row = .ok db') :
    db' = { db with hosts := db.hosts ++ [row] } := by
  unfold insertHost at h
  split at h
  · cases h
  · cases h; rfl

theorem insertRegistration_ok {row : MobileRegistration} (h : insertRegistration db row = .ok db') :
    (∀ r ∈ db.registrations, r.hostId ≠ row.hostId ∧ r.nativeTokenHash ≠ row.nativeTokenHash) ∧
      db' = { db with registrations := db.registrations ++ [row] } := by
  unfold insertRegistration at h
  split at h
  · cases h
  rename_i hno
  cases h
  refine ⟨?_, rfl⟩
  intro r hr
  have hp := mc_any hno hr
  simpa using hp

theorem insertGrant_ok {row : WebGrant} (h : insertGrant db row = .ok db') :
    (∀ r ∈ db.grants, r.id ≠ row.id ∧ r.grantHash ≠ row.grantHash) ∧ db' = { db with grants := db.grants ++ [row] } := by
  unfold insertGrant at h
  split at h
  · cases h
  rename_i hno
  cases h
  refine ⟨?_, rfl⟩
  intro r hr
  have hp := mc_any hno hr
  simp only [Bool.or_eq_false_iff, beq_eq_false_iff_ne] at hp
  exact hp.1

theorem insertSession_ok {row : WebSession} (h : insertSession db row = .ok db') :
    (∀ r ∈ db.sessions, r.sessionHash ≠ row.sessionHash) ∧ db' = { db with sessions := db.sessions ++ [row] } := by
  unfold insertSession at h
  split at h
  · cases h
  rename_i hno
  cases h
  refine ⟨?_, rfl⟩
  intro r hr
  have hp := mc_any hno hr
  simp only [Bool.or_eq_false_iff, beq_eq_false_iff_ne] at hp
  exact hp.2

variable {request : ExchangeRequest} {now : Int}

theorem claimPendingEnrollment_ok (h : claimPendingEnrollment db request.enrollmentId now = .ok db') :
    db' = { db with enrollments := claimedEnrollments db request now } := by
  unfold claimPendingEnrollment at h
  split at h
  · cases h
  · cases h; rfl

theorem rotateRegistration_ok {hostId token displayName appVersion : String}
    (h : rotateRegistration db hostId token displayName appVersion now = .ok db') :
    (∃ r ∈ db.registrations, isRotatable hostId r = true) ∧
    (∀ r ∈ db.registrations, r.hostId ≠ hostId → r.nativeTokenHash ≠ token) ∧
    db' = { db with registrations := Rows.update db.registrations (isRotatable hostId) fun r =>
      { r with
        nativeTokenHash := token, displayName := displayName, appVersion := appVersion, lastSeenAt := some now } } := by
  unfold rotateRegistration at h
  split at h
  · cases h
  rename_i hc
  split at h
  · cases h
  rename_i hno
  cases h
  refine ⟨?_, ?_, rfl⟩
  · have hone : db.registrations.countP (isRotatable hostId) = 1 := by simpa using hc
    exact List.countP_pos_iff.1 (by omega)
  intro r hr hhost hto
  have hp := mc_any hno hr
  simp [hhost, hto] at hp

def HandsOutNothing (outcome : Option ExchangeOutcome) : Prop :=
  ∀ response hostId rotated ids, outcome ≠ some (.ok response hostId rotated ids)

theorem runExchange_cases (db : MobileDb) (exchange : Except StoreError (MobileDb × ExchangeOutcome)) (id : String)
    (now : Int) :
    ((runExchange db exchange id now).1 = db ∧ HandsOutNothing (runExchange db exchange id now).2) ∨
    ∃ db' outcome, exchange = .ok (db', outcome) ∧ runExchange db exchange id now = (db', some outcome) := by
  match exchange with
  | .ok (db', outcome) => exact .inr ⟨db', outcome, rfl, rfl⟩
  | .error .targetLost => exact .inl ⟨rfl, by intro _ _ _ _ h; cases h⟩
  | .error .constraint => exact .inl ⟨rfl, by intro _ _ _ _ h; cases h⟩
  | .error .claimLost =>
    refine .inl ⟨?_, ?_⟩ <;> simp only [runExchange]
    · split <;> rfl
    · split <;> (intro _ _ _ _ h; cases h)

theorem newEnrollmentTransaction_ok {origin : String}
    {draws : ExchangeDraws} {outcome : ExchangeOutcome} (hcla : ClaimedRow env db request now row)
    (h : newEnrollmentTransaction env db row origin now request draws = .ok (db', outcome)) :
    Installs env db request draws now row ∧ db' = installed env db request draws now row ∧
      outcome = .ok ⟨row.hostId, draws.nativeToken, draws.webGrant, origin, request.displayName, "android"⟩ row.hostId
        false [] := by
  unfold newEnrollmentTransaction at h
  obtain ⟨claimed, hcl, h⟩ := mc_bind h
  obtain ⟨hosted, hho, h⟩ := mc_bind h
  obtain ⟨registered, hreg, h⟩ := mc_bind h
  obtain ⟨granted, hgr, h⟩ := mc_bind h
  cases h
  obtain rfl := claimPendingEnrollment_ok hcl
  obtain rfl := insertHost_ok hho
  obtain ⟨hnew, rfl⟩ := insertRegistration_ok hreg
  obtain ⟨hgra, rfl⟩ := insertGrant_ok hgr
  exact ⟨⟨hcla, fun r hr => (hnew r hr).1, fun r hr => (hnew r hr).2, hgra⟩, rfl, rfl⟩

theorem reconnectTransaction_ok {registration : MobileRegistration} {origin : String} {draws : ExchangeDraws}
    {outcome : ExchangeOutcome}
    (hcla : ClaimedRow env db request now row)
    (h : reconnectTransaction env db row registration origin now request draws = .ok (db', outcome)) :
    Rotates env db request draws now row ∧ (∃ hosts, db' = rotated env db hosts request draws now row) ∧
      outcome = .ok ⟨row.hostId, draws.nativeToken, draws.webGrant, origin, request.displayName,
        registration.clientType⟩ row.hostId true (openSessionIds db row.hostId) := by
  unfold reconnectTransaction at h
  obtain ⟨claimed, hcl, h⟩ := mc_bind h
  obtain ⟨rotated', hro, h⟩ := mc_bind h
  obtain ⟨granted, hgr, h⟩ := mc_bind h
  cases h
  obtain rfl := claimPendingEnrollment_ok hcl
  obtain ⟨hlive, hnew, rfl⟩ := rotateRegistration_ok hro
  obtain ⟨hgra, rfl⟩ := insertGrant_ok hgr
  refine ⟨⟨hcla, hlive, hnew, ?_⟩, ⟨_, rfl⟩, rfl⟩
  -- the revoked grants keep their ids and digests
  intro grant hmem
  have hmem' := @mem_update_of_mem _ _ grant
    (fun grant => grant.registrationId == row.hostId && grant.revokedAt.isNone)
    (fun grant => { grant with revokedAt := some now, revokedReason := some reconnectRotatedReason }) hmem
  have hne := hgra _ hmem'
  split at hne <;> exact hne

theorem exchange_cases (db : MobileDb) (request : ExchangeRequest) (draws : ExchangeDraws) (now : Int) :
    ((exchangeMobileEnrollment env db request draws now).1 = db ∧
      HandsOutNothing (exchangeMobileEnrollment env db request draws now).2) ∨
    ∃ row response rotates ids db', exchangeMobileEnrollment env db request draws now =
        (db', some (.ok response row.hostId rotates ids)) ∧
      response.nativeToken = draws.nativeToken ∧ response.webGrant = draws.webGrant ∧
      ((rotates = false ∧ Installs env db request draws now row ∧ db' = installed env db request draws now row) ∨
        (rotates = true ∧ Rotates env db request draws now row ∧ ids = openSessionIds db row.hostId ∧
          ∃ hosts, db' = rotated env db hosts request draws now row)) := by
  have hnot : ∀ outcome : ExchangeOutcome, (∀ r h b i, outcome ≠ .ok r h b i) → HandsOutNothing (some outcome) := by
    intro outcome hout r h b i heq
    exact hout r h b i (Option.some.inj heq)
  unfold exchangeMobileEnrollment
  split
  · exact .inl ⟨rfl, hnot _ (by simp)⟩
  rename_i row hf
  obtain ⟨hmem, hid⟩ := find_some hf
  split
  · exact .inl ⟨rfl, hnot _ (by simp)⟩
  · exact .inl ⟨rfl, hnot _ (by simp)⟩
  · exact .inl ⟨rfl, hnot _ (by simp)⟩
  rename_i hst
  split
  · exact .inl ⟨rfl, hnot _ (by simp)⟩
  rename_i hse
  have hpend : row.status = .pending ∧ now < row.expiresAt := by
    unfold enrollmentStatusOf at hst
    split at hst
    · cases hst
    rename_i hno
    refine ⟨hst, ?_⟩
    by_contra hle
    exact hno ⟨hst, by omega⟩
  have hcl : ClaimedRow env db request now row :=
    ⟨hmem, by simp [isClaimable, hid, hpend], by simpa using hse⟩
  split
  · -- a reconnect
    unfold exchangeReconnectEnrollment
    split
    · exact .inl ⟨rfl, hnot _ (by simp)⟩
    rename_i registration _
    split
    · exact .inl ⟨rfl, hnot _ (by simp)⟩
    split
    · exact .inl ⟨rfl, by intro _ _ _ _ h; cases h⟩
    rename_i origin _
    rcases runExchange_cases db (reconnectTransaction env db row registration origin now request draws)
      request.enrollmentId now with hno | ⟨db', outcome, htx, hres⟩
    · exact .inl hno
    obtain ⟨hrot, hdb, hou⟩ := reconnectTransaction_ok hcl htx
    rw [hres, hou]
    exact .inr ⟨row, _, true, _, db', rfl, rfl, rfl, .inr ⟨rfl, hrot, rfl, hdb⟩⟩
  · -- a new installation
    unfold exchangeNewEnrollment
    split
    · exact .inl ⟨rfl, by intro _ _ _ _ h; cases h⟩
    rename_i origin _
    rcases runExchange_cases db (newEnrollmentTransaction env db row origin now request draws) request.enrollmentId now
      with hno | ⟨db', outcome, htx, hres⟩
    · exact .inl hno
    obtain ⟨hinst, hdb, hou⟩ := newEnrollmentTransaction_ok hcl htx
    rw [hres, hou]
    exact .inr ⟨row, _, false, [], db', rfl, rfl, rfl, .inl ⟨rfl, hinst, hdb⟩⟩

theorem bootstrap_cases (db : MobileDb) (grant sessionSecret sessionId : String) (now : Int) :
    ((bootstrapMobileWebSession env db grant sessionSecret sessionId now).1 = db ∧
      ∀ response secret hostId,
        (bootstrapMobileWebSession env db grant sessionSecret sessionId now).2 ≠ some (.ok response secret hostId)) ∨
    ∃ grantRow registration response, resolveGrant env db grant = some (grantRow, registration) ∧
      (∀ session ∈ db.sessions, session.sessionHash ≠ env.hash sessionSecret) ∧
      bootstrapMobileWebSession env db grant sessionSecret sessionId now =
        ({ db with sessions := db.sessions ++ [freshSession env sessionSecret sessionId grantRow registration now] },
          some (.ok response sessionSecret registration.hostId)) := by
  unfold bootstrapMobileWebSession
  split
  · exact .inl ⟨rfl, by simp⟩
  rename_i grantRow registration hres
  split
  · exact .inl ⟨rfl, by simp⟩
  split
  · exact .inl ⟨rfl, by simp⟩
  rename_i db' hins
  obtain ⟨hnew, rfl⟩ := insertSession_ok hins
  exact .inr ⟨grantRow, registration, _, hres, hnew, rfl⟩

/-- What one call can do. -/
theorem mobileStep_move (db : MobileDb) (e : MobileEvent) : MobileMove env db e (mobileStep env db e) := by
  cases e with
  | createEnrollment enrollmentId hostId secret clientType webAdmin now =>
    simp only [mobileStep, createMobileEnrollment]
    split
    · exact .same
    split
    · exact .same
    rename_i inserted hins
    obtain ⟨hnew, rfl⟩ := insertEnrollmentRow_ok hins
    exact .enrollNew hnew ⟨secret, rfl⟩ rfl
  | createReconnect enrollmentId secret hostId now =>
    simp only [mobileStep, createReconnectEnrollment]
    split
    · exact .same
    split
    · exact .same
    split
    · exact .same
    split
    · exact .same
    split
    · exact .same
    rename_i inserted hins
    obtain ⟨hnew, rfl⟩ := insertEnrollmentRow_ok hins
    exact .enrollReconnect hnew ⟨secret, rfl⟩ rfl
  | exchange request draws now =>
    rcases @exchange_cases env db request draws now.val with ⟨hsame, -⟩ | ⟨row, _, _, _, db', hres, -, -, hmove⟩
    · simp only [mobileStep]
      rw [hsame]
      exact .same
    simp only [mobileStep, hres]
    rcases hmove with ⟨-, hinst, rfl⟩ | ⟨-, hrot, -, hosts, rfl⟩
    · exact .install hinst
    · exact .rotate hrot
  | bootstrap grant sessionSecret sessionId now =>
    rcases @bootstrap_cases env db grant sessionSecret sessionId now.val with
      ⟨hsame, -⟩ | ⟨grantRow, registration, _, hre, hnew, hres⟩
    · simp only [mobileStep]
      rw [hsame]
      exact .same
    · simp only [mobileStep, hres]
      exact .openSession hre hnew
  | checkIn hostId appVersion now => exact .checkIn
  | revoke hostId reason now =>
    simp only [mobileStep, revokeMobileRegistration]
    split
    · exact .same
    split
    · exact .same
    · exact .revoke
  | logout sessionSecret now => exact .logout

end Moves

/-! ### The invariant of the tables -/

def RevokedAtIsTime (revokedAt : Option Int) : Prop := revokedAt = none ∨ isRowRevoked revokedAt = true

/-- The unique columns are unique, and what the tables say fits together. -/
structure MobileInv (db : MobileDb) : Prop where
  secrets : (db.enrollments.map MobileEnrollmentRow.secretHash).Nodup
  digests : ∀ row ∈ db.enrollments, ∃ secret, row.secretHash = env.hash secret
  pending : ∀ hostId, pendingReconnects db hostId ≤ 1
  hostIds : (db.registrations.map fun r => r.hostId).Nodup
  tokens : (db.registrations.map fun r => r.nativeTokenHash).Nodup
  registrationTimes : ∀ r ∈ db.registrations, RevokedAtIsTime r.revokedAt
  grantHashes : (db.grants.map WebGrant.grantHash).Nodup
  grantTimes : ∀ grant ∈ db.grants, RevokedAtIsTime grant.revokedAt
  registered : ∀ grant ∈ db.grants, ∃ r ∈ db.registrations, r.hostId = grant.registrationId
  oneGrant : ∀ r ∈ db.registrations, liveGrants db r.hostId = if isRowRevoked r.revokedAt = true then 0 else 1
  sessionHashes : (db.sessions.map fun session => session.sessionHash).Nodup
  sessionTimes : ∀ session ∈ db.sessions, RevokedAtIsTime session.revokedAt

section Invariant

variable {env} {db db' : MobileDb} {e : MobileEvent}

theorem isRowRevoked_now (now : EpochMs) : isRowRevoked (some now.val) = true := decide_eq_true now.property

theorem RevokedAtIsTime.open_iff {revokedAt : Option Int} (h : RevokedAtIsTime revokedAt) :
    isRowRevoked revokedAt = false ↔ revokedAt = none := by
  rcases h with rfl | h
  · exact ⟨fun _ => rfl, fun _ => rfl⟩
  rw [h]
  refine ⟨fun hno => Bool.noConfusion hno, fun hnone => ?_⟩
  rw [hnone] at h
  cases h

theorem mobileInv_empty (hosts : List MobileHostRow) : MobileInv env (emptyMobileDb hosts) := by
  constructor <;> simp [emptyMobileDb, pendingReconnects]

private theorem mc_secrets (hmove : MobileMove env db e db')
    (h : (db.enrollments.map MobileEnrollmentRow.secretHash).Nodup) :
    (db'.enrollments.map MobileEnrollmentRow.secretHash).Nodup := by
  cases hmove with
  | same | openSession _ _ | checkIn | logout => exact h
  | enrollNew fresh | enrollReconnect fresh =>
    exact nodup_update (fun _ => rfl) (nodup_concat h fun r hr => (fresh r hr).2)
  | install _ | rotate _ | revoke => exact nodup_update (fun _ => rfl) h

private theorem mc_digests (hmove : MobileMove env db e db')
    (h : ∀ row ∈ db.enrollments, ∃ secret, row.secretHash = env.hash secret) :
    ∀ row ∈ db'.enrollments, ∃ secret, row.secretHash = env.hash secret := by
  cases hmove with
  | same | openSession _ _ | checkIn | logout => exact h
  | enrollNew _ digest | enrollReconnect _ digest =>
    have hrows := List.forall_mem_append.2 ⟨h, List.forall_mem_singleton.2 digest⟩
    exact forall_update hrows fun _ _ _ hrow => hrow
  | install _ | rotate _ | revoke => exact forall_update h fun _ _ _ hrow => hrow

private theorem mc_pending (hmove : MobileMove env db e db') (h : ∀ hostId, pendingReconnects db hostId ≤ 1) :
    ∀ hostId, pendingReconnects db' hostId ≤ 1 := by
  intro hostId
  have hle := h hostId
  unfold pendingReconnects at hle
  cases hmove with
  | same | openSession _ _ | checkIn | logout => exact hle
  | @enrollNew _ row now _ _ kind =>
    refine le_trans (Rows.countP_update_le ?_) ?_
    · intro r _ _ hcnt; simp at hcnt
    · rw [List.countP_append, List.countP_singleton]
      simpa [kind] using hle
  | @enrollReconnect _ row now fresh _ kind =>
    simp only [pendingReconnects, revokeOtherPendingReconnectsForHost, revokeEnrollments]
    by_cases hhost : hostId = row.hostId
    · -- all the others of this host are revoked
      have hoth : (Rows.update db.enrollments
          (fun r => r.id != row.id && r.hostId == row.hostId && r.status == .pending && r.kind == .reconnect)
          (fun r => { r with status := .revoked, revokedAt := some now })).countP
          (fun r => r.hostId == hostId && r.kind == .reconnect && r.status == .pending) = 0 := by
        refine Rows.countP_update_none ?_ ?_
        · intro r hr hcnt
          have hid := (fresh r hr).1
          simp only [Bool.and_eq_true, beq_iff_eq, bne_iff_ne] at hcnt ⊢
          exact ⟨⟨⟨hid, hcnt.1.1.trans hhost⟩, hcnt.2⟩, hcnt.1.2⟩
        · intro r _ _; simp
      have hsp : ∀ guard set, Rows.update (db.enrollments ++ [row]) guard set =
          Rows.update db.enrollments guard set ++ Rows.update [row] guard set := by
        intro guard set; simp [Rows.update]
      rw [hsp, List.countP_append, hoth]
      refine le_trans (le_of_eq (Nat.zero_add _)) ?_
      exact List.countP_le_length
    · have hsame : (Rows.update (db.enrollments ++ [row])
          (fun r => r.id != row.id && r.hostId == row.hostId && r.status == .pending && r.kind == .reconnect)
          (fun r => { r with status := .revoked, revokedAt := some now })).countP
          (fun r => r.hostId == hostId && r.kind == .reconnect && r.status == .pending) =
          (db.enrollments ++ [row]).countP
            (fun r => r.hostId == hostId && r.kind == .reconnect && r.status == .pending) := by
        refine Rows.countP_update_same ?_
        intro r _ hg
        simp only [Bool.and_eq_true, beq_iff_eq] at hg
        have hne : (r.hostId == hostId) = false := by
          rw [hg.1.1.2]
          exact beq_eq_false_iff_ne.2 (Ne.symm hhost)
        simp [hne]
      rw [hsame, List.countP_append, List.countP_singleton]
      have hne : (row.hostId == hostId) = false := beq_eq_false_iff_ne.2 (Ne.symm hhost)
      simpa [hne] using hle
  | install _ | rotate _ | revoke =>
    refine le_trans (Rows.countP_update_le ?_) hle
    intro r _ _ hcnt
    simp at hcnt

private theorem mc_hostIds (hmove : MobileMove env db e db') (h : (db.registrations.map fun r => r.hostId).Nodup) :
    (db'.registrations.map fun r => r.hostId).Nodup := by
  cases hmove with
  | same | enrollNew _ _ _ | enrollReconnect _ _ _ | openSession _ _ | logout => exact h
  | install hinst => exact nodup_concat h hinst.newHost
  | rotate _ | checkIn | revoke => exact nodup_update (fun _ => rfl) h

theorem MobileInv.registration_eq (h : MobileInv env db) {r r' : MobileRegistration} (hr : r ∈ db.registrations)
    (hr' : r' ∈ db.registrations) (hhost : r.hostId = r'.hostId) : r = r' :=
  eq_of_key h.hostIds hr hr' hhost

variable {hostId : String}

theorem isRotatable_iff {r : MobileRegistration} :
    isRotatable hostId r = true ↔ r.hostId = hostId ∧ (r.revokedAt = none ∨ r.revokedAt = some 0) := by
  simp [isRotatable]

private theorem mc_tokens (hmove : MobileMove env db e db') (h : MobileInv env db) :
    (db'.registrations.map fun r => r.nativeTokenHash).Nodup := by
  cases hmove with
  | same | enrollNew _ _ _ | enrollReconnect _ _ _ | openSession _ _ | logout => exact h.tokens
  | install hinst => exact nodup_concat h.tokens hinst.newToken
  | @rotate request draws now row hosts hro =>
    refine Rows.nodup_update_key (List.Nodup.of_map _ h.hostIds) h.tokens ?_ (fun _ => rfl) ?_
    · intro r hr r' hr' hg hg'
      exact h.registration_eq hr hr' ((isRotatable_iff.1 hg).1.trans (isRotatable_iff.1 hg').1.symm)
    intro r hr hg
    refine hro.newToken r hr ?_
    intro hhost
    -- the registration that is rotated has the host's only row
    obtain ⟨live, hlive, hrot⟩ := hro.live
    rw [h.registration_eq hr hlive (hhost.trans (isRotatable_iff.1 hrot).1.symm), hrot] at hg
    cases hg
  | checkIn | revoke => exact nodup_update (fun _ => rfl) h.tokens

private theorem mc_registrationTimes (hmove : MobileMove env db e db')
    (h : ∀ r ∈ db.registrations, RevokedAtIsTime r.revokedAt) :
    ∀ r ∈ db'.registrations, RevokedAtIsTime r.revokedAt := by
  cases hmove with
  | same | enrollNew _ _ _ | enrollReconnect _ _ _ | openSession _ _ | logout => exact h
  | install _ =>
    exact List.forall_mem_append.2 ⟨h, List.forall_mem_singleton.2 (.inl rfl)⟩
  | rotate _ | checkIn => exact forall_update h fun _ _ _ hr => hr
  | @revoke hostId reason now => exact forall_update h fun _ _ _ _ => .inr (isRowRevoked_now now)

private theorem mc_grantHashes (hmove : MobileMove env db e db') (h : (db.grants.map WebGrant.grantHash).Nodup) :
    (db'.grants.map WebGrant.grantHash).Nodup := by
  cases hmove with
  | same | enrollNew _ _ _ | enrollReconnect _ _ _ | openSession _ _ | checkIn | logout => exact h
  | install hinst => exact nodup_concat h fun grant hgr => (hinst.newGrant grant hgr).2
  | rotate hrot =>
    refine nodup_concat (nodup_update (fun _ => rfl) h) ?_
    exact forall_update (fun grant hgr => (hrot.newGrant grant hgr).2) fun _ _ _ hgr => hgr
  | revoke => exact nodup_update (fun _ => rfl) h

private theorem mc_grantTimes (hmove : MobileMove env db e db') (h : ∀ grant ∈ db.grants, RevokedAtIsTime grant.revokedAt) :
    ∀ grant ∈ db'.grants, RevokedAtIsTime grant.revokedAt := by
  cases hmove with
  | same | enrollNew _ _ _ | enrollReconnect _ _ _ | openSession _ _ | checkIn | logout => exact h
  | install _ =>
    exact List.forall_mem_append.2 ⟨h, List.forall_mem_singleton.2 (.inl rfl)⟩
  | @rotate _ _ now =>
    refine List.forall_mem_append.2 ⟨?_, List.forall_mem_singleton.2 (.inl rfl)⟩
    exact forall_update h fun _ _ _ _ => .inr (isRowRevoked_now now)
  | @revoke hostId reason now => exact forall_update h fun _ _ _ _ => .inr (isRowRevoked_now now)

private theorem mc_sessionHashes (hmove : MobileMove env db e db')
    (h : (db.sessions.map fun session => session.sessionHash).Nodup) :
    (db'.sessions.map fun session => session.sessionHash).Nodup := by
  cases hmove with
  | same | enrollNew _ _ _ | enrollReconnect _ _ _ | install _ | checkIn => exact h
  | openSession _ newSession => exact nodup_concat h newSession
  | rotate _ | revoke | logout => exact nodup_update (fun _ => rfl) h

private theorem mc_sessionTimes (hmove : MobileMove env db e db')
    (h : ∀ session ∈ db.sessions, RevokedAtIsTime session.revokedAt) :
    ∀ session ∈ db'.sessions, RevokedAtIsTime session.revokedAt := by
  cases hmove with
  | same | enrollNew _ _ _ | enrollReconnect _ _ _ | install _ | checkIn => exact h
  | openSession _ _ =>
    exact List.forall_mem_append.2 ⟨h, List.forall_mem_singleton.2 (.inl rfl)⟩
  | @rotate _ _ now | @revoke _ _ now | @logout _ now =>
    exact forall_update h fun _ _ _ _ => .inr (isRowRevoked_now now)

/-- What every call keeps: no row goes, a credential keeps its owner, what is revoked stays revoked, and an enrollment that
is not pending does not become so. -/
structure MobileKept (db db' : MobileDb) : Prop where
  enrollments : Rows.Kept (fun row row' : MobileEnrollmentRow => row'.secretHash = row.secretHash ∧
    (row.status ≠ .pending → row'.status ≠ .pending)) db.enrollments db'.enrollments
  registrations : Rows.Kept (fun r r' : MobileRegistration => r'.hostId = r.hostId ∧
    (isRowRevoked r.revokedAt = true → isRowRevoked r'.revokedAt = true)) db.registrations db'.registrations
  grants : Rows.Kept (fun grant grant' : WebGrant => grant'.grantHash = grant.grantHash ∧
    grant'.registrationId = grant.registrationId ∧
    (isRowRevoked grant.revokedAt = true → isRowRevoked grant'.revokedAt = true)) db.grants db'.grants
  sessions : Rows.Kept (fun session session' : WebSession => session'.sessionHash = session.sessionHash ∧
    session'.registrationId = session.registrationId ∧
    (isRowRevoked session.revokedAt = true → isRowRevoked session'.revokedAt = true)) db.sessions db'.sessions

theorem MobileKept.refl (db : MobileDb) : MobileKept db db := by
  constructor <;> exact Rows.Kept.refl (by simp)

theorem MobileKept.trans {a b c : MobileDb} (h : MobileKept a b) (h' : MobileKept b c) : MobileKept a c where
  enrollments := h.enrollments.trans (fun _ _ _ hx hy => ⟨hy.1.trans hx.1, fun hp => hy.2 (hx.2 hp)⟩) h'.enrollments
  registrations := h.registrations.trans (fun _ _ _ hx hy => ⟨hy.1.trans hx.1, fun hp => hy.2 (hx.2 hp)⟩) h'.registrations
  grants := h.grants.trans (fun _ _ _ hx hy => ⟨hy.1.trans hx.1, hy.2.1.trans hx.2.1, fun hp => hy.2.2 (hx.2.2 hp)⟩)
    h'.grants
  sessions := h.sessions.trans
    (fun _ _ _ hx hy => ⟨hy.1.trans hx.1, hy.2.1.trans hx.2.1, fun hp => hy.2.2 (hx.2.2 hp)⟩) h'.sessions

private theorem mc_kept_enrollments {rows : List MobileEnrollmentRow} {guard : MobileEnrollmentRow → Bool}
    {set : MobileEnrollmentRow → MobileEnrollmentRow} (hhash : ∀ row, (set row).secretHash = row.secretHash)
    (hset : ∀ row, (set row).status ≠ .pending) :
    Rows.Kept (fun row row' : MobileEnrollmentRow => row'.secretHash = row.secretHash ∧
      (row.status ≠ .pending → row'.status ≠ .pending)) rows (Rows.update rows guard set) :=
  kept_update (fun _ => ⟨rfl, id⟩) fun row => ⟨hhash row, fun _ => hset row⟩

private theorem mc_kept_new {rows : List MobileEnrollmentRow} {new : MobileEnrollmentRow}
    {guard : MobileEnrollmentRow → Bool} {set : MobileEnrollmentRow → MobileEnrollmentRow}
    (hhash : ∀ row, (set row).secretHash = row.secretHash) (hset : ∀ row, (set row).status ≠ .pending) :
    Rows.Kept (fun row row' : MobileEnrollmentRow => row'.secretHash = row.secretHash ∧
      (row.status ≠ .pending → row'.status ≠ .pending)) rows (Rows.update (rows ++ [new]) guard set) := by
  intro row hrow
  exact mc_kept_enrollments hhash hset row (List.mem_append_left _ hrow)

/-- What one call keeps. -/
theorem MobileMove.kept (hmove : MobileMove env db e db') : MobileKept db db' := by
  have hdb := MobileKept.refl db
  cases hmove with
  | same => exact hdb
  | enrollNew _ _ _ | enrollReconnect _ _ _ =>
    exact ⟨mc_kept_new (fun _ => rfl) (fun _ => by simp), hdb.registrations, hdb.grants, hdb.sessions⟩
  | install _ =>
    exact ⟨mc_kept_enrollments (fun _ => rfl) (fun _ => by simp), hdb.registrations.append _, hdb.grants.append _,
      hdb.sessions⟩
  | rotate _ =>
    refine ⟨mc_kept_enrollments (fun _ => rfl) (fun _ => by simp), ?_, ?_, ?_⟩
    · exact kept_update (fun _ => ⟨rfl, id⟩) fun _ => ⟨rfl, id⟩
    · refine Rows.Kept.append (kept_update (fun _ => ⟨rfl, rfl, id⟩) ?_) _
      intro grant
      exact ⟨rfl, rfl, fun _ => isRowRevoked_now _⟩
    · exact kept_update (fun _ => ⟨rfl, rfl, id⟩) fun _ => ⟨rfl, rfl, fun _ => isRowRevoked_now _⟩
  | openSession _ _ => exact ⟨hdb.enrollments, hdb.registrations, hdb.grants, hdb.sessions.append _⟩
  | checkIn =>
    refine ⟨hdb.enrollments, ?_, hdb.grants, hdb.sessions⟩
    exact kept_update (fun _ => ⟨rfl, id⟩) fun _ => ⟨rfl, id⟩
  | revoke =>
    refine ⟨mc_kept_enrollments (fun _ => rfl) (fun _ => by simp), ?_, ?_, ?_⟩
    · exact kept_update (fun _ => ⟨rfl, id⟩) fun _ => ⟨rfl, fun _ => isRowRevoked_now _⟩
    · exact kept_update (fun _ => ⟨rfl, rfl, id⟩) fun _ => ⟨rfl, rfl, fun _ => isRowRevoked_now _⟩
    · exact kept_update (fun _ => ⟨rfl, rfl, id⟩) fun _ => ⟨rfl, rfl, fun _ => isRowRevoked_now _⟩
  | logout =>
    refine ⟨hdb.enrollments, hdb.registrations, hdb.grants, ?_⟩
    exact kept_update (fun _ => ⟨rfl, rfl, id⟩) fun _ => ⟨rfl, rfl, fun _ => isRowRevoked_now _⟩

private theorem mc_registered (hmove : MobileMove env db e db')
    (h : ∀ grant ∈ db.grants, ∃ r ∈ db.registrations, r.hostId = grant.registrationId) :
    ∀ grant ∈ db'.grants, ∃ r ∈ db'.registrations, r.hostId = grant.registrationId := by
  -- the registrations of the rows there were are still there
  have hkept : ∀ grant ∈ db.grants, ∃ r ∈ db'.registrations, r.hostId = grant.registrationId := by
    intro grant hgr
    obtain ⟨r, hr, hhost⟩ := h grant hgr
    obtain ⟨r', hr', hsame, -⟩ := hmove.kept.registrations r hr
    exact ⟨r', hr', hsame.trans hhost⟩
  cases hmove with
  | same | enrollNew _ _ _ | enrollReconnect _ _ _ | openSession _ _ | checkIn | logout => exact hkept
  | @install request draws now row _ =>
    intro grant hgr
    rcases List.mem_append.1 hgr with hold | hnew
    · exact hkept grant hold
    refine ⟨_, List.mem_append_right _ (.head _), ?_⟩
    rw [List.mem_singleton.1 hnew]
    rfl
  | @rotate request draws now row _ hro =>
    intro grant hgr
    rcases List.mem_append.1 hgr with hold | hnew
    · refine forall_update hkept ?_ grant hold
      exact fun _ _ _ hgr => hgr
    obtain ⟨r, hr, hrot⟩ := hro.live
    refine ⟨_, mem_update_of_mem hr, ?_⟩
    rw [List.mem_singleton.1 hnew, if_pos hrot]
    exact (isRotatable_iff.1 hrot).1
  | revoke => exact forall_update hkept fun _ _ _ hgr => hgr

theorem isLiveGrant_iff {grant : WebGrant} :
    isLiveGrant hostId grant = true ↔ grant.registrationId = hostId ∧ isRowRevoked grant.revokedAt = false := by
  simp [isLiveGrant]

variable {grants : List WebGrant}

private theorem mc_live_other {guard : WebGrant → Bool} {set : WebGrant → WebGrant}
    {other : String} (hne : other ≠ hostId) (hg : ∀ grant, guard grant = true → grant.registrationId = hostId)
    (hset : ∀ grant, (set grant).registrationId = grant.registrationId) :
    (Rows.update grants guard set).countP (isLiveGrant other) = grants.countP (isLiveGrant other) := by
  refine Rows.countP_update_same ?_
  intro grant _ hacc
  have hfa : (grant.registrationId == other) = false := by
    rw [hg grant hacc]
    exact beq_eq_false_iff_ne.2 (Ne.symm hne)
  simp only [isLiveGrant, hset grant, hfa, Bool.false_and]

private theorem mc_live_concat {draws : ExchangeDraws} {other : String} {webAdmin now : Int} :
    (grants ++ [freshGrant env draws hostId webAdmin now]).countP (isLiveGrant other) =
      grants.countP (isLiveGrant other) + if hostId = other then 1 else 0 := by
  rw [List.countP_append, List.countP_singleton]
  simp [isLiveGrant, freshGrant, isRowRevoked]

private theorem mc_live_none {guard : WebGrant → Bool} {set : WebGrant → WebGrant}
    (hall : ∀ grant ∈ grants, isLiveGrant hostId grant = true → guard grant = true)
    (hset : ∀ grant, isRowRevoked (set grant).revokedAt = true) :
    (Rows.update grants guard set).countP (isLiveGrant hostId) = 0 := by
  refine Rows.countP_update_none hall ?_
  intro grant _ _
  simp [isLiveGrant, hset grant]

private theorem mc_oneGrant (hmove : MobileMove env db e db') (h : MobileInv env db) :
    ∀ r ∈ db'.registrations, liveGrants db' r.hostId = if isRowRevoked r.revokedAt = true then 0 else 1 := by
  have hold := h.oneGrant
  simp only [liveGrants] at hold ⊢
  cases hmove with
  | same | enrollNew _ _ _ | enrollReconnect _ _ _ | openSession _ _ | logout => exact hold
  | checkIn => exact forall_update hold fun _ _ _ hr => hr
  | @install request draws now row hinst =>
    intro r hr
    simp only [installed]
    rw [mc_live_concat]
    rcases List.mem_append.1 hr with hmem | hnew
    · rw [if_neg (Ne.symm (hinst.newHost r hmem)), Nat.add_zero]
      exact hold r hmem
    -- the new registration's host had no grant
    have hnone : db.grants.countP (isLiveGrant row.hostId) = 0 := by
      rw [List.countP_eq_zero]
      intro grant hgr hcnt
      obtain ⟨r', hr', hhost⟩ := h.registered grant hgr
      exact hinst.newHost r' hr' (hhost.trans (isLiveGrant_iff.1 hcnt).1)
    rw [List.mem_singleton.1 hnew]
    show db.grants.countP (isLiveGrant row.hostId) + (if row.hostId = row.hostId then 1 else 0) = 1
    rw [hnone, if_pos rfl]
  | @rotate request draws now row hosts hro =>
    intro r' hr'
    obtain ⟨r, hr, heq⟩ := Rows.mem_update.1 hr'
    have hhost : r'.hostId = r.hostId := by rw [← heq]; split <;> rfl
    have hrev : r'.revokedAt = r.revokedAt := by rw [← heq]; split <;> rfl
    rw [hhost, hrev]
    simp only [rotated]
    rw [mc_live_concat]
    by_cases hsame : row.hostId = r.hostId
    · -- the registration that is rotated is live, and its old grants are revoked
      obtain ⟨live, hlive, hrot⟩ := hro.live
      obtain ⟨hliv, hopen⟩ := isRotatable_iff.1 hrot
      have hr_live : r = live := h.registration_eq hr hlive (hsame.symm.trans hliv.symm)
      have hnot : isRowRevoked r.revokedAt = false := by
        rw [hr_live]
        rcases hopen with hnull | hzero
        · rw [hnull]; rfl
        · rw [hzero]; rfl
      rw [mc_live_none ?_ (fun _ => isRowRevoked_now now), if_pos hsame, hnot, if_neg Bool.false_ne_true]
      intro grant hgr hcnt
      obtain ⟨hown, hli⟩ := isLiveGrant_iff.1 hcnt
      have hnull := (h.grantTimes grant hgr).open_iff.1 hli
      simp [hown, hnull, hsame]
    · rw [if_neg hsame, Nat.add_zero]
      refine (mc_live_other (Ne.symm hsame) ?_ ?_).trans (hold r hr)
      · intro grant hacc
        simp only [Bool.and_eq_true, beq_iff_eq] at hacc
        exact hacc.1
      · exact fun _ => rfl
  | @revoke hostId reason now =>
    intro r' hr'
    obtain ⟨r, hr, heq⟩ := Rows.mem_update.1 hr'
    simp only [revokeTransaction, revokeEnrollments, revokeOpenSessions, revokeGrants]
    by_cases hhost : r.hostId = hostId
    · rw [if_pos (by simpa using hhost)] at heq
      rw [← heq, if_pos (isRowRevoked_now now), mc_live_none ?_ (fun _ => isRowRevoked_now now)]
      intro grant hgr hcnt
      have hown := (isLiveGrant_iff.1 hcnt).1
      simpa using hown.trans hhost
    rw [if_neg (by simpa using hhost)] at heq
    rw [← heq]
    refine (mc_live_other hhost ?_ ?_).trans (hold r hr)
    · intro grant hacc
      simpa using hacc
    · exact fun _ => rfl

theorem MobileInv.step (h : MobileInv env db) : MobileInv env (mobileStep env db e) := by
  have hmove := @mobileStep_move env db e
  exact {
    secrets := mc_secrets hmove h.secrets
    digests := mc_digests hmove h.digests
    pending := mc_pending hmove h.pending
    hostIds := mc_hostIds hmove h.hostIds
    tokens := mc_tokens hmove h
    registrationTimes := mc_registrationTimes hmove h.registrationTimes
    grantHashes := mc_grantHashes hmove h.grantHashes
    grantTimes := mc_grantTimes hmove h.grantTimes
    registered := mc_registered hmove h.registered
    oneGrant := mc_oneGrant hmove h
    sessionHashes := mc_sessionHashes hmove h.sessionHashes
    sessionTimes := mc_sessionTimes hmove h.sessionTimes }

theorem mobileInv_run (h : MobileInv env db) (es : List MobileEvent) : MobileInv env (run (mobileStep env) db es) :=
  run_invariant h fun _ _ hinv => hinv.step

theorem mobileKept_run (db : MobileDb) (es : List MobileEvent) : MobileKept db (run (mobileStep env) db es) := by
  refine Always.rel always_true (I := fun _ => True) trivial ?_ MobileKept.refl fun _ _ _ => MobileKept.trans
  intro db e _ _
  exact ⟨trivial, (mobileStep_move db e).kept⟩

end Invariant

/-! ### What resolves -/

def CredentialOf (db : MobileDb) (hostId : String) : MobileCredential → Prop
  | .nativeToken token => ∀ r ∈ db.registrations, r.nativeTokenHash = env.hash token → r.hostId = hostId
  | .webGrant grant => ∃ row ∈ db.grants, row.grantHash = env.hash grant ∧ row.registrationId = hostId
  | .webSession secret => ∃ row ∈ db.sessions, row.sessionHash = env.hash secret ∧ row.registrationId = hostId

/-- No live row holds the credential's digest. -/
def CredentialDead (db : MobileDb) : MobileCredential → Prop
  | .nativeToken token => ∀ r ∈ db.registrations, r.nativeTokenHash = env.hash token → isRowRevoked r.revokedAt = true
  | .webGrant grant => ∃ row ∈ db.grants, row.grantHash = env.hash grant ∧ isRowRevoked row.revokedAt = true
  | .webSession secret => ∃ row ∈ db.sessions, row.sessionHash = env.hash secret ∧ isRowRevoked row.revokedAt = true

def NotDrawn (e : MobileEvent) : MobileCredential → Prop
  | .nativeToken token => env.hash token ∉ drawnToken env e
  | .webGrant _ => True
  | .webSession _ => True

section Resolving

variable {env} {db db' : MobileDb} {e : MobileEvent} {hostId : String} {c : MobileCredential} {now : Int}

private theorem mc_findRegistration {r : MobileRegistration} (h : findRegistrationByHostId db hostId = some r) :
    r ∈ db.registrations ∧ r.hostId = hostId := find_some h

private theorem mc_resolveNative {token host : String} (h : resolveNativeHost (db.authEnv env) token = some host) :
    ∃ r ∈ db.registrations, r.nativeTokenHash = env.hash token ∧ r.hostId = host ∧ isRowRevoked r.revokedAt = false := by
  unfold resolveNativeHost at h
  split at h
  · cases h
  rename_i row hf
  obtain ⟨hmem, hhash⟩ := find_some hf
  obtain ⟨r, hr, rfl⟩ := List.mem_map.1 hmem
  split at h
  · cases h
  · rename_i hlive
    exact ⟨r, hr, hhash, Option.some.inj h, by simpa using hlive⟩

theorem resolveGrant_some {grant : String} {row : WebGrant} {r : MobileRegistration}
    (h : resolveGrant env db grant = some (row, r)) :
    row ∈ db.grants ∧ row.grantHash = env.hash grant ∧ isRowRevoked row.revokedAt = false ∧
      r ∈ db.registrations ∧ r.hostId = row.registrationId ∧ isRowRevoked r.revokedAt = false := by
  unfold resolveGrant at h
  split at h
  · cases h
  rename_i grantRow hf
  obtain ⟨hmem, hhash⟩ := find_some hf
  split at h
  · cases h
  rename_i hgrantLive
  split at h
  · cases h
  rename_i registration hreg
  obtain ⟨hr, hhost⟩ := mc_findRegistration hreg
  split at h
  · cases h
  rename_i hlive
  cases h
  exact ⟨hmem, hhash, by simpa using hgrantLive, hr, hhost, by simpa using hlive⟩

private theorem mc_resolveSession {secret : String} {live : LiveMobileSession}
    (h : resolveLiveSession (db.authEnv env) now secret = some live) :
    ∃ session ∈ db.sessions, session.sessionHash = env.hash secret ∧ isRowRevoked session.revokedAt = false ∧
      ∃ r ∈ db.registrations, r.hostId = session.registrationId ∧ r.hostId = live.registration.hostId ∧
        isRowRevoked r.revokedAt = false := by
  unfold resolveLiveSession at h
  split at h
  · cases h
  rename_i row hf
  obtain ⟨hmem, hhash⟩ := find_some hf
  obtain ⟨session, hsess, rfl⟩ := List.mem_map.1 hmem
  split at h
  · cases h
  rename_i hopen
  split at h
  · cases h
  rename_i registration hre
  obtain ⟨hregMem, hhost⟩ := find_some hre
  obtain ⟨r, hr, rfl⟩ := List.mem_map.1 hregMem
  split at h
  · cases h
  rename_i hlive
  split at h
  · cases h
  split at h
  · cases h
  cases h
  refine ⟨session, hsess, hhash, ?_, r, hr, hhost, rfl, by simpa using hlive⟩
  simp only [not_or, Bool.not_eq_true] at hopen
  exact hopen.1

theorem resolveCredential_live {host : String} (h : resolveCredential env db now c = some host) :
    ∃ r ∈ db.registrations, r.hostId = host ∧ isRowRevoked r.revokedAt = false := by
  cases c with
  | nativeToken token =>
    obtain ⟨r, hr, -, hhost, hlive⟩ := mc_resolveNative h
    exact ⟨r, hr, hhost, hlive⟩
  | webGrant grant =>
    obtain ⟨⟨row, r⟩, hres, hhost⟩ := Option.map_eq_some_iff.1 h
    obtain ⟨-, -, -, hr, -, hlive⟩ := resolveGrant_some hres
    exact ⟨r, hr, hhost, hlive⟩
  | webSession secret =>
    obtain ⟨live, hres, hhost⟩ := Option.map_eq_some_iff.1 h
    obtain ⟨-, -, -, -, r, hr, -, hsame, hlive⟩ := mc_resolveSession hres
    exact ⟨r, hr, hsame.trans hhost, hlive⟩

theorem MobileInv.dead (h : MobileInv env db) (hdead : CredentialDead env db c) : resolveCredential env db now c = none := by
  cases hres : resolveCredential env db now c with
  | none => rfl
  | some host =>
    exfalso
    cases c with
    | nativeToken token =>
      obtain ⟨r, hr, hhash, -, hlive⟩ := mc_resolveNative hres
      rw [hdead r hr hhash] at hlive
      cases hlive
    | webGrant grant =>
      obtain ⟨⟨row, r⟩, hre, -⟩ := Option.map_eq_some_iff.1 hres
      obtain ⟨hrow, hhash, hlive, -⟩ := resolveGrant_some hre
      obtain ⟨dead, hmem, hdeadHash, hrev⟩ := hdead
      rw [eq_of_key h.grantHashes hrow hmem (hhash.trans hdeadHash.symm), hrev] at hlive
      cases hlive
    | webSession secret =>
      obtain ⟨live, hre, -⟩ := Option.map_eq_some_iff.1 hres
      obtain ⟨row, hrow, hhash, hlive, -⟩ := mc_resolveSession hre
      obtain ⟨dead, hmem, hdeadHash, hrev⟩ := hdead
      rw [eq_of_key h.sessionHashes hrow hmem (hhash.trans hdeadHash.symm), hrev] at hlive
      cases hlive

theorem MobileInv.resolves_own (h : MobileInv env db) (hof : CredentialOf env db hostId c) {host : String}
    (hres : resolveCredential env db now c = some host) : host = hostId := by
  cases c with
  | nativeToken token =>
    obtain ⟨r, hr, hhash, hhost, -⟩ := mc_resolveNative hres
    exact hhost.symm.trans (hof r hr hhash)
  | webGrant grant =>
    obtain ⟨⟨row, r⟩, hre, hhost⟩ := Option.map_eq_some_iff.1 hres
    obtain ⟨hrow, hhash, -, -, hsame, -⟩ := resolveGrant_some hre
    obtain ⟨own, hmem, hownHash, hown⟩ := hof
    rw [eq_of_key h.grantHashes hrow hmem (hhash.trans hownHash.symm)] at hsame
    exact hhost.symm.trans (hsame.trans hown)
  | webSession secret =>
    obtain ⟨live, hre, hhost⟩ := Option.map_eq_some_iff.1 hres
    obtain ⟨row, hrow, hhash, -, r, -, hsame, hlive, -⟩ := mc_resolveSession hre
    obtain ⟨own, hmem, hownHash, hown⟩ := hof
    rw [eq_of_key h.sessionHashes hrow hmem (hhash.trans hownHash.symm)] at hsame
    exact hhost.symm.trans (hlive.symm.trans (hsame.trans hown))

/-! ### How credentials come and go -/

private theorem mc_token (hmove : MobileMove env db e db') :
    ∀ r' ∈ db'.registrations, r'.nativeTokenHash ∉ drawnToken env e →
      ∃ r ∈ db.registrations, r.hostId = r'.hostId ∧ r.nativeTokenHash = r'.nativeTokenHash ∧
        (isRowRevoked r.revokedAt = true → isRowRevoked r'.revokedAt = true) := by
  have hdb : ∀ r' ∈ db.registrations, r'.nativeTokenHash ∉ drawnToken env e →
      ∃ r ∈ db.registrations, r.hostId = r'.hostId ∧ r.nativeTokenHash = r'.nativeTokenHash ∧
        (isRowRevoked r.revokedAt = true → isRowRevoked r'.revokedAt = true) :=
    fun r hr _ => ⟨r, hr, rfl, rfl, id⟩
  cases hmove with
  | same | enrollNew _ _ _ | enrollReconnect _ _ _ | openSession _ _ | logout => exact hdb
  | install _ =>
    intro r' hr' hd
    rcases List.mem_append.1 hr' with hold | hnew
    · exact hdb r' hold hd
    · rw [List.mem_singleton.1 hnew] at hd
      exact absurd (.head _) hd
  | rotate _ =>
    intro r' hr' hd
    obtain ⟨r, hr, rfl⟩ := Rows.mem_update.1 hr'
    split at hd
    · exact absurd (.head _) hd
    rename_i hg
    rw [if_neg hg]
    exact hdb r hr hd
  | checkIn =>
    intro r' hr' _
    obtain ⟨r, hr, rfl⟩ := Rows.mem_update.1 hr'
    refine ⟨r, hr, ?_⟩
    split <;> exact ⟨rfl, rfl, id⟩
  | revoke =>
    intro r' hr' _
    obtain ⟨r, hr, rfl⟩ := Rows.mem_update.1 hr'
    refine ⟨r, hr, ?_⟩
    split
    · exact ⟨rfl, rfl, fun _ => isRowRevoked_now _⟩
    · exact ⟨rfl, rfl, id⟩

theorem CredentialOf.step (h : CredentialOf env db hostId c) (hd : NotDrawn env e c) :
    CredentialOf env (mobileStep env db e) hostId c := by
  have hmove := @mobileStep_move env db e
  cases c with
  | nativeToken token =>
    intro r' hr' hhash
    obtain ⟨r, hr, hhost, hto, -⟩ := mc_token hmove r' hr' (hhash ▸ hd)
    exact hhost.symm.trans (h r hr (hto.trans hhash))
  | webGrant grant =>
    obtain ⟨row, hrow, hhash, hown⟩ := h
    obtain ⟨row', hrow', hhash', hown', -⟩ := hmove.kept.grants row hrow
    exact ⟨row', hrow', hhash'.trans hhash, hown'.trans hown⟩
  | webSession secret =>
    obtain ⟨row, hrow, hhash, hown⟩ := h
    obtain ⟨row', hrow', hhash', hown', -⟩ := hmove.kept.sessions row hrow
    exact ⟨row', hrow', hhash'.trans hhash, hown'.trans hown⟩

theorem CredentialDead.step (h : CredentialDead env db c) (hd : NotDrawn env e c) :
    CredentialDead env (mobileStep env db e) c := by
  have hmove := @mobileStep_move env db e
  cases c with
  | nativeToken token =>
    intro r' hr' hhash
    obtain ⟨r, hr, -, hto, hrev⟩ := mc_token hmove r' hr' (hhash ▸ hd)
    exact hrev (h r hr (hto.trans hhash))
  | webGrant grant =>
    obtain ⟨row, hrow, hhash, hrev⟩ := h
    obtain ⟨row', hrow', hhash', -, hrev'⟩ := hmove.kept.grants row hrow
    exact ⟨row', hrow', hhash'.trans hhash, hrev' hrev⟩
  | webSession secret =>
    obtain ⟨row, hrow, hhash, hrev⟩ := h
    obtain ⟨row', hrow', hhash', -, hrev'⟩ := hmove.kept.sessions row hrow
    exact ⟨row', hrow', hhash'.trans hhash, hrev' hrev⟩

theorem CredentialOf.run {es : List MobileEvent} (h : CredentialOf env db hostId c) (hd : ∀ e ∈ es, NotDrawn env e c) :
    CredentialOf env (run (mobileStep env) db es) hostId c := by
  have hall : Always (mobileStep env) (fun _ e => NotDrawn env e c) db es := always_of_forall hd
  exact hall.invariant (I := fun db => CredentialOf env db hostId c) h fun _ _ hof hnot => hof.step hnot

theorem CredentialDead.run {es : List MobileEvent} (h : CredentialDead env db c) (hd : ∀ e ∈ es, NotDrawn env e c) :
    CredentialDead env (run (mobileStep env) db es) c := by
  have hall : Always (mobileStep env) (fun _ e => NotDrawn env e c) db es := always_of_forall hd
  exact hall.invariant (I := fun db => CredentialDead env db c) h fun _ _ hdead hnot => hdead.step hnot

theorem credentialsIssued_live (hiss : (hostId, c) ∈ credentialsIssued env db e) :
    CredentialOf env (mobileStep env db e) hostId c ∧
    (∀ token, c = .nativeToken token → env.hash token ∈ drawnToken env e) ∧
    ∃ r ∈ (mobileStep env db e).registrations, r.hostId = hostId ∧ isRowRevoked r.revokedAt = false := by
  cases e with
  | exchange request draws now =>
    simp only [credentialsIssued] at hiss
    rcases @exchange_cases env db request draws now.val with
      ⟨-, hno⟩ | ⟨row, response, rotates, ids, db', hres, hto, hgr, hmove⟩
    · split at hiss
      · rename_i hout; exact absurd hout (hno _ _ _ _)
      · cases hiss
    rw [hres] at hiss
    simp only [List.mem_cons, Prod.mk.injEq, List.not_mem_nil, or_false] at hiss
    have hstep : mobileStep env db (.exchange request draws now) = db' := by simp only [mobileStep, hres]
    have hhost : hostId = row.hostId := by rcases hiss with ⟨hh, -⟩ | ⟨hh, -⟩ <;> exact hh
    have hfr : (freshGrant env draws row.hostId row.webAdmin now.val) ∈ db'.grants := by
      rcases hmove with ⟨-, -, rfl⟩ | ⟨-, -, -, hosts, rfl⟩ <;>
        exact List.mem_append_right _ (.head _)
    rw [hstep, hhost]
    refine ⟨?_, ?_, ?_⟩
    · rcases hiss with ⟨-, rfl⟩ | ⟨-, rfl⟩
      · -- the drawn token is in the host's row only
        rw [hto]
        rcases hmove with ⟨-, hinst, rfl⟩ | ⟨-, hrot, -, hosts, rfl⟩
        · intro r hr hhash
          rcases List.mem_append.1 hr with hold | hnew
          · exact absurd hhash (hinst.newToken r hold)
          · rw [List.mem_singleton.1 hnew]; rfl
        intro r' hr' hhash
        obtain ⟨r, hr, rfl⟩ := Rows.mem_update.1 hr'
        by_cases hg : isRotatable row.hostId r = true
        · rw [if_pos hg]
          exact (isRotatable_iff.1 hg).1
        rw [if_neg hg] at hhash ⊢
        by_contra hne
        exact hrot.newToken r hr hne hhash
      · refine ⟨_, hfr, ?_, rfl⟩
        rw [hgr]
        rfl
    · rintro token rfl
      rcases hiss with ⟨-, heq⟩ | ⟨-, heq⟩
      · cases heq
        rw [hto]
        exact .head _
      · cases heq
    · rcases hmove with ⟨-, hinst, rfl⟩ | ⟨-, hrot, -, hosts, rfl⟩
      · exact ⟨_, List.mem_append_right _ (.head _), rfl, rfl⟩
      · obtain ⟨r, hr, hg⟩ := hrot.live
        refine ⟨_, mem_update_of_mem hr, ?_⟩
        rw [if_pos hg]
        refine ⟨(isRotatable_iff.1 hg).1, ?_⟩
        rcases (isRotatable_iff.1 hg).2 with hnull | hzero
        · show isRowRevoked r.revokedAt = false
          rw [hnull]; rfl
        · show isRowRevoked r.revokedAt = false
          rw [hzero]; rfl
  | bootstrap grant sessionSecret sessionId now =>
    simp only [credentialsIssued] at hiss
    rcases @bootstrap_cases env db grant sessionSecret sessionId now.val with
      ⟨-, hno⟩ | ⟨grantRow, r, response, hre, hnew, hres⟩
    · split at hiss
      · rename_i hout; exact absurd hout (hno _ _ _)
      · cases hiss
    rw [hres] at hiss
    simp only [List.mem_singleton, Prod.mk.injEq] at hiss
    obtain ⟨rfl, rfl⟩ := hiss
    have hstep : mobileStep env db (.bootstrap grant sessionSecret sessionId now) =
        { db with sessions := db.sessions ++ [freshSession env sessionSecret sessionId grantRow r now.val] } := by
      simp only [mobileStep, hres]
    rw [hstep]
    refine ⟨⟨_, List.mem_append_right _ (.head _), rfl, rfl⟩, ?_, ?_⟩
    · intro token heq; cases heq
    · obtain ⟨-, -, -, hr, -, hlive⟩ := resolveGrant_some hre
      exact ⟨r, hr, rfl, hlive⟩
  | createEnrollment | createReconnect | checkIn | revoke | logout => cases hiss

theorem MobileInv.reconnect (h : MobileInv env db) (hrc : ReconnectsHost env db hostId e)
    (hof : CredentialOf env db hostId c) (hd : NotDrawn env e c) : CredentialDead env (mobileStep env db e) c := by
  cases e with
  | exchange request draws now =>
    obtain ⟨response, ids, hout⟩ := hrc
    rcases @exchange_cases env db request draws now.val with
      ⟨-, hnot⟩ | ⟨row, response', rotates, ids', db', hres, -, -, hmove⟩
    · exact absurd hout (hnot _ _ _ _)
    rw [hres] at hout
    simp only [Option.some.injEq, ExchangeOutcome.ok.injEq] at hout
    obtain ⟨-, hhost, hro, -⟩ := hout
    rcases hmove with ⟨hno, -, -⟩ | ⟨-, hrotates, -, hosts, rfl⟩
    · rw [hno] at hro; cases hro
    have hstep : mobileStep env db (.exchange request draws now) = rotated env db hosts request draws now.val row := by
      simp only [mobileStep, hres]
    rw [hstep]
    subst hhost
    cases c with
    | nativeToken token =>
      -- only the host's row held the token, and it holds the drawn one now
      intro r' hr' hhash
      obtain ⟨r, hr, rfl⟩ := Rows.mem_update.1 hr'
      by_cases hg : isRotatable row.hostId r = true
      · rw [if_pos hg] at hhash
        exact absurd (List.mem_singleton.2 hhash.symm) hd
      rw [if_neg hg] at hhash ⊢
      obtain ⟨live, hlive, hrot⟩ := hrotates.live
      have heq : r = live :=
        h.registration_eq hr hlive ((hof r hr hhash).trans (isRotatable_iff.1 hrot).1.symm)
      rw [heq] at hg
      exact absurd hrot hg
    | webGrant grant =>
      obtain ⟨grantRow, hmem, hhash, hown⟩ := hof
      refine ⟨_, List.mem_append_left _ (mem_update_of_mem hmem), ?_⟩
      split
      · exact ⟨hhash, isRowRevoked_now now⟩
      rename_i hg
      refine ⟨hhash, ?_⟩
      rcases h.grantTimes grantRow hmem with hnull | hrev
      · simp [hown, hnull] at hg
      · exact hrev
    | webSession secret =>
      obtain ⟨session, hmem, hhash, hown⟩ := hof
      refine ⟨_, mem_update_of_mem hmem, ?_⟩
      split
      · exact ⟨hhash, isRowRevoked_now now⟩
      rename_i hg
      refine ⟨hhash, ?_⟩
      rcases h.sessionTimes session hmem with hnull | hrev
      · simp [isOpenSession, hown, hnull] at hg
      · exact hrev
  | createEnrollment | createReconnect | bootstrap | checkIn | revoke | logout => cases hrc

theorem revokes_revoked (hre : RevokesHost db hostId e) :
    ∃ r ∈ (mobileStep env db e).registrations, r.hostId = hostId ∧ isRowRevoked r.revokedAt = true := by
  cases e with
  | revoke revoked reason now =>
    obtain ⟨rfl, hf⟩ := hre
    simp only [mobileStep]
    unfold revokeMobileRegistration at hf ⊢
    split at hf
    · cases hf
    rename_i r hr
    obtain ⟨hmem, hhost⟩ := mc_findRegistration hr
    by_cases hrev : isRowRevoked r.revokedAt = true
    · rw [if_pos hrev]
      exact ⟨r, hmem, hhost, hrev⟩
    rw [if_neg hrev]
    refine ⟨_, mem_update_of_mem hmem, ?_⟩
    rw [if_pos (by simpa using hhost)]
    exact ⟨hhost, isRowRevoked_now now⟩
  | createEnrollment | createReconnect | exchange | bootstrap | checkIn | logout => cases hre

theorem revoked_forever
    (hrev : ∃ r ∈ db.registrations, r.hostId = hostId ∧ isRowRevoked r.revokedAt = true) (es : List MobileEvent) :
    ∃ r ∈ (run (mobileStep env) db es).registrations, r.hostId = hostId ∧ isRowRevoked r.revokedAt = true := by
  obtain ⟨r, hr, hhost, hrow⟩ := hrev
  obtain ⟨r', hr', hhost', hrow'⟩ := (mobileKept_run db es).registrations r hr
  exact ⟨r', hr', hhost'.trans hhost, hrow' hrow⟩

theorem MobileInv.not_resolves (h : MobileInv env db)
    (hrev : ∃ r ∈ db.registrations, r.hostId = hostId ∧ isRowRevoked r.revokedAt = true) :
    resolveCredential env db now c ≠ some hostId := by
  intro hres
  obtain ⟨r, hr, hhost, hrow⟩ := hrev
  obtain ⟨live, hlive, hli, hopen⟩ := resolveCredential_live hres
  rw [h.registration_eq hlive hr (hli.trans hhost.symm), hrow] at hopen
  cases hopen

end Resolving

section Runs

variable {env} {db : MobileDb} {e : MobileEvent}

private structure SecretUsed (secret : String) (db : MobileDb) (exchanged : List String) : Prop where
  inv : MobileInv env db
  once : exchanged.count secret ≤ 1
  used : secret ∈ exchanged → ∃ row ∈ db.enrollments, row.secretHash = env.hash secret ∧ row.status ≠ .pending

private theorem mc_exchanged {secret : String} {exchanged : List String}
    (h : @SecretUsed env secret db exchanged) :
    @SecretUsed env secret (mobileStep env db e) (exchanged ++ exchangedSecrets env db e) := by
  have hinv := h.inv.step (e := e)
  -- an enrollment that is used stays used
  have hkept : secret ∈ exchanged →
      ∃ row ∈ (mobileStep env db e).enrollments, row.secretHash = env.hash secret ∧ row.status ≠ .pending := by
    intro hmem
    obtain ⟨row, hrow, hhash, hst⟩ := h.used hmem
    obtain ⟨row', hrow', hhash', hst'⟩ := (mobileStep_move db e).kept.enrollments row hrow
    exact ⟨row', hrow', hhash'.trans hhash, hst' hst⟩
  have hnone : exchangedSecrets env db e = [] →
      @SecretUsed env secret (mobileStep env db e) (exchanged ++ exchangedSecrets env db e) := by
    intro hem
    rw [hem, List.append_nil]
    exact ⟨hinv, h.once, hkept⟩
  cases e with
  | exchange request draws now =>
    rcases @exchange_cases env db request draws now.val with
      ⟨-, hno⟩ | ⟨row, response, rotates, ids, db', hres, -, -, hmove⟩
    · refine hnone ?_
      simp only [exchangedSecrets]
      split
      · rename_i hout; exact absurd hout (hno _ _ _ _)
      · rfl
    have hwr : exchangedSecrets env db (.exchange request draws now) = [request.secret] := by
      simp only [exchangedSecrets, hres]
    have hcl : ClaimedRow env db request now.val row := by
      rcases hmove with ⟨-, hinst, -⟩ | ⟨-, hrot, -⟩
      · exact hinst.toClaimedRow
      · exact hrot.toClaimedRow
    have hrows : (mobileStep env db (.exchange request draws now)).enrollments = claimedEnrollments db request now.val := by
      simp only [mobileStep, hres]
      rcases hmove with ⟨-, -, rfl⟩ | ⟨-, -, -, hosts, rfl⟩ <;> rfl
    -- the row that was claimed is the secret's
    have hhash : row.secretHash = env.hash request.secret := by
      obtain ⟨drawn, hd⟩ := h.inv.digests row hcl.found
      have hequ := hcl.secret
      rw [hd] at hequ ⊢
      exact congrArg Subtype.val ((hashesEqual_iff _ _).1 hequ).symm
    have hpend : row.status = .pending := by
      have hcla := hcl.claimable
      simp only [isClaimable, Bool.and_eq_true, beq_iff_eq] at hcla
      exact hcla.1.2
    rw [hwr]
    by_cases hse : request.secret = secret
    · have hfi : secret ∉ exchanged := by
        intro hmem
        obtain ⟨used, hused, husedHash, hst⟩ := h.used hmem
        have heq : row = used :=
          eq_of_key h.inv.secrets hcl.found hused (by rw [hhash, husedHash, hse])
        rw [heq] at hpend
        exact hst hpend
      refine ⟨hinv, ?_, ?_⟩
      · rw [List.count_append, List.count_eq_zero_of_not_mem hfi, hse]
        simp
      intro _
      rw [hrows]
      refine ⟨_, mem_update_of_mem hcl.found, ?_⟩
      rw [if_pos hcl.claimable]
      exact ⟨hse ▸ hhash, by simp⟩
    · refine ⟨hinv, ?_, ?_⟩
      · rw [List.count_append, List.count_eq_zero_of_not_mem (a := secret) (l := [request.secret])]
        · exact h.once
        · exact fun hmem => hse (List.mem_singleton.1 hmem).symm
      · intro hmem
        rcases List.mem_append.1 hmem with hold | hnew
        · exact hkept hold
        · exact absurd (List.mem_singleton.1 hnew).symm hse
  | createEnrollment | createReconnect | bootstrap | checkIn | revoke | logout => exact hnone rfl

private theorem mc_drawnOnce {before after : List MobileEvent} {c : MobileCredential}
    (honce : DrawnOnce env (before ++ e :: after) c)
    (hd : ∀ token, c = .nativeToken token → env.hash token ∈ drawnToken env e) : ∀ e' ∈ after, NotDrawn env e' c := by
  intro e' he'
  cases c with
  | nativeToken token =>
    intro hmem
    have hfi : 0 < (drawnToken env e).count (env.hash token) := List.count_pos_iff.2 (hd token rfl)
    have hla : 0 < (after.flatMap (drawnToken env)).count (env.hash token) :=
      List.count_pos_iff.2 (List.mem_flatMap.2 ⟨e', he', hmem⟩)
    simp only [DrawnOnce, List.flatMap_append, List.flatMap_cons, List.count_append] at honce
    omega
  | webGrant grant | webSession secret => trivial

variable (env)

/-- Along every run of the mobile store: a registration has one live grant while it is not revoked and none after; a QR
secret is exchanged once; a host has at most one pending reconnect; what was issued to a host before a reconnect does
not resolve after it; and after a revocation nothing resolves to the host, and nothing issued to it resolves. -/
theorem mobile_credentials_safe (hosts : List MobileHostRow) (es : List MobileEvent) :
    let start := emptyMobileDb hosts
    let db := run (mobileStep env) start es
    (∀ r ∈ db.registrations, liveGrants db r.hostId = if isRowRevoked r.revokedAt = true then 0 else 1) ∧
    (∀ secret, (outputs (mobileStep env) (exchangedSecrets env) start es).count secret ≤ 1) ∧
    (∀ hostId, pendingReconnects db hostId ≤ 1) ∧
    (∀ before e after hostId, es = before ++ e :: after →
      ReconnectsHost env (run (mobileStep env) start before) hostId e →
      ∀ c, (hostId, c) ∈ outputs (mobileStep env) (credentialsIssued env) start before → DrawnOnce env es c →
        ∀ now, resolveCredential env db now c = none) ∧
    (∀ before e after hostId, es = before ++ e :: after → RevokesHost (run (mobileStep env) start before) hostId e →
      (∀ c now, resolveCredential env db now c ≠ some hostId) ∧
      ∀ c, (hostId, c) ∈ outputs (mobileStep env) (credentialsIssued env) start es → DrawnOnce env es c →
        ∀ now, resolveCredential env db now c = none) := by
  intro start db
  have hst : MobileInv env start := mobileInv_empty hosts
  have hinv : MobileInv env db := mobileInv_run hst es
  refine ⟨hinv.oneGrant, ?_, hinv.pending, ?_, ?_⟩
  · intro secret
    have hused : @SecretUsed env secret db ([] ++ outputs (mobileStep env) (exchangedSecrets env) start es) :=
      outputs_invariant ⟨hst, by simp, by simp⟩ fun _ _ _ h => mc_exchanged h
    exact hused.once
  · rintro before e after hostId rfl hrc c hiss honce now
    obtain ⟨earlier, issuing, later, rfl, hout⟩ := mem_outputs hiss
    obtain ⟨hof, hd, -⟩ := credentialsIssued_live hout
    have hnot : ∀ e' ∈ later ++ e :: after, NotDrawn env e' c := by
      refine @mc_drawnOnce _ issuing earlier _ _ ?_ hd
      simpa using honce
    -- it is the host's until the reconnect, and dead from there on
    have hbef : CredentialOf env (run (mobileStep env) start (earlier ++ issuing :: later)) hostId c := by
      rw [run_append]
      exact hof.run fun e' he' => hnot e' (List.mem_append_left _ he')
    have hdead := (mobileInv_run hst _).reconnect hrc hbef
      (hnot e (List.mem_append_right _ (.head _)))
    have hend := hdead.run fun e' he' => hnot e' (List.mem_append_right _ (.tail _ he'))
    refine hinv.dead ?_
    show CredentialDead env (run (mobileStep env) start _) c
    rw [run_append]
    exact hend
  · rintro before e after hostId heq hre
    have hrev : ∃ r ∈ db.registrations, r.hostId = hostId ∧ isRowRevoked r.revokedAt = true := by
      show ∃ r ∈ (run (mobileStep env) start es).registrations, _
      rw [heq, run_append]
      exact revoked_forever (revokes_revoked hre) after
    refine ⟨fun c now => hinv.not_resolves hrev, ?_⟩
    intro c hiss honce now
    obtain ⟨earlier, issuing, later, rfl, hout⟩ := mem_outputs hiss
    obtain ⟨hof, hd, -⟩ := credentialsIssued_live hout
    have hnot := mc_drawnOnce honce hd
    have hend : CredentialOf env db hostId c := by
      show CredentialOf env (run (mobileStep env) start _) hostId c
      rw [run_append]
      exact hof.run hnot
    cases hres : resolveCredential env db now c with
    | none => rfl
    | some host =>
      rw [hinv.resolves_own hend hres] at hres
      exact absurd hres (hinv.not_resolves hrev)

end Runs

end System

/-! ### A reconnected phone -/

private theorem mc_exampleDigit (k : Fin 16) :
    (('0' ≤ "0123456789abcdef".toList.getD k.val '0' && "0123456789abcdef".toList.getD k.val '0' ≤ '9') ||
      ('a' ≤ "0123456789abcdef".toList.getD k.val '0' && "0123456789abcdef".toList.getD k.val '0' ≤ 'f')) = true := by
  revert k
  decide +kernel

def exampleHashSecret (secret : String) : Sha256Hex :=
  let n := secret.toList.foldl (fun n c => 256 * n + c.toNat) 1
  ⟨String.ofList ((List.range 64).map fun i => "0123456789abcdef".toList.getD (n / 16 ^ i % 16) '0'), by
    simp only [isSha256Hex, String.toList_ofList, List.length_map, List.length_range, beq_self_eq_true, Bool.true_and,
      List.all_eq_true, List.mem_map]
    rintro c ⟨i, -, rfl⟩
    exact mc_exampleDigit ⟨n / 16 ^ i % 16, Nat.mod_lt _ (by decide)⟩⟩

def exampleMobileEnv : MobileEnv where
  hashSecret := exampleHashSecret
  deriveCsrfToken := fun secret => secret
  canonicalOrigin := some "https://fleet.example.com"

def pairedPhone : List MobileEvent := [
  .createEnrollment "e1" "mob-1" "qr1" "android" true ⟨1, by decide⟩,
  .exchange ⟨"e1", "qr1", "Phone", "1.0"⟩ ⟨"token1", "grant1", "g1"⟩ ⟨2, by decide⟩,
  .bootstrap "grant1" "session1" "s1" ⟨3, by decide⟩,
  .createReconnect "e2" "qr2" "mob-1" ⟨4, by decide⟩]

def phoneReconnected : MobileEvent := .exchange ⟨"e2", "qr2", "Phone", "1.1"⟩ ⟨"token2", "grant2", "g2"⟩ ⟨5, by decide⟩

theorem mobile_credentials_safe_reconnected :
    let db := run (mobileStep exampleMobileEnv) (emptyMobileDb []) (pairedPhone ++ [phoneReconnected])
    resolveCredential exampleMobileEnv db 6 (.nativeToken "token1") = none ∧
    resolveCredential exampleMobileEnv db 6 (.webGrant "grant1") = none ∧
    resolveCredential exampleMobileEnv db 6 (.webSession "session1") = none ∧
    resolveCredential exampleMobileEnv db 6 (.nativeToken "token2") = some "mob-1" := by
  intro db
  have hsafe := mobile_credentials_safe exampleMobileEnv [] (pairedPhone ++ [phoneReconnected])
  have hfc : (∀ c ∈ [.nativeToken "token1", .webGrant "grant1", .webSession "session1"], ("mob-1", c) ∈
        outputs (mobileStep exampleMobileEnv) (credentialsIssued exampleMobileEnv) (emptyMobileDb []) pairedPhone) ∧
      ((pairedPhone ++ [phoneReconnected]).flatMap (drawnToken exampleMobileEnv)).count (exampleMobileEnv.hash "token1") ≤ 1 ∧
      resolveCredential exampleMobileEnv db 6 (.nativeToken "token2") = some "mob-1" ∧
      (exchangeMobileEnrollment exampleMobileEnv (run (mobileStep exampleMobileEnv) (emptyMobileDb []) pairedPhone)
        ⟨"e2", "qr2", "Phone", "1.1"⟩ ⟨"token2", "grant2", "g2"⟩ 5).2 =
          some (.ok ⟨"mob-1", "token2", "grant2", "https://fleet.example.com", "Phone", "android"⟩ "mob-1" true ["s1"]) := by
    decide +kernel
  obtain ⟨hiss, honce, hres, hex⟩ := hfc
  have hre := hsafe.2.2.2.1 pairedPhone phoneReconnected [] "mob-1" rfl ⟨_, _, hex⟩
  refine ⟨?_, ?_, ?_, hres⟩
  · exact hre (.nativeToken "token1") (hiss _ (by simp)) honce 6
  · exact hre (.webGrant "grant1") (hiss _ (by simp)) trivial 6
  · exact hre (.webSession "session1") (hiss _ (by simp)) trivial 6

end LamaSync
