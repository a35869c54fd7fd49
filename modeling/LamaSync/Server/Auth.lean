import LamaSync.Core.Text
import LamaSync.Server.Principal

/-!
# The authentication boundary

`getAuthPlugin` installs one hook that sees every request before routing.  It either answers the request itself or
lets it continue, with or without a principal; the route handlers then ask `principalOf` who is calling.

The digests, the configured origin and the master key are parts of the environment, the credential tables are lists
of rows.  The hook only reads them, but for `last_used_at`, which no decision depends on and which is left out.
-/

namespace LamaSync

/-- What the hook reads of a request.  `header` is `headers.get` with the name in lower case. -/
structure Request where
  pathname : String
  method : String
  header : String → Option String

inductive HookReply where
  | answer (status : Nat) (error : String)
  /-- The request continues to its route, with the attached principal. -/
  | next (principal : Option AuthPrincipal)
  deriving DecidableEq

structure ApiKeyRow where
  id : String
  kind : String
  hostId : Option String
  tokenHash : String
  revokedAt : Option Int

structure MobileRegistrationRow where
  hostId : String
  clientType : String
  displayName : String
  nativeTokenHash : String
  revokedAt : Option Int

structure WebGrantRow where
  id : String
  revokedAt : Option Int

structure WebSessionRow where
  id : String
  sessionHash : String
  registrationId : String
  grantId : String
  admin : Int
  expiresAt : Int
  revokedAt : Option Int

structure AuthEnv where
  masterKey : String
  hashSecret : String → String
  deriveCsrfToken : String → String
  canonicalOrigin : Option String
  apiKeys : List ApiKeyRow
  registrations : List MobileRegistrationRow
  grants : List WebGrantRow
  sessions : List WebSessionRow

def isRowRevoked : Option Int → Bool
  | some revokedAt => 0 < revokedAt
  | none => false

structure RoutePattern where
  method : String
  pattern : String

def authExemptRoutes : List RoutePattern := [
  ⟨"POST", "/api/v1/pairing/*/exchange"⟩,
  ⟨"POST", "/api/v1/mobile/enrollments/*/exchange"⟩,
  ⟨"POST", "/api/v1/mobile/web-session"⟩]

def deviceAllowedRoutes : List RoutePattern := [
  ⟨"POST", "/api/v1/register"⟩,
  ⟨"GET", "/api/v1/hosts/*"⟩,
  ⟨"GET", "/api/v1/actions/pending"⟩,
  ⟨"GET", "/api/v1/actions/taken"⟩,
  ⟨"POST", "/api/v1/actions/*/lease"⟩,
  ⟨"POST", "/api/v1/actions/*/complete"⟩,
  ⟨"POST", "/api/v1/report/health"⟩,
  ⟨"POST", "/api/v1/report"⟩,
  ⟨"POST", "/api/v1/sync-progress"⟩,
  ⟨"POST", "/api/v1/folder-health"⟩,
  ⟨"POST", "/api/v1/folder-plans"⟩,
  ⟨"GET", "/api/v1/folder-plans/*"⟩,
  ⟨"GET", "/api/v1/seed-plans/*"⟩,
  ⟨"GET", "/api/v1/seed-jobs/*"⟩,
  ⟨"POST", "/api/v1/seed-jobs/*/progress"⟩,
  ⟨"POST", "/api/v1/seed-jobs/*/archive"⟩,
  ⟨"POST", "/api/v1/seed-jobs/*/lease"⟩,
  ⟨"POST", "/api/v1/seed-jobs/*/complete"⟩,
  ⟨"GET", "/api/v1/config/*"⟩,
  ⟨"POST", "/api/v1/operations/acquire"⟩,
  ⟨"POST", "/api/v1/operations/heartbeat"⟩,
  ⟨"POST", "/api/v1/operations/release"⟩,
  ⟨"GET", "/api/v1/operations/locks"⟩,
  ⟨"GET", "/api/v1/conflicts"⟩,
  ⟨"POST", "/api/v1/conflicts"⟩,
  ⟨"POST", "/api/v1/conflicts/*/resolve"⟩,
  ⟨"GET", "/api/v1/restic/snapshots"⟩,
  ⟨"POST", "/api/v1/restic/snapshots"⟩,
  ⟨"GET", "/api/v1/restic/restore"⟩,
  ⟨"POST", "/api/v1/restic/restore"⟩,
  ⟨"POST", "/api/v1/restic/restore/*/status"⟩,
  ⟨"GET", "/api/v1/apps/protections"⟩,
  ⟨"GET", "/api/v1/apps/protections/*"⟩,
  ⟨"GET", "/api/v1/apps/protections/*/snapshots"⟩,
  ⟨"POST", "/api/v1/apps/protections/*/snapshots"⟩,
  ⟨"GET", "/api/v1/apps/snapshots/*"⟩,
  ⟨"GET", "/api/v1/apps/snapshots/*/download"⟩,
  ⟨"GET", "/api/v1/release/latest"⟩,
  ⟨"GET", "/api/v1/health"⟩,
  ⟨"GET", "/api/v1/auth/me"⟩,
  ⟨"PATCH", "/api/v1/folders/*/assign/*"⟩]

def mobileAllowedRoutes : List RoutePattern := [
  ⟨"GET", "/api/v1/mobile/me"⟩,
  ⟨"POST", "/api/v1/mobile/check-in"⟩,
  ⟨"GET", "/api/v1/mobile/destinations"⟩,
  ⟨"POST", "/api/v1/mobile/uploads"⟩,
  ⟨"GET", "/api/v1/mobile/uploads"⟩,
  ⟨"GET", "/api/v1/mobile/uploads/*"⟩,
  ⟨"PUT", "/api/v1/mobile/uploads/*/chunks"⟩,
  ⟨"POST", "/api/v1/mobile/uploads/*/finalize"⟩,
  ⟨"POST", "/api/v1/mobile/uploads/*/cancel"⟩]

def nonAdminSessionAllowedRoutes : List RoutePattern := [
  ⟨"GET", "/api/v1/auth/me"⟩,
  ⟨"POST", "/api/v1/mobile/web-session/logout"⟩]

def pathMatchesPattern (segments : List String) (pattern : String) : Bool :=
  let patSegments := pathSegments pattern
  patSegments.length == segments.length && (patSegments.zip segments).all fun (p, s) => p == "*" || p == s

def routeAllowed (list : List RoutePattern) (pathname method : String) : Bool :=
  list.any fun r => r.method == method && pathMatchesPattern (pathSegments pathname) r.pattern

def deviceMayCallRoute (pathname method : String) : Bool := routeAllowed deviceAllowedRoutes pathname method

def mobileMayCallRoute (pathname method : String) : Bool := routeAllowed mobileAllowedRoutes pathname method

def isLineTerminator (c : Char) : Bool :=
  c == '\n' || c == '\r' || c.toNat == 0x2028 || c.toNat == 0x2029

def bearerToken (header : String) : Option String :=
  let cs := header.toList
  if (cs.take 6).map Char.toLower = "bearer".toList then
    let isBlank := fun c : Char => c == ' ' || c == '\t'
    let blanks := (cs.drop 6).takeWhile isBlank
    let rest := (cs.drop 6).dropWhile isBlank
    if blanks.isEmpty then none
    else if rest.isEmpty then
      if 2 ≤ blanks.length then blanks.getLast?.map fun c => String.ofList [c] else none
    else if rest.any isLineTerminator then none
    else some (String.ofList rest)
  else none

def readCookieParts (name : String) : List (List Char) → Option String
  | [] => none
  | part :: parts =>
    if part.contains '=' then
      if String.ofList (trimSpaces (part.takeWhile (· != '='))) = name then
        let value := trimSpaces ((part.dropWhile (· != '=')).drop 1)
        if value.isEmpty then none else some (String.ofList value)
      else readCookieParts name parts
    else readCookieParts name parts

def readCookieHeader (raw : Option String) (name : String) : Option String :=
  match raw with
  | none => none
  | some text => if text = "" then none else readCookieParts name (text.toList.splitOn ';')

def mobileSessionCookie : String := "__Host-lamasync-mobile"

def keyIdAlphabet : String := "ABCDEFGHJKLMNPQRSTUVWXYZabcdefghijkmnopqrstuvwxyz23456789"

def parseApiKeyToken (token : String) : Option (String × String) :=
  match token.toList.splitOn '.' with
  | [scheme, keyId, secret] =>
    if scheme = "lmsk".toList ∧ utf16Length keyId = 12 ∧ (keyId.all fun c => keyIdAlphabet.toList.contains c) ∧
        16 ≤ utf16Length secret then
      some (String.ofList keyId, String.ofList secret)
    else none
  | _ => none

def hexDigit (c : Char) : Option Nat :=
  if '0' ≤ c ∧ c ≤ '9' then some (c.toNat - '0'.toNat)
  else if 'a' ≤ c ∧ c ≤ 'f' then some (c.toNat - 'a'.toNat + 10)
  else if 'A' ≤ c ∧ c ≤ 'F' then some (c.toNat - 'A'.toNat + 10)
  else none

def bufferFromHex : List Char → List Nat
  | a :: b :: cs =>
    match hexDigit a, hexDigit b with
    | some x, some y => (16 * x + y) :: bufferFromHex cs
    | _, _ => []
  | _ => []

def hashesEqual (a b : String) : Bool :=
  !(bufferFromHex a.toList).isEmpty && bufferFromHex a.toList == bufferFromHex b.toList

def safeEqual (a b : String) : Bool := a == b

section Resolve

variable (env : AuthEnv) (now : Int)

def findApiKeyByToken (token : String) : Option ApiKeyRow :=
  match parseApiKeyToken token with
  | none => none
  | some (keyId, secret) =>
    match env.apiKeys.find? fun row => row.id == keyId with
    | none => none
    | some row => if hashesEqual (env.hashSecret secret) row.tokenHash then some row else none

def resolveNativeHost (token : String) : Option String :=
  match env.registrations.find? fun row => row.nativeTokenHash == env.hashSecret token with
  | none => none
  | some row => if isRowRevoked row.revokedAt then none else some row.hostId

def apiKeyPrincipal (row : ApiKeyRow) : Option AuthPrincipal :=
  if row.kind = "device" then
    match row.hostId with
    | some hostId => if hostId = "" then none else some (.device row.id hostId)
    | none => none
  else if row.kind = "deploy" then some (.deploy row.id)
  else if row.kind = "admin" then some (.admin row.id)
  else none

def resolvePrincipal (token : String) : Option AuthPrincipal :=
  if token = "" then none
  else if env.masterKey ≠ "" ∧ safeEqual token env.masterKey then some .master
  else
    -- A revoked key is tried as a native credential, like an unknown one.
    match (findApiKeyByToken env token).filter fun row => !isRowRevoked row.revokedAt with
    | none => (resolveNativeHost env token).map .mobile
    | some row => apiKeyPrincipal row

structure LiveMobileSession where
  session : WebSessionRow
  registration : MobileRegistrationRow
  grant : WebGrantRow

def resolveLiveSession (secret : String) : Option LiveMobileSession :=
  match env.sessions.find? fun row => row.sessionHash == env.hashSecret secret with
  | none => none
  | some session =>
    if isRowRevoked session.revokedAt ∨ session.expiresAt ≤ now then none
    else
      match env.registrations.find? fun row => row.hostId == session.registrationId with
      | none => none
      | some registration =>
        if isRowRevoked registration.revokedAt then none
        else
          match env.grants.find? fun row => row.id == session.grantId with
          | none => none
          | some grant => if isRowRevoked grant.revokedAt then none else some ⟨session, registration, grant⟩

def resolveCookieSession (secret : String) : Option AuthPrincipal :=
  (resolveLiveSession env now secret).map fun live =>
    .webSession live.session.id live.session.registrationId (live.session.admin == 1) (env.deriveCsrfToken secret)
      live.session.expiresAt live.registration.displayName live.registration.clientType

end Resolve

section Hook

variable (env : AuthEnv) (now : Int) (request : Request)

def isSafeMethod (method : String) : Bool := method == "GET" || method == "HEAD" || method == "OPTIONS"

def isApiRequest : Bool := request.pathname.startsWith "/api/"

def asksForWebSocket : Bool := ((request.header "upgrade").getD "").toLower == "websocket"

def isAuthExempt : Bool := routeAllowed authExemptRoutes request.pathname request.method

def unauthorized : HookReply := .answer 401 "Unauthorized"

def forbidden : HookReply := .answer 403 "Forbidden"

def bearerReply (header : String) : HookReply :=
  match bearerToken header with
  | none => unauthorized
  | some token =>
    match resolvePrincipal env token with
    | none => unauthorized
    | some (.device keyId hostId) =>
      if deviceMayCallRoute request.pathname request.method then .next (some (.device keyId hostId)) else forbidden
    | some (.mobile hostId) =>
      if mobileMayCallRoute request.pathname request.method then .next (some (.mobile hostId)) else forbidden
    | some principal => .next (some principal)

def mutationRefusal (csrfToken : String) : Option HookReply :=
  if isSafeMethod request.method then none
  else
    match env.canonicalOrigin, request.header "origin" with
    | some trusted, some origin =>
      if origin ≠ trusted then some (.answer 400 "cross-origin request rejected")
      else
        match request.header "x-csrf-token" with
        | none => some (.answer 403 "missing or invalid CSRF token")
        | some csrf => if safeEqual csrf csrfToken then none else some (.answer 403 "missing or invalid CSRF token")
    | _, _ => some (.answer 400 "cross-origin request rejected")

def cookieReply (cookie : String) : HookReply :=
  match resolveCookieSession env now cookie with
  | some (.webSession sid hostId admin csrfToken expiresAt displayName clientType) =>
    if admin = false ∧ routeAllowed nonAdminSessionAllowedRoutes request.pathname request.method = false then
      forbidden
    else
      match mutationRefusal env request csrfToken with
      | some refusal => refusal
      | none => .next (some (.webSession sid hostId admin csrfToken expiresAt displayName clientType))
  | _ => unauthorized

def getAuthPlugin : HookReply :=
  if ¬ isApiRequest request then .next none
  else if asksForWebSocket request then .next none
  else if isAuthExempt request then .next none
  else
    match request.header "authorization" with
    | some header => bearerReply env request header
    | none =>
      match readCookieHeader (request.header "cookie") mobileSessionCookie with
      | some cookie => cookieReply env now request cookie
      | none => unauthorized

end Hook

end LamaSync
