import LamaSync.Server.Auth

/-!
# What the boundary guarantees

A request under `/api/` that is neither exempt nor the WebSocket handler's is answered by the hook, or it continues
with a principal: one that a live credential of this request stands for, at a place where it may act.  The
WebSocket skip looks at a header of the request and not at its route, so the guarantee holds of every request
except those that carry this header to another route.
-/

namespace LamaSync

section Boundary

variable (env : AuthEnv) (now : Int) (request : Request)

def Request.bearer : Option String := (request.header "authorization").bind bearerToken

def Request.sessionCookie : Option String :=
  match request.header "authorization" with
  | some _ => none
  | none => readCookieHeader (request.header "cookie") mobileSessionCookie

inductive CarriesCredential : AuthPrincipal → Prop
  | master {token : String} : request.bearer = some token → token ≠ "" → token = env.masterKey →
      CarriesCredential .master
  | managed {token secret : String} {row : ApiKeyRow} {principal : AuthPrincipal} :
      request.bearer = some token → token = "lmsk." ++ row.id ++ "." ++ secret → row ∈ env.apiKeys →
      hashesEqual (env.hashSecret secret) row.tokenHash = true → isRowRevoked row.revokedAt = false →
      apiKeyPrincipal row = some principal → CarriesCredential principal
  | native {token : String} {row : MobileRegistrationRow} :
      request.bearer = some token → row ∈ env.registrations → row.nativeTokenHash = env.hashSecret token →
      isRowRevoked row.revokedAt = false → CarriesCredential (.mobile row.hostId)
  | session {secret : String} {session : WebSessionRow} {registration : MobileRegistrationRow} {grant : WebGrantRow} :
      request.sessionCookie = some secret → session ∈ env.sessions → session.sessionHash = env.hashSecret secret →
      isRowRevoked session.revokedAt = false → now < session.expiresAt →
      registration ∈ env.registrations → registration.hostId = session.registrationId →
      isRowRevoked registration.revokedAt = false →
      grant ∈ env.grants → grant.id = session.grantId → isRowRevoked grant.revokedAt = false →
      CarriesCredential (.webSession session.id session.registrationId (session.admin == 1)
        (env.deriveCsrfToken secret) session.expiresAt registration.displayName registration.clientType)

def PermittedHere : AuthPrincipal → Prop
  | .device _ _ => deviceMayCallRoute request.pathname request.method = true
  | .mobile _ => mobileMayCallRoute request.pathname request.method = true
  | .webSession _ _ admin csrfToken _ _ _ =>
    (admin = true ∨ routeAllowed nonAdminSessionAllowedRoutes request.pathname request.method = true) ∧
    (isSafeMethod request.method = false → ∃ origin, env.canonicalOrigin = some origin ∧
      request.header "origin" = some origin ∧ request.header "x-csrf-token" = some csrfToken)
  | .master | .admin _ | .deploy _ => True

/-- Refused, or let through with a principal that the request proves and that may act there. -/
def Guarded (reply : HookReply) : Prop :=
  (∃ status error, reply = .answer status error ∧ (status = 400 ∨ status = 401 ∨ status = 403)) ∨
  ∃ principal, reply = .next (some principal) ∧ CarriesCredential env now request principal ∧
    PermittedHere env request principal

variable {env now request}

private lemma au_unauthorized : Guarded env now request unauthorized :=
  .inl ⟨401, "Unauthorized", rfl, .inr (.inl rfl)⟩

private lemma au_forbidden : Guarded env now request forbidden :=
  .inl ⟨403, "Forbidden", rfl, .inr (.inr rfl)⟩

variable {secret : String}

theorem parseApiKeyToken_eq_some {token keyId : String} (h : parseApiKeyToken token = some (keyId, secret)) :
    token = "lmsk." ++ keyId ++ "." ++ secret := by
  unfold parseApiKeyToken at h
  split at h
  · rename_i scheme keyChars secretChars hsp
    split at h
    · rename_i hpt
      obtain ⟨rfl, rfl⟩ : String.ofList keyChars = keyId ∧ String.ofList secretChars = secret := by simpa using h
      have hch := toList_of_splitOn_three hsp
      rw [hpt.1] at hch
      apply String.toList_injective
      rw [hch]
      simp
    · cases h
  · cases h

theorem findApiKeyByToken_eq_some {token : String} {row : ApiKeyRow} (h : findApiKeyByToken env token = some row) :
    ∃ secret, token = "lmsk." ++ row.id ++ "." ++ secret ∧ row ∈ env.apiKeys ∧
      hashesEqual (env.hashSecret secret) row.tokenHash = true := by
  unfold findApiKeyByToken at h
  split at h
  · cases h
  rename_i keyId secret hpa
  split at h
  · cases h
  rename_i found hfind
  split at h
  · rename_i hhash
    obtain rfl : found = row := by simpa using h
    have hid : found.id = keyId := by simpa using List.find?_some hfind
    exact ⟨secret, hid ▸ parseApiKeyToken_eq_some hpa, List.mem_of_find?_eq_some hfind, hhash⟩
  · cases h

theorem apiKeyPrincipal_cases {row : ApiKeyRow} {principal : AuthPrincipal} (h : apiKeyPrincipal row = some principal) :
    (∃ hostId, principal = .device row.id hostId) ∨ principal = .deploy row.id ∨ principal = .admin row.id := by
  unfold apiKeyPrincipal at h
  split at h
  · split at h
    · rename_i hostId _
      split at h
      · cases h
      · exact .inl ⟨hostId, by simpa using h.symm⟩
    · cases h
  · split at h
    · exact .inr (.inl (by simpa using h.symm))
    · split at h
      · exact .inr (.inr (by simpa using h.symm))
      · cases h

private lemma au_native {token hostId : String} (hcarried : request.bearer = some token)
    (h : resolveNativeHost env token = some hostId) : CarriesCredential env now request (.mobile hostId) := by
  unfold resolveNativeHost at h
  split at h
  · cases h
  rename_i row hfind
  split at h
  · cases h
  rename_i hrevoked
  obtain rfl : row.hostId = hostId := by simpa using h
  have hhash : row.nativeTokenHash = env.hashSecret token := by simpa using List.find?_some hfind
  exact .native hcarried (List.mem_of_find?_eq_some hfind) hhash (by simpa using hrevoked)

theorem resolvePrincipal_carried {token : String} {principal : AuthPrincipal}
    (hcar : request.bearer = some token) (h : resolvePrincipal env token = some principal) :
    CarriesCredential env now request principal ∧
      ∀ sid hostId admin csrf exp name client, principal ≠ .webSession sid hostId admin csrf exp name client := by
  unfold resolvePrincipal at h
  split at h
  · cases h
  rename_i hne
  split at h
  · rename_i hma
    obtain rfl : AuthPrincipal.master = principal := by simpa using h
    have heq : token = env.masterKey := by simpa [safeEqual] using hma.2
    exact ⟨.master hcar hne heq, by intros; simp⟩
  split at h
  · obtain ⟨hostId, hna, rfl⟩ := Option.map_eq_some_iff.1 h
    exact ⟨au_native hcar hna, by intros; simp⟩
  · rename_i row hrow
    obtain ⟨hfind, hrev⟩ : findApiKeyByToken env token = some row ∧ isRowRevoked row.revokedAt = false := by
      simpa [Option.filter_eq_some_iff] using hrow
    obtain ⟨secret, hto, hmem, hhash⟩ := findApiKeyByToken_eq_some hfind
    refine ⟨.managed hcar hto hmem hhash hrev h, ?_⟩
    intro sid hostId admin csrf exp name client
    rcases apiKeyPrincipal_cases h with ⟨_, rfl⟩ | rfl | rfl <;> simp

theorem resolveLiveSession_eq_some {live : LiveMobileSession} (h : resolveLiveSession env now secret = some live) :
    (live.session ∈ env.sessions ∧ live.session.sessionHash = env.hashSecret secret ∧
      isRowRevoked live.session.revokedAt = false ∧ now < live.session.expiresAt) ∧
    (live.registration ∈ env.registrations ∧ live.registration.hostId = live.session.registrationId ∧
      isRowRevoked live.registration.revokedAt = false) ∧
    live.grant ∈ env.grants ∧ live.grant.id = live.session.grantId ∧ isRowRevoked live.grant.revokedAt = false := by
  unfold resolveLiveSession at h
  split at h
  · cases h
  rename_i session hsess
  split at h
  · cases h
  rename_i hlive
  split at h
  · cases h
  rename_i registration hreg
  split at h
  · cases h
  rename_i hre
  split at h
  · cases h
  rename_i grant hgr
  split at h
  · cases h
  rename_i hgra
  obtain rfl : LiveMobileSession.mk session registration grant = live := by simpa using h
  have hsessionHash : session.sessionHash = env.hashSecret secret := by
    simpa using List.find?_some hsess
  have hhost : registration.hostId = session.registrationId := by
    simpa using List.find?_some hreg
  have hgrantId : grant.id = session.grantId := by simpa using List.find?_some hgr
  have hun : isRowRevoked session.revokedAt = false ∧ now < session.expiresAt := by
    simpa using hlive
  exact ⟨⟨List.mem_of_find?_eq_some hsess, hsessionHash, hun⟩,
    ⟨List.mem_of_find?_eq_some hreg, hhost, by simpa using hre⟩,
    List.mem_of_find?_eq_some hgr, hgrantId, by simpa using hgra⟩

theorem resolveCookieSession_carried {principal : AuthPrincipal}
    (hcar : request.sessionCookie = some secret) (h : resolveCookieSession env now secret = some principal) :
    CarriesCredential env now request principal := by
  obtain ⟨live, hlive, rfl⟩ := Option.map_eq_some_iff.1 h
  obtain ⟨⟨hmem, hhash, hun, hex⟩, ⟨hreg, hhost, hre⟩, hgra, hgrantId, hgr⟩ :=
    resolveLiveSession_eq_some hlive
  exact .session hcar hmem hhash hun hex hreg hhost hre hgra hgrantId hgr

variable (env request) in
theorem mutationRefusal_cases (csrfToken : String) :
    (∃ status error, mutationRefusal env request csrfToken = some (.answer status error) ∧
      (status = 400 ∨ status = 401 ∨ status = 403)) ∨
    (mutationRefusal env request csrfToken = none ∧
      (isSafeMethod request.method = false → ∃ origin, env.canonicalOrigin = some origin ∧
        request.header "origin" = some origin ∧ request.header "x-csrf-token" = some csrfToken)) := by
  unfold mutationRefusal
  split
  · rename_i hsafe
    exact .inr ⟨rfl, fun hbadName => by simp [hsafe] at hbadName⟩
  split
  · rename_i trusted origin htr horig
    split
    · exact .inl ⟨400, _, rfl, .inl rfl⟩
    rename_i hsame
    have heq : origin = trusted := by simpa using hsame
    split
    · exact .inl ⟨403, _, rfl, .inr (.inr rfl)⟩
    rename_i csrf hcsrf
    split
    · rename_i hequ
      have hcsrfEq : csrf = csrfToken := by simpa [safeEqual] using hequ
      exact .inr ⟨rfl, fun _ => ⟨trusted, htr, heq ▸ horig, hcsrfEq ▸ hcsrf⟩⟩
    · exact .inl ⟨403, _, rfl, .inr (.inr rfl)⟩
  · exact .inl ⟨400, _, rfl, .inl rfl⟩

theorem bearerReply_guarded {header : String} (hhe : request.header "authorization" = some header) :
    Guarded env now request (bearerReply env request header) := by
  unfold bearerReply
  split
  · exact au_unauthorized
  rename_i token hto
  have hcar : request.bearer = some token := by simp [Request.bearer, hhe, hto]
  split
  · exact au_unauthorized
  · rename_i keyId hostId hres
    split
    · rename_i hok
      exact .inr ⟨_, rfl, (resolvePrincipal_carried hcar hres).1, hok⟩
    · exact au_forbidden
  · rename_i hostId hres
    split
    · rename_i hok
      exact .inr ⟨_, rfl, (resolvePrincipal_carried hcar hres).1, hok⟩
    · exact au_forbidden
  rename_i principal hnotDevice hnotMobile hres
  have hcred : CarriesCredential env now request principal := (resolvePrincipal_carried hcar hres).1
  refine .inr ⟨_, rfl, hcred, ?_⟩
  -- what is left is the master key, an admin key or a deploy key, which the boundary lets go anywhere
  cases principal with
  | master | admin | deploy => trivial
  | device keyId hostId => exact absurd hres (by simpa using hnotDevice keyId hostId)
  | mobile hostId => exact absurd hres (by simpa using hnotMobile hostId)
  | webSession => exact absurd rfl ((@resolvePrincipal_carried env now request _ _ hcar hres).2 _ _ _ _ _ _ _)

theorem cookieReply_guarded {cookie : String} (hco : request.sessionCookie = some cookie) :
    Guarded env now request (cookieReply env now request cookie) := by
  unfold cookieReply
  split
  · rename_i sid hostId admin csrfToken expiresAt displayName clientType hres
    have hcred := resolveCookieSession_carried hco hres
    split
    · exact au_forbidden
    rename_i hpl
    have hok : admin = true ∨
        routeAllowed nonAdminSessionAllowedRoutes request.pathname request.method = true := by
      cases admin <;> simp_all
    rcases mutationRefusal_cases env request csrfToken with
      ⟨status, error, href, hst⟩ | ⟨hnone, hpr⟩
    · rw [href]
      exact .inl ⟨status, error, rfl, hst⟩
    · rw [hnone]
      exact .inr ⟨_, rfl, hcred, hok, hpr⟩
  · exact au_unauthorized

variable (env now request)

def SkipsTheHook (routedToWs : Request → Bool) : Prop :=
  isApiRequest request = true ∧ asksForWebSocket request = true ∧ isAuthExempt request = false ∧
    routedToWs request = false

/-- The boundary guards every request under `/api/` that is neither exempt nor the WebSocket handler's if and only
if the request does not skip the hook. -/
theorem rest_boundary (routedToWs : Request → Bool) :
    (isApiRequest request = true → isAuthExempt request = false → routedToWs request = false →
      Guarded env now request (getAuthPlugin env now request)) ↔ ¬ SkipsTheHook request routedToWs := by
  constructor
  · -- a request that skips the hook continues without a principal, which no case of the guarantee allows
    rintro hg ⟨hapi, hup, hex, hws⟩
    have hrp : getAuthPlugin env now request = .next none := by simp [getAuthPlugin, hapi, hup]
    have hbad := hg hapi hex hws
    rw [hrp] at hbad
    rcases hbad with ⟨_, _, h, _⟩ | ⟨_, h, _⟩ <;> simp at h
  · intro hskip hapi hex hws
    have hup : asksForWebSocket request = false := by
      cases hasks : asksForWebSocket request with
      | false => rfl
      | true => exact absurd ⟨hapi, hasks, hex, hws⟩ hskip
    unfold getAuthPlugin
    rw [if_neg (by simpa using hapi), if_neg (by simp [hup]), if_neg (by simp [hex])]
    split
    · rename_i header hhe
      exact bearerReply_guarded hhe
    rename_i hnone
    split
    · rename_i cookie hco
      have hcar : request.sessionCookie = some cookie := by simp [Request.sessionCookie, hnone, hco]
      exact cookieReply_guarded hcar
    · exact au_unauthorized

end Boundary

def exampleUpgradeRequest : Request where
  pathname := "/api/v1/hosts"
  method := "GET"
  header name := if name = "upgrade" then some "websocket" else none

def exampleAuthEnv : AuthEnv where
  masterKey := "master-key"
  hashSecret secret := secret
  deriveCsrfToken secret := secret
  canonicalOrigin := none
  apiKeys := []
  registrations := []
  grants := []
  sessions := []

/-- The scheme is read in any case, and the master key goes anywhere. -/
example : getAuthPlugin exampleAuthEnv 0
    { pathname := "/api/v1/hosts"
      method := "GET"
      header := fun name => if name = "authorization" then some "bearer master-key" else none } =
    .next (some .master) := by decide +kernel

def isWsPath (request : Request) : Bool := request.pathname == "/api/v1/ws"

/-- The upgrade header opens a route that is not the WebSocket handler's. -/
theorem upgrade_header_skips_boundary :
    isApiRequest exampleUpgradeRequest = true ∧ isAuthExempt exampleUpgradeRequest = false ∧
      isWsPath exampleUpgradeRequest = false ∧
      getAuthPlugin exampleAuthEnv 0 exampleUpgradeRequest = .next none ∧
      ¬ Guarded exampleAuthEnv 0 exampleUpgradeRequest (getAuthPlugin exampleAuthEnv 0 exampleUpgradeRequest) := by
  have hrp : getAuthPlugin exampleAuthEnv 0 exampleUpgradeRequest = .next none := by decide +kernel
  refine ⟨by decide +kernel, by decide +kernel, by decide +kernel, hrp, ?_⟩
  rw [hrp]
  rintro (⟨_, _, h, _⟩ | ⟨_, h, _⟩) <;> simp at h

end LamaSync
