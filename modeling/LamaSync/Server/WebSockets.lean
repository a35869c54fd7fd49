import LamaSync.Lib.Index
import LamaSync.Server.MobileCredentials

/-!
# The event stream's connections

A WebSocket is opened with the master key, an admin key or the cookie of an admin web session, and is then subscribed to
every event.  Four maps are kept beside the set of subscribers: the records of all connections, the session behind a
cookie connection, and two reverse indexes of these by registration and by session, through which logouts and
revocations find the connections to close.  A timer closes a cookie connection when its session expires.

`ws.close()` only starts to close: what is sent afterwards is dropped, and the close handler, which takes the connection
out of the maps, runs later.
-/

namespace LamaSync

open Trace

inductive WsMessage (α : Type) where
  | hello (ts : Int)
  | error (text : String)
  | event (event : α)

inductive WsCredential where
  | key (token : String)
  | session (secret : String)
  deriving DecidableEq

inductive SocketPhase where
  | open | closing | closed
  deriving DecidableEq

structure WsSocket (α : Type) where
  credential : Option WsCredential
  phase : SocketPhase
  received : List (WsMessage α)

namespace WsSocket

variable {α : Type}

def send (ws : WsSocket α) (message : WsMessage α) : WsSocket α :=
  if ws.phase = .open then { ws with received := ws.received ++ [message] } else ws

def close (ws : WsSocket α) : WsSocket α := if ws.phase = .open then { ws with phase := .closing } else ws

def closeWith (ws : WsSocket α) (reason : String) : WsSocket α := (ws.send (.error reason)).close

end WsSocket

structure SessionConnection where
  sessionId : String
  registrationId : String

structure EventStream (α : Type) where
  apiKeys : List ApiKeyRow
  mobile : MobileDb
  sockets : Table String (WsSocket α)
  subscribers : List String
  connections : List String
  sessionConnections : Table String SessionConnection
  connectionsByRegistration : Index String String
  connectionsBySession : Index String String
  timers : Table String Int

structure WsEnv extends MobileEnv where
  masterKey : String
  decodeBase64 : String → String

structure WsUpgrade where
  header : String → Option String
  apiKeyParam : Option String

def isMasterOrAdmin : AuthPrincipal → Bool
  | .master | .admin _ => true
  | _ => false

def reconnectDisconnectReason : String := "credentials rotated by reconnect"

namespace EventStream

variable {α : Type}

def onSocket (s : EventStream α) (id : String) (f : WsSocket α → WsSocket α) : EventStream α :=
  { s with sockets := fun i => if i = id then (s.sockets i).map f else s.sockets i }

def broadcast (s : EventStream α) (event : α) : EventStream α :=
  s.subscribers.foldl (fun s id => s.onSocket id (·.send (.event event))) s

def closeFn (s : EventStream α) (id reason : String) : EventStream α :=
  s.onSocket id (·.closeWith reason)

def closeLiveConnection (s : EventStream α) (connId reason : String) : EventStream α :=
  if connId ∈ s.connections then s.closeFn connId reason else s

def closeLiveConnections (s : EventStream α) (connIds : List String) (reason : String) : EventStream α :=
  connIds.foldl (fun s connId => s.closeLiveConnection connId reason) s

def disconnectMobileRegistration (s : EventStream α) (hostId reason : String) : EventStream α :=
  s.closeLiveConnections (s.connectionsByRegistration.members hostId) reason

def disconnectWebSession (s : EventStream α) (sessionId reason : String) : EventStream α :=
  s.closeLiveConnections (s.connectionsBySession.members sessionId) reason

def registerConnection (s : EventStream α) (id : String) (session : Option (SessionConnection × Int)) (now : Int) :
    EventStream α :=
  let subscribed := { s with subscribers := s.subscribers ++ [id], connections := s.connections ++ [id] }
  match session with
  | none => subscribed
  | some (session, expiresAt) =>
    { subscribed with
      sessionConnections := s.sessionConnections.put id session
      connectionsByRegistration := s.connectionsByRegistration.add session.registrationId id
      connectionsBySession := s.connectionsBySession.add session.sessionId id
      timers := s.timers.put id (max now expiresAt) }

def unregisterConnection (s : EventStream α) (id : String) : EventStream α :=
  let unsubscribed :=
    if id ∈ s.connections then
      { s with subscribers := s.subscribers.filter (· ≠ id), connections := s.connections.filter (· ≠ id) }
    else s
  match s.sessionConnections id with
  | none => unsubscribed
  | some session =>
    { unsubscribed with
      sessionConnections := s.sessionConnections.erase id
      connectionsByRegistration := s.connectionsByRegistration.remove session.registrationId id
      connectionsBySession := s.connectionsBySession.remove session.sessionId id }

variable (env : WsEnv)

/-- The credential tables as the authentication functions read them. -/
def auth (s : EventStream α) : AuthEnv :=
  { s.mobile.authEnv env.toMobileEnv with masterKey := env.masterKey, apiKeys := s.apiKeys }

def isWsSubscriptionAllowed (s : EventStream α) (token : String) : Bool :=
  (resolvePrincipal (s.auth env) token).any isMasterOrAdmin

def extractApiKeyFromProtocol (s : EventStream α) (request : WsUpgrade) : Option String :=
  match request.header "sec-websocket-protocol" with
  | none => none
  | some raw =>
    match (raw.toList.splitOn ',').map fun part => String.ofList (trimSpaces part) with
    | [scheme, provided] =>
      if scheme ≠ "lamasync-auth" ∨ provided = "" then none
      else if s.isWsSubscriptionAllowed env provided then some provided
      else
        let normalized := provided.toList.map fun c => if c = '-' then '+' else if c = '_' then '/' else c
        let padding := List.replicate ((4 - utf16Length normalized % 4) % 4) '='
        let decoded := env.decodeBase64 (String.ofList (normalized ++ padding))
        if s.isWsSubscriptionAllowed env decoded then some decoded else none
    | _ => none

def extractApiKey (s : EventStream α) (request : WsUpgrade) : Option String :=
  (s.extractApiKeyFromProtocol env request).orElse fun _ => request.apiKeyParam

def rejectUpgrade (s : EventStream α) (id reason : String) : EventStream α :=
  { s with sockets := s.sockets.put id ⟨none, .closing, [.error reason]⟩ }

def acceptUpgrade (s : EventStream α) (id : String) (credential : WsCredential)
    (session : Option (SessionConnection × Int)) (now : Int) : EventStream α :=
  let accepted := { s with sockets := s.sockets.put id ⟨some credential, .open, [.hello now]⟩ }
  accepted.registerConnection id session now

def openSocket (s : EventStream α) (id : String) (request : WsUpgrade) (now : Int) : EventStream α :=
  match s.extractApiKey env request with
  | some apiKey =>
    if s.isWsSubscriptionAllowed env apiKey then s.acceptUpgrade id (.key apiKey) none now
    else s.rejectUpgrade id "unauthorized"
  | none =>
    match readCookieHeader (request.header "cookie") mobileSessionCookie with
    | none => s.rejectUpgrade id "unauthorized"
    | some cookie =>
      if env.canonicalOrigin = none ∨ request.header "origin" ≠ env.canonicalOrigin then
        s.rejectUpgrade id "origin not allowed"
      else
        match resolveLiveSession (s.auth env) now cookie with
        | none => s.rejectUpgrade id "unauthorized"
        | some live =>
          if live.session.admin ≠ 1 then s.rejectUpgrade id "forbidden"
          else
            s.acceptUpgrade id (.session cookie)
              (some (⟨live.session.id, live.session.registrationId⟩, live.session.expiresAt)) now

end EventStream

inductive StreamEvent (α : Type) where
  /-- `id` is the new connection's. -/
  | upgrade (id : String) (request : WsUpgrade) (now : EpochMs)
  | broadcast (event : α) (now : EpochMs)
  | store (e : MobileEvent)
  | createKey (row : ApiKeyRow)
  | revokeKey (keyId : String) (now : EpochMs)
  | expire (id : String) (now : EpochMs)
  | closed (id : String)

namespace EventStream

variable {α : Type} (env : WsEnv)

def serveStore (s : EventStream α) : MobileEvent → EventStream α
  | .logout secret now =>
    match resolveLiveSession (s.auth env) now secret with
    | none => s
    | some live =>
      disconnectWebSession { s with mobile := (revokeMobileWebSession env.toMobileEnv s.mobile secret now).1 }
        live.session.id "session logged out"
  | .revoke hostId reason now =>
    match revokeMobileRegistration s.mobile hostId reason now with
    | (mobile, true, _) => disconnectMobileRegistration { s with mobile } hostId "registration revoked"
    | (mobile, false, _) => { s with mobile }
  | .exchange request draws now =>
    match exchangeMobileEnrollment env.toMobileEnv s.mobile request draws now with
    | (mobile, some (.ok _ hostId true revokedSessionIds)) =>
      disconnectMobileRegistration
        (revokedSessionIds.foldl (fun s sessionId => disconnectWebSession s sessionId reconnectDisconnectReason)
          { s with mobile }) hostId reconnectDisconnectReason
    | (mobile, _) => { s with mobile }
  | e => { s with mobile := mobileStep env.toMobileEnv s.mobile e }

def insertApiKey (s : EventStream α) (row : ApiKeyRow) : EventStream α :=
  if s.apiKeys.any fun r => r.id == row.id || r.tokenHash == row.tokenHash then s
  else { s with apiKeys := s.apiKeys ++ [row] }

def revokeApiKey (s : EventStream α) (keyId : String) (now : Int) : EventStream α :=
  { s with apiKeys := Rows.update s.apiKeys (fun row => row.id == keyId) fun row => { row with revokedAt := some now } }

/-- The callback of `setTimeout`, which does not run before it is due. -/
def expire (s : EventStream α) (id : String) (now : Int) : EventStream α :=
  match s.timers id with
  | none => s
  | some due =>
    if now < due then s
    else
      let fired := { s with timers := s.timers.erase id }
      if (s.sessionConnections id).isSome then fired.closeFn id "session expired" else fired

def socketClosed (s : EventStream α) (id : String) : EventStream α :=
  (s.onSocket id fun ws => { ws with phase := .closed }).unregisterConnection id

def step (s : EventStream α) : StreamEvent α → EventStream α
  | .upgrade id request now => if (s.sockets id).isSome then s else s.openSocket env id request now
  | .broadcast event _ => s.broadcast event
  | .store e => s.serveStore env e
  | .createKey row => s.insertApiKey row
  | .revokeKey keyId now => s.revokeApiKey keyId now
  | .expire id now => s.expire id now
  | .closed id => s.socketClosed id

end EventStream

/-- A server that has just started, on tables of its own. -/
def newEventStream (α : Type) (apiKeys : List ApiKeyRow) (mobile : MobileDb) : EventStream α where
  apiKeys := apiKeys
  mobile := mobile
  sockets := fun _ => none
  subscribers := []
  connections := []
  sessionConnections := fun _ => none
  connectionsByRegistration := fun _ => none
  connectionsBySession := fun _ => none
  timers := fun _ => none

end LamaSync
