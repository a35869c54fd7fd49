import LamaSync.Server.LiveSessions
import LamaSync.Server.WebSockets

/-!
# The event stream and the credentials behind it

Upgrades, broadcasts, the routes of the mobile store, new and revoked keys, expiry timers and close handlers come in any
order.  A broadcast goes to the subscribers, whatever their credentials are by now, so it stops with a credential only
when the connection is closed with it.

`StreamInv` says that the maps agree with each other and with the sockets, and that an open cookie connection has a session
that stands and a timer for its end.  Nothing closes the connections of a revoked key, and between the end of a session
and the callback of its timer a broadcast still arrives: `event_stream_stops_with_credential` says that these are the only
exceptions, and that a closed connection is in no map and the others keep receiving.
-/

namespace LamaSync

open Trace
open Table (put_of_ne erase_of_ne put_self)

namespace EventStream

variable {α : Type}

/-! ### What the stream promises -/

section Promises

variable (env : WsEnv) (s : EventStream α)

def accepts (now : Int) : WsCredential → Bool
  | .key token => s.isWsSubscriptionAllowed env token
  | .session secret => (resolveLiveSession (s.auth env) now secret).any fun live => live.session.admin == 1

def OpenWith (i : String) (c : WsCredential) : Prop :=
  ∃ ws, s.sockets i = some ws ∧ ws.phase = .open ∧ ws.credential = some c

/-- The broadcast reaches the connection. -/
def ReceivedBy (event : α) (i : String) : Prop :=
  ∃ ws ws', s.sockets i = some ws ∧ (s.broadcast event).sockets i = some ws' ∧
    ws'.received = ws.received ++ [.event event]

def StopsWithCredential : StreamEvent α → Prop
  | .broadcast event now => ∀ i, s.ReceivedBy event i → ∃ c, s.OpenWith i c ∧ s.accepts env now c = true
  | _ => True

/-- A connection whose close handler has run is in no map. -/
def ClosedAreGone : Prop :=
  ∀ i ws, s.sockets i = some ws → ws.phase = .closed →
    i ∉ s.subscribers ∧ i ∉ s.connections ∧ s.sessionConnections i = none ∧
      (∀ hostId, i ∉ s.connectionsByRegistration.members hostId) ∧ ∀ sid, i ∉ s.connectionsBySession.members sid

end Promises

def storeTime : MobileEvent → EpochMs
  | .createEnrollment _ _ _ _ _ now | .createReconnect _ _ _ now | .exchange _ _ now | .bootstrap _ _ _ now
  | .checkIn _ _ now | .revoke _ _ now | .logout _ now => now

def time : StreamEvent α → Option Int
  | .upgrade _ _ now | .broadcast _ now | .revokeKey _ now | .expire _ now => some now.val
  | .store e => some (storeTime e).val
  | .createKey _ | .closed _ => none

section Promises

variable (env : WsEnv) (s : EventStream α)

/-- Every open connection receives a broadcast, and stays open while its credential would be accepted, unless its own
close handler runs. -/
def OthersKeepReceiving (e : StreamEvent α) : Prop :=
  (∀ event now, e = .broadcast event now → ∀ i c, s.OpenWith i c → s.ReceivedBy event i) ∧
    ∀ i c, s.OpenWith i c → e ≠ .closed i → (∀ now ∈ time e, (s.step env e).accepts env now c = true) →
      (s.step env e).OpenWith i c

def namesRevokedKey (token : String) : Bool :=
  !(env.masterKey != "" && safeEqual token env.masterKey) &&
    (findApiKeyByToken (s.auth env) token).any fun row => isRowRevoked row.revokedAt

def GuardHolds : StreamEvent α → Prop
  | .broadcast _ now => (∀ i token, s.OpenWith i (.key token) → s.namesRevokedKey env token = false) ∧
      ∀ i secret due, s.OpenWith i (.session secret) → s.timers i = some due → now.val < due
  | _ => True

end Promises

/-! ### What the operations do to the sockets -/

section Sockets

variable {s : EventStream α} {i : String}

private theorem es_closeWith_again (reason : String) (ws : WsSocket α) :
    (ws.closeWith reason).closeWith reason = ws.closeWith reason := by
  cases ws with
  | mk credential phase received => cases phase <;> rfl

theorem closeLiveConnections_eq (s : EventStream α) (connIds : List String) (reason : String) :
    s.closeLiveConnections connIds reason =
      { s with sockets := fun i =>
          if i ∈ connIds ∧ i ∈ s.connections then (s.sockets i).map (·.closeWith reason) else s.sockets i } := by
  induction connIds generalizing s with
  | nil => simp [closeLiveConnections]
  | cons id connIds ih =>
    show (s.closeLiveConnection id reason).closeLiveConnections connIds reason = _
    rw [ih]
    unfold closeLiveConnection
    by_cases hid : id ∈ s.connections
    · rw [if_pos hid]
      simp only [closeFn, onSocket]
      congr 1
      funext i
      by_cases hi : i = id
      · subst hi
        cases s.sockets i with
        | none => simp
        | some ws => by_cases hmem : i ∈ connIds <;> simp [hid, hmem, es_closeWith_again]
      · simp [hi]
    · rw [if_neg hid]
      congr 1
      funext i
      by_cases hi : i = id
      · subst hi
        simp [hid]
      · simp [hi]

private theorem es_onSockets {f : WsSocket α → WsSocket α} (ids : List String) (hnd : ids.Nodup) (s : EventStream α) :
    ids.foldl (fun s id => s.onSocket id f) s =
      { s with sockets := fun i => if i ∈ ids then (s.sockets i).map f else s.sockets i } := by
  induction ids generalizing s with
  | nil => simp
  | cons id ids ih =>
    obtain ⟨hid, hnd⟩ := List.nodup_cons.1 hnd
    rw [List.foldl_cons, ih hnd]
    simp only [onSocket]
    congr 1
    funext i
    by_cases hi : i = id
    · subst hi
      simp [hid]
    · simp [hi]

theorem broadcast_eq (hnd : s.subscribers.Nodup) (event : α) :
    s.broadcast event =
      { s with sockets := fun i =>
          if i ∈ s.subscribers then (s.sockets i).map (·.send (.event event)) else s.sockets i } :=
  es_onSockets s.subscribers hnd s

end Sockets

def HasKey (env : WsEnv) (s : EventStream α) (token : String) : Prop :=
  token ≠ "" ∧ ((env.masterKey ≠ "" ∧ safeEqual token env.masterKey = true) ∨
    ∃ row, findApiKeyByToken (s.auth env) token = some row ∧ row.kind = "admin")

end EventStream

variable {α : Type}

structure StreamInv (env : WsEnv) (s : EventStream α) : Prop where
  tables : SessionTables env.toMobileEnv s.mobile
  subscribed : s.subscribers = s.connections
  nodup : s.connections.Nodup
  registered : ∀ i, i ∈ s.connections ↔
    ∃ ws, s.sockets i = some ws ∧ ws.credential.isSome = true ∧ ws.phase ≠ .closed
  byRegistration : s.connectionsByRegistration.IndexOf fun i =>
    (s.sessionConnections i).map SessionConnection.registrationId
  bySession : s.connectionsBySession.IndexOf fun i => (s.sessionConnections i).map SessionConnection.sessionId
  linked : ∀ i conn, s.sessionConnections i = some conn →
    ∃ ws secret, s.sockets i = some ws ∧ ws.credential = some (.session secret) ∧ ws.phase ≠ .closed
  refused : ∀ i ws, s.sockets i = some ws → ws.credential = none → ws.phase ≠ .open
  key : ∀ i token, s.OpenWith i (.key token) → s.HasKey env token
  session : ∀ i secret, s.OpenWith i (.session secret) →
    ∃ session, Stands env.toMobileEnv s.mobile secret session ∧ session.admin = 1 ∧
      s.sessionConnections i = some ⟨session.id, session.registrationId⟩ ∧ s.timers i = some session.expiresAt

variable {env : WsEnv} {s : EventStream α} {apiKeys : List ApiKeyRow} {mobile : MobileDb}

theorem streamInv_new (h : SessionTables env.toMobileEnv mobile) :
    StreamInv env (newEventStream α apiKeys mobile) where
  tables := h
  subscribed := rfl
  nodup := List.nodup_nil
  registered i := by simp [newEventStream]
  byRegistration := Index.indexOf_empty
  bySession := Index.indexOf_empty
  linked i conn hconn := by cases hconn
  refused i ws hws := by cases hws
  key i token hopen := by
    obtain ⟨ws, hws, -⟩ := hopen
    cases hws
  session i secret hopen := by
    obtain ⟨ws, hws, -⟩ := hopen
    cases hws

theorem apiKeyPrincipal_any (row : ApiKeyRow) :
    (apiKeyPrincipal row).any isMasterOrAdmin = decide (row.kind = "admin") := by
  unfold apiKeyPrincipal
  by_cases hde : row.kind = "device"
  · cases row.hostId with
    | none => simp [hde]
    | some hostId => by_cases hem : hostId = "" <;> simp [hem, hde, isMasterOrAdmin]
  rw [if_neg hde]
  by_cases hdep : row.kind = "deploy"
  · simp [hdep, isMasterOrAdmin]
  rw [if_neg hdep]
  by_cases had : row.kind = "admin" <;> simp [had, isMasterOrAdmin]

variable {token : String}

theorem isWsSubscriptionAllowed_iff :
    s.isWsSubscriptionAllowed env token = true ↔ s.HasKey env token ∧ s.namesRevokedKey env token = false := by
  unfold EventStream.isWsSubscriptionAllowed resolvePrincipal EventStream.HasKey EventStream.namesRevokedKey
  by_cases hem : token = ""
  · simp [hem]
  rw [if_neg hem]
  by_cases hma : env.masterKey ≠ "" ∧ safeEqual token env.masterKey = true
  · have hma' : (s.auth env).masterKey ≠ "" ∧ safeEqual token (s.auth env).masterKey = true := hma
    rw [if_pos hma']
    simp [hem, hma, isMasterOrAdmin]
  have hma' : ¬ ((s.auth env).masterKey ≠ "" ∧ safeEqual token (s.auth env).masterKey = true) := hma
  have hflag : (env.masterKey != "" && safeEqual token env.masterKey) = false := by
    simpa using hma
  rw [if_neg hma']
  have hmo : ∀ host : Option String, (host.map AuthPrincipal.mobile).any isMasterOrAdmin = false := by
    intro host
    cases host <;> rfl
  cases hfind : findApiKeyByToken (s.auth env) token with
  | none => simp [hma, hmo]
  | some row =>
    by_cases hrev : isRowRevoked row.revokedAt = true
    · rw [Option.filter_some_neg (by simp [hrev])]
      simp [hrev, hflag, hmo]
    have hlive : isRowRevoked row.revokedAt = false := by simpa using hrev
    rw [Option.filter_some_pos (by simp [hlive])]
    simp [apiKeyPrincipal_any, hflag, hlive, hma, hem]

/-! ### What the events keep -/

def Narrows (t t' : Table String (WsSocket α)) : Prop :=
  (∀ i ws', t' i = some ws' → ∃ ws, t i = some ws ∧ ws'.credential = ws.credential ∧
    (ws'.phase = .closed ↔ ws.phase = .closed) ∧ (ws'.phase = .open → ws.phase = .open)) ∧
  ∀ i ws, t i = some ws → ∃ ws', t' i = some ws'

private theorem es_narrows {t : Table String (WsSocket α)} {p : String → Prop} [DecidablePred p]
    {f : WsSocket α → WsSocket α} (hf : ∀ ws, (f ws).credential = ws.credential ∧
      ((f ws).phase = .closed ↔ ws.phase = .closed) ∧ ((f ws).phase = .open → ws.phase = .open)) :
    Narrows t fun i => if p i then (t i).map f else t i := by
  constructor
  · intro i ws' hws'
    by_cases hp : p i
    · obtain ⟨ws, hws, rfl⟩ := Option.map_eq_some_iff.1 ((if_pos hp).symm.trans hws')
      exact ⟨ws, hws, hf ws⟩
    · exact ⟨ws', (if_neg hp).symm.trans hws', rfl, Iff.rfl, id⟩
  intro i ws hws
  by_cases hp : p i
  · exact ⟨f ws, (if_pos hp).trans (congrArg (Option.map f) hws)⟩
  · exact ⟨ws, (if_neg hp).trans hws⟩

private theorem es_send (ws : WsSocket α) (message : WsMessage α) : (ws.send message).credential = ws.credential ∧
    ((ws.send message).phase = .closed ↔ ws.phase = .closed) ∧ ((ws.send message).phase = .open → ws.phase = .open) := by
  unfold WsSocket.send
  split <;> simp_all

private theorem es_closeWith (ws : WsSocket α) (reason : String) : (ws.closeWith reason).phase ≠ .open ∧
    (ws.closeWith reason).credential = ws.credential ∧ ((ws.closeWith reason).phase = .closed ↔ ws.phase = .closed) := by
  cases ws with
  | mk credential phase received => cases phase <;> simp [WsSocket.closeWith, WsSocket.send, WsSocket.close]

theorem StreamInv.narrows (h : StreamInv env s) {sockets : Table String (WsSocket α)}
    (htabs : SessionTables env.toMobileEnv mobile) (hn : Narrows s.sockets sockets)
    (hsta : ∀ i secret session, (∃ ws, sockets i = some ws ∧ ws.phase = .open) →
      s.sessionConnections i = some ⟨session.id, session.registrationId⟩ →
      Stands env.toMobileEnv s.mobile secret session → Stands env.toMobileEnv mobile secret session) :
    StreamInv env { s with mobile := mobile, sockets := sockets } := by
  have hopen : ∀ i c, EventStream.OpenWith { s with mobile := mobile, sockets := sockets } i c → s.OpenWith i c := by
    rintro i c ⟨ws', hws', hph, hc⟩
    obtain ⟨ws, hws, hcred, -, hwas⟩ := hn.1 i ws' hws'
    exact ⟨ws, hws, hwas hph, hcred.symm.trans hc⟩
  -- a socket keeps its credential and whether it is closed
  have hst : ∀ i ws, s.sockets i = some ws → ∃ ws', sockets i = some ws' ∧ ws'.credential = ws.credential ∧
      (ws'.phase = .closed ↔ ws.phase = .closed) := by
    intro i ws hws
    obtain ⟨ws', hws'⟩ := hn.2 i ws hws
    obtain ⟨ws₀, hws₀, hcred, hcl, -⟩ := hn.1 i ws' hws'
    obtain rfl := Table.unique hws hws₀
    exact ⟨ws', hws', hcred, hcl⟩
  constructor
  · exact htabs
  · exact h.subscribed
  · exact h.nodup
  · intro i
    refine (h.registered i).trans ⟨?_, ?_⟩
    · rintro ⟨ws, hws, hsome, hph⟩
      obtain ⟨ws', hws', hcred, hcl⟩ := hst i ws hws
      exact ⟨ws', hws', hcred ▸ hsome, fun heq => hph (hcl.1 heq)⟩
    rintro ⟨ws', hws', hsome, hph⟩
    obtain ⟨ws, hws, hcred, hcl, -⟩ := hn.1 i ws' hws'
    exact ⟨ws, hws, hcred ▸ hsome, fun heq => hph (hcl.2 heq)⟩
  · exact h.byRegistration
  · exact h.bySession
  · intro i conn hconn
    obtain ⟨ws, secret, hws, hc, hph⟩ := h.linked i conn hconn
    obtain ⟨ws', hws', hcred, hcl⟩ := hst i ws hws
    exact ⟨ws', secret, hws', hcred.trans hc, fun heq => hph (hcl.1 heq)⟩
  · intro i ws' hws' hnone hph
    obtain ⟨ws, hws, hcred, -, hwas⟩ := hn.1 i ws' hws'
    exact h.refused i ws hws (hcred ▸ hnone) (hwas hph)
  · intro i token hwith
    exact h.key i token (hopen i _ hwith)
  · intro i secret hwith
    obtain ⟨session, hs, had, hconn, htm⟩ := h.session i secret (hopen i _ hwith)
    obtain ⟨ws, hws, hph, -⟩ := hwith
    exact ⟨session, hsta i secret session ⟨ws, hws, hph⟩ hconn hs, had, hconn, htm⟩

theorem StreamInv.closes (h : StreamInv env s) (htabs : SessionTables env.toMobileEnv mobile)
    (connIds : List String) (reason : String)
    (hco : ∀ i secret session, s.sessionConnections i = some ⟨session.id, session.registrationId⟩ →
      Stands env.toMobileEnv s.mobile secret session → i ∉ connIds → Stands env.toMobileEnv mobile secret session) :
    StreamInv env (EventStream.closeLiveConnections { s with mobile := mobile } connIds reason) := by
  rw [EventStream.closeLiveConnections_eq]
  refine h.narrows htabs (es_narrows fun ws => ?_) ?_
  · obtain ⟨hnot, hcred, hcl⟩ := es_closeWith ws reason
    exact ⟨hcred, hcl, fun hopen => absurd hopen hnot⟩
  rintro i secret session ⟨ws', hws', hph⟩ hconn hs
  refine hco i secret session hconn hs ?_
  intro hmem
  obtain ⟨ws, secret', hws, hc, hnot⟩ := h.linked i _ hconn
  have hreg : i ∈ s.connections := (h.registered i).2 ⟨ws, hws, by rw [hc]; rfl, hnot⟩
  obtain ⟨ws₀, -, rfl⟩ := Option.map_eq_some_iff.1 ((if_pos ⟨hmem, hreg⟩).symm.trans hws')
  exact (es_closeWith ws₀ reason).1 hph

theorem StreamInv.indexed (h : StreamInv env s) {i : String} {conn : SessionConnection}
    (hconn : s.sessionConnections i = some conn) :
    (∀ sid, i ∈ s.connectionsBySession.members sid ↔ conn.sessionId = sid) ∧
      ∀ hostId, i ∈ s.connectionsByRegistration.members hostId ↔ conn.registrationId = hostId := by
  constructor
  · intro sid
    refine (h.bySession sid i).trans ?_
    show (s.sessionConnections i).map _ = some sid ↔ _
    rw [hconn, Option.map_some, Option.some.injEq]
  intro hostId
  refine (h.byRegistration hostId i).trans ?_
  show (s.sessionConnections i).map _ = some hostId ↔ _
  rw [hconn, Option.map_some, Option.some.injEq]

theorem StreamInv.indexed_isSome (h : StreamInv env s) {i : String}
    (hi : (∃ sid, i ∈ s.connectionsBySession.members sid) ∨ ∃ hostId, i ∈ s.connectionsByRegistration.members hostId) :
    (s.sessionConnections i).isSome = true := by
  rcases hi with ⟨sid, hmem⟩ | ⟨hostId, hmem⟩
  · obtain ⟨conn, hconn, -⟩ := Option.map_eq_some_iff.1 ((h.bySession sid i).1 hmem)
    rw [hconn]
    rfl
  obtain ⟨conn, hconn, -⟩ := Option.map_eq_some_iff.1 ((h.byRegistration hostId i).1 hmem)
  rw [hconn]
  rfl

private theorem es_disconnectEach (s : EventStream α) (sids : List String) (reason : String) :
    sids.foldl (fun s sid => EventStream.disconnectWebSession s sid reason) s =
      s.closeLiveConnections (sids.flatMap s.connectionsBySession.members) reason := by
  induction sids generalizing s with
  | nil => rfl
  | cons sid sids ih =>
    rw [List.foldl_cons, ih, List.flatMap_cons]
    have hin : (s.disconnectWebSession sid reason).connectionsBySession = s.connectionsBySession := by
      rw [EventStream.disconnectWebSession, EventStream.closeLiveConnections_eq]
    rw [hin]
    exact (List.foldl_append ..).symm

private theorem es_disconnectAll (s : EventStream α) (sids : List String) (hostId reason : String) :
    EventStream.disconnectMobileRegistration
        (sids.foldl (fun s sid => EventStream.disconnectWebSession s sid reason) s) hostId reason =
      s.closeLiveConnections
        (sids.flatMap s.connectionsBySession.members ++ s.connectionsByRegistration.members hostId) reason := by
  have hin : (s.closeLiveConnections (sids.flatMap s.connectionsBySession.members) reason).connectionsByRegistration =
      s.connectionsByRegistration := by
    rw [EventStream.closeLiveConnections_eq]
  rw [es_disconnectEach, EventStream.disconnectMobileRegistration, hin]
  exact (List.foldl_append ..).symm

theorem StreamInv.serveStore_cases (h : StreamInv env s) (e : MobileEvent) :
    s.serveStore env e = s ∨ ∃ connIds reason,
      s.serveStore env e = EventStream.closeLiveConnections
        { s with mobile := mobileStep env.toMobileEnv s.mobile e } connIds reason ∧
      (∀ i ∈ connIds, (s.sessionConnections i).isSome = true) ∧
      ∀ i secret session, s.sessionConnections i = some ⟨session.id, session.registrationId⟩ →
        Stands env.toMobileEnv s.mobile secret session →
          (i ∈ connIds ↔ EndsSession env.toMobileEnv s.mobile session e) := by
  cases e with
  | logout loggedOut now =>
    simp only [EventStream.serveStore]
    split
    · exact .inl rfl
    rename_i live hlive
    obtain ⟨out, hout, hrow, -⟩ := stands_of_resolves hlive
    refine .inr ⟨_, _, rfl, fun i hi => h.indexed_isSome (.inl ⟨_, hi⟩), ?_⟩
    intro i secret session hconn hs
    refine ((h.indexed hconn).1 _).trans ?_
    rw [hrow]
    constructor
    · intro hid
      obtain rfl := Rows.eq_of_key h.tables.sessionIds hs.found hout.found hid
      exact .inl ⟨loggedOut, now, rfl, hout.digest⟩
    rintro (⟨_, _, heq, hdig⟩ | hno | hno)
    · cases heq
      rw [Rows.eq_of_key h.tables.inv.sessionHashes hs.found hout.found (hdig.trans hout.digest.symm)]
    · exact hno.elim
    · exact hno.elim
  | revoke hostId reason now =>
    simp only [EventStream.serveStore]
    cases hres : revokeMobileRegistration s.mobile hostId reason now with
    | mk mobile rest =>
      obtain ⟨found, revokedAt⟩ := rest
      have hstep : mobileStep env.toMobileEnv s.mobile (.revoke hostId reason now) = mobile := by
        simp only [mobileStep, hres]
      rw [hstep]
      cases found with
      | true =>
        refine .inr ⟨_, _, rfl, fun i hi => h.indexed_isSome (.inr ⟨_, hi⟩), ?_⟩
        intro i secret session hconn hs
        refine ((h.indexed hconn).2 _).trans ⟨?_, ?_⟩
        · rintro rfl
          exact .inr (.inl ⟨rfl, by rw [hres]⟩)
        rintro (⟨_, _, heq, -⟩ | ⟨heq, -⟩ | hno)
        · cases heq
        · exact heq.symm
        · exact hno.elim
      | false =>
        refine .inr ⟨[], "", rfl, by simp, ?_⟩
        intro i secret session hconn hs
        refine ⟨fun hno => (List.not_mem_nil hno).elim, ?_⟩
        rintro (⟨_, _, heq, -⟩ | ⟨-, hf⟩ | hno)
        · cases heq
        · rw [hres] at hf
          cases hf
        · exact hno.elim
  | exchange request draws now =>
    refine .inr ?_
    simp only [EventStream.serveStore, mobileStep]
    cases hres : exchangeMobileEnrollment env.toMobileEnv s.mobile request draws now with
    | mk mobile outcome =>
      have hends : ∀ session, EndsSession env.toMobileEnv s.mobile session (.exchange request draws now) ↔
          ∃ response ids, outcome = some (.ok response session.registrationId true ids) := by
        intro session
        constructor
        · rintro (⟨_, _, heq, -⟩ | hno | ⟨response, ids, hou⟩)
          · cases heq
          · exact hno.elim
          · exact ⟨response, ids, by rw [← hou, hres]⟩
        · rintro ⟨response, ids, hou⟩
          exact .inr (.inr ⟨response, ids, by rw [hres, hou]⟩)
      split
      · rename_i mobile' response hostId ids heq
        cases heq
        have hids : ids = openSessionIds s.mobile hostId := reconnect_sessionIds (congrArg Prod.snd hres)
        refine ⟨ids.flatMap s.connectionsBySession.members ++ s.connectionsByRegistration.members hostId,
          reconnectDisconnectReason, ?_, ?_, ?_⟩
        · exact es_disconnectAll { s with mobile := mobile } ids hostId reconnectDisconnectReason
        · intro i hi
          rcases List.mem_append.1 hi with hsess | hreg
          · obtain ⟨sid, -, hmem⟩ := List.mem_flatMap.1 hsess
            exact h.indexed_isSome (.inl ⟨sid, hmem⟩)
          · exact h.indexed_isSome (.inr ⟨_, hreg⟩)
        intro i secret session hconn hs
        rw [hends, List.mem_append, (h.indexed hconn).2]
        constructor
        · rintro (hmem | rfl)
          · obtain ⟨sid, hsid, hi⟩ := List.mem_flatMap.1 hmem
            obtain rfl := ((h.indexed hconn).1 sid).1 hi
            rw [hids] at hsid
            obtain ⟨row, hrow, hid⟩ := List.mem_map.1 hsid
            obtain ⟨hrowMem, hopen⟩ := List.mem_filter.1 hrow
            obtain rfl := Rows.eq_of_key h.tables.sessionIds hs.found hrowMem hid.symm
            simp only [isOpenSession, Bool.and_eq_true, beq_iff_eq] at hopen
            rw [← hopen.1]
            exact ⟨response, ids, rfl⟩
          · exact ⟨response, ids, rfl⟩
        · rintro ⟨response', ids', hou⟩
          cases hou
          exact .inr rfl
      · rename_i hno heq
        cases heq
        refine ⟨[], "", rfl, by simp, ?_⟩
        intro i secret session hconn hs
        rw [hends]
        refine ⟨fun hmem => (List.not_mem_nil hmem).elim, ?_⟩
        rintro ⟨response, ids, rfl⟩
        exact (hno _ _ _ rfl).elim
  | createEnrollment | createReconnect | bootstrap | checkIn =>
    refine .inr ⟨[], "", rfl, by simp, ?_⟩
    intro i secret session hconn hs
    refine ⟨fun hno => (List.not_mem_nil hno).elim, ?_⟩
    rintro (⟨_, _, heq, -⟩ | hno | hno)
    · cases heq
    · exact hno.elim
    · exact hno.elim

theorem StreamInv.serveStore (h : StreamInv env s) (e : MobileEvent) : StreamInv env (s.serveStore env e) := by
  rcases h.serveStore_cases e with hsame | ⟨connIds, reason, heq, -, hends⟩
  · rw [hsame]
    exact h
  rw [heq]
  refine h.closes (h.tables.step e) connIds reason ?_
  intro i secret session hconn hs hnot
  exact hs.step h.tables fun hend => hnot ((hends i secret session hconn hs).2 hend)

theorem StreamInv.broadcast (h : StreamInv env s) (event : α) : StreamInv env (s.broadcast event) := by
  rw [EventStream.broadcast_eq (h.subscribed ▸ h.nodup)]
  exact h.narrows h.tables (es_narrows fun ws => es_send ws _) fun _ _ _ _ _ hs => hs

private theorem es_keys (h : StreamInv env s)
    (hkey : ∀ token, s.HasKey env token → EventStream.HasKey env { s with apiKeys := apiKeys } token) :
    StreamInv env { s with apiKeys := apiKeys } where
  tables := h.tables
  subscribed := h.subscribed
  nodup := h.nodup
  registered := h.registered
  byRegistration := h.byRegistration
  bySession := h.bySession
  linked := h.linked
  refused := h.refused
  key i token hopen := hkey token (h.key i token hopen)
  session := h.session

private theorem es_findApiKey {authEnv : AuthEnv} {row : ApiKeyRow} :
    findApiKeyByToken authEnv token = some row ↔ ∃ keyId secret, parseApiKeyToken token = some (keyId, secret) ∧
      authEnv.apiKeys.find? (fun row => row.id == keyId) = some row ∧
        hashesEqual (authEnv.hashSecret secret) row.tokenHash = true := by
  unfold findApiKeyByToken
  cases parseApiKeyToken token with
  | none => simp
  | some parsed =>
    obtain ⟨keyId, secret⟩ := parsed
    cases hf : authEnv.apiKeys.find? fun row => row.id == keyId with
    | none => simp [hf]
    | some found =>
      simp only [Option.some.injEq, Prod.mk.injEq, hf]
      constructor
      · intro hrow
        by_cases hequ : hashesEqual (authEnv.hashSecret secret) found.tokenHash = true
        · rw [if_pos hequ] at hrow
          cases hrow
          exact ⟨keyId, secret, ⟨rfl, rfl⟩, hf, hequ⟩
        · rw [if_neg hequ] at hrow
          cases hrow
      · rintro ⟨_, _, ⟨rfl, rfl⟩, heq, hequ⟩
        cases hf.symm.trans heq
        exact if_pos hequ

private theorem es_hasKey (hfind : ∀ keyId row, s.apiKeys.find? (fun row => row.id == keyId) = some row →
      ∃ row', apiKeys.find? (fun row => row.id == keyId) = some row' ∧ row'.tokenHash = row.tokenHash ∧
        row'.kind = row.kind)
    (h : s.HasKey env token) : EventStream.HasKey env { s with apiKeys := apiKeys } token := by
  obtain ⟨hem, hma | ⟨row, hrow, hkind⟩⟩ := h
  · exact ⟨hem, .inl hma⟩
  obtain ⟨keyId, secret, hpar, hf, heq⟩ := es_findApiKey.1 hrow
  obtain ⟨row', hf', hhash, hkind'⟩ := hfind keyId row hf
  exact ⟨hem, .inr ⟨row', es_findApiKey.2 ⟨keyId, secret, hpar, hf', hhash ▸ heq⟩, hkind'.trans hkind⟩⟩

theorem StreamInv.insertApiKey (h : StreamInv env s) (row : ApiKeyRow) : StreamInv env (s.insertApiKey row) := by
  unfold EventStream.insertApiKey
  split
  · exact h
  refine es_keys h fun token => es_hasKey ?_
  intro keyId found hf
  exact ⟨found, by rw [List.find?_append, hf]; rfl, rfl, rfl⟩

theorem StreamInv.revokeApiKey (h : StreamInv env s) (keyId : String) (now : Int) : StreamInv env (s.revokeApiKey keyId now) := by
  refine es_keys h fun token => es_hasKey ?_
  intro id row hf
  have haf : (Rows.update s.apiKeys (fun row => ApiKeyRow.id row == keyId)
      fun row => { row with revokedAt := some now }).find? (fun row => ApiKeyRow.id row == id) = _ :=
    Rows.find_update fun _ => rfl
  by_cases hid : id = keyId
  · subst hid
    rw [if_pos rfl, hf] at haf
    exact ⟨_, haf, rfl, rfl⟩
  · rw [if_neg hid, hf] at haf
    exact ⟨row, haf, rfl, rfl⟩

/-! ### Upgrades -/

theorem EventStream.openSocket_cases (s : EventStream α) (id : String) (request : WsUpgrade) (now : Int) :
    (∃ reason, s.openSocket env id request now = s.rejectUpgrade id reason) ∨
    (∃ token, s.isWsSubscriptionAllowed env token = true ∧
      s.openSocket env id request now = s.acceptUpgrade id (.key token) none now) ∨
    ∃ secret live, resolveLiveSession (s.auth env) now secret = some live ∧ live.session.admin = 1 ∧
      s.openSocket env id request now = s.acceptUpgrade id (.session secret)
        (some (⟨live.session.id, live.session.registrationId⟩, live.session.expiresAt)) now := by
  unfold EventStream.openSocket
  split
  · rename_i token _
    split
    · rename_i hok
      exact .inr (.inl ⟨token, hok, rfl⟩)
    · exact .inl ⟨_, rfl⟩
  split
  · exact .inl ⟨_, rfl⟩
  rename_i secret _
  split
  · exact .inl ⟨_, rfl⟩
  split
  · exact .inl ⟨_, rfl⟩
  rename_i live hlive
  split
  · exact .inl ⟨_, rfl⟩
  rename_i had
  exact .inr (.inr ⟨secret, live, hlive, not_not.1 had, rfl⟩)

section Upgrades

variable {id : String} {ws : WsSocket α}

private theorem es_fresh (h : StreamInv env s) (hnew : s.sockets id = none) :
    id ∉ s.connections ∧ s.sessionConnections id = none := by
  constructor
  · intro hmem
    obtain ⟨ws, hws, -⟩ := (h.registered id).1 hmem
    cases hnew.symm.trans hws
  cases hconn : s.sessionConnections id with
  | none => rfl
  | some conn =>
    obtain ⟨ws, _, hws, -⟩ := h.linked id conn hconn
    cases hnew.symm.trans hws

private theorem es_nodup (h : StreamInv env s) (hnew : s.sockets id = none) : (s.connections ++ [id]).Nodup := by
  refine List.nodup_append.2 ⟨h.nodup, List.nodup_singleton id, ?_⟩
  rintro i hi _ hid rfl
  rw [List.mem_singleton.1 hid] at hi
  exact (es_fresh h hnew).1 hi

private theorem es_openWith {s' : EventStream α} (hso : s'.sockets = s.sockets.put id ws) {i : String}
    {c : WsCredential} (hopen : s'.OpenWith i c) :
    (i = id ∧ ws.phase = .open ∧ ws.credential = some c) ∨ (i ≠ id ∧ s.OpenWith i c) := by
  obtain ⟨ws', hws', hph, hc⟩ := hopen
  rw [hso] at hws'
  by_cases hi : i = id
  · subst hi
    cases Table.put_self.symm.trans hws'
    exact .inl ⟨rfl, hph, hc⟩
  · exact .inr ⟨hi, ws', (put_of_ne hi).symm.trans hws', hph, hc⟩

private theorem es_linked (h : StreamInv env s) (hnew : s.sockets id = none) {i : String} {conn : SessionConnection}
    (hconn : s.sessionConnections i = some conn) :
    i ≠ id ∧ ∃ ws' secret, s.sockets.put id ws i = some ws' ∧ ws'.credential = some (.session secret) ∧
      ws'.phase ≠ .closed := by
  obtain ⟨ws', secret, hws', hc, hph⟩ := h.linked i conn hconn
  have hi : i ≠ id := by
    rintro rfl
    cases hnew.symm.trans hws'
  exact ⟨hi, ws', secret, (put_of_ne hi).trans hws', hc, hph⟩

private theorem es_refused (h : StreamInv env s) (hws : ws.credential = none → ws.phase ≠ .open) (i : String)
    (ws' : WsSocket α) (hws' : s.sockets.put id ws i = some ws') (hnone : ws'.credential = none) : ws'.phase ≠ .open := by
  by_cases hi : i = id
  · subst hi
    cases Table.put_self.symm.trans hws'
    exact hws hnone
  · exact h.refused i ws' ((put_of_ne hi).symm.trans hws') hnone

private theorem es_registered (h : StreamInv env s) (hsome : ws.credential.isSome = true) (hph : ws.phase ≠ .closed)
    (i : String) : i ∈ s.connections ++ [id] ↔
      ∃ ws', s.sockets.put id ws i = some ws' ∧ ws'.credential.isSome = true ∧ ws'.phase ≠ .closed := by
  by_cases hi : i = id
  · subst hi
    simp [hsome, hph]
  · rw [put_of_ne hi, ← h.registered i]
    simp [hi]

theorem StreamInv.rejectUpgrade (h : StreamInv env s) (hnew : s.sockets id = none) (reason : String) :
    StreamInv env (s.rejectUpgrade id reason) where
  tables := h.tables
  subscribed := h.subscribed
  nodup := h.nodup
  registered i := by
    refine (h.registered i).trans ?_
    by_cases hi : i = id
    · subst hi
      simp [EventStream.rejectUpgrade, hnew]
    · simp [EventStream.rejectUpgrade, put_of_ne hi]
  byRegistration := h.byRegistration
  bySession := h.bySession
  linked i conn hconn := (es_linked h hnew hconn).2
  refused := es_refused h (by simp)
  key i token hopen := by
    obtain ⟨-, hph, -⟩ | ⟨-, hwas⟩ := es_openWith rfl hopen
    · cases hph
    · exact h.key i token hwas
  session i secret hopen := by
    obtain ⟨-, hph, -⟩ | ⟨-, hwas⟩ := es_openWith rfl hopen
    · cases hph
    · exact h.session i secret hwas

theorem StreamInv.acceptKey (h : StreamInv env s) (hnew : s.sockets id = none) {token : String}
    (hok : s.isWsSubscriptionAllowed env token = true) (now : Int) :
    StreamInv env (s.acceptUpgrade id (.key token) none now) where
  tables := h.tables
  subscribed := congrArg (· ++ [id]) h.subscribed
  nodup := show (s.connections ++ [id]).Nodup from es_nodup h hnew
  registered := es_registered h rfl (by simp)
  byRegistration := h.byRegistration
  bySession := h.bySession
  linked i conn hconn := (es_linked h hnew hconn).2
  refused := es_refused h (by simp)
  key i token' hopen := by
    obtain ⟨-, -, hc⟩ | ⟨-, hwas⟩ := es_openWith rfl hopen
    · cases hc
      exact (isWsSubscriptionAllowed_iff.1 hok).1
    · exact h.key i token' hwas
  session i secret hopen := by
    obtain ⟨-, -, hc⟩ | ⟨-, hwas⟩ := es_openWith rfl hopen
    · cases hc
    · exact h.session i secret hwas

private theorem es_owner {β : Type} (conn : SessionConnection) (f : SessionConnection → β) :
    Function.update (fun i => (s.sessionConnections i).map f) id (some (f conn)) =
      fun i => (s.sessionConnections.put id conn i).map f := by
  funext i
  by_cases hi : i = id
  · subst hi
    simp
  · simp [hi, put_of_ne hi]

theorem StreamInv.acceptSession (h : StreamInv env s) (hnew : s.sockets id = none) {secret : String}
    {live : LiveMobileSession} {now : Int} (hlive : resolveLiveSession (s.auth env) now secret = some live)
    (had : live.session.admin = 1) :
    StreamInv env (s.acceptUpgrade id (.session secret)
      (some (⟨live.session.id, live.session.registrationId⟩, live.session.expiresAt)) now) := by
  have hnone := (es_fresh h hnew).2
  constructor
  · exact h.tables
  · exact congrArg (· ++ [id]) h.subscribed
  · exact show (s.connections ++ [id]).Nodup from es_nodup h hnew
  · exact es_registered h rfl (by simp)
  · have hadd := h.byRegistration.add (k := live.session.registrationId) (i := id) (by simp [hnone])
    exact (es_owner ⟨live.session.id, live.session.registrationId⟩ SessionConnection.registrationId) ▸ hadd
  · have hadd := h.bySession.add (k := live.session.id) (i := id) (by simp [hnone])
    exact (es_owner ⟨live.session.id, live.session.registrationId⟩ SessionConnection.sessionId) ▸ hadd
  · intro i conn hconn
    by_cases hi : i = id
    · subst hi
      exact ⟨_, secret, put_self, rfl, by simp⟩
    · exact (es_linked h hnew ((put_of_ne hi).symm.trans hconn)).2
  · exact es_refused h (by simp)
  · intro i token hopen
    obtain ⟨-, -, hc⟩ | ⟨-, hwas⟩ := es_openWith rfl hopen
    · cases hc
    · exact h.key i token hwas
  intro i secret' hopen
  obtain ⟨rfl, -, hc⟩ | ⟨hi, hwas⟩ := es_openWith rfl hopen
  · cases hc
    obtain ⟨session, hs, hrow, hun⟩ := stands_of_resolves hlive
    refine ⟨session, hs, by rw [← had, hrow], ?_, ?_⟩
    · rw [hrow]
      exact put_self
    rw [hrow]
    refine Table.put_self.trans (congrArg some ?_)
    exact max_eq_right (le_of_lt hun)
  · obtain ⟨session, hs, had', hconn, htm⟩ := h.session i secret' hwas
    exact ⟨session, hs, had', (put_of_ne hi).trans hconn, (put_of_ne hi).trans htm⟩

end Upgrades

/-! ### Timers and close handlers -/

theorem StreamInv.closeFn (h : StreamInv env s) (id reason : String) : StreamInv env (s.closeFn id reason) := by
  refine h.narrows h.tables (es_narrows fun ws => ?_) fun _ _ _ _ _ hs => hs
  obtain ⟨hnot, hcred, hcl⟩ := es_closeWith ws reason
  exact ⟨hcred, hcl, fun hopen => absurd hopen hnot⟩

private theorem es_timers (h : StreamInv env s) {timers : Table String Int}
    (hkept : ∀ i secret, s.OpenWith i (.session secret) → timers i = s.timers i) :
    StreamInv env { s with timers := timers } where
  tables := h.tables
  subscribed := h.subscribed
  nodup := h.nodup
  registered := h.registered
  byRegistration := h.byRegistration
  bySession := h.bySession
  linked := h.linked
  refused := h.refused
  key := h.key
  session i secret hopen := by
    obtain ⟨session, hs, had, hconn, htm⟩ := h.session i secret hopen
    exact ⟨session, hs, had, hconn, (hkept i secret hopen).trans htm⟩

theorem StreamInv.expire (h : StreamInv env s) (id : String) (now : Int) : StreamInv env (s.expire id now) := by
  unfold EventStream.expire
  split
  · exact h
  split
  · exact h
  -- once the timer has run, no cookie connection of this id is open
  split
  · refine es_timers (h.closeFn id "session expired") ?_
    rintro i secret ⟨ws', hws', hph, -⟩
    refine erase_of_ne ?_
    rintro rfl
    obtain ⟨ws, -, rfl⟩ := Option.map_eq_some_iff.1 ((if_pos rfl).symm.trans hws')
    exact (es_closeWith ws _).1 hph
  · rename_i hnone
    refine es_timers h ?_
    intro i secret hopen
    refine erase_of_ne ?_
    rintro rfl
    obtain ⟨session, -, -, hconn, -⟩ := h.session i secret hopen
    exact hnone (by rw [hconn]; rfl)

private theorem es_unregister (h : StreamInv env s) (id : String) (sockets : Table String (WsSocket α)) :
    ∃ byRegistration bySession, EventStream.unregisterConnection { s with sockets := sockets } id =
        { s with
          sockets := sockets
          subscribers := s.subscribers.filter (· ≠ id)
          connections := s.connections.filter (· ≠ id)
          sessionConnections := s.sessionConnections.erase id
          connectionsByRegistration := byRegistration
          connectionsBySession := bySession } ∧
      byRegistration.IndexOf (fun i => (s.sessionConnections.erase id i).map SessionConnection.registrationId) ∧
      bySession.IndexOf (fun i => (s.sessionConnections.erase id i).map SessionConnection.sessionId) := by
  have hfilt : id ∉ s.connections → s.connections.filter (· ≠ id) = s.connections := by
    intro hnot
    refine List.filter_eq_self.2 fun i hi => decide_eq_true ?_
    rintro rfl
    exact hnot hi
  have hmaps : (if id ∈ s.connections then
      { s with
        sockets := sockets
        subscribers := s.subscribers.filter (· ≠ id)
        connections := s.connections.filter (· ≠ id) } else { s with sockets := sockets }) =
      { s with
        sockets := sockets
        subscribers := s.subscribers.filter (· ≠ id)
        connections := s.connections.filter (· ≠ id) } := by
    split
    · rfl
    · rename_i hnot
      rw [h.subscribed, hfilt hnot, ← h.subscribed]
  have hw : ∀ {β : Type} (f : SessionConnection → β),
      Function.update (fun i => (s.sessionConnections i).map f) id none =
        fun i => (s.sessionConnections.erase id i).map f := by
    intro β f
    funext i
    by_cases hi : i = id
    · subst hi
      simp
    · simp [hi, erase_of_ne hi]
  unfold EventStream.unregisterConnection
  cases hconn : s.sessionConnections id with
  | none =>
    have her : s.sessionConnections.erase id = s.sessionConnections := by
      unfold Table.erase
      rw [← hconn]
      exact Function.update_eq_self id s.sessionConnections
    refine ⟨_, _, ?_, her ▸ h.byRegistration, her ▸ h.bySession⟩
    rw [her]
    exact hmaps
  | some conn =>
    refine ⟨_, _, ?_, hw _ ▸ h.byRegistration.remove (by rw [hconn]; rfl),
      hw _ ▸ h.bySession.remove (by rw [hconn]; rfl)⟩
    simp only [hmaps]

theorem StreamInv.socketClosed (h : StreamInv env s) (id : String) : StreamInv env (s.socketClosed id) := by
  obtain ⟨byRegistration, bySession, heq, hbyRegistration, hbySession⟩ := es_unregister h id
    fun i => if i = id then (s.sockets i).map fun ws => { ws with phase := .closed } else s.sockets i
  unfold EventStream.socketClosed EventStream.onSocket
  rw [heq]
  -- the socket is closed now, and the others are as they were
  have hself : ∀ {ws'}, (if id = id then (s.sockets id).map fun ws => { ws with phase := .closed } else s.sockets id) =
      some ws' → ws'.phase = .closed := by
    intro ws' hws'
    obtain ⟨ws, -, rfl⟩ := Option.map_eq_some_iff.1 ((if_pos rfl).symm.trans hws')
    rfl
  have hoth : ∀ {i c}, EventStream.OpenWith { s with
      sockets := fun i => if i = id then (s.sockets i).map fun ws => { ws with phase := .closed } else s.sockets i
      connectionsBySession := bySession } i c → i ≠ id ∧ s.OpenWith i c := by
    rintro i c ⟨ws', hws', hph, hc⟩
    have hi : i ≠ id := by
      rintro rfl
      cases (hself hws').symm.trans hph
    exact ⟨hi, ws', (if_neg hi).symm.trans hws', hph, hc⟩
  constructor
  · exact h.tables
  · exact congrArg (List.filter (· ≠ id)) h.subscribed
  · exact h.nodup.filter _
  · intro i
    by_cases hi : i = id
    · subst hi
      constructor
      · intro hmem
        simp at hmem
      · rintro ⟨ws', hws', -, hph⟩
        exact absurd (hself hws') hph
    · simp only [hi, if_false, List.mem_filter, ne_eq, not_false_eq_true, decide_true, and_true]
      exact h.registered i
  · exact hbyRegistration
  · exact hbySession
  · intro i conn hconn
    have hi : i ≠ id := by
      rintro rfl
      cases Table.erase_self.symm.trans hconn
    obtain ⟨ws, secret, hws, hc, hph⟩ := h.linked i conn ((erase_of_ne hi).symm.trans hconn)
    exact ⟨ws, secret, (if_neg hi).trans hws, hc, hph⟩
  · intro i ws' hws' hnone hph
    by_cases hi : i = id
    · subst hi
      cases (hself hws').symm.trans hph
    · exact h.refused i ws' ((if_neg hi).symm.trans hws') hnone hph
  · intro i token hopen
    exact h.key i token (hoth hopen).2
  · intro i secret hopen
    obtain ⟨hi, hwas⟩ := hoth hopen
    obtain ⟨session, hs, had, hconn, htm⟩ := h.session i secret hwas
    exact ⟨session, hs, had, (erase_of_ne hi).trans hconn, htm⟩

theorem StreamInv.step (h : StreamInv env s) (e : StreamEvent α) : StreamInv env (s.step env e) := by
  cases e with
  | upgrade id request now =>
    show StreamInv env (if (s.sockets id).isSome then s else s.openSocket env id request now.val)
    split
    · exact h
    rename_i hold
    have hnew : s.sockets id = none := by simpa using hold
    have hc : (∃ reason, s.openSocket env id request now.val = s.rejectUpgrade id reason) ∨ _ :=
      s.openSocket_cases id request now.val
    rcases hc with ⟨reason, heq⟩ | ⟨token, hok, heq⟩ |
      ⟨secret, live, hlive, had, heq⟩
    · rw [heq]
      exact h.rejectUpgrade hnew reason
    · rw [heq]
      exact h.acceptKey hnew hok now.val
    · rw [heq]
      exact h.acceptSession hnew hlive had
  | broadcast event now => exact h.broadcast event
  | store e => exact h.serveStore e
  | createKey row => exact h.insertApiKey row
  | revokeKey keyId now => exact h.revokeApiKey keyId now.val
  | expire id now => exact h.expire id now.val
  | closed id => exact h.socketClosed id

/-! ### What the invariant gives -/

theorem StreamInv.closedAreGone (h : StreamInv env s) : s.ClosedAreGone := by
  intro i ws hws hcl
  have hnot : i ∉ s.connections := by
    intro hmem
    obtain ⟨ws', hws', -, hph⟩ := (h.registered i).1 hmem
    exact hph (Table.unique hws hws' ▸ hcl)
  have hnone : s.sessionConnections i = none := by
    cases hconn : s.sessionConnections i with
    | none => rfl
    | some conn =>
      obtain ⟨ws', _, hws', -, hph⟩ := h.linked i conn hconn
      exact absurd (Table.unique hws hws' ▸ hcl) hph
  refine ⟨h.subscribed ▸ hnot, hnot, hnone, ?_, ?_⟩
  · intro hostId hmem
    have hsome := h.indexed_isSome (.inr ⟨hostId, hmem⟩)
    rw [hnone] at hsome
    cases hsome
  intro sid hmem
  have hsome := h.indexed_isSome (.inl ⟨sid, hmem⟩)
  rw [hnone] at hsome
  cases hsome

theorem StreamInv.receivedBy_iff (h : StreamInv env s) (event : α) (i : String) :
    s.ReceivedBy event i ↔ ∃ c, s.OpenWith i c := by
  unfold EventStream.ReceivedBy
  rw [EventStream.broadcast_eq (h.subscribed ▸ h.nodup), h.subscribed]
  constructor
  · rintro ⟨ws, ws', hws, hws', hre⟩
    have hph : i ∈ s.connections ∧ ws.phase = .open := by
      by_contra hnot
      have hsame : ws' = ws := by
        by_cases hmem : i ∈ s.connections
        · cases Table.unique ((if_pos hmem).trans (by rw [hws]; rfl)) hws'
          exact if_neg fun hopen => hnot ⟨hmem, hopen⟩
        · exact Table.unique hws' ((if_neg hmem).trans hws)
      rw [hsame] at hre
      have hlen := congrArg List.length hre
      simp at hlen
    cases hc : ws.credential with
    | none => exact absurd hph.2 (h.refused i ws hws hc)
    | some c => exact ⟨c, ws, hws, hph.2, hc⟩
  · rintro ⟨c, ws, hws, hph, hc⟩
    have hmem : i ∈ s.connections := (h.registered i).2 ⟨ws, hws, by rw [hc]; rfl, by simp [hph]⟩
    refine ⟨ws, ws.send (.event event), hws, ?_, ?_⟩
    · exact (if_pos hmem).trans (by rw [hws]; rfl)
    · simp [WsSocket.send, hph]

theorem StreamInv.accepts_iff (h : StreamInv env s) {i : String} {c : WsCredential} (hopen : s.OpenWith i c) (now : Int) :
    s.accepts env now c = true ↔ (∀ token, c = .key token → s.namesRevokedKey env token = false) ∧
      ∀ secret due, c = .session secret → s.timers i = some due → now < due := by
  cases c with
  | key token =>
    refine isWsSubscriptionAllowed_iff.trans ⟨?_, ?_⟩
    · rintro ⟨-, hun⟩
      refine ⟨?_, by rintro _ _ ⟨⟩⟩
      rintro _ ⟨⟩
      exact hun
    · rintro ⟨hun, -⟩
      exact ⟨h.key i token hopen, hun token rfl⟩
  | session secret =>
    obtain ⟨session, hs, had, -, htm⟩ := h.session i secret hopen
    constructor
    · intro hacc
      obtain ⟨live, hlive, -⟩ := (Option.any_eq_true ..).1 hacc
      obtain ⟨session', hs', -, hune⟩ := stands_of_resolves hlive
      refine ⟨by rintro _ ⟨⟩, ?_⟩
      rintro _ due ⟨⟩ hdue
      rw [Table.unique hdue htm, h.tables.stands_unique hs hs']
      exact hune
    · rintro ⟨-, hdue⟩
      obtain ⟨live, hlive, hrow⟩ := h.tables.resolves hs (hdue secret _ rfl htm)
      refine (Option.any_eq_true ..).2 ⟨live, hlive, ?_⟩
      rw [hrow]
      exact beq_iff_eq.2 had

theorem StreamInv.stops_iff (h : StreamInv env s) (e : StreamEvent α) :
    s.StopsWithCredential env e ↔ s.GuardHolds env e := by
  cases e with
  | broadcast event now =>
    constructor
    · intro hsp
      have hacc : ∀ i c, s.OpenWith i c → s.accepts env now.val c = true := by
        intro i c hopen
        obtain ⟨c', hopen', hacc⟩ := hsp i ((h.receivedBy_iff event i).2 ⟨c, hopen⟩)
        obtain ⟨ws, hws, -, hc⟩ := hopen
        obtain ⟨ws', hws', -, hc'⟩ := hopen'
        rw [Table.unique hws hws', hc'] at hc
        cases hc
        exact hacc
      exact ⟨fun i token hopen => ((h.accepts_iff hopen now.val).1 (hacc i _ hopen)).1 token rfl,
        fun i secret due hopen => ((h.accepts_iff hopen now.val).1 (hacc i _ hopen)).2 secret due rfl⟩
    · rintro ⟨hkeys, hti⟩ i hre
      obtain ⟨c, hopen⟩ := (h.receivedBy_iff event i).1 hre
      refine ⟨c, hopen, (h.accepts_iff hopen now.val).2 ⟨?_, ?_⟩⟩
      · rintro token rfl
        exact hkeys i token hopen
      · rintro secret due rfl
        exact hti i secret due hopen
  | upgrade | store | createKey | revokeKey | expire | closed => exact Iff.rfl

private theorem es_stays (h : StreamInv env s) {e : StreamEvent α} {i : String} {c : WsCredential} (hopen : s.OpenWith i c)
    (ho : e ≠ .closed i) (hacc : ∀ now ∈ EventStream.time e, (s.step env e).accepts env now c = true) :
    (s.step env e).OpenWith i c := by
  obtain ⟨ws, hws, hph, hc⟩ := hopen
  cases e with
  | upgrade id request now =>
    have hput : ∀ {s' : EventStream α} {new}, s'.sockets = s.sockets.put id new → i ≠ id → s'.OpenWith i c :=
      fun heq hi => ⟨ws, (congrFun heq i).trans ((put_of_ne hi).trans hws), hph, hc⟩
    show EventStream.OpenWith (if (s.sockets id).isSome then s else s.openSocket env id request now.val) i c
    split
    · exact ⟨ws, hws, hph, hc⟩
    rename_i hnew
    have hi : i ≠ id := by
      rintro rfl
      rw [hws] at hnew
      exact hnew rfl
    have hca : (∃ reason, s.openSocket env id request now.val = s.rejectUpgrade id reason) ∨ _ :=
      s.openSocket_cases id request now.val
    rcases hca with ⟨reason, heq⟩ | ⟨token, -, heq⟩ |
      ⟨secret, live, -, -, heq⟩
    all_goals
      rw [heq]
      exact hput rfl hi
  | broadcast event now =>
    show EventStream.OpenWith (s.broadcast event) i c
    rw [EventStream.broadcast_eq (h.subscribed ▸ h.nodup)]
    by_cases hmem : i ∈ s.subscribers
    · refine ⟨ws.send (.event event), (if_pos hmem).trans (by rw [hws]; rfl), ?_, ?_⟩
      · simp [WsSocket.send, hph]
      · simp [WsSocket.send, hph, hc]
    · exact ⟨ws, (if_neg hmem).trans hws, hph, hc⟩
  | store e =>
    have hst := hacc (EventStream.storeTime e).val rfl
    show EventStream.OpenWith (s.serveStore env e) i c
    have hstep : s.step env (.store e) = s.serveStore env e := rfl
    rw [hstep] at hst
    rcases h.serveStore_cases e with hsame | ⟨connIds, reason, heq, hli, hends⟩
    · rw [hsame]
      exact ⟨ws, hws, hph, hc⟩
    rw [heq, EventStream.closeLiveConnections_eq] at hst ⊢
    by_cases hmem : i ∈ connIds
    · obtain ⟨conn, hconn⟩ := Option.isSome_iff_exists.1 (hli i hmem)
      obtain ⟨ws', secret, hws', hc', -⟩ := h.linked i conn hconn
      rw [Table.unique hws hws', hc'] at hc
      cases hc
      obtain ⟨session, hs, -, hconn', -⟩ := h.session i secret ⟨ws, hws, hph, Table.unique hws hws' ▸ hc'⟩
      have hend := (hends i secret session hconn' hs).1 hmem
      have hnone := ended_not_resolves h.tables hs hend (EventStream.storeTime e).val
      obtain ⟨live, hlive, -⟩ := (Option.any_eq_true ..).1 hst
      cases hnone.symm.trans hlive
    · exact ⟨ws, (if_neg fun hboth => hmem hboth.1).trans hws, hph, hc⟩
  | createKey row =>
    show EventStream.OpenWith (s.insertApiKey row) i c
    unfold EventStream.insertApiKey
    split <;> exact ⟨ws, hws, hph, hc⟩
  | revokeKey keyId now => exact ⟨ws, hws, hph, hc⟩
  | expire id now =>
    have hex := hacc now.val rfl
    show EventStream.OpenWith (s.expire id now.val) i c
    have hstep : s.step env (.expire id now) = s.expire id now.val := rfl
    rw [hstep] at hex
    unfold EventStream.expire at hex ⊢
    split
    · exact ⟨ws, hws, hph, hc⟩
    rename_i due hdue
    split
    · exact ⟨ws, hws, hph, hc⟩
    rename_i hfd
    split
    · rename_i hsome
      by_cases hi : i = id
      · exfalso
        subst hi
        obtain ⟨conn, hconn⟩ := Option.isSome_iff_exists.1 hsome
        obtain ⟨ws', secret, hws', hc', -⟩ := h.linked i conn hconn
        obtain rfl := Table.unique hws hws'
        cases hc'.symm.trans hc
        simp only [hdue, hfd, hsome, if_true, if_false] at hex
        have hbef : s.accepts env now.val (.session secret) = true := hex
        exact hfd (((h.accepts_iff ⟨ws, hws, hph, hc⟩ now.val).1 hbef).2 secret due rfl hdue)
      · exact ⟨ws, (if_neg hi).trans hws, hph, hc⟩
    · exact ⟨ws, hws, hph, hc⟩
  | closed id =>
    have hi : i ≠ id := by
      rintro rfl
      exact ho rfl
    obtain ⟨_, _, heq, -, -⟩ := es_unregister h id
      fun i => if i = id then (s.sockets i).map fun ws => { ws with phase := .closed } else s.sockets i
    show EventStream.OpenWith (s.socketClosed id) i c
    unfold EventStream.socketClosed EventStream.onSocket
    rw [heq]
    exact ⟨ws, (if_neg hi).trans hws, hph, hc⟩

theorem StreamInv.othersKeepReceiving (h : StreamInv env s) (e : StreamEvent α) : s.OthersKeepReceiving env e := by
  constructor
  · rintro event now rfl i c hopen
    exact (h.receivedBy_iff event i).2 ⟨c, hopen⟩
  · intro i c hopen ho hacc
    exact es_stays h hopen ho hacc

/-- In a run every broadcast goes to connections with valid credentials only, exactly when every broadcast finds no open
connection of a revoked key and none whose timer is due.  A closed connection is in no map, and every open connection
receives every broadcast and stays open while its credential is valid, in every run. -/
theorem event_stream_stops_with_credential (env : WsEnv) (hosts : List MobileHostRow) (past : List MobileEvent)
    (apiKeys : List ApiKeyRow) (es : List (StreamEvent α)) :
    (Always (EventStream.step env) (EventStream.StopsWithCredential env)
        (newEventStream α apiKeys (run (mobileStep env.toMobileEnv) (emptyMobileDb hosts) past)) es ↔
      Always (EventStream.step env) (EventStream.GuardHolds env)
        (newEventStream α apiKeys (run (mobileStep env.toMobileEnv) (emptyMobileDb hosts) past)) es) ∧
    Always (EventStream.step env) (fun s e => (s.step env e).ClosedAreGone ∧ s.OthersKeepReceiving env e)
      (newEventStream α apiKeys (run (mobileStep env.toMobileEnv) (emptyMobileDb hosts) past)) es := by
  have hnew : StreamInv env
      (newEventStream α apiKeys (run (mobileStep env.toMobileEnv) (emptyMobileDb hosts) past)) :=
    streamInv_new ((sessionTables_empty hosts).run past)
  constructor
  · exact always_congr hnew (fun s e h => h.stops_iff e) fun s e h _ => h.step e
  · exact always_true.of_invariant hnew (fun s e h _ => h.step e) fun s e h _ =>
      ⟨(h.step e).closedAreGone, h.othersKeepReceiving e⟩

/-! ### A revoked key -/

def exampleWsEnv : WsEnv := { exampleMobileEnv with masterKey := "master", decodeBase64 := id }

def exampleAdminKey : ApiKeyRow where
  id := "ABCDEFGHJKLM"
  kind := "admin"
  hostId := none
  tokenHash := (exampleHashSecret "0123456789abcdef").val
  revokedAt := none

private theorem es_two : (0 : Int) < 2 := by
  decide

private theorem es_three : (0 : Int) < 3 := by
  decide

def keyRevoked : List (StreamEvent String) := [
  .upgrade "c1" ⟨fun _ => none, some "lmsk.ABCDEFGHJKLM.0123456789abcdef"⟩ ⟨1, Int.one_pos⟩,
  .revokeKey "ABCDEFGHJKLM" ⟨2, es_two⟩,
  .broadcast "event" ⟨3, es_three⟩]

/-- The subscriber of a revoked key receives what is broadcast afterwards. -/
theorem event_stream_outlives_key :
    ¬ Always (EventStream.step exampleWsEnv) (EventStream.StopsWithCredential exampleWsEnv)
      (newEventStream String [exampleAdminKey] (emptyMobileDb [])) keyRevoked := by
  intro hal
  have hbr : EventStream.StopsWithCredential exampleWsEnv (run (EventStream.step exampleWsEnv)
      (newEventStream String [exampleAdminKey] (emptyMobileDb [])) (keyRevoked.take 2)) (.broadcast "event" ⟨3, es_three⟩) :=
    hal.2.2.1
  have hinv : StreamInv exampleWsEnv (run (EventStream.step exampleWsEnv)
      (newEventStream String [exampleAdminKey] (emptyMobileDb [])) (keyRevoked.take 2)) :=
    run_invariant (streamInv_new (sessionTables_empty [])) fun _ e h => h.step e
  have hfc : (((run (EventStream.step exampleWsEnv) (newEventStream String [exampleAdminKey] (emptyMobileDb []))
      (keyRevoked.take 2)).sockets "c1").any fun ws =>
        ws.phase = .open && ws.credential = some (.key "lmsk.ABCDEFGHJKLM.0123456789abcdef")) = true ∧
      EventStream.accepts exampleWsEnv (run (EventStream.step exampleWsEnv)
        (newEventStream String [exampleAdminKey] (emptyMobileDb [])) (keyRevoked.take 2)) 3
        (.key "lmsk.ABCDEFGHJKLM.0123456789abcdef") = false := by
    decide +kernel
  obtain ⟨ws, hws, hboth⟩ := (Option.any_eq_true _ _).1 hfc.1
  rw [Bool.and_eq_true, decide_eq_true_iff, decide_eq_true_iff] at hboth
  -- the connection is open, so the broadcast reaches it
  obtain ⟨c, ⟨ws', hws', -, hc⟩, hacc⟩ := hbr "c1" ((hinv.receivedBy_iff _ _).2 ⟨_, ws, hws, hboth⟩)
  obtain rfl := Table.unique hws hws'
  cases hboth.2.symm.trans hc
  cases hfc.2.symm.trans hacc

/-- In every run the connections that receive events are the accepted ones that are not closed, each once; the indexes of
the sessions list exactly their connections; and an open connection of a session is closed by a timer at its expiry. -/
theorem stream_registry_exact {α : Type} (env : WsEnv) (apiKeys : List ApiKeyRow) (hosts : List MobileHostRow)
    (es : List (StreamEvent α)) :
    let s := run (EventStream.step env) (newEventStream α apiKeys (emptyMobileDb hosts)) es
    s.subscribers = s.connections ∧ s.connections.Nodup ∧
    (∀ i, i ∈ s.connections ↔ ∃ ws, s.sockets i = some ws ∧ ws.credential.isSome = true ∧ ws.phase ≠ .closed) ∧
    (∀ id i, i ∈ s.connectionsByRegistration.members id ↔
      (s.sessionConnections i).map SessionConnection.registrationId = some id) ∧
    (∀ id i, i ∈ s.connectionsBySession.members id ↔ (s.sessionConnections i).map SessionConnection.sessionId = some id) ∧
    ∀ i secret, s.OpenWith i (.session secret) → ∃ session, Stands env.toMobileEnv s.mobile secret session ∧
      s.sessionConnections i = some ⟨session.id, session.registrationId⟩ ∧ s.timers i = some session.expiresAt := by
  intro s
  have hinv : StreamInv env s := run_invariant (streamInv_new (sessionTables_empty hosts)) fun _ e h => h.step e
  refine ⟨hinv.subscribed, hinv.nodup, hinv.registered, hinv.byRegistration, hinv.bySession, fun i secret hopen => ?_⟩
  obtain ⟨session, hst, -, hli, htm⟩ := hinv.session i secret hopen
  exact ⟨session, hst, hli, htm⟩

end LamaSync
