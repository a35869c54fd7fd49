import LamaSync.Server.MobileCredentials

/-!
# Sessions that stand

`resolveLiveSession` looks at four rows: the session, its registration and its grant, and the clock.  A session stands
when the three rows are there and none is revoked; then its cookie resolves until it expires (`SessionTables.resolves`),
and only what resolves stands (`SessionTables.stands`).

A call of the store ends a session when it logs it out, revokes its registration or reconnects it.  Every other call
leaves it standing (`Stands.step`), and after one of these its cookie does not resolve any more (`ended_not_resolves`).
-/

namespace LamaSync

variable {env : MobileEnv} {db : MobileDb} {e : MobileEvent} {secret : String} {session : WebSession} {now : Int}

structure SessionTables (env : MobileEnv) (db : MobileDb) : Prop where
  inv : MobileInv env db
  grantIds : (db.grants.map fun grant => grant.id).Nodup
  sessionIds : (db.sessions.map fun session => session.id).Nodup
  granted : ∀ session ∈ db.sessions, ∃ grant ∈ db.grants, grant.id = session.grantId ∧
    grant.registrationId = session.registrationId

structure Stands (env : MobileEnv) (db : MobileDb) (secret : String) (session : WebSession) : Prop where
  found : session ∈ db.sessions
  digest : session.sessionHash = env.hash secret
  live : isRowRevoked session.revokedAt = false
  registration : ∃ r ∈ db.registrations, r.hostId = session.registrationId ∧ isRowRevoked r.revokedAt = false
  grant : ∃ grant ∈ db.grants, grant.id = session.grantId ∧ isRowRevoked grant.revokedAt = false

def EndsSession (env : MobileEnv) (db : MobileDb) (session : WebSession) (e : MobileEvent) : Prop :=
  (∃ secret now, e = .logout secret now ∧ session.sessionHash = env.hash secret) ∨
  RevokesHost db session.registrationId e ∨ ReconnectsHost env db session.registrationId e

theorem SessionTables.resolves (h : SessionTables env db) (hs : Stands env db secret session)
    (hnow : now < session.expiresAt) :
    ∃ live, resolveLiveSession (db.authEnv env) now secret = some live ∧ live.session = session.toWebSessionRow := by
  obtain ⟨r, hr, hhost, hrl⟩ := hs.registration
  obtain ⟨grant, hgr, hid, hgl⟩ := hs.grant
  have hsess : (db.authEnv env).sessions.find? (fun row => row.sessionHash == env.hash secret) =
      some session.toWebSessionRow := by
    have huniq := Rows.find_unique h.inv.sessionHashes hs.found
    simp only [MobileDb.authEnv, List.find?_map, ← hs.digest]
    exact congrArg (Option.map WebSession.toWebSessionRow) huniq
  have hreg : (db.authEnv env).registrations.find? (fun row => row.hostId == session.registrationId) =
      some r.toMobileRegistrationRow := by
    have huniq := Rows.find_unique h.inv.hostIds hr
    simp only [MobileDb.authEnv, List.find?_map, ← hhost]
    exact congrArg (Option.map MobileRegistration.toMobileRegistrationRow) huniq
  have hgrantRow : (db.authEnv env).grants.find? (fun row => row.id == session.grantId) = some grant.toWebGrantRow := by
    have huniq := Rows.find_unique h.grantIds hgr
    simp only [MobileDb.authEnv, List.find?_map, ← hid]
    exact congrArg (Option.map WebGrant.toWebGrantRow) huniq
  refine ⟨⟨session.toWebSessionRow, r.toMobileRegistrationRow, grant.toWebGrantRow⟩, ?_, rfl⟩
  have hexp : ¬ session.expiresAt ≤ now := by omega
  unfold resolveLiveSession
  rw [show (db.authEnv env).hashSecret secret = env.hash secret from rfl, hsess]
  simp only [hs.live, hexp, Bool.false_eq_true, or_self, if_false, hreg, hrl, hgrantRow, hgl]

theorem stands_of_resolves {live : LiveMobileSession}
    (hlive : resolveLiveSession (db.authEnv env) now secret = some live) :
    ∃ session, Stands env db secret session ∧ live.session = session.toWebSessionRow ∧ now < session.expiresAt := by
  unfold resolveLiveSession at hlive
  split at hlive
  · cases hlive
  rename_i row hf
  obtain ⟨hmem, hhash⟩ := Rows.find_some hf
  obtain ⟨session, hsess, rfl⟩ := List.mem_map.1 hmem
  split at hlive
  · cases hlive
  rename_i hopen
  obtain ⟨hun, hune⟩ := not_or.1 hopen
  split at hlive
  · cases hlive
  rename_i registration hreg
  obtain ⟨hregMem, hhost⟩ := Rows.find_some hreg
  obtain ⟨r, hr, rfl⟩ := List.mem_map.1 hregMem
  split at hlive
  · cases hlive
  rename_i hrl
  split at hlive
  · cases hlive
  rename_i grantRow hgrantRow
  obtain ⟨hgrantMem, hid⟩ := Rows.find_some hgrantRow
  obtain ⟨grant, hgr, rfl⟩ := List.mem_map.1 hgrantMem
  split at hlive
  · cases hlive
  rename_i hgl
  cases hlive
  refine ⟨session, ⟨hsess, hhash, by simpa using hun, ⟨r, hr, hhost, by simpa using hrl⟩,
    ⟨grant, hgr, hid, by simpa using hgl⟩⟩, rfl, by omega⟩

theorem SessionTables.stands_unique (h : SessionTables env db) {session' : WebSession} (hs : Stands env db secret session)
    (hs' : Stands env db secret session') : session = session' :=
  Rows.eq_of_key h.inv.sessionHashes hs.found hs'.found (hs.digest.trans hs'.digest.symm)

theorem sessionTables_empty (hosts : List MobileHostRow) : SessionTables env (emptyMobileDb hosts) :=
  ⟨mobileInv_empty hosts, by simp [emptyMobileDb], by simp [emptyMobileDb], by simp [emptyMobileDb]⟩

variable {db' : MobileDb}

private theorem lv_kept_ids (hmove : MobileMove env db e db') (hids : (db.sessions.map fun s => s.id).Nodup)
    (hop : ∀ grant sessionSecret sessionId now, e ≠ .bootstrap grant sessionSecret sessionId now) :
    (db'.sessions.map fun s => s.id).Nodup := by
  cases hmove with
  | same | enrollNew | enrollReconnect | install | checkIn => exact hids
  | rotate | revoke | logout => exact Rows.nodup_update (fun _ => rfl) hids
  | openSession => exact absurd rfl (hop _ _ _ _)

private theorem lv_sessionIds (h : SessionTables env db) (e : MobileEvent) :
    ((mobileStep env db e).sessions.map fun session => session.id).Nodup := by
  cases e with
  | bootstrap grant sessionSecret sessionId now =>
    simp only [mobileStep, bootstrapMobileWebSession]
    split
    · exact h.sessionIds
    split
    · exact h.sessionIds
    split
    · exact h.sessionIds
    rename_i grantRow registration _ _ db' hins
    unfold insertSession at hins
    split at hins
    · cases hins
    rename_i hnew
    cases hins
    refine Rows.nodup_concat h.sessionIds ?_
    intro session hsess hid
    refine hnew (List.any_eq_true.2 ⟨session, hsess, ?_⟩)
    rw [Bool.or_eq_true, beq_iff_eq]
    exact .inl hid
  | createEnrollment | createReconnect | exchange | checkIn | revoke | logout =>
    exact lv_kept_ids (mobileStep_move db _) h.sessionIds (by rintro _ _ _ _ ⟨⟩)

private theorem lv_grantIds (hmove : MobileMove env db e db') (h : SessionTables env db) :
    (db'.grants.map fun grant => grant.id).Nodup := by
  cases hmove with
  | same | enrollNew | enrollReconnect | openSession | checkIn | logout => exact h.grantIds
  | revoke => exact Rows.nodup_update (fun _ => rfl) h.grantIds
  | install hinst => exact Rows.nodup_concat h.grantIds fun grant hgr => (hinst.newGrant grant hgr).1
  | rotate hrot =>
    refine Rows.nodup_concat (Rows.nodup_update (fun _ => rfl) h.grantIds) ?_
    intro grant' hgr'
    obtain ⟨grant, hgr, rfl⟩ := Rows.mem_update.1 hgr'
    have hnew := (hrot.newGrant grant hgr).1
    split <;> exact hnew

private theorem lv_grants (hmove : MobileMove env db e db') :
    Rows.Kept (fun grant grant' : WebGrant => grant'.id = grant.id ∧ grant'.registrationId = grant.registrationId)
      db.grants db'.grants := by
  have hrefl : ∀ grant : WebGrant, grant.id = grant.id ∧ grant.registrationId = grant.registrationId := fun _ => ⟨rfl, rfl⟩
  cases hmove with
  | same | enrollNew | enrollReconnect | openSession | checkIn | logout => exact Rows.Kept.refl hrefl
  | revoke => exact Rows.kept_update hrefl fun _ => ⟨rfl, rfl⟩
  | install => exact (Rows.Kept.refl hrefl).append _
  | rotate => exact (Rows.kept_update hrefl fun _ => ⟨rfl, rfl⟩).append _

private theorem lv_sessions (hmove : MobileMove env db e db') (hsess : session ∈ db'.sessions) :
    (∃ before ∈ db.sessions, session.grantId = before.grantId ∧ session.registrationId = before.registrationId) ∨
      ∃ grant ∈ db.grants, grant.id = session.grantId ∧ grant.registrationId = session.registrationId := by
  cases hmove with
  | same | enrollNew | enrollReconnect | install | checkIn => exact .inl ⟨session, hsess, rfl, rfl⟩
  | rotate | revoke | logout =>
    obtain ⟨before, hbef, rfl⟩ := Rows.mem_update.1 hsess
    refine .inl ⟨before, hbef, ?_⟩
    split <;> exact ⟨rfl, rfl⟩
  | openSession hres =>
    rcases List.mem_append.1 hsess with hold | hnew
    · exact .inl ⟨session, hold, rfl, rfl⟩
    obtain ⟨hgr, -, -, -, hhost, -⟩ := resolveGrant_some hres
    cases List.mem_singleton.1 hnew
    exact .inr ⟨_, hgr, rfl, hhost.symm⟩

theorem SessionTables.step (h : SessionTables env db) (e : MobileEvent) : SessionTables env (mobileStep env db e) where
  inv := h.inv.step
  grantIds := lv_grantIds (mobileStep_move db e) h
  sessionIds := lv_sessionIds h e
  granted := by
    have hmove : MobileMove env db e (mobileStep env db e) := mobileStep_move db e
    intro session hsess
    have hbef : ∃ grant ∈ db.grants, grant.id = session.grantId ∧ grant.registrationId = session.registrationId := by
      rcases lv_sessions hmove hsess with ⟨before, hmem, hgr, hreg⟩ | hopen
      · rw [hgr, hreg]
        exact h.granted before hmem
      · exact hopen
    obtain ⟨grant, hmem, hid, hreg⟩ := hbef
    obtain ⟨grant', hmem', hid', hreg'⟩ := lv_grants hmove grant hmem
    exact ⟨grant', hmem', hid'.trans hid, hreg'.trans hreg⟩

theorem SessionTables.run (h : SessionTables env db) (es : List MobileEvent) :
    SessionTables env (Trace.run (mobileStep env) db es) :=
  Trace.run_invariant h fun _ e hI => hI.step e

theorem reconnect_sessionIds {request : ExchangeRequest} {draws : ExchangeDraws}
    {response : MobileEnrollmentExchangeResponse} {hostId : String} {ids : List String}
    (h : (exchangeMobileEnrollment env db request draws now).2 = some (.ok response hostId true ids)) :
    ids = openSessionIds db hostId := by
  rcases @exchange_cases env db request draws now with ⟨-, hnot⟩ | ⟨row, _, rotates, _, _, hres, -, -, hmove⟩
  · exact absurd h (hnot _ _ _ _)
  rw [hres] at h
  simp only [Option.some.injEq, ExchangeOutcome.ok.injEq] at h
  obtain ⟨-, rfl, hrot, rfl⟩ := h
  rcases hmove with ⟨hno, -, -⟩ | ⟨-, -, hids, -⟩
  · cases hno.symm.trans hrot
  · exact hids

private theorem lv_still (hs : Stands env db secret session) (hsess : session ∈ db'.sessions)
    (hre : ∀ r ∈ db.registrations, r.hostId = session.registrationId →
      ∃ r' ∈ db'.registrations, r'.hostId = r.hostId ∧ r'.revokedAt = r.revokedAt)
    (hgr : ∀ grant ∈ db.grants, grant.id = session.grantId → grant ∈ db'.grants) : Stands env db' secret session := by
  obtain ⟨r, hr, hhost, hrl⟩ := hs.registration
  obtain ⟨grant, hgra, hid, hgl⟩ := hs.grant
  obtain ⟨r', hr', hhost', hrev⟩ := hre r hr hhost
  exact ⟨hsess, hs.digest, hs.live, ⟨r', hr', hhost'.trans hhost, by rw [hrev]; exact hrl⟩,
    ⟨grant, hgr grant hgra hid, hid, hgl⟩⟩

private theorem lv_grant_registration (h : SessionTables env db) (hs : Stands env db secret session) {grant : WebGrant}
    (hgr : grant ∈ db.grants) (hid : grant.id = session.grantId) : grant.registrationId = session.registrationId := by
  obtain ⟨grant', hgr', hid', hreg⟩ := h.granted session hs.found
  rw [Rows.eq_of_key h.grantIds hgr hgr' (hid.trans hid'.symm)]
  exact hreg

private theorem lv_revokes (hs : Stands env db secret session) (reason : Option String) (now : EpochMs) :
    RevokesHost db session.registrationId (.revoke session.registrationId reason now) := by
  obtain ⟨r, hr, hhost, -⟩ := hs.registration
  refine ⟨rfl, ?_⟩
  unfold revokeMobileRegistration
  split
  · rename_i hnone
    exact absurd hhost (Rows.find_none hnone r hr)
  · split <;> rfl

private theorem lv_step (hmove : MobileMove env db e db') (h : SessionTables env db)
    (hs : Stands env db secret session) (hends : ¬ EndsSession env db session e)
    (hex : ∀ request draws now, e ≠ .exchange request draws now) : Stands env db' secret session := by
  cases hmove with
  | same | enrollNew | enrollReconnect => exact lv_still hs hs.found (fun r hr _ => ⟨r, hr, rfl, rfl⟩) fun _ hg _ => hg
  | install | rotate => exact absurd rfl (hex _ _ _)
  | openSession =>
    exact lv_still hs (List.mem_append_left _ hs.found) (fun r hr _ => ⟨r, hr, rfl, rfl⟩) fun _ hg _ => hg
  | checkIn =>
    refine lv_still hs hs.found ?_ fun _ hg _ => hg
    intro r hr _
    refine ⟨_, Rows.mem_update_of_mem hr, ?_⟩
    split <;> exact ⟨rfl, rfl⟩
  | @revoke hostId reason now =>
    have ho : session.registrationId ≠ hostId := by
      rintro rfl
      exact hends (.inr (.inl (lv_revokes hs reason now)))
    refine lv_still hs (Rows.mem_update_of_refused hs.found ?_) ?_ ?_
    · simp [isOpenSession, ho]
    · intro r hr hhost
      refine ⟨r, Rows.mem_update_of_refused hr ?_, rfl, rfl⟩
      simp [hhost, ho]
    intro grant hgr hid
    refine Rows.mem_update_of_refused hgr ?_
    simp [lv_grant_registration h hs hgr hid, ho]
  | @logout loggedOut now =>
    refine lv_still hs (Rows.mem_update_of_refused hs.found ?_) (fun r hr _ => ⟨r, hr, rfl, rfl⟩) fun _ hg _ => hg
    have ho : session.sessionHash ≠ env.hash loggedOut := fun hsame => hends (.inl ⟨loggedOut, now, rfl, hsame⟩)
    simp [ho]

theorem Stands.step (h : SessionTables env db) (hs : Stands env db secret session) (hends : ¬ EndsSession env db session e) :
    Stands env (mobileStep env db e) secret session := by
  cases e with
  | exchange request draws now =>
    rcases @exchange_cases env db request draws now.val with ⟨hsame, -⟩ | ⟨row, response, _, ids, db', hres, -, -, hmove⟩
    · simp only [mobileStep]
      rw [hsame]
      exact hs
    simp only [mobileStep, hres]
    rcases hmove with ⟨-, -, rfl⟩ | ⟨rfl, -, -, hosts, rfl⟩
    · exact lv_still hs hs.found (fun r hr _ => ⟨r, List.mem_append_left _ hr, rfl, rfl⟩)
        fun _ hgr _ => List.mem_append_left _ hgr
    have ho : session.registrationId ≠ row.hostId := by
      intro heq
      refine hends (.inr (.inr ⟨response, ids, ?_⟩))
      rw [hres, heq]
    refine lv_still hs (Rows.mem_update_of_refused hs.found ?_) ?_ ?_
    · simp [isOpenSession, ho]
    · intro r hr _
      refine ⟨_, Rows.mem_update_of_mem hr, ?_⟩
      split <;> exact ⟨rfl, rfl⟩
    intro grant hgr hid
    refine List.mem_append_left _ (Rows.mem_update_of_refused hgr ?_)
    simp [lv_grant_registration h hs hgr hid, ho]
  | createEnrollment | createReconnect | bootstrap | checkIn | revoke | logout =>
    exact lv_step (mobileStep_move db _) h hs hends (by rintro _ _ _ ⟨⟩)

theorem ended_not_resolves (h : SessionTables env db) (hs : Stands env db secret session)
    (hends : EndsSession env db session e) (now : Int) :
    resolveLiveSession ((mobileStep env db e).authEnv env) now secret = none := by
  have hnone : resolveCredential env (mobileStep env db e) now (.webSession secret) = none → 
      resolveLiveSession ((mobileStep env db e).authEnv env) now secret = none := by
    intro hres
    simpa [resolveCredential] using hres
  have hof : CredentialOf env db session.registrationId (.webSession secret) := ⟨session, hs.found, hs.digest, rfl⟩
  rcases hends with ⟨loggedOut, at_, rfl, hsame⟩ | hre | hrc
  · -- the row with the cookie's digest is the one that was logged out
    refine hnone (h.inv.step.dead ⟨_, Rows.mem_update_of_mem hs.found, ?_⟩)
    have hopen : session.revokedAt = none := (h.inv.sessionTimes session hs.found).open_iff.1 hs.live
    rw [if_pos (by simp [hsame, hopen])]
    exact ⟨hs.digest, isRowRevoked_now at_⟩
  · cases hres : resolveLiveSession ((mobileStep env db e).authEnv env) now secret with
    | none => rfl
    | some live =>
      exfalso
      obtain ⟨session', hs', -, -⟩ := stands_of_resolves hres
      obtain ⟨row, hrow, hdig, hreg⟩ := hof.step (e := e) trivial
      rw [Rows.eq_of_key h.inv.step.sessionHashes hrow hs'.found (hdig.trans hs'.digest.symm)] at hreg
      obtain ⟨r, hr, hhost, hrl⟩ := hs'.registration
      obtain ⟨r', hr', hhost', hrev⟩ : ∃ r ∈ (mobileStep env db e).registrations, _ := revokes_revoked hre
      rw [h.inv.step.registration_eq hr hr' (hhost.trans (hreg.trans hhost'.symm)), hrev] at hrl
      cases hrl
  · exact hnone (h.inv.step.dead (h.inv.reconnect hrc hof trivial))

end LamaSync
