import LamaSync.Lib.Trace
import LamaSync.Server.ConfigRevision

/-!
# The revision tracks the configuration

What a host is sent depends on some of the rows (`SameView`), and every write leaves those alone, bumps the host or owes it a
bump, when it meets its condition.  In a run of such writes a daemon whose revision is that of the server has what the server
would send it, once no bump of its host is owed (`revision_tracks_config`).
-/

namespace LamaSync

open Trace

variable {β : Type}

namespace ConfigServer

section View

variable {env : ConfigEnv β} {s s' : ConfigServer β} {hostId : String} {before after current current' other other' : ConfigHost}

theorem host_id (h : s.host hostId = some before) : before.id = hostId := by simpa using List.find?_some h

theorem host_mem (h : s.host hostId = some before) : before ∈ s.hosts := List.mem_of_find?_eq_some h

theorem host_map_same {f : ConfigHost → ConfigHost} (hid : ∀ row, (f row).id = hostId ↔ row.id = hostId)
    (hsame : ∀ row, row.id = hostId → f row = row) :
    (s.hosts.map f).find? (fun host => host.id = hostId) = s.host hostId := by
  unfold host
  induction s.hosts with
  | nil => rfl
  | cons row hosts ih =>
    rw [List.map_cons, List.find?_cons, List.find?_cons]
    by_cases hrow : row.id = hostId
    · simp [hsame row hrow, hrow]
    have hrow' : (f row).id ≠ hostId := fun h => hrow ((hid row).1 h)
    simp only [hrow, hrow', decide_false]
    exact ih

theorem host_map {f : ConfigHost → ConfigHost} (hid : ∀ row, (f row).id = row.id) :
    (s.hosts.map f).find? (fun host => host.id = hostId) = (s.host hostId).map f := by
  rw [List.find?_map]
  congr 2
  funext row
  simp [hid]

theorem peerOf_congr (hid : current'.id = current.id) (hlan : current'.lanIp = current.lanIp) (ho : other'.id = other.id)
    (hst : other'.status = other.status) (hip : other'.lanIp = other.lanIp) (htail : other'.tailnetIp = other.tailnetIp) :
    env.peerOf current' other' = env.peerOf current other := by
  unfold ConfigEnv.peerOf ConfigEnv.isPeerOf
  rw [hid, hlan, ho, hst, hip, htail]

theorem peerOf_self (h : other.id = current.id) : env.peerOf current other = none := if_pos (.inl h)

theorem peerOf_of_not (h : env.isPeerOf current other = false) : env.peerOf current other = none := if_pos (.inr h)

/-- The rows of two states agree in what the content of a host is made of. -/
structure SameView (env : ConfigEnv β) (s s' : ConfigServer β) (before after : ConfigHost) : Prop where
  id : after.id = before.id
  hostname : after.hostname = before.hostname
  tailnetIp : after.tailnetIp = before.tailnetIp
  lanIp : after.lanIp = before.lanIp
  os : osKeyFor after.os = osKeyFor before.os
  peers : s'.detectLanPeers env after = s.detectLanPeers env before
  rows : assignmentRows (s'.db env) before.id = assignmentRows (s.db env) before.id
  shared : ∀ r ∈ assignmentRows (s.db env) before.id, s'.sharedByPeer (s.detectLanPeers env before) r.folderId =
    s.sharedByPeer (s.detectLanPeers env before) r.folderId
  folders : folderRows (s'.db env) before.id = folderRows (s.db env) before.id
  backends : ∀ f ∈ folderRows (s.db env) before.id, ∀ id, f.backendId = some id → s'.backends id = s.backends id
  protections : s'.protections.filter (fun p => p.hostId = before.id && p.enabled) =
    s.protections.filter fun p => p.hostId = before.id && p.enabled
  pause : s'.effectivePause before.id = s.effectivePause before.id

theorem SameView.refl (env : ConfigEnv β) (s : ConfigServer β) (before : ConfigHost) : SameView env s s before before :=
  ⟨rfl, rfl, rfl, rfl, rfl, rfl, rfl, fun _ _ => rfl, rfl, fun _ _ _ _ => rfl, rfl, rfl⟩

theorem backendId_rowToFolder {f : FolderRow} {id : String} (h : (ConfigRoutes.rowToFolder f).backendId = some id) :
    f.backendId = some id := by
  unfold ConfigRoutes.rowToFolder at h
  split at h
  · exact h
  · cases h

theorem SameView.getConfig (h : SameView env s s' before after) :
    getConfig (s'.db env) before.id = getConfig (s.db env) before.id := by
  have hres : ∀ folder ∈ (folderRows (s.db env) before.id).map ConfigRoutes.rowToFolder,
      resolveFolderResticConfig (s'.db env) folder = resolveFolderResticConfig (s.db env) folder := by
    intro folder hfol
    obtain ⟨f, hf, rfl⟩ := List.mem_map.1 hfol
    unfold resolveFolderResticConfig
    cases hid : presentText (ConfigRoutes.rowToFolder f).backendId with
    | none => rfl
    | some id =>
      have hback := h.backends f hf id (backendId_rowToFolder (Option.filter_eq_some_iff.1 hid).1)
      have hdb : (s'.db env).backends id = (s.db env).backends id := by
        unfold db
        dsimp only
        rw [hback]
      simp only [Option.bind_eq_bind, Option.bind_some, hdb]
  have hde : resticDefaults (s'.db env) ((folderRows (s.db env) before.id).map ConfigRoutes.rowToFolder) =
      resticDefaults (s.db env) ((folderRows (s.db env) before.id).map ConfigRoutes.rowToFolder) := by
    refine List.foldl_ext _ _ _ fun defaults folder hfol => ?_
    rw [hres folder hfol]
  unfold LamaSync.getConfig sentConfig
  rw [h.rows, h.folders]
  dsimp only
  rw [hde]

theorem SameView.content (h : SameView env s s' before after) : s'.contentOf env after = s.contentOf env before := by
  have hen : s'.enriched env after = s.enriched env before := by
    unfold enriched
    rw [h.id, h.peers, h.rows]
    dsimp only
    have hfilt : ((assignmentRows (s.db env) before.id).map AssignmentRow.folderId).filter
          (s'.sharedByPeer (s.detectLanPeers env before)) =
        ((assignmentRows (s.db env) before.id).map AssignmentRow.folderId).filter
          (s.sharedByPeer (s.detectLanPeers env before)) := by
      refine List.filter_congr fun folderId hfol => ?_
      obtain ⟨r, hr, rfl⟩ := List.mem_map.1 hfol
      exact h.shared r hr
    rw [hfilt]
  have happs : s'.apps after = s.apps before := by
    unfold apps
    rw [h.id, h.os, h.protections]
  have hba : (LamaSync.getConfig (s.db env) before.id).folders.map (fun folder =>
        (folder, folder.backendId.bind s'.backends)) =
      (LamaSync.getConfig (s.db env) before.id).folders.map fun folder => (folder, folder.backendId.bind s.backends) := by
    refine List.map_congr_left fun folder hfol => ?_
    obtain ⟨f, hf, rfl⟩ := List.mem_map.1 hfol
    cases hid : (ConfigRoutes.rowToFolder f).backendId with
    | none => rfl
    | some id => rw [Option.bind_some, Option.bind_some, h.backends f hf id (backendId_rowToFolder hid)]
  unfold contentOf
  rw [h.id, h.getConfig, hen, happs, h.hostname, h.tailnetIp, h.lanIp, h.pause]
  dsimp only
  rw [hba]

variable {concerned : String → Bool}

/-- A bump changes nothing that is sent. -/
theorem contentOf_bump (revision : Nat) :
    (s.bump concerned).contentOf env { before with configRevision := revision } = s.contentOf env before := by
  refine SameView.content { SameView.refl env s before with peers := ?_ }
  unfold detectLanPeers bump
  rw [List.filterMap_map]
  refine List.filterMap_congr fun row _ => ?_
  dsimp only [Function.comp_apply]
  split
  · exact peerOf_congr rfl rfl rfl rfl rfl rfl
  · exact peerOf_congr rfl rfl rfl rfl rfl rfl

theorem tracked_bump {s₁ : ConfigServer β} (h : ∀ hostId before mid, s.host hostId = some before → s₁.host hostId = some mid →
      before.configRevision ≤ mid.configRevision ∧
        (concerned hostId = false → s₁.contentOf env mid = s.contentOf env before)) :
    Tracked env s (s₁.bump concerned) := by
  intro hostId before after hbef haf
  have hmap : (s₁.bump concerned).host hostId = (s₁.host hostId).map fun host =>
      if concerned host.id then { host with configRevision := host.configRevision + 1 } else host :=
    host_map fun row => (by split <;> rfl)
  rw [hmap] at haf
  obtain ⟨mid, hmid, rfl⟩ := Option.map_eq_some_iff.1 haf
  obtain ⟨hle, hcont⟩ := h hostId before mid hbef hmid
  rw [host_id hmid]
  cases hcon : concerned hostId with
  | true =>
    rw [if_pos rfl]
    dsimp only
    exact ⟨by omega, fun heq => absurd heq (by omega)⟩
  | false =>
    exact ⟨hle, fun _ => (contentOf_bump mid.configRevision).trans (hcont hcon)⟩

/-- The content is the same where the revision is, save for the hosts that are concerned. -/
def TrackedBut (env : ConfigEnv β) (concerned : String → Bool) (s s' : ConfigServer β) : Prop := ∀ hostId before after,
  s.host hostId = some before → s'.host hostId = some after → before.configRevision ≤ after.configRevision ∧
    (before.configRevision = after.configRevision → concerned hostId = false → s'.contentOf env after = s.contentOf env before)

theorem Tracked.but (h : Tracked env s s') : TrackedBut env concerned s s' := fun hostId before after hbef haf =>
  ⟨(h hostId before after hbef haf).1, fun heq _ => (h hostId before after hbef haf).2 heq⟩

theorem tracked_tables {s₁ : ConfigServer β} (hho : s₁.hosts = s.hosts)
    (h : ∀ hostId before, s.host hostId = some before → concerned hostId = false → SameView env s s₁ before before) :
    Tracked env s (s₁.bump concerned) := by
  refine tracked_bump fun hostId before mid hbef hmid => ?_
  have hsame : s₁.host hostId = s.host hostId := by
    unfold host
    rw [hho]
  obtain rfl := Option.some.inj (hbef.symm.trans (hsame.symm.trans hmid))
  exact ⟨le_refl _, fun hcon => (h hostId before hbef hcon).content⟩

theorem tracked_still (h : ∀ hostId before after, s.host hostId = some before → s'.host hostId = some after →
    before.configRevision = after.configRevision ∧ SameView env s s' before after) : Tracked env s s' := by
  intro hostId before after hbef haf
  obtain ⟨hrev, hview⟩ := h hostId before after hbef haf
  exact ⟨hrev.le, fun _ => hview.content⟩

theorem tracked_refl : Tracked env s s := by
  refine tracked_still fun hostId before after hbef haf => ?_
  obtain rfl := Option.mem_unique hbef haf
  exact ⟨rfl, SameView.refl _ _ _⟩

end View

section Hosts

variable {env : ConfigEnv β} {s : ConfigServer β} {hostId : String} {before : ConfigHost} {set : ConfigHost → ConfigHost}

theorem host_updateHost (set : ConfigHost → ConfigHost) (hid : ∀ row, (set row).id = row.id) (id : String) :
    (s.updateHost hostId set).host id = (s.host id).map fun host => if host.id = hostId then set host else host :=
  host_map fun row => (by split; exacts [hid row, rfl])

theorem sameView_other (hseen : ∀ row ∈ s.hosts, row.id = hostId → env.peerOf before (set row) = env.peerOf before row) :
    SameView env s (s.updateHost hostId set) before before := by
  refine { SameView.refl env s before with peers := ?_ }
  unfold detectLanPeers updateHost
  rw [List.filterMap_map]
  refine List.filterMap_congr fun row hrow => ?_
  dsimp only [Function.comp_apply]
  split
  · exact hseen row hrow ‹_›
  · rfl

theorem sameView_self (hset : ∀ row, (set row).id = row.id) (hid : before.id = hostId)
    (hho : (set before).hostname = before.hostname) (htail : (set before).tailnetIp = before.tailnetIp)
    (hlan : (set before).lanIp = before.lanIp) (hos : osKeyFor (set before).os = osKeyFor before.os) :
    SameView env s (s.updateHost hostId set) before (set before) := by
  refine { SameView.refl env s before with
    id := hset before, hostname := hho, tailnetIp := htail, lanIp := hlan, os := hos, peers := ?_ }
  unfold detectLanPeers updateHost
  rw [List.filterMap_map]
  refine List.filterMap_congr fun row _ => ?_
  dsimp only [Function.comp_apply]
  split
  · rename_i hrow
    rw [peerOf_self (hset row |>.trans (hrow.trans (hid.symm.trans (hset before).symm))), peerOf_self (hrow.trans hid.symm)]
  · exact peerOf_congr (hset before) hlan rfl rfl rfl rfl

theorem trackedBut_health {status : String} {lanIp tailnetIp os : Option String}
    (hg : (Write.health hostId status lanIp tailnetIp os).Guarded env s) :
    TrackedBut env (fun id => (s.lateBump (.health hostId status lanIp tailnetIp os)).any fun bump => bump.concerns id) s
      (s.step (.health hostId status lanIp tailnetIp os)) := by
  have hset : ∀ row, (reported status lanIp tailnetIp os row).id = row.id := fun _ => rfl
  have ho : ∀ id before, s.host id = some before → id ≠ hostId →
      SameView env s (s.updateHost hostId (reported status lanIp tailnetIp os)) before before := by
    intro id before hbef hne
    rw [← host_id hbef] at hne
    refine sameView_other fun row hrow hid => ?_
    have hseen := (hg row hrow hid).2 before (host_mem hbef) hne
    by_cases hpeer : env.isPeerOf before row = true ∨ env.isPeerOf before (reported status lanIp tailnetIp os row) = true
    · obtain ⟨hst, hlan, htail⟩ := hseen hpeer
      exact peerOf_congr rfl rfl rfl hst hlan htail
    · obtain ⟨hrow, hrep⟩ := not_or.1 hpeer
      rw [peerOf_of_not (Bool.eq_false_iff.2 hrow), peerOf_of_not (Bool.eq_false_iff.2 hrep)]
  have hself : ∀ before, s.host hostId = some before → tailnetChanges tailnetIp before = false →
      SameView env s (s.updateHost hostId (reported status lanIp tailnetIp os)) before
        (reported status lanIp tailnetIp os before) := by
    intro before hbef hchg
    obtain ⟨hlan, hos⟩ := (hg before (host_mem hbef) (host_id hbef)).1 hchg
    refine sameView_self hset (host_id hbef) rfl ?_ hlan hos
    unfold reported
    rw [hchg, if_neg (by simp)]
  intro id before mid hbef hmid
  change (s.updateHost hostId (reported status lanIp tailnetIp os)).host id = some mid at hmid
  rw [host_updateHost _ hset, hbef, Option.map_some, host_id hbef] at hmid
  by_cases hid : id = hostId
  · subst hid
    rw [if_pos rfl] at hmid
    cases hmid
    refine ⟨le_refl _, fun _ hcon => (hself before hbef ?_).content⟩
    -- no bump is left for the host, so the heartbeat leaves its tailnet address
    refine Bool.eq_false_iff.2 fun hchg => ?_
    simp [lateBump, hbef, hchg, Bump.concerns] at hcon
  · rw [if_neg hid] at hmid
    cases hmid
    exact ⟨le_refl _, fun _ _ => (ho id _ hbef hid).content⟩

theorem trackedBut_rename (hostname : String) :
    TrackedBut env (fun id => (s.lateBump (.rename hostId hostname)).any fun bump => bump.concerns id) s
      (s.step (.rename hostId hostname)) := by
  intro id before mid hbef hmid
  change (s.updateHost hostId fun host => { host with hostname := hostname }).host id = some mid at hmid
  rw [host_updateHost (fun host => { host with hostname := hostname }) (fun _ => rfl), hbef, Option.map_some,
    host_id hbef] at hmid
  by_cases hid : id = hostId
  · subst hid
    rw [if_pos rfl] at hmid
    rw [← Option.some.inj hmid]
    refine ⟨le_refl _, fun _ hcon => ?_⟩
    simp [lateBump, hbef, Bump.concerns] at hcon
  rw [if_neg hid] at hmid
  cases hmid
  have hview : SameView env s (s.updateHost hostId fun host => { host with hostname := hostname }) before before :=
    sameView_other fun row _ _ => peerOf_congr rfl rfl rfl rfl rfl rfl
  exact ⟨le_refl _, fun _ _ => hview.content⟩

theorem tracked_setClass (hostClass : String) : Tracked env s (s.step (.setClass hostId hostClass)) := by
  refine tracked_still fun id before mid hbef hmid => ?_
  change (s.updateHost hostId fun host => { host with hostClass := hostClass }).host id = some mid at hmid
  rw [host_updateHost (fun host => { host with hostClass := hostClass }) (fun _ => rfl), hbef, Option.map_some] at hmid
  by_cases hid : before.id = hostId
  · rw [if_pos hid] at hmid
    rw [← Option.some.inj hmid]
    exact ⟨rfl, sameView_self (fun _ => rfl) hid rfl rfl rfl rfl⟩
  rw [if_neg hid] at hmid
  cases hmid
  exact ⟨rfl, sameView_other fun row _ _ => peerOf_congr rfl rfl rfl rfl rfl rfl⟩

theorem sharedByPeer_iff {peers : List SentPeer} {folderId : String} : s.sharedByPeer peers folderId = true ↔
    ∃ peer ∈ peers, ∃ r ∈ s.assignments, r.hostId = peer.peerHostId ∧ r.folderId = folderId := by
  simp only [sharedByPeer, List.any_eq_true, Bool.and_eq_true, decide_eq_true_eq]

theorem folderRows_congr {s' : ConfigServer β} (hfols : s'.folders = s.folders)
    (hrows : assignmentRows (s'.db env) hostId = assignmentRows (s.db env) hostId) :
    folderRows (s'.db env) hostId = folderRows (s.db env) hostId := by
  unfold folderRows
  rw [hrows]
  show s'.folders.filter _ = s.folders.filter _
  rw [hfols]

theorem mem_detectLanPeers {peer : SentPeer} (h : peer ∈ s.detectLanPeers env before) :
    ∃ row ∈ s.hosts, row.id ≠ before.id ∧ env.isPeerOf before row = true ∧ peer.peerHostId = row.id := by
  obtain ⟨row, hrow, hpeer⟩ := List.mem_filterMap.1 h
  unfold ConfigEnv.peerOf at hpeer
  split at hpeer
  · cases hpeer
  rename_i hnot
  obtain ⟨hne, hseen⟩ := not_or.1 hnot
  obtain ⟨lanIp, -, rfl⟩ := Option.map_eq_some_iff.1 hpeer
  exact ⟨row, hrow, hne, by simpa using hseen, rfl⟩

theorem tracked_deleteHost (hg : (Write.deleteHost hostId).Guarded env s) :
    Tracked env s (s.step (.deleteHost hostId)) := by
  refine tracked_still fun id before after hbef haf => ?_
  have hne : id ≠ hostId := by
    have hmem := List.mem_of_find?_eq_some haf
    rw [← host_id haf]
    simpa using (List.mem_filter.1 hmem).2
  have hsame : (s.hosts.filter fun host => host.id ≠ hostId).find? (fun host => host.id = id) = s.host id := by
    rw [List.find?_filter]
    congr 1
    funext host
    by_cases hhost : host.id = id
    · simp [hhost, hne]
    · simp [hhost]
  obtain rfl := Option.some.inj (hbef.symm.trans (hsame.symm.trans haf))
  have hid := host_id hbef
  have hnot : before.id ≠ hostId := by rwa [hid]
  have hrows : assignmentRows ((s.step (.deleteHost hostId)).db env) before.id = assignmentRows (s.db env) before.id := by
    show (s.assignments.filter fun r => r.hostId ≠ hostId).filter (fun r => r.hostId = before.id) =
      s.assignments.filter fun r => r.hostId = before.id
    rw [List.filter_filter]
    refine List.filter_congr fun r _ => ?_
    by_cases hr : r.hostId = before.id
    · simp [hr, hnot]
    · simp [hr]
  refine ⟨rfl, { SameView.refl env s before with
    peers := ?_, rows := hrows, shared := ?_, folders := folderRows_congr rfl hrows, protections := ?_ }⟩
  · show (s.hosts.filter fun host => host.id ≠ hostId).filterMap (env.peerOf before) = s.hosts.filterMap (env.peerOf before)
    rw [List.filterMap_filter]
    refine List.filterMap_congr fun row hrow => ?_
    by_cases hrowId : row.id = hostId
    · simp [hrowId, peerOf_of_not (hg row hrow hrowId before (host_mem hbef) hnot)]
    · simp [hrowId]
  · intro r _
    rw [Bool.eq_iff_iff, sharedByPeer_iff, sharedByPeer_iff]
    refine exists_congr fun peer => and_congr_right fun hpeer => ?_
    obtain ⟨row, hrow, -, hseen, hpeerId⟩ := mem_detectLanPeers hpeer
    have hpeerNe : peer.peerHostId ≠ hostId := by
      intro h
      rw [hg row hrow (hpeerId.symm.trans h) before (host_mem hbef) hnot] at hseen
      cases hseen
    constructor
    · rintro ⟨shared, hsh, hrest⟩
      exact ⟨shared, (List.mem_filter.1 hsh).1, hrest⟩
    · rintro ⟨shared, hsh, hhost, hfol⟩
      exact ⟨shared, List.mem_filter.2 ⟨hsh, by simpa [hhost] using hpeerNe⟩, hhost, hfol⟩
  · show (s.protections.filter fun p => p.hostId ≠ hostId).filter (fun p => p.hostId = before.id && p.enabled) = _
    rw [List.filter_filter]
    refine List.filter_congr fun p _ => ?_
    by_cases hp : p.hostId = before.id
    · simp [hp, hnot]
    · simp [hp]

end Hosts

section Tables

variable {env : ConfigEnv β} {s : ConfigServer β} {hostId : String}

theorem takeOver_known {row : ConfigHost} (hostname : String) (h : s.host hostId = some row) :
    s.takeOver hostId hostname = s := by
  unfold takeOver
  rw [h]
  cases s.renamedRow hostId hostname <;> rfl

variable {hostname : String}

/-- A host of another id that is there after a row was taken over was there before. -/
theorem takeOver_other {id : String} {mid : ConfigHost} (hne : id ≠ hostId)
    (h : (s.takeOver hostId hostname).host id = some mid) : s.host id = some mid := by
  unfold takeOver at h
  split at h
  · rename_i row _ _
    by_cases hold : id = row.id
    · obtain ⟨found, -, hf⟩ := List.mem_map.1 (host_mem h)
      have hmid := host_id h
      rw [← hf] at hmid
      split at hmid
      · exact absurd hmid.symm hne
      · exact absurd (hmid.trans hold) ‹_›
    · rw [← h]
      refine (host_map_same (fun found => ?_) fun found hf => if_neg ?_).symm
      · split
        · rename_i hrow
          exact ⟨fun heq => absurd heq.symm hne, fun heq => absurd (heq.symm.trans hrow) hold⟩
        · exact Iff.rfl
      · exact fun hrow => hold (hf.symm.trans hrow)
  · exact h

theorem upsertHost_other {id : String} {tailnetIp : Option String} {mid : ConfigHost} (hne : id ≠ hostId)
    (h : (s.upsertHost hostId hostname tailnetIp).host id = some mid) : s.host id = some mid := by
  unfold upsertHost at h
  split at h
  · rw [host_updateHost (fun host => { host with hostname := hostname, tailnetIp := tailnetIp, status := "online" })
      (fun _ => rfl)] at h
    obtain ⟨row, hrow, hset⟩ := Option.map_eq_some_iff.1 h
    rw [host_id hrow, if_neg hne] at hset
    rw [hrow, hset]
  unfold host at h ⊢
  rw [List.find?_append, List.find?_cons_of_neg (by simpa using hne.symm), List.find?_nil, Option.or_none] at h
  exact h

theorem trackedBut_register {tailnetIp : Option String}
    (hg : (Write.register hostId hostname tailnetIp).Guarded env s) :
    TrackedBut env (fun id => (s.lateBump (.register hostId hostname tailnetIp)).any fun bump => bump.concerns id) s
      (s.step (.register hostId hostname tailnetIp)) := by
  intro id before mid hbef hmid
  change ((s.takeOver hostId hostname).upsertHost hostId hostname tailnetIp).host id = some mid at hmid
  by_cases hid : id = hostId
  · subst hid
    show _ ∧ (_ → _ → ((s.takeOver id hostname).upsertHost id hostname tailnetIp).contentOf env mid = _)
    rw [takeOver_known hostname hbef] at hmid ⊢
    obtain ⟨hho, htail⟩ := hg before hbef
    unfold upsertHost at hmid ⊢
    rw [hbef, Option.isSome_some, if_pos rfl] at hmid ⊢
    rw [host_updateHost (fun host => { host with hostname := hostname, tailnetIp := tailnetIp, status := "online" })
      (fun _ => rfl), hbef, Option.map_some, if_pos (host_id hbef)] at hmid
    rw [← Option.some.inj hmid]
    have hview : SameView env s
        (s.updateHost id fun host => { host with hostname := hostname, tailnetIp := tailnetIp, status := "online" }) before
        { before with hostname := hostname, tailnetIp := tailnetIp, status := "online" } :=
      sameView_self (fun _ => rfl) (host_id hbef) hho.symm htail.symm rfl rfl
    exact ⟨le_refl _, fun _ _ => hview.content⟩
  · rw [takeOver_other hid (upsertHost_other hid hmid)] at hbef
    rw [Option.some.inj hbef]
    exact ⟨le_refl _, fun _ h => absurd h (by simp [lateBump, Bump.concerns, hid])⟩

theorem tracked_putFolder (row : FolderRow) : Tracked env s (s.step (.putFolder row)) := by
  unfold step
  dsimp only
  split
  · refine tracked_tables rfl fun id before hbef hcon => ?_
    have hfols : folderRows (ConfigServer.db env { s with folders := s.folders.map fun f => if f.id = row.id then row else f })
        before.id = folderRows (s.db env) before.id := by
      have hnone : ∀ r ∈ assignmentRows (s.db env) before.id, r.folderId ≠ row.id := by
        intro r hr hfol
        obtain ⟨hmem, hhost⟩ := List.mem_filter.1 hr
        rw [List.any_eq_false] at hcon
        refine hcon r hmem ?_
        simpa [hfol, host_id hbef] using hhost
      show (s.folders.map fun f => if f.id = row.id then row else f).filter (fun f =>
          (assignmentRows (s.db env) before.id).any fun r => r.folderId = f.id) =
        s.folders.filter fun f => (assignmentRows (s.db env) before.id).any fun r => r.folderId = f.id
      have hdrop : ∀ f : FolderRow, f.id = row.id →
          ((assignmentRows (s.db env) before.id).any fun r => r.folderId = f.id) = false := by
        intro f hf
        rw [List.any_eq_false]
        intro r hr
        rw [hf]
        simpa using hnone r hr
      induction s.folders with
      | nil => rfl
      | cons f folders ih =>
        rw [List.map_cons]
        by_cases hf : f.id = row.id
        · rw [if_pos hf, List.filter_cons_of_neg (by rw [hdrop row rfl]; simp),
            List.filter_cons_of_neg (by rw [hdrop f hf]; simp)]
          exact ih
        · rw [if_neg hf, List.filter_cons, List.filter_cons, ih]
    exact { SameView.refl env s before with
      folders := hfols }
  · exact tracked_refl

theorem tracked_deleteFolder {folderId : String} (hg : (Write.deleteFolder folderId).Guarded env s) :
    Tracked env s (s.step (.deleteFolder folderId)) := by
  unfold step
  dsimp only
  split
  · exact tracked_tables rfl fun id before hbef hcon => (by cases hcon)
  rename_i hmiss
  have hfols : ∀ f ∈ s.folders, f.id ≠ folderId := by simpa using hmiss
  have hass : ∀ r ∈ s.assignments, r.folderId ≠ folderId := by
    rcases hg with ⟨f, hf, hid⟩ | hnone
    · exact absurd hid (hfols f hf)
    · exact hnone
  have hkeptAssignments : s.assignments.filter (fun r => r.folderId ≠ folderId) = s.assignments :=
    List.filter_eq_self.2 fun r hr => by simpa using hass r hr
  have hkeptFolders : s.folders.filter (fun f => f.id ≠ folderId) = s.folders :=
    List.filter_eq_self.2 fun f hf => by simpa using hfols f hf
  have hsame : s.withoutFolder folderId = s := by
    unfold withoutFolder
    rw [hkeptAssignments, hkeptFolders]
  rw [hsame]
  exact tracked_refl

variable {before : ConfigHost}

theorem sameView_backends {backends : Table String β}
    (h : ∀ f ∈ s.folders, ∀ id, f.backendId = some id → backends id = s.backends id) :
    SameView env s { s with backends := backends } before before :=
  { SameView.refl env s before with
    backends := fun f hf id hid => h f (List.mem_filter.1 hf).1 id hid }

theorem tracked_createBackend {id : String} {row : β} (hg : (Write.createBackend id row).Guarded env s) :
    Tracked env s (s.step (.createBackend id row)) := by
  refine tracked_still fun hostId before after hbef haf => ?_
  obtain rfl := Option.mem_unique hbef haf
  refine ⟨rfl, sameView_backends fun f hf backendId hid => Table.put_of_ne ?_⟩
  rintro rfl
  exact hg f hf hid

theorem tracked_deleteBackend (id : String) : Tracked env s (s.step (.deleteBackend id)) := by
  unfold step
  dsimp only
  split
  · exact tracked_refl
  rename_i hun
  refine tracked_still fun hostId before after hbef haf => ?_
  obtain rfl := Option.mem_unique hbef haf
  refine ⟨rfl, sameView_backends fun f hf backendId hid => Table.erase_of_ne ?_⟩
  rintro rfl
  refine hun (List.any_eq_true.2 ⟨f, hf, ?_⟩)
  simpa using hid

theorem sameView_protections {protections : List ConfigProtection}
    (h : protections.filter (fun p => p.hostId = before.id && p.enabled) =
      s.protections.filter fun p => p.hostId = before.id && p.enabled) :
    SameView env s { s with protections := protections } before before :=
  { SameView.refl env s before with protections := h }

theorem tracked_protect (row : ConfigProtection) : Tracked env s (s.step (.protect row)) := by
  refine tracked_tables rfl fun id before hbef hcon => sameView_protections ?_
  have hne : row.hostId ≠ before.id := by
    rw [host_id hbef]
    exact fun h => of_decide_eq_false hcon h.symm
  rw [List.filter_append, List.filter_cons_of_neg (by simp [hne]), List.filter_nil, List.append_nil]

theorem tracked_putProtection (row : ConfigProtection) : Tracked env s (s.step (.putProtection row)) := by
  refine tracked_tables rfl fun id before hbef hcon => sameView_protections ?_
  rw [List.any_eq_false] at hcon
  have hrow : ∀ p ∈ s.protections, p.id = row.id → p.hostId ≠ before.id := by
    intro p hp hid hhost
    refine hcon p hp ?_
    simp [hid, hhost, host_id hbef]
  generalize s.protections = protections at hrow ⊢
  induction protections with
  | nil => rfl
  | cons p protections ih =>
    have hrest := ih fun q hq => hrow q (.tail _ hq)
    rw [List.map_cons]
    by_cases hid : p.id = row.id
    · have hne := hrow p (.head _) hid
      rw [if_pos hid, List.filter_cons_of_neg (by simp [hne]), List.filter_cons_of_neg (by simp [hne])]
      exact hrest
    · rw [if_neg hid, List.filter_cons, List.filter_cons, hrest]

theorem tracked_unprotect (protectionId : String) : Tracked env s (s.step (.unprotect protectionId)) := by
  refine tracked_tables rfl fun id before hbef hcon => sameView_protections ?_
  rw [List.any_eq_false] at hcon
  rw [List.filter_filter]
  refine List.filter_congr fun p hp => ?_
  by_cases hhost : p.hostId = before.id
  · have hid : p.id ≠ protectionId := fun hid => hcon p hp (by simp [hid, hhost, host_id hbef])
    simp [hid]
  · simp [hhost]

theorem sameView_pauses {pauses : Table String ConfigPause} (hown : pauses before.id = s.pauses before.id)
    (hgl : pauses "global" = s.pauses "global") : SameView env s { s with pauses := pauses } before before := by
  refine { SameView.refl env s before with pause := ?_ }
  unfold effectivePause
  dsimp only
  rw [hown, hgl]

theorem tracked_setHostPause {mode : String} {bwlimit : Option String}
    (hg : (Write.setHostPause hostId mode bwlimit).Guarded env s) :
    Tracked env s (s.step (.setHostPause hostId mode bwlimit)) := by
  unfold step
  dsimp only
  split
  · refine tracked_tables rfl fun id before hbef hcon => sameView_pauses (Table.put_of_ne ?_) (Table.put_of_ne ?_)
    · rw [host_id hbef]
      exact of_decide_eq_false hcon
    · exact fun h => hg h.symm
  · exact tracked_refl

theorem tracked_clearHostPause (hg : (Write.clearHostPause hostId).Guarded env s) :
    Tracked env s (s.step (.clearHostPause hostId)) := by
  refine tracked_tables rfl fun id before hbef hcon => sameView_pauses (Table.erase_of_ne ?_) (Table.erase_of_ne ?_)
  · rw [host_id hbef]
    exact of_decide_eq_false hcon
  · exact fun h => hg h.symm

theorem tracked_all {s₁ : ConfigServer β} {concerned : String → Bool} (hho : s₁.hosts = s.hosts)
    (h : ∀ host ∈ s.hosts, concerned host.id = true) : Tracked env s (s₁.bump concerned) := by
  refine tracked_tables hho fun id before hbef hcon => ?_
  have htrue := h before (host_mem hbef)
  rw [host_id hbef, hcon] at htrue
  cases htrue

end Tables

section Assignments

variable {env : ConfigEnv β} {s : ConfigServer β} {hostId : String} {before : ConfigHost}

theorem sameView_assignments {assignments : List AssignmentRow}
    (hrows : assignments.filter (fun r => r.hostId = before.id) = s.assignments.filter fun r => r.hostId = before.id)
    (hsh : ∀ r ∈ s.assignments, r.hostId = before.id → ∀ peer ∈ s.detectLanPeers env before,
      ((∃ a ∈ assignments, a.hostId = peer.peerHostId ∧ a.folderId = r.folderId) →
          ∃ peer ∈ s.detectLanPeers env before, ∃ a ∈ s.assignments, a.hostId = peer.peerHostId ∧ a.folderId = r.folderId) ∧
        ((∃ a ∈ s.assignments, a.hostId = peer.peerHostId ∧ a.folderId = r.folderId) →
          ∃ peer ∈ s.detectLanPeers env before, ∃ a ∈ assignments, a.hostId = peer.peerHostId ∧ a.folderId = r.folderId)) :
    SameView env s { s with assignments := assignments } before before := by
  refine { SameView.refl env s before with
    rows := hrows, shared := fun r hr => ?_, folders := folderRows_congr rfl hrows }
  obtain ⟨hmem, hhost⟩ := List.mem_filter.1 hr
  rw [Bool.eq_iff_iff, sharedByPeer_iff, sharedByPeer_iff]
  constructor
  · rintro ⟨peer, hpeer, hasg⟩
    exact (hsh r hmem (by simpa using hhost) peer hpeer).1 hasg
  · rintro ⟨peer, hpeer, hasg⟩
    exact (hsh r hmem (by simpa using hhost) peer hpeer).2 hasg

theorem detectLanPeers_of_isPeerOf {row : ConfigHost} (hrow : row ∈ s.hosts) (hne : row.id ≠ before.id)
    (h : env.isPeerOf before row = true) : ∃ peer ∈ s.detectLanPeers env before, peer.peerHostId = row.id := by
  have hlan : ∃ lanIp, presentText row.lanIp = some lanIp := by
    have hsu : (env.ipv4Subnet24 row.lanIp).isSome = true := by
      unfold ConfigEnv.isPeerOf at h
      simp only [Bool.and_eq_true, decide_eq_true_eq] at h
      rw [h.2]
      exact h.1.2
    cases hip : presentText row.lanIp with
    | some lanIp => exact ⟨lanIp, rfl⟩
    | none =>
      unfold ConfigEnv.ipv4Subnet24 at hsu
      rw [hip] at hsu
      cases hsu
  obtain ⟨lanIp, hlan⟩ := hlan
  have hpeer : ∃ peer, env.peerOf before row = some peer ∧ peer.peerHostId = row.id := by
    unfold ConfigEnv.peerOf
    rw [if_neg (by simp [hne, h]), hlan, Option.map_some]
    exact ⟨_, rfl, rfl⟩
  obtain ⟨peer, hpeer, hid⟩ := hpeer
  exact ⟨peer, List.mem_filterMap.2 ⟨row, hrow, hpeer⟩, hid⟩

theorem tracked_patchAssignment (row : AssignmentRow) : Tracked env s (s.step (.patchAssignment row)) := by
  have hkept : ∀ r : AssignmentRow,
      (if r.folderId = row.folderId ∧ r.hostId = row.hostId then { row with id := r.id } else r).hostId = r.hostId ∧
      (if r.folderId = row.folderId ∧ r.hostId = row.hostId then { row with id := r.id } else r).folderId = r.folderId := by
    intro r
    split
    · rename_i h
      exact ⟨h.2.symm, h.1.symm⟩
    · exact ⟨rfl, rfl⟩
  unfold step
  dsimp only
  split
  · refine tracked_tables rfl fun id before hbef hcon => sameView_assignments ?_ ?_
    · have hne : row.hostId ≠ before.id := by
        rw [host_id hbef]
        exact fun h => of_decide_eq_false hcon h.symm
      induction s.assignments with
      | nil => rfl
      | cons r assignments ih =>
        rw [List.map_cons]
        by_cases hr : r.hostId = before.id
        · have hnot : ¬(r.folderId = row.folderId ∧ r.hostId = row.hostId) := fun h => hne (h.2.symm.trans hr)
          rw [if_neg hnot, List.filter_cons, List.filter_cons, ih]
        · rw [List.filter_cons_of_neg (by simpa [(hkept r).1] using hr), List.filter_cons_of_neg (by simpa using hr)]
          exact ih
    · intro r hr hhost peer hpeer
      constructor
      · rintro ⟨a, ha, hpeerId, hfol⟩
        obtain ⟨old, hold, rfl⟩ := List.mem_map.1 ha
        exact ⟨peer, hpeer, old, hold, (hkept old).1.symm.trans hpeerId, (hkept old).2.symm.trans hfol⟩
      · rintro ⟨a, ha, hpeerId, hfol⟩
        exact ⟨peer, hpeer, _, List.mem_map.2 ⟨a, ha, rfl⟩, (hkept a).1.trans hpeerId, (hkept a).2.trans hfol⟩
  · exact tracked_refl

theorem shared_anyway {folderId : String} (hg : s.SharedAnyway env folderId hostId) (hbef : before ∈ s.hosts)
    (hne : before.id ≠ hostId) {r : AssignmentRow} (hr : r ∈ s.assignments) (hhost : r.hostId = before.id)
    (hfol : r.folderId = folderId) {peer : SentPeer} (hpeer : peer ∈ s.detectLanPeers env before)
    (hid : peer.peerHostId = hostId) : ∃ peer ∈ s.detectLanPeers env before, peer.peerHostId ≠ hostId ∧
      ∃ a ∈ s.assignments, a.hostId = peer.peerHostId ∧ a.folderId = folderId := by
  obtain ⟨row, hrow, -, hseen, hrowId⟩ := mem_detectLanPeers hpeer
  obtain ⟨third, hth, hthirdBefore, hthirdHost, hthirdSeen, a, ha, haHost, haFolder⟩ :=
    hg before hbef hne row hrow (hrowId.symm.trans hid) hseen r hr hhost hfol
  obtain ⟨peer', hpeer', hid'⟩ := detectLanPeers_of_isPeerOf hth hthirdBefore hthirdSeen
  exact ⟨peer', hpeer', fun h => hthirdHost (hid'.symm.trans h), a, ha, haHost.trans hid'.symm, haFolder⟩

theorem tracked_assign {row : AssignmentRow} (hg : (Write.assign row).Guarded env s) :
    Tracked env s (s.step (.assign row)) := by
  unfold step
  dsimp only
  split
  · refine tracked_tables rfl fun id before hbef hcon => ?_
    have hne : before.id ≠ row.hostId := by
      rw [host_id hbef]
      exact of_decide_eq_false hcon
    refine sameView_assignments ?_ fun r hr hhost peer hpeer => ⟨?_, ?_⟩
    · rw [List.filter_append, List.filter_cons_of_neg (by simpa using hne.symm), List.filter_nil, List.append_nil]
    · rintro ⟨a, ha, haHost, haFolder⟩
      rcases List.mem_append.1 ha with ha | ha
      · exact ⟨peer, hpeer, a, ha, haHost, haFolder⟩
      obtain rfl := List.mem_singleton.1 ha
      obtain ⟨peer', hpeer', -, shared⟩ := shared_anyway hg (host_mem hbef) hne hr hhost haFolder.symm hpeer haHost.symm
      exact ⟨peer', hpeer', haFolder ▸ shared⟩
    · rintro ⟨a, ha, hrest⟩
      exact ⟨peer, hpeer, a, List.mem_append_left _ ha, hrest⟩
  · exact tracked_refl

theorem tracked_unassign {folderId : String} (hg : (Write.unassign folderId hostId).Guarded env s) :
    Tracked env s (s.step (.unassign folderId hostId)) := by
  have hkept : ∀ a ∈ s.assignments, ¬(a.folderId = folderId ∧ a.hostId = hostId) →
      a ∈ s.assignments.filter fun r => !(r.folderId = folderId && r.hostId = hostId) := by
    intro a ha hnot
    refine List.mem_filter.2 ⟨ha, ?_⟩
    by_cases hfol : a.folderId = folderId
    · have hhost : a.hostId ≠ hostId := fun h => hnot ⟨hfol, h⟩
      simp [hhost]
    · simp [hfol]
  unfold step
  dsimp only
  split
  · refine tracked_tables rfl fun id before hbef hcon => ?_
    have hne : before.id ≠ hostId := by
      rw [host_id hbef]
      exact of_decide_eq_false hcon
    refine sameView_assignments ?_ fun r hr hhost peer hpeer => ⟨?_, ?_⟩
    · rw [List.filter_filter]
      refine List.filter_congr fun r _ => ?_
      by_cases hr : r.hostId = before.id
      · simp [hr, hne]
      · simp [hr]
    · rintro ⟨a, ha, hrest⟩
      exact ⟨peer, hpeer, a, (List.mem_filter.1 ha).1, hrest⟩
    rintro ⟨a, ha, haHost, haFolder⟩
    by_cases hrem : a.folderId = folderId ∧ a.hostId = hostId
    · obtain ⟨peer', hpeer', hpeerNe, shared, hsh, hsharedHost, hsharedFolder⟩ :=
        shared_anyway hg (host_mem hbef) hne hr hhost (haFolder.symm.trans hrem.1) hpeer
          (haHost.symm.trans hrem.2)
      refine ⟨peer', hpeer', shared, hkept shared hsh fun h => hpeerNe (hsharedHost.symm.trans h.2), hsharedHost, ?_⟩
      exact hsharedFolder.trans (hrem.1.symm.trans haFolder)
    · exact ⟨peer, hpeer, a, hkept a ha hrem, haHost, haFolder⟩
  · exact tracked_refl

end Assignments

section Runs

variable {env : ConfigEnv β} {s : ConfigServer β}

theorem trackedBut_step {write : Write β} (hg : write.Guarded env s) :
    TrackedBut env (fun id => (s.lateBump write).any fun bump => bump.concerns id) s (s.step write) := by
  cases write with
  | register hostId hostname tailnetIp => exact trackedBut_register hg
  | health hostId status lanIp tailnetIp os => exact trackedBut_health hg
  | rename hostId hostname => exact trackedBut_rename hostname
  | setClass hostId hostClass => exact (tracked_setClass hostClass).but
  | deleteHost hostId => exact (tracked_deleteHost hg).but
  | createFolder row =>
    refine Tracked.but ?_
    exact tracked_all rfl fun _ _ => rfl
  | putFolder row => exact (tracked_putFolder row).but
  | deleteFolder folderId => exact (tracked_deleteFolder hg).but
  | assign row => exact (tracked_assign hg).but
  | patchAssignment row => exact (tracked_patchAssignment row).but
  | unassign folderId hostId => exact (tracked_unassign hg).but
  | createBackend id row => exact (tracked_createBackend hg).but
  | putBackend id row =>
    refine Tracked.but ?_
    unfold step
    dsimp only
    split
    · exact tracked_all rfl fun _ _ => rfl
    · exact tracked_refl
  | deleteBackend id => exact (tracked_deleteBackend id).but
  | protect row => exact (tracked_protect row).but
  | putProtection row => exact (tracked_putProtection row).but
  | unprotect id => exact (tracked_unprotect id).but
  | setPause mode bwlimit | clearPause =>
    refine Tracked.but ?_
    exact tracked_all rfl fun host hhost => decide_eq_true (hg host hhost)
  | setHostPause hostId mode bwlimit => exact (tracked_setHostPause hg).but
  | clearHostPause hostId => exact (tracked_clearHostPause hg).but

end Runs

end ConfigServer

namespace ConfigSystem

variable {env : ConfigEnv β} {s : ConfigSystem β}

theorem tracked_step {e : ConfigEvent β} (hg : e.Guarded env s) : Tracked env s (s.step e) := by
  cases e with
  | write write =>
    intro hostId before after hbef haf
    obtain ⟨hle, hcont⟩ := ConfigServer.trackedBut_step hg hostId before after hbef haf
    refine ⟨hle, fun heq hnone => ⟨?_, hcont heq ?_⟩⟩
    · rintro ⟨bump, hbump, hco⟩
      exact hnone ⟨bump, List.mem_append_left _ hbump, hco⟩
    · refine Bool.eq_false_iff.2 fun hcon => hnone ?_
      obtain ⟨bump, hbump, hco⟩ := (Option.any_eq_true ..).1 hcon
      exact ⟨bump, List.mem_append_right _ (Option.mem_toList.2 hbump), hco⟩
  | released request =>
    cases hreq : s.owed[request]? with
    | none =>
      have hno : s.step (.released request) = s := by simp only [step, hreq]
      rw [hno]
      intro hostId before after hbef haf
      obtain rfl := Option.mem_unique hbef haf
      exact ⟨le_refl _, fun _ hnone => ⟨hnone, rfl⟩⟩
    | some bump =>
      have hdone : s.step (.released request) = ⟨s.server.bump bump.concerns, s.owed.eraseIdx request⟩ := by
        simp only [step, hreq]
      rw [hdone]
      intro hostId before after hbef haf
      have hbu : ConfigServer.TrackedBut env (fun _ => false) s.server (s.server.bump bump.concerns) := by
        refine ConfigServer.Tracked.but (ConfigServer.tracked_bump fun id row row' hrow hrow' => ?_)
        obtain rfl := Option.mem_unique hrow hrow'
        exact ⟨le_refl _, fun _ => rfl⟩
      obtain ⟨hle, hcont⟩ := hbu hostId before after hbef haf
      refine ⟨hle, fun heq hnone => ⟨?_, hcont heq rfl⟩⟩
      rintro ⟨other, ho, hco⟩
      obtain ⟨i, hi⟩ := List.mem_iff_getElem?.1 ho
      by_cases hsame : i = request
      · -- the bump that was owed has been done, so the revision is another
        subst hsame
        obtain rfl := Option.mem_unique hreq hi
        have hhost : (s.server.bump bump.concerns).host hostId = some { before with
            configRevision := before.configRevision + 1 } := by
          refine (ConfigServer.host_map fun row => (by split <;> rfl)).trans ?_
          rw [hbef, Option.map_some, ConfigServer.host_id hbef, if_pos hco]
        obtain rfl := Option.mem_unique hhost haf
        exact absurd heq (Nat.ne_of_lt (Nat.lt_succ_self _))
      · exact hnone ⟨other, List.mem_eraseIdx_iff_getElem?.2 ⟨i, hsame, hi⟩, hco⟩

theorem tracked_run {events : List (ConfigEvent β)} (htr : Always step (fun s e => Tracked env s (s.step e)) s events)
    {hostId : String} (hreg : Always step (fun s e => ((s.step e).server.host hostId).isSome = true) s events)
    {before after : ConfigHost} (hbef : s.server.host hostId = some before)
    (haf : (run step s events).server.host hostId = some after) :
    before.configRevision ≤ after.configRevision ∧
      (before.configRevision = after.configRevision → ¬(run step s events).Owes hostId →
        ¬s.Owes hostId ∧ (run step s events).server.contentOf env after = s.server.contentOf env before) := by
  induction events generalizing s before with
  | nil =>
    obtain rfl := Option.mem_unique hbef haf
    exact ⟨le_refl _, fun _ hnone => ⟨hnone, rfl⟩⟩
  | cons e events ih =>
    obtain ⟨mid, hmid⟩ := Option.isSome_iff_exists.1 hreg.1
    obtain ⟨hle, hcont⟩ := htr.1 hostId before mid hbef hmid
    obtain ⟨hle', hcont'⟩ := ih htr.2 hreg.2 hmid haf
    refine ⟨hle.trans hle', fun heq hnone => ?_⟩
    have hmidEq : before.configRevision = mid.configRevision := by omega
    obtain ⟨hmidNone, hsame'⟩ := hcont' (hmidEq.symm.trans heq) hnone
    obtain ⟨hbeforeNone, hsame⟩ := hcont hmidEq hmidNone
    exact ⟨hbeforeNone, hsame'.trans hsame⟩

end ConfigSystem

/-- In every run of writes that meet the condition, the revision of a host goes up, or a bump of it is owed, whenever what it
is sent changes; so where two states of the run in which it stays registered have the same revision of it, and no bump of it
is owed at the later one, it is sent the same. -/
theorem revision_tracks_config (env : ConfigEnv β) {s : ConfigSystem β} {events : List (ConfigEvent β)}
    (h : Always ConfigSystem.step (ConfigEvent.Guarded env) s events) :
    Always ConfigSystem.step (fun s e => ConfigSystem.Tracked env s (s.step e)) s events ∧
      ∀ hostId before after, s.server.host hostId = some before →
        (run ConfigSystem.step s events).server.host hostId = some after →
        Always ConfigSystem.step (fun s e => ((s.step e).server.host hostId).isSome = true) s events →
        before.configRevision = after.configRevision → ¬(run ConfigSystem.step s events).Owes hostId →
        (run ConfigSystem.step s events).server.contentOf env after = s.server.contentOf env before := by
  have htr := h.mono fun _ _ hg => ConfigSystem.tracked_step hg
  exact ⟨htr, fun hostId before after hbef haf hreg heq hnone =>
    ((ConfigSystem.tracked_run htr hreg hbef haf).2 heq hnone).2⟩

def exampleConfigEnv : ConfigEnv Unit where
  resticOf := fun _ => { resticRepository := none, resticPassword := none }
  isOctet := fun part => part.toList.all Char.isDigit && decide (part.toList.foldl (fun n c => 10 * n + (c.toNat - 48)) 0 ≤ 255)
  generateRcloneConfig := fun _ _ _ peers => "\n".intercalate (["# Server tailnet IP: (unset)", ""] ++ peers.flatMap fun peer => [
    "[" ++ peer.peerRemote ++ "]", "type = sftp", "host = " ++ peer.peerLanIp, "user = lamasync",
    "description = \"LAN peer " ++ peer.peerHostId ++ " (" ++ peer.role ++ ") via lan (" ++ peer.peerLanIp ++ ")\"", ""])

def joiningEvents : List (ConfigEvent Unit) := [
  .write (.register "a" "a" none), .released 0,
  .write (.health "a" "online" (some "192.168.1.2") (some "100.64.0.1") (some "linux")),
  .write (.createFolder { id := "f", name := "photos", type := "sync" }), .released 0,
  .write (.assign { id := "r", folderId := "f", hostId := "a", role := "both", localPath := "/srv/photos" }),
  .write (.putFolder { id := "f", name := "pictures", type := "sync" })]

theorem revision_tracks_config_joining :
    ((run ConfigSystem.step ⟨{}, []⟩ joiningEvents).server.host "a").any (fun host => host.configRevision = 4) = true ∧
      Always ConfigSystem.step (fun s e => ConfigSystem.Tracked exampleConfigEnv s (s.step e)) ⟨{}, []⟩ joiningEvents := by
  refine ⟨by decide +kernel, (revision_tracks_config exampleConfigEnv ?_).1⟩
  refine ⟨fun host h => (by cases h), trivial, ?_, trivial, trivial, ?_, trivial, trivial⟩
  · simp only [ConfigEvent.Guarded, ConfigServer.Write.Guarded]
    decide +kernel
  · simp only [ConfigEvent.Guarded, ConfigServer.Write.Guarded, ConfigServer.SharedAnyway]
    decide +kernel

def firstNeighbour : ConfigHost where
  id := "a"
  hostname := "a"
  lanIp := some "192.168.1.2"
  status := "online"

def twoNeighbours : ConfigServer Unit where
  hosts := [firstNeighbour, { id := "b", hostname := "b", lanIp := some "192.168.1.3", status := "online" }]

/-- The second one reports another address. -/
def movedNeighbour : ConfigServer Unit := twoNeighbours.step (.health "b" "online" (some "192.168.1.9") none none)

/-- The second one registers again, and waits for the release. -/
def returningNeighbour : ConfigServer Unit where
  hosts := [firstNeighbour, { id := "b", hostname := "b", lanIp := some "192.168.1.3", status := "offline" }]

/-- A heartbeat with another address, and the deletion of a host, change what its neighbour is sent, and bump nobody; a
registration bumps its neighbours later. -/
theorem neighbours_are_not_tracked : ¬ ConfigServer.Tracked exampleConfigEnv twoNeighbours movedNeighbour ∧
    ¬ ConfigServer.Tracked exampleConfigEnv twoNeighbours (twoNeighbours.step (.deleteHost "b")) ∧
    ¬ ConfigServer.Tracked exampleConfigEnv returningNeighbour
      ((ConfigSystem.mk returningNeighbour []).step (.write (.register "b" "b" none))).server := by
  have hpe :
      (movedNeighbour.contentOf exampleConfigEnv firstNeighbour).peers ≠
          (twoNeighbours.contentOf exampleConfigEnv firstNeighbour).peers ∧
        ((twoNeighbours.step (.deleteHost "b")).contentOf exampleConfigEnv firstNeighbour).peers ≠
          (twoNeighbours.contentOf exampleConfigEnv firstNeighbour).peers ∧
        ((returningNeighbour.step (.register "b" "b" none)).contentOf exampleConfigEnv firstNeighbour).peers ≠
          (returningNeighbour.contentOf exampleConfigEnv firstNeighbour).peers ∧
        (returningNeighbour.step (.register "b" "b" none)).host "a" = some firstNeighbour := by
    decide +kernel
  obtain ⟨hmv, hdel, hret, hhost⟩ := hpe
  refine ⟨fun h => hmv ?_, fun h => hdel ?_, fun h => hret ?_⟩
  · exact congrArg SentContent.peers ((h "a" firstNeighbour firstNeighbour rfl rfl).2 rfl)
  · exact congrArg SentContent.peers ((h "a" firstNeighbour firstNeighbour rfl rfl).2 rfl)
  · exact congrArg SentContent.peers ((h "a" firstNeighbour firstNeighbour rfl hhost).2 rfl)

end LamaSync
