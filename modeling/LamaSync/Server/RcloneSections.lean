import LamaSync.Lib.Rows
import LamaSync.Server.RcloneConfig
import Mathlib.Data.List.Lattice
import Mathlib.Data.List.Pairwise

/-!
# The sections of an rclone configuration

The sections of a folder come from its row, its backend and its assignment (`Stored.shape`).  They have no line feed when the
texts that are written into them have none, and the names of all sections differ when those that the assignments give are
the names of no others.
-/

namespace LamaSync

open Ini (Unbroken)

/-- The rows of a pair are in order. -/
structure RemotePair.Stored (p : RemotePair) : Prop where
  id : ∃ id : RandomUuid, p.folder.id = id.val
  type : Unbroken p.folder.type
  password : p.folder.encrypted = true → (presentText p.folder.cryptPassword).isSome = true
  s3 : p.folder.backend = .s3 → ∃ s3, p.resolveFolderS3Config = some s3
  directory : p.folder.backend = .local ∨ p.folder.backend = .nfs → ∃ path, p.resolveFolderLocalConfig = some path

namespace RemotePair

variable {env : RcloneEnv} {p : RemotePair}

theorem Stored.isEncrypted_eq (h : p.Stored) (htype : p.folder.type ≠ "dotfile") : p.isEncrypted = p.folder.encrypted := by
  unfold isEncrypted
  cases henc : p.folder.encrypted with
  | false => rfl
  | true => simp [h.password henc, htype]

inductive Shape (env : RcloneEnv) (p : RemotePair) : List Ini.Section → Prop
  | layered {backend front : Ini.Section} {storage : RcloneStorage} {path : String} {passwords : List String}
      (hlayered : p.hasBackendSection = true) (hbackend : backend.name = p.backendName) (hfront : front.name = p.sectionName)
      (hstorage : blockStorage backend.toBlock = some storage) (hnone : blockStorage front.toBlock = none)
      (hlayer : blockLayer front.toBlock = some (p.backendName ++ ":" ++ path, passwords))
      (hwritten : p.written env = some ⟨storage, [path], passwords⟩) : Shape env p [backend, front]
  | single {front : Ini.Section} {storage : RcloneStorage} (hsingle : p.hasBackendSection = false)
      (hfront : front.name = p.sectionName) (hstorage : blockStorage front.toBlock = some storage)
      (hwritten : p.written env = some { storage }) : Shape env p [front]

theorem blockStorage_s3 (s3 : S3FolderConfig) (description : String) :
    blockStorage (p.writeS3Backend s3 description).toBlock = some s3.storage := by
  unfold writeS3Backend S3FolderConfig.storage
  cases s3.region with
  | none | some region => rfl

theorem blockStorage_directory (path description : String) :
    blockStorage (p.writeLocalBackend path description).toBlock = some .disk :=
  rfl

theorem writeServer_name (name description unavailable : String) :
    (p.writeServer env name description unavailable).name = name := by
  unfold writeServer
  cases presentText env.serverTailnetIp <;> rfl

theorem blockStorage_server (name description unavailable : String) :
    blockStorage (p.writeServer env name description unavailable).toBlock = some (serverStorage env) := by
  unfold writeServer serverStorage
  cases presentText env.serverTailnetIp <;> rfl

theorem blockLayer_crypt (base : String) : blockStorage (p.writeCrypt base).toBlock = none ∧
    blockLayer (p.writeCrypt base).toBlock = some (p.backendName ++ ":" ++ base, [p.folder.cryptPassword.getD ""]) :=
  ⟨rfl, rfl⟩

theorem blockLayer_alias (base kind : String) : blockStorage (p.writeAlias base kind).toBlock = none ∧
    blockLayer (p.writeAlias base kind).toBlock = some (p.backendName ++ ":" ++ base, []) :=
  ⟨rfl, rfl⟩

theorem cryptPassword_of_isEncrypted (h : p.isEncrypted = true) :
    p.folder.cryptPassword.toList = [p.folder.cryptPassword.getD ""] := by
  cases hpass : p.folder.cryptPassword with
  | none => simp [isEncrypted, hpass, presentText] at h
  | some password => rfl

theorem Stored.shape (h : p.Stored) : Shape env p (p.sections env) := by
  by_cases henc : p.isEncrypted = true
  · -- a crypt layer in front of every kind of backend
    have hback : p.hasBackendSection = true := by simp [hasBackendSection, henc]
    have hname : p.cryptName = p.sectionName := by simp [sectionName, henc]
    have hwr : ∀ {storage path}, p.writtenStorage env = some (storage, [path]) →
        p.written env = some ⟨storage, [path], [p.folder.cryptPassword.getD ""]⟩ := by
      intro storage path hst
      simp [written, henc, hst, cryptPassword_of_isEncrypted henc]
    unfold sections
    dsimp only
    rw [if_pos henc]
    cases hkind : p.folder.backend with
    | s3 =>
      obtain ⟨s3, hs3⟩ := h.s3 hkind
      dsimp only
      rw [hs3]
      exact .layered hback rfl hname (blockStorage_s3 s3 _) (blockLayer_crypt _).1 (blockLayer_crypt _).2
        (hwr (by simp [writtenStorage, hkind, hs3]))
    | sftp | restic =>
      exact .layered hback (writeServer_name ..) hname (blockStorage_server ..) (blockLayer_crypt _).1
        (blockLayer_crypt _).2 (hwr (by simp [writtenStorage, hkind, henc]))
    | «local» | nfs =>
      obtain ⟨path, hpath⟩ := h.directory (by simp [hkind])
      dsimp only
      rw [hpath]
      exact .layered hback rfl hname (blockStorage_directory ..) (blockLayer_crypt _).1 (blockLayer_crypt _).2
        (hwr (by simp [writtenStorage, hkind, hpath]))
  · have hpl : p.isEncrypted = false := by simpa using henc
    have hname : p.remoteName = p.sectionName := by simp [sectionName, hpl]
    unfold sections
    dsimp only
    rw [if_neg henc]
    by_cases htype : p.folder.type = "dotfile"
    · rw [if_pos htype]
      exact .single (by simp [hasBackendSection, hpl, htype]) hname rfl (by simp [written, hpl, htype])
    -- an alias in front of a backend, or the server alone
    have hwr : p.written env = (p.writtenStorage env).map fun w => ⟨w.1, w.2, []⟩ := by
      simp [written, hpl, htype]
    rw [if_neg htype]
    cases hkind : p.folder.backend with
    | s3 =>
      obtain ⟨s3, hs3⟩ := h.s3 hkind
      dsimp only
      rw [hs3]
      exact .layered (by simp [hasBackendSection, htype, hkind]) rfl hname (blockStorage_s3 s3 _)
        (blockLayer_alias ..).1 (blockLayer_alias ..).2 (by rw [hwr]; simp [writtenStorage, hkind, hs3])
    | sftp | restic =>
      exact .single (by simp [hasBackendSection, hpl, hkind]) ((writeServer_name ..).trans hname)
        (blockStorage_server ..) (by rw [hwr]; simp [writtenStorage, hkind, hpl])
    | «local» | nfs =>
      obtain ⟨path, hpath⟩ := h.directory (by simp [hkind])
      dsimp only
      rw [hpath]
      exact .layered (by simp [hasBackendSection, htype, hkind]) rfl hname (blockStorage_directory ..)
        (blockLayer_alias ..).1 (blockLayer_alias ..).2 (by rw [hwr]; simp [writtenStorage, hkind, hpath])

end RemotePair

theorem oneLines_section (name : String) (entries : List (RcloneKey × String)) (comments : List String) :
    (rcloneSection name entries comments).OneLines ↔
      Unbroken name ∧ (∀ entry ∈ entries, Unbroken entry.2) ∧ ∀ comment ∈ comments, Unbroken comment := by
  unfold Ini.Section.OneLines rcloneSection
  simp only [List.forall_mem_map, RcloneKey.unbroken, true_and]

theorem unbroken_quoted (text : String) : Unbroken (quoted text) ↔ Unbroken text := by
  have hmark : Unbroken "\"" := by decide
  simp [quoted, hmark]

theorem RandomUuid.unbroken (id : RandomUuid) : Unbroken id.val := by
  unfold Unbroken
  intro hfeed
  exact absurd (id.property.2 _ hfeed) (by decide)

theorem FolderBackend.unbroken_text (backend : FolderBackend) : Unbroken backend.text := by
  cases backend <;> decide

namespace RemotePair

variable {env : RcloneEnv} {p : RemotePair}

theorem Stored.unbroken_cryptName (h : p.Stored) : Unbroken p.cryptName := by
  obtain ⟨id, hid⟩ := h.id
  have hword : Unbroken "lamasync-" := by decide
  unfold cryptName
  rw [hid]
  exact Ini.unbroken_append.2 ⟨hword, id.unbroken⟩

theorem Stored.unbroken_backendName (h : p.Stored) : Unbroken p.backendName := by
  have hword : Unbroken "-backend" := by decide
  have hcr := h.unbroken_cryptName
  unfold cryptName at hcr
  unfold backendName
  rw [Ini.unbroken_append]
  exact ⟨hcr, hword⟩

theorem Stored.unbroken_title (h : p.Stored) : Unbroken p.title ↔ Unbroken p.folder.name := by
  have hwd : Unbroken " (" ∧ Unbroken ")" := by decide
  simp [title, hwd, h.type]

theorem unbroken_onClient : Unbroken p.onClient ↔ Unbroken p.assignment.localPath := by
  have hword : Unbroken "local path on client: " := by decide
  unfold onClient
  rw [Ini.unbroken_append]
  exact and_iff_right hword

theorem Stored.oneLines_s3 (h : p.Stored) (s3 : S3FolderConfig) (description : String) :
    (p.writeS3Backend s3 description).OneLines ↔ Unbroken description ∧ Unbroken p.assignment.localPath ∧
      ∀ text ∈ [s3.endpoint, s3.bucket, s3.accessKeyId, s3.secretAccessKey] ++ s3.region.toList, Unbroken text := by
  have hwd : Unbroken "s3" ∧ Unbroken "false" ∧ Unbroken "bucket: " := by decide
  have hprov : Unbroken s3.providerText := by
    unfold S3FolderConfig.providerText
    split <;> decide
  unfold writeS3Backend
  rw [oneLines_section]
  simp only [List.forall_mem_append, List.forall_mem_cons, List.forall_mem_map, unbroken_quoted, unbroken_onClient,
    Ini.unbroken_append, h.unbroken_backendName, hwd, hprov]
  simp
  tauto

theorem Stored.oneLines_directory (h : p.Stored) (path description : String) :
    (p.writeLocalBackend path description).OneLines ↔
      Unbroken description ∧ Unbroken p.assignment.localPath ∧ Unbroken path := by
  have hwd : Unbroken "local" ∧ Unbroken "server path: " := by decide
  unfold writeLocalBackend
  rw [oneLines_section]
  simp [unbroken_quoted, unbroken_onClient, h.unbroken_backendName, hwd]

theorem oneLines_server {name description unavailable : String} (hip : ∀ ip ∈ env.serverTailnetIp, Unbroken ip)
    (hsame : Unbroken unavailable ↔ Unbroken description) :
    (p.writeServer env name description unavailable).OneLines ↔
      Unbroken name ∧ Unbroken description ∧ Unbroken p.assignment.localPath := by
  have hwd : Unbroken "local" ∧ Unbroken "sftp" ∧ Unbroken "lamasync" := by decide
  unfold writeServer
  cases hpres : presentText env.serverTailnetIp with
  | none =>
    dsimp only
    rw [oneLines_section]
    simp [unbroken_quoted, unbroken_onClient, hwd, hsame]
  | some ip =>
    have hown : Unbroken ip := hip ip (Option.filter_eq_some_iff.1 hpres).1
    dsimp only
    rw [oneLines_section]
    simp [unbroken_quoted, unbroken_onClient, hwd, hown]

theorem Stored.oneLines_crypt (h : p.Stored) (base : String) :
    (p.writeCrypt base).OneLines ↔ Unbroken base ∧ Unbroken (p.folder.cryptPassword.getD "") ∧ Unbroken p.folder.name := by
  have hwd : Unbroken "crypt" ∧ Unbroken ":" ∧ Unbroken " (encrypted " ∧ Unbroken ")" := by decide
  unfold writeCrypt
  dsimp only
  rw [oneLines_section]
  simp [unbroken_quoted, h.unbroken_backendName, h.unbroken_cryptName, h.type, hwd]

theorem Stored.oneLines_alias (h : p.Stored) {base kind : String} (hkind : Unbroken kind) :
    (p.writeAlias base kind).OneLines ↔
      Unbroken p.remoteName ∧ Unbroken base ∧ Unbroken p.folder.name ∧ Unbroken p.assignment.localPath := by
  have hwd : Unbroken "alias" ∧ Unbroken ":" ∧ Unbroken " — " ∧ Unbroken " alias" := by decide
  unfold writeAlias
  rw [oneLines_section]
  simp [unbroken_quoted, unbroken_onClient, h.unbroken_backendName, h.unbroken_title, hkind, hwd]
  tauto

theorem oneLines_dotfile : (p.writeDotfile env).OneLines ↔
    Unbroken p.remoteName ∧ Unbroken p.folder.name ∧ Unbroken p.assignment.localPath ∧ Unbroken env.backupDir := by
  have hwd : Unbroken "local" ∧ Unbroken " (dotfile backup)" ∧ Unbroken "server path: " ∧ Unbroken "/dotfiles/" ∧ Unbroken "/" := by
    decide
  unfold writeDotfile
  rw [oneLines_section]
  simp [unbroken_quoted, unbroken_onClient, hwd]
  tauto

theorem unbroken_cryptPassword (h : p.isEncrypted = true) :
    (∀ text ∈ p.folder.cryptPassword.toList, Unbroken text) ↔ Unbroken (p.folder.cryptPassword.getD "") := by
  rw [cryptPassword_of_isEncrypted h, List.forall_mem_singleton]

theorem Stored.unbroken_remoteName (h : p.Stored) :
    Unbroken p.remoteName ↔ ∀ text ∈ p.assignment.remoteName.toList, Unbroken text := by
  unfold remoteName
  cases p.assignment.remoteName with
  | none => simp [h.unbroken_cryptName]
  | some name => simp

theorem resolveFolderS3Config_none (h : p.folder.backend ≠ .s3) : p.resolveFolderS3Config = none :=
  if_pos (.inl h)

theorem resolveFolderLocalConfig_none (h : p.folder.backend ≠ .local ∧ p.folder.backend ≠ .nfs) :
    p.resolveFolderLocalConfig = none :=
  if_pos (.inl h)

theorem Stored.oneLines_iff (h : p.Stored) (hip : ∀ ip ∈ env.serverTailnetIp, Unbroken ip) :
    (∀ s ∈ p.sections env, s.OneLines) ↔ ∀ text ∈ p.writtenTexts env, Unbroken text := by
  have hkind := p.folder.backend.unbroken_text
  have hwd : Unbroken " — encrypted S3 backend" ∧ Unbroken " — encrypted " ∧ Unbroken " backend" ∧
      Unbroken " — encrypted backend" ∧ Unbroken " — encrypted backend; server unavailable" ∧ Unbroken " — S3 backend" ∧
      Unbroken " — " ∧ Unbroken " — server unavailable" ∧ Unbroken "S3" := by decide
  obtain ⟨hs3Word, hencryptedWord, hback, hse, hun, hplainS3, hdash, hplainUnavailable, hs3Kind⟩ := hwd
  unfold sections writtenTexts
  dsimp only
  by_cases henc : p.isEncrypted = true
  · have hpass := unbroken_cryptPassword henc
    have hno : ¬ (p.isEncrypted = false ∧ p.folder.type = "dotfile") := by simp [henc]
    rw [if_pos henc, if_pos henc, if_neg hno]
    cases hbk : p.folder.backend with
    | s3 =>
      obtain ⟨s3, hs3⟩ := h.s3 hbk
      dsimp only
      rw [hs3]
      simp only [List.forall_mem_cons, List.forall_mem_append, h.oneLines_s3, h.oneLines_crypt, hpass,
        Ini.unbroken_append, h.unbroken_title, hs3Word]
      simp
      tauto
    | sftp | restic =>
      have hsame : Unbroken (p.title ++ " — encrypted backend; server unavailable") ↔
          Unbroken (p.title ++ " — encrypted backend") := by
        rw [Ini.unbroken_append, Ini.unbroken_append]
        exact and_congr_right fun _ => iff_of_true hun hse
      rw [resolveFolderS3Config_none (by simp [hbk]), resolveFolderLocalConfig_none (by simp [hbk])]
      simp only [List.forall_mem_cons, List.forall_mem_append, oneLines_server hip hsame, h.oneLines_crypt, hpass,
        Ini.unbroken_append, h.unbroken_title, h.unbroken_backendName, hse]
      simp
      tauto
    | «local» | nfs =>
      obtain ⟨path, hpath⟩ := h.directory (by simp [hbk])
      rw [hbk] at hkind
      rw [resolveFolderS3Config_none (by simp [hbk]), hpath]
      simp only [List.forall_mem_cons, List.forall_mem_append, h.oneLines_directory, h.oneLines_crypt, hpass,
        Ini.unbroken_append, h.unbroken_title, hkind, hencryptedWord, hback]
      simp
      tauto
  · have hpl : p.isEncrypted = false := by simpa using henc
    have hrem := h.unbroken_remoteName
    rw [if_neg henc, if_neg henc]
    by_cases htype : p.folder.type = "dotfile"
    · rw [if_pos htype, if_pos ⟨hpl, htype⟩]
      simp only [List.forall_mem_cons, List.forall_mem_append, oneLines_dotfile, hrem]
      simp
      tauto
    rw [if_neg htype, if_neg fun hboth => htype hboth.2]
    cases hbk : p.folder.backend with
    | s3 =>
      obtain ⟨s3, hs3⟩ := h.s3 hbk
      dsimp only
      rw [hs3]
      simp only [List.forall_mem_cons, List.forall_mem_append, h.oneLines_s3, h.oneLines_alias hs3Kind, hrem,
        Ini.unbroken_append, h.unbroken_title, hplainS3]
      simp
      tauto
    | sftp | restic =>
      have hsame : Unbroken (p.title ++ " — server unavailable") ↔ Unbroken p.title := by
        rw [Ini.unbroken_append]
        exact and_iff_left hplainUnavailable
      rw [resolveFolderS3Config_none (by simp [hbk]), resolveFolderLocalConfig_none (by simp [hbk])]
      simp only [List.forall_mem_cons, List.forall_mem_append, oneLines_server hip hsame, h.unbroken_title, hrem]
      simp
      tauto
    | «local» | nfs =>
      obtain ⟨path, hpath⟩ := h.directory (by simp [hbk])
      rw [hbk] at hkind
      rw [resolveFolderS3Config_none (by simp [hbk]), hpath]
      simp only [List.forall_mem_cons, List.forall_mem_append, h.oneLines_directory, h.oneLines_alias hkind, hrem,
        Ini.unbroken_append, h.unbroken_title, hkind, hdash, hback]
      simp
      tauto

end RemotePair

/-- An entry for a neighbour. -/
structure SentPeer.Found (peer : SentPeer) : Prop where
  remote : peer.peerRemote = "lamasync-peer-" ++ peer.peerHostId
  address : peer.peerLanIp ≠ ""
  role : Unbroken peer.role

section Peers

variable {env : RcloneEnv} {peer : SentPeer}

theorem SentPeer.Found.oneLines_address (h : peer.Found) {name host via : String} (hname : Unbroken name ↔ Unbroken peer.peerHostId)
    (hvia : Unbroken via) :
    (rcloneSection name
      ([(.type, "sftp"), (.host, host), (.user, "lamasync"),
        (.description, quoted ("LAN peer " ++ peer.peerHostId ++ " (" ++ peer.role ++ ") via " ++ via ++ " (" ++ host ++ ")"))] ++
        (presentText env.apiKey).toList.map fun key => (.pass, key)) []).OneLines ↔
      Unbroken peer.peerHostId ∧ Unbroken host ∧ ∀ key ∈ (presentText env.apiKey).toList, Unbroken key := by
  have hwd : Unbroken "sftp" ∧ Unbroken "lamasync" ∧ Unbroken "LAN peer " ∧ Unbroken " (" ∧ Unbroken ") via " ∧ Unbroken ")" := by
    decide
  rw [oneLines_section]
  simp only [List.forall_mem_append, List.forall_mem_cons, List.forall_mem_map, unbroken_quoted, Ini.unbroken_append, hwd,
    h.role, hvia, hname]
  simp
  tauto

theorem SentPeer.Found.unbroken_remote (h : peer.Found) : (Unbroken peer.peerRemote ↔ Unbroken peer.peerHostId) ∧
    (Unbroken (peer.peerRemote ++ "-lan") ↔ Unbroken peer.peerHostId) := by
  have hwd : Unbroken "lamasync-peer-" ∧ Unbroken "-lan" := by decide
  rw [h.remote]
  simp [hwd]

theorem SentPeer.Found.addresses_cases (h : peer.Found) :
    (∃ ip via, peerAddresses peer = [(peer.peerRemote, ip, via)] ∧ Unbroken via ∧
      (Unbroken ip ↔ Unbroken peer.peerLanIp ∧ ∀ ip ∈ peer.peerTailnetIp.toList, Unbroken ip)) ∨
    ∃ ip, peer.peerTailnetIp = some ip ∧ peerAddresses peer =
      [(peer.peerRemote, ip, "tailnet"), (peer.peerRemote ++ "-lan", peer.peerLanIp, "lan")] := by
  unfold peerAddresses
  cases hpres : presentText peer.peerTailnetIp with
  | none =>
    refine .inl ⟨peer.peerLanIp, "lan", if_pos h.address, by decide, ?_⟩
    cases htail : peer.peerTailnetIp with
    | none => simp
    | some ip =>
      have hem : ip = "" := by simpa [htail, presentText] using hpres
      have hword : Unbroken "" := by decide
      simp [hem, hword]
  | some ip =>
    obtain ⟨htail, -⟩ := Option.filter_eq_some_iff.1 hpres
    by_cases hsame : peer.peerLanIp = ip
    · refine .inl ⟨ip, "tailnet", by simp [hsame], by decide, ?_⟩
      simp [htail, hsame]
    · exact .inr ⟨ip, htail, by simp [h.address, hsame]⟩

theorem SentPeer.Found.oneLines_iff (h : peer.Found) :
    (∀ s ∈ peerSections env peer, s.OneLines) ↔ ∀ text ∈ peerTexts env peer, Unbroken text := by
  obtain ⟨hrem, hlan⟩ := h.unbroken_remote
  unfold peerSections peerTexts
  rcases h.addresses_cases with ⟨ip, via, haddr, hvia, hip⟩ | ⟨ip, htail, haddr⟩
  · rw [haddr]
    simp only [List.map_cons, List.map_nil, List.forall_mem_cons, h.oneLines_address hrem hvia, hip,
      List.forall_mem_append]
    simp
    tauto
  have hwd : Unbroken "tailnet" ∧ Unbroken "lan" := by decide
  rw [haddr, htail]
  simp only [List.map_cons, List.map_nil, List.forall_mem_cons, h.oneLines_address hrem hwd.1,
    h.oneLines_address hlan hwd.2, List.forall_mem_append]
  simp
  tauto

def peerNames (peer : SentPeer) : List String := (peerAddresses peer).map Prod.fst

theorem peerSections_names : (peerSections env peer).map (fun s => s.name) = peerNames peer := by
  unfold peerSections
  rw [List.map_map]
  rfl

end Peers

theorem RandomUuid.ne_peer (id : RandomUuid) (behind rest : String) :
    "lamasync-" ++ id.val ++ behind ≠ "lamasync-peer-" ++ rest := by
  intro h
  have hch : id.val.toList ++ behind.toList = "peer-".toList ++ rest.toList := by
    have hlist := congrArg String.toList h
    simp only [String.toList_append, List.append_assoc] at hlist
    exact List.append_cancel_left hlist
  cases hid : id.val.toList with
  | nil => exact id.ne_empty (String.toList_inj.1 hid)
  | cons c rest' =>
    rw [hid, List.cons_append] at hch
    have hc : c = 'p' := (List.cons.inj hch).1
    have huuid := id.property.2 c (by rw [hid]; exact .head _)
    rw [hc] at huuid
    exact absurd huuid (by decide)

namespace RemotePair

variable {env : RcloneEnv} {p q : RemotePair}

def names (p : RemotePair) : List String := (if p.hasBackendSection then [p.backendName] else []) ++ [p.sectionName]

theorem Stored.names_sections (h : p.Stored) : (p.sections env).map (fun s => s.name) = p.names := by
  have hsh : Shape env p (p.sections env) := h.shape
  generalize p.sections env = sections at hsh ⊢
  unfold names
  cases hsh with
  | layered hla hback hfr => simp [hla, hback, hfr]
  | single hsi hfr => simp [hsi, hfr]

theorem sectionName_eq : p.sectionName = p.customName.getD p.cryptName := by
  unfold sectionName customName remoteName
  split <;> rfl

theorem cryptName_inj (h : p.cryptName = q.cryptName) : p.folder.id = q.folder.id := by
  have hlist := congrArg String.toList h
  simp only [cryptName, String.toList_append] at hlist
  exact String.toList_inj.1 (List.append_cancel_left hlist)

theorem backendName_inj (h : p.backendName = q.backendName) : p.folder.id = q.folder.id := by
  have hlist := congrArg String.toList h
  simp only [backendName, String.toList_append] at hlist
  exact String.toList_inj.1 (List.append_cancel_left (List.append_cancel_right hlist))

theorem Stored.cryptName_ne_backendName (hp : p.Stored) (hq : q.Stored) : p.cryptName ≠ q.backendName := by
  intro h
  obtain ⟨id, hid⟩ := hp.id
  obtain ⟨id', hid'⟩ := hq.id
  have hlen := congrArg String.length h
  simp only [cryptName, backendName, String.length_append, hid, hid', id.property.1, id'.property.1] at hlen
  exact absurd hlen (by decide)

theorem Stored.ne_peer (h : p.Stored) (rest : String) :
    p.cryptName ≠ "lamasync-peer-" ++ rest ∧ p.backendName ≠ "lamasync-peer-" ++ rest := by
  obtain ⟨id, hid⟩ := h.id
  unfold cryptName backendName
  rw [hid]
  refine ⟨?_, id.ne_peer "-backend" rest⟩
  have hne := id.ne_peer "" rest
  rwa [String.append_empty] at hne

theorem mem_names {name : String} :
    name ∈ p.names ↔ (p.hasBackendSection = true ∧ name = p.backendName) ∨ name = p.sectionName := by
  unfold names
  cases p.hasBackendSection <;> simp

def NameFree (pairs : List RemotePair) (p : RemotePair) : Prop :=
  ∀ name, p.customName = some name → ∀ q ∈ pairs, (q.hasBackendSection = true → name ≠ q.backendName) ∧
    (q.folder.id ≠ p.folder.id → name ≠ q.sectionName)

theorem names_disjoint {pairs : List RemotePair} (hstor : ∀ p ∈ pairs, p.Stored) (hfree : ∀ p ∈ pairs, NameFree pairs p)
    (hp : p ∈ pairs) (hq : q ∈ pairs) (hne : p.folder.id ≠ q.folder.id) : p.names.Disjoint q.names := by
  -- the front name of one folder is not the backend's of another one
  have hfr : ∀ p ∈ pairs, ∀ q ∈ pairs, q.hasBackendSection = true → p.sectionName ≠ q.backendName := by
    intro p hp q hq hback
    rw [sectionName_eq]
    cases hcust : p.customName with
    | none => exact (hstor p hp).cryptName_ne_backendName (hstor q hq)
    | some name => exact (hfree p hp name hcust q hq).1 hback
  intro name hnameP hnameQ
  rcases mem_names.1 hnameP with ⟨hbackP, rfl⟩ | rfl
  · rcases mem_names.1 hnameQ with ⟨-, hsame⟩ | hsame
    · exact hne (backendName_inj hsame)
    · exact hfr q hq p hp hbackP hsame.symm
  rcases mem_names.1 hnameQ with ⟨hbackQ, hsame⟩ | hsame
  · exact hfr p hp q hq hbackQ hsame
  · cases hcust : p.customName with
    | some name =>
      have hname : p.sectionName = name := by rw [sectionName_eq, hcust, Option.getD_some]
      exact (hfree p hp name hcust q hq).2 hne.symm (hname.symm.trans hsame)
    | none =>
      cases hcust' : q.customName with
      | some name =>
        have hname : q.sectionName = name := by rw [sectionName_eq, hcust', Option.getD_some]
        exact (hfree q hq name hcust' p hp).2 hne (hname.symm.trans hsame.symm)
      | none =>
        rw [sectionName_eq, sectionName_eq, hcust, hcust'] at hsame
        exact hne (cryptName_inj hsame)

theorem names_nodup (hp : p.Stored) (hfree : ∀ name, p.customName = some name → p.hasBackendSection = true →
    name ≠ p.backendName) : p.names.Nodup := by
  unfold names
  cases hback : p.hasBackendSection with
  | false => exact List.nodup_singleton _
  | true =>
    have hne : p.backendName ≠ p.sectionName := by
      rw [sectionName_eq]
      cases hcust : p.customName with
      | none => exact (hp.cryptName_ne_backendName hp).symm
      | some name => exact (hfree name hcust hback).symm
    simpa using hne

theorem names_nodup_iff {pairs : List RemotePair} (hstor : ∀ p ∈ pairs, p.Stored)
    (hap : pairs.Pairwise fun p q => p.folder.id ≠ q.folder.id) :
    (pairs.flatMap names).Nodup ↔ ∀ p ∈ pairs, NameFree pairs p := by
  rw [List.nodup_flatMap]
  constructor
  · rintro ⟨hown, hdisj⟩ p hp name hcust q hq
    have hname : p.sectionName = name := by rw [sectionName_eq, hcust, Option.getD_some]
    have hmem : name ∈ p.names := mem_names.2 (.inr hname.symm)
    by_cases hsame : q = p
    · subst hsame
      refine ⟨?_, fun hne => absurd rfl hne⟩
      rintro hback rfl
      have hnd := hown q hq
      unfold names at hnd
      rw [hback, hname] at hnd
      simp at hnd
    · have : Std.Symm (Function.onFun List.Disjoint names) := ⟨fun _ _ h => List.Disjoint.symm h⟩
      have hapartNames : List.Disjoint q.names p.names := hdisj.forall hq hp hsame
      refine ⟨fun hback heq => ?_, fun _ heq => ?_⟩
      · exact hapartNames (mem_names.2 (.inl ⟨hback, heq⟩)) hmem
      · exact hapartNames (mem_names.2 (.inr heq)) hmem
  · intro hfree
    refine ⟨fun p hp => names_nodup (hstor p hp) fun name hcust => (hfree p hp name hcust p hp).1, ?_⟩
    exact hap.imp_of_mem fun hp hq hne => names_disjoint hstor hfree hp hq hne

end RemotePair

section Peers

variable {peer other : SentPeer} {peers : List SentPeer} {pairs : List RemotePair}

theorem SentPeer.Found.mem_peerNames (h : peer.Found) {name : String} : name ∈ peerNames peer ↔
    name = "lamasync-peer-" ++ peer.peerHostId ∨
      ((peerAddresses peer).length = 2 ∧ name = "lamasync-peer-" ++ (peer.peerHostId ++ "-lan")) := by
  unfold peerNames
  rcases h.addresses_cases with ⟨ip, via, haddr, -⟩ | ⟨ip, -, haddr⟩
  · simp [haddr, h.remote]
  · simp [haddr, h.remote, String.append_assoc]

theorem SentPeer.Found.peerNames_nodup (h : peer.Found) : (peerNames peer).Nodup := by
  unfold peerNames
  rcases h.addresses_cases with ⟨ip, via, haddr, -⟩ | ⟨ip, -, haddr⟩
  · simp [haddr]
  have hne : peer.peerRemote ≠ peer.peerRemote ++ "-lan" := by
    intro heq
    have hlen := congrArg String.length heq
    simp at hlen
  simp [haddr, hne]

/-- The second section of a peer is not the first one of another peer. -/
def LanFree (peers : List SentPeer) : Prop :=
  ∀ peer ∈ peers, ∀ other ∈ peers, (peerAddresses peer).length = 2 → other.peerHostId ≠ peer.peerHostId ++ "-lan"

theorem peer_append_inj {a b : String} (h : "lamasync-peer-" ++ a = "lamasync-peer-" ++ b) : a = b := by
  have hlist := congrArg String.toList h
  rw [String.toList_append, String.toList_append] at hlist
  exact String.toList_inj.1 (List.append_cancel_left hlist)

theorem lan_append_inj {a b : String} (h : a ++ "-lan" = b ++ "-lan") : a = b := by
  have hlist := congrArg String.toList h
  rw [String.toList_append, String.toList_append] at hlist
  exact String.toList_inj.1 (List.append_cancel_right hlist)

/-- The names of all peers differ just when no second section of one is the first of another. -/
theorem peerNames_nodup_iff (hf : ∀ peer ∈ peers, peer.Found)
    (hap : peers.Pairwise fun a b => a.peerHostId ≠ b.peerHostId) : (peers.flatMap peerNames).Nodup ↔ LanFree peers := by
  rw [List.nodup_flatMap]
  constructor
  · rintro ⟨-, hdisj⟩ peer hpeer other ho htwo heq
    have hne : peer ≠ other := by
      rintro rfl
      have hlen := congrArg String.length heq
      simp at hlen
    have : Std.Symm (Function.onFun List.Disjoint peerNames) := ⟨fun _ _ h => List.Disjoint.symm h⟩
    have hn : List.Disjoint (peerNames peer) (peerNames other) := hdisj.forall hpeer ho hne
    refine hn ((hf peer hpeer).mem_peerNames.2 (.inr ⟨htwo, rfl⟩)) ((hf other ho).mem_peerNames.2 (.inl ?_))
    rw [heq]
  · intro hfree
    refine ⟨fun peer hpeer => (hf peer hpeer).peerNames_nodup, hap.imp_of_mem ?_⟩
    intro peer other hpeer ho hne name hname hname'
    rcases (hf peer hpeer).mem_peerNames.1 hname with rfl | ⟨htwo, rfl⟩
    · rcases (hf other ho).mem_peerNames.1 hname' with hsame | ⟨htwo, hsame⟩
      · exact hne (peer_append_inj hsame)
      · exact hfree other ho peer hpeer htwo (peer_append_inj hsame)
    rcases (hf other ho).mem_peerNames.1 hname' with hsame | ⟨-, hsame⟩
    · exact hfree peer hpeer other ho htwo (peer_append_inj hsame).symm
    · exact hne (lan_append_inj (peer_append_inj hsame))

theorem fileNames_nodup_iff (hstor : ∀ p ∈ pairs, p.Stored) (hpa : pairs.Pairwise fun p q => p.folder.id ≠ q.folder.id)
    (hf : ∀ peer ∈ peers, peer.Found) (hpe : peers.Pairwise fun a b => a.peerHostId ≠ b.peerHostId) :
    (pairs.flatMap RemotePair.names ++ peers.flatMap peerNames).Nodup ↔ (∀ p ∈ pairs, p.NameFree pairs) ∧ LanFree peers ∧
      ∀ p ∈ pairs, ∀ name, p.customName = some name → ∀ peer ∈ peers, name ∉ peerNames peer := by
  rw [List.nodup_append, RemotePair.names_nodup_iff hstor hpa, peerNames_nodup_iff hf hpe]
  refine and_congr_right fun _ => and_congr_right fun _ => ?_
  constructor
  · intro hcr p hp name hcust peer hpeer hmem
    have hname : p.sectionName = name := by rw [RemotePair.sectionName_eq, hcust, Option.getD_some]
    exact hcr name (List.mem_flatMap.2 ⟨p, hp, RemotePair.mem_names.2 (.inr hname.symm)⟩) name
      (List.mem_flatMap.2 ⟨peer, hpeer, hmem⟩) rfl
  rintro hfree name hname _ hname' rfl
  obtain ⟨p, hp, hmem⟩ := List.mem_flatMap.1 hname
  obtain ⟨peer, hpeer, hmem'⟩ := List.mem_flatMap.1 hname'
  have hrest : ∃ rest, name = "lamasync-peer-" ++ rest := by
    rcases (hf peer hpeer).mem_peerNames.1 hmem' with h | ⟨-, h⟩
    · exact ⟨_, h⟩
    · exact ⟨_, h⟩
  obtain ⟨rest, hrest⟩ := hrest
  rcases RemotePair.mem_names.1 hmem with ⟨-, hback⟩ | hfr
  · exact ((hstor p hp).ne_peer rest).2 (hback.symm.trans hrest)
  rw [RemotePair.sectionName_eq] at hfr
  cases hcust : p.customName with
  | none =>
    rw [hcust] at hfr
    exact ((hstor p hp).ne_peer rest).1 (hfr.symm.trans hrest)
  | some given =>
    rw [hcust, Option.getD_some] at hfr
    exact hfree p hp given hcust peer hpeer (hfr ▸ hmem')

end Peers

end LamaSync
