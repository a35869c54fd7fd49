import LamaSync.Lib.Rows
import LamaSync.Server.RcloneSections

/-!
# Well-formed rclone configurations

The file is read as it was written when no text has a line feed in it, and then the names of its sections differ when those
that the assignments give do.  The name that the daemon works out stands for the backend of the folder when it is the name of
the folder's section: a crypt layer has the default name, an empty name is not taken, and dotfile folders and folders in a
repository have no section for their backend (`rclone_config_iff`).
-/

namespace LamaSync

open Ini (Unbroken)

section Blocks

variable {blocks : List Ini.Block} {block : Ini.Block} {name : String}

theorem find_block (hnd : (blocks.map Ini.Block.name).Nodup) (hbl : block ∈ blocks) (hname : block.name = name) :
    blocks.find? (fun block => block.name = name) = some block := by
  cases hfind : blocks.find? fun block => block.name = name with
  | none =>
    have hno := List.find?_eq_none.1 hfind block hbl
    simp [hname] at hno
  | some found =>
    have hsame : found.name = name := by simpa using List.find?_some hfind
    rw [Rows.eq_of_key hnd (List.mem_of_find?_eq_some hfind) hbl (hsame.trans hname.symm)]

theorem resolveRemote_storage {storage : RcloneStorage} {fuel : Nat}
    (hfind : blocks.find? (fun block => block.name = name) = some block) (hst : blockStorage block = some storage) :
    resolveRemote blocks (fuel + 1) name = some { storage } := by
  unfold resolveRemote
  rw [hfind]
  dsimp only [Option.bind_eq_bind, Option.bind_some]
  rw [hst]

theorem splitRemote_of_noColon {path : String} (h : ':' ∉ name.toList) : splitRemote (name ++ ":" ++ path) = (name, path) := by
  have hch : (name ++ ":" ++ path).toList = name.toList ++ ':' :: path.toList := by simp
  have hbef : ∀ c ∈ name.toList, (decide (c ≠ ':')) = true := fun c hc => decide_eq_true fun heq => h (heq ▸ hc)
  unfold splitRemote
  rw [hch, List.takeWhile_append_of_pos hbef, List.dropWhile_append_of_pos hbef,
    List.takeWhile_cons_of_neg (by decide), List.dropWhile_cons_of_neg (by decide)]
  simp

theorem resolveRemote_layer {fuel : Nat} {behind path : String} {passwords : List String} {inner : RcloneRemote}
    (hfind : blocks.find? (fun block => block.name = name) = some block) (hnone : blockStorage block = none)
    (hla : blockLayer block = some (behind ++ ":" ++ path, passwords)) (hco : ':' ∉ behind.toList)
    (hin : resolveRemote blocks fuel behind = some inner) :
    resolveRemote blocks (fuel + 1) name =
      some { inner with paths := inner.paths ++ [path], passwords := inner.passwords ++ passwords } := by
  unfold resolveRemote
  rw [hfind]
  dsimp only [Option.bind_eq_bind, Option.bind_some]
  rw [hnone]
  dsimp only
  rw [hla]
  dsimp only [Option.bind_some]
  rw [splitRemote_of_noColon hco, hin]
  rfl

theorem mem_of_resolveRemote {fuel : Nat} {remote : RcloneRemote} (h : resolveRemote blocks fuel name = some remote) :
    name ∈ blocks.map Ini.Block.name := by
  cases fuel with
  | zero => cases h
  | succ fuel =>
    unfold resolveRemote at h
    obtain ⟨block, hfind, -⟩ := Option.bind_eq_some_iff.1 h
    have hname : block.name = name := by simpa using List.find?_some hfind
    exact hname ▸ List.mem_map_of_mem (List.mem_of_find?_eq_some hfind)

end Blocks

theorem blockStorage_peer {env : RcloneEnv} {peer : SentPeer} {s : Ini.Section} (hs : s ∈ peerSections env peer) :
    ∃ storage, blockStorage s.toBlock = some storage := by
  obtain ⟨⟨name, host, via⟩, -, rfl⟩ := List.mem_map.1 hs
  exact ⟨.sftp (some host) (some "lamasync"), rfl⟩

namespace RemotePair

variable {env : RcloneEnv} {p q : RemotePair} {blocks : List Ini.Block}

theorem Stored.backendName_noColon (h : p.Stored) : ':' ∉ p.backendName.toList := by
  obtain ⟨id, hid⟩ := h.id
  have hwd : ':' ∉ "lamasync-".toList ∧ ':' ∉ "-backend".toList := by decide
  have hco : ':' ∉ id.val.toList := fun hmem => absurd (id.property.2 _ hmem) (by decide)
  unfold backendName
  rw [hid]
  simp only [String.toList_append, List.mem_append, not_or]
  exact ⟨⟨hwd.1, hco⟩, hwd.2⟩

theorem Stored.resolveRemote_section (h : p.Stored) (hnd : (blocks.map Ini.Block.name).Nodup)
    (hsecs : ∀ s ∈ p.sections env, s.toBlock ∈ blocks) :
    resolveRemote blocks blocks.length p.sectionName = p.written env := by
  have hsh : Shape env p (p.sections env) := h.shape
  generalize p.sections env = sections at hsh hsecs
  cases hsh with
  | single hsi hfr hst hwr =>
    have hmem := hsecs _ (.head _)
    obtain ⟨fuel, hfuel⟩ := Nat.exists_eq_succ_of_ne_zero (List.length_pos_of_mem hmem).ne'
    rw [hfuel, resolveRemote_storage (find_block hnd hmem hfr) hst, hwr]
  | layered hlay hback hfr hst hnone hla hwr =>
    rename_i backend front storage path passwords
    have hbackendMem : backend.toBlock ∈ blocks := hsecs _ (by simp)
    have hfrontMem : front.toBlock ∈ blocks := hsecs _ (by simp)
    -- there are two sections, for one of them is a storage
    have htwo : ∃ fuel, blocks.length = fuel + 2 := by
      match blocks, hbackendMem, hfrontMem with
      | [only], hbackendMem, hfrontMem =>
        rw [List.mem_singleton.1 hfrontMem, ← List.mem_singleton.1 hbackendMem, hst] at hnone
        cases hnone
      | _ :: _ :: rest, _, _ => exact ⟨rest.length, rfl⟩
    obtain ⟨fuel, hfuel⟩ := htwo
    rw [hfuel, resolveRemote_layer (find_block hnd hfrontMem hfr) hnone hla h.backendName_noColon
      (resolveRemote_storage (find_block hnd hbackendMem hback) hst), hwr]
    rfl

theorem Stored.resolveRemote_backend (h : p.Stored) (hnd : (blocks.map Ini.Block.name).Nodup)
    (hsecs : ∀ s ∈ p.sections env, s.toBlock ∈ blocks) (hback : p.hasBackendSection = true) :
    ∃ storage, resolveRemote blocks blocks.length p.backendName = some { storage } := by
  have hsh : Shape env p (p.sections env) := h.shape
  generalize p.sections env = sections at hsh hsecs
  cases hsh with
  | single hsi => rw [hsi] at hback; cases hback
  | layered hla hba hfr hst hnone hlay hwr =>
    have hmem := hsecs _ (.head _)
    obtain ⟨fuel, hfuel⟩ := Nat.exists_eq_succ_of_ne_zero (List.length_pos_of_mem hmem).ne'
    rw [hfuel]
    exact ⟨_, resolveRemote_storage (find_block hnd hmem hba) hst⟩

def daemonName (p : RemotePair) : String := getRemoteName p.assignment.remoteName p.folder.id

theorem daemonName_cases : p.daemonName = p.cryptName ∨ (p.isEncrypted = true ∨ p.customName = some p.daemonName) := by
  unfold daemonName getRemoteName customName
  cases hpres : presentText p.assignment.remoteName with
  | none => exact .inl rfl
  | some name =>
    have hrem := (Option.filter_eq_some_iff.1 hpres).1
    cases henc : p.isEncrypted with
    | true => exact .inr (.inl rfl)
    | false => exact .inr (.inr (by simp [hrem]))

theorem passwords_ne_nil (h : p.isEncrypted = true) {remote : RcloneRemote} (hback : p.IsBackend env remote) :
    remote.passwords ≠ [] := by
  have henc : p.folder.encrypted = true := by
    simp only [isEncrypted, Bool.and_eq_true] at h
    exact h.1.1
  rw [hback.1, if_pos henc, cryptPassword_of_isEncrypted h]
  exact List.cons_ne_nil _ _

theorem cryptName_ne_empty : p.cryptName ≠ "" := by
  intro h
  have hlen := congrArg String.length h
  rw [cryptName, String.length_append] at hlen
  exact absurd hlen (by simp)

theorem keepsName_iff : p.sectionName = p.daemonName ↔ p.KeepsName := by
  unfold sectionName daemonName getRemoteName KeepsName remoteName
  cases henc : p.isEncrypted with
  | true =>
    simp only [if_true]
    cases hpres : presentText p.assignment.remoteName with
    | none => simp [cryptName]
    | some name => simp [eq_comm]
  | false =>
    simp only [Bool.false_eq_true, if_false]
    cases hrem : p.assignment.remoteName with
    | none => simp [presentText, cryptName]
    | some name =>
      by_cases hem : name = ""
      · have hne := p.cryptName_ne_empty
        have hnone : presentText (some "") = none := rfl
        unfold cryptName at hne
        rw [hem, hnone]
        simp [hne.symm]
      · rw [presentText_some hem]
        simp [hem]

theorem Stored.hasRemote_iff (h : p.Stored) :
    (∃ remote, p.written env = some remote ∧ p.IsBackend env remote) ↔ p.HasRemote env := by
  unfold HasRemote written
  by_cases htype : p.folder.type = "dotfile"
  · have hpl : p.isEncrypted = false := by simp [isEncrypted, htype]
    rw [if_pos ⟨hpl, htype⟩]
    refine iff_of_false ?_ fun hrem => hrem.1 htype
    rintro ⟨remote, hrem, -, hkind⟩
    cases hrem
    cases hback : p.folder.backend with
    | s3 => simp [hback, S3FolderConfig.storage] at hkind
    | sftp | restic | «local» | nfs => simp [hback] at hkind
  · rw [if_neg fun hboth => htype hboth.2]
    simp only [h.isEncrypted_eq htype]
    cases hback : p.folder.backend with
    | s3 =>
      obtain ⟨s3, hs3⟩ := h.s3 hback
      simp [writtenStorage, IsBackend, hback, hs3, htype]
    | «local» | nfs =>
      obtain ⟨path, hpath⟩ := h.directory (by simp [hback])
      simp [writtenStorage, IsBackend, hback, hpath, htype]
    | restic => simp [IsBackend, hback]
    | sftp =>
      unfold writtenStorage IsBackend serverStorage
      cases hip : presentText env.serverTailnetIp with
      | none => simp [hback]
      | some ip => simp [hback, htype]

section File

variable {pairs : List RemotePair} {peers : List SentPeer}

def fileBlocks (env : RcloneEnv) (pairs : List RemotePair) (peers : List SentPeer) : List Ini.Block :=
  (pairs.flatMap (sections env) ++ peers.flatMap (peerSections env)).map Ini.Section.toBlock

theorem names_fileBlocks (hstor : ∀ p ∈ pairs, p.Stored) :
    (fileBlocks env pairs peers).map Ini.Block.name = pairs.flatMap names ++ peers.flatMap peerNames := by
  have hpa : (pairs.flatMap (sections env)).map (fun s => s.name) = pairs.flatMap names := by
    rw [List.map_flatMap]
    exact List.flatMap_congr fun p hp => (hstor p hp).names_sections
  have hpe : (peers.flatMap (peerSections env)).map (fun s => s.name) = peers.flatMap peerNames := by
    rw [List.map_flatMap]
    exact List.flatMap_congr fun peer _ => peerSections_names
  unfold fileBlocks
  rw [List.map_map, List.map_append, ← hpa, ← hpe]
  rfl

theorem mem_fileBlocks_of_section (hp : p ∈ pairs) : ∀ s ∈ p.sections env, s.toBlock ∈ fileBlocks env pairs peers :=
  fun _ hs => List.mem_map_of_mem (List.mem_append_left _ (List.mem_flatMap.2 ⟨p, hp, hs⟩))

theorem resolved_iff (hstor : ∀ p ∈ pairs, p.Stored) (hf : ∀ peer ∈ peers, peer.Found)
    (hnd : ((fileBlocks env pairs peers).map Ini.Block.name).Nodup) (hfree : ∀ p ∈ pairs, p.NameFree pairs)
    (hpeerFree : ∀ p ∈ pairs, ∀ name, p.customName = some name → ∀ peer ∈ peers, name ∉ peerNames peer) (hp : p ∈ pairs) :
    (∃ remote, resolveRemote (fileBlocks env pairs peers) (fileBlocks env pairs peers).length p.daemonName = some remote ∧
        p.IsBackend env remote) ↔ ∃ q ∈ pairs, p.StandsIn env q := by
  constructor
  · rintro ⟨remote, hrem, hba⟩
    have hmem := mem_of_resolveRemote hrem
    rw [names_fileBlocks hstor, List.mem_append, List.mem_flatMap, List.mem_flatMap] at hmem
    -- an encrypted folder is not found in a storage
    have hal : ∀ {storage}, resolveRemote (fileBlocks env pairs peers) (fileBlocks env pairs peers).length p.daemonName =
        some { storage } → p.isEncrypted = false := by
      intro storage hst
      obtain rfl := Option.mem_unique hrem hst
      by_contra henc
      exact passwords_ne_nil (by simpa using henc) hba rfl
    rcases hmem with ⟨q, hq, hname⟩ | ⟨peer, hpeer, hname⟩
    · rcases mem_names.1 hname with ⟨hback, hname⟩ | hname
      · obtain ⟨storage, hst⟩ :=
          (hstor q hq).resolveRemote_backend hnd (mem_fileBlocks_of_section hq) hback
        rw [← hname] at hst
        rcases daemonName_cases (p := p) with hdef | henc | hcust
        · exact absurd (hdef.symm.trans hname) ((hstor p hp).cryptName_ne_backendName (hstor q hq))
        · rw [hal hst] at henc
          cases henc
        · exact absurd hname ((hfree p hp _ hcust q hq).1 hback)
      · refine ⟨q, hq, hname.symm, remote, ?_, hba⟩
        rw [← (hstor q hq).resolveRemote_section hnd (mem_fileBlocks_of_section hq), ← hname, hrem]
    · have hpeerName := (hf peer hpeer).mem_peerNames.1 hname
      rcases daemonName_cases (p := p) with hdef | henc | hcust
      · rw [hdef] at hpeerName
        rcases hpeerName with h | ⟨-, h⟩
        · exact absurd h ((hstor p hp).ne_peer _).1
        · exact absurd h ((hstor p hp).ne_peer _).1
      · obtain ⟨s, hs, hsName⟩ : ∃ s ∈ peerSections env peer, s.name = p.daemonName := by
          rw [← List.mem_map, peerSections_names]
          exact hname
        have hbl : s.toBlock ∈ fileBlocks env pairs peers :=
          List.mem_map_of_mem (List.mem_append_right _ (List.mem_flatMap.2 ⟨peer, hpeer, hs⟩))
        obtain ⟨storage, hst⟩ := blockStorage_peer hs
        obtain ⟨fuel, hfuel⟩ := Nat.exists_eq_succ_of_ne_zero (List.length_pos_of_mem hbl).ne'
        have hres : resolveRemote (fileBlocks env pairs peers) (fileBlocks env pairs peers).length p.daemonName =
            some { storage } := by
          rw [hfuel]
          exact resolveRemote_storage (find_block hnd hbl hsName) hst
        rw [hal hres] at henc
        cases henc
      · exact absurd hname (hpeerFree p hp _ hcust peer hpeer)
  · rintro ⟨q, hq, hname, remote, hwr, hba⟩
    refine ⟨remote, ?_, hba⟩
    have hda : q.sectionName = p.daemonName := hname
    rw [← hda, (hstor q hq).resolveRemote_section hnd (mem_fileBlocks_of_section hq), hwr]

end File

end RemotePair

/-- The rows that a file is generated from, in order. -/
structure RcloneInput (folders : List (SentFolder × Option BackendRow)) (assignments : List SentAssignment)
    (peers : List SentPeer) : Prop where
  stored : ∀ p ∈ remotePairs folders assignments, p.Stored
  apart : (remotePairs folders assignments).Pairwise fun p q => p.folder.id ≠ q.folder.id
  paired : ∀ a ∈ assignments, ∃ p ∈ remotePairs folders assignments, p.assignment = a
  found : ∀ peer ∈ peers, peer.Found
  peersApart : peers.Pairwise fun a b => a.peerHostId ≠ b.peerHostId

section Generated

variable {env : RcloneEnv} {hostId : String} {folders : List (SentFolder × Option BackendRow)}
  {assignments : List SentAssignment} {peers : List SentPeer}

theorem RcloneInput.lines_iff (h : RcloneInput folders assignments peers) :
    Ini.readLines (generateRcloneConfig env hostId folders assignments peers).text =
        (generateRcloneConfig env hostId folders assignments peers).lines ↔
      (Unbroken hostId ∧ ∀ ip ∈ env.serverTailnetIp, Unbroken ip) ∧
        (∀ p ∈ remotePairs folders assignments, ∀ text ∈ p.writtenTexts env, Unbroken text) ∧
        ∀ peer ∈ peers, ∀ text ∈ peerTexts env peer, Unbroken text := by
  rw [Ini.readLines_text_iff, Ini.File.oneLines_iff]
  have hwd : Unbroken "Generated for " ∧ Unbroken " at " ∧ Unbroken "Server tailnet IP: " ∧ Unbroken "(unset)" := by decide
  have hip : Unbroken (env.serverTailnetIp.getD "(unset)") ↔ ∀ ip ∈ env.serverTailnetIp, Unbroken ip := by
    cases env.serverTailnetIp with
    | none => simp [hwd]
    | some ip => simp
  have hco : (∀ comment ∈ (generateRcloneConfig env hostId folders assignments peers).comments, Unbroken comment) ↔
      Unbroken hostId ∧ ∀ ip ∈ env.serverTailnetIp, Unbroken ip := by
    unfold generateRcloneConfig
    simp [hwd, env.generatedAt.property, hip]
  rw [hco]
  refine and_congr_right fun hown => ?_
  unfold generateRcloneConfig
  simp only [List.forall_mem_append, List.mem_flatMap, forall_exists_index, and_imp]
  refine and_congr ⟨fun hsecs p hp => ?_, fun hte s p hp => ?_⟩ ⟨fun hsecs peer hpeer => ?_, fun hte s peer hpeer => ?_⟩
  · exact ((h.stored p hp).oneLines_iff hown.2).1 fun s hs => hsecs s p hp hs
  · exact ((h.stored p hp).oneLines_iff hown.2).2 (hte p hp) s
  · exact (h.found peer hpeer).oneLines_iff.1 fun s hs => hsecs s peer hpeer hs
  · exact (h.found peer hpeer).oneLines_iff.2 (hte peer hpeer) s

theorem mem_peerNames_iff {peer : SentPeer} {name : String} :
    name ∉ peerNames peer ↔ ∀ address ∈ peerAddresses peer, name ≠ address.1 := by
  unfold peerNames
  rw [List.mem_map]
  constructor
  · rintro hno address had rfl
    exact hno ⟨address, had, rfl⟩
  · rintro hno ⟨address, had, rfl⟩
    exact hno address had rfl

theorem remotePair_unique {p q : RemotePair} (hp : p ∈ remotePairs folders assignments)
    (hq : q ∈ remotePairs folders assignments) (h : p.assignment = q.assignment) : p = q := by
  obtain ⟨a, -, ha⟩ := List.mem_filterMap.1 hp
  obtain ⟨b, -, hb⟩ := List.mem_filterMap.1 hq
  obtain ⟨f, hf, rfl⟩ := Option.map_eq_some_iff.1 ha
  obtain ⟨g, hg, rfl⟩ := Option.map_eq_some_iff.1 hb
  obtain rfl : a = b := h
  obtain rfl := Option.mem_unique hf hg
  rfl

theorem RcloneInput.standsIn_iff (h : RcloneInput folders assignments peers) {p : RemotePair}
    (hp : p ∈ remotePairs folders assignments) : (∃ q ∈ remotePairs folders assignments, p.StandsIn env q) ↔
      (p.KeepsName ∧ p.HasRemote env) ∨ ∃ q ∈ remotePairs folders assignments, q.folder.id ≠ p.folder.id ∧ p.StandsIn env q := by
  have hown : p.StandsIn env p ↔ p.KeepsName ∧ p.HasRemote env :=
    and_congr RemotePair.keepsName_iff (h.stored p hp).hasRemote_iff
  rw [← hown]
  constructor
  · rintro ⟨q, hq, hst⟩
    by_cases hsame : q = p
    · exact .inl (hsame ▸ hst)
    · have : Std.Symm fun p q : RemotePair => p.folder.id ≠ q.folder.id := ⟨fun _ _ hne => hne.symm⟩
      exact .inr ⟨q, hq, h.apart.forall hq hp hsame, hst⟩
  rintro (hst | ⟨q, hq, -, hst⟩)
  · exact ⟨p, hp, hst⟩
  · exact ⟨q, hq, hst⟩

theorem RcloneInput.wellFormed_iff (h : RcloneInput folders assignments peers) :
    RcloneWellFormed env folders assignments (generateRcloneConfig env hostId folders assignments peers)
        (generateRcloneConfig env hostId folders assignments peers).text ↔
      RcloneFits env hostId (remotePairs folders assignments) peers := by
  have hbl : Ini.blocksOf (generateRcloneConfig env hostId folders assignments peers).lines =
      RemotePair.fileBlocks env (remotePairs folders assignments) peers := Ini.blocksOf_lines _
  have hread : (RemotePair.fileBlocks env (remotePairs folders assignments) peers).map Ini.Block.name =
      (remotePairs folders assignments).flatMap RemotePair.names ++ peers.flatMap peerNames :=
    RemotePair.names_fileBlocks h.stored
  have hn := fileNames_nodup_iff h.stored h.apart h.found h.peersApart
  rw [← hread] at hn
  constructor
  · intro hfo
    obtain ⟨hown, hfols, hpe⟩ := h.lines_iff.1 hfo.lines
    obtain ⟨hnd, hre⟩ := And.intro hfo.names hfo.remotes
    rw [hfo.lines, hbl] at hnd hre
    obtain ⟨hfree, hlan, hpeerFree⟩ := hn.1 hnd
    refine ⟨hown, hfols, hpe, hfree, fun p hp name hcust peer hpeer => ?_, hlan, fun p hp => ?_⟩
    · exact mem_peerNames_iff.1 (hpeerFree p hp name hcust peer hpeer)
    obtain ⟨a, ha, hpair⟩ := List.mem_filterMap.1 hp
    obtain ⟨f, -, rfl⟩ := Option.map_eq_some_iff.1 hpair
    obtain ⟨p', hp', hsame, hrem⟩ := hre a ha
    obtain rfl := remotePair_unique hp' hp hsame
    exact (h.standsIn_iff hp).1 ((RemotePair.resolved_iff h.stored h.found hnd hfree hpeerFree hp).1 hrem)
  · intro hfits
    have hl := h.lines_iff.2 ⟨hfits.ownTexts, hfits.folderTexts, hfits.peerTexts⟩
    have hpeerFree : ∀ p ∈ remotePairs folders assignments, ∀ name, p.customName = some name → ∀ peer ∈ peers,
        name ∉ peerNames peer :=
      fun p hp name hcust peer hpeer => mem_peerNames_iff.2 (hfits.peerNames p hp name hcust peer hpeer)
    have hnd := hn.2 ⟨hfits.folderNames, hfits.hostIds, hpeerFree⟩
    refine ⟨hl, ?_, ?_⟩
    · rw [hl, hbl]
      exact hnd
    rw [hl, hbl]
    intro a ha
    obtain ⟨p, hp, rfl⟩ := h.paired a ha
    refine ⟨p, hp, rfl, ?_⟩
    exact (RemotePair.resolved_iff h.stored h.found hnd hfits.folderNames hpeerFree hp).2
      ((h.standsIn_iff hp).2 (hfits.remotes p hp))

end Generated

section Delivered

variable {s : FolderStore} {hosts : HostRows} {env : RcloneEnv} {isOctet : String → Bool} {current : ConfigHost}

theorem fillRestic_folderId (defaults : Table String ResticDefault) (a : SentAssignment) :
    (fillRestic defaults a).folderId = a.folderId := by
  unfold fillRestic
  split <;> rfl

variable {p : RemotePair} {f : FolderRow} {b : BackendRow} {peer : SentPeer}

theorem rows_of_pair (hp : p ∈ remotePairs (s.rcloneFolders hosts env isOctet current)
    (s.content hosts env isOctet current).config.assignments) :
    ∃ f ∈ s.folders, p.folder = ConfigRoutes.rowToFolder f ∧
      p.backend = (ConfigRoutes.rowToFolder f).backendId.bind s.getBackend := by
  obtain ⟨a, -, hpair⟩ := List.mem_filterMap.1 hp
  obtain ⟨sent, hfind, rfl⟩ := Option.map_eq_some_iff.1 hpair
  obtain ⟨folder, hfol, rfl⟩ := List.mem_map.1 (List.mem_of_find?_eq_some hfind)
  obtain ⟨f, hf, rfl⟩ := List.mem_map.1 hfol
  exact ⟨f, (List.mem_filter.1 hf).1, rfl, rfl⟩

theorem backend_of_row (hs : s.StoredRows) (hf : f ∈ s.folders)
    (hnd : (normalizedBackend f.backend).needsRef = true) :
    ∃ b, (ConfigRoutes.rowToFolder f).backendId = some b.id ∧ presentText (some b.id) = some b.id ∧
      s.getBackend b.id = some b ∧ b.kind.folderBackend = normalizedBackend f.backend ∧ b.Complete := by
  obtain ⟨b, hb, hid, hkind⟩ := (hs.fits f hf).reference hnd
  obtain ⟨uuid, huuid⟩ := (hs.complete b hb).id
  refine ⟨b, ?_, ?_, ?_, hkind, hs.complete b hb⟩
  · show (if (normalizedBackend f.backend).needsRef then f.backendId else none) = some b.id
    rw [if_pos hnd, hid]
  · rw [huuid, presentText_some uuid.ne_empty]
  cases hfind : s.getBackend b.id with
  | none =>
    have hno := List.find?_eq_none.1 hfind b hb
    simp at hno
  | some found =>
    obtain ⟨hmem, hsame⟩ := mem_of_getBackend hfind
    rw [Rows.eq_of_key hs.backendIds hmem hb hsame]

theorem backend_of_pair (hs : s.StoredRows) (hf : f ∈ s.folders)
    (hfol : p.folder = ConfigRoutes.rowToFolder f)
    (hback : p.backend = (ConfigRoutes.rowToFolder f).backendId.bind s.getBackend)
    (hnd : p.folder.backend.needsRef = true) : (presentText p.folder.backendId).isSome = true ∧
      ∃ b, p.backend = some b ∧ b.kind.folderBackend = p.folder.backend ∧ b.Complete := by
  have hkind : p.folder.backend = normalizedBackend f.backend := by rw [hfol]; rfl
  rw [hkind] at hnd ⊢
  obtain ⟨b, hid, hpres, hget, hbk, hcomp⟩ := backend_of_row hs hf hnd
  rw [hfol, hid, hpres]
  exact ⟨rfl, b, by rw [hback, hid, Option.bind_some, hget], hbk, hcomp⟩

theorem resolved_s3 {bucket : String} (hkind : p.folder.backend = .s3)
    (hid : (presentText p.folder.backendId).isSome = true) (hback : p.backend = some b) (hb : b.kind.folderBackend = .s3)
    (hcomp : b.Complete) (hbuck : presentTrimmed p.folder.s3Bucket = some bucket) :
    ∃ s3, p.resolveFolderS3Config = some s3 := by
  have hbKind : b.kind = .s3 := by
    cases hb' : b.kind <;> simp [hb', BackendKind.folderBackend] at hb ⊢
  obtain ⟨hend, haccess, hse⟩ := hcomp.s3 hbKind
  obtain ⟨endpoint, hend⟩ := Option.ne_none_iff_exists'.1 hend
  obtain ⟨access, haccess⟩ := Option.ne_none_iff_exists'.1 haccess
  obtain ⟨secret, hse⟩ := Option.ne_none_iff_exists'.1 hse
  have hpres : ¬ (p.folder.backend ≠ .s3 ∨ presentText p.folder.backendId = none) := by
    rw [not_or, not_not]
    exact ⟨hkind, Option.isSome_iff_ne_none.1 hid⟩
  unfold RemotePair.resolveFolderS3Config
  rw [if_neg hpres, hback]
  simp [hend, hbuck, haccess, hse]

theorem resolved_directory (hkind : p.folder.backend = .local ∨ p.folder.backend = .nfs)
    (hid : (presentText p.folder.backendId).isSome = true) (hback : p.backend = some b)
    (hb : b.kind.folderBackend = p.folder.backend) (hcomp : b.Complete) :
    ∃ path, p.resolveFolderLocalConfig = some path := by
  have hbKind : b.kind = .local ∨ b.kind = .nfs := by
    rcases hkind with hkind | hkind
    · rw [hkind] at hb
      cases hb' : b.kind <;> simp [hb', BackendKind.folderBackend] at hb ⊢
    · rw [hkind] at hb
      cases hb' : b.kind <;> simp [hb', BackendKind.folderBackend] at hb ⊢
  obtain ⟨path, hpath, htrim, hab⟩ := hcomp.directory hbKind
  have hne : path ≠ "" := by
    rintro rfl
    exact absurd hab (by decide)
  have hpres : ¬ ((p.folder.backend ≠ .local ∧ p.folder.backend ≠ .nfs) ∨ presentText p.folder.backendId = none) := by
    rw [not_or]
    refine ⟨?_, Option.isSome_iff_ne_none.1 hid⟩
    rintro ⟨hlo, hnfs⟩
    exact hkind.elim hlo hnfs
  unfold RemotePair.resolveFolderLocalConfig
  rw [if_neg hpres, hback]
  refine ⟨path, ?_⟩
  show presentTrimmed b.localPath = some path
  unfold presentTrimmed
  rw [hpath, Option.map_some, htrim, presentText_some hne]

theorem stored_of_rows (hs : s.StoredRows) (hf : f ∈ s.folders)
    (hfol : p.folder = ConfigRoutes.rowToFolder f)
    (hback : p.backend = (ConfigRoutes.rowToFolder f).backendId.bind s.getBackend) : p.Stored := by
  have hfits := hs.fits f hf
  have hkind : p.folder.backend = normalizedBackend f.backend := by rw [hfol]; rfl
  refine ⟨?_, ?_, ?_, ?_, ?_⟩
  · obtain ⟨id, hid⟩ := hfits.id
    exact ⟨id, by rw [hfol]; exact hid⟩
  · obtain ⟨type, htype⟩ := hfits.type
    have hsent : p.folder.type = type.stored := by rw [hfol]; exact htype
    rw [hsent]
    cases type <;> decide
  · intro henc
    rw [hfol] at henc ⊢
    have hone : f.encrypted.getD 0 = 1 := by simpa [ConfigRoutes.rowToFolder] using henc
    have hstor : f.encrypted = some 1 := by
      cases hv : f.encrypted with
      | none => simp [hv] at hone
      | some value => simpa [hv] using hone
    exact Option.isSome_iff_ne_none.2 (hfits.password hstor)
  · intro hs3
    obtain ⟨hid, b, hb, hbKind, hcomp⟩ := backend_of_pair hs hf hfol hback (by rw [hs3]; rfl)
    obtain ⟨bucket, hbuck, hne, htrim⟩ := hfits.bucket (hkind.symm.trans hs3)
    have hrow : p.folder.s3Bucket = some bucket := by
      rw [hfol]
      exact (if_pos (hkind.symm.trans hs3)).trans hbuck
    have hsent : presentTrimmed p.folder.s3Bucket = some bucket := by
      unfold presentTrimmed
      rw [hrow, Option.map_some, htrim, presentText_some hne]
    exact resolved_s3 hs3 hid hb (hbKind.trans hs3) hcomp hsent
  · intro hdir
    have hnd : p.folder.backend.needsRef = true := by
      rcases hdir with hlo | hnfs
      · rw [hlo]; rfl
      · rw [hnfs]; rfl
    obtain ⟨hid, b, hb, hbKind, hcomp⟩ := backend_of_pair hs hf hfol hback hnd
    exact resolved_directory hdir hid hb hbKind hcomp

theorem found_of_sent (hpeer : peer ∈ (s.content hosts env isOctet current).peers) : peer.Found := by
  obtain ⟨detected, hdet, rfl⟩ := List.mem_map.1 hpeer
  obtain ⟨row, -, hpeerOf⟩ := List.mem_filterMap.1 hdet
  unfold ConfigEnv.peerOf at hpeerOf
  split at hpeerOf
  · cases hpeerOf
  obtain ⟨lanIp, hlan, rfl⟩ := Option.map_eq_some_iff.1 hpeerOf
  refine ⟨rfl, by simpa using (Option.filter_eq_some_iff.1 hlan).2, ?_⟩
  show Unbroken (ConfigRoutes.pickPeerRole current.id row.id)
  unfold ConfigRoutes.pickPeerRole
  split <;> decide

theorem peerHostId_of_peerOf {cenv : ConfigEnv BackendRow} {row : ConfigHost}
    (h : cenv.peerOf current row = some peer) : peer.peerHostId = row.id := by
  unfold ConfigEnv.peerOf at h
  split at h
  · cases h
  · obtain ⟨lanIp, -, rfl⟩ := Option.map_eq_some_iff.1 h
    rfl

theorem folderIds_apart (hs : s.StoredRows) :
    (s.content hosts env isOctet current).config.assignments.Pairwise fun a b => a.folderId ≠ b.folderId := by
  show (List.map _ (assignmentRows _ current.id)).Pairwise _
  rw [List.pairwise_map]
  refine (hs.assigned.filter _).imp_of_mem fun ha hb hne => ?_
  have hho := (List.mem_filter.1 ha).2
  have hho' := (List.mem_filter.1 hb).2
  rw [decide_eq_true_eq] at hho hho'
  rw [fillRestic_folderId, fillRestic_folderId]
  exact fun hsame => hne ⟨hsame, hho.trans hho'.symm⟩

theorem rcloneInput (hs : s.StoredRows) : RcloneInput (s.rcloneFolders hosts env isOctet current)
    (s.content hosts env isOctet current).config.assignments (s.content hosts env isOctet current).peers := by
  refine ⟨?_, ?_, ?_, fun peer hpeer => found_of_sent hpeer, ?_⟩
  · intro p hp
    obtain ⟨f, hf, hfol, hback⟩ := rows_of_pair hp
    exact stored_of_rows hs hf hfol hback
  · unfold remotePairs
    rw [List.pairwise_filterMap]
    refine (folderIds_apart hs).imp fun {a b} hne p hp q hq => ?_
    obtain ⟨f, hf, rfl⟩ := Option.map_eq_some_iff.1 hp
    obtain ⟨g, hg, rfl⟩ := Option.map_eq_some_iff.1 hq
    have hfi : f.1.id = a.folderId := by simpa using List.find?_some hf
    have hse : g.1.id = b.folderId := by simpa using List.find?_some hg
    show f.1.id ≠ g.1.id
    rw [hfi, hse]
    exact hne
  · intro a ha
    obtain ⟨r, hr, hsent⟩ := List.mem_map.1 ha
    obtain ⟨f, hf, hid⟩ := hs.owned r (List.mem_filter.1 hr).1
    have hfol : a.folderId = f.id := by
      rw [← hsent, fillRestic_folderId]
      exact hid.symm
    have hrow : f ∈ folderRows ((s.configServer hosts).db (env.configEnv isOctet)) current.id :=
      List.mem_filter.2 ⟨hf, List.any_eq_true.2 ⟨r, hr, by simpa using hid.symm⟩⟩
    have hmem : (ConfigRoutes.rowToFolder f, (ConfigRoutes.rowToFolder f).backendId.bind s.getBackend) ∈
        s.rcloneFolders hosts env isOctet current := List.mem_map_of_mem (List.mem_map_of_mem hrow)
    cases hfind : (s.rcloneFolders hosts env isOctet current).find? fun f => f.1.id = a.folderId with
    | none =>
      have hno := List.find?_eq_none.1 hfind _ hmem
      exact absurd (decide_eq_true hfol.symm) hno
    | some found => exact ⟨_, List.mem_filterMap.2 ⟨a, ha, by rw [hfind, Option.map_some]⟩, rfl⟩
  · show (List.map _ (List.filterMap _ hosts.rows)).Pairwise _
    rw [List.pairwise_map, List.pairwise_filterMap]
    have hkeys : hosts.rows.Pairwise fun row row' => row.id ≠ row'.id := List.pairwise_map.1 hosts.keys
    refine hkeys.imp fun hne peer hpeer other ho => ?_
    rw [peerHostId_of_peerOf hpeer, peerHostId_of_peerOf ho]
    exact hne

end Delivered

/-- After any requests, the text that a host is sent for rclone is well formed just when its rows fit. -/
theorem rclone_config_iff (cronError : String → Option String) (requests : List FolderRequest) (hosts : HostRows)
    (env : RcloneEnv) (isOctet : String → Bool) (current : ConfigHost) :
    let s := FolderStore.after cronError requests
    let content := s.content hosts env isOctet current
    let folders := s.rcloneFolders hosts env isOctet current
    RcloneWellFormed env folders content.config.assignments (s.rcloneFile hosts env isOctet current) content.rcloneConfig ↔
      RcloneFits env current.id (remotePairs folders content.config.assignments) content.peers :=
  (rcloneInput (storedRows_after cronError requests)).wellFormed_iff

def injectingRequests : List FolderRequest :=
  [.addHost "desk",
   .createFolder (sampleUuid 1) 0 samplePassword { name := "docs", type := .sync, backend := some "sftp" },
   .assign (sampleUuid 2) (sampleUuid 1).val
     { hostId := "desk", role := "bisync", localPath := "/docs\n[extra]\ntype = local" }]

def injectingStore : FolderStore := FolderStore.after (fun _ => none) injectingRequests

def sampleRclone : RcloneEnv where
  serverTailnetIp := some "100.64.0.1"
  backupDir := "/backups"
  apiKey := none
  generatedAt := ⟨"2025-01-01T00:00:00.000Z", by decide⟩

def injectedText : String :=
  (injectingStore.content ⟨[], List.nodup_nil⟩ sampleRclone (fun _ => true) { id := "desk", hostname := "desk" }).rcloneConfig

def injectedFile : Ini.File :=
  injectingStore.rcloneFile ⟨[], List.nodup_nil⟩ sampleRclone (fun _ => true) { id := "desk", hostname := "desk" }

/-- The path of an assignment adds a section to the file. -/
theorem path_adds_section : Ini.Line.heading "extra" ∈ Ini.readLines injectedText ∧
    Ini.Line.heading "extra" ∉ injectedFile.lines ∧
    ∀ folders assignments, ¬ RcloneWellFormed sampleRclone folders assignments injectedFile injectedText := by
  have hread : Ini.Line.heading "extra" ∈ Ini.readLines injectedText := by decide +kernel
  have hme : Ini.Line.heading "extra" ∉ injectedFile.lines := by decide +kernel
  refine ⟨hread, hme, ?_⟩
  intro folders assignments hfo
  rw [hfo.lines] at hread
  exact hme hread

/-- After every sequence of requests a folder that names a connection finds it, of its own kind and with everything that
kind needs, and an assignment belongs to one folder. -/
theorem stored_folders_resolve (cronError : String → Option String) (requests : List FolderRequest) :
    let s := FolderStore.after cronError requests
    (∀ f ∈ s.folders, (normalizedBackend f.backend).needsRef = true → ∃ b,
      (ConfigRoutes.rowToFolder f).backendId = some b.id ∧ s.getBackend b.id = some b ∧
      b.kind.folderBackend = normalizedBackend f.backend ∧ b.Complete) ∧
    ∀ a ∈ s.assignments, ∃! f, f ∈ s.folders ∧ f.id = a.folderId := by
  intro s
  have hs : s.StoredRows := storedRows_after cronError requests
  refine ⟨fun f hf hnd => ?_, fun a ha => ?_⟩
  · obtain ⟨b, hid, -, hget, hkind, hcomp⟩ := backend_of_row hs hf hnd
    exact ⟨b, hid, hget, hkind, hcomp⟩
  · obtain ⟨f, hf, hid⟩ := hs.owned a ha
    exact ⟨f, ⟨hf, hid⟩, fun f' hf' => Rows.eq_of_key hs.folderIds hf'.1 hf (hf'.2.trans hid.symm)⟩

end LamaSync
