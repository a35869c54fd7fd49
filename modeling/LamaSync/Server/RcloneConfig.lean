import LamaSync.Daemon.Execution
import LamaSync.Lib.Ini
import LamaSync.Server.StoredFolders
import LamaSync.Server.RevisionTracking

/-!
# The rclone configuration of a host

The configuration that a host is sent has a text for rclone: some comments, the sections of the folders that are assigned to
the host, and those of its peers.  A folder in a backend has a section for the backend and one in front of it, an alias or a
crypt layer; the daemon works out the name of that one again.

The texts that are stored go into the file as they are.
-/

namespace LamaSync

open Ini (Unbroken)

inductive RcloneKey where
  | type | provider | envAuth | accessKeyId | secretAccessKey | endpoint | region | description | host | user | pass
  | remote | password | password2
  deriving DecidableEq

def RcloneKey.text : RcloneKey → String
  | type => "type"
  | provider => "provider"
  | envAuth => "env_auth"
  | accessKeyId => "access_key_id"
  | secretAccessKey => "secret_access_key"
  | endpoint => "endpoint"
  | region => "region"
  | description => "description"
  | host => "host"
  | user => "user"
  | pass => "pass"
  | remote => "remote"
  | password => "password"
  | password2 => "password2"

theorem RcloneKey.plain (key : RcloneKey) : Ini.PlainKey key.text := by
  cases key <;> decide

theorem RcloneKey.unbroken (key : RcloneKey) : Unbroken key.text := by
  cases key <;> decide

def rcloneSection (name : String) (entries : List (RcloneKey × String)) (comments : List String) : Ini.Section where
  name := name
  entries := entries.map fun entry => (entry.1.text, entry.2)
  comments := comments
  plain := by
    intro entry hentry
    obtain ⟨written, -, rfl⟩ := List.mem_map.1 hentry
    exact written.1.plain

/-- What the server knows of itself; the time is the text of `toISOString`. -/
structure RcloneEnv where
  serverTailnetIp : Option String
  backupDir : String
  apiKey : Option String
  generatedAt : {text : String // Unbroken text}

structure S3FolderConfig where
  provider : S3Provider
  endpoint : String
  bucket : String
  accessKeyId : String
  secretAccessKey : String
  region : Option String

def S3FolderConfig.providerText (s3 : S3FolderConfig) : String := if s3.provider = .aws then "AWS" else "Other"

structure RemotePair where
  folder : SentFolder
  backend : Option BackendRow
  assignment : SentAssignment

def quoted (text : String) : String := "\"" ++ text ++ "\""

namespace RemotePair

variable (env : RcloneEnv) (p : RemotePair)

def resolveFolderS3Config : Option S3FolderConfig :=
  if p.folder.backend ≠ .s3 ∨ presentText p.folder.backendId = none then none
  else do
    let backend ← p.backend
    let endpoint ← presentTrimmed backend.s3Endpoint
    let bucket ← presentTrimmed p.folder.s3Bucket
    let accessKeyId ← presentTrimmed backend.s3AccessKeyId
    let secretAccessKey ← presentText backend.s3SecretKey
    some {
      provider := backend.s3Provider
      endpoint, bucket, accessKeyId, secretAccessKey
      region := presentTrimmed backend.s3Region }

def resolveFolderLocalConfig : Option String :=
  if (p.folder.backend ≠ .local ∧ p.folder.backend ≠ .nfs) ∨ presentText p.folder.backendId = none then none
  else do
    let backend ← p.backend
    presentTrimmed backend.localPath

def isEncrypted : Bool := p.folder.encrypted && (presentText p.folder.cryptPassword).isSome && p.folder.type ≠ "dotfile"

def cryptName : String := "lamasync-" ++ p.folder.id

def backendName : String := "lamasync-" ++ p.folder.id ++ "-backend"

def remoteName : String := p.assignment.remoteName.getD p.cryptName

def sectionName : String := if p.isEncrypted then p.cryptName else p.remoteName

def title : String := p.folder.name ++ " (" ++ p.folder.type ++ ")"

def onClient : String := "local path on client: " ++ p.assignment.localPath

def writeS3Backend (s3 : S3FolderConfig) (description : String) : Ini.Section :=
  rcloneSection p.backendName
    ([(.type, "s3"), (.provider, s3.providerText), (.envAuth, "false"), (.accessKeyId, s3.accessKeyId),
      (.secretAccessKey, s3.secretAccessKey), (.endpoint, s3.endpoint)] ++
      s3.region.toList.map (fun region => (.region, region)) ++ [(.description, quoted description)])
    ["bucket: " ++ s3.bucket, p.onClient]

def writeLocalBackend (path description : String) : Ini.Section :=
  rcloneSection p.backendName [(.type, "local"), (.description, quoted description)] [p.onClient, "server path: " ++ path]

def writeServer (name description unavailable : String) : Ini.Section :=
  match presentText env.serverTailnetIp with
  | some ip =>
    rcloneSection name [(.type, "sftp"), (.host, ip), (.user, "lamasync"), (.description, quoted description)] [p.onClient]
  | none => rcloneSection name [(.type, "local"), (.description, quoted unavailable)] [p.onClient]

def writeCrypt (base : String) : Ini.Section :=
  let password := p.folder.cryptPassword.getD ""
  rcloneSection p.cryptName
    [(.type, "crypt"), (.remote, p.backendName ++ ":" ++ base), (.password, password), (.password2, password),
      (.description, quoted (p.folder.name ++ " (encrypted " ++ p.folder.type ++ ")"))] []

def writeAlias (base kind : String) : Ini.Section :=
  rcloneSection p.remoteName
    [(.type, "alias"), (.remote, p.backendName ++ ":" ++ base), (.description, quoted (p.title ++ " — " ++ kind ++ " alias"))]
    [p.onClient]

def writeDotfile : Ini.Section :=
  rcloneSection p.remoteName [(.type, "local"), (.description, quoted (p.folder.name ++ " (dotfile backup)"))]
    [p.onClient, "server path: " ++ env.backupDir ++ "/dotfiles/" ++ p.folder.name ++ "/"]

def sections : List Ini.Section :=
  let kind := p.folder.backend.text
  if p.isEncrypted then
    match p.folder.backend with
    | .s3 => match p.resolveFolderS3Config with
      | none => []
      | some s3 => [p.writeS3Backend s3 (p.title ++ " — encrypted S3 backend"), p.writeCrypt s3.bucket]
    | .local | .nfs => match p.resolveFolderLocalConfig with
      | none => []
      | some path => [p.writeLocalBackend path (p.title ++ " — encrypted " ++ kind ++ " backend"), p.writeCrypt path]
    | .sftp | .restic =>
      [p.writeServer env p.backendName (p.title ++ " — encrypted backend")
        (p.title ++ " — encrypted backend; server unavailable"), p.writeCrypt p.folder.name]
  else if p.folder.type = "dotfile" then [p.writeDotfile env]
  else
    match p.folder.backend with
    | .s3 => match p.resolveFolderS3Config with
      | none => []
      | some s3 => [p.writeS3Backend s3 (p.title ++ " — S3 backend"), p.writeAlias s3.bucket "S3"]
    | .local | .nfs => match p.resolveFolderLocalConfig with
      | none => []
      | some path => [p.writeLocalBackend path (p.title ++ " — " ++ kind ++ " backend"), p.writeAlias path kind]
    | .sftp | .restic => [p.writeServer env p.remoteName p.title (p.title ++ " — server unavailable")]

end RemotePair

def peerAddresses (peer : SentPeer) : List (String × String × String) :=
  match presentText peer.peerTailnetIp with
  | some ip =>
    (peer.peerRemote, ip, "tailnet") ::
      if peer.peerLanIp ≠ "" ∧ peer.peerLanIp ≠ ip then [(peer.peerRemote ++ "-lan", peer.peerLanIp, "lan")] else []
  | none => if peer.peerLanIp ≠ "" then [(peer.peerRemote, peer.peerLanIp, "lan")] else []

def peerSections (env : RcloneEnv) (peer : SentPeer) : List Ini.Section :=
  (peerAddresses peer).map fun (name, host, via) =>
    rcloneSection name
      ([(.type, "sftp"), (.host, host), (.user, "lamasync"),
        (.description, quoted ("LAN peer " ++ peer.peerHostId ++ " (" ++ peer.role ++ ") via " ++ via ++ " (" ++ host ++ ")"))] ++
        (presentText env.apiKey).toList.map fun key => (.pass, key)) []

def remotePairs (folders : List (SentFolder × Option BackendRow)) (assignments : List SentAssignment) : List RemotePair :=
  assignments.filterMap fun a =>
    (folders.find? fun f => f.1.id = a.folderId).map fun f => { folder := f.1, backend := f.2, assignment := a }

def generateRcloneConfig (env : RcloneEnv) (hostId : String) (folders : List (SentFolder × Option BackendRow))
    (assignments : List SentAssignment) (peers : List SentPeer) : Ini.File where
  comments := ["Generated for " ++ hostId ++ " at " ++ env.generatedAt.val,
    "Server tailnet IP: " ++ env.serverTailnetIp.getD "(unset)"]
  sections := (remotePairs folders assignments).flatMap (RemotePair.sections env) ++ peers.flatMap (peerSections env)

inductive RcloneStorage where
  | s3 (provider accessKeyId secretAccessKey endpoint region : Option String)
  | sftp (host user : Option String)
  | disk
  deriving DecidableEq

structure RcloneRemote where
  storage : RcloneStorage
  paths : List String := []
  passwords : List String := []
  deriving DecidableEq

/-- The name of a section and the path behind the colon. -/
def splitRemote (remote : String) : String × String :=
  (String.ofList (remote.toList.takeWhile (· ≠ ':')), String.ofList ((remote.toList.dropWhile (· ≠ ':')).drop 1))

def blockStorage (block : Ini.Block) : Option RcloneStorage :=
  match block.get "type" with
  | some "s3" => some (.s3 (block.get "provider") (block.get "access_key_id") (block.get "secret_access_key")
      (block.get "endpoint") (block.get "region"))
  | some "sftp" => some (.sftp (block.get "host") (block.get "user"))
  | some "local" => some .disk
  | _ => none

def blockLayer (block : Ini.Block) : Option (String × List String) :=
  match block.get "type" with
  | some "alias" => (block.get "remote").map fun remote => (remote, [])
  | some "crypt" => (block.get "remote").map fun remote => (remote, (block.get "password").toList)
  | _ => none

/-- What the name of a section stands for; at most so many sections are followed. -/
def resolveRemote (blocks : List Ini.Block) : Nat → String → Option RcloneRemote
  | 0, _ => none
  | fuel + 1, name => do
    let block ← blocks.find? fun block => block.name = name
    match blockStorage block with
    | some storage => some { storage }
    | none =>
      let (remote, passwords) ← blockLayer block
      let inner ← resolveRemote blocks fuel (splitRemote remote).1
      some { inner with paths := inner.paths ++ [(splitRemote remote).2], passwords := inner.passwords ++ passwords }

def S3FolderConfig.storage (s3 : S3FolderConfig) : RcloneStorage :=
  .s3 (some s3.providerText) (some s3.accessKeyId) (some s3.secretAccessKey) (some s3.endpoint) s3.region

def serverStorage (env : RcloneEnv) : RcloneStorage :=
  match presentText env.serverTailnetIp with
  | some ip => .sftp (some ip) (some "lamasync")
  | none => .disk

namespace RemotePair

variable (env : RcloneEnv) (p : RemotePair)

def IsBackend (remote : RcloneRemote) : Prop :=
  remote.passwords = (if p.folder.encrypted then p.folder.cryptPassword.toList else []) ∧
    match p.folder.backend with
    | .s3 => ∃ s3, p.resolveFolderS3Config = some s3 ∧ remote.storage = s3.storage ∧ remote.paths = [s3.bucket]
    | .local | .nfs => ∃ path, p.resolveFolderLocalConfig = some path ∧ remote.storage = .disk ∧ remote.paths = [path]
    | .sftp => ∃ ip, presentText env.serverTailnetIp = some ip ∧ remote.storage = .sftp (some ip) (some "lamasync")
    | .restic => False

end RemotePair

structure RcloneWellFormed (env : RcloneEnv) (folders : List (SentFolder × Option BackendRow))
    (assignments : List SentAssignment) (file : Ini.File) (text : String) : Prop where
  lines : Ini.readLines text = file.lines
  names : ((Ini.blocksOf (Ini.readLines text)).map Ini.Block.name).Nodup
  remotes : ∀ a ∈ assignments, ∃ p ∈ remotePairs folders assignments, p.assignment = a ∧ ∃ remote,
    resolveRemote (Ini.blocksOf (Ini.readLines text)) (Ini.blocksOf (Ini.readLines text)).length
        (getRemoteName a.remoteName p.folder.id) = some remote ∧ p.IsBackend env remote

/-! The rows that are delivered. -/

structure HostRows where
  rows : List ConfigHost
  keys : (rows.map ConfigHost.id).Nodup

def RcloneEnv.configEnv (env : RcloneEnv) (isOctet : String → Bool) : ConfigEnv BackendRow where
  resticOf b := ⟨b.resticRepository, b.resticPassword⟩
  isOctet := isOctet
  generateRcloneConfig hostId folders assignments peers := (generateRcloneConfig env hostId folders assignments peers).text

namespace FolderStore

variable (s : FolderStore) (hosts : HostRows) (env : RcloneEnv) (isOctet : String → Bool) (current : ConfigHost)

def configServer : ConfigServer BackendRow where
  hosts := hosts.rows
  folders := s.folders
  assignments := s.assignments
  backends := s.getBackend

def content : SentContent := (s.configServer hosts).contentOf (env.configEnv isOctet) current

def rcloneFolders : List (SentFolder × Option BackendRow) :=
  (s.content hosts env isOctet current).config.folders.map fun folder => (folder, folder.backendId.bind s.getBackend)

def rcloneFile : Ini.File :=
  generateRcloneConfig env current.id (s.rcloneFolders hosts env isOctet current)
    (s.content hosts env isOctet current).config.assignments (s.content hosts env isOctet current).peers

end FolderStore

namespace RemotePair

variable (env : RcloneEnv) (p : RemotePair)

def writtenTexts : List String :=
  [p.folder.name, p.assignment.localPath] ++
    (if p.isEncrypted then p.folder.cryptPassword.toList else p.assignment.remoteName.toList) ++
    if p.isEncrypted = false ∧ p.folder.type = "dotfile" then [env.backupDir]
    else match p.resolveFolderS3Config with
      | some s3 => [s3.endpoint, s3.bucket, s3.accessKeyId, s3.secretAccessKey] ++ s3.region.toList
      | none => p.resolveFolderLocalConfig.toList

def hasBackendSection : Bool :=
  p.isEncrypted || (p.folder.type ≠ "dotfile" && (p.folder.backend = .s3 || p.folder.backend = .local || p.folder.backend = .nfs))

def customName : Option String := if p.isEncrypted then none else p.assignment.remoteName

def writtenStorage : Option (RcloneStorage × List String) :=
  match p.folder.backend with
  | .s3 => p.resolveFolderS3Config.map fun s3 => (s3.storage, [s3.bucket])
  | .local | .nfs => p.resolveFolderLocalConfig.map fun path => (.disk, [path])
  | .sftp | .restic =>
    some (serverStorage env, if p.isEncrypted then [p.folder.name] else [])

def written : Option RcloneRemote :=
  if p.isEncrypted = false ∧ p.folder.type = "dotfile" then some { storage := .disk }
  else (p.writtenStorage env).map fun (storage, paths) =>
    { storage, paths, passwords := if p.isEncrypted then p.folder.cryptPassword.toList else [] }

def KeepsName : Prop :=
  if p.isEncrypted then ∀ name, presentText p.assignment.remoteName = some name → name = p.cryptName
  else p.assignment.remoteName ≠ some ""

def HasRemote : Prop :=
  p.folder.type ≠ "dotfile" ∧ p.folder.backend ≠ .restic ∧
    (p.folder.backend = .sftp → (presentText env.serverTailnetIp).isSome = true)

/-- The section of another folder has the name, and stands for the same storage, path and password. -/
def StandsIn (q : RemotePair) : Prop :=
  q.sectionName = getRemoteName p.assignment.remoteName p.folder.id ∧
    ∃ remote, q.written env = some remote ∧ p.IsBackend env remote

end RemotePair

def peerTexts (env : RcloneEnv) (peer : SentPeer) : List String :=
  peer.peerHostId :: peer.peerLanIp :: peer.peerTailnetIp.toList ++ (presentText env.apiKey).toList

structure RcloneFits (env : RcloneEnv) (hostId : String) (pairs : List RemotePair) (peers : List SentPeer) : Prop where
  ownTexts : Unbroken hostId ∧ ∀ ip ∈ env.serverTailnetIp, Unbroken ip
  folderTexts : ∀ p ∈ pairs, ∀ text ∈ p.writtenTexts env, Unbroken text
  peerTexts : ∀ peer ∈ peers, ∀ text ∈ peerTexts env peer, Unbroken text
  /-- No name that an assignment gives is that of another section. -/
  folderNames : ∀ p ∈ pairs, ∀ name, p.customName = some name → ∀ q ∈ pairs,
    (q.hasBackendSection = true → name ≠ q.backendName) ∧ (q.folder.id ≠ p.folder.id → name ≠ q.sectionName)
  peerNames : ∀ p ∈ pairs, ∀ name, p.customName = some name → ∀ peer ∈ peers, ∀ address ∈ peerAddresses peer,
    name ≠ address.1
  hostIds : ∀ peer ∈ peers, ∀ other ∈ peers, (peerAddresses peer).length = 2 →
    other.peerHostId ≠ peer.peerHostId ++ "-lan"
  remotes : ∀ p ∈ pairs, (p.KeepsName ∧ p.HasRemote env) ∨ ∃ q ∈ pairs, q.folder.id ≠ p.folder.id ∧ p.StandsIn env q

end LamaSync
