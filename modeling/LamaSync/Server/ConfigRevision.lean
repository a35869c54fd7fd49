import LamaSync.Core.InitDb
import LamaSync.Server.ConfigDelivery

/-!
# The revision of a configuration

Every host has a revision of its configuration, and a daemon fetches the configuration again when the revision of its host
has gone up.  What a host is sent depends on the rows of other hosts, and every write bumps the hosts it was thought to
concern.  A write that changes what another host sees of a peer bumps nobody but its own host, or not even that; `Guarded`
says which writes do not.

A registration, a heartbeat and a rename write the row of the host, look up the latest release, and bump only then, so other
writes come in between.
-/

namespace LamaSync

structure ConfigHost where
  id : String
  hostname : String
  tailnetIp : Option String := none
  lanIp : Option String := none
  status : String := "unknown"
  os : Option String := none
  hostClass : String := "server"
  configRevision : Nat := 0
  deriving DecidableEq

/-- What a protection captures, as it is read from its row. -/
structure CaptureSpec where
  paths : OsKey → List String
  excludes : List String := []
  notes : Option String := none

structure ConfigProtection where
  id : String
  hostId : String
  name : String
  schedule : Option String := none
  enabled : Bool := true
  captureSpec : CaptureSpec

structure ConfigPause where
  forHost : Bool
  mode : String
  bwlimit : Option String := none

structure ConfigServer (β : Type) where
  hosts : List ConfigHost := []
  folders : List FolderRow := []
  assignments : List AssignmentRow := []
  backends : Table String β := fun _ => none
  protections : List ConfigProtection := []
  pauses : Table String ConfigPause := fun _ => none

structure SentPeer where
  peerHostId : String
  peerLanIp : String
  peerTailnetIp : Option String
  peerRemote : String
  role : String
  folderIds : List String := []
  deriving DecidableEq

structure SentApp where
  appName : String
  hostId : String
  protectionId : String
  paths : List String
  excludes : List String
  schedule : Option String
  instructions : Option String
  deriving DecidableEq

structure SentPause where
  mode : String
  bwlimit : Option String
  deriving DecidableEq

/-- The content of a configuration, without the last-seen, status and revision fields of the host, the end of a pause and the
relay space. -/
structure SentContent where
  id : String
  hostname : String
  tailnetIp : Option String
  lanIp : Option String
  config : SentConfig
  apps : List SentApp
  rcloneConfig : String
  peers : List SentPeer
  pause : Option SentPause
  deriving DecidableEq

structure ConfigEnv (β : Type) where
  resticOf : β → ResticBackendRow
  isOctet : String → Bool
  generateRcloneConfig : String → List (SentFolder × Option β) → List SentAssignment → List SentPeer → String

variable {β : Type} (env : ConfigEnv β)

/-- The first three parts of an address that can be that of a neighbour. -/
def ConfigEnv.ipv4Subnet24 (ip : Option String) : Option (String × String × String) := do
  let ip ← presentText ip
  match (ip.toList.splitOn '.').map String.ofList with
  | [a, b, c, d] =>
    if [a, b, c, d].all env.isOctet then
      if a = "127" then none else if a = "0" then none else some (a, b, c)
    else none
  | _ => none

def ConfigEnv.isPeerOf (current other : ConfigHost) : Bool :=
  other.status = "online" && (env.ipv4Subnet24 current.lanIp).isSome &&
    env.ipv4Subnet24 other.lanIp = env.ipv4Subnet24 current.lanIp

namespace ConfigRoutes

def pickPeerRole (currentHostId peerHostId : String) : String :=
  if utf16 currentHostId < utf16 peerHostId then "serve" else "use"

end ConfigRoutes

def ConfigEnv.peerOf (current other : ConfigHost) : Option SentPeer :=
  if other.id = current.id ∨ env.isPeerOf current other = false then none
  else (presentText other.lanIp).map fun lanIp => {
    peerHostId := other.id
    peerLanIp := lanIp
    peerTailnetIp := other.tailnetIp
    peerRemote := "lamasync-peer-" ++ other.id
    role := ConfigRoutes.pickPeerRole current.id other.id }

namespace ConfigServer

variable (s : ConfigServer β) (hostId : String)

def host : Option ConfigHost := s.hosts.find? fun host => host.id = hostId

def db : ConfigDb where
  folders := s.folders
  assignments := s.assignments
  backends := fun id => (s.backends id).map env.resticOf

def detectLanPeers (current : ConfigHost) : List SentPeer := s.hosts.filterMap (env.peerOf current)

def sharedByPeer (peers : List SentPeer) (folderId : String) : Bool :=
  peers.any fun peer => s.assignments.any fun r => r.hostId = peer.peerHostId && r.folderId = folderId

def enriched (current : ConfigHost) : List SentPeer :=
  let peers := s.detectLanPeers env current
  let folderIds := ((assignmentRows (s.db env) current.id).map AssignmentRow.folderId).filter (s.sharedByPeer peers)
  peers.map fun peer => { peer with folderIds := folderIds }

def apps (current : ConfigHost) : List SentApp :=
  (s.protections.filter fun p => p.hostId = current.id && p.enabled).map fun p => {
    appName := p.name
    hostId := p.hostId
    protectionId := p.id
    paths := p.captureSpec.paths (osKeyFor current.os)
    excludes := p.captureSpec.excludes
    schedule := p.schedule
    instructions := p.captureSpec.notes }

def effectivePause : Option SentPause :=
  let source := ((s.pauses hostId).filter (·.forHost)).or ((s.pauses "global").filter fun pause => !pause.forHost)
  source.map fun pause =>
    if pause.mode = "slow" then { mode := "slow", bwlimit := pause.bwlimit } else { mode := "pause", bwlimit := none }

def contentOf (current : ConfigHost) : SentContent :=
  let config := getConfig (s.db env) current.id
  let peers := s.enriched env current
  { id := current.id
    hostname := current.hostname
    tailnetIp := current.tailnetIp
    lanIp := current.lanIp
    config
    apps := s.apps current
    rcloneConfig := env.generateRcloneConfig current.id
      (config.folders.map fun folder => (folder, folder.backendId.bind s.backends)) config.assignments peers
    peers
    pause := s.effectivePause current.id }

def bump (concerned : String → Bool) : ConfigServer β :=
  { s with hosts := s.hosts.map fun host =>
      if concerned host.id then { host with configRevision := host.configRevision + 1 } else host }

def updateHost (set : ConfigHost → ConfigHost) : ConfigServer β :=
  { s with hosts := s.hosts.map fun host => if host.id = hostId then set host else host }

/-- A host of the name under another id, that is taken over by a registration. -/
def renamedRow (hostname : String) : Option ConfigHost :=
  s.hosts.find? fun host => host.hostname.map Char.toLower = hostname.map Char.toLower && host.id ≠ hostId

def rekey (oldId newId : String) : ConfigServer β :=
  { s with
    hosts := s.hosts.map fun host => if host.id = oldId then { host with id := newId } else host
    assignments := s.assignments.map fun r => if r.hostId = oldId then { r with hostId := newId } else r
    protections := s.protections.map fun p => if p.hostId = oldId then { p with hostId := newId } else p }

def takeOver (hostname : String) : ConfigServer β := match s.renamedRow hostId hostname, s.host hostId with
  | some row, none => s.rekey row.id hostId
  | _, _ => s

/-- The row of a registration. -/
def upsertHost (hostname : String) (tailnetIp : Option String) : ConfigServer β :=
  if (s.host hostId).isSome then
    s.updateHost hostId fun host => { host with hostname := hostname, tailnetIp := tailnetIp, status := "online" }
  else { s with hosts := s.hosts ++ [{ id := hostId, hostname, tailnetIp, status := "online" }] }

def register (hostname : String) (tailnetIp : Option String) : ConfigServer β :=
  (s.takeOver hostId hostname).upsertHost hostId hostname tailnetIp

/-- A heartbeat carries an address of the tailnet that is new, or clears one that there is. -/
def tailnetChanges (tailnetIp : Option String) (host : ConfigHost) : Bool := match tailnetIp with
  | some "" => host.tailnetIp.isSome
  | some ip => host.tailnetIp ≠ some ip
  | none => false

def reported (status : String) (lanIp tailnetIp os : Option String) (host : ConfigHost) : ConfigHost :=
  { host with
    status := status
    lanIp := (presentText lanIp).or host.lanIp
    tailnetIp := if tailnetChanges tailnetIp host then presentText tailnetIp else host.tailnetIp
    os := (presentText os).or host.os }

inductive Write (β : Type) where
  | register (hostId hostname : String) (tailnetIp : Option String)
  | health (hostId status : String) (lanIp tailnetIp os : Option String)
  | rename (hostId hostname : String)
  | setClass (hostId hostClass : String)
  | deleteHost (hostId : String)
  | createFolder (row : FolderRow)
  | putFolder (row : FolderRow)
  | deleteFolder (folderId : String)
  | assign (row : AssignmentRow)
  | patchAssignment (row : AssignmentRow)
  | unassign (folderId hostId : String)
  | createBackend (id : String) (row : β)
  | putBackend (id : String) (row : β)
  | deleteBackend (id : String)
  | protect (row : ConfigProtection)
  | putProtection (row : ConfigProtection)
  | unprotect (id : String)
  | setPause (mode : String) (bwlimit : Option String)
  | clearPause
  | setHostPause (hostId mode : String) (bwlimit : Option String)
  | clearHostPause (hostId : String)

def withoutFolder (folderId : String) : ConfigServer β :=
  { s with
    assignments := s.assignments.filter fun r => r.folderId ≠ folderId
    folders := s.folders.filter fun f => f.id ≠ folderId }

def step : Write β → ConfigServer β
  | .register hostId hostname tailnetIp => s.register hostId hostname tailnetIp
  | .health hostId status lanIp tailnetIp os => s.updateHost hostId (reported status lanIp tailnetIp os)
  | .rename hostId hostname => s.updateHost hostId fun host => { host with hostname := hostname }
  | .setClass hostId hostClass => s.updateHost hostId fun host => { host with hostClass := hostClass }
  | .deleteHost hostId =>
    { s with
      assignments := s.assignments.filter fun r => r.hostId ≠ hostId
      protections := s.protections.filter fun p => p.hostId ≠ hostId
      hosts := s.hosts.filter fun host => host.id ≠ hostId }
  | .createFolder row => { s with folders := s.folders ++ [row] }.bump fun _ => true
  | .putFolder row =>
    if (s.folders.any fun f => f.id = row.id) = true then
      { s with folders := s.folders.map fun (f : FolderRow) => if f.id = row.id then row else f }.bump fun id =>
        s.assignments.any fun r => r.folderId = row.id && r.hostId = id
    else s
  | .deleteFolder folderId =>
    if (s.folders.any fun f => f.id = folderId) = true then (s.withoutFolder folderId).bump fun _ => true
    else s.withoutFolder folderId
  | .assign row =>
    if (s.folders.any fun f => f.id = row.folderId) && (s.host row.hostId).isSome then
      { s with assignments := s.assignments ++ [row] }.bump fun id => id = row.hostId
    else s
  | .patchAssignment row =>
    if (s.assignments.any fun r => r.folderId = row.folderId && r.hostId = row.hostId) = true then
      { s with assignments := s.assignments.map fun (r : AssignmentRow) =>
          if r.folderId = row.folderId ∧ r.hostId = row.hostId then { row with id := r.id } else r }.bump fun id =>
        id = row.hostId
    else s
  | .unassign folderId hostId =>
    if (s.assignments.any fun r => r.folderId = folderId && r.hostId = hostId) = true then
      { s with assignments := s.assignments.filter fun (r : AssignmentRow) =>
          !(r.folderId = folderId && r.hostId = hostId) }.bump fun id => id = hostId
    else s
  | .createBackend id row => { s with backends := s.backends.put id row }
  | .putBackend id row =>
    if (s.backends id).isSome then { s with backends := s.backends.put id row }.bump fun _ => true else s
  | .deleteBackend id =>
    if (s.folders.any fun f => f.backendId = some id) = true then s else { s with backends := s.backends.erase id }
  | .protect row => { s with protections := s.protections ++ [row] }.bump fun id => id = row.hostId
  | .putProtection row =>
    { s with protections := s.protections.map fun (p : ConfigProtection) =>
        if p.id = row.id then { row with hostId := p.hostId } else p }.bump fun id =>
      s.protections.any fun p => p.id = row.id && p.hostId = id
  | .unprotect protectionId =>
    { s with protections := s.protections.filter fun (p : ConfigProtection) => p.id ≠ protectionId }.bump fun id =>
      s.protections.any fun p => p.id = protectionId && p.hostId = id
  | .setPause mode bwlimit =>
    { s with pauses := s.pauses.put "global" { forHost := false, mode, bwlimit } }.bump fun id => id ≠ "__pause_global__"
  | .clearPause => { s with pauses := s.pauses.erase "global" }.bump fun id => id ≠ "__pause_global__"
  | .setHostPause hostId mode bwlimit =>
    if (s.host hostId).isSome then
      { s with pauses := s.pauses.put hostId { forHost := true, mode, bwlimit } }.bump fun id => id = hostId
    else s
  | .clearHostPause hostId => { s with pauses := s.pauses.erase hostId }.bump fun id => id = hostId

/-- The hosts that a request bumps when it knows the latest release. -/
inductive Bump where
  | host (hostId : String)
  | peers (exceptHostId : String)
  deriving DecidableEq

def Bump.concerns : Bump → String → Bool
  | host hostId, id => id = hostId
  | peers exceptHostId, id => id ≠ exceptHostId

/-- The bump that is left when the row has been written. -/
def lateBump : Write β → Option Bump
  | .register hostId _ _ => some (.peers hostId)
  | .health hostId _ _ tailnetIp _ =>
    if (s.host hostId).any (tailnetChanges tailnetIp) then some (.host hostId) else none
  | .rename hostId _ => if (s.host hostId).isSome then some (.host hostId) else none
  | _ => none

end ConfigServer

/-- The tables, and the bumps of the requests that wait for the release. -/
structure ConfigSystem (β : Type) where
  server : ConfigServer β
  owed : List ConfigServer.Bump := []

inductive ConfigEvent (β : Type) where
  | write (write : ConfigServer.Write β)
  /-- The request has the release. -/
  | released (request : Nat)

namespace ConfigSystem

variable (s : ConfigSystem β)

def step : ConfigEvent β → ConfigSystem β
  | .write write => { server := s.server.step write, owed := s.owed ++ (s.server.lateBump write).toList }
  | .released request => match s.owed[request]? with
    | some bump => { server := s.server.bump bump.concerns, owed := s.owed.eraseIdx request }
    | none => s

def Owes (hostId : String) : Prop := ∃ bump ∈ s.owed, bump.concerns hostId = true

end ConfigSystem

namespace ConfigServer

/-- Whenever the content of a host that is registered changes, its revision has gone up, and it never goes down. -/
def Tracked (s s' : ConfigServer β) : Prop := ∀ hostId before after, s.host hostId = some before →
  s'.host hostId = some after → before.configRevision ≤ after.configRevision ∧
    (before.configRevision = after.configRevision → s'.contentOf env after = s.contentOf env before)

def SharedAnyway (s : ConfigServer β) (folderId hostId : String) : Prop :=
  ∀ other ∈ s.hosts, other.id ≠ hostId → ∀ row ∈ s.hosts, row.id = hostId → env.isPeerOf other row = true →
    ∀ r ∈ s.assignments, r.hostId = other.id → r.folderId = folderId →
      ∃ third ∈ s.hosts, third.id ≠ other.id ∧ third.id ≠ hostId ∧ env.isPeerOf other third = true ∧
        ∃ r ∈ s.assignments, r.hostId = third.id ∧ r.folderId = folderId

def Write.Guarded (s : ConfigServer β) : Write β → Prop
  | register hostId hostname tailnetIp => ∀ host ∈ s.host hostId, host.hostname = hostname ∧ host.tailnetIp = tailnetIp
  | health hostId status lanIp tailnetIp os => ∀ row ∈ s.hosts, row.id = hostId →
      (tailnetChanges tailnetIp row = false → (presentText lanIp).or row.lanIp = row.lanIp ∧
        osKeyFor ((presentText os).or row.os) = osKeyFor row.os) ∧
      ∀ other ∈ s.hosts, other.id ≠ hostId →
        env.isPeerOf other row = true ∨ env.isPeerOf other (reported status lanIp tailnetIp os row) = true →
        (reported status lanIp tailnetIp os row).status = row.status ∧
          (reported status lanIp tailnetIp os row).lanIp = row.lanIp ∧
          (reported status lanIp tailnetIp os row).tailnetIp = row.tailnetIp
  | deleteHost hostId => ∀ row ∈ s.hosts, row.id = hostId → ∀ other ∈ s.hosts, other.id ≠ hostId →
      env.isPeerOf other row = false
  | deleteFolder folderId => (∃ f ∈ s.folders, f.id = folderId) ∨ ∀ r ∈ s.assignments, r.folderId ≠ folderId
  | assign row => s.SharedAnyway env row.folderId row.hostId
  | unassign folderId hostId => s.SharedAnyway env folderId hostId
  | createBackend id _ => ∀ f ∈ s.folders, f.backendId ≠ some id
  | setPause _ _ | clearPause => ∀ host ∈ s.hosts, host.id ≠ "__pause_global__"
  | setHostPause hostId _ _ => hostId ≠ "global"
  | clearHostPause hostId => hostId ≠ "global"
  | _ => True

end ConfigServer

def ConfigEvent.Guarded (s : ConfigSystem β) : ConfigEvent β → Prop
  | write w => w.Guarded env s.server
  | released _ => True

/-- The revision of a registered host never goes down, and while it is the same and no bump of the host is owed, none was
owed and the content is the same. -/
def ConfigSystem.Tracked (s s' : ConfigSystem β) : Prop := ∀ hostId before after, s.server.host hostId = some before →
  s'.server.host hostId = some after → before.configRevision ≤ after.configRevision ∧
    (before.configRevision = after.configRevision → ¬s'.Owes hostId →
      ¬s.Owes hostId ∧ s'.server.contentOf env after = s.server.contentOf env before)

end LamaSync
