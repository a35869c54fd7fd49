import LamaSync.Daemon.Execution
import LamaSync.Lib.Table
import LamaSync.Lib.Trace

/-!
# LAN peers

A host is told which hosts of its subnet it shares folders with.  When it runs a folder that is shared, the host with the
smaller id serves its local tree to the other, with `rclone serve sftp` on port 2022, for as long as the run takes; the
other looks whether something listens on that port, and then uses the peer as the remote of the run.

The port is that of the host, not of a folder, and the remote that the other uses names a host and no port.  So a run that
is redirected is answered by whatever listens on the port that rclone takes by default, and when that is port 2022, by
the listener of any folder.
-/

namespace LamaSync

open Trace

structure SftpSection where
  name : String
  host : String
  port : Option Nat := none

def Peer.sections (p : Peer) : List SftpSection :=
  match presentText p.peerTailnetIp with
  | some tailnetIp =>
    ⟨p.peerRemote, tailnetIp, none⟩ ::
      if p.peerLanIp ≠ "" ∧ p.peerLanIp ≠ tailnetIp then [⟨p.peerRemote ++ "-lan", p.peerLanIp, none⟩] else []
  | none => if p.peerLanIp ≠ "" then [⟨p.peerRemote, p.peerLanIp, none⟩] else []

structure PeerAssignment where
  hostId : String
  folderId : String

def assignedFolders (rows : List PeerAssignment) (hostId : String) : List String :=
  (rows.filter fun row => row.hostId = hostId).map PeerAssignment.folderId

def enrichPeers (rows : List PeerAssignment) (hostId : String) (peers : List Peer) : List Peer :=
  let myFolderIds := assignedFolders rows hostId
  let peerSharedFolderIds := peers.flatMap fun p =>
    (assignedFolders rows p.peerHostId).filter fun folderId => folderId ∈ myFolderIds
  peers.map fun p => { p with folderIds := myFolderIds.filter fun folderId => folderId ∈ peerSharedFolderIds }

def lanPeerPort : Nat := 2022

/-- What lies outside the daemons: the local tree of a folder on a host, the host that has an address, the port that rclone
takes when a section names none (22, or `RCLONE_SFTP_PORT`), and the ports of a host on which another program listens. -/
structure LanNetwork where
  localPath : String → String → String
  owner : String → Option String
  sftpPort : Nat
  foreign : String → Nat → Bool

/-- An `rclone serve sftp` that has been started and has not exited. -/
structure ServeProcess where
  hostId : String
  folderId : String
  localPath : String
  deriving DecidableEq

inductive LanPhase where
  | probing (peerHostId : String) (candidates : List (String × String)) (sections : List SftpSection)
  | redirected (peerHostId : String) (target : SftpSection)
  /-- No listener is used. -/
  | direct

structure LanRun where
  hostId : String
  folderId : String
  phase : LanPhase

structure LanState where
  runs : Table Nat LanRun
  processes : Table Nat ServeProcess
  listener : Table String Nat
  nextRun : Nat

def newLanState : LanState where
  runs := fun _ => none
  processes := fun _ => none
  listener := fun _ => none
  nextRun := 0

inductive LanEvent where
  | start (hostId : String) (peers : List Peer) (folderId : String)
  | bind (process : Nat)
  | exit (process : Nat)
  /-- The next address is probed; whether packets get through. -/
  | probe (run : Nat) (reachable : Bool)
  | finish (run : Nat)

inductive LanAnswer where
  | foreign
  | process (p : ServeProcess)
  deriving DecidableEq

/-- It is the listener of the host, and serves the host's local tree of the folder. -/
def LanAnswer.Serves (net : LanNetwork) (answer : LanAnswer) (hostId folderId : String) : Prop :=
  answer = .process ⟨hostId, folderId, net.localPath hostId folderId⟩

namespace LanState

variable (net : LanNetwork)

def answer (s : LanState) (hostId : String) (port : Nat) : Option LanAnswer :=
  if net.foreign hostId port then some .foreign
  else if port = lanPeerPort then ((s.listener hostId).bind s.processes).map .process
  else none

def answersSection (s : LanState) (target : SftpSection) : Option LanAnswer :=
  (net.owner target.host).bind fun hostId => s.answer net hostId (target.port.getD net.sftpPort)

def startLanPeerSession (s : LanState) (hostId : String) (peers : List Peer) (folderId localPath : String) : LanState :=
  let next := { s with nextRun := s.nextRun + 1 }
  match findPeerForFolder peers folderId with
  | none => { next with runs := s.runs.put s.nextRun ⟨hostId, folderId, .direct⟩ }
  | some peer =>
    match pickPeerRole hostId peer.peerHostId with
    | .serve =>
      { next with
        runs := s.runs.put s.nextRun ⟨hostId, folderId, .direct⟩
        processes := s.processes.put s.nextRun ⟨hostId, folderId, localPath⟩ }
    | .use =>
      { next with
        runs := s.runs.put s.nextRun ⟨hostId, folderId, .probing peer.peerHostId (peerCandidates peer) (peers.flatMap Peer.sections)⟩ }

def probed (s : LanState) (reachable : Bool) : LanPhase → LanPhase
  | .probing peer ((ip, remote) :: rest) sections =>
    if reachable && ((net.owner ip).bind fun hostId => s.answer net hostId lanPeerPort).isSome then
      match sections.find? fun target => target.name = remote with
      | some target => .redirected peer target
      | none => .direct
    else .probing peer rest sections
  | .probing _ [] _ => .direct
  | phase => phase

def step (s : LanState) : LanEvent → LanState
  | .start hostId peers folderId => s.startLanPeerSession hostId peers folderId (net.localPath hostId folderId)
  | .bind i =>
    match s.processes i with
    | some p =>
      if net.foreign p.hostId lanPeerPort || (s.listener p.hostId).isSome then s
      else { s with listener := s.listener.put p.hostId i }
    | none => s
  | .exit i =>
    match s.processes i with
    | some p =>
      { s with
        processes := s.processes.erase i
        listener := if s.listener p.hostId = some i then s.listener.erase p.hostId else s.listener }
    | none => s
  | .probe i reachable =>
    match s.runs i with
    | some run => { s with runs := s.runs.put i { run with phase := s.probed net reachable run.phase } }
    | none => s
  | .finish i => { s with runs := s.runs.erase i }

def RightListener (s : LanState) : Prop :=
  ∀ i run peer target, s.runs i = some run → run.phase = .redirected peer target →
    ∀ answer, s.answersSection net target = some answer → answer.Serves net peer run.folderId

/-- On the host with the address no other program listens on the port that the section stands for, and when this is the
port of the listeners, the process that has it is of the host and the folder. -/
def OnlyServes (s : LanState) (target : SftpSection) (peer folderId : String) : Prop :=
  ∀ hostId, net.owner target.host = some hostId → net.foreign hostId (target.port.getD net.sftpPort) = false ∧
    (target.port.getD net.sftpPort = lanPeerPort → ∀ i p, s.listener hostId = some i → s.processes i = some p →
      p.hostId = peer ∧ p.folderId = folderId)

def GuardHolds (s : LanState) : LanEvent → Prop
  | .probe i reachable => ∀ run peer ip remote rest sections target, s.runs i = some run →
      run.phase = .probing peer ((ip, remote) :: rest) sections → reachable = true →
      (∃ hostId, net.owner ip = some hostId ∧
        (net.foreign hostId lanPeerPort = true ∨ (s.listener hostId).isSome = true)) →
      (sections.find? fun target => target.name = remote) = some target → s.OnlyServes net target peer run.folderId
  | .bind i => ∀ p, s.processes i = some p → net.foreign p.hostId lanPeerPort = false → s.listener p.hostId = none →
      ∀ j run peer target, s.runs j = some run → run.phase = .redirected peer target →
        net.owner target.host = some p.hostId → target.port.getD net.sftpPort = lanPeerPort →
        p.hostId = peer ∧ p.folderId = run.folderId
  | _ => True

structure Sane (s : LanState) : Prop where
  listener : ∀ hostId i, s.listener hostId = some i → ∃ p, s.processes i = some p ∧ p.hostId = hostId
  used : ∀ i p, s.processes i = some p → i < s.nextRun
  tree : ∀ i p, s.processes i = some p → p.localPath = net.localPath p.hostId p.folderId

variable {net : LanNetwork} {s : LanState}

theorem sane_new : newLanState.Sane net :=
  ⟨fun _ _ h => (nomatch h), fun _ _ h => (nomatch h), fun _ _ h => (nomatch h)⟩

theorem rightListener_new : newLanState.RightListener net := by
  intro i run peer target hrun
  cases hrun

theorem Sane.step (h : s.Sane net) (e : LanEvent) : (s.step net e).Sane net := by
  cases e with
  | start hostId peers folderId =>
    have hused : ∀ i p, s.processes i = some p → i < s.nextRun + 1 := fun i p hp => Nat.lt_succ_of_lt (h.used i p hp)
    simp only [LanState.step, startLanPeerSession]
    split
    · exact ⟨h.listener, hused, h.tree⟩
    split
    · constructor
      · intro host i hi
        obtain ⟨p, hp, hhost⟩ := h.listener host i hi
        exact ⟨p, (Table.put_of_ne (Nat.ne_of_lt (h.used i p hp))).trans hp, hhost⟩
      · intro i p hp
        rcases Table.of_put hp with ⟨rfl, -⟩ | ⟨-, hold⟩
        · exact Nat.lt_succ_self _
        · exact hused i p hold
      · intro i p hp
        rcases Table.of_put hp with ⟨-, rfl⟩ | ⟨-, hold⟩
        · rfl
        · exact h.tree i p hold
    · exact ⟨h.listener, hused, h.tree⟩
  | bind i =>
    simp only [LanState.step]
    split
    · rename_i p hp
      split
      · exact h
      refine ⟨fun host j hj => ?_, h.used, h.tree⟩
      rcases Table.of_put hj with ⟨rfl, rfl⟩ | ⟨-, hold⟩
      · exact ⟨p, hp, rfl⟩
      · exact h.listener host j hold
    · exact h
  | exit i =>
    simp only [LanState.step]
    split
    · rename_i p hp
      constructor
      · intro host j hj
        simp only at hj
        have hold : s.listener host = some j := by
          split at hj
          · exact (Table.of_erase hj).2
          · exact hj
        obtain ⟨q, hq, hhost⟩ := h.listener host j hold
        refine ⟨q, (Table.erase_of_ne ?_).trans hq, hhost⟩
        rintro rfl
        -- the process that exits listens on no host
        cases hp.symm.trans hq
        rw [hhost, if_pos hold, Table.erase_self] at hj
        cases hj
      · exact fun j q hq => h.used j q (Table.of_erase hq).2
      · exact fun j q hq => h.tree j q (Table.of_erase hq).2
    · exact h
  | probe i reachable =>
    simp only [LanState.step]
    split
    · exact ⟨h.listener, h.used, h.tree⟩
    · exact h
  | finish i => exact ⟨h.listener, h.used, h.tree⟩

variable {hostId : String} {port : Nat} {a : LanAnswer} {s' : LanState}

theorem answer_process (ha : s.answer net hostId port = some a) :
    (net.foreign hostId port = true ∧ a = .foreign) ∨
      (net.foreign hostId port = false ∧ port = lanPeerPort ∧
        ∃ i p, s.listener hostId = some i ∧ s.processes i = some p ∧ a = .process p) := by
  unfold answer at ha
  split at ha
  · rename_i hfor
    exact .inl ⟨hfor, (Option.some.inj ha).symm⟩
  rename_i hfor
  split at ha
  · rename_i hport
    obtain ⟨p, hp, rfl⟩ := Option.map_eq_some_iff.1 ha
    obtain ⟨i, hi, hp⟩ := Option.bind_eq_some_iff.1 hp
    exact .inr ⟨by simpa using hfor, hport, i, p, hi, hp, rfl⟩
  · cases ha

theorem answer_foreign (hfor : net.foreign hostId port = true) :
    s.answer net hostId port = some .foreign :=
  if_pos hfor

theorem answer_listener {i : Nat} {p : ServeProcess} (hfor : net.foreign hostId port = false)
    (hport : port = lanPeerPort) (hi : s.listener hostId = some i) (hp : s.processes i = some p) :
    s.answer net hostId port = some (.process p) := by
  subst hport
  simp [answer, hfor, hi, hp]

variable {target : SftpSection}

theorem answer_mono (hlis : ∀ hostId i p, s'.listener hostId = some i → s'.processes i = some p →
      s.listener hostId = some i ∧ s.processes i = some p) (ha : s'.answersSection net target = some a) :
    s.answersSection net target = some a := by
  obtain ⟨hostId, hw, ha⟩ := Option.bind_eq_some_iff.1 ha
  refine Option.bind_eq_some_iff.2 ⟨hostId, hw, ?_⟩
  rcases answer_process ha with ⟨hfor, rfl⟩ | ⟨hfor, hport, i, p, hi, hp, rfl⟩
  · exact answer_foreign hfor
  · obtain ⟨hi', hp'⟩ := hlis hostId i p hi hp
    exact answer_listener hfor hport hi' hp'

theorem RightListener.mono (h : s.RightListener net)
    (hruns : ∀ i run peer target, s'.runs i = some run → run.phase = .redirected peer target → s.runs i = some run)
    (hlis : ∀ hostId i p, s'.listener hostId = some i → s'.processes i = some p →
      s.listener hostId = some i ∧ s.processes i = some p) : s'.RightListener net :=
  fun i run peer target hrun hph a ha =>
    h i run peer target (hruns i run peer target hrun hph) hph a (answer_mono hlis ha)

theorem Sane.serves (hsane : s.Sane net) {i : Nat} {p : ServeProcess} {peer folderId : String} (hp : s.processes i = some p)
    (hhost : p.hostId = peer) (hfol : p.folderId = folderId) : (LanAnswer.process p).Serves net peer folderId := by
  subst hhost
  subst hfol
  rw [LanAnswer.Serves, ← hsane.tree i p hp]

/-- Whoever answers serves the peer's tree, exactly when nobody else listens where the section leads. -/
theorem Sane.onlyServes_iff (hsane : s.Sane net) {peer folderId : String} : s.OnlyServes net target peer folderId ↔
      ∀ a, s.answersSection net target = some a → a.Serves net peer folderId := by
  constructor
  · intro honly a ha
    obtain ⟨hostId, hw, ha⟩ := Option.bind_eq_some_iff.1 ha
    obtain ⟨hfor, hlis⟩ := honly hostId hw
    rcases answer_process ha with ⟨hfor', -⟩ | ⟨-, hport, i, p, hi, hp, rfl⟩
    · cases hfor.symm.trans hfor'
    · obtain ⟨hhost, hfol⟩ := hlis hport i p hi hp
      exact hsane.serves hp hhost hfol
  · intro hserv hostId hw
    have hans : ∀ a, s.answer net hostId (target.port.getD net.sftpPort) = some a → a.Serves net peer folderId :=
      fun a ha => hserv a (Option.bind_eq_some_iff.2 ⟨hostId, hw, ha⟩)
    have hfor : net.foreign hostId (target.port.getD net.sftpPort) = false := by
      refine Bool.eq_false_iff.2 fun hfor => ?_
      cases hans .foreign (answer_foreign hfor)
    refine ⟨hfor, fun hport i p hi hp => ?_⟩
    cases hans (.process p) (answer_listener hfor hport hi hp)
    exact ⟨rfl, rfl⟩

theorem Sane.listens_iff (hsane : s.Sane net) : (s.answer net hostId lanPeerPort).isSome = true ↔
    net.foreign hostId lanPeerPort = true ∨ (s.listener hostId).isSome = true := by
  constructor
  · intro h
    obtain ⟨a, ha⟩ := Option.isSome_iff_exists.1 h
    rcases answer_process ha with ⟨hfor, -⟩ | ⟨-, -, i, p, hi, -⟩
    · exact .inl hfor
    · exact .inr (by rw [hi]; rfl)
  · intro h
    cases hfor : net.foreign hostId lanPeerPort with
    | true =>
      rw [answer_foreign hfor]
      rfl
    | false =>
      obtain ⟨i, hi⟩ := Option.isSome_iff_exists.1 (h.resolve_left (by simp [hfor]))
      obtain ⟨p, hp, -⟩ := hsane.listener hostId i hi
      rw [answer_listener hfor rfl hi hp]
      rfl

private theorem lp_start (h : s.RightListener net) (hsane : s.Sane net) (hostId : String) (peers : List Peer)
    (folderId localPath : String) : (s.startLanPeerSession hostId peers folderId localPath).RightListener net := by
  have hruns : ∀ (run : LanRun), (∀ peer target, run.phase ≠ .redirected peer target) → ∀ i run' peer target,
      (s.runs.put s.nextRun run) i = some run' → run'.phase = .redirected peer target → s.runs i = some run' := by
    intro run hnot i run' peer target hrun hph
    rcases Table.of_put hrun with ⟨-, rfl⟩ | ⟨-, hold⟩
    · exact absurd hph (hnot peer target)
    · exact hold
  unfold startLanPeerSession
  simp only
  split
  · exact h.mono (hruns _ (by simp)) fun _ _ _ hi hp => ⟨hi, hp⟩
  split
  · refine h.mono (hruns _ (by simp)) fun host i p hi hp => ⟨hi, ?_⟩
    obtain ⟨q, hq, -⟩ := hsane.listener host i hi
    exact (Table.put_of_ne (Nat.ne_of_lt (hsane.used i q hq))).symm.trans hp
  · exact h.mono (hruns _ (by simp)) fun _ _ _ hi hp => ⟨hi, hp⟩

/-- A probe redirects a run that was not redirected exactly when somebody listens on the probed address and the section
has the name. -/
private theorem lp_probed (hsane : s.Sane net) {phase : LanPhase} {reachable : Bool} {peer : String} :
    s.probed net reachable phase = .redirected peer target ↔ phase = .redirected peer target ∨
      ∃ ip remote rest sections, phase = .probing peer ((ip, remote) :: rest) sections ∧ reachable = true ∧
        (∃ hostId, net.owner ip = some hostId ∧
          (net.foreign hostId lanPeerPort = true ∨ (s.listener hostId).isSome = true)) ∧
        (sections.find? fun target => target.name = remote) = some target := by
  have hli : ∀ ip, ((net.owner ip).bind fun hostId => s.answer net hostId lanPeerPort).isSome = true ↔
      ∃ hostId, net.owner ip = some hostId ∧
        (net.foreign hostId lanPeerPort = true ∨ (s.listener hostId).isSome = true) := by
    intro ip
    cases net.owner ip with
    | none => simp
    | some hostId =>
      rw [Option.bind_some, hsane.listens_iff]
      simp
  cases phase with
  | direct => simp [probed]
  | redirected peer' target' => simp [probed]
  | probing peer' candidates sections =>
    cases candidates with
    | nil => simp [probed]
    | cons candidate rest =>
      obtain ⟨ip, remote⟩ := candidate
      simp only [probed, Bool.and_eq_true]
      split
      · rename_i hup
        obtain ⟨hr, han⟩ := hup
        have hup := (hli ip).1 han
        cases hfind : sections.find? fun target => target.name = remote with
        | none => simp [hfind]
        | some found =>
          constructor
          · intro heq
            cases heq
            exact .inr ⟨ip, remote, rest, sections, rfl, hr, hup, hfind⟩
          · rintro (heq | ⟨ip', remote', rest', sections', heq, -, -, hf⟩)
            · cases heq
            · cases heq
              cases hfind.symm.trans hf
              rfl
      · rename_i hdown
        constructor
        · intro heq
          cases heq
        · rintro (heq | ⟨ip', remote', rest', sections', heq, hr, hup, -⟩)
          · cases heq
          · cases heq
            exact absurd ⟨hr, (hli ip).2 hup⟩ hdown

private theorem lp_probe (h : s.RightListener net) (hsane : s.Sane net) (i : Nat) (reachable : Bool) :
    s.GuardHolds net (.probe i reachable) ↔ (s.step net (.probe i reachable)).RightListener net := by
  cases hrun : s.runs i with
  | none =>
    have hsame : s.step net (.probe i reachable) = s := by simp only [step, hrun]
    rw [hsame]
    exact iff_of_true (fun run _ _ _ _ _ _ hr => nomatch hrun.symm.trans hr) h
  | some run =>
    have hnext : s.step net (.probe i reachable) =
        { s with runs := s.runs.put i { run with phase := s.probed net reachable run.phase } } := by
      simp only [step, hrun]
    rw [hnext]
    constructor
    · intro hg j run' peer target hrun' hph a ha
      rcases Table.of_put hrun' with ⟨rfl, rfl⟩ | ⟨-, hold⟩
      · rcases (lp_probed hsane).1 hph with hwas | ⟨ip, remote, rest, sections, hpr, hre, hup, hfind⟩
        · exact h j run peer target hrun hwas a ha
        · have honly := hg run peer ip remote rest sections target hrun hpr hre hup hfind
          exact hsane.onlyServes_iff.1 honly a ha
      · exact h j run' peer target hold hph a ha
    intro haf run' peer ip remote rest sections target hrun' hpr hre hup hfind
    cases hrun.symm.trans hrun'
    have hph : s.probed net reachable run.phase = .redirected peer target :=
      (lp_probed hsane).2 (.inr ⟨ip, remote, rest, sections, hpr, hre, hup, hfind⟩)
    exact hsane.onlyServes_iff.2 fun a ha => haf i _ peer target Table.put_self hph a ha

private theorem lp_bind (h : s.RightListener net) (hsane : s.Sane net) (i : Nat) :
    s.GuardHolds net (.bind i) ↔ (s.step net (.bind i)).RightListener net := by
  cases hp : s.processes i with
  | none =>
    have hsame : s.step net (.bind i) = s := by simp only [step, hp]
    rw [hsame]
    exact iff_of_true (fun p hp' => nomatch hp.symm.trans hp') h
  | some p =>
    by_cases hbusy : net.foreign p.hostId lanPeerPort = true ∨ (s.listener p.hostId).isSome
    · have hsame : s.step net (.bind i) = s := by
        simp only [step, hp, Bool.or_eq_true, if_pos hbusy]
      rw [hsame]
      refine iff_of_true (fun p' hp' hfor hfree => ?_) h
      cases hp.symm.trans hp'
      simp [hfor, hfree] at hbusy
    · have hnext : s.step net (.bind i) = { s with listener := s.listener.put p.hostId i } := by
        simp only [step, hp, Bool.or_eq_true, if_neg hbusy]
      simp only [not_or, Bool.not_eq_true, Option.isSome_eq_false_iff, Option.isNone_iff_eq_none] at hbusy
      obtain ⟨hfor, hfree⟩ := hbusy
      rw [hnext]
      constructor
      · intro hg j run peer target hrun hph a ha
        obtain ⟨hostId, hw, ha⟩ := Option.bind_eq_some_iff.1 ha
        rcases answer_process ha with ⟨hfor', rfl⟩ | ⟨hfor', hport, k, q, hk, hq, rfl⟩
        · exact h j run peer target hrun hph _ (Option.bind_eq_some_iff.2 ⟨hostId, hw, answer_foreign hfor'⟩)
        rcases Table.of_put hk with ⟨rfl, rfl⟩ | ⟨-, hold⟩
        · cases hp.symm.trans hq
          obtain ⟨hhost, hfol⟩ := hg p hp hfor hfree j run peer target hrun hph hw hport
          exact hsane.serves hp hhost hfol
        · exact h j run peer target hrun hph _
            (Option.bind_eq_some_iff.2 ⟨hostId, hw, answer_listener hfor' hport hold hq⟩)
      · intro haf p' hp' _ _ j run peer target hrun hph hw hport
        cases hp.symm.trans hp'
        cases haf j run peer target hrun hph (.process p) (Option.bind_eq_some_iff.2
          ⟨p.hostId, hw, answer_listener (by rw [hport, hfor]) hport Table.put_self hp⟩)
        exact ⟨rfl, rfl⟩

private theorem lp_step (h : s.RightListener net) (hsane : s.Sane net) (e : LanEvent) :
    s.GuardHolds net e ↔ (s.step net e).RightListener net := by
  cases e with
  | start hostId peers folderId => exact iff_of_true trivial (lp_start h hsane hostId peers folderId _)
  | bind i => exact lp_bind h hsane i
  | probe i reachable => exact lp_probe h hsane i reachable
  | finish i =>
    refine iff_of_true trivial (h.mono (fun j run _ _ hrun _ => (Table.of_erase hrun).2) fun _ _ _ hi hp => ⟨hi, hp⟩)
  | exit i =>
    refine iff_of_true trivial ?_
    simp only [step]
    split
    · refine h.mono (fun _ _ _ _ hrun _ => hrun) fun host j q hj hq => ⟨?_, (Table.of_erase hq).2⟩
      simp only at hj
      split at hj
      · exact (Table.of_erase hj).2
      · exact hj
    · exact h

end LanState

/-- In every state of a run, exactly when its steps meet the guard, whoever answers a run that is redirected to a peer is
the peer's listener, and serves the peer's local tree of the folder of that run. -/
theorem lan_peer_serves_folder (net : LanNetwork) (es : List LanEvent) :
    Always (LanState.step net) (LanState.GuardHolds net) newLanState es ↔
      ∀ before after, es = before ++ after → (run (LanState.step net) newLanState before).RightListener net := by
  have hsane : ∀ es, (run (LanState.step net) newLanState es).Sane net := fun es =>
    run_invariant LanState.sane_new fun _ e h => h.step e
  rw [always_iff_invariant (I := fun s : LanState => s.RightListener net ∧ s.Sane net)
    ⟨LanState.rightListener_new, LanState.sane_new⟩
    fun s e h => (LanState.lp_step h.1 h.2 e).trans (and_iff_left (h.2.step e)).symm]
  exact ⟨fun h before after heq => (h before after heq).1, fun h before after heq => ⟨h before after heq, hsane before⟩⟩

/-- The host `desktop` in the list of `laptop`, before its folders are filled in. -/
def desktopPeer : Peer := ⟨"desktop", "192.168.10.1", none, "lamasync-peer-desktop", []⟩

def laptopPeer : Peer := ⟨"laptop", "192.168.10.2", none, "lamasync-peer-laptop", []⟩

def twoFolders : List PeerAssignment :=
  [⟨"desktop", "music"⟩, ⟨"desktop", "photos"⟩, ⟨"laptop", "music"⟩, ⟨"laptop", "photos"⟩]

def overlappingRuns : List LanEvent :=
  [.start "desktop" (enrichPeers twoFolders "desktop" [laptopPeer]) "music", .bind 0,
    .start "laptop" (enrichPeers twoFolders "laptop" [desktopPeer]) "photos", .probe 1 true]

def peerPortNetwork : LanNetwork where
  localPath hostId folderId := "/home/" ++ hostId ++ "/" ++ folderId
  owner ip := if ip = "192.168.10.1" then some "desktop" else if ip = "192.168.10.2" then some "laptop" else none
  sftpPort := lanPeerPort
  foreign _ _ := false

/-- rclone takes its default port, where the hosts have an SSH server. -/
def defaultPortNetwork : LanNetwork := { peerPortNetwork with
  sftpPort := 22
  foreign := fun _ port => port == 22 }

/-- The run of `photos` is answered by the listener of `music`, or by the SSH server. -/
theorem overlapping_runs_answered_wrong :
    ¬ (run (LanState.step peerPortNetwork) newLanState overlappingRuns).RightListener peerPortNetwork ∧
    ¬ (run (LanState.step defaultPortNetwork) newLanState overlappingRuns).RightListener defaultPortNetwork := by
  constructor
  · intro h
    have hserv := h 1 _ _ _ rfl rfl (.process ⟨"desktop", "music", "/home/desktop/music"⟩) (by decide)
    exact absurd (congrArg ServeProcess.folderId (LanAnswer.process.inj hserv)) (by decide)
  intro h
  cases h 1 _ _ _ rfl rfl .foreign (by decide)

end LamaSync
