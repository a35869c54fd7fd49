import LamaSync.Server.RevisionTracking
import Mathlib.Data.String.Basic

/-!
# The peers of a host and their folders

A host is sent its neighbours in the subnet, each with the folders to be exchanged with it and the role of the host towards
it.  The folders that the host shares with some neighbour are collected first, over all of them, and every neighbour gets
the whole collection.  With two hosts in the subnet that is the same; `peer_lists_iff` says when it is with more.
-/

namespace LamaSync

namespace ConfigServer

variable {β : Type} (env : ConfigEnv β) (s : ConfigServer β) (hostId : String)

def Assigned (folderId : String) : Prop := ∃ r ∈ s.assignments, r.hostId = hostId ∧ r.folderId = folderId

def OppositeRoles (role role' : String) : Prop := (role = "serve" ∧ role' = "use") ∨ (role = "use" ∧ role' = "serve")

structure PeersExact : Prop where
  folders : ∀ current ∈ s.host hostId, ∀ peer ∈ s.enriched env current, ∀ folderId,
    folderId ∈ peer.folderIds ↔ s.Assigned hostId folderId ∧ s.Assigned peer.peerHostId folderId
  roles : ∀ current ∈ s.host hostId, ∀ peer ∈ s.enriched env current, ∀ other ∈ s.host peer.peerHostId,
    ∀ back ∈ s.enriched env other, back.peerHostId = hostId → OppositeRoles peer.role back.role

def SharesAlike : Prop :=
  ∀ current ∈ s.host hostId, ∀ peer ∈ s.detectLanPeers env current, ∀ peer' ∈ s.detectLanPeers env current, ∀ folderId,
    s.Assigned hostId folderId → s.Assigned peer'.peerHostId folderId → s.Assigned peer.peerHostId folderId

variable {env s hostId} {current other : ConfigHost} {peer : SentPeer}

theorem mem_folderIds_enriched (hpeer : peer ∈ s.enriched env current) (folderId : String) :
    folderId ∈ peer.folderIds ↔ s.Assigned current.id folderId ∧
      ∃ peer' ∈ s.detectLanPeers env current, s.Assigned peer'.peerHostId folderId := by
  obtain ⟨detected, -, rfl⟩ := List.mem_map.1 hpeer
  rw [List.mem_filter, sharedByPeer_iff]
  have hown : folderId ∈ (assignmentRows (s.db env) current.id).map AssignmentRow.folderId ↔ s.Assigned current.id folderId := by
    unfold assignmentRows Assigned
    simp only [List.mem_map, List.mem_filter, decide_eq_true_eq]
    constructor
    · rintro ⟨r, ⟨hr, hhost⟩, hfol⟩
      exact ⟨r, hr, hhost, hfol⟩
    · rintro ⟨r, hr, hhost, hfol⟩
      exact ⟨r, ⟨hr, hhost⟩, hfol⟩
  rw [hown]
  rfl

theorem detected_of_enriched (hpeer : peer ∈ s.enriched env current) : ∃ detected ∈ s.detectLanPeers env current,
    peer.peerHostId = detected.peerHostId ∧ peer.role = ConfigRoutes.pickPeerRole current.id peer.peerHostId ∧
      peer.peerHostId ≠ current.id := by
  obtain ⟨detected, hdet, rfl⟩ := List.mem_map.1 hpeer
  refine ⟨detected, hdet, rfl, ?_⟩
  obtain ⟨row, -, hrow⟩ := List.mem_filterMap.1 hdet
  unfold ConfigEnv.peerOf at hrow
  split at hrow
  · cases hrow
  rename_i ho
  obtain ⟨lanIp, -, rfl⟩ := Option.map_eq_some_iff.1 hrow
  exact ⟨rfl, fun heq => ho (.inl heq)⟩

theorem enriched_of_detected (hpeer : peer ∈ s.detectLanPeers env current) :
    ∃ entry ∈ s.enriched env current, entry.peerHostId = peer.peerHostId :=
  ⟨_, List.mem_map_of_mem hpeer, rfl⟩

theorem pickPeerRole_opposite {a b : String} (h : a ≠ b) :
    OppositeRoles (ConfigRoutes.pickPeerRole a b) (ConfigRoutes.pickPeerRole b a) := by
  unfold ConfigRoutes.pickPeerRole
  rcases lt_or_gt_of_ne (utf16_injective.ne h) with hlt | hgt
  · rw [if_pos hlt, if_neg (lt_asymm hlt)]
    exact .inl ⟨rfl, rfl⟩
  · rw [if_neg (lt_asymm hgt), if_pos hgt]
    exact .inr ⟨rfl, rfl⟩

end ConfigServer

/-- The lists of a host are exact just when it shares with all its neighbours alike; the roles are opposite anyway. -/
theorem peer_lists_iff {β : Type} (env : ConfigEnv β) (s : ConfigServer β) (hostId : String) :
    s.PeersExact env hostId ↔ s.SharesAlike env hostId := by
  constructor
  · intro hex current hcur peer hpeer peer' hpeer' folderId hown hsh
    have hid := ConfigServer.host_id hcur
    obtain ⟨entry, he, hsame⟩ := ConfigServer.enriched_of_detected hpeer
    have hlist := (ConfigServer.mem_folderIds_enriched he folderId).2 ⟨hid ▸ hown, peer', hpeer', hsh⟩
    have hboth := (hex.folders current hcur entry he folderId).1 hlist
    rw [hsame] at hboth
    exact hboth.2
  · intro hal
    constructor
    · intro current hcur peer hpeer folderId
      have hid := ConfigServer.host_id hcur
      obtain ⟨detected, hdet, hsame, -, -⟩ := ConfigServer.detected_of_enriched hpeer
      rw [ConfigServer.mem_folderIds_enriched hpeer, hid]
      constructor
      · rintro ⟨hown, peer', hpeer', hsh⟩
        rw [hsame]
        exact ⟨hown, hal current hcur detected hdet peer' hpeer' folderId hown hsh⟩
      · rintro ⟨hown, hsh⟩
        exact ⟨hown, detected, hdet, hsame ▸ hsh⟩
    · intro current hcur peer hpeer other ho back hback hbackId
      have hid := ConfigServer.host_id hcur
      have hid' := ConfigServer.host_id ho
      obtain ⟨-, -, -, hrole, hne⟩ := ConfigServer.detected_of_enriched hpeer
      obtain ⟨-, -, -, hrole', -⟩ := ConfigServer.detected_of_enriched hback
      rw [hrole, hrole', hbackId, hid', hid]
      exact ConfigServer.pickPeerRole_opposite (hid ▸ Ne.symm hne)

def threeNeighbours : ConfigServer Unit where
  hosts := [
    { id := "a", hostname := "a", lanIp := some "192.168.1.2", status := "online" },
    { id := "b", hostname := "b", lanIp := some "192.168.1.3", status := "online" },
    { id := "c", hostname := "c", lanIp := some "192.168.1.4", status := "online" }]
  folders := [{ id := "f", name := "photos", type := "sync" }, { id := "g", name := "letters", type := "sync" }]
  assignments := [
    { id := "1", folderId := "f", hostId := "a", role := "both", localPath := "/photos" },
    { id := "2", folderId := "g", hostId := "a", role := "both", localPath := "/letters" },
    { id := "3", folderId := "f", hostId := "b", role := "both", localPath := "/photos" },
    { id := "4", folderId := "g", hostId := "c", role := "both", localPath := "/letters" }]

/-- Both of its peers list both folders. -/
theorem union_for_every_peer :
    ((threeNeighbours.host "a").map fun current =>
      (threeNeighbours.enriched exampleConfigEnv current).map fun peer => (peer.peerHostId, peer.folderIds)) =
        some [("b", ["f", "g"]), ("c", ["f", "g"])] ∧
      ¬ threeNeighbours.PeersExact exampleConfigEnv "a" := by
  refine ⟨by decide +kernel, fun hex => ?_⟩
  have hlist : ∃ current ∈ threeNeighbours.host "a", ∃ peer ∈ threeNeighbours.enriched exampleConfigEnv current,
      peer.peerHostId = "b" ∧ "g" ∈ peer.folderIds := by decide +kernel
  obtain ⟨current, hcur, peer, hpeer, hid, hfol⟩ := hlist
  obtain ⟨r, hr, hhost, hfol'⟩ := ((hex.folders current hcur peer hpeer "g").1 hfol).2
  have hnone : ∀ r ∈ threeNeighbours.assignments, r.hostId = "b" → r.folderId ≠ "g" := by decide +kernel
  exact hnone r hr (hhost.trans hid) hfol'

end LamaSync
