import Xsan.Storage.VolumeManager

/-!
# Sizing and replica placement in `xsan_volume_create`

`xsan_volume_create` (volume_manager.c:446-508) rounds the requested size up
to whole logical blocks in `uint64_t`, puts the first replica on the local
node and the others on the known nodes that are not the local one, in the
order `xsan_cluster_get_all_known_nodes` returns them, until `FTT` remote
replicas are placed. Nothing in between removes a node that is listed twice.

Results:
* `newVolumeRecord_size`: while `size + bs - 1` does not wrap, the volume has
  at least one block and its size is the request rounded up to a block.
* `volume_create_size_wraps`: a request within a block of `2 ^ 64` wraps to no
  block at all, and the create succeeds with a volume of size `0`.
* `assignRemoteReplicas_run`: the placement loop takes the first remote known
  nodes, as many as `FTT` asks for and the list has.
* `placeReplicas_newVolumeRecord`: after placement `FTT` is the smaller of the
  request and the number of remote entries, duplicates counted, and the
  replicas are the local node and the first `FTT` remote entries; with
  distinct known ids the replica ids are distinct.
* `volume_create_places_duplicate_node`: a remote node listed twice takes two
  replica slots and counts twice towards `FTT`.
-/

namespace Xsan

/-! ## Sizing -/

@[simp] theorem newVolumeRecord_numBlocks (id : ℕ) (name : List Char) (sizeBytes groupId bs : ℕ)
    (thin : Bool) (ftt : ℕ) :
    (newVolumeRecord id name sizeBytes groupId bs thin ftt).numBlocks =
      (sizeBytes + bs - 1) % 2 ^ 64 / bs := by
  unfold newVolumeRecord
  dsimp only
  split_ifs <;> rfl

@[simp] theorem newVolumeRecord_sizeBytes (id : ℕ) (name : List Char) (sizeBytes groupId bs : ℕ)
    (thin : Bool) (ftt : ℕ) :
    (newVolumeRecord id name sizeBytes groupId bs thin ftt).sizeBytes =
      (sizeBytes + bs - 1) % 2 ^ 64 / bs * bs % 2 ^ 64 := by
  unfold newVolumeRecord
  dsimp only
  split_ifs <;> rfl

/-- While the round-up `size + bs - 1` fits in `uint64_t`, the volume has at
least one block, and its size is the request rounded up to a whole block:
at least the request and less than a block more. -/
theorem newVolumeRecord_size (id : ℕ) (name : List Char) (sizeBytes groupId bs : ℕ) (thin : Bool)
    (ftt : ℕ) (hsize : 0 < sizeBytes) (hbs : 0 < bs) (hfit : sizeBytes + bs - 1 < 2 ^ 64) :
    let vol := newVolumeRecord id name sizeBytes groupId bs thin ftt
    1 ≤ vol.numBlocks ∧ vol.sizeBytes = vol.numBlocks * bs ∧
      sizeBytes ≤ vol.sizeBytes ∧ vol.sizeBytes < sizeBytes + bs := by
  dsimp only
  rw [newVolumeRecord_sizeBytes, newVolumeRecord_numBlocks, Nat.mod_eq_of_lt hfit]
  -- the round-up is `bs * n + r` with `r < bs`
  have hdiv := Nat.div_add_mod (sizeBytes + bs - 1) bs
  have hr := Nat.mod_lt (sizeBytes + bs - 1) hbs
  have hmul : (sizeBytes + bs - 1) / bs * bs = bs * ((sizeBytes + bs - 1) / bs) := Nat.mul_comm _ _
  rw [hmul, Nat.mod_eq_of_lt (by omega)]
  generalize (sizeBytes + bs - 1) / bs = n at *
  generalize (sizeBytes + bs - 1) % bs = r at *
  rcases n with _ | n
  · omega
  · rw [Nat.mul_succ] at hdiv ⊢
    exact ⟨by omega, rfl, by omega, by omega⟩

/-- A 1000-byte request on 512-byte blocks takes two blocks, 1024 bytes. -/
theorem newVolumeRecord_size_unaligned :
    0 < 1000 ∧ 0 < 512 ∧ 1000 + 512 - 1 < 2 ^ 64 ∧
      let vol := newVolumeRecord 1 ['v'] 1000 7 512 true 0
      1 ≤ vol.numBlocks ∧ vol.sizeBytes = vol.numBlocks * 512 ∧
        1000 ≤ vol.sizeBytes ∧ vol.sizeBytes < 1000 + 512 :=
  ⟨by decide, by decide, by norm_num,
    newVolumeRecord_size 1 ['v'] 1000 7 512 true 0 (by decide) (by decide) (by norm_num)⟩

/-- A request within a block of `2 ^ 64`: the round-up wraps, the volume has
no block and size `0`, and the create succeeds and stores it so, with an
allocation record of no logical block. -/
theorem volume_create_size_wraps :
    (xsanVolumeCreate UndefinedCodes.fresh emptyVolumeManager (some ['w']) (2 ^ 64 - 1) 7 512 true 0
        (okCreateEnv 1)).2 = xsanOk ∧
    ((xsanVolumeCreate UndefinedCodes.fresh emptyVolumeManager (some ['w']) (2 ^ 64 - 1) 7 512 true 0
        (okCreateEnv 1)).1.managedVolumes.map fun v => (v.numBlocks, v.sizeBytes)) = [(0, 0)] ∧
    (xsanVolumeCreate UndefinedCodes.fresh emptyVolumeManager (some ['w']) (2 ^ 64 - 1) 7 512 true 0
        (okCreateEnv 1)).1.mdStore (.volAlloc 1) =
      some (.allocMeta ⟨1, 7, 0, 0, 512, []⟩) := by
  decide +kernel

/-! ## The placement loop -/

/-- The known nodes other than the local one, in the order they are listed. -/
def remoteNodes (localId : ℕ) (nodes : List XsanNode) : List XsanNode :=
  nodes.filter (·.id ≠ localId)

/-- The node ids of the first `n` replica slots. -/
def replicaIds (vol : XsanVolume) (n : ℕ) : List ℕ :=
  (vol.replicaNodes.map (·.nodeId)).take n

theorem take_succ_set {α : Type} (l : List α) (i : ℕ) (a : α) (h : i < l.length) :
    (l.set i a).take (i + 1) = l.take i ++ [a] := by
  rw [List.take_add_one, List.getElem?_set_self h, List.take_set,
    List.set_eq_of_length_le (List.length_take_le i l)]
  rfl

/-- Filling slot `k + 1` extends the ids of the first `k + 1` slots by the
new node's. -/
theorem replicaIds_set (vol : XsanVolume) (k : ℕ) (slot : XsanReplicaLocation)
    (hk : k + 1 < vol.replicaNodes.length) :
    replicaIds { vol with replicaNodes := vol.replicaNodes.set (k + 1) slot } (k + 2) =
      replicaIds vol (k + 1) ++ [slot.nodeId] := by
  unfold replicaIds
  rw [List.map_set, take_succ_set _ _ _ (by simpa using hk)]

/-- The slot the loop fills for a remote node (volume_manager.c:493-497). -/
def remoteSlot (vol : XsanVolume) (k : ℕ) (node : XsanNode) : XsanReplicaLocation :=
  { vol.replicaNodes.getD (k + 1) .zero with
    nodeId := node.id
    nodeIpAddr :=
      (xsanStrcpySafe (vol.replicaNodes.getD (k + 1) .zero).nodeIpAddr node.storageIp inet6Addrstrlen).1
    nodeCommPort := node.storagePort
    state := .initializing }

/-- One step of the loop on a remote node, while fewer than `FTT` are placed. -/
theorem assignRemoteReplicas_cons_remote {localId k : ℕ} {node : XsanNode} (nodes : List XsanNode)
    {vol : XsanVolume} (hlt : k < vol.ftt) (hloc : node.id ≠ localId)
    (hslot : k + 1 < xsanMaxReplicas) :
    assignRemoteReplicas localId (node :: nodes) (vol, k) =
      assignRemoteReplicas localId nodes
        ({ vol with replicaNodes := vol.replicaNodes.set (k + 1) (remoteSlot vol k node) }, k + 1) := by
  rw [assignRemoteReplicas, if_pos hlt, if_pos ⟨hloc, hslot⟩]
  rfl

/-- A run of the placement loop from `remote_assigned = k`: it places the
first remote nodes in slots `k + 1, k + 2, …`, one for each until `FTT` are
placed or the list ends, and changes nothing else the proofs read. The
induction follows the list, one node a step; the slot bound never binds,
since `FTT < XSAN_MAX_REPLICAS`. -/
theorem assignRemoteReplicas_run (localId : ℕ) (nodes : List XsanNode) (vol : XsanVolume) (k : ℕ)
    (hftt : vol.ftt < xsanMaxReplicas) (hk : k ≤ vol.ftt)
    (hlen : vol.replicaNodes.length = xsanMaxReplicas) :
    let r := assignRemoteReplicas localId nodes (vol, k)
    r.2 = k + min (vol.ftt - k) (remoteNodes localId nodes).length ∧
      r.1.ftt = vol.ftt ∧ r.1.actualReplicaCount = vol.actualReplicaCount ∧
      replicaIds r.1 (r.2 + 1) =
        replicaIds vol (k + 1) ++ ((remoteNodes localId nodes).take (r.2 - k)).map (·.id) := by
  induction nodes generalizing vol k with
  | nil => simp [assignRemoteReplicas, remoteNodes]
  | cons node nodes ih =>
    dsimp only
    by_cases hlt : k < vol.ftt
    · by_cases hloc : node.id = localId
      · -- the local node is passed over
        have hrem : remoteNodes localId (node :: nodes) = remoteNodes localId nodes := by
          simp [remoteNodes, hloc]
        rw [assignRemoteReplicas, if_pos hlt, if_neg (by simp [hloc]), hrem]
        exact ih vol k hftt hk hlen
      · -- a remote node takes slot `k + 1`
        have hrem : remoteNodes localId (node :: nodes) = node :: remoteNodes localId nodes := by
          simp [remoteNodes, hloc]
        have hslot : k + 1 < xsanMaxReplicas := by omega
        rw [assignRemoteReplicas_cons_remote nodes hlt hloc hslot, hrem]
        obtain ⟨h2, hf, ha, hids⟩ :=
          ih { vol with replicaNodes := vol.replicaNodes.set (k + 1) (remoteSlot vol k node) } (k + 1)
            hftt hlt (by simp [hlen])
        dsimp only at h2 hf ha hids
        refine ⟨by rw [h2, List.length_cons]; omega, hf, ha, ?_⟩
        rw [hids, replicaIds_set _ _ _ (by omega), h2]
        -- one more remote node is taken than after the step
        have hcount : k + 1 + min (vol.ftt - (k + 1)) (remoteNodes localId nodes).length - k =
            min (vol.ftt - (k + 1)) (remoteNodes localId nodes).length + 1 := by omega
        rw [hcount, List.take_succ_cons, List.map_cons, Nat.add_sub_cancel_left, List.append_assoc]
        rfl
    · -- `FTT` remote replicas are placed: the loop stops
      rw [assignRemoteReplicas, if_neg hlt]
      have hk' : k = vol.ftt := by omega
      simp [hk']

/-! ## Placement -/

theorem newVolumeRecord_of_lt {id : ℕ} {name : List Char} {sizeBytes groupId bs : ℕ} {thin : Bool}
    {ftt : ℕ} (hftt : ftt < xsanMaxReplicas) :
    (newVolumeRecord id name sizeBytes groupId bs thin ftt).ftt = ftt ∧
      (newVolumeRecord id name sizeBytes groupId bs thin ftt).actualReplicaCount = ftt + 1 ∧
      (newVolumeRecord id name sizeBytes groupId bs thin ftt).replicaNodes =
        List.replicate xsanMaxReplicas .zero := by
  unfold newVolumeRecord
  dsimp only
  rw [if_neg (by omega)]
  exact ⟨rfl, rfl, rfl⟩

/-- The local node and the first `m` remote entries have distinct ids when
the known ids are distinct. -/
theorem nodup_local_remote (localId : ℕ) (nodes : List XsanNode) (m : ℕ)
    (h : (nodes.map (·.id)).Nodup) :
    (localId :: ((remoteNodes localId nodes).take m).map (·.id)).Nodup := by
  have hsub : (((remoteNodes localId nodes).take m).map (·.id)).Sublist (nodes.map (·.id)) :=
    ((List.take_sublist _ _).trans List.filter_sublist).map _
  refine List.nodup_cons.mpr ⟨fun hmem => ?_, h.sublist hsub⟩
  obtain ⟨node, hnode, hid⟩ := List.mem_map.mp hmem
  have := List.of_mem_filter (List.mem_of_mem_take hnode)
  simp_all

/-- The loop part of placement, from a record whose slot 0 holds the local
node (volume_manager.c:482-508). -/
theorem placeLoop_spec (env : CreateEnv) (vol1 vol' : XsanVolume) (ftt : ℕ)
    (hftt : ftt < xsanMaxReplicas) (hf : vol1.ftt = ftt) (ha : vol1.actualReplicaCount = ftt + 1)
    (hlen : vol1.replicaNodes.length = xsanMaxReplicas)
    (h0 : replicaIds vol1 1 = [env.localNodeInfo.2.id]) (hknown : env.knownNodes.1 = xsanOk)
    (h : (if vol1.actualReplicaCount > 1 then
          if env.knownNodes.1 ≠ xsanOk then Except.ok { vol1 with actualReplicaCount := 1, ftt := 0 }
          else
            let r := assignRemoteReplicas env.localNodeInfo.2.id env.knownNodes.2 (vol1, 0)
            if r.2 < r.1.ftt then .ok { r.1 with actualReplicaCount := r.2 + 1, ftt := r.2 }
            else .ok r.1
        else (.ok vol1 : Except ℤ XsanVolume)) = .ok vol') :
    let remote := remoteNodes env.localNodeInfo.2.id env.knownNodes.2
    vol'.ftt = min ftt remote.length ∧ vol'.actualReplicaCount = vol'.ftt + 1 ∧
      replicaIds vol' vol'.actualReplicaCount =
        env.localNodeInfo.2.id :: (remote.take vol'.ftt).map (·.id) := by
  obtain ⟨h2, hf', ha', hids⟩ :=
    assignRemoteReplicas_run env.localNodeInfo.2.id env.knownNodes.2 vol1 0 (hf ▸ hftt)
      (Nat.zero_le _) hlen
  simp only [Nat.sub_zero, Nat.zero_add, hf] at h2 hf' hids
  rw [h0] at hids
  by_cases hmore : vol1.actualReplicaCount > 1
  · rw [if_pos hmore, if_neg (not_not.mpr hknown)] at h
    dsimp only at h
    split_ifs at h with hshort
    · -- fewer remote nodes than `FTT`: both drop to what was placed
      cases h
      exact ⟨h2, rfl, hids⟩
    · cases h
      have hmin : min ftt (remoteNodes env.localNodeInfo.2.id env.knownNodes.2).length = ftt := by
        omega
      refine ⟨by rw [hf', hmin], by rw [ha', hf', ha], ?_⟩
      rw [h2, hmin] at hids
      rw [ha', ha, hf']
      exact hids
  · -- `FTT = 0`: only the local node
    rw [if_neg hmore] at h
    cases h
    have hzero : ftt = 0 := by omega
    refine ⟨by rw [hf, hzero]; rfl, by rw [ha, hf], ?_⟩
    simp only [ha, hf, hzero, Nat.zero_add, h0]
    rfl

/-- What placement does to a new record whose requested `FTT` passed the
parameter check, when the local node is known: `FTT` becomes the smaller of
the request and the number of remote entries of the known-node list,
duplicates counted, and the replicas are the local node followed by the
first `FTT` remote entries. So the replica ids are distinct when the known
ids are. -/
theorem placeReplicas_newVolumeRecord {env : CreateEnv} {id : ℕ} {name : List Char}
    {sizeBytes groupId bs : ℕ} {thin : Bool} {ftt : ℕ} {vol' : XsanVolume}
    (hftt : ftt < xsanMaxReplicas) (hknown : env.knownNodes.1 = xsanOk)
    (h : placeReplicas env (newVolumeRecord id name sizeBytes groupId bs thin ftt) = .ok vol') :
    let remote := remoteNodes env.localNodeInfo.2.id env.knownNodes.2
    vol'.ftt = min ftt remote.length ∧ vol'.actualReplicaCount = vol'.ftt + 1 ∧
      replicaIds vol' vol'.actualReplicaCount =
        env.localNodeInfo.2.id :: (remote.take vol'.ftt).map (·.id) ∧
      ((env.knownNodes.2.map (·.id)).Nodup → (replicaIds vol' vol'.actualReplicaCount).Nodup) := by
  obtain ⟨hf, ha, hr⟩ := @newVolumeRecord_of_lt id name sizeBytes groupId bs thin ftt hftt
  unfold placeReplicas at h
  rw [if_neg (fun hst => by rw [if_pos hst] at h; cases h)] at h
  dsimp -proj only at h
  have key := placeLoop_spec env _ vol' ftt hftt ?hf ?ha ?hlen ?h0 hknown h
  · obtain ⟨h1, h2, h3⟩ := key
    exact ⟨h1, h2, h3, fun hnd => h3 ▸ nodup_local_remote _ _ _ hnd⟩
  case hf => exact hf
  case ha => exact ha
  case hlen => simp [hr]
  case h0 => simp [replicaIds, hr, xsanMaxReplicas]

/-- A known-node list naming node `2` twice, as a seed list may. -/
def duplicateNodeEnv : CreateEnv :=
  { okCreateEnv 1 with
    knownNodes := (xsanOk, [⟨2, ['1', '0', '.', '0', '.', '0', '.', '2'], 8080⟩,
      ⟨2, ['1', '0', '.', '0', '.', '0', '.', '2'], 8080⟩]) }

/-- With node `2` listed twice and `FTT = 2` asked for, the create succeeds
with `FTT = 2` and three replicas, two of them on node `2`: one remote node,
counted twice. -/
theorem volume_create_places_duplicate_node :
    (xsanVolumeCreate UndefinedCodes.fresh emptyVolumeManager (some ['d']) 4096 7 512 true 2
        duplicateNodeEnv).2 = xsanOk ∧
    ((xsanVolumeCreate UndefinedCodes.fresh emptyVolumeManager (some ['d']) 4096 7 512 true 2
        duplicateNodeEnv).1.managedVolumes.map
          fun v => (v.ftt, v.actualReplicaCount, replicaIds v v.actualReplicaCount)) = [(2, 3, [1, 2, 2])] := by
  decide +kernel

/-- Placement of the new record of that create: `FTT` stays 2, since node `2`
is counted twice, and the replicas are nodes `1, 2, 2`. -/
theorem placeReplicas_newVolumeRecord_duplicate :
    ∃ vol', 2 < xsanMaxReplicas ∧ duplicateNodeEnv.knownNodes.1 = xsanOk ∧
      placeReplicas duplicateNodeEnv (newVolumeRecord 1 ['d'] 4096 7 512 true 2) = .ok vol' ∧
      let remote := remoteNodes duplicateNodeEnv.localNodeInfo.2.id duplicateNodeEnv.knownNodes.2
      vol'.ftt = min 2 remote.length ∧ vol'.actualReplicaCount = vol'.ftt + 1 ∧
        replicaIds vol' vol'.actualReplicaCount =
          duplicateNodeEnv.localNodeInfo.2.id :: (remote.take vol'.ftt).map (·.id) ∧
        ((duplicateNodeEnv.knownNodes.2.map (·.id)).Nodup → (replicaIds vol' vol'.actualReplicaCount).Nodup) := by
  obtain ⟨vol', h⟩ : ∃ vol', placeReplicas duplicateNodeEnv (newVolumeRecord 1 ['d'] 4096 7 512 true 2) =
      .ok vol' := ⟨_, rfl⟩
  exact ⟨vol', by decide, rfl, h, placeReplicas_newVolumeRecord (by decide) rfl h⟩

end Xsan
