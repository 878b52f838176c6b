import Xsan.Storage.Volume
import Mathlib.Data.List.Basic

/-!
# How the I/O paths reach volumes and replicas

The replicated write and the replica read of `storage/volume_manager.c` look a
volume up by id with `xsan_volume_get_by_id`, write replica states through the
pointer it returns, find a remote replica's slot by its node id, and send
requests with `xsan_node_comm_send_msg`. This module holds those pieces.

`xsan_volume_get_by_id` is declared (src/include/xsan_volume_manager.h:81-88)
but defined nowhere in the tree. It is a parameter, `VolumeLookup`, that
carries what its header says: the pointer returned is to a managed volume
with the id, and `NULL` means no managed volume has it. `VolumeLookup.first`,
the first managed volume with the id, is one such lookup.

Results:
* `VolumeLookup.find_eq_first`: on volumes with distinct ids the contract
  leaves one lookup, `VolumeLookup.first`.
* `updateVolumeById_state`: writing replica slots through the lookup keeps
  every volume's state.
-/

namespace Xsan

/-- `xsan_volume_get_by_id`, as its header describes it: the position, in the
managed list, of the volume the returned pointer points to, which has the id;
`none` for `NULL`, when no managed volume has the id. -/
structure VolumeLookup where
  find : List XsanVolume → ℕ → Option ℕ
  find_some {volumes : List XsanVolume} {volumeId k : ℕ} :
    find volumes volumeId = some k → ∃ v, volumes[k]? = some v ∧ v.id = volumeId
  find_none {volumes : List XsanVolume} {volumeId : ℕ} :
    find volumes volumeId = none → ∀ v ∈ volumes, v.id ≠ volumeId

/-- The lookup that returns the first managed volume with the id. -/
def VolumeLookup.first : VolumeLookup where
  find volumes volumeId := volumes.findIdx? (·.id = volumeId)
  find_some h := by
    obtain ⟨hk, hid, -⟩ := List.findIdx?_eq_some_iff_getElem.mp h
    exact ⟨_, List.getElem?_eq_getElem hk, of_decide_eq_true hid⟩
  find_none h v hv := of_decide_eq_false (List.findIdx?_eq_none_iff.mp h v hv)

section Lookup

variable (lookup : VolumeLookup)

/-- `xsan_volume_get_by_id`: the volume the returned pointer points to. -/
def xsanVolumeGetById (volumes : List XsanVolume) (volumeId : ℕ) : Option XsanVolume :=
  (lookup.find volumes volumeId).bind fun k => volumes[k]?

/-- Rewrite the volume `xsan_volume_get_by_id` finds, through its pointer. -/
def updateVolumeById (volumes : List XsanVolume) (volumeId : ℕ) (f : XsanVolume → XsanVolume) :
    List XsanVolume :=
  match lookup.find volumes volumeId with
  | some k => volumes.modify k f
  | none => volumes

/-- On volumes with distinct ids the header's contract fixes the lookup: every
lookup that meets it finds what `VolumeLookup.first` finds, since at most one
position holds the id. -/
theorem VolumeLookup.find_eq_first {volumes : List XsanVolume} (hd : (volumes.map (·.id)).Nodup)
    (volumeId : ℕ) : lookup.find volumes volumeId = VolumeLookup.first.find volumes volumeId := by
  cases hk : lookup.find volumes volumeId with
  | none =>
    -- no volume has the id, so the search of the first one fails too
    refine (List.findIdx?_eq_none_iff.mpr fun v hv => ?_).symm
    exact decide_eq_false (lookup.find_none hk v hv)
  | some k =>
    obtain ⟨v, hv, hid⟩ := lookup.find_some hk
    obtain ⟨hklt, hvk⟩ := List.getElem?_eq_some_iff.mp hv
    refine (List.findIdx?_eq_some_iff_getElem.mpr ⟨hklt, by simp [hvk, hid], fun j hjk hj => ?_⟩).symm
    -- an earlier volume with the id would repeat an id of the list
    have hjlt : j < (volumes.map (·.id)).length := by rw [List.length_map]; omega
    have hklt' : k < (volumes.map (·.id)).length := by rwa [List.length_map]
    have hjid : (volumes.map (·.id))[j] = (volumes.map (·.id))[k] := by
      simp only [List.getElem_map, hvk, hid]
      exact of_decide_eq_true hj
    exact absurd ((hd.getElem_inj_iff).mp hjid) (by omega)

/-- Two managed volumes, ids `1` and `2`, with no replica slots. -/
def twoVolumes : List XsanVolume :=
  [1, 2].map fun id => ⟨id, [], 0, 512, 0, .online, 0, true, 0, 0, 1, []⟩

/-- On those two volumes a lookup meeting the contract finds id `2` at
position `1`. -/
theorem find_eq_first_two_volumes :
    (twoVolumes.map (·.id)).Nodup ∧ VolumeLookup.first.find twoVolumes 2 = some 1 := by
  have hd : (twoVolumes.map (·.id)).Nodup := by decide
  exact ⟨hd, (VolumeLookup.find_eq_first VolumeLookup.first hd 2).trans rfl⟩

/-- Writing through the lookup keeps what `g` reads of every volume when the
write does. -/
theorem updateVolumeById_map {β : Type} (g : XsanVolume → β) (volumes : List XsanVolume) (volumeId : ℕ)
    {f : XsanVolume → XsanVolume} (hf : ∀ v, g (f v) = g v) :
    (updateVolumeById lookup volumes volumeId f).map g = volumes.map g := by
  unfold updateVolumeById
  split
  · refine List.ext_getElem (by simp) fun j _ _ => ?_
    simp only [List.getElem_map, List.getElem_modify]
    split <;> simp [hf]
  · rfl

end Lookup

/-- Set the state of replica slot `i`. -/
def setReplicaState (vol : XsanVolume) (i : ℕ) (st : XsanStorageState) : XsanVolume :=
  { vol with replicaNodes := vol.replicaNodes.modify i fun r => { r with state := st } }

/-- Record a successful contact with replica slot `i` at `nowUs`. -/
def setReplicaContact (vol : XsanVolume) (i nowUs : ℕ) : XsanVolume :=
  { vol with
    replicaNodes := vol.replicaNodes.modify i fun r => { r with lastSuccessfulContactTimeUs := nowUs } }

/-- The search of the remote callbacks: the first slot `i` with
`1 ≤ i < actual_replica_count` whose node is `nodeId`. -/
def remoteReplicaIdx (vol : XsanVolume) (nodeId : ℕ) : Option ℕ :=
  (List.range' 1 (vol.actualReplicaCount - 1)).find? fun i =>
    (vol.replicaNodes.getD i .zero).nodeId = nodeId

/-- A remote replica that failed is marked `OFFLINE`, when the volume and the
slot are found and the slot is below `XSAN_MAX_REPLICAS`
(volume_manager.c:943-947, 966-970). -/
def markRemoteOffline (lookup : VolumeLookup) (volumes : List XsanVolume) (volumeId nodeId : ℕ) :
    List XsanVolume :=
  match xsanVolumeGetById lookup volumes volumeId with
  | none => volumes
  | some vol =>
    match remoteReplicaIdx vol nodeId with
    | some i =>
      if i < xsanMaxReplicas then updateVolumeById lookup volumes volumeId (setReplicaState · i .offline)
      else volumes
    | none => volumes

/-- What `xsan_node_comm_send_msg` (network/xsan_node_comm.c:417-477) does with
a message, as its caller sees it. -/
inductive SendOutcome
  /-- Refused before writing (module not initialised, bad arguments, no
  connection context, a send already in progress, header serialisation):
  the callback is not called. -/
  | rejected (err : ℤ)
  /-- `spdk_sock_writev` fails with `errno`: the callback gets `-errno`,
  then `xsan_error_from_errno(errno)` is returned. -/
  | writevFailed (errno : ℤ)
  /-- A partial write: the callback is stored and `XSAN_OK` returned. Nothing
  in the tree ever calls a stored callback. -/
  | partialWrite
  /-- The whole message is written: the callback gets `0`, then `XSAN_OK`. -/
  | sent
deriving DecidableEq, Repr

/-- The statuses `xsan_node_comm_send_msg` passes to the callback before it
returns, and what it returns; `fromErrno` is `xsan_error_from_errno`, which
no file of the tree defines. -/
def sendMsgResult (fromErrno : ℤ → ℤ) : SendOutcome → List ℤ × ℤ
  | .rejected err => ([], err)
  | .writevFailed errno => ([-errno], fromErrno errno)
  | .partialWrite => ([], xsanOk)
  | .sent => ([0], xsanOk)

/-- Writing replica slots through the lookup keeps every volume's state. -/
theorem updateVolumeById_state (lookup : VolumeLookup) (volumes : List XsanVolume) (volumeId : ℕ)
    {f : XsanVolume → XsanVolume} (hf : ∀ v, (f v).state = v.state) :
    (updateVolumeById lookup volumes volumeId f).map (·.state) = volumes.map (·.state) :=
  updateVolumeById_map lookup _ volumes volumeId hf

theorem markRemoteOffline_state (lookup : VolumeLookup) (volumes : List XsanVolume) (volumeId nodeId : ℕ) :
    (markRemoteOffline lookup volumes volumeId nodeId).map (·.state) = volumes.map (·.state) := by
  unfold markRemoteOffline
  split
  · rfl
  · split
    · split_ifs
      · exact updateVolumeById_state lookup _ _ fun _ => rfl
      · rfl
    · rfl

end Xsan
