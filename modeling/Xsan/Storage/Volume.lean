import Xsan.Common.Error
import Mathlib.Data.List.Basic

/-!
# Volumes, their replicas and the derived volume state

The per-volume records of `storage/volume_manager.c` (the fields of
`xsan_volume_t` that the manager reads and writes), the two string helpers
that `xsan_volume_create` applies to a volume's name, and the two places that
compute a volume's state from the states of its replicas:
`_xsan_volume_update_overall_state` (volume_manager.c:287-316) and the inline
computation at the end of `xsan_volume_create` (volume_manager.c:559-564).

A UUID is a natural number, the null UUID `0`. A C string is the list of its
characters before the terminating NUL.

Results:
* `strncmp_eq_zero_iff`: on strings without NUL, `strncmp a b n = 0` exactly
  when `a` and `b` agree on their first `n` characters.
* `xsanStrcpySafe_fst`: the copy is the first `dest_size - 1` characters.
-/

namespace Xsan

/-- `XSAN_MAX_REPLICAS` (src/include/xsan_storage.h). -/
def xsanMaxReplicas : ℕ := 3
/-- `XSAN_MAX_NAME_LEN` (include/xsan_types.h), the one `volume_manager.c`
sees. -/
def xsanMaxNameLen : ℕ := 256
/-- `INET6_ADDRSTRLEN`. -/
def inet6Addrstrlen : ℕ := 46
/-- `XSAN_MAX_EXTENTS_PER_VOLUME` (src/include/xsan_storage.h). -/
def xsanMaxExtentsPerVolume : ℕ := 8

/-- `xsan_storage_state_t`. -/
inductive XsanStorageState
  | unknown
  | initializing
  | online
  | offline
  | degraded
  | failed
  | missing
  | rebuilding
  | maintenance
deriving DecidableEq, Repr

/-- `xsan_replica_location_t`. -/
structure XsanReplicaLocation where
  nodeId : ℕ
  nodeIpAddr : List Char
  nodeCommPort : ℕ
  state : XsanStorageState
  lastSuccessfulContactTimeUs : ℕ
deriving DecidableEq, Repr

/-- A replica slot as `memset` leaves it. -/
def XsanReplicaLocation.zero : XsanReplicaLocation :=
  { nodeId := 0, nodeIpAddr := [], nodeCommPort := 0, state := .unknown,
    lastSuccessfulContactTimeUs := 0 }

/-- `xsan_volume_extent_mapping_t`. -/
structure XsanVolumeExtentMapping where
  diskId : ℕ
  startBlockOnDisk : ℕ
  numBlocksOnDisk : ℕ
  volumeStartLba : ℕ
deriving DecidableEq, Repr

/-- `xsan_volume_t`; `replicaNodes` is the array `replica_nodes`, of
`XSAN_MAX_REPLICAS` slots. -/
structure XsanVolume where
  id : ℕ
  name : List Char
  sizeBytes : ℕ
  blockSizeBytes : ℕ
  numBlocks : ℕ
  state : XsanStorageState
  sourceGroupId : ℕ
  thinProvisioned : Bool
  allocatedBytes : ℕ
  ftt : ℕ
  actualReplicaCount : ℕ
  replicaNodes : List XsanReplicaLocation
deriving DecidableEq, Repr

/-! ## The string helpers -/

/-- `xsan_strcpy_safe` (utils/string_utils.c:20-33): the new contents of
`dest` and the number of characters copied. -/
def xsanStrcpySafe (dest src : List Char) (destSize : ℕ) : List Char × ℕ :=
  if destSize = 0 then (dest, 0)
  else
    let copyLen := if src.length < destSize - 1 then src.length else destSize - 1
    (src.take copyLen, copyLen)

theorem xsanStrcpySafe_fst {dest src : List Char} {destSize : ℕ} (h : 0 < destSize) :
    (xsanStrcpySafe dest src destSize).1 = src.take (destSize - 1) := by
  unfold xsanStrcpySafe
  rw [if_neg (by omega)]
  dsimp only
  split_ifs with hlt
  · rw [List.take_length, List.take_of_length_le (by omega)]
  · rfl

/-- `strncmp` of the C library, comparing characters as `unsigned char`. -/
def strncmp : List Char → List Char → ℕ → ℤ
  | _, _, 0 => 0
  | [], [], _ + 1 => 0
  | [], c :: _, _ + 1 => -(c.toNat : ℤ)
  | c :: _, [], _ + 1 => c.toNat
  | a :: as, b :: bs, n + 1 => if a = b then strncmp as bs n else (a.toNat : ℤ) - b.toNat

/-- A character is not NUL exactly when its code is not `0`. -/
theorem toNat_ne_zero_of_ne_nul {c : Char} (h : c ≠ '\x00') : c.toNat ≠ 0 := by
  intro h0
  exact h (Char.ext (UInt32.toNat_inj.mp (by simpa using h0)))

/-- On strings without NUL, `strncmp` returns `0` exactly on equal prefixes
of length `n`. -/
theorem strncmp_eq_zero_iff {a b : List Char} {n : ℕ} (ha : ∀ c ∈ a, c ≠ '\x00')
    (hb : ∀ c ∈ b, c ≠ '\x00') : strncmp a b n = 0 ↔ a.take n = b.take n := by
  induction a generalizing b n with
  | nil =>
    cases n with
    | zero => simp [strncmp]
    | succ n =>
      cases b with
      | nil => simp [strncmp]
      | cons c bs =>
        have hc := toNat_ne_zero_of_ne_nul (hb c (by simp))
        simp [strncmp]
        omega
  | cons x as ih =>
    cases n with
    | zero => simp [strncmp]
    | succ n =>
      cases b with
      | nil =>
        have hx := toNat_ne_zero_of_ne_nul (ha x (by simp))
        simp [strncmp]
        omega
      | cons y bs =>
        by_cases hxy : x = y
        · subst hxy
          rw [strncmp, if_pos rfl, ih (fun c hc => ha c (by simp [hc]))
            (fun c hc => hb c (by simp [hc]))]
          simp
        · have hne : (x.toNat : ℤ) ≠ y.toNat := by
            intro h
            exact hxy (Char.ext (UInt32.toNat_inj.mp (by exact_mod_cast h)))
          rw [strncmp, if_neg hxy]
          simp [hxy]
          omega

/-! ## The volume state derived from the replica states -/

/-- The `ONLINE` replicas among the first `actual_replica_count` slots. -/
def onlineReplicas (vol : XsanVolume) : ℕ :=
  (vol.replicaNodes.take vol.actualReplicaCount).countP (·.state = .online)

/-- `required_online_for_ok` of `_xsan_volume_update_overall_state`: `FTT + 1`
in `uint32_t`, lowered to `actual_replica_count` when that is smaller and not
zero. -/
def requiredOnlineForOk (ftt actualReplicaCount : ℕ) : ℕ :=
  let required := (ftt + 1) % 2 ^ 32
  if required > actualReplicaCount ∧ actualReplicaCount > 0 then actualReplicaCount
  else required

/-- The state `_xsan_volume_update_overall_state` gives a volume with `online`
replicas online when `required` are needed. -/
def deriveVolumeState (online required : ℕ) : XsanStorageState :=
  if online ≥ required then .online
  else if online > 0 then .degraded
  else .offline

/-- `_xsan_volume_update_overall_state` (volume_manager.c:287-316) on the
record: the volume with its state rewritten, and whether the state changed
(the caller then saves the record). -/
def xsanVolumeUpdateOverallState (vol : XsanVolume) : XsanVolume × Bool :=
  let newState :=
    deriveVolumeState (onlineReplicas vol) (requiredOnlineForOk vol.ftt vol.actualReplicaCount)
  ({ vol with state := newState }, newState ≠ vol.state)

/-- The state a volume's replicas call for. -/
def derivedState (vol : XsanVolume) : XsanStorageState :=
  (xsanVolumeUpdateOverallState vol).1.state

/-- The state `xsan_volume_create` computes inline (volume_manager.c:559-564)
once the replica slots, `FTT` and `actual_replica_count` are final. -/
def volumeCreateInitialState (vol : XsanVolume) : XsanStorageState :=
  let onlineReplicasInit := if (vol.replicaNodes.getD 0 .zero).state = .online then 1 else 0
  if vol.actualReplicaCount = 1 ∧ onlineReplicasInit = 1 then .online
  else if onlineReplicasInit ≥ vol.ftt + 1 then .online
  else if onlineReplicasInit > 0 then .degraded
  else .offline

end Xsan
