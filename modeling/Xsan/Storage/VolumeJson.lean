import Xsan.Lib.JsonC
import Xsan.Lib.JsonText
import Xsan.Storage.VolumeManager

/-!
# The JSON records of volumes and allocation maps

`_xsan_volume_allocation_meta_to_json_string`,
`_xsan_json_string_to_volume_allocation_meta`, `_xsan_volume_to_json_string`
and `_xsan_json_string_to_volume` (storage/volume_manager.c:136-285): the text
the volume manager stores for an allocation map and for a volume, and the
reading of that text back into a record.

json-c's object API is a parameter (`JsonC.Api`), and so is SPDK's UUID text
(`UuidText`); the round trip rests on what json-c's getters and parser return
for what its constructors built (`JsonC.Api.Laws`) and on SPDK reading back the
UUIDs it writes (`UuidText.RoundTrips`). The `NULL` checks of the pointer
arguments are not modelled, and the allocations (`xsan_strdup`,
`XSAN_MALLOC`) are `Bool` inputs. A decoder starts from the record `memset`
leaves and writes each field whose member is present, cast as the source casts
it. `(xsan_storage_state_t)` of an `int` outside the enumeration gives a value
the type cannot hold; the model reads it as `XSAN_STORAGE_STATE_UNKNOWN`.

Integers go through json-c's signed types: a `uint32_t` through
`json_object_new_int` and `json_object_get_int`, a `uint64_t` through the
`int64` pair, and back to the field's type by a cast. Names and addresses are
copied back with `xsan_strcpy_safe` into their buffers. The decoders take the
length of the `replica_nodes` and `extents` arrays over the count fields, capped
at `XSAN_MAX_REPLICAS` and `XSAN_MAX_EXTENTS_PER_VOLUME`.

Results:
* `volumeToJson_eq`, `allocationMetaToJson_eq`: the objects the encoders build.
* `volumeOfJson_volumeToJson`, `allocationMetaOfJson_allocationMetaToJson`:
  decoding such an object gives back every stored field of a record that fits
  its C types and buffers, with the slots past the counts as `memset` leaves
  them (`XsanVolume.persisted`, `XsanVolumeAllocationMeta.persisted`).
* `volume_records_read_back`: reading a stored text back gives the record that
  was stored, for volumes and allocation maps, when both allocations succeed;
  otherwise `XSAN_ERROR_OUT_OF_MEMORY`.
-/

namespace Xsan

open JsonC

/-- SPDK's UUID text. -/
structure UuidText where
  /-- `spdk_uuid_fmt_lower`. -/
  fmtLower : ℕ → List Char
  /-- `spdk_uuid_parse`: `none` when it fails, leaving the UUID as it was. -/
  parse : List Char → Option ℕ

/-- What the round trip rests on from SPDK: the text of a UUID is a C string,
and it reads back as that UUID. -/
structure UuidText.RoundTrips (uuid : UuidText) : Prop where
  fmtLower_nul : ∀ u, '\x00' ∉ uuid.fmtLower u
  parse_fmtLower : ∀ u < 2 ^ 128, uuid.parse (uuid.fmtLower u) = some u

/-! ## Casts and `memset` -/

/-- The enumerators of `xsan_storage_state_t`, in the order of their values. -/
def storageStates : List XsanStorageState :=
  [.unknown, .initializing, .online, .offline, .degraded, .failed, .missing, .rebuilding,
    .maintenance]

/-- The `int` value of an enumerator. -/
def XsanStorageState.val (s : XsanStorageState) : ℕ := storageStates.idxOf s

/-- `(xsan_storage_state_t)i`. -/
def XsanStorageState.ofInt (i : ℤ) : XsanStorageState :=
  if 0 ≤ i then storageStates.getD i.toNat .unknown else .unknown

theorem XsanStorageState.val_lt (s : XsanStorageState) : s.val < 9 := by
  cases s <;> decide

theorem XsanStorageState.ofInt_val (s : XsanStorageState) : ofInt s.val = s := by
  cases s <;> rfl

/-- An extent slot as `memset` leaves it. -/
def XsanVolumeExtentMapping.zero : XsanVolumeExtentMapping := ⟨0, 0, 0, 0⟩

/-- A volume as `memset` leaves it. -/
def XsanVolume.zero : XsanVolume :=
  { id := 0, name := [], sizeBytes := 0, blockSizeBytes := 0, numBlocks := 0, state := .unknown,
    sourceGroupId := 0, thinProvisioned := false, allocatedBytes := 0, ftt := 0,
    actualReplicaCount := 0, replicaNodes := List.replicate xsanMaxReplicas .zero }

/-- An allocation map as `memset` leaves it. -/
def XsanVolumeAllocationMeta.zero : XsanVolumeAllocationMeta :=
  { volumeId := 0, diskGroupId := 0, numExtents := 0, totalVolumeBlocksLogical := 0,
    volumeLogicalBlockSize := 0, extents := List.replicate xsanMaxExtentsPerVolume .zero }

/-! ## The encoders -/

section Encode

variable {J : Type} (api : Api J) (uuid : UuidText)

/-- A member of `replica_nodes` (lines 237-243). -/
def replicaToJson (r : XsanReplicaLocation) : J :=
  let j := api.newObject
  let j := api.objectAdd j "node_id" (api.newString (uuid.fmtLower r.nodeId))
  let j := api.objectAdd j "node_ip_addr" (api.newString r.nodeIpAddr)
  let j := api.objectAdd j "node_comm_port" (api.newIntCast r.nodeCommPort)
  let j := api.objectAdd j "state" (api.newIntCast r.state.val)
  api.objectAdd j "last_successful_contact_time_us" (api.newInt64Cast r.lastSuccessfulContactTimeUs)

/-- The object `_xsan_volume_to_json_string` builds (lines 224-245). -/
def volumeToJson (vol : XsanVolume) : J :=
  let j := api.newObject
  let j := api.objectAdd j "id" (api.newString (uuid.fmtLower vol.id))
  let j := api.objectAdd j "name" (api.newString vol.name)
  let j := api.objectAdd j "size_bytes" (api.newInt64Cast vol.sizeBytes)
  let j := api.objectAdd j "block_size_bytes" (api.newIntCast vol.blockSizeBytes)
  let j := api.objectAdd j "num_blocks" (api.newInt64Cast vol.numBlocks)
  let j := api.objectAdd j "state" (api.newIntCast vol.state.val)
  let j := api.objectAdd j "source_group_id" (api.newString (uuid.fmtLower vol.sourceGroupId))
  let j := api.objectAdd j "thin_provisioned" (api.newBoolean vol.thinProvisioned)
  let j := api.objectAdd j "allocated_bytes" (api.newInt64Cast vol.allocatedBytes)
  let j := api.objectAdd j "FTT" (api.newIntCast vol.ftt)
  let j := api.objectAdd j "actual_replica_count" (api.newIntCast vol.actualReplicaCount)
  -- `for (i = 0; i < actual_replica_count && i < XSAN_MAX_REPLICAS; ++i)`
  let jarrayReplicas := (vol.replicaNodes.take (min vol.actualReplicaCount xsanMaxReplicas)).foldl
    (fun a r => api.arrayAdd a (replicaToJson api uuid r)) api.newArray
  api.objectAdd j "replica_nodes" jarrayReplicas

/-- A member of `extents` (lines 149-154). -/
def extentToJson (e : XsanVolumeExtentMapping) : J :=
  let j := api.newObject
  let j := api.objectAdd j "disk_id" (api.newString (uuid.fmtLower e.diskId))
  let j := api.objectAdd j "start_block_on_disk" (api.newInt64Cast e.startBlockOnDisk)
  let j := api.objectAdd j "num_blocks_on_disk" (api.newInt64Cast e.numBlocksOnDisk)
  api.objectAdd j "volume_start_lba" (api.newInt64Cast e.volumeStartLba)

/-- The object `_xsan_volume_allocation_meta_to_json_string` builds
(lines 138-157). -/
def allocationMetaToJson (a : XsanVolumeAllocationMeta) : J :=
  let j := api.newObject
  let j := api.objectAdd j "volume_id" (api.newString (uuid.fmtLower a.volumeId))
  let j := api.objectAdd j "disk_group_id" (api.newString (uuid.fmtLower a.diskGroupId))
  let j := api.objectAdd j "num_extents" (api.newIntCast a.numExtents)
  let j := api.objectAdd j "total_volume_blocks_logical" (api.newInt64Cast a.totalVolumeBlocksLogical)
  let j := api.objectAdd j "volume_logical_block_size" (api.newIntCast a.volumeLogicalBlockSize)
  -- `for (i = 0; i < num_extents; ++i)`, with no cap at the array's size
  let jarrayExtents := (a.extents.take a.numExtents).foldl
    (fun arr e => api.arrayAdd arr (extentToJson api uuid e)) api.newArray
  api.objectAdd j "extents" jarrayExtents

end Encode

/-! ## The decoders -/

/-- `for (i = 0; i < n; ++i) slots[i] = f(i, slots[i]);` -/
def fillSlots {α : Type} (n : ℕ) (f : ℕ → α → α) (slots : List α) : List α :=
  slots.mapIdx fun i slot => if i < n then f i slot else slot

section Decode

variable {J : Type} (api : Api J) (uuid : UuidText)

/-- `if (json_object_object_get_ex(obj, key, &val)) field = read(val);`: the
field keeps `old` when the member is missing. -/
def readMember {α : Type} (obj : J) (key : String) (read : J → α) (old : α) : α :=
  match api.objectGetEx obj key with
  | some val => read val
  | none => old

/-- `spdk_uuid_parse(&field, s)`: the field is left as it was when `s` is not
a UUID. -/
def uuidInto (old : ℕ) (s : List Char) : ℕ := (uuid.parse s).getD old

/-- A replica object's members written over its slot (lines 272-278). -/
def replicaOfJson (jReplNode : J) (slot : XsanReplicaLocation) : XsanReplicaLocation :=
  { nodeId := readMember api jReplNode "node_id"
      (fun val => uuidInto uuid slot.nodeId (api.getString val)) slot.nodeId
    nodeIpAddr := readMember api jReplNode "node_ip_addr"
      (fun val => (xsanStrcpySafe slot.nodeIpAddr (api.getString val) inet6Addrstrlen).1)
      slot.nodeIpAddr
    nodeCommPort := readMember api jReplNode "node_comm_port"
      (fun val => toUnsigned 16 (api.getInt val)) slot.nodeCommPort
    state := readMember api jReplNode "state" (fun val => .ofInt (api.getInt val)) .unknown
    lastSuccessfulContactTimeUs := readMember api jReplNode "last_successful_contact_time_us"
      (fun val => toUnsigned 64 (api.getInt64 val)) slot.lastSuccessfulContactTimeUs }

/-- Line 271: `if (j_repl_node && json_object_is_type(j_repl_node, json_type_object))`. -/
def replicaSlotOfJson (jReplNode : Option J) (slot : XsanReplicaLocation) : XsanReplicaLocation :=
  match jReplNode with
  | some j => if api.isObject j then replicaOfJson api uuid j slot else slot
  | none => slot

/-- Lines 265-281: when `replica_nodes` is an array, `actual_replica_count`
becomes its length capped at `XSAN_MAX_REPLICAS`, and that many slots are
read from it. -/
def replicaNodesOfJson (jobj : J) (count : ℕ) (slots : List XsanReplicaLocation) :
    ℕ × List XsanReplicaLocation :=
  match api.objectGetEx jobj "replica_nodes" with
  | some jReplNodes =>
    if api.isArray jReplNodes then
      let arrLen := min (api.arrayLength jReplNodes) xsanMaxReplicas
      (arrLen, fillSlots arrLen
        (fun i slot => replicaSlotOfJson api uuid (api.arrayGetIdx jReplNodes i) slot) slots)
    else (count, slots)
  | none => (count, slots)

/-- The volume `_xsan_json_string_to_volume` reads from a parsed object
(lines 251-281). -/
def volumeOfJson (jobj : J) : XsanVolume :=
  let vol := XsanVolume.zero
  let count := readMember api jobj "actual_replica_count" (fun val => toUnsigned 32 (api.getInt val))
    vol.actualReplicaCount
  let replicas := replicaNodesOfJson api uuid jobj count vol.replicaNodes
  { id := readMember api jobj "id" (fun val => uuidInto uuid vol.id (api.getString val)) vol.id
    name := readMember api jobj "name"
      (fun val => (xsanStrcpySafe vol.name (api.getString val) xsanMaxNameLen).1) vol.name
    sizeBytes := readMember api jobj "size_bytes" (fun val => toUnsigned 64 (api.getInt64 val))
      vol.sizeBytes
    blockSizeBytes := readMember api jobj "block_size_bytes" (fun val => toUnsigned 32 (api.getInt val))
      vol.blockSizeBytes
    numBlocks := readMember api jobj "num_blocks" (fun val => toUnsigned 64 (api.getInt64 val))
      vol.numBlocks
    -- `else vol->state = XSAN_STORAGE_STATE_OFFLINE;`
    state := readMember api jobj "state" (fun val => .ofInt (api.getInt val)) .offline
    sourceGroupId := readMember api jobj "source_group_id"
      (fun val => uuidInto uuid vol.sourceGroupId (api.getString val)) vol.sourceGroupId
    thinProvisioned := readMember api jobj "thin_provisioned" api.getBoolean vol.thinProvisioned
    allocatedBytes := readMember api jobj "allocated_bytes" (fun val => toUnsigned 64 (api.getInt64 val))
      vol.allocatedBytes
    ftt := readMember api jobj "FTT" (fun val => toUnsigned 32 (api.getInt val)) vol.ftt
    actualReplicaCount := replicas.1
    replicaNodes := replicas.2 }

/-- An extent object's members written over its slot (lines 205-210). -/
def extentOfJson (jExtentObj : J) (slot : XsanVolumeExtentMapping) : XsanVolumeExtentMapping :=
  { diskId := readMember api jExtentObj "disk_id"
      (fun val => uuidInto uuid slot.diskId (api.getString val)) slot.diskId
    startBlockOnDisk := readMember api jExtentObj "start_block_on_disk"
      (fun val => toUnsigned 64 (api.getInt64 val)) slot.startBlockOnDisk
    numBlocksOnDisk := readMember api jExtentObj "num_blocks_on_disk"
      (fun val => toUnsigned 64 (api.getInt64 val)) slot.numBlocksOnDisk
    volumeStartLba := readMember api jExtentObj "volume_start_lba"
      (fun val => toUnsigned 64 (api.getInt64 val)) slot.volumeStartLba }

/-- Line 204: `if (j_extent_obj && json_object_is_type(j_extent_obj, json_type_object))`. -/
def extentSlotOfJson (jExtentObj : Option J) (slot : XsanVolumeExtentMapping) :
    XsanVolumeExtentMapping :=
  match jExtentObj with
  | some j => if api.isObject j then extentOfJson api uuid j slot else slot
  | none => slot

/-- Lines 189-212: when `extents` is an array, `num_extents` becomes its
length, then is capped at `XSAN_MAX_EXTENTS_PER_VOLUME`, and that many slots
are read from it. -/
def extentsOfJson (jobj : J) (numExtents : ℕ) (slots : List XsanVolumeExtentMapping) :
    ℕ × List XsanVolumeExtentMapping :=
  match api.objectGetEx jobj "extents" with
  | some jExtentsArray =>
    if api.isArray jExtentsArray then
      let arrayLen := api.arrayLength jExtentsArray
      let n := if arrayLen ≠ numExtents then arrayLen else numExtents
      let n := if n > xsanMaxExtentsPerVolume then xsanMaxExtentsPerVolume else n
      (n, fillSlots n
        (fun i slot => extentSlotOfJson api uuid (api.arrayGetIdx jExtentsArray i) slot) slots)
    else (numExtents, slots)
  | none => (numExtents, slots)

/-- The allocation map `_xsan_json_string_to_volume_allocation_meta` reads
from a parsed object (lines 174-212). -/
def allocationMetaOfJson (jobj : J) : XsanVolumeAllocationMeta :=
  let allocMeta := XsanVolumeAllocationMeta.zero
  -- only the two top-level UUIDs are checked to be strings
  let readUuid (key : String) (old : ℕ) := readMember api jobj key
    (fun val => if api.isString val then uuidInto uuid old (api.getString val) else old) old
  let numExtents := readMember api jobj "num_extents" (fun val => toUnsigned 32 (api.getInt val))
    allocMeta.numExtents
  let extents := extentsOfJson api uuid jobj numExtents allocMeta.extents
  { volumeId := readUuid "volume_id" allocMeta.volumeId
    diskGroupId := readUuid "disk_group_id" allocMeta.diskGroupId
    numExtents := extents.1
    totalVolumeBlocksLogical := readMember api jobj "total_volume_blocks_logical"
      (fun val => toUnsigned 64 (api.getInt64 val)) allocMeta.totalVolumeBlocksLogical
    volumeLogicalBlockSize := readMember api jobj "volume_logical_block_size"
      (fun val => toUnsigned 32 (api.getInt val)) allocMeta.volumeLogicalBlockSize
    extents := extents.2 }

end Decode

/-! ## The four functions -/

section Codes

variable (codes : UndefinedCodes) {J : Type} (api : Api J) (uuid : UuidText)

/-- `_xsan_volume_to_json_string` (lines 222-249); `strdupOk` says whether
`xsan_strdup` allocates. -/
def xsanVolumeToJsonString (vol : XsanVolume) (strdupOk : Bool) : Except ℤ (List Char) :=
  let tmpStr := api.toJsonString (volumeToJson api uuid vol)
  if strdupOk then .ok tmpStr else .error codes.outOfMemory

/-- `_xsan_json_string_to_volume` (lines 251-285); `mallocOk` says whether
`XSAN_MALLOC` allocates. -/
def xsanJsonStringToVolume (js : List Char) (mallocOk : Bool) : Except ℤ XsanVolume :=
  match api.tokenerParse js with
  | none => .error xsanErrorConfigParse
  | some jobj => if mallocOk then .ok (volumeOfJson api uuid jobj) else .error codes.outOfMemory

/-- `_xsan_volume_allocation_meta_to_json_string` (lines 136-162). -/
def xsanVolumeAllocationMetaToJsonString (a : XsanVolumeAllocationMeta) (strdupOk : Bool) :
    Except ℤ (List Char) :=
  let tmpStr := api.toJsonString (allocationMetaToJson api uuid a)
  if strdupOk then .ok tmpStr else .error codes.outOfMemory

/-- `_xsan_json_string_to_volume_allocation_meta` (lines 164-219). -/
def xsanJsonStringToVolumeAllocationMeta (js : List Char) (mallocOk : Bool) :
    Except ℤ XsanVolumeAllocationMeta :=
  match api.tokenerParse js with
  | none => .error xsanErrorConfigParse
  | some jobj => if mallocOk then .ok (allocationMetaOfJson api uuid jobj) else .error codes.outOfMemory

end Codes

/-! ## What a record keeps -/

/-- A replica slot whose fields fit their C types and its address its buffer. -/
structure XsanReplicaLocation.Fits (r : XsanReplicaLocation) : Prop where
  nodeId_lt : r.nodeId < 2 ^ 128
  nodeIpAddr_nul : '\x00' ∉ r.nodeIpAddr
  nodeIpAddr_length : r.nodeIpAddr.length < inet6Addrstrlen
  nodeCommPort_lt : r.nodeCommPort < 2 ^ 16
  lastSuccessfulContactTimeUs_lt : r.lastSuccessfulContactTimeUs < 2 ^ 64

/-- A volume whose fields fit their C types, its name its buffer, and whose
replica count is at most `XSAN_MAX_REPLICAS`. -/
structure XsanVolume.Fits (v : XsanVolume) : Prop where
  id_lt : v.id < 2 ^ 128
  name_nul : '\x00' ∉ v.name
  name_length : v.name.length < xsanMaxNameLen
  sizeBytes_lt : v.sizeBytes < 2 ^ 64
  blockSizeBytes_lt : v.blockSizeBytes < 2 ^ 32
  numBlocks_lt : v.numBlocks < 2 ^ 64
  sourceGroupId_lt : v.sourceGroupId < 2 ^ 128
  allocatedBytes_lt : v.allocatedBytes < 2 ^ 64
  ftt_lt : v.ftt < 2 ^ 32
  actualReplicaCount_le : v.actualReplicaCount ≤ xsanMaxReplicas
  /-- The slots in use are in the list. -/
  replicaNodes_length : v.actualReplicaCount ≤ v.replicaNodes.length
  replicas_fit : ∀ r ∈ v.replicaNodes.take v.actualReplicaCount, r.Fits

/-- An extent whose fields fit their C types. -/
structure XsanVolumeExtentMapping.Fits (e : XsanVolumeExtentMapping) : Prop where
  diskId_lt : e.diskId < 2 ^ 128
  startBlockOnDisk_lt : e.startBlockOnDisk < 2 ^ 64
  numBlocksOnDisk_lt : e.numBlocksOnDisk < 2 ^ 64
  volumeStartLba_lt : e.volumeStartLba < 2 ^ 64

/-- An allocation map whose fields fit their C types, with at most
`XSAN_MAX_EXTENTS_PER_VOLUME` extents. -/
structure XsanVolumeAllocationMeta.Fits (a : XsanVolumeAllocationMeta) : Prop where
  volumeId_lt : a.volumeId < 2 ^ 128
  diskGroupId_lt : a.diskGroupId < 2 ^ 128
  numExtents_le : a.numExtents ≤ xsanMaxExtentsPerVolume
  /-- The slots in use are in the list. -/
  extents_length : a.numExtents ≤ a.extents.length
  totalVolumeBlocksLogical_lt : a.totalVolumeBlocksLogical < 2 ^ 64
  volumeLogicalBlockSize_lt : a.volumeLogicalBlockSize < 2 ^ 32
  extents_fit : ∀ e ∈ a.extents.take a.numExtents, e.Fits

/-- The volume its record describes: the replica slots past
`actual_replica_count` are not stored and read back as `memset` leaves them. -/
def XsanVolume.persisted (v : XsanVolume) : XsanVolume :=
  { v with replicaNodes := v.replicaNodes.take v.actualReplicaCount ++
      List.replicate (xsanMaxReplicas - v.actualReplicaCount) .zero }

/-- The allocation map its record describes: the extent slots past
`num_extents` are not stored and read back as `memset` leaves them. -/
def XsanVolumeAllocationMeta.persisted (a : XsanVolumeAllocationMeta) : XsanVolumeAllocationMeta :=
  { a with extents := a.extents.take a.numExtents ++
      List.replicate (xsanMaxExtentsPerVolume - a.numExtents) .zero }

/-! ## Reading each field back -/

/-- The loop over the first `xs.length` slots of a `memset` array, writing
`xs[i]` into slot `i`, leaves `xs` followed by the untouched slots. -/
theorem fillSlots_replicate {α : Type} {k : ℕ} {z : α} {f : ℕ → α → α} {xs : List α}
    (hk : xs.length ≤ k) (hf : ∀ i (h : i < xs.length), f i z = xs[i]) :
    fillSlots xs.length f (List.replicate k z) = xs ++ List.replicate (k - xs.length) z := by
  apply List.ext_getElem
  · rw [fillSlots, List.length_mapIdx, List.length_replicate, List.length_append,
      List.length_replicate]
    omega
  · intro i h1 h2
    simp only [fillSlots, List.getElem_mapIdx, List.getElem_replicate]
    by_cases hi : i < xs.length
    · rw [if_pos hi, hf i hi, List.getElem_append_left hi]
    · rw [if_neg hi, List.getElem_append_right (by omega), List.getElem_replicate]

/-- A decoder loop over the items an encoder wrote reads them back into the
first slots, when each slot decoder reads back one encoded item whatever the
slot held. -/
theorem fillSlots_getElem?_map {α β : Type} {enc : α → β} {slotOf : Option β → α → α}
    {xs : List α} {k : ℕ} {z : α} (hk : xs.length ≤ k) (hread : ∀ x ∈ xs, slotOf (some (enc x)) z = x) :
    fillSlots xs.length (fun i slot => slotOf ((xs.map enc)[i]?) slot) (List.replicate k z) =
      xs ++ List.replicate (k - xs.length) z :=
  fillSlots_replicate hk fun i hi => by
    rw [List.getElem?_map, List.getElem?_eq_getElem hi, Option.map_some, hread _ (List.getElem_mem hi)]

section RoundTrip

variable {J : Type} {api : Api J} {uuid : UuidText}

theorem uuidInto_fmtLower (huuid : uuid.RoundTrips) {u : ℕ} (hu : u < 2 ^ 128) (old : ℕ) :
    uuidInto uuid old (uuid.fmtLower u) = u := by
  rw [uuidInto, huuid.parse_fmtLower u hu, Option.getD_some]

theorem xsanStrcpySafe_of_length_lt {dest src : List Char} {destSize : ℕ}
    (h : src.length < destSize) : (xsanStrcpySafe dest src destSize).1 = src := by
  rw [xsanStrcpySafe_fst (by omega), List.take_of_length_le (by omega)]

theorem ofInt_getInt_newIntCast (h : api.Laws) (s : XsanStorageState) :
    XsanStorageState.ofInt (api.getInt (api.newIntCast s.val)) = s := by
  rw [getInt_newIntCast_of_lt h (lt_trans s.val_lt (by norm_num)), XsanStorageState.ofInt_val]

/-- A member read from an object built by adds: the value of the last member
added with that key, read with `read`. -/
theorem readMember_buildObject (h : api.Laws) {α : Type} (ms : List (String × J)) (key : String)
    (read : J → α) (old : α) :
    readMember api (api.buildObject ms) key read old =
      ((ms.reverse.find? (·.1 = key)).map fun m => read m.2).getD old := by
  rw [readMember, objectGetEx_buildObject h]
  cases ms.reverse.find? (·.1 = key) <;> rfl

/-! ### Replicas -/

theorem replicaToJson_eq (r : XsanReplicaLocation) :
    replicaToJson api uuid r = api.buildObject
      [("node_id", api.newString (uuid.fmtLower r.nodeId)), ("node_ip_addr", api.newString r.nodeIpAddr),
        ("node_comm_port", api.newIntCast r.nodeCommPort), ("state", api.newIntCast r.state.val),
        ("last_successful_contact_time_us", api.newInt64Cast r.lastSuccessfulContactTimeUs)] :=
  rfl

theorem built_replicaToJson (huuid : uuid.RoundTrips) {r : XsanReplicaLocation} (hr : r.Fits) :
    api.Built (replicaToJson api uuid r) := by
  rw [replicaToJson_eq]
  refine built_buildObject (by simp) ?_
  simp only [List.forall_mem_cons, List.not_mem_nil, IsEmpty.forall_iff, implies_true, and_true]
  exact ⟨.newString (huuid.fmtLower_nul _), .newString hr.nodeIpAddr_nul, built_newIntCast _,
    built_newIntCast _, built_newInt64Cast _⟩

theorem replicaOfJson_replicaToJson (h : api.Laws) (huuid : uuid.RoundTrips) {r : XsanReplicaLocation}
    (hr : r.Fits) (slot : XsanReplicaLocation) : replicaOfJson api uuid (replicaToJson api uuid r) slot = r := by
  rw [replicaToJson_eq]
  simp only [replicaOfJson, readMember_buildObject h, List.reverse_cons, List.reverse_nil,
    List.nil_append, List.cons_append, List.find?_cons_of_pos, List.find?_cons_of_neg, decide_true,
    decide_false, String.reduceEq, Bool.false_eq_true, not_false_eq_true, Option.map_some,
    Option.getD_some]
  rw [h.getString_newString _ (huuid.fmtLower_nul _), uuidInto_fmtLower huuid hr.nodeId_lt,
    h.getString_newString _ hr.nodeIpAddr_nul, xsanStrcpySafe_of_length_lt hr.nodeIpAddr_length,
    toUnsigned_getInt_newIntCast h (by norm_num) hr.nodeCommPort_lt, ofInt_getInt_newIntCast h,
    toUnsigned_getInt64_newInt64Cast h hr.lastSuccessfulContactTimeUs_lt]

/-- The replica loop of the decoder reads back the replicas the encoder wrote,
into the first slots of the `memset` array. -/
theorem replicaSlots_read_back (h : api.Laws) (huuid : uuid.RoundTrips) {rs : List XsanReplicaLocation}
    {n : ℕ} (hrs : ∀ r ∈ rs, r.Fits) (hn : rs.length = n) (hlen : n ≤ xsanMaxReplicas) :
    fillSlots n (fun i slot => replicaSlotOfJson api uuid ((rs.map (replicaToJson api uuid))[i]?) slot)
        (List.replicate xsanMaxReplicas .zero) =
      rs ++ List.replicate (xsanMaxReplicas - n) .zero := by
  subst hn
  refine fillSlots_getElem?_map hlen fun r hr => ?_
  have hobj : api.isObject (replicaToJson api uuid r) = true := by
    rw [replicaToJson_eq]
    exact isObject_buildObject h _
  rw [replicaSlotOfJson, if_pos hobj, replicaOfJson_replicaToJson h huuid (hrs r hr)]

/-! ### Volumes -/

theorem volumeToJson_eq (vol : XsanVolume) :
    volumeToJson api uuid vol = api.buildObject
      [("id", api.newString (uuid.fmtLower vol.id)), ("name", api.newString vol.name),
        ("size_bytes", api.newInt64Cast vol.sizeBytes), ("block_size_bytes", api.newIntCast vol.blockSizeBytes),
        ("num_blocks", api.newInt64Cast vol.numBlocks), ("state", api.newIntCast vol.state.val),
        ("source_group_id", api.newString (uuid.fmtLower vol.sourceGroupId)),
        ("thin_provisioned", api.newBoolean vol.thinProvisioned),
        ("allocated_bytes", api.newInt64Cast vol.allocatedBytes), ("FTT", api.newIntCast vol.ftt),
        ("actual_replica_count", api.newIntCast vol.actualReplicaCount),
        ("replica_nodes", api.buildArray ((vol.replicaNodes.take
          (min vol.actualReplicaCount xsanMaxReplicas)).map (replicaToJson api uuid)))] := by
  rw [Api.buildArray, List.foldl_map]
  rfl

theorem built_volumeToJson (huuid : uuid.RoundTrips) {v : XsanVolume} (hv : v.Fits) :
    api.Built (volumeToJson api uuid v) := by
  rw [volumeToJson_eq, Nat.min_eq_left hv.actualReplicaCount_le]
  refine built_buildObject (by simp) ?_
  simp only [List.forall_mem_cons, List.not_mem_nil, IsEmpty.forall_iff, implies_true, and_true]
  refine ⟨.newString (huuid.fmtLower_nul _), .newString hv.name_nul, built_newInt64Cast _,
    built_newIntCast _, built_newInt64Cast _, built_newIntCast _, .newString (huuid.fmtLower_nul _),
    .newBoolean _, built_newInt64Cast _, built_newIntCast _, built_newIntCast _, built_buildArray ?_⟩
  simp only [List.mem_map]
  rintro _ ⟨r, hr, rfl⟩
  exact built_replicaToJson huuid (hv.replicas_fit r hr)

theorem volumeOfJson_volumeToJson (h : api.Laws) (huuid : uuid.RoundTrips) {v : XsanVolume} (hv : v.Fits) :
    volumeOfJson api uuid (volumeToJson api uuid v) = v.persisted := by
  have hlen : (v.replicaNodes.take v.actualReplicaCount).length = v.actualReplicaCount :=
    List.length_take_of_le hv.replicaNodes_length
  rw [volumeToJson_eq, Nat.min_eq_left hv.actualReplicaCount_le]
  simp only [volumeOfJson, replicaNodesOfJson, readMember_buildObject h, objectGetEx_buildObject h,
    List.reverse_cons, List.reverse_nil, List.nil_append, List.cons_append, List.find?_cons_of_pos,
    List.find?_cons_of_neg, decide_true, decide_false, String.reduceEq, Bool.false_eq_true,
    not_false_eq_true, Option.map_some, Option.getD_some, isArray_buildArray h, arrayLength_buildArray h,
    arrayGetIdx_buildArray h, List.length_map, hlen, Nat.min_eq_left hv.actualReplicaCount_le,
    XsanVolume.zero, if_true]
  rw [h.getString_newString _ (huuid.fmtLower_nul _), uuidInto_fmtLower huuid hv.id_lt,
    h.getString_newString _ hv.name_nul, xsanStrcpySafe_of_length_lt hv.name_length,
    toUnsigned_getInt64_newInt64Cast h hv.sizeBytes_lt,
    toUnsigned_getInt_newIntCast h le_rfl hv.blockSizeBytes_lt,
    toUnsigned_getInt64_newInt64Cast h hv.numBlocks_lt, ofInt_getInt_newIntCast h,
    h.getString_newString _ (huuid.fmtLower_nul _), uuidInto_fmtLower huuid hv.sourceGroupId_lt,
    h.getBoolean_newBoolean, toUnsigned_getInt64_newInt64Cast h hv.allocatedBytes_lt,
    toUnsigned_getInt_newIntCast h le_rfl hv.ftt_lt,
    replicaSlots_read_back h huuid hv.replicas_fit hlen hv.actualReplicaCount_le]
  rfl

/-! ### Allocation maps -/

theorem extentToJson_eq (e : XsanVolumeExtentMapping) :
    extentToJson api uuid e = api.buildObject
      [("disk_id", api.newString (uuid.fmtLower e.diskId)),
        ("start_block_on_disk", api.newInt64Cast e.startBlockOnDisk),
        ("num_blocks_on_disk", api.newInt64Cast e.numBlocksOnDisk),
        ("volume_start_lba", api.newInt64Cast e.volumeStartLba)] :=
  rfl

theorem built_extentToJson (huuid : uuid.RoundTrips) (e : XsanVolumeExtentMapping) :
    api.Built (extentToJson api uuid e) := by
  rw [extentToJson_eq]
  refine built_buildObject (by simp) ?_
  simp only [List.forall_mem_cons, List.not_mem_nil, IsEmpty.forall_iff, implies_true, and_true]
  exact ⟨.newString (huuid.fmtLower_nul _), built_newInt64Cast _, built_newInt64Cast _,
    built_newInt64Cast _⟩

theorem extentOfJson_extentToJson (h : api.Laws) (huuid : uuid.RoundTrips) {e : XsanVolumeExtentMapping}
    (he : e.Fits) (slot : XsanVolumeExtentMapping) : extentOfJson api uuid (extentToJson api uuid e) slot = e := by
  rw [extentToJson_eq]
  simp only [extentOfJson, readMember_buildObject h, List.reverse_cons, List.reverse_nil,
    List.nil_append, List.cons_append, List.find?_cons_of_pos, List.find?_cons_of_neg, decide_true,
    decide_false, String.reduceEq, Bool.false_eq_true, not_false_eq_true, Option.map_some,
    Option.getD_some]
  rw [h.getString_newString _ (huuid.fmtLower_nul _), uuidInto_fmtLower huuid he.diskId_lt,
    toUnsigned_getInt64_newInt64Cast h he.startBlockOnDisk_lt,
    toUnsigned_getInt64_newInt64Cast h he.numBlocksOnDisk_lt,
    toUnsigned_getInt64_newInt64Cast h he.volumeStartLba_lt]

/-- The extent loop of the decoder reads back the extents the encoder wrote,
into the first slots of the `memset` array. -/
theorem extentSlots_read_back (h : api.Laws) (huuid : uuid.RoundTrips) {es : List XsanVolumeExtentMapping}
    {n : ℕ} (hes : ∀ e ∈ es, e.Fits) (hn : es.length = n) (hlen : n ≤ xsanMaxExtentsPerVolume) :
    fillSlots n (fun i slot => extentSlotOfJson api uuid ((es.map (extentToJson api uuid))[i]?) slot)
        (List.replicate xsanMaxExtentsPerVolume .zero) =
      es ++ List.replicate (xsanMaxExtentsPerVolume - n) .zero := by
  subst hn
  refine fillSlots_getElem?_map hlen fun e he => ?_
  have hobj : api.isObject (extentToJson api uuid e) = true := by
    rw [extentToJson_eq]
    exact isObject_buildObject h _
  rw [extentSlotOfJson, if_pos hobj, extentOfJson_extentToJson h huuid (hes e he)]

theorem allocationMetaToJson_eq (a : XsanVolumeAllocationMeta) :
    allocationMetaToJson api uuid a = api.buildObject
      [("volume_id", api.newString (uuid.fmtLower a.volumeId)),
        ("disk_group_id", api.newString (uuid.fmtLower a.diskGroupId)),
        ("num_extents", api.newIntCast a.numExtents),
        ("total_volume_blocks_logical", api.newInt64Cast a.totalVolumeBlocksLogical),
        ("volume_logical_block_size", api.newIntCast a.volumeLogicalBlockSize),
        ("extents", api.buildArray ((a.extents.take a.numExtents).map (extentToJson api uuid)))] := by
  rw [Api.buildArray, List.foldl_map]
  rfl

theorem built_allocationMetaToJson (huuid : uuid.RoundTrips) (a : XsanVolumeAllocationMeta) :
    api.Built (allocationMetaToJson api uuid a) := by
  rw [allocationMetaToJson_eq]
  refine built_buildObject (by simp) ?_
  simp only [List.forall_mem_cons, List.not_mem_nil, IsEmpty.forall_iff, implies_true, and_true]
  refine ⟨.newString (huuid.fmtLower_nul _), .newString (huuid.fmtLower_nul _), built_newIntCast _,
    built_newInt64Cast _, built_newIntCast _, built_buildArray ?_⟩
  simp only [List.mem_map]
  rintro _ ⟨e, -, rfl⟩
  exact built_extentToJson huuid e

theorem allocationMetaOfJson_allocationMetaToJson (h : api.Laws) (huuid : uuid.RoundTrips)
    {a : XsanVolumeAllocationMeta} (ha : a.Fits) :
    allocationMetaOfJson api uuid (allocationMetaToJson api uuid a) = a.persisted := by
  have hlen : (a.extents.take a.numExtents).length = a.numExtents :=
    List.length_take_of_le ha.extents_length
  have hnum : toUnsigned 32 (api.getInt (api.newIntCast a.numExtents)) = a.numExtents :=
    toUnsigned_getInt_newIntCast h le_rfl (lt_of_le_of_lt ha.numExtents_le (by decide))
  have hcap : ¬a.numExtents > xsanMaxExtentsPerVolume := Nat.not_lt.mpr ha.numExtents_le
  rw [allocationMetaToJson_eq]
  simp only [allocationMetaOfJson, extentsOfJson, readMember_buildObject h, objectGetEx_buildObject h,
    List.reverse_cons, List.reverse_nil, List.nil_append, List.cons_append, List.find?_cons_of_pos,
    List.find?_cons_of_neg, decide_true, decide_false, String.reduceEq, Bool.false_eq_true,
    not_false_eq_true, Option.map_some, Option.getD_some, h.isString_newString, if_true,
    isArray_buildArray h, arrayLength_buildArray h, arrayGetIdx_buildArray h, List.length_map, hlen,
    hnum, ne_eq, not_true_eq_false, if_false, hcap, XsanVolumeAllocationMeta.zero]
  rw [h.getString_newString _ (huuid.fmtLower_nul _), uuidInto_fmtLower huuid ha.volumeId_lt,
    h.getString_newString _ (huuid.fmtLower_nul _), uuidInto_fmtLower huuid ha.diskGroupId_lt,
    toUnsigned_getInt64_newInt64Cast h ha.totalVolumeBlocksLogical_lt,
    toUnsigned_getInt_newIntCast h le_rfl ha.volumeLogicalBlockSize_lt,
    extentSlots_read_back h huuid ha.extents_fit hlen ha.numExtents_le]
  rfl

end RoundTrip

/-! ## Reading a stored record back -/

section Codes

variable (codes : UndefinedCodes) {J : Type} {api : Api J} {uuid : UuidText}

theorem volume_text_read_back (h : api.Laws) (huuid : uuid.RoundTrips) {v : XsanVolume} (hv : v.Fits)
    (strdupOk mallocOk : Bool) :
    (xsanVolumeToJsonString codes api uuid v strdupOk >>= fun js =>
        xsanJsonStringToVolume codes api uuid js mallocOk) =
      if strdupOk && mallocOk then .ok v.persisted else .error codes.outOfMemory := by
  cases strdupOk with
  | false => rfl
  | true =>
    have hparse := h.tokenerParse_toJsonString _ (built_volumeToJson huuid hv)
    show xsanJsonStringToVolume codes api uuid (api.toJsonString (volumeToJson api uuid v)) mallocOk = _
    rw [xsanJsonStringToVolume, hparse]
    dsimp only
    rw [volumeOfJson_volumeToJson h huuid hv, Bool.true_and]

theorem allocationMeta_text_read_back (h : api.Laws) (huuid : uuid.RoundTrips)
    {a : XsanVolumeAllocationMeta} (ha : a.Fits) (strdupOk mallocOk : Bool) :
    (xsanVolumeAllocationMetaToJsonString codes api uuid a strdupOk >>= fun js =>
        xsanJsonStringToVolumeAllocationMeta codes api uuid js mallocOk) =
      if strdupOk && mallocOk then .ok a.persisted else .error codes.outOfMemory := by
  cases strdupOk with
  | false => rfl
  | true =>
    have hparse := h.tokenerParse_toJsonString _ (built_allocationMetaToJson huuid a)
    show xsanJsonStringToVolumeAllocationMeta codes api uuid
      (api.toJsonString (allocationMetaToJson api uuid a)) mallocOk = _
    rw [xsanJsonStringToVolumeAllocationMeta, hparse]
    dsimp only
    rw [allocationMetaOfJson_allocationMetaToJson h huuid ha, Bool.true_and]

/-- For any json-c that meets its laws and an SPDK that reads back its UUIDs:
the text stored for a volume that fits its C types and buffers, with at most
`XSAN_MAX_REPLICAS` replicas, reads back as that volume on every stored field
(id, name, sizes, state, source group, thin flag, allocated bytes, FTT, replica
count, and each replica in use with its id, address, port, state and contact
time); the text stored for an allocation map with at most
`XSAN_MAX_EXTENTS_PER_VOLUME` extents reads back as that map on its ids,
counts, sizes and extents in use. The slots past the counts read back as
`memset` leaves them; either call fails with `XSAN_ERROR_OUT_OF_MEMORY` when
its allocation does. -/
theorem volume_records_read_back (h : api.Laws) (huuid : uuid.RoundTrips) {v : XsanVolume}
    (hv : v.Fits) {a : XsanVolumeAllocationMeta} (ha : a.Fits) (strdupOk mallocOk : Bool) :
    (xsanVolumeToJsonString codes api uuid v strdupOk >>= fun js =>
        xsanJsonStringToVolume codes api uuid js mallocOk) =
      (if strdupOk && mallocOk then .ok v.persisted else .error codes.outOfMemory) ∧
    (xsanVolumeAllocationMetaToJsonString codes api uuid a strdupOk >>= fun js =>
        xsanJsonStringToVolumeAllocationMeta codes api uuid js mallocOk) =
      (if strdupOk && mallocOk then .ok a.persisted else .error codes.outOfMemory) :=
  ⟨volume_text_read_back codes h huuid hv strdupOk mallocOk,
    allocationMeta_text_read_back codes h huuid ha strdupOk mallocOk⟩

/-- SPDK's UUID text: `spdk_uuid_fmt_lower` writes the 8-4-4-4-12 lower-case
form, and `spdk_uuid_parse` reads that form. -/
def spdkUuidText : UuidText := ⟨Uuid.fmtLower, Uuid.parse⟩

theorem spdkUuidText_roundTrips : spdkUuidText.RoundTrips where
  fmtLower_nul := Uuid.nul_not_mem_fmtLower
  parse_fmtLower _ hu := Uuid.parse_fmtLower hu

/-- A thin volume with one replica, its size and the replica's contact time
above the signed 64-bit range and its block size above the signed 32-bit
range. -/
def sampleVolume : XsanVolume :=
  { id := 0x6f1c2d3e4f5a4b6c8d9e0f1a2b3c4d5e, name := "vol0".toList, sizeBytes := 2 ^ 64 - 1,
    blockSizeBytes := 2 ^ 31 + 4096, numBlocks := 2 ^ 40, state := .online,
    sourceGroupId := 0x0123456789ab4cdeb0f1a2b3c4d5e6f7, thinProvisioned := true,
    allocatedBytes := 0, ftt := 0, actualReplicaCount := 1,
    replicaNodes := [⟨0xa1b2c3d4e5f64a7b8c9d0e1f2a3b4c5d, "10.0.0.2".toList, 8080, .online, 2 ^ 63⟩,
      .zero, .zero] }

/-- The allocation map of a volume of one extent. -/
def sampleAllocationMeta : XsanVolumeAllocationMeta :=
  { volumeId := 0x6f1c2d3e4f5a4b6c8d9e0f1a2b3c4d5e, diskGroupId := 0x0123456789ab4cdeb0f1a2b3c4d5e6f7,
    numExtents := 1, totalVolumeBlocksLogical := 2 ^ 40, volumeLogicalBlockSize := 4096,
    extents := [⟨0xfedcba98765443210fedcba987654321, 2 ^ 63, 2 ^ 40, 0⟩] }

theorem volume_records_read_back_sample :
    textModel.Laws ∧ spdkUuidText.RoundTrips ∧ sampleVolume.Fits ∧ sampleAllocationMeta.Fits ∧
      ((xsanVolumeToJsonString UndefinedCodes.fresh textModel spdkUuidText sampleVolume true
          >>= fun js =>
          xsanJsonStringToVolume UndefinedCodes.fresh textModel spdkUuidText js true) =
        (if true && true then .ok sampleVolume.persisted else .error UndefinedCodes.fresh.outOfMemory) ∧
      (xsanVolumeAllocationMetaToJsonString UndefinedCodes.fresh textModel spdkUuidText
          sampleAllocationMeta true >>= fun js =>
          xsanJsonStringToVolumeAllocationMeta UndefinedCodes.fresh textModel spdkUuidText js true) =
        (if true && true then .ok sampleAllocationMeta.persisted
          else .error UndefinedCodes.fresh.outOfMemory)) := by
  have hv : sampleVolume.Fits :=
    { id_lt := by decide, name_nul := by decide, name_length := by decide,
      sizeBytes_lt := by decide, blockSizeBytes_lt := by decide, numBlocks_lt := by decide,
      sourceGroupId_lt := by decide, allocatedBytes_lt := by decide, ftt_lt := by decide,
      actualReplicaCount_le := by decide, replicaNodes_length := by decide,
      replicas_fit := by
        intro r hr
        rw [List.mem_singleton.mp hr]
        exact ⟨by decide, by decide, by decide, by decide, by decide⟩ }
  have ha : sampleAllocationMeta.Fits :=
    { volumeId_lt := by decide, diskGroupId_lt := by decide, numExtents_le := by decide,
      extents_length := by decide, totalVolumeBlocksLogical_lt := by decide,
      volumeLogicalBlockSize_lt := by decide,
      extents_fit := by
        intro e he
        rw [List.mem_singleton.mp he]
        exact ⟨by decide, by decide, by decide, by decide⟩ }
  exact ⟨textModel_laws, spdkUuidText_roundTrips, hv, ha,
    volume_records_read_back UndefinedCodes.fresh textModel_laws spdkUuidText_roundTrips hv ha
      true true⟩

end Codes

end Xsan
