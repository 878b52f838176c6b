import Xsan.Storage.Replicas
import Xsan.Storage.VolumeManager

/-!
# Mapping a logical block to a disk block

`xsan_volume_map_lba_to_physical` (storage/volume_manager.c:691-795) reads
the allocation record of a volume from the metadata store and walks its
extents. An extent of `num_blocks_on_disk` disk blocks starting at disk block
`start_block_on_disk` holds the volume blocks from `volume_start_lba` on, as
many as fit in its bytes. The block found is the disk block holding the first
byte of the logical block: its byte offset in the extent divided by the disk
block size, rounded down.

The disk manager's lookup (`xsan_disk_manager_find_disk_by_id`, declared but
not defined in the tree) is the parameter `findDisk`. The arithmetic is that
of `uint64_t`. As in `Xsan.Storage.VolumeManager`, the store holds the
allocation record itself.

Results:
* `mapExtents_eq_ok`: a block is found in the first extent, with a disk of
  non-zero block size, whose range holds the logical block.
* `physicalBlock_bytes`: without wrap-around, the disk block found starts at
  the logical block's exact byte position less its remainder modulo the disk
  block size; so the position is exact exactly when the disk block size
  divides the offset (`physicalBlock_bytes_exact_iff`).
* `xsanVolumeMapLbaToPhysical_exact_of_dvd`: when every disk block size of the
  stored extents divides the volume block size, the mapping is exact.
* `lba_map_collides_small_blocks`: with 512-byte volume blocks on a disk of
  4096-byte blocks, blocks 0 and 1 map to the same disk block.
-/

namespace Xsan

/-- `xsan_disk_t` (include/xsan_storage.h:134-167): the fields the I/O path
reads; `bdevDescriptor` says the descriptor is open. -/
structure XsanDisk where
  id : ℕ
  bdevName : List Char
  blockSizeBytes : ℕ
  bdevDescriptor : Bool
deriving DecidableEq, Repr

/-- What `xsan_volume_map_lba_to_physical` writes through its out-pointers:
the disk, the block on it and its block size. -/
structure PhysicalBlock where
  diskId : ℕ
  physicalBlockIdx : ℕ
  physicalBlockSize : ℕ
deriving DecidableEq, Repr

/-- What the outside calls of the mapping return: the store read and its
copy's allocation, and the parse of the record's JSON. -/
structure MapEnv where
  getOk : Bool
  getMallocOk : Bool
  parseOk : Bool
deriving DecidableEq, Repr

/-- Every call succeeds. -/
def MapEnv.ok : MapEnv := ⟨true, true, true⟩

section Map

variable (codes : UndefinedCodes) (ioCodes : IoCodes) (findDisk : ℕ → Option XsanDisk) (lookup : VolumeLookup)

/-- The bytes of an extent on its disk, `num_blocks_on_disk * block_size_bytes`
in `uint64_t`. -/
def extentTotalBytes (extent : XsanVolumeExtentMapping) (disk : XsanDisk) : ℕ :=
  extent.numBlocksOnDisk * disk.blockSizeBytes % 2 ^ 64

/-- One pass of the extent loop (volume_manager.c:755-790) for the volume
block size `lbs`: the result when the extent holds the block, `none` to go on
with the next extent. -/
def mapExtent (lbs lba : ℕ) (extent : XsanVolumeExtentMapping) : Option (Except ℤ PhysicalBlock) :=
  match findDisk extent.diskId with
  | none => none
  | some disk =>
    if disk.blockSizeBytes = 0 then none
    else
      let numVolumeBlocksInThisExtent := extentTotalBytes extent disk / lbs
      if extent.volumeStartLba ≤ lba ∧ lba < (extent.volumeStartLba + numVolumeBlocksInThisExtent) % 2 ^ 64 then
        let offsetWithinExtentBytes := (lba - extent.volumeStartLba) * lbs % 2 ^ 64
        -- a block that starts inside the extent but runs past its end
        if (offsetWithinExtentBytes + lbs) % 2 ^ 64 > extentTotalBytes extent disk ∧
            offsetWithinExtentBytes < extentTotalBytes extent disk then
          some (.error codes.internal)
        else
          some (.ok ⟨extent.diskId,
            (extent.startBlockOnDisk + offsetWithinExtentBytes / disk.blockSizeBytes) % 2 ^ 64,
            disk.blockSizeBytes⟩)
      else none

/-- The extent loop: the first extent that holds the block answers. -/
def mapExtents (lbs lba : ℕ) : List XsanVolumeExtentMapping → Except ℤ PhysicalBlock
  | [] => .error ioCodes.unmappedLba
  | extent :: extents =>
    match mapExtent codes findDisk lbs lba extent with
    | some r => r
    | none => mapExtents lbs lba extents

/-- `xsan_volume_map_lba_to_physical` (volume_manager.c:691-795). The
comparison of the record with the volume (lines 741-747) only logs. -/
def xsanVolumeMapLbaToPhysical (vm : XsanVolumeManager) (volumeId logicalBlockIdx : ℕ) (env : MapEnv) :
    Except ℤ PhysicalBlock :=
  if !vm.initialized ∨ volumeId = 0 then .error xsanErrorInvalidParam
  else
    match xsanVolumeGetById lookup vm.managedVolumes volumeId with
    | none => .error xsanErrorNotFound
    | some vol =>
      if logicalBlockIdx ≥ vol.numBlocks then .error ioCodes.outOfBounds
      else
        match xsanMetadataStoreGet vm.mdStore (.volAlloc volumeId) env.getOk env.getMallocOk with
        | .error err => .error (if err = xsanErrorNotFound then ioCodes.unmappedLba else err)
        | .ok (.volume _) => .error xsanErrorStorageGeneric
        | .ok (.allocMeta allocMeta) =>
          if !env.parseOk then .error xsanErrorStorageGeneric
          else if allocMeta.volumeLogicalBlockSize = 0 then .error xsanErrorStorageGeneric
          else if allocMeta.numExtents = 0 then .error ioCodes.unmappedLba
          else
            mapExtents codes ioCodes findDisk allocMeta.volumeLogicalBlockSize logicalBlockIdx
              (allocMeta.extents.take allocMeta.numExtents)

/-! ## What a successful mapping says -/

/-- The extent that holds a logical block, with a disk of non-zero block
size, and the block found for it. -/
def ExtentHit (lbs lba : ℕ) (extent : XsanVolumeExtentMapping) (pb : PhysicalBlock) : Prop :=
  ∃ disk, findDisk extent.diskId = some disk ∧ disk.blockSizeBytes ≠ 0 ∧
    extent.volumeStartLba ≤ lba ∧
    lba < (extent.volumeStartLba + extentTotalBytes extent disk / lbs) % 2 ^ 64 ∧
    pb = ⟨extent.diskId,
      (extent.startBlockOnDisk + (lba - extent.volumeStartLba) * lbs % 2 ^ 64 / disk.blockSizeBytes) % 2 ^ 64,
      disk.blockSizeBytes⟩

theorem mapExtent_eq_ok {lbs lba : ℕ} {extent : XsanVolumeExtentMapping} {pb : PhysicalBlock}
    (h : mapExtent codes findDisk lbs lba extent = some (.ok pb)) : ExtentHit findDisk lbs lba extent pb := by
  unfold mapExtent at h
  split at h
  · cases h
  · next disk hdisk =>
    split at h
    · cases h
    · next hbs =>
      dsimp only at h
      split at h
      · next hin =>
        split at h
        · cases h
        · cases h
          exact ⟨disk, hdisk, hbs, hin.1, hin.2, rfl⟩
      · cases h

/-- A successful mapping comes from an extent of the loop that holds the
block: induction on the extents, the earlier ones having passed it over. -/
theorem mapExtents_eq_ok {lbs lba : ℕ} {extents : List XsanVolumeExtentMapping} {pb : PhysicalBlock}
    (h : mapExtents codes ioCodes findDisk lbs lba extents = .ok pb) :
    ∃ extent ∈ extents, ExtentHit findDisk lbs lba extent pb := by
  induction extents with
  | nil => cases h
  | cons extent extents ih =>
    unfold mapExtents at h
    split at h
    · next r hr =>
      subst h
      exact ⟨extent, List.mem_cons_self, mapExtent_eq_ok codes findDisk hr⟩
    · obtain ⟨e, he, hhit⟩ := ih h
      exact ⟨e, List.mem_cons_of_mem _ he, hhit⟩

/-- A successful `xsan_volume_map_lba_to_physical` found the block in one
of the extents of the volume's stored allocation record. -/
theorem xsanVolumeMapLbaToPhysical_eq_ok {vm : XsanVolumeManager} {volumeId lba : ℕ} {env : MapEnv}
    {pb : PhysicalBlock} (h : xsanVolumeMapLbaToPhysical codes ioCodes findDisk lookup vm volumeId lba env = .ok pb) :
    ∃ vol allocMeta, xsanVolumeGetById lookup vm.managedVolumes volumeId = some vol ∧ lba < vol.numBlocks ∧
      vm.mdStore (.volAlloc volumeId) = some (.allocMeta allocMeta) ∧
      ∃ extent ∈ allocMeta.extents.take allocMeta.numExtents,
        ExtentHit findDisk allocMeta.volumeLogicalBlockSize lba extent pb := by
  unfold xsanVolumeMapLbaToPhysical at h
  split at h
  · cases h
  · split at h
    · cases h
    · next vol hvol =>
      split at h
      · cases h
      · next hlt =>
        split at h
        · cases h
        · cases h
        · next allocMeta hget =>
          obtain ⟨-, -, hstore⟩ := xsanMetadataStoreGet_eq_ok_iff.mp hget
          split at h
          · cases h
          · split at h
            · cases h
            · split at h
              · cases h
              · exact ⟨vol, allocMeta, hvol, Nat.lt_of_not_le hlt, hstore, mapExtents_eq_ok codes ioCodes findDisk h⟩

end Map

/-! ## Byte positions -/

/-- Where the disk block found starts, in bytes: the logical block's byte
position in the extent less its remainder modulo the disk block size, when
neither the offset nor the block index wraps. -/
theorem physicalBlock_bytes {lbs lba dbs start startLba : ℕ}
    (hoff : (lba - startLba) * lbs < 2 ^ 64)
    (hidx : start + (lba - startLba) * lbs / dbs < 2 ^ 64) :
    (start + (lba - startLba) * lbs % 2 ^ 64 / dbs) % 2 ^ 64 * dbs + (lba - startLba) * lbs % dbs =
      start * dbs + (lba - startLba) * lbs := by
  rw [Nat.mod_eq_of_lt hoff, Nat.mod_eq_of_lt hidx, Nat.add_mul, Nat.add_assoc, Nat.div_add_mod']

/-- The position is exact exactly when the disk block size divides the
logical block's byte offset in the extent. -/
theorem physicalBlock_bytes_exact_iff {lbs lba dbs start startLba : ℕ}
    (hoff : (lba - startLba) * lbs < 2 ^ 64)
    (hidx : start + (lba - startLba) * lbs / dbs < 2 ^ 64) :
    (start + (lba - startLba) * lbs % 2 ^ 64 / dbs) % 2 ^ 64 * dbs = start * dbs + (lba - startLba) * lbs ↔
      dbs ∣ (lba - startLba) * lbs := by
  have h := physicalBlock_bytes hoff hidx
  rw [Nat.dvd_iff_mod_eq_zero]
  omega

section Exact

variable (codes : UndefinedCodes) (ioCodes : IoCodes) (findDisk : ℕ → Option XsanDisk) (lookup : VolumeLookup)

/-- A block found in an extent whose disk block size divides the volume block
size starts exactly at the logical block's byte position, barring
wrap-around. -/
theorem ExtentHit.exact_of_dvd {lbs lba : ℕ} {extent : XsanVolumeExtentMapping} {pb : PhysicalBlock}
    (hit : ExtentHit findDisk lbs lba extent pb)
    (hdvd : ∀ disk, findDisk extent.diskId = some disk → disk.blockSizeBytes ∣ lbs)
    (hwrap : extent.startBlockOnDisk + (lba - extent.volumeStartLba) * lbs < 2 ^ 64) :
    ∃ disk, findDisk extent.diskId = some disk ∧ pb.diskId = extent.diskId ∧
      pb.physicalBlockSize = disk.blockSizeBytes ∧ extent.volumeStartLba ≤ lba ∧
      pb.physicalBlockIdx * pb.physicalBlockSize =
        extent.startBlockOnDisk * disk.blockSizeBytes + (lba - extent.volumeStartLba) * lbs := by
  obtain ⟨disk, hdisk, -, hle, -, rfl⟩ := hit
  have hoff : (lba - extent.volumeStartLba) * lbs < 2 ^ 64 := by omega
  -- the block index cannot wrap: it is at most the byte offset added to the start
  have hidx : extent.startBlockOnDisk + (lba - extent.volumeStartLba) * lbs / disk.blockSizeBytes < 2 ^ 64 :=
    Nat.lt_of_le_of_lt (Nat.add_le_add_left (Nat.div_le_self _ _) _) hwrap
  have hdvd' : disk.blockSizeBytes ∣ (lba - extent.volumeStartLba) * lbs :=
    Nat.dvd_mul_left_of_dvd (hdvd disk hdisk) _
  exact ⟨disk, hdisk, rfl, rfl, hle, (physicalBlock_bytes_exact_iff hoff hidx).mpr hdvd'⟩

/-- When the block size of every disk the volume's stored extents name
divides the record's volume block size, a successful
`xsan_volume_map_lba_to_physical` finds, in one of the extents, the disk
block that starts exactly at the logical block's byte position, barring
wrap-around. -/
theorem xsanVolumeMapLbaToPhysical_exact_of_dvd {vm : XsanVolumeManager} {volumeId lba : ℕ}
    {env : MapEnv} {pb : PhysicalBlock} {allocMeta : XsanVolumeAllocationMeta}
    (hstore : vm.mdStore (.volAlloc volumeId) = some (.allocMeta allocMeta))
    (hdvd : ∀ extent ∈ allocMeta.extents, ∀ disk, findDisk extent.diskId = some disk →
      disk.blockSizeBytes ∣ allocMeta.volumeLogicalBlockSize)
    (hwrap : ∀ extent ∈ allocMeta.extents,
      extent.startBlockOnDisk + (lba - extent.volumeStartLba) * allocMeta.volumeLogicalBlockSize < 2 ^ 64)
    (h : xsanVolumeMapLbaToPhysical codes ioCodes findDisk lookup vm volumeId lba env = .ok pb) :
    ∃ extent ∈ allocMeta.extents, ∃ disk, findDisk extent.diskId = some disk ∧
      pb.diskId = extent.diskId ∧ pb.physicalBlockSize = disk.blockSizeBytes ∧
      extent.volumeStartLba ≤ lba ∧
      pb.physicalBlockIdx * pb.physicalBlockSize =
        extent.startBlockOnDisk * disk.blockSizeBytes +
          (lba - extent.volumeStartLba) * allocMeta.volumeLogicalBlockSize := by
  obtain ⟨-, allocMeta', -, -, hstore', extent, hmem, hit⟩ :=
    xsanVolumeMapLbaToPhysical_eq_ok codes ioCodes findDisk lookup h
  -- the record the mapping read is the stored one
  obtain rfl : allocMeta' = allocMeta := by
    rw [hstore] at hstore'
    cases hstore'
    rfl
  have hmem' := List.mem_of_mem_take hmem
  exact ⟨extent, hmem', hit.exact_of_dvd findDisk (hdvd extent hmem') (hwrap extent hmem')⟩

end Exact

/-! ## Small volume blocks on a large-block disk -/

/-- A disk of 4096-byte blocks. -/
def largeBlockDisk : XsanDisk := ⟨1, "nvme0n1".toList, 4096, true⟩

/-- A volume of eight 512-byte blocks. -/
def smallBlockVolume : XsanVolume where
  id := 1
  name := "v".toList
  sizeBytes := 4096
  blockSizeBytes := 512
  numBlocks := 8
  state := .online
  sourceGroupId := 7
  thinProvisioned := false
  allocatedBytes := 4096
  ftt := 0
  actualReplicaCount := 1
  replicaNodes := List.replicate xsanMaxReplicas .zero

/-- Its allocation: one disk block, which holds the eight volume blocks. -/
def smallBlockAllocMeta : XsanVolumeAllocationMeta := ⟨1, 7, 1, 8, 512, [⟨1, 0, 1, 0⟩]⟩

/-- A manager holding that volume and its allocation record. -/
def smallBlockManager : XsanVolumeManager where
  initialized := true
  managedVolumes := [smallBlockVolume]
  mdStore := fun k => if k = .volAlloc 1 then some (.allocMeta smallBlockAllocMeta) else none
  diskGroupStates := fun _ => none
  allocatedExtents := fun _ => 0

/-- The disk manager that knows the one disk. -/
def largeBlockDisks (id : ℕ) : Option XsanDisk := if id = 1 then some largeBlockDisk else none

/-- Volume blocks 0 and 1, whose exact byte positions on the disk are 0 and
512, both map to disk block 0: the offset 512 is divided by 4096 and rounded
down. -/
theorem lba_map_collides_small_blocks (codes : UndefinedCodes) (ioCodes : IoCodes) :
    xsanVolumeMapLbaToPhysical codes ioCodes largeBlockDisks VolumeLookup.first smallBlockManager 1 0 .ok = .ok ⟨1, 0, 4096⟩ ∧
      xsanVolumeMapLbaToPhysical codes ioCodes largeBlockDisks VolumeLookup.first smallBlockManager 1 1 .ok = .ok ⟨1, 0, 4096⟩ ∧
      smallBlockAllocMeta.volumeLogicalBlockSize = smallBlockVolume.blockSizeBytes := by
  refine ⟨rfl, rfl, rfl⟩

/-- The disk manager that knows one disk of 512-byte blocks, the volume's
block size. -/
def sectorDisks (id : ℕ) : Option XsanDisk := if id = 1 then some ⟨1, "nvme0n1".toList, 512, true⟩ else none

/-- On a disk of 512-byte blocks the first block of the volume is found at its
exact position. -/
theorem xsanVolumeMapLbaToPhysical_exact_of_dvd_sector :
    smallBlockManager.mdStore (.volAlloc 1) = some (.allocMeta smallBlockAllocMeta) ∧
      (∀ extent ∈ smallBlockAllocMeta.extents, ∀ disk, sectorDisks extent.diskId = some disk →
        disk.blockSizeBytes ∣ smallBlockAllocMeta.volumeLogicalBlockSize) ∧
      (∀ extent ∈ smallBlockAllocMeta.extents,
        extent.startBlockOnDisk + (0 - extent.volumeStartLba) * smallBlockAllocMeta.volumeLogicalBlockSize <
          2 ^ 64) ∧
      xsanVolumeMapLbaToPhysical UndefinedCodes.fresh IoCodes.fresh sectorDisks VolumeLookup.first
        smallBlockManager 1 0 .ok = .ok ⟨1, 0, 512⟩ ∧
      ∃ extent ∈ smallBlockAllocMeta.extents, ∃ disk, sectorDisks extent.diskId = some disk ∧
        (⟨1, 0, 512⟩ : PhysicalBlock).diskId = extent.diskId ∧
        (⟨1, 0, 512⟩ : PhysicalBlock).physicalBlockSize = disk.blockSizeBytes ∧
        extent.volumeStartLba ≤ 0 ∧
        (⟨1, 0, 512⟩ : PhysicalBlock).physicalBlockIdx * (⟨1, 0, 512⟩ : PhysicalBlock).physicalBlockSize =
          extent.startBlockOnDisk * disk.blockSizeBytes +
            (0 - extent.volumeStartLba) * smallBlockAllocMeta.volumeLogicalBlockSize := by
  have hstore : smallBlockManager.mdStore (.volAlloc 1) = some (.allocMeta smallBlockAllocMeta) := rfl
  have hdvd : ∀ extent ∈ smallBlockAllocMeta.extents, ∀ disk, sectorDisks extent.diskId = some disk →
      disk.blockSizeBytes ∣ smallBlockAllocMeta.volumeLogicalBlockSize := by
    intro extent hmem disk hdisk
    simp only [smallBlockAllocMeta, List.mem_singleton] at hmem
    subst hmem
    simp only [sectorDisks, if_true, Option.some.injEq] at hdisk
    subst hdisk
    exact Nat.dvd_refl _
  have hwrap : ∀ extent ∈ smallBlockAllocMeta.extents,
      extent.startBlockOnDisk + (0 - extent.volumeStartLba) * smallBlockAllocMeta.volumeLogicalBlockSize <
        2 ^ 64 := by
    intro extent hmem
    simp only [smallBlockAllocMeta, List.mem_singleton] at hmem
    subst hmem
    decide
  have hmap : xsanVolumeMapLbaToPhysical UndefinedCodes.fresh IoCodes.fresh sectorDisks VolumeLookup.first
      smallBlockManager 1 0 .ok = .ok ⟨1, 0, 512⟩ := rfl
  exact ⟨hstore, hdvd, hwrap, hmap, xsanVolumeMapLbaToPhysical_exact_of_dvd UndefinedCodes.fresh IoCodes.fresh
    sectorDisks VolumeLookup.first hstore hdvd hwrap hmap⟩

end Xsan
