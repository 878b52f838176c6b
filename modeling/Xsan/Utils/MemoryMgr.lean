import Xsan.Lib.DLinked
import Xsan.Common.Error

/-!
# The global allocator of `utils/memory.c`

`xsan_malloc`, `xsan_calloc`, `xsan_realloc`, `xsan_strdup`, `xsan_strndup`
and `xsan_free` (memory.c:117-362) go through one global manager,
`g_memory_mgr` (memory.c:45-59): an `initialized` flag, the `debug_enabled`
mode chosen by `xsan_memory_init`, the statistics `xsan_memory_get_stats`
hands out, and in debug mode the list `allocated_blocks` of the headers put
in front of every block.

The model keeps the headers in a heap of addresses (`Xsan.Lib.DLinked`), with
the `size` and `magic` fields the code reads; the `file` and `line` fields are
only printed. What libc `malloc` and `realloc` return is an input of each call
(`none` for `NULL`). The statistics are `uint64_t` counters and wrap as such.

Every function takes the manager's mutex. The calling thread never holds it
between calls, except in two places: the debug branch of `xsan_realloc` calls
`xsan_malloc` with the mutex still locked, and `xsan_memory_cleanup` calls
`xsan_memory_check_leaks` so. The mutex is a default one
(`PTHREAD_MUTEX_INITIALIZER`), so on glibc the second lock never returns. The
model keeps a `mutexHeld` flag; a call that finds it set returns `none`, for a
call that never returns.

Results:
* `memory_stats_drift_without_debug`: without debug, `xsan_free` counts the
  free and changes neither `current_allocated` nor `total_freed`, so after a
  malloc and its free the reported current usage stays up.
* `xsanRealloc_debug_blocks`: in debug mode, `xsan_realloc` of a block with
  a valid header to a non-zero size never returns.
* `xsanMemoryCleanup_debug_blocks`: in debug mode, `xsan_memory_cleanup`
  with a block still linked never returns.
-/

namespace Xsan

open DLinked

/-- `XSAN_MEMORY_MAGIC`, `"XSAF"`. -/
def xsanMemoryMagic : UInt32 := 0x58534146

/-- `XSAN_MEMORY_FREED_MAGIC`, `"FREE"`. -/
def xsanMemoryFreedMagic : UInt32 := 0x46524545

/-- `sizeof(memory_block_header_t)` on LP64: `size`, `magic` (padded to 8),
`next`, `prev`, `file`, and `line` (padded to 8). -/
def memoryBlockHeaderSize : ℕ := 48

/-- `xsan_memory_stats_t` (include/xsan_memory.h:34-43). -/
structure XsanMemoryStats where
  totalAllocated : UInt64
  totalFreed : UInt64
  currentAllocated : UInt64
  peakAllocated : UInt64
  allocationCount : UInt64
  freeCount : UInt64
  poolHits : UInt64
  poolMisses : UInt64
deriving DecidableEq, Repr

/-- The statistics as `memset` leaves them. -/
def XsanMemoryStats.zero : XsanMemoryStats := ⟨0, 0, 0, 0, 0, 0, 0, 0⟩

/-- The fields of `memory_block_header_t` (memory.c:18-25) that the code
reads back. -/
structure MemoryBlockHeader where
  size : ℕ
  magic : UInt32
deriving DecidableEq, Repr

/-- `g_memory_mgr` (memory.c:45-59) with the headers it links; the OOM
callback is left out, no modelled function reads what it does. -/
structure MemoryMgr where
  initialized : Bool
  debugEnabled : Bool
  stats : XsanMemoryStats
  allocatedBlocks : Option ℕ
  headers : Heap MemoryBlockHeader
  mutexHeld : Bool

/-- The manager before any call: the static initialiser. -/
def MemoryMgr.initial : MemoryMgr :=
  { initialized := false, debugEnabled := false, stats := .zero, allocatedBlocks := none,
    headers := fun _ => none, mutexHeld := false }

/-! ## The statistics updates -/

/-- The update that both branches of `xsan_malloc` make after a successful
allocation (memory.c:158-164 and 176-182). -/
def XsanMemoryStats.recordAlloc (st : XsanMemoryStats) (size : ℕ) : XsanMemoryStats :=
  let current := st.currentAllocated + UInt64.ofNat size
  { st with
    totalAllocated := st.totalAllocated + UInt64.ofNat size
    currentAllocated := current
    peakAllocated := if current > st.peakAllocated then current else st.peakAllocated
    allocationCount := st.allocationCount + 1 }

/-- The update of the debug branch of `xsan_free` (memory.c:298-301). -/
def XsanMemoryStats.recordFree (st : XsanMemoryStats) (size : ℕ) : XsanMemoryStats :=
  { st with
    totalFreed := st.totalFreed + UInt64.ofNat size
    currentAllocated := st.currentAllocated - UInt64.ofNat size
    freeCount := st.freeCount + 1 }

/-! ## The calls -/

/-- `xsan_memory_init` (memory.c:68-88): a second call changes nothing. -/
def xsanMemoryInit (m : MemoryMgr) (enableDebug : Bool) : MemoryMgr × ℤ :=
  if m.initialized then (m, xsanOk)
  else
    let m := { m with
      debugEnabled := enableDebug
      allocatedBlocks := none
      stats := .zero
      initialized := true }
    (m, xsanOk)

/-- `xsan_malloc` (memory.c:117-187): the manager after the call and the
pointer returned; `r` is what libc `malloc` returns, for the header and the
block together in debug mode, where the caller gets the address just past
the header. -/
def xsanMalloc (m : MemoryMgr) (size : ℕ) (r : Option ℕ) : Option (MemoryMgr × Option ℕ) :=
  if size = 0 then some (m, none)
  else if m.mutexHeld then none
  else if !m.initialized then some (m, r)
  else if m.debugEnabled then
    match r with
    | none => some (m, none)
    | some a =>
      -- the new header goes in front of `allocated_blocks`
      let cell : Cell MemoryBlockHeader :=
        { value := ⟨size, xsanMemoryMagic⟩, prev := none, next := m.allocatedBlocks }
      let heap : Heap MemoryBlockHeader := Function.update m.headers a (some cell)
      let heap := match m.allocatedBlocks with
        | some b => heap.setPrev b (some a)
        | none => heap
      some ({ m with headers := heap, allocatedBlocks := some a, stats := m.stats.recordAlloc size },
        some (a + memoryBlockHeaderSize))
  else
    match r with
    | none => some (m, none)
    | some p => some ({ m with stats := m.stats.recordAlloc size }, some p)

/-- `xsan_free` (memory.c:264-314). A pointer with no header in front of it
is read as one whose magic does not match: the code reads memory it does not
own there, and the results below only free live blocks. -/
def xsanFree (m : MemoryMgr) (ptr : Option ℕ) : Option MemoryMgr :=
  match ptr with
  | none => some m
  | some p =>
    if m.mutexHeld then none
    else if !m.initialized then some m
    else if m.debugEnabled then
      let a := p - memoryBlockHeaderSize
      match m.headers a with
      | none => some m
      | some c =>
        if c.value.magic ≠ xsanMemoryMagic then some m
        else
          -- unlink the header, then free it
          let blocks := if m.headers.prev a = none then m.headers.next a else m.allocatedBlocks
          some { m with
            headers := Function.update (m.headers.unlink a) a none
            allocatedBlocks := blocks
            stats := m.stats.recordFree c.value.size }
    else
      -- without debug only the free itself is counted
      some { m with stats := { m.stats with freeCount := m.stats.freeCount + 1 } }

/-- The overflow test of `xsan_calloc` (memory.c:194-199) on the `size_t`
product: the size it asks `xsan_malloc` for, `none` when it gives up. -/
def callocTotalSize (nmemb size : ℕ) : Option ℕ :=
  let totalSize := nmemb * size % 2 ^ 64
  if nmemb ≠ 0 ∧ totalSize / nmemb ≠ size then none else some totalSize

/-- `xsan_calloc` (memory.c:192-207); the `memset` is left out with the data. -/
def xsanCalloc (m : MemoryMgr) (nmemb size : ℕ) (r : Option ℕ) : Option (MemoryMgr × Option ℕ) :=
  match callocTotalSize nmemb size with
  | none => some (m, none)
  | some totalSize => xsanMalloc m totalSize r

/-- `xsan_realloc` (memory.c:212-259); `r` is what libc `malloc` or `realloc`
returns, whichever the path calls. -/
def xsanRealloc (m : MemoryMgr) (ptr : Option ℕ) (size : ℕ) (r : Option ℕ) :
    Option (MemoryMgr × Option ℕ) :=
  match ptr with
  | none => xsanMalloc m size r
  | some p =>
    if size = 0 then (xsanFree m (some p)).map (·, none)
    else if m.mutexHeld then none
    else if !m.initialized then some (m, r)
    else if m.debugEnabled then
      match m.headers (p - memoryBlockHeaderSize) with
      | none => some (m, none)
      | some c =>
        if c.value.magic ≠ xsanMemoryMagic then some (m, none)
        else
          -- `xsan_malloc` and `xsan_free` are called with the mutex held
          (xsanMalloc { m with mutexHeld := true } size r).bind fun (m', q) =>
            match q with
            | none => some ({ m' with mutexHeld := false }, none)
            | some _ => (xsanFree m' (some p)).map fun m'' => ({ m'' with mutexHeld := false }, q)
    else
      match r with
      | none => some (m, none)
      | some q => some ({ m with stats := { m.stats with allocationCount := m.stats.allocationCount + 1 } },
          some q)

/-- `xsan_strdup` (memory.c:330-343) of a string of length `len`. -/
def xsanStrdup (m : MemoryMgr) (len : ℕ) (r : Option ℕ) : Option (MemoryMgr × Option ℕ) :=
  xsanMalloc m (len + 1) r

/-- `xsan_strndup` (memory.c:348-362) of at most `n` characters of a string
of length `len`. -/
def xsanStrndup (m : MemoryMgr) (len n : ℕ) (r : Option ℕ) : Option (MemoryMgr × Option ℕ) :=
  xsanMalloc m (min len n + 1) r

/-- `xsan_memory_get_stats` (memory.c:541-552). -/
def xsanMemoryGetStats (m : MemoryMgr) : XsanMemoryStats := m.stats

/-- `xsan_memory_check_leaks` (memory.c:579-602); like the allocation calls
it locks the mutex, after the test of `debug_enabled`. The walk along
`allocated_blocks` has no bound in the code; it is given `fuel` cells. -/
def xsanMemoryCheckLeaks (m : MemoryMgr) (fuel : ℕ) : Option Bool :=
  if !m.debugEnabled then some false
  else if m.mutexHeld then none
  else (walkNext m.headers fuel m.allocatedBlocks).map fun hs =>
    hs.any fun e => e.2.magic == xsanMemoryMagic

/-- `xsan_memory_cleanup` (memory.c:93-112): in debug mode with blocks still
linked, the leak check runs with the mutex held. -/
def xsanMemoryCleanup (m : MemoryMgr) (fuel : ℕ) : Option MemoryMgr :=
  if m.mutexHeld then none
  else if !m.initialized then some m
  else
    let leaks :=
      if m.debugEnabled ∧ m.allocatedBlocks.isSome then
        xsanMemoryCheckLeaks { m with mutexHeld := true } fuel
      else some false
    leaks.map fun _ => { m with initialized := false }

/-! ## Runs of calls -/

/-- A call on the manager, with what libc returns to it. -/
inductive MemCall
  | init (enableDebug : Bool)
  | malloc (size : ℕ) (r : Option ℕ)
  | calloc (nmemb size : ℕ) (r : Option ℕ)
  | realloc (ptr : Option ℕ) (size : ℕ) (r : Option ℕ)
  | strdup (len : ℕ) (r : Option ℕ)
  | strndup (len n : ℕ) (r : Option ℕ)
  | free (ptr : Option ℕ)
deriving DecidableEq, Repr

/-- One call: the manager after it and the pointer returned (`none` for the
calls that return none); `none` if the call never returns. -/
def memStep (m : MemoryMgr) : MemCall → Option (MemoryMgr × Option ℕ)
  | .init enableDebug => some ((xsanMemoryInit m enableDebug).1, none)
  | .malloc size r => xsanMalloc m size r
  | .calloc nmemb size r => xsanCalloc m nmemb size r
  | .realloc ptr size r => xsanRealloc m ptr size r
  | .strdup len r => xsanStrdup m len r
  | .strndup len n r => xsanStrndup m len n r
  | .free ptr => (xsanFree m ptr).map (·, none)

/-- A sequence of calls: the final manager and every call's result; `none` if
some call never returns. -/
def memRun (m : MemoryMgr) : List MemCall → Option (MemoryMgr × List (Option ℕ))
  | [] => some (m, [])
  | c :: cs =>
    (memStep m c).bind fun (m', r) => (memRun m' cs).map fun (m'', rs) => (m'', r :: rs)

/-! ## What the program holds -/

/-- The blocks a program holds, as pointer and requested size, after one call
returned `res`: what the claim's "live allocations" are. -/
def liveStep (live : List (ℕ × ℕ)) : MemCall → Option ℕ → List (ℕ × ℕ)
  | .malloc size _, some p => (p, size) :: live
  | .calloc nmemb size _, some p => (p, nmemb * size) :: live
  | .strdup len _, some p => (p, len + 1) :: live
  | .strndup len n _, some p => (p, min len n + 1) :: live
  | .realloc none size _, some p => (p, size) :: live
  | .realloc (some p) size _, some q => (q, size) :: live.filter (·.1 ≠ p)
  | .realloc (some p) 0 _, none => live.filter (·.1 ≠ p)
  | .free (some p), _ => live.filter (·.1 ≠ p)
  | _, _ => live

/-- The blocks held after a sequence of calls and their results. -/
def liveRun (live : List (ℕ × ℕ)) : List MemCall → List (Option ℕ) → List (ℕ × ℕ)
  | c :: cs, r :: rs => liveRun (liveStep live c r) cs rs
  | _, _ => live

/-! ## Lemmas -/

/-- `xsan_malloc` of a non-zero size with the mutex already held never
returns. -/
theorem xsanMalloc_held {m : MemoryMgr} (hheld : m.mutexHeld = true) {size : ℕ} (hsize : size ≠ 0)
    (r : Option ℕ) : xsanMalloc m size r = none := by
  simp [xsanMalloc, hsize, hheld]

/-- In debug mode, growing or shrinking a block whose header is valid never
returns: the nested `xsan_malloc` waits for the mutex its caller holds. -/
theorem xsanRealloc_debug_blocks {m : MemoryMgr} (hinit : m.initialized = true)
    (hdebug : m.debugEnabled = true) (hfree : m.mutexHeld = false) {p : ℕ} {c : Cell MemoryBlockHeader}
    (hc : m.headers (p - memoryBlockHeaderSize) = some c) (hmagic : c.value.magic = xsanMemoryMagic)
    {size : ℕ} (hsize : size ≠ 0) (r : Option ℕ) : xsanRealloc m (some p) size r = none := by
  simp only [xsanRealloc, hsize, hfree, hinit, hdebug, hc, hmagic, if_false, ne_eq,
    not_true_eq_false, Bool.not_true, Bool.false_eq_true]
  rw [xsanMalloc_held rfl hsize]
  rfl

/-- In debug mode with a block still linked, `xsan_memory_cleanup` never
returns: the leak check waits for the mutex its caller holds. -/
theorem xsanMemoryCleanup_debug_blocks {m : MemoryMgr} (hinit : m.initialized = true)
    (hdebug : m.debugEnabled = true) (hfree : m.mutexHeld = false) {a : ℕ}
    (hblocks : m.allocatedBlocks = some a) (fuel : ℕ) : xsanMemoryCleanup m fuel = none := by
  simp [xsanMemoryCleanup, xsanMemoryCheckLeaks, hinit, hdebug, hfree, hblocks]

/-! ## A block allocated in debug mode -/

/-- Initialise with debug, and allocate 8 bytes: libc gives the header address
4096, and the caller gets 4144, past the 48 bytes of the header. -/
def debugMalloc : List MemCall := [.init true, .malloc 8 (some 4096)]

/-- Growing that block to 16 bytes never returns. -/
theorem xsanRealloc_debug_blocks_grow :
    ∃ m rs c, memRun MemoryMgr.initial debugMalloc = some (m, rs) ∧ m.initialized = true ∧
      m.debugEnabled = true ∧ m.mutexHeld = false ∧ m.headers (4144 - memoryBlockHeaderSize) = some c ∧
      c.value.magic = xsanMemoryMagic ∧ (16 : ℕ) ≠ 0 ∧ xsanRealloc m (some 4144) 16 (some 8192) = none := by
  obtain ⟨m, rs, h, hinit, hdebug, hfree, c, hc, hmagic⟩ : ∃ m rs,
      memRun MemoryMgr.initial debugMalloc = some (m, rs) ∧ m.initialized = true ∧ m.debugEnabled = true ∧
        m.mutexHeld = false ∧
        ∃ c, m.headers (4144 - memoryBlockHeaderSize) = some c ∧ c.value.magic = xsanMemoryMagic :=
    ⟨_, _, rfl, rfl, rfl, rfl, _, rfl, rfl⟩
  exact ⟨m, rs, c, h, hinit, hdebug, hfree, hc, hmagic, by decide,
    xsanRealloc_debug_blocks hinit hdebug hfree hc hmagic (by decide) (some 8192)⟩

/-- `xsan_memory_cleanup` with that block still allocated never returns. -/
theorem xsanMemoryCleanup_debug_blocks_leak :
    ∃ m rs, memRun MemoryMgr.initial debugMalloc = some (m, rs) ∧ m.initialized = true ∧
      m.debugEnabled = true ∧ m.mutexHeld = false ∧ m.allocatedBlocks = some 4096 ∧
      xsanMemoryCleanup m 10 = none := by
  obtain ⟨m, rs, h, hinit, hdebug, hfree, hblocks⟩ : ∃ m rs,
      memRun MemoryMgr.initial debugMalloc = some (m, rs) ∧ m.initialized = true ∧ m.debugEnabled = true ∧
        m.mutexHeld = false ∧ m.allocatedBlocks = some 4096 :=
    ⟨_, _, rfl, rfl, rfl, rfl, rfl⟩
  exact ⟨m, rs, h, hinit, hdebug, hfree, hblocks, xsanMemoryCleanup_debug_blocks hinit hdebug hfree hblocks 10⟩

/-! ## A run without debug -/

/-- Initialise without debug, allocate 8 bytes (libc gives address 4096) and
free them. -/
def nonDebugMallocFree : List MemCall := [.init false, .malloc 8 (some 4096), .free (some 4096)]

/-- After the run the program holds nothing, yet the statistics still report
the 8 bytes as allocated and none as freed. -/
theorem memory_stats_drift_without_debug :
    ∃ m rs, memRun MemoryMgr.initial nonDebugMallocFree = some (m, rs) ∧
      liveRun [] nonDebugMallocFree rs = [] ∧
      (xsanMemoryGetStats m).currentAllocated = 8 ∧ (xsanMemoryGetStats m).totalFreed = 0 := by
  refine ⟨_, _, rfl, ?_, ?_, ?_⟩ <;> rfl

end Xsan
