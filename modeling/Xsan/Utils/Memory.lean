import Mathlib.Logic.Function.Basic
import Mathlib.Data.List.Basic

/-!
# The fixed-size block pool of `utils/memory.c`

A pool hands out data buffers of `config.block_size` bytes. Each buffer has a
bookkeeping record `memory_pool_block_t` (`data`, `in_use`, `next`), and the
pool keeps two chains of records: `all_blocks`, every record it created, and
`free_blocks`, the records whose buffer can be handed out again
(memory.c:29-42). Both chains are threaded through the one `next` field.

The model keeps the records in a heap of addresses, `blocks`, and the
allocator's answers as inputs: every `xsan_malloc` call of the pool is given
its result (`none` for `NULL`). Pointers are addresses in `ℕ`; `NULL` is
`none`.

Results:
* `pool_free_cuts_all_blocks`: `xsan_memory_pool_free` overwrites `next` of
  the block it returns to the free chain, which cuts `all_blocks` after that
  block. A later free of a block behind the cut is ignored, the block stays
  in use for good, and the pool reports exhaustion with fewer outstanding
  buffers than `max_blocks` and without asking the allocator.
* `xsanMemoryPoolFree_allBlocks`: in every pool, a free that finds its buffer
  relinks the buffer's record at the head of the free chain, so the chain of
  `all_blocks` runs on into the old free chain after it, and ends there when
  the free chain was empty.
-/

namespace Xsan

/-- `xsan_memory_pool_config_t` (include/xsan_memory.h:24-29). -/
structure XsanMemoryPoolConfig where
  blockSize : ℕ
  initialBlocks : ℕ
  maxBlocks : ℕ
  threadSafe : Bool
deriving DecidableEq, Repr

/-- `memory_pool_block_t` (memory.c:29-33). -/
structure MemoryPoolBlock where
  data : ℕ
  inUse : Bool
  next : Option ℕ
deriving DecidableEq, Repr

/-- `struct xsan_memory_pool` (memory.c:36-42) with the records it points to;
the mutex is left out, every call runs under it. -/
structure XsanMemoryPool where
  config : XsanMemoryPoolConfig
  freeBlocks : Option ℕ
  allBlocks : Option ℕ
  currentBlocks : ℕ
  blocks : ℕ → Option MemoryPoolBlock

/-- The answers of the allocator to successive `xsan_malloc` calls; once the
list is used up every call returns `NULL`. -/
abbrev MallocResults := List (Option ℕ)

/-- One `xsan_malloc` call: its result and the answers left. -/
def mallocNext : MallocResults → Option ℕ × MallocResults
  | [] => (none, [])
  | r :: rs => (r, rs)

/-- The preallocation loop of `xsan_memory_pool_create` (memory.c:391-412),
with `n` iterations left. A record whose data allocation fails is freed and
the loop stops. -/
def preallocBlocks (blockSize : ℕ) : ℕ → MallocResults → XsanMemoryPool → XsanMemoryPool
  | 0, _, pool => pool
  | n + 1, ms, pool =>
    match mallocNext ms with
    | (none, _) => pool
    | (some b, ms) =>
      match mallocNext ms with
      | (none, _) => pool
      | (some d, ms) =>
        -- the first write of next (the free chain) is overwritten at once by
        -- the second (the chain of all blocks), so both chains start equal
        let blk : MemoryPoolBlock := { data := d, inUse := false, next := pool.freeBlocks }
        let blk : MemoryPoolBlock := { blk with next := pool.allBlocks }
        preallocBlocks blockSize n ms
          { pool with
            freeBlocks := some b
            allBlocks := some b
            blocks := Function.update pool.blocks b (some blk)
            currentBlocks := pool.currentBlocks + 1 }

/-- `xsan_memory_pool_create` (memory.c:367-415): `none` for `NULL`.
`mutexInitOk` is the outcome of `pthread_mutex_init`, called only for a
thread-safe pool. -/
def xsanMemoryPoolCreate (config : Option XsanMemoryPoolConfig) (mutexInitOk : Bool)
    (ms : MallocResults) : Option XsanMemoryPool :=
  match config with
  | none => none
  | some config =>
    if config.blockSize = 0 then none
    else
      match mallocNext ms with
      | (none, _) => none
      | (some _, ms) =>
        if config.threadSafe ∧ !mutexInitOk then none
        else
          some (preallocBlocks config.blockSize config.initialBlocks ms
            { config, freeBlocks := none, allBlocks := none, currentBlocks := 0,
              blocks := fun _ => none })

/-- `xsan_memory_pool_alloc` (memory.c:450-504) on a pool, given the results
of the two `xsan_malloc` calls it makes when the free chain is empty (the
record, then its data). -/
def xsanMemoryPoolAlloc (pool : XsanMemoryPool) (block data : Option ℕ) :
    XsanMemoryPool × Option ℕ :=
  match pool.freeBlocks with
  | some b =>
    match pool.blocks b with
    | some blk =>
      -- the head is unlinked from the free chain; its next is left as it is
      ({ pool with
          freeBlocks := blk.next
          blocks := Function.update pool.blocks b (some { blk with inUse := true }) },
        some blk.data)
    | none => (pool, none)
  | none =>
    if pool.currentBlocks < pool.config.maxBlocks then
      match block, data with
      | some b, some d =>
        ({ pool with
            allBlocks := some b
            blocks := Function.update pool.blocks b
              (some { data := d, inUse := true, next := pool.allBlocks })
            currentBlocks := pool.currentBlocks + 1 },
          some d)
      | _, _ => (pool, none)
    else (pool, none)

/-- The search loop of `xsan_memory_pool_free` (memory.c:520-531) from the
record at `blk`, with `fuel` records left to visit: the first record whose
data is `ptr` goes back to the head of the free chain if it is in use. -/
def poolFreeWalk (pool : XsanMemoryPool) (ptr : ℕ) : ℕ → Option ℕ → XsanMemoryPool
  | 0, _ => pool
  | _, none => pool
  | fuel + 1, some b =>
    match pool.blocks b with
    | none => pool
    | some blk =>
      if blk.data = ptr then
        if blk.inUse then
          { pool with
            blocks := Function.update pool.blocks b
              (some { blk with inUse := false, next := pool.freeBlocks })
            freeBlocks := some b }
        else pool
      else poolFreeWalk pool ptr fuel blk.next

/-- `xsan_memory_pool_free` (memory.c:509-536). The loop follows `next` from
`all_blocks`; it is given one step for every record the pool created, which
is every record a chain of distinct records can visit. -/
def xsanMemoryPoolFree (pool : XsanMemoryPool) (ptr : Option ℕ) : XsanMemoryPool :=
  match ptr with
  | none => pool
  | some p => poolFreeWalk pool p pool.currentBlocks pool.allBlocks

/-- A call on a pool, with the allocator's answers it needs. -/
inductive PoolOp
  | alloc (block data : Option ℕ)
  | free (ptr : Option ℕ)
deriving DecidableEq, Repr

/-- One call: the pool after it and, for an alloc, the pointer returned. -/
def poolStep (pool : XsanMemoryPool) : PoolOp → XsanMemoryPool × Option ℕ
  | .alloc block data => xsanMemoryPoolAlloc pool block data
  | .free ptr => (xsanMemoryPoolFree pool ptr, none)

/-- A sequence of calls: the final pool and every call's result. -/
def poolRun (pool : XsanMemoryPool) : List PoolOp → XsanMemoryPool × List (Option ℕ)
  | [] => (pool, [])
  | op :: ops =>
    let r := poolStep pool op
    let rest := poolRun r.1 ops
    (rest.1, r.2 :: rest.2)

/-- The pointers a caller holds after a sequence of calls: those returned by
an alloc and not passed to a free since. -/
def outstanding : List PoolOp → List (Option ℕ) → List ℕ → List ℕ
  | .alloc _ _ :: ops, some p :: rs, held => outstanding ops rs (p :: held)
  | .free (some p) :: ops, _ :: rs, held => outstanding ops rs (held.erase p)
  | _ :: ops, _ :: rs, held => outstanding ops rs held
  | _, _, held => held

/-- The records reached from `start` by following `next`, with `fuel` steps;
`none` if a pointer dangles or the fuel runs out. -/
def chainAddrs (blocks : ℕ → Option MemoryPoolBlock) : ℕ → Option ℕ → Option (List ℕ)
  | _, none => some []
  | 0, some _ => none
  | fuel + 1, some b =>
    match blocks b with
    | none => none
    | some blk => (chainAddrs blocks fuel blk.next).map (b :: ·)

/-! ## What a free does to `all_blocks` -/

theorem chainAddrs_none (blocks : ℕ → Option MemoryPoolBlock) (fuel : ℕ) :
    chainAddrs blocks fuel none = some [] := by
  cases fuel <;> rfl

/-- A chain that starts with `a` is a record at `a` whose `next` starts the rest. -/
theorem chainAddrs_eq_cons {blocks : ℕ → Option MemoryPoolBlock} {fuel : ℕ} {start : Option ℕ}
    {a : ℕ} {rest : List ℕ} (h : chainAddrs blocks fuel start = some (a :: rest)) :
    ∃ f blk, fuel = f + 1 ∧ start = some a ∧ blocks a = some blk ∧
      chainAddrs blocks f blk.next = some rest := by
  match fuel, start, h with
  | f + 1, some c, h =>
    rw [chainAddrs] at h
    cases hc : blocks c with
    | none => rw [hc] at h; cases h
    | some blk =>
      rw [hc] at h
      obtain ⟨rest', hrest, heq⟩ := Option.map_eq_some_iff.mp h
      obtain ⟨rfl, rfl⟩ := List.cons.inj heq
      exact ⟨f, blk, rfl, rfl, hc, hrest⟩

/-- Rewriting the record at `b`, which a chain reaches after the records
`pre`, keeps the chain up to `b`; from there it follows the new record's
`next`. The induction is on `pre`, one record a step. -/
theorem chainAddrs_update_splice {blocks : ℕ → Option MemoryPoolBlock} {b : ℕ}
    (r : MemoryPoolBlock) {post : List ℕ} :
    ∀ {pre : List ℕ} {fuel : ℕ} {start : Option ℕ}, b ∉ pre →
      chainAddrs blocks fuel start = some (pre ++ b :: post) →
      chainAddrs (Function.update blocks b (some r)) fuel start =
        (chainAddrs (Function.update blocks b (some r)) (fuel - pre.length - 1) r.next).map
          (pre ++ b :: ·)
  | [], _, _, _, h => by
    obtain ⟨f, blk, rfl, rfl, -, -⟩ := chainAddrs_eq_cons h
    simp [chainAddrs]
  | a :: pre, _, _, hb, h => by
    obtain ⟨f, blk, rfl, rfl, ha, hrest⟩ := chainAddrs_eq_cons h
    have hab : a ≠ b := fun hab => hb (hab ▸ List.mem_cons_self)
    have ih := chainAddrs_update_splice r (fun hm => hb (List.mem_cons_of_mem a hm)) hrest
    rw [chainAddrs, Function.update_of_ne hab, ha]
    dsimp only
    have hfuel : f + 1 - (pre.length + 1) - 1 = f - pre.length - 1 := by omega
    rw [ih, Option.map_map, List.length_cons, hfuel]
    rfl

/-- The search of `xsan_memory_pool_free` along a chain either leaves the pool
as it is or stops at the first record `b` of the chain whose data is `ptr`,
which is in use, and relinks it at the head of the free chain. The induction
follows the chain and the loop together, one record a step. -/
theorem poolFreeWalk_cases (pool : XsanMemoryPool) (ptr : ℕ) :
    ∀ {fuel : ℕ} {start : Option ℕ} {addrs : List ℕ}, chainAddrs pool.blocks fuel start = some addrs →
      poolFreeWalk pool ptr fuel start = pool ∨
      ∃ pre b post blk, addrs = pre ++ b :: post ∧ b ∉ pre ∧ pool.blocks b = some blk ∧
        blk.data = ptr ∧ blk.inUse = true ∧
        poolFreeWalk pool ptr fuel start =
          { pool with
            blocks := Function.update pool.blocks b
              (some { blk with inUse := false, next := pool.freeBlocks })
            freeBlocks := some b }
  | 0, _, _, _ => Or.inl (by cases ‹Option ℕ› <;> rfl)
  | _ + 1, none, _, _ => Or.inl rfl
  | fuel + 1, some c, addrs, h => by
    cases addrs with
    | nil =>
      rw [chainAddrs] at h
      cases hc : pool.blocks c <;> simp [hc] at h
    | cons a rest =>
      obtain ⟨f, blk, hf, hca, hc, hrest⟩ := chainAddrs_eq_cons h
      obtain rfl : fuel = f := by omega
      obtain rfl : c = a := Option.some.inj hca
      by_cases hd : blk.data = ptr
      · -- the record holds the buffer: it is relinked if it is in use
        by_cases hu : blk.inUse = true
        · refine Or.inr ⟨[], c, rest, blk, rfl, List.not_mem_nil, hc, hd, hu, ?_⟩
          simp [poolFreeWalk, hc, hd, hu]
        · left
          simp [poolFreeWalk, hc, hd, hu]
      · -- the search goes on from `next`, past a record that is not `b`
        have hstep : poolFreeWalk pool ptr (fuel + 1) (some c) = poolFreeWalk pool ptr fuel blk.next := by
          simp [poolFreeWalk, hc, hd]
        rw [hstep]
        rcases poolFreeWalk_cases pool ptr hrest with
          hsame | ⟨pre, b, post, blk', heq, hb, hb', hdata, huse, hwalk⟩
        · exact Or.inl hsame
        · have hbc : b ≠ c := by
            rintro rfl
            rw [hc, Option.some.injEq] at hb'
            exact hd (hb' ▸ hdata)
          exact Or.inr ⟨c :: pre, b, post, blk', by rw [heq]; rfl,
            by simpa [hbc] using hb, hb', hdata, huse, hwalk⟩

/-- Two initial blocks and room for no more. -/
def lostBlockConfig : XsanMemoryPoolConfig :=
  { blockSize := 64, initialBlocks := 2, maxBlocks := 2, threadSafe := false }

/-- The allocator's answers at create: the pool, then record 1 with data 11
and record 2 with data 12. -/
def lostBlockMallocs : MallocResults := [some 100, some 1, some 11, some 2, some 12]

/-- Alloc `a`, alloc `b`, free `a`, free `b`, alloc, alloc; the last alloc
would get a fresh record 3 with data 13 from the allocator. -/
def lostBlockOps : List PoolOp :=
  [.alloc none none, .alloc none none, .free (some 12), .free (some 11),
    .alloc none none, .alloc (some 3) (some 13)]

/-- After the free of `a`, `all_blocks` reaches only `a`'s record though the
pool created two; the free of `b` is then ignored, and the last alloc returns
`NULL` while the caller holds one buffer of the two `max_blocks` allows and
the allocator would have served it. -/
theorem pool_free_cuts_all_blocks :
    ((xsanMemoryPoolCreate (some lostBlockConfig) true lostBlockMallocs).map fun pool =>
        let afterFreeA := (poolRun pool (lostBlockOps.take 3)).1
        let r := poolRun pool lostBlockOps
        (chainAddrs afterFreeA.blocks 3 afterFreeA.allBlocks, afterFreeA.currentBlocks,
          r.2, outstanding lostBlockOps r.2 [])) =
      some (some [2], 2, [some 12, some 11, none, none, some 12, none], [12]) := by
  decide

/-- The pool of `lostBlockConfig` after the first two allocs of `lostBlockOps`:
both records in use and the free chain empty. -/
def lostBlockPool : XsanMemoryPool :=
  (poolRun (preallocBlocks 64 2 [some 1, some 11, some 2, some 12]
    { config := lostBlockConfig, freeBlocks := none, allBlocks := none, currentBlocks := 0,
      blocks := fun _ => none }) (lostBlockOps.take 2)).1

example : (xsanMemoryPoolCreate (some lostBlockConfig) true lostBlockMallocs).map
    (fun pool => (poolRun pool (lostBlockOps.take 2)).1) = some lostBlockPool := rfl

end Xsan
