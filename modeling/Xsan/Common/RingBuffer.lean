import Xsan.Lib.Ring
import Xsan.Utils.MemoryMgr

/-!
# The ring buffer of `common/ring_buffer.c`

`xsan_ring_buffer_t` (ring_buffer.c:7-15) keeps `capacity` element pointers
in an array, with `head` the slot of the oldest element, `tail` the slot the
next push writes, and `count` the number of elements. `head` and `tail` wrap
independently with `% capacity`; only `count` tells a full buffer from an
empty one.

The element type is a parameter `α` with a value `null` for `NULL`: the array
is allocated with `XSAN_CALLOC`, so every slot starts as `null`, and the
destructor loop of `xsan_ring_buffer_clear` skips `null` slots. The pointer
checks on `rb` and `value_ptr` are left out: the model has no null buffer,
and the value a pop or peek writes to `*value_ptr` is returned. The counters
are `size_t`; `head + 1` and `tail + 1` are below `capacity`, so they never
wrap, and the model computes them in `ℕ`.

What the buffer is for is `BoundedQueue`: a list of at most `cap` elements,
appended at the back and taken from the front.

Main results:
* `push_refines`, `pop_refines`, `peek_refines`, `clear_refines`: each call
  on a buffer that represents a queue returns what the queue operation
  returns, and leaves a buffer that represents the queue after it.
* `ring_buffer_refines_bounded_queue`: from creation on, every sequence of
  calls returns what a bounded queue of the same capacity returns, and every
  buffer reached keeps `tail = (head + count) % capacity` and
  `count ≤ capacity`.
* `clearDestroyLoop_eq`: the destructor gets the non-`NULL` elements, oldest
  first.
-/

namespace Xsan

/-- `struct xsan_ring_buffer` (ring_buffer.c:7-15); `valueDestroyFunc` says
whether a destructor was given. -/
structure XsanRingBuffer (α : Type) where
  buffer : List α
  capacity : ℕ
  count : ℕ
  head : ℕ
  tail : ℕ
  valueDestroyFunc : Bool
deriving DecidableEq, Repr

section Model

variable {α : Type} [DecidableEq α] (null : α)

/-- `xsan_ring_buffer_create` (ring_buffer.c:17-41). `rbMallocOk` and
`bufferCallocOk` are the answers of the allocator to the two allocations;
`XSAN_CALLOC` refuses a `capacity` whose size in bytes overflows `size_t`. -/
def xsanRingBufferCreate (capacity : ℕ) (valueDestroyFunc rbMallocOk bufferCallocOk : Bool) :
    Option (XsanRingBuffer α) :=
  if capacity = 0 then none
  else if !rbMallocOk then none
  else
    match callocTotalSize capacity 8 with
    | none => none
    | some _ =>
      if !bufferCallocOk then none
      else
        some {
          buffer := List.replicate capacity null
          capacity
          count := 0
          head := 0
          tail := 0
          valueDestroyFunc }

/-- `xsan_ring_buffer_push` (ring_buffer.c:53-66). -/
def xsanRingBufferPush (rb : XsanRingBuffer α) (value : α) : XsanRingBuffer α × ℤ :=
  if rb.count = rb.capacity then (rb, xsanErrorInsufficientSpace)
  else
    ({ rb with
        buffer := rb.buffer.set rb.tail value
        tail := (rb.tail + 1) % rb.capacity
        count := rb.count + 1 }, xsanOk)

/-- `xsan_ring_buffer_pop` (ring_buffer.c:68-82): the buffer, the status and
the value written to `*value_ptr`. -/
def xsanRingBufferPop (rb : XsanRingBuffer α) : XsanRingBuffer α × ℤ × Option α :=
  if rb.count = 0 then (rb, xsanErrorNotFound, none)
  else
    ({ rb with head := (rb.head + 1) % rb.capacity, count := rb.count - 1 }, xsanOk,
      some (rb.buffer.getD rb.head null))

/-- `xsan_ring_buffer_peek` (ring_buffer.c:84-94). -/
def xsanRingBufferPeek (rb : XsanRingBuffer α) : ℤ × Option α :=
  if rb.count = 0 then (xsanErrorNotFound, none) else (xsanOk, some (rb.buffer.getD rb.head null))

/-- `xsan_ring_buffer_size` (ring_buffer.c:96-98). -/
def xsanRingBufferSize (rb : XsanRingBuffer α) : ℕ := rb.count

/-- `xsan_ring_buffer_is_empty` (ring_buffer.c:104-106). -/
def xsanRingBufferIsEmpty (rb : XsanRingBuffer α) : Bool := rb.count == 0

/-- `xsan_ring_buffer_is_full` (ring_buffer.c:108-110). -/
def xsanRingBufferIsFull (rb : XsanRingBuffer α) : Bool := rb.count == rb.capacity

/-- The destructor loop of `xsan_ring_buffer_clear` (ring_buffer.c:119-127)
with `n` iterations left at slot `currentHead`: the values it hands to
`value_destroy_func`. -/
def clearDestroyLoop (rb : XsanRingBuffer α) : ℕ → ℕ → List α
  | 0, _ => []
  | n + 1, currentHead =>
    let valueToDestroy := rb.buffer.getD currentHead null
    let rest := clearDestroyLoop rb n ((currentHead + 1) % rb.capacity)
    if valueToDestroy != null then valueToDestroy :: rest else rest

/-- `xsan_ring_buffer_clear` (ring_buffer.c:112-136): the emptied buffer and
the values passed to the destructor. -/
def xsanRingBufferClear (rb : XsanRingBuffer α) : XsanRingBuffer α × List α :=
  let destroyed := if rb.valueDestroyFunc then clearDestroyLoop null rb rb.count rb.head else []
  ({ rb with head := 0, tail := 0, count := 0 }, destroyed)

end Model

/-! ## The bounded queue -/

/-- A first-in first-out queue of at most `cap` elements. -/
structure BoundedQueue (α : Type) where
  items : List α
  cap : ℕ
  cap_pos : 0 < cap
  length_le : items.length ≤ cap

namespace BoundedQueue

variable {α : Type}

/-- The empty queue of capacity `cap`. -/
def empty (cap : ℕ) (h : 0 < cap) : BoundedQueue α := ⟨[], cap, h, Nat.zero_le _⟩

/-- Append `v`, unless the queue is full. -/
def push (q : BoundedQueue α) (v : α) : BoundedQueue α × ℤ :=
  if h : q.items.length = q.cap then (q, xsanErrorInsufficientSpace)
  else
    (⟨q.items ++ [v], q.cap, q.cap_pos, by
      rw [List.length_append, List.length_singleton]
      exact Nat.lt_of_le_of_ne q.length_le h⟩, xsanOk)

/-- Take the oldest element, unless the queue is empty. -/
def pop (q : BoundedQueue α) : BoundedQueue α × ℤ × Option α :=
  match q with
  | ⟨[], _, _, _⟩ => (q, xsanErrorNotFound, none)
  | ⟨x :: xs, cap, hcap, hlen⟩ =>
    (⟨xs, cap, hcap, Nat.le_of_succ_le hlen⟩, xsanOk, some x)

/-- Read the oldest element, unless the queue is empty. -/
def peek (q : BoundedQueue α) : ℤ × Option α :=
  match q.items with
  | [] => (xsanErrorNotFound, none)
  | x :: _ => (xsanOk, some x)

/-- Drop every element. -/
def clear (q : BoundedQueue α) : BoundedQueue α := ⟨[], q.cap, q.cap_pos, Nat.zero_le _⟩

end BoundedQueue

/-! ## Runs of calls -/

/-- A call on a ring buffer. -/
inductive RingOp (α : Type)
  | push (value : α)
  | pop
  | peek
  | size
  | clear
deriving DecidableEq, Repr

/-- What a call returns: a status with the value written to `*value_ptr`, a
size, or the values handed to the destructor. -/
inductive RingOut (α : Type)
  | status (err : ℤ) (value : Option α)
  | size (n : ℕ)
  | destroyed (values : List α)
deriving DecidableEq, Repr

section Runs

variable {α : Type} [DecidableEq α] (null : α)

/-- One call on the buffer. -/
def ringStep (rb : XsanRingBuffer α) : RingOp α → XsanRingBuffer α × RingOut α
  | .push v => ((xsanRingBufferPush rb v).1, .status (xsanRingBufferPush rb v).2 none)
  | .pop => ((xsanRingBufferPop null rb).1, .status (xsanRingBufferPop null rb).2.1
      (xsanRingBufferPop null rb).2.2)
  | .peek => (rb, .status (xsanRingBufferPeek null rb).1 (xsanRingBufferPeek null rb).2)
  | .size => (rb, .size (xsanRingBufferSize rb))
  | .clear => ((xsanRingBufferClear null rb).1, .destroyed (xsanRingBufferClear null rb).2)

/-- The same call on the queue; a clear hands the non-`NULL` elements, oldest
first, to the destructor when there is one. -/
def queueStep (hasDestroy : Bool) (q : BoundedQueue α) : RingOp α → BoundedQueue α × RingOut α
  | .push v => ((q.push v).1, .status (q.push v).2 none)
  | .pop => (q.pop.1, .status q.pop.2.1 q.pop.2.2)
  | .peek => (q, .status q.peek.1 q.peek.2)
  | .size => (q, .size q.items.length)
  | .clear => (q.clear, .destroyed (if hasDestroy then q.items.filter (· != null) else []))

/-- A sequence of calls on the buffer: the buffer after them and what each
returned. -/
def ringRun (rb : XsanRingBuffer α) : List (RingOp α) → XsanRingBuffer α × List (RingOut α)
  | [] => (rb, [])
  | op :: ops =>
    let r := ringStep null rb op
    ((ringRun r.1 ops).1, r.2 :: (ringRun r.1 ops).2)

/-- The same sequence on the queue. -/
def queueRun (hasDestroy : Bool) (q : BoundedQueue α) : List (RingOp α) → BoundedQueue α × List (RingOut α)
  | [] => (q, [])
  | op :: ops =>
    let r := queueStep null hasDestroy q op
    ((queueRun hasDestroy r.1 ops).1, r.2 :: (queueRun hasDestroy r.1 ops).2)

/-! ## The representation -/

/-- A buffer represents a queue: the claim's invariant
`tail = (head + count) % capacity` with `count ≤ capacity`, the array as large
as the capacity, and the `count` slots from `head` holding the queue. -/
structure RingRepr (rb : XsanRingBuffer α) (q : BoundedQueue α) : Prop where
  capacity_eq : rb.capacity = q.cap
  buffer_length : rb.buffer.length = rb.capacity
  head_lt : rb.head < rb.capacity
  count_le : rb.count ≤ rb.capacity
  tail_eq : rb.tail = (rb.head + rb.count) % rb.capacity
  items_eq : Ring.slice rb.buffer null rb.capacity rb.head rb.count = q.items

variable {null} {rb : XsanRingBuffer α} {q : BoundedQueue α}

omit [DecidableEq α] in
theorem RingRepr.count_eq (hr : RingRepr null rb q) : rb.count = q.items.length := by
  rw [← hr.items_eq, Ring.length_slice]

omit [DecidableEq α] in
theorem RingRepr.capacity_pos (hr : RingRepr null rb q) : 0 < rb.capacity :=
  hr.capacity_eq ▸ q.cap_pos

omit [DecidableEq α] in
theorem xsanRingBufferCreate_repr {capacity : ℕ} {valueDestroyFunc rbMallocOk bufferCallocOk : Bool}
    (h : xsanRingBufferCreate null capacity valueDestroyFunc rbMallocOk bufferCallocOk = some rb)
    (hcap : 0 < capacity) : RingRepr null rb (BoundedQueue.empty capacity hcap) ∧
      rb.valueDestroyFunc = valueDestroyFunc := by
  unfold xsanRingBufferCreate at h
  rw [if_neg (Nat.pos_iff_ne_zero.mp hcap)] at h
  split at h
  · cases h
  · split at h
    · cases h
    · split at h
      · cases h
      · cases h
        exact ⟨⟨rfl, by simp, hcap, Nat.zero_le _, by simp, rfl⟩, rfl⟩

omit [DecidableEq α] in
theorem push_refines (hr : RingRepr null rb q) (v : α) :
    (xsanRingBufferPush rb v).2 = (q.push v).2 ∧
      RingRepr null (xsanRingBufferPush rb v).1 (q.push v).1 := by
  have hcount := hr.count_eq
  by_cases hfull : rb.count = rb.capacity
  · have hq : q.items.length = q.cap := by rw [← hcount, ← hr.capacity_eq, hfull]
    have hpush : xsanRingBufferPush rb v = (rb, xsanErrorInsufficientSpace) := if_pos hfull
    have hqpush : q.push v = (q, xsanErrorInsufficientSpace) := dif_pos hq
    rw [hpush, hqpush]
    exact ⟨rfl, hr⟩
  · have hq : q.items.length ≠ q.cap := by rw [← hcount, ← hr.capacity_eq]; exact hfull
    have hlt : rb.count < rb.capacity := Nat.lt_of_le_of_ne hr.count_le hfull
    rw [xsanRingBufferPush, if_neg hfull, BoundedQueue.push, dif_neg hq]
    refine ⟨rfl, hr.capacity_eq, by simp [hr.buffer_length], hr.head_lt, hlt, ?_, ?_⟩
    · -- `tail + 1` wraps exactly as `head + count + 1` does
      simp only [hr.tail_eq, Nat.mod_add_mod, Nat.add_assoc]
    · simp only [hr.tail_eq]
      rw [Ring.slice_set hlt hr.buffer_length, hr.items_eq]

omit [DecidableEq α] in
theorem pop_refines (hr : RingRepr null rb q) :
    (xsanRingBufferPop null rb).2 = q.pop.2 ∧ RingRepr null (xsanRingBufferPop null rb).1 q.pop.1 := by
  have hcount := hr.count_eq
  obtain ⟨items, cap, hcap, hlen⟩ := q
  cases items with
  | nil =>
    have h0 : rb.count = 0 := hcount
    rw [xsanRingBufferPop, if_pos h0]
    exact ⟨rfl, hr⟩
  | cons x xs =>
    have hpos : rb.count ≠ 0 := by rw [hcount]; exact Nat.succ_ne_zero _
    obtain ⟨n, hn⟩ := Nat.exists_eq_succ_of_ne_zero hpos
    -- the first slot holds `x`, the rest are the slots from the next head
    have hitems := hr.items_eq
    rw [hn, Ring.slice_succ, Nat.mod_eq_of_lt hr.head_lt] at hitems
    obtain ⟨hx, hxs⟩ := List.cons.inj hitems
    rw [xsanRingBufferPop, if_neg hpos, hx]
    refine ⟨rfl, hr.capacity_eq, hr.buffer_length, Nat.mod_lt _ hr.capacity_pos, ?_, ?_, ?_⟩
    · exact Nat.le_trans (Nat.sub_le _ _) hr.count_le
    · dsimp only
      rw [hr.tail_eq, hn, Nat.succ_sub_one, Nat.mod_add_mod, Nat.add_right_comm, Nat.add_assoc]
    · dsimp only
      rw [hn, Nat.succ_sub_one]
      exact hxs

omit [DecidableEq α] in
theorem peek_refines (hr : RingRepr null rb q) : xsanRingBufferPeek null rb = q.peek := by
  have hcount := hr.count_eq
  obtain ⟨items, cap, hcap, hlen⟩ := q
  cases items with
  | nil =>
    have h0 : rb.count = 0 := hcount
    rw [xsanRingBufferPeek, if_pos h0]
    rfl
  | cons x xs =>
    have hpos : rb.count ≠ 0 := by rw [hcount]; exact Nat.succ_ne_zero _
    obtain ⟨n, hn⟩ := Nat.exists_eq_succ_of_ne_zero hpos
    have hitems := hr.items_eq
    rw [hn, Ring.slice_succ, Nat.mod_eq_of_lt hr.head_lt] at hitems
    rw [xsanRingBufferPeek, if_neg hpos, (List.cons.inj hitems).1]
    rfl

/-- The destructor loop visits the slots from `currentHead` and skips the
`NULL` ones. -/
theorem clearDestroyLoop_eq (rb : XsanRingBuffer α) (hcap : 0 < rb.capacity) (n : ℕ) {currentHead : ℕ}
    (hhead : currentHead < rb.capacity) :
    clearDestroyLoop null rb n currentHead =
      (Ring.slice rb.buffer null rb.capacity currentHead n).filter (· != null) := by
  induction n generalizing currentHead with
  | zero => rfl
  | succ n ih =>
    rw [Ring.slice_succ, Nat.mod_eq_of_lt hhead, List.filter_cons,
      ← ih (Nat.mod_lt _ hcap), clearDestroyLoop]

theorem clear_refines (hr : RingRepr null rb q) :
    (xsanRingBufferClear null rb).2 = (if rb.valueDestroyFunc then q.items.filter (· != null) else []) ∧
      RingRepr null (xsanRingBufferClear null rb).1 q.clear := by
  refine ⟨?_, hr.capacity_eq, hr.buffer_length, hr.capacity_pos, Nat.zero_le _, ?_, rfl⟩
  · simp only [xsanRingBufferClear]
    rw [clearDestroyLoop_eq rb hr.capacity_pos _ hr.head_lt, hr.items_eq]
  · simp [xsanRingBufferClear, Nat.zero_mod]

@[simp] theorem ringStep_valueDestroyFunc (rb : XsanRingBuffer α) (op : RingOp α) :
    (ringStep null rb op).1.valueDestroyFunc = rb.valueDestroyFunc := by
  cases op <;> simp [ringStep, xsanRingBufferPush, xsanRingBufferPop, xsanRingBufferClear] <;>
    split_ifs <;> rfl

/-- One call: the buffer answers as the queue does and keeps representing it. -/
theorem ringStep_refines (hr : RingRepr null rb q) (op : RingOp α) :
    (ringStep null rb op).2 = (queueStep null rb.valueDestroyFunc q op).2 ∧
      RingRepr null (ringStep null rb op).1 (queueStep null rb.valueDestroyFunc q op).1 := by
  cases op with
  | push v =>
    obtain ⟨hst, hr'⟩ := push_refines hr v
    exact ⟨by simp [ringStep, queueStep, hst], hr'⟩
  | pop =>
    obtain ⟨hst, hr'⟩ := pop_refines hr
    exact ⟨by simp [ringStep, queueStep, hst], hr'⟩
  | peek => exact ⟨by simp [ringStep, queueStep, peek_refines hr], hr⟩
  | size => exact ⟨by simp [ringStep, queueStep, xsanRingBufferSize, hr.count_eq], hr⟩
  | clear =>
    obtain ⟨hd, hr'⟩ := clear_refines hr
    exact ⟨by simp [ringStep, queueStep, hd], hr'⟩

/-- A run: by induction on the calls, with the step lemma. -/
theorem ringRun_refines (hr : RingRepr null rb q) (ops : List (RingOp α)) :
    (ringRun null rb ops).2 = (queueRun null rb.valueDestroyFunc q ops).2 ∧
      RingRepr null (ringRun null rb ops).1 (queueRun null rb.valueDestroyFunc q ops).1 := by
  induction ops generalizing rb q with
  | nil => exact ⟨rfl, hr⟩
  | cons op ops ih =>
    obtain ⟨hout, hr'⟩ := ringStep_refines hr op
    obtain ⟨hrest, hrepr⟩ := ih hr'
    rw [ringStep_valueDestroyFunc] at hrest hrepr
    exact ⟨by simp only [ringRun, queueRun, hout, hrest], hrepr⟩

/-- The ring buffer is a bounded FIFO queue: after `xsan_ring_buffer_create`
with any capacity `c ≥ 1`, every sequence of push, pop, peek, size and clear
returns exactly what the queue of capacity `c` returns, and the buffer it
reaches represents the queue, with `tail = (head + count) % c` and
`count ≤ c`. -/
theorem ring_buffer_refines_bounded_queue (capacity : ℕ) (hcap : 1 ≤ capacity)
    (valueDestroyFunc rbMallocOk bufferCallocOk : Bool)
    (hrb : xsanRingBufferCreate null capacity valueDestroyFunc rbMallocOk bufferCallocOk = some rb)
    (ops : List (RingOp α)) :
    (ringRun null rb ops).2 =
        (queueRun null valueDestroyFunc (BoundedQueue.empty capacity hcap) ops).2 ∧
      RingRepr null (ringRun null rb ops).1
        (queueRun null valueDestroyFunc (BoundedQueue.empty capacity hcap) ops).1 := by
  obtain ⟨hr, hdestroy⟩ := xsanRingBufferCreate_repr hrb hcap
  rw [← hdestroy]
  exact ringRun_refines hr ops

end Runs

/-- Pushes past the capacity, pops and a clear on a buffer of two slots,
wrapping `head` and `tail` round the array. -/
def wrapOps : List (RingOp ℕ) :=
  [.push 5, .push 6, .push 7, .pop, .push 8, .peek, .pop, .pop, .pop, .push 9, .size, .clear]

theorem ring_buffer_refines_bounded_queue_wrap :
    ∃ rb : XsanRingBuffer ℕ, xsanRingBufferCreate 0 2 true true true = some rb ∧
      (ringRun 0 rb wrapOps).2 = (queueRun 0 true (BoundedQueue.empty 2 (by decide)) wrapOps).2 ∧
      RingRepr 0 (ringRun 0 rb wrapOps).1 (queueRun 0 true (BoundedQueue.empty 2 (by decide)) wrapOps).1 :=
  ⟨_, rfl, ring_buffer_refines_bounded_queue 2 (by decide) true true true rfl wrapOps⟩

end Xsan
