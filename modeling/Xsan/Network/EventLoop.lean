import Mathlib.Tactic.NormNum
import Mathlib.Tactic.Positivity
import Xsan.Common.Error
import Xsan.Utils.ConfigLoad

/-!
# The event loop's descriptor map

`struct xsan_event_loop` (network/event_loop.c:22-29) keeps, for each file
descriptor below `fd_data_map_capacity`, the callback and `user_data` of
that descriptor. `ensure_fd_map_capacity` (lines 56-85) grows the map before
`xsan_event_loop_add_fd` and `xsan_event_loop_modify_fd` (lines 139-199)
write an entry: from the current capacity, or `XSAN_EVENT_LOOP_DEFAULT_MAP_SIZE`
for an empty map, it doubles `new_capacity` while `fd >= new_capacity`, then
refuses more than `1024 * 1024` entries, allocates the new map zeroed and
copies the old entries into it. `xsan_event_loop_create` (lines 88-125) starts
with the map of 1024 entries that `ensure_fd_map_capacity(loop, 1023)` makes.

`new_capacity` is an `int`. Its doubling is modelled as the 32-bit two's
complement product the hardware computes (`intDouble`); a product outside
`[INT_MIN, INT_MAX]` is undefined behaviour in C, and `DoublingOverflows`
says that the loop computes one. The loop is run with a fuel bound, `none`
standing for a loop still running. Pointers (`callback`, `user_data`) are
numbers, `0` for `NULL`; the results of `epoll_ctl` and of the allocations
are inputs, and `xsan_error_from_errno` the parameter `fromErrno`.

Results:
* `doublingLoop_of_lt_thirty`, `not_doublingOverflows_of_lt`: from a power of
  two up to `2 ^ 30`, for `fd < 2 ^ 30` the loop ends at a power of two
  above `fd`, within `30` turns, without overflowing.
* `doublingOverflows_of_ge`, `doublingLoop_none_of_ge`: for `fd ≥ 2 ^ 30` it
  doubles `2 ^ 30`, which overflows, and wrapping it reaches `0` and never
  ends.
* `ensureFdMapCapacity_outcome`: on every reachable map, whatever the call
  returns is `XSAN_OK` with a capacity above `fd` and the old entries kept, or
  an error with the loop unchanged.
* `ensureFdMapCapacity_returns`: for `fd < 2 ^ 30` the doubling never
  overflows and the call returns, the same result for every fuel from 20 on.
* `event_loop_fd_map_doubling_overflows`: `xsan_event_loop_add_fd(loop, 2^30, …)`
  on a new loop overflows `new_capacity` and never returns.
-/

namespace Xsan

/-! ## The model -/

/-- `XSAN_EVENT_LOOP_DEFAULT_MAP_SIZE`. -/
def xsanEventLoopDefaultMapSize : ℤ := 1024

/-- `new_capacity *= 2` on an `int`, as the 32-bit two's complement product. -/
def intDouble (x : ℤ) : ℤ := (x * 2).bmod (2 ^ 32)

/-- `xsan_fd_event_data_t`: the callback and `user_data` of a descriptor. -/
structure XsanFdEventData where
  callback : ℕ
  userData : ℕ
deriving DecidableEq, Repr

/-- An entry as `XSAN_CALLOC` leaves it. -/
def XsanFdEventData.zero : XsanFdEventData := ⟨0, 0⟩

/-- The fields of `struct xsan_event_loop` that the calls on descriptors read
and write: `fd_data_map` (`none` for `NULL`) and `fd_data_map_capacity`. -/
structure XsanEventLoop where
  fdDataMap : Option (List XsanFdEventData)
  fdDataMapCapacity : ℤ
deriving DecidableEq, Repr

/-- `while (fd >= new_capacity) new_capacity *= 2;` (lines 63-65) with at
most `fuel` more turns: the capacity it leaves with, `none` while it still
runs. -/
def doublingLoop (fd : ℤ) : ℕ → ℤ → Option ℤ
  | 0, newCapacity => if fd ≥ newCapacity then none else some newCapacity
  | fuel + 1, newCapacity =>
    if fd ≥ newCapacity then doublingLoop fd fuel (intDouble newCapacity) else some newCapacity

/-- Within `fuel` turns the loop doubles a value whose double is not an
`int`. -/
def DoublingOverflows (fd : ℤ) : ℕ → ℤ → Prop
  | 0, _ => False
  | fuel + 1, newCapacity =>
    fd ≥ newCapacity ∧
      (newCapacity * 2 < intMin ∨ intMax < newCapacity * 2 ∨
        DoublingOverflows fd fuel (intDouble newCapacity))

/-- Lines 73-84 once `XSAN_CALLOC` succeeds: the zeroed map of `newCapacity`
entries with the old ones copied in front, in place of the old one. -/
def fdMapGrow (loop : XsanEventLoop) (newCapacity : ℤ) : XsanEventLoop :=
  let fresh := List.replicate newCapacity.toNat XsanFdEventData.zero
  let newMap := match loop.fdDataMap with
    | some old => old.take loop.fdDataMapCapacity.toNat ++ fresh.drop loop.fdDataMapCapacity.toNat
    | none => fresh
  { fdDataMap := some newMap, fdDataMapCapacity := newCapacity }

/-- `ensure_fd_map_capacity(loop, fd)` (event_loop.c:56-85), its loop given
`fuel` turns and `callocOk` the result of `XSAN_CALLOC`: the code and the loop
afterwards, `none` while the loop still runs. -/
def ensureFdMapCapacity (loop : XsanEventLoop) (fd : ℤ) (callocOk : Bool) (fuel : ℕ) :
    Option (ℤ × XsanEventLoop) :=
  if fd < loop.fdDataMapCapacity then some (xsanOk, loop)
  else
    let start := if loop.fdDataMapCapacity = 0 then xsanEventLoopDefaultMapSize
      else loop.fdDataMapCapacity
    (doublingLoop fd fuel start).map fun newCapacity =>
      -- the sanity limit, then the allocation
      if newCapacity > 1024 * 1024 then (xsanErrorNoMemory, loop)
      else if !callocOk then (xsanErrorNoMemory, loop)
      else (xsanOk, fdMapGrow loop newCapacity)

/-- `xsan_event_loop_create(max_events_per_poll)` (event_loop.c:88-125):
`mallocOk`, `epollOk` and `eventsBufOk` are the results of `XSAN_MALLOC`,
`epoll_create1` and the `XSAN_CALLOC` of the event buffer, `callocOk` that of
the map; `none` for the `NULL` it returns. -/
def xsanEventLoopCreate (maxEventsPerPoll : ℤ) (mallocOk epollOk eventsBufOk callocOk : Bool)
    (fuel : ℕ) : Option XsanEventLoop :=
  if maxEventsPerPoll ≤ 0 then none
  else if !(mallocOk && epollOk && eventsBufOk) then none
  else
    match ensureFdMapCapacity ⟨none, 0⟩ (xsanEventLoopDefaultMapSize - 1) callocOk fuel with
    | some (code, loop) => if code ≠ xsanOk then none else some loop
    | none => none

/-- The body shared by `xsan_event_loop_add_fd` (lines 139-162) and
`xsan_event_loop_modify_fd` (lines 164-199), which differ only in the
`epoll_ctl` operation: `epollErrno` is the `errno` of a failed `epoll_ctl`,
`none` when it succeeds. -/
def eventLoopSetFd (fromErrno : ℤ → ℤ) (loop : XsanEventLoop) (fd : ℤ) (callback userData : ℕ)
    (callocOk : Bool) (epollErrno : Option ℤ) (fuel : ℕ) : Option (ℤ × XsanEventLoop) :=
  if fd < 0 ∨ callback = 0 then some (xsanErrorConfigParse, loop)
  else
    (ensureFdMapCapacity loop fd callocOk fuel).map fun (err, loop) =>
      if err ≠ xsanOk then (err, loop)
      else
        match epollErrno with
        | some errno => (fromErrno errno, loop)
        | none =>
          (xsanOk, { loop with fdDataMap := loop.fdDataMap.map (·.set fd.toNat ⟨callback, userData⟩) })

/-- `xsan_event_loop_add_fd` (event_loop.c:139-162), `EPOLL_CTL_ADD`. -/
def xsanEventLoopAddFd (fromErrno : ℤ → ℤ) (loop : XsanEventLoop) (fd : ℤ) (callback userData : ℕ)
    (callocOk : Bool) (epollErrno : Option ℤ) (fuel : ℕ) : Option (ℤ × XsanEventLoop) :=
  eventLoopSetFd fromErrno loop fd callback userData callocOk epollErrno fuel

/-- `xsan_event_loop_modify_fd` (event_loop.c:164-199), `EPOLL_CTL_MOD`; its
check of an empty entry has an empty body. -/
def xsanEventLoopModifyFd (fromErrno : ℤ → ℤ) (loop : XsanEventLoop) (fd : ℤ) (callback userData : ℕ)
    (callocOk : Bool) (epollErrno : Option ℤ) (fuel : ℕ) : Option (ℤ × XsanEventLoop) :=
  eventLoopSetFd fromErrno loop fd callback userData callocOk epollErrno fuel

/-- `xsan_event_loop_remove_fd` (event_loop.c:201-219). -/
def xsanEventLoopRemoveFd (fromErrno : ℤ → ℤ) (loop : XsanEventLoop) (fd : ℤ) (epollErrno : Option ℤ) :
    ℤ × XsanEventLoop :=
  if fd < 0 then (xsanErrorConfigParse, loop)
  else
    match epollErrno with
    | some errno => (fromErrno errno, loop)
    | none =>
      if fd < loop.fdDataMapCapacity then
        (xsanOk, { loop with fdDataMap := loop.fdDataMap.map (·.set fd.toNat .zero) })
      else (xsanOk, loop)

/-- The map of a loop `xsan_event_loop_create` made: a power of two from 1024
to the sanity limit of entries, all allocated. -/
structure FdMapInv (loop : XsanEventLoop) : Prop where
  capacity_pow : ∃ k, 10 ≤ k ∧ k ≤ 20 ∧ loop.fdDataMapCapacity = 2 ^ k
  map_length : ∃ m, loop.fdDataMap = some m ∧ m.length = loop.fdDataMapCapacity.toNat

/-! ## Doubling in 32 bits -/

theorem intDouble_eq {x : ℤ} (hlo : intMin ≤ x * 2) (hhi : x * 2 ≤ intMax) : intDouble x = x * 2 := by
  unfold intMin intMax at *
  rw [intDouble, Int.bmod_eq_of_le (by norm_num; omega) (by norm_num; omega)]

/-- Below `2 ^ 30` a power of two doubles without wrapping. -/
theorem intDouble_two_pow {k : ℕ} (hk : k < 30) : intDouble (2 ^ k) = 2 ^ (k + 1) := by
  have hle : (2 : ℤ) ^ (k + 1) ≤ 2 ^ 30 := pow_le_pow_right₀ (by norm_num) (by omega)
  have hpos : (0 : ℤ) < 2 ^ (k + 1) := by positivity
  rw [pow_succ] at hle hpos ⊢
  exact intDouble_eq (by unfold intMin; omega) (by unfold intMax; omega)

/-- `2 ^ 30` doubles to `INT_MIN`, which doubles to `0`. -/
theorem intDouble_two_pow_thirty : intDouble (2 ^ 30) = -2 ^ 31 := by decide

theorem intDouble_neg_two_pow : intDouble (-2 ^ 31) = 0 := by decide

theorem intDouble_zero : intDouble 0 = 0 := by decide

/-! ## The doubling loop -/

section Loop

variable {fd : ℤ}

theorem doublingLoop_of_lt {c : ℤ} (h : fd < c) (fuel : ℕ) : doublingLoop fd fuel c = some c := by
  cases fuel <;> rw [doublingLoop, if_neg (by omega)]

theorem doublingLoop_zero_of_le {c : ℤ} (h : c ≤ fd) : doublingLoop fd 0 c = none := by
  rw [doublingLoop, if_pos h]

theorem doublingLoop_succ_of_le {c : ℤ} (h : c ≤ fd) (fuel : ℕ) :
    doublingLoop fd (fuel + 1) c = doublingLoop fd fuel (intDouble c) := by
  rw [doublingLoop, if_pos h]

/-- Once `new_capacity` is `0`, a descriptor `≥ 0` keeps the loop running. -/
theorem doublingLoop_zero_none (h0 : 0 ≤ fd) (fuel : ℕ) : doublingLoop fd fuel 0 = none := by
  induction fuel with
  | zero => exact doublingLoop_zero_of_le h0
  | succ fuel ih => rw [doublingLoop_succ_of_le h0, intDouble_zero, ih]

/-- From `2 ^ 30`, a descriptor `≥ 2 ^ 30` keeps the loop running: the next
value wraps to `INT_MIN`, then to `0`. -/
theorem doublingLoop_top_none (hfd : 2 ^ 30 ≤ fd) (fuel : ℕ) : doublingLoop fd fuel (2 ^ 30) = none := by
  match fuel with
  | 0 => exact doublingLoop_zero_of_le hfd
  | 1 =>
    rw [doublingLoop_succ_of_le hfd, intDouble_two_pow_thirty, doublingLoop_zero_of_le (by omega)]
  | fuel + 2 =>
    rw [doublingLoop_succ_of_le hfd, intDouble_two_pow_thirty, doublingLoop_succ_of_le (by omega),
      intDouble_neg_two_pow, doublingLoop_zero_none (by omega)]

/-- For `fd ≥ 2 ^ 30` the loop from any power of two up to `2 ^ 30` never
ends: it climbs to `2 ^ 30` and then wraps. -/
theorem doublingLoop_none_of_ge (hfd : 2 ^ 30 ≤ fd) :
    ∀ (n : ℕ) {k : ℕ}, k + n = 30 → ∀ fuel, doublingLoop fd fuel (2 ^ k) = none := by
  intro n
  induction n with
  | zero =>
    intro k hk fuel
    rw [show k = 30 by omega]
    exact doublingLoop_top_none hfd fuel
  | succ n ih =>
    intro k hk fuel
    have hle : (2 : ℤ) ^ k ≤ 2 ^ 30 := pow_le_pow_right₀ (by norm_num) (by omega)
    cases fuel with
    | zero => exact doublingLoop_zero_of_le (by omega)
    | succ fuel =>
      rw [doublingLoop_succ_of_le (by omega), intDouble_two_pow (by omega)]
      exact ih (by omega) fuel

/-- Below `fd < 2 ^ 30`, a power of two up to `2 ^ 30` is below `2 ^ 30`. -/
theorem exponent_lt_thirty {k : ℕ} (hk : k ≤ 30) (hge : 2 ^ k ≤ fd) (hfd : fd < 2 ^ 30) : k < 30 := by
  by_contra hk30
  rw [show k = 30 by omega] at hge
  omega

/-- For `fd < 2 ^ 30` the loop from a power of two `2 ^ k ≤ 2 ^ 30`
ends, within `30 - k` turns, at a power of two above `fd`. -/
theorem doublingLoop_of_lt_thirty (hfd : fd < 2 ^ 30) :
    ∀ {fuel k : ℕ}, k ≤ 30 → 30 - k ≤ fuel →
      ∃ j, k ≤ j ∧ j ≤ 30 ∧ fd < 2 ^ j ∧ doublingLoop fd fuel (2 ^ k) = some (2 ^ j) := by
  intro fuel
  induction fuel with
  | zero =>
    intro k hk hfuel
    obtain rfl : k = 30 := by omega
    exact ⟨30, le_rfl, le_rfl, hfd, doublingLoop_of_lt hfd 0⟩
  | succ fuel ih =>
    intro k hk hfuel
    by_cases hlt : fd < 2 ^ k
    · exact ⟨k, le_rfl, hk, hlt, doublingLoop_of_lt hlt _⟩
    · -- `2 ^ k ≤ fd < 2 ^ 30`: one more doubling, still without wrapping
      have hk30 : k < 30 := exponent_lt_thirty hk (by omega) hfd
      obtain ⟨j, hj, hj30, hfdj, hloop⟩ := ih (k := k + 1) (by omega) (by omega)
      refine ⟨j, by omega, hj30, hfdj, ?_⟩
      rw [doublingLoop_succ_of_le (by omega), intDouble_two_pow hk30, hloop]

/-- Whatever the descriptor, a loop from a power of two up to `2 ^ 30` that
ends leaves with a power of two up to `2 ^ 30`. -/
theorem doublingLoop_pow_result {c : ℤ} :
    ∀ {fuel k : ℕ}, k ≤ 30 → doublingLoop fd fuel (2 ^ k) = some c →
      ∃ j, k ≤ j ∧ j ≤ 30 ∧ fd < 2 ^ j ∧ c = 2 ^ j := by
  intro fuel
  induction fuel with
  | zero =>
    intro k hk h
    rw [doublingLoop] at h
    split_ifs at h with hge
    cases h
    exact ⟨k, le_rfl, hk, by omega, rfl⟩
  | succ fuel ih =>
    intro k hk h
    by_cases hlt : fd < 2 ^ k
    · rw [doublingLoop_of_lt hlt, Option.some.injEq] at h
      exact ⟨k, le_rfl, hk, hlt, h.symm⟩
    · by_cases hk30 : k = 30
      · -- from `2 ^ 30` with `fd ≥ 2 ^ 30` the loop does not end
        subst hk30
        rw [doublingLoop_top_none (by omega)] at h
        cases h
      · rw [doublingLoop_succ_of_le (by omega), intDouble_two_pow (by omega)] at h
        obtain ⟨j, hj, hj30, hfdj, rfl⟩ := ih (k := k + 1) (by omega) h
        exact ⟨j, by omega, hj30, hfdj, rfl⟩

/-- Once the loop ends, more turns give the same capacity. -/
theorem doublingLoop_add_fuel {c r : ℤ} :
    ∀ {fuel : ℕ}, doublingLoop fd fuel c = some r → ∀ n, doublingLoop fd (fuel + n) c = some r := by
  intro fuel
  induction fuel generalizing c with
  | zero =>
    intro h n
    rw [doublingLoop] at h
    split_ifs at h with hge
    rw [← h, Nat.zero_add]
    exact doublingLoop_of_lt (by omega) n
  | succ fuel ih =>
    intro h n
    by_cases hlt : fd < c
    · rw [doublingLoop_of_lt hlt] at h ⊢
      exact h
    · rw [doublingLoop_succ_of_le (by omega)] at h
      rw [show fuel + 1 + n = fuel + n + 1 by omega, doublingLoop_succ_of_le (by omega)]
      exact ih h n

/-! ### Overflow -/

theorem DoublingOverflows.succ {n : ℕ} {c : ℤ} (h : DoublingOverflows fd n c) :
    DoublingOverflows fd (n + 1) c := by
  induction n generalizing c with
  | zero => exact h.elim
  | succ n ih =>
    obtain ⟨hge, hover⟩ := h
    refine ⟨hge, ?_⟩
    rcases hover with hover | hover | hover
    · exact .inl hover
    · exact .inr (.inl hover)
    · exact .inr (.inr (ih hover))

theorem DoublingOverflows.of_le {n m : ℕ} {c : ℤ} (h : DoublingOverflows fd n c) (hnm : n ≤ m) :
    DoublingOverflows fd m c := by
  induction m, hnm using Nat.le_induction with
  | base => exact h
  | succ m _ ih => exact ih.succ

/-- For `fd ≥ 2 ^ 30` the loop from `2 ^ k ≤ 2 ^ 30` doubles `2 ^ 30`, whose
double `2 ^ 31` is above `INT_MAX`, at its turn `30 - k`. -/
theorem doublingOverflows_of_ge (hfd : 2 ^ 30 ≤ fd) :
    ∀ (n : ℕ) {k : ℕ}, k + n = 30 → DoublingOverflows fd (n + 1) (2 ^ k) := by
  intro n
  induction n with
  | zero =>
    intro k hk
    obtain rfl : k = 30 := by omega
    exact ⟨hfd, .inr (.inl (by unfold intMax; norm_num))⟩
  | succ n ih =>
    intro k hk
    have hle : (2 : ℤ) ^ k ≤ 2 ^ 30 := pow_le_pow_right₀ (by norm_num) (by omega)
    refine ⟨by omega, .inr (.inr ?_)⟩
    rw [intDouble_two_pow (by omega)]
    exact ih (by omega)

/-- For `fd < 2 ^ 30` the loop from `2 ^ k ≤ 2 ^ 30` never doubles a value
out of the `int` range. -/
theorem not_doublingOverflows_of_lt (hfd : fd < 2 ^ 30) :
    ∀ (fuel : ℕ) {k : ℕ}, k ≤ 30 → ¬DoublingOverflows fd fuel (2 ^ k) := by
  intro fuel
  induction fuel with
  | zero => intro k _ h; exact h
  | succ fuel ih =>
    intro k hk ⟨hge, hover⟩
    -- the loop only doubles values up to `fd < 2 ^ 30`
    have hk30 : k < 30 := exponent_lt_thirty hk hge hfd
    have hle : (2 : ℤ) ^ (k + 1) ≤ 2 ^ 30 := pow_le_pow_right₀ (by norm_num) (by omega)
    have hpos : (0 : ℤ) < 2 ^ k := by positivity
    rw [pow_succ] at hle
    rcases hover with hover | hover | hover
    · unfold intMin at hover
      omega
    · unfold intMax at hover
      omega
    · rw [intDouble_two_pow hk30] at hover
      exact ih (by omega) hover

end Loop

/-! ## Growing the map -/

/-- What `ensure_fd_map_capacity(loop, fd)` is for: `XSAN_OK` with a map that
covers `fd` and starts with the old entries, or an error with the loop as it
was. -/
def EnsureOutcome (loop : XsanEventLoop) (fd : ℤ) (r : ℤ × XsanEventLoop) : Prop :=
  (r.1 = xsanOk ∧ fd < r.2.fdDataMapCapacity ∧ FdMapInv r.2 ∧
      ∃ m m', loop.fdDataMap = some m ∧ r.2.fdDataMap = some m' ∧ m <+: m') ∨
    (r.1 = xsanErrorNoMemory ∧ r.2 = loop)

section Ensure

variable {loop : XsanEventLoop} {fd : ℤ}

theorem EnsureOutcome.inv {r : ℤ × XsanEventLoop} (h : EnsureOutcome loop fd r) (hinv : FdMapInv loop) :
    FdMapInv r.2 := by
  rcases h with ⟨-, -, h, -⟩ | ⟨-, h⟩
  · exact h
  · rw [h]
    exact hinv

theorem FdMapInv.capacity_ge (hinv : FdMapInv loop) : 1024 ≤ loop.fdDataMapCapacity := by
  obtain ⟨k, hk10, -, hcap⟩ := hinv.capacity_pow
  rw [hcap]
  exact (pow_le_pow_right₀ (by norm_num) hk10 : (2 : ℤ) ^ 10 ≤ 2 ^ k)

/-- Writing one entry keeps the map's length. -/
theorem FdMapInv.setEntry (hinv : FdMapInv loop) (i : ℕ) (e : XsanFdEventData) :
    FdMapInv { loop with fdDataMap := loop.fdDataMap.map (·.set i e) } := by
  obtain ⟨m, hm, hlen⟩ := hinv.map_length
  exact ⟨hinv.capacity_pow, m.set i e, by rw [hm, Option.map_some], by rw [List.length_set, hlen]⟩

/-- The `memcpy` of lines 78-79 on an allocated map: the old entries, then
zeroed ones up to the new capacity. -/
theorem fdMapGrow_of_map {m : List XsanFdEventData} (hm : loop.fdDataMap = some m)
    (hlen : m.length = loop.fdDataMapCapacity.toNat) (n : ℤ) :
    fdMapGrow loop n =
      ⟨some (m ++ List.replicate (n.toNat - loop.fdDataMapCapacity.toNat) .zero), n⟩ := by
  simp only [fdMapGrow, hm, List.take_of_length_le hlen.le, List.drop_replicate]

theorem fdMapInv_fdMapGrow (hinv : FdMapInv loop) {j : ℕ} (hj10 : 10 ≤ j) (hj20 : j ≤ 20)
    (hcap : loop.fdDataMapCapacity ≤ 2 ^ j) : FdMapInv (fdMapGrow loop (2 ^ j)) := by
  obtain ⟨m, hm, hlen⟩ := hinv.map_length
  rw [fdMapGrow_of_map hm hlen]
  refine ⟨⟨j, hj10, hj20, rfl⟩, _, rfl, ?_⟩
  have h1024 := hinv.capacity_ge
  rw [List.length_append, List.length_replicate, hlen]
  dsimp only
  omega

theorem ensureOutcome_self (hinv : FdMapInv loop) (hfd : fd < loop.fdDataMapCapacity) :
    EnsureOutcome loop fd (xsanOk, loop) := by
  obtain ⟨m, hm, -⟩ := hinv.map_length
  exact .inl ⟨rfl, hfd, hinv, m, m, hm, hm, List.prefix_refl m⟩

/-- Lines 67-85 once the loop has left with `2 ^ j`: the sanity limit and a
failed allocation leave the loop unchanged, and below the limit `j ≤ 20`. -/
theorem ensureOutcome_grow (hinv : FdMapInv loop) {k j : ℕ} (hcap : loop.fdDataMapCapacity = 2 ^ k)
    (hk10 : 10 ≤ k) (hkj : k ≤ j) (hfd : fd < 2 ^ j) (callocOk : Bool) :
    EnsureOutcome loop fd
      (if (2 : ℤ) ^ j > 1024 * 1024 then (xsanErrorNoMemory, loop)
        else if !callocOk then (xsanErrorNoMemory, loop) else (xsanOk, fdMapGrow loop (2 ^ j))) := by
  by_cases hbig : (2 : ℤ) ^ j > 1024 * 1024
  · rw [if_pos hbig]
    exact .inr ⟨rfl, rfl⟩
  rw [if_neg hbig]
  cases callocOk with
  | false => exact .inr ⟨rfl, rfl⟩
  | true =>
    rw [if_neg (by decide)]
    have hle : (2 : ℤ) ^ j ≤ 2 ^ 20 := by
      norm_num at hbig ⊢
      omega
    have hj20 : j ≤ 20 := (pow_le_pow_iff_right₀ (by norm_num)).mp hle
    have hgrow : loop.fdDataMapCapacity ≤ 2 ^ j := hcap ▸ pow_le_pow_right₀ (by norm_num) hkj
    obtain ⟨m, hm, hlen⟩ := hinv.map_length
    refine .inl ⟨rfl, hfd, fdMapInv_fdMapGrow hinv (by omega) hj20 hgrow, m,
      m ++ List.replicate (((2 : ℤ) ^ j).toNat - loop.fdDataMapCapacity.toNat) .zero, hm, ?_,
      List.prefix_append _ _⟩
    rw [fdMapGrow_of_map hm hlen]

/-- On a map with the invariant, `ensure_fd_map_capacity` for `fd` at or above
the capacity runs the loop from the capacity itself. -/
theorem ensureFdMapCapacity_of_le (hinv : FdMapInv loop) (hfd : loop.fdDataMapCapacity ≤ fd)
    (callocOk : Bool) (fuel : ℕ) :
    ensureFdMapCapacity loop fd callocOk fuel =
      (doublingLoop fd fuel loop.fdDataMapCapacity).map fun c =>
        if c > 1024 * 1024 then (xsanErrorNoMemory, loop)
        else if !callocOk then (xsanErrorNoMemory, loop) else (xsanOk, fdMapGrow loop c) := by
  have hne : loop.fdDataMapCapacity ≠ 0 := by
    have := hinv.capacity_ge
    omega
  rw [ensureFdMapCapacity, if_neg (by omega), if_neg hne]

/-- Every result the call returns is one it is meant to return. -/
theorem ensureFdMapCapacity_outcome (hinv : FdMapInv loop) {callocOk : Bool} {fuel : ℕ}
    {r : ℤ × XsanEventLoop} (h : ensureFdMapCapacity loop fd callocOk fuel = some r) :
    EnsureOutcome loop fd r := by
  by_cases hlt : fd < loop.fdDataMapCapacity
  · rw [ensureFdMapCapacity, if_pos hlt, Option.some.injEq] at h
    rw [← h]
    exact ensureOutcome_self hinv hlt
  obtain ⟨k, hk10, hk20, hcap⟩ := hinv.capacity_pow
  rw [ensureFdMapCapacity_of_le hinv (by omega), Option.map_eq_some_iff] at h
  obtain ⟨c, hloop, rfl⟩ := h
  rw [hcap] at hloop
  obtain ⟨j, hkj, -, hfdj, rfl⟩ := doublingLoop_pow_result (by omega) hloop
  exact ensureOutcome_grow hinv hcap hk10 hkj hfdj callocOk

/-- For `fd < 2 ^ 30` the call returns, the same result for every fuel from
20 on, and that result is one it is meant to return. -/
theorem ensureFdMapCapacity_of_lt_thirty (hinv : FdMapInv loop) (hfd : fd < 2 ^ 30) (callocOk : Bool) :
    ∃ r, (∀ fuel, 20 ≤ fuel → ensureFdMapCapacity loop fd callocOk fuel = some r) ∧
      EnsureOutcome loop fd r := by
  by_cases hlt : fd < loop.fdDataMapCapacity
  · refine ⟨(xsanOk, loop), fun fuel _ => ?_, ensureOutcome_self hinv hlt⟩
    rw [ensureFdMapCapacity, if_pos hlt]
  obtain ⟨k, hk10, hk20, hcap⟩ := hinv.capacity_pow
  -- the loop climbs from `2 ^ k`, `k ≥ 10`, so 20 turns reach `2 ^ 30`
  obtain ⟨j, hkj, -, hfdj, hloop⟩ :
      ∃ j, k ≤ j ∧ j ≤ 30 ∧ fd < 2 ^ j ∧ doublingLoop fd 20 (2 ^ k) = some (2 ^ j) :=
    doublingLoop_of_lt_thirty hfd (by omega) (by omega)
  refine ⟨_, fun fuel hfuel => ?_, ensureOutcome_grow hinv hcap hk10 hkj hfdj callocOk⟩
  obtain ⟨n, rfl⟩ := Nat.exists_eq_add_of_le hfuel
  rw [ensureFdMapCapacity_of_le hinv (by omega), hcap, doublingLoop_add_fuel hloop n, Option.map_some]

/-- Below `2 ^ 30`, on every map a loop can hold, `ensure_fd_map_capacity`
is well defined and returns: its doubling never leaves the `int` range, and
from 20 turns on it returns one result, `XSAN_OK` with a map over `fd` that
keeps the old entries in front, or `XSAN_ERROR_NO_MEMORY` with the loop
unchanged. -/
theorem ensureFdMapCapacity_returns (hinv : FdMapInv loop) (hfd : fd < 2 ^ 30) (callocOk : Bool) :
    (∀ n, ¬DoublingOverflows fd n loop.fdDataMapCapacity) ∧
      ∃ r, (∀ fuel, 20 ≤ fuel → ensureFdMapCapacity loop fd callocOk fuel = some r) ∧
        EnsureOutcome loop fd r := by
  obtain ⟨k, -, hk20, hcap⟩ := hinv.capacity_pow
  refine ⟨fun n => ?_, ensureFdMapCapacity_of_lt_thirty hinv hfd callocOk⟩
  rw [hcap]
  exact not_doublingOverflows_of_lt hfd n (by omega)

/-- For `fd ≥ 2 ^ 30` the call never returns. -/
theorem ensureFdMapCapacity_none_of_ge (hinv : FdMapInv loop) (hfd : 2 ^ 30 ≤ fd) (callocOk : Bool)
    (fuel : ℕ) : ensureFdMapCapacity loop fd callocOk fuel = none := by
  obtain ⟨k, hk10, hk20, hcap⟩ := hinv.capacity_pow
  have hle : (2 : ℤ) ^ k ≤ 2 ^ 30 := pow_le_pow_right₀ (by norm_num) (by omega)
  rw [ensureFdMapCapacity_of_le hinv (by omega), hcap, doublingLoop_none_of_ge hfd (30 - k) (by omega),
    Option.map_none]

/-- For `fd ≥ 2 ^ 30` the loop overflows `new_capacity` within 21 turns. -/
theorem doublingOverflows_of_inv (hinv : FdMapInv loop) (hfd : 2 ^ 30 ≤ fd) :
    DoublingOverflows fd 21 loop.fdDataMapCapacity := by
  obtain ⟨k, hk10, hk20, hcap⟩ := hinv.capacity_pow
  rw [hcap]
  exact (doublingOverflows_of_ge hfd (30 - k) (by omega)).of_le (by omega)

end Ensure

/-! ## The calls on descriptors -/

section Calls

variable (fromErrno : ℤ → ℤ) {loop : XsanEventLoop}

theorem eventLoopSetFd_inv (hinv : FdMapInv loop) {fd : ℤ} {cb ud : ℕ} {callocOk : Bool}
    {epollErrno : Option ℤ} {fuel : ℕ} {r : ℤ × XsanEventLoop}
    (h : eventLoopSetFd fromErrno loop fd cb ud callocOk epollErrno fuel = some r) : FdMapInv r.2 := by
  unfold eventLoopSetFd at h
  split_ifs at h with hbad
  · rw [Option.some.injEq] at h
    rw [← h]
    exact hinv
  rw [Option.map_eq_some_iff] at h
  obtain ⟨⟨err, loop₁⟩, hens, rfl⟩ := h
  have hinv₁ : FdMapInv loop₁ := (ensureFdMapCapacity_outcome hinv hens).inv hinv
  dsimp only
  split_ifs
  · exact hinv₁
  · cases epollErrno with
    | some errno => exact hinv₁
    | none => exact hinv₁.setEntry _ _

/-- For `fd ≥ 2 ^ 30` and a callback, `xsan_event_loop_add_fd` and
`xsan_event_loop_modify_fd` never return. -/
theorem eventLoopSetFd_none_of_ge (hinv : FdMapInv loop) {fd : ℤ} (hfd : 2 ^ 30 ≤ fd) {cb : ℕ}
    (hcb : cb ≠ 0) (ud : ℕ) (callocOk : Bool) (epollErrno : Option ℤ) (fuel : ℕ) :
    eventLoopSetFd fromErrno loop fd cb ud callocOk epollErrno fuel = none := by
  rw [eventLoopSetFd, if_neg (by omega), ensureFdMapCapacity_none_of_ge hinv hfd, Option.map_none]

theorem xsanEventLoopRemoveFd_inv (hinv : FdMapInv loop) (fd : ℤ) (epollErrno : Option ℤ) :
    FdMapInv (xsanEventLoopRemoveFd fromErrno loop fd epollErrno).2 := by
  unfold xsanEventLoopRemoveFd
  cases epollErrno with
  | some errno => split_ifs <;> exact hinv
  | none =>
    split_ifs
    · exact hinv
    · exact hinv.setEntry _ _
    · exact hinv

end Calls

/-! ## Creation -/

/-- The map `ensure_fd_map_capacity(loop, 1023)` makes for a new loop. -/
theorem ensureFdMapCapacity_create (callocOk : Bool) (fuel : ℕ) :
    ensureFdMapCapacity ⟨none, 0⟩ (xsanEventLoopDefaultMapSize - 1) callocOk fuel =
      some (if callocOk then (xsanOk, ⟨some (List.replicate 1024 .zero), 1024⟩)
        else (xsanErrorNoMemory, ⟨none, 0⟩)) := by
  rw [ensureFdMapCapacity, if_neg (by decide), if_pos rfl]
  dsimp only
  rw [doublingLoop_of_lt (by decide), Option.map_some]
  cases callocOk <;> rfl

theorem xsanEventLoopCreate_eq_some {maxEventsPerPoll : ℤ} {mallocOk epollOk eventsBufOk callocOk : Bool}
    {fuel : ℕ} {loop : XsanEventLoop}
    (h : xsanEventLoopCreate maxEventsPerPoll mallocOk epollOk eventsBufOk callocOk fuel = some loop) :
    loop = ⟨some (List.replicate 1024 .zero), 1024⟩ := by
  unfold xsanEventLoopCreate at h
  split_ifs at h
  rw [ensureFdMapCapacity_create] at h
  cases callocOk with
  | false =>
    -- a failed allocation of the map returns `NULL`
    simp only [Bool.false_eq_true, if_false, if_pos (by decide : xsanErrorNoMemory ≠ xsanOk)] at h
    cases h
  | true =>
    simp only [if_true, ne_eq, not_true_eq_false, if_false, Option.some.injEq] at h
    exact h.symm

theorem xsanEventLoopCreate_of_pos {maxEventsPerPoll : ℤ} (hmax : 0 < maxEventsPerPoll) (fuel : ℕ) :
    xsanEventLoopCreate maxEventsPerPoll true true true true fuel =
      some ⟨some (List.replicate 1024 .zero), 1024⟩ := by
  rw [xsanEventLoopCreate, if_neg (by omega), ensureFdMapCapacity_create]
  rfl

theorem fdMapInv_create : FdMapInv ⟨some (List.replicate 1024 .zero), 1024⟩ :=
  ⟨⟨10, le_rfl, by norm_num, by norm_num⟩, _, rfl, List.length_replicate⟩

/-- A descriptor of `2 ^ 20` on a new loop: the map grows, and the call
returns. -/
theorem ensureFdMapCapacity_returns_new_loop :
    FdMapInv ⟨some (List.replicate 1024 .zero), 1024⟩ ∧ (2 : ℤ) ^ 20 < 2 ^ 30 ∧
      (∀ n, ¬DoublingOverflows (2 ^ 20) n (⟨some (List.replicate 1024 .zero), 1024⟩ : XsanEventLoop).fdDataMapCapacity) ∧
      ∃ r, (∀ fuel, 20 ≤ fuel →
          ensureFdMapCapacity ⟨some (List.replicate 1024 .zero), 1024⟩ (2 ^ 20) true fuel = some r) ∧
        EnsureOutcome ⟨some (List.replicate 1024 .zero), 1024⟩ (2 ^ 20) r :=
  ⟨fdMapInv_create, by norm_num, ensureFdMapCapacity_returns fdMapInv_create (by norm_num) true⟩

/-- `fd = 2 ^ 30`, an `int`, on the 1024 entries of a new loop: the doubling
loop overflows `new_capacity`, and wrapping it neither
`ensure_fd_map_capacity` nor `xsan_event_loop_add_fd` returns. -/
theorem event_loop_fd_map_doubling_overflows :
    ∃ loop, (∀ fuel, xsanEventLoopCreate 64 true true true true fuel = some loop) ∧
      (0 : ℤ) ≤ 2 ^ 30 ∧ (2 : ℤ) ^ 30 ≤ intMax ∧
      DoublingOverflows (2 ^ 30) 21 loop.fdDataMapCapacity ∧
      (∀ callocOk fuel, ensureFdMapCapacity loop (2 ^ 30) callocOk fuel = none) ∧
      ∀ fromErrno callocOk epollErrno fuel,
        xsanEventLoopAddFd fromErrno loop (2 ^ 30) 1 0 callocOk epollErrno fuel = none := by
  refine ⟨_, xsanEventLoopCreate_of_pos (by norm_num), by norm_num, by unfold intMax; norm_num,
    doublingOverflows_of_inv fdMapInv_create le_rfl,
    ensureFdMapCapacity_none_of_ge fdMapInv_create le_rfl, ?_⟩
  intro fromErrno callocOk epollErrno fuel
  exact eventLoopSetFd_none_of_ge fromErrno fdMapInv_create le_rfl one_ne_zero 0 callocOk epollErrno fuel

end Xsan
