import Mathlib.Data.List.Basic

/-!
# Non-recursive mutexes taken by one thread

A thread's lock state is the list of the mutexes it holds. Code that takes
and releases mutexes is a computation in `Locking μ`: a state monad over
that list which fails when the thread locks a mutex it already holds. A
default POSIX mutex locked twice by the same thread never returns, and that
failure is the error state.

Results:
* `acquire_run_of_mem`: locking a held mutex is the error state.
* `bind_run_of_some`, `bind_run_of_none`: how a run goes through `>>=`.
* `critical_run`, `locked_pure_run`: lock, a body that leaves the lock
  state as it found it, unlock: the thread is back where it started.
-/

namespace Mutex

/-- Code run by one thread that takes and releases mutexes of type `μ`; it
fails when the thread locks a mutex it holds. -/
abbrev Locking (μ α : Type) := StateT (List μ) Option α

variable {μ α β : Type}

section Ops

variable [DecidableEq μ]

/-- `pthread_mutex_lock`: the error state if the thread holds `m`. -/
def acquire (m : μ) : Locking μ Unit := fun held => if m ∈ held then none else some ((), m :: held)

/-- `pthread_mutex_unlock` by the thread that holds `m`. -/
def release (m : μ) : Locking μ Unit := fun held => some ((), held.erase m)

theorem acquire_run_of_mem {m : μ} {held : List μ} (h : m ∈ held) : (acquire m).run held = none :=
  if_pos h

theorem acquire_run_of_not_mem {m : μ} {held : List μ} (h : m ∉ held) :
    (acquire m).run held = some ((), m :: held) :=
  if_neg h

theorem release_run (m : μ) (held : List μ) : (release m).run held = some ((), held.erase m) := rfl

end Ops

theorem bind_run_of_some {x : Locking μ α} {f : α → Locking μ β} {held held' : List μ} {a : α}
    (h : x.run held = some (a, held')) : (x >>= f).run held = (f a).run held' := by
  rw [StateT.run_bind, h]
  rfl

theorem bind_run_of_none {x : Locking μ α} {f : α → Locking μ β} {held : List μ}
    (h : x.run held = none) : (x >>= f).run held = none := by
  rw [StateT.run_bind, h]
  rfl

/-- A section that locks `m`, runs a body that leaves the lock state as it
found it, and unlocks `m`: from a state not holding `m`, the thread ends
holding what it held before. -/
theorem critical_run [DecidableEq μ] {m : μ} {held : List μ} (hm : m ∉ held) {body : Locking μ α}
    {a : α} (hbody : body.run (m :: held) = some (a, m :: held)) (g : α → β) :
    (do acquire m; let a ← body; release m; pure (g a)).run held = some (g a, held) := by
  rw [bind_run_of_some (acquire_run_of_not_mem hm), bind_run_of_some hbody,
    bind_run_of_some (release_run m _), List.erase_cons_head]
  rfl

/-- A section that only computes between its lock and its unlock: from a
state not holding `m`, the thread ends holding what it held before. -/
theorem locked_pure_run [DecidableEq μ] {m : μ} {held : List μ} (hm : m ∉ held) (x : α) :
    (do acquire m; release m; pure x : Locking μ α).run held = some (x, held) := by
  rw [bind_run_of_some (acquire_run_of_not_mem hm), bind_run_of_some (release_run m _),
    List.erase_cons_head]
  rfl

end Mutex
