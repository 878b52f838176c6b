import Xsan.Io.Request

/-!
# Converting `errno` to error codes

A model of `xsan_error_from_errno` (`src/common/error.c`, lines 128–171), which
turns a POSIX `errno` into an `xsan_error_t`; the socket layer reports every failed
system call through it.

A `switch` whose cases each return a constant is a table: `xsan_error_from_errno`
is a lookup in `errnoCodes` with `XSAN_ERROR_SYSTEM` as the `default`. The `errno`
values are Linux's, where SPDK runs; the codes are those of `include/xsan_error.h`.

Result:
* `xsanErrorFromErrno_ne_ok`: a nonzero `errno` never converts to `XSAN_OK`, so a
  failed call is never reported as a success.
-/

namespace Xsan

/-! ## The codes -/

-- The codes of `include/xsan_error.h` (lines 20–105) that `xsan_error_from_errno`
-- returns, beyond those of `Xsan.Common.Error`.
def xsanErrorTimeout : ℤ := -6
def xsanErrorPermissionDenied : ℤ := -9
def xsanErrorInterrupted : ℤ := -10
def xsanErrorSystem : ℤ := -11
def xsanErrorConnectionLost : ℤ := -22
def xsanErrorConnectionRefused : ℤ := -23
def xsanErrorAddressInUse : ℤ := -24
def xsanErrorNetworkDown : ℤ := -25
def xsanErrorHostUnreachable : ℤ := -26
def xsanErrorDiskFull : ℤ := -48

-- Linux's `errno` values (`asm-generic/errno-base.h`, `asm-generic/errno.h`); `ENOMEM`
-- is `enomem` of `Xsan.Io.Request`.
def eperm : ℤ := 1
def enoent : ℤ := 2
def eintr : ℤ := 4
def eio : ℤ := 5
def eacces : ℤ := 13
def ebusy : ℤ := 16
def eexist : ℤ := 17
def einval : ℤ := 22
def enospc : ℤ := 28
def eaddrinuse : ℤ := 98
def enetdown : ℤ := 100
def enetunreach : ℤ := 101
def econnaborted : ℤ := 103
def econnreset : ℤ := 104
def etimedout : ℤ := 110
def econnrefused : ℤ := 111
def ehostunreach : ℤ := 113

/-! ## `xsan_error_from_errno` -/

/-- The `case` labels of `xsan_error_from_errno` with what each returns, in the
order of the `switch`. -/
def errnoCodes : List (ℤ × ℤ) :=
  [(0, xsanOk), (einval, xsanErrorInvalidParam), (enomem, xsanErrorNoMemory),
    (enoent, xsanErrorNotFound), (eexist, xsanErrorAlreadyExists),
    (eacces, xsanErrorPermissionDenied), (eperm, xsanErrorPermissionDenied),
    (ebusy, xsanErrorBusy), (etimedout, xsanErrorTimeout), (eintr, xsanErrorInterrupted),
    (eio, xsanErrorIo), (enospc, xsanErrorDiskFull), (econnreset, xsanErrorConnectionLost),
    (econnrefused, xsanErrorConnectionRefused), (econnaborted, xsanErrorConnectionLost),
    (eaddrinuse, xsanErrorAddressInUse), (enetdown, xsanErrorNetworkDown),
    (enetunreach, xsanErrorHostUnreachable), (ehostunreach, xsanErrorHostUnreachable)]

/-- `xsan_error_from_errno(sys_errno)`: the code of the matching `case`, else
`XSAN_ERROR_SYSTEM`. -/
def xsanErrorFromErrno (sysErrno : ℤ) : ℤ :=
  (errnoCodes.lookup sysErrno).getD xsanErrorSystem

/-- A `switch` case returns its own constant: the conversion of a listed `errno`. -/
theorem xsanErrorFromErrno_of_mem {e code : ℤ} (h : errnoCodes.lookup e = some code) :
    xsanErrorFromErrno e = code := by
  rw [xsanErrorFromErrno, h, Option.getD_some]

/-- The `default` branch. -/
theorem xsanErrorFromErrno_of_not_mem {e : ℤ} (h : errnoCodes.lookup e = none) :
    xsanErrorFromErrno e = xsanErrorSystem := by
  rw [xsanErrorFromErrno, h, Option.getD_none]

/-- A hit of `List.lookup` is an entry of the table. -/
theorem mem_of_lookup_eq_some {l : List (ℤ × ℤ)} {e code : ℤ} (h : l.lookup e = some code) :
    (e, code) ∈ l := by
  induction l with
  | nil => simp at h
  | cons p l ih =>
    obtain ⟨k, v⟩ := p
    by_cases hk : e = k
    · subst hk
      simp only [List.lookup, beq_self_eq_true, Option.some.injEq] at h
      simp [h]
    · have hb : (e == k) = false := by simpa using hk
      simp only [List.lookup, hb] at h
      exact List.mem_cons_of_mem _ (ih h)

/-- The only `case` that returns `XSAN_OK` is `case 0`. -/
theorem errnoCodes_ok {e code : ℤ} (h : errnoCodes.lookup e = some code) (hok : code = xsanOk) :
    e = 0 := by
  have hcase : ∀ p ∈ errnoCodes, p.2 = xsanOk → p.1 = 0 := by decide
  exact hcase (e, code) (mem_of_lookup_eq_some h) hok

/-- A nonzero `errno` converts to an error. -/
theorem xsanErrorFromErrno_ne_ok {e : ℤ} (he : e ≠ 0) : xsanErrorFromErrno e ≠ xsanOk := by
  intro h
  cases hl : errnoCodes.lookup e with
  | none =>
    rw [xsanErrorFromErrno_of_not_mem hl] at h
    exact absurd h (by decide)
  | some code => exact he (errnoCodes_ok hl (by rw [← xsanErrorFromErrno_of_mem hl, h]))

end Xsan
