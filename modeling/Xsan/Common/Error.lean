import Mathlib

/-!
# `xsan_error_t`

`include/xsan_error.h` makes `xsan_error_t` an `int32_t` and names the codes
with `#define`s; `XSAN_OK` is `0` and every error is negative. The model keeps
the type as `ℤ` (no arithmetic is ever done on a code, so its width plays no
part) and the codes as constants with the header's values. Only the codes that
a modelled function returns or compares with are listed.
-/

namespace Xsan

/-- `XSAN_OK`. -/
def xsanOk : ℤ := 0
/-- `XSAN_ERROR_GENERIC`. -/
def xsanErrorGeneric : ℤ := -1
/-- `XSAN_ERROR_INVALID_PARAM`. -/
def xsanErrorInvalidParam : ℤ := -2
/-- `XSAN_ERROR_BUSY`. -/
def xsanErrorBusy : ℤ := -3
/-- `XSAN_ERROR_NOT_FOUND`. -/
def xsanErrorNotFound : ℤ := -4
/-- `XSAN_ERROR_ALREADY_EXISTS`. -/
def xsanErrorAlreadyExists : ℤ := -5
/-- `XSAN_ERROR_NO_MEMORY`. -/
def xsanErrorNoMemory : ℤ := -7
/-- `XSAN_ERROR_IO`. -/
def xsanErrorIo : ℤ := -8
/-- `XSAN_ERROR_THREAD_CONTEXT`. -/
def xsanErrorThreadContext : ℤ := -14
/-- `XSAN_ERROR_STORAGE_GENERIC`. -/
def xsanErrorStorageGeneric : ℤ := -40
/-- `XSAN_ERROR_INSUFFICIENT_SPACE`. -/
def xsanErrorInsufficientSpace : ℤ := -49
/-- `XSAN_ERROR_CONFIG_PARSE`. -/
def xsanErrorConfigParse : ℤ := -143

@[simp] theorem xsanErrorGeneric_ne_ok : xsanErrorGeneric ≠ xsanOk := by decide
@[simp] theorem xsanErrorInvalidParam_ne_ok : xsanErrorInvalidParam ≠ xsanOk := by decide
@[simp] theorem xsanErrorBusy_ne_ok : xsanErrorBusy ≠ xsanOk := by decide
@[simp] theorem xsanErrorNotFound_ne_ok : xsanErrorNotFound ≠ xsanOk := by decide
@[simp] theorem xsanErrorAlreadyExists_ne_ok : xsanErrorAlreadyExists ≠ xsanOk := by decide
@[simp] theorem xsanErrorNoMemory_ne_ok : xsanErrorNoMemory ≠ xsanOk := by decide
@[simp] theorem xsanErrorIo_ne_ok : xsanErrorIo ≠ xsanOk := by decide
@[simp] theorem xsanErrorThreadContext_ne_ok : xsanErrorThreadContext ≠ xsanOk := by decide
/-- Codes the storage sources return although no header of the tree defines
them (`XSAN_ERROR_OUT_OF_MEMORY`, `XSAN_ERROR_RESOURCE_UNAVAILABLE`,
`XSAN_ERROR_INTERNAL`, `XSAN_ERROR_TOO_MANY_EXTENTS`,
`XSAN_ERROR_INVALID_PARAM_ALIGNMENT`, `XSAN_ERROR_REPLICATION_UNAVAILABLE`,
and `XSAN_ERROR_PROTOCOL_GENERIC`, which only the unused
`src/include/xsan_error.h` defines).
Their values are parameters of the model; all it uses is that each one is an
error, not `XSAN_OK`. -/
structure UndefinedCodes where
  outOfMemory : ℤ
  resourceUnavailable : ℤ
  internal : ℤ
  tooManyExtents : ℤ
  invalidParamAlignment : ℤ
  replicationUnavailable : ℤ
  protocolGeneric : ℤ
  outOfMemory_ne : outOfMemory ≠ xsanOk
  resourceUnavailable_ne : resourceUnavailable ≠ xsanOk
  internal_ne : internal ≠ xsanOk
  tooManyExtents_ne : tooManyExtents ≠ xsanOk
  invalidParamAlignment_ne : invalidParamAlignment ≠ xsanOk
  replicationUnavailable_ne : replicationUnavailable ≠ xsanOk
  protocolGeneric_ne : protocolGeneric ≠ xsanOk

attribute [simp] UndefinedCodes.outOfMemory_ne UndefinedCodes.resourceUnavailable_ne
  UndefinedCodes.internal_ne UndefinedCodes.tooManyExtents_ne UndefinedCodes.invalidParamAlignment_ne
  UndefinedCodes.replicationUnavailable_ne UndefinedCodes.protocolGeneric_ne

/-- Values for the undefined codes, below every code the header defines;
results about fixed inputs are stated with them. -/
def UndefinedCodes.fresh : UndefinedCodes :=
  ⟨-1001, -1002, -1003, -1004, -1005, -1006, -1007,
    by decide, by decide, by decide, by decide, by decide, by decide, by decide⟩

/-- The codes of the I/O paths that no header defines either:
`XSAN_ERROR_OUT_OF_BOUNDS`, `XSAN_ERROR_UNMAPPED_LBA`,
`XSAN_ERROR_INVALID_PARAM_SIZE` and `XSAN_ERROR_INVALID_MSG_TYPE`. -/
structure IoCodes where
  outOfBounds : ℤ
  unmappedLba : ℤ
  invalidParamSize : ℤ
  invalidMsgType : ℤ
  outOfBounds_ne : outOfBounds ≠ xsanOk
  unmappedLba_ne : unmappedLba ≠ xsanOk
  invalidParamSize_ne : invalidParamSize ≠ xsanOk
  invalidMsgType_ne : invalidMsgType ≠ xsanOk

attribute [simp] IoCodes.outOfBounds_ne IoCodes.unmappedLba_ne IoCodes.invalidParamSize_ne
  IoCodes.invalidMsgType_ne

/-- Values for them, below every code the header defines. -/
def IoCodes.fresh : IoCodes :=
  ⟨-1011, -1012, -1013, -1014, by decide, by decide, by decide, by decide⟩

end Xsan
