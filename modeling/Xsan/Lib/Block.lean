import Mathlib

/-!
# Memory blocks

A block of `n` cells is the list of its contents. A freshly allocated block
holds whatever the allocator left in it, given as a function of the offset;
`memcpy(buf + off, src, len)` overwrites the cells `off .. off + len` with
`src`. The byte sum of a block is the sum of its bytes as naturals.

Results:
* `memcpyAt_after_prefix`: copying right after an already written prefix.
* `copyIfSet_getD`: the guarded copy of a block given with its own length;
  `copyIfSet_take`: a copy of `len` cells reads only `len` cells.
* `byteSum_set`: overwriting one byte moves the sum by the difference, so
  `byteSum_set_ne`: a different byte gives a different sum.
* `byteSum_le`: each byte adds at most 255.
-/

namespace Block

variable {α : Type}

/-- The `n` cells of a fresh block whose cell `i` holds `fresh i`. -/
def freshBlock (fresh : ℕ → α) (n : ℕ) : List α := (List.range n).map fresh

/-- `memcpy(buf + off, src, src.length)`. -/
def memcpyAt (buf : List α) (off : ℕ) (src : List α) : List α :=
  buf.take off ++ src ++ buf.drop (off + src.length)

/-- `if (src && len > 0) memcpy(buf + off, src, len)`: a copy from a pointer
that may be `NULL`. -/
def copyIfSet (buf : List α) (off : ℕ) (src : Option (List α)) (len : ℕ) : List α :=
  match src with
  | some s => if len > 0 then memcpyAt buf off (s.take len) else buf
  | none => buf

@[simp] theorem length_freshBlock (fresh : ℕ → α) (n : ℕ) : (freshBlock fresh n).length = n := by
  simp [freshBlock]

/-- Copying a block right after an already written prefix. -/
theorem memcpyAt_after_prefix (P src rest : List α) :
    memcpyAt (P ++ rest) P.length src = P ++ src ++ rest.drop src.length := by
  simp [memcpyAt, List.drop_append]

@[simp] theorem memcpyAt_nil (buf : List α) (off : ℕ) : memcpyAt buf off [] = buf := by
  simp [memcpyAt]

/-- Copying to the start of a block. -/
theorem memcpyAt_zero (src buf : List α) : memcpyAt buf 0 src = src ++ buf.drop src.length := by
  simpa using memcpyAt_after_prefix [] src buf

/-- A guarded copy of a whole block, `NULL` standing for the empty one,
copies the block. -/
theorem copyIfSet_getD (buf : List α) (off : ℕ) (src : Option (List α)) :
    copyIfSet buf off src (src.getD []).length = memcpyAt buf off (src.getD []) := by
  cases src with
  | none => simp [copyIfSet]
  | some s =>
    cases s with
    | nil => simp [copyIfSet]
    | cons x xs => simp [copyIfSet]

/-- A guarded copy of `len` cells reads only the first `len` cells of its
source. -/
theorem copyIfSet_take (buf : List α) (off : ℕ) (s : List α) (len : ℕ) :
    copyIfSet buf off (some (s.take len)) len = copyIfSet buf off (some s) len := by
  rw [copyIfSet, copyIfSet, List.take_take, Nat.min_self]

/-- The first `m` cells of a fresh block of `n ≥ m` cells. -/
theorem take_freshBlock (fresh : ℕ → α) {m n : ℕ} (h : m ≤ n) :
    (freshBlock fresh n).take m = freshBlock fresh m := by
  rw [freshBlock, freshBlock, ← List.map_take, List.take_range, Nat.min_eq_left h]

/-! ## Byte sums -/

/-- The sum of the bytes of a block. -/
def byteSum (l : List UInt8) : ℕ := (l.map UInt8.toNat).sum

@[simp] theorem byteSum_nil : byteSum [] = 0 := rfl

@[simp] theorem byteSum_cons (b : UInt8) (l : List UInt8) : byteSum (b :: l) = b.toNat + byteSum l := by
  simp [byteSum]

@[simp] theorem byteSum_append (l₁ l₂ : List UInt8) : byteSum (l₁ ++ l₂) = byteSum l₁ + byteSum l₂ := by
  simp [byteSum]

theorem byteSum_le (l : List UInt8) : byteSum l ≤ 255 * l.length := by
  induction l with
  | nil => simp
  | cons b l ih =>
    have hb := b.toNat_lt
    simp only [byteSum_cons, List.length_cons]
    omega

/-- Overwriting byte `i` takes out the old byte and adds the new one. -/
theorem byteSum_set (l : List UInt8) {i : ℕ} (hi : i < l.length) (b : UInt8) :
    byteSum (l.set i b) + l[i].toNat = byteSum l + b.toNat := by
  induction l generalizing i with
  | nil => simp at hi
  | cons x xs ih =>
    cases i with
    | zero => simp; omega
    | succ i =>
      have h := ih (Nat.lt_of_succ_lt_succ hi)
      simp only [List.set_cons_succ, byteSum_cons, List.getElem_cons_succ]
      omega

theorem byteSum_set_ne (l : List UInt8) {i : ℕ} (hi : i < l.length) {b : UInt8} (hb : b ≠ l[i]) :
    byteSum (l.set i b) ≠ byteSum l := by
  have h := byteSum_set l hi b
  have hne : b.toNat ≠ l[i].toNat := fun h' => hb (UInt8.toNat_inj.mp h')
  omega

end Block
