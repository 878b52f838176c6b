import Mathlib

/-!
# Renaming along a chain of names

A directory is a partial map from names to contents: `d a = none` when there
is no file `a`. `rename d old new` is POSIX `rename(2)`: it fails and changes
nothing when there is no `old`, does nothing when `old` and `new` are the same
name, and otherwise moves the contents of `old` to `new`, replacing whatever
`new` held.

`shiftDown d P n` renames `P (k - 1)` to `P k` for `k = n, n - 1, …, 1`: the
loop of a numbered-file rotation, run from the top so that no file is
overwritten before it has moved.

Results:
* `shiftDown_succ_name`, `shiftDown_other`: when `P` is injective on
  `0 … n` and the chain has no gap (an empty `P j` is followed by an empty
  `P (j + 1)`), every `P k` ends up with what `P (k - 1)` held, and no other
  name changes.
-/

namespace Dir

variable {α β : Type*} [DecidableEq α]

/-- `rename(old, new)` on the directory `d`. -/
def rename (d : α → Option β) (old new : α) : α → Option β :=
  if old = new then d
  else
    match d old with
    | none => d
    | some c => Function.update (Function.update d old none) new (some c)

section Rename

variable {d : α → Option β} {old new a : α}

theorem rename_of_none (h : d old = none) : rename d old new = d := by
  rw [rename]
  split_ifs
  · rfl
  · rw [h]

@[simp] theorem rename_self (d : α → Option β) (a : α) : rename d a a = d := if_pos rfl

theorem rename_of_some {c : β} (h : d old = some c) (hne : old ≠ new) :
    rename d old new = Function.update (Function.update d old none) new (some c) := by
  rw [rename, if_neg hne, h]

theorem rename_new {c : β} (h : d old = some c) : rename d old new new = some c := by
  by_cases hne : old = new
  · rw [← hne, rename_self, h]
  · rw [rename_of_some h hne, Function.update_self]

theorem rename_old (h : old ≠ new) : rename d old new old = none := by
  cases hc : d old with
  | none => rw [rename_of_none hc, hc]
  | some c => rw [rename_of_some hc h, Function.update_of_ne h, Function.update_self]

theorem rename_other (h1 : a ≠ old) (h2 : a ≠ new) : rename d old new a = d a := by
  by_cases hne : old = new
  · rw [hne, rename_self]
  cases hc : d old with
  | none => rw [rename_of_none hc]
  | some c => rw [rename_of_some hc hne, Function.update_of_ne h2, Function.update_of_ne h1]

/-- The new name holds what the old one held, when the two differ. -/
theorem rename_new_of_none (hnew : d old = none → d new = none) :
    rename d old new new = d old := by
  cases hc : d old with
  | none => rw [rename_of_none hc, hnew hc]
  | some c => exact rename_new hc

end Rename

/-- `rename (P (k - 1)) (P k)` for `k = n, n - 1, …, 1`, in that order. -/
def shiftDown (d : α → Option β) (P : ℕ → α) : ℕ → α → Option β
  | 0 => d
  | k + 1 => shiftDown (rename d (P k) (P (k + 1))) P k

/-- No file of the chain `P 0 … P n` is missing below one that is there. -/
def NoGap (d : α → Option β) (P : ℕ → α) (n : ℕ) : Prop :=
  ∀ j < n, d (P j) = none → d (P (j + 1)) = none

section Shift

variable {P : ℕ → α}

/-- Names outside `P 0 … P n` are never renamed. -/
theorem shiftDown_other {d : α → Option β} {n : ℕ} {a : α} (ha : ∀ j ≤ n, a ≠ P j) :
    shiftDown d P n a = d a := by
  induction n generalizing d with
  | zero => rfl
  | succ n ih =>
    rw [shiftDown, ih (fun j hj => ha j (by omega))]
    exact rename_other (ha n (by omega)) (ha (n + 1) le_rfl)

omit [DecidableEq α] in
theorem ne_top_of_injOn {n j : ℕ} (hP : Set.InjOn P (Set.Iic (n + 1))) (hj : j ≤ n) :
    P j ≠ P (n + 1) := fun h =>
  absurd (hP (Set.mem_Iic.mpr (by omega)) (Set.mem_Iic.mpr le_rfl) h) (by omega)

/-- The first turn keeps the chain below its top free of gaps, and empties
the top. -/
theorem noGap_rename {d : α → Option β} {n : ℕ} (hP : Set.InjOn P (Set.Iic (n + 1)))
    (hgap : NoGap d P (n + 1)) : NoGap (rename d (P n) (P (n + 1))) P n := by
  have hbelow : ∀ j < n, rename d (P n) (P (n + 1)) (P j) = d (P j) := fun j hj =>
    rename_other (fun h => absurd (hP (Set.mem_Iic.mpr (by omega)) (Set.mem_Iic.mpr (by omega)) h)
      (by omega)) (ne_top_of_injOn hP (by omega))
  intro j hj hnone
  rw [hbelow j hj] at hnone
  by_cases hlast : j + 1 = n
  · rw [hlast]
    exact rename_old (ne_top_of_injOn hP le_rfl)
  · rw [hbelow (j + 1) (by omega)]
    exact hgap j (by omega) hnone

/-- Every `P (j + 1)` ends up with what `P j` held. Induction on `n`: the
first turn moves `P n` to the top, which no later turn touches, and leaves
the shorter chain below it without a gap. -/
theorem shiftDown_succ_name {d : α → Option β} {n j : ℕ} (hP : Set.InjOn P (Set.Iic n))
    (hgap : NoGap d P n) (hj : j < n) : shiftDown d P n (P (j + 1)) = d (P j) := by
  induction n generalizing d with
  | zero => exact absurd hj (Nat.not_lt_zero j)
  | succ n ih =>
    have hP' : Set.InjOn P (Set.Iic n) := hP.mono (Set.Iic_subset_Iic.mpr (Nat.le_succ n))
    rw [shiftDown]
    by_cases hjn : j = n
    · subst hjn
      rw [shiftDown_other (fun k hk => (ne_top_of_injOn hP hk).symm)]
      exact rename_new_of_none (hgap j (Nat.lt_succ_self j))
    · rw [ih hP' (noGap_rename hP hgap) (by omega)]
      exact rename_other (fun h => absurd (hP (Set.mem_Iic.mpr (by omega))
        (Set.mem_Iic.mpr (by omega)) h) (by omega)) (ne_top_of_injOn hP (by omega))

end Shift

end Dir
