import Mathlib.Data.Nat.ModEq
import Mathlib.Data.List.Range

/-!
# Circular arrays

An array of `cap` cells used as a ring: the `n` cells that start at slot
`head` and wrap past the last slot to slot `0`. `slice cells d cap head n`
reads them in order, `d` standing for a read outside the array (which never
happens while the array has `cap` cells).

Results:
* `slice_set`: writing the slot just past the `n` cells (with `n < cap`)
  appends the value written.
* `slice_succ`: the cells from `head` are the cell at `head` followed by the
  cells from the next slot.
-/

namespace Ring

variable {α : Type}

/-- The `n` cells of `cells` from slot `head` on, going round `cap` slots. -/
def slice (cells : List α) (d : α) (cap head n : ℕ) : List α :=
  (List.range n).map fun i => cells.getD ((head + i) % cap) d

variable {cells : List α} {d : α} {cap head n : ℕ}

@[simp] theorem length_slice : (slice cells d cap head n).length = n := by
  simp [slice]

/-- Offsets less than a full turn apart land on different slots. -/
theorem mod_add_ne {i j : ℕ} (hij : i < j) (hj : j < cap) : (head + i) % cap ≠ (head + j) % cap := by
  intro h
  have hmod : i ≡ j [MOD cap] := Nat.ModEq.add_left_cancel' head h
  have hi : i < cap := lt_trans hij hj
  exact absurd (Nat.ModEq.eq_of_lt_of_lt hmod hi hj) (Nat.ne_of_lt hij)

/-- Writing the slot just past the cells appends the value written. -/
theorem slice_set {v : α} (hn : n < cap) (hlen : cells.length = cap) :
    slice (cells.set ((head + n) % cap) v) d cap head (n + 1) = slice cells d cap head n ++ [v] := by
  have hcap : 0 < cap := Nat.lt_of_le_of_lt (Nat.zero_le n) hn
  have hslot : (head + n) % cap < cells.length := by rw [hlen]; exact Nat.mod_lt _ hcap
  rw [slice, List.range_succ, List.map_append, List.map_singleton, slice]
  congr 1
  · -- the cells before the slot written keep their values
    refine List.map_congr_left fun i hi => ?_
    have hne : (head + n) % cap ≠ (head + i) % cap := (mod_add_ne (List.mem_range.mp hi) hn).symm
    simp [List.getD_eq_getElem?_getD, hne]
  · simp [List.getD_eq_getElem?_getD, hslot]

/-- The cells from `head` are the one at `head`, then those from the next
slot. -/
theorem slice_succ : slice cells d cap head (n + 1) =
    cells.getD (head % cap) d :: slice cells d cap ((head + 1) % cap) n := by
  rw [slice, List.range_succ_eq_map, List.map_cons, List.map_map, slice, Nat.add_zero]
  congr 1
  refine List.map_congr_left fun i _ => ?_
  -- `(head + (i + 1)) % cap = ((head + 1) % cap + i) % cap`
  simp only [Function.comp_apply, Nat.succ_eq_add_one]
  rw [Nat.mod_add_mod, Nat.add_right_comm, Nat.add_assoc]

end Ring
