import Mathlib.Order.Defs.Unbundled
import Mathlib.Data.List.Pairwise
import Mathlib.Tactic.SplitIfs

/-!
# Association lists under a key equivalence

A chain of `(key, value)` entries searched from the front for the first key
related to the one asked for. The relation `R` is a decidable equivalence on
keys, not equality: a key is found by any key equivalent to it.

Results:
* `findVal_setVal`, `findVal_eraseKey`: what a lookup returns after the
  value of a key is replaced or its entry removed.
* `setVal_eq_none_iff`, `eraseKey_eq_none_iff`: the two fail exactly when
  the key is absent.
* `Distinct` (no two entries with equivalent keys) is kept by both, and by
  adding an absent key at the front.
-/

namespace AssocList

variable {κ β : Type} (R : κ → κ → Prop)

/-- No two entries have related keys. -/
def Distinct (l : List (κ × β)) : Prop := l.Pairwise fun a b => ¬R a.1 b.1

variable {R} in
theorem distinct_iff_keys {l : List (κ × β)} :
    Distinct R l ↔ (l.map Prod.fst).Pairwise fun a b => ¬R a b := by
  rw [Distinct, List.pairwise_map]

variable {R} in
theorem distinct_cons {k : κ} {v : β} {l : List (κ × β)} :
    Distinct R ((k, v) :: l) ↔ (∀ e ∈ l, ¬R k e.1) ∧ Distinct R l := by
  rw [Distinct, List.pairwise_cons]
  rfl

variable [DecidableRel R]

/-- The value of the first entry whose key is related to `k`. -/
def findVal (k : κ) : List (κ × β) → Option β
  | [] => none
  | (k', v) :: rest => if R k' k then some v else findVal k rest

/-- Replace the value of the first entry whose key is related to `k`;
`none` when there is none. -/
def setVal (k : κ) (v : β) : List (κ × β) → Option (List (κ × β))
  | [] => none
  | (k', v') :: rest =>
    if R k' k then some ((k', v) :: rest) else (setVal k v rest).map ((k', v') :: ·)

/-- Unlink the first entry whose key is related to `k`; `none` when there is
none. -/
def eraseKey (k : κ) : List (κ × β) → Option (List (κ × β))
  | [] => none
  | (k', v') :: rest => if R k' k then some rest else (eraseKey k rest).map ((k', v') :: ·)

variable {R}

@[simp] theorem findVal_nil (k : κ) : findVal R k ([] : List (κ × β)) = none := rfl

theorem findVal_cons (k k' : κ) (v : β) (rest : List (κ × β)) :
    findVal R k ((k', v) :: rest) = if R k' k then some v else findVal R k rest := rfl

theorem findVal_eq_none_iff {k : κ} {l : List (κ × β)} : findVal R k l = none ↔ ∀ e ∈ l, ¬R e.1 k := by
  induction l with
  | nil => simp
  | cons e rest ih =>
    obtain ⟨k', v⟩ := e
    rw [findVal_cons]
    by_cases hk : R k' k
    · simp [hk]
    · simp [hk, ih]

/-- A map that fixes every value of the list does not change a lookup. -/
theorem findVal_map_of_forall {f : β → β} {k : κ} {l : List (κ × β)} (h : ∀ e ∈ l, f e.2 = e.2) :
    (findVal R k l).map f = findVal R k l := by
  induction l with
  | nil => rfl
  | cons e rest ih =>
    obtain ⟨k', v⟩ := e
    rw [findVal_cons]
    split_ifs
    · rw [Option.map_some, h (k', v) List.mem_cons_self]
    · exact ih fun e he => h e (List.mem_cons_of_mem _ he)

theorem setVal_eq_none_iff {k : κ} {v : β} {l : List (κ × β)} :
    setVal R k v l = none ↔ findVal R k l = none := by
  induction l with
  | nil => simp [setVal]
  | cons e rest ih =>
    obtain ⟨k', v'⟩ := e
    by_cases hk : R k' k
    · simp [setVal, findVal_cons, hk]
    · simp [setVal, findVal_cons, hk, ih]

theorem eraseKey_eq_none_iff {k : κ} {l : List (κ × β)} :
    eraseKey R k l = none ↔ findVal R k l = none := by
  induction l with
  | nil => simp [eraseKey]
  | cons e rest ih =>
    obtain ⟨k', v'⟩ := e
    by_cases hk : R k' k
    · simp [eraseKey, findVal_cons, hk]
    · simp [eraseKey, findVal_cons, hk, ih]

/-- Replacing a value keeps every key in its place. -/
theorem setVal_keys {k : κ} {v : β} {l l' : List (κ × β)} (h : setVal R k v l = some l') :
    l'.map Prod.fst = l.map Prod.fst := by
  induction l generalizing l' with
  | nil => cases h
  | cons e rest ih =>
    obtain ⟨k', v'⟩ := e
    unfold setVal at h
    split_ifs at h with hk
    · cases h; rfl
    · obtain ⟨rest', hrest, rfl⟩ := Option.map_eq_some_iff.mp h
      simp [ih hrest]

/-- Unlinking an entry leaves the others in order. -/
theorem eraseKey_sublist {k : κ} {l l' : List (κ × β)} (h : eraseKey R k l = some l') :
    l'.Sublist l := by
  induction l generalizing l' with
  | nil => cases h
  | cons e rest ih =>
    obtain ⟨k', v'⟩ := e
    unfold eraseKey at h
    split_ifs at h with hk
    · cases h; exact List.sublist_cons_self _ _
    · obtain ⟨rest', hrest, rfl⟩ := Option.map_eq_some_iff.mp h
      exact (ih hrest).cons_cons _

theorem eraseKey_length {k : κ} {l l' : List (κ × β)} (h : eraseKey R k l = some l') :
    l'.length + 1 = l.length := by
  induction l generalizing l' with
  | nil => cases h
  | cons e rest ih =>
    obtain ⟨k', v'⟩ := e
    unfold eraseKey at h
    split_ifs at h with hk
    · cases h; rfl
    · obtain ⟨rest', hrest, rfl⟩ := Option.map_eq_some_iff.mp h
      simp [← ih hrest]

section Equiv

variable (hR : Equivalence R)
include hR

/-- Equivalent keys find the same entry. -/
theorem findVal_congr {a b : κ} (hab : R a b) (l : List (κ × β)) : findVal R a l = findVal R b l := by
  induction l with
  | nil => rfl
  | cons e rest ih =>
    obtain ⟨k', v⟩ := e
    have hiff : R k' a ↔ R k' b := ⟨fun h => hR.trans h hab, fun h => hR.trans h (hR.symm hab)⟩
    by_cases hk : R k' a
    · rw [findVal_cons, findVal_cons, if_pos hk, if_pos (hiff.mp hk)]
    · rw [findVal_cons, findVal_cons, if_neg hk, if_neg (mt hiff.mpr hk), ih]

/-- A lookup after a replacement: the new value for keys related to `k`,
the old answer for the rest. -/
theorem findVal_setVal {k k' : κ} {v : β} {l l' : List (κ × β)} (h : setVal R k v l = some l') :
    findVal R k' l' = if R k k' then some v else findVal R k' l := by
  induction l generalizing l' with
  | nil => cases h
  | cons e rest ih =>
    obtain ⟨a, w⟩ := e
    unfold setVal at h
    split_ifs at h with hak
    · -- the first entry's key is related to `k`, so to `k'` exactly when `k` is
      cases h
      have hiff : R a k' ↔ R k k' := ⟨fun h' => hR.trans (hR.symm hak) h', hR.trans hak⟩
      by_cases hkk : R k k'
      · simp [findVal_cons, hiff.mpr hkk, hkk]
      · simp [findVal_cons, mt hiff.mp hkk, hkk]
    · obtain ⟨rest', hrest, rfl⟩ := Option.map_eq_some_iff.mp h
      rw [findVal_cons, findVal_cons, ih hrest]
      by_cases hak' : R a k'
      · have hkk : ¬R k k' := fun hkk => hak (hR.trans hak' (hR.symm hkk))
        simp [hak', hkk]
      · simp [hak']

/-- A lookup after an unlinking: nothing for keys related to `k`, the old
answer for the rest. -/
theorem findVal_eraseKey {k k' : κ} {l l' : List (κ × β)} (hd : Distinct R l)
    (h : eraseKey R k l = some l') :
    findVal R k' l' = if R k k' then none else findVal R k' l := by
  induction l generalizing l' with
  | nil => cases h
  | cons e rest ih =>
    obtain ⟨a, w⟩ := e
    obtain ⟨hfresh, hd'⟩ := distinct_cons.mp hd
    unfold eraseKey at h
    split_ifs at h with hak
    · cases h
      by_cases hkk : R k k'
      · -- no later key is related to `a`, so none is related to `k'`
        have hak' : R a k' := hR.trans hak hkk
        rw [if_pos hkk, findVal_eq_none_iff]
        intro e he hek'
        exact hfresh e he (hR.trans hak' (hR.symm hek'))
      · have hak' : ¬R a k' := fun hak' => hkk (hR.trans (hR.symm hak) hak')
        rw [if_neg hkk, findVal_cons, if_neg hak']
    · obtain ⟨rest', hrest, rfl⟩ := Option.map_eq_some_iff.mp h
      rw [findVal_cons, findVal_cons, ih hd' hrest]
      by_cases hak' : R a k'
      · have hkk : ¬R k k' := fun hkk => hak (hR.trans hak' (hR.symm hkk))
        simp [hak', hkk]
      · simp [hak']

end Equiv

theorem distinct_setVal {k : κ} {v : β} {l l' : List (κ × β)} (hd : Distinct R l)
    (h : setVal R k v l = some l') : Distinct R l' := by
  rw [distinct_iff_keys, setVal_keys h]
  exact distinct_iff_keys.mp hd

theorem distinct_eraseKey {k : κ} {l l' : List (κ × β)} (hd : Distinct R l)
    (h : eraseKey R k l = some l') : Distinct R l' :=
  hd.sublist (eraseKey_sublist h)

end AssocList
