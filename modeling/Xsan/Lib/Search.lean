import Mathlib.Data.List.Infix
import Mathlib.Tactic.SplitIfs

/-!
# Searching a list for a pattern

`findInfix pat s` is the position of the first occurrence of `pat` in `s`, the
answer C's `strstr` gives as a pointer. `replaceAll old new s` is the
leftmost non-overlapping replacement of `old` by `new`: scanning from the
left, an occurrence is replaced and the scan resumes after it.
`countAll old s` counts the occurrences so replaced.

Results:
* `replaceAll_of_findInfix_eq_some`, `countAll_of_findInfix_eq_some`: the
  replacement and the count restart after the first occurrence, which is how
  a loop around `strstr` computes them.
* `length_replaceAll`: each replaced occurrence trades `old.length` characters
  for `new.length`.
* `replaceAll_of_countAll_eq_zero`, `replaceAll_nil_left`: with no
  occurrence, or the empty pattern, the list is left as it is.
* `exists_append_cons_of_mem`, `exists_append_cons_of_mem_last`: a list
  holding an element is cut at its first (`strchr`) or last (`strrchr`)
  occurrence; `takeWhile_ne_append_cons`, `dropWhile_ne_append_cons` and
  `idxOf_append_cons_of_not_mem` read the first cut back.
-/

namespace Search

variable {α : Type} [DecidableEq α]

/-! ## The first occurrence -/

/-- The offset of the first occurrence of `pat` in `s`. -/
def findInfix (pat : List α) : List α → Option ℕ
  | [] => if pat = [] then some 0 else none
  | c :: t => if pat <+: c :: t then some 0 else (findInfix pat t).map (· + 1)

theorem findInfix_cons_of_startsWith {pat t : List α} {c : α} (h : pat <+: c :: t) :
    findInfix pat (c :: t) = some 0 := by
  simp [findInfix, h]

theorem findInfix_cons_of_not_startsWith {pat t : List α} {c : α} (h : ¬pat <+: c :: t) :
    findInfix pat (c :: t) = (findInfix pat t).map (· + 1) := by
  simp [findInfix, h]

/-- The empty pattern is found at once. -/
theorem findInfix_nil_left (s : List α) : findInfix [] s = some 0 := by
  cases s <;> simp [findInfix]

/-- Where the search stops, the pattern stands. -/
theorem prefix_drop_of_findInfix {pat s : List α} {i : ℕ} (h : findInfix pat s = some i) :
    pat <+: s.drop i := by
  induction s generalizing i with
  | nil =>
    by_cases hp : pat = [] <;> simp_all [findInfix]
  | cons c t ih =>
    by_cases hp : pat <+: c :: t
    · rw [findInfix_cons_of_startsWith hp] at h
      cases h
      exact hp
    · rw [findInfix_cons_of_not_startsWith hp] at h
      obtain ⟨j, hj, rfl⟩ := Option.map_eq_some_iff.mp h
      exact ih hj

/-- The occurrence found lies inside the list. -/
theorem findInfix_add_length_le {pat s : List α} {i : ℕ} (h : findInfix pat s = some i) :
    i + pat.length ≤ s.length := by
  have hlen := (prefix_drop_of_findInfix h).length_le
  have hi : i ≤ s.length := by
    by_contra hi
    rw [List.drop_eq_nil_of_le (by omega)] at hlen
    have hpat : pat ≠ [] := by
      rintro rfl
      rw [findInfix_nil_left] at h
      cases h
      omega
    exact hpat (List.eq_nil_of_length_eq_zero (by simpa using hlen))
  rw [List.length_drop] at hlen
  omega

/-! ## The first and the last occurrence of an element -/

theorem exists_append_cons_of_mem {c : α} {l : List α} (h : c ∈ l) :
    ∃ u rest, c ∉ u ∧ l = u ++ c :: rest := by
  induction l with
  | nil => cases h
  | cons x t ih =>
    by_cases hx : x = c
    · exact ⟨[], t, List.not_mem_nil, by rw [hx, List.nil_append]⟩
    · obtain ⟨u, rest, hu, rfl⟩ := ih ((List.mem_cons.mp h).resolve_left (Ne.symm hx))
      refine ⟨x :: u, rest, ?_, rfl⟩
      rw [List.mem_cons, not_or]
      exact ⟨Ne.symm hx, hu⟩

theorem exists_append_cons_of_mem_last {c : α} {l : List α} (h : c ∈ l) :
    ∃ u rest, c ∉ rest ∧ l = u ++ c :: rest := by
  obtain ⟨u, rest, hu, hl⟩ := exists_append_cons_of_mem (List.mem_reverse.mpr h)
  refine ⟨rest.reverse, u.reverse, by rwa [List.mem_reverse], ?_⟩
  rw [← List.reverse_reverse l, hl]
  simp

theorem takeWhile_ne_append_cons {c : α} {u : List α} (hu : c ∉ u) (rest : List α) :
    (u ++ c :: rest).takeWhile (· != c) = u := by
  have hpos : ∀ a ∈ u, (a != c) = true := fun a ha => bne_iff_ne.mpr fun h => hu (h ▸ ha)
  rw [List.takeWhile_append_of_pos hpos, List.takeWhile_cons_of_neg (by simp), List.append_nil]

theorem dropWhile_ne_append_cons {c : α} {u : List α} (hu : c ∉ u) (rest : List α) :
    (u ++ c :: rest).dropWhile (· != c) = c :: rest := by
  have hpos : ∀ a ∈ u, (a != c) = true := fun a ha => bne_iff_ne.mpr fun h => hu (h ▸ ha)
  rw [List.dropWhile_append_of_pos hpos, List.dropWhile_cons_of_neg (by simp)]

theorem idxOf_append_cons_of_not_mem {c : α} {u : List α} (hu : c ∉ u) (rest : List α) :
    (u ++ c :: rest).idxOf c = u.length := by
  induction u with
  | nil => simp
  | cons x u ih =>
    have hx : x ≠ c := fun h => hu (h ▸ List.mem_cons_self)
    rw [List.cons_append, List.idxOf_cons_ne _ hx, ih (fun h => hu (List.mem_cons_of_mem x h)),
      List.length_cons]

/-! ## Leftmost non-overlapping replacement -/

/-- Replace, from the left, each occurrence of `old` not overlapping one
already replaced by `new`; with `old` empty nothing is replaced. -/
def replaceAll (old new : List α) (s : List α) : List α :=
  match s with
  | [] => []
  | c :: t =>
    if h : old ≠ [] ∧ old <+: c :: t then new ++ replaceAll old new ((c :: t).drop old.length)
    else c :: replaceAll old new t
termination_by s.length
decreasing_by
  all_goals simp only [List.length_drop, List.length_cons]
  · have := List.length_pos_iff.mpr h.1
    omega
  · omega

/-- How many occurrences `replaceAll` replaces. -/
def countAll (old : List α) (s : List α) : ℕ :=
  match s with
  | [] => 0
  | c :: t =>
    if h : old ≠ [] ∧ old <+: c :: t then countAll old ((c :: t).drop old.length) + 1
    else countAll old t
termination_by s.length
decreasing_by
  all_goals simp only [List.length_drop, List.length_cons]
  · have := List.length_pos_iff.mpr h.1
    omega
  · omega

variable {old new : List α}

theorem replaceAll_nil : replaceAll old new [] = [] := by
  rw [replaceAll]

theorem countAll_nil : countAll old [] = 0 := by
  rw [countAll]

theorem replaceAll_cons_of_startsWith {c : α} {t : List α} (hold : old ≠ []) (h : old <+: c :: t) :
    replaceAll old new (c :: t) = new ++ replaceAll old new ((c :: t).drop old.length) := by
  rw [replaceAll, dif_pos ⟨hold, h⟩]

theorem replaceAll_cons_of_not_startsWith {c : α} {t : List α} (h : ¬old <+: c :: t) :
    replaceAll old new (c :: t) = c :: replaceAll old new t := by
  rw [replaceAll, dif_neg (fun h' => h h'.2)]

theorem countAll_cons_of_startsWith {c : α} {t : List α} (hold : old ≠ []) (h : old <+: c :: t) :
    countAll old (c :: t) = countAll old ((c :: t).drop old.length) + 1 := by
  rw [countAll, dif_pos ⟨hold, h⟩]

theorem countAll_cons_of_not_startsWith {c : α} {t : List α} (h : ¬old <+: c :: t) :
    countAll old (c :: t) = countAll old t := by
  rw [countAll, dif_neg (fun h' => h h'.2)]

/-- Without an occurrence nothing is replaced. -/
theorem replaceAll_of_findInfix_eq_none {s : List α} (h : findInfix old s = none) :
    replaceAll old new s = s := by
  induction s with
  | nil => exact replaceAll_nil
  | cons c t ih =>
    by_cases hp : old <+: c :: t
    · rw [findInfix_cons_of_startsWith hp] at h
      cases h
    · rw [findInfix_cons_of_not_startsWith hp, Option.map_eq_none_iff] at h
      rw [replaceAll_cons_of_not_startsWith hp, ih h]

theorem countAll_of_findInfix_eq_none {s : List α} (h : findInfix old s = none) :
    countAll old s = 0 := by
  induction s with
  | nil => exact countAll_nil
  | cons c t ih =>
    by_cases hp : old <+: c :: t
    · rw [findInfix_cons_of_startsWith hp] at h
      cases h
    · rw [findInfix_cons_of_not_startsWith hp, Option.map_eq_none_iff] at h
      rw [countAll_cons_of_not_startsWith hp, ih h]

/-- The replacement copies the text before the first occurrence, puts `new`
for it and goes on after it. -/
theorem replaceAll_of_findInfix_eq_some (hold : old ≠ []) {s : List α} {i : ℕ}
    (h : findInfix old s = some i) :
    replaceAll old new s = s.take i ++ new ++ replaceAll old new (s.drop (i + old.length)) := by
  induction s generalizing i with
  | nil => simp [findInfix, hold] at h
  | cons c t ih =>
    by_cases hp : old <+: c :: t
    · rw [findInfix_cons_of_startsWith hp] at h
      cases h
      rw [replaceAll_cons_of_startsWith hold hp, Nat.zero_add, List.take_zero, List.nil_append]
    · rw [findInfix_cons_of_not_startsWith hp] at h
      obtain ⟨j, hj, rfl⟩ := Option.map_eq_some_iff.mp h
      rw [replaceAll_cons_of_not_startsWith hp, ih hj, Nat.add_right_comm, List.drop_succ_cons,
        List.take_succ_cons]
      rfl

theorem countAll_of_findInfix_eq_some (hold : old ≠ []) {s : List α} {i : ℕ}
    (h : findInfix old s = some i) :
    countAll old s = countAll old (s.drop (i + old.length)) + 1 := by
  induction s generalizing i with
  | nil => simp [findInfix, hold] at h
  | cons c t ih =>
    by_cases hp : old <+: c :: t
    · rw [findInfix_cons_of_startsWith hp] at h
      cases h
      rw [countAll_cons_of_startsWith hold hp, Nat.zero_add]
    · rw [findInfix_cons_of_not_startsWith hp] at h
      obtain ⟨j, hj, rfl⟩ := Option.map_eq_some_iff.mp h
      rw [countAll_cons_of_not_startsWith hp, ih hj, Nat.add_right_comm, List.drop_succ_cons]

/-- Each replaced occurrence trades `old.length` characters for `new.length`. -/
theorem length_replaceAll (s : List α) :
    (replaceAll old new s).length + countAll old s * old.length =
      s.length + countAll old s * new.length := by
  induction s using replaceAll.induct old with
  | case1 => rw [replaceAll_nil, countAll_nil, Nat.zero_mul, Nat.zero_mul]
  | case2 c t h ih =>
    rw [replaceAll_cons_of_startsWith h.1 h.2, countAll_cons_of_startsWith h.1 h.2, List.length_append]
    have hle := h.2.length_le
    rw [List.length_drop] at ih
    simp only [Nat.succ_mul]
    omega
  | case3 c t h ih =>
    rw [replaceAll, dif_neg h, countAll, dif_neg h, List.length_cons, List.length_cons]
    omega

/-- With nothing counted, nothing is replaced. -/
theorem replaceAll_of_countAll_eq_zero {s : List α} (hold : old ≠ []) (h : countAll old s = 0) :
    replaceAll old new s = s := by
  cases hf : findInfix old s with
  | none => exact replaceAll_of_findInfix_eq_none hf
  | some i =>
    rw [countAll_of_findInfix_eq_some hold hf] at h
    exact absurd h (Nat.succ_ne_zero _)

/-- The empty pattern replaces nothing. -/
theorem replaceAll_nil_left (s : List α) : replaceAll [] new s = s := by
  induction s with
  | nil => exact replaceAll_nil
  | cons c t ih => rw [replaceAll, dif_neg (fun h => h.1 rfl), ih]

/-- A run of one element has an occurrence of it at every position. -/
theorem countAll_singleton_replicate (a : α) (n : ℕ) : countAll [a] (List.replicate n a) = n := by
  induction n with
  | zero => exact countAll_nil
  | succ n ih =>
    have hp : [a] <+: a :: List.replicate n a := ⟨List.replicate n a, rfl⟩
    rw [List.replicate_succ, countAll_cons_of_startsWith (List.cons_ne_nil _ _) hp,
      List.length_singleton, List.drop_one, List.tail_cons, ih]

theorem replaceAll_singleton_replicate (a : α) (n : ℕ) :
    replaceAll [a] new (List.replicate n a) = (List.replicate n new).flatten := by
  induction n with
  | zero => exact replaceAll_nil
  | succ n ih =>
    have hp : [a] <+: a :: List.replicate n a := ⟨List.replicate n a, rfl⟩
    rw [List.replicate_succ, replaceAll_cons_of_startsWith (List.cons_ne_nil _ _) hp,
      List.length_singleton, List.drop_one, List.tail_cons, ih, List.replicate_succ, List.flatten_cons]

end Search
