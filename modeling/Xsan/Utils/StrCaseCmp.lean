import Mathlib.Data.Int.Init
import Mathlib.Data.List.Basic

/-!
# Case-insensitive comparison of C strings

`xsan_strncasecmp` (string_utils.c:269-286) compares at most `n` characters
of two C strings after `tolower`. Its loop stops on the count, on a pair that
differs, or as soon as either string is at its `NUL`, and then returns `0`
without comparing that last pair. A `NULL` argument or `n = 0` gives `0` for
equal pointers and `±1` otherwise. Its sibling `xsan_strcasecmp` (lines
247-264) has no count and, after the same loop, returns the difference of the
pair it stopped at.

The strings are read through pointers into a memory of characters: `mem a` is
the character at address `a`, a character stands for its byte, and the null
pointer is the address `0`. `tolower` is that of the C locale
(`Char.toLower`). POSIX `strncasecmp` is `posixStrncasecmp`: the first `n`
characters of each string, its terminating `NUL` included, compared after
`tolower`; the first pair that differs decides, and its difference has the
sign of the result.

Results:
* `strncasecmpLoop_eq_posix`, `strncasecmpLoop_of_oneEndsFirst`: the loop
  answers as POSIX does unless, after a prefix equal up to case, exactly one
  string ends within the count (`OneEndsFirst`); then it answers `0` and POSIX
  does not.
* `xsanStrncasecmp_sign_eq_posix_iff`: for non-null pointers and `n > 0`, the
  signs agree exactly when no string ends first.
* `strcasecmpLoop_eq_posix`, `xsanStrcasecmp_eq_posix`: the sibling without a
  count returns, once its loop has covered the shorter string, the POSIX
  answer.
* `strncasecmp_prefix_compares_equal`: `"ab"` and `"abc"` compare equal for
  `n = 3`, and two distinct strings compare unequal for `n = 0`.
-/

namespace Xsan

/-! ## `tolower` -/

theorem toNat_toLower (c : Char) :
    c.toLower.toNat = if 65 ≤ c.toNat ∧ c.toNat ≤ 90 then c.toNat + 32 else c.toNat := by
  have hval : ∀ x : Char, x.toNat = x.val.toNat := fun _ => rfl
  have hA : 'A'.val.toNat = 65 := rfl
  have hZ : 'Z'.val.toNat = 90 := rfl
  have hd : ('a'.val - 'A'.val).toNat = 32 := rfl
  have hlt : c.val.toNat < 2 ^ 32 := c.val.toNat_lt
  rw [hval, hval]
  unfold Char.toLower
  split_ifs with h h' h' <;> simp only [ge_iff_le, UInt32.le_iff_toNat_le, hA, hZ] at h
  · -- an upper-case letter moves 32 code points up, without wrapping
    show (c.val + ('a'.val - 'A'.val)).toNat = _
    rw [UInt32.toNat_add, hd]
    omega
  · exact absurd h h'
  · exact absurd h' h
  · rfl

/-- `tolower` sends only `NUL` to `NUL`. -/
theorem toLower_eq_nul_iff (c : Char) : c.toLower = '\x00' ↔ c = '\x00' := by
  have h := toNat_toLower c
  rw [← Char.toNat_inj, ← Char.toNat_inj]
  constructor
  · intro hc
    rw [hc] at h
    split_ifs at h <;> simp at h ⊢
    omega
  · intro hc
    rw [h, hc]
    rfl

/-- Characters equal after `tolower` are both `NUL` or neither. -/
theorem nul_iff_of_toLower_eq {c d : Char} (h : c.toLower = d.toLower) : c = '\x00' ↔ d = '\x00' := by
  rw [← toLower_eq_nul_iff, h, toLower_eq_nul_iff]

/-! ## Strings in memory -/

/-- The C string `s` at address `p`: its characters, none `NUL`, then the
`NUL`. -/
structure CStrAt (mem : ℕ → Char) (p : ℕ) (s : List Char) : Prop where
  chars : ∀ i (h : i < s.length), mem (p + i) = s[i]
  nul_not_mem : '\x00' ∉ s
  nul : mem (p + s.length) = '\x00'

theorem CStrAt.nil {mem : ℕ → Char} {p : ℕ} (h : CStrAt mem p []) : mem p = '\x00' := h.nul

/-- The first character of a non-empty string, and the rest of it one address
on. -/
theorem CStrAt.cons {mem : ℕ → Char} {p : ℕ} {c : Char} {s : List Char} (h : CStrAt mem p (c :: s)) :
    mem p = c ∧ c ≠ '\x00' ∧ CStrAt mem (p + 1) s := by
  refine ⟨h.chars 0 (by simp), fun hc => h.nul_not_mem (hc ▸ List.mem_cons_self), ?_, ?_, ?_⟩
  · intro i hi
    rw [Nat.add_assoc, Nat.add_comm 1 i]
    exact h.chars (i + 1) (by simpa using hi)
  · exact fun hs => h.nul_not_mem (List.mem_cons_of_mem c hs)
  · rw [Nat.add_assoc, Nat.add_comm 1]
    exact h.nul

/-- A memory laid out as a list of characters, `NUL` past its end, holds each
`NUL`-free piece followed by a `NUL` as a string at the piece's offset. -/
theorem cStrAt_getD (pre s rest : List Char) (hs : '\x00' ∉ s) :
    CStrAt (fun a => (pre ++ s ++ '\x00' :: rest).getD a '\x00') pre.length s where
  chars i hi := by
    simp only [List.getD_eq_getElem?_getD, List.append_assoc]
    rw [List.getElem?_append_right (by omega), Nat.add_sub_cancel_left,
      List.getElem?_append_left hi, List.getElem?_eq_getElem hi, Option.getD_some]
  nul_not_mem := hs
  nul := by
    simp only [List.getD_eq_getElem?_getD, List.append_assoc]
    rw [List.getElem?_append_right (by omega), Nat.add_sub_cancel_left,
      List.getElem?_append_right (Nat.le_refl _), Nat.sub_self, List.getElem?_cons_zero, Option.getD_some]

/-! ## The code -/

/-- The loop of `xsan_strncasecmp` (lines 274-283) at `s1` and `s2`, with `k`
turns of its count left. -/
def strncasecmpLoop (mem : ℕ → Char) (s1 s2 : ℕ) : ℕ → ℤ
  | 0 => 0
  | k + 1 =>
    if mem s1 = '\x00' ∨ mem s2 = '\x00' then 0
    else
      let c1 := (mem s1).toLower.toNat
      let c2 := (mem s2).toLower.toNat
      if c1 ≠ c2 then (c1 : ℤ) - c2 else strncasecmpLoop mem (s1 + 1) (s2 + 1) k

/-- `xsan_strncasecmp` (string_utils.c:269-286). -/
def xsanStrncasecmp (mem : ℕ → Char) (s1 s2 n : ℕ) : ℤ :=
  if s1 = 0 ∨ s2 = 0 ∨ n = 0 then (if s1 = s2 then 0 else if s1 ≠ 0 then 1 else -1)
  else strncasecmpLoop mem s1 s2 n

/-- The loop of `xsan_strcasecmp` (lines 252-263) at `s1` and `s2` for at
most `fuel` more turns of its body, and the difference it returns after
leaving the loop; `none` while it still runs. -/
def strcasecmpLoop (mem : ℕ → Char) (fuel s1 s2 : ℕ) : Option ℤ :=
  if mem s1 ≠ '\x00' ∧ mem s2 ≠ '\x00' then
    match fuel with
    | 0 => none
    | fuel + 1 =>
      let c1 := (mem s1).toLower.toNat
      let c2 := (mem s2).toLower.toNat
      if c1 ≠ c2 then some ((c1 : ℤ) - c2) else strcasecmpLoop mem fuel (s1 + 1) (s2 + 1)
  else some (((mem s1).toLower.toNat : ℤ) - (mem s2).toLower.toNat)

theorem strcasecmpLoop_stop {mem : ℕ → Char} {s1 s2 : ℕ} (hstop : ¬(mem s1 ≠ '\x00' ∧ mem s2 ≠ '\x00'))
    (fuel : ℕ) :
    strcasecmpLoop mem fuel s1 s2 = some (((mem s1).toLower.toNat : ℤ) - (mem s2).toLower.toNat) := by
  rw [strcasecmpLoop.eq_def, if_neg hstop]

theorem strcasecmpLoop_go_zero {mem : ℕ → Char} {s1 s2 : ℕ} (hgo : mem s1 ≠ '\x00' ∧ mem s2 ≠ '\x00') :
    strcasecmpLoop mem 0 s1 s2 = none := by
  rw [strcasecmpLoop.eq_def, if_pos hgo]

theorem strcasecmpLoop_go_succ {mem : ℕ → Char} {s1 s2 : ℕ} (hgo : mem s1 ≠ '\x00' ∧ mem s2 ≠ '\x00')
    (fuel : ℕ) :
    strcasecmpLoop mem (fuel + 1) s1 s2 =
      if (mem s1).toLower.toNat ≠ (mem s2).toLower.toNat then
        some (((mem s1).toLower.toNat : ℤ) - (mem s2).toLower.toNat)
      else strcasecmpLoop mem fuel (s1 + 1) (s2 + 1) := by
  rw [strcasecmpLoop.eq_def, if_pos hgo]

/-- `xsan_strcasecmp` (string_utils.c:247-264), its loop given `fuel` turns. -/
def xsanStrcasecmp (mem : ℕ → Char) (s1 s2 fuel : ℕ) : Option ℤ :=
  if s1 = 0 ∨ s2 = 0 then some (if s1 = s2 then 0 else if s1 ≠ 0 then 1 else -1)
  else strcasecmpLoop mem fuel s1 s2

/-! ## POSIX -/

/-- POSIX `strncasecmp` over `k` more characters: the first pair that differs
after `tolower` decides, and a `NUL` that both strings reach ends the
comparison. -/
def posixStrncasecmp (mem : ℕ → Char) (s1 s2 : ℕ) : ℕ → ℤ
  | 0 => 0
  | k + 1 =>
    let c1 := (mem s1).toLower.toNat
    let c2 := (mem s2).toLower.toNat
    if c1 ≠ c2 then (c1 : ℤ) - c2
    else if mem s1 = '\x00' then 0
    else posixStrncasecmp mem (s1 + 1) (s2 + 1) k

theorem posixStrncasecmp_succ (mem : ℕ → Char) (s1 s2 k : ℕ) :
    posixStrncasecmp mem s1 s2 (k + 1) =
      if (mem s1).toLower.toNat ≠ (mem s2).toLower.toNat then
        ((mem s1).toLower.toNat : ℤ) - (mem s2).toLower.toNat
      else if mem s1 = '\x00' then 0
      else posixStrncasecmp mem (s1 + 1) (s2 + 1) k := rfl

/-- Within the first `k` characters, after a prefix equal up to case, one
string is at its `NUL` and the other is not. -/
def OneEndsFirst (mem : ℕ → Char) (s1 s2 k : ℕ) : Prop :=
  ∃ i < k, (∀ j < i, mem (s1 + j) ≠ '\x00' ∧ (mem (s1 + j)).toLower = (mem (s2 + j)).toLower) ∧
    (mem (s1 + i) = '\x00' ↔ mem (s2 + i) ≠ '\x00')

/-- `OneEndsFirst` one character at a time, as the loops read the strings. -/
theorem oneEndsFirst_succ {mem : ℕ → Char} {s1 s2 k : ℕ} :
    OneEndsFirst mem s1 s2 (k + 1) ↔
      (mem s1 = '\x00' ↔ mem s2 ≠ '\x00') ∨
        (mem s1 ≠ '\x00' ∧ (mem s1).toLower = (mem s2).toLower ∧
          OneEndsFirst mem (s1 + 1) (s2 + 1) k) := by
  have hshift : ∀ s j, s + 1 + j = s + (j + 1) := fun _ _ => by omega
  constructor
  · rintro ⟨i, hi, hpre, hend⟩
    cases i with
    | zero => exact .inl hend
    | succ i =>
      refine .inr ⟨(hpre 0 (by omega)).1, (hpre 0 (by omega)).2, i, by omega, fun j hj => ?_, ?_⟩
      · rw [hshift, hshift]
        exact hpre (j + 1) (by omega)
      · rwa [hshift, hshift]
  · rintro (hend | ⟨hne, heq, i, hi, hpre, hend⟩)
    · exact ⟨0, by omega, fun j hj => absurd hj (Nat.not_lt_zero j), hend⟩
    · refine ⟨i + 1, by omega, fun j hj => ?_, by rwa [hshift, hshift] at hend⟩
      cases j with
      | zero => exact ⟨hne, heq⟩
      | succ j =>
        have := hpre j (by omega)
        rwa [hshift, hshift] at this

/-! ## The code against POSIX -/

section Compare

variable {mem : ℕ → Char}

/-- The two loops agree unless a string ends first. -/
theorem strncasecmpLoop_eq_posix {s1 s2 k : ℕ} (h : ¬OneEndsFirst mem s1 s2 k) :
    strncasecmpLoop mem s1 s2 k = posixStrncasecmp mem s1 s2 k := by
  induction k generalizing s1 s2 with
  | zero => rfl
  | succ k ih =>
    rw [oneEndsFirst_succ, not_or] at h
    obtain ⟨hend, hrest⟩ := h
    by_cases h1 : mem s1 = '\x00'
    · -- both strings end here: no pair differs
      have h2 : mem s2 = '\x00' := by tauto
      simp [strncasecmpLoop, posixStrncasecmp, h1, h2]
    · have h2 : mem s2 ≠ '\x00' := by tauto
      simp only [strncasecmpLoop, posixStrncasecmp, h1, h2, or_self, if_false]
      by_cases hc : (mem s1).toLower.toNat = (mem s2).toLower.toNat
      · rw [if_neg (not_not.mpr hc), if_neg (not_not.mpr hc)]
        exact ih fun h' => hrest ⟨h1, Char.toNat_inj.mp hc, h'⟩
      · rw [if_pos hc, if_pos hc]

/-- When a string ends first, the code's loop answers `0` and POSIX does not. -/
theorem strncasecmpLoop_of_oneEndsFirst {s1 s2 k : ℕ} (h : OneEndsFirst mem s1 s2 k) :
    strncasecmpLoop mem s1 s2 k = 0 ∧ posixStrncasecmp mem s1 s2 k ≠ 0 := by
  induction k generalizing s1 s2 with
  | zero => exact absurd h (fun ⟨i, hi, _⟩ => Nat.not_lt_zero i hi)
  | succ k ih =>
    rcases oneEndsFirst_succ.mp h with hend | ⟨hne, heq, hrest⟩
    · -- the loop stops at the `NUL`; POSIX compares it with a character
      have hc : (mem s1).toLower.toNat ≠ (mem s2).toLower.toNat := by
        intro hc
        have := nul_iff_of_toLower_eq (Char.toNat_inj.mp hc)
        tauto
      have hstop : mem s1 = '\x00' ∨ mem s2 = '\x00' := by tauto
      refine ⟨by simp only [strncasecmpLoop, if_pos hstop], ?_⟩
      simp only [posixStrncasecmp, if_pos hc]
      omega
    · have hs2 : mem s2 ≠ '\x00' := fun h2 => hne ((nul_iff_of_toLower_eq heq).mpr h2)
      have hc : (mem s1).toLower.toNat = (mem s2).toLower.toNat := by rw [heq]
      obtain ⟨hloop, hposix⟩ := ih hrest
      refine ⟨?_, ?_⟩
      · simp only [strncasecmpLoop, hne, hs2, or_self, if_false, hc, ne_eq, not_true_eq_false]
        exact hloop
      · simp only [posixStrncasecmp, hne, hc, ne_eq, not_true_eq_false, if_false]
        exact hposix

/-- For non-null pointers and a non-zero count, `xsan_strncasecmp` has the
sign of POSIX `strncasecmp` exactly when neither string ends before the other
within the count. -/
theorem xsanStrncasecmp_sign_eq_posix_iff {s1 s2 n : ℕ} (hs1 : s1 ≠ 0) (hs2 : s2 ≠ 0) (hn : n ≠ 0) :
    (xsanStrncasecmp mem s1 s2 n).sign = (posixStrncasecmp mem s1 s2 n).sign ↔
      ¬OneEndsFirst mem s1 s2 n := by
  have hcode : xsanStrncasecmp mem s1 s2 n = strncasecmpLoop mem s1 s2 n := by
    rw [xsanStrncasecmp, if_neg (by tauto)]
  rw [hcode]
  constructor
  · intro hsign hend
    obtain ⟨hzero, hposix⟩ := strncasecmpLoop_of_oneEndsFirst hend
    rw [hzero, Int.sign_zero] at hsign
    exact hposix (Int.sign_eq_zero_iff_zero.mp hsign.symm)
  · intro h
    rw [strncasecmpLoop_eq_posix h]

/-- Where a loop stops at a `NUL`, POSIX compares that pair and ends. -/
theorem posixStrncasecmp_of_stop {s1 s2 : ℕ} (hstop : ¬(mem s1 ≠ '\x00' ∧ mem s2 ≠ '\x00')) (k : ℕ) :
    posixStrncasecmp mem s1 s2 (k + 1) = ((mem s1).toLower.toNat : ℤ) - (mem s2).toLower.toNat := by
  rw [posixStrncasecmp_succ]
  by_cases hc : (mem s1).toLower.toNat = (mem s2).toLower.toNat
  · -- equal after `tolower` with one of them `NUL`: both are
    have hnul : mem s1 = '\x00' := by
      have := nul_iff_of_toLower_eq (Char.toNat_inj.mp hc)
      tauto
    rw [if_neg (not_not.mpr hc), if_pos hnul, hc, Int.sub_self]
  · rw [if_pos hc]

/-- Whenever the sibling's loop returns, it returns the POSIX answer over one
more character than its turns. -/
theorem strcasecmpLoop_eq_posix {fuel s1 s2 : ℕ} {r : ℤ} (h : strcasecmpLoop mem fuel s1 s2 = some r) :
    r = posixStrncasecmp mem s1 s2 (fuel + 1) := by
  induction fuel generalizing s1 s2 with
  | zero =>
    by_cases hgo : mem s1 ≠ '\x00' ∧ mem s2 ≠ '\x00'
    · rw [strcasecmpLoop_go_zero hgo] at h
      cases h
    · rw [strcasecmpLoop_stop hgo, Option.some.injEq] at h
      rw [← h, posixStrncasecmp_of_stop hgo]
  | succ fuel ih =>
    by_cases hgo : mem s1 ≠ '\x00' ∧ mem s2 ≠ '\x00'
    · rw [strcasecmpLoop_go_succ hgo] at h
      rw [posixStrncasecmp_succ]
      by_cases hc : (mem s1).toLower.toNat = (mem s2).toLower.toNat
      · -- the pair matches: both go on to the next characters
        rw [if_neg (not_not.mpr hc)] at h
        rw [if_neg (not_not.mpr hc), if_neg hgo.1]
        exact ih h
      · rw [if_pos hc, Option.some.injEq] at h
        rw [if_pos hc, h]
    · rw [strcasecmpLoop_stop hgo, Option.some.injEq] at h
      rw [← h, posixStrncasecmp_of_stop hgo]

/-- The sibling's loop returns once it has had as many turns as the shorter
string has characters. -/
theorem strcasecmpLoop_isSome {u1 u2 : List Char} {s1 s2 fuel : ℕ} (h1 : CStrAt mem s1 u1)
    (h2 : CStrAt mem s2 u2) (hfuel : min u1.length u2.length ≤ fuel) :
    (strcasecmpLoop mem fuel s1 s2).isSome := by
  induction u1 generalizing s1 s2 u2 fuel with
  | nil => rw [strcasecmpLoop_stop (fun hgo => hgo.1 h1.nil)]; rfl
  | cons c u1 ih =>
    cases u2 with
    | nil => rw [strcasecmpLoop_stop (fun hgo => hgo.2 h2.nil)]; rfl
    | cons d u2 =>
      obtain ⟨hc, hc0, h1'⟩ := h1.cons
      obtain ⟨hd, hd0, h2'⟩ := h2.cons
      simp only [List.length_cons] at hfuel
      obtain ⟨fuel, rfl⟩ : ∃ f, fuel = f + 1 := ⟨fuel - 1, by omega⟩
      rw [strcasecmpLoop_go_succ ⟨hc ▸ hc0, hd ▸ hd0⟩]
      split_ifs
      · rfl
      · exact ih h1' h2' (by omega)

/-- Past the shorter string's `NUL`, POSIX's answer no longer depends on the
count: it is that of `strcasecmp`. -/
theorem posixStrncasecmp_stable {u1 u2 : List Char} {s1 s2 n m : ℕ} (h1 : CStrAt mem s1 u1)
    (h2 : CStrAt mem s2 u2) (hn : min u1.length u2.length < n) (hm : min u1.length u2.length < m) :
    posixStrncasecmp mem s1 s2 n = posixStrncasecmp mem s1 s2 m := by
  obtain ⟨n, rfl⟩ : ∃ k, n = k + 1 := ⟨n - 1, by omega⟩
  obtain ⟨m, rfl⟩ : ∃ k, m = k + 1 := ⟨m - 1, by omega⟩
  induction u1 generalizing s1 s2 u2 n m with
  | nil =>
    have hstop : ¬(mem s1 ≠ '\x00' ∧ mem s2 ≠ '\x00') := fun hgo => hgo.1 h1.nil
    rw [posixStrncasecmp_of_stop hstop, posixStrncasecmp_of_stop hstop]
  | cons c u1 ih =>
    cases u2 with
    | nil =>
      have hstop : ¬(mem s1 ≠ '\x00' ∧ mem s2 ≠ '\x00') := fun hgo => hgo.2 h2.nil
      rw [posixStrncasecmp_of_stop hstop, posixStrncasecmp_of_stop hstop]
    | cons d u2 =>
      obtain ⟨hc, hc0, h1'⟩ := h1.cons
      obtain ⟨-, -, h2'⟩ := h2.cons
      simp only [List.length_cons] at hn hm
      obtain ⟨n, rfl⟩ : ∃ k, n = k + 1 := ⟨n - 1, by omega⟩
      obtain ⟨m, rfl⟩ : ∃ k, m = k + 1 := ⟨m - 1, by omega⟩
      rw [posixStrncasecmp_succ mem s1 s2 (n + 1), posixStrncasecmp_succ mem s1 s2 (m + 1)]
      by_cases hdiff : (mem s1).toLower.toNat ≠ (mem s2).toLower.toNat
      · rw [if_pos hdiff, if_pos hdiff]
      · rw [if_neg hdiff, if_neg hdiff, if_neg (hc ▸ hc0), if_neg (hc ▸ hc0)]
        exact ih h1' h2' n (by omega) m (by omega)

/-- `xsan_strcasecmp` on two C strings returns POSIX `strcasecmp`'s answer
(`posixStrncasecmp` with any count past the shorter string) once its loop has
as many turns as the shorter string has characters. -/
theorem xsanStrcasecmp_eq_posix {u1 u2 : List Char} {s1 s2 fuel n : ℕ} (hs1 : s1 ≠ 0) (hs2 : s2 ≠ 0)
    (h1 : CStrAt mem s1 u1) (h2 : CStrAt mem s2 u2) (hfuel : min u1.length u2.length ≤ fuel)
    (hn : min u1.length u2.length < n) :
    xsanStrcasecmp mem s1 s2 fuel = some (posixStrncasecmp mem s1 s2 n) := by
  rw [xsanStrcasecmp, if_neg (by tauto)]
  obtain ⟨r, hr⟩ := Option.isSome_iff_exists.mp (strcasecmpLoop_isSome h1 h2 hfuel)
  rw [hr, strcasecmpLoop_eq_posix hr, posixStrncasecmp_stable h1 h2 (by omega) hn]

end Compare

/-- A memory holding `"ab"` at address 1 and `"abc"` at address 4, after a
`NUL` at the null address. -/
def prefixMem (a : ℕ) : Char := ['\x00', 'a', 'b', '\x00', 'a', 'b', 'c', '\x00'].getD a '\x00'

theorem cStrAt_prefixMem : CStrAt prefixMem 1 ['a', 'b'] ∧ CStrAt prefixMem 4 ['a', 'b', 'c'] :=
  ⟨cStrAt_getD ['\x00'] ['a', 'b'] ['a', 'b', 'c', '\x00'] (by decide),
    cStrAt_getD ['\x00', 'a', 'b', '\x00'] ['a', 'b', 'c'] [] (by decide)⟩

/-- `"ab"` and `"abc"` compare equal over three characters, where POSIX finds
`"ab"` smaller at its `NUL`; and over no character two distinct strings
compare unequal, where POSIX finds them equal. -/
theorem strncasecmp_prefix_compares_equal :
    CStrAt prefixMem 1 ['a', 'b'] ∧ CStrAt prefixMem 4 ['a', 'b', 'c'] ∧
      xsanStrncasecmp prefixMem 1 4 3 = 0 ∧ (posixStrncasecmp prefixMem 1 4 3).sign = -1 ∧
      xsanStrncasecmp prefixMem 1 4 0 = 1 ∧ posixStrncasecmp prefixMem 1 4 0 = 0 := by
  obtain ⟨hab, habc⟩ := cStrAt_prefixMem
  -- after the common prefix `ab`, only the first string is at its `NUL`
  have hends : OneEndsFirst prefixMem 1 4 3 := by
    refine ⟨2, by omega, fun j hj => ?_, by decide⟩
    rcases j with _ | _ | j
    · decide
    · decide
    · omega
  have hcode : xsanStrncasecmp prefixMem 1 4 3 = 0 := by
    rw [xsanStrncasecmp, if_neg (by decide)]
    exact (strncasecmpLoop_of_oneEndsFirst hends).1
  exact ⟨hab, habc, hcode, by decide, rfl, rfl⟩

/-- On `"ab"` and `"abc"` the signs differ, and `"ab"` ends first. -/
theorem xsanStrncasecmp_sign_eq_posix_iff_prefix :
    (1 : ℕ) ≠ 0 ∧ (4 : ℕ) ≠ 0 ∧ (3 : ℕ) ≠ 0 ∧
      ((xsanStrncasecmp prefixMem 1 4 3).sign = (posixStrncasecmp prefixMem 1 4 3).sign ↔
        ¬OneEndsFirst prefixMem 1 4 3) :=
  ⟨by decide, by decide, by decide, xsanStrncasecmp_sign_eq_posix_iff (by decide) (by decide) (by decide)⟩

/-- `xsan_strcasecmp` of `"ab"` and `"abc"`, with two turns of its loop,
answers as POSIX does. -/
theorem xsanStrcasecmp_eq_posix_prefix :
    (1 : ℕ) ≠ 0 ∧ (4 : ℕ) ≠ 0 ∧ CStrAt prefixMem 1 ['a', 'b'] ∧ CStrAt prefixMem 4 ['a', 'b', 'c'] ∧
      min ['a', 'b'].length ['a', 'b', 'c'].length ≤ 2 ∧ min ['a', 'b'].length ['a', 'b', 'c'].length < 3 ∧
      xsanStrcasecmp prefixMem 1 4 2 = some (posixStrncasecmp prefixMem 1 4 3) := by
  obtain ⟨hab, habc⟩ := cStrAt_prefixMem
  exact ⟨by decide, by decide, hab, habc, by decide, by decide,
    xsanStrcasecmp_eq_posix (by decide) (by decide) hab habc (by decide) (by decide)⟩

end Xsan
