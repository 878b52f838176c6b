import Mathlib.Data.Int.ModEq
import Mathlib.Algebra.BigOperators.Group.List.Basic
import Mathlib.Tactic.LinearCombination
import Xsan.Lib.Search

/-!
# Escaping and replacing in `utils/string_utils.c`

`xsan_str_escape` (string_utils.c:652-718) makes two passes over its
argument: one counts the length of the result and sizes the buffer, the
other writes a backslash and a letter for each of six special characters.
`xsan_str_unescape` (string_utils.c:723-774) reads such pairs back in one
scan. `xsan_str_replace` (string_utils.c:341-391) counts the occurrences
`strstr` finds, allocates `str_len + count * (new_len - old_len) + 1` bytes in
`size_t` arithmetic and copies in a second loop around `strstr`.

A C string is the list of its characters before the terminating NUL, and
`strstr` is `Search.findInfix`. Whether the `xsan_malloc` of the result
succeeds is an input of each call; each function returns the size of the
buffer it allocates and what it writes there before the NUL. The lengths of
strings in memory stay below `PTRDIFF_MAX`, so the escaper's count, at most
twice the length, never wraps and is kept in `ℕ`; the replacement's size can
wrap and is computed modulo `2 ^ 64`.

Results:
* `escapedLen_eq`, `length_escape`: both passes of the escaper come to the
  length plus the number of special characters.
* `unescapeScan_escape`: the scan of the unescaper undoes the escaping.
* `replaceCopy_eq_replaceAll`, `replaceCount_eq_countAll`: the loops of
  `xsan_str_replace` compute the leftmost non-overlapping replacement and the
  number of occurrences it replaces.
* `replaceNewStrLen_countAll`: the allocated length is the length of the
  result modulo `2 ^ 64`, so it is exact only while the result is shorter.
* `xsanStrReplace_exact`: while the result and its `NUL` fit in `size_t`, the
  buffer is exactly as long as the replacement written into it.
-/

namespace Xsan

open Search

/-! ## Escaping -/

/-- Whether the counting pass of `xsan_str_escape` (string_utils.c:664-678)
counts two characters for `c`. -/
def isEscaped (c : Char) : Bool :=
  c == '\n' || c == '\r' || c == '\t' || c == '\\' || c == '"' || c == '\''

/-- `escaped_len` after the counting pass. -/
def escapedLen (s : List Char) : ℕ :=
  s.foldl (fun n c => if isEscaped c then n + 2 else n + 1) 0

/-- What the writing pass (string_utils.c:686-711) writes for `c`. -/
def escapeChar (c : Char) : List Char :=
  match c with
  | '\n' => ['\\', 'n']
  | '\r' => ['\\', 'r']
  | '\t' => ['\\', 't']
  | '\\' => ['\\', '\\']
  | '"' => ['\\', '"']
  | '\'' => ['\\', '\'']
  | c => [c]

/-- `xsan_str_escape` (string_utils.c:652-718): a buffer of
`escaped_len + 1` bytes and the writing pass's characters. -/
def xsanStrEscape (s : List Char) (mallocOk : Bool) : Option (ℕ × List Char) :=
  if !mallocOk then none else some (escapedLen s + 1, s.flatMap escapeChar)

/-- The character `xsan_str_unescape` writes for a backslash followed by `c`,
when it recognises the pair (string_utils.c:740-763). -/
def unescapeLetter (c : Char) : Option Char :=
  match c with
  | 'n' => some '\n'
  | 'r' => some '\r'
  | 't' => some '\t'
  | '\\' => some '\\'
  | '"' => some '"'
  | '\'' => some '\''
  | _ => none

/-- The scan of `xsan_str_unescape` (string_utils.c:737-768): a recognised
pair is consumed whole; any other backslash, also the last character, is
copied and the scan goes on at the next character. -/
def unescapeScan : List Char → List Char
  | [] => []
  | ['\\'] => ['\\']
  | '\\' :: c :: rest =>
    match unescapeLetter c with
    | some d => d :: unescapeScan rest
    | none => '\\' :: unescapeScan (c :: rest)
  | c :: rest => c :: unescapeScan rest
termination_by l => l.length

/-- `xsan_str_unescape` (string_utils.c:723-774): a buffer of `len + 1`
bytes and what the scan writes. -/
def xsanStrUnescape (s : List Char) (mallocOk : Bool) : Option (ℕ × List Char) :=
  if !mallocOk then none else some (s.length + 1, unescapeScan s)

theorem escapedLen_foldl (s : List Char) (n : ℕ) :
    s.foldl (fun n c => if isEscaped c then n + 2 else n + 1) n = n + s.length + s.countP isEscaped := by
  induction s generalizing n with
  | nil => rfl
  | cons c t ih =>
    rw [List.foldl_cons, ih, List.length_cons, List.countP_cons]
    cases isEscaped c <;> simp <;> omega

/-- The counting pass comes to the length plus the number of special
characters. -/
theorem escapedLen_eq (s : List Char) : escapedLen s = s.length + s.countP isEscaped := by
  rw [escapedLen, escapedLen_foldl, Nat.zero_add]

/-- The six characters the writing pass escapes are those the counting pass
counts twice, and for them it writes a backslash and a letter the
unescaper maps back. -/
theorem escapeChar_of_isEscaped {c : Char} (h : isEscaped c = true) :
    ∃ e, escapeChar c = ['\\', e] ∧ unescapeLetter e = some c := by
  simp only [isEscaped, Bool.or_eq_true, beq_iff_eq] at h
  rcases h with (((((rfl | rfl) | rfl) | rfl) | rfl) | rfl) <;> exact ⟨_, rfl, rfl⟩

theorem escapeChar_of_not_isEscaped {c : Char} (h : isEscaped c = false) : escapeChar c = [c] := by
  simp only [isEscaped, Bool.or_eq_false_iff, beq_eq_false_iff_ne] at h
  obtain ⟨⟨⟨⟨⟨h1, h2⟩, h3⟩, h4⟩, h5⟩, h6⟩ := h
  rw [escapeChar] <;> assumption

theorem length_escapeChar (c : Char) : (escapeChar c).length = if isEscaped c then 2 else 1 := by
  cases h : isEscaped c
  · rw [escapeChar_of_not_isEscaped h]; rfl
  · obtain ⟨e, he, -⟩ := escapeChar_of_isEscaped h
    rw [he]; rfl

/-- The writing pass writes as many characters as the counting pass
allocated for. -/
theorem length_escape (s : List Char) : (s.flatMap escapeChar).length = escapedLen s := by
  induction s with
  | nil => rfl
  | cons c t ih =>
    rw [List.flatMap_cons, List.length_append, ih, length_escapeChar, escapedLen_eq, escapedLen_eq,
      List.length_cons, List.countP_cons]
    cases isEscaped c <;> simp <;> omega

/-- A character the escaper leaves alone is not a backslash, and the scan
copies it. -/
theorem unescapeScan_cons_of_not_isEscaped {c : Char} (h : isEscaped c = false) (l : List Char) :
    unescapeScan (c :: l) = c :: unescapeScan l := by
  have hc : c ≠ '\\' := by
    rintro rfl
    exact absurd h (by decide)
  rw [unescapeScan]
  · exact fun h' _ => hc h'
  · exact fun _ _ h' _ => hc h'

theorem unescapeScan_escapeChar (c : Char) (l : List Char) :
    unescapeScan (escapeChar c ++ l) = c :: unescapeScan l := by
  cases h : isEscaped c
  · rw [escapeChar_of_not_isEscaped h, List.singleton_append, unescapeScan_cons_of_not_isEscaped h]
  · obtain ⟨e, he, hback⟩ := escapeChar_of_isEscaped h
    rw [he, List.cons_append, List.cons_append, List.nil_append, unescapeScan]
    simp only [hback]

/-- Unescaping the escaped string gives the string back: the backslash of an
escaped backslash is always read as the first of a pair. -/
theorem unescapeScan_escape (s : List Char) : unescapeScan (s.flatMap escapeChar) = s := by
  induction s with
  | nil => rw [List.flatMap_nil, unescapeScan]
  | cons c t ih => rw [List.flatMap_cons, unescapeScan_escapeChar, ih]

/-- Escaping and then unescaping, both allocations succeeding, gives the
string back. The escaped string has one more character for each of the six
special ones, and the buffer sized by the counting pass holds it and its NUL
exactly. -/
theorem str_unescape_escape_inverse (s : List Char) :
    ∃ e, xsanStrEscape s true = some (e.length + 1, e) ∧
      (xsanStrUnescape e true).map Prod.snd = some s ∧
      e.length = s.length + s.countP (· ∈ ['\n', '\r', '\t', '\\', '"', '\'']) := by
  refine ⟨s.flatMap escapeChar, ?_, ?_, ?_⟩
  · rw [xsanStrEscape, length_escape]
    rfl
  · rw [xsanStrUnescape, if_neg (by decide), Option.map_some, unescapeScan_escape]
  · rw [length_escape, escapedLen_eq]
    congr 1
    refine List.countP_congr fun c _ => ?_
    simp [isEscaped, or_assoc]

/-! ## Replacing -/

/-- The counting loop of `xsan_str_replace` (string_utils.c:355-361): how
often `strstr` finds `old` from `pos` on, each search resuming after the
occurrence found. -/
def replaceCount (old : List Char) (hold : old ≠ []) (pos : List Char) : ℕ :=
  match h : findInfix old pos with
  | none => 0
  | some i => replaceCount old hold (pos.drop (i + old.length)) + 1
termination_by pos.length
decreasing_by
  have := findInfix_add_length_le h
  have := List.length_pos_iff.mpr hold
  simp only [List.length_drop]
  omega

/-- The copying loop (string_utils.c:373-386) and the `strcpy` of the rest:
the characters written from `src` on. -/
def replaceCopy (old new : List Char) (hold : old ≠ []) (src : List Char) : List Char :=
  match h : findInfix old src with
  | none => src
  | some i => src.take i ++ new ++ replaceCopy old new hold (src.drop (i + old.length))
termination_by src.length
decreasing_by
  have := findInfix_add_length_le h
  have := List.length_pos_iff.mpr hold
  simp only [List.length_drop]
  omega

/-- `new_str_len` (string_utils.c:367): `str_len + count * (new_len - old_len)`
in `size_t`. -/
def replaceNewStrLen (strLen oldLen newLen count : ℕ) : ℕ :=
  (strLen + count * (((newLen : ℤ) - oldLen) % 2 ^ 64).toNat) % 2 ^ 64

/-- `xsan_str_replace` (string_utils.c:341-391). With `old` empty, or not
found, it returns `xsan_strdup(str)`, a buffer of `strlen(str) + 1` bytes;
otherwise a buffer of `new_str_len + 1` bytes and the copying loop's
characters. -/
def xsanStrReplace (str old new : List Char) (mallocOk : Bool) : Option (ℕ × List Char) :=
  if hold : old = [] then (if mallocOk then some (str.length + 1, str) else none)
  else
    let count := replaceCount old hold str
    if count = 0 then (if mallocOk then some (str.length + 1, str) else none)
    else if !mallocOk then none
    else
      some ((replaceNewStrLen str.length old.length new.length count + 1) % 2 ^ 64,
        replaceCopy old new hold str)

section Loops

variable {old new : List Char} (hold : old ≠ [])

theorem replaceCount_of_none {pos : List Char} (h : findInfix old pos = none) :
    replaceCount old hold pos = 0 := by
  rw [replaceCount]
  split <;> simp_all

theorem replaceCount_of_some {pos : List Char} {i : ℕ} (h : findInfix old pos = some i) :
    replaceCount old hold pos = replaceCount old hold (pos.drop (i + old.length)) + 1 := by
  rw [replaceCount]
  split <;> simp_all

theorem replaceCopy_of_none {src : List Char} (h : findInfix old src = none) :
    replaceCopy old new hold src = src := by
  rw [replaceCopy]
  split <;> simp_all

theorem replaceCopy_of_some {src : List Char} {i : ℕ} (h : findInfix old src = some i) :
    replaceCopy old new hold src =
      src.take i ++ new ++ replaceCopy old new hold (src.drop (i + old.length)) := by
  rw [replaceCopy]
  split <;> simp_all

/-- The counting loop counts the occurrences the reference replaces; the
induction follows the loop, one `strstr` a step. -/
theorem replaceCount_eq_countAll (pos : List Char) : replaceCount old hold pos = countAll old pos := by
  induction pos using replaceCount.induct old hold with
  | case1 pos h => rw [replaceCount_of_none hold h, countAll_of_findInfix_eq_none h]
  | case2 pos i h ih =>
    rw [replaceCount_of_some hold h, countAll_of_findInfix_eq_some hold h, ih]

/-- The copying loop computes the leftmost non-overlapping replacement: it
finds the same occurrences as the count, overlapping candidates included,
since both resume after the occurrence found. -/
theorem replaceCopy_eq_replaceAll (src : List Char) :
    replaceCopy old new hold src = replaceAll old new src := by
  induction src using replaceCopy.induct old hold with
  | case1 src h => rw [replaceCopy_of_none hold h, replaceAll_of_findInfix_eq_none h]
  | case2 src i h ih =>
    rw [replaceCopy_of_some hold h, replaceAll_of_findInfix_eq_some hold h, ih]

end Loops

/-- The allocated length is the length of the result modulo `2 ^ 64`: the
unsigned `new_len - old_len` wraps when `new` is shorter, and the sum wraps
when the result is `2 ^ 64` characters or longer. -/
theorem replaceNewStrLen_countAll (str old new : List Char) :
    replaceNewStrLen str.length old.length new.length (countAll old str) =
      (replaceAll old new str).length % 2 ^ 64 := by
  have hlen : (replaceAll old new str).length + countAll old str * old.length =
      str.length + countAll old str * new.length := length_replaceAll str
  set c := countAll old str
  -- the unsigned difference is the signed one modulo 2 ^ 64
  have hdiff : ((((new.length : ℤ) - old.length) % 2 ^ 64).toNat : ℤ) ≡
      (new.length : ℤ) - old.length [ZMOD 2 ^ 64] := by
    rw [Int.toNat_of_nonneg (Int.emod_nonneg _ (by norm_num))]
    exact Int.mod_modEq _ _
  have hexact : (str.length : ℤ) + c * ((new.length : ℤ) - old.length) =
      (replaceAll old new str).length := by
    have := congrArg (Nat.cast : ℕ → ℤ) hlen
    push_cast at this
    linear_combination -this
  have hmod : ((str.length + c * (((new.length : ℤ) - old.length) % 2 ^ 64).toNat : ℕ) : ℤ) ≡
      (replaceAll old new str).length [ZMOD ((2 ^ 64 : ℕ) : ℤ)] := by
    push_cast
    rw [← hexact]
    exact (hdiff.mul_left _).add_left _
  exact Int.natCast_modEq_iff.mp hmod

/-- Where `old` is empty or does not occur, the result is the copy
`xsan_strdup` makes. -/
theorem xsanStrReplace_of_countAll_eq_zero {str old new : List Char}
    (h : old = [] ∨ countAll old str = 0) :
    xsanStrReplace str old new true = some (str.length + 1, replaceAll old new str) := by
  unfold xsanStrReplace
  split
  · rename_i hold
    subst hold
    rw [if_pos rfl, replaceAll_nil_left]
  · rename_i hold
    have hzero := h.resolve_left hold
    dsimp only
    rw [replaceCount_eq_countAll hold, if_pos hzero, if_pos rfl,
      replaceAll_of_countAll_eq_zero hold hzero]

/-- Where `old` occurs, the buffer is `new_str_len + 1` bytes and holds the
reference replacement. -/
theorem xsanStrReplace_of_countAll_ne_zero {str old new : List Char} (hold : old ≠ [])
    (h : countAll old str ≠ 0) :
    xsanStrReplace str old new true =
      some (((replaceAll old new str).length % 2 ^ 64 + 1) % 2 ^ 64, replaceAll old new str) := by
  unfold xsanStrReplace
  rw [dif_neg hold]
  dsimp only
  rw [replaceCount_eq_countAll hold, if_neg h, if_neg (by decide), replaceCopy_eq_replaceAll hold,
    replaceNewStrLen_countAll]

/-- While the result and its NUL fit in `size_t`, the buffer is exactly as
long as what is written into it. -/
theorem xsanStrReplace_exact (str old new : List Char)
    (h : (replaceAll old new str).length + 1 < 2 ^ 64) :
    xsanStrReplace str old new true =
      some ((replaceAll old new str).length + 1, replaceAll old new str) := by
  by_cases hold : old = []
  · subst hold
    rw [xsanStrReplace_of_countAll_eq_zero (Or.inl rfl), replaceAll_nil_left]
  by_cases hz : countAll old str = 0
  · rw [xsanStrReplace_of_countAll_eq_zero (Or.inr hz), replaceAll_of_countAll_eq_zero hold hz]
  · rw [xsanStrReplace_of_countAll_ne_zero hold hz,
      Nat.mod_eq_of_lt (show (replaceAll old new str).length < 2 ^ 64 by omega), Nat.mod_eq_of_lt h]

/-- Replacing each `/` of `"a/b/c"` by `"::"`: a buffer of 8 bytes for the
7 characters and the `NUL`. -/
theorem xsanStrReplace_exact_path :
    (replaceAll ['/'] [':', ':'] ['a', '/', 'b', '/', 'c']).length + 1 < 2 ^ 64 ∧
      xsanStrReplace ['a', '/', 'b', '/', 'c'] ['/'] [':', ':'] true =
        some ((replaceAll ['/'] [':', ':'] ['a', '/', 'b', '/', 'c']).length + 1,
          replaceAll ['/'] [':', ':'] ['a', '/', 'b', '/', 'c']) := by
  have hr : replaceAll ['/'] [':', ':'] ['a', '/', 'b', '/', 'c'] = ['a', ':', ':', 'b', ':', ':', 'c'] := by
    simp [replaceAll_cons_of_startsWith, replaceAll_cons_of_not_startsWith, replaceAll_nil]
  have h : (replaceAll ['/'] [':', ':'] ['a', '/', 'b', '/', 'c']).length + 1 < 2 ^ 64 := by
    rw [hr]
    decide
  exact ⟨h, xsanStrReplace_exact _ _ _ h⟩

/-- Replacing each of `2 ^ 33` characters `a` by `2 ^ 31 + 1` characters:
the result is `2 ^ 64 + 2 ^ 33` characters long, but `new_str_len` wraps to
`2 ^ 33` and the copy runs `2 ^ 64` bytes past the buffer. -/
theorem str_replace_undersized_buffer :
    xsanStrReplace (List.replicate (2 ^ 33) 'a') ['a'] (List.replicate (2 ^ 31 + 1) 'b') true =
      some (2 ^ 33 + 1, (List.replicate (2 ^ 33) (List.replicate (2 ^ 31 + 1) 'b')).flatten) ∧
    (List.replicate (2 ^ 33) (List.replicate (2 ^ 31 + 1) 'b')).flatten.length =
      2 ^ 64 + 2 ^ 33 := by
  have hlen : (List.replicate (2 ^ 33) (List.replicate (2 ^ 31 + 1) 'b')).flatten.length =
      2 ^ 64 + 2 ^ 33 := by
    rw [List.length_flatten, List.map_replicate, List.length_replicate, List.sum_replicate,
      nsmul_eq_mul]
    rfl
  have hcount : countAll ['a'] (List.replicate (2 ^ 33) 'a') ≠ 0 := by
    rw [countAll_singleton_replicate]
    decide
  refine ⟨?_, hlen⟩
  rw [xsanStrReplace_of_countAll_ne_zero (List.cons_ne_nil _ _) hcount,
    replaceAll_singleton_replicate, hlen]
  -- (2 ^ 64 + 2 ^ 33) % 2 ^ 64 is 2 ^ 33
  rfl

end Xsan
