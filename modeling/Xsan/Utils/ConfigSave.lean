import Xsan.Utils.ConfigLoad
import Xsan.Lib.Search

/-!
# Saving a configuration, and loading it back

`xsan_config_save_to_file` (config.c:294-337) writes two comment lines, the
second holding what `ctime` returns, a blank line, and then one line
`key = value` per item in list order: a string with `%s`, an `int` with
`%d`, a `long` with `%ld`, a `double` with `%f` and a `bool` as `true` or
`false`. The model gives the contents of the file, `none` when `fopen` fails;
`%f` is a parameter, and `%s` of a `NULL` string prints as glibc prints it.

`xsan_config_load_from_file` (`Xsan.Utils.ConfigLoad`) reads those contents
back with `fgets`, so the round trip closes when every written line fits the
1024-byte buffer, the parser gives each item line its key and value text back,
and the type cascade guesses each value's type. That holds for keys that fit
the key buffer, with no `=`, newline or `NUL`, no white space at either end,
not starting with `#`; and for `int`s, `bool`s, `long`s outside the `int`
range, and strings that fit the value buffer, with no newline, `NUL` or white
space at either end, which none of the four converters accepts (`SavableKey`,
`SavableValue`). The `bool`s need one fact of the C library: `strtod` reads no
number from `true` or `false`.

Results:
* `strtol_formatDecimal`: `strtol` reads back every `long` that `%ld` writes.
* `fgetsLines_flatten`: `fgets` reads back lines that end in a newline and
  fit its buffer.
* `xsanParseConfigLine_itemLine`, `lineValue_formatValue`: the parser and the
  type cascade give a savable item back.
* `config_save_load_round_trip`: loading the saved file gives the same keys,
  the same `item_count`, and the same answer to every getter.
-/

namespace Xsan

/-! ## `printf` of an integer -/

/-- The character of a decimal digit. -/
def digitChar (d : ℕ) : Char := Char.ofNat ('0'.toNat + d)

/-- The decimal digits of `n`, most significant first. -/
def decDigits (n : ℕ) : List Char :=
  if n < 10 then [digitChar n] else decDigits (n / 10) ++ [digitChar (n % 10)]
termination_by n
decreasing_by omega

/-- `%d` and `%ld`. -/
def formatDecimal (i : ℤ) : List Char :=
  if i < 0 then '-' :: decDigits i.natAbs else decDigits i.natAbs

theorem digitChar_all : ∀ d < 10, (digitChar d).isDigit = true ∧
    (digitChar d).toNat - '0'.toNat = d := by
  decide

theorem decDigits_isDigit (n : ℕ) : ∀ c ∈ decDigits n, c.isDigit = true := by
  induction n using Nat.strong_induction_on with
  | _ n ih =>
    rw [decDigits]
    split_ifs with hn
    · intro c hc
      rw [List.mem_singleton.mp hc]
      exact (digitChar_all n hn).1
    · intro c hc
      rcases List.mem_append.mp hc with hc | hc
      · exact ih (n / 10) (by omega) c hc
      · rw [List.mem_singleton.mp hc]
        exact (digitChar_all (n % 10) (by omega)).1

theorem decDigits_ne_nil (n : ℕ) : decDigits n ≠ [] := by
  rw [decDigits]
  split_ifs <;> simp

/-- `strtol`'s digit loop reads the number back. -/
theorem decimalValue_decDigits (n : ℕ) : decimalValue (decDigits n) = n := by
  induction n using Nat.strong_induction_on with
  | _ n ih =>
    rw [decDigits]
    split_ifs with hn
    · have hd := (digitChar_all n hn).2
      simp only [decimalValue, List.foldl_cons, List.foldl_nil]
      omega
    · have hlast := (digitChar_all (n % 10) (by omega)).2
      have hfold : decimalValue (decDigits (n / 10) ++ [digitChar (n % 10)]) =
          10 * decimalValue (decDigits (n / 10)) + ((digitChar (n % 10)).toNat - '0'.toNat) := by
        simp [decimalValue, List.foldl_append]
      rw [hfold, ih (n / 10) (by omega), hlast]
      omega

theorem decDigits_length_le {n k : ℕ} (h : n < 10 ^ k) (hk : 0 < k) : (decDigits n).length ≤ k := by
  induction k generalizing n with
  | zero => omega
  | succ k ih =>
    rw [decDigits]
    split_ifs with hn
    · simp
    · have hk' : 0 < k := by
        rcases Nat.eq_zero_or_pos k with rfl | hk'
        · simp at h; omega
        · exact hk'
      have := ih (n := n / 10) (by rw [Nat.pow_succ] at h; omega) hk'
      simp only [List.length_append, List.length_singleton]
      omega

theorem isCSpace_of_isDigit {c : Char} (h : c.isDigit = true) : isCSpace c = false := by
  simp only [isCSpace, Bool.or_eq_false_iff, beq_eq_false_iff_ne, ne_eq]
  refine ⟨⟨⟨⟨⟨?_, ?_⟩, ?_⟩, ?_⟩, ?_⟩, ?_⟩ <;> rintro rfl <;> revert h <;> decide

/-- `strtol` reads back every `long` that `%ld` writes, consuming all of it. -/
theorem strtol_formatDecimal {i : ℤ} (hlo : longMin ≤ i) (hhi : i ≤ longMax) :
    strtol (formatDecimal i) = (i, (formatDecimal i).length, false) := by
  obtain ⟨d, ds, hdd⟩ := List.exists_cons_of_ne_nil (decDigits_ne_nil i.natAbs)
  have hdig := decDigits_isDigit i.natAbs
  rw [hdd] at hdig
  have hval := decimalValue_decDigits i.natAbs
  rw [hdd] at hval
  have hd : d.isDigit = true := hdig d List.mem_cons_self
  have htake : (d :: ds).takeWhile Char.isDigit = d :: ds := List.takeWhile_eq_self_iff.mpr hdig
  have hdrop : (d :: ds).dropWhile Char.isDigit = [] := List.dropWhile_eq_nil_iff.mpr hdig
  have hminus : d ≠ '-' := by rintro rfl; revert hd; decide
  have hplus : d ≠ '+' := by rintro rfl; revert hd; decide
  unfold strtol formatDecimal
  by_cases hneg : i < 0
  · rw [if_pos hneg, hdd, List.dropWhile_cons_of_neg (by decide)]
    simp only [htake, hdrop, hval, if_true, List.length_nil, Nat.sub_zero, List.cons_ne_nil,
      if_false]
    have hi : -(i.natAbs : ℤ) = i := by omega
    rw [hi, if_neg (by omega), if_neg (by omega)]
  · rw [if_neg hneg, hdd, List.dropWhile_cons_of_neg (by simp [isCSpace_of_isDigit hd])]
    dsimp only
    -- the first character is a digit, not a sign
    split
    · rename_i heq
      exact absurd (List.head_eq_of_cons_eq heq) hminus
    · rename_i heq
      exact absurd (List.head_eq_of_cons_eq heq) hplus
    · simp only [htake, hdrop, hval, List.cons_ne_nil, if_false, Bool.false_eq_true,
        List.length_nil, Nat.sub_zero]
      have hi : (i.natAbs : ℤ) = i := by omega
      rw [hi, if_neg (by omega), if_neg (by omega)]

theorem formatDecimal_ne_nil (i : ℤ) : formatDecimal i ≠ [] := by
  rw [formatDecimal]
  split_ifs
  · exact List.cons_ne_nil _ _
  · exact decDigits_ne_nil _

theorem formatDecimal_chars (i : ℤ) : ∀ c ∈ formatDecimal i, c = '-' ∨ c.isDigit = true := by
  intro c hc
  rw [formatDecimal] at hc
  split_ifs at hc
  · rcases List.mem_cons.mp hc with rfl | hc
    · exact .inl rfl
    · exact .inr (decDigits_isDigit _ c hc)
  · exact .inr (decDigits_isDigit _ c hc)

theorem formatDecimal_length_le {i : ℤ} (hlo : longMin ≤ i) (hhi : i ≤ longMax) :
    (formatDecimal i).length ≤ 20 := by
  have hdig : (decDigits i.natAbs).length ≤ 19 :=
    decDigits_length_le (by simp only [longMin, longMax] at hlo hhi; omega) (by omega)
  rw [formatDecimal]
  split_ifs
  · rw [List.length_cons]
    omega
  · omega

theorem convertedWhole_formatDecimal (i : ℤ) :
    convertedWhole (formatDecimal i) (formatDecimal i).length false = true := by
  simp [convertedWhole, formatDecimal_ne_nil]

/-- `xsan_str_to_int` reads back every `int` that `%d` writes. -/
theorem xsanStrToInt_formatDecimal {i : ℤ} (hlo : intMin ≤ i) (hhi : i ≤ intMax) :
    xsanStrToInt (formatDecimal i) = some i := by
  have hl : longMin ≤ i ∧ i ≤ longMax := by simp only [longMin, longMax, intMin, intMax] at *; omega
  rw [xsanStrToInt, strtol_formatDecimal hl.1 hl.2, convertedWhole_formatDecimal, Bool.not_true,
    if_neg Bool.false_ne_true, if_neg (by omega)]

/-- A `long` outside the `int` range is not an `int` to `xsan_str_to_int`. -/
theorem xsanStrToInt_formatDecimal_of_out {i : ℤ} (hlo : longMin ≤ i) (hhi : i ≤ longMax)
    (hout : i < intMin ∨ intMax < i) : xsanStrToInt (formatDecimal i) = none := by
  rw [xsanStrToInt, strtol_formatDecimal hlo hhi, convertedWhole_formatDecimal, Bool.not_true,
    if_neg Bool.false_ne_true, if_pos (by omega)]

/-- `xsan_str_to_long` reads back every `long` that `%ld` writes. -/
theorem xsanStrToLong_formatDecimal {i : ℤ} (hlo : longMin ≤ i) (hhi : i ≤ longMax) :
    xsanStrToLong (formatDecimal i) = some i := by
  rw [xsanStrToLong, strtol_formatDecimal hlo hhi, convertedWhole_formatDecimal, Bool.not_true,
    if_neg Bool.false_ne_true]

/-! ## The file -/

variable {D : Type}

/-- What `fprintf` writes for an item's value: `%s`, `%d`, `%ld`, `%f`
(`printDouble`), or `true` or `false`. -/
def formatValue (printDouble : D → List Char) : ConfigValue D → List Char
  | .string s => s.getD "(null)".toList
  | .int i => formatDecimal i
  | .long l => formatDecimal l
  | .double d => printDouble d
  | .bool b => if b then "true".toList else "false".toList

/-- The line written for an item, `"%s = ...\n"`. -/
def configItemLine (printDouble : D → List Char) (item : List Char × ConfigValue D) : List Char :=
  item.1 ++ " = ".toList ++ formatValue printDouble item.2 ++ ['\n']

/-- The three `fprintf`s before the items; `ctimeStr` is what `ctime`
returned. -/
def configHeader (ctimeStr : List Char) : List Char :=
  "# XSAN Configuration File\n".toList ++ ("# Generated at ".toList ++ ctimeStr ++ ['\n']) ++ ['\n']

/-- `xsan_config_save_to_file` (config.c:294-337): the contents of the file,
`none` when `fopen` fails and the call returns `false`. -/
def xsanConfigSaveToFile (printDouble : D → List Char) (config : XsanConfig D) (ctimeStr : List Char)
    (fopenOk : Bool) : Option (List Char) :=
  if !fopenOk then none
  else some (configHeader ctimeStr ++ (config.items.map (configItemLine printDouble)).flatten)

/-! ## What the file carries back -/

/-- A text that stands in a line as it is: no newline or `NUL`, and no white
space at either end. -/
structure LineText (s : List Char) : Prop where
  newline_not_mem : '\n' ∉ s
  nul_not_mem : '\x00' ∉ s
  head_not_space : ∀ c ∈ s.head?, isCSpace c = false
  last_not_space : ∀ c ∈ s.getLast?, isCSpace c = false

/-- A key the saved file carries back: it fits the loaders' key buffer, has
no `=`, and does not start with `#`. -/
structure SavableKey (key : List Char) : Prop where
  text : LineText key
  length_lt : key.length < configKeySize
  eq_not_mem : '=' ∉ key
  head_not_hash : key.head? ≠ some '#'

section Savable

variable (strtod : List Char → D × ℕ × Bool)

/-- A string value the saved file carries back as a string: it fits the
loaders' value buffer and no converter of the type cascade accepts it. -/
structure SavableString (s : List Char) : Prop where
  text : LineText s
  length_lt : s.length < configValueSize
  not_int : xsanStrToInt s = none
  not_long : xsanStrToLong s = none
  not_double : xsanStrToDouble strtod s = none
  not_bool : xsanStrToBool true s = none

/-- The values the saved file carries back with their type: `int`s, `long`s
outside the `int` range, `bool`s and savable strings. -/
def SavableValue : ConfigValue D → Prop
  | .string (some s) => SavableString strtod s
  | .int i => intMin ≤ i ∧ i ≤ intMax
  | .long l => longMin ≤ l ∧ l ≤ longMax ∧ (l < intMin ∨ intMax < l)
  | .bool _ => True
  | _ => False

end Savable

theorem LineText.of_chars {s : List Char} (h : ∀ c ∈ s, isCSpace c = false ∧ c ≠ '\x00') :
    LineText s where
  newline_not_mem hn := absurd (h _ hn).1 (by decide)
  nul_not_mem hn := (h _ hn).2 rfl
  head_not_space c hc := (h c (List.mem_of_mem_head? hc)).1
  last_not_space c hc := (h c (List.mem_of_mem_getLast? hc)).1

/-- The same test as one pass over the characters, which evaluates. -/
theorem LineText.of_all {s : List Char} (h : s.all (fun c => !isCSpace c && c != '\x00') = true) :
    LineText s :=
  LineText.of_chars fun c hc => by
    have := List.all_eq_true.mp h c hc
    simpa using this

theorem lineText_formatDecimal (i : ℤ) : LineText (formatDecimal i) := by
  refine LineText.of_chars fun c hc => ?_
  rcases formatDecimal_chars i c hc with rfl | hd
  · exact ⟨by decide, by decide⟩
  · exact ⟨isCSpace_of_isDigit hd, by rintro rfl; revert hd; decide⟩

/-- The text of a savable value stands in its line and fits the value buffer. -/
theorem lineText_formatValue (strtod : List Char → D × ℕ × Bool) (printDouble : D → List Char)
    {v : ConfigValue D} (hv : SavableValue strtod v) :
    LineText (formatValue printDouble v) ∧ (formatValue printDouble v).length < configValueSize := by
  match v, hv with
  | .string (some s), hv => exact ⟨hv.text, hv.length_lt⟩
  | .int i, ⟨hlo, hhi⟩ =>
    have hlen := formatDecimal_length_le (i := i)
      (by simp only [longMin, intMin] at hlo ⊢; omega) (by simp only [longMax, intMax] at hhi ⊢; omega)
    exact ⟨lineText_formatDecimal i, by simp only [formatValue, configValueSize]; omega⟩
  | .long l, hv =>
    have hlen := formatDecimal_length_le hv.1 hv.2.1
    exact ⟨lineText_formatDecimal l, by simp only [formatValue, configValueSize]; omega⟩
  | .bool false, _ =>
    have h : formatValue printDouble (.bool false) = "false".toList := rfl
    exact h ▸ ⟨LineText.of_all (by decide), by decide⟩
  | .bool true, _ =>
    have h : formatValue printDouble (.bool true) = "true".toList := rfl
    exact h ▸ ⟨LineText.of_all (by decide), by decide⟩

theorem xsanStrToDouble_of_consumed_zero {strtod : List Char → D × ℕ × Bool} {s : List Char}
    (h : (strtod s).2.1 = 0) : xsanStrToDouble strtod s = none := by
  simp [xsanStrToDouble, convertedWhole, h]

/-- The type cascade gives a savable value back from the text written for it;
for a `bool` this rests on `strtod` reading no number from `true` or
`false`. -/
theorem lineValue_formatValue (strtod : List Char → D × ℕ × Bool) (printDouble : D → List Char)
    (hstrtod : (strtod "true".toList).2.1 = 0 ∧ (strtod "false".toList).2.1 = 0)
    {v : ConfigValue D} (hv : SavableValue strtod v) :
    lineValue strtod true (formatValue printDouble v) = v := by
  match v, hv with
  | .string (some s), hv =>
    simp [lineValue, formatValue, hv.not_int, hv.not_long, hv.not_double, hv.not_bool]
  | .int i, ⟨hlo, hhi⟩ => simp [lineValue, formatValue, xsanStrToInt_formatDecimal hlo hhi]
  | .long l, ⟨hlo, hhi, hout⟩ =>
    simp [lineValue, formatValue, xsanStrToInt_formatDecimal_of_out hlo hhi hout,
      xsanStrToLong_formatDecimal hlo hhi]
  | .bool true, _ =>
    have hint : xsanStrToInt "true".toList = none := by decide
    have hlong : xsanStrToLong "true".toList = none := by decide
    have hbool : xsanStrToBool true "true".toList = some true := by decide
    rw [show formatValue printDouble (.bool true) = "true".toList from rfl, lineValue, hint, hlong,
      xsanStrToDouble_of_consumed_zero hstrtod.1, hbool]
  | .bool false, _ =>
    have hint : xsanStrToInt "false".toList = none := by decide
    have hlong : xsanStrToLong "false".toList = none := by decide
    have hbool : xsanStrToBool true "false".toList = some false := by decide
    rw [show formatValue printDouble (.bool false) = "false".toList from rfl, lineValue, hint, hlong,
      xsanStrToDouble_of_consumed_zero hstrtod.2, hbool]

/-! ## Reading a line back -/

theorem dropWhile_of_head {p : Char → Bool} {l : List Char} (h : ∀ c ∈ l.head?, p c = false) :
    l.dropWhile p = l := by
  cases l with
  | nil => rfl
  | cons c r => exact List.dropWhile_cons_of_neg (by simp [h c rfl])

/-- Trailing white space after a text that does not end in one is what
`trimRight` removes. -/
theorem trimRight_append_spaces {s t : List Char} (hs : ∀ c ∈ s.getLast?, isCSpace c = false)
    (ht : ∀ c ∈ t, isCSpace c = true) : trimRight (s ++ t) = s := by
  have hrev : s.reverse.dropWhile isCSpace = s.reverse :=
    dropWhile_of_head (by rw [List.head?_reverse]; exact hs)
  rw [trimRight, List.reverse_append, List.dropWhile_append_of_pos (by simpa using ht), hrev,
    List.reverse_reverse]

/-- The value after `= `: the parser skips the blank and the newline. -/
theorem trimRight_value {s : List Char} (hs : LineText s) :
    trimRight ((' ' :: (s ++ ['\n'])).dropWhile isCSpace) = s := by
  rw [List.dropWhile_cons_of_pos (by decide)]
  cases s with
  | nil => rfl
  | cons c r =>
    rw [List.cons_append, List.dropWhile_cons_of_neg (by simp [hs.head_not_space c rfl]),
      ← List.cons_append, trimRight_append_spaces hs.last_not_space (List.forall_mem_singleton.mpr rfl)]

/-- The parser reads an item line back as its key and its value text. -/
theorem xsanParseConfigLine_itemLine {k s : List Char} (hk : SavableKey k) (hs : LineText s)
    (hlen : s.length < configValueSize) :
    xsanParseConfigLine (k ++ " = ".toList ++ s ++ ['\n']) configKeySize configValueSize =
      some (k, s) := by
  -- after the leading blanks: the key and the blank before `=`, or `=` for an empty key
  have hsplit : k ++ " = ".toList ++ s ++ ['\n'] = (k ++ [' ']) ++ '=' :: ' ' :: (s ++ ['\n']) := by
    simp
  obtain ⟨u, hline, hu, hkey, hhead⟩ : ∃ u, (k ++ " = ".toList ++ s ++ ['\n']).dropWhile isCSpace =
      u ++ '=' :: ' ' :: (s ++ ['\n']) ∧ '=' ∉ u ∧ trimRight u = k ∧ u.head? ≠ some '#' := by
    cases k with
    | nil => exact ⟨[], by rw [hsplit]; rfl, List.not_mem_nil, rfl, by simp⟩
    | cons c r =>
      refine ⟨c :: r ++ [' '], ?_, ?_, ?_, ?_⟩
      · rw [hsplit, List.append_assoc, dropWhile_of_head (by simpa using hk.text.head_not_space)]
      · simpa using hk.eq_not_mem
      · exact trimRight_append_spaces hk.text.last_not_space (List.forall_mem_singleton.mpr rfl)
      · simpa using hk.head_not_hash
  unfold xsanParseConfigLine
  rw [if_neg (by decide), hline]
  split
  · rename_i heq
    exact absurd heq (by simp)
  · rename_i rest heq
    -- a comment line: the key would start with `#`
    cases u with
    | nil => cases heq
    | cons c r => exact absurd (by rw [List.head?_cons, List.head_eq_of_cons_eq heq]) hhead
  · rw [List.span_eq_takeWhile_dropWhile, Search.takeWhile_ne_append_cons hu,
      Search.dropWhile_ne_append_cons hu]
    dsimp only
    rw [hkey, trimRight_value hs, if_neg (Nat.not_le.mpr hk.length_lt), if_neg (Nat.not_le.mpr hlen)]

/-! ## Reading the file back -/

/-- A line `fgets` reads whole: its only newline ends it, and it fits the
1024-byte buffer with the terminating `NUL`. -/
def FgetsLine (l : List Char) : Prop := ∃ b, l = b ++ ['\n'] ∧ '\n' ∉ b ∧ b.length < 1023

theorem fgetsChunk_line {l : List Char} (hl : FgetsLine l) (rest : List Char) :
    fgetsChunk (l ++ rest) = l := by
  obtain ⟨b, rfl, hb, hlen⟩ := hl
  rw [fgetsChunk, List.append_assoc, List.singleton_append, Search.idxOf_append_cons_of_not_mem hb,
    Nat.min_eq_right (by omega), List.take_append, List.take_of_length_le (by omega),
    Nat.add_sub_cancel_left]
  rfl

/-- `fgets` reads back, one per call, lines that it reads whole, given as many
calls as the file has characters. -/
theorem fgetsLines_flatten (ls : List (List Char)) (hls : ∀ l ∈ ls, FgetsLine l) (fuel : ℕ)
    (hfuel : ls.flatten.length ≤ fuel) : fgetsLines fuel ls.flatten = ls := by
  induction ls generalizing fuel with
  | nil => cases fuel <;> rfl
  | cons l ls ih =>
    have hl := hls l List.mem_cons_self
    obtain ⟨b, hb, -, -⟩ := hls l List.mem_cons_self
    -- the line is not empty, so it costs one unit of fuel and leaves enough for the rest
    have hpos : 0 < l.length := by rw [hb]; simp
    have hlen : l.length + ls.flatten.length ≤ fuel := by
      rwa [List.flatten_cons, List.length_append] at hfuel
    obtain ⟨c, r, hcr⟩ : ∃ c r, l ++ ls.flatten = c :: r := by
      rw [hb]
      cases b with
      | nil => exact ⟨'\n', ls.flatten, rfl⟩
      | cons c r => exact ⟨c, r ++ ['\n'] ++ ls.flatten, rfl⟩
    obtain ⟨fuel, rfl⟩ : ∃ f, fuel = f + 1 := ⟨fuel - 1, by omega⟩
    rw [List.flatten_cons, hcr, fgetsLines, ← hcr]
    swap
    · exact List.cons_ne_nil c r
    rw [fgetsChunk_line hl, List.drop_left,
      ih (fun l' hl' => hls l' (List.mem_cons_of_mem l hl')) fuel (by omega)]

/-- The lines of the header as `fgets` reads them, `ctime`'s text being `t`
and a newline. -/
def headerLines (t : List Char) : List (List Char) :=
  ["# XSAN Configuration File\n".toList, "# Generated at ".toList ++ t ++ ['\n'], ['\n'], ['\n']]

theorem configHeader_eq (t : List Char) : configHeader (t ++ ['\n']) = (headerLines t).flatten := by
  unfold configHeader headerLines
  simp only [List.flatten_cons, List.flatten_nil, List.append_assoc, List.append_nil]

theorem headerLines_fgets {t : List Char} (ht : '\n' ∉ t) (htlen : t.length ≤ 1007) :
    ∀ l ∈ headerLines t, FgetsLine l := by
  intro l hl
  simp only [headerLines, List.mem_cons, List.not_mem_nil, or_false] at hl
  rcases hl with rfl | rfl | rfl | rfl
  · exact ⟨"# XSAN Configuration File".toList, by simp, by simp, by simp⟩
  · refine ⟨"# Generated at ".toList ++ t, rfl, ?_, ?_⟩
    · rw [List.mem_append, not_or]
      exact ⟨by decide, ht⟩
    · rw [List.length_append]
      have : "# Generated at ".toList.length = 15 := by decide
      omega
  · exact ⟨[], rfl, List.not_mem_nil, by decide⟩
  · exact ⟨[], rfl, List.not_mem_nil, by decide⟩

theorem xsanParseConfigLine_comment (r : List Char) :
    xsanParseConfigLine ('#' :: r) configKeySize configValueSize = none := by
  rw [xsanParseConfigLine, if_neg (by decide), List.dropWhile_cons_of_neg (by decide)]
  rfl

/-- The parser accepts no line of the header, whatever `ctime` wrote. -/
theorem headerLines_rejected (t : List Char) :
    ∀ l ∈ headerLines t, xsanParseConfigLine (cString l) configKeySize configValueSize = none := by
  intro l hl
  simp only [headerLines, List.mem_cons, List.not_mem_nil, or_false] at hl
  rcases hl with rfl | rfl | rfl | rfl
  · decide
  · rw [show "# Generated at ".toList = '#' :: " Generated at ".toList from rfl, List.cons_append,
      List.cons_append, cString, List.takeWhile_cons_of_pos (by decide)]
    exact xsanParseConfigLine_comment _
  · decide
  · decide

section Items

variable (printDouble : D → List Char)

/-- An item whose line the loader reads back as its key and value text. -/
def ItemReadsBack (e : List Char × ConfigValue D) : Prop :=
  SavableKey e.1 ∧ LineText (formatValue printDouble e.2) ∧
    (formatValue printDouble e.2).length < configValueSize

theorem itemLine_fgets {e : List Char × ConfigValue D} (he : ItemReadsBack printDouble e) :
    FgetsLine (configItemLine printDouble e) := by
  obtain ⟨hk, hv, hlen⟩ := he
  refine ⟨e.1 ++ " = ".toList ++ formatValue printDouble e.2, rfl, ?_, ?_⟩
  · simp only [List.mem_append, not_or]
    exact ⟨⟨hk.text.newline_not_mem, by decide⟩, hv.newline_not_mem⟩
  · have hk' := hk.length_lt
    simp only [List.length_append, configKeySize, configValueSize] at hk' hlen ⊢
    have : " = ".toList.length = 3 := by decide
    omega

theorem cString_itemLine {e : List Char × ConfigValue D} (he : ItemReadsBack printDouble e) :
    cString (configItemLine printDouble e) = configItemLine printDouble e := by
  obtain ⟨hk, hv, -⟩ := he
  refine List.takeWhile_eq_self_iff.mpr fun c hc => ?_
  simp only [configItemLine, List.mem_append] at hc
  have hne : c ≠ '\x00' := by
    rcases hc with ((hc | hc) | hc) | hc
    · exact fun h => hk.text.nul_not_mem (h ▸ hc)
    · intro h
      subst h
      revert hc
      decide
    · exact fun h => hv.nul_not_mem (h ▸ hc)
    · rw [List.mem_singleton.mp hc]; decide
  simpa using hne

theorem lastLineValue_append_of_rejected {A : List (List Char)}
    (hA : ∀ l ∈ A, xsanParseConfigLine l configKeySize configValueSize = none) (B : List (List Char))
    (k : List Char) : lastLineValue k (A ++ B) = lastLineValue k B := by
  rw [lastLineValue, lastLineValue, List.filterMap_append, List.filterMap_eq_nil_iff.mpr hA,
    List.nil_append]

/-- The item lines of a store whose keys are distinct: the last line with a
key is its only one, and gives the text of the item's value. -/
theorem lastLineValue_itemLines {items : List (List Char × ConfigValue D)}
    (hd : AssocList.Distinct (· = ·) items) (hitems : ∀ e ∈ items, ItemReadsBack printDouble e)
    (k : List Char) :
    lastLineValue k (items.map (configItemLine printDouble)) =
      (AssocList.findVal (· = ·) k items).map (formatValue printDouble) := by
  induction items with
  | nil => rfl
  | cons e items ih =>
    obtain ⟨key, v⟩ := e
    rw [AssocList.distinct_cons] at hd
    obtain ⟨hk, hv, hlen⟩ := hitems (key, v) List.mem_cons_self
    rw [List.map_cons, lastLineValue_cons, ih hd.2 (fun e he => hitems e (List.mem_cons_of_mem _ he)),
      configItemLine, xsanParseConfigLine_itemLine hk hv hlen, AssocList.findVal_cons]
    dsimp only
    by_cases hkey : key = k
    · -- no later item has the key
      subst hkey
      rw [AssocList.findVal_eq_none_iff.mpr fun e he h => hd.1 e he h.symm, if_pos rfl, if_pos rfl]
      rfl
    · rw [if_neg hkey, if_neg hkey, Option.or_none]

end Items

/-! ## The store a load builds -/

section Load

variable (strtod : List Char → D × ℕ × Bool)

/-- The sets a load makes when every allocation succeeds: one per accepted
line, of the value the type cascade guesses. -/
def loadCalls (lines : List (List Char)) : List (ConfigCall D) :=
  lines.filterMap fun line => (xsanParseConfigLine line configKeySize configValueSize).map
    fun kv => .set kv.1 (lineValue strtod true kv.2) .ok

/-- A load with every allocation succeeding is a run of the sets it makes. -/
theorem loadLines_eq_configRun (i : ℕ) (config : XsanConfig D) (lines : List (List Char)) :
    loadLines strtod (fun _ => LoadAlloc.ok) i config lines =
      (configRun config (loadCalls strtod lines)).1 := by
  induction lines generalizing i config with
  | nil => rfl
  | cons line lines ih =>
    rw [loadLines, ih]
    cases hp : xsanParseConfigLine line configKeySize configValueSize with
    | none => simp only [loadCalls, List.filterMap_cons, hp, Option.map_none]
    | some kv =>
      obtain ⟨key, value⟩ := kv
      simp only [loadCalls, List.filterMap_cons, hp, Option.map_some, loadConfigValue_eq,
        LoadAlloc.ok_set, LoadAlloc.ok_lowerOk]
      rfl

/-- The cleared store a load starts from is the store of no call. -/
theorem xsanConfigClear_inv (config : XsanConfig D) : ConfigInv (xsanConfigClear config) [] :=
  ⟨List.Pairwise.nil, rfl, fun _ => rfl⟩

/-- A load with every allocation succeeding leaves a store with distinct
keys and `item_count` the number of items, whatever the file holds. -/
theorem xsanConfigLoadFromFile_inv (config' : XsanConfig D) (text : List Char) :
    ∃ hist, ConfigInv (xsanConfigLoadFromFile strtod config' (some text) fun _ => LoadAlloc.ok).1 hist :=
  ⟨_, by
    rw [xsanConfigLoadFromFile]
    dsimp only
    rw [loadLines_eq_configRun]
    exact (configRun_inv (xsanConfigClear_inv config') _).1⟩

end Load

/-- A key is in the store exactly when a lookup finds it. -/
theorem mem_keys_iff (config : XsanConfig D) (k : List Char) :
    k ∈ config.items.map Prod.fst ↔ findConfigItem config k ≠ none := by
  simp only [List.mem_map, findConfigItem, ne_eq, AssocList.findVal_eq_none_iff, not_forall, not_not,
    exists_prop]

/-- Two stores with distinct keys that answer every lookup alike hold the same
keys. -/
theorem keys_perm_of_findConfigItem {c₁ c₂ : XsanConfig D} (h₁ : AssocList.Distinct (· = ·) c₁.items)
    (h₂ : AssocList.Distinct (· = ·) c₂.items) (h : ∀ k, findConfigItem c₁ k = findConfigItem c₂ k) :
    (c₁.items.map Prod.fst).Perm (c₂.items.map Prod.fst) :=
  (List.perm_ext_iff_of_nodup (AssocList.distinct_iff_keys.mp h₁) (AssocList.distinct_iff_keys.mp h₂)).mpr
    fun k => by rw [mem_keys_iff, mem_keys_iff, h]

/-! ## Saving and loading back -/

section RoundTrip

variable (strtod : List Char → D × ℕ × Bool) (printDouble : D → List Char)

/-- The lines `fgets` reads from a saved file, as C strings: the header's,
then one per item. -/
theorem saved_lines_read_back {c : XsanConfig D} (hitems : ∀ e ∈ c.items, ItemReadsBack printDouble e)
    {t : List Char} (ht : '\n' ∉ t) (htlen : t.length ≤ 1007) :
    ∃ text, xsanConfigSaveToFile printDouble c (t ++ ['\n']) true = some text ∧
      (fgetsLines text.length text).map cString =
        (headerLines t).map cString ++ c.items.map (configItemLine printDouble) := by
  refine ⟨_, rfl, ?_⟩
  have hls : ∀ l ∈ headerLines t ++ c.items.map (configItemLine printDouble), FgetsLine l := by
    intro l hl
    rcases List.mem_append.mp hl with hl | hl
    · exact headerLines_fgets ht htlen l hl
    · obtain ⟨e, he, rfl⟩ := List.mem_map.mp hl
      exact itemLine_fgets printDouble (hitems e he)
  have htext : configHeader (t ++ ['\n']) ++ (c.items.map (configItemLine printDouble)).flatten =
      (headerLines t ++ c.items.map (configItemLine printDouble)).flatten := by
    rw [List.flatten_append, configHeader_eq]
  rw [htext, fgetsLines_flatten _ hls _ le_rfl, List.map_append, List.map_map]
  congr 1
  exact List.map_congr_left fun e he => cString_itemLine printDouble (hitems e he)

/-- After saving a store with distinct keys whose items the file carries
back, a load finds every key as the store does. -/
theorem findConfigItem_load_saved {c : XsanConfig D} (hd : AssocList.Distinct (· = ·) c.items)
    (hsav : ∀ e ∈ c.items, SavableKey e.1 ∧ SavableValue strtod e.2)
    (hstrtod : (strtod "true".toList).2.1 = 0 ∧ (strtod "false".toList).2.1 = 0)
    {t : List Char} (ht : '\n' ∉ t) (htlen : t.length ≤ 1007) (config' : XsanConfig D) (k : List Char) :
    findConfigItem (xsanConfigLoadFromFile strtod config'
      (xsanConfigSaveToFile printDouble c (t ++ ['\n']) true) fun _ => LoadAlloc.ok).1 k =
      findConfigItem c k := by
  have hitems : ∀ e ∈ c.items, ItemReadsBack printDouble e := fun e he =>
    ⟨(hsav e he).1, lineText_formatValue strtod printDouble (hsav e he).2⟩
  obtain ⟨text, htext, hlines⟩ := saved_lines_read_back printDouble hitems ht htlen
  have hheader : ∀ l ∈ (headerLines t).map cString,
      xsanParseConfigLine l configKeySize configValueSize = none := by
    intro l hl
    obtain ⟨l', hl', rfl⟩ := List.mem_map.mp hl
    exact headerLines_rejected t l' hl'
  -- every value the load stores is the one the store held
  have hfix := AssocList.findVal_map_of_forall (R := (· = ·)) (k := k)
    (f := fun v => lineValue strtod true (formatValue printDouble v))
    (fun e he => lineValue_formatValue strtod printDouble hstrtod (hsav e he).2)
  rw [htext, xsanConfigLoadFromFile]
  dsimp only
  rw [loadLines_find, hlines, lastLineValue_append_of_rejected hheader,
    lastLineValue_itemLines printDouble hd hitems]
  show _ = AssocList.findVal (· = ·) k c.items
  -- a key the store lacks falls back to the cleared store, which has none
  cases hf : AssocList.findVal (· = ·) k c.items with
  | none => rfl
  | some v =>
    rw [hf, Option.map_some] at hfix
    exact hfix

/-- Saving a configuration and loading the file back: for every store built
by calls from `xsan_config_create` whose keys and values the file format
carries (`SavableKey`, `SavableValue`), with `strtod` reading no number from
`true` or `false` and `ctime`'s text a line that fits `fgets`' buffer, the
load succeeds and gives a store with the same keys, the same `item_count`, and
the same answer to every typed getter for every key and default. -/
theorem config_save_load_round_trip
    (hstrtod : (strtod "true".toList).2.1 = 0 ∧ (strtod "false".toList).2.1 = 0)
    (ops : List (ConfigCall D))
    (hsavable : ∀ e ∈ (configRun xsanConfigCreate ops).1.items, SavableKey e.1 ∧ SavableValue strtod e.2)
    {t : List Char} (ht : '\n' ∉ t) (htlen : t.length ≤ 1007) (config' : XsanConfig D) :
    let c := (configRun xsanConfigCreate ops).1
    let loaded := xsanConfigLoadFromFile strtod config'
      (xsanConfigSaveToFile printDouble c (t ++ ['\n']) true) fun _ => LoadAlloc.ok
    loaded.2 = true ∧
      (loaded.1.items.map Prod.fst).Perm (c.items.map Prod.fst) ∧
      xsanConfigGetItemCount loaded.1 = xsanConfigGetItemCount c ∧
      ∀ k, (∀ d, xsanConfigGetString loaded.1 k d = xsanConfigGetString c k d) ∧
        (∀ d, xsanConfigGetInt loaded.1 k d = xsanConfigGetInt c k d) ∧
        (∀ d, xsanConfigGetLong loaded.1 k d = xsanConfigGetLong c k d) ∧
        (∀ d, xsanConfigGetDouble loaded.1 k d = xsanConfigGetDouble c k d) ∧
        (∀ d, xsanConfigGetBool loaded.1 k d = xsanConfigGetBool c k d) := by
  intro c loaded
  obtain ⟨hinv, -⟩ := configRun_inv (configCreate_inv (D := D)) ops
  obtain ⟨hist, hinv'⟩ := xsanConfigLoadFromFile_inv strtod config'
    (configHeader (t ++ ['\n']) ++ (c.items.map (configItemLine printDouble)).flatten)
  have hfind : ∀ k, findConfigItem loaded.1 k = findConfigItem c k :=
    findConfigItem_load_saved strtod printDouble hinv.distinct hsavable hstrtod ht htlen config'
  have hperm := keys_perm_of_findConfigItem hinv'.distinct hinv.distinct hfind
  refine ⟨rfl, hperm, ?_, fun k => ⟨?_, ?_, ?_, ?_, ?_⟩⟩
  · -- both counts are the number of keys
    have hlen := hperm.length_eq
    rw [List.length_map, List.length_map] at hlen
    exact hinv'.count_eq.trans (hlen.trans hinv.count_eq.symm)
  all_goals intro d; simp only [xsanConfigGetString, xsanConfigGetInt, xsanConfigGetLong,
    xsanConfigGetDouble, xsanConfigGetBool, configGet, hfind]

end RoundTrip

/-- A store of four items, one of each type the file carries: an `int`, a
`bool`, a `long` above the `int` range and a string. -/
def sampleConfigCalls : List (ConfigCall ℕ) :=
  [.set ['p', 'o', 'r', 't'] (.int 4420) .ok, .set ['d', 'e', 'b', 'u', 'g'] (.bool true) .ok,
    .set ['s', 'i', 'z', 'e'] (.long (2 ^ 40)) .ok,
    .set ['n', 'a', 'm', 'e'] (.string (some ['n', 'o', 'd', 'e', '-', 'a'])) .ok]

/-- A `strtod` that reads no number, as on every text of the sample. -/
def noNumber (_ : List Char) : ℕ × ℕ × Bool := (0, 0, false)

theorem config_save_load_round_trip_sample :
    ((noNumber "true".toList).2.1 = 0 ∧ (noNumber "false".toList).2.1 = 0) ∧
      (∀ e ∈ (configRun xsanConfigCreate sampleConfigCalls).1.items,
        SavableKey e.1 ∧ SavableValue noNumber e.2) ∧
      let c := (configRun xsanConfigCreate sampleConfigCalls).1
      let loaded := xsanConfigLoadFromFile noNumber xsanConfigCreate
        (xsanConfigSaveToFile (fun _ => []) c (['W', 'e', 'd'] ++ ['\n']) true) fun _ => LoadAlloc.ok
      loaded.2 = true ∧
        (loaded.1.items.map Prod.fst).Perm (c.items.map Prod.fst) ∧
        xsanConfigGetItemCount loaded.1 = xsanConfigGetItemCount c ∧
        ∀ k, (∀ d, xsanConfigGetString loaded.1 k d = xsanConfigGetString c k d) ∧
          (∀ d, xsanConfigGetInt loaded.1 k d = xsanConfigGetInt c k d) ∧
          (∀ d, xsanConfigGetLong loaded.1 k d = xsanConfigGetLong c k d) ∧
          (∀ d, xsanConfigGetDouble loaded.1 k d = xsanConfigGetDouble c k d) ∧
          (∀ d, xsanConfigGetBool loaded.1 k d = xsanConfigGetBool c k d) := by
  have hstrtod : (noNumber "true".toList).2.1 = 0 ∧ (noNumber "false".toList).2.1 = 0 := ⟨rfl, rfl⟩
  have hitems : (configRun xsanConfigCreate sampleConfigCalls).1.items =
      [(['n', 'a', 'm', 'e'], .string (some ['n', 'o', 'd', 'e', '-', 'a'])),
        (['s', 'i', 'z', 'e'], .long (2 ^ 40)), (['d', 'e', 'b', 'u', 'g'], .bool true),
        (['p', 'o', 'r', 't'], .int 4420)] := rfl
  have hsav : ∀ e ∈ (configRun xsanConfigCreate sampleConfigCalls).1.items,
      SavableKey e.1 ∧ SavableValue noNumber e.2 := by
    rw [hitems]
    simp only [List.forall_mem_cons, List.not_mem_nil, IsEmpty.forall_iff, implies_true, and_true]
    refine ⟨⟨⟨LineText.of_all (by decide), by decide, by decide, by decide⟩,
        ⟨LineText.of_all (by decide), by decide, by decide, by decide, by decide, by decide⟩⟩,
      ⟨⟨LineText.of_all (by decide), by decide, by decide, by decide⟩,
        ⟨by decide, by decide, .inr (by decide)⟩⟩,
      ⟨⟨LineText.of_all (by decide), by decide, by decide, by decide⟩, trivial⟩,
      ⟨⟨LineText.of_all (by decide), by decide, by decide, by decide⟩, ⟨by decide, by decide⟩⟩⟩
  exact ⟨hstrtod, hsav, config_save_load_round_trip noNumber (fun _ => []) hstrtod sampleConfigCalls
    hsav (t := ['W', 'e', 'd']) (by decide) (by decide) xsanConfigCreate⟩

end Xsan
