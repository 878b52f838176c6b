import Xsan.Lib.JsonC
import Xsan.Lib.HexText

/-!
# json-c's text form

`json_object_to_json_string_ext(obj, JSON_C_TO_STRING_PLAIN)` (json-c,
`json_object.c`) writes an object as `{"key":value,...}` and an array as
`[value,...]`, with no spaces; a string between double quotes, with the
escapes of `json_escape_str`; an integer in decimal; a boolean as `true` or
`false`. `parse` reads such a text back: a recursive-descent reader of the
values json-c writes, with a budget on the depth of nesting.

Results:
* `parseStringBody_escape`: an escaped string reads back up to its closing
  quote.
* `parseInt_printInt`: an integer in decimal reads back up to the next
  character that is not a digit.
* `parseValue_print`: a value reads back from its text followed by anything
  that does not begin with a digit.
* `parse_print`: `parse` reads back the text of every value.
* `textModel_laws`: json-c's API over JSON values with this text form meets
  `Api.Laws`.
-/

namespace JsonC

open JsonValue

/-! ## Strings -/

/-- `json_escape_str` on one character, without
`JSON_C_TO_STRING_NOSLASHESCAPE`: the named escapes, `\u00XX` for the other
control characters, and the character itself otherwise. -/
def escapeChar (c : Char) : List Char :=
  if c = '\x08' then ['\x5c', 'b']
  else if c = '\n' then ['\x5c', 'n']
  else if c = '\r' then ['\x5c', 'r']
  else if c = '\t' then ['\x5c', 't']
  else if c = '\x0c' then ['\x5c', 'f']
  else if c = '\x22' then ['\x5c', '\x22']
  else if c = '\x5c' then ['\x5c', '\x5c']
  else if c = '/' then ['\x5c', '/']
  else if c.toNat < 32 then
    ['\x5c', 'u', '0', '0', Hex.hexChar (c.toNat / 16), Hex.hexChar (c.toNat % 16)]
  else [c]

/-- A string between double quotes, escaped. -/
def printString (s : List Char) : List Char := '\x22' :: (s.flatMap escapeChar ++ ['\x22'])

/-- The character a one-letter escape stands for. -/
def unescapeLetter (e : Char) : Option Char :=
  if e = 'b' then some '\x08'
  else if e = 'n' then some '\n'
  else if e = 'r' then some '\r'
  else if e = 't' then some '\t'
  else if e = 'f' then some '\x0c'
  else if e = '\x22' ∨ e = '\x5c' ∨ e = '/' then some e
  else none

/-- `c` in front of the characters read. -/
def consRead (c : Char) : Option (List Char × List Char) → Option (List Char × List Char) :=
  Option.map fun r => (c :: r.1, r.2)

mutual
/-- The characters of a string after its opening quote, escapes read, and what
follows its closing quote. -/
def parseStringBody : List Char → Option (List Char × List Char)
  | [] => none
  | c :: s =>
    if c = '\x22' then some ([], s)
    else if c = '\x5c' then parseEscape s
    else consRead c (parseStringBody s)
/-- The rest of a string after a backslash. -/
def parseEscape : List Char → Option (List Char × List Char)
  | [] => none
  | e :: s =>
    if e = 'u' then
      match s with
      | a :: b :: c :: d :: s' =>
        (Hex.readHex 0 [a, b, c, d]).bind fun v => consRead (Char.ofNat v) (parseStringBody s')
      | _ => none
    else (unescapeLetter e).bind fun c => consRead c (parseStringBody s)
end

/-- The `\u00XX` escape of a control character reads back as that character. -/
theorem readHex_controlEscape {c : Char} (hc : c.toNat < 32) :
    Hex.readHex 0 ['0', '0', Hex.hexChar (c.toNat / 16), Hex.hexChar (c.toNat % 16)] = some c.toNat := by
  have h1 := Hex.hexValue_hexChar (show c.toNat / 16 < 16 by omega)
  have h2 := Hex.hexValue_hexChar (show c.toNat % 16 < 16 by omega)
  simp only [Hex.readHex, h1, h2, Option.bind_some, show Hex.hexValue '0' = some 0 by decide]
  congr 1
  omega

theorem parseStringBody_backslash (s : List Char) : parseStringBody ('\x5c' :: s) = parseEscape s := by
  rw [parseStringBody, if_neg (by decide), if_pos rfl]

theorem parseEscape_u (a b c d : Char) (s : List Char) :
    parseEscape ('u' :: a :: b :: c :: d :: s) =
      (Hex.readHex 0 [a, b, c, d]).bind fun v => consRead (Char.ofNat v) (parseStringBody s) := by
  rw [parseEscape, if_pos rfl]

/-- One escaped character reads back, whatever follows it. -/
theorem parseStringBody_escapeChar (c : Char) (rest : List Char) :
    parseStringBody (escapeChar c ++ rest) = consRead c (parseStringBody rest) := by
  unfold escapeChar
  -- one case per escape; the last two are the `\u00XX` form and a plain character
  split_ifs with h1 h2 h3 h4 h5 h6 h7 h8 h9
  · subst h1; rfl
  · subst h2; rfl
  · subst h3; rfl
  · subst h4; rfl
  · subst h5; rfl
  · subst h6; rfl
  · subst h7; rfl
  · subst h8; rfl
  · simp only [List.cons_append, List.nil_append]
    rw [parseStringBody_backslash, parseEscape_u, readHex_controlEscape h9, Option.bind_some, Char.ofNat_toNat]
  · rw [List.singleton_append, parseStringBody, if_neg h6, if_neg h7]

theorem parseStringBody_escape (s rest : List Char) :
    parseStringBody (s.flatMap escapeChar ++ '\x22' :: rest) = some (s, rest) := by
  induction s with
  | nil => rfl
  | cons c s ih =>
    rw [List.flatMap_cons, List.append_assoc, parseStringBody_escapeChar, ih]
    rfl

/-! ## Integers -/

/-- The digit character of `d < 10`. -/
def digitChar (d : ℕ) : Char := Char.ofNat (48 + d)

/-- The decimal digits of `n`, the most significant first; `0` is one digit. -/
def decDigits (n : ℕ) : List Char :=
  if n = 0 then ['0'] else (Nat.digits 10 n).reverse.map digitChar

/-- An integer in decimal (`"%" PRId64`). -/
def printInt (i : ℤ) : List Char := if i < 0 then '-' :: decDigits i.natAbs else decDigits i.natAbs

/-- Decimal digits read onto `acc`. -/
def readDec (acc : ℕ) (ds : List Char) : ℕ := ds.foldl (fun a c => 10 * a + (c.toNat - 48)) acc

/-- A natural number in decimal at the front of `s`, all its digits, and what
follows them. -/
def parseNat (s : List Char) : Option (ℕ × List Char) :=
  match s.takeWhile Char.isDigit with
  | [] => none
  | ds => some (readDec 0 ds, s.dropWhile Char.isDigit)

/-- An integer in decimal, with an optional `-`. -/
def parseInt : List Char → Option (ℤ × List Char)
  | '-' :: s => (parseNat s).map fun r => (-(r.1 : ℤ), r.2)
  | s => (parseNat s).map fun r => ((r.1 : ℤ), r.2)

theorem isDigit_digitChar {d : ℕ} (h : d < 10) : (digitChar d).isDigit = true := by
  interval_cases d <;> decide

theorem toNat_digitChar {d : ℕ} (h : d < 10) : (digitChar d).toNat - 48 = d := by
  interval_cases d <;> decide

theorem isDigit_of_mem_decDigits {n : ℕ} {c : Char} (h : c ∈ decDigits n) : c.isDigit = true := by
  unfold decDigits at h
  split_ifs at h
  · rw [List.mem_singleton.mp h]
    decide
  · obtain ⟨d, hd, rfl⟩ := List.mem_map.mp h
    exact isDigit_digitChar (Nat.digits_lt_base (by norm_num) (List.mem_reverse.mp hd))

theorem readDec_append (acc : ℕ) (xs ys : List Char) :
    readDec acc (xs ++ ys) = readDec (readDec acc xs) ys :=
  List.foldl_append

theorem readDec_singleton (acc : ℕ) (c : Char) : readDec acc [c] = 10 * acc + (c.toNat - 48) := rfl

/-- Digits written most significant first read back as the number they are
the base-10 digits of. Induction on the digits, least significant first. -/
theorem readDec_digits (acc : ℕ) (ds : List ℕ) (hds : ∀ d ∈ ds, d < 10) :
    readDec acc (ds.reverse.map digitChar) = acc * 10 ^ ds.length + Nat.ofDigits 10 ds := by
  induction ds generalizing acc with
  | nil => simp only [List.reverse_nil, List.map_nil, readDec, List.foldl_nil, List.length_nil, pow_zero,
      mul_one, Nat.ofDigits_nil, add_zero]
  | cons d ds ih =>
    rw [List.reverse_cons, List.map_append, readDec_append,
      ih acc fun d' hd' => hds d' (List.mem_cons_of_mem _ hd'), List.map_singleton, readDec_singleton,
      toNat_digitChar (hds d List.mem_cons_self), Nat.ofDigits_cons, List.length_cons, pow_succ]
    ring

theorem readDec_decDigits (n : ℕ) : readDec 0 (decDigits n) = n := by
  unfold decDigits
  split_ifs with hn
  · subst hn
    rfl
  · rw [readDec_digits 0 _ fun d hd => Nat.digits_lt_base (by norm_num) hd, zero_mul, zero_add,
      Nat.ofDigits_digits]

theorem decDigits_ne_nil (n : ℕ) : decDigits n ≠ [] := by
  unfold decDigits
  split_ifs with hn
  · exact List.cons_ne_nil _ _
  · simpa using Nat.digits_ne_nil_iff_ne_zero.mpr hn

/-- Text that does not go on with a digit: what may follow a number. -/
def NoDigitNext (rest : List Char) : Prop := ∀ c ∈ rest.head?, c.isDigit = false

theorem parseNat_decDigits (n : ℕ) {rest : List Char} (hrest : NoDigitNext rest) :
    parseNat (decDigits n ++ rest) = some (n, rest) := by
  have hall : ∀ c ∈ decDigits n, c.isDigit = true := fun _ hc => isDigit_of_mem_decDigits hc
  -- the digits stop where `rest` begins
  have htake : rest.takeWhile Char.isDigit = [] := by
    cases rest with
    | nil => rfl
    | cons c cs => simp [hrest c rfl]
  have hdrop : rest.dropWhile Char.isDigit = rest := by
    cases rest with
    | nil => rfl
    | cons c cs => simp [hrest c rfl]
  rw [parseNat, List.takeWhile_append_of_pos hall, htake, List.append_nil,
    List.dropWhile_append_of_pos hall, hdrop]
  split
  · exact absurd ‹_› (decDigits_ne_nil n)
  · rw [readDec_decDigits]

theorem parseInt_printInt (i : ℤ) {rest : List Char} (hrest : NoDigitNext rest) :
    parseInt (printInt i ++ rest) = some (i, rest) := by
  unfold printInt
  split_ifs with hi
  · rw [List.cons_append, parseInt, parseNat_decDigits _ hrest, Option.map_some]
    congr 2
    omega
  · -- a non-negative number begins with a digit, not with `-`
    have hhead : ∀ s, decDigits i.natAbs ++ rest ≠ '-' :: s := by
      intro s heq
      have hmem : '-' ∈ decDigits i.natAbs := by
        obtain ⟨d, ds, hds⟩ := List.exists_cons_of_ne_nil (decDigits_ne_nil i.natAbs)
        rw [hds, List.cons_append, List.cons.injEq] at heq
        rw [hds, heq.1]
        exact List.mem_cons_self
      exact absurd (isDigit_of_mem_decDigits hmem) (by decide)
    rw [parseInt.eq_2 _ hhead, parseNat_decDigits _ hrest, Option.map_some]
    congr 2
    omega

/-! ## Values -/

mutual
/-- `json_object_to_json_string_ext(obj, JSON_C_TO_STRING_PLAIN)`. -/
def print : JsonValue → List Char
  | .string s => printString s
  | .int i => printInt i
  | .boolean b => if b then ['t', 'r', 'u', 'e'] else ['f', 'a', 'l', 's', 'e']
  | .array items => '[' :: (printItems items ++ [']'])
  | .object members => '{' :: (printMembers members ++ ['}'])
/-- Array items separated by commas. -/
def printItems : List JsonValue → List Char
  | [] => []
  | [j] => print j
  | j :: js => print j ++ ',' :: printItems js
/-- Object members `"key":value` separated by commas. -/
def printMembers : List (String × JsonValue) → List Char
  | [] => []
  | [(k, j)] => printString k.toList ++ ':' :: print j
  | (k, j) :: ms => printString k.toList ++ ':' :: (print j ++ ',' :: printMembers ms)
end

/-- Array items after the `[`, read with `read`, at most `n` of them, and what
follows the `]`. -/
def parseItems (read : List Char → Option (JsonValue × List Char)) :
    ℕ → List Char → Option (List JsonValue × List Char)
  | 0, _ => none
  | n + 1, s =>
    (read s).bind fun r =>
      match r.2 with
      | ',' :: s' => (parseItems read n s').map fun r' => (r.1 :: r'.1, r'.2)
      | ']' :: s' => some ([r.1], s')
      | _ => none

/-- Object members after the `{`, with values read with `read`, at most `n` of
them, and what follows the `}`. -/
def parseMembers (read : List Char → Option (JsonValue × List Char)) :
    ℕ → List Char → Option (List (String × JsonValue) × List Char)
  | 0, _ => none
  | n + 1, s =>
    match s with
    | '\x22' :: s =>
      (parseStringBody s).bind fun k =>
        match k.2 with
        | ':' :: s =>
          (read s).bind fun r =>
            match r.2 with
            | ',' :: s' =>
              (parseMembers read n s').map fun r' => ((String.ofList k.1, r.1) :: r'.1, r'.2)
            | '}' :: s' => some ([(String.ofList k.1, r.1)], s')
            | _ => none
        | _ => none
    | _ => none

/-- The items of an array after its `[`: none if the `]` comes at once. -/
def parseArray (read : List Char → Option (JsonValue × List Char)) (s : List Char) :
    Option (List JsonValue × List Char) :=
  match s with
  | ']' :: s' => some ([], s')
  | _ => parseItems read s.length s

/-- The members of an object after its `{`: none if the `}` comes at once. -/
def parseObject (read : List Char → Option (JsonValue × List Char)) (s : List Char) :
    Option (List (String × JsonValue) × List Char) :=
  match s with
  | '}' :: s' => some ([], s')
  | _ => parseMembers read s.length s

/-- The rest `w` of a literal word, standing for `v`. -/
def parseWord (w : List Char) (v : JsonValue) (s : List Char) : Option (JsonValue × List Char) :=
  if w.isPrefixOf s then some (v, s.drop w.length) else none

/-- A value at the front of `s`, nested at most `depth` deep, and what follows
it. -/
def parseValue : ℕ → List Char → Option (JsonValue × List Char)
  | 0, _ => none
  | _ + 1, [] => none
  | depth + 1, c :: s =>
    if c = '\x22' then (parseStringBody s).map fun r => (.string r.1, r.2)
    else if c = '[' then (parseArray (parseValue depth) s).map fun r => (.array r.1, r.2)
    else if c = '{' then (parseObject (parseValue depth) s).map fun r => (.object r.1, r.2)
    else if c = 't' then parseWord ['r', 'u', 'e'] (.boolean true) s
    else if c = 'f' then parseWord ['a', 'l', 's', 'e'] (.boolean false) s
    else (parseInt (c :: s)).map fun r => (.int r.1, r.2)

/-- `json_tokener_parse`: the value a whole text stands for. -/
def parse (s : List Char) : Option JsonValue :=
  match parseValue s.length s with
  | some (j, []) => some j
  | _ => none

/-! ## Reading back what `print` writes -/

theorem noDigitNext_cons (c : Char) (h : c.isDigit = false) (s : List Char) : NoDigitNext (c :: s) := by
  intro c' hc'
  rw [List.head?_cons, Option.mem_some_iff] at hc'
  exact hc' ▸ h

theorem noDigitNext_nil : NoDigitNext [] := fun _ hc => nomatch hc

theorem printString_append (s rest : List Char) :
    printString s ++ rest = '\x22' :: (s.flatMap escapeChar ++ '\x22' :: rest) := by
  simp [printString]

theorem printInt_eq_cons (i : ℤ) : ∃ c cs, printInt i = c :: cs ∧ (c = '-' ∨ c.isDigit = true) := by
  unfold printInt
  split_ifs
  · exact ⟨'-', _, rfl, Or.inl rfl⟩
  · obtain ⟨c, cs, h⟩ := List.exists_cons_of_ne_nil (decDigits_ne_nil i.natAbs)
    exact ⟨c, cs, h, Or.inr (isDigit_of_mem_decDigits (h ▸ List.mem_cons_self))⟩

/-- Every text `print` writes has a first character, and it is not `]`. -/
theorem print_eq_cons (j : JsonValue) : ∃ c cs, print j = c :: cs ∧ c ≠ ']' := by
  cases j with
  | string s => exact ⟨_, _, rfl, by decide⟩
  | int i =>
    obtain ⟨c, cs, h, hc⟩ := printInt_eq_cons i
    refine ⟨c, cs, h, ?_⟩
    rintro rfl
    revert hc
    decide
  | boolean b => cases b <;> exact ⟨_, _, rfl, by decide⟩
  | array items => exact ⟨_, _, rfl, by decide⟩
  | object ms => exact ⟨_, _, rfl, by decide⟩

theorem printItems_cons (j : JsonValue) (js : List JsonValue) : ∃ t, printItems (j :: js) = print j ++ t := by
  cases js with
  | nil => exact ⟨[], (List.append_nil _).symm⟩
  | cons j' js => exact ⟨_, rfl⟩

theorem length_le_printItems : ∀ items : List JsonValue, items.length ≤ (printItems items).length
  | [] => le_rfl
  | [j] => by
    obtain ⟨c, cs, h, -⟩ := print_eq_cons j
    simp [printItems, h]
  | j :: j' :: js => by
    have := length_le_printItems (j' :: js)
    simp only [printItems, List.length_append, List.length_cons] at this ⊢
    omega

theorem length_print_le_printItems {j : JsonValue} : ∀ {items : List JsonValue}, j ∈ items →
    (print j).length ≤ (printItems items).length
  | [_], h => by
    rw [List.mem_singleton.mp h]
    exact le_of_eq rfl
  | j₁ :: j₂ :: js, h => by
    simp only [printItems, List.length_append, List.length_cons]
    rcases List.mem_cons.mp h with rfl | h
    · omega
    · have := length_print_le_printItems h
      omega

theorem length_le_printMembers : ∀ ms : List (String × JsonValue), ms.length ≤ (printMembers ms).length
  | [] => le_rfl
  | [(k, j)] => by simp [printMembers, printString]
  | (k, j) :: m :: ms => by
    have := length_le_printMembers (m :: ms)
    simp only [printMembers, printString, List.length_append, List.length_cons] at this ⊢
    omega

theorem length_print_le_printMembers {m : String × JsonValue} : ∀ {ms : List (String × JsonValue)}, m ∈ ms →
    (print m.2).length ≤ (printMembers ms).length
  | [(k, j)], h => by
    rw [List.mem_singleton.mp h]
    simp only [printMembers, List.length_append, List.length_cons]
    omega
  | (k, j) :: m' :: ms, h => by
    simp only [printMembers, List.length_append, List.length_cons]
    rcases List.mem_cons.mp h with rfl | h
    · dsimp only
      omega
    · have := length_print_le_printMembers h
      omega

section Children

/-! The lists inside an array or object read back, given that their values do:
`read` is the value reader one level down. -/

variable {read : List Char → Option (JsonValue × List Char)}

theorem parseItems_comma {s s' : List Char} {v : JsonValue} (n : ℕ) (h : read s = some (v, ',' :: s')) :
    parseItems read (n + 1) s = (parseItems read n s').map fun r => (v :: r.1, r.2) := by
  rw [parseItems, h, Option.bind_some]
  rfl

theorem parseItems_close {s s' : List Char} {v : JsonValue} (n : ℕ) (h : read s = some (v, ']' :: s')) :
    parseItems read (n + 1) s = some ([v], s') := by
  rw [parseItems, h, Option.bind_some]
  rfl

theorem parseMembers_comma {s s₁ s₂ k : List Char} {v : JsonValue} (n : ℕ)
    (hk : parseStringBody s = some (k, ':' :: s₁)) (hv : read s₁ = some (v, ',' :: s₂)) :
    parseMembers read (n + 1) ('\x22' :: s) =
      (parseMembers read n s₂).map fun r => ((String.ofList k, v) :: r.1, r.2) := by
  rw [parseMembers, hk, Option.bind_some]
  show (read s₁).bind _ = _
  rw [hv, Option.bind_some]
  rfl

theorem parseMembers_close {s s₁ s₂ k : List Char} {v : JsonValue} (n : ℕ)
    (hk : parseStringBody s = some (k, ':' :: s₁)) (hv : read s₁ = some (v, '}' :: s₂)) :
    parseMembers read (n + 1) ('\x22' :: s) = some ([(String.ofList k, v)], s₂) := by
  rw [parseMembers, hk, Option.bind_some]
  show (read s₁).bind _ = _
  rw [hv, Option.bind_some]
  rfl

theorem parseItems_printItems {items : List JsonValue} (hne : items ≠ [])
    (children : ∀ j ∈ items, ∀ rest, NoDigitNext rest → read (print j ++ rest) = some (j, rest))
    (n : ℕ) (hn : items.length ≤ n) (rest : List Char) :
    parseItems read n (printItems items ++ ']' :: rest) = some (items, rest) := by
  induction items generalizing n with
  | nil => exact absurd rfl hne
  | cons j js ih =>
    obtain ⟨n, rfl⟩ : ∃ m, n = m + 1 := ⟨n - 1, by simp at hn; omega⟩
    have hj := children j List.mem_cons_self
    cases js with
    | nil => exact parseItems_close n (hj _ (noDigitNext_cons ']' (by decide) rest))
    | cons j' js =>
      have htail := ih (List.cons_ne_nil _ _) (fun j hj => children j (List.mem_cons_of_mem _ hj)) n
        (by simp at hn ⊢; omega)
      simp only [printItems, List.append_assoc, List.cons_append]
      rw [parseItems_comma n (hj _ (noDigitNext_cons ',' (by decide) _)), htail, Option.map_some]

theorem parseMembers_printMembers {ms : List (String × JsonValue)} (hne : ms ≠ [])
    (children : ∀ m ∈ ms, ∀ rest, NoDigitNext rest → read (print m.2 ++ rest) = some (m.2, rest))
    (n : ℕ) (hn : ms.length ≤ n) (rest : List Char) :
    parseMembers read n (printMembers ms ++ '}' :: rest) = some (ms, rest) := by
  induction ms generalizing n with
  | nil => exact absurd rfl hne
  | cons m ms ih =>
    obtain ⟨k, j⟩ := m
    obtain ⟨n, rfl⟩ : ∃ m, n = m + 1 := ⟨n - 1, by simp at hn; omega⟩
    have hj := children (k, j) List.mem_cons_self
    -- the key reads back up to its closing quote, whatever follows
    have hk := fun rest => parseStringBody_escape k.toList (':' :: rest)
    cases ms with
    | nil =>
      simp only [printMembers, List.append_assoc, printString_append, List.cons_append]
      rw [parseMembers_close n (hk _) (hj _ (noDigitNext_cons '}' (by decide) rest)), String.ofList_toList]
    | cons m' ms =>
      have htail := ih (List.cons_ne_nil _ _) (fun m hm => children m (List.mem_cons_of_mem _ hm)) n
        (by simp at hn ⊢; omega)
      simp only [printMembers, List.append_assoc, printString_append, List.cons_append]
      rw [parseMembers_comma n (hk _) (hj _ (noDigitNext_cons ',' (by decide) _)), htail, Option.map_some,
        String.ofList_toList]

end Children

theorem parseArray_of_ne {read : List Char → Option (JsonValue × List Char)} {s : List Char}
    (h : ∀ s', s ≠ ']' :: s') : parseArray read s = parseItems read s.length s := by
  unfold parseArray
  split
  · exact absurd rfl (h _)
  · rfl

theorem parseObject_of_ne {read : List Char → Option (JsonValue × List Char)} {s : List Char}
    (h : ∀ s', s ≠ '}' :: s') : parseObject read s = parseMembers read s.length s := by
  unfold parseObject
  split
  · exact absurd rfl (h _)
  · rfl

/-- A value reads back from its text, whatever follows that does not begin
with a digit (which would run on from an integer), once the depth budget
covers the text. Induction on the budget: the values inside an array or an
object have shorter texts, so they read back one level down. -/
theorem parseValue_print (depth : ℕ) (j : JsonValue) (hd : (print j).length ≤ depth)
    (rest : List Char) (hrest : NoDigitNext rest) : parseValue depth (print j ++ rest) = some (j, rest) := by
  induction depth generalizing j rest with
  | zero =>
    obtain ⟨c, cs, h, -⟩ := print_eq_cons j
    simp [h] at hd
  | succ depth ih =>
    cases j with
    | string s =>
      rw [print, printString_append, parseValue, if_pos rfl, parseStringBody_escape, Option.map_some]
    | int i =>
      obtain ⟨c, cs, h, hc⟩ := printInt_eq_cons i
      -- an integer's first character is `-` or a digit, so none of the other branches is taken
      have hne : c ≠ '\x22' ∧ c ≠ '[' ∧ c ≠ '{' ∧ c ≠ 't' ∧ c ≠ 'f' := by
        rcases hc with rfl | hc
        · decide
        · refine ⟨?_, ?_, ?_, ?_, ?_⟩ <;> rintro rfl <;> exact absurd hc (by decide)
      rw [print, h, List.cons_append, parseValue, if_neg hne.1, if_neg hne.2.1, if_neg hne.2.2.1,
        if_neg hne.2.2.2.1, if_neg hne.2.2.2.2, ← List.cons_append, ← h, parseInt_printInt i hrest,
        Option.map_some]
    | boolean b => cases b <;> rfl
    | array items =>
      rcases items with _ | ⟨j₁, js⟩
      · rfl
      · have hlen : (printItems (j₁ :: js)).length + 2 ≤ depth + 1 := by
          simpa [print] using hd
        have children : ∀ j ∈ j₁ :: js, ∀ rest, NoDigitNext rest →
            parseValue depth (print j ++ rest) = some (j, rest) := fun j hj rest hrest =>
          ih j (by have := length_print_le_printItems hj; omega) rest hrest
        obtain ⟨t, ht⟩ := printItems_cons j₁ js
        obtain ⟨c, cs, hc, hcb⟩ := print_eq_cons j₁
        -- the items begin with the first value's text, not with `]`
        have hstart : ∀ s', printItems (j₁ :: js) ++ ']' :: rest ≠ ']' :: s' := by
          intro s' heq
          rw [ht, hc, List.cons_append, List.cons_append, List.cons.injEq] at heq
          exact hcb heq.1
        have hfuel : (j₁ :: js).length ≤ (printItems (j₁ :: js) ++ ']' :: rest).length := by
          have := length_le_printItems (j₁ :: js)
          simp only [List.length_append] at this ⊢
          omega
        rw [print, List.cons_append, List.append_assoc, List.singleton_append, parseValue,
          if_neg (by decide), if_pos rfl, parseArray_of_ne hstart,
          parseItems_printItems (List.cons_ne_nil _ _) children _ hfuel, Option.map_some]
    | object ms =>
      rcases ms with _ | ⟨m, ms⟩
      · rfl
      · have hlen : (printMembers (m :: ms)).length + 2 ≤ depth + 1 := by
          simpa [print] using hd
        have children : ∀ m' ∈ m :: ms, ∀ rest, NoDigitNext rest →
            parseValue depth (print m'.2 ++ rest) = some (m'.2, rest) := fun m' hm rest hrest =>
          ih m'.2 (by have := length_print_le_printMembers hm; omega) rest hrest
        obtain ⟨k, j⟩ := m
        -- the members begin with a key's opening quote, not with `}`
        have hstart : ∀ s', printMembers ((k, j) :: ms) ++ '}' :: rest ≠ '}' :: s' := by
          intro s' heq
          cases ms <;> simp [printMembers, printString] at heq
        have hfuel : ((k, j) :: ms).length ≤ (printMembers ((k, j) :: ms) ++ '}' :: rest).length := by
          have := length_le_printMembers ((k, j) :: ms)
          simp only [List.length_append] at this ⊢
          omega
        rw [print, List.cons_append, List.append_assoc, List.singleton_append, parseValue,
          if_neg (by decide), if_neg (by decide), if_pos rfl, parseObject_of_ne hstart,
          parseMembers_printMembers (List.cons_ne_nil _ _) children _ hfuel, Option.map_some]

theorem parse_print (j : JsonValue) : parse (print j) = some j := by
  have h := parseValue_print (print j).length j le_rfl [] noDigitNext_nil
  rw [List.append_nil] at h
  rw [parse, h]

/-- json-c's API over JSON values with json-c's plain text form. -/
def textModel : Api JsonValue := model print parse

theorem textModel_laws : textModel.Laws := model_laws fun j _ => parse_print j

end JsonC
