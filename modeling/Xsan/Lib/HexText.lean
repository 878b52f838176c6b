import Mathlib

/-!
# Hex text: fixed-width digits and UUIDs

Numbers written as hex digits of a fixed width, most significant first, and
read back; and UUIDs. A UUID is a 128-bit number, its first byte the most
significant. Its text,
as `uuid_unparse_lower` and `spdk_uuid_fmt_lower` write it, is its 32 hex
digits in lower case, in groups of 8, 4, 4, 4 and 12 joined by `-`. The
reading, as `uuid_parse` and `spdk_uuid_parse` do it, takes exactly such a
text, with digits of either case, and nothing after it.

Results:
* `readHex_hexDigits`: `w` hex digits read back as the number modulo `16 ^ w`.
* `parse_fmtLower`: the text of a UUID reads back as that UUID.
* `nul_not_mem_fmtLower`: the text holds no NUL, so it is a C string.
-/

namespace Hex

/-- The lower-case hex digit of `d < 16` (`"0123456789abcdef"[d]`). -/
def hexChar (d : ℕ) : Char := if d < 10 then Char.ofNat (48 + d) else Char.ofNat (87 + d)

/-- The value of a hex digit of either case; `none` for any other character. -/
def hexValue (c : Char) : Option ℕ :=
  if '0' ≤ c ∧ c ≤ '9' then some (c.toNat - 48)
  else if 'a' ≤ c ∧ c ≤ 'f' then some (c.toNat - 87)
  else if 'A' ≤ c ∧ c ≤ 'F' then some (c.toNat - 55)
  else none

theorem hexValue_hexChar {d : ℕ} (h : d < 16) : hexValue (hexChar d) = some d := by
  interval_cases d <;> decide

theorem hexChar_ne_nul {d : ℕ} (h : d < 16) : hexChar d ≠ '\x00' := by
  interval_cases d <;> decide

/-- The last `w` hex digits of `u`, the most significant first. -/
def hexDigits : ℕ → ℕ → List Char
  | 0, _ => []
  | w + 1, u => hexDigits w (u / 16) ++ [hexChar (u % 16)]

@[simp] theorem length_hexDigits (w u : ℕ) : (hexDigits w u).length = w := by
  induction w generalizing u with
  | zero => rfl
  | succ w ih => rw [hexDigits, List.length_append, ih, List.length_singleton]

theorem mem_hexDigits {w u : ℕ} {c : Char} (h : c ∈ hexDigits w u) : ∃ d < 16, c = hexChar d := by
  induction w generalizing u with
  | zero => cases h
  | succ w ih =>
    rcases List.mem_append.mp h with h | h
    · exact ih h
    · exact ⟨u % 16, Nat.mod_lt _ (by norm_num), List.mem_singleton.mp h⟩

/-- Hex digits read onto `acc`; `none` at a character that is not one. -/
def readHex (acc : ℕ) : List Char → Option ℕ
  | [] => some acc
  | c :: cs => (hexValue c).bind fun d => readHex (16 * acc + d) cs

theorem readHex_append (acc : ℕ) (xs ys : List Char) :
    readHex acc (xs ++ ys) = (readHex acc xs).bind fun v => readHex v ys := by
  induction xs generalizing acc with
  | nil => rfl
  | cons c cs ih =>
    rw [List.cons_append, readHex, readHex]
    cases hexValue c with
    | none => rfl
    | some d => exact ih _

/-- Reading `w` digits onto `acc` shifts it by `w` digits and adds their value.
Induction on `w`: the last digit is read last. -/
theorem readHex_hexDigits (acc w u : ℕ) :
    readHex acc (hexDigits w u) = some (acc * 16 ^ w + u % 16 ^ w) := by
  induction w generalizing u with
  | zero => simp [hexDigits, readHex, Nat.mod_one]
  | succ w ih =>
    rw [hexDigits, readHex_append, ih, Option.bind_some, readHex,
      hexValue_hexChar (Nat.mod_lt _ (by norm_num)), Option.bind_some, readHex,
      pow_succ', Nat.mod_mul]
    congr 1
    ring

/-- `w` hex digits from the front of `s`, and what follows them. -/
def readGroup (w : ℕ) (s : List Char) : Option (ℕ × List Char) :=
  if w ≤ s.length then (readHex 0 (s.take w)).map fun v => (v, s.drop w) else none

theorem readGroup_hexDigits (w u : ℕ) (rest : List Char) :
    readGroup w (hexDigits w u ++ rest) = some (u % 16 ^ w, rest) := by
  have hlen := length_hexDigits w u
  rw [readGroup, if_pos (by simp), List.take_left' hlen, List.drop_left' hlen, readHex_hexDigits,
    zero_mul, zero_add, Option.map_some]

end Hex

namespace Uuid

open Hex

/-- A `-` at the front of `s`: what follows it. -/
def dash : List Char → Option (List Char)
  | '-' :: s => some s
  | _ => none

/-- `spdk_uuid_fmt_lower`: the groups of 8, 4, 4, 4 and 12 digits. -/
def fmtLower (u : ℕ) : List Char :=
  hexDigits 8 (u / 16 ^ 24) ++ '-' :: (hexDigits 4 (u / 16 ^ 20) ++ '-' ::
    (hexDigits 4 (u / 16 ^ 16) ++ '-' :: (hexDigits 4 (u / 16 ^ 12) ++ '-' :: hexDigits 12 u)))

/-- `spdk_uuid_parse`: the UUID a text of five groups of hex digits stands
for; `none` when the text is not one. -/
def parse (s : List Char) : Option ℕ := do
  let (a, s) ← readGroup 8 s
  let s ← dash s
  let (b, s) ← readGroup 4 s
  let s ← dash s
  let (c, s) ← readGroup 4 s
  let s ← dash s
  let (d, s) ← readGroup 4 s
  let s ← dash s
  let (e, s) ← readGroup 12 s
  if s = [] then some ((((a * 16 ^ 4 + b) * 16 ^ 4 + c) * 16 ^ 4 + d) * 16 ^ 12 + e) else none

/-- The groups of a UUID's digits put back together give the UUID. -/
theorem groups_value {u : ℕ} (hu : u < 2 ^ 128) :
    (((u / 16 ^ 24 % 16 ^ 8 * 16 ^ 4 + u / 16 ^ 20 % 16 ^ 4) * 16 ^ 4 + u / 16 ^ 16 % 16 ^ 4) *
        16 ^ 4 + u / 16 ^ 12 % 16 ^ 4) * 16 ^ 12 + u % 16 ^ 12 = u := by
  norm_num at hu ⊢
  omega

theorem parse_fmtLower {u : ℕ} (hu : u < 2 ^ 128) : parse (fmtLower u) = some u := by
  have h12 := readGroup_hexDigits 12 u []
  rw [List.append_nil] at h12
  simp only [parse, fmtLower, readGroup_hexDigits, dash, h12, Option.bind_eq_bind, Option.bind_some,
    if_true]
  rw [groups_value hu]

theorem nul_not_mem_fmtLower (u : ℕ) : '\x00' ∉ fmtLower u := by
  intro h
  -- every character is a hex digit or a dash
  have hdigits : ∀ {w v : ℕ}, '\x00' ∉ hexDigits w v := fun h' => by
    obtain ⟨d, hd, heq⟩ := mem_hexDigits h'
    exact hexChar_ne_nul hd heq.symm
  simp only [fmtLower, List.mem_append, List.mem_cons] at h
  rcases h with h | h | h | h | h | h | h | h | h
  all_goals first | exact hdigits h | exact absurd h (by decide)

end Uuid
