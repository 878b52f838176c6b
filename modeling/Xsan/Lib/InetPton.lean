import Mathlib

/-!
# The address texts of `inet_pton`

POSIX `inet_pton` reads an IPv4 address (`AF_INET`) in dotted-decimal
notation `ddd.ddd.ddd.ddd`, each `ddd` a one- to three-digit decimal number
at most 255, and an IPv6 address (`AF_INET6`) in the text forms of RFC 2373,
section 2.2: eight colon-separated pieces of one to four hexadecimal digits,
the last two of which may be written as a dotted-decimal IPv4 address, with at
most one run of zero pieces written `::`.

`Texts` collects what a caller that prints such a text and reads it back
relies on: the characters each form is made of, that an IPv6 text has a
colon, and the greatest lengths, 15 and 45 (whence `INET_ADDRSTRLEN` 16 and
`INET6_ADDRSTRLEN` 46). `posixInetPton` is the grammar above, and
`texts_posixInetPton` shows that it has them.

Results:
* `length_splitOn`, `mem_splitOn`, `mem_of_one_lt_length_splitOn`: a text
  against the pieces it splits into.
* `isIpv4Text_chars`, `isIpv4Text_length`, `isIpv6Text_colon`,
  `isIpv6Text_chars`, `isIpv6Text_length`: the facts of each form.
* `texts_posixInetPton`.
-/

namespace InetPton

/-- The address families of `inet_pton`. -/
inductive AddrFamily
  | inet
  | inet6
deriving DecidableEq, Repr

/-! ## A text and its pieces -/

section Pieces

variable {α : Type}

theorem length_intercalate_singleton (c : α) (ps : List (List α)) (hps : ps ≠ []) :
    ([c].intercalate ps).length + 1 = (ps.map (·.length + 1)).sum := by
  induction ps with
  | nil => exact absurd rfl hps
  | cons p ps ih =>
    cases ps with
    | nil => simp
    | cons q ps =>
      have h := ih (List.cons_ne_nil q ps)
      rw [List.intercalate_cons_cons, List.length_append, List.length_append, List.map_cons,
        List.sum_cons, List.length_singleton]
      omega

theorem mem_intercalate_singleton {c x : α} {ps : List (List α)} (h : x ∈ [c].intercalate ps) :
    x = c ∨ ∃ p ∈ ps, x ∈ p := by
  induction ps with
  | nil => cases h
  | cons p ps ih =>
    cases ps with
    | nil => exact .inr ⟨p, List.mem_singleton_self p, by simpa using h⟩
    | cons q ps =>
      rw [List.intercalate_cons_cons, List.mem_append, List.mem_append, List.mem_singleton] at h
      rcases h with (h | h) | h
      · exact .inr ⟨p, List.mem_cons_self, h⟩
      · exact .inl h
      · rcases ih h with h | ⟨r, hr, hx⟩
        · exact .inl h
        · exact .inr ⟨r, List.mem_cons_of_mem p hr, hx⟩

/-- Pieces of at most `k` characters each take at most `(k + 1)` characters
apiece with their separators. -/
theorem sum_length_le {ps : List (List α)} {k : ℕ} (h : ∀ p ∈ ps, p.length ≤ k) :
    (ps.map (·.length + 1)).sum ≤ ps.length * (k + 1) := by
  induction ps with
  | nil => simp
  | cons p ps ih =>
    have hp := h p List.mem_cons_self
    have hps := ih fun q hq => h q (List.mem_cons_of_mem p hq)
    rw [List.map_cons, List.sum_cons, List.length_cons, Nat.succ_mul]
    omega

variable [DecidableEq α]

/-- A text is one character shorter than its pieces with one separator each. -/
theorem length_splitOn (c : α) (s : List α) : ((s.splitOn c).map (·.length + 1)).sum = s.length + 1 := by
  have h := length_intercalate_singleton c (s.splitOn c) (List.splitOn_ne_nil c s)
  rw [List.intercalate_splitOn] at h
  exact h.symm

/-- A character of a text is the separator or a character of a piece. -/
theorem mem_splitOn {c x : α} {s : List α} (h : x ∈ s) : x = c ∨ ∃ p ∈ s.splitOn c, x ∈ p := by
  have h' : x ∈ [c].intercalate (s.splitOn c) := by
    rw [List.intercalate_splitOn]
    exact h
  exact mem_intercalate_singleton h'

theorem mem_of_one_lt_length_splitOn {c : α} {s : List α} (h : 1 < (s.splitOn c).length) : c ∈ s := by
  by_contra hc
  rw [List.splitOn_eq_singleton hc, List.length_singleton] at h
  exact absurd h (Nat.lt_irrefl 1)

end Pieces

/-! ## The grammar -/

/-- A hexadecimal digit. -/
def isHexDigit (c : Char) : Bool :=
  c.isDigit || (decide ('a' ≤ c) && decide (c ≤ 'f')) || (decide ('A' ≤ c) && decide (c ≤ 'F'))

theorem isHexDigit_of_isDigit {c : Char} (h : c.isDigit = true) : isHexDigit c = true := by
  simp [isHexDigit, h]

/-- A decimal number `ddd` of a dotted-decimal address. -/
def isDecimalByte (d : List Char) : Bool :=
  decide (0 < d.length) && decide (d.length ≤ 3) && d.all Char.isDigit &&
    decide (d.foldl (fun acc c => 10 * acc + (c.toNat - '0'.toNat)) 0 ≤ 255)

/-- `ddd.ddd.ddd.ddd`. -/
def isIpv4Text (s : List Char) : Bool :=
  (s.splitOn '.').length == 4 && (s.splitOn '.').all isDecimalByte

/-- A piece `x` of an IPv6 address: one to four hexadecimal digits. -/
def isHexPiece (g : List Char) : Bool :=
  decide (0 < g.length) && decide (g.length ≤ 4) && g.all isHexDigit

/-- The 16-bit units that colon-separated pieces stand for, each `x` one and a
last dotted-decimal address two; `none` when a piece is neither. -/
def pieceUnits : List (List Char) → Option ℕ
  | [] => some 0
  | [p] => if isHexPiece p then some 1 else if isIpv4Text p then some 2 else none
  | p :: q :: ps => if isHexPiece p then (pieceUnits (q :: ps)).map (· + 1) else none

/-- The units written before a `::`: pieces `x` only. -/
def leftUnits (t : List Char) : Option ℕ :=
  if t = [] then some 0
  else if (t.splitOn ':').all isHexPiece then some (t.splitOn ':').length else none

/-- The units written after a `::`. -/
def rightUnits (t : List Char) : Option ℕ :=
  if t = [] then some 0 else pieceUnits (t.splitOn ':')

/-- The text with its `::` at position `i`, standing for at least one zero
piece. -/
def compressedAt (s : List Char) (i : ℕ) : Bool :=
  (s.drop i).take 2 == [':', ':'] &&
    match leftUnits (s.take i), rightUnits (s.drop (i + 2)) with
    | some l, some r => decide (l + r ≤ 7)
    | _, _ => false

/-- The IPv6 text forms: eight units without `::`, or one `::`. -/
def isIpv6Text (s : List Char) : Bool :=
  pieceUnits (s.splitOn ':') == some 8 || (List.range (s.length + 1)).any (compressedAt s)

/-- `inet_pton(af, src, dst) == 1`. -/
def posixInetPton : AddrFamily → List Char → Bool
  | .inet => isIpv4Text
  | .inet6 => isIpv6Text

/-- What a caller that prints an address text and reads it back relies on. -/
structure Texts (inetPton : AddrFamily → List Char → Bool) : Prop where
  inet_chars : ∀ {s}, inetPton .inet s = true → ∀ c ∈ s, c.isDigit = true ∨ c = '.'
  inet_length : ∀ {s}, inetPton .inet s = true → s.length ≤ 15
  inet6_colon : ∀ {s}, inetPton .inet6 s = true → ':' ∈ s
  inet6_chars : ∀ {s}, inetPton .inet6 s = true → ∀ c ∈ s, isHexDigit c = true ∨ c = ':' ∨ c = '.'
  inet6_length : ∀ {s}, inetPton .inet6 s = true → s.length ≤ 45

/-! ## IPv4 -/

theorem isDecimalByte_length {d : List Char} (h : isDecimalByte d = true) : d.length ≤ 3 := by
  simp only [isDecimalByte, Bool.and_eq_true, decide_eq_true_eq] at h
  exact h.1.1.2

theorem isDecimalByte_chars {d : List Char} (h : isDecimalByte d = true) : ∀ c ∈ d, c.isDigit = true := by
  simp only [isDecimalByte, Bool.and_eq_true, List.all_eq_true] at h
  exact h.1.2

theorem isIpv4Text_chars {s : List Char} (h : isIpv4Text s = true) :
    ∀ c ∈ s, c.isDigit = true ∨ c = '.' := by
  simp only [isIpv4Text, Bool.and_eq_true, List.all_eq_true] at h
  intro c hc
  rcases mem_splitOn (c := '.') hc with hdot | ⟨p, hp, hcp⟩
  · exact .inr hdot
  · exact .inl (isDecimalByte_chars (h.2 p hp) c hcp)

theorem isIpv4Text_length {s : List Char} (h : isIpv4Text s = true) : s.length ≤ 15 := by
  simp only [isIpv4Text, Bool.and_eq_true, beq_iff_eq, List.all_eq_true] at h
  have hsum := length_splitOn '.' s
  have hle := sum_length_le fun p hp => isDecimalByte_length (h.2 p hp)
  rw [h.1] at hle
  omega

/-! ## IPv6 -/

/-- The characters of an IPv6 text. -/
def isIpv6Char (c : Char) : Prop := isHexDigit c = true ∨ c = ':' ∨ c = '.'

theorem isHexPiece_length {g : List Char} (h : isHexPiece g = true) : g.length ≤ 4 := by
  simp only [isHexPiece, Bool.and_eq_true, decide_eq_true_eq] at h
  exact h.1.2

theorem isHexPiece_chars {g : List Char} (h : isHexPiece g = true) : ∀ c ∈ g, isIpv6Char c := by
  simp only [isHexPiece, Bool.and_eq_true, List.all_eq_true] at h
  exact fun c hc => .inl (h.2 c hc)

theorem isIpv4Text_ipv6Chars {p : List Char} (h : isIpv4Text p = true) : ∀ c ∈ p, isIpv6Char c := by
  intro c hc
  rcases isIpv4Text_chars h c hc with hd | hdot
  · exact .inl (isHexDigit_of_isDigit hd)
  · exact .inr (.inr hdot)

/-- Each unit takes at most five characters with its separator, and a last
dotted-decimal address six more. -/
theorem pieceUnits_length : ∀ {ps : List (List Char)} {u : ℕ}, pieceUnits ps = some u →
    (ps.map (·.length + 1)).sum ≤ 5 * u + 6
  | [], _, _ => by simp
  | [p], u, h => by
    rw [pieceUnits] at h
    split_ifs at h with hx h4
    · cases h
      have := isHexPiece_length hx
      simp only [List.map_cons, List.map_nil, List.sum_cons, List.sum_nil]
      omega
    · cases h
      have := isIpv4Text_length h4
      simp only [List.map_cons, List.map_nil, List.sum_cons, List.sum_nil]
      omega
  | p :: q :: ps, u, h => by
    rw [pieceUnits] at h
    split_ifs at h with hx
    obtain ⟨u', hu', rfl⟩ := Option.map_eq_some_iff.mp h
    have hrest := pieceUnits_length hu'
    have hp := isHexPiece_length hx
    rw [List.map_cons, List.sum_cons]
    omega

/-- A piece stands for at most two units, and only the last for two. -/
theorem pieceUnits_le : ∀ {ps : List (List Char)} {u : ℕ}, pieceUnits ps = some u → u ≤ ps.length + 1
  | [], u, h => by
    rw [pieceUnits, Option.some.injEq] at h
    omega
  | [p], u, h => by
    rw [pieceUnits] at h
    split_ifs at h <;> cases h <;> simp
  | p :: q :: ps, u, h => by
    rw [pieceUnits] at h
    split_ifs at h with hx
    obtain ⟨u', hu', rfl⟩ := Option.map_eq_some_iff.mp h
    have := pieceUnits_le hu'
    simp only [List.length_cons] at this ⊢
    omega

theorem pieceUnits_chars : ∀ {ps : List (List Char)} {u : ℕ}, pieceUnits ps = some u →
    ∀ p ∈ ps, ∀ c ∈ p, isIpv6Char c
  | [], _, _ => by simp
  | [p], u, h => by
    rw [pieceUnits] at h
    intro p' hp'
    rw [List.mem_singleton.mp hp']
    split_ifs at h with hx h4
    · exact isHexPiece_chars hx
    · exact isIpv4Text_ipv6Chars h4
  | p :: q :: ps, u, h => by
    rw [pieceUnits] at h
    split_ifs at h with hx
    obtain ⟨u', hu', -⟩ := Option.map_eq_some_iff.mp h
    intro p' hp'
    rcases List.mem_cons.mp hp' with rfl | hp'
    · exact isHexPiece_chars hx
    · exact pieceUnits_chars hu' p' hp'

/-- A colon-separated text whose pieces are all of IPv6 characters is. -/
theorem chars_of_pieces {t : List Char} (h : ∀ p ∈ t.splitOn ':', ∀ c ∈ p, isIpv6Char c) :
    ∀ c ∈ t, isIpv6Char c := by
  intro c hc
  rcases mem_splitOn (c := ':') hc with hcolon | ⟨p, hp, hcp⟩
  · exact .inr (.inl hcolon)
  · exact h p hp c hcp

theorem leftUnits_length {t : List Char} {l : ℕ} (h : leftUnits t = some l) : t.length ≤ 5 * l := by
  rw [leftUnits] at h
  split_ifs at h with ht hx
  · cases h
    simp [ht]
  · cases h
    simp only [List.all_eq_true] at hx
    have hsum := length_splitOn ':' t
    have hle := sum_length_le fun p hp => isHexPiece_length (hx p hp)
    omega

theorem leftUnits_chars {t : List Char} {l : ℕ} (h : leftUnits t = some l) : ∀ c ∈ t, isIpv6Char c := by
  rw [leftUnits] at h
  split_ifs at h with ht hx
  · rw [ht]
    simp
  · simp only [List.all_eq_true] at hx
    exact chars_of_pieces fun p hp => isHexPiece_chars (hx p hp)

theorem rightUnits_length {t : List Char} {r : ℕ} (h : rightUnits t = some r) : t.length ≤ 5 * r + 5 := by
  rw [rightUnits] at h
  split_ifs at h with ht
  · cases h
    rw [ht]
    simp
  · have hsum := length_splitOn ':' t
    have hle := pieceUnits_length h
    omega

theorem rightUnits_chars {t : List Char} {r : ℕ} (h : rightUnits t = some r) : ∀ c ∈ t, isIpv6Char c := by
  rw [rightUnits] at h
  split_ifs at h with ht
  · rw [ht]
    simp
  · exact chars_of_pieces (pieceUnits_chars h)

/-- A text with its `::` at `i`: the units on each side, and the text cut
there. -/
theorem compressedAt_spec {s : List Char} {i : ℕ} (h : compressedAt s i = true) :
    ∃ l r, s = s.take i ++ ':' :: ':' :: s.drop (i + 2) ∧ leftUnits (s.take i) = some l ∧
      rightUnits (s.drop (i + 2)) = some r ∧ l + r ≤ 7 := by
  rw [compressedAt, Bool.and_eq_true, beq_iff_eq] at h
  obtain ⟨htake, hunits⟩ := h
  have hcut : s.drop i = ':' :: ':' :: s.drop (i + 2) := by
    rw [← List.take_append_drop 2 (s.drop i), htake, List.drop_drop, Nat.add_comm]
    rfl
  split at hunits
  · rename_i l r hl hr
    refine ⟨l, r, ?_, hl, hr, of_decide_eq_true hunits⟩
    rw [← hcut, List.take_append_drop]
  · cases hunits

theorem isIpv6Text_cases {s : List Char} (h : isIpv6Text s = true) :
    pieceUnits (s.splitOn ':') = some 8 ∨ ∃ i, compressedAt s i = true := by
  rw [isIpv6Text, Bool.or_eq_true, beq_iff_eq, List.any_eq_true] at h
  rcases h with h | ⟨i, -, hi⟩
  · exact .inl h
  · exact .inr ⟨i, hi⟩

theorem isIpv6Text_colon {s : List Char} (h : isIpv6Text s = true) : ':' ∈ s := by
  rcases isIpv6Text_cases h with hfull | ⟨i, hi⟩
  · -- eight units need at least seven pieces
    have := pieceUnits_le hfull
    exact mem_of_one_lt_length_splitOn (by omega)
  · obtain ⟨l, r, hs, -⟩ := compressedAt_spec hi
    rw [hs]
    exact List.mem_append_right _ List.mem_cons_self

theorem isIpv6Text_chars {s : List Char} (h : isIpv6Text s = true) : ∀ c ∈ s, isIpv6Char c := by
  rcases isIpv6Text_cases h with hfull | ⟨i, hi⟩
  · exact chars_of_pieces (pieceUnits_chars hfull)
  · obtain ⟨l, r, hs, hl, hr, -⟩ := compressedAt_spec hi
    intro c hc
    rw [hs, List.mem_append, List.mem_cons, List.mem_cons] at hc
    rcases hc with hc | hc | hc | hc
    · exact leftUnits_chars hl c hc
    · exact .inr (.inl hc)
    · exact .inr (.inl hc)
    · exact rightUnits_chars hr c hc

theorem isIpv6Text_length {s : List Char} (h : isIpv6Text s = true) : s.length ≤ 45 := by
  rcases isIpv6Text_cases h with hfull | ⟨i, hi⟩
  · have hsum := length_splitOn ':' s
    have hle := pieceUnits_length hfull
    omega
  · obtain ⟨l, r, hs, hl, hr, hlr⟩ := compressedAt_spec hi
    have hlen := congrArg List.length hs
    have hleft := leftUnits_length hl
    have hright := rightUnits_length hr
    simp only [List.length_append, List.length_cons] at hlen
    omega

/-- POSIX's text forms have what `Texts` asks. -/
theorem texts_posixInetPton : Texts posixInetPton where
  inet_chars h := isIpv4Text_chars h
  inet_length h := isIpv4Text_length h
  inet6_colon h := isIpv6Text_colon h
  inet6_chars h := isIpv6Text_chars h
  inet6_length h := isIpv6Text_length h

/-! ## Characters outside the texts -/

section Outside

variable {inetPton : AddrFamily → List Char → Bool}

/-- A character that is neither a digit nor `.` is in no IPv4 text. -/
theorem Texts.not_mem_inet (htexts : Texts inetPton) {c : Char} (hc : c.isDigit = false ∧ c ≠ '.')
    {s : List Char} (h : inetPton .inet s = true) : c ∉ s := by
  intro hmem
  rcases htexts.inet_chars h c hmem with hdigit | hdot
  · rw [hc.1] at hdigit
    cases hdigit
  · exact hc.2 hdot

/-- A character that is neither a hexadecimal digit nor `:` nor `.` is in no
IPv6 text. -/
theorem Texts.not_mem_inet6 (htexts : Texts inetPton) {c : Char}
    (hc : isHexDigit c = false ∧ c ≠ ':' ∧ c ≠ '.') {s : List Char} (h : inetPton .inet6 s = true) :
    c ∉ s := by
  intro hmem
  rcases htexts.inet6_chars h c hmem with hhex | hcolon | hdot
  · rw [hc.1] at hhex
    cases hhex
  · exact hc.2.1 hcolon
  · exact hc.2.2 hdot

end Outside

end InetPton
