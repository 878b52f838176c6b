import Mathlib.Data.List.Basic
import Mathlib.Tactic.Ring

/-!
# Fixed-width byte encodings of naturals

A natural number written as exactly `w` bytes, least significant first
(`toLE`) or most significant first (`toBE`), and the readers back
(`ofLE`, `ofBE`). A machine stores a `w`-byte integer in memory in its own
`ByteOrder`; `hton o w x` is the integer whose memory image on a host of
order `o` is the big-endian image of `x`, which is what the POSIX
conversions `htons`/`htonl` compute and what a hand-written 64-bit swap has
to agree with.

Results:
* `ofLE_toLE`, `toLE_ofLE`, `ofBE_toBE`, `toBE_ofBE`: the round trips.
* `toLE_add`, `toBE_add`: splitting a `(a + b)`-byte image at byte `a`.
* `encode_hton`: storing `hton o w x` writes `toBE w x`.
* `hton_decode`: reading a `w`-byte image and converting it back gives its
  big-endian value; so `hton` is its own inverse on `[0, 256^w)`.
* `hton_little_add`: the split of a little-endian swap into two halves.
-/

namespace Bytes

/-! ## Little-endian images -/

/-- The `w` least significant bytes of `n`, least significant first. -/
def toLE : ℕ → ℕ → List UInt8
  | 0, _ => []
  | w + 1, n => UInt8.ofNat (n % 256) :: toLE w (n / 256)

/-- The natural with the given little-endian bytes. -/
def ofLE : List UInt8 → ℕ
  | [] => 0
  | b :: bs => b.toNat + 256 * ofLE bs

@[simp] theorem toLE_zero (n : ℕ) : toLE 0 n = [] := rfl

@[simp] theorem toLE_succ (w n : ℕ) :
    toLE (w + 1) n = UInt8.ofNat (n % 256) :: toLE w (n / 256) := rfl

@[simp] theorem ofLE_nil : ofLE [] = 0 := rfl

@[simp] theorem ofLE_cons (b : UInt8) (bs : List UInt8) :
    ofLE (b :: bs) = b.toNat + 256 * ofLE bs := rfl

@[simp] theorem length_toLE (w n : ℕ) : (toLE w n).length = w := by
  induction w generalizing n with
  | zero => rfl
  | succ w ih => simp [ih]

/-- A byte written from `n % 256` reads back as `n % 256`. -/
theorem toNat_ofNat_mod (n : ℕ) : (UInt8.ofNat (n % 256)).toNat = n % 256 := by
  rw [UInt8.toNat_ofNat']; omega

theorem ofLE_toLE (w n : ℕ) : ofLE (toLE w n) = n % 256 ^ w := by
  induction w generalizing n with
  | zero => simp [Nat.mod_one]
  | succ w ih =>
    simp only [toLE_succ, ofLE_cons, ih, toNat_ofNat_mod]
    -- `n = n % 256 + 256 * (n / 256)`, and the high part is taken modulo `256 ^ w`
    rw [pow_succ', Nat.mod_mul]

theorem ofLE_lt (l : List UInt8) : ofLE l < 256 ^ l.length := by
  induction l with
  | nil => simp
  | cons b bs ih =>
    have hb := b.toNat_lt
    simp only [ofLE_cons, List.length_cons, pow_succ]
    change b.toNat < 256 at hb
    omega

theorem toLE_ofLE (l : List UInt8) : toLE l.length (ofLE l) = l := by
  induction l with
  | nil => rfl
  | cons b bs ih =>
    have hb : b.toNat < 256 := b.toNat_lt
    have hlow : (b.toNat + 256 * ofLE bs) % 256 = b.toNat := by omega
    have hhigh : (b.toNat + 256 * ofLE bs) / 256 = ofLE bs := by omega
    simp only [List.length_cons, toLE_succ, ofLE_cons, hlow, hhigh, ih, UInt8.ofNat_toNat]

theorem ofLE_append (l₁ l₂ : List UInt8) :
    ofLE (l₁ ++ l₂) = ofLE l₁ + 256 ^ l₁.length * ofLE l₂ := by
  induction l₁ with
  | nil => simp
  | cons b bs ih =>
    simp only [List.cons_append, ofLE_cons, ih, List.length_cons, pow_succ]
    ring

/-- Only the low `w` bytes of `n` are written. -/
theorem toLE_mod (w n : ℕ) : toLE w (n % 256 ^ w) = toLE w n := by
  induction w generalizing n with
  | zero => rfl
  | succ w ih =>
    rw [toLE_succ, toLE_succ, pow_succ', Nat.mod_mul_right_mod,
      Nat.mod_mul_right_div_self, ih]

/-- The image of `a + b` bytes is the image of the low `a` bytes followed by
that of the next `b`. -/
theorem toLE_add (a b n : ℕ) : toLE (a + b) n = toLE a n ++ toLE b (n / 256 ^ a) := by
  induction a generalizing n with
  | zero => simp
  | succ a ih =>
    rw [Nat.add_right_comm, toLE_succ, ih, toLE_succ, List.cons_append, Nat.div_div_eq_div_mul,
      pow_succ']

/-! ## Big-endian images -/

/-- The `w` least significant bytes of `n`, most significant first. -/
def toBE (w n : ℕ) : List UInt8 := (toLE w n).reverse

/-- The natural with the given big-endian bytes. -/
def ofBE (l : List UInt8) : ℕ := ofLE l.reverse

@[simp] theorem length_toBE (w n : ℕ) : (toBE w n).length = w := by
  simp [toBE]

theorem ofBE_toBE (w n : ℕ) : ofBE (toBE w n) = n % 256 ^ w := by
  simp [ofBE, toBE, ofLE_toLE]

theorem toBE_ofBE (l : List UInt8) : toBE l.length (ofBE l) = l := by
  have h := toLE_ofLE l.reverse
  rw [List.length_reverse] at h
  rw [toBE, ofBE, h, List.reverse_reverse]

theorem ofBE_lt (l : List UInt8) : ofBE l < 256 ^ l.length := by
  have h := ofLE_lt l.reverse
  rwa [List.length_reverse] at h

theorem toBE_mod (w n : ℕ) : toBE w (n % 256 ^ w) = toBE w n := by
  rw [toBE, toLE_mod, toBE]

/-- The big-endian image of `a + b` bytes: the high `b` bytes, then the low `a`. -/
theorem toBE_add (a b n : ℕ) : toBE (a + b) n = toBE b (n / 256 ^ a) ++ toBE a n := by
  rw [toBE, toLE_add, List.reverse_append, toBE, toBE]

/-! ## Host byte order -/

/-- The order in which a host stores the bytes of a multi-byte integer. -/
inductive ByteOrder where
  | little
  | big
  deriving DecidableEq, Repr

/-- The memory image of a `w`-byte integer `n` on a host of order `o`. -/
def ByteOrder.encode : ByteOrder → ℕ → ℕ → List UInt8
  | .little, w, n => toLE w n
  | .big, w, n => toBE w n

/-- The integer a host of order `o` reads from the bytes `l`. -/
def ByteOrder.decode : ByteOrder → List UInt8 → ℕ
  | .little, l => ofLE l
  | .big, l => ofBE l

@[simp] theorem ByteOrder.length_encode (o : ByteOrder) (w n : ℕ) :
    (o.encode w n).length = w := by
  cases o <;> simp [ByteOrder.encode]

theorem ByteOrder.decode_lt (o : ByteOrder) (l : List UInt8) : o.decode l < 256 ^ l.length := by
  cases o
  · exact ofLE_lt l
  · exact ofBE_lt l

/-- Reading back a stored `w`-byte integer gives it modulo `256 ^ w`. -/
theorem ByteOrder.decode_encode (o : ByteOrder) (w n : ℕ) : o.decode (o.encode w n) = n % 256 ^ w := by
  cases o
  · exact ofLE_toLE w n
  · exact ofBE_toBE w n

theorem ByteOrder.encode_decode (o : ByteOrder) (l : List UInt8) :
    o.encode l.length (o.decode l) = l := by
  cases o
  · exact toLE_ofLE l
  · exact toBE_ofBE l

/-- The host integer whose memory image is the big-endian image of `x`: what
`htons`/`htonl` return for `w = 2, 4` (and `ntohs`/`ntohl`, the same maps). -/
def hton (o : ByteOrder) (w x : ℕ) : ℕ := o.decode (toBE w x)

theorem hton_lt (o : ByteOrder) (w x : ℕ) : hton o w x < 256 ^ w := by
  have h := o.decode_lt (toBE w x)
  rwa [length_toBE] at h

/-- Storing `hton o w x` writes the big-endian image of `x`. -/
theorem encode_hton (o : ByteOrder) (w x : ℕ) : o.encode w (hton o w x) = toBE w x := by
  have h := o.encode_decode (toBE w x)
  rwa [length_toBE] at h

/-- Converting what a host read from `w` bytes gives their big-endian value. -/
theorem hton_decode (o : ByteOrder) (l : List UInt8) :
    hton o l.length (o.decode l) = ofBE l := by
  cases o
  · rw [hton, ByteOrder.decode, ByteOrder.decode]
    have h : toBE l.length (ofLE l) = l.reverse := by rw [toBE, toLE_ofLE]
    rw [h, ofBE]
  · rw [hton, ByteOrder.decode, ByteOrder.decode, toBE_ofBE]

theorem hton_mod (o : ByteOrder) (w x : ℕ) : hton o w (x % 256 ^ w) = hton o w x := by
  rw [hton, toBE_mod, hton]

/-- A little-endian swap of `a + b` bytes swaps the two halves: the high `b`
bytes of `x`, swapped, land low. -/
theorem hton_little_add (a b x : ℕ) :
    hton .little (a + b) x = hton .little b (x / 256 ^ a) + 256 ^ b * hton .little a x := by
  rw [hton, toBE_add, ByteOrder.decode, ofLE_append, length_toBE, hton, hton]
  rfl

end Bytes
