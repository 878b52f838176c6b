import Xsan.Lib.InetPton
import Xsan.Utils.SeedNodes
import Xsan.Utils.ConfigSave

/-!
# Socket addresses as text

`xsan_socket_address_to_string` (network/socket.c:413-425) prints an
`xsan_address_t` with `xsan_snprintf_safe` (utils/string_utils.c:62-79): as
`[ip]:port` when `ip` has a `:`, as `ip:port` otherwise.
`xsan_socket_string_to_address` (lines 428-497) cuts a text in one of three
ways: after a leading `[`, up to the first `]`, which must be followed by
`:`; else at the last `:`; else not at all, with no port. Each way refuses an
address part of `INET6_ADDRSTRLEN` characters or more. `inet_pton` must then
accept the address part as IPv4, and it is copied into `ip` with
`INET_ADDRSTRLEN`, or as IPv6, copied with `INET6_ADDRSTRLEN`; last `strtol`
must read the whole port part, to a value in `[1, 65535]`.

`inet_pton` is a parameter. What the round trip needs of it is
`InetPton.Texts`, which POSIX's text forms have
(`InetPton.texts_posixInetPton`). The printed text is the buffer read as a C
string. The parser returns `*addr` with its code: a refused port leaves the
address part it has already copied.

Results:
* `addressSplit_bracketed`, `addressSplit_lastColon`: the first two ways
  read back the address and port parts of the texts the printer writes.
* `addressIp_inet`, `addressIp_inet6`, `addressPort_decDigits`: the address
  part is kept whole and the port read back.
* `address_string_round_trip`: an address whose `ip` `inet_pton` accepts and
  whose port is in `[1, 65535]`, printed into a buffer of at least
  `INET6_ADDRSTRLEN + 8` bytes, reads back as itself with `XSAN_OK`.
-/

namespace Xsan

open InetPton

/-! ## Printing -/

/-- `xsan_snprintf_safe(dest, dest_size, format, …)` (string_utils.c:62-79),
`text` being what `vsnprintf` prints: the value returned and the buffer read
as a C string. -/
def xsanSnprintfSafe (dest : List Char) (destSize : ℕ) (text : List Char) : ℤ × List Char :=
  if destSize = 0 then (-1, dest)
  else if text.length < destSize then (text.length, text)
  else ((destSize : ℤ) - 1, text.take (destSize - 1))

/-- `xsan_socket_address_to_string` (socket.c:413-425): the buffer read as a C
string, or `none` for the `NULL` returned when `buffer_size` is 0. `%u`
prints the port in decimal. -/
def xsanSocketAddressToString (addr : XsanAddress) (buffer : List Char) (bufferSize : ℕ) :
    Option (List Char) :=
  if bufferSize = 0 then none
  else if ':' ∈ addr.ip then
    some (xsanSnprintfSafe buffer bufferSize ('[' :: (addr.ip ++ ']' :: ':' :: decDigits addr.port))).2
  else some (xsanSnprintfSafe buffer bufferSize (addr.ip ++ ':' :: decDigits addr.port)).2

theorem xsanSnprintfSafe_of_lt {dest text : List Char} {destSize : ℕ} (h : text.length < destSize) :
    (xsanSnprintfSafe dest destSize text).2 = text := by
  rw [xsanSnprintfSafe, if_neg (by omega), if_pos h]

/-! ## Parsing -/

/-- The cut of `xsan_socket_string_to_address` (lines 436-465): the address
part and the port part, `none` where `port_str` stays `NULL`; `none` where the
function returns `XSAN_ERROR_INVALID_PARAM`. -/
def addressSplit (addressString : List Char) : Option (List Char × Option (List Char)) :=
  if addressString.head? = some '[' then
    -- `strchr(address_string, ']')` and the character after it
    let rest := addressString.tail
    if ']' ∉ rest then none
    else
      let ipPart := rest.takeWhile (· != ']')
      let after := (rest.dropWhile (· != ']')).drop 1
      if after.head? ≠ some ':' then none
      else if ipPart.length ≥ inet6Addrstrlen then none
      else some (ipPart, some (after.drop 1))
  -- `strrchr(address_string, ':')`: the cut is searched from the end
  else if ':' ∈ addressString then
    let ipPart := ((addressString.reverse.dropWhile (· != ':')).drop 1).reverse
    let portStr := (addressString.reverse.takeWhile (· != ':')).reverse
    if ipPart.length ≥ inet6Addrstrlen then none else some (ipPart, some portStr)
  else if addressString.length ≥ inet6Addrstrlen then none
  else some (addressString, none)

/-- Lines 467-477: `inet_pton` tries the address part as IPv4, then as IPv6,
and it is copied into `addr->ip` with the buffer size of its family; `none`
where both refuse it. -/
def addressIp (inetPton : AddrFamily → List Char → Bool) (ipBuffer : List Char)
    (addr : XsanAddress) : Option XsanAddress :=
  if inetPton .inet ipBuffer then
    some { addr with ip := (xsanStrcpySafe addr.ip ipBuffer inetAddrstrlen).1 }
  else if inetPton .inet6 ipBuffer then
    some { addr with ip := (xsanStrcpySafe addr.ip ipBuffer inet6Addrstrlen).1 }
  else none

/-- Lines 480-485 on a non-empty `port_str`: `strtol` must leave `endptr` at
the terminating `NUL` and read a value in `[1, 65535]`; the port is its
`uint16_t` cast. -/
def addressPort (portStr : List Char) : Option ℕ :=
  let r := strtol portStr
  if r.2.1 ≠ portStr.length ∨ r.1 ≤ 0 ∨ r.1 > 65535 then none else some (r.1.toNat % 2 ^ 16)

/-- `xsan_socket_string_to_address` (socket.c:428-497): the code returned and
`*addr` afterwards. -/
def xsanSocketStringToAddress (inetPton : AddrFamily → List Char → Bool) (addressString : List Char)
    (addr : XsanAddress) : ℤ × XsanAddress :=
  match addressSplit addressString with
  | none => (xsanErrorInvalidParam, addr)
  | some (ipBuffer, portStr) =>
    match addressIp inetPton ipBuffer addr with
    | none => (xsanErrorInvalidParam, addr)
    | some addr =>
      -- `if (port_str && *port_str)`
      match portStr with
      | some p =>
        if p = [] then (xsanErrorInvalidParam, addr)
        else
          match addressPort p with
          | some port => (xsanOk, { addr with port := port })
          | none => (xsanErrorInvalidParam, addr)
      | none => (xsanErrorInvalidParam, addr)

/-- A text the three checks pass is read as its address part and port. -/
theorem xsanSocketStringToAddress_eq_ok {inetPton : AddrFamily → List Char → Bool}
    {s ip p : List Char} {addr addr' : XsanAddress} {port : ℕ}
    (hsplit : addressSplit s = some (ip, some p)) (hip : addressIp inetPton ip addr = some addr')
    (hp : p ≠ []) (hport : addressPort p = some port) :
    xsanSocketStringToAddress inetPton s addr = (xsanOk, { addr' with port := port }) := by
  rw [xsanSocketStringToAddress, hsplit]
  dsimp only
  rw [hip]
  dsimp only
  rw [if_neg hp, hport]

/-! ## The two ways back -/

/-- `[ip]:p` with no `]` in `ip` is cut after the bracket. -/
theorem addressSplit_bracketed {ip p : List Char} (hip : ']' ∉ ip) (hlen : ip.length < inet6Addrstrlen) :
    addressSplit ('[' :: (ip ++ ']' :: ':' :: p)) = some (ip, some p) := by
  have hmem : ']' ∈ ip ++ ']' :: ':' :: p := List.mem_append_right _ List.mem_cons_self
  rw [addressSplit, List.head?_cons, if_pos rfl]
  dsimp only
  rw [List.tail_cons, if_neg (not_not.mpr hmem), Search.takeWhile_ne_append_cons hip,
    Search.dropWhile_ne_append_cons hip, List.drop_one, List.tail_cons, List.head?_cons,
    if_neg (not_not.mpr rfl), if_neg (Nat.not_le.mpr hlen), List.drop_one, List.tail_cons]

/-- `ip:p` with no `:` in `p`, and `ip` not starting with `[`, is cut at that
`:`, whatever `ip` holds. -/
theorem addressSplit_lastColon {ip p : List Char} (hhead : ip.head? ≠ some '[') (hp : ':' ∉ p)
    (hlen : ip.length < inet6Addrstrlen) :
    addressSplit (ip ++ ':' :: p) = some (ip, some p) := by
  have hfirst : (ip ++ ':' :: p).head? ≠ some '[' := by
    cases ip with
    | nil => simp
    | cons c r => simpa using hhead
  have hmem : ':' ∈ ip ++ ':' :: p := List.mem_append_right _ List.mem_cons_self
  -- reversed, the text starts with the port
  have hrev : (ip ++ ':' :: p).reverse = p.reverse ++ ':' :: ip.reverse := by simp
  have hp' : ':' ∉ p.reverse := by rwa [List.mem_reverse]
  rw [addressSplit, if_neg hfirst, if_pos hmem]
  dsimp only
  rw [hrev, Search.dropWhile_ne_append_cons hp', Search.takeWhile_ne_append_cons hp', List.drop_one,
    List.tail_cons, List.reverse_reverse, List.reverse_reverse, if_neg (Nat.not_le.mpr hlen)]

/-! ## Address and port -/

section Parts

variable {inetPton : AddrFamily → List Char → Bool}

theorem addressIp_inet {ip : List Char} (h : inetPton .inet ip = true) (hlen : ip.length < inetAddrstrlen)
    (addr : XsanAddress) : addressIp inetPton ip addr = some { addr with ip := ip } := by
  rw [addressIp, if_pos h, xsanStrcpySafe_fst (by decide), List.take_of_length_le (by omega)]

theorem addressIp_inet6 {ip : List Char} (h4 : inetPton .inet ip = false) (h6 : inetPton .inet6 ip = true)
    (hlen : ip.length < inet6Addrstrlen) (addr : XsanAddress) :
    addressIp inetPton ip addr = some { addr with ip := ip } := by
  rw [addressIp, h4, if_neg Bool.false_ne_true, if_pos h6, xsanStrcpySafe_fst (by decide),
    List.take_of_length_le (by omega)]

/-- The port `%u` prints is read back. -/
theorem addressPort_decDigits {port : ℕ} (h1 : 1 ≤ port) (h2 : port ≤ 65535) :
    addressPort (decDigits port) = some port := by
  have hfmt : formatDecimal port = decDigits port := by
    rw [formatDecimal, if_neg (by omega), Int.natAbs_natCast]
  have hstrtol := strtol_formatDecimal (i := port) (by simp only [longMin]; omega)
    (by simp only [longMax]; omega)
  rw [hfmt] at hstrtol
  rw [addressPort, hstrtol]
  dsimp only
  rw [if_neg (by omega), Int.toNat_natCast, Nat.mod_eq_of_lt (by omega)]

end Parts

/-! ## The round trip -/

/-- An address whose `ip` `inet_pton` accepts, with a port in `[1, 65535]`,
printed into a buffer of at least `INET6_ADDRSTRLEN + 8` bytes, reads back as
itself with `XSAN_OK`, whatever `*addr` held before: an IPv6 address through
the bracketed way, an IPv4 address through the last `:`. -/
theorem address_string_round_trip {inetPton : AddrFamily → List Char → Bool} (htexts : Texts inetPton)
    {a : XsanAddress} (hip : inetPton .inet a.ip = true ∨ inetPton .inet6 a.ip = true)
    (hport : 1 ≤ a.port ∧ a.port ≤ 65535) {bufferSize : ℕ} (hbuf : inet6Addrstrlen + 8 ≤ bufferSize)
    (buffer : List Char) (out : XsanAddress) :
    (xsanSocketAddressToString a buffer bufferSize).map (fun s => xsanSocketStringToAddress inetPton s out) =
      some (xsanOk, a) := by
  have hdigits : (decDigits a.port).length ≤ 5 := decDigits_length_le (by omega) (by omega)
  have hcolonPort : ':' ∉ decDigits a.port := fun h => by
    have := decDigits_isDigit a.port ':' h
    revert this
    decide
  have hportBack := addressPort_decDigits hport.1 hport.2
  have hsize : inet6Addrstrlen = 46 := rfl
  by_cases hcolon : ':' ∈ a.ip
  · -- an IPv6 address: printed in brackets
    have h4 : inetPton .inet a.ip = false :=
      Bool.eq_false_iff.mpr fun h4 => htexts.not_mem_inet (by decide) h4 hcolon
    have h6 : inetPton .inet6 a.ip = true := hip.resolve_left (by rw [h4]; decide)
    have hlen := htexts.inet6_length h6
    have hbracket : ']' ∉ a.ip := htexts.not_mem_inet6 (by decide) h6
    rw [xsanSocketAddressToString, if_neg (by omega), if_pos hcolon, Option.map_some,
      xsanSnprintfSafe_of_lt (by simp only [List.length_cons, List.length_append]; omega),
      xsanSocketStringToAddress_eq_ok (addressSplit_bracketed hbracket (by omega))
        (addressIp_inet6 h4 h6 (by omega) out) (decDigits_ne_nil _) hportBack]
  · -- an IPv4 address: printed bare, cut at the port's `:`
    have h4 : inetPton .inet a.ip = true :=
      hip.resolve_right fun h6 => hcolon (htexts.inet6_colon h6)
    have hlen := htexts.inet_length h4
    have hhead : a.ip.head? ≠ some '[' := fun h =>
      htexts.not_mem_inet (by decide) h4 (List.mem_of_mem_head? h)
    rw [xsanSocketAddressToString, if_neg (by omega), if_neg hcolon, Option.map_some,
      xsanSnprintfSafe_of_lt (by simp only [List.length_cons, List.length_append]; omega),
      xsanSocketStringToAddress_eq_ok (addressSplit_lastColon hhead hcolonPort (by omega))
        (addressIp_inet h4 (by unfold inetAddrstrlen; omega) out) (decDigits_ne_nil _) hportBack]

theorem address_string_round_trip_ipv6 :
    Texts posixInetPton ∧
      (posixInetPton .inet "2001:db8::1".toList = true ∨ posixInetPton .inet6 "2001:db8::1".toList = true) ∧
      (1 ≤ 4420 ∧ 4420 ≤ 65535) ∧ inet6Addrstrlen + 8 ≤ 54 ∧
      (xsanSocketAddressToString ⟨"2001:db8::1".toList, 4420⟩ [] 54).map
          (fun s => xsanSocketStringToAddress posixInetPton s ⟨[], 0⟩) =
        some (xsanOk, ⟨"2001:db8::1".toList, 4420⟩) :=
  ⟨texts_posixInetPton, .inr (by decide), ⟨by decide, by decide⟩, by decide,
    address_string_round_trip (a := ⟨"2001:db8::1".toList, 4420⟩) texts_posixInetPton (.inr (by decide))
      ⟨by decide, by decide⟩ (by decide) [] ⟨[], 0⟩⟩

end Xsan
