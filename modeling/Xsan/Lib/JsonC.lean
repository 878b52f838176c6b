import Mathlib

/-!
# json-c objects

The part of json-c's object API that C code uses to build a JSON document
and to read one back: the constructors `json_object_new_*`,
`json_object_object_add` and `json_object_array_add`, the getters, and the
text form (`json_object_to_json_string_ext`, `json_tokener_parse`).

json-c is not part of a program that calls it, so its API is a parameter,
`Api J`, over a type `J` of objects, and what the program may rely on is a
separate hypothesis, `Api.Laws`: a getter reads back what the matching
constructor was given, `json_object_object_get_ex` finds what
`json_object_object_add` added last under the key, an array holds what
`json_object_array_add` appended, and the text of an object built with the
constructors reads back as that object. `json_object_new_int` takes an
`int32_t` and `json_object_new_int64` an `int64_t`; `newIntCast` and
`newInt64Cast` are the calls with an argument of another integer type, which C
converts.

`model` implements the API over the values of `JsonValue`, with the text form
as a parameter: its getters follow json-c on the types modelled here, except
that `json_object_get_int` and `json_object_get_int64` of a string, where
json-c parses a leading decimal number, give `0`.

Results:
* `objectGetEx_buildObject`, `arrayGetIdx_buildArray`: what an object or an
  array built by a sequence of adds holds.
* `toUnsigned_getInt_newIntCast`, `toUnsigned_getInt64_newInt64Cast`: an
  unsigned field of up to 32 bits written with `json_object_new_int`, or of 64
  bits written with `json_object_new_int64`, and read back with the matching
  getter and a cast to its type, is the value written, above the signed range
  too.
* `model_laws`: `model` meets the laws when its text form reads back every
  value json-c can write.
-/

namespace JsonC

/-! ## The API and what a program may rely on -/

/-- json-c's object API over objects of type `J`: the functions a program
calls to build an object, read it, and turn it into text and back. -/
structure Api (J : Type) where
  /-- `json_object_new_object()`. -/
  newObject : J
  /-- `json_object_new_array()`. -/
  newArray : J
  /-- `json_object_new_string(s)`. -/
  newString : List Char → J
  /-- `json_object_new_int(i)`, of an `int32_t`. -/
  newInt : ℤ → J
  /-- `json_object_new_int64(i)`, of an `int64_t`. -/
  newInt64 : ℤ → J
  /-- `json_object_new_boolean(b)`. -/
  newBoolean : Bool → J
  /-- `json_object_object_add(obj, key, val)`, as the object it leaves. -/
  objectAdd : J → String → J → J
  /-- `json_object_array_add(arr, val)`, as the array it leaves. -/
  arrayAdd : J → J → J
  /-- `json_object_object_get_ex(obj, key, &val)`: `val` when it returns true. -/
  objectGetEx : J → String → Option J
  /-- `json_object_array_length`. -/
  arrayLength : J → ℕ
  /-- `json_object_array_get_idx`; `none` for `NULL`. -/
  arrayGetIdx : J → ℕ → Option J
  /-- `json_object_is_type(obj, json_type_object)`. -/
  isObject : J → Bool
  /-- `json_object_is_type(obj, json_type_array)`. -/
  isArray : J → Bool
  /-- `json_object_is_type(obj, json_type_string)`. -/
  isString : J → Bool
  /-- `json_object_get_int`. -/
  getInt : J → ℤ
  /-- `json_object_get_int64`. -/
  getInt64 : J → ℤ
  /-- `json_object_get_boolean`. -/
  getBoolean : J → Bool
  /-- `json_object_get_string`. -/
  getString : J → List Char
  /-- `json_object_to_json_string_ext(obj, JSON_C_TO_STRING_PLAIN)`. -/
  toJsonString : J → List Char
  /-- `json_tokener_parse`; `none` for `NULL` or an error object. -/
  tokenerParse : List Char → Option J

variable {J : Type}

namespace Api

variable (api : Api J)

/-- The objects a program builds with the constructors: C strings, which hold
no NUL, as strings and keys, and integers within the constructor's type. -/
inductive Built : J → Prop
  | newString {s : List Char} : '\x00' ∉ s → Built (api.newString s)
  | newInt {i : ℤ} : -2 ^ 31 ≤ i → i < 2 ^ 31 → Built (api.newInt i)
  | newInt64 {i : ℤ} : -2 ^ 63 ≤ i → i < 2 ^ 63 → Built (api.newInt64 i)
  | newBoolean (b : Bool) : Built (api.newBoolean b)
  | newObject : Built api.newObject
  | newArray : Built api.newArray
  | objectAdd {j v : J} {k : String} :
      Built j → '\x00' ∉ k.toList → Built v → Built (api.objectAdd j k v)
  | arrayAdd {a v : J} : Built a → Built v → Built (api.arrayAdd a v)

/-- What a program may rely on from json-c. -/
structure Laws : Prop where
  getString_newString : ∀ s, '\x00' ∉ s → api.getString (api.newString s) = s
  isString_newString : ∀ s, api.isString (api.newString s) = true
  getInt_newInt : ∀ i, -2 ^ 31 ≤ i → i < 2 ^ 31 → api.getInt (api.newInt i) = i
  getInt64_newInt64 : ∀ i, -2 ^ 63 ≤ i → i < 2 ^ 63 → api.getInt64 (api.newInt64 i) = i
  getBoolean_newBoolean : ∀ b, api.getBoolean (api.newBoolean b) = b
  isObject_newObject : api.isObject api.newObject = true
  isObject_objectAdd : ∀ j k v, api.isObject j = true → api.isObject (api.objectAdd j k v) = true
  objectGetEx_newObject : ∀ k, api.objectGetEx api.newObject k = none
  objectGetEx_objectAdd : ∀ j k v k', api.isObject j = true →
    api.objectGetEx (api.objectAdd j k v) k' = if k' = k then some v else api.objectGetEx j k'
  isArray_newArray : api.isArray api.newArray = true
  isArray_arrayAdd : ∀ a v, api.isArray a = true → api.isArray (api.arrayAdd a v) = true
  arrayLength_newArray : api.arrayLength api.newArray = 0
  arrayGetIdx_newArray : ∀ i, api.arrayGetIdx api.newArray i = none
  arrayLength_arrayAdd : ∀ a v, api.isArray a = true →
    api.arrayLength (api.arrayAdd a v) = api.arrayLength a + 1
  arrayGetIdx_arrayAdd : ∀ a v i, api.isArray a = true →
    api.arrayGetIdx (api.arrayAdd a v) i = if i = api.arrayLength a then some v else api.arrayGetIdx a i
  tokenerParse_toJsonString : ∀ j, Built api j → api.tokenerParse (api.toJsonString j) = some j

/-- `json_object_new_int(i)` with an argument of another integer type, which C
converts to `int32_t`. -/
def newIntCast (i : ℤ) : J := api.newInt (i.bmod (2 ^ 32))

/-- `json_object_new_int64(i)` with an argument of another integer type, which
C converts to `int64_t`. -/
def newInt64Cast (i : ℤ) : J := api.newInt64 (i.bmod (2 ^ 64))

/-- The object built by adding `members` in order to a new object. -/
def buildObject (members : List (String × J)) : J :=
  members.foldl (fun j m => api.objectAdd j m.1 m.2) api.newObject

/-- The array built by appending `items` in order to a new array. -/
def buildArray (items : List J) : J := items.foldl api.arrayAdd api.newArray

end Api

/-! ## Objects and arrays built by a sequence of adds -/

/-- An item appended to a list is found at the old length. -/
theorem getElem?_append_singleton {α : Type} (l : List α) (v : α) (i : ℕ) :
    (l ++ [v])[i]? = if i = l.length then some v else l[i]? := by
  rcases Nat.lt_trichotomy i l.length with hi | rfl | hi
  · rw [if_neg (by omega), List.getElem?_append_left hi]
  · simp
  · rw [if_neg (by omega), List.getElem?_eq_none (by simp; omega), List.getElem?_eq_none (by omega)]

theorem buildArray_concat {api : Api J} (items : List J) (v : J) :
    api.buildArray (items ++ [v]) = api.arrayAdd (api.buildArray items) v := by
  rw [Api.buildArray, List.foldl_append, List.foldl_cons, List.foldl_nil, Api.buildArray]

section Build

variable {api : Api J} (h : api.Laws)
include h

theorem isObject_foldl_objectAdd (ms : List (String × J)) {j : J} (hj : api.isObject j = true) :
    api.isObject (ms.foldl (fun j m => api.objectAdd j m.1 m.2) j) = true := by
  induction ms generalizing j with
  | nil => exact hj
  | cons m ms ih => exact ih (h.isObject_objectAdd _ _ _ hj)

/-- `json_object_object_get_ex` on an object after a sequence of adds finds the
last member added under the key, or else what the object held. Induction on
the members, with the object generalised. -/
theorem objectGetEx_foldl_objectAdd (ms : List (String × J)) {j : J} (hj : api.isObject j = true)
    (k : String) :
    api.objectGetEx (ms.foldl (fun j m => api.objectAdd j m.1 m.2) j) k =
      ((ms.reverse.find? (·.1 = k)).map Prod.snd).or (api.objectGetEx j k) := by
  induction ms generalizing j with
  | nil => rfl
  | cons m ms ih =>
    rw [List.foldl_cons, ih (h.isObject_objectAdd _ _ _ hj), h.objectGetEx_objectAdd _ _ _ _ hj,
      List.reverse_cons, List.find?_append]
    -- the member `m`, added first, is found only when no later one has the key
    cases hfind : ms.reverse.find? (·.1 = k) with
    | some m' => rfl
    | none =>
      by_cases hk : k = m.1
      · simp [hk]
      · simp [hk, Ne.symm hk]

theorem isObject_buildObject (ms : List (String × J)) : api.isObject (api.buildObject ms) = true :=
  isObject_foldl_objectAdd h ms h.isObject_newObject

theorem objectGetEx_buildObject (ms : List (String × J)) (k : String) :
    api.objectGetEx (api.buildObject ms) k = (ms.reverse.find? (·.1 = k)).map Prod.snd := by
  rw [Api.buildObject, objectGetEx_foldl_objectAdd h ms h.isObject_newObject,
    h.objectGetEx_newObject, Option.or_none]

theorem isArray_buildArray (items : List J) : api.isArray (api.buildArray items) = true := by
  induction items using List.reverseRecOn with
  | nil => exact h.isArray_newArray
  | append_singleton items v ih => rw [buildArray_concat, h.isArray_arrayAdd _ _ ih]

theorem arrayLength_buildArray (items : List J) :
    api.arrayLength (api.buildArray items) = items.length := by
  induction items using List.reverseRecOn with
  | nil => exact h.arrayLength_newArray
  | append_singleton items v ih =>
    rw [buildArray_concat, h.arrayLength_arrayAdd _ _ (isArray_buildArray h items), ih,
      List.length_append, List.length_singleton]

/-- An array built by appends holds the items appended, in order, and nothing
past them. Induction on the items from the last one. -/
theorem arrayGetIdx_buildArray (items : List J) (i : ℕ) :
    api.arrayGetIdx (api.buildArray items) i = items[i]? := by
  induction items using List.reverseRecOn with
  | nil => exact h.arrayGetIdx_newArray i
  | append_singleton items v ih =>
    rw [buildArray_concat, h.arrayGetIdx_arrayAdd _ _ _ (isArray_buildArray h items),
      arrayLength_buildArray h, ih, getElem?_append_singleton]

end Build

theorem built_buildObject {api : Api J} {ms : List (String × J)}
    (hkeys : ∀ m ∈ ms, '\x00' ∉ m.1.toList) (hvals : ∀ m ∈ ms, api.Built m.2) :
    api.Built (api.buildObject ms) := by
  rw [Api.buildObject]
  suffices ∀ {j}, api.Built j → api.Built (ms.foldl (fun j m => api.objectAdd j m.1 m.2) j) from
    this .newObject
  induction ms with
  | nil => exact id
  | cons m ms ih =>
    intro j hj
    exact ih (fun m' hm' => hkeys m' (List.mem_cons_of_mem _ hm'))
      (fun m' hm' => hvals m' (List.mem_cons_of_mem _ hm'))
      (.objectAdd hj (hkeys m List.mem_cons_self) (hvals m List.mem_cons_self))

theorem built_buildArray {api : Api J} {items : List J} (hitems : ∀ v ∈ items, api.Built v) :
    api.Built (api.buildArray items) := by
  rw [Api.buildArray]
  suffices ∀ {a}, api.Built a → api.Built (items.foldl api.arrayAdd a) from this .newArray
  induction items with
  | nil => exact id
  | cons v items ih =>
    intro a ha
    exact ih (fun v' hv' => hitems v' (List.mem_cons_of_mem _ hv'))
      (.arrayAdd ha (hitems v (List.mem_cons_self ..)))

/-! ## Unsigned fields through the signed integers -/

/-- C's conversion of an integer to an unsigned type of `bits` bits. -/
def toUnsigned (bits : ℕ) (i : ℤ) : ℕ := (i % 2 ^ bits).toNat

theorem bmod_int32_bounds (i : ℤ) : -2 ^ 31 ≤ i.bmod (2 ^ 32) ∧ i.bmod (2 ^ 32) < 2 ^ 31 := by
  have hlo := Int.le_bmod (x := i) (m := 2 ^ 32) (by norm_num)
  have hhi := Int.bmod_lt (x := i) (m := 2 ^ 32) (by norm_num)
  norm_num at hlo hhi ⊢
  exact ⟨hlo, hhi⟩

theorem bmod_int64_bounds (i : ℤ) : -2 ^ 63 ≤ i.bmod (2 ^ 64) ∧ i.bmod (2 ^ 64) < 2 ^ 63 := by
  have hlo := Int.le_bmod (x := i) (m := 2 ^ 64) (by norm_num)
  have hhi := Int.bmod_lt (x := i) (m := 2 ^ 64) (by norm_num)
  norm_num at hlo hhi ⊢
  exact ⟨hlo, hhi⟩

theorem toUnsigned_natCast {bits x : ℕ} (h : x < 2 ^ bits) : toUnsigned bits x = x := by
  have h' : (x : ℤ) < 2 ^ bits := by exact_mod_cast h
  rw [toUnsigned, Int.emod_eq_of_lt (Int.natCast_nonneg x) h', Int.toNat_natCast]

/-- Converting to a signed type whose width the unsigned one divides loses
nothing the unsigned conversion keeps. -/
theorem toUnsigned_bmod {bits m : ℕ} (hdvd : 2 ^ bits ∣ m) (i : ℤ) :
    toUnsigned bits (i.bmod m) = toUnsigned bits i := by
  have hdvd' : (2 : ℤ) ^ bits ∣ (m : ℤ) := by exact_mod_cast Int.natCast_dvd_natCast.mpr hdvd
  rw [toUnsigned, toUnsigned, ← Int.emod_emod_of_dvd (i.bmod m) hdvd', Int.bmod_emod,
    Int.emod_emod_of_dvd i hdvd']

section Casts

variable {api : Api J} (h : api.Laws)
include h

theorem getInt_newIntCast (i : ℤ) : api.getInt (api.newIntCast i) = i.bmod (2 ^ 32) :=
  h.getInt_newInt _ (bmod_int32_bounds i).1 (bmod_int32_bounds i).2

theorem getInt64_newInt64Cast (i : ℤ) : api.getInt64 (api.newInt64Cast i) = i.bmod (2 ^ 64) :=
  h.getInt64_newInt64 _ (bmod_int64_bounds i).1 (bmod_int64_bounds i).2

/-- A `uint16_t` or `uint32_t` field stored with `json_object_new_int` and read
back with `json_object_get_int` and a cast to its type. -/
theorem toUnsigned_getInt_newIntCast {bits x : ℕ} (hb : bits ≤ 32) (hx : x < 2 ^ bits) :
    toUnsigned bits (api.getInt (api.newIntCast x)) = x := by
  rw [getInt_newIntCast h, toUnsigned_bmod (Nat.pow_dvd_pow 2 hb), toUnsigned_natCast hx]

/-- A `uint64_t` field stored with `json_object_new_int64` and read back with
`json_object_get_int64` and a cast to `uint64_t`. -/
theorem toUnsigned_getInt64_newInt64Cast {x : ℕ} (hx : x < 2 ^ 64) :
    toUnsigned 64 (api.getInt64 (api.newInt64Cast x)) = x := by
  rw [getInt64_newInt64Cast h, toUnsigned_bmod (dvd_refl _), toUnsigned_natCast hx]

/-- An enumerator, or any `int` value below `2 ^ 31`, reads back unchanged. -/
theorem getInt_newIntCast_of_lt {x : ℕ} (hx : x < 2 ^ 31) : api.getInt (api.newIntCast x) = x := by
  have hx' : (x : ℤ) < 2 ^ 31 := by exact_mod_cast hx
  rw [getInt_newIntCast h, Int.bmod_eq_of_le (by omega) (by norm_num; omega)]

end Casts

theorem built_newIntCast {api : Api J} (i : ℤ) : api.Built (api.newIntCast i) :=
  .newInt (bmod_int32_bounds i).1 (bmod_int32_bounds i).2

theorem built_newInt64Cast {api : Api J} (i : ℤ) : api.Built (api.newInt64Cast i) :=
  .newInt64 (bmod_int64_bounds i).1 (bmod_int64_bounds i).2

/-! ## An implementation over JSON values -/

/-- A json-c object (`struct json_object`) of the types C code builds. -/
inductive JsonValue
  | string (s : List Char)
  | int (i : ℤ)
  | boolean (b : Bool)
  | array (items : List JsonValue)
  | object (members : List (String × JsonValue))
deriving Repr

namespace JsonValue

/-- `json_object_new_object()`. -/
def newObject : JsonValue := .object []

/-- `json_object_new_array()`. -/
def newArray : JsonValue := .array []

/-- `json_object_new_string(s)` of a C string. -/
def newString (s : List Char) : JsonValue := .string s

/-- `json_object_new_int(i)`: `i` converted to `int32_t`. -/
def newInt (i : ℤ) : JsonValue := .int (i.bmod (2 ^ 32))

/-- `json_object_new_int64(i)`: `i` converted to `int64_t`. -/
def newInt64 (i : ℤ) : JsonValue := .int (i.bmod (2 ^ 64))

/-- `json_object_new_boolean(b)`. -/
def newBoolean (b : Bool) : JsonValue := .boolean b

/-- `json_object_object_add(obj, key, v)`: the member of that key takes `v`,
or a member is added at the end. -/
def objectAdd : JsonValue → String → JsonValue → JsonValue
  | .object ms, k, v =>
    .object (if k ∈ ms.map Prod.fst then ms.map fun m => if m.1 = k then (k, v) else m
      else ms ++ [(k, v)])
  | j, _, _ => j

/-- `json_object_array_add(arr, v)`. -/
def arrayAdd : JsonValue → JsonValue → JsonValue
  | .array items, v => .array (items ++ [v])
  | j, _ => j

/-- `json_object_object_get_ex(obj, key, &v)`: the value of the member, if
`obj` is an object that has one. -/
def objectGetEx : JsonValue → String → Option JsonValue
  | .object ms, k => (ms.find? (·.1 = k)).map Prod.snd
  | _, _ => none

/-- `json_object_array_length`. -/
def arrayLength : JsonValue → ℕ
  | .array items => items.length
  | _ => 0

/-- `json_object_array_get_idx`. -/
def arrayGetIdx : JsonValue → ℕ → Option JsonValue
  | .array items, i => items[i]?
  | _, _ => none

/-- `json_object_is_type(v, json_type_object)`. -/
def isObject : JsonValue → Bool
  | .object _ => true
  | _ => false

/-- `json_object_is_type(v, json_type_array)`. -/
def isArray : JsonValue → Bool
  | .array _ => true
  | _ => false

/-- `json_object_is_type(v, json_type_string)`. -/
def isString : JsonValue → Bool
  | .string _ => true
  | _ => false

/-- `json_object_get_int`: an integer clamped to the `int32_t` range, a
boolean as `0` or `1`. -/
def getInt : JsonValue → ℤ
  | .int i => max (-2 ^ 31) (min i (2 ^ 31 - 1))
  | .boolean b => if b then 1 else 0
  | _ => 0

/-- `json_object_get_int64`. -/
def getInt64 : JsonValue → ℤ
  | .int i => i
  | .boolean b => if b then 1 else 0
  | _ => 0

/-- `json_object_get_boolean`. -/
def getBoolean : JsonValue → Bool
  | .boolean b => b
  | .int i => i != 0
  | .string s => !s.isEmpty
  | _ => false

/-- `json_object_get_string`: a string's characters; of any other value,
its JSON text, which `print` gives. -/
def getString (print : JsonValue → List Char) : JsonValue → List Char
  | .string s => s
  | j => print j

end JsonValue

open JsonValue

/-- The values json-c writes as text and reads back: strings and keys
without NUL, integers within `int64_t`, and arrays and objects of such. -/
inductive Portable : JsonValue → Prop
  | string {s : List Char} : '\x00' ∉ s → Portable (.string s)
  | int {i : ℤ} : -2 ^ 63 ≤ i → i < 2 ^ 63 → Portable (.int i)
  | boolean (b : Bool) : Portable (.boolean b)
  | array {items : List JsonValue} : (∀ v ∈ items, Portable v) → Portable (.array items)
  | object {members : List (String × JsonValue)} : (∀ m ∈ members, '\x00' ∉ m.1.toList) →
      (∀ m ∈ members, Portable m.2) → Portable (.object members)

/-- json-c's API over JSON values, with the text form `print` and its reading
`parse`. -/
def model (print : JsonValue → List Char) (parse : List Char → Option JsonValue) : Api JsonValue where
  newObject := JsonValue.newObject
  newArray := JsonValue.newArray
  newString := JsonValue.newString
  newInt := JsonValue.newInt
  newInt64 := JsonValue.newInt64
  newBoolean := JsonValue.newBoolean
  objectAdd := JsonValue.objectAdd
  arrayAdd := JsonValue.arrayAdd
  objectGetEx := JsonValue.objectGetEx
  arrayLength := JsonValue.arrayLength
  arrayGetIdx := JsonValue.arrayGetIdx
  isObject := JsonValue.isObject
  isArray := JsonValue.isArray
  isString := JsonValue.isString
  getInt := JsonValue.getInt
  getInt64 := JsonValue.getInt64
  getBoolean := JsonValue.getBoolean
  getString := JsonValue.getString print
  toJsonString := print
  tokenerParse := parse

/-! ## The model meets the laws -/

theorem portable_objectAdd {j : JsonValue} (hj : Portable j) {k : String} (hk : '\x00' ∉ k.toList)
    {v : JsonValue} (hv : Portable v) : Portable (objectAdd j k v) := by
  cases hj with
  | object hkeys hvals =>
    rw [objectAdd]
    split_ifs
    · -- the member of that key is replaced: keys stay, its value becomes `v`
      refine .object ?_ ?_ <;> intro m hm <;> obtain ⟨m', hm', rfl⟩ := List.mem_map.mp hm <;>
        split_ifs with heq
      · exact heq ▸ hkeys m' hm'
      · exact hkeys m' hm'
      · exact hv
      · exact hvals m' hm'
    · refine .object ?_ ?_ <;> intro m hm <;> rcases List.mem_append.mp hm with hm | hm
      · exact hkeys m hm
      · rw [List.mem_singleton.mp hm]; exact hk
      · exact hvals m hm
      · rw [List.mem_singleton.mp hm]; exact hv
  | string h => exact .string h
  | int hlo hhi => exact .int hlo hhi
  | boolean b => exact .boolean b
  | array h => exact .array h

theorem portable_arrayAdd {a : JsonValue} (ha : Portable a) {v : JsonValue} (hv : Portable v) :
    Portable (arrayAdd a v) := by
  cases ha with
  | array h =>
    refine .array fun w hw => ?_
    rcases List.mem_append.mp hw with hw | hw
    · exact h w hw
    · rw [List.mem_singleton.mp hw]; exact hv
  | string h => exact .string h
  | int hlo hhi => exact .int hlo hhi
  | boolean b => exact .boolean b
  | object hkeys hvals => exact .object hkeys hvals

/-- What the constructors build is portable: the integers are within
`int64_t` and the strings and keys C strings. Induction on how the value was
built. -/
theorem portable_of_built {print : JsonValue → List Char} {parse : List Char → Option JsonValue}
    {j : JsonValue} (hj : (model print parse).Built j) : Portable j := by
  induction hj with
  | newString hs => exact .string hs
  | @newInt i hlo hhi =>
    obtain ⟨hlo', hhi'⟩ := bmod_int32_bounds i
    exact .int (by omega) (by omega)
  | @newInt64 i hlo hhi => exact .int (bmod_int64_bounds i).1 (bmod_int64_bounds i).2
  | newBoolean b => exact .boolean b
  | newObject => exact .object (by simp) (by simp)
  | newArray => exact .array (by simp)
  | objectAdd _ hk _ ihj ihv => exact portable_objectAdd ihj hk ihv
  | arrayAdd _ _ iha ihv => exact portable_arrayAdd iha ihv

/-- Rewriting members without changing their keys keeps which member a key
finds first. -/
theorem find?_map_of_fst {f : String × JsonValue → String × JsonValue} (hf : ∀ m, (f m).1 = m.1)
    (ms : List (String × JsonValue)) (k : String) :
    (ms.map f).find? (fun m => decide (m.1 = k)) = (ms.find? fun m => decide (m.1 = k)).map f := by
  have hp : ((fun m : String × JsonValue => decide (m.1 = k)) ∘ f) = fun m => decide (m.1 = k) := by
    funext m
    simp [Function.comp, hf]
  rw [List.find?_map, hp]

/-- `json_object_object_get_ex` after `json_object_object_add` on an object
of members `ms`: the key added finds its new value, and every other key what
it found before. -/
theorem objectGetEx_objectAdd (ms : List (String × JsonValue)) (k : String) (v : JsonValue)
    (k' : String) :
    objectGetEx (objectAdd (.object ms) k v) k' =
      if k' = k then some v else objectGetEx (.object ms) k' := by
  have hf : ∀ m : String × JsonValue, (if m.1 = k then (k, v) else m).1 = m.1 := fun m => by
    split_ifs with hm
    · exact hm.symm
    · rfl
  simp only [objectAdd, objectGetEx]
  split_ifs with hmem hk hk
  · -- the members of key `k` are replaced, and one of them is found first
    subst hk
    rw [find?_map_of_fst hf]
    obtain ⟨m, hm, hmk⟩ := List.mem_map.mp hmem
    have hsome : (ms.find? fun m => decide (m.1 = k')).isSome :=
      List.find?_isSome.mpr ⟨m, hm, by simpa using hmk⟩
    obtain ⟨m', hm'⟩ := Option.isSome_iff_exists.mp hsome
    have hkey : m'.1 = k' := by simpa using List.find?_some hm'
    rw [hm', Option.map_some, Option.map_some, if_pos hkey]
  · -- every other key finds the member it found before, which is unchanged
    rw [find?_map_of_fst hf]
    cases hfind : ms.find? (fun m => decide (m.1 = k')) with
    | none => rfl
    | some m =>
      have hkey : m.1 = k' := by simpa using List.find?_some hfind
      rw [Option.map_some, Option.map_some, if_neg (hkey ▸ hk)]
      rfl
  · -- a new key: no member has it, and it is appended
    subst hk
    have hnone : ms.find? (fun m => decide (m.1 = k')) = none := by
      rw [List.find?_eq_none]
      intro m hm hmk
      exact hmem (List.mem_map.mpr ⟨m, hm, of_decide_eq_true hmk⟩)
    rw [List.find?_append, hnone]
    simp
  · rw [List.find?_append]
    cases ms.find? (fun m => decide (m.1 = k')) with
    | none => simp [Ne.symm hk]
    | some m => rfl

theorem arrayGetIdx_arrayAdd (items : List JsonValue) (v : JsonValue) (i : ℕ) :
    arrayGetIdx (arrayAdd (.array items) v) i =
      if i = arrayLength (.array items) then some v else arrayGetIdx (.array items) i := by
  simp only [arrayAdd, arrayGetIdx, arrayLength]
  exact getElem?_append_singleton items v i

/-- The model meets the laws, given that its text form reads back every
portable value. -/
theorem model_laws {print : JsonValue → List Char} {parse : List Char → Option JsonValue}
    (hparse : ∀ j, Portable j → parse (print j) = some j) : (model print parse).Laws where
  getString_newString _ _ := rfl
  isString_newString _ := rfl
  getInt_newInt i hlo hhi := by
    have hb : i.bmod (2 ^ 32) = i := Int.bmod_eq_of_le (by norm_num; omega) (by norm_num; omega)
    simp only [model, newInt, getInt, hb]
    omega
  getInt64_newInt64 i hlo hhi := by
    have hb : i.bmod (2 ^ 64) = i := Int.bmod_eq_of_le (by norm_num; omega) (by norm_num; omega)
    simp only [model, newInt64, getInt64, hb]
  getBoolean_newBoolean _ := rfl
  isObject_newObject := rfl
  isObject_objectAdd j k v hj := by
    cases j <;> simp_all [model, isObject, objectAdd]
  objectGetEx_newObject _ := rfl
  objectGetEx_objectAdd j k v k' hj := by
    cases j <;> simp only [model, isObject, Bool.false_eq_true] at hj
    exact objectGetEx_objectAdd _ k v k'
  isArray_newArray := rfl
  isArray_arrayAdd a v ha := by
    cases a <;> simp_all [model, isArray, arrayAdd]
  arrayLength_newArray := rfl
  arrayGetIdx_newArray _ := rfl
  arrayLength_arrayAdd a v ha := by
    cases a <;> simp_all [model, isArray, arrayAdd, arrayLength]
  arrayGetIdx_arrayAdd a v i ha := by
    cases a <;> simp only [model, isArray, Bool.false_eq_true] at ha
    exact arrayGetIdx_arrayAdd _ v i
  tokenerParse_toJsonString j hj := hparse j (portable_of_built hj)

end JsonC
