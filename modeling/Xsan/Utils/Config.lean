import Xsan.Lib.AssocList
import Xsan.Common.Error

/-!
# The configuration store of `utils/config.c`

`xsan_config_t` keeps its items in a singly linked list from `items`
(config.c:48-140, 342-503): `set_config_item` updates the first item with the
key in place, changing its type if need be, or links a new item at the head
and counts it; `xsan_config_remove_key` unlinks the first item with the key;
`xsan_config_clear` drops them all. The typed getters return the item's value
when its type is the one asked for and the caller's default otherwise.

The model keeps the list as an association list (`Xsan.Lib.AssocList`) of
keys and typed values, compared with `strcmp`, which on C strings (lists of
characters without `NUL`) is equality. A `double` is a value of a type `D`
that the store only copies. A string value is `none` where the item holds
`NULL`: the `xsan_strdup` of the value failed after the item was already
linked or retyped. The answers of the three allocations of a set are an input
(`ConfigAlloc`). Null keys and a null `config` are left out; a null string
value, which a set refuses, is `.string none`. The file path, `auto_reload`
and `last_modified` fields are only used by the file functions.

The store stands for the history of calls made on it: `recentSet hist k` is
the value of the most recent set of `k` that took effect since `k` was last
removed or the store cleared.

Main results:
* `setConfigItem_inv`, `removeKey_inv`, `configClear_inv`, `configGet_inv`, `hasKey_inv`:
  each call keeps `ConfigInv` (keys pairwise distinct, `item_count` the
  length of the list, lookups follow the history) and returns what the
  history says.
* `config_store_is_finite_map`: the same over every run from
  `xsan_config_create`.
-/

namespace Xsan

open AssocList

variable {D : Type}

/-- `xsan_config_type_t` (include/xsan_config.h:26-32). -/
inductive XsanConfigType
  | string
  | int
  | long
  | double
  | bool
deriving DecidableEq, Repr

/-- The `type` tag of an item with the union member it selects. `int` and
`long` values are the C `int` and `long` the setters are given. -/
inductive ConfigValue (D : Type)
  | string (s : Option (List Char))
  | int (i : ℤ)
  | long (l : ℤ)
  | double (d : D)
  | bool (b : Bool)

/-- The type tag of a value. -/
def ConfigValue.type : ConfigValue D → XsanConfigType
  | .string _ => .string
  | .int _ => .int
  | .long _ => .long
  | .double _ => .double
  | .bool _ => .bool

/-- `NULL` as the value of a set, which only a string can be. -/
def ConfigValue.isNull : ConfigValue D → Bool
  | .string none => true
  | _ => false

/-- `xsan_config_t` (include/xsan_config.h:49-55): the item list, most recently
added first, and `item_count`. -/
structure XsanConfig (D : Type) where
  items : List (List Char × ConfigValue D)
  itemCount : ℕ

/-- The answers of the allocator to a set: `xsan_malloc` of a new item, the
`xsan_strdup` of its key, and the `xsan_strdup` of a string value. -/
structure ConfigAlloc where
  itemOk : Bool
  keyOk : Bool
  valueOk : Bool
deriving DecidableEq, Repr

/-- Every allocation succeeds. -/
def ConfigAlloc.ok : ConfigAlloc := ⟨true, true, true⟩

/-- `xsan_config_create` (config.c:145-159) once its allocation succeeds. -/
def xsanConfigCreate : XsanConfig D := ⟨[], 0⟩

/-- `find_config_item` (config.c:48-64): the value of the first item with the
key. -/
def findConfigItem (config : XsanConfig D) (key : List Char) : Option (ConfigValue D) :=
  findVal (· = ·) key config.items

/-- The value a set leaves in the item: a string is copied with
`xsan_strdup`, `NULL` when the copy fails. -/
def storedValue (value : ConfigValue D) (alloc : ConfigAlloc) : ConfigValue D :=
  match value with
  | .string _ => if alloc.valueOk then value else .string none
  | _ => value

/-- What a set returns once its item is in place: false only when the copy of
a string value failed. -/
def valueCopied (value : ConfigValue D) (alloc : ConfigAlloc) : Bool :=
  match value with
  | .string _ => alloc.valueOk
  | _ => true

/-- `set_config_item` (config.c:84-140). -/
def setConfigItem (config : XsanConfig D) (key : List Char) (value : ConfigValue D)
    (alloc : ConfigAlloc) : XsanConfig D × Bool :=
  if value.isNull then (config, false)
  else
    match setVal (· = ·) key (storedValue value alloc) config.items with
    | some items => ({ config with items }, valueCopied value alloc)
    | none =>
      -- a new item: allocated, its key copied, then linked at the head
      if !alloc.itemOk then (config, false)
      else if !alloc.keyOk then (config, false)
      else
        ({ items := (key, storedValue value alloc) :: config.items, itemCount := config.itemCount + 1 },
          valueCopied value alloc)

/-- `xsan_config_set_string` (config.c:342-345); `none` is a `NULL` value. -/
def xsanConfigSetString (config : XsanConfig D) (key : List Char) (value : Option (List Char))
    (alloc : ConfigAlloc) : XsanConfig D × Bool :=
  setConfigItem config key (.string value) alloc

/-- `xsan_config_set_int` (config.c:350-353). -/
def xsanConfigSetInt (config : XsanConfig D) (key : List Char) (value : ℤ) (alloc : ConfigAlloc) :
    XsanConfig D × Bool :=
  setConfigItem config key (.int value) alloc

/-- `xsan_config_set_long` (config.c:358-361). -/
def xsanConfigSetLong (config : XsanConfig D) (key : List Char) (value : ℤ) (alloc : ConfigAlloc) :
    XsanConfig D × Bool :=
  setConfigItem config key (.long value) alloc

/-- `xsan_config_set_double` (config.c:366-369). -/
def xsanConfigSetDouble (config : XsanConfig D) (key : List Char) (value : D) (alloc : ConfigAlloc) :
    XsanConfig D × Bool :=
  setConfigItem config key (.double value) alloc

/-- `xsan_config_set_bool` (config.c:374-377). -/
def xsanConfigSetBool (config : XsanConfig D) (key : List Char) (value : Bool) (alloc : ConfigAlloc) :
    XsanConfig D × Bool :=
  setConfigItem config key (.bool value) alloc

/-- The shared body of the typed getters (config.c:382-437): the member
`select` reads when the item has the type it asks for, else the default. -/
def configGet {β : Type} (select : ConfigValue D → Option β) (config : XsanConfig D)
    (key : List Char) (defaultValue : β) : β :=
  ((findConfigItem config key).bind select).getD defaultValue

/-- The union members, each read only under its own tag. -/
def ConfigValue.asString : ConfigValue D → Option (Option (List Char))
  | .string s => some s
  | _ => none

def ConfigValue.asInt : ConfigValue D → Option ℤ
  | .int i => some i
  | _ => none

def ConfigValue.asLong : ConfigValue D → Option ℤ
  | .long l => some l
  | _ => none

def ConfigValue.asDouble : ConfigValue D → Option D
  | .double d => some d
  | _ => none

def ConfigValue.asBool : ConfigValue D → Option Bool
  | .bool b => some b
  | _ => none

/-- `xsan_config_get_string` (config.c:382-389). -/
def xsanConfigGetString (config : XsanConfig D) (key : List Char) (defaultValue : Option (List Char)) :
    Option (List Char) :=
  configGet ConfigValue.asString config key defaultValue

/-- `xsan_config_get_int` (config.c:394-401). -/
def xsanConfigGetInt (config : XsanConfig D) (key : List Char) (defaultValue : ℤ) : ℤ :=
  configGet ConfigValue.asInt config key defaultValue

/-- `xsan_config_get_long` (config.c:406-413). -/
def xsanConfigGetLong (config : XsanConfig D) (key : List Char) (defaultValue : ℤ) : ℤ :=
  configGet ConfigValue.asLong config key defaultValue

/-- `xsan_config_get_double` (config.c:418-425). -/
def xsanConfigGetDouble (config : XsanConfig D) (key : List Char) (defaultValue : D) : D :=
  configGet ConfigValue.asDouble config key defaultValue

/-- `xsan_config_get_bool` (config.c:430-437). -/
def xsanConfigGetBool (config : XsanConfig D) (key : List Char) (defaultValue : Bool) : Bool :=
  configGet ConfigValue.asBool config key defaultValue

/-- `xsan_config_has_key` (config.c:442-445). -/
def xsanConfigHasKey (config : XsanConfig D) (key : List Char) : Bool :=
  (findConfigItem config key).isSome

/-- `xsan_config_remove_key` (config.c:450-475). -/
def xsanConfigRemoveKey (config : XsanConfig D) (key : List Char) : XsanConfig D × Bool :=
  match eraseKey (· = ·) key config.items with
  | some items => ({ items, itemCount := config.itemCount - 1 }, true)
  | none => (config, false)

/-- `xsan_config_clear` (config.c:480-495). -/
def xsanConfigClear (config : XsanConfig D) : XsanConfig D :=
  { config with items := [], itemCount := 0 }

/-- `xsan_config_get_item_count` (config.c:500-503). -/
def xsanConfigGetItemCount (config : XsanConfig D) : ℕ := config.itemCount

/-! ## Calls and the history they make -/

/-- A call on the store. A get names its getter by the type of its default. -/
inductive ConfigCall (D : Type)
  | set (key : List Char) (value : ConfigValue D) (alloc : ConfigAlloc)
  | get (key : List Char) (defaultValue : ConfigValue D)
  | hasKey (key : List Char)
  | removeKey (key : List Char)
  | clear

/-- What a call returns. -/
inductive ConfigOut (D : Type)
  | ok (b : Bool)
  | value (v : ConfigValue D)
  | done

/-- The getter of `defaultValue`'s type, its answer tagged with the type. -/
def xsanConfigGetAs (config : XsanConfig D) (key : List Char) : ConfigValue D → ConfigValue D
  | .string d => .string (xsanConfigGetString config key d)
  | .int d => .int (xsanConfigGetInt config key d)
  | .long d => .long (xsanConfigGetLong config key d)
  | .double d => .double (xsanConfigGetDouble config key d)
  | .bool d => .bool (xsanConfigGetBool config key d)

/-- One call of the code. -/
def configStep (config : XsanConfig D) : ConfigCall D → XsanConfig D × ConfigOut D
  | .set key value alloc =>
    ((setConfigItem config key value alloc).1, .ok (setConfigItem config key value alloc).2)
  | .get key d => (config, .value (xsanConfigGetAs config key d))
  | .hasKey key => (config, .ok (xsanConfigHasKey config key))
  | .removeKey key => ((xsanConfigRemoveKey config key).1, .ok (xsanConfigRemoveKey config key).2)
  | .clear => (xsanConfigClear config, .done)

/-- A run of calls, with what each returned. -/
def configRun (config : XsanConfig D) : List (ConfigCall D) → XsanConfig D × List (ConfigOut D)
  | [] => (config, [])
  | op :: ops =>
    let r := configStep config op
    ((configRun r.1 ops).1, r.2 :: (configRun r.1 ops).2)

/-- Whether a set of `value` takes effect: the value is not `NULL`, and a key
not present needs its item allocated and its key copied. -/
def setTakes (present : Bool) (value : ConfigValue D) (alloc : ConfigAlloc) : Bool :=
  !value.isNull && (present || (alloc.itemOk && alloc.keyOk))

/-- The value of the most recent set of `k` that took effect since `k` was
last removed or the store last cleared, or `none`; `hist` lists the calls
made, most recent first. -/
def recentSet : List (ConfigCall D) → List Char → Option (ConfigValue D)
  | [], _ => none
  | .set k' v alloc :: older, k =>
    if k' = k then
      (if setTakes (recentSet older k).isSome v alloc then some (storedValue v alloc)
        else recentSet older k)
    else recentSet older k
  | .removeKey k' :: older, k => if k' = k then none else recentSet older k
  | .clear :: _, _ => none
  | .get _ _ :: older, k | .hasKey _ :: older, k => recentSet older k

/-- A getter's answer from a value found: the value when it has the type of
the default, the default otherwise. -/
def getAnswer (found : Option (ConfigValue D)) (defaultValue : ConfigValue D) : ConfigValue D :=
  match found with
  | some v => if v.type = defaultValue.type then v else defaultValue
  | none => defaultValue

/-- What a call returns after the history `hist`, as the history says. -/
def configHistResult (hist : List (ConfigCall D)) : ConfigCall D → ConfigOut D
  | .set k v alloc => .ok (setTakes (recentSet hist k).isSome v alloc && valueCopied v alloc)
  | .get k d => .value (getAnswer (recentSet hist k) d)
  | .hasKey k => .ok (recentSet hist k).isSome
  | .removeKey k => .ok (recentSet hist k).isSome
  | .clear => .done

/-- The results of a run as the history says, `hist` being the calls made
before it. -/
def configHistResults (hist : List (ConfigCall D)) : List (ConfigCall D) → List (ConfigOut D)
  | [] => []
  | op :: ops => configHistResult hist op :: configHistResults (op :: hist) ops

/-! ## The invariant -/

/-- The store after the history `hist`: no two items have the same key,
`item_count` is the number of items, and a lookup finds what the history
says. -/
structure ConfigInv (config : XsanConfig D) (hist : List (ConfigCall D)) : Prop where
  distinct : Distinct (· = ·) config.items
  count_eq : config.itemCount = config.items.length
  lookup : ∀ k, findConfigItem config k = recentSet hist k

/-- The call `op` keeps the invariant and returns what the history says. -/
def ConfigStepInv (config : XsanConfig D) (hist : List (ConfigCall D)) (op : ConfigCall D) : Prop :=
  ConfigInv (configStep config op).1 (op :: hist) ∧ (configStep config op).2 = configHistResult hist op

theorem configCreate_inv : ConfigInv (xsanConfigCreate : XsanConfig D) [] :=
  ⟨List.Pairwise.nil, rfl, fun _ => rfl⟩

variable {config : XsanConfig D} {hist : List (ConfigCall D)}

/-- A call that changes neither the store nor any lookup keeps the
invariant. -/
theorem ConfigInv.of_same {hist' : List (ConfigCall D)} (hinv : ConfigInv config hist)
    (hsame : ∀ k, recentSet hist' k = recentSet hist k) : ConfigInv config hist' :=
  ⟨hinv.distinct, hinv.count_eq, fun k => (hinv.lookup k).trans (hsame k).symm⟩

/-- A set whose allocations succeed: the key now finds the value set, every
other key what it found before. -/
theorem findConfigItem_setConfigItem (config : XsanConfig D) (key : List Char) {value : ConfigValue D}
    (hnull : value.isNull = false) (k : List Char) :
    findConfigItem (setConfigItem config key value .ok).1 k =
      if key = k then some value else findConfigItem config k := by
  have hstored : storedValue value .ok = value := by cases value <;> rfl
  unfold setConfigItem
  rw [if_neg (by simp [hnull]), hstored]
  cases h : setVal (· = ·) key value config.items with
  | some items => exact findVal_setVal eq_equivalence h
  | none => exact findVal_cons k key value config.items

/-- A typed getter answers from the value found. -/
theorem xsanConfigGetAs_eq (config : XsanConfig D) (key : List Char) (d : ConfigValue D) :
    xsanConfigGetAs config key d = getAnswer (findConfigItem config key) d := by
  unfold xsanConfigGetAs getAnswer xsanConfigGetString xsanConfigGetInt xsanConfigGetLong
    xsanConfigGetDouble xsanConfigGetBool configGet
  cases findConfigItem config key with
  | none => cases d <;> rfl
  | some v => cases d <;> cases v <;> rfl

theorem configGet_inv (hinv : ConfigInv config hist) (key : List Char) (d : ConfigValue D) :
    ConfigStepInv config hist (.get key d) :=
  ⟨hinv.of_same fun _ => rfl, by simp only [configStep, configHistResult, xsanConfigGetAs_eq, hinv.lookup]⟩

theorem hasKey_inv (hinv : ConfigInv config hist) (key : List Char) :
    ConfigStepInv config hist (.hasKey key) :=
  ⟨hinv.of_same fun _ => rfl, by simp only [configStep, configHistResult, xsanConfigHasKey, hinv.lookup]⟩

theorem configClear_inv : ConfigStepInv config hist .clear :=
  ⟨⟨List.Pairwise.nil, rfl, fun _ => rfl⟩, rfl⟩

theorem removeKey_inv (hinv : ConfigInv config hist) (key : List Char) :
    ConfigStepInv config hist (.removeKey key) := by
  have hstep : configStep config (.removeKey key) =
      ((xsanConfigRemoveKey config key).1, .ok (xsanConfigRemoveKey config key).2) := rfl
  unfold ConfigStepInv
  rw [hstep]
  cases h : eraseKey (· = ·) key config.items with
  | none =>
    -- the key is absent: nothing changes and the history has nothing for it
    have hrm : xsanConfigRemoveKey config key = (config, false) := by rw [xsanConfigRemoveKey, h]
    have habsent : recentSet hist key = none := by
      rw [← hinv.lookup, findConfigItem, ← eraseKey_eq_none_iff]
      exact h
    rw [hrm]
    refine ⟨hinv.of_same fun k => ?_, by simp [configHistResult, habsent]⟩
    by_cases hk : key = k
    · subst hk; simp [recentSet, habsent]
    · simp [recentSet, hk]
  | some items =>
    have hrm : xsanConfigRemoveKey config key = ({ items, itemCount := config.itemCount - 1 }, true) := by
      rw [xsanConfigRemoveKey, h]
    have hpresent : (recentSet hist key).isSome := by
      rw [← hinv.lookup, findConfigItem, Option.isSome_iff_ne_none, ne_eq, ← eraseKey_eq_none_iff, h]
      simp
    have hlen := eraseKey_length h
    rw [hrm]
    refine ⟨⟨distinct_eraseKey hinv.distinct h, ?_, fun k => ?_⟩, by simp [configHistResult, hpresent]⟩
    · rw [hinv.count_eq]
      dsimp only
      omega
    · simp only [findConfigItem, findVal_eraseKey eq_equivalence hinv.distinct h, recentSet]
      split_ifs <;> simp [← hinv.lookup, findConfigItem]

/-- A set that does not take effect leaves every key's history as it was. -/
theorem recentSet_set_of_not_takes {key : List Char} {value : ConfigValue D} {alloc : ConfigAlloc}
    (hnot : setTakes (recentSet hist key).isSome value alloc = false) (k : List Char) :
    recentSet (.set key value alloc :: hist) k = recentSet hist k := by
  by_cases hk : key = k
  · subst hk
    simp [recentSet, hnot]
  · simp [recentSet, hk]

theorem setConfigItem_inv (hinv : ConfigInv config hist) (key : List Char) (value : ConfigValue D)
    (alloc : ConfigAlloc) : ConfigStepInv config hist (.set key value alloc) := by
  have hold : ∀ k, k ≠ key → recentSet (.set key value alloc :: hist) k = recentSet hist k := by
    intro k hk
    simp [recentSet, Ne.symm hk]
  unfold ConfigStepInv configStep
  by_cases hnull : value.isNull = true
  · -- a `NULL` string is refused
    have hnone : setTakes (recentSet hist key).isSome value alloc = false := by
      simp [setTakes, hnull]
    simp only [setConfigItem, hnull, if_true]
    exact ⟨hinv.of_same (recentSet_set_of_not_takes hnone), by simp [configHistResult, hnone]⟩
  · simp only [setConfigItem, hnull, Bool.false_eq_true, if_false]
    cases h : setVal (· = ·) key (storedValue value alloc) config.items with
    | some items =>
      -- the key is present: its item is updated in place
      have hpresent : (recentSet hist key).isSome := by
        rw [← hinv.lookup, findConfigItem, Option.isSome_iff_ne_none, ne_eq, ← setVal_eq_none_iff, h]
        simp
      have htakes : setTakes (recentSet hist key).isSome value alloc = true := by
        simp [setTakes, hnull, hpresent]
      have hkeys := setVal_keys h
      refine ⟨⟨distinct_setVal hinv.distinct h, ?_, fun k => ?_⟩, by simp [configHistResult, htakes]⟩
      · rw [hinv.count_eq, ← List.length_map Prod.fst, ← hkeys, List.length_map]
      · simp only [findConfigItem, findVal_setVal eq_equivalence h]
        by_cases hk : key = k
        · subst hk; simp [recentSet, htakes]
        · rw [if_neg hk, hold k (Ne.symm hk)]
          exact hinv.lookup k
    | none =>
      have habsent : recentSet hist key = none := by
        rw [← hinv.lookup, findConfigItem, ← setVal_eq_none_iff]
        exact h
      by_cases hitem : alloc.itemOk = true
      · by_cases hkey : alloc.keyOk = true
        · -- a new item is linked at the head
          have htakes : setTakes (recentSet hist key).isSome value alloc = true := by
            simp [setTakes, hnull, hitem, hkey]
          simp only [hitem, hkey, Bool.not_true, Bool.false_eq_true, if_false]
          refine ⟨⟨?_, by simp [hinv.count_eq], fun k => ?_⟩, by simp [configHistResult, htakes]⟩
          · refine distinct_cons.mpr ⟨fun e he hke => ?_, hinv.distinct⟩
            have hfind : findVal (· = ·) key config.items = none := by
              rw [← findConfigItem, hinv.lookup, habsent]
            exact findVal_eq_none_iff.mp hfind e he hke.symm
          · simp only [findConfigItem, findVal_cons]
            by_cases hk : key = k
            · subst hk; simp [recentSet, htakes]
            · rw [if_neg hk, hold k (Ne.symm hk)]
              exact hinv.lookup k
        · have hnot : setTakes (recentSet hist key).isSome value alloc = false := by
            simp [setTakes, habsent, hkey]
          simp only [hitem, hkey, Bool.not_true, Bool.not_false, Bool.false_eq_true, if_false, if_true]
          exact ⟨hinv.of_same (recentSet_set_of_not_takes hnot), by simp [configHistResult, hnot]⟩
      · have hnot : setTakes (recentSet hist key).isSome value alloc = false := by
          simp [setTakes, habsent, hitem]
        simp only [hitem, Bool.not_false, if_true]
        exact ⟨hinv.of_same (recentSet_set_of_not_takes hnot), by simp [configHistResult, hnot]⟩

theorem configStep_inv (hinv : ConfigInv config hist) (op : ConfigCall D) : ConfigStepInv config hist op := by
  cases op with
  | set key value alloc => exact setConfigItem_inv hinv key value alloc
  | get key d => exact configGet_inv hinv key d
  | hasKey key => exact hasKey_inv hinv key
  | removeKey key => exact removeKey_inv hinv key
  | clear => exact configClear_inv

/-- A run keeps the invariant and returns what the history says: induction
on the calls, with the history growing by the call just made. -/
theorem configRun_inv (hinv : ConfigInv config hist) (ops : List (ConfigCall D)) :
    ConfigInv (configRun config ops).1 (ops.reverse ++ hist) ∧
      (configRun config ops).2 = configHistResults hist ops := by
  induction ops generalizing config hist with
  | nil => exact ⟨hinv, rfl⟩
  | cons op ops ih =>
    obtain ⟨hinv', hout⟩ := configStep_inv hinv op
    obtain ⟨hrest, hres⟩ := ih hinv'
    have hhist : (op :: ops).reverse ++ hist = ops.reverse ++ op :: hist := by simp
    refine ⟨hhist ▸ hrest, ?_⟩
    simp only [configRun, configHistResults, hout, hres]

/-- The configuration store is a finite map over the history of calls: after
every sequence of sets, gets, `has_key`, `remove_key` and clears from
`xsan_config_create`, the keys are pairwise distinct, `item_count` is the
number of items, every lookup finds the most recent effective set of the key
since it was last removed or the store cleared, and every call returned what
that history says: a getter the value of that set when it has the getter's
type and the default otherwise, `has_key` and `remove_key` whether the key was
present. -/
theorem config_store_is_finite_map (ops : List (ConfigCall D)) :
    Distinct (· = ·) (configRun xsanConfigCreate ops).1.items ∧
      (configRun xsanConfigCreate ops).1.itemCount = (configRun xsanConfigCreate ops).1.items.length ∧
      (∀ k, findConfigItem (configRun xsanConfigCreate ops).1 k = recentSet ops.reverse k) ∧
      (configRun xsanConfigCreate ops).2 = configHistResults [] ops := by
  obtain ⟨hinv, hres⟩ := configRun_inv configCreate_inv ops
  rw [List.append_nil] at hinv
  exact ⟨hinv.distinct, hinv.count_eq, hinv.lookup, hres⟩

end Xsan
