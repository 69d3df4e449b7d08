/-
Maps that keep their keys in insertion order, as an interface with laws and as
lists of pairs that satisfy them.  A map collected from pairs holds the last value
of every key, and the keys in the order they came first.
-/
import AngzarrClient.Lib.FirstSeen

universe u v w

/-- An insertion-ordered map. -/
class OrderedMap (μ : Type u) (κ : outParam (Type v)) (α : outParam (Type w)) where
  empty : μ
  insert : μ → κ → α → μ
  get? : μ → κ → Option α
  keys : μ → List κ

/-- Inserting at a key that is there replaces its value and keeps its place; a new
key goes last. -/
class LawfulOrderedMap (μ : Type u) {κ : Type v} {α : Type w} [DecidableEq κ]
    [OrderedMap μ κ α] : Prop where
  get?_empty : ∀ key : κ, OrderedMap.get? (OrderedMap.empty : μ) key = none
  get?_insert : ∀ (map : μ) (key : κ) (value : α) (other : κ),
    OrderedMap.get? (OrderedMap.insert map key value) other =
      if key = other then some value else OrderedMap.get? map other
  keys_empty : OrderedMap.keys (OrderedMap.empty : μ) = []
  keys_insert : ∀ (map : μ) (key : κ) (value : α),
    OrderedMap.keys (OrderedMap.insert map key value) =
      FirstSeen.push (OrderedMap.keys map) key

namespace OrderedMap

variable {μ : Type u} {κ : Type v} {α : Type w}

/-- Insert pair after pair into the empty map. -/
def collect [OrderedMap μ κ α] (pairs : List (κ × α)) : μ :=
  pairs.foldl (fun map pair => insert map pair.1 pair.2) empty

theorem collect_concat [OrderedMap μ κ α] (pairs : List (κ × α)) (pair : κ × α) :
    (collect (pairs ++ [pair]) : μ) = insert (collect pairs) pair.1 pair.2 := by
  rw [collect, List.foldl_append]
  rfl

variable [DecidableEq κ]

/-- The value of the last pair for `key`. -/
def lastValue (key : κ) (pairs : List (κ × α)) : Option α :=
  (pairs.filter fun pair => pair.1 = key).getLast?.map Prod.snd

theorem lastValue_concat (key : κ) (pairs : List (κ × α)) (pair : κ × α) :
    lastValue key (pairs ++ [pair]) =
      if pair.1 = key then some pair.2 else lastValue key pairs := by
  rw [lastValue, List.filter_append]
  split
  · rename_i hkey
    simp [hkey]
  · rename_i hkey
    simp [hkey, lastValue]

theorem isSome_lastValue_iff {key : κ} {pairs : List (κ × α)} :
    (lastValue key pairs).isSome ↔ key ∈ pairs.map Prod.fst := by
  simp [lastValue]

variable [OrderedMap μ κ α] [LawfulOrderedMap μ]

theorem get?_collect (pairs : List (κ × α)) (key : κ) :
    get? (collect pairs : μ) key = lastValue key pairs := by
  induction pairs using List.reverseRecOn with
  | nil => exact LawfulOrderedMap.get?_empty key
  | append_singleton pairs pair ih =>
      rw [collect_concat, LawfulOrderedMap.get?_insert, ih, lastValue_concat]

theorem keys_collect (pairs : List (κ × α)) :
    keys (collect pairs : μ) = (pairs.map Prod.fst).eraseDups := by
  induction pairs using List.reverseRecOn with
  | nil => exact LawfulOrderedMap.keys_empty
  | append_singleton pairs pair ih =>
      rw [collect_concat, LawfulOrderedMap.keys_insert, ih, List.map_append,
        ← FirstSeen.eraseDups_concat]
      rfl

end OrderedMap

/-- Pairs with distinct keys. -/
structure PairMap (κ : Type v) (α : Type w) where
  entries : List (κ × α)
  nodup : (entries.map Prod.fst).Nodup

namespace PairMap

variable {κ : Type v} {α : Type w} [DecidableEq κ]

/-- Put `value` where `key` is. -/
def replace (key : κ) (value : α) (entry : κ × α) : κ × α :=
  if entry.1 = key then (key, value) else entry

@[simp] theorem fst_replace (key : κ) (value : α) (entry : κ × α) :
    (replace key value entry).1 = entry.1 := by
  rw [replace]
  split
  · rename_i hkey
    exact hkey.symm
  · rfl

theorem map_fst_replace (key : κ) (value : α) (entries : List (κ × α)) :
    (entries.map (replace key value)).map Prod.fst = entries.map Prod.fst := by
  simp

def insert (map : PairMap κ α) (key : κ) (value : α) : PairMap κ α :=
  if hkey : key ∈ map.entries.map Prod.fst then
    ⟨map.entries.map (replace key value), by
      rw [map_fst_replace]
      exact map.nodup⟩
  else
    ⟨map.entries ++ [(key, value)], by
      rw [List.map_append, List.map_singleton, ← List.concat_eq_append]
      exact map.nodup.concat hkey⟩

def get? (map : PairMap κ α) (key : κ) : Option α :=
  (map.entries.find? fun entry => entry.1 = key).map Prod.snd

instance : OrderedMap (PairMap κ α) κ α where
  empty := ⟨[], List.nodup_nil⟩
  insert := insert
  get? := get?
  keys map := map.entries.map Prod.fst

/-- A key that is not there is not found. -/
theorem find?_eq_none_of_not_mem {entries : List (κ × α)} {key : κ}
    (hkey : key ∉ entries.map Prod.fst) :
    (entries.find? fun entry => entry.1 = key) = none := by
  rw [List.find?_eq_none]
  intro entry hentry hfst
  exact hkey (List.mem_map.mpr ⟨entry, hentry, of_decide_eq_true hfst⟩)

theorem get?_insert (map : PairMap κ α) (key : κ) (value : α) (other : κ) :
    (map.insert key value).get? other = if key = other then some value else map.get? other := by
  rw [insert]
  split
  · rename_i hkey
    have hpred : (fun entry : κ × α => decide (entry.1 = other)) ∘ replace key value =
        fun entry => decide (entry.1 = other) := by
      funext entry
      simp
    rw [get?, get?, List.find?_map, hpred]
    cases hfound : map.entries.find? (fun entry => entry.1 = other) with
    | none =>
        have hne : key ≠ other := by
          rintro rfl
          obtain ⟨entry, hentry, hfst⟩ := List.mem_map.mp hkey
          exact List.find?_eq_none.mp hfound entry hentry (decide_eq_true hfst)
        rw [if_neg hne]
        rfl
    | some entry =>
        have hother : entry.1 = other := by simpa using List.find?_some hfound
        simp only [Option.map_some, replace, hother, eq_comm (a := other)]
        split
        · rfl
        · rfl
  · rename_i hkey
    rw [get?, get?, List.find?_append]
    by_cases hother : key = other
    · subst hother
      rw [find?_eq_none_of_not_mem hkey, if_pos rfl]
      simp
    · rw [if_neg hother]
      simp [hother]

theorem keys_insert (map : PairMap κ α) (key : κ) (value : α) :
    (map.insert key value).entries.map Prod.fst =
      FirstSeen.push (map.entries.map Prod.fst) key := by
  rw [insert, FirstSeen.push]
  split
  · exact map_fst_replace key value map.entries
  · rw [List.map_append]
    rfl

instance : LawfulOrderedMap (PairMap κ α) where
  get?_empty _ := rfl
  get?_insert := get?_insert
  keys_empty := rfl
  keys_insert := keys_insert

end PairMap
