/-
Tables whose entries declare lists of keys.  When no key is declared twice, a
key names at most one entry, and a first-match lookup depends only on the set
of entries, not on their order.  `Fresh` is the loop invariant of a checker
that inserts keys one by one into a set and stops at the first repetition.
-/
import Mathlib.Data.List.Nodup
import Mathlib.Data.List.Perm.Basic

universe u v

namespace RoutingTable

variable {F : Type u} {K : Type v}

/-- `keys` can be inserted one after the other into `seen` without meeting a
key already there. -/
def Fresh (seen keys : List K) : Prop := keys.Nodup ∧ keys.Disjoint seen

@[simp] theorem fresh_nil (seen : List K) : Fresh seen [] := by
  simp [Fresh]

theorem fresh_empty_iff {keys : List K} : Fresh [] keys ↔ keys.Nodup := by
  simp [Fresh]

theorem fresh_cons {seen keys : List K} {key : K} :
    Fresh seen (key :: keys) ↔ key ∉ seen ∧ Fresh (key :: seen) keys := by
  simp only [Fresh, List.nodup_cons, List.disjoint_cons_left,
    List.disjoint_cons_right]
  constructor
  · rintro ⟨⟨hkey, hnodup⟩, hseen, hdisjoint⟩
    exact ⟨hseen, hnodup, hkey, hdisjoint⟩
  · rintro ⟨hseen, hnodup, hkey, hdisjoint⟩
    exact ⟨⟨hkey, hnodup⟩, hseen, hdisjoint⟩

theorem fresh_append {seen left right : List K} :
    Fresh seen (left ++ right) ↔
      Fresh seen left ∧ Fresh (left.reverse ++ seen) right := by
  induction left generalizing seen with
  | nil => simp
  | cons key left ih =>
      rw [List.cons_append, fresh_cons, ih, fresh_cons, List.reverse_cons,
        List.append_assoc, List.singleton_append, and_assoc]

section Unambiguous

variable (keys : F → List K)

/-- No key is declared twice, across entries or inside one. -/
def Unambiguous (entries : List F) : Prop := (entries.flatMap keys).Nodup

variable {keys}

theorem Unambiguous.perm {entries entries' : List F}
    (hunique : Unambiguous keys entries) (hperm : entries.Perm entries') :
    Unambiguous keys entries' :=
  (hperm.flatMap_right keys).nodup_iff.mp hunique

/-- Two entries of an unambiguous table that share a key are the same. -/
theorem Unambiguous.eq_of_mem {entries : List F}
    (hunique : Unambiguous keys entries) {left right : F} {key : K}
    (hleft : left ∈ entries) (hright : right ∈ entries)
    (hkeyLeft : key ∈ keys left) (hkeyRight : key ∈ keys right) :
    left = right := by
  induction entries with
  | nil => simp at hleft
  | cons entry rest ih =>
      rw [Unambiguous, List.flatMap_cons, List.nodup_append'] at hunique
      obtain ⟨-, hrest, hdisjoint⟩ := hunique
      have hclash : ∀ other ∈ rest, key ∈ keys other → key ∉ keys entry := by
        intro other hother hkey hentry
        exact hdisjoint hentry (List.mem_flatMap.mpr ⟨other, hother, hkey⟩)
      rw [List.mem_cons] at hleft hright
      rcases hleft with rfl | hleft
      · rcases hright with rfl | hright
        · rfl
        · exact absurd hkeyLeft (hclash right hright hkeyRight)
      · rcases hright with rfl | hright
        · exact absurd hkeyRight (hclash left hleft hkeyLeft)
        · exact ih hrest hleft hright

end Unambiguous

variable [DecidableEq K] (keys : F → List K)

/-- The first entry that declares `key`. -/
def lookup (key : K) (entries : List F) : Option F :=
  entries.find? fun entry => decide (key ∈ keys entry)

variable {keys}

theorem lookup_eq_none_iff {key : K} {entries : List F} :
    lookup keys key entries = none ↔ ∀ entry ∈ entries, key ∉ keys entry := by
  simp [lookup, List.find?_eq_none]

/-- In an unambiguous table a lookup finds an entry exactly when the entry
declares the key. -/
theorem Unambiguous.lookup_eq_some_iff {entries : List F}
    (hunique : Unambiguous keys entries) {key : K} {entry : F} :
    lookup keys key entries = some entry ↔
      entry ∈ entries ∧ key ∈ keys entry := by
  constructor
  · intro hfound
    exact ⟨List.mem_of_find?_eq_some hfound, by
      simpa using List.find?_some hfound⟩
  · rintro ⟨hmem, hkey⟩
    cases hfound : lookup keys key entries with
    | none => exact absurd hkey (lookup_eq_none_iff.mp hfound entry hmem)
    | some other =>
        have hother : other ∈ entries := List.mem_of_find?_eq_some hfound
        have hkeyOther : key ∈ keys other := by
          simpa using List.find?_some hfound
        rw [hunique.eq_of_mem hother hmem hkeyOther hkey]

/-- Registration order does not matter to an unambiguous table. -/
theorem Unambiguous.lookup_perm {entries entries' : List F}
    (hunique : Unambiguous keys entries) (hperm : entries.Perm entries')
    (key : K) : lookup keys key entries = lookup keys key entries' := by
  cases hfound : lookup keys key entries' with
  | none =>
      rw [lookup_eq_none_iff] at hfound ⊢
      intro entry hentry
      exact hfound entry (hperm.mem_iff.mp hentry)
  | some entry =>
      rw [(hunique.perm hperm).lookup_eq_some_iff] at hfound
      rw [hunique.lookup_eq_some_iff]
      exact ⟨hperm.mem_iff.mpr hfound.1, hfound.2⟩

end RoutingTable
