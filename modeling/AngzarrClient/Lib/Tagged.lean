/-
Sequences of entries that several owners contribute to, each entry tagged with
its owner.  The part of one owner is read off the whole sequence; when every
owner is visited once a round, in the order of a list, that part is what the
owner contributes on its own.
-/
import Mathlib.Data.List.Basic
import Mathlib.Tactic.Common

universe u v w

namespace Tagged

variable {β : Type u} {γ : Type v} {σ : Type w}

/-- Tag a sequence with its owner. -/
def tag (owner : Nat) (entries : List β) : List (Nat × β) :=
  entries.map fun entry => (owner, entry)

/-- The part of a tagged sequence that belongs to one owner. -/
def ownedBy (owner : Nat) (entries : List (Nat × β)) : List β :=
  entries.filterMap fun entry => if entry.1 = owner then some entry.2 else none

@[simp] theorem ownedBy_nil (owner : Nat) :
    ownedBy owner ([] : List (Nat × β)) = [] := rfl

theorem ownedBy_append (owner : Nat) (left right : List (Nat × β)) :
    ownedBy owner (left ++ right) = ownedBy owner left ++ ownedBy owner right :=
  List.filterMap_append

theorem ownedBy_flatMap (owner : Nat) (rounds : List γ) (f : γ → List (Nat × β)) :
    ownedBy owner (rounds.flatMap f) = rounds.flatMap fun x => ownedBy owner (f x) := by
  induction rounds with
  | nil => rfl
  | cons x rest ih => rw [List.flatMap_cons, ownedBy_append, ih, List.flatMap_cons]

@[simp] theorem ownedBy_tag_self (owner : Nat) (entries : List β) :
    ownedBy owner (tag owner entries) = entries := by
  induction entries with
  | nil => rfl
  | cons entry rest ih => simp [tag, ownedBy]

theorem ownedBy_tag_of_ne {owner other : Nat} (hne : other ≠ owner) (entries : List β) :
    ownedBy owner (tag other entries) = [] := by
  induction entries with
  | nil => rfl
  | cons entry rest ih => simp [tag, ownedBy, hne]

/-- One round over the chosen items of a numbered list: each owner gets its own
contribution, and an item that is not chosen gets nothing. -/
theorem ownedBy_round (items : List σ) (chosen : σ → Bool) (f : σ → List β)
    (start index : Nat) :
    ownedBy (start + index)
        (((items.zipIdx start).filter fun item => chosen item.1).flatMap fun item =>
          tag item.2 (f item.1)) =
      match items[index]? with
      | some item => if chosen item then f item else []
      | none => [] := by
  induction items generalizing start index with
  | nil => rfl
  | cons item rest ih =>
      have hhead : ownedBy (start + index)
          (((item :: rest).zipIdx start |>.filter fun item => chosen item.1).flatMap
            fun item => tag item.2 (f item.1)) =
          (if chosen item then ownedBy (start + index) (tag start (f item)) else []) ++
            ownedBy (start + index)
              (((rest.zipIdx (start + 1)).filter fun item => chosen item.1).flatMap
                fun item => tag item.2 (f item.1)) := by
        rw [List.zipIdx_cons, List.filter_cons]
        split
        · rw [List.flatMap_cons, ownedBy_append]
        · rfl
      rw [hhead]
      cases index with
      | zero =>
          -- the later items have greater numbers
          have hrest : ∀ entry ∈ (rest.zipIdx (start + 1)).filter
              (fun item => chosen item.1), entry.2 ≠ start + 0 := by
            intro entry hmem
            have hle := List.le_snd_of_mem_zipIdx (List.mem_of_mem_filter hmem)
            omega
          rw [ownedBy_flatMap]
          have hnone : ((rest.zipIdx (start + 1)).filter
              (fun item => chosen item.1)).flatMap
                (fun item => ownedBy (start + 0) (tag item.2 (f item.1))) = [] := by
            rw [List.flatMap_eq_nil_iff]
            intro entry hmem
            exact ownedBy_tag_of_ne (hrest entry hmem) _
          rw [hnone, List.append_nil]
          split <;> simp_all
      | succ index =>
          have hstep : start + (index + 1) = start + 1 + index := by omega
          rw [hstep, ih, ownedBy_tag_of_ne (by omega)]
          simp

end Tagged
