/-
Partial stages applied one after the other to an item, and a batch of items
taken through them.  The first stage that fails ends the pass of its item, and
the first item that fails ends the batch.  A pass runs to the end when no stage
undoes what an earlier stage has settled.
-/
import Mathlib.Data.List.Forall2
import Mathlib.Tactic.Common

universe u v w

namespace Pass

variable {ε α : Type u} {β : Type v} {σ : Type w}

section Stages

variable {act : α → σ → Except ε α} {stages : List σ} {item result : α}

/-- What each stage keeps, the pass keeps. -/
theorem foldlM_keeps {Holds : α → Prop}
    (hkeep : ∀ stage ∈ stages, ∀ a b, Holds a → act a stage = .ok b → Holds b)
    (hitem : Holds item) (hpass : stages.foldlM act item = .ok result) :
    Holds result := by
  induction stages generalizing item with
  | nil =>
      cases hpass
      exact hitem
  | cons stage rest ih =>
      rw [List.foldlM_cons] at hpass
      cases hstage : act item stage with
      | error error => rw [hstage] at hpass; cases hpass
      | ok next =>
          rw [hstage] at hpass
          apply ih (fun other hother => hkeep other (by simp [hother]))
          · exact hkeep stage (by simp) item next hitem hstage
          · exact hpass

/-- A pass settles every stage when each stage settles itself and keeps the
earlier ones settled. -/
theorem foldlM_settles {Settled : σ → α → Prop}
    (hown : ∀ stage ∈ stages, ∀ a b, act a stage = .ok b → Settled stage b)
    (hlater : stages.Pairwise fun earlier later =>
      ∀ a b, Settled earlier a → act a later = .ok b → Settled earlier b)
    (hpass : stages.foldlM act item = .ok result) :
    ∀ stage ∈ stages, Settled stage result := by
  induction stages generalizing item with
  | nil => simp
  | cons stage rest ih =>
      rw [List.pairwise_cons] at hlater
      rw [List.foldlM_cons] at hpass
      cases hstage : act item stage with
      | error error => rw [hstage] at hpass; cases hpass
      | ok next =>
          rw [hstage] at hpass
          rw [List.forall_mem_cons]
          constructor
          · exact foldlM_keeps (fun later hmem => hlater.1 later hmem)
              (hown stage (by simp) item next hstage) hpass
          · exact ih (fun other hother => hown other (by simp [hother])) hlater.2 hpass

/-- An item that every stage leaves alone comes out as it went in. -/
theorem foldlM_fixed (hfixed : ∀ stage ∈ stages, act item stage = .ok item) :
    stages.foldlM act item = .ok item := by
  induction stages with
  | nil => rfl
  | cons stage rest ih =>
      rw [List.foldlM_cons, hfixed stage (by simp)]
      exact ih fun other hother => hfixed other (by simp [hother])

/-- A pass fails with the error of the first stage that fails. -/
theorem foldlM_eq_error_iff {error : ε} :
    stages.foldlM act item = .error error ↔
      ∃ before stage after middle, stages = before ++ stage :: after ∧
        before.foldlM act item = .ok middle ∧ act middle stage = .error error := by
  constructor
  · intro hpass
    induction stages generalizing item with
    | nil => cases hpass
    | cons stage rest ih =>
        rw [List.foldlM_cons] at hpass
        cases hstage : act item stage with
        | error error' =>
            rw [hstage] at hpass
            cases hpass
            exact ⟨[], stage, rest, item, rfl, rfl, hstage⟩
        | ok next =>
            rw [hstage] at hpass
            obtain ⟨before, bad, after, middle, rfl, hbefore, hbad⟩ := ih hpass
            refine ⟨stage :: before, bad, after, middle, rfl, ?_, hbad⟩
            rw [List.foldlM_cons, hstage]
            exact hbefore
  · rintro ⟨before, stage, after, middle, rfl, hbefore, hbad⟩
    rw [List.foldlM_append, hbefore]
    change (stage :: after).foldlM act middle = _
    rw [List.foldlM_cons, hbad]
    rfl

end Stages

section Batch

variable {ε α : Type u} {β : Type v} {f : β → Except ε α} {batch : List β}

/-- A batch goes through item by item. -/
theorem mapM_eq_ok_iff {results : List α} :
    batch.mapM f = .ok results ↔
      List.Forall₂ (fun item result => f item = .ok result) batch results := by
  constructor
  · intro hbatch
    induction batch generalizing results with
    | nil => cases hbatch; exact .nil
    | cons item rest ih =>
        rw [List.mapM_cons] at hbatch
        cases hitem : f item with
        | error error => rw [hitem] at hbatch; cases hbatch
        | ok first =>
            rw [hitem] at hbatch
            cases hrest : rest.mapM f with
            | error error => rw [hrest] at hbatch; cases hbatch
            | ok others =>
                rw [hrest] at hbatch
                cases hbatch
                exact .cons hitem (ih hrest)
  · intro hpairs
    induction hpairs with
    | nil => rfl
    | cons hitem hrest ih =>
        rw [List.mapM_cons, hitem, ih]
        rfl

/-- Every result of a batch is the result of an item. -/
theorem exists_of_mem_mapM {results : List α} (hbatch : batch.mapM f = .ok results)
    {result : α} (hmem : result ∈ results) : ∃ item ∈ batch, f item = .ok result := by
  have hpairs := mapM_eq_ok_iff.mp hbatch
  induction hpairs with
  | nil => cases hmem
  | cons hitem hrest ih =>
      rcases List.mem_cons.mp hmem with rfl | hmem
      · exact ⟨_, by simp, hitem⟩
      · obtain ⟨other, hother, hresult⟩ := ih (mapM_eq_ok_iff.mpr hrest) hmem
        exact ⟨other, by simp [hother], hresult⟩

/-- A batch fails with the error of its first item that fails. -/
theorem mapM_eq_error_iff {error : ε} :
    batch.mapM f = .error error ↔
      ∃ before item after, batch = before ++ item :: after ∧
        (∃ done, before.mapM f = .ok done) ∧ f item = .error error := by
  constructor
  · intro hbatch
    induction batch with
    | nil => cases hbatch
    | cons item rest ih =>
        rw [List.mapM_cons] at hbatch
        cases hitem : f item with
        | error error' =>
            rw [hitem] at hbatch
            cases hbatch
            exact ⟨[], item, rest, rfl, ⟨[], rfl⟩, hitem⟩
        | ok first =>
            rw [hitem] at hbatch
            cases hrest : rest.mapM f with
            | ok others => rw [hrest] at hbatch; cases hbatch
            | error error' =>
                rw [hrest] at hbatch
                cases hbatch
                obtain ⟨before, bad, after, rfl, ⟨done, hdone⟩, hbad⟩ := ih hrest
                refine ⟨item :: before, bad, after, rfl, ⟨first :: done, ?_⟩, hbad⟩
                rw [List.mapM_cons, hitem, hdone]
                rfl
  · rintro ⟨before, item, after, rfl, ⟨done, hdone⟩, hbad⟩
    rw [List.mapM_append, hdone, List.mapM_cons, hbad]
    rfl

/-- A batch that every item passes unchanged is returned as it is. -/
theorem mapM_fixed {f : α → Except ε α} {batch : List α}
    (hfixed : ∀ item ∈ batch, f item = .ok item) : batch.mapM f = .ok batch := by
  induction batch with
  | nil => rfl
  | cons item rest ih =>
      rw [List.mapM_cons, hfixed item (by simp),
        ih fun other hother => hfixed other (by simp [hother])]
      rfl

end Batch

end Pass
