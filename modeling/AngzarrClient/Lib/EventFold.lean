/-
Event-sourced state with a partial decoder.  An event is read as nothing, as
an action on the state, or as an error; a replay folds the actions from the
left and stops at the first unreadable event.  Readability does not look at
the state, so whether a replay fails is a fact about the history alone.
-/
import Mathlib.Data.List.Basic

universe u v w x

/-- How events are read, and what the actions read from them do. -/
structure EventFold (ε : Type u) (S : Type v) (E : Type w) (A : Type x) where
  read : E → Except ε (Option A)
  act : S → A → S

namespace EventFold

variable {ε : Type u} {S : Type v} {E : Type w} {A : Type x}
variable (m : EventFold ε S E A)

/-- The replay loop. -/
def replay (state : S) : List E → Except ε S
  | [] => .ok state
  | event :: rest =>
      match m.read event with
      | .error error => .error error
      | .ok none => replay state rest
      | .ok (some action) => replay (m.act state action) rest

def Readable (event : E) : Prop := ∃ reading, m.read event = .ok reading

/-- What one event does to the state; an unreadable one does nothing. -/
def effect (state : S) (event : E) : S :=
  match m.read event with
  | .ok (some action) => m.act state action
  | _ => state

variable {m}

theorem replay_cons_of_readable {event : E} (hread : m.Readable event)
    (state : S) (rest : List E) :
    m.replay state (event :: rest) = m.replay (m.effect state event) rest := by
  obtain ⟨reading, hreading⟩ := hread
  cases reading with
  | none => simp only [replay, effect, hreading]
  | some action => simp only [replay, effect, hreading]

/-- A readable history replays to the left fold of its effects. -/
theorem replay_of_readable {events : List E}
    (hread : ∀ event ∈ events, m.Readable event) (state : S) :
    m.replay state events = .ok (events.foldl m.effect state) := by
  induction events generalizing state with
  | nil => rfl
  | cons event rest ih =>
      rw [replay_cons_of_readable (hread event (by simp)), List.foldl_cons]
      exact ih (fun other hother => hread other (by simp [hother])) _

/-- A replay fails exactly with the error of the first unreadable event. -/
theorem replay_eq_error_iff {state : S} {events : List E} {error : ε} :
    m.replay state events = .error error ↔
      ∃ before event after, events = before ++ event :: after ∧
        (∀ other ∈ before, m.Readable other) ∧ m.read event = .error error := by
  constructor
  · intro hreplay
    induction events generalizing state with
    | nil => cases hreplay
    | cons event rest ih =>
        cases hread : m.read event with
        | error error' =>
            simp only [replay, hread, Except.error.injEq] at hreplay
            exact ⟨[], event, rest, rfl, by simp, by rw [hread, hreplay]⟩
        | ok reading =>
            have hreadable : m.Readable event := ⟨reading, hread⟩
            rw [replay_cons_of_readable hreadable] at hreplay
            obtain ⟨before, bad, after, rfl, hbefore, hbad⟩ := ih hreplay
            refine ⟨event :: before, bad, after, rfl, ?_, hbad⟩
            intro other hother
            rcases List.mem_cons.mp hother with rfl | hother
            · exact hreadable
            · exact hbefore other hother
  · rintro ⟨before, event, after, rfl, hbefore, herror⟩
    induction before generalizing state with
    | nil => simp [replay, herror]
    | cons other before ih =>
        rw [List.cons_append, replay_cons_of_readable (hbefore other (by simp))]
        exact ih fun next hnext => hbefore next (by simp [hnext])

theorem replay_eq_ok_iff {state final : S} {events : List E} :
    m.replay state events = .ok final ↔
      (∀ event ∈ events, m.Readable event) ∧
        events.foldl m.effect state = final := by
  constructor
  · intro hreplay
    have hread : ∀ event ∈ events, m.Readable event := by
      induction events generalizing state with
      | nil => simp
      | cons event rest ih =>
          cases hread : m.read event with
          | error error => simp [replay, hread] at hreplay
          | ok reading =>
              have hreadable : m.Readable event := ⟨reading, hread⟩
              rw [replay_cons_of_readable hreadable] at hreplay
              intro other hother
              rcases List.mem_cons.mp hother with rfl | hother
              · exact hreadable
              · exact ih hreplay other hother
    rw [replay_of_readable hread, Except.ok.injEq] at hreplay
    exact ⟨hread, hreplay⟩
  · rintro ⟨hread, rfl⟩
    exact replay_of_readable hread state

/-- A replay of a history fails from every start state or from none. -/
theorem replay_fails_iff {state : S} {events : List E} :
    (∃ error, m.replay state events = .error error) ↔
      ∃ event ∈ events, ¬m.Readable event := by
  constructor
  · rintro ⟨error, herror⟩
    obtain ⟨before, event, after, rfl, -, hbad⟩ := replay_eq_error_iff.mp herror
    refine ⟨event, by simp, ?_⟩
    rintro ⟨reading, hreading⟩
    rw [hbad] at hreading
    cases hreading
  · rintro ⟨event, hmem, hbad⟩
    cases hreplay : m.replay state events with
    | error error => exact ⟨error, rfl⟩
    | ok final => exact absurd ((replay_eq_ok_iff.mp hreplay).1 event hmem) hbad

/-- Replaying a longer history continues from the state the shorter reaches. -/
theorem replay_append (state : S) (before after : List E) :
    m.replay state (before ++ after) =
      (m.replay state before).bind fun middle => m.replay middle after := by
  induction before generalizing state with
  | nil => rfl
  | cons event rest ih =>
      cases hread : m.read event with
      | error error => simp [replay, hread, Except.bind]
      | ok reading =>
          have hreadable : m.Readable event := ⟨reading, hread⟩
          rw [List.cons_append, replay_cons_of_readable hreadable,
            replay_cons_of_readable hreadable]
          exact ih _

end EventFold
