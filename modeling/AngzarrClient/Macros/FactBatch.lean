/-
Batches of facts.  The generated fact dispatch rebuilds the state once, from the
prior events, and hands that state to every fact of the request: what a fact of
the batch makes the aggregate emit is not seen by the facts after it.
-/
import AngzarrClient.Macros.CommandHandler

namespace AngzarrClient

/-- A `FactRequest` with these prior event pages and these fact pages. -/
def factRequest (prior facts : List EventPage) : FactRequest where
  facts := some { pages := facts }
  priorEvents := some { pages := prior }

namespace Aggregate

variable {S Msg : Type} {aggregate : Aggregate S Msg}

/-- The request succeeds and emits these pages. -/
def Emits (aggregate : Aggregate S Msg) (prior facts emitted : List EventPage) : Prop :=
  (aggregate.dispatchFact (factRequest prior facts)).outcome =
    .ok (.handleFact { pages := emitted })

theorem Emits.unique {prior facts emitted other : List EventPage}
    (hemits : aggregate.Emits prior facts emitted)
    (hother : aggregate.Emits prior facts other) : emitted = other := by
  rw [Emits] at hemits hother
  rw [hemits] at hother
  injection hother with hbook
  injection hbook with hbook
  injection hbook

/-- What one page of the facts book makes the aggregate emit. -/
def factPages (aggregate : Aggregate S Msg) (state : S) (page : EventPage) :
    HandlerRun (List EventPage) :=
  match page.payload with
  | some (.event payload) =>
      (fun answer => (answer.map EventBook.pages).getD []) <$>
        runArms .handlesFact state payload aggregate.handlesFact
  | _ => pure []

/-- The walk appends what each page makes the aggregate emit. -/
theorem walkFacts_cons (state : S) (merged : List EventPage) (page : EventPage)
    (rest : List EventPage) :
    aggregate.walkFacts state merged (page :: rest) =
      aggregate.factPages state page >>= fun pages =>
        aggregate.walkFacts state (merged ++ pages) rest := by
  have hskip : (pure [] : HandlerRun (List EventPage)) >>= (fun pages =>
      aggregate.walkFacts state (merged ++ pages) rest) =
      aggregate.walkFacts state merged rest := by
    rw [pure_bind, List.append_nil]
  rw [walkFacts, factPages]
  cases page.payload with
  | none => exact hskip.symm
  | some payload =>
      cases payload with
      | external reference => exact hskip.symm
      | event any =>
          dsimp only
          rw [bind_map_left]
          congr 1
          funext answer
          cases answer with
          | none => simp
          | some events => simp

/-- What is already merged stays in front. -/
theorem walkFacts_eq (state : S) (merged facts : List EventPage) :
    aggregate.walkFacts state merged facts =
      (merged ++ ·) <$> aggregate.walkFacts state [] facts := by
  induction facts generalizing merged with
  | nil => simp [walkFacts]
  | cons page rest ih =>
      rw [walkFacts_cons, walkFacts_cons, map_bind]
      congr 1
      funext pages
      rw [ih (merged ++ pages), ih ([] ++ pages), ← comp_map]
      congr 1
      funext later
      simp

/-- A walk over a concatenation is the one walk and then the other. -/
theorem walkFacts_append (state : S) (first second : List EventPage) :
    aggregate.walkFacts state [] (first ++ second) =
      aggregate.walkFacts state [] first >>= fun emitted =>
        (emitted ++ ·) <$> aggregate.walkFacts state [] second := by
  induction first with
  | nil => simp [walkFacts]
  | cons page rest ih =>
      rw [List.cons_append, walkFacts_cons, walkFacts_cons, bind_assoc]
      congr 1
      funext pages
      rw [walkFacts_eq, ih, walkFacts_eq state ([] ++ pages) rest, map_bind,
        bind_map_left]
      congr 1
      funext emitted
      rw [← comp_map]
      congr 1
      funext later
      simp

/-- The state is rebuilt from the prior events, and the facts are walked on it. -/
theorem emits_iff {prior facts emitted : List EventPage} :
    aggregate.Emits prior facts emitted ↔
      ∃ state, aggregate.state.rebuild prior = .ok state ∧
        (aggregate.walkFacts state [] facts).outcome = .ok emitted := by
  simp only [Emits, dispatchFact, factRequest, Option.getD_some]
  cases aggregate.state.rebuild prior with
  | error error => simp
  | ok state =>
      rw [Traced.ofExcept_ok, pure_bind, Traced.outcome_bind]
      cases hwalk : (aggregate.walkFacts state [] facts).outcome with
      | error error => simp [Except.bind, hwalk]
      | ok pages => simp [Except.bind, hwalk]

/-- A batch emits what its parts emit on the same state. -/
theorem emits_append_iff {prior first second emitted : List EventPage} :
    aggregate.Emits prior (first ++ second) emitted ↔
      ∃ early later, aggregate.Emits prior first early ∧
        aggregate.Emits prior second later ∧ emitted = early ++ later := by
  simp only [emits_iff, walkFacts_append, Traced.outcome_bind, Traced.outcome_map]
  constructor
  · rintro ⟨state, hstate, hwalk⟩
    cases hfirst : (aggregate.walkFacts state [] first).outcome with
    | error error => rw [hfirst] at hwalk; cases hwalk
    | ok early =>
        rw [hfirst] at hwalk
        cases hsecond : (aggregate.walkFacts state [] second).outcome with
        | error error => simp [hsecond, Except.bind, Except.map] at hwalk
        | ok later =>
            have hemitted : early ++ later = emitted := by
              simpa [hsecond, Except.bind, Except.map] using hwalk
            exact ⟨early, later, ⟨state, hstate, hfirst⟩, ⟨state, hstate, hsecond⟩,
              hemitted.symm⟩
  · rintro ⟨early, later, ⟨state, hstate, hfirst⟩, ⟨other, hother, hsecond⟩, rfl⟩
    rw [hstate] at hother
    cases hother
    exact ⟨state, hstate, by simp [hfirst, hsecond, Except.bind, Except.map]⟩

end Aggregate

/-- All facts of a batch meet the state of the prior events: the batch emits what
its parts emit one after the other on that state.  So it agrees with two requests,
the second after the events of the first, exactly when the second part emits the
same on both states; which it does when these events leave the state as it is. -/
theorem fact_batch_splits_on_prior_state {S Msg : Type} (aggregate : Aggregate S Msg)
    (prior first second : List EventPage) :
    (∀ emitted, aggregate.Emits prior (first ++ second) emitted ↔
      ∃ early later, aggregate.Emits prior first early ∧
        aggregate.Emits prior second later ∧ emitted = early ++ later) ∧
    ∀ early later, aggregate.Emits prior first early →
      aggregate.Emits (prior ++ early) second later →
      (aggregate.Emits prior (first ++ second) (early ++ later) ↔
        aggregate.Emits prior second later) ∧
      (aggregate.state.rebuild (prior ++ early) = aggregate.state.rebuild prior →
        aggregate.Emits prior (first ++ second) (early ++ later)) := by
  refine ⟨fun emitted => Aggregate.emits_append_iff, ?_⟩
  intro early later hfirst hsecond
  have hbatch : aggregate.Emits prior (first ++ second) (early ++ later) ↔
      aggregate.Emits prior second later := by
    rw [Aggregate.emits_append_iff]
    constructor
    · rintro ⟨other, rest, hother, hrest, hemitted⟩
      obtain rfl := hfirst.unique hother
      obtain rfl := List.append_cancel_left hemitted
      exact hrest
    · intro hlater
      exact ⟨early, later, hfirst, hlater, rfl⟩
  refine ⟨hbatch, fun hsame => hbatch.mpr ?_⟩
  rw [Aggregate.emits_iff] at hsecond ⊢
  rwa [← hsame]

namespace Sample

def received : MessageType Bool := flagType "payment.Received"

def receivedPage : EventPage := eventPage (fullTypeUrl received) []

/-- An aggregate that raises its flag on the first payment it receives. -/
def receiver : Aggregate Bool Bool where
  domain := named "order"
  state := flagState
  handlesFact := [{
    method := "on_received"
    messageType := received
    run := fun _ flag => .ok { pages := if flag then [] else [toggledPage [8, 1]] } }]

/-- A page that no state applies. -/
def notedPage (value : Bytes) : EventPage :=
  eventPage (fullTypeUrl (flagType "payment.Noted")) value

/-- An aggregate that notes every payment it receives, with the flag it meets. -/
def noter : Aggregate Bool Bool where
  domain := named "order"
  state := flagState
  handlesFact := [{
    method := "on_received"
    messageType := received
    run := fun _ flag => .ok { pages := [notedPage [8, if flag then 1 else 0]] } }]

end Sample

open Sample in
/-- Two payments in one batch: the second meets the lowered flag as well, and the
flag is raised twice. -/
theorem second_fact_misses_first :
    receiver.Emits [] [receivedPage] [toggledPage [8, 1]] ∧
      receiver.Emits [toggledPage [8, 1]] [receivedPage] [] ∧
      receiver.Emits [] [receivedPage, receivedPage]
        [toggledPage [8, 1], toggledPage [8, 1]] ∧
      ¬receiver.Emits [] ([receivedPage] ++ [receivedPage])
        ([toggledPage [8, 1]] ++ []) := by
  refine ⟨by rfl, by rfl, by rfl, ?_⟩
  intro hemits
  cases hemits

open Sample in
/-- A note leaves the state as it is: the batch emits the two notes that the payments
get one after the other. -/
theorem fact_batch_splits_on_prior_state_sample :
    noter.Emits [toggledPage [8, 1]] [receivedPage] [notedPage [8, 1]] ∧
      noter.Emits [toggledPage [8, 1], notedPage [8, 1]] [receivedPage]
        [notedPage [8, 1]] ∧
      noter.Emits [toggledPage [8, 1]] ([receivedPage] ++ [receivedPage])
        ([notedPage [8, 1]] ++ [notedPage [8, 1]]) := by
  have hfirst : noter.Emits [toggledPage [8, 1]] [receivedPage] [notedPage [8, 1]] := by
    rfl
  have hsecond : noter.Emits ([toggledPage [8, 1]] ++ [notedPage [8, 1]]) [receivedPage]
      [notedPage [8, 1]] := by
    rfl
  have hsplit := fact_batch_splits_on_prior_state noter [toggledPage [8, 1]]
    [receivedPage] [receivedPage]
  exact ⟨hfirst, hsecond, (hsplit.2 [notedPage [8, 1]] [notedPage [8, 1]] hfirst
    hsecond).2 (by rfl)⟩

end AngzarrClient
