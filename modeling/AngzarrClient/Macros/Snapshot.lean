/-
Histories that come as a snapshot and the pages after it.  The generated
dispatch rebuilds the state of a command, a fact or a trigger from the pages
of the event book alone, so such a book is as good as the full history only
when the pages after the snapshot lead to the same state by themselves.
-/
import AngzarrClient.Macros.Checkpoint

namespace AngzarrClient

variable {S Msg : Type}

/-- The snapshot holds the encoded state. -/
def Snapshot.Of (codec : StateCodec S) (state : S) (snapshot : Snapshot) : Prop :=
  ∃ value, codec.encode state = .ok value ∧
    snapshot.state = some ⟨fullTypeUrl codec.toMessageType, value⟩

/-- A history as its full pages. -/
def fullBook (cover : Option Cover) (nextSequence : UInt32)
    (pages : List EventPage) : EventBook where
  cover := cover
  pages := pages
  nextSequence := nextSequence

/-- A history as a snapshot and the pages after it. -/
def snapshotBook (cover : Option Cover) (nextSequence : UInt32)
    (snapshot : Snapshot) (after : List EventPage) : EventBook where
  cover := cover
  pages := after
  snapshot := some snapshot
  nextSequence := nextSequence

section Transparent

variable (model : StateModel S Msg) (snapshot : Snapshot)
  (before after : List EventPage)

/-- Every command handler over `model` answers every command and notification
alike on the two books. -/
def TransparentToCommands : Prop :=
  ∀ aggregate : Aggregate S Msg, aggregate.state = model →
    ∀ prost command cover nextSequence,
      (aggregate.dispatch prost (.commandHandler
          ⟨command, some (snapshotBook cover nextSequence snapshot after)⟩)).outcome =
        (aggregate.dispatch prost (.commandHandler
          ⟨command, some (fullBook cover nextSequence (before ++ after))⟩)).outcome

/-- Every command handler over `model` answers every fact request alike. -/
def TransparentToFacts : Prop :=
  ∀ aggregate : Aggregate S Msg, aggregate.state = model →
    ∀ prost facts cover nextSequence,
      (aggregate.dispatch prost (.handleFact
          ⟨facts, some (snapshotBook cover nextSequence snapshot after)⟩)).outcome =
        (aggregate.dispatch prost (.handleFact
          ⟨facts, some (fullBook cover nextSequence (before ++ after))⟩)).outcome

/-- Every process manager over `model` answers every trigger alike. -/
def TransparentToManagers : Prop :=
  ∀ manager : ProcessManager S Msg, manager.state = model →
    ∀ trigger destinations cover nextSequence,
      (manager.dispatch (.processManager ⟨trigger,
          some (snapshotBook cover nextSequence snapshot after), destinations⟩)).outcome =
        (manager.dispatch (.processManager ⟨trigger,
          some (fullBook cover nextSequence (before ++ after)), destinations⟩)).outcome

end Transparent

/-- A method that tells apart the states a test tells apart. -/
def verdict {β : Type} (test : S → Bool) (answer : β) (state : S) :
    CommandResult β :=
  if test state then .ok answer else .error ⟨"REFUSED", "refused", "ABORTED", []⟩

/-- Results that no test tells apart are equal. -/
theorem eq_of_verdicts {β : Type} (answer : β) {x y : Except ClientError S}
    (htests : ∀ test : S → Bool,
      (x.bind fun state => (verdict test answer state).mapError ClientError.rejected) =
        y.bind fun state => (verdict test answer state).mapError ClientError.rejected) :
    x = y := by
  classical
  have haccept := htests fun _ => true
  rcases x with error | state
  · rcases y with error' | state'
    · cases haccept
      rfl
    · cases haccept
  · rcases y with error' | state'
    · cases haccept
    · have hequal := htests fun other => decide (other = state)
      by_cases hstate : state' = state
      · rw [hstate]
      · simp [Except.bind, verdict, hstate, Except.mapError] at hequal

/-! Business logic that only looks at the state. -/
namespace Probe

variable {In Out : Type}
variable (model : StateModel S Msg) (test : S → Bool) (message : Msg)

def typeUrl : String := typeUrlPrefix ++ "probe.Probe"

/-- A method that answers by the test of the state in its arguments. -/
def arm (look : In → S) (answer : Out) : TypedArm Msg In Out where
  method := "probe"
  messageType := { fullName := "probe.Probe", decode := fun _ => .ok message }
  run _ input := verdict test answer (look input)

def aggregate : Aggregate S Msg where
  domain := ⟨"probe", by decide⟩
  state := model
  handles := [arm test message Prod.fst {}]
  handlesFact := [arm test message id {}]

def manager : ProcessManager S Msg where
  name := ⟨"probe", by decide⟩
  pmDomain := ⟨"probe", by decide⟩
  state := model
  sources := [⟨"probe", by decide⟩]
  sources_ne_nil := by simp
  targets := [⟨"probe", by decide⟩]
  targets_ne_nil := by simp
  syncTargets_subset := by simp
  handles := [arm test message id {}]

def commandBook : CommandBook where
  pages := [{ payload := some (.command ⟨typeUrl, []⟩) }]

def eventBook : EventBook where
  pages := [{ payload := some (.event ⟨typeUrl, []⟩) }]

theorem firstArm_arm (look : In → S) (answer : Out) :
    firstArm typeUrl [arm test message look answer] =
      some (arm test message look answer) := by
  simp [firstArm, arm, fullTypeUrl, typeUrl]

theorem outcome_execute_arm (key : String → ArmKey) (look : In → S) (answer : Out)
    (input : In) :
    ((arm test message look answer).execute key input ⟨typeUrl, []⟩).outcome =
      (verdict test answer (look input)).mapError .rejected := by
  have hdecode : (arm test message look answer).messageType.decode
      (Any.mk typeUrl []).value = .ok message := rfl
  rw [TypedArm.execute_of_decode hdecode]
  rfl

/-- The command path shows the test of the rebuilt state. -/
theorem outcome_command (prost : Prost) (events : EventBook) :
    ((aggregate model test message).dispatch prost
        (.commandHandler ⟨some commandBook, some events⟩)).outcome =
      ((model.rebuild events.pages).bind fun state =>
        (verdict test ({} : EventBook) state).mapError .rejected).map
          Aggregate.eventsResponse := by
  have hpayload : commandPayload ⟨some commandBook, some events⟩ =
      .ok ⟨typeUrl, []⟩ := rfl
  have hkind : typeUrl ≠ notificationTypeUrl := by decide
  change ((aggregate model test message).dispatchCommand prost _).outcome = _
  rcases hstate : model.rebuild events.pages with error | state
  · rw [Aggregate.dispatchCommand_of_rebuild_error hpayload hstate]
    rfl
  · have harm : firstArm typeUrl (aggregate model test message).handles =
        some (arm test message Prod.fst {}) := firstArm_arm test message _ _
    rw [Aggregate.dispatchCommand_of_command hpayload hkind hstate, harm]
    dsimp only
    rw [Traced.outcome_map, outcome_execute_arm]
    rfl

/-- The fact path does too. -/
theorem outcome_fact (prost : Prost) (events : EventBook) :
    ((aggregate model test message).dispatch prost
        (.handleFact ⟨some eventBook, some events⟩)).outcome =
      ((model.rebuild events.pages).bind fun state =>
        (verdict test ({} : EventBook) state).mapError .rejected).map
          .handleFact := by
  change ((aggregate model test message).dispatchFact _).outcome = _
  rcases hstate : model.rebuild events.pages with error | state
  · rw [Aggregate.dispatchFact_of_rebuild_error hstate]
    rfl
  · have hpages := StateModel.rebuild_eq_ok_iff.mp hstate
    have hfirst : firstArm typeUrl (aggregate model test message).handlesFact =
        some (arm test message id {}) := firstArm_arm test message _ _
    have hwalk : (aggregate model test message).dispatchFact
          ⟨some eventBook, some events⟩ =
        (fun pages => .handleFact { pages := pages }) <$>
          (aggregate model test message).walkFacts
            (model.stateAfter events.pages) [] eventBook.pages :=
      Aggregate.dispatchFact_of_decodable hpages.1
    rw [hwalk, Traced.outcome_map, hpages.2]
    simp only [eventBook, Aggregate.walkFacts, runArms_eq, hfirst,
      Traced.outcome_bind, Traced.outcome_map, outcome_execute_arm, id]
    by_cases htest : test state = true
    · simp only [Except.bind, verdict, htest, if_true]
      rfl
    · simp only [Except.bind, verdict, htest]
      rfl

/-- And so does the dispatch of a process manager. -/
theorem outcome_trigger (events : EventBook) :
    ((manager model test message).dispatch
        (.processManager ⟨some eventBook, some events, []⟩)).outcome =
      ((model.rebuild events.pages).bind fun state =>
        (verdict test ({} : ProcessManagerHandleResponse) state).mapError
          .rejected).map .processManager := by
  have hevent : lastEvent pmErrors (some eventBook) = .ok ⟨typeUrl, []⟩ := rfl
  rcases hstate : model.rebuild events.pages with error | state
  · rw [ProcessManager.dispatch_of_rebuild_error hstate]
    rfl
  · have hfirst : firstArm typeUrl (manager model test message).handles =
        some (arm test message id {}) := firstArm_arm test message _ _
    rw [ProcessManager.dispatch_of_event hstate hevent, runArms_eq, hfirst]
    dsimp only
    rw [Traced.outcome_map, Traced.outcome_map, outcome_execute_arm]
    by_cases htest : test state = true
    · simp only [Except.bind, verdict, htest, if_true, id]
      rfl
    · simp only [Except.bind, verdict, htest, id]
      rfl

end Probe

/-- Wrapping an answer loses nothing. -/
theorem eq_of_map_eq {α β : Type} {f : α → β} (hf : Function.Injective f)
    {x y : Except ClientError α} (hmap : x.map f = y.map f) : x = y := by
  rcases x with error | value
  · rcases y with error' | value'
    · cases hmap
      rfl
    · cases hmap
  · rcases y with error' | value'
    · cases hmap
    · have hvalue : f value = f value' := by
        simpa [Except.map] using hmap
      rw [hf hvalue]

section Iff

variable {model : StateModel S Msg} {snapshot : Snapshot}
  {before after : List EventPage}

theorem transparentToCommands_iff [Inhabited Msg] :
    TransparentToCommands model snapshot before after ↔
      model.rebuild after = model.rebuild (before ++ after) := by
  constructor
  · intro htransparent
    refine eq_of_verdicts ({} : EventBook) fun test => ?_
    have hprobe := htransparent (Probe.aggregate model test default) rfl
      ⟨fun _ => .ok {}, fun _ => .ok {}⟩ (some Probe.commandBook) none 0
    rw [Probe.outcome_command, Probe.outcome_command] at hprobe
    refine eq_of_map_eq ?_ hprobe
    intro left right hwrapped
    cases hwrapped
    rfl
  · rintro hrebuild aggregate rfl prost command cover nextSequence
    simp only [Aggregate.dispatch, Aggregate.dispatchCommand, Option.getD_some,
      snapshotBook, fullBook, hrebuild]
    rfl

theorem transparentToFacts_iff [Inhabited Msg] :
    TransparentToFacts model snapshot before after ↔
      model.rebuild after = model.rebuild (before ++ after) := by
  constructor
  · intro htransparent
    refine eq_of_verdicts ({} : EventBook) fun test => ?_
    have hprobe := htransparent (Probe.aggregate model test default) rfl
      ⟨fun _ => .ok {}, fun _ => .ok {}⟩ (some Probe.eventBook) none 0
    rw [Probe.outcome_fact, Probe.outcome_fact] at hprobe
    refine eq_of_map_eq ?_ hprobe
    intro left right hwrapped
    cases hwrapped
    rfl
  · rintro hrebuild aggregate rfl prost facts cover nextSequence
    simp only [Aggregate.dispatch, Aggregate.dispatchFact, Option.getD_some,
      snapshotBook, fullBook, hrebuild]

theorem transparentToManagers_iff [Inhabited Msg] :
    TransparentToManagers model snapshot before after ↔
      model.rebuild after = model.rebuild (before ++ after) := by
  constructor
  · intro htransparent
    refine eq_of_verdicts ({} : ProcessManagerHandleResponse) fun test => ?_
    have hprobe := htransparent (Probe.manager model test default) rfl
      (some Probe.eventBook) [] none 0
    rw [Probe.outcome_trigger, Probe.outcome_trigger] at hprobe
    refine eq_of_map_eq ?_ hprobe
    intro left right hwrapped
    cases hwrapped
    rfl
  · rintro hrebuild manager rfl trigger destinations cover nextSequence
    simp only [ProcessManager.dispatch, Option.getD_some, snapshotBook, fullBook,
      hrebuild]

end Iff

/-- Snapshots are transparent to all business logic over a state model exactly
when the pages after the snapshot lead from the initial state where the whole
history leads; for every rest of the history, exactly when the state under the
snapshot is the initial state. -/
theorem snapshots_transparent_iff [Inhabited Msg] {model : StateModel S Msg}
    {codec : StateCodec S} {before : List EventPage} {state : S}
    {snapshot : Snapshot} (hreached : model.rebuild before = .ok state)
    (hsnapshot : snapshot.Of codec state) :
    (∀ after, (TransparentToCommands model snapshot before after ↔
          model.rebuild after = model.rebuild (before ++ after)) ∧
        (TransparentToFacts model snapshot before after ↔
          model.rebuild after = model.rebuild (before ++ after)) ∧
        (TransparentToManagers model snapshot before after ↔
          model.rebuild after = model.rebuild (before ++ after))) ∧
    ((∀ after, model.rebuild after = model.rebuild (before ++ after)) ↔
      state = model.initial) := by
  refine ⟨fun after => ⟨transparentToCommands_iff, transparentToFacts_iff,
    transparentToManagers_iff⟩, ?_⟩
  constructor
  · intro hall
    have hnothing := hall []
    rw [List.append_nil, hreached] at hnothing
    exact (Except.ok.inj hnothing).symm
  · rintro rfl after
    rw [StateModel.rebuild_eq_replay] at hreached
    rw [StateModel.rebuild_eq_replay, StateModel.rebuild_eq_replay,
      EventFold.replay_append, hreached]
    rfl

open Sample in
/-- A raised flag, held in a snapshot alone, is down for the method that
describes it; the same history as pages shows it raised. -/
theorem snapshot_is_ignored :
    flagState.rebuild [toggledPage [8, 1]] = .ok true ∧
      (flagSnapshot [8, 1]).Of (flagCodec "order.Flag") true ∧
      (flagAggregate.dispatch (prost {}) (.commandHandler
          ⟨(describeAfter []).command,
            some (snapshotBook none 1 (flagSnapshot [8, 1]) [])⟩)).outcome =
        .error (.rejected
          ⟨"DOWN", "the flag is down", "FAILED_PRECONDITION", []⟩) ∧
      (flagAggregate.dispatch (prost {}) (.commandHandler
          ⟨(describeAfter []).command,
            some (fullBook none 1 ([toggledPage [8, 1]] ++ []))⟩)).outcome =
        .ok (.commandHandler
          { result := some (.events { pages := [eventPage "order.Up" []] }) }) :=
  ⟨by rfl, ⟨[8, 1], by rfl, by rfl⟩, by rfl, by rfl⟩

open Sample in
/-- A flag lowered back to its initial state may be cut off. -/
theorem snapshots_transparent_iff_sample :
    TransparentToCommands flagState (flagSnapshot []) [toggledPage []]
      [toggledPage [8, 1]] := by
  have hreached : flagState.rebuild [toggledPage []] = .ok false := by rfl
  have hsnapshot : (flagSnapshot []).Of (flagCodec "order.Flag") false :=
    ⟨[], by rfl, by rfl⟩
  have htransparent := snapshots_transparent_iff hreached hsnapshot
  exact (htransparent.1 [toggledPage [8, 1]]).1.mpr (htransparent.2.mpr rfl _)

end AngzarrClient
