/-
Snapshots of a command handler.  A replay that starts from the snapshot of a
prefix must end where a replay of the whole history ends; and a handler must
answer alike whether its event book holds the whole history or a snapshot
with the pages after it.
-/
import AngzarrClient.Macros.StateRebuild
import AngzarrClient.Router.Runtime

namespace AngzarrClient

variable {S Msg : Type}

namespace Aggregate

variable {aggregate : Aggregate S Msg} {codec : StateCodec S}

/-- A replay once its base state is known. -/
def replayFrom (aggregate : Aggregate S Msg) (codec : StateCodec S) (base : S)
    (pages : List EventPage) : Except ClientError HandlerResponse :=
  match replayPages aggregate.state.applies base pages with
  | .error error => .error error
  | .ok state =>
      match codec.encode state with
      | .error cause => .error (.stateCodecFailed cause)
      | .ok value =>
          .ok (.replay { state := some ⟨fullTypeUrl codec.toMessageType, value⟩ })

theorem outcome_dispatchReplay (hreplay : aggregate.replay = some codec)
    (request : ReplayRequest) :
    (aggregate.dispatchReplay request).outcome =
      (aggregate.baseState codec request.baseSnapshot).bind fun base =>
        aggregate.replayFrom codec base request.events := by
  simp only [dispatchReplay, hreplay, Traced.outcome_bind, Traced.outcome_ofExcept]
  rcases aggregate.baseState codec request.baseSnapshot with error | base
  · rfl
  · simp only [Except.bind, replayFrom]
    rcases replayPages aggregate.state.applies base request.events with error | state
    · rfl
    · dsimp only
      rcases codec.encode state with cause | value
      · rfl
      · rfl

/-- The pages after a prefix are replayed from the state the prefix reaches. -/
theorem replayFrom_append {base state : S} {before after : List EventPage}
    (hreached : replayPages aggregate.state.applies base before = .ok state) :
    aggregate.replayFrom codec base (before ++ after) =
      aggregate.replayFrom codec state after := by
  have happend : replayPages aggregate.state.applies base (before ++ after) =
      replayPages aggregate.state.applies state after := by
    rw [StateModel.replayPages_eq_replay] at hreached ⊢
    rw [StateModel.replayPages_eq_replay, EventFold.replay_append, hreached]
    rfl
  rw [replayFrom, replayFrom, happend]

/-- A snapshot with bytes is decoded. -/
theorem baseState_of_bytes {snapshot : Snapshot} {any : Any} {state : S}
    (hstate : snapshot.state = some any) (hbytes : any.value ≠ [])
    (hdecode : codec.decode any.value = .ok state) :
    aggregate.baseState codec (some snapshot) = .ok state := by
  simp [baseState, hstate, hbytes, hdecode, Except.mapError]

/-- A snapshot without bytes is taken for no snapshot. -/
theorem baseState_of_no_bytes {snapshot : Snapshot} {any : Any}
    (hstate : snapshot.state = some any) (hbytes : any.value = []) :
    aggregate.baseState codec (some snapshot) = .ok aggregate.state.initial := by
  simp [baseState, hstate, hbytes]

/-- Replaying `after` on the snapshot gives the result of replaying the whole
history without one. -/
def ReplayAgrees (aggregate : Aggregate S Msg) (snapshot : Snapshot)
    (before after : List EventPage) : Prop :=
  (aggregate.dispatchReplay
      { baseSnapshot := some snapshot, events := after }).outcome =
    (aggregate.dispatchReplay { events := before ++ after }).outcome

/-- What a replay without snapshot that succeeds says about its history. -/
theorem of_dispatchReplay_ok {pages : List EventPage} {any : Any}
    (hreplay : aggregate.replay = some codec)
    (hresult : (aggregate.dispatchReplay { events := pages }).outcome =
      .ok (.replay { state := some any })) :
    replayPages aggregate.state.applies aggregate.state.initial pages =
        .ok (aggregate.state.stateAfter pages) ∧
      codec.encode (aggregate.state.stateAfter pages) = .ok any.value := by
  rw [outcome_dispatchReplay hreplay] at hresult
  change aggregate.replayFrom codec aggregate.state.initial pages = _ at hresult
  rw [replayFrom] at hresult
  rcases hstate : replayPages aggregate.state.applies aggregate.state.initial pages
    with error | state
  · rw [hstate] at hresult
    cases hresult
  · have hafter : aggregate.state.stateAfter pages = state :=
      (StateModel.rebuild_eq_ok_iff.mp hstate).2
    rw [hstate] at hresult
    dsimp only at hresult
    rw [hafter]
    rcases hvalue : codec.encode state with cause | value
    · rw [hvalue] at hresult
      cases hresult
    · rw [hvalue] at hresult
      cases hresult
      exact ⟨rfl, rfl⟩

/-- With the state of a prefix as checkpoint, a replay starts from that state,
or from the initial one when the state has no bytes. -/
theorem outcome_dispatchReplay_checkpoint {pages after : List EventPage} {any : Any}
    {snapshot : Snapshot} (hreplay : aggregate.replay = some codec)
    (hcodec : ∀ state value, codec.encode state = .ok value →
      codec.decode value = .ok state)
    (hencode : codec.encode (aggregate.state.stateAfter pages) = .ok any.value)
    (hsnapshot : snapshot.state = some any) :
    (aggregate.dispatchReplay
        { baseSnapshot := some snapshot, events := after }).outcome =
      if any.value ≠ [] then
        aggregate.replayFrom codec (aggregate.state.stateAfter pages) after
      else aggregate.replayFrom codec aggregate.state.initial after := by
  rw [outcome_dispatchReplay hreplay]
  by_cases hbytes : any.value ≠ []
  · rw [if_pos hbytes]
    rw [baseState_of_bytes hsnapshot hbytes (hcodec _ _ hencode)]
    rfl
  · rw [if_neg hbytes]
    rw [not_not] at hbytes
    rw [baseState_of_no_bytes hsnapshot hbytes]
    rfl

end Aggregate

/-- Replay from a checkpoint agrees with replay from scratch, for every rest of
the history, exactly when the checkpointed state encodes to at least one byte
or is the initial state.  For one rest it agrees exactly when there is a byte,
or that rest leads from the initial state where it leads from the checkpoint. -/
theorem checkpoint_replay_agrees_iff {aggregate : Aggregate S Msg}
    {codec : StateCodec S} (hreplay : aggregate.replay = some codec)
    (hcodec : ∀ state value, codec.encode state = .ok value →
      codec.decode value = .ok state)
    {before : List EventPage} {any : Any} {snapshot : Snapshot}
    (hresult : (aggregate.dispatchReplay { events := before }).outcome =
      .ok (.replay { state := some any }))
    (hsnapshot : snapshot.state = some any) :
    ((∀ after, aggregate.ReplayAgrees snapshot before after) ↔
      codec.encode (aggregate.state.stateAfter before) ≠ .ok [] ∨
        aggregate.state.stateAfter before = aggregate.state.initial) ∧
    (∀ after, aggregate.ReplayAgrees snapshot before after ↔
      codec.encode (aggregate.state.stateAfter before) ≠ .ok [] ∨
        aggregate.replayFrom codec aggregate.state.initial after =
          aggregate.replayFrom codec (aggregate.state.stateAfter before) after) := by
  obtain ⟨hreached, hencode⟩ := Aggregate.of_dispatchReplay_ok hreplay hresult
  have hwhole : ∀ after, (aggregate.dispatchReplay
        { events := before ++ after }).outcome =
      aggregate.replayFrom codec (aggregate.state.stateAfter before) after := by
    intro after
    rw [Aggregate.outcome_dispatchReplay hreplay]
    exact Aggregate.replayFrom_append hreached
  have hbytes : codec.encode (aggregate.state.stateAfter before) ≠ .ok [] ↔
      any.value ≠ [] := by
    rw [hencode, Ne, Except.ok.injEq]
  have hone : ∀ after, aggregate.ReplayAgrees snapshot before after ↔
      any.value ≠ [] ∨ aggregate.replayFrom codec aggregate.state.initial after =
        aggregate.replayFrom codec (aggregate.state.stateAfter before) after := by
    intro after
    rw [Aggregate.ReplayAgrees, hwhole, Aggregate.outcome_dispatchReplay_checkpoint
      hreplay hcodec hencode hsnapshot]
    by_cases hempty : any.value = []
    · simp [hempty]
    · simp [hempty]
  rw [hbytes]
  refine ⟨⟨fun hall => ?_, ?_⟩, hone⟩
  · refine or_iff_not_imp_left.mpr fun hempty => ?_
    -- with nothing left to replay, both ends encode their start states
    have hends := ((hone []).mp (hall [])).resolve_left hempty
    rw [not_not] at hempty
    rw [hempty] at hencode
    simp only [Aggregate.replayFrom, replayPages, hencode] at hends
    rcases hinitial : codec.encode aggregate.state.initial with cause | value
    · rw [hinitial] at hends
      cases hends
    · rw [hinitial] at hends
      have hvalue : value = [] := by
        simpa using hends
      subst hvalue
      have hsame := (hcodec _ _ hencode).symm.trans (hcodec _ _ hinitial)
      exact Except.ok.inj hsame
  · intro hcondition after
    refine (hone after).mpr (hcondition.imp_right fun hinitial => ?_)
    rw [hinitial]

namespace Sample

theorem flagCodec_lawful (fullName : String) (state : Bool) (value : Bytes)
    (hencode : (flagCodec fullName).encode state = .ok value) :
    (flagCodec fullName).decode value = .ok state := by
  cases state <;> cases hencode <;> rfl

/-- A flag whose `#[state_factory]` starts it raised. -/
def raisedAggregate : Aggregate Bool Bool where
  domain := named "order"
  state := { flagState with stateFactory := some ("initial_state", true) }
  replay := some (flagCodec "order.Flag")

/-- A snapshot of a flag with the given bytes. -/
def flagSnapshot (value : Bytes) : Snapshot where
  state := some ⟨"type.googleapis.com/order.Flag", value⟩

end Sample

open Sample in
/-- Lowering the flag reaches a state without bytes; a replay of nothing on
that snapshot comes back with the raised flag of the state factory. -/
theorem lowered_flag_is_not_resumed :
    (raisedAggregate.dispatchReplay { events := [toggledPage []] }).outcome =
        .ok (.replay { state := (flagSnapshot []).state }) ∧
      (raisedAggregate.dispatchReplay
          { baseSnapshot := some (flagSnapshot []), events := [] }).outcome =
        .ok (.replay { state := (flagSnapshot [8, 1]).state }) ∧
      ¬raisedAggregate.ReplayAgrees (flagSnapshot []) [toggledPage []] [] := by
  refine ⟨by rfl, by rfl, ?_⟩
  intro hagrees
  cases hagrees

open Sample in
/-- The raised flag has a byte and is resumed. -/
theorem checkpoint_replay_agrees_iff_sample :
    raisedAggregate.ReplayAgrees (flagSnapshot [8, 1]) [toggledPage [8, 1]]
      [toggledPage [], toggledPage [8, 0]] := by
  have hreached : (raisedAggregate.dispatchReplay
        { events := [toggledPage [8, 1]] }).outcome =
      .ok (.replay { state := (flagSnapshot [8, 1]).state }) := by rfl
  have hstate : (flagSnapshot [8, 1]).state =
      some ⟨"type.googleapis.com/order.Flag", [8, 1]⟩ := by rfl
  have hiff := checkpoint_replay_agrees_iff (by rfl) (flagCodec_lawful "order.Flag")
    hreached hstate
  exact hiff.1.mpr (Or.inl (by decide)) _

end AngzarrClient
