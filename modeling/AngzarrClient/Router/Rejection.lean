/-
The rejection path of the command-handler router.  Every handler whose config
lists the rejection key is asked in turn, and the answers are packed into one
fresh event book: what an answer says survives when it is a list of events.
-/
import AngzarrClient.Compensation
import AngzarrClient.Macros.CommandHandler
import AngzarrClient.Router.Runtime

namespace AngzarrClient

namespace CommandHandlerRouter

open BusinessResponse

/-- What the handlers answer when they are asked one after the other, each
with the sequence the events of the earlier answers lead to; the error of the
first that fails. -/
def answersInTurn (cmd : ContextualCommand) (seq : UInt32) :
    List Handler → Except ClientError (List BusinessResponse)
  | [] => .ok []
  | handler :: rest =>
      match handler.answer unwrapCommand
          (.commandHandler (scopedCommand cmd seq)) with
      | .error error => .error error
      | .ok answer =>
          (answersInTurn cmd (seq + UInt32.ofNat answer.eventPages.length) rest).map
            (answer :: ·)

/-- The sequence the first asked handler gets: the one the command came with. -/
def initialSeq (cmd : ContextualCommand) : UInt32 :=
  (cmd.events.map EventBook.nextSequence).getD 0

theorem Compensation.merge_eq (merged : Compensation) (answer : BusinessResponse) :
    merged.merge answer =
      { runningSeq := merged.runningSeq + UInt32.ofNat answer.eventPages.length
        pages := merged.pages ++ answer.eventPages } := by
  obtain ⟨result⟩ := answer
  rcases result with _ | _ | _ | _ <;> simp [Compensation.merge, eventPages]

theorem Compensation.pages_foldl_merge (answers : List BusinessResponse)
    (merged : Compensation) :
    (answers.foldl Compensation.merge merged).pages =
      merged.pages ++ answers.flatMap eventPages := by
  induction answers generalizing merged with
  | nil => simp
  | cons answer rest ih =>
      rw [List.foldl_cons, ih, Compensation.merge_eq, List.flatMap_cons,
        List.append_assoc]

/-- The first handler is asked with the command as it came. -/
theorem scopedCommand_initialSeq (cmd : ContextualCommand) :
    scopedCommand cmd (initialSeq cmd) = cmd := by
  obtain ⟨command, events⟩ := cmd
  rcases events with _ | book
  · rfl
  · rfl

/-- The rejection loop folds the answers in turn into one book. -/
theorem outcome_callEach_merge (cmd : ContextualCommand) (merged : Compensation)
    (handlers : List Handler) :
    (callEach (rejectionRequest cmd) unwrapCommand Compensation.merge merged
        handlers).outcome =
      (answersInTurn cmd merged.runningSeq handlers).map
        fun answers => answers.foldl Compensation.merge merged := by
  induction handlers generalizing merged with
  | nil => rfl
  | cons handler rest ih =>
      have hturn : answersInTurn cmd merged.runningSeq (handler :: rest) =
          match handler.answer unwrapCommand (rejectionRequest cmd merged) with
          | .error error => .error error
          | .ok answer => (answersInTurn cmd
              (merged.runningSeq + UInt32.ofNat answer.eventPages.length) rest).map
                (answer :: ·) := rfl
      rw [hturn]
      rcases hanswer : handler.answer unwrapCommand (rejectionRequest cmd merged)
        with error | answer
      · rw [callEach_cons_of_error hanswer]
        rfl
      · have hseq : (merged.merge answer).runningSeq =
            merged.runningSeq + UInt32.ofNat answer.eventPages.length := by
          rw [Compensation.merge_eq]
        rw [callEach_cons_of_ok hanswer]
        dsimp only
        rw [ih, hseq]
        rcases answersInTurn cmd
          (merged.runningSeq + UInt32.ofNat answer.eventPages.length) rest with _ | _
        · rfl
        · rfl

section Notification

variable {prost : Prost} {router : CommandHandlerRouter}
  {cmd : ContextualCommand} {key : String × String}
  (hkind : extractCommandTypeUrl cmd = .ok notificationTypeUrl)
  (hkey : extractRejectionKey prost cmd = .ok key)
include hkind hkey

/-- On a notification, `dispatch` ends as the rejection loop over the handlers
that react to the key does. -/
theorem outcome_dispatch_eq_callEach :
    (router.dispatch prost cmd).outcome =
      (callEach (rejectionRequest cmd) unwrapCommand Compensation.merge
        (Compensation.start cmd) (selected (reactsTo key) router.factories)).outcome.map
          Compensation.response := by
  simp only [dispatch, hkind, Traced.ofExcept_ok, pure_bind, if_true,
    dispatchRejection, hkey, ← map_eq_pure_bind, Traced.outcome_map, outcome_dispatchEach]

/-- That loop folds the answers of these handlers in turn. -/
theorem outcome_dispatch_of_notification :
    (router.dispatch prost cmd).outcome =
      (answersInTurn cmd (initialSeq cmd)
        (selected (reactsTo key) router.factories)).map fun answers =>
          (answers.foldl Compensation.merge (Compensation.start cmd)).response := by
  rw [outcome_dispatch_eq_callEach hkind hkey, outcome_callEach_merge]
  change Except.map _ (Except.map _ (answersInTurn cmd (initialSeq cmd) _)) = _
  rcases answersInTurn cmd (initialSeq cmd)
    (selected (reactsTo key) router.factories) with _ | _
  · rfl
  · rfl

theorem calls_dispatch_of_notification :
    calls (router.dispatch prost cmd) =
      calls (callEach (rejectionRequest cmd) unwrapCommand Compensation.merge
        (Compensation.start cmd) (selected (reactsTo key) router.factories)) := by
  simp only [dispatch, hkind, Traced.ofExcept_ok, pure_bind, if_true,
    dispatchRejection, hkey]
  rw [← calls_dispatchEach]
  rcases hloop : (dispatchEach (reactsTo key) (rejectionRequest cmd) unwrapCommand
      Compensation.merge (Compensation.start cmd) router.factories).outcome with _ | _
  · rw [calls_bind_of_error hloop]
  · rw [calls_bind_of_ok hloop, calls_pure, List.append_nil]

end Notification

theorem Compensation.isEvents_response (merged : Compensation) :
    merged.response.IsEvents := ⟨_, rfl⟩

/-- The merged book carries each answer that is a list of events. -/
theorem Compensation.carries_response {answers : List BusinessResponse}
    {answer : BusinessResponse} (hmem : answer ∈ answers)
    (hevents : answer.IsEvents) (merged : Compensation) :
    Carries (answers.foldl Compensation.merge merged).response answer := by
  obtain ⟨book, hbook⟩ := hevents
  have hpages : answer.eventPages = book.pages := by
    rw [eventPages, hbook]
  obtain ⟨before, after, rfl⟩ := List.append_of_mem hmem
  rw [Carries, hbook]
  refine ⟨_, rfl, ?_⟩
  dsimp only
  rw [Compensation.pages_foldl_merge, List.flatMap_append, List.flatMap_cons, hpages]
  exact ⟨merged.pages ++ before.flatMap eventPages, after.flatMap eventPages, by
    simp only [List.append_assoc]⟩

/-- No decision of an asked handler is lost: when all of them answer, the
router's response carries every answer. -/
def NoDecisionLost (prost : Prost) (router : CommandHandlerRouter)
    (cmd : ContextualCommand) (key : String × String) : Prop :=
  ∀ answers, answersInTurn cmd (initialSeq cmd)
      (selected (reactsTo key) router.factories) = .ok answers →
    ∃ merged, (router.dispatch prost cmd).outcome = .ok merged ∧
      ∀ answer ∈ answers, Carries merged answer

/-- No asked handler answers with anything but events. -/
def AnswersAreEvents (router : CommandHandlerRouter) (cmd : ContextualCommand)
    (key : String × String) : Prop :=
  ∀ answers, answersInTurn cmd (initialSeq cmd)
      (selected (reactsTo key) router.factories) = .ok answers →
    ∀ answer ∈ answers, answer.IsEvents

end CommandHandlerRouter

open CommandHandlerRouter BusinessResponse

/-- The rejection path keeps every decision exactly when no asked handler
answers with anything but events.  In particular the answer of a single
matching handler comes back as it is exactly when it is a list of events, and
a handler that fails fails the dispatch with its error. -/
theorem rejection_decisions_kept_iff_events {prost : Prost}
    {router : CommandHandlerRouter} {cmd : ContextualCommand}
    {key : String × String}
    (hkind : extractCommandTypeUrl cmd = .ok notificationTypeUrl)
    (hkey : extractRejectionKey prost cmd = .ok key) :
    (NoDecisionLost prost router cmd key ↔ AnswersAreEvents router cmd key) ∧
    (∀ handler answer, selected (reactsTo key) router.factories = [handler] →
      handler.answer unwrapCommand (.commandHandler cmd) = .ok answer →
      ((∃ merged, (router.dispatch prost cmd).outcome = .ok merged ∧
          SameDecision merged answer) ↔ answer.IsEvents)) ∧
    (∀ error, answersInTurn cmd (initialSeq cmd)
        (selected (reactsTo key) router.factories) = .error error →
      (router.dispatch prost cmd).outcome = .error error) := by
  have houtcome : (router.dispatch prost cmd).outcome = _ :=
    outcome_dispatch_of_notification hkind hkey
  refine ⟨⟨?_, ?_⟩, ?_, ?_⟩
  · intro hkept answers hanswers answer hmem
    obtain ⟨merged, hmerged, hcarries⟩ := hkept answers hanswers
    rw [houtcome, hanswers] at hmerged
    cases hmerged
    exact (hcarries answer hmem).isEvents (Compensation.isEvents_response _)
  · intro hevents answers hanswers
    refine ⟨_, by rw [houtcome, hanswers]; rfl, fun answer hmem => ?_⟩
    exact Compensation.carries_response hmem (hevents answers hanswers answer hmem) _
  · intro handler answer hselected hanswer
    have hanswers : answersInTurn cmd (initialSeq cmd)
        (selected (reactsTo key) router.factories) = .ok [answer] := by
      rw [hselected, answersInTurn, scopedCommand_initialSeq, hanswer]
      rfl
    rw [houtcome, hanswers]
    constructor
    · rintro ⟨merged, hmerged, hsame⟩
      cases hmerged
      exact hsame.carries.isEvents (Compensation.isEvents_response _)
    · rintro ⟨book, hbook⟩
      refine ⟨_, rfl, ?_⟩
      rw [SameDecision, hbook]
      refine ⟨_, rfl, ?_⟩
      dsimp only
      rw [Compensation.pages_foldl_merge]
      simp [Compensation.start, eventPages, hbook]
  · intro error herror
    rw [houtcome, herror]
    rfl

namespace Sample

def paymentRejected : Prost :=
  prost (commandBook "payment" "type.googleapis.com/payment.ProcessPayment" [])

/-- The notification that a payment was rejected, sent to `domain`. -/
def notify (domain : String) : ContextualCommand where
  command := some (commandBook domain notificationTypeUrl [18, 1])

/-- An aggregate of `domain` that reacts to the rejected payment. -/
def reactor (domain : String) (answer : BusinessResponse) : Aggregate Bool Bool where
  domain := named domain
  state := flagState
  rejected := [{
    method := "on_payment_rejected"
    domain := named "payment"
    command := named "ProcessPayment"
    run := fun _ _ => .ok answer }]

def reactorFactory (domain : String) (answer : BusinessResponse) : Factory :=
  (reactor domain answer).factory paymentRejected

def delegated : BusinessResponse :=
  delegateToFramework "no custom compensation" {}

def compensated : BusinessResponse :=
  emitCompensationEvents { pages := [eventPage "order.PaymentFailed" []] }

end Sample

open Sample in
/-- A single handler that answers as the module documentation of
`compensation.rs` does: the revocation is replaced by an empty event book. -/
theorem revocation_is_lost :
    (CommandHandlerRouter.mk [reactorFactory "order" delegated]).Accepted ∧
    (reactorFactory "order" delegated).handler.answer unwrapCommand
        (.commandHandler (notify "order")) = .ok delegated ∧
    (dispatch paymentRejected
        ⟨[reactorFactory "order" delegated]⟩ (notify "order")).outcome =
      .ok { result := some (.events {}) } ∧
    ¬NoDecisionLost paymentRejected
        ⟨[reactorFactory "order" delegated]⟩ (notify "order")
        ("payment", "ProcessPayment") := by
  refine ⟨⟨"orders", by rfl⟩, by rfl, by rfl, ?_⟩
  intro hkept
  obtain ⟨merged, hmerged, hcarries⟩ := hkept [delegated] (by rfl)
  cases hmerged
  have hrevoked := hcarries delegated (by simp)
  cases hrevoked

open Sample in
/-- The same handler with compensation events gets its answer through. -/
theorem rejection_decisions_kept_iff_events_sample :
    ∃ merged, (dispatch paymentRejected
        ⟨[reactorFactory "order" compensated]⟩ (notify "order")).outcome =
          .ok merged ∧ SameDecision merged compensated :=
  ((rejection_decisions_kept_iff_events (by rfl) (by rfl)).2.1
    (reactorFactory "order" compensated).handler compensated
    (by rfl) (by rfl)).mpr (isEvents_emitCompensationEvents _)

end AngzarrClient
