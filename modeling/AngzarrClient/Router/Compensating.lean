/-
The way back of a rejected command: from the command that a saga or a process manager
sent, whatever was written to its headers, to the rejected methods of the aggregates
that compensate for it, and to the source event that these read off the notification.
-/
import AngzarrClient.Router.Outbound
import AngzarrClient.Router.Refinement

namespace AngzarrClient

open CommandHandlerRouter Traced

/-- A command that was rejected comes back.  However its headers were stamped and
deferred, and whoever is registered, the router runs the rejected methods that the
aggregates declare for its domain and its type, in the order of registration and up to
the first that fails, each on the delivered notification and the state of the delivered
history; their events make up the answer.  What they read off the notification names
the source event that the last write to the headers left. -/
theorem rejection_returns {μ : Type} [OrderedMap μ String UInt32] (prost : Prost)
    (aggregates : List AnyAggregate) (cmd : CommandBook) (steps : List (HeaderStep μ))
    {delivery : ContextualCommand} {payload inner : Any} {notification : Notification}
    {rejection : RejectionNotification} (hpayload : commandPayload delivery = .ok payload)
    (hkind : payload.typeUrl = notificationTypeUrl)
    (hnotification : prost.notification payload.value = .ok notification)
    (hinner : notification.payload = some inner)
    (hdecode : prost.rejectionNotification inner.value = .ok rejection)
    (hrejected : rejection.rejectedCommand = some (steps.foldl CommandBook.write cmd)) :
    methodsOf (dispatch prost ⟨aggregates.map (AnyAggregate.factory prost)⟩ delivery) =
        compensations delivery <$> (aggregates.filterMap
          (AnyAggregate.reaction cmd.rejectionKey notification payload
            (delivery.events.getD {}).pages)).mapM id ∧
      CompensationContext.fromNotification prost notification =
        { rejectionReason := rejection.rejectionReason
          rejectedCommand := some (steps.foldl CommandBook.write cmd)
          sourceAggregate := (sourceAfter cmd steps).bind AngzarrDeferredSequence.source
          sourceEventSequence :=
            ((sourceAfter cmd steps).map AngzarrDeferredSequence.sourceSeq).getD 0 } ∧
      (CompensationContext.fromNotification prost notification).dispatchKey =
        ({ rejectedCommand := some cmd } : CompensationContext).dispatchKey := by
  have hopen : openNotification prost payload = .ok (notification, rejection) := by
    simp only [openNotification, hnotification, hinner, hdecode]
  have hcontext := fromNotification_foldl hinner hdecode hrejected
  refine ⟨?_, hcontext, dispatchKey_foldl (by rw [hcontext])⟩
  rw [← key_foldl hrejected]
  exact methodsOf_dispatch_of_notification hpayload hkind hopen aggregates

namespace Sample

/-- The payment of an order. -/
def payment : CommandBook :=
  commandBook "payment" "type.googleapis.com/payment.ProcessPayment" []

/-- Decoders for the rejection of the payment after these writes. -/
def paymentReturned (steps : List (HeaderStep (PairMap String UInt32))) : Prost :=
  prost (steps.foldl CommandBook.write payment)

end Sample

open Sample in
/-- The stamp failed, and the source that was deferred before is read off the rejection by
the one method that compensates for it. -/
theorem rejection_returns_sample :
    let decoders := paymentReturned deferThenFail
    let router : CommandHandlerRouter := ⟨[(reactor "order" compensated).factory decoders]⟩
    (methodsOf (dispatch decoders router (notify "order"))).trace =
        [⟨"on_payment_rejected", .rejected "payment" "ProcessPayment",
          ⟨notificationTypeUrl, [18, 1]⟩⟩] ∧
      ∃ notification, decoders.notification [18, 1] = .ok notification ∧
        (CompensationContext.fromNotification decoders notification).sourceAggregate =
          some { domain := "player" } := by
  intro decoders router
  have hpayload : commandPayload (notify "order") = .ok ⟨notificationTypeUrl, [18, 1]⟩ := rfl
  obtain ⟨hmethods, hcontext, -⟩ := rejection_returns decoders
    [⟨reactor "order" compensated⟩] payment deferThenFail hpayload rfl rfl rfl rfl rfl
  refine ⟨?_, _, rfl, congrArg CompensationContext.sourceAggregate hcontext⟩
  exact (congrArg Traced.trace hmethods).trans (by decide +kernel)

end AngzarrClient
