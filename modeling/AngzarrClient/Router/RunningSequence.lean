/-
The running sequence of the rejection loop.  `dispatch_rejection` counts the
pages the handlers emit and puts the count reached into the event book of the
command the next matching handler gets.
-/
import AngzarrClient.Router.Rejection

namespace AngzarrClient

open CommandHandlerRouter

variable {α σ : Type}

/-- The request an event sends, with the config of the handler it goes to. -/
def Event.sent : Event → Option (HandlerConfig × HandlerRequest)
  | .dispatched config request => some (config, request)
  | _ => none

/-- The requests a run sends to handlers, in order. -/
def sentRequests (run : Run α) : List (HandlerConfig × HandlerRequest) :=
  run.trace.filterMap Event.sent

/-- The number of pages in a list of event books. -/
def pageCount (books : List EventBook) : Nat :=
  (books.flatMap EventBook.pages).length

/-- In the run, the handlers answer with these event books, one each. -/
def AnsweredWith (run : Run α) (handlers : List Handler) (books : List EventBook) :
    Prop :=
  books.length = handlers.length ∧ ∀ (k : Nat) (handler : Handler) (book : EventBook)
    (request : HandlerRequest), handlers[k]? = some handler → books[k]? = some book →
      (sentRequests run)[k]? = some (handler.config, request) →
      handler.answer unwrapCommand request = .ok (emitCompensationEvents book)

@[simp] theorem pageCount_nil : pageCount [] = 0 := rfl

@[simp] theorem pageCount_cons (book : EventBook) (books : List EventBook) :
    pageCount (book :: books) = book.pages.length + pageCount books := by
  simp [pageCount]

theorem pageCount_take_le (books : List EventBook) (k : Nat) :
    pageCount (books.take k) ≤ pageCount books := by
  induction books generalizing k with
  | nil => simp
  | cons book rest ih =>
      cases k with
      | zero => simp
      | succ k =>
          have hrest := ih k
          simp only [List.take_succ_cons, pageCount_cons]
          omega

section Sent

/-- Invoking factories aside, a run sends what its calls say. -/
theorem sentRequests_eq_of_calls {run : Run α} {other : Run σ}
    (hcalls : calls run = calls other) : sentRequests run = sentRequests other := by
  have hread : ∀ {β : Type} (other : Run β),
      sentRequests other = (calls other).filterMap Event.sent := by
    intro β other
    rw [calls, List.filterMap_filter, sentRequests]
    congr 1
    funext event
    cases event with
    | produced | dispatched | ran => rfl
  rw [hread, hread, hcalls]

theorem sentRequests_call_append (handler : Handler) (request : HandlerRequest)
    (outcome : Except ClientError σ) (later : Run α) :
    sentRequests (⟨(handler.call request).trace ++ later.trace, outcome⟩ : Run σ) =
      (handler.config, request) :: sentRequests later := by
  have hran : ((handler.dispatch request).trace.map Event.ran).filterMap Event.sent =
      [] := by
    rw [List.filterMap_map, List.filterMap_eq_nil_iff]
    intro run _
    rfl
  have hsent : Event.sent (.dispatched handler.config request) =
      some (handler.config, request) := rfl
  rw [sentRequests, List.filterMap_append, Handler.trace_call,
    List.filterMap_cons_some hsent, hran]
  rfl

variable {request : σ → HandlerRequest} {unwrap : HandlerResponse → Except ClientError α}
  {merge : σ → α → σ}

/-- The loop sends the first handler its request and goes on when it answers. -/
theorem sentRequests_callEach_cons (merged : σ) (handler : Handler)
    (rest : List Handler) :
    sentRequests (callEach request unwrap merge merged (handler :: rest)) =
      (handler.config, request merged) ::
        match handler.answer unwrap (request merged) with
        | .error _ => []
        | .ok answer =>
            sentRequests (callEach request unwrap merge (merge merged answer) rest) := by
  cases hanswer : handler.answer unwrap (request merged) with
  | error error =>
      have hsent := sentRequests_call_append handler (request merged)
        (.error error : Except ClientError σ) (pure merged)
      rw [Traced.trace_pure, List.append_nil] at hsent
      rw [callEach_cons_of_error hanswer, hsent]
      rfl
  | ok answer =>
      rw [callEach_cons_of_ok hanswer, sentRequests_call_append]

/-- A handler that fails on the request it is sent fails the loop. -/
theorem outcome_callEach_of_answer_error {merged : σ} {handlers : List Handler}
    {k : Nat} {handler : Handler} {sent : HandlerRequest} {error : ClientError}
    (hhandler : handlers[k]? = some handler)
    (hsent : (sentRequests (callEach request unwrap merge merged handlers))[k]? =
      some (handler.config, sent))
    (herror : handler.answer unwrap sent = .error error) :
    (callEach request unwrap merge merged handlers).outcome = .error error := by
  induction handlers generalizing merged k with
  | nil => simp at hhandler
  | cons first rest ih =>
      rw [sentRequests_callEach_cons] at hsent
      cases k with
      | zero =>
          simp only [List.getElem?_cons_zero, Option.some.injEq, Prod.mk.injEq]
            at hhandler hsent
          obtain rfl := hhandler
          rw [← hsent.2] at herror
          rw [callEach_cons_of_error herror]
      | succ k =>
          rw [List.getElem?_cons_succ] at hhandler hsent
          cases hanswer : first.answer unwrap (request merged) with
          | error other => simp [hanswer] at hsent
          | ok answer =>
              rw [hanswer] at hsent
              rw [callEach_cons_of_ok hanswer]
              exact ih hhandler hsent

end Sent

section Loop

variable {cmd : ContextualCommand} {merged : Compensation}

theorem seq_add_ofNat (seq : UInt32) (a b : Nat) :
    seq + UInt32.ofNat (a + b) = seq + UInt32.ofNat a + UInt32.ofNat b := by
  rw [UInt32.ofNat_add, UInt32.add_assoc]

theorem seq_add_ofNat_zero (seq : UInt32) : seq + UInt32.ofNat 0 = seq :=
  UInt32.add_zero seq

/-- A count that fits does not wrap. -/
theorem toNat_seq_add {seq : UInt32} {count : Nat} (hfits : seq.toNat + count < UInt32.size) :
    (seq + UInt32.ofNat count).toNat = seq.toNat + count := by
  have hcount : (UInt32.ofNat count).toNat = count :=
    UInt32.toNat_ofNat_of_lt' ((Nat.le_add_left _ _).trans_lt hfits)
  rw [UInt32.toNat_add, hcount]
  exact Nat.mod_eq_of_lt hfits

/-- The loop when every handler answers with events: it adds up the pages, and
each handler is sent the sequence the earlier pages lead to. -/
theorem callEach_of_answeredWith {handlers : List Handler} {books : List EventBook}
    (hanswered : AnsweredWith (callEach (rejectionRequest cmd) unwrapCommand
      Compensation.merge merged handlers) handlers books) :
    (callEach (rejectionRequest cmd) unwrapCommand Compensation.merge merged
        handlers).outcome =
      .ok { runningSeq := merged.runningSeq + UInt32.ofNat (pageCount books)
            pages := merged.pages ++ books.flatMap EventBook.pages } ∧
    sentRequests (callEach (rejectionRequest cmd) unwrapCommand Compensation.merge merged
        handlers) =
      handlers.mapIdx fun k handler => (handler.config, .commandHandler
        (scopedCommand cmd
          (merged.runningSeq + UInt32.ofNat (pageCount (books.take k))))) := by
  induction handlers generalizing merged books with
  | nil =>
      rw [List.length_eq_zero_iff.mp hanswered.1]
      simp [callEach, sentRequests]
  | cons handler rest ih =>
      obtain ⟨hlength, hanswers⟩ := hanswered
      cases books with
      | nil => cases hlength
      | cons book books =>
          rw [sentRequests_callEach_cons] at hanswers ⊢
          have hfirst := hanswers 0 handler book _ rfl rfl rfl
          rw [hfirst] at hanswers ⊢
          have htail : AnsweredWith (callEach (rejectionRequest cmd) unwrapCommand
              Compensation.merge (merged.merge (emitCompensationEvents book)) rest)
              rest books :=
            ⟨Nat.succ_inj.mp hlength, fun k other later request hother hlater =>
              hanswers (k + 1) other later request hother hlater⟩
          obtain ⟨houtcome, hsent⟩ := ih htail
          have hstep : merged.merge (emitCompensationEvents book) =
              { runningSeq := merged.runningSeq + UInt32.ofNat book.pages.length
                pages := merged.pages ++ book.pages } := rfl
          constructor
          · rw [callEach_cons_of_ok hfirst]
            dsimp only
            rw [houtcome, hstep, pageCount_cons, seq_add_ofNat, List.flatMap_cons,
              List.append_assoc]
          · rw [List.mapIdx_cons]
            dsimp only
            rw [hsent, hstep, List.take_zero, pageCount_nil, seq_add_ofNat_zero]
            simp only [List.take_succ_cons, pageCount_cons, seq_add_ofNat]
            rfl

end Loop

/-- On a rejection whose matched handlers answer with events, the merged book
holds their pages one after the other and is numbered past them, and each
handler is sent the command at the sequence the earlier pages lead to; a handler
that fails fails the dispatch with its error. -/
theorem rejection_sequence_runs_on {prost : Prost} {router : CommandHandlerRouter}
    {cmd : ContextualCommand} {key : String × String}
    (hkind : extractCommandTypeUrl cmd = .ok notificationTypeUrl)
    (hkey : extractRejectionKey prost cmd = .ok key) :
    (∀ books, AnsweredWith (router.dispatch prost cmd)
          (selected (reactsTo key) router.factories) books →
        (initialSeq cmd).toNat + pageCount books < UInt32.size →
      (∃ merged, (router.dispatch prost cmd).outcome =
          .ok (emitCompensationEvents merged) ∧
        merged.pages = books.flatMap EventBook.pages ∧
        merged.nextSequence.toNat = (initialSeq cmd).toNat + pageCount books) ∧
      (sentRequests (router.dispatch prost cmd)).length =
        (selected (reactsTo key) router.factories).length ∧
      ∀ (k : Nat) handler, (selected (reactsTo key) router.factories)[k]? = some handler →
        ∃ seq : UInt32, seq.toNat = (initialSeq cmd).toNat + pageCount (books.take k) ∧
          (sentRequests (router.dispatch prost cmd))[k]? =
            some (handler.config, .commandHandler { cmd with
              events := cmd.events.map fun book => { book with nextSequence := seq } })) ∧
    ∀ (k : Nat) handler sent error,
      (selected (reactsTo key) router.factories)[k]? = some handler →
      (sentRequests (router.dispatch prost cmd))[k]? = some (handler.config, sent) →
      handler.answer unwrapCommand sent = .error error →
      (router.dispatch prost cmd).outcome = .error error := by
  have hsame : sentRequests (router.dispatch prost cmd) = _ :=
    sentRequests_eq_of_calls (calls_dispatch_of_notification hkind hkey)
  have houtcome : (router.dispatch prost cmd).outcome = _ :=
    outcome_dispatch_eq_callEach hkind hkey
  constructor
  · intro books hanswered hfits
    rw [AnsweredWith, hsame] at hanswered
    obtain ⟨hmerged, hsent⟩ := callEach_of_answeredWith hanswered
    rw [hsame, hsent, houtcome, hmerged]
    refine ⟨⟨_, rfl, ?_, ?_⟩, List.length_mapIdx, ?_⟩
    · exact List.nil_append _
    · exact toNat_seq_add hfits
    · intro k handler hhandler
      have hbefore := pageCount_take_le books k
      refine ⟨_, toNat_seq_add (by omega), ?_⟩
      rw [List.getElem?_mapIdx, hhandler]
      rfl
  · intro k handler sent error hhandler hrequest herror
    rw [hsame] at hrequest
    rw [houtcome, outcome_callEach_of_answer_error hhandler hrequest herror]
    rfl

namespace Sample

/-- The book of an order that gives up on a payment. -/
def cancelled : EventBook := { pages := [eventPage "order.PaymentFailed" []] }

/-- The book of a ledger that undoes it in two steps. -/
def reversed : EventBook :=
  { pages := [eventPage "ledger.Reversed" [], eventPage "ledger.Closed" []] }

/-- Both react to the rejected payment. -/
def reacting : CommandHandlerRouter :=
  ⟨[reactorFactory "order" (emitCompensationEvents cancelled),
    reactorFactory "ledger" (emitCompensationEvents reversed)]⟩

/-- The notification, with events up to `next` attached. -/
def notifyAt (next : UInt32) : ContextualCommand :=
  { notify "order" with events := some { nextSequence := next } }

end Sample

open Sample in
/-- The second handler is sent the sequence after the page of the first. -/
theorem rejection_sequence_runs_on_sample :
    (∃ merged, (dispatch paymentRejected reacting (notifyAt 7)).outcome =
        .ok (emitCompensationEvents merged) ∧
      merged.pages = cancelled.pages ++ reversed.pages ∧
      merged.nextSequence.toNat = 10) ∧
    ∃ seq : UInt32, seq.toNat = 8 ∧
      (sentRequests (dispatch paymentRejected reacting (notifyAt 7)))[1]? =
        some (reacting.factories[1].handler.config, .commandHandler (notifyAt seq)) := by
  have hkey : extractRejectionKey paymentRejected (notifyAt 7) =
      .ok ("payment", "ProcessPayment") := by
    rfl
  have hkind : extractCommandTypeUrl (notifyAt 7) = .ok notificationTypeUrl := by
    rfl
  have hsent : sentRequests (dispatch paymentRejected reacting (notifyAt 7)) =
      [(reacting.factories[0].handler.config, .commandHandler (notifyAt 7)),
        (reacting.factories[1].handler.config, .commandHandler (notifyAt 8))] := by
    rfl
  have hanswered : AnsweredWith (dispatch paymentRejected reacting (notifyAt 7))
      (selected (reactsTo ("payment", "ProcessPayment")) reacting.factories)
      [cancelled, reversed] := by
    refine ⟨by rfl, fun k handler book request hhandler hbook hrequest => ?_⟩
    rw [hsent] at hrequest
    match k with
    | 0 => cases hhandler; cases hbook; cases hrequest; rfl
    | 1 => cases hhandler; cases hbook; cases hrequest; rfl
    | _ + 2 => cases hbook
  obtain ⟨hmerged, -, hsecond⟩ := (rejection_sequence_runs_on hkind hkey).1
    [cancelled, reversed] hanswered (by decide)
  exact ⟨hmerged, hsecond 1 reacting.factories[1].handler rfl⟩

end AngzarrClient
