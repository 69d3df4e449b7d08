/-
Builders at work: what a chain of builder calls sends, over either client, and what
comes back.  A chain that fails sends nothing; any other sends one request, with what
was set last.
-/
import AngzarrClient.Client.Requests

namespace AngzarrClient

open LastWrite

variable {Mode Strategy Msg : Type}

/-- The run sent one `HandleCommand` request for the book, and ends as the server
answers it. -/
structure SentCommand [CommandModes Mode] (channel : Channel) (book : CommandBook)
    (syncMode : Mode) (run : ClientRun CommandResponse) : Prop where
  sent : ∃ request : Request CommandRequest,
    run.trace = [.handleCommand request] ∧
      run.outcome = (channel.handleCommand request).mapError .ofStatus ∧
      request.message.command = some book ∧
      ProtoEnum.tryFrom request.message.syncMode = some syncMode ∧
      request.message.cascadeErrorMode = CommandModes.cascadeErrorFailFast Mode ∧
      request.message.cascadeId = none ∧
      request.metadata = correlationMetadata channel (CoverExt.correlationId book)

theorem sentCommand_handleCommand [CommandModes Mode] (channel : Channel)
    (book : CommandBook) (syncMode : Mode) :
    SentCommand channel book syncMode
      ((CommandHandlerClient.mk channel).handleCommand (commandRequest book syncMode)) := by
  have hcorrelated := correlated_of_sent channel (.executeWithMode book syncMode) rfl
  rw [Rpc.Correlated, Rpc.cover, message_correlatedRequest] at hcorrelated
  refine ⟨_, rfl, rfl, ?_⟩
  rw [message_correlatedRequest]
  exact ⟨rfl, ProtoEnum.tryFrom_asI32 syncMode, rfl, rfl, hcorrelated⟩

section Command

open CommandSetter

variable [MergeStrategies Strategy] [CommandModes Mode]

/-- Over either client, `execute` runs as its book does once that is built. -/
theorem execute_of_build (channel : Channel) (fresh : String) (builder : CommandBuilder Strategy)
    (syncMode : Mode) :
    builder.execute (CommandHandlerClient.mk channel) fresh syncMode =
        builder.execute (DomainClient.fromChannel channel) fresh syncMode ∧
      (∀ error, builder.build fresh = .error error →
        builder.execute (CommandHandlerClient.mk channel) fresh syncMode = .fail error) ∧
      ∀ book, builder.build fresh = .ok book →
        builder.execute (CommandHandlerClient.mk channel) fresh syncMode =
          (CommandHandlerClient.mk channel).handleCommand (commandRequest book syncMode) := by
  refine ⟨rfl, fun error herror => ?_, fun book hbook => ?_⟩
  · rw [CommandBuilder.execute, herror]
    rfl
  · rw [CommandBuilder.execute, hbook]
    rfl

/-- Executing a chain of setter calls, in any order and over either client.  Without a
command or without a sequence it fails with the matching error and sends nothing.
Otherwise it sends one request, in the given mode, for a book with one page that says
what was set last, and its header repeats the book's correlation id. -/
theorem execute_sends_last_values (channel : Channel) (encode : Msg → Bytes)
    (fresh : String) (domain : String) (root : Uuid)
    (setters : List (CommandSetter Strategy Msg)) (syncMode : Mode) :
    let builder := applyAll encode (CommandBuilder.new domain root) setters
    let run := builder.execute (CommandHandlerClient.mk channel) fresh syncMode
    run = builder.execute (DomainClient.fromChannel channel) fresh syncMode ∧
      (last? command? setters = none → run = .fail .commandTypeUrlMissing) ∧
      (last? command? setters ≠ none → last? sequence? setters = none →
        run = .fail .commandSequenceMissing) ∧
      (last? command? setters ≠ none → last? sequence? setters ≠ none →
        ∃ book : CommandBook, book.SaysLast encode fresh domain root setters ∧
          SentCommand channel book syncMode run) := by
  intro builder run
  obtain ⟨hclients, hfails, hsends⟩ := execute_of_build channel fresh builder syncMode
  refine ⟨hclients, fun hcommand => ?_, fun hcommand hsequence => ?_,
    fun hcommand hsequence => ?_⟩
  · exact hfails _ ((CommandBuilder.build_eq_error _).mpr (Or.inl ⟨hcommand, rfl⟩))
  · exact hfails _ ((CommandBuilder.build_eq_error _).mpr
      (Or.inr ⟨hcommand, hsequence, rfl⟩))
  · cases hbuild : builder.build fresh with
    | error error =>
        rcases (CommandBuilder.build_eq_error error).mp hbuild with ⟨hnone, -⟩ | ⟨-, hnone, -⟩
        · exact absurd hnone hcommand
        · exact absurd hnone hsequence
    | ok book =>
        refine ⟨book, CommandBuilder.saysLast_of_build hbuild, ?_⟩
        have hrun : run = _ := hsends book hbuild
        rw [hrun]
        exact sentCommand_handleCommand channel book syncMode

end Command

section Query

open QuerySelector

/-- Books that come without an error are kept, in order. -/
theorem drain_append (results books : List EventBook) (rest : List (Except Status EventBook)) :
    drain results (books.map .ok ++ rest) = drain (results ++ books) rest := by
  induction books generalizing results with
  | nil => rw [List.append_nil]; rfl
  | cons book books ih =>
      apply (ih (results ++ [book])).trans
      rw [List.append_assoc, List.singleton_append]

/-- What `get_events` makes of the server's answer: all books of the stream, or the
error that is in the way of them. -/
structure Drained (answer : Except Status (List (Except Status EventBook)))
    (outcome : Except ClientError (List EventBook)) : Prop where
  refused : ∀ status, answer = .error status → outcome = .error (.ofStatus status)
  complete : ∀ books : List EventBook, answer = .ok (books.map .ok) → outcome = .ok books
  broken : ∀ (books : List EventBook) status after,
    answer = .ok (books.map .ok ++ .error status :: after) →
      outcome = .error (.ofStatus status)

theorem drained_getEvents (client : QueryClient) (query : Query) :
    Drained (client.inner.getEvents (client.request query))
      (client.getEvents query).outcome := by
  rw [QueryClient.getEvents, Traced.outcome_bind, outcome_send]
  constructor
  · intro status hanswer
    rw [hanswer]
    rfl
  · intro books hanswer
    rw [hanswer]
    have hdrain := drain_append [] books []
    rw [List.append_nil] at hdrain
    exact hdrain
  · intro books status after hanswer
    rw [hanswer]
    exact drain_append [] books (.error status :: after)

/-- The request asks for what the selectors said last, and its header repeats the
correlation id. -/
structure AskedLast (channel : Channel) (chrono : String → Except String Timestamp)
    (domain : String) (root : Option Uuid) (selectors : List QuerySelector)
    (request : Request Query) : Prop where
  message : request.message.AsksLast chrono domain root selectors
  metadata : request.metadata =
    correlationMetadata channel ((last? correlationId? selectors).getD "")

theorem askedLast_request {channel : Channel} {chrono : String → Except String Timestamp}
    {domain : String} {root : Option Uuid} {selectors : List QuerySelector}
    {builder : QueryBuilder}
    (hchain : applyAll chrono (QueryBuilder.new domain root) selectors = .ok builder) :
    AskedLast channel chrono domain root selectors
      ((QueryClient.mk channel).request builder.build) := by
  have hasks := QueryBuilder.asksLast_of_applyAll hchain
  rw [QueryClient.request, correlatedRequest_eq]
  refine ⟨hasks, ?_⟩
  rw [← hasks.correlationId]
  rfl

/-- Fetching with a chain of selectors, over either client.  A timestamp that does not
parse ends the chain with its error, and nothing is sent.  Otherwise one request asks
for what was selected last; `get_pages` hands out the pages of the book in the answer,
and `get_events` all books of the stream or its first error. -/
theorem query_fetches_last_selection (channel : Channel)
    (chrono : String → Except String Timestamp) (domain : String) (root : Option Uuid)
    (selectors : List QuerySelector) :
    let chain := applyAll chrono (QueryBuilder.new domain root) selectors
    let pages : ClientRun (List EventPage) :=
      Traced.ofExcept chain >>= QueryBuilder.getPages (QueryClient.mk channel)
    let events : ClientRun (List EventBook) :=
      Traced.ofExcept chain >>= QueryBuilder.getEvents (QueryClient.mk channel)
    (pages = Traced.ofExcept chain >>=
        QueryBuilder.getPages (DomainClient.fromChannel channel) ∧
      events = Traced.ofExcept chain >>=
        QueryBuilder.getEvents (DomainClient.fromChannel channel)) ∧
      (∀ before selector after error, selectors = before ++ selector :: after →
        (∀ other ∈ before, ∀ error, ¬other.Unparsable chrono error) →
        selector.Unparsable chrono error → pages = .fail error ∧ events = .fail error) ∧
      ((∀ selector ∈ selectors, ∀ error, ¬selector.Unparsable chrono error) →
        ∃ request : Request Query, AskedLast channel chrono domain root selectors request ∧
          pages.trace = [.getEventBook request] ∧
          pages.outcome = ((channel.getEventBook request).mapError .ofStatus).map
            EventBook.pages ∧
          events.trace = [.getEvents request] ∧
          Drained (channel.getEvents request) events.outcome) := by
  intro chain pages events
  refine ⟨⟨rfl, rfl⟩, fun before selector after error hselectors hbefore hselector => ?_,
    fun hparse => ?_⟩
  · have hchain : chain = .error error :=
      QueryBuilder.applyAll_eq_error_iff.mpr ⟨before, selector, after, hselectors, hbefore,
        hselector⟩
    simp only [pages, events, hchain, Traced.ofExcept_error, Traced.fail_bind, and_self]
  · cases hchain : chain with
    | error error =>
        obtain ⟨before, selector, after, rfl, -, hselector⟩ :=
          QueryBuilder.applyAll_eq_error_iff.mp hchain
        exact absurd hselector (hparse selector (by simp) error)
    | ok builder =>
        refine ⟨_, askedLast_request hchain, ?_, ?_, ?_, ?_⟩
        · simp only [pages, hchain, Traced.ofExcept_ok, pure_bind]
          exact Traced.trace_map _ _
        · simp only [pages, hchain, Traced.ofExcept_ok, pure_bind]
          exact Traced.outcome_map _ _
        · simp only [events, hchain, Traced.ofExcept_ok, pure_bind]
          exact trace_getEvents ⟨channel⟩ builder.build
        · simp only [events, hchain, Traced.ofExcept_ok, pure_bind]
          exact drained_getEvents ⟨channel⟩ builder.build

end Query

end AngzarrClient
