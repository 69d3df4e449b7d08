/-
Which factories are invoked.  A factory may check out a pooled resource, so
each invocation counts; `build` and `dispatch` invoke factories to read the
configs of the handlers these produce.
-/
import AngzarrClient.Router.CommandRouting
import AngzarrClient.Router.Rejection

namespace AngzarrClient

open RoutingTable CommandHandlerRouter

variable {α σ ε : Type}

/-- The factories a run invokes, in order, by the config of what they produce. -/
def invoked (run : Traced Event ε α) : List HandlerConfig :=
  run.trace.filterMap fun event =>
    match event with
    | .produced config => some config
    | _ => none

/-- `Router::new(name)` and a `with_handler` for each factory. -/
def Router.register (name : String) (factories : List Factory) : Router :=
  factories.foldl Router.withHandler ⟨name, []⟩

/-- The handler serves the command: it declares the command, or, when the
command carries a notification, it reacts to the rejection key. -/
def CommandHandlerRouter.serves (prost : Prost) (cmd : ContextualCommand)
    (config : HandlerConfig) : Bool :=
  match extractCommandTypeUrl cmd with
  | .error _ => false
  | .ok typeUrl =>
      if typeUrl = notificationTypeUrl then
        match extractRejectionKey prost cmd with
        | .error _ => false
        | .ok key => reactsTo key config
      else routesCommand (cmd.coverDomain.getD "") typeUrl config

/-- The factory of each handler that serves the command is invoked once, and no
other factory is. -/
def CommandHandlerRouter.InvokesServing (prost : Prost) (router : CommandHandlerRouter)
    (cmd : ContextualCommand) : Prop :=
  invoked (router.dispatch prost cmd) =
    (selected (serves prost cmd) router.factories).map Handler.config

/-- Every handler reacts to the key, up to the first that fails when asked in
turn, and none of those after it does. -/
def OnlyReacting (cmd : ContextualCommand) (key : String × String) (seq : UInt32) :
    List Factory → Prop
  | [] => True
  | factory :: rest =>
      reactsTo key factory.handler.config = true ∧
        match factory.handler.answer unwrapCommand
            (.commandHandler (scopedCommand cmd seq)) with
        | .error _ => ∀ other ∈ rest, reactsTo key other.handler.config = false
        | .ok answer =>
            OnlyReacting cmd key (seq + UInt32.ofNat answer.eventPages.length) rest

/-- When dispatch keeps to the factories of the serving handlers. -/
def CommandHandlerRouter.OnlyServing (prost : Prost) (router : CommandHandlerRouter)
    (cmd : ContextualCommand) : Prop :=
  match extractCommandTypeUrl cmd with
  | .error _ => True
  | .ok typeUrl =>
      if typeUrl = notificationTypeUrl then
        match extractRejectionKey prost cmd with
        | .error _ => True
        | .ok key => OnlyReacting cmd key (initialSeq cmd) router.factories
      else ∃ first, router.factories.head? = some first ∧
        routesCommand (cmd.coverDomain.getD "") typeUrl first.handler.config = true

section Runs

theorem invoked_bind_of_ok {x : Traced Event ε σ} {a : σ} (hx : x.outcome = .ok a)
    (f : σ → Traced Event ε α) : invoked (x >>= f) = invoked x ++ invoked (f a) := by
  rw [invoked, Traced.bind_of_ok hx, List.filterMap_append]
  rfl

theorem invoked_bind_of_error {x : Traced Event ε σ} {error : ε}
    (hx : x.outcome = .error error) (f : σ → Traced Event ε α) :
    invoked (x >>= f) = invoked x := by
  rw [invoked, Traced.bind_of_error hx]
  rfl

@[simp] theorem invoked_produce_bind (factory : Factory)
    (f : Handler → Traced Event ε α) :
    invoked (factory.produce >>= f) =
      factory.handler.config :: invoked (f factory.handler) := rfl

/-- A call to a handler invokes no factory. -/
theorem invoked_call (handler : Handler) (request : HandlerRequest) :
    invoked (handler.call request) = [] := by
  rw [invoked, Handler.trace_call, List.filterMap_cons_none rfl, List.filterMap_map,
    List.filterMap_eq_nil_iff]
  intro run _
  rfl

theorem invoked_bind_eq_nil {x : Traced Event ε σ} {f : σ → Traced Event ε α}
    (hx : invoked x = []) (hf : ∀ a, invoked (f a) = []) : invoked (x >>= f) = [] := by
  cases houtcome : x.outcome with
  | ok a => rw [invoked_bind_of_ok houtcome, hx, hf]; rfl
  | error error => rw [invoked_bind_of_error houtcome, hx]

theorem invoked_map (f : σ → α) (x : Traced Event ε σ) :
    invoked (f <$> x) = invoked x := by
  rw [invoked, Traced.trace_map]
  rfl

end Runs

/-- Registration only stores the factories. -/
theorem Router.register_eq (name : String) (factories : List Factory) :
    Router.register name factories = ⟨name, factories⟩ := by
  have hfold : ∀ (registered factories : List Factory),
      factories.foldl Router.withHandler ⟨name, registered⟩ =
        ⟨name, registered ++ factories⟩ := by
    intro registered factories
    induction factories generalizing registered with
    | nil => rw [List.append_nil]; rfl
    | cons factory rest ih =>
        rw [List.foldl_cons, withHandler, ih, List.append_assoc]
        rfl
  exact hfold [] factories

/-- `build` invokes a factory exactly when it checks for duplicates: for a
non-empty list of command handlers. -/
theorem invoked_build_eq_nil_iff (name : String) (factories : List Factory) :
    invoked (Router.build ⟨name, factories⟩) = [] ↔
      ¬(factories ≠ [] ∧ ∀ factory ∈ factories, factory.kind = .commandHandler) := by
  cases factories with
  | nil => simp [Router.build, invoked]
  | cons first rest =>
      have htrace := checkKinds_trace name first.kind (first :: rest)
      have hkinds := checkKinds_outcome name first.kind (first :: rest)
      rw [Router.build]
      dsimp only
      cases hcheck : (checkKinds name first.kind (first :: rest)).outcome with
      | error error =>
          rw [invoked_bind_of_error hcheck, invoked, htrace]
          rw [hcheck] at hkinds
          simp only [List.filterMap_nil, true_iff, ne_eq, reduceCtorEq, not_false_eq_true,
            true_and]
          intro hall
          have hsame : ∀ factory ∈ first :: rest, factory.kind = first.kind :=
            fun factory hmem => (hall factory hmem).trans (hall first (by simp)).symm
          cases hkinds.mpr hsame
      | ok _ =>
          rw [invoked_bind_of_ok hcheck, invoked, htrace, List.filterMap_nil,
            List.nil_append]
          have hsame := hkinds.mp hcheck
          by_cases hkind : first.kind = .commandHandler
          · rw [if_pos hkind, checkDuplicates, bind_assoc, invoked_produce_bind]
            simp only [reduceCtorEq, false_iff, not_not]
            exact ⟨by simp, fun factory hmem => (hsame factory hmem).trans hkind⟩
          · rw [if_neg hkind]
            simp only [invoked, Traced.trace_pure, List.filterMap_nil, true_iff]
            rintro ⟨-, hall⟩
            exact hkind (hall first (by simp))

/-- The serving handlers do not start with one that does not serve. -/
theorem cons_ne_selected {selects : HandlerConfig → Bool} {config : HandlerConfig}
    (hselects : selects config ≠ true) (rest : List HandlerConfig)
    (factories : List Factory) :
    config :: rest ≠ (selected selects factories).map Handler.config := by
  intro heq
  have hmem : config ∈ (selected selects factories).map Handler.config := by
    rw [← heq]
    exact List.mem_cons_self
  obtain ⟨handler, hhandler, rfl⟩ := List.mem_map.mp hmem
  exact hselects (mem_selected.mp hhandler).1

theorem selected_eq_nil_iff {selects : HandlerConfig → Bool} {factories : List Factory} :
    selected selects factories = [] ↔
      ∀ factory ∈ factories, selects factory.handler.config = false := by
  simp [selected, List.filter_eq_nil_iff]

/-- A call and the reading of its answer go on when the answer is one. -/
theorem invoked_ask (handler : Handler) (request : HandlerRequest)
    (unwrap : HandlerResponse → Except ClientError α) (f : α → Run σ) :
    invoked (handler.call request >>= fun response =>
        Traced.ofExcept (unwrap response) >>= f) =
      match handler.answer unwrap request with
      | .error _ => []
      | .ok answer => invoked (f answer) := by
  rw [Handler.answer]
  cases hcall : (handler.call request).outcome with
  | error error =>
      rw [Handler.outcome_call] at hcall
      rw [invoked_bind_of_error hcall, invoked_call, hcall]
      rfl
  | ok response =>
      rw [Handler.outcome_call] at hcall
      rw [invoked_bind_of_ok hcall, invoked_call, hcall, List.nil_append]
      change _ = match unwrap response with
        | .error _ => []
        | .ok answer => invoked (f answer)
      cases unwrap response with
      | error error => rfl
      | ok answer => rfl

/-- The first-match loop keeps to the factory of the only handler it selects
exactly when this is the first one. -/
theorem invoked_dispatchFirst_iff {selects : HandlerConfig → Bool}
    {request : HandlerRequest} {unwrap : HandlerResponse → Except ClientError α}
    {otherwise : Run α} {first : Factory} {rest : List Factory}
    (honly : selects first.handler.config = true → selected selects rest = []) :
    invoked (dispatchFirst selects request unwrap otherwise (first :: rest)) =
        (selected selects (first :: rest)).map Handler.config ↔
      selects first.handler.config = true := by
  rw [dispatchFirst, invoked_produce_bind]
  by_cases hselects : selects first.handler.config = true
  · rw [if_pos hselects, selected_cons_of_pos hselects, honly hselects,
      invoked_bind_eq_nil (invoked_call _ _) fun _ => rfl]
    simp [hselects]
  · rw [if_neg hselects, iff_false_right hselects]
    exact cons_ne_selected hselects _ _

/-- The rejection loop keeps to the factories of the reacting handlers exactly
when all it comes to react and no reacting one is left when it stops. -/
theorem invoked_dispatchEach_iff (cmd : ContextualCommand) (key : String × String)
    (merged : Compensation) (factories : List Factory) :
    invoked (dispatchEach (reactsTo key) (rejectionRequest cmd) unwrapCommand
        Compensation.merge merged factories) =
        (selected (reactsTo key) factories).map Handler.config ↔
      OnlyReacting cmd key merged.runningSeq factories := by
  induction factories generalizing merged with
  | nil => simp [dispatchEach, invoked, selected, OnlyReacting]
  | cons factory rest ih =>
      rw [dispatchEach, invoked_produce_bind, OnlyReacting]
      by_cases hreacts : reactsTo key factory.handler.config = true
      · rw [if_pos hreacts, selected_cons_of_pos hreacts, List.map_cons,
          List.cons.injEq, invoked_ask, rejectionRequest]
        cases factory.handler.answer unwrapCommand
            (.commandHandler (scopedCommand cmd merged.runningSeq)) with
        | error error =>
            rw [← selected_eq_nil_iff, eq_comm (a := []), List.map_eq_nil_iff]
            simp [hreacts]
        | ok answer =>
            have hstep := ih (merged.merge answer)
            rw [Compensation.merge_eq] at hstep
            simp [hreacts, Compensation.merge_eq, hstep]
      · rw [if_neg hreacts, iff_false_right fun hboth => hreacts hboth.1]
        exact cons_ne_selected hreacts _ _

section Dispatch

variable {prost : Prost} {router : CommandHandlerRouter} {cmd : ContextualCommand}

/-- A handler that serves the command routes it, and the table of an accepted
router lists no pair twice. -/
theorem selected_rest_of_accepted {first : Factory} {rest : List Factory}
    (hunique : Unambiguous Factory.declared (first :: rest)) {domain typeUrl : String}
    (hroutes : routesCommand domain typeUrl first.handler.config = true) :
    selected (routesCommand domain typeUrl) rest = [] := by
  rw [Unambiguous, List.flatMap_cons, List.nodup_append'] at hunique
  obtain ⟨-, -, hdisjoint⟩ := hunique
  rw [selected_eq_nil_iff]
  intro other hother
  rw [Bool.eq_false_iff]
  intro hclash
  apply hdisjoint ((routesCommand_iff _ _ _).mp hroutes)
  exact List.mem_flatMap.mpr ⟨other, hother, (routesCommand_iff _ _ _).mp hclash⟩

/-- Dispatch of an accepted router keeps to the serving factories exactly under
the condition. -/
theorem invokesServing_iff (haccepted : router.Accepted) :
    router.InvokesServing prost cmd ↔ router.OnlyServing prost cmd := by
  obtain ⟨hne, -, hunique⟩ := router.accepted_iff.mp haccepted
  rw [InvokesServing, OnlyServing, dispatch]
  have hserves : serves prost cmd = fun config => serves prost cmd config := rfl
  simp only [serves] at hserves
  rw [hserves]
  cases extractCommandTypeUrl cmd with
  | error error =>
      simp [invoked, selected, Traced.fail_bind]
  | ok typeUrl =>
      rw [Traced.ofExcept_ok, pure_bind]
      dsimp only
      by_cases hkind : typeUrl = notificationTypeUrl
      · simp only [if_pos hkind]
        rw [dispatchRejection]
        cases extractRejectionKey prost cmd with
        | error error =>
            simp [invoked, selected, Traced.fail_bind]
        | ok key =>
            rw [Traced.ofExcept_ok, pure_bind, ← map_eq_pure_bind, invoked_map]
            exact invoked_dispatchEach_iff cmd key (Compensation.start cmd)
              router.factories
      · simp only [if_neg hkind]
        obtain ⟨factories⟩ := router
        cases factories with
        | nil => exact absurd rfl hne
        | cons first rest =>
            refine (invoked_dispatchFirst_iff fun hroutes =>
              selected_rest_of_accepted hunique hroutes).trans ?_
            simp

end Dispatch

/-- Factories are invoked as documented exactly so far: building invokes none
unless all it is given is command handlers, and a command invokes the factory of
the serving handler alone when this is the first one registered; a notification
does when every handler reacts, up to the first that fails, and none after it. -/
theorem factories_invoked_as_documented_iff (prost : Prost) :
    (∀ name factories, invoked (Router.register name factories).build = [] ↔
      ¬(factories ≠ [] ∧ ∀ factory ∈ factories, factory.kind = .commandHandler)) ∧
    ∀ (router : CommandHandlerRouter) (cmd : ContextualCommand), router.Accepted →
      (router.InvokesServing prost cmd ↔ router.OnlyServing prost cmd) := by
  constructor
  · intro name factories
    rw [Router.register_eq]
    exact invoked_build_eq_nil_iff name factories
  · intro router cmd haccepted
    exact invokesServing_iff haccepted

open Sample in
/-- Building over two command handlers invokes both factories, and a command
for the second handler invokes the factory of the first as well. -/
theorem stock_factory_is_invoked :
    invoked (Router.register "shop" [stock, order]).build =
      [stock.handler.config, order.handler.config] ∧
    (CommandHandlerRouter.mk [stock, order]).Accepted ∧
    invoked (dispatch (prost {}) ⟨[stock, order]⟩ (create "order")) =
      [stock.handler.config, order.handler.config] ∧
    ¬InvokesServing (prost {}) ⟨[stock, order]⟩ (create "order") := by
  refine ⟨by rfl, ⟨"shop", by rfl⟩, by rfl, ?_⟩
  intro hserving
  have hlength := congrArg List.length hserving
  exact absurd hlength (by decide)

open Sample in
/-- Registered first, the order handler is the only one a command of its own
invokes. -/
theorem factories_invoked_as_documented_iff_sample :
    invoked (Router.register "shop" [order]).build ≠ [] ∧
      InvokesServing (prost {}) ⟨[order, stock]⟩ (create "order") := by
  have hdocumented := factories_invoked_as_documented_iff (prost {})
  constructor
  · rw [Ne, hdocumented.1, not_not]
    exact ⟨by simp, by simp [order, Aggregate.factory]⟩
  · apply (hdocumented.2 ⟨[order, stock]⟩ (create "order") ⟨"shop", by rfl⟩).mpr
    exact ⟨order, rfl, by decide⟩

end AngzarrClient
