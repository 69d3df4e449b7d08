/-
What a generated handler advertises and what it does: which keys of its config
a router over it can be brought to run.  The command router computes rejection
keys without separators; the other two routers take no rejection at all.
-/
import AngzarrClient.Macros.Saga
import AngzarrClient.Router.Isolation

namespace AngzarrClient

variable {S Msg In Out : Type}

/-- The keys a config lists: `handled`, then `rejected`. -/
def HandlerConfig.keys : HandlerConfig → List ArmKey
  | .commandHandler config =>
      config.handled.map .handles ++
        config.rejected.map fun key => .rejected key.1 key.2
  | .saga config =>
      config.handled.map .handles ++
        config.rejected.map fun key => .rejected key.1 key.2
  | .processManager config =>
      config.handled.map .handles ++
        config.rejected.map fun key => .rejected key.1 key.2
  | _ => []

/-- The methods declared in an impl block, each under its key. -/
def declaredMethods (handles : List (TypedArm Msg In Out))
    (marks : List RejectedMark) : List (String × ArmKey) :=
  handles.map (fun arm => (arm.method, .handles (fullTypeUrl arm.messageType))) ++
    marks.map fun mark =>
      (mark.method, .rejected mark.domain.value mark.command.value)

def Aggregate.declared (aggregate : Aggregate S Msg) : List (String × ArmKey) :=
  declaredMethods aggregate.handles (aggregate.rejected.map RejectedArm.toRejectedMark)

def Saga.declared (saga : Saga Msg) : List (String × ArmKey) :=
  declaredMethods saga.handles saga.rejected

def ProcessManager.declared (manager : ProcessManager S Msg) :
    List (String × ArmKey) :=
  declaredMethods manager.handles manager.rejected

/-- The router built over the aggregate runs the method under the key on some
command. -/
def Aggregate.Reaches (prost : Prost) (aggregate : Aggregate S Msg)
    (method : String) (key : ArmKey) : Prop :=
  ∃ name router, (Router.build ⟨name, [aggregate.factory prost]⟩).outcome =
      .ok (.commandHandler router) ∧
    ∃ cmd payload, .ran ⟨method, key, payload⟩ ∈ (router.dispatch prost cmd).trace

/-- The same for a saga and some source book. -/
def Saga.Reaches (saga : Saga Msg) (method : String) (key : ArmKey) : Prop :=
  ∃ name router, (Router.build ⟨name, [saga.factory]⟩).outcome =
      .ok (.saga router) ∧
    ∃ request payload, .ran ⟨method, key, payload⟩ ∈ (router.dispatch request).trace

/-- The same for a process manager and some trigger book. -/
def ProcessManager.Reaches (manager : ProcessManager S Msg) (method : String)
    (key : ArmKey) : Prop :=
  ∃ name router, (Router.build ⟨name, [manager.factory]⟩).outcome =
      .ok (.processManager router) ∧
    ∃ request payload, .ran ⟨method, key, payload⟩ ∈ (router.dispatch request).trace

/-- Every key of the config has a method declared for it, and each such method
is reached. -/
def DoesAll (config : HandlerConfig) (declared : List (String × ArmKey))
    (reaches : String → ArmKey → Prop) : Prop :=
  ∀ key ∈ config.keys, (∃ method, (method, key) ∈ declared) ∧
    ∀ method, (method, key) ∈ declared → reaches method key

/-- No key is declared for two different methods. -/
def OneMethodPerKey (declared : List (String × ArmKey)) : Prop :=
  ∀ first ∈ declared, ∀ second ∈ declared, first.2 = second.2 → first.1 = second.1

instance (declared : List (String × ArmKey)) : Decidable (OneMethodPerKey declared) :=
  inferInstanceAs (Decidable (∀ first ∈ declared, ∀ second ∈ declared,
    first.2 = second.2 → first.1 = second.1))

/-- Some bytes decode to the notification that a command with this type URL
was rejected in this domain. -/
def Prost.Delivers (prost : Prost) (domain typeUrl : String) : Prop :=
  ∃ bytes notification inner rejection,
    prost.notification bytes = .ok notification ∧
    notification.payload = some inner ∧
    prost.rejectionNotification inner.value = .ok rejection ∧
    rejection.targetDomain = domain ∧ rejection.commandUrl = some typeUrl

/-- A config that lists exactly the declared keys does all of them when every
declared method is reached. -/
theorem doesAll_iff {config : HandlerConfig} {declared : List (String × ArmKey)}
    {reaches : String → ArmKey → Prop}
    (hkeys : config.keys = declared.map Prod.snd) :
    DoesAll config declared reaches ↔
      ∀ entry ∈ declared, reaches entry.1 entry.2 := by
  rw [DoesAll, hkeys]
  constructor
  · intro hall entry hentry
    exact (hall entry.2 (List.mem_map_of_mem hentry)).2 entry.1 hentry
  · intro hall key hkey
    obtain ⟨entry, hentry, rfl⟩ := List.mem_map.mp hkey
    exact ⟨⟨entry.1, hentry⟩, fun method hmethod => hall (method, entry.2) hmethod⟩

theorem Aggregate.keys_eq (aggregate : Aggregate S Msg) :
    (HandlerConfig.commandHandler aggregate.config).keys =
      aggregate.declared.map Prod.snd := by
  simp [HandlerConfig.keys, config, declared, declaredMethods, armUrls,
    RejectedMark.key, Function.comp_def]

theorem Saga.keys_eq (saga : Saga Msg) :
    (HandlerConfig.saga saga.config).keys = saga.declared.map Prod.snd := by
  simp [HandlerConfig.keys, config, declared, declaredMethods, armUrls,
    RejectedMark.key, Function.comp_def]

theorem ProcessManager.keys_eq (manager : ProcessManager S Msg) :
    (HandlerConfig.processManager manager.config).keys =
      manager.declared.map Prod.snd := by
  simp [HandlerConfig.keys, config, declared, declaredMethods, armUrls,
    RejectedMark.key, Function.comp_def]

theorem mem_declaredMethods {handles : List (TypedArm Msg In Out)}
    {marks : List RejectedMark} {entry : String × ArmKey} :
    entry ∈ declaredMethods handles marks ↔
      (∃ arm ∈ handles, entry = (arm.method, .handles (fullTypeUrl arm.messageType))) ∨
        ∃ mark ∈ marks,
          entry = (mark.method, .rejected mark.domain.value mark.command.value) := by
  simp only [declaredMethods, List.mem_append, List.mem_map, eq_comm]

/-- With one method per key, the first arm for a declared type URL is an arm of
the declared method. -/
theorem firstArm_method {handles : List (TypedArm Msg In Out)}
    {marks : List RejectedMark} (hone : OneMethodPerKey (declaredMethods handles marks))
    {arm : TypedArm Msg In Out} (harm : arm ∈ handles) :
    ∃ first ∈ handles, firstArm (fullTypeUrl arm.messageType) handles = some first ∧
      first.method = arm.method := by
  have hurl : fullTypeUrl arm.messageType ∈ armUrls handles := List.mem_map_of_mem harm
  obtain ⟨first, hfirst, hfind, heq⟩ := exists_firstArm hurl
  refine ⟨first, hfirst, hfind, ?_⟩
  have hdeclared : ∀ other ∈ handles,
      (other.method, ArmKey.handles (fullTypeUrl other.messageType)) ∈
        declaredMethods handles marks :=
    fun other hother => mem_declaredMethods.mpr (Or.inl ⟨other, hother, rfl⟩)
  exact hone _ (hdeclared first hfirst) _ (hdeclared arm harm) (by rw [heq])

/-- A book of `domain` whose one event has no bytes. -/
def triggerBook (domain typeUrl : String) : EventBook where
  cover := some { domain := domain }
  pages := [{ payload := some (.event ⟨typeUrl, []⟩) }]

/-- Every prost message decodes the empty buffer, to its default. -/
def DecodesEmpty (handles : List (TypedArm Msg In Out)) : Prop :=
  ∀ arm ∈ handles, ∃ message, arm.messageType.decode [] = .ok message

/-- The first arm for a type URL runs on an event without bytes. -/
theorem ran_of_firstArm {key : String → ArmKey} {input : In}
    {handles : List (TypedArm Msg In Out)} {typeUrl : String}
    {arm : TypedArm Msg In Out} (hdecode : DecodesEmpty handles)
    (hfirst : firstArm typeUrl handles = some arm) :
    ⟨arm.method, key typeUrl, ⟨typeUrl, []⟩⟩ ∈
      (runArms key input ⟨typeUrl, []⟩ handles).trace := by
  have harm : arm ∈ handles := List.mem_of_find?_eq_some hfirst
  obtain ⟨message, hmessage⟩ := hdecode arm harm
  rw [runArms_eq]
  dsimp only
  rw [hfirst]
  dsimp only
  rw [Traced.trace_map, TypedArm.trace_execute, hmessage]
  exact List.mem_singleton_self _

theorem mem_armUrls_of_firstArm {handles : List (TypedArm Msg In Out)}
    {typeUrl : String} {arm : TypedArm Msg In Out}
    (hfirst : firstArm typeUrl handles = some arm) : typeUrl ∈ armUrls handles := by
  by_contra hnone
  rw [firstArm_eq_none_iff.mpr hnone] at hfirst
  cases hfirst

/-- A handler that reaches the first arm for each declared type URL, and no
other method, does all it advertises exactly if it declares no rejection and no
type for two methods. -/
theorem doesAll_iff_no_rejected {config : HandlerConfig}
    {handles : List (TypedArm Msg In Out)} {marks : List RejectedMark}
    {reaches : String → ArmKey → Prop}
    (hkeys : config.keys = (declaredMethods handles marks).map Prod.snd)
    (honly : ∀ method key, reaches method key → ∃ typeUrl arm,
      key = .handles typeUrl ∧ firstArm typeUrl handles = some arm ∧
        arm.method = method)
    (hfirst : ∀ (ty : MessageType Msg) arm, firstArm (fullTypeUrl ty) handles = some arm →
      reaches arm.method (.handles (fullTypeUrl ty))) :
    DoesAll config (declaredMethods handles marks) reaches ↔
      marks = [] ∧ OneMethodPerKey (declaredMethods handles marks) := by
  rw [doesAll_iff hkeys]
  constructor
  · intro hall
    constructor
    · rw [List.eq_nil_iff_forall_not_mem]
      intro mark hmark
      have hentry := hall _ (mem_declaredMethods.mpr (Or.inr ⟨mark, hmark, rfl⟩))
      obtain ⟨_, _, hkey, _⟩ := honly _ _ hentry
      cases hkey
    · intro one hone two htwo hsame
      obtain ⟨url, arm, hkey, harm, hmethod⟩ := honly _ _ (hall one hone)
      obtain ⟨url', arm', hkey', harm', hmethod'⟩ := honly _ _ (hall two htwo)
      have hurl : url = url' := by
        have heq := hkey.symm.trans (hsame.trans hkey')
        injection heq
      rw [← hurl, harm] at harm'
      injection harm' with heq
      rw [← hmethod, ← hmethod', heq]
  · rintro ⟨hnone, hone⟩ entry hentry
    rcases mem_declaredMethods.mp hentry with ⟨arm, harm, rfl⟩ | ⟨mark, hmark, rfl⟩
    · obtain ⟨first, -, hfind, hmethod⟩ := firstArm_method hone harm
      have hreaches := hfirst arm.messageType first hfind
      rwa [hmethod] at hreaches
    · rw [hnone] at hmark
      cases hmark

namespace Saga

variable {saga : Saga Msg} {method : String} {key : ArmKey}

/-- A saga reaches only its first arm for a type URL, and no rejection key. -/
theorem firstArm_of_reaches (hreaches : saga.Reaches method key) :
    ∃ typeUrl arm, key = .handles typeUrl ∧
      firstArm typeUrl saga.handles = some arm ∧ arm.method = method := by
  obtain ⟨name, router, hbuild, request, payload, hran⟩ := hreaches
  rw [build_outcome_cons] at hbuild
  have hbuilt := hbuild.2.2
  injection hbuilt with hrouter
  subst hrouter
  cases hurl : extractSagaEventTypeUrl request with
  | error error => rw [SagaRouter.dispatch_of_no_url hurl] at hran; cases hran
  | ok url =>
      rw [SagaRouter.dispatch_of_url hurl] at hran
      obtain ⟨eventAny, arm, -, harm, hrun⟩ :=
        ran_of_mem_dispatch (ran_of_mem_dispatchEach_singleton hran)
      injection hrun with hmethod hkey _
      exact ⟨eventAny.typeUrl, arm, hkey, harm, hmethod.symm⟩

theorem reaches_of_firstArm {ty : MessageType Msg} {arm : TypedArm Msg PUnit SagaResponse}
    (hdecode : DecodesEmpty saga.handles)
    (hfirst : firstArm (fullTypeUrl ty) saga.handles = some arm) :
    saga.Reaches arm.method (.handles (fullTypeUrl ty)) := by
  let request : SagaHandleRequest :=
    { source := some (triggerBook saga.source.value (fullTypeUrl ty)) }
  have hevent : lastEvent sagaErrors request.source = .ok ⟨fullTypeUrl ty, []⟩ := rfl
  have hurl : extractSagaEventTypeUrl request = .ok (fullTypeUrl ty) :=
    extractEventTypeUrl_eq_ok_iff.mpr
      ⟨_, hevent, rfl, hasTypeUrlPrefix_fullTypeUrl ty⟩
  have hlistens : SagaRouter.listens saga.source.value (fullTypeUrl ty)
      saga.factory.handler.config = true := by
    simp [SagaRouter.listens, factory, handler, config, mem_armUrls_of_firstArm hfirst]
  refine ⟨"", ⟨[saga.factory]⟩, rfl, request, ⟨fullTypeUrl ty, []⟩, ?_⟩
  rw [SagaRouter.dispatch_of_url hurl]
  apply ran_mem_dispatchEach_singleton hlistens
  change _ ∈ (saga.dispatch (.saga request)).trace
  rw [dispatch_of_event hevent, Traced.trace_map]
  exact ran_of_firstArm hdecode hfirst

end Saga

namespace ProcessManager

variable {manager : ProcessManager S Msg} {method : String} {key : ArmKey}

/-- Nor does a process manager reach anything else. -/
theorem firstArm_of_reaches (hreaches : manager.Reaches method key) :
    ∃ typeUrl arm, key = .handles typeUrl ∧
      firstArm typeUrl manager.handles = some arm ∧ arm.method = method := by
  obtain ⟨name, router, hbuild, request, payload, hran⟩ := hreaches
  rw [build_outcome_cons] at hbuild
  have hbuilt := hbuild.2.2
  injection hbuilt with hrouter
  subst hrouter
  cases hurl : extractPmEventTypeUrl request with
  | error error => rw [ProcessManagerRouter.dispatch_of_no_url hurl] at hran; cases hran
  | ok url =>
      rw [ProcessManagerRouter.dispatch_of_url hurl] at hran
      obtain ⟨eventAny, arm, -, harm, hrun⟩ :=
        ran_of_mem_dispatch (ran_of_mem_dispatchEach_singleton hran)
      injection hrun with hmethod hkey _
      exact ⟨eventAny.typeUrl, arm, hkey, harm, hmethod.symm⟩

theorem reaches_of_firstArm {ty : MessageType Msg}
    {arm : TypedArm Msg S ProcessManagerHandleResponse}
    (hdecode : DecodesEmpty manager.handles)
    (hfirst : firstArm (fullTypeUrl ty) manager.handles = some arm) :
    manager.Reaches arm.method (.handles (fullTypeUrl ty)) := by
  obtain ⟨source, hsource⟩ := List.exists_mem_of_ne_nil _ manager.sources_ne_nil
  let request : ProcessManagerHandleRequest :=
    { trigger := some (triggerBook source.value (fullTypeUrl ty)) }
  have hstate : manager.state.rebuild (request.processState.getD {}).pages =
      .ok manager.state.initial := rfl
  have hevent : lastEvent pmErrors request.trigger = .ok ⟨fullTypeUrl ty, []⟩ := rfl
  have hurl : extractPmEventTypeUrl request = .ok (fullTypeUrl ty) :=
    extractEventTypeUrl_eq_ok_iff.mpr
      ⟨_, hevent, rfl, hasTypeUrlPrefix_fullTypeUrl ty⟩
  have hlistens : ProcessManagerRouter.listens source.value (fullTypeUrl ty)
      manager.factory.handler.config = true := by
    simp only [ProcessManagerRouter.listens, factory, handler, config,
      decide_eq_true_eq]
    exact ⟨List.mem_map_of_mem hsource, mem_armUrls_of_firstArm hfirst⟩
  refine ⟨"", ⟨[manager.factory]⟩, rfl, request, ⟨fullTypeUrl ty, []⟩, ?_⟩
  rw [ProcessManagerRouter.dispatch_of_url hurl]
  apply ran_mem_dispatchEach_singleton hlistens
  change _ ∈ (manager.dispatch (.processManager request)).trace
  rw [dispatch_of_event hstate hevent, Traced.trace_map]
  exact ran_of_firstArm hdecode hfirst

end ProcessManager

namespace CommandHandlerRouter

variable {prost : Prost} {router : CommandHandlerRouter} {cmd : ContextualCommand}

/-- A command only runs methods of registered handlers. -/
theorem ran_of_mem_dispatch {ran : MethodRun}
    (hran : .ran ran ∈ (router.dispatch prost cmd).trace) :
    ∃ factory ∈ router.factories, ∃ sent,
      ran ∈ (factory.handler.dispatch (.commandHandler sent)).trace := by
  cases hpayload : commandPayload cmd with
  | error error =>
      have hurl : extractCommandTypeUrl cmd = .error error := by
        rw [extractCommandTypeUrl, hpayload]
        rfl
      simp [dispatch, hurl] at hran
  | ok payload =>
      by_cases hkind : payload.typeUrl = notificationTypeUrl
      · have hurl : extractCommandTypeUrl cmd = .ok notificationTypeUrl :=
          extractCommandTypeUrl_eq_ok_iff.mpr ⟨payload, hpayload, hkind⟩
        cases hkey : extractRejectionKey prost cmd with
        | error error => simp [dispatch, hurl, dispatchRejection, hkey] at hran
        | ok key =>
            rw [← ran_mem_calls, calls_dispatch_of_notification hurl hkey,
              ran_mem_calls] at hran
            obtain ⟨handler, hhandler, sent, hmem⟩ := ran_of_mem_callEach hran
            obtain ⟨-, factory, hfactory, rfl⟩ := mem_selected.mp hhandler
            exact ⟨factory, hfactory, _, hmem⟩
      · rw [dispatch_of_command hpayload hkind] at hran
        obtain ⟨handler, hhandler, hmem⟩ := ran_of_mem_dispatchFirst hran
        obtain ⟨-, factory, hfactory, rfl⟩ := mem_selected.mp hhandler
        exact ⟨factory, hfactory, cmd, hmem⟩

end CommandHandlerRouter

/-- A command on one page, sent to `domain`. -/
def commandTo (domain : String) (payload : Any) : ContextualCommand where
  command := some
    { cover := some { domain := domain }
      pages := [{ payload := some (.command payload) }] }

/-- The second part of a key of the rejection path holds no separator. -/
theorem RejectionNotification.not_mem_key {rejection : RejectionNotification} {c : Char}
    (hc : c = '/' ∨ c = '.') : c ∉ rejection.key.2.toList := by
  rw [RejectionNotification.key]
  cases rejection.commandUrl with
  | none => simp
  | some url => exact not_mem_commandSuffix hc

namespace Aggregate

variable {prost : Prost} {aggregate : Aggregate S Msg} {method : String} {key : ArmKey}

theorem build_eq_ok_iff {name : String} {router : CommandHandlerRouter} :
    (Router.build ⟨name, [aggregate.factory prost]⟩).outcome =
        .ok (.commandHandler router) ↔
      router.factories = [aggregate.factory prost] ∧
        (armUrls aggregate.handles).Nodup := by
  have hdeclared : (aggregate.factory prost).declared =
      (armUrls aggregate.handles).map fun url => (aggregate.domain.value, url) := rfl
  have hnodup : RoutingTable.Unambiguous Factory.declared [aggregate.factory prost] ↔
      (armUrls aggregate.handles).Nodup := by
    rw [RoutingTable.Unambiguous, List.flatMap_singleton, hdeclared]
    exact List.nodup_map_iff fun _ _ heq => (Prod.ext_iff.mp heq).2
  rw [build_outcome_commandHandler, hnodup]
  have hkind : ∀ factory ∈ [aggregate.factory prost], factory.kind = .commandHandler := by
    intro factory hfactory
    rw [List.mem_singleton.mp hfactory]
    rfl
  simp [hkind]

/-- An aggregate reaches its first arm for a command type, except for
notifications, and its first arm for a key without separators. -/
theorem arm_of_reaches (hreaches : aggregate.Reaches prost method key) :
    (∃ typeUrl arm, key = .handles typeUrl ∧ typeUrl ≠ notificationTypeUrl ∧
        firstArm typeUrl aggregate.handles = some arm ∧ arm.method = method) ∨
      ∃ arm : RejectedArm S,
        key = .rejected arm.domain.value arm.command.value ∧
        (aggregate.rejected.find? fun other => arm.key = other.key) = some arm ∧
        arm.method = method ∧
        '/' ∉ arm.command.value.toList ∧ '.' ∉ arm.command.value.toList := by
  obtain ⟨name, router, hbuild, cmd, payload, hran⟩ := hreaches
  obtain ⟨hfactories, -⟩ := build_eq_ok_iff.mp hbuild
  obtain ⟨factory, hfactory, sent, hmem⟩ := CommandHandlerRouter.ran_of_mem_dispatch hran
  rw [hfactories, List.mem_singleton] at hfactory
  subst hfactory
  rcases ran_of_mem_dispatchCommand hmem with
    ⟨read, arm, hkind, harm, hrun⟩ | ⟨rejection, arm, read, harm, hrun⟩
  · injection hrun with hmethod hkey _
    exact Or.inl ⟨read.typeUrl, arm, hkey, hkind, harm, hmethod.symm⟩
  · injection hrun with hmethod hkey _
    have hmatch : rejection.key = arm.key := by simpa using List.find?_some harm
    have hcommand : arm.command.value = rejection.key.2 := by rw [hmatch]; rfl
    rw [hmatch] at harm
    refine Or.inr ⟨arm, hkey, harm, hmethod.symm, ?_, ?_⟩
    · rw [hcommand]
      exact RejectionNotification.not_mem_key (Or.inl rfl)
    · rw [hcommand]
      exact RejectionNotification.not_mem_key (Or.inr rfl)

theorem reaches_of_firstArm {typeUrl : String}
    {arm : TypedArm Msg (S × UInt32) EventBook}
    (hnodup : (armUrls aggregate.handles).Nodup)
    (hdecode : DecodesEmpty aggregate.handles) (hkind : typeUrl ≠ notificationTypeUrl)
    (hfirst : firstArm typeUrl aggregate.handles = some arm) :
    aggregate.Reaches prost arm.method (.handles typeUrl) := by
  let payload : Any := ⟨typeUrl, []⟩
  let cmd := commandTo aggregate.domain.value payload
  have hpayload : commandPayload cmd = .ok payload := rfl
  have hstate : aggregate.state.rebuild (cmd.events.getD {}).pages =
      .ok aggregate.state.initial := rfl
  have hroutes : CommandHandlerRouter.routesCommand aggregate.domain.value typeUrl
      (aggregate.factory prost).handler.config = true := by
    simp [CommandHandlerRouter.routesCommand, factory, handler, config,
      mem_armUrls_of_firstArm hfirst]
  refine ⟨"", ⟨[aggregate.factory prost]⟩, build_eq_ok_iff.mpr ⟨rfl, hnodup⟩, cmd,
    payload, ?_⟩
  rw [dispatch_of_command hpayload hkind]
  apply ran_mem_dispatchFirst_singleton hroutes
  change _ ∈ (aggregate.dispatchCommand prost cmd).trace
  obtain ⟨message, hmessage⟩ := hdecode arm (List.mem_of_find?_eq_some hfirst)
  rw [dispatchCommand_of_command hpayload hkind hstate]
  dsimp only [payload]
  rw [hfirst]
  dsimp only
  rw [Traced.trace_map, TypedArm.trace_execute, hmessage]
  exact List.mem_singleton_self _

theorem reaches_of_rejectedArm {arm : RejectedArm S}
    (hnodup : (armUrls aggregate.handles).Nodup)
    (hdeliver : prost.Delivers arm.domain.value (typeUrlPrefix ++ arm.command.value))
    (hslash : '/' ∉ arm.command.value.toList) (hdot : '.' ∉ arm.command.value.toList)
    (hfirst : (aggregate.rejected.find? fun other => arm.key = other.key) = some arm) :
    aggregate.Reaches prost arm.method
      (.rejected arm.domain.value arm.command.value) := by
  obtain ⟨bytes, notification, inner, rejection, hbytes, hinner, hrejection, hdomain,
    hcommand⟩ := hdeliver
  let payload : Any := ⟨notificationTypeUrl, bytes⟩
  let cmd := commandTo aggregate.domain.value payload
  have hpayload : commandPayload cmd = .ok payload := rfl
  have hstate : aggregate.state.rebuild (cmd.events.getD {}).pages =
      .ok aggregate.state.initial := rfl
  have hopen : openNotification prost payload = .ok (notification, rejection) := by
    simp only [openNotification, payload, hbytes, hinner, hrejection]
  have hmatch : rejection.key = arm.key := by
    rw [RejectionNotification.key, hdomain, hcommand, Option.map_some, Option.getD_some,
      commandSuffix_prefixed hslash hdot]
    rfl
  have hurl : extractCommandTypeUrl cmd = .ok notificationTypeUrl :=
    extractCommandTypeUrl_eq_ok_iff.mpr ⟨payload, hpayload, rfl⟩
  have hkey : extractRejectionKey prost cmd = .ok arm.key :=
    extractRejectionKey_eq_ok_iff.mpr
      ⟨payload, notification, rejection, hpayload, hopen, hmatch⟩
  have hreacts : CommandHandlerRouter.reactsTo arm.key
      (aggregate.factory prost).handler.config = true := by
    have hmem : arm ∈ aggregate.rejected := List.mem_of_find?_eq_some hfirst
    simp only [CommandHandlerRouter.reactsTo, factory, handler, config,
      decide_eq_true_eq]
    exact List.mem_map.mpr ⟨arm, hmem, rfl⟩
  refine ⟨"", ⟨[aggregate.factory prost]⟩, build_eq_ok_iff.mpr ⟨rfl, hnodup⟩, cmd,
    payload, ?_⟩
  rw [← ran_mem_calls, CommandHandlerRouter.calls_dispatch_of_notification hurl hkey,
    selected_singleton hreacts, ran_mem_calls]
  apply ran_mem_callEach_cons
  change _ ∈ (aggregate.dispatchCommand prost cmd).trace
  rw [dispatchCommand_of_notification hpayload rfl hstate hopen, Traced.trace_map,
    runRejectedArms_eq, hmatch, hfirst]
  dsimp only
  rw [Traced.trace_map, RejectedArm.execute_eq]
  exact List.mem_singleton_self _

/-- With one method per key, the first arm for a declared rejection is an arm
of the declared method. -/
theorem rejectedArm_method (hone : OneMethodPerKey aggregate.declared)
    {arm : RejectedArm S} (harm : arm ∈ aggregate.rejected) :
    ∃ first ∈ aggregate.rejected,
      (aggregate.rejected.find? fun other => arm.key = other.key) = some first ∧
        first.key = arm.key ∧ first.method = arm.method := by
  cases hfind : aggregate.rejected.find? fun other => arm.key = other.key with
  | none =>
      have hnone := List.find?_eq_none.mp hfind arm harm
      simp at hnone
  | some first =>
      have hfirst : first ∈ aggregate.rejected := List.mem_of_find?_eq_some hfind
      have hkey : arm.key = first.key := by simpa using List.find?_some hfind
      have hdeclared : ∀ other ∈ aggregate.rejected,
          (other.method, ArmKey.rejected other.domain.value other.command.value) ∈
            aggregate.declared :=
        fun other hother => mem_declaredMethods.mpr
          (Or.inr ⟨_, List.mem_map_of_mem hother, rfl⟩)
      refine ⟨first, hfirst, rfl, hkey.symm, ?_⟩
      apply hone _ (hdeclared first hfirst) _ (hdeclared arm harm)
      obtain ⟨hdomain, hcommand⟩ := RejectedMark.key_eq_iff.mp hkey
      dsimp only
      rw [hdomain, hcommand]

theorem method_of_reaches {method' : String}
    (hreaches : aggregate.Reaches prost method key)
    (hreaches' : aggregate.Reaches prost method' key) : method = method' := by
  rcases arm_of_reaches hreaches with
    ⟨url, arm, hkey, -, harm, hmethod⟩ | ⟨arm, hkey, harm, hmethod, -⟩
  · rcases arm_of_reaches hreaches' with
      ⟨url', arm', hkey', -, harm', hmethod'⟩ | ⟨arm', hkey', -⟩
    · have hurl : url = url' := by
        have heq := hkey.symm.trans hkey'
        injection heq
      rw [← hurl, harm] at harm'
      injection harm' with heq
      rw [← hmethod, ← hmethod', heq]
    · cases hkey.symm.trans hkey'
  · rcases arm_of_reaches hreaches' with
      ⟨url', arm', hkey', -⟩ | ⟨arm', hkey', harm', hmethod', -⟩
    · cases hkey.symm.trans hkey'
    · have hsame : arm.key = arm'.key := by
        have heq := hkey.symm.trans hkey'
        injection heq with hdomain hcommand
        exact RejectedMark.key_eq_iff.mpr ⟨hdomain, hcommand⟩
      rw [← hsame, harm] at harm'
      injection harm' with heq
      rw [← hmethod, ← hmethod', heq]

/-- An aggregate does all it advertises exactly if no command type has two
methods (`Router::build` would refuse it), none is the notification, no rejected
command holds a separator and no rejection has two methods. -/
theorem doesAll_iff (hdecode : DecodesEmpty aggregate.handles)
    (hdeliver : ∀ arm ∈ aggregate.rejected,
      prost.Delivers arm.domain.value (typeUrlPrefix ++ arm.command.value)) :
    DoesAll (.commandHandler aggregate.config) aggregate.declared
        (aggregate.Reaches prost) ↔
      (armUrls aggregate.handles).Nodup ∧
        notificationTypeUrl ∉ armUrls aggregate.handles ∧
        (∀ arm ∈ aggregate.rejected,
          '/' ∉ arm.command.value.toList ∧ '.' ∉ arm.command.value.toList) ∧
        OneMethodPerKey aggregate.declared := by
  rw [AngzarrClient.doesAll_iff aggregate.keys_eq]
  have hhandles : ∀ arm ∈ aggregate.handles,
      (arm.method, ArmKey.handles (fullTypeUrl arm.messageType)) ∈ aggregate.declared :=
    fun arm harm => mem_declaredMethods.mpr (Or.inl ⟨arm, harm, rfl⟩)
  have hrejected : ∀ arm ∈ aggregate.rejected,
      (arm.method, ArmKey.rejected arm.domain.value arm.command.value) ∈
        aggregate.declared :=
    fun arm harm => mem_declaredMethods.mpr (Or.inr ⟨_, List.mem_map_of_mem harm, rfl⟩)
  constructor
  · intro hall
    refine ⟨?_, ?_, ?_, ?_⟩
    · cases hlist : aggregate.handles with
      | nil => exact List.nodup_nil
      | cons arm rest =>
          have harm : arm ∈ aggregate.handles := by rw [hlist]; exact List.mem_cons_self
          obtain ⟨_, _, hbuild, _⟩ := hall _ (hhandles arm harm)
          rw [← hlist]
          exact (build_eq_ok_iff.mp hbuild).2
    · intro hmem
      obtain ⟨arm, harm, hurl⟩ := List.mem_map.mp hmem
      rcases arm_of_reaches (hall _ (hhandles arm harm)) with
        ⟨url, _, hkey, hne, _⟩ | ⟨_, hkey, _⟩
      · injection hkey with heq
        exact hne (heq.symm.trans hurl)
      · cases hkey
    · intro arm harm
      rcases arm_of_reaches (hall _ (hrejected arm harm)) with
        ⟨_, _, hkey, _⟩ | ⟨_, hkey, -, -, hslash, hdot⟩
      · cases hkey
      · injection hkey with _ hcommand
        rw [hcommand]
        exact ⟨hslash, hdot⟩
    · intro one hone two htwo hsame
      have hreached := hall two htwo
      rw [← hsame] at hreached
      exact method_of_reaches (hall one hone) hreached
  · rintro ⟨hnodup, hkind, hseparators, hone⟩ entry hentry
    rcases mem_declaredMethods.mp hentry with ⟨arm, harm, rfl⟩ | ⟨mark, hmark, rfl⟩
    · obtain ⟨first, -, hfind, hmethod⟩ := firstArm_method hone harm
      have hne : fullTypeUrl arm.messageType ≠ notificationTypeUrl := by
        intro heq
        exact hkind (heq ▸ List.mem_map_of_mem harm)
      have hreaches : aggregate.Reaches prost first.method _ :=
        reaches_of_firstArm hnodup hdecode hne hfind
      rwa [hmethod] at hreaches
    · obtain ⟨arm, harm, rfl⟩ := List.mem_map.mp hmark
      obtain ⟨first, hfirst, hfind, hkey, hmethod⟩ := rejectedArm_method hone harm
      rw [← hkey] at hfind
      have hreaches := reaches_of_rejectedArm hnodup (hdeliver first hfirst)
        (hseparators first hfirst).1 (hseparators first hfirst).2 hfind
      obtain ⟨hdomain, hcommand⟩ := RejectedMark.key_eq_iff.mp hkey
      rw [hmethod, hdomain, hcommand] at hreaches
      exact hreaches

end Aggregate

/-- Which generated handlers do all they advertise.  A saga or a process manager
does unless it declares a rejection, an aggregate unless one of its rejection
keys is no key the router computes or one of its commands is the notification;
and no key may have two methods. -/
theorem advertised_keys_done_iff (S Msg : Type) (prost : Prost) :
    (∀ aggregate : Aggregate S Msg, DecodesEmpty aggregate.handles →
      (∀ arm ∈ aggregate.rejected,
        prost.Delivers arm.domain.value (typeUrlPrefix ++ arm.command.value)) →
      (DoesAll (.commandHandler aggregate.config) aggregate.declared
          (aggregate.Reaches prost) ↔
        (armUrls aggregate.handles).Nodup ∧
          notificationTypeUrl ∉ armUrls aggregate.handles ∧
          (∀ arm ∈ aggregate.rejected,
            '/' ∉ arm.command.value.toList ∧ '.' ∉ arm.command.value.toList) ∧
          OneMethodPerKey aggregate.declared)) ∧
    (∀ saga : Saga Msg, DecodesEmpty saga.handles →
      (DoesAll (.saga saga.config) saga.declared saga.Reaches ↔
        saga.rejected = [] ∧ OneMethodPerKey saga.declared)) ∧
    (∀ manager : ProcessManager S Msg, DecodesEmpty manager.handles →
      (DoesAll (.processManager manager.config) manager.declared manager.Reaches ↔
        manager.rejected = [] ∧ OneMethodPerKey manager.declared)) := by
  refine ⟨?_, ?_, ?_⟩
  · intro aggregate hdecode hdeliver
    exact aggregate.doesAll_iff hdecode hdeliver
  · intro saga hdecode
    apply doesAll_iff_no_rejected saga.keys_eq
    · intro method key hreaches
      exact Saga.firstArm_of_reaches hreaches
    · intro ty arm hfirst
      exact Saga.reaches_of_firstArm hdecode hfirst
  · intro manager hdecode
    apply doesAll_iff_no_rejected manager.keys_eq
    · intro method key hreaches
      exact ProcessManager.firstArm_of_reaches hreaches
    · intro ty arm hfirst
      exact ProcessManager.reaches_of_firstArm hdecode hfirst

namespace Sample

/-- `#[rejected(domain = "payment", command = command)] fn on_rejected`. -/
def onRejected (command : String) : RejectedMark where
  method := "on_rejected"
  domain := named "payment"
  command := named command

/-- A saga on `order.Created` with some rejection methods. -/
def orderSaga (rejected : List RejectedMark) : Saga Bool where
  name := named "saga-order"
  source := named "order"
  target := named "payment"
  handles := [⟨"created", flagType "order.Created", fun _ _ => .ok {}⟩]
  rejected := rejected

/-- A process manager on `order.Created`. -/
def orderManager : ProcessManager Bool Bool where
  name := named "pm-order"
  pmDomain := named "order-flow"
  state := flagState
  sources := [named "order"]
  sources_ne_nil := List.cons_ne_nil _ _
  targets := [named "payment"]
  targets_ne_nil := List.cons_ne_nil _ _
  syncTargets_subset := List.nil_subset _
  handles := [⟨"created", flagType "order.Created", fun _ _ => .ok {}⟩]

/-- An aggregate of `order.Create` with one rejection method. -/
def orderAggregate (command : String) : Aggregate Bool Bool where
  domain := named "order"
  state := flagState
  handles := [⟨"create", flagType "order.Create", fun _ _ => .ok {}⟩]
  rejected := [{ onRejected command with run := fun _ _ => .ok {} }]

/-- Decoders that know the rejection of a top-level `command`. -/
def rejects (command : String) : Prost :=
  prost (commandBook "payment" (typeUrlPrefix ++ command) [])

theorem delivers_rejects (command : String) :
    (rejects command).Delivers "payment" (typeUrlPrefix ++ command) :=
  ⟨[18, 1], _, _, _, rfl, rfl, rfl, rfl, rfl⟩

theorem decodesEmpty_flag {In Out : Type} (method fullName : String)
    (run : Bool → In → CommandResult Out) :
    DecodesEmpty [⟨method, flagType fullName, run⟩] := by
  intro arm harm
  rw [List.mem_singleton.mp harm]
  exact ⟨false, rfl⟩

end Sample

open Sample in
/-- A saga with a rejection method is built and advertises the key, and no
request runs the method; nor does any command run the method an aggregate
declares for a dotted command name. -/
theorem rejection_methods_never_run :
    (("payment", "ProcessPayment") ∈
        (orderSaga [onRejected "ProcessPayment"]).config.rejected ∧
      ¬ (orderSaga [onRejected "ProcessPayment"]).Reaches "on_rejected"
        (.rejected "payment" "ProcessPayment") ∧
      ¬ DoesAll
        (.saga (orderSaga [onRejected "ProcessPayment"]).config)
        (orderSaga [onRejected "ProcessPayment"]).declared
        (orderSaga [onRejected "ProcessPayment"]).Reaches) ∧
    (("payment", "payment.ProcessPayment") ∈
        (orderAggregate "payment.ProcessPayment").config.rejected ∧
      ¬ (orderAggregate "payment.ProcessPayment").Reaches
        (rejects "payment.ProcessPayment") "on_rejected"
        (.rejected "payment" "payment.ProcessPayment")) := by
  have hunreached : ¬ (orderSaga [onRejected "ProcessPayment"]).Reaches
      "on_rejected" (.rejected "payment" "ProcessPayment") := by
    intro hreaches
    obtain ⟨_, _, hkey, _⟩ := Saga.firstArm_of_reaches hreaches
    cases hkey
  refine ⟨⟨by decide, hunreached, ?_⟩, by decide, ?_⟩
  · intro hall
    exact hunreached ((hall (.rejected "payment" "ProcessPayment") (by decide)).2
      "on_rejected" (by decide))
  · intro hreaches
    rcases Aggregate.arm_of_reaches hreaches with
      ⟨_, _, hkey, _⟩ | ⟨_, hkey, -, -, -, hdot⟩
    · cases hkey
    · injection hkey with _ hcommand
      rw [← hcommand] at hdot
      exact hdot (by decide)

open Sample in
/-- The aggregate with a plain command name, the saga without rejections and the
process manager do all they advertise. -/
theorem advertised_keys_done_iff_sample :
    DoesAll (.commandHandler (orderAggregate "ProcessPayment").config)
        (orderAggregate "ProcessPayment").declared
        ((orderAggregate "ProcessPayment").Reaches
          (rejects "ProcessPayment")) ∧
      DoesAll (.saga (orderSaga []).config) (orderSaga []).declared
        (orderSaga []).Reaches ∧
      DoesAll (.processManager orderManager.config) orderManager.declared
        orderManager.Reaches := by
  have hdone := advertised_keys_done_iff Bool Bool (rejects "ProcessPayment")
  refine ⟨(hdone.1 (orderAggregate "ProcessPayment")
      (decodesEmpty_flag _ _ _) ?_).mpr (by decide),
    (hdone.2.1 (orderSaga []) (decodesEmpty_flag _ _ _)).mpr ⟨rfl, by decide⟩,
    (hdone.2.2 orderManager (decodesEmpty_flag _ _ _)).mpr ⟨rfl, by decide⟩⟩
  intro arm harm
  rw [List.mem_singleton.mp harm]
  exact delivers_rejects "ProcessPayment"

end AngzarrClient
