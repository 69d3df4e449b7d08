/-
From the metadata of an impl block to the handler generated for it.  The config
is emitted from one set of lists and the arms from another; they agree, so the
handlers of this development have the configs that the macros emit.
-/
import AngzarrClient.Macros.CommandHandler
import AngzarrClient.Macros.Expand
import AngzarrClient.Macros.Saga

namespace AngzarrClient

variable {S Msg In Out : Type}

/-- The lists kept for the config repeat the lists kept for the arms. -/
structure MethodMetadata.Agrees (found : MethodMetadata) : Prop where
  handled : found.handled = found.handledWithMethods.map Prod.snd
  rejected : found.rejected =
    found.rejectedWithMethods.map fun mark => (mark.domain, mark.command)
  applies : found.applies = found.appliesWithMethods.map Prod.snd
  handlesFact : found.handlesFact = found.handlesFactWithMethods.map Prod.snd

/-- Every arm of the collector extends both lists of a marker or none. -/
theorem MethodMetadata.Agrees.collectAttr {found : MethodMetadata}
    (hagrees : found.Agrees) (method : String) (attr : Attribute) :
    (collectAttr method found attr).Agrees := by
  obtain ⟨hhandled, hrejected, happlies, hfact⟩ := hagrees
  rw [AngzarrClient.collectAttr]
  repeat' split
  all_goals constructor <;> simp [hhandled, hrejected, happlies, hfact]

theorem agrees_collectMethodMetadata (input : ItemImpl) :
    (collectMethodMetadata input).Agrees := by
  rw [collectMethodMetadata_eq_foldl]
  have hfold : ∀ found : MethodMetadata, found.Agrees →
      (input.methodAttrs.foldl (fun found mark => collectAttr mark.1 found mark.2)
        found).Agrees := by
    induction input.methodAttrs with
    | nil => exact fun found hagrees => hagrees
    | cons mark rest ih =>
        exact fun found hagrees => ih _ (hagrees.collectAttr mark.1 mark.2)
  exact hfold {} ⟨rfl, rfl, rfl, rfl⟩

/-- What the names in an impl block stand for: the types it mentions and the
bodies of its methods. -/
structure ImplNames (S Msg : Type) where
  types : String → MessageType Msg
  default : S
  stateFactory : String → S
  applies : String → S → Msg → S

/-- The arms generated from pairs of a method and a type. -/
def ImplNames.arms (names : ImplNames S Msg)
    (body : String → Msg → In → CommandResult Out) (entries : List (String × String)) :
    List (TypedArm Msg In Out) :=
  entries.map fun entry => ⟨entry.1, names.types entry.2, body entry.1⟩

/-- The type URLs emitted for a list of types. -/
def ImplNames.urls (names : ImplNames S Msg) (types : List String) : List String :=
  types.map fun ty => fullTypeUrl (names.types ty)

/-- The keys emitted for a list of rejections. -/
def rejectedKeys (rejected : List (NonEmptyString × NonEmptyString)) :
    List (String × String) :=
  rejected.map fun key => (key.1.value, key.2.value)

/-- The state rebuild generated for an impl block. -/
def ImplNames.stateModel (names : ImplNames S Msg) (found : MethodMetadata) :
    StateModel S Msg where
  default := names.default
  stateFactory := found.stateFactory.map fun method => (method, names.stateFactory method)
  applies := found.appliesWithMethods.map fun entry =>
    ⟨entry.1, names.types entry.2, names.applies entry.1⟩

theorem armUrls_arms (names : ImplNames S Msg)
    (body : String → Msg → In → CommandResult Out) (entries : List (String × String)) :
    armUrls (names.arms body entries) = names.urls (entries.map Prod.snd) := by
  rw [armUrls, ImplNames.arms, ImplNames.urls, List.map_map, List.map_map]
  rfl

theorem applies_stateModel (names : ImplNames S Msg) (found : MethodMetadata) :
    (names.stateModel found).applies.map (fun arm => fullTypeUrl arm.eventType) =
      names.urls (found.appliesWithMethods.map Prod.snd) := by
  rw [ImplNames.stateModel, ImplNames.urls, List.map_map, List.map_map]
  rfl

theorem stateFactory_stateModel (names : ImplNames S Msg) (found : MethodMetadata) :
    (names.stateModel found).stateFactory.map Prod.fst = found.stateFactory := by
  rw [ImplNames.stateModel, Option.map_map]
  exact Option.map_id'

theorem map_key_eq_rejectedKeys (marks : List RejectedMark) :
    marks.map RejectedMark.key =
      rejectedKeys (marks.map fun mark => (mark.domain, mark.command)) := by
  rw [rejectedKeys, List.map_map]
  rfl

/-- The bodies of the methods of a command handler's impl block. -/
structure AggregateBodies (S Msg : Type) where
  handles : String → Msg → S × UInt32 → CommandResult EventBook
  rejected : String → Notification → S → CommandResult BusinessResponse
  handlesFact : String → Msg → S → CommandResult EventBook

/-- The command handler that `expand_aggregate` generates. -/
def Aggregate.generate (names : ImplNames S Msg) (bodies : AggregateBodies S Msg)
    (domain : NonEmptyString) (replay : Option (StateCodec S))
    (found : MethodMetadata) : Aggregate S Msg where
  domain := domain
  state := names.stateModel found
  replay := replay
  handles := names.arms bodies.handles found.handledWithMethods
  rejected := found.rejectedWithMethods.map fun mark =>
    { mark with run := bodies.rejected mark.method }
  handlesFact := names.arms bodies.handlesFact found.handlesFactWithMethods

/-- The saga that `expand_saga` generates. -/
def Saga.generate (names : ImplNames S Msg)
    (body : String → Msg → PUnit → CommandResult SagaResponse)
    (name source target : NonEmptyString) (sync : Bool) (found : MethodMetadata) :
    Saga Msg where
  name := name
  source := source
  target := target
  sync := sync
  handles := names.arms body found.handledWithMethods
  rejected := found.rejectedWithMethods

/-- Put the generated arms into the impl of a process manager. -/
def ProcessManager.generate (names : ImplNames S Msg)
    (body : String → Msg → S → CommandResult ProcessManagerHandleResponse)
    (manager : ProcessManager S Msg) (found : MethodMetadata) : ProcessManager S Msg :=
  { manager with
    state := names.stateModel found
    handles := names.arms body found.handledWithMethods
    rejected := found.rejectedWithMethods }

section Emitted

variable (names : ImplNames S Msg) (input : ItemImpl)

/-- The config of a generated command handler is the one emitted from the
config lists. -/
theorem Aggregate.config_generate (bodies : AggregateBodies S Msg)
    (domain : NonEmptyString) (replay : Option (StateCodec S)) :
    (generate names bodies domain replay (collectMethodMetadata input)).config =
      { domain := domain.value
        handled := names.urls (collectMethodMetadata input).handled
        rejected := rejectedKeys (collectMethodMetadata input).rejected
        applies := names.urls (collectMethodMetadata input).applies
        stateFactory := (collectMethodMetadata input).stateFactory
        handlesFact := names.urls (collectMethodMetadata input).handlesFact
        supportsReplay := replay.isSome } := by
  have hagrees := agrees_collectMethodMetadata input
  rw [config, hagrees.handled, hagrees.rejected, hagrees.applies, hagrees.handlesFact]
  congr 1
  · exact armUrls_arms names bodies.handles _
  · rw [← map_key_eq_rejectedKeys, generate, List.map_map]
    rfl
  · exact applies_stateModel names _
  · exact stateFactory_stateModel names _
  · exact armUrls_arms names bodies.handlesFact _

theorem Saga.config_generate (body : String → Msg → PUnit → CommandResult SagaResponse)
    (name source target : NonEmptyString) (sync : Bool) :
    (generate names body name source target sync (collectMethodMetadata input)).config =
      { name := name.value
        source := source.value
        target := target.value
        sync := sync
        handled := names.urls (collectMethodMetadata input).handled
        rejected := rejectedKeys (collectMethodMetadata input).rejected } := by
  have hagrees := agrees_collectMethodMetadata input
  rw [hagrees.handled, hagrees.rejected, ← map_key_eq_rejectedKeys,
    ← armUrls_arms names body]
  rfl

theorem ProcessManager.config_generate
    (body : String → Msg → S → CommandResult ProcessManagerHandleResponse)
    (manager : ProcessManager S Msg) :
    (generate names body manager (collectMethodMetadata input)).config =
      { manager.config with
        handled := names.urls (collectMethodMetadata input).handled
        rejected := rejectedKeys (collectMethodMetadata input).rejected
        applies := names.urls (collectMethodMetadata input).applies
        stateFactory := (collectMethodMetadata input).stateFactory } := by
  have hagrees := agrees_collectMethodMetadata input
  rw [config, hagrees.handled, hagrees.rejected, hagrees.applies]
  congr 1
  · exact armUrls_arms names body _
  · exact map_key_eq_rejectedKeys _
  · exact applies_stateModel names _
  · exact stateFactory_stateModel names _

end Emitted

end AngzarrClient
