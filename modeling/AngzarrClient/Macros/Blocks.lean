/-
Impl blocks as they are written, and the handlers that the kind macros make of them.  What
a block spells out is said about its text: the arguments of its kind attribute, and its
marked methods in their order.  An expansion that succeeds gives that and nothing else.
-/
import AngzarrClient.Macros.Generate
import AngzarrClient.Macros.KindGrammar
import AngzarrClient.Macros.Projector
import AngzarrClient.Macros.Upcaster

namespace AngzarrClient

variable {S I Msg : Type}

/-- The type that an attribute names: one identifier between its delimiters. -/
def Attribute.type? (attr : Attribute) : Option String :=
  match attr.args with
  | .list [.ident ty] => if ty ∈ rustKeywords then none else some ty
  | _ => none

namespace ItemImpl

variable (input : ItemImpl)

/-- The methods that the word marks for a type, in the order of the text. -/
def typed (word : String) : List (String × String) :=
  (input.marked word).filterMap fun mark => mark.2.type?.map (Prod.mk mark.1)

/-- The methods that are marked for a rejection. -/
def rejections : List RejectedMark :=
  (input.marked "rejected").filterMap fun mark =>
    (getRejectedArgs mark.2).toOption.map fun args => ⟨mark.1, args.1, args.2⟩

/-- The methods that are marked as a step from one type to another. -/
def steps : List (String × String × String) :=
  (input.marked "upcasts").filterMap fun mark =>
    (getUpcastsArgs mark.2).toOption.map (Prod.mk mark.1)

/-- The last state factory of the text. -/
def lastStateFactory : Option String :=
  (input.marked "state_factory").getLast?.map Prod.fst

/-- No other kind attribute is on the block. -/
def OneKind : Prop :=
  ∀ attr ∈ input.attrs, ∀ word ∈ kindAttrs, ¬ attr.path.isIdent word

end ItemImpl

section Collected

theorem toOption_getAttrIdent (attr : Attribute) :
    (getAttrIdent attr).toOption = attr.type? := by
  rw [Attribute.type?]
  split
  · next ty hargs =>
      by_cases hkeyword : ty ∈ rustKeywords
      · simp [getAttrIdent, hargs, parseIdent, hkeyword, Except.toOption]
      · simp [getAttrIdent, hargs, parseIdent, hkeyword, Except.toOption]
  · next hother =>
      cases hname : getAttrIdent attr with
      | error message => rfl
      | ok name => exact absurd (getAttrIdent_eq_ok_iff.mp hname).1 (hother name)

theorem toOption_map {α β : Type} (f : α → β) (x : Except String α) :
    (x.map f).toOption = x.toOption.map f := by
  cases x <;> rfl

/-- A list of the collector is what its markers read, in the order of the text. -/
theorem collected_eq_filterMap {α : Type} {input : ItemImpl} {list : List α}
    {read : String × Attribute → Option α} (marker : Marker) (file : α → String × MarkerKey)
    (hfile : Function.Injective file)
    (hlist : (collectMethodMetadata input).entries marker = list.map file)
    (hread : ∀ mark, marker.record mark = (read mark).map file) :
    list = (input.marked marker.word).filterMap read := by
  apply List.map_injective_iff.mpr hfile
  rw [← hlist, entries_collectMethodMetadata, List.map_filterMap]
  exact List.filterMap_congr fun mark _ => hread mark

variable (input : ItemImpl)

theorem file_type_injective :
    Function.Injective fun entry : String × String =>
      (entry.1, MarkerKey.type entry.2) := by
  rintro ⟨method, ty⟩ ⟨method', ty'⟩ heq
  cases heq
  rfl

theorem record_type (mark : String × Attribute) :
    ((getAttrIdent mark.2).map MarkerKey.type).toOption.map (Prod.mk mark.1) =
      (mark.2.type?.map (Prod.mk mark.1)).map
        fun entry => (entry.1, MarkerKey.type entry.2) := by
  rw [toOption_map, toOption_getAttrIdent]
  cases mark.2.type? <;> rfl

theorem handledWithMethods_eq :
    (collectMethodMetadata input).handledWithMethods = input.typed "handles" :=
  collected_eq_filterMap .handles _ file_type_injective rfl record_type

theorem handlesFactWithMethods_eq :
    (collectMethodMetadata input).handlesFactWithMethods = input.typed "handles_fact" :=
  collected_eq_filterMap .handlesFact _ file_type_injective rfl record_type

theorem appliesWithMethods_eq :
    (collectMethodMetadata input).appliesWithMethods = input.typed "applies" :=
  collected_eq_filterMap .applies _ file_type_injective rfl record_type

theorem rejectedWithMethods_eq :
    (collectMethodMetadata input).rejectedWithMethods = input.rejections := by
  apply collected_eq_filterMap .rejected
    fun mark => (mark.method, .rejection mark.domain mark.command)
  · rintro ⟨method, domain, command⟩ ⟨method', domain', command'⟩ heq
    cases heq
    rfl
  · rfl
  · intro mark
    rw [Marker.record, Marker.key, toOption_map]
    cases (getRejectedArgs mark.2).toOption <;> rfl

theorem upcastsWithMethods_eq :
    (collectMethodMetadata input).upcastsWithMethods = input.steps := by
  apply collected_eq_filterMap .upcasts
    fun entry => (entry.1, .upcast entry.2.1 entry.2.2)
  · rintro ⟨method, source, target⟩ ⟨method', source', target'⟩ heq
    cases heq
    rfl
  · rfl
  · intro mark
    rw [Marker.record, Marker.key, toOption_map]
    cases (getUpcastsArgs mark.2).toOption <;> rfl

end Collected

/-- The attribute says the arguments, the last entry of each key counting. -/
def AttributeSays (kind : Kind) (attr : List Token) (args : KindArgs) : Prop :=
  ∃ entries, KindEntries kind.keys attr entries ∧
    args.SaidBy fun key => entries.reverse.dlookup key

/-- The state model that a block spells out. -/
def ItemImpl.stateModel (input : ItemImpl) (names : ImplNames S Msg) : StateModel S Msg where
  default := names.default
  stateFactory := input.lastStateFactory.map fun method =>
    (method, names.stateFactory method)
  applies := (input.typed "applies").map fun entry =>
    ⟨entry.1, names.types entry.2, names.applies entry.1⟩

/-- An impl block under `#[command_handler(..)]`, with what its names stand for.  A state
type that is no message has no codec. -/
structure AggregateBlock (S Msg : Type) where
  attr : List Token
  input : ItemImpl
  names : ImplNames S Msg
  bodies : AggregateBodies S Msg
  codec : Option (StateCodec S) := none

section Expansion

variable {kind : Kind} {attr : List Token} {input : ItemImpl}

/-- A macro expands exactly what is written as its grammar asks and is of one kind, and
goes on with the arguments that are said. -/
theorem expandMacro_eq_ok_iff_says {expansion : Expansion} :
    expandMacro kind attr input = .ok expansion ↔
      input.OneKind ∧ expansion.args.kind = kind ∧
        AttributeSays kind attr expansion.args ∧
        expansion.metadata = collectMethodMetadata input ∧
        expansion.input = stripMethodMarkers input := by
  rw [expandMacro, except_bind_eq_ok_iff]
  constructor
  · rintro ⟨args, hargs, hrest⟩
    split at hrest
    · cases hrest
    · next hstacked =>
        cases hrest
        obtain ⟨hkind, hsays⟩ := parseKindArgs_eq_ok_iff.mp hargs
        exact ⟨rejectStackedKinds_eq_none_iff.mp hstacked, hkind, hsays, rfl, rfl⟩
  · rintro ⟨hone, hkind, hsays, hmetadata, hinput⟩
    refine ⟨expansion.args, parseKindArgs_eq_ok_iff.mpr ⟨hkind, hsays⟩, ?_⟩
    rw [rejectStackedKinds_eq_none_iff.mpr hone]
    change Except.ok (⟨expansion.args, _, _⟩ : Expansion) = _
    rw [← hmetadata, ← hinput]

theorem stateModel_collected (names : ImplNames S Msg) :
    names.stateModel (collectMethodMetadata input) = input.stateModel names := by
  rw [ImplNames.stateModel, ItemImpl.stateModel, stateFactory_collectMethodMetadata,
    appliesWithMethods_eq]
  rfl

end Expansion

namespace AggregateBlock

variable (block : AggregateBlock S Msg)

/-- The handler that the macro makes of a block. -/
def expand : Except String (Aggregate S Msg) := do
  let expansion ← expandMacro .commandHandler block.attr block.input
  match expansion.args with
  | .commandHandler domain _ supportsReplay =>
      if supportsReplay ∧ block.codec.isNone then
        .error "the state type does not implement prost::Message"
      else pure (.generate block.names block.bodies domain
        (if supportsReplay then block.codec else none) expansion.metadata)
  -- the parser of a kind gives arguments of the kind
  | _ => .error "unreachable"

/-- The handler with the methods as they are marked in the text. -/
def program (domain : NonEmptyString) (replay : Option (StateCodec S)) :
    Aggregate S Msg where
  domain := domain
  state := block.input.stateModel block.names
  replay := replay
  handles := block.names.arms block.bodies.handles (block.input.typed "handles")
  rejected := block.input.rejections.map fun mark =>
    { mark with run := block.bodies.rejected mark.method }
  handlesFact := block.names.arms block.bodies.handlesFact (block.input.typed "handles_fact")

/-- What a command handler's block spells out. -/
structure Spells (aggregate : Aggregate S Msg) : Prop where
  oneKind : block.input.OneKind
  args : ∃ state, AttributeSays .commandHandler block.attr
    (.commandHandler aggregate.domain state aggregate.replay.isSome)
  replay : ∀ codec, aggregate.replay = some codec → block.codec = some codec
  program : aggregate = block.program aggregate.domain aggregate.replay

theorem generate_eq_program (domain : NonEmptyString) (replay : Option (StateCodec S)) :
    .generate block.names block.bodies domain replay (collectMethodMetadata block.input) =
      block.program domain replay := by
  rw [Aggregate.generate, program, stateModel_collected, handledWithMethods_eq,
    rejectedWithMethods_eq, handlesFactWithMethods_eq]

theorem expand_eq_ok_iff {aggregate : Aggregate S Msg} :
    block.expand = .ok aggregate ↔ block.Spells aggregate := by
  rw [expand, except_bind_eq_ok_iff]
  constructor
  · rintro ⟨expansion, hexpansion, hrest⟩
    obtain ⟨hone, -, hsays, hmetadata, -⟩ := expandMacro_eq_ok_iff_says.mp hexpansion
    split at hrest
    · next domain state supportsReplay hargs =>
        split at hrest
        · cases hrest
        · next hcodec =>
            rw [hmetadata, generate_eq_program] at hrest
            cases hrest
            refine ⟨hone, ⟨state, ?_⟩, ?_, rfl⟩
            · rw [hargs] at hsays
              cases supportsReplay with
              | false => exact hsays
              | true =>
                  cases hstate : block.codec with
                  | none => exact absurd ⟨rfl, by rw [hstate]; rfl⟩ hcodec
                  | some codec => exact hsays
            · intro codec hreplay
              cases supportsReplay with
              | false => cases hreplay
              | true => exact hreplay
    · cases hrest
  · rintro ⟨hone, ⟨state, hsays⟩, hreplay, hprogram⟩
    refine ⟨⟨.commandHandler aggregate.domain state aggregate.replay.isSome,
      collectMethodMetadata block.input, stripMethodMarkers block.input⟩,
      expandMacro_eq_ok_iff_says.mpr ⟨hone, rfl, hsays, rfl, rfl⟩, ?_⟩
    dsimp only
    rw [generate_eq_program]
    cases hcodec : aggregate.replay with
    | none =>
        rw [hprogram, hcodec]
        rfl
    | some codec =>
        rw [hreplay codec hcodec, hprogram, hcodec]
        rfl

end AggregateBlock

/-- An impl block under `#[saga(..)]`. -/
structure SagaBlock (Msg : Type) where
  attr : List Token
  input : ItemImpl
  names : ImplNames PUnit Msg
  body : String → Msg → PUnit → CommandResult SagaResponse

namespace SagaBlock

variable (block : SagaBlock Msg)

def expand : Except String (Saga Msg) := do
  let expansion ← expandMacro .saga block.attr block.input
  match expansion.args with
  | .saga name source target sync =>
      pure (.generate block.names block.body name source target sync expansion.metadata)
  | _ => .error "unreachable"

structure Spells (saga : Saga Msg) : Prop where
  oneKind : block.input.OneKind
  args : AttributeSays .saga block.attr (.saga saga.name saga.source saga.target saga.sync)
  handles : saga.handles = block.names.arms block.body (block.input.typed "handles")
  rejected : saga.rejected = block.input.rejections

theorem expand_eq_ok_iff {saga : Saga Msg} :
    block.expand = .ok saga ↔ block.Spells saga := by
  rw [expand, except_bind_eq_ok_iff]
  constructor
  · rintro ⟨expansion, hexpansion, hrest⟩
    obtain ⟨hone, -, hsays, hmetadata, -⟩ := expandMacro_eq_ok_iff_says.mp hexpansion
    split at hrest
    · next name source target sync hargs =>
        cases hrest
        rw [hargs] at hsays
        refine ⟨hone, hsays, ?_, ?_⟩
        · rw [Saga.generate, hmetadata, handledWithMethods_eq]
        · rw [Saga.generate, hmetadata, rejectedWithMethods_eq]
    · cases hrest
  · rintro ⟨hone, hsays, hhandles, hrejected⟩
    refine ⟨⟨.saga saga.name saga.source saga.target saga.sync,
      collectMethodMetadata block.input, stripMethodMarkers block.input⟩,
      expandMacro_eq_ok_iff_says.mpr ⟨hone, rfl, hsays, rfl, rfl⟩, ?_⟩
    dsimp only
    rw [Saga.generate, handledWithMethods_eq, rejectedWithMethods_eq, ← hhandles,
      ← hrejected]
    rfl

end SagaBlock

/-- An impl block under `#[process_manager(..)]`. -/
structure ProcessManagerBlock (S Msg : Type) where
  attr : List Token
  input : ItemImpl
  names : ImplNames S Msg
  body : String → Msg → S → CommandResult ProcessManagerHandleResponse

namespace ProcessManagerBlock

variable (block : ProcessManagerBlock S Msg)

def expand : Except String (ProcessManager S Msg) := do
  let expansion ← expandMacro .processManager block.attr block.input
  match expansion.args with
  | .processManager name pmDomain _ sources targets syncTargets =>
      -- the parser has checked the lists
      if h : sources ≠ [] ∧ targets ≠ [] ∧ syncTargets ⊆ targets then
        pure (.generate block.names block.body
          { name := name
            pmDomain := pmDomain
            state := { default := block.names.default }
            sources := sources
            sources_ne_nil := h.1
            targets := targets
            targets_ne_nil := h.2.1
            syncTargets := syncTargets
            syncTargets_subset := h.2.2 } expansion.metadata)
      else .error "unreachable"
  | _ => .error "unreachable"

structure Spells (manager : ProcessManager S Msg) : Prop where
  oneKind : block.input.OneKind
  args : ∃ state, AttributeSays .processManager block.attr
    (.processManager manager.name manager.pmDomain state manager.sources manager.targets
      manager.syncTargets)
  state : manager.state = block.input.stateModel block.names
  handles : manager.handles = block.names.arms block.body (block.input.typed "handles")
  rejected : manager.rejected = block.input.rejections

theorem expand_eq_ok_iff {manager : ProcessManager S Msg} :
    block.expand = .ok manager ↔ block.Spells manager := by
  rw [expand, except_bind_eq_ok_iff]
  constructor
  · rintro ⟨expansion, hexpansion, hrest⟩
    obtain ⟨hone, -, hsays, hmetadata, -⟩ := expandMacro_eq_ok_iff_says.mp hexpansion
    split at hrest
    · next name pmDomain state sources targets syncTargets hargs =>
        split at hrest
        · cases hrest
          rw [hargs] at hsays
          refine ⟨hone, ⟨state, hsays⟩, ?_, ?_, ?_⟩
          · rw [ProcessManager.generate, hmetadata, stateModel_collected]
          · rw [ProcessManager.generate, hmetadata, handledWithMethods_eq]
          · rw [ProcessManager.generate, hmetadata, rejectedWithMethods_eq]
        · cases hrest
    · cases hrest
  · rintro ⟨hone, ⟨state, hsays⟩, hstate, hhandles, hrejected⟩
    refine ⟨⟨.processManager manager.name manager.pmDomain state manager.sources
      manager.targets manager.syncTargets, collectMethodMetadata block.input,
      stripMethodMarkers block.input⟩,
      expandMacro_eq_ok_iff_says.mpr ⟨hone, rfl, hsays, rfl, rfl⟩, ?_⟩
    dsimp only
    rw [dif_pos ⟨manager.sources_ne_nil, manager.targets_ne_nil,
      manager.syncTargets_subset⟩, ProcessManager.generate, stateModel_collected,
      handledWithMethods_eq, rejectedWithMethods_eq, ← hstate, ← hhandles, ← hrejected]
    rfl

end ProcessManagerBlock

/-- An impl block under `#[projector(..)]`; `fresh` is what its factory constructs. -/
structure ProjectorBlock (I Msg : Type) where
  attr : List Token
  input : ItemImpl
  names : ImplNames I Msg
  body : String → Msg → I → CommandResult I
  fresh : I

namespace ProjectorBlock

variable (block : ProjectorBlock I Msg)

/-- `expand_projector`. -/
def expand : Except String (Projector I Msg) := do
  let expansion ← expandMacro .projector block.attr block.input
  match expansion.args with
  | .projector name domains =>
      -- the parser has checked the list
      if h : domains ≠ [] then
        pure {
          name := name
          domains := domains
          domains_ne_nil := h
          fresh := block.fresh
          handles := block.names.arms block.body expansion.metadata.handledWithMethods }
      else .error "unreachable"
  | _ => .error "unreachable"

structure Spells (projector : Projector I Msg) : Prop where
  oneKind : block.input.OneKind
  args : AttributeSays .projector block.attr (.projector projector.name projector.domains)
  fresh : projector.fresh = block.fresh
  handles : projector.handles = block.names.arms block.body (block.input.typed "handles")

theorem expand_eq_ok_iff {projector : Projector I Msg} :
    block.expand = .ok projector ↔ block.Spells projector := by
  rw [expand, except_bind_eq_ok_iff]
  constructor
  · rintro ⟨expansion, hexpansion, hrest⟩
    obtain ⟨hone, -, hsays, hmetadata, -⟩ := expandMacro_eq_ok_iff_says.mp hexpansion
    split at hrest
    · next name domains hargs =>
        split at hrest
        · cases hrest
          rw [hargs] at hsays
          refine ⟨hone, hsays, rfl, ?_⟩
          rw [hmetadata, handledWithMethods_eq]
        · cases hrest
    · cases hrest
  · rintro ⟨hone, hsays, hfresh, hhandles⟩
    refine ⟨⟨.projector projector.name projector.domains,
      collectMethodMetadata block.input, stripMethodMarkers block.input⟩,
      expandMacro_eq_ok_iff_says.mpr ⟨hone, rfl, hsays, rfl, rfl⟩, ?_⟩
    dsimp only
    rw [dif_pos projector.domains_ne_nil, handledWithMethods_eq, ← hfresh, ← hhandles]
    rfl

end ProjectorBlock

/-- An impl block under `#[upcaster(..)]`. -/
structure UpcasterBlock (Msg : Type) where
  attr : List Token
  input : ItemImpl
  types : String → EventCodec Msg
  body : String → Msg → Msg

namespace UpcasterBlock

variable (block : UpcasterBlock Msg)

def arms (steps : List (String × String × String)) : List (UpcastArm Msg) :=
  steps.map fun step =>
    ⟨step.1, (block.types step.2.1).toMessageType, block.types step.2.2, block.body step.1⟩

/-- `expand_upcaster`. -/
def expand : Except String (Upcaster Msg) := do
  let expansion ← expandMacro .upcaster block.attr block.input
  match expansion.args with
  | .upcaster name domain =>
      pure {
        name := name
        domain := domain
        upcasts := block.arms expansion.metadata.upcastsWithMethods }
  | _ => .error "unreachable"

structure Spells (upcaster : Upcaster Msg) : Prop where
  oneKind : block.input.OneKind
  args : AttributeSays .upcaster block.attr (.upcaster upcaster.name upcaster.domain)
  upcasts : upcaster.upcasts = block.arms block.input.steps

theorem expand_eq_ok_iff {upcaster : Upcaster Msg} :
    block.expand = .ok upcaster ↔ block.Spells upcaster := by
  rw [expand, except_bind_eq_ok_iff]
  constructor
  · rintro ⟨expansion, hexpansion, hrest⟩
    obtain ⟨hone, -, hsays, hmetadata, -⟩ := expandMacro_eq_ok_iff_says.mp hexpansion
    split at hrest
    · next name domain hargs =>
        cases hrest
        rw [hargs] at hsays
        refine ⟨hone, hsays, ?_⟩
        rw [hmetadata, upcastsWithMethods_eq]
    · cases hrest
  · rintro ⟨hone, hsays, hupcasts⟩
    refine ⟨⟨.upcaster upcaster.name upcaster.domain, collectMethodMetadata block.input,
      stripMethodMarkers block.input⟩,
      expandMacro_eq_ok_iff_says.mpr ⟨hone, rfl, hsays, rfl, rfl⟩, ?_⟩
    dsimp only
    rw [upcastsWithMethods_eq, ← hupcasts]
    rfl

end UpcasterBlock

/-- Each kind macro expands exactly the blocks that are of one kind and say in their
attribute what the kind has to be told, and makes of them the handler that they spell out:
every method under a well-formed marker, in the order of the text, and no other. -/
theorem blocks_expand_as_written :
    (∀ {S Msg : Type} (block : AggregateBlock S Msg) (aggregate : Aggregate S Msg),
      block.expand = .ok aggregate ↔ block.Spells aggregate) ∧
    (∀ {Msg : Type} (block : SagaBlock Msg) (saga : Saga Msg),
      block.expand = .ok saga ↔ block.Spells saga) ∧
    (∀ {S Msg : Type} (block : ProcessManagerBlock S Msg) (manager : ProcessManager S Msg),
      block.expand = .ok manager ↔ block.Spells manager) ∧
    (∀ {I Msg : Type} (block : ProjectorBlock I Msg) (projector : Projector I Msg),
      block.expand = .ok projector ↔ block.Spells projector) ∧
    ∀ {Msg : Type} (block : UpcasterBlock Msg) (upcaster : Upcaster Msg),
      block.expand = .ok upcaster ↔ block.Spells upcaster :=
  ⟨fun block _ => block.expand_eq_ok_iff, fun block _ => block.expand_eq_ok_iff,
    fun block _ => block.expand_eq_ok_iff, fun block _ => block.expand_eq_ok_iff,
    fun block _ => block.expand_eq_ok_iff⟩

end AngzarrClient
