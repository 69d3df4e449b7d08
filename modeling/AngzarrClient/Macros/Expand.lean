/-
Impl blocks under the kind macros: the metadata collected from their methods
(`collect_method_metadata`), the markers taken off them
(`strip_method_markers`) and the entry point that does both.
-/
import AngzarrClient.Macros.Grammar

namespace AngzarrClient

/-- `syn::Path` of an attribute; such paths carry no generic arguments. -/
structure Path where
  leadingColon : Bool := false
  segments : List String
deriving DecidableEq, Repr

/-- `Path::is_ident`. -/
def Path.isIdent (path : Path) (word : String) : Prop :=
  path = { segments := [word] }

instance (path : Path) (word : String) : Decidable (path.isIdent word) :=
  inferInstanceAs (Decidable (path = _))

theorem Path.isIdent_unique {path : Path} {first second : String}
    (hfirst : path.isIdent first) (hsecond : path.isIdent second) :
    first = second := by
  have heq : ({ segments := [first] } : Path) = { segments := [second] } :=
    hfirst.symm.trans hsecond
  injection heq with _ hsegments
  exact List.head_eq_of_cons_eq hsegments

/-- The rest of a `syn::Meta` after its path. -/
inductive MetaArgs
  | path
  | list (tokens : List Token)
  | nameValue (tokens : List Token)

structure Attribute where
  path : Path
  args : MetaArgs

/-- `syn::ImplItemFn`, as far as the macros look. -/
structure Method where
  name : String
  attrs : List Attribute

inductive ImplItem
  | fn (method : Method)
  | other (tokens : List Token)

structure ItemImpl where
  attrs : List Attribute := []
  items : List ImplItem

/-- `get_attr_ident`: exactly one identifier between the delimiters. -/
def getAttrIdent (attr : Attribute) : Except String String :=
  match attr.args with
  | .list tokens => do
      let name ← parseIdent tokens.head?
      if tokens.length ≤ 1 then pure name else .error "unexpected token"
  | _ => .error "expected #[attr(Type)]"

/-- `get_rejected_args`. -/
def getRejectedArgs (attr : Attribute) :
    Except String (NonEmptyString × NonEmptyString) :=
  match attr.args with
  | .list tokens => parseRejectedArgs tokens
  | _ => .error "expected #[rejected(domain = \"...\", command = \"...\")]"

/-- `get_upcasts_args`. -/
def getUpcastsArgs (attr : Attribute) : Except String (String × String) :=
  match attr.args with
  | .list tokens => parseUpcastsArgs tokens
  | _ => .error "expected #[upcasts(from = FromType, to = ToType)]"

structure MethodMetadata where
  handled : List String := []
  handledWithMethods : List (String × String) := []
  rejected : List (NonEmptyString × NonEmptyString) := []
  rejectedWithMethods : List RejectedMark := []
  applies : List String := []
  appliesWithMethods : List (String × String) := []
  stateFactory : Option String := none
  upcastsWithMethods : List (String × String × String) := []
  handlesFact : List String := []
  handlesFactWithMethods : List (String × String) := []

/-- The loop body of `collect_method_metadata`; every arm is an `if let Ok`. -/
def collectAttr (method : String) (found : MethodMetadata) (attr : Attribute) :
    MethodMetadata :=
  if attr.path.isIdent "handles" then
    match getAttrIdent attr with
    | .ok ty =>
        { found with
          handled := found.handled ++ [ty]
          handledWithMethods := found.handledWithMethods ++ [(method, ty)] }
    | .error _ => found
  else if attr.path.isIdent "handles_fact" then
    match getAttrIdent attr with
    | .ok ty =>
        { found with
          handlesFact := found.handlesFact ++ [ty]
          handlesFactWithMethods := found.handlesFactWithMethods ++ [(method, ty)] }
    | .error _ => found
  else if attr.path.isIdent "applies" then
    match getAttrIdent attr with
    | .ok ty =>
        { found with
          applies := found.applies ++ [ty]
          appliesWithMethods := found.appliesWithMethods ++ [(method, ty)] }
    | .error _ => found
  else if attr.path.isIdent "rejected" then
    match getRejectedArgs attr with
    | .ok (domain, command) =>
        { found with
          rejected := found.rejected ++ [(domain, command)]
          rejectedWithMethods :=
            found.rejectedWithMethods ++ [⟨method, domain, command⟩] }
    | .error _ => found
  else if attr.path.isIdent "state_factory" then
    { found with stateFactory := some method }
  else if attr.path.isIdent "upcasts" then
    match getUpcastsArgs attr with
    | .ok (source, target) =>
        { found with
          upcastsWithMethods := found.upcastsWithMethods ++ [(method, source, target)] }
    | .error _ => found
  else found

/-- `collect_method_metadata`. -/
def collectMethodMetadata (input : ItemImpl) : MethodMetadata :=
  input.items.foldl (fun found item =>
    match item with
    | .fn method => method.attrs.foldl (collectAttr method.name) found
    | .other _ => found) {}

/-- The attributes of the methods, each with its method's name. -/
def ItemImpl.methodAttrs (input : ItemImpl) : List (String × Attribute) :=
  input.items.flatMap fun item =>
    match item with
    | .fn method => method.attrs.map fun attr => (method.name, attr)
    | .other _ => []

/-- The collector runs over these in source order. -/
theorem collectMethodMetadata_eq_foldl (input : ItemImpl) :
    collectMethodMetadata input =
      input.methodAttrs.foldl (fun found mark => collectAttr mark.1 found mark.2) {} := by
  rw [collectMethodMetadata, ItemImpl.methodAttrs, List.foldl_flatMap]
  congr 1
  funext found item
  cases item with
  | fn method => rw [List.foldl_map]
  | other tokens => rfl

/-- The words `strip_method_markers` removes. -/
def markerWords : List String :=
  ["handles", "handles_fact", "rejected", "applies", "state_factory", "upcasts"]

/-- `strip_method_markers`. -/
def stripMethodMarkers (input : ItemImpl) : ItemImpl :=
  { input with
    items := input.items.map fun item =>
      match item with
      | .fn method =>
          .fn { method with
            attrs := method.attrs.filter fun attr =>
              ∀ word ∈ markerWords, ¬ attr.path.isIdent word }
      | .other tokens => .other tokens }

/-- `KIND_ATTRS`. -/
def kindAttrs : List String :=
  ["command_handler", "saga", "process_manager", "projector", "upcaster"]

/-- The word of a kind attribute. -/
def Kind.word : Kind → String
  | .commandHandler => "command_handler"
  | .saga => "saga"
  | .processManager => "process_manager"
  | .projector => "projector"
  | .upcaster => "upcaster"

/-- `reject_stacked_kinds`: the text of its `compile_error!`. -/
def rejectStackedKinds (thisKind : String) (attrs : List Attribute) : Option String :=
  attrs.findSome? fun attr =>
    (kindAttrs.find? fun kind => attr.path.isIdent kind).map fun kind =>
      "#[" ++ thisKind ++ "] cannot coexist with #[" ++ kind ++
        "] on the same impl; exactly one of #[command_handler] / #[saga] / " ++
        "#[process_manager] / #[projector] / #[upcaster] is allowed"

/-- What a kind macro works from once it expands: its own arguments, the
metadata it generates code for, and the impl block it emits again. -/
structure Expansion where
  args : KindArgs
  metadata : MethodMetadata
  input : ItemImpl

/-- The entry point of a kind attribute. -/
def expandMacro (kind : Kind) (attr : List Token) (input : ItemImpl) :
    Except String Expansion := do
  let args ← parseKindArgs kind attr
  match rejectStackedKinds kind.word input.attrs with
  | some message => .error message
  | none => pure ⟨args, collectMethodMetadata input, stripMethodMarkers input⟩

end AngzarrClient
