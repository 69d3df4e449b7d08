/-
Attribute tokens and the argument grammars of `angzarr-macros`: the `syn`
primitives its parsers call, the `key = value` loop they share, the five kind
attributes and the method markers.  `syn` steps through invisible groups, so a
token stream is the flat list it walks.
-/
import AngzarrClient.Macros.Arms

namespace AngzarrClient

inductive Delimiter
  | parenthesis | bracket | brace
deriving DecidableEq, Repr

/-- A token tree; `true` and `false` are identifiers. -/
inductive Token
  | ident (name : String)
  | punct (char : Char)
  | strLit (value : String)
  | lit (text : String)
  | group (delimiter : Delimiter) (tokens : List Token)
deriving Repr

/-- The words `syn` does not take for an identifier. -/
def rustKeywords : List String :=
  ["_", "abstract", "as", "async", "await", "become", "box", "break", "const",
    "continue", "crate", "do", "dyn", "else", "enum", "extern", "false", "final",
    "fn", "for", "if", "impl", "in", "let", "loop", "macro", "match", "mod",
    "move", "mut", "override", "priv", "pub", "ref", "return", "Self", "self",
    "static", "struct", "super", "trait", "true", "try", "type", "typeof",
    "unsafe", "unsized", "use", "virtual", "where", "while", "yield"]

/-- `input.parse::<Ident>()` on the next token. -/
def parseIdent : Option Token → Except String String
  | some (.ident name) =>
      if name ∈ rustKeywords then
        .error ("expected identifier, found keyword " ++ name)
      else .ok name
  | some _ => .error "expected identifier"
  | none => .error "unexpected end of input, expected identifier"

/-- `input.parse::<syn::LitStr>()`. -/
def parseLitStr : Option Token → Except String String
  | some (.strLit value) => .ok value
  | some _ => .error "expected string literal"
  | none => .error "unexpected end of input, expected string literal"

/-- `input.parse::<syn::LitBool>()`. -/
def parseLitBool : Option Token → Except String Bool
  | some (.ident name) =>
      if name = "true" then .ok true
      else if name = "false" then .ok false
      else .error "expected boolean literal"
  | some _ => .error "expected boolean literal"
  | none => .error "unexpected end of input, expected boolean literal"

/-- `input.parse::<Token![=]>()`. -/
def parseEq : Option Token → Except String PUnit
  | some (.punct '=') => .ok ⟨⟩
  | some _ => .error "expected '='"
  | none => .error "unexpected end of input, expected '='"

/-- The elements of a bracketed list, each with an optional comma after it. -/
def parseListItems : List Token → Except String (List String)
  | [] => .ok []
  | item :: .punct ',' :: rest => do
      let value ← parseLitStr (some item)
      let values ← parseListItems rest
      pure (value :: values)
  | item :: rest => do
      let value ← parseLitStr (some item)
      let values ← parseListItems rest
      pure (value :: values)

/-- `parse_str_list`. -/
def parseStrList : Option Token → Except String (List String)
  | some (.group .bracket tokens) => parseListItems tokens
  | _ => .error "expected square brackets"

/-- The `while !input.is_empty()` loop of every argument parser: a key, `=`, a
value the key asks for, and an optional comma. -/
def parseEntries {σ : Type} (entry : String → Option Token → σ → Except String σ) :
    List Token → σ → Except String σ
  | [], args => .ok args
  | [key], _ => do
      let _ ← parseIdent (some key)
      let _ ← parseEq none
      .error "unexpected end of input"
  | [key, eq], args => do
      let key ← parseIdent (some key)
      let _ ← parseEq (some eq)
      entry key none args
  | key :: eq :: value :: rest, args => do
      let key ← parseIdent (some key)
      let _ ← parseEq (some eq)
      let args ← entry key (some value) args
      match rest with
      | .punct ',' :: rest => parseEntries entry rest args
      | rest => parseEntries entry rest args

/-- `require_non_empty_str`. -/
def requireNonEmptyStr (value : Option String) (field : String) :
    Except String NonEmptyString :=
  match value with
  | none => .error (field ++ " is required")
  | some value =>
      if h : value = "" then .error (field ++ " must be a non-empty string")
      else .ok ⟨value, h⟩

/-- The elements of a list as non-empty strings, if they all are. -/
def allNonEmpty : List String → Option (List NonEmptyString)
  | [] => some []
  | value :: rest =>
      if h : value = "" then none else (allNonEmpty rest).map (⟨value, h⟩ :: ·)

/-- `require_non_empty_str_list`. -/
def requireNonEmptyStrList (values : Option (List String)) (field : String) :
    Except String (List NonEmptyString) :=
  match values with
  | none => .error (field ++ " is required")
  | some [] => .error (field ++ " must be a non-empty list")
  | some values =>
      match allNonEmpty values with
      | none => .error (field ++ " must not contain empty strings")
      | some values => .ok values

/-- `opt.ok_or_else(|| "<field> is required")`. -/
def require (value : Option String) (field : String) : Except String String :=
  match value with
  | none => .error (field ++ " is required")
  | some value => .ok value

/-- The entry of a parser with two keys and one kind of value. -/
def pairEntry (first second : String) (value : Option Token → Except String String)
    (key : String) (token : Option Token) (args : Option String × Option String) :
    Except String (Option String × Option String) := do
  let value ← value token
  if key = first then pure (some value, args.2)
  else if key = second then pure (args.1, some value)
  else .error "unknown attribute"

/-- `RejectedArgs::parse`. -/
def parseRejectedArgs (tokens : List Token) :
    Except String (NonEmptyString × NonEmptyString) := do
  let args ← parseEntries (pairEntry "domain" "command" parseLitStr) tokens
    (none, none)
  let domain ← requireNonEmptyStr args.1 "domain"
  let command ← requireNonEmptyStr args.2 "command"
  pure (domain, command)

/-- `UpcastsArgsParse::parse`. -/
def parseUpcastsArgs (tokens : List Token) : Except String (String × String) := do
  let args ← parseEntries (pairEntry "from" "to" parseIdent) tokens (none, none)
  let source ← require args.1 "from"
  let target ← require args.2 "to"
  pure (source, target)

/-! The arguments of the kind attributes, as far as they are parsed. -/

structure RawKindArgs where
  name : Option String := none
  domain : Option String := none
  pmDomain : Option String := none
  source : Option String := none
  target : Option String := none
  state : Option String := none
  supportsReplay : Option Bool := none
  sync : Option Bool := none
  sources : Option (List String) := none
  targets : Option (List String) := none
  syncTargets : Option (List String) := none
  domains : Option (List String) := none

/-- The validated arguments of a kind attribute. -/
inductive KindArgs
  | commandHandler (domain : NonEmptyString) (state : String) (supportsReplay : Bool)
  | saga (name source target : NonEmptyString) (sync : Bool)
  | processManager (name pmDomain : NonEmptyString) (state : String)
      (sources targets syncTargets : List NonEmptyString)
  | projector (name : NonEmptyString) (domains : List NonEmptyString)
  | upcaster (name domain : NonEmptyString)

def aggregateEntry (key : String) (token : Option Token) (args : RawKindArgs) :
    Except String RawKindArgs :=
  if key = "domain" then
    (parseLitStr token).map fun value => { args with domain := some value }
  else if key = "state" then
    (parseIdent token).map fun value => { args with state := some value }
  else if key = "supports_replay" then
    (parseLitBool token).map fun value => { args with supportsReplay := some value }
  else .error "unknown attribute"

/-- `AggregateArgs::parse`. -/
def parseAggregateArgs (tokens : List Token) : Except String KindArgs := do
  let args ← parseEntries aggregateEntry tokens {}
  let domain ← requireNonEmptyStr args.domain "domain"
  let state ← require args.state "state"
  pure (.commandHandler domain state (args.supportsReplay.getD false))

def sagaEntry (key : String) (token : Option Token) (args : RawKindArgs) :
    Except String RawKindArgs :=
  if key = "name" then
    (parseLitStr token).map fun value => { args with name := some value }
  else if key = "source" then
    (parseLitStr token).map fun value => { args with source := some value }
  else if key = "target" then
    (parseLitStr token).map fun value => { args with target := some value }
  else if key = "sync" then
    (parseLitBool token).map fun value => { args with sync := some value }
  else .error "unknown attribute"

/-- `SagaArgs::parse`. -/
def parseSagaArgs (tokens : List Token) : Except String KindArgs := do
  let args ← parseEntries sagaEntry tokens {}
  let name ← requireNonEmptyStr args.name "name"
  let source ← requireNonEmptyStr args.source "source"
  let target ← requireNonEmptyStr args.target "target"
  pure (.saga name source target (args.sync.getD false))

def processManagerEntry (key : String) (token : Option Token) (args : RawKindArgs) :
    Except String RawKindArgs :=
  if key = "name" then
    (parseLitStr token).map fun value => { args with name := some value }
  else if key = "pm_domain" then
    (parseLitStr token).map fun value => { args with pmDomain := some value }
  else if key = "state" then
    (parseIdent token).map fun value => { args with state := some value }
  else if key = "sources" then
    (parseStrList token).map fun values => { args with sources := some values }
  else if key = "targets" then
    (parseStrList token).map fun values => { args with targets := some values }
  else if key = "sync_targets" then
    (parseStrList token).map fun values => { args with syncTargets := some values }
  else .error "unknown attribute"

/-- `ProcessManagerArgs::parse`.  Every sync target is one of the targets, so
it is non-empty too. -/
def parseProcessManagerArgs (tokens : List Token) : Except String KindArgs := do
  let args ← parseEntries processManagerEntry tokens {}
  let targets ← requireNonEmptyStrList args.targets "targets"
  let syncTargets := args.syncTargets.getD []
  if syncTargets.any fun target => target ∉ targets.map NonEmptyString.value then
    .error "sync_targets are not in targets"
  let name ← requireNonEmptyStr args.name "name"
  let pmDomain ← requireNonEmptyStr args.pmDomain "pm_domain"
  let state ← require args.state "state"
  let sources ← requireNonEmptyStrList args.sources "sources"
  pure (.processManager name pmDomain state sources targets
    (syncTargets.filterMap fun value =>
      targets.find? fun target => target.value = value))

def projectorEntry (key : String) (token : Option Token) (args : RawKindArgs) :
    Except String RawKindArgs :=
  if key = "name" then
    (parseLitStr token).map fun value => { args with name := some value }
  else if key = "domains" then
    (parseStrList token).map fun values => { args with domains := some values }
  else .error "unknown attribute"

/-- `ProjectorArgs::parse`. -/
def parseProjectorArgs (tokens : List Token) : Except String KindArgs := do
  let args ← parseEntries projectorEntry tokens {}
  let name ← requireNonEmptyStr args.name "name"
  let domains ← requireNonEmptyStrList args.domains "domains"
  pure (.projector name domains)

def upcasterEntry (key : String) (token : Option Token) (args : RawKindArgs) :
    Except String RawKindArgs :=
  if key = "name" then
    (parseLitStr token).map fun value => { args with name := some value }
  else if key = "domain" then
    (parseLitStr token).map fun value => { args with domain := some value }
  else .error "unknown attribute: expected `name` or `domain`"

/-- `UpcasterArgs::parse`. -/
def parseUpcasterArgs (tokens : List Token) : Except String KindArgs := do
  let args ← parseEntries upcasterEntry tokens {}
  let name ← requireNonEmptyStr args.name "name"
  let domain ← requireNonEmptyStr args.domain "domain"
  pure (.upcaster name domain)

/-- The argument parser of a kind attribute. -/
def parseKindArgs : Kind → List Token → Except String KindArgs
  | .commandHandler => parseAggregateArgs
  | .saga => parseSagaArgs
  | .processManager => parseProcessManagerArgs
  | .projector => parseProjectorArgs
  | .upcaster => parseUpcasterArgs

end AngzarrClient
