/-
Which method markers a kind macro keeps.  The collector drops a marker whose
arguments do not parse, and the marker is stripped all the same.
-/
import AngzarrClient.Macros.Expand
import Mathlib.Data.List.Forall2

namespace AngzarrClient

/-- The markers that carry arguments. -/
inductive Marker
  | handles | handlesFact | applies | rejected | upcasts
deriving DecidableEq, Repr

def Marker.word : Marker → String
  | .handles => "handles"
  | .handlesFact => "handles_fact"
  | .applies => "applies"
  | .rejected => "rejected"
  | .upcasts => "upcasts"

/-- What a marker files its method under. -/
inductive MarkerKey
  | type (name : String)
  | rejection (domain command : NonEmptyString)
  | upcast (source target : String)
deriving DecidableEq, Repr

/-- The key the parser of a marker reads. -/
def Marker.key (marker : Marker) (attr : Attribute) : Except String MarkerKey :=
  match marker with
  | .handles | .handlesFact | .applies => (getAttrIdent attr).map .type
  | .rejected => (getRejectedArgs attr).map fun args => .rejection args.1 args.2
  | .upcasts => (getUpcastsArgs attr).map fun args => .upcast args.1 args.2

/-- The entries recorded for a marker: method and key. -/
def MethodMetadata.entries (found : MethodMetadata) : Marker → List (String × MarkerKey)
  | .handles => found.handledWithMethods.map fun entry => (entry.1, .type entry.2)
  | .handlesFact =>
      found.handlesFactWithMethods.map fun entry => (entry.1, .type entry.2)
  | .applies => found.appliesWithMethods.map fun entry => (entry.1, .type entry.2)
  | .rejected =>
      found.rejectedWithMethods.map fun mark =>
        (mark.method, .rejection mark.domain mark.command)
  | .upcasts =>
      found.upcastsWithMethods.map fun entry =>
        (entry.1, .upcast entry.2.1 entry.2.2)

/-- The attributes of the methods that are a given word. -/
def ItemImpl.marked (input : ItemImpl) (word : String) : List (String × Attribute) :=
  input.methodAttrs.filter fun mark => mark.2.path.isIdent word

/-- What the collector records for one attribute under a marker. -/
def Marker.record (marker : Marker) (mark : String × Attribute) :
    Option (String × MarkerKey) :=
  (marker.key mark.2).toOption.map fun key => (mark.1, key)

theorem entries_collectAttr_of_word {marker : Marker} {method : String}
    {attr : Attribute} (hword : attr.path.isIdent marker.word)
    (found : MethodMetadata) :
    (collectAttr method found attr).entries marker =
      found.entries marker ++ (marker.record (method, attr)).toList := by
  have hpath : attr.path = { segments := [marker.word] } := hword
  cases marker with
  | handles | handlesFact | applies =>
      cases hargs : getAttrIdent attr <;>
        simp [collectAttr, Path.isIdent, hpath, Marker.word, hargs, Marker.record,
          Marker.key, MethodMetadata.entries, Except.map, Except.toOption]
  | rejected =>
      cases hargs : getRejectedArgs attr <;>
        simp [collectAttr, Path.isIdent, hpath, Marker.word, hargs, Marker.record,
          Marker.key, MethodMetadata.entries, Except.map, Except.toOption]
  | upcasts =>
      cases hargs : getUpcastsArgs attr <;>
        simp [collectAttr, Path.isIdent, hpath, Marker.word, hargs, Marker.record,
          Marker.key, MethodMetadata.entries, Except.map, Except.toOption]

/-- An attribute under another word leaves a marker's entries alone. -/
theorem entries_collectAttr_of_not_word {marker : Marker} {method : String}
    {attr : Attribute} (hword : ¬ attr.path.isIdent marker.word)
    (found : MethodMetadata) :
    (collectAttr method found attr).entries marker = found.entries marker := by
  rw [collectAttr]
  by_cases hhandles : attr.path.isIdent "handles"
  · rw [if_pos hhandles]
    cases marker with
    | handles => exact absurd hhandles hword
    | _ => cases getAttrIdent attr <;> rfl
  rw [if_neg hhandles]
  by_cases hfact : attr.path.isIdent "handles_fact"
  · rw [if_pos hfact]
    cases marker with
    | handlesFact => exact absurd hfact hword
    | _ => cases getAttrIdent attr <;> rfl
  rw [if_neg hfact]
  by_cases happlies : attr.path.isIdent "applies"
  · rw [if_pos happlies]
    cases marker with
    | applies => exact absurd happlies hword
    | _ => cases getAttrIdent attr <;> rfl
  rw [if_neg happlies]
  by_cases hrejected : attr.path.isIdent "rejected"
  · rw [if_pos hrejected]
    cases marker with
    | rejected => exact absurd hrejected hword
    | _ => cases getRejectedArgs attr <;> rfl
  rw [if_neg hrejected]
  by_cases hfactory : attr.path.isIdent "state_factory"
  · rw [if_pos hfactory]
    cases marker <;> rfl
  rw [if_neg hfactory]
  by_cases hupcasts : attr.path.isIdent "upcasts"
  · rw [if_pos hupcasts]
    cases marker with
    | upcasts => exact absurd hupcasts hword
    | _ => cases getUpcastsArgs attr <;> rfl
  rw [if_neg hupcasts]

/-- The metadata holds, for each marker, what its attributes record, in source
order. -/
theorem entries_collectMethodMetadata (input : ItemImpl) (marker : Marker) :
    (collectMethodMetadata input).entries marker =
      (input.marked marker.word).filterMap marker.record := by
  rw [collectMethodMetadata_eq_foldl, ItemImpl.marked]
  have hfold : ∀ found : MethodMetadata,
      (input.methodAttrs.foldl (fun found mark => collectAttr mark.1 found mark.2)
        found).entries marker = found.entries marker ++
          (input.methodAttrs.filter fun mark =>
            mark.2.path.isIdent marker.word).filterMap marker.record := by
    induction input.methodAttrs with
    | nil => intro found; simp
    | cons mark rest ih =>
        intro found
        rw [List.foldl_cons, ih]
        by_cases hword : mark.2.path.isIdent marker.word
        · rw [entries_collectAttr_of_word hword,
            List.filter_cons_of_pos (by simpa using hword), List.append_assoc]
          cases hrecord : marker.record mark with
          | none => rw [List.filterMap_cons_none hrecord]; simp
          | some entry => rw [List.filterMap_cons_some hrecord]; simp
        · rw [entries_collectAttr_of_not_word hword,
            List.filter_cons_of_neg (by simpa using hword)]
  rw [hfold]
  cases marker <;> rfl

/-- The arguments a marker's grammar accepts. -/
def Marker.Accepts : Marker → MetaArgs → Prop
  | .rejected, .list tokens => ∃ domain command, RejectedGrammar tokens domain command
  | .upcasts, .list tokens => ∃ source target, UpcastsGrammar tokens source target
  | _, .list tokens => ∃ name, tokens = [.ident name] ∧ name ∉ rustKeywords
  | _, _ => False

/-- The tokens name a key: a type by the last segment of its path, a pair by
`key = value` entries. -/
def MarkerKey.NamedIn (tokens : List Token) : MarkerKey → Prop
  | .type name => [.ident name] <:+ tokens
  | .rejection domain command =>
      [.ident "domain", .punct '=', .strLit domain.value] <:+: tokens ∧
        [.ident "command", .punct '=', .strLit command.value] <:+: tokens
  | .upcast source target =>
      [.ident "from", .punct '=', .ident source] <:+: tokens ∧
        [.ident "to", .punct '=', .ident target] <:+: tokens

theorem getAttrIdent_eq_ok_iff {attr : Attribute} {name : String} :
    getAttrIdent attr = .ok name ↔
      attr.args = .list [.ident name] ∧ name ∉ rustKeywords := by
  rw [getAttrIdent]
  cases attr.args with
  | path => simp
  | nameValue tokens => simp
  | list tokens =>
      dsimp only
      rw [except_bind_eq_ok_iff]
      constructor
      · intro ⟨found, hident, hrest⟩
        obtain ⟨token, hhead, htoken, hkeyword⟩ := parseIdent_eq_ok_iff.mp hident
        by_cases hlength : tokens.length ≤ 1
        · rw [if_pos hlength] at hrest
          cases hrest
          refine ⟨?_, hkeyword⟩
          obtain ⟨tail, htail⟩ := List.head?_eq_some_iff.mp hhead
          have hnil : tail = [] := by
            rw [htail, List.length_cons] at hlength
            exact List.length_eq_zero_iff.mp (by omega)
          rw [htail, hnil, htoken]
        · rw [if_neg hlength] at hrest
          cases hrest
      · intro ⟨hlist, hkeyword⟩
        cases hlist
        exact ⟨name, parseIdent_eq_ok_iff.mpr ⟨_, rfl, rfl, hkeyword⟩, rfl⟩

theorem except_map_eq_ok_iff {α β : Type} {x : Except String α} {f : α → β} {out : β} :
    x.map f = .ok out ↔ ∃ value, x = .ok value ∧ f value = out := by
  cases x <;> simp [Except.map]

theorem getRejectedArgs_eq_ok_iff {attr : Attribute} {domain command : NonEmptyString} :
    getRejectedArgs attr = .ok (domain, command) ↔
      ∃ tokens, attr.args = .list tokens ∧ RejectedGrammar tokens domain command := by
  rw [getRejectedArgs]
  cases attr.args with
  | list tokens => simp [parseRejectedArgs_eq_ok_iff]
  | _ => simp

theorem getUpcastsArgs_eq_ok_iff {attr : Attribute} {source target : String} :
    getUpcastsArgs attr = .ok (source, target) ↔
      ∃ tokens, attr.args = .list tokens ∧ UpcastsGrammar tokens source target := by
  rw [getUpcastsArgs]
  cases attr.args with
  | list tokens => simp [parseUpcastsArgs_eq_ok_iff]
  | _ => simp

/-- The parser of a marker succeeds on the arguments its grammar accepts. -/
theorem Marker.exists_key_iff {marker : Marker} {attr : Attribute} :
    (∃ key, marker.key attr = .ok key) ↔ marker.Accepts attr.args := by
  cases marker with
  | rejected =>
      simp only [Marker.key, except_map_eq_ok_iff, Prod.exists,
        getRejectedArgs_eq_ok_iff]
      cases attr.args <;> simp [Marker.Accepts]
  | upcasts =>
      simp only [Marker.key, except_map_eq_ok_iff, Prod.exists,
        getUpcastsArgs_eq_ok_iff]
      cases attr.args <;> simp [Marker.Accepts]
  | handles | handlesFact | applies =>
      simp only [Marker.key, except_map_eq_ok_iff, getAttrIdent_eq_ok_iff]
      cases attr.args <;> simp [Marker.Accepts]

/-- The key a marker's parser reads is named by its tokens. -/
theorem Marker.namedIn_of_key {marker : Marker} {attr : Attribute} {key : MarkerKey}
    (hkey : marker.key attr = .ok key) :
    ∃ tokens, attr.args = .list tokens ∧ key.NamedIn tokens := by
  cases marker with
  | rejected =>
      obtain ⟨⟨domain, command⟩, hargs, hout⟩ := except_map_eq_ok_iff.mp hkey
      obtain ⟨tokens, htokens, entries, hentries, _, hdomain, hcommand⟩ :=
        getRejectedArgs_eq_ok_iff.mp hargs
      cases hout
      refine ⟨tokens, htokens, ?_, ?_⟩
      · obtain ⟨_, hvalue, hinfix⟩ := hentries.infix_of_mem (mem_of_lastValue hdomain)
        rwa [hvalue] at hinfix
      · obtain ⟨_, hvalue, hinfix⟩ := hentries.infix_of_mem (mem_of_lastValue hcommand)
        rwa [hvalue] at hinfix
  | upcasts =>
      obtain ⟨⟨source, target⟩, hargs, hout⟩ := except_map_eq_ok_iff.mp hkey
      obtain ⟨tokens, htokens, entries, hentries, _, hsource, htarget⟩ :=
        getUpcastsArgs_eq_ok_iff.mp hargs
      cases hout
      refine ⟨tokens, htokens, ?_, ?_⟩
      · obtain ⟨_, hvalue, hinfix⟩ := hentries.infix_of_mem (mem_of_lastValue hsource)
        rwa [hvalue.1] at hinfix
      · obtain ⟨_, hvalue, hinfix⟩ := hentries.infix_of_mem (mem_of_lastValue htarget)
        rwa [hvalue.1] at hinfix
  | handles | handlesFact | applies =>
      obtain ⟨name, hargs, hout⟩ := except_map_eq_ok_iff.mp hkey
      cases hout
      exact ⟨_, (getAttrIdent_eq_ok_iff.mp hargs).1, List.suffix_refl _⟩

/-- The expansion is refused: the kind attribute's own arguments do not parse,
or the impl block carries a second kind attribute. -/
def Refused (kind : Kind) (args : List Token) (input : ItemImpl) : Prop :=
  (∃ message, parseKindArgs kind args = .error message) ∨
    ∃ attr ∈ input.attrs, ∃ word ∈ kindAttrs, attr.path.isIdent word

/-- Every marker is written as its grammar asks. -/
def ItemImpl.WellMarked (input : ItemImpl) : Prop :=
  ∀ marker : Marker, ∀ mark ∈ input.marked marker.word, marker.Accepts mark.2.args

/-- All `#[state_factory]` attributes are on one method. -/
def ItemImpl.OneStateFactory (input : ItemImpl) : Prop :=
  ∀ first ∈ input.marked "state_factory", ∀ second ∈ input.marked "state_factory",
    first.1 = second.1

/-- Unless the expansion fails, each marker has an entry of its own, for its
method and under a key its tokens name. -/
def MarkersKept (kind : Kind) (args : List Token) (input : ItemImpl) : Prop :=
  ∀ expansion, expandMacro kind args input = .ok expansion → ∀ marker : Marker,
    List.Forall₂ (fun mark entry => entry.1 = mark.1 ∧
        ∃ tokens, mark.2.args = .list tokens ∧ entry.2.NamedIn tokens)
      (input.marked marker.word) (expansion.metadata.entries marker)

/-- Unless the expansion fails, an attribute missing from the emitted impl block
is one of these markers, or names the recorded state factory. -/
def StrippedRecorded (kind : Kind) (args : List Token) (input : ItemImpl) : Prop :=
  ∀ expansion, expandMacro kind args input = .ok expansion →
    ∀ mark ∈ input.methodAttrs, mark ∉ expansion.input.methodAttrs →
      (∃ marker : Marker, mark.2.path.isIdent marker.word) ∨
        expansion.metadata.stateFactory = some mark.1

theorem rejectStackedKinds_eq_none_iff {thisKind : String} {attrs : List Attribute} :
    rejectStackedKinds thisKind attrs = none ↔
      ∀ attr ∈ attrs, ∀ word ∈ kindAttrs, ¬ attr.path.isIdent word := by
  rw [rejectStackedKinds, List.findSome?_eq_none_iff]
  simp only [Option.map_eq_none_iff, List.find?_eq_none, decide_eq_true_eq]

theorem expandMacro_eq_ok_iff {kind : Kind} {args : List Token} {input : ItemImpl}
    {expansion : Expansion} :
    expandMacro kind args input = .ok expansion ↔
      ¬ Refused kind args input ∧
        ∃ kindArgs, parseKindArgs kind args = .ok kindArgs ∧
          expansion =
            ⟨kindArgs, collectMethodMetadata input, stripMethodMarkers input⟩ := by
  rw [expandMacro, except_bind_eq_ok_iff]
  constructor
  · intro ⟨kindArgs, hargs, hrest⟩
    split at hrest
    · cases hrest
    · next hstacked =>
        rw [rejectStackedKinds_eq_none_iff] at hstacked
        cases hrest
        refine ⟨?_, kindArgs, hargs, rfl⟩
        rintro (⟨message, herror⟩ | ⟨attr, hattr, word, hword, hident⟩)
        · rw [hargs] at herror
          cases herror
        · exact hstacked attr hattr word hword hident
  · intro ⟨haccepted, kindArgs, hargs, hexpansion⟩
    have hstacked : rejectStackedKinds kind.word input.attrs = none := by
      rw [rejectStackedKinds_eq_none_iff]
      intro attr hattr word hword hident
      exact haccepted (Or.inr ⟨attr, hattr, word, hword, hident⟩)
    refine ⟨kindArgs, hargs, ?_⟩
    rw [hstacked, hexpansion]
    rfl

theorem exists_expansion {kind : Kind} {args : List Token} {input : ItemImpl}
    (haccepted : ¬ Refused kind args input) :
    ∃ expansion, expandMacro kind args input = .ok expansion := by
  cases hargs : parseKindArgs kind args with
  | error message => exact absurd (Or.inl ⟨message, hargs⟩) haccepted
  | ok kindArgs => exact ⟨_, expandMacro_eq_ok_iff.mpr ⟨haccepted, kindArgs, hargs, rfl⟩⟩

theorem methodAttrs_stripMethodMarkers (input : ItemImpl) :
    (stripMethodMarkers input).methodAttrs =
      input.methodAttrs.filter fun mark =>
        ∀ word ∈ markerWords, ¬ mark.2.path.isIdent word := by
  rw [stripMethodMarkers, ItemImpl.methodAttrs, ItemImpl.methodAttrs,
    List.flatMap_map, List.filter_flatMap]
  congr 1
  funext item
  cases item with
  | fn method => rw [List.filter_map]; rfl
  | other tokens => rfl

theorem stateFactory_collectAttr (method : String) (found : MethodMetadata)
    (attr : Attribute) :
    (collectAttr method found attr).stateFactory =
      if attr.path.isIdent "state_factory" then some method else found.stateFactory := by
  rw [collectAttr]
  by_cases hfactory : attr.path.isIdent "state_factory"
  · have hpath : attr.path = { segments := ["state_factory"] } := hfactory
    simp [Path.isIdent, hpath]
  · rw [if_neg hfactory, if_neg hfactory]
    repeat' split
    all_goals rfl

/-- The last `#[state_factory]` wins. -/
theorem stateFactory_collectMethodMetadata (input : ItemImpl) :
    (collectMethodMetadata input).stateFactory =
      (input.marked "state_factory").getLast?.map Prod.fst := by
  rw [collectMethodMetadata_eq_foldl, ItemImpl.marked]
  have hfold : ∀ found : MethodMetadata,
      (input.methodAttrs.foldl (fun found mark => collectAttr mark.1 found mark.2)
        found).stateFactory =
          ((input.methodAttrs.filter fun mark =>
            mark.2.path.isIdent "state_factory").getLast?.map Prod.fst).or
              found.stateFactory := by
    induction input.methodAttrs with
    | nil => intro found; rfl
    | cons mark rest ih =>
        intro found
        rw [List.foldl_cons, ih, stateFactory_collectAttr]
        by_cases hfactory : mark.2.path.isIdent "state_factory"
        · rw [if_pos hfactory, List.filter_cons_of_pos (by simpa using hfactory),
            List.getLast?_cons]
          cases (rest.filter fun mark =>
            mark.2.path.isIdent "state_factory").getLast? <;> rfl
        · rw [if_neg hfactory, List.filter_cons_of_neg (by simpa using hfactory)]
  rw [hfold]
  exact Option.or_none

theorem forall₂_filterMap {α β : Type} {R : α → β → Prop} {f : α → Option β}
    {xs : List α} (hsome : ∀ x ∈ xs, ∃ y, f x = some y ∧ R x y) :
    List.Forall₂ R xs (xs.filterMap f) := by
  induction xs with
  | nil => exact .nil
  | cons x rest ih =>
      rw [List.forall_mem_cons] at hsome
      obtain ⟨y, hy, hrel⟩ := hsome.1
      rw [List.filterMap_cons_some hy]
      exact .cons hrel (ih hsome.2)

/-- Each marker has an entry of its own exactly if every one is written as its
grammar asks. -/
theorem entries_match_iff_wellMarked (input : ItemImpl) :
    (∀ marker : Marker, List.Forall₂ (fun mark entry => entry.1 = mark.1 ∧
        ∃ tokens, mark.2.args = .list tokens ∧ entry.2.NamedIn tokens)
      (input.marked marker.word) ((collectMethodMetadata input).entries marker)) ↔
      input.WellMarked := by
  constructor
  · intro hmatch marker mark hmark
    have hlength := (hmatch marker).length_eq
    rw [entries_collectMethodMetadata, eq_comm,
      List.filterMap_length_eq_length] at hlength
    have hrecord := hlength mark hmark
    rw [Marker.record, Option.isSome_map] at hrecord
    rw [← Marker.exists_key_iff]
    cases hkey : marker.key mark.2 with
    | ok key => exact ⟨key, rfl⟩
    | error message => rw [hkey] at hrecord; cases hrecord
  · intro hwell marker
    rw [entries_collectMethodMetadata]
    apply forall₂_filterMap
    intro mark hmark
    obtain ⟨key, hkey⟩ := Marker.exists_key_iff.mpr (hwell marker mark hmark)
    refine ⟨(mark.1, key), ?_, rfl, Marker.namedIn_of_key hkey⟩
    rw [Marker.record, hkey]
    rfl

theorem mem_markerWords_iff {word : String} :
    word ∈ markerWords ↔
      (∃ marker : Marker, word = marker.word) ∨ word = "state_factory" := by
  constructor
  · intro hword
    simp only [markerWords, List.mem_cons, List.not_mem_nil, or_false] at hword
    rcases hword with rfl | rfl | rfl | rfl | rfl | rfl
    · exact Or.inl ⟨.handles, rfl⟩
    · exact Or.inl ⟨.handlesFact, rfl⟩
    · exact Or.inl ⟨.rejected, rfl⟩
    · exact Or.inl ⟨.applies, rfl⟩
    · exact Or.inr rfl
    · exact Or.inl ⟨.upcasts, rfl⟩
  · rintro (⟨marker, rfl⟩ | rfl)
    · cases marker <;> decide
    · decide

theorem ItemImpl.mem_marked {input : ItemImpl} {word : String}
    {mark : String × Attribute} :
    mark ∈ input.marked word ↔ mark ∈ input.methodAttrs ∧ mark.2.path.isIdent word := by
  rw [marked, List.mem_filter, decide_eq_true_iff]

/-- An attribute is missing from the emitted impl block exactly if it is one of
the six marker words. -/
theorem not_mem_methodAttrs_strip_iff {input : ItemImpl} {mark : String × Attribute}
    (hmem : mark ∈ input.methodAttrs) :
    mark ∉ (stripMethodMarkers input).methodAttrs ↔
      (∃ marker : Marker, mark.2.path.isIdent marker.word) ∨
        mark.2.path.isIdent "state_factory" := by
  rw [methodAttrs_stripMethodMarkers, List.mem_filter, decide_eq_true_iff, not_and]
  constructor
  · intro hstripped
    have hword := hstripped hmem
    push Not at hword
    obtain ⟨word, hword, hident⟩ := hword
    rcases mem_markerWords_iff.mp hword with ⟨marker, rfl⟩ | rfl
    · exact Or.inl ⟨marker, hident⟩
    · exact Or.inr hident
  · rintro (⟨marker, hident⟩ | hident) _ hkept
    · exact hkept _ (mem_markerWords_iff.mpr (Or.inl ⟨marker, rfl⟩)) hident
    · exact hkept _ (mem_markerWords_iff.mpr (Or.inr rfl)) hident

/-- Every `#[state_factory]` names the recorded factory exactly if all are on
one method. -/
theorem stateFactory_recorded_iff (input : ItemImpl) :
    (∀ mark ∈ input.marked "state_factory",
      (collectMethodMetadata input).stateFactory = some mark.1) ↔
      input.OneStateFactory := by
  rw [stateFactory_collectMethodMetadata]
  constructor
  · intro hrecorded first hfirst second hsecond
    have heq := (hrecorded first hfirst).symm.trans (hrecorded second hsecond)
    injection heq
  · intro hone mark hmark
    have hlast := List.getLast?_eq_some_getLast (List.ne_nil_of_mem hmark)
    rw [hlast, Option.map_some]
    exact congrArg some (hone _ (List.getLast_mem _) mark hmark)

theorem Marker.word_ne_stateFactory (marker : Marker) :
    marker.word ≠ "state_factory" := by
  cases marker <;> decide

theorem strippedRecorded_iff {kind : Kind} {args : List Token} {input : ItemImpl}
    (haccepted : ¬ Refused kind args input) :
    StrippedRecorded kind args input ↔ input.OneStateFactory := by
  rw [← stateFactory_recorded_iff]
  constructor
  · intro hrecorded mark hmark
    obtain ⟨expansion, hexpansion⟩ := exists_expansion haccepted
    obtain ⟨_, _, _, heq⟩ := expandMacro_eq_ok_iff.mp hexpansion
    obtain ⟨hmem, hident⟩ := ItemImpl.mem_marked.mp hmark
    have hmissing : mark ∉ expansion.input.methodAttrs := by
      rw [heq]
      exact (not_mem_methodAttrs_strip_iff hmem).mpr (Or.inr hident)
    rcases hrecorded expansion hexpansion mark hmem hmissing with
      ⟨marker, hword⟩ | hfactory
    · exact absurd (Path.isIdent_unique hword hident) marker.word_ne_stateFactory
    · rwa [heq] at hfactory
  · intro hfactory expansion hexpansion mark hmem hmissing
    obtain ⟨_, _, _, heq⟩ := expandMacro_eq_ok_iff.mp hexpansion
    rw [heq] at hmissing ⊢
    rcases (not_mem_methodAttrs_strip_iff hmem).mp hmissing with hmarker | hident
    · exact Or.inl hmarker
    · exact Or.inr (hfactory mark (ItemImpl.mem_marked.mpr ⟨hmem, hident⟩))

/-- No marked method is lost exactly if the expansion is refused or every
marker is well formed.  Nothing at all is stripped unrecorded exactly if,
besides, the impl block names one state factory. -/
theorem markers_kept_iff_wellMarked (kind : Kind) (args : List Token)
    (input : ItemImpl) :
    (MarkersKept kind args input ↔ Refused kind args input ∨ input.WellMarked) ∧
      (MarkersKept kind args input ∧ StrippedRecorded kind args input ↔
        Refused kind args input ∨ (input.WellMarked ∧ input.OneStateFactory)) := by
  by_cases hrefused : Refused kind args input
  · have hnone : ∀ expansion, expandMacro kind args input ≠ .ok expansion := by
      intro expansion hexpansion
      exact (expandMacro_eq_ok_iff.mp hexpansion).1 hrefused
    have hkept : MarkersKept kind args input :=
      fun expansion hexpansion => absurd hexpansion (hnone expansion)
    have hstripped : StrippedRecorded kind args input :=
      fun expansion hexpansion => absurd hexpansion (hnone expansion)
    exact ⟨iff_of_true hkept (Or.inl hrefused),
      iff_of_true ⟨hkept, hstripped⟩ (Or.inl hrefused)⟩
  · have hkept : MarkersKept kind args input ↔ input.WellMarked := by
      rw [← entries_match_iff_wellMarked]
      constructor
      · intro hkept marker
        obtain ⟨expansion, hexpansion⟩ := exists_expansion hrefused
        obtain ⟨_, _, _, heq⟩ := expandMacro_eq_ok_iff.mp hexpansion
        have hentries := hkept expansion hexpansion marker
        rwa [heq] at hentries
      · intro hmatch expansion hexpansion marker
        obtain ⟨_, _, _, heq⟩ := expandMacro_eq_ok_iff.mp hexpansion
        rw [heq]
        exact hmatch marker
    refine ⟨hkept.trans (or_iff_right hrefused).symm, ?_⟩
    rw [or_iff_right hrefused, hkept, strippedRecorded_iff hrefused]

namespace Sample

/-- `name = "saga-order", source = "order", target = "inventory"`. -/
def sagaArgs : List Token :=
  [.ident "name", .punct '=', .strLit "saga-order", .punct ',',
    .ident "source", .punct '=', .strLit "order", .punct ',',
    .ident "target", .punct '=', .strLit "inventory"]

/-- `#[handles(events::Created)] fn created`. -/
def qualified : ItemImpl where
  items := [.fn
    { name := "created"
      attrs := [
        { path := { segments := ["handles"] }
          args := .list
            [.ident "events", .punct ':', .punct ':', .ident "Created"] }] }]

end Sample

/-- A qualified path is dropped and stripped, and the saga expands. -/
theorem qualified_marker_is_lost :
    (∃ expansion, expandMacro .saga Sample.sagaArgs Sample.qualified = .ok expansion ∧
      expansion.metadata = {} ∧
      expansion.input.items = [.fn { name := "created", attrs := [] }]) ∧
    ¬ MarkersKept .saga Sample.sagaArgs Sample.qualified := by
  have hexpansion : ∃ expansion,
      expandMacro .saga Sample.sagaArgs Sample.qualified = .ok expansion ∧
        expansion.metadata = {} ∧
        expansion.input.items = [.fn { name := "created", attrs := [] }] :=
    ⟨_, rfl, rfl, rfl⟩
  refine ⟨hexpansion, ?_⟩
  obtain ⟨expansion, hok, hmetadata, _⟩ := hexpansion
  intro hkept
  have hmatch := hkept expansion hok .handles
  rw [hmetadata] at hmatch
  cases hmatch

end AngzarrClient
