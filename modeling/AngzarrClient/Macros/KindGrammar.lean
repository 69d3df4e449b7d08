/-
The argument grammar of the kind attributes, stated on the tokens: keys of the kind with
values of their own types, in any order and any number, of which the last counts.  The
parsers of `angzarr-macros` accept exactly these.
-/
import AngzarrClient.Macros.Grammar
import AngzarrClient.Macros.Markers
import Mathlib.Data.List.Sigma

namespace AngzarrClient

/-- The keys of the kind attributes. -/
inductive KindKey
  | name | domain | pmDomain | source | target | state | supportsReplay | sync
  | sources | targets | syncTargets | domains
deriving DecidableEq, Repr

namespace KindKey

def word : KindKey → String
  | .name => "name"
  | .domain => "domain"
  | .pmDomain => "pm_domain"
  | .source => "source"
  | .target => "target"
  | .state => "state"
  | .supportsReplay => "supports_replay"
  | .sync => "sync"
  | .sources => "sources"
  | .targets => "targets"
  | .syncTargets => "sync_targets"
  | .domains => "domains"

/-- What a key takes: the text of a string literal, the name of a type, a flag or a list
of texts. -/
abbrev Value : KindKey → Type
  | .name | .domain | .pmDomain | .source | .target | .state => String
  | .supportsReplay | .sync => Bool
  | .sources | .targets | .syncTargets | .domains => List String

/-- The parser of a key's value. -/
def parse : (key : KindKey) → Option Token → Except String key.Value
  | .name | .domain | .pmDomain | .source | .target => parseLitStr
  | .state => parseIdent
  | .supportsReplay | .sync => parseLitBool
  | .sources | .targets | .syncTargets | .domains => parseStrList

theorem word_injective : Function.Injective word := by
  intro first second hword
  cases first <;> cases second <;> first | rfl | simp [word] at hword

theorem word_not_mem_rustKeywords (key : KindKey) : key.word ∉ rustKeywords := by
  cases key <;> decide

end KindKey

/-- The elements of a bracketed list: string literals, each with an optional comma after
it. -/
inductive ListItems : List Token → List String → Prop
  | nil : ListItems [] []
  | item {text : String} {rest : List Token} {texts : List String}
      (hrest : ListItems rest texts) : ListItems (.strLit text :: rest) (text :: texts)
  | comma {text : String} {rest : List Token} {texts : List String}
      (hrest : ListItems rest texts) :
      ListItems (.strLit text :: .punct ',' :: rest) (text :: texts)

/-- The token writes the value of the key. -/
def KindKey.Writes : (key : KindKey) → Token → key.Value → Prop
  | .name | .domain | .pmDomain | .source | .target => fun token text =>
      token = .strLit text
  | .state => fun token name => token = .ident name ∧ name ∉ rustKeywords
  | .supportsReplay | .sync => fun token flag =>
      token = .ident (if flag then "true" else "false")
  | .sources | .targets | .syncTargets | .domains => fun token texts =>
      ∃ items, token = .group .bracket items ∧ ListItems items texts

/-- Entries `key = value` of the keys, each with an optional comma after it. -/
inductive KindEntries (keys : List KindKey) :
    List Token → List (Sigma KindKey.Value) → Prop
  | nil : KindEntries keys [] []
  | entry {key : KindKey} {value : key.Value} {token : Token} {rest : List Token}
      {entries : List (Sigma KindKey.Value)} (hkey : key ∈ keys)
      (hvalue : key.Writes token value) (hrest : KindEntries keys rest entries) :
      KindEntries keys (.ident key.word :: .punct '=' :: token :: rest)
        (⟨key, value⟩ :: entries)
  | comma {key : KindKey} {value : key.Value} {token : Token} {rest : List Token}
      {entries : List (Sigma KindKey.Value)} (hkey : key ∈ keys)
      (hvalue : key.Writes token value) (hrest : KindEntries keys rest entries) :
      KindEntries keys (.ident key.word :: .punct '=' :: token :: .punct ',' :: rest)
        (⟨key, value⟩ :: entries)

section Values

theorem parseLitBool_eq_ok_iff {token : Option Token} {flag : Bool} :
    parseLitBool token = .ok flag ↔
      ∃ found, token = some found ∧
        found = .ident (if flag then "true" else "false") := by
  cases token with
  | none => simp [parseLitBool]
  | some found =>
      cases found with
      | ident name =>
          rw [parseLitBool]
          by_cases htrue : name = "true"
          · subst htrue
            cases flag <;> simp
          · rw [if_neg htrue]
            by_cases hfalse : name = "false"
            · subst hfalse
              cases flag <;> simp
            · rw [if_neg hfalse]
              cases flag <;> simp [htrue, hfalse]
      | _ => simp [parseLitBool]

theorem parseListItems_eq_ok_iff {tokens : List Token} {texts : List String} :
    parseListItems tokens = .ok texts ↔ ListItems tokens texts := by
  constructor
  · intro hparsed
    induction tokens using parseListItems.induct generalizing texts with
    | case1 =>
        cases hparsed
        exact .nil
    | case2 item rest ih =>
        rw [parseListItems, except_bind_eq_ok_iff] at hparsed
        obtain ⟨text, hitem, hrest⟩ := hparsed
        rw [except_bind_eq_ok_iff] at hrest
        obtain ⟨others, hothers, hout⟩ := hrest
        obtain ⟨_, hfound, rfl⟩ := parseLitStr_eq_ok_iff.mp hitem
        cases hfound
        cases hout
        exact .comma (ih hothers)
    | case3 item rest hcomma ih =>
        rw [parseListItems.eq_3 item rest hcomma, except_bind_eq_ok_iff] at hparsed
        obtain ⟨text, hitem, hrest⟩ := hparsed
        rw [except_bind_eq_ok_iff] at hrest
        obtain ⟨others, hothers, hout⟩ := hrest
        obtain ⟨_, hfound, rfl⟩ := parseLitStr_eq_ok_iff.mp hitem
        cases hfound
        cases hout
        exact .item (ih hothers)
  · intro hitems
    induction hitems with
    | nil => rfl
    | @item text rest texts hrest ih =>
        -- no element is a comma
        have hcomma : ∀ after, rest = .punct ',' :: after → False := by
          rintro after rfl
          cases hrest
        rw [parseListItems.eq_3 _ _ hcomma, ih]
        rfl
    | comma hrest ih =>
        rw [parseListItems, ih]
        rfl

theorem parseStrList_eq_ok_iff {token : Option Token} {texts : List String} :
    parseStrList token = .ok texts ↔
      ∃ found, token = some found ∧
        ∃ items, found = .group .bracket items ∧ ListItems items texts := by
  rw [parseStrList.eq_def]
  split
  · rw [parseListItems_eq_ok_iff]
    simp
  · next hother =>
      refine ⟨fun h => (by cases h), ?_⟩
      rintro ⟨_, rfl, items, rfl, _⟩
      exact absurd rfl (hother items)

theorem KindKey.parse_eq_ok_iff {key : KindKey} {token : Option Token}
    {value : key.Value} :
    key.parse token = .ok value ↔
      ∃ found, token = some found ∧ key.Writes found value := by
  cases key with
  | state => exact parseIdent_eq_ok_iff
  | supportsReplay | sync => exact parseLitBool_eq_ok_iff
  | sources | targets | syncTargets | domains => exact parseStrList_eq_ok_iff
  | name | domain | pmDomain | source | target => exact parseLitStr_eq_ok_iff

end Values

namespace RawKindArgs

/-- The argument under a key. -/
def get (args : RawKindArgs) : (key : KindKey) → Option key.Value
  | .name => args.name
  | .domain => args.domain
  | .pmDomain => args.pmDomain
  | .source => args.source
  | .target => args.target
  | .state => args.state
  | .supportsReplay => args.supportsReplay
  | .sync => args.sync
  | .sources => args.sources
  | .targets => args.targets
  | .syncTargets => args.syncTargets
  | .domains => args.domains

def set (args : RawKindArgs) : (key : KindKey) → key.Value → RawKindArgs
  | .name => fun value => { args with name := some value }
  | .domain => fun value => { args with domain := some value }
  | .pmDomain => fun value => { args with pmDomain := some value }
  | .source => fun value => { args with source := some value }
  | .target => fun value => { args with target := some value }
  | .state => fun value => { args with state := some value }
  | .supportsReplay => fun value => { args with supportsReplay := some value }
  | .sync => fun value => { args with sync := some value }
  | .sources => fun value => { args with sources := some value }
  | .targets => fun value => { args with targets := some value }
  | .syncTargets => fun value => { args with syncTargets := some value }
  | .domains => fun value => { args with domains := some value }

@[simp] theorem get_set_self (args : RawKindArgs) (key : KindKey) (value : key.Value) :
    (args.set key value).get key = some value := by
  cases key <;> rfl

theorem get_set_of_ne (args : RawKindArgs) {key other : KindKey} (hne : other ≠ key)
    (value : key.Value) : (args.set key value).get other = args.get other := by
  cases key <;> cases other <;> first | rfl | exact absurd rfl hne

/-- The arguments after some entries. -/
def after (args : RawKindArgs) (entries : List (Sigma KindKey.Value)) : RawKindArgs :=
  entries.foldl (fun args entry => args.set entry.1 entry.2) args

/-- Under each key the last entry counts. -/
theorem get_after (args : RawKindArgs) (entries : List (Sigma KindKey.Value))
    (key : KindKey) :
    (args.after entries).get key = (entries.reverse.dlookup key).or (args.get key) := by
  induction entries using List.reverseRecOn with
  | nil => rfl
  | append_singleton entries entry ih =>
      obtain ⟨last, value⟩ := entry
      rw [after, List.foldl_append, ← after, List.reverse_append, List.reverse_singleton,
        List.singleton_append]
      by_cases hkey : key = last
      · subst hkey
        rw [List.dlookup_cons_eq]
        exact get_set_self _ _ _
      · rw [List.dlookup_cons_ne _ _ hkey, ← ih]
        exact get_set_of_ne _ hkey _

end RawKindArgs

/-- The keys of a kind. -/
def Kind.keys : Kind → List KindKey
  | .commandHandler => [.domain, .state, .supportsReplay]
  | .saga => [.name, .source, .target, .sync]
  | .processManager => [.name, .pmDomain, .state, .sources, .targets, .syncTargets]
  | .projector => [.name, .domains]
  | .upcaster => [.name, .domain]

/-- The entry of a parser with the keys. -/
def kindEntry (message : String) :
    List KindKey → String → Option Token → RawKindArgs → Except String RawKindArgs
  | [], _, _, _ => .error message
  | key :: keys, word, token, args =>
      if word = key.word then (key.parse token).map (args.set key)
      else kindEntry message keys word token args

section Entries

variable {message : String} {keys : List KindKey} {args out : RawKindArgs}

theorem kindEntry_eq_ok_iff {word : String} {token : Option Token} :
    kindEntry message keys word token args = .ok out ↔
      ∃ key ∈ keys, key.word = word ∧ ∃ found value, token = some found ∧
        key.Writes found value ∧ args.set key value = out := by
  induction keys with
  | nil => simp [kindEntry]
  | cons first rest ih =>
      rw [kindEntry]
      by_cases hword : word = first.word
      · rw [if_pos hword, except_map_eq_ok_iff]
        constructor
        · rintro ⟨value, hparse, hout⟩
          obtain ⟨found, htoken, hwrites⟩ := KindKey.parse_eq_ok_iff.mp hparse
          exact ⟨first, List.mem_cons_self, hword.symm, found, value, htoken, hwrites,
            hout⟩
        · rintro ⟨key, _, hkey, found, value, htoken, hwrites, hout⟩
          obtain rfl := KindKey.word_injective (hkey.trans hword)
          exact ⟨value, KindKey.parse_eq_ok_iff.mpr ⟨found, htoken, hwrites⟩, hout⟩
      · rw [if_neg hword, ih]
        constructor
        · rintro ⟨key, hkey, hrest⟩
          exact ⟨key, List.mem_cons_of_mem _ hkey, hrest⟩
        · rintro ⟨key, hkey, hkeyword, hrest⟩
          rcases List.mem_cons.mp hkey with rfl | hkey
          · exact absurd hkeyword.symm hword
          · exact ⟨key, hkey, hkeyword, hrest⟩

theorem parseEntries_of_kindEntries {tokens : List Token}
    {entries : List (Sigma KindKey.Value)} (hentries : KindEntries keys tokens entries)
    (args : RawKindArgs) :
    parseEntries (kindEntry message keys) tokens args = .ok (args.after entries) := by
  induction hentries generalizing args with
  | nil => rfl
  | @entry key value token rest entries hkey hvalue hrest ih =>
      rw [parseEntries_step key.word_not_mem_rustKeywords
        (kindEntry_eq_ok_iff.mpr ⟨key, hkey, rfl, token, value, rfl, hvalue, rfl⟩)]
      have htail := ih (args.set key value)
      -- entries do not begin with a comma
      cases hrest with
      | nil => exact htail
      | entry _ _ _ => exact htail
      | comma _ _ _ => exact htail
  | @comma key value token rest entries hkey hvalue hrest ih =>
      rw [parseEntries_step key.word_not_mem_rustKeywords
        (kindEntry_eq_ok_iff.mpr ⟨key, hkey, rfl, token, value, rfl, hvalue, rfl⟩)]
      exact ih (args.set key value)

theorem kindEntries_of_parseEntries {tokens : List Token}
    (hparsed : parseEntries (kindEntry message keys) tokens args = .ok out) :
    ∃ entries, KindEntries keys tokens entries ∧ out = args.after entries := by
  induction tokens, args using parseEntries.induct with
  | case1 args =>
      cases hparsed
      exact ⟨[], .nil, rfl⟩
  | case2 key args =>
      -- a key alone: `parseEq` fails on the end of the input
      rw [parseEntries, except_bind_eq_ok_iff] at hparsed
      obtain ⟨_, _, hrest⟩ := hparsed
      cases hrest
  | case3 key eq args =>
      rw [parseEntries, except_bind_eq_ok_iff] at hparsed
      obtain ⟨name, _, hrest⟩ := hparsed
      rw [except_bind_eq_ok_iff] at hrest
      obtain ⟨_, _, hentry⟩ := hrest
      obtain ⟨_, _, _, _, _, htoken, _⟩ := kindEntry_eq_ok_iff.mp hentry
      cases htoken
  | case4 first eq token rest args ih =>
      rw [parseEntries, except_bind_eq_ok_iff] at hparsed
      obtain ⟨name, hname, hrest⟩ := hparsed
      rw [except_bind_eq_ok_iff] at hrest
      obtain ⟨_, heq, hrest⟩ := hrest
      rw [except_bind_eq_ok_iff] at hrest
      obtain ⟨next, hentry, hrest⟩ := hrest
      obtain ⟨_, hfound, rfl, _⟩ := parseIdent_eq_ok_iff.mp hname
      cases hfound
      cases parseEq_eq_ok_iff.mp heq
      obtain ⟨key, hkey, rfl, _, value, htoken, hvalue, rfl⟩ :=
        kindEntry_eq_ok_iff.mp hentry
      cases htoken
      split at hrest
      · obtain ⟨entries, hentries, hout⟩ := ih _ hrest
        exact ⟨⟨key, value⟩ :: entries, .comma hkey hvalue hentries, hout⟩
      · have hstep := ih (args.set key value)
        split at hstep
        · next hcomma => exact absurd rfl (hcomma _)
        · obtain ⟨entries, hentries, hout⟩ := hstep hrest
          exact ⟨⟨key, value⟩ :: entries, .entry hkey hvalue hentries, hout⟩

/-- The shared loop accepts the entries of its keys and keeps the last of each. -/
theorem parseEntries_kindEntry_eq_ok_iff {tokens : List Token} :
    parseEntries (kindEntry message keys) tokens args = .ok out ↔
      ∃ entries, KindEntries keys tokens entries ∧ out = args.after entries := by
  constructor
  · exact kindEntries_of_parseEntries
  · rintro ⟨entries, hentries, rfl⟩
    exact parseEntries_of_kindEntries hentries args

end Entries

theorem aggregateEntry_eq :
    aggregateEntry = kindEntry "unknown attribute" (Kind.keys .commandHandler) := rfl

theorem sagaEntry_eq : sagaEntry = kindEntry "unknown attribute" (Kind.keys .saga) := rfl

theorem processManagerEntry_eq :
    processManagerEntry = kindEntry "unknown attribute" (Kind.keys .processManager) := rfl

theorem projectorEntry_eq :
    projectorEntry = kindEntry "unknown attribute" (Kind.keys .projector) := rfl

theorem upcasterEntry_eq :
    upcasterEntry = kindEntry "unknown attribute: expected `name` or `domain`"
      (Kind.keys .upcaster) := rfl

namespace KindArgs

def kind : KindArgs → Kind
  | .commandHandler .. => .commandHandler
  | .saga .. => .saga
  | .processManager .. => .processManager
  | .projector .. => .projector
  | .upcaster .. => .upcaster

/-- The arguments are what is said under the keys of the kind, and say all that has to be
said. -/
def SaidBy (said : (key : KindKey) → Option key.Value) : KindArgs → Prop
  | .commandHandler domain state supportsReplay =>
      said .domain = some domain.value ∧ said .state = some state ∧
        (said .supportsReplay).getD false = supportsReplay
  | .saga name source target sync =>
      said .name = some name.value ∧ said .source = some source.value ∧
        said .target = some target.value ∧ (said .sync).getD false = sync
  | .processManager name pmDomain state sources targets syncTargets =>
      said .name = some name.value ∧ said .pmDomain = some pmDomain.value ∧
        said .state = some state ∧
        said .sources = some (sources.map NonEmptyString.value) ∧ sources ≠ [] ∧
        said .targets = some (targets.map NonEmptyString.value) ∧ targets ≠ [] ∧
        (said .syncTargets).getD [] = syncTargets.map NonEmptyString.value ∧
        syncTargets ⊆ targets
  | .projector name domains =>
      said .name = some name.value ∧
        said .domains = some (domains.map NonEmptyString.value) ∧ domains ≠ []
  | .upcaster name domain =>
      said .name = some name.value ∧ said .domain = some domain.value

end KindArgs

section Required

theorem allNonEmpty_eq_some_iff {values : List String} {found : List NonEmptyString} :
    allNonEmpty values = some found ↔ values = found.map NonEmptyString.value := by
  induction values generalizing found with
  | nil => cases found <;> simp [allNonEmpty]
  | cons value rest ih =>
      rw [allNonEmpty]
      by_cases hempty : value = ""
      · rw [dif_pos hempty]
        refine ⟨fun h => (by cases h), ?_⟩
        cases found with
        | nil => exact fun h => (by cases h)
        | cons first others =>
            intro h
            exact absurd ((List.cons.inj h).1.symm.trans hempty) first.nonEmpty
      · rw [dif_neg hempty, Option.map_eq_some_iff]
        constructor
        · rintro ⟨others, hothers, rfl⟩
          rw [ih.mp hothers]
          rfl
        · cases found with
          | nil => exact fun h => (by cases h)
          | cons first others =>
              intro h
              obtain ⟨rfl, hrest⟩ := List.cons.inj h
              exact ⟨others, ih.mpr hrest, rfl⟩

theorem requireNonEmptyStrList_eq_ok_iff {values : Option (List String)} {field : String}
    {found : List NonEmptyString} :
    requireNonEmptyStrList values field = .ok found ↔
      values = some (found.map NonEmptyString.value) ∧ found ≠ [] := by
  rw [requireNonEmptyStrList.eq_def]
  split
  · simp
  · simp
  · next values hne =>
      rw [Option.some.injEq, ← allNonEmpty_eq_some_iff]
      cases hall : allNonEmpty values with
      | none => simp
      | some others =>
          have hothers := allNonEmpty_eq_some_iff.mp hall
          constructor
          · intro h
            cases h
            refine ⟨rfl, ?_⟩
            rintro rfl
            exact hne hothers
          · rintro ⟨heq, -⟩
            cases heq
            rfl

theorem NonEmptyString.value_injective : Function.Injective NonEmptyString.value := by
  rintro ⟨first, _⟩ ⟨second, _⟩ heq
  cases heq
  rfl

/-- Texts that are all among the targets are found there as they are. -/
theorem filterMap_find?_eq_iff {texts : List String} {targets found : List NonEmptyString}
    (hall : ∀ text ∈ texts, text ∈ targets.map NonEmptyString.value) :
    (texts.filterMap fun text => targets.find? fun target => target.value = text) = found ↔
      texts = found.map NonEmptyString.value ∧ found ⊆ targets := by
  have hvalues : (texts.filterMap fun text =>
      targets.find? fun target => target.value = text).map NonEmptyString.value = texts := by
    induction texts with
    | nil => rfl
    | cons text rest ih =>
        rw [List.forall_mem_cons] at hall
        obtain ⟨target, htarget, hvalue⟩ := List.mem_map.mp hall.1
        obtain ⟨first, hfirst⟩ : ∃ first,
            targets.find? (fun target => target.value = text) = some first := by
          rw [← Option.isSome_iff_exists, List.find?_isSome]
          exact ⟨target, htarget, by simpa using hvalue⟩
        have hrest := ih hall.2
        simp only [List.filterMap_cons, hfirst, List.map_cons]
        rw [hrest, show first.value = text by simpa using List.find?_some hfirst]
  constructor
  · rintro rfl
    refine ⟨hvalues.symm, ?_⟩
    intro target htarget
    obtain ⟨text, _, hfind⟩ := List.mem_filterMap.mp htarget
    exact List.mem_of_find?_eq_some hfind
  · rintro ⟨htexts, -⟩
    apply List.map_injective_iff.mpr NonEmptyString.value_injective
    rw [hvalues, htexts]

end Required

section Parsers

variable {tokens : List Token} {args : KindArgs}

/-- The arguments read from no entry say nothing. -/
theorem get_after_empty (entries : List (Sigma KindKey.Value)) :
    (({} : RawKindArgs).after entries).get = fun key => entries.reverse.dlookup key := by
  funext key
  rw [RawKindArgs.get_after]
  cases key <;> exact Option.or_none

theorem parseAggregateArgs_eq_ok_iff :
    parseAggregateArgs tokens = .ok args ↔
      ∃ raw, parseEntries aggregateEntry tokens {} = .ok raw ∧
        args.kind = .commandHandler ∧ args.SaidBy raw.get := by
  simp only [parseAggregateArgs, except_bind_eq_ok_iff, requireNonEmptyStr_eq_ok_iff,
    require_eq_ok_iff]
  refine exists_congr fun raw => and_congr_right fun _ => ?_
  constructor
  · rintro ⟨domain, hdomain, state, hstate, hargs⟩
    cases hargs
    exact ⟨rfl, hdomain, hstate, rfl⟩
  · rintro ⟨hkind, hsaid⟩
    cases args with
    | commandHandler domain state supportsReplay =>
        obtain ⟨hdomain, hstate, rfl⟩ := hsaid
        exact ⟨domain, hdomain, state, hstate, rfl⟩
    | _ => cases hkind

theorem parseSagaArgs_eq_ok_iff :
    parseSagaArgs tokens = .ok args ↔
      ∃ raw, parseEntries sagaEntry tokens {} = .ok raw ∧
        args.kind = .saga ∧ args.SaidBy raw.get := by
  simp only [parseSagaArgs, except_bind_eq_ok_iff, requireNonEmptyStr_eq_ok_iff]
  refine exists_congr fun raw => and_congr_right fun _ => ?_
  constructor
  · rintro ⟨name, hname, source, hsource, target, htarget, hargs⟩
    cases hargs
    exact ⟨rfl, hname, hsource, htarget, rfl⟩
  · rintro ⟨hkind, hsaid⟩
    cases args with
    | saga name source target sync =>
        obtain ⟨hname, hsource, htarget, rfl⟩ := hsaid
        exact ⟨name, hname, source, hsource, target, htarget, rfl⟩
    | _ => cases hkind

theorem parseProcessManagerArgs_eq_ok_iff :
    parseProcessManagerArgs tokens = .ok args ↔
      ∃ raw, parseEntries processManagerEntry tokens {} = .ok raw ∧
        args.kind = .processManager ∧ args.SaidBy raw.get := by
  rw [parseProcessManagerArgs, except_bind_eq_ok_iff]
  refine exists_congr fun raw => and_congr_right fun _ => ?_
  rw [except_bind_eq_ok_iff]
  dsimp only
  constructor
  · rintro ⟨targets, htargets, hrest⟩
    obtain ⟨htargets, hne⟩ := requireNonEmptyStrList_eq_ok_iff.mp htargets
    split at hrest
    · cases hrest
    · next hextra =>
        simp only [except_bind_eq_ok_iff, requireNonEmptyStr_eq_ok_iff, require_eq_ok_iff,
          requireNonEmptyStrList_eq_ok_iff] at hrest
        obtain ⟨name, hname, pmDomain, hpmDomain, state, hstate, sources,
          ⟨hsources, hsourcesNe⟩, hargs⟩ := hrest
        cases hargs
        have hall : ∀ text ∈ raw.syncTargets.getD [],
            text ∈ targets.map NonEmptyString.value := by simpa using hextra
        obtain ⟨hsync, hsubset⟩ := (filterMap_find?_eq_iff hall).mp rfl
        exact ⟨rfl, hname, hpmDomain, hstate, hsources, hsourcesNe, htargets, hne, hsync,
          hsubset⟩
  · rintro ⟨hkind, hsaid⟩
    cases args with
    | processManager name pmDomain state sources targets syncTargets =>
        obtain ⟨hname, hpmDomain, hstate, hsources, hsourcesNe, htargets, hne, hsync,
          hsubset⟩ := hsaid
        have hall : ∀ text ∈ raw.syncTargets.getD [],
            text ∈ targets.map NonEmptyString.value := by
          change ∀ text ∈ (raw.get .syncTargets).getD [], _
          rw [hsync]
          intro text htext
          obtain ⟨target, htarget, rfl⟩ := List.mem_map.mp htext
          exact List.mem_map_of_mem (hsubset htarget)
        refine ⟨targets, requireNonEmptyStrList_eq_ok_iff.mpr ⟨htargets, hne⟩, ?_⟩
        rw [if_neg (by simpa using hall),
          (filterMap_find?_eq_iff hall).mpr ⟨hsync, hsubset⟩]
        simp only [except_bind_eq_ok_iff, requireNonEmptyStr_eq_ok_iff, require_eq_ok_iff,
          requireNonEmptyStrList_eq_ok_iff]
        exact ⟨name, hname, pmDomain, hpmDomain, state, hstate, sources,
          ⟨hsources, hsourcesNe⟩, rfl⟩
    | _ => cases hkind

theorem parseProjectorArgs_eq_ok_iff :
    parseProjectorArgs tokens = .ok args ↔
      ∃ raw, parseEntries projectorEntry tokens {} = .ok raw ∧
        args.kind = .projector ∧ args.SaidBy raw.get := by
  simp only [parseProjectorArgs, except_bind_eq_ok_iff, requireNonEmptyStr_eq_ok_iff,
    requireNonEmptyStrList_eq_ok_iff]
  refine exists_congr fun raw => and_congr_right fun _ => ?_
  constructor
  · rintro ⟨name, hname, domains, ⟨hdomains, hne⟩, hargs⟩
    cases hargs
    exact ⟨rfl, hname, hdomains, hne⟩
  · rintro ⟨hkind, hsaid⟩
    cases args with
    | projector name domains =>
        obtain ⟨hname, hdomains, hne⟩ := hsaid
        exact ⟨name, hname, domains, ⟨hdomains, hne⟩, rfl⟩
    | _ => cases hkind

theorem parseUpcasterArgs_eq_ok_iff :
    parseUpcasterArgs tokens = .ok args ↔
      ∃ raw, parseEntries upcasterEntry tokens {} = .ok raw ∧
        args.kind = .upcaster ∧ args.SaidBy raw.get := by
  simp only [parseUpcasterArgs, except_bind_eq_ok_iff, requireNonEmptyStr_eq_ok_iff]
  refine exists_congr fun raw => and_congr_right fun _ => ?_
  constructor
  · rintro ⟨name, hname, domain, hdomain, hargs⟩
    cases hargs
    exact ⟨rfl, hname, hdomain⟩
  · rintro ⟨hkind, hsaid⟩
    cases args with
    | upcaster name domain =>
        obtain ⟨hname, hdomain⟩ := hsaid
        exact ⟨name, hname, domain, hdomain, rfl⟩
    | _ => cases hkind

end Parsers

/-- The parser of a kind attribute checks what its loop has read. -/
theorem parseKindArgs_eq_ok_iff_raw {kind : Kind} :
    ∃ message, ∀ tokens args, parseKindArgs kind tokens = .ok args ↔
      ∃ raw, parseEntries (kindEntry message kind.keys) tokens {} = .ok raw ∧
        args.kind = kind ∧ args.SaidBy raw.get := by
  cases kind with
  | commandHandler =>
      refine ⟨"unknown attribute", fun tokens args => ?_⟩
      rw [← aggregateEntry_eq]
      exact parseAggregateArgs_eq_ok_iff
  | saga =>
      refine ⟨"unknown attribute", fun tokens args => ?_⟩
      rw [← sagaEntry_eq]
      exact parseSagaArgs_eq_ok_iff
  | processManager =>
      refine ⟨"unknown attribute", fun tokens args => ?_⟩
      rw [← processManagerEntry_eq]
      exact parseProcessManagerArgs_eq_ok_iff
  | projector =>
      refine ⟨"unknown attribute", fun tokens args => ?_⟩
      rw [← projectorEntry_eq]
      exact parseProjectorArgs_eq_ok_iff
  | upcaster =>
      refine ⟨"unknown attribute: expected `name` or `domain`", fun tokens args => ?_⟩
      rw [← upcasterEntry_eq]
      exact parseUpcasterArgs_eq_ok_iff

/-- The last entry of each key counts. -/
theorem parseKindArgs_of_entries {kind : Kind} {tokens : List Token}
    {entries : List (Sigma KindKey.Value)} (hentries : KindEntries kind.keys tokens entries)
    {args : KindArgs} :
    parseKindArgs kind tokens = .ok args ↔
      args.kind = kind ∧ args.SaidBy fun key => entries.reverse.dlookup key := by
  obtain ⟨message, hparse⟩ := @parseKindArgs_eq_ok_iff_raw kind
  rw [hparse, parseEntries_kindEntry_eq_ok_iff.mpr ⟨entries, hentries, rfl⟩,
    ← get_after_empty]
  constructor
  · rintro ⟨raw, hraw, hsaid⟩
    cases hraw
    exact hsaid
  · exact fun hsaid => ⟨_, rfl, hsaid⟩

theorem parseKindArgs_eq_ok_iff {kind : Kind} {tokens : List Token} {args : KindArgs} :
    parseKindArgs kind tokens = .ok args ↔
      args.kind = kind ∧ ∃ entries, KindEntries kind.keys tokens entries ∧
        args.SaidBy fun key => entries.reverse.dlookup key := by
  constructor
  · intro hargs
    obtain ⟨message, hparse⟩ := @parseKindArgs_eq_ok_iff_raw kind
    obtain ⟨raw, hraw, -⟩ := (hparse _ _).mp hargs
    obtain ⟨entries, hentries, -⟩ := parseEntries_kindEntry_eq_ok_iff.mp hraw
    obtain ⟨hkind, hsaid⟩ := (parseKindArgs_of_entries hentries).mp hargs
    exact ⟨hkind, entries, hentries, hsaid⟩
  · rintro ⟨hkind, entries, hentries, hsaid⟩
    exact (parseKindArgs_of_entries hentries).mpr ⟨hkind, hsaid⟩

/-- The parser of a kind attribute accepts exactly the entries of its keys that say, the
last of each key counting, all that the kind has to be told; and where no key is repeated,
the order of the entries does not matter. -/
theorem kind_attributes_read (kind : Kind) :
    (∀ tokens args, parseKindArgs kind tokens = .ok args ↔
      args.kind = kind ∧ ∃ entries, KindEntries kind.keys tokens entries ∧
        args.SaidBy fun key => entries.reverse.dlookup key) ∧
    ∀ tokens others entries reordered, KindEntries kind.keys tokens entries →
      KindEntries kind.keys others reordered → entries.NodupKeys →
      entries.Perm reordered → ∀ args,
        parseKindArgs kind tokens = .ok args ↔ parseKindArgs kind others = .ok args := by
  refine ⟨fun tokens args => parseKindArgs_eq_ok_iff, ?_⟩
  intro tokens others entries reordered hentries hreordered hnodup hperm args
  rw [parseKindArgs_of_entries hentries, parseKindArgs_of_entries hreordered]
  have hsame : (fun key => entries.reverse.dlookup key) =
      fun key => reordered.reverse.dlookup key := by
    funext key
    apply List.perm_dlookup key
    · exact (List.perm_nodupKeys entries.reverse_perm).mpr hnodup
    · exact (List.reverse_perm _).trans (hperm.trans (List.reverse_perm _).symm)
  rw [hsame]

/-- The last of two domains counts, and a comma may be missing. -/
example : (parseKindArgs .upcaster [.ident "domain", .punct '=', .strLit "order",
      .ident "name", .punct '=', .strLit "v1", .punct ',',
      .ident "domain", .punct '=', .strLit "stock"]).toOption =
    some (.upcaster (Sample.named "v1") (Sample.named "stock")) := by
  rfl

end AngzarrClient
