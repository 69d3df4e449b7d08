/-
The argument grammars of the method markers, stated on the tokens, and that the
parsers of `angzarr-macros` accept exactly these.
-/
import AngzarrClient.Macros.Tokens

namespace AngzarrClient

theorem parseIdent_eq_ok_iff {token : Option Token} {name : String} :
    parseIdent token = .ok name ↔
      ∃ found, token = some found ∧ found = .ident name ∧ name ∉ rustKeywords := by
  cases token with
  | none => simp [parseIdent]
  | some found =>
      cases found with
      | ident other =>
          rw [parseIdent]
          by_cases hkeyword : other ∈ rustKeywords
          · rw [if_pos hkeyword]
            refine ⟨fun h => (by cases h), ?_⟩
            intro ⟨found, hfound, hname, hfree⟩
            cases hfound
            cases hname
            exact absurd hkeyword hfree
          · rw [if_neg hkeyword]
            constructor
            · intro h
              cases h
              exact ⟨_, rfl, rfl, hkeyword⟩
            · intro ⟨found, hfound, hname, _⟩
              cases hfound
              cases hname
              rfl
      | _ => simp [parseIdent]

theorem parseLitStr_eq_ok_iff {token : Option Token} {text : String} :
    parseLitStr token = .ok text ↔
      ∃ found, token = some found ∧ found = .strLit text := by
  cases token with
  | none => simp [parseLitStr]
  | some found => cases found <;> simp [parseLitStr]

theorem parseEq_eq_ok_iff {token : Option Token} :
    parseEq token = .ok ⟨⟩ ↔ token = some (.punct '=') := by
  rw [parseEq.eq_def]
  split <;> simp_all

/-- A computation that returns went through every one of its steps. -/
theorem except_bind_eq_ok_iff {α β : Type} {x : Except String α}
    {f : α → Except String β} {out : β} :
    (x >>= f) = .ok out ↔ ∃ value, x = .ok value ∧ f value = .ok out := by
  cases x with
  | error message => exact ⟨fun h => (by cases h), fun ⟨_, h, _⟩ => (by cases h)⟩
  | ok value =>
      refine ⟨fun h => ⟨value, rfl, h⟩, ?_⟩
      intro ⟨found, hfound, h⟩
      cases hfound
      exact h

/-- A list of `key = value` entries, each with an optional comma after it;
`Reads` relates a value token to its text. -/
inductive EntryList (Reads : Token → String → Prop) :
    List Token → List (String × String) → Prop
  | nil : EntryList Reads [] []
  | entry {key text : String} {value : Token} {rest : List Token}
      {entries : List (String × String)} (hkey : key ∉ rustKeywords)
      (hvalue : Reads value text) (hrest : EntryList Reads rest entries) :
      EntryList Reads (.ident key :: .punct '=' :: value :: rest)
        ((key, text) :: entries)
  | comma {key text : String} {value : Token} {rest : List Token}
      {entries : List (String × String)} (hkey : key ∉ rustKeywords)
      (hvalue : Reads value text) (hrest : EntryList Reads rest entries) :
      EntryList Reads (.ident key :: .punct '=' :: value :: .punct ',' :: rest)
        ((key, text) :: entries)

/-- The last text an entry list gives a key. -/
def lastValue (key : String) : List (String × String) → Option String
  | [] => none
  | (name, text) :: rest =>
      (lastValue key rest).or (if name = key then some text else none)

/-- An entry of the list stands in the tokens as written. -/
theorem EntryList.infix_of_mem {Reads : Token → String → Prop} {tokens : List Token}
    {entries : List (String × String)} (hentries : EntryList Reads tokens entries)
    {key text : String} (hmem : (key, text) ∈ entries) :
    ∃ value, Reads value text ∧ [.ident key, .punct '=', value] <:+: tokens := by
  induction hentries with
  | nil => cases hmem
  | @entry name other value rest _ _ hvalue _ ih =>
      rcases List.mem_cons.mp hmem with heq | hmem
      · cases heq
        exact ⟨value, hvalue, [], rest, rfl⟩
      · obtain ⟨found, hfound, hinfix⟩ := ih hmem
        refine ⟨found, hfound, hinfix.trans ?_⟩
        exact ⟨[.ident name, .punct '=', value], [], by simp⟩
  | @comma name other value rest _ _ hvalue _ ih =>
      rcases List.mem_cons.mp hmem with heq | hmem
      · cases heq
        exact ⟨value, hvalue, [], .punct ',' :: rest, rfl⟩
      · obtain ⟨found, hfound, hinfix⟩ := ih hmem
        refine ⟨found, hfound, hinfix.trans ?_⟩
        exact ⟨[.ident name, .punct '=', value, .punct ','], [], by simp⟩

theorem mem_of_lastValue {key text : String} {entries : List (String × String)}
    (hlast : lastValue key entries = some text) : (key, text) ∈ entries := by
  induction entries with
  | nil => cases hlast
  | cons head rest ih =>
      obtain ⟨name, other⟩ := head
      rw [lastValue] at hlast
      cases hrest : lastValue key rest with
      | some found =>
          rw [hrest, Option.some_or] at hlast
          exact List.mem_cons_of_mem _ (ih (hrest.trans hlast))
      | none =>
          rw [hrest, Option.none_or] at hlast
          by_cases hname : name = key
          · rw [if_pos hname] at hlast
            cases hlast
            rw [hname]
            exact List.mem_cons_self
          · rw [if_neg hname] at hlast
            cases hlast

theorem parseEntries_step {σ : Type} {entry : String → Option Token → σ → Except String σ}
    {key : String} {value : Token} {rest : List Token} {args next : σ}
    (hkey : key ∉ rustKeywords) (hentry : entry key (some value) args = .ok next) :
    parseEntries entry (.ident key :: .punct '=' :: value :: rest) args =
      match rest with
      | .punct ',' :: rest => parseEntries entry rest next
      | rest => parseEntries entry rest next := by
  have hname : parseIdent (some (.ident key)) = .ok key :=
    parseIdent_eq_ok_iff.mpr ⟨_, rfl, rfl, hkey⟩
  rw [parseEntries, hname]
  change (entry key (some value) args >>= _) = _
  rw [hentry]
  rfl

/-- What an entry does to the arguments of a parser with two keys. -/
def assignEntry (first : String) (args : Option String × Option String)
    (entry : String × String) : Option String × Option String :=
  if entry.1 = first then (some entry.2, args.2) else (args.1, some entry.2)

section Pair

variable {first second : String} {parse : Option Token → Except String String}
  {Reads : Token → String → Prop}
  (hparse : ∀ token text,
    parse token = .ok text ↔ ∃ found, token = some found ∧ Reads found text)

include hparse

theorem pairEntry_eq_ok_iff {key : String} {token : Option Token}
    {args out : Option String × Option String} :
    pairEntry first second parse key token args = .ok out ↔
      ∃ value text, token = some value ∧ Reads value text ∧
        (key = first ∨ key = second) ∧ out = assignEntry first args (key, text) := by
  rw [pairEntry, except_bind_eq_ok_iff]
  constructor
  · intro ⟨text, htext, hout⟩
    obtain ⟨value, htoken, hreads⟩ := (hparse token text).mp htext
    refine ⟨value, text, htoken, hreads, ?_⟩
    by_cases hfirst : key = first
    · rw [if_pos hfirst] at hout
      cases hout
      exact ⟨Or.inl hfirst, (if_pos hfirst).symm⟩
    · rw [if_neg hfirst] at hout
      by_cases hsecond : key = second
      · rw [if_pos hsecond] at hout
        cases hout
        exact ⟨Or.inr hsecond, (if_neg hfirst).symm⟩
      · rw [if_neg hsecond] at hout
        cases hout
  · intro ⟨value, text, htoken, hreads, hkey, hout⟩
    refine ⟨text, (hparse token text).mpr ⟨value, htoken, hreads⟩, ?_⟩
    rw [hout, assignEntry]
    by_cases hfirst : key = first
    · rw [if_pos hfirst, if_pos hfirst]
      rfl
    · rw [if_neg hfirst, if_neg hfirst, if_pos (hkey.resolve_left hfirst)]
      rfl

/-- The shared loop accepts the entry lists of its two keys and folds their
entries into its arguments. -/
theorem parseEntries_of_entryList {tokens : List Token}
    {entries : List (String × String)} (hentries : EntryList Reads tokens entries)
    (hkeys : ∀ entry ∈ entries, entry.1 = first ∨ entry.1 = second)
    (args : Option String × Option String) :
    parseEntries (pairEntry first second parse) tokens args =
      .ok (entries.foldl (assignEntry first) args) := by
  induction hentries generalizing args with
  | nil => rfl
  | @entry key text value rest entries hkey hvalue hrest ih =>
      have hentry : pairEntry first second parse key (some value) args =
          .ok (assignEntry first args (key, text)) :=
        (pairEntry_eq_ok_iff hparse).mpr
          ⟨value, text, rfl, hvalue, hkeys (key, text) List.mem_cons_self, rfl⟩
      have htail := ih (fun entry hmem => hkeys entry (List.mem_cons_of_mem _ hmem))
        (assignEntry first args (key, text))
      rw [parseEntries_step hkey hentry, List.foldl_cons, ← htail]
      -- an entry list does not begin with a comma
      cases hrest with
      | nil => rfl
      | entry _ _ _ => rfl
      | comma _ _ _ => rfl
  | @comma key text value rest entries hkey hvalue hrest ih =>
      have hentry : pairEntry first second parse key (some value) args =
          .ok (assignEntry first args (key, text)) :=
        (pairEntry_eq_ok_iff hparse).mpr
          ⟨value, text, rfl, hvalue, hkeys (key, text) List.mem_cons_self, rfl⟩
      rw [parseEntries_step hkey hentry, List.foldl_cons]
      exact ih (fun entry hmem => hkeys entry (List.mem_cons_of_mem _ hmem)) _

theorem entryList_of_parseEntries {tokens : List Token}
    {args out : Option String × Option String}
    (hparsed : parseEntries (pairEntry first second parse) tokens args = .ok out) :
    ∃ entries, EntryList Reads tokens entries ∧
      (∀ entry ∈ entries, entry.1 = first ∨ entry.1 = second) ∧
      out = entries.foldl (assignEntry first) args := by
  induction tokens, args using parseEntries.induct with
  | case1 args =>
      cases hparsed
      exact ⟨[], .nil, by simp, rfl⟩
  | case2 key args =>
      -- a key alone: `parseEq` fails on the end of the input
      rw [parseEntries, except_bind_eq_ok_iff] at hparsed
      obtain ⟨_, _, hrest⟩ := hparsed
      cases hrest
  | case3 key eq args =>
      rw [parseEntries, except_bind_eq_ok_iff] at hparsed
      obtain ⟨name, _, hrest⟩ := hparsed
      rw [except_bind_eq_ok_iff] at hrest
      obtain ⟨_, _, hentry⟩ := hrest
      obtain ⟨value, _, htoken, _⟩ := (pairEntry_eq_ok_iff hparse).mp hentry
      cases htoken
  | case4 key eq value rest args ih =>
      rw [parseEntries, except_bind_eq_ok_iff] at hparsed
      obtain ⟨name, hname, hrest⟩ := hparsed
      rw [except_bind_eq_ok_iff] at hrest
      obtain ⟨_, heq, hrest⟩ := hrest
      rw [except_bind_eq_ok_iff] at hrest
      obtain ⟨next, hentry, hrest⟩ := hrest
      obtain ⟨_, hfound, hident, hkey⟩ := parseIdent_eq_ok_iff.mp hname
      have hpunct := parseEq_eq_ok_iff.mp heq
      cases hfound
      cases hident
      cases hpunct
      obtain ⟨_, text, htoken, hreads, hnamed, hnext⟩ :=
        (pairEntry_eq_ok_iff hparse).mp hentry
      cases htoken
      cases hnext
      split at hrest
      · obtain ⟨entries, hentries, hkeys, hout⟩ := ih _ hrest
        exact ⟨(name, text) :: entries, .comma hkey hreads hentries,
          List.forall_mem_cons.mpr ⟨hnamed, hkeys⟩, hout⟩
      · have hstep := ih (assignEntry first args (name, text))
        split at hstep
        · next hcomma => exact absurd rfl (hcomma _)
        · obtain ⟨entries, hentries, hkeys, hout⟩ := hstep hrest
          exact ⟨(name, text) :: entries, .entry hkey hreads hentries,
            List.forall_mem_cons.mpr ⟨hnamed, hkeys⟩, hout⟩

end Pair

/-- What the folded arguments hold: under each key its last text. -/
theorem foldl_assignEntry {first second : String} (hne : first ≠ second)
    {entries : List (String × String)}
    (hkeys : ∀ entry ∈ entries, entry.1 = first ∨ entry.1 = second)
    (args : Option String × Option String) :
    entries.foldl (assignEntry first) args =
      ((lastValue first entries).or args.1, (lastValue second entries).or args.2) := by
  induction entries generalizing args with
  | nil => rfl
  | cons entry rest ih =>
      obtain ⟨key, text⟩ := entry
      rw [List.forall_mem_cons] at hkeys
      rw [List.foldl_cons, ih hkeys.2, lastValue, lastValue, assignEntry]
      rcases hkeys.1 with hkey | hkey
      · dsimp only at hkey
        rw [if_pos hkey, if_pos hkey, if_neg (hkey ▸ hne)]
        simp
      · dsimp only at hkey
        have hother : key ≠ first := fun heq => hne (heq.symm.trans hkey)
        rw [if_neg hother, if_neg hother, if_pos hkey]
        simp

/-- A parser with two keys accepts the entry lists of these keys, and ends
with the last text of each. -/
theorem parsePair_eq_ok_iff {first second : String}
    {parse : Option Token → Except String String} {Reads : Token → String → Prop}
    (hne : first ≠ second)
    (hparse : ∀ token text,
      parse token = .ok text ↔ ∃ found, token = some found ∧ Reads found text)
    {tokens : List Token} {out : Option String × Option String} :
    parseEntries (pairEntry first second parse) tokens (none, none) = .ok out ↔
      ∃ entries, EntryList Reads tokens entries ∧
        (∀ entry ∈ entries, entry.1 = first ∨ entry.1 = second) ∧
        out = (lastValue first entries, lastValue second entries) := by
  constructor
  · intro hparsed
    obtain ⟨entries, hentries, hkeys, hout⟩ :=
      entryList_of_parseEntries hparse hparsed
    rw [foldl_assignEntry hne hkeys, Option.or_none, Option.or_none] at hout
    exact ⟨entries, hentries, hkeys, hout⟩
  · intro ⟨entries, hentries, hkeys, hout⟩
    rw [parseEntries_of_entryList hparse hentries hkeys, foldl_assignEntry hne hkeys,
      Option.or_none, Option.or_none, hout]

/-- The tokens of `#[rejected(..)]` that its grammar accepts. -/
def RejectedGrammar (tokens : List Token) (domain command : NonEmptyString) : Prop :=
  ∃ entries, EntryList (fun token text => token = .strLit text) tokens entries ∧
    (∀ entry ∈ entries, entry.1 = "domain" ∨ entry.1 = "command") ∧
    lastValue "domain" entries = some domain.value ∧
    lastValue "command" entries = some command.value

/-- The tokens of `#[upcasts(..)]` that its grammar accepts. -/
def UpcastsGrammar (tokens : List Token) (source target : String) : Prop :=
  ∃ entries, EntryList (fun token name => token = .ident name ∧ name ∉ rustKeywords)
      tokens entries ∧
    (∀ entry ∈ entries, entry.1 = "from" ∨ entry.1 = "to") ∧
    lastValue "from" entries = some source ∧ lastValue "to" entries = some target

theorem requireNonEmptyStr_eq_ok_iff {value : Option String} {field : String}
    {found : NonEmptyString} :
    requireNonEmptyStr value field = .ok found ↔ value = some found.value := by
  cases value with
  | none => simp [requireNonEmptyStr]
  | some value =>
      rw [requireNonEmptyStr]
      by_cases hempty : value = ""
      · rw [dif_pos hempty]
        refine ⟨fun h => (by cases h), ?_⟩
        intro h
        cases h
        exact absurd hempty found.nonEmpty
      · rw [dif_neg hempty]
        constructor
        · intro h
          cases h
          rfl
        · intro h
          cases h
          rfl

theorem require_eq_ok_iff {value : Option String} {field found : String} :
    require value field = .ok found ↔ value = some found := by
  cases value <;> simp [require]

theorem parseRejectedArgs_eq_ok_iff {tokens : List Token}
    {domain command : NonEmptyString} :
    parseRejectedArgs tokens = .ok (domain, command) ↔
      RejectedGrammar tokens domain command := by
  have hne : "domain" ≠ "command" := by decide
  rw [parseRejectedArgs, except_bind_eq_ok_iff]
  constructor
  · intro ⟨args, hargs, hrest⟩
    obtain ⟨entries, hentries, hkeys, hout⟩ :=
      (parsePair_eq_ok_iff hne fun _ _ => parseLitStr_eq_ok_iff).mp hargs
    obtain ⟨_, hdomain, hrest⟩ := except_bind_eq_ok_iff.mp hrest
    obtain ⟨_, hcommand, hpair⟩ := except_bind_eq_ok_iff.mp hrest
    cases hpair
    rw [hout, requireNonEmptyStr_eq_ok_iff] at hdomain hcommand
    exact ⟨entries, hentries, hkeys, hdomain, hcommand⟩
  · intro ⟨entries, hentries, hkeys, hdomain, hcommand⟩
    refine ⟨_, (parsePair_eq_ok_iff hne fun _ _ => parseLitStr_eq_ok_iff).mpr
      ⟨entries, hentries, hkeys, rfl⟩, ?_⟩
    refine except_bind_eq_ok_iff.mpr
      ⟨domain, requireNonEmptyStr_eq_ok_iff.mpr hdomain, ?_⟩
    exact except_bind_eq_ok_iff.mpr
      ⟨command, requireNonEmptyStr_eq_ok_iff.mpr hcommand, rfl⟩

theorem parseUpcastsArgs_eq_ok_iff {tokens : List Token} {source target : String} :
    parseUpcastsArgs tokens = .ok (source, target) ↔
      UpcastsGrammar tokens source target := by
  have hne : "from" ≠ "to" := by decide
  rw [parseUpcastsArgs, except_bind_eq_ok_iff]
  constructor
  · intro ⟨args, hargs, hrest⟩
    obtain ⟨entries, hentries, hkeys, hout⟩ :=
      (parsePair_eq_ok_iff hne fun _ _ => parseIdent_eq_ok_iff).mp hargs
    obtain ⟨_, hsource, hrest⟩ := except_bind_eq_ok_iff.mp hrest
    obtain ⟨_, htarget, hpair⟩ := except_bind_eq_ok_iff.mp hrest
    cases hpair
    rw [hout, require_eq_ok_iff] at hsource htarget
    exact ⟨entries, hentries, hkeys, hsource, htarget⟩
  · intro ⟨entries, hentries, hkeys, hsource, htarget⟩
    refine ⟨_, (parsePair_eq_ok_iff hne fun _ _ => parseIdent_eq_ok_iff).mpr
      ⟨entries, hentries, hkeys, rfl⟩, ?_⟩
    refine except_bind_eq_ok_iff.mpr ⟨source, require_eq_ok_iff.mpr hsource, ?_⟩
    exact except_bind_eq_ok_iff.mpr ⟨target, require_eq_ok_iff.mpr htarget, rfl⟩

end AngzarrClient
