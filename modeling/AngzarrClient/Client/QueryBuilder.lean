/-
The query builder (`builder.rs`).  A chain of selectors ends at the first timestamp
that does not parse; otherwise the last selector of each kind counts, and a
correlation id anywhere in the chain drops the root.
-/
import AngzarrClient.Client.Messages
import AngzarrClient.Error
import AngzarrClient.Lib.EventFold
import AngzarrClient.Lib.LastWrite
import AngzarrClient.Uuid

namespace AngzarrClient

open LastWrite

/-- `QueryBuilder`, without the client it will send with. -/
structure QueryBuilder where
  domain : String
  root : Option Uuid
  correlationId : Option String := none
  selection : Option Selection := none
  edition : Option String := none
deriving DecidableEq

/-- The error of `parse_timestamp`. -/
def ClientError.timestampParseFailed (input cause : String) : ClientError :=
  .invalidTimestamp ⟨codes.timestampParseFailed, messages.timestampParseFailed,
    [(keys.input, input), (keys.cause, cause)]⟩

/-- `parse_timestamp`; `chrono` is the parser it calls, with the text of its error. -/
def parseTimestamp (chrono : String → Except String Timestamp) (rfc3339 : String) :
    Except ClientError Timestamp :=
  (chrono rfc3339).mapError (.timestampParseFailed rfc3339)

namespace QueryBuilder

/-- `QueryBuilder::new`, behind `query` and, without a root, `query_domain`. -/
def new (domain : String) (root : Option Uuid) : QueryBuilder where
  domain := domain
  root := root

def byCorrelationId (builder : QueryBuilder) (id : String) : QueryBuilder :=
  { builder with correlationId := some id, root := none }

def withEdition (builder : QueryBuilder) (edition : String) : QueryBuilder :=
  { builder with edition := some edition }

def range (builder : QueryBuilder) (lower : UInt32) : QueryBuilder :=
  { builder with selection := some (.range { lower := lower }) }

def rangeTo (builder : QueryBuilder) (lower upper : UInt32) : QueryBuilder :=
  { builder with selection := some (.range { lower := lower, upper := some upper }) }

def asOfSequence (builder : QueryBuilder) (seq : UInt32) : QueryBuilder :=
  { builder with selection := some (.temporal { pointInTime := some (.asOfSequence seq) }) }

def asOfTime (chrono : String → Except String Timestamp) (builder : QueryBuilder)
    (rfc3339 : String) : Except ClientError QueryBuilder :=
  match parseTimestamp chrono rfc3339 with
  | .error error => .error error
  | .ok time => .ok
      { builder with selection := some (.temporal { pointInTime := some (.asOfTime time) }) }

/-- `build_inner`, and `build`, which only calls it. -/
def build (builder : QueryBuilder) : Query where
  cover := some {
    domain := builder.domain
    root := builder.root.map uuidToProto
    correlationId := builder.correlationId.getD ""
    edition := builder.edition.map Edition.implicit }
  selection := builder.selection

end QueryBuilder

/-- A call of one of the selectors. -/
inductive QuerySelector
  | byCorrelationId (id : String)
  | withEdition (edition : String)
  | range (lower : UInt32)
  | rangeTo (lower upper : UInt32)
  | asOfSequence (seq : UInt32)
  | asOfTime (rfc3339 : String)

namespace QuerySelector

variable (chrono : String → Except String Timestamp)

/-- The builder after the call, as `?` hands it on. -/
def apply (builder : QueryBuilder) : QuerySelector → Except ClientError QueryBuilder
  | byCorrelationId id => .ok (builder.byCorrelationId id)
  | withEdition edition => .ok (builder.withEdition edition)
  | range lower => .ok (builder.range lower)
  | rangeTo lower upper => .ok (builder.rangeTo lower upper)
  | asOfSequence seq => .ok (builder.asOfSequence seq)
  | asOfTime rfc3339 => builder.asOfTime chrono rfc3339

/-- The builder after the calls, the first one first. -/
def applyAll (builder : QueryBuilder) (selectors : List QuerySelector) :
    Except ClientError QueryBuilder :=
  selectors.foldlM (apply chrono) builder

def correlationId? : QuerySelector → Option String
  | byCorrelationId id => some id
  | _ => none

def edition? : QuerySelector → Option String
  | withEdition edition => some edition
  | _ => none

/-- The selection a call leads to, if it leads to one. -/
def selection? : QuerySelector → Option Selection
  | range lower => some (.range { lower := lower })
  | rangeTo lower upper => some (.range { lower := lower, upper := some upper })
  | asOfSequence seq => some (.temporal { pointInTime := some (.asOfSequence seq) })
  | asOfTime rfc3339 =>
      match chrono rfc3339 with
      | .error _ => none
      | .ok time => some (.temporal { pointInTime := some (.asOfTime time) })
  | _ => none

/-- The calls as events: only `as_of_time` can be unreadable. -/
def chain : EventFold ClientError QueryBuilder QuerySelector (QueryBuilder → QueryBuilder) where
  read
    | asOfTime rfc3339 => (parseTimestamp chrono rfc3339).map fun time => some fun builder =>
        { builder with
          selection := some (.temporal { pointInTime := some (.asOfTime time) }) }
    | byCorrelationId id => .ok (some (·.byCorrelationId id))
    | withEdition edition => .ok (some (·.withEdition edition))
    | range lower => .ok (some (·.range lower))
    | rangeTo lower upper => .ok (some (·.rangeTo lower upper))
    | asOfSequence seq => .ok (some (·.asOfSequence seq))
  act builder call := call builder

/-- The timestamp of the call does not parse. -/
def Unparsable (selector : QuerySelector) (error : ClientError) : Prop :=
  ∃ rfc3339 cause, selector = asOfTime rfc3339 ∧ chrono rfc3339 = .error cause ∧
    error = .timestampParseFailed rfc3339 cause

section Chain

variable {chrono} {selector : QuerySelector} {selectors : List QuerySelector}
  {builder : QueryBuilder} {error : ClientError}

theorem read_eq_error_iff :
    (chain chrono).read selector = .error error ↔ selector.Unparsable chrono error := by
  cases selector with
  | asOfTime rfc3339 =>
      cases hparse : chrono rfc3339 with
      | error cause =>
          simp [chain, Unparsable, parseTimestamp, hparse, Except.mapError, Except.map, eq_comm]
      | ok time =>
          simp [chain, Unparsable, parseTimestamp, hparse, Except.mapError, Except.map]
  | byCorrelationId id | withEdition edition | range lower | rangeTo lower upper
  | asOfSequence seq => simp [chain, Unparsable]

theorem readable_iff :
    (chain chrono).Readable selector ↔ ∀ error, ¬selector.Unparsable chrono error := by
  simp only [← read_eq_error_iff]
  rw [EventFold.Readable]
  cases (chain chrono).read selector with
  | error error => simp
  | ok reading => simp

/-- One call is one event. -/
theorem apply_eq_replay :
    apply chrono builder selector = (chain chrono).replay builder [selector] := by
  cases selector with
  | asOfTime rfc3339 =>
      cases hparse : chrono rfc3339 with
      | error cause =>
          simp [apply, QueryBuilder.asOfTime, EventFold.replay, chain, parseTimestamp, hparse,
            Except.mapError, Except.map]
      | ok time =>
          simp [apply, QueryBuilder.asOfTime, EventFold.replay, chain, parseTimestamp, hparse,
            Except.mapError, Except.map]
  | byCorrelationId id | withEdition edition | range lower | rangeTo lower upper
  | asOfSequence seq => rfl

/-- The chain of calls is the replay of its events. -/
theorem applyAll_eq_replay :
    applyAll chrono builder selectors = (chain chrono).replay builder selectors := by
  induction selectors generalizing builder with
  | nil => rfl
  | cons selector rest ih =>
      have hsplit := EventFold.replay_append (m := chain chrono) builder [selector] rest
      rw [List.singleton_append] at hsplit
      rw [hsplit, ← apply_eq_replay, applyAll, List.foldlM_cons]
      cases apply chrono builder selector with
      | error error => rfl
      | ok next => exact ih

end Chain

section Fields

variable (builder : QueryBuilder) (selectors : List QuerySelector)

/-- What the call writes, for each field it may write. -/
theorem effect_fields (selector : QuerySelector) :
    ((chain chrono).effect builder selector).domain = builder.domain ∧
      ((chain chrono).effect builder selector).root =
        ((correlationId? selector).map fun _ => none).getD builder.root ∧
      ((chain chrono).effect builder selector).correlationId =
        (correlationId? selector).or builder.correlationId ∧
      ((chain chrono).effect builder selector).edition =
        (edition? selector).or builder.edition ∧
      ((chain chrono).effect builder selector).selection =
        (selection? chrono selector).or builder.selection := by
  cases selector with
  | asOfTime rfc3339 =>
      cases hparse : chrono rfc3339 with
      | error cause =>
          simp [EventFold.effect, chain, parseTimestamp, hparse, Except.mapError, Except.map,
            correlationId?, edition?, selection?]
      | ok time =>
          simp [EventFold.effect, chain, parseTimestamp, hparse, Except.mapError, Except.map,
            correlationId?, edition?, selection?]
  | byCorrelationId id => exact ⟨rfl, rfl, rfl, rfl, rfl⟩
  | withEdition edition => exact ⟨rfl, rfl, rfl, rfl, rfl⟩
  | range lower => exact ⟨rfl, rfl, rfl, rfl, rfl⟩
  | rangeTo lower upper => exact ⟨rfl, rfl, rfl, rfl, rfl⟩
  | asOfSequence seq => exact ⟨rfl, rfl, rfl, rfl, rfl⟩

/-- The builder after a chain whose timestamps all parse. -/
theorem foldl_effect :
    selectors.foldl (chain chrono).effect builder =
      { domain := builder.domain
        root := if last? correlationId? selectors = none then builder.root else none
        correlationId := (last? correlationId? selectors).or builder.correlationId
        selection := (last? (selection? chrono) selectors).or builder.selection
        edition := (last? edition? selectors).or builder.edition } := by
  have hdomain : (selectors.foldl (chain chrono).effect builder).domain = builder.domain :=
    Writes.foldl_of_untouched (fun builder selector =>
      (effect_fields chrono builder selector).1) builder selectors
  have hroot : (selectors.foldl (chain chrono).effect builder).root =
      (last? (fun selector => (correlationId? selector).map fun _ => none) selectors).getD
        builder.root :=
    Writes.foldl (fun builder selector =>
      (effect_fields chrono builder selector).2.1) builder selectors
  have hcorrelation : (selectors.foldl (chain chrono).effect builder).correlationId =
      (last? correlationId? selectors).or builder.correlationId :=
    Fills.foldl (fun builder selector =>
      (effect_fields chrono builder selector).2.2.1) builder selectors
  have hedition : (selectors.foldl (chain chrono).effect builder).edition =
      (last? edition? selectors).or builder.edition :=
    Fills.foldl (fun builder selector =>
      (effect_fields chrono builder selector).2.2.2.1) builder selectors
  have hselection : (selectors.foldl (chain chrono).effect builder).selection =
      (last? (selection? chrono) selectors).or builder.selection :=
    Fills.foldl (fun builder selector =>
      (effect_fields chrono builder selector).2.2.2.2) builder selectors
  rw [last?_map] at hroot
  generalize selectors.foldl (chain chrono).effect builder = after at *
  cases after
  simp only at hdomain hroot hcorrelation hedition hselection
  rw [hdomain, hroot, hcorrelation, hedition, hselection]
  cases last? correlationId? selectors with
  | none => rfl
  | some id => simp

end Fields

end QuerySelector

open QuerySelector

/-- The query asks for what the chain said last. -/
structure Query.AsksLast (chrono : String → Except String Timestamp) (domain : String)
    (root : Option Uuid) (selectors : List QuerySelector) (query : Query) : Prop where
  domain : query.cover.map Cover.domain = some domain
  correlationId :
    CoverExt.correlationId query = (last? correlationId? selectors).getD ""
  root : (CoverExt.cover query).bind Cover.root =
    if last? correlationId? selectors = none then root.map Uuid.toProtoUuid else none
  edition : CoverExt.edition query = (last? edition? selectors).getD defaultEdition
  selection : query.selection = last? (selection? chrono) selectors

namespace QueryBuilder

variable {chrono : String → Except String Timestamp} {domain : String} {root : Option Uuid}
  {selectors : List QuerySelector}

/-- A chain fails with the first timestamp that does not parse. -/
theorem applyAll_eq_error_iff {error : ClientError} :
    applyAll chrono (new domain root) selectors = .error error ↔
      ∃ before selector after, selectors = before ++ selector :: after ∧
        (∀ other ∈ before, ∀ error, ¬other.Unparsable chrono error) ∧
        selector.Unparsable chrono error := by
  simp only [applyAll_eq_replay, EventFold.replay_eq_error_iff, readable_iff,
    read_eq_error_iff]

theorem asksLast_of_applyAll {builder : QueryBuilder}
    (happly : applyAll chrono (new domain root) selectors = .ok builder) :
    builder.build.AsksLast chrono domain root selectors := by
  rw [applyAll_eq_replay, EventFold.replay_eq_ok_iff, foldl_effect] at happly
  obtain ⟨-, rfl⟩ := happly
  refine ⟨rfl, ?_, ?_, ?_, ?_⟩
  · simp [build, new, CoverExt.correlationId, CoverExt.cover]
  · by_cases hcorrelation : last? correlationId? selectors = none
    · rw [if_pos hcorrelation]
      simp only [build, new, CoverExt.cover, hcorrelation, if_true, Option.bind_some]
      rfl
    · simp [build, new, CoverExt.cover, hcorrelation]
  · simp only [build, new, CoverExt.edition, CoverExt.cover, Option.or_none,
      Option.bind_some, Option.map_map]
    cases last? edition? selectors with
    | none => rfl
    | some edition =>
        by_cases hempty : edition = ""
        · simp [Edition.implicit, Option.filter, hempty, defaultEdition]
        · simp [Edition.implicit, Option.filter, hempty]
  · simp [build, new]

end QueryBuilder

end AngzarrClient
