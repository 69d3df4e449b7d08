/-
Destination sequences of sagas and process managers (`router/state.rs`): a map from
domains to their next sequences, and the stamping of outbound commands with them.
Stamping sets the sequence of every page and nothing else, or fails before the first
page.
-/
import AngzarrClient.Error
import AngzarrClient.Lib.OrderedMap
import AngzarrClient.ProtoExt
import Mathlib.Data.List.Forall2

namespace AngzarrClient

/-- `Destinations`, over the map type that `indexmap` provides. -/
structure Destinations (μ : Type) where
  sequences : μ

/-- What `stamp_command` does to a page; a missing header is created. -/
def CommandPage.stamp (seq : UInt32) (page : CommandPage) : CommandPage :=
  { page with
    header := some { page.header.getD {} with sequenceType := some (.sequence seq) } }

/-- The error of a domain that has no sequence. -/
def ClientError.missingDestinationSequence (domain : String) : ClientError :=
  ofCode codes.missingDestinationSequence messages.missingDestinationSequence
    [(keys.domain, domain)]

namespace Destinations

variable {μ : Type} [OrderedMap μ String UInt32]

/-- `Destinations::from_sequences`. -/
def fromSequences (sequences : List (String × UInt32)) : Destinations μ :=
  ⟨OrderedMap.collect sequences⟩

/-- `Destinations::sequence_for`. -/
def sequenceFor (destinations : Destinations μ) (domain : String) : Option UInt32 :=
  OrderedMap.get? destinations.sequences domain

/-- `Destinations::has_domain`. -/
def hasDomain (destinations : Destinations μ) (domain : String) : Bool :=
  (OrderedMap.get? destinations.sequences domain).isSome

/-- `Destinations::domains`. -/
def domains (destinations : Destinations μ) : List String :=
  OrderedMap.keys destinations.sequences

/-- `Destinations::deferred_header`. -/
def deferredHeader (sourceCover : Cover) (sourceSeq : UInt32) : PageHeader where
  sequenceType := some (.angzarrDeferred { source := some sourceCover, sourceSeq := sourceSeq })

/-- `Destinations::stamp_command`: its result, and the book it leaves behind. -/
def stampCommand (destinations : Destinations μ) (cmd : CommandBook) (domain : String) :
    Except ClientError Unit × CommandBook :=
  match OrderedMap.get? destinations.sequences domain with
  | none => (.error (.missingDestinationSequence domain), cmd)
  | some seq => (.ok (), { cmd with pages := cmd.pages.map (CommandPage.stamp seq) })

end Destinations

/-- `after` is `before` with the explicit sequence `seq`, whatever the sequence of
`before` was. -/
structure CommandPage.Stamped (seq : UInt32) (before after : CommandPage) : Prop where
  explicit : after.header.bind PageHeader.explicitSequence = some seq
  payload : after.payload = before.payload
  mergeStrategy : after.mergeStrategy = before.mergeStrategy
  syncMode : after.header.bind PageHeader.syncMode = before.header.bind PageHeader.syncMode

/-- Page by page `after` is `before`, stamped with `seq`. -/
structure CommandBook.Stamped (seq : UInt32) (before after : CommandBook) : Prop where
  cover : after.cover = before.cover
  pages : List.Forall₂ (CommandPage.Stamped seq) before.pages after.pages

section Stamp

variable {seq : UInt32} {page : CommandPage} {before after : CommandBook}

theorem CommandPage.stamped_stamp (seq : UInt32) (page : CommandPage) :
    page.Stamped seq (page.stamp seq) := by
  refine ⟨rfl, rfl, rfl, ?_⟩
  cases hheader : page.header with
  | none => simp [CommandPage.stamp, hheader]
  | some header => simp [CommandPage.stamp, hheader]

@[simp] theorem CommandPage.stamp_stamp (seq : UInt32) (page : CommandPage) :
    (page.stamp seq).stamp seq = page.stamp seq := rfl

/-- A stamped book with pages has the sequence as its own. -/
theorem CommandBook.Stamped.commandSequence_eq (hstamped : before.Stamped seq after)
    (hpages : before.pages ≠ []) : after.commandSequence = seq := by
  obtain ⟨-, hpairs⟩ := hstamped
  rw [CommandBook.commandSequence]
  cases hbefore : before.pages with
  | nil => exact absurd hbefore hpages
  | cons first rest =>
      rw [hbefore] at hpairs
      cases hafter : after.pages with
      | nil =>
          rw [hafter] at hpairs
          cases hpairs
      | cons page pages =>
          rw [hafter] at hpairs
          obtain ⟨hfirst, -⟩ := List.forall₂_cons.mp hpairs
          simp [CommandPage.sequenceNum, hfirst.explicit]

end Stamp

namespace Destinations

variable {μ : Type} [OrderedMap μ String UInt32]

/-- A domain with a sequence: every page is stamped with it, and stamping once more
changes nothing. -/
theorem stampCommand_of_sequenceFor {destinations : Destinations μ} {domain : String}
    {seq : UInt32} (hseq : destinations.sequenceFor domain = some seq) (cmd : CommandBook) :
    ∃ stamped, destinations.stampCommand cmd domain = (.ok (), stamped) ∧
      cmd.Stamped seq stamped ∧
      destinations.stampCommand stamped domain = (.ok (), stamped) := by
  rw [sequenceFor] at hseq
  refine ⟨{ cmd with pages := cmd.pages.map (CommandPage.stamp seq) }, ?_, ⟨rfl, ?_⟩, ?_⟩
  · rw [stampCommand, hseq]
  · rw [List.forall₂_map_right_iff, List.forall₂_same]
    exact fun page _ => page.stamped_stamp seq
  · rw [stampCommand, hseq]
    simp [Function.comp_def]

/-- A domain without one: an error that names it, and an untouched book. -/
theorem stampCommand_of_sequenceFor_eq_none {destinations : Destinations μ}
    {domain : String} (hseq : destinations.sequenceFor domain = none) (cmd : CommandBook) :
    destinations.stampCommand cmd domain =
      (.error (.missingDestinationSequence domain), cmd) := by
  rw [sequenceFor] at hseq
  rw [stampCommand, hseq]

/-- `has_domain` says whether a command for the domain can be stamped. -/
theorem stampCommand_isOk_iff {destinations : Destinations μ} {domain : String}
    (cmd : CommandBook) :
    (destinations.stampCommand cmd domain).1 = .ok () ↔ destinations.hasDomain domain := by
  rw [stampCommand, hasDomain]
  cases OrderedMap.get? destinations.sequences domain with
  | none => simp
  | some seq => simp

/-- No page is deferred after a stamp. -/
theorem isDeferred_stamp (seq : UInt32) (page : CommandPage) :
    (page.stamp seq).isDeferred = false := rfl

variable [LawfulOrderedMap μ]

theorem sequenceFor_fromSequences (sequences : List (String × UInt32)) (domain : String) :
    (fromSequences sequences : Destinations μ).sequenceFor domain =
      OrderedMap.lastValue domain sequences :=
  OrderedMap.get?_collect sequences domain

/-- The domains come in the order of the list, each once. -/
theorem domains_fromSequences (sequences : List (String × UInt32)) :
    (fromSequences sequences : Destinations μ).domains =
      (sequences.map Prod.fst).eraseDups :=
  OrderedMap.keys_collect sequences

end Destinations

/-- Stamping succeeds for the domains of the list.  It stamps every page with the
sequence of the last pair of the domain, keeps the rest, and does nothing the second
time; a failure leaves the book as it was. -/
theorem stampCommand_sound {μ : Type} [OrderedMap μ String UInt32] [LawfulOrderedMap μ]
    (sequences : List (String × UInt32)) (domain : String) (cmd : CommandBook) :
    let destinations : Destinations μ := .fromSequences sequences
    let run := destinations.stampCommand cmd domain
    (run.1 = .ok () ↔ domain ∈ sequences.map Prod.fst) ∧
      (run.1 = .ok () → ∃ seq, OrderedMap.lastValue domain sequences = some seq ∧
        cmd.Stamped seq run.2 ∧ destinations.stampCommand run.2 domain = (.ok (), run.2) ∧
        (cmd.pages ≠ [] → run.2.commandSequence = seq)) ∧
      (run.1 ≠ .ok () → run.2 = cmd) := by
  intro destinations run
  have hlast : destinations.sequenceFor domain = OrderedMap.lastValue domain sequences :=
    Destinations.sequenceFor_fromSequences sequences domain
  rw [← OrderedMap.isSome_lastValue_iff, ← hlast]
  cases hseq : destinations.sequenceFor domain with
  | none =>
      have hrun : run = (.error (.missingDestinationSequence domain), cmd) :=
        Destinations.stampCommand_of_sequenceFor_eq_none hseq cmd
      simp [hrun]
  | some seq =>
      obtain ⟨stamped, hrun, hstamped, hagain⟩ :=
        Destinations.stampCommand_of_sequenceFor hseq cmd
      have hrun' : run = (.ok (), stamped) := hrun
      rw [hrun']
      refine ⟨by simp, fun _ => ⟨seq, rfl, hstamped, hagain, hstamped.commandSequence_eq⟩, ?_⟩
      exact fun hfailed => absurd rfl hfailed

namespace Sample

/-- A domain that occurs twice, and one between. -/
def sequences : List (String × UInt32) :=
  [("order", 4), ("inventory", 5), ("order", 7)]

/-- A page without a header, and one with a deferred sequence. -/
def unstamped : CommandBook where
  cover := some { domain := "order" }
  pages :=
    [{ mergeStrategy := 1 },
      { header := some (Destinations.deferredHeader { domain := "player" } 3) }]

end Sample

open Sample in
/-- Both pages get the sequence of the last pair. -/
theorem stampCommand_sound_sample :
    let destinations : Destinations (PairMap String UInt32) := .fromSequences sequences
    let run := destinations.stampCommand unstamped "order"
    run.1 = .ok () ∧ unstamped.Stamped 7 run.2 ∧ run.2.commandSequence = 7 := by
  obtain ⟨hsucceeds, hstamps, -⟩ :=
    @stampCommand_sound (PairMap String UInt32) _ _ sequences "order" unstamped
  have hok := hsucceeds.mpr (by decide)
  obtain ⟨seq, hseq, hstamped, -, hcommand⟩ := hstamps hok
  obtain rfl : 7 = seq := Option.some.inj hseq
  exact ⟨hok, hstamped, hcommand (by decide)⟩

end AngzarrClient
