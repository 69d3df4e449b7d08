/-
Outbound commands of sagas and process managers: which destination a root finds
(`destination_map` in `proto_ext/books.rs`), and what a rejection still says of the
source of a command whose headers were written by `stamp_command` and `deferred_header`
(`router/state.rs`, `compensation.rs`).
-/
import AngzarrClient.Compensation
import AngzarrClient.Cover
import AngzarrClient.Lib.LastWrite
import AngzarrClient.Router.Destinations
import AngzarrClient.Router.Extract

namespace AngzarrClient

section DestinationMap

variable {μ : Type} [OrderedMap μ String EventBook] [HexCrate]

/-- `destination_map`; books without a root are skipped. -/
def destinationMap (destinations : List EventBook) : μ :=
  OrderedMap.collect (destinations.filterMap fun book =>
    (CoverExt.rootIdHex book).map fun hex => (hex, book))

variable [LawfulOrderedMap μ] {books before after : List EventBook} {book : EventBook}

/-- The pairs with a key come from the books whose root has it. -/
theorem filter_rooted (books : List EventBook) (key : String) :
    ((books.filterMap fun book => (CoverExt.rootIdHex book).map fun hex => (hex, book)).filter
        fun pair => pair.1 = key) =
      (books.filter fun book => CoverExt.rootIdHex book = some key).map fun book =>
        (key, book) := by
  induction books with
  | nil => rfl
  | cons book rest ih =>
      cases hroot : CoverExt.rootIdHex book with
      | none => simp [hroot, ih]
      | some hex =>
          by_cases hkey : hex = key
          · simp [hroot, hkey, ih]
          · simp [hroot, hkey, ih]

/-- A key finds the last book whose root has it. -/
theorem get?_destinationMap (books : List EventBook) (key : String) :
    OrderedMap.get? (destinationMap books : μ) key =
      (books.filter fun book => CoverExt.rootIdHex book = some key).getLast? := by
  rw [destinationMap, OrderedMap.get?_collect, OrderedMap.lastValue, filter_rooted,
    List.getLast?_map, Option.map_map]
  exact Option.map_id'

/-- The root of a book. -/
def EventBook.root? (book : EventBook) : Option ProtoUuid :=
  book.cover.bind Cover.root

variable [LawfulHexCrate]

theorem rootIdHex_eq_some_iff {root : ProtoUuid} :
    CoverExt.rootIdHex book = some (HexCrate.encode root.value) ↔ book.root? = some root := by
  rw [CoverExt.rootIdHex]
  change (book.root?.map fun root => HexCrate.encode root.value) = _ ↔ _
  cases hroot : book.root? with
  | none => simp
  | some other =>
      rw [Option.map_some, Option.some.injEq, Option.some.injEq, HexCrate.encode_inj]
      constructor
      · intro hvalue
        cases other
        cases root
        cases hvalue
        rfl
      · rintro rfl
        rfl

/-- A book with a root is found under its own root, unless a later one of the list has
the same root: then the last of those is found, whatever its domain.  No book without a
root is found. -/
theorem destination_map_finds (books : List EventBook) :
    (∀ before book after root, books = before ++ book :: after → book.root? = some root →
      OrderedMap.get? (destinationMap books : μ) (HexCrate.encode root.value) =
        some ((after.filter fun later => later.root? = some root).getLast?.getD book)) ∧
      ∀ key book, OrderedMap.get? (destinationMap books : μ) key = some book →
        book ∈ books ∧ ∃ root, book.root? = some root ∧ key = HexCrate.encode root.value := by
  constructor
  · rintro before book after root rfl hroot
    have hsame : ∀ other : EventBook,
        decide (CoverExt.rootIdHex other = some (HexCrate.encode root.value)) =
          decide (other.root? = some root) :=
      fun other => decide_eq_decide.mpr rootIdHex_eq_some_iff
    rw [get?_destinationMap, funext hsame, List.filter_append, List.filter_cons_of_pos
      (by simpa using hroot), List.getLast?_append_of_ne_nil _ (List.cons_ne_nil _ _),
      List.getLast?_cons]
  · intro key book hfound
    rw [get?_destinationMap] at hfound
    obtain ⟨hmem, hkey⟩ := List.mem_filter.mp (List.mem_of_getLast? hfound)
    rw [decide_eq_true_iff, CoverExt.rootIdHex, Option.map_eq_some_iff] at hkey
    obtain ⟨root, hroot, hhex⟩ := hkey
    exact ⟨hmem, root, hroot, hhex.symm⟩

end DestinationMap

namespace Sample

/-- A book without a root, and two of different domains with the same root. -/
def destinationBooks : List EventBook :=
  [{ cover := some { domain := "order" } },
    { cover := some { domain := "order", root := some ⟨[171]⟩ } },
    { cover := some { domain := "inventory", root := some ⟨[171]⟩ } }]

end Sample

open Sample in
/-- The order with the root is hidden by the inventory with the same root. -/
theorem destination_map_finds_sample :
    OrderedMap.get? (destinationMap destinationBooks : PairMap String EventBook) "ab" =
      some { cover := some { domain := "inventory", root := some ⟨[171]⟩ } } := by
  obtain ⟨hfinds, -⟩ := @destination_map_finds (PairMap String EventBook) _ _ _ _ destinationBooks
  exact hfinds [{ cover := some { domain := "order" } }]
    { cover := some { domain := "order", root := some ⟨[171]⟩ } }
    [{ cover := some { domain := "inventory", root := some ⟨[171]⟩ } }] ⟨[171]⟩ rfl rfl

/-- A write to the headers of a command: a stamp, which fails without a sequence for the
domain, or the deferred header of a source event. -/
inductive HeaderStep (μ : Type)
  | stamp (destinations : Destinations μ) (domain : String)
  | defer (sourceCover : Cover) (sourceSeq : UInt32)

section Headers

variable {μ : Type} [OrderedMap μ String UInt32]

/-- The book after the write. -/
def CommandBook.write (cmd : CommandBook) : HeaderStep μ → CommandBook
  | .stamp destinations domain => (destinations.stampCommand cmd domain).2
  | .defer sourceCover sourceSeq =>
      { cmd with pages := cmd.pages.map fun page =>
          { page with header := some (Destinations.deferredHeader sourceCover sourceSeq) } }

namespace HeaderStep

/-- What the step writes. -/
def written : HeaderStep μ → Option SequenceType
  | .stamp destinations domain => (destinations.sequenceFor domain).map .sequence
  | .defer sourceCover sourceSeq =>
      some (.angzarrDeferred { source := some sourceCover, sourceSeq := sourceSeq })

/-- What the step does to each page. -/
def onPage (page : CommandPage) : HeaderStep μ → CommandPage
  | .stamp destinations domain =>
      match destinations.sequenceFor domain with
      | some seq => page.stamp seq
      | none => page
  | .defer sourceCover sourceSeq =>
      { page with header := some (Destinations.deferredHeader sourceCover sourceSeq) }

end HeaderStep

/-- The sequence of a page, explicit or deferred. -/
def CommandPage.sequenceType (page : CommandPage) : Option SequenceType :=
  page.header.bind PageHeader.sequenceType

variable {cmd : CommandBook} {steps : List (HeaderStep μ)}

theorem write_eq (cmd : CommandBook) (step : HeaderStep μ) :
    cmd.write step =
      { cmd with pages := cmd.pages.map fun page => HeaderStep.onPage page step } := by
  cases step with
  | defer sourceCover sourceSeq => rfl
  | stamp destinations domain =>
      rw [CommandBook.write, Destinations.stampCommand]
      simp only [HeaderStep.onPage, Destinations.sequenceFor]
      cases OrderedMap.get? destinations.sequences domain with
      | none => simp
      | some seq => rfl

/-- The steps act page by page. -/
theorem foldl_write_eq (cmd : CommandBook) (steps : List (HeaderStep μ)) :
    steps.foldl CommandBook.write cmd =
      { cmd with pages := cmd.pages.map fun page => steps.foldl HeaderStep.onPage page } := by
  induction steps generalizing cmd with
  | nil => simp
  | cons step rest ih =>
      rw [List.foldl_cons, ih, write_eq]
      simp [Function.comp_def]

theorem fills_sequenceType :
    LastWrite.Fills (@HeaderStep.onPage μ _) CommandPage.sequenceType HeaderStep.written := by
  intro page step
  cases step with
  | defer sourceCover sourceSeq => rfl
  | stamp destinations domain =>
      rw [HeaderStep.onPage, HeaderStep.written]
      cases destinations.sequenceFor domain with
      | none => rfl
      | some seq => rfl

theorem payload_onPage (page : CommandPage) (step : HeaderStep μ) :
    (HeaderStep.onPage page step).payload = page.payload := by
  cases step with
  | defer sourceCover sourceSeq => rfl
  | stamp destinations domain =>
      rw [HeaderStep.onPage]
      cases destinations.sequenceFor domain with
      | none => rfl
      | some seq => rfl

theorem sequenceType_foldl (page : CommandPage) (steps : List (HeaderStep μ)) :
    (steps.foldl HeaderStep.onPage page).sequenceType =
      (LastWrite.last? HeaderStep.written steps).or page.sequenceType :=
  fills_sequenceType.foldl page steps

theorem payload_foldl (page : CommandPage) (steps : List (HeaderStep μ)) :
    (steps.foldl HeaderStep.onPage page).payload = page.payload :=
  LastWrite.Writes.foldl_of_untouched payload_onPage page steps

/-- The sequence that is deferred to a source event, if this one is. -/
def SequenceType.deferred? : SequenceType → Option AngzarrDeferredSequence
  | .angzarrDeferred deferred => some deferred
  | _ => none

theorem deferredSource_eq (cmd : CommandBook) :
    CompensationContext.deferredSource (some cmd) =
      cmd.pages.head?.bind fun page => page.sequenceType.bind SequenceType.deferred? := by
  rw [CompensationContext.deferredSource, Option.bind_some]
  congr 1
  funext page
  rw [CommandPage.sequenceType, Option.bind_assoc]
  congr 1
  funext header
  cases header.sequenceType with
  | none => rfl
  | some sequenceType => cases sequenceType <;> rfl

/-- What a rejection says of the source of the command after the writes. -/
def sourceAfter (cmd : CommandBook) (steps : List (HeaderStep μ)) :
    Option AngzarrDeferredSequence :=
  cmd.pages.head?.bind fun page =>
    ((LastWrite.last? HeaderStep.written steps).or page.sequenceType).bind
      SequenceType.deferred?

theorem deferredSource_foldl (cmd : CommandBook) (steps : List (HeaderStep μ)) :
    CompensationContext.deferredSource (some (steps.foldl CommandBook.write cmd)) =
      sourceAfter cmd steps := by
  rw [deferredSource_eq, foldl_write_eq, sourceAfter, List.head?_map, Option.bind_map]
  congr 1
  funext page
  exact congrArg (Option.bind · SequenceType.deferred?) (sequenceType_foldl page steps)

/-- The key of a rejection of the command. -/
def CommandBook.rejectionKey (cmd : CommandBook) : String × String :=
  ({ rejectedCommand := some cmd } : RejectionNotification).key

/-- The writes touch neither the domain nor the first payload. -/
theorem commandUrl_foldl (cmd : CommandBook) (steps : List (HeaderStep μ)) :
    ({ rejectedCommand := some (steps.foldl CommandBook.write cmd) } :
        RejectionNotification).commandUrl =
      ({ rejectedCommand := some cmd } : RejectionNotification).commandUrl := by
  simp only [RejectionNotification.commandUrl, foldl_write_eq, Option.bind_some,
    List.head?_map, Option.bind_map, Function.comp_def, payload_foldl]

theorem key_foldl {rejection : RejectionNotification}
    (hrejected : rejection.rejectedCommand = some (steps.foldl CommandBook.write cmd)) :
    rejection.key = cmd.rejectionKey := by
  obtain ⟨rejected, reason⟩ := rejection
  obtain rfl : rejected = _ := hrejected
  have hurl := commandUrl_foldl cmd steps
  rw [CommandBook.rejectionKey, RejectionNotification.key, RejectionNotification.key, ← hurl,
    RejectionNotification.targetDomain, RejectionNotification.targetDomain]
  simp only [foldl_write_eq]
  rfl

theorem dispatchKey_foldl {ctx : CompensationContext}
    (hcommand : ctx.rejectedCommand = some (steps.foldl CommandBook.write cmd)) :
    ctx.dispatchKey =
      ({ rejectedCommand := some cmd } : CompensationContext).dispatchKey := by
  have htype : ctx.rejectedCommandType =
      ({ rejectedCommand := some cmd } : CompensationContext).rejectedCommandType := by
    rw [CompensationContext.rejectedCommandType, hcommand]
    exact congrArg (Option.getD · "") (commandUrl_foldl cmd steps)
  rw [CompensationContext.dispatchKey, htype, hcommand, foldl_write_eq]
  rfl

/-- The context of a rejection names what the last write left as the source. -/
theorem fromNotification_foldl {prost : Prost} {notification : Notification} {inner : Any}
    {rejection : RejectionNotification} (hpayload : notification.payload = some inner)
    (hdecode : prost.rejectionNotification inner.value = .ok rejection)
    (hrejected : rejection.rejectedCommand = some (steps.foldl CommandBook.write cmd)) :
    CompensationContext.fromNotification prost notification =
      { rejectionReason := rejection.rejectionReason
        rejectedCommand := some (steps.foldl CommandBook.write cmd)
        sourceAggregate := (sourceAfter cmd steps).bind AngzarrDeferredSequence.source
        sourceEventSequence :=
          ((sourceAfter cmd steps).map AngzarrDeferredSequence.sourceSeq).getD 0 } := by
  rw [CompensationContext.fromNotification, hpayload]
  dsimp only
  rw [hdecode]
  dsimp only
  rw [hrejected, deferredSource_foldl]

end Headers

namespace Sample

/-- A command that is deferred to its source event; no sequence is known for the domain it
is stamped for. -/
def deferThenFail : List (HeaderStep (PairMap String UInt32)) :=
  [.defer { domain := "player" } 3, .stamp (.fromSequences sequences) "shipping"]

end Sample

end AngzarrClient
