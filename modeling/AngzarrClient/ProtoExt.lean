/-
Sequence numbers of pages and books (`proto_ext/pages.rs`, `proto_ext/books.rs`).
The next sequence of a book is computed from its last page alone, so it is past
every explicit sequence of the book when that page has one.
-/
import AngzarrClient.Proto

namespace AngzarrClient

/-- `PageHeaderExt::explicit_sequence`; `none` for deferred sequences. -/
def PageHeader.explicitSequence (header : PageHeader) : Option UInt32 :=
  match header.sequenceType with
  | some (.sequence seq) => some seq
  | _ => none

/-- `PageHeaderExt::is_deferred`. -/
def PageHeader.isDeferred (header : PageHeader) : Bool :=
  match header.sequenceType with
  | some (.externalDeferred _) | some (.angzarrDeferred _) => true
  | _ => false

/-- `EventPageExt::is_deferred`. -/
def EventPage.isDeferred (page : EventPage) : Bool :=
  (page.header.map PageHeader.isDeferred).getD false

/-- `CommandPageExt::is_deferred`. -/
def CommandPage.isDeferred (page : CommandPage) : Bool :=
  (page.header.map PageHeader.isDeferred).getD false

/-- A sequence is explicit, or deferred, or not there. -/
theorem PageHeader.isDeferred_iff {header : PageHeader} :
    header.isDeferred ↔
      header.sequenceType.isSome ∧ header.explicitSequence = none := by
  rw [isDeferred, explicitSequence]
  cases header.sequenceType with
  | none => simp
  | some sequenceType => cases sequenceType <;> simp

/-- `EventPageExt::sequence_num`; 0 for a page that is not stamped yet. -/
def EventPage.sequenceNum (page : EventPage) : UInt32 :=
  (page.header.bind PageHeader.explicitSequence).getD 0

/-- `CommandPageExt::sequence_num`. -/
def CommandPage.sequenceNum (page : CommandPage) : UInt32 :=
  (page.header.bind PageHeader.explicitSequence).getD 0

/-- `CommandBookExt::command_sequence`. -/
def CommandBook.commandSequence (book : CommandBook) : UInt32 :=
  (book.pages.head?.map CommandPage.sequenceNum).getD 0

/-- `calculate_next_sequence`. -/
def calculateNextSequence (pages : List EventPage) (snapshot : Option Snapshot) :
    UInt32 :=
  match pages.getLast? with
  | some lastPage => lastPage.sequenceNum + 1
  | none => (snapshot.map fun s => s.sequence + 1).getD 0

/-- `calculate_set_next_seq`. -/
def calculateSetNextSeq (book : EventBook) : EventBook :=
  { book with nextSequence := calculateNextSequence book.pages book.snapshot }

/-- The explicit sequence of a page, if it has one. -/
def EventPage.explicit (page : EventPage) : Option UInt32 :=
  page.header.bind PageHeader.explicitSequence

theorem EventPage.sequenceNum_eq (page : EventPage) :
    page.sequenceNum = page.explicit.getD 0 := rfl

/-- The explicit sequences of the pages, in order. -/
def explicitSequences (pages : List EventPage) : List UInt32 :=
  pages.filterMap EventPage.explicit

/-- The explicit sequences increase, the snapshot is older than the first of
them, and none is the last `u32`. -/
structure WellNumbered (pages : List EventPage) (snapshot : Option Snapshot) : Prop where
  increasing : (explicitSequences pages).Pairwise (· < ·)
  older : ∀ s ∈ snapshot, ∀ first ∈ (explicitSequences pages).head?, s.sequence < first
  fits : ∀ seq ∈ explicitSequences pages, seq.toNat < UInt32.size - 1
  snapshotFits : ∀ s ∈ snapshot, s.sequence.toNat < UInt32.size - 1

/-- `next` is past every explicit sequence and past the snapshot. -/
def PastAll (pages : List EventPage) (snapshot : Option Snapshot) (next : UInt32) :
    Prop :=
  (∀ seq ∈ explicitSequences pages, seq < next) ∧ ∀ s ∈ snapshot, s.sequence < next

/-- The last page, if there is one, has an explicit sequence. -/
def EndsStamped (pages : List EventPage) : Prop :=
  ∀ page ∈ pages.getLast?, page.explicit.isSome = true

theorem toNat_seq_succ {seq : UInt32} (hfits : seq.toNat < UInt32.size - 1) :
    (seq + 1).toNat = seq.toNat + 1 := by
  have hsize : UInt32.size = 4294967296 := rfl
  rw [UInt32.toNat_add, UInt32.toNat_one]
  exact Nat.mod_eq_of_lt (by omega)

theorem seq_lt_succ {seq : UInt32} (hfits : seq.toNat < UInt32.size - 1) : seq < seq + 1 := by
  rw [UInt32.lt_iff_toNat_lt, toNat_seq_succ hfits]
  omega

section NextSequence

variable {pages : List EventPage} {snapshot : Option Snapshot}

/-- Of increasing explicit sequences the last page's is the largest. -/
theorem WellNumbered.le_last {front : List EventPage} {page : EventPage} {last : UInt32}
    (hnumbered : WellNumbered (front ++ [page]) snapshot)
    (hlast : page.explicit = some last) :
    ∀ seq ∈ explicitSequences (front ++ [page]), seq ≤ last := by
  have hincreasing := hnumbered.increasing
  rw [explicitSequences, List.filterMap_append, List.pairwise_append] at hincreasing
  obtain ⟨-, -, hbefore⟩ := hincreasing
  intro seq hseq
  rw [explicitSequences, List.filterMap_append, List.mem_append] at hseq
  rcases hseq with hseq | hseq
  · exact UInt32.le_of_lt (hbefore seq hseq last (by simp [hlast]))
  · simp only [List.filterMap_cons, hlast, List.filterMap_nil, List.mem_singleton] at hseq
    exact UInt32.le_of_eq hseq

/-- A stamped last page: the next sequence is past everything. -/
theorem WellNumbered.pastAll_of_endsStamped (hnumbered : WellNumbered pages snapshot)
    (hends : EndsStamped pages) :
    PastAll pages snapshot (calculateNextSequence pages snapshot) := by
  rcases pages.eq_nil_or_concat' with rfl | ⟨front, page, rfl⟩
  · refine ⟨by simp [explicitSequences], fun s hs => ?_⟩
    have hfits := hnumbered.snapshotFits s hs
    obtain rfl := hs
    exact seq_lt_succ hfits
  · obtain ⟨last, hlast⟩ := Option.isSome_iff_exists.mp (hends page (by simp))
    have hmem : last ∈ explicitSequences (front ++ [page]) := by
      simp [explicitSequences, hlast]
    have hnext : calculateNextSequence (front ++ [page]) snapshot = last + 1 := by
      rw [calculateNextSequence, List.getLast?_concat]
      dsimp only
      rw [page.sequenceNum_eq, hlast, Option.getD_some]
    have hpast : ∀ seq ∈ explicitSequences (front ++ [page]), seq < last + 1 := by
      intro seq hseq
      exact UInt32.lt_of_le_of_lt (hnumbered.le_last hlast seq hseq)
        (seq_lt_succ (hnumbered.fits last hmem))
    rw [hnext]
    refine ⟨hpast, fun s hs => ?_⟩
    have hne : explicitSequences (front ++ [page]) ≠ [] := List.ne_nil_of_mem hmem
    obtain ⟨first, hfirst⟩ := Option.isSome_iff_exists.mp (List.isSome_head?.mpr hne)
    exact UInt32.lt_trans (hnumbered.older s hs first hfirst)
      (hpast first (List.mem_of_mem_head? hfirst))

/-- Any other last page counts as sequence 0. -/
theorem calculateNextSequence_of_not_endsStamped (hends : ¬EndsStamped pages) :
    calculateNextSequence pages snapshot = 1 := by
  rw [EndsStamped] at hends
  push Not at hends
  obtain ⟨page, hlast, hexplicit⟩ := hends
  have hnone : page.explicit = none := by
    simpa using hexplicit
  rw [Option.mem_def] at hlast
  rw [calculateNextSequence, hlast]
  dsimp only
  rw [page.sequenceNum_eq, hnone]
  rfl

end NextSequence

/-- For a well-numbered book the next sequence is past every explicit sequence
and past the snapshot when the book has no pages or ends with a stamped page.
After any other last page it is 1, which is past them only if they are all 0. -/
theorem next_sequence_past_all {pages : List EventPage} {snapshot : Option Snapshot}
    (hnumbered : WellNumbered pages snapshot) :
    (EndsStamped pages → PastAll pages snapshot (calculateNextSequence pages snapshot)) ∧
    (¬EndsStamped pages → calculateNextSequence pages snapshot = 1 ∧
      (PastAll pages snapshot (calculateNextSequence pages snapshot) ↔
        (∀ seq ∈ explicitSequences pages, seq = 0) ∧
          ∀ s ∈ snapshot, s.sequence = 0)) := by
  refine ⟨hnumbered.pastAll_of_endsStamped, fun hends => ?_⟩
  have hone : calculateNextSequence pages snapshot = 1 :=
    calculateNextSequence_of_not_endsStamped hends
  refine ⟨hone, ?_⟩
  rw [hone, PastAll]
  simp only [UInt32.lt_one_iff]

namespace Sample

def stamped (seq : UInt32) : EventPage :=
  { header := some { sequenceType := some (.sequence seq) } }

/-- A page a saga produced, which no store has numbered yet. -/
def deferred : EventPage :=
  { header := some { sequenceType := some (.angzarrDeferred { sourceSeq := 9 }) } }

/-- A snapshot, a deferred page and a stamped one. -/
def continued : EventBook where
  snapshot := some { sequence := 3 }
  pages := [deferred, stamped 5]

end Sample

open Sample in
/-- A deferred page at the end: the next sequence is 1, below the page before. -/
theorem next_sequence_collides :
    WellNumbered [stamped 5, deferred] none ∧
      calculateNextSequence [stamped 5, deferred] none = 1 ∧
      ¬PastAll [stamped 5, deferred] none
        (calculateNextSequence [stamped 5, deferred] none) := by
  have hsequences : explicitSequences [stamped 5, deferred] = [5] := rfl
  refine ⟨⟨?_, by simp, ?_, by simp⟩, by rfl, ?_⟩
  · rw [hsequences]
    exact List.pairwise_singleton _ _
  · rw [hsequences]
    simp
  · rintro ⟨hpast, -⟩
    exact absurd (hpast 5 (by rw [hsequences]; decide)) (by decide)

open Sample in
/-- With the deferred page before the stamped one it is past both and past the
snapshot. -/
theorem next_sequence_past_all_sample :
    (calculateSetNextSeq continued).nextSequence = 6 ∧
      PastAll continued.pages continued.snapshot
        (calculateNextSequence continued.pages continued.snapshot) := by
  have hsequences : explicitSequences continued.pages = [5] := rfl
  have hnumbered : WellNumbered continued.pages continued.snapshot := by
    refine ⟨?_, ?_, ?_, by simp [continued]⟩
    · rw [hsequences]
      exact List.pairwise_singleton _ _
    · rw [hsequences]
      simp [continued]
    · rw [hsequences]
      simp
  refine ⟨by rfl, (next_sequence_past_all hnumbered).1 ?_⟩
  intro page hpage
  cases hpage
  rfl

end AngzarrClient
