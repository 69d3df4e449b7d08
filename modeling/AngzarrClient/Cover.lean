/-
Accessors of covers (`proto_ext/cover.rs`) and the keys derived from them: the
cache key of an aggregate and the idempotency key of a deferred sequence.  Both
join free-form names with a colon, so a key tells what it names where the names
hold no colon.
-/
import AngzarrClient.Crates

namespace AngzarrClient

/-- `UNKNOWN_DOMAIN`. -/
def unknownDomain := "unknown"

/-- `DEFAULT_EDITION`. -/
def defaultEdition := ""

namespace Edition

/-- `EditionExt::is_main_timeline`. -/
def isMainTimeline (edition : Edition) : Bool :=
  edition.name = "" || edition.name = defaultEdition

/-- `EditionExt::name_or_default`. -/
def nameOrDefault (edition : Edition) : String :=
  if edition.name = "" then defaultEdition else edition.name

/-- `EditionExt::divergence_for`: the first divergence of the domain. -/
def divergenceFor (edition : Edition) (domain : String) : Option UInt32 :=
  (edition.divergences.find? (·.domain = domain)).map DomainDivergence.sequence

theorem isMainTimeline_iff {edition : Edition} :
    edition.isMainTimeline ↔ edition.nameOrDefault = defaultEdition := by
  by_cases hname : edition.name = ""
  · simp [isMainTimeline, nameOrDefault, hname]
  · simp [isMainTimeline, nameOrDefault, hname]

end Edition

/-- Types with an optional cover. -/
class CoverExt (τ : Type) where
  cover : τ → Option Cover

instance : CoverExt EventBook := ⟨EventBook.cover⟩
instance : CoverExt CommandBook := ⟨CommandBook.cover⟩
instance : CoverExt Cover := ⟨some⟩

namespace CoverExt

variable {τ : Type} [CoverExt τ]

/-- `CoverExt::domain`: an empty one counts as missing. -/
def domain (x : τ) : String :=
  (((cover x).map Cover.domain).filter (· ≠ "")).getD unknownDomain

/-- `CoverExt::correlation_id`. -/
def correlationId (x : τ) : String :=
  ((cover x).map Cover.correlationId).getD ""

/-- `CoverExt::root_id_hex`. -/
def rootIdHex [HexCrate] (x : τ) : Option String :=
  ((cover x).bind Cover.root).map fun root => HexCrate.encode root.value

/-- `CoverExt::edition`. -/
def edition (x : τ) : String :=
  ((((cover x).bind Cover.edition).map Edition.name).filter (· ≠ "")).getD defaultEdition

/-- `CoverExt::routing_key`. -/
def routingKey (x : τ) : String := domain x

/-- `CoverExt::cache_key`. -/
def cacheKey [HexCrate] (x : τ) : String :=
  edition x ++ ":" ++ domain x ++ ":" ++ (rootIdHex x).getD ""

/-- The bytes of the root, none without a root. -/
def rootBytes (x : τ) : Bytes :=
  (((cover x).bind Cover.root).map ProtoUuid.value).getD []

/-- An edition counts by its name, a missing one as the main timeline. -/
theorem edition_eq (x : τ) :
    edition x = (((cover x).bind Cover.edition).map Edition.nameOrDefault).getD
      defaultEdition := by
  rw [edition]
  cases (cover x).bind Cover.edition with
  | none => rfl
  | some named =>
      by_cases hname : named.name = ""
      · simp [Edition.nameOrDefault, hname, Option.filter]
      · simp [Edition.nameOrDefault, hname, Option.filter]

theorem getD_rootIdHex [HexCrate] [LawfulHexCrate] (x : τ) :
    (rootIdHex x).getD "" = HexCrate.encode (rootBytes x) := by
  rw [rootIdHex, rootBytes]
  cases (cover x).bind Cover.root with
  | none => exact HexCrate.encode_nil.symm
  | some root => rfl

end CoverExt

/-- `AngzarrDeferredSequenceExt::idempotency_key`; it takes the source's domain as
it is. -/
def AngzarrDeferredSequence.idempotencyKey [HexCrate] (deferred : AngzarrDeferredSequence) :
    Except String String :=
  match deferred.source with
  | none => .error "source required"
  | some source =>
      .ok (CoverExt.edition source ++ ":" ++ source.domain ++ ":" ++
        (CoverExt.rootIdHex source).getD "" ++ ":" ++ toString deferred.sourceSeq.toNat)

/-- The covers name one aggregate: the same edition, domain and root. -/
structure SameEntity (cover other : Cover) : Prop where
  edition : CoverExt.edition cover = CoverExt.edition other
  domain : CoverExt.domain cover = CoverExt.domain other
  root : CoverExt.rootBytes cover = CoverExt.rootBytes other

/-- The sequences are deferred to one trigger. -/
structure SameTrigger (source other : Cover) (seq otherSeq : UInt32) : Prop where
  edition : CoverExt.edition source = CoverExt.edition other
  domain : source.domain = other.domain
  root : CoverExt.rootBytes source = CoverExt.rootBytes other
  seq : seq = otherSeq

/-- Two names joined by a colon. -/
def joined (edition domain : String) : String :=
  edition ++ ":" ++ domain

theorem joined_eq_iff {edition edition' domain domain' : String} :
    joined edition domain = joined edition' domain' ↔
      edition.toList ++ ':' :: domain.toList = edition'.toList ++ ':' :: domain'.toList := by
  rw [← String.toList_inj]
  simp [joined]

/-- Names that join to the same, the editions being equal, are the same. -/
theorem domain_eq_of_joined_eq {edition domain domain' : String}
    (heq : joined edition domain = joined edition domain') : domain = domain' :=
  (String.append_right_inj _).mp heq

/-- A cover with the given names. -/
def namedCover (edition domain : String) (root : Option ProtoUuid) : Cover :=
  { domain := domain, root := root, edition := some { name := edition } }

@[simp] theorem edition_namedCover (edition domain : String) (root : Option ProtoUuid) :
    CoverExt.edition (namedCover edition domain root) = edition := by
  by_cases hempty : edition = ""
  · simp [CoverExt.edition, CoverExt.cover, namedCover, Option.filter, hempty, defaultEdition]
  · simp [CoverExt.edition, CoverExt.cover, namedCover, Option.filter, hempty]

theorem domain_namedCover (edition : String) {domain : String} (root : Option ProtoUuid)
    (hne : domain ≠ "") : CoverExt.domain (namedCover edition domain root) = domain := by
  simp [CoverExt.domain, CoverExt.cover, namedCover, Option.filter, hne]

@[simp] theorem namedCover_domain (edition domain : String) (root : Option ProtoUuid) :
    (namedCover edition domain root).domain = domain :=
  rfl

@[simp] theorem rootBytes_namedCover (edition domain : String) (cover : Cover) :
    CoverExt.rootBytes (namedCover edition domain cover.root) = CoverExt.rootBytes cover :=
  rfl

/-- The effective domain of a cover is never empty. -/
theorem domain_ne_empty (cover : Cover) : CoverExt.domain cover ≠ "" := by
  by_cases hempty : cover.domain = ""
  · simp [CoverExt.domain, CoverExt.cover, Option.filter, hempty, unknownDomain]
  · simp [CoverExt.domain, CoverExt.cover, Option.filter, hempty]

section Keys

variable [HexCrate]

/-- No other entity has the cover's cache key. -/
def CacheKeyIdentifies (cover : Cover) : Prop :=
  ∀ other : Cover, CoverExt.cacheKey cover = CoverExt.cacheKey other → SameEntity cover other

/-- No other trigger has the idempotency key of the sequence. -/
def IdempotencyKeyIdentifies (source : Cover) (seq : UInt32) : Prop :=
  ∀ (other : Cover) (otherSeq : UInt32),
    AngzarrDeferredSequence.idempotencyKey ⟨some source, seq⟩ =
        AngzarrDeferredSequence.idempotencyKey ⟨some other, otherSeq⟩ →
      SameTrigger source other seq otherSeq

variable [LawfulHexCrate] {cover other source : Cover} {seq otherSeq : UInt32}

theorem cacheKey_eq_iff :
    CoverExt.cacheKey cover = CoverExt.cacheKey other ↔
      joined (CoverExt.edition cover) (CoverExt.domain cover) =
          joined (CoverExt.edition other) (CoverExt.domain other) ∧
        CoverExt.rootBytes cover = CoverExt.rootBytes other := by
  rw [CoverExt.cacheKey, CoverExt.cacheKey, CoverExt.getD_rootIdHex, CoverExt.getD_rootIdHex,
    Text.append_colon_inj (HexCrate.colon_not_mem_encode _) (HexCrate.colon_not_mem_encode _),
    HexCrate.encode_inj]
  rfl

theorem idempotencyKey_eq_iff :
    AngzarrDeferredSequence.idempotencyKey ⟨some source, seq⟩ =
        AngzarrDeferredSequence.idempotencyKey ⟨some other, otherSeq⟩ ↔
      joined (CoverExt.edition source) source.domain =
          joined (CoverExt.edition other) other.domain ∧
        CoverExt.rootBytes source = CoverExt.rootBytes other ∧ seq = otherSeq := by
  have hdigit : Char.isDigit ':' = false := by decide
  simp only [AngzarrDeferredSequence.idempotencyKey, CoverExt.getD_rootIdHex,
    Except.ok.injEq]
  rw [Text.append_colon_inj (Text.not_mem_repr hdigit _) (Text.not_mem_repr hdigit _),
    Text.append_colon_inj (HexCrate.colon_not_mem_encode _) (HexCrate.colon_not_mem_encode _),
    Text.repr_inj, HexCrate.encode_inj, UInt32.toNat_inj, and_assoc]
  rfl

/-- The cache key tells a cover from every other where its edition has no colon and
its domain none before its last character: no effective domain is empty. -/
theorem cacheKeyIdentifies_iff :
    CacheKeyIdentifies cover ↔
      ':' ∉ (CoverExt.edition cover).toList ∧
        ':' ∉ (CoverExt.domain cover).toList.dropLast := by
  have hnonempty : ∀ x : Cover, (CoverExt.domain x).toList ≠ [] := fun x =>
    String.toList_eq_nil_iff.not.mpr (domain_ne_empty x)
  rw [← Text.cut_unique_of_ne_nil_iff (hnonempty cover)]
  constructor
  · intro hidentifies front back hback hcut
    have hdomain : String.ofList back ≠ "" := by
      simpa using hback
    have hsame := (hidentifies
      (namedCover (String.ofList front) (String.ofList back) cover.root)
      (cacheKey_eq_iff.mpr ⟨by
        rw [joined_eq_iff]
        simpa [domain_namedCover _ cover.root hdomain] using hcut, rfl⟩)).edition
    rw [hsame, edition_namedCover, String.toList_ofList]
  · intro hunique other hkey
    obtain ⟨hjoined, hroot⟩ := cacheKey_eq_iff.mp hkey
    have hedition : CoverExt.edition cover = CoverExt.edition other :=
      String.toList_inj.mp (hunique _ _ (hnonempty other) (joined_eq_iff.mp hjoined))
    rw [← hedition] at hjoined
    exact ⟨hedition, domain_eq_of_joined_eq hjoined, hroot⟩

/-- The idempotency key tells a trigger from every other where neither name has a
colon. -/
theorem idempotencyKeyIdentifies_iff :
    IdempotencyKeyIdentifies source seq ↔
      ':' ∉ (CoverExt.edition source).toList ∧ ':' ∉ source.domain.toList := by
  rw [← Text.cut_unique_iff]
  constructor
  · intro hidentifies front back hcut
    have hsame := (hidentifies
      (namedCover (String.ofList front) (String.ofList back) source.root) seq
      (idempotencyKey_eq_iff.mpr ⟨by
        rw [joined_eq_iff]
        simpa using hcut, rfl, rfl⟩)).edition
    rw [hsame, edition_namedCover, String.toList_ofList]
  · intro hunique other otherSeq hkey
    obtain ⟨hjoined, hroot, hseq⟩ := idempotencyKey_eq_iff.mp hkey
    have hedition : CoverExt.edition source = CoverExt.edition other :=
      String.toList_inj.mp (hunique _ _ (joined_eq_iff.mp hjoined))
    rw [← hedition] at hjoined
    exact ⟨hedition, domain_eq_of_joined_eq hjoined, hroot, hseq⟩

end Keys

/-- Both keys tell what they name from everything else if and only if the names in
them have no colon, in the cache key's domain up to its last character. -/
theorem keys_identify_iff [HexCrate] [LawfulHexCrate] (cover source : Cover)
    (seq : UInt32) :
    (CacheKeyIdentifies cover ↔
        ':' ∉ (CoverExt.edition cover).toList ∧
          ':' ∉ (CoverExt.domain cover).toList.dropLast) ∧
      (IdempotencyKeyIdentifies source seq ↔
        ':' ∉ (CoverExt.edition source).toList ∧ ':' ∉ source.domain.toList) :=
  ⟨cacheKeyIdentifies_iff, idempotencyKeyIdentifies_iff⟩

open Sample in
/-- An aggregate without colons in its names has a key of its own. -/
theorem keys_identify_iff_sample :
    CacheKeyIdentifies (namedCover "v2" "orders" (some ⟨[171]⟩)) ∧
      IdempotencyKeyIdentifies (namedCover "v2" "orders" (some ⟨[171]⟩)) 7 := by
  obtain ⟨hcache, hidempotency⟩ := keys_identify_iff
    (namedCover "v2" "orders" (some ⟨[171]⟩)) (namedCover "v2" "orders" (some ⟨[171]⟩)) 7
  exact ⟨hcache.mpr (by decide), hidempotency.mpr (by decide)⟩

open Sample in
/-- Two timelines, two domains, one key. -/
theorem keys_collide :
    (CoverExt.cacheKey (namedCover "v2" "eu:orders" none) =
        CoverExt.cacheKey (namedCover "v2:eu" "orders" none) ∧
      ¬SameEntity (namedCover "v2" "eu:orders" none) (namedCover "v2:eu" "orders" none)) ∧
    AngzarrDeferredSequence.idempotencyKey ⟨some (namedCover "v2" "eu:orders" none), 7⟩ =
        AngzarrDeferredSequence.idempotencyKey ⟨some (namedCover "v2:eu" "orders" none), 7⟩ ∧
      ¬SameTrigger (namedCover "v2" "eu:orders" none) (namedCover "v2:eu" "orders" none) 7 7 :=
  ⟨⟨by decide, fun hsame => absurd hsame.edition (by decide)⟩, by decide,
    fun hsame => absurd hsame.edition (by decide)⟩

end AngzarrClient
