/-
Roots computed from business keys (`identity.rs`, `testing/uuid.rs`).  The hash is the
`uuid` crate's: roots that agree come from equal inputs or from a collision of the
hash.  The domain and the key are hashed without anything between them.
-/
import AngzarrClient.Lib.PrefixFree
import AngzarrClient.Uuid

namespace AngzarrClient

/-- The UTF-8 bytes of a string, `str::as_bytes`. -/
def asBytes (s : String) : Bytes := s.toByteArray.data.toList

theorem asBytes_inj {s t : String} : asBytes s = asBytes t ↔ s = t := by
  rw [asBytes, asBytes, Array.toList_inj, ← String.toByteArray_inj, ByteArray.ext_iff]

/-- `Uuid::new_v5`: a namespace and a name. -/
abbrev NewV5 := Uuid → Bytes → Uuid

/-- Two different inputs of the hash with one output. -/
def NewV5.Collides (newV5 : NewV5) (input other : Uuid × Bytes) : Prop :=
  input ≠ other ∧ newV5 input.1 input.2 = newV5 other.1 other.2

namespace Uuid

/-- `Uuid::NAMESPACE_OID`. -/
def namespaceOid : Uuid where
  bytes := [0x6b, 0xa7, 0xb8, 0x12, 0x9d, 0xad, 0x11, 0xd1,
    0x80, 0xb4, 0x00, 0xc0, 0x4f, 0xd4, 0x30, 0xc8]
  length_eq := rfl

/-- `Uuid::NAMESPACE_DNS`. -/
def namespaceDns : Uuid where
  bytes := [0x6b, 0xa7, 0xb8, 0x10, 0x9d, 0xad, 0x11, 0xd1,
    0x80, 0xb4, 0x00, 0xc0, 0x4f, 0xd4, 0x30, 0xc8]
  length_eq := rfl

end Uuid

section Roots

variable (newV5 : NewV5)

/-- `INVENTORY_PRODUCT_NAMESPACE`. -/
def inventoryProductNamespace : Uuid := Uuid.namespaceDns

/-- What `compute_root` hashes. -/
def rootSeed (domain businessKey : String) : String :=
  "angzarr" ++ domain ++ businessKey

/-- `compute_root`. -/
def computeRoot (domain businessKey : String) : Uuid :=
  newV5 Uuid.namespaceOid (asBytes (rootSeed domain businessKey))

/-- `inventory_product_root`. -/
def inventoryProductRoot (productId : String) : Uuid :=
  newV5 inventoryProductNamespace (asBytes productId)

/-- `customer_root`. -/
def customerRoot (email : String) : Uuid := computeRoot newV5 "customer" email

/-- `product_root`. -/
def productRoot (sku : String) : Uuid := computeRoot newV5 "product" sku

/-- `order_root`. -/
def orderRoot (orderId : String) : Uuid := computeRoot newV5 "order" orderId

/-- `inventory_root`. -/
def inventoryRoot (productId : String) : Uuid := computeRoot newV5 "inventory" productId

/-- `cart_root`. -/
def cartRoot (customerId : String) : Uuid := computeRoot newV5 "cart" customerId

/-- `fulfillment_root`. -/
def fulfillmentRoot (orderId : String) : Uuid := computeRoot newV5 "fulfillment" orderId

/-- `to_proto_bytes`. -/
def toProtoBytes (id : Uuid) : Bytes := id.bytes

/-- `uuid_for`. -/
def uuidFor (name : String) (space : Uuid) : Bytes := (newV5 space (asBytes name)).bytes

/-- `uuid_str_for`. -/
def uuidStrFor [UuidCrate] (name : String) (space : Uuid) : String :=
  UuidCrate.text (newV5 space (asBytes name))

/-- `uuid_obj_for`. -/
def uuidObjFor (name : String) (space : Uuid) : Uuid := newV5 space (asBytes name)

/-- `DEFAULT_TEST_NAMESPACE`. -/
def defaultTestNamespace : Uuid where
  bytes := [0xa1, 0xb2, 0xc3, 0xd4, 0xe5, 0xf6, 0x78, 0x90,
    0xab, 0xcd, 0xef, 0x12, 0x34, 0x56, 0x78, 0x90]
  length_eq := rfl

/-- `uuid_for_default`. -/
def uuidForDefault (name : String) : Bytes := uuidFor newV5 name defaultTestNamespace

/-- `uuid_str_for_default`. -/
def uuidStrForDefault [UuidCrate] (name : String) : String :=
  uuidStrFor newV5 name defaultTestNamespace

/-- `uuid_obj_for_default`. -/
def uuidObjForDefault (name : String) : Uuid := uuidObjFor newV5 name defaultTestNamespace

/-- The root functions of the domains that have one. -/
def domainRoots : List (String × (String → Uuid)) :=
  [("customer", customerRoot newV5), ("product", productRoot newV5),
    ("order", orderRoot newV5), ("inventory", inventoryRoot newV5),
    ("cart", cartRoot newV5), ("fulfillment", fulfillmentRoot newV5)]

end Roots

/-- No two of the domains start alike: a code of domains. -/
def DistinctStarts (domains : List String) : Prop :=
  PrefixFree.Code (domains.map String.toList)

section Seeds

variable {newV5 : NewV5} {domains : List String} {domain domain' : String}

theorem rootSeed_eq_iff {key key' : String} :
    rootSeed domain key = rootSeed domain' key' ↔
      domain.toList ++ key.toList = domain'.toList ++ key'.toList := by
  rw [rootSeed, rootSeed, String.append_assoc, String.append_assoc,
    String.append_right_inj, ← String.toList_inj, String.toList_append, String.toList_append]

theorem rootSeed_inj (hstarts : DistinctStarts domains) (hdomain : domain ∈ domains)
    (hdomain' : domain' ∈ domains) {key key' : String}
    (hseed : rootSeed domain key = rootSeed domain' key') :
    domain = domain' ∧ key = key' := by
  obtain ⟨hd, hk⟩ := hstarts.append_inj (List.mem_map_of_mem hdomain)
    (List.mem_map_of_mem hdomain') (rootSeed_eq_iff.mp hseed)
  exact ⟨String.toList_inj.mp hd, String.toList_inj.mp hk⟩

theorem computeRoot_collides {key key' : String}
    (hroot : computeRoot newV5 domain key = computeRoot newV5 domain' key')
    (hseed : rootSeed domain key ≠ rootSeed domain' key') :
    newV5.Collides (Uuid.namespaceOid, asBytes (rootSeed domain key))
      (Uuid.namespaceOid, asBytes (rootSeed domain' key')) :=
  ⟨fun heq => hseed (asBytes_inj.mp (Prod.mk.inj heq).2), hroot⟩

/-- In a set of domains, only a collision of the hash gives two aggregates one root if
and only if no domain of the set starts another one.  Of two that do, the longer
domain's root for a key is the shorter one's for a longer key, under every hash. -/
theorem shared_root_collides_iff :
    (∀ domain ∈ domains, ∀ domain' ∈ domains, ∀ key key' : String,
        computeRoot newV5 domain key = computeRoot newV5 domain' key' →
          (domain = domain' ∧ key = key') ∨
            newV5.Collides (Uuid.namespaceOid, asBytes (rootSeed domain key))
              (Uuid.namespaceOid, asBytes (rootSeed domain' key'))) ↔
      DistinctStarts domains := by
  constructor
  · intro hshared
    rw [DistinctStarts, PrefixFree.Code, List.forall_mem_map]
    intro domain hdomain
    rw [List.forall_mem_map]
    rintro domain' hdomain' ⟨rest, hrest⟩
    have hseed : rootSeed domain (String.ofList rest) = rootSeed domain' "" :=
      rootSeed_eq_iff.mpr (by rw [String.toList_ofList, hrest]; simp)
    rcases hshared domain hdomain domain' hdomain' (String.ofList rest) ""
      (by rw [computeRoot, computeRoot, hseed]) with ⟨rfl, -⟩ | hcollides
    · rfl
    · exact absurd (by rw [hseed]) hcollides.1
  · intro hstarts domain hdomain domain' hdomain' key key' hroot
    by_cases hseed : rootSeed domain key = rootSeed domain' key'
    · exact Or.inl (rootSeed_inj hstarts hdomain hdomain' hseed)
    · exact Or.inr (computeRoot_collides hroot hseed)

end Seeds

section Helpers

variable (newV5 : NewV5)

theorem distinctStarts_domainRoots :
    DistinctStarts ((domainRoots newV5).map Prod.fst) := by
  simp [DistinctStarts, PrefixFree.Code, domainRoots]

/-- Each of them is the root of its domain. -/
theorem snd_of_mem_domainRoots {root : String × (String → Uuid)}
    (hroot : root ∈ domainRoots newV5) : root.2 = computeRoot newV5 root.1 := by
  simp only [domainRoots, List.mem_cons, List.not_mem_nil, or_false] at hroot
  rcases hroot with rfl | rfl | rfl | rfl | rfl | rfl <;> rfl

theorem collides_of_namespace_ne {space space' : Uuid} (hne : space ≠ space')
    {name name' : Bytes} (heq : newV5 space name = newV5 space' name') :
    newV5.Collides (space, name) (space', name') :=
  ⟨fun hinput => hne (Prod.mk.inj hinput).1, heq⟩

/-- Only a collision of the hash gives two aggregates one root, whichever of the root
functions computed them: no helper domain starts another one, and products of the
inventory are hashed in a namespace of their own, and so are the identifiers that tests
are given by default.  A domain that starts another one, as
one may be added by a caller, shares its roots with it under every hash. -/
theorem roots_identify :
    (∀ root ∈ domainRoots newV5, ∀ root' ∈ domainRoots newV5, ∀ key key' : String,
        root.2 key = root'.2 key' →
          (root.1 = root'.1 ∧ key = key') ∨
            newV5.Collides (Uuid.namespaceOid, asBytes (rootSeed root.1 key))
              (Uuid.namespaceOid, asBytes (rootSeed root'.1 key'))) ∧
      (∀ productId productId' : String,
        inventoryProductRoot newV5 productId = inventoryProductRoot newV5 productId' →
          productId = productId' ∨
            newV5.Collides (inventoryProductNamespace, asBytes productId)
              (inventoryProductNamespace, asBytes productId')) ∧
      (∀ productId domain key : String,
        inventoryProductRoot newV5 productId = computeRoot newV5 domain key →
          newV5.Collides (inventoryProductNamespace, asBytes productId)
            (Uuid.namespaceOid, asBytes (rootSeed domain key))) ∧
      (∀ name domain key : String,
        uuidForDefault newV5 name = toProtoBytes (computeRoot newV5 domain key) →
          newV5.Collides (defaultTestNamespace, asBytes name)
            (Uuid.namespaceOid, asBytes (rootSeed domain key))) ∧
      ∀ domains : List String, DistinctStarts domains ↔
        ∀ domain ∈ domains, ∀ domain' ∈ domains, ∀ key key' : String,
          computeRoot newV5 domain key = computeRoot newV5 domain' key' →
            (domain = domain' ∧ key = key') ∨
              newV5.Collides (Uuid.namespaceOid, asBytes (rootSeed domain key))
                (Uuid.namespaceOid, asBytes (rootSeed domain' key')) := by
  refine ⟨fun root hroot root' hroot' key key' heq => ?_,
    fun productId productId' heq => ?_, fun productId domain key heq => ?_,
    fun name domain key heq => ?_, fun domains => shared_root_collides_iff.symm⟩
  · rw [snd_of_mem_domainRoots newV5 hroot, snd_of_mem_domainRoots newV5 hroot'] at heq
    exact shared_root_collides_iff.mpr (distinctStarts_domainRoots newV5)
      root.1 (List.mem_map_of_mem hroot) root'.1 (List.mem_map_of_mem hroot') key key' heq
  · by_cases hid : productId = productId'
    · exact Or.inl hid
    · exact Or.inr ⟨fun hinput => hid (asBytes_inj.mp (Prod.mk.inj hinput).2), heq⟩
  · exact collides_of_namespace_ne newV5 (by decide) heq
  · exact collides_of_namespace_ne newV5 (by decide) (Uuid.ext heq)

/-- Two domains of which one starts the other: one root under every hash. -/
example : computeRoot newV5 "order" "s-1" = computeRoot newV5 "orders" "-1" := rfl

end Helpers

end AngzarrClient
