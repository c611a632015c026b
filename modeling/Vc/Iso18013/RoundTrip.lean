import Vc.Iso18013.EntryPoints
import Vc.Iso18013.SelectiveDisclosure

/-!
# Issuing, presenting and verifying a document

The data elements that a builder signs are disclosed on request and verified.
The two halves meet at the digests: the builder puts the digest of every item
under its number into the Mobile Security Object, and items whose digests are
found there are verified, whichever of them are presented.
-/

namespace Vc.Iso18013

open Checks Entries Tokenstatuslist Verifier MSOBuilder IssuerSignedItem Option Cbor Certificate
  Schemes Formats Function

/-! ## Building -/

/-- The arguments of `AddDataElement`. -/
structure DataElement where
  nameSpace : String
  elementID : String
  value : Item
  random : Nat → List UInt8

variable {Key : Type}

def MSOBuilder.items (b : MSOBuilder Key) (nameSpace : String) : List IssuerSignedItem :=
  (b.namespaces.lookup nameSpace).getD []

/-- Add elements one after the other. -/
def MSOBuilder.addAll (b : MSOBuilder Key) (elements : List DataElement) :
    Except String (MSOBuilder Key) :=
  elements.foldlM (fun b element =>
    b.addDataElement element.nameSpace element.elementID element.value element.random) b

/-- The builder holds the elements that were added, each under its number. -/
structure MSOBuilder.Holds (b : MSOBuilder Key) (added : List DataElement) : Prop where
  ordered : Ordered b.namespaces
  counters : ∀ nameSpace, (b.digestIDCounter.lookup nameSpace).getD 0 = (b.items nameSpace).length
  numbered : ∀ nameSpace, (b.items nameSpace).map digestID = List.range (b.items nameSpace).length
  contents : ∀ nameSpace,
    (b.items nameSpace).map (fun item => (item.elementIdentifier, item.elementValue)) =
      (added.filter fun element => element.nameSpace = nameSpace).map
        fun element => (element.elementID, element.value)

variable {b b' : MSOBuilder Key} {nameSpace : String}

theorem MSOBuilder.addDataElement_eq_ok {elementID : String}
    {value : Item} {random : Nat → List UInt8}
    (done : b.addDataElement nameSpace elementID value random = .ok b') :
    ∃ item : IssuerSignedItem, item.digestID = (b.digestIDCounter.lookup nameSpace).getD 0 ∧
      item.elementIdentifier = elementID ∧ item.elementValue = value ∧
      b' = { b with
        digestIDCounter := put nameSpace (item.digestID + 1) b.digestIDCounter
        namespaces := put nameSpace (b.items nameSpace ++ [item]) b.namespaces } := by
  simp only [addDataElement, bind_eq_ok_iff] at done
  obtain ⟨_, _, done⟩ := done
  cases done
  exact ⟨_, rfl, rfl, rfl, rfl⟩

variable {added : List DataElement}

/-- Adding an element appends it to its name space. -/
theorem MSOBuilder.Holds.addDataElement (holds : b.Holds added) {element : DataElement}
    (done : b.addDataElement element.nameSpace element.elementID element.value element.random =
      .ok b') : b'.Holds (added ++ [element]) := by
  obtain ⟨item, number, identifier, value, rfl⟩ := addDataElement_eq_ok done
  have here : ∀ nameSpace, ({ b with
      digestIDCounter := put element.nameSpace (item.digestID + 1) b.digestIDCounter
      namespaces := put element.nameSpace (b.items element.nameSpace ++ [item]) b.namespaces } :
        MSOBuilder Key).items nameSpace =
      if nameSpace = element.nameSpace then b.items nameSpace ++ [item] else b.items nameSpace := by
    intro nameSpace
    simp only [items, lookup_put]
    split_ifs with same
    · subst same
      rfl
    · rfl
  constructor
  · exact holds.ordered.put _ _
  · intro nameSpace
    rw [here]
    rw [lookup_put]
    split_ifs with same
    · subst same
      rw [number, holds.counters]
      simp
    · exact holds.counters _
  · intro nameSpace
    rw [here]
    split_ifs with same
    · subst same
      rw [List.map_append, holds.numbered, List.length_append, List.length_singleton,
        List.range_succ, List.map_singleton, number, holds.counters]
    · exact holds.numbered _
  · intro nameSpace
    rw [here]
    split_ifs with same
    · subst same
      simp [holds.contents, identifier, value]
    · simp [holds.contents, Ne.symm same]

theorem MSOBuilder.Holds.addAll {elements : List DataElement}
    (holds : b.Holds added) (done : b.addAll elements = .ok b') : b'.Holds (added ++ elements) := by
  induction elements generalizing b added with
  | nil =>
    cases done
    rwa [List.append_nil]
  | cons element rest ih =>
    unfold addAll at done
    rw [List.foldlM_cons, bind_eq_ok_iff] at done
    obtain ⟨next, here, later⟩ := done
    have result := ih (holds.addDataElement here) later
    rwa [List.append_assoc] at result

/-- A builder to which nothing was added yet. -/
def MSOBuilder.Empty (b : MSOBuilder Key) : Prop :=
  b.namespaces = [] ∧ b.digestIDCounter = []

theorem MSOBuilder.Empty.holds (empty : b.Empty) : b.Holds [] := by
  obtain ⟨noItems, noCounters⟩ := empty
  have none : ∀ nameSpace, b.items nameSpace = [] := by
    intro nameSpace
    rw [items, noItems]
    rfl
  constructor
  · rw [noItems]
    exact List.Pairwise.nil
  · intro nameSpace
    rw [noCounters, none]
    rfl
  · intro nameSpace
    rw [none]
    rfl
  · intro nameSpace
    rw [none]
    rfl

/-! ## Signing -/

section Signing

variable {schemes : Schemes Key} {formats : Formats}

/-- The Mobile Security Object of a builder, with its digests. -/
def MSOBuilder.signedObject (b : MSOBuilder Key) (deviceKey : COSEKey)
    (valueDigests : List (String × List (Nat × List UInt8))) (now validFrom validUntil : Int) :
    MobileSecurityObject where
  version := "1.0"
  digestAlgorithm := b.digestAlgorithm
  valueDigests
  deviceKey
  docType := b.docType
  signed := wholeSecond now
  validFrom := wholeSecond validFrom
  validUntil := wholeSecond validUntil

variable {nameSpaces : List (String × List Item)} {signedMSO : COSESign1}

/-- What a successful `Build` signs and returns. -/
theorem MSOBuilder.build_eq_ok {now : Int}
    (built : b.build schemes formats now = .ok (signedMSO, nameSpaces)) :
    ∃ signerKey deviceKey validFrom validUntil digested algorithm,
      b.signerKey = some signerKey ∧ b.validFrom = some validFrom ∧
      b.validUntil = some validUntil ∧
      b.namespaces.mapM (fun entry => do
        let items ← entry.2.mapM (digestItem schemes formats b.digestAlgorithm)
        return (entry.1, items)) = .ok digested ∧
      nameSpaces = digested.map (fun entry => (entry.1, entry.2.map Prod.fst)) ∧
      algorithmForKey (schemes.kind signerKey) = .ok algorithm ∧
      sign1 schemes formats.cbor (formats.cbor.marshal (encodedCBOR (formats.mso.marshal
        (b.signedObject deviceKey (digested.map fun entry =>
          (entry.1, entry.2.foldl (fun digests item => put item.2.1 item.2.2 digests) []))
          now validFrom validUntil)))) signerKey algorithm (b.certChain.map raw) [] =
        .ok signedMSO := by
  unfold build at built
  split at built
  case h_5 signerKey deviceKey validFrom validUntil hasKey hasDevice hasFrom hasUntil =>
    simp only [bind_eq_ok_iff, mapError_eq_ok_iff] at built
    obtain ⟨digested, mapped, algorithm, own, message, signed, done⟩ := built
    cases done
    exact ⟨signerKey, deviceKey, validFrom, validUntil, digested, algorithm, hasKey, hasFrom,
      hasUntil, mapped, rfl, own, signed⟩
  all_goals cases built

def wrapped (formats : Formats) (item : IssuerSignedItem) : Item :=
  encodedCBOR (formats.item.marshal item)

/-- The digest of an item. -/
def digestOf (schemes : Schemes Key) (formats : Formats) (hash : Hash) (item : IssuerSignedItem) :
    List UInt8 :=
  schemes.digest hash (formats.cbor.marshal (wrapped formats item))

/-- The digests of a name space. -/
def digestsOf (schemes : Schemes Key) (formats : Formats) (hash : Hash)
    (items : List IssuerSignedItem) : List (Nat × List UInt8) :=
  items.foldl (fun digests item => put item.digestID (digestOf schemes formats hash item) digests)
    []

variable {hash : Hash}

theorem mapM_digestItem {digestAlgorithm : String}
    (known : hashFor digestAlgorithm = some hash)
    (entries : List (String × List IssuerSignedItem)) :
    entries.mapM (fun entry => do
      let items ← entry.2.mapM (digestItem schemes formats digestAlgorithm)
      return (entry.1, items)) =
    .ok (entries.map fun entry => (entry.1, entry.2.map fun item =>
      (wrapped formats item, item.digestID, digestOf schemes formats hash item))) := by
  have one : digestItem schemes formats digestAlgorithm = fun item =>
      pure (wrapped formats item, item.digestID, digestOf schemes formats hash item) := by
    funext item
    simp only [digestItem, computeDigest, known]
    rfl
  rw [one]
  simp only [List.mapM_pure]
  exact List.mapM_pure

/-- With a known hash function, `Build` returns the items in their wrappers and signs the digest of
each of them. -/
theorem MSOBuilder.build_of_hash {now : Int} (known : hashFor b.digestAlgorithm = some hash)
    (built : b.build schemes formats now = .ok (signedMSO, nameSpaces)) :
    (nameSpaces = b.namespaces.map fun entry => (entry.1, entry.2.map (wrapped formats))) ∧
    ∃ signerKey deviceKey validFrom validUntil algorithm,
      b.signerKey = some signerKey ∧ b.validFrom = some validFrom ∧
      b.validUntil = some validUntil ∧ algorithmForKey (schemes.kind signerKey) = .ok algorithm ∧
      sign1 schemes formats.cbor (formats.cbor.marshal (encodedCBOR (formats.mso.marshal
        (b.signedObject deviceKey (b.namespaces.map fun entry =>
          (entry.1, digestsOf schemes formats hash entry.2)) now validFrom validUntil))))
        signerKey algorithm (b.certChain.map raw) [] = .ok signedMSO := by
  obtain ⟨signerKey, deviceKey, validFrom, validUntil, digested, algorithm, hasKey, hasFrom,
    hasUntil, mapped, rfl, own, signed⟩ := build_eq_ok built
  rw [mapM_digestItem known] at mapped
  cases mapped
  simp only [List.map_map, comp_def, List.foldl_map] at signed ⊢
  exact ⟨trivial, signerKey, deviceKey, validFrom, validUntil, algorithm, hasKey, hasFrom, hasUntil,
    own, signed⟩

/-- With a known hash function and all that is required, `Build` succeeds. -/
theorem MSOBuilder.exists_build
    (known : hashFor b.digestAlgorithm = some hash) {signerKey : Key} {algorithm : Int}
    (hasKey : b.signerKey = some signerKey)
    (own : algorithmForKey (schemes.kind signerKey) = .ok algorithm)
    (signs : ∀ data, ∃ signature, signPayload schemes data signerKey algorithm = .ok signature)
    (hasDevice : b.deviceKey.isSome) (hasFrom : b.validFrom.isSome)
    (hasUntil : b.validUntil.isSome) (now : Int) :
    ∃ signedMSO nameSpaces, b.build schemes formats now = .ok (signedMSO, nameSpaces) := by
  obtain ⟨deviceKey, device⟩ := isSome_iff_exists.mp hasDevice
  obtain ⟨validFrom, first⟩ := isSome_iff_exists.mp hasFrom
  obtain ⟨validUntil, last⟩ := isSome_iff_exists.mp hasUntil
  obtain ⟨message, signed⟩ := exists_sign1 signs formats.cbor
    (formats.cbor.marshal (encodedCBOR (formats.mso.marshal (b.signedObject deviceKey
      (b.namespaces.map fun entry => (entry.1, (entry.2.map fun item => (wrapped formats item,
        item.digestID, digestOf schemes formats hash item)).foldl
          (fun digests item => put item.2.1 item.2.2 digests) [])) now validFrom validUntil))))
    (b.certChain.map raw) []
  refine ⟨message, b.namespaces.map fun entry => (entry.1, entry.2.map (wrapped formats)), ?_⟩
  unfold build
  simp only [hasKey, device, first, last]
  rw [mapM_digestItem known, own]
  simp only [signedObject, bind, Except.bind, Except.mapError, List.map_map, comp_def] at signed ⊢
  rw [signed]
  rfl

variable {item : IssuerSignedItem}

theorem MSOBuilder.lookup_of_mem_items (member : item ∈ b.items nameSpace) :
    b.namespaces.lookup nameSpace = some (b.items nameSpace) := by
  unfold items at member ⊢
  cases found : b.namespaces.lookup nameSpace with
  | none =>
    rw [found] at member
    exact absurd member List.not_mem_nil
  | some items => rfl

/-- The digest of an item is found under its number. -/
theorem MSOBuilder.Holds.lookup_digestsOf (holds : b.Holds added)
    (member : item ∈ b.items nameSpace) (hash : Hash) :
    (digestsOf schemes formats hash (b.items nameSpace)).lookup item.digestID =
      some (digestOf schemes formats hash item) := by
  have distinct : ((b.items nameSpace).map digestID).Nodup :=
    (holds.numbered nameSpace).symm ▸ List.nodup_range
  unfold digestsOf
  rw [lookup_foldl_put, find?_reverse_of_nodup distinct member]
  rfl

theorem iteratedItem_wrapped (formats : Formats) (item : IssuerSignedItem) :
    iteratedItem formats (wrapped formats item) = some item := by
  unfold wrapped encodedCBOR iteratedItem
  simp only [asBytes_bytesItem, formats.item.lossless]
  rfl

/-- Every item that the builder holds is verified against the object that it signs. -/
theorem MSOBuilder.Holds.verifyDigest (holds : b.Holds added) {mso : MobileSecurityObject}
    (known : hashFor mso.digestAlgorithm = some hash)
    (digests : mso.valueDigests = b.namespaces.map fun entry =>
      (entry.1, digestsOf schemes formats hash entry.2))
    (member : item ∈ b.items nameSpace) :
    Iso18013.verifyDigest schemes formats mso nameSpace (wrapped formats item) = .ok () := by
  refine (verifyDigest_eq_ok_iff _ _).mpr ⟨_, formats.item.marshal item, item,
    digestsOf _ _ hash _, rfl, asBytes_bytesItem _,
    formats.item.lossless item, ?_, digestOf schemes formats hash item,
    holds.lookup_digestsOf member hash, ?_⟩
  · rw [digests, lookup_map_values, lookup_of_mem_items member, map_some]
  · rw [computeDigest, known]
    rfl

end Signing

/-! ## Verifying -/

section Verifying

variable {v : Verifier Key} {mso : MobileSecurityObject}

/-- The elements of some items of a name space; of several with one identifier, the last counts. -/
def elementsOf (formats : Formats) (items : List Item) : List (String × Item) :=
  (items.filterMap (iteratedItem formats)).foldl
    (fun elements item => put item.elementIdentifier item.elementValue elements) []

theorem issuerSignedItem_of_verified {anyItem : Item}
    (verified : verifyDigest v.schemes v.formats mso nameSpace anyItem = .ok ()) :
    ∃ item, iteratedItem v.formats anyItem = some item ∧ ∀ elements,
      v.issuerSignedItem mso nameSpace elements anyItem =
        .ok (setElement nameSpace item elements) := by
  obtain ⟨content, contentBytes, item, _, rfl, bytes, decoded, _⟩ :=
    (verifyDigest_eq_ok_iff v.schemes v.formats).mp verified
  refine ⟨item, ?_, fun elements => ?_⟩
  · simp only [iteratedItem, bytes, decoded]
    rfl
  · unfold issuerSignedItem
    rw [verified]
    simp only [bytes, getD_some, decoded]
    rfl

theorem lookup_setElement (nameSpace other : String) (item : IssuerSignedItem)
    (elements : Elements) :
    (setElement nameSpace item elements).lookup other =
      if other = nameSpace then some (put item.elementIdentifier item.elementValue
        ((elements.lookup nameSpace).getD [])) else elements.lookup other := by
  rw [setElement, lookup_put]

/-- The loop over verified items of a name space. -/
theorem foldlM_issuerSignedItem {items : List Item}
    (verified : ∀ anyItem ∈ items, verifyDigest v.schemes v.formats mso nameSpace anyItem = .ok ())
    {elements : Elements} {before : List (String × Item)}
    (started : elements.lookup nameSpace = some before) :
    ∃ after, items.foldlM (v.issuerSignedItem mso nameSpace) elements = .ok after ∧
      after.lookup nameSpace = some ((items.filterMap (iteratedItem v.formats)).foldl
        (fun elements item => put item.elementIdentifier item.elementValue elements) before) ∧
      ∀ other, other ≠ nameSpace → after.lookup other = elements.lookup other := by
  induction items generalizing elements before with
  | nil => exact ⟨elements, rfl, started, fun _ _ => rfl⟩
  | cons anyItem rest ih =>
    obtain ⟨here, later⟩ := List.forall_mem_cons.mp verified
    obtain ⟨item, iterated, stepped⟩ := issuerSignedItem_of_verified here
    have next : (setElement nameSpace item elements).lookup nameSpace =
        some (put item.elementIdentifier item.elementValue before) := by
      rw [lookup_setElement, if_pos rfl, started, getD_some]
    obtain ⟨after, done, found, others⟩ := ih later next
    refine ⟨after, ?_, ?_, fun other apart => ?_⟩
    · rw [List.foldlM_cons, stepped]
      exact done
    · rw [List.filterMap_cons_some iterated]
      exact found
    · rw [others _ apart, lookup_setElement, if_neg apart]

/-- The loop over name spaces whose items are verified. -/
theorem foldlM_issuerSignedNameSpace {nameSpaces : List (String × List Item)}
    (distinct : (nameSpaces.map Prod.fst).Nodup)
    (verified : ∀ entry ∈ nameSpaces, ∀ anyItem ∈ entry.2,
      verifyDigest v.schemes v.formats mso entry.1 anyItem = .ok ()) (elements : Elements) :
    ∃ after, nameSpaces.foldlM (v.issuerSignedNameSpace mso) elements = .ok after ∧
      ∀ nameSpace, after.lookup nameSpace =
        ((nameSpaces.lookup nameSpace).map (elementsOf v.formats)).or
          (elements.lookup nameSpace) := by
  induction nameSpaces generalizing elements with
  | nil => exact ⟨elements, rfl, fun _ => rfl⟩
  | cons entry rest ih =>
    obtain ⟨fresh, remaining⟩ := List.nodup_cons.mp distinct
    obtain ⟨here, later⟩ := List.forall_mem_cons.mp verified
    have started : (put entry.1 [] elements).lookup entry.1 = some [] := by
      rw [lookup_put, if_pos rfl]
    obtain ⟨middle, stepped, found, others⟩ := foldlM_issuerSignedItem here started
    obtain ⟨after, done, lookups⟩ := ih remaining later middle
    refine ⟨after, ?_, fun nameSpace => ?_⟩
    · rw [List.foldlM_cons, issuerSignedNameSpace, stepped]
      exact done
    · rw [lookups, lookup_cons]
      by_cases same : nameSpace = entry.1
      · subst same
        rw [lookup_eq_none_of_fresh fresh, if_pos rfl, found]
        rfl
      · rw [if_neg same, others _ same, lookup_put, if_neg same]

end Verifying

/-! ## The round trip -/

section RoundTrip

variable {v : Verifier Key}

/-- The certificate chain of a builder is trusted, and what it signs is valid now. -/
structure Accredited (v : Verifier Key) (b : MSOBuilder Key) (dsCert : Certificate Key)
    (rest : List (Certificate Key)) : Prop where
  chain : b.certChain = dsCert :: rest
  certified : b.signerKey = some dsCert.publicKey
  parses : ∀ certificate ∈ dsCert :: rest, v.parseCertificate certificate.raw = .ok certificate
  period : dsCert.notBefore ≤ v.clock ∧ v.clock ≤ dsCert.notAfter
  trusted : v.Trusts dsCert rest b.docType
  begun : ∀ validFrom ∈ b.validFrom, wholeSecond validFrom ≤ v.now
  lasting : ∀ validUntil ∈ b.validUntil, v.now ≤ wholeSecond validUntil

/-- A signed message in one of the two forms in which the verifier reads it. -/
def CarriedAs (v : Verifier Key) (message : COSESign1) (issuerAuth : Item) : Prop :=
  issuerAuth = issuerAuthArray message ∨
    issuerAuth = v.issuerAuthBytes message ∧
      v.formats.cbor.marshal (.tag 18 (issuerAuthArray message)) ≠ []

variable {issuerAuth : Item} {message : COSESign1}

theorem CarriedAs.parseIssuerAuth
    (carried : CarriedAs v message issuerAuth) : v.parseIssuerAuth issuerAuth = .ok message := by
  rcases carried with rfl | ⟨rfl, written⟩
  · exact v.parseIssuerAuth_array _
  · exact v.parseIssuerAuth_bytes _ written

def ItemsRequest.Requests (request : ItemsRequest) (nameSpace elementID : String) : Prop :=
  ∃ elements, request.nameSpaces.lookup nameSpace = some elements ∧
    elementID ∈ elements.map Prod.fst

/-- The value that was issued for an element, the last one of several. -/
def issuedValue (added : List DataElement) (nameSpace elementID : String) : Option Item :=
  (added.reverse.find? fun element =>
    element.nameSpace = nameSpace ∧ element.elementID = elementID).map DataElement.value

/-- The document is valid, and its elements are the requested ones that exist, with the values that
were issued. -/
def ReturnsRequested (result : DocumentVerificationResult Key) (request : ItemsRequest)
    (added : List DataElement) : Prop :=
  result.valid = true ∧ ∀ nameSpace elementID value,
    (result.verifiedElements.lookup nameSpace).bind (·.lookup elementID) = some value ↔
      request.Requests nameSpace elementID ∧ issuedValue added nameSpace elementID = some value

variable {rest : List (Certificate Key)} {dsCert : Certificate Key}

/-- The signed object is read back from what `Build` returned. -/
theorem Accredited.signed
    (accredited : Accredited v b dsCert rest) (correct : v.schemes.Correct) {signerKey : Key}
    {algorithm : Int} {mso : MobileSecurityObject}
    (hasKey : b.signerKey = some signerKey)
    (own : algorithmForKey (v.schemes.kind signerKey) = .ok algorithm)
    (made : sign1 v.schemes v.formats.cbor
      (v.formats.cbor.marshal (encodedCBOR (v.formats.mso.marshal mso))) signerKey algorithm
      (b.certChain.map raw) [] = .ok message)
    (carried : CarriedAs v message issuerAuth) :
    v.parseIssuerAuth issuerAuth = .ok message ∧
      getCertificateChainFromSign1 v.formats.cbor v.parseCertificate message =
        .ok (dsCert :: rest) ∧
      verifyMSO v.schemes v.formats message dsCert = .ok mso := by
  have certified : dsCert.publicKey = signerKey :=
    some.inj (accredited.certified.symm.trans hasKey)
  refine ⟨carried.parseIssuerAuth, ?_, verifyMSO_sign1 correct own made certified⟩
  refine getCertificateChainFromSign1_attached _ _ accredited.parses ?_
  rw [(sign1_eq_ok made).2.2.1, accredited.chain]
  exact if_neg (by simp)

variable {issuedAt : Int}

/-- A signed object of an accredited builder is valid exactly if its digest algorithm is
admitted. -/
theorem Accredited.validateMSO_iff (accredited : Accredited v b dsCert rest) {deviceKey : COSEKey}
    {digests : List (String × List (Nat × List UInt8))} {validFrom validUntil : Int}
    (hasFrom : b.validFrom = some validFrom) (hasUntil : b.validUntil = some validUntil) :
    v.validateMSO (b.signedObject deviceKey digests issuedAt validFrom validUntil) b.docType =
        .ok () ↔
      b.digestAlgorithm = "SHA-256" ∨ b.digestAlgorithm = "SHA-512" := by
  have begun := accredited.begun validFrom hasFrom
  have lasting := accredited.lasting validUntil hasUntil
  simp only [validateMSO, validateMSOValidity, signedObject, bind_eq_ok_iff,
    require_eq_ok_iff, begun, lasting, exists_const, true_and, and_true]
  constructor
  · rintro ⟨_, passed⟩
    exact require_eq_ok_iff.mp passed
  · exact fun admitted => ⟨(), require_eq_ok_iff.mpr admitted⟩

variable {nameSpaces : List (String × List Item)}

/-- The name space of a builder, as it is disclosed. -/
theorem lookup_disclosed (returned : nameSpaces = b.namespaces.map fun entry =>
      (entry.1, entry.2.map (wrapped v.formats))) (request : ItemsRequest) (nameSpace : String) :
    (disclose v.formats ⟨nameSpaces, issuerAuth⟩ (request.nameSpaces.map fun entry =>
      (entry.1, entry.2.map Prod.fst))).nameSpaces.lookup nameSpace =
      (request.nameSpaces.lookup nameSpace).bind fun elements =>
        let kept := (b.items nameSpace).filter fun item =>
          item.elementIdentifier ∈ elements.map Prod.fst
        if kept = [] then none else some (kept.map (wrapped v.formats)) := by
  have distinct : ((request.nameSpaces.map fun entry =>
      (entry.1, entry.2.map Prod.fst)).map Prod.fst).Nodup := by
    rw [List.map_map]
    exact request.distinct
  unfold disclose
  rw [lookup_foldl_discloseNameSpace _ distinct, lookup_map_values]
  cases request.nameSpaces.lookup nameSpace with
  | none => rfl
  | some elements =>
    unfold keptItems items
    rw [returned, lookup_map_values]
    cases b.namespaces.lookup nameSpace with
    | none => rfl
    | some items => simp [disclosedItems, List.filter_map, comp_def, iteratedItem_wrapped]

theorem lookup_elementsOf_wrapped (formats : Formats) (items : List IssuerSignedItem)
    (elementID : String) :
    (elementsOf formats (items.map (wrapped formats))).lookup elementID =
      (items.reverse.find? fun item => item.elementIdentifier = elementID).map elementValue := by
  have iterated : iteratedItem formats ∘ wrapped formats = some :=
    funext (iteratedItem_wrapped formats)
  unfold elementsOf
  rw [List.filterMap_map, iterated, List.filterMap_some, lookup_foldl_put, List.lookup_nil, or_none]

/-- The values of a builder's items are those that were issued. -/
theorem MSOBuilder.Holds.find?_items (holds : b.Holds added) (nameSpace elementID : String) :
    ((b.items nameSpace).reverse.find? fun item => item.elementIdentifier = elementID).map
        elementValue =
      issuedValue added nameSpace elementID := by
  have pairs : ((b.items nameSpace).reverse.find? fun item =>
      item.elementIdentifier = elementID).map elementValue =
      (((b.items nameSpace).map fun item => (item.elementIdentifier,
        item.elementValue)).reverse.find? fun pair => pair.1 = elementID).map Prod.snd := by
    rw [← List.map_reverse, List.find?_map, map_map]
    rfl
  rw [pairs, holds.contents, ← List.map_reverse, List.find?_map, ← List.filter_reverse]
  unfold issuedValue
  simp [comp_def]

/-- The elements that a verified document has for a name space and an identifier. -/
theorem lookup_presented (holds : b.Holds added)
    (request : ItemsRequest) (nameSpace elementID : String) (value : Item) :
    (((request.nameSpaces.lookup nameSpace).bind fun elements =>
        let kept := (b.items nameSpace).filter fun item =>
          item.elementIdentifier ∈ elements.map Prod.fst
        if kept = [] then none else some (kept.map (wrapped v.formats))).map
          (elementsOf v.formats)).bind (·.lookup elementID) = some value ↔
      request.Requests nameSpace elementID ∧
        issuedValue added nameSpace elementID = some value := by
  unfold ItemsRequest.Requests
  cases request.nameSpaces.lookup nameSpace with
  | none => simp
  | some elements =>
    have found : ∀ kept : List IssuerSignedItem,
        ((if kept = [] then none else some (kept.map (wrapped v.formats))).map
          (elementsOf v.formats)).bind (·.lookup elementID) =
        (kept.reverse.find? fun item => item.elementIdentifier = elementID).map elementValue := by
      intro kept
      split_ifs with none
      · subst none
        rfl
      · rw [map_some, bind_some, lookup_elementsOf_wrapped]
    dsimp only [bind_some]
    rw [found, ← List.filter_reverse, List.find?_filter, ← holds.find?_items]
    simp only [decide_eq_true_eq]
    by_cases requested : elementID ∈ elements.map Prod.fst
    · have same : (fun item : IssuerSignedItem => decide
          (item.elementIdentifier ∈ elements.map Prod.fst ∧ item.elementIdentifier = elementID)) =
          fun item => decide (item.elementIdentifier = elementID) :=
        funext fun item => decide_eq_decide.mpr ⟨And.right, fun here => ⟨here ▸ requested, here⟩⟩
      rw [same]
      exact ⟨fun held => ⟨⟨elements, rfl, requested⟩, held⟩, And.right⟩
    · have none : (b.items nameSpace).reverse.find? (fun item => decide
          (item.elementIdentifier ∈ elements.map Prod.fst ∧
            item.elementIdentifier = elementID)) = none :=
        List.find?_eq_none.mpr fun item _ both =>
          requested ((of_decide_eq_true both).2 ▸ (of_decide_eq_true both).1)
      rw [none]
      refine ⟨nofun, ?_⟩
      rintro ⟨⟨_, same, member⟩, _⟩
      cases same
      exact absurd member requested

/-- Every item that is disclosed was returned by the builder for that name space. -/
theorem exists_of_mem_disclosed (returned : nameSpaces = b.namespaces.map fun entry =>
      (entry.1, entry.2.map (wrapped v.formats))) (request : ItemsRequest)
    {entry : String × List Item}
    (disclosed : entry ∈ (disclose v.formats ⟨nameSpaces, issuerAuth⟩
      (request.nameSpaces.map fun entry => (entry.1, entry.2.map Prod.fst))).nameSpaces)
    {anyItem : Item} (member : anyItem ∈ entry.2) :
    ∃ item ∈ b.items entry.1, anyItem = wrapped v.formats item := by
  have found := (ordered_disclose _).lookup_eq_some_iff.mpr disclosed
  rw [lookup_disclosed returned] at found
  obtain ⟨elements, _, kept⟩ := bind_eq_some_iff.mp found
  dsimp only at kept
  split_ifs at kept
  obtain ⟨item, inside, rfl⟩ := List.mem_map.mp (some.inj kept ▸ member)
  exact ⟨item, (List.mem_filter.mp inside).1, rfl⟩

variable {signedMSO : COSESign1}

/-- The document that is presented to the verifier is genuine, if its digest algorithm is
admitted. -/
theorem Accredited.genuine (accredited : Accredited v b dsCert rest) (correct : v.schemes.Correct)
    (holds : b.Holds added)
    (admitted : b.digestAlgorithm = "SHA-256" ∨ b.digestAlgorithm = "SHA-512")
    (built : b.build v.schemes v.formats issuedAt = .ok (signedMSO, nameSpaces))
    (carried : CarriedAs v signedMSO issuerAuth)
    (request : ItemsRequest) :
    ∃ mso elements, v.Genuine (disclose v.formats ⟨nameSpaces, issuerAuth⟩
        (request.nameSpaces.map fun entry => (entry.1, entry.2.map Prod.fst))) b.docType
        dsCert rest mso elements ∧
      ∀ nameSpace elementID value,
        (elements.lookup nameSpace).bind (·.lookup elementID) = some value ↔
          request.Requests nameSpace elementID ∧
            issuedValue added nameSpace elementID = some value := by
  obtain ⟨hash, known⟩ : ∃ hash, hashFor b.digestAlgorithm = some hash := by
    rcases admitted with same | same <;> rw [same] <;> exact ⟨_, rfl⟩
  obtain ⟨returned, signerKey, deviceKey, validFrom, validUntil, algorithm, hasKey, hasFrom,
    hasUntil, own, made⟩ := build_of_hash known built
  obtain ⟨parsed, extracted, verified⟩ := accredited.signed correct hasKey own made carried
  let mso := b.signedObject deviceKey (b.namespaces.map fun entry =>
    (entry.1, digestsOf v.schemes v.formats hash entry.2)) issuedAt validFrom validUntil
  obtain ⟨elements, done, lookups⟩ := foldlM_issuerSignedNameSpace (ordered_disclose _).nodup_keys
    (fun entry disclosed anyItem member => by
      obtain ⟨item, inside, rfl⟩ := exists_of_mem_disclosed returned request disclosed member
      have digest :
          verifyDigest v.schemes v.formats mso entry.1 (wrapped v.formats item) = .ok () :=
        holds.verifyDigest known rfl inside
      exact digest) []
  refine ⟨mso, elements, ⟨⟨signedMSO, parsed, extracted, verified⟩, accredited.period,
    (accredited.validateMSO_iff hasFrom hasUntil).mpr admitted, done⟩,
    fun nameSpace elementID value => ?_⟩
  rw [lookups, List.lookup_nil, or_none, lookup_disclosed returned]
  exact lookup_presented holds _ _ _ _

/-- A document that an accredited builder signed is valid only if its digest algorithm is
admitted. -/
theorem Accredited.admitted_of_valid
    (accredited : Accredited v b dsCert rest) (correct : v.schemes.Correct)
    (built : b.build v.schemes v.formats issuedAt = .ok (signedMSO, nameSpaces))
    {disclosed : IssuerSigned} (carried : CarriedAs v signedMSO disclosed.issuerAuth)
    (sound : (v.verifyDocument ⟨b.docType, disclosed⟩).valid = true) :
    b.digestAlgorithm = "SHA-256" ∨ b.digestAlgorithm = "SHA-512" := by
  obtain ⟨_, _, _, genuine, _⟩ := genuine_of_valid sound
  obtain ⟨signerKey, deviceKey, validFrom, validUntil, digested, algorithm, hasKey, hasFrom,
    hasUntil, _, _, own, made⟩ := build_eq_ok built
  obtain ⟨parsed, extracted, verified⟩ := accredited.signed correct hasKey own made carried
  obtain ⟨message, parsed', extracted', verified'⟩ := genuine.signed
  cases parsed.symm.trans parsed'
  cases extracted.symm.trans extracted'
  cases verified.symm.trans verified'
  exact (accredited.validateMSO_iff hasFrom hasUntil).mp genuine.validated

end RoundTrip

/-- Whatever is requested of an issued document is verified, with the values that were issued,
exactly if the builder's digest algorithm is one that the verifier admits. -/
theorem returnsRequested_iff_admitted (v : Verifier Key) (correct : v.schemes.Correct)
    (start b : MSOBuilder Key) (empty : start.Empty) (added : List DataElement)
    (filled : start.addAll added = .ok b) (dsCert : Certificate Key)
    (rest : List (Certificate Key)) (accredited : Accredited v b dsCert rest) (issuedAt : Int)
    (signedMSO : COSESign1) (nameSpaces : List (String × List Item))
    (built : b.build v.schemes v.formats issuedAt = .ok (signedMSO, nameSpaces))
    (issuerAuth : Item) (carried : CarriedAs v signedMSO issuerAuth)
    (request : ItemsRequest) (disclosed : IssuerSigned)
    (presented : discloseFromItemsRequest v.formats ⟨nameSpaces, issuerAuth⟩ (some request) =
      .ok disclosed) :
    ReturnsRequested (v.verifyDocument ⟨b.docType, disclosed⟩) request added ↔
      b.digestAlgorithm = "SHA-256" ∨ b.digestAlgorithm = "SHA-512" := by
  have holds : b.Holds added := empty.holds.addAll filled
  cases presented
  constructor
  · rintro ⟨sound, _⟩
    exact accredited.admitted_of_valid correct built carried sound
  · intro admitted
    obtain ⟨mso, elements, genuine, exactly⟩ :=
      accredited.genuine correct holds admitted built carried request
    obtain ⟨_, sound, found⟩ := genuine.verifyDocument accredited.trusted
    refine ⟨sound, ?_⟩
    rw [found]
    exact exactly

/-! ## A driving licence with two elements -/

def licenceBuilder (digestAlgorithm : String) : MSOBuilder KeyKind where
  docType := "org.iso.18013.5.1.mDL"
  digestAlgorithm
  validFrom := some 0
  validUntil := some (10 ^ 9)
  deviceKey := some ⟨2, 0, 1, [1], [2]⟩
  signerKey := some (.ecdsa .p256)
  certChain := [signerCertificate]

/-- The name and the age of the holder. -/
def licenceElements : List DataElement := [
  ⟨"org.iso.18013.5.1", "family_name", textItem "Doe", fun size => List.replicate size 0⟩,
  ⟨"org.iso.18013.5.1", "age_in_years", .unsigned 42, fun size => List.replicate size 1⟩]

/-- A request for the name, and for a portrait that was not issued. -/
def nameRequest : ItemsRequest where
  docType := "org.iso.18013.5.1.mDL"
  nameSpaces := [("org.iso.18013.5.1", [("family_name", false), ("portrait", false)])]
  distinct := by decide

/-- The builder with the elements. -/
def filledBuilder (digestAlgorithm : String) : MSOBuilder KeyKind :=
  { licenceBuilder digestAlgorithm with
    namespaces := [("org.iso.18013.5.1", [⟨0, List.replicate 16 0, "family_name", textItem "Doe"⟩,
      ⟨1, List.replicate 16 1, "age_in_years", .unsigned 42⟩])]
    digestIDCounter := [("org.iso.18013.5.1", 2)] }

variable (digestAlgorithm : String)

theorem addAll_licence :
    (licenceBuilder digestAlgorithm).addAll licenceElements = .ok (filledBuilder digestAlgorithm) :=
  rfl

theorem accredited_licence :
    Accredited licenceVerifier (filledBuilder digestAlgorithm) signerCertificate [] where
  chain := rfl
  certified := rfl
  parses certificate member := by
    rw [List.mem_singleton.mp member]
    rfl
  period := by decide
  trusted := ⟨_, rfl⟩
  begun := by
    rintro _ ⟨⟩
    decide
  lasting := by
    rintro _ ⟨⟩
    decide

theorem exists_licence {hash : Hash} (known : hashFor digestAlgorithm = some hash) :
    ∃ signedMSO nameSpaces, (filledBuilder digestAlgorithm).build ideal plain 0 =
      .ok (signedMSO, nameSpaces) :=
  exists_build known rfl rfl (fun _ => ⟨_, rfl⟩) rfl rfl rfl 0

theorem licence_returned_with_sha256 :
    ∃ signedMSO nameSpaces disclosed,
      (filledBuilder "SHA-256").build ideal plain 0 = .ok (signedMSO, nameSpaces) ∧
      discloseFromItemsRequest plain
        ⟨nameSpaces, issuerAuthArray signedMSO⟩ (some nameRequest) = .ok disclosed ∧
      ReturnsRequested (licenceVerifier.verifyDocument ⟨"org.iso.18013.5.1.mDL", disclosed⟩)
        nameRequest licenceElements := by
  obtain ⟨signedMSO, nameSpaces, built⟩ := exists_licence "SHA-256" rfl
  refine ⟨signedMSO, nameSpaces, _, built, rfl, ?_⟩
  exact (returnsRequested_iff_admitted _ ideal_correct
    _ _ ⟨rfl, rfl⟩ _
    (addAll_licence "SHA-256") _ _ (accredited_licence "SHA-256") 0 _ _ built _
    (.inl rfl) _ _ rfl).mpr (.inl rfl)

theorem licence_refused_with_sha384 :
    ∃ signedMSO nameSpaces disclosed,
      (licenceBuilder "SHA-384").addAll licenceElements = .ok (filledBuilder "SHA-384") ∧
      (filledBuilder "SHA-384").build ideal plain 0 = .ok (signedMSO, nameSpaces) ∧
      discloseFromItemsRequest plain
        ⟨nameSpaces, issuerAuthArray signedMSO⟩ (some nameRequest) = .ok disclosed ∧
      Accredited licenceVerifier (filledBuilder "SHA-384") signerCertificate [] ∧
      ¬ ReturnsRequested (licenceVerifier.verifyDocument ⟨"org.iso.18013.5.1.mDL", disclosed⟩)
        nameRequest licenceElements := by
  obtain ⟨signedMSO, nameSpaces, built⟩ := exists_licence "SHA-384" rfl
  refine ⟨signedMSO, nameSpaces, _, addAll_licence "SHA-384", built, rfl,
    accredited_licence "SHA-384", ?_⟩
  rintro ⟨sound, _⟩
  have admitted : "SHA-384" = "SHA-256" ∨ "SHA-384" = "SHA-512" :=
    (accredited_licence "SHA-384").admitted_of_valid ideal_correct built (.inl rfl) sound
  exact absurd admitted (by decide)

end Vc.Iso18013
