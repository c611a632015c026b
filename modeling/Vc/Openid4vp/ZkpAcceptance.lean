import Vc.Openid4vp.ZkpResponse

/-!
# What an accepted zkp_req response is made of

Every presentation of an accepted response is read to the end: each of its
members has the type and the bounds that the request asks for.  That leaves
three ways in which the encoding can still be other than it should be, and
`PlainlyEncoded` excludes them.

Indefinite lengths are found by comparing two decodes into `any`.  Both fail
where `system_id` is a text under tag 0 that denotes no instant, although the
typed decode of that member looks through the tag; the response is then accepted
with whatever lengths it has.
-/

namespace Vc.Openid4vp

open Checks Cbor List Entries Item False

/-! ## Maps with text keys -/

/-- The entries of a map whose keys are texts, and the raw members that they are decoded to. -/
structure TextEntries (entries : List (Item × Item)) (members : List (String × Item)) : Prop where
  raw : RawEntries entries (members.map fun member => (.text member.1, member.2))

variable {members : List (String × Item)} {reason : ZkpReqReason}

theorem mapM_textEntry {pairs : List (Value × Item)}
    (done : pairs.mapM (textEntry reason) = .ok members) :
    pairs = members.map fun member => (.text member.1, member.2) := by
  have each := mapM_eq_ok_iff.mp done
  clear done
  induction each with
  | nil => rfl
  | @cons pair member _ _ here _ ih =>
    obtain ⟨key, raw⟩ := pair
    unfold textEntry at here
    split at here
    · next same =>
      cases same
      cases here
      rw [map_cons, ih]
    · cases here

namespace TextEntries

variable {entries : List (Item × Item)}

section

variable (text : TextEntries entries members)

include text

theorem nodup : (members.map (·.1)).Nodup := by
  have nodup := text.raw.nodup
  rw [map_map] at nodup
  exact Nodup.of_map Value.text (by rwa [map_map])

theorem exists_member {entry : Item × Item} (present : entry ∈ entries) :
    ∃ name, (name, stripSelfDescribed entry.2) ∈ members ∧
      decodeAny entry.1 = .ok (.text name) := by
  obtain ⟨pair, inPairs, key, value⟩ := text.raw.exists_pair present
  obtain ⟨member, inMembers, rfl⟩ := mem_map.mp inPairs
  exact ⟨member.1, value ▸ inMembers, key⟩

theorem exists_entry {member : String × Item} (present : member ∈ members) :
    ∃ entry ∈ entries, decodeAny entry.1 = .ok (.text member.1) ∧
      member.2 = stripSelfDescribed entry.2 :=
  text.raw.exists_entry (mem_map.mpr ⟨member, present, rfl⟩)

theorem everyMap (indefinite : Bool) (values : ∀ member ∈ members, member.2.EveryMap DistinctKeys) :
    (map indefinite entries).EveryMap DistinctKeys := by
  refine .map text.raw.distinctKeys (fun entry present => ?_) (fun entry present => ?_)
  · obtain ⟨name, _, key⟩ := text.exists_member present
    exact (mapFree_of_parse_text key).mono fun _ => elim
  · obtain ⟨name, inMembers, _⟩ := text.exists_member present
    exact everyMap_of_stripSelfDescribed (values _ inMembers)

theorem decodes (indefinite : Bool)
    (values : ∀ member ∈ members, ∃ value, decodeAny member.2 = .ok value) :
    Decodes (.map indefinite entries) := by
  refine text.raw.decodes indefinite fun entry present => ?_
  obtain ⟨name, inMembers, _⟩ := text.exists_member present
  rw [← decodeAny_stripSelfDescribed]
  exact values _ inMembers

end

end TextEntries

/-! ## What the checks establish -/

variable {raw : Item}

theorem cborInto_eq_ok {α : Type} {fill : Item → Except DecodeFault α}
    {value : α} (done : cborInto fill reason raw = .ok value) :
    isNil raw = false ∧ decodeInto fill raw = .ok value := by
  simp only [cborInto, bind_eq_ok_iff, require_eq_ok_iff, mapError_eq_ok_iff] at done
  obtain ⟨_, present, filled⟩ := done
  exact ⟨present, filled⟩

variable {data : List UInt8}

/-- What is read before the members are looked at. -/
theorem decodeZkpPresentationCBOR_eq_ok (done : decodeZkpPresentationCBOR data = .ok members) :
    usesIndefiniteLength data = false ∧
    ∃ item indefinite entries, readItem zkpCBORMode data = .ok (item, []) ∧
      stripSelfDescribed item = .map indefinite entries ∧ TextEntries entries members := by
  simp only [decodeZkpPresentationCBOR, bind_eq_ok_iff, require_eq_ok_iff,
    mapError_eq_ok_iff] at done
  obtain ⟨_, definite, whole, first, _, noRest, _, _, _, isMap, pairs, filled, texts⟩ := done
  refine ⟨definite, ?_⟩
  simp only [unmarshalFirst, bind_eq_ok_iff, mapError_eq_ok_iff] at first
  obtain ⟨parts, read, raw, decoded, same⟩ := first
  cases same
  obtain ⟨rfl, _⟩ := decodeRaw_eq_ok decoded
  obtain ⟨inner, peeled, filled⟩ := decodeInto_eq_ok filled
  cases stripped : stripSelfDescribed parts.1 with
  | map indefinite entries =>
    rw [stripped] at peeled
    cases peeled
    obtain ⟨impossible, _⟩ | ⟨_, _, same, raw⟩ := fillRawMap_eq_ok filled
    · cases impossible
    · cases same
      refine ⟨parts.1, indefinite, entries, ?_, stripped, ⟨mapM_textEntry texts ▸ raw⟩⟩
      rw [read, ← noRest]
  | _ =>
    rw [stripped] at isMap
    cases isMap

variable {results : List (String × Item)}

/-- The results beneath their tags: a map with text keys, or null. -/
theorem cborResultsMap_eq_ok (done : cborResultsMap raw = .ok results) :
    ∃ inner, peel raw = .ok inner ∧ ((isNil inner = true ∧ results = []) ∨
      ∃ indefinite entries, inner = .map indefinite entries ∧ TextEntries entries results) := by
  simp only [cborResultsMap, bind_eq_ok_iff, mapError_eq_ok_iff] at done
  obtain ⟨_, _, pairs, filled, texts⟩ := done
  obtain ⟨inner, peeled, filled⟩ := decodeInto_eq_ok filled
  have same := mapM_textEntry texts
  obtain ⟨null, rfl⟩ | ⟨indefinite, entries, isMap, raw⟩ := fillRawMap_eq_ok filled
  · exact ⟨inner, peeled, .inl ⟨null, map_eq_nil_iff.mp same.symm⟩⟩
  · exact ⟨inner, peeled, .inr ⟨indefinite, entries, isMap, ⟨same ▸ raw⟩⟩⟩

/-! ## The results -/

/-- The result of an item, as it was sent and as it was accepted. -/
def ResultRead (results : List (String × Item)) (presentation : ZkpPresentation)
    (item : ReqItem) : Prop :=
  ∃ raw, results.lookup item.returnHandle = some raw ∧
    ((item.fnID = "pseudonym" ∧ ∃ width value, pseudonymLengthFor item = some width ∧
        decodeInto fillBytes raw = .ok value ∧ value.length = width ∧
        presentation.pseudonyms.lookup item.returnHandle = some value) ∨
      (item.fnID = "age_check" ∧ decodeInto fillBool raw = .ok true ∧
        item.returnHandle ∈ presentation.satisfied))

/-- The members of a presentation that are not results. -/
def SameMembers (first second : ZkpPresentation) : Prop :=
  first.systemID = second.systemID ∧ first.proof = second.proof ∧
    first.issuerKeySet = second.issuerKeySet ∧ first.proofTime = second.proofTime

theorem readPseudonym_eq_ok {item : ReqItem} {value : List UInt8}
    (done : readPseudonym item raw = .ok value) :
    ∃ width, pseudonymLengthFor item = some width ∧ decodeInto fillBytes raw = .ok value ∧
      value.length = width := by
  unfold readPseudonym at done
  split at done
  · cases done
  · next width known =>
    simp only [bind_eq_ok_iff, require_eq_ok_iff] at done
    obtain ⟨found, filled, _, length, same⟩ := done
    cases same
    exact ⟨width, known, (cborInto_eq_ok filled).2, length⟩

theorem readSatisfied_eq_ok {result : Unit} (done : readSatisfied raw = .ok result) :
    decodeInto fillBool raw = .ok true := by
  simp only [readSatisfied, bind_eq_ok_iff, require_eq_ok_iff] at done
  obtain ⟨satisfied, filled, isTrue⟩ := done
  exact isTrue ▸ (cborInto_eq_ok filled).2

variable {before after : ZkpPresentation}

/-- Reading one result keeps those that were read before. -/
theorem readZkpResult_eq_ok
    {item : ReqItem} (done : readZkpResult results before item = .ok after) :
    ResultRead results after item ∧ SameMembers after before ∧
      ∀ other, ResultRead results before other → ResultRead results after other := by
  unfold readZkpResult at done
  split at done
  · cases done
  · next raw found =>
    split_ifs at done with isPseudonym isAgeCheck
    · obtain ⟨value, read, rfl⟩ := map_eq_ok_iff.mp done
      obtain ⟨width, known, filled, length⟩ := readPseudonym_eq_ok read
      refine ⟨⟨raw, found, .inl ⟨isPseudonym, width, value, known, filled, length, by simp⟩⟩,
        ⟨rfl, rfl, rfl, rfl⟩, ?_⟩
      rintro other ⟨otherRaw, otherFound, ⟨isOther, otherWidth, otherValue, otherKnown, otherFilled,
        otherLength, stored⟩ | ageCheck⟩
      · refine ⟨otherRaw, otherFound, .inl ⟨isOther, otherWidth, otherValue, otherKnown,
          otherFilled, otherLength, ?_⟩⟩
        rw [lookup_put]
        split_ifs with same
        -- the same handle carries the same result
        · rw [same, found] at otherFound
          cases otherFound
          rw [filled] at otherFilled
          cases otherFilled
          rfl
        · exact stored
      · exact ⟨otherRaw, otherFound, .inr ageCheck⟩
    · obtain ⟨_, read, rfl⟩ := map_eq_ok_iff.mp done
      refine ⟨⟨raw, found, .inr ⟨isAgeCheck, readSatisfied_eq_ok read, by simp⟩⟩,
        ⟨rfl, rfl, rfl, rfl⟩, ?_⟩
      rintro other ⟨otherRaw, otherFound, pseudonym | ⟨isOther, otherFilled, member⟩⟩
      · exact ⟨otherRaw, otherFound, .inl pseudonym⟩
      · exact ⟨otherRaw, otherFound, .inr ⟨isOther, otherFilled, mem_append_left _ member⟩⟩

theorem foldlM_readZkpResult {items : List ReqItem}
    (done : items.foldlM (readZkpResult results) before = .ok after) :
    (∀ item ∈ items, ResultRead results after item) ∧ SameMembers after before ∧
      ∀ other, ResultRead results before other → ResultRead results after other := by
  induction items generalizing before with
  | nil =>
    cases done
    exact ⟨by simp, ⟨rfl, rfl, rfl, rfl⟩, fun _ read => read⟩
  | cons item rest ih =>
    rw [foldlM_cons, bind_eq_ok_iff] at done
    obtain ⟨next, stepped, later⟩ := done
    obtain ⟨here, same, kept⟩ := readZkpResult_eq_ok stepped
    obtain ⟨all, sameLater, keptLater⟩ := ih later
    refine ⟨forall_mem_cons.mpr ⟨keptLater _ here, all⟩, ?_, fun other read =>
      keptLater _ (kept _ read)⟩
    exact ⟨sameLater.1.trans same.1, sameLater.2.1.trans same.2.1,
      sameLater.2.2.1.trans same.2.2.1, sameLater.2.2.2.trans same.2.2.2⟩

/-! ## The members -/

/-- Results that answer every item of the request and nothing else. -/
structure ResultsRead (results : List (String × Item)) (request : ZkpReqRequest)
    (presentation : ZkpPresentation) : Prop where
  asked : ∀ entry ∈ results, entry.1 ∈ request.items.map (·.returnHandle)
  answered : ∀ item ∈ request.items, ResultRead results presentation item

/-- The members of an accepted presentation. -/
structure ValidatedMembers (members : List (String × Item)) (request : ZkpReqRequest)
    (presentation : ZkpPresentation) : Prop where
  known : ∀ member ∈ members, member.1 ∈ presentationMembers
  systemID : ∃ raw, members.lookup "system_id" = some raw ∧
    decodeInto fillText raw = .ok presentation.systemID
  offered : presentation.systemID ∈ request.offeredSystemIDs
  proof : ∃ raw, members.lookup "proof" = some raw ∧
    decodeInto fillBytes raw = .ok presentation.proof
  issuerKeySet : ∃ raw rawKeySet, members.lookup "issuer_key_set" = some raw ∧
    decodeInto fillRawArray raw = .ok rawKeySet ∧ rawKeySet.length ≠ 0 ∧
    rawKeySet.length ≤ maxIssuerKeySetSize ∧
    rawKeySet.mapM decodeIssuerKey = .ok presentation.issuerKeySet
  results : ∃ raw results, members.lookup "results" = some raw ∧
    cborResultsMap raw = .ok results ∧ ResultsRead results request presentation
  proofTime : readProofTime request.sourceFormat (members.lookup "proof_time") =
    .ok presentation.proofTime

variable {name : String}

theorem requiredMember_eq_ok
    (done : requiredMember name members = .ok raw) : members.lookup name = some raw := by
  unfold requiredMember at done
  split at done
  · cases done
  · next found =>
    cases done
    exact found

variable {presentation : ZkpPresentation} {request : ZkpReqRequest}

theorem validateMembers_eq_ok (done : validateMembers members request = .ok presentation) :
    ValidatedMembers members request presentation := by
  simp only [validateMembers, decodeIssuerKeySet, checkZkpHandles, bind_eq_ok_iff,
    require_eq_ok_iff] at done
  obtain ⟨_, known, rawSystemID, hasSystemID, rawProof, hasProof, rawKeys, hasKeys, rawResults,
    hasResults, systemID, systemIDRead, proof, proofRead, rawKeySet, keysRead, results, resultsRead,
    _, offered, _, _, issuerKeySet, ⟨_, nonempty, _, few, keySet⟩, proofTime, timeRead,
    _, ⟨_, asked, missing⟩, folded⟩ := done
  obtain ⟨answered, ⟨sameID, sameProof, sameKeys, sameTime⟩, _⟩ := foldlM_readZkpResult folded
  exact {
    known := known
    systemID := ⟨rawSystemID, requiredMember_eq_ok hasSystemID,
      sameID ▸ (cborInto_eq_ok systemIDRead).2⟩
    offered := sameID ▸ offered
    proof := ⟨rawProof, requiredMember_eq_ok hasProof, sameProof ▸ (cborInto_eq_ok proofRead).2⟩
    issuerKeySet := ⟨rawKeys, rawKeySet, requiredMember_eq_ok hasKeys,
      (cborInto_eq_ok keysRead).2, nonempty, few, sameKeys ▸ keySet⟩
    results := ⟨rawResults, results, requiredMember_eq_ok hasResults, resultsRead, asked, answered⟩
    proofTime := sameTime ▸ timeRead }

/-- An item that repeats no key, and that a decode into `any` can take. -/
def Decodable (item : Item) : Prop :=
  item.EveryMap DistinctKeys ∧ ∃ value, decodeAny item = .ok value

theorem Decodable.of_harmless {item inner : Item} (peeled : peel item = .ok inner)
    (harmless : Harmless inner) : Decodable item :=
  ⟨(harmless.of_peel peeled).1.mono fun _ => elim, (harmless.of_peel peeled).2 _⟩

variable {item : Item}

theorem Decodable.of_fillBytes {bytes : List UInt8}
    (done : decodeInto fillBytes item = .ok bytes) : Decodable item := by
  obtain ⟨inner, peeled, filled⟩ := decodeInto_eq_ok done
  exact .of_harmless peeled (harmless_of_fillBytes peeled filled)

theorem Decodable.of_fillBool {value : Bool}
    (done : decodeInto fillBool item = .ok value) : Decodable item := by
  obtain ⟨inner, peeled, filled⟩ := decodeInto_eq_ok done
  exact .of_harmless peeled (harmless_of_fillBool filled)

/-- Lengths of the accepted issuer keys. -/
theorem decodeIssuerKey_eq_ok {der : List UInt8} (done : decodeIssuerKey raw = .ok der) :
    decodeInto fillBytes raw = .ok der ∧ 1 ≤ der.length ∧ der.length ≤ maxIssuerKeyBytes := by
  simp only [decodeIssuerKey, bind_eq_ok_iff, require_eq_ok_iff] at done
  obtain ⟨found, filled, _, nonempty, _, small, same⟩ := done
  cases same
  exact ⟨(cborInto_eq_ok filled).2, Nat.one_le_iff_ne_zero.mpr nonempty, small⟩

theorem Decodable.of_issuerKeySet {rawKeySet : List Item}
    {keys : List (List UInt8)} (done : decodeInto fillRawArray item = .ok rawKeySet)
    (decoded : rawKeySet.mapM decodeIssuerKey = .ok keys) : Decodable item := by
  obtain ⟨inner, peeled, filled⟩ := decodeInto_eq_ok done
  unfold fillRawArray at filled
  split at filled
  · next indefinite elements =>
    have each : ∀ element ∈ elements, Decodable element := by
      intro element member
      obtain ⟨raw, inRaw, decodedRaw⟩ := exists_result_of_mem_mapM filled member
      obtain ⟨der, _, decodedKey⟩ := exists_result_of_mem_mapM decoded inRaw
      obtain ⟨everyMap, value, any⟩ := Decodable.of_fillBytes (decodeIssuerKey_eq_ok decodedKey).1
      obtain ⟨rfl, _⟩ := decodeRaw_eq_ok decodedRaw
      exact ⟨everyMap_of_stripSelfDescribed everyMap, value, decodeAny_stripSelfDescribed _ ▸ any⟩
    exact ⟨everyMap_of_peel peeled (.array fun element member => (each _ member).1),
      decodes_of_peel peeled (isBadTime_of_peel peeled (timely_array _ _))
        (decodes_array _ fun element member => (each _ member).2) _⟩
  · split_ifs at filled with null
    exact .of_harmless peeled (.of_isNil null)

theorem Decodable.of_results (done : cborResultsMap item = .ok results)
    (read : ResultsRead results request presentation) : Decodable item := by
  obtain ⟨inner, peeled, ⟨null, _⟩ | ⟨indefinite, entries, rfl, text⟩⟩ := cborResultsMap_eq_ok done
  · exact .of_harmless peeled (.of_isNil null)
  · have each : ∀ member ∈ results, Decodable member.2 := by
      intro member present
      obtain ⟨item, inItems, same⟩ := mem_map.mp (read.asked member present)
      obtain ⟨raw, found, pseudonym | ageCheck⟩ := read.answered item inItems
      all_goals
        rw [same, lookup_of_mem_of_nodup text.nodup present] at found
        cases found
      · obtain ⟨_, _, _, _, filled, _⟩ := pseudonym
        exact .of_fillBytes filled
      · exact .of_fillBool ageCheck.2.1
    refine ⟨everyMap_of_peel peeled (text.everyMap _ fun member present =>
      (each _ present).1), ?_⟩
    exact decodes_of_peel peeled (isBadTime_of_peel peeled (timely_map _ _))
      (text.decodes _ fun member present => (each _ present).2) _

variable {instant : Rfc3339.DateTime} {text : String}

theorem parseProofTime_eq_ok (done : parseProofTime text = .ok instant) :
    hasForm proofTimeForm text.toList = true ∧ Rfc3339.parseUTC text.toList = some instant := by
  unfold parseProofTime at done
  split_ifs at done with form
  split at done
  · cases done
  · next found parsed =>
    cases done
    exact ⟨by simpa using form, parsed⟩

/-- A proof time is an instant also for a decode into `any`. -/
theorem Decodable.of_proofTime
    (done : decodeProofTimeTDate item = .ok text) (parsed : parseProofTime text = .ok instant) :
    Decodable item := by
  simp only [decodeProofTimeTDate, bind_eq_ok_iff, require_eq_ok_iff, mapError_eq_ok_iff] at done
  obtain ⟨_, _, tag, rawTag, _, isTime, filled⟩ := done
  unfold decodeRawTag at rawTag
  split at rawTag
  · next number content decoded =>
    cases rawTag
    obtain rfl : number = 0 := isTime
    obtain ⟨stripped, valid⟩ := decodeRaw_eq_ok decoded
    rw [validTags, Bool.and_eq_true] at valid
    obtain ⟨inner, peeled, filled⟩ := decodeInto_eq_ok filled
    rw [peel_of_time (.inl rfl) valid.1] at peeled
    cases peeled
    obtain ⟨mapFree, decodes⟩ := mapFree_of_fillText filled
    have known : ∃ value, parseTime content = .ok value := by
      cases content with
      | text indefinite chunks =>
        unfold fillText at filled
        dsimp only at filled
        split at filled
        · cases filled
        · next found known =>
          cases filled
          have isInstant := Rfc3339.parse_of_parseUTC (parseProofTime_eq_ok parsed).2
          simp [parseTime, known, isInstant]
      | _ => cases valid.1
    refine ⟨everyMap_of_stripSelfDescribed ?_, ?_⟩
    · rw [← stripped]
      exact .tag (mapFree.mono fun _ => elim)
    · rw [← decodeAny_stripSelfDescribed, ← stripped]
      obtain ⟨value, same⟩ := known
      exact ⟨value, by rw [decodeAny, parse, valid.1]; exact same⟩
  · cases rawTag
  · cases rawTag

/-- The members of an accepted presentation decode into `any`, all but a `system_id` that is
marked as an instant and denotes none. -/
theorem ValidatedMembers.decodable (validated : ValidatedMembers members request presentation)
    (nodup : (members.map (·.1)).Nodup) {member : String × Item} (present : member ∈ members) :
    member.2.EveryMap DistinctKeys ∧ ((member.1 = "system_id" → isBadTime member.2 = false) →
      ∃ value, decodeAny member.2 = .ok value) := by
  obtain ⟨name, raw⟩ := member
  have found := lookup_of_mem_of_nodup nodup present
  suffices decodable : name ≠ "system_id" → Decodable raw by
    by_cases isSystemID : name = "system_id"
    · subst isSystemID
      obtain ⟨_, foundID, filled⟩ := validated.systemID
      rw [found] at foundID
      cases foundID
      obtain ⟨inner, peeled, filled⟩ := decodeInto_eq_ok filled
      obtain ⟨mapFree, decodes⟩ := mapFree_of_fillText filled
      exact ⟨(everyMap_of_peel peeled mapFree).mono fun _ => elim,
        fun timely => decodes_of_peel peeled (timely rfl) decodes _⟩
    · exact ⟨(decodable isSystemID).1, fun _ => (decodable isSystemID).2⟩
  intro notSystemID
  have known := validated.known _ present
  simp only [presentationMembers, mem_cons, not_mem_nil, or_false] at known
  rcases known with isSystemID | rfl | rfl | rfl | rfl
  · exact absurd isSystemID notSystemID
  · obtain ⟨_, foundProof, filled⟩ := validated.proof
    cases found.symm.trans foundProof
    exact .of_fillBytes filled
  · obtain ⟨_, _, foundKeys, filled, _, _, decoded⟩ := validated.issuerKeySet
    cases found.symm.trans foundKeys
    exact .of_issuerKeySet filled decoded
  · have timed := validated.proofTime
    rw [found, readProofTime] at timed
    simp only [bind_eq_ok_iff, mapError_eq_ok_iff] at timed
    obtain ⟨text, decoded, instant, parsed, _⟩ := timed
    exact .of_proofTime decoded parsed
  · obtain ⟨_, _, foundResults, decoded, read⟩ := validated.results
    cases found.symm.trans foundResults
    exact .of_results decoded read

/-! ## Accepted responses -/

/-- The value that a map gives to a text key. -/
def MemberOf (entries : List (Item × Item)) (name : String) (value : Item) : Prop :=
  ∃ key, (key, value) ∈ entries ∧ decodeAny key = .ok (.text name)

/-- What the results of a presentation have to be: a map, also beneath tags, that answers the
handles of the request and no others. -/
structure AnswersItems (request : ZkpReqRequest) (results : Item)
    (presentation : ZkpPresentation) : Prop where
  entries : ∃ indefinite entries, peel results = .ok (.map indefinite entries) ∧
    (∀ entry ∈ entries, ∃ item ∈ request.items, decodeAny entry.1 = .ok (.text item.returnHandle)) ∧
    (∀ item ∈ request.items, ∃ value, MemberOf entries item.returnHandle value ∧
      (item.fnID = "pseudonym" → ∃ width pseudonym, pseudonymLengthFor item = some width ∧
        decodeInto fillBytes value = .ok pseudonym ∧ pseudonym.length = width ∧
        presentation.pseudonyms.lookup item.returnHandle = some pseudonym) ∧
      (item.fnID = "age_check" → decodeInto fillBool value = .ok true ∧
        item.returnHandle ∈ presentation.satisfied))

/-- An accepted presentation as the response format describes it. -/
structure Conforms (request : ZkpReqRequest) (data : List UInt8)
    (presentation : ZkpPresentation) : Prop where
  encoding : ∃ entries, readItem zkpCBORMode data = .ok (.map false entries, []) ∧
    Encodes data (.map false entries) ∧ (map false entries).hasIndefinite = false ∧
    (map false entries).EveryMap DistinctKeys ∧
    (∀ entry ∈ entries, ∃ name ∈ presentationMembers, decodeAny entry.1 = .ok (.text name)) ∧
    ∃ results, MemberOf entries "results" results ∧ AnswersItems request results presentation
  systemID : presentation.systemID ∈ request.offeredSystemIDs
  issuerKeys : 1 ≤ presentation.issuerKeySet.length ∧ presentation.issuerKeySet.length ≤ 8 ∧
    ∀ key ∈ presentation.issuerKeySet, 1 ≤ key.length ∧ key.length ≤ 4096
  proofTime : request.sourceFormat = "mso_mdoc" → ∃ text instant,
    presentation.proofTime = some (text, instant) ∧ hasForm proofTimeForm text.toList = true ∧
      Rfc3339.parseUTC text.toList = some instant

/-- The encoding of a presentation is not one of those that slip through: the map is not wrapped in
a tag that marks CBOR, its results are not a tagged null, and it does not combine indefinite lengths
with a `system_id` that is marked as an instant and denotes none. -/
def PlainlyEncoded (data : List UInt8) : Prop :=
  ∃ indefinite entries rest, readItem zkpCBORMode data = .ok (.map indefinite entries, rest) ∧
    (∀ results inner, MemberOf entries "results" results → peel results = .ok inner →
      isNil inner = false) ∧
    ¬((map indefinite entries).hasIndefinite = true ∧
      ∃ systemID, MemberOf entries "system_id" systemID ∧ isBadTime systemID = true)

/-- The lengths of a presentation are definite where both probing decodes succeed. -/
theorem hasIndefinite_of_decodes {rest : List UInt8} (probed : usesIndefiniteLength data = false)
    (read : readItem zkpCBORMode data = .ok (item, rest))
    (decodes : ∃ value, decodeAny item = .ok value) : item.hasIndefinite = false := by
  obtain ⟨value, decoded⟩ := decodes
  have lenient : (unmarshalFirst zkpCBORMode decodeAny data).isOk = true := by
    simp [unmarshalFirst, read, decoded, Except.mapError, bind, Except.bind, Except.isOk,
      Except.toBool]
  rw [usesIndefiniteLength, lenient] at probed
  cases strictly : unmarshalFirst zkpCBORStrict decodeAny data with
  | error => simp [strictly, Except.isOk, Except.toBool] at probed
  | ok result =>
    simp only [unmarshalFirst, bind_eq_ok_iff, mapError_eq_ok_iff] at strictly
    obtain ⟨parts, readStrictly, _⟩ := strictly
    obtain ⟨same, definite⟩ := (read_lenient_aux rfl _).1 _ _ _ readStrictly
    cases read.symm.trans same
    exact definite

variable {entries : List (Item × Item)}

theorem TextEntries.lookup_of_memberOf (text : TextEntries entries members)
    {value : Item} (member : MemberOf entries name value) :
    members.lookup name = some (stripSelfDescribed value) := by
  obtain ⟨key, present, named⟩ := member
  obtain ⟨other, inMembers, same⟩ := text.exists_member present
  cases named.symm.trans same
  exact lookup_of_mem_of_nodup text.nodup inMembers

theorem TextEntries.memberOf_of_lookup (text : TextEntries entries members)
    (found : members.lookup name = some raw) :
    ∃ value, MemberOf entries name value ∧ raw = stripSelfDescribed value := by
  obtain ⟨⟨key, value⟩, present, named, same⟩ :=
    text.exists_entry (mem_of_lookup found)
  exact ⟨value, ⟨key, present, named⟩, same⟩

/-- Results that are no null answer the items as maps. -/
theorem answersItems_of_resultsRead {value : Item}
    (done : cborResultsMap (stripSelfDescribed value) = .ok results)
    (read : ResultsRead results request presentation)
    (present : ∀ inner, peel value = .ok inner → isNil inner = false) :
    AnswersItems request value presentation := by
  obtain ⟨inner, peeled, cases⟩ := cborResultsMap_eq_ok done
  rw [peel_stripSelfDescribed] at peeled
  obtain ⟨null, _⟩ | ⟨indefinite, entries, rfl, text⟩ := cases
  · rw [present _ peeled] at null
    cases null
  refine ⟨indefinite, entries, peeled, fun entry inEntries => ?_, fun item inItems => ?_⟩
  · obtain ⟨name, inResults, named⟩ := text.exists_member inEntries
    obtain ⟨item, inItems, rfl⟩ := mem_map.mp (read.asked _ inResults)
    exact ⟨item, inItems, named⟩
  · obtain ⟨raw, found, answer⟩ := read.answered item inItems
    obtain ⟨sent, member, rfl⟩ := text.memberOf_of_lookup found
    rw [decodeInto_stripSelfDescribed, decodeInto_stripSelfDescribed] at answer
    refine ⟨sent, member, fun isPseudonym => ?_, fun isAgeCheck => ?_⟩
    · obtain ⟨_, pseudonym⟩ | ⟨isOther, _⟩ := answer
      · exact pseudonym
      · rw [isPseudonym] at isOther
        exact absurd isOther (by decide)
    · obtain ⟨isOther, _⟩ | ⟨_, satisfied⟩ := answer
      · rw [isAgeCheck] at isOther
        exact absurd isOther (by decide)
      · exact satisfied

section

variable (validated : ValidatedMembers members request presentation)

include validated

theorem ValidatedMembers.issuerKeys :
    1 ≤ presentation.issuerKeySet.length ∧ presentation.issuerKeySet.length ≤ 8 ∧
      ∀ key ∈ presentation.issuerKeySet, 1 ≤ key.length ∧ key.length ≤ 4096 := by
  obtain ⟨_, rawKeySet, _, _, nonempty, few, decoded⟩ := validated.issuerKeySet
  have each := mapM_eq_ok_iff.mp decoded
  rw [← each.length_eq]
  refine ⟨Nat.one_le_iff_ne_zero.mpr nonempty, few, fun key member => ?_⟩
  obtain ⟨raw, _, decodedKey⟩ := exists_left_of_mem each member
  exact (decodeIssuerKey_eq_ok decodedKey).2

theorem ValidatedMembers.wellFormedProofTime (mdoc : request.sourceFormat = "mso_mdoc") :
    ∃ text instant, presentation.proofTime = some (text, instant) ∧
      hasForm proofTimeForm text.toList = true ∧ Rfc3339.parseUTC text.toList = some instant := by
  have timed := validated.proofTime
  cases found : members.lookup "proof_time" with
  | none =>
    rw [found, readProofTime] at timed
    simp only [bind_eq_ok_iff, require_eq_ok_iff] at timed
    exact absurd mdoc timed.choose_spec.1
  | some raw =>
    rw [found, readProofTime] at timed
    simp only [bind_eq_ok_iff, mapError_eq_ok_iff] at timed
    obtain ⟨text, _, instant, parsed, same⟩ := timed
    exact ⟨text, instant, (Except.ok.inj same).symm, parseProofTime_eq_ok parsed⟩

/-- Every map of a validated presentation repeats no key. -/
theorem ValidatedMembers.everyMap (text : TextEntries entries members) (indefinite : Bool) :
    (map indefinite entries).EveryMap DistinctKeys :=
  text.everyMap _ fun _ present => (validated.decodable text.nodup present).1

/-- A validated presentation has definite lengths, unless the probing decodes stop at its
`system_id`. -/
theorem ValidatedMembers.hasIndefinite {rest : List UInt8} {indefinite : Bool}
    (probed : usesIndefiniteLength data = false)
    (read : readItem zkpCBORMode data = .ok (.map indefinite entries, rest))
    (text : TextEntries entries members)
    (timely : ∀ systemID, MemberOf entries "system_id" systemID → isBadTime systemID = false) :
    (map indefinite entries).hasIndefinite = false := by
  refine hasIndefinite_of_decodes probed read ?_
  refine text.decodes _ (fun member present => ?_) _
  refine (validated.decodable text.nodup present).2 fun isSystemID => ?_
  obtain ⟨entry, inEntries, named, same⟩ := text.exists_entry present
  rw [isSystemID] at named
  rw [same, isBadTime_stripSelfDescribed]
  exact timely _ ⟨entry.1, inEntries, named⟩

end

theorem conforms_of_plainlyEncoded (decoded : decodeZkpPresentationCBOR data = .ok members)
    (validated : ValidatedMembers members request presentation)
    (plain : PlainlyEncoded data) : Conforms request data presentation := by
  obtain ⟨probed, item, indefinite, entries, read, stripped, text⟩ :=
    decodeZkpPresentationCBOR_eq_ok decoded
  obtain ⟨_, _, rest, readMap, noNull, noBadTime⟩ := plain
  cases read.symm.trans readMap
  cases stripped
  obtain ⟨rawResults, results, foundResults, resultsRead, answers⟩ := validated.results
  obtain ⟨sentResults, isResults, rfl⟩ := text.memberOf_of_lookup foundResults
  have definite : (map indefinite entries).hasIndefinite = false := by
    by_contra hasIndefinite
    refine hasIndefinite (validated.hasIndefinite probed read text fun systemID member => ?_)
    by_contra badTime
    rw [Bool.not_eq_false] at hasIndefinite badTime
    exact noBadTime ⟨hasIndefinite, systemID, member, badTime⟩
  obtain rfl : indefinite = false := by
    rw [hasIndefinite, Bool.or_eq_false_iff] at definite
    exact definite.1
  obtain ⟨used, whole, encodes⟩ := encodes_readItem read
  rw [append_nil] at whole
  refine ⟨⟨entries, read, whole ▸ encodes, definite, validated.everyMap text _,
    fun entry present => ?_, sentResults, isResults, ?_⟩, validated.offered, validated.issuerKeys,
    validated.wellFormedProofTime⟩
  · obtain ⟨name, inMembers, named⟩ := text.exists_member present
    exact ⟨name, validated.known _ inMembers, named⟩
  · exact answersItems_of_resultsRead resultsRead answers fun inner => noNull _ _ isResults

theorem plainlyEncoded_of_conforms (decoded : decodeZkpPresentationCBOR data = .ok members)
    (conforms : Conforms request data presentation) : PlainlyEncoded data := by
  obtain ⟨entries, read, _, definite, _, _, results, isResults, answers⟩ := conforms.encoding
  obtain ⟨_, item, _, _, readItem, stripped, text⟩ := decodeZkpPresentationCBOR_eq_ok decoded
  cases readItem.symm.trans read
  cases stripped
  refine ⟨false, entries, [], read, fun other inner isOther peeled => ?_, ?_⟩
  -- both are the results that the decode into raw messages found
  · have same := (text.lookup_of_memberOf isOther).symm.trans (text.lookup_of_memberOf isResults)
    obtain ⟨indefinite, resultEntries, isMap, _⟩ := answers.entries
    rw [← peel_stripSelfDescribed, Option.some.inj same, peel_stripSelfDescribed, isMap] at peeled
    cases peeled
    rfl
  · rintro ⟨hasIndefinite, _⟩
    rw [definite] at hasIndefinite
    cases hasIndefinite

theorem conforms_iff_of_validated {element : Json}
    (done : validateZkpPresentation request element = .ok presentation) :
    (∃ data, presentedBytes element = .ok data ∧ Conforms request data presentation) ↔
      ∃ data, presentedBytes element = .ok data ∧ PlainlyEncoded data := by
  simp only [validateZkpPresentation, bind_eq_ok_iff] at done
  obtain ⟨data, isData, members, decoded, checked⟩ := done
  refine exists_congr fun other => and_congr_right fun isOther => ?_
  cases isData.symm.trans isOther
  exact ⟨plainlyEncoded_of_conforms decoded,
    conforms_of_plainlyEncoded decoded (validateMembers_eq_ok checked)⟩

/-- The presentations that a response carries for a query. -/
def Presented (vpToken queryID : String) (elements : List Json) : Prop :=
  ∃ envelope, decodeEnvelope vpToken = .ok envelope ∧
    presentedElements envelope queryID = .ok elements

/-- A response is accepted as a whole: every presentation that it carries is validated.  They all
conform to the response format exactly if all of them are plainly encoded. -/
theorem accepted_presentations_conform_iff (vpToken : String) (request : ZkpReqRequest)
    (presentations : List ZkpPresentation)
    (accepted : validateZkpReqResponse vpToken request = .ok presentations) :
    ∃ elements, Presented vpToken request.queryID elements ∧
      Forall₂ (fun element presentation =>
        validateZkpPresentation request element = .ok presentation) elements presentations ∧
      (Forall₂ (fun element presentation => ∃ data, presentedBytes element = .ok data ∧
          Conforms request data presentation) elements presentations ↔
        ∀ element ∈ elements, ∃ data, presentedBytes element = .ok data ∧ PlainlyEncoded data) := by
  simp only [validateZkpReqResponse, bind_eq_ok_iff] at accepted
  obtain ⟨_, _, envelope, isEnvelope, elements, presented, _, _, _, _, validated⟩ := accepted
  have each := mapM_eq_ok_iff.mp validated
  refine ⟨elements, ⟨envelope, isEnvelope, presented⟩, each, ?_⟩
  clear * - each
  induction each with
  | nil => simp
  | cons here _ ih =>
    rw [forall₂_cons, forall_mem_cons, ih, conforms_iff_of_validated here]

def ageRequest : ZkpReqRequest where
  queryID := "q"
  items := [{ fnID := "age_check", returnHandle := "a" }]
  offeredSystemIDs := ["sys"]

/-- The presentation that an answer to it is accepted as. -/
def agePresentation : ZkpPresentation where
  systemID := "sys"
  proof := [1]
  issuerKeySet := [[2]]
  proofTime := none
  satisfied := ["a"]

/-- A response that carries one presentation. -/
def ageResponse (presentation : String) : String :=
  "\x7b\"q\":[\"" ++ presentation ++ "\"]\x7d"

def definitePresentation : String :=
  "pGlzeXN0ZW1faWRjc3lzZXByb29mQQFuaXNzdWVyX2tleV9zZXSBQQJncmVzdWx0c6FhYfU"

def definiteBytes : List UInt8 :=
  [164, 105, 115, 121, 115, 116, 101, 109, 95, 105, 100, 99, 115, 121, 115, 101, 112, 114, 111, 111,
    102, 65, 1, 110, 105, 115, 115, 117, 101, 114, 95, 107, 101, 121, 95, 115, 101, 116, 129, 65, 2,
    103, 114, 101, 115, 117, 108, 116, 115, 161, 97, 97, 245]

theorem plainlyEncoded_definiteBytes : PlainlyEncoded definiteBytes := by
  refine ⟨false, _, [], rfl, ?_, ?_⟩
  · rintro results inner ⟨key, present, _⟩ peeled
    simp only [mem_cons, not_mem_nil, or_false] at present
    rcases present with ⟨_, rfl⟩ | ⟨_, rfl⟩ | ⟨_, rfl⟩ | ⟨_, rfl⟩ <;> cases peeled <;> rfl
  · rintro ⟨hasIndefinite, _⟩
    cases hasIndefinite

theorem definite_presentation_conforms :
    validateZkpReqResponse (ageResponse definitePresentation) ageRequest = .ok [agePresentation] ∧
    presentedBytes (.str definitePresentation) = .ok definiteBytes ∧
    Conforms ageRequest definiteBytes agePresentation := by
  have accepted : validateZkpReqResponse (ageResponse definitePresentation) ageRequest =
      .ok [agePresentation] := by
    decide +kernel
  have bytes : presentedBytes (.str definitePresentation) = .ok definiteBytes := by
    decide +kernel
  have carried : decodeEnvelope (ageResponse definitePresentation) =
      .ok [("q", .arr [.str definitePresentation])] := by
    decide +kernel
  refine ⟨accepted, bytes, ?_⟩
  obtain ⟨elements, ⟨envelope, isEnvelope, presented⟩, _, conform⟩ :=
    accepted_presentations_conform_iff _ _ _ accepted
  cases carried.symm.trans isEnvelope
  cases presented
  have all := conform.mpr fun element member => by
    cases mem_singleton.mp member
    exact ⟨definiteBytes, bytes, plainlyEncoded_definiteBytes⟩
  cases all with
  | cons here _ =>
    obtain ⟨data, isData, conforms⟩ := here
    cases bytes.symm.trans isData
    exact conforms

/-- A presentation whose proof has an indefinite length and whose `system_id` is tagged as an
instant. -/
def taggedPresentation : String :=
  "pGlzeXN0ZW1faWTAY3N5c2Vwcm9vZl9BAf9uaXNzdWVyX2tleV9zZXSBQQJncmVzdWx0c6FhYfU"

def taggedBytes : List UInt8 :=
  [164, 105, 115, 121, 115, 116, 101, 109, 95, 105, 100, 192, 99, 115, 121, 115, 101, 112, 114, 111,
    111, 102, 95, 65, 1, 255, 110, 105, 115, 115, 117, 101, 114, 95, 107, 101, 121, 95, 115, 101,
    116, 129, 65, 2, 103, 114, 101, 115, 117, 108, 116, 115, 161, 97, 97, 245]

/-- The indefinite length goes unnoticed, since `sys` is no instant. -/
theorem indefinite_presentation_accepted :
    validateZkpReqResponse (ageResponse taggedPresentation) ageRequest = .ok [agePresentation] ∧
    presentedBytes (.str taggedPresentation) = .ok taggedBytes ∧
    (readItem zkpCBORMode taggedBytes).map (·.1.hasIndefinite) = .ok true ∧
    ¬Conforms ageRequest taggedBytes agePresentation := by
  have indefinite : (readItem zkpCBORMode taggedBytes).map (·.1.hasIndefinite) = .ok true := by
    decide +kernel
  refine ⟨by decide +kernel, by decide +kernel, indefinite, fun conforms => ?_⟩
  obtain ⟨entries, read, _, definite, _⟩ := conforms.encoding
  rw [read, Except.map, definite] at indefinite
  cases indefinite

end Vc.Openid4vp
