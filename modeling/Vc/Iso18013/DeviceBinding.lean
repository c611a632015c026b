import Vc.Iso18013.DeviceAuth

/-!
# What device authentication binds

The bytes that a device authenticates determine the transcript, the document type
and the name spaces, and no bytes are of both forms.  So whatever the verifier
tries, it finds the authenticated bytes only in the context they were made for.
-/

namespace Vc.Iso18013

open Checks Tokenstatuslist Schemes DeviceAuthVerifier Cbor NameSpacesValue List Handover

/-! ## The bytes determine the context -/

/-- The transcript can stand in `DeviceAuthentication`. -/
def Embeddable (sessionTranscript : List UInt8) : Prop :=
  sessionTranscript ≠ [] ∧ decodesRaw sessionTranscript = true ∧ encodesRaw sessionTranscript = true

theorem Embeddable.encodes {data : List UInt8} (embeddable : Embeddable data) :
    ∃ item, Encodes data item := by
  have raw := embeddable.2.2
  unfold encodesRaw at raw
  split at raw
  case h_1 item read =>
    obtain ⟨used, split, encodes⟩ := encodes_readItem read
    rw [append_nil] at split
    exact ⟨item, split ▸ encodes⟩
  case h_2 => cases raw

section Bytes

variable (cbor : Codec)

/-- `DeviceAuthenticationBytes`, in the form of the standard. -/
def conformantBytes (sessionTranscript : List UInt8) (docType : String)
    (nameSpaces : List UInt8) : List UInt8 :=
  cbor.marshal (encodedCBOR (deviceAuthentication cbor sessionTranscript docType nameSpaces))

/-- The bytes in the older form. -/
def legacyBytes (sessionTranscript : List UInt8) (docType : String) (nameSpaces : List UInt8) :
    List UInt8 :=
  cbor.marshal (.array false [textItem "DeviceAuthentication", bytesItem sessionTranscript,
    textItem docType, bytesItem nameSpaces])

variable {cbor} {sessionTranscript : List UInt8} {docType : String}
  {deviceNameSpaces : Option (List UInt8)}

theorem buildDeviceAuthenticationBytes_eq_ok_iff {bytes : List UInt8} :
    buildDeviceAuthenticationBytes cbor sessionTranscript docType deviceNameSpaces = .ok bytes ↔
      ∃ nameSpaces, normaliseDeviceNameSpaces cbor deviceNameSpaces = .ok nameSpaces ∧
        Embeddable sessionTranscript ∧
        conformantBytes cbor sessionTranscript docType nameSpaces = bytes := by
  simp only [buildDeviceAuthenticationBytes, bind_eq_ok_iff, require_eq_ok_iff]
  constructor
  · rintro ⟨nameSpaces, normalised, _, some, _, decodes, _, encodes, done⟩
    exact ⟨nameSpaces, normalised, ⟨some, decodes, encodes⟩, Except.ok.inj done⟩
  · rintro ⟨nameSpaces, normalised, ⟨some, decodes, encodes⟩, rfl⟩
    exact ⟨nameSpaces, normalised, (), some, (), decodes, (), encodes, rfl⟩

variable {nameSpaces : List UInt8}

/-- Name spaces that are present are not replaced. -/
theorem normaliseDeviceNameSpaces_some {given : List UInt8}
    (normalised : normaliseDeviceNameSpaces cbor (some given) = .ok nameSpaces) :
    nameSpaces = given := by
  cases given with
  | nil => cases normalised
  | cons first rest =>
    cases normalised
    rfl

theorem buildLegacyDeviceAuthenticationBytes_of_normalised
    (normalised : normaliseDeviceNameSpaces cbor deviceNameSpaces = .ok nameSpaces) :
    buildLegacyDeviceAuthenticationBytes cbor sessionTranscript docType deviceNameSpaces =
      .ok (legacyBytes cbor sessionTranscript docType nameSpaces) := by
  unfold buildLegacyDeviceAuthenticationBytes
  rw [normalised]
  rfl

theorem encodedCBOR_injective : Function.Injective encodedCBOR := by
  intro first second same
  exact bytesItem_injective (Item.tag.inj same).2

variable {different : List UInt8} {first second : List UInt8} {other : String}

/-- The parts are taken apart from the left; the transcript is one data item and so ends where the
document type begins. -/
theorem deviceAuthentication_inj (wellFormed : cbor.WellFormed)
    (firstItem : Embeddable first) (secondItem : Embeddable second)
    (same : deviceAuthentication cbor first docType nameSpaces =
      deviceAuthentication cbor second other different) :
    first = second ∧ docType = other ∧ nameSpaces = different := by
  obtain ⟨_, here⟩ := firstItem.encodes
  obtain ⟨_, there⟩ := secondItem.encodes
  have parts := append_cancel_left (cons.inj same).2
  obtain ⟨transcripts, _, parts⟩ := here.append_inj there parts
  obtain ⟨docTypes, parts⟩ := wellFormed.marshal_append_inj parts
  exact ⟨transcripts, textItem_injective docTypes,
    encodedCBOR_injective (cbor.marshal_inj.mp parts)⟩

end Bytes

/-! ## What the verifier tries -/

section Verifying

variable {Key : Type} {schemes : Schemes Key} {cbor : Codec}

/-- The name spaces of a presentation, as they are authenticated. -/
def NameSpacesValue.Denotes (cbor : Codec) (value : NameSpacesValue)
    (nameSpaces : List UInt8) : Prop :=
  ∃ content, extractDeviceNameSpacesBytes value = .ok content ∧
    normaliseDeviceNameSpaces cbor content = .ok nameSpaces

/-- A check passes for the bytes of a context, in one form or the other. -/
def DeviceAuthVerifier.Finds (v : DeviceAuthVerifier) (cbor : Codec)
    (value : NameSpacesValue) (check : List UInt8 → Except String Unit) : Prop :=
  ∃ nameSpaces, value.Denotes cbor nameSpaces ∧ Embeddable v.sessionTranscript ∧
    (check (conformantBytes cbor v.sessionTranscript v.docType nameSpaces) = .ok () ∨
      check (legacyBytes cbor v.sessionTranscript v.docType nameSpaces) = .ok ())

variable {v : DeviceAuthVerifier} {deviceSigned : DeviceSigned}

theorem DeviceAuthVerifier.verifySignature_eq_ok_iff {key : Key} {raw : Item} {sign1 : COSESign1}
    (signed : deviceSigned.deviceAuth.deviceSignature = some raw)
    (parsed : parseDeviceSignature cbor raw = .ok sign1) :
    v.verifySignature schemes cbor deviceSigned key = .ok () ↔
      v.Finds cbor deviceSigned.nameSpaces fun bytes =>
        verify1 schemes cbor sign1 (some bytes) key [] := by
  unfold verifySignature Finds Denotes
  simp only [signed, parsed, bind_eq_ok_iff, mapError_eq_ok_iff,
    buildDeviceAuthenticationBytes_eq_ok_iff]
  constructor
  · rintro ⟨_, ⟨⟩, content, extracted, _, ⟨nameSpaces, normalised, embeddable, rfl⟩, tried⟩
    refine ⟨nameSpaces, ⟨content, extracted, normalised⟩, embeddable, ?_⟩
    rw [buildLegacyDeviceAuthenticationBytes_of_normalised normalised] at tried
    split at tried
    case h_1 verified => exact .inl verified
    case h_2 => exact .inr (mapError_eq_ok_iff.mp tried)
  · rintro ⟨nameSpaces, ⟨content, extracted, normalised⟩, embeddable, found⟩
    refine ⟨sign1, rfl, content, extracted, _, ⟨nameSpaces, normalised, embeddable, rfl⟩, ?_⟩
    rw [buildLegacyDeviceAuthenticationBytes_of_normalised normalised]
    split
    case h_1 => rfl
    case h_2 _ failed =>
      rw [failed] at found
      exact mapError_eq_ok_iff.mpr (found.resolve_left (by rintro ⟨⟩))

theorem firstVerified_eq_ok_iff {verify : List UInt8 → Except String Unit} {lastError : String}
    {candidates : List (List UInt8)} :
    firstVerified verify lastError candidates = .ok () ↔
      ∃ candidate ∈ candidates, verify candidate = .ok () := by
  induction candidates generalizing lastError with
  | nil => simp [firstVerified]
  | cons candidate rest ih =>
    rw [firstVerified, exists_mem_cons_iff]
    cases verified : verify candidate with
    | ok _ => simp
    | error error => simpa using ih

theorem DeviceAuthVerifier.verifyMAC_eq_ok_iff {sessionKey : List UInt8} {mac0 : COSEMac0}
    (parsed : parseDeviceMac deviceSigned.deviceAuth.deviceMac = .ok mac0)
    (detached : mac0.payload = none) :
    v.verifyMAC schemes cbor deviceSigned sessionKey = .ok () ↔
      v.Finds cbor deviceSigned.nameSpaces fun bytes =>
        verifyCOSEMac0 schemes cbor mac0 sessionKey (some bytes) [] := by
  unfold verifyMAC Finds Denotes
  simp only [parsed, bind_eq_ok_iff, mapError_eq_ok_iff, buildDeviceAuthenticationBytes_eq_ok_iff]
  constructor
  · rintro ⟨_, ⟨⟩, content, extracted, _, ⟨nameSpaces, normalised, embeddable, rfl⟩, tried⟩
    rw [detached, buildLegacyDeviceAuthenticationBytes_of_normalised normalised] at tried
    obtain ⟨candidate, member, verified⟩ :=
      firstVerified_eq_ok_iff.mp (mapError_eq_ok_iff.mp tried)
    refine ⟨nameSpaces, ⟨content, extracted, normalised⟩, embeddable, ?_⟩
    rcases mem_pair.mp member with rfl | rfl
    · exact .inl verified
    · exact .inr verified
  · rintro ⟨nameSpaces, ⟨content, extracted, normalised⟩, embeddable, found⟩
    refine ⟨mac0, rfl, content, extracted, _, ⟨nameSpaces, normalised, embeddable, rfl⟩, ?_⟩
    rw [detached, buildLegacyDeviceAuthenticationBytes_of_normalised normalised]
    refine mapError_eq_ok_iff.mpr (firstVerified_eq_ok_iff.mpr ?_)
    rcases found with verified | verified
    · exact ⟨_, mem_cons_self, verified⟩
    · exact ⟨_, mem_cons_of_mem _ mem_cons_self, verified⟩

/-- A check that passes for the bytes of one context only. -/
theorem DeviceAuthVerifier.finds_iff (wellFormed : cbor.WellFormed)
    {value : NameSpacesValue} {check : List UInt8 → Except String Unit}
    {sessionTranscript : List UInt8} (embeddable : Embeddable sessionTranscript)
    {docType : String} {nameSpaces : List UInt8}
    (only : ∀ bytes, check bytes = .ok () ↔
      bytes = conformantBytes cbor sessionTranscript docType nameSpaces) :
    v.Finds cbor value check ↔
      v.sessionTranscript = sessionTranscript ∧ v.docType = docType ∧
        value.Denotes cbor nameSpaces := by
  constructor
  · rintro ⟨_, denotes, embeds, found⟩
    rcases found with found | found
    · have same := encodedCBOR_injective (cbor.marshal_inj.mp ((only _).mp found))
      obtain ⟨transcripts, docTypes, rfl⟩ :=
        deviceAuthentication_inj wellFormed embeds embeddable same
      exact ⟨transcripts, docTypes, denotes⟩
    · -- one form is a tag and the other one an array
      exact nomatch cbor.marshal_inj.mp ((only _).mp found)
  · rintro ⟨rfl, rfl, denotes⟩
    exact ⟨nameSpaces, denotes, embeddable, .inl ((only _).mpr rfl)⟩

end Verifying

/-! ## Ideal authenticators -/

section Ideal

variable {Key : Type} {schemes : Schemes Key} {cbor : Codec}

/-- No two messages are verified with the signature. -/
def Schemes.Unforged (schemes : Schemes Key) (key : Key) (signature : List UInt8) : Prop :=
  ∀ algorithm first second, verifySignature schemes first signature key algorithm = .ok () →
    verifySignature schemes second signature key algorithm = .ok () → first = second

/-- No two messages have the code. -/
def Schemes.UnforgedMAC (schemes : Schemes Key) (key tag : List UInt8) : Prop :=
  ∀ hash first second, schemes.hmac hash key first = tag → schemes.hmac hash key second = tag →
    first = second

/-- A detached signature is verified for the bytes that it was made for and no others. -/
theorem verify1_detached_iff (correct : schemes.Correct) {payload : List UInt8} {key : Key}
    {algorithm : Int} {message : COSESign1}
    (own : algorithmForKey (schemes.kind key) = .ok algorithm)
    (made : sign1 schemes cbor payload key algorithm [] [] = .ok message)
    (unforged : schemes.Unforged key message.signature) (bytes : List UInt8) :
    verify1 schemes cbor { message with payload := none } (some bytes) key [] = .ok () ↔
      bytes = payload := by
  have verified := verify1_sign1 correct own made
  constructor
  · intro also
    unfold verify1 at verified also
    rw [bind_eq_ok_iff] at verified also
    obtain ⟨used, header, verified⟩ := verified
    obtain ⟨_, header', also⟩ := also
    cases header.symm.trans header'
    have same := cbor.marshal_inj.mp (unforged _ _ _ also verified)
    simpa [sigStructure, Option.or, nilOrBytes_injective.eq_iff] using same
  · rintro rfl
    exact verified

/-- The same for a message authentication code. -/
theorem verifyCOSEMac0_detached_iff {payload key : List UInt8} {message : COSEMac0}
    (made : mac0 schemes cbor payload key 5 [] = .ok message)
    (unforged : schemes.UnforgedMAC key message.tag) (bytes : List UInt8) :
    verifyCOSEMac0 schemes cbor { message with payload := none } key (some bytes) [] = .ok () ↔
      bytes = payload := by
  obtain ⟨protects, tagged⟩ : message.protectedBytes = algorithmHeader cbor 5 ∧
      message.tag = schemes.hmac .sha256 key
        (cbor.marshal (macStructure message.protectedBytes [] payload)) := by
    cases made
    exact ⟨rfl, rfl⟩
  have header : headerAlgorithm cbor (algorithmHeader cbor 5) = .ok 5 :=
    headerAlgorithm_algorithmHeader cbor (by decide) (by decide)
  have verified : verifyCOSEMac0 schemes cbor { message with payload := none } key (some bytes) [] =
      .ok () ↔ message.tag = schemes.hmac .sha256 key
        (cbor.marshal (macStructure message.protectedBytes [] bytes)) := by
    unfold verifyCOSEMac0
    rw [protects, header]
    exact require_eq_ok_iff
  rw [verified]
  constructor
  · intro same
    have structures := cbor.marshal_inj.mp (unforged _ _ _ same.symm tagged.symm)
    simpa [macStructure, bytesItem_injective.eq_iff] using structures
  · rintro rfl
    exact tagged

end Ideal

/-! ## What the builder makes -/

section Building

variable {Key : Type} {schemes : Schemes Key} {cbor : Codec}

def lastComponent : List Item → List UInt8
  | [_, _, _, last] => (asBytes last).getD []
  | _ => []

/-- The signature or the code of a document. -/
def DeviceAuth.authenticator (deviceAuth : DeviceAuth) : List UInt8 :=
  match deviceAuth.deviceSignature with
  | some (.array _ components) => lastComponent components
  | _ => lastComponent deviceAuth.deviceMac

namespace DeviceAuthBuilder

variable (b : DeviceAuthBuilder Key)

/-- The verifier accepts a document, with the key that the builder has. -/
def AcceptedBy (schemes : Schemes Key) (cbor : Codec)
    (v : DeviceAuthVerifier) (deviceSigned : DeviceSigned) : Prop :=
  if b.useMAC then v.verifyMAC schemes cbor deviceSigned b.sessionKey = .ok ()
  else ∃ key, b.deviceKey = some key ∧ v.verifySignature schemes cbor deviceSigned key = .ok ()

/-- The authenticator of a document is that of one message only. -/
def Unforged (schemes : Schemes Key) (deviceSigned : DeviceSigned) : Prop :=
  if b.useMAC then schemes.UnforgedMAC b.sessionKey deviceSigned.deviceAuth.authenticator
  else ∀ key, b.deviceKey = some key → schemes.Unforged key deviceSigned.deviceAuth.authenticator

/-- A successful `Build` authenticates the bytes of its context. -/
theorem build_eq_ok {b : DeviceAuthBuilder Key} {deviceSigned : DeviceSigned}
    (made : b.build schemes cbor = .ok deviceSigned) :
    ∃ sessionTranscript authenticate, b.sessionTranscript = some sessionTranscript ∧
      Embeddable sessionTranscript ∧ b.method schemes cbor = .ok authenticate ∧
      authenticate (conformantBytes cbor sessionTranscript b.docType (b.encodedNameSpaces cbor)) =
        .ok deviceSigned.deviceAuth := by
  unfold build at made
  cases given : b.sessionTranscript with
  | none =>
    rw [given] at made
    cases made
  | some sessionTranscript =>
    rw [given] at made
    simp only [bind_eq_ok_iff, mapError_eq_ok_iff, buildDeviceAuthenticationBytes_eq_ok_iff] at made
    obtain ⟨authenticate, chosen, _, ⟨nameSpaces, normalised, embeddable, rfl⟩, auth,
      authenticated, done⟩ := made
    cases done
    rw [normaliseDeviceNameSpaces_some normalised] at authenticated
    exact ⟨sessionTranscript, authenticate, rfl, embeddable, chosen, authenticated⟩

end DeviceAuthBuilder

theorem asBytes_null : asBytes (.simple 22) = none :=
  rfl

variable {deviceAuth : DeviceAuth}

variable {nameSpaces : List UInt8}

/-- A signed document is accepted in the context for which it was made and in no other one. -/
theorem DeviceAuthVerifier.verifySignature_created_iff (correct : schemes.Correct)
    (wellFormed : cbor.WellFormed) {key : Key} {sessionTranscript : List UInt8} {docType : String}
    (embeddable : Embeddable sessionTranscript)
    (made : createDeviceSignature schemes cbor key
      (conformantBytes cbor sessionTranscript docType nameSpaces) = .ok deviceAuth)
    (unforged : schemes.Unforged key deviceAuth.authenticator) (v : DeviceAuthVerifier)
    (value : NameSpacesValue) :
    v.verifySignature schemes cbor ⟨value, deviceAuth⟩ key = .ok () ↔
      v.sessionTranscript = sessionTranscript ∧ v.docType = docType ∧
        value.Denotes cbor nameSpaces := by
  simp only [createDeviceSignature, sign1Detached, bind_eq_ok_iff, mapError_eq_ok_iff,
    map_eq_ok_iff] at made
  obtain ⟨algorithm, own, _, ⟨message, signed, rfl⟩, done⟩ := made
  cases done
  have parsed : parseDeviceSignature cbor (.array false [bytesItem message.protectedBytes,
      .map false message.unprotected, .simple 22, bytesItem message.signature]) =
      .ok { message with payload := none } := by
    simp [parseDeviceSignature, mapEntries, asBytes_null]
  rw [verifySignature_eq_ok_iff rfl parsed]
  exact finds_iff wellFormed embeddable (verify1_detached_iff correct own signed
    (by simpa [DeviceAuth.authenticator, lastComponent] using unforged))

theorem DeviceAuthVerifier.verifyMAC_created_iff (wellFormed : cbor.WellFormed)
    {sessionKey sessionTranscript : List UInt8} {docType : String}
    (embeddable : Embeddable sessionTranscript)
    (made : createDeviceMAC schemes cbor sessionKey
      (conformantBytes cbor sessionTranscript docType nameSpaces) = .ok deviceAuth)
    (unforged : schemes.UnforgedMAC sessionKey deviceAuth.authenticator) (v : DeviceAuthVerifier)
    (value : NameSpacesValue) :
    v.verifyMAC schemes cbor ⟨value, deviceAuth⟩ sessionKey = .ok () ↔
      v.sessionTranscript = sessionTranscript ∧ v.docType = docType ∧
        value.Denotes cbor nameSpaces := by
  simp only [createDeviceMAC, bind_eq_ok_iff] at made
  obtain ⟨message, computed, done⟩ := made
  cases done
  have parsed : parseDeviceMac [bytesItem message.protectedBytes, .map false message.unprotected,
      .simple 22, bytesItem message.tag] = .ok { message with payload := none } := by
    simp [parseDeviceMac, mapEntries, asBytes_null]
  rw [verifyMAC_eq_ok_iff parsed rfl]
  exact finds_iff wellFormed embeddable (verifyCOSEMac0_detached_iff computed
    (by simpa [DeviceAuth.authenticator, lastComponent] using unforged))

theorem DeviceAuthBuilder.acceptedBy_iff (correct : schemes.Correct)
    (wellFormed : cbor.WellFormed) {b : DeviceAuthBuilder Key} {deviceSigned : DeviceSigned}
    (made : b.build schemes cbor = .ok deviceSigned) (unforged : b.Unforged schemes deviceSigned)
    (v : DeviceAuthVerifier) (value : NameSpacesValue) :
    b.AcceptedBy schemes cbor v { deviceSigned with nameSpaces := value } ↔
      b.sessionTranscript = some v.sessionTranscript ∧ v.docType = b.docType ∧
        value.Denotes cbor (b.encodedNameSpaces cbor) := by
  obtain ⟨sessionTranscript, authenticate, given, embeddable, chosen, authenticated⟩ :=
    build_eq_ok made
  rw [given, Option.some_inj, @eq_comm _ _]
  unfold method at chosen
  unfold AcceptedBy
  unfold Unforged at unforged
  split at chosen
  · cases chosen
  case h_2 key signs hasKey =>
    cases chosen
    simp only [signs] at unforged ⊢
    rw [← verifySignature_created_iff correct wellFormed embeddable authenticated
      (unforged key hasKey)]
    simp [hasKey]
  case h_3 mac =>
    split_ifs at chosen
    cases chosen
    simp only [mac] at unforged ⊢
    exact verifyMAC_created_iff wellFormed embeddable authenticated unforged v _

end Building

/-- Device authentication binds the session transcript, the document type and the name spaces; and
a session transcript binds the flow with all that it was made of. -/
theorem deviceAuthentication_binds_context {Key : Type} (schemes : Schemes Key)
    (correct : schemes.Correct) (hashed : Function.Injective (schemes.digest .sha256))
    (cbor : Codec) (wellFormed : cbor.WellFormed) :
    (∀ (b : DeviceAuthBuilder Key) (deviceSigned : DeviceSigned),
      b.build schemes cbor = .ok deviceSigned → b.Unforged schemes deviceSigned →
      ∀ (v : DeviceAuthVerifier) (value : NameSpacesValue),
        b.AcceptedBy schemes cbor v { deviceSigned with nameSpaces := value } ↔
          b.sessionTranscript = some v.sessionTranscript ∧ v.docType = b.docType ∧
            value.Denotes cbor (b.encodedNameSpaces cbor)) ∧
    ∀ (first second : Handover) (data : List UInt8), first.Distinguished → second.Distinguished →
      first.transcript schemes cbor = .ok data → second.transcript schemes cbor = .ok data →
      first = second :=
  ⟨fun _ _ made unforged => DeviceAuthBuilder.acceptedBy_iff correct wellFormed made unforged,
    fun _ _ _ firstLabel secondLabel => transcript_inj hashed firstLabel secondLabel⟩

/-! ## A document with a device-signed element -/

/-- Schemes whose Ed25519 signatures show what was signed. -/
def Schemes.transparent : Schemes KeyKind :=
  { ideal with
    ed25519Sign := fun _ data => data
    ed25519Verify := fun _ data signature => signature = data }

theorem Schemes.transparent_correct : transparent.Correct where
  ecdsaLength := ideal_correct.ecdsaLength
  ecdsa := ideal_correct.ecdsa
  ed25519 _ _ := decide_eq_true rfl

theorem Schemes.transparent_unforged (signature : List UInt8) :
    transparent.Unforged .ed25519 signature := by
  have shown : ∀ algorithm data,
      verifySignature transparent data signature .ed25519 algorithm = .ok () →
      signature = data := by
    intro algorithm data verified
    unfold verifySignature at verified
    split at verified
    case h_4 => exact of_decide_eq_true (require_eq_ok_iff.mp verified)
    all_goals cases verified
  intro algorithm first second one two
  exact (shown _ first one).symm.trans (shown _ _ two)

theorem Schemes.transparent_unforgedMAC (key tag : List UInt8) :
    transparent.UnforgedMAC key tag :=
  fun _ _ _ one two => append_cancel_left (one.trans two.symm)

/-- A builder for an element of the device, with a transcript that is the empty array. -/
def ageBuilder (useMAC : Bool) : DeviceAuthBuilder KeyKind where
  docType := "org.iso.18013.5.1.mDL"
  sessionTranscript := some [0x80]
  deviceNameSpaces := [("org.iso.18013.5.1", some [("age_in_years", .unsigned 21)])]
  deviceKey := some .ed25519
  sessionKey := [1]
  useMAC

theorem ageBuilder_unforged (useMAC : Bool) (deviceSigned : DeviceSigned) :
    (ageBuilder useMAC).Unforged transparent deviceSigned := by
  cases useMAC with
  | false =>
    rintro key ⟨⟩
    exact transparent_unforged _
  | true => exact transparent_unforgedMAC _ _

/-- With a signature and with a code: the document is accepted with its transcript and its name
spaces, and not with another transcript or without the name spaces. -/
theorem device_age_bound :
    (∀ useMAC, ∃ deviceSigned,
      (ageBuilder useMAC).build transparent plain.inChunks = .ok deviceSigned ∧
      (ageBuilder useMAC).AcceptedBy transparent plain.inChunks
        ⟨[0x80], "org.iso.18013.5.1.mDL"⟩ deviceSigned ∧
      ¬ (ageBuilder useMAC).AcceptedBy transparent plain.inChunks
        ⟨[0xa0], "org.iso.18013.5.1.mDL"⟩ deviceSigned ∧
      ¬ (ageBuilder useMAC).AcceptedBy transparent plain.inChunks
        ⟨[0x80], "org.iso.18013.5.1.mDL"⟩ { deviceSigned with nameSpaces := .tagged 24 none }) ∧
    (redirect "verifier" "first nonce" "response" none).transcript transparent plain.inChunks ≠
      (redirect "verifier" "second nonce" "response" none).transcript transparent
        plain.inChunks := by
  obtain ⟨documents, transcripts⟩ := deviceAuthentication_binds_context transparent
    transparent_correct (fun _ _ same => same) plain.inChunks
    plain.inChunks_wellFormed
  constructor
  · intro useMAC
    obtain ⟨deviceSigned, made, sent⟩ : ∃ deviceSigned,
        (ageBuilder useMAC).build transparent plain.inChunks = .ok deviceSigned ∧
        deviceSigned.nameSpaces = .tagged 24 (some
          ((ageBuilder useMAC).encodedNameSpaces plain.inChunks)) := by
      cases useMAC <;> exact ⟨_, rfl, rfl⟩
    have bound := documents _ deviceSigned made (ageBuilder_unforged _ _)
    refine ⟨deviceSigned, made, (bound _ deviceSigned.nameSpaces).mpr ⟨rfl, rfl, ?_⟩,
      fun accepted => ?_, fun accepted => ?_⟩
    · exact ⟨_, by rw [sent]; rfl, rfl⟩
    · exact absurd ((bound _ deviceSigned.nameSpaces).mp accepted).1 (by simp [ageBuilder])
    · obtain ⟨_, _, _, ⟨⟩, denotes⟩ := (bound _ _).mp accepted
      revert denotes
      cases useMAC <;> decide
  · intro same
    have flows := transcripts (.redirect "verifier" "first nonce" "response" none)
      (.redirect "verifier" "second nonce" "response" none) _ trivial trivial rfl same.symm
    exact absurd flows (by decide)

end Vc.Iso18013
