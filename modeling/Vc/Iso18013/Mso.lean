import Vc.Iso18013.Cose

/-!
# The Mobile Security Object

`pkg/mdoc/mso.go`: the builder collects data elements, numbers them for each name
space, and signs their digests; `VerifyMSO` and `VerifyDigest` are the other side.
The encodings of items and of the Mobile Security Object are formats, which are
lossless.  Instants are in nanoseconds.
-/

namespace Vc.Iso18013

open Checks Entries Tokenstatuslist Cbor Option

structure COSEKey where
  kty : Int
  alg : Int
  crv : Int
  x : List UInt8
  y : List UInt8
  deriving DecidableEq

/-- `IssuerSignedItem`, and `MSOIssuerSignedItem`, which has the same encoding. -/
structure IssuerSignedItem where
  digestID : Nat
  random : List UInt8
  elementIdentifier : String
  elementValue : Item

structure MobileSecurityObject where
  version : String
  digestAlgorithm : String
  valueDigests : List (String × List (Nat × List UInt8))
  deviceKey : COSEKey
  docType : String
  signed : Int
  validFrom : Int
  validUntil : Int

/-- The encodings that are used.  `mso` gives every time back, even those after the year 9999,
which a text of RFC 3339 does not carry. -/
structure Formats where
  cbor : Codec
  item : Format IssuerSignedItem
  mso : Format MobileSecurityObject

section Plain

def IssuerSignedItem.toItem (item : IssuerSignedItem) : Item :=
  .map false [(textItem "random", bytesItem item.random),
    (textItem "digestID", .unsigned item.digestID),
    (textItem "elementValue", item.elementValue),
    (textItem "elementIdentifier", textItem item.elementIdentifier)]

def IssuerSignedItem.ofItem : Item → Except String IssuerSignedItem
  | .map _ [(_, random), (_, .unsigned digestID), (_, elementValue), (_, identifier)] =>
    match asBytes random, asString identifier with
    | some random, some elementIdentifier =>
      .ok ⟨digestID, random, elementIdentifier, elementValue⟩
    | _, _ => .error "cbor: cannot unmarshal into Go struct field"
  | _ => .error "cbor: cannot unmarshal into Go value of type mdoc.IssuerSignedItem"

theorem IssuerSignedItem.ofItem_toItem (item : IssuerSignedItem) :
    ofItem item.toItem = .ok item := by
  simp [ofItem, toItem]

/-- An integer of any size. -/
def anyInt : Item → Option Int
  | .unsigned value => some value
  | .negative value => some (-1 - value)
  | _ => none

theorem anyInt_intItem (value : Int) : anyInt (intItem value) = some value := by
  unfold intItem
  split_ifs with natural
  · exact congrArg _ (Int.toNat_of_nonneg natural)
  · exact congrArg some (by omega)

def digestsItem (digests : List (Nat × List UInt8)) : Item :=
  .map false (digests.map fun digest => (.unsigned digest.1, bytesItem digest.2))

def asDigests : Item → Option (List (Nat × List UInt8))
  | .map _ entries => entries.mapM fun
      | (.unsigned digestID, digest) => (asBytes digest).map (digestID, ·)
      | _ => none
  | _ => none

theorem asDigests_digestsItem (digests : List (Nat × List UInt8)) :
    asDigests (digestsItem digests) = some digests :=
  mapM_map_of_back (fun digest => by simp) _

def MobileSecurityObject.toItem (mso : MobileSecurityObject) : Item :=
  .array false [textItem mso.version, textItem mso.digestAlgorithm,
    .map false (mso.valueDigests.map fun entry => (textItem entry.1, digestsItem entry.2)),
    .array false [intItem mso.deviceKey.kty, intItem mso.deviceKey.alg, intItem mso.deviceKey.crv,
      bytesItem mso.deviceKey.x, bytesItem mso.deviceKey.y],
    textItem mso.docType,
    intItem mso.signed,
    intItem mso.validFrom,
    intItem mso.validUntil]

def MobileSecurityObject.ofItem? : Item → Option MobileSecurityObject
  | .array _ [version, digestAlgorithm, .map _ valueDigests, .array _ [kty, alg, crv, x, y],
      docType, signed, validFrom, validUntil] => do
      let valueDigests ← valueDigests.mapM fun entry => do
        return (← asString entry.1, ← asDigests entry.2)
      return {
        version := ← asString version
        digestAlgorithm := ← asString digestAlgorithm
        valueDigests
        deviceKey := {
          kty := ← anyInt kty
          alg := ← anyInt alg
          crv := ← anyInt crv
          x := ← asBytes x
          y := ← asBytes y }
        docType := ← asString docType
        signed := ← anyInt signed
        validFrom := ← anyInt validFrom
        validUntil := ← anyInt validUntil }
  | _ => none

theorem MobileSecurityObject.ofItem?_toItem (mso : MobileSecurityObject) :
    ofItem? mso.toItem = some mso := by
  have digests := mapM_map_of_back
    (f := fun entry : Item × Item => do
      return (← asString entry.1, ← asDigests entry.2))
    (g := fun entry : String × List (Nat × List UInt8) => (textItem entry.1, digestsItem entry.2))
    (fun entry => by simp [asDigests_digestsItem]) mso.valueDigests
  simp only [ofItem?, toItem, digests, asString_textItem, asBytes_bytesItem, anyInt_intItem]
  rfl

/-- Formats that can be evaluated. -/
def Formats.plain : Formats where
  cbor := Cbor.plain
  item := Cbor.plain.format IssuerSignedItem.toItem IssuerSignedItem.ofItem
    IssuerSignedItem.ofItem_toItem
  mso := Cbor.plain.format MobileSecurityObject.toItem
    (fun item => (MobileSecurityObject.ofItem? item).elim
      (.error "cbor: cannot unmarshal into Go value of type mdoc.MobileSecurityObject") .ok)
    fun mso => by rw [MobileSecurityObject.ofItem?_toItem, elim_some]

end Plain

/-- The hash function of a digest algorithm. -/
def hashFor : String → Option Hash
  | "SHA-256" => some .sha256
  | "SHA-384" => some .sha384
  | "SHA-512" => some .sha512
  | _ => none

def encodedCBOR (content : List UInt8) : Item :=
  .tag 24 (bytesItem content)

/-! ## Building -/

/-- `MSOBuilder`; a zero time is absent, and so is a nil key. -/
structure MSOBuilder (Key : Type) where
  docType : String
  digestAlgorithm : String := "SHA-256"
  validFrom : Option Int := none
  validUntil : Option Int := none
  deviceKey : Option COSEKey := none
  signerKey : Option Key := none
  certChain : List (Certificate Key) := []
  namespaces : List (String × List IssuerSignedItem) := []
  digestIDCounter : List (String × Nat) := []
  saltBytes : Int := 0

section Build

variable {Key : Type} (schemes : Schemes Key) (formats : Formats)

/-- The length of the salt of an element. -/
def MSOBuilder.saltSize (b : MSOBuilder Key) (elementID : String) : Nat :=
  if 0 < b.saltBytes then b.saltBytes.toNat
  else if elementID = "pseudonym_seed" then 8
  else 16

/-- `AddDataElement`, with the bytes that `rand.Read` gives for a length. -/
def MSOBuilder.addDataElement (b : MSOBuilder Key) (nameSpace elementID : String)
    (value : Item) (random : Nat → List UInt8) : Except String (MSOBuilder Key) := do
  require (b.saltBytes = 0 ∨ 8 ≤ b.saltBytes ∧ b.saltBytes ≤ 64)
    ("unsupported salt size " ++ toString b.saltBytes ++
      ": must be 0 (default sizing) or within [8, 64]")
  let digestID := (b.digestIDCounter.lookup nameSpace).getD 0
  let item : IssuerSignedItem := {
    digestID
    random := random (b.saltSize elementID)
    elementIdentifier := elementID
    elementValue := value }
  return { b with
    digestIDCounter := put nameSpace (digestID + 1) b.digestIDCounter
    namespaces := put nameSpace ((b.namespaces.lookup nameSpace).getD [] ++ [item]) b.namespaces }

def computeDigest (digestAlgorithm : String) (data : List UInt8) : Except String (List UInt8) :=
  match hashFor digestAlgorithm with
  | some hash => .ok (schemes.digest hash data)
  | none => .error ("unsupported digest algorithm: " ++ digestAlgorithm)

/-- An item of a name space: its wrapper, and its digest under the digest identifier. -/
def digestItem (digestAlgorithm : String) (item : IssuerSignedItem) :
    Except String (Item × Nat × List UInt8) := do
  let wrapper := encodedCBOR (formats.item.marshal item)
  let digest ← (computeDigest schemes digestAlgorithm (formats.cbor.marshal wrapper)).mapError
    ("failed to compute digest for " ++ item.elementIdentifier ++ ": " ++ ·)
  return (wrapper, item.digestID, digest)

/-- An instant without the part of its second, as a date-time text has it. -/
def wholeSecond (instant : Int) : Int :=
  instant / 10 ^ 9 * 10 ^ 9

/-- `Build` at an instant. -/
def MSOBuilder.build (b : MSOBuilder Key) (now : Int) :
    Except String (COSESign1 × List (String × List Item)) :=
  match b.signerKey, b.deviceKey, b.validFrom, b.validUntil with
  | none, _, _, _ => .error "signer key is required"
  | some _, none, _, _ => .error "device key is required"
  | some _, some _, none, _ | some _, some _, some _, none => .error "validity period is required"
  | some signerKey, some deviceKey, some validFrom, some validUntil => do
    let digested ← b.namespaces.mapM fun entry => do
      let items ← entry.2.mapM (digestItem schemes formats b.digestAlgorithm)
      return (entry.1, items)
    let mso : MobileSecurityObject := {
      version := "1.0"
      digestAlgorithm := b.digestAlgorithm
      docType := b.docType
      valueDigests := digested.map fun entry =>
        (entry.1, entry.2.foldl (fun digests item => put item.2.1 item.2.2 digests) [])
      deviceKey
      signed := wholeSecond now
      validFrom := wholeSecond validFrom
      validUntil := wholeSecond validUntil }
    let msoTaggedBytes := formats.cbor.marshal (encodedCBOR (formats.mso.marshal mso))
    let algorithm ← (algorithmForKey (schemes.kind signerKey)).mapError
      ("failed to determine algorithm: " ++ ·)
    let signedMSO ← (sign1 schemes formats.cbor msoTaggedBytes signerKey algorithm
      (b.certChain.map Certificate.raw) []).mapError ("failed to sign MSO: " ++ ·)
    return (signedMSO, digested.map fun entry => (entry.1, entry.2.map Prod.fst))

/-! ## Verifying -/

/-- The content of a payload in encoded CBOR, and any other payload as it is. -/
def unwrapped (cbor : Codec) (payload : List UInt8) : List UInt8 :=
  match cbor.unmarshal payload with
  | .ok (.tag 24 content) => (asBytes content).getD payload
  | _ => payload

def verifyMSO (signedMSO : COSESign1) (issuerCert : Certificate Key) :
    Except String MobileSecurityObject := do
  (verify1 schemes formats.cbor signedMSO signedMSO.payload issuerCert.publicKey []).mapError
    ("MSO signature verification failed: " ++ ·)
  (formats.mso.unmarshal (unwrapped formats.cbor (signedMSO.payload.getD []))).mapError
    ("failed to decode MSO: " ++ ·)

variable {schemes formats}

theorem unwrapped_encodedCBOR (cbor : Codec) (content : List UInt8) :
    unwrapped cbor (cbor.marshal (encodedCBOR content)) = content := by
  unfold unwrapped
  rw [cbor.lossless]
  exact congrArg (getD · _) (asBytes_bytesItem _)

variable {mso : MobileSecurityObject}

/-- The Mobile Security Object that was signed is read back under a certificate for the key. -/
theorem verifyMSO_sign1 (correct : schemes.Correct) {signer : Key}
    {algorithm : Int} {x5chain : List (List UInt8)} {signedMSO : COSESign1}
    {issuerCert : Certificate Key} (own : algorithmForKey (schemes.kind signer) = .ok algorithm)
    (signed : sign1 schemes formats.cbor
      (formats.cbor.marshal (encodedCBOR (formats.mso.marshal mso))) signer algorithm x5chain [] =
        .ok signedMSO)
    (certified : issuerCert.publicKey = signer) :
    verifyMSO schemes formats signedMSO issuerCert = .ok mso := by
  obtain ⟨_, payload, _, _⟩ := sign1_eq_ok signed
  have verified := verify1_sign1 correct own signed
  unfold verifyMSO
  rw [payload, certified, verified, getD_some, unwrapped_encodedCBOR, formats.mso.lossless]
  rfl

variable (schemes formats)

def verifyDigest (mso : MobileSecurityObject) (nameSpace : String) :
    Item → Except String Unit
  | .tag number content => do
    require (number = 24) ("expected 24, got " ++ toString number)
    match asBytes content with
    | none => .error "tag content is not bytes"
    | some contentBytes => do
      let item ← (formats.item.unmarshal contentBytes).mapError
        ("failed to peek into item: " ++ ·)
      match mso.valueDigests.lookup nameSpace with
      | none => .error ("namespace " ++ nameSpace ++ " not found in MSO")
      | some nsDigests =>
        match nsDigests.lookup item.digestID with
        | none => .error ("digest ID " ++ toString item.digestID ++ " not found in MSO")
        | some expectedDigest => do
          let actualDigest ← computeDigest schemes mso.digestAlgorithm
            (formats.cbor.marshal (encodedCBOR contentBytes))
          require (actualDigest = expectedDigest)
            ("digest mismatch for " ++ item.elementIdentifier ++ " (ID " ++
              toString item.digestID ++ ")")
  | _ => .error "expected cbor.Tag"

theorem verifyDigest_eq_ok_iff {nameSpace : String} {anyItem : Item} :
    verifyDigest schemes formats mso nameSpace anyItem = .ok () ↔
      ∃ content contentBytes item nsDigests,
        anyItem = .tag 24 content ∧ asBytes content = some contentBytes ∧
        formats.item.unmarshal contentBytes = .ok item ∧
        mso.valueDigests.lookup nameSpace = some nsDigests ∧
        ∃ digest, nsDigests.lookup item.digestID = some digest ∧
          computeDigest schemes mso.digestAlgorithm
            (formats.cbor.marshal (encodedCBOR contentBytes)) = .ok digest := by
  constructor
  · intro passed
    unfold verifyDigest at passed
    split at passed
    · next number content =>
      simp only [bind_eq_ok_iff, require_eq_ok_iff] at passed
      obtain ⟨_, rfl, passed⟩ := passed
      split at passed
      · cases passed
      · next contentBytes bytes =>
        simp only [bind_eq_ok_iff, mapError_eq_ok_iff] at passed
        obtain ⟨item, decoded, passed⟩ := passed
        split at passed
        · cases passed
        · next nsDigests here =>
          split at passed
          · cases passed
          · next digest found =>
            simp only [bind_eq_ok_iff, require_eq_ok_iff] at passed
            obtain ⟨_, computed, rfl⟩ := passed
            exact ⟨content, contentBytes, item, nsDigests, rfl, bytes, decoded, here, _, found,
              computed⟩
    · cases passed
  · rintro ⟨content, contentBytes, item, nsDigests, rfl, bytes, decoded, here, digest, found,
      computed⟩
    simp [verifyDigest, bytes, decoded, here, found, computed, Except.mapError]

def validateMSOValidity (mso : MobileSecurityObject) (now : Int) : Except String Unit := do
  require (mso.validFrom ≤ now) ("MSO not yet valid, valid from: " ++ toString mso.validFrom)
  require (now ≤ mso.validUntil) ("MSO expired, valid until: " ++ toString mso.validUntil)

end Build

end Vc.Iso18013
