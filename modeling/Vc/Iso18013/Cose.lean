import Vc.Tokenstatuslist.Signing

/-!
# COSE messages of mobile documents

`pkg/mdoc/cose.go`: signed and authenticated messages, and the certificates that
travel with a signature.  A value that Go holds in an `any` is a CBOR data item.
The schemes themselves and the parser of certificates are parameters.
-/

namespace Vc.Iso18013

open Checks Tokenstatuslist Cbor

/-! ## Keys and schemes -/

/-- Signatures, message authentication codes and hash functions. -/
structure Schemes (Key : Type) where
  kind : Key → KeyKind
  /-- `ecdsa.Sign`, as the two numbers in the length of the curve -/
  ecdsaSign : Key → Hash → List UInt8 → List UInt8
  ecdsaVerify : Key → Hash → List UInt8 → List UInt8 → Bool
  ed25519Sign : Key → List UInt8 → List UInt8
  ed25519Verify : Key → List UInt8 → List UInt8 → Bool
  hmac : Hash → List UInt8 → List UInt8 → List UInt8
  digest : Hash → List UInt8 → List UInt8

/-- A key verifies what it signed. -/
structure Schemes.Correct {Key : Type} (schemes : Schemes Key) : Prop where
  ecdsaLength : ∀ {key curve}, schemes.kind key = .ecdsa curve → ∀ hash data,
    (schemes.ecdsaSign key hash data).length = 2 * curve.byteLen
  ecdsa : ∀ {key curve}, schemes.kind key = .ecdsa curve → ∀ hash data,
    schemes.ecdsaVerify key hash data (schemes.ecdsaSign key hash data) = true
  ed25519 : ∀ key data, schemes.ed25519Verify key data (schemes.ed25519Sign key data) = true

/-- Schemes with one key of each kind, whose signatures tell who made them. -/
def Schemes.ideal : Schemes KeyKind where
  kind key := key
  ecdsaSign := Crypto.ideal.ecdsaSign
  ecdsaVerify := Crypto.ideal.ecdsaVerify
  ed25519Sign key _ := [key.code]
  ed25519Verify key _ signature := signature = [key.code]
  hmac _ key data := key ++ data
  digest _ data := data

theorem Schemes.ideal_correct : Schemes.ideal.Correct where
  ecdsaLength := Crypto.ideal_sound.ecdsaLength
  ecdsa kind hash data := (Crypto.ideal_sound.ecdsa kind _ hash data).mpr rfl
  ed25519 _ _ := decide_eq_true rfl

def algorithmForKey : KeyKind → Except String Int
  | .ecdsa .p256 => .ok (-7)
  | .ecdsa .p384 => .ok (-35)
  | .ecdsa .p521 => .ok (-36)
  | .ecdsa .p224 => .error "unsupported ECDSA curve"
  | .ed25519 => .ok (-8)
  | .rsa => .error "unsupported key type: *rsa.PublicKey"

section Messages

variable {Key : Type} (schemes : Schemes Key) (cbor : Codec)

/-- An ECDSA signature under some algorithm.  Keys of other types give no such signature. -/
def signECDSA (key : Key) (hash : Hash) (data : List UInt8) : Except String (List UInt8) :=
  match schemes.kind key with
  | .ecdsa _ => .ok (schemes.ecdsaSign key hash data)
  | _ => .error "invalid ASN.1 ECDSA signature"

def signPayload (data : List UInt8) (signer : Key) (algorithm : Int) : Except String (List UInt8) :=
  match algorithm with
  | -7 => signECDSA schemes signer .sha256 data
  | -35 => signECDSA schemes signer .sha384 data
  | -36 => signECDSA schemes signer .sha512 data
  | -8 => .ok (schemes.ed25519Sign signer data)
  | _ => .error ("unsupported algorithm: " ++ toString algorithm)

/-- `verifyECDSA`.  A key of another type makes the assertion before it panic. -/
def verifyECDSA (data signature : List UInt8) (pubKey : Key) (hash : Hash) (byteLen : Nat) :
    Except String Unit :=
  match schemes.kind pubKey with
  | .ecdsa _ => do
    require (signature.length = byteLen * 2) "invalid signature length"
    require (schemes.ecdsaVerify pubKey hash data signature = true)
      "signature verification failed"
  | _ => .error "panic: interface conversion"

def verifySignature (data signature : List UInt8) (pubKey : Key) (algorithm : Int) :
    Except String Unit :=
  match algorithm with
  | -7 => verifyECDSA schemes data signature pubKey .sha256 32
  | -35 => verifyECDSA schemes data signature pubKey .sha384 48
  | -36 => verifyECDSA schemes data signature pubKey .sha512 66
  | -8 =>
    match schemes.kind pubKey with
    | .ed25519 => require (schemes.ed25519Verify pubKey data signature = true)
        "EdDSA signature verification failed"
    | _ => .error "panic: interface conversion"
  | _ => .error ("unsupported algorithm: " ++ toString algorithm)

variable {algorithm : Int}

/-- The signature of a key under its own algorithm is verified. -/
theorem verifySignature_signPayload (correct : schemes.Correct) {key : Key}
    {data signature : List UInt8} (own : algorithmForKey (schemes.kind key) = .ok algorithm)
    (signed : signPayload schemes data key algorithm = .ok signature) :
    verifySignature schemes data signature key algorithm = .ok () := by
  cases kind : schemes.kind key with
  | rsa =>
    rw [kind] at own
    exact absurd own nofun
  | ed25519 =>
    rw [kind] at own
    cases own
    cases signed
    simp only [verifySignature, kind]
    exact require_eq_ok_iff.mpr (correct.ed25519 key _)
  | ecdsa curve =>
    have length := fun hash => correct.ecdsaLength kind hash data
    have verified := fun hash => correct.ecdsa kind hash data
    rw [kind] at own
    cases curve <;> cases own
    all_goals
      simp only [signPayload, signECDSA, kind] at signed
      cases signed
      simp [verifySignature, verifyECDSA, kind, length, Curve.byteLen, verified]

/-! ## COSE_Sign1 -/

/-- `COSESign1`; an absent payload is detached. -/
structure COSESign1 where
  protectedBytes : List UInt8
  unprotected : List (Item × Item)
  payload : Option (List UInt8)
  signature : List UInt8

/-- Bytes, or nothing. -/
def nilOrBytes : Option (List UInt8) → Item
  | none => .simple 22
  | some bytes => bytesItem bytes

def sigStructure (protectedBytes externalAAD : List UInt8) (payload : Option (List UInt8)) :
    Item :=
  .array false [textItem "Signature1", bytesItem protectedBytes, bytesItem externalAAD,
    nilOrBytes payload]

/-- The protected headers of a message. -/
def algorithmHeader (algorithm : Int) : List UInt8 :=
  cbor.marshal (.map false [(intItem 1, intItem algorithm)])

def sign1 (payload : List UInt8) (signer : Key) (algorithm : Int) (x5chain : List (List UInt8))
    (externalAAD : List UInt8) : Except String COSESign1 := do
  let protectedBytes := algorithmHeader cbor algorithm
  let toBeSigned := cbor.marshal (sigStructure protectedBytes externalAAD (some payload))
  let signature ← (signPayload schemes toBeSigned signer algorithm).mapError
    ("signing failed: " ++ ·)
  return {
    protectedBytes
    unprotected := if x5chain = [] then [] else [(intItem 33, .array false (x5chain.map bytesItem))]
    payload := some payload
    signature }

def sign1Detached (payload : List UInt8) (signer : Key) (algorithm : Int)
    (x5chain : List (List UInt8)) (externalAAD : List UInt8) : Except String COSESign1 :=
  (sign1 schemes cbor payload signer algorithm x5chain externalAAD).map fun result =>
    { result with payload := none }

def headerAlgorithm (protectedBytes : List UInt8) : Except String Int := do
  let headers ← (decodeIntMap cbor protectedBytes).mapError
    ("failed to decode protected headers: " ++ ·)
  match headers.lookup 1 with
  | none => .error "missing algorithm in protected headers"
  | some (.unsigned value) =>
    if value < 2 ^ 63 then .ok value else .error "algorithm value overflow"
  | some (.negative value) =>
    if value < 2 ^ 63 then .ok (-1 - value) else .error "invalid algorithm type"
  | some _ => .error "invalid algorithm type"

def verify1 (message : COSESign1) (payload : Option (List UInt8)) (pubKey : Key)
    (externalAAD : List UInt8) : Except String Unit := do
  let algorithm ← headerAlgorithm cbor message.protectedBytes
  let toBeSigned := cbor.marshal (sigStructure message.protectedBytes externalAAD
    (payload.or message.payload))
  verifySignature schemes toBeSigned message.signature pubKey algorithm

theorem decodeIntMap_algorithmHeader (algorithm : Int) :
    decodeIntMap cbor (algorithmHeader cbor algorithm) = .ok [(1, intItem algorithm)] := by
  unfold decodeIntMap algorithmHeader
  rw [cbor.lossless]
  rfl

theorem headerAlgorithm_algorithmHeader (low : -2 ^ 63 ≤ algorithm) (high : algorithm < 2 ^ 63) :
    headerAlgorithm cbor (algorithmHeader cbor algorithm) = .ok algorithm := by
  unfold headerAlgorithm
  rw [decodeIntMap_algorithmHeader]
  by_cases natural : 0 ≤ algorithm
  · have read : intItem algorithm = .unsigned algorithm.toNat := if_pos natural
    have small : algorithm.toNat < 2 ^ 63 := by omega
    rw [read]
    exact (if_pos small).trans (congrArg Except.ok (Int.toNat_of_nonneg natural))
  · have read : intItem algorithm = .negative (-1 - algorithm).toNat := if_neg natural
    have small : (-1 - algorithm).toNat < 2 ^ 63 := by omega
    rw [read]
    exact (if_pos small).trans (congrArg Except.ok (by omega))

theorem algorithmForKey_bounds {kind : KeyKind}
    (own : algorithmForKey kind = .ok algorithm) : -2 ^ 63 ≤ algorithm ∧ algorithm < 2 ^ 63 := by
  rcases kind with (_ | _ | _ | _) | _ | _ <;> cases own <;> decide

variable {schemes cbor} {signer : Key} {x5chain : List (List UInt8)} {externalAAD : List UInt8}
  {payload : List UInt8}

variable {message : COSESign1}

theorem sign1_eq_ok
    (signed : sign1 schemes cbor payload signer algorithm x5chain externalAAD = .ok message) :
    message.protectedBytes = algorithmHeader cbor algorithm ∧ message.payload = some payload ∧
      message.unprotected = (if x5chain = [] then []
        else [(intItem 33, .array false (x5chain.map bytesItem))]) ∧
      signPayload schemes (cbor.marshal (sigStructure (algorithmHeader cbor algorithm) externalAAD
        (some payload))) signer algorithm = .ok message.signature := by
  simp only [sign1, bind_eq_ok_iff, mapError_eq_ok_iff] at signed
  obtain ⟨signature, made, done⟩ := signed
  cases done
  exact ⟨rfl, rfl, rfl, made⟩

theorem exists_sign1
    (signs : ∀ data, ∃ signature, signPayload schemes data signer algorithm = .ok signature)
    (cbor : Codec) (payload : List UInt8) (x5chain : List (List UInt8))
    (externalAAD : List UInt8) :
    ∃ message, sign1 schemes cbor payload signer algorithm x5chain externalAAD = .ok message := by
  obtain ⟨signature, made⟩ := signs (cbor.marshal (sigStructure (algorithmHeader cbor algorithm)
    externalAAD (some payload)))
  simp only [sign1, made]
  exact ⟨_, rfl⟩

/-- A message is verified under the key that signed it. -/
theorem verify1_sign1 (correct : schemes.Correct)
    (own : algorithmForKey (schemes.kind signer) = .ok algorithm)
    (signed : sign1 schemes cbor payload signer algorithm x5chain externalAAD = .ok message) :
    verify1 schemes cbor message (some payload) signer externalAAD = .ok () := by
  obtain ⟨header, _, _, made⟩ := sign1_eq_ok signed
  obtain ⟨low, high⟩ := algorithmForKey_bounds own
  unfold verify1
  rw [header, headerAlgorithm_algorithmHeader _ low high]
  exact verifySignature_signPayload _ correct own made

/-! ## COSE_Mac0 -/

/-- `COSEMac0`; an absent payload is detached. -/
structure COSEMac0 where
  protectedBytes : List UInt8
  unprotected : List (Item × Item)
  payload : Option (List UInt8)
  tag : List UInt8

def macStructure (protectedBytes externalAAD payload : List UInt8) : Item :=
  .array false [textItem "MAC0", bytesItem protectedBytes, bytesItem externalAAD, bytesItem payload]

variable (schemes cbor)

/-- `computeMAC`; each code has the length of its hash. -/
def computeMAC (data key : List UInt8) (algorithm : Int) : Except String (List UInt8) :=
  match algorithm with
  | 5 => .ok (schemes.hmac .sha256 key data)
  | 6 => .ok (schemes.hmac .sha384 key data)
  | 7 => .ok (schemes.hmac .sha512 key data)
  | _ => .error ("unsupported MAC algorithm: " ++ toString algorithm)

def mac0 (payload key : List UInt8) (algorithm : Int) (externalAAD : List UInt8) :
    Except String COSEMac0 := do
  let protectedBytes := algorithmHeader cbor algorithm
  let toMAC := cbor.marshal (macStructure protectedBytes externalAAD payload)
  let tag ← (computeMAC schemes toMAC key algorithm).mapError ("MAC computation failed: " ++ ·)
  return {
    protectedBytes
    unprotected := []
    payload := some payload
    tag }

def verifyCOSEMac0 (message : COSEMac0) (key : List UInt8) (detachedPayload : Option (List UInt8))
    (externalAAD : List UInt8) : Except String Unit := do
  let algorithm ← headerAlgorithm cbor message.protectedBytes
  match message.payload.or detachedPayload with
  | none => .error ("COSE_Mac0 has neither an attached nor a detached payload, " ++
      "so there is nothing it authenticates")
  | some payload => do
    let toMAC := cbor.marshal (macStructure message.protectedBytes externalAAD payload)
    let expectedTag ← computeMAC schemes toMAC key algorithm
    require (message.tag = expectedTag) "MAC verification failed"

end Messages

/-! ## Certificates -/

/-- What is read of an X.509 certificate.  A URI is its scheme and what follows it. -/
structure Certificate (Key : Type) where
  raw : List UInt8
  publicKey : Key
  notBefore : Int
  notAfter : Int
  uris : List (String × String)
  dnsNames : List String
  organization : List String
  country : List String
  commonName : String
  issuerCommonName : String

/-- The last value under a key that satisfies a condition. -/
def valueUnder (condition : Item → Bool) (entries : List (Item × Item)) :
    Option Item :=
  (entries.reverse.find? fun entry => condition entry.1).map Prod.snd

def lookupUnprotectedHeader (entries : List (Item × Item)) (label : Int) :
    Option Item :=
  (valueUnder (fun key => asInt key = some label) entries).or
    (valueUnder (fun key => asString key = some (toString label)) entries)

/-- The bytes of the certificates of an `x5chain` header. -/
def chainBytes : Item → Except String (List (List UInt8))
  | .bytes _ chunks => .ok [chunks.flatten]
  | .array _ elements =>
    match elements.mapM asBytes with
    | none => .error "invalid certificate in x5chain"
    | some certificates => .ok certificates
  | _ => .error "invalid x5chain type"

section Chain

variable {Key : Type} (cbor : Codec)
  (parseCertificate : List UInt8 → Except String (Certificate Key))

/-- The `x5chain` header: the unprotected one, and otherwise the protected one. -/
def x5chainOf (message : COSESign1) : Except String Item :=
  match (lookupUnprotectedHeader message.unprotected 33).or
      (lookupUnprotectedHeader message.unprotected 34) with
  | some raw => .ok raw
  | none => do
    let headers ← (decodeIntMap cbor message.protectedBytes).mapError
      ("failed to decode protected headers: " ++ ·)
    match (headers.lookup 33).or (headers.lookup 34) with
    | some raw => .ok raw
    | none => .error "no x5chain in headers"

def getCertificateChainFromSign1 (message : COSESign1) :
    Except String (List (Certificate Key)) := do
  let raw ← x5chainOf cbor message
  let certificates ← chainBytes raw
  certificates.mapM fun bytes =>
    (parseCertificate bytes).mapError ("failed to parse certificate: " ++ ·)

/-- The chain that `Sign1` attached is found again. -/
theorem getCertificateChainFromSign1_attached {chain : List (Certificate Key)}
    (parses : ∀ certificate ∈ chain, parseCertificate certificate.raw = .ok certificate)
    {message : COSESign1}
    (attached : message.unprotected =
      [(intItem 33, .array false ((chain.map Certificate.raw).map bytesItem))]) :
    getCertificateChainFromSign1 cbor parseCertificate message = .ok chain := by
  have header : x5chainOf cbor message =
      .ok (.array false ((chain.map Certificate.raw).map bytesItem)) := by
    unfold x5chainOf
    rw [attached]
    rfl
  have bytes : chainBytes (.array false ((chain.map Certificate.raw).map bytesItem)) =
      .ok (chain.map Certificate.raw) := by
    rw [chainBytes, Entries.mapM_map_of_back asBytes_bytesItem]
  refine bind_eq_ok_iff.mpr ⟨_, header, bind_eq_ok_iff.mpr ⟨_, bytes, mapM_eq_ok_iff.mpr ?_⟩⟩
  rw [List.forall₂_map_left_iff, List.forall₂_same]
  exact fun certificate member => mapError_eq_ok_iff.mpr (parses _ member)

end Chain

end Vc.Iso18013
