import Vc.Cbor.Completeness
import Vc.Cbor.Decode
import Vc.Iso18013.SessionTranscript
import Vc.Iso18013.Verifier

/-!
# Device authentication

`pkg/mdoc/device_auth.go` and `pkg/mdoc/device_auth_bytes.go`.  A device signs or
authenticates the session transcript, the document type and its own name spaces.
The transcript is encoded already and stands among the other parts as it is.
The verifier rebuilds the bytes, in the form of the standard and in an older one.
-/

namespace Vc.Iso18013

open Checks Tokenstatuslist Cbor

/-! ## The authenticated bytes -/

/-- The mode of `cbor.Unmarshal` -/
def defaultMode : Mode := ⟨true, 32, 131072, 131072⟩

/-- The mode in which an encoder checks a raw message. -/
def rawMessageMode : Mode := ⟨false, 65535, 2147483647, 2147483647⟩

/-- The data is decoded into a raw message. -/
def decodesRaw (data : List UInt8) : Bool :=
  match readItem defaultMode data with
  | .ok (item, []) => (decodeRaw item).isOk
  | _ => false

/-- The data is encoded as a raw message. -/
def encodesRaw (data : List UInt8) : Bool :=
  match readItem rawMessageMode data with
  | .ok (item, []) => everyTagValid item
  | _ => false

section Bytes

variable (cbor : Codec)

/-- `normaliseDeviceNameSpaces`; a nil slice is absent. -/
def normaliseDeviceNameSpaces : Option (List UInt8) → Except String (List UInt8)
  | none => .ok (cbor.marshal (.map false []))
  | some [] => .error ("device namespaces are present but empty, which is not a " ++
      "DeviceNameSpaces encoding; reconstructing from a substituted value would authenticate " ++
      "bytes the presentation does not carry")
  | some (first :: rest) => .ok (first :: rest)

variable (sessionTranscript : List UInt8)

/-- `DeviceAuthentication`: an array of four elements, the second one as it is. -/
def deviceAuthentication (docType : String) (deviceNameSpaces : List UInt8) : List UInt8 :=
  initialByte 4 4 :: (cbor.marshal (textItem "DeviceAuthentication") ++
    (sessionTranscript ++ (cbor.marshal (textItem docType) ++
      cbor.marshal (encodedCBOR deviceNameSpaces))))

def buildDeviceAuthenticationBytes (docType : String)
    (deviceNameSpaces : Option (List UInt8)) : Except String (List UInt8) := do
  let deviceNameSpaces ← normaliseDeviceNameSpaces cbor deviceNameSpaces
  require (sessionTranscript ≠ []) "device authentication needs a session transcript"
  require (decodesRaw sessionTranscript = true) ("the session transcript is not a CBOR item, " ++
    "so it cannot be embedded in DeviceAuthentication (ISO 18013-5 9.1.3.4)")
  require (encodesRaw sessionTranscript = true) ("encoding DeviceAuthentication: cbor: error " ++
    "calling MarshalCBOR for type cbor.RawMessage")
  return cbor.marshal (encodedCBOR
    (deviceAuthentication cbor sessionTranscript docType deviceNameSpaces))

def buildLegacyDeviceAuthenticationBytes (docType : String)
    (deviceNameSpaces : Option (List UInt8)) : Except String (List UInt8) := do
  let deviceNameSpaces ← normaliseDeviceNameSpaces cbor deviceNameSpaces
  return cbor.marshal (.array false [textItem "DeviceAuthentication", bytesItem sessionTranscript,
    textItem docType, bytesItem deviceNameSpaces])

end Bytes

/-! ## Building -/

/-- `DeviceSignedMdoc.NameSpaces`, which can hold anything: a tag over bytes, which a nil slice has
none of, or something else. -/
inductive NameSpacesValue where
  | tagged (number : Nat) (content : Option (List UInt8))
  | tag (number : Nat) (content : Item)
  | other

/-- `DeviceAuthMdoc` -/
structure DeviceAuth where
  deviceSignature : Option Item := none
  deviceMac : List Item := []

/-- `DeviceSignedMdoc` -/
structure DeviceSigned where
  nameSpaces : NameSpacesValue
  deviceAuth : DeviceAuth

/-- `DeviceAuthBuilder`; the entries of a map are in the order in which they are encoded, and a nil
map is absent. -/
structure DeviceAuthBuilder (Key : Type) where
  docType : String
  sessionTranscript : Option (List UInt8) := none
  deviceNameSpaces : List (String × Option (List (String × Item))) := []
  deviceKey : Option Key := none
  sessionKey : List UInt8 := []
  useMAC : Bool := false

variable {Key : Type}

variable (schemes : Schemes Key) (cbor : Codec)

/-- A signature over the bytes, as the array of its components. -/
def createDeviceSignature (key : Key) (payload : List UInt8) : Except String DeviceAuth := do
  let algorithm ← (algorithmForKey (schemes.kind key)).mapError
    ("failed to create device signature: failed to determine algorithm: " ++ ·)
  let sign1 ← (sign1Detached schemes cbor payload key algorithm [] []).mapError
    ("failed to create device signature: " ++ ·)
  return { deviceSignature := some (.array false [bytesItem sign1.protectedBytes,
    .map false sign1.unprotected, .simple 22, bytesItem sign1.signature]) }

/-- A message authentication code over the bytes, as the array of its components. -/
def createDeviceMAC (sessionKey payload : List UInt8) : Except String DeviceAuth := do
  let mac0 ← (mac0 schemes cbor payload sessionKey 5 []).mapError
    ("failed to create device MAC: " ++ ·)
  return { deviceMac := [bytesItem mac0.protectedBytes, .map false mac0.unprotected, .simple 22,
    bytesItem mac0.tag] }

namespace DeviceAuthBuilder

variable (b : DeviceAuthBuilder Key)

/-- The device name spaces as they are encoded. -/
def encodedNameSpaces : List UInt8 :=
  cbor.marshal (.map false (b.deviceNameSpaces.map fun entry =>
    (textItem entry.1, match entry.2 with
      | none => .simple 22
      | some elements =>
        .map false (elements.map fun element => (textItem element.1, element.2)))))

/-- How the bytes are to be authenticated. -/
def method : Except String (List UInt8 → Except String DeviceAuth) :=
  match b.useMAC, b.deviceKey with
  | false, none => .error "device key or session key is required"
  | false, some key => .ok (createDeviceSignature schemes cbor key)
  | true, _ =>
    if b.sessionKey = [] then .error "session key is required for MAC authentication"
    else .ok (createDeviceMAC schemes cbor b.sessionKey)

def build : Except String DeviceSigned :=
  match b.sessionTranscript with
  | none => .error "session transcript is required"
  | some sessionTranscript => do
    let authenticate ← b.method schemes cbor
    let deviceNameSpacesBytes := b.encodedNameSpaces cbor
    let deviceAuthBytes ← (buildDeviceAuthenticationBytes cbor sessionTranscript b.docType
      (some deviceNameSpacesBytes)).mapError ("failed to encode device authentication: " ++ ·)
    let deviceAuth ← authenticate deviceAuthBytes
    return ⟨.tagged 24 (some deviceNameSpacesBytes), deviceAuth⟩

end DeviceAuthBuilder

/-! ## Verifying -/

structure DeviceAuthVerifier where
  sessionTranscript : List UInt8
  docType : String

def extractDeviceNameSpacesBytes : NameSpacesValue → Except String (Option (List UInt8))
  | .tagged 24 content => .ok content
  | .tagged number _ | .tag number _ =>
    .error ("unexpected CBOR tag number: expected 24, got " ++ toString number)
  | .other => .error "unexpected type for NameSpaces"

def mapEntries : Item → List (Item × Item)
  | .map _ entries => entries
  | _ => []

def parseDeviceSignature : Item → Except String COSESign1
  | .bytes _ chunks => do
    require (chunks.flatten ≠ []) "device signature byte slice is empty"
    (Verifier.unmarshalSign1 cbor chunks.flatten).mapError
      ("failed to parse device signature bytes: " ++ ·)
  | .array _ [protectedHeader, unprotected, payload, signature] => .ok {
      protectedBytes := (asBytes protectedHeader).getD []
      unprotected := mapEntries unprotected
      payload := asBytes payload
      signature := (asBytes signature).getD [] }
  | .array _ _ => .error "device signature array must have 4 elements"
  | .tag number content =>
    (Verifier.unmarshalSign1 cbor (cbor.marshal (.tag number content))).mapError
      ("failed to map tagged device signature to COSESign1: " ++ ·)
  | _ => .error "unexpected type for DeviceSignature"

def parseDeviceMac : List Item → Except String COSEMac0
  | [] => .error "no device MAC present"
  | [protectedHeader, unprotected, payload, tag] =>
    match asBytes protectedHeader, asBytes tag with
    | none, _ => .error "protected header must be bytes"
    | some _, none => .error "MAC tag must be bytes"
    | some protectedBytes, some tag => .ok {
        protectedBytes
        unprotected := mapEntries unprotected
        payload := asBytes payload
        tag }
  | _ => .error "invalid device MAC: expected at least 4 elements"

/-- Try one candidate after the other. -/
def firstVerified (verify : List UInt8 → Except String Unit) :
    (lastError : String) → List (List UInt8) → Except String Unit
  | lastError, [] => .error lastError
  | _, candidate :: rest =>
    match verify candidate with
    | .ok () => .ok ()
    | .error error => firstVerified verify error rest

namespace DeviceAuthVerifier

variable (v : DeviceAuthVerifier)

def verifySignature (deviceSigned : DeviceSigned) (deviceKey : Key) : Except String Unit :=
  match deviceSigned.deviceAuth.deviceSignature with
  | none => .error "no device signature present"
  | some raw => do
    let sign1 ← parseDeviceSignature cbor raw
    let nameSpacesBytes ← (extractDeviceNameSpacesBytes deviceSigned.nameSpaces).mapError
      ("failed to process NameSpaces: " ++ ·)
    let deviceAuthBytes ← (buildDeviceAuthenticationBytes cbor v.sessionTranscript v.docType
      nameSpacesBytes).mapError ("failed to build device auth bytes: " ++ ·)
    match verify1 schemes cbor sign1 (some deviceAuthBytes) deviceKey [] with
    | .ok () => .ok ()
    | .error error =>
      match buildLegacyDeviceAuthenticationBytes cbor v.sessionTranscript v.docType
          nameSpacesBytes with
      | .error _ => .error ("device signature verification failed: " ++ error)
      | .ok legacy =>
        (verify1 schemes cbor sign1 (some legacy) deviceKey []).mapError
          fun _ => "device signature verification failed: " ++ error

def verifyMAC (deviceSigned : DeviceSigned) (sessionKey : List UInt8) :
    Except String Unit := do
  let mac0 ← parseDeviceMac deviceSigned.deviceAuth.deviceMac
  let nameSpacesBytes ← (extractDeviceNameSpacesBytes deviceSigned.nameSpaces).mapError
    ("unexpected data layout or type for NameSpaces: " ++ ·)
  let deviceAuthBytes ← (buildDeviceAuthenticationBytes cbor v.sessionTranscript v.docType
    nameSpacesBytes).mapError ("failed to build device auth bytes: " ++ ·)
  let accepted := deviceAuthBytes ::
    (buildLegacyDeviceAuthenticationBytes cbor v.sessionTranscript v.docType
      nameSpacesBytes).toOption.toList
  match mac0.payload with
  | some payload => do
    require (payload ∈ accepted) "device auth payload mismatch"
    (verifyCOSEMac0 schemes cbor mac0 sessionKey none []).mapError
      ("device MAC verification failed: " ++ ·)
  | none =>
    (firstVerified (fun candidate => verifyCOSEMac0 schemes cbor mac0 sessionKey
      (some candidate) []) "" accepted).mapError ("device MAC verification failed: " ++ ·)

end DeviceAuthVerifier

end Vc.Iso18013
