import Vc.Data.NQuads
import Vc.Vc20.Suites

/-!
# The cryptosuite for selective disclosure

`SdSuite` of `ecdsa-sd-2023`: `Sign` makes a base proof with a signature for each statement
that is not mandatory, and `Verify` checks such a proof or one that was derived from it.
Statements are lines of N-Quads in canonical form, with their blank nodes relabelled by HMAC.

JSON-LD, CBOR, multibase and the primitives are given by `SdLibrary`.
-/

namespace Vc.Vc20.Sd

open Checks Sdjwtvc Openid4vp Rdf NQuads Entries

/-! ## Proof values -/

structure BaseProofValue where
  baseSignature : Bytes := []
  publicKey : Bytes := []
  hmacKey : Bytes := []
  signatures : List Bytes := []
  mandatoryPointers : List String := []
  deriving DecidableEq

structure DerivedProofValue where
  baseSignature : Bytes
  publicKey : Bytes
  signatures : List Bytes
  labelMap : List (String × String)
  mandatoryIndexes : List Int
  deriving DecidableEq

/-- The curves of ECDSA keys. -/
inductive Curve where
  | p256
  | p384
  | other (bits : Nat)
  deriving DecidableEq

/-- The size of a coordinate, in bytes. -/
def Curve.bytes : Curve → Nat
  | .p256 => 32
  | .p384 => 48
  | .other bits => (bits + 7) / 8

/-- JSON-LD, encodings and primitives. -/
structure SdLibrary (Key : Type) where
  ld : JsonLd
  /-- the N-Quads of canonical quads -/
  serialize : List Quad → Line
  /-- `Compact` of proof graphs with a list of contexts -/
  compactProof : ld.Order → List Json → Dataset → Except String Json
  marshalBase : BaseProofValue → Bytes
  unmarshalBase : Bytes → Except String BaseProofValue
  unmarshalDerived : Bytes → Except String DerivedProofValue
  /-- `multibase.Encode` with base64url -/
  encodeMultibase : Bytes → String
  /-- `multibase.Decode` -/
  decodeMultibase : String → Except String Bytes
  sha256 : Bytes → Bytes
  /-- `hmacSha256` -/
  hmac : Bytes → Bytes → Bytes
  /-- `base64.RawURLEncoding.EncodeToString` -/
  encode64 : Bytes → String
  curve : Key → Curve
  /-- `elliptic.MarshalCompressed` -/
  marshalCompressed : Key → Bytes
  /-- `elliptic.UnmarshalCompressed` -/
  unmarshalCompressed : Curve → Bytes → Option Key
  /-- `elliptic.Unmarshal` -/
  unmarshalUncompressed : Curve → Bytes → Option Key
  /-- `ecdsa.Sign` and `serializeSignature` with the private key -/
  sign : Key → Bytes → Bytes
  /-- `ecdsa.Verify` -/
  ecdsaVerify : Key → Bytes → Bytes → Bool
  /-- `%v` of a JSON number -/
  formatNumber : String → String

/-! ## Documents -/

def proofMembers : List String :=
  ["proof", "https://w3id.org/security#proof", "https://www.w3.org/ns/credentials#proof"]

mutual
def removeProof : Json → Json
  | .obj members => .obj (removeProofMembers members)
  | .arr elements => .arr (removeProofElements elements)
  | value => value

def removeProofMembers : Members → Members
  | [] => []
  | (name, value) :: rest =>
    if name ∈ proofMembers then removeProofMembers rest
    else (name, removeProof value) :: removeProofMembers rest

def removeProofElements : List Json → List Json
  | [] => []
  | first :: rest => removeProof first :: removeProofElements rest
end

mutual
/-- A text inside an object or an array is replaced. -/
def replaceTexts (replace : String → String) : Json → Json
  | .obj members => .obj (replaceMembers replace members)
  | .arr elements => .arr (replaceElements replace elements)
  | value => value

def replaceMembers (replace : String → String) : Members → Members
  | [] => []
  | (name, .str text) :: rest => (name, .str (replace text)) :: replaceMembers replace rest
  | (name, value) :: rest => (name, replaceTexts replace value) :: replaceMembers replace rest

def replaceElements (replace : String → String) : List Json → List Json
  | [] => []
  | .str text :: rest => .str (replace text) :: replaceElements replace rest
  | first :: rest => replaceTexts replace first :: replaceElements replace rest
end

/-- What follows the begin of a text. -/
def cutPrefix (start text : String) : Option String :=
  if start.toList.isPrefixOf text.toList then
    some (String.ofList (text.toList.drop start.toList.length))
  else none

/-- The IRI of a label, for a label of the map. -/
def labelToURN (labelMap : List (String × String)) (text : String) : String :=
  match (cutPrefix "_:" text).bind fun label => labelMap.lookup label with
  | some hmac => "urn:bn:" ++ hmac
  | none => text

def replaceLabelsWithURNs (labelMap : List (String × String)) : Json → Json :=
  replaceTexts (labelToURN labelMap)

/-! ## Pointers -/

/-- A sequence of two characters is replaced by one character. -/
def unescape (code replacement : Char) : List Char → List Char
  | [] => []
  | '~' :: rest =>
    match rest with
    | [] => ['~']
    | next :: tail =>
      if next = code then replacement :: unescape code replacement tail
      else '~' :: unescape code replacement (next :: tail)
  | char :: rest => char :: unescape code replacement rest

def parseJSONPointer (pointer : String) : List String :=
  if pointer = "" ∨ pointer = "/" then []
  else
    (Sdjwtvc.split '/' ((cutPrefix "/" pointer).getD pointer)).map fun part =>
      String.ofList (unescape '0' '~' (unescape '1' '/' part.toList))

/-- One step of a path. -/
def stepAt (part : String) : Json → Option Json
  | .obj members => members.lookup part
  | .arr elements => (atoi part).bind fun index =>
    if 0 ≤ index then elements[index.toNat]? else none
  | _ => none

def getValueAtPointer (document : Json) (pointer : String) : Option Json :=
  (parseJSONPointer pointer).foldl (fun value part => value.bind (stepAt part)) (some document)

/-- The predicates of a property. -/
def predicateOf (name : String) : String :=
  (([("issuer", "<https://www.w3.org/2018/credentials#issuer>"),
    ("validFrom", "<https://www.w3.org/2018/credentials#validFrom>"),
    ("validUntil", "<https://www.w3.org/2018/credentials#validUntil>"),
    ("type", "<http://www.w3.org/1999/02/22-rdf-syntax-ns#type>"),
    ("id", "@id"),
    ("credentialSubject", "<https://www.w3.org/2018/credentials#credentialSubject>")] :
      List (String × String)).lookup name).getD ("<" ++ name ++ ">")

section Suite

variable {Key : Type} (lib : SdLibrary Key)

def valueText : Json → Option String
  | .str text => some text
  | .num literal => some (lib.formatNumber literal)
  | .bool value => some (if value then "true" else "false")
  | _ => none

variable (document : Json)

/-- A statement is selected by a pointer: it has the predicate and the value. -/
def selectedBy (pointer : String) (line : Line) : Bool :=
  match (parseJSONPointer pointer).getLast?,
      (getValueAtPointer document pointer).bind (valueText lib) with
  | some name, some text =>
    contains line (bytes (predicateOf name)) && contains line (bytes text)
  | _, _ => false

/-- The statement is a type of the document, and some pointer is not empty. -/
def selectedType (pointers : List String) (line : Line) : Bool :=
  match document with
  | .obj members =>
    pointers.any (fun pointer => parseJSONPointer pointer ≠ []) &&
      Members.text members "id" ≠ "" &&
      contains line (bytes ("<" ++ Members.text members "id" ++ ">")) &&
      contains line (bytes ("<" ++ rdfType ++ ">"))
  | _ => false

def selectMandatoryNQuads (lines : List Line) (pointers : List String) : List Line :=
  sorted (lines.filter fun line =>
    pointers.any (fun pointer => selectedBy lib document pointer line) ||
      selectedType document pointers line)

/-! ## Statements -/

def canonicalForm : Except String Line := do
  let _ ← lib.ld.toRDF document
  let quads ← lib.ld.normalize document
  return lib.serialize quads

variable (cred : RDFCredential)

/-- The statements of a credential without its proofs. -/
def statements : Except String (List Line) := do
  let document ← lib.ld.fromRDF (withoutProofForTypes cred.dataset [])
  let quads ← lib.ld.normalize document
  return parse (lib.serialize quads)

variable (hmacKey : Bytes)

/-- The label of a blank node, with `u` in front of the encoding. -/
def hmacLabel (label : Line) : Line :=
  bytes ("u" ++ lib.encode64 (lib.hmac hmacKey label))

def skolemizeQuad (line : Line) : Line :=
  mapLabels (fun label => labelMark ++ hmacLabel lib hmacKey label) line

/-- The statements that pointers select. -/
def selectedLines (lines : List Line) (pointers : List String) : List Line :=
  if pointers = [] then [] else selectMandatoryNQuads lib (removeProof cred.original) lines pointers

local instance : LawfulBEq Line := inferInstance

/-- The relabelled statements that are selected. -/
def mandatoryLines (selected lines : List Line) : List Line :=
  (lines.filter (· ∈ selected)).map (skolemizeQuad lib hmacKey)

/-- The relabelled statements that are not selected. -/
def nonMandatoryLines (selected lines : List Line) : List Line :=
  (lines.filter (· ∉ selected)).map (skolemizeQuad lib hmacKey)

/-- What the base signature is made over. -/
def signedHash (config : Line) (publicKey : Bytes) (mandatory : Line) : Bytes :=
  lib.sha256 (lib.sha256 config ++ publicKey ++ lib.sha256 mandatory)

def verifySignature (key : Key) (hash signature : Bytes) : Bool :=
  signature.length = 2 * (lib.curve key).bytes && lib.ecdsaVerify key hash signature

def ellipticMarshalCompressed (key : Key) : Bytes :=
  0x80 :: 0x24 :: lib.marshalCompressed key

/-- A compressed point of a curve. -/
def unmarshalPoint (curve : Curve) (name : String) (data : Bytes) : Except String Key := do
  require (data.length = curve.bytes + 1)
    ("invalid compressed " ++ name ++ " key length: expected " ++ toString (curve.bytes + 1) ++
      ", got " ++ toString data.length)
  match lib.unmarshalCompressed curve data with
  | some key => return key
  | none => .error ("failed to unmarshal compressed " ++ name ++ " point")

def parseEphemeralPublicKey (data : Bytes) (curve : Curve) : Except String Key :=
  match data with
  | [] => .error "empty public key data"
  | 0x80 :: 0x24 :: keyData => unmarshalPoint lib .p256 "P-256" keyData
  | 0x81 :: 0x24 :: keyData => unmarshalPoint lib .p384 "P-384" keyData
  | 0x04 :: _ =>
    match lib.unmarshalUncompressed curve data with
    | some key => .ok key
    | none => .error "failed to unmarshal uncompressed point"
  | first :: _ => .error ("unrecognized public key format: first byte " ++ toString first.toNat)

/-- The check of a signature for each line. -/
def verifyLines (key : Key) : List (Line × Bytes) → Except String Unit
  | [] => .ok ()
  | (line, signature) :: rest => do
    require (verifySignature lib key (lib.sha256 line) signature = true)
      "signature verification failed for N-Quad"
    verifyLines key rest

/-- The check that both verifiers end with. -/
def verifyStatements (key : Key) (publicKey : Bytes) (lines : List Line) (signatures : List Bytes) :
    Except String Unit := do
  require (lines.length = signatures.length)
    ("number of non-mandatory quads (" ++ toString lines.length ++
      ") does not match number of signatures (" ++ toString signatures.length ++ ")")
  let ephemeralKey ← wrap "failed to parse ephemeral public key"
    (parseEphemeralPublicKey lib publicKey (lib.curve key))
  verifyLines lib ephemeralKey (lines.zip signatures)

/-! ## Signing -/

/-- `SdSignOptions`, with the time that is written into the proof. -/
structure SdSignOptions where
  verificationMethod : String
  proofPurpose : String
  created : String
  domain : String := ""
  challenge : String := ""
  mandatoryPointers : List String := []

/-- A call of `Sign`, with what it draws. -/
structure SignCall (Key : Type) where
  cred : RDFCredential
  key : Key
  options : SdSignOptions
  hmacKey : Bytes
  ephemeralKey : Key

/-- A member that is left out when it is empty. -/
def optionalMember (name text : String) : Members :=
  if text = "" then [] else [(name, .str text)]

def proofConfigOf (options : SdSignOptions) : Members :=
  [("@context", .str contextV2)] ++ optionalMember "challenge" options.challenge ++
    [("created", .str options.created), ("cryptosuite", .str "ecdsa-sd-2023")] ++
    optionalMember "domain" options.domain ++
    [("proofPurpose", .str options.proofPurpose), ("type", .str proofType),
      ("verificationMethod", .str options.verificationMethod)]

variable (proof : Members)

def addProof (document : Members) : Members :=
  match document.lookup "proof" with
  | some (.arr proofs) => put "proof" (.arr (proofs ++ [.obj proof])) document
  | some existing => put "proof" (.arr [existing, .obj proof]) document
  | none => put "proof" (.obj proof) document

/-- The members of a document. -/
def membersOf : Json → Except String Members
  | .obj members => .ok members
  | value => .error ("failed to unmarshal original credential: json: cannot unmarshal " ++
      goType value)

/-- `NewRDFCredentialFromJSON` of a document. -/
def newRDFCredential : Except String RDFCredential := do
  let dataset ← wrap "failed to convert JSON-LD to RDF" (lib.ld.toRDF document)
  return { dataset, original := document }

def baseHeader : Bytes := [0xd9, 0x5d, 0x00]

def derivedHeader : Bytes := [0xd9, 0x5d, 0x01]

def SignCall.selected (call : SignCall Key) (lines : List Line) : List Line :=
  selectedLines lib call.cred lines call.options.mandatoryPointers

/-- The base proof of a call, once its statements and its configuration are in canonical form. -/
def SignCall.baseProof (call : SignCall Key) (lines : List Line) (config : Line) :
    BaseProofValue where
  baseSignature := lib.sign call.key (signedHash lib config
    (ellipticMarshalCompressed lib call.ephemeralKey)
    (unlines (mandatoryLines lib call.hmacKey (call.selected lib lines) lines)))
  publicKey := ellipticMarshalCompressed lib call.ephemeralKey
  hmacKey := call.hmacKey
  signatures := (nonMandatoryLines lib call.hmacKey (call.selected lib lines) lines).map fun line =>
    lib.sign call.ephemeralKey (lib.sha256 line)
  mandatoryPointers := call.options.mandatoryPointers

def sign (call : SignCall Key) : Except String RDFCredential := do
  let lines ← wrap "failed to get canonical form" (statements lib call.cred)
  let config ← wrap "failed to canonicalize proof config"
    (canonicalForm lib (.obj (proofConfigOf call.options)))
  let proofValue := lib.encodeMultibase
    (baseHeader ++ lib.marshalBase (call.baseProof lib lines config))
  let document ← membersOf call.cred.original
  newRDFCredential lib (.obj (addProof
    (put "proofValue" (.str proofValue) (proofConfigOf call.options)) document))

/-! ## Verification -/

/-- A list of contexts with the one of credentials. -/
def withContextV2 (contexts : List Json) : List Json :=
  if .str contextV2 ∈ contexts then contexts else contexts ++ [.str contextV2]

/-- The contexts that the proofs of a document are compacted with. -/
def proofContexts : List Json :=
  match cred.original with
  | .obj members =>
    match members.lookup "@context" with
    | some (.arr contexts) => withContextV2 contexts
    | some context => withContextV2 [context]
    | none => withContextV2 [.null]
  | _ => [.str contextV2]

/-- `sdFindProofNode`; the order in which members are visited belongs to the order of nodes. -/
def sdFindProofNode (tree : Json) : Option Members :=
  findProofNodeFunc proofType (fun _ => true) tree

/-- The first proof of a document, compacted. -/
def proofNode (order : lib.ld.Order) (contexts : List Json) (cred : RDFCredential) :
    Except String Members := do
  let graphs ← wrap "failed to get proof object" (proofObject cred.dataset)
  let tree ← wrap "failed to compact proof JSON" (lib.compactProof order contexts graphs)
  match sdFindProofNode tree with
  | none => .error "proof node not found"
  | some node => return node

/-- The names that a proof value is looked up by. -/
def proofValueMembers : List String :=
  ["proofValue", "https://w3id.org/security#proofValue",
    "https://www.w3.org/ns/credentials#proofValue"]

def proofValueText : Except String String :=
  match proofValueMembers.findSome? fun name => (proof.lookup name).bind Json.str? with
  | some text => .ok text
  | none => .error "proofValue not found"

/-- A proof value of either kind. -/
inductive ProofValue where
  | base (proof : BaseProofValue)
  | derived (proof : DerivedProofValue)
  deriving DecidableEq

/-- The value without a header: a base proof if it has an HMAC key. -/
def untaggedProofValue (data : Bytes) : Except String ProofValue :=
  match lib.unmarshalBase data with
  | .ok proof =>
    if proof.hmacKey ≠ [] then .ok (.base proof)
    else (lib.unmarshalDerived data).map .derived
  | .error _ => (lib.unmarshalDerived data).map .derived

/-- The kind of a proof value, by its header if it has one. -/
def readProofValue (data : Bytes) : Except String ProofValue :=
  match data with
  | 0xd9 :: 0x5d :: 0x00 :: cborData =>
    .ok (.base ((lib.unmarshalBase cborData).toOption.getD {}))
  | 0xd9 :: 0x5d :: 0x01 :: cborData =>
    wrap "failed to unmarshal proof value as Base or Derived proof"
      ((lib.unmarshalDerived cborData).map .derived)
  | data =>
    wrap "failed to unmarshal proof value as Base or Derived proof"
      (untaggedProofValue lib data)

def withContext (config : Members) : Json :=
  .obj (if (config.lookup "@context").isSome then config
    else put "@context" (.str contextV2) config)

/-- The configuration that a base proof is checked for. -/
def baseConfig : Json :=
  withContext (without "proofValue" proof)

def verifyBaseProof (key : Key) (proof : BaseProofValue)
    (proofMap : Members) : Except String Unit := do
  let config ← wrap "failed to canonicalize proof config" (canonicalForm lib (baseConfig proofMap))
  let lines ← wrap "failed to get canonical form" (statements lib cred)
  let selected := selectedLines lib cred lines proof.mandatoryPointers
  require (verifySignature lib key (signedHash lib config proof.publicKey (unlines selected))
      proof.baseSignature = true) "base signature verification failed"
  verifyStatements lib key proof.publicKey (nonMandatoryLines lib proof.hmacKey selected lines)
    proof.signatures

/-- The members that are not part of the configuration of a derived proof. -/
def derivedConfig : Json :=
  withContext ((proofValueMembers ++ ["id", "@id"]).foldl (fun members name =>
    without name members) proof)

/-- The statements of a document, with the labels of a map. -/
def mappedLines (labelMap : List (String × String)) (document : Json) :
    Except String (List Line) := do
  let text ← canonicalForm lib (replaceLabelsWithURNs labelMap document)
  return parse (replaceURNs text)

/-- The lines whose indexes are not marked as mandatory. -/
def unmarkedLines (mandatoryIndexes : List Int) (lines : List Line) : List Line :=
  (lines.zipIdx.filter fun (_, index) => (index : Int) ∉ mandatoryIndexes).map (·.1)

def verifyDerivedProof (key : Key) (proof : DerivedProofValue)
    (proofMap : Members) : Except String Unit := do
  let config ← wrap "failed to canonicalize proof config"
    (canonicalForm lib (derivedConfig proofMap))
  -- the mandatory statements are taken to be none
  require (verifySignature lib key (signedHash lib config proof.publicKey []) proof.baseSignature =
      true) "base signature verification failed"
  let mapped ← wrap "failed to create modified credential"
    (mappedLines lib proof.labelMap (removeProof cred.original))
  verifyStatements lib key proof.publicKey (unmarkedLines proof.mandatoryIndexes mapped)
    proof.signatures

/-- The proof of a document, and its value. -/
def findProof (order : lib.ld.Order) (cred : RDFCredential) :
    Except String (ProofValue × Members) := do
  let proofMap ← proofNode lib order (proofContexts cred) cred
  let text ← proofValueText proofMap
  let data ← wrap "failed to decode proofValue" (lib.decodeMultibase text)
  let value ← readProofValue lib data
  return (value, proofMap)

def verify (order : lib.ld.Order) (cred : RDFCredential) (key : Key) : Except String Unit := do
  match ← findProof lib order cred with
  | (.base proof, proofMap) => verifyBaseProof lib cred key proof proofMap
  | (.derived proof, proofMap) => verifyDerivedProof lib cred key proof proofMap

end Suite

end Vc.Vc20.Sd
