import Vc.Openid4vp.QueryCodec
import Vc.Sdjwtvc.Token

/-!
# Key proofs of a credential request

The three proof types of a credential request, with the keys that are read from them and the
checks that are made on them.  JWTs are given as they decode: a text that does not is refused.
-/

namespace Vc.Openid4vci

open Checks Openid4vp

/-- `Error`, by its code; `internal` is an error without one. -/
inductive Error where
  | invalidCredentialRequest
  | invalidProof
  | invalidNonce
  | unknownCredentialConfiguration
  | unknownCredentialIdentifier
  | invalidEncryptionParameters
  | internal
  deriving DecidableEq

inductive ProofType where
  | jwt
  | diVP
  | attestation
  | other (name : String)
  deriving DecidableEq

/-- A compact JWT, decoded. -/
structure JWT where
  header : Members
  claims : Members
  signature : Sdjwtvc.Bytes
  deriving DecidableEq

structure Jwk where
  kty : String := ""
  crv : String := ""
  x : String := ""
  y : String := ""
  n : String := ""
  e : String := ""
  kid : String := ""
  use : String := ""
  alg : String := ""
  d : String := ""
  keyOps : List String := []
  ext : Bool := false
  deriving DecidableEq

structure DIVPProof where
  verificationMethod : String
  domain : String
  challenge : String
  deriving DecidableEq

/-- `ProofDIVP`; `Proof` stands in front of `Proofs`. -/
structure ProofDIVP where
  type : List String
  proofs : List DIVPProof
  deriving DecidableEq

structure Proofs where
  jwt : List JWT := []
  diVP : List ProofDIVP := []
  attestation : List JWT := []

/-- A single proof; texts for other types than `jwt` are not read. -/
structure Proof where
  proofType : ProofType
  jwt : JWT

/-- Keys and signatures. -/
structure KeyLibrary (Key : Type) where
  /-- `jwkProtoToPublicKey` -/
  publicKey : Jwk → Except Error Key
  /-- `jose.ParseX5CHeader`: the key of the leaf -/
  x5cKey : Json → Except Error Key
  /-- `jwt.ParseWithClaims` with this key -/
  verifySignature : Key → JWT → Bool
  /-- `convertJWKToCOSEKey` -/
  coseKey : Jwk → Except Error Sdjwtvc.Bytes

/-! ## Members of a JWT -/

/-- What a struct field of this name is set from. -/
def field (members : Members) (name : String) : Json :=
  ((members.filter fun member => foldName member.1 = name ∧ member.2 ≠ .null).getLast?.map
    (·.2)).getD .null

def textField (members : Members) (name : String) : Except Error String :=
  (decodeString "" (field members name)).mapError fun _ => .invalidCredentialRequest

/-- An `int64`. -/
def integerField (members : Members) (name : String) : Except Error Int :=
  match field members name with
  | .null => .ok 0
  | .num literal => ((atoi literal).map .ok).getD (.error .invalidCredentialRequest)
  | _ => .error .invalidCredentialRequest

/-- The members that a `ProofJWK` has as well. -/
def Jwk.proofMembers : Json → Except Error Jwk
  | .obj members => do
    return { kty := ← textField members "kty", crv := ← textField members "crv",
             x := ← textField members "x", y := ← textField members "y",
             n := ← textField members "n", e := ← textField members "e",
             kid := ← textField members "kid", use := ← textField members "use",
             alg := ← textField members "alg" }
  | _ => .error .invalidProof

variable (header : Members)

def stringsField (name : String) : Except Error (List String) :=
  (decodeStrings (field header name)).mapError fun _ => .invalidCredentialRequest

def Jwk.unmarshal (json : Json) : Except Error Jwk := do
  let jwk ← Jwk.proofMembers json
  let members := objectMembers json
  let ext ← (decodeBool (field members "ext")).mapError fun _ => .invalidCredentialRequest
  return { jwk with
    d := ← textField members "d"
    keyOps := ← stringsField members "key_ops"
    ext := ext.getD false }

/-- A `ProofJWK`, which has a type. -/
def proofJWK (json : Json) : Except Error Unit := do
  let jwk ← Jwk.proofMembers json
  require (jwk.kty ≠ "") .invalidCredentialRequest

/-- The checks on `alg` and `typ`. -/
def validateType (expected : String) : Except Error Unit := do
  let alg ← textField header "alg"
  let typ ← textField header "typ"
  require (alg ≠ "" ∧ alg ≠ "none" ∧ typ = expected) .invalidCredentialRequest

/-- The signing methods of the library that are asymmetric. -/
def asymmetric : Prop :=
  ∃ alg ∈ ["ES256", "ES384", "ES512", "RS256", "RS384", "RS512", "PS256", "PS384", "PS512",
    "EdDSA"], header.lookup "alg" = some (.str alg)

instance (header : Members) : Decidable (asymmetric header) :=
  inferInstanceAs (Decidable (∃ _ ∈ _, _))

/-- The header carries a JWK with a private part. -/
def privateKey : Bool :=
  match header.lookup "jwk" with
  | some (.obj jwk) => (jwk.lookup "d").isSome
  | _ => false

/-- `GetAudience` -/
def audience (claims : Members) : List Json :=
  match claims.lookup "aud" with
  | some (.arr elements) => elements
  | some value => [value]
  | none => []

/-- The `nonce` claim, if it is a text. -/
def JWT.nonce (p : JWT) : Option String :=
  match p.claims.lookup "nonce" with
  | some (.str nonce) => some nonce
  | _ => none

/-! ## `ProofJWTToken` -/

namespace ProofJWTToken

def validate (p : JWT) : Except Error Unit := do
  validateType p.header "openid4vci-proof+jwt"
  let kid ← textField p.header "kid"
  let x5c ← stringsField p.header "x5c"
  let jwk := field p.header "jwk"
  -- one of the three, and no two of them; an empty chain excludes the others, but is no key
  require ([kid != "", jwk ≠ .null, field p.header "x5c" ≠ .null].count true = 1 ∧
    ¬ (kid = "" ∧ jwk = .null ∧ x5c = [])) .invalidCredentialRequest
  if jwk ≠ .null then proofJWK jwk
  let aud ← textField p.claims "aud"
  let iat ← integerField p.claims "iat"
  let _ ← textField p.claims "nonce"
  let _ ← textField p.claims "iss"
  require (aud ≠ "" ∧ iat ≠ 0) .invalidCredentialRequest

def extractJWK (p : JWT) : Except Error Jwk :=
  match p.header.lookup "jwk", p.header.lookup "kid" with
  | some (.obj members), _ => Jwk.unmarshal (.obj members)
  | _, some (.str kid) => .ok { kid }
  | _, _ => .error .invalidProof

/-- The `iss` claim, or the empty text. -/
def extractSubjectDID (p : JWT) : String :=
  (textField p.claims "iss").toOption.getD ""

def extractNonce (p : JWT) : String :=
  p.nonce.getD ""

variable {Key : Type} (keys : KeyLibrary Key) (now : Int)

/-- `Verify`, with the expected nonce and audience. -/
def verify (key : Key) (cNonce expected : String) (p : JWT) : Except Error Unit := do
  validate p
  require (¬ privateKey p.header) .invalidCredentialRequest
  require (expected = "" ∨ .str expected ∈ audience p.claims) .invalidCredentialRequest
  let iat ← integerField p.claims "iat"
  require (Float64.unix iat ≤ now + 30) .invalidCredentialRequest
  require (cNonce = "" ∨ p.nonce = some cNonce) .invalidNonce
  require (asymmetric p.header) .invalidCredentialRequest
  require (keys.verifySignature key p) .invalidProof

end ProofJWTToken

/-! ## `ProofAttestation` -/

namespace ProofAttestation

def validate (p : JWT) : Except Error Unit := do
  validateType p.header "key-attestation+jwt"
  let _ ← textField p.header "kid"
  let _ ← stringsField p.header "x5c"
  let iat ← integerField p.claims "iat"
  let _ ← integerField p.claims "exp"
  let _ ← textField p.claims "iss"
  let _ ← textField p.claims "nonce"
  match field p.claims "attested_keys" with
  | .arr keys => do
    let _ ← keys.mapM proofJWK
    require (keys ≠ [] ∧ iat ≠ 0) .invalidCredentialRequest
  | _ => .error .invalidCredentialRequest

def extractAllJWKs (maxLength : Nat) (p : JWT) : Except Error (List Jwk) :=
  match p.claims.lookup "attested_keys" with
  | some (.arr keys) => do
    require (keys ≠ [] ∧ keys.length ≤ maxLength) .invalidProof
    keys.mapM Jwk.unmarshal
  | _ => .error .invalidProof

def extractNonce (p : JWT) : String :=
  (textField p.claims "nonce").toOption.getD ""

/-- `Verify`, with the key of the certificate that the header carries. -/
def verify {Key : Type} (keys : KeyLibrary Key) (cNonce : String) (p : JWT) :
    Except Error Unit := do
  validate p
  let some x5c := p.header.lookup "x5c" | .error .invalidProof
  let key ← keys.x5cKey x5c
  require (asymmetric p.header) .invalidCredentialRequest
  require (cNonce = "" ∨ p.nonce = some cNonce) .invalidNonce
  require (keys.verifySignature key p) .invalidProof

end ProofAttestation

/-! ## `ProofDIVP` -/

namespace ProofDIVP

/-- A reference to the key: the first verification method. -/
def extractJWK (vp : ProofDIVP) : Except Error Jwk :=
  match vp.proofs with
  | proof :: _ =>
    if proof.verificationMethod = "" then .error .invalidProof
    else .ok { kid := proof.verificationMethod }
  | [] => .error .invalidProof

/-- `Verify`, which makes no cryptographic check. -/
def verify (cNonce expected : String) (vp : ProofDIVP) : Except Error Unit := do
  require ("VerifiablePresentation" ∈ vp.type) .invalidCredentialRequest
  vp.proofs.forM fun proof => do
    require (expected = "" ∨ proof.domain = expected) .invalidCredentialRequest
    require (cNonce = "" ∨ proof.challenge = cNonce) .invalidNonce

end ProofDIVP

/-! ## `Proofs` -/

namespace Proofs

def proofType (proofs : Proofs) : ProofType :=
  if proofs.jwt ≠ [] then .jwt
  else if proofs.diVP ≠ [] then .diVP
  else if proofs.attestation ≠ [] then .attestation
  else .other ""

/-- How many proof types are used. -/
def typeCount (proofs : Proofs) : Nat :=
  [!proofs.jwt.isEmpty, !proofs.diVP.isEmpty, !proofs.attestation.isEmpty].count true

def extractAllJWKs (maxLength : Nat) (proofs : Proofs) : Except Error (List Jwk) :=
  match proofs.proofType with
  | .jwt => do
    require (proofs.jwt.length ≤ maxLength) .invalidProof
    proofs.jwt.mapM ProofJWTToken.extractJWK
  | .diVP => do
    require (proofs.diVP.length ≤ maxLength) .invalidProof
    proofs.diVP.mapM ProofDIVP.extractJWK
  | .attestation =>
    (proofs.attestation.head?.map (ProofAttestation.extractAllJWKs maxLength)).getD
      (.error .invalidProof)
  | .other _ => .error .invalidProof

/-- `VerifyProofWithOptions` for the types that resolve their own key. -/
def verify {Key : Type} (keys : KeyLibrary Key) (cNonce expected : String) (proofs : Proofs) :
    Except Error Unit := do
  require (proofs.typeCount = 1) .invalidCredentialRequest
  proofs.diVP.forM (ProofDIVP.verify cNonce expected)
  proofs.attestation.forM (ProofAttestation.verify keys cNonce)

end Proofs

end Vc.Openid4vci
