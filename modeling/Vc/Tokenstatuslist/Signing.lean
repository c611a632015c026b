import Vc.Tokenstatuslist.StatusList

/-!
# Signed Status List Tokens

`GenerateJWT` and `GenerateCWT`.  The algorithms for CWTs are those of the
source, over the primitives of `crypto/ecdsa` and `crypto/rsa`; the signing
methods of the JWT library are one primitive.  A public key is represented by
the key pair that it belongs to.
-/

namespace Vc.Tokenstatuslist

open Checks Entries Cbor

/-! ## Keys -/

/-- The curves of `crypto/elliptic`. -/
inductive Curve where
  | p224
  | p256
  | p384
  | p521
  deriving DecidableEq

/-- The length of a coordinate in bytes. -/
def Curve.byteLen : Curve → Nat
  | .p224 => 28
  | .p256 => 32
  | .p384 => 48
  | .p521 => 66

inductive KeyKind where
  | ecdsa (curve : Curve)
  | rsa
  | ed25519
  deriving DecidableEq

inductive Hash where
  | sha256
  | sha384
  | sha512
  deriving DecidableEq

/-- A JWT, by its decoded segments. -/
structure Jwt where
  header : Members
  claims : Members
  signature : List UInt8

/-- The signature schemes. -/
structure Crypto (Key : Type) where
  kind : Key → KeyKind
  /-- `ecdsa.Sign`, as the two numbers in the length of the curve -/
  ecdsaSign : Key → Hash → List UInt8 → List UInt8
  ecdsaVerify : Key → Hash → List UInt8 → List UInt8 → Bool
  /-- `rsa.SignPSS` -/
  pssSign : Key → Hash → List UInt8 → List UInt8
  ed25519Verify : Key → List UInt8 → List UInt8 → Bool
  /-- `publicKeyToJWK` -/
  publicKeyToJWK : Key → Except String Json
  /-- `SignedString`, by the name of the signing method -/
  jwtSign : Key → String → Members → Members → Except String (List UInt8)
  jwtVerify : Key → String → Jwt → Bool

/-- A signature is accepted under the key that made it and under no other. -/
structure Crypto.Sound {Key : Type} (crypto : Crypto Key) : Prop where
  ecdsaLength : ∀ {key curve}, crypto.kind key = .ecdsa curve → ∀ hash data,
    (crypto.ecdsaSign key hash data).length = 2 * curve.byteLen
  ecdsa : ∀ {key curve}, crypto.kind key = .ecdsa curve → ∀ other hash data,
    crypto.ecdsaVerify other hash data (crypto.ecdsaSign key hash data) = true ↔ other = key
  jwt : ∀ {key method header claims signature},
    crypto.jwtSign key method header claims = .ok signature → ∀ other,
      crypto.jwtVerify other method ⟨header, claims, signature⟩ = true ↔ other = key

def KeyKind.code : KeyKind → UInt8
  | .ecdsa .p224 => 0
  | .ecdsa .p256 => 1
  | .ecdsa .p384 => 2
  | .ecdsa .p521 => 3
  | .rsa => 4
  | .ed25519 => 5

theorem KeyKind.code_injective : Function.Injective KeyKind.code := by
  rintro (⟨⟨⟩⟩ | _ | _) (⟨⟨⟩⟩ | _ | _) same <;> first | rfl | exact absurd same (by decide)

/-- Schemes with one key of each kind, whose signatures tell who made them. -/
def Crypto.ideal : Crypto KeyKind where
  kind key := key
  ecdsaSign key _ _ := match key with
    | .ecdsa curve => List.replicate (2 * curve.byteLen) key.code
    | _ => []
  ecdsaVerify key _ _ signature := signature.head? = some key.code
  pssSign key _ _ := [key.code]
  ed25519Verify key _ signature := signature.head? = some key.code
  publicKeyToJWK _ := .ok .null
  jwtSign key _ _ _ := .ok [key.code]
  jwtVerify key _ token := token.signature = [key.code]

theorem Crypto.ideal_sound : Crypto.ideal.Sound where
  ecdsaLength := by
    rintro _ curve rfl hash data
    exact List.length_replicate
  ecdsa := by
    rintro _ curve rfl other hash data
    rcases curve with _ | _ | _ | _ <;>
      exact decide_eq_true_iff.trans ⟨fun same =>
        (KeyKind.code_injective (Option.some.inj same)).symm, fun same => by subst same; rfl⟩
  jwt := by
    rintro key method header claims signature made other
    cases made
    exact decide_eq_true_iff.trans ⟨fun same =>
      (KeyKind.code_injective (List.head_eq_of_cons_eq same)).symm, fun same => same ▸ rfl⟩

/-! ## COSE algorithms -/

/-- The hash and the scheme of a COSE algorithm; `true` is ECDSA and `false` is RSASSA-PSS. -/
def coseAlgorithm : Int → Option (Bool × Hash)
  | -7 => some (true, .sha256)
  | -35 => some (true, .sha384)
  | -36 => some (true, .sha512)
  | -37 => some (false, .sha256)
  | -38 => some (false, .sha384)
  | -39 => some (false, .sha512)
  | _ => none

def detectCOSEAlgorithm : KeyKind → Except String Int
  | .ecdsa .p256 => .ok (-7)
  | .ecdsa .p384 => .ok (-35)
  | .ecdsa .p521 => .ok (-36)
  | .ecdsa .p224 => .error "unsupported ECDSA curve: P-224"
  | .rsa => .ok (-37)
  | .ed25519 => .error "unsupported key type for CWT signing: ed25519.PrivateKey"

/-- The `Sig_structure` of COSE_Sign1 without external data. -/
def sigStructure (protectedBytes payloadBytes : List UInt8) : Item :=
  .array false [textItem "Signature1", bytesItem protectedBytes, bytesItem [],
    bytesItem payloadBytes]

section Generate

variable {Key : Type} (crypto : Crypto Key) (zlib : Zlib) (cbor : Codec) (numbers : Numbers)

def signCOSE (protectedBytes payloadBytes : List UInt8) (key : Key) (alg : Int) :
    Except String (List UInt8) :=
  let data := cbor.marshal (sigStructure protectedBytes payloadBytes)
  match coseAlgorithm alg, crypto.kind key with
  | none, _ => .error ("unsupported algorithm: " ++ toString alg)
  | some (true, hash), .ecdsa _ => .ok (crypto.ecdsaSign key hash data)
  | some (true, _), _ => .error "signing key must be *ecdsa.PrivateKey"
  | some (false, hash), .rsa => .ok (crypto.pssSign key hash data)
  | some (false, _), _ => .error "signing key must be *rsa.PrivateKey for PS* algorithms"

/-! ## GenerateCWT -/

/-- An entry that is left out under a condition. -/
def optionalEntry (present : Bool) (key : Int) (value : Item) : List (Item × Item) :=
  if present then [(intItem key, value)] else []

variable (sl : StatusList)

/-- The claims of `GenerateCWT`. -/
def StatusList.cwtClaims (now : Int) : Item :=
  .map false ([(intItem 1, textItem sl.issuer), (intItem 2, textItem sl.subject),
    (intItem 6, intItem (unix now)),
    (intItem 65534, .map false ([(intItem 1, intItem Bits),
      (intItem 2, bytesItem (zlib.compress sl.statuses))] ++
      optionalEntry (sl.aggregationURI ≠ "") 3 (textItem sl.aggregationURI)))] ++
    optionalEntry (0 < sl.expiresIn) 4 (intItem (unix (now + sl.expiresIn))) ++
    optionalEntry (0 < sl.ttl) 65535 (intItem sl.ttl))

/-- The protected header of `GenerateCWT`. -/
def StatusList.protectedHeader (alg : Int) : Item :=
  .map false ([(intItem 1, intItem alg), (intItem 16, textItem "statuslist+cwt")] ++
    optionalEntry (sl.keyID ≠ "") 4 (textItem sl.keyID))

/-- `COSE_Sign1` with its tag. -/
def coseSign1 (protectedBytes payloadBytes signature : List UInt8) : Item :=
  .tag 18 (.array false [bytesItem protectedBytes, .map false [], bytesItem payloadBytes,
    bytesItem signature])

/-- `GenerateCWT`; an algorithm of 0 is detected from the key. -/
def StatusList.generateCWT (signingKey : Key) (algorithm now : Int) :
    Except String (List UInt8) := do
  let alg ← if algorithm = 0 then detectCOSEAlgorithm (crypto.kind signingKey) else .ok algorithm
  let protectedBytes := cbor.marshal (sl.protectedHeader alg)
  let payloadBytes := cbor.marshal (sl.cwtClaims zlib now)
  let signature ← (signCOSE crypto cbor protectedBytes payloadBytes signingKey alg).mapError
    ("failed to sign CWT: " ++ ·)
  return cbor.marshal (coseSign1 protectedBytes payloadBytes signature)

/-! ## GenerateJWT -/

structure JWTSigningConfig (Key : Type) where
  signingKey : Option Key
  signingMethod : Option String
  publicKey : Option Key

/-- The header without the embedded key. -/
def StatusList.jwtHeader (method : String) : Members :=
  omitEmpty (sl.keyID = "") "kid" (.str sl.keyID)
    (put "typ" (.str "statuslist+jwt") (put "alg" (.str method) []))

/-- Embed the public key in the header. -/
def embedKey (header : Members) : Option Key → Except String Members
  | none => .ok header
  | some key => ((crypto.publicKeyToJWK key).mapError
      ("failed to convert public key to JWK: " ++ ·)).map fun jwk => put "jwk" jwk header

def StatusList.generateJWT (cfg : JWTSigningConfig Key) (now : Int) : Except String Jwt :=
  match cfg.signingKey, cfg.signingMethod with
  | none, _ => .error "signing key is required"
  | some _, none => .error "signing method is required"
  | some key, some method => do
    let claims := (sl.jwtClaims zlib now).marshal numbers
    let header ← embedKey crypto (sl.jwtHeader method) cfg.publicKey
    let signature ← (crypto.jwtSign key method header claims).mapError
      ("failed to sign status list token: " ++ ·)
    return ⟨header, claims, signature⟩

end Generate

end Vc.Tokenstatuslist
