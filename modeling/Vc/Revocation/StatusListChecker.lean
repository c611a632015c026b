import Vc.Tokenstatuslist.Signing

/-!
# Checking a Token Status List

`StatusListChecker` of `pkg/revocation`: a status list is fetched, its token is
verified and unpacked, and the entry of the credential is looked up.  The
response of the endpoint, the resolution of signing keys and the segments of a
JWT are parameters.  What the JWT library checks is embedded.
-/

namespace Vc.Revocation

open Checks Entries Tokenstatuslist

/-! ## What the checker works with -/

inductive Status where
  | valid
  | invalid
  | suspended
  | unknown
  deriving DecidableEq

structure Reference where
  scheme : String
  uri : String
  index : Int

structure CheckResult where
  status : Status
  statusCode : UInt8
  checkedAt : Int
  uri : String
  index : Int

/-- The body of a response, as bytes or as the segments of a JWT. -/
structure Wire (Body : Type) where
  size : Body → Nat
  /-- the first byte is 0xD2 -/
  startsAsSign1 : Body → Bool
  bytes : Body → List UInt8
  jwt : Body → Except String Jwt

structure Response (Body : Type) where
  statusCode : Nat
  contentType : String
  body : Body

/-- `StatusListChecker`, with what its functions call. -/
structure StatusListChecker (Key Body : Type) where
  crypto : Crypto Key
  zlib : Zlib
  cbor : Cbor.Codec
  numbers : Numbers
  wire : Wire Body
  /-- `KeyResolver` -/
  resolveKey : String → String → Except String Key
  /-- `http.NewRequest`: the scheme of the URI -/
  urlScheme : String → Except String String
  /-- `httpClient.Do` -/
  httpGet : String → Except String (Response Body)

def mediaTypeJWT : String := "application/statuslist+jwt"

def mediaTypeCWT : String := "application/statuslist+cwt"

/-! ## Parsing a JWT -/

/-- The methods that the checker admits. -/
def validMethods : List String :=
  ["ES256", "ES384", "ES512", "RS256", "RS384", "RS512", "PS256", "PS384", "PS512", "EdDSA"]

/-- The methods that the JWT library knows. -/
def signingMethods : List String :=
  validMethods ++ ["HS256", "HS384", "HS512", "none"]

variable (numbers : Numbers)

def parseNumericDate (claims : Members) (key : String) : Except String (Option Int) :=
  match claims.lookup key with
  | none => .ok none
  | some (.num literal) =>
    .ok (if numbers.seconds literal = 0 then none else some (numbers.seconds literal))
  | some _ => .error (key ++ " is invalid")

/-- `verifyExpiresAt`, at an instant in nanoseconds. -/
def verifyExpiresAt (claims : Members) (now : Int) : Except String Unit := do
  let exp ← parseNumericDate numbers claims "exp"
  require (∀ date ∈ exp, now < date * 10 ^ 9) "token is expired"

def verifyNotBefore (claims : Members) (now : Int) : Except String Unit := do
  let nbf ← parseNumericDate numbers claims "nbf"
  require (∀ date ∈ nbf, date * 10 ^ 9 ≤ now) "token is not valid yet"

/-- `Validator.Validate` without options -/
def validate (claims : Members) (now : Int) : Except String Unit := do
  verifyExpiresAt numbers claims now
  verifyNotBefore numbers claims now

/-- The signing method of `ParseUnverified`. -/
def signingMethod (header : Members) : Except String String :=
  match header.lookup "alg" with
  | some (.str alg) =>
    if alg ∈ signingMethods then .ok alg
    else .error "token is unverifiable: signing method (alg) is unavailable"
  | _ => .error "token is unverifiable: signing method (alg) is unspecified"

def textMember (members : Members) (name : String) : String :=
  match members.lookup name with
  | some (.str text) => text
  | _ => ""

namespace StatusListChecker

variable {Key Body : Type} (c : StatusListChecker Key Body)

/-- The `jwt.Keyfunc` of `parseJWTStatusList`. -/
def keyFunc (token : Jwt) : Except String Key := do
  require (textMember token.claims "iss" ≠ "") "status list token missing iss claim"
  c.resolveKey (textMember token.claims "iss") (textMember token.header "kid")

variable (now : Int)

/-- `jwt.Parse` with the admitted methods. -/
def jwtParse (data : Body) : Except String Jwt := do
  let token ← c.wire.jwt data
  let alg ← signingMethod token.header
  require (alg ∈ validMethods)
    ("token signature is invalid: signing method " ++ alg ++ " is invalid")
  let key ← (c.keyFunc token).mapError
    ("token is unverifiable: error while executing keyfunc: " ++ ·)
  require (c.crypto.jwtVerify key alg token = true) "token signature is invalid"
  (validate c.numbers token.claims now).mapError ("token has invalid claims: " ++ ·)
  return token

def parseJWTStatusList (data : Body) : Except String (List UInt8) := do
  let token ← (c.jwtParse now data).mapError ("failed to verify JWT: " ++ ·)
  match token.claims.lookup "status_list" with
  | some (.obj statusListClaim) =>
    match statusListClaim.lookup "lst" with
    | some (.str lst) => decodeAndDecompress c.zlib lst
    | _ => .error "lst not found in status_list claim"
  | _ => .error "status_list claim not found or invalid"

/-! ## Parsing a CWT -/

/-- `verifySignature` of `pkg/mdoc`.  A key of the wrong type makes it panic, which the caller
recovers from. -/
def verifySignature (data signature : List UInt8) (pubKey : Key) (algorithm : Int) :
    Except String Unit :=
  let verifyECDSA (hash : Hash) (byteLen : Nat) : Except String Unit :=
    match c.crypto.kind pubKey with
    | .ecdsa _ => do
      require (signature.length = byteLen * 2) "invalid signature length"
      require (c.crypto.ecdsaVerify pubKey hash data signature = true)
        "signature verification failed"
    | _ => .error "CWT signature verification panic (key/alg mismatch)"
  match algorithm with
  | -7 => verifyECDSA .sha256 32
  | -35 => verifyECDSA .sha384 48
  | -36 => verifyECDSA .sha512 66
  | -8 =>
    match c.crypto.kind pubKey with
    | .ed25519 => require (c.crypto.ed25519Verify pubKey data signature = true)
        "EdDSA signature verification failed"
    | _ => .error "CWT signature verification panic (key/alg mismatch)"
  | _ => .error ("unsupported algorithm: " ++ toString algorithm)

/-- `Verify1` of `pkg/mdoc`, with the attached payload and no external data. -/
def verify1 (protectedBytes payloadBytes signature : List UInt8) (pubKey : Key) :
    Except String Unit := do
  let headers ← (decodeIntMap c.cbor protectedBytes).mapError
    ("failed to decode protected headers: " ++ ·)
  match headers.lookup 1 with
  | none => .error "missing algorithm in protected headers"
  | some algRaw =>
    match asInt algRaw with
    | none => .error "invalid algorithm type"
    | some algorithm =>
      let toBeSigned := c.cbor.marshal (sigStructure protectedBytes payloadBytes)
      c.verifySignature toBeSigned signature pubKey algorithm

/-- The key identifier of the protected headers. -/
def kidOf (headers : IntMap) : String :=
  match headers.lookup 4 with
  | none => ""
  | some kid =>
    match asBytes kid with
    | some bytes => (String.fromUTF8? ⟨bytes.toArray⟩).getD ""
    | none => (asString kid).getD ""

/-- The status list of verified claims. -/
def statusListOf (claims : IntMap) : Except String (List UInt8) :=
  match claims.lookup 65534 with
  | none => .error "status_list claim not found in CWT"
  | some (.map _ entries) =>
    match lstOf entries with
    | none => .error "lst not found in status_list claim"
    | some lstBytes => decompressStatuses c.zlib lstBytes
  | some _ => .error "invalid status_list claim format"

/-- The components of `COSE_Sign1`.  A component that is no byte string is read as none. -/
def components (data : List UInt8) : Except String (List UInt8 × List UInt8 × List UInt8) :=
  match c.cbor.unmarshal data with
  | .error error => .error ("failed to decode COSE_Sign1: " ++ error)
  | .ok (.tag number content) =>
    if number ≠ 18 then
      .error ("invalid COSE tag: expected 18 (COSE_Sign1), got " ++ toString number)
    else match content with
      | .array _ [protectedHeader, _, payload, signature] =>
        .ok ((asBytes protectedHeader).getD [], (asBytes payload).getD [],
          (asBytes signature).getD [])
      | _ => .error "invalid COSE_Sign1 structure"
  | .ok _ =>
    .error "failed to decode COSE_Sign1: cbor: cannot unmarshal into Go value of type cbor.Tag"

def parseCWTStatusList (data : Body) : Except String (List UInt8) := do
  let (protectedBytes, payloadBytes, signature) ← c.components (c.wire.bytes data)
  let headers ← (decodeIntMap c.cbor protectedBytes).mapError
    ("failed to decode CWT protected headers: " ++ ·)
  let claims ← (decodeIntMap c.cbor payloadBytes).mapError
    ("failed to decode CWT claims: " ++ ·)
  let key ← (c.resolveKey ((claims.lookup 1).bind asString |>.getD "") (kidOf headers)).mapError
    ("failed to resolve CWT signing key: " ++ ·)
  (c.verify1 protectedBytes payloadBytes signature key).mapError
    ("CWT signature verification failed: " ++ ·)
  c.statusListOf claims

/-! ## Checking a status -/

def parseStatusListToken (data : Body) (contentType : String) : Except String (List UInt8) :=
  if contentType = mediaTypeCWT then c.parseCWTStatusList data
  else if contentType = mediaTypeJWT then c.parseJWTStatusList now data
  else if c.wire.startsAsSign1 data then c.parseCWTStatusList data
  else c.parseJWTStatusList now data

variable {c} {contentType : String}

theorem parseStatusListToken_jwt {now : Int} {body : Body} (routed : contentType = mediaTypeJWT ∨
      contentType ≠ mediaTypeCWT ∧ c.wire.startsAsSign1 body = false) :
    c.parseStatusListToken now body contentType = c.parseJWTStatusList now body := by
  rcases routed with rfl | ⟨other, starts⟩
  · rfl
  · simp [parseStatusListToken, if_neg other, starts]

theorem parseStatusListToken_cwt {now : Int} {body : Body} (routed : contentType = mediaTypeCWT ∨
      contentType ≠ mediaTypeJWT ∧ c.wire.startsAsSign1 body = true) :
    c.parseStatusListToken now body contentType = c.parseCWTStatusList body := by
  rcases routed with rfl | ⟨other, starts⟩
  · rfl
  · simp [parseStatusListToken, if_neg other, starts]

variable (c)

def maxStatusListSize : Nat := 10 * 2 ^ 20

def fetchStatusList (uri : String) : Except String (List UInt8) := do
  let scheme ← (c.urlScheme uri).mapError ("failed to create request: " ++ ·)
  require (scheme = "http" ∨ scheme = "https")
    ("unsupported status list URI scheme: \"" ++ scheme ++ "\"")
  let resp ← (c.httpGet uri).mapError ("failed to fetch status list: " ++ ·)
  require (resp.statusCode = 200)
    ("status list request failed with status " ++ toString resp.statusCode)
  require (c.wire.size resp.body ≤ maxStatusListSize)
    "status list response exceeds maximum size (10485760 bytes)"
  c.parseStatusListToken now resp.body resp.contentType

/-- The lists that are cached, by their URI. -/
abbrev Cache := String → Option (List UInt8)

/-- `getStatusList`, with the cache that it leaves. -/
def getStatusList (cache : Cache) (uri : String) : Except String (List UInt8) × Cache :=
  match cache uri with
  | some statuses => (.ok statuses, cache)
  | none =>
    match c.fetchStatusList now uri with
    | .error error => (.error error, cache)
    | .ok statuses => (.ok statuses, Function.update cache uri (some statuses))

def mapStatusCode (code : UInt8) : Status :=
  if code = 0 then .valid
  else if code = 1 then .invalid
  else if code = 2 then .suspended
  else .unknown

def checkStatus (cache : Cache) (ref : Option Reference) : Except String CheckResult :=
  match ref with
  | none => .error "status reference is required"
  | some ref => do
    require (ref.scheme = "status_list") ("unsupported scheme: " ++ ref.scheme)
    require (ref.uri ≠ "") "status list URI is required"
    require (0 ≤ ref.index) "status index must be non-negative"
    let statuses ← (c.getStatusList now cache ref.uri).1.mapError
      ("failed to get status list: " ++ ·)
    match statuses[ref.index.toNat]? with
    | none => .error ("status index " ++ toString ref.index ++ " out of range (list size: " ++
        toString statuses.length ++ ")")
    | some statusCode => .ok {
        status := mapStatusCode statusCode
        statusCode
        checkedAt := now
        uri := ref.uri
        index := ref.index }

end StatusListChecker

/-! ## A checker over ideal signatures -/

/-- Bodies that are a JWT or bytes. -/
def Wire.segments : Wire (Jwt ⊕ List UInt8) where
  size body := body.elim (fun _ => 0) List.length
  startsAsSign1 body := body.elim (fun _ => false) fun bytes => bytes.head? = some 0xd2
  bytes body := body.elim (fun _ => []) id
  jwt body := body.elim .ok fun _ => .error "token contains an invalid number of segments"

/-- A checker whose endpoint gives one response and whose issuers have one key. -/
def StatusListChecker.answering (key : KeyKind) (resp : Response (Jwt ⊕ List UInt8)) :
    StatusListChecker KeyKind (Jwt ⊕ List UInt8) where
  crypto := .ideal
  zlib := .stored
  cbor := Cbor.plain
  numbers := .unary
  wire := .segments
  resolveKey _ _ := .ok key
  urlScheme _ := .ok "https"
  httpGet _ := .ok resp

end Vc.Revocation
