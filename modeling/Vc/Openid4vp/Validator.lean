import Vc.Openid4vp.Query
import Vc.Sdjwtvc.Resolve

/-!
# Validating an SD-JWT presentation

`VPTokenValidator.Validate` as the verifier calls it: the key-binding JWT is
signed by the key that the credential names and covers the presentation, names
the nonce and the client, and commits to the transaction data of the request.

Signatures and JWK parsing are given by `Jose`; the JSON structs that are read
from a text are given by the codec.
-/

namespace Vc.Openid4vp

open Checks Sdjwtvc List

/-- The members of a transaction_data entry that the response check reads. -/
structure EntryMembers where
  type : String
  credentialIDs : List String
  /-- `transaction_data_hashes_alg`, if it is there -/
  hashAlgs : Option Json

/-- Text encodings, with the JSON structs of this package. -/
structure Codec extends Sdjwtvc.Codec where
  /-- `json.Unmarshal` into the struct of `decodeTransactionDataEntry` -/
  unmarshalEntry : Bytes → Except String EntryMembers

/-- The kinds of key that a JWK can hold. -/
inductive KeyKind where
  | ecdsa
  | rsa
  | ed25519
  | other (type : String)
  deriving DecidableEq

/-- Keys and signatures. -/
structure Jose (Key : Type) where
  /-- `jose.ParseJWKToPublicKey` -/
  parseJWKToPublicKey : Members → Except String Key
  kind : Key → KeyKind
  /-- `jwt.Parser.Parse` with this key: the header and the claims of a JWT whose signature
  verifies -/
  parse : Key → String → Except String (Members × Members)

/-- Signatures of finitely many JWTs, each with its key, header and claims; a JWK names its key in
`kid`. -/
def Jose.ofTable (signed : List (String × String × Members × Members)) : Jose String where
  parseJWKToPublicKey jwk :=
    match jwk.lookup "kid" with
    | some (.str kid) => .ok kid
    | _ => .error "unsupported JWK"
  kind _ := .ecdsa
  parse key jwt :=
    match signed.find? fun entry => entry.1 = jwt ∧ entry.2.1 = key with
    | some (_, _, header, claims) => .ok (header, claims)
    | none => .error "token signature is invalid"

/-- What a validation fails with; a transaction_data refusal keeps its own description. -/
inductive ValidationError where
  | transactionData (description : String)
  | other (text : String)
  deriving DecidableEq

/-- `fmt.Errorf("context: %w", err)` -/
def ValidationError.within (context : String) : ValidationError → ValidationError
  | .transactionData description => .transactionData description
  | .other text => .other (context ++ ": " ++ text)

variable {α : Type}

def txError (description : String) : Except ValidationError α :=
  .error (.transactionData description)

/-- An error that is not about transaction data. -/
def failure (text : String) : Except ValidationError α :=
  .error (.other text)

/-- An error of the code that validation calls. -/
def lift : Except String α → Except ValidationError α :=
  Except.mapError .other

/-- `[]string` decoded from a JSON value. -/
def stringSlice : Json → Option (List String)
  | .null => some []
  | .arr elements => elements.mapM fun
      | .str text => some text
      | .null => some ""
      | _ => none
  | _ => none

/-! ## Transaction data -/

/-- `decodedTransactionData`; an entry without a list of algorithms has none. -/
structure DecodedTransactionData where
  raw : String
  type : String
  credentialIDs : List String
  hashAlgs : Option (List String)

/-- The algorithm where an entry names none. -/
def transactionDataHashAlgDefault : String := "sha-256"

variable (codec : Codec)

def decodeTransactionDataEntry (raw : String) :
    Except String DecodedTransactionData := do
  let decoded ← wrap "not base64url" (codec.decodeString raw)
  let members ← wrap "not a JSON object" (codec.unmarshalEntry decoded)
  if members.type = "" then .error "no type"
  else
    match members.hashAlgs with
    | none | some .null =>
      .ok { raw, type := members.type, credentialIDs := members.credentialIDs, hashAlgs := none }
    | some value =>
      match stringSlice value with
      | none | some [] => .error "transaction_data_hashes_alg is not a non-empty array"
      | some algs => .ok {
          raw
          type := members.type
          credentialIDs := members.credentialIDs
          hashAlgs := some algs }

/-- `decodeTransactionData`, from some position on. -/
def decodeTransactionDataFrom (codec : Codec) :
    Nat → List String → Except String (List DecodedTransactionData)
  | _, [] => .ok []
  | index, raw :: rest => do
    let entry ← wrap ("transaction_data[" ++ toString index ++ "]")
      (decodeTransactionDataEntry codec raw)
    let others ← decodeTransactionDataFrom codec (index + 1) rest
    return entry :: others

def decodeTransactionData (raw : List String) : Except String (List DecodedTransactionData) :=
  decodeTransactionDataFrom codec 0 raw

def transactionDataForCredential (raw : List String) (queryID : String) :
    Except String (List String) := do
  let entries ← decodeTransactionData codec raw
  return (entries.filter (queryID ∈ ·.credentialIDs)).map (·.raw)

def uncoveredTransactionData (raw answeredQueryIDs : List String) :
    Except String (List String) := do
  let entries ← decodeTransactionData codec raw
  return (entries.filter fun entry =>
    !entry.credentialIDs.any (· ∈ answeredQueryIDs)).map (·.raw)

/-- The algorithms that one entry allows. -/
def DecodedTransactionData.allowed (entry : DecodedTransactionData) : List String :=
  entry.hashAlgs.getD [transactionDataHashAlgDefault]

def allowedHashAlgs : List DecodedTransactionData → List String
  | [] => []
  | first :: rest =>
    rest.foldl (fun allowed entry => allowed.filter (· ∈ entry.allowed)) first.allowed

def newHash (alg : String) : Except String HashMethod :=
  if alg = "sha-256" then .ok .sha256
  else if alg = "sha-384" then .ok .sha384
  else if alg = "sha-512" then .ok .sha512
  else .error ("unsupported hash algorithm: " ++ alg)

def hashTransactionData (txData : List String) (hashAlg : String) :
    Except String (List String) := do
  let method ← newHash hashAlg
  return txData.map (codec.digest method)

/-- The comparison of the hashes of a KB-JWT with the expected ones, from some position on. -/
def compareHashes : Nat → List Json → List String → Except ValidationError Unit
  | index, raw :: rest, expected :: others =>
    match raw with
    | .str got =>
      if got ≠ expected then
        txError ("transaction_data_hashes[" ++ toString index ++ "] mismatch")
      else compareHashes (index + 1) rest others
    | _ => txError ("transaction_data_hashes[" ++ toString index ++ "] is not a string")
  | _, _, _ => .ok ()

/-! ## TS12 claims -/

def ts12TypePrefix : String := "urn:eudi:sca:"

def ts12AMRVocabulary (category : String) : Option (List String) :=
  if category = "knowledge" then some [
    "pin_less_than_6_digits", "pin_6_or_more_digits", "passphrase_less_than_8_chars",
    "passphrase_8_to_11_chars", "passphrase_12_or_more_chars", "pattern", "other"]
  else if category = "possession" then some [
    "key_in_remote_wscd", "key_in_local_external_wscd", "key_in_local_internal_wscd",
    "key_in_local_native_wscd", "other"]
  else if category = "inherence" then some [
    "fingerprint_device", "fingerprint_external", "face_device", "face_external", "other"]
  else none

/-- The categories that the `amr` items name, from some position on. -/
def amrCategories : Nat → List Json → Except ValidationError (List String)
  | _, [] => .ok []
  | index, item :: rest =>
    match item with
    | .obj [(category, value)] =>
      match ts12AMRVocabulary category with
      | none =>
        txError ("amr[" ++ toString index ++ "]: unknown category " ++ category.quote)
      | some vocabulary =>
        if value.str?.any (· ∈ vocabulary) then do
          let others ← amrCategories (index + 1) rest
          return category :: others
        else
          txError ("amr[" ++ toString index ++ "]: value is not a TS12 " ++ category ++ " method")
    | _ =>
      txError ("amr[" ++ toString index ++ "] is not an object with exactly one member")

/-- `strings.TrimSpace` leaves nothing. -/
def isBlank (text : String) : Bool :=
  text.toList.all (· ∈ whiteSpace)

/-- The `response_mode` of a KB-JWT. -/
def responseModeMember (kb : Members) : Except ValidationError String :=
  match kb.lookup "response_mode" with
  | some (.str text) =>
    if text = "" then txError "response_mode missing from KB-JWT" else .ok text
  | _ => txError "response_mode missing from KB-JWT"

/-- The `jti` of a KB-JWT. -/
def jtiMember (kb : Members) : Except ValidationError String :=
  match kb.lookup "jti" with
  | some (.str jti) => if isBlank jti then txError "jti missing from KB-JWT" else .ok jti
  | _ => txError "jti missing from KB-JWT"

/-- The `amr` items of a KB-JWT. -/
def amrItems (kb : Members) : Except ValidationError (List Json) :=
  match kb.lookup "amr" with
  | some (.arr (first :: rest)) => .ok (first :: rest)
  | _ => txError "amr missing from KB-JWT or not an array"

/-- `validateTS12Claims`; the result is the jti. -/
def validateTS12Claims (responseModes : List String) (kb : Members) :
    Except ValidationError String := do
  let amr ← amrItems kb
  let categories ← amrCategories 0 amr
  require (2 ≤ categories.dedup.length) (.transactionData ("amr names " ++
    toString categories.dedup.length ++
    " authentication categories, TS12 requires at least 2 different ones"))
  let responseMode ← responseModeMember kb
  require (responseModes ≠ [])
    (.transactionData "cannot verify response_mode: no issued response modes configured")
  require (responseMode ∈ responseModes) (.transactionData ("response_mode " ++
    responseMode.quote ++ " is not one this request was issued with"))
  jtiMember kb

/-! ## The validator -/

/-- `VPTokenValidator` as the verifier configures it. -/
structure VPTokenValidator where
  nonce : String
  clientID : String
  transactionData : List String := []
  credentialQueryID : String := ""
  responseModes : List String := []
  /-- the time of the check, in seconds -/
  now : Int

/-- `keyBindingClockSkew`, in seconds. -/
def keyBindingClockSkew : Int := 30

/-- `defaultMaxKeyBindingAge`, in seconds. -/
def defaultMaxKeyBindingAge : Int := 600

section Validate

variable {Key : Type} (jose : Jose Key) (codec : Codec) (fuel : Nat)

/-- `Token.Parse`; a walk that does not end within the fuel is no parse. -/
def parseToken (token : Sdjwtvc.Token) : Except String ParsedCredential :=
  (token.parse codec.toCodec fuel).getD (.error "no result")

def parseKeyBindingJWT (kbJWT : String) : Except String Members :=
  match split '.' kbJWT with
  | [_, body, _] => do
    let payloadBytes ← wrap "failed to decode payload" (codec.decodeString body)
    wrap "failed to parse claims" (codec.unmarshalObject payloadBytes)
  | _ => .error "invalid JWT format"

def validateKeyBindingAge (now : Int) (claims : Members) : Except ValidationError Unit :=
  match claims.lookup "iat" with
  | none => failure "key binding JWT carries no iat, which it is required to carry"
  | some (.num literal) =>
    if codec.seconds literal = 0 then
      failure "key binding JWT carries no iat, which it is required to carry"
    else if codec.seconds literal > now + keyBindingClockSkew then
      failure "key binding JWT is dated into the future"
    else if now - codec.seconds literal > defaultMaxKeyBindingAge + keyBindingClockSkew then
      failure "key binding JWT was made too long ago"
    else .ok ()
  | some _ => failure "key binding JWT's iat is not a timestamp"

def issuerSDAlg (vpToken : Sdjwtvc.Token) : Except String String := do
  let parts ← wrap "reading the issuer-signed payload" vpToken.split
  let payload ← wrap "decoding the issuer-signed payload" (codec.decodeString parts.body)
  let claims ← wrap "parsing the issuer-signed payload" (codec.unmarshalObject payload)
  match claims.lookup "_sd_alg" with
  | none => return "sha-256"
  | some (.str algName) =>
    if algName = "" then
      .error ("credential declares a non-string _sd_alg (string), so the hash sd_hash was taken " ++
        "under is unknown")
    else return algName
  | some value =>
    .error ("credential declares a non-string _sd_alg (" ++ goType value ++
      "), so the hash sd_hash was taken under is unknown")

/-- The token up to and with its last `~`. -/
def presentedPart (vpToken : String) : String :=
  match split '~' vpToken with
  | [_] => vpToken
  | parts => join '~' (parts.dropLast ++ [""])

/-- The key that a credential names in `cnf`. -/
def holderJWK (claims : Members) : Except String Members :=
  match claims.lookup "cnf" with
  | some (.obj cnf) =>
    match cnf.lookup "jwk" with
    | some (.obj jwk) => .ok jwk
    | _ => .error "credential's cnf claim carries no jwk"
  | _ => .error "credential carries no cnf claim, so it names no holder"

/-- The sum that `sd_hash` has to be. -/
def sdHash (vpToken : Sdjwtvc.Token) : Except String String := do
  let algName ← issuerSDAlg codec vpToken
  let method ← wrap ("credential declares _sd_alg " ++ algName.quote) (getHashFromAlgorithm algName)
  return codec.digest method (presentedPart vpToken)

/-- The kinds of key that can prove possession. -/
def checkKind : KeyKind → Except ValidationError Unit
  | .other type =>
    failure ("credential names a " ++ type ++ " holder key, which cannot prove possession")
  | _ => .ok ()

def validateHolderBinding (now : Int) (vpToken : Sdjwtvc.Token) (parsed : ParsedCredential) :
    Except ValidationError Unit := do
  require (parsed.keyBinding ≠ []) (.other "missing holder binding proof")
  let jwk ← lift (holderJWK parsed.claims)
  let holderKey ← lift
    (wrap "reading the holder key the credential names" (jose.parseJWKToPublicKey jwk))
  checkKind (jose.kind holderKey)
  let token ← lift (wrap "key binding JWT is not signed by the key the credential names"
    (jose.parse holderKey (join '.' parsed.keyBinding)))
  let typ := ((token.1.lookup "typ").bind Json.str?).getD ""
  require (typ = "kb+jwt")
    (.other ("key binding JWT has typ " ++ typ.quote ++ ", which must be kb+jwt"))
  validateKeyBindingAge codec now token.2
  let want ← lift (sdHash codec vpToken)
  require (((token.2.lookup "sd_hash").bind Json.str?).getD "" = want)
    (.other "key binding JWT's sd_hash does not cover the presentation it arrived in")

/-- `validateNonce` and `validateAudience`: a claim of the key-binding JWT is as expected. -/
def validateClaim (name what : String) (expected : String) (parsed : ParsedCredential) :
    Except ValidationError Unit := do
  require (parsed.keyBinding ≠ []) (.other ("no key binding found for " ++ what ++ " validation"))
  let kbClaims ← lift (wrap "failed to parse key binding JWT"
    (parseKeyBindingJWT codec (join '.' parsed.keyBinding)))
  match kbClaims.lookup name with
  | some (.str got) =>
    require (got = expected)
      (.other (what ++ " mismatch: expected " ++ expected ++ ", got " ++ got))
  | _ => failure (what ++ " not found in key binding")

def validateNonce (nonce : String) : ParsedCredential → Except ValidationError Unit :=
  validateClaim codec "nonce" "nonce" nonce

def validateAudience (clientID : String) : ParsedCredential → Except ValidationError Unit :=
  validateClaim codec "aud" "audience" clientID

/-- The algorithm under which a KB-JWT commits to its entries. -/
def committedHashAlg (entries : List DecodedTransactionData) (kbClaims : Members) :
    Except ValidationError String :=
  match kbClaims.lookup "transaction_data_hashes_alg" with
  | some (.str alg) =>
    if alg = "" then txError "transaction_data_hashes_alg in KB-JWT must be a string"
    else .ok alg
  | some _ => txError "transaction_data_hashes_alg in KB-JWT must be a string"
  | none =>
    if entries.any (·.hashAlgs.isSome) then
      txError "transaction_data_hashes_alg missing from KB-JWT"
    else .ok transactionDataHashAlgDefault

/-- The hashes that a KB-JWT lists. -/
def listedHashes (kbClaims : Members) : Except ValidationError (List Json) :=
  match kbClaims.lookup "transaction_data_hashes" with
  | some (.arr (first :: rest)) => .ok (first :: rest)
  | _ => txError "transaction_data_hashes missing from KB-JWT"

/-- The hashes of a KB-JWT are those of the entries, in their order. -/
def checkHashes (entries : List DecodedTransactionData) (kbClaims : Members) :
    Except ValidationError Unit := do
  let hashAlg ← committedHashAlg entries kbClaims
  require (hashAlg ∈ allowedHashAlgs entries) (.transactionData
    ("transaction_data_hashes_alg " ++ hashAlg.quote ++ " is not one the request allowed"))
  let hashesRaw ← listedHashes kbClaims
  require (hashesRaw.length = entries.length) (.transactionData
    ("transaction_data_hashes count mismatch: expected " ++ toString entries.length ++
      ", got " ++ toString hashesRaw.length))
  let expectedHashes ← (hashTransactionData codec (entries.map (·.raw)) hashAlg).mapError
    fun error => .transactionData
      ("unsupported transaction_data_hashes_alg " ++ hashAlg.quote ++ ": " ++ error)
  compareHashes 0 hashesRaw expectedHashes

variable (validator : VPTokenValidator)

/-- The entries that a validator checks: those of its credential query, or all. -/
def VPTokenValidator.scoped (entries : List DecodedTransactionData) : List DecodedTransactionData :=
  if validator.credentialQueryID ≠ "" then
    entries.filter (validator.credentialQueryID ∈ ·.credentialIDs)
  else entries

/-- The checks of entries that are bound to the credential; the result is the jti of an SCA
presentation. -/
def validateBound (responseModes : List String) (entries : List DecodedTransactionData)
    (parsed : ParsedCredential) : Except ValidationError String := do
  let kbClaims ← lift (wrap "failed to parse key binding JWT"
    (parseKeyBindingJWT codec (join '.' parsed.keyBinding)))
  checkHashes codec entries kbClaims
  if entries.any (ts12TypePrefix.isPrefixOf ·.type) then
    validateTS12Claims responseModes kbClaims
  else .ok ""

/-- `validateTransactionData`; the result is the jti of an SCA presentation. -/
def validateTransactionData (parsed : ParsedCredential) :
    Except ValidationError String := do
  require (parsed.keyBinding ≠ [])
    (.other "no key binding found for transaction data validation")
  let decoded ← (decodeTransactionData codec validator.transactionData).mapError .transactionData
  if validator.scoped decoded = [] then .ok ""
  else validateBound codec validator.responseModes (validator.scoped decoded) parsed

/-- `VPTokenValidator.Validate`; the result is `PresentedJTI`. -/
def VPTokenValidator.validate (vpToken : Sdjwtvc.Token) :
    Except ValidationError String := do
  let parsed ← lift (wrap "invalid VP Token format" (parseToken codec fuel vpToken))
  (validateHolderBinding jose codec validator.now vpToken parsed).mapError
    (.within "holder binding validation failed")
  (if validator.nonce = "" then .ok () else validateNonce codec validator.nonce parsed).mapError
    (.within "nonce validation failed")
  (if validator.clientID = "" then .ok ()
    else validateAudience codec validator.clientID parsed).mapError
      (.within "audience validation failed")
  (if validator.transactionData = [] then .ok ""
    else validateTransactionData codec validator parsed).mapError
      (.within "transaction data validation failed")

end Validate

/-! ## What an accepted presentation has shown -/

variable {value : α}

@[simp]
theorem lift_eq_ok_iff {outcome : Except String α} :
    lift outcome = .ok value ↔ outcome = .ok value :=
  mapError_eq_ok_iff

@[simp]
theorem txError_ne_ok {description : String} :
    (txError description : Except ValidationError α) ≠ .ok value :=
  nofun

@[simp]
theorem failure_ne_ok {text : String} : (failure text : Except ValidationError α) ≠ .ok value :=
  nofun

variable {entries : List DecodedTransactionData}

theorem mem_foldl_allowed_iff {start : List String} {alg : String} :
    alg ∈ entries.foldl (fun allowed entry => allowed.filter (· ∈ entry.allowed)) start ↔
      alg ∈ start ∧ ∀ entry ∈ entries, alg ∈ entry.allowed := by
  induction entries generalizing start with
  | nil => simp
  | cons entry rest ih => simp [ih, and_assoc]

/-- An algorithm that is allowed is allowed by every entry. -/
theorem mem_allowed_of_mem_allowedHashAlgs {alg : String}
    (member : alg ∈ allowedHashAlgs entries) : ∀ entry ∈ entries, alg ∈ entry.allowed := by
  cases entries with
  | nil => exact nofun
  | cons first rest =>
    rw [allowedHashAlgs, mem_foldl_allowed_iff] at member
    exact forall_mem_cons.mpr member

section Accepted

variable {Key : Type} {jose : Jose Key} {codec : Codec} {fuel : Nat}

theorem compareHashes_eq_ok {index : Nat} {hashes : List Json} {expected : List String}
    (length : hashes.length = expected.length)
    (same : compareHashes index hashes expected = .ok ()) : hashes = expected.map .str := by
  induction hashes generalizing index expected with
  | nil =>
    cases expected with
    | nil => rfl
    | cons _ _ => simp at length
  | cons raw rest ih =>
    cases expected with
    | nil => simp at length
    | cons first others =>
      unfold compareHashes at same
      split at same
      · next got =>
          split_ifs at same with different
          · cases same
          · rw [map_cons, ← not_not.mp different, ih (by simpa using length) same]
      · cases same

/-- The hashes that a key-binding JWT lists for entries. -/
structure CommitsTo (codec : Codec) (entries : List DecodedTransactionData) (kbClaims : Members) :
    Prop where
  hashes : ∃ alg method, newHash alg = .ok method ∧ (∀ entry ∈ entries, alg ∈ entry.allowed) ∧
    committedHashAlg entries kbClaims = .ok alg ∧
    kbClaims.lookup "transaction_data_hashes" =
      some (.arr (entries.map fun entry => .str (codec.digest method entry.raw)))

theorem commitsTo_of_checkHashes {kbClaims : Members}
    (passed : checkHashes codec entries kbClaims = .ok ()) : CommitsTo codec entries kbClaims := by
  simp only [checkHashes, bind_eq_ok_iff, require_eq_ok_iff, mapError_eq_ok_iff,
    hashTransactionData] at passed
  obtain ⟨alg, committed, _, allowed, hashesRaw, listed, _, counted, _, ⟨method, hash, ⟨⟩⟩, same⟩ :=
    passed
  refine ⟨alg, method, hash, mem_allowed_of_mem_allowedHashAlgs allowed, committed, ?_⟩
  have equal := compareHashes_eq_ok (by simpa using counted) same
  rw [map_map, map_map] at equal
  unfold listedHashes at listed
  split at listed
  · next found =>
      rw [found, Except.ok.inj listed, equal]
      rfl
  · cases listed

/-- The key-binding JWT is signed by the key that the credential names. -/
def SignedByHolder (jose : Jose Key) (parsed : ParsedCredential) : Prop :=
  ∃ jwk holderKey token, holderJWK parsed.claims = .ok jwk ∧
    jose.parseJWKToPublicKey jwk = .ok holderKey ∧
    jose.parse holderKey (join '.' parsed.keyBinding) = .ok token

/-- The key-binding JWT has a claim with this text. -/
def KeyBindingSays (codec : Codec) (parsed : ParsedCredential) (name text : String) : Prop :=
  ∃ kbClaims, parseKeyBindingJWT codec (join '.' parsed.keyBinding) = .ok kbClaims ∧
    kbClaims.lookup name = some (.str text)

/-- The key-binding JWT lists the hashes of entries. -/
def KeyBindingCommitsTo (codec : Codec) (parsed : ParsedCredential)
    (entries : List DecodedTransactionData) : Prop :=
  ∃ kbClaims, parseKeyBindingJWT codec (join '.' parsed.keyBinding) = .ok kbClaims ∧
    CommitsTo codec entries kbClaims

variable {parsed : ParsedCredential} {vpToken : Sdjwtvc.Token}

theorem signedByHolder_of_validateHolderBinding {now : Int}
    (passed : validateHolderBinding jose codec now vpToken parsed = .ok ()) :
    SignedByHolder jose parsed := by
  simp only [validateHolderBinding, bind_eq_ok_iff, lift_eq_ok_iff, wrap_eq_ok_iff] at passed
  obtain ⟨_, _, jwk, named, holderKey, read, _, _, token, signed, _⟩ := passed
  exact ⟨jwk, holderKey, token, named, read, signed⟩

theorem keyBindingSays_of_validateClaim {name what expected : String}
    (passed : validateClaim codec name what expected parsed = .ok ()) :
    KeyBindingSays codec parsed name expected := by
  simp only [validateClaim, bind_eq_ok_iff, lift_eq_ok_iff, wrap_eq_ok_iff] at passed
  obtain ⟨_, _, kbClaims, read, same⟩ := passed
  refine ⟨kbClaims, read, ?_⟩
  split at same
  · next got found => rw [found, (require_eq_ok_iff.mp same)]
  · exact absurd same failure_ne_ok

variable {validator : VPTokenValidator}

/-- Entries that a validator checks are committed to by an accepted presentation. -/
theorem keyBindingCommitsTo_of_validateTransactionData
    {jti : String} {decoded : List DecodedTransactionData}
    (passed : validateTransactionData codec validator parsed = .ok jti)
    (read : decodeTransactionData codec validator.transactionData = .ok decoded)
    (nonempty : validator.scoped decoded ≠ []) :
    KeyBindingCommitsTo codec parsed (validator.scoped decoded) := by
  simp only [validateTransactionData, read, Except.mapError, bind_eq_ok_iff, Except.ok.injEq,
    exists_eq_left', if_neg nonempty, validateBound, lift_eq_ok_iff, wrap_eq_ok_iff] at passed
  obtain ⟨_, _, kbClaims, parse, _, hashes, _⟩ := passed
  exact ⟨kbClaims, parse, commitsTo_of_checkHashes hashes⟩

/-- What validation has established about a presentation that it accepts. -/
structure Validated (jose : Jose Key) (codec : Codec) (validator : VPTokenValidator)
    (parsed : ParsedCredential) (jti : String) : Prop where
  signed : SignedByHolder jose parsed
  nonce : validator.nonce ≠ "" → KeyBindingSays codec parsed "nonce" validator.nonce
  audience : validator.clientID ≠ "" → KeyBindingSays codec parsed "aud" validator.clientID
  transactionData : validator.transactionData ≠ [] →
    validateTransactionData codec validator parsed = .ok jti

theorem validate_eq_ok {jti : String}
    (passed : validator.validate jose codec fuel vpToken = .ok jti) :
    ∃ parsed, parseToken codec fuel vpToken = .ok parsed ∧
      Validated jose codec validator parsed jti := by
  simp only [VPTokenValidator.validate, bind_eq_ok_iff, lift_eq_ok_iff, wrap_eq_ok_iff,
    mapError_eq_ok_iff] at passed
  obtain ⟨parsed, read, _, holder, _, nonce, _, audience, transactionData⟩ := passed
  refine ⟨parsed, read, signedByHolder_of_validateHolderBinding holder, ?_, ?_, ?_⟩
  · intro present
    rw [if_neg present] at nonce
    exact keyBindingSays_of_validateClaim nonce
  · intro present
    rw [if_neg present] at audience
    exact keyBindingSays_of_validateClaim audience
  · intro present
    rwa [if_neg present] at transactionData

end Accepted

end Vc.Openid4vp
