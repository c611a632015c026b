import Vc.Revocation.StatusListChecker

/-!
# The two encodings of a Status List Token

A status list is published as a JWT and as a CWT.  For tokens made from one
status list with one key, this file computes what each of the two parsers of
`StatusListChecker` accepts, and compares the two.  The JWT parser checks the
issuer, the expiration and the admitted methods; the CWT parser checks none of
them, and verifies ECDSA signatures of the algorithm's own length only.
-/

namespace Vc.Revocation

open Checks Entries Tokenstatuslist StatusListChecker StatusList Except JWTClaims Cbor Option Crypto

variable {Key Body : Type} {c : StatusListChecker Key Body} {sl : StatusList}

/-! ## Reading a CWT -/

/-- The claims of a CWT, as its parser reads them. -/
theorem decodeIntMap_cwtClaims (c : StatusListChecker Key Body) (sl : StatusList) (issued : Int) :
    ∃ claims entries, decodeIntMap c.cbor (c.cbor.marshal (sl.cwtClaims c.zlib issued)) =
        .ok claims ∧
      claims.lookup 1 = some (textItem sl.issuer) ∧
      claims.lookup 65534 = some (.map false entries) ∧
      lstOf entries = some (c.zlib.compress sl.statuses) := by
  unfold decodeIntMap
  rw [c.cbor.lossless]
  unfold cwtClaims optionalEntry
  split_ifs <;> exact ⟨_, _, rfl, rfl, rfl, congrArg some (List.append_nil _)⟩

/-- The protected header of a CWT, as its parser reads it. -/
theorem decodeIntMap_protectedHeader (c : StatusListChecker Key Body) (sl : StatusList)
    (alg : Int) :
    ∃ headers, decodeIntMap c.cbor (c.cbor.marshal (sl.protectedHeader alg)) = .ok headers ∧
      headers.lookup 1 = some (intItem alg) ∧
      kidOf headers = sl.keyID := by
  unfold decodeIntMap
  rw [c.cbor.lossless]
  unfold protectedHeader optionalEntry
  split_ifs with named
  · exact ⟨_, rfl, rfl, congrArg (getD · "") (asString_textItem _)⟩
  · have unnamed : sl.keyID = "" := by simpa using named
    exact ⟨_, rfl, rfl, unnamed.symm⟩

theorem components_coseSign1 (c : StatusListChecker Key Body)
    (protectedBytes payloadBytes signature : List UInt8) :
    c.components (c.cbor.marshal (coseSign1 protectedBytes payloadBytes signature)) =
      .ok (protectedBytes, payloadBytes, signature) := by
  unfold components coseSign1
  rw [c.cbor.lossless]
  simp [bytesItem, asBytes]

/-- The curve whose signatures an algorithm verifies. -/
def coseCurve : Int → Option Curve
  | -7 => some .p256
  | -35 => some .p384
  | -36 => some .p521
  | _ => none

variable {key : Key} {alg : Int} {protectedBytes payloadBytes signature : List UInt8}

theorem signCOSE_eq_ok
    (signed : signCOSE c.crypto c.cbor protectedBytes payloadBytes key alg = .ok signature) :
    (∃ hash curve, coseAlgorithm alg = some (true, hash) ∧ c.crypto.kind key = .ecdsa curve ∧
      signature = c.crypto.ecdsaSign key hash
        (c.cbor.marshal (sigStructure protectedBytes payloadBytes))) ∨
    ∃ hash, coseAlgorithm alg = some (false, hash) ∧ c.crypto.kind key = .rsa := by
  unfold signCOSE at signed
  split at signed
  · exact absurd signed nofun
  · next hash curve algorithm kind =>
      exact .inl ⟨hash, curve, algorithm, kind, (ok.inj signed).symm⟩
  · exact absurd signed nofun
  · next hash algorithm kind => exact .inr ⟨hash, algorithm, kind⟩
  · exact absurd signed nofun

/-- The ECDSA algorithms, with their hashes and the curves of their length. -/
theorem coseAlgorithm_ecdsa (c : StatusListChecker Key Body) {hash : Hash}
    (known : coseAlgorithm alg = some (true, hash)) :
    ∃ curve, coseCurve alg = some curve ∧ ∀ data signature other,
        c.verifySignature data signature other alg = .ok () ↔
          (∃ curve, c.crypto.kind other = .ecdsa curve) ∧ signature.length = 2 * curve.byteLen ∧
            c.crypto.ecdsaVerify other hash data signature = true := by
  unfold coseAlgorithm at known
  split at known <;> cases known
  all_goals
    refine ⟨_, rfl, fun data signature other => ?_⟩
    unfold verifySignature
    cases c.crypto.kind other <;> simp [Curve.byteLen]

theorem Curve.byteLen_injective : Function.Injective Curve.byteLen := by
  rintro (_ | _ | _ | _) (_ | _ | _ | _) same <;> first | rfl | exact absurd same (by decide)

/-- The signature that `signCOSE` made is verified under an algorithm of ECDSA whose length is that
of the key's curve, with that key. -/
theorem verifySignature_signed (sound : c.crypto.Sound)
    (signed : signCOSE c.crypto c.cbor protectedBytes payloadBytes key alg = .ok signature)
    (other : Key) :
    c.verifySignature (c.cbor.marshal (sigStructure protectedBytes payloadBytes)) signature other
        alg = .ok () ↔
      other = key ∧ ∃ curve, c.crypto.kind key = .ecdsa curve ∧ coseCurve alg = some curve := by
  rcases signCOSE_eq_ok signed with ⟨hash, curve, known, kind, rfl⟩ | ⟨hash, known, kind⟩
  · obtain ⟨length, sized, verified⟩ := coseAlgorithm_ecdsa c known
    rw [verified, sound.ecdsaLength kind, sound.ecdsa kind, sized]
    constructor
    · rintro ⟨_, same, rfl⟩
      have equal : curve = length :=
        Curve.byteLen_injective (Nat.eq_of_mul_eq_mul_left Nat.two_pos same)
      exact ⟨rfl, curve, kind, congrArg _ equal.symm⟩
    · rintro ⟨rfl, curve', kind', equal⟩
      cases kind.symm.trans kind'
      cases equal
      exact ⟨⟨curve, kind⟩, rfl, rfl⟩
  · -- no algorithm of RSASSA-PSS is verified
    unfold coseAlgorithm at known
    split at known <;> cases known <;> exact ⟨nofun, fun ⟨_, _, _, sized⟩ => absurd sized nofun⟩

theorem asInt_of_coseAlgorithm {known : Bool × Hash}
    (algorithm : coseAlgorithm alg = some known) : asInt (intItem alg) = some alg := by
  unfold coseAlgorithm at algorithm
  split at algorithm <;> first | rfl | exact absurd algorithm nofun

/-- The COSE algorithm of the configuration, where 0 stands for the one of the key, is the ECDSA
algorithm of the key's curve. -/
def CurveAlgorithm (crypto : Crypto Key) (key : Key) (algorithm : Int) : Prop :=
  ∃ curve, crypto.kind key = .ecdsa curve ∧ (algorithm = 0 ∨ coseCurve algorithm = some curve)

variable {algorithm issued : Int}

theorem generateCWT_eq_ok {bytes : List UInt8}
    (generated : sl.generateCWT c.crypto c.zlib c.cbor key algorithm issued = .ok bytes) :
    ∃ alg signature,
      (algorithm = 0 ∧ detectCOSEAlgorithm (c.crypto.kind key) = .ok alg ∨
        algorithm ≠ 0 ∧ alg = algorithm) ∧
      signCOSE c.crypto c.cbor (c.cbor.marshal (sl.protectedHeader alg))
        (c.cbor.marshal (sl.cwtClaims c.zlib issued)) key alg = .ok signature ∧
      bytes = c.cbor.marshal (coseSign1 (c.cbor.marshal (sl.protectedHeader alg))
        (c.cbor.marshal (sl.cwtClaims c.zlib issued)) signature) := by
  unfold generateCWT at generated
  split_ifs at generated with detected
  · simp only [bind_eq_ok_iff, mapError_eq_ok_iff] at generated
    obtain ⟨alg, chosen, signature, signed, written⟩ := generated
    exact ⟨alg, signature, .inl ⟨detected, chosen⟩, signed, (ok.inj written).symm⟩
  · simp only [bind_eq_ok_iff, mapError_eq_ok_iff] at generated
    obtain ⟨alg, chosen, signature, signed, written⟩ := generated
    exact ⟨alg, signature, .inr ⟨detected, (ok.inj chosen).symm⟩, signed, (ok.inj written).symm⟩

theorem curveAlgorithm_iff {alg : Int}
    (chosen : algorithm = 0 ∧ detectCOSEAlgorithm (c.crypto.kind key) = .ok alg ∨
      algorithm ≠ 0 ∧ alg = algorithm) :
    (∃ curve, c.crypto.kind key = .ecdsa curve ∧ coseCurve alg = some curve) ↔
      CurveAlgorithm c.crypto key algorithm := by
  rcases chosen with ⟨rfl, detected⟩ | ⟨given, rfl⟩
  · have own : ∀ curve, c.crypto.kind key = .ecdsa curve → coseCurve alg = some curve := by
      intro curve kind
      rw [kind] at detected
      cases curve <;> cases detected <;> rfl
    exact exists_congr fun curve => by simpa using own _
  · exact exists_congr fun curve => by simp [given]

variable {body : Body}

theorem parseCWTStatusList_generated (sound : c.crypto.Sound)
    (generated : sl.generateCWT c.crypto c.zlib c.cbor key algorithm issued =
      .ok (c.wire.bytes body)) (statuses : List UInt8) :
    c.parseCWTStatusList body = .ok statuses ↔
      c.resolveKey sl.issuer sl.keyID = .ok key ∧ CurveAlgorithm c.crypto key algorithm ∧
        decompressStatuses c.zlib (c.zlib.compress sl.statuses) = .ok statuses := by
  obtain ⟨alg, signature, chosen, signed, bytes⟩ := generateCWT_eq_ok generated
  obtain ⟨claims, entries, payload, issuer, member, lst⟩ := decodeIntMap_cwtClaims c sl issued
  obtain ⟨headers, header, headerAlg, kid⟩ := decodeIntMap_protectedHeader c sl alg
  have readAlg : asInt (intItem alg) = some alg := by
    rcases signCOSE_eq_ok signed with ⟨_, _, known, _⟩ | ⟨_, known, _⟩ <;>
      exact asInt_of_coseAlgorithm known
  have verified : ∀ other, c.verify1 (c.cbor.marshal (sl.protectedHeader alg))
      (c.cbor.marshal (sl.cwtClaims c.zlib issued)) signature other = .ok () ↔
        other = key ∧ CurveAlgorithm c.crypto key algorithm := by
    intro other
    rw [← curveAlgorithm_iff chosen, ← verifySignature_signed sound signed _]
    simp [verify1, header, headerAlg, readAlg, Except.mapError]
  have lists : c.statusListOf claims = decompressStatuses c.zlib (c.zlib.compress sl.statuses) := by
    simp [statusListOf, member, lst]
  have named : ((claims.lookup 1).bind asString).getD "" = sl.issuer := by
    rw [issuer, bind_some, asString_textItem, getD_some]
  rw [← lists]
  unfold parseCWTStatusList
  simp only [bytes, components_coseSign1, bind_eq_ok_iff, mapError_eq_ok_iff, ok.injEq,
    exists_eq_left', header, payload, named, kid, verified]
  constructor
  · rintro ⟨other, resolved, _, ⟨rfl, curve⟩, done⟩
    exact ⟨resolved, curve, done⟩
  · rintro ⟨resolved, curve, done⟩
    exact ⟨key, resolved, (), ⟨rfl, curve⟩, done⟩

/-! ## Reading a JWT -/

/-- The second at which the tokens expire. -/
def expiration (sl : StatusList) (issued : Int) : Option Int :=
  if 0 < sl.expiresIn then some (unix (issued + sl.expiresIn)) else none

/-- The tokens have expired. -/
def Expired (sl : StatusList) (issued now : Int) : Prop :=
  ∃ date ∈ expiration sl issued, date * 10 ^ 9 ≤ now

theorem lookup_omitEmpty (empty : Bool) (name : String) (value : Json) (members : Members)
    (other : String) :
    (omitEmpty empty name value members).lookup other =
      if other = name ∧ empty = false then some value else members.lookup other := by
  cases empty <;> simp [omitEmpty]

section Claims

variable (c) (sl) (issued)

/-- The claims of the generated JWT. -/
def claimsOf : Members :=
  (sl.jwtClaims c.zlib issued).marshal c.numbers

theorem textMember_iss : textMember (claimsOf c sl issued) "iss" = sl.issuer := by
  by_cases named : sl.issuer = "" <;>
    simp [textMember, claimsOf, marshal, jwtClaims, lookup_omitEmpty, named]

theorem lookup_exp : (claimsOf c sl issued).lookup "exp" =
    (expiration sl issued).map fun date => .num (c.numbers.literal date) := by
  by_cases expires : 0 < sl.expiresIn <;>
    simp [claimsOf, marshal, jwtClaims, lookup_omitEmpty, expiration, expires]

theorem lookup_nbf : (claimsOf c sl issued).lookup "nbf" = none := by
  simp [claimsOf, marshal, jwtClaims, lookup_omitEmpty]

theorem lookup_statusList : ∃ members,
    (claimsOf c sl issued).lookup "status_list" = some (.obj members) ∧
      members.lookup "lst" = some (.str (compressAndEncode c.zlib sl.statuses)) := by
  simp [claimsOf, marshal, jwtClaims, lookup_omitEmpty]

/-- The validator refuses an expired token, unless it expired in the first second of the epoch. -/
theorem validate_claimsOf (now : Int) :
    validate c.numbers (claimsOf c sl issued) now = .ok () ↔
      ∀ date ∈ expiration sl issued, date ≠ 0 → now < date * 10 ^ 9 := by
  simp only [validate, verifyExpiresAt, verifyNotBefore, parseNumericDate, lookup_exp, lookup_nbf]
  cases expiration sl issued with
  | none => simp
  | some date =>
    by_cases epoch : date = 0 <;> simp [c.numbers.exact, epoch]

end Claims

variable {publicKey : Option Key} {method : String}

theorem embedKey_eq_ok {header : Members}
    (embedded : embedKey c.crypto (sl.jwtHeader method) publicKey = .ok header) :
    header.lookup "alg" = some (.str method) ∧ textMember header "kid" = sl.keyID := by
  have kept : ∀ name, name ≠ "jwk" → header.lookup name = (sl.jwtHeader method).lookup name := by
    intro name other
    cases publicKey with
    | none =>
      cases embedded
      rfl
    | some key =>
      obtain ⟨jwk, _, rfl⟩ := map_eq_ok_iff.mp embedded
      rw [lookup_put, if_neg other]
  unfold textMember
  rw [kept "alg" (by decide), kept "kid" (by decide)]
  by_cases named : sl.keyID = "" <;> simp [jwtHeader, lookup_omitEmpty, named]

variable {token : Jwt}

/-- The JWT library admits the method and the claims. -/
def Admitted (sl : StatusList) (method : String) (issued now : Int) : Prop :=
  method ∈ validMethods ∧ sl.issuer ≠ "" ∧
    ∀ date ∈ expiration sl issued, date ≠ 0 → now < date * 10 ^ 9

section Generated

variable (generated : sl.generateJWT c.crypto c.zlib c.numbers
  ⟨some key, some method, publicKey⟩ issued = .ok token)

include generated

theorem generateJWT_eq_ok :
    token.header.lookup "alg" = some (.str method) ∧ textMember token.header "kid" = sl.keyID ∧
      token.claims = claimsOf c sl issued ∧
      c.crypto.jwtSign key method token.header token.claims = .ok token.signature := by
  simp only [generateJWT, bind_eq_ok_iff, mapError_eq_ok_iff] at generated
  obtain ⟨header, embedded, signature, signed, written⟩ := generated
  cases written
  obtain ⟨alg, kid⟩ := embedKey_eq_ok embedded
  exact ⟨alg, kid, rfl, signed⟩

variable (sound : c.crypto.Sound) (read : c.wire.jwt body = .ok token) (now : Int)

include sound read

theorem jwtParse_generated (parsed : Jwt) :
    c.jwtParse now body = .ok parsed ↔ parsed = token ∧
      c.resolveKey sl.issuer sl.keyID = .ok key ∧ Admitted sl method issued now := by
  obtain ⟨alg, kid, claims, signed⟩ := generateJWT_eq_ok generated
  have signer : ∀ other, c.crypto.jwtVerify other method token = true ↔ other = key :=
    sound.jwt signed
  have resolution : ∀ other, c.keyFunc token = .ok other ↔
      sl.issuer ≠ "" ∧ c.resolveKey sl.issuer sl.keyID = .ok other := by
    intro other
    simp [keyFunc, claims, textMember_iss, kid]
  unfold jwtParse Admitted
  simp only [bind_eq_ok_iff, mapError_eq_ok_iff, require_eq_ok_iff]
  constructor
  · rintro ⟨token', read', method', known, _, valid, other, found, _, verified, _, validated, done⟩
    cases read.symm.trans read'
    obtain ⟨issuer, resolved⟩ := (resolution other).mp found
    have same : method' = method := by
      rw [signingMethod, alg] at known
      dsimp only at known
      split_ifs at known
      exact (ok.inj known).symm
    subst same
    cases (signer other).mp verified
    rw [claims, validate_claimsOf] at validated
    exact ⟨(ok.inj done).symm, resolved, valid, issuer, validated⟩
  · rintro ⟨rfl, resolved, valid, issuer, fresh⟩
    have known : signingMethod parsed.header = .ok method := by
      rw [signingMethod, alg]
      exact if_pos (List.mem_append_left _ valid)
    have validated := (validate_claimsOf c sl issued now).mpr fresh
    rw [← claims] at validated
    exact ⟨parsed, read, method, known, (), valid, key,
      (resolution key).mpr ⟨issuer, resolved⟩, (), (signer key).mpr rfl, (), validated, rfl⟩

theorem parseJWTStatusList_generated (statuses : List UInt8) :
    c.parseJWTStatusList now body = .ok statuses ↔
      c.resolveKey sl.issuer sl.keyID = .ok key ∧ Admitted sl method issued now ∧
        decompressStatuses c.zlib (c.zlib.compress sl.statuses) = .ok statuses := by
  obtain ⟨_, _, claims, _⟩ := generateJWT_eq_ok generated
  obtain ⟨members, member, lst⟩ := lookup_statusList c sl issued
  rw [← claims] at member
  unfold parseJWTStatusList
  simp only [bind_eq_ok_iff, mapError_eq_ok_iff, jwtParse_generated generated sound read,
    and_assoc, exists_eq_left, member, lst, compressAndEncode, decodeAndDecompress_encode]

end Generated

/-! ## Comparing the two -/

/-- The responses that hold the two tokens, each of which is routed to its parser. -/
structure Published (c : StatusListChecker Key Body) (token : Jwt) (cwt : List UInt8)
    (jwtResponse cwtResponse : Response Body) : Prop where
  jwt : c.wire.jwt jwtResponse.body = .ok token
  jwtRouted : jwtResponse.contentType = mediaTypeJWT ∨
    jwtResponse.contentType ≠ mediaTypeCWT ∧ c.wire.startsAsSign1 jwtResponse.body = false
  cwt : c.wire.bytes cwtResponse.body = cwt
  cwtRouted : cwtResponse.contentType = mediaTypeCWT ∨
    cwtResponse.contentType ≠ mediaTypeJWT ∧ c.wire.startsAsSign1 cwtResponse.body = true

/-- The two responses are accepted alike at an instant and hold the same statuses, and neither is
accepted if the tokens have expired. -/
def Interchangeable (c : StatusListChecker Key Body) (sl : StatusList) (issued now : Int)
    (jwtResponse cwtResponse : Response Body) : Prop :=
  (∀ statuses,
    c.parseStatusListToken now jwtResponse.body jwtResponse.contentType = .ok statuses ↔
      c.parseStatusListToken now cwtResponse.body cwtResponse.contentType = .ok statuses) ∧
  (Expired sl issued now → ∀ statuses,
    c.parseStatusListToken now jwtResponse.body jwtResponse.contentType ≠ .ok statuses ∧
      c.parseStatusListToken now cwtResponse.body cwtResponse.contentType ≠ .ok statuses)

theorem admitted_iff {now : Int} :
    Admitted sl method issued now ↔ (method ∈ validMethods ∧ sl.issuer ≠ "") ∧
      (¬ Expired sl issued now ∨ expiration sl issued = some 0 ∧ 0 ≤ now) := by
  unfold Admitted Expired
  rw [and_assoc]
  refine and_congr_right fun _ => and_congr_right fun _ => ?_
  cases expiration sl issued with
  | none => simp
  | some date =>
    by_cases epoch : date = 0
    · subst epoch
      simpa using lt_or_ge now 0
    · simp [epoch]

/-- Two tokens of one status list are interchangeable exactly if a condition on the configuration
and the instant holds: where the signing key is resolved and the list is not too large, the COSE
algorithm is that of an elliptic curve key exactly if the JWT library admits the method, the
issuer is named and the tokens have not expired; and the tokens did not expire in the first second
of the epoch, which the JWT library takes for no expiration. -/
theorem interchangeable_iff (c : StatusListChecker Key Body) (sound : c.crypto.Sound)
    (sl : StatusList) (key : Key) (method : String) (publicKey : Option Key)
    (algorithm issued now : Int) (token : Jwt) (cwt : List UInt8)
    (generatedJWT : sl.generateJWT c.crypto c.zlib c.numbers
      ⟨some key, some method, publicKey⟩ issued = .ok token)
    (generatedCWT : sl.generateCWT c.crypto c.zlib c.cbor key algorithm issued = .ok cwt)
    (jwtResponse cwtResponse : Response Body)
    (published : Published c token cwt jwtResponse cwtResponse) :
    Interchangeable c sl issued now jwtResponse cwtResponse ↔
      (c.resolveKey sl.issuer sl.keyID = .ok key → sl.statuses.length ≤ maxDecompressedSize →
        (CurveAlgorithm c.crypto key algorithm ↔
          method ∈ validMethods ∧ sl.issuer ≠ "" ∧ ¬ Expired sl issued now) ∧
        ¬ (method ∈ validMethods ∧ sl.issuer ≠ "" ∧ expiration sl issued = some 0 ∧ 0 ≤ now)) := by
  have jwtAccepted := parseJWTStatusList_generated generatedJWT sound published.jwt now
  have cwtAccepted := parseCWTStatusList_generated sound (published.cwt ▸ generatedCWT)
  unfold Interchangeable
  simp only [parseStatusListToken_jwt published.jwtRouted, jwtAccepted,
    parseStatusListToken_cwt published.cwtRouted, cwtAccepted,
    decompressStatuses_compress, ne_eq]
  by_cases resolved : c.resolveKey sl.issuer sl.keyID = .ok key
  · by_cases small : sl.statuses.length ≤ maxDecompressedSize
    · have epoch : expiration sl issued = some 0 ∧ 0 ≤ now → Expired sl issued now :=
        fun ⟨first, passed⟩ => ⟨0, first, by rwa [Int.zero_mul]⟩
      have alike : (∀ statuses, Admitted sl method issued now ∧ sl.statuses = statuses ↔
          CurveAlgorithm c.crypto key algorithm ∧ sl.statuses = statuses) ↔
            (Admitted sl method issued now ↔ CurveAlgorithm c.crypto key algorithm) :=
        ⟨fun same => by simpa using same sl.statuses, fun same statuses => by rw [same]⟩
      simp only [resolved, small, if_true, ok.injEq, true_and]
      rw [alike, admitted_iff]
      by_cases expired : Expired sl issued now
      · grind
      · grind
    · simp [small]
  · simp [resolved]

/-- A list of one revoked credential, for two seconds. -/
def briefList : StatusList where
  statuses := [1]
  issuer := "https://issuer.example"
  subject := "https://issuer.example/list"
  ttl := 0
  expiresIn := 2 * 10 ^ 9
  keyID := ""
  aggregationURI := ""

/-- Its JWT, issued at the first second. -/
def briefJWT : Jwt where
  header := briefList.jwtHeader "ES256"
  claims := (briefList.jwtClaims .stored (10 ^ 9)).marshal .unary
  signature := [(KeyKind.ecdsa .p256).code]

/-- Its CWT, issued at the first second. -/
def briefCWT : List UInt8 :=
  plain.marshal (coseSign1 (plain.marshal (briefList.protectedHeader (-7)))
    (plain.marshal (briefList.cwtClaims .stored (10 ^ 9)))
    (ideal.ecdsaSign (.ecdsa .p256) .sha256 []))

def jwtResponse : Response (Jwt ⊕ List UInt8) :=
  ⟨200, mediaTypeJWT, .inl briefJWT⟩

def cwtResponse : Response (Jwt ⊕ List UInt8) :=
  ⟨200, mediaTypeCWT, .inr briefCWT⟩

/-- The checker that resolves the key of the list. -/
def briefChecker : StatusListChecker KeyKind (Jwt ⊕ List UInt8) :=
  .answering (.ecdsa .p256) jwtResponse

theorem published_brief : Published briefChecker briefJWT briefCWT jwtResponse cwtResponse :=
  ⟨rfl, .inl rfl, rfl, .inl rfl⟩

theorem curveAlgorithm_brief : CurveAlgorithm briefChecker.crypto (.ecdsa .p256) 0 :=
  ⟨.p256, rfl, .inl rfl⟩

theorem generateJWT_brief :
    briefList.generateJWT .ideal .stored .unary ⟨some (.ecdsa .p256), some "ES256", none⟩
      (10 ^ 9) = .ok briefJWT :=
  rfl

theorem generateCWT_brief :
    briefList.generateCWT .ideal .stored plain (.ecdsa .p256) 0 (10 ^ 9) = .ok briefCWT :=
  rfl

theorem expired_brief {now : Int} : Expired briefList (10 ^ 9) now ↔ 3 * 10 ^ 9 ≤ now :=
  ⟨fun ⟨_, rfl, passed⟩ => passed, fun passed => ⟨3, rfl, passed⟩⟩

/-- The two tokens are interchangeable until they expire. -/
theorem brief_interchangeable :
    Interchangeable briefChecker briefList (10 ^ 9) (2 * 10 ^ 9) jwtResponse cwtResponse ∧
      ¬ Interchangeable briefChecker briefList (10 ^ 9) (3 * 10 ^ 9) jwtResponse cwtResponse := by
  have condition := fun now => interchangeable_iff briefChecker ideal_sound briefList
    (.ecdsa .p256) "ES256" none 0 (10 ^ 9) now briefJWT briefCWT generateJWT_brief
    generateCWT_brief _ _ published_brief
  constructor
  · refine (condition _).mpr fun _ _ => ⟨⟨fun _ => ⟨by decide, by decide, ?_⟩, fun _ =>
      curveAlgorithm_brief⟩, ?_⟩
    · rw [expired_brief]
      decide
    · rintro ⟨_, _, epoch, _⟩
      exact absurd epoch (by decide)
  · intro same
    have usable := ((condition _).mp same rfl (by decide)).1.mp curveAlgorithm_brief
    exact usable.2.2 (expired_brief.mpr le_rfl)

/-- At the third second the JWT is refused, and the CWT is accepted. -/
theorem brief_accepted_as_cwt :
    briefList.generateJWT .ideal .stored .unary ⟨some (.ecdsa .p256), some "ES256", none⟩
      (10 ^ 9) = .ok briefJWT ∧
    briefList.generateCWT .ideal .stored plain (.ecdsa .p256) 0 (10 ^ 9) = .ok briefCWT ∧
    Expired briefList (10 ^ 9) (3 * 10 ^ 9) ∧
    briefChecker.parseStatusListToken (3 * 10 ^ 9) jwtResponse.body jwtResponse.contentType =
      .error "failed to verify JWT: token has invalid claims: token is expired" ∧
    briefChecker.parseStatusListToken (3 * 10 ^ 9) cwtResponse.body cwtResponse.contentType =
      .ok [1] := by
  refine ⟨generateJWT_brief, generateCWT_brief, expired_brief.mpr le_rfl, by decide +kernel, ?_⟩
  exact (parseCWTStatusList_generated ideal_sound generateCWT_brief [1]).mpr
    ⟨rfl, curveAlgorithm_brief, rfl⟩

end Vc.Revocation
