import Vc.Data.Base64
import Vc.Openid4vp.Validator
import Vc.Sdjwtvc.Verification

/-!
# The hash of a presentation

The holder signs `sd_hash`, the hash of the issuer-signed JWT and of the
disclosures as they are sent.  `VerifyKeyBinding`, `ParseAndVerify` and
`VPTokenValidator` cut the presentation into its parts, each in its own way, and
compute the hash again from what they found.
-/

namespace Vc.Openid4vp

open Checks Sdjwtvc List Base64

/-! ## The holder -/

def combineWithKeyBinding (sdJWT kbJWT : String) : String :=
  (if sdJWT.toList.getLast? = some '~' then String.ofList sdJWT.toList.dropLast else sdJWT) ++
    "~" ++ kbJWT

structure KeyBindingOptions where
  transactionDataHashes : List String := []
  transactionDataHashesAlg : String := ""

variable (codec : Codec)

/-- `CreateKeyBindingJWT`.  `sign` signs claims under the header of a key binding JWT, and `now`
is the literal of the time. -/
def createKeyBindingJWT (sign : Members → Except String String)
    (sdJWT nonce audience hashAlg now : String) (opts : KeyBindingOptions) :
    Except String String := do
  let hashMethod ← wrap "unsupported hash algorithm" (getHashFromAlgorithm hashAlg)
  let claims := [("aud", .str audience), ("iat", .num now), ("nonce", .str nonce),
    ("sd_hash", .str (codec.digest hashMethod sdJWT))]
  if opts.transactionDataHashes = [] then wrap "failed to sign KB-JWT" (sign claims)
  else do
    require (opts.transactionDataHashesAlg ∈ ["sha-256", "sha-384", "sha-512"])
      ("invalid transaction_data_hashes_alg: " ++ opts.transactionDataHashesAlg.quote)
    wrap "failed to sign KB-JWT" (sign (claims ++
      [("transaction_data_hashes", .arr (opts.transactionDataHashes.map .str)),
        ("transaction_data_hashes_alg", .str opts.transactionDataHashesAlg)]))

/-- What the holder sends. -/
def sent (jwt : String) (disclosures : List String) (kb : String) : String :=
  combineWithKeyBinding (combine jwt disclosures "") kb

/-! ## The verifiers -/

def splitPresentation (vpToken : String) : Except String (String × List String × String) :=
  let parts := split '~' vpToken
  let issuerJWT := parts.headD ""
  let kbJWT := parts.getLastD ""
  if parts.length < 2 then .error "the presentation carries no key binding proof"
  else if issuerJWT.toList.count '.' ≠ 2 then .error "the issuer-signed JWT is malformed"
  else if kbJWT.toList.count '.' ≠ 2 then .error "the presentation carries no key binding proof"
  else .ok (issuerJWT, parts.tail.dropLast, kbJWT)

/-- `calculateSDHashForVerification`, and the same lines of `VerifyKeyBinding`. -/
def calculateSDHashForVerification (issuerJWT : String) (disclosures : List String)
    (hashMethod : HashMethod) : String :=
  codec.digest hashMethod
    (disclosures.foldl (fun sdJWT disclosure => sdJWT ++ "~" ++ disclosure) issuerJWT ++ "~")

/-- The hash that `VerifyKeyBinding` compares with `sd_hash`. -/
def keyBindingHash (vpToken : String) (issuerClaims : Members) : Except String String := do
  let (issuerJWT, disclosures, _) ← wrap "key binding" (splitPresentation vpToken)
  let hasher ← wrap ("key binding: the credential's _sd_alg " ++ (sdAlg issuerClaims).quote ++
    " is not a hash this build computes") (getHashFromAlgorithm (sdAlg issuerClaims))
  return calculateSDHashForVerification codec issuerJWT disclosures hasher

/-- The hash that `ParseAndVerify` compares with `sd_hash`. -/
def parsedHash (vpToken : String) (issuerClaims : Members) : Except String String := do
  let hashMethod ← getHashFromAlgorithm (sdAlg issuerClaims)
  let (issuerJWT, disclosures, _) := splitSDJWT vpToken
  return calculateSDHashForVerification codec issuerJWT disclosures hashMethod

/-- The three ways to cut a presentation find the same parts. -/
structure Recovers (vpToken jwt : String) (disclosures : List String) (kb : String) : Prop where
  splitPresentation : splitPresentation vpToken = .ok (jwt, disclosures, kb)
  splitSDJWT : splitSDJWT vpToken = (jwt, disclosures, kb)
  tokenSplit : ∃ parts, Token.split vpToken = .ok parts ∧
    join '.' [parts.header, parts.body, parts.signature] = jwt ∧
    parts.disclosures = disclosures ∧ join '.' parts.keyBinding = kb

/-- The three verifiers compute the same hash. -/
structure Recomputes (claims : Members) (vpToken sdHash : String) : Prop where
  verifyKeyBinding : keyBindingHash codec vpToken claims = .ok sdHash
  parseAndVerify : parsedHash codec vpToken claims = .ok sdHash
  validateHolderBinding : Openid4vp.sdHash codec vpToken = .ok sdHash

/-! ## What is signed -/

/-- A JWT and its three segments, which are base64 texts. -/
structure Compact (jwt header payload signature : String) : Prop where
  joined : jwt = join '.' [header, payload, signature]
  dotless : ∀ segment ∈ [header, payload, signature], '.' ∉ segment.toList
  tildeless : ∀ segment ∈ [header, payload, signature], '~' ∉ segment.toList

/-- An issuer-signed JWT with its claims, and the algorithm that they name. -/
structure IssuerSigned (jwt : String) (claims : Members) (hashAlg : String)
    (hashMethod : HashMethod) : Prop where
  segments : ∃ header payload signature body, Compact jwt header payload signature ∧
    codec.decodeString payload = .ok body ∧ codec.unmarshalObject body = .ok claims
  named : claims.lookup "_sd_alg" = some (.str hashAlg) ∨
    claims.lookup "_sd_alg" = none ∧ hashAlg = "sha-256"
  supported : getHashFromAlgorithm hashAlg = .ok hashMethod

/-- What the holder signs has three segments as well, none of them empty. -/
def SignsCompact (sign : Members → Except String String) : Prop :=
  ∀ claims kb, sign claims = .ok kb →
    ∃ header payload signature, Compact kb header payload signature ∧
      "" ∉ [header, payload, signature]

/-! ## One text, cut and joined -/

theorem join_eq (separator : Char) (parts : List String) :
    join separator parts = (String.singleton separator).intercalate parts := by
  apply String.toList_injective
  simp [join]

theorem split_join {separator : Char} {parts : List String} (nonempty : parts ≠ [])
    (free : ∀ part ∈ parts, separator ∉ part.toList) :
    split separator (join separator parts) = parts := by
  rw [split, join, String.toList_ofList, splitOn_intercalate]
  · simp
  · simpa using free
  · simpa using nonempty

theorem join_concat (jwt last : String) (disclosures : List String) :
    join '~' (jwt :: (disclosures ++ [last])) = join '~' (jwt :: disclosures) ++ "~" ++ last := by
  rw [join_eq, join_eq, ← cons_append, String.intercalate_append_of_ne_nil] <;> simp

theorem combine_eq (jwt : String) (disclosures : List String) :
    combine jwt disclosures "" = join '~' (jwt :: disclosures) ++ "~" := by
  cases disclosures <;> simp [combine, join_eq]

theorem calculateSDHashForVerification_eq (jwt : String) (disclosures : List String)
    (hashMethod : HashMethod) :
    calculateSDHashForVerification codec jwt disclosures hashMethod =
      codec.digest hashMethod (combine jwt disclosures "") := by
  rw [calculateSDHashForVerification, combine_eq]
  induction disclosures generalizing jwt with
  | nil => simp [join_eq]
  | cons first rest ih => simp [ih, join_eq]

namespace Compact

variable {jwt header payload signature : String} (compact : Compact jwt header payload signature)

include compact

theorem split_eq : split '.' jwt = [header, payload, signature] := by
  rw [compact.joined, split_join (by simp) compact.dotless]

theorem count_eq : jwt.toList.count '.' = 2 := by
  have dotless := compact.dotless
  rw [compact.joined]
  simp [join, intercalate, count_eq_zero_of_not_mem, dotless]

theorem free : '~' ∉ jwt.toList := by
  have tildeless := compact.tildeless
  rw [compact.joined]
  simpa [join, intercalate] using tildeless

end Compact

section Sent

variable {codec} {jwt kb header payload signature : String} {disclosures : List String}

theorem split_sent (jwtFree : '~' ∉ jwt.toList) (kbFree : '~' ∉ kb.toList)
    (free : ∀ disclosure ∈ disclosures, '~' ∉ disclosure.toList) :
    split '~' (sent jwt disclosures kb) = jwt :: (disclosures ++ [kb]) := by
  have joined : sent jwt disclosures kb = join '~' (jwt :: (disclosures ++ [kb])) := by
    simp [sent, combine_eq, join_concat, combineWithKeyBinding]
  rw [joined, split_join (by simp)]
  simpa [or_imp, forall_and, jwtFree, kbFree] using free

theorem getLast?_sent : (jwt :: (disclosures ++ [kb])).getLast? = some kb := by
  rw [← cons_append, getLast?_concat]

variable (bound : Compact kb header payload signature)
  (free : ∀ disclosure ∈ disclosures, '~' ∉ disclosure.toList)
  (shown : "" ∉ [header, payload, signature])

include bound free shown

section

variable {issuerHeader issuerPayload issuerSignature : String}
  (issued : Compact jwt issuerHeader issuerPayload issuerSignature)

include issued

theorem tokenSplit_sent :
    Token.split (sent jwt disclosures kb) = .ok {
      header := issuerHeader
      body := issuerPayload
      signature := issuerSignature
      disclosures
      keyBinding := [header, payload, signature] } := by
  have parts := split_sent issued.free bound.free free
  have nonempty : sent jwt disclosures kb ≠ "" := by
    intro empty
    rw [empty] at parts
    simp [split] at parts
  rw [Token.split, if_neg nonempty]
  simp [parts, getLast?_sent, issued.split_eq, bound.split_eq, shown]

theorem recovers : Recovers (sent jwt disclosures kb) jwt disclosures kb := by
  have parts := split_sent issued.free bound.free free
  have nonempty : kb ≠ "" := by
    rintro rfl
    cases bound.count_eq
  constructor
  · simp [Openid4vp.splitPresentation, parts, getLast?_sent, issued.count_eq, bound.count_eq]
  · simp [splitSDJWT, parts, getLast?_sent, bound.count_eq, nonempty]
  · exact ⟨_, tokenSplit_sent bound free shown issued, issued.joined.symm, rfl, bound.joined.symm⟩

end

theorem recomputes {claims : Members} {hashAlg : String} {hashMethod : HashMethod}
    (issued : IssuerSigned codec jwt claims hashAlg hashMethod) :
    Recomputes codec claims (sent jwt disclosures kb)
      (codec.digest hashMethod (combine jwt disclosures "")) := by
  obtain ⟨_, _, _, body, segments, decoded, unmarshalled⟩ := issued.segments
  have recovered := recovers bound free shown segments
  have given : hashAlg ≠ "" := by
    rintro rfl
    cases issued.supported
  have known : sdAlg claims = hashAlg := by
    rcases issued.named with named | ⟨absent, rfl⟩
    · simp [sdAlg, named, given]
    · simp [sdAlg, absent]
  constructor
  · rw [keyBindingHash, recovered.splitPresentation, known, issued.supported,
      ← calculateSDHashForVerification_eq]
    rfl
  · rw [parsedHash, recovered.splitSDJWT, known, issued.supported,
      ← calculateSDHashForVerification_eq]
    rfl
  · have chosen : issuerSDAlg codec (sent jwt disclosures kb) = .ok hashAlg := by
      simp only [issuerSDAlg, bind_eq_ok_iff, wrap_eq_ok_iff]
      refine ⟨_, tokenSplit_sent bound free shown segments, body, decoded, claims, unmarshalled, ?_⟩
      rcases issued.named with named | ⟨absent, rfl⟩
      · rw [named]
        exact if_neg given
      · rw [absent]
        rfl
    have presented : presentedPart (sent jwt disclosures kb) = combine jwt disclosures "" := by
      have kept : (jwt :: (disclosures ++ [kb])).dropLast = jwt :: disclosures := by
        rw [← cons_append, dropLast_concat]
      rw [presentedPart, split_sent segments.free bound.free free]
      cases disclosures with
      | nil => simp [combine_eq, join_eq]
      | cons first rest =>
        simp only [cons_append] at kept ⊢
        rw [kept, cons_append, join_concat, combine_eq, String.append_empty]
    simp only [sdHash, bind_eq_ok_iff, wrap_eq_ok_iff]
    exact ⟨hashAlg, chosen, hashMethod, issued.supported, by rw [presented]; rfl⟩

end Sent

theorem createKeyBindingJWT_eq_ok {sign : Members → Except String String}
    {sdJWT nonce audience hashAlg now kb : String} {opts : KeyBindingOptions}
    {hashMethod : HashMethod} (supported : getHashFromAlgorithm hashAlg = .ok hashMethod)
    (made : createKeyBindingJWT codec sign sdJWT nonce audience hashAlg now opts = .ok kb) :
    ∃ claims, sign claims = .ok kb ∧
      claims.lookup "sd_hash" = some (.str (codec.digest hashMethod sdJWT)) := by
  simp only [createKeyBindingJWT, supported, bind_eq_ok_iff] at made
  obtain ⟨_, same, made⟩ := made
  cases same
  split_ifs at made
  · exact ⟨_, wrap_eq_ok_iff.mp made, rfl⟩
  · obtain ⟨_, _, signed⟩ := bind_eq_ok_iff.mp made
    exact ⟨_, wrap_eq_ok_iff.mp signed, rfl⟩

/-- The hash that the holder signs is the one that the three verifiers compute from the same parts,
and with other disclosures they compute another one. -/
theorem holder_and_verifiers_hash_alike {jwt hashAlg : String} {claims : Members}
    {hashMethod : HashMethod} (issued : IssuerSigned codec jwt claims hashAlg hashMethod)
    {sign : Members → Except String String} (compact : SignsCompact sign)
    {disclosures : List String} (free : ∀ disclosure ∈ disclosures, '~' ∉ disclosure.toList)
    {nonce audience now kb : String} {opts : KeyBindingOptions}
    (made : createKeyBindingJWT codec sign (combine jwt disclosures "") nonce audience hashAlg now
      opts = .ok kb) :
    Recovers (sent jwt disclosures kb) jwt disclosures kb ∧
    ∃ sdHash, (∃ claims, sign claims = .ok kb ∧ claims.lookup "sd_hash" = some (.str sdHash)) ∧
      Recomputes codec claims (sent jwt disclosures kb) sdHash ∧
      (Function.Injective (codec.digest hashMethod) →
        ∀ others, (∀ disclosure ∈ others, '~' ∉ disclosure.toList) → others ≠ disclosures →
          ∃ otherHash ≠ sdHash, Recomputes codec claims (sent jwt others kb) otherHash) := by
  obtain ⟨signed, isSigned, isHash⟩ := createKeyBindingJWT_eq_ok codec issued.supported made
  obtain ⟨_, _, _, bound, shown⟩ := compact signed kb isSigned
  obtain ⟨_, _, _, _, segments, _⟩ := issued.segments
  refine ⟨recovers bound free shown segments, _, ⟨signed, isSigned, isHash⟩,
    recomputes bound free shown issued, fun injective others otherFree differ =>
      ⟨_, fun same => differ ?_, recomputes bound otherFree shown issued⟩⟩
  have parts := congrArg (fun text => split '~' (combineWithKeyBinding text kb)) (injective same)
  rw [← sent, ← sent, split_sent segments.free bound.free otherFree,
    split_sent segments.free bound.free free] at parts
  simpa using parts

/-- A codec whose sums are the texts themselves. -/
def identityCodec : Codec where
  toCodec := { Codec.ofTable [("b", "b", .obj [])] [] with
    encodeToString := fun data => String.ofList (encode data)
    sum := fun _ text => text }
  unmarshalEntry _ := .error "no entry"

theorem identityCodec_injective (method : HashMethod) :
    Function.Injective (identityCodec.digest method) := by
  intro first second same
  have sums : some (bytes first) = some (bytes second) := by
    rw [← decode_encode, ← decode_encode]
    exact congrArg _ (String.ofList_injective same)
  exact String.toByteArray_inj.mp (by simpa [bytes, ByteArray.ext_iff] using sums)

/-- One disclosure is presented, and is then left out. -/
theorem presentation_hashed_alike : Recovers (sent "h.b.s" ["d"] "k.l.m") "h.b.s" ["d"] "k.l.m" ∧
    ∃ sdHash, Recomputes identityCodec [] (sent "h.b.s" ["d"] "k.l.m") sdHash ∧
      ∃ otherHash ≠ sdHash, Recomputes identityCodec [] (sent "h.b.s" [] "k.l.m") otherHash := by
  have issued : IssuerSigned identityCodec "h.b.s" [] "sha-256" .sha256 :=
    ⟨⟨"h", "b", "s", _, ⟨by decide, by decide, by decide⟩, rfl, rfl⟩, .inr ⟨rfl, rfl⟩, rfl⟩
  have compact : SignsCompact fun _ => .ok "k.l.m" := by
    rintro _ _ ⟨⟩
    exact ⟨"k", "l", "m", ⟨by decide, by decide, by decide⟩, by decide⟩
  obtain ⟨recovers, sdHash, _, recomputes, differs⟩ :=
    @holder_and_verifiers_hash_alike identityCodec _ _ _ _ issued _ compact ["d"] (by decide)
      "nonce" "audience" "0" "k.l.m" {} rfl
  exact ⟨recovers, sdHash, recomputes, differs (identityCodec_injective _) [] (by simp) (by simp)⟩

end Vc.Openid4vp
