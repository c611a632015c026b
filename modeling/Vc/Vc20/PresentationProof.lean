import Vc.Vc20.FlatLd

/-!
# The proof of a presentation

Purpose, challenge and domain are read from the first proof of a presentation, and its
signature is checked on the first proof with the same `proofValue` that the search meets
among all proofs of the document.  The presentation is bound to the session exactly if
every proof that the search can meet, and that the signature covers, states the values of
the session.

The two calls of the suites list nodes in orders of their own.
-/

namespace Vc.Vc20

open Checks Sdjwtvc Openid4vp Rdf FlatLd VC20Handler DataIntegrity

/-! ## The handler -/

section Handler

variable {Key : Type} (codec : Openid4vp.Codec) (integrity : DataIntegrity Key)
  (handler : VC20Handler)

/-- `VC20Handler.VerifyAndExtract`, with an order of nodes for each document. -/
def verifyAndExtractIn (first second : integrity.ld.Order)
    (vpToken : String) : Except String (VC20VerificationResult Key) := do
  require (vpToken ≠ "") "VP token is empty"
  let text ← wrap "failed to decode VP token" (decodeVPToken codec integrity.base vpToken)
  let document ← parseDocument codec integrity.base text
  let credential ← handler.boundCredential codec (integrity.library first) text document
  handler.verifyCredential (integrity.library second) (handler.holder document) credential.1
    credential.2

theorem verifyAndExtractIn_self (order : integrity.ld.Order) (vpToken : String) :
    verifyAndExtractIn codec integrity handler order order vpToken =
      handler.verifyAndExtract codec (integrity.library order) vpToken :=
  rfl

/-! ## What a signed configuration states -/

/-- The configuration is one for authentication, with this challenge and this domain. -/
def States (challenge domain : String) (config : List Quad) : Prop :=
  ∃ quad ∈ config, quad.predicate = .iri "https://w3id.org/security#proofPurpose" ∧
    quad.object = .iri "https://w3id.org/security#authenticationMethod" ∧
    { quad with
      predicate := .iri "https://w3id.org/security#challenge"
      object := .literal challenge } ∈ config ∧
    { quad with
      predicate := .iri "https://w3id.org/security#domain"
      object := .literal domain } ∈ config

instance (challenge domain : String) : DecidablePred (States challenge domain) :=
  fun config => inferInstanceAs (Decidable (∃ quad ∈ config, _ ∧ _ ∧ _ ∧ _))

/-- What is read from the members of a presentation before its signature is checked. -/
structure Presented (challenge domain vpToken : String) (text : Bytes)
    (presentation proof : Members) (key : Key) : Prop where
  nonempty : vpToken ≠ ""
  decoded : decodeVPToken codec integrity.base vpToken = .ok text
  parsed : parseDocument codec integrity.base text = .ok presentation
  isPresentation : isPresentation presentation = true
  extracted : extractProof presentation = .ok proof
  purpose : Members.text proof "proofPurpose" = "authentication"
  bound : checkPresentationBinding challenge domain proof = .ok ()
  method : Members.text proof "verificationMethod" ≠ ""
  resolved : integrity.base.resolveKey (Members.text proof "verificationMethod") = .ok key
  value : Members.text proof "proofValue" ≠ ""
  suite : checkPresentationSuite (Members.text proof "cryptosuite") (integrity.base.kind key) =
    .ok ()

/-- The credential of a presentation is accepted in some order of its nodes. -/
def CredentialAccepted (presentation : Members) : Prop :=
  ∃ order credential result, extractCredentialFromVP presentation = .ok credential ∧
    handler.verifyCredential (integrity.library order) (handler.holder presentation)
      (codec.marshal (.obj credential)) credential = .ok result

/-- A proof that the search for a value can meet first. -/
def CanBeFound (dataset : Dataset) (proofValue : String) (node : Members) : Prop :=
  ∃ order tree, integrity.proofTree order dataset = .ok tree ∧
    (proofNodesIn proofType tree).find? (matchProofValue proofValue) = some node

/-- A signature covers one configuration and one document at most. -/
def Unforged : Prop :=
  ∀ key proofValue config document config' document',
    integrity.Verifies key proofValue config document →
    integrity.Verifies key proofValue config' document' → config = config' ∧ document = document'

/-- Whenever the token is accepted, the signature of the first proof covers the document, without
its proofs, and a configuration that states the values of the session. -/
def ProofChecked (challenge domain vpToken : String) : Prop :=
  ∀ first second result,
    verifyAndExtractIn codec integrity handler first second vpToken = .ok result →
    ∃ text presentation proof key cred document config,
      decodeVPToken codec integrity.base vpToken = .ok text ∧
      parseDocument codec integrity.base text = .ok presentation ∧
      extractProof presentation = .ok proof ∧
      integrity.base.resolveKey (Members.text proof "verificationMethod") = .ok key ∧
      integrity.newRDFCredentialFromJSON text = .ok cred ∧
      integrity.signedDocument key cred = .ok document ∧
      integrity.Verifies key (Members.text proof "proofValue") config document ∧
      States challenge domain config

/-- Every proof of the document that has the value of the first one, and that the signature
covers, states the values of the session. -/
def EveryProofStates (challenge domain vpToken : String) : Prop :=
  ∀ text presentation proof key cred document node config,
    Presented codec integrity challenge domain vpToken text presentation proof key →
    integrity.newRDFCredentialFromJSON text = .ok cred →
    integrity.signedDocument key cred = .ok document →
    CanBeFound integrity cred.dataset (Members.text proof "proofValue") node →
    integrity.signedConfig key cred node = .ok config →
    integrity.Verifies key (Members.text proof "proofValue") config document →
    States challenge domain config

/-- The token is refused for its credential, whatever its proofs are. -/
def CredentialRefused (vpToken : String) : Prop :=
  ∀ text presentation, decodeVPToken codec integrity.base vpToken = .ok text →
    parseDocument codec integrity.base text = .ok presentation →
    ¬ CredentialAccepted codec integrity handler presentation

variable {codec integrity}

/-- What the credential of a bound presentation has passed, whatever checks its signature. -/
theorem boundCredential_eq_ok_iff {handler : VC20Handler} {challenge domain : String}
    (bound : handler.binding = some (challenge, domain)) {vpToken : String} {text : Bytes}
    {presentation : Members} (nonempty : vpToken ≠ "")
    (decoded : decodeVPToken codec integrity.base vpToken = .ok text)
    (parsed : parseDocument codec integrity.base text = .ok presentation)
    {check : Bytes → Key → String → Except String Unit} {taken : Bytes × Members} :
    handler.boundCredential codec { integrity.base with verifyProof := check } text presentation =
        .ok taken ↔
      ∃ proof key credential,
        Presented codec integrity challenge domain vpToken text presentation proof key ∧
        check text key (Members.text proof "proofValue") = .ok () ∧
        extractCredentialFromVP presentation = .ok credential ∧
        (codec.marshal (.obj credential), credential) = taken := by
  rw [boundCredential]
  by_cases isPresentation : isPresentation presentation = true
  · rw [if_pos isPresentation]
    simp only [checkBinding, bound, bind_eq_ok_iff, wrap_eq_ok_iff, verifyPresentationProof,
      require_eq_ok_iff]
    constructor
    · rintro ⟨_, ⟨proof, extracted, _, purpose, _, binding, _, method, key, resolved, _, value, _,
        suite, signed⟩, credential, found, same⟩
      exact ⟨proof, key, credential, ⟨nonempty, decoded, parsed, isPresentation, extracted,
        purpose, binding, method, resolved, value, suite⟩, signed, found, Except.ok.inj same⟩
    · rintro ⟨proof, key, credential, presented, signed, found, rfl⟩
      exact ⟨(), ⟨proof, presented.extracted, (), presented.purpose, (), presented.bound, (),
        presented.method, key, presented.resolved, (), presented.value, (), presented.suite,
        signed⟩, credential, found, rfl⟩
  · rw [if_neg isPresentation, bound, if_pos Option.isSome_some]
    constructor
    · rintro ⟨⟩
    · rintro ⟨_, _, _, presented, _⟩
      exact absurd presented.isPresentation isPresentation

/-- What an accepted token has passed. -/
theorem verifyAndExtractIn_eq_ok_iff {handler : VC20Handler} {challenge domain : String}
    (bound : handler.binding = some (challenge, domain)) {first second : integrity.ld.Order}
    {vpToken : String} {result : VC20VerificationResult Key} :
    verifyAndExtractIn codec integrity handler first second vpToken = .ok result ↔
      ∃ text presentation proof key credential,
        Presented codec integrity challenge domain vpToken text presentation proof key ∧
        integrity.verifyProof first text key (Members.text proof "proofValue") = .ok () ∧
        extractCredentialFromVP presentation = .ok credential ∧
        handler.verifyCredential (integrity.library second) (handler.holder presentation)
          (codec.marshal (.obj credential)) credential = .ok result := by
  simp only [verifyAndExtractIn, bind_eq_ok_iff, wrap_eq_ok_iff, require_eq_ok_iff]
  constructor
  · rintro ⟨_, nonempty, text, decoded, presentation, parsed, taken, passed, verified⟩
    obtain ⟨proof, key, credential, presented, signed, found, rfl⟩ :=
      (boundCredential_eq_ok_iff bound nonempty decoded parsed).mp passed
    exact ⟨text, presentation, proof, key, credential, presented, signed, found, verified⟩
  · rintro ⟨text, presentation, proof, key, credential, presented, signed, found, verified⟩
    exact ⟨(), presented.nonempty, text, presented.decoded, presentation, presented.parsed, _,
      (boundCredential_eq_ok_iff bound presented.nonempty presented.decoded presented.parsed).mpr
        ⟨proof, key, credential, presented, signed, found, rfl⟩, verified⟩

/-- A bound presentation is bound to the session by its signature exactly if all proofs that the
search can meet state the values of the session, or its credential is refused. -/
theorem proofChecked_iff (unforged : Unforged integrity) {handler : VC20Handler}
    {challenge domain : String} (bound : handler.binding = some (challenge, domain))
    (vpToken : String) :
    ProofChecked codec integrity handler challenge domain vpToken ↔
      CredentialRefused codec integrity handler vpToken ∨
        EveryProofStates codec integrity challenge domain vpToken := by
  constructor
  · intro checked
    by_cases refused : CredentialRefused codec integrity handler vpToken
    · exact Or.inl refused
    right
    intro text presentation proof key cred document node config presented read without found
      canonical verifies
    obtain ⟨first, tree, compacted, search⟩ := found
    have signed : integrity.verifyProof first text key (Members.text proof "proofValue") = .ok () :=
      (verifyProof_eq_ok_iff presented.value).mpr
        ⟨cred, tree, node, config, document, read, compacted, search, canonical, without, verifies⟩
    simp only [CredentialRefused, not_forall, not_not] at refused
    obtain ⟨text', presentation', decoded, parsed, second, credential, result, fromVP, accepted⟩ :=
      refused
    cases presented.decoded.symm.trans decoded
    cases presented.parsed.symm.trans parsed
    obtain ⟨text', presentation', proof', key', cred', document', config', decoded', parsed',
      extracted', resolved', read', without', verifies', states⟩ :=
      checked first second result ((verifyAndExtractIn_eq_ok_iff bound).mpr
        ⟨text, presentation, proof, key, credential, presented, signed, fromVP, accepted⟩)
    cases presented.decoded.symm.trans decoded'
    cases presented.parsed.symm.trans parsed'
    cases presented.extracted.symm.trans extracted'
    cases presented.resolved.symm.trans resolved'
    -- the signature covers one configuration only
    rw [(unforged key _ _ _ _ _ verifies verifies').1]
    exact states
  · rintro condition first second result accepted
    obtain ⟨text, presentation, proof, key, credential, presented, signed, fromVP, verified⟩ :=
      (verifyAndExtractIn_eq_ok_iff bound).mp accepted
    obtain ⟨cred, tree, node, config, document, read, compacted, search, canonical, without,
      verifies⟩ := (verifyProof_eq_ok_iff presented.value).mp signed
    rcases condition with refused | states
    · exact absurd ⟨second, credential, result, fromVP, verified⟩
        (refused _ _ presented.decoded presented.parsed)
    · exact ⟨text, presentation, proof, key, cred, document, config, presented.decoded,
        presented.parsed, presented.extracted, presented.resolved, read, without, verifies,
        states _ _ _ key _ _ _ _ presented read without
          ⟨first, tree, compacted, search⟩ canonical verifies⟩

end Handler

theorem unforged_integrity (kind : KeyKind) (texts : List (String × Json))
    (signatures : List Signature) :
    Unforged (integrity kind texts signatures) := by
  intro key proofValue config document config' document' verifies verifies'
  obtain ⟨entry, found, rfl, rfl⟩ := forms_of_verifies verifies
  obtain ⟨entry', found', rfl, rfl⟩ := forms_of_verifies verifies'
  cases found.symm.trans found'
  exact ⟨rfl, rfl⟩

/-! A holder presents a credential to one verifier, and someone shows it to another one. -/

/-- A proof of the suite for Ed25519 keys. -/
def edProof (binding : Option (String × String)) (purpose proofValue method : String) : Members :=
  (binding.map fun (challenge, _) => ("challenge", Json.str challenge)).toList ++
    [("cryptosuite", .str "eddsa-rdfc-2022")] ++
    (binding.map fun (_, domain) => ("domain", Json.str domain)).toList ++
    [("proofPurpose", .str purpose), ("proofValue", .str proofValue),
      ("type", .str "DataIntegrityProof"), ("verificationMethod", .str method)]

/-- The proof of the holder for a challenge and a domain. -/
def heldProof (challenge domain : String) : Members :=
  edProof (some (challenge, domain)) "authentication" "zP" "did:example:holder#key"

/-- The credential of the holder. -/
def heldCredential : Members :=
  [("@context", .str contextV2),
    ("credentialSubject", .obj [("id", .str "did:example:holder"), ("name", .str "Ada")]),
    ("issuer", .str "did:example:issuer"),
    ("proof", .obj (edProof none "assertionMethod" "zI" "did:example:issuer#key")),
    ("type", .arr [.str "VerifiableCredential"])]

/-- A presentation of the credential with some proofs. -/
def heldPresentation (proofs : Json) : Members :=
  [("@context", .str contextV2), ("holder", .str "did:example:holder"), ("proof", proofs),
    ("type", .arr [.str "VerifiablePresentation"]),
    ("verifiableCredential", .obj heldCredential)]

/-- What was presented to the other verifier. -/
def presentedElsewhere : Members :=
  heldPresentation (.obj (heldProof "c1" "https://other.example"))

/-- The same presentation with a further proof in front, which repeats the signature. -/
def replayedPresentation : Members :=
  heldPresentation (.arr [.obj (heldProof "c2" "https://verifier.example"),
    .obj (heldProof "c1" "https://other.example")])

/-- The canonical form of a proof without its value. -/
def configForm (proof : Members) : List Quad :=
  documentQuads (.obj (Entries.without "proofValue" proof))

/-- The canonical form of a document without its own proof. -/
def documentForm (document : Members) : List Quad :=
  (grouped (documentQuads (.obj (Entries.without "proof" document)))).quads

def issuerSignature : Signature where
  proofValue := "zI"
  key := "did:example:issuer#key"
  config := configForm (edProof none "assertionMethod" "zI" "did:example:issuer#key")
  document := documentForm heldCredential

/-- The signature that the holder made for the other verifier. -/
def holderSignature : Signature where
  proofValue := "zP"
  key := "did:example:holder#key"
  config := configForm (heldProof "c1" "https://other.example")
  document := documentForm presentedElsewhere

/-- The suites for these signatures, with the texts of the two presentations. -/
def heldIntegrity : DataIntegrity String :=
  integrity .ed25519
    [("\x7bpresented\x7d", .obj presentedElsewhere),
      ("\x7breplayed\x7d", .obj replayedPresentation),
      ("\x7bcredential\x7d", .obj heldCredential)]
    [issuerSignature, holderSignature]

/-- The codec for the same texts. -/
def heldCodec : Openid4vp.Codec where
  toCodec := { Codec.ofTable
    [("presented", "\x7bpresented\x7d", .obj presentedElsewhere),
      ("replayed", "\x7breplayed\x7d", .obj replayedPresentation)] [] with
    marshal := fun _ => bytes "\x7bcredential\x7d" }
  unmarshalEntry := fun _ => .error "no entry"

/-- A handler that is bound to a session. -/
def heldHandler (challenge domain : String) : VC20Handler where
  binding := some (challenge, domain)
  now := 0

/-- The verifier that the presentation was made for accepts it, and has the right to. -/
theorem presented_proof_checked :
    (verifyAndExtractIn heldCodec heldIntegrity (heldHandler "c1" "https://other.example") (0 : Nat)
      (0 : Nat) "\x7bpresented\x7d").isOk = true ∧
    ProofChecked heldCodec heldIntegrity (heldHandler "c1" "https://other.example") "c1"
      "https://other.example" "\x7bpresented\x7d" := by
  refine ⟨by decide +kernel, (proofChecked_iff (unforged_integrity _ _ _) rfl _).mpr (Or.inr ?_)⟩
  intro text presentation proof key cred document node config presented read without found
    _ verifies
  cases presented.decoded
  cases presented.parsed
  cases presented.extracted
  obtain ⟨entry, signed, rfl, rfl⟩ := forms_of_verifies verifies
  have held : entry.config = holderSignature.config := by
    have found : [issuerSignature, holderSignature].find?
        (fun entry => bytes entry.proofValue = bytes "zP") = some holderSignature := rfl
    cases found.symm.trans signed
    rfl
  rw [held]
  decide +kernel

/-- The other verifier accepts it as well, though the holder has not signed its challenge. -/
theorem replayed_presentation_accepted :
    (verifyAndExtractIn heldCodec heldIntegrity (heldHandler "c2" "https://verifier.example")
      (1 : Nat) (0 : Nat) "\x7breplayed\x7d").isOk = true ∧
    ¬ ProofChecked heldCodec heldIntegrity (heldHandler "c2" "https://verifier.example") "c2"
      "https://verifier.example" "\x7breplayed\x7d" := by
  have accepted : (verifyAndExtractIn heldCodec heldIntegrity
      (heldHandler "c2" "https://verifier.example") (1 : Nat) (0 : Nat)
      "\x7breplayed\x7d").isOk = true := by
    decide +kernel
  refine ⟨accepted, fun checked => ?_⟩
  obtain ⟨result, accepted⟩ := exists_of_isOk accepted
  obtain ⟨text, presentation, proof, key, cred, document, config, decoded, parsed, extracted,
    resolved, read, without, verifies, states⟩ := checked _ _ result accepted
  cases decoded
  cases parsed
  cases extracted
  obtain ⟨entry, signed, rfl, rfl⟩ := forms_of_verifies verifies
  have found : [issuerSignature, holderSignature].find?
      (fun entry => bytes entry.proofValue = bytes "zP") = some holderSignature := rfl
  cases found.symm.trans signed
  exact absurd states (by decide +kernel)

end Vc.Vc20
