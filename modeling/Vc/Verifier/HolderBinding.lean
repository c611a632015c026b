import Vc.Vc20.PresentationProof
import Vc.Verifier.TransactionAuthorisation

/-!
# Holder binding of what a direct post accepts

Each format has its own proof that the holder takes part: the key-binding JWT of
an SD-JWT, the device signature of an mdoc, the session transcript of a
zero-knowledge proof and the proof of a W3C presentation.  This file says what
such a proof is, and which of them the branches of a direct post leave to the
token.
-/

namespace Vc.Verifier.DirectPost

open Checks Sdjwtvc Openid4vp Mdoc Vc20 List

/-- The native verifier of Longfellow proofs. -/
structure ZkSound {Key : Type} (library : Library Key) : Prop where
  /-- a proof is made for one transcript -/
  transcript : ∀ first second proof, library.verifyZkProof first proof = .ok () →
    library.verifyZkProof second proof = .ok () →
    first.sessionTranscript = second.sessionTranscript
  /-- a proof of a Vega circuit is no Longfellow proof -/
  vega : ∀ zkData proof dsCert statement, library.verifyVega zkData proof dsCert = .ok () →
    library.verifyZkProof statement proof ≠ .ok ()

/-- The suites that check the proofs of presentations, in some order of the nodes, and with
signatures that cover one content only. -/
structure SuitesSound {Key : Type} (library : VC20Library Key) (integrity : DataIntegrity Key) :
    Prop where
  base : integrity.base = library
  verifyProof : ∀ text key proofValue, library.verifyProof text key proofValue = .ok () →
    ∃ order, integrity.verifyProof order text key proofValue = .ok ()
  unforged : Unforged integrity

def subjectIDs (credential : Members) : List String :=
  match credential.lookup "credentialSubject" with
  | some (.obj subject) => [Members.text subject "id"]
  | some (.arr subjects) => subjects.filterMap fun
      | .obj subject => some (Members.text subject "id")
      | _ => none
  | _ => []

/-- The verification method is one of a subject of the credential. -/
def IsHolderMethod (credential : Members) (method : String) : Prop :=
  ∃ id ∈ subjectIDs credential, id ≠ "" ∧ (method = id ∨ (id ++ "#").isPrefixOf method)

section Proofs

variable {Key : Type} (client : Client Key) (integrity : DataIntegrity Key) (session : Session)

/-- The transcript names the client and the nonce of the session. -/
def NamesSession (transcript : SessionTranscript) : Prop :=
  ∃ responseURI thumbprint,
    transcript = .redirect session.clientID session.nonce responseURI thumbprint

variable (token : String)

/-- The key-binding JWT is by the key of the credential and says the nonce and the client. -/
def KeyBindingProves (credential : Members) : Prop :=
  ∃ parsed, parseToken client.codec client.fuel token = .ok parsed ∧
    parsed.claims = credential ∧ SignedByHolder client.jose parsed ∧
    KeyBindingSays client.codec parsed "nonce" session.nonce ∧
    KeyBindingSays client.codec parsed "aud" session.clientID

/-- The device key that the issuer has signed verifies the document over the session. -/
def DeviceSigned (document : Document) : Prop :=
  document.deviceAuth.deviceSignature.isSome ∧ ∃ mso deviceKey transcript,
    verifyDocument client.mdoc client.now document = .ok mso ∧
    client.mdoc.deviceKey mso = .ok deviceKey ∧ NamesSession session transcript ∧
    client.mdoc.verifySignature transcript document deviceKey = .ok ()

/-- The document that a credential comes from is signed by its device. -/
def DeviceProves (credential : Members) : Prop :=
  ∃ document ∈ presentedDocuments client.mdoc token,
    credential = cachedDocument ⟨document.docType, extractDocumentClaims document⟩ ∧
    DeviceSigned client session document

/-- The proof that a credential comes from is made for the session. -/
def ZkProves (credential : Members) : Prop :=
  ∃ pair ∈ presentedProofs client.mdoc token, credential = cachedDocument (zkClaims pair.2) ∧
    ∃ statement, statement.docType = pair.2.docType ∧
      NamesSession session statement.sessionTranscript ∧
      client.mdoc.verifyZkProof statement pair.1.proof = .ok ()

/-- The signature of the presentation is by a key of the subject of its credential, and what it
covers states the nonce and the client. -/
def PresentationProves (credential : Members) : Prop :=
  ∃ text presentation proof key cred document config,
    decodeVPToken client.codec client.vc20 token = .ok text ∧
    parseDocument client.codec client.vc20 text = .ok presentation ∧
    extractCredentialFromVP presentation = .ok credential ∧
    extractProof presentation = .ok proof ∧
    client.vc20.resolveKey (Members.text proof "verificationMethod") = .ok key ∧
    integrity.newRDFCredentialFromJSON text = .ok cred ∧
    integrity.signedDocument key cred = .ok document ∧
    integrity.Verifies key (Members.text proof "proofValue") config document ∧
    States session.nonce session.clientID config ∧
    IsHolderMethod credential (Members.text proof "verificationMethod")

/-- The verification method of the presentation is one of a subject of its credential. -/
def HeldBySubject : Prop :=
  ∀ text presentation proof credential,
    decodeVPToken client.codec client.vc20 token = .ok text →
    parseDocument client.codec client.vc20 text = .ok presentation →
    extractProof presentation = .ok proof →
    extractCredentialFromVP presentation = .ok credential →
    IsHolderMethod credential (Members.text proof "verificationMethod")

/-- The token has carried a proof by the holder of the credential that covers the nonce of the
session and names its client; where those are empty nothing is covered or named. -/
def HolderBound (credential : Members) : Prop :=
  session.nonce ≠ "" ∧ session.clientID ≠ "" ∧
    match detectCredentialFormat client token with
    | .sdJWT => KeyBindingProves client session token credential
    | .mdoc => DeviceProves client session token credential
    | .mdocZK => ZkProves client session token credential
    | .vc20 => PresentationProves client integrity session token credential
    | .unknown => False

/-- The query of a scope requires holder binding; it does so where it says nothing, or is not
known. -/
def RequiresBinding (scope : String) : Prop :=
  (requestedQuery client session (sessionPairs client session) scope).all
    (·.requiresCryptographicHolderBinding)

/-- The document passes the check that `VerifyAndExtractBound` makes and `VerifyAndExtract` does
not, for a transcript of the session. -/
def PassesBinding (document : Document) : Prop :=
  ∃ mso responseURI thumbprint, verifyDocument client.mdoc client.now document = .ok mso ∧
    bindDocument client.mdoc (.redirect session.clientID session.nonce responseURI thumbprint)
      document mso = .ok ()

/-- The circuit of a proof is not one of the Vega circuits, which see no transcript. -/
def SeesTranscript (queryID : String) (zkData : ZkDocumentData) : Prop :=
  ∀ spec, matchZKSystemType (((zkQuery client session queryID).getD {}).metaQuery.zkSystemType)
    zkData.zkSystemID = some spec → isVegaSystem spec zkData.zkSystemID = false

/-- What a direct post leaves to the token of a scope. -/
def ShowsHolder (dcAPI : Bool) (scope token : String) : Prop :=
  match detectCredentialFormat client token with
  | .sdJWT => session.nonce ≠ "" ∧ session.clientID ≠ ""
  | .mdoc => ∀ document ∈ presentedDocuments client.mdoc token,
      session.nonce ≠ "" ∧ session.clientID ≠ "" ∧ PassesBinding client session document
  | .mdocZK => session.nonce ≠ "" ∧ session.clientID ≠ "" ∧ dcAPI = false ∧
      ∀ pair ∈ presentedProofs client.mdoc token,
        SeesTranscript client session (queryIDForScopeIn (sessionPairs client session) scope) pair.2
  | .vc20 => HeldBySubject client token ∧
      EveryProofStates client.codec integrity session.nonce session.clientID token
  | .unknown => True

/-! ## SD-JWT -/

variable {client integrity session}
  {scope token : String} {verified : Verified} {pairs : List (String × String)}

theorem keyBindingProves_of_acceptSDJWT {answered : List String}
    (accepted : acceptSDJWT client session pairs answered scope token = .ok verified)
    (nonce : session.nonce ≠ "") (clientID : session.clientID ≠ "") {credential : Members}
    (member : credential ∈ verified.credentials) :
    KeyBindingProves client session token credential := by
  obtain ⟨parsed, jti, read, credentials, _, validated, _⟩ := acceptSDJWT_eq_ok accepted
  rw [credentials, mem_singleton] at member
  subst member
  have names : (tokenValidator client session (queryIDForScopeIn pairs scope)).nonce =
      session.nonce ∧ (tokenValidator client session (queryIDForScopeIn pairs scope)).clientID =
        session.clientID := by
    rw [tokenValidator]
    split_ifs <;> exact ⟨rfl, rfl⟩
  have said := validated.nonce (names.1 ▸ nonce)
  have addressed := validated.audience (names.2 ▸ clientID)
  rw [names.1] at said
  rw [names.2] at addressed
  exact ⟨parsed, read, rfl, validated.signed, said, addressed⟩

/-! ## mdoc -/

theorem passesBinding_iff {document : Document} :
    PassesBinding client session document ↔ DeviceSigned client session document := by
  constructor
  · rintro ⟨mso, responseURI, thumbprint, verified, bound⟩
    rw [bindDocument, wrap_eq_ok_iff] at bound
    split_ifs at bound with signed
    simp only [verifyDeviceAuth, bind_eq_ok_iff, wrap_eq_ok_iff] at bound
    obtain ⟨deviceKey, named, proved⟩ := bound
    exact ⟨signed, mso, deviceKey, _, verified, named, ⟨responseURI, thumbprint, rfl⟩, proved⟩
  · rintro ⟨signed, mso, deviceKey, _, verified, named, ⟨responseURI, thumbprint, rfl⟩, proved⟩
    refine ⟨mso, responseURI, thumbprint, verified, ?_⟩
    simp only [bindDocument, wrap_eq_ok_iff, if_pos signed, verifyDeviceAuth, bind_eq_ok_iff]
    exact ⟨deviceKey, named, proved⟩

theorem docType_of_cachedDocument {first second : DocumentClaims}
    (same : cachedDocument first = cachedDocument second) : first.docType = second.docType := by
  have atDocType (document : DocumentClaims) :
      (cachedDocument document).lookup "docType" = some (.str document.docType) := by
    rw [cachedDocument, Entries.lookup_put, if_neg (by decide), Entries.lookup_put, if_pos rfl]
  have equal := atDocType first
  rw [same, atDocType] at equal
  exact (Json.str.inj (Option.some.inj equal)).symm

theorem acceptMDoc_eq_ok (accepted : acceptMDoc client scope token = .ok verified) :
    verified.credentials = (presentedDocuments client.mdoc token).map (fun document =>
      cachedDocument ⟨document.docType, extractDocumentClaims document⟩) ∧
      ((presentedDocuments client.mdoc token).map (·.docType)).Nodup := by
  simp only [acceptMDoc, bind_eq_ok_iff, lift_eq_ok_iff, wrap_eq_ok_iff] at accepted
  obtain ⟨_, _, documents, extracted, same⟩ := accepted
  cases same
  obtain ⟨rfl, nodup, _⟩ := verifyAndExtract_eq_ok extracted
  exact ⟨map_map, nodup⟩

/-- The credential of a document comes from no other document of the token. -/
theorem deviceProves_iff (accepted : acceptMDoc client scope token = .ok verified) :
    (∀ credential ∈ verified.credentials, session.nonce ≠ "" ∧ session.clientID ≠ "" ∧
      DeviceProves client session token credential) ↔
      ∀ document ∈ presentedDocuments client.mdoc token, session.nonce ≠ "" ∧
        session.clientID ≠ "" ∧ PassesBinding client session document := by
  obtain ⟨credentials, nodup⟩ := acceptMDoc_eq_ok accepted
  rw [credentials, forall_mem_map]
  refine forall₂_congr fun document member => and_congr_right fun _ => and_congr_right fun _ => ?_
  rw [passesBinding_iff]
  constructor
  · rintro ⟨source, inToken, same, signed⟩
    have docType := docType_of_cachedDocument same
    rwa [inj_on_of_nodup_map nodup member inToken docType]
  · exact fun signed => ⟨document, member, rfl, signed⟩

/-! ## Zero-knowledge proofs -/

variable {context : ZkPresentationContext} {zkData : ZkDocumentData}

theorem offeredSystem_eq_ok
    {spec : ZKSystemTypeSpec} (offered : offeredSystem context zkData = .ok spec) :
    matchZKSystemType context.requestedZkSystems zkData.zkSystemID = some spec := by
  rw [offeredSystem] at offered
  split at offered
  · cases offered
  · next found => rw [found, Except.ok.inj offered]

variable {dcAPI : Bool}

/-- What the branch of ZK presentations has passed: each proof is one of a Vega circuit, or is
verified over the transcript of the way the response has come. -/
theorem acceptMDocZK_eq_ok
    (accepted : acceptMDocZK client session pairs dcAPI scope token = .ok verified) :
    verified.credentials = (presentedProofs client.mdoc token).map (fun pair =>
      cachedDocument (zkClaims pair.2)) ∧
      presentedProofs client.mdoc token ≠ [] ∧
      ((presentedProofs client.mdoc token).map (·.2.docType)).Nodup ∧
      ∃ responseURI thumbprint transcript,
        zkSessionTranscript client session dcAPI responseURI thumbprint = .ok transcript ∧
        ∀ pair ∈ presentedProofs client.mdoc token, ∃ spec dsCert,
          matchZKSystemType ((zkQuery client session
            (queryIDForScopeIn pairs scope)).getD {}).metaQuery.zkSystemType pair.2.zkSystemID =
              some spec ∧
          if isVegaSystem spec pair.2.zkSystemID then
            client.mdoc.verifyVega pair.2 pair.1.proof dsCert = .ok ()
          else ∃ statement, statement.docType = pair.2.docType ∧
            statement.sessionTranscript = transcript ∧
            client.mdoc.verifyZkProof statement pair.1.proof = .ok () := by
  simp only [acceptMDocZK, bind_eq_ok_iff, lift_eq_ok_iff, wrap_eq_ok_iff] at accepted
  obtain ⟨_, _, responseURI, _, thumbprint, _, transcript, built, documents, extracted, same⟩ :=
    accepted
  cases same
  obtain ⟨rfl, nonempty, nodup, each⟩ := verifyAndExtractZk_eq_ok extracted
  refine ⟨map_map, nonempty, nodup, responseURI, thumbprint, transcript, built, ?_⟩
  intro pair member
  obtain ⟨spec, dsCert, offered, native⟩ := each pair member
  refine ⟨spec, dsCert, offeredSystem_eq_ok offered, ?_⟩
  rw [verifyNative] at native
  split_ifs at native ⊢
  · exact native
  · simp only [verifyLongfellow, bind_eq_ok_iff] at native
    obtain ⟨_, _, _, _, proved⟩ := native
    exact ⟨_, rfl, rfl, proved⟩

theorem namesSession_zkSessionTranscript {responseURI : String}
    {thumbprint : Option Bytes} {transcript : SessionTranscript}
    (built : zkSessionTranscript client session dcAPI responseURI thumbprint = .ok transcript) :
    NamesSession session transcript ↔ dcAPI = false := by
  rw [zkSessionTranscript] at built
  cases dcAPI with
  | false =>
    cases built
    exact iff_of_true ⟨responseURI, thumbprint, rfl⟩ rfl
  | true =>
    rw [if_pos rfl] at built
    simp only [bind_eq_ok_iff] at built
    obtain ⟨_, _, _, _, same⟩ := built
    cases same
    exact iff_of_false (fun ⟨_, _, impossible⟩ => by cases impossible) nofun

theorem zkProves_iff (sound : ZkSound client.mdoc)
    (accepted : acceptMDocZK client session pairs dcAPI scope token = .ok verified) :
    (∀ credential ∈ verified.credentials, session.nonce ≠ "" ∧ session.clientID ≠ "" ∧
      ZkProves client session token credential) ↔
      session.nonce ≠ "" ∧ session.clientID ≠ "" ∧ dcAPI = false ∧
        ∀ pair ∈ presentedProofs client.mdoc token,
          SeesTranscript client session (queryIDForScopeIn pairs scope) pair.2 := by
  obtain ⟨credentials, nonempty, nodup, responseURI, thumbprint, transcript, built, each⟩ :=
    acceptMDocZK_eq_ok accepted
  rw [credentials, forall_mem_map]
  constructor
  · intro proves
    -- a document of the token whose proof is for the session is neither a Vega one nor one for
    -- another transcript
    have here : ∀ pair ∈ presentedProofs client.mdoc token, dcAPI = false ∧
        SeesTranscript client session (queryIDForScopeIn pairs scope) pair.2 := by
      intro pair member
      obtain ⟨_, _, source, inToken, same, statement, _, names, proved⟩ := proves pair member
      have docType : pair.2.docType = source.2.docType := docType_of_cachedDocument same
      obtain rfl := inj_on_of_nodup_map nodup member inToken docType
      obtain ⟨spec, dsCert, offered, native⟩ := each pair member
      split_ifs at native with vega
      · exact absurd proved (sound.vega _ _ _ _ native)
      · obtain ⟨other, _, transcribed, provedOther⟩ := native
        rw [sound.transcript _ _ _ proved provedOther, transcribed,
          namesSession_zkSessionTranscript built] at names
        refine ⟨names, fun spec found => ?_⟩
        cases offered.symm.trans found
        simpa using vega
    obtain ⟨pair, member⟩ := exists_mem_of_ne_nil _ nonempty
    obtain ⟨nonce, clientID, _⟩ := proves pair member
    exact ⟨nonce, clientID, (here _ member).1, fun other inToken => (here _ inToken).2⟩
  · rintro ⟨nonce, clientID, redirect, sees⟩ pair member
    obtain ⟨spec, dsCert, offered, native⟩ := each pair member
    rw [sees _ member _ offered] at native
    obtain ⟨statement, docType, transcribed, proved⟩ := native
    refine ⟨nonce, clientID, pair, member, rfl, statement, docType, ?_, proved⟩
    rw [transcribed]
    exact (namesSession_zkSessionTranscript built).mpr redirect

/-! ## W3C presentations -/

theorem presentationProves_iff (suites : SuitesSound client.vc20 integrity)
    (requires : RequiresBinding client session scope)
    (accepted : acceptVC20 client session (sessionPairs client session) scope token =
      .ok verified) :
    (∀ credential ∈ verified.credentials, session.nonce ≠ "" ∧ session.clientID ≠ "" ∧
      PresentationProves client integrity session token credential) ↔
      HeldBySubject client token ∧
        EveryProofStates client.codec integrity session.nonce session.clientID token := by
  simp only [acceptVC20, bind_eq_ok_iff, lift_eq_ok_iff, wrap_eq_ok_iff] at accepted
  obtain ⟨_, _, result, extracted, _, _, _, _, _, _, _, _, same⟩ := accepted
  cases same
  have bound : (vc20Handler client session (requestedQuery client session
      (sessionPairs client session) scope)).binding = some (session.nonce, session.clientID) :=
    if_pos requires
  simp only [VC20Handler.verifyAndExtract, bind_eq_ok_iff, wrap_eq_ok_iff,
    require_eq_ok_iff] at extracted
  obtain ⟨_, nonempty, text, decoded, presentation, parsed, taken, passed, checked⟩ := extracted
  rw [← suites.base] at decoded parsed passed
  obtain ⟨proof, key, credential, presented, signed, found, rfl⟩ :=
    (boundCredential_eq_ok_iff bound nonempty decoded parsed).mp passed
  rw [(VC20Handler.verifyCredential_eq_ok checked).1]
  simp only [mem_singleton, forall_eq, PresentationProves, HeldBySubject, ← suites.base]
  constructor
  · rintro ⟨_, _, _, _, _, key', cred', document', config', decoded', parsed', credential',
      extracted', resolved', read', without', verifies', states, holder⟩
    cases decoded.symm.trans decoded'
    cases parsed.symm.trans parsed'
    cases presented.extracted.symm.trans extracted'
    constructor
    · intro _ _ _ _ decoded' parsed' extracted' credential'
      cases decoded.symm.trans decoded'
      cases parsed.symm.trans parsed'
      cases presented.extracted.symm.trans extracted'
      cases found.symm.trans credential'
      exact holder
    · -- the signature covers one configuration only
      intro _ _ _ _ _ _ _ config presented _ _ _ _ verifies
      cases decoded.symm.trans presented.decoded
      cases parsed.symm.trans presented.parsed
      cases extracted'.symm.trans presented.extracted
      cases resolved'.symm.trans presented.resolved
      rw [(suites.unforged _ _ _ _ _ _ verifies verifies').1]
      exact states
  · rintro ⟨holder, states⟩
    have signed : client.vc20.verifyProof text key (Members.text proof "proofValue") = .ok () := by
      rw [← suites.base]
      exact signed
    obtain ⟨order, signed⟩ := suites.verifyProof _ _ _ signed
    obtain ⟨cred, tree, node, config, document, read, compacted, search, canonical, without,
      verifies⟩ := (DataIntegrity.verifyProof_eq_ok_iff presented.value).mp signed
    have binding := presented.bound
    simp only [checkPresentationBinding, bind_eq_ok_iff, require_eq_ok_iff] at binding
    obtain ⟨_, nonce, _, _, _, _, _, clientID, _⟩ := binding
    exact ⟨nonce, clientID, text, presentation, proof, key, cred, document, config, decoded, parsed,
      found, presented.extracted, presented.resolved, read, without, verifies,
      states _ _ _ _ _ _ _ _ presented read without ⟨order, tree, compacted, search⟩ canonical
        verifies,
      holder _ _ _ _ decoded parsed presented.extracted found⟩

/-! ## The response -/

/-- What is accepted for a scope is bound to its holder where the token shows it. -/
theorem holderBound_iff_of_acceptedFrom (sound : ZkSound client.mdoc)
    (suites : SuitesSound client.vc20 integrity) {defaultAllowed : Bool} {response : Response}
    {before : List String} {entry : Accepted}
    (accepted : AcceptedFrom client session (sessionPairs client session) defaultAllowed response
      before entry)
    (requires : RequiresBinding client session entry.scope) :
    (∀ credential ∈ entry.credentials,
      HolderBound client integrity session entry.token credential) ↔
      ShowsHolder client integrity session response.dcAPI entry.scope entry.token := by
  have verified := accepted.verified
  rw [accepted.detected] at verified
  simp only [HolderBound, ShowsHolder]
  generalize detectCredentialFormat client entry.token = format at verified ⊢
  cases format with
  | sdJWT =>
    constructor
    · intro bound
      obtain ⟨parsed, _, _, credentials, _⟩ := acceptSDJWT_eq_ok verified
      have here := bound parsed.claims (credentials ▸ mem_singleton_self _)
      exact ⟨here.1, here.2.1⟩
    · exact fun named credential member => ⟨named.1, named.2,
        keyBindingProves_of_acceptSDJWT verified named.1 named.2 member⟩
  | mdoc => exact deviceProves_iff verified
  | mdocZK => exact zkProves_iff sound verified
  | vc20 => exact presentationProves_iff suites requires verified
  | unknown => exact absurd verified failure_ne_ok

variable (client integrity session)

def AnswersScope (response : Response) (scope token : String) : Prop :=
  vpTokenForScope session (sessionPairs client session)
    (defaultTokenAllowed session (sessionPairs client session)
      (credentialScopes client session (sessionPairs client session))) response scope = .ok token

/-- Every cached credential whose query requires it is bound to its holder exactly where the
tokens show what a direct post does not check. -/
theorem holder_binding_iff (sound : ZkSound client.mdoc)
    (suites : SuitesSound client.vc20 integrity) (response : Response)
    (entries : List Accepted) (accepted : verifyResponse client session response = .ok entries) :
    (∀ scope credential, (scope, credential) ∈ credentialCaches session entries →
      RequiresBinding client session scope → ∃ token,
        AnswersScope client session response scope token ∧
        HolderBound client integrity session token credential) ↔
      ∀ scope ∈ credentialScopes client session (sessionPairs client session),
        RequiresBinding client session scope → ∀ token,
          AnswersScope client session response scope token →
          ShowsHolder client integrity session response.dcAPI scope token := by
  have passed := verifyResponse_eq_ok accepted
  constructor
  · intro bound scope member requires token answers
    obtain ⟨entry, inEntries, rfl⟩ := passed.exists_entry member
    obtain ⟨before, established⟩ := passed.each entry inEntries
    cases established.found.symm.trans answers
    refine (holderBound_iff_of_acceptedFrom sound suites established requires).mp ?_
    intro credential inEntry
    obtain ⟨_, again, holder⟩ := bound entry.scope credential
      (passed.mem_credentialCaches_iff.mpr ⟨entry, inEntries, rfl, inEntry⟩) requires
    cases established.found.symm.trans again
    exact holder
  · intro shows scope credential cached requires
    obtain ⟨entry, inEntries, rfl, inEntry⟩ := passed.mem_credentialCaches_iff.mp cached
    obtain ⟨before, established⟩ := passed.each entry inEntries
    refine ⟨entry.token, established.found, ?_⟩
    exact (holderBound_iff_of_acceptedFrom sound suites established requires).mpr
      (shows _ (passed.scope_mem inEntries) requires _ established.found)
      _ inEntry

end Proofs

theorem zkSound_refusing (Key : Type) : ZkSound (Library.refusing Key) :=
  ⟨nofun, nofun⟩

/-- Suites that verify nothing. -/
def refusingSuites : DataIntegrity String :=
  { FlatLd.integrity .ecdsa [] [] with base := .refusing String }

theorem suitesSound_refusing : SuitesSound (.refusing String) refusingSuites where
  base := rfl
  verifyProof := nofun
  unforged := by
    intro _ _ _ _ _ _ verifies
    obtain ⟨_, _, _, verified⟩ := verifies
    cases verified

/-- The payment is bound to the holder of the attestation. -/
theorem payment_holder_bound :
    verifyResponse paymentClient paymentSession paymentResponse = .ok paymentEntries ∧
      ∀ scope credential, (scope, credential) ∈ credentialCaches paymentSession paymentEntries →
        RequiresBinding paymentClient paymentSession scope → ∃ token,
          AnswersScope paymentClient paymentSession paymentResponse scope token ∧
          HolderBound paymentClient refusingSuites paymentSession token credential := by
  have accepted : verifyResponse paymentClient paymentSession paymentResponse =
      .ok paymentEntries := by
    decide +kernel
  refine ⟨accepted, (holder_binding_iff _ _ _ (zkSound_refusing String) suitesSound_refusing _ _
    accepted).mpr ?_⟩
  intro scope member _ token answers
  have only : scope = "sca" := by
    exact mem_singleton.mp member
  subst only
  have found : AnswersScope paymentClient paymentSession paymentResponse "sca" "h.b.s~kh.kb.ks" ∧
      detectCredentialFormat paymentClient "h.b.s~kh.kb.ks" = .sdJWT := by
    unfold AnswersScope
    decide +kernel
  cases found.1.symm.trans answers
  rw [ShowsHolder, found.2]
  decide

/-! A device response that was made for another session. -/

/-- The document, signed by its device. -/
def capturedDocument : Document where
  docType := "org.iso.18013.5.1.mDL"
  nameSpaces := [("org.iso.18013.5.1", [.tagged [1] (some ("age_over_18", .bool true))])]
  issuerAuth := [2]
  deviceAuth := { deviceSignature := some [3] }

/-- The device has signed for the nonce `n0` only. -/
def capturedLibrary : Library String :=
  { Library.refusing String with
    decodeToken := fun _ => .ok [0]
    decodeDeviceResponse := fun _ =>
      .ok { version := "1.0", documents := [capturedDocument], status := 0 }
    peekIsZk := fun _ => .ok false
    certificateChain := fun _ => .ok [[4]]
    evaluateChain := fun _ _ => .ok ()
    verifyMSO := fun _ _ => .ok {
      version := "1.0"
      docType := "org.iso.18013.5.1.mDL"
      digestAlgorithm := "SHA-256"
      validFrom := 0
      validUntil := 1000
      valueDigests := []
      deviceKeyInfo := [] }
    verifyDigest := fun _ _ _ => .ok ()
    deviceKey := fun _ => .ok "device"
    verifySignature := fun transcript _ _ =>
      match transcript with
      | .redirect _ "n0" _ _ => .ok ()
      | _ => .error "signature verification failed" }

/-- The verifier to which it is posted. -/
def capturedClient : Client String :=
  { paymentClient with mdoc := capturedLibrary }

/-- The session, with another nonce. -/
def capturedSession : Session where
  sessionID := "s1"
  scopes := ["mdl"]
  dcqlQuery := some { credentials := [{
    id := "mdl", format := "mso_mdoc", metaQuery := { doctypeValue := "org.iso.18013.5.1.mDL" } }] }
  nonce := "n1"
  clientID := "verifier"
  issued := fun present => absurd rfl present

def capturedResponse : Response where
  vpToken := [("mdl", ["AA"])]

/-- The response is accepted and its credential cached, though the query requires holder binding
and the device has signed for another session only. -/
theorem captured_mdoc_accepted :
    capturedLibrary.verifySignature (.redirect "verifier" "n0" "uri" none) capturedDocument
        "device" = .ok () ∧
      ∃ entries, verifyResponse capturedClient capturedSession capturedResponse = .ok entries ∧
        ∃ credential, ("mdl", credential) ∈ credentialCaches capturedSession entries ∧
          RequiresBinding capturedClient capturedSession "mdl" ∧
          ∀ integrity token,
            AnswersScope capturedClient capturedSession capturedResponse "mdl" token →
            ¬HolderBound capturedClient integrity capturedSession token credential := by
  let credential := cachedDocument ⟨"org.iso.18013.5.1.mDL", extractDocumentClaims capturedDocument⟩
  have evaluated : verifyResponse capturedClient capturedSession capturedResponse = .ok [{
      scope := "mdl", token := "AA", format := .mdoc, answered := []
      credentials := [cachedDocument
        ⟨"org.iso.18013.5.1.mDL", extractDocumentClaims capturedDocument⟩] }] ∧
      AnswersScope capturedClient capturedSession capturedResponse "mdl" "AA" ∧
      detectCredentialFormat capturedClient "AA" = .mdoc := by
    unfold AnswersScope
    decide +kernel
  refine ⟨rfl, _, evaluated.1, credential, mem_singleton.mpr rfl, by
    unfold RequiresBinding; decide +kernel, ?_⟩
  intro integrity token answers bound
  cases evaluated.2.1.symm.trans answers
  obtain ⟨_, _, _, _, _, _, _, _, _, _, _, ⟨_, _, rfl⟩, proved⟩ := bound
  cases proved

end Vc.Verifier.DirectPost
