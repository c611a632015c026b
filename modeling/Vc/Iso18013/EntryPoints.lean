import Vc.Iso18013.Verifier

/-!
# The two entry points of the verifier

`VerifyDocument` and `VerifyIssuerSigned` repeat the same checks in separate code.
Both accept exactly what is genuine and trusted, and then return the same; but
`VerifyIssuerSigned` asks the trust evaluator about the empty document type.
-/

namespace Vc.Iso18013

open Checks Entries Tokenstatuslist DocumentVerificationResult Cbor List

namespace Verifier

variable {Key : Type} {v : Verifier Key}

/-! ## The loops -/

variable {result : DocumentVerificationResult Key} {mso : MobileSecurityObject}

theorem valid_documentItem {nameSpace : String} {entry : Item × Nat}
    (failed : result.valid = false) :
    (v.documentItem mso nameSpace result entry).valid = false := by
  unfold documentItem
  repeat' split
  all_goals first | rfl | exact failed

/-- A round of either loop does the same with an item. -/
theorem agrees_documentItem (mso : MobileSecurityObject) (nameSpace : String)
    (result : DocumentVerificationResult Key) (entry : Item × Nat)
    (sound : result.valid = true) :
    Agrees valid verifiedElements (v.documentItem mso nameSpace result entry)
      (v.issuerSignedItem mso nameSpace result.verifiedElements entry.1) := by
  unfold documentItem issuerSignedItem
  cases verified : verifyDigest v.schemes v.formats mso nameSpace entry.1 with
  | error error => exact rfl
  | ok =>
    obtain ⟨content, contentBytes, item, _, tagged, bytes, decoded, _⟩ :=
      (verifyDigest_eq_ok_iff v.schemes v.formats).mp verified
    simp only [tagged, bytes, decoded, Option.getD_some]
    exact ⟨sound, rfl⟩

theorem valid_documentNameSpace {entry : String × List Item}
    (failed : result.valid = false) : (v.documentNameSpace mso result entry).valid = false :=
  foldlRecOn (motive := fun after : DocumentVerificationResult Key => after.valid = false)
    _ _ failed fun _ still _ _ => valid_documentItem still

/-- A round of either loop does the same with a name space. -/
theorem agrees_documentNameSpace (mso : MobileSecurityObject)
    (result : DocumentVerificationResult Key) (entry : String × List Item)
    (sound : result.valid = true) :
    Agrees valid verifiedElements (v.documentNameSpace mso result entry)
      (v.issuerSignedNameSpace mso result.verifiedElements entry) := by
  have items : entry.2 = entry.2.zipIdx.map Prod.fst := (zipIdx_map_fst 0 entry.2).symm
  unfold documentNameSpace issuerSignedNameSpace
  nth_rewrite 2 [items]
  rw [foldlM_map]
  exact Agrees.foldl (fun _ _ => valid_documentItem) (agrees_documentItem mso _) _ sound

/-- The two loops over the name spaces agree. -/
theorem agrees_nameSpaces (mso : MobileSecurityObject) (nameSpaces : List (String × List Item))
    (sound : result.valid = true) :
    Agrees valid verifiedElements (nameSpaces.foldl (v.documentNameSpace mso) result)
      (nameSpaces.foldlM (v.issuerSignedNameSpace mso) result.verifiedElements) :=
  Agrees.foldl (fun _ _ => valid_documentNameSpace) (agrees_documentNameSpace mso) _ sound

theorem mso_nameSpaces (mso : MobileSecurityObject) (nameSpaces : List (String × List Item))
    (result : DocumentVerificationResult Key) :
    (nameSpaces.foldl (v.documentNameSpace mso) result).mso = result.mso := by
  let kept (after : DocumentVerificationResult Key) : Prop := after.mso = result.mso
  refine foldlRecOn (motive := kept) _ _ rfl fun before same entry _ => ?_
  refine foldlRecOn (motive := kept) _ _ same fun after still item _ => ?_
  refine Eq.trans ?_ still
  unfold documentItem
  repeat' split
  all_goals rfl

/-! ## What is accepted -/

/-- Every check that does not ask the trust evaluator: the chain and the Mobile Security Object are
read, valid and signed, and the digests of the items are verified. -/
structure Genuine (v : Verifier Key) (issuerSigned : IssuerSigned) (docType : String)
    (dsCert : Certificate Key) (rest : List (Certificate Key)) (mso : MobileSecurityObject)
    (elements : Elements) : Prop where
  signed : ∃ issuerAuth, v.parseIssuerAuth issuerSigned.issuerAuth = .ok issuerAuth ∧
    getCertificateChainFromSign1 v.formats.cbor v.parseCertificate issuerAuth =
      .ok (dsCert :: rest) ∧
    verifyMSO v.schemes v.formats issuerAuth dsCert = .ok mso
  period : dsCert.notBefore ≤ v.clock ∧ v.clock ≤ dsCert.notAfter
  validated : v.validateMSO mso docType = .ok ()
  items : issuerSigned.nameSpaces.foldlM (v.issuerSignedNameSpace mso) [] = .ok elements

/-- The trust evaluator trusts the chain for a document type. -/
def Trusts (v : Verifier Key) (dsCert : Certificate Key) (rest : List (Certificate Key))
    (docType : String) : Prop :=
  ∃ reason, v.evaluate
    ⟨if v.issuerURL = "" then extractMDocIssuerID dsCert else v.issuerURL, dsCert :: rest,
      docType⟩ = .ok (true, reason)

variable {docType : String} {rest : List (Certificate Key)} {dsCert : Certificate Key}

theorem verifyCertificateChainWithContext_eq_ok_iff :
    v.verifyCertificateChainWithContext (dsCert :: rest) docType = .ok () ↔
      (dsCert.notBefore ≤ v.clock ∧ v.clock ≤ dsCert.notAfter) ∧ v.Trusts dsCert rest docType := by
  simp only [verifyCertificateChainWithContext, evaluateChain, bind_eq_ok_iff, require_eq_ok_iff,
    mapError_eq_ok_iff, exists_const]
  rw [and_assoc]
  refine and_congr_right fun _ => and_congr_right fun _ => ?_
  constructor
  · rintro ⟨⟨_, reason⟩, decided, rfl⟩
    exact ⟨reason, decided⟩
  · rintro ⟨reason, decided⟩
    exact ⟨(true, reason), decided, rfl⟩

variable {issuerSigned : IssuerSigned} {elements : Elements}

/-- `VerifyIssuerSigned` accepts what is genuine and trusted for the empty document type. -/
theorem verifyIssuerSigned_eq_ok_iff :
    v.verifyIssuerSigned issuerSigned docType = .ok (mso, elements) ↔
      ∃ dsCert rest, v.Genuine issuerSigned docType dsCert rest mso elements ∧
        v.Trusts dsCert rest "" := by
  unfold verifyIssuerSigned
  constructor
  · intro done
    simp only [bind_eq_ok_iff, mapError_eq_ok_iff] at done
    obtain ⟨issuerAuth, parsed, chain, extracted, done⟩ := done
    cases chain with
    | nil => cases done
    | cons dsCert rest =>
      simp only [bind_eq_ok_iff, mapError_eq_ok_iff] at done
      obtain ⟨_, chain, _, verified, _, validated, _, items, done⟩ := done
      obtain ⟨period, trusted⟩ := verifyCertificateChainWithContext_eq_ok_iff.mp chain
      cases done
      exact ⟨dsCert, rest, ⟨⟨issuerAuth, parsed, extracted, verified⟩, period, validated, items⟩,
        trusted⟩
  · rintro ⟨dsCert, rest, ⟨⟨issuerAuth, parsed, extracted, verified⟩, period, validated, items⟩,
      trusted⟩
    simp only [bind_eq_ok_iff, mapError_eq_ok_iff]
    refine ⟨issuerAuth, parsed, dsCert :: rest, extracted, ?_⟩
    simp only [bind_eq_ok_iff, mapError_eq_ok_iff]
    have chain := verifyCertificateChainWithContext_eq_ok_iff.mpr ⟨period, trusted⟩
    exact ⟨(), chain, mso, verified, (), validated, elements, items, rfl⟩

/-- What `VerifyDocument` accepts is genuine and trusted for the document type. -/
theorem genuine_of_valid (sound : (v.verifyDocument ⟨docType, issuerSigned⟩).valid = true) :
    ∃ dsCert rest mso, v.Genuine issuerSigned docType dsCert rest mso
        (v.verifyDocument ⟨docType, issuerSigned⟩).verifiedElements ∧
      v.Trusts dsCert rest docType := by
  unfold verifyDocument at sound ⊢
  split at sound
  · exact absurd sound nofun
  · next issuerAuth parsed =>
    split at sound
    · exact absurd sound nofun
    · exact absurd sound nofun
    · next dsCert rest extracted =>
      split at sound
      · exact absurd sound nofun
      · next chain =>
        split at sound
        · exact absurd sound nofun
        · next mso verified =>
          split at sound
          · exact absurd sound nofun
          · next validated =>
            obtain ⟨period, trusted⟩ := verifyCertificateChainWithContext_eq_ok_iff.mp chain
            refine ⟨dsCert, rest, mso, ⟨⟨issuerAuth, parsed, extracted, verified⟩, period,
              validated, ?_⟩, trusted⟩
            exact (agrees_nameSpaces mso _ rfl).eq_ok_iff.mpr ⟨sound, rfl⟩

/-- What is genuine and trusted for the document type is accepted by `VerifyDocument`. -/
theorem Genuine.verifyDocument (genuine : v.Genuine issuerSigned docType dsCert rest mso elements)
    (trusted : v.Trusts dsCert rest docType) :
    (v.verifyDocument ⟨docType, issuerSigned⟩).mso = some mso ∧
      (v.verifyDocument ⟨docType, issuerSigned⟩).valid = true ∧
      (v.verifyDocument ⟨docType, issuerSigned⟩).verifiedElements = elements := by
  obtain ⟨⟨issuerAuth, parsed, extracted, verified⟩, period, validated, items⟩ := genuine
  have chain := verifyCertificateChainWithContext_eq_ok_iff.mpr ⟨period, trusted⟩
  simp only [Verifier.verifyDocument, parsed, extracted, chain, verified, validated,
    mso_nameSpaces, true_and]
  exact (agrees_nameSpaces mso _ rfl).eq_ok_iff.mp items

/-- There is at most one way to be genuine. -/
theorem Genuine.unique {dsCert' : Certificate Key} {rest rest' : List (Certificate Key)}
    {mso' : MobileSecurityObject} {elements' : Elements}
    (first : v.Genuine issuerSigned docType dsCert rest mso elements)
    (second : v.Genuine issuerSigned docType dsCert' rest' mso' elements') :
    dsCert = dsCert' ∧ rest = rest' ∧ mso = mso' ∧ elements = elements' := by
  obtain ⟨_, parsed, extracted, verified⟩ := first.signed
  obtain ⟨_, parsed', extracted', verified'⟩ := second.signed
  cases parsed.symm.trans parsed'
  cases extracted.symm.trans extracted'
  cases verified.symm.trans verified'
  cases first.items.symm.trans second.items
  exact ⟨rfl, rfl, rfl, rfl⟩

/-! ## Deciding alike -/

/-- The two entry points decide alike, and what they return is equal. -/
def DecideAlike (v : Verifier Key) (issuerSigned : IssuerSigned) (docType : String) : Prop :=
  ((∃ result, v.verifyIssuerSigned issuerSigned docType = .ok result) ↔
    (v.verifyDocument ⟨docType, issuerSigned⟩).valid = true) ∧
  ∀ mso elements, v.verifyIssuerSigned issuerSigned docType = .ok (mso, elements) →
    (v.verifyDocument ⟨docType, issuerSigned⟩).valid = true →
    (v.verifyDocument ⟨docType, issuerSigned⟩).mso = some mso ∧
      (v.verifyDocument ⟨docType, issuerSigned⟩).verifiedElements = elements

/-- The two entry points decide alike exactly if the trust evaluator does not tell the empty
document type from the document's own, for the chain of genuine data. -/
theorem decideAlike_iff_trusts (v : Verifier Key) (issuerSigned : IssuerSigned) (docType : String) :
    v.DecideAlike issuerSigned docType ↔
      ∀ dsCert rest mso elements, v.Genuine issuerSigned docType dsCert rest mso elements →
        (v.Trusts dsCert rest "" ↔ v.Trusts dsCert rest docType) := by
  constructor
  · rintro ⟨same, _⟩ dsCert rest mso elements genuine
    constructor
    · intro trusted
      have accepted := verifyIssuerSigned_eq_ok_iff.mpr ⟨dsCert, rest, genuine, trusted⟩
      obtain ⟨_, _, _, genuine', trusted'⟩ := genuine_of_valid (same.mp ⟨_, accepted⟩)
      obtain ⟨rfl, rfl, _⟩ := genuine.unique genuine'
      exact trusted'
    · intro trusted
      obtain ⟨_, sound, _⟩ := genuine.verifyDocument trusted
      obtain ⟨⟨mso', elements'⟩, accepted⟩ := same.mpr sound
      obtain ⟨_, _, genuine', trusted'⟩ := verifyIssuerSigned_eq_ok_iff.mp accepted
      obtain ⟨rfl, rfl, _⟩ := genuine.unique genuine'
      exact trusted'
  · intro same
    refine ⟨⟨?_, ?_⟩, ?_⟩
    · rintro ⟨⟨mso, elements⟩, accepted⟩
      obtain ⟨dsCert, rest, genuine, trusted⟩ := verifyIssuerSigned_eq_ok_iff.mp accepted
      exact (genuine.verifyDocument ((same _ _ _ _ genuine).mp trusted)).2.1
    · intro sound
      obtain ⟨dsCert, rest, mso, genuine, trusted⟩ := genuine_of_valid sound
      exact ⟨_, verifyIssuerSigned_eq_ok_iff.mpr
        ⟨dsCert, rest, genuine, (same _ _ _ _ genuine).mpr trusted⟩⟩
    · intro mso elements accepted _
      obtain ⟨dsCert, rest, genuine, trusted⟩ := verifyIssuerSigned_eq_ok_iff.mp accepted
      obtain ⟨held, _, found⟩ := genuine.verifyDocument ((same _ _ _ _ genuine).mp trusted)
      exact ⟨held, found⟩

/-! ## A trust evaluator that asks for the document type -/

def signerCertificate : Certificate KeyKind where
  raw := [1]
  publicKey := .ecdsa .p256
  notBefore := 0
  notAfter := 10
  uris := []
  dnsNames := []
  organization := ["issuer"]
  country := []
  commonName := ""
  issuerCommonName := ""

/-- A driving licence without data elements. -/
def licenceMSO : MobileSecurityObject where
  version := "1.0"
  digestAlgorithm := "SHA-256"
  valueDigests := []
  deviceKey := ⟨2, 0, 1, [1], [2]⟩
  docType := "org.iso.18013.5.1.mDL"
  signed := 0
  validFrom := 0
  validUntil := 10

/-- The payload that is signed for it. -/
def licencePayload : List UInt8 :=
  plain.marshal (encodedCBOR (Formats.plain.mso.marshal licenceMSO))

def signedLicence : COSESign1 where
  protectedBytes := algorithmHeader plain (-7)
  unprotected := [(intItem 33, .array false [bytesItem [1]])]
  payload := some licencePayload
  signature := Crypto.ideal.ecdsaSign (.ecdsa .p256) .sha256 []

/-- An issuer that is trusted for driving licences. -/
def licenceVerifier : Verifier KeyKind where
  schemes := .ideal
  formats := .plain
  parseCertificate bytes :=
    if bytes = [1] then .ok signerCertificate else .error "x509: malformed certificate"
  evaluate request := .ok (request.docType = "org.iso.18013.5.1.mDL", "not listed for the type")
  issuerURL := ""
  clock := 5
  now := 5

theorem genuine_licence : licenceVerifier.Genuine ⟨[], issuerAuthArray signedLicence⟩
    "org.iso.18013.5.1.mDL" signerCertificate [] licenceMSO [] where
  signed := by
    have chain : getCertificateChainFromSign1 plain licenceVerifier.parseCertificate
        signedLicence = .ok [signerCertificate] := by
      refine getCertificateChainFromSign1_attached _ _ (fun certificate member => ?_) rfl
      rw [mem_singleton.mp member]
      rfl
    have message : sign1 Schemes.ideal plain licencePayload (.ecdsa .p256) (-7) [[1]] [] =
        .ok signedLicence := rfl
    exact ⟨signedLicence, parseIssuerAuth_array _ _, chain,
      verifyMSO_sign1 Schemes.ideal_correct rfl message rfl⟩
  period := by decide
  validated := rfl
  items := rfl

/-- The licence is valid as a document, and its issuer-signed part alone is refused. -/
theorem licence_refused_without_docType :
    (licenceVerifier.verifyDocument
      ⟨"org.iso.18013.5.1.mDL", [], issuerAuthArray signedLicence⟩).valid = true ∧
    ∀ result, licenceVerifier.verifyIssuerSigned ⟨[], issuerAuthArray signedLicence⟩
      "org.iso.18013.5.1.mDL" ≠ .ok result := by
  constructor
  · exact (genuine_licence.verifyDocument ⟨_, rfl⟩).2.1
  · rintro ⟨mso, elements⟩ accepted
    obtain ⟨dsCert, rest, genuine, reason, trusted⟩ := verifyIssuerSigned_eq_ok_iff.mp accepted
    cases (Except.ok.inj trusted)

end Verifier

end Vc.Iso18013
