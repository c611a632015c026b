import Vc.Iso18013.Mso

/-!
# Session transcripts

`pkg/mdoc/session_transcript.go`: the transcripts of the three ways in which a
presentation is asked for.  Each one hides what it binds in a digest, under the
label of its handover.
-/

namespace Vc.Iso18013

open Checks Tokenstatuslist Function Cbor

section Transcripts

variable {Key : Type} (schemes : Schemes Key) (cbor : Codec)

/-- A transcript without device engagement and reader key. -/
def handoverTranscript (label : String) (handoverInfo : List Item) : List UInt8 :=
  cbor.marshal (.array false [.simple 22, .simple 22, .array false [textItem label,
    bytesItem (schemes.digest .sha256 (cbor.marshal (.array false handoverInfo)))]])

def buildOID4VPSessionTranscript (clientID nonce responseURI : String)
    (readerPublicKeyJWKThumbprint : Option (List UInt8)) : Except String (List UInt8) :=
  .ok (handoverTranscript schemes cbor "OpenID4VPHandover"
    [textItem clientID, textItem nonce, nilOrBytes readerPublicKeyJWKThumbprint,
      textItem responseURI])

def buildOID4VPDCAPISessionTranscript (origin nonce : String)
    (readerPublicKeyJWKThumbprint : Option (List UInt8)) : Except String (List UInt8) := do
  require (origin ≠ "") "mdoc: DC API session transcript requires the calling origin"
  return handoverTranscript schemes cbor "OpenID4VPDCAPIHandover"
    [textItem origin, textItem nonce, nilOrBytes readerPublicKeyJWKThumbprint]

def buildOID4VCIIAESessionTranscript (handoverLabel challengeEndpoint nonce : String)
    (responseEncryptionJWKThumbprint : Option (List UInt8)) : Except String (List UInt8) := do
  require (handoverLabel ≠ "")
    "mdoc: interactive authorization session transcript requires a handover label"
  require (challengeEndpoint ≠ "") ("mdoc: interactive authorization session transcript " ++
    "requires the authorization challenge endpoint")
  require (nonce ≠ "")
    "mdoc: interactive authorization session transcript requires the request nonce"
  return handoverTranscript schemes cbor handoverLabel
    [textItem challengeEndpoint, textItem nonce, nilOrBytes responseEncryptionJWKThumbprint]

end Transcripts

/-! ## What a transcript binds -/

/-- A flow, with what its transcript is made of. -/
inductive Handover where
  | redirect (clientID nonce responseURI : String) (thumbprint : Option (List UInt8))
  | digitalCredentials (origin nonce : String) (thumbprint : Option (List UInt8))
  | interactive (label challengeEndpoint nonce : String) (thumbprint : Option (List UInt8))
  deriving DecidableEq

namespace Handover

variable {Key : Type} (schemes : Schemes Key) (cbor : Codec)

/-- The transcript of a flow. -/
def transcript : Handover → Except String (List UInt8)
  | redirect clientID nonce responseURI thumbprint =>
    buildOID4VPSessionTranscript schemes cbor clientID nonce responseURI thumbprint
  | digitalCredentials origin nonce thumbprint =>
    buildOID4VPDCAPISessionTranscript schemes cbor origin nonce thumbprint
  | interactive label challengeEndpoint nonce thumbprint =>
    buildOID4VCIIAESessionTranscript schemes cbor label challengeEndpoint nonce thumbprint

/-- The label of interactive authorization is not one of the two fixed ones. -/
def Distinguished : Handover → Prop
  | interactive label _ _ _ => label ≠ "OpenID4VPHandover" ∧ label ≠ "OpenID4VPDCAPIHandover"
  | _ => True

/-- The label under which a transcript is made. -/
def label : Handover → String
  | redirect _ _ _ _ => "OpenID4VPHandover"
  | digitalCredentials _ _ _ => "OpenID4VPDCAPIHandover"
  | interactive label _ _ _ => label

/-- What is in the digest. -/
def info : Handover → List Item
  | redirect clientID nonce responseURI thumbprint =>
    [textItem clientID, textItem nonce, nilOrBytes thumbprint, textItem responseURI]
  | digitalCredentials origin nonce thumbprint =>
    [textItem origin, textItem nonce, nilOrBytes thumbprint]
  | interactive _ challengeEndpoint nonce thumbprint =>
    [textItem challengeEndpoint, textItem nonce, nilOrBytes thumbprint]

variable {schemes cbor}

theorem eq_handoverTranscript {handover : Handover} {data : List UInt8}
    (made : handover.transcript schemes cbor = .ok data) :
    data = handoverTranscript schemes cbor handover.label handover.info := by
  cases handover with
  | redirect clientID nonce responseURI thumbprint =>
    cases made
    rfl
  | digitalCredentials origin nonce thumbprint =>
    obtain ⟨_, _, done⟩ := bind_eq_ok_iff.mp made
    cases done
    rfl
  | interactive label challengeEndpoint nonce thumbprint =>
    simp only [transcript, buildOID4VCIIAESessionTranscript, bind_eq_ok_iff] at made
    obtain ⟨_, _, _, _, _, _, done⟩ := made
    cases done
    rfl

end Handover

theorem textItem_injective : Injective textItem := by
  intro first second same
  have read := congrArg asString same
  rw [asString_textItem, asString_textItem] at read
  exact Option.some.inj read

theorem bytesItem_injective : Injective bytesItem := by
  intro first second same
  have read := congrArg asBytes same
  rw [asBytes_bytesItem, asBytes_bytesItem] at read
  exact Option.some.inj read

theorem nilOrBytes_injective : Injective nilOrBytes := by
  intro first second same
  have read := congrArg asBytes same
  have back : ∀ bytes, asBytes (nilOrBytes bytes) = bytes := by
    rintro (_ | bytes)
    · rfl
    · exact asBytes_bytesItem _
  rwa [back, back] at read

theorem handoverTranscript_inj {Key : Type} {schemes : Schemes Key} {cbor : Codec}
    (hashed : Injective (schemes.digest .sha256)) {label other : String}
    {info different : List Item}
    (same : handoverTranscript schemes cbor label info =
      handoverTranscript schemes cbor other different) : label = other ∧ info = different := by
  have items := cbor.marshal_inj.mp same
  simp only [Item.array.injEq, List.cons.injEq, and_true, true_and] at items
  obtain ⟨labels, digests⟩ := items
  have contents := cbor.marshal_inj.mp (hashed (bytesItem_injective digests))
  exact ⟨textItem_injective labels, (Item.array.inj contents).2⟩

/-- A transcript is that of one flow only. -/
theorem Handover.transcript_inj {Key : Type} {schemes : Schemes Key} {cbor : Codec}
    (hashed : Injective (schemes.digest .sha256)) {first second : Handover}
    (firstLabel : first.Distinguished) (secondLabel : second.Distinguished) {data : List UInt8}
    (here : first.transcript schemes cbor = .ok data)
    (there : second.transcript schemes cbor = .ok data) : first = second := by
  have same := (eq_handoverTranscript here).symm.trans (eq_handoverTranscript there)
  obtain ⟨labels, infos⟩ := handoverTranscript_inj hashed same
  cases first with
  | redirect clientID nonce responseURI thumbprint =>
    cases second with
    | redirect clientID' nonce' responseURI' thumbprint' =>
      simp only [info, List.cons.injEq, and_true, textItem_injective.eq_iff,
        nilOrBytes_injective.eq_iff] at infos
      obtain ⟨rfl, rfl, rfl, rfl⟩ := infos
      rfl
    | digitalCredentials => exact absurd labels (by simp [label])
    | interactive => exact absurd labels.symm secondLabel.1
  | digitalCredentials origin nonce thumbprint =>
    cases second with
    | redirect => exact absurd labels (by simp [label])
    | digitalCredentials origin' nonce' thumbprint' =>
      simp only [info, List.cons.injEq, and_true, textItem_injective.eq_iff,
        nilOrBytes_injective.eq_iff] at infos
      obtain ⟨rfl, rfl, rfl⟩ := infos
      rfl
    | interactive => exact absurd labels.symm secondLabel.2
  | interactive firstText challengeEndpoint nonce thumbprint =>
    cases second with
    | redirect => exact absurd labels firstLabel.1
    | digitalCredentials => exact absurd labels firstLabel.2
    | interactive secondText challengeEndpoint' nonce' thumbprint' =>
      simp only [info, List.cons.injEq, and_true, textItem_injective.eq_iff,
        nilOrBytes_injective.eq_iff] at infos
      obtain ⟨rfl, rfl, rfl⟩ := infos
      exact congrArg (interactive · challengeEndpoint _ _) labels

end Vc.Iso18013
