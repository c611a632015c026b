import Vc.Iso18013.EntryPoints
import Vc.Iso18013.ZkHandler

/-!
# What a zero-knowledge proof covers

Claims are returned as they stand on the wire, whatever the native verifier was
handed.  For a Vega document every item on the wire is bound to a slot of the
circuit.  For a Longfellow document the attributes are those of the request, so
that nothing covers a claim that was not requested.
-/

namespace Vc.Iso18013

open Checks Entries Tokenstatuslist Openid4vp ZkHandler Option

/-! ## Claims and items -/

/-- The value of a claim. -/
def Elements.claim (elements : Elements) (nameSpace identifier : String) : Option Cbor.Item :=
  (elements.lookup nameSpace).bind (·.lookup identifier)

variable {dd : ZkDocumentData} {value : Cbor.Item}

variable {nameSpace : String} {item : ZkSignedItem}

section Attributes

variable {issuerSigned : Elements} {identifier : String}

end Attributes

/-! ## Slots -/

variable {entry : String × ZkSignedItem}

/-- What the native verifier is handed has the claim. -/
def NativeInput.Carries (formats : Formats) (identifier : String) (value : Cbor.Item) :
    NativeInput → Prop
  | .longfellow statement _ => ⟨identifier, formats.cbor.marshal value⟩ ∈ statement.attributes
  | .vega disclosedBytes => ∃ bytes ∈ disclosedBytes, ∃ bound,
      decodeVegaIssuerSignedItem formats bytes = .ok bound ∧
        bound.elementIdentifier = identifier ∧ bound.elementValue = value

namespace ZkHandler

variable {Key : Type} {h : ZkHandler Key} {pctx : ZkPresentationContext}

/-- The native verifier is handed something for a document. -/
def Hands (h : ZkHandler Key) (pctx : ZkPresentationContext) (dd : ZkDocumentData)
    (input : NativeInput) : Prop :=
  ∃ spec dsCert rest, offeredSystem pctx dd = .ok spec ∧
    h.x5ChainCertificates dd = .ok (dsCert, rest) ∧ h.nativeInput pctx spec dd dsCert = .ok input

theorem Hands.unique {first second : NativeInput}
    (here : h.Hands pctx dd first) (there : h.Hands pctx dd second) : first = second := by
  obtain ⟨_, _, _, offered, chain, made⟩ := here
  obtain ⟨_, _, _, offered', chain', made'⟩ := there
  cases offered.symm.trans offered'
  cases chain.symm.trans chain'
  exact Except.ok.inj (made.symm.trans made')

variable {result : ZkDocumentResult}

/-- What a document that passes returns. -/
theorem verifyOneDocument_eq_ok {zkDoc : ZkDocument}
    (done : h.verifyOneDocument pctx zkDoc dd = .ok result) :
    result.docType = dd.docType ∧ result.claims = flattenZkSignedItems dd.issuerSigned ∧
      ∃ input dsCert pseudonym, h.Hands pctx dd input ∧
        h.verifyNative zkDoc dd dsCert input = .ok pseudonym := by
  simp only [verifyOneDocument, bind_eq_ok_iff, mapError_eq_ok_iff] at done
  obtain ⟨spec, offered, ⟨dsCert, rest⟩, chain, _, _, input, handed, pseudonym, verified, done⟩ :=
    done
  cases done
  exact ⟨rfl, rfl, input, dsCert, pseudonym, ⟨spec, dsCert, rest, offered, chain, handed⟩, verified⟩

/-- The values on the wire, and those in the bytes that are bound, are kept when they are encoded
again. -/
def KeepsValues (h : ZkHandler Key) (dd : ZkDocumentData) : Prop :=
  ∀ entry ∈ dd.items, h.reencode entry.2.elementValue = entry.2.elementValue ∧
    ∀ bound, decodeVegaIssuerSignedItem h.formats entry.2.issuerSignedItemBytes = .ok bound →
      h.reencode bound.elementValue = bound.elementValue

/-- A document with what it says, if it can be read. -/
def parsed (h : ZkHandler Key) (zkDoc : ZkDocument) : Option (ZkDocument × ZkDocumentData) :=
  (h.parseZkDocumentData zkDoc.documentData).toOption.map (zkDoc, ·)

/-- The documents of a token, with what they say. -/
def presented (h : ZkHandler Key) (vpToken : String) : List (ZkDocument × ZkDocumentData) :=
  match (h.decodeToken vpToken).toOption.bind fun data =>
      (h.decodeDeviceResponse data).toOption with
  | none => []
  | some response => response.zkDocuments.filterMap h.parsed

/-- The results by their type, the later ones of a type in place of the earlier ones. -/
def byDocType (results : List ZkDocumentResult) : List (String × ZkDocumentResult) :=
  results.foldl (fun documents result => put result.docType result documents) []

variable {entries : List (ZkDocument × Nat)}

theorem foldl_recordDocument {state : List (String × ZkDocumentResult) × List String}
    (clean : (entries.foldl (h.recordDocument pctx) state).2 = []) :
    state.2 = [] ∧ ∃ results,
      List.Forall₂ (fun entry result => h.verifyZkDocument pctx entry.1 entry.2 = .ok result)
        entries results ∧
      (entries.foldl (h.recordDocument pctx) state).1 =
        results.foldl (fun documents result => put result.docType result documents) state.1 := by
  induction entries generalizing state with
  | nil => exact ⟨clean, [], .nil, rfl⟩
  | cons entry rest ih =>
    obtain ⟨before, results, later, folded⟩ := ih clean
    rw [List.foldl_cons, folded]
    unfold recordDocument at before ⊢
    cases verified : h.verifyZkDocument pctx entry.1 entry.2 with
    | error error =>
      rw [verified] at before
      exact absurd before (by simp)
    | ok result =>
      rw [verified] at before
      exact ⟨before, result :: results, .cons verified later, rfl⟩

variable {results : List ZkDocumentResult}

/-- A document that passes was read. -/
theorem parsed_of_verified (verified : List.Forall₂ (fun entry result =>
      h.verifyZkDocument pctx entry.1 entry.2 = .ok result) entries results) :
    List.Forall₂ (fun entry result => h.verifyOneDocument pctx entry.1 entry.2 = .ok result)
      ((entries.map Prod.fst).filterMap h.parsed) results := by
  induction verified with
  | nil => exact .nil
  | @cons entry result rest results here _ ih =>
    unfold verifyZkDocument at here
    cases read : h.parseZkDocumentData entry.1.documentData with
    | error error =>
      rw [read] at here
      cases here
    | ok dd =>
      rw [read] at here
      have kept : h.parsed entry.1 = some (entry.1, dd) := by
        rw [parsed, read]
        rfl
      rw [List.map_cons, List.filterMap_cons_some kept]
      exact .cons (mapError_eq_ok_iff.mp here) ih

/-- What an accepted token was checked for, and what it returns. -/
theorem verifyAndExtract_eq_ok {vpToken : String} {documents : List (String × ZkDocumentResult)}
    (accepted : h.verifyAndExtract pctx vpToken = .ok documents) :
    ∃ results, List.Forall₂ (fun entry result =>
        h.verifyOneDocument pctx entry.1 entry.2 = .ok result) (h.presented vpToken) results ∧
      documents = byDocType results := by
  simp only [verifyAndExtract, bind_eq_ok_iff, mapError_eq_ok_iff] at accepted
  obtain ⟨data, decoded, response, read, _, _, _, _, _, _, _, _, done⟩ := accepted
  split_ifs at done with clean
  cases done
  obtain ⟨_, results, verified, folded⟩ := foldl_recordDocument clean
  refine ⟨results, ?_, folded⟩
  unfold presented
  rw [decoded, Except.toOption, bind_some, read]
  have parsed := parsed_of_verified verified
  rwa [List.zipIdx_map_fst] at parsed

section Accepted

variable {entries : List (ZkDocument × ZkDocumentData)}

section

variable (verified : List.Forall₂ (fun entry result =>
  h.verifyOneDocument pctx entry.1 entry.2 = .ok result) entries results)

include verified

end

end Accepted

end ZkHandler

end Vc.Iso18013
