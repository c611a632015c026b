import Vc.Openid4vp.VC20
import Vc.Vc20.RdfCredential

/-!
# Cryptosuites that sign canonical datasets

`VerifyProof` of `ecdsa-rdfc-2019` and `eddsa-rdfc-2022`.  The proof is looked up by its
`proofValue` among the compacted proofs of the document; its configuration and the
document without proofs are canonicalised, and the signature is checked over both.

Which proof is found depends on the order of the nodes.  `proofNodesIn` lists them, and
the search finds the first that matches.
-/

namespace Vc.Vc20

open Checks Sdjwtvc Openid4vp Rdf List Members

/-! ## Finding a proof -/

/-- A type is named by a text or by a list of texts. -/
def namesType (expectedType : String) : Json → Bool
  | .str type => type = expectedType
  | .arr types => .str expectedType ∈ types
  | _ => false

def hasType (node : Members) (expectedType : String) : Bool :=
  match node.lookup "type", node.lookup "@type" with
  | some type, _ => namesType expectedType type
  | none, some type => namesType expectedType type
  | none, none => false

def proofType : String := "DataIntegrityProof"

section Search

variable (type : String)

def isProofNode (node : Members) : Bool :=
  hasType node type || hasType node "Proof"

mutual
/-- `FindProofNodeFunc`; the members of an object are in the order of their keys. -/
def findProofNodeFunc (wanted : Members → Bool) : Json → Option Members
  | .obj members =>
    if isProofNode type members && wanted members then some members
    else findInMembers wanted members
  | .arr elements => findInElements wanted elements
  | _ => none

def findInMembers (wanted : Members → Bool) : Members → Option Members
  | [] => none
  | (_, value) :: rest => (findProofNodeFunc wanted value).or (findInMembers wanted rest)

def findInElements (wanted : Members → Bool) : List Json → Option Members
  | [] => none
  | first :: rest => (findProofNodeFunc wanted first).or (findInElements wanted rest)
end

mutual
/-- All proofs in a tree, in the order of the search. -/
def proofNodesIn : Json → List Members
  | .obj members =>
    (if isProofNode type members then [members] else []) ++ proofNodesInMembers members
  | .arr elements => proofNodesInElements elements
  | _ => []

def proofNodesInMembers : Members → List Members
  | [] => []
  | (_, value) :: rest => proofNodesIn value ++ proofNodesInMembers rest

def proofNodesInElements : List Json → List Members
  | [] => []
  | first :: rest => proofNodesIn first ++ proofNodesInElements rest
end

mutual
def countProofNodes : Json → Nat
  | .obj members => (if isProofNode type members then 1 else 0) + countInMembers members
  | .arr elements => countInElements elements
  | _ => 0

def countInMembers : Members → Nat
  | [] => 0
  | (_, value) :: rest => countProofNodes value + countInMembers rest

def countInElements : List Json → Nat
  | [] => 0
  | first :: rest => countProofNodes first + countInElements rest
end

end Search

def matchProofValue (proofValue : String) (node : Members) : Bool :=
  text node "proofValue" = proofValue

variable {type : String} {wanted : Members → Bool}

theorem findInMembers_of {members : Members} (each : ∀ member ∈ members,
      findProofNodeFunc type wanted member.2 = (proofNodesIn type member.2).find? wanted) :
    findInMembers type wanted members = (proofNodesInMembers type members).find? wanted := by
  induction members with
  | nil => rfl
  | cons member rest ih =>
    obtain ⟨here, later⟩ := forall_mem_cons.mp each
    rw [findInMembers, proofNodesInMembers, find?_append, here, ih later]

theorem findInElements_of {elements : List Json} (each : ∀ element ∈ elements,
      findProofNodeFunc type wanted element = (proofNodesIn type element).find? wanted) :
    findInElements type wanted elements = (proofNodesInElements type elements).find? wanted := by
  induction elements with
  | nil => rfl
  | cons element rest ih =>
    obtain ⟨here, later⟩ := forall_mem_cons.mp each
    rw [findInElements, proofNodesInElements, find?_append, here, ih later]

variable (type)

/-- The search finds the first proof that is wanted. -/
theorem findProofNodeFunc_eq (wanted : Members → Bool) (tree : Json) :
    findProofNodeFunc type wanted tree = (proofNodesIn type tree).find? wanted := by
  induction tree using Json.induct with
  | arr elements ih => exact findInElements_of ih
  | obj members ih =>
    rw [findProofNodeFunc, proofNodesIn, findInMembers_of ih]
    cases isProofNode type members with
    | false => rfl
    | true => cases found : wanted members <;> simp [found]
  | _ => rfl

/-- The proofs that the search visits are counted. -/
theorem countProofNodes_eq (tree : Json) :
    countProofNodes type tree = (proofNodesIn type tree).length := by
  induction tree using Json.induct with
  | arr elements ih =>
    rw [countProofNodes, proofNodesIn]
    induction elements with
    | nil => rfl
    | cons element rest rests =>
      obtain ⟨here, later⟩ := forall_mem_cons.mp ih
      rw [countInElements, proofNodesInElements, length_append, here, rests later]
  | obj members ih =>
    have below : countInMembers type members = (proofNodesInMembers type members).length := by
      induction members with
      | nil => rfl
      | cons member rest rests =>
        obtain ⟨here, later⟩ := forall_mem_cons.mp ih
        rw [countInMembers, proofNodesInMembers, length_append, here, rests later]
    rw [countProofNodes, proofNodesIn, length_append, below]
    split_ifs <;> rfl
  | _ => rfl

/-! ## Order of members -/

variable {type}

theorem namesType_reordered : ∀ {first second : Json}, Json.Reordered first second →
    namesType type first = namesType type second
  | _, _, .refl _ | _, _, .obj _ => rfl
  | _, _, .arr each => by simp only [namesType, each.str_mem]

theorem lookup_reordered {name : String} : ∀ {members others : Members},
    Members.Reordered members others →
    (members.lookup name).map (namesType type) = (others.lookup name).map (namesType type)
  | _, _, .nil => rfl
  | _, _, .cons head tail => by
    simp only [List.lookup_cons]
    split
    · exact congrArg some (namesType_reordered head)
    · exact lookup_reordered tail
  | _, _, .swap (_, _) (_, _) rest distinct => by
    simp only [List.lookup_cons]
    split <;> split <;> simp_all
  | _, _, .trans left right => (lookup_reordered left).trans (lookup_reordered right)

theorem hasType_reordered {members others : Members}
    (reordered : Members.Reordered members others) :
    hasType members type = hasType others type := by
  have eq : ∀ node, hasType node type =
      (((node.lookup "type").map (namesType type)).or
        ((node.lookup "@type").map (namesType type))).getD false := by
    intro node
    unfold hasType
    cases node.lookup "type" <;> cases node.lookup "@type" <;> rfl
  rw [eq, eq, lookup_reordered reordered, lookup_reordered reordered]

theorem isProofNode_reordered {members others : Members}
    (reordered : Members.Reordered members others) :
    isProofNode type members = isProofNode type others := by
  rw [isProofNode, isProofNode, hasType_reordered reordered, hasType_reordered reordered]

mutual
theorem proofNodesIn_reordered : ∀ {first second : Json}, Json.Reordered first second →
    Multiset.Rel Members.Reordered (proofNodesIn type first) (proofNodesIn type second)
  | _, _, .refl _ => Multiset.rel_refl_of_refl_on fun node _ => Members.Reordered.refl node
  | _, _, .arr each => proofNodesInElements_reordered each
  | _, _, .obj reordered => by
    rw [proofNodesIn, proofNodesIn, isProofNode_reordered reordered, ← Multiset.coe_add,
      ← Multiset.coe_add]
    refine Multiset.Rel.add ?_ (proofNodesInMembers_reordered reordered)
    split
    · exact .cons reordered .zero
    · exact .zero

theorem proofNodesInElements_reordered : ∀ {elements others : List Json},
    ReorderedElements elements others →
    Multiset.Rel Members.Reordered (proofNodesInElements type elements)
      (proofNodesInElements type others)
  | _, _, .nil => .zero
  | _, _, .cons head tail => by
    simp only [proofNodesInElements, ← Multiset.coe_add]
    exact (proofNodesIn_reordered head).add (proofNodesInElements_reordered tail)

theorem proofNodesInMembers_reordered : ∀ {members others : Members},
    Members.Reordered members others →
    Multiset.Rel Members.Reordered (proofNodesInMembers type members)
      (proofNodesInMembers type others)
  | _, _, .nil => .zero
  | _, _, .cons head tail => by
    simp only [proofNodesInMembers, ← Multiset.coe_add]
    exact (proofNodesIn_reordered head).add (proofNodesInMembers_reordered tail)
  | _, _, .swap _ _ rest _ => by
    simp only [proofNodesInMembers, ← Multiset.coe_add, add_left_comm]
    exact Multiset.rel_refl_of_refl_on fun node _ => Members.Reordered.refl node
  | _, _, .trans left right =>
    (proofNodesInMembers_reordered left).trans _ (proofNodesInMembers_reordered right)
end

theorem rel_filter {α : Type} {relation : α → α → Prop} {wanted : α → Bool}
    (respects : ∀ first second, relation first second → wanted first = wanted second)
    {first second : Multiset α} (related : Multiset.Rel relation first second) :
    Multiset.Rel relation (first.filter (wanted ·)) (second.filter (wanted ·)) := by
  induction related with
  | zero => exact .zero
  | @cons one other _ _ head _ ih =>
    simp only [Multiset.filter_cons, respects one other head]
    refine Multiset.Rel.add ?_ ih
    split
    · exact .cons head .zero
    · exact .zero

variable (type)

/-- The search returns a counted proof that is wanted, if there is one.  The only one is returned
whatever the order of the members, up to the order of its own. -/
theorem search_agrees_with_count (wanted : Members → Bool) (tree : Json) :
    countProofNodes type tree = (proofNodesIn type tree).length ∧
    ((findProofNodeFunc type wanted tree).isSome ↔ ∃ node ∈ proofNodesIn type tree, wanted node) ∧
    (∀ node, findProofNodeFunc type wanted tree = some node →
      node ∈ proofNodesIn type tree ∧ wanted node) ∧
    ∀ node other, (proofNodesIn type tree).filter wanted = [node] →
      (∀ first second, Members.Reordered first second → wanted first = wanted second) →
      Json.Reordered tree other →
      ∃ found, findProofNodeFunc type wanted other = some found ∧
        Members.Reordered node found := by
  simp only [findProofNodeFunc_eq]
  refine ⟨countProofNodes_eq type tree, find?_isSome, fun node found => ?_,
    fun node other only respects reordered => ?_⟩
  · exact ⟨mem_of_find?_eq_some found, find?_some found⟩
  · have related := rel_filter respects (@proofNodesIn_reordered type _ _ reordered)
    simp only [Multiset.filter_coe, Bool.decide_eq_true, only, Multiset.coe_singleton] at related
    obtain ⟨found, rest, same, others, alone⟩ := Multiset.rel_cons_left.mp related
    rw [Multiset.rel_zero_left.mp others, Multiset.cons_zero, Multiset.coe_eq_singleton] at alone
    exact ⟨found, by rw [← head?_filter, alone, head?_cons], same⟩

/-! ## Suites -/

/-- What the suites rely on: JSON-LD, hash sums of canonical forms, and signatures. -/
structure DataIntegrity (Key : Type) where
  ld : JsonLd
  /-- `json.Unmarshal` -/
  unmarshal : Bytes → Except String Json
  /-- SHA-256 of the N-Quads of a canonical form -/
  hash : List Quad → Bytes
  /-- `multibase.Decode` -/
  decodeMultibase : String → Except String Bytes
  /-- the size of the curve of a key, in bytes -/
  keyBytes : Key → Nat
  /-- `ecdsa.Verify` over the hash that belongs to the curve -/
  ecdsaVerify : Key → Bytes → Bytes → Bool
  /-- `ed25519.Verify` -/
  ed25519Verify : Key → Bytes → Bytes → Bool
  /-- key resolution and what else the handlers call -/
  base : VC20Library Key

namespace DataIntegrity

variable {Key : Type} (integrity : DataIntegrity Key)

def newRDFCredentialFromJSON (text : Bytes) : Except String RDFCredential := do
  let original ← wrap "failed to unmarshal JSON" (integrity.unmarshal text)
  let dataset ← wrap "failed to convert JSON-LD to RDF" (integrity.ld.toRDF original)
  return { dataset, original }

variable (order : integrity.ld.Order)

/-- The compacted proofs of a document. -/
def proofTree (dataset : Dataset) : Except String Json := do
  let proofGraphs ← wrap "failed to get proof object" (proofObject dataset)
  wrap "failed to compact proof JSON" (integrity.ld.compacted order proofGraphs)

/-- The proof of a value, or the only one. -/
def selectProof (wantProofValue : String) (tree : Json) : Except String Members :=
  if wantProofValue ≠ "" then
    match findProofNodeFunc proofType (matchProofValue wantProofValue) tree with
    | none => .error "the proof asked for is not present in the document's proof object"
    | some node => .ok node
  else if 1 < countProofNodes proofType tree then
    .error ("the document holds " ++ toString (countProofNodes proofType tree) ++
      " proofs and none was named: pass the proofValue of the one to verify " ++
      "(Verify is for single-proof documents)")
  else match findProofNodeFunc proofType (fun _ => true) tree with
    | none => .error "proof node not found in proof object"
    | some node => .ok node

/-- `proofNode["proofValue"].(string)` -/
def proofValueOf (node : Members) : Except String String :=
  match node.lookup "proofValue" with
  | some (.str proofValue) => .ok proofValue
  | _ => .error "proofValue not found or not a string"

def proofConfig (context : Json) (node : Members) : Json :=
  let config := Entries.without "proofValue" node
  .obj (if (config.lookup "@context").isSome then config else Entries.put "@context" context config)

def canonicalConfig (context : Json) (node : Members) : Except String (List Quad) := do
  let _ ← wrap "failed to create RDF credential for proof config"
    (integrity.ld.toRDF (proofConfig context node))
  wrap "failed to get canonical form of proof config"
    (integrity.ld.normalize (proofConfig context node))

/-- The canonical form of a document without the proofs of nodes of the given types. -/
def canonicalDocument (dataset : Dataset) (targetTypes : List String) :
    Except String (List Quad) := do
  let document ← wrap "failed to get credential without proof"
    (integrity.ld.fromRDF (withoutProofForTypes dataset targetTypes))
  wrap "failed to get canonical form of document" (integrity.ld.normalize document)

/-- What is signed. -/
def combined (config document : List Quad) : Bytes :=
  integrity.hash config ++ integrity.hash document

variable (cred : RDFCredential)

/-- `VerifyProof` of `ecdsa-rdfc-2019` -/
def ecdsaVerifyProof (key : Key) (wantProofValue : String) : Except String Unit := do
  let tree ← integrity.proofTree order cred.dataset
  let proofNode ← selectProof wantProofValue tree
  let proofValue ← proofValueOf proofNode
  let config ← integrity.canonicalConfig (.str contextV2) proofNode
  let document ← integrity.canonicalDocument cred.dataset []
  let signature ← wrap "failed to decode proofValue" (integrity.decodeMultibase proofValue)
  require (signature.length = 2 * integrity.keyBytes key)
    ("invalid signature length: expected " ++ toString (2 * integrity.keyBytes key) ++ ", got " ++
      toString signature.length)
  require (integrity.ecdsaVerify key (integrity.combined config document) signature = true)
    "signature verification failed"

/-- The type whose proofs are removed. -/
def targetType : String :=
  match cred.original with
  | .obj members =>
    if hasType members "VerifiablePresentation" then "VerifiablePresentation"
    else "VerifiableCredential"
  | _ => "VerifiableCredential"

def documentContext : Json :=
  match cred.original with
  | .obj members =>
    match members.lookup "@context" with
    | none | some .null => .str contextV2
    | some context => context
  | _ => .str contextV2

/-- `VerifyProof` of `eddsa-rdfc-2022` -/
def eddsaVerifyProof (key : Key) (wantProofValue : String) : Except String Unit := do
  let tree ← integrity.proofTree order cred.dataset
  let proofNode ← selectProof wantProofValue tree
  let proofValue ← proofValueOf proofNode
  let signature ← wrap "failed to decode proofValue" (integrity.decodeMultibase proofValue)
  let document ← integrity.canonicalDocument
    (normalizeVerifiableCredentialGraph cred.dataset) [targetType cred]
  let config ← integrity.canonicalConfig (documentContext cred) proofNode
  require (integrity.ed25519Verify key (integrity.combined config document) signature = true)
    "signature verification failed"

/-- The suite that belongs to a key. -/
def verifyProof (text : Bytes) (key : Key) (wantProofValue : String) : Except String Unit := do
  let cred ← integrity.newRDFCredentialFromJSON text
  match integrity.base.kind key with
  | .ed25519 => integrity.eddsaVerifyProof order cred key wantProofValue
  | _ => integrity.ecdsaVerifyProof order cred key wantProofValue

/-- The library of the handler, with these suites. -/
def library : VC20Library Key :=
  { integrity.base with verifyProof := integrity.verifyProof order }

/-! ## What is verified -/

/-- The canonical form of the document that a key signs. -/
def signedDocument (key : Key) (cred : RDFCredential) : Except String (List Quad) :=
  match integrity.base.kind key with
  | .ed25519 => integrity.canonicalDocument (normalizeVerifiableCredentialGraph cred.dataset)
      [targetType cred]
  | _ => integrity.canonicalDocument cred.dataset []

/-- The canonical form of the configuration that a key signs. -/
def signedConfig (key : Key) (cred : RDFCredential) (node : Members) : Except String (List Quad) :=
  match integrity.base.kind key with
  | .ed25519 => integrity.canonicalConfig (documentContext cred) node
  | _ => integrity.canonicalConfig (.str contextV2) node

/-- A proof value is the signature of a key over a configuration and a document. -/
def Verifies (key : Key) (proofValue : String) (config document : List Quad) : Prop :=
  ∃ signature, integrity.decodeMultibase proofValue = .ok signature ∧
    match integrity.base.kind key with
    | .ed25519 => integrity.ed25519Verify key (integrity.combined config document) signature = true
    | _ => signature.length = 2 * integrity.keyBytes key ∧
        integrity.ecdsaVerify key (integrity.combined config document) signature = true

variable {integrity} {wantProofValue : String} {node : Members}

theorem selectProof_eq_ok_iff (named : wantProofValue ≠ "") {tree : Json} :
    selectProof wantProofValue tree = .ok node ↔
      (proofNodesIn proofType tree).find? (matchProofValue wantProofValue) = some node := by
  rw [selectProof, if_pos named, findProofNodeFunc_eq]
  cases (proofNodesIn proofType tree).find? (matchProofValue wantProofValue) <;> simp

/-- The value that a selected proof was found by. -/
theorem proofValueOf_of_find (named : wantProofValue ≠ "") {nodes : List Members}
    (found : nodes.find? (matchProofValue wantProofValue) = some node) :
    proofValueOf node = .ok wantProofValue := by
  have matched : text node "proofValue" = wantProofValue := by
    have matches_ := find?_some found
    rwa [matchProofValue, decide_eq_true_eq] at matches_
  unfold text at matched
  unfold proofValueOf
  cases lookup : node.lookup "proofValue" with
  | none =>
    rw [lookup] at matched
    exact absurd matched.symm named
  | some value =>
    rw [lookup] at matched
    cases value with
    | str text => exact congrArg Except.ok matched
    | _ => exact absurd matched.symm named

/-- A named proof is verified if the first proof of its value is. -/
theorem verifyProof_eq_ok_iff {order : integrity.ld.Order} {text : Bytes} {key : Key}
    (named : wantProofValue ≠ "") :
    integrity.verifyProof order text key wantProofValue = .ok () ↔
      ∃ cred tree node config document, integrity.newRDFCredentialFromJSON text = .ok cred ∧
        integrity.proofTree order cred.dataset = .ok tree ∧
        (proofNodesIn proofType tree).find? (matchProofValue wantProofValue) = some node ∧
        integrity.signedConfig key cred node = .ok config ∧
        integrity.signedDocument key cred = .ok document ∧
        integrity.Verifies key wantProofValue config document := by
  simp only [verifyProof, signedConfig, signedDocument, Verifies]
  cases integrity.base.kind key with
  | ed25519 =>
    simp only [eddsaVerifyProof, bind_eq_ok_iff, wrap_eq_ok_iff, require_eq_ok_iff,
      selectProof_eq_ok_iff named]
    constructor
    · rintro ⟨cred, read, tree, compacted, node, found, value, own, signature, decoded, document,
        without, config, canonical, verified⟩
      cases (proofValueOf_of_find named found).symm.trans own
      exact ⟨cred, tree, node, config, document, read, compacted, found, canonical, without,
        signature, decoded, verified⟩
    · rintro ⟨cred, tree, node, config, document, read, compacted, found, canonical, without,
        signature, decoded, verified⟩
      exact ⟨cred, read, tree, compacted, node, found, _, proofValueOf_of_find named found,
        signature, decoded, document, without, config, canonical, verified⟩
  | _ =>
    simp only [ecdsaVerifyProof, bind_eq_ok_iff, wrap_eq_ok_iff, require_eq_ok_iff,
      selectProof_eq_ok_iff named]
    constructor
    · rintro ⟨cred, read, tree, compacted, node, found, value, own, config, canonical, document,
        without, signature, decoded, _, verified⟩
      cases (proofValueOf_of_find named found).symm.trans own
      exact ⟨cred, tree, node, config, document, read, compacted, found, canonical, without,
        signature, decoded, verified⟩
    · rintro ⟨cred, tree, node, config, document, read, compacted, found, canonical, without,
        signature, decoded, verified⟩
      exact ⟨cred, read, tree, compacted, node, found, _, proofValueOf_of_find named found,
        config, canonical, document, without, signature, decoded, (), verified⟩

end DataIntegrity

end Vc.Vc20
