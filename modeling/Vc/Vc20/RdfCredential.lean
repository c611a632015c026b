import Vc.Data.JsonTree
import Vc.Data.Rdf

/-!
# Credentials as RDF datasets

`RDFCredential` of `pkg/vc20/credential`: the quads of the proofs of a document, the
document without them, and the named graph that the credentials of a presentation
are moved to.  JSON-LD processing is given by `JsonLd`.
-/

namespace Vc.Vc20

open Rdf

/-! ## JSON-LD -/

/-- The JSON-LD library.  The order in which it lists nodes is left open. -/
structure JsonLd where
  /-- an order of nodes -/
  Order : Type
  /-- `ToRDF` -/
  toRDF : Json → Except String Dataset
  /-- `FromRDF` -/
  fromRDF : Dataset → Except String Json
  /-- `FromRDF`, and `Compact` with the context of credentials -/
  compacted : Order → Dataset → Except String Json
  /-- `Normalize` with URDNA2015 -/
  normalize : Json → Except String (List Quad)

def contextV2 : String := "https://www.w3.org/ns/credentials/v2"

/-- `RDFCredential` with its original JSON. -/
structure RDFCredential where
  dataset : Dataset
  original : Json

/-! ## Proofs -/

/-- The predicates that `isProofQuad` looks for. -/
def proofPredicates : List String :=
  ["http://www.w3.org/ns/credentials#proof", "https://w3id.org/security#proof",
    "https://www.w3.org/ns/credentials#proofValue", "https://w3id.org/security#proofValue",
    "https://www.w3.org/ns/credentials#cryptosuite", "https://w3id.org/security#cryptosuite",
    "https://www.w3.org/ns/credentials#verificationMethod",
    "https://w3id.org/security#verificationMethod",
    "https://www.w3.org/ns/credentials#proofPurpose", "https://w3id.org/security#proofPurpose",
    "https://www.w3.org/ns/credentials#created", "https://w3id.org/security#created",
    "http://purl.org/dc/terms/created", "https://w3id.org/security#challenge",
    "https://w3id.org/security#domain"]

def isProofQuad (quad : Quad) : Bool :=
  proofPredicates.any (contains quad.predicate.value) ||
    contains quad.predicate.value "type" &&
      (contains quad.object.value "DataIntegrityProof" || contains quad.object.value "Proof")

variable (dataset : Dataset)

def proofObject : Except String Dataset :=
  match dataset.filterQuads isProofQuad with
  | [] => .error "no proof quads found"
  | proofGraphs => .ok proofGraphs

/-- The predicate is taken for a link to a proof. -/
def isProofLink (predicate : String) : Bool :=
  contains predicate "https://w3id.org/security#proof" ||
    contains predicate "http://www.w3.org/ns/credentials#proof"

/-- `rdf:type` -/
def rdfType : String := "http://www.w3.org/1999/02/22-rdf-syntax-ns#type"

def subjectTypes (subject : String) : List String :=
  dataset.quads.filterMap fun quad =>
    if quad.predicate.value = rdfType ∧ quad.subject.value = subject then some quad.object.value
    else none

variable (targetTypes : List String)

/-- A subject has one of the types, or no types are given. -/
def hasTargetType (subject : String) : Bool :=
  targetTypes = [] || (subjectTypes dataset subject).any fun type =>
    targetTypes.any fun target => type = target || endsWith type target

/-- The quad links a subject of one of the types to a proof. -/
def linksProof (quad : Quad) : Bool :=
  isProofLink quad.predicate.value && hasTargetType dataset targetTypes quad.subject.value

/-- The nodes that are removed. -/
def proofNodes : List String :=
  (dataset.quads.filter (linksProof dataset targetTypes)).map (·.object.value)

/-- `CredentialWithoutProofForTypes`: the filtered dataset. -/
def withoutProofForTypes : Dataset :=
  dataset.filterQuads fun quad =>
    !(linksProof dataset targetTypes quad ||
      (proofNodes dataset targetTypes).contains quad.subject.value ||
      quad.graph.any fun graph => (proofNodes dataset targetTypes).contains graph.value)

/-! ## The graphs of embedded credentials -/

def vcPredicate : String := "https://www.w3.org/2018/credentials#verifiableCredential"

def isSubjectInGraph (subject : String) (quads : List Quad) : Bool :=
  quads.any (·.subject.value = subject)

/-- The credentials that stand in the default graph, each with the name of its new graph. -/
def vcMoves (defaultGraph : List Quad) : List (String × String) :=
  defaultGraph.filterMap fun quad =>
    let node := quad.object.value
    if quad.predicate.value = vcPredicate ∧ isSubjectInGraph node defaultGraph then
      some (node, "_:vc_graph_" ++
        String.ofList (if isBlankLabel node then node.toList.drop 2 else node.toList))
    else none

/-- The blank objects of a marked subject are marked, too. -/
def markObject (nodesToMove : List (String × String)) (quad : Quad) : List (String × String) :=
  match nodesToMove.lookup quad.subject.value with
  | none => nodesToMove
  | some target =>
    if isBlankLabel quad.object.value ∧ nodesToMove.lookup quad.object.value = none then
      (quad.object.value, target) :: nodesToMove
    else nodesToMove

/-- One pass of the loop that marks what is reachable. -/
def markPass (defaultGraph : List Quad) (nodesToMove : List (String × String)) :
    List (String × String) :=
  defaultGraph.foldl markObject nodesToMove

/-- The loop, which ends once a pass marks nothing. -/
def markReachable (defaultGraph : List Quad) : Nat → List (String × String) → List (String × String)
  | 0, nodesToMove => nodesToMove
  | passes + 1, nodesToMove =>
    let marked := markPass defaultGraph nodesToMove
    if marked = nodesToMove then nodesToMove else markReachable defaultGraph passes marked

/-- A quad of the default graph, rewritten and with the name of the graph that it is moved to. -/
def moveQuad (moves nodesToMove : List (String × String)) (quad : Quad) : String × Quad :=
  match moves.lookup quad.object.value, nodesToMove.lookup quad.subject.value with
  | some graph, target =>
    if quad.predicate.value = vcPredicate then ("@default", { quad with object := .blank graph })
    else match target with
      | some target => (target, { quad with graph := some (.blank target) })
      | none => ("@default", quad)
  | none, some target => (target, { quad with graph := some (.blank target) })
  | none, none => ("@default", quad)

/-- The quads that have been moved to a graph. -/
def movedTo (moved : List (String × Quad)) (graph : String) : List Quad :=
  (moved.filter (·.1 = graph)).map (·.2)

def normalizeVerifiableCredentialGraph : Dataset :=
  match dataset.lookup "@default" with
  | none => dataset
  | some defaultGraph =>
    let moves := vcMoves defaultGraph
    if moves = [] then dataset
    else
      let nodesToMove := markReachable defaultGraph (defaultGraph.length + 1) moves
      let moved := defaultGraph.map (moveQuad moves nodesToMove)
      let graphs := ((nodesToMove.map (·.2)).dedup).filter fun graph => movedTo moved graph ≠ []
      Entries.put "@default" (movedTo moved "@default")
        (graphs.foldl (fun graphs graph => Entries.put graph (movedTo moved graph) graphs) dataset)

/-! ## What is kept of a document -/

variable {dataset targetTypes} {quad : Quad}

end Vc.Vc20
