import Mathlib

/-!
# RDF datasets

Terms, quads and datasets as lists of named graphs, and the texts of terms.
-/

namespace Vc.Rdf

/-- A term.  The label of a blank node begins with `_:`. -/
inductive Term where
  | iri (value : String)
  | blank (label : String)
  | literal (value : String) (datatype : String := "http://www.w3.org/2001/XMLSchema#string")
      (language : String := "")
  deriving DecidableEq

/-- The text of a term. -/
def Term.value : Term → String
  | .iri value => value
  | .blank label => label
  | .literal value _ _ => value

/-- A quad, in the default graph if it names none. -/
structure Quad where
  subject : Term
  predicate : Term
  object : Term
  graph : Option Term := none
  deriving DecidableEq

/-- The graphs of a dataset, by their names. -/
abbrev Dataset := List (String × List Quad)

/-- The quads of all graphs. -/
def Dataset.quads (dataset : Dataset) : List Quad :=
  dataset.flatMap (·.2)

/-- The quads of each graph that satisfy a condition, without the graphs that are left empty. -/
def Dataset.filterQuads (condition : Quad → Bool) (dataset : Dataset) : Dataset :=
  (dataset.map fun (name, quads) => (name, quads.filter condition)).filter (·.2 ≠ [])

/-- The bytes of a text. -/
def utf8 (text : String) : List UInt8 :=
  text.toByteArray.data.toList

/-- A text occurs in another one. -/
def contains (text part : String) : Bool :=
  (utf8 text).tails.any (utf8 part).isPrefixOf

/-- A text ends with another one. -/
def endsWith (text part : String) : Bool :=
  (utf8 part).isSuffixOf (utf8 text)

def isBlankLabel (text : String) : Bool :=
  (utf8 "_:").isPrefixOf (utf8 text)

end Vc.Rdf
