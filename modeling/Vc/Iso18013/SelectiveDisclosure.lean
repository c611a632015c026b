import Vc.Iso18013.Verifier

/-!
# Selective disclosure

`pkg/mdoc/selective_disclosure.go`: the holder keeps the requested items of each
name space and passes them on as they are, with the issuer's signature.
-/

namespace Vc.Iso18013

open Checks Entries Tokenstatuslist Cbor

/-- `ItemsRequest`: for each name space the requested elements, with the intent to retain. -/
structure ItemsRequest where
  docType : String
  nameSpaces : List (String × List (String × Bool))
  distinct : (nameSpaces.map Prod.fst).Nodup

section Disclose

variable (formats : Formats)

/-- What `iterateItems` hands to its callback for an item, if it calls it. -/
def iteratedItem : Item → Option IssuerSignedItem
  | .tag _ tagContent =>
    match asBytes tagContent with
    | none => none
    | some content => (formats.item.unmarshal content).toOption
  | _ => none

/-- The items of a name space that are requested. -/
def disclosedItems (requestedElements : List String) (items : List Item) : List Item :=
  items.filter fun anyItem =>
    (iteratedItem formats anyItem).any fun item => item.elementIdentifier ∈ requestedElements

variable (issuerSigned : IssuerSigned)

/-- One round of the loop over the requested name spaces. -/
def discloseNameSpace (disclosed : List (String × List Item))
    (entry : String × List String) : List (String × List Item) :=
  match issuerSigned.nameSpaces.lookup entry.1 with
  | none => disclosed
  | some items =>
    let kept := disclosedItems formats entry.2 items
    if kept = [] then disclosed else put entry.1 kept disclosed

def disclose (request : List (String × List String)) : IssuerSigned where
  nameSpaces := request.foldl (discloseNameSpace formats issuerSigned) []
  issuerAuth := issuerSigned.issuerAuth

def discloseFromItemsRequest (request : Option ItemsRequest) : Except String IssuerSigned :=
  match request with
  | none => .error "items request is required"
  | some request => .ok (disclose formats issuerSigned (request.nameSpaces.map fun entry =>
    (entry.1, entry.2.map Prod.fst)))

/-! ## What is kept -/

variable {formats} {issuerSigned}

/-- The items that are kept of a name space, if there are any. -/
def keptItems (formats : Formats) (issuerSigned : IssuerSigned) (nameSpace : String)
    (requestedElements : List String) : Option (List Item) :=
  (issuerSigned.nameSpaces.lookup nameSpace).bind fun items =>
    let kept := disclosedItems formats requestedElements items
    if kept = [] then none else some kept

theorem lookup_discloseNameSpace (disclosed : List (String × List Item))
    (entry : String × List String) (nameSpace : String) :
    (discloseNameSpace formats issuerSigned disclosed entry).lookup nameSpace =
      if nameSpace = entry.1 then
        (keptItems formats issuerSigned entry.1 entry.2).or (disclosed.lookup nameSpace)
      else disclosed.lookup nameSpace := by
  unfold discloseNameSpace keptItems
  cases issuerSigned.nameSpaces.lookup entry.1 with
  | none => simp
  | some items =>
    by_cases none : disclosedItems formats entry.2 items = []
    · simp [none]
    · by_cases here : nameSpace = entry.1 <;> simp [none, here]

variable (request : List (String × List String))

theorem lookup_foldl_discloseNameSpace
    (distinct : (request.map Prod.fst).Nodup) (disclosed : List (String × List Item))
    (nameSpace : String) :
    (request.foldl (discloseNameSpace formats issuerSigned) disclosed).lookup nameSpace =
      ((request.lookup nameSpace).bind (keptItems formats issuerSigned nameSpace)).or
        (disclosed.lookup nameSpace) := by
  induction request generalizing disclosed with
  | nil => rfl
  | cons entry rest ih =>
    obtain ⟨fresh, later⟩ := List.nodup_cons.mp distinct
    rw [List.foldl_cons, ih later, lookup_discloseNameSpace, lookup_cons]
    by_cases here : nameSpace = entry.1
    · subst here
      simp [lookup_eq_none_of_fresh fresh]
    · simp [here]

theorem ordered_disclose : Ordered (disclose formats issuerSigned request).nameSpaces := by
  refine List.foldlRecOn (motive := Ordered) _ _ List.Pairwise.nil
    fun disclosed ordered entry _ => ?_
  unfold discloseNameSpace
  split
  · exact ordered
  · dsimp only
    split_ifs
    · exact ordered
    · exact ordered.put _ _

end Disclose

end Vc.Iso18013
