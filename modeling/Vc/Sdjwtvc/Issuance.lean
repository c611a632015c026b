import Vc.Sdjwtvc.Token

/-!
# Client.MakeCredential

The issuer rewrites a document, deepest claims first: a member that is always
selectively disclosed leaves its object for a disclosure and a digest in `_sd`,
and the elements of an array leave it for disclosures and markers.

Go works on nested maps in place.  Here a path is followed down to an object and
the changed object is put back on the way up (`atParent`).  Random bytes come
from a stream, of which `drawn` items have been used.
-/

namespace Vc.Sdjwtvc

open Entries

/-- A claim of the type metadata; `none` in a path selects all elements of an array. -/
structure Claim where
  path : List (Option String)
  sd : String

/-- What `crypto/rand` yields. -/
structure Randomness where
  /-- the encoded salts -/
  salt : Nat → String
  /-- the random bytes behind the decoy digests -/
  noise : Nat → Bytes

/-! ## Hash algorithms -/

variable (codec : Codec)

/-- `isSHA256`, `isSHA3_256`, `isSHA512` and `isSHA3_512`: the sum of a test text. -/
def sameHash (reference method : HashMethod) : Bool :=
  codec.sum method (bytes "test") = codec.sum reference (bytes "test")

def getHashAlgorithmName (method : HashMethod) : Except String String :=
  match method.size with
  | 32 =>
    if sameHash codec .sha256 method then .ok "sha-256"
    else if sameHash codec .sha3_256 method then .ok "sha3-256"
    else .ok "sha-256"
  | 48 => .ok "sha-384"
  | 64 =>
    if sameHash codec .sha512 method then .ok "sha-512"
    else if sameHash codec .sha3_512 method then .ok "sha3-512"
    else .ok "sha-512"
  | 28 => .ok "sha-224"
  | size => .error ("unsupported hash size: " ++ toString size ++ " bytes")

/-! ## Order of the claims -/

/-- The inner loop of `sortClaimsByDepth`: whenever a deeper claim is met it is exchanged with
the one at the front. -/
def exchange (front : Claim) : List Claim → Claim × List Claim
  | [] => (front, [])
  | claim :: rest =>
    if front.path.length < claim.path.length then
      ((exchange claim rest).1, front :: (exchange claim rest).2)
    else ((exchange front rest).1, claim :: (exchange front rest).2)

/-- The outer loop of `sortClaimsByDepth`, for the claims from some index on. -/
def exchangeSort : Nat → List Claim → List Claim
  | _, [] => []
  | 0, claims => claims
  | count + 1, front :: rest =>
    (exchange front rest).1 :: exchangeSort count (exchange front rest).2

def sortClaimsByDepth (claims : List Claim) : List Claim :=
  exchangeSort claims.length claims

/-! ## Paths -/

def formatPathForError (path : List (Option String)) : String :=
  "[" ++ ", ".intercalate (path.map fun part => part.getD "<nil>") ++ "]"

mutual

/-- The text that `%v` prints for a decoded JSON value. -/
def goValue : Json → String
  | .null => "<nil>"
  | .bool value => toString value
  | .num literal => literal
  | .str text => text
  | .arr elements => "[" ++ " ".intercalate (goElements elements) ++ "]"
  | .obj members => "map[" ++ " ".intercalate (goMembers members) ++ "]"

/-- The texts of the elements of an array. -/
def goElements : List Json → List String
  | [] => []
  | element :: rest => goValue element :: goElements rest

/-- The texts of the members of an object. -/
def goMembers : Members → List String
  | [] => []
  | (name, value) :: rest => (name ++ ":" ++ goValue value) :: goMembers rest

end

/-- What following a path ends with where it cannot go on. -/
structure PathErrors (α : Type) where
  /-- `null` at an index of the path -/
  nilElement : Nat → String
  /-- a name that is not there -/
  missing : String → Except String α
  /-- a value that is not an object -/
  nonObject : String → Json → String

/-- Follow a path through nested objects and change the object at its end. -/
def atParent {α : Type} (errors : PathErrors α) (act : Members → Except String (α × Members)) :
    Nat → List (Option String) → Members → Except String (α × Members)
  | _, [], node => act node
  | index, none :: _, _ => .error (errors.nilElement index)
  | index, some name :: rest, node =>
    match node.lookup name with
    | none => (errors.missing name).map (·, node)
    | some (.obj child) =>
      (atParent errors act (index + 1) rest child).map fun (result, changed) =>
        (result, put name (.obj changed) node)
    | some value => .error (errors.nonObject name value)

/-- The object at the end of a path of names. -/
def childAt : List String → Members → Option Members
  | [], node => some node
  | name :: rest, node =>
    match node.lookup name with
    | some (.obj child) => childAt rest child
    | _ => none

/-- Replace the object at the end of a path of names. -/
def setChild : List String → Members → Members → Members
  | [], changed, _ => changed
  | name :: rest, changed, node =>
    match node.lookup name with
    | some (.obj child) => put name (.obj (setChild rest changed child)) node
    | _ => node

theorem childAt_cons_eq_some {name : String} {rest : List String} {node inner : Members} :
    childAt (name :: rest) node = some inner ↔
      ∃ child, node.lookup name = some (.obj child) ∧ childAt rest child = some inner := by
  rw [childAt]
  split
  · next child found => simp [found]
  · next other =>
      constructor
      · nofun
      · rintro ⟨child, found, _⟩
        exact absurd found (other _)

theorem setChild_cons {name : String} {rest : List String} {changed node child : Members}
    (found : node.lookup name = some (.obj child)) :
    setChild (name :: rest) changed node = put name (.obj (setChild rest changed child)) node := by
  rw [setChild, found]

/-- A path that was followed leads through objects to the one that was changed; otherwise it
leads to no object, and nothing was changed. -/
theorem atParent_eq_ok {α : Type} {errors : PathErrors α}
    {act : Members → Except String (α × Members)} {index : Nat} {path : List (Option String)}
    {data changed : Members} {result : α} (formed : Json.WellFormed (.obj data))
    (followed : atParent errors act index path data = .ok (result, changed)) :
    (∃ names node inner, path = names.map some ∧ childAt names data = some node ∧
        act node = .ok (result, inner) ∧ changed = setChild names inner data) ∨
      changed = data ∧ (∃ name, errors.missing name = .ok result) ∧
        ∀ names, path = names.map some → childAt names data = none := by
  induction path generalizing index data changed with
  | nil => exact .inl ⟨[], data, changed, rfl, rfl, followed, rfl⟩
  | cons part rest ih =>
    cases part with
    | none => cases followed
    | some name =>
      rw [atParent] at followed
      split at followed
      · next absent =>
          cases missing : errors.missing name with
          | error error => simp [missing, Except.map] at followed
          | ok value =>
            simp only [missing] at followed
            obtain ⟨rfl, rfl⟩ := followed
            refine .inr ⟨rfl, ⟨name, missing⟩, fun names same => ?_⟩
            cases names with
            | nil => cases same
            | cons first others =>
              cases same
              simp [childAt, absent]
      · next child found =>
          cases below : atParent errors act (index + 1) rest child with
          | error error => simp [below, Except.map] at followed
          | ok outcome =>
            obtain ⟨value, inner⟩ := outcome
            simp only [below] at followed
            obtain ⟨rfl, rfl⟩ := followed
            rcases ih (formed.member (mem_of_lookup found)) below with
              ⟨names, node, innermost, rfl, reached, acted, rfl⟩ | ⟨rfl, missing, nowhere⟩
            · exact .inl ⟨name :: names, node, innermost, rfl,
                childAt_cons_eq_some.mpr ⟨child, found, reached⟩, acted,
                (setChild_cons found).symm⟩
            · refine .inr ⟨?_, missing, fun names same => ?_⟩
              · exact formed.members.put_of_lookup found
              · cases names with
                | nil => cases same
                | cons first others =>
                  cases same
                  simp [childAt, found, nowhere others rfl]
      · cases followed

/-! ## Disclosures -/

/-- The text of a disclosure; `Discloser.Hash` marshals and encodes its array. -/
def disclosureText (parts : List Json) : String :=
  codec.encodeToString (codec.marshal (.arr parts))

/-- `{"...": "<hash>"}` -/
def marker (digest : String) : Json :=
  .obj [("...", .str digest)]

/-- What the functions for one path return: disclosures and hashes, joined by `~` for the
elements of an array, and how much randomness is used by then. -/
structure Processed where
  disclosure : String
  hash : String
  drawn : Nat

/-- Nothing is disclosed. -/
def Processed.nothing (drawn : Nat) : Processed :=
  { disclosure := "", hash := "", drawn }

section Paths

variable (codec : Codec) (random : Randomness) (method : HashMethod)

/-- The end of `processClaimPath`: the claim leaves its object. -/
def hideMember (drawn : Nat) (claimName : String) (current : Members) :
    Except String (Processed × Members) :=
  if claimName = "_sd" ∨ claimName = "..." then
    .error "claim name cannot be '_sd' or '...'"
  else
    match current.lookup claimName with
    | none => .ok (.nothing drawn, current)
    | some value =>
      let disclosure :=
        disclosureText codec [.str (random.salt drawn), .str claimName, value]
      .ok ({ disclosure, hash := codec.digest method disclosure, drawn := drawn + 1 },
        without claimName current)

/-- The disclosures of the elements of an array, with one salt each. -/
def elementDisclosures : Nat → List Json → List String
  | _, [] => []
  | drawn, element :: rest =>
    disclosureText codec [.str (random.salt drawn), element] :: elementDisclosures (drawn + 1) rest

/-- The end of `processArrayElementPath`: the elements leave their array. -/
def hideElements (drawn : Nat) (arrayName : Option String) (current : Members) :
    Except String (Processed × Members) :=
  match arrayName with
  | none => .error "array name cannot be nil"
  | some arrayName =>
    match current.lookup arrayName with
    | none => .ok (.nothing drawn, current)
    | some (.arr arraySlice) =>
      let disclosures := elementDisclosures codec random drawn arraySlice
      let hashes := disclosures.map (codec.digest method)
      .ok ({
          disclosure := join '~' disclosures
          hash := join '~' hashes
          drawn := drawn + arraySlice.length },
        put arrayName (.arr (hashes.map marker)) current)
    | some value =>
      .error ("path with null must point to an array, got " ++ goType value)

def processArrayElementPath (drawn : Nat) (data : Members) (path : List (Option String)) :
    Except String (Processed × Members) :=
  if path.length < 2 then .error "array element path must have at least 2 elements"
  else
    atParent {
        nilElement := fun index =>
          "nil path element in middle of path at index " ++ toString index
        missing := fun _ => .ok (.nothing drawn)
        nonObject := fun name _ => "invalid path: non-object at " ++ name }
      (hideElements codec random method drawn (path.dropLast.getLast?.getD none)) 0
      path.dropLast.dropLast data

def processClaimPath (drawn : Nat) (data : Members) (path : List (Option String)) :
    Except String (Processed × Members) :=
  match path.getLast? with
  | none => .error "empty path"
  | some none => processArrayElementPath codec random method drawn data path
  | some (some claimName) =>
    atParent {
        nilElement := fun index =>
          "nil path element in middle of path at index " ++ toString index
        missing := fun _ => .ok (.nothing drawn)
        nonObject := fun name value =>
          "invalid path: non-object at " ++ name ++ " (type: " ++ goType value ++
            ", path: " ++ formatPathForError path ++ ")" }
      (hideMember codec random method drawn claimName) 0 path.dropLast data

end Paths

/-- The end of `addHashToPath`: the digest enters the `_sd` array, which may be new. -/
def appendDigest (hash : String) (current : Members) : Except String (Unit × Members) :=
  match (current.lookup "_sd").getD (.arr []) with
  | .arr sdArray =>
    if .str hash ∈ sdArray then .error ("duplicate digest detected: " ++ hash)
    else .ok ((), put "_sd" (.arr (sdArray ++ [.str hash])) current)
  | _ => .error "_sd is not an array"

def addHashToPath (data : Members) (path : List (Option String)) (hash : String) :
    Except String Members :=
  (atParent {
      nilElement := fun index => "nil path element at index " ++ toString index
      missing := fun name => .error ("path not found: " ++ name)
      nonObject := fun name value =>
        "non-object at path: " ++ name ++ " (type: " ++ goType value ++ ", value: " ++
          goValue value ++ ", full path: " ++ formatPathForError path ++ ")" }
    (appendDigest hash) 0 path data).map Prod.snd

/-! ## Decoys and order -/

section Decoys

variable (codec : Codec) (random : Randomness) (method : HashMethod) (decoyCount : Nat)

def generateDecoyDigest (drawn : Nat) : String :=
  codec.encodeToString (codec.sum method (random.noise drawn))

/-- The decoys for one `_sd` array. -/
def decoyDigests : Nat → Nat → List Json
  | 0, _ => []
  | count + 1, drawn =>
    .str (generateDecoyDigest codec random method drawn) :: decoyDigests count (drawn + 1)

/-- A member of an object, with decoys if it is an `_sd` array. -/
def extendSDArray (key : String) (value : Json) (drawn : Nat) : Json × Nat :=
  if key = "_sd" then
    match value with
    | .arr sdArray =>
      (.arr (sdArray ++ decoyDigests codec random method decoyCount drawn), drawn + decoyCount)
    | value => (value, drawn)
  else (value, drawn)

mutual

/-- `addDecoyDigestsRecursive` on a value; only objects directly in objects are entered. -/
def addDecoys : Json → Nat → Json × Nat
  | .obj node, drawn =>
    (.obj (addDecoyDigestsRecursive node drawn).1, (addDecoyDigestsRecursive node drawn).2)
  | value, drawn => (value, drawn)

def addDecoyDigestsRecursive : Members → Nat → Members × Nat
  | [], drawn => ([], drawn)
  | (key, value) :: rest, drawn =>
    let nested := addDecoys value drawn
    let extended := extendSDArray codec random method decoyCount key nested.1 nested.2
    let others := addDecoyDigestsRecursive rest extended.2
    ((key, extended.1) :: others.1, others.2)

end

end Decoys

/-- The order of `sortSDArray`; values that are not strings are not ordered. -/
def sdLess : Json → Json → Bool
  | .str first, .str second => first < second
  | _, _ => false

def sortSDArray (arr : List Json) : List Json :=
  arr.insertionSort fun first second => sdLess second first = false

mutual

/-- `shuffleSDArrays` on a value: objects, and objects that are elements of an array. -/
def shuffleValue : Json → Json
  | .obj node => .obj (shuffleSDArrays node)
  | .arr elements => .arr (shuffleElements elements)
  | scalar => scalar

def shuffleSDArrays : Members → Members
  | [] => []
  | (key, value) :: rest =>
    (key, if key = "_sd" then
        match shuffleValue value with
        | .arr arr => .arr (sortSDArray arr)
        | value => value
      else shuffleValue value) :: shuffleSDArrays rest

/-- The elements of an array in `shuffleSDArrays`; arrays of arrays are not entered. -/
def shuffleElements : List Json → List Json
  | [] => []
  | .obj node :: rest => .obj (shuffleSDArrays node) :: shuffleElements rest
  | element :: rest => element :: shuffleElements rest

end

/-! ## MakeCredential -/

/-- The state of the loop over the claims. -/
structure Issuing where
  data : Members
  disclosures : List String
  drawn : Nat

/-- One turn of the loop. -/
def processClaim (random : Randomness) (method : HashMethod)
    (state : Issuing) (claim : Claim) : Except String Issuing :=
  if claim.sd = "always" ∧ claim.path ≠ [] then do
    let (processed, data) ←
      processClaimPath codec random method state.drawn state.data claim.path
    if processed.disclosure ≠ "" then
      if claim.path.getLast? = some none then
        return {
          data
          disclosures := state.disclosures ++ split '~' processed.disclosure
          drawn := processed.drawn }
      else
        let data ← addHashToPath data claim.path.dropLast processed.hash
        return {
          data
          disclosures := state.disclosures ++ [processed.disclosure]
          drawn := processed.drawn }
    else return { state with data, drawn := processed.drawn }
  else return state

/-- The loop over the sorted claims. -/
def processClaims (random : Randomness) (method : HashMethod)
    (claims : List Claim) (state : Issuing) : Except String Issuing :=
  claims.foldlM (processClaim codec random method) state

/-- `Client.MakeCredential`: the payload and the disclosures. -/
def makeCredential (random : Randomness) (method : HashMethod)
    (data : Members) (claims : List Claim) (decoyCount : Int) :
    Except String (Members × List String) := do
  let algName ← wrap "unsupported hash algorithm" (getHashAlgorithmName codec method)
  let issued ← processClaims codec random method (sortClaimsByDepth claims) {
    data := put "_sd_alg" (.str algName) data
    disclosures := []
    drawn := 0 }
  let withDecoys :=
    if 0 < decoyCount then
      (addDecoyDigestsRecursive codec random method decoyCount.toNat issued.data 0).1
    else issued.data
  return (shuffleSDArrays withDecoys, issued.disclosures)

end Vc.Sdjwtvc
