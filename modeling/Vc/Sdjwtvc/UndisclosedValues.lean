import Vc.Data.Base64
import Vc.Sdjwtvc.NonInterference

/-!
# Payloads that differ in undisclosed values only

After the last claim the payloads are `Indistinct` with no paths: they differ in
digests only.  `blank` replaces the digests by one placeholder; the payloads are
then equal, and stay so when decoys are added and the digests are sorted.
-/

namespace Vc.Sdjwtvc

open Entries Checks Option Base64

/-! ## Decoys -/

section Decoys

variable (codec : Codec) (random : Randomness) (method : HashMethod) (decoyCount : Nat)

theorem decoyDigests_eq_map (count drawn : Nat) :
    ∃ texts : List String, decoyDigests codec random method count drawn = texts.map .str ∧
      texts.length = count := by
  induction count generalizing drawn with
  | zero => exact ⟨[], rfl, rfl⟩
  | succ count ih =>
    obtain ⟨texts, same, length⟩ := ih (drawn + 1)
    refine ⟨generateDecoyDigest codec random method drawn :: texts, ?_, by simp [length]⟩
    rw [decoyDigests, same, List.map_cons]

/-- A member with its decoys. -/
def decoyed (name : String) (value : Json) (drawn : Nat) : Json × Nat :=
  extendSDArray codec random method decoyCount name
    (addDecoys codec random method decoyCount value drawn).1
    (addDecoys codec random method decoyCount value drawn).2

theorem lookup_addDecoyDigestsRecursive (members : Members) (drawn : Nat) (name : String) :
    ∃ before, (addDecoyDigestsRecursive codec random method decoyCount members drawn).1.lookup
        name =
      (members.lookup name).map fun value =>
        (decoyed codec random method decoyCount name value before).1 := by
  induction members generalizing drawn with
  | nil => exact ⟨drawn, rfl⟩
  | cons entry rest ih =>
    obtain ⟨first, value⟩ := entry
    simp only [addDecoyDigestsRecursive, lookup_cons]
    split_ifs with same
    · subst same
      exact ⟨drawn, rfl⟩
    · exact ih _

theorem keys_addDecoyDigestsRecursive (members : Members) (drawn : Nat) :
    (addDecoyDigestsRecursive codec random method decoyCount members drawn).1.map Prod.fst =
      members.map Prod.fst := by
  induction members generalizing drawn with
  | nil => rfl
  | cons entry rest ih =>
    simp [addDecoyDigestsRecursive, ih]

theorem addDecoys_zero (value : Json) (drawn : Nat) :
    addDecoys codec random method 0 value drawn = (value, drawn) := by
  induction value using Json.induct generalizing drawn with
  | obj members ih =>
    suffices unchanged : addDecoyDigestsRecursive codec random method 0 members drawn =
        (members, drawn) by
      rw [addDecoys, unchanged]
    induction members with
    | nil => rfl
    | cons entry rest more =>
      have unextended : extendSDArray codec random method 0 entry.1 entry.2 drawn =
          (entry.2, drawn) := by
        unfold extendSDArray
        split_ifs
        · cases entry.2 <;> simp [decoyDigests]
        · rfl
      rw [addDecoyDigestsRecursive, ih _ List.mem_cons_self, unextended,
        more fun other member => ih _ (List.mem_cons_of_mem _ member)]
  | _ => rfl

theorem ordered_of_keys {first second : Members}
    (same : first.map Prod.fst = second.map Prod.fst) (ordered : Ordered second) :
    Ordered first := by
  have keys : (second.map Prod.fst).Pairwise (· < ·) := List.pairwise_map.mpr ordered
  exact List.pairwise_map.mp (same ▸ keys)

end Decoys

/-! ## The order of the digests -/

/-- A member after `shuffleSDArrays`. -/
def shuffled (name : String) (value : Json) : Json :=
  if name = "_sd" then
    match shuffleValue value with
    | .arr arr => .arr (sortSDArray arr)
    | value => value
  else shuffleValue value

variable (members : Members) (name : String)

theorem shuffleSDArrays_eq_map :
    shuffleSDArrays members = members.map fun entry => (entry.1, shuffled entry.1 entry.2) := by
  induction members with
  | nil => rfl
  | cons entry rest ih =>
    rw [shuffleSDArrays, ih]
    rfl

/-- An element of an array after `shuffleSDArrays`. -/
def shuffledElement : Json → Json
  | .obj node => .obj (shuffleSDArrays node)
  | element => element

theorem shuffleElements_eq_map (elements : List Json) :
    shuffleElements elements = elements.map shuffledElement := by
  induction elements with
  | nil => rfl
  | cons element rest ih =>
    cases element <;> simp [shuffleElements, shuffledElement, ih]

theorem sortSDArray_perm (arr : List Json) : (sortSDArray arr).Perm arr :=
  List.perm_insertionSort _ _

variable {first second : Json}

/-! ## Without the digests -/

/-- One placeholder for all digests. -/
def placeholder : Json → Json
  | .str _ => .str ""
  | value => value

/-- A member without its digests. -/
def blankDigests (name : String) (value : Json) : Json :=
  if name = "_sd" then
    match value with
    | .arr digests => .arr (digests.map placeholder)
    | value => value
  else if name = "..." then placeholder value
  else value

mutual

/-- The value with a placeholder for every digest in an `_sd` array or in a marker.  A list of
placeholders is as good as a multiset of them. -/
def blank : Json → Json
  | .obj members => .obj (blankMembers members)
  | .arr elements => .arr (blankElements elements)
  | scalar => scalar

def blankMembers : Members → Members
  | [] => []
  | (name, value) :: rest => (name, blankDigests name (blank value)) :: blankMembers rest

def blankElements : List Json → List Json
  | [] => []
  | element :: rest => blank element :: blankElements rest

end

theorem blankMembers_eq_map :
    blankMembers members =
      members.map fun entry => (entry.1, blankDigests entry.1 (blank entry.2)) := by
  induction members with
  | nil => rfl
  | cons entry rest ih =>
    rw [blankMembers, ih, List.map_cons]

theorem blankElements_eq_map (elements : List Json) :
    blankElements elements = elements.map blank := by
  induction elements with
  | nil => rfl
  | cons element rest ih =>
    rw [blankElements, ih, List.map_cons]

theorem blankDigests_texts {digests : List Json}
    (texts : ∀ digest ∈ digests, ∃ text, digest = .str text) :
    blankDigests "_sd" (blank (.arr digests)) = .arr (List.replicate digests.length (.str "")) := by
  rw [blank, blankElements_eq_map, blankDigests, if_pos rfl]
  simp only [List.map_map]
  congr
  refine List.map_eq_replicate_iff.mpr fun digest member => ?_
  obtain ⟨text, rfl⟩ := texts digest member
  rfl

theorem blankDigests_shuffled (texts : List String) :
    blankDigests "_sd" (blank (shuffled "_sd" (.arr (texts.map .str)))) =
      .arr (List.replicate texts.length (.str "")) := by
  have sorted := sortSDArray_perm (texts.map .str)
  have unshuffled : shuffleElements (texts.map .str) = texts.map .str := by
    rw [shuffleElements_eq_map, List.map_map]
    rfl
  rw [shuffled, if_pos rfl, shuffleValue, unshuffled, blankDigests_texts, sorted.length_eq,
    List.length_map]
  intro digest member
  obtain ⟨text, _, isText⟩ := List.mem_map.mp (sorted.mem_iff.mp member)
  exact ⟨text, isText.symm⟩

theorem blankMembers_congr {left right : Members} (ordered : Ordered left)
    (orderedRight : Ordered right)
    (keys : ∀ name, (left.lookup name).isSome = (right.lookup name).isSome)
    (each : ∀ name one another, left.lookup name = some one → right.lookup name = some another →
      blankDigests name (blank one) = blankDigests name (blank another)) :
    blankMembers left = blankMembers right := by
  rw [blankMembers_eq_map, blankMembers_eq_map]
  refine Ordered.ext (List.pairwise_map.mpr ordered) (List.pairwise_map.mpr orderedRight)
    fun name => ?_
  rw [lookup_map_entries fun name value => blankDigests name (blank value),
    lookup_map_entries fun name value => blankDigests name (blank value)]
  cases found : left.lookup name with
  | none =>
    rw [(isSome_eq_isSome.mp (keys _)).mp found]
  | some one =>
    obtain ⟨another, foundRight⟩ := exists_lookup_of_keys (keys name) found
    rw [foundRight, map_some, map_some, each _ one _ found foundRight]

theorem map_eq_map_of_getElem? {α β : Type} {f g : α → β} {left right : List α}
    (length : left.length = right.length)
    (each : ∀ (index : Nat) one another, left[index]? = some one → right[index]? = some another →
      f one = g another) : left.map f = right.map g := by
  refine List.ext_getElem (by simp [length]) fun index _ _ => ?_
  rw [List.getElem_map, List.getElem_map]
  exact each _ _ _ (List.getElem?_eq_getElem _) (List.getElem?_eq_getElem _)

/-- Values that differ in digests only are equal without them. -/
theorem Indistinct.blank_eq (related : Indistinct [] first second)
    (formed : Json.WellFormed first) (formedOther : Json.WellFormed second) :
    blank first = blank second := by
  induction first using Json.induct generalizing second with
  | arr elements ih =>
    obtain ⟨⟨⟩⟩ | ⟨⟨⟩⟩ | ⟨length, each⟩ := related
    rw [blank, blank, blankElements_eq_map, blankElements_eq_map]
    congr 1
    refine map_eq_map_of_getElem? length fun index left right isLeft isRight => ?_
    have member := List.mem_of_getElem? isLeft
    exact ih _ member (each _ _ _ isLeft isRight) (formed.element member)
      (formedOther.element (List.mem_of_getElem? isRight))
  | obj members ih =>
    obtain ⟨⟨⟩⟩ | _ | _ | ⟨keys, _, each⟩ := related
    rw [blank]
    congr 1
    refine blankMembers_congr formed.members formedOther.members keys
      fun name left right found foundRight => ?_
    cases each name left right found foundRight with
    | digests length =>
      rw [blankDigests_texts (by simp), blankDigests_texts (by simp), List.length_map,
        List.length_map, length]
    | digest => rfl
    | replaced _ replaceable => cases replaceable.1
    | shown _ below =>
      have member := mem_of_lookup found
      rw [ih _ member below (formed.member member) (formedOther.member (mem_of_lookup foundRight))]
  | _ =>
    cases related
    rfl

section Finish

variable {codec : Codec} {random other : Randomness} {method : HashMethod}

theorem lookup_finished (decoyCount : Nat) (members : Members) (drawn : Nat) (name : String) :
    ∃ before, (shuffleSDArrays (addDecoyDigestsRecursive codec random method decoyCount members
        drawn).1).lookup name =
      (members.lookup name).map fun value =>
        shuffled name (decoyed codec random method decoyCount name value before).1 := by
  obtain ⟨before, found⟩ :=
    lookup_addDecoyDigestsRecursive codec random method decoyCount members drawn name
  exact ⟨before, by rw [shuffleSDArrays_eq_map, lookup_map_entries, found, map_map]; rfl⟩

theorem ordered_finished {members : Members} (ordered : Ordered members) (decoyCount drawn : Nat) :
    Ordered (shuffleSDArrays
      (addDecoyDigestsRecursive codec random method decoyCount members drawn).1) := by
  rw [shuffleSDArrays_eq_map]
  exact List.pairwise_map.mpr (ordered_of_keys (keys_addDecoyDigestsRecursive ..) ordered)

/-- They are still equal without digests once decoys are added and the digests sorted. -/
theorem Indistinct.blank_finished (related : Indistinct [] first second)
    (formed : Json.WellFormed first) (formedOther : Json.WellFormed second)
    (decoyCount drawn drawnOther : Nat) :
    blank (shuffleValue (addDecoys codec random method decoyCount first drawn).1) =
      blank (shuffleValue (addDecoys codec other method decoyCount second drawnOther).1) := by
  induction first using Json.induct generalizing second decoyCount drawn drawnOther with
  | arr elements ih =>
    obtain ⟨⟨⟩⟩ | ⟨⟨⟩⟩ | ⟨length, each⟩ := related
    simp only [addDecoys, shuffleValue, blank, shuffleElements_eq_map, blankElements_eq_map,
      List.map_map]
    congr 1
    refine map_eq_map_of_getElem? length fun index left right isLeft isRight => ?_
    have member := List.mem_of_getElem? isLeft
    have below := each index left right isLeft isRight
    -- no decoys are added below an array
    have deeper := ih left member below (formed.element member)
      (formedOther.element (List.mem_of_getElem? isRight)) 0 drawn drawnOther
    rw [addDecoys_zero, addDecoys_zero] at deeper
    cases below with
    | scalar scalar => cases left <;> first | exact scalar.elim | rfl
    | replaced disclosed => cases disclosed
    | elements length each =>
      exact Indistinct.blank_eq (.elements length each) (formed.element member)
        (formedOther.element (List.mem_of_getElem? isRight))
    | members => exact deeper
  | obj members ih =>
    cases related with
    | scalar scalar => exact scalar.elim
    | @members _ _ others keys shallow each =>
      simp only [addDecoys, shuffleValue, blank]
      congr 1
      refine blankMembers_congr (ordered_finished formed.members _ _)
        (ordered_finished formedOther.members _ _) (fun name => ?_)
        fun name left right isLeft isRight => ?_
      · obtain ⟨_, here⟩ := lookup_finished decoyCount members drawn name
        obtain ⟨_, there⟩ := lookup_finished decoyCount others drawnOther name
        rw [here, there, isSome_map, isSome_map, keys]
      · obtain ⟨before, here⟩ := lookup_finished decoyCount members drawn name
        obtain ⟨beforeOther, there⟩ := lookup_finished decoyCount others drawnOther name
        rw [here, map_eq_some_iff] at isLeft
        rw [there, map_eq_some_iff] at isRight
        obtain ⟨value, found, rfl⟩ := isLeft
        obtain ⟨otherValue, foundOther, rfl⟩ := isRight
        cases each name value otherValue found foundOther with
        | @digests _ texts otherTexts length =>
          obtain ⟨decoys, isDecoys, count⟩ :=
            decoyDigests_eq_map codec random method decoyCount before
          obtain ⟨otherDecoys, isOtherDecoys, otherCount⟩ :=
            decoyDigests_eq_map codec other method decoyCount beforeOther
          simp only [decoyed, addDecoys, extendSDArray, if_true, isDecoys, isOtherDecoys,
            ← List.map_append, blankDigests_shuffled, List.length_append, length, count,
            otherCount]
        | digest => rfl
        | replaced _ replaceable => cases replaceable.1
        | shown plain below =>
          have member := mem_of_lookup found
          simp only [decoyed, extendSDArray, shuffled, if_neg plain.1]
          rw [ih _ member below (formed.member member)
            (formedOther.member (mem_of_lookup foundOther)) _ _ _]
  | _ =>
    cases related
    rfl

end Finish

/-! ## The payloads -/

/-- What an encoder of disclosures has to show: no JSON text is empty, and only nothing is encoded
as the empty text. -/
structure Codec.Visible (codec : Codec) : Prop where
  marshalled : ∀ value, codec.marshal value ≠ []
  encoded : ∀ data, codec.encodeToString data = "" → data = []

theorem Codec.Visible.disclosureText_ne {codec : Codec} (visible : codec.Visible)
    (parts : List Json) : disclosureText codec parts ≠ "" :=
  fun empty => visible.marshalled _ (visible.encoded _ empty)

variable {claims : List Claim}

/-- The order of the claims does not matter for what they disclose. -/
theorem Indistinct.sortClaims (related : Indistinct (alwaysPaths claims) first second) :
    Indistinct (alwaysPaths (sortClaimsByDepth claims)) first second := by
  have same : ∀ path, path ∈ alwaysPaths (sortClaimsByDepth claims) ↔ path ∈ alwaysPaths claims :=
    fun path => by simp [mem_alwaysPaths, (sortClaimsByDepth_perm claims).mem_iff]
  exact related.restrict ⟨fun path => (same _).mp,
    fun path given absent => absurd ((same _).mpr given) absent⟩

theorem makeCredential_eq_ok {codec : Codec} {random : Randomness} {method : HashMethod}
    {data payload : Members} {decoyCount : Int} {disclosures : List String}
    (done : makeCredential codec random method data claims decoyCount =
      .ok (payload, disclosures)) :
    ∃ algName issued, getHashAlgorithmName codec method = .ok algName ∧
      processClaims codec random method (sortClaimsByDepth claims)
        { data := put "_sd_alg" (.str algName) data, disclosures := [], drawn := 0 } = .ok issued ∧
      payload = shuffleSDArrays (if 0 < decoyCount then
        (addDecoyDigestsRecursive codec random method decoyCount.toNat issued.data 0).1
        else issued.data) ∧
      disclosures = issued.disclosures := by
  simp only [makeCredential, bind_eq_ok_iff, wrap_eq_ok_iff] at done
  obtain ⟨algName, named, issued, processed, done⟩ := done
  cases done
  exact ⟨algName, issued, named, processed, rfl, rfl⟩

/-- Two documents without reserved names that differ only in values at always disclosed paths
give the same payload up to digests, whatever salts and decoys are drawn for them. -/
theorem blank_payloads_eq {codec : Codec} (visible : codec.Visible) (random other : Randomness)
    (method : HashMethod) (claims : List Claim) (decoyCount : Int) {first second : Members}
    (formed : Json.WellFormed (.obj first)) (formedOther : Json.WellFormed (.obj second))
    (free : ReservedFree (.obj first)) (freeOther : ReservedFree (.obj second))
    (same : SameExcept (alwaysPaths claims) (.obj first) (.obj second))
    {payload otherPayload : Members} {disclosures otherDisclosures : List String}
    (done : makeCredential codec random method first claims decoyCount = .ok (payload, disclosures))
    (doneOther : makeCredential codec other method second claims decoyCount =
      .ok (otherPayload, otherDisclosures)) :
    blank (.obj payload) = blank (.obj otherPayload) := by
  obtain ⟨algName, issued, named, processed, rfl, _⟩ := makeCredential_eq_ok done
  obtain ⟨_, otherIssued, namedAgain, otherProcessed, rfl, _⟩ := makeCredential_eq_ok doneOther
  cases named.symm.trans namedAgain
  have start : Indistinct (alwaysPaths (sortClaimsByDepth claims))
      (.obj (put "_sd_alg" (.str algName) first)) (.obj (put "_sd_alg" (.str algName) second)) :=
    ((indistinct_of_sameExcept free freeOther same).putShown (by decide) (fun _ => id)
      (fun _ => id) (.scalar (show Json.IsScalar (.str algName) from trivial))).sortClaims
  have formedName : Json.WellFormed (.str algName) := .scalar trivial
  obtain ⟨related, formedAfter, formedAfterOther⟩ :=
    indistinct_processClaims visible.disclosureText_ne (sortClaimsByDepth_deepest_first claims)
      (wellFormed_put formed formedName) (wellFormed_put formedOther formedName)
      start processed otherProcessed
  split_ifs
  · exact related.blank_finished formedAfter formedAfterOther _ 0 0
  · have finished := @Indistinct.blank_finished _ _ codec random other method related
      formedAfter formedAfterOther 0 0 0
    rwa [addDecoys_zero, addDecoys_zero] at finished

/-- Disclosures that are written out, with their lengths as digests. -/
def lengthCodec : Codec where
  encodeToString data := String.ofList (encode data)
  decodeString _ := .error "illegal base64 data at input byte 0"
  marshal value := bytes "x" ++ bytes (goValue value)
  unmarshalObject _ := .error "unexpected end of JSON input"
  unmarshalArray _ := .error "unexpected end of JSON input"
  sum _ data := [UInt8.ofNat data.length]
  number _ := 0

theorem lengthCodec_visible : lengthCodec.Visible where
  marshalled _ := List.cons_ne_nil _ _
  encoded data empty := by
    have chars : encode data = [] := by
      have chars := congrArg String.toList empty
      rwa [lengthCodec, String.toList_ofList] at chars
    unfold encode at chars
    split at chars
    · rfl
    · cases chars
    · cases chars
    · cases chars

/-- A holder with a name that is always disclosed selectively. -/
def holderDocument (name : String) : Members :=
  [("name", .str name), ("role", .str "student")]

def nameClaim : List Claim :=
  [{ path := [some "name"], sd := "always" }]

def constantSalt (salt : String) : Randomness :=
  { salt := fun _ => salt, noise := fun _ => [] }

def holderPayload (digest : String) : Members :=
  [("_sd", .arr [.str "AA", .str digest]), ("_sd_alg", .str "sha-256"), ("role", .str "student")]

theorem holderDocument_free : ReservedFree (.obj (holderDocument name)) := by
  refine .obj ⟨rfl, rfl, rfl⟩ fun entry member => ?_
  simp only [holderDocument, List.mem_cons, List.not_mem_nil, or_false] at member
  rcases member with rfl | rfl <;> exact .scalar trivial

theorem holderDocument_formed : Json.WellFormed (.obj (holderDocument name)) := by
  have ordered : "name" < "role" := by decide +kernel
  refine .obj (by simpa [Ordered, holderDocument] using ordered) fun entry member => ?_
  simp only [holderDocument, List.mem_cons, List.not_mem_nil, or_false] at member
  rcases member with rfl | rfl <;> exact .scalar trivial

theorem holderDocument_same (name other : String) :
    SameExcept (alwaysPaths nameClaim) (.obj (holderDocument name))
      (.obj (holderDocument other)) := by
  refine .members (fun key => ?_) fun key left right isLeft isRight differ => ?_
  · simp only [holderDocument, lookup_cons]
    split_ifs <;> rfl
  · simp only [holderDocument, lookup_cons] at isLeft isRight
    split_ifs at isLeft isRight with isName isRole
    · refine (differ ⟨by simp [alwaysPaths, nameClaim, isName], ?_, ?_⟩).elim <;>
        simp [Free, Paths.mem_under, alwaysPaths, nameClaim]
    · cases isLeft
      cases isRight
      exact .same _
    · cases isLeft

theorem holder_payloads_differ_in_digests :
    (makeCredential lengthCodec (constantSalt "s") .sha256 (holderDocument "Ada") nameClaim 1 =
        .ok (holderPayload "Eg", ["eFtzIG5hbWUgQWRhXQ"]) ∧
      makeCredential lengthCodec (constantSalt "t") .sha256 (holderDocument "Grace") nameClaim 1 =
        .ok (holderPayload "FA", ["eFt0IG5hbWUgR3JhY2Vd"])) ∧
    blank (.obj (holderPayload "Eg")) = blank (.obj (holderPayload "FA")) := by
  have issued : makeCredential lengthCodec (constantSalt "s") .sha256 (holderDocument "Ada")
      nameClaim 1 = .ok (holderPayload "Eg", ["eFtzIG5hbWUgQWRhXQ"]) := by decide +kernel
  have issuedOther : makeCredential lengthCodec (constantSalt "t") .sha256 (holderDocument "Grace")
      nameClaim 1 = .ok (holderPayload "FA", ["eFt0IG5hbWUgR3JhY2Vd"]) := by decide +kernel
  exact ⟨⟨issued, issuedOther⟩, blank_payloads_eq lengthCodec_visible _ _ _ _ _
    (holderDocument_formed _) (holderDocument_formed _) (holderDocument_free _)
    (holderDocument_free _) (holderDocument_same _ _) issued issuedOther⟩

end Vc.Sdjwtvc
