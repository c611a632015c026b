import Vc.Sdjwtvc.Issuance

/-!
# What one claim does to a document

`processClaim` follows the path of a claim twice, to take the value away and to
leave its digest behind.  `processClaim_eq_ok` says what comes of it: nothing, if
the path leads nowhere; otherwise one object of the document is replaced, either
without the claim and with one more digest, or with an array of markers.
-/

namespace Vc.Sdjwtvc

open Entries Checks List Json Except

/-! ## Paths into a document -/

/-- The path leads to a member of an object, or to the elements of one of its arrays. -/
def Contains : List (Option String) → Json → Prop
  | [], _ => True
  | some name :: rest, .obj members =>
    ∃ child, members.lookup name = some child ∧ Contains rest child
  | [none], .arr _ => True
  | _, _ => False

variable {names : List String} {name : String} {rest init : List (Option String)}
  {node data : Members} {value : Json}

theorem contains_append (reached : childAt names data = some node)
    (stored : node.lookup name = some value) (further : Contains rest value) :
    Contains (names.map some ++ some name :: rest) (.obj data) := by
  induction names generalizing data with
  | nil =>
    cases reached
    exact ⟨value, stored, further⟩
  | cons first others ih =>
    obtain ⟨inner, found, below⟩ := childAt_cons_eq_some.mp reached
    exact ⟨.obj _, found, ih below⟩

/-- A path that leads somewhere goes through members until its last step. -/
theorem not_contains_of_lookup (missing : ∀ names node, init = names.map some →
    childAt names data = some node → node.lookup name = none) :
    ¬Contains (init ++ some name :: rest) (.obj data) := by
  intro contains
  induction init generalizing data with
  | nil =>
    obtain ⟨value, stored, _⟩ := contains
    cases (missing [] data rfl rfl).symm.trans stored
  | cons part others ih =>
    cases part with
    | none => cases others <;> exact contains
    | some first =>
      obtain ⟨child, found, below⟩ := contains
      cases child with
      | obj inner =>
        refine ih (fun names node same reached => ?_) below
        exact missing _ _ (by rw [same, map_cons])
          (childAt_cons_eq_some.mpr ⟨inner, found, reached⟩)
      | _ => rcases others with _ | ⟨_ | _, _ | _⟩ <;> exact below

theorem not_contains_at (reached : childAt names data = some node)
    (missing : node.lookup name = none) :
    ¬Contains (names.map some ++ some name :: rest) (.obj data) := by
  refine not_contains_of_lookup fun others found same reachedAgain => ?_
  cases map_injective_iff.mpr (Option.some_injective _) same
  cases reached.symm.trans reachedAgain
  exact missing

/-- No path goes on below the elements of an array. -/
theorem not_contains_of_none {init rest : List (Option String)} (more : rest ≠ []) :
    ¬Contains (init ++ none :: rest) value := by
  induction init generalizing value with
  | nil =>
    obtain ⟨part, others, rfl⟩ := exists_cons_of_ne_nil more
    cases value <;> exact id
  | cons part others ih =>
    intro contains
    cases part with
    | none => cases value <;> cases others <;> exact contains.elim
    | some first =>
      cases value with
      | obj members =>
        obtain ⟨child, _, below⟩ := contains
        exact ih below
      | _ => exact contains.elim

theorem setChild_self (formed : WellFormed (.obj data)) (reached : childAt names data = some node) :
    setChild names node data = data := by
  induction names generalizing data with
  | nil =>
    cases reached
    rfl
  | cons name rest ih =>
    obtain ⟨child, found, below⟩ := childAt_cons_eq_some.mp reached
    rw [setChild_cons found, ih (formed.member (mem_of_lookup found)) below]
    exact formed.members.put_of_lookup found

theorem childAt_setChild {changed : Members} (reached : childAt names data = some node) :
    childAt names (setChild names changed data) = some changed := by
  induction names generalizing data with
  | nil => rfl
  | cons name rest ih =>
    obtain ⟨child, found, below⟩ := childAt_cons_eq_some.mp reached
    rw [setChild_cons found, childAt_cons_eq_some]
    exact ⟨_, by rw [lookup_put, if_pos rfl], ih below⟩

theorem setChild_setChild {first second : Members}
    (ordered : WellFormed (.obj data)) (reached : childAt names data = some node) :
    setChild names second (setChild names first data) = setChild names second data := by
  induction names generalizing data with
  | nil => rfl
  | cons name rest ih =>
    obtain ⟨child, found, below⟩ := childAt_cons_eq_some.mp reached
    have again : (put name (.obj (setChild rest first child)) data).lookup name =
        some (.obj (setChild rest first child)) := by
      rw [lookup_put, if_pos rfl]
    rw [setChild_cons found, setChild_cons again, setChild_cons found,
      ih (ordered.member (mem_of_lookup found)) below]
    refine ((ordered.members.put _ _).put _ _).ext (ordered.members.put _ _) fun key => ?_
    simp only [lookup_put]
    split <;> rfl

theorem wellFormed_put {members : Members}
    (formed : WellFormed (.obj members)) (valueFormed : WellFormed value) :
    WellFormed (.obj (put name value members)) := by
  refine .obj (formed.members.put _ _) fun entry member => ?_
  rcases mem_put member with rfl | old
  · exact valueFormed
  · exact formed.member old

theorem wellFormed_without {members : Members} (name : String)
    (formed : WellFormed (.obj members)) :
    WellFormed (.obj (without name members)) :=
  .obj (formed.members.without _) fun _ member => formed.member (mem_of_mem_filter member)

theorem wellFormed_childAt
    (formed : WellFormed (.obj data)) (reached : childAt names data = some node) :
    WellFormed (.obj node) := by
  induction names generalizing data with
  | nil =>
    cases reached
    exact formed
  | cons name rest ih =>
    obtain ⟨child, found, below⟩ := childAt_cons_eq_some.mp reached
    exact ih (formed.member (mem_of_lookup found)) below

theorem wellFormed_setChild {changed : Members}
    (formed : WellFormed (.obj data)) (changedFormed : WellFormed (.obj changed)) :
    WellFormed (.obj (setChild names changed data)) := by
  induction names generalizing data with
  | nil => exact changedFormed
  | cons name rest ih =>
    rw [setChild]
    split
    · next child found =>
      exact wellFormed_put formed (ih (formed.member (mem_of_lookup found)))
    · exact formed

/-! ## The step -/

/-- The digests that an object carries already. -/
def sdElements (node : Members) : Option (List Json) :=
  match (node.lookup "_sd").getD (.arr []) with
  | .arr digests => some digests
  | _ => none

section Steps

variable (codec : Codec) (random : Randomness) (method : HashMethod)

def memberDisclosure (drawn : Nat) (name : String) (value : Json) : String :=
  disclosureText codec [.str (random.salt drawn), .str name, value]

/-- An object after one of its members was hidden. -/
def hidden (drawn : Nat) (name : String) (value : Json) (digests : List Json)
    (node : Members) : Members :=
  put "_sd" (.arr (digests ++
    [.str (codec.digest method (memberDisclosure codec random drawn name value))]))
    (without name node)

/-- The markers that take the place of the elements of an array. -/
def markers (drawn : Nat) (elements : List Json) : List Json :=
  (elementDisclosures codec random drawn elements).map fun text =>
    marker (codec.digest method text)

/-- The effect of a claim that is always selectively disclosed. -/
inductive ClaimStep (state : Issuing) : List (Option String) → Issuing → Prop where
  /-- The path leads nowhere. -/
  | absent {path : List (Option String)} (missing : ¬Contains path (.obj state.data)) :
      ClaimStep state path state
  /-- A member is hidden. -/
  | member {names : List String} {name : String} {node : Members} {value : Json}
      {digests : List Json} (reached : childAt names state.data = some node)
      (found : node.lookup name = some value) (plain : name ≠ "_sd" ∧ name ≠ "...")
      (before : sdElements node = some digests)
      (fresh : .str (codec.digest method (memberDisclosure codec random state.drawn name value)) ∉
        digests) :
      ClaimStep state (names.map some ++ [some name]) {
        data := setChild names (hidden codec random method state.drawn name value digests node)
          state.data
        disclosures := state.disclosures ++ [memberDisclosure codec random state.drawn name value]
        drawn := state.drawn + 1 }
  /-- The elements of an array are hidden. -/
  | elements {names : List String} {name : String} {node : Members} {elements : List Json}
      (reached : childAt names state.data = some node)
      (found : node.lookup name = some (.arr elements)) :
      ClaimStep state (names.map some ++ [some name, none]) {
        data := setChild names
          (put name (.arr (markers codec random method state.drawn elements)) node) state.data
        disclosures := state.disclosures ++ (if elements = [] then []
          else split '~' (join '~' (elementDisclosures codec random state.drawn elements)))
        drawn := state.drawn + elements.length }

end Steps

section Inversion

variable {codec : Codec} {random : Randomness} {method : HashMethod}
  {processed : Processed} {drawn : Nat}

variable {inner : Members}

theorem hideMember_eq_ok
    (done : hideMember codec random method drawn name node = .ok (processed, inner)) :
    (name ≠ "_sd" ∧ name ≠ "...") ∧
    ((node.lookup name = none ∧ processed = .nothing drawn ∧ inner = node) ∨
      ∃ value, node.lookup name = some value ∧ inner = without name node ∧
        processed = {
          disclosure := memberDisclosure codec random drawn name value
          hash := codec.digest method (memberDisclosure codec random drawn name value)
          drawn := drawn + 1 }) := by
  unfold hideMember at done
  split_ifs at done with reserved
  refine ⟨not_or.mp reserved, ?_⟩
  split at done
  · next missing =>
    cases done
    exact .inl ⟨missing, rfl, rfl⟩
  · next value found =>
    cases done
    exact .inr ⟨value, found, rfl, rfl⟩

variable {after : Members}

/-- What `processClaimPath` does for a path that ends in a name. -/
theorem processClaimPath_member_eq_ok (formed : WellFormed (.obj data))
    (done : processClaimPath codec random method drawn data (init ++ [some name]) =
      .ok (processed, after)) :
    (processed = .nothing drawn ∧ after = data ∧ ¬Contains (init ++ [some name]) (.obj data)) ∨
    ∃ names node value, init = names.map some ∧ childAt names data = some node ∧
      node.lookup name = some value ∧ (name ≠ "_sd" ∧ name ≠ "...") ∧
      after = setChild names (without name node) data ∧
      processed = {
        disclosure := memberDisclosure codec random drawn name value
        hash := codec.digest method (memberDisclosure codec random drawn name value)
        drawn := drawn + 1 } := by
  simp only [processClaimPath, getLast?_concat, dropLast_concat] at done
  obtain ⟨names, node, inner, rfl, reached, acted, rfl⟩ | ⟨rfl, ⟨_, missing⟩, nowhere⟩ :=
    atParent_eq_ok formed done
  · obtain ⟨plain, ⟨missing, rfl, rfl⟩ | ⟨value, found, rfl, rfl⟩⟩ := hideMember_eq_ok acted
    · exact .inl ⟨rfl, setChild_self formed reached, not_contains_at reached missing⟩
    · exact .inr ⟨names, node, value, rfl, reached, found, plain, rfl, rfl⟩
  · refine .inl ⟨(ok.inj missing).symm, rfl, not_contains_of_lookup fun names _ same reached => ?_⟩
    cases (nowhere names same).symm.trans reached

theorem hideElements_eq_ok
    (done : hideElements codec random method drawn (some name) node = .ok (processed, inner)) :
    (node.lookup name = none ∧ processed = .nothing drawn ∧ inner = node) ∨
    ∃ elements, node.lookup name = some (.arr elements) ∧
      inner = put name (.arr (markers codec random method drawn elements)) node ∧
      processed.disclosure = join '~' (elementDisclosures codec random drawn elements) ∧
      processed.drawn = drawn + elements.length := by
  unfold hideElements at done
  dsimp only at done
  split at done
  · next missing =>
    cases done
    exact .inl ⟨missing, rfl, rfl⟩
  · next elements found =>
    cases done
    exact .inr ⟨elements, found, by rw [map_map]; rfl, rfl, rfl⟩
  · cases done

/-- What `processClaimPath` does for a path that ends in all elements. -/
theorem processClaimPath_elements_eq_ok (formed : WellFormed (.obj data))
    (done : processClaimPath codec random method drawn data (init ++ [none]) =
      .ok (processed, after)) :
    (processed = .nothing drawn ∧ after = data ∧ ¬Contains (init ++ [none]) (.obj data)) ∨
    ∃ names name node elements, init = names.map some ++ [some name] ∧
      childAt names data = some node ∧ node.lookup name = some (.arr elements) ∧
      after = setChild names
        (put name (.arr (markers codec random method drawn elements)) node) data ∧
      processed.disclosure = join '~' (elementDisclosures codec random drawn elements) ∧
      processed.drawn = drawn + elements.length := by
  simp only [processClaimPath, getLast?_concat, processArrayElementPath] at done
  split_ifs at done with short
  obtain rfl | ⟨front, last, rfl⟩ := eq_nil_or_concat init
  · simp at short
  simp only [concat_eq_append, dropLast_concat, getLast?_concat] at done ⊢
  cases last with
  | none =>
    obtain ⟨_, _, _, _, _, acted, _⟩ | ⟨rfl, ⟨_, missing⟩, _⟩ := atParent_eq_ok formed done
    · cases acted
    · refine .inl ⟨(ok.inj missing).symm, rfl, fun contains => ?_⟩
      rw [append_assoc] at contains
      exact not_contains_of_none (cons_ne_nil _ _) contains
  | some name =>
    obtain ⟨names, node, inner, rfl, reached, acted, rfl⟩ | ⟨rfl, ⟨_, missing⟩, nowhere⟩ :=
      atParent_eq_ok formed done
    · obtain ⟨missing, rfl, rfl⟩ | ⟨elements, found, rfl, texts, used⟩ :=
        hideElements_eq_ok acted
      · rw [append_assoc]
        exact .inl ⟨rfl, setChild_self formed reached, not_contains_at reached missing⟩
      · exact .inr ⟨names, name, node, elements, rfl, reached, found, rfl, texts, used⟩
    · rw [append_assoc]
      refine .inl ⟨(ok.inj missing).symm, rfl,
        not_contains_of_lookup fun names _ same reached => ?_⟩
      cases (nowhere names same).symm.trans reached

theorem addHashToPath_eq_ok {hash : String} (formed : WellFormed (.obj data))
    (reached : childAt names data = some node)
    (done : addHashToPath data (names.map some) hash = .ok after) :
    ∃ digests, sdElements node = some digests ∧ .str hash ∉ digests ∧
      after = setChild names (put "_sd" (.arr (digests ++ [.str hash])) node) data := by
  simp only [addHashToPath, map_eq_ok_iff] at done
  obtain ⟨⟨_, changed⟩, followed, rfl⟩ := done
  obtain ⟨others, found, inner, same, reachedAgain, acted, rfl⟩ | ⟨_, ⟨_, missing⟩, _⟩ :=
    atParent_eq_ok formed followed
  · cases map_injective_iff.mpr (Option.some_injective _) same
    cases reached.symm.trans reachedAgain
    unfold appendDigest at acted
    split at acted
    · next digests isArray =>
      split_ifs at acted with repeated
      cases acted
      exact ⟨digests, by rw [sdElements, isArray], repeated, rfl⟩
    · cases acted
  · cases missing

theorem sdElements_without (plain : name ≠ "_sd") (node : Members) :
    sdElements (without name node) = sdElements node := by
  rw [sdElements, lookup_without, if_neg (Ne.symm plain), sdElements]

variable {elements : List Json}

theorem elementDisclosures_eq_nil_iff :
    elementDisclosures codec random drawn elements = [] ↔ elements = [] := by
  cases elements <;> simp [elementDisclosures]

/-- Texts that are joined show, unless there is none. -/
theorem join_eq_empty_iff {separator : Char} {parts : List String}
    (shown : ∀ part ∈ parts, part ≠ "") : join separator parts = "" ↔ parts = [] := by
  cases parts with
  | nil => simp [join]
  | cons first rest =>
    have visible := shown first mem_cons_self
    refine iff_of_false (fun empty => visible ?_) (cons_ne_nil _ _)
    have chars := congrArg String.toList empty
    rw [join] at chars
    have none : first.toList = [] := by
      cases rest with
      | nil => simpa using chars
      | cons second others => simp [intercalate] at chars
    exact String.toList_eq_nil_iff.mp none

theorem mem_elementDisclosures {text : String}
    (member : text ∈ elementDisclosures codec random drawn elements) :
    ∃ parts, text = disclosureText codec parts := by
  induction elements generalizing drawn with
  | nil => cases member
  | cons element rest ih =>
    rcases mem_cons.mp member with rfl | later
    · exact ⟨_, rfl⟩
    · exact ih later

variable {state after : Issuing}

section

variable (shown : ∀ parts, disclosureText codec parts ≠ "")

include shown

section

variable (formed : WellFormed (.obj state.data))

include formed

theorem claimStep_elements
    (followed : processClaimPath codec random method state.drawn state.data (init ++ [none]) =
      .ok (processed, data))
    (same : after =
      if processed.disclosure ≠ "" then {
        data
        disclosures := state.disclosures ++ split '~' processed.disclosure
        drawn := processed.drawn }
      else { state with data, drawn := processed.drawn }) :
    ClaimStep codec random method state (init ++ [none]) after := by
  obtain ⟨rfl, rfl, missing⟩ | ⟨names, name, node, elements, rfl, reached, found, rfl, texts,
    used⟩ := processClaimPath_elements_eq_ok formed followed
  · subst same
    exact .absent missing
  · have empty : processed.disclosure = "" ↔ elements = [] := by
      rw [texts, join_eq_empty_iff, elementDisclosures_eq_nil_iff]
      intro part member
      obtain ⟨parts, rfl⟩ := mem_elementDisclosures member
      exact shown _
    have step : ClaimStep codec random method state _ _ := .elements reached found
    rw [← used, ← texts] at step
    rw [append_assoc, same]
    by_cases none : elements = []
    · rw [if_pos none, append_nil] at step
      rw [if_neg (not_not.mpr (empty.mpr none))]
      exact step
    · rw [if_neg none] at step
      rw [if_pos (fun unseen => none (empty.mp unseen))]
      exact step

theorem claimStep_member
    (followed : processClaimPath codec random method state.drawn state.data
      (init ++ [some name]) = .ok (processed, data))
    (done : (if processed.disclosure ≠ "" then
        (addHashToPath data init processed.hash).map fun data => {
          data
          disclosures := state.disclosures ++ [processed.disclosure]
          drawn := processed.drawn }
      else .ok { state with data, drawn := processed.drawn }) = .ok after) :
    ClaimStep codec random method state (init ++ [some name]) after := by
  obtain ⟨rfl, rfl, missing⟩ | ⟨names, node, value, rfl, reached, found, plain, rfl, rfl⟩ :=
    processClaimPath_member_eq_ok formed followed
  · cases done
    exact .absent missing
  · have visible : memberDisclosure codec random state.drawn name value ≠ "" := shown _
    rw [if_pos visible] at done
    obtain ⟨added, appended, rfl⟩ := map_eq_ok_iff.mp done
    have formedAfter : WellFormed (.obj (setChild names (without name node) state.data)) :=
      wellFormed_setChild formed (wellFormed_without name (wellFormed_childAt formed reached))
    obtain ⟨digests, before, fresh, rfl⟩ :=
      addHashToPath_eq_ok formedAfter (childAt_setChild reached) appended
    rw [setChild_setChild formed reached]
    exact .member reached found plain (sdElements_without plain.1 _ ▸ before) fresh

/-- Everything that a claim can do. -/
theorem processClaim_eq_ok {claim : Claim}
    (done : processClaim codec random method state claim = .ok after) :
    (¬(claim.sd = "always" ∧ claim.path ≠ []) ∧ after = state) ∨
      (claim.sd = "always" ∧ claim.path ≠ []) ∧
        ClaimStep codec random method state claim.path after := by
  unfold processClaim at done
  by_cases always : claim.sd = "always" ∧ claim.path ≠ []
  · rw [if_pos always] at done
    refine .inr ⟨always, ?_⟩
    obtain ⟨⟨processed, data⟩, followed, rest⟩ := bind_eq_ok_iff.mp done
    dsimp only at rest
    obtain impossible | ⟨init, last, isPath⟩ := eq_nil_or_concat claim.path
    · exact absurd impossible always.2
    rw [concat_eq_append] at isPath
    rw [isPath] at followed rest ⊢
    cases last with
    | none =>
      rw [getLast?_concat, if_pos rfl] at rest
      refine claimStep_elements shown formed followed ?_
      split_ifs at rest ⊢ <;> exact (ok.inj rest).symm
    | some name =>
      refine claimStep_member shown formed followed ?_
      rw [getLast?_concat, dropLast_concat] at rest
      split_ifs at rest ⊢ with visible impossible
      · cases impossible
      · obtain ⟨added, appended, same⟩ := bind_eq_ok_iff.mp rest
        cases same
        rw [appended]
        rfl
      · exact rest
  · rw [if_neg always] at done
    cases done
    exact .inl ⟨always, rfl⟩

end

end

theorem wellFormed_marker (digest : String) : WellFormed (marker digest) :=
  .obj (pairwise_singleton _ _) fun _ member => by
    cases mem_singleton.mp member
    exact .scalar trivial

theorem wellFormed_markers (drawn : Nat) (elements : List Json) :
    WellFormed (.arr (markers codec random method drawn elements)) :=
  .arr fun _ member => by
    obtain ⟨text, _, rfl⟩ := mem_map.mp member
    exact wellFormed_marker _

theorem wellFormed_of_sdElements {digests : List Json}
    (formed : WellFormed (.obj node)) (before : sdElements node = some digests) :
    WellFormed (.arr digests) := by
  rw [sdElements] at before
  cases found : node.lookup "_sd" with
  | none =>
    rw [found] at before
    cases before
    exact .arr (by simp)
  | some value =>
    rw [found, Option.getD_some] at before
    split at before
    · cases before
      exact formed.member (mem_of_lookup found)
    · cases before

theorem ClaimStep.wellFormed {path : List (Option String)}
    (step : ClaimStep codec random method state path after)
    (formed : WellFormed (.obj state.data)) : WellFormed (.obj after.data) := by
  cases step with
  | absent => exact formed
  | member reached found plain before =>
    have formedNode := wellFormed_childAt formed reached
    refine wellFormed_setChild formed (wellFormed_put (wellFormed_without _ formedNode) ?_)
    refine .arr fun element member => ?_
    rcases mem_append.mp member with old | new
    · exact (wellFormed_of_sdElements formedNode before).element old
    · cases mem_singleton.mp new
      exact .scalar trivial
  | elements reached found =>
    exact wellFormed_setChild formed
      (wellFormed_put (wellFormed_childAt formed reached) (wellFormed_markers _ _))

end Inversion

/-! ## The order of the claims -/

theorem exchange_perm (front : Claim) (claims : List Claim) :
    ((exchange front claims).1 :: (exchange front claims).2).Perm (front :: claims) := by
  induction claims generalizing front with
  | nil => exact .refl _
  | cons claim rest ih =>
    rw [exchange]
    split_ifs
    · exact (List.Perm.swap _ _ _).trans ((ih _).cons _)
    · exact (List.Perm.swap _ _ _).trans (((ih _).cons _).trans (.swap _ _ _))

/-- What the inner loop leaves at the front is at least as deep as the rest. -/
theorem exchange_deepest (front : Claim) (claims : List Claim) :
    front.path.length ≤ (exchange front claims).1.path.length ∧
      ∀ claim ∈ (exchange front claims).2,
        claim.path.length ≤ (exchange front claims).1.path.length := by
  induction claims generalizing front with
  | nil => exact ⟨Nat.le_refl _, by simp [exchange]⟩
  | cons claim rest ih =>
    rw [exchange]
    split_ifs with deeper
    · obtain ⟨atLeast, others⟩ := ih claim
      have below : front.path.length ≤ (exchange claim rest).1.path.length :=
        Nat.le_trans (Nat.le_of_lt deeper) atLeast
      exact ⟨below, forall_mem_cons.mpr ⟨below, others⟩⟩
    · obtain ⟨atLeast, others⟩ := ih front
      exact ⟨atLeast, forall_mem_cons.mpr ⟨Nat.le_trans (Nat.le_of_not_lt deeper) atLeast, others⟩⟩

theorem exchangeSort_perm (count : Nat) (claims : List Claim) :
    (exchangeSort count claims).Perm claims := by
  induction count generalizing claims with
  | zero => cases claims <;> exact .refl _
  | succ count ih =>
    cases claims with
    | nil => exact .refl _
    | cons front rest =>
      exact ((ih _).cons _).trans (exchange_perm _ _)

theorem exchangeSort_deepest_first {count : Nat} {claims : List Claim}
    (enough : claims.length ≤ count) :
    (exchangeSort count claims).Pairwise fun first second =>
      second.path.length ≤ first.path.length := by
  induction count generalizing claims with
  | zero =>
    cases length_eq_zero_iff.mp (Nat.le_zero.mp enough)
    exact .nil
  | succ count ih =>
    cases claims with
    | nil => exact .nil
    | cons front rest =>
      have length := (exchange_perm front rest).length_eq
      have remaining : (exchange front rest).2.length ≤ count := by
        simp only [length_cons] at enough length
        omega
      refine .cons (fun claim member => ?_) (ih remaining)
      exact (exchange_deepest _ _).2 _ ((exchangeSort_perm _ _).mem_iff.mp member)

theorem sortClaimsByDepth_perm (claims : List Claim) : (sortClaimsByDepth claims).Perm claims :=
  exchangeSort_perm _ _

theorem sortClaimsByDepth_deepest_first (claims : List Claim) :
    (sortClaimsByDepth claims).Pairwise fun first second =>
      second.path.length ≤ first.path.length :=
  exchangeSort_deepest_first (Nat.le_refl _)

end Vc.Sdjwtvc
