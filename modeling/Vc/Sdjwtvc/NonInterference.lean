import Vc.Sdjwtvc.ClaimSteps

/-!
# What the payload says about undisclosed values

Two documents that differ only in values that are always selectively disclosed
are issued in lockstep: the claims are the same and sorted the same way, so every
claim finds its path in both documents or in neither.

`Indistinct` relates the two documents between two claims.  It allows them to
differ at the paths of the claims that are still to come, and in their digests.
When no claim is left, only the digests can differ.
-/

namespace Vc.Sdjwtvc

open Entries Checks Json Option

/-- Paths of claims, relative to some value. -/
abbrev Paths := List (List (Option String))

/-- The paths that go on below a member. -/
def Paths.under (paths : Paths) (name : String) : Paths :=
  paths.filterMap fun
    | some first :: rest => if first = name then some rest else none
    | _ => none

variable {paths : Paths} {name : String} {rest : List (Option String)}

theorem Paths.mem_under : rest ∈ paths.under name ↔ some name :: rest ∈ paths := by
  rw [Paths.under, List.mem_filterMap]
  constructor
  · rintro ⟨path, member, found⟩
    split at found
    · next first others =>
      split_ifs at found with same
      cases found
      exact same ▸ member
    · cases found
  · exact fun member => ⟨_, member, by simp⟩

/-- None of the paths leads into the value. -/
def Free (paths : Paths) (value : Json) : Prop :=
  ∀ path ∈ paths, path ≠ [] → ¬Contains path value

/-- The names that the issuer gives a meaning to. -/
def ReservedFree : Json → Prop :=
  EveryObject fun members =>
    members.lookup "_sd" = none ∧ members.lookup "_sd_alg" = none ∧ members.lookup "..." = none

/-- A member that one of the paths leads to and that none of them leads into. -/
def Replaceable (paths : Paths) (name : String) (left right : Json) : Prop :=
  [some name] ∈ paths ∧ Free (paths.under name) left ∧ Free (paths.under name) right

/-- The values differ only at the given paths: in members that may be replaced, and in the elements
of arrays whose elements are given. -/
inductive SameExcept : Paths → Json → Json → Prop
  | same {paths : Paths} (value : Json) : SameExcept paths value value
  | members {paths : Paths} {first second : Members}
      (keys : ∀ name, (first.lookup name).isSome = (second.lookup name).isSome)
      (each : ∀ name left right, first.lookup name = some left → second.lookup name = some right →
        ¬Replaceable paths name left right → SameExcept (paths.under name) left right) :
      SameExcept paths (.obj first) (.obj second)
  | elements {paths : Paths} {first second : List Json} (disclosed : [none] ∈ paths)
      (length : first.length = second.length) : SameExcept paths (.arr first) (.arr second)

mutual

/-- The values differ only in digests and at the given paths. -/
inductive Indistinct : Paths → Json → Json → Prop
  | scalar {paths : Paths} {value : Json} (scalar : value.IsScalar) : Indistinct paths value value
  | replaced {paths : Paths} {first second : List Json} (disclosed : [none] ∈ paths)
      (length : first.length = second.length) : Indistinct paths (.arr first) (.arr second)
  | elements {paths : Paths} {first second : List Json} (length : first.length = second.length)
      (each : ∀ (index : Nat) (left right : Json), first[index]? = some left →
        second[index]? = some right → Indistinct [] left right) :
      Indistinct paths (.arr first) (.arr second)
  | members {paths : Paths} {first second : Members}
      (keys : ∀ name, (first.lookup name).isSome = (second.lookup name).isSome)
      (shallow : (first.lookup "_sd").isSome → ∀ path ∈ paths, path.length ≤ 1)
      (each : ∀ name left right, first.lookup name = some left → second.lookup name = some right →
        IndistinctMember paths name left right) : Indistinct paths (.obj first) (.obj second)

/-- The values of a member differ only in digests and at the given paths. -/
inductive IndistinctMember : Paths → String → Json → Json → Prop
  | digests {paths : Paths} {first second : List String} (length : first.length = second.length) :
      IndistinctMember paths "_sd" (.arr (first.map .str)) (.arr (second.map .str))
  | digest {paths : Paths} {first second : String} :
      IndistinctMember paths "..." (.str first) (.str second)
  | replaced {paths : Paths} {name : String} {left right : Json}
      (plain : name ≠ "_sd" ∧ name ≠ "...") (replaceable : Replaceable paths name left right) :
      IndistinctMember paths name left right
  | shown {paths : Paths} {name : String} {left right : Json}
      (plain : name ≠ "_sd" ∧ name ≠ "...")
      (below : Indistinct (paths.under name) left right) : IndistinctMember paths name left right

end

/-! ## Before the first claim -/

variable {members : Members} {value : Json}

theorem ReservedFree.plain (free : ReservedFree (.obj members))
    (found : members.lookup name = some value) : name ≠ "_sd" ∧ name ≠ "..." := by
  obtain ⟨noDigests, _, noMarker⟩ := EveryObject.members free
  constructor
  · rintro rfl
    rw [noDigests] at found
    cases found
  · rintro rfl
    rw [noMarker] at found
    cases found

theorem Indistinct.refl (free : ReservedFree value) (paths : Paths) :
    Indistinct paths value value := by
  induction value using induct generalizing paths with
  | arr elements ih =>
    refine .elements rfl fun index left right first second => ?_
    cases first.symm.trans second
    have member := List.mem_of_getElem? first
    exact ih _ member (EveryObject.element free member) []
  | obj members ih =>
    refine .members (fun _ => rfl) (fun present => ?_) fun name left right first second => ?_
    · rw [(EveryObject.members free).1] at present
      cases present
    · cases first.symm.trans second
      have member := mem_of_lookup first
      exact .shown (free.plain first) (ih _ member (EveryObject.member free member) _)
  | _ => exact .scalar trivial

variable {first second : Json}

theorem indistinct_of_sameExcept (freeFirst : ReservedFree first) (freeSecond : ReservedFree second)
    (same : SameExcept paths first second) : Indistinct paths first second := by
  induction first using induct generalizing paths second with
  | arr elements =>
    cases same with
    | same => exact .refl freeFirst _
    | elements disclosed length => exact .replaced disclosed length
  | obj members ih =>
    cases same with
    | same => exact .refl freeFirst _
    | members keys each =>
      refine .members keys (fun present => ?_) fun name left right isLeft isRight => ?_
      · rw [(EveryObject.members freeFirst).1] at present
        cases present
      · by_cases replaceable : Replaceable paths name left right
        · exact .replaced (freeFirst.plain isLeft) replaceable
        · exact .shown (freeFirst.plain isLeft) (ih _
            (mem_of_lookup isLeft) (EveryObject.member freeFirst (mem_of_lookup isLeft))
            (EveryObject.member freeSecond (mem_of_lookup isRight))
            (each _ _ _ isLeft isRight replaceable))
  | _ =>
    cases same
    exact .scalar trivial

/-! ## Fewer paths -/

/-- The paths that were given up lead nowhere in the value. -/
def Dropped (paths fewer : Paths) (value : Json) : Prop :=
  (∀ path ∈ fewer, path ∈ paths) ∧ ∀ path ∈ paths, path ∉ fewer → path ≠ [] → ¬Contains path value

variable {paths fewer : Paths}

theorem Free.mono (free : Free paths value)
    (subset : ∀ path ∈ fewer, path ∈ paths) : Free fewer value :=
  fun path member => free _ (subset path member)

theorem Paths.under_subset (subset : ∀ path ∈ fewer, path ∈ paths)
    (name : String) : ∀ path ∈ fewer.under name, path ∈ paths.under name :=
  fun _ member => mem_under.mpr (subset _ (mem_under.mp member))

/-- What was given up leads nowhere in a member either. -/
theorem Dropped.under {child : Json}
    (dropped : Dropped paths fewer (.obj members)) (found : members.lookup name = some child) :
    Dropped (paths.under name) (fewer.under name) child := by
  refine ⟨Paths.under_subset dropped.1 _, fun path member absent nonempty contains => ?_⟩
  refine dropped.2 _ (Paths.mem_under.mp member) (fun present => ?_)
    (List.cons_ne_nil _ _) ⟨child, found, contains⟩
  exact absent (Paths.mem_under.mpr present)

variable {left right : Json}

theorem Replaceable.restrict (replaceable : Replaceable paths name left right)
    (dropped : Dropped paths fewer (.obj members)) (found : members.lookup name = some left) :
    Replaceable fewer name left right := by
  obtain ⟨disclosed, freeLeft, freeRight⟩ := replaceable
  refine ⟨?_, freeLeft.mono (Paths.under_subset dropped.1 _),
    freeRight.mono (Paths.under_subset dropped.1 _)⟩
  by_contra absent
  exact dropped.2 _ disclosed absent (List.cons_ne_nil _ _) ⟨left, found, trivial⟩

theorem Indistinct.restrict
    (related : Indistinct paths first second) (dropped : Dropped paths fewer first) :
    Indistinct fewer first second := by
  induction first using induct generalizing paths fewer second with
  | arr elements =>
    cases related with
    | scalar scalar => exact scalar.elim
    | replaced disclosed length =>
      refine .replaced ?_ length
      by_contra absent
      exact dropped.2 _ disclosed absent (List.cons_ne_nil _ _) trivial
    | elements length each => exact .elements length each
  | obj members ih =>
    obtain ⟨⟨⟩⟩ | _ | _ | ⟨keys, shallow, each⟩ := related
    refine .members keys (fun present path member => shallow present _
      (dropped.1 _ member)) fun name left right isLeft isRight => ?_
    cases each name left right isLeft isRight with
    | digests length => exact .digests length
    | digest => exact .digest
    | replaced plain replaceable =>
      exact .replaced plain (replaceable.restrict dropped isLeft)
    | shown plain below =>
      exact .shown plain (ih _ (mem_of_lookup isLeft) below (dropped.under isLeft))
  | _ =>
    cases related
    exact .scalar trivial

/-! ## Finding the same paths -/

theorem Indistinct.symm
    (related : Indistinct paths first second) : Indistinct paths second first := by
  induction first using induct generalizing paths second with
  | arr elements ih =>
    cases related with
    | scalar scalar => exact .scalar scalar
    | replaced disclosed length => exact .replaced disclosed length.symm
    | elements length each =>
      refine .elements length.symm fun index left right isLeft isRight => ?_
      exact ih _ (List.mem_of_getElem? isRight) (each _ _ _ isRight isLeft)
  | obj members ih =>
    cases related with
    | scalar scalar => exact .scalar scalar
    | members keys shallow each =>
      refine .members (fun name => (keys _).symm) (fun present => shallow ?_)
        fun name left right isLeft isRight => ?_
      · rw [keys, present]
      · cases each name right left isRight isLeft with
        | digests length => exact .digests length.symm
        | digest => exact .digest
        | replaced plain replaceable =>
          exact .replaced plain ⟨replaceable.1, replaceable.2.2, replaceable.2.1⟩
        | shown plain below =>
          exact .shown plain (ih _ (mem_of_lookup isRight) below)
  | _ =>
    cases related
    exact .scalar trivial

theorem Indistinct.obj_right {first : Members} {second : Json}
    (related : Indistinct paths (.obj first) second) : ∃ members, second = .obj members := by
  cases related with
  | scalar scalar => exact scalar.elim
  | members => exact ⟨_, rfl⟩

theorem exists_lookup_of_keys {first second : Members}
    (keys : (first.lookup name).isSome = (second.lookup name).isSome)
    (found : first.lookup name = some left) : ∃ right, second.lookup name = some right := by
  rw [found] at keys
  exact isSome_iff_exists.mp keys.symm

variable {path : List (Option String)}

/-- A path that one of the values contains is found in the other. -/
theorem Indistinct.contains (related : Indistinct paths first second) (given : path ∈ paths)
    (contains : Contains path first) : Contains path second := by
  induction path generalizing paths first second with
  | nil => cases second <;> trivial
  | cons part rest ih =>
    cases part with
    | none =>
      cases first with
      | arr elements =>
        cases rest with
        | nil =>
          cases related with
          | scalar scalar => exact scalar.elim
          | replaced | elements => trivial
        | cons => exact contains.elim
      | _ => cases rest <;> exact contains.elim
    | some name =>
      cases first with
      | obj members =>
        obtain ⟨child, found, below⟩ := contains
        obtain ⟨⟨⟩⟩ | _ | _ | ⟨keys, shallow, each⟩ := related
        obtain ⟨other, foundOther⟩ := exists_lookup_of_keys (keys name) found
        refine ⟨other, foundOther, ?_⟩
        have further := Paths.mem_under.mpr given
        cases each name child other found foundOther with
        | digests =>
          have short := shallow (by rw [found]; rfl) _ given
          cases List.length_eq_zero_iff.mp (by simpa using short)
          trivial
        | digest =>
          cases rest with
          | nil => trivial
          | cons part others =>
            cases part <;> cases others <;> exact False.elim below
        | replaced plain replaceable =>
          cases rest with
          | nil => cases other <;> trivial
          | cons => exact absurd below (replaceable.2.1 _ further (List.cons_ne_nil _ _))
        | shown plain related => exact ih related further below
      | _ => exact contains.elim

/-! ## One claim less -/

theorem Paths.under_cons_self (name : String) (rest : List (Option String)) (paths : Paths) :
    Paths.under ((some name :: rest) :: paths) name = rest :: paths.under name := by
  simp [Paths.under]

variable {name other : String}

theorem Paths.under_cons_of_ne (differ : name ≠ other)
    (rest : List (Option String)) (paths : Paths) :
    Paths.under ((some name :: rest) :: paths) other = paths.under other := by
  simp [Paths.under, differ]

/-- The paths that go on below a chain of members. -/
def Paths.underAll (paths : Paths) : List String → Paths
  | [] => paths
  | name :: rest => (paths.under name).underAll rest

variable {names : List String}

theorem Paths.mem_underAll : rest ∈ paths.underAll names ↔ names.map some ++ rest ∈ paths := by
  induction names generalizing paths with
  | nil => exact Iff.rfl
  | cons name others ih => exact ih.trans Paths.mem_under

/-- A path that starts with another name does not concern a member. -/
theorem IndistinctMember.of_other (differ : name ≠ other)
    (related : IndistinctMember ((some name :: rest) :: paths) other left right) :
    IndistinctMember paths other left right := by
  cases related with
  | digests length => exact .digests length
  | digest => exact .digest
  | replaced plain replaceable =>
    obtain ⟨disclosed, freeLeft, freeRight⟩ := replaceable
    rw [Paths.under_cons_of_ne differ] at freeLeft freeRight
    refine .replaced plain ⟨?_, freeLeft, freeRight⟩
    rcases List.mem_cons.mp disclosed with same | disclosed
    · cases same
      exact absurd rfl differ
    · exact disclosed
  | shown plain below =>
    rw [Paths.under_cons_of_ne differ] at below
    exact .shown plain below

/-- A member that a path leads into is shown in both values. -/
theorem IndistinctMember.shown_of_contains (related : IndistinctMember paths name left right)
    (plain : name ≠ "_sd" ∧ name ≠ "...") (given : rest ∈ paths.under name) (more : rest ≠ [])
    (contains : Contains rest left) : Indistinct (paths.under name) left right := by
  cases related with
  | digests => exact absurd rfl plain.1
  | digest => exact absurd rfl plain.2
  | replaced _ replaceable => exact absurd contains (replaceable.2.1 _ given more)
  | shown _ below => exact below

theorem IndistinctMember.plain_of_obj {left : Members}
    (related : IndistinctMember paths name (.obj left) right) :
    name ≠ "_sd" ∧ name ≠ "..." := by
  cases related with
  | replaced plain => exact plain
  | shown plain => exact plain

theorem IndistinctMember.ne_marker_of_arr {left : List Json}
    (related : IndistinctMember paths name (.arr left) right) : name ≠ "..." := by
  cases related with
  | digests => decide
  | replaced plain => exact plain.2
  | shown plain => exact plain.2

variable {first second : Members}

/-- A shown member is replaced in both objects, and the other members stay. -/
theorem Indistinct.putShown {before : Paths}
    (related : Indistinct before (.obj first) (.obj second))
    (plain : name ≠ "_sd" ∧ name ≠ "...") (fewer : ∀ path ∈ paths, path ∈ before)
    (others : ∀ {key left right}, key ≠ name → IndistinctMember before key left right →
      IndistinctMember paths key left right)
    (below : Indistinct (paths.under name) left right) :
    Indistinct paths (.obj (put name left first)) (.obj (put name right second)) := by
  obtain ⟨⟨⟩⟩ | _ | _ | ⟨keys, shallow, each⟩ := related
  refine .members (fun key => ?_) (fun present path given => ?_)
    fun key one another isOne isAnother => ?_
  · rw [lookup_put, lookup_put]
    split_ifs
    · rfl
    · exact keys key
  · rw [lookup_put, if_neg (Ne.symm plain.1)] at present
    exact shallow present _ (fewer _ given)
  · rw [lookup_put] at isOne isAnother
    split_ifs at isOne isAnother with same
    · cases isOne
      cases isAnother
      exact same ▸ .shown plain below
    · exact others same (each key one _ isOne isAnother)

/-- What a claim does below a chain of members: both documents have the chain, and what relates
the changed objects relates the documents. -/
theorem Indistinct.descend {first second node : Members}
    (related : Indistinct ((names.map some ++ rest) :: paths) (.obj first) (.obj second))
    (reached : childAt names first = some node) (more : rest ≠ [])
    (contains : Contains rest (.obj node)) :
    ∃ other, childAt names second = some other ∧
      Indistinct (rest :: paths.underAll names) (.obj node) (.obj other) ∧
      ∀ changed changedOther, Indistinct (paths.underAll names) (.obj changed) (.obj changedOther) →
        Indistinct paths (.obj (setChild names changed first))
          (.obj (setChild names changedOther second)) := by
  induction names generalizing paths first second with
  | nil =>
    cases reached
    exact ⟨second, rfl, related, fun _ _ below => below⟩
  | cons name names ih =>
    obtain ⟨child, found, reached⟩ := childAt_cons_eq_some.mp reached
    have inside : Contains (names.map some ++ rest) (.obj child) := by
      obtain ⟨part, others, rfl⟩ := List.exists_cons_of_ne_nil more
      cases part with
      | none => cases others <;> exact contains.elim
      | some last =>
        obtain ⟨value, stored, below⟩ := contains
        exact contains_append reached stored below
    obtain ⟨⟨⟩⟩ | _ | _ | ⟨keys, shallow, each⟩ := related
    obtain ⟨right, foundRight⟩ := exists_lookup_of_keys (keys name) found
    have member := each name _ _ found foundRight
    have plain := member.plain_of_obj
    have below := member.shown_of_contains plain
      (Paths.mem_under.mpr List.mem_cons_self) (by simp [more]) inside
    obtain ⟨childRight, rfl⟩ := below.obj_right
    rw [List.map_cons, List.cons_append, Paths.under_cons_self] at below
    obtain ⟨other, reachedOther, relatedNodes, extend⟩ := ih below reached
    refine ⟨other, childAt_cons_eq_some.mpr ⟨childRight, foundRight, reachedOther⟩,
      relatedNodes, fun changed changedOther relatedChanged => ?_⟩
    rw [setChild_cons found, setChild_cons foundRight]
    exact (Indistinct.members keys shallow each).putShown plain
      (fun _ => List.mem_cons_of_mem _) (fun differ => .of_other (Ne.symm differ))
      (extend _ _ relatedChanged)

theorem IndistinctMember.digests_of (related : IndistinctMember paths "_sd" left right) :
    ∃ first second : List String, left = .arr (first.map .str) ∧ right = .arr (second.map .str) ∧
      first.length = second.length := by
  generalize isName : "_sd" = name at related
  cases related with
  | digests length => exact ⟨_, _, rfl, rfl, length⟩
  | digest => exact absurd isName (by decide)
  | replaced plain | shown plain => exact absurd isName.symm plain.1

variable {digests others : List Json}

/-- The digests of related objects are as many. -/
theorem Indistinct.sdElements (related : Indistinct paths (.obj first) (.obj second))
    (before : sdElements first = some digests) (beforeOther : sdElements second = some others) :
    ∃ texts otherTexts : List String, digests = texts.map .str ∧ others = otherTexts.map .str ∧
      texts.length = otherTexts.length := by
  obtain ⟨⟨⟩⟩ | _ | _ | ⟨keys, shallow, each⟩ := related
  rw [Sdjwtvc.sdElements] at before beforeOther
  cases found : first.lookup "_sd" with
  | none =>
    rw [found] at before
    rw [(isSome_eq_isSome.mp (keys _)).mp found] at beforeOther
    cases before
    cases beforeOther
    exact ⟨[], [], rfl, rfl, rfl⟩
  | some left =>
    obtain ⟨right, foundRight⟩ := exists_lookup_of_keys (keys "_sd") found
    obtain ⟨texts, otherTexts, rfl, rfl, length⟩ :=
      (each "_sd" left right found foundRight).digests_of
    rw [found] at before
    rw [foundRight] at beforeOther
    cases before
    cases beforeOther
    exact ⟨texts, otherTexts, rfl, rfl, length⟩

/-- Hiding a member of related objects. -/
theorem Indistinct.hide {digest other : String}
    (related : Indistinct ([some name] :: paths) (.obj first) (.obj second))
    (before : Sdjwtvc.sdElements first = some digests)
    (beforeOther : Sdjwtvc.sdElements second = some others)
    (deepest : ∀ path ∈ paths, path.length ≤ 1) :
    Indistinct paths (.obj (put "_sd" (.arr (digests ++ [.str digest])) (without name first)))
      (.obj (put "_sd" (.arr (others ++ [.str other])) (without name second))) := by
  obtain ⟨texts, otherTexts, rfl, rfl, length⟩ := related.sdElements before beforeOther
  obtain ⟨⟨⟩⟩ | _ | _ | ⟨keys, shallow, each⟩ := related
  refine .members (fun key => ?_) (fun _ => deepest) fun key left right isLeft isRight => ?_
  · simp only [lookup_put, lookup_without]
    split_ifs
    · rfl
    · rfl
    · exact keys key
  · rw [lookup_put, lookup_without] at isLeft isRight
    by_cases isDigests : key = "_sd"
    · subst isDigests
      cases isLeft
      cases isRight
      have longer : IndistinctMember paths "_sd" (.arr ((texts ++ [digest]).map .str))
          (.arr ((otherTexts ++ [other]).map .str)) := .digests (by simp [length])
      simpa using longer
    · rw [if_neg isDigests] at isLeft isRight
      by_cases same : key = name
      · rw [if_pos same] at isLeft
        cases isLeft
      · rw [if_neg same] at isLeft isRight
        exact (each key _ _ isLeft isRight).of_other (Ne.symm same)

theorem indistinct_marker (first second : String) :
    Indistinct [] (marker first) (marker second) := by
  refine .members (fun key => ?_) (by simp) fun key left right isLeft isRight => ?_
  · simp only [lookup_cons]
    split_ifs <;> rfl
  · rw [lookup_cons] at isLeft isRight
    split_ifs at isLeft isRight with same
    · cases isLeft
      cases isRight
      exact same ▸ .digest
    · cases isLeft

/-- Hiding the elements of an array of related objects. -/
theorem Indistinct.hideElements {elements : List Json}
    (related : Indistinct ([some name, none] :: paths) (.obj first) (.obj second))
    (found : first.lookup name = some (.arr elements)) :
    ∃ others, second.lookup name = some (.arr others) ∧ elements.length = others.length ∧
      ∀ digests otherDigests : List String, digests.length = otherDigests.length →
        Indistinct paths (.obj (put name (.arr (digests.map marker)) first))
          (.obj (put name (.arr (otherDigests.map marker)) second)) := by
  obtain ⟨⟨⟩⟩ | _ | _ | ⟨keys, shallow, each⟩ := related
  obtain ⟨right, foundRight⟩ := exists_lookup_of_keys (keys name) found
  have member := each name _ _ found foundRight
  have plain : name ≠ "_sd" ∧ name ≠ "..." := by
    constructor
    · rintro rfl
      have short := shallow (by rw [found]; rfl) _ List.mem_cons_self
      exact absurd short (by simp)
    · exact member.ne_marker_of_arr
  have below := member.shown_of_contains plain (Paths.mem_under.mpr List.mem_cons_self)
    (List.cons_ne_nil _ _) trivial
  have isArray : ∃ others, right = .arr others ∧ elements.length = others.length := by
    cases below with
    | scalar scalar => exact scalar.elim
    | replaced _ length | elements length => exact ⟨_, rfl, length⟩
  obtain ⟨others, rfl, length⟩ := isArray
  refine ⟨others, foundRight, length, fun digests otherDigests sameLength => ?_⟩
  refine (Indistinct.members keys shallow each).putShown plain
    (fun _ => List.mem_cons_of_mem _) (fun differ => .of_other (Ne.symm differ))
    (.elements (by simp [sameLength]) fun index left right one other => ?_)
  rw [List.getElem?_map] at one other
  obtain ⟨digest, _, rfl⟩ := map_eq_some_iff.mp one
  obtain ⟨otherDigest, _, rfl⟩ := map_eq_some_iff.mp other
  exact indistinct_marker _ _

/-! ## All claims -/

/-- The paths that are always selectively disclosed. -/
def alwaysPaths (claims : List Claim) : Paths :=
  (claims.filter fun claim => claim.sd = "always" ∧ claim.path ≠ []).map Claim.path

section Lockstep

variable {codec : Codec} {random : Randomness} {method : HashMethod} {state after : Issuing}

theorem ClaimStep.of_member
    (step : ClaimStep codec random method state (names.map some ++ [some name]) after)
    (contains : Contains (names.map some ++ [some name]) (.obj state.data)) :
    ∃ node value digests, childAt names state.data = some node ∧
      Sdjwtvc.sdElements node = some digests ∧
      after.data = setChild names (hidden codec random method state.drawn name value digests node)
        state.data := by
  generalize isPath : names.map some ++ [some name] = path at step contains
  cases step with
  | absent missing => exact absurd contains missing
  | member reached found plain before =>
    obtain ⟨sameNames, sameName⟩ := List.append_inj' isPath rfl
    cases List.map_injective_iff.mpr (some_injective _) sameNames
    cases sameName
    exact ⟨_, _, _, reached, before, rfl⟩
  | @elements others other _ _ reached found =>
    have last := congrArg List.getLast? isPath
    simp at last

theorem ClaimStep.of_elements
    (step : ClaimStep codec random method state (names.map some ++ [some name, none]) after)
    (contains : Contains (names.map some ++ [some name, none]) (.obj state.data)) :
    ∃ node elements, childAt names state.data = some node ∧
      node.lookup name = some (.arr elements) ∧
      after.data = setChild names
        (put name (.arr (markers codec random method state.drawn elements)) node) state.data := by
  generalize isPath : names.map some ++ [some name, none] = path at step contains
  cases step with
  | absent missing => exact absurd contains missing
  | @member others other _ _ _ reached found plain before =>
    have last := congrArg List.getLast? isPath
    simp at last
  | elements reached found =>
    obtain ⟨sameNames, sameName⟩ := List.append_inj' isPath rfl
    cases List.map_injective_iff.mpr (some_injective _) sameNames
    cases sameName
    exact ⟨_, _, reached, found, rfl⟩

variable (codec random method) in
theorem markers_eq_map (drawn : Nat) (elements : List Json) :
    ∃ digests : List String, markers codec random method drawn elements = digests.map marker ∧
      digests.length = elements.length := by
  refine ⟨(elementDisclosures codec random drawn elements).map (codec.digest method), ?_, ?_⟩
  · rw [List.map_map]
    rfl
  · induction elements generalizing drawn with
    | nil => rfl
    | cons element rest ih =>
      simp [elementDisclosures, ih]

variable {other : Randomness} {first second afterFirst afterSecond : Issuing}

/-- A claim that is processed in both documents. -/
theorem Indistinct.claimStep
    (related : Indistinct (path :: paths) (.obj first.data) (.obj second.data))
    (nonempty : path ≠ []) (deepest : ∀ later ∈ paths, later.length ≤ path.length)
    (step : ClaimStep codec random method first path afterFirst)
    (stepOther : ClaimStep codec other method second path afterSecond) :
    Indistinct paths (.obj afterFirst.data) (.obj afterSecond.data) := by
  cases step with
  | absent missing =>
    have missingOther : ¬Contains path (.obj second.data) :=
      fun contains => missing (related.symm.contains List.mem_cons_self contains)
    have unchanged : afterSecond = second := by
      cases stepOther with
      | absent => rfl
      | member reached found | elements reached found =>
        exact (missingOther (contains_append reached found trivial)).elim
    rw [unchanged]
    refine related.restrict ⟨fun _ given => List.mem_cons_of_mem _ given,
      fun given member absent _ => ?_⟩
    rcases List.mem_cons.mp member with rfl | later
    · exact missing
    · exact absurd later absent
  | @member names name node value digests reached found plain before =>
    have contains : Contains (names.map some ++ [some name]) (.obj first.data) :=
      contains_append reached found trivial
    obtain ⟨otherNode, otherValue, otherDigests, reachedOther, beforeOther, isAfter⟩ :=
      stepOther.of_member (related.contains List.mem_cons_self contains)
    obtain ⟨_, reachedAgain, relatedNodes, extend⟩ :=
      related.descend reached (List.cons_ne_nil _ _) ⟨value, found, trivial⟩
    cases reachedOther.symm.trans reachedAgain
    rw [isAfter]
    refine extend _ _ (relatedNodes.hide before beforeOther fun rest given => ?_)
    have short := deepest _ (Paths.mem_underAll.mp given)
    simpa using short
  | @elements names name node elements reached found =>
    have contains : Contains (names.map some ++ [some name, none]) (.obj first.data) :=
      contains_append reached found trivial
    obtain ⟨otherNode, otherElements, reachedOther, foundOther, isAfter⟩ :=
      stepOther.of_elements (related.contains List.mem_cons_self contains)
    obtain ⟨_, reachedAgain, relatedNodes, extend⟩ :=
      related.descend reached (List.cons_ne_nil _ _) ⟨_, found, trivial⟩
    cases reachedOther.symm.trans reachedAgain
    obtain ⟨_, foundAgain, length, hide⟩ := relatedNodes.hideElements found
    cases foundOther.symm.trans foundAgain
    obtain ⟨texts, isMarkers, sameLength⟩ :=
      markers_eq_map codec random method first.drawn elements
    obtain ⟨otherTexts, isOtherMarkers, sameOtherLength⟩ :=
      markers_eq_map codec other method second.drawn otherElements
    rw [isAfter, isMarkers, isOtherMarkers]
    exact extend _ _ (hide _ _ (by omega))

variable {claims : List Claim} {claim : Claim}

theorem alwaysPaths_cons_of_not (never : ¬(claim.sd = "always" ∧ claim.path ≠ [])) :
    alwaysPaths (claim :: claims) = alwaysPaths claims := by
  rw [alwaysPaths, List.filter_cons_of_neg (by simpa using never), alwaysPaths]

theorem alwaysPaths_cons (always : claim.sd = "always" ∧ claim.path ≠ []) :
    alwaysPaths (claim :: claims) = claim.path :: alwaysPaths claims := by
  rw [alwaysPaths, List.filter_cons_of_pos (by simpa using always), List.map_cons, alwaysPaths]

theorem mem_alwaysPaths :
    path ∈ alwaysPaths claims ↔
      ∃ claim ∈ claims, (claim.sd = "always" ∧ claim.path ≠ []) ∧ claim.path = path := by
  simp [alwaysPaths, and_assoc]

/-- The loops over the claims run in lockstep. -/
theorem indistinct_processClaims (shown : ∀ parts, disclosureText codec parts ≠ "")
    (sorted : claims.Pairwise fun first second => second.path.length ≤ first.path.length)
    (formed : WellFormed (.obj first.data)) (formedOther : WellFormed (.obj second.data))
    (related : Indistinct (alwaysPaths claims) (.obj first.data) (.obj second.data))
    (done : processClaims codec random method claims first = .ok afterFirst)
    (doneOther : processClaims codec other method claims second = .ok afterSecond) :
    Indistinct [] (.obj afterFirst.data) (.obj afterSecond.data) ∧
      WellFormed (.obj afterFirst.data) ∧ WellFormed (.obj afterSecond.data) := by
  induction claims generalizing first second with
  | nil =>
    cases done
    cases doneOther
    exact ⟨related, formed, formedOther⟩
  | cons claim rest ih =>
    obtain ⟨deepest, sortedRest⟩ := List.pairwise_cons.mp sorted
    rw [processClaims, List.foldlM_cons, bind_eq_ok_iff] at done doneOther
    obtain ⟨middle, stepped, done⟩ := done
    obtain ⟨middleOther, steppedOther, doneOther⟩ := doneOther
    obtain ⟨never, rfl⟩ | ⟨always, step⟩ := processClaim_eq_ok shown formed stepped
    · obtain ⟨_, rfl⟩ | ⟨always, _⟩ := processClaim_eq_ok shown formedOther steppedOther
      · rw [alwaysPaths_cons_of_not never] at related
        exact ih sortedRest formed formedOther related done doneOther
      · exact absurd always never
    · obtain ⟨never, _⟩ | ⟨_, stepOther⟩ := processClaim_eq_ok shown formedOther steppedOther
      · exact absurd always never
      · rw [alwaysPaths_cons always] at related
        refine ih sortedRest (step.wellFormed formed) (stepOther.wellFormed formedOther)
          (related.claimStep always.2 (fun path given => ?_) step stepOther) done doneOther
        obtain ⟨later, member, _, rfl⟩ := mem_alwaysPaths.mp given
        exact deepest _ member

end Lockstep

end Vc.Sdjwtvc
