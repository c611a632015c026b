import Vc.Data.Checks

/-!
# Association lists in increasing order of their keys

A finite map is kept as the list of its entries in strictly increasing order of
the keys, so that two maps with the same entries are the same list.  The
operations keep the order, and `Ordered.ext` turns a question about two lists
into one about their lookups.
-/

namespace Vc.Entries

open List Option Prod

variable {κ α β : Type}

/-! ## Partial functions on the values -/

/-- Apply a partial function to every value; it has to answer everywhere. -/
def mapValues? (f : α → Option β) (entries : List (κ × α)) : Option (List (κ × β)) :=
  entries.mapM fun entry => (f entry.2).map (entry.1, ·)

section MapValues

variable {f g : α → Option β} {values : List α} {images : List β} {value : α}
  {entries : List (κ × α)}

theorem mapM_eq_some_iff :
    values.mapM f = some images ↔
      Forall₂ (fun value image => f value = some image) values images := by
  induction values generalizing images with
  | nil => simp [eq_comm]
  | cons value rest ih =>
    simp only [mapM_cons, forall₂_cons_left_iff, ← ih,
      Option.bind_eq_bind, Option.pure_def, Option.bind_eq_some_iff, Option.some.injEq]
    constructor
    · rintro ⟨image, answered, restImages, restAnswered, rfl⟩
      exact ⟨image, restImages, answered, restAnswered, rfl⟩
    · rintro ⟨image, restImages, answered, restAnswered, rfl⟩
      exact ⟨image, answered, restImages, restAnswered, rfl⟩

theorem exists_mem_of_mapM
    (answered : values.mapM f = some images) {image : β} (member : image ∈ images) :
    ∃ value ∈ values, f value = some image :=
  Checks.exists_left_of_mem (mapM_eq_some_iff.mp answered) member

theorem mapM_map_of_back {f : β → Option α} {g : α → β} (back : ∀ value, f (g value) = some value)
    (values : List α) : (values.map g).mapM f = some values := by
  induction values with
  | nil => rfl
  | cons first rest ih =>
    rw [map_cons, mapM_cons, back, ih]
    rfl

variable {image : List (κ × β)}

theorem mapValues?_eq_some_iff :
    mapValues? f entries = some image ↔
      Forall₂ (fun entry result => result.1 = entry.1 ∧ f entry.2 = some result.2)
        entries image := by
  have pairs : ∀ (entry : κ × α) (result : κ × β),
      (f entry.2).map (entry.1, ·) = some result ↔
        result.1 = entry.1 ∧ f entry.2 = some result.2 := by
    rintro ⟨key, value⟩ ⟨resultKey, result⟩
    simp only [map_eq_some_iff, mk.injEq]
    constructor
    · rintro ⟨_, answered, rfl, rfl⟩
      exact ⟨rfl, answered⟩
    · rintro ⟨rfl, answered⟩
      exact ⟨result, answered, rfl, rfl⟩
  rw [mapValues?, mapM_eq_some_iff]
  exact ⟨fun related => related.imp fun _ _ => (pairs _ _).mp,
    fun related => related.imp fun _ _ => (pairs _ _).mpr⟩

theorem mapValues?_mono (answers : ∀ value result, f value = some result → g value = some result)
    (answered : mapValues? f entries = some image) : mapValues? g entries = some image := by
  rw [mapValues?_eq_some_iff] at answered ⊢
  exact answered.imp fun _ _ => And.imp_right (answers _ _)

section

variable (answered : mapValues? f entries = some image)

include answered

theorem keys_mapValues? : image.map fst = entries.map fst := by
  induction mapValues?_eq_some_iff.mp answered with
  | nil => rfl
  | cons here rest ih =>
    simp [here.1, ih (mapValues?_eq_some_iff.mpr rest)]

theorem exists_mem_of_mapValues? {result : κ × β} (member : result ∈ image) :
    ∃ entry ∈ entries, f entry.2 = some result.2 := by
  obtain ⟨entry, inEntries, found⟩ := exists_mem_of_mapM answered member
  obtain ⟨value, answers, rfl⟩ := map_eq_some_iff.mp found
  exact ⟨entry, inEntries, answers⟩

end

end MapValues

/-! ## Maps in order -/

variable [LinearOrder κ]

/-- The keys strictly increase; in particular no key is repeated. -/
def Ordered (entries : List (κ × α)) : Prop :=
  entries.Pairwise fun first second => first.1 < second.1

instance (entries : List (κ × α)) : Decidable (Ordered entries) :=
  inferInstanceAs (Decidable (entries.Pairwise fun first second => first.1 < second.1))

def put (key : κ) (value : α) : List (κ × α) → List (κ × α)
  | [] => [(key, value)]
  | (first, old) :: rest =>
    if key < first then (key, value) :: (first, old) :: rest
    else if key = first then (key, value) :: rest
    else (first, old) :: put key value rest

def without (key : κ) (entries : List (κ × α)) : List (κ × α) :=
  entries.filter fun entry => entry.1 ≠ key

/-! ## Lookups -/

theorem lookup_cons (key first : κ) (value : α) (rest : List (κ × α)) :
    lookup key ((first, value) :: rest) =
      if key = first then some value else lookup key rest := by
  by_cases equal : key = first
  · subst equal
    simp
  · rw [List.lookup_cons, if_neg equal, beq_eq_false_iff_ne.mpr equal]

variable {entries : List (κ × α)} {value : α} {key : κ}

theorem mem_of_lookup (found : entries.lookup key = some value) : (key, value) ∈ entries := by
  induction entries with
  | nil => simp at found
  | cons entry rest ih =>
    rw [lookup_cons] at found
    split at found
    · next equal =>
        cases found
        exact equal ▸ mem_cons_self
    · exact mem_cons_of_mem _ (ih found)

theorem lookup_of_mem_of_nodup
    (nodup : (entries.map (·.1)).Nodup) (member : (key, value) ∈ entries) :
    entries.lookup key = some value := by
  induction entries with
  | nil => simp at member
  | cons entry rest ih =>
    obtain ⟨fresh, nodupRest⟩ := nodup_cons.mp nodup
    rw [lookup_cons]
    rcases mem_cons.mp member with equal | inRest
    · simp [← equal]
    · have different : key ≠ entry.1 := by
        rintro rfl
        exact fresh (mem_map.mpr ⟨_, inRest, rfl⟩)
      rw [if_neg different, ih nodupRest inRest]

theorem lookup_eq_some_iff_of_nodup (nodup : (entries.map (·.1)).Nodup) :
    entries.lookup key = some value ↔ (key, value) ∈ entries :=
  ⟨mem_of_lookup, lookup_of_mem_of_nodup nodup⟩

/-- Among items with distinct keys, a search from the end finds each of them. -/
theorem find?_reverse_of_nodup {keyOf : α → κ} {items : List α} (nodup : (items.map keyOf).Nodup)
    {item : α} (member : item ∈ items) :
    items.reverse.find? (fun other => keyOf other = keyOf item) = some item := by
  cases search : items.reverse.find? fun other => keyOf other = keyOf item with
  | none => simpa using find?_eq_none.mp search _ (mem_reverse.mpr member)
  | some other =>
    have present := mem_reverse.mp (mem_of_find?_eq_some search)
    exact congrArg _ (inj_on_of_nodup_map nodup present member (by simpa using find?_some search))

theorem Ordered.nodup_keys (ordered : Ordered entries) : (entries.map (·.1)).Nodup :=
  pairwise_map.mpr (ordered.imp fun smaller => smaller.ne)

theorem Ordered.lookup_eq_some_iff (ordered : Ordered entries) :
    entries.lookup key = some value ↔ (key, value) ∈ entries :=
  lookup_eq_some_iff_of_nodup ordered.nodup_keys

@[simp]
theorem lookup_put (key other : κ) (value : α) (entries : List (κ × α)) :
    (put key value entries).lookup other =
      if other = key then some value else entries.lookup other := by
  induction entries with
  | nil => simp [put, lookup_cons]
  | cons entry rest ih =>
    obtain ⟨first, old⟩ := entry
    simp only [put]
    split
    · simp [lookup_cons]
    · split
      · next equal =>
          subst equal
          simp only [lookup_cons]
          split <;> rfl
      · next notLess notEqual =>
          simp only [lookup_cons, ih]
          by_cases here : other = first
          · simp [here, Ne.symm notEqual]
          · simp [here]

theorem lookup_eq_none_of_fresh (fresh : key ∉ entries.map fst) : entries.lookup key = none := by
  refine lookup_eq_none_iff.mpr fun other member => ?_
  simpa using fun same => fresh (mem_map.mpr ⟨other, member, same.symm⟩)

theorem lookup_map_entries (f : κ → α → β) (entries : List (κ × α)) (key : κ) :
    (entries.map fun entry => (entry.1, f entry.1 entry.2)).lookup key =
      (entries.lookup key).map (f key) := by
  induction entries with
  | nil => rfl
  | cons entry rest ih =>
    rw [map_cons, lookup_cons, lookup_cons, ih]
    split_ifs with here
    · rw [here, map_some]
    · rfl

theorem lookup_map_values (f : α → β) (entries : List (κ × α)) (key : κ) :
    (entries.map fun entry => (entry.1, f entry.2)).lookup key = (entries.lookup key).map f :=
  lookup_map_entries (fun _ => f) _ key

/-- Of the values that are set for a key one after the other, the last one counts. -/
theorem lookup_foldl_put {ι : Type} (keyOf : ι → κ) (valueOf : ι → α) (items : List ι)
    (entries : List (κ × α)) (key : κ) :
    (items.foldl (fun entries item => put (keyOf item) (valueOf item) entries) entries).lookup key =
      ((items.reverse.find? fun item => keyOf item = key).map valueOf).or (entries.lookup key) := by
  induction items generalizing entries with
  | nil => rfl
  | cons item rest ih =>
    rw [foldl_cons, ih, reverse_cons, find?_append]
    cases rest.reverse.find? fun item => keyOf item = key with
    | some found => rfl
    | none =>
      by_cases here : keyOf item = key
      · simp [here]
      · simp [here, Ne.symm here]

@[simp]
theorem lookup_without (key other : κ) (entries : List (κ × α)) :
    (without key entries).lookup other =
      if other = key then none else entries.lookup other := by
  induction entries with
  | nil => simp [without]
  | cons entry rest ih =>
    obtain ⟨first, old⟩ := entry
    simp only [without] at ih ⊢
    by_cases removed : first = key
    · rw [filter_cons_of_neg (by simpa using removed), lookup_cons, removed, ih]
      split <;> rfl
    · rw [filter_cons_of_pos (by simpa using removed), lookup_cons, lookup_cons, ih]
      by_cases here : other = first
      · simp [here, removed]
      · simp [here]

theorem without_of_fresh (fresh : key ∉ entries.map fst) : without key entries = entries :=
  filter_eq_self.mpr fun entry member =>
    decide_eq_true fun same => fresh (mem_map.mpr ⟨entry, member, same⟩)

/-! ## Order -/

theorem mem_put {entry : κ × α}
    (member : entry ∈ put key value entries) : entry = (key, value) ∨ entry ∈ entries := by
  induction entries with
  | nil => exact .inl (mem_singleton.mp member)
  | cons first rest ih =>
    simp only [put] at member
    split at member
    · exact mem_cons.mp member
    · split at member
      · exact (mem_cons.mp member).imp_right (mem_cons_of_mem _)
      · rcases mem_cons.mp member with rfl | old
        · exact .inr mem_cons_self
        · exact (ih old).imp_right (mem_cons_of_mem _)

theorem Ordered.put (ordered : Ordered entries) (key : κ) (value : α) :
    Ordered (put key value entries) := by
  induction entries with
  | nil => exact pairwise_singleton _ _
  | cons first rest ih =>
    obtain ⟨smaller, orderedRest⟩ := pairwise_cons.mp ordered
    simp only [Entries.put]
    split
    · next less =>
        refine pairwise_cons.mpr ⟨fun entry member => ?_, ordered⟩
        rcases mem_cons.mp member with rfl | inRest
        · exact less
        · exact less.trans (smaller _ inRest)
    · split
      · next equal =>
          exact pairwise_cons.mpr ⟨fun entry member => equal ▸ smaller _ member, orderedRest⟩
      · next notLess notEqual =>
          refine pairwise_cons.mpr ⟨fun entry member => ?_, ih orderedRest⟩
          rcases mem_put member with equal | old
          · exact equal ▸ lt_of_le_of_ne (not_lt.mp notLess) (Ne.symm notEqual)
          · exact smaller _ old

theorem Ordered.without (ordered : Ordered entries) (key : κ) : Ordered (without key entries) :=
  Pairwise.filter _ ordered

/-- Maps with the same lookups are the same list. -/
theorem Ordered.ext {first second : List (κ × α)} (orderedFirst : Ordered first)
    (orderedSecond : Ordered second) (same : ∀ key, first.lookup key = second.lookup key) :
    first = second := by
  have members : ∀ entry, entry ∈ first ↔ entry ∈ second := fun entry => by
    rw [← orderedFirst.lookup_eq_some_iff, ← orderedSecond.lookup_eq_some_iff, same]
  have antisymm : ∀ left right : κ × α, left ∈ first → right ∈ second →
      left.1 < right.1 → right.1 < left.1 → left = right :=
    fun _ _ _ _ less greater => absurd greater less.asymm
  have nodup : ∀ {entries : List (κ × α)}, Ordered entries → entries.Nodup := fun ordered =>
    ordered.imp fun less equal => less.ne (congrArg fst equal)
  exact ((perm_ext_iff_of_nodup (nodup orderedFirst) (nodup orderedSecond)).mpr members)
    |>.eq_of_pairwise antisymm orderedFirst orderedSecond

/-- Setting a key to the value it has changes nothing. -/
theorem Ordered.put_of_lookup
    (ordered : Ordered entries) (found : entries.lookup key = some value) :
    Entries.put key value entries = entries :=
  (ordered.put key _).ext ordered fun other => by
    rw [lookup_put]
    split
    · next same => rw [same, found]
    · rfl

theorem lookup_mapValues? {f : α → Option β} {image : List (κ × β)}
    (answered : mapValues? f entries = some image) (key : κ) :
    (entries.lookup key).map f = (image.lookup key).map some := by
  induction mapValues?_eq_some_iff.mp answered with
  | nil => rfl
  | @cons entry result _ _ here rest ih =>
    obtain ⟨_, image⟩ := result
    obtain ⟨rfl, found⟩ := here
    rw [lookup_cons, lookup_cons]
    split
    · simp [found]
    · exact ih (mapValues?_eq_some_iff.mpr rest)

end Vc.Entries
