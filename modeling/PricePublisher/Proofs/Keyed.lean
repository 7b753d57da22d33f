import Mathlib.Data.List.Induction
import Mathlib.Data.List.Nodup
import Mathlib.Data.String.Basic
import PricePublisher.Keyed

/-!
# The theory of keyed lists

A keyed list is canonical when its keys strictly rise.  This module shows that
insertion and removal keep keyed lists canonical, and describes both through
look-ups alone.  Canonical lists with the same look-ups are equal, so no later
argument about the maps of the publisher has to look at the order of entries.
-/

namespace PricePublisher.Keyed

variable {α β : Type}

/-- The keys strictly rise. -/
def Ascending (entries : List (String × α)) : Prop :=
  entries.Pairwise fun left right => left.1 < right.1

theorem ascending_nil : Ascending ([] : List (String × α)) :=
  List.Pairwise.nil

/-! ## Looking up what was inserted or erased -/

@[simp]
theorem get?_nil (key : String) :
    get? ([] : List (String × α)) key = none :=
  rfl

theorem get?_cons
    (entry : String × α) (entries : List (String × α)) (key : String) :
    get? (entry :: entries) key =
      if key = entry.1 then some entry.2 else get? entries key := by
  rcases entry with ⟨other, held⟩
  by_cases equal : key = other
  · simp [get?, equal]
  · have different : (key == other) = false := beq_eq_false_iff_ne.mpr equal
    simp [get?, List.lookup_cons, equal, different]

/-- Insertion changes what is found under one key. -/
theorem get?_insert
    (key other : String) (value : α) (entries : List (String × α)) :
    get? (insert key value entries) other =
      if other = key then some value else get? entries other := by
  induction entries with
  | nil => simp [insert, get?_cons]
  | cons entry rest induction =>
      rcases entry with ⟨head, held⟩
      by_cases less : key < head
      · simp [insert, less, get?_cons]
      · by_cases equal : key = head
        · subst head
          by_cases same : other = key <;>
            simp [insert, get?_cons, same]
        · by_cases same : other = head
          · have distinct : head ≠ key := Ne.symm equal
            simp [insert, less, equal, get?_cons, same, distinct]
          · simp [insert, less, equal, get?_cons, same, induction]

@[simp]
theorem get?_insert_self
    (key : String) (value : α) (entries : List (String × α)) :
    get? (insert key value entries) key = some value := by
  simp [get?_insert]

/-- Removal changes what is found under one key. -/
theorem get?_erase
    (key other : String) (entries : List (String × α)) :
    get? (erase key entries) other =
      if other = key then none else get? entries other := by
  induction entries with
  | nil => simp [erase]
  | cons entry rest induction =>
      rcases entry with ⟨head, held⟩
      unfold erase at induction ⊢
      by_cases removed : head = key
      · subst head
        by_cases same : other = key <;>
          simp_all [get?_cons]
      · by_cases same : other = head
        · subst head
          simp [get?_cons, removed]
        · simp [get?_cons, removed, same, induction]

theorem mem_of_get?
    {key : String} {value : α} {entries : List (String × α)}
    (found : get? entries key = some value) :
    (key, value) ∈ entries := by
  induction entries with
  | nil => simp at found
  | cons entry rest induction =>
      rcases entry with ⟨head, held⟩
      rw [get?_cons] at found
      by_cases equal : key = head
      · simp only [equal, if_true, Option.some.injEq] at found
        simp [equal, found]
      · rw [if_neg equal] at found
        exact List.mem_cons_of_mem _ (induction found)

theorem get?_eq_none_iff
    {key : String} {entries : List (String × α)} :
    get? entries key = none ↔ ∀ entry ∈ entries, key ≠ entry.1 := by
  simp [get?, List.lookup_eq_none_iff]

theorem contains_eq_isSome
    (entries : List (String × α)) (key : String) :
    contains entries key = (get? entries key).isSome := by
  induction entries with
  | nil => rfl
  | cons entry rest induction =>
      rw [get?_cons]
      unfold contains at induction ⊢
      by_cases equal : key = entry.1
      · simp [equal]
      · have different : (entry.1 == key) = false :=
          beq_eq_false_iff_ne.mpr (Ne.symm equal)
        simp [equal, different, induction]

theorem contains_iff_exists
    {key : String} {entries : List (String × α)} :
    contains entries key = true ↔ ∃ value, get? entries key = some value := by
  rw [contains_eq_isSome, Option.isSome_iff_exists]

theorem contains_eq_false_iff
    {key : String} {entries : List (String × α)} :
    contains entries key = false ↔ get? entries key = none := by
  rw [contains_eq_isSome, Option.isSome_eq_false_iff, Option.isNone_iff_eq_none]

theorem contains_iff_mem_keys
    {key : String} {entries : List (String × α)} :
    contains entries key = true ↔ key ∈ keys entries := by
  simp [contains, keys]

/-! ## Canonical lists -/

/-- Whatever is in a list after an insertion was inserted or was there before. -/
theorem mem_insert
    {key : String} {value : α} {entries : List (String × α)}
    {entry : String × α}
    (member : entry ∈ insert key value entries) :
    entry = (key, value) ∨ entry ∈ entries := by
  induction entries with
  | nil => exact Or.inl (by simpa [insert] using member)
  | cons head rest induction =>
      rcases head with ⟨other, held⟩
      unfold insert at member
      split at member
      · rcases List.mem_cons.mp member with fresh | old
        · exact Or.inl fresh
        · exact Or.inr old
      · split at member
        · rcases List.mem_cons.mp member with fresh | old
          · exact Or.inl fresh
          · exact Or.inr (List.mem_cons_of_mem _ old)
        · rcases List.mem_cons.mp member with same | inner
          · exact Or.inr (same ▸ List.mem_cons_self)
          · rcases induction inner with fresh | old
            · exact Or.inl fresh
            · exact Or.inr (List.mem_cons_of_mem _ old)

/-- An insertion adds at most one entry. -/
theorem length_insert_le
    (key : String) (value : α) (entries : List (String × α)) :
    (insert key value entries).length ≤ entries.length + 1 := by
  induction entries with
  | nil => exact Nat.le_refl _
  | cons head rest induction =>
      rcases head with ⟨other, held⟩
      unfold insert
      split
      · exact Nat.le_refl _
      · split
        · exact Nat.le_succ _
        · exact Nat.succ_le_succ induction

theorem Ascending.insert
    {entries : List (String × α)} (ascending : Ascending entries)
    (key : String) (value : α) :
    Ascending (insert key value entries) := by
  induction entries with
  | nil => simp [Keyed.insert, Ascending]
  | cons head rest induction =>
      rcases head with ⟨other, held⟩
      obtain ⟨headLess, tailAscending⟩ := List.pairwise_cons.mp ascending
      unfold Keyed.insert
      split
      next less =>
        refine List.pairwise_cons.mpr ⟨?_, ascending⟩
        intro entry member
        rcases List.mem_cons.mp member with same | later
        · exact same ▸ less
        · exact less.trans (headLess entry later)
      next notLess =>
        split
        next equal =>
          subst equal
          exact List.pairwise_cons.mpr ⟨headLess, tailAscending⟩
        next different =>
          refine List.pairwise_cons.mpr ⟨?_, induction tailAscending⟩
          intro entry member
          rcases mem_insert member with fresh | old
          · have greater : other < key :=
              lt_of_le_of_ne (not_lt.mp notLess) (Ne.symm different)
            exact fresh ▸ greater
          · exact headLess entry old

theorem Ascending.filter
    {entries : List (String × α)} (ascending : Ascending entries)
    (keep : String × α → Bool) :
    Ascending (entries.filter keep) :=
  List.Pairwise.filter keep ascending

theorem Ascending.erase
    {entries : List (String × α)} (ascending : Ascending entries)
    (key : String) :
    Ascending (erase key entries) :=
  ascending.filter _

theorem Ascending.keys_rising
    {entries : List (String × α)} (ascending : Ascending entries) :
    (keys entries).Pairwise (· < ·) :=
  List.pairwise_map.mpr ascending

theorem Ascending.keys_nodup
    {entries : List (String × α)} (ascending : Ascending entries) :
    (keys entries).Nodup :=
  ascending.keys_rising.imp fun less => ne_of_lt less

/-- Canonical lists that hold something under the same keys have the same keys. -/
theorem Ascending.keys_eq
    {left : List (String × α)} {right : List (String × β)}
    (leftAscending : Ascending left) (rightAscending : Ascending right)
    (same : ∀ key, contains left key = contains right key) :
    keys left = keys right := by
  have permuted : (keys left).Perm (keys right) := by
    refine (List.perm_ext_iff_of_nodup leftAscending.keys_nodup
      rightAscending.keys_nodup).mpr fun key => ?_
    rw [← contains_iff_mem_keys, ← contains_iff_mem_keys, same]
  refine permuted.eq_of_pairwise ?_ leftAscending.keys_rising rightAscending.keys_rising
  intro first second _ _ less greater
  exact absurd (less.trans greater) (lt_irrefl _)

theorem Ascending.nodup
    {entries : List (String × α)} (ascending : Ascending entries) :
    entries.Nodup :=
  ascending.keys_nodup.of_map Prod.fst

/-- Where no key repeats, an entry is found under its key. -/
theorem mem_iff_get?
    {entries : List (String × α)} (distinct : (keys entries).Nodup)
    {key : String} {value : α} :
    (key, value) ∈ entries ↔ get? entries key = some value := by
  constructor
  · intro member
    induction entries with
    | nil => simp at member
    | cons head rest induction =>
        obtain ⟨headFresh, restDistinct⟩ := List.nodup_cons.mp distinct
        rw [get?_cons]
        rcases List.mem_cons.mp member with same | later
        · subst same
          simp
        · have different : key ≠ head.1 := by
            intro equal
            exact headFresh (equal ▸ List.mem_map_of_mem later)
          rw [if_neg different]
          exact induction restDistinct later
  · exact mem_of_get?

/-- What is found does not depend on the order of the entries. -/
theorem get?_eq_of_perm
    {left right : List (String × α)} (permuted : left.Perm right)
    (distinct : (keys right).Nodup) (key : String) :
    get? left key = get? right key := by
  have leftDistinct : (keys left).Nodup :=
    (permuted.map Prod.fst).nodup_iff.mpr distinct
  apply Option.ext
  intro value
  rw [← mem_iff_get? leftDistinct, ← mem_iff_get? distinct, permuted.mem_iff]

theorem Ascending.mem_iff
    {entries : List (String × α)} (ascending : Ascending entries)
    {key : String} {value : α} :
    (key, value) ∈ entries ↔ get? entries key = some value :=
  mem_iff_get? ascending.keys_nodup

/-- Canonical lists in which the same is found under every key are equal. -/
theorem Ascending.ext
    {left right : List (String × α)}
    (leftAscending : Ascending left) (rightAscending : Ascending right)
    (same : ∀ key, get? left key = get? right key) :
    left = right := by
  have members : ∀ entry, entry ∈ left ↔ entry ∈ right := by
    rintro ⟨key, value⟩
    rw [leftAscending.mem_iff, rightAscending.mem_iff, same]
  have permuted : left.Perm right :=
    (List.perm_ext_iff_of_nodup leftAscending.nodup rightAscending.nodup).mpr
      members
  refine permuted.eq_of_pairwise ?_ leftAscending rightAscending
  intro first second _ _ less greater
  exact absurd (less.trans greater) (lt_irrefl _)

/-- An insertion puts one entry in place of what was under its key. -/
theorem Ascending.insert_perm
    {entries : List (String × α)} (ascending : Ascending entries)
    (key : String) (value : α) :
    (Keyed.insert key value entries).Perm ((key, value) :: Keyed.erase key entries) := by
  have erased := ascending.erase key
  have fresh : (key, value) ∉ Keyed.erase key entries := by
    rw [erased.mem_iff, get?_erase]
    simp
  refine (List.perm_ext_iff_of_nodup (ascending.insert key value).nodup
    (List.nodup_cons.mpr ⟨fresh, erased.nodup⟩)).mpr ?_
  rintro ⟨other, held⟩
  rw [(ascending.insert key value).mem_iff, List.mem_cons, erased.mem_iff,
    get?_insert, get?_erase]
  by_cases same : other = key
  · simp [same, eq_comm]
  · simp [same]

/-- What is under a key and what is not make up a canonical list. -/
theorem Ascending.perm_erase
    {entries : List (String × α)} (ascending : Ascending entries)
    (key : String) :
    entries.Perm
      ((get? entries key).toList.map (fun value => (key, value)) ++
        Keyed.erase key entries) := by
  have erased := ascending.erase key
  cases found : get? entries key with
  | none =>
      have untouched : Keyed.erase key entries = entries :=
        erased.ext ascending fun other => by
          rw [get?_erase]
          by_cases same : other = key
          · simp [same, found]
          · simp [same]
      simp [untouched]
  | some value =>
      have restored : Keyed.insert key value entries = entries :=
        (ascending.insert key value).ext ascending fun other => by
          rw [get?_insert]
          by_cases same : other = key
          · simp [same, found]
          · simp [same]
      have replaced := ascending.insert_perm key value
      rw [restored] at replaced
      simpa using replaced

/-- Inserting entries with distinct keys changes what is found under those keys. -/
theorem get?_foldl_insert
    {entries : List (String × α)} (distinct : (keys entries).Nodup)
    (change : α → β) (held : List (String × β)) (key : String) :
    get? (entries.foldl
        (fun held entry => Keyed.insert entry.1 (change entry.2) held) held) key =
      ((get? entries key).map change).or (get? held key) := by
  induction entries generalizing held with
  | nil => rfl
  | cons entry rest induction =>
      obtain ⟨fresh, restDistinct⟩ := List.nodup_cons.mp distinct
      rw [List.foldl_cons, induction restDistinct, get?_insert, get?_cons]
      by_cases equal : key = entry.1
      · have absent : get? rest key = none := by
          rw [get?_eq_none_iff]
          intro other member same
          exact fresh (equal ▸ same ▸ List.mem_map_of_mem member)
        simp [equal ▸ absent, equal]
      · simp [equal]

theorem Ascending.foldl_insert
    {held : List (String × β)} (ascending : Ascending held)
    (change : α → β) (entries : List (String × α)) :
    Ascending (entries.foldl
      (fun held entry => Keyed.insert entry.1 (change entry.2) held) held) := by
  induction entries generalizing held with
  | nil => exact ascending
  | cons entry rest induction =>
      exact induction (ascending.insert entry.1 (change entry.2))

/-- Entries with distinct keys can be inserted in any order. -/
theorem Ascending.foldl_insert_eq_of_perm
    {held : List (String × β)} (ascending : Ascending held)
    {left right : List (String × α)} (permuted : left.Perm right)
    (distinct : (keys right).Nodup) (change : α → β) :
    left.foldl
        (fun held entry => Keyed.insert entry.1 (change entry.2) held) held =
      right.foldl
        (fun held entry => Keyed.insert entry.1 (change entry.2) held) held := by
  have leftDistinct : (keys left).Nodup :=
    (permuted.map Prod.fst).nodup_iff.mpr distinct
  refine (ascending.foldl_insert change left).ext
    (ascending.foldl_insert change right) ?_
  intro key
  rw [get?_foldl_insert leftDistinct, get?_foldl_insert distinct,
    get?_eq_of_perm permuted distinct]

/-- A canonical list is the list of its entries, whatever order they come in. -/
theorem Ascending.ofList_eq_of_perm
    {entries given : List (String × α)} (ascending : Ascending entries)
    (permuted : given.Perm entries) :
    ofList given = entries := by
  have rebuilt : Ascending (ofList entries) := ascending_nil.foldl_insert id entries
  have unordered : ofList given = ofList entries :=
    ascending_nil.foldl_insert_eq_of_perm permuted ascending.keys_nodup id
  rw [unordered]
  refine rebuilt.ext ascending fun key => ?_
  have found := get?_foldl_insert ascending.keys_nodup id [] key
  rw [get?_nil, Option.or_none, Option.map_id] at found
  exact found

theorem Ascending.ofList_eq
    {entries : List (String × α)} (ascending : Ascending entries) :
    ofList entries = entries :=
  ascending.ofList_eq_of_perm (.refl entries)

/-- Entries that never disagree are all found again, whatever order they come in. -/
theorem get?_ofList_iff {given entries : List (String × α)}
    (agree : ∀ entry ∈ given, get? entries entry.1 = some entry.2) {key : String} {value : α} :
    get? (ofList given) key = some value ↔ (key, value) ∈ given := by
  induction given using List.reverseRecOn with
  | nil => simp [ofList]
  | append_singleton given last induction =>
      have before := induction fun entry member =>
        agree entry (List.mem_append_left _ member)
      have lastAgrees := agree last (List.mem_append_right _ List.mem_cons_self)
      rw [ofList, List.foldl_append, List.foldl_cons, List.foldl_nil, get?_insert, ← ofList,
        List.mem_append, List.mem_singleton]
      split
      next own =>
        subst own
        constructor
        · rintro ⟨⟩
          exact .inr rfl
        · rintro (earlier | same)
          · have found := agree _ (List.mem_append_left _ earlier)
            exact lastAgrees.symm.trans found
          · exact congrArg (some ·.2) same.symm
      next other =>
        rw [before]
        refine ⟨.inl, ?_⟩
        rintro (earlier | rfl)
        · exact earlier
        · exact absurd rfl other

end PricePublisher.Keyed
