import Mathlib.Data.List.Induction
import PricePublisher.Proofs.Keyed
import PricePublisher.Registry.Response

/-!
# Merged rows select what the rows select together

A broker's subscription may be spread over any number of rows of the registry.  The merged
filter selects of each batch what the rows of the broker select one by one, all put
together: no row is lost to another of the same address, and none takes in more beside
another.  A filter holds its assets in rising order, so filters of the same assets are
equal, and the rows may come in any order.
-/

namespace PricePublisher

/-! ## Filters as sets of assets -/

namespace AssetFilter

/-- The assets strictly rise. -/
def Rising (filter : AssetFilter) : Prop :=
  filter.assets.Pairwise (· < ·)

theorem mem_insertAsset {asset other : String} {assets : List String} :
    other ∈ insertAsset asset assets ↔ other = asset ∨ other ∈ assets := by
  induction assets with
  | nil => simp [insertAsset]
  | cons head rest induction =>
      rw [insertAsset]
      split
      next => exact List.mem_cons
      next =>
        split
        next equal => simp [equal]
        next =>
          rw [List.mem_cons, List.mem_cons, induction]
          exact or_left_comm

theorem pairwise_insertAsset {assets : List String} (rising : assets.Pairwise (· < ·))
    (asset : String) : (insertAsset asset assets).Pairwise (· < ·) := by
  induction assets with
  | nil => exact List.pairwise_singleton _ _
  | cons head rest induction =>
      have ⟨headLess, restRising⟩ := List.pairwise_cons.mp rising
      rw [insertAsset]
      split
      next less =>
        refine List.pairwise_cons.mpr ⟨?_, rising⟩
        intro other member
        rcases List.mem_cons.mp member with rfl | later
        · exact less
        · exact less.trans (headLess other later)
      next notLess =>
        split
        next => exact rising
        next different =>
          refine List.pairwise_cons.mpr ⟨?_, induction restRising⟩
          intro other member
          rcases mem_insertAsset.mp member with rfl | later
          · exact lt_of_le_of_ne (not_lt.mp notLess) (Ne.symm different)
          · exact headLess other later

theorem mem_extend {filter : AssetFilter} {assets : List String} {asset : String} :
    asset ∈ (filter.extend assets).assets ↔ asset ∈ filter.assets ∨ asset ∈ assets := by
  induction assets generalizing filter with
  | nil => simp [extend]
  | cons head rest induction =>
      change asset ∈ ((filter.insert head).extend rest).assets ↔ _
      rw [induction, insert, mem_insertAsset, List.mem_cons, or_comm (a := asset = head), or_assoc]

theorem Rising.extend {filter : AssetFilter} (rising : filter.Rising) (assets : List String) :
    (filter.extend assets).Rising := by
  induction assets generalizing filter with
  | nil => exact rising
  | cons head rest induction => exact induction (pairwise_insertAsset rising head)

theorem extend_append (filter : AssetFilter) (first second : List String) :
    filter.extend (first ++ second) = (filter.extend first).extend second :=
  List.foldl_append

theorem mem_ofList {assets : List String} {asset : String} :
    asset ∈ (ofList assets).assets ↔ asset ∈ assets := by
  rw [ofList, mem_extend, empty]
  simp

theorem rising_ofList (assets : List String) : (ofList assets).Rising :=
  Rising.extend List.Pairwise.nil assets

/-- Filters with the same assets are equal. -/
theorem Rising.ext {left right : AssetFilter} (leftRising : left.Rising)
    (rightRising : right.Rising) (same : ∀ asset, asset ∈ left.assets ↔ asset ∈ right.assets) :
    left = right := by
  have leftDistinct : left.assets.Nodup := leftRising.imp fun less => ne_of_lt less
  have rightDistinct : right.assets.Nodup := rightRising.imp fun less => ne_of_lt less
  have permuted := (List.perm_ext_iff_of_nodup leftDistinct rightDistinct).mpr same
  have equal : left.assets = right.assets := by
    refine permuted.eq_of_pairwise ?_ leftRising rightRising
    intro first second _ _ less greater
    exact absurd (less.trans greater) (lt_irrefl _)
  cases left
  cases right
  exact congrArg mk equal

/-- The order of assets, and how often each is named, do not matter. -/
theorem ofList_eq_of_mem_iff {left right : List String}
    (same : ∀ asset, asset ∈ left ↔ asset ∈ right) : ofList left = ofList right := by
  refine (rising_ofList left).ext (rising_ofList right) ?_
  intro asset
  rw [mem_ofList, mem_ofList, same]

theorem accepts_ofList {assets : List String} {asset : String} :
    (ofList assets).accepts asset = true ↔ wildcard ∈ assets ∨ asset ∈ assets := by
  rw [accepts, Bool.or_eq_true, List.contains_iff_mem, List.contains_iff_mem, mem_ofList,
    mem_ofList]

theorem mem_select {filter : AssetFilter} {batch : SignedBatch}
    {entry : String × SignedUpdate} :
    entry ∈ filter.select batch ↔ entry ∈ batch ∧ filter.accepts entry.1 = true :=
  List.mem_filter

end AssetFilter

/-! ## The merged filters -/

/-- What a row selects of a batch on its own. -/
def BrokerRow.selection (row : BrokerRow) (batch : SignedBatch) : SignedBatch :=
  (AssetFilter.ofList row.assets).select batch

theorem BrokerRow.selection_of_wildcard {row : BrokerRow}
    (everything : AssetFilter.wildcard ∈ row.assets) (batch : SignedBatch) :
    row.selection batch = batch := by
  rw [selection, AssetFilter.select, List.filter_eq_self]
  intro entry member
  exact AssetFilter.accepts_ofList.mpr (.inl everything)

namespace Registry

/-- The rows of an address. -/
def rowsOf (rows : List BrokerRow) (url : String) : List BrokerRow :=
  rows.filter fun row => row.url == url

/-- The assets that the rows of an address name. -/
def assetsOf (rows : List BrokerRow) (url : String) : List String :=
  (rowsOf rows url).flatMap BrokerRow.assets

variable {rows : List BrokerRow} {url : String} {filter : AssetFilter} {batch : SignedBatch}

theorem mem_rowsOf {row : BrokerRow} : row ∈ rowsOf rows url ↔ row ∈ rows ∧ row.url = url := by
  rw [rowsOf, List.mem_filter, beq_iff_eq]

theorem mergeRows_concat (rows : List BrokerRow) (row : BrokerRow) :
    mergeRows (rows ++ [row]) = addRow (mergeRows rows) row := by
  rw [mergeRows, List.foldl_append]
  rfl

theorem ascending_mergeRows (rows : List BrokerRow) : Keyed.Ascending (mergeRows rows) := by
  induction rows using List.reverseRecOn with
  | nil => exact Keyed.ascending_nil
  | append_singleton rows row induction =>
      rw [mergeRows_concat]
      exact induction.insert _ _

/-- An address has the filter of all assets that its rows name, if it has any rows. -/
theorem get?_mergeRows (rows : List BrokerRow) (url : String) :
    Keyed.get? (mergeRows rows) url =
      if rowsOf rows url = [] then none else some (.ofList (assetsOf rows url)) := by
  induction rows using List.reverseRecOn with
  | nil => rfl
  | append_singleton rows row induction =>
      rw [mergeRows_concat, addRow, Keyed.get?_insert]
      split
      next own =>
        subst own
        -- An address without rows has the filter of no assets, which is the empty one.
        have before : (Keyed.get? (mergeRows rows) row.url).getD .empty =
            .ofList (assetsOf rows row.url) := by
          rw [induction, assetsOf]
          split
          next none => rw [none]; rfl
          next => rfl
        have added : rowsOf (rows ++ [row]) row.url = rowsOf rows row.url ++ [row] := by
          simp [rowsOf]
        have assets : assetsOf (rows ++ [row]) row.url = assetsOf rows row.url ++ row.assets := by
          rw [assetsOf, added, List.flatMap_append, List.flatMap_singleton]
          rfl
        have filled : rowsOf rows row.url ++ [row] ≠ [] :=
          List.append_ne_nil_of_right_ne_nil _ (List.cons_ne_nil row [])
        rw [before, added, assets, if_neg filled, AssetFilter.ofList, AssetFilter.ofList,
          AssetFilter.extend_append]
      next different =>
        have skipped : rowsOf (rows ++ [row]) url = rowsOf rows url := by
          simp [rowsOf, Ne.symm different]
        rw [induction, assetsOf, assetsOf, skipped]

theorem contains_mergeRows :
    Keyed.contains (mergeRows rows) url = true ↔ ∃ row ∈ rows, row.url = url := by
  rw [Keyed.contains_eq_isSome, get?_mergeRows]
  split
  next none =>
    refine ⟨nofun, ?_⟩
    rintro ⟨row, member, own⟩
    exact absurd (none ▸ mem_rowsOf.mpr ⟨member, own⟩) List.not_mem_nil
  next some =>
    obtain ⟨row, own⟩ := List.exists_mem_of_ne_nil _ some
    exact ⟨fun _ => ⟨row, mem_rowsOf.mp own⟩, fun _ => rfl⟩

theorem eq_ofList_of_get?_mergeRows (merged : Keyed.get? (mergeRows rows) url = some filter) :
    filter = .ofList (assetsOf rows url) := by
  rw [get?_mergeRows] at merged
  split at merged
  next => cases merged
  next => exact (Option.some.inj merged).symm

/-- Rows may be merged in any order. -/
theorem mergeRows_eq_of_perm {left right : List BrokerRow} (permuted : left.Perm right) :
    mergeRows left = mergeRows right := by
  refine (ascending_mergeRows left).ext (ascending_mergeRows right) fun url => ?_
  have own : (rowsOf left url).Perm (rowsOf right url) := permuted.filter _
  have assets : AssetFilter.ofList (assetsOf left url) = .ofList (assetsOf right url) :=
    AssetFilter.ofList_eq_of_mem_iff fun asset => (own.flatMap_right _).mem_iff
  rw [get?_mergeRows, get?_mergeRows, assets]
  simp only [← List.length_eq_zero_iff, own.length_eq]

/-- A merged filter takes what one of the rows takes. -/
theorem accepts_merged (merged : Keyed.get? (mergeRows rows) url = some filter)
    (asset : String) :
    filter.accepts asset = true ↔
      ∃ row ∈ rowsOf rows url, (AssetFilter.ofList row.assets).accepts asset = true := by
  rw [eq_ofList_of_get?_mergeRows merged, AssetFilter.accepts_ofList, assetsOf,
    List.mem_flatMap, List.mem_flatMap, ← exists_or]
  refine exists_congr fun row => ?_
  rw [AssetFilter.accepts_ofList, and_or_left]

theorem mem_select_merged (merged : Keyed.get? (mergeRows rows) url = some filter)
    (batch : SignedBatch) (entry : String × SignedUpdate) :
    entry ∈ filter.select batch ↔
      entry ∈ (rowsOf rows url).flatMap fun row => row.selection batch := by
  rw [AssetFilter.mem_select, accepts_merged merged, List.mem_flatMap]
  constructor
  · rintro ⟨member, row, own, accepted⟩
    exact ⟨row, own, AssetFilter.mem_select.mpr ⟨member, accepted⟩⟩
  · rintro ⟨row, own, selected⟩
    obtain ⟨member, accepted⟩ := AssetFilter.mem_select.mp selected
    exact ⟨member, row, own, accepted⟩

/--
Merged rows have exactly the addresses of the rows, in whatever order the rows come.  Of a
batch the filter of an address selects the union of what the rows of the address select on
their own, each selected update is the batch's own under its asset, and a row that names
the wildcard selects the batch as it is.
-/
theorem mergeRows_selects_union (rows : List BrokerRow) {batch : SignedBatch}
    (canonical : Keyed.Ascending batch) :
    Keyed.Ascending (mergeRows rows) ∧
    (∀ url, Keyed.contains (mergeRows rows) url = true ↔ ∃ row ∈ rows, row.url = url) ∧
    (∀ permuted, permuted.Perm rows → mergeRows permuted = mergeRows rows) ∧
    (∀ url filter, Keyed.get? (mergeRows rows) url = some filter →
      filter.select batch =
          Keyed.ofList ((rowsOf rows url).flatMap fun row => row.selection batch) ∧
        ∀ asset update, Keyed.get? (filter.select batch) asset = some update →
          Keyed.get? batch asset = some update) ∧
    ∀ row ∈ rows, AssetFilter.wildcard ∈ row.assets → row.selection batch = batch := by
  refine ⟨ascending_mergeRows rows, fun url => contains_mergeRows,
    fun permuted => mergeRows_eq_of_perm, ?_,
    fun row _ everything => row.selection_of_wildcard everything batch⟩
  intro url filter merged
  have selected : Keyed.Ascending (filter.select batch) := canonical.filter _
  have union : Keyed.Ascending
      (Keyed.ofList ((rowsOf rows url).flatMap fun row => row.selection batch)) :=
    Keyed.ascending_nil.foldl_insert id _
  have own : ∀ asset update, Keyed.get? (filter.select batch) asset = some update →
      Keyed.get? batch asset = some update := by
    intro asset update found
    exact canonical.mem_iff.mp (List.mem_of_mem_filter (Keyed.mem_of_get? found))
  refine ⟨selected.ext union fun asset => Option.ext fun update => ?_, own⟩
  have agree : ∀ entry ∈ (rowsOf rows url).flatMap fun row => row.selection batch,
      Keyed.get? batch entry.1 = some entry.2 := by
    intro entry member
    exact canonical.mem_iff.mp
      (List.mem_of_mem_filter ((mem_select_merged merged batch entry).mpr member))
  rw [Keyed.get?_ofList_iff agree, ← mem_select_merged merged, selected.mem_iff]

/-- Rows with an address in three places, one without assets and one with the wildcard. -/
def mixedRows : List BrokerRow :=
  [⟨"wss://first.example", ["BTC"]⟩, ⟨"wss://second.example", ["*", "BTC"]⟩,
    ⟨"wss://first.example", []⟩, ⟨"wss://second.example", ["SOL"]⟩,
    ⟨"wss://first.example", ["ETH", "BTC"]⟩]

/-- A signed price of an asset. -/
def unitPrice (asset : String) : SignedUpdate where
  oracle := "oracle"
  asset := asset
  trigger := .clock
  signedPrice := {
    publisherKey := "key"
    externalAsset := asset
    scheme := .stark
    price := ⟨"1"⟩
    timestampedSignature := ⟨.stark "r" "s", 0, "hash"⟩
    metadata := none }

/-- A batch of three assets, of which the rows name two and a fourth. -/
def threeAssets : SignedBatch :=
  [("BTC", unitPrice "BTC"), ("DOGE", unitPrice "DOGE"), ("ETH", unitPrice "ETH")]

theorem mergeRows_selects_union_mixed :
    Keyed.Ascending threeAssets ∧
      mergeRows mixedRows.reverse = mergeRows mixedRows ∧
      Keyed.get? (mergeRows mixedRows) "wss://first.example" = some ⟨["BTC", "ETH"]⟩ ∧
      (⟨["BTC", "ETH"]⟩ : AssetFilter).select threeAssets =
        Keyed.ofList ((rowsOf mixedRows "wss://first.example").flatMap fun row =>
          row.selection threeAssets) ∧
      (⟨"wss://second.example", ["*", "BTC"]⟩ : BrokerRow).selection threeAssets =
        threeAssets := by
  have canonical : Keyed.Ascending threeAssets := by
    rw [Keyed.Ascending]
    decide +kernel
  have merged : Keyed.get? (mergeRows mixedRows) "wss://first.example" =
      some ⟨["BTC", "ETH"]⟩ := by decide +kernel
  obtain ⟨-, -, unordered, unions, everything⟩ := mergeRows_selects_union mixedRows canonical
  exact ⟨canonical, unordered _ (List.reverse_perm mixedRows), merged,
    (unions _ _ merged).1, everything _ (by simp [mixedRows]) (by decide)⟩

end Registry

end PricePublisher
