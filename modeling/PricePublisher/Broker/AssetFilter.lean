import PricePublisher.Wire.SignedUpdate

/-!
# Asset filters

A broker takes the updates of a set of assets.  A set that holds the wildcard
takes the updates of all.  The assets of a filter are kept in rising order,
each once.
-/

namespace PricePublisher

/-- The assets that a broker takes, in rising order. -/
structure AssetFilter where
  assets : List String
deriving DecidableEq, Repr

namespace AssetFilter

/-- The name that stands for all assets. -/
def wildcard : String := "*"

/-- The filter without assets. -/
def empty : AssetFilter := ⟨[]⟩

/-- Put an asset at its place in rising order. -/
def insertAsset (asset : String) : List String → List String
  | [] => [asset]
  | other :: rest =>
      if asset < other then asset :: other :: rest
      else if asset = other then other :: rest
      else other :: insertAsset asset rest

/-- Take an asset in. -/
def insert (filter : AssetFilter) (asset : String) : AssetFilter :=
  ⟨insertAsset asset filter.assets⟩

/-- Take assets in. -/
def extend (filter : AssetFilter) (assets : List String) : AssetFilter :=
  assets.foldl insert filter

/-- The filter of some assets. -/
def ofList (assets : List String) : AssetFilter :=
  empty.extend assets

/-- Whether a filter takes the updates of an asset. -/
def accepts (filter : AssetFilter) (asset : String) : Bool :=
  filter.assets.contains wildcard || filter.assets.contains asset

/-- The entries of a batch whose assets are taken. -/
def select (filter : AssetFilter) (batch : SignedBatch) : SignedBatch :=
  batch.filter fun entry => filter.accepts entry.1

end AssetFilter

end PricePublisher
