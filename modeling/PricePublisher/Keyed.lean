/-!
# Keyed lists

A keyed list holds values under texts, in rising order of the texts, and at
most one value under each.  All operations keep that order, so two keyed lists
with the same entries are equal.
-/

namespace PricePublisher.Keyed

variable {α β : Type}

/-- Put a value under a key, in place of one that is already there. -/
def insert (key : String) (value : α) : List (String × α) → List (String × α)
  | [] => [(key, value)]
  | (other, held) :: rest =>
      if key < other then (key, value) :: (other, held) :: rest
      else if key = other then (key, value) :: rest
      else (other, held) :: insert key value rest

/-- The value under a key. -/
def get? (entries : List (String × α)) (key : String) : Option α :=
  entries.lookup key

/-- Whether there is a value under a key. -/
def contains (entries : List (String × α)) (key : String) : Bool :=
  entries.any fun entry => entry.1 == key

/-- Remove the value under a key. -/
def erase (key : String) (entries : List (String × α)) : List (String × α) :=
  entries.filter fun entry => entry.1 != key

/-- The keyed list of some entries, of which the last under one key counts. -/
def ofList (entries : List (String × α)) : List (String × α) :=
  entries.foldl (fun held entry => insert entry.1 entry.2 held) []

/-- The keys, in rising order. -/
def keys (entries : List (String × α)) : List String :=
  entries.map Prod.fst

/-- Apply a function to each value. -/
def mapValues (change : α → β) (entries : List (String × α)) : List (String × β) :=
  entries.map fun (key, value) => (key, change value)

end PricePublisher.Keyed
