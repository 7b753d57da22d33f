/-!
# Splitting texts
-/

namespace PricePublisher.Text

/-- The parts of a text between the occurrences of a separator. -/
def splitAtEach (separator : Char) : List Char → List (List Char)
  | [] => [[]]
  | character :: rest =>
      match splitAtEach separator rest with
      | [] => [[character]]
      | part :: parts =>
          if character = separator then [] :: part :: parts
          else (character :: part) :: parts

/-- The text before and after the first occurrence of a separator, if there is one. -/
def splitAtFirst? (separator : Char) : List Char → Option (List Char × List Char)
  | [] => none
  | character :: rest =>
      if character = separator then some ([], rest)
      else
        (splitAtFirst? separator rest).map fun (before, after) =>
          (character :: before, after)

/-- The text before and after the last occurrence of a separator, if there is one. -/
def splitAtLast? (separator : Char) (text : List Char) : Option (List Char × List Char) :=
  (splitAtFirst? separator text.reverse).map fun (before, after) =>
    (after.reverse, before.reverse)

end PricePublisher.Text
