import PricePublisher.Bytes.Basic

/-!
# Tokens of YAML texts

Tokens mark where documents, collections, entries, keys and values start and
end, also where only the layout of the text says so.
-/

namespace PricePublisher.Yaml

/-- How a scalar is written. -/
inductive ScalarStyle where
  | plain
  | quoted
  | literal
  | folded
deriving DecidableEq, Repr

/-- A tag, which may hold any bytes because they may be written by their numbers. -/
abbrev Tag := Bytes

/-- A handle that stands for the front of a tag, and the rest of the tag. -/
structure TagName where
  handle : String
  suffix : Tag
deriving DecidableEq, Repr

/-- A token. -/
inductive Token where
  | versionDirective (major minor : Nat)
  | tagDirective (handle : String) (front : Tag)
  | documentStart
  | documentEnd
  | blockSequenceStart
  | blockMappingStart
  | blockEnd
  | flowSequenceStart
  | flowSequenceEnd
  | flowMappingStart
  | flowMappingEnd
  | blockEntry
  | flowEntry
  | key
  | value
  | alias (name : String)
  | anchor (name : String)
  | tag (name : TagName)
  | scalar (style : ScalarStyle) (text : String)
  | textEnd
deriving DecidableEq, Repr

end PricePublisher.Yaml
