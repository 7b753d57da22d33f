import PricePublisher.Yaml.Layout
import PricePublisher.Yaml.Node

/-!
# Documents

The tokens of a text are read as one document.  Where a text is malformed, the
entries of its outermost mapping before that place are kept.
-/

namespace PricePublisher.Yaml

variable {α : Type}

/-- What is left to read, and the anchors so far. -/
structure Progress where
  tokens : List Token
  anchors : Anchors

/-- A part of the reading, whose progress is kept also where it fails. -/
abbrev Reading (α : Type) := OptionT (StateM Progress) α

/-- The fronts of tags that handles stand for. -/
abbrev Handles := List (String × Tag)

/-- The handles that need no directive. -/
def standardHandles : Handles :=
  [("!", Bytes.ofText "!"), ("!!", Bytes.ofText "tag:yaml.org,2002:")]

/-- What may stand before a node. -/
structure Properties where
  anchor : Option String
  tag : Option Tag

/-- Where a node stands, which decides what it may be. -/
inductive Place where
  /-- Between brackets. -/
  | flow
  /-- In a block. -/
  | block
  /-- In a block mapping, where a sequence needs no indentation. -/
  | blockMapping
deriving DecidableEq

/-- The directives before a document: whether there is a version, and the handles. -/
structure Directives where
  hasVersion : Bool
  handles : Handles

/-- Whether there are any directives. -/
def Directives.areGiven (directives : Directives) : Bool :=
  directives.hasVersion || !directives.handles.isEmpty

namespace Reading

/-- The next token, which is left to read. -/
def peek : Reading Token := do
  match (← get).tokens with
  | [] => failure
  | token :: _ => return token

/-- Pass over the next token. -/
def pass : Reading Unit :=
  modify fun progress => { progress with tokens := progress.tokens.drop 1 }

/-- Take the next token. -/
def next : Reading Token := do
  let token ← peek
  pass
  return token

/-- Read something that is, or is part of, a node with the given anchor. -/
def anchored (anchor : Option String) (nodeOf : α → Node) (content : Reading α) : Reading α := do
  match anchor with
  | none => content
  | some name =>
      let place := (← get).anchors.nodes.length
      modify fun progress => { progress with anchors := progress.anchors.start name }
      let found ← content
      modify fun progress =>
        { progress with anchors := progress.anchors.settle place (nodeOf found) }
      return found

/--
Read as many items as there are.  The items before a failure are kept, with the
news that they are not all.
-/
def collect (item? : Bool → Reading (Option α)) : Nat → Bool → StateM Progress (List α × Bool)
  | 0, _ => return ([], false)
  | steps + 1, isFirst => do
      match ← (item? isFirst).run with
      | none => return ([], false)
      | some none => return ([], true)
      | some (some item) => do
          let (items, isAll) ← collect item? steps false
          return (item :: items, isAll)

/-- Read items, each of which takes at least one token; tell whether these are all. -/
def items (item? : Bool → Reading (Option α)) : Reading (List α × Bool) := do
  collect item? ((← get).tokens.length + 1) true

/-- Read items to the last one. -/
def allItems (item? : Bool → Reading (Option α)) : Reading (List α) := do
  let (found, isAll) ← items item?
  if isAll then return found else failure

/-- The whole tag that a handle and a suffix stand for. -/
def wholeTag (handles : Handles) (name : TagName) : Reading Tag := do
  if name.handle.isEmpty then return name.suffix
  else
    match handles.lookup name.handle with
    | none => failure
    | some front => return front ++ name.suffix

/-- Read what stands before a node: an anchor, a tag or both. -/
def properties (handles : Handles) : Reading Properties := do
  match ← peek with
  | .anchor anchor =>
      pass
      match ← peek with
      | .tag name =>
          pass
          return ⟨some anchor, some (← wholeTag handles name)⟩
      | _ => return ⟨some anchor, none⟩
  | .tag name =>
      pass
      match ← peek with
      | .anchor anchor =>
          pass
          return ⟨some anchor, some (← wholeTag handles name)⟩
      | _ => return ⟨none, some (← wholeTag handles name)⟩
  | _ => return ⟨none, none⟩

/-- Read a scalar. -/
def scalar (properties : Properties) (style : ScalarStyle) (text : String) : Reading Node :=
  anchored properties.anchor id (return .scalar properties.tag style text)

/-- A node that is not written, but has an anchor or a tag. -/
def unwritten (properties : Properties) : Reading Node :=
  if properties.anchor.isSome || properties.tag.isSome then scalar properties .plain ""
  else failure

/-- Read a sequence. -/
def sequence (properties : Properties) (item? : Bool → Reading (Option Node)) : Reading Node :=
  anchored properties.anchor id (.sequence <$> allItems item?)

/-- Read a mapping. -/
def mapping (properties : Properties) (pair? : Bool → Reading (Option (Node × Node))) :
    Reading Node :=
  anchored properties.anchor id (.mapping <$> allItems pair?)

/-- Whether a token ends an item of a block sequence. -/
def endsBlockItem : Token → Bool
  | .blockEntry | .blockEnd => true
  | _ => false

/-- Whether a token ends a key or value of a block mapping. -/
def endsBlockPart : Token → Bool
  | .key | .value | .blockEnd => true
  | _ => false

/-- Whether a token ends an item of a sequence without indentation. -/
def endsIndentless : Token → Bool
  | .key | .value | .blockEntry | .blockEnd => true
  | _ => false

mutual

/-- Read a node. -/
def node (handles : Handles) : Nat → Place → Reading Node
  | 0, _ => failure
  | steps + 1, place => do
      match ← peek with
      | .alias name =>
          pass
          match (← get).anchors.number? name with
          | none => failure
          | some number => return .alias number
      | _ => content handles steps place (← properties handles)

/-- Read a node that is no alias, after its anchor and tag. -/
def content (handles : Handles) : Nat → Place → Properties → Reading Node
  | 0, _, _ => failure
  | steps + 1, place, properties => do
      match ← peek with
      | .scalar style text =>
          pass
          scalar properties style text
      | .flowSequenceStart =>
          pass
          sequence properties (flowItem? handles steps)
      | .flowMappingStart =>
          pass
          mapping properties (flowPair? handles steps)
      | .blockSequenceStart =>
          if place == .flow then unwritten properties
          else do
            pass
            sequence properties fun _ => blockItem? handles steps
      | .blockMappingStart =>
          if place == .flow then unwritten properties
          else do
            pass
            mapping properties fun _ => blockPair? handles steps
      | .blockEntry =>
          if place == .blockMapping then
            sequence properties fun _ => indentlessItem? handles steps
          else unwritten properties
      | _ => unwritten properties

/-- Read an item of a block sequence. -/
def blockItem? (handles : Handles) : Nat → Reading (Option Node)
  | 0 => failure
  | steps + 1 => do
      match ← next with
      | .blockEnd => return none
      | .blockEntry =>
          if endsBlockItem (← peek) then return some (.unwritten none)
          else return some (← node handles steps .block)
      | _ => failure

/-- Read an item of a sequence that is not indented. -/
def indentlessItem? (handles : Handles) : Nat → Reading (Option Node)
  | 0 => failure
  | steps + 1 => do
      match ← peek with
      | .blockEntry =>
          pass
          if endsIndentless (← peek) then return some (.unwritten none)
          else return some (← node handles steps .block)
      | _ => return none

/-- Read an entry of a block mapping. -/
def blockPair? (handles : Handles) : Nat → Reading (Option (Node × Node))
  | 0 => failure
  | steps + 1 => do
      match ← next with
      | .blockEnd => return none
      | .key =>
          let key ← blockPart handles steps
          match ← peek with
          | .value =>
              pass
              return some (key, ← blockPart handles steps)
          | _ => return some (key, .unwritten none)
      | _ => failure

/-- Read a key or value of a block mapping, which need not be written. -/
def blockPart (handles : Handles) : Nat → Reading Node
  | 0 => failure
  | steps + 1 => do
      if endsBlockPart (← peek) then return .unwritten none
      else node handles steps .blockMapping

/-- Read an item of a sequence in brackets; all but the first follow a comma. -/
def flowItem? (handles : Handles) : Nat → Bool → Reading (Option Node)
  | 0, _ => failure
  | steps + 1, isFirst => do
      if (← peek) == .flowSequenceEnd then
        pass
        return none
      else
        unless isFirst do
          if (← next) != .flowEntry then failure
        match ← peek with
        | .flowSequenceEnd =>
            pass
            return none
        | .key =>
            pass
            let key ← flowPairKey handles steps
            return some (.mapping [(key, ← flowValue handles steps .flowSequenceEnd)])
        | _ => return some (← node handles steps .flow)

/-- Read the key of a single entry in a sequence; one that is not written takes a token. -/
def flowPairKey (handles : Handles) : Nat → Reading Node
  | 0 => failure
  | steps + 1 => do
      let token ← peek
      if token == .value || token == .flowEntry || token == .flowSequenceEnd then
        pass
        return .unwritten none
      else node handles steps .flow

/-- Read the value of an entry in brackets, which need not be written. -/
def flowValue (handles : Handles) : Nat → Token → Reading Node
  | 0, _ => failure
  | steps + 1, closing => do
      match ← peek with
      | .value =>
          pass
          let token ← peek
          if token == .flowEntry || token == closing then return .unwritten none
          else node handles steps .flow
      | _ => return .unwritten none

/-- Read an entry of a mapping in brackets; all but the first follow a comma. -/
def flowPair? (handles : Handles) : Nat → Bool → Reading (Option (Node × Node))
  | 0, _ => failure
  | steps + 1, isFirst => do
      if (← peek) == .flowMappingEnd then
        pass
        return none
      else
        unless isFirst do
          if (← next) != .flowEntry then failure
        match ← peek with
        | .flowMappingEnd =>
            pass
            return none
        | .key =>
            pass
            let token ← peek
            let key ←
              if token == .value || token == .flowEntry || token == .flowMappingEnd then
                pure (.unwritten none)
              else node handles steps .flow
            return some (key, ← flowValue handles steps .flowMappingEnd)
        | _ =>
            let key ← node handles steps .flow
            let _ ← peek
            return some (key, .unwritten none)

end

/-- Read the outermost node: all of it or, of a mapping, the entries before a failure. -/
def outermost (handles : Handles) : Reading (Node × Bool) := do
  let steps := 4 * (← get).tokens.length + 4
  let properties ← properties handles
  let mapping (pair? : Bool → Reading (Option (Node × Node))) : Reading (Node × Bool) :=
    anchored properties.anchor Prod.fst do
      let (entries, isAll) ← items pair?
      return (.mapping entries, isAll)
  match ← peek with
  | .flowMappingStart =>
      pass
      mapping (flowPair? handles steps)
  | .blockMappingStart =>
      pass
      mapping fun _ => blockPair? handles steps
  | _ => return (← content handles steps .block properties, true)

/-- Read directives; none may be repeated, and the version must be a known one. -/
def directives (found : Directives) : Nat → Reading Directives
  | 0 => failure
  | steps + 1 => do
      match ← peek with
      | .versionDirective major minor =>
          pass
          if found.hasVersion || major != 1 || !(minor == 1 || minor == 2) then failure
          else directives { found with hasVersion := true } steps
      | .tagDirective handle front =>
          pass
          if Keyed.contains found.handles handle then failure
          else directives { found with handles := (handle, front) :: found.handles } steps
      | _ => return found

/-- Whether a token ends the content of a document. -/
def endsContent : Token → Bool
  | .versionDirective .. | .tagDirective .. | .documentStart | .documentEnd | .textEnd => true
  | _ => false

/-- Read the outermost node of the document, if there is a document. -/
def firstDocument : Reading (Option Node × Bool) := do
  if (← peek) == .textEnd then return (none, true)
  else
    let directives ← directives ⟨false, []⟩ ((← get).tokens.length + 1)
    let handles := directives.handles ++ standardHandles
    let isMarked := (← peek) == .documentStart
    if isMarked then pass
    if isMarked && endsContent (← peek) then return (some (.unwritten none), true)
    else if directives.areGiven && !isMarked then failure
    else
      let (root, isAll) ← outermost handles
      return (some root, isAll)

end Reading

/-- A document, as far as it can be read. -/
structure Document where
  /-- The outermost node, if there is one. -/
  root : Option Node
  anchors : Anchors
  /-- Whether this is all of the text. -/
  isComplete : Bool

/-- The only document of a text. -/
def document (text : String) : Document :=
  let (found, progress) := Reading.firstDocument.run ⟨tokens text, .empty⟩
  let (root, isAll) := found.getD (none, false)
  let isOver := progress.tokens.dropWhile (· == .documentEnd) == [.textEnd]
  ⟨root, progress.anchors, isAll && isOver⟩

end PricePublisher.Yaml
