import PricePublisher.Settings.Scalar
import PricePublisher.Signing.Signature
import PricePublisher.Time.DurationReader
import PricePublisher.Yaml.Document

/-!
# Files of settings

Settings and keys are kept in two files.  Every field may be left out, fields of
other names are ignored, and an empty file leaves out all fields.

The entries of a file are taken in one after the other, and the first that
cannot be taken in decides what is wrong.  A place where the file is malformed
counts behind all entries before it.
-/

namespace PricePublisher.Settings

open Yaml

/-- Why a file could not be read as settings. -/
inductive FileError where
  /-- The text is no document with the expected fields. -/
  | malformed
  /-- A duration runs over the longest one. -/
  | durationOverflow
deriving DecidableEq, Repr

/-- Settings as they are written. -/
structure SettingsFile where
  schemes : List SignatureScheme := []
  clockPeriod : Option Duration := none
  deltaCheckPeriod : Option Duration := none
  /-- Percent from 0 to 100. -/
  changeThresholdPercent : Option Float := none
  registryUrl : Option String := none
  registryRefreshInterval : Option Duration := none
  brokerReconnectDelay : Option Duration := none
  metadataUrl : Option String := none
  metadataRefreshInterval : Option Duration := none
  pullUrl : Option String := none
  pullSubscription : Option String := none
  pullReconnectDelay : Option Duration := none
  pullReadTimeout : Option Duration := none
  signEveryUpdate : Bool := false
  incomingPort : Nat := 0
  healthPort : Nat := 0

/-- Keys as they are written. -/
structure KeysFile where
  evmPrivateKey : Option String := none
  evmPublicKey : Option String := none
  starkPrivateKey : Option String := none
  starkPublicKey : Option String := none
  oracle : Option String := none
  pullAuth : Option String := none
  registryAuth : Option String := none
deriving DecidableEq

/-- A field of a file: its name, and how a node is taken in as its value. -/
structure Field (File : Type) where
  name : String
  take : Anchors → Node → File → Except FileError File

namespace Field

variable {File α : Type}

/-- A field whose value is read by the given reader. -/
def ofReader (name : String) (read? : Anchors → NodeReader α) (set : α → File → File) :
    Field File where
  name := name
  take := fun anchors node file =>
    match read? anchors node with
    | none => .error .malformed
    | some value => .ok (set value file)

/-- A field with a text that may be absent. -/
def text (name : String) (set : Option String → File → File) : Field File :=
  ofReader name (fun _ => optional? text?) set

/-- The duration that a text stands for, which may be absent or blank. -/
def durationOfText : Option String → Except FileError (Option Duration)
  | none => .ok none
  | some text =>
      if Text.isBlankText text then .ok none
      else
        match Duration.ofText text with
        | .ok duration => .ok (some duration)
        | .error .carryOverflow => .error .durationOverflow
        | .error _ => .error .malformed

/-- A field with a duration that may be absent or blank. -/
def duration (name : String) (set : Option Duration → File → File) : Field File where
  name := name
  take := fun _ node file =>
    match optional? text? node with
    | none => .error .malformed
    | some text => (durationOfText text).map fun duration => set duration file

/-- Take in entries in their order; none of the fields may occur twice. -/
def takeAll (fields : List (Field File)) (anchors : Anchors) (seen : List String) (file : File) :
    List (Node × Node) → Except FileError File
  | [] => .ok file
  | (key, value) :: rest =>
      match anchors.target? key >>= text? with
      | none => .error .malformed
      | some name =>
          match fields.find? fun field => field.name == name with
          | none => takeAll fields anchors seen file rest
          | some field =>
              if seen.contains name then .error .malformed
              else
                match anchors.target? value with
                | none => .error .malformed
                | some node => do
                    takeAll fields anchors (name :: seen) (← field.take anchors node file) rest

/-- Read a file, given its fields and what it is when all are left out. -/
def readFile (fields : List (Field File)) (file : File) (text : String) :
    Except FileError File := do
  let document := Yaml.document text
  let file ← match document.root with
    | none => pure file
    | some (.mapping entries) => takeAll fields document.anchors [] file entries
    | some node => if isUnwritten node then pure file else throw .malformed
  if document.isComplete then return file else throw .malformed

end Field

/-- The name behind the exclamation mark of a tag, if it is a text. -/
def variantName? : Tag → Option String
  | [] => none
  | first :: name => if first == 0x21 then String.fromUTF8? ⟨name.toArray⟩ else none

/-- Read a scheme, by its name or by a tag of its name with nothing or null behind it. -/
def scheme? : NodeReader SignatureScheme
  | .scalar tag style text =>
      match tag.bind variantName? with
      | none => SignatureScheme.ofName? text
      | some name =>
          if style == .plain && (text.isEmpty || isNullWord text) then
            SignatureScheme.ofName? name
          else none
  | _ => none

namespace SettingsFile

/-- The fields of a file with settings. -/
def fields : List (Field SettingsFile) := [
  .ofReader "SignatureTypes" (list? · scheme?) fun value file => { file with schemes := value },
  .duration "ClockPeriod" fun value file => { file with clockPeriod := value },
  .duration "DeltaCheckPeriod" fun value file => { file with deltaCheckPeriod := value },
  .ofReader "ChangeThresholdPercent" (fun _ => optional? float?) fun value file =>
    { file with changeThresholdPercent := value },
  .text "RegistryBaseUrl" fun value file => { file with registryUrl := value },
  .duration "RegistryRefreshInterval" fun value file =>
    { file with registryRefreshInterval := value },
  .duration "BrokerReconnectDelay" fun value file =>
    { file with brokerReconnectDelay := value },
  .text "PublisherMetadataBaseUrl" fun value file => { file with metadataUrl := value },
  .duration "PublisherMetadataRefreshInterval" fun value file =>
    { file with metadataRefreshInterval := value },
  .text "PullBasedWsUrl" fun value file => { file with pullUrl := value },
  .text "PullBasedWsSubscriptionRequest" fun value file =>
    { file with pullSubscription := value },
  .duration "PullBasedWsReconnectDelay" fun value file =>
    { file with pullReconnectDelay := value },
  .duration "PullBasedWsReadTimeout" fun value file => { file with pullReadTimeout := value },
  .ofReader "SignEveryUpdate" (fun _ => boolean?) fun value file =>
    { file with signEveryUpdate := value },
  .ofReader "IncomingWsPort" (fun _ => port?) fun value file =>
    { file with incomingPort := value },
  .ofReader "HealthPort" (fun _ => port?) fun value file => { file with healthPort := value }]

/-- Read settings. -/
def ofText (text : String) : Except FileError SettingsFile :=
  Field.readFile fields {} text

end SettingsFile

namespace KeysFile

/-- The fields of a file with keys. -/
def fields : List (Field KeysFile) := [
  .text "EvmPrivateKey" fun value file => { file with evmPrivateKey := value },
  .text "EvmPublicKey" fun value file => { file with evmPublicKey := value },
  .text "StarkPrivateKey" fun value file => { file with starkPrivateKey := value },
  .text "StarkPublicKey" fun value file => { file with starkPublicKey := value },
  .text "OracleId" fun value file => { file with oracle := value },
  .text "PullBasedAuth" fun value file => { file with pullAuth := value },
  .text "RegistryAuth" fun value file => { file with registryAuth := value }]

/-- Read keys. -/
def ofText (text : String) : Except FileError KeysFile :=
  Field.readFile fields {} text

end KeysFile

end PricePublisher.Settings
