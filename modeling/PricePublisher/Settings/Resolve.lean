import PricePublisher.Settings.HexKey
import PricePublisher.Settings.Keys

/-!
# Checking settings

Settings and keys are checked in a fixed order, and the first complaint ends the
check.  What is left out gets its default.
-/

namespace PricePublisher.Settings

/-- A complaint about settings. -/
inductive Complaint where
  | noScheme
  | duplicateScheme (scheme : SignatureScheme)
  /-- A key of the given name is missing or no hexadecimal text. -/
  | invalidKey (name : String)
  | oracleLength
  | notPositive (name : String)
  | invalidThreshold
  | noRegistryUrl
  | noSource
deriving DecidableEq, Repr

/-- How many characters the name of an oracle has. -/
def oracleLength : Nat := 5

/-- The message of a complaint. -/
def Complaint.message : Complaint → String
  | .noScheme => "must specify at least one signature type"
  | .duplicateScheme scheme => "duplicate signature type: " ++ scheme.name
  | .invalidKey name => "must pass a valid " ++ name
  | .oracleLength => "oracle id length must be " ++ Nat.repr Settings.oracleLength
  | .notPositive name => name ++ " must be positive"
  | .invalidThreshold => "change threshold percent must be positive"
  | .noRegistryUrl => "must specify a registry base url"
  | .noSource =>
      "must specify a websocket url to pull from or a port to expose for incoming websockets"

/-- How to pull prices from a feed. -/
structure PullSettings where
  url : String
  subscription : Option String
  reconnectDelay : Duration
  readTimeout : Duration

/-- Settings that have been checked, with every default filled in. -/
structure CheckedSettings where
  schemes : List SignatureScheme
  clockPeriod : Duration
  deltaCheckPeriod : Duration
  /-- The relative change that makes a value significant. -/
  changeThreshold : Float
  registryUrl : String
  registryRefreshInterval : Duration
  brokerReconnectDelay : Duration
  metadataUrl : String
  metadataRefreshInterval : Duration
  pull : Option PullSettings
  signEveryUpdate : Bool
  incomingPort : Nat
  healthPort : Nat
  keys : Keys

namespace Default

/-- How often all values are published, unless told otherwise. -/
def clockPeriod : Duration := .ofMilliseconds 500

/-- How often values are checked for changes, unless told otherwise. -/
def deltaCheckPeriod : Duration := .ofMilliseconds 10

/-- The change in percent that is significant, unless told otherwise. -/
def changeThresholdPercent : Float := 0.1

/-- How often the registry is asked for brokers, unless told otherwise. -/
def registryRefreshInterval : Duration := .ofSeconds 600

/-- The wait before a broker is connected again, unless told otherwise. -/
def brokerReconnectDelay : Duration := .ofSeconds 5

/-- How often the publisher describes itself, unless told otherwise. -/
def metadataRefreshInterval : Duration := .ofSeconds 3600

/-- The wait before a feed is connected again, unless told otherwise. -/
def pullReconnectDelay : Duration := .ofSeconds 5

/-- The longest silence of a feed, unless told otherwise. -/
def pullReadTimeout : Duration := .ofSeconds 10

end Default

/-- A text unless it is missing or blank. -/
def nonBlank (text : Option String) : Option String :=
  text.filter fun content => !Text.isBlankText content

/-- Complain unless a key is in hexadecimal. -/
def requireHexKey (key : Option String) (name : String) : Except Complaint Unit :=
  if key.any isHexKey then .ok () else .error (.invalidKey name)

/-- Complain unless the keys for a scheme are in hexadecimal. -/
def requireKeys (keys : KeysFile) : SignatureScheme → Except Complaint Unit
  | .evm => do
      requireHexKey keys.evmPrivateKey "EVM private key"
      requireHexKey keys.evmPublicKey "EVM public key"
  | .stark => do
      requireHexKey keys.starkPrivateKey "Stark private key"
      requireHexKey keys.starkPublicKey "Stark public key"

/-- Check schemes one after the other, given those before them. -/
def checkSchemes (keys : KeysFile) (before : List SignatureScheme) :
    List SignatureScheme → Except Complaint Unit
  | [] => .ok ()
  | scheme :: rest => do
      if before.contains scheme then throw (.duplicateScheme scheme)
      requireKeys keys scheme
      checkSchemes keys (scheme :: before) rest

/-- A duration or its default, which must be positive. -/
def positive (duration : Option Duration) (default : Duration) (name : String) :
    Except Complaint Duration :=
  let value := duration.getD default
  if value.isZero then .error (.notPositive name) else .ok value

/-- The threshold in percent; zero stands for the default. -/
def thresholdPercent : Option Float → Except Complaint Float
  | none => .ok Default.changeThresholdPercent
  | some percent =>
      if percent == 0 then .ok Default.changeThresholdPercent
      else if percent < 0 || !percent.isFinite then .error .invalidThreshold
      else .ok percent

/-- How to pull prices, if there is a feed to pull from. -/
def SettingsFile.pullSettings (file : SettingsFile) : Option PullSettings :=
  (nonBlank file.pullUrl).map fun url => {
    url := url
    subscription := nonBlank file.pullSubscription
    reconnectDelay := file.pullReconnectDelay.getD Default.pullReconnectDelay
    readTimeout := file.pullReadTimeout.getD Default.pullReadTimeout }

/-- Keys that need no further check, under the name of an oracle. -/
def KeysFile.toKeys (keys : KeysFile) (oracle : String) : Keys where
  evmPrivateKey := keys.evmPrivateKey
  evmPublicKey := keys.evmPublicKey
  starkPrivateKey := keys.starkPrivateKey
  starkPublicKey := keys.starkPublicKey
  oracle := oracle
  pullAuth := nonBlank keys.pullAuth
  registryAuth := keys.registryAuth.getD ""

/-- Check settings and keys, and fill in defaults. -/
def resolve (file : SettingsFile) (keys : KeysFile) : Except Complaint CheckedSettings := do
  if file.schemes.isEmpty then throw .noScheme
  checkSchemes keys [] file.schemes
  let oracle := keys.oracle.getD ""
  if oracle.length != oracleLength then throw .oracleLength
  let deltaCheckPeriod ←
    positive file.deltaCheckPeriod Default.deltaCheckPeriod "delta check period"
  let registryRefreshInterval ←
    positive file.registryRefreshInterval Default.registryRefreshInterval
      "registry refresh interval"
  let brokerReconnectDelay ←
    positive file.brokerReconnectDelay Default.brokerReconnectDelay "broker reconnect delay"
  let metadataRefreshInterval ←
    positive file.metadataRefreshInterval Default.metadataRefreshInterval
      "publisher metadata refresh interval"
  let percent ← thresholdPercent file.changeThresholdPercent
  match nonBlank file.registryUrl with
  | none => throw .noRegistryUrl
  | some registryUrl =>
      let pull := file.pullSettings
      if file.incomingPort == 0 && pull.isNone then throw .noSource
      return {
        schemes := file.schemes
        clockPeriod := file.clockPeriod.getD Default.clockPeriod
        deltaCheckPeriod := deltaCheckPeriod
        changeThreshold := percent / 100
        registryUrl := registryUrl
        registryRefreshInterval := registryRefreshInterval
        brokerReconnectDelay := brokerReconnectDelay
        metadataUrl := (nonBlank file.metadataUrl).getD registryUrl
        metadataRefreshInterval := metadataRefreshInterval
        pull := pull
        signEveryUpdate := file.signEveryUpdate
        incomingPort := file.incomingPort
        healthPort := file.healthPort
        keys := keys.toKeys oracle }

/-- Which file could not be read as settings. -/
inductive FileName where
  | settings
  | keys
deriving DecidableEq, Repr

/-- Why there are no settings. -/
inductive LoadError where
  /-- The file with the settings cannot be read at all. -/
  | unreadable
  | badFile (file : FileName) (cause : FileError)
  | invalid (complaint : Complaint)
deriving DecidableEq, Repr

/--
Load settings from the texts of the two files, as far as they can be read, and
the environment.  The keys file may be missing, because the environment may hold
every key.
-/
def load (settings keys : Option String) (environment : Environment) :
    Except LoadError CheckedSettings := do
  let text ← match settings with
    | none => throw .unreadable
    | some text => pure text
  let file ← (SettingsFile.ofText text).mapError (.badFile .settings)
  let keysFile ← match keys with
    | none => pure {}
    | some text => (KeysFile.ofText text).mapError (.badFile .keys)
  (resolve file (keysFile.withEnvironment environment)).mapError .invalid

end PricePublisher.Settings
