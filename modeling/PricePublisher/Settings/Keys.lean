import PricePublisher.Settings.File

/-!
# Keys

A key comes from the environment or, where the environment has no value or an
empty one, from the keys file.  Diagnostics show the public keys and the oracle's
name; of a secret they show at most whether it is there.
-/

namespace PricePublisher.Settings

/-- The values of environment variables by name. -/
abbrev Environment := String → Option String

/-- What the names of the variables start with. -/
def environmentFront : String := "PUBLISHER_AGENT_"

/-- The value of a variable, in place of a given one unless it is empty. -/
def override (environment : Environment) (name : String) (value : Option String) :
    Option String :=
  match environment (environmentFront ++ name) with
  | some text => if text.isEmpty then value else some text
  | none => value

/-- The names of the variables that hold keys. -/
def variableNames : List String :=
  ["EVM_PRIVATE_KEY", "EVM_PUBLIC_KEY", "STARK_PRIVATE_KEY", "STARK_PUBLIC_KEY", "ORACLE_ID",
    "PULL_BASED_AUTH", "REGISTRY_AUTH"].map fun name => environmentFront ++ name

/-- Keys with the values of the environment in place of those in the file. -/
def KeysFile.withEnvironment (keys : KeysFile) (environment : Environment) : KeysFile where
  evmPrivateKey := override environment "EVM_PRIVATE_KEY" keys.evmPrivateKey
  evmPublicKey := override environment "EVM_PUBLIC_KEY" keys.evmPublicKey
  starkPrivateKey := override environment "STARK_PRIVATE_KEY" keys.starkPrivateKey
  starkPublicKey := override environment "STARK_PUBLIC_KEY" keys.starkPublicKey
  oracle := override environment "ORACLE_ID" keys.oracle
  pullAuth := override environment "PULL_BASED_AUTH" keys.pullAuth
  registryAuth := override environment "REGISTRY_AUTH" keys.registryAuth

/-- Keys that have been checked. -/
structure Keys where
  evmPrivateKey : Option String
  evmPublicKey : Option String
  starkPrivateKey : Option String
  starkPublicKey : Option String
  oracle : String
  pullAuth : Option String
  registryAuth : String
deriving DecidableEq

/-- What diagnostics show in place of a secret. -/
def redacted : String := "<redacted>"

/-- What diagnostics show for a secret that may be missing. -/
def redactedOption (secret : Option String) : String :=
  Text.quotedOption (secret.map fun _ => redacted)

/-- The description of keys in diagnostics. -/
def Keys.description (keys : Keys) : String :=
  "Keys \x7b evm_private_key: " ++ redactedOption keys.evmPrivateKey
    ++ ", evm_public_key: " ++ Text.quotedOption keys.evmPublicKey
    ++ ", stark_private_key: " ++ redactedOption keys.starkPrivateKey
    ++ ", stark_public_key: " ++ Text.quotedOption keys.starkPublicKey
    ++ ", oracle_id: " ++ Text.quoted keys.oracle
    ++ ", pull_based_auth: " ++ redactedOption keys.pullAuth
    ++ ", registry_auth: " ++ Text.quoted redacted ++ " \x7d"

end PricePublisher.Settings
