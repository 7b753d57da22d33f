import PricePublisher.Settings.Resolve
import PricePublisher.Signing.EvmSigner

/-!
# Starting up

The program starts if its settings can be loaded and there is a signer for every
scheme that they list.  Of the EVM scheme the address that the settings name has
to be the one of the private key.
-/

namespace PricePublisher.Startup

/-- Why there is no signer for a scheme. -/
inductive SignerComplaint where
  | noPrivateKey
  | unusable (cause : SigningError)
  /-- The settings name another address than that of the private key. -/
  | addressMismatch (configured address : String)
  | noBuiltInSigner
deriving DecidableEq, Repr

/-- The message of a complaint about a signer. -/
def SignerComplaint.message : SignerComplaint → String
  | .noPrivateKey => "missing EVM private key"
  | .unusable cause => cause.message
  | .addressMismatch configured address =>
      "EVM public key " ++ configured ++ " does not match the private key's address "
        ++ address
  | .noBuiltInSigner => "stark signing needs an external signer, none is built in"

/-- Whether two texts are equal but for the case of ASCII letters. -/
def equalIgnoringCase (left right : String) : Bool :=
  left.toList.map Char.toLower == right.toList.map Char.toLower

/-- The signer for a scheme that keys make possible. -/
def signerFor (keys : Settings.Keys) : SignatureScheme → Except SignerComplaint Signer
  | .stark => .error .noBuiltInSigner
  | .evm =>
      match keys.evmPrivateKey with
      | none => .error .noPrivateKey
      | some key =>
          match EvmSigner.ofText key with
          | .error cause => .error (.unusable (.invalidKey cause))
          | .ok signer =>
              match keys.evmPublicKey with
              | none => .ok signer.toSigner
              | some configured =>
                  if equalIgnoringCase configured signer.publisherKey then .ok signer.toSigner
                  else .error (.addressMismatch configured signer.publisherKey)

/-- Why the program does not start. -/
inductive Failure where
  | settings (cause : Settings.LoadError)
  | signer (cause : SignerComplaint)
deriving DecidableEq, Repr

/-- What the program runs: its settings and a signer for each scheme. -/
structure Plan where
  settings : Settings.CheckedSettings
  signers : List Signer

/-- The name of a file in messages. -/
def fileText : Settings.FileName → String
  | .settings => "config"
  | .keys => "keys"

/-- The message of a failure to load settings. -/
def loadErrorMessage : Settings.LoadError → String
  | .unreadable => "failed to read config"
  | .badFile file _ => "failed to parse " ++ fileText file
  | .invalid complaint => complaint.message

/-- The message of a failure to start. -/
def Failure.message : Failure → String
  | .settings cause => loadErrorMessage cause
  | .signer cause => cause.message

/-- What to run, from the texts of the two files and the environment. -/
def Plan.make (settings keys : Option String) (environment : Settings.Environment) :
    Except Failure Plan := do
  let settings ← (Settings.load settings keys environment).mapError .settings
  let signers ← settings.schemes.mapM fun scheme =>
    (signerFor settings.keys scheme).mapError .signer
  return ⟨settings, signers⟩

end PricePublisher.Startup
