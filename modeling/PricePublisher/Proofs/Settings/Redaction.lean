import PricePublisher.Proofs.Settings.Acceptance
import PricePublisher.Signing.EvmSigner

/-!
# Diagnostics keep secrets

Private keys and tokens may come from a file or from the environment, and may hold any text.
What is shown of keys depends on the public keys and the oracle's name, and of a secret on
no more than whether it is there.  So two starts that differ in secrets alone cannot be told
apart by what is shown of their keys.
-/

namespace PricePublisher

/-- Of a signer only its publisher key is shown. -/
theorem EvmSigner.description_eq {signer other : EvmSigner}
    (same : signer.publisherKey = other.publisherKey) :
    signer.description = other.description := by
  unfold description
  rw [same]

namespace Settings

open Outcome

/-! ## What is shown of keys -/

/-- The keys whose values are shown. -/
def shownKeys : List KeyName :=
  [.evmPublic, .starkPublic, .oracle]

/-- The keys of which it is shown whether they are there. -/
def markedKeys : List KeyName :=
  [.evmPrivate, .starkPrivate, .pullAuth]

theorem redactedOption_eq {left right : Option String} (present : left.isSome = right.isSome) :
    redactedOption left = redactedOption right := by
  have same : left.map (fun _ => redacted) = right.map fun _ => redacted := by
    cases left <;> cases right <;> cases present <;> rfl
  rw [redactedOption, redactedOption, same]

/-- The description of keys depends on the shown values, and on which marked ones are there. -/
theorem Keys.description_eq {left right : Keys}
    (shown : ∀ name ∈ shownKeys, KeyName.held left name = KeyName.held right name)
    (marked : ∀ name ∈ markedKeys,
      (KeyName.held left name).isSome = (KeyName.held right name).isSome) :
    left.description = right.description := by
  have evmPublic : left.evmPublicKey = right.evmPublicKey := shown .evmPublic (by decide)
  have starkPublic : left.starkPublicKey = right.starkPublicKey := shown .starkPublic (by decide)
  have oracle : left.oracle = right.oracle := Option.some.inj (shown .oracle (by decide))
  have evmPrivate := redactedOption_eq (marked .evmPrivate (by decide))
  have starkPrivate := redactedOption_eq (marked .starkPrivate (by decide))
  have pullAuth := redactedOption_eq (marked .pullAuth (by decide))
  simp only [KeyName.held] at evmPrivate starkPrivate pullAuth
  unfold Keys.description
  rw [evmPublic, starkPublic, oracle, evmPrivate, starkPrivate, pullAuth]

/-! ## From values to what is shown -/

/-- Values of keys differ in secrets alone. -/
structure DiffersInSecrets (value other : KeyName → Option String) : Prop where
  evmPublic : value .evmPublic = other .evmPublic
  starkPublic : value .starkPublic = other .starkPublic
  oracle : value .oracle = other .oracle
  evmPrivate : (value .evmPrivate).isSome = (other .evmPrivate).isSome
  starkPrivate : (value .starkPrivate).isSome = (other .starkPrivate).isSome
  pullAuth : IsBlank (value .pullAuth) ↔ IsBlank (other .pullAuth)

theorem isSome_kept_pullAuth (value : KeyName → Option String) :
    (KeyName.kept value .pullAuth).isSome = !decide (IsBlank (value .pullAuth)) := by
  rw [KeyName.kept]
  split
  next blank => rw [decide_eq_true blank]; rfl
  next visible =>
    obtain ⟨content, given⟩ := exists_of_not_blank visible
    rw [decide_eq_false visible, given]
    rfl

theorem DiffersInSecrets.kept_shown {value other : KeyName → Option String}
    (differs : DiffersInSecrets value other) :
    ∀ name ∈ shownKeys, KeyName.kept value name = KeyName.kept other name := by
  intro name member
  simp only [shownKeys, List.mem_cons, List.not_mem_nil, or_false] at member
  rcases member with rfl | rfl | rfl
  · exact differs.evmPublic
  · exact differs.starkPublic
  · simp only [KeyName.kept, differs.oracle]

theorem DiffersInSecrets.kept_marked {value other : KeyName → Option String}
    (differs : DiffersInSecrets value other) :
    ∀ name ∈ markedKeys, (KeyName.kept value name).isSome = (KeyName.kept other name).isSome := by
  intro name member
  simp only [markedKeys, List.mem_cons, List.not_mem_nil, or_false] at member
  rcases member with rfl | rfl | rfl
  · exact differs.evmPrivate
  · exact differs.starkPrivate
  · simp only [isSome_kept_pullAuth, differs.pullAuth]

/-- Loaded keys are those of the file that was read, completed by the environment. -/
theorem held_of_load {text keysText : Option String} {keys : KeysFile} {environment : Environment}
    {settings : CheckedSettings} (read : KeysFile.ofReadable keysText = .ok keys)
    (loaded : load text keysText environment = .ok settings) (name : KeyName) :
    KeyName.held settings.keys name =
      KeyName.kept (KeyName.inForce keys environment) name := by
  cases text with
  | none => cases loaded
  | some text =>
      rw [load_eq] at loaded
      obtain ⟨file, -, loaded⟩ := bind_eq_ok_iff.mp loaded
      obtain ⟨found, parsed, resolved⟩ := bind_eq_ok_iff.mp loaded
      cases read.symm.trans (mapError_eq_ok_iff.mp parsed)
      exact (carries_of_resolve (mapError_eq_ok_iff.mp resolved)).keys name

/-! ## Two starts -/

/--
Two starts with the same settings, whose keys differ in secrets alone, show the same of
their keys, whatever the secrets are and wherever they come from.  A signer shows no more
than its publisher key.
-/
theorem shows_no_secrets {text keysText otherText : Option String} {keys other : KeysFile}
    {environment otherEnvironment : Environment} {settings otherSettings : CheckedSettings}
    (read : KeysFile.ofReadable keysText = .ok keys)
    (readOther : KeysFile.ofReadable otherText = .ok other)
    (loaded : load text keysText environment = .ok settings)
    (loadedOther : load text otherText otherEnvironment = .ok otherSettings)
    (differs : DiffersInSecrets (KeyName.inForce keys environment)
      (KeyName.inForce other otherEnvironment)) :
    settings.keys.description = otherSettings.keys.description ∧
      ∀ signer otherSigner : EvmSigner, signer.publisherKey = otherSigner.publisherKey →
        signer.description = otherSigner.description := by
  refine ⟨Keys.description_eq ?_ ?_, ?_⟩
  · intro name member
    rw [held_of_load read loaded, held_of_load readOther loadedOther]
    exact differs.kept_shown name member
  · intro name member
    rw [held_of_load read loaded, held_of_load readOther loadedOther]
    exact differs.kept_marked name member
  · intro signer otherSigner same
    exact EvmSigner.description_eq same

/-- Keys that all come from a file. -/
def filedKeysText : String :=
  "EvmPrivateKey: 0x1\nEvmPublicKey: 0x2\nOracleId: short\nPullBasedAuth: token\n" ++
    "RegistryAuth: secret\n"

/-- What is written about those keys. -/
def filedKeys : KeysFile where
  evmPrivateKey := some "0x1"
  evmPublicKey := some "0x2"
  oracle := some "short"
  pullAuth := some "token"
  registryAuth := some "secret"

/-- Variables for keys with other secrets, one of them quite long. -/
def secretEnvironment : Environment := fun name =>
  [("PUBLISHER_AGENT_EVM_PRIVATE_KEY", "0xfeedfacefeedfacefeedfacefeedface"),
    ("PUBLISHER_AGENT_EVM_PUBLIC_KEY", "0x2"), ("PUBLISHER_AGENT_ORACLE_ID", "short"),
    ("PUBLISHER_AGENT_PULL_BASED_AUTH", "another")].lookup name

theorem shows_no_secrets_of_file_or_variables :
    ∃ settings otherSettings, KeysFile.ofReadable (some filedKeysText) = .ok filedKeys ∧
      KeysFile.ofReadable none = .ok {} ∧
      load (some pullingText) (some filedKeysText) (fun _ => none) = .ok settings ∧
      load (some pullingText) none secretEnvironment = .ok otherSettings ∧
      DiffersInSecrets (KeyName.inForce filedKeys fun _ => none)
        (KeyName.inForce {} secretEnvironment) ∧
      settings.keys.description = otherSettings.keys.description := by
  have read : KeysFile.ofReadable (some filedKeysText) = .ok filedKeys := by decide +kernel
  have nothing : KeysFile.ofReadable none = .ok {} := rfl
  obtain ⟨settings, loaded⟩ := exists_ok_of_isSome
    (show (load (some pullingText) (some filedKeysText) fun _ => none).toOption.isSome = true by
      decide +kernel)
  obtain ⟨otherSettings, loadedOther⟩ := exists_ok_of_isSome
    (show (load (some pullingText) none secretEnvironment).toOption.isSome = true by
      decide +kernel)
  have differs : DiffersInSecrets (KeyName.inForce filedKeys fun _ => none)
      (KeyName.inForce {} secretEnvironment) := by
    constructor <;> decide +kernel
  exact ⟨settings, otherSettings, read, nothing, loaded, loadedOther, differs,
    (shows_no_secrets read nothing loaded loadedOther differs).1⟩

end Settings

end PricePublisher
