import PricePublisher.Proofs.Text.Trimming
import PricePublisher.Settings.Resolve

/-!
# Keys by name

A key has one variable, one field in the file with keys and one field among the keys that
have been checked.  Its value is that of its variable, or, where this is missing or empty,
that of the file.  What of a value is kept depends on the key: the oracle's name and the
registry's token are always there, be they empty, and a blank token of the feed is left out.
-/

namespace PricePublisher.Settings

/-- A text that is missing, or of which trimming leaves nothing. -/
def IsBlank (text : Option String) : Prop :=
  ∀ content, text = some content → Text.trim content = ""

theorem isBlank_some_iff {content : String} :
    IsBlank (some content) ↔ Text.isBlankText content = true := by
  rw [← Text.trim_eq_empty_iff]
  exact ⟨fun blank => blank content rfl, fun blank _ same => Option.some.inj same ▸ blank⟩

theorem nonBlank_eq_none_iff {text : Option String} : nonBlank text = none ↔ IsBlank text := by
  cases text with
  | none => exact ⟨fun _ _ same => (nomatch same), fun _ => rfl⟩
  | some content =>
      rw [isBlank_some_iff, nonBlank, Option.filter_eq_none_iff]
      simp

instance (text : Option String) : Decidable (IsBlank text) :=
  decidable_of_iff (nonBlank text = none) nonBlank_eq_none_iff

/-- A text is left out exactly if it is blank. -/
theorem nonBlank_eq (text : Option String) :
    nonBlank text = if IsBlank text then none else text := by
  split
  next blank => exact nonBlank_eq_none_iff.mpr blank
  next visible =>
    cases text with
    | none => rfl
    | some content =>
        rw [isBlank_some_iff] at visible
        exact Option.filter_some_pos (by simp [visible])

theorem nonBlank_eq_some_iff {text : Option String} {content : String} :
    nonBlank text = some content ↔ text = some content ∧ ¬ IsBlank text := by
  rw [nonBlank_eq]
  split
  next blank => exact iff_of_false nofun fun given => given.2 blank
  next visible => exact (and_iff_left visible).symm

theorem exists_of_not_blank {text : Option String} (visible : ¬ IsBlank text) :
    ∃ content, text = some content := by
  cases text with
  | none => exact absurd nofun visible
  | some content => exact ⟨content, rfl⟩

/-- The keys that there are. -/
inductive KeyName where
  | evmPrivate
  | evmPublic
  | starkPrivate
  | starkPublic
  | oracle
  | pullAuth
  | registryAuth
deriving DecidableEq, Repr

namespace KeyName

/-- The variable that a key may come from. -/
def variableName : KeyName → String
  | .evmPrivate => "PUBLISHER_AGENT_EVM_PRIVATE_KEY"
  | .evmPublic => "PUBLISHER_AGENT_EVM_PUBLIC_KEY"
  | .starkPrivate => "PUBLISHER_AGENT_STARK_PRIVATE_KEY"
  | .starkPublic => "PUBLISHER_AGENT_STARK_PUBLIC_KEY"
  | .oracle => "PUBLISHER_AGENT_ORACLE_ID"
  | .pullAuth => "PUBLISHER_AGENT_PULL_BASED_AUTH"
  | .registryAuth => "PUBLISHER_AGENT_REGISTRY_AUTH"

/-- What a file says about a key. -/
def written (keys : KeysFile) : KeyName → Option String
  | .evmPrivate => keys.evmPrivateKey
  | .evmPublic => keys.evmPublicKey
  | .starkPrivate => keys.starkPrivateKey
  | .starkPublic => keys.starkPublicKey
  | .oracle => keys.oracle
  | .pullAuth => keys.pullAuth
  | .registryAuth => keys.registryAuth

/-- What checked keys hold under a name. -/
def held (keys : Keys) : KeyName → Option String
  | .evmPrivate => keys.evmPrivateKey
  | .evmPublic => keys.evmPublicKey
  | .starkPrivate => keys.starkPrivateKey
  | .starkPublic => keys.starkPublicKey
  | .oracle => some keys.oracle
  | .pullAuth => keys.pullAuth
  | .registryAuth => some keys.registryAuth

/-- The value of a key: that of its variable unless missing or empty, else that of the file. -/
def inForce (keys : KeysFile) (environment : Environment) (name : KeyName) : Option String :=
  (environment name.variableName).filter (· ≠ "") <|> written keys name

/-- What is kept of a key's value. -/
def kept (value : KeyName → Option String) : KeyName → Option String
  | .oracle => some ((value .oracle).getD "")
  | .registryAuth => some ((value .registryAuth).getD "")
  | .pullAuth => if IsBlank (value .pullAuth) then none else value .pullAuth
  | name => value name

end KeyName

theorem override_eq (environment : Environment) (name : String) (value : Option String) :
    override environment name value =
      ((environment (environmentFront ++ name)).filter (· ≠ "") <|> value) := by
  rw [override]
  cases environment (environmentFront ++ name) with
  | none => rfl
  | some text =>
      by_cases empty : text = ""
      · rw [empty]
        rfl
      · simp [Option.filter, empty]

/-- Overriding reaches each key, and from its own variable alone. -/
theorem written_withEnvironment (keys : KeysFile) (environment : Environment) (name : KeyName) :
    KeyName.written (keys.withEnvironment environment) name =
      KeyName.inForce keys environment name := by
  cases name <;> exact override_eq environment _ _

theorem held_toKeys (keys : KeysFile) (name : KeyName) :
    KeyName.held (keys.toKeys (keys.oracle.getD "")) name =
      KeyName.kept (KeyName.written keys) name := by
  cases name with
  | pullAuth => exact nonBlank_eq _
  | _ => rfl

/-- What a file says about keys, which is nothing if it cannot be read at all. -/
def KeysFile.ofReadable : Option String → Except FileError KeysFile
  | none => .ok {}
  | some text => ofText text

/-- Two files are read, and what they say is checked together with the environment. -/
theorem load_eq (text : String) (keysText : Option String) (environment : Environment) :
    load (some text) keysText environment = (do
      let file ← (SettingsFile.ofText text).mapError (.badFile .settings)
      let keys ← (KeysFile.ofReadable keysText).mapError (.badFile .keys)
      (resolve file (keys.withEnvironment environment)).mapError .invalid) := by
  cases keysText <;> rfl

end PricePublisher.Settings
