import PricePublisher.Proofs.Bytes.Hex
import PricePublisher.Proofs.Floating.Sign
import PricePublisher.Proofs.Outcome
import PricePublisher.Proofs.Settings.KeysInForce

/-!
# Which settings are accepted

The checks of settings are made one after the other, and each is passed on a condition of
its own: none depends on what another check has found, nor on the order of the schemes.  So
settings are accepted exactly if all conditions hold together, and accepted settings hold
what is given or its default, each key under its own name.
-/

namespace PricePublisher.Settings

open Floating Outcome

/-! ## What is asked of settings -/

/-- A text is `0x` and one or more hexadecimal digits. -/
def IsHexText (text : String) : Prop :=
  ∃ digits, text.toList = '0' :: 'x' :: digits ∧ digits ≠ [] ∧
    ∀ digit ∈ digits, Hex.IsDigit digit

/-- The keys that a scheme needs. -/
def neededKeys : SignatureScheme → List KeyName
  | .evm => [.evmPrivate, .evmPublic]
  | .stark => [.starkPrivate, .starkPublic]

/-- A period is left out, or takes some time. -/
def IsPositive (period : Option Duration) : Prop :=
  ∀ given, period = some given → 0 < given.toNanoseconds

/-- Settings and the values of keys pass every check. -/
structure IsAcceptable (file : SettingsFile) (value : KeyName → Option String) : Prop where
  schemes_ne_nil : file.schemes ≠ []
  schemes_nodup : file.schemes.Nodup
  keys_hex : ∀ scheme ∈ file.schemes, ∀ name ∈ neededKeys scheme,
    ∃ text, value name = some text ∧ IsHexText text
  oracle_length : ((value .oracle).getD "").length = 5
  deltaCheckPeriod : IsPositive file.deltaCheckPeriod
  registryRefreshInterval : IsPositive file.registryRefreshInterval
  brokerReconnectDelay : IsPositive file.brokerReconnectDelay
  metadataRefreshInterval : IsPositive file.metadataRefreshInterval
  threshold : ∀ percent, file.changeThresholdPercent = some percent →
    percent.isFinite = true ∧ ¬ percent < 0
  registry : ¬ IsBlank file.registryUrl
  source : file.incomingPort ≠ 0 ∨ ¬ IsBlank file.pullUrl

/-- The threshold in percent that is given, unless it is zero. -/
def percentOrDefault : Option Float → Float
  | none => Default.changeThresholdPercent
  | some percent => if percent == 0 then Default.changeThresholdPercent else percent

/-- Prices are pulled in the way that is given. -/
structure Pulls (file : SettingsFile) (pull : PullSettings) : Prop where
  url : file.pullUrl = some pull.url
  subscription : pull.subscription =
    if IsBlank file.pullSubscription then none else file.pullSubscription
  reconnectDelay : pull.reconnectDelay = file.pullReconnectDelay.getD Default.pullReconnectDelay
  readTimeout : pull.readTimeout = file.pullReadTimeout.getD Default.pullReadTimeout

/-- Checked settings hold what is given, or its default. -/
structure Carries (file : SettingsFile) (value : KeyName → Option String)
    (settings : CheckedSettings) : Prop where
  schemes : settings.schemes = file.schemes
  clockPeriod : settings.clockPeriod = file.clockPeriod.getD Default.clockPeriod
  deltaCheckPeriod :
    settings.deltaCheckPeriod = file.deltaCheckPeriod.getD Default.deltaCheckPeriod
  changeThreshold :
    settings.changeThreshold = percentOrDefault file.changeThresholdPercent / 100
  registryUrl : file.registryUrl = some settings.registryUrl
  registryRefreshInterval : settings.registryRefreshInterval =
    file.registryRefreshInterval.getD Default.registryRefreshInterval
  brokerReconnectDelay :
    settings.brokerReconnectDelay = file.brokerReconnectDelay.getD Default.brokerReconnectDelay
  metadataUrl : some settings.metadataUrl =
    if IsBlank file.metadataUrl then file.registryUrl else file.metadataUrl
  metadataRefreshInterval : settings.metadataRefreshInterval =
    file.metadataRefreshInterval.getD Default.metadataRefreshInterval
  pull_isSome_iff : settings.pull.isSome = true ↔ ¬ IsBlank file.pullUrl
  pull : ∀ pull, settings.pull = some pull → Pulls file pull
  signEveryUpdate : settings.signEveryUpdate = file.signEveryUpdate
  incomingPort : settings.incomingPort = file.incomingPort
  healthPort : settings.healthPort = file.healthPort
  keys : ∀ name, KeyName.held settings.keys name = KeyName.kept value name

/-! ## The condition of each check -/

theorem isHexKey_iff {text : String} : isHexKey text = true ↔ IsHexText text := by
  rw [isHexKey, IsHexText]
  split
  next digits front =>
    simp only [front, Bool.and_eq_true, Bool.not_eq_true', List.isEmpty_eq_false_iff,
      List.all_eq_true, Hex.isDigit_iff, List.cons.injEq, true_and, exists_eq_left']
  next other =>
    refine iff_of_false nofun ?_
    rintro ⟨digits, front, -⟩
    exact absurd front (other digits)

theorem requireHexKey_eq_ok_iff {key : Option String} {name : String} :
    requireHexKey key name = .ok () ↔ ∃ text, key = some text ∧ IsHexText text := by
  simp only [← isHexKey_iff]
  rw [requireHexKey, ← Option.any_eq_true]
  split
  next valid => exact iff_of_true rfl valid
  next invalid => exact iff_of_false nofun invalid

theorem requireKeys_eq_ok_iff {keys : KeysFile} {scheme : SignatureScheme} :
    requireKeys keys scheme = .ok () ↔ ∀ name ∈ neededKeys scheme,
      ∃ text, KeyName.written keys name = some text ∧ IsHexText text := by
  cases scheme <;>
    rw [requireKeys, check_bind_eq_ok_iff, requireHexKey_eq_ok_iff, requireHexKey_eq_ok_iff,
      neededKeys, List.forall_mem_cons, List.forall_mem_singleton] <;>
    rfl

/-- Each scheme is compared with those before it, so that in the end all are distinct. -/
theorem checkSchemes_eq_ok_iff {keys : KeysFile} {before schemes : List SignatureScheme} :
    checkSchemes keys before schemes = .ok () ↔
      schemes.Nodup ∧ (∀ scheme ∈ schemes, scheme ∉ before) ∧
        ∀ scheme ∈ schemes, requireKeys keys scheme = .ok () := by
  induction schemes generalizing before with
  | nil => simp [checkSchemes]
  | cons scheme rest induction =>
      rw [checkSchemes, complain_eq_ok_iff, check_bind_eq_ok_iff, induction,
        List.contains_iff_mem, List.nodup_cons, List.forall_mem_cons, List.forall_mem_cons]
      constructor
      · rintro ⟨new, passed, distinct, others, passedOthers⟩
        refine ⟨⟨fun member => others scheme member List.mem_cons_self, distinct⟩,
          ⟨new, fun other member earlier => ?_⟩, passed, passedOthers⟩
        exact others other member (List.mem_cons_of_mem _ earlier)
      · rintro ⟨⟨once, distinct⟩, ⟨new, others⟩, passed, passedOthers⟩
        refine ⟨new, passed, distinct, fun other member earlier => ?_, passedOthers⟩
        rcases List.mem_cons.mp earlier with rfl | earlier
        · exact once member
        · exact others other member earlier

theorem isZero_eq_true_iff {period : Duration} :
    period.isZero = true ↔ ¬ 0 < period.toNanoseconds := by
  rw [Duration.isZero, Duration.toNanoseconds, Bool.and_eq_true, beq_iff_eq, beq_iff_eq,
    nanosecondsInSecond]
  omega

theorem positive_eq_ok_iff {period : Option Duration} {default value : Duration} {name : String}
    (default_pos : 0 < default.toNanoseconds) :
    positive period default name = .ok value ↔
      IsPositive period ∧ value = period.getD default := by
  have accepted : IsPositive period ↔ 0 < (period.getD default).toNanoseconds := by
    cases period with
    | none => exact iff_of_true nofun default_pos
    | some given => exact ⟨fun all => all given rfl, fun pos _ same => Option.some.inj same ▸ pos⟩
  rw [accepted, positive]
  split
  next zero => exact iff_of_false nofun fun ran => isZero_eq_true_iff.mp zero ran.1
  next nonzero =>
    rw [isZero_eq_true_iff, not_not] at nonzero
    rw [Except.ok.injEq, and_iff_right nonzero, eq_comm]

theorem thresholdPercent_eq_ok_iff {given : Option Float} {percent : Float} :
    thresholdPercent given = .ok percent ↔
      (∀ number, given = some number → number.isFinite = true ∧ ¬ number < 0) ∧
        percent = percentOrDefault given := by
  cases given with
  | none =>
      rw [thresholdPercent, Except.ok.injEq, eq_comm]
      exact (and_iff_right fun _ given => absurd given.symm (Option.some_ne_none _)).symm
  | some number =>
      have alone : (∀ other, some number = some other →
          other.isFinite = true ∧ ¬ other < 0) ↔ number.isFinite = true ∧ ¬ number < 0 :=
        ⟨fun all => all number rfl, fun holds _ same => Option.some.inj same ▸ holds⟩
      rw [alone, thresholdPercent, percentOrDefault]
      split
      next zero => rw [Except.ok.injEq, and_iff_right (finite_nonneg_of_zero zero), eq_comm]
      next nonzero =>
        split
        next refused =>
          rw [Bool.or_eq_true, decide_eq_true_iff, Bool.not_eq_true'] at refused
          refine iff_of_false (fun passed => by cases passed) ?_
          rintro ⟨⟨finite, nonneg⟩, -⟩
          rcases refused with negative | infinite
          · exact nonneg negative
          · rw [finite] at infinite
            cases infinite
        next accepted =>
          rw [Bool.or_eq_true, not_or, decide_eq_true_iff, Bool.not_eq_true', Bool.not_eq_false]
            at accepted
          rw [Except.ok.injEq, and_iff_right accepted.symm, eq_comm]

theorem isNone_pullSettings {file : SettingsFile} :
    file.pullSettings.isNone = true ↔ IsBlank file.pullUrl := by
  rw [SettingsFile.pullSettings, Option.isNone_iff_eq_none, Option.map_eq_none_iff,
    nonBlank_eq_none_iff]

theorem pulls_of_pullSettings {file : SettingsFile} {pull : PullSettings}
    (pulled : file.pullSettings = some pull) : Pulls file pull := by
  obtain ⟨url, visible, rfl⟩ := Option.map_eq_some_iff.mp pulled
  exact {
    url := (nonBlank_eq_some_iff.mp visible).1
    subscription := nonBlank_eq file.pullSubscription
    reconnectDelay := rfl
    readTimeout := rfl }

/-! ## All checks -/

/-- Settings under the address of a registry, with every default filled in. -/
def SettingsFile.completed (file : SettingsFile) (keys : KeysFile) (registryUrl : String) :
    CheckedSettings where
  schemes := file.schemes
  clockPeriod := file.clockPeriod.getD Default.clockPeriod
  deltaCheckPeriod := file.deltaCheckPeriod.getD Default.deltaCheckPeriod
  changeThreshold := percentOrDefault file.changeThresholdPercent / 100
  registryUrl := registryUrl
  registryRefreshInterval :=
    file.registryRefreshInterval.getD Default.registryRefreshInterval
  brokerReconnectDelay := file.brokerReconnectDelay.getD Default.brokerReconnectDelay
  metadataUrl := (nonBlank file.metadataUrl).getD registryUrl
  metadataRefreshInterval :=
    file.metadataRefreshInterval.getD Default.metadataRefreshInterval
  pull := file.pullSettings
  signEveryUpdate := file.signEveryUpdate
  incomingPort := file.incomingPort
  healthPort := file.healthPort
  keys := keys.toKeys (keys.oracle.getD "")

theorem resolve_eq_ok_iff {file : SettingsFile} {keys : KeysFile} {settings : CheckedSettings} :
    resolve file keys = .ok settings ↔ IsAcceptable file (KeyName.written keys) ∧
      ∃ url, file.registryUrl = some url ∧ settings = file.completed keys url := by
  simp only [resolve, complain_eq_ok_iff, bind_eq_ok_iff, thresholdPercent_eq_ok_iff,
    positive_eq_ok_iff (show 0 < Default.deltaCheckPeriod.toNanoseconds by decide),
    positive_eq_ok_iff (show 0 < Default.registryRefreshInterval.toNanoseconds by decide),
    positive_eq_ok_iff (show 0 < Default.brokerReconnectDelay.toNanoseconds by decide),
    positive_eq_ok_iff (show 0 < Default.metadataRefreshInterval.toNanoseconds by decide),
    and_assoc, exists_and_left, exists_eq_left]
  cases given : nonBlank file.registryUrl with
  | none =>
      refine iff_of_false ?_ fun accepted =>
        accepted.1.registry (nonBlank_eq_none_iff.mp given)
      rintro ⟨-, -, -, -, -, -, -, -, -, ran⟩
      cases ran
  | some url =>
      obtain ⟨registry, visible⟩ := nonBlank_eq_some_iff.mp given
      simp only [complain_eq_ok_iff, Bool.and_eq_true, beq_iff_eq, isNone_pullSettings,
        List.isEmpty_iff, bne_iff_ne, ne_eq, not_not]
      constructor
      · rintro ⟨nonempty, _, checked, length, delta, refresh, reconnect, metadata, threshold,
          source, ran⟩
        obtain ⟨distinct, -, passed⟩ := checkSchemes_eq_ok_iff.mp checked
        cases ran
        exact ⟨{
          schemes_ne_nil := nonempty
          schemes_nodup := distinct
          keys_hex := fun scheme member => requireKeys_eq_ok_iff.mp (passed scheme member)
          oracle_length := length
          deltaCheckPeriod := delta
          registryRefreshInterval := refresh
          brokerReconnectDelay := reconnect
          metadataRefreshInterval := metadata
          threshold := threshold
          registry := visible
          source := not_and_or.mp source }, url, registry, rfl⟩
      · rintro ⟨acceptable, other, same, rfl⟩
        rw [registry, Option.some.injEq] at same
        subst same
        have checked : checkSchemes keys [] file.schemes = .ok () :=
          checkSchemes_eq_ok_iff.mpr ⟨acceptable.schemes_nodup, fun _ _ => List.not_mem_nil,
            fun scheme member => requireKeys_eq_ok_iff.mpr (acceptable.keys_hex scheme member)⟩
        exact ⟨acceptable.schemes_ne_nil, (), checked, acceptable.oracle_length,
          acceptable.deltaCheckPeriod, acceptable.registryRefreshInterval,
          acceptable.brokerReconnectDelay, acceptable.metadataRefreshInterval,
          acceptable.threshold, not_and_or.mpr acceptable.source, rfl⟩

theorem SettingsFile.carries_completed {file : SettingsFile} (keys : KeysFile) {url : String}
    (registry : file.registryUrl = some url) :
    Carries file (KeyName.written keys) (file.completed keys url) where
  schemes := rfl
  clockPeriod := rfl
  deltaCheckPeriod := rfl
  changeThreshold := rfl
  registryUrl := registry
  registryRefreshInterval := rfl
  brokerReconnectDelay := rfl
  metadataUrl := by
    rw [completed, registry, nonBlank_eq]
    split
    next => rfl
    next visible =>
      obtain ⟨other, given⟩ := exists_of_not_blank visible
      rw [given]
      rfl
  metadataRefreshInterval := rfl
  pull_isSome_iff := by
    rw [← isNone_pullSettings, Bool.not_eq_true, Option.isNone_eq_false_iff]
    rfl
  pull := fun _ pulled => pulls_of_pullSettings pulled
  signEveryUpdate := rfl
  incomingPort := rfl
  healthPort := rfl
  keys := held_toKeys keys

theorem carries_of_resolve {file : SettingsFile} {keys : KeysFile} {environment : Environment}
    {settings : CheckedSettings}
    (resolved : resolve file (keys.withEnvironment environment) = .ok settings) :
    Carries file (KeyName.inForce keys environment) settings := by
  obtain ⟨-, url, registry, rfl⟩ := resolve_eq_ok_iff.mp resolved
  rw [← funext (written_withEnvironment keys environment)]
  exact SettingsFile.carries_completed _ registry

theorem load_eq_resolve {text : String} {keysText : Option String} {file : SettingsFile}
    {keys : KeysFile} (read : SettingsFile.ofText text = .ok file)
    (readKeys : KeysFile.ofReadable keysText = .ok keys) (environment : Environment) :
    load (some text) keysText environment =
      (resolve file (keys.withEnvironment environment)).mapError .invalid := by
  rw [load_eq, read, readKeys]
  rfl

/--
Settings are accepted exactly if all conditions on them hold together, where the value of
each key is that of its variable or else that of the file.  Then they hold what is given or
its default, and each key under its own name.  This is what loading two files comes to,
where a file with keys that cannot be read says nothing about any key.
-/
theorem resolves_exactly_acceptable (file : SettingsFile) (keys : KeysFile)
    (environment : Environment) :
    let value := KeyName.inForce keys environment
    let resolved := resolve file (keys.withEnvironment environment)
    ((∃ settings, resolved = .ok settings) ↔ IsAcceptable file value) ∧
      (∀ settings, resolved = .ok settings → Carries file value settings) ∧
      ∀ text keysText, SettingsFile.ofText text = .ok file →
        KeysFile.ofReadable keysText = .ok keys →
        load (some text) keysText environment = resolved.mapError .invalid := by
  intro value resolved
  have same : KeyName.written (keys.withEnvironment environment) = value :=
    funext (written_withEnvironment keys environment)
  refine ⟨⟨?_, ?_⟩, ?_, ?_⟩
  · rintro ⟨settings, accepted⟩
    exact same ▸ (resolve_eq_ok_iff.mp accepted).1
  · intro acceptable
    obtain ⟨url, registry⟩ := exists_of_not_blank acceptable.registry
    exact ⟨_, resolve_eq_ok_iff.mpr ⟨same ▸ acceptable, url, registry, rfl⟩⟩
  · intro settings accepted
    exact carries_of_resolve accepted
  · intro text keysText read readKeys
    exact load_eq_resolve read readKeys environment

/-- Settings for prices that are pulled, with a threshold of zero. -/
def pullingText : String :=
  "SignatureTypes: [evm]\nRegistryBaseUrl: http://registry\nPullBasedWsUrl: ws://feed\n" ++
    "ChangeThresholdPercent: 0\n"

/-- Keys with a name that is too long for an oracle. -/
def publicKeysText : String :=
  "EvmPublicKey: 0x2\nOracleId: toolong\nPullBasedAuth: ' '\n"

/-- What is written about those keys. -/
def publicKeys : KeysFile where
  evmPublicKey := some "0x2"
  oracle := some "toolong"
  pullAuth := some " "

/-- Variables that complete those keys; one of them is empty. -/
def completingEnvironment : Environment := fun name =>
  [("PUBLISHER_AGENT_EVM_PRIVATE_KEY", "0x1"), ("PUBLISHER_AGENT_EVM_PUBLIC_KEY", ""),
    ("PUBLISHER_AGENT_ORACLE_ID", "short")].lookup name

theorem resolves_exactly_acceptable_completed :
    ∃ file settings, SettingsFile.ofText pullingText = .ok file ∧
      KeysFile.ofReadable (some publicKeysText) = .ok publicKeys ∧
      IsAcceptable file (KeyName.inForce publicKeys completingEnvironment) ∧
      load (some pullingText) (some publicKeysText) completingEnvironment = .ok settings ∧
      Carries file (KeyName.inForce publicKeys completingEnvironment) settings ∧
      settings.keys = ⟨some "0x1", some "0x2", none, none, "short", none, ""⟩ := by
  have readKeys : KeysFile.ofReadable (some publicKeysText) = .ok publicKeys := by
    decide +kernel
  have held : (load (some pullingText) (some publicKeysText) completingEnvironment).toOption.map
      CheckedSettings.keys = some ⟨some "0x1", some "0x2", none, none, "short", none, ""⟩ := by
    decide +kernel
  obtain ⟨file, read⟩ := exists_ok_of_isSome
    (show (SettingsFile.ofText pullingText).toOption.isSome = true by decide +kernel)
  obtain ⟨accepts, carries, loads⟩ :=
    resolves_exactly_acceptable file publicKeys completingEnvironment
  have loaded := loads _ _ read readKeys
  cases resolved : resolve file (publicKeys.withEnvironment completingEnvironment) with
  | error complaint =>
      rw [loaded, resolved] at held
      cases held
  | ok settings =>
      rw [loaded, resolved] at held
      rw [loaded, resolved]
      exact ⟨file, settings, read, readKeys, accepts.mp ⟨settings, resolved⟩, rfl,
        carries settings resolved, Option.some.inj held⟩

end PricePublisher.Settings
