import Reconciler.Daemon.Settings
import Reconciler.Proofs.Store.Disk
import Reconciler.Proofs.Store.Succeeds

/-!
# Settings that hold up

Settings are checked by the daemon when it has read them and again when the configuration is made
that they amount to. What passes the first check passes the second (`Checked.validate_config`), and
the configuration is then the one that the environment asks for (`Configured`): a store in a file
that is asked for never turns into one in memory, and every number is that of its variable.
-/

set_option autoImplicit false

namespace Reconciler

/-! ## Numerals -/

namespace Text

/-- A text is a numeral of a number: the digits of it, perhaps after a plus sign. -/
def IsNumeral (text : String) (n : Nat) : Prop :=
  ∃ digits : List Char, (text.toList = digits ∨ text.toList = '+' :: digits) ∧ digits ≠ [] ∧
    (∀ c ∈ digits, c.isDigit = true) ∧ n = Nat.ofDigitChars 10 digits 0

/-- A character that is read as a digit is that digit. -/
theorem digit?_eq_some {c : Char} {d : Nat} (h : digit? c = some d) :
    c.isDigit = true ∧ d = c.toNat - '0'.toNat := by
  unfold digit? at h
  split at h
  · next hrange =>
    cases h
    have hlow : '0'.val ≤ c.val := hrange.1
    have hhigh : c.val ≤ '9'.val := hrange.2
    exact ⟨by simpa [Char.isDigit] using ⟨hlow, hhigh⟩, rfl⟩
  · cases h

/-- What is read is the number that the digits make after the one that was read already. -/
theorem readDigits_eq_ok {limit value result : Nat} {digits : List Char}
    (h : readDigits limit value digits = .ok result) :
    (∀ c ∈ digits, c.isDigit = true) ∧ result = Nat.ofDigitChars 10 digits value := by
  induction digits generalizing value with
  | nil =>
    cases h
    simp
  | cons c rest ih =>
    simp only [readDigits] at h
    split at h
    · cases h
    · next d hdigit =>
      split at h
      · cases h
      · obtain ⟨hc, hd⟩ := digit?_eq_some hdigit
        obtain ⟨hrest, hresult⟩ := ih h
        rw [Nat.ofDigitChars_cons, ← hd, Nat.mul_comm 10 value]
        exact ⟨List.forall_mem_cons.mpr ⟨hc, hrest⟩, hresult⟩

/-- What is read is a number within the limit, and the text is its numeral. -/
theorem readNumeral_eq_ok {limit n : Nat} {text : String} (h : readNumeral limit text = .ok n) :
    IsNumeral text n ∧ n ≤ limit := by
  unfold readNumeral at h
  split at h
  · cases h
  · cases h
  · next digits hne htext =>
    obtain ⟨hdigits, hvalue⟩ := readDigits_eq_ok h
    exact ⟨⟨digits, .inr htext, hne, hdigits, hvalue⟩, readDigits_le (Nat.zero_le limit) h⟩
  · next hne _ _ =>
    obtain ⟨hdigits, hvalue⟩ := readDigits_eq_ok h
    exact ⟨⟨text.toList, .inl rfl, hne, hdigits, hvalue⟩, readDigits_le (Nat.zero_le limit) h⟩

end Text

namespace Daemon

/-! ## What an environment asks for -/

/-- The number that an environment gives under a name: the one whose numeral is in the variable,
between white space, and the default where the variable is unset. -/
def Environment.Gives (environment : Environment) (name : String) (default n : Nat) : Prop :=
  match environment name with
  | none => n = default
  | some value => Text.IsNumeral (Text.trim value) n

/-- The type of the provider, the simulated one where none is named. -/
def Environment.providerType (environment : Environment) : String :=
  (environment "AURORA_PROVIDER_TYPE").getD "simulated"

/-- A configuration that is the one an environment asks for. -/
structure Configured (environment : Environment) (config : Config) : Prop where
  fileStore : environment "AURORA_STORE_TYPE" = some "file" →
    ∃ path, path ≠ "" ∧ environment "AURORA_STORE_PATH" = some path ∧ config.store = .file path
  memoryStore : environment "AURORA_STORE_TYPE" ≠ some "file" → config.store = .memory
  simulated : environment.providerType = "simulated" →
    ∃ simulator : SimulatorConfig, config.provider = .simulated simulator ∧
      environment.Gives "AURORA_SIM_READY_AFTER_POLLS" 3 simulator.readyAfter.toNat ∧
      environment.Gives "AURORA_SIM_DELETE_AFTER_POLLS" 2 simulator.deleteAfter.toNat ∧
      environment.flag "AURORA_DRY_RUN" = .ok simulator.dryRun
  custom : environment.providerType ≠ "simulated" →
    ∃ dryRun, environment.flag "AURORA_DRY_RUN" = .ok dryRun ∧
      config.provider =
        .custom environment.providerType (.obj [("dry_run", .bool dryRun)])
  stabilization :
    environment.Gives "AURORA_STABILIZATION_SECS" 120 config.engine.stabilizationSecs.toNat
  stabilization_le : config.engine.stabilizationSecs.toNat ≤ 3600
  resync : environment.Gives "AURORA_RESYNC_SECS" 30 config.engine.resyncSecs.toNat
  resync_within : 1 ≤ config.engine.resyncSecs.toNat ∧ config.engine.resyncSecs.toNat ≤ 3600

/-! ## Settings that were read -/

/-- Giving an error another form does not touch a success. -/
theorem mapError_eq_ok_iff {ε ε' α : Type} {result : Except ε α} {f : ε → ε'} {value : α} :
    result.mapError f = .ok value ↔ result = .ok value := by
  cases result with
  | error error => exact iff_of_false nofun nofun
  | ok read =>
    have hread : (Except.ok read : Except ε α).mapError f = .ok read := rfl
    rw [hread, Except.ok.injEq, Except.ok.injEq]

/-- A number that is read from the environment is the one given there, or the default, and within
its limit. -/
theorem gives_of_number {environment : Environment} {name : String} {limit default n : Nat}
    (hdefault : default ≤ limit) (h : environment.number name limit default = .ok n) :
    environment.Gives name default n ∧ n ≤ limit := by
  unfold Environment.number at h
  unfold Environment.Gives
  cases hvalue : environment name with
  | none =>
    simp only [hvalue, Except.ok.injEq] at h
    exact ⟨h.symm, h ▸ hdefault⟩
  | some value =>
    simp only [hvalue, mapError_eq_ok_iff] at h
    exact Text.readNumeral_eq_ok h

namespace Settings

/-- Settings as they stand in an environment. -/
structure ReadFrom (environment : Environment) (settings : Settings) : Prop where
  providerType : settings.providerType = environment.providerType
  readyAfter : environment.Gives "AURORA_SIM_READY_AFTER_POLLS" 3 settings.readyAfter.toNat
  deleteAfter : environment.Gives "AURORA_SIM_DELETE_AFTER_POLLS" 2 settings.deleteAfter.toNat
  dryRun : environment.flag "AURORA_DRY_RUN" = .ok settings.dryRun
  storeType : settings.storeType = (environment "AURORA_STORE_TYPE").getD "memory"
  storePath : settings.storePath = environment "AURORA_STORE_PATH"
  stabilization :
    environment.Gives "AURORA_STABILIZATION_SECS" 120 settings.stabilizationSecs.toNat
  resync : environment.Gives "AURORA_RESYNC_SECS" 30 settings.resyncSecs.toNat

variable {environment : Environment} {settings : Settings}

/-- Settings that the environment gives are read from it one by one. -/
theorem readFrom_of_ofEnvironment (h : ofEnvironment environment = .ok settings) :
    settings.ReadFrom environment := by
  obtain ⟨readyAfter, hready, h⟩ := exists_of_bind_eq_ok h
  obtain ⟨deleteAfter, hdelete, h⟩ := exists_of_bind_eq_ok h
  obtain ⟨dryRun, hdry, h⟩ := exists_of_bind_eq_ok h
  obtain ⟨stabilizationSecs, hstabilization, h⟩ := exists_of_bind_eq_ok h
  obtain ⟨resyncSecs, hresync, h⟩ := exists_of_bind_eq_ok h
  cases h
  obtain ⟨hready, hreadyLe⟩ := gives_of_number (by decide) hready
  obtain ⟨hdelete, hdeleteLe⟩ := gives_of_number (by decide) hdelete
  obtain ⟨hstabilization, hstabilizationLe⟩ := gives_of_number (by decide) hstabilization
  obtain ⟨hresync, hresyncLe⟩ := gives_of_number (by decide) hresync
  -- every number that was read has room in its field
  have hreadySize : readyAfter < UInt32.size := Nat.lt_of_le_pred (by decide) hreadyLe
  have hdeleteSize : deleteAfter < UInt32.size := Nat.lt_of_le_pred (by decide) hdeleteLe
  have hstabilizationSize : stabilizationSecs < UInt64.size :=
    Nat.lt_of_le_pred (by decide) hstabilizationLe
  have hresyncSize : resyncSecs < UInt64.size := Nat.lt_of_le_pred (by decide) hresyncLe
  exact
    { providerType := rfl
      readyAfter := by rwa [UInt32.toNat_ofNat_of_lt' hreadySize]
      deleteAfter := by rwa [UInt32.toNat_ofNat_of_lt' hdeleteSize]
      dryRun := hdry
      storeType := rfl
      storePath := rfl
      stabilization := by rwa [UInt64.toNat_ofNat_of_lt' hstabilizationSize]
      resync := by rwa [UInt64.toNat_ofNat_of_lt' hresyncSize] }

/-! ## Settings that were checked -/

/-- What the checks of the daemon assure of settings, whatever the file system says. -/
structure Checked (settings : Settings) : Prop where
  providerType : settings.providerType ≠ ""
  storePath : settings.storeType = "file" → ∃ path, settings.storePath = some path ∧ path ≠ ""
  stabilization : settings.stabilizationSecs.toNat ≤ 3600
  resync : 1 ≤ settings.resyncSecs.toNat ∧ settings.resyncSecs.toNat ≤ 3600

variable {φ : Type} {system : FileSystem φ} {files left : φ}

/-- A demand that was not refused was met. -/
theorem of_run_demand {condition : Bool} {refusal : Refusal}
    (h : Script.run system (demand condition refusal).run files = (.ok (), left)) :
    condition = true := by
  cases condition with
  | true => rfl
  | false => cases h

/-- A file store whose path was accepted has one, and it is not empty. -/
theorem exists_path_of_run_validateStorePath
    (h : Script.run system (validateStorePath settings).run files = (.ok (), left))
    (hfile : settings.storeType = "file") :
    ∃ path, settings.storePath = some path ∧ path ≠ "" := by
  unfold validateStorePath at h
  rw [if_neg (not_not_intro hfile)] at h
  cases hpath : settings.storePath with
  | none =>
    rw [hpath] at h
    cases h
  | some path =>
    refine ⟨path, rfl, fun hempty => ?_⟩
    rw [hpath, hempty] at h
    cases h

/-- Settings that were accepted meet every check. -/
theorem checked_of_run_validate
    (h : Script.run system settings.validate.run files = (.ok (), left)) : settings.Checked := by
  obtain ⟨_, _, hprovider, h⟩ := Files.exists_of_run_bind_eq_ok h
  obtain ⟨_, _, -, h⟩ := Files.exists_of_run_bind_eq_ok h
  obtain ⟨_, _, hpath, h⟩ := Files.exists_of_run_bind_eq_ok h
  obtain ⟨_, _, -, h⟩ := Files.exists_of_run_bind_eq_ok h
  obtain ⟨_, _, -, h⟩ := Files.exists_of_run_bind_eq_ok h
  obtain ⟨_, _, -, h⟩ := Files.exists_of_run_bind_eq_ok h
  obtain ⟨_, _, hstabilization, h⟩ := Files.exists_of_run_bind_eq_ok h
  obtain ⟨_, _, hresync, h⟩ := Files.exists_of_run_bind_eq_ok h
  have hwithin := of_decide_eq_true (of_run_demand hresync)
  exact
    { providerType := of_decide_eq_true (of_run_demand hprovider)
      storePath := exists_path_of_run_validateStorePath hpath
      stabilization := UInt64.le_iff_toNat_le.mp (of_decide_eq_true (of_run_demand hstabilization))
      resync := ⟨UInt64.le_iff_toNat_le.mp hwithin.1, UInt64.le_iff_toNat_le.mp hwithin.2⟩ }

/-! ## The configuration -/

/-- The simulated provider is configured with the three numbers of its settings. -/
theorem config_provider_of_simulated (h : settings.providerType = "simulated") :
    settings.config.provider =
      .simulated ⟨settings.readyAfter, settings.deleteAfter, settings.dryRun⟩ :=
  if_pos h

/-- Any other provider is configured by name, with the dry run switch as its only setting. -/
theorem config_provider_of_ne (h : settings.providerType ≠ "simulated") :
    settings.config.provider =
      .custom settings.providerType (.obj [("dry_run", .bool settings.dryRun)]) :=
  if_neg h

/-- A file store is configured at its path. -/
theorem config_store_of_file {path : String} (htype : settings.storeType = "file")
    (hpath : settings.storePath = some path) : settings.config.store = .file path := by
  simp [config, hpath, htype]

/-- Any other store is kept in memory. -/
theorem config_store_of_ne (h : settings.storeType ≠ "file") :
    settings.config.store = .memory := by
  unfold config
  cases settings.storePath <;> simp [h]

/-- Settings that pass the checks of the daemon make a configuration that is valid. -/
theorem Checked.validate_config (h : settings.Checked) : settings.config.validate = .ok () := by
  have hprovider : settings.config.provider.validate = .ok () := by
    by_cases hsimulated : settings.providerType = "simulated"
    · rw [config_provider_of_simulated hsimulated]
      rfl
    · rw [config_provider_of_ne hsimulated]
      simp [ProviderConfig.validate, h.providerType, Json.isNull]
  have hstore : settings.config.store.validate = .ok () := by
    by_cases hfile : settings.storeType = "file"
    · obtain ⟨path, hpath, hne⟩ := h.storePath hfile
      rw [config_store_of_file hfile hpath]
      simp [StoreConfig.validate, hne]
    · rw [config_store_of_ne hfile]
      rfl
  have hengine : settings.config.engine.validate = .ok () := by
    have hresync : settings.resyncSecs ≠ 0 := by
      intro hzero
      have hle := h.resync.1
      rw [hzero] at hle
      cases hle
    simp [config, EngineConfig.validate, EngineConfig.default, hresync]
  unfold Config.validate
  rw [hprovider, hstore, hengine]
  rfl

/-- Settings that were read from the environment and meet every check give the configuration that
the environment asks for. -/
theorem ReadFrom.configured (hread : settings.ReadFrom environment) (hchecked : settings.Checked) :
    Configured environment settings.config where
  fileStore hfile := by
    have htype : settings.storeType = "file" := by rw [hread.storeType, hfile, Option.getD_some]
    obtain ⟨path, hpath, hne⟩ := hchecked.storePath htype
    exact ⟨path, hne, hread.storePath ▸ hpath, config_store_of_file htype hpath⟩
  memoryStore hother := by
    refine config_store_of_ne fun htype => ?_
    rw [hread.storeType] at htype
    cases hvalue : environment "AURORA_STORE_TYPE" with
    | none =>
      rw [hvalue] at htype
      revert htype
      decide
    | some value =>
      rw [hvalue, Option.getD_some] at htype
      exact hother (htype ▸ hvalue)
  simulated hsimulated := by
    refine ⟨_, config_provider_of_simulated (hread.providerType.trans hsimulated), ?_⟩
    exact ⟨hread.readyAfter, hread.deleteAfter, hread.dryRun⟩
  custom hcustom := by
    refine ⟨settings.dryRun, hread.dryRun, ?_⟩
    rw [← hread.providerType] at hcustom ⊢
    exact config_provider_of_ne hcustom
  stabilization := hread.stabilization
  stabilization_le := hchecked.stabilization
  resync := hread.resync
  resync_within := hchecked.resync

/-- Settings that can be read from an environment and pass the checks of the daemon make a
configuration that is valid and is the one that the environment asks for. -/
theorem checked_settings_configure (hread : ofEnvironment environment = .ok settings)
    (hchecked : Script.run system settings.validate.run files = (.ok (), left)) :
    settings.config.validate = .ok () ∧ Configured environment settings.config := by
  have h := checked_of_run_validate hchecked
  exact ⟨h.validate_config, (readFrom_of_ofEnvironment hread).configured h⟩

/-- An environment that asks for a store in a file and has its numbers between white space. -/
def fileEnvironment : Environment
  | "AURORA_STORE_TYPE" => some "file"
  | "AURORA_STORE_PATH" => some "objects.json"
  | "AURORA_SIM_READY_AFTER_POLLS" => some " +7 "
  | "AURORA_DRY_RUN" => some "Yes"
  | "AURORA_RESYNC_SECS" => some "3600\n"
  | _ => none

def fileSettings : Settings :=
  { providerType := "simulated"
    readyAfter := 7
    deleteAfter := 2
    dryRun := true
    storeType := "file"
    storePath := some "objects.json"
    manifests := none
    stabilizationSecs := 120
    resyncSecs := 3600
    logLevel := "info" }

/-- The environment of the example gives the settings of the example. -/
theorem ofEnvironment_fileEnvironment : ofEnvironment fileEnvironment = .ok fileSettings := by
  have hready : fileEnvironment.number "AURORA_SIM_READY_AFTER_POLLS" (UInt32.size - 1) 3 =
      .ok 7 := rfl
  have hdelete : fileEnvironment.number "AURORA_SIM_DELETE_AFTER_POLLS" (UInt32.size - 1) 2 =
      .ok 2 := rfl
  have hlower : (Text.trim "Yes").toLower = "yes" := by decide +kernel
  have hdry : fileEnvironment.flag "AURORA_DRY_RUN" = .ok true := by
    simp [Environment.flag, fileEnvironment, hlower]
  have hstabilization : fileEnvironment.number "AURORA_STABILIZATION_SECS" (UInt64.size - 1)
      EngineConfig.default.stabilizationSecs.toNat = .ok 120 := rfl
  have hresync : fileEnvironment.number "AURORA_RESYNC_SECS" (UInt64.size - 1)
      EngineConfig.default.resyncSecs.toNat = .ok 3600 := rfl
  unfold ofEnvironment
  simp only [hready, hdelete, hdry, hstabilization, hresync]
  rfl

/-- A demand that is met changes nothing. -/
theorem run_demand {condition : Bool} (refusal : Refusal) (h : condition = true) :
    Script.run system (demand condition refusal).run files = (.ok (), files) := by
  rw [h]
  rfl

/-- The settings of the example are accepted on an empty disk. -/
theorem run_validate_fileSettings :
    Script.run Disk.system fileSettings.validate.run Disk.empty = (.ok (), Disk.empty) := by
  have hlevel : decide (fileSettings.logLevel.toLower ∈
      ["trace", "debug", "info", "warn", "error"]) = true := by decide +kernel
  refine (Files.run_bind_of_ok (run_demand _ (by decide))).trans ?_
  refine (Files.run_bind_of_ok (run_demand _ (by decide))).trans ?_
  -- the store is beside the daemon, and no manifests are named
  refine (Files.run_bind_of_ok rfl).trans ?_
  refine (Files.run_bind_of_ok rfl).trans ?_
  refine (Files.run_bind_of_ok (run_demand _ (by decide))).trans ?_
  refine (Files.run_bind_of_ok (run_demand _ (by decide))).trans ?_
  refine (Files.run_bind_of_ok (run_demand _ (by decide))).trans ?_
  refine (Files.run_bind_of_ok (run_demand _ (by decide))).trans ?_
  exact run_demand _ hlevel

/-- An environment that asks for a file store is accepted and configures that store. -/
theorem checked_settings_configure_fileEnvironment :
    ofEnvironment fileEnvironment = .ok fileSettings ∧
      Script.run Disk.system fileSettings.validate.run Disk.empty = (.ok (), Disk.empty) ∧
      fileSettings.config.validate = .ok () ∧
      Configured fileEnvironment fileSettings.config :=
  ⟨ofEnvironment_fileEnvironment, run_validate_fileSettings,
    checked_settings_configure ofEnvironment_fileEnvironment run_validate_fileSettings⟩

end Settings

end Daemon

end Reconciler
