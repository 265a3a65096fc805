import Reconciler.Catalog
import Reconciler.Proofs.Encoding

/-!
# The settings of the simulator, read twice

The settings of the simulator are read by the configuration, where they stand beside the type of the
provider, and by the simulator itself when it is made. Both say what each setting is called, what
it may be and what stands for it when it is left off. They agree on every object: on which ones they
refuse, and on the simulator that is made in the end (`simulator_settings_read_alike`).
-/

set_option autoImplicit false

namespace Reconciler

open Json

/-- What an object says of the settings of the simulator. Members of other names do not matter, but
a setting that is named twice or has a value of another sort is no setting of any simulator. -/
structure SimulatorConfig.ToldBy (members : List (String × Json)) (config : SimulatorConfig) :
    Prop where
  readyAfter : Says members "ready_after_polls" (fun n => ofNat n.toNat) 3 config.readyAfter
  deleteAfter : Says members "delete_after_polls" (fun n => ofNat n.toNat) 2 config.deleteAfter
  dryRun : Says members "dry_run" .bool false config.dryRun

/-- The second object is the first one with a member set to a value, wherever the member stands. -/
def Json.Sets (name : String) (value : Json) (members others : List (String × Json)) : Prop :=
  named others name = [value] ∧ ∀ field, field ≠ name → named others field = named members field

namespace SimulatorConfig

variable {members others : List (String × Json)} {config : SimulatorConfig}

/-- Only the three settings matter. -/
theorem ToldBy.congr (h : ∀ field, field ≠ "type" → named others field = named members field) :
    config.ToldBy others ↔ config.ToldBy members := by
  constructor
  · rintro ⟨hready, hdelete, hdry⟩
    exact ⟨(Says.congr (h _ (by decide))).mp hready, (Says.congr (h _ (by decide))).mp hdelete,
      (Says.congr (h _ (by decide))).mp hdry⟩
  · rintro ⟨hready, hdelete, hdry⟩
    exact ⟨(Says.congr (h _ (by decide))).mpr hready, (Says.congr (h _ (by decide))).mpr hdelete,
      (Says.congr (h _ (by decide))).mpr hdry⟩

/-- Each reader of a setting keeps what the others have read. -/
theorem keeps_reader : Keeps reader := by
  refine (keeps_field _ _ _ _).bind fun readyAfter => ?_
  refine (keeps_field _ _ _ _).bind fun deleteAfter => ?_
  refine (keeps_field _ _ _ _).bind fun dryRun => ?_
  exact keeps_pure _

/-- A configuration is read from an object exactly when each of its settings is told by a member. -/
theorem ofJson?_eq_some_iff : ofJson? (.obj members) = some config ↔ config.ToldBy members := by
  unfold ofJson?
  rw [keeps_reader.toRecord?_eq_some_iff]
  unfold reader Reader.defaulted
  rw [(keeps_field _ _ _ _).reads_bind_iff]
  constructor
  · rintro ⟨readyAfter, hready, hrest⟩
    obtain ⟨deleteAfter, hdelete, hrest⟩ := (keeps_field _ _ _ _).reads_bind_iff.mp hrest
    obtain ⟨dryRun, hdry, hrest⟩ := (keeps_field _ _ _ _).reads_bind_iff.mp hrest
    obtain rfl := reads_pure_iff.mp hrest
    exact ⟨(reads_defaulted_iff fun _ _ => toUInt32?_eq_some_iff).mp hready,
      (reads_defaulted_iff fun _ _ => toUInt32?_eq_some_iff).mp hdelete,
      (reads_defaulted_iff fun _ _ => toBool?_eq_some_iff).mp hdry⟩
  · rintro ⟨hready, hdelete, hdry⟩
    refine ⟨config.readyAfter,
      (reads_defaulted_iff fun _ _ => toUInt32?_eq_some_iff).mpr hready, ?_⟩
    refine .bind ((reads_defaulted_iff fun _ _ => toUInt32?_eq_some_iff).mpr hdelete) ?_
    refine .bind ((reads_defaulted_iff fun _ _ => toBool?_eq_some_iff).mpr hdry) ?_
    exact reads_pure config

end SimulatorConfig

variable {members tagged : List (String × Json)} {made : SimulatorConfig}

/-- What the simulator reads by itself is what its settings say. -/
theorem Catalog.makeSimulator_eq_ok_iff :
    makeSimulator (.obj members) = .ok made ↔ made.ToldBy members := by
  have hsame : toRecord? simulatorReader (.obj members) = SimulatorConfig.ofJson? (.obj members) :=
    rfl
  rw [← SimulatorConfig.ofJson?_eq_some_iff]
  unfold makeSimulator
  rw [hsame]
  cases SimulatorConfig.ofJson? (.obj members) <;> simp

/-- What the configuration reads beside the type is what the settings say. -/
theorem ProviderConfig.ofJson?_eq_some_iff {config : ProviderConfig}
    (h : named members "type" = [.str "simulated"]) :
    ofJson? (.obj members) = some config ↔
      ∃ simulator : SimulatorConfig, simulator.ToldBy members ∧ config = .simulated simulator := by
  have htagged : toTagged? "type" (.obj members) =
      some ("simulated", .obj (members.filter (·.1 ≠ "type"))) := by
    simp [toTagged?, h]
  have hrest : ∀ field, field ≠ "type" →
      named (members.filter (·.1 ≠ "type")) field = named members field := by
    intro field hfield
    rw [named_filter_ne, if_neg hfield]
  have hread : ofJson? (.obj members) =
      (SimulatorConfig.ofJson? (.obj (members.filter (·.1 ≠ "type")))).map .simulated := by
    simp [ofJson?, htagged]
  rw [hread, Option.map_eq_some_iff]
  constructor
  · rintro ⟨simulator, hsimulator, rfl⟩
    exact ⟨simulator, (SimulatorConfig.ToldBy.congr hrest).mp
      (SimulatorConfig.ofJson?_eq_some_iff.mp hsimulator), rfl⟩
  · rintro ⟨simulator, hsimulator, rfl⟩
    exact ⟨simulator, SimulatorConfig.ofJson?_eq_some_iff.mpr
      ((SimulatorConfig.ToldBy.congr hrest).mpr hsimulator), rfl⟩

/-- The simulator that an object tells of is made by way of the configuration, too. -/
theorem Catalog.makeSimulator_settings (simulator : SimulatorConfig) :
    makeSimulator (ProviderConfig.simulated simulator).settings = .ok simulator :=
  makeSimulator_eq_ok_iff.mpr (SimulatorConfig.ofJson?_eq_some_iff.mp simulator.restores.read_eq)

/-- Of every object, the configuration makes something of the settings beside the type of the
simulator exactly when the simulator makes something of them without it. They then agree, and the
simulator that is made by way of the configuration is the one that is made of the settings
directly; it is the one that the object tells of. -/
theorem simulator_settings_read_alike (h : Sets "type" (.str "simulated") members tagged) :
    ((∃ config, ProviderConfig.ofJson? (.obj tagged) = some config) ↔
      ∃ made, Catalog.makeSimulator (.obj (members.filter (·.1 ≠ "type"))) = .ok made) ∧
    (∀ config made, ProviderConfig.ofJson? (.obj tagged) = some config →
      Catalog.makeSimulator (.obj (members.filter (·.1 ≠ "type"))) = .ok made →
      Catalog.makeSimulator config.settings = .ok made) ∧
    (∀ made, Catalog.makeSimulator (.obj (members.filter (·.1 ≠ "type"))) = .ok made ↔
      made.ToldBy members) := by
  have hplain : ∀ made, Catalog.makeSimulator (.obj (members.filter (·.1 ≠ "type"))) = .ok made ↔
      made.ToldBy members := by
    intro made
    rw [Catalog.makeSimulator_eq_ok_iff]
    refine SimulatorConfig.ToldBy.congr fun field hfield => ?_
    rw [named_filter_ne, if_neg hfield]
  have htagged : ∀ config, ProviderConfig.ofJson? (.obj tagged) = some config ↔
      ∃ simulator : SimulatorConfig, simulator.ToldBy members ∧ config = .simulated simulator := by
    intro config
    rw [ProviderConfig.ofJson?_eq_some_iff h.1]
    simp only [SimulatorConfig.ToldBy.congr h.2]
  refine ⟨?accepted, ?same, hplain⟩
  case accepted =>
    simp only [htagged, hplain]
    constructor
    · rintro ⟨-, simulator, htold, -⟩
      exact ⟨simulator, htold⟩
    · rintro ⟨simulator, htold⟩
      exact ⟨.simulated simulator, simulator, htold, rfl⟩
  case same =>
    intro config made hconfig hmade
    obtain ⟨simulator, htold, rfl⟩ := (htagged config).mp hconfig
    have hdirect := (hplain simulator).mpr htold
    rw [hmade] at hdirect
    cases hdirect
    exact Catalog.makeSimulator_settings made

/-- Settings of a simulator among others, with the type of another provider. -/
def mixedSettings : List (String × Json) :=
  [("dry_run", .bool true), ("type", .str "custom"), ("ready_after_polls", .int 7),
   ("note", .real "0.5")]

/-- Settings that stand in another order and next to an unknown one are read alike by both
readers. -/
theorem simulator_settings_read_alike_mixedSettings :
    Sets "type" (.str "simulated") mixedSettings
        (("type", .str "simulated") :: mixedSettings.filter (·.1 ≠ "type")) ∧
      ProviderConfig.ofJson?
          (.obj (("type", .str "simulated") :: mixedSettings.filter (·.1 ≠ "type"))) =
        some (.simulated ⟨7, 2, true⟩) ∧
      Catalog.makeSimulator (.obj (mixedSettings.filter (·.1 ≠ "type"))) = .ok ⟨7, 2, true⟩ ∧
      Catalog.makeSimulator (ProviderConfig.simulated ⟨7, 2, true⟩).settings =
        .ok ⟨7, 2, true⟩ := by
  have hsets : Sets "type" (.str "simulated") mixedSettings
      (("type", .str "simulated") :: mixedSettings.filter (·.1 ≠ "type")) := by
    refine ⟨rfl, fun field hfield => ?_⟩
    rw [named_cons, if_neg (Ne.symm hfield), named_filter_ne, if_neg hfield]
  have hread : ProviderConfig.ofJson?
      (.obj (("type", .str "simulated") :: mixedSettings.filter (·.1 ≠ "type"))) =
        some (.simulated ⟨7, 2, true⟩) := rfl
  have hmade : Catalog.makeSimulator (.obj (mixedSettings.filter (·.1 ≠ "type"))) =
      .ok ⟨7, 2, true⟩ := rfl
  exact ⟨hsets, hread, hmade, (simulator_settings_read_alike hsets).2.1 _ _ hread hmade⟩

end Reconciler
