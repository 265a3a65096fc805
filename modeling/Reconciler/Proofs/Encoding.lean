import Reconciler.Config.Basic
import Reconciler.Proofs.Store.Document

/-!
# Encodings lose nothing

Objects and configurations are read back from what is written of them, in whatever order the
members come. A field that is left out is thus restored by what stands for it, and two objects with
one encoding are the same object. The settings of a custom provider or store may be any value:
they come back as they were written, or in the order in which they were given.
-/

set_option autoImplicit false

namespace Reconciler

open Json

/-! ## Settings of fixed form -/

/-- The settings of a simulator are read back from what is written of them. -/
theorem SimulatorConfig.restores (config : SimulatorConfig) :
    Restores ofJson? (.obj config.members) config := by
  refine restores_record fun members h => ?_
  refine .bind (h.reads rfl (restores_uInt32 config.readyAfter)) ?_
  refine .bind (h.reads rfl (restores_uInt32 config.deleteAfter)) ?_
  refine .bind (h.reads rfl ((rigid_bool config.dryRun).restores rfl)) ?_
  exact reads_pure config

/-- The settings of an engine are read back from what is written of them. -/
theorem EngineConfig.restores (config : EngineConfig) :
    Restores ofJson? config.toJson config := by
  refine restores_record fun members h => ?_
  refine .bind (h.reads rfl (restores_uInt64 config.stabilizationSecs)) ?_
  refine .bind (h.reads rfl (restores_uInt64 config.errorSecs)) ?_
  refine .bind (h.reads rfl (restores_uInt64 config.blockedSecs)) ?_
  refine .bind (h.reads rfl (restores_uInt64 config.pollSecs)) ?_
  refine .bind (h.reads rfl (restores_uInt64 config.resyncSecs)) ?_
  refine .bind (h.reads rfl (restores_uInt64 config.noticeCapacity)) ?_
  exact reads_pure config

/-! ## Settings of any form -/

namespace Json

/-- Reads custom settings, of a provider or a store: the name of a factory and any value. -/
def factoryReader {α : Type} (make : String → Json → α) : Reader α := do
  let factory ← Reader.required "factory" asText?
  let config ← Reader.required "config" some
  return make factory config

variable {α : Type} {factory : String} {config other : Json}

/-- Custom settings are read from the one factory and the one value that the members give. -/
theorem factoryReader_eq (make : String → Json → α) {members : List (String × Json)}
    (hfactory : named members "factory" = [.str factory])
    (hconfig : named members "config" = [config]) :
    toRecord? (factoryReader make) (.obj members) = some (make factory config) := by
  refine Reads.toRecord? ?_
  refine .bind (reads_field hfactory rfl) ?_
  refine .bind (reads_field hconfig rfl) ?_
  exact reads_pure (make factory config)

/-- Custom settings are read back with their factory, and with the value in the order in which it
was given. -/
theorem exists_custom (make : String → Json → α)
    (h : (obj [("factory", .str factory), ("config", config)]).Reordered other) :
    ∃ value, toRecord? (factoryReader make) other = some (make factory value) ∧
      config.Reordered value := by
  obtain ⟨members, rfl, hmembers⟩ := h.exists_members
  have hfactory : named members "factory" = [.str factory] :=
    hmembers.named_eq rfl (rigid_str factory)
  obtain ⟨value, hvalue, hsame⟩ := hmembers.exists_value "config" rfl
  exact ⟨value, factoryReader_eq make hfactory hvalue, hsame⟩

end Json

variable {other : Json}

namespace ProviderConfig

/-- Settings that differ at most in the order of members inside those of a custom provider. -/
inductive Reordered : ProviderConfig → ProviderConfig → Prop where
  | simulated (config : SimulatorConfig) : Reordered (.simulated config) (.simulated config)
  | custom (factory : String) {config other : Json} (h : config.Reordered other) :
      Reordered (.custom factory config) (.custom factory other)

/-- The settings of a provider are read back up to the order inside custom ones. -/
theorem exists_read {config : ProviderConfig} (h : config.toJson.Reordered other) :
    ∃ read, ofJson? other = some read ∧ config.Reordered read := by
  cases config with
  | simulated config =>
    obtain ⟨fields, htagged, hfields⟩ := exists_fields h rfl
    refine ⟨.simulated config, ?_, .simulated config⟩
    simp [ofJson?, htagged, config.restores fields hfields]
  | custom factory config =>
    obtain ⟨fields, htagged, hfields⟩ := exists_fields h rfl
    obtain ⟨value, hvalue, hsame⟩ := exists_custom ProviderConfig.custom hfields
    refine ⟨.custom factory value, ?_, .custom factory hsame⟩
    have hread : toRecord? customReader fields = some (.custom factory value) := hvalue
    simp [ofJson?, htagged, hread]

/-- The settings of a provider are read back as they were written. -/
theorem ofJson?_toJson (config : ProviderConfig) : ofJson? config.toJson = some config := by
  cases config with
  | simulated config =>
    obtain ⟨read, hread, hsame⟩ := exists_read (.refl (toJson (.simulated config)))
    cases hsame
    exact hread
  | custom factory config =>
    have hread : toRecord? customReader (.obj [("factory", .str factory), ("config", config)]) =
        some (.custom factory config) :=
      factoryReader_eq ProviderConfig.custom rfl rfl
    exact hread

end ProviderConfig

namespace StoreConfig

/-- Settings that differ at most in the order of members inside those of a custom store. -/
inductive Reordered : StoreConfig → StoreConfig → Prop where
  | memory : Reordered .memory .memory
  | file (path : String) : Reordered (.file path) (.file path)
  | custom (factory : String) {config other : Json} (h : config.Reordered other) :
      Reordered (.custom factory config) (.custom factory other)

/-- The settings of a store are read back up to the order inside custom ones. -/
theorem exists_read {config : StoreConfig} (h : config.toJson.Reordered other) :
    ∃ read, ofJson? other = some read ∧ config.Reordered read := by
  cases config with
  | memory =>
    obtain ⟨fields, htagged, hfields⟩ := exists_fields h rfl
    obtain ⟨members, rfl, hmembers⟩ := hfields.exists_members
    refine ⟨.memory, ?_, .memory⟩
    have hread : toRecord? (pure .memory) (.obj members) = some StoreConfig.memory := rfl
    simp [ofJson?, htagged, hread]
  | file path =>
    obtain ⟨fields, htagged, hfields⟩ := exists_fields h rfl
    refine ⟨.file path, ?_, .file path⟩
    have hread : toRecord? (StoreConfig.file <$> Reader.required "path" asText?) fields =
        some (.file path) := by
      refine restores_record (fun members hmembers => ?_) fields hfields
      exact .map StoreConfig.file (hmembers.reads rfl (restores_text path))
    simp [ofJson?, htagged, hread]
  | custom factory config =>
    obtain ⟨fields, htagged, hfields⟩ := exists_fields h rfl
    obtain ⟨value, hvalue, hsame⟩ := exists_custom StoreConfig.custom hfields
    refine ⟨.custom factory value, ?_, .custom factory hsame⟩
    have hread : toRecord? customReader fields = some (.custom factory value) := hvalue
    simp [ofJson?, htagged, hread]

/-- The settings of a store are read back as they were written. -/
theorem ofJson?_toJson (config : StoreConfig) : ofJson? config.toJson = some config := by
  cases config with
  | memory => rfl
  | file path => rfl
  | custom factory config =>
    have hread : toRecord? customReader (.obj [("factory", .str factory), ("config", config)]) =
        some (.custom factory config) :=
      factoryReader_eq StoreConfig.custom rfl rfl
    exact hread

end StoreConfig

namespace Config

/-- Configurations that differ at most in the order of members inside custom settings. -/
structure Reordered (config other : Config) : Prop where
  provider : config.provider.Reordered other.provider
  store : config.store.Reordered other.store
  engine : other.engine = config.engine

/-- A configuration is read from an object that gives each of its parts. -/
theorem ofJson?_of_named {config : Config} {members : List (String × Json)} {provider store : Json}
    (hprovider : named members "provider" = [provider])
    (hproviderRead : ProviderConfig.ofJson? provider = some config.provider)
    (hstore : named members "store" = [store])
    (hstoreRead : StoreConfig.ofJson? store = some config.store)
    (hengine : Reads members (Reader.defaulted "engine" EngineConfig.ofJson? .default)
      config.engine) :
    ofJson? (.obj members) = some config := by
  refine Reads.toRecord? ?_
  refine .bind (reads_field hprovider hproviderRead) ?_
  refine .bind (reads_field hstore hstoreRead) ?_
  refine .bind hengine ?_
  exact reads_pure config

/-- A configuration is read back up to the order inside custom settings. -/
theorem exists_read {config : Config} (h : config.toJson.Reordered other) :
    ∃ read, ofJson? other = some read ∧ config.Reordered read := by
  obtain ⟨members, rfl, hmembers⟩ := h.exists_members
  obtain ⟨provider, hprovider, hsame⟩ := hmembers.exists_value "provider" rfl
  obtain ⟨providerRead, hproviderRead, hproviderSame⟩ := ProviderConfig.exists_read hsame
  obtain ⟨store, hstore, hsame⟩ := hmembers.exists_value "store" rfl
  obtain ⟨storeRead, hstoreRead, hstoreSame⟩ := StoreConfig.exists_read hsame
  have hengine : Reads members (Reader.defaulted "engine" EngineConfig.ofJson? .default)
      config.engine :=
    hmembers.reads rfl config.engine.restores
  refine ⟨⟨providerRead, storeRead, config.engine⟩, ?_, ⟨hproviderSame, hstoreSame, rfl⟩⟩
  exact ofJson?_of_named hprovider hproviderRead hstore hstoreRead hengine

/-- A configuration is read back as it was written. -/
theorem ofJson?_toJson (config : Config) : ofJson? config.toJson = some config :=
  ofJson?_of_named rfl config.provider.ofJson?_toJson rfl config.store.ofJson?_toJson
    (reads_field rfl config.engine.restores.read_eq)

end Config

/-! ## The round trip -/

/-- Whatever the order of the members, an object is read back as it was, and a configuration as it
was up to the order inside custom settings; so an encoding has only one object behind it. -/
theorem encodings_lose_nothing :
    (∀ object : Declaration,
      Declaration.ofJson? object.toJson = some object ∧
      (∀ json, object.toJson.Reordered json → Declaration.ofJson? json = some object) ∧
      ∀ other : Declaration, object.toJson.Reordered other.toJson → object = other) ∧
    ∀ config : Config,
      Config.ofJson? config.toJson = some config ∧
      (∀ json, config.toJson.Reordered json →
        ∃ read, Config.ofJson? json = some read ∧ config.Reordered read) ∧
      ∀ other : Config, config.toJson.Reordered other.toJson → config.Reordered other := by
  refine ⟨fun object => ⟨object.restores.read_eq, object.restores, ?_⟩,
    fun config => ⟨config.ofJson?_toJson, fun json => Config.exists_read, ?_⟩⟩
  · intro other h
    have hread := object.restores other.toJson h
    rw [other.restores.read_eq] at hread
    exact (Option.some.inj hread).symm
  · intro other h
    obtain ⟨read, hread, hsame⟩ := Config.exists_read h
    rw [other.ofJson?_toJson] at hread
    rwa [Option.some.inj hread]

/-- An instance of which most fields are left out. -/
def sparseInstance : Declaration :=
  { key := ⟨.resource .dbInstance, "orders-1"⟩
    version := 18446744073709551615
    manifest := .resource .dbInstance ⟨"orders-1", "orders", "aurora-mysql", "db.r6g.large", none,
      none⟩
    status := .lifecycle ⟨.noState, -1, .empty⟩ }

/-- A configuration with a provider of its own that is told two things. -/
def customConfig : Config :=
  { provider := .custom "fleet" (.obj [("zone", .str "b"), ("limit", .real "0.5")])
    store := .custom "shelf" .null
    engine := .default }

/-- Both are read back with the members of all their objects in reverse. -/
theorem encodings_lose_nothing_reversed :
    Declaration.ofJson? (.obj [
        ("status", sparseInstance.status.toJson),
        ("manifest", .obj [
          ("spec", sparseInstance.manifest.specToJson), ("kind", .str "instance")]),
        ("resource_version", .int 18446744073709551615),
        ("key", sparseInstance.key.toJson)]) = some sparseInstance ∧
      ∃ read, Config.ofJson? (.obj [
        ("engine", customConfig.engine.toJson),
        ("store", customConfig.store.toJson),
        ("provider", .obj [
          ("config", .obj [("limit", .real "0.5"), ("zone", .str "b")]),
          ("factory", .str "fleet"), ("type", .str "custom")])]) = some read ∧
        customConfig.Reordered read := by
  have same {name : String} (json : Json) : name = name ∧ json.Reordered json := ⟨rfl, .refl json⟩
  constructor
  · refine (encodings_lose_nothing.1 sparseInstance).2.1 _ ?_
    have hmanifest : sparseInstance.manifest.toJson.Reordered
        (.obj [("spec", sparseInstance.manifest.specToJson), ("kind", .str "instance")]) :=
      .of_perm (List.reverse_perm _).symm (by decide) (.cons (same _) (.cons (same _) .nil))
    exact .of_perm (List.reverse_perm _).symm (by decide)
      (.cons (same _) (.cons ⟨rfl, hmanifest⟩ (.cons (same _) (.cons (same _) .nil))))
  · refine (encodings_lose_nothing.2 customConfig).2.1 _ ?_
    have hconfig : (obj [("zone", .str "b"), ("limit", .real "0.5")]).Reordered
        (.obj [("limit", .real "0.5"), ("zone", .str "b")]) :=
      .of_perm (List.reverse_perm _).symm (by decide) (.cons (same _) (.cons (same _) .nil))
    have hprovider : customConfig.provider.toJson.Reordered
        (.obj [("config", .obj [("limit", .real "0.5"), ("zone", .str "b")]),
          ("factory", .str "fleet"), ("type", .str "custom")]) :=
      .of_perm (List.reverse_perm _).symm (by decide)
        (.cons ⟨rfl, hconfig⟩ (.cons (same _) (.cons (same _) .nil)))
    exact .of_perm (List.reverse_perm _).symm (by decide)
      (.cons (same _) (.cons (same _) (.cons ⟨rfl, hprovider⟩ .nil)))

end Reconciler
