import SbtWorkspace.Config.Store
import SbtWorkspace.Proofs.Text.Utf8
import SbtWorkspace.Proofs.Toml.RoundTrip

/-! Settings that are written and read again. What is written names each field at most once, so a field
finds its own value, or none where it is not set. Main statement: `ofBytes_encode_serialize`. -/

namespace SbtWorkspace.Config

variable {α : Type} (c : Config)

/-! ## Keys -/

def optionalEntry {β : Type} (key : String) (value : α → β) (o : Option α) : List (String × β) :=
  o.toList.map fun a => (key, value a)

theorem find?_optionalEntry {β : Type} (key sought : String) (value : α → β) (o : Option α) :
    (optionalEntry key value o).find? (fun e => e.1 = sought) =
      if key = sought then o.map fun a => (key, value a) else none := by
  cases o with
  | none => simp [optionalEntry]
  | some a => by_cases h : key = sought <;> simp [optionalEntry, h]

theorem keys_optionalEntry {β : Type} (key : String) (value : α → β) (o : Option α) :
    ((optionalEntry key value o).map (·.1)).Sublist [key] := by
  cases o with
  | none => exact List.nil_sublist _
  | some a => exact List.Sublist.refl _

theorem entries_eq :
    c.entries =
      [("bloop_version", .string c.bloopVersion), ("bloop_sbt_already_installed", .boolean c.bloopInstalled)]
        ++ optionalEntry "sbt_script" (.string ·.render) c.sbtScript
        ++ optionalEntry "java_home" (.string ·.render) c.javaHome
        ++ optionalEntry "launcher_path" (.string ·.render) c.launcherPath
        ++ optionalEntry "home_dir" (.string ·.render) c.homeDir
        ++ optionalEntry "fallback_sbt_version" .string c.fallbackVersion :=
  rfl

def writtenNames : List String :=
  ["bloop_version", "bloop_sbt_already_installed", "sbt_script", "java_home", "launcher_path", "home_dir",
    "fallback_sbt_version"]

theorem keys_entries : (c.entries.map (·.1)).Sublist writtenNames := by
  simp only [entries_eq, List.map_append]
  exact (((((List.Sublist.refl _).append (keys_optionalEntry ..)).append (keys_optionalEntry ..)).append
    (keys_optionalEntry ..)).append (keys_optionalEntry ..)).append (keys_optionalEntry ..)

theorem isBareKey_of_mem : ∀ key ∈ writtenNames, Toml.IsBareKey key := by
  unfold Toml.IsBareKey
  decide

theorem mem_fieldNames : ∀ key ∈ writtenNames, key ∈ fieldNames := by
  decide

/-! ## Fields -/

def settings : List (String × Setting) := c.entries.map fun e => (e.1, Setting.ofToml e.2.toValue)

theorem settings_eq :
    c.settings =
      [("bloop_version", .string c.bloopVersion), ("bloop_sbt_already_installed", .boolean c.bloopInstalled)]
        ++ optionalEntry "sbt_script" (.string ·.render) c.sbtScript
        ++ optionalEntry "java_home" (.string ·.render) c.javaHome
        ++ optionalEntry "launcher_path" (.string ·.render) c.launcherPath
        ++ optionalEntry "home_dir" (.string ·.render) c.homeDir
        ++ optionalEntry "fallback_sbt_version" .string c.fallbackVersion := by
  simp only [settings, entries_eq, List.map_append, optionalEntry, List.map_map]
  rfl

theorem readField_of_find? {settings : List (String × Setting)} {key : String} {v : Setting}
    {check : Setting → Except Defect α} {unset a : α}
    (h : settings.find? (fun e => e.1 = key) = some (key, v)) (hc : check v = .ok a) :
    readField settings key check unset = .ok a := by
  rw [readField, h]
  simp only [hc]

/-- A field that need not be set is read as it was written. -/
theorem readField_optional {settings : List (String × Setting)} {key : String} {v : α → Setting}
    {check : Setting → Except Defect (Option α)} {o : Option α}
    (h : settings.find? (fun e => e.1 = key) = o.map fun a => (key, v a))
    (hc : ∀ a, check (v a) = .ok (some a)) : readField settings key check none = .ok o := by
  cases o with
  | none => rw [readField, h]; rfl
  | some a => exact readField_of_find? h (hc a)

theorem optionalPath_render (p : Path) : optionalPath (.string p.render) = .ok (some p) := by
  rw [optionalPath, Path.parse_render]

theorem validate_settings : validate c.settings = .ok c := by
  have hunknown : (c.settings.filter fun s => !fieldNames.contains s.1) = [] := by
    refine List.filter_eq_nil_iff.2 fun s hs => ?_
    obtain ⟨e, he, rfl⟩ := List.mem_map.1 hs
    simpa using mem_fieldNames e.1 ((keys_entries c).subset (List.mem_map_of_mem he))
  have hscript : readField c.settings "sbt_script" optionalPath none = .ok c.sbtScript :=
    readField_optional (by simp [settings_eq, find?_optionalEntry]) optionalPath_render
  have hjava : readField c.settings "java_home" optionalPath none = .ok c.javaHome :=
    readField_optional (by simp [settings_eq, find?_optionalEntry]) optionalPath_render
  have hlauncher : readField c.settings "launcher_path" optionalPath none = .ok c.launcherPath :=
    readField_optional (by simp [settings_eq, find?_optionalEntry]) optionalPath_render
  have hversion : readField c.settings "bloop_version" nonemptyString
      ⟨default.bloopVersion, default.bloopVersion_ne⟩ = .ok ⟨c.bloopVersion, c.bloopVersion_ne⟩ :=
    readField_of_find? (v := .string c.bloopVersion) (by simp [settings_eq]) (dif_pos c.bloopVersion_ne)
  have hinstalled : readField c.settings "bloop_sbt_already_installed" boolean false =
      .ok c.bloopInstalled :=
    readField_of_find? (v := .boolean c.bloopInstalled) (by simp [settings_eq]) rfl
  have hfallback : readField c.settings "fallback_sbt_version" optionalString none =
      .ok c.fallbackVersion :=
    readField_optional (v := .string) (by simp [settings_eq, find?_optionalEntry]) fun _ => rfl
  have hhome : readField c.settings "home_dir" optionalPath none = .ok c.homeDir :=
    readField_optional (by simp [settings_eq, find?_optionalEntry]) optionalPath_render
  simp only [validate, hscript, hjava, hlauncher, hversion, hinstalled, hfallback, hhome, hunknown]
  rfl

/-- What is written is read as the settings that it was written for. -/
theorem ofBytes_encode_serialize (levels : Nat) : ofBytes levels (Utf8.encode c.serialize) = .ok c := by
  have hbare : ∀ e ∈ c.entries, Toml.IsBareKey e.1 := fun e he =>
    isBareKey_of_mem e.1 ((keys_entries c).subset (List.mem_map_of_mem he))
  have hdistinct : (c.entries.map (·.1)).Nodup := (keys_entries c).nodup (by decide)
  have hvalid : validate ((c.entries.map fun e => (e.1, e.2.toValue)).map
      fun e => (e.1, Setting.ofToml e.2)) = .ok c := by
    rw [List.map_map]
    exact validate_settings c
  simp only [ofBytes, Utf8.decode_encode, ofToml, serialize, Toml.parse_render hbare hdistinct levels, hvalid]

end SbtWorkspace.Config
