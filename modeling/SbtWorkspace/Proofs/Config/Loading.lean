import SbtWorkspace.Proofs.Config.Store
import SbtWorkspace.Proofs.Toml.Refusal

/-! What loading a configuration file comes to, for every content of the file. A file that is there is read
and neither missed nor changed, so the octets decide; they may be no text, no document, or a document that
does not fit the settings. Main statement: `load_regular`. -/

namespace SbtWorkspace.Config
open FileSystem SbtWorkspace.Action

variable {c : Context} {m : Machine} {path : Option Path} {saved : Path}

/-! ## Validation -/

variable {α : Type} {settings : List (String × Setting)} {key : String} {check : Setting → Except Defect α}
  {unset : α} {found : List Invalid} {i : Invalid}

/-- A field is only refused for a value that is given for it. -/
theorem mem_keys_of_readField (h : i ∈ invalidOf (readField settings key check unset)) :
    i.key ∈ settings.map (·.1) := by
  unfold readField at h
  split at h
  · cases h
  rename_i name value hf
  split at h
  · cases h
  obtain rfl := List.mem_singleton.1 h
  have hname := List.find?_some hf
  have hmem := List.mem_map_of_mem (f := (·.1)) (List.mem_of_find?_eq_some hf)
  obtain rfl : name = key := of_decide_eq_true hname
  exact hmem

theorem eq_ok_of_invalidOf {x : Except Invalid α} (h : invalidOf x = []) : ∃ a, x = .ok a := by
  cases x with
  | ok a => exact ⟨a, rfl⟩
  | error e => cases h

/-- Settings are refused for something, and for nothing but what is given. -/
theorem of_validate (h : validate settings = .error found) :
    found ≠ [] ∧ ∀ i ∈ found, i.key ∈ settings.map (·.1) := by
  simp only [validate] at h
  split at h
  · cases h
  rename_i hfits
  cases h
  constructor
  · intro hnone
    simp only [List.append_eq_nil_iff] at hnone
    obtain ⟨⟨⟨⟨⟨⟨⟨h₁, h₂⟩, h₃⟩, h₄⟩, h₅⟩, h₆⟩, h₇⟩, h₈⟩ := hnone
    obtain ⟨_, h₁⟩ := eq_ok_of_invalidOf h₁
    obtain ⟨_, h₂⟩ := eq_ok_of_invalidOf h₂
    obtain ⟨_, h₃⟩ := eq_ok_of_invalidOf h₃
    obtain ⟨⟨_, _⟩, h₄⟩ := eq_ok_of_invalidOf h₄
    obtain ⟨_, h₅⟩ := eq_ok_of_invalidOf h₅
    obtain ⟨_, h₆⟩ := eq_ok_of_invalidOf h₆
    obtain ⟨_, h₇⟩ := eq_ok_of_invalidOf h₇
    exact hfits _ _ _ _ _ _ _ _ h₁ h₂ h₃ h₄ h₅ h₆ h₇ h₈
  · intro i hi
    simp only [List.mem_append] at hi
    obtain ((((((hi | hi) | hi) | hi) | hi) | hi) | hi) | hi := hi
    · exact mem_keys_of_readField hi
    · exact mem_keys_of_readField hi
    · exact mem_keys_of_readField hi
    · exact mem_keys_of_readField hi
    · exact mem_keys_of_readField hi
    · exact mem_keys_of_readField hi
    · exact mem_keys_of_readField hi
    · obtain ⟨s, hs, rfl⟩ := List.mem_map.1 hi
      exact List.mem_map_of_mem (List.mem_filter.1 hs).1

/-! ## Content -/

/-- What a text comes to: settings; an error of the configuration, whose defects each name a key of the
document; or a failure of another kind, for which the text is an extreme one. -/
inductive Outcome (levels : Nat) (text : List Char) : Except Failure Config → Prop
  | settings {table : Toml.Table} {config : Config} : Toml.parse levels text = .ok table →
      validate (table.map fun e => (e.1, Setting.ofToml e.2)) = .ok config → Outcome levels text (.ok config)
  | malformed : Toml.parse levels text = .error .malformed → Outcome levels text (.error (.config .malformed))
  | invalid {table : Toml.Table} {found : List Invalid} : Toml.parse levels text = .ok table → found ≠ [] →
      (∀ i ∈ found, i.key ∈ table.map (·.1)) → Outcome levels text (.error (.config (.invalid found)))
  | tooManyDigits {count : Nat} : Numeral.maxDigits < count → count ≤ text.countP Toml.Lexeme.isDecimal →
      Outcome levels text (.error (.tooManyDigits count))
  | tooDeep : levels < Toml.tableLevels * text.countP Toml.isOpening → Outcome levels text (.error .tooDeep)

theorem outcome_ofToml (levels : Nat) (text : List Char) : Outcome levels text (ofToml levels text) := by
  unfold ofToml
  split
  · rename_i hp
    exact .malformed hp
  · rename_i count hp
    have habout := Toml.isAbout_of_parse hp
    exact .tooManyDigits habout.1 habout.2
  · rename_i hp
    exact .tooDeep (Toml.isAbout_of_parse hp)
  · rename_i table hp
    split
    · rename_i config hv
      exact .settings hp hv
    · rename_i found hv
      obtain ⟨hne, hkeys⟩ := of_validate hv
      refine .invalid hp hne fun i hi => ?_
      simpa using hkeys i hi

/-- What octets come to: the outcome of their text, or a failure if they are no text. -/
inductive Reading (levels : Nat) (bytes : Bytes) (r : Except Failure Config) : Prop
  | text (text : List Char) : Utf8.decode bytes = .ok text → Outcome levels text r → Reading levels bytes r
  | noText (e : Utf8.Error) : Utf8.decode bytes = .error e → r = .error (.notText e) → Reading levels bytes r

theorem reading_ofBytes (levels : Nat) (bytes : Bytes) : Reading levels bytes (ofBytes levels bytes) := by
  cases hd : Utf8.decode bytes with
  | ok text =>
    refine .text text hd ?_
    rw [ofBytes, hd]
    exact outcome_ofToml levels text
  | error e => exact .noText e hd (by rw [ofBytes, hd])

theorem ne_notFound_of_reading {bytes : Bytes} {r : Except Failure Config} (h : Reading levels bytes r) (p : Path) :
    r ≠ .error (.config (.notFound p)) := by
  rintro rfl
  cases h with
  | text text _ h => cases h
  | noText e _ h => cases h

/-! ## Files -/

/-- Settings are loaded from a regular file, whatever its content, as its octets have it, and all is left as
it is; that defaults are allowed makes no difference. What comes out is a configuration that was validated, an
error of the configuration, or a failure of another kind: the octets are no text, an integer has too many
digits, or values are nested too deeply. -/
theorem load_regular (hpath : path.or c.env.configPath? = some saved) {loc : Location} {bytes : Bytes}
    {executable : Bool} (hs : m.files.status c.cwd saved.route = .ok (loc, .file bytes executable)) :
    ∃ r, (load path).run c m = (r, m) ∧ (loadOrDefault path).run c m = (r, m) ∧
      Reading c.host.levels bytes r := by
  have hload := run_load hpath hs
  have hr := reading_ofBytes c.host.levels bytes
  refine ⟨ofBytes c.host.levels bytes, hload, ?_, hr⟩
  rw [loadOrDefault, run_tryCatch, hload]
  cases ho : ofBytes c.host.levels bytes with
  | ok config => rfl
  | error e =>
    rw [ho] at hr
    dsimp only
    split
    · rename_i p
      exact absurd rfl (ne_notFound_of_reading hr p)
    · rfl

/-- A file with a version that is a number, and a setting that there is none of. -/
def mistyped : Bytes := Utf8.encode "bloop_version = 5\ncolor = \"red\"\n"

theorem load_regular_mistyped :
    FileSystem.status (.place .empty [] "c.toml" (.file mistyped false)) [] (Path.parse "c.toml").route =
        .ok (["c.toml"], .file mistyped false) ∧
      ∃ r, (load (some (.parse "c.toml"))).run .bare
            { files := .place .empty [] "c.toml" (.file mistyped false) } =
          (r, { files := .place .empty [] "c.toml" (.file mistyped false) }) ∧
        (loadOrDefault (some (.parse "c.toml"))).run .bare
            { files := .place .empty [] "c.toml" (.file mistyped false) } =
          (r, { files := .place .empty [] "c.toml" (.file mistyped false) }) ∧
        Reading Host.bare.levels mistyped r := by
  have hs : FileSystem.status (.place .empty [] "c.toml" (.file mistyped false)) []
      (Path.parse "c.toml").route = .ok (["c.toml"], .file mistyped false) := by
    decide +kernel
  exact ⟨hs, load_regular rfl hs⟩

/-- A file of one octet that starts no character: what fails is no error of the configuration. -/
theorem load_octet :
    ∃ fs : FileSystem, fs.status [] (Path.parse "c.toml").route = .ok (["c.toml"], .file [0xff] false) ∧
      ((load (some (.parse "c.toml"))).run .bare { files := fs }).1 =
        .error (.notText (.invalidStart 0xff 0)) ∧
      ((loadOrDefault (some (.parse "c.toml"))).run .bare { files := fs }).1 =
        .error (.notText (.invalidStart 0xff 0)) :=
  ⟨.place .empty [] "c.toml" (.file [0xff] false), by decide +kernel, by decide +kernel, by decide +kernel⟩

end SbtWorkspace.Config
