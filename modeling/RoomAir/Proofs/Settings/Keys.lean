import RoomAir.Proofs.Settings.Variables
import RoomAir.Proofs.Traversal
import RoomAir.Settings

/-! The settings one by one: under which key each of them is, and what the layers give for it. -/

namespace RoomAir.Settings

open Environment (textOf?)

/-! ## Keys -/

/-- What a setting may be. -/
inductive Kind where
  | text
  /-- A text that may be missing or null. -/
  | optionalText
  | count
  deriving DecidableEq, Repr

/-- A setting by itself. -/
inductive Taken where
  | text (value : String)
  | count (value : Nat)
  | nothing
  deriving DecidableEq, Repr

/-- What a setting of some kind is taken to be from what is given for it. -/
def Kind.take? : Kind → Option Config → Option Taken
  | .text, given => (given.bind Config.asText?).map .text
  | .count, given => (given.bind Config.asCount?).map .count
  | .optionalText, none => some .nothing
  | .optionalText, some .null => some .nothing
  | .optionalText, some given => given.asText?.map .text

/-- A value is taken for the same whatever it has been laid over. -/
@[simp] theorem Kind.take?_overlay (kind : Kind) (base value : Config) :
    kind.take? (some (base.overlay value)) = kind.take? (some value) := by
  -- Only a table is joined with what it covers, and no kind takes a table.
  cases value with
  | table entries => cases kind <;> rfl
  | _ => rfl

/-- Which of the settings. -/
inductive Key where
  | bind
  | url
  | path
  | timeoutSeconds
  | intervalSeconds
  | timeFormat
  | chartScript
  | adapterScript
  deriving DecidableEq, Repr

namespace Key

/-- Where a setting is, and what it may be. -/
structure Place where
  part : String
  name : String
  /-- Its position in a section that is a list. -/
  position : Nat
  kind : Kind

/-- The place of each setting. -/
def place : Key → Place
  | .bind => ⟨"server", "bind", 0, .text⟩
  | .url => ⟨"source", "url", 0, .optionalText⟩
  | .path => ⟨"source", "path", 1, .text⟩
  | .timeoutSeconds => ⟨"source", "timeout_secs", 2, .count⟩
  | .intervalSeconds => ⟨"refresh", "interval_secs", 0, .count⟩
  | .timeFormat => ⟨"display", "time_format", 0, .text⟩
  | .chartScript => ⟨"display", "chart_js_url", 1, .text⟩
  | .adapterScript => ⟨"display", "chart_adapter_url", 2, .text⟩

/-- The key of a setting in the layer of an environment. -/
def text (key : Key) : String :=
  key.place.part ++ "." ++ key.place.name

/-- What a setting is where no layer gives it. -/
def default? (key : Key) : Option Config :=
  defaults.nested? key.place.part key.place.name

/-- The key of a setting spells the name of its section and its own. -/
theorem ofKey_text (key : Key) :
    KeyPath.ofKey key.text = [.key key.place.part, .key key.place.name] := by
  cases key <;> decide +kernel

/-- All sections have defaults. -/
theorem exists_defaults (key : Key) :
    ∃ entries, defaults.get? key.place.part = some (.table entries)
      ∧ entries.lookup key.place.name = key.default? := by
  -- Each of the eight is looked up in the defaults.
  cases key <;> exact ⟨_, rfl, rfl⟩

/-- What holds of all settings holds of each one by its name. -/
theorem forall_iff {holds : Key → Prop} :
    (∀ key, holds key) ↔ holds .bind ∧ holds .url ∧ holds .path ∧ holds .timeoutSeconds
      ∧ holds .intervalSeconds ∧ holds .timeFormat ∧ holds .chartScript ∧ holds .adapterScript := by
  constructor
  · intro all
    exact ⟨all _, all _, all _, all _, all _, all _, all _, all _⟩
  · rintro ⟨bind, url, path, timeoutSeconds, intervalSeconds, timeFormat, chartScript,
      adapterScript⟩ key
    cases key <;> assumption

end Key

/-- One of the settings. -/
def taken (settings : Settings) : Key → Taken
  | .bind => .text settings.bind
  | .url => settings.url.elim .nothing .text
  | .path => .text settings.path
  | .timeoutSeconds => .count settings.timeoutSeconds
  | .intervalSeconds => .count settings.intervalSeconds
  | .timeFormat => .text settings.display.timeFormat
  | .chartScript => .text settings.display.chartScript
  | .adapterScript => .text settings.display.adapterScript

/-! ## Reading a configuration -/

section

variable {config : Config} {position : Nat} {name : String}

/-- A field is read as a text exactly when what is given for it is taken for that text. -/
theorem text_eq_ok_iff {value : String} :
    text config position name = .ok value
      ↔ Kind.text.take? (config.field? position name) = some (.text value) := by
  rw [text, required, Kind.take?]
  -- A field must be there, and then its value must be one that is taken for a text.
  cases config.field? position name with
  | none => simp [Bind.bind, Except.bind]
  | some given => cases taken : given.asText? <;> simp [Bind.bind, Except.bind, taken]

/-- A field is read as a count exactly when what is given for it is taken for that count. -/
theorem count_eq_ok_iff {value : Nat} :
    count config position name = .ok value
      ↔ Kind.count.take? (config.field? position name) = some (.count value) := by
  rw [count, required, Kind.take?]
  -- The same two things can go wrong as with a text.
  cases config.field? position name with
  | none => simp [Bind.bind, Except.bind]
  | some given => cases taken : given.asCount? <;> simp [Bind.bind, Except.bind, taken]

/-- A field may be read as no text, which is when it is missing or null. -/
theorem optionalText_eq_ok_iff {value : Option String} :
    optionalText config position name = .ok value
      ↔ Kind.optionalText.take? (config.field? position name)
        = some (value.elim .nothing .text) := by
  -- Where there is a value other than null, it is read as a text that must be one.
  have texts : (text config position name).map some = .ok value
      ↔ Kind.text.take? (config.field? position name) = some (value.elim .nothing .text) := by
    cases value with
    | none =>
      -- A text that is there is neither read as nothing nor taken for it.
      refine iff_of_false (fun read => ?_) fun taken => ?_
      · cases found : text config position name <;> simp [found, Except.map] at read
      · obtain ⟨_, -, same⟩ := Option.map_eq_some_iff.mp taken
        cases same
    | some value =>
      rw [Option.elim_some, ← text_eq_ok_iff]
      cases text config position name <;> simp [Except.map]
  rw [optionalText]
  -- A field that is missing or null is read as nothing without looking at its kind.
  cases given : config.field? position name with
  | none => cases value <;> simp [Kind.take?]
  | some found =>
    rw [given] at texts
    cases found with
    | null => cases value <;> simp [Kind.take?]
    | _ => exact texts

/-- Settings are those of a configuration when each is what its field is taken for. -/
theorem ofConfig_eq_ok_iff {settings : Settings} :
    ofConfig config = .ok settings
      ↔ ∀ key : Key, key.place.kind.take?
          ((part config key.place.part).field? key.place.position key.place.name)
        = some (settings.taken key) := by
  rw [Key.forall_iff]
  simp only [ofConfig, bind_eq_ok_iff, text_eq_ok_iff, count_eq_ok_iff, optionalText_eq_ok_iff,
    Key.place, taken]
  -- The fields are read in turn, and the settings are made of just what was read.
  constructor
  · rintro ⟨bind, bindTaken, url, urlTaken, path, pathTaken, timeout, timeoutTaken, interval,
      intervalTaken, format, formatTaken, chart, chartTaken, adapter, adapterTaken, made⟩
    obtain rfl := Except.ok.inj made
    exact ⟨bindTaken, urlTaken, pathTaken, timeoutTaken, intervalTaken, formatTaken, chartTaken,
      adapterTaken⟩
  · rintro ⟨bindTaken, urlTaken, pathTaken, timeoutTaken, intervalTaken, formatTaken, chartTaken,
      adapterTaken⟩
    exact ⟨_, bindTaken, _, urlTaken, _, pathTaken, _, timeoutTaken, _, intervalTaken, _,
      formatTaken, _, chartTaken, _, adapterTaken, rfl⟩

end

/-- Settings are loaded when a file has a layer, and they are those of all layers and accepted. -/
theorem load_eq_ok_iff {files : List (String × Bytes)} {environment : List (String × String)}
    {settings : Settings} :
    load files environment = .ok settings
      ↔ ∃ file, ConfigFile.layer? files = some file
        ∧ ofConfig (layered file (Environment.layer environment)) = .ok settings
        ∧ (TimePattern.ofText settings.display.timeFormat).isAccepted = true := by
  -- The check at the end lets settings through as they are or not at all.
  have accepts (made : Settings) : checked made = .ok settings
      ↔ made = settings ∧ (TimePattern.ofText settings.display.timeFormat).isAccepted = true := by
    rw [checked]
    -- So what was made of the layers is what is loaded.
    constructor
    · intro loaded
      split at loaded
      case isTrue accepted =>
        obtain rfl := Except.ok.inj loaded
        exact ⟨rfl, accepted⟩
      case isFalse => cases loaded
    · rintro ⟨rfl, accepted⟩
      rw [if_pos accepted]
  rw [load]
  cases ConfigFile.layer? files with
  | none => simp
  | some file =>
    have made : ofLayers file environment = .ok settings
        ↔ ∃ made, ofConfig (layered file (Environment.layer environment)) = .ok made
          ∧ checked made = .ok settings := bind_eq_ok_iff
    simp only [made, accepts, Option.some.injEq, exists_eq_left']
    constructor
    · rintro ⟨made, read, rfl, accepted⟩
      exact ⟨read, accepted⟩
    · rintro ⟨read, accepted⟩
      exact ⟨settings, read, rfl, accepted⟩

end RoomAir.Settings
