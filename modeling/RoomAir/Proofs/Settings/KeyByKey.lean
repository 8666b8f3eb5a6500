import RoomAir.Proofs.Settings.Keys

/-! Settings are layered key by key, as long as their sections are tables. -/

namespace RoomAir.Settings

open Environment (textOf?)

variable {file : List (String × Config)} {environment : List (String × String)} {key : Key}

/-! ## What the layers give -/

/-- What a file says, each of its keys being a path. -/
def ofFile (file : List (String × Config)) : Config :=
  (Config.table []).underLayer file

/-- The section of a setting in a file. -/
def section? (file : List (String × Config)) (key : Key) : Option Config :=
  (ofFile file).get? key.place.part

/-- Whether variables set a setting by its own key only: none replaces its section or alters it. -/
def isClear (environment : List (String × String)) (key : Key) : Bool :=
  environment.all fun entry => (Environment.key? entry.1).all fun other =>
    other = key.text || (KeyPath.ofKey other).spares key.place.part key.place.name

/-- Whether variables that set something in a part set names in it, not the part as a whole. -/
def namesWithin (part : String) (environment : List (String × String)) : Bool :=
  environment.all fun entry => (Environment.key? entry.1).all fun key =>
    (KeyPath.ofKey key).namesWithin part

/-- Whether a file leaves the section of a setting out or has a table for it. -/
def isTabled (file : List (String × Config)) (key : Key) : Bool :=
  match section? file key with
  | none | some (.table _) => true
  | some _ => false

/-- Whether a setting is found by its name: it is unless its section is no table at the end. -/
def isByName (file : List (String × Config)) (environment : List (String × String)) (key : Key) :
    Bool :=
  Environment.enters key.place.part environment || isTabled file key

/-- What the file has for a setting: under its name, or else in its place. -/
def inFile? (file : List (String × Config)) (environment : List (String × String)) (key : Key) :
    Option Config :=
  (section? file key).bind fun held =>
    if isByName file environment key then held.get? key.place.name
    else held.field? key.place.position key.place.name

/-- What is given for a setting: by a variable, or else the file, or else by default. -/
def given (file : List (String × Config)) (environment : List (String × String)) (key : Key) :
    Option Config :=
  if isByName file environment key then
    ((textOf? environment key.text).map Environment.value).or
      ((inFile? file environment key).or key.default?)
  else inFile? file environment key

/-! ## The layers as a configuration -/

/-- A table without sections is tidy. -/
theorem isTidy_nil : (Config.table []).IsTidy where
  isTable := rfl
  sections := Config.keysOnce_nil
  entries found := nomatch found

/-- A file's entries and those of an environment, without the defaults. -/
theorem isTidy_said (file layer : List (String × Config)) :
    ((ofFile file).underLayer layer).IsTidy :=
  isTidy_nil.underLayer.underLayer

/-- A section of all layers is the one that was said, laid over its defaults. -/
theorem get?_layered (layer : List (String × Config)) (part : String) :
    (layered file layer).get? part
      = ((((ofFile file).underLayer layer).get? part).map
          ((defaults.get? part).getD .null).overlay).or (defaults.get? part) := by
  -- The keys of what was said are apart, so each section is looked up by its last entry.
  have tidy := isTidy_said file layer
  rw [layered]
  rw [← ofFile, tidy.isTable]
  exact Config.lookup_overlayEntries tidy.sections part

/-- The keys of a layer that is clear are that of the setting and such as spare it. -/
theorem clear_layer (clear : isClear environment key = true) :
    ∀ entry ∈ Environment.layer environment, entry.1 = key.text
      ∨ (KeyPath.ofKey entry.1).spares key.place.part key.place.name = true := by
  -- The layer has the keys of the variables and no others.
  simp only [isClear, List.all_eq_true, Option.all_eq_true, Bool.or_eq_true, decide_eq_true_eq]
    at clear
  exact Environment.forall_layer_iff.mpr clear

/-- Under its name there is the variable of a setting, or else what the file has there. -/
theorem nested?_said (clear : isClear environment key = true) :
    (((ofFile file).underLayer (Environment.layer environment)).nested?
        key.place.part key.place.name)
      = (((textOf? environment key.text).map Environment.value).map
          (((ofFile file).nested? key.place.part key.place.name).getD .null).overlay).or
        ((ofFile file).nested? key.place.part key.place.name) := by
  -- Besides the variable of the setting itself, every key of the layer spares its name.
  rw [Config.nested?_underLayer (Environment.keysOnce_layer environment) key.ofKey_text
    (clear_layer clear), Environment.lookup_layer]

/-- The keys of a layer that go on to names in a part are those of such variables. -/
theorem within_layer {part : String} (within : namesWithin part environment = true) :
    ∀ entry ∈ Environment.layer environment, (KeyPath.ofKey entry.1).namesWithin part = true := by
  simp only [namesWithin, List.all_eq_true, Option.all_eq_true] at within
  exact Environment.forall_layer_iff.mpr within

/-- A setting that is set by its own key only has a section of which names are set. -/
theorem namesWithin_of_isClear (clear : isClear environment key = true) :
    namesWithin key.place.part environment = true := by
  simp only [isClear, namesWithin, List.all_eq_true, Option.all_eq_true, Bool.or_eq_true,
    decide_eq_true_eq] at clear ⊢
  intro entry member other sets
  -- The key of the setting goes on to its name, and what spares the name does not stop at the part.
  rcases clear entry member other sets with rfl | spared
  · rw [key.ofKey_text]
    rfl
  · exact KeyPath.namesWithin_of_spares spared

/-- A section that variables enter to set names in it is a table. -/
theorem exists_table_said (file : List (String × Config))
    (within : namesWithin key.place.part environment = true)
    (entered : Environment.enters key.place.part environment = true) :
    ∃ entries, ((ofFile file).underLayer (Environment.layer environment)).get? key.place.part
      = some (.table entries) :=
  Config.exists_table_underLayer (within_layer within) (.inr (Environment.enters_iff.mp entered))

/-- A section that no variable enters is that of the file. -/
theorem get?_said (file : List (String × Config))
    (away : Environment.enters key.place.part environment = false) :
    ((ofFile file).underLayer (Environment.layer environment)).get? key.place.part
      = section? file key := by
  -- A key of the layer that led into the section would be that of a variable that enters it.
  refine Config.get?_underLayer_of_not_enters fun entry member => ?_
  rw [← Bool.not_eq_true]
  intro into
  rw [Environment.enters_iff.mpr ⟨entry, member, into⟩] at away
  cases away

/-- Nothing sets a setting in a section that no variable enters. -/
theorem textOf?_eq_none (away : Environment.enters key.place.part environment = false) :
    textOf? environment key.text = none := by
  -- A variable that set the setting would enter its section.
  cases set : textOf? environment key.text with
  | none => rfl
  | some text =>
    obtain ⟨entry, member, sets⟩ := Environment.exists_of_textOf? set
    have into : Environment.enters key.place.part environment = true := by
      simp only [Environment.enters, List.any_eq_true, Option.any_eq_true]
      exact ⟨entry, member, key.text, sets, by rw [key.ofKey_text]; simp [KeyPath.enters]⟩
    rw [away] at into
    cases into

/-- In a section that is a table a setting is taken for what its name has, or its default. -/
theorem take?_layered_of_table {layer entries : List (String × Config)}
    (table : ((ofFile file).underLayer layer).get? key.place.part = some (.table entries)) :
    key.place.kind.take? ((part (layered file layer) key.place.part).field?
        key.place.position key.place.name)
      = key.place.kind.take? ((((ofFile file).underLayer layer).nested?
          key.place.part key.place.name).or key.default?) := by
  obtain ⟨usual, defaultsEq, default⟩ := key.exists_defaults
  -- The section is laid over its defaults entry by entry.
  have once : Config.KeysOnce entries := (isTidy_said file layer).entries table
  rw [part, get?_layered, defaultsEq, table, Config.nested?, table, ← default]
  change key.place.kind.take? ((Config.overlayEntries usual entries).lookup key.place.name)
    = key.place.kind.take? ((entries.lookup key.place.name).or _)
  rw [Config.lookup_overlayEntries once]
  -- Whatever a value has been laid over, it is taken for the same.
  cases entries.lookup key.place.name <;> simp

/-- What is under the name of a setting is taken for the same as what is given by name. -/
theorem take?_said (clear : isClear environment key = true)
    (byName : isByName file environment key = true) :
    key.place.kind.take? ((((ofFile file).underLayer (Environment.layer environment)).nested?
        key.place.part key.place.name).or key.default?)
      = key.place.kind.take? (given file environment key) := by
  -- By name the file is asked for the entry under the name, in a table or in nothing at all.
  have inFile : (ofFile file).nested? key.place.part key.place.name
      = inFile? file environment key := by
    simp only [inFile?, byName, if_true]
    rfl
  rw [nested?_said clear, inFile, given, if_pos byName]
  -- Of a variable and an entry only the first counts, whatever it has been laid over.
  cases textOf? environment key.text <;> simp

/-- A setting that is set by its own key only is taken for what is given for it. -/
theorem take?_layered (clear : isClear environment key = true) :
    key.place.kind.take? ((part (layered file (Environment.layer environment))
        key.place.part).field? key.place.position key.place.name)
      = key.place.kind.take? (given file environment key) := by
  -- Variables that enter the section make it a table, and otherwise it is that of the file.
  cases entered : Environment.enters key.place.part environment with
  | true =>
    obtain ⟨entries, table⟩ := exists_table_said file (namesWithin_of_isClear clear) entered
    rw [take?_layered_of_table table, take?_said clear (by rw [isByName, entered, Bool.true_or])]
  | false =>
    obtain ⟨usual, defaultsEq, default⟩ := key.exists_defaults
    have said := get?_said file entered
    cases found : section? file key with
    | none =>
      -- All that is given for the section is its defaults.
      have usually : given file environment key = key.default? := by
        simp [given, isByName, isTabled, inFile?, found, textOf?_eq_none entered]
      rw [part, get?_layered, said, found, defaultsEq, usually, ← default]
      rfl
    | some held =>
      rw [found] at said
      cases held with
      -- A table of the file is read by name like one that variables have made.
      | table entries =>
        rw [take?_layered_of_table said, take?_said clear (by simp [isByName, isTabled, found])]
      | _ =>
        -- What is no table hides the defaults, and its items are told by their positions.
        rw [part, get?_layered, said, defaultsEq]
        simp [given, isByName, isTabled, inFile?, found, entered, Config.overlay]

/-- Settings that are loaded have for such a setting what is given for it. -/
theorem take?_given_of_load {files : List (String × Bytes)} {settings : Settings}
    (loaded : load files environment = .ok settings)
    (read : ConfigFile.layer? files = some file) (clear : isClear environment key = true) :
    key.place.kind.take? (given file environment key) = some (settings.taken key) := by
  -- The files were read once, so the layer at hand is the one that was loaded.
  obtain ⟨found, same, made, -⟩ := load_eq_ok_iff.mp loaded
  obtain rfl := Option.some.inj (read.symm.trans same)
  rw [← take?_layered clear, ofConfig_eq_ok_iff.mp made key]

/-! ## Runs -/

/-- What settings are loaded from: files that can be read, and variables for single settings. -/
structure Run where
  files : List (String × Bytes)
  environment : List (String × String)
  file : List (String × Config)
  read : ConfigFile.layer? files = some file
  /-- No variable sets a section as a whole, or something inside of a setting. -/
  clear (key : Key) : isClear environment key = true

namespace Run

/-- The settings of a run. -/
def load (run : Run) : Except SettingsError Settings :=
  Settings.load run.files run.environment

/-- What a run gives for a setting. -/
def given (run : Run) (key : Key) : Option Config :=
  Settings.given run.file run.environment key

/-- Two runs have the same for a setting, and look for it in the same way. -/
structure GivesAlike (run other : Run) (key : Key) : Prop where
  byName : isByName run.file run.environment key = isByName other.file other.environment key
  text : textOf? run.environment key.text = textOf? other.environment key.text
  entry : inFile? run.file run.environment key = inFile? other.file other.environment key

variable {run other : Run}

/-- What is given for a setting does not depend on anything else. -/
theorem GivesAlike.given_eq (alike : run.GivesAlike other key) :
    run.given key = other.given key := by
  rw [given, Settings.given, alike.byName, alike.text, alike.entry]
  rfl

/-- Two runs of which the second sets other keys than that of a setting in another way. -/
inductive SetsBeside (run other : Run) (key : Key) : Prop where
  /-- Other variables are set, which make the section a table at most where it is one anyway. -/
  | environment (file : run.file = other.file)
      (tabled : isTabled run.file key = true
        ∨ Environment.enters key.place.part run.environment
          = Environment.enters key.place.part other.environment)
      (text : textOf? run.environment key.text = textOf? other.environment key.text)
  /-- The file has other sections. -/
  | sections (environment : run.environment = other.environment)
      (same : section? run.file key = section? other.file key)
  /-- The file has another entry in the section, under the name of something else. -/
  | entry (environment : run.environment = other.environment) {entries : List (String × Config)}
      {name : String} {value : Config} (different : key.place.name ≠ name)
      (table : section? run.file key = some (.table entries))
      (put : section? other.file key = some (.table (Config.put name value entries)))

/-- Runs that differ in other keys only give alike for a setting. -/
theorem GivesAlike.of_setsBeside (beside : run.SetsBeside other key) :
    run.GivesAlike other key := by
  cases beside with
  -- The file is the same, so only the way to look in it could change.
  | environment file tabled text =>
    have byName : isByName run.file run.environment key
        = isByName other.file other.environment key := by
      rw [isByName, isByName, ← file]
      -- In a table it makes no difference whether variables enter the section.
      rcases tabled with tabled | entered
      · rw [tabled, Bool.or_true, Bool.or_true]
      · rw [entered]
    exact ⟨byName, text, by rw [inFile?, inFile?, byName, file]⟩
  -- The section decides both on the way to look and on what is found.
  | sections environment same =>
    have byName : isByName run.file run.environment key
        = isByName other.file other.environment key := by
      rw [isByName, isByName, isTabled, isTabled, same, environment]
    exact ⟨byName, by rw [environment], by rw [inFile?, inFile?, byName, same]⟩
  | entry environment different table put =>
    -- Both sections are tables, and the entry that is put is not the one that is looked up.
    have byName : isByName run.file run.environment key
        = isByName other.file other.environment key := by
      simp only [isByName, isTabled, table, put, environment]
    have found : isByName run.file run.environment key = true := by
      simp only [isByName, isTabled, table, Bool.or_true]
    refine ⟨byName, by rw [environment], ?_⟩
    simp only [inFile?, ← byName, found, if_true, table, put, Option.bind_some]
    exact ((Config.lookup_put ..).trans (if_neg different)).symm

/-- A run loads settings when each of them is what is given for it, and they are accepted. -/
theorem load_eq_ok_iff {settings : Settings} :
    run.load = .ok settings
      ↔ (∀ key : Key, key.place.kind.take? (run.given key) = some (settings.taken key))
        ∧ (TimePattern.ofText settings.display.timeFormat).isAccepted = true := by
  simp only [load, Settings.load_eq_ok_iff, ofConfig_eq_ok_iff, take?_layered (run.clear _),
    run.read, Option.some.injEq, exists_eq_left', given]

/--
Settings are loaded key by key.

Each one is what its variable is taken for, or else the file's entry under its name, or else its
default. Only a section that is no table in the file and that no variable enters is read by
position instead. A setting does not change with what other keys set, be it in variables or in the
file, and nothing changes with keys of no setting.
-/
theorem loads_key_by_key (run : Run) (settings : Settings) :
    (run.load = .ok settings
      ↔ (∀ key : Key, key.place.kind.take? (run.given key) = some (settings.taken key))
        ∧ (TimePattern.ofText settings.display.timeFormat).isAccepted = true)
    ∧ (∀ other : Run, ∀ others, run.load = .ok settings → other.load = .ok others →
        ∀ key, run.GivesAlike other key → settings.taken key = others.taken key)
    ∧ (∀ other : Run, ∀ key, run.SetsBeside other key → run.GivesAlike other key)
    ∧ (∀ other : Run, (∀ key, run.GivesAlike other key) →
        (run.load = .ok settings ↔ other.load = .ok settings))
    ∧ settings.timeout = max 1 settings.timeoutSeconds
    ∧ settings.interval = max 1 settings.intervalSeconds := by
  refine ⟨load_eq_ok_iff, fun other others loaded loadedOther key alike => ?_,
    fun other key => .of_setsBeside, fun other alike => ?_, Nat.max_comm .., Nat.max_comm ..⟩
  -- Both settings are taken from the same thing, for which there is one taking only.
  · have first := (load_eq_ok_iff.mp loaded).1 key
    have second := (load_eq_ok_iff.mp loadedOther).1 key
    rw [← alike.given_eq, first] at second
    exact Option.some.inj second
  -- Being loaded is a matter of what is given for each of the settings.
  · simp only [load_eq_ok_iff, (alike _).given_eq]

/-- A path in a file is kept beside variables and beside entries for other keys. -/
theorem loads_beside_path :
    let files := [("ini", Utf8.encode "[source]\npath=p")]
    let richer := [("ini", Utf8.encode "[source]\npath=p\ntimeout_secs=3")]
    let environment := [("DASHBOARD__SERVER__PORT", "80"), ("DASHBOARD__SOURCE__URL", "http://air")]
    ∃ run alone rich : Run, run.files = files ∧ run.environment = environment
      ∧ alone.files = files ∧ alone.environment = []
      ∧ rich.files = richer ∧ rich.environment = environment
      ∧ ∃ settings others richers, run.load = .ok settings ∧ alone.load = .ok others
        ∧ rich.load = .ok richers
        ∧ settings.taken .path = .text "p"
        ∧ Kind.optionalText.take? (run.given .url) = some (.text "http://air")
        ∧ run.GivesAlike alone .path ∧ settings.taken .path = others.taken .path
        ∧ run.GivesAlike rich .path ∧ settings.taken .path = richers.taken .path
        ∧ settings.interval = max 1 settings.intervalSeconds := by
  intro files richer environment
  let file : List (String × Config) := [("source", .table [("path", .text "p")])]
  let richFile : List (String × Config) :=
    [("source", .table [("path", .text "p"), ("timeout_secs", .text "3")])]
  have read : ConfigFile.layer? files = some file := by rfl
  have readRich : ConfigFile.layer? richer = some richFile := by rfl
  -- The variables set single names, so no setting is touched by the key of another.
  have clear (key : Key) : isClear environment key = true := by cases key <;> decide +kernel
  let run : Run := ⟨files, environment, file, read, clear⟩
  let alone : Run := ⟨files, [], file, read, fun _ => rfl⟩
  let rich : Run := ⟨richer, environment, richFile, readRich, clear⟩
  -- All three runs load, each of them with something else beside the path.
  have loads : run.load.toOption.map (fun settings => (settings.url, settings.path))
      = some (some "http://air", "p") := by
    change (Settings.load files environment).toOption.map _ = _
    decide +kernel
  have loadsAlone : alone.load.toOption.map (fun settings => settings.url) = some none := by
    change (Settings.load files []).toOption.map _ = _
    decide +kernel
  have loadsRich : rich.load.toOption.map (fun settings => settings.timeoutSeconds) = some 3 := by
    change (Settings.load richer environment).toOption.map _ = _
    decide +kernel
  obtain ⟨settings, loaded, found⟩ := exists_ok_of_map loads
  obtain ⟨others, loadedAlone, -⟩ := exists_ok_of_map loadsAlone
  obtain ⟨richers, loadedRich, -⟩ := exists_ok_of_map loadsRich
  obtain ⟨url, path⟩ := Prod.mk.inj found
  obtain ⟨values, apart, beside, -, -, seconds⟩ := loads_key_by_key run settings
  have given := (values.mp loaded).1 .url
  rw [taken, url] at given
  -- No variable sets the path, and the file of the third run has one entry more beside it.
  have unset : textOf? environment Key.path.text = none := by decide +kernel
  have alike : run.GivesAlike alone .path := beside alone .path (.environment rfl (.inl rfl) unset)
  have alikeRich : run.GivesAlike rich .path :=
    beside rich .path (.entry rfl (by decide : "path" ≠ "timeout_secs") rfl rfl)
  exact ⟨run, alone, rich, rfl, rfl, rfl, rfl, rfl, rfl, settings, others, richers, loaded,
    loadedAlone, loadedRich, by rw [taken, path], given,
    alike, apart alone others loaded loadedAlone .path alike,
    alikeRich, apart rich richers loaded loadedRich .path alikeRich, seconds⟩

end Run

/-- A section that is a list loses its items to a variable for one of its keys. -/
theorem variable_drops_list :
    let files := [("toml", Utf8.encode "source = [\"u\", \"p\", 7]")]
    ∃ settings, load files [] = .ok settings
      ∧ settings.url = some "u" ∧ settings.timeoutSeconds = 7
      ∧ ∃ others, load files [("DASHBOARD__SOURCE__PATH", "x.json")] = .ok others
        ∧ others.url = none ∧ others.timeoutSeconds = 10 := by
  intro files
  -- Read by position, the list fills the section.
  have listed : (load files []).toOption.map
      (fun settings => (settings.url, settings.timeoutSeconds)) = some (some "u", 7) := by
    decide +kernel
  -- With a variable in it the section is a table, which has nothing for the other keys.
  have dropped : (load files [("DASHBOARD__SOURCE__PATH", "x.json")]).toOption.map
      (fun settings => (settings.url, settings.timeoutSeconds)) = some (none, 10) := by
    decide +kernel
  obtain ⟨settings, loaded, found⟩ := exists_ok_of_map listed
  obtain ⟨others, loadedOthers, foundOthers⟩ := exists_ok_of_map dropped
  obtain ⟨url, timeout⟩ := Prod.mk.inj found
  obtain ⟨urlOthers, timeoutOthers⟩ := Prod.mk.inj foundOthers
  exact ⟨settings, loaded, url, timeout, others, loadedOthers, urlOthers, timeoutOthers⟩

end RoomAir.Settings
