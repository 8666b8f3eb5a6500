import RoomAir.Proofs.Number.Spellings
import RoomAir.Proofs.Settings.KeyByKey

/-! Texts from variables: one that spells no value is taken as it is, any other as its value. -/

namespace RoomAir

namespace Environment

/-! ## What a text is shown as -/

/-- The word for a truth value. -/
def truthWord (value : Bool) : String :=
  if value then "true" else "false"

/-- A text that is the word for a truth value, in any case. -/
def SpellsTruth (text : String) (value : Bool) : Prop :=
  text.toList.map Char.toLower = (truthWord value).toList

/-- A text that is a whole number of 64 bits. -/
def SpellsWhole (text : String) (value : Int) : Prop :=
  SignedDigits text.toList value ∧ -2 ^ 63 ≤ value ∧ value < 2 ^ 63

/-- What the text of a variable becomes where a text is wanted. -/
inductive Shows (text : String) : String → Prop where
  /-- A truth value is shown as its word in lower case. -/
  | truth {value : Bool} (spelled : SpellsTruth text value) : Shows text (truthWord value)
  /-- A whole number is shown in decimal, with a minus if it is negative. -/
  | whole {value : Int} (noTruth : ∀ value, ¬ SpellsTruth text value)
    (spelled : SpellsWhole text value) : Shows text (String.ofList (Json.integerChars value))
  /-- Any other number is shown as the double nearest to it. -/
  | float {literal : Literal} (noTruth : ∀ value, ¬ SpellsTruth text value)
    (noWhole : ∀ value, ¬ SpellsWhole text value) (spelled : literal.Spells text.toList) :
    Shows text literal.toExtended.display
  -- Whatever spells none of these values is left alone.
  | itself (noTruth : ∀ value, ¬ SpellsTruth text value)
    (noWhole : ∀ value, ¬ SpellsWhole text value)
    (noFloat : ∀ literal, ¬ Literal.Spells text.toList literal) : Shows text text

variable {text shown : String}

/-- A text that spells a truth value in any case is that value, before anything else is tried. -/
theorem value_of_spellsTruth {truth : Bool} (spelled : SpellsTruth text truth) :
    value text = .bool truth := by
  rw [SpellsTruth] at spelled
  -- Each of the two words leads into its own branch.
  cases truth <;> simp [value, spelled, truthWord]

/-- A text that spells no truth value is tried as a whole number and then as any number. -/
theorem value_of_noTruth (noTruth : ∀ value, ¬ SpellsTruth text value) :
    value text = match Whole.signed? 10 text.toList with
      | some whole => .integer whole
      | none =>
        match Literal.read? text.toList with
        | some literal => .float literal.toExtended
        | none => .text text := by
  -- Neither of the two words is there, so both branches for them are passed over.
  have no : text.toList.map Char.toLower ≠ "true".toList
      ∧ text.toList.map Char.toLower ≠ "false".toList := ⟨noTruth true, noTruth false⟩
  rw [value, if_neg no.1]
  exact if_neg no.2

/-- A text is shown in one way only, which is how its value is taken for a text. -/
theorem asText?_of_shows (shows : Shows text shown) : (value text).asText? = some shown := by
  -- One case for each way to be shown, in the order in which the reader tries them.
  cases shows with
  | truth spelled =>
    rw [value_of_spellsTruth spelled]
    rfl
  | whole noTruth spelled =>
    rw [value_of_noTruth noTruth, Whole.signed?_eq_some_iff.mpr spelled]
    rfl
  | float noTruth noWhole spelled =>
    -- The reader of whole numbers comes first, and it must not take the text.
    have unread : Whole.signed? 10 text.toList = none :=
      Option.eq_none_iff_forall_ne_some.mpr fun value read =>
        noWhole value (Whole.signed?_eq_some_iff.mp read)
    rw [value_of_noTruth noTruth, unread, Literal.read?_eq_some_iff.mpr spelled]
    rfl
  | itself noTruth noWhole noFloat =>
    -- Both readers of numbers turn the text down, as each of them takes just what spells its
    -- values.
    have unread : Whole.signed? 10 text.toList = none :=
      Option.eq_none_iff_forall_ne_some.mpr fun value read =>
        noWhole value (Whole.signed?_eq_some_iff.mp read)
    have unreal : Literal.read? text.toList = none :=
      Option.eq_none_iff_forall_ne_some.mpr fun literal read =>
        noFloat literal (Literal.read?_eq_some_iff.mp read)
    rw [value_of_noTruth noTruth, unread, unreal]
    rfl

/-- Every text is shown as something. -/
theorem exists_shows (text : String) : ∃ shown, Shows text shown := by
  -- The ways are tried in turn, and what none of the first three fits is shown as itself.
  by_cases truth : ∃ value, SpellsTruth text value
  · obtain ⟨value, spelled⟩ := truth
    exact ⟨_, .truth spelled⟩
  by_cases whole : ∃ value, SpellsWhole text value
  · obtain ⟨value, spelled⟩ := whole
    exact ⟨_, .whole (not_exists.mp truth) spelled⟩
  by_cases float : ∃ literal, Literal.Spells text.toList literal
  · obtain ⟨literal, spelled⟩ := float
    exact ⟨_, .float (not_exists.mp truth) (not_exists.mp whole) spelled⟩
  · exact ⟨_, .itself (not_exists.mp truth) (not_exists.mp whole) (not_exists.mp float)⟩

/-- A variable's value is taken for a text exactly when its text is shown as that one. -/
theorem asText?_value_eq_some_iff : (value text).asText? = some shown ↔ Shows text shown := by
  refine ⟨fun taken => ?_, asText?_of_shows⟩
  -- Some way is the right one, and it leads to the text that was taken.
  obtain ⟨other, shows⟩ := exists_shows text
  rw [asText?_of_shows shows] at taken
  exact Option.some.inj taken ▸ shows

/-! ## Texts that spell nothing -/

/-- A character that is in no truth value and in no number. -/
def isMark (c : Char) : Bool :=
  !(c.isAlphanum || c = '+' || c = '-' || c = '.')

/-- Texts without marks. -/
abbrev Unmarked (text : List Char) : Prop :=
  ∀ c ∈ text, isMark c = false

/-- Digits are no marks. -/
theorem unmarked_of_digits {digits : List Char} (all : ∀ c ∈ digits, c.isDigit = true) :
    Unmarked digits :=
  fun c member => of_isDigit (all c member) (by decide)

/-- A sign is none. -/
theorem unmarked_of_sign {negative : Bool} {sign : List Char} (signed : sign ∈ signs negative) :
    Unmarked sign := by
  -- The signs are few, so all of them are looked at.
  have unmarked : (signs negative).all (·.all fun c => !isMark c) = true := by
    cases negative <;> decide
  simpa using List.all_eq_true.mp unmarked sign signed

/-- A word of letters has no marks in any case. -/
theorem unmarked_of_word {text word : List Char} (same : text.map Char.toLower = word)
    (letters : word.all Char.isAlpha = true) : Unmarked text := by
  intro c member
  have lower := List.all_eq_true.mp letters _ (same ▸ List.mem_map_of_mem member)
  have letter : c.isAlpha = true := by
    cases upper : c.isUpper with
    | true => exact Bool.or_eq_true_iff.mpr (.inl upper)
    | false =>
      -- Anything but a letter in upper case is its own lower case.
      have own : c.toLower = c := dif_neg (of_decide_eq_false upper)
      rwa [own] at lower
  have known : c.isAlphanum = true := Bool.or_eq_true_iff.mpr (.inl letter)
  rw [isMark, known]
  rfl

/-- The digits of a whole number have no marks, with their sign or without. -/
theorem unmarked_of_signedDigits {text : List Char} {value : Int}
    (spelled : SignedDigits text value) : Unmarked text := by
  cases spelled with
  | spelled signed _ all =>
    exact List.forall_mem_append.mpr ⟨unmarked_of_sign signed, unmarked_of_digits all⟩

/-- No spelling of a number has a mark. -/
theorem unmarked_of_spells {text : List Char} {literal : Literal} (spelled : literal.Spells text) :
    Unmarked text := by
  -- A spelling is a word or digits behind a sign, perhaps with a point or an exponent among
  -- them.
  cases spelled with
  | nan signed named =>
    exact List.forall_mem_append.mpr ⟨unmarked_of_sign signed, unmarked_of_word named (by decide)⟩
  | infinite signed named =>
    refine List.forall_mem_append.mpr ⟨unmarked_of_sign signed, ?_⟩
    rcases named with named | named
    · exact unmarked_of_word named (by decide)
    · exact unmarked_of_word named (by decide)
  | decimal signed written all scaled =>
    rw [List.forall_mem_append] at all
    have point : isMark '.' = false := by decide
    refine List.forall_mem_append.mpr
      ⟨unmarked_of_sign signed, List.forall_mem_append.mpr ⟨?_, ?_⟩⟩
    -- Before the exponent there are digits and at most one point.
    · cases written with
      | whole => exact unmarked_of_digits all.1
      | point =>
        exact List.forall_mem_append.mpr ⟨unmarked_of_digits all.1,
          List.forall_mem_cons.mpr ⟨point, unmarked_of_digits all.2⟩⟩
    -- The exponent is a letter before a whole number.
    · cases scaled with
      | none => exact List.forall_mem_nil _
      | marked letter spelled =>
        refine List.forall_mem_cons.mpr ⟨?_, unmarked_of_signedDigits spelled⟩
        rcases letter with rfl | rfl <;> decide

/-- A text with a mark is shown as it is. -/
theorem shows_self_of_mark {c : Char} (member : c ∈ text.toList) (mark : isMark c = true) :
    Shows text text := by
  -- Whatever the text spelled instead, it would have no mark.
  have marked : ¬ Unmarked text.toList := fun unmarked => by
    rw [unmarked c member] at mark
    cases mark
  refine .itself (fun value spelled => marked ?_) (fun value spelled => marked ?_)
    fun literal spelled => marked ?_
  · cases value <;> exact unmarked_of_word spelled (by decide)
  · exact unmarked_of_signedDigits spelled.1
  · exact unmarked_of_spells spelled

/-- No text of a variable stands for null, a list or a table. -/
theorem value_leaf (text : String) : value text ≠ .null ∧ (value text).isLeaf = true := by
  -- Each branch of the reader gives a truth value, a number or a text.
  rw [value]
  split
  · exact ⟨nofun, rfl⟩
  · split
    · exact ⟨nofun, rfl⟩
    · split
      · exact ⟨nofun, rfl⟩
      · split <;> exact ⟨nofun, rfl⟩

end Environment

namespace Settings

open Environment (textOf? Shows)

variable {environment : List (String × String)} {key : Key} {text shown : String}

/-- A text that is given for a setting of texts is the setting. -/
theorem Kind.take?_of_ne_count {kind : Kind} (isText : kind ≠ .count) {value : Config}
    (filled : value ≠ .null) : kind.take? (some value) = value.asText?.map .text := by
  -- A text that may be missing is missing only where there is null.
  cases kind with
  | text => rfl
  | optionalText => cases value <;> first | rfl | exact absurd rfl filled
  | count => exact absurd rfl isText

/-- Nothing is taken for a text that has something inside. -/
theorem Kind.take?_of_branch {kind : Kind} (isText : kind ≠ .count) {value : Config}
    (branch : value.isLeaf = false) : kind.take? (some value) = none := by
  -- Lists and tables are the values with something inside, and neither kind of text takes them.
  cases kind with
  | count => exact absurd rfl isText
  | _ => cases value <;> first | rfl | cases branch

/-- A part in which a variable sets a name is entered. -/
theorem enters_of_textOf? (set : textOf? environment key.text = some text) :
    Environment.enters key.place.part environment = true := by
  -- Without a variable that enters the part there would be no text either.
  rw [← Bool.not_eq_false]
  intro away
  rw [textOf?_eq_none away] at set
  cases set

/-- A setting of texts that is loaded is taken for the value of its variable, if there is one. -/
theorem taken_of_textOf? {files : List (String × Bytes)} {settings : Settings}
    (loaded : load files environment = .ok settings) (isText : key.place.kind ≠ .count)
    (within : namesWithin key.place.part environment = true)
    (set : textOf? environment key.text = some text) :
    (Environment.value text).asText?.map .text = some (settings.taken key) := by
  obtain ⟨file, -, made, -⟩ := load_eq_ok_iff.mp loaded
  obtain ⟨filled, leaf⟩ := Environment.value_leaf text
  have lookup : (Environment.layer environment).lookup key.text
      = some (Environment.value text) := by
    rw [Environment.lookup_layer, set, Option.map_some]
  -- The part is a table in the end, in which the name has the value or something built on it.
  obtain ⟨entries, table⟩ := exists_table_said file within (enters_of_textOf? set)
  obtain ⟨held, found, final⟩ := Config.nested?_underLayer_leaf (ofFile file)
    (Environment.keysOnce_layer environment) key.ofKey_text (within_layer within) lookup leaf
  have taken := ofConfig_eq_ok_iff.mp made key
  rw [take?_layered_of_table table, found, Option.some_or] at taken
  rcases final with rfl | branch
  · rwa [Kind.take?_of_ne_count isText filled] at taken
  · -- With something inside of the setting nothing would have been loaded.
    rw [Kind.take?_of_branch isText branch] at taken
    cases taken

/--
A variable for a setting of texts gives it the text that its own text is shown as.

This is the text itself unless that spells a truth value, a whole number of 64 bits or another
number, none of which has a mark. A file in which that text, or a value that is taken for it, is
given for the setting leads to the same.
-/
theorem text_from_variable (key : Key) {files : List (String × Bytes)} {settings : Settings}
    (loaded : load files environment = .ok settings) (isText : key.place.kind ≠ .count)
    (within : namesWithin key.place.part environment = true)
    (set : textOf? environment key.text = some text) :
    ∃ shown, settings.taken key = .text shown
      ∧ (∀ other, Shows text other ↔ other = shown)
      ∧ ((∃ c ∈ text.toList, Environment.isMark c = true) → shown = text)
      ∧ ∀ files' file environment' settings', load files' environment' = .ok settings' →
        ConfigFile.layer? files' = some file → isClear environment' key = true →
        textOf? environment' key.text = none →
        (inFile? file environment' key).bind Config.asText? = some shown →
          settings'.taken key = settings.taken key := by
  -- The value of the variable is taken for exactly one text, so it is shown in no other way.
  obtain ⟨shown, spelled, same⟩ :=
    Option.map_eq_some_iff.mp (taken_of_textOf? loaded isText within set)
  have only (other : String) : Shows text other ↔ other = shown := by
    rw [← Environment.asText?_value_eq_some_iff, spelled, Option.some.injEq, eq_comm]
  refine ⟨shown, same.symm, only, ?_, ?_⟩
  · rintro ⟨c, member, mark⟩
    exact ((only text).mp (Environment.shows_self_of_mark member mark)).symm
  -- A file that leads to the same text is read by the same rule, as no variable covers it.
  · intro files' file environment' settings' loaded' read clear unset inFile
    obtain ⟨held, found, written⟩ := Option.bind_eq_some_iff.mp inFile
    have filled : held ≠ .null := by
      rintro rfl
      cases written
    have given : given file environment' key = some held := by
      simp [given, unset, found]
    have taken := take?_given_of_load loaded' read clear
    rw [given, Kind.take?_of_ne_count isText filled, written, Option.map_some, same]
      at taken
    exact (Option.some.inj taken).symm

/-- A number loses its zeros, as if a file gave it without them, and an address stays as it is. -/
theorem texts_from_variables :
    let files := [("toml", Utf8.encode "source.path = \"-12\"")]
    let environment :=
      [("DASHBOARD__SOURCE__PATH", "-0012"), ("DASHBOARD__SOURCE__URL", "http://air:80")]
    ∃ settings others, load [] environment = .ok settings ∧ load files [] = .ok others
      ∧ Shows "-0012" "-12" ∧ settings.taken .path = .text "-12"
      ∧ others.taken .path = settings.taken .path
      ∧ settings.taken .url = .text "http://air:80" := by
  intro files environment
  have loads : (load [] environment).toOption.map (fun settings => settings.path)
      = some "-12" := by
    decide +kernel
  have loadsOthers : (load files []).toOption.map (fun settings => settings.path)
      = some "-12" := by
    decide +kernel
  obtain ⟨settings, loaded, path⟩ := exists_ok_of_map loads
  obtain ⟨others, loadedOthers, -⟩ := exists_ok_of_map loadsOthers
  obtain ⟨file, read⟩ : ∃ file, ConfigFile.layer? files = some file :=
    Option.isSome_iff_exists.mp (by decide +kernel)
  have inFile : (ConfigFile.layer? files).bind
      (fun file => (inFile? file [] .path).bind Config.asText?) = some "-12" := by
    decide +kernel
  rw [read, Option.bind_some] at inFile
  obtain ⟨shown, taken, only, -, alike⟩ := text_from_variable .path loaded (by decide)
    (by decide +kernel) (show textOf? environment _ = some "-0012" by decide +kernel)
  obtain ⟨address, takenAddress, -, kept, -⟩ := text_from_variable .url loaded (by decide)
    (by decide +kernel) (show textOf? environment _ = some "http://air:80" by decide +kernel)
  obtain rfl : settings.path = shown := Taken.text.inj taken
  rw [path] at only alike taken
  rw [kept ⟨':', by decide, by decide⟩] at takenAddress
  exact ⟨settings, others, loaded, loadedOthers, (only _).mpr rfl, taken,
    alike files file [] others loadedOthers read rfl rfl inFile, takenAddress⟩

/--
A path of digits loses the zeros in front of it, which it keeps in a file.

A variable for its whole section, after which another one fills the section again, takes the path
away altogether.
-/
theorem variable_loses_text :
    let files := [("toml", Utf8.encode "source.path = \"007\"")]
    let renewed := [("DASHBOARD__SOURCE__PATH", "x.json"), ("DASHBOARD__SOURCE", "off"),
      ("DASHBOARD__SOURCE__URL", "http://air")]
    (∃ settings others, load [] [("DASHBOARD__SOURCE__PATH", "007")] = .ok settings
      ∧ settings.path = "7" ∧ load files [] = .ok others ∧ others.path = "007")
    ∧ ∃ settings, load [] renewed = .ok settings ∧ settings.path = "testi.json" := by
  intro files renewed
  have changed : (load [] [("DASHBOARD__SOURCE__PATH", "007")]).toOption.map
      (fun settings => settings.path) = some "7" := by
    decide +kernel
  have kept : (load files []).toOption.map (fun settings => settings.path) = some "007" := by
    decide +kernel
  have lost : (load [] renewed).toOption.map (fun settings => settings.path)
      = some "testi.json" := by
    decide +kernel
  obtain ⟨settings, loaded, path⟩ := exists_ok_of_map changed
  obtain ⟨others, loadedOthers, pathOthers⟩ := exists_ok_of_map kept
  obtain ⟨last, loadedLast, pathLast⟩ := exists_ok_of_map lost
  exact ⟨⟨settings, others, loaded, path, loadedOthers, pathOthers⟩, last, loadedLast, pathLast⟩

end Settings

end RoomAir
