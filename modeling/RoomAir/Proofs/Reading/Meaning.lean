import Mathlib.Data.List.Perm.Basic
import RoomAir.Proofs.Traversal
import RoomAir.Reading.Record

/-! Records have one meaning, which the last value of each field decides, named or by position. -/

namespace RoomAir

/-! ## The value that a key was last given -/

namespace Json

variable {members others front back : List (String × Json)} {key : String} {value : Json}

/-- The last value of a key is that of the last member among those of the key. -/
theorem lastValue?_eq (key : String) (members : List (String × Json)) :
    lastValue? key members = ((members.filter (·.1 == key)).getLast?).map (·.2) := by
  -- Looking from the back is looking at the front of the reversed list.
  rw [lastValue?, List.findRev?_eq_find?_reverse, List.getLast?_filter]

/-- The last value is looked for at the back first. -/
theorem lastValue?_append (key : String) (front back : List (String × Json)) :
    lastValue? key (front ++ back) = (lastValue? key back).or (lastValue? key front) := by
  -- Members behind count before those in front.
  simp only [lastValue?_eq, List.filter_append, List.getLast?_append, Option.map_or]

/-- A member in between counts if it is of the key and none behind it is. -/
theorem lastValue?_cons (key other : String) (value : Json) (back : List (String × Json)) :
    lastValue? key ((other, value) :: back)
      = (lastValue? key back).or (if other = key then some value else none) := by
  -- A single member is the last one of its key.
  have single : lastValue? key [(other, value)] = if other = key then some value else none := by
    by_cases same : other = key
    · simp [lastValue?_eq, same]
    · simp [lastValue?_eq, same]
  rw [← List.singleton_append, lastValue?_append, single]

/-- A key has a last value exactly when there is a member of it. -/
theorem lastValue?_isSome {members : List (String × Json)} :
    (lastValue? key members).isSome = true ↔ key ∈ members.map (·.1) := by
  induction members with
  -- Without members no key has a value.
  | nil => simp [lastValue?_eq]
  | cons member members ih =>
    obtain ⟨other, value⟩ := member
    rw [lastValue?_cons, List.map_cons, List.mem_cons, ← ih]
    -- The first member is of the key, or the others decide.
    by_cases same : other = key
    · simp [same]
    · have apart : key ≠ other := Ne.symm same
      simp [same, apart]

/-- Members of other keys make no difference. -/
theorem lastValue?_other {other : String} (apart : other ≠ key) :
    lastValue? key (front ++ (other, value) :: back) = lastValue? key (front ++ back) := by
  simp only [lastValue?_append, lastValue?_cons, if_neg apart, Option.or_none]

/-- Nor do members that a later one of the same key overrides. -/
theorem lastValue?_overridden {other : String} (again : other ∈ back.map (·.1)) :
    lastValue? key (front ++ (other, value) :: back) = lastValue? key (front ++ back) := by
  by_cases same : other = key
  · -- The last member of the key is behind the overridden one.
    rw [same] at again
    obtain ⟨last, found⟩ := Option.isSome_iff_exists.mp (lastValue?_isSome.mpr again)
    simp only [lastValue?_append, lastValue?_cons, found, Option.some_or]
  -- A member of another key is no value of this one.
  · exact lastValue?_other same

/-- Nor does the order of the members of different keys. -/
theorem lastValue?_inOrder
    (inOrder : others.filter (·.1 == key) = members.filter (·.1 == key)) :
    lastValue? key others = lastValue? key members := by
  rw [lastValue?_eq, lastValue?_eq, inOrder]

/-- When no key is given twice, the members of each key are in order anyway. -/
theorem filter_key_of_perm (perm : others.Perm members) (distinct : (members.map (·.1)).Nodup)
    (key : String) : others.filter (·.1 == key) = members.filter (·.1 == key) := by
  refine eq_of_perm_of_length_le (perm.filter _) ?_
  -- As many members have the key as there are occurrences of it among the keys.
  calc (members.filter (·.1 == key)).length
    _ = (members.map (·.1)).count key := by
      rw [List.count, List.countP_map, List.countP_eq_length_filter]
      rfl
    _ ≤ 1 := List.nodup_iff_count.mp distinct key

/-- Values that are listed under different keys are found under the keys in their places. -/
theorem lastValue?_zip {keys : List String} (distinct : keys.Nodup) {place : Nat}
    (named : keys[place]? = some key) (items : List Json) :
    lastValue? key (keys.zip items) = items[place]? := by
  -- Without keys there is no place for one.
  induction keys generalizing place items with
  | nil => simp at named
  | cons first keys ih =>
    obtain ⟨fresh, distinct⟩ := List.nodup_cons.mp distinct
    cases items with
    -- Without values no place has one.
    | nil => simp [lastValue?_eq]
    | cons item items =>
      rw [List.zip_cons_cons, lastValue?_cons]
      cases place with
      | zero =>
        -- The first key is not among the later ones.
        obtain rfl : first = key := by simpa using named
        have absent : lastValue? first (keys.zip items) = none := by
          rw [← Option.not_isSome_iff_eq_none, lastValue?_isSome]
          intro member
          obtain ⟨pair, listed, rfl⟩ := List.mem_map.mp member
          exact fresh (List.of_mem_zip listed).1
        simp [absent]
      -- The key stands further behind, so it is not the first one.
      | succ place =>
        have later : keys[place]? = some key := by simpa using named
        have apart : first ≠ key := fun same => fresh (same ▸ List.mem_of_getElem? later)
        rw [ih distinct later, if_neg apart, Option.or_none, List.getElem?_cons_succ]

end Json

namespace Record

/-! ## What the fields have to be -/

/-- The fields of a record, in the order in which a record by position has them. -/
def fields : List String :=
  ["room", "timestamp", "aqi", "temperature", "co2", "humidity", "tvoc"]

/-- The fields that every record needs. -/
def needed : List String :=
  ["room", "timestamp", "aqi"]

/-- The fields that a record may leave out, or give as null. -/
def optional : List String :=
  ["temperature", "co2", "humidity", "tvoc"]

/-- A value is a number, whether it is written as a whole one or not. -/
inductive IsNumber : Json → Double → Prop
  | whole (value : Int) : IsNumber (.integer value) (ofWhole value)
  | real (value : Double) : IsNumber (.number value) value

/-- A value is a metric, or there is none. -/
inductive IsMetric : Option Json → Option Double → Prop
  | missing : IsMetric none none
  | null : IsMetric (some .null) none
  | given {value : Json} {x : Double} (number : IsNumber value x) : IsMetric (some value) (some x)

/-- A value is valid for a field. -/
def Fits (field : String) (value : Json) : Prop :=
  (field = "room" ∧ ∃ name, value = .string name)
    ∨ (field = "timestamp" ∧ ∃ raw time, value = .string raw ∧ Timestamp.read? raw = some time)
    ∨ (field = "aqi" ∧ ∃ x, IsNumber value x)
    ∨ (field ∈ optional ∧ (value = .null ∨ ∃ x, IsNumber value x))

/-- The fields with these values make up a reading. -/
structure Means (value : String → Option Json) (reading : Reading) : Prop where
  room : value "room" = some (.string reading.room)
  time : ∃ raw, value "timestamp" = some (.string raw)
    ∧ Timestamp.read? raw = some reading.time
  aqi : ∃ found, value "aqi" = some found ∧ IsNumber found reading.aqi
  temperature : IsMetric (value "temperature") reading.temperature
  co2 : IsMetric (value "co2") reading.co2
  humidity : IsMetric (value "humidity") reading.humidity
  tvoc : IsMetric (value "tvoc") reading.tvoc

/-! ## What the readers of fields accept -/

section Readers

variable {α : Type} {value : Json} {found : Option Json}

/-- A field that is there is read as the value that it has. -/
theorem ifPresent_eq_ok_iff {read : Json → Except RecordFault α} {x : α} :
    ifPresent read found = .ok (some x) ↔ ∃ value, found = some value ∧ read value = .ok x := by
  -- Without a field nothing is read.
  cases found with
  | none => simp [ifPresent]
  | some value => cases outcome : read value <;> simp [ifPresent, Except.map, outcome]

/-- A place that is needed is read like a field that is there. -/
theorem atPosition_eq_ok_iff {read : Json → Except RecordFault α} {items : List Json}
    {place : Nat} {x : α} :
    atPosition read items place = .ok x ↔ ifPresent read items[place]? = .ok (some x) := by
  rw [ifPresent_eq_ok_iff]
  cases there : items[place]? <;> simp [atPosition, there]

/-- A field that is needed has to be there. -/
theorem required_eq_ok_iff {field : String} {found : Option α} {x : α} :
    required field found = .ok x ↔ found = some x := by
  -- A missing field is a fault.
  cases found <;> simp [required]

/-- A name is a text. -/
theorem text_eq_ok_iff {name : String} : text value = .ok name ↔ value = .string name := by
  -- Only a string is read as a text.
  cases value <;> simp [text]

/-- A timestamp is a text that has one of the spellings. -/
theorem instant_eq_ok_iff {time : Instant} :
    instant value = .ok time
      ↔ ∃ raw, value = .string raw ∧ Timestamp.read? raw = some time := by
  rw [instant, bind_eq_ok_iff]
  -- The text is read first, and then the time that it spells.
  refine exists_congr fun raw => and_congr text_eq_ok_iff ?_
  cases Timestamp.read? raw <;> simp

/-- A number is read as the double that it is, or that is nearest to it. -/
theorem number_eq_ok_iff {x : Double} : number value = .ok x ↔ IsNumber value x := by
  constructor
  · intro read
    cases value with
    -- A whole number is rounded, and any other one is a double already.
    | integer value =>
      cases read
      exact .whole value
    | number value =>
      cases read
      exact .real _
    | _ => cases read
  · rintro (value | value) <;> rfl

/-- A metric may be left out, and it may be null. -/
theorem metric_iff {x : Option Double} :
    (∃ read, ifPresent metric found = .ok read ∧ read.join = x) ↔ IsMetric found x := by
  constructor
  · rintro ⟨read, present, rfl⟩
    -- A metric that is left out is none, and so is null; a number is itself.
    cases found with
    | none =>
      cases present
      exact .missing
    | some value =>
      cases value with
      | null =>
        cases present
        exact .null
      | integer value =>
        cases present
        exact .given (.whole value)
      | number value =>
        cases present
        exact .given (.real value)
      | _ => cases present
  · intro isMetric
    cases isMetric with
    -- Each way to be a metric is one of the ways in which it is read.
    | missing => exact ⟨none, rfl, rfl⟩
    | null => exact ⟨some none, rfl, rfl⟩
    | given isNumber => cases isNumber <;> exact ⟨some (some _), rfl, rfl⟩

/-- The fields make up a reading when each of them is read as the value that the reading has. -/
theorem means_iff {value : String → Option Json} {reading : Reading} :
    Means value reading
      ↔ ifPresent text (value "room") = .ok (some reading.room)
        ∧ ifPresent instant (value "timestamp") = .ok (some reading.time)
        ∧ ifPresent number (value "aqi") = .ok (some reading.aqi)
        ∧ (∃ read, ifPresent metric (value "temperature") = .ok read
          ∧ read.join = reading.temperature)
        ∧ (∃ read, ifPresent metric (value "co2") = .ok read ∧ read.join = reading.co2)
        ∧ (∃ read, ifPresent metric (value "humidity") = .ok read ∧ read.join = reading.humidity)
        ∧ ∃ read, ifPresent metric (value "tvoc") = .ok read ∧ read.join = reading.tvoc := by
  -- The three needed fields have to be there.
  have room : ifPresent text (value "room") = .ok (some reading.room)
      ↔ value "room" = some (.string reading.room) := by
    simp [ifPresent_eq_ok_iff, text_eq_ok_iff]
  -- The time is given by a text that spells it.
  have time : ifPresent instant (value "timestamp") = .ok (some reading.time)
      ↔ ∃ raw, value "timestamp" = some (.string raw)
        ∧ Timestamp.read? raw = some reading.time := by
    simp only [ifPresent_eq_ok_iff, instant_eq_ok_iff]
    constructor
    · rintro ⟨_, found, raw, rfl, read⟩
      exact ⟨raw, found, read⟩
    · rintro ⟨raw, found, read⟩
      exact ⟨_, found, raw, rfl, read⟩
  simp only [room, time, ifPresent_eq_ok_iff, number_eq_ok_iff, metric_iff]
  constructor
  -- Part by part the two sides are the same.
  · rintro ⟨room, time, aqi, temperature, co2, humidity, tvoc⟩
    exact ⟨room, time, aqi, temperature, co2, humidity, tvoc⟩
  · rintro ⟨room, time, aqi, temperature, co2, humidity, tvoc⟩
    exact ⟨room, time, aqi, temperature, co2, humidity, tvoc⟩

end Readers

/-! ## Both kinds of records -/

/-- A record by named members is a reading when the last values of its fields make it up. -/
theorem ofMembers_eq_ok_iff {members : List (String × Json)} {reading : Reading} :
    ofMembers members = .ok reading ↔ Means (Json.lastValue? · members) reading := by
  rw [means_iff]
  simp only [ofMembers, bind_eq_ok_iff, required_eq_ok_iff]
  constructor
  · -- All values are read, in the order of their names, before the needed ones are asked for.
    rintro ⟨_, aqi, _, co2, _, humidity, _, room, _, temperature, _, time, _, tvoc,
      _, rfl, _, rfl, _, rfl, made⟩
    cases made
    exact ⟨room, time, aqi, ⟨_, temperature, rfl⟩, ⟨_, co2, rfl⟩, ⟨_, humidity, rfl⟩,
      ⟨_, tvoc, rfl⟩⟩
  -- The values that are read make up the reading.
  · rintro ⟨room, time, aqi, ⟨_, temperature, sameTemperature⟩, ⟨_, co2, sameCo2⟩,
      ⟨_, humidity, sameHumidity⟩, ⟨_, tvoc, sameTvoc⟩⟩
    refine ⟨_, aqi, _, co2, _, humidity, _, room, _, temperature, _, time, _, tvoc,
      _, rfl, _, rfl, _, rfl, ?_⟩
    rw [sameTemperature, sameCo2, sameHumidity, sameTvoc]

/-- A record by position is a reading when it is no longer than the fields and they make it up. -/
theorem ofItems_eq_ok_iff {items : List Json} {reading : Reading} :
    ofItems items = .ok reading
      ↔ items.length ≤ 7 ∧ Means (Json.lastValue? · (fields.zip items)) reading := by
  have value (field : String) (place : Nat) (named : fields[place]? = some field) :
      Json.lastValue? field (fields.zip items) = items[place]? :=
    Json.lastValue?_zip (by decide) named items
  -- The fields are found in their places.
  rw [means_iff, value "room" 0 rfl, value "timestamp" 1 rfl, value "aqi" 2 rfl,
    value "temperature" 3 rfl, value "co2" 4 rfl, value "humidity" 5 rfl, value "tvoc" 6 rfl]
  simp only [ofItems, bind_eq_ok_iff, atPosition_eq_ok_iff]
  constructor
  · -- The length is looked at last, when every value has been read.
    rintro ⟨_, room, _, time, _, aqi, _, temperature, _, co2, _, humidity, _, tvoc, made⟩
    split at made
    case isTrue => cases made
    case isFalse short =>
      cases made
      exact ⟨by omega, room, time, aqi, ⟨_, temperature, rfl⟩, ⟨_, co2, rfl⟩, ⟨_, humidity, rfl⟩,
        ⟨_, tvoc, rfl⟩⟩
  -- The values are read in their places, and there are no more than seven.
  · rintro ⟨short, room, time, aqi, ⟨_, temperature, sameTemperature⟩, ⟨_, co2, sameCo2⟩,
      ⟨_, humidity, sameHumidity⟩, ⟨_, tvoc, sameTvoc⟩⟩
    refine ⟨_, room, _, time, _, aqi, _, temperature, _, co2, _, humidity, _, tvoc, ?_⟩
    rw [if_neg (by omega), sameTemperature, sameCo2, sameHumidity, sameTvoc]

/-! ## When the fields make up a reading -/

section Fitting

variable {value : String → Option Json} {field : String} {found : Json}

/-- A room has to be a text. -/
theorem fits_room_iff : Fits "room" found ↔ ∃ name, found = .string name := by
  simp [Fits, optional]

/-- A timestamp has to be a text that spells a time. -/
theorem fits_timestamp_iff :
    Fits "timestamp" found ↔ ∃ raw time, found = .string raw ∧ Timestamp.read? raw = some time := by
  simp [Fits, optional]

/-- An index has to be a number. -/
theorem fits_aqi_iff : Fits "aqi" found ↔ ∃ x, IsNumber found x := by
  simp [Fits, optional]

/-- The optional fields are alike. -/
theorem fits_optional_iff (listed : field ∈ optional) :
    Fits field found ↔ found = .null ∨ ∃ x, IsNumber found x := by
  -- None of the needed fields is optional.
  have others : field ≠ "room" ∧ field ≠ "timestamp" ∧ field ≠ "aqi" := by
    refine ⟨?_, ?_, ?_⟩ <;> rintro rfl <;> exact absurd listed (by decide)
  simp [Fits, listed, others]

/-- Null is valid for the fields that may be left out, and for no other. -/
theorem fits_null_iff : Fits field .null ↔ field ∈ optional := by
  -- Null is no number.
  have noNumber (x : Double) : ¬ IsNumber .null x := fun isNumber => nomatch isNumber
  simp [Fits, noNumber]

/-- An optional field is a metric when its value fits, if it has one. -/
theorem exists_isMetric_iff (listed : field ∈ optional) :
    (∃ x, IsMetric (value field) x) ↔ ∀ json ∈ value field, Fits field json := by
  simp only [fits_optional_iff listed, Option.mem_def]
  constructor
  · -- Whatever is found is null or a number, as no other value is a metric.
    rintro ⟨x, isMetric⟩ json found
    rw [found] at isMetric
    cases isMetric with
    | null => exact .inl rfl
    | given isNumber => exact .inr ⟨_, isNumber⟩
  · intro fits
    -- The field is left out, or it has a value that fits.
    cases found : value field with
    | none => exact ⟨none, .missing⟩
    | some json =>
      rcases fits json found with rfl | ⟨x, isNumber⟩
      · exact ⟨none, .null⟩
      · exact ⟨some x, .given isNumber⟩

/-- A reading is made up exactly when the needed fields are there and all values fit. -/
theorem exists_means_iff :
    (∃ reading, Means value reading)
      ↔ (∀ field ∈ needed, (value field).isSome = true)
        ∧ ∀ field ∈ fields, ∀ json ∈ value field, Fits field json := by
  have metric (field : String) (listed : field ∈ optional) :
      (∃ x, IsMetric (value field) x) ↔ ∀ json ∈ value field, Fits field json :=
    exists_isMetric_iff listed
  constructor
  -- The needed fields are there because the reading has their values.
  · rintro ⟨reading, means⟩
    obtain ⟨raw, spelled, read⟩ := means.time
    obtain ⟨number, written, isNumber⟩ := means.aqi
    constructor
    · simp [needed, means.room, spelled, written]
    · simp only [fields, List.forall_mem_cons, means.room, spelled, written, Option.mem_def,
        Option.some.injEq, forall_eq', List.not_mem_nil, false_imp_iff, implies_true, and_true]
      exact ⟨fits_room_iff.mpr ⟨_, rfl⟩, fits_timestamp_iff.mpr ⟨raw, _, rfl, read⟩,
        fits_aqi_iff.mpr ⟨_, isNumber⟩, (metric _ (by decide)).mp ⟨_, means.temperature⟩,
        (metric _ (by decide)).mp ⟨_, means.co2⟩, (metric _ (by decide)).mp ⟨_, means.humidity⟩,
        (metric _ (by decide)).mp ⟨_, means.tvoc⟩⟩
  -- Each needed field is there with a value that fits, which is what the reading takes over.
  · rintro ⟨there, fits⟩
    simp only [needed, List.forall_mem_cons, Option.isSome_iff_exists] at there
    obtain ⟨⟨_, room⟩, ⟨_, time⟩, ⟨_, aqi⟩, -⟩ := there
    obtain ⟨name, rfl⟩ := fits_room_iff.mp (fits "room" (by decide) _ room)
    obtain ⟨raw, instant, rfl, read⟩ := fits_timestamp_iff.mp (fits "timestamp" (by decide) _ time)
    obtain ⟨index, isNumber⟩ := fits_aqi_iff.mp (fits "aqi" (by decide) _ aqi)
    -- The four metrics are alike, and each of them may be missing.
    obtain ⟨temperature, isTemperature⟩ :=
      (metric _ (by decide)).mpr (fits "temperature" (by decide))
    obtain ⟨co2, isCo2⟩ := (metric _ (by decide)).mpr (fits "co2" (by decide))
    obtain ⟨humidity, isHumidity⟩ := (metric _ (by decide)).mpr (fits "humidity" (by decide))
    obtain ⟨tvoc, isTvoc⟩ := (metric _ (by decide)).mpr (fits "tvoc" (by decide))
    exact ⟨⟨name, instant, index, temperature, co2, humidity, tvoc⟩, room, ⟨raw, time, read⟩,
      ⟨_, aqi, isNumber⟩, isTemperature, isCo2, isHumidity, isTvoc⟩

end Fitting

/-! ## The meaning of a record -/

/-- What the meaning of a record by named members depends on. -/
structure OneMeaning (members : List (String × Json)) : Prop where
  /-- The record is the reading that the last values of its fields make up. -/
  meaning : ∀ reading, Reading.ofJson (.object members) = .ok reading
    ↔ Means (Json.lastValue? · members) reading
  /-- There is one when room, timestamp and index are there and each field has a valid value. -/
  isReading : (∃ reading, Reading.ofJson (.object members) = .ok reading)
    ↔ (∀ field ∈ needed, (Json.lastValue? field members).isSome = true)
      ∧ ∀ field ∈ fields, ∀ value ∈ Json.lastValue? field members, Fits field value
  /-- Members that give each field the same last value mean the same. -/
  lastValues : ∀ others,
    (∀ field ∈ fields, Json.lastValue? field others = Json.lastValue? field members) →
    Reading.ofJson (.object others) = Reading.ofJson (.object members)
  /-- Members of different keys may change places. -/
  reordered : ∀ others, (∀ key, others.filter (·.1 == key) = members.filter (·.1 == key)) →
    Reading.ofJson (.object others) = Reading.ofJson (.object members)
  /-- When no key is given twice, all members may. -/
  permuted : ∀ others, others.Perm members → (members.map (·.1)).Nodup →
    Reading.ofJson (.object others) = Reading.ofJson (.object members)
  /-- A member of an unknown key may be put in anywhere. -/
  unknown : ∀ front back key value, front ++ back = members → key ∉ fields →
    Reading.ofJson (.object (front ++ (key, value) :: back)) = Reading.ofJson (.object members)
  /-- So may a member that a later one of its key overrides. -/
  overridden : ∀ front back key value, front ++ back = members → key ∈ back.map (·.1) →
    Reading.ofJson (.object (front ++ (key, value) :: back)) = Reading.ofJson (.object members)

/-- A record by position has the outcome of the one that names its values in order. -/
structure SameByPosition (items : List Json) : Prop where
  outcome : items.length ≤ 7 → (Reading.ofJson (.array items)).toOption
    = (Reading.ofJson (.object (fields.zip items))).toOption
  /-- Only from three up to seven values can be a reading. -/
  noReading : items.length < 3 ∨ 7 < items.length →
    (Reading.ofJson (.array items)).toOption = none

/-- The last values of the fields decide on the outcome, with the fault if there is one. -/
theorem ofMembers_congr {members others : List (String × Json)}
    (same : ∀ field ∈ fields, Json.lastValue? field others = Json.lastValue? field members) :
    ofMembers others = ofMembers members := by
  -- Only the seven fields are asked for.
  simp only [fields, List.forall_mem_cons] at same
  obtain ⟨room, time, aqi, temperature, co2, humidity, tvoc, -⟩ := same
  simp only [ofMembers, room, time, aqi, temperature, co2, humidity, tvoc]

/-- Records by named members have one meaning, whatever members there are. -/
theorem oneMeaning (members : List (String × Json)) : OneMeaning members where
  meaning _ := ofMembers_eq_ok_iff
  isReading := by
    rw [← exists_means_iff]
    exact exists_congr fun _ => ofMembers_eq_ok_iff
  lastValues _ same := ofMembers_congr same
  reordered _ inOrder := ofMembers_congr fun field _ => Json.lastValue?_inOrder (inOrder field)
  permuted _ perm distinct := ofMembers_congr fun field _ =>
    Json.lastValue?_inOrder (Json.filter_key_of_perm perm distinct field)
  unknown _ _ key _ whole foreign := by
    subst whole
    -- The unknown key is none of the fields.
    refine ofMembers_congr fun field known => Json.lastValue?_other fun same => ?_
    exact foreign (same ▸ known)
  overridden _ _ _ _ whole again := by
    subst whole
    exact ofMembers_congr fun _ _ => Json.lastValue?_overridden again

/-- Records by position have the meaning of the members that name their values. -/
theorem sameByPosition (items : List Json) : SameByPosition items where
  outcome short := by
    refine toOption_congr fun reading => ?_
    -- Up to seven values both are the reading that the fields in their places make up.
    simp only [Reading.ofJson, ofItems_eq_ok_iff, ofMembers_eq_ok_iff, short, true_and]
  noReading outside := by
    cases outcome : ofItems items with
    | error fault => simp only [Reading.ofJson, outcome, Except.toOption]
    | ok reading =>
      -- A reading has an index, which is the third of at most seven values.
      obtain ⟨short, means⟩ := ofItems_eq_ok_iff.mp outcome
      obtain ⟨number, found, -⟩ := means.aqi
      have third : Json.lastValue? "aqi" (fields.zip items) = items[2]? :=
        Json.lastValue?_zip (by decide) rfl items
      rw [third] at found
      obtain ⟨long, -⟩ := List.getElem?_eq_some_iff.mp found
      omega

/--
A record has one meaning, whichever way it is written.

By named members it is decided by the last value of each field, and by position it is that of the
members which name the values in order. Null is valid exactly for the four metrics that may be left
out.
-/
theorem record_meaning :
    (∀ members, OneMeaning members)
      ∧ (∀ field, Fits field .null ↔ field ∈ optional)
      ∧ ∀ items, SameByPosition items :=
  ⟨oneMeaning, fun _ => fits_null_iff, sameByPosition⟩

end Record

end RoomAir
