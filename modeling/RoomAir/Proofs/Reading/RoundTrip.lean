import RoomAir.Http.Site
import RoomAir.Proofs.Json.ReadBack
import RoomAir.Proofs.Time.Timestamp

/-! Readings that are served as data are decoded as the readings they were. -/

namespace RoomAir

namespace Reading

/-- The metrics that a reading has, its air quality index first. -/
def numbers (reading : Reading) : List Double :=
  reading.aqi :: [reading.temperature, reading.co2, reading.humidity, reading.tvoc].filterMap id

/-- A reading of a year with four digits whose numbers are read as they are written. -/
structure Readable (reading : Reading) : Prop where
  fromZero : 0 ≤ reading.time.date.year
  fourDigits : reading.time.date.year ≤ 9999
  survives : ∀ x ∈ reading.numbers, Json.Survives x

instance (reading : Reading) : Decidable reading.Readable :=
  decidable_of_iff (0 ≤ reading.time.date.year ∧ reading.time.date.year ≤ 9999
      ∧ ∀ x ∈ reading.numbers, Json.Survives x)
    ⟨fun ⟨fromZero, fourDigits, survives⟩ => ⟨fromZero, fourDigits, survives⟩,
      fun readable => ⟨readable.fromZero, readable.fourDigits, readable.survives⟩⟩

/-- A metric is read as the metric it was, and as none where it was missing. -/
theorem metric_metricJson (value : Option Double) :
    Record.metric (metricJson value) = .ok value := by
  -- A metric is written as a number, and a missing one as null.
  cases value <;> rfl

/-- The record of a reading is that reading. -/
theorem ofJson_toJson {reading : Reading} (readable : reading.Readable) :
    ofJson reading.toJson = .ok reading := by
  -- The time has four digits for its year, so its text leads back to it.
  have time := Timestamp.read?_text readable.fromZero readable.fourDigits
  rw [toJson, ofJson, Record.ofMembers]
  -- The last value of each field is the one that was written for it.
  simp [Json.lastValue?, List.findRev?, Record.ifPresent, Record.number, Record.text,
    Record.instant, time, metric_metricJson, Record.required, Except.map, bind, Except.bind]

/-- The text of a record is read as that record. -/
theorem readsBack_toJson {reading : Reading} (readable : reading.Readable) {depth : Nat}
    (deep : 1 < depth) : Json.ReadsBack depth reading.toJson := by
  -- A metric is one of the numbers of the reading, or it is null.
  have metric {value : Option Double} (numbers : ∀ x ∈ value, x ∈ reading.numbers) :
      Json.ReadsBack (depth - 1) (metricJson value) := by
    cases value with
    | none => exact Json.readsBack_null
    | some x => exact Json.readsBack_number (readable.survives x (numbers x rfl))
  refine Json.readsBack_object deep fun member inside => ?_
  simp only [List.mem_cons, List.not_mem_nil, or_false] at inside
  -- There are seven members: the room, the time, the index and the four metrics.
  rcases inside with rfl | rfl | rfl | rfl | rfl | rfl | rfl
  · exact Json.readsBack_string _
  · exact Json.readsBack_string _
  · exact Json.readsBack_number (readable.survives _ (List.mem_cons_self ..))
  all_goals
    refine metric fun x there => ?_
    simp [numbers, Option.mem_def.mp there]

end Reading

namespace Document

/-- Records of readings are sorted into these readings. -/
theorem ofRecords_toJson {readings : List Reading}
    (readable : ∀ reading ∈ readings, reading.Readable) (index : Nat) :
    ofRecords index (readings.map Reading.toJson) = ⟨readings, []⟩ := by
  induction readings generalizing index with
  -- Without records there are no readings.
  | nil => rfl
  | cons reading readings ih =>
    rw [List.forall_mem_cons] at readable
    -- The first record is a reading, so it is kept.
    rw [List.map_cons, ofRecords, Reading.ofJson_toJson readable.1, ih readable.2]

/-- Readings that are written as one document are what is decoded from it. -/
theorem decode_toJson {readings : List Reading}
    (readable : ∀ reading ∈ readings, reading.Readable) :
    decode (Utf8.encode (Json.array (readings.map Reading.toJson)).text) = .ok ⟨readings, []⟩ := by
  -- Each record is read back from its text.
  have readBack : ∀ item ∈ readings.map Reading.toJson,
      Json.ReadsBack (Json.depthLimit - 1) item := by
    intro item member
    obtain ⟨reading, inside, rfl⟩ := List.mem_map.mp member
    exact Reading.readsBack_toJson (readable reading inside) (by decide)
  rw [decode, Json.readArray_text readBack]
  exact congrArg Except.ok (ofRecords_toJson readable 0)

end Document

namespace Site

/-- Without a room the data of a document is a document, with the same readings newest first. -/
theorem decode_detailsData {site : Site} {request : Request} {query : Query} {bytes : Bytes}
    {document : Document} (fetches : site.feed.head.outcome = (Fetch.ofDocument bytes).outcome)
    (decoded : Document.decode bytes = .ok document) (asks : request.resource = .detailsData)
    (accepted : Query.read false request.query = .ok query) (noRoom : query.filter = .all)
    (readable : ∀ reading ∈ document.readings, reading.Readable) :
    ∃ answer, site.answer? request = some (answer, site.fetched)
      ∧ answer.response.status = 200
      ∧ Document.decode (Utf8.encode answer.response.body)
        = .ok ⟨Projection.newestFirst document.readings .all, []⟩ := by
  -- The feed has the document, and all of its records are readings.
  have outcome : site.feed.head.outcome = .ok document.readings := by
    rw [fetches, Fetch.ofDocument, decoded]
  refine ⟨site.dataAnswer (detailsData .all), ?_, ?_, ?_⟩
  -- Without a room the readings are not filtered.
  · simp only [answer?, respond, asks, accepted, noRoom, Option.map_some]
  · simp only [dataAnswer, outcome, Response.json]
  · -- Sorting neither adds nor drops a reading.
    have sorted : ∀ reading ∈ Projection.newestFirst document.readings .all, reading.Readable := by
      intro reading member
      rw [Projection.newestFirst, List.mem_mergeSort, List.mem_filter] at member
      exact readable reading member.1
    simp only [dataAnswer, outcome, Response.json]
    exact Document.decode_toJson sorted

/-- A leap second, marks in a name, an offset and missing metrics survive being served. -/
theorem decode_detailsData_leapSecond :
    let bytes := Utf8.encode
      "[\x7b\"room\":\"a\\\"\\n\",\"timestamp\":\"2016-12-31T23:59:60.00000001Z\",\"aqi\":1.5\x7d,0,
        [\"\",\"2017-01-01 03:00:00.5+03:00\",-0.0,null,1e3]]"
    let site : Site := ⟨.standard, ⟨"feed", Fetch.ofDocument bytes, []⟩, 0⟩
    let request : Request := ⟨.detailsData, some "room=all", []⟩
    ∃ document answer, Document.decode bytes = .ok document
      ∧ site.answer? request = some (answer, site.fetched)
      ∧ answer.response.status = 200
      ∧ Document.decode (Utf8.encode answer.response.body)
        = .ok ⟨Projection.newestFirst document.readings .all, []⟩ := by
  intro bytes site request
  -- The document decodes, and what is decoded from it can be read back.
  have decodes : (Document.decode bytes).isOk = true := by decide +kernel
  have allReadable : (Document.decode bytes).map
      (fun document => decide (∀ reading ∈ document.readings, reading.Readable)) = .ok true := by
    decide +kernel
  obtain ⟨document, decoded⟩ := Json.exists_of_isOk decodes
  rw [decoded] at allReadable
  have readable := of_decide_eq_true (Except.ok.inj allReadable)
  -- The word for all rooms stands for no room.
  have accepted : Query.read false request.query = .ok ⟨some "all", none⟩ := by decide +kernel
  have fetches : site.feed.head.outcome = (Fetch.ofDocument bytes).outcome := rfl
  obtain ⟨answer, answered, status, served⟩ :=
    decode_detailsData fetches decoded rfl accepted rfl readable
  exact ⟨document, answer, decoded, answered, status, served⟩

end Site

end RoomAir
