import RoomAir.Notice
import RoomAir.Proofs.Json.Listing

/-! Documents are decoded record by record, so what is no reading spoils nothing around it. -/

namespace RoomAir

open Json (Listing IsDocument IsValue bracketed ascii)

/-- The notices of skipped records. -/
def Notice.skips (skipped : List (Nat × RecordFault)) : List Notice :=
  skipped.map fun (index, fault) => .skippedRecord index fault

namespace Document

variable {text first second : Bytes} {records firstRecords secondRecords : List Json}
  {document one two : Document}

/-! ## Sorting records -/

/-- Skipped records where so many other records come first. -/
def later (count : Nat) (skipped : List (Nat × RecordFault)) : List (Nat × RecordFault) :=
  skipped.map fun (index, fault) => (index + count, fault)

/-- Every record is kept or skipped. -/
theorem total_ofRecords (index : Nat) (records : List Json) :
    (ofRecords index records).total = records.length := by
  induction records generalizing index with
  -- There is nothing to be kept or skipped.
  | nil => rfl
  | cons record records ih =>
    have others := ih (index + 1)
    simp only [total, ofRecords, List.length_cons] at others ⊢
    -- The record is counted on the side it falls on.
    split <;> simp only [List.length_cons] <;> omega

/-- Records that come later are the same readings, and their faults have later places. -/
theorem ofRecords_add (count index : Nat) (records : List Json) :
    ofRecords (index + count) records
      = ⟨(ofRecords index records).readings, later count (ofRecords index records).skipped⟩ := by
  induction records generalizing index with
  | nil => rfl
  | cons record records ih =>
    have others := ih (index + 1)
    -- The place of the first record is counted on, and the others follow it.
    rw [Nat.add_right_comm] at others
    rw [ofRecords, ofRecords, others]
    dsimp only
    split <;> rfl

/-- The records behind others are sorted as they are by themselves. -/
theorem ofRecords_append (index : Nat) (firstRecords secondRecords : List Json) :
    ofRecords index (firstRecords ++ secondRecords)
      = ⟨(ofRecords index firstRecords).readings ++ (ofRecords index secondRecords).readings,
          (ofRecords index firstRecords).skipped
            ++ later firstRecords.length (ofRecords index secondRecords).skipped⟩ := by
  induction firstRecords generalizing index with
  -- In front of everything nothing is counted on.
  | nil => simp [ofRecords, later]
  | cons record firstRecords ih =>
    have others := ih (index + 1)
    -- The first record makes all later places one more, those of the second part included.
    rw [ofRecords_add 1 index secondRecords] at others
    rw [List.cons_append, ofRecords, ofRecords, others]
    dsimp only
    split <;> simp [later, Nat.add_assoc, Nat.add_comm 1]

/-! ## Decoding records between brackets -/

/-- Records that are listed between brackets are the document's records. -/
theorem decode_bracketed (listing : Listing (IsValue (Json.depthLimit - 1)) text records) :
    decode (bracketed text) = .ok (ofRecords 0 records) := by
  -- The listed records are all that the array has.
  rw [decode, listing.readArray]
  rfl

/-- What is decoded from listed records are these records. -/
theorem of_decode_bracketed (listing : Listing IsDocument text records)
    (decoded : decode (bracketed text) = .ok document) :
    document = ofRecords 0 records
      ∧ Listing (IsValue (Json.depthLimit - 1)) text records := by
  rw [decode] at decoded
  -- If the array cannot be read, nothing is decoded.
  cases read : Json.readArray Quoted.quote (bracketed text) with
  | error fault => rw [read] at decoded; cases decoded
  | ok items =>
    rw [read] at decoded
    obtain ⟨rfl, listed⟩ := listing.of_readArray read
    exact ⟨(Except.ok.inj decoded).symm, listed⟩

/-- What a document is whose records are those of two others, given how many these have. -/
structure Joined (one two whole : Document) (oneCount twoCount : Nat) : Prop where
  readings : whole.readings = one.readings ++ two.readings
  skipped : whole.skipped = one.skipped ++ later oneCount two.skipped
  notices : Notice.ofDocument whole
    = Notice.skips one.skipped ++ Notice.skips (later oneCount two.skipped)
      ++ if one.skipped.isEmpty && two.skipped.isEmpty then []
        else [.partlyDecoded (one.readings.length + two.readings.length) (oneCount + twoCount)]

/-- The records of two documents make up the joined one. -/
theorem joined_ofRecords (firstRecords secondRecords : List Json) :
    Joined (ofRecords 0 firstRecords) (ofRecords 0 secondRecords)
      (ofRecords 0 (firstRecords ++ secondRecords)) firstRecords.length secondRecords.length := by
  -- Every record is kept or skipped, so the totals add up.
  have total := total_ofRecords 0 (firstRecords ++ secondRecords)
  rw [List.length_append] at total
  have parts := ofRecords_append 0 firstRecords secondRecords
  refine ⟨by rw [parts], by rw [parts], ?_⟩
  rw [Notice.ofDocument, total, parts]
  generalize ofRecords 0 firstRecords = one
  generalize ofRecords 0 secondRecords = two
  -- The closing notice stands where one of the two skipped something.
  cases oneSkipped : one.skipped <;> cases twoSkipped : two.skipped <;> simp [Notice.skips, later]

/-- A record that is no reading leaves the readings around it alone. -/
theorem readings_ofRecords_fault {record : Json} {fault : RecordFault}
    (noReading : Reading.ofJson record = .error fault) :
    (ofRecords 0 [record]).readings = [] := by
  -- A record with a fault is skipped.
  rw [ofRecords, noReading]
  rfl

/-- Documents put together decode to what they decode to by themselves, the skipped records of the
second one being counted on, and valid elements that are no readings may be inserted anywhere. -/
theorem decode_joined (isFirst : Listing IsDocument first firstRecords)
    (isSecond : Listing IsDocument second secondRecords)
    (decodeFirst : decode (bracketed first) = .ok one)
    (decodeSecond : decode (bracketed second) = .ok two) :
    ∃ whole, decode (bracketed (first ++ ascii ',' :: second)) = .ok whole
      ∧ Joined one two whole firstRecords.length secondRecords.length
      ∧ ∀ element record fault, IsDocument element record →
        Reading.ofJson record = .error fault → (decode (bracketed element)).isOk = true →
        (decode (bracketed (element ++ ascii ',' :: first))).map readings = .ok one.readings
        ∧ (decode (bracketed (first ++ ascii ',' :: element))).map readings = .ok one.readings
        ∧ (decode (bracketed (first ++ ascii ',' :: (element ++ ascii ',' :: second)))).map readings
          = .ok whole.readings := by
  -- Both listings are read, and no document nests deeper than in an array of its own.
  obtain ⟨rfl, listsFirst⟩ := of_decode_bracketed isFirst decodeFirst
  obtain ⟨rfl, listsSecond⟩ := of_decode_bracketed isSecond decodeSecond
  refine ⟨_, decode_bracketed (listsFirst.append listsSecond), joined_ofRecords .., ?_⟩
  intro element record fault isElement noReading decodes
  -- The element by itself is listed no deeper than the others.
  obtain ⟨alone, decoded⟩ := Json.exists_of_isOk decodes
  obtain ⟨-, listsElement⟩ := of_decode_bracketed (.last isElement) decoded
  have none := readings_ofRecords_fault noReading
  refine ⟨?_, ?_, ?_⟩
  -- The element comes first, and it adds no reading.
  · rw [decode_bracketed (listsElement.append listsFirst), ofRecords_append]
    simp [Except.map, none]
  -- The element comes last.
  · rw [decode_bracketed (listsFirst.append listsElement), ofRecords_append]
    simp [Except.map, none]
  -- The element comes between the two documents.
  · rw [decode_bracketed (listsFirst.append (listsElement.append listsSecond)), ofRecords_append,
      ofRecords_append, ofRecords_append]
    simp [Except.map, none]

/-- An element that is valid and no reading is one of some record with some fault. -/
theorem exists_fault {element : Bytes}
    (noReading : (Json.read element).map (fun record => (Reading.ofJson record).isOk) = .ok false) :
    ∃ record fault, IsDocument element record ∧ Reading.ofJson record = .error fault := by
  -- The element is a document, so it has been read as some record.
  cases read : Json.read element with
  | error fault => rw [read] at noReading; cases noReading
  | ok record =>
    rw [read] at noReading
    cases outcome : Reading.ofJson record with
    | error fault => exact ⟨record, fault, read, outcome⟩
    | ok reading => simp [Except.map, outcome, Except.isOk, Except.toBool] at noReading

/-- Marks in a name and an element that is a list leave the two readings around them alone. -/
theorem decode_joined_marks :
    let first := Utf8.encode "7 " ++ ascii ',' :: Utf8.encode
      "\x7b\"room\":\"],[\",\"timestamp\":\"2024-03-01T10:00:00Z\",\"aqi\":42\x7d"
    let second := Utf8.encode "[\"b\",\"2024-03-01T10:00:00Z\",9]"
    let element := Utf8.encode " [[],\"]\"] "
    ∃ one two whole, decode (bracketed first) = .ok one ∧ decode (bracketed second) = .ok two
      ∧ decode (bracketed (first ++ ascii ',' :: second)) = .ok whole ∧ Joined one two whole 2 1
      ∧ (decode (bracketed (first ++ ascii ',' :: (element ++ ascii ',' :: second)))).map readings
        = .ok whole.readings := by
  intro first second element
  -- The elements are documents by themselves, and the one to insert is no reading.
  have okNumber : (Json.read (Utf8.encode "7 ")).isOk = true := by decide +kernel
  have okObject : (Json.read (Utf8.encode
      "\x7b\"room\":\"],[\",\"timestamp\":\"2024-03-01T10:00:00Z\",\"aqi\":42\x7d")).isOk
        = true := by
    decide +kernel
  have okArray : (Json.read second).isOk = true := by decide +kernel
  have noReading : (Json.read element).map (fun record => (Reading.ofJson record).isOk)
      = .ok false := by
    decide +kernel
  obtain ⟨_, isNumber⟩ := Json.exists_of_isOk okNumber
  obtain ⟨_, isObject⟩ := Json.exists_of_isOk okObject
  obtain ⟨_, isArray⟩ := Json.exists_of_isOk okArray
  obtain ⟨record, fault, isElement, isFault⟩ := exists_fault noReading
  -- So are the documents that they are put together from.
  have okFirst : (decode (bracketed first)).isOk = true := by decide +kernel
  have okSecond : (decode (bracketed second)).isOk = true := by decide +kernel
  have okElement : (decode (bracketed element)).isOk = true := by decide +kernel
  obtain ⟨one, decodeFirst⟩ := Json.exists_of_isOk okFirst
  obtain ⟨two, decodeSecond⟩ := Json.exists_of_isOk okSecond
  obtain ⟨whole, decoded, joined, inserted⟩ :=
    decode_joined (.more isNumber (.last isObject)) (.last isArray) decodeFirst decodeSecond
  exact ⟨one, two, whole, decodeFirst, decodeSecond, decoded, joined,
    (inserted element record fault isElement isFault okElement).2.2⟩

end Document

end RoomAir
