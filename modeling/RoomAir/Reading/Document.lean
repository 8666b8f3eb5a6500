import RoomAir.Reading.Record

/-! Reading documents: arrays of records, of which the ones that are no readings are skipped. -/

namespace RoomAir

/-- A document's readings in order, and what became of its other records. -/
structure Document where
  readings : List Reading
  /-- The index and the fault of every record that is no reading, in order. -/
  skipped : List (Nat × RecordFault)

namespace Document

/-- How many records the document has. -/
def total (document : Document) : Nat :=
  document.readings.length + document.skipped.length

/-- The records sorted into readings and faults, the first one having the given index. -/
def ofRecords : Nat → List Json → Document
  | _, [] => ⟨[], []⟩
  | index, record :: records =>
    let later := ofRecords (index + 1) records
    match Reading.ofJson record with
    | .ok reading => { later with readings := reading :: later.readings }
    | .error fault => { later with skipped := (index, fault) :: later.skipped }

/-- The document that a byte string holds. -/
def decode (bytes : Bytes) : Except JsonError Document :=
  (Json.readArray Quoted.quote bytes).map (ofRecords 0)

end Document

end RoomAir
