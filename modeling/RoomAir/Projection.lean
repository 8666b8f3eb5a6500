import RoomAir.Room

/-! Projections of a reading set: the latest of each room, the rooms, the newest, and the series. -/

namespace RoomAir.Projection

/-- Whether a reading is no later than another. -/
def olderFirst (a b : Reading) : Bool :=
  a.time.notAfter b.time

/-- Whether a reading is no earlier than another. -/
def newerFirst (a b : Reading) : Bool :=
  b.time.notAfter a.time

/-- Enters a reading among the latest ones: a later or equally late one of its room is replaced. -/
def keepLatest : List Reading → Reading → List Reading
  | [], reading => [reading]
  | latest :: others, reading =>
    if latest.room = reading.room then
      -- The room keeps its place, whichever of the two readings is kept.
      (if olderFirst latest reading then reading else latest) :: others
    else latest :: keepLatest others reading

/-- The latest reading of each room, rooms in order of first appearance. -/
def latestPerRoom (readings : List Reading) : List Reading :=
  readings.foldl keepLatest []

/-- The rooms in order of first appearance. -/
def distinctRooms (readings : List Reading) : List String :=
  (readings.map Reading.room).eraseDups

/-- The readings that a filter accepts, newest first and equally new ones in their order. -/
def newestFirst (readings : List Reading) (filter : RoomFilter) : List Reading :=
  (readings.filter filter.accepts).mergeSort newerFirst

/-- Readings in time order, equally old ones in their order. -/
def ascending (readings : List Reading) : List Reading :=
  readings.mergeSort olderFirst

/-- Enters a reading at the end of its room's group, which is opened if there is none. -/
def group : List (String × List Reading) → Reading → List (String × List Reading)
  | [], reading => [(reading.room, [reading])]
  | (room, readings) :: others, reading =>
    if room = reading.room then (room, readings ++ [reading]) :: others
    else (room, readings) :: group others reading

/-- The readings of each room in time order, rooms in order of first appearance. -/
def seriesByRoom (readings : List Reading) : List (String × List Reading) :=
  (readings.foldl group []).map fun (room, readings) => (room, ascending readings)

end RoomAir.Projection
