import RoomAir.Proofs.Dashboard.RoomsApart
import RoomAir.Proofs.Projection.Stability

/-! The series of the details: the selected readings in time order, although the rows are not. -/

namespace RoomAir

/-- On the overview a room has one series, made of the readings of the room in time order. -/
theorem Overview.filter_series_eq {readings : List Reading} {room : String}
    (occurs : ∃ reading ∈ readings, reading.room = room) :
    (ofReadings readings).series.filter (·.id = room)
      = [.ofReadings room (room ++ " AQI") .aqi
          (Projection.ascending (readings.filter (RoomFilter.room room).accepts))] := by
  rw [ofReadings, Projection.seriesByRoom_eq, List.map_map, List.filter_map]
  -- A series is known by its room, and the room stands in the list once.
  exact congrArg _ (Projection.filter_distinctRooms_eq_singleton occurs)

namespace Details

variable (readings : List Reading) (filter : RoomFilter)

/-- Every series of the details is made of the selected readings in time order. -/
theorem series_ofReadings :
    (ofReadings readings filter).series = metrics.map fun metric =>
      .ofReadings metric.id metric.label metric
        (Projection.ascending (readings.filter filter.accepts)) := by
  -- The details sort the rows, which come from the selected readings newest first.
  rw [ofReadings, Projection.ascending_newestFirst]

/-- A series of the details has the times of the rows, in reverse. -/
theorem milliseconds_series {series : Series}
    (listed : series ∈ (ofReadings readings filter).series) :
    series.points.map SeriesPoint.milliseconds
      = ((ofReadings readings filter).rows.map fun row => row.time.milliseconds).reverse := by
  -- Each series is made for a metric, and its points for the rows sorted back.
  obtain ⟨metric, -, rfl⟩ := List.mem_map.mp listed
  have times := congrArg (List.map Instant.milliseconds)
    (Projection.times_ascending_newestFirst readings filter)
  rw [List.map_reverse, List.map_map, List.map_map] at times
  rw [Series.ofReadings, List.map_map]
  exact times

/--
The series of the details hold the selected readings in time order, equally old ones in theirs.

The points in one place of the three series belong to one reading, and each row has its points.
The times of a series are those of the rows in reverse.
The first series of a single room is the one that the overview shows of the room.
-/
theorem series_inOrder :
    ∃ sorted aqi temperature co2,
      Projection.StablySorted (readings.filter filter.accepts) sorted
        ∧ (ofReadings readings filter).series = [aqi, temperature, co2]
        ∧ [aqi, temperature, co2].map Series.id = ["aqi", "temperature", "co2"]
        ∧ aqi.points = sorted.map (fun reading => ⟨reading.time.milliseconds, some reading.aqi⟩)
        ∧ temperature.points
            = sorted.map (fun reading => ⟨reading.time.milliseconds, reading.temperature⟩)
        ∧ co2.points = sorted.map (fun reading => ⟨reading.time.milliseconds, reading.co2⟩)
        ∧ (∀ series ∈ [aqi, temperature, co2],
            series.points.length = (ofReadings readings filter).rows.length
            ∧ series.points.map SeriesPoint.milliseconds
                = ((ofReadings readings filter).rows.map fun row => row.time.milliseconds).reverse)
        ∧ ∀ room, filter = .room room → (∃ reading ∈ readings, reading.room = room) →
            ∃ own, (Overview.ofReadings readings).series.filter (·.id = room) = [own]
              ∧ aqi.points = own.points := by
  -- The three series are those of the three metrics.
  have all := series_ofReadings readings filter
  refine ⟨_, _, _, _, Projection.stablySorted_ascending _, all, rfl, rfl, rfl, rfl, ?_, ?_⟩
  -- A point for each row makes them equally many.
  · intro series listed
    have times := milliseconds_series readings filter (by rw [all]; exact listed)
    refine ⟨?_, times⟩
    simpa using congrArg List.length times
  -- On both pages the first series has the index of the readings of the room.
  · rintro room rfl occurs
    exact ⟨_, Overview.filter_series_eq occurs, rfl⟩

/-- Two readings of a room that are equally old stand in one order on both pages. -/
theorem series_inOrder_tie :
    let readings : List Reading :=
      [⟨"Hall", ⟨28487280, 0, 0⟩, .zero false, none, none, none, none⟩,
       ⟨"Attic", ⟨28487281, 0, 0⟩, .zero false, none, none, none, none⟩,
       ⟨"Hall", ⟨28487280, 0, 0⟩, .zero true, none, none, none, none⟩]
    ∃ sorted aqi temperature co2 own,
      Projection.StablySorted (readings.filter (RoomFilter.room "Hall").accepts) sorted
        ∧ (ofReadings readings (.room "Hall")).series = [aqi, temperature, co2]
        ∧ aqi.points = sorted.map (fun reading => ⟨reading.time.milliseconds, some reading.aqi⟩)
        ∧ (Overview.ofReadings readings).series.filter (·.id = "Hall") = [own]
        ∧ aqi.points = own.points := by
  intro readings
  -- Both readings of the room are of one time, so only stability tells their order.
  obtain ⟨sorted, aqi, temperature, co2, stable, all, -, points, -, -, -, shared⟩ :=
    series_inOrder readings (.room "Hall")
  obtain ⟨own, single, same⟩ := shared "Hall" rfl ⟨_, List.mem_cons_self, rfl⟩
  exact ⟨sorted, aqi, temperature, co2, own, stable, all, points, single, same⟩

end Details

end RoomAir
