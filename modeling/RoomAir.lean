import RoomAir.Main
import RoomAir.Proofs.Dashboard.DetailSeries
import RoomAir.Proofs.Dashboard.PointTimes
import RoomAir.Proofs.Dashboard.RoomsApart
import RoomAir.Proofs.Dashboard.TimeOrder
import RoomAir.Proofs.Http.Codings
import RoomAir.Proofs.Http.DisplayText
import RoomAir.Proofs.Http.EventBody
import RoomAir.Proofs.Http.HandOff
import RoomAir.Proofs.Http.Refreshing
import RoomAir.Proofs.Http.Rendering
import RoomAir.Proofs.Http.Reopening
import RoomAir.Proofs.Http.Requests
import RoomAir.Proofs.Http.RoomLinks
import RoomAir.Proofs.Projection.Groupings
import RoomAir.Proofs.Reading.Joining
import RoomAir.Proofs.Reading.Meaning
import RoomAir.Proofs.Reading.RoundTrip
import RoomAir.Proofs.Settings.Verbatim
import RoomAir.Proofs.Time.ReadBack
import RoomAir.Proofs.Time.Spellings
import RoomAir.Proofs.Time.Unambiguous
import RoomAir.Proofs.View.Fragments
import RoomAir.Proofs.View.LifeCycle
import RoomAir.Proofs.View.Schedule
import RoomAir.Proofs.View.Scripts
import RoomAir.Proofs.View.Selection
import RoomAir.Source.Folder
