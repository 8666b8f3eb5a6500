import RoomAir.View.Refresh

/-! The event stream of a page: an event for each update, and a comment after a silence. -/

namespace RoomAir

/-- One piece of an event stream. -/
inductive StreamChunk where
  | refresh (update : ViewUpdate)
  | keepAlive

namespace StreamChunk

/-- The text of a piece, which ends with a blank line. -/
def text : StreamChunk → String
  | .refresh update => "event: refresh\ndata: " ++ update.toJson.text ++ "\n\n"
  | .keepAlive => ":\n\n"

end StreamChunk

namespace EventStream

/-- The longest silence in milliseconds. -/
def silence : Nat := 15000

/-- The comments that fall between a piece and a later moment, the moment itself excluded. -/
def keepAlives (last moment : Nat) : List (Nat × StreamChunk) :=
  -- A silence that ends at the moment itself is broken just in time.
  (List.range ((moment - last - 1) / silence)).map fun index =>
    (last + (index + 1) * silence, .keepAlive)

/-- The pieces of a stream since the last one, up to a moment: every piece starts a new silence. -/
def pieces (limit : Nat) : Nat → List (Nat × ViewUpdate) → List (Nat × StreamChunk)
  | last, [] => keepAlives last (limit + 1)
  | last, (moment, update) :: later =>
    keepAlives last moment ++ (moment, .refresh update) :: pieces limit moment later

/-- The pieces of a stream that carries the given refreshes. -/
def ofRefreshes (limit : Nat) (refreshes : List Refresh) : List (Nat × StreamChunk) :=
  pieces limit 0 (refreshes.filterMap fun refresh =>
    refresh.update.map fun update => (refresh.finished, update))

end EventStream

end RoomAir
