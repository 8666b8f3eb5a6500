import RoomAir.Json.Value
import RoomAir.Text.Utf8

/-! Responses: status, headers and body, a page's body perhaps being compressed. -/

namespace RoomAir

/-- A response to a request. -/
structure Response where
  status : Nat
  contentType : String
  /-- Whether the body is a page, which states its length and varies by accepted coding. -/
  page : Bool
  /-- Whether the body is sent in the Brotli coding. -/
  compressed : Bool
  /-- The body as it is before any coding. -/
  body : String
  deriving DecidableEq, Repr

namespace Response

/-- A page. -/
def html (document : String) (compressed : Bool) : Response :=
  { status := 200, contentType := "text/html; charset=utf-8", page := true, compressed
    body := document }

/-- A plain text. -/
def plain (status : Nat) (text : String) : Response :=
  { status, contentType := "text/plain; charset=utf-8", page := false, compressed := false
    body := text }

/-- A JSON value. -/
def json (status : Nat) (value : Json) : Response :=
  { status, contentType := "application/json", page := false, compressed := false
    body := value.text }

/-- The headers that do not depend on how well the body compresses. -/
def headers (response : Response) : List (String × String) :=
  [("content-type", response.contentType)]
    ++ (if response.page then [("vary", "accept-encoding")] else [])
    ++ (if response.page && !response.compressed then
        [("content-length", toString (Utf8.byteLength response.body))]
      else [])
    ++ (if response.compressed then [("content-encoding", "br")] else [])

end Response

end RoomAir
