import RoomAir.Source.Address
import RoomAir.Source.Feed

/-! Reading sets that are fetched from the web. -/

namespace RoomAir

/-- What became of a request for a document. -/
inductive Reply where
  /-- There was no response. -/
  | unreachable
  | response (status : Nat) (body : Bytes)

namespace Reply

/-- Whether a status says that the request succeeded. -/
def isSuccess (status : Nat) : Bool :=
  200 ≤ status && status < 300

/-- Why there was no response, which names the address in its one spelling. -/
def noResponse (address : Address) : String :=
  "error sending request for url (" ++ address.text ++ ")"

/-- Why there was no request to a text that is no address. -/
def noRequest : String := "builder error"

end Reply

/-- The fetch of the document at an address: the body counts only in a success. -/
def Fetch.ofReply (url : String) (reply : Reply) : Fetch :=
  match Address.ofText? url, reply with
  | none, _ => .ofFailure (.transport url Reply.noRequest)
  | some address, .unreachable => .ofFailure (.transport url (Reply.noResponse address))
  | some _, .response status body =>
    if Reply.isSuccess status then .ofDocument body else .ofFailure (.status url status)

end RoomAir
