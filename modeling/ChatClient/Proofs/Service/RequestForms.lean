import ChatClient.Proofs.Json.Records
import ChatClient.Proofs.Service.SentRequests

/-! The one form of completion requests. Whole or streamed, for a conversation or a lone prompt, or
straight from a client: what is sent is a post to one address with the same headers and one body.
Only the kind of answer that is accepted, the flag for streaming and the usual token limit tell the
ways of asking apart. -/
namespace ChatClient.RequestForms
open Http Json Building Records ReplyHistory Sending SentRequests

/-- The kind of answer that a way of asking accepts. -/
def accepted (streams : Bool) : String :=
  if streams then "text/event-stream" else "application/json"

section Forms
variable (client : Client) (streams : Bool)

variable {client streams} {cancelled : Bool} {exchange : Exchange}

end Forms

section Bodies
variable {request : ChatRequest}

end Bodies

section Pairs
variable (client : Client) (url : Url)

end Pairs

section Routes
variable {cancelled : Bool} {exchange : Exchange}

end Routes

end ChatClient.RequestForms
