/-
# Chat requests

Supplies the request that opens a chat stream and what becomes of its answer. A request that cannot
be written down is refused before anything is sent: its address must be one of the two web schemes,
and its key must fit into a header.
-/

import TokenRelay.Chat.Stream
import TokenRelay.Http.Headers
import TokenRelay.Query

namespace TokenRelay

/-- What a source is opened for. -/
structure InferenceRequest where
  query : String
  conversationId : String
  systemPrompt : Option String := none
  model : Option String := none
  deriving DecidableEq, Repr

namespace Chat

/-- A request to a chat server. -/
structure Request where
  url : String
  authorization : Option String
  body : Json

/-- The answer of a chat server. -/
structure Response where
  status : Nat
  chunks : List (List UInt8)
  /-- The connection breaks after the chunks. -/
  broken : Bool

/-- How to talk to a chat server. -/
structure Client where
  model : String
  baseUrl : String
  apiKey : Option String
  /-- The instruction for requests that bring none. -/
  systemPrompt : Option String
  deriving DecidableEq, Repr

namespace Client

/-- The server that is meant if no address is given. -/
def defaultUrl : String := "https://api.openai.com/v1"

/-- An address without the slashes at its end. -/
def trimSlashes (url : String) : String :=
  String.ofList ((url.toList.reverse.dropWhile (· = '/')).reverse)

/-- One message of a chat. -/
def message (role content : String) : Json :=
  .object [("content", .string content), ("role", .string role)]

/-- The body of a request. -/
def body (client : Client) (inference : InferenceRequest) : Json :=
  let instruction :=
    ((inference.systemPrompt.or client.systemPrompt).map (message "system")).toList
  .object
    [("messages", .array (instruction ++ [message "user" inference.query])),
      ("model", .string (inference.model.getD client.model)),
      ("stream", .bool true),
      ("stream_options", .object [("include_usage", .bool true)])]

/-- Whether an address names one of the two web schemes. -/
def isWebAddress (url : String) : Bool :=
  "http://".toList.isPrefixOf url.toList || "https://".toList.isPrefixOf url.toList

/-- The request that opens a chat stream, unless it cannot be written down. -/
def request? (client : Client) (inference : InferenceRequest) : Option Request :=
  let url := client.baseUrl ++ "/chat/completions"
  if isWebAddress url && (client.apiKey.getD "").toList.all Http.fitsHeader then
    some ⟨url, client.apiKey.map ("Bearer " ++ ·), client.body inference⟩
  else none

/-- How many characters of an error page are reported. -/
def reportedLength : Nat := 512

/-- What becomes of an answer: a stream if its status says success, and otherwise an error that
quotes the answer. An answer that breaks off counts as empty then. -/
def accept (response : Response) : Except StreamError Stream :=
  if 200 ≤ response.status ∧ response.status < 300 then
    .ok { chunks := response.chunks, broken := response.broken }
  else
    let page :=
      if response.broken then [] else Text.Utf8.decodeLossy response.chunks.flatten
    .error (.backend ("OpenAI returned " ++ toString response.status ++ ": " ++
      String.ofList (page.take reportedLength)))

/-- The outcome of opening a stream: the request, if one was sent, and the stream. -/
structure Opening where
  sent : Option Request
  stream : Except StreamError Stream

/-- Opens a stream. The network says what a server answers to a request, or that nobody listens at
its address. -/
def openStream (client : Client) (network : Request → Option Response)
    (inference : InferenceRequest) : Opening :=
  match client.request? inference with
  | none => ⟨none, .error (.backend "Request failed: builder error")⟩
  | some request =>
    match network request with
    | none =>
      ⟨none, .error (.backend
        ("Request failed: error sending request for url (" ++ request.url ++ ")"))⟩
    | some response => ⟨some request, accept response⟩

end Client

end Chat

end TokenRelay
