import CodingAgent.Model.Stream
import CodingAgent.Stream.Aggregator
import CodingAgent.Stream.Completion
import CodingAgent.Conversation.Message
import CodingAgent.Text.Lines
import CodingAgent.Text.Encode
import CodingAgent.Text.Base64
import CodingAgent.Json.Bytes
import CodingAgent.Web.Url

/-!
# A model behind a chat-completions endpoint

The agent talks to an OpenAI-compatible server: it posts the conversation and the tool
definitions to the chat-completions endpoint and reads the answer, streamed as server-sent
events or whole as one JSON body.

Before a request is sent it is checked the way an HTTP client checks it, in this order:
the endpoint must parse as an address (`Web.Url.parse`; a relative one is taken from the
root); the bearer key must be ASCII, as header values are; the body must be strict JSON (no
NaN or infinity) and its text UTF-8 (no lone surrogate); a host that starts with `xn--` must
read back as an internationalized domain name (`Web.idnaDecode`), and fails with the
decoder's own error otherwise. A request that fails a check is not sent. A userinfo in the address gives basic credentials, which replace the bearer key. An
address without a host is sent, but refused once the answer is back, as the client's
cookie handling cannot take it.

The server is given as the exchanges it will have, one per request: it refuses the
connection, it fails while answering, or it answers with a status and a body (bytes), and
reading the body may break off after some bytes. The caller may also abort while the
request is in flight. The body is read as text with bad UTF-8 replaced.

The rules of reading an answer, in order:

* an answer without a success status (200 to 299) fails with its status and body, whatever
  else happens;
* a request aborted in flight fails as aborted at its first read;
* a whole answer is read as a JSON document in bytes (`readBytes`) and turned into chunks;
  bytes that do not decode fail as such;
* a streamed answer is read line by line until a line ends with `[DONE]` or the body ends;
  each line goes to a `StreamAggregator`, and the end of the body (not the sentinel) closes
  the aggregator;
* a body that breaks off fails as an interrupted stream once the reader reaches the break:
  a streamed answer first delivers every line that arrived whole.
-/

namespace CodingAgent.Model

open CodingAgent CodingAgent.Json CodingAgent.Text

/-- How to reach a model over HTTP. The values that go into the request body are kept as
they were given. -/
structure HttpSettings where
  model : Value := .str "qwen3-coder"
  baseUrl : String
  apiKey : Value := .null
  temperature : Value := .num 0.7
  maxTokens : Value := .int 4096
  /-- Whether answers are streamed: any value that counts as true. -/
  stream : Value := .bool true

/-- Why settings cannot be used. -/
inductive SettingsError where
  | emptyBaseUrl

/-- The class of a settings error. -/
def SettingsError.className : SettingsError → String
  | .emptyBaseUrl => "ConfigurationError"

/-- The text of a settings error. -/
def SettingsError.message : SettingsError → String
  | .emptyBaseUrl => "LLM base_url must not be empty"

/-- A request as it goes to the server. -/
structure HttpRequest where
  method : String
  url : String
  /-- The credentials, when a key or a userinfo gives them. -/
  authorization : Option String
  contentType : String
  body : Value
  /-- Whether the address names no host. -/
  relative : Bool := false

/-- The path of the chat-completions endpoint. -/
def chatPath : String := "/chat/completions"

mutual
/-- Whether a value holds no NaN and no infinity, as strict JSON requires. -/
def isStrict : Value → Bool
  | .num x => !x.isNaN && !x.isInf
  | .arr xs => itemsStrict xs
  | .obj ms => membersStrict ms
  | _ => true

/-- Whether every item is strict JSON. -/
def itemsStrict : List Value → Bool
  | [] => true
  | x :: rest => isStrict x && itemsStrict rest

/-- Whether every member value is strict JSON. -/
def membersStrict : List (String × Value) → Bool
  | [] => true
  | (_, v) :: rest => isStrict v && membersStrict rest
end

/-- The failure of a value that is not strict JSON. -/
def notStrictFailure : Failure :=
  .other "ValueError" "Out of range float values are not JSON compliant"

/-- The compact JSON text of a body, or the failure that stops writing it: a NaN or an
infinity, then a lone surrogate that UTF-8 cannot hold. -/
def bodyText (body : Value) : Except Failure String :=
  if !isStrict body then .error notStrictFailure
  else
    let text := body.write { itemSep := ",", keySep := ":" }
    match utf8Fault? text with
    | some message => .error (.other "UnicodeEncodeError" message)
    | none => .ok text

namespace HttpSettings

/-- The settings, if their base address is not blank. -/
def check (s : HttpSettings) : Except SettingsError HttpSettings :=
  if isBlankText s.baseUrl then .error .emptyBaseUrl else .ok s

/-- The endpoint: the base address without trailing slashes, with the chat-completions path
appended unless it already ends with it. -/
def endpoint (s : HttpSettings) : String :=
  let base := trimEndChars ['/'] s.baseUrl
  if base.endsWith chatPath then base else base ++ chatPath

/-- The request body: model, conversation, limits and the streaming flag, and the tool
definitions when there are any. -/
def body (s : HttpSettings) (messages : List Message) (tools : List ToolDefinition) : Value :=
  .obj ([("model", s.model), ("messages", .arr (messages.map (·.payload))),
    ("max_tokens", s.maxTokens), ("temperature", s.temperature), ("stream", s.stream)] ++
    if tools.isEmpty then []
    else [("tools", .arr (tools.map (·.payload))), ("tool_choice", .str "auto")])

/-- The request for a conversation, or the failure of the check that stops it. -/
def request (s : HttpSettings) (messages : List Message) (tools : List ToolDefinition) :
    Except Failure HttpRequest := do
  let url ← (Web.Url.parse s.endpoint).mapError (fun e => Failure.other e.className e.message)
  let target := url.target
  let bearer := if s.apiKey.truthy then some ("Bearer " ++ s.apiKey.display) else none
  if let some header := bearer then
    if let some message := asciiFault? header then throw (.other "UnicodeEncodeError" message)
  let body := s.body messages tools
  let _ ← bodyText body
  if target.host.startsWith "xn--" then
    let _ ← (Web.idnaDecode (codePoints target.host.toList)).mapError
      (fun e => Failure.other e.className e.message)
  let authorization := match target.credentials? with
    | some (user, password) =>
      some ("Basic " ++ base64Encode (encodeUtf8 (user ++ ":" ++ password)))
    | none => bearer
  let req : HttpRequest :=
    { method := "POST", url := target.text, authorization := authorization,
      contentType := "application/json", body := body, relative := !url.isAbsolute }
  return req

end HttpSettings

/-- An answer of the server. -/
structure HttpResponse where
  status : Int := 200
  body : List UInt8 := []
  /-- Reading the body breaks off after this many bytes, with this message. -/
  breaksAfter : Option (Nat × String) := none

/-- What the server does with one request. -/
inductive Exchange where
  /-- The connection is refused with this message. -/
  | refused (message : String)
  /-- The server fails while answering. -/
  | failing (f : Failure)
  /-- The server answers; the caller may have aborted while the request was in flight. -/
  | answered (r : HttpResponse) (abortedInFlight : Bool)

/-- The failure of a request that was aborted. -/
def abortedFailure : Failure := .cancelled "Request aborted"

/-- The failure of a body that broke off. -/
def interrupted (message : String) : Failure :=
  .connection ("LLM stream interrupted: " ++ message)

/-- The nesting room of the reading of a streamed line when a conversation is sent from an
entry point: the event loop, the task and the stream of the answer lie between. The whole
body of an answer is read one level higher, in the stream itself. -/
def providerRoom : Nat := entryRoom - 11

/-- Whether the reading of a streamed answer stops after a line: its text without surrounding
blanks ends with `[DONE]`. -/
def endsStream (line : String) : Bool :=
  doneSentinel.toList.isSuffixOf (trim line).toList

/-- The events of the lines of a streamed answer; `broken` is the message of a break after
the last of them. Lines and the end of the stream are read with `room` levels of nesting. -/
def streamEvents (room : Nat) (broken : Option String) : List String → Aggregator → IdSource →
    List Event × IdSource
  | [], agg, ids =>
    match broken with
    | some message => ([.failure (interrupted message)], ids)
    | none =>
      match agg.onEnd room .null ids with
      | .ok fed => (Event.ofChunks fed.chunks, fed.ids)
      | .error e => ([.failure (.other e.className e.message)], ids)
  | line :: rest, agg, ids =>
    match agg.feedLine room line ids with
    | .error e => ([.failure (.other e.className e.message)], ids)
    | .ok fed =>
      if endsStream line then (Event.ofChunks fed.chunks, fed.ids)
      else
        let (more, ids) := streamEvents room broken rest fed.agg fed.ids
        (Event.ofChunks fed.chunks ++ more, ids)

namespace HttpResponse

/-- Whether the status is a success. -/
def isSuccess (r : HttpResponse) : Bool :=
  200 ≤ r.status && r.status < 300

/-- The body as text, bad UTF-8 replaced. -/
def text (r : HttpResponse) : String :=
  decodeReplacing r.body

/-- The events of a whole answer; `room` is the room of the reading of a streamed line, and
the body is read one level higher. -/
def wholeEvents (room : Nat) (r : HttpResponse) : List Event :=
  match r.breaksAfter with
  | some (_, message) => [.failure (interrupted message)]
  | none =>
    match readBytes (room + 1) r.body with
    | .error (.undecodable message) => [.failure (.other "UnicodeDecodeError" message)]
    | .error (.malformed message) =>
      [.failure (.model ("LLM response decode error: " ++ message))]
    | .error (.beyondLimits e) => [.failure (.other e.className e.fault.text)]
    | .ok data =>
      match completionChunks room data with
      | .ok cs => Event.ofChunks cs
      | .error e => [.failure (.other e.className e.message)]

/-- The events of the answer to a request. -/
def events (room : Nat) (r : HttpResponse) (streaming aborted : Bool) (ids : IdSource) :
    List Event × IdSource :=
  if !r.isSuccess then
    match r.breaksAfter with
    | some (_, message) => ([.failure (interrupted message)], ids)
    | none =>
      ([.failure (.api ("LLM API returned " ++ toString r.status ++ ": " ++ r.text)
        (some r.status))], ids)
  else if aborted then ([.failure abortedFailure], ids)
  else if !streaming then (r.wholeEvents room, ids)
  else
    match r.breaksAfter with
    | some (n, message) =>
      streamEvents room (some message) (completeLines (decodeReplacing (r.body.take n))) {} ids
    | none => streamEvents room none (splitLines r.text) {} ids

end HttpResponse

/-- A model behind an endpoint: the settings, the exchanges still to come, and the requests
sent so far. -/
structure HttpModel where
  settings : HttpSettings
  exchanges : List Exchange
  requests : List HttpRequest := []
  /-- The conversations sent so far, each with the tools offered beside it. -/
  conversations : List (List Message × List ToolDefinition) := []

/-- The failure of an answer to an address without a host. -/
def relativeFailure (url : String) : Failure :=
  .other "ValueError" ("unknown url type: " ++ quoted url)

/-- Send a conversation, reading the answer with `room` levels of nesting. A request whose
caller has already cancelled is not sent, nor is one that fails its checks. -/
def HttpModel.send (m : HttpModel) (room : Nat) (messages : List Message)
    (tools : List ToolDefinition) (cancelled : Bool) (ids : IdSource) :
    List Event × HttpModel × IdSource :=
  if cancelled then ([.failure abortedFailure], m, ids)
  else
    match m.settings.request messages tools with
    | .error f => ([.failure f], m, ids)
    | .ok request =>
      let m := { m with requests := m.requests ++ [request],
                        conversations := m.conversations ++ [(messages, tools)] }
      match m.exchanges with
      | [] => ([.failure (.model "unexpected model request")], m, ids)
      | .refused message :: rest =>
        ([.failure (.connection ("Failed to connect to LLM API: " ++ message))],
          { m with exchanges := rest }, ids)
      | .failing f :: rest => ([.failure f], { m with exchanges := rest }, ids)
      | .answered r aborted :: rest =>
        if request.relative then
          ([.failure (relativeFailure request.url)], { m with exchanges := rest }, ids)
        else
          let (evs, ids) := r.events room m.settings.stream.truthy aborted ids
          (evs, { m with exchanges := rest }, ids)

end CodingAgent.Model
