import SentryFlow.F5.Parse

set_option autoImplicit false

/-!
# The GCP API Gateway receiver

`Start` up to `pubsub.NewClient`, and `processMessage` from the result of `json.Unmarshal`.
`receiver.Init` starts no GCP receiver, so nothing in the source tree calls `Start`.
-/

namespace SentryFlow.Gcp

open SentryFlow.Go SentryFlow.F5

structure GcpConfig where
  projectID : List Char
  subscriptionID : List Char
  serviceAccountJSON : List Char

inductive ClientOption
  | withCredentialsJSON (json : List Char)
  | withCredentialsFile (path : List Char)
  deriving DecidableEq, Repr

/-- `Start` up to `pubsub.NewClient`: `none` when it returns early, after logging that the
configuration or one of its IDs is missing; otherwise the client options. A service-account
text that starts with `{` is the key itself, any other is the path of its file. -/
def startOptions : Option GcpConfig → Option (List ClientOption)
  | none => none
  | some g =>
    if g.projectID = [] ∨ g.subscriptionID = [] then none
    else if g.serviceAccountJSON ≠ [] then
      if g.serviceAccountJSON.length > 0 ∧ g.serviceAccountJSON.head? = some '{' then
        some [.withCredentialsJSON g.serviceAccountJSON]
      else some [.withCredentialsFile g.serviceAccountJSON]
    else some []

structure Resource where
  labels : GoMap

structure HttpRequest where
  requestMethod : List Char
  requestUrl : List Char
  status : BitVec 64
  userAgent : List Char
  remoteIp : List Char
  serverIp : List Char

structure JsonPayload where
  apiName : List Char
  location : List Char

structure LogEntry where
  resource : Resource
  httpRequest : HttpRequest
  jsonPayload : JsonPayload

def hostname (entry : LogEntry) : List Char :=
  let service := entry.resource.labels.get? "service".toList
  if service.isSome ∧ service.getD [] ≠ [] then service.getD []
  else if entry.jsonPayload.apiName ≠ [] then entry.jsonPayload.apiName
  else "gcp-api-gateway".toList

/-- `processMessage(ctx, msg, apiEvents)`: the event it sends, or `none` when `json.Unmarshal`
fails. `gcpAPIGateway` is `util.GCPAPIGateway` and `now` is `time.Now().Unix()`. -/
def processMessage (gcpAPIGateway : List Char) (decoded : Except String LogEntry)
    (now : BitVec 64) : Option APIEvent :=
  match decoded with
  | .error _ => none
  | .ok entry =>
    let apiEvent : APIEvent :=
      { metadata := ⟨0, now, [], [], gcpAPIGateway, []⟩
        request := ⟨(((GoMap.empty.set ":method".toList entry.httpRequest.requestMethod).set
            ":authority".toList (hostname entry)).set ":path".toList entry.httpRequest.requestUrl).set
            "user-agent".toList entry.httpRequest.userAgent, []⟩
        response := ⟨GoMap.empty.set ":status".toList (formatInt entry.httpRequest.status), [], 0⟩
        source := ⟨[], [], entry.httpRequest.remoteIp, 0⟩
        destination := ⟨entry.jsonPayload.apiName, [], entry.httpRequest.serverIp, 0⟩
        protocol := "HTTP".toList }
    some (if entry.jsonPayload.location ≠ [] then
      { apiEvent with destination := { apiEvent.destination with
          «namespace» := entry.jsonPayload.location } }
    else apiEvent)

end SentryFlow.Gcp
