import Provisioning.Storage.FileSystem
import Provisioning.Tls.Identity
import Provisioning.Url.Basic
import Provisioning.Es2.Client
import Provisioning.Es2.Config
/-!
# Calls over HTTPS

* `HttpRequest`, `HttpResponse` : what goes over a connection;
* `Endpoint σ` : servers in a state of type `σ`; `Endpoint.closed` accepts no connection;
* `Transport.https` : posts requests to an endpoint;
* `identity` : reads the files with the client's certificate and key;
* `Client.connect` : a client for a connection, or why it cannot be used.
-/

namespace Provisioning.Es2

structure HttpRequest where
  url : Url
  headers : List (String × String)
  body : String
  deriving DecidableEq, Repr

structure HttpResponse where
  status : Nat
  /-- Names in lower case, and values. -/
  headers : List (String × List UInt8)
  /-- `none` if less came than was announced. -/
  body : Option (List UInt8)
  deriving DecidableEq, Repr

structure Endpoint (σ : Type) where
  /-- The response to a request, if there is one. -/
  exchange : Config → HttpRequest → StateM σ (Option HttpResponse)

def Endpoint.closed {σ : Type} : Endpoint σ := ⟨fun _ _ => pure none⟩

/-! ## Headers -/

def protocolHeader : String := "x-admin-protocol"

def requestHeaders : List (String × String) :=
  [(protocolHeader, adminProtocol), ("content-type", "application/json")]

/-- The value of a header, if it is in ASCII and holds no control but the tab. -/
def headerText? (value : List UInt8) : Option String :=
  if value.all fun b => b == 0x09 || (0x20 ≤ b && b < 0x7F) then
    some (String.ofList (value.map fun b => Char.ofNat b.toNat))
  else none

def headerLines (headers : List (String × String)) : String :=
  "\n".intercalate (headers.map fun (name, value) => name ++ ": " ++ value)

namespace HttpRequest

/-- A post to an address; who asks is no part of the address. -/
def post? (address body : String) : Option HttpRequest :=
  match Url.parse address with
  | .error _ => none
  | .ok url => some ⟨{ url with username := [], password := [] }, requestHeaders, body⟩

def event (command : Command) (r : HttpRequest) : Event :=
  { level := .debug, message := "ES2+ request headers",
    fields := [("command", command.name), ("method", "POST"), ("url", r.url.render),
      ("headers", headerLines r.headers)] }

end HttpRequest

namespace HttpResponse

def adminProtocol? (r : HttpResponse) : Option String :=
  (r.headers.lookup protocolHeader).bind headerText?

def event (command : Command) (r : HttpResponse) : Event :=
  { level := .debug, message := "ES2+ response headers",
    fields := [("command", command.name), ("http_status", r.status.repr),
      ("headers", headerLines (r.headers.map fun (name, value) =>
        (name, (headerText? value).getD "<non-ascii>")))] }

end HttpResponse

/-! ## Transport -/

variable {σ : Type}

def Transport.https (endpoint : Endpoint σ) (config : Config) : Transport σ where
  post command body := fun remote =>
    let address := config.endpointUrl command.name
    let failure (why : String) : Except Error Reply := .error (.transport command address why)
    let logged (es : List Event) : List Event := if config.logPayloads then es else []
    match HttpRequest.post? address body with
    | none => ((failure "builder error", []), remote)
    | some request =>
      match (endpoint.exchange config request).run remote with
      | (none, remote) =>
        ((failure ("error sending request for url (" ++ request.url.render ++ ")"),
          logged [request.event command]), remote)
      | (some response, remote) =>
        let events := logged [request.event command, response.event command]
        match response.body with
        | none => ((failure "error decoding response body", events), remote)
        | some body => ((.ok ⟨response.status, response.adminProtocol?, body⟩, events), remote)

/-! ## Connecting -/

def endLine (bytes : List UInt8) : List UInt8 :=
  if bytes.getLast? = some 0x0A then bytes else bytes ++ [0x0A]

/-- Reads certificate and key. The certificate is read first, and gets a line end if it has none. -/
def identity {m : Type → Type} [Monad m] (fs : FileSystem m) (config : Config) :
    m (Except Error Tls.Identity) := do
  match ← fs.read config.cert with
  | none => return .error (.credentialRead config.cert)
  | some cert =>
    match ← fs.read config.key with
    | none => return .error (.credentialRead config.key)
    | some key =>
      match Tls.Identity.ofPem? (endLine cert ++ key) with
      | none =>
        return .error (.credentials (config.cert ++ " / " ++ config.key ++ ": builder error"))
      | some i => return .ok i

def unverifiedEvent (config : Config) : Event :=
  { level := .warn, message := "server certificate verification is disabled for ES2+ endpoint",
    fields := [("host", config.host)] }

/-- A client for a connection, and what connecting reports. -/
def Client.connect {m : Type → Type} [Monad m] (fs : FileSystem m) (endpoint : Endpoint σ)
    (callIds : CallIds) (config : Config) : m (Except Error (Client σ) × List Event) := do
  match ← identity fs config with
  | .error e => return (.error e, [])
  | .ok i =>
    let events := if config.acceptInvalidServerCerts then [unverifiedEvent config] else []
    if i.isUsable then
      return (.ok {
        transport := .https endpoint config
        callIds
        requesterId := config.requesterId
        logPayloads := config.logPayloads }, events)
    else
      return (.error (.credentials "failed to create HTTP client: builder error"), events)

end Provisioning.Es2
