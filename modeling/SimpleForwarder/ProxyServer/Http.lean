import SimpleForwarder.ProxyServer.Connect
import SimpleForwarder.ProxyServer.Headers

/-!
Contract: the HTTP proxy handshake (`handle_http`).

Owns: the reading of the request head, the target of a `CONNECT` request and
of a regular one, the rewriting of the request line to origin form, and the
split of the stream into the head and what follows it.

A regular request is forwarded here: its rewritten line and its filtered
header block. Everything after the head is leftover.

`method.to_uppercase() == "CONNECT"` is modelled by ASCII upper-casing: no
other character has an upper case made of these letters only.

Does not own: header filtering and the connection attempt.
-/

namespace SimpleForwarder

open RustText IpText EffectProgram Program

def httpHeaderMaxLen : Nat := 16384

def httpsDefaultPort : UInt16 := 443

def httpDefaultPort : UInt16 := 80

def httpHeaderErrors : HeadErrors where
  tooLong := "HTTP headers too long".toList
  closed := "Connection closed while reading HTTP headers".toList

/-- The first byte was read by the protocol detection. -/
def readHttpHeaders (firstByte : UInt8) : Async (Bytes × Bytes) :=
  readHead .client httpHeaderMaxLen httpHeaderErrors [firstByte]

/-! ## The request line -/

structure RequestTarget where
  host : Text
  port : UInt16
  isConnect : Bool
deriving DecidableEq

def isConnectMethod (method : Text) : Bool := method.map Char.toUpper = "CONNECT".toList

/-- The target of a `CONNECT` request. -/
def connectTarget (uri : Text) : Except Text RequestTarget :=
  if uri.head? = some '[' then
    if ']' ∈ uri then
      let host := uri.tail.takeWhile (· ≠ ']')
      let afterBracket := uri.drop (host.length + 2)
      let port :=
        if (asBytes afterBracket).length > 1 ∧ afterBracket.head? = some ':' then
          (parseU16 afterBracket.tail).getD httpsDefaultPort
        else httpsDefaultPort
      .ok ⟨host, port, true⟩
    else .error ("Invalid IPv6 CONNECT URI: ".toList ++ uri)
  else
    match rsplitOnce ':' uri with
    | some (host, port) => .ok ⟨host, (parseU16 port).getD httpsDefaultPort, true⟩
    | none => .ok ⟨uri, httpsDefaultPort, true⟩

variable (crates : Crates)

/-- The target of a regular request. -/
def regularTarget (uri : Text) : Except Text RequestTarget :=
  match crates.parseUri uri with
  | none => .error ("Failed to parse URI: ".toList ++ uri)
  | some parsed =>
      match parsed.host with
      | none => .error "Missing host in HTTP URI".toList
      | some host => .ok ⟨host, parsed.portU16.getD httpDefaultPort, false⟩

/-- The parsed head of a request. -/
structure HttpRequest where
  requestLine : Bytes
  headers : Bytes
  parts : List Text
  method : Text
  uri : Text
  target : RequestTarget
deriving DecidableEq

/-- `handle_http` from the head to the target. -/
def parseHttpRequest (headerBytes : Bytes) : Except Text HttpRequest :=
  match headerBytes.findIdx? (· = lf) with
  | none => .error "Invalid HTTP request headers".toList
  | some firstNewlinePos =>
      let requestLine := headerBytes.take (firstNewlinePos + 1)
      let headers := headerBytes.drop (firstNewlinePos + 1)
      let requestLineStr := trim (fromUtf8Lossy requestLine)
      let parts := splitWhitespace requestLineStr
      match parts with
      | method :: uri :: _ =>
          (if isConnectMethod method then connectTarget uri else regularTarget crates uri).map
            fun target => ⟨requestLine, headers, parts, method, uri, target⟩
      | _ => .error ("Invalid HTTP request line: ".toList ++ requestLineStr)

/-! ## Origin form -/

/-- What follows the first `://`, or everything. -/
def afterScheme (uri : Text) : Text :=
  let rec find : Text → Option Text
    | [] => none
    | char :: rest =>
        if "://".toList.isPrefixOf (char :: rest) then some ((char :: rest).drop 3) else find rest
  (find uri).getD uri

/-- The origin form of an absolute URI. -/
def originForm (uri : Text) : Text :=
  match crates.parseUri uri with
  | some parsed =>
      let path := if parsed.path = [] then "/".toList else parsed.path
      match parsed.query with
      | some query => path ++ "?".toList ++ query
      | none => path
  | none =>
      let path := (afterScheme uri).dropWhile (· ≠ '/')
      if path = [] then "/".toList else path

def isAbsoluteForm (uri : Text) : Bool :=
  "http://".toList.isPrefixOf uri || "https://".toList.isPrefixOf uri

/-- The request line that is forwarded. -/
def rewrittenLine (request : HttpRequest) : Bytes :=
  if isAbsoluteForm request.uri then
    let version := request.parts[2]?.getD "HTTP/1.1".toList
    asBytes (request.method ++ " ".toList ++ originForm crates request.uri ++ " ".toList ++
      version ++ "\r\n".toList)
  else request.requestLine

/-! ## The handler -/

/-- The failure reply. -/
def badGateway : Bytes :=
  asBytes ("HTTP/1.1 502 Bad Gateway\r\nContent-Length: 0\r\n".toList ++
    "Connection: close\r\n\r\n".toList)

/-- The success reply to `CONNECT`. -/
def connectionEstablished : Bytes :=
  asBytes "HTTP/1.1 200 Connection Established\r\n\r\n".toList

/-- `handle_http` up to the connection attempt. -/
def readHttpRequest (firstByte : UInt8) : Async (HttpRequest × Bytes) := do
  let (headerBytes, leftover) ← readHttpHeaders firstByte
  let request ← settle (parseHttpRequest crates headerBytes)
  pure (request, leftover)

/-- The success reply, or the forwarding of a regular request. -/
def answerHttpRequest (request : HttpRequest) : Async Unit :=
  if request.target.isConnect then writeAll .client connectionEstablished
  else do
    writeAll .target (rewrittenLine crates request)
    writeAll .target (filterHopByHopHeaders request.headers)

def handleHttp (firstByte : UInt8) (rules : List (RuleMatcher × ProxyConfig)) :
    Async HandshakeResult := do
  let (request, leftover) ← readHttpRequest crates firstByte
  let connection ← orReply
    (connectToTarget request.target.host request.target.port true none false rules) badGateway
  answerHttpRequest crates request
  pure {
    host := request.target.host
    port := request.target.port
    proxyDesc := connection.proxyDesc
    isDirect := connection.isDirect
    protocol := .http
    leftover := leftover
    targetLeftover := connection.targetLeftover
  }

end SimpleForwarder
