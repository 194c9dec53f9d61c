import BifrostCore.Interceptor.Tunnel

/-!
# The HTTPS interceptor

`https_interceptor.rs`: the certificate cache, and the handler of CONNECT requests, which either
terminates TLS under a certificate of its own or opens a tunnel.

The requests that arrive inside a terminated TLS connection are handled by `handle_http` and are
tasks of their own; the connection itself touches nothing the tasks share.
-/

namespace Bifrost

open Concurrency

namespace HttpsInterceptor

open TunnelInterceptor (Spawned)

variable {π : Sig} (X : Externals)

/-- `cache_duration`: one hour. -/
def cacheDuration : SystemTime := 3600 * 1000000000

/-- The common name of a certificate: at most the first 64 bytes of the domain. -/
def commonName (domain : Str) : Option Str :=
  if 64 < Text.len domain then Text.takeBytes 64 domain else some domain

/-- `generate_cert`. The steps that call `openssl` are one operation; cutting the domain inside a
character panics. -/
def generateCert (domain : Str) : Prog (TaskSig π) (Result CachedCert) := do
  let config ← Task.getConfig
  match ← Task.readFile config.certPath with
  | .error e => return .error e
  | .ok rootCertData => do
    match ← Task.readFile config.keyPath with
    | .error e => return .error e
    | .ok rootKeyData => do
      let cnValue ← Task.unwrap (commonName domain)
      match ← Task.issueCertificate rootCertData rootKeyData cnValue domain 365 with
      | .error e => return .error e
      | .ok cert => do
        let time ← Task.now
        return .ok { cert, expiry := time + cacheDuration }

/-- `get_or_generate_cert` after a cache miss. -/
def generateAndInsert (domain : Str) : Prog (TaskSig π) (Result CachedCert) := do
  match ← generateCert domain with
  | .error e => return .error e
  | .ok cert => do
    Task.certCacheInsert domain cert
    return .ok cert

/-- `get_or_generate_cert`. -/
def getOrGenerateCert (domain : Str) : Prog (TaskSig π) (Result CachedCert) := do
  match ← Task.certCacheGet domain with
  | some cached => do
    let time ← Task.now
    if time < cached.expiry then return .ok cached else generateAndInsert domain
  | none => generateAndInsert domain

/-- The answer to a CONNECT request whose TLS connection is terminated here. -/
def interceptedResponse : Response :=
  .build 200
    [(.connection, HeaderValue.ofStr "keep-alive"),
      (.proxyConnection, HeaderValue.ofStr "keep-alive")] .empty

/-- The address a CONNECT request connects to: port 443 where none is given. -/
def targetAddr (authStr : Str) : Str :=
  if authStr.contains ':' then authStr else authStr ++ ":443".toList

/-- The host of a CONNECT request. -/
def targetHost (authStr : Str) : Str := (Text.split ':' authStr).head?.getD authStr

/-- `handle_connect`: the answer, and what is left running. -/
def handleConnect (pm : PluginManager π) (fuel : ℕ) (req : Request) :
    Prog (TaskSig π) (Result (Option Response) × Spawned π) := do
  let requestId ← Task.nextRequestId
  let config ← Task.getConfig
  match req.uri.authority with
  | none => return (.error "Invalid CONNECT request", return ())
  | some authStr => do
    let addr := targetAddr authStr
    let host := targetHost authStr
    if config.enableHttps then
      -- The connection is served by `handle_http` from here on, request by request.
      match ← getOrGenerateCert host with
      | .error e => return (.error e, return ())
      | .ok cert => do
        match ← Task.tlsAcceptor cert with
        | .error e => return (.error e, return ())
        | .ok () => do
          return (.ok (some interceptedResponse), return ())
    else do
      let (response, spawned) ← TunnelInterceptor.handleTunnelProxy X pm fuel requestId addr host
      return (.ok (some response), spawned)

end HttpsInterceptor

end Bifrost
