import DeepOrc.Agent.Client

namespace DeepOrc.Agent

open Lib.UrlEncoding (Bytes utf8)

/-- The fields of Go's `http.Request` the handler reads. -/
structure HttpRequest where
  method : String
  path : Bytes
  rawQuery : Bytes
  authorization : String
deriving DecidableEq

/-- The URL path ends at the first `?`; no other byte of it is rewritten. -/
def WireRequest.receive (request : WireRequest) : HttpRequest where
  method := request.method
  path := (Lib.UrlEncoding.cut 63 request.target).1
  rawQuery := (Lib.UrlEncoding.cut 63 request.target).2
  authorization := request.authorization

/-- What the `/v1/peers/` handler does with a request: one of its three operations or an error reply. -/
inductive PeerDispatch where
  | unauthorized
  | notFound
  | badRequest (message : String)
  | remove (publicKey : Bytes)
  | suspend (publicKey ip : Bytes)
  | resume (publicKey ip : Bytes)
deriving DecidableEq

def trimPrefix (pre path : Bytes) : Bytes := if pre.isPrefixOf path then path.drop pre.length else path

/-- The handler past its authorization check, on the `/`-separated parts after the route. -/
def dispatchParts (method : String) (rawQuery : Bytes) : List Bytes → PeerDispatch
  | [] => .notFound
  | publicKey :: segments =>
      if publicKey = [] then .notFound
      else if segments = [] ∧ method = "DELETE" then .remove publicKey
      else
        match segments with
        | [action] =>
            let allowedIp := Lib.UrlEncoding.get (Lib.UrlEncoding.parseQuery rawQuery) (utf8 "allowed_ip")
            if allowedIp = [] then .badRequest "allowed_ip required"
            else
              let ip := ((allowedIp.splitOn 47).head?).getD []
              if action = utf8 "suspend" then .suspend publicKey ip
              else if action = utf8 "resume" then .resume publicKey ip
              else .notFound
        | _ => .notFound

def peersHandler (token : String) (request : HttpRequest) : PeerDispatch :=
  if request.authorization ≠ "Bearer " ++ token then .unauthorized
  else dispatchParts request.method request.rawQuery ((trimPrefix (utf8 "/v1/peers/") request.path).splitOn 47)

end DeepOrc.Agent
