import DeepOrc.Lib.Base64
import DeepOrc.Lib.UrlEncoding

namespace DeepOrc.Agent

open Lib.UrlEncoding (Bytes utf8)

structure WireGuardKey where
  bytes : List UInt8
  size : bytes.length = 32
deriving DecidableEq

/-- The text form `generate_keypair` stores and every caller passes on. -/
def WireGuardKey.b64Encode (key : WireGuardKey) : String := String.ofList (Lib.Base64.encode key.bytes)

theorem WireGuardKey.toList_b64Encode_ne_nil (key : WireGuardKey) : key.b64Encode.toList ≠ [] := by
  intro empty
  rw [b64Encode, String.toList_ofList, Lib.Base64.encode_eq_nil] at empty
  have size := key.size
  rw [empty] at size
  cases size

/-- The arguments of `GatewayAgentClient._request`. -/
structure AgentRequest where
  method : String
  path : String
  params : List (String × String)
deriving DecidableEq

def removePeer (publicKey : String) : AgentRequest where
  method := "DELETE"
  path := "/v1/peers/" ++ publicKey
  params := []

def suspendPeer (publicKey allowedIp : String) : AgentRequest where
  method := "POST"
  path := "/v1/peers/" ++ publicKey ++ "/suspend"
  params := [("allowed_ip", allowedIp)]

def resumePeer (publicKey allowedIp : String) : AgentRequest where
  method := "POST"
  path := "/v1/peers/" ++ publicKey ++ "/resume"
  params := [("allowed_ip", allowedIp)]

/-- What `params` become on the wire. The direct transport leaves this to the HTTP library, the
Incus transport calls `urlencode`; either way a form decoder recovers the pairs. -/
structure QueryEncoder where
  encode : List (Bytes × Bytes) → Bytes
  parse_encode : ∀ params, Lib.UrlEncoding.parseQuery (encode params) = params

/-- `_request_via_incus` -/
def incusEncoder : QueryEncoder where
  encode := Lib.UrlEncoding.urlencode
  parse_encode := Lib.UrlEncoding.parseQuery_urlencode

/-- A request as it is sent: the target is the part of the URL after the authority. -/
structure WireRequest where
  method : String
  target : Bytes
  authorization : String
deriving DecidableEq

def AgentRequest.wire (encoder : QueryEncoder) (token : String) (request : AgentRequest) : WireRequest where
  method := request.method
  target :=
    utf8 request.path ++
      if request.params = [] then []
      else 63 :: encoder.encode (request.params.map fun param => (utf8 param.1, utf8 param.2))
  authorization := "Bearer " ++ token

end DeepOrc.Agent
