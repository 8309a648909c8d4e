import DeepOrc.Agent.Egress
import DeepOrc.Agent.PeerRoutes
import DeepOrc.Agent.Server

/-!
# Calls to the agent through Incus

`_request_via_incus` writes a request into a shell script for `wget` inside the instance. The agent there answers the
request, and the client reads the answer back. Calling the agent so is calling its operations. Two calls do without the
agent where it gives no result, and run `tailscale` in the instance themselves.
-/

namespace DeepOrc.Agent.Remote

open Lib (Json)
open Lib.Fields (decimal trim)
open Lib.Json (Text)
open Lib.Shell (Context quote script)
open Lib.UrlEncoding (Bytes ascii utf8)
open Server

/-! ### The client -/

/-- The arguments of `GatewayAgentClient._request`. -/
structure ClientRequest extends AgentRequest where
  json : Option (List (Text × Json))

inductive Call where
  | register (gatewayName : Text)
  | health
  | listPeers
  | addPeer (publicKey allowedIps : Text)
  | advertiseExitNode
  | setTailscaleHostname (hostname : Text)
  | suspendPeer (publicKey : WireGuardKey) (allowedIp : String)
  | resumePeer (publicKey : WireGuardKey) (allowedIp : String)

def ClientRequest.get (path : String) : ClientRequest := ⟨⟨"GET", path, []⟩, none⟩

def ClientRequest.post (path : String) (json : Option (List (Text × Json))) : ClientRequest := ⟨⟨"POST", path, []⟩, json⟩

def Call.request : Call → ClientRequest
  | .register gatewayName => .post "/v1/register" (some [("gateway_name".toList, .string gatewayName)])
  | .health => .get "/v1/health"
  | .listPeers => .get "/v1/peers"
  | .addPeer publicKey allowedIps =>
      .post "/v1/peers" (some [("public_key".toList, .string publicKey), ("allowed_ips".toList, .string allowedIps)])
  | .advertiseExitNode => .post "/v1/tailscale/advertise-exit" none
  | .setTailscaleHostname hostname => .post "/v1/tailscale/hostname" (some [("hostname".toList, .string hostname)])
  | .suspendPeer publicKey allowedIp => ⟨Agent.suspendPeer publicKey.b64Encode allowedIp, none⟩
  | .resumePeer publicKey allowedIp => ⟨Agent.resumePeer publicKey.b64Encode allowedIp, none⟩

def base (port : Nat) : Text := "http://127.0.0.1:".toList ++ decimal port

/-- The path with its query. -/
def target (request : AgentRequest) : Text :=
  request.path.toList ++
    if request.params = [] then []
    else '?' :: ascii (Lib.UrlEncoding.urlencode (request.params.map fun param => (utf8 param.1, utf8 param.2)))

def ClientRequest.script (request : ClientRequest) (port : Nat) (token : Text) : Text :=
  incusHttpScript token request.method.toList (base port ++ target request.toAgentRequest) request.json

/-- Why a call has no result: the text of a `RuntimeError`, or an answer that is no JSON. -/
inductive Failure where
  | runtime (detail : Text)
  | decode
deriving DecidableEq

/-- What `_request_via_incus` makes of the finished command. -/
def result (finished : Lookup) : Except Failure Json :=
  if finished.returncode ≠ 0 then
    let detail :=
      if finished.stderr ≠ [] then finished.stderr
      else if finished.stdout ≠ [] then finished.stdout
      else "incus agent request failed".toList
    .error (.runtime (Naming.strip detail))
  else if Naming.strip finished.stdout ≠ [] then
    match Json.parse finished.stdout with
    | none => .error .decode
    | some value => .ok value
  else .ok (.object [])

/-- The script of a call that is run in the instance where the agent gives no result, the detail of a failure that prints
nothing, and what is returned otherwise. -/
def Call.fallback : Call → Option (Text × Text × Json)
  | .advertiseExitNode =>
      some ("/usr/sbin/tailscale set --advertise-exit-node --accept-dns --netfilter-mode=off".toList,
        "advertise-exit failed".toList, .object [("status".toList, .string "advertised".toList)])
  | .setTailscaleHostname hostname =>
      some ("/usr/sbin/tailscale set --hostname='".toList ++ (quote hostname ++ ['\'']), "set hostname failed".toList,
        .object [("status".toList, .string "updated".toList), ("hostname".toList, .string hostname)])
  | _ => none

/-- What the two methods make of that script. -/
def fallbackResult (otherwise : Text) (reply : Json) (finished : Lookup) : Except Failure Json :=
  if finished.returncode ≠ 0 then
    .error (.runtime (orElse (Naming.strip finished.stderr) (orElse (Naming.strip finished.stdout) otherwise)))
  else .ok reply

/-! ### The instance -/

/-- A value that stands in a header as it is. -/
def HeaderValue (value : Text) : Prop :=
  (∀ c ∈ value, ' ' ≤ c ∧ c ≤ '~') ∧ value.head? ≠ some ' ' ∧ value.getLast? ≠ some ' '

def pathChar (c : Char) : Bool := c.isAlphanum || ['/', '-', '.', '_', '~', '+', '='].contains c

/-- A path that has nothing to unescape, and a query as `urlencode` writes it. -/
structure Target (text : Text) : Prop where
  absolute : text.head? = some '/'
  path : ∀ c ∈ text.takeWhile (· != '?'), pathChar c = true
  query : ∀ c ∈ (text.dropWhile (· != '?')).tail, c.toNat < 128 ∧ Lib.UrlEncoding.queryByte (UInt8.ofNat c.toNat) = true

/-- The request as the agent receives it. -/
def received (method : String) (target authorization body : Text) : Request :=
  ⟨WireRequest.receive ⟨method, bytes target, String.ofList authorization⟩, body⟩

def getArguments (authorization url : Text) : List Text :=
  ["-qO-".toList, "-T".toList, "30".toList, "--header=Authorization: ".toList ++ authorization, url]

def postArguments (authorization body url : Text) : List Text :=
  ["-qO-".toList, "-T".toList, "30".toList, "--header=Authorization: ".toList ++ authorization,
    "--header=Content-Type: application/json".toList, "--post-data=".toList ++ body, url]

/-- `wget`: the authority and the request that its arguments stand for, and how it ends where the answer is no success. -/
structure Wget where
  request : List Text → Option (Text × Request)
  failed : Response → Lookup
  request_get : ∀ {authorization authority target : Text}, HeaderValue authorization → '/' ∉ authority → Target target →
    request (getArguments authorization ("http://".toList ++ authority ++ target)) =
      some (authority, received "GET" target authorization [])
  request_post : ∀ {authorization authority target body : Text}, HeaderValue authorization → '/' ∉ authority →
    Target target → request (postArguments authorization body ("http://".toList ++ authority ++ target)) =
      some (authority, received "POST" target authorization body)
  failed_returncode : ∀ response, (failed response).returncode ≠ 0

def Wget.finish (wget : Wget) (response : Response) : Lookup :=
  if 200 ≤ response.status ∧ response.status < 300 then ⟨0, response.body, []⟩ else wget.failed response

/-! ### A `wget` -/

def after (front text : Text) : Option Text := if front.isPrefixOf text then some (text.drop front.length) else none

theorem after_append (front rest : Text) : after front (front ++ rest) = some rest := by
  unfold after
  rw [if_pos (List.isPrefixOf_iff_prefix.mpr (List.prefix_append front rest)), List.drop_left]

def sentRequest (method : String) (header url body : Text) : Option (Text × Request) :=
  (after "--header=Authorization: ".toList header).bind fun authorization =>
    (after "http://".toList url).map fun rest =>
      (rest.takeWhile (· != '/'), received method (rest.dropWhile (· != '/')) authorization body)

def wgetRequest : List Text → Option (Text × Request)
  | [quiet, limit, seconds, header, url] =>
      if [quiet, limit, seconds] = wgetOptions then sentRequest "GET" header url [] else none
  | [quiet, limit, seconds, header, kind, data, url] =>
      if [quiet, limit, seconds, kind] = wgetOptions ++ ["--header=Content-Type: application/json".toList] then
        (after "--post-data=".toList data).bind fun body => sentRequest "POST" header url body
      else none
  | _ => none

theorem sentRequest_url {method : String} {authorization authority target body : Text} (plain : '/' ∉ authority)
    (valid : Target target) :
    sentRequest method ("--header=Authorization: ".toList ++ authorization) ("http://".toList ++ authority ++ target) body =
      some (authority, received method target authorization body) := by
  have kept : ∀ c ∈ authority, (c != '/') = true := fun c member => bne_iff_ne.mpr fun slash => plain (slash ▸ member)
  obtain ⟨rest, rfl⟩ : ∃ rest, target = '/' :: rest := by
    cases target with
    | nil => cases valid.absolute
    | cons c rest => exact ⟨rest, congrArg (· :: rest) (Option.some.inj valid.absolute)⟩
  unfold sentRequest
  rw [after_append, Option.bind_some, List.append_assoc, after_append, Option.map_some, List.takeWhile_append_of_pos kept,
    List.dropWhile_append_of_pos kept, List.takeWhile_cons_of_neg (by decide), List.dropWhile_cons_of_neg (by decide),
    List.append_nil]

theorem wgetRequest_get (authorization url : Text) : wgetRequest (getArguments authorization url) =
    sentRequest "GET" ("--header=Authorization: ".toList ++ authorization) url [] := by
  unfold getArguments wgetRequest
  exact if_pos rfl

theorem wgetRequest_post (authorization body url : Text) : wgetRequest (postArguments authorization body url) =
    sentRequest "POST" ("--header=Authorization: ".toList ++ authorization) url body := by
  unfold postArguments wgetRequest
  refine (if_pos rfl).trans ?_
  rw [after_append, Option.bind_some]

def wget : Wget where
  request := wgetRequest
  failed response := ⟨8, [], "wget: server returned error: HTTP/1.1 ".toList ++ decimal response.status⟩
  request_get _ plain valid := (wgetRequest_get _ _).trans (sentRequest_url plain valid)
  request_post _ plain valid := (wgetRequest_post _ _ _).trans (sentRequest_url plain valid)
  failed_returncode _ := (by decide : (8 : Int) ≠ 0)

/-! ### Where scripts run -/

/-- Where scripts run: an agent that listens, `tailscale` by its arguments, and what every other script does. -/
structure Instance (σ : Type) where
  shell : Context
  wget : Wget
  host : Host σ
  cfg : Config
  tailscale : List Text → σ → Lookup × σ
  elsewhere : Text → σ → Lookup × σ

section Calls

variable {σ : Type} (gateway : Instance σ)

/-- `incus exec … -- sh -c …` -/
def Instance.exec (text : Text) (state : σ) : Lookup × σ :=
  match script gateway.shell text with
  | some [.simple (name :: arguments) []] =>
      if name = "wget".toList then
        match gateway.wget.request arguments with
        | some (authority, request) =>
            if authority = "127.0.0.1:".toList ++ gateway.cfg.listenPort then
              let (response, state) := serve gateway.host gateway.cfg request state
              (gateway.wget.finish response, state)
            else gateway.elsewhere text state
        | none => gateway.elsewhere text state
      else if name = "/usr/sbin/tailscale".toList then gateway.tailscale arguments state
      else gateway.elsewhere text state
  | _ => gateway.elsewhere text state

def requestViaIncus (port : Nat) (token : Text) (call : Call) (state : σ) : Except Failure Json × σ :=
  let (finished, state) := gateway.exec (call.request.script port token) state
  (result finished, state)

/-- A method of the client; `except Exception` keeps whatever the request raises. -/
def request (port : Nat) (token : Text) (call : Call) (state : σ) : Except Failure Json × σ :=
  match requestViaIncus gateway port token call state, call.fallback with
  | (.error _, state), some (text, otherwise, reply) =>
      let (finished, state) := gateway.exec text state
      (fallbackResult otherwise reply finished, state)
  | finished, _ => finished

/-! ### The operations -/

/-- A result where the command succeeds. -/
def replied (reply : Json) (ran : Except Text Unit × σ) : Option Json × σ := (ran.1.toOption.map fun _ => reply, ran.2)

/-- What a call is for: one operation of the agent, on the very values of the call. -/
def Call.perform : Call → σ → Option Json × σ
  | .register gatewayName, state =>
      (some (.object [("gateway_name".toList, .string gatewayName), ("status".toList, .string "registered".toList)]), state)
  | .health, state => (some (Server.health gateway.host gateway.cfg state).1, (Server.health gateway.host gateway.cfg state).2)
  | .listPeers, state =>
      ((Server.listPeers gateway.host gateway.cfg state).1.toOption, (Server.listPeers gateway.host gateway.cfg state).2)
  | .addPeer publicKey allowedIps, state =>
      replied (.object [("public_key".toList, .string publicKey), ("status".toList, .string "created".toList)])
        (Server.addPeer gateway.host gateway.cfg publicKey allowedIps state)
  | .advertiseExitNode, state => replied advertised (gateway.host.advertiseExitNode gateway.cfg.netInterface state)
  | .setTailscaleHostname hostname, state =>
      replied (.object [("hostname".toList, .string hostname), ("status".toList, .string "updated".toList)])
        (Server.setTailscaleHostname gateway.host hostname state)
  | .suspendPeer publicKey allowedIp, state =>
      replied (.object [("public_key".toList, .string publicKey.b64Encode.toList),
        ("status".toList, .string "suspended".toList)])
        (Server.suspendPeerIp gateway.host gateway.cfg (utf8 allowedIp) state)
  | .resumePeer publicKey allowedIp, state =>
      replied (.object [("public_key".toList, .string publicKey.b64Encode.toList),
        ("status".toList, .string "resumeed".toList)])
        (Server.resumePeerIp gateway.host gateway.cfg (utf8 allowedIp) state)

/-- What the instance itself can do for a call: a command of `tailscale` on the very values of the call. -/
def Call.direct : Call → Option (List Text × Json)
  | .advertiseExitNode =>
      some (["set".toList, "--advertise-exit-node".toList, "--accept-dns".toList, "--netfilter-mode=off".toList],
        .object [("status".toList, .string "advertised".toList)])
  | .setTailscaleHostname hostname =>
      some (["set".toList, "--hostname=".toList ++ hostname],
        .object [("status".toList, .string "updated".toList), ("hostname".toList, .string hostname)])
  | _ => none

/-- The agent for a call that carries its token, and for two calls the instance where the agent gives nothing. -/
def Call.meant (token : Text) (call : Call) (state : σ) : Option Json × σ :=
  match if token = gateway.cfg.token then call.perform gateway state else (none, state), call.direct with
  | (none, state), some (arguments, reply) =>
      let (finished, state) := gateway.tailscale arguments state
      (if finished.returncode ≠ 0 then none else some reply, state)
  | outcome, _ => outcome

/-- What fits into a request: a body within the limit, and for the calls that name a peer in the path a key text
without a slash and one address. No argument of a command has a null character. -/
def Call.Fits : Call → Prop
  | .suspendPeer publicKey allowedIp => '/' ∉ publicKey.b64Encode.toList ∧ '/' ∉ allowedIp.toList ∧ allowedIp ≠ ""
  | .resumePeer publicKey allowedIp => '/' ∉ publicKey.b64Encode.toList ∧ '/' ∉ allowedIp.toList ∧ allowedIp ≠ ""
  | .setTailscaleHostname hostname =>
      (bytes (payload (Call.setTailscaleHostname hostname).request.json)).length ≤ bodyLimit ∧ '\x00' ∉ hostname
  | call => (bytes (payload call.request.json)).length ≤ bodyLimit

/-- Calls one after the other, each with its token. -/
def requestAll (port : Nat) : List (Text × Call) → σ → List (Option Json) × σ
  | [], state => ([], state)
  | (token, call) :: calls, state =>
      let (outcome, state) := request gateway port token call state
      let (outcomes, state) := requestAll port calls state
      (outcome.toOption :: outcomes, state)

def performAll : List (Text × Call) → σ → List (Option Json) × σ
  | [], state => ([], state)
  | (token, call) :: calls, state =>
      let (outcome, state) := call.meant gateway token state
      let (outcomes, state) := performAll calls state
      (outcome :: outcomes, state)

end Calls

end DeepOrc.Agent.Remote
