import DeepOrc.Agent.IncusScript
import DeepOrc.Agent.Router
import DeepOrc.Agent.WgDump
import DeepOrc.Lib.JsonText

/-!
# The agent's server

The handlers of the static agent on whole requests: what they check, which commands they run and what they answer. A
handler reads JSON into a struct of strings; the names of its fields are matched without regard to case.
-/

namespace DeepOrc.Agent.Server

open Lib (Json)
open Lib.Fields (decimal fields trim)
open Lib.Json (Text)
open Lib.UrlEncoding (Bytes utf8)
open WgDump.Go (isSpace)

/-! ### Settings -/

structure Config where
  token : Text
  orchAllowedIp : Text
  listenHost : Text
  listenPort : Text
  wgInterface : Text
  netInterface : Text
  nftTable : Text
deriving DecidableEq

/-! ### Where the agent runs -/

/-- `run` is the agent's function of that name, with the output of a command or the text of its failure. The texts of
the JSON library's errors, `unicode.ToLower` and the text that bytes stand for are as Go has them. -/
structure Host (σ : Type) where
  run : List Bytes → σ → Except Text Text × σ
  advertiseExitNode : Text → σ → Except Text Unit × σ
  jsonError : Text → Text
  toLower : Char → Char
  decode : Bytes → Text
  decode_utf8 : ∀ text, decode (utf8 text) = text.toList

def bytes (text : Text) : Bytes := utf8 (String.ofList text)

def words (command : List String) : List Bytes := command.map utf8

/-! ### Requests and answers -/

structure Request extends HttpRequest where
  body : Text
deriving DecidableEq

structure Response where
  status : Nat
  body : Text
deriving DecidableEq

/-- `http.Error` -/
def httpError (message : Text) (status : Nat) : Response := ⟨status, message ++ ['\n']⟩

def writeJson (status : Nat) (value : Json) : Response := ⟨status, Json.write Json.compact 0 value ++ ['\n']⟩

def unauthorized : Response := httpError "unauthorized".toList 401

def methodNotAllowed : Response := httpError "method not allowed".toList 405

def notFound : Response := httpError "404 page not found".toList 404

def auth (cfg : Config) (request : HttpRequest) : Bool := request.authorization = "Bearer " ++ String.ofList cfg.token

/-! ### Reading a body -/

/-- `io.LimitReader`: what is left of a character at the limit is no character. -/
def limited : Nat → Text → Text
  | _, [] => []
  | limit, c :: rest =>
      if c.utf8Size ≤ limit then c :: limited (limit - c.utf8Size) rest else if limit = 0 then [] else ['\ufffd']

def bodyLimit : Nat := 1048576

/-- Letters that fold to one ASCII letter are one letter. -/
def foldRune (c : Char) : Char := if c = '\u017f' then 's' else if c = '\u212a' then 'k' else c.toLower

def named (field key : Text) : Bool := key.map foldRune = field.map foldRune

/-- Of several members for one field the last string counts; `null` leaves the field alone. -/
def textField (members : List (Text × Json)) (field : Text) : Text :=
  members.foldl (fun value member =>
    if named field member.1 then
      match member.2 with
      | .string text => text
      | _ => value
    else value) []

def isText : Json → Bool
  | .string _ => true
  | .null => true
  | _ => false

/-- Whether there is an error, and the fields of the struct. -/
def unmarshal (names : List Text) (text : Text) : Bool × (Text → Text) :=
  match Json.parse text with
  | none => (false, fun _ => [])
  | some (.object members) =>
      (members.all fun member => !(names.any fun field => named field member.1) || isText member.2, textField members)
  | some .null => (true, fun _ => [])
  | some _ => (false, fun _ => [])

def readJson (names : List Text) (request : Request) : Bool × (Text → Text) :=
  unmarshal names (limited bodyLimit request.body)

section Handlers

variable {σ : Type} (host : Host σ) (cfg : Config)

def runOk (command : List Bytes) (state : σ) : Except Text Unit × σ :=
  ((host.run command state).1.map fun _ => (), (host.run command state).2)

/-! ### Health -/

def succeeds (command : List Bytes) (state : σ) : Bool × σ :=
  ((runOk host command state).1.isOk, (runOk host command state).2)

def wgOnline (state : σ) : Bool × σ := succeeds host [utf8 "wg", utf8 "show", bytes cfg.wgInterface] state

def tailscaleOnline (state : σ) : Bool × σ :=
  match host.run (words ["tailscale", "status", "--json"]) state with
  | (.error _, state) => (false, state)
  | (.ok out, state) =>
      (contains out "\"BackendState\": \"Running\"".toList || contains out "\"Online\": true".toList, state)

def nftRunning (state : σ) : Bool × σ := succeeds host (words ["nft", "list", "ruleset"]) state

def offersExitNode (state : σ) : Bool × σ :=
  match host.run (words ["tailscale", "status"]) state with
  | (.error _, state) => (false, state)
  | (.ok out, state) => (contains out "offers exit node".toList, state)

def exitNodeConfigured (state : σ) : Bool × σ :=
  match host.run (words ["tailscale", "debug", "prefs"]) state with
  | (.error _, state) => offersExitNode host state
  | (.ok out, state) =>
      if contains out "\"AdvertiseExitNode\": true".toList then (true, state)
      else if contains out "\"0.0.0.0/0\"".toList && contains out "\"AdvertiseRoutes\"".toList then (true, state)
      else offersExitNode host state

/-- The values are found in the order of the source, and a map is written with its keys in order. -/
def health (state : σ) : Json × σ :=
  let (wg, state) := wgOnline host cfg state
  let (tailscale, state) := tailscaleOnline host state
  let (nft, state) := nftRunning host state
  let (exitNode, state) := exitNodeConfigured host state
  (.object
    [("exit_node_configured".toList, .bool exitNode), ("killswitch_active".toList, .bool false),
      ("nft_running".toList, .bool nft), ("tailscale_online".toList, .bool tailscale), ("wg_online".toList, .bool wg)],
    state)

/-! ### Peers -/

theorem decimal_numeric (n : Nat) : ∀ c ∈ decimal n, c.isDigit = true ∨ c ∈ ['+', '-', '.', 'e', 'E'] :=
  fun _ member => .inl (Lib.Fields.isDigit_of_mem_decimal member)

theorem sign_numeric (n : Nat) : ∀ c ∈ '-' :: decimal n, c.isDigit = true ∨ c ∈ ['+', '-', '.', 'e', 'E'] := by
  intro c member
  rcases List.mem_cons.mp member with rfl | digit
  · exact .inr (by decide)
  · exact decimal_numeric n c digit

def intLiteral : Int → Lib.NumberLiteral
  | .ofNat n => ⟨decimal n, Lib.Fields.decimal_ne_nil n, decimal_numeric n⟩
  | .negSucc n => ⟨'-' :: decimal (n + 1), List.cons_ne_nil _ _, sign_numeric (n + 1)⟩

def textOrNull : Option Text → Json
  | none => .null
  | some text => .string text

def peerJson (info : WgDump.PeerInfo Text) : Json :=
  .object
    [("public_key".toList, .string info.publicKey), ("allowed_ips".toList, .string info.allowedIps),
      ("endpoint".toList, textOrNull info.endpoint), ("last_handshake".toList, textOrNull info.lastHandshake),
      ("rx_bytes".toList, .number (intLiteral info.rxBytes)), ("tx_bytes".toList, .number (intLiteral info.txBytes))]

/-- A slice that nothing was appended to is `null`. -/
def peersJson (out : Text) (peers : List (WgDump.PeerInfo Text)) : Json :=
  if peers = [] ∧ 1 < ((trim isSpace out).splitOn '\n').length then .null else .array (peers.map peerJson)

def listPeers (state : σ) : Except Text Json × σ :=
  match host.run [utf8 "wg", utf8 "show", bytes cfg.wgInterface, utf8 "dump"] state with
  | (.error failure, state) => (.error failure, state)
  | (.ok out, state) => ((WgDump.Go.listPeers (.ok out)).map (peersJson out), state)

def addPeer (publicKey allowedIps : Text) (state : σ) : Except Text Unit × σ :=
  runOk host [utf8 "wg", utf8 "set", bytes cfg.wgInterface, utf8 "peer", bytes publicKey, utf8 "allowed-ips",
    bytes allowedIps] state

def removePeer (publicKey : Bytes) (state : σ) : Except Text Unit × σ :=
  runOk host [utf8 "wg", utf8 "set", bytes cfg.wgInterface, utf8 "peer", publicKey, utf8 "remove"] state

/-- `strings.Fields` of the table's name. -/
def tableParts : List Bytes := (fields isSpace [] cfg.nftTable).map bytes

def ensureSuspendTable (state : σ) : Except Text Unit × σ :=
  if (tableParts cfg).length ≠ 2 then (.error ("invalid nft table \"".toList ++ cfg.nftTable ++ ['"']), state)
  else
    let state := (host.run (words ["nft", "add", "table"] ++ tableParts cfg) state).2
    runOk host (words ["nft", "add", "chain"] ++ tableParts cfg ++
      words ["forward", "\x7b", "type", "filter", "hook", "forward", "priority", "filter", ";", "policy", "accept", ";",
        "\x7d"]) state

def suspendPeerIp (ip : Bytes) (state : σ) : Except Text Unit × σ :=
  match ensureSuspendTable host cfg state with
  | (.error failure, state) => (.error failure, state)
  | (.ok _, state) =>
      runOk host (words ["nft", "add", "rule"] ++ tableParts cfg ++ words ["forward", "ip", "daddr"] ++ [ip, utf8 "drop"]) state

/-- One deletion after the other; what they answer is not looked at. -/
def deleteRules (handles : List Text) (state : σ) : σ :=
  handles.foldl (fun state handle => (host.run (words ["nft", "delete", "rule"] ++ tableParts cfg ++
    words ["forward", "handle"] ++ [bytes handle]) state).2) state

def resumePeerIp (ip : Bytes) (state : σ) : Except Text Unit × σ :=
  match host.run (words ["nft", "-a", "list", "chain"] ++ tableParts cfg ++ words ["forward"]) state with
  | (.error _, state) => (.ok (), state)
  | (.ok out, state) =>
      let lines := (out.splitOn '\n').filter fun line => contains line (host.decode ip) && contains line "drop".toList
      (.ok (), deleteRules host cfg (lines.map fun line => ((fields isSpace [] line).getLast?).getD []) state)

/-! ### Handlers -/

def registerHandler (request : Request) (state : σ) : Response × σ :=
  if request.method ≠ "POST" then (methodNotAllowed, state)
  else
    let body := (readJson ["gateway_name".toList] request).2
    (writeJson 200 (.object [("gateway_name".toList, .string (body "gateway_name".toList)),
      ("status".toList, .string "registered".toList)]), state)

def healthHandler (_ : Request) (state : σ) : Response × σ :=
  let (report, state) := health host cfg state
  (writeJson 200 report, state)

/-- The answer to a command. -/
def answered (reply : Json) : Except Text Unit × σ → Response × σ
  | (.error failure, state) => (httpError failure 500, state)
  | (.ok _, state) => (writeJson 200 reply, state)

def badJson (request : Request) : Response := httpError (host.jsonError (limited bodyLimit request.body)) 400

def peersHandler (request : Request) (state : σ) : Response × σ :=
  if request.method = "GET" then
    match listPeers host cfg state with
    | (.error failure, state) => (httpError failure 500, state)
    | (.ok peers, state) => (writeJson 200 peers, state)
  else if request.method = "POST" then
    let read := readJson ["public_key".toList, "allowed_ips".toList] request
    if read.1 then
      answered (.object [("public_key".toList, .string (read.2 "public_key".toList)),
        ("status".toList, .string "created".toList)])
        (addPeer host cfg (read.2 "public_key".toList) (read.2 "allowed_ips".toList) state)
    else (badJson host request, state)
  else (methodNotAllowed, state)

def wgConfigHandler (_ : Request) (state : σ) : Response × σ :=
  match host.run [utf8 "wg", utf8 "showconf", bytes cfg.wgInterface] state with
  | (.error failure, state) => (httpError failure 500, state)
  | (.ok out, state) => (writeJson 200 (.object [("config".toList, .string out)]), state)

def advertised : Json := .object [("status".toList, .string "advertised".toList)]

def advertiseExitHandler (request : Request) (state : σ) : Response × σ :=
  if request.method ≠ "POST" then (methodNotAllowed, state)
  else answered advertised (host.advertiseExitNode cfg.netInterface state)

def setTailscaleHostname (hostname : Text) (state : σ) : Except Text Unit × σ :=
  runOk host (words ["tailscale", "set", "--hostname"] ++ [bytes (trim isSpace (hostname.map host.toLower))]) state

def hostnameHandler (request : Request) (state : σ) : Response × σ :=
  if request.method ≠ "POST" then (methodNotAllowed, state)
  else
    let read := readJson ["hostname".toList] request
    if read.1 then
      answered (.object [("hostname".toList, .string (read.2 "hostname".toList)),
        ("status".toList, .string "updated".toList)])
        (setTailscaleHostname host (read.2 "hostname".toList) state)
    else (badJson host request, state)

def exitNodeHandler (request : Request) (state : σ) : Response × σ :=
  if request.method ≠ "POST" then (methodNotAllowed, state)
  else
    let read := readJson ["exit_node_id".toList] request
    if read.1 then
      if trim isSpace (read.2 "exit_node_id".toList) ≠ [] then
        (httpError "deepOrc gateways self-advertise as exit nodes".toList 400, state)
      else answered advertised (host.advertiseExitNode cfg.netInterface state)
    else (badJson host request, state)

/-- The answer about a peer whose key stands in the path. -/
def peerReply (publicKey : Bytes) (status : Text) : Json :=
  .object [("public_key".toList, .string (host.decode publicKey)), ("status".toList, .string status)]

def peerHandler (request : Request) (state : σ) : Response × σ :=
  match Agent.peersHandler (String.ofList cfg.token) request.toHttpRequest with
  | .unauthorized => (unauthorized, state)
  | .notFound => (notFound, state)
  | .badRequest message => (httpError message.toList 400, state)
  | .remove publicKey =>
      answered (peerReply host publicKey "deleted".toList) (removePeer host cfg publicKey state)
  | .suspend publicKey ip =>
      answered (peerReply host publicKey "suspended".toList) (suspendPeerIp host cfg ip state)
  | .resume publicKey ip =>
      answered (peerReply host publicKey "resumeed".toList) (resumePeerIp host cfg ip state)

/-! ### Routes -/

def guarded (handler : Request → σ → Response × σ) (request : Request) (state : σ) : Response × σ :=
  if auth cfg request.toHttpRequest then handler request state else (unauthorized, state)

/-- The paths that are handled, each by one handler. -/
def routes : List (String × (Request → σ → Response × σ)) :=
  [("/v1/register", registerHandler), ("/v1/health", healthHandler host cfg), ("/v1/peers", peersHandler host cfg),
    ("/v1/wg/config", wgConfigHandler host cfg), ("/v1/tailscale/advertise-exit", advertiseExitHandler host cfg),
    ("/v1/tailscale/hostname", hostnameHandler host), ("/v1/tailscale/exit-node", exitNodeHandler host cfg)]

def serve (request : Request) (state : σ) : Response × σ :=
  match (routes host cfg).find? fun route => utf8 route.1 = request.path with
  | some route => guarded cfg route.2 request state
  | none =>
      if (utf8 "/v1/peers/").isPrefixOf request.path then guarded cfg (peerHandler host cfg) request state
      else (notFound, state)

end Handlers

/-! ### What is answered can be read -/

theorem skipWhole_decimal {n : Nat} (positive : 0 < n) : Json.skipWhole (decimal n) = some [] := by
  obtain ⟨c, rest, text, nonzero⟩ := Lib.Fields.decimal_head positive
  rw [text]
  refine Json.skipWhole_digits (fun d member => ?_) nonzero
  rw [← text] at member
  exact Lib.Fields.isDigit_of_mem_decimal member

theorem sound_intLiteral (value : Int) : Json.Sound (.number (intLiteral value)) := by
  cases value with
  | ofNat n =>
      rcases Nat.eq_zero_or_pos n with rfl | positive
      · exact Json.isNumber_whole (show Json.skipWhole ['0'] = some [] from rfl) (by decide)
      · apply Json.isNumber_whole (skipWhole_decimal positive)
        intro minus
        have member : '-' ∈ decimal n := List.mem_of_head? minus
        exact absurd (Lib.Fields.isDigit_of_mem_decimal member) (by decide)
  | negSucc n => exact Json.isNumber_negative (skipWhole_decimal (Nat.succ_pos n))

theorem sound_textOrNull (text : Option Text) : Json.Sound (textOrNull text) := by
  cases text with
  | none => exact trivial
  | some text => exact trivial

theorem sound_peerJson (info : WgDump.PeerInfo Text) : Json.Sound (peerJson info) :=
  ⟨trivial, trivial, sound_textOrNull _, sound_textOrNull _, sound_intLiteral _, sound_intLiteral _, trivial⟩

theorem soundItems_peers (peers : List (WgDump.PeerInfo Text)) : Json.SoundItems (peers.map peerJson) := by
  induction peers with
  | nil => exact trivial
  | cons info peers ih => exact ⟨sound_peerJson info, ih⟩

theorem sound_peersJson (out : Text) (peers : List (WgDump.PeerInfo Text)) : Json.Sound (peersJson out peers) := by
  unfold peersJson
  split_ifs
  · exact trivial
  · exact soundItems_peers peers

end DeepOrc.Agent.Server
