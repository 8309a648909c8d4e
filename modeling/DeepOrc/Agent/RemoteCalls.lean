import DeepOrc.Agent.Remote

/-!
# Calls are performed

What a call sends is what the agent receives, through JSON, the quotes of the shell and the query of a URL, and its
answer is what the client reads.
-/

namespace DeepOrc.Agent.Remote

open Lib (Json)
open Lib.Fields (decimal trim)
open Lib.Json (Text)
open Lib.UrlEncoding (Bytes ascii utf8)
open Server

/-! ### Answers are read back -/

/-- What the client makes of an answer: its document where it is a success. -/
def Answers (response : Response) : Option Json → Prop
  | some value => response = writeJson 200 value ∧ Json.Sound value
  | none => ¬ (200 ≤ response.status ∧ response.status < 300)

theorem isSpace_of_starts {c : Char} (begins : Json.starts c = true) : Naming.isSpace c = false := by
  unfold Json.starts Json.isNumeric at begins
  simp only [Bool.or_eq_true, List.contains_iff_mem] at begins
  rcases begins with (digit | sign) | other
  · exact Naming.isSpace_of_isDigit digit
  · have solid : ∀ c ∈ ['+', '-', '.', 'e', 'E'], Naming.isSpace c = false := List.all_iff_forall_prop.mp (by decide)
    exact solid c sign
  · have solid : ∀ c ∈ ['n', 't', 'f', '"', '[', '{'], Naming.isSpace c = false :=
      List.all_iff_forall_prop.mp (by decide)
    exact solid c other

theorem strip_cons {c : Char} (solid : Naming.isSpace c = false) (rest : Text) : Naming.strip (c :: rest) ≠ [] := by
  intro nothing
  have unchanged : (c :: rest).dropWhile Naming.isSpace = c :: rest := List.dropWhile_cons_of_neg (by rw [solid]; decide)
  rw [Naming.strip_eq_rdropWhile, unchanged, List.rdropWhile_eq_nil_iff] at nothing
  have blank := nothing c List.mem_cons_self
  rw [solid] at blank
  cases blank

theorem blank_newline : Json.Blank ['\n'] := by
  intro c member
  rw [List.mem_singleton.mp member]
  rfl

theorem toOption_result (wget : Wget) {response : Response} {value : Option Json} (answers : Answers response value) :
    (result (wget.finish response)).toOption = value := by
  cases value with
  | none =>
      unfold Wget.finish result
      rw [if_neg answers, if_pos (wget.failed_returncode response)]
      rfl
  | some value =>
      obtain ⟨rfl, sound⟩ := answers
      have parsed : Json.parse (Json.write Json.compact 0 value ++ ['\n']) = some value :=
        Json.parse_write Json.compact_readable 0 sound (show Json.Blank [] from nofun) blank_newline
      obtain ⟨c, rest, text, begins⟩ := Json.write_head Json.compact 0 value
      have printed : Naming.strip (Json.write Json.compact 0 value ++ ['\n']) ≠ [] := by
        rw [text, List.cons_append]
        exact strip_cons (isSpace_of_starts begins) _
      have finished : wget.finish (writeJson 200 value) = ⟨0, Json.write Json.compact 0 value ++ ['\n'], []⟩ :=
        if_pos (show 200 ≤ 200 ∧ 200 < 300 by decide)
      rw [finished]
      unfold result
      rw [if_neg (not_not.mpr rfl), if_pos printed]
      simp only [parsed]
      rfl

/-! ### What Python writes -/

/-- `json.dumps` -/
def spaced : Json.Style where
  escape := escapeAscii
  first _ := []
  between _ := [' ']
  last _ := []
  colon := [' ']

theorem readChar_escapeAscii (c : Char) (rest : Text) : Json.readChar (escapeAscii c ++ rest) = some (c, rest) := by
  unfold escapeAscii
  by_cases quote : c = '"'
  · rw [if_pos quote, quote]
    rfl
  by_cases backslash : c = '\\'
  · rw [if_neg quote, if_pos backslash, backslash]
    rfl
  rw [if_neg quote, if_neg backslash]
  by_cases line : c = '\n'
  · rw [if_pos line, line]
    rfl
  by_cases carriage : c = '\r'
  · rw [if_neg line, if_pos carriage, carriage]
    rfl
  by_cases tab : c = '\t'
  · rw [if_neg line, if_neg carriage, if_pos tab, tab]
    rfl
  rw [if_neg line, if_neg carriage, if_neg tab]
  by_cases feed : c = '\x0c'
  · rw [if_pos feed, feed]
    rfl
  by_cases backspace : c = '\x08'
  · rw [if_neg feed, if_pos backspace, backspace]
    rfl
  rw [if_neg feed, if_neg backspace]
  by_cases printed : ' ' ≤ c ∧ c ≤ '~'
  · rw [if_pos printed]
    exact Json.readChar_self quote backslash printed.1 rest
  rw [if_neg printed]
  by_cases unit : c.toNat < 0x10000
  · rw [if_pos unit]
    exact Json.readChar_unit unit rest
  · rw [if_neg unit]
    exact Json.readChar_pair (Nat.le_of_not_lt unit) rest rfl rfl

theorem blank_space : Json.Blank [' '] := by
  intro c member
  rw [List.mem_singleton.mp member]
  rfl

theorem spaced_readable : spaced.Readable where
  escape := readChar_escapeAscii
  first _ := nofun
  between _ := blank_space
  last _ := nofun
  colon := blank_space

theorem spaced_string (text rest : Text) : spaced.string text rest = dumpString text ++ rest := by
  simp [Json.Style.string, dumpString, spaced]

mutual

theorem write_spaced (depth : Nat) : ∀ value : Json, Json.write spaced depth value = dumps value
  | .null => rfl
  | .bool true => rfl
  | .bool false => rfl
  | .number _ => rfl
  | .string text => by rw [Json.write, spaced_string, List.append_nil, dumps]
  | .array [] => rfl
  | .array (item :: items) => by
      rw [Json.write, write_spaced (depth + 1) item, writeItems_spaced depth items, dumps]
      rfl
  | .object [] => rfl
  | .object ((key, value) :: members) => by
      rw [Json.write, spaced_string, write_spaced (depth + 1) value, writeMembers_spaced depth members, dumps]
      simp [spaced]

theorem writeItems_spaced (depth : Nat) : ∀ items : List Json, Json.writeItems spaced depth items = dumpItems items
  | [] => rfl
  | item :: items => by
      rw [Json.writeItems, write_spaced (depth + 1) item, writeItems_spaced depth items, dumpItems]
      simp [spaced]

theorem writeMembers_spaced (depth : Nat) : ∀ members : List (Text × Json),
    Json.writeMembers spaced depth members = dumpMembers members
  | [] => rfl
  | (key, value) :: members => by
      rw [Json.writeMembers, spaced_string, write_spaced (depth + 1) value, writeMembers_spaced depth members, dumpMembers]
      simp [spaced]

end

theorem parse_dumps {value : Json} (sound : Json.Sound value) : Json.parse (dumps value) = some value := by
  have read := Json.parse_write spaced_readable 0 sound (show Json.Blank [] from nofun) (show Json.Blank [] from nofun)
  rwa [List.nil_append, List.append_nil, write_spaced] at read

/-! ### Bodies -/

theorem limited_of_length {limit : Nat} {text : Text} (short : (bytes text).length ≤ limit) : limited limit text = text := by
  induction text generalizing limit with
  | nil => rfl
  | cons c text ih =>
      have size : (bytes (c :: text)).length = c.utf8Size + (bytes text).length := by
        simp [bytes, utf8]
      rw [size] at short
      rw [limited, if_pos (by omega), ih (by omega)]

/-! ### Requests arrive -/

/-- A text of visible characters. -/
def IsToken (token : Text) : Prop := token ≠ [] ∧ ∀ c ∈ token, '!' ≤ c ∧ c ≤ '~'

theorem headerValue_bearer {token : Text} (visible : IsToken token) : HeaderValue ("Bearer ".toList ++ token) := by
  obtain ⟨filled, visible⟩ := visible
  have front : ∀ c ∈ "Bearer ".toList, ' ' ≤ c ∧ c ≤ '~' := by simp
  refine ⟨fun c member => ?_, ?_, ?_⟩
  · rcases List.mem_append.mp member with fixed | inside
    · exact front c fixed
    · exact ⟨Nat.le_trans (by decide) (visible c inside).1, (visible c inside).2⟩
  · rw [List.head?_append]
    exact (by decide : (some 'B' : Option Char) ≠ some ' ')
  · rw [List.getLast?_append_of_ne_nil _ filled]
    intro blank
    exact absurd (visible ' ' (List.mem_of_getLast? blank)).1 (by decide)

theorem authority_plain (port : Nat) : '/' ∉ "127.0.0.1:".toList ++ decimal port := by
  intro member
  rcases List.mem_append.mp member with fixed | digit
  · exact absurd fixed (by decide)
  · exact absurd (Lib.Fields.isDigit_of_mem_decimal digit) (by decide)

theorem pathChar_ne {c : Char} (plain : pathChar c = true) : c ≠ '?' := by
  rintro rfl
  revert plain
  decide

theorem target_valid {request : AgentRequest} (absolute : request.path.toList.head? = some '/')
    (plain : ∀ c ∈ request.path.toList, pathChar c = true) : Target (target request) := by
  have kept : ∀ c ∈ request.path.toList, (c != '?') = true := fun c member => bne_iff_ne.mpr (pathChar_ne (plain c member))
  unfold target
  split_ifs with unasked
  · rw [List.append_nil]
    have whole : request.path.toList.takeWhile (· != '?') = request.path.toList := List.takeWhile_eq_self_iff.mpr kept
    have rest : request.path.toList.dropWhile (· != '?') = [] := List.dropWhile_eq_nil_iff.mpr kept
    exact ⟨absolute, by rw [whole]; exact plain, by rw [rest]; exact nofun⟩
  · refine ⟨?_, ?_, ?_⟩
    · rw [List.head?_append, absolute]
      rfl
    · rw [List.takeWhile_append_of_pos kept, List.takeWhile_cons_of_neg (by decide), List.append_nil]
      exact plain
    · rw [List.dropWhile_append_of_pos kept, List.dropWhile_cons_of_neg (by decide), List.tail_cons]
      intro c member
      obtain ⟨b, listed, rfl⟩ := List.mem_map.mp member
      have inside := Lib.UrlEncoding.queryByte_of_mem_urlencode listed
      have small := Lib.UrlEncoding.queryByte_lt inside
      rw [Lib.UrlEncoding.toNat_ofNat_ascii _ small]
      exact ⟨small, by rw [UInt8.ofNat_toNat]; exact inside⟩

theorem header_text (token : Text) : "--header=".toList ++ authorization token =
    "--header=Authorization: ".toList ++ ("Bearer ".toList ++ token) := by
  have fixed : "--header=".toList ++ "Authorization: Bearer ".toList = "--header=Authorization: ".toList ++ "Bearer ".toList := by
    decide
  unfold authorization
  rw [← List.append_assoc, fixed]
  exact List.append_assoc "--header=Authorization: ".toList "Bearer ".toList token

theorem url_text (port : Nat) (text : Text) :
    base port ++ text = "http://".toList ++ ("127.0.0.1:".toList ++ decimal port) ++ text := by
  have fixed : "http://127.0.0.1:".toList = "http://".toList ++ "127.0.0.1:".toList := by decide
  unfold base
  rw [fixed]
  exact congrArg (· ++ text) (List.append_assoc "http://".toList "127.0.0.1:".toList (decimal port))

section Arrival

variable {σ : Type} {gateway : Instance σ} {port : Nat} (listens : gateway.cfg.listenPort = decimal port)
  {token : Text} (visible : IsToken token)

include listens visible

theorem exec_get {text : Text} (valid : Target text) (state : σ) :
    gateway.exec (incusHttpScript token "GET".toList (base port ++ text) none) state =
      let response := serve gateway.host gateway.cfg (received "GET" text ("Bearer ".toList ++ token) []) state
      (gateway.wget.finish response.1, response.2) := by
  have meant : intended token "GET".toList (base port ++ text) none =
      .simple ("wget".toList :: getArguments ("Bearer ".toList ++ token)
        ("http://".toList ++ ("127.0.0.1:".toList ++ decimal port) ++ text)) [] := by
    rw [intended, if_pos rfl, header_text, url_text]
    rfl
  have sent := gateway.wget.request_get (headerValue_bearer visible) (authority_plain port) valid
  unfold Instance.exec
  rw [script_get, meant]
  simp only [sent, listens, if_true]

theorem exec_post {text : Text} (valid : Target text) (body : Option (List (Text × Json))) (state : σ) :
    gateway.exec (incusHttpScript token "POST".toList (base port ++ text) body) state =
      let response := serve gateway.host gateway.cfg (received "POST" text ("Bearer ".toList ++ token) (payload body)) state
      (gateway.wget.finish response.1, response.2) := by
  have meant : intended token "POST".toList (base port ++ text) body =
      .simple ("wget".toList :: postArguments ("Bearer ".toList ++ token) (payload body)
        ("http://".toList ++ ("127.0.0.1:".toList ++ decimal port) ++ text)) [] := by
    rw [intended, if_neg (by decide), if_pos rfl, header_text, url_text]
    rfl
  have sent := @Wget.request_post gateway.wget _ _ _ (payload body) (headerValue_bearer visible) (authority_plain port) valid
  unfold Instance.exec
  rw [script_post, meant]
  simp only [sent, listens, if_true]

end Arrival

/-! ### The agent's answer -/

theorem received_wire (request : AgentRequest) (token body : Text) :
    received request.method (target request) ("Bearer ".toList ++ token) body =
      ⟨(request.wire incusEncoder (String.ofList token)).receive, body⟩ := by
  have value : String.ofList ("Bearer ".toList ++ token) = "Bearer " ++ String.ofList token := by
    rw [String.ofList_append, String.ofList_toList]
  have sent : bytes (target request) = (request.wire incusEncoder (String.ofList token)).target := by
    unfold bytes target AgentRequest.wire
    split_ifs with unasked
    · rw [List.append_nil, String.ofList_toList, List.append_nil]
    · have small : ∀ b ∈ Lib.UrlEncoding.urlencode (request.params.map fun param => (utf8 param.1, utf8 param.2)),
          b.toNat < 128 :=
        fun _ member => Lib.UrlEncoding.queryByte_lt (Lib.UrlEncoding.queryByte_of_mem_urlencode member)
      have mark (text : Text) : utf8 (String.ofList ('?' :: text)) = 63 :: utf8 (String.ofList text) := by
        unfold utf8
        rw [String.toList_ofList, String.toList_ofList]
        rfl
      rw [String.ofList_append, String.ofList_toList, Lib.UrlEncoding.utf8_append, mark, Lib.UrlEncoding.utf8_ascii small]
      rfl
  unfold received
  rw [sent, value]
  rfl

theorem auth_iff (cfg : Config) (request : AgentRequest) (token : Text) :
    auth cfg (request.wire incusEncoder (String.ofList token)).receive = true ↔ token = cfg.token := by
  have sent : (request.wire incusEncoder (String.ofList token)).receive.authorization = "Bearer " ++ String.ofList token := rfl
  unfold auth
  rw [decide_eq_true_iff, sent, ← String.toList_inj, String.toList_append, String.toList_append, String.toList_ofList,
    List.append_cancel_left_eq, String.toList_ofList, String.toList_ofList]

section Serving

variable {σ : Type} (host : Host σ) (cfg : Config)

/-- The handler of a path is asked where the token is right. -/
theorem serve_route {request : AgentRequest} {route : String × (Request → σ → Response × σ)} {token : Text}
    (plain : 63 ∉ utf8 request.path) (found : (routes host cfg).find? (fun other => utf8 other.1 = utf8 request.path) = some route)
    (body : Text) (state : σ) :
    serve host cfg ⟨(request.wire incusEncoder (String.ofList token)).receive, body⟩ state =
      if token = cfg.token then route.2 ⟨(request.wire incusEncoder (String.ofList token)).receive, body⟩ state
      else (unauthorized, state) := by
  have path := receive_path plain incusEncoder (String.ofList token)
  have allowed := auth_iff cfg request token
  unfold serve
  simp only [path, found]
  unfold guarded
  by_cases right : token = cfg.token
  · rw [if_pos right, if_pos (allowed.mpr right)]
  · rw [if_neg right, if_neg (allowed.not.mpr right)]

variable {host cfg}

theorem readJson_string {field text : Text} {request : Request}
    (body : request.body = payload (some [(field, .string text)])) (short : (bytes request.body).length ≤ bodyLimit) :
    (readJson [field] request).1 = true ∧ (readJson [field] request).2 field = text := by
  have parsed : Json.parse request.body = some (.object [(field, .string text)]) := by
    rw [body]
    exact parse_dumps ⟨trivial, trivial⟩
  unfold readJson unmarshal
  rw [limited_of_length short]
  simp only [parsed]
  simp [textField, named, isText]

theorem readJson_peer {publicKey allowedIps : Text} {request : Request}
    (body : request.body = payload (some [("public_key".toList, .string publicKey), ("allowed_ips".toList, .string allowedIps)]))
    (short : (bytes request.body).length ≤ bodyLimit) :
    (readJson ["public_key".toList, "allowed_ips".toList] request).1 = true ∧
      (readJson ["public_key".toList, "allowed_ips".toList] request).2 "public_key".toList = publicKey ∧
        (readJson ["public_key".toList, "allowed_ips".toList] request).2 "allowed_ips".toList = allowedIps := by
  have parsed : Json.parse request.body =
      some (.object [("public_key".toList, .string publicKey), ("allowed_ips".toList, .string allowedIps)]) := by
    rw [body]
    exact parse_dumps ⟨trivial, trivial, trivial⟩
  have key : named "public_key".toList "public_key".toList = true ∧ named "public_key".toList "allowed_ips".toList = false ∧
      named "allowed_ips".toList "public_key".toList = false ∧ named "allowed_ips".toList "allowed_ips".toList = true := by
    decide
  unfold readJson unmarshal
  rw [limited_of_length short]
  simp only [parsed, textField, List.foldl_cons, List.foldl_nil, key, if_true, Bool.false_eq_true, if_false, List.all_cons,
    List.all_nil, isText, Bool.or_true, Bool.and_self, and_self]

theorem not_answers_unauthorized : Answers unauthorized none :=
  (show ¬ (200 ≤ 401 ∧ 401 < 300) by decide)

theorem not_answers_notFound : Answers notFound none :=
  (show ¬ (200 ≤ 404 ∧ 404 < 300) by decide)

/-- Without the token no request of any kind is answered or changes anything. -/
theorem serve_refused {request : Request} (refused : auth cfg request.toHttpRequest = false) (state : σ) :
    Answers (serve host cfg request state).1 none ∧ (serve host cfg request state).2 = state := by
  have closed (handler : Request → σ → Response × σ) : guarded cfg handler request state = (unauthorized, state) := by
    unfold guarded
    rw [refused]
    rfl
  unfold serve
  split
  · rw [closed]
    exact ⟨not_answers_unauthorized, rfl⟩
  · split_ifs
    · rw [closed]
      exact ⟨not_answers_unauthorized, rfl⟩
    · exact ⟨not_answers_notFound, rfl⟩

theorem answers_answered {reply : Json} (sound : Json.Sound reply) (ran : Except Text Unit × σ) :
    Answers (answered reply ran).1 (replied reply ran).1 ∧ (answered reply ran).2 = (replied reply ran).2 := by
  obtain ⟨outcome, state⟩ := ran
  cases outcome with
  | error failure => exact ⟨(show ¬ (200 ≤ 500 ∧ 500 < 300) by decide), rfl⟩
  | ok done => exact ⟨⟨rfl, sound⟩, rfl⟩

end Serving

/-! ### Calls -/

/-- The request of a call as the agent receives it. -/
def Call.arrived (token : Text) (call : Call) : Request :=
  ⟨(call.request.toAgentRequest.wire incusEncoder (String.ofList token)).receive, payload call.request.json⟩

theorem target_fixed {method path : String} (absolute : path.toList.head? = some '/')
    (plain : ∀ c ∈ path.toList, pathChar c = true) : Target (target ⟨method, path, []⟩) :=
  target_valid absolute plain

theorem pathChar_b64Encode (key : WireGuardKey) : ∀ c ∈ key.b64Encode.toList, pathChar c = true := by
  intro c member
  rw [WireGuardKey.b64Encode, String.toList_ofList] at member
  have letters : ∀ c ∈ Lib.Base64.alphabet, pathChar c = true := List.all_iff_forall_prop.mp (by decide)
  rcases Lib.Base64.mem_encode key.bytes c member with rfl | letter
  · decide
  · exact letters c letter

theorem target_action (key : WireGuardKey) (action : String) (plain : ∀ c ∈ ("/" ++ action).toList, pathChar c = true)
    {method : String} {params : List (String × String)} :
    Target (target ⟨method, "/v1/peers/" ++ key.b64Encode ++ ("/" ++ action), params⟩) := by
  apply target_valid
  · rw [String.toList_append, String.toList_append, List.head?_append, List.head?_append]
    rfl
  · intro c member
    rw [String.toList_append, String.toList_append, List.mem_append, List.mem_append] at member
    rcases member with (route | inside) | ending
    · have fixed : ∀ c ∈ "/v1/peers/".toList, pathChar c = true := List.all_iff_forall_prop.mp (by decide)
      exact fixed c route
    · exact pathChar_b64Encode key c inside
    · exact plain c ending

section Performance

variable {σ : Type} {gateway : Instance σ}

theorem requestViaIncus_eq {port : Nat} (listens : gateway.cfg.listenPort = decimal port) {token : Text}
    (visible : IsToken token) (call : Call) (state : σ) :
    requestViaIncus gateway port token call state =
      let response := serve gateway.host gateway.cfg (call.arrived token) state
      (result (gateway.wget.finish response.1), response.2) := by
  have posted {request : ClientRequest} (method : request.method = "POST") (valid : Target (target request.toAgentRequest)) :
      gateway.exec (request.script port token) state =
        let response := serve gateway.host gateway.cfg
          ⟨(request.toAgentRequest.wire incusEncoder (String.ofList token)).receive, payload request.json⟩ state
        (gateway.wget.finish response.1, response.2) := by
    have same := received_wire request.toAgentRequest token (payload request.json)
    rw [method] at same
    rw [ClientRequest.script, method, exec_post listens visible valid, same]
  have got {request : ClientRequest} (method : request.method = "GET") (bodiless : request.json = none)
      (valid : Target (target request.toAgentRequest)) :
      gateway.exec (request.script port token) state =
        let response := serve gateway.host gateway.cfg
          ⟨(request.toAgentRequest.wire incusEncoder (String.ofList token)).receive, payload request.json⟩ state
        (gateway.wget.finish response.1, response.2) := by
    have same := received_wire request.toAgentRequest token (payload request.json)
    rw [method, bodiless] at same
    rw [ClientRequest.script, method, bodiless, exec_get listens visible valid]
    exact congrArg (fun request => (gateway.wget.finish (serve gateway.host gateway.cfg request state).1,
      (serve gateway.host gateway.cfg request state).2)) same
  have sent : gateway.exec (call.request.script port token) state =
      let response := serve gateway.host gateway.cfg (call.arrived token) state
      (gateway.wget.finish response.1, response.2) := by
    cases call with
    | register gatewayName => exact posted rfl (target_fixed (by decide) (List.all_iff_forall_prop.mp (by decide)))
    | health => exact got rfl rfl (target_fixed (by decide) (List.all_iff_forall_prop.mp (by decide)))
    | listPeers => exact got rfl rfl (target_fixed (by decide) (List.all_iff_forall_prop.mp (by decide)))
    | addPeer publicKey allowedIps => exact posted rfl (target_fixed (by decide) (List.all_iff_forall_prop.mp (by decide)))
    | advertiseExitNode => exact posted rfl (target_fixed (by decide) (List.all_iff_forall_prop.mp (by decide)))
    | setTailscaleHostname hostname => exact posted rfl (target_fixed (by decide) (List.all_iff_forall_prop.mp (by decide)))
    | suspendPeer publicKey allowedIp => exact posted rfl (target_action publicKey "suspend" (List.all_iff_forall_prop.mp (by decide)))
    | resumePeer publicKey allowedIp => exact posted rfl (target_action publicKey "resume" (List.all_iff_forall_prop.mp (by decide)))
  unfold requestViaIncus
  rw [sent]

theorem find?_of_nodup {α β : Type} [DecidableEq β] (key : α → β) : ∀ {items : List α}, (items.map key).Nodup →
    ∀ {item : α}, item ∈ items → items.find? (fun other => key other = key item) = some item := by
  intro items distinct item member
  induction items with
  | nil => cases member
  | cons first items ih =>
      rw [List.map_cons, List.nodup_cons] at distinct
      rcases List.mem_cons.mp member with rfl | later
      · exact List.find?_cons_of_pos (decide_eq_true rfl)
      · have other : key first ≠ key item := fun same => distinct.1 (same ▸ List.mem_map_of_mem later)
        rw [List.find?_cons_of_neg (by simpa using other), ih distinct.2 later]

/-- No two handlers have one path. -/
theorem paths_distinct (host : Host σ) (cfg : Config) : ((routes host cfg).map fun route => utf8 route.1).Nodup := by
  have distinct : (["/v1/register", "/v1/health", "/v1/peers", "/v1/wg/config", "/v1/tailscale/advertise-exit",
      "/v1/tailscale/hostname", "/v1/tailscale/exit-node"].map utf8).Nodup := by
    decide
  exact distinct

theorem find_peers (host : Host σ) (cfg : Config) (rest : String) :
    (routes host cfg).find? (fun route => utf8 route.1 = utf8 ("/v1/peers/" ++ rest)) = none := by
  have apart : ∀ path ∈ ["/v1/register", "/v1/health", "/v1/peers", "/v1/wg/config", "/v1/tailscale/advertise-exit",
      "/v1/tailscale/hostname", "/v1/tailscale/exit-node"], (utf8 "/v1/peers/").isPrefixOf (utf8 path) = false := by
    decide
  rw [List.find?_eq_none]
  intro route member same
  have listed : route.1 ∈ (routes host cfg).map Prod.fst := List.mem_map_of_mem member
  have starts : (utf8 "/v1/peers/").isPrefixOf (utf8 route.1) = true := by
    rw [of_decide_eq_true same, Lib.UrlEncoding.utf8_append]
    exact List.isPrefixOf_iff_prefix.mpr (List.prefix_append _ _)
  rw [apart route.1 listed] at starts
  cases starts

theorem serve_call {call : Call} {path : String} {handler : Request → σ → Response × σ}
    (named : call.request.path = path) (plain : 63 ∉ utf8 path)
    (listed : (path, handler) ∈ routes gateway.host gateway.cfg) (state : σ) :
    serve gateway.host gateway.cfg (call.arrived gateway.cfg.token) state = handler (call.arrived gateway.cfg.token) state := by
  subst named
  have distinct := paths_distinct gateway.host gateway.cfg
  have found := @find?_of_nodup _ _ _ (fun route => utf8 route.1) _ distinct _ listed
  exact (serve_route gateway.host gateway.cfg plain found _ state).trans (if_pos rfl)

theorem serve_peer {call : Call} {key : WireGuardKey} {action : String}
    (located : call.request.path = "/v1/peers/" ++ (key.b64Encode ++ ("/" ++ action))) (unmarked : 63 ∉ utf8 action)
    (state : σ) :
    serve gateway.host gateway.cfg (call.arrived gateway.cfg.token) state =
      peerHandler gateway.host gateway.cfg (call.arrived gateway.cfg.token) state := by
  have text : utf8 (key.b64Encode ++ ("/" ++ action)) = utf8 key.b64Encode ++ 47 :: utf8 action := by
    rw [Lib.UrlEncoding.utf8_append, Lib.UrlEncoding.utf8_append "/" action]
    rfl
  have route : 63 ∉ utf8 call.request.path := by
    rw [located]
    apply unmarked_route
    rw [text, List.mem_append, List.mem_cons]
    simp [questionMark_not_mem key, unmarked]
  have path : (call.arrived gateway.cfg.token).path = utf8 ("/v1/peers/" ++ (key.b64Encode ++ ("/" ++ action))) := by
    rw [← located]
    exact receive_path route incusEncoder _
  have allowed : auth gateway.cfg (call.arrived gateway.cfg.token).toHttpRequest = true :=
    (auth_iff gateway.cfg call.request.toAgentRequest gateway.cfg.token).mpr rfl
  have behind : (utf8 "/v1/peers/").isPrefixOf (utf8 ("/v1/peers/" ++ (key.b64Encode ++ ("/" ++ action)))) = true := by
    rw [Lib.UrlEncoding.utf8_append]
    exact List.isPrefixOf_iff_prefix.mpr (List.prefix_append _ _)
  unfold serve
  rw [path, find_peers]
  simp only [behind, if_true]
  unfold guarded
  rw [if_pos allowed]

theorem slash_not_mem {text : String} (absent : '/' ∉ text.toList) : 47 ∉ utf8 text :=
  (Lib.UrlEncoding.mem_utf8_ascii (c := '/') (by decide) text).not.mpr absent

theorem answers_read {read : Except Text Json × σ} (sound : ∀ value, read.1 = .ok value → Json.Sound value) :
    Answers (match read with
      | (.error failure, state) => (httpError failure 500, state)
      | (.ok value, state) => (writeJson 200 value, state)).1 read.1.toOption ∧
      (match read with
      | (.error failure, state) => (httpError failure 500, state)
      | (.ok value, state) => (writeJson 200 value, state)).2 = read.2 := by
  obtain ⟨outcome, state⟩ := read
  cases outcome with
  | error failure => exact ⟨(show ¬ (200 ≤ 500 ∧ 500 < 300) by decide), rfl⟩
  | ok value => exact ⟨⟨rfl, sound value rfl⟩, rfl⟩

theorem sound_listPeers (host : Host σ) (cfg : Config) (state : σ) (value : Json)
    (listed : (Server.listPeers host cfg state).1 = .ok value) : Json.Sound value := by
  unfold Server.listPeers at listed
  split at listed
  · cases listed
  · rename_i out after ran
    cases found : WgDump.Go.listPeers (.ok out) with
    | error failure =>
        rw [found] at listed
        cases listed
    | ok peers =>
        rw [found] at listed
        cases listed
        exact sound_peersJson out peers

/-- What the agent does with the request of a call is what the call is for. -/
theorem serve_arrived {call : Call} (fits : call.Fits) (state : σ) :
    Answers (serve gateway.host gateway.cfg (call.arrived gateway.cfg.token) state).1 (call.perform gateway state).1 ∧
      (serve gateway.host gateway.cfg (call.arrived gateway.cfg.token) state).2 = (call.perform gateway state).2 := by
  have posted {call : Call} (method : call.request.method = "POST") :
      ¬ (call.arrived gateway.cfg.token).method ≠ "POST" := not_not.mpr method
  cases call with
  | register gatewayName =>
      have read := (@readJson_string _ _ (Call.arrived gateway.cfg.token (.register gatewayName)) rfl fits).2
      rw [@serve_call _ gateway (.register gatewayName) "/v1/register" registerHandler rfl (by decide) (by simp [routes]) state]
      unfold registerHandler
      rw [if_neg (posted rfl)]
      simp only [read]
      exact ⟨⟨rfl, trivial, trivial, trivial⟩, rfl⟩
  | health =>
      rw [@serve_call _ gateway .health "/v1/health" (healthHandler gateway.host gateway.cfg) rfl (by decide)
        (by simp [routes]) state]
      exact ⟨⟨rfl, trivial, trivial, trivial, trivial, trivial, trivial⟩, rfl⟩
  | listPeers =>
      have method : (Call.arrived gateway.cfg.token .listPeers).method = "GET" := rfl
      rw [@serve_call _ gateway .listPeers "/v1/peers" (Server.peersHandler gateway.host gateway.cfg) rfl (by decide)
        (by simp [routes]) state]
      unfold Server.peersHandler
      rw [if_pos method]
      exact answers_read (sound_listPeers gateway.host gateway.cfg state)
  | addPeer publicKey allowedIps =>
      have method : (Call.arrived gateway.cfg.token (.addPeer publicKey allowedIps)).method = "POST" := rfl
      have read := @readJson_peer _ _ (Call.arrived gateway.cfg.token (.addPeer publicKey allowedIps)) rfl fits
      rw [@serve_call _ gateway (.addPeer publicKey allowedIps) "/v1/peers" (Server.peersHandler gateway.host gateway.cfg) rfl
        (by decide) (by simp [routes]) state]
      unfold Server.peersHandler
      rw [method, if_neg (by decide), if_pos rfl]
      simp only [read, if_true]
      refine answers_answered ?_ _
      exact ⟨trivial, trivial, trivial⟩
  | advertiseExitNode =>
      rw [@serve_call _ gateway .advertiseExitNode "/v1/tailscale/advertise-exit"
        (advertiseExitHandler gateway.host gateway.cfg) rfl (by decide) (by simp [routes]) state]
      unfold advertiseExitHandler
      rw [if_neg (posted rfl)]
      refine answers_answered ?_ _
      exact ⟨trivial, trivial⟩
  | setTailscaleHostname hostname =>
      have read := @readJson_string _ _ (Call.arrived gateway.cfg.token (.setTailscaleHostname hostname)) rfl fits.1
      rw [@serve_call _ gateway (.setTailscaleHostname hostname) "/v1/tailscale/hostname" (hostnameHandler gateway.host) rfl
        (by decide) (by simp [routes]) state]
      unfold hostnameHandler
      rw [if_neg (posted rfl)]
      simp only [read, if_true]
      refine answers_answered ?_ _
      exact ⟨trivial, trivial, trivial⟩
  | suspendPeer publicKey allowedIp =>
      obtain ⟨whole, single, filled⟩ := fits
      have located := suspendPeer_path publicKey.b64Encode allowedIp
      have dispatched := peersHandler_action located rfl rfl single (by decide) (by decide) incusEncoder
        (String.ofList gateway.cfg.token)
      rw [if_neg (slash_not_mem whole), if_neg (Lib.UrlEncoding.utf8_eq_nil.not.mpr filled), if_pos rfl] at dispatched
      rw [@serve_peer _ gateway (.suspendPeer publicKey allowedIp) publicKey "suspend" located (by decide) state]
      unfold peerHandler
      rw [show Agent.peersHandler (String.ofList gateway.cfg.token)
        (Call.arrived gateway.cfg.token (.suspendPeer publicKey allowedIp)).toHttpRequest = _ from dispatched]
      simp only [peerReply, gateway.host.decode_utf8]
      refine answers_answered ?_ _
      exact ⟨trivial, trivial, trivial⟩
  | resumePeer publicKey allowedIp =>
      obtain ⟨whole, single, filled⟩ := fits
      have located := resumePeer_path publicKey.b64Encode allowedIp
      have dispatched := peersHandler_action located rfl rfl single (by decide) (by decide) incusEncoder
        (String.ofList gateway.cfg.token)
      rw [if_neg (slash_not_mem whole), if_neg (Lib.UrlEncoding.utf8_eq_nil.not.mpr filled), if_neg (by decide), if_pos rfl]
        at dispatched
      rw [@serve_peer _ gateway (.resumePeer publicKey allowedIp) publicKey "resume" located (by decide) state]
      unfold peerHandler
      rw [show Agent.peersHandler (String.ofList gateway.cfg.token)
        (Call.arrived gateway.cfg.token (.resumePeer publicKey allowedIp)).toHttpRequest = _ from dispatched]
      simp only [peerReply, gateway.host.decode_utf8]
      refine answers_answered ?_ _
      exact ⟨trivial, trivial, trivial⟩

theorem requestViaIncus_performs {port : Nat} (listens : gateway.cfg.listenPort = decimal port) {token : Text}
    (visible : IsToken token) {call : Call} (fits : call.Fits) (state : σ) :
    ((requestViaIncus gateway port token call state).1.toOption, (requestViaIncus gateway port token call state).2) =
      if token = gateway.cfg.token then call.perform gateway state else (none, state) := by
  rw [requestViaIncus_eq listens visible]
  split_ifs with right
  · subst right
    obtain ⟨answers, after⟩ := serve_arrived fits state
    rw [toOption_result gateway.wget answers, after]
  · have refused : auth gateway.cfg (call.arrived token).toHttpRequest = false :=
      Bool.eq_false_iff.mpr ((auth_iff gateway.cfg call.request.toAgentRequest token).not.mpr right)
    obtain ⟨answers, after⟩ := @serve_refused _ gateway.host _ _ refused state
    rw [toOption_result gateway.wget answers, after]

/-! ### Without the agent -/

theorem namesCommand_tailscale : Lib.Shell.NamesCommand (bare "/usr/sbin/tailscale").word := ⟨by decide, by decide⟩

/-- The one command of such a script, with the name as an argument of its own. -/
theorem exec_fallback {call : Call} {text otherwise : Text} {reply : Json}
    (fallback : call.fallback = some (text, otherwise, reply)) :
    ∃ arguments, call.direct = some (arguments, reply) ∧ ∀ state, gateway.exec text state = gateway.tailscale arguments state := by
  have runs {arguments : List Lib.Shell.Written} (valid : ∀ written ∈ bare "/usr/sbin/tailscale" :: arguments, written.Valid)
      (written : text = Lib.Shell.commandText (bare "/usr/sbin/tailscale" :: arguments)) (state : σ) :
      gateway.exec text state = gateway.tailscale (arguments.map Lib.Shell.Written.value) state := by
    unfold Instance.exec
    rw [written, Lib.Shell.script_commandText gateway.shell valid namesCommand_tailscale]
    rfl
  cases call with
  | advertiseExitNode =>
      simp only [Call.fallback, Option.some.injEq, Prod.mk.injEq] at fallback
      obtain ⟨rfl, rfl, rfl⟩ := fallback
      refine ⟨_, rfl, @runs [bare "set", bare "--advertise-exit-node", bare "--accept-dns", bare "--netfilter-mode=off"] ?_ (by decide)⟩
      simp only [List.mem_cons, List.not_mem_nil, or_false]
      rintro written (rfl | rfl | rfl | rfl | rfl)
      · exact bare_valid (by decide)
      · exact bare_valid (by decide)
      · exact bare_valid (by decide)
      · exact bare_valid (by decide)
      · exact bare_valid (by decide)
  | setTailscaleHostname hostname =>
      simp only [Call.fallback, Option.some.injEq, Prod.mk.injEq] at fallback
      obtain ⟨rfl, rfl, rfl⟩ := fallback
      refine ⟨_, rfl, @runs [bare "set", ⟨"--hostname=".toList, some hostname⟩] ?_ ?_⟩
      · simp only [List.mem_cons, List.not_mem_nil, or_false]
        rintro written (rfl | rfl | rfl)
        · exact bare_valid (by decide)
        · exact bare_valid (by decide)
        · exact option_valid (by decide) hostname
      · have option : "/usr/sbin/tailscale set --hostname='".toList =
            (bare "/usr/sbin/tailscale").text ++ ([' '] ++ ((bare "set").text ++ ([' '] ++ ("--hostname=".toList ++ ['\''])))) := by
          decide
        rw [option]
        simp only [Lib.Shell.commandText, List.map_cons, List.map_nil, List.intercalate_cons_cons, List.intercalate_singleton,
          List.append_assoc, written_text]
  | register gatewayName => cases fallback
  | health => cases fallback
  | listPeers => cases fallback
  | addPeer publicKey allowedIps => cases fallback
  | suspendPeer publicKey allowedIp => cases fallback
  | resumePeer publicKey allowedIp => cases fallback

theorem direct_of_fallback {call : Call} (agent : call.fallback = none) : call.direct = none := by
  cases call with
  | advertiseExitNode => cases agent
  | setTailscaleHostname hostname => cases agent
  | register gatewayName => rfl
  | health => rfl
  | listPeers => rfl
  | addPeer publicKey allowedIps => rfl
  | suspendPeer publicKey allowedIp => rfl
  | resumePeer publicKey allowedIp => rfl

theorem request_means {port : Nat} (listens : gateway.cfg.listenPort = decimal port) {token : Text}
    (visible : IsToken token) {call : Call} (fits : call.Fits) (state : σ) :
    ((request gateway port token call state).1.toOption, (request gateway port token call state).2) =
      call.meant gateway token state := by
  have performs := requestViaIncus_performs listens visible fits state
  unfold request Call.meant
  rw [← performs]
  obtain ⟨outcome, after⟩ := requestViaIncus gateway port token call state
  cases found : call.fallback with
  | none =>
      rw [direct_of_fallback found]
      cases outcome with
      | error failure => rfl
      | ok value => rfl
  | some fallback =>
      obtain ⟨text, otherwise, reply⟩ := fallback
      obtain ⟨arguments, direct, runs⟩ := @exec_fallback _ gateway _ _ _ _ found
      rw [direct]
      cases outcome with
      | error failure =>
          simp only [runs, Except.toOption, fallbackResult]
          split_ifs <;> rfl
      | ok value => rfl

/-- Calling the agent through Incus, over any number of calls, is calling its operations on the values of the calls,
each once and in order, for those calls that carry its token; the others have no result and change nothing. Where the
agent gives no result, advertising the exit node and setting the hostname are one command of `tailscale` each. -/
theorem calls_performed {port : Nat} (listens : gateway.cfg.listenPort = decimal port) :
    ∀ {calls : List (Text × Call)}, (∀ made ∈ calls, IsToken made.1 ∧ made.2.Fits) → ∀ state : σ,
      requestAll gateway port calls state = performAll gateway calls state := by
  intro calls made
  induction calls with
  | nil => exact fun _ => rfl
  | cons first calls ih =>
      intro state
      obtain ⟨token, call⟩ := first
      obtain ⟨visible, fits⟩ := made (token, call) List.mem_cons_self
      have one := request_means listens visible fits state
      have later := ih fun other member => made other (List.mem_cons_of_mem _ member)
      unfold requestAll performAll
      rw [← one]
      simp only [later]

end Performance

/-! ### An agent that notes what it runs -/

/-- The text of well formed bytes. -/
def decodeUtf8 (bytes : Bytes) : Text := (bytes.toByteArray.utf8Decode?.map Array.toList).getD []

theorem decodeUtf8_utf8 (text : String) : decodeUtf8 (utf8 text) = text.toList := by
  have decoded : (utf8 text).toByteArray.utf8Decode? = some text.toList.toArray := List.utf8Decode?_utf8Encode
  rw [decodeUtf8, decoded]
  rfl

def notingHost (output : Text) : Host (List (List Bytes)) where
  run command log := (.ok output, log ++ [command])
  advertiseExitNode _ log := (.ok (), log)
  jsonError := id
  toLower := Char.toLower
  decode := decodeUtf8
  decode_utf8 := decodeUtf8_utf8

def notingInstance (output : Text) : Instance (List (List Bytes)) where
  shell := bareShell
  wget := wget
  host := notingHost output
  cfg := ⟨"right".toList, "10.10.0.1".toList, "0.0.0.0".toList, "8081".toList, "wg0".toList, "eth0".toList,
    "inet wg_suspend".toList⟩
  tailscale arguments log := (⟨0, [], []⟩, log ++ [utf8 "/usr/sbin/tailscale" :: arguments.map bytes])
  elsewhere _ log := (⟨127, [], []⟩, log)

/-- Quotes in a key and in a name, and two calls with another token. -/
def quotedCalls : List (Text × Call) :=
  [("right".toList, .addPeer "it's \"one\"".toList "10.0.0.2/32".toList), ("wrong".toList, .health),
    ("wrong".toList, .setTailscaleHostname "it's".toList)]

theorem quotedCalls_fit : ∀ made ∈ quotedCalls, IsToken made.1 ∧ made.2.Fits := by
  have right : IsToken "right".toList := ⟨by decide, List.all_iff_forall_prop.mp (by decide)⟩
  have wrong : IsToken "wrong".toList := ⟨by decide, List.all_iff_forall_prop.mp (by decide)⟩
  intro made member
  simp only [quotedCalls, List.mem_cons, List.not_mem_nil, or_false] at member
  rcases member with rfl | rfl | rfl
  · refine ⟨right, ?_⟩
    show (bytes (payload (Call.addPeer "it's \"one\"".toList "10.0.0.2/32".toList).request.json)).length ≤ bodyLimit
    decide
  · refine ⟨wrong, ?_⟩
    show (bytes (payload none)).length ≤ bodyLimit
    decide
  · refine ⟨wrong, ?_, by decide⟩
    show (bytes (payload (Call.setTailscaleHostname "it's".toList).request.json)).length ≤ bodyLimit
    decide

theorem quotedCalls_performed : (requestAll (notingInstance []) 8081 quotedCalls []).2 =
    [[utf8 "wg", utf8 "set", utf8 "wg0", utf8 "peer", utf8 "it's \"one\"", utf8 "allowed-ips", utf8 "10.0.0.2/32"],
      [utf8 "/usr/sbin/tailscale", utf8 "set", utf8 "--hostname=it's"]] := by
  have performed := calls_performed (show (notingInstance []).cfg.listenPort = decimal 8081 by decide) quotedCalls_fit []
  rw [performed]
  rfl

end DeepOrc.Agent.Remote
