import DeepOrc.Agent.Router

/-!
# Peer requests from client to router

`GatewayAgentClient` writes a key into a URL path, the agent splits that path on `/`.
-/

namespace DeepOrc.Agent

open Lib.UrlEncoding

/-- The three operations the client sends to `/v1/peers/{public_key}…`. -/
inductive PeerOperation where
  | remove
  | suspend
  | resume
deriving DecidableEq

def PeerOperation.request (operation : PeerOperation) (publicKey allowedIp : String) : AgentRequest :=
  match operation with
  | .remove => removePeer publicKey
  | .suspend => suspendPeer publicKey allowedIp
  | .resume => resumePeer publicKey allowedIp

def PeerOperation.dispatch (operation : PeerOperation) (publicKey allowedIp : String) : PeerDispatch :=
  match operation with
  | .remove => .remove (utf8 publicKey)
  | .suspend => .suspend (utf8 publicKey) (utf8 allowedIp)
  | .resume => .resume (utf8 publicKey) (utf8 allowedIp)

/-- The agent's reading of an operation sent by the client. -/
def PeerOperation.received (encoder : QueryEncoder) (token publicKey allowedIp : String)
    (operation : PeerOperation) : PeerDispatch :=
  peersHandler token ((operation.request publicKey allowedIp).wire encoder token).receive

/-! ### What arrives -/

theorem trimPrefix_append (pre rest : Bytes) : trimPrefix pre (pre ++ rest) = rest := by
  unfold trimPrefix
  rw [if_pos (List.isPrefixOf_iff_prefix.mpr (List.prefix_append pre rest)), List.drop_left]

theorem receive_path {r : AgentRequest} (unmarked : 63 ∉ utf8 r.path) (encoder : QueryEncoder)
    (token : String) : (r.wire encoder token).receive.path = utf8 r.path := by
  simp only [WireRequest.receive, AgentRequest.wire]
  split
  · rw [List.append_nil, cut_of_not_mem unmarked]
  · rw [cut_append unmarked]

theorem parseQuery_receive {r : AgentRequest} (unmarked : 63 ∉ utf8 r.path)
    (encoder : QueryEncoder) (token : String) :
    parseQuery (r.wire encoder token).receive.rawQuery =
      r.params.map fun param => (utf8 param.1, utf8 param.2) := by
  simp only [WireRequest.receive, AgentRequest.wire]
  split
  · rename_i empty
    rw [List.append_nil, cut_of_not_mem unmarked, empty]
    rfl
  · rw [cut_append unmarked, encoder.parse_encode]

/-! ### Splitting -/

/-- A key text that contains the separator falls apart into more than one part. -/
theorem splitOn_of_mem {separator : UInt8} {bytes : Bytes} (member : separator ∈ bytes) :
    ∃ first second rest, bytes.splitOn separator = first :: second :: rest := by
  obtain ⟨before, after, rfl⟩ := List.append_of_mem member
  rw [List.splitOn_append_cons_self]
  obtain ⟨first, others, left⟩ := List.exists_cons_of_ne_nil (List.splitOn_ne_nil separator before)
  obtain ⟨second, rest, right⟩ := List.exists_cons_of_ne_nil (List.splitOn_ne_nil separator after)
  rw [left, right]
  cases others with
  | nil => exact ⟨first, second, rest, rfl⟩
  | cons third others => exact ⟨first, third, others ++ second :: rest, rfl⟩

theorem dispatchParts_many (method : String) (rawQuery first second third : Bytes) (rest : List Bytes) :
    dispatchParts method rawQuery (first :: second :: third :: rest) = .notFound := by
  simp [dispatchParts]

theorem dispatchParts_remove_iff {publicKey : Bytes} (named : publicKey ≠ []) (rawQuery : Bytes) :
    dispatchParts "DELETE" rawQuery (publicKey.splitOn 47) = .remove publicKey ↔ 47 ∉ publicKey := by
  constructor
  · intro dispatched separator
    obtain ⟨first, second, rest, parts⟩ := splitOn_of_mem separator
    rw [parts] at dispatched
    cases rest with
    | cons third rest =>
        rw [dispatchParts_many] at dispatched
        cases dispatched
    | nil =>
        simp only [dispatchParts, List.cons_ne_nil, false_and, if_false] at dispatched
        split_ifs at dispatched
  · intro whole
    rw [List.splitOn_eq_singleton whole]
    simp [dispatchParts, named]

theorem dispatchParts_pair {publicKey : Bytes} (named : publicKey ≠ []) (method : String)
    (rawQuery action : Bytes) :
    dispatchParts method rawQuery [publicKey, action] =
      let allowedIp := get (parseQuery rawQuery) (utf8 "allowed_ip")
      if allowedIp = [] then .badRequest "allowed_ip required"
      else
        let ip := ((allowedIp.splitOn 47).head?).getD []
        if action = utf8 "suspend" then .suspend publicKey ip
        else if action = utf8 "resume" then .resume publicKey ip
        else .notFound := by
  simp [dispatchParts, named]

theorem dispatchParts_action {publicKey : Bytes} (named : publicKey ≠ []) (rawQuery allowedIp action : Bytes)
    (query : get (parseQuery rawQuery) (utf8 "allowed_ip") = allowedIp) (single : 47 ∉ allowedIp)
    (plain : 47 ∉ action) :
    dispatchParts "POST" rawQuery ((publicKey ++ 47 :: action).splitOn 47) =
      if 47 ∈ publicKey then .notFound
      else if allowedIp = [] then .badRequest "allowed_ip required"
      else if action = utf8 "suspend" then .suspend publicKey allowedIp
      else if action = utf8 "resume" then .resume publicKey allowedIp
      else .notFound := by
  rw [List.splitOn_append_cons_self, List.splitOn_eq_singleton plain]
  by_cases separator : 47 ∈ publicKey
  · obtain ⟨first, second, rest, parts⟩ := splitOn_of_mem separator
    rw [if_pos separator, parts]
    cases rest with
    | nil => exact dispatchParts_many "POST" rawQuery first second action []
    | cons third rest => exact dispatchParts_many "POST" rawQuery first second third (rest ++ [action])
  · rw [if_neg separator, List.splitOn_eq_singleton separator, List.cons_append, List.nil_append]
    simp only [dispatchParts_pair named, query, List.splitOn_eq_singleton single, List.head?_cons, Option.getD_some]

/-! ### The client's key text -/

theorem b64Encode_ascii (key : WireGuardKey) : '?' ∉ key.b64Encode.toList := by
  intro member
  rw [WireGuardKey.b64Encode, String.toList_ofList] at member
  rcases Lib.Base64.mem_encode key.bytes '?' member with equal | member
  · exact absurd equal (by decide)
  · exact absurd member (by decide)

theorem utf8_b64Encode_ne_nil (key : WireGuardKey) : utf8 key.b64Encode ≠ [] := by
  intro empty
  rw [utf8_eq_nil] at empty
  apply key.toList_b64Encode_ne_nil
  rw [empty]
  rfl

/-! ### Dispatch -/

/-- The handler sees what the client put after the route, split on `/`. -/
theorem peersHandler_wire {r : AgentRequest} {rest : String} (located : r.path = "/v1/peers/" ++ rest)
    (unmarked : 63 ∉ utf8 r.path) (encoder : QueryEncoder) (token : String) :
    peersHandler token (r.wire encoder token).receive =
      dispatchParts r.method (r.wire encoder token).receive.rawQuery ((utf8 rest).splitOn 47) := by
  have authorized : ¬ (r.wire encoder token).receive.authorization ≠ "Bearer " ++ token := not_not.mpr rfl
  have path : (r.wire encoder token).receive.path = utf8 "/v1/peers/" ++ utf8 rest := by
    rw [receive_path unmarked, located, utf8_append "/v1/peers/" rest]
  unfold peersHandler
  rw [if_neg authorized, path, trimPrefix_append]
  rfl

theorem unmarked_route {rest : String} (unmarked : 63 ∉ utf8 rest) : 63 ∉ utf8 ("/v1/peers/" ++ rest) := by
  rw [utf8_append "/v1/peers/" rest, List.mem_append, not_or]
  exact ⟨by decide, unmarked⟩

theorem questionMark_not_mem (key : WireGuardKey) : 63 ∉ utf8 key.b64Encode :=
  (mem_utf8_ascii (c := '?') (by decide) _).not.mpr (b64Encode_ascii key)

theorem peersHandler_action {r : AgentRequest} {key : WireGuardKey} {action allowedIp : String}
    (located : r.path = "/v1/peers/" ++ (key.b64Encode ++ ("/" ++ action))) (posted : r.method = "POST")
    (parameter : r.params = [("allowed_ip", allowedIp)]) (single : '/' ∉ allowedIp.toList)
    (plain : 47 ∉ utf8 action) (unmarked : 63 ∉ utf8 action) (encoder : QueryEncoder) (token : String) :
    peersHandler token (r.wire encoder token).receive =
      if 47 ∈ utf8 key.b64Encode then .notFound
      else if utf8 allowedIp = [] then .badRequest "allowed_ip required"
      else if utf8 action = utf8 "suspend" then .suspend (utf8 key.b64Encode) (utf8 allowedIp)
      else if utf8 action = utf8 "resume" then .resume (utf8 key.b64Encode) (utf8 allowedIp)
      else .notFound := by
  have pieces : utf8 (key.b64Encode ++ ("/" ++ action)) = utf8 key.b64Encode ++ 47 :: utf8 action := by
    rw [utf8_append, utf8_append "/" action]
    rfl
  have route : 63 ∉ utf8 r.path := by
    rw [located]
    apply unmarked_route
    rw [pieces, List.mem_append, List.mem_cons]
    simp [questionMark_not_mem key, unmarked]
  have single' : 47 ∉ utf8 allowedIp := (mem_utf8_ascii (c := '/') (by decide) _).not.mpr single
  rw [peersHandler_wire located route, posted, pieces]
  refine dispatchParts_action (utf8_b64Encode_ne_nil key) _ (utf8 allowedIp) (utf8 action) ?_ single' plain
  rw [parseQuery_receive route, parameter]
  simp [Lib.UrlEncoding.get]

theorem suspendPeer_path (key allowedIp : String) :
    (suspendPeer key allowedIp).path = "/v1/peers/" ++ (key ++ ("/" ++ "suspend")) := by
  have slash : "/" ++ "suspend" = "/suspend" := by decide
  rw [slash, ← String.append_assoc]
  rfl

theorem resumePeer_path (key allowedIp : String) :
    (resumePeer key allowedIp).path = "/v1/peers/" ++ (key ++ ("/" ++ "resume")) := by
  have slash : "/" ++ "resume" = "/resume" := by decide
  rw [slash, ← String.append_assoc]
  rfl

/-- A peer operation reaches the agent as itself exactly when the key text has no `/` in it, and,
for the two that carry an address, when that address is not empty. -/
theorem peer_request_dispatched_iff (encoder : QueryEncoder) (token : String) (key : WireGuardKey)
    (allowedIp : String) (single : '/' ∉ allowedIp.toList) (operation : PeerOperation) :
    operation.received encoder token key.b64Encode allowedIp = operation.dispatch key.b64Encode allowedIp ↔
      '/' ∉ key.b64Encode.toList ∧ (operation = .remove ∨ allowedIp ≠ "") := by
  have separator : 47 ∈ utf8 key.b64Encode ↔ '/' ∈ key.b64Encode.toList := mem_utf8_ascii (c := '/') (by decide) _
  rw [← separator, ne_eq, ← utf8_eq_nil]
  cases operation with
  | remove =>
      have received := peersHandler_wire (r := removePeer key.b64Encode) rfl
        (unmarked_route (questionMark_not_mem key)) encoder token
      simp only [PeerOperation.received, PeerOperation.request, PeerOperation.dispatch, received]
      rw [show (removePeer key.b64Encode).method = "DELETE" from rfl,
        dispatchParts_remove_iff (utf8_b64Encode_ne_nil key)]
      simp
  | suspend =>
      have received := peersHandler_action (suspendPeer_path key.b64Encode allowedIp) rfl rfl single
        (by decide) (by decide) encoder token
      simp only [PeerOperation.received, PeerOperation.request, PeerOperation.dispatch, received, if_true]
      split_ifs <;> simp_all
  | resume =>
      have received := peersHandler_action (resumePeer_path key.b64Encode allowedIp) rfl rfl single
        (by decide) (by decide) encoder token
      have other : utf8 "resume" ≠ utf8 "suspend" := by decide
      simp only [PeerOperation.received, PeerOperation.request, PeerOperation.dispatch, received, other, if_false,
        if_true]
      split_ifs <;> simp_all

/-- A real X25519 public key whose text contains a slash. -/
def slashedKey : WireGuardKey where
  bytes := [0x85, 0x20, 0xf0, 0x09, 0x89, 0x30, 0xa7, 0x54, 0x74, 0x8b, 0x7d, 0xdc, 0xb4, 0x3e, 0xf7, 0x5a,
    0x0d, 0xbf, 0x3a, 0x0d, 0x26, 0x38, 0x1a, 0xf4, 0xeb, 0xa4, 0xa9, 0x8e, 0xaa, 0x9b, 0x4e, 0x6a]
  size := rfl

example : slashedKey.b64Encode = "hSDwCYkwp1R0i33ctD73Wg2/Og0mOBr066SpjqqbTmo=" := by decide

theorem slashedKey_not_removed :
    PeerOperation.remove.received incusEncoder "token" slashedKey.b64Encode "10.100.1.2" ≠
      PeerOperation.remove.dispatch slashedKey.b64Encode "10.100.1.2" := by
  decide

theorem zeroKey_suspended :
    PeerOperation.suspend.received incusEncoder "token"
        (WireGuardKey.mk (List.replicate 32 0) rfl).b64Encode "10.100.1.2" =
      PeerOperation.suspend.dispatch (WireGuardKey.mk (List.replicate 32 0) rfl).b64Encode "10.100.1.2" :=
  (peer_request_dispatched_iff incusEncoder "token" ⟨List.replicate 32 0, rfl⟩ "10.100.1.2" (by decide)
    .suspend).mpr ⟨by decide, .inr (by decide)⟩

end DeepOrc.Agent
