import DeepOrc.Headscale.Client
import DeepOrc.Models
import DeepOrc.Naming

/-!
# Registration requests

A visitor leaves a request under a key, and an administrator approves or rejects it by that key. Headscale is asked
before the row is marked.
-/

namespace DeepOrc.Registration

open Headscale (Node)
open Lib (Table)
open Models (PyError)

/-! ### Keys -/

def registrationKeyLength : Nat := 24

def registrationKeyMaxLength : Nat := 128

def headscaleAuthIdPrefix : String := "hskey-authreq-"

/-- `str.strip` -/
def normalizeRegistrationKey (key : String) : String := String.ofList (Naming.strip key.toList)

def isValidRegistrationKey (key : String) : Bool :=
  let normalized := normalizeRegistrationKey key
  if normalized.isEmpty || normalized.length > registrationKeyMaxLength then false
  else if normalized.length = registrationKeyLength then true
  else
    headscaleAuthIdPrefix.toList.isPrefixOf normalized.toList && normalized.length > headscaleAuthIdPrefix.length

/-! ### Headscale -/

/-- A run of the `headscale` command. It may not start, fail, print what is no JSON object, or print a node. -/
inductive CommandRun where
  | unstarted (text : String)
  | failed (detail : String)
  | unreadable (text : String)
  | printed (node : Node)

def CommandRun.starts : CommandRun → Bool
  | .unstarted _ => false
  | _ => true

/-- Only a command that fails raises `HeadscaleError`. -/
def CommandRun.result : CommandRun → Except PyError Node
  | .unstarted text => .error (.other text)
  | .failed detail => .error (.headscale detail)
  | .unreadable text => .error (.other text)
  | .printed node => .ok node

structure ApprovalCalls where
  authRegister : CommandRun
  nodesRegister : CommandRun
  approveRoutes : Except PyError Unit
  listing : Except PyError (List Node)
  rename : Except PyError Unit

structure RegisteredNode where
  nodeId : Nat
  hostname : String
  tailscaleIp : String
deriving DecidableEq, Repr

def parseRegisteredNode (data : Node) : Except PyError RegisteredNode :=
  match data.id with
  | none => .error (.headscale "Headscale did not return a node id")
  | some nodeId =>
      let name := Headscale.headscaleNodeName data
      match Headscale.nodeIpv4 data with
      | none => .error (.headscale "Headscale did not return a node IP")
      | some tailscaleIp =>
          if tailscaleIp = "" then .error (.headscale "Headscale did not return a node IP")
          else .ok ⟨nodeId, if name = "" then toString nodeId else name, tailscaleIp⟩

/-- The node, and the commands that were given the key. -/
def registerNodeWithHeadscale (calls : ApprovalCalls) : Except PyError Node × List CommandRun :=
  match calls.authRegister.result with
  | .error (.headscale _) => (calls.nodesRegister.result, [calls.authRegister, calls.nodesRegister])
  | result => (result, [calls.authRegister])

def exitNodePrefix : String := "ex-"

/-- `^ex-\d{3}$`, where `$` also matches before a final newline. -/
def isExitNodeName (name : String) : Bool :=
  match name.toList with
  | ['e', 'x', '-', a, b, c] => Naming.isDecimal a && Naming.isDecimal b && Naming.isDecimal c
  | ['e', 'x', '-', a, b, c, '\n'] => Naming.isDecimal a && Naming.isDecimal b && Naming.isDecimal c
  | _ => false

def collectExitNodeNames (nodes : List Node) : List String :=
  (nodes.map Headscale.headscaleNodeName).filter isExitNodeName

def assignExitNodeName (calls : ApprovalCalls) : Except PyError String := do
  let nodes ← calls.listing
  let name ← (Naming.nextSequentialName exitNodePrefix (collectExitNodeNames nodes) Naming.sequentialWidth).mapError
    PyError.value
  calls.rename
  return name

def approveRegistrationRequest (registrationKey : String) (calls : ApprovalCalls) :
    Except PyError RegisteredNode × List (String × CommandRun) :=
  let key := normalizeRegistrationKey registrationKey
  if isValidRegistrationKey key then
    let (registered, commands) := registerNodeWithHeadscale calls
    let node : Except PyError RegisteredNode := do
      let node ← parseRegisteredNode (← registered)
      calls.approveRoutes
      let assignedName ← assignExitNodeName calls
      return ⟨node.nodeId, assignedName, node.tailscaleIp⟩
    (node, commands.map (key, ·))
  else
    (.error (.headscale "Registration ID must be a 24-character key or hskey-authreq-* auth id"), [])

/-! ### The table of requests -/

inductive RequestStatus where
  | pending
  | approved
  | rejected
deriving DecidableEq, Repr

structure RegistrationRequest where
  registrationKey : String
  displayCode : String
  status : RequestStatus
  headscaleNodeId : Option Nat
  tailscaleIp : Option String
deriving DecidableEq, Repr

def displayCodeLength : Nat := 6

/-- The codes are those of up to 50 draws, each below a million. -/
def allocateDisplayCode (requests : Table RegistrationRequest) (draws : Nat → Fin 1000000) : Except PyError String :=
  let taken (code : String) : Bool :=
    requests.toList.any fun entry => entry.2.displayCode == code && entry.2.status == .pending
  match ((List.range 50).map fun attempt => Naming.zeroPadded (draws attempt).val displayCodeLength).find?
      fun code => !taken code with
  | some code => .ok code
  | none => .error (.other "Unable to allocate a unique display code")

def getByKey (requests : Table RegistrationRequest) (registrationKey : String) : Option (Nat × RegistrationRequest) :=
  requests.toList.find? fun entry => entry.2.registrationKey = registrationKey

def touchPending (requests : Table RegistrationRequest) (registrationKey : String) (draws : Nat → Fin 1000000) :
    Except PyError (Table RegistrationRequest × RegistrationRequest) :=
  match getByKey requests registrationKey with
  | some (_, existing) => .ok (requests, existing)
  | none => do
      let displayCode ← allocateDisplayCode requests draws
      let row : RegistrationRequest := ⟨registrationKey, displayCode, .pending, none, none⟩
      return (requests.insert row, row)

def RegistrationRequest.approve (node : RegisteredNode) (row : RegistrationRequest) : RegistrationRequest :=
  { row with
    status := .approved
    headscaleNodeId := some node.nodeId
    tailscaleIp := some node.tailscaleIp }

def RegistrationRequest.reject (row : RegistrationRequest) : RegistrationRequest := { row with status := .rejected }

/-- The row under the key, whatever its status. -/
def mark (requests : Table RegistrationRequest) (registrationKey : String)
    (change : RegistrationRequest → RegistrationRequest) : Table RegistrationRequest :=
  match getByKey requests registrationKey with
  | some (id, _) => requests.modify id change
  | none => requests

def markApproved (requests : Table RegistrationRequest) (registrationKey : String) (node : RegisteredNode) :
    Table RegistrationRequest :=
  mark requests registrationKey (RegistrationRequest.approve node)

def markRejected (requests : Table RegistrationRequest) (registrationKey : String) : Table RegistrationRequest :=
  mark requests registrationKey RegistrationRequest.reject

/-! ### The three routes -/

/-- Any error ends in a rollback. -/
def registerPage (requests : Table RegistrationRequest) (registrationKey : String) (draws : Nat → Fin 1000000) :
    Table RegistrationRequest :=
  let key := normalizeRegistrationKey registrationKey
  if isValidRegistrationKey key then
    match touchPending requests key draws with
    | .ok (after, _) => after
    | .error _ => requests
  else requests

def approveRegistrationUi (requests : Table RegistrationRequest) (registrationKey : String) (calls : ApprovalCalls) :
    Table RegistrationRequest × List (String × CommandRun) :=
  let key := normalizeRegistrationKey registrationKey
  let (approved, commands) := approveRegistrationRequest key calls
  match approved with
  | .ok node => (markApproved requests key node, commands)
  | .error _ => (requests, commands)

def rejectRegistrationUi (requests : Table RegistrationRequest) (registrationKey : String) : Table RegistrationRequest :=
  markRejected requests (normalizeRegistrationKey registrationKey)

/-! ### What the routes do to the table -/

def statusOf (requests : Table RegistrationRequest) (key : String) : Option RequestStatus :=
  (getByKey requests key).map fun entry => entry.2.status

theorem getByKey_some {requests : Table RegistrationRequest} {key : String} {id : Nat} {row : RegistrationRequest}
    (found : getByKey requests key = some (id, row)) : requests.get id = some row ∧ row.registrationKey = key := by
  refine ⟨Table.mem_toList.mp (List.mem_of_find?_eq_some found), ?_⟩
  simpa using List.find?_some found

theorem getByKey_none {requests : Table RegistrationRequest} {key : String} (missing : getByKey requests key = none)
    {id : Nat} {row : RegistrationRequest} (present : requests.get id = some row) : row.registrationKey ≠ key := by
  have other := List.find?_eq_none.mp missing (id, row) (Table.mem_toList.mpr present)
  simpa using other

theorem mark_cases (requests : Table RegistrationRequest) (key : String)
    (change : RegistrationRequest → RegistrationRequest) :
    (getByKey requests key = none ∧ mark requests key change = requests) ∨
      ∃ id row, getByKey requests key = some (id, row) ∧ mark requests key change = requests.modify id change := by
  unfold mark
  cases found : getByKey requests key with
  | none => exact .inl ⟨rfl, rfl⟩
  | some entry => exact .inr ⟨entry.1, entry.2, rfl, rfl⟩

theorem unique_mark {requests : Table RegistrationRequest} (unique : requests.Unique RegistrationRequest.registrationKey)
    (key : String) {change : RegistrationRequest → RegistrationRequest}
    (keeps : ∀ row, (change row).registrationKey = row.registrationKey) :
    (mark requests key change).Unique RegistrationRequest.registrationKey := by
  rcases mark_cases requests key change with ⟨-, same⟩ | ⟨id, row, -, modified⟩
  · rw [same]
    exact unique
  · rw [modified]
    apply unique.of_rows
    intro other after present
    obtain ⟨before, stored, changed⟩ := Table.get_modify_some present
    refine ⟨before, stored, ?_⟩
    rw [changed]
    split
    · exact keeps before
    · rfl

/-- A visit keeps every row, and adds one only under a new key. -/
theorem registerPage_cases (requests : Table RegistrationRequest) (registrationKey : String)
    (draws : Nat → Fin 1000000) :
    registerPage requests registrationKey draws = requests ∨
      ∃ row, (∀ id other, requests.get id = some other → other.registrationKey ≠ row.registrationKey) ∧
        registerPage requests registrationKey draws = requests.insert row := by
  unfold registerPage
  dsimp only
  split
  · unfold touchPending
    cases found : getByKey requests (normalizeRegistrationKey registrationKey) with
    | some entry => exact .inl rfl
    | none =>
        cases allocateDisplayCode requests draws with
        | error error => exact .inl rfl
        | ok displayCode => exact .inr ⟨_, fun id other present => getByKey_none found present, rfl⟩
  · exact .inl rfl

theorem unique_registerPage {requests : Table RegistrationRequest}
    (unique : requests.Unique RegistrationRequest.registrationKey) (registrationKey : String)
    (draws : Nat → Fin 1000000) :
    (registerPage requests registrationKey draws).Unique RegistrationRequest.registrationKey := by
  rcases registerPage_cases requests registrationKey draws with same | ⟨row, new, inserted⟩
  · rw [same]
    exact unique
  · rw [inserted]
    exact unique.insert new

theorem normalizeRegistrationKey_idem (key : String) :
    normalizeRegistrationKey (normalizeRegistrationKey key) = normalizeRegistrationKey key := by
  simp only [normalizeRegistrationKey, String.toList_ofList, Naming.strip_idem]

theorem registerNodeWithHeadscale_cases (calls : ApprovalCalls) :
    ∃ commands, (registerNodeWithHeadscale calls).2 = calls.authRegister :: commands ∧
      (calls.authRegister.starts = false →
        commands = [] ∧ ∃ error, (registerNodeWithHeadscale calls).1 = .error error) := by
  unfold registerNodeWithHeadscale
  cases calls.authRegister with
  | unstarted text => exact ⟨[], rfl, fun _ => ⟨rfl, _, rfl⟩⟩
  | failed detail => exact ⟨_, rfl, fun unstarted => by cases unstarted⟩
  | unreadable text => exact ⟨[], rfl, fun unstarted => by cases unstarted⟩
  | printed node => exact ⟨[], rfl, fun unstarted => by cases unstarted⟩

theorem approveRegistrationRequest_invalid {key : String}
    (invalid : isValidRegistrationKey (normalizeRegistrationKey key) = false) (calls : ApprovalCalls) :
    ∃ error, approveRegistrationRequest key calls = (.error error, []) := by
  unfold approveRegistrationRequest
  dsimp only
  rw [invalid]
  exact ⟨_, rfl⟩

theorem approveRegistrationRequest_valid {key : String}
    (valid : isValidRegistrationKey (normalizeRegistrationKey key) = true) (calls : ApprovalCalls) :
    ∃ commands, (approveRegistrationRequest key calls).2 =
        (calls.authRegister :: commands).map (normalizeRegistrationKey key, ·) ∧
      (calls.authRegister.starts = false →
        commands = [] ∧ ∃ error, (approveRegistrationRequest key calls).1 = .error error) := by
  obtain ⟨commands, submitted, unstarted⟩ := registerNodeWithHeadscale_cases calls
  unfold approveRegistrationRequest
  rw [if_pos valid]
  cases ran : registerNodeWithHeadscale calls with
  | mk registered keyed =>
      rw [ran] at submitted unstarted
      refine ⟨commands, by rw [← submitted], ?_⟩
      intro idle
      obtain ⟨single, error, failed⟩ := unstarted idle
      refine ⟨single, error, ?_⟩
      dsimp only at failed ⊢
      rw [failed]
      rfl

/-- A request under an invalid key changes nothing and submits nothing. Under a valid key the key is submitted first, and
the row is marked only if the command started. -/
theorem approveRegistrationUi_cases (requests : Table RegistrationRequest) (registrationKey : String)
    (calls : ApprovalCalls) {key : String} (normalized : normalizeRegistrationKey registrationKey = key) :
    (isValidRegistrationKey key = false ∧ approveRegistrationUi requests registrationKey calls = (requests, [])) ∨
      isValidRegistrationKey key = true ∧ ∃ after commands,
        approveRegistrationUi requests registrationKey calls =
            (after, (calls.authRegister :: commands).map (key, ·)) ∧
          (calls.authRegister.starts = false → commands = [] ∧ after = requests) ∧
          (after = requests ∨ ∃ node, after = markApproved requests key node) := by
  have again : normalizeRegistrationKey key = key := by
    rw [← normalized]
    exact normalizeRegistrationKey_idem registrationKey
  unfold approveRegistrationUi
  dsimp only
  rw [normalized]
  cases valid : isValidRegistrationKey key with
  | false =>
      obtain ⟨error, refused⟩ := approveRegistrationRequest_invalid (by rw [again]; exact valid) calls
      rw [refused]
      exact .inl ⟨rfl, rfl⟩
  | true =>
      obtain ⟨commands, submitted, idle⟩ := approveRegistrationRequest_valid (by rw [again]; exact valid) calls
      rw [again] at submitted
      refine .inr ⟨rfl, ?_⟩
      cases approved : (approveRegistrationRequest key calls).1 with
      | error error => exact ⟨requests, commands, by rw [submitted], fun unstarted => ⟨(idle unstarted).1, rfl⟩, .inl rfl⟩
      | ok node =>
          refine ⟨markApproved requests key node, commands, by rw [submitted], ?_, .inr ⟨node, rfl⟩⟩
          intro unstarted
          obtain ⟨-, error, failed⟩ := idle unstarted
          rw [approved] at failed
          cases failed

end DeepOrc.Registration
