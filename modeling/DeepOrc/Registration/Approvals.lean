import Mathlib.Logic.Function.Basic
import DeepOrc.Headscale.Registry
import DeepOrc.Registration.Requests

/-!
# Approving a registration

Registering the node, clearing its routes, listing the nodes and renaming it are separate commands. What an earlier one
did stays when a later one fails.
-/

namespace DeepOrc.Registration

open Headscale (Node Registered Registry headscaleNodeName nodeIpv4)
open Lib (Table)
open Models (PyError)

/-! ### Headscale's side -/

/-- What is registered under a waiting key, with the routes that the policy approves at once. -/
structure Machine where
  node : Node
  autoApproved : List String
deriving DecidableEq, Repr

/-- The registrations are those made so far, the newest first. -/
structure Server where
  registry : Registry
  waiting : String → Option Machine
  approvedRoutes : Nat → List String
  registrations : List (String × Node)

namespace Server

/-- A machine that registers again gives up its old entry. -/
def withdraw (registry : Registry) : Option Nat → Registry
  | some nodeId => registry.remove nodeId
  | none => registry

def autoApprove (routes : Nat → List String) (machine : Machine) : Nat → List String :=
  match machine.node.id with
  | some nodeId => Function.update routes nodeId machine.autoApproved
  | none => routes

def register (server : Server) (key : String) : Option (Node × Server) :=
  match server.waiting key with
  | none => none
  | some machine =>
      ((withdraw server.registry machine.node.id).join machine.node none).map fun registry =>
        (machine.node,
          { registry
            waiting := Function.update server.waiting key none
            approvedRoutes := autoApprove server.approvedRoutes machine
            registrations := (key, machine.node) :: server.registrations })

def nodes (server : Server) : List Node := server.registry.nodes.map Registered.node

def approveRoutes (server : Server) (nodeId : Nat) (routes : List String) : Option (Unit × Server) :=
  if server.nodes.any fun node => node.id = some nodeId then
    some ((), { server with approvedRoutes := Function.update server.approvedRoutes nodeId routes })
  else none

def rename (server : Server) (nodeId : Nat) (name : String) : Option (Unit × Server) :=
  if server.nodes.any fun node => node.id = some nodeId then
    (server.registry.rename nodeId name).map fun registry => ((), { server with registry })
  else none

end Server

/-- How a command ends. One that is `garbled` took effect and printed no JSON. The last two did nothing. -/
inductive Answer where
  | works
  | garbled (text : String)
  | failed (detail : String)
  | unstarted (text : String)
deriving DecidableEq, Repr

def Answer.takesEffect : Answer → Bool
  | works | garbled _ => true
  | failed _ | unstarted _ => false

structure Choice where
  authRegister : Answer
  nodesRegister : Answer
  approveRoutes : Answer
  listing : Answer
  rename : Answer

/-! ### The commands one after another -/

/-- `_run_headscale`. A command that Headscale refuses fails as well. -/
def runHeadscale {α : Type} (answer : Answer) (command : Option (α × Server)) (server : Server) :
    Except PyError α × Server :=
  match answer with
  | .unstarted text => (.error (.other text), server)
  | .failed detail => (.error (.headscale detail), server)
  | .works | .garbled _ =>
      match command with
      | some (output, after) => (.ok output, after)
      | none => (.error (.headscale "headscale command failed"), server)

/-- `json.loads` -/
def loads {α : Type} (answer : Answer) (output : Except PyError α) : Except PyError α :=
  match answer, output with
  | .garbled text, .ok _ => .error (.other text)
  | _, output => output

/-- An error ends the run, with the state it was raised in. -/
def andThen {α β : Type} (ran : Except PyError α × Server) (next : α → Server → Except PyError β × Server) :
    Except PyError β × Server :=
  match ran with
  | (.error error, after) => (.error error, after)
  | (.ok value, after) => next value after

def runRegister (answer : Answer) (key : String) (server : Server) : Except PyError Node × Server :=
  let (output, after) := runHeadscale answer (server.register key) server
  (loads answer output, after)

def listNodes (answer : Answer) (server : Server) : Except PyError (List Node) × Server :=
  let (output, after) := runHeadscale answer (some (server.nodes, server)) server
  (loads answer output, after)

namespace Server

def registerNodeWithHeadscale (choice : Choice) (key : String) (server : Server) : Except PyError Node × Server :=
  match runRegister choice.authRegister key server with
  | (.error (.headscale _), after) => runRegister choice.nodesRegister key after
  | result => result

def assignExitNodeName (choice : Choice) (nodeId : Nat) (server : Server) : Except PyError String × Server :=
  andThen (listNodes choice.listing server) fun nodes listed =>
    match Naming.nextSequentialName exitNodePrefix (collectExitNodeNames nodes) Naming.sequentialWidth with
    | .error text => (.error (.value text), listed)
    | .ok name =>
        andThen (runHeadscale choice.rename (listed.rename nodeId name) listed) fun _ renamed => (.ok name, renamed)

/-- The rest of `approve_registration_request` once the node is registered. -/
def finishApproval (choice : Choice) (data : Node) (registered : Server) : Except PyError RegisteredNode × Server :=
  match parseRegisteredNode data with
  | .error error => (.error error, registered)
  | .ok node =>
      andThen (runHeadscale choice.approveRoutes (registered.approveRoutes node.nodeId []) registered) fun _ cleared =>
        andThen (assignExitNodeName choice node.nodeId cleared) fun assignedName named =>
          (.ok ⟨node.nodeId, assignedName, node.tailscaleIp⟩, named)

def approveRegistrationRequest (choice : Choice) (registrationKey : String) (server : Server) :
    Except PyError RegisteredNode × Server :=
  let key := normalizeRegistrationKey registrationKey
  if isValidRegistrationKey key then
    andThen (registerNodeWithHeadscale choice key server) (finishApproval choice)
  else
    (.error (.headscale "Registration ID must be a 24-character key or hskey-authreq-* auth id"), server)

/-- Any error ends in a rollback of the rows, and Headscale keeps what it did. -/
def approveRegistrationUi (choice : Choice) (requests : Table RegistrationRequest) (registrationKey : String)
    (server : Server) : Table RegistrationRequest × Server :=
  let key := normalizeRegistrationKey registrationKey
  match approveRegistrationRequest choice key server with
  | (.ok node, after) => (markApproved requests key node, after)
  | (.error _, after) => (requests, after)

end Server

/-! ### All or nothing -/

/-- One new registration, under a generated name that no other node has or had, and without approved routes. -/
structure Enrolled (server after : Server) (key : String) (node : RegisteredNode) : Prop where
  registered : ∃ data, data.id = some node.nodeId ∧ after.registrations = (key, data) :: server.registrations
  routes : after.approvedRoutes node.nodeId = []
  form : ∃ index < 1000, node.hostname = Naming.formatSequentialName exitNodePrefix index 3
  named : ∃ entry ∈ after.nodes, entry.id = some node.nodeId ∧ headscaleNodeName entry = node.hostname
  unshared : ∀ entry ∈ after.nodes, entry.id ≠ some node.nodeId → headscaleNodeName entry ≠ node.hostname
  new : ∀ entry ∈ server.nodes, entry.id ≠ some node.nodeId → headscaleNodeName entry ≠ node.hostname

structure AllOrNothing (choice : Choice) (requests : Table RegistrationRequest) (registrationKey : String)
    (server : Server) : Prop where
  raised : ∀ error after, server.approveRegistrationRequest choice registrationKey = (.error error, after) →
    after.registrations = server.registrations ∧
      server.approveRegistrationUi choice requests registrationKey = (requests, after)
  returned : ∀ node after, server.approveRegistrationRequest choice registrationKey = (.ok node, after) →
    Enrolled server after (normalizeRegistrationKey registrationKey) node

/-- The answer of the command that registers: the second one runs when the first one failed. -/
def Choice.registration (choice : Choice) : Answer :=
  match choice.authRegister with
  | .failed _ => choice.nodesRegister
  | answer => answer

/-- Everything after the registration succeeds. -/
structure GoesThrough (choice : Choice) (node : Node) (registered : Server) : Prop where
  printed : choice.registration = .works
  id : ∃ nodeId, node.id = some nodeId
  ipv4 : ∃ ip, nodeIpv4 node = some ip ∧ ip ≠ ""
  cleared : choice.approveRoutes.takesEffect = true
  listed : choice.listing = .works
  free : ∃ index < 1000,
    ∀ entry ∈ registered.nodes, headscaleNodeName entry ≠ Naming.formatSequentialName exitNodePrefix index 3
  renamed : choice.rename.takesEffect = true

/-! ### Single commands -/

theorem andThen_ok {α β : Type} {ran : Except PyError α × Server} {next : α → Server → Except PyError β × Server}
    {result : β} {after : Server} (succeeded : andThen ran next = (.ok result, after)) :
    ∃ value between, ran = (.ok value, between) ∧ next value between = (.ok result, after) := by
  obtain ⟨outcome, between⟩ := ran
  cases outcome with
  | error error => cases succeeded
  | ok value => exact ⟨value, between, rfl, succeeded⟩

theorem andThen_registrations {α β : Type} {ran : Except PyError α × Server}
    {next : α → Server → Except PyError β × Server} {server : Server}
    (first : ran.2.registrations = server.registrations)
    (rest : ∀ value between, (next value between).2.registrations = between.registrations) :
    (andThen ran next).2.registrations = server.registrations := by
  obtain ⟨outcome, between⟩ := ran
  cases outcome with
  | error error => exact first
  | ok value => exact (rest value between).trans first

theorem runHeadscale_of_takesEffect {α : Type} {answer : Answer} (effect : answer.takesEffect = true) (output : α)
    (after server : Server) : runHeadscale answer (some (output, after)) server = (.ok output, after) := by
  cases answer with
  | works => rfl
  | garbled text => rfl
  | failed detail => cases effect
  | unstarted text => cases effect

theorem runHeadscale_error {α : Type} {answer : Answer} (idle : answer.takesEffect = false)
    (command : Option (α × Server)) (server : Server) :
    ∃ error, runHeadscale answer command server = (.error error, server) := by
  cases answer with
  | works => cases idle
  | garbled text => cases idle
  | failed detail => exact ⟨_, rfl⟩
  | unstarted text => exact ⟨_, rfl⟩

theorem runHeadscale_refused {α : Type} (answer : Answer) (server : Server) :
    ∃ error, runHeadscale (α := α) answer none server = (.error error, server) := by
  cases answer with
  | works => exact ⟨_, rfl⟩
  | garbled text => exact ⟨_, rfl⟩
  | failed detail => exact ⟨_, rfl⟩
  | unstarted text => exact ⟨_, rfl⟩

theorem runHeadscale_ok {α : Type} {answer : Answer} {command : Option (α × Server)} {server after : Server} {output : α}
    (succeeded : runHeadscale answer command server = (.ok output, after)) :
    answer.takesEffect = true ∧ command = some (output, after) := by
  cases effect : answer.takesEffect with
  | false =>
      obtain ⟨error, failed⟩ := runHeadscale_error effect command server
      rw [failed] at succeeded
      cases succeeded
  | true =>
      cases command with
      | none =>
          obtain ⟨error, failed⟩ := runHeadscale_refused (α := α) answer server
          rw [failed] at succeeded
          cases succeeded
      | some ran =>
          rw [runHeadscale_of_takesEffect effect ran.1 ran.2 server] at succeeded
          cases succeeded
          exact ⟨rfl, rfl⟩

theorem runHeadscale_registrations {α : Type} (answer : Answer) {command : Option (α × Server)} {server : Server}
    (kept : ∀ output after, command = some (output, after) → after.registrations = server.registrations) :
    (runHeadscale answer command server).2.registrations = server.registrations := by
  cases effect : answer.takesEffect with
  | false =>
      obtain ⟨error, failed⟩ := runHeadscale_error effect command server
      rw [failed]
  | true =>
      cases command with
      | none =>
          obtain ⟨error, failed⟩ := runHeadscale_refused (α := α) answer server
          rw [failed]
      | some ran =>
          rw [runHeadscale_of_takesEffect effect ran.1 ran.2 server]
          exact kept ran.1 ran.2 rfl

theorem loads_works {α : Type} {answer : Answer} (works : answer = .works) (output : Except PyError α) :
    loads answer output = output := by
  subst works
  cases output <;> rfl

theorem loads_garbled {α : Type} {answer : Answer} (effect : answer.takesEffect = true) (broken : answer ≠ .works)
    (output : α) : ∃ error, loads answer (.ok output) = .error error := by
  cases answer with
  | works => exact absurd rfl broken
  | garbled text => exact ⟨_, rfl⟩
  | failed detail => cases effect
  | unstarted text => cases effect

theorem listNodes_works {answer : Answer} (works : answer = .works) (server : Server) :
    listNodes answer server = (.ok server.nodes, server) := by
  subst works
  rfl

theorem listNodes_ok {answer : Answer} {server after : Server} {nodes : List Node}
    (succeeded : listNodes answer server = (.ok nodes, after)) :
    answer = .works ∧ nodes = server.nodes ∧ after = server := by
  cases answer with
  | works =>
      cases succeeded
      exact ⟨rfl, rfl, rfl⟩
  | garbled text => cases succeeded
  | failed detail => cases succeeded
  | unstarted text => cases succeeded

theorem listNodes_registrations (answer : Answer) (server : Server) :
    (listNodes answer server).2.registrations = server.registrations := by
  cases answer <;> rfl

namespace Server

/-! ### What the commands do to the nodes -/

theorem mem_nodes {server : Server} {node : Node} :
    node ∈ server.nodes ↔ ∃ entry ∈ server.registry.nodes, entry.node = node := List.mem_map

theorem register_spec {server registered : Server} {key : String} {node : Node}
    (accepted : server.register key = some (node, registered)) :
    registered.registrations = (key, node) :: server.registrations ∧ node ∈ registered.nodes ∧
      ∀ entry ∈ server.nodes, entry.id ≠ node.id → entry ∈ registered.nodes := by
  unfold register at accepted
  cases waits : server.waiting key with
  | none =>
      rw [waits] at accepted
      cases accepted
  | some machine =>
      rw [waits] at accepted
      obtain ⟨registry, joined, same⟩ := Option.map_eq_some_iff.mp accepted
      cases same
      unfold Registry.join at joined
      split at joined
      · cases joined
        refine ⟨rfl, List.mem_cons_self, ?_⟩
        intro entry member other
        obtain ⟨held, present, rfl⟩ := mem_nodes.mp member
        refine mem_nodes.mpr ⟨held, List.mem_cons_of_mem _ ?_, rfl⟩
        cases id : machine.node.id with
        | none => exact present
        | some nodeId =>
            rw [id] at other
            exact List.mem_filter.mpr ⟨present, by simpa using other⟩
      · cases joined

theorem approveRoutes_of_mem {server : Server} {node : Node} {nodeId : Nat} (present : node ∈ server.nodes)
    (id : node.id = some nodeId) (routes : List String) :
    server.approveRoutes nodeId routes =
      some ((), { server with approvedRoutes := Function.update server.approvedRoutes nodeId routes }) := by
  unfold approveRoutes
  rw [if_pos (List.any_eq_true.mpr ⟨node, present, by simpa using id⟩)]

theorem approveRoutes_some {server after : Server} {nodeId : Nat} {routes : List String}
    (accepted : server.approveRoutes nodeId routes = some ((), after)) :
    after = { server with approvedRoutes := Function.update server.approvedRoutes nodeId routes } := by
  unfold approveRoutes at accepted
  split at accepted
  · cases accepted
    rfl
  · cases accepted

theorem rename_some {server after : Server} {nodeId : Nat} {name : String}
    (accepted : server.rename nodeId name = some ((), after)) :
    (∃ node ∈ server.nodes, node.id = some nodeId) ∧
      ∃ registry, server.registry.rename nodeId name = some registry ∧ after = { server with registry } := by
  unfold rename at accepted
  split at accepted
  · rename_i held
    obtain ⟨node, present, id⟩ := List.any_eq_true.mp held
    obtain ⟨registry, renamed, same⟩ := Option.map_eq_some_iff.mp accepted
    cases same
    exact ⟨⟨node, present, by simpa using id⟩, registry, renamed, rfl⟩
  · cases accepted

theorem rename_of_free {server : Server} {node : Node} {nodeId : Nat} {name : String} (present : node ∈ server.nodes)
    (id : node.id = some nodeId) (filled : name ≠ "") (free : ∀ entry ∈ server.nodes, headscaleNodeName entry ≠ name) :
    ∃ registry, server.rename nodeId name = some ((), { server with registry }) := by
  unfold rename Registry.rename
  have unheld : ∀ entry ∈ server.registry.nodes, entry.node.id ≠ some nodeId → headscaleNodeName entry.node ≠ name := by
    intro entry member other
    exact free entry.node (mem_nodes.mpr ⟨entry, member, rfl⟩)
  rw [if_pos (List.any_eq_true.mpr ⟨node, present, by simpa using id⟩), dif_pos ⟨filled, unheld⟩]
  exact ⟨_, rfl⟩

/-- The renamed node has the name, and the others keep theirs. -/
theorem rename_spec {server after : Server} {nodeId : Nat} {name : String} (filled : name ≠ "")
    (accepted : server.rename nodeId name = some ((), after)) :
    (∃ entry ∈ after.nodes, entry.id = some nodeId ∧ headscaleNodeName entry = name) ∧
      (∀ entry ∈ after.nodes, entry.id ≠ some nodeId → headscaleNodeName entry ≠ name) ∧
        after.registrations = server.registrations ∧ after.approvedRoutes = server.approvedRoutes := by
  obtain ⟨⟨node, present, id⟩, registry, renamed, rfl⟩ := rename_some accepted
  unfold Registry.rename at renamed
  split at renamed
  · rename_i free
    cases renamed
    obtain ⟨held, member, rfl⟩ := mem_nodes.mp present
    have named : headscaleNodeName (Registry.renamed nodeId name held).node = name := by
      rw [Registry.renamed_name filled, if_pos id]
    refine ⟨⟨_, mem_nodes.mpr ⟨_, List.mem_map_of_mem member, rfl⟩, by simpa using id, named⟩, ?_, rfl, rfl⟩
    intro entry listed other
    obtain ⟨shown, kept, rfl⟩ := mem_nodes.mp listed
    obtain ⟨source, stored, rfl⟩ := List.mem_map.mp kept
    rw [Registry.renamed_id] at other
    rw [Registry.renamed_name filled source, if_neg other]
    exact free.2 source stored other
  · cases renamed

end Server

/-! ### Generated names -/

theorem isExitNodeName_format {index : Nat} (small : index < 1000) :
    isExitNodeName (Naming.formatSequentialName exitNodePrefix index 3) = true := by
  obtain ⟨a, b, c, digits, first, second, third⟩ := Naming.zeroPadded_three small
  simp only [isExitNodeName, Naming.formatSequentialName, exitNodePrefix, String.toList_append, digits]
  simp [first, second, third]

theorem mem_collectExitNodeNames {nodes : List Node} {index : Nat} (small : index < 1000) :
    Naming.formatSequentialName exitNodePrefix index 3 ∈ collectExitNodeNames nodes ↔
      ∃ entry ∈ nodes, headscaleNodeName entry = Naming.formatSequentialName exitNodePrefix index 3 := by
  unfold collectExitNodeNames
  rw [List.mem_filter, List.mem_map]
  constructor
  · intro collected
    exact collected.1
  · intro held
    exact ⟨held, isExitNodeName_format small⟩

theorem format_ne_empty (index : Nat) : Naming.formatSequentialName exitNodePrefix index 3 ≠ "" := by
  intro empty
  have texts := congrArg String.toList empty
  simp [Naming.formatSequentialName, exitNodePrefix] at texts

theorem parseRegisteredNode_ok {data : Node} {node : RegisteredNode} (parsed : parseRegisteredNode data = .ok node) :
    data.id = some node.nodeId ∧ ∃ ip, nodeIpv4 data = some ip ∧ ip ≠ "" := by
  unfold parseRegisteredNode at parsed
  cases id : data.id with
  | none =>
      rw [id] at parsed
      cases parsed
  | some nodeId =>
      rw [id] at parsed
      cases address : nodeIpv4 data with
      | none =>
          rw [address] at parsed
          cases parsed
      | some ip =>
          rw [address] at parsed
          dsimp only at parsed
          split at parsed
          · cases parsed
          · rename_i filled
            cases parsed
            exact ⟨rfl, ip, rfl, filled⟩

theorem parseRegisteredNode_of_id {data : Node} {nodeId : Nat} {ip : String} (id : data.id = some nodeId)
    (address : nodeIpv4 data = some ip) (filled : ip ≠ "") :
    ∃ hostname, parseRegisteredNode data = .ok ⟨nodeId, hostname, ip⟩ := by
  unfold parseRegisteredNode
  rw [id, address]
  dsimp only
  rw [if_neg filled]
  exact ⟨_, rfl⟩

namespace Server

/-! ### The steps of an approval -/

theorem assignExitNodeName_ok {choice : Choice} {nodeId : Nat} {server after : Server} {name : String}
    (assigned : assignExitNodeName choice nodeId server = (.ok name, after)) :
    choice.listing = .works ∧ choice.rename.takesEffect = true ∧
      (∃ index < 1000, name = Naming.formatSequentialName exitNodePrefix index 3 ∧
        ∀ entry ∈ server.nodes, headscaleNodeName entry ≠ name) ∧
      server.rename nodeId name = some ((), after) := by
  obtain ⟨nodes, listed, listing, next⟩ := andThen_ok assigned
  obtain ⟨works, rfl, rfl⟩ := listNodes_ok listing
  split at next
  · cases next
  · rename_i chosen choosing
    obtain ⟨_, renamed, ran, same⟩ := andThen_ok next
    cases same
    obtain ⟨effect, accepted⟩ := runHeadscale_ok ran
    obtain ⟨index, small, rfl⟩ := Naming.nextSequentialName_form choosing
    have untaken := Naming.nextSequentialName_not_mem choosing
    refine ⟨works, effect, ⟨index, small, rfl, ?_⟩, accepted⟩
    intro entry member held
    exact untaken ((mem_collectExitNodeNames small).mpr ⟨entry, member, held⟩)

theorem assignExitNodeName_of_free {choice : Choice} {node : Node} {nodeId : Nat} {server : Server}
    (listed : choice.listing = .works) (renamed : choice.rename.takesEffect = true) (present : node ∈ server.nodes)
    (id : node.id = some nodeId)
    (free : ∃ index < 1000,
      ∀ entry ∈ server.nodes, headscaleNodeName entry ≠ Naming.formatSequentialName exitNodePrefix index 3) :
    ∃ name after, assignExitNodeName choice nodeId server = (.ok name, after) := by
  obtain ⟨index, small, unheld⟩ := free
  have untaken : Naming.formatSequentialName exitNodePrefix index 3 ∉ collectExitNodeNames server.nodes := by
    intro taken
    obtain ⟨entry, member, held⟩ := (mem_collectExitNodeNames small).mp taken
    exact unheld entry member held
  have room : index < 10 ^ Naming.sequentialWidth := small
  obtain ⟨name, choosing⟩ := Naming.nextSequentialName_of_free room untaken
  obtain ⟨chosen, below, rfl⟩ := Naming.nextSequentialName_form choosing
  have unshared : ∀ entry ∈ server.nodes,
      headscaleNodeName entry ≠ Naming.formatSequentialName exitNodePrefix chosen 3 := by
    intro entry member held
    exact Naming.nextSequentialName_not_mem choosing ((mem_collectExitNodeNames below).mpr ⟨entry, member, held⟩)
  obtain ⟨registry, accepted⟩ := rename_of_free present id (format_ne_empty chosen) unshared
  refine ⟨Naming.formatSequentialName exitNodePrefix chosen 3, { server with registry }, ?_⟩
  unfold assignExitNodeName
  rw [listNodes_works listed]
  simp only [andThen, choosing]
  rw [show server.rename nodeId (Naming.formatSequentialName exitNodePrefix chosen Naming.sequentialWidth) =
    some ((), { server with registry }) from accepted, runHeadscale_of_takesEffect renamed]
  rfl

theorem finishApproval_registrations (choice : Choice) (data : Node) (registered : Server) :
    (finishApproval choice data registered).2.registrations = registered.registrations := by
  unfold finishApproval
  cases parseRegisteredNode data with
  | error error => rfl
  | ok node =>
      have cleared : (runHeadscale choice.approveRoutes (registered.approveRoutes node.nodeId [])
          registered).2.registrations = registered.registrations := by
        apply runHeadscale_registrations
        intro output after accepted
        rw [approveRoutes_some accepted]
      apply andThen_registrations cleared
      intro _ between
      refine andThen_registrations ?_ fun _ _ => rfl
      unfold assignExitNodeName
      apply andThen_registrations (listNodes_registrations choice.listing between)
      intro nodes listed
      cases Naming.nextSequentialName exitNodePrefix (collectExitNodeNames nodes) Naming.sequentialWidth with
      | error text => rfl
      | ok name =>
          refine andThen_registrations ?_ fun _ _ => rfl
          apply runHeadscale_registrations
          intro output after accepted
          obtain ⟨-, registry, -, same⟩ := rename_some accepted
          rw [same]

/-- What an approval that returns needed, and what it leaves. -/
theorem finishApproval_ok {choice : Choice} {data : Node} {registered after : Server} {node : RegisteredNode}
    (finished : finishApproval choice data registered = (.ok node, after)) :
    data.id = some node.nodeId ∧ (∃ ip, nodeIpv4 data = some ip ∧ ip ≠ "") ∧
      choice.approveRoutes.takesEffect = true ∧ choice.listing = .works ∧ choice.rename.takesEffect = true ∧
      (∃ index < 1000, node.hostname = Naming.formatSequentialName exitNodePrefix index 3) ∧
      (∀ entry ∈ registered.nodes, headscaleNodeName entry ≠ node.hostname) ∧
      after.approvedRoutes node.nodeId = [] ∧
      (∃ entry ∈ after.nodes, entry.id = some node.nodeId ∧ headscaleNodeName entry = node.hostname) ∧
      ∀ entry ∈ after.nodes, entry.id ≠ some node.nodeId → headscaleNodeName entry ≠ node.hostname := by
  unfold finishApproval at finished
  split at finished
  · cases finished
  · rename_i parsed reading
    obtain ⟨id, address⟩ := parseRegisteredNode_ok reading
    obtain ⟨_, cleared, clearing, next⟩ := andThen_ok finished
    obtain ⟨clears, removed⟩ := runHeadscale_ok clearing
    have emptied := approveRoutes_some removed
    obtain ⟨name, named, assigning, same⟩ := andThen_ok next
    cases same
    obtain ⟨lists, renames, ⟨index, small, form, unheld⟩, accepted⟩ := assignExitNodeName_ok assigning
    obtain ⟨holder, others, -, routes⟩ := rename_spec (form ▸ format_ne_empty index) accepted
    rw [emptied] at unheld routes
    refine ⟨id, address, clears, lists, renames, ⟨index, small, form⟩, unheld, ?_, holder, others⟩
    rw [routes]
    exact Function.update_self ..

theorem finishApproval_of_goesThrough {choice : Choice} {data : Node} {registered : Server}
    (through : GoesThrough choice data registered) (present : data ∈ registered.nodes) :
    ∃ node after, finishApproval choice data registered = (.ok node, after) := by
  obtain ⟨nodeId, id⟩ := through.id
  obtain ⟨ip, address, filled⟩ := through.ipv4
  obtain ⟨hostname, parsed⟩ := parseRegisteredNode_of_id id address filled
  unfold finishApproval
  simp only [parsed, approveRoutes_of_mem present id, runHeadscale_of_takesEffect through.cleared, andThen]
  generalize emptied : { registered with approvedRoutes := Function.update registered.approvedRoutes nodeId [] } = cleared
  have listed : cleared.nodes = registered.nodes := by
    rw [← emptied]
    rfl
  have kept : data ∈ cleared.nodes := listed ▸ present
  have unheld := through.free
  rw [← listed] at unheld
  obtain ⟨name, after, assigning⟩ := assignExitNodeName_of_free through.listed through.renamed kept id unheld
  rw [assigning]
  exact ⟨_, _, rfl⟩

/-! ### The registration -/

theorem runRegister_of_register {answer : Answer} {server registered : Server} {key : String} {data : Node}
    (accepted : server.register key = some (data, registered)) (effect : answer.takesEffect = true) :
    runRegister answer key server = (loads answer (.ok data), registered) := by
  unfold runRegister
  rw [accepted, runHeadscale_of_takesEffect effect]

theorem registerNodeWithHeadscale_of_register {choice : Choice} {server registered : Server} {key : String} {data : Node}
    (accepted : server.register key = some (data, registered)) (effect : choice.registration.takesEffect = true) :
    registerNodeWithHeadscale choice key server = (loads choice.registration (.ok data), registered) := by
  unfold registerNodeWithHeadscale
  unfold Choice.registration at effect ⊢
  cases first : choice.authRegister with
  | works => rw [runRegister_of_register accepted rfl]; rfl
  | garbled text => rw [runRegister_of_register accepted rfl]; rfl
  | failed detail =>
      rw [first] at effect
      exact runRegister_of_register accepted effect
  | unstarted text =>
      rw [first] at effect
      cases effect

theorem runRegister_refused {answer : Answer} {server : Server} {key : String} (refused : server.register key = none)
    (effect : answer.takesEffect = true) :
    runRegister answer key server = (.error (.headscale "headscale command failed"), server) := by
  unfold runRegister
  rw [refused]
  cases answer with
  | works => rfl
  | garbled text => rfl
  | failed detail => cases effect
  | unstarted text => cases effect

theorem runRegister_idle {answer : Answer} {server : Server} {key : String}
    (idle : server.register key = none ∨ answer.takesEffect = false) :
    ∃ error, runRegister answer key server = (.error error, server) := by
  cases effect : answer.takesEffect with
  | true =>
      rw [effect] at idle
      exact ⟨_, runRegister_refused (idle.resolve_right Bool.noConfusion) effect⟩
  | false =>
      obtain ⟨error, failed⟩ := runHeadscale_error effect (server.register key) server
      refine ⟨error, ?_⟩
      unfold runRegister
      rw [failed]
      cases answer <;> rfl

/-- Without a registration nothing else runs, and Headscale is as it was. -/
theorem registerNodeWithHeadscale_idle {choice : Choice} {server : Server} {key : String}
    (idle : server.register key = none ∨ choice.registration.takesEffect = false) :
    ∃ error, registerNodeWithHeadscale choice key server = (.error error, server) := by
  have again : ∀ detail, (server.register key = none ∨ choice.nodesRegister.takesEffect = false) →
      runRegister choice.authRegister key server = (.error (.headscale detail), server) →
        ∃ error, registerNodeWithHeadscale choice key server = (.error error, server) := by
    intro detail second failed
    unfold registerNodeWithHeadscale
    rw [failed]
    exact runRegister_idle second
  unfold Choice.registration at idle
  cases first : choice.authRegister with
  | works =>
      rw [first] at idle again
      have refused := idle.resolve_right Bool.noConfusion
      exact again _ (.inl refused) (runRegister_refused refused rfl)
  | garbled text =>
      rw [first] at idle again
      have refused := idle.resolve_right Bool.noConfusion
      exact again _ (.inl refused) (runRegister_refused refused rfl)
  | failed detail =>
      rw [first] at idle again
      exact again detail idle rfl
  | unstarted text =>
      unfold registerNodeWithHeadscale
      rw [first]
      exact ⟨_, rfl⟩

/-! ### The whole approval -/

theorem approveRegistrationRequest_invalid {registrationKey : String}
    (invalid : ¬ isValidRegistrationKey (normalizeRegistrationKey registrationKey) = true) (choice : Choice)
    (server : Server) :
    ∃ error, approveRegistrationRequest choice registrationKey server = (.error error, server) := by
  unfold approveRegistrationRequest
  rw [if_neg invalid]
  exact ⟨_, rfl⟩

theorem approveRegistrationRequest_idle {choice : Choice} {registrationKey : String} {server : Server}
    (idle : server.register (normalizeRegistrationKey registrationKey) = none ∨
      choice.registration.takesEffect = false) :
    ∃ error, approveRegistrationRequest choice registrationKey server = (.error error, server) := by
  by_cases valid : isValidRegistrationKey (normalizeRegistrationKey registrationKey) = true
  · obtain ⟨error, failed⟩ := registerNodeWithHeadscale_idle idle
    refine ⟨error, ?_⟩
    unfold approveRegistrationRequest
    rw [if_pos valid, failed]
    rfl
  · exact approveRegistrationRequest_invalid valid choice server

/-- From the registration on, the outcome is that of the remaining commands. -/
theorem approveRegistrationRequest_of_register {choice : Choice} {registrationKey : String} {server registered : Server}
    {data : Node} (valid : isValidRegistrationKey (normalizeRegistrationKey registrationKey) = true)
    (accepted : server.register (normalizeRegistrationKey registrationKey) = some (data, registered))
    (effect : choice.registration.takesEffect = true) :
    approveRegistrationRequest choice registrationKey server =
      andThen (loads choice.registration (.ok data), registered) (finishApproval choice) := by
  unfold approveRegistrationRequest
  rw [if_pos valid, registerNodeWithHeadscale_of_register accepted effect]

theorem approveRegistrationRequest_normalized (choice : Choice) (registrationKey : String) (server : Server) :
    approveRegistrationRequest choice (normalizeRegistrationKey registrationKey) server =
      approveRegistrationRequest choice registrationKey server := by
  unfold approveRegistrationRequest
  rw [normalizeRegistrationKey_idem]

theorem approveRegistrationUi_error {choice : Choice} {requests : Table RegistrationRequest} {registrationKey : String}
    {server after : Server} {error : PyError}
    (raised : approveRegistrationRequest choice registrationKey server = (.error error, after)) :
    approveRegistrationUi choice requests registrationKey server = (requests, after) := by
  unfold approveRegistrationUi
  dsimp only
  rw [approveRegistrationRequest_normalized, raised]

/-- An approval that returns has registered the node, and everything after that went through. -/
theorem approveRegistrationRequest_ok {choice : Choice} {registrationKey : String} {server after : Server}
    {node : RegisteredNode} (returned : approveRegistrationRequest choice registrationKey server = (.ok node, after)) :
    Enrolled server after (normalizeRegistrationKey registrationKey) node ∧
      ∃ data registered, server.register (normalizeRegistrationKey registrationKey) = some (data, registered) ∧
        GoesThrough choice data registered := by
  by_cases valid : isValidRegistrationKey (normalizeRegistrationKey registrationKey) = true
  swap
  · obtain ⟨error, failed⟩ := approveRegistrationRequest_invalid valid choice server
    rw [failed] at returned
    cases returned
  by_cases ran : server.register (normalizeRegistrationKey registrationKey) = none ∨ choice.registration.takesEffect = false
  · obtain ⟨error, failed⟩ := approveRegistrationRequest_idle ran
    rw [failed] at returned
    cases returned
  obtain ⟨registering, effective⟩ := not_or.mp ran
  obtain ⟨⟨data, registered⟩, accepted⟩ := Option.ne_none_iff_exists'.mp registering
  have effect : choice.registration.takesEffect = true := by simpa using effective
  rw [approveRegistrationRequest_of_register valid accepted effect] at returned
  obtain ⟨read, between, reading, finished⟩ := andThen_ok returned
  obtain ⟨output, rfl⟩ := Prod.mk.inj reading
  have printed : choice.registration = .works := by
    by_contra broken
    obtain ⟨error, garbled⟩ := loads_garbled effect broken data
    rw [garbled] at output
    cases output
  rw [loads_works printed] at output
  cases output
  obtain ⟨id, address, clears, lists, renames, ⟨index, small, form⟩, unheld, routes, named, unshared⟩ :=
    finishApproval_ok finished
  obtain ⟨recorded, -, kept⟩ := register_spec accepted
  have registrations := finishApproval_registrations choice data registered
  rw [finished] at registrations
  refine ⟨⟨⟨data, id, registrations.trans recorded⟩, routes, ⟨index, small, form⟩, named, unshared, ?_⟩, data, registered,
    accepted, ⟨printed, ⟨node.nodeId, id⟩, address, clears, lists, ⟨index, small, form ▸ unheld⟩, renames⟩⟩
  intro entry member other
  exact unheld entry (kept entry member (by rw [id]; exact other))

/-- Whatever follows a registration, Headscale keeps it. -/
theorem approveRegistrationRequest_registrations {choice : Choice} {registrationKey : String}
    {server registered : Server} {data : Node}
    (valid : isValidRegistrationKey (normalizeRegistrationKey registrationKey) = true)
    (accepted : server.register (normalizeRegistrationKey registrationKey) = some (data, registered))
    (effect : choice.registration.takesEffect = true) :
    (approveRegistrationRequest choice registrationKey server).2.registrations =
      (normalizeRegistrationKey registrationKey, data) :: server.registrations := by
  rw [approveRegistrationRequest_of_register valid accepted effect]
  have finished : (andThen (loads choice.registration (.ok data), registered)
      (finishApproval choice)).2.registrations = registered.registrations :=
    andThen_registrations rfl (finishApproval_registrations choice)
  rw [finished]
  exact (register_spec accepted).1

end Server

/-- Approval is all or nothing exactly if, once a command registers the node, everything after that goes through. -/
theorem approval_all_or_nothing_iff (choice : Choice) (requests : Table RegistrationRequest) (registrationKey : String)
    (server : Server) :
    AllOrNothing choice requests registrationKey server ↔
      (isValidRegistrationKey (normalizeRegistrationKey registrationKey) = true →
        choice.registration.takesEffect = true →
          ∀ data registered, server.register (normalizeRegistrationKey registrationKey) = some (data, registered) →
            GoesThrough choice data registered) := by
  constructor
  · intro whole valid effect data registered accepted
    have recorded := Server.approveRegistrationRequest_registrations valid accepted effect
    cases approved : server.approveRegistrationRequest choice registrationKey with
    | mk outcome after =>
        cases outcome with
        | ok node =>
            obtain ⟨-, other, final, again, through⟩ := Server.approveRegistrationRequest_ok approved
            rw [accepted] at again
            cases again
            exact through
        | error error =>
            rw [approved] at recorded
            have untouched := (whole.raised error after approved).1
            exact absurd (recorded.symm.trans untouched) (List.cons_ne_self _ _)
  · intro through
    refine ⟨?_, fun node after returned => (Server.approveRegistrationRequest_ok returned).1⟩
    intro error after raised
    refine ⟨?_, Server.approveRegistrationUi_error raised⟩
    by_cases valid : isValidRegistrationKey (normalizeRegistrationKey registrationKey) = true
    swap
    · obtain ⟨refusal, failed⟩ := Server.approveRegistrationRequest_invalid valid choice server
      rw [failed] at raised
      cases raised
      rfl
    by_cases ran : server.register (normalizeRegistrationKey registrationKey) = none ∨
        choice.registration.takesEffect = false
    · obtain ⟨refusal, failed⟩ := Server.approveRegistrationRequest_idle ran
      rw [failed] at raised
      cases raised
      rfl
    obtain ⟨registering, effective⟩ := not_or.mp ran
    obtain ⟨⟨data, registered⟩, accepted⟩ := Option.ne_none_iff_exists'.mp registering
    have effect : choice.registration.takesEffect = true := by simpa using effective
    have complete := through valid effect data registered accepted
    obtain ⟨node, final, finished⟩ :=
      Server.finishApproval_of_goesThrough complete (Server.register_spec accepted).2.1
    rw [Server.approveRegistrationRequest_of_register valid accepted effect, loads_works complete.printed] at raised
    have returned := finished.symm.trans raised
    cases returned

def android : Machine where
  node :=
    { id := some 9, givenName := none, givenNameCamel := none, name := some "android-phone", hostname := none
      ipAddressesCamel := none, ipAddresses := some ["100.64.0.9", "fd7a::9"] }
  autoApproved := []

def androidKey : String := "hskey-authreq-fj0dD26nCDZe-PIzCv4rddLK"

def androidWaits : Server where
  registry := Headscale.Registry.empty
  waiting := fun key => if key = androidKey then some android else none
  approvedRoutes := fun _ => []
  registrations := []

example : (androidWaits.approveRegistrationRequest ⟨.works, .works, .works, .works, .works⟩ androidKey).1.toOption =
    some ⟨9, "ex-000", "100.64.0.9"⟩ := by decide +kernel

/-- The phone is registered, and clearing its routes fails. -/
theorem approval_half_done : ¬ ∀ choice requests registrationKey server,
    AllOrNothing choice requests registrationKey server := by
  intro whole
  have outcome := (whole ⟨.works, .works, .failed "database is locked", .works, .works⟩ Table.empty androidKey
    androidWaits).raised (.headscale "database is locked")
  have kept := (outcome _ rfl).1
  exact absurd kept (by decide +kernel)

/-! ### The commands as the requests see them -/

/-- The run of a registering command, without what it left. -/
def commandRun (answer : Answer) (command : Option (Node × Server)) : CommandRun :=
  match answer, command with
  | .unstarted text, _ => .unstarted text
  | .failed detail, _ => .failed detail
  | .garbled _, none | .works, none => .failed "headscale command failed"
  | .garbled text, some _ => .unreadable text
  | .works, some (data, _) => .printed data

theorem runRegister_result (answer : Answer) (key : String) (server : Server) :
    (runRegister answer key server).1 = (commandRun answer (server.register key)).result := by
  unfold runRegister
  cases answer <;> cases server.register key <;> rfl

/-- Only a command that did nothing leads to the second one. -/
theorem runRegister_headscale {answer : Answer} {key : String} {server after : Server} {detail : String}
    (failed : runRegister answer key server = (.error (.headscale detail), after)) : after = server := by
  unfold runRegister at failed
  cases accepted : server.register key with
  | none =>
      rw [accepted] at failed
      cases answer <;> cases failed <;> rfl
  | some ran =>
      rw [accepted] at failed
      cases answer with
      | works => cases failed
      | garbled text => cases failed
      | failed detail =>
          cases failed
          rfl
      | unstarted text => cases failed

/-- The registering commands by what they printed, the others by what came of them. -/
def observed (choice : Choice) (key : String) (server : Server) (routes : Except PyError Unit)
    (listing : Except PyError (List Node)) (rename : Except PyError Unit) : ApprovalCalls where
  authRegister := commandRun choice.authRegister (server.register key)
  nodesRegister := commandRun choice.nodesRegister (server.register key)
  approveRoutes := routes
  listing := listing
  rename := rename

theorem registerNodeWithHeadscale_result (choice : Choice) (key : String) (server : Server)
    (routes : Except PyError Unit) (listing : Except PyError (List Node)) (rename : Except PyError Unit) :
    (registerNodeWithHeadscale (observed choice key server routes listing rename)).1 =
      (server.registerNodeWithHeadscale choice key).1 := by
  have first := runRegister_result choice.authRegister key server
  have second := runRegister_result choice.nodesRegister key server
  unfold Server.registerNodeWithHeadscale registerNodeWithHeadscale observed
  dsimp only
  rw [← first, ← second]
  cases ran : runRegister choice.authRegister key server with
  | mk outcome after =>
      cases outcome with
      | ok data => rfl
      | error error =>
          cases error with
          | headscale detail => rw [runRegister_headscale ran]
          | value text => rfl
          | integrity text => rfl
          | other text => rfl

theorem finishApproval_result (choice : Choice) (data : Node) (registered : Server) :
    ∃ routes listing rename, ∀ auth nodes,
      (Server.finishApproval choice data registered).1 = (do
        let node ← parseRegisteredNode data
        routes
        let assignedName ← assignExitNodeName ⟨auth, nodes, routes, listing, rename⟩
        return ⟨node.nodeId, assignedName, node.tailscaleIp⟩) := by
  cases parsed : parseRegisteredNode data with
  | error error =>
      refine ⟨.ok (), .ok [], .ok (), fun auth nodes => ?_⟩
      unfold Server.finishApproval
      rw [parsed]
      rfl
  | ok node =>
      unfold Server.finishApproval
      rw [parsed]
      dsimp only
      cases clearing : runHeadscale choice.approveRoutes (registered.approveRoutes node.nodeId []) registered with
      | mk routes cleared =>
          cases routes with
          | error error => exact ⟨.error error, .ok [], .ok (), fun auth nodes => rfl⟩
          | ok done =>
              simp only [andThen, Server.assignExitNodeName]
              cases listing : listNodes choice.listing cleared with
              | mk nodes listed =>
                  cases nodes with
                  | error error => exact ⟨.ok (), .error error, .ok (), fun auth nodes => rfl⟩
                  | ok nodes =>
                      dsimp only
                      cases choosing : Naming.nextSequentialName exitNodePrefix (collectExitNodeNames nodes)
                          Naming.sequentialWidth with
                      | error text =>
                          refine ⟨.ok (), .ok nodes, .ok (), fun _ _ => ?_⟩
                          simp only [assignExitNodeName, bind, Except.bind, choosing]
                          rfl
                      | ok name =>
                          dsimp only
                          cases last : runHeadscale choice.rename (listed.rename node.nodeId name) listed with
                          | mk renamed after =>
                              refine ⟨.ok (), .ok nodes, renamed, fun _ _ => ?_⟩
                              simp only [assignExitNodeName, bind, Except.bind, choosing]
                              cases renamed <;> rfl

/-- Seen from the table, an approval is one of those that take the outcomes of the commands as they come. -/
theorem approveRegistrationRequest_result (choice : Choice) (registrationKey : String) (server : Server) :
    ∃ calls, (server.approveRegistrationRequest choice registrationKey).1 =
      (approveRegistrationRequest registrationKey calls).1 := by
  unfold Server.approveRegistrationRequest approveRegistrationRequest
  generalize normalizeRegistrationKey registrationKey = key
  dsimp only
  split
  · have seen := registerNodeWithHeadscale_result choice key server
    cases registering : server.registerNodeWithHeadscale choice key with
    | mk outcome registered =>
        rw [registering] at seen
        cases outcome with
        | error error =>
            refine ⟨observed choice key server (.ok ()) (.ok []) (.ok ()), ?_⟩
            rw [seen]
            rfl
        | ok data =>
            obtain ⟨routes, listing, rename, finished⟩ := finishApproval_result choice data registered
            refine ⟨observed choice key server routes listing rename, ?_⟩
            rw [seen]
            exact finished _ _
  · exact ⟨observed choice key server (.ok ()) (.ok []) (.ok ()), rfl⟩

end DeepOrc.Registration
