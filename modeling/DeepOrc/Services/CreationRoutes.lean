import DeepOrc.Services.GatewayCreation

/-!
# Requests that create a gateway

Both routes turn a `ValueError` into an answer. The API's answer is an exception, the UI's is a redirect that the
route returns, and `get_db` commits after a route that returns.
-/

namespace DeepOrc.Services

open Models Repositories

inductive CreationRoute where
  -- `_start_gateway_creation`
  | ui (workerId : Nat)
  -- `POST /gateways`
  | api (body : CreateGatewayRequest)

def CreationRoute.request : CreationRoute → CreateGatewayRequest
  | ui workerId => ⟨none, none, some workerId⟩
  | api body => body

/-- An error together with what the session has flushed by then. -/
def holding {α : Type} (session : Db) (outcome : Except PyError α) : Except (PyError × Db) α :=
  outcome.mapError fun error => (error, session)

/-- `create_gateway` for a caller that may go on with the session after an error. -/
def createGatewayIn (calls : CreationCalls) (request : CreateGatewayRequest) (db : Db) :
    Except (PyError × Db) (Db × Nat × Nat) := do
  let name ← holding db (requestedName db request)
  holding db (checkNameUnused db name)
  holding db (preauthKey calls.preauth)
  let (workerId, worker) ← holding db (resolveWorkerForGateway db calls.now request.workerId)
  let (allocated, vmIp) ← holding db (Incus.allocateVmIp db workerId worker)
  let (ported, udpPort) ← holding allocated (requestedPort allocated request workerId worker)
  holding ported (insertGateway ported (newGateway calls ported.gateways.next workerId name vmIp udpPort))

/-- The database once `get_db` has closed the session. -/
def serveCreation (calls : CreationCalls) (route : CreationRoute) (db : Db) : Db :=
  match createGatewayIn calls route.request db with
  | .ok (after, _, _) => after
  | .error (.value _, session) =>
      match route with
      | .ui _ => session
      | .api _ => db
  | .error _ => db

/-! ### The session's view agrees with the committed one -/

theorem holding_ok_bind {α β : Type} (session : Db) (value : α) (next : α → Except (PyError × Db) β) :
    (holding session (.ok value) >>= next) = next value := rfl

theorem mapError_holding {α : Type} (session : Db) (outcome : Except PyError α) :
    (holding session outcome).mapError Prod.fst = outcome := by
  cases outcome <;> rfl

theorem mapError_bind {α β : Type} {session : Db} {outcome : Except PyError α} {next : α → Except (PyError × Db) β}
    {plain : α → Except PyError β} (agree : ∀ value, (next value).mapError Prod.fst = plain value) :
    (holding session outcome >>= next).mapError Prod.fst = outcome >>= plain := by
  cases outcome with
  | error => rfl
  | ok value => exact agree value

theorem createGatewayIn_eq (calls : CreationCalls) (request : CreateGatewayRequest) (db : Db) :
    (createGatewayIn calls request db).mapError Prod.fst = createGateway calls request db := by
  refine mapError_bind fun name => mapError_bind fun _ => mapError_bind fun _ => mapError_bind ?_
  rintro ⟨workerId, worker⟩
  apply mapError_bind
  rintro ⟨allocated, vmIp⟩
  apply mapError_bind
  rintro ⟨ported, udpPort⟩
  exact mapError_holding _ _

/-! ### Where an error may strike after something was flushed -/

/-- Everything up to the address succeeds, and the pool has no port for it. -/
structure PortsExhausted (calls : CreationCalls) (request : CreateGatewayRequest) (db : Db) where
  name : String
  workerId : Nat
  worker : Worker
  vmIp : Nat
  named : requestedName db request = .ok name
  unused : getByName db name = none
  key : preauthKey calls.preauth = .ok ()
  resolved : resolveWorkerForGateway db calls.now request.workerId = .ok (workerId, worker)
  address : Incus.freeVmIp worker (Incus.gatewayVmIps db workerId ++ Incus.allocatedAddresses db workerId) = .ok vmIp
  ports : ∃ error,
    Incus.freeUdpPort worker (Incus.gatewayUdpPorts db workerId ++ Incus.allocatedPorts db workerId) = .error error

theorem freeUdpPort_of_requestedPort_error {db : Db} {request : CreateGatewayRequest} {workerId : Nat} {worker : Worker}
    {error : PyError} (automatic : request.udpPort = none)
    (failed : requestedPort db request workerId worker = .error error) :
    Incus.freeUdpPort worker (Incus.gatewayUdpPorts db workerId ++ Incus.allocatedPorts db workerId) = .error error := by
  simp only [requestedPort, automatic, Incus.allocateUdpPort] at failed
  split at failed
  · cases failed
  · rename_i found search
    cases failed
    exact search

theorem holding_error {α : Type} {session db : Db} {outcome : Except PyError α} {error : PyError}
    (failed : holding session outcome = .error (error, db)) : outcome = .error error ∧ db = session := by
  cases outcome with
  | error found =>
      cases failed
      exact ⟨rfl, rfl⟩
  | ok value => cases failed

/-- A failing program fails at its first step or after it. -/
theorem holding_bind_error {α β : Type} {session : Db} {outcome : Except PyError α}
    {next : α → Except (PyError × Db) β} {error : PyError × Db} (failed : (holding session outcome >>= next) = .error error) :
    (outcome = .error error.1 ∧ error.2 = session) ∨ ∃ value, outcome = .ok value ∧ next value = .error error := by
  cases outcome with
  | error found =>
      cases failed
      exact .inl ⟨rfl, rfl⟩
  | ok value => exact .inr ⟨value, rfl, failed⟩

theorem holds_of_error {calls : CreationCalls} {request : CreateGatewayRequest} {db session : Db} {text : String}
    (automatic : request.udpPort = none) (failed : createGatewayIn calls request db = .error (.value text, session)) :
    session = db ∨ ∃ exhausted : PortsExhausted calls request db, session =
      { db with ipAllocations := db.ipAllocations.insert ⟨exhausted.workerId, exhausted.vmIp, none, none⟩ } := by
  unfold createGatewayIn at failed
  rcases holding_bind_error failed with ⟨-, same⟩ | ⟨name, named, failed⟩
  · exact .inl same
  rcases holding_bind_error failed with ⟨-, same⟩ | ⟨_, checked, failed⟩
  · exact .inl same
  rcases holding_bind_error failed with ⟨-, same⟩ | ⟨_, key, failed⟩
  · exact .inl same
  rcases holding_bind_error failed with ⟨-, same⟩ | ⟨⟨workerId, worker⟩, resolved, failed⟩
  · exact .inl same
  rcases holding_bind_error failed with ⟨-, same⟩ | ⟨⟨allocated, vmIp⟩, address, failed⟩
  · exact .inl same
  have found : Incus.freeVmIp worker (Incus.gatewayVmIps db workerId ++ Incus.allocatedAddresses db workerId) = .ok vmIp ∧
      allocated = { db with ipAllocations := db.ipAllocations.insert ⟨workerId, vmIp, none, none⟩ } := by
    unfold Incus.allocateVmIp at address
    split at address
    · rename_i candidate search
      cases address
      exact ⟨search, rfl⟩
    · cases address
  obtain ⟨free, rfl⟩ := found
  rcases holding_bind_error failed with ⟨exhausted, same⟩ | ⟨⟨ported, udpPort⟩, port, failed⟩
  · refine .inr ⟨⟨name, workerId, worker, vmIp, named, checkNameUnused_ok checked, key, resolved, free, ?_⟩, same⟩
    have ports := freeUdpPort_of_requestedPort_error automatic exhausted
    exact ⟨_, ports⟩
  · obtain ⟨conflict, -⟩ := holding_error failed
    unfold insertGateway at conflict
    split at conflict <;> cases conflict

theorem createGatewayIn_of_exhausted {calls : CreationCalls} {request : CreateGatewayRequest} {db : Db}
    (automatic : request.udpPort = none) (exhausted : PortsExhausted calls request db) :
    ∃ error, createGatewayIn calls request db = .error (error,
      { db with ipAllocations := db.ipAllocations.insert ⟨exhausted.workerId, exhausted.vmIp, none, none⟩ }) := by
  obtain ⟨error, ports⟩ := exhausted.ports
  have checked : checkNameUnused db exhausted.name = .ok () := by simp [checkNameUnused, exhausted.unused]
  have allocated : Incus.allocateVmIp db exhausted.workerId exhausted.worker = .ok ({ db with
      ipAllocations := db.ipAllocations.insert ⟨exhausted.workerId, exhausted.vmIp, none, none⟩ }, exhausted.vmIp) := by
    simp only [Incus.allocateVmIp, exhausted.address]
  have refused : requestedPort { db with
      ipAllocations := db.ipAllocations.insert ⟨exhausted.workerId, exhausted.vmIp, none, none⟩ } request
        exhausted.workerId exhausted.worker = .error error := by
    simp only [requestedPort, automatic, Incus.allocateUdpPort, Incus.gatewayUdpPorts, Incus.allocatedPorts] at ports ⊢
    rw [ports]
  refine ⟨error, ?_⟩
  unfold createGatewayIn
  rw [exhausted.named, holding_ok_bind, checked, holding_ok_bind, exhausted.key, holding_ok_bind, exhausted.resolved,
    holding_ok_bind]
  dsimp only
  rw [allocated, holding_ok_bind]
  dsimp only
  rw [refused]
  rfl

/-- A rejected creation leaves a row behind exactly when the UI made it and only a port was missing. -/
theorem rejected_creation_traceless_iff {calls : CreationCalls} {route : CreationRoute} {db : Db} {text : String}
    (rejected : createGateway calls route.request db = .error (.value text)) :
    SameRows db (serveCreation calls route db) ↔
      (∃ body, route = .api body) ∨ ¬ Nonempty (PortsExhausted calls route.request db) := by
  rw [← createGatewayIn_eq] at rejected
  unfold serveCreation
  cases outcome : createGatewayIn calls route.request db with
  | ok created =>
      rw [outcome] at rejected
      cases rejected
  | error held =>
      obtain ⟨error, session⟩ := held
      rw [outcome] at rejected
      cases rejected
      cases route with
      | api body => exact ⟨fun _ => .inl ⟨body, rfl⟩, fun _ => .refl db⟩
      | ui workerId =>
          constructor
          · rintro same
            refine .inr ?_
            rintro ⟨exhausted⟩
            obtain ⟨error, held⟩ := createGatewayIn_of_exhausted rfl exhausted
            rw [outcome] at held
            cases held
            have left := same.ipAllocations db.ipAllocations.next
            simp at left
          · rintro (⟨body, api⟩ | room)
            · cases api
            · rcases holds_of_error rfl outcome with rfl | ⟨exhausted, -⟩
              · exact .refl session
              · exact absurd ⟨exhausted⟩ room

/-- One port, and a gateway that has it. -/
def crowdedDb : Db :=
  { Db.empty with
    workers := Lib.Table.empty.insert
      ⟨"w1", "w1", "https://w1:8443", true, some 0, 51820, 51820, 168427775, 168427530⟩
    gateways := Lib.Table.empty.insert (newGateway ⟨0, 2624, .ok ()⟩ 1 1 "gw-000" 168427530 51820) }

set_option maxRecDepth 4000 in
/-- The redirect that reports the missing port commits the address reserved before. -/
theorem rejected_ui_creation_keeps_address :
    createGateway ⟨0, 2624, .ok ()⟩ (CreationRoute.ui 1).request crowdedDb =
        .error (.value "No available UDP ports in pool for worker w1") ∧
      (serveCreation ⟨0, 2624, .ok ()⟩ (.ui 1) crowdedDb).ipAllocations.get 1 = some ⟨1, 168427531, none, none⟩ ∧
      ¬ SameRows crowdedDb (serveCreation ⟨0, 2624, .ok ()⟩ (.ui 1) crowdedDb) := by
  refine ⟨rfl, rfl, ?_⟩
  intro same
  exact nomatch same.ipAllocations 1

set_option maxRecDepth 4000 in
theorem rejected_api_creation_traceless :
    SameRows crowdedDb (serveCreation ⟨0, 2624, .ok ()⟩ (.api ⟨none, none, some 1⟩) crowdedDb) := by
  have rejected : createGateway ⟨0, 2624, .ok ()⟩ (CreationRoute.api ⟨none, none, some 1⟩).request crowdedDb =
      .error (.value "No available UDP ports in pool for worker w1") := rfl
  exact (rejected_creation_traceless_iff rejected).mpr (.inl ⟨_, rfl⟩)

end DeepOrc.Services
