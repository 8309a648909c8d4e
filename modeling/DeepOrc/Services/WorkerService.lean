import DeepOrc.Models

/-! # Choosing the worker of a new gateway -/

namespace DeepOrc.Services

open Models

inductive WorkerStatus where
  | online
  | offline
  | disabled
deriving DecidableEq, Repr

def heartbeatStaleSeconds : Nat := 120

def effectiveStatus (worker : Worker) (now : Nat) : WorkerStatus :=
  if !worker.enabled then .disabled
  else
    match worker.lastSeenAt with
    | none => .offline
    | some seen => if heartbeatStaleSeconds < now - seen then .offline else .online

/-- Control-plane workers do not appear on the dashboard and so are never online here. -/
def listOnlineWorkers (db : Db) (now : Nat) : List (Nat × Worker) :=
  db.workers.toList.filter fun entry => !entry.2.isLocal && effectiveStatus entry.2 now = .online

def resolveWorkerForGateway (db : Db) (now : Nat) (workerId : Option Nat) : Except PyError (Nat × Worker) :=
  match workerId with
  | some id =>
      match db.workers.get id with
      | none => .error (.value s!"Worker {id} not found")
      | some worker =>
          if worker.isLocal then .error (.value "Cannot create gateway on control plane")
          else if !worker.enabled then .error (.value s!"Worker {worker.displayName} is disabled")
          else if effectiveStatus worker now ≠ .online then .error (.value s!"Worker {worker.displayName} is offline")
          else .ok (id, worker)
  | none =>
      match listOnlineWorkers db now with
      | [] => .error (.value "No online gateway worker available")
      | [entry] => .ok entry
      | _ => .error (.value "Select a worker for the new gateway")

theorem get_of_resolveWorkerForGateway {db : Db} {now : Nat} {workerId : Option Nat} {id : Nat} {worker : Worker}
    (resolved : resolveWorkerForGateway db now workerId = .ok (id, worker)) : db.workers.get id = some worker := by
  unfold resolveWorkerForGateway at resolved
  cases workerId with
  | some chosen =>
      simp only at resolved
      split at resolved
      · cases resolved
      · rename_i row found
        split_ifs at resolved
        cases resolved
        exact found
  | none =>
      simp only at resolved
      split at resolved
      · cases resolved
      · rename_i entry only
        cases resolved
        have member : (id, worker) ∈ listOnlineWorkers db now := by
          rw [only]
          exact List.mem_singleton_self _
        exact Lib.Table.mem_toList.mp (List.mem_filter.mp member).1
      · cases resolved

end DeepOrc.Services
