import DeepOrc.Incus.Network
import DeepOrc.Lan.Groups

/-!
# Registering a worker, and its pool of VM addresses

Network and start of the pool each come from the request or from the settings, whatever the other one is.
-/

namespace DeepOrc.Services

open Models
open Lib (Table)
open Lib.Ipv4 (Network)

structure WorkerSettings where
  portPoolStart : Nat
  portPoolEnd : Nat
  ipPoolNetwork : Network
  ipPoolStart : Nat

def defaultWorkerSettings : WorkerSettings := ⟨51001, 52000, ⟨168427520, 16⟩, 168427786⟩

structure WorkerRegisterRequest where
  name : String
  displayName : Option String
  incusUrl : Option String
  portPoolStart : Option Nat
  portPoolEnd : Option Nat
  ipPoolNetwork : Option Network
  ipPoolStart : Option Nat

/-- The new row, with the network whose broadcast address it holds. -/
structure RegisteredWorker where
  worker : Worker
  ipPoolNetwork : Network
  broadcast : worker.ipPoolBroadcast = ipPoolNetwork.broadcast

/-- `value or default` for a number. -/
def orDefault (value : Option Nat) (default : Nat) : Nat := (value.filter fun n => n ≠ 0).getD default

/-- The token is left out. -/
def registerWorker (settings : WorkerSettings) (db : Db) (request : WorkerRegisterRequest) :
    Except PyError RegisteredWorker :=
  if (db.workers.toList.find? fun entry => entry.2.name = request.name).isSome then
    .error (.value s!"Worker {request.name} already exists")
  else
    let ipPoolNetwork := request.ipPoolNetwork.getD settings.ipPoolNetwork
    .ok {
      worker := {
        name := request.name
        displayName := (Lib.Text.given request.displayName).getD request.name
        incusUrl := request.incusUrl.getD ""
        enabled := true
        lastSeenAt := none
        portPoolStart := orDefault request.portPoolStart settings.portPoolStart
        portPoolEnd := orDefault request.portPoolEnd settings.portPoolEnd
        ipPoolBroadcast := ipPoolNetwork.broadcast
        ipPoolStart := request.ipPoolStart.getD settings.ipPoolStart }
      ipPoolNetwork
      broadcast := rfl }

/-- With the network parsed first, as `allocate_vm_ip` does. -/
def allocateVmIp (registered : RegisteredWorker) (db : Db) (workerId : Nat) : Except PyError (Db × Nat) :=
  match Lan.strictNetwork (.v4 registered.ipPoolNetwork) with
  | .error error => .error error
  | .ok _ => Incus.allocateVmIp db workerId registered.worker

def vmIpsInUse (db : Db) (workerId : Nat) : List Nat :=
  Incus.gatewayVmIps db workerId ++ Incus.allocatedAddresses db workerId

theorem freeVmIp_least {worker : Worker} {used : List Nat} {ip : Nat} (found : Incus.freeVmIp worker used = .ok ip) :
    worker.ipPoolStart ≤ ip ∧ ip < worker.ipPoolBroadcast ∧ ip ∉ used ∧
      ∀ candidate, worker.ipPoolStart ≤ candidate → candidate < ip → candidate ∈ used := by
  have unused := Incus.freeVmIp_not_mem found
  unfold Incus.freeVmIp at found
  split at found
  · rename_i candidate search
    cases found
    obtain ⟨-, member, before⟩ := List.find?_range'_eq_some.mp search
    rw [List.mem_range'_1] at member
    refine ⟨member.1, by omega, unused, ?_⟩
    intro candidate above below
    simpa using before candidate above below
  · cases found

theorem freeVmIp_fails {worker : Worker} {used : List Nat} {error : PyError}
    (failed : Incus.freeVmIp worker used = .error error) {candidate : Nat} (above : worker.ipPoolStart ≤ candidate)
    (below : candidate < worker.ipPoolBroadcast) : candidate ∈ used := by
  by_contra unused
  obtain ⟨ip, found⟩ := Incus.freeVmIp_of_unused above below unused
  rw [failed] at found
  cases found

/-- What a pool is for: the least free host of the network from the start on. -/
structure PoolSound (network : Network) (start : Nat) (used : List Nat) (outcome : Except PyError Nat) : Prop where
  returned : ∀ ip, outcome = .ok ip →
    network.contains ip = true ∧ ip ≠ network.first ∧ ip ≠ network.broadcast ∧ start ≤ ip ∧ ip ∉ used ∧
      ∀ candidate, start ≤ candidate → candidate < ip → candidate ∈ used
  raised : ∀ error, outcome = .error error →
    ∀ host, network.first < host → host < network.broadcast → start ≤ host → host ∈ used

theorem poolSound_iff {worker : Worker} {network : Network} (broadcast : worker.ipPoolBroadcast = network.broadcast)
    (used : List Nat) :
    PoolSound network worker.ipPoolStart used (Incus.freeVmIp worker used) ↔
      ∀ ip, worker.ipPoolStart ≤ ip → ip ≤ network.first → ip < network.broadcast → ip ∈ used := by
  cases outcome : Incus.freeVmIp worker used with
  | error error =>
      have all : ∀ candidate, worker.ipPoolStart ≤ candidate → candidate < network.broadcast → candidate ∈ used := by
        rw [← broadcast]
        exact fun _ => freeVmIp_fails outcome
      constructor
      · intro _ ip above _ below
        exact all ip above below
      · intro _
        refine ⟨fun _ returned => (nomatch returned), ?_⟩
        intro _ _ host _ below above
        exact all host above below
  | ok found =>
      obtain ⟨above, below, unused, least⟩ := freeVmIp_least outcome
      rw [broadcast] at below
      constructor
      · intro sound ip start low _
        obtain ⟨inside, network_address, -⟩ := sound.returned found rfl
        have bounds := Network.contains_iff.mp inside
        exact least ip start (by omega)
      · intro low
        refine ⟨?_, fun _ raised => (nomatch raised)⟩
        intro ip returned
        cases returned
        have beyond : network.first < found := by
          by_contra under
          exact unused (low found above (by omega) below)
        exact ⟨Network.contains_iff.mpr ⟨by omega, by omega⟩, by omega, by omega, above, unused, least⟩

/-- For every combination of given and omitted settings, and whatever is in use. -/
theorem allocateVmIp_sound_iff {settings : WorkerSettings} {before : Db} {request : WorkerRegisterRequest}
    {registered : RegisteredWorker} (accepted : registerWorker settings before request = .ok registered)
    (parses : Lan.strictNetwork (.v4 registered.ipPoolNetwork) = .ok (.v4 registered.ipPoolNetwork)) (db : Db) (workerId : Nat) :
    let network := request.ipPoolNetwork.getD settings.ipPoolNetwork
    let start := request.ipPoolStart.getD settings.ipPoolStart
    PoolSound network start (vmIpsInUse db workerId) ((allocateVmIp registered db workerId).map Prod.snd) ↔
      ∀ ip, start ≤ ip → ip ≤ network.first → ip < network.broadcast → ip ∈ vmIpsInUse db workerId := by
  intro network start
  have same : registered.ipPoolNetwork = network ∧ registered.worker.ipPoolStart = start := by
    unfold registerWorker at accepted
    split at accepted
    · cases accepted
    · cases accepted
      exact ⟨rfl, rfl⟩
  have outcome : (allocateVmIp registered db workerId).map Prod.snd =
      Incus.freeVmIp registered.worker (vmIpsInUse db workerId) := by
    rw [allocateVmIp, parses]
    simp only [Incus.allocateVmIp, vmIpsInUse]
    split <;> rename_i search <;> rw [search] <;> rfl
  rw [outcome, ← same.1, ← same.2]
  exact poolSound_iff registered.broadcast (vmIpsInUse db workerId)

def registered (ipPoolNetwork : Option Network) (ipPoolStart : Option Nat) : WorkerRegisterRequest :=
  ⟨"w1", none, none, none, none, ipPoolNetwork, ipPoolStart⟩

def defaultWorker : RegisteredWorker where
  worker := ⟨"w1", "w1", "", true, none, 51001, 52000, 168493055, 168427786⟩
  ipPoolNetwork := ⟨168427520, 16⟩
  broadcast := by decide

theorem allocateVmIp_sound_iff_defaults :
    PoolSound ⟨168427520, 16⟩ 168427786 (vmIpsInUse Db.empty 1) ((allocateVmIp defaultWorker Db.empty 1).map Prod.snd) ↔
      ∀ ip, 168427786 ≤ ip → ip ≤ Network.first ⟨168427520, 16⟩ → ip < Network.broadcast ⟨168427520, 16⟩ →
        ip ∈ vmIpsInUse Db.empty 1 := by
  have accepted : registerWorker defaultWorkerSettings Db.empty (registered none none) = .ok defaultWorker := by rfl
  exact allocateVmIp_sound_iff accepted rfl Db.empty 1

/-- A worker with a network of its own, 10.20.0.0/16, is given 10.10.1.10. -/
theorem vm_ip_outside_network :
    ∃ row, registerWorker defaultWorkerSettings Db.empty (registered (some ⟨169082880, 16⟩) none) = .ok row ∧
      (allocateVmIp row Db.empty 1).map Prod.snd = .ok 168427786 ∧
        ¬PoolSound ⟨169082880, 16⟩ 168427786 (vmIpsInUse Db.empty 1) ((allocateVmIp row Db.empty 1).map Prod.snd) := by
  refine ⟨_, rfl, ?_, ?_⟩
  · rfl
  · intro sound
    have inside := (sound.returned 168427786 rfl).1
    cases inside

end DeepOrc.Services
