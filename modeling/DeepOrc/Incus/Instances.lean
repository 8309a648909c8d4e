import DeepOrc.Models
import Mathlib.Logic.Function.Basic

/-!
# Gateway instances on a worker

An Incus call may fail before or after it took effect. Instances are kept by name, with the two devices
the orchestrator sets.
-/

namespace DeepOrc.Incus

open Models

structure Instance where
  staticIp : Option Nat
  proxyPort : Option Nat
deriving DecidableEq, Repr

abbrev Host := String → Option Instance

inductive CallOutcome where
  | done
  | failed (error : PyError)
  | lost (error : PyError)
deriving DecidableEq

/-- One call and, unless it raised, what comes after it. -/
def CallOutcome.run (outcome : CallOutcome) (effect : Host → Host) (next : Host → Host × Except PyError Unit)
    (host : Host) : Host × Except PyError Unit :=
  match outcome with
  | .done => next (effect host)
  | .failed error => (host, .error error)
  | .lost error => (effect host, .error error)

def finished (host : Host) : Host × Except PyError Unit := (host, .ok ())

structure LaunchCalls where
  connect : CallOutcome
  getInstance : CallOutcome
  createInstance : CallOutcome
  setStaticIp : CallOutcome
  addWgProxy : CallOutcome
  ensureSnat : CallOutcome
  getInstanceState : CallOutcome
  startInstance : CallOutcome
  runScript : CallOutcome
  getLaunched : CallOutcome

def createInstance (name : String) (host : Host) : Host := Function.update host name (some ⟨none, none⟩)

def changeInstance (name : String) (change : Instance → Instance) (host : Host) : Host :=
  Function.update host name ((host name).map change)

def setStaticIp (name : String) (vmIp : Nat) : Host → Host :=
  changeInstance name fun row => { row with staticIp := some vmIp }

def addWgProxy (name : String) (udpPort : Nat) : Host → Host :=
  changeInstance name fun row => { row with proxyPort := some udpPort }

/-- Only an instance that answers 404 is created. -/
def createIfMissing (outcome : CallOutcome) (name : String) (next : Host → Host × Except PyError Unit) (host : Host) :
    Host × Except PyError Unit :=
  if (host name).isSome then next host else outcome.run (createInstance name) next host

def startAndSetUp (calls : LaunchCalls) : Host → Host × Except PyError Unit :=
  calls.ensureSnat.run id <| calls.getInstanceState.run id <| calls.startInstance.run id <|
    calls.runScript.run id <| calls.getLaunched.run id finished

def setDevices (calls : LaunchCalls) (name : String) (vmIp udpPort : Nat) : Host → Host × Except PyError Unit :=
  calls.setStaticIp.run (setStaticIp name vmIp) <| calls.addWgProxy.run (addWgProxy name udpPort) <|
    startAndSetUp calls

def launchGatewayVm (calls : LaunchCalls) (name : String) (vmIp udpPort : Nat) : Host → Host × Except PyError Unit :=
  calls.connect.run id <| calls.getInstance.run id <| createIfMissing calls.createInstance name <|
    setDevices calls name vmIp udpPort

structure RemovalCalls where
  connect : CallOutcome
  deleteInstance : CallOutcome

def deleteInstance (name : String) (host : Host) : Host := Function.update host name none

/-- `delete_gateway_vm`: whatever the stop before it answers, the instance is deleted. -/
def deleteGatewayVm (calls : RemovalCalls) (name : String) : Host → Host × Except PyError Unit :=
  calls.connect.run id <| calls.deleteInstance.run (deleteInstance name) finished

/-! ### What stays true through a series of calls -/

theorem run_keeps {holds : Host → Prop} {effect : Host → Host} {next : Host → Host × Except PyError Unit}
    (outcome : CallOutcome) (kept : ∀ host, holds host → holds (effect host))
    (later : ∀ host, holds host → holds (next host).1) (host : Host) (before : holds host) :
    holds (outcome.run effect next host).1 := by
  cases outcome with
  | done => exact later _ (kept host before)
  | failed error => exact before
  | lost error => exact kept host before

def Fits (vmIp udpPort : Nat) (row : Instance) : Prop :=
  (∀ ip, row.staticIp = some ip → ip = vmIp) ∧ ∀ port, row.proxyPort = some port → port = udpPort

def Bare (row : Instance) : Prop := row.staticIp = none ∧ row.proxyPort = none

theorem fits_of_bare {row : Instance} (bare : Bare row) (vmIp udpPort : Nat) : Fits vmIp udpPort row := by
  constructor
  · intro ip found
    rw [bare.1] at found
    cases found
  · intro port found
    rw [bare.2] at found
    cases found

/-- Only the launched instance changes, and it is given no other address and port than the gateway's. -/
def Launched (before : Host) (name : String) (vmIp udpPort : Nat) (host : Host) : Prop :=
  (∀ other, other ≠ name → host other = before other) ∧ ∀ row, host name = some row → Fits vmIp udpPort row

theorem launched_change {before host : Host} {name : String} {vmIp udpPort : Nat} {change : Instance → Instance}
    (fits : ∀ row, Fits vmIp udpPort row → Fits vmIp udpPort (change row))
    (launched : Launched before name vmIp udpPort host) :
    Launched before name vmIp udpPort (changeInstance name change host) := by
  constructor
  · intro other different
    rw [changeInstance, Function.update_of_ne different]
    exact launched.1 other different
  · intro row found
    rw [changeInstance, Function.update_self] at found
    obtain ⟨earlier, present, rfl⟩ := Option.map_eq_some_iff.mp found
    exact fits earlier (launched.2 earlier present)

theorem launched_create {before host : Host} {name : String} {vmIp udpPort : Nat}
    (launched : Launched before name vmIp udpPort host) :
    Launched before name vmIp udpPort (createInstance name host) := by
  constructor
  · intro other different
    rw [createInstance, Function.update_of_ne different]
    exact launched.1 other different
  · intro row found
    rw [createInstance, Function.update_self] at found
    cases found
    exact fits_of_bare ⟨rfl, rfl⟩ vmIp udpPort

theorem launched_setDevices (calls : LaunchCalls) {before : Host} {name : String} {vmIp udpPort : Nat} (host : Host)
    (launched : Launched before name vmIp udpPort host) :
    Launched before name vmIp udpPort (setDevices calls name vmIp udpPort host).1 := by
  have unchanged : ∀ current, Launched before name vmIp udpPort current →
      Launched before name vmIp udpPort (id current) := fun _ same => same
  have started : ∀ current, Launched before name vmIp udpPort current →
      Launched before name vmIp udpPort (startAndSetUp calls current).1 :=
    run_keeps _ unchanged <| run_keeps _ unchanged <| run_keeps _ unchanged <| run_keeps _ unchanged <|
      run_keeps _ unchanged fun _ same => same
  refine run_keeps _ ?_ (run_keeps _ ?_ started) host launched
  · intro current
    apply launched_change
    intro row fits
    exact ⟨fun ip found => (Option.some.inj found).symm, fits.2⟩
  · intro current
    apply launched_change
    intro row fits
    exact ⟨fits.1, fun port found => (Option.some.inj found).symm⟩

theorem launched_launchGatewayVm (calls : LaunchCalls) {name : String} {vmIp udpPort : Nat} {host : Host}
    (fits : ∀ row, host name = some row → Fits vmIp udpPort row) :
    Launched host name vmIp udpPort (launchGatewayVm calls name vmIp udpPort host).1 := by
  have created : ∀ current, Launched host name vmIp udpPort current → Launched host name vmIp udpPort
      (createIfMissing calls.createInstance name (setDevices calls name vmIp udpPort) current).1 := by
    intro current launched
    unfold createIfMissing
    split
    · exact launched_setDevices calls current launched
    · exact run_keeps _ (fun _ => launched_create) (launched_setDevices calls) current launched
  exact run_keeps _ (fun _ same => same) (run_keeps _ (fun _ same => same) created) host ⟨fun _ _ => rfl, fits⟩

/-- A deletion leaves no instance that was not there before. -/
theorem deleteGatewayVm_some {calls : RemovalCalls} {name other : String} {host : Host} {row : Instance}
    (found : (deleteGatewayVm calls name host).1 other = some row) : host other = some row := by
  have fewer : ∀ current : Host, (∀ row, current other = some row → host other = some row) →
      ∀ row, (calls.deleteInstance.run (deleteInstance name) finished current).1 other = some row →
        host other = some row := by
    refine run_keeps _ ?_ fun _ same => same
    intro current earlier row kept
    by_cases own : other = name
    · subst own
      rw [deleteInstance, Function.update_self] at kept
      cases kept
    · rw [deleteInstance, Function.update_of_ne own] at kept
      exact earlier row kept
  exact run_keeps _ (fun _ same => same) fewer host (fun _ same => same) row found

/-- Unless a call before the deletion took effect failed, the instance is gone. -/
theorem deleteGatewayVm_self {calls : RemovalCalls} (connected : calls.connect = .done)
    (deleted : ∀ error, calls.deleteInstance ≠ .failed error) (name : String) (host : Host) :
    (deleteGatewayVm calls name host).1 name = none := by
  unfold deleteGatewayVm
  rw [connected]
  cases outcome : calls.deleteInstance with
  | failed error => exact absurd outcome (deleted error)
  | done => simp [CallOutcome.run, finished, deleteInstance]
  | lost error => simp [CallOutcome.run, deleteInstance]

end DeepOrc.Incus
