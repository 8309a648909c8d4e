import DeepOrc.HostSetup.Rendering

/-!
# Which failures the setup script reports

The block of a gateway is one subshell on the left of `|| echo 'FAILED: …'`, so `set -e` does not hold in it and its
status is that of its last command.
-/

namespace DeepOrc.HostSetup

open Lib.Text (given)
open Lib.ShellStatus

/-- What the line of an entry prints where the commands of its block work as given. -/
def entryReports (works : Nat → Nat → Bool) (group : Lan.PeerGroup) (entry : Entry) : List String :=
  match exitHostBlock group entry with
  | some block => if run false works 0 true block then [] else [s!"FAILED: {entry.1.name}"]
  | none => []

variable {works : Nat → Nat → Bool} {group : Lan.PeerGroup} {entry : Entry}

/-! ### What is reported -/

/-- The last command of a block looks for the masquerading of the macvlan interface, or tells that there is no WireGuard. -/
theorem lastFails_blockLists {lanIp : String} {slot : Int} (address : given entry.1.lanIp = some lanIp)
    (place : entry.1.macvlanSlot = some slot) : lastFails works (blockLists group entry) =
      if entry.1.status = .ready ∧ validWgConf entry.2 = true then !(works 21 0 || works 21 1) else !works 11 0 := by
  rw [blockLists_eq group address place]
  unfold backhaulLines
  by_cases ready : entry.1.status = .ready
  · by_cases valid : validWgConf entry.2 = true
    · simp [ready, valid, lastFails, macvlanLines, wireguardLines, writeWgConfLines, AndOr.succeeds]
    · simp [ready, valid, lastFails, macvlanLines, AndOr.succeeds]
  · simp [ready, lastFails, macvlanLines, AndOr.succeeds]

/-- The line of an entry reports a failure exactly if the last list of the block fails. -/
theorem reported_iff : s!"FAILED: {entry.1.name}" ∈ entryReports works group entry ↔
    lastFails works (blockLists group entry) = true := by
  unfold entryReports blockLists
  cases exitHostBlock group entry with
  | none => simp [lastFails]
  | some block =>
      dsimp only [Option.getD_some]
      rw [run_false]
      cases lastFails works block with
      | false => simp
      | true => simp

/-- A failure is reported exactly if the last list of the block fails too. -/
theorem failure_reported_iff (behind : Bool) (works : Nat → Nat → Bool) (group : Lan.PeerGroup) (entry : Entry) :
    (failures behind works 0 (blockLists group entry) ≠ [] →
        s!"FAILED: {entry.1.name}" ∈ entryReports works group entry) ↔
      failures behind works 0 (blockLists group entry) = [] ∨ lastFails works (blockLists group entry) = true := by
  rw [reported_iff]
  constructor
  · intro reported
    by_cases quiet : failures behind works 0 (blockLists group entry) = []
    · exact .inl quiet
    · exact .inr (reported quiet)
  · rintro (quiet | last) failed
    · exact absurd quiet failed
    · exact last

/-- Under `set -e` the block would fail with any of its commands. -/
theorem errexit_reports (works : Nat → Nat → Bool) (group : Lan.PeerGroup) (entry : Entry) :
    run true works 0 true (blockLists group entry) = true ↔ failures true works 0 (blockLists group entry) = [] :=
  run_true (blockLists group entry) 0

/-! ### A gateway whose interface is not made -/

def exitGroup : Lan.PeerGroup := ⟨"lab", 1, .v4 ⟨0xC0A80D00, 24⟩, .v4 0xC0A80D64, "192.168.13.254", none⟩

def readyEntry : Entry :=
  (⟨"gw-000", .ready, some "192.168.13.100", some 1⟩, some "[Interface]\nPrivateKey = k\n[Peer]\nPublicKey = p\n")

/-- Only `ip link add` fails, and nothing is reported. -/
theorem link_failure_unreported : ¬ ∀ (works : Nat → Nat → Bool) (group : Lan.PeerGroup) (entry : Entry),
    failures false works 0 (blockLists group entry) ≠ [] → s!"FAILED: {entry.1.name}" ∈ entryReports works group entry := by
  intro reports
  have failed : failures false (fun n _ => n != 2) 0 (blockLists exitGroup readyEntry) ≠ [] := by decide +kernel
  have quiet : entryReports (fun n _ => n != 2) exitGroup readyEntry = [] := by decide +kernel
  have reported := reports (fun n _ => n != 2) exitGroup readyEntry failed
  rw [quiet] at reported
  cases reported

end DeepOrc.HostSetup
