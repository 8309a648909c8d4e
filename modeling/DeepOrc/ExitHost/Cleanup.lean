import DeepOrc.ExitHost.Host
import Mathlib.Data.List.Dedup
import Mathlib.Data.List.Sort
import Mathlib.Data.Char
import Mathlib.Data.List.Lex

/-!
# `exit_host_cleanup.sh`

The commands the script runs on a host, each computed from the host as it is when its turn comes. The iptables rules
it deletes are not part of the host here, and nothing that it deletes depends on them.
-/

namespace DeepOrc.ExitHost

/-- `[[ … =~ ^deeporc-([0-9]+)$ ]]` -/
def tableNumeric (table : Text) : Text :=
  let slot := table.drop 8
  if startsWith table "deeporc-".toList && !slot.isEmpty && slot.all Char.isDigit then slot else table

/-- `/lookup/ && ($NF == …)`, with the test of the last field. -/
def looksUp (host : Host) (lastField : Text → Bool) (rule : Rule) : Bool :=
  let words := rule.words host
  words.any (fun word => mentions word "lookup".toList) && lastField (words.getLast?.getD [])

def deleteRulesForTable (host : Host) (table : Text) : List Command :=
  let numeric := tableNumeric table
  (host.rules.filter (looksUp host fun field => awkEqual field table || awkEqual field numeric)).map fun rule =>
    .ruleDel rule.pref

def dropTable (host : Host) (table : Text) : List Command := deleteRulesForTable host table ++ [.routeFlush table]

/-- The glob `wg-gw*.conf` is the only place that looks at the name. -/
def deeporcWgIfaces (host : Host) : List Text :=
  (host.wireguard ++ host.configs.filter fun name => startsWith name "wg-gw".toList).dedup.insertionSort (· ≤ ·)

def isMac (name : Text) : Bool :=
  let slot := name.drop 4
  startsWith name "mac_".toList && !slot.isEmpty && slot.all Char.isDigit

def deeporcMacIfaces (host : Host) : List Text := host.macvlans.filter isMac

/-- The first fields of the lines that mention deeporc, in whichever field or comment. -/
def deeporcTableIds (host : Host) : List Text :=
  (host.rtTables.filter fun line => mentions line "deeporc".toList).filterMap fun line => (fields line).head?

/-- The last field of the first rule for the interface. -/
def tableForWg (host : Host) (wgIf : Text) : Option Text :=
  (host.rules.find? fun rule => rule.iif = some wgIf && looksUp host (fun _ => true) rule).map fun rule =>
    tableNumeric ((rule.words host).getLast?.getD [])

def tableForMac (host : Host) (mac : Text) : Option Text :=
  let slot := mac.drop 4
  if host.rules.any (looksUp host fun field => awkEqual field slot || field = "deeporc-".toList ++ slot) then some slot
  else none

def cleanupWg (host : Host) (wgIf : Text) : List Command :=
  let down : List Command := [.wgQuickDown wgIf, .linkDel wgIf, .rmConfig wgIf]
  match tableForWg host wgIf with
  | none => down
  | some table => down ++ dropTable (execute host down) table

def cleanupMac (host : Host) (mac : Text) : List Command :=
  match tableForMac host mac with
  | none => [.linkDel mac]
  | some table => dropTable host table ++ [.linkDel mac]

def wgCommands (host : Host) : List Command := Lib.Commands.each Command.run cleanupWg host (deeporcWgIfaces host)

def macCommands (host : Host) : List Command := Lib.Commands.each Command.run cleanupMac host (deeporcMacIfaces host)

def tableCommands (host : Host) : List Command := Lib.Commands.each Command.run dropTable host (deeporcTableIds host)

/-- `main`, without `--dry-run`. -/
def cleanupCommands (host : Host) : List Command :=
  let noWg := execute host (wgCommands host)
  let noMac := execute noWg (macCommands noWg)
  let noTables := execute noMac (tableCommands noMac)
  wgCommands host ++ macCommands noWg ++ tableCommands noMac ++ (deeporcTableIds noTables).map .forgetTable

def cleanup (host : Host) : Host := execute host (cleanupCommands host)

end DeepOrc.ExitHost
