import DeepOrc.Lib.Commands
import Mathlib.Data.List.Infix

/-!
# An exit host

Its links, its WireGuard configuration files, its IPv4 rules and routes, and the file that names routing tables, with
the commands that take such things away. What `ip` prints and takes as a table's name is text.
-/

namespace DeepOrc.ExitHost

abbrev Text := List Char

/-! ### Text -/

def isBlank (c : Char) : Bool := c ∈ [' ', '\t', '\n']

/-- The fields of a line in `awk`. -/
def fields (line : Text) : List Text := (line.splitOnP isBlank).filter fun field => field ≠ []

/-- `awk` or `[[ … =~ … ]]` with plain text as the pattern. -/
def mentions (line part : Text) : Bool := decide (part <:+: line)

def startsWith (text start : Text) : Bool := start.isPrefixOf text

/-- `sed` with `^[[:space:]]*…[[:space:]]` around the field. -/
def beginsWithField (line field : Text) : Bool :=
  let text := line.dropWhile isBlank
  startsWith text field && (text.drop field.length).head?.any isBlank

def digitValue (c : Char) : Nat := if c.isDigit then c.toNat - 48 else c.toLower.toNat - 87

/-- A number in digits below the base; no digits are no number. -/
def parseNumber (base : Nat) (digits : Text) : Option Nat :=
  if digits ≠ [] ∧ digits.all (fun c => c.isAlphanum && digitValue c < base) then
    some (digits.foldl (fun value c => base * value + digitValue c) 0)
  else none

def decimal (text : Text) : Option Nat := parseNumber 10 text

/-- `strtoul` with base 0. -/
def strtoul : Text → Option Nat
  | '0' :: 'x' :: digits => parseNumber 16 digits
  | '0' :: digits => parseNumber 8 ('0' :: digits)
  | digits => parseNumber 10 digits

/-- `==` of `awk` on a field: two numbers are compared as numbers. -/
def awkEqual (one other : Text) : Bool :=
  match decimal one, decimal other with
  | some one, some other => one = other
  | _, _ => one = other

/-! ### Rules and routes -/

inductive Action where
  | lookup (table : Nat)
  /-- `blackhole`, `goto 100` and so on. -/
  | other (words : List Text)
deriving DecidableEq

structure Rule where
  pref : Nat
  selector : List Text
  iif : Option Text
  action : Action
  /-- As in `lookup main suppress_prefixlength 0`. -/
  options : List Text
deriving DecidableEq

structure Route where
  table : Nat
  destination : Text
  dev : Text
deriving DecidableEq

/-- A configuration is listed by the name of its interface. Rules stand in the order of `ip rule show`. -/
structure Host where
  wireguard : List Text
  configs : List Text
  macvlans : List Text
  rules : List Rule
  routes : List Route
  rtTables : List Text
deriving DecidableEq

/-! ### Names of tables -/

/-- What `ip` reads from a line of rt_tables. -/
def registration (line : Text) : Option (Nat × Text) :=
  match fields line with
  | id :: name :: _ =>
      let number := if startsWith id ['0', 'x'] then parseNumber 16 (id.drop 2) else decimal id
      number.map fun number => (number, name)
  | _ => none

def builtinTables : List (Nat × Text) :=
  [(255, "local".toList), (254, "main".toList), (253, "default".toList)]

/-- A later registration of a number replaces an earlier one. -/
def Host.tableNames (host : Host) : List (Nat × Text) := (host.rtTables.filterMap registration).reverse ++ builtinTables

def Host.tableName (host : Host) (table : Nat) : Text :=
  match host.tableNames.find? fun entry => entry.1 = table with
  | some (_, name) => name
  | none => (toString table).toList

def Host.tableNumber (host : Host) (text : Text) : Option Nat :=
  match host.tableNames.find? fun entry => entry.2 = text with
  | some (number, _) => some number
  | none => strtoul text

/-- A rule as `ip rule show` prints it, in fields. -/
def Rule.words (host : Host) (rule : Rule) : List Text :=
  ((toString rule.pref).toList ++ [':']) :: rule.selector ++
    (match rule.iif with
      | none => []
      | some iif => ["iif".toList, iif]) ++
    (match rule.action with
      | .lookup table => ["lookup".toList, host.tableName table]
      | .other words => words) ++
    rule.options

/-! ### Commands -/

inductive Command where
  | wgQuickDown (name : Text)
  | linkDel (name : Text)
  | rmConfig (name : Text)
  | ruleDel (pref : Nat)
  | routeFlush (table : Text)
  | forgetTable (id : Text)

/-- Routes through a link go with it. -/
def Host.linkDel (host : Host) (name : Text) : Host :=
  if name ∈ host.wireguard ∨ name ∈ host.macvlans then
    { host with
      wireguard := host.wireguard.filter fun other => other ≠ name
      macvlans := host.macvlans.filter fun other => other ≠ name
      routes := host.routes.filter fun route => route.dev ≠ name }
  else host

/-- Of an interface that is up and configured, with a configuration that has no hooks and routes no default. -/
def Host.wgQuickDown (host : Host) (name : Text) : Host :=
  if name ∈ host.configs ∧ name ∈ host.wireguard then host.linkDel name else host

/-- Number 0 and `all` stand for every table. -/
def Host.flushes (host : Host) (table : Text) (route : Route) : Bool :=
  match host.tableNumber table with
  | some number => number = 0 || route.table = number
  | none => table = "all".toList

def Command.run : Command → Host → Host
  | .wgQuickDown name, host => host.wgQuickDown name
  | .linkDel name, host => host.linkDel name
  | .rmConfig name, host => { host with configs := host.configs.filter fun other => other ≠ name }
  -- the first rule that has the preference, whatever else it says
  | .ruleDel pref, host => { host with rules := host.rules.eraseP fun rule => rule.pref = pref }
  | .routeFlush table, host => { host with routes := host.routes.filter fun route => !host.flushes table route }
  | .forgetTable id, host => { host with rtTables := host.rtTables.filter fun line => !beginsWithField line id }

abbrev execute (host : Host) (commands : List Command) : Host := Lib.Commands.execute Command.run host commands

end DeepOrc.ExitHost
