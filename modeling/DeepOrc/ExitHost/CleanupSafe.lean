import DeepOrc.ExitHost.Cleanup

/-!
# Hosts that the cleanup is safe on

Everything the script does takes something away. What it takes is decided by the links, rules, routes and names of tables
that are there at the start.
-/

namespace DeepOrc.ExitHost

open Lib.Commands (Taking)

/-! ### What is deepOrc's -/

def isGatewayIface (name : Text) : Bool := startsWith name "wg-gw".toList

/-- The table is registered under a name with deeporc in it. -/
def Host.registered (host : Host) (table : Nat) : Bool :=
  (host.rtTables.filterMap registration).any fun entry => entry.1 = table && mentions entry.2 "deeporc".toList

/-- The table's number is that of a `mac_<n>` link. -/
def Host.macTable (host : Host) (table : Nat) : Bool :=
  host.macvlans.any fun name => isMac name && decimal (name.drop 4) = some table

/-- A rule for a gateway's interface looks the table up. -/
def Host.gatewayTable (host : Host) (table : Nat) : Bool :=
  host.rules.any fun rule => rule.iif.any isGatewayIface && rule.action = .lookup table

def Host.deeporcTable (host : Host) (table : Nat) : Bool :=
  host.registered table || host.macTable table || host.gatewayTable table

def Host.deeporcRule (host : Host) (rule : Rule) : Bool :=
  match rule.action with
  | .lookup table => host.deeporcTable table
  | .other _ => false

/-- What of a host is not deepOrc's by the names and tables of `host`. -/
def Host.foreign (host other : Host) : Host where
  wireguard := other.wireguard.filter fun name => !isGatewayIface name
  configs := other.configs.filter fun name => !isGatewayIface name
  macvlans := other.macvlans.filter fun name => !isMac name
  rules := other.rules.filter fun rule => !host.deeporcRule rule
  routes := other.routes.filter fun route => !host.deeporcTable route.table
  rtTables := []

/-! ### Each command only takes away -/

theorem execute_append (host : Host) (commands later : List Command) :
    execute host (commands ++ later) = execute (execute host commands) later := Lib.Commands.execute_append commands later

structure Below (after host : Host) : Prop where
  wireguard : after.wireguard.Sublist host.wireguard
  configs : after.configs.Sublist host.configs
  macvlans : after.macvlans.Sublist host.macvlans
  rules : after.rules.Sublist host.rules
  routes : after.routes.Sublist host.routes

theorem Below.refl (host : Host) : Below host host := ⟨.refl _, .refl _, .refl _, .refl _, .refl _⟩

theorem Below.trans {first second third : Host} (lower : Below third second) (upper : Below second first) :
    Below third first :=
  ⟨lower.wireguard.trans upper.wireguard, lower.configs.trans upper.configs, lower.macvlans.trans upper.macvlans,
    lower.rules.trans upper.rules, lower.routes.trans upper.routes⟩

theorem linkDel_below (host : Host) (name : Text) : Below (host.linkDel name) host := by
  unfold Host.linkDel
  split
  · exact ⟨List.filter_sublist, .refl _, List.filter_sublist, .refl _, List.filter_sublist⟩
  · exact .refl host

theorem run_below (command : Command) (host : Host) : Below (command.run host) host := by
  cases command with
  | wgQuickDown name =>
      change Below (host.wgQuickDown name) host
      unfold Host.wgQuickDown
      split
      · exact linkDel_below host name
      · exact .refl host
  | linkDel name => exact linkDel_below host name
  | rmConfig name => exact ⟨.refl _, List.filter_sublist, .refl _, .refl _, .refl _⟩
  | ruleDel pref => exact ⟨.refl _, .refl _, .refl _, List.eraseP_sublist, .refl _⟩
  | routeFlush table => exact ⟨.refl _, .refl _, .refl _, .refl _, List.filter_sublist⟩
  | forgetTable id => exact ⟨.refl _, .refl _, .refl _, .refl _, .refl _⟩

theorem filter_between {α : Type*} {first second third : List α} (wanted : α → Bool) (upper : second.Sublist first)
    (lower : third.Sublist second) (same : third.filter wanted = first.filter wanted) :
    second.filter wanted = first.filter wanted := by
  refine (upper.filter wanted).eq_of_length_le ?_
  rw [← same]
  exact (lower.filter wanted).length_le

theorem taking (host : Host) : Taking Command.run Below host.foreign where
  refl := .refl
  trans := .trans
  takes := run_below
  between := by
    intro first second third upper lower same
    simp only [Host.foreign, Host.mk.injEq, and_true] at same ⊢
    obtain ⟨wireguard, configs, macvlans, rules, routes⟩ := same
    exact ⟨filter_between _ upper.wireguard lower.wireguard wireguard,
      filter_between _ upper.configs lower.configs configs,
      filter_between _ upper.macvlans lower.macvlans macvlans,
      filter_between _ upper.rules lower.rules rules,
      filter_between _ upper.routes lower.routes routes⟩

/-! ### What the script takes for deepOrc's -/

theorem mem_deeporcWgIfaces {host : Host} {name : Text} :
    name ∈ deeporcWgIfaces host ↔ name ∈ host.wireguard ∨ name ∈ host.configs ∧ isGatewayIface name = true := by
  simp only [deeporcWgIfaces, List.mem_insertionSort, List.mem_dedup, List.mem_append, List.mem_filter, isGatewayIface]

def Host.lastWord (host : Host) (rule : Rule) : Text := (rule.words host).getLast?.getD []

/-- The rules that are listed for deletion with a table. -/
def Host.matched (host : Host) (table : Text) : Rule → Bool :=
  looksUp host fun field => awkEqual field table || awkEqual field (tableNumeric table)

/-- The rules that `_table_for_mac` looks for. -/
def Host.forMac (host : Host) (slot : Text) : Rule → Bool :=
  looksUp host fun field => awkEqual field slot || field = "deeporc-".toList ++ slot

/-- The texts that the script may take for one of deepOrc's tables: the last word of a rule for a listed interface, the
number of a macvlan that a rule ends with, and the first field of a line that mentions deeporc. -/
def Host.tables (host : Host) : List Text :=
  (host.rules.filter fun rule => rule.iif.any (deeporcWgIfaces host).contains && looksUp host (fun _ => true) rule).map
      (fun rule => tableNumeric (host.lastWord rule)) ++
    ((deeporcMacIfaces host).map (List.drop 4)).filter (fun slot => host.rules.any (host.forMac slot)) ++
    deeporcTableIds host

section Tables

variable {host : Host} {name table : Text} {rule : Rule}

theorem mem_tables : table ∈ host.tables ↔
    (∃ rule ∈ host.rules, ∃ name ∈ deeporcWgIfaces host, rule.iif = some name ∧
      looksUp host (fun _ => true) rule = true ∧ table = tableNumeric (host.lastWord rule)) ∨
    (∃ name ∈ host.macvlans, isMac name = true ∧ table = name.drop 4 ∧
      ∃ rule ∈ host.rules, host.forMac (name.drop 4) rule = true) ∨
    table ∈ deeporcTableIds host := by
  unfold Host.tables
  simp only [List.mem_append, List.mem_map, List.mem_filter, Bool.and_eq_true, Option.any_eq_true, List.any_eq_true,
    List.contains_iff_mem, deeporcMacIfaces, or_assoc]
  constructor
  · rintro (⟨rule, ⟨present, ⟨name, iif, listed⟩, lookup⟩, rfl⟩ | ⟨⟨name, ⟨up, numbered⟩, rfl⟩, some_rule⟩ | listed)
    · exact .inl ⟨rule, present, name, listed, iif, lookup, rfl⟩
    · exact .inr (.inl ⟨name, up, numbered, rfl, some_rule⟩)
    · exact .inr (.inr listed)
  · rintro (⟨rule, present, name, listed, iif, lookup, rfl⟩ | ⟨name, up, numbered, rfl, some_rule⟩ | listed)
    · exact .inl ⟨rule, ⟨present, ⟨name, iif, listed⟩, lookup⟩, rfl⟩
    · exact .inr (.inl ⟨⟨name, ⟨up, numbered⟩, rfl⟩, some_rule⟩)
    · exact .inr (.inr listed)

theorem mem_tables_wg (listed : name ∈ deeporcWgIfaces host) (present : rule ∈ host.rules) (iif : rule.iif = some name)
    (lookup : looksUp host (fun _ => true) rule = true) : tableNumeric (host.lastWord rule) ∈ host.tables :=
  mem_tables.mpr (.inl ⟨rule, present, name, listed, iif, lookup, rfl⟩)

theorem mem_tables_mac (up : name ∈ host.macvlans) (numbered : isMac name = true) (present : rule ∈ host.rules)
    (lookup : host.forMac (name.drop 4) rule = true) : name.drop 4 ∈ host.tables :=
  mem_tables.mpr (.inr (.inl ⟨name, up, numbered, rfl, rule, present, lookup⟩))

theorem mem_tables_id (listed : table ∈ deeporcTableIds host) : table ∈ host.tables :=
  mem_tables.mpr (.inr (.inr listed))

end Tables

/-- What the script looks for finds deepOrc's only. Rules are deleted by preference from the front, so a rule must be
deepOrc's too if it shares its preference with a later one that is listed. -/
@[mk_iff]
structure Safe (host : Host) : Prop where
  interfaces : ∀ name ∈ host.wireguard, isGatewayIface name = true
  macvlans : ∀ name ∈ host.macvlans, name ∉ deeporcWgIfaces host
  routes : ∀ route ∈ host.routes, host.deeporcTable route.table = false →
    route.dev ∉ host.wireguard ∧ (route.dev ∈ host.macvlans → isMac route.dev = false)
  rules : ∀ table ∈ host.tables, ∀ rule ∈ host.rules, host.matched table rule = true →
    host.deeporcRule rule = true
  order : host.rules.Pairwise fun first later => first.pref = later.pref →
    (∃ table ∈ host.tables, host.matched table later = true) → host.deeporcRule first = true
  flushes : ∀ table ∈ host.tables, ∀ route ∈ host.routes, host.flushes table route = true →
    host.deeporcTable route.table = true

/-- No two rules share a preference, the rules for an interface look one table up, and a table is written in the same
way in all places that the script compares. -/
@[mk_iff]
structure Orderly (host : Host) : Prop where
  prefs : (host.rules.map Rule.pref).Nodup
  single : ∀ name ∈ deeporcWgIfaces host, ∀ one ∈ host.rules, ∀ other ∈ host.rules,
    one.iif = some name → other.iif = some name → looksUp host (fun _ => true) one = true →
    looksUp host (fun _ => true) other = true → tableNumeric (host.lastWord one) = tableNumeric (host.lastWord other)
  written : ∀ table ∈ host.tables, ∀ rule ∈ host.rules, host.matched table rule = true →
    table = tableNumeric (host.lastWord rule)

local instance : LawfulBEq Text := inferInstance

instance (host : Host) : Decidable (Safe host) := decidable_of_iff' _ (safe_iff host)

instance (host : Host) : Decidable (Orderly host) := decidable_of_iff' _ (orderly_iff host)

/-! ### Tables under the same names -/

section Names

variable {host before : Host}

theorem words_of_names (names : before.rtTables = host.rtTables) (rule : Rule) : rule.words before = rule.words host := by
  unfold Rule.words Host.tableName Host.tableNames
  rw [names]

theorem looksUp_of_names (names : before.rtTables = host.rtTables) (lastField : Text → Bool) (rule : Rule) :
    looksUp before lastField rule = looksUp host lastField rule := by
  unfold looksUp
  rw [words_of_names names]

theorem flushes_of_names (names : before.rtTables = host.rtTables) (table : Text) (route : Route) :
    before.flushes table route = host.flushes table route := by
  unfold Host.flushes Host.tableNumber Host.tableNames
  rw [names]

theorem names_execute {commands : List Command} (lasting : ∀ id, .forgetTable id ∉ commands) :
    (execute host commands).rtTables = host.rtTables := by
  induction commands generalizing host with
  | nil => rfl
  | cons command commands later =>
      have one : (command.run host).rtTables = host.rtTables := by
        cases command with
        | wgQuickDown name =>
            change (host.wgQuickDown name).rtTables = host.rtTables
            unfold Host.wgQuickDown Host.linkDel
            split
            · split <;> rfl
            · rfl
        | linkDel name =>
            change (host.linkDel name).rtTables = host.rtTables
            unfold Host.linkDel
            split <;> rfl
        | forgetTable id => exact absurd List.mem_cons_self (lasting id)
        | _ => rfl
      refine (later fun id member => lasting id (List.mem_cons_of_mem _ member)).trans one

theorem dropTable_lasting (table id : Text) : .forgetTable id ∉ dropTable host table := by
  simp [dropTable, deleteRulesForTable]

theorem cleanupWg_lasting (name id : Text) : .forgetTable id ∉ cleanupWg host name := by
  unfold cleanupWg
  dsimp only
  split
  · simp
  · simp [dropTable_lasting]

theorem cleanupMac_lasting (name id : Text) : .forgetTable id ∉ cleanupMac host name := by
  unfold cleanupMac
  split
  · simp
  · simp [dropTable_lasting]

theorem wgCommands_lasting (id : Text) : .forgetTable id ∉ wgCommands host := by
  intro member
  obtain ⟨name, -, earlier, later, -, found⟩ := Lib.Commands.mem_each member
  exact cleanupWg_lasting name id found

theorem macCommands_lasting (id : Text) : .forgetTable id ∉ macCommands host := by
  intro member
  obtain ⟨name, -, earlier, later, -, found⟩ := Lib.Commands.mem_each member
  exact cleanupMac_lasting name id found

theorem tableCommands_lasting (id : Text) : .forgetTable id ∉ tableCommands host := by
  intro member
  obtain ⟨table, -, earlier, later, -, found⟩ := Lib.Commands.mem_each member
  exact dropTable_lasting table id found

end Names

/-! ### On such hosts nothing else is touched -/

/-- A command that goes by a name got it from one of the two lists. -/
def Named (host : Host) : Command → Prop
  | .wgQuickDown name | .rmConfig name => name ∈ deeporcWgIfaces host
  | .linkDel name => name ∈ deeporcWgIfaces host ∨ name ∈ host.macvlans ∧ isMac name = true
  | _ => True

/-- The rule that goes looks up a table of deepOrc's, and so does everything that is flushed. -/
def Finds (host before : Host) : Command → Prop
  | .ruleDel pref => ∀ rule, (before.rules.find? fun rule => rule.pref = pref) = some rule → host.deeporcRule rule = true
  | .routeFlush table => ∀ route ∈ before.routes, before.flushes table route = true →
      host.deeporcTable route.table = true
  | _ => True

theorem filter_ne_filter {α : Type*} [DecidableEq α] {list : List α} {item : α} {wanted : α → Bool}
    (other : item ∈ list → wanted item = false) :
    (list.filter fun candidate => candidate ≠ item).filter wanted = list.filter wanted := by
  rw [List.filter_filter]
  apply List.filter_congr
  intro candidate member
  by_cases same : candidate = item
  · subst same
    simp [other member]
  · simp [same]

theorem filter_eraseP_iff {α : Type*} {list : List α} {doomed wanted : α → Bool} :
    (list.eraseP doomed).filter wanted = list.filter wanted ↔
      ∀ item, list.find? doomed = some item → wanted item = false := by
  induction list with
  | nil => simp
  | cons first list later =>
      cases hit : doomed first with
      | true =>
          rw [List.eraseP_cons_of_pos hit, List.find?_cons_of_pos hit]
          cases keep : wanted first with
          | true => simp [List.filter_cons_of_pos keep, keep]
          | false => simp [keep]
      | false =>
          have miss : ¬ doomed first = true := by simp [hit]
          rw [List.eraseP_cons_of_neg miss, List.find?_cons_of_neg miss, ← later]
          cases keep : wanted first with
          | true => simp [List.filter_cons_of_pos keep]
          | false => simp [keep]

theorem filter_filter_iff {α : Type*} {list : List α} {kept wanted : α → Bool} :
    (list.filter kept).filter wanted = list.filter wanted ↔ ∀ item ∈ list, kept item = false → wanted item = false := by
  rw [List.filter_filter]
  constructor
  · intro same item member lost
    cases keep : wanted item with
    | false => rfl
    | true =>
        have left : item ∈ list.filter wanted := List.mem_filter.mpr ⟨member, keep⟩
        rw [← same] at left
        simp [lost] at left
  · intro none
    apply List.filter_congr
    intro item member
    cases lost : kept item with
    | false => simp [none item member lost]
    | true => simp

theorem gateway_not_mac {name : Text} (gateway : isGatewayIface name = true) : isMac name = false := by
  rw [isGatewayIface, startsWith, List.isPrefixOf_iff_prefix] at gateway
  obtain ⟨rest, rfl⟩ := gateway
  rfl

theorem foreign_linkDel {host before : Host} {name : Text} (safe : Safe host) (below : Below before host)
    (named : Named host (.linkDel name)) : host.foreign (before.linkDel name) = host.foreign before := by
  have wireguard : name ∈ before.wireguard → isGatewayIface name = true := fun up =>
    safe.interfaces name (below.wireguard.subset up)
  have macvlan : name ∈ before.macvlans → isMac name = true := by
    intro up
    exact (named.resolve_left (safe.macvlans name (below.macvlans.subset up))).2
  unfold Host.linkDel
  split
  · rename_i up
    have attached : ∀ route ∈ before.routes, route.dev = name → host.deeporcTable route.table = true := by
      intro route member through
      by_contra foreign
      obtain ⟨tunnel, mac⟩ := safe.routes route (below.routes.subset member) (by simpa using foreign)
      rcases up with up | up
      · exact tunnel (through ▸ below.wireguard.subset up)
      · rw [through] at mac
        rw [mac (below.macvlans.subset up)] at macvlan
        cases macvlan up
    simp only [Host.foreign, Host.mk.injEq, and_true, true_and]
    refine ⟨filter_ne_filter fun up => by simp [wireguard up], filter_ne_filter fun up => by simp [macvlan up], ?_⟩
    apply filter_filter_iff.mpr
    intro route member through
    simp [attached route member (by simpa using through)]
  · rfl

theorem foreign_run {host before : Host} {command : Command} (safe : Safe host) (below : Below before host)
    (named : Named host command) (finds : Finds host before command) :
    host.foreign (command.run before) = host.foreign before := by
  cases command with
  | wgQuickDown name =>
      change host.foreign (before.wgQuickDown name) = host.foreign before
      unfold Host.wgQuickDown
      split
      · exact foreign_linkDel safe below (.inl named)
      · rfl
  | linkDel name => exact foreign_linkDel safe below named
  | rmConfig name =>
      have gateway : isGatewayIface name = true := by
        rcases mem_deeporcWgIfaces.mp named with up | configured
        · exact safe.interfaces name up
        · exact configured.2
      simp only [Command.run, Host.foreign, Host.mk.injEq, and_true, true_and]
      exact filter_ne_filter fun _ => by simp [gateway]
  | ruleDel pref =>
      simp only [Command.run, Host.foreign, Host.mk.injEq, and_true, true_and]
      apply filter_eraseP_iff.mpr
      intro rule first
      simp [finds rule first]
  | routeFlush table =>
      simp only [Command.run, Host.foreign, Host.mk.injEq, and_true, true_and]
      apply filter_filter_iff.mpr
      intro route member flushed
      simp [finds route member (by simpa using flushed)]
  | forgetTable id => rfl

/-! ### Runs on safe hosts -/

/-- The part of the run before the table of names is cleared, as far as it has gone. -/
structure Kept (host before : Host) : Prop where
  below : Below before host
  names : before.rtTables = host.rtTables
  foreign : host.foreign before = host.foreign host

section Safe

variable {host before : Host}

theorem Kept.run (safe : Safe host) (kept : Kept host before) (command : Command) (named : Named host command)
    (finds : Finds host before command) (lasting : ∀ id, command ≠ .forgetTable id) : Kept host (command.run before) where
  below := (run_below command before).trans kept.below
  names := by
    have one : (execute before [command]).rtTables = before.rtTables :=
      names_execute fun id member => lasting id (List.mem_singleton.mp member).symm
    exact one.trans kept.names
  foreign := (foreign_run safe kept.below named finds).trans kept.foreign

/-- What goes for a listed rule is the rule or one before it that shares its preference. -/
theorem deeporcRule_of_first {rule first : Rule} {table : Text} (safe : Safe host)
    (fewer : before.rules.Sublist host.rules) (present : rule ∈ before.rules) (drops : table ∈ host.tables)
    (matched : host.matched table rule = true)
    (front : (before.rules.find? fun other => other.pref = rule.pref) = some first) : host.deeporcRule first = true := by
  obtain ⟨same, earlier, later, split, none⟩ := List.find?_eq_some_iff_append.mp front
  have ordered := safe.order.sublist fewer
  rw [split] at present ordered
  rcases List.mem_append.mp present with impossible | behind
  · have other := none rule impossible
    simp at other
  · rcases List.mem_cons.mp behind with rfl | behind
    · exact safe.rules table drops rule (fewer.subset (by rw [split]; exact present)) matched
    · have first_of := (List.pairwise_cons.mp (List.pairwise_append.mp ordered).2.1).1 rule behind
      exact first_of (by simpa using same) ⟨table, drops, matched⟩

/-- Each deletion leaves the listed rules that are still to come: what goes stands before them. -/
theorem Kept.ruleDels {table : Text} {listed : List Rule} (safe : Safe host) (kept : Kept host before)
    (drops : table ∈ host.tables) (sub : listed.Sublist before.rules)
    (matched : ∀ rule ∈ listed, host.matched table rule = true) :
    Kept host (execute before (listed.map fun rule => .ruleDel rule.pref)) := by
  induction listed generalizing before with
  | nil => exact kept
  | cons rule rest later =>
      have present : rule ∈ before.rules := sub.subset List.mem_cons_self
      have finds : Finds host before (.ruleDel rule.pref) := by
        intro first front
        exact deeporcRule_of_first safe kept.below.rules present drops (matched rule List.mem_cons_self) front
      refine later (kept.run safe (.ruleDel rule.pref) trivial finds nofun) ?_ fun other member => matched other (List.mem_cons_of_mem _ member)
      obtain ⟨front, back, split, member, sub⟩ := List.cons_sublist_iff.mp sub
      change rest.Sublist (before.rules.eraseP fun other => other.pref = rule.pref)
      rw [split, List.eraseP_append_left (a := rule) (by simp) _ member]
      exact sub.trans (List.sublist_append_right _ _)

theorem Kept.dropTable {table : Text} (safe : Safe host) (kept : Kept host before) (drops : table ∈ host.tables) :
    Kept host (execute before (dropTable before table)) := by
  have same : before.rules.filter (before.matched table) = before.rules.filter (host.matched table) := by
    apply List.filter_congr
    intro rule _
    exact looksUp_of_names kept.names _ rule
  have deleted : Kept host (execute before (deleteRulesForTable before table)) := by
    change Kept host (execute before ((before.rules.filter (before.matched table)).map fun rule => .ruleDel rule.pref))
    rw [same]
    exact kept.ruleDels safe drops List.filter_sublist fun rule member => (List.mem_filter.mp member).2
  rw [ExitHost.dropTable, execute_append]
  refine deleted.run safe (.routeFlush table) trivial ?_ nofun
  intro route member flushed
  rw [flushes_of_names deleted.names] at flushed
  exact safe.flushes table drops route (deleted.below.routes.subset member) flushed

theorem drops_of_tableForWg {name table : Text} (below : Below before host) (names : before.rtTables = host.rtTables)
    (listed : name ∈ deeporcWgIfaces host) (found : tableForWg before name = some table) : table ∈ host.tables := by
  obtain ⟨rule, first, rfl⟩ := Option.map_eq_some_iff.mp found
  have fits := List.find?_some first
  rw [Bool.and_eq_true, looksUp_of_names names] at fits
  obtain ⟨iif, lookup⟩ := fits
  rw [words_of_names names]
  have present : rule ∈ host.rules := below.rules.subset (List.mem_of_find?_eq_some first)
  exact mem_tables_wg listed present (of_decide_eq_true iif) lookup

theorem drops_of_tableForMac {name table : Text} (below : Below before host) (names : before.rtTables = host.rtTables)
    (up : name ∈ host.macvlans) (numbered : isMac name = true) (found : tableForMac before name = some table) :
    table ∈ host.tables := by
  unfold tableForMac at found
  dsimp only at found
  split at found
  · rename_i some_rule
    cases found
    obtain ⟨rule, member, lookup⟩ := List.any_eq_true.mp some_rule
    rw [looksUp_of_names names] at lookup
    exact mem_tables_mac up numbered (below.rules.subset member) lookup
  · cases found

theorem Kept.cleanupWg {name : Text} (safe : Safe host) (kept : Kept host before)
    (listed : name ∈ deeporcWgIfaces host) : Kept host (execute before (cleanupWg before name)) := by
  have down : Kept host (execute before [.wgQuickDown name, .linkDel name, .rmConfig name]) := by
    have first := kept.run safe (.wgQuickDown name) listed trivial nofun
    have second := first.run safe (.linkDel name) (.inl listed) trivial nofun
    exact second.run safe (.rmConfig name) listed trivial nofun
  unfold ExitHost.cleanupWg
  dsimp only
  split
  · exact down
  · rename_i table found
    rw [execute_append]
    exact down.dropTable safe (drops_of_tableForWg kept.below kept.names listed found)

theorem Kept.cleanupMac {name : Text} (safe : Safe host) (kept : Kept host before) (up : name ∈ host.macvlans)
    (numbered : isMac name = true) : Kept host (execute before (cleanupMac before name)) := by
  unfold ExitHost.cleanupMac
  split
  · exact kept.run safe (.linkDel name) (.inr ⟨up, numbered⟩) trivial nofun
  · rename_i table found
    rw [execute_append]
    have dropped := kept.dropTable safe (drops_of_tableForMac kept.below kept.names up numbered found)
    exact dropped.run safe (.linkDel name) (.inr ⟨up, numbered⟩) trivial nofun

theorem foreign_forget (ids : List Text) : host.foreign (execute before (ids.map .forgetTable)) = host.foreign before := by
  induction ids generalizing before with
  | nil => rfl
  | cons id ids later => exact later

theorem foreign_of_safe (safe : Safe host) : host.foreign (cleanup host) = host.foreign host := by
  have start : Kept host host := ⟨.refl host, rfl, rfl⟩
  have wg : Kept host (execute host (wgCommands host)) :=
    Lib.Commands.each_induction start fun name listed before kept => kept.cleanupWg safe listed
  have mac : Kept host (execute (execute host (wgCommands host)) (macCommands (execute host (wgCommands host)))) := by
    apply Lib.Commands.each_induction wg
    intro name listed before kept
    obtain ⟨up, numbered⟩ := List.mem_filter.mp listed
    exact kept.cleanupMac safe (wg.below.macvlans.subset up) numbered
  unfold cleanup cleanupCommands
  dsimp only
  rw [execute_append, execute_append, execute_append, foreign_forget]
  refine Kept.foreign (Lib.Commands.each_induction mac fun table listed before kept => ?_)
  refine kept.dropTable safe (mem_tables_id ?_)
  rw [deeporcTableIds, mac.names] at listed
  exact listed

end Safe

end DeepOrc.ExitHost
