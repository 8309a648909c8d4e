import DeepOrc.ExitHost.CleanupSafe

/-!
# What the cleanup leaves alone

What is not deepOrc's is left as it was on the safe hosts. Where rules and tables can be told apart, the script gets to
every table it may take for deepOrc's, and no other host is spared.
-/

namespace DeepOrc.ExitHost

/-! ### Links that are deleted -/

theorem linkDel_wg {host : Host} {name : Text} (listed : name ∈ deeporcWgIfaces host) :
    .linkDel name ∈ cleanupCommands host := by
  have now : ∀ before, .linkDel name ∈ cleanupWg before name := by
    intro before
    unfold cleanupWg
    dsimp only
    split <;> simp
  have member : .linkDel name ∈ wgCommands host := Lib.Commands.mem_each_of_mem listed now
  exact List.mem_append_left _ (List.mem_append_left _ (List.mem_append_left _ member))

theorem linkDel_mac {host : Host} {name : Text} (present : name ∈ (execute host (wgCommands host)).macvlans)
    (numbered : isMac name = true) : .linkDel name ∈ cleanupCommands host := by
  have now : ∀ before, .linkDel name ∈ cleanupMac before name := by
    intro before
    unfold cleanupMac
    split <;> simp
  have listed : name ∈ deeporcMacIfaces (execute host (wgCommands host)) := List.mem_filter.mpr ⟨present, numbered⟩
  have member : .linkDel name ∈ macCommands (execute host (wgCommands host)) := Lib.Commands.mem_each_of_mem listed now
  exact List.mem_append_left _ (List.mem_append_left _ (List.mem_append_right _ member))

theorem not_mem_linkDel (host : Host) (name : Text) :
    name ∉ (host.linkDel name).wireguard ∧ name ∉ (host.linkDel name).macvlans := by
  unfold Host.linkDel
  split
  · simp
  · rename_i absent
    exact not_or.mp absent

theorem deleted_of_mem {host : Host} {name : Text} (member : .linkDel name ∈ cleanupCommands host) :
    name ∉ (cleanup host).wireguard ∧ name ∉ (cleanup host).macvlans := by
  obtain ⟨before, -, below⟩ := (taking host).below_of_mem (s := host) member
  obtain ⟨wireguard, macvlans⟩ := not_mem_linkDel before name
  constructor
  · intro left
    exact wireguard (below.wireguard.subset left)
  · intro left
    exact macvlans (below.macvlans.subset left)

/-- A numbered macvlan goes with the others, if it did not go before them. -/
theorem not_mem_macvlans_cleanup {host : Host} {name : Text} (numbered : isMac name = true) :
    name ∉ (cleanup host).macvlans := by
  intro left
  by_cases still : name ∈ (execute host (wgCommands host)).macvlans
  · exact (deleted_of_mem (linkDel_mac still numbered)).2 left
  · obtain ⟨later, split⟩ : ∃ later, cleanupCommands host = wgCommands host ++ later := by
      simp only [cleanupCommands, List.append_assoc]
      exact ⟨_, rfl⟩
    rw [cleanup, split, execute_append] at left
    exact still (((taking host).execute_below _ later).macvlans.subset left)

/-- Routes through a link stay only with the link. -/
def Attached (name : Text) (host : Host) : Prop :=
  name ∈ host.wireguard ∨ name ∈ host.macvlans ∨ ∀ route ∈ host.routes, route.dev ≠ name

theorem attached_linkDel {host : Host} {name : Text} (attached : Attached name host) (other : Text) :
    Attached name (host.linkDel other) := by
  unfold Host.linkDel
  split
  · by_cases same : name = other
    · subst same
      refine .inr (.inr ?_)
      intro route member
      simpa using (List.mem_filter.mp member).2
    · rcases attached with up | up | none
      · exact .inl (List.mem_filter.mpr ⟨up, by simpa using same⟩)
      · exact .inr (.inl (List.mem_filter.mpr ⟨up, by simpa using same⟩))
      · exact .inr (.inr fun route member => none route (List.mem_filter.mp member).1)
  · exact attached

theorem attached_run {name : Text} (command : Command) {host : Host} (attached : Attached name host) :
    Attached name (command.run host) := by
  cases command with
  | wgQuickDown other =>
      change Attached name (host.wgQuickDown other)
      unfold Host.wgQuickDown
      split
      · exact attached_linkDel attached other
      · exact attached
  | linkDel other => exact attached_linkDel attached other
  | routeFlush table =>
      rcases attached with up | up | none
      · exact .inl up
      · exact .inr (.inl up)
      · exact .inr (.inr fun route member => none route (List.mem_filter.mp member).1)
  | _ => exact attached

theorem attached_execute {name : Text} {host : Host} (attached : Attached name host) (commands : List Command) :
    Attached name (execute host commands) := by
  induction commands generalizing host with
  | nil => exact attached
  | cons command commands later => exact later (attached_run command attached)

/-! ### What is left of a run that spares it -/

theorem finds_of_foreign {host before : Host} {command : Command}
    (same : host.foreign (command.run before) = host.foreign before) : Finds host before command := by
  cases command with
  | ruleDel pref =>
      intro rule first
      have rules : (before.rules.eraseP fun rule => rule.pref = pref).filter (fun rule => !host.deeporcRule rule) =
          before.rules.filter fun rule => !host.deeporcRule rule := congrArg Host.rules same
      simpa using filter_eraseP_iff.mp rules rule first
  | routeFlush table =>
      intro route member flushed
      have routes : (before.routes.filter fun route => !before.flushes table route).filter
            (fun route => !host.deeporcTable route.table) =
          before.routes.filter fun route => !host.deeporcTable route.table := congrArg Host.routes same
      simpa using filter_filter_iff.mp routes route member (by simp [flushed])
  | _ => trivial

theorem mem_of_foreign {α : Type*} {before after : List α} {wanted : α → Bool} {item : α}
    (same : after.filter wanted = before.filter wanted) (member : item ∈ before) (kept : wanted item = true) :
    item ∈ after := by
  have left : item ∈ before.filter wanted := List.mem_filter.mpr ⟨member, kept⟩
  rw [← same] at left
  exact (List.mem_filter.mp left).1

/-- No route stays through a link that was there and is gone. -/
theorem route_gone {host : Host} {route : Route} (up : route.dev ∈ host.wireguard ∨ route.dev ∈ host.macvlans)
    (down : route.dev ∉ (cleanup host).wireguard ∧ route.dev ∉ (cleanup host).macvlans) :
    route ∉ (cleanup host).routes := by
  intro left
  have attached : Attached route.dev host := by
    rcases up with up | up
    · exact .inl up
    · exact .inr (.inl up)
  rcases attached_execute attached (cleanupCommands host) with up | up | none
  · exact down.1 up
  · exact down.2 up
  · exact none route left rfl

/-! ### What comes next in the run -/

/-- At some point of the run, before the table of names is cleared, the host is `before` and the commands come next. -/
structure Next (host before : Host) (commands : List Command) : Prop where
  split : ∃ earlier later, cleanupCommands host = earlier ++ (commands ++ later) ∧ before = execute host earlier
  names : before.rtTables = host.rtTables

section Next

variable {host before : Host} {commands : List Command}

theorem Next.below (next : Next host before commands) : Below before host := by
  obtain ⟨earlier, later, -, rfl⟩ := next.split
  exact (taking host).execute_below host earlier

theorem Next.above (next : Next host before commands) : Below (cleanup host) before := by
  obtain ⟨earlier, later, whole, rfl⟩ := next.split
  rw [cleanup, whole, execute_append]
  exact (taking host).execute_below _ _

theorem Next.inside {first last : List Command} (next : Next host before (first ++ (commands ++ last)))
    (lasting : ∀ id, .forgetTable id ∉ first) : Next host (execute before first) commands := by
  obtain ⟨earlier, later, whole, rfl⟩ := next.split
  refine ⟨⟨earlier ++ first, last ++ later, ?_, (execute_append host earlier first).symm⟩, ?_⟩
  · simpa only [List.append_assoc] using whole
  · exact (names_execute lasting).trans next.names

/-- What the whole run keeps is kept up to every point of it. -/
theorem Next.kept (next : Next host before commands) (same : host.foreign (cleanup host) = host.foreign host) :
    host.foreign before = host.foreign host := by
  obtain ⟨earlier, later, whole, rfl⟩ := next.split
  rw [cleanup, whole] at same
  exact ((taking host).kept_split same).1

theorem Next.finds {command : Command} (next : Next host before [command])
    (same : host.foreign (cleanup host) = host.foreign host) : Finds host before command := by
  apply finds_of_foreign
  rw [next.kept same]
  obtain ⟨earlier, later, whole, rfl⟩ := next.split
  rw [← List.append_assoc] at whole
  rw [cleanup, whole] at same
  have after := ((taking host).kept_split same).1
  rw [Lib.Commands.execute_append] at after
  exact after

theorem next_of_part {start part rest earlier later : List Command}
    (whole : cleanupCommands host = start ++ (part ++ rest)) (lasting : ∀ id, .forgetTable id ∉ start ++ part)
    (turn : part = earlier ++ (commands ++ later)) : Next host (execute (execute host start) earlier) commands := by
  have all : Next host host (start ++ (part ++ rest)) := ⟨⟨[], [], by simpa using whole, rfl⟩, rfl⟩
  rw [turn] at all lasting
  have front : Next host (execute host start) (earlier ++ (commands ++ later)) :=
    all.inside fun id member => lasting id (List.mem_append_left _ member)
  exact front.inside fun id member => lasting id (List.mem_append_right _ (List.mem_append_left _ member))

/-- The host when the macvlans are gone. -/
def Host.noMac (host : Host) : Host := execute host (wgCommands host ++ macCommands (execute host (wgCommands host)))

theorem cleanupCommands_eq (host : Host) : ∃ forgets, cleanupCommands host = wgCommands host ++
      (macCommands (execute host (wgCommands host)) ++ (tableCommands host.noMac ++ forgets)) ∧
    ∀ command ∈ forgets, ∃ id, command = .forgetTable id := by
  unfold cleanupCommands Host.noMac
  dsimp only
  rw [execute_append]
  refine ⟨_, (List.append_assoc _ _ _).trans (List.append_assoc _ _ _), ?_⟩
  intro command member
  obtain ⟨id, -, rfl⟩ := List.mem_map.mp member
  exact ⟨id, rfl⟩

theorem lasting_append {first second : List Command} (one : ∀ id, .forgetTable id ∉ first)
    (other : ∀ id, .forgetTable id ∉ second) : ∀ id, .forgetTable id ∉ first ++ second :=
  fun id member => (List.mem_append.mp member).elim (one id) (other id)

theorem next_wg {earlier later : List Command} (turn : wgCommands host = earlier ++ (commands ++ later)) :
    Next host (execute host earlier) commands := by
  obtain ⟨forgets, whole, -⟩ := cleanupCommands_eq host
  exact @next_of_part _ _ [] _ _ _ _ whole wgCommands_lasting turn

theorem next_mac {earlier later : List Command}
    (turn : macCommands (execute host (wgCommands host)) = earlier ++ (commands ++ later)) :
    Next host (execute (execute host (wgCommands host)) earlier) commands := by
  obtain ⟨forgets, whole, -⟩ := cleanupCommands_eq host
  exact next_of_part whole (lasting_append wgCommands_lasting macCommands_lasting) turn

theorem names_noMac : host.noMac.rtTables = host.rtTables :=
  names_execute (lasting_append wgCommands_lasting macCommands_lasting)

theorem next_table {earlier later : List Command} (turn : tableCommands host.noMac = earlier ++ (commands ++ later)) :
    Next host (execute host.noMac earlier) commands := by
  obtain ⟨forgets, whole, -⟩ := cleanupCommands_eq host
  rw [← List.append_assoc] at whole
  exact next_of_part whole
    (lasting_append (lasting_append wgCommands_lasting macCommands_lasting) tableCommands_lasting) turn

end Next

/-! ### Tables that are dropped -/

/-- The script deletes the rules for the table and flushes it. -/
def Dropped (host : Host) (table : Text) : Prop := ∃ before, Next host before (dropTable before table)

section Dropped

variable {host before : Host} {table : Text}

def downCommands (name : Text) : List Command := [.wgQuickDown name, .linkDel name, .rmConfig name]

theorem cleanupWg_eq {name : Text} (found : tableForWg before name = some table) :
    cleanupWg before name = downCommands name ++ dropTable (execute before (downCommands name)) table := by
  unfold cleanupWg
  rw [found]
  rfl

theorem cleanupMac_eq {name : Text} (found : tableForMac before name = some table) :
    cleanupMac before name = dropTable before table ++ [.linkDel name] := by
  unfold cleanupMac
  rw [found]

theorem dropped_of_tableForWg {name : Text} (next : Next host before (cleanupWg before name))
    (found : tableForWg before name = some table) : Dropped host table := by
  rw [cleanupWg_eq found, ← List.append_nil (dropTable _ _)] at next
  exact ⟨_, next.inside fun id member => by simp [downCommands] at member⟩

theorem dropped_of_tableForMac {name : Text} (next : Next host before (cleanupMac before name))
    (found : tableForMac before name = some table) : Dropped host table := by
  rw [cleanupMac_eq found, ← List.nil_append (dropTable _ _ ++ _)] at next
  exact ⟨_, next.inside fun id member => nomatch member⟩

/-- As long as some rule for the interface is there, the table that they look up is dropped. -/
theorem dropped_of_wg {name : Text} {rule : Rule} (orderly : Orderly host) (listed : name ∈ deeporcWgIfaces host)
    (left : rule ∈ (cleanup host).rules) (iif : rule.iif = some name)
    (lookup : looksUp host (fun _ => true) rule = true) : Dropped host (tableNumeric (host.lastWord rule)) := by
  obtain ⟨earlier, later, turn⟩ : ∃ earlier later, wgCommands host =
      earlier ++ (cleanupWg (execute host earlier) name ++ later) := Lib.Commands.each_split listed
  have next := next_wg turn
  have some_rule : ((execute host earlier).rules.find? fun rule =>
      rule.iif = some name && looksUp (execute host earlier) (fun _ => true) rule).isSome := by
    refine List.find?_isSome.mpr ⟨rule, next.above.rules.subset left, ?_⟩
    rw [looksUp_of_names next.names, lookup, iif]
    simp
  obtain ⟨first, front⟩ := Option.isSome_iff_exists.mp some_rule
  have fits := List.find?_some front
  rw [Bool.and_eq_true, looksUp_of_names next.names] at fits
  have present := next.below.rules.subset (List.mem_of_find?_eq_some front)
  have same := orderly.single name listed first present rule ((next.above.trans next.below).rules.subset left)
    (of_decide_eq_true fits.1) iif fits.2 lookup
  apply dropped_of_tableForWg next
  rw [tableForWg, front, Option.map_some, words_of_names next.names]
  exact congrArg some same

theorem dropped_of_mac {name : Text} {rule : Rule} (up : name ∈ (execute host (wgCommands host)).macvlans)
    (numbered : isMac name = true) (left : rule ∈ (cleanup host).rules) (lookup : host.forMac (name.drop 4) rule = true) :
    Dropped host (name.drop 4) := by
  have listed : name ∈ deeporcMacIfaces (execute host (wgCommands host)) := List.mem_filter.mpr ⟨up, numbered⟩
  obtain ⟨earlier, later, turn⟩ : ∃ earlier later, macCommands (execute host (wgCommands host)) =
      earlier ++ (cleanupMac (execute (execute host (wgCommands host)) earlier) name ++ later) :=
    Lib.Commands.each_split listed
  have next := next_mac turn
  apply dropped_of_tableForMac next
  unfold tableForMac
  refine if_pos (List.any_eq_true.mpr ⟨rule, next.above.rules.subset left, ?_⟩)
  rw [looksUp_of_names next.names]
  exact lookup

theorem dropped_of_id (listed : table ∈ deeporcTableIds host) : Dropped host table := by
  rw [deeporcTableIds, ← names_noMac] at listed
  obtain ⟨earlier, later, turn⟩ : ∃ earlier later, tableCommands host.noMac =
      earlier ++ (dropTable (execute host.noMac earlier) table ++ later) := Lib.Commands.each_split listed
  exact ⟨_, next_table turn⟩

/-! ### Rules that go -/

theorem of_mem_dropTable {pref : Nat} (below : Below before host) (names : before.rtTables = host.rtTables)
    (member : .ruleDel pref ∈ dropTable before table) :
    ∃ rule ∈ host.rules, host.matched table rule = true ∧ rule.pref = pref := by
  rcases List.mem_append.mp member with deleted | flushed
  · obtain ⟨rule, listed, same⟩ := List.mem_map.mp deleted
    obtain ⟨present, matched⟩ := List.mem_filter.mp listed
    rw [looksUp_of_names names] at matched
    exact ⟨rule, below.rules.subset present, matched, Command.ruleDel.inj same⟩
  · cases List.mem_singleton.mp flushed

theorem dropped_of_ruleDel {pref : Nat} (member : .ruleDel pref ∈ cleanupCommands host) : ∃ table ∈ host.tables,
    Dropped host table ∧ ∃ rule ∈ host.rules, host.matched table rule = true ∧ rule.pref = pref := by
  obtain ⟨forgets, whole, onlyForgets⟩ := cleanupCommands_eq host
  rw [whole] at member
  simp only [List.mem_append] at member
  rcases member with wg | mac | table | forget
  · obtain ⟨name, listed, earlier, later, turn, found⟩ := Lib.Commands.mem_each wg
    have next : Next host (execute host earlier) (cleanupWg (execute host earlier) name) := next_wg turn
    cases tabled : tableForWg (execute host earlier) name with
    | none =>
        unfold cleanupWg at found
        rw [tabled] at found
        simp at found
    | some table =>
        have dropped := dropped_of_tableForWg next tabled
        have drops := drops_of_tableForWg next.below next.names listed tabled
        rw [cleanupWg_eq tabled] at found
        have lower := ((taking host).execute_below (execute host earlier) (downCommands name)).trans next.below
        have names : (execute (execute host earlier) (downCommands name)).rtTables = host.rtTables :=
          (names_execute (by simp [downCommands])).trans next.names
        rcases List.mem_append.mp found with down | rules
        · simp [downCommands] at down
        · exact ⟨table, drops, dropped, of_mem_dropTable lower names rules⟩
  · obtain ⟨name, listed, earlier, later, turn, found⟩ := Lib.Commands.mem_each mac
    have next : Next host _ (cleanupMac _ name) := next_mac turn
    obtain ⟨up, numbered⟩ := List.mem_filter.mp listed
    have present : name ∈ host.macvlans := ((taking host).execute_below host _).macvlans.subset up
    cases tabled : tableForMac (execute (execute host (wgCommands host)) earlier) name with
    | none =>
        unfold cleanupMac at found
        rw [tabled] at found
        cases List.mem_singleton.mp found
    | some table =>
        have dropped := dropped_of_tableForMac next tabled
        have drops := drops_of_tableForMac next.below next.names present numbered tabled
        rw [cleanupMac_eq tabled] at found
        rcases List.mem_append.mp found with rules | link
        · exact ⟨table, drops, dropped, of_mem_dropTable next.below next.names rules⟩
        · cases List.mem_singleton.mp link
  · obtain ⟨id, listed, earlier, later, turn, found⟩ := Lib.Commands.mem_each table
    have next : Next host _ (dropTable _ id) := next_table turn
    have drops : id ∈ host.tables := by
      apply mem_tables_id
      have same : deeporcTableIds host.noMac = deeporcTableIds host := by rw [deeporcTableIds, names_noMac, deeporcTableIds]
      rw [← same]
      exact listed
    exact ⟨id, drops, ⟨_, next⟩, of_mem_dropTable next.below next.names found⟩
  · obtain ⟨id, same⟩ := onlyForgets _ forget
    cases same

theorem rule_lost {rule : Rule} {command : Command} (held : rule ∈ before.rules)
    (gone : rule ∉ (command.run before).rules) : command = .ruleDel rule.pref := by
  cases command with
  | wgQuickDown name =>
      refine absurd ?_ gone
      change rule ∈ (before.wgQuickDown name).rules
      unfold Host.wgQuickDown Host.linkDel
      split
      · split <;> exact held
      · exact held
  | linkDel name =>
      refine absurd ?_ gone
      change rule ∈ (before.linkDel name).rules
      unfold Host.linkDel
      split <;> exact held
  | ruleDel pref =>
      by_cases same : rule.pref = pref
      · rw [same]
      · exact absurd ((List.mem_eraseP_of_neg (by simpa using same)).mpr held) gone
  | _ => exact absurd held gone

/-- A rule that goes is listed for some table, and on an orderly host that is the table it looks up. -/
theorem dropped_of_lost {rule : Rule} (orderly : Orderly host) (present : rule ∈ host.rules)
    (lost : rule ∉ (cleanup host).rules) : Dropped host (tableNumeric (host.lastWord rule)) := by
  obtain ⟨earlier, command, later, whole, held, gone⟩ :=
    @Lib.Commands.exists_of_lost _ _ Command.run host (fun s => rule ∈ s.rules) (cleanupCommands host) present lost
  have member : .ruleDel rule.pref ∈ cleanupCommands host := by
    rw [whole, ← rule_lost held gone]
    exact List.mem_append_right _ List.mem_cons_self
  obtain ⟨table, drops, dropped, other, listed, matched, same⟩ := dropped_of_ruleDel member
  obtain rfl := List.inj_on_of_nodup_map orderly.prefs listed present same
  rw [← orderly.written table drops other listed matched]
  exact dropped

theorem tableNumeric_slot {slot : Text} (some_digit : slot ≠ []) (digits : slot.all Char.isDigit = true) :
    tableNumeric ("deeporc-".toList ++ slot) = slot := by
  have named : startsWith ("deeporc-".toList ++ slot) "deeporc-".toList = true :=
    List.isPrefixOf_iff_prefix.mpr (List.prefix_append _ _)
  change (if (startsWith ("deeporc-".toList ++ slot) "deeporc-".toList && !slot.isEmpty && slot.all Char.isDigit) = true
    then slot else _) = slot
  rw [named, digits, List.isEmpty_eq_false_iff.mpr some_digit]
  rfl

/-! ### Only on such hosts, where rules and tables are told apart -/

theorem deeporcRule_of_dropped {rule : Rule} (orderly : Orderly host)
    (same : host.foreign (cleanup host) = host.foreign host) (dropped : Dropped host table) (present : rule ∈ host.rules)
    (matched : host.matched table rule = true) : host.deeporcRule rule = true := by
  by_contra foreign
  have foreign : (!host.deeporcRule rule) = true := by simpa using foreign
  obtain ⟨before, next⟩ := dropped
  have rules : before.rules.filter (fun rule => !host.deeporcRule rule) =
      host.rules.filter fun rule => !host.deeporcRule rule := congrArg Host.rules (next.kept same)
  have listed : .ruleDel rule.pref ∈ deleteRulesForTable before table := by
    refine List.mem_map.mpr ⟨rule, List.mem_filter.mpr ⟨mem_of_foreign rules present foreign, ?_⟩, rfl⟩
    rw [looksUp_of_names next.names]
    exact matched
  obtain ⟨earlier, later, split⟩ := List.append_of_mem listed
  rw [dropTable, split, List.append_assoc, List.cons_append, ← List.singleton_append] at next
  have deletion : Next host (execute before earlier) [.ruleDel rule.pref] := by
    apply next.inside
    intro id member
    have inside : .forgetTable id ∈ deleteRulesForTable before table := by
      rw [split]
      exact List.mem_append_left _ member
    exact dropTable_lasting table id (List.mem_append_left _ inside)
  have rules : (execute before earlier).rules.filter (fun rule => !host.deeporcRule rule) =
      host.rules.filter fun rule => !host.deeporcRule rule := congrArg Host.rules (deletion.kept same)
  have held := mem_of_foreign rules present foreign
  -- the rule is the first with its preference, so it is the one that goes
  have some_first : ((execute before earlier).rules.find? fun other => other.pref = rule.pref).isSome :=
    List.find?_isSome.mpr ⟨rule, held, by simp⟩
  obtain ⟨first, front⟩ := Option.isSome_iff_exists.mp some_first
  have own := deletion.below.rules.subset (List.mem_of_find?_eq_some front)
  have pref := List.find?_some front
  obtain rfl := List.inj_on_of_nodup_map orderly.prefs own present (of_decide_eq_true pref)
  rw [deletion.finds same first front] at foreign
  cases foreign

theorem deeporcTable_of_dropped {route : Route} (same : host.foreign (cleanup host) = host.foreign host)
    (dropped : Dropped host table) (present : route ∈ host.routes) (flushed : host.flushes table route = true) :
    host.deeporcTable route.table = true := by
  by_contra foreign
  obtain ⟨before, next⟩ := dropped
  rw [dropTable, ← List.append_nil [Command.routeFlush table]] at next
  have flush : Next host (execute before (deleteRulesForTable before table)) [.routeFlush table] :=
    next.inside fun id member => dropTable_lasting table id (List.mem_append_left _ member)
  have routes : (execute before (deleteRulesForTable before table)).routes.filter
        (fun route => !host.deeporcTable route.table) =
      host.routes.filter fun route => !host.deeporcTable route.table := congrArg Host.routes (flush.kept same)
  have held := mem_of_foreign routes present (by simpa using foreign)
  exact foreign (flush.finds same route held (by rw [flushes_of_names flush.names]; exact flushed))

theorem macvlan_lost {name : Text} {command : Command} (held : name ∈ before.macvlans)
    (gone : name ∉ (command.run before).macvlans) : command = .wgQuickDown name ∨ command = .linkDel name := by
  have kept {other : Text} (different : other ≠ name) : name ∈ (before.linkDel other).macvlans := by
    unfold Host.linkDel
    split
    · exact List.mem_filter.mpr ⟨held, by simpa using different.symm⟩
    · exact held
  cases command with
  | wgQuickDown other =>
      by_cases same : other = name
      · exact .inl (congrArg Command.wgQuickDown same)
      · refine absurd ?_ gone
        change name ∈ (before.wgQuickDown other).macvlans
        unfold Host.wgQuickDown
        split
        · exact kept same
        · exact held
  | linkDel other =>
      by_cases same : other = name
      · exact .inr (congrArg Command.linkDel same)
      · exact absurd (kept same) gone
  | _ => exact absurd held gone

theorem listed_of_mem {name : Text} (member : .wgQuickDown name ∈ wgCommands host ∨ .linkDel name ∈ wgCommands host) :
    name ∈ deeporcWgIfaces host := by
  have own {other : Text} {before : Host} {command : Command} (named : command = .wgQuickDown name ∨ command = .linkDel name)
      (found : command ∈ cleanupWg before other) : other = name := by
    unfold cleanupWg at found
    dsimp only at found
    split at found
    · rcases named with rfl | rfl
      · exact (by simpa using found : name = other).symm
      · exact (by simpa using found : name = other).symm
    · rcases named with rfl | rfl
      · exact (by simpa [dropTable, deleteRulesForTable] using found : name = other).symm
      · exact (by simpa [dropTable, deleteRulesForTable] using found : name = other).symm
  rcases member with down | link
  · obtain ⟨other, listed, earlier, later, -, found⟩ := Lib.Commands.mem_each down
    exact own (.inl rfl) found ▸ listed
  · obtain ⟨other, listed, earlier, later, -, found⟩ := Lib.Commands.mem_each link
    exact own (.inr rfl) found ▸ listed

/-- A macvlan that has no listed name is still there when the macvlans' turn comes. -/
theorem macvlan_left {name : Text} (up : name ∈ host.macvlans) (unlisted : name ∉ deeporcWgIfaces host) :
    name ∈ (execute host (wgCommands host)).macvlans := by
  by_contra lost
  obtain ⟨earlier, command, later, whole, held, gone⟩ :=
    @Lib.Commands.exists_of_lost _ _ Command.run host (fun s => name ∈ s.macvlans) (wgCommands host) up lost
  have member : command ∈ wgCommands host := by
    rw [whole]
    exact List.mem_append_right _ List.mem_cons_self
  refine unlisted (listed_of_mem ?_)
  rcases macvlan_lost held gone with rfl | rfl
  · exact .inl member
  · exact .inr member

theorem slot_eq {name : Text} {rule : Rule} (orderly : Orderly host) (up : name ∈ host.macvlans)
    (numbered : isMac name = true) (present : rule ∈ host.rules) (lookup : host.forMac (name.drop 4) rule = true) :
    name.drop 4 = tableNumeric (host.lastWord rule) := by
  obtain ⟨mentioned, last⟩ := (Bool.and_eq_true _ _).mp lookup
  rcases (Bool.or_eq_true _ _).mp last with equal | named
  · apply orderly.written _ (mem_tables_mac up numbered present lookup) rule present
    exact (Bool.and_eq_true _ _).mpr ⟨mentioned, (Bool.or_eq_true _ _).mpr (.inl equal)⟩
  · obtain ⟨⟨-, some_digit⟩, digits⟩ : (startsWith name "mac_".toList = true ∧ (!(name.drop 4).isEmpty) = true) ∧
        (name.drop 4).all Char.isDigit = true := by
      simpa only [isMac, Bool.and_eq_true] using numbered
    have equal : host.lastWord rule = "deeporc-".toList ++ name.drop 4 := of_decide_eq_true named
    rw [equal, tableNumeric_slot (by simpa using some_digit) digits]

theorem safe_of_foreign (orderly : Orderly host) (same : host.foreign (cleanup host) = host.foreign host) :
    Safe host := by
  have views := same
  simp only [Host.foreign, Host.mk.injEq, and_true] at views
  obtain ⟨wireguard, -, macvlans, -, routes⟩ := views
  have interfaces : ∀ name ∈ host.wireguard, isGatewayIface name = true := by
    intro name up
    by_contra foreign
    have left := mem_of_foreign wireguard up (by simpa using foreign)
    exact (deleted_of_mem (linkDel_wg (mem_deeporcWgIfaces.mpr (.inl up)))).1 left
  have gateways : ∀ name ∈ deeporcWgIfaces host, isGatewayIface name = true := by
    intro name listed
    rcases mem_deeporcWgIfaces.mp listed with up | configured
    · exact interfaces name up
    · exact configured.2
  have unlisted : ∀ name ∈ host.macvlans, name ∉ deeporcWgIfaces host := by
    intro name up listed
    have left := mem_of_foreign macvlans up (by simp [gateway_not_mac (gateways name listed)])
    exact (deleted_of_mem (linkDel_wg listed)).2 left
  have dropped : ∀ table ∈ host.tables, Dropped host table := by
    intro table member
    rcases mem_tables.mp member with ⟨rule, present, name, listed, iif, lookup, rfl⟩ |
      ⟨name, up, numbered, rfl, rule, present, lookup⟩ | listed
    · by_cases left : rule ∈ (cleanup host).rules
      · exact dropped_of_wg orderly listed left iif lookup
      · exact dropped_of_lost orderly present left
    · by_cases left : rule ∈ (cleanup host).rules
      · exact dropped_of_mac (macvlan_left up (unlisted name up)) numbered left lookup
      · rw [slot_eq orderly up numbered present lookup]
        exact dropped_of_lost orderly present left
    · exact dropped_of_id listed
  refine ⟨interfaces, unlisted, ?_, ?_, ?_, ?_⟩
  · intro route member foreign
    have left := mem_of_foreign routes member (by simp [foreign])
    constructor
    · intro up
      exact route_gone (.inl up) (deleted_of_mem (linkDel_wg (mem_deeporcWgIfaces.mpr (.inl up)))) left
    · intro up
      by_contra numbered
      have numbered : isMac route.dev = true := by simpa using numbered
      refine route_gone (.inr up) ⟨?_, not_mem_macvlans_cleanup numbered⟩ left
      intro tunnel
      have gateway := interfaces route.dev (((taking host).execute_below host _).wireguard.subset tunnel)
      rw [gateway_not_mac gateway] at numbered
      cases numbered
  · intro table drops rule present matched
    exact deeporcRule_of_dropped orderly same (dropped table drops) present matched
  · refine (List.pairwise_map.mp orderly.prefs).imp ?_
    intro first later differ equal
    exact absurd equal differ
  · intro table drops route present flushed
    exact deeporcTable_of_dropped same (dropped table drops) present flushed

end Dropped

/-- A host with one gateway, and another rule on the preference of the gateway's. -/
def sharedPreference : Host where
  wireguard := ["wg-gw000".toList]
  configs := ["wg-gw000".toList]
  macvlans := ["mac_100".toList]
  rules := [⟨32600, ["from".toList, "all".toList], some "wg-gw000".toList, .lookup 100, []⟩,
    ⟨32600, ["from".toList, "10.8.0.0/24".toList], none, .lookup 42, []⟩]
  routes := [⟨100, "default".toList, "mac_100".toList⟩, ⟨42, "default".toList, "eth0".toList⟩]
  rtTables := ["200 deeporc".toList]

example : cleanup sharedPreference = sharedPreference.foreign sharedPreference := by decide +kernel

example : Safe sharedPreference := by decide +kernel

/-- In the other order, the other rule goes with the first deletion and the gateway's with the next. -/
example : (cleanup { sharedPreference with rules := sharedPreference.rules.reverse }).rules = [] := by decide +kernel

/-! ### A tunnel of somebody else's -/

/-- `wg0` has its own table, which another rule uses too. -/
def foreignTunnel : Host where
  wireguard := ["wg0".toList]
  configs := ["wg0".toList]
  macvlans := []
  rules := [⟨500, ["from".toList, "all".toList], some "wg0".toList, .lookup 42, []⟩,
    ⟨600, ["from".toList, "10.8.0.0/24".toList], none, .lookup 42, []⟩]
  routes := [⟨42, "default".toList, "eth0".toList⟩]
  rtTables := []

example : Orderly foreignTunnel ∧ ¬ Safe foreignTunnel := by decide +kernel

end DeepOrc.ExitHost
