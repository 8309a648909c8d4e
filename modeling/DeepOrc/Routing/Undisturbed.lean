import DeepOrc.Routing.Leaks
import DeepOrc.Routing.Steps

/-!
# The routing script with nothing in between

Run alone, the commands of the script do what the script was modelled to do as a whole.
-/

namespace DeepOrc.Routing.Steps

open Lib (Process)
open Lib.Ipv4 (Network dotted)
open Lib.PolicyRouting

variable {env : Env} {calls : Calls} {s : Router} {rounds : Nat} {strict : Bool}

/-! ### `_cleanup_stale` -/

theorem run_repeated_ruleDel (wanted : Rule Dev → Bool) (rounds : Nat) (s : Router) :
    (ruleScrub rounds wanted).run s = (true, { s with policy := s.policy.deleteWhile wanted rounds }) := by
  induction rounds generalizing s with
  | zero => rfl
  | succ rounds rest =>
      unfold ruleScrub at rest ⊢
      rw [Process.run_repeated_succ]
      unfold ruleDel at rest ⊢
      rw [Process.run_command]
      dsimp only
      cases some_ : s.policy.rules.any wanted with
      | false => simp [Policy.deleteWhile, some_]
      | true =>
          rw [if_pos rfl, if_pos rfl, rest]
          simp [Policy.deleteWhile, some_]

theorem run_ruleScrub {wanted : Rule Dev → Bool} (enough : (s.policy.rules.filter wanted).length ≤ rounds) :
    (ruleScrub rounds wanted).run s = (true, { s with policy := s.policy.deleteAll wanted }) := by
  rw [run_repeated_ruleDel, Policy.deleteWhile_eq wanted rounds s.policy enough, Policy.deleteAll_eq]

theorem length_deleteAll (wanted : Rule Dev → Bool) (policy : Policy Dev) :
    (policy.deleteAll wanted).rules.length ≤ policy.rules.length := by
  rw [Policy.deleteAll_eq]
  exact List.length_filter_le _ _

/-- As often as there are rules is enough. -/
theorem run_ruleScrub_of_length (wanted : Rule Dev → Bool) (enough : s.policy.rules.length ≤ rounds) :
    (ruleScrub rounds wanted).run s = (true, { s with policy := s.policy.deleteAll wanted }) :=
  run_ruleScrub (Nat.le_trans (List.length_filter_le _ _) enough)

theorem run_scrubs (prefs : List Nat) (rest : List (Process Router Bool)) (enough : s.policy.rules.length ≤ rounds) :
    (Process.inOrder strict ((prefs.map fun pref => ruleScrub rounds fun rule => rule.pref = pref) ++ rest)).run s =
      (Process.inOrder strict rest).run { s with policy := prefs.foldl ruleScrubPref s.policy } := by
  induction prefs generalizing s with
  | nil => rfl
  | cons pref prefs ih =>
      rw [List.map_cons, List.cons_append, Process.run_inOrder_cons_of_works (run_ruleScrub_of_length _ enough)]
      exact ih (Nat.le_trans (length_deleteAll _ _) enough)

theorem length_foldl_scrub (prefs : List Nat) (policy : Policy Dev) :
    (prefs.foldl ruleScrubPref policy).rules.length ≤ policy.rules.length := by
  rw [foldl_scrub]
  exact List.length_filter_le _ _

/-- The rules for the address of tailscale0 that send it to main. -/
def ownToMain (ip : Nat) (rule : Rule Dev) : Bool :=
  rule.selector.source = some ⟨ip, 32⟩ && looksUp mainTable rule.action

/-- `_cleanup_stale` past the preferences. -/
def cleanupRest (s : Router) : Router :=
  let policy := s.policy.deleteAll fun rule => rule.selector.iif = some tsIf && looksUp staleTable rule.action
  let policy :=
    match tsIp s with
    | none => policy
    | some ip => policy.deleteAll (ownToMain ip)
  { s with policy }.setTable staleTable .empty

theorem cleanupStale_eq (s : Router) :
    Routing.cleanupStale s = cleanupRest { s with policy := stalePrefs.foldl ruleScrubPref s.policy } := by
  unfold Routing.cleanupStale cleanupRest
  generalize stalePrefs.foldl ruleScrubPref s.policy = policy
  rfl

theorem run_readTsIp (chosen : Option Nat → Process Router Bool) :
    ((Process.read tsIp).bind chosen).run s = (chosen (tsIp s)).run s := by
  rw [Process.run_bind, Process.run_read]

theorem run_cleanupRest (rest : List (Process Router Bool)) (enough : s.policy.rules.length ≤ rounds) :
    (Process.inOrder strict
      ([ruleScrub rounds fun rule => rule.selector.iif = some tsIf && looksUp staleTable rule.action,
        (Process.read tsIp).bind fun ts => ts.elim (.done true) fun ip =>
          ruleScrub rounds fun rule => rule.selector.source = some ⟨ip, 32⟩ && looksUp mainTable rule.action,
        (routeFlush staleTable).anyway] ++ rest)).run s =
      (Process.inOrder strict rest).run (cleanupRest s) := by
  have first := run_ruleScrub_of_length
    (fun rule => rule.selector.iif = some tsIf && looksUp staleTable rule.action) enough
  have fewer := length_deleteAll (fun rule => rule.selector.iif = some tsIf && looksUp staleTable rule.action) s.policy
  rw [List.cons_append, Process.run_inOrder_cons_of_works first, List.cons_append]
  generalize gone : s.policy.deleteAll _ = policy at fewer
  have address : tsIp { s with policy } = tsIp s := rfl
  unfold cleanupRest
  rw [gone]
  cases ts : tsIp s with
  | none =>
      have second : ((Process.read tsIp).bind fun ts => ts.elim (.done true) fun ip => ruleScrub rounds fun rule =>
          rule.selector.source = some ⟨ip, 32⟩ && looksUp mainTable rule.action).run { s with policy } =
            (true, { s with policy }) := by
        rw [run_readTsIp, address, ts]
        rfl
      rw [Process.run_inOrder_cons_of_works second, List.cons_append,
        Process.run_inOrder_cons_of_works (Process.run_anyway _)]
      rfl
  | some ip =>
      have second : ((Process.read tsIp).bind fun ts => ts.elim (.done true) fun ip => ruleScrub rounds fun rule =>
          rule.selector.source = some ⟨ip, 32⟩ && looksUp mainTable rule.action).run { s with policy } =
            (true, { s with policy := policy.deleteAll (ownToMain ip) }) := by
        rw [run_readTsIp, address, ts]
        exact run_ruleScrub_of_length _ (Nat.le_trans fewer enough)
      rw [Process.run_inOrder_cons_of_works second, List.cons_append,
        Process.run_inOrder_cons_of_works (Process.run_anyway _)]
      rfl

theorem run_cleanupStale (rest : List (Process Router Bool)) (enough : s.policy.rules.length ≤ rounds) :
    (Process.inOrder strict (cleanupStale rounds ++ rest)).run s =
      (Process.inOrder strict rest).run (Routing.cleanupStale s) := by
  unfold cleanupStale
  rw [List.append_assoc, run_scrubs stalePrefs _ enough, cleanupStale_eq]
  exact run_cleanupRest rest (Nat.le_trans (length_foldl_scrub stalePrefs s.policy) enough)

/-! ### `_apply_host_link` -/

theorem contains_of_mem {link : Link} (member : vmNetwork env ∈ link.networks) : showsVmIp env link = true := by
  unfold showsVmIp
  refine List.any_eq_true.mpr ⟨vmNetwork env, member, ?_⟩
  have shown : (dotted env.vmIp).toList <:+: (vmNetwork env).text.toList := by
    refine ⟨[], ("/" ++ toString (16 : Nat)).toList, ?_⟩
    unfold vmNetwork Network.text
    change _ = (dotted env.vmIp ++ "/" ++ toString (16 : Nat)).toList
    rw [String.append_assoc, String.toList_append, String.toList_append, String.toList_append, List.nil_append]
  rw [decide_eq_true shown, Bool.true_or]

theorem run_hostUp {link : Link} (present : s.eth0 = some link) : hostUp.run s =
    (true, { (if link.up then s else link.networks.foldl connect s) with eth0 := some ⟨true, link.networks⟩ }) := by
  unfold hostUp
  rw [Process.run_command, present]
  rfl

theorem connect_eth0 (s : Router) (network : Network) (one other : Option Link) :
    { connect { s with eth0 := one } network with eth0 := other } = { connect s network with eth0 := other } := by
  unfold connect
  dsimp only
  split
  · rfl
  · rfl

theorem run_applyHostLink (rest : List (Process Router Bool)) :
    (Process.inOrder strict (applyHostLink env ++ rest)).run s =
      (Process.inOrder strict rest).run (Routing.applyHostLink env s) := by
  unfold applyHostLink
  rw [List.cons_append, Process.run_inOrder_cons_of_works (Process.run_anyway _)]
  cases present : s.eth0 with
  | none =>
      have up : hostUp.run s = (false, s) := by
        unfold hostUp
        rw [Process.run_command, present]
        rfl
      have shown : ((Process.read fun s => s.eth0.any (showsVmIp env)).bind fun shown =>
          if shown then .done true else (addrAdd env).anyway).run s = (true, s) := by
        rw [Process.run_bind, Process.run_read, present]
        change (addrAdd env).anyway.run s = _
        rw [Process.run_anyway]
        unfold addrAdd
        rw [Process.run_command, present]
        rfl
      rw [up, List.cons_append, Process.run_inOrder_cons_of_works shown, Routing.applyHostLink, present]
      rfl
  | some link =>
      rw [run_hostUp present, List.cons_append]
      generalize raised : (if link.up then s else link.networks.foldl connect s) = t
      have shown : ((Process.read fun s => s.eth0.any (showsVmIp env)).bind fun shown =>
          if shown then .done true else (addrAdd env).anyway).run { t with eth0 := some ⟨true, link.networks⟩ } =
            (true, { (if showsVmIp env link then t else connect t (vmNetwork env)) with
              eth0 := some (link.raised env) }) := by
        rw [Process.run_bind, Process.run_read]
        change (if showsVmIp env link then (.done true : Process Router Bool) else (addrAdd env).anyway).run _ = _
        unfold Link.raised
        cases shows : showsVmIp env link with
        | true => rfl
        | false =>
            have new : link.networks.contains (vmNetwork env) = false := by
              by_contra listed
              rw [Bool.not_eq_false] at listed
              rw [contains_of_mem (List.contains_iff_mem.mp listed)] at shows
              cases shows
            simp only [Bool.false_eq_true, if_false]
            rw [Process.run_anyway]
            unfold addrAdd
            rw [Process.run_command]
            simp only [Option.any_some, new, Bool.not_false, if_true, isUp, Option.map_some]
            rw [connect_eth0]
      rw [Process.run_inOrder_cons_of_works shown, Routing.applyHostLink, present]
      simp only [raised]
      rfl

/-! ### `_apply_wg_peer` and `_apply_wan_table` -/

/-- The rest of the script, after a function of it. -/
def Outcome (run : Bool × Router) (outcome : Except Router Router) : Prop :=
  match outcome with
  | .ok t => run = (true, t)
  | .error t => run = (false, t)

theorem run_applyWgPeer : Outcome ((applyWgPeer calls).run s) (Routing.applyWgPeer calls s) := by
  unfold applyWgPeer Routing.applyWgPeer
  rw [Process.run_bind, Process.run_read]
  dsimp only
  cases there : s.wg0.isSome with
  | false => simp [Outcome]
  | true =>
      cases set : calls.wgSet with
      | false => simp [Outcome]
      | true => simp [Outcome]

theorem wanGw_eq (env : Env) (tables : Nat → RoutingTable Dev) :
    Routing.wanGw env tables = (hostGw tables).elim (tableGw env tables) some := by
  unfold Routing.wanGw hostGw tableGw
  cases ((tables mainTable).filter fun route =>
      route.destination.bits = 0 && hopDev route.hop = some hostIf).best 0 with
  | some route => rfl
  | none =>
      simp only [Option.map_none, Option.elim_none]
      cases ((tables wanTable).filter fun route =>
          route.destination.bits = 0 && (hopGateway route.hop).isSome).best 0 with
      | some route => rfl
      | none => rfl

theorem run_wanGw : (wanGw env).run s = (Routing.wanGw env s.tables, s) := by
  unfold wanGw
  rw [Process.run_bind, Process.run_read, wanGw_eq]
  cases hostGw s.tables with
  | none => rfl
  | some gw => rfl

/-- Commands of which none may stop the script. -/
theorem run_inOrder_anyway (processes : List (Process Router Bool)) :
    (Process.inOrder strict (processes.map Process.anyway)).run s =
      (true, processes.foldl (fun s process => (process.run s).2) s) := by
  induction processes generalizing s with
  | nil => rfl
  | cons first rest ih =>
      rw [List.map_cons, Process.run_inOrder_cons_of_works (Process.run_anyway _), ih]
      rfl

/-! ### Routes put one after the other -/

theorem run_routeReplaceIf {works : Router → Bool} {table : Nat} {route : Route Dev} (taken : works s = true) :
    (routeReplaceIf works table route).run s = (true, s.setTable table ((s.tables table).replace route)) := by
  unfold routeReplaceIf
  rw [Process.run_command, taken]
  rfl

theorem run_routeReplaceIf_of_not {works : Router → Bool} {table : Nat} {route : Route Dev} (fails : works s = false) :
    (routeReplaceIf works table route).run s = (false, s) := by
  unfold routeReplaceIf
  rw [Process.run_command, fails]
  rfl

theorem run_routeReplace {table : Nat} {route : Route Dev} (works : hopWorks s route.hop = true) :
    (routeReplace table route).run s = (true, s.setTable table ((s.tables table).replace route)) := run_routeReplaceIf works

theorem run_routeReplace_of_not {table : Nat} {route : Route Dev} (fails : hopWorks s route.hop = false) :
    (routeReplace table route).run s = (false, s) := run_routeReplaceIf_of_not fails

theorem setTable_self (s : Router) (table : Nat) : s.setTable table (s.tables table) = s := by
  unfold Router.setTable
  rw [Function.update_eq_self]

theorem setTable_setTable (s : Router) (table : Nat) (routes routes' : RoutingTable Dev) :
    (s.setTable table routes).setTable table routes' = s.setTable table routes' := by
  unfold Router.setTable
  rw [Function.update_idem]

theorem tables_setTable (s : Router) (table : Nat) (routes : RoutingTable Dev) :
    (s.setTable table routes).tables table = routes := Function.update_self _ _ _

/-- What is done to the tables changes no link. -/
theorem hopWorks_setTable (s : Router) (table : Nat) (routes : RoutingTable Dev) (hop : Hop Dev) :
    hopWorks (s.setTable table routes) hop = hopWorks s hop := rfl

def after (processes : List (Process Router Bool)) (s : Router) : Router :=
  processes.foldl (fun s process => (process.run s).2) s

/-- Whether a route is taken does not depend on the tables. -/
theorem after_routeReplaceIf {works : Route Dev → Router → Bool} (table : Nat)
    (links : ∀ route s routes, works route (Router.setTable s table routes) = works route s) (routes : List (Route Dev))
    (s : Router) (taken : ∀ route ∈ routes, works route s = true) :
    after (routes.map fun route => routeReplaceIf (works route) table route) s =
      s.setTable table (routes.foldl RoutingTable.replace (s.tables table)) := by
  induction routes generalizing s with
  | nil => exact (setTable_self s table).symm
  | cons route routes rest =>
      unfold after at rest ⊢
      rw [List.map_cons, List.foldl_cons, run_routeReplaceIf (taken route List.mem_cons_self), rest, setTable_setTable,
        tables_setTable, List.foldl_cons]
      intro other member
      rw [links]
      exact taken other (List.mem_cons_of_mem _ member)

theorem after_tailnetReplace (table : Nat) (s : Router) :
    after [routeReplace table tailnetRoute, routeReplace table (hostRoute magicDns (.via tsIf none))] s =
      s.setTable table ((tailnetRoutes s).foldl RoutingTable.replace (s.tables table)) := by
  unfold tailnetRoutes
  have works : hopWorks s (.via tsIf none) = isUp s.tailscale0 := rfl
  cases up : isUp s.tailscale0 with
  | true =>
      refine @after_routeReplaceIf (fun route s => hopWorks s route.hop) table (fun _ _ _ => rfl)
        [tailnetRoute, hostRoute magicDns (.via tsIf none)] s fun route member => ?_
      rcases List.mem_cons.mp member with rfl | member
      · exact works.trans up
      · obtain rfl := List.mem_singleton.mp member
        exact works.trans up
  | false =>
      have first : (routeReplace table tailnetRoute).run s = (false, s) := run_routeReplace_of_not (works.trans up)
      have second : (routeReplace table (hostRoute magicDns (.via tsIf none))).run s = (false, s) :=
        run_routeReplace_of_not (works.trans up)
      unfold after
      rw [List.foldl_cons, first, List.foldl_cons, second]
      exact (setTable_self s table).symm

theorem after_append (earlier later : List (Process Router Bool)) (s : Router) :
    after (earlier ++ later) s = after later (after earlier s) := List.foldl_append

theorem run_applyWanTable : Outcome ((applyWanTable env calls true).run s) (Routing.applyWanTable env calls s) := by
  unfold applyWanTable Routing.applyWanTable
  rw [Process.run_bind, run_wanGw]
  cases Routing.wanGw env s.tables with
  | none => rfl
  | some gw =>
      simp only [Option.elim_some]
      cases gw with
      | none => rfl
      | some gw =>
          rw [Option.filter_some]
          cases reach : calls.takesGateway s.eth0 gw with
          | false =>
              have first : (throughGw calls (some gw) fun gw => defaultRoute (.via hostIf (some gw))).run s = (false, s) :=
                run_routeReplaceIf_of_not reach
              rw [Process.run_inOrder_cons, first]
              rfl
          | true =>
              have first : (throughGw calls (some gw) fun gw => defaultRoute (.via hostIf (some gw))).run s = (true, _) :=
                run_routeReplaceIf reach
              have listed : tailnetReplace wanTable ++ (pinned env calls).map (fun ip =>
                  (throughGw calls (some gw) fun gw => hostRoute ip (.via hostIf (some gw))).anyway) =
                  ([routeReplace wanTable tailnetRoute, routeReplace wanTable (hostRoute magicDns (.via tsIf none))] ++
                    ((pinned env calls).map fun ip => hostRoute ip (.via hostIf (some gw))).map
                      (routeVia calls.takesGateway wanTable gw)).map Process.anyway := by
                rw [List.map_append, List.map_map, List.map_map]
                rfl
              rw [Process.run_inOrder_cons_of_works first, listed, run_inOrder_anyway]
              change Outcome (true, after _ _) _
              rw [after_append, after_tailnetReplace]
              unfold routeVia
              rw [after_routeReplaceIf wanTable fun _ _ _ => rfl]
              · rw [setTable_setTable, setTable_setTable, tables_setTable, tables_setTable]
                simp only [if_true]
                rw [wanRoutes, List.foldl_cons, List.foldl_append]
                rfl
              · intro route member
                obtain ⟨ip, -, rfl⟩ := List.mem_map.mp member
                exact reach

/-! ### `_apply_main_table` -/

theorem after_routeDel (lines : List (Route Dev)) (s : Router) :
    after (lines.map fun line => routeDel mainTable fun route =>
      route.destination = line.destination && hopDev route.hop = some uplinkIf) s =
    s.setTable mainTable (lines.foldl (fun table line => table.delete fun route =>
      route.destination = line.destination && hopDev route.hop = some uplinkIf) (s.tables mainTable)) := by
  induction lines generalizing s with
  | nil => exact (setTable_self s mainTable).symm
  | cons line lines rest =>
      have first : ((routeDel mainTable fun route =>
          route.destination = line.destination && hopDev route.hop = some uplinkIf).run s).2 =
          s.setTable mainTable ((s.tables mainTable).delete fun route =>
            route.destination = line.destination && hopDev route.hop = some uplinkIf) := by
        unfold routeDel
        rw [Process.run_command]
        dsimp only
        split
        · rfl
        · rename_i none_
          have same : (s.tables mainTable).delete (fun route =>
              route.destination = line.destination && hopDev route.hop = some uplinkIf) = s.tables mainTable := by
            unfold RoutingTable.delete
            have left := List.eraseP_of_forall_not fun route member wants =>
              none_ (List.any_eq_true.mpr ⟨route, member, wants⟩)
            simp only [left]
          rw [same, setTable_self]
      unfold after at rest ⊢
      rw [List.map_cons, List.foldl_cons, first, rest, setTable_setTable, tables_setTable, List.foldl_cons]

theorem run_inOrder_false (processes : List (Process Router Bool)) :
    (Process.inOrder false processes).run s = (true, after processes s) := by
  induction processes generalizing s with
  | nil => rfl
  | cons first rest ih =>
      rw [Process.run_inOrder_cons, Bool.false_and, if_neg Bool.false_ne_true, ih]
      rfl

theorem run_stripWgPollution : (stripWgPollution env).run s =
    (true, s.setTable mainTable (Routing.stripWgPollution env (s.tables mainTable))) := by
  unfold stripWgPollution
  rw [Process.run_bind, Process.run_read, run_inOrder_false, after_routeDel]
  rfl

theorem run_applyMainTable : Outcome ((applyMainTable env true).run s) (Routing.applyMainTable env s) := by
  unfold applyMainTable Routing.applyMainTable
  rw [Process.run_bind, Process.run_read]
  cases present : s.wg0 with
  | none => rfl
  | some link =>
      simp only [Option.isSome_some, if_true]
      rw [Process.run_inOrder_cons_of_works run_stripWgPollution]
      generalize stripped : Routing.stripWgPollution env (s.tables mainTable) = table
      have links : hopWorks (s.setTable mainTable table) (.via uplinkIf none) = link.up := by
        rw [hopWorks_setTable]
        simp [hopWorks, linkOf, hostIf, uplinkIf, present, isUp]
      cases up : link.up with
      | false =>
          rw [Process.run_inOrder_cons, run_routeReplace_of_not (links.trans up)]
          rfl
      | true =>
          have works : hopWorks (s.setTable mainTable table) (defaultRoute (.via uplinkIf none)).hop = true := links.trans up
          have second : hopWorks (s.setTable mainTable (table.replace (defaultRoute (.via uplinkIf none))))
              (subnetRoute env (.via uplinkIf none)).hop = true := works
          rw [Process.run_inOrder_cons_of_works (run_routeReplace works), tables_setTable, setTable_setTable,
            Process.run_inOrder_cons_of_works (Process.run_anyway _), run_routeReplace second, tables_setTable,
            setTable_setTable]
          have listed : tailnetReplace mainTable = [routeReplace mainTable tailnetRoute,
              routeReplace mainTable (hostRoute magicDns (.via tsIf none))].map Process.anyway := rfl
          rw [listed, run_inOrder_anyway]
          change Outcome (true, after _ _) _
          rw [after_tailnetReplace, setTable_setTable, tables_setTable]
          rfl

/-! ### `_apply_policy_rules` -/

theorem rulesFor_eq (env : Env) (s : Router) : rulesFor env (tsIp s) = policyRules env s := rfl

theorem run_ruleReplace {rule : Rule Dev}
    (enough : (s.policy.rules.filter fun other => other.pref = rule.pref).length ≤ rounds) :
    (ruleReplace rounds rule).run s = (true, { s with policy := s.policy.put rule }) := by
  have new : (s.policy.deleteAll fun other => other.pref = rule.pref).rules.contains rule = false := by
    by_contra listed
    rw [Bool.not_eq_false, List.contains_iff_mem, Policy.deleteAll_eq] at listed
    have other := (List.mem_filter.mp listed).2
    simp at other
  unfold ruleReplace
  rw [Process.run_bind, run_ruleScrub enough]
  unfold ruleAdd
  rw [Process.run_command]
  dsimp only
  rw [new]
  rfl

theorem run_ruleReplaces (rules : List (Rule Dev)) (apart : (rules.map Rule.pref).Nodup)
    (enough : ∀ rule ∈ rules, (s.policy.rules.filter fun other => other.pref = rule.pref).length ≤ rounds) :
    (Process.inOrder strict (rules.map (ruleReplace rounds))).run s =
      (true, { s with policy := rules.foldl Policy.put s.policy }) := by
  induction rules generalizing s with
  | nil => rfl
  | cons rule rules rest =>
      rw [List.map_cons, List.nodup_cons] at apart
      have first := run_ruleReplace (enough rule List.mem_cons_self)
      rw [List.map_cons, Process.run_inOrder_cons_of_works first, rest apart.2]
      · rfl
      · intro other member
        have different : rule.pref ≠ other.pref := fun same => apart.1 (same ▸ List.mem_map_of_mem member)
        have unmoved : (s.policy.put rule).only (fun pref => decide (pref = other.pref)) = _ := Policy.only_put _
        rw [decide_eq_false different] at unmoved
        have same := congrArg Policy.rules unmoved
        change (s.policy.put rule).rules.filter _ = s.policy.rules.filter _ at same
        dsimp only
        rw [same]
        exact enough other (List.mem_cons_of_mem _ member)

theorem run_applyPolicyRules (enough : s.policy.rules.length ≤ rounds) :
    (applyPolicyRules env rounds strict).run s = (true, Routing.applyPolicyRules env s) := by
  unfold applyPolicyRules
  rw [run_readTsIp, rulesFor_eq, run_ruleReplaces _ (nodup_policyRules env s)]
  · rfl
  · intro rule _
    exact Nat.le_trans (List.length_filter_le _ _) enough

/-! ### `apply` -/

theorem outcome_bind {first : Process Router Bool} {rest : List (Process Router Bool)} {step : Except Router Router}
    {onward : Router → Except Router Router} (here : Outcome (first.run s) step)
    (later : ∀ t, step = .ok t → Outcome ((Process.inOrder true rest).run t) (onward t)) :
    Outcome ((Process.inOrder true (first :: rest)).run s) (step.bind onward) := by
  rw [Process.run_inOrder_cons]
  cases step with
  | error t =>
      change first.run s = (false, t) at here
      rw [here]
      rfl
  | ok t =>
      change first.run s = (true, t) at here
      rw [here]
      exact later t rfl

theorem policy_ok_applyWgPeer {t : Router} (passed : Routing.applyWgPeer calls s = .ok t) : t = s := by
  unfold Routing.applyWgPeer at passed
  split at passed
  · cases passed
  · cases passed
    rfl

theorem policy_ok_applyWanTable {t : Router} (passed : Routing.applyWanTable env calls s = .ok t) :
    t.policy = s.policy := by
  unfold Routing.applyWanTable at passed
  split at passed
  · cases passed
    rfl
  · split at passed
    · cases passed
    · cases passed
      rfl

theorem policy_ok_applyMainTable {t : Router} (passed : Routing.applyMainTable env s = .ok t) : t.policy = s.policy := by
  unfold Routing.applyMainTable at passed
  split at passed
  · cases passed
    rfl
  · dsimp only at passed
    split at passed
    · cases passed
      rfl
    · cases passed

theorem run_apply (enough : s.policy.rules.length ≤ rounds) :
    Outcome ((apply env calls rounds true).run s) (applySteps env calls s) := by
  have fewer : (prepared env s).policy.rules.length ≤ rounds := by
    rw [(prepared_links env s).2.2.2]
    exact Nat.le_trans (List.length_filter_le _ _) enough
  unfold apply
  rw [List.append_assoc, run_cleanupStale _ enough, run_applyHostLink]
  change Outcome _ ((Routing.applyWgPeer calls (prepared env s)).bind fun s =>
    (Routing.applyWanTable env calls s).bind fun s => (Routing.applyMainTable env s).bind fun s =>
      .ok (Routing.applyPolicyRules env s))
  apply outcome_bind run_applyWgPeer
  intro t peered
  obtain rfl := policy_ok_applyWgPeer peered
  apply outcome_bind run_applyWanTable
  intro u waned
  apply outcome_bind run_applyMainTable
  intro v mained
  have policy := (policy_ok_applyMainTable mained).trans (policy_ok_applyWanTable waned)
  rw [Process.run_inOrder_cons_of_works (run_applyPolicyRules (policy ▸ fewer))]
  rfl

/-- A script that nothing comes in between of leaves the state it was modelled to leave. -/
theorem run_apply_state (enough : s.policy.rules.length ≤ rounds) :
    ((apply env calls rounds true).run s).2 = Routing.apply env calls s := by
  have outcome : Outcome ((apply env calls rounds true).run s) (applySteps env calls s) := run_apply enough
  unfold Routing.apply
  cases steps : applySteps env calls s with
  | ok t =>
      rw [steps] at outcome
      exact congrArg Prod.snd outcome
  | error t =>
      rw [steps] at outcome
      exact congrArg Prod.snd outcome

end DeepOrc.Routing.Steps
