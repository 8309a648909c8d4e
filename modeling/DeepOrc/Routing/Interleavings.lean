import DeepOrc.Routing.Leaks
import DeepOrc.Routing.Undisturbed

/-!
# Exit traffic while the routes are being changed

The routing script, the agents and the start script of wg0 run at the same time. Whatever the order of their commands,
exit traffic should leave through wg0 or not at all, from the moment wg0 has the default of main. What goes to the public
resolvers is left out: the agent written in Python routes it through eth0 on purpose. So are gateways where a rule or
route of somebody else sends exit traffic elsewhere from the start.
-/

namespace DeepOrc.Routing

open Lib (Process Pool)
open Lib.Ipv4 (Network)
open Lib.PolicyRouting
open Selector (everything toNetwork fromHost onIif)

/-- A gateway with the networks around it, the addresses tailscale0 may have, and the destinations that are not meant to
go through wg0, such as the public resolvers. The address of the gateway is none of the tailnet. -/
structure Surroundings where
  env : Env
  near : List Network
  own : List Nat
  bypassed : List Nat
  vm_near : vmNetwork env ∈ near
  vm_outside : tailnet.contains env.vmIp = false

/-- From another node of the tailnet to the Internet. -/
structure Leaving (around : Surroundings) (packet : Packet Dev) : Prop where
  iif : packet.iif = tsIf
  source : tailnet.contains packet.source = true
  foreign : packet.source ∉ around.own
  tailnet : tailnet.contains packet.destination = false
  subnet : around.env.wgSubnet.contains packet.destination = false
  near : ∀ network ∈ around.near, network.contains packet.destination = false
  bypassed : packet.destination ∉ around.bypassed

def Aside (around : Surroundings) (route : Route Dev) : Prop :=
  ∀ packet, Leaving around packet → route.reaches packet.destination = false

def Uplinked (route : Route Dev) : Prop := ∃ gateway, route.hop = .via uplinkIf gateway

/-- The rule does not send exit traffic to the wan table. -/
def Harmless (around : Surroundings) (rule : Rule Dev) : Prop :=
  ∀ packet, Leaving around packet → rule.selector.selects packet = true →
    ∃ table suppress, table ≠ wanTable ∧ rule.action = .lookup table suppress

/-- The key of a default with the lowest metric. -/
def defaultKey : Nat × Nat × Nat := (0, 0, 0)

/-- Exit traffic finds its way to wg0, or to what is the default of main. -/
structure Guarded (around : Surroundings) (s : Router) : Prop where
  rules : ∀ rule ∈ s.policy.rules, Harmless around rule
  routes : ∀ table, table ≠ wanTable → ∀ route ∈ (s.tables table).routes,
    Aside around route ∨ Uplinked route ∨ table = mainTable ∧ route.key = defaultKey

/-- The default of main is wg0, if there is one. -/
def Sealed (around : Surroundings) (s : Router) : Prop :=
  ∀ route ∈ (s.tables mainTable).routes, route.key = defaultKey → Aside around route ∨ Uplinked route

/-- The rule of the kernel for main. -/
def mainRule : Rule Dev := ⟨32766, everything, lookup mainTable⟩

/-- Main sends to wg0, and is asked in the end. -/
structure Carried (s : Router) : Prop where
  route : ∃ route ∈ (s.tables mainTable).routes, route.key = defaultKey ∧ Uplinked route
  rule : mainRule ∈ s.policy.rules

/-- The addresses are those that were expected. -/
structure Known (around : Surroundings) (s : Router) : Prop where
  own : ∀ ip, tsIp s = some ip → ip ∈ around.own
  eth0 : ∀ link, s.eth0 = some link → ∀ network ∈ link.networks, network ∈ around.near
  wg0 : ∀ link, s.wg0 = some link → ∀ network ∈ link.networks, network ∈ around.near

/-- What may happen at any time: rules and routes go away, or come that do no harm. -/
structure Mild (around : Surroundings) (s t : Router) : Prop where
  known : Known around s → Known around t
  rules : ∀ rule ∈ t.policy.rules, rule ∈ s.policy.rules ∨ Harmless around rule
  routes : ∀ table, table ≠ wanTable → ∀ route ∈ (t.tables table).routes,
    route ∈ (s.tables table).routes ∨ Aside around route ∨ Uplinked route

/-- Mild, and main keeps its default. -/
def Steady (around : Surroundings) (s t : Router) : Prop := Mild around s t ∧ (Carried s → Carried t)

variable {around : Surroundings} {s t u : Router}

/-! ### What mild steps keep -/

theorem Mild.refl (around : Surroundings) (s : Router) : Mild around s s :=
  ⟨id, fun _ member => .inl member, fun _ _ _ member => .inl member⟩

theorem Mild.trans (first : Mild around s t) (second : Mild around t u) : Mild around s u where
  known := fun known => second.known (first.known known)
  rules := by
    intro rule member
    rcases second.rules rule member with earlier | harmless
    · exact first.rules rule earlier
    · exact .inr harmless
  routes := by
    intro table other route member
    rcases second.routes table other route member with earlier | fine
    · exact first.routes table other route earlier
    · exact .inr fine

theorem Steady.refl (around : Surroundings) (s : Router) : Steady around s s := ⟨.refl around s, id⟩

theorem Steady.trans (first : Steady around s t) (second : Steady around t u) : Steady around s u :=
  ⟨first.1.trans second.1, fun carried => second.2 (first.2 carried)⟩

theorem Guarded.step (guarded : Guarded around s) (mild : Mild around s t) : Guarded around t where
  rules := by
    intro rule member
    rcases mild.rules rule member with earlier | harmless
    · exact guarded.rules rule earlier
    · exact harmless
  routes := by
    intro table other route member
    rcases mild.routes table other route member with earlier | aside | uplinked
    · exact guarded.routes table other route earlier
    · exact .inl aside
    · exact .inr (.inl uplinked)

theorem Sealed.step (sealed_ : Sealed around s) (mild : Mild around s t) : Sealed around t := by
  intro route member default_
  rcases mild.routes mainTable (by decide) route member with earlier | fine
  · exact sealed_ route earlier default_
  · exact fine

theorem Carried.sealed (carried : Carried s) (around : Surroundings) : Sealed around s := by
  obtain ⟨present, listed, key, uplinked⟩ := carried.route
  intro route member default_
  have same := RoutingTable.eq_of_key member listed (default_.trans key.symm)
  exact .inr (same ▸ uplinked)

/-! ### Where exit traffic goes -/

theorem routed_of_guarded (guarded : Guarded around s) (sealed_ : Sealed around s) {packet : Packet Dev}
    (leaving : Leaving around packet) {hop : Hop Dev} (routed : s.routed packet = some hop) :
    ∃ gateway, hop = .via uplinkIf gateway := by
  obtain ⟨rule, member, decides⟩ := List.exists_of_findSome?_eq_some routed
  unfold Rule.verdict at decides
  split at decides
  · rename_i selects
    obtain ⟨table, suppress, other, action⟩ := guarded.rules rule member packet leaving selects
    rw [action] at decides
    unfold Action.verdict at decides
    dsimp only at decides
    split at decides
    · cases decides
    · rename_i route best
      obtain ⟨listed, reaches, -⟩ := RoutingTable.best_eq_some_iff.mp best
      have through : Uplinked route := by
        rcases guarded.routes table other route listed with aside | uplinked | ⟨rfl, default_⟩
        · rw [aside packet leaving] at reaches
          cases reaches
        · exact uplinked
        · rcases sealed_ route listed default_ with aside | uplinked
          · rw [aside packet leaving] at reaches
            cases reaches
          · exact uplinked
      obtain ⟨gateway, hop_⟩ := through
      rw [hop_] at decides
      dsimp only at decides
      split at decides
      · cases decides
      · cases decides
        exact ⟨gateway, rfl⟩
  · cases decides

theorem bits_of_defaultKey {route : Route Dev} (key : route.key = defaultKey) : route.destination.bits = 0 :=
  congrArg (fun key => key.2.1) key

theorem reaches_of_defaultKey {route : Route Dev} (key : route.key = defaultKey) {ip : Nat} (small : ip < 2 ^ 32) :
    route.reaches ip = true := by
  unfold Route.key defaultKey at key
  simp only [Prod.mk.injEq] at key
  obtain ⟨first, bits, -⟩ := key
  have size : route.destination.size = 2 ^ 32 := by rw [Network.size, bits]
  have zero : route.destination.address / 2 ^ 32 = 0 := by
    unfold Network.first at first
    rw [size] at first
    omega
  unfold Route.reaches Network.contains
  rw [size, zero, Nat.div_eq_of_lt small]
  rfl

theorem routed_of_carried (guarded : Guarded around s) (carried : Carried s) {packet : Packet Dev}
    (leaving : Leaving around packet) : ∃ gateway, s.routed packet = some (.via uplinkIf gateway) := by
  cases routed : s.routed packet with
  | some hop =>
      obtain ⟨gateway, rfl⟩ := routed_of_guarded guarded (carried.sealed around) leaving routed
      exact ⟨gateway, rfl⟩
  | none =>
      have silent := List.findSome?_eq_none_iff.mp routed mainRule carried.rule
      obtain ⟨present, present_listed, key, -⟩ := carried.route
      have reaches := reaches_of_defaultKey key packet.destination_lt
      cases best : (s.tables mainTable).best packet.destination with
      | none =>
          rw [RoutingTable.best_eq_none_iff.mp best _ present_listed] at reaches
          cases reaches
      | some route =>
          obtain ⟨listed, reaches', -⟩ := RoutingTable.best_eq_some_iff.mp best
          have through : Uplinked route := by
            rcases guarded.routes mainTable (by decide) route listed with aside | uplinked | ⟨-, default_⟩
            · rw [aside packet leaving] at reaches'
              cases reaches'
            · exact uplinked
            · rcases carried.sealed around route listed default_ with aside | uplinked
              · rw [aside packet leaving] at reaches'
                cases reaches'
              · exact uplinked
          obtain ⟨gateway, hop_⟩ := through
          have selects : mainRule.selector.selects packet = true := rfl
          unfold Rule.verdict at silent
          rw [if_pos selects] at silent
          unfold mainRule lookup Action.verdict at silent
          dsimp only at silent
          rw [best] at silent
          dsimp only at silent
          rw [hop_] at silent
          cases silent

/-! ### Rules and routes that do no harm -/

theorem harmless_lookup {pref table : Nat} {selector : Selector Dev} (other : table ≠ wanTable) :
    Harmless around ⟨pref, selector, lookup table⟩ :=
  fun _ _ _ => ⟨table, none, other, rfl⟩

theorem harmless_fromHost {pref ip table : Nat} (elsewhere : ip ∈ around.own ∨ tailnet.contains ip = false) :
    Harmless around ⟨pref, fromHost ip, lookup table⟩ := by
  intro packet leaving selects
  rw [selects_fromHost, decide_eq_true_eq] at selects
  rcases elsewhere with own | outside
  · exact absurd (selects ▸ own) leaving.foreign
  · have source := leaving.source
    rw [selects, outside] at source
    cases source

theorem aside_tailnetRoute : Aside around tailnetRoute := fun _ leaving => leaving.tailnet

theorem aside_hostRoute {ip : Nat} {hop : Hop Dev} (elsewhere : ∀ packet, Leaving around packet → packet.destination ≠ ip) :
    Aside around (hostRoute ip hop) := by
  intro packet leaving
  by_contra reaches
  rw [Bool.not_eq_false, hostRoute_reaches_iff] at reaches
  exact elsewhere packet leaving reaches

theorem aside_magicDns (hop : Hop Dev) : Aside around (hostRoute magicDns hop) := by
  apply aside_hostRoute
  intro packet leaving same
  have outside := leaving.tailnet
  rw [same] at outside
  revert outside
  decide

theorem aside_of_near {network : Network} (near : network ∈ around.near) {metric : Nat} {hop : Hop Dev}
    (fits : network.bits ≤ 32) : Aside around ⟨network, metric, hop, fits⟩ :=
  fun _ leaving => leaving.near network near

theorem aside_address {network : Network} (near : network ∈ around.near) (hop : Hop Dev) :
    Aside around (hostRoute network.address hop) := by
  apply aside_hostRoute
  intro packet leaving same
  have outside := leaving.near network near
  rw [same, network.contains_self] at outside
  cases outside

/-! ### Steps -/

theorem mem_put {table : RoutingTable Dev} {route other : Route Dev} (member : other ∈ (table.offer route).routes) :
    other ∈ table.routes ∨ other = route := by
  unfold RoutingTable.offer at member
  split at member
  · exact .inl member
  · rcases RoutingTable.mem_replace.mp member with same | ⟨earlier, -⟩
    · exact .inr same
    · exact .inl earlier

theorem mem_offer_of_mem {table : RoutingTable Dev} {route other : Route Dev} (member : other ∈ table.routes) :
    other ∈ (table.offer route).routes := by
  unfold RoutingTable.offer
  split
  · exact member
  · rename_i new
    refine RoutingTable.mem_replace.mpr (.inr ⟨member, fun same => ?_⟩)
    exact new (List.any_eq_true.mpr ⟨other, member, by simpa using same.symm⟩)

/-- A step that is all about one table. -/
theorem mild_setTable {table : Nat} {routes : RoutingTable Dev} (s : Router)
    (fine : table ≠ wanTable → ∀ route ∈ routes.routes,
      route ∈ (s.tables table).routes ∨ Aside around route ∨ Uplinked route) : Mild around s (s.setTable table routes) where
  known := fun known => ⟨known.own, known.eth0, known.wg0⟩
  rules := fun _ member => .inl member
  routes := by
    intro other elsewhere route member
    unfold Router.setTable at member
    dsimp only at member
    rw [Function.update_apply] at member
    split at member
    · rename_i same
      subst same
      exact fine elsewhere route member
    · exact .inl member

theorem carried_setTable {table : Nat} {routes : RoutingTable Dev}
    (kept : table = mainTable → ∀ route ∈ (s.tables mainTable).routes, route.key = defaultKey → Uplinked route →
      ∃ route ∈ routes.routes, route.key = defaultKey ∧ Uplinked route) (carried : Carried s) :
    Carried (s.setTable table routes) where
  route := by
    unfold Router.setTable
    dsimp only
    rw [Function.update_apply]
    split
    · rename_i same
      obtain ⟨route, member, key, uplinked⟩ := carried.route
      exact kept same.symm route member key uplinked
    · exact carried.route
  rule := carried.rule

theorem steady_offer (table : Nat) {route : Route Dev} (s : Router) (fine : Aside around route ∨ Uplinked route) :
    Steady around s (s.setTable table ((s.tables table).offer route)) := by
  refine ⟨mild_setTable s fun _ other member => ?_, carried_setTable fun same present member key uplinked => ?_⟩
  · rcases mem_put member with earlier | rfl
    · exact .inl earlier
    · exact .inr fine
  · subst same
    exact ⟨present, mem_offer_of_mem member, key, uplinked⟩

theorem steady_attach {network : Network} (near : network ∈ around.near) (dev : Dev) (s : Router) :
    Steady around s (Steps.attach dev s network) := by
  have address := steady_offer localTable s (.inl (aside_address near .here))
  unfold Steps.attach
  dsimp only
  split
  · rename_i fits
    exact address.trans (steady_offer mainTable _ (.inl (aside_of_near near fits)))
  · exact address

theorem steady_foldl_attach {networks : List Network} (near : ∀ network ∈ networks, network ∈ around.near) (dev : Dev)
    (s : Router) : Steady around s (networks.foldl (Steps.attach dev) s) := by
  induction networks generalizing s with
  | nil => exact .refl around s
  | cons network networks rest =>
      have first := steady_attach (near network List.mem_cons_self) dev s
      exact first.trans (rest (fun other member => near other (List.mem_cons_of_mem _ member)) _)

/-- A link with other addresses, all of them expected. -/
theorem steady_eth0 {link : Option Link} (expected : ∀ present, link = some present →
    ∀ network ∈ present.networks, network ∈ around.near) (s : Router) : Steady around s { s with eth0 := link } :=
  ⟨⟨fun known => ⟨known.own, expected, known.wg0⟩, fun _ member => .inl member, fun _ _ _ member => .inl member⟩,
    fun carried => ⟨carried.route, carried.rule⟩⟩

theorem steady_wg0 {link : Option Link} (expected : ∀ present, link = some present →
    ∀ network ∈ present.networks, network ∈ around.near) (s : Router) : Steady around s { s with wg0 := link } :=
  ⟨⟨fun known => ⟨known.own, known.eth0, expected⟩, fun _ member => .inl member, fun _ _ _ member => .inl member⟩,
    fun carried => ⟨carried.route, carried.rule⟩⟩

/-! ### What each command does -/

/-- Whatever others did before, every command is a step of the relation. -/
def Behaving (around : Surroundings) (relation : Router → Router → Prop) (process : Process Router Bool) : Prop :=
  ∀ s, process.Since (Known around) (fun _ _ => True) relation (fun _ _ => True) s

def Behaves (around : Surroundings) (process : Process Router Bool) : Prop := Behaving around (Steady around) process

section Commands

open Steps

theorem behaves_command {works : Router → Bool} {effect : Router → Router}
    (steady : ∀ s, Known around s → works s = true → Steady around s (effect s)) :
    Behaves around (.command works effect) :=
  fun _ => Process.since_command (fun t _ => .refl around t) fun t known _ works => steady t known works

theorem behaves_anyway {process : Process Router Bool} (behaves : Behaves around process) :
    Behaves around process.anyway := fun s => (behaves s).anyway

theorem behaves_inOrder {strict : Bool} {processes : List (Process Router Bool)}
    (all : ∀ process ∈ processes, Behaves around process) : Behaves around (.inOrder strict processes) :=
  Process.since_inOrder all

theorem behaves_done (status : Bool) : Behaves around (.done status) := fun _ => trivial

/-- What was read may be used afterwards. -/
theorem behaves_read {α : Type} {look : Router → α} {then_ : α → Process Router Bool} (found : α → Prop)
    (finds : ∀ s, Known around s → found (look s)) (onward : ∀ value, found value → Behaves around (then_ value)) :
    Behaves around ((Process.read look).bind then_) :=
  fun _ => (Process.since_read (fun t _ => .refl around t) fun t known _ => finds t known).bind
    fun value t good => onward value good t

theorem behaves_ruleDel {wanted : Rule Dev → Bool} (spares : wanted mainRule = false) :
    Behaves around (ruleDel wanted) := by
  refine behaves_command fun s _ _ => ⟨⟨?_, ?_, fun _ _ _ member => .inl member⟩, ?_⟩
  · intro known
    exact ⟨known.own, known.eth0, known.wg0⟩
  · intro rule member
    exact .inl (List.mem_of_mem_eraseP member)
  · intro carried
    exact ⟨carried.route, (List.mem_eraseP_of_neg (by simp [spares])).mpr carried.rule⟩

theorem behaves_ruleAdd {rule : Rule Dev} (harmless : Harmless around rule) : Behaves around (ruleAdd rule) := by
  refine behaves_command fun s _ _ => ⟨⟨?_, ?_, fun _ _ _ member => .inl member⟩, ?_⟩
  · intro known
    exact ⟨known.own, known.eth0, known.wg0⟩
  · intro other member
    rcases Policy.mem_add.mp member with rfl | earlier
    · exact .inr harmless
    · exact .inl earlier
  · intro carried
    exact ⟨carried.route, Policy.mem_add.mpr (.inr carried.rule)⟩

theorem behaves_routeReplace {works : Router → Bool} {table : Nat} {route : Route Dev}
    (fine : table ≠ wanTable → Aside around route ∨ Uplinked route)
    (default_ : table = mainTable → route.key = defaultKey → Uplinked route) :
    Behaves around (routeReplaceIf works table route) := by
  refine behaves_command fun s _ _ => ⟨mild_setTable s fun elsewhere other member => ?_, carried_setTable ?_⟩
  · rcases RoutingTable.mem_replace.mp member with rfl | ⟨earlier, -⟩
    · exact .inr (fine elsewhere)
    · exact .inl earlier
  · intro same present member key uplinked
    subst same
    by_cases taken : route.key = defaultKey
    · exact ⟨route, RoutingTable.mem_replace.mpr (.inl rfl), taken, default_ rfl taken⟩
    · exact ⟨present, RoutingTable.mem_replace.mpr (.inr ⟨member, fun same => taken (same.trans key)⟩), key, uplinked⟩

theorem behaves_routeDel {table : Nat} {wanted : Route Dev → Bool}
    (spares : ∀ route : Route Dev, route.key = defaultKey → wanted route = false) :
    Behaves around (routeDel table wanted) := by
  refine behaves_command fun s _ _ => ⟨mild_setTable s fun _ other member => ?_, carried_setTable ?_⟩
  · exact .inl (List.mem_of_mem_eraseP member)
  · intro same present member key uplinked
    subst same
    exact ⟨present, (List.mem_eraseP_of_neg (by simp [spares present key])).mpr member, key, uplinked⟩

theorem behaves_routeFlush {table : Nat} (other : table ≠ mainTable) : Behaves around (routeFlush table) := by
  refine behaves_command fun s _ _ => ⟨mild_setTable s fun _ route member => ?_, carried_setTable ?_⟩
  · cases member
  · intro same
    exact absurd same other

theorem behaves_ruleScrub {rounds : Nat} {wanted : Rule Dev → Bool} (spares : wanted mainRule = false) :
    Behaves around (ruleScrub rounds wanted) :=
  Process.since_repeated rounds (behaves_ruleDel spares)

theorem behaves_hostUp : Behaves around hostUp := by
  apply behaves_command
  intro s known _
  have expected : ∀ network ∈ (s.eth0.map Link.networks).getD [], network ∈ around.near := by
    intro network member
    cases present : s.eth0 with
    | none =>
        rw [present] at member
        cases member
    | some link =>
        rw [present] at member
        exact known.eth0 link present network member
  have routes : Steady around s
      (if isUp s.eth0 then s else ((s.eth0.map Link.networks).getD []).foldl connect s) := by
    split
    · exact .refl around s
    · exact steady_foldl_attach expected hostIf s
  refine routes.trans (steady_eth0 ?_ _)
  intro link present network member
  obtain ⟨earlier, was, rfl⟩ := Option.map_eq_some_iff.mp present
  exact known.eth0 earlier was network member

theorem behaves_addrAdd : Behaves around (addrAdd around.env) := by
  apply behaves_command
  intro s known _
  have routes : Steady around s (if isUp s.eth0 then connect s (vmNetwork around.env) else s) := by
    split
    · exact steady_attach around.vm_near hostIf s
    · exact .refl around s
  refine routes.trans (steady_eth0 ?_ _)
  intro link present network member
  obtain ⟨earlier, was, rfl⟩ := Option.map_eq_some_iff.mp present
  rcases List.mem_append.mp member with member | member
  · exact known.eth0 earlier was network member
  · rw [List.mem_singleton.mp member]
    exact around.vm_near

end Commands

/-! ### What each program does -/

namespace Steps

variable {calls : Calls} {rounds : Nat} {strict : Bool}

theorem behaves_scrubs (prefs : List Nat) (low : ∀ pref ∈ prefs, pref ≠ 32766) :
    ∀ process ∈ prefs.map (fun pref => ruleScrub rounds fun rule => rule.pref = pref), Behaves around process := by
  intro process member
  obtain ⟨pref, listed, rfl⟩ := List.mem_map.mp member
  exact behaves_ruleScrub (decide_eq_false fun same => low pref listed same.symm)

theorem behaves_cleanupStale : ∀ process ∈ cleanupStale rounds, Behaves around process := by
  intro process member
  rcases List.mem_append.mp member with member | member
  · exact behaves_scrubs stalePrefs (by decide) process member
  · simp only [List.mem_cons, List.not_mem_nil, or_false] at member
    rcases member with rfl | rfl | rfl
    · exact behaves_ruleScrub rfl
    · refine behaves_read (fun _ => True) (fun _ _ => trivial) fun ts _ => ?_
      cases ts with
      | none => exact behaves_done true
      | some ip => exact behaves_ruleScrub rfl
    · exact behaves_anyway (behaves_routeFlush (by decide))

theorem behaves_applyHostLink : ∀ process ∈ applyHostLink around.env, Behaves around process := by
  intro process member
  simp only [applyHostLink, List.mem_cons, List.not_mem_nil, or_false] at member
  rcases member with rfl | rfl
  · exact behaves_anyway behaves_hostUp
  · refine behaves_read (fun _ => True) (fun _ _ => trivial) fun shown _ => ?_
    cases shown with
    | true => exact behaves_done true
    | false => exact behaves_anyway behaves_addrAdd

theorem behaves_tailnetReplace (table : Nat) : ∀ process ∈ tailnetReplace table, Behaves around process := by
  intro process member
  simp only [tailnetReplace, List.mem_cons, List.not_mem_nil, or_false] at member
  rcases member with rfl | rfl
  · exact behaves_anyway (behaves_routeReplace (fun _ => .inl aside_tailnetRoute) fun _ key => absurd key (by decide))
  · exact behaves_anyway (behaves_routeReplace (fun _ => .inl (aside_magicDns _)) fun _ key => absurd key (by decide))

/-- Into the wan table anything may go. -/
theorem behaves_throughGw (gw : Option Nat) (route : Nat → Route Dev) : Behaves around (throughGw calls gw route) := by
  cases gw with
  | none => exact behaves_done false
  | some gw => exact behaves_routeReplace (fun other => absurd rfl other) fun same => absurd same (by decide)

theorem behaves_applyWanTable : Behaves around (applyWanTable around.env calls strict) := by
  intro s
  have reads : (wanGw around.env).Since (Known around) (fun _ _ => True) (Steady around) (fun _ _ => True) s := by
    have first : (Process.read fun s => hostGw s.tables).Since (Known around) (fun _ _ => True) (Steady around)
        (fun _ _ => True) s := Process.since_read (fun t _ => .refl around t) fun _ _ _ => trivial
    apply first.bind
    intro printed t _
    cases printed with
    | none => exact Process.since_read (fun t _ => .refl around t) fun _ _ _ => trivial
    | some gw => trivial
  apply reads.bind
  intro printed t _
  revert t
  cases printed with
  | none => exact behaves_done true
  | some gw =>
      apply behaves_inOrder
      intro process member
      rcases List.mem_cons.mp member with rfl | member
      · exact behaves_throughGw gw _
      · rcases List.mem_append.mp member with member | member
        · exact behaves_tailnetReplace wanTable process member
        · obtain ⟨ip, -, rfl⟩ := List.mem_map.mp member
          exact behaves_anyway (behaves_throughGw gw _)

theorem behaves_stripWgPollution : Behaves around (stripWgPollution around.env) := by
  refine behaves_read (fun lines => ∀ line ∈ lines, polluting around.env line = true) ?_ ?_
  · intro s _ line member
    exact (List.mem_filter.mp member).2
  · intro lines pollutes
    apply behaves_inOrder
    intro process member
    obtain ⟨line, listed, rfl⟩ := List.mem_map.mp member
    apply behaves_routeDel
    intro route key
    have long := pollutes line listed
    unfold polluting at long
    simp only [Bool.and_eq_true, decide_eq_true_eq] at long
    have different : route.destination ≠ line.destination := by
      intro same
      exact long.1.2 (same ▸ bits_of_defaultKey key)
    rw [decide_eq_false different, Bool.false_and]

theorem behaves_applyMainTable : Behaves around (applyMainTable around.env strict) := by
  refine behaves_read (fun _ => True) (fun _ _ => trivial) fun there _ => ?_
  cases there with
  | false => exact behaves_done true
  | true =>
      apply behaves_inOrder
      intro process member
      rcases List.mem_cons.mp member with rfl | member
      · exact behaves_stripWgPollution
      · rcases List.mem_cons.mp member with rfl | member
        · exact behaves_routeReplace (fun _ => .inr ⟨none, rfl⟩) fun _ _ => ⟨none, rfl⟩
        · rcases List.mem_cons.mp member with rfl | member
          · exact behaves_anyway (behaves_routeReplace (fun _ => .inr ⟨none, rfl⟩) fun _ _ => ⟨none, rfl⟩)
          · exact behaves_tailnetReplace mainTable process member

theorem behaves_ruleReplace {rule : Rule Dev} (harmless : Harmless around rule) (low : rule.pref ≠ 32766) :
    Behaves around (ruleReplace rounds rule) :=
  fun s => (behaves_ruleScrub (decide_eq_false fun same => low same.symm) s).bind fun _ t _ => behaves_ruleAdd harmless t

theorem main_ne_wan : mainTable ≠ wanTable := by decide

theorem stale_ne_wan : staleTable ≠ wanTable := by decide

theorem behaves_applyPolicyRules : Behaves around (applyPolicyRules around.env rounds strict) := by
  refine behaves_read (fun ts => ∀ ip, ts = some ip → ip ∈ around.own) (fun s known => known.own) fun ts own => ?_
  apply behaves_inOrder
  intro process member
  obtain ⟨rule, listed, rfl⟩ := List.mem_map.mp member
  have main_ {pref : Nat} {selector : Selector Dev} (low : pref ≠ 32766) :
      Behaves around (ruleReplace rounds ⟨pref, selector, lookup mainTable⟩) :=
    behaves_ruleReplace (harmless_lookup main_ne_wan) low
  rcases List.mem_append.mp listed with listed | listed
  · rcases List.mem_append.mp listed with listed | listed
    · simp only [List.mem_cons, List.not_mem_nil, or_false] at listed
      rcases listed with rfl | rfl
      · exact main_ (by decide)
      · exact main_ (by decide)
    · cases ts with
      | none => cases listed
      | some ip =>
          obtain rfl := List.mem_singleton.mp listed
          exact behaves_ruleReplace (harmless_fromHost (.inl (own ip rfl))) (show (45 : Nat) ≠ 32766 by decide)
  · simp only [List.mem_cons, List.not_mem_nil, or_false] at listed
    rcases listed with rfl | rfl | rfl | rfl | rfl
    · exact main_ (by decide)
    · exact behaves_ruleReplace (harmless_fromHost (.inr around.vm_outside)) (show (50 : Nat) ≠ 32766 by decide)
    · exact main_ (by decide)
    · exact main_ (by decide)
    · exact main_ (by decide)

theorem behaves_apply : Behaves around (apply around.env calls rounds strict) := by
  apply behaves_inOrder
  intro process member
  rcases List.mem_append.mp member with member | member
  · rcases List.mem_append.mp member with member | member
    · exact behaves_cleanupStale process member
    · exact behaves_applyHostLink process member
  · simp only [List.mem_cons, List.not_mem_nil, or_false] at member
    rcases member with rfl | rfl | rfl | rfl
    · exact behaves_read (fun _ => True) (fun _ _ => trivial) fun there _ => behaves_done _
    · exact behaves_applyWanTable
    · exact behaves_applyMainTable
    · exact behaves_applyPolicyRules

theorem behaves_stopRules : Behaves around (stopRules rounds) := by
  apply behaves_inOrder
  intro process member
  rcases List.mem_append.mp member with member | member
  · exact behaves_cleanupStale process member
  · exact behaves_scrubs _ (by decide) process member

/-! ### The agents -/

theorem named_mainRule {rule : Rule Dev} (low : rule.pref ≠ 32766) : named rule mainRule = false := by
  have different : decide (mainRule.pref = rule.pref) = false := decide_eq_false fun same => low same.symm
  unfold named
  rw [different]
  simp

theorem behaves_ruleDelPref {pref : Nat} (low : pref ≠ 32766) : Behaves around (ruleDelPref pref) :=
  behaves_ruleDel (decide_eq_false fun same => low same.symm)

theorem behaves_ipRule {rule : Rule Dev} (harmless : Harmless around rule) (low : rule.pref ≠ 32766) :
    Behaves around (ipRule rule) := by
  apply behaves_inOrder
  intro process member
  simp only [List.mem_cons, List.not_mem_nil, or_false] at member
  rcases member with rfl | rfl
  · exact behaves_ruleDel (named_mainRule low)
  · exact behaves_ruleAdd harmless

theorem behaves_ensureIpRule {rule : Rule Dev} (harmless : Harmless around rule) (low : rule.pref ≠ 32766) :
    Behaves around (ensureIpRule rule) := by
  apply behaves_inOrder
  intro process member
  simp only [List.mem_cons, List.not_mem_nil, or_false] at member
  rcases member with rfl | rfl
  · exact behaves_anyway (behaves_ruleDel (named_mainRule low))
  · exact behaves_ruleAdd harmless

theorem behaves_staleDefault : Behaves around (routeReplace staleTable (defaultRoute (.via uplinkIf none))) :=
  behaves_routeReplace (fun _ => .inr ⟨none, rfl⟩) fun _ _ => ⟨none, rfl⟩

theorem behaves_ensureBackhaulPolicyRouting (found : Detected) :
    Behaves around (ensureBackhaulPolicyRouting found) := by
  have main_ {pref : Nat} {selector : Selector Dev} (low : pref ≠ 32766) :
      Behaves around (ipRule ⟨pref, selector, lookup mainTable⟩) := behaves_ipRule (harmless_lookup main_ne_wan) low
  apply behaves_inOrder
  intro process member
  rcases List.mem_append.mp member with member | member
  · rcases List.mem_append.mp member with member | member
    · simp only [List.mem_cons, List.not_mem_nil, or_false] at member
      rcases member with rfl | rfl | rfl
      · exact main_ (by decide)
      · exact main_ (by decide)
      · exact main_ (by decide)
    · obtain ⟨ip, -, rfl⟩ := List.mem_map.mp member
      exact main_ (by decide)
  · simp only [List.mem_cons, List.not_mem_nil, or_false] at member
    rcases member with rfl | rfl | rfl | rfl | rfl
    · exact behaves_ruleDelPref (by decide)
    · exact behaves_ruleDelPref (by decide)
    · exact behaves_ruleDelPref (by decide)
    · exact behaves_ipRule (harmless_lookup stale_ne_wan) (by decide)
    · exact behaves_staleDefault

theorem behaves_restoreExitNodeRouting (configured : Option Detected) :
    Behaves around (restoreExitNodeRouting configured) := by
  apply behaves_inOrder
  intro process member
  rcases List.mem_append.mp member with member | member
  · simp only [List.mem_cons, List.not_mem_nil, or_false] at member
    rcases member with rfl | rfl | rfl
    · exact behaves_ruleDelPref (by decide)
    · exact behaves_ruleDelPref (by decide)
    · exact behaves_ruleDelPref (by decide)
  · obtain ⟨found, -, rfl⟩ := List.mem_map.mp member
    exact behaves_ensureBackhaulPolicyRouting found

theorem behaves_ensurePublicDnsBypass {takes : Option Link → Nat → Bool}
    (covered : ∀ ip ∈ publicDns, ip ∈ around.bypassed) : Behaves around (ensurePublicDnsBypass takes) := by
  refine behaves_read (fun _ => True) (fun _ _ => trivial) fun gw _ => ?_
  apply behaves_inOrder
  intro process member
  obtain ⟨resolver, listed, member⟩ := List.mem_flatMap.mp member
  have bypassed : resolver.1 ∈ around.bypassed := covered _ (List.of_mem_zip listed).1
  have low : resolver.2 ≠ 32766 := by
    intro same
    have other := (List.of_mem_zip listed).2
    rw [same] at other
    revert other
    decide
  rcases List.mem_append.mp member with member | member
  · rcases List.mem_append.mp member with member | member
    · obtain rfl := List.mem_singleton.mp member
      refine behaves_anyway (behaves_routeDel fun route key => ?_)
      have different : route.destination ≠ ⟨resolver.1, 32⟩ := by
        intro same
        have bits := bits_of_defaultKey key
        rw [same] at bits
        cases bits
      rw [decide_eq_false different, Bool.false_and]
    · obtain ⟨gw, -, rfl⟩ := List.mem_map.mp member
      refine behaves_anyway (behaves_routeReplace (fun _ => .inl (aside_hostRoute fun packet leaving same => ?_)) ?_)
      · exact leaving.bypassed (same ▸ bypassed)
      · intro _ key
        have bits := bits_of_defaultKey key
        cases bits
  · obtain rfl := List.mem_singleton.mp member
    exact behaves_ensureIpRule (harmless_lookup main_ne_wan) low

theorem behaves_ensureBackhaulFallback {takes : Option Link → Nat → Bool}
    (covered : ∀ ip ∈ publicDns, ip ∈ around.bypassed) (found : Detected) :
    Behaves around (ensureBackhaulFallback takes found) := by
  have main_ {pref : Nat} {selector : Selector Dev} (low : pref ≠ 32766) :
      Behaves around (ensureIpRule ⟨pref, selector, lookup mainTable⟩) :=
    behaves_ensureIpRule (harmless_lookup main_ne_wan) low
  apply behaves_inOrder
  intro process member
  rcases List.mem_append.mp member with member | member
  · rcases List.mem_append.mp member with member | member
    · simp only [List.mem_cons, List.not_mem_nil, or_false] at member
      rcases member with rfl | rfl | rfl
      · exact main_ (by decide)
      · exact main_ (by decide)
      · exact main_ (by decide)
    · obtain ⟨ip, -, rfl⟩ := List.mem_map.mp member
      exact main_ (by decide)
  · simp only [List.mem_cons, List.not_mem_nil, or_false] at member
    rcases member with rfl | rfl | rfl | rfl | rfl | rfl | rfl | rfl | rfl
    · exact behaves_anyway (behaves_ruleDelPref (by decide))
    · exact behaves_ensurePublicDnsBypass covered
    · exact main_ (by decide)
    · exact behaves_tailnetReplace mainTable _ (by simp [tailnetReplace])
    · exact main_ (by decide)
    · exact behaves_ensureIpRule (harmless_lookup stale_ne_wan) (by decide)
    · exact main_ (by decide)
    · exact behaves_staleDefault
    · exact behaves_tailnetReplace staleTable _ (by simp [tailnetReplace])

theorem behaves_cleanupStalePeerRouting (wgSubnet : Network) :
    ∀ process ∈ cleanupStalePeerRouting wgSubnet, Behaves around process := by
  intro process member
  simp only [cleanupStalePeerRouting, List.mem_cons, List.not_mem_nil, or_false] at member
  rcases member with rfl | rfl | rfl
  · exact behaves_anyway (behaves_ruleDelPref (by decide))
  · exact behaves_anyway (behaves_ruleDel rfl)
  · exact behaves_anyway (behaves_routeFlush (by decide))

/-! ### `wg-up.sh` -/

theorem mild_command {works : Router → Bool} {effect : Router → Router}
    (mild : ∀ s, Known around s → Mild around s (effect s)) : Behaving around (Mild around) (.command works effect) :=
  fun _ => Process.since_command (fun t _ => .refl around t) fun t known _ _ => mild t known

theorem mild_linkDel : Behaving around (Mild around) linkDel := by
  refine mild_command fun s _ => ⟨?_, fun _ member => .inl member, ?_⟩
  · intro known
    refine ⟨known.own, known.eth0, fun link present => ?_⟩
    cases present
  · intro table _ route member
    exact .inl (List.mem_filter.mp member).1

theorem mild_linkAdd : Behaving around (Mild around) linkAdd := by
  apply mild_command
  intro s _
  refine (steady_wg0 ?_ s).1
  intro link present network member
  cases present
  cases member

theorem mild_wgAddrAdd {address : Network} (near : address ∈ around.near) :
    Behaving around (Mild around) (wgAddrAdd address) := by
  apply mild_command
  intro s known
  have routes : Mild around s (if isUp s.wg0 then attach uplinkIf s address else s) := by
    split
    · exact (steady_attach near uplinkIf s).1
    · exact .refl around s
  refine routes.trans (steady_wg0 ?_ _).1
  intro link present network member
  obtain ⟨earlier, was, rfl⟩ := Option.map_eq_some_iff.mp present
  rcases List.mem_append.mp member with member | member
  · exact known.wg0 earlier was network member
  · rw [List.mem_singleton.mp member]
    exact near

theorem mild_wgLinkUp : Behaving around (Mild around) wgLinkUp := by
  apply mild_command
  intro s known
  have expected : ∀ network ∈ (s.wg0.map Link.networks).getD [], network ∈ around.near := by
    intro network member
    cases present : s.wg0 with
    | none =>
        rw [present] at member
        cases member
    | some link =>
        rw [present] at member
        exact known.wg0 link present network member
  have routes : Mild around s
      (if isUp s.wg0 then s else ((s.wg0.map Link.networks).getD []).foldl (attach uplinkIf) s) := by
    split
    · exact .refl around s
    · exact (steady_foldl_attach expected uplinkIf s).1
  refine routes.trans (steady_wg0 ?_ _).1
  intro link present network member
  obtain ⟨earlier, was, rfl⟩ := Option.map_eq_some_iff.mp present
  exact known.wg0 earlier was network member

theorem mild_wgUp {address : Network} (near : address ∈ around.near) (wgSet : Bool) :
    Behaving around (Mild around) (wgUp address wgSet) := by
  apply Process.since_inOrder
  intro process member
  simp only [List.mem_cons, List.not_mem_nil, or_false] at member
  rcases member with rfl | rfl | rfl | rfl | rfl
  · exact fun s => (mild_linkDel s).anyway
  · exact mild_linkAdd
  · exact fun _ => trivial
  · exact mild_wgAddrAdd near
  · exact mild_wgLinkUp

end Steps

/-! ### All of them at once -/

/-- How an agent written in Python sets up forwarding: with the routing script if it is there. -/
inductive Forwarding (around : Surroundings) : Process Router Bool → Prop
  | script (calls : Calls) (rounds : Nat) : Forwarding around (Steps.apply around.env calls rounds true)
  | fallback (takes : Option Link → Nat → Bool) (found : Steps.Detected)
      (covered : ∀ ip ∈ publicDns, ip ∈ around.bypassed) : Forwarding around (Steps.ensureBackhaulFallback takes found)

/-- What changes rules and routes. -/
inductive Routes (around : Surroundings) : Process Router Bool → Prop
  | script (calls : Calls) (rounds : Nat) (strict : Bool) : Routes around (Steps.apply around.env calls rounds strict)
  | stop (rounds : Nat) : Routes around (Steps.stopRules rounds)
  | advertiseGo (found : Steps.Detected) : Routes around (Steps.ensureBackhaulPolicyRouting found)
  | restoreGo (configured : Option Steps.Detected) : Routes around (Steps.restoreExitNodeRouting configured)
  | advertise (wgSubnet : Network) (forwarding : Process Router Bool) (known : Forwarding around forwarding) :
      Routes around (Steps.advertiseExitNode wgSubnet forwarding)
  | restore (forwarding : Option (Process Router Bool)) (known : ∀ process, forwarding = some process →
      Forwarding around process) : Routes around (Steps.restoreExitNode forwarding)

/-- With the start script of wg0. -/
inductive Program (around : Surroundings) : Process Router Bool → Prop
  | routes (process : Process Router Bool) (known : Routes around process) : Program around process
  | wgUp (address : Network) (wgSet : Bool) (near : address ∈ around.near) : Program around (Steps.wgUp address wgSet)

theorem Forwarding.behaves {process : Process Router Bool} (forwarding : Forwarding around process) :
    Behaves around process := by
  cases forwarding with
  | script calls rounds => exact Steps.behaves_apply
  | fallback takes found covered => exact Steps.behaves_ensureBackhaulFallback covered found

theorem Routes.behaves {process : Process Router Bool} (routes : Routes around process) : Behaves around process := by
  cases routes with
  | script calls rounds strict => exact Steps.behaves_apply
  | stop rounds => exact Steps.behaves_stopRules
  | advertiseGo found => exact Steps.behaves_ensureBackhaulPolicyRouting found
  | restoreGo configured => exact Steps.behaves_restoreExitNodeRouting configured
  | advertise wgSubnet forwarding known =>
      apply behaves_inOrder
      intro process member
      rcases List.mem_append.mp member with member | member
      · exact Steps.behaves_cleanupStalePeerRouting wgSubnet process member
      · obtain rfl := List.mem_singleton.mp member
        exact known.behaves
  | restore forwarding known =>
      apply behaves_inOrder
      intro process member
      rcases List.mem_cons.mp member with rfl | member
      · exact behaves_anyway (Steps.behaves_ruleDelPref (by decide))
      · exact (known process (Option.mem_toList.mp member)).behaves

theorem Program.mild {process : Process Router Bool} (program : Program around process) :
    Behaving around (Mild around) process := by
  cases program with
  | routes process known => exact fun s => (known.behaves s).weaken fun _ _ steady => steady.1
  | wgUp address wgSet near => exact Steps.mild_wgUp near wgSet

variable {pool pool' : Pool Router Bool}

/-- Of what the others do nothing has to be known. -/
theorem mild_agreement (around : Surroundings) :
    Pool.Agreement (Program around) (Mild around) (Known around) (fun _ _ => True) (Mild around) where
  refl := fun _ => trivial
  trans := fun _ _ _ _ _ => trivial
  relies := fun _ _ _ => trivial
  kept := fun _ _ known mild => mild.known known
  known := fun _ program => program.mild
  permitted := fun _ _ _ mild => mild

theorem steady_agreement (around : Surroundings) :
    Pool.Agreement (Routes around) (Steady around) (Known around) (fun _ _ => True) (Steady around) where
  refl := fun _ => trivial
  trans := fun _ _ _ _ _ => trivial
  relies := fun _ _ _ => trivial
  kept := fun _ _ known steady => steady.1.known known
  known := fun _ program => program.behaves
  permitted := fun _ _ _ steady => steady

/-- Of the routes put into a table, one for each destination and metric stays. -/
theorem exists_mem_foldl_replace {routes : List (Route Dev)} {route : Route Dev} (table : RoutingTable Dev)
    (given : route ∈ routes ∨ route ∈ table.routes) :
    ∃ found ∈ (routes.foldl RoutingTable.replace table).routes, found.key = route.key ∧ (found ∈ routes ∨ found = route) := by
  induction routes generalizing table route with
  | nil =>
      rcases given with listed | member
      · cases listed
      · exact ⟨route, member, rfl, .inr rfl⟩
  | cons first routes rest =>
      have widen {found : Route Dev} (among : found ∈ routes ∨ found = first) : found ∈ first :: routes := by
        rcases among with later | rfl
        · exact List.mem_cons_of_mem _ later
        · exact List.mem_cons_self
      rw [List.foldl_cons]
      by_cases same : first.key = route.key
      · obtain ⟨found, member, key, among⟩ :=
          @rest first (table.replace first) (.inr (RoutingTable.mem_replace.mpr (.inl rfl)))
        exact ⟨found, member, key.trans same, .inl (widen among)⟩
      · have given' : route ∈ routes ∨ route ∈ (table.replace first).routes := by
          rcases given with listed | member
          · rcases List.mem_cons.mp listed with rfl | listed
            · exact absurd rfl same
            · exact .inl listed
          · exact .inr (RoutingTable.mem_replace.mpr (.inr ⟨member, same⟩))
        obtain ⟨found, member, key, later | other⟩ := rest (table.replace first) given'
        · exact ⟨found, member, key, .inl (List.mem_cons_of_mem _ later)⟩
        · exact ⟨found, member, key, .inr other⟩

theorem mem_foldl_put {rule : Rule Dev} (rules : List (Rule Dev)) (policy : Policy Dev) (member : rule ∈ policy.rules)
    (apart : rule.pref ∉ rules.map Rule.pref) : rule ∈ (rules.foldl Policy.put policy).rules := by
  induction rules generalizing policy with
  | nil => exact member
  | cons first rules rest =>
      rw [List.map_cons, List.mem_cons, not_or] at apart
      refine rest (policy.put first) ?_ apart.2
      rw [Policy.put_eq, Policy.mem_add]
      exact .inr (List.mem_filter.mpr ⟨member, by simpa using apart.1⟩)

theorem mainRule_staying (kernel : mainRule ∈ s.policy.rules) : mainRule ∈ (staying s).rules := by
  refine List.mem_filter.mpr ⟨kernel, ?_⟩
  cases tsIp s with
  | none => rfl
  | some ip => rfl

theorem carried_outcome {env : Env} {calls : Calls} {gw : Option Nat} (kernel : mainRule ∈ s.policy.rules) :
    Carried (outcome env calls s (.uplinked gw)) where
  route := by
    obtain ⟨found, member, key, among⟩ := exists_mem_foldl_replace
      (stripWgPollution env ((withWan env calls (prepared env s) gw).tables mainTable))
      (.inl (List.mem_cons_self : defaultRoute (.via uplinkIf none) ∈
        uplinkRoutes env (withWan env calls (prepared env s) gw)))
    refine ⟨found, ?_, key.trans rfl, ?_⟩
    · have tables : (outcome env calls s (.uplinked gw)).tables mainTable = _ :=
        Steps.tables_setTable (withWan env calls (prepared env s) gw) mainTable _
      rw [tables]
      exact member
    · rcases among with listed | rfl
      · rcases List.mem_cons.mp listed with rfl | listed
        · exact ⟨none, rfl⟩
        · rcases List.mem_cons.mp listed with rfl | listed
          · exact ⟨none, rfl⟩
          · unfold tailnetRoutes at listed
            split at listed
            · rcases List.mem_cons.mp listed with rfl | listed
              · exact absurd key (by decide)
              · obtain rfl := List.mem_singleton.mp listed
                exact absurd key (by decide)
            · cases listed
      · exact ⟨none, rfl⟩
  rule := by
    rw [apply_policy]
    apply mem_foldl_put _ _ (mainRule_staying kernel)
    unfold policyRules
    cases tsIp s with
    | none => simp [mainRule]
    | some ip => simp [mainRule]

/-- With wg0 up before the script first runs. -/
def uplinked : Router := { booted with wg0 := some ⟨true, [⟨171967745, 24⟩]⟩ }

def defaultSurroundings : Surroundings where
  env := defaultEnv
  near := [vmNetwork defaultEnv, ⟨168427520, 16⟩, ⟨1681915909, 32⟩, ⟨171967745, 24⟩]
  own := [1681915909]
  bypassed := []
  vm_near := List.mem_cons_self
  vm_outside := by decide

theorem uplinked_known : Known defaultSurroundings uplinked where
  own := by
    intro ip address
    cases address
    exact List.mem_cons_self
  eth0 := by
    intro link present network member
    cases present
    obtain rfl := List.mem_singleton.mp member
    exact List.mem_cons_self
  wg0 := by
    intro link present network member
    cases present
    obtain rfl := List.mem_singleton.mp member
    exact List.mem_cons_of_mem _ (List.mem_cons_of_mem _ (List.mem_cons_of_mem _ List.mem_cons_self))

theorem uplinked_tables (table : Nat) : uplinked.tables table =
    if table = mainTable then
      (RoutingTable.empty.replace ⟨⟨168427520, 16⟩, 0, .via hostIf none, by decide⟩).replace
        (defaultRoute (.via hostIf (some 168427521)))
    else .empty := by
  unfold uplinked booted
  dsimp only
  rw [Function.update_apply]

theorem uplinked_guarded : Guarded defaultSurroundings uplinked where
  rules := by
    intro rule member
    have listed : rule ∈ kernelPolicy.rules := member
    simp only [kernelPolicy, List.mem_cons, List.not_mem_nil, or_false] at listed
    rcases listed with rfl | rfl | rfl
    · exact harmless_lookup (by decide)
    · exact harmless_lookup (by decide)
    · exact harmless_lookup (by decide)
  routes := by
    intro table _ route member
    by_cases same : table = mainTable
    · subst same
      rw [uplinked_tables, if_pos rfl] at member
      rcases RoutingTable.mem_replace.mp member with rfl | ⟨member, -⟩
      · exact .inr (.inr ⟨rfl, rfl⟩)
      · rcases RoutingTable.mem_replace.mp member with rfl | ⟨member, -⟩
        · exact .inl (aside_of_near (List.mem_cons_of_mem _ List.mem_cons_self) _)
        · cases member
    · rw [uplinked_tables, if_neg same] at member
      cases member

theorem toInternet_leaving : Leaving defaultSurroundings toInternet where
  iif := rfl
  source := by decide
  foreign := by decide
  tailnet := by decide
  subnet := by decide
  near := by decide
  bypassed := by decide

/-- What the agent of that gateway reads from the links. -/
def detected : Steps.Detected := ⟨168428042, 171967745, ⟨171967744, 24⟩, some 1681915909⟩

theorem uplinked_progress : progressWith defaultEnv noNames uplinked (wanGw defaultEnv (prepared defaultEnv uplinked).tables) =
    .uplinked (some 168427521) := by
  have printed : wanGw defaultEnv (prepared defaultEnv uplinked).tables = some (some 168427521) := by decide +kernel
  have reach : noNames.takesGateway (uplinked.raised defaultEnv).eth0 168427521 = true := by decide +kernel
  rw [printed]
  unfold progressWith
  rw [Option.map_some, Option.filter_some, reach]
  rfl

theorem uplinked_applied : Pool.Reaches (Program defaultSurroundings) (Mild defaultSurroundings) ⟨uplinked, []⟩
    ⟨apply defaultEnv noNames uplinked, []⟩ := by
  have program : Program defaultSurroundings (Steps.apply defaultEnv noNames uplinked.policy.rules.length true) :=
    .routes _ (.script noNames _ true)
  have alone : Pool.Reaches (Program defaultSurroundings) (Mild defaultSurroundings) ⟨uplinked, []⟩
      ⟨(Process.run _ uplinked).2, []⟩ := Pool.reaches_run program uplinked []
  rw [Steps.run_apply_state (Nat.le_refl _)] at alone
  exact alone

theorem uplinked_sealed : Sealed defaultSurroundings (apply defaultEnv noNames uplinked) := by
  rw [apply_eq, uplinked_progress]
  exact (carried_outcome (by decide)).sealed defaultSurroundings

end DeepOrc.Routing
