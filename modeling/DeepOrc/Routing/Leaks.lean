import DeepOrc.Routing.Script

/-!
# Whether exit traffic stays off the WAN

Main is where the rules of the script send exit traffic. Its default is wg0 only if wg0 is up when the script runs; without
wg0 it keeps the default it had.
-/

namespace DeepOrc.Routing

open Lib.Ipv4 (Network)
open Lib.PolicyRouting
open Selector (everything toNetwork fromHost onIif)

/-- Exit traffic: from the tailnet, but not from the gateway, to none of the networks around it. -/
structure ExitPacket (env : Env) (s : Router) (packet : Packet Dev) : Prop where
  iif : packet.iif = tsIf
  source : tailnet.contains packet.source = true
  foreign : tsIp s ≠ some packet.source
  tailnet : tailnet.contains packet.destination = false
  subnet : env.wgSubnet.contains packet.destination = false
  host : ∀ link, s.eth0 = some link → ∀ network ∈ link.networks, network.contains packet.destination = false

/-- To wg0 if to any link. -/
def Contained (hop : Option (Hop Dev)) : Prop := ∀ dev gateway, hop = some (.via dev gateway) → dev = uplinkIf

def NoLeak (env : Env) (s : Router) : Prop := ∀ packet, ExitPacket env s packet → Contained (s.routed packet)

/-! ### What decides about exit traffic, in the state before -/

/-- How far the script gets, with the gateway the wan table is given if it is given one. -/
inductive Progress where
  | stopped
  | down (gw : Option Nat)
  | missing (gw : Option Nat)
  | uplinked (gw : Option Nat)

def Router.raised (env : Env) (s : Router) : Router := { s with eth0 := s.eth0.map (Link.raised env) }

/-- `printed` is what `_wan_gw` prints. -/
def progressWith (env : Env) (calls : Calls) (s : Router) (printed : Option (Option Nat)) : Progress :=
  if s.wg0.isSome && !calls.wgSet then .stopped
  else
    match printed.map fun gw => gw.filter (calls.takesGateway (s.raised env).eth0) with
    | some none => .stopped
    | gw =>
        match s.wg0 with
        | none => .missing gw.join
        | some link => if link.up then .uplinked gw.join else .down gw.join

def progress (env : Env) (calls : Calls) (s : Router) : Progress := progressWith env calls s (wanGw env s.tables)

def specific (table : RoutingTable Dev) (ip : Nat) : Option (Route Dev) :=
  (table.filter fun route => route.destination.bits ≠ 0).best ip

def throughUplink (route : Route Dev) : Bool := route.destination.bits ≠ 0 && hopDev route.hop = some uplinkIf

/-- In the wan table a pinned address goes to eth0, and so does what has no route but a default. -/
def wanFound (env : Env) (calls : Calls) (table : RoutingTable Dev) (ip : Nat) : Option Nat → Option (Route Dev)
  | none => table.best ip
  | some gw =>
      if ip ∈ pinned env calls then some (hostRoute ip (.via hostIf (some gw)))
      else (specific table ip).or (some (defaultRoute (.via hostIf (some gw))))

/-- What exit traffic finds in a table, told by what the tables had before. -/
def found (env : Env) (calls : Calls) (s : Router) (progress : Progress) : Lookup Dev := fun table ip =>
  if table = staleTable then none
  else
    match progress with
    | .stopped => (s.tables table).best ip
    | .missing gw => if table = wanTable then wanFound env calls (s.tables wanTable) ip gw else (s.tables table).best ip
    | .down gw =>
        if table = wanTable then wanFound env calls (s.tables wanTable) ip gw
        else if table = mainTable then ((s.tables mainTable).filter fun route => !throughUplink route).best ip
        else (s.tables table).best ip
    | .uplinked gw =>
        if table = wanTable then wanFound env calls (s.tables wanTable) ip gw
        else if table = mainTable then
          (specific ((s.tables mainTable).filter fun route => !throughUplink route) ip).or
            (some (defaultRoute (.via uplinkIf none)))
        else (s.tables table).best ip

/-- The rules that are not cleaned up. -/
def staying (s : Router) : Policy Dev :=
  s.policy.filter fun rule =>
    !stalePrefs.contains rule.pref && !(rule.selector.iif = some tsIf && looksUp staleTable rule.action) &&
      !(tsIp s).any fun ip => rule.selector.source = some ⟨ip, 32⟩ && looksUp mainTable rule.action

/-- Of these the rules at preferences the script does not use itself. -/
def unmanaged (env : Env) (s : Router) : Policy Dev :=
  (staying s).only fun pref => pref ∉ (policyRules env s).map Rule.pref

/-- The first of the script's rules that sends the packet to main. -/
def toMainPref (env : Env) (packet : Packet Dev) : Nat := if packet.source = env.wgGw then 40 else 49

def vmRule (env : Env) : Rule Dev := ⟨50, fromHost env.vmIp, lookup wanTable⟩

/-- The rules ahead of main send exit traffic nowhere but to wg0, and so does main; where main has nothing for it, the
rules behind. A script that stops leaves the rules that are not cleaned up. -/
def Fenced (env : Env) (calls : Calls) (s : Router) : Prop :=
  ∀ packet, ExitPacket env (s.raised env) packet →
    let found := found env calls s (progress env calls s)
    match progress env calls s with
    | .stopped | .down _ => Contained (walk found packet (staying s).rules)
    | .missing _ | .uplinked _ =>
        match (lookup mainTable).verdict found packet.destination with
        | some hop =>
            let ahead := walk found packet ((unmanaged env s).only (· < toMainPref env packet)).rules
            Contained ahead ∧ (ahead = none → Contained (some hop))
        | none => Contained (walk found packet ((unmanaged env s).put (vmRule env)).rules)

/-! ### What the tables have for exit traffic -/

section Tables

variable {env : Env} {calls : Calls} {s : Router} {ip : Nat}

theorem best_setTable (table other : Nat) (routes : RoutingTable Dev) :
    ((s.setTable table routes).tables other).best ip =
      if other = table then routes.best ip else (s.tables other).best ip := by
  unfold Router.setTable
  dsimp only
  rw [Function.update_apply]
  split
  · rfl
  · rfl

/-- A step that changes no routes for the address. -/
def Unmoved (ip : Nat) (s t : Router) : Prop := ∀ table (route : Route Dev), route.reaches ip = true →
  (route ∈ (t.tables table).routes ↔ route ∈ (s.tables table).routes)

theorem Unmoved.refl (ip : Nat) (s : Router) : Unmoved ip s s := fun _ _ _ => Iff.rfl

theorem Unmoved.trans {t u : Router} (first : Unmoved ip s t) (second : Unmoved ip t u) : Unmoved ip s u :=
  fun table route reaches => (second table route reaches).trans (first table route reaches)

theorem default_reaches {route : Route Dev} (length : route.destination.bits = 0) (reaches : route.reaches 0 = true)
    (small : ip < 2 ^ 32) : route.reaches ip = true := by
  have size : route.destination.size = 2 ^ 32 := by rw [Network.size, length]
  unfold Route.reaches Network.contains at reaches ⊢
  rw [size, beq_iff_eq] at reaches ⊢
  rw [Nat.div_eq_of_lt small, ← reaches]
  rfl

theorem Unmoved.best {t : Router} (unmoved : Unmoved ip s t) (table : Nat) :
    (t.tables table).best ip = (s.tables table).best ip :=
  RoutingTable.best_congr (unmoved table)

theorem Unmoved.best_filter {t : Router} (unmoved : Unmoved ip s t) (table : Nat) (kept : Route Dev → Bool) :
    ((t.tables table).filter kept).best ip = ((s.tables table).filter kept).best ip := by
  apply RoutingTable.best_congr
  intro route reaches
  rw [RoutingTable.mem_filter, RoutingTable.mem_filter, unmoved table route reaches]

theorem Unmoved.defaults {t : Router} (unmoved : Unmoved ip s t) (small : ip < 2 ^ 32) (table : Nat)
    (wanted : Route Dev → Bool) :
    ((t.tables table).filter fun route => route.destination.bits = 0 && wanted route).best 0 =
      ((s.tables table).filter fun route => route.destination.bits = 0 && wanted route).best 0 := by
  apply RoutingTable.best_congr
  intro route reaches
  rw [RoutingTable.mem_filter, RoutingTable.mem_filter]
  apply and_congr_left
  intro kept
  have length : route.destination.bits = 0 := by
    simp only [Bool.and_eq_true, decide_eq_true_eq] at kept
    exact kept.1
  exact unmoved table route (default_reaches length reaches small)

theorem offer_unmoved {offered : Route Dev} (misses : offered.reaches ip = false) (s : Router) (table : Nat) :
    Unmoved ip s (s.setTable table ((s.tables table).offer offered)) := by
  intro other route reaches
  unfold Router.setTable
  dsimp only
  rw [Function.update_apply]
  split
  · rename_i same
    rw [same]
    exact RoutingTable.mem_offer misses reaches
  · rfl

theorem reaches_host {network : Network} (outside : network.contains ip = false) (hop : Hop Dev) :
    (hostRoute network.address hop).reaches ip = false := by
  by_contra inside
  rw [Bool.not_eq_false] at inside
  have same : ip / 1 = network.address / 1 := by simpa [Route.reaches, hostRoute, Network.contains, Network.size] using inside
  rw [Nat.div_one, Nat.div_one] at same
  rw [same, Network.contains_self] at outside
  cases outside

theorem connect_unmoved {network : Network} (outside : network.contains ip = false) (s : Router) :
    Unmoved ip s (connect s network) := by
  have address := offer_unmoved (reaches_host outside .here) s localTable
  unfold connect
  dsimp only
  split
  · rename_i fits
    have misses : (⟨network, 0, .via hostIf none, fits⟩ : Route Dev).reaches ip = false := outside
    exact address.trans (offer_unmoved misses _ mainTable)
  · exact address

theorem foldl_connect_unmoved {networks : List Network}
    (outside : ∀ network ∈ networks, network.contains ip = false) (s : Router) :
    Unmoved ip s (networks.foldl connect s) := by
  induction networks generalizing s with
  | nil => exact .refl ip s
  | cons network networks rest =>
      have later := rest (fun other member => outside other (List.mem_cons_of_mem _ member)) (connect s network)
      exact (connect_unmoved (outside network List.mem_cons_self) s).trans later

theorem applyHostLink_unmoved
    (outside : ∀ link, (s.raised env).eth0 = some link → ∀ network ∈ link.networks, network.contains ip = false) :
    Unmoved ip s (applyHostLink env s) := by
  unfold applyHostLink
  split
  · exact .refl ip s
  · rename_i link present
    have raised : (s.raised env).eth0 = some (link.raised env) := by rw [Router.raised, present]; rfl
    have old : ∀ network ∈ link.networks, network.contains ip = false := by
      intro network member
      apply outside _ raised network
      unfold Link.raised
      dsimp only
      split
      · exact member
      · exact List.mem_append_left _ member
    have first : Unmoved ip s (if link.up then s else link.networks.foldl connect s) := by
      split
      · exact .refl ip s
      · exact foldl_connect_unmoved old s
    dsimp only
    split
    · exact first
    · rename_i hidden
      have new : (vmNetwork env).contains ip = false := by
        apply outside _ raised _
        unfold Link.raised
        dsimp only
        rw [if_neg hidden]
        exact List.mem_append_right _ (List.mem_singleton.mpr rfl)
      exact first.trans (connect_unmoved new _)

/-! ### The course of the script -/

/-- The state before anything can stop the script. -/
def prepared (env : Env) (s : Router) : Router := applyHostLink env (cleanupStale s)

def withWan (env : Env) (calls : Calls) (s : Router) : Option Nat → Router
  | none => s
  | some gw => s.setTable wanTable ((wanRoutes env calls s gw).foldl RoutingTable.replace (s.tables wanTable))

theorem connect_links (s : Router) (network : Network) : (connect s network).wg0 = s.wg0 ∧
    (connect s network).tailscale0 = s.tailscale0 ∧ (connect s network).policy = s.policy := by
  unfold connect
  dsimp only
  split
  · exact ⟨rfl, rfl, rfl⟩
  · exact ⟨rfl, rfl, rfl⟩

theorem foldl_connect_links (networks : List Network) (s : Router) : (networks.foldl connect s).wg0 = s.wg0 ∧
    (networks.foldl connect s).tailscale0 = s.tailscale0 ∧ (networks.foldl connect s).policy = s.policy := by
  induction networks generalizing s with
  | nil => exact ⟨rfl, rfl, rfl⟩
  | cons network networks rest =>
      obtain ⟨wg0, tailscale0, policy⟩ := rest (connect s network)
      obtain ⟨wg0', tailscale0', policy'⟩ := connect_links s network
      exact ⟨wg0.trans wg0', tailscale0.trans tailscale0', policy.trans policy'⟩

theorem applyHostLink_links (env : Env) (s : Router) : (applyHostLink env s).eth0 = (s.raised env).eth0 ∧
    (applyHostLink env s).wg0 = s.wg0 ∧ (applyHostLink env s).tailscale0 = s.tailscale0 ∧
      (applyHostLink env s).policy = s.policy := by
  unfold applyHostLink
  split
  · rename_i absent
    exact ⟨by rw [Router.raised, absent]; rfl, rfl, rfl, rfl⟩
  · rename_i link present
    have first : (if link.up then s else link.networks.foldl connect s).wg0 = s.wg0 ∧
        (if link.up then s else link.networks.foldl connect s).tailscale0 = s.tailscale0 ∧
          (if link.up then s else link.networks.foldl connect s).policy = s.policy := by
      split
      · exact ⟨rfl, rfl, rfl⟩
      · exact foldl_connect_links link.networks s
    obtain ⟨wg0, tailscale0, policy⟩ := first
    have raised : some (link.raised env) = (s.raised env).eth0 := by rw [Router.raised, present]; rfl
    dsimp only
    split
    · exact ⟨raised, wg0, tailscale0, policy⟩
    · obtain ⟨wg0', tailscale0', policy'⟩ :=
        connect_links (if link.up then s else link.networks.foldl connect s) (vmNetwork env)
      exact ⟨raised, wg0'.trans wg0, tailscale0'.trans tailscale0, policy'.trans policy⟩

theorem foldl_scrub (prefs : List Nat) (policy : Policy Dev) : prefs.foldl ruleScrubPref policy =
    policy.filter fun rule => !prefs.contains rule.pref := by
  induction prefs generalizing policy with
  | nil => exact Policy.ext (List.filter_eq_self.mpr fun rule _ => rfl).symm
  | cons pref prefs rest =>
      rw [List.foldl_cons, rest, ruleScrubPref, Policy.deleteAll_eq]
      refine Policy.ext (List.filter_filter.trans (List.filter_congr fun rule _ => ?_))
      rw [List.contains_cons, Bool.not_or, Bool.and_comm]
      rfl

theorem cleanupStale_policy (s : Router) : (cleanupStale s).policy = staying s := by
  unfold cleanupStale staying
  dsimp only [Router.setTable]
  rw [foldl_scrub, Policy.deleteAll_eq]
  cases tsIp s with
  | none =>
      dsimp only
      refine Policy.ext (List.filter_filter.trans (List.filter_congr fun rule _ => ?_))
      rw [Option.any_none, Bool.not_false, Bool.and_true, Bool.and_comm]
  | some ip =>
      dsimp only
      rw [Policy.deleteAll_eq]
      refine Policy.ext (List.filter_filter.trans (List.filter_filter.trans (List.filter_congr fun rule _ => ?_)))
      rw [Option.any_some]
      ac_rfl

theorem prepared_links (env : Env) (s : Router) : (prepared env s).eth0 = (s.raised env).eth0 ∧
    (prepared env s).wg0 = s.wg0 ∧ (prepared env s).tailscale0 = s.tailscale0 ∧ (prepared env s).policy = staying s := by
  obtain ⟨eth0, wg0, tailscale0, policy⟩ := applyHostLink_links env (cleanupStale s)
  exact ⟨eth0, wg0, tailscale0, policy.trans (cleanupStale_policy s)⟩

theorem wanGw_prepared (small : ip < 2 ^ 32)
    (outside : ∀ link, (s.raised env).eth0 = some link → ∀ network ∈ link.networks, network.contains ip = false) :
    wanGw env (prepared env s).tables = wanGw env s.tables := by
  have unmoved : Unmoved ip (cleanupStale s) (prepared env s) := applyHostLink_unmoved outside
  have clean (table : Nat) (other : table ≠ staleTable) : (cleanupStale s).tables table = s.tables table :=
    Function.update_of_ne other _ _
  unfold wanGw
  rw [unmoved.defaults small, unmoved.defaults small, clean mainTable (by decide), clean wanTable (by decide)]

def uplinkRoutes (env : Env) (s : Router) : List (Route Dev) :=
  defaultRoute (.via uplinkIf none) :: subnetRoute env (.via uplinkIf none) :: tailnetRoutes s

/-- The state the script leaves, told by how far it gets. -/
def outcome (env : Env) (calls : Calls) (s : Router) : Progress → Router
  | .stopped => prepared env s
  | .missing gw => applyPolicyRules env (withWan env calls (prepared env s) gw)
  | .down gw =>
      let s := withWan env calls (prepared env s) gw
      s.setTable mainTable (stripWgPollution env (s.tables mainTable))
  | .uplinked gw =>
      let s := withWan env calls (prepared env s) gw
      applyPolicyRules env (s.setTable mainTable
        ((uplinkRoutes env s).foldl RoutingTable.replace (stripWgPollution env (s.tables mainTable))))

theorem applyWanTable_eq (env : Env) (calls : Calls) (s : Router) : applyWanTable env calls s =
    match (wanGw env s.tables).map fun gw => gw.filter (calls.takesGateway s.eth0) with
    | some none => .error s
    | gw => .ok (withWan env calls s gw.join) := by
  unfold applyWanTable
  cases wanGw env s.tables with
  | none => rfl
  | some gw =>
      rw [Option.map_some]
      dsimp only
      cases gw.filter (calls.takesGateway s.eth0) with
      | none => rfl
      | some gw => rfl

theorem withWan_links (env : Env) (calls : Calls) (s : Router) (gw : Option Nat) :
    (withWan env calls s gw).wg0 = s.wg0 ∧ (withWan env calls s gw).tailscale0 = s.tailscale0 ∧
      (withWan env calls s gw).policy = s.policy := by
  cases gw with
  | none => exact ⟨rfl, rfl, rfl⟩
  | some gw => exact ⟨rfl, rfl, rfl⟩

theorem leftBehind_applyMainTable (env : Env) (calls : Calls) (s : Router) (gw : Option Nat) :
    leftBehind ((applyMainTable env (withWan env calls (prepared env s) gw)).bind fun s => .ok (applyPolicyRules env s)) =
      outcome env calls s
        (match s.wg0 with
        | none => .missing gw
        | some link => if link.up then .uplinked gw else .down gw) := by
  have wg0 := (withWan_links env calls (prepared env s) gw).1.trans (prepared_links env s).2.1
  unfold applyMainTable
  rw [wg0]
  cases s.wg0 with
  | none => rfl
  | some link =>
      obtain ⟨up, networks⟩ := link
      cases up with
      | true => rfl
      | false => rfl

theorem apply_eq (env : Env) (calls : Calls) (s : Router) :
    apply env calls s = outcome env calls s (progressWith env calls s (wanGw env (prepared env s).tables)) := by
  obtain ⟨eth0, wg0, -, -⟩ := prepared_links env s
  have wan := applyWanTable_eq env calls (prepared env s)
  rw [eth0] at wan
  have steps : apply env calls s = leftBehind ((applyWgPeer calls (prepared env s)).bind fun s =>
      (applyWanTable env calls s).bind fun s => (applyMainTable env s).bind fun s => .ok (applyPolicyRules env s)) := rfl
  rw [steps, applyWgPeer, wg0, progressWith]
  cases (s.wg0.isSome && !calls.wgSet) with
  | true => rfl
  | false =>
      simp only [Bool.false_eq_true, if_false]
      change leftBehind ((applyWanTable env calls (prepared env s)).bind _) = _
      rw [wan]
      cases (wanGw env (prepared env s).tables).map fun gw => gw.filter (calls.takesGateway (s.raised env).eth0) with
      | none => exact leftBehind_applyMainTable env calls s none
      | some gw =>
          cases gw with
          | none => rfl
          | some gw => exact leftBehind_applyMainTable env calls s (some gw)

/-! ### The tables afterwards -/

theorem prepared_unmoved
    (outside : ∀ link, (s.raised env).eth0 = some link → ∀ network ∈ link.networks, network.contains ip = false) :
    Unmoved ip (cleanupStale s) (prepared env s) := applyHostLink_unmoved outside

theorem cleanupStale_tables (s : Router) (table : Nat) :
    (cleanupStale s).tables table = if table = staleTable then .empty else s.tables table := by
  unfold cleanupStale Router.setTable
  exact Function.update_apply _ _ _ _

theorem best_prepared
    (outside : ∀ link, (s.raised env).eth0 = some link → ∀ network ∈ link.networks, network.contains ip = false)
    (table : Nat) : ((prepared env s).tables table).best ip =
      if table = staleTable then none else (s.tables table).best ip := by
  rw [(prepared_unmoved outside).best, cleanupStale_tables]
  split
  · rfl
  · rfl

theorem best_filter_prepared
    (outside : ∀ link, (s.raised env).eth0 = some link → ∀ network ∈ link.networks, network.contains ip = false)
    {table : Nat} (other : table ≠ staleTable) (kept : Route Dev → Bool) :
    (((prepared env s).tables table).filter kept).best ip = ((s.tables table).filter kept).best ip := by
  rw [(prepared_unmoved outside).best_filter, cleanupStale_tables, if_neg other]

theorem tailnetRoutes_miss (outside : tailnet.contains ip = false) {route : Route Dev} (member : route ∈ tailnetRoutes s) :
    route.reaches ip = false := by
  have magic : tailnet.contains magicDns = true := by decide
  unfold tailnetRoutes at member
  split at member
  · rcases List.mem_cons.mp member with rfl | member
    · exact outside
    · obtain rfl := List.mem_singleton.mp member
      by_contra inside
      have same : ip / 1 = magicDns / 1 := by
        simpa [Route.reaches, hostRoute, Network.contains, Network.size] using inside
      rw [Nat.div_one, Nat.div_one] at same
      rw [same, magic] at outside
      cases outside
  · cases member

theorem reaches_default (small : ip < 2 ^ 32) (hop : Hop Dev) : (defaultRoute hop).reaches ip = true := by
  have length : (0 : Nat) / 2 ^ 32 = ip / 2 ^ 32 := by
    rw [Nat.div_eq_of_lt small]
    rfl
  exact beq_iff_eq.mpr length.symm

theorem hostRoute_reaches_iff {address : Nat} {hop : Hop Dev} : (hostRoute address hop).reaches ip = true ↔ ip = address := by
  simp [Route.reaches, hostRoute, Network.contains, Network.size]

theorem best_wanRoutes (small : ip < 2 ^ 32) (outside : tailnet.contains ip = false) (table : RoutingTable Dev) (gw : Nat) :
    ((wanRoutes env calls s gw).foldl RoutingTable.replace table).best ip =
      wanFound env calls table ip (some gw) := by
  unfold wanFound
  dsimp only
  split
  · rename_i listed
    refine RoutingTable.best_of_host (RoutingTable.mem_foldl_replace ?_ table (.inl ?_)) rfl rfl
      (hostRoute_reaches_iff.mpr rfl)
    · intro other member same
      have reaches : other.reaches ip = true := by
        by_contra misses
        rw [Bool.not_eq_true] at misses
        exact RoutingTable.key_ne_of_reaches misses (hostRoute_reaches_iff.mpr rfl) same
      unfold wanRoutes at member
      rcases List.mem_cons.mp member with rfl | member
      · unfold Route.key at same
        simp only [Prod.mk.injEq] at same
        have lengths := same.2.1
        simp [defaultRoute, hostRoute] at lengths
      · rcases List.mem_append.mp member with near | pinned_
        · rw [tailnetRoutes_miss outside near] at reaches
          cases reaches
        · obtain ⟨address, -, rfl⟩ := List.mem_map.mp pinned_
          rw [hostRoute_reaches_iff.mp reaches]
    · exact List.mem_cons_of_mem _ (List.mem_append_right _ (List.mem_map_of_mem listed))
  · rename_i unlisted
    rw [wanRoutes, List.foldl_cons, RoutingTable.foldl_replace_of_misses]
    · exact RoutingTable.best_replace_default rfl rfl (reaches_default small _)
    · intro route member
      rcases List.mem_append.mp member with near | pinned_
      · exact tailnetRoutes_miss outside near
      · obtain ⟨address, listed, rfl⟩ := List.mem_map.mp pinned_
        by_contra inside
        rw [Bool.not_eq_false] at inside
        exact unlisted (hostRoute_reaches_iff.mp inside ▸ listed)

theorem stripWgPollution_routes (env : Env) (table : RoutingTable Dev) :
    (stripWgPollution env table).routes = table.routes.filter fun route => !polluting env route := by
  unfold stripWgPollution
  rw [RoutingTable.routes_foldl_delete fun line route =>
    decide (route.destination = line.destination) && decide (hopDev route.hop = some uplinkIf)]
  refine RoutingTable.foldl_eraseP ?_ ?_ table.routes
  · intro route pollutes
    unfold polluting at pollutes
    simp only [Bool.and_eq_true, decide_eq_true_eq] at pollutes
    simp [pollutes.1.1]
  · intro line route pollutes alike
    unfold polluting at pollutes ⊢
    simp only [Bool.and_eq_true, decide_eq_true_eq] at pollutes alike ⊢
    rw [alike.1]
    exact ⟨⟨alike.2, pollutes.1.2⟩, pollutes.2⟩

/-- For an address outside WG_SUBNET what is stripped is what goes through wg0, but for the defaults. -/
theorem mem_stripped (outside : env.wgSubnet.contains ip = false) {table : RoutingTable Dev} {route : Route Dev}
    (reaches : route.reaches ip = true) : route ∈ (stripWgPollution env table).routes ↔
      route ∈ (table.filter fun route => !throughUplink route).routes := by
  rw [RoutingTable.mem_filter, stripWgPollution_routes, List.mem_filter]
  have elsewhere : route.destination ≠ env.wgSubnet := by
    intro same
    unfold Route.reaches at reaches
    rw [same, outside] at reaches
    cases reaches
  have same : polluting env route = throughUplink route := by
    unfold polluting throughUplink
    rw [decide_eq_true elsewhere, Bool.and_true, Bool.and_comm]
  rw [same]

theorem best_uplinkRoutes (small : ip < 2 ^ 32) (outside : tailnet.contains ip = false)
    (subnet : env.wgSubnet.contains ip = false) (table : RoutingTable Dev) :
    ((uplinkRoutes env s).foldl RoutingTable.replace (stripWgPollution env table)).best ip =
      (specific (table.filter fun route => !throughUplink route) ip).or (some (defaultRoute (.via uplinkIf none))) := by
  rw [uplinkRoutes, List.foldl_cons, RoutingTable.foldl_replace_of_misses]
  · rw [RoutingTable.best_replace_default rfl rfl (reaches_default small _)]
    congr 1
    apply RoutingTable.best_congr
    intro route reaches
    rw [RoutingTable.mem_filter, RoutingTable.mem_filter, mem_stripped subnet reaches]
  · intro route member
    rcases List.mem_cons.mp member with rfl | near
    · exact subnet
    · exact tailnetRoutes_miss outside near

theorem best_withWan (small : ip < 2 ^ 32) (outside : tailnet.contains ip = false) (t : Router) (gw : Option Nat)
    (table : Nat) : ((withWan env calls t gw).tables table).best ip =
      if table = wanTable then wanFound env calls (t.tables wanTable) ip gw else (t.tables table).best ip := by
  cases gw with
  | none =>
      split
      · rename_i same
        rw [same]
        rfl
      · rfl
  | some gw =>
      unfold withWan
      rw [best_setTable, best_wanRoutes small outside]

theorem wanFound_prepared
    (outside : ∀ link, (s.raised env).eth0 = some link → ∀ network ∈ link.networks, network.contains ip = false)
    (gw : Option Nat) :
    wanFound env calls ((prepared env s).tables wanTable) ip gw = wanFound env calls (s.tables wanTable) ip gw := by
  have other : wanTable ≠ staleTable := by decide
  cases gw with
  | none =>
      change ((prepared env s).tables wanTable).best ip = _
      rw [best_prepared outside, if_neg other]
      rfl
  | some gw =>
      unfold wanFound specific
      rw [best_filter_prepared outside other]

theorem best_apply (small : ip < 2 ^ 32) (outside : tailnet.contains ip = false)
    (subnet : env.wgSubnet.contains ip = false)
    (host : ∀ link, (s.raised env).eth0 = some link → ∀ network ∈ link.networks, network.contains ip = false)
    (table : Nat) :
    ((apply env calls s).tables table).best ip = found env calls s (progress env calls s) table ip := by
  rw [apply_eq, wanGw_prepared small host]
  change ((outcome env calls s (progress env calls s)).tables table).best ip = _
  unfold found
  have untouched (gw : Option Nat) : ((withWan env calls (prepared env s) gw).tables table).best ip =
      if table = staleTable then none
      else if table = wanTable then wanFound env calls (s.tables wanTable) ip gw else (s.tables table).best ip := by
    rw [best_withWan small outside, best_prepared host, wanFound_prepared host]
    by_cases wan : table = wanTable
    · subst wan
      rfl
    · rw [if_neg wan, if_neg wan]
  have main_ (gw : Option Nat) (route : Route Dev) (reaches : route.reaches ip = true) :
      route ∈ ((withWan env calls (prepared env s) gw).tables mainTable).routes ↔
        route ∈ (s.tables mainTable).routes := by
    have clean : (cleanupStale s).tables mainTable = s.tables mainTable := by
      rw [cleanupStale_tables]
      rfl
    have before := prepared_unmoved host mainTable route reaches
    rw [clean] at before
    cases gw with
    | none => exact before
    | some gw => exact before
  cases progress env calls s with
  | stopped => exact best_prepared host table
  | missing gw => exact untouched gw
  | down gw =>
      change ((Router.setTable _ mainTable _).tables table).best ip = _
      rw [best_setTable]
      split
      · rename_i same
        subst same
        apply RoutingTable.best_congr
        intro route reaches
        rw [mem_stripped subnet reaches, RoutingTable.mem_filter, RoutingTable.mem_filter, main_ gw route reaches]
      · exact untouched gw
  | uplinked gw =>
      change ((Router.setTable _ mainTable _).tables table).best ip = _
      rw [best_setTable]
      split
      · rename_i same
        subst same
        rw [best_uplinkRoutes small outside subnet]
        change _ = (specific ((s.tables mainTable).filter fun route => !throughUplink route) ip).or _
        congr 1
        apply RoutingTable.best_congr
        intro route reaches
        rw [RoutingTable.mem_filter, RoutingTable.mem_filter, RoutingTable.mem_filter, RoutingTable.mem_filter,
          main_ gw route reaches]
      · exact untouched gw

end Tables

/-! ### The rules afterwards -/

section Rules

variable {env : Env} {calls : Calls} {s : Router} {packet : Packet Dev}

theorem mem_policyRules {rule : Rule Dev} : rule ∈ policyRules env s ↔
    rule = ⟨35, toNetwork env.wgSubnet, lookup mainTable⟩ ∨ rule = ⟨40, fromHost env.wgGw, lookup mainTable⟩ ∨
      (∃ ip, tsIp s = some ip ∧ rule = ⟨45, fromHost ip, lookup wanTable⟩) ∨
        rule = ⟨48, toNetwork tailnet, lookup mainTable⟩ ∨ rule = vmRule env ∨
          rule = ⟨49, onIif tsIf, lookup mainTable⟩ ∨ rule = ⟨57, toNetwork ⟨magicDns, 32⟩, lookup mainTable⟩ ∨
            rule = ⟨59, onIif uplinkIf, lookup mainTable⟩ := by
  unfold policyRules vmRule
  cases tsIp s with
  | none => simp
  | some ip => simp

theorem nodup_policyRules (env : Env) (s : Router) : ((policyRules env s).map Rule.pref).Nodup := by
  unfold policyRules
  cases tsIp s with
  | none =>
      change ([35, 40, 48, 50, 49, 57, 59] : List Nat).Nodup
      decide
  | some ip =>
      change ([35, 40, 45, 48, 50, 49, 57, 59] : List Nat).Nodup
      decide

/-- Of the rules of the script those from WG_GW, from VM_IP and for tailscale0 may say something about exit traffic. -/
theorem selects_policyRules (exit_ : ExitPacket env s packet) {rule : Rule Dev} (member : rule ∈ policyRules env s)
    (selects : rule.selector.selects packet = true) :
    rule = ⟨40, fromHost env.wgGw, lookup mainTable⟩ ∨ rule = ⟨49, onIif tsIf, lookup mainTable⟩ ∨ rule = vmRule env := by
  rcases mem_policyRules.mp member with rfl | rfl | ⟨ip, own, rfl⟩ | rfl | rfl | rfl | rfl | rfl
  · rw [selects_toNetwork, exit_.subnet] at selects
    cases selects
  · exact .inl rfl
  · rw [selects_fromHost, decide_eq_true_eq] at selects
    exact absurd (selects ▸ own) exit_.foreign
  · rw [selects_toNetwork, exit_.tailnet] at selects
    cases selects
  · exact .inr (.inr rfl)
  · exact .inr (.inl rfl)
  · rw [selects_toNetwork] at selects
    have magic : tailnet.contains packet.destination = true := by
      have same : packet.destination = magicDns := by
        simpa [Network.contains, Network.size] using selects
      rw [same]
      decide
    rw [exit_.tailnet] at magic
    cases magic
  · have unlike : decide (uplinkIf = tsIf) = false := by decide
    rw [selects_onIif, exit_.iif, unlike] at selects
    cases selects

theorem verdict_mainRule {pref : Nat} {selector : Selector Dev} (selects : selector.selects packet = true)
    (found : Lookup Dev) : (⟨pref, selector, lookup mainTable⟩ : Rule Dev).verdict found packet =
      (lookup mainTable).verdict found packet.destination := by
  unfold Rule.verdict
  rw [selects]
  rfl

/-- The rules of the script over any others, for exit traffic. -/
theorem walk_policyRules (exit_ : ExitPacket env s packet) (found : Lookup Dev) (policy : Policy Dev) :
    walk found packet ((policyRules env s).foldl Policy.put policy).rules =
      match (lookup mainTable).verdict found packet.destination with
      | some hop => (walk found packet ((policy.only fun pref => pref ∉ (policyRules env s).map Rule.pref).only
          (· < toMainPref env packet)).rules).or (some hop)
      | none => walk found packet ((policy.only fun pref => pref ∉ (policyRules env s).map Rule.pref).put (vmRule env)).rules := by
  have apart := nodup_policyRules env s
  have silent {rule : Rule Dev} (misses : rule.selector.selects packet ≠ true) : rule.verdict found packet = none :=
    verdict_of_not_selects (by simpa using misses)
  split
  · rename_i hop sends
    by_cases gateway : packet.source = env.wgGw
    · have selects : (fromHost env.wgGw).selects packet = true := by rw [selects_fromHost, decide_eq_true gateway]
      have decides : (⟨40, fromHost env.wgGw, lookup mainTable⟩ : Rule Dev).verdict found packet = some hop :=
        (verdict_mainRule selects found).trans sends
      rw [walk_foldl_put_of_some (mem_policyRules.mpr (by simp)) apart decides ?_ policy, toMainPref, if_pos gateway]
      intro rule member low
      apply silent
      intro selects
      rcases selects_policyRules exit_ member selects with rfl | rfl | rfl
      · exact absurd low (Nat.lt_irrefl 40)
      · exact absurd low (Nat.not_lt.mpr (Nat.le_add_right 40 9))
      · exact absurd low (Nat.not_lt.mpr (Nat.le_add_right 40 10))
    · have selects : (onIif tsIf).selects packet = true := by rw [selects_onIif, exit_.iif, decide_eq_true rfl]
      have decides : (⟨49, onIif tsIf, lookup mainTable⟩ : Rule Dev).verdict found packet = some hop :=
        (verdict_mainRule selects found).trans sends
      rw [walk_foldl_put_of_some (mem_policyRules.mpr (by simp)) apart decides ?_ policy, toMainPref, if_neg gateway]
      intro rule member low
      apply silent
      intro selects
      rcases selects_policyRules exit_ member selects with rfl | rfl | rfl
      · rw [selects_fromHost, decide_eq_true_eq] at selects
        exact gateway selects
      · exact absurd low (Nat.lt_irrefl 49)
      · exact absurd low (Nat.not_lt.mpr (Nat.le_add_right 49 1))
  · rename_i nothing
    refine walk_foldl_put_alone (mem_policyRules.mpr (by simp)) apart ?_ policy
    intro rule member different
    by_cases selects : rule.selector.selects packet = true
    · rcases selects_policyRules exit_ member selects with rfl | rfl | rfl
      · rw [verdict_mainRule selects, nothing]
      · rw [verdict_mainRule selects, nothing]
      · exact absurd rfl different
    · exact silent selects

theorem apply_links (env : Env) (calls : Calls) (s : Router) (progress : Progress) :
    (outcome env calls s progress).eth0 = (s.raised env).eth0 ∧
      (outcome env calls s progress).tailscale0 = s.tailscale0 := by
  obtain ⟨eth0, -, tailscale0, -⟩ := prepared_links env s
  have wan (gw : Option Nat) : (withWan env calls (prepared env s) gw).eth0 = (s.raised env).eth0 ∧
      (withWan env calls (prepared env s) gw).tailscale0 = s.tailscale0 := by
    cases gw with
    | none => exact ⟨eth0, tailscale0⟩
    | some gw => exact ⟨eth0, tailscale0⟩
  cases progress with
  | stopped => exact ⟨eth0, tailscale0⟩
  | missing gw => exact wan gw
  | down gw => exact wan gw
  | uplinked gw => exact wan gw

theorem apply_policy (env : Env) (calls : Calls) (s : Router) (progress : Progress) :
    (outcome env calls s progress).policy =
      match progress with
      | .stopped | .down _ => staying s
      | .missing _ | .uplinked _ => (policyRules env s).foldl Policy.put (staying s) := by
  obtain ⟨-, -, tailscale0, policy⟩ := prepared_links env s
  have wan (gw : Option Nat) : (withWan env calls (prepared env s) gw).policy = staying s :=
    (withWan_links env calls (prepared env s) gw).2.2.trans policy
  have rules (gw : Option Nat) : policyRules env (withWan env calls (prepared env s) gw) = policyRules env s := by
    have same := (withWan_links env calls (prepared env s) gw).2.1.trans tailscale0
    unfold policyRules tsIp
    rw [same]
  cases progress with
  | stopped => exact policy
  | down gw => exact wan gw
  | missing gw =>
      change (policyRules env (withWan env calls (prepared env s) gw)).foldl _ _ = _
      rw [rules, wan]
  | uplinked gw =>
      change (policyRules env (withWan env calls (prepared env s) gw)).foldl Policy.put
        (withWan env calls (prepared env s) gw).policy = _
      rw [rules, wan]

end Rules

theorem contained_or {first second : Option (Hop Dev)} :
    Contained (first.or second) ↔ Contained first ∧ (first = none → Contained second) := by
  cases first with
  | none =>
      constructor
      · intro contained
        refine ⟨?_, fun _ => contained⟩
        intro dev gateway some_
        cases some_
      · intro both
        exact both.2 rfl
  | some hop =>
      constructor
      · intro contained
        refine ⟨contained, ?_⟩
        intro none_
        cases none_
      · exact And.left

theorem contained_policyRules {env : Env} {s : Router} {packet : Packet Dev} (exit_ : ExitPacket env (s.raised env) packet)
    (found : Lookup Dev) :
    Contained (walk found packet ((policyRules env s).foldl Policy.put (staying s)).rules) ↔
      match (lookup mainTable).verdict found packet.destination with
      | some hop =>
          let ahead := walk found packet ((unmanaged env s).only (· < toMainPref env packet)).rules
          Contained ahead ∧ (ahead = none → Contained (some hop))
      | none => Contained (walk found packet ((unmanaged env s).put (vmRule env)).rules) := by
  have scripted := walk_policyRules exit_ found (staying s)
  change walk found packet ((policyRules env s).foldl Policy.put (staying s)).rules = _ at scripted
  rw [scripted]
  cases (lookup mainTable).verdict found packet.destination with
  | some hop => exact contained_or
  | none => rfl

/-- The script keeps exit traffic off the WAN exactly where the rules and routes it finds, with the default of main it is
able to set, do. -/
theorem noLeak_apply_iff (env : Env) (calls : Calls) (s : Router) : NoLeak env (apply env calls s) ↔ Fenced env calls s := by
  obtain ⟨eth0, tailscale0⟩ :=
    apply_links env calls s (progressWith env calls s (wanGw env (prepared env s).tables))
  rw [← apply_eq] at eth0 tailscale0
  have own : tsIp (apply env calls s) = tsIp s := by
    unfold tsIp
    rw [tailscale0]
  have same (packet : Packet Dev) :
      ExitPacket env (apply env calls s) packet ↔ ExitPacket env (s.raised env) packet := by
    constructor
    · intro exit_
      exact ⟨exit_.iif, exit_.source, own ▸ exit_.foreign, exit_.tailnet, exit_.subnet, eth0 ▸ exit_.host⟩
    · intro exit_
      exact ⟨exit_.iif, exit_.source, own.symm ▸ exit_.foreign, exit_.tailnet, exit_.subnet, eth0.symm ▸ exit_.host⟩
  apply forall_congr'
  intro packet
  rw [same packet]
  apply imp_congr_right
  intro exit_
  have tables (table : Nat) : ((apply env calls s).tables table).best packet.destination =
      found env calls s (progress env calls s) table packet.destination :=
    best_apply packet.destination_lt exit_.tailnet exit_.subnet exit_.host table
  have policy : (apply env calls s).policy = _ :=
    (congrArg Router.policy (apply_eq env calls s)).trans (apply_policy env calls s _)
  rw [wanGw_prepared packet.destination_lt exit_.host] at policy
  change _ = match progress env calls s with
    | .stopped | .down _ => _
    | .missing _ | .uplinked _ => _ at policy
  have routed : (apply env calls s).routed packet =
      walk (found env calls s (progress env calls s)) packet (apply env calls s).policy.rules := walk_congr tables _
  rw [routed, policy]
  cases course : progress env calls s with
  | stopped => rfl
  | down gw => rfl
  | missing gw => exact contained_policyRules exit_ _
  | uplinked gw => exact contained_policyRules exit_ _

/-- With wg0 up, no other rule ahead and no other route in main, exit traffic goes to wg0. -/
theorem fenced_of_uplinked {env : Env} {calls : Calls} {s : Router} {gw : Option Nat}
    (uplinked : progress env calls s = .uplinked gw)
    (ahead : ∀ packet, ExitPacket env (s.raised env) packet → ∀ rule ∈ (unmanaged env s).rules, rule.pref < 49 →
      rule.verdict (found env calls s (.uplinked gw)) packet = none)
    (plain : ∀ packet, ExitPacket env (s.raised env) packet →
      specific ((s.tables mainTable).filter fun route => !throughUplink route) packet.destination = none) :
    Fenced env calls s := by
  intro packet exit_
  rw [uplinked]
  have main_ : found env calls s (.uplinked gw) mainTable packet.destination = some (defaultRoute (.via uplinkIf none)) := by
    change (specific _ packet.destination).or _ = _
    rw [plain packet exit_]
    rfl
  have sends : (lookup mainTable).verdict (found env calls s (.uplinked gw)) packet.destination =
      some (.via uplinkIf none) := by
    unfold lookup Action.verdict
    dsimp only
    rw [main_]
    rfl
  have quiet : walk (found env calls s (.uplinked gw)) packet
      ((unmanaged env s).only (· < toMainPref env packet)).rules = none := by
    refine List.findSome?_eq_none_iff.mpr fun rule member => ?_
    obtain ⟨listed, low⟩ := List.mem_filter.mp member
    apply ahead packet exit_ rule listed
    have below : rule.pref < toMainPref env packet := by simpa using low
    unfold toMainPref at below
    split at below
    · omega
    · exact below
  dsimp only
  rw [sends]
  dsimp only
  rw [quiet]
  refine ⟨?_, fun _ => ?_⟩
  · intro dev gateway some_
    cases some_
  · intro dev gateway some_
    cases some_
    rfl

/-! ### A gateway before its uplink is up -/

def defaultEnv : Env := ⟨⟨171967744, 24⟩, 171967745, 168428042, "", by decide⟩

/-- A gateway in a network of the link. -/
def onLink (eth0 : Option Link) (gw : Nat) : Bool :=
  eth0.any fun link => link.up && link.networks.any fun network => network.contains gw

def noNames : Calls := ⟨fun _ => [], true, onLink⟩

/-- The rules of the kernel. -/
def kernelPolicy : Policy Dev where
  rules := [⟨0, everything, lookup localTable⟩, ⟨32766, everything, lookup mainTable⟩, ⟨32767, everything, lookup 253⟩]
  sorted := by decide

/-- eth0 and tailscale0 are up, wg0 is not there, and main has the default of the setup. -/
def booted : Router where
  eth0 := some ⟨true, [⟨168428042, 16⟩]⟩
  wg0 := none
  tailscale0 := some ⟨true, [⟨1681915909, 32⟩]⟩
  policy := kernelPolicy
  tables := Function.update (fun _ => .empty) mainTable
    ((RoutingTable.empty.replace ⟨⟨168427520, 16⟩, 0, .via hostIf none, by decide⟩).replace
      (defaultRoute (.via hostIf (some 168427521))))

/-- From 100.64.0.7 to 93.184.216.34. -/
def toInternet : Packet Dev := ⟨1681915911, 1572395042, tsIf, 0, by decide⟩

theorem toInternet_exits : ExitPacket defaultEnv (apply defaultEnv noNames booted) toInternet where
  iif := rfl
  source := by decide
  foreign := by decide +kernel
  tailnet := by decide
  subnet := by decide
  host := by
    have links : (apply defaultEnv noNames booted).eth0 = some ⟨true, [⟨168428042, 16⟩]⟩ := by decide +kernel
    intro link present network member
    rw [links] at present
    cases present
    obtain rfl := List.mem_singleton.mp member
    decide

theorem exit_traffic_leaks : (apply defaultEnv noNames booted).routed toInternet = some (.via hostIf (some 168427521)) ∧
    ¬ NoLeak defaultEnv (apply defaultEnv noNames booted) := by
  have routed : (apply defaultEnv noNames booted).routed toInternet = some (.via hostIf (some 168427521)) := by
    decide +kernel
  refine ⟨routed, fun contained => ?_⟩
  have uplink := contained toInternet toInternet_exits hostIf (some 168427521) routed
  revert uplink
  decide

end DeepOrc.Routing
