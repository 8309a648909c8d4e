import DeepOrc.HostSetup.Settled
import Mathlib.Logic.Function.Iterate

/-!
# Whether the setup can be run again and torn down

A second run finds everything as it is to be. The teardown takes away what the gateways own, which is all that the
setup has added but for the lines in rt_tables.
-/

namespace DeepOrc.HostSetup

open Lib.Ipv4 (Network)
open Lib.PolicyRouting (Policy Rule foldl_eraseP_eq_filter countP_eraseP_le)
open Lib.Commands (Settling runAll runAll_induction execute_flatMap flatMap_filterMap)

/-- A gateway as the teardown script knows it. -/
structure Place where
  slot : Nat
  wgIf : Name
  lanIp : Option Nat
deriving DecidableEq

def Gateway.place (gateway : Gateway) : Option Place :=
  gateway.macvlanSlot.map fun slot => ⟨slot, wgInterfaceName gateway.name, gateway.lanIp⟩

namespace Place

abbrev mac (place : Place) : Name := macName place.slot

def commands (place : Place) : List Command :=
  [.wgQuickDown place.wgIf, .rmConfig place.wgIf, .postroutingDelete (masquerade place.mac),
    .forwardDelete (forwardOut place.wgIf place.mac), .forwardDelete (forwardBack place.wgIf place.mac)] ++
    (match place.lanIp with
      | some lanIp => [.ruleDelFrom lanIp place.slot]
      | none => []) ++
    [.ruleDelIif place.wgIf place.slot, .routeFlush place.slot, .linkDel place.mac]

/-! ### What a gateway owns -/

def ownsName (place : Place) (name : Name) : Bool := name = place.mac || name = place.wgIf

def ownsRoute (place : Place) (route : Route) : Bool := place.ownsName route.dev || route.table = place.slot

def ownsRule (place : Place) (rule : Rule Name) : Bool :=
  place.lanIp.any (fun lanIp => isFrom lanIp place.slot rule) || isIif place.wgIf place.slot rule

def forward (place : Place) : List (List Text) :=
  [forwardOut place.wgIf place.mac, forwardBack place.wgIf place.mac]

def postrouting (place : Place) : List (List Text) := [masquerade place.mac]

def ownsForward (place : Place) (rule : List Text) : Bool := place.forward.contains rule

def ownsPostrouting (place : Place) (rule : List Text) : Bool := place.postrouting.contains rule

end Place

/-- A host without what the gateways own. -/
def strip (places : List Place) (host : Host) : Host where
  links name := if places.any (·.ownsName name) then none else host.links name
  routes := host.routes.filter fun route => !places.any (·.ownsRoute route)
  policy := host.policy.filter fun rule => !places.any (·.ownsRule rule)
  forward := host.forward.filter fun rule => !places.any (·.ownsForward rule)
  postrouting := host.postrouting.filter fun rule => !places.any (·.ownsPostrouting rule)
  configs name := if places.any (fun place => name = place.wgIf) then none else host.configs name
  rtTables := host.rtTables
  standing := by
    intro route member
    obtain ⟨member, unowned⟩ := Finset.mem_filter.mp member
    have elsewhere : ¬ (places.any fun place => place.ownsName route.dev) = true := by
      intro owned
      obtain ⟨place, listed, owns⟩ := List.any_eq_true.mp owned
      have taken : (places.any fun place => place.ownsRoute route) = true :=
        List.any_eq_true.mpr ⟨place, listed, by simp [Place.ownsRoute, owns]⟩
      simp [taken] at unowned
    rw [if_neg elsewhere]
    exact host.standing route member

theorem strip_nil (host : Host) : strip [] host = host := by
  refine Host.ext rfl ?_ ?_ ?_ ?_ rfl rfl
  · exact Finset.filter_true_of_mem fun route _ => rfl
  · exact Policy.ext (List.filter_eq_self.mpr fun rule _ => rfl)
  · exact List.filter_eq_self.mpr fun rule _ => rfl
  · exact List.filter_eq_self.mpr fun rule _ => rfl

theorem filter_any_cons {α : Type*} (owns : Place → α → Bool) (place : Place) (places : List Place) (list : List α) :
    (list.filter fun item => !(place :: places).any (owns · item)) =
      (list.filter fun item => !([place] : List Place).any (owns · item)).filter fun item => !places.any (owns · item) := by
  rw [List.filter_filter]
  apply List.filter_congr
  intro item _
  simp [Bool.and_comm]

theorem strip_cons (place : Place) (places : List Place) (host : Host) :
    strip (place :: places) host = strip places (strip [place] host) := by
  refine Host.ext ?_ ?_ ?_ ?_ ?_ ?_ rfl
  · funext name
    by_cases owned : place.ownsName name = true
    · simp [strip, owned]
    · simp [strip, owned]
  · ext route
    simp [strip, and_assoc]
  · exact Policy.ext (filter_any_cons Place.ownsRule place places host.policy.rules)
  · exact filter_any_cons Place.ownsForward place places host.forward
  · exact filter_any_cons Place.ownsPostrouting place places host.postrouting
  · funext name
    by_cases owned : name = place.wgIf
    · simp [strip, owned]
    · simp [strip, owned]

/-! ### The teardown -/

/-- The commands take away all that a gateway owns: there is at most one rule of each kind, and the WireGuard link is
brought up from its configuration. -/
structure Tearable (place : Place) (host : Host) : Prop where
  wireguard : ∀ link, host.links place.wgIf = some link →
    link.kind = .wireguard ∧ (host.configs place.wgIf).isSome = true
  from_ : ∀ lanIp, place.lanIp = some lanIp → host.policy.rules.countP (isFrom lanIp place.slot) ≤ 1
  iif : host.policy.rules.countP (isIif place.wgIf place.slot) ≤ 1
  forward : ∀ rule ∈ place.forward, host.forward.count rule ≤ 1
  postrouting : ∀ rule ∈ place.postrouting, host.postrouting.count rule ≤ 1

section Teardown

variable {place other : Place} {host : Host}

theorem wgQuickDown_tearable (tearable : Tearable place host) :
    host.wgQuickDown place.wgIf = host.linkDel place.wgIf := by
  cases there : host.links place.wgIf with
  | none =>
      have idle : host.wgQuickDown place.wgIf = host := by
        simp [Host.wgQuickDown, isWireguard, there]
      rw [idle]
      refine Host.ext ?_ ?_ rfl rfl rfl rfl rfl
      · exact (Function.update_eq_self_iff.mpr there.symm).symm
      · exact (filter_dev_of_none there).symm
  | some link =>
      obtain ⟨kind, listed⟩ := tearable.wireguard link there
      apply wgQuickDown_own listed
      intro link' there'
      cases there.symm.trans there'
      exact kind

theorem foldl_erase_eq_filter (rules chain : List (List Text)) (once : ∀ rule ∈ rules, chain.count rule ≤ 1) :
    rules.foldl (fun chain rule => chain.erase rule) chain = chain.filter fun other => !rules.contains other := by
  have erased := foldl_eraseP_eq_filter (rules.map fun rule other => rule == other) chain ?_
  · rw [List.foldl_map] at erased
    refine Eq.trans ?_ (erased.trans ?_)
    · congr 1
      funext chain rule
      exact List.erase_eq_eraseP rule chain
    · apply List.filter_congr
      intro other _
      rw [List.all_map, Bool.eq_iff_iff]
      simp only [List.all_eq_true, Function.comp_apply, Bool.not_eq_true', beq_eq_false_iff_ne, List.contains_eq_mem,
        decide_eq_false_iff_not]
      constructor
      · intro unlike member
        exact unlike other member rfl
      · intro absent rule member same
        exact absent (same ▸ member)
  · intro deletion member
    obtain ⟨rule, listed, rfl⟩ := List.mem_map.mp member
    refine Nat.le_trans (Nat.le_of_eq ?_) (once rule listed)
    apply List.countP_congr
    intro other _
    rw [beq_iff_eq, beq_iff_eq, eq_comm]

def Place.policy (place : Place) (policy : Policy Name) : Policy Name :=
  (match place.lanIp with
    | some lanIp => policy.delete (isFrom lanIp place.slot)
    | none => policy).delete (isIif place.wgIf place.slot)

theorem policy_tearable (tearable : Tearable place host) :
    place.policy host.policy = host.policy.filter fun rule => !([place] : List Place).any (·.ownsRule rule) := by
  have few := tearable.iif
  unfold Place.policy
  cases lanIp : place.lanIp with
  | none =>
      simp only
      rw [Policy.delete_eq_filter few]
      refine Policy.ext (List.filter_congr fun rule _ => ?_)
      simp [Place.ownsRule, lanIp]
  | some lanIp' =>
      simp only
      have few' := tearable.from_ lanIp' lanIp
      have fewer : (host.policy.delete (isFrom lanIp' place.slot)).rules.countP (isIif place.wgIf place.slot) ≤ 1 :=
        Nat.le_trans (countP_eraseP_le _) few
      rw [Policy.delete_eq_filter fewer, Policy.delete_eq_filter few']
      refine Policy.ext ((List.filter_filter ..).trans (List.filter_congr fun rule _ => ?_))
      simp [Place.ownsRule, lanIp, Bool.and_comm]

theorem execute_place (tearable : Tearable place host) : execute host place.commands = strip [place] host := by
  have unfolded : execute host place.commands = execute (host.wgQuickDown place.wgIf) place.commands.tail := rfl
  have policy := policy_tearable tearable
  have forward := foldl_erase_eq_filter place.forward host.forward tearable.forward
  have postrouting := foldl_erase_eq_filter place.postrouting host.postrouting tearable.postrouting
  rw [unfolded, wgQuickDown_tearable tearable]
  have after : execute (host.linkDel place.wgIf) place.commands.tail =
      ((({ host.linkDel place.wgIf with
        policy := place.policy host.policy
        forward := (host.forward.erase (forwardOut place.wgIf place.mac)).erase (forwardBack place.wgIf place.mac)
        postrouting := host.postrouting.erase (masquerade place.mac)
        configs := Function.update host.configs place.wgIf none } : Host).routeFlush place.slot).linkDel place.mac) := by
    unfold Place.commands Place.policy
    cases place.lanIp with
    | none => rfl
    | some lanIp => rfl
  rw [after]
  refine Host.ext ?_ ?_ policy ?_ ?_ ?_ rfl
  · funext name
    change Function.update (Function.update host.links place.wgIf none) place.mac none name = _
    rw [Function.update_apply, Function.update_apply]
    by_cases mac : name = place.mac
    · simp [strip, Place.ownsName, mac]
    · simp [strip, Place.ownsName, mac]
  · ext route
    simp [strip, Place.ownsRoute, Place.ownsName, Host.linkDel, Host.routeFlush]
    tauto
  · refine forward.trans (List.filter_congr fun rule _ => ?_)
    simp [Place.ownsForward]
  · refine postrouting.trans (List.filter_congr fun rule _ => ?_)
    simp [Place.ownsPostrouting]
  · funext name
    change Function.update host.configs place.wgIf none name = _
    rw [Function.update_apply]
    simp [strip]

/-- The gateways own different things, except that an address may be given twice. -/
theorem tearable_strip (apart : place.wgIf ≠ other.wgIf) (tearable : Tearable other host) :
    Tearable other (strip [place] host) where
  wireguard := by
    intro link there
    have links : (strip [place] host).links other.wgIf = if place.ownsName other.wgIf then none else host.links other.wgIf := by
      simp [strip]
    rw [links] at there
    split at there
    · cases there
    · obtain ⟨kind, listed⟩ := tearable.wireguard link there
      refine ⟨kind, ?_⟩
      simpa [strip, Ne.symm apart] using listed
  from_ := fun lanIp given => Nat.le_trans (List.filter_sublist.countP_le) (tearable.from_ lanIp given)
  iif := Nat.le_trans (List.filter_sublist.countP_le) tearable.iif
  forward := fun rule member => Nat.le_trans (List.filter_sublist.count_le rule) (tearable.forward rule member)
  postrouting := fun rule member => Nat.le_trans (List.filter_sublist.count_le rule) (tearable.postrouting rule member)

theorem runAll_places (places : List Place) (apart : places.Pairwise fun one other => one.wgIf ≠ other.wgIf) (host : Host)
    (tearable : ∀ place ∈ places, Tearable place host) :
    runAll (fun place host => execute host place.commands) places host = strip places host := by
  induction places generalizing host with
  | nil => exact (strip_nil host).symm
  | cons place places rest =>
      obtain ⟨away, apart⟩ := List.pairwise_cons.mp apart
      rw [strip_cons, ← execute_place (tearable place List.mem_cons_self)]
      apply rest apart _
      intro other member
      change Tearable other (execute host place.commands)
      rw [execute_place (tearable place List.mem_cons_self)]
      exact tearable_strip (away other member) (tearable other (List.mem_cons_of_mem _ member))

end Teardown

/-! ### The setup only adds what the gateways own -/

def Seat.place (seat : Seat) : Place := ⟨seat.slot, seat.wgIf, some seat.lanIp⟩

section Added

variable {group : PeerGroup} {ethernet : Bool} {seat : Seat} {host after : Host} {places : List Place}

theorem filter_ensure {chain : List (List Text)} {rule : List Text} {kept : List Text → Bool} (dropped : kept rule = false) :
    (ensure chain rule).filter kept = chain.filter kept := by
  unfold ensure
  split
  · rfl
  · rw [List.filter_append, List.filter_cons_of_neg (by simp [dropped]), List.filter_nil, List.append_nil]

theorem filter_addNew {policy : Policy Name} {rule : Rule Name} {kept : Rule Name → Bool} (dropped : kept rule = false) :
    (addNew policy rule).filter kept = policy.filter kept := by
  unfold addNew
  split
  · rfl
  · exact Policy.filter_add dropped

theorem filter_seat_policy {policy : Policy Name} {kept : Rule Name → Bool}
    (from_ : ∀ rule, isFrom seat.lanIp seat.slot rule = true → kept rule = false)
    (iif : ∀ rule, isIif seat.wgIf seat.slot rule = true → kept rule = false) :
    (seat.policy policy).filter kept = policy.filter kept := by
  have first : ((addNew (policy.delete (isFrom seat.lanIp seat.slot)) (fromRule seat.slot seat.lanIp)).delete
      (isIif seat.wgIf seat.slot)).filter kept = policy.filter kept := by
    rw [Policy.filter_delete iif, filter_addNew (from_ _ isFrom_fromRule), Policy.filter_delete from_]
  unfold Seat.policy
  cases seat.config.isSome with
  | false => exact first
  | true => exact (filter_addNew (iif _ isIif_iifRule)).trans first

theorem strip_ran (listed : seat.place ∈ places) (ran : Ran group ethernet seat host after) :
    strip places after = { strip places host with rtTables := after.rtTables } := by
  have owns : ∀ {α : Type} (owned : Place → α → Bool) (item : α), owned seat.place item = true →
      places.any (owned · item) = true := fun owned item fits => List.any_eq_true.mpr ⟨seat.place, listed, fits⟩
  have drops : ∀ {α : Type} (owned : Place → α → Bool) (item : α), owned seat.place item = true →
      (!places.any (owned · item)) = false := by
    intro α owned item fits
    rw [owns owned item fits]
    rfl
  refine Host.ext ?_ ?_ ?_ ?_ ?_ ?_ rfl
  · funext name
    change (if _ then none else _) = if _ then none else _
    split
    · rfl
    · rename_i unowned
      apply ran.links_of_ne
      · rintro rfl
        exact unowned (owns Place.ownsName seat.mac (by simp [Place.ownsName, Seat.place]))
      · rintro rfl
        exact unowned (owns Place.ownsName seat.wgIf (by simp [Place.ownsName, Seat.place]))
  · ext route
    change route ∈ after.routes.filter _ ↔ route ∈ host.routes.filter _
    rw [Finset.mem_filter, Finset.mem_filter]
    apply and_congr_left
    intro unowned
    have foreign : ¬ seat.place.ownsRoute route = true := by
      intro fits
      rw [drops Place.ownsRoute route fits] at unowned
      cases unowned
    have mac : route.dev ≠ seat.mac :=
      fun same => foreign (by simp [Place.ownsRoute, Place.ownsName, Seat.place, same])
    have wg : route.dev ≠ seat.wgIf :=
      fun same => foreign (by simp [Place.ownsRoute, Place.ownsName, Seat.place, same])
    have table : route.table ≠ seat.slot := fun same => foreign (by simp [Place.ownsRoute, Seat.place, same])
    exact ⟨fun member => ran.mem_of_dev_ne member mac wg, fun member => ran.mem_of_mem member mac wg table⟩
  · change after.policy.filter _ = host.policy.filter _
    rw [ran.policy]
    refine filter_seat_policy (fun rule fits => ?_) (fun rule fits => ?_)
    · exact drops Place.ownsRule rule (by simp [Place.ownsRule, Seat.place, fits])
    · exact drops Place.ownsRule rule (by simp [Place.ownsRule, Seat.place, fits])
  · change after.forward.filter _ = host.forward.filter _
    rw [ran.forward, Seat.forward]
    split
    · rw [filter_ensure, filter_ensure]
      · exact drops Place.ownsForward _ (by simp [Place.ownsForward, Place.forward, Seat.place, Place.mac])
      · exact drops Place.ownsForward _ (by simp [Place.ownsForward, Place.forward, Seat.place, Place.mac])
    · rfl
  · change after.postrouting.filter _ = host.postrouting.filter _
    rw [ran.postrouting, Seat.postrouting]
    split
    · exact filter_ensure (drops Place.ownsPostrouting _ (by simp [Place.ownsPostrouting, Place.postrouting, Seat.place]))
    · rfl
  · funext name
    change (if _ then none else _) = if _ then none else _
    split
    · rfl
    · rename_i unowned
      apply ran.configs_of_ne
      rintro rfl
      exact unowned (owns (fun place name => name = place.wgIf) seat.wgIf (by simp [Seat.place]))

theorem count_ensure {chain : List (List Text)} {rule other : List Text} (few : chain.count other ≤ 1) :
    (ensure chain rule).count other ≤ 1 := by
  unfold ensure
  split
  · exact few
  · rename_i absent
    rw [List.count_append, List.count_singleton]
    split
    · rename_i same
      have none_ : chain.count other = 0 := by
        rw [beq_iff_eq] at same
        rw [← same]
        exact List.count_eq_zero.mpr absent
      omega
    · exact few

theorem count_forward {chain : List (List Text)} {rule : List Text} (few : chain.count rule ≤ 1) :
    (seat.forward chain).count rule ≤ 1 := by
  unfold Seat.forward
  split
  · exact count_ensure (count_ensure few)
  · exact few

theorem count_postrouting {chain : List (List Text)} {rule : List Text} (few : chain.count rule ≤ 1) :
    (seat.postrouting chain).count rule ≤ 1 := by
  unfold Seat.postrouting
  split
  · exact count_ensure few
  · exact few

theorem tearable_own (fits : Fits group seat) (ran : Ran group ethernet seat host after)
    (tearable : Tearable seat.place host) : Tearable seat.place after where
  wireguard := by
    intro link there
    have before : Function.update host.links seat.mac (macLink group ethernet seat.lanIp) seat.wgIf = host.links seat.wgIf :=
      Function.update_of_ne (Ne.symm (fits.named seat.slot)) ..
    have run := ran.net
    have written := ran.configs
    change (after.links seat.wgIf) = some link at there
    change link.kind = .wireguard ∧ (after.configs seat.wgIf).isSome = true
    unfold Seat.Wireguard at run
    unfold Seat.configs at written
    cases config : seat.config with
    | none =>
        rw [config] at run written
        rw [run.1, before] at there
        rw [written]
        exact tearable.wireguard link there
    | some config' =>
        rw [config] at run written
        have listed : after.configs seat.wgIf = some config' := by
          rw [written]
          exact Function.update_self ..
        refine ⟨?_, by rw [listed]; rfl⟩
        generalize links' : after.links = links'' at run there
        generalize after.routes = routes'' at run
        cases run with
        | taken link' there' other =>
            rw [before] at there'
            exact absurd (tearable.wireguard link' there').1 other
        | blocked route member elsewhere blocking own =>
            rw [Function.update_self] at there
            cases there
        | up free own =>
            rw [Function.update_self] at there
            cases there
            rfl
  from_ := by
    intro lanIp given
    cases given
    rw [ran.policy]
    exact (Seat.ruled fits.slot_le ⟨tearable.from_ seat.lanIp rfl, tearable.iif⟩).from_.countP_le
  iif := by
    have ruled := Seat.ruled fits.slot_le ⟨tearable.from_ seat.lanIp rfl, tearable.iif⟩
    rw [ran.policy]
    cases config : seat.config.isSome with
    | false =>
        have none_ : (seat.policy host.policy).rules.countP (isIif seat.wgIf seat.slot) = 0 :=
          List.countP_eq_zero.mpr fun rule member => by simp [ruled.noIif config rule member]
        change (seat.policy host.policy).rules.countP (isIif seat.wgIf seat.slot) ≤ 1
        omega
    | true => exact (ruled.iif config).countP_le
  forward := by
    intro rule member
    rw [ran.forward]
    exact count_forward (tearable.forward rule member)
  postrouting := by
    intro rule member
    rw [ran.postrouting]
    exact count_postrouting (tearable.postrouting rule member)

theorem tearable_other {place : Place} (slot : place.slot ≠ seat.slot) (wgIf : place.wgIf ≠ seat.wgIf)
    (mac : place.wgIf ≠ seat.mac) (ran : Ran group ethernet seat host after) (tearable : Tearable place host) :
    Tearable place after where
  wireguard := by
    rw [ran.links_of_ne mac wgIf, ran.configs_of_ne wgIf]
    exact tearable.wireguard
  from_ := by
    intro lanIp given
    rw [ran.policy]
    exact Nat.le_trans (Seat.countP_policy ⟨isFrom_fromRule_of_ne slot, isFrom_iifRule⟩) (tearable.from_ lanIp given)
  iif := by
    rw [ran.policy]
    exact Nat.le_trans (Seat.countP_policy ⟨isIif_fromRule, isIif_iifRule_of_ne slot⟩) tearable.iif
  forward := by
    intro rule member
    rw [ran.forward]
    exact count_forward (tearable.forward rule member)
  postrouting := by
    intro rule member
    rw [ran.postrouting]
    exact count_postrouting (tearable.postrouting rule member)

end Added

/-! ### The gateways of a group -/

/-- Each has a slot and an interface of its own, and an address, if any, in the subnet of the group. -/
structure Valid (group : PeerGroup) (gateways : List Gateway) : Prop where
  slots : ∀ gateway ∈ gateways, ∃ slot, gateway.macvlanSlot = some slot ∧ 1 ≤ slot ∧ slot ≤ 252
  apart : gateways.Pairwise fun one other =>
    one.macvlanSlot ≠ other.macvlanSlot ∧ wgInterfaceName one.name ≠ wgInterfaceName other.name
  inside : ∀ gateway ∈ gateways, ∀ lanIp, gateway.lanIp = some lanIp → group.lanSubnet.contains lanIp = true

def seats (gateways : List Gateway) : List Seat := gateways.filterMap Gateway.seat

def places (gateways : List Gateway) : List Place := gateways.filterMap Gateway.place

structure Gateway.Sits (gateway : Gateway) (seat : Seat) : Prop where
  lanIp : gateway.lanIp = some seat.lanIp
  slot : gateway.macvlanSlot = some seat.slot
  wgIf : wgInterfaceName gateway.name = seat.wgIf

theorem sits_of_seat {gateway : Gateway} {seat : Seat} (seated : gateway.seat = some seat) : gateway.Sits seat := by
  unfold Gateway.seat at seated
  split at seated
  · rename_i lanIp slot given taken
    cases seated
    exact ⟨given, taken, rfl⟩
  · cases seated

theorem Gateway.Sits.place {gateway : Gateway} {seat : Seat} (sits : gateway.Sits seat) : gateway.place = some seat.place := by
  unfold Gateway.place
  rw [sits.slot, sits.wgIf, sits.lanIp]
  rfl

section Group

variable {group : PeerGroup} {gateways : List Gateway} {host : Host} {seat : Seat} {place : Place}

theorem exists_gateway (member : seat ∈ seats gateways) : ∃ gateway ∈ gateways, gateway.Sits seat := by
  obtain ⟨gateway, listed, seated⟩ := List.mem_filterMap.mp member
  exact ⟨gateway, listed, sits_of_seat seated⟩

theorem place_mem (member : seat ∈ seats gateways) : seat.place ∈ places gateways := by
  obtain ⟨gateway, listed, sits⟩ := exists_gateway member
  exact List.mem_filterMap.mpr ⟨gateway, listed, sits.place⟩

theorem pairwise_seats (valid : Valid group gateways) : (seats gateways).Pairwise Apart := by
  refine List.pairwise_filterMap.mpr (valid.apart.imp fun {one other} apart => ?_)
  intro seat seated seat' seated'
  obtain ⟨-, slot, wgIf⟩ := sits_of_seat seated
  obtain ⟨-, slot', wgIf'⟩ := sits_of_seat seated'
  rw [slot, slot', wgIf, wgIf'] at apart
  exact ⟨fun same => apart.1 (congrArg some same), apart.2⟩

theorem pairwise_places (valid : Valid group gateways) : (places gateways).Pairwise fun one other => one.wgIf ≠ other.wgIf := by
  refine List.pairwise_filterMap.mpr (valid.apart.imp fun {one other} apart => ?_)
  intro place placed place' placed'
  obtain ⟨slot, -, rfl⟩ := Option.map_eq_some_iff.mp placed
  obtain ⟨slot', -, rfl⟩ := Option.map_eq_some_iff.mp placed'
  exact apart.2

/-- What is a gateway's own is no other's. -/
theorem own_or_apart (valid : Valid group gateways) (member : place ∈ places gateways) (member' : seat ∈ seats gateways) :
    place = seat.place ∨ place.slot ≠ seat.slot ∧ place.wgIf ≠ seat.wgIf := by
  obtain ⟨gateway, listed, placed⟩ := List.mem_filterMap.mp member
  obtain ⟨gateway', listed', sits⟩ := exists_gateway member'
  by_cases same : gateway = gateway'
  · left
    subst same
    exact Option.some.inj (placed.symm.trans sits.place)
  · right
    have symmetric : Std.Symm fun one other : Gateway =>
        one.macvlanSlot ≠ other.macvlanSlot ∧ wgInterfaceName one.name ≠ wgInterfaceName other.name :=
      ⟨fun _ _ apart => ⟨apart.1.symm, apart.2.symm⟩⟩
    obtain ⟨slots, names⟩ := valid.apart.forall listed listed' same
    obtain ⟨slot, taken, rfl⟩ := Option.map_eq_some_iff.mp placed
    rw [taken, sits.slot] at slots
    rw [sits.wgIf] at names
    exact ⟨fun equal => slots (congrArg some equal), names⟩

theorem place_named (member : place ∈ places gateways) (slot : Nat) : macName slot ≠ place.wgIf := by
  obtain ⟨gateway, -, placed⟩ := List.mem_filterMap.mp member
  obtain ⟨slot', -, rfl⟩ := Option.map_eq_some_iff.mp placed
  exact macName_ne_wgInterfaceName slot gateway.name

/-- The parent is none of the gateways' own links, no rule of a gateway is there twice, and no route that keeps the
network of a gateway from being brought into main goes through a link of a later one, which goes when its turn comes. -/
structure Clear (group : PeerGroup) (gateways : List Gateway) (host : Host) : Prop where
  parent : ∀ seat ∈ seats gateways, group.parent ≠ seat.mac ∧ group.parent ≠ seat.wgIf
  single : ∀ seat ∈ seats gateways, seat.Single host.policy
  routes : (seats gateways).Pairwise fun earlier later => ∀ config, earlier.config = some config →
    ∀ route ∈ host.routes, blocks config.allowedIps route = true → route.dev ≠ later.mac ∧ route.dev ≠ later.wgIf

/-- The networks that the configurations of the gateways before this one bring into main. -/
def Wanted (gateways : List Gateway) (seat : Seat) (destination : Network) : Prop :=
  ∃ earlier, [earlier, seat].Sublist (seats gateways) ∧
    ∃ config, earlier.config = some config ∧ config.allowedIps = destination

def InTurn (gateways : List Gateway) (earlier later : Seat) : Prop :=
  Apart earlier later ∧ [earlier, later].Sublist (seats gateways)

theorem fits_of_clear (valid : Valid group gateways) (clear : Clear group gateways host) (member : seat ∈ seats gateways) :
    Fits group seat := by
  obtain ⟨gateway, listed, sits⟩ := exists_gateway member
  obtain ⟨slot, taken, -, le⟩ := valid.slots gateway listed
  cases taken.symm.trans sits.slot
  obtain ⟨mac, wgIf⟩ := clear.parent seat member
  refine ⟨le, valid.inside gateway listed seat.lanIp sits.lanIp, fun slot => ?_, mac, wgIf⟩
  rw [← sits.wgIf]
  exact macName_ne_wgInterfaceName slot gateway.name

def act (group : PeerGroup) (seat : Seat) (host : Host) : Host := execute host (seat.commands group)

theorem settling (valid : Valid group gateways) (clear : Clear group gateways host) (ethernet : Bool) :
    Settling (act group) (seats gateways) (fun seat => Ready group ethernet (Wanted gateways seat) seat)
      (Settled group ethernet) (InTurn gateways) where
  pairwise := List.pairwise_iff_forall_sublist.mpr fun inTurn =>
    ⟨List.pairwise_iff_forall_sublist.mp (pairwise_seats valid) inTurn, inTurn⟩
  settles := by
    intro seat member s ready
    have fits := fits_of_clear valid clear member
    exact settled_of_ready fits ready (ran fits.mac ready.parent)
  fixed := by
    intro seat member s settled
    have fits := fits_of_clear valid clear member
    exact eq_of_settled settled (ran fits.mac settled.parent)
  ready_kept := by
    intro earlier member later member' apart s ready ready'
    have fits := fits_of_clear valid clear member
    have fits' := fits_of_clear valid clear member'
    exact ready_kept fits fits' apart.1 (ran fits.mac ready.parent) ready'
  settled_kept := by
    intro earlier member later member' apart s settled ready
    have fits := fits_of_clear valid clear member
    have fits' := fits_of_clear valid clear member'
    refine settled_kept fits' fits apart.1 (ran fits'.mac ready.parent) ready ?_ settled
    intro config some_
    exact ⟨earlier, apart.2, config, some_, rfl⟩

def Host.start (host : Host) : Host := host.register "200 deeporc".toList "200 deeporc".toList

theorem setup_of_canSet (can : host.canSet group.parent = true) :
    setup group gateways host = runAll (act group) (seats gateways) host.start := by
  unfold setup
  rw [if_pos can, flatMap_setupBlock]
  exact execute_flatMap (Seat.commands group) (seats gateways) host.start

theorem setup_of_not (cannot : ¬ host.canSet group.parent = true) : setup group gateways host = host := if_neg cannot

/-- What the commands of a gateway keep, all of them keep. -/
theorem runAll_kept (valid : Valid group gateways) (clear : Clear group gateways host) {holds : Host → Prop}
    (initial : holds host.start)
    (kept : ∀ seat ∈ seats gateways, ∀ s after, Fits group seat → Ran group (host.onEthernet group.parent) seat s after →
      holds s → holds after) : holds (runAll (act group) (seats gateways) host.start) ∧
        (runAll (act group) (seats gateways) host.start).links group.parent = host.links group.parent := by
  have start : host.start.links group.parent = host.links group.parent := congrFun links_register _
  have both : ∀ seat ∈ seats gateways, ∀ s, holds s ∧ s.links group.parent = host.links group.parent →
      holds (act group seat s) ∧ (act group seat s).links group.parent = host.links group.parent := by
    rintro seat member s ⟨before, link⟩
    have fits := fits_of_clear valid clear member
    have parent : s.onEthernet group.parent = host.onEthernet group.parent := by
      unfold Host.onEthernet
      rw [link]
    have ran : Ran group (host.onEthernet group.parent) seat s (act group seat s) := ran fits.mac parent
    exact ⟨kept seat member s _ fits ran before, (ran.links_of_ne fits.mac fits.wgIf).trans link⟩
  have run : (fun s : Host => holds s ∧ s.links group.parent = host.links group.parent)
      (runAll (act group) (seats gateways) host.start) := runAll_induction ⟨initial, start⟩ both
  exact run

theorem start_eq (host : Host) : host.start = { host with rtTables := host.start.rtTables } := by
  unfold Host.start Host.register
  split <;> rfl

theorem ready_start (clear : Clear group gateways host) (member : seat ∈ seats gateways) :
    Ready group (host.onEthernet group.parent) (Wanted gateways seat) seat host.start := by
  rw [start_eq]
  refine ⟨rfl, clear.single seat member, ?_⟩
  rintro destination ⟨earlier, inTurn, config, some_, rfl⟩
  exact List.pairwise_iff_forall_sublist.mp clear.routes inTurn config some_

theorem setup_setup (valid : Valid group gateways) (clear : host.canSet group.parent = true → Clear group gateways host) :
    setup group gateways (setup group gateways host) = setup group gateways host := by
  by_cases can : host.canSet group.parent = true
  · have clear := clear can
    have initial : host.start.rtTables.any "200 deeporc".toList.isPrefixOf = true :=
      registered_register (List.isPrefixOf_iff_prefix.mpr (List.prefix_refl _))
    have kept : ∀ seat ∈ seats gateways, ∀ s after, Fits group seat →
        Ran group (host.onEthernet group.parent) seat s after →
        s.rtTables.any "200 deeporc".toList.isPrefixOf = true →
          after.rtTables.any "200 deeporc".toList.isPrefixOf = true := by
      intro seat member s after fits ran registered
      rw [ran.rtTables]
      exact register_subset registered
    have reached : (fun s : Host => s.rtTables.any "200 deeporc".toList.isPrefixOf = true)
        (runAll (act group) (seats gateways) host.start) ∧ _ := runAll_kept valid clear initial kept
    obtain ⟨registered, link⟩ := reached
    have waiting := fun seat (member : seat ∈ seats gateways) => ready_start clear member
    have again := (settling valid clear (host.onEthernet group.parent)).runAll_runAll host.start waiting
    rw [setup_of_canSet can]
    generalize runAll (act group) (seats gateways) host.start = once at registered link again
    have can' : once.canSet group.parent = true := by
      rw [← can]
      unfold Host.canSet
      rw [link]
    have idle : once.start = once := by
      unfold Host.start Host.register
      rw [if_pos registered]
    rw [setup_of_canSet can', idle, again]
  · rw [setup_of_not can, setup_of_not can]

theorem iterate_setup (valid : Valid group gateways) (clear : host.canSet group.parent = true → Clear group gateways host)
    (n : Nat) (positive : 1 ≤ n) : (setup group gateways)^[n] host = setup group gateways host := by
  induction n with
  | zero => omega
  | succ n rest =>
      cases n with
      | zero => rfl
      | succ n =>
          rw [Function.iterate_succ_apply', rest (by omega)]
          exact setup_setup valid clear

/-! ### A host that had none of it -/

structure Place.Fresh (place : Place) (host : Host) : Prop where
  mac : host.links place.mac = none
  wgIf : host.links place.wgIf = none
  table : ∀ route ∈ host.routes, route.table ≠ place.slot
  rules : ∀ rule ∈ host.policy.rules, place.ownsRule rule = false
  forward : ∀ rule ∈ place.forward, rule ∉ host.forward
  postrouting : ∀ rule ∈ place.postrouting, rule ∉ host.postrouting
  config : host.configs place.wgIf = none

def Fresh (gateways : List Gateway) (host : Host) : Prop := ∀ place ∈ places gateways, place.Fresh host

theorem dev_ne_of_none {name : Name} {route : Route} (gone : host.links name = none) (member : route ∈ host.routes) :
    route.dev ≠ name := by
  intro same
  have stands := host.standing route member
  rw [same, gone] at stands
  cases stands

theorem not_any_of_fresh {α : Type*} {owns : Place → α → Bool} {item : α}
    (foreign : ∀ place ∈ places gateways, owns place item = false) :
    (!(places gateways).any (owns · item)) = true := by
  have none_ : (places gateways).any (owns · item) = false := by
    rw [List.any_eq_false]
    intro place member
    rw [foreign place member]
    exact Bool.false_ne_true
  rw [none_]
  rfl

theorem strip_fresh (fresh : Fresh gateways host) : strip (places gateways) host = host := by
  refine Host.ext ?_ ?_ ?_ ?_ ?_ ?_ rfl
  · funext name
    change (if _ then none else host.links name) = host.links name
    split
    · rename_i owned
      obtain ⟨place, member, owns⟩ := List.any_eq_true.mp owned
      obtain ⟨mac, wgIf, -⟩ := fresh place member
      rw [Place.ownsName, Bool.or_eq_true] at owns
      rcases owns with same | same
      · rw [of_decide_eq_true same, mac]
      · rw [of_decide_eq_true same, wgIf]
    · rfl
  · refine Finset.filter_true_of_mem fun route listed => not_any_of_fresh fun place member => ?_
    obtain ⟨mac, wgIf, table, -⟩ := fresh place member
    simp [Place.ownsRoute, Place.ownsName, dev_ne_of_none mac listed, dev_ne_of_none wgIf listed, table route listed]
  · refine Policy.ext (List.filter_eq_self.mpr fun rule listed => not_any_of_fresh fun place member => ?_)
    exact (fresh place member).rules rule listed
  · refine List.filter_eq_self.mpr fun rule listed => not_any_of_fresh fun place member => ?_
    have absent : rule ∉ place.forward := fun own => (fresh place member).forward rule own listed
    simpa [Place.ownsForward] using absent
  · refine List.filter_eq_self.mpr fun rule listed => not_any_of_fresh fun place member => ?_
    have absent : rule ∉ place.postrouting := fun own => (fresh place member).postrouting rule own listed
    simpa [Place.ownsPostrouting] using absent
  · funext name
    change (if _ then none else host.configs name) = host.configs name
    split
    · rename_i owned
      obtain ⟨place, member, same⟩ := List.any_eq_true.mp owned
      rw [of_decide_eq_true same, (fresh place member).config]
    · rfl

theorem countP_fresh (fresh : place.Fresh host) {wanted : Rule Name → Bool}
    (owned : ∀ rule, wanted rule = true → place.ownsRule rule = true) : host.policy.rules.countP wanted = 0 := by
  apply List.countP_eq_zero.mpr
  intro rule listed fits
  have taken := owned rule fits
  rw [fresh.rules rule listed] at taken
  cases taken

theorem tearable_fresh (fresh : place.Fresh host) : Tearable place host where
  wireguard := by
    intro link there
    rw [fresh.wgIf] at there
    cases there
  from_ := by
    intro lanIp given
    have none_ : host.policy.rules.countP (isFrom lanIp place.slot) = 0 :=
      countP_fresh fresh fun rule fits => by simp [Place.ownsRule, given, fits]
    omega
  iif := by
    have none_ : host.policy.rules.countP (isIif place.wgIf place.slot) = 0 :=
      countP_fresh fresh fun rule fits => by simp [Place.ownsRule, fits]
    omega
  forward := by
    intro rule member
    rw [List.count_eq_zero.mpr (fresh.forward rule member)]
    omega
  postrouting := by
    intro rule member
    rw [List.count_eq_zero.mpr (fresh.postrouting rule member)]
    omega

theorem clear_of_fresh (fresh : Fresh gateways host) (can : host.canSet group.parent = true) :
    Clear group gateways host where
  parent := by
    intro seat member
    obtain ⟨mac, wgIf, -⟩ := fresh seat.place (place_mem member)
    have there : (host.links group.parent).isSome = true := (Bool.and_eq_true_iff.mp can).1
    constructor
    · intro same
      rw [same] at there
      rw [show host.links seat.mac = none from mac] at there
      cases there
    · intro same
      rw [same] at there
      rw [show host.links seat.wgIf = none from wgIf] at there
      cases there
  single := by
    intro seat member
    have tearable := tearable_fresh (fresh seat.place (place_mem member))
    exact ⟨tearable.from_ seat.lanIp rfl, tearable.iif⟩
  routes := by
    refine List.pairwise_iff_forall_sublist.mpr fun {earlier later} inTurn config _ route listed _ => ?_
    have member : later ∈ seats gateways := inTurn.subset (List.mem_cons_of_mem _ List.mem_cons_self)
    obtain ⟨mac, wgIf, -⟩ := fresh later.place (place_mem member)
    exact ⟨dev_ne_of_none mac listed, dev_ne_of_none wgIf listed⟩

theorem teardown_eq (gateways : List Gateway) (host : Host) : teardown gateways host =
    runAll (fun place host => execute host place.commands) (places gateways) host := by
  have blocks : gateways.flatMap teardownBlock = (places gateways).flatMap Place.commands := by
    refine flatMap_filterMap (fun gateway => ?_) gateways
    unfold teardownBlock Gateway.place
    cases gateway.macvlanSlot with
    | none => rfl
    | some slot => rfl
  unfold teardown
  rw [blocks]
  exact execute_flatMap Place.commands (places gateways) host

/-- The setup leaves nothing behind but lines in rt_tables. -/
theorem teardown_setup (valid : Valid group gateways) (fresh : Fresh gateways host) :
    teardown gateways (setup group gateways host) =
      { host with rtTables := (setup group gateways host).rtTables } := by
  rw [teardown_eq]
  by_cases can : host.canSet group.parent = true
  · have clear := clear_of_fresh fresh can
    have initial : (∀ place ∈ places gateways, Tearable place host.start) ∧
        strip (places gateways) host.start = { host with rtTables := host.start.rtTables } := by
      constructor
      · intro place member
        obtain ⟨wireguard, from_, iif, forward, postrouting⟩ := tearable_fresh (fresh place member)
        rw [start_eq]
        exact ⟨wireguard, from_, iif, forward, postrouting⟩
      · rw [start_eq]
        change { strip (places gateways) host with rtTables := host.start.rtTables } = _
        rw [strip_fresh fresh]
    have kept : ∀ seat ∈ seats gateways, ∀ s after, Fits group seat →
        Ran group (host.onEthernet group.parent) seat s after →
        ((∀ place ∈ places gateways, Tearable place s) ∧
          strip (places gateways) s = { host with rtTables := s.rtTables }) →
        ((∀ place ∈ places gateways, Tearable place after) ∧
          strip (places gateways) after = { host with rtTables := after.rtTables }) := by
      rintro seat member s after fits ran ⟨tearable, stripped⟩
      constructor
      · intro place member'
        rcases own_or_apart valid member' member with rfl | ⟨slot, wgIf⟩
        · exact tearable_own fits ran (tearable _ member')
        · exact tearable_other slot wgIf (Ne.symm (place_named member' seat.slot)) ran (tearable place member')
      · rw [strip_ran (place_mem member) ran, stripped]
    have reached : (fun s : Host => (∀ place ∈ places gateways, Tearable place s) ∧
        strip (places gateways) s = { host with rtTables := s.rtTables })
          (runAll (act group) (seats gateways) host.start) ∧ _ := runAll_kept valid clear initial kept
    obtain ⟨⟨tearable, stripped⟩, -⟩ := reached
    rw [setup_of_canSet can, runAll_places _ (pairwise_places valid) _ tearable, stripped]
  · rw [setup_of_not can, runAll_places _ (pairwise_places valid) _ fun place member => tearable_fresh (fresh place member)]
    exact strip_fresh fresh

/-! ### The lines in rt_tables -/

/-- Every line that the setup puts into rt_tables is there, or one that begins like it. -/
def Registered (gateways : List Gateway) (table : List Text) : Prop :=
  table.any "200 deeporc".toList.isPrefixOf = true ∧
    ∀ seat ∈ seats gateways, table.any (decimal seat.slot ++ [' ']).isPrefixOf = true

/-- A line is appended unless there is one that begins like it. -/
theorem rtTables_register (host : Host) (start line : Text) :
    host.rtTables.length ≤ (host.register start line).rtTables.length ∧
      ((host.register start line).rtTables.length = host.rtTables.length →
        host.rtTables.any start.isPrefixOf = true ∧ (host.register start line).rtTables = host.rtTables) ∧
      (host.rtTables.any start.isPrefixOf = true → (host.register start line).rtTables = host.rtTables) := by
  unfold Host.register
  split
  · rename_i registered
    exact ⟨Nat.le_refl _, fun _ => ⟨registered, rfl⟩, fun _ => rfl⟩
  · rename_i absent
    change host.rtTables.length ≤ (host.rtTables ++ [line]).length ∧ _
    refine ⟨by simp, fun same => ?_, fun registered => absurd registered absent⟩
    simp at same

theorem rtTables_runAll (list : List Seat) (foreign : ∀ seat ∈ list, group.parent ≠ seat.mac) (s : Host) :
    s.rtTables.length ≤ (runAll (act group) list s).rtTables.length ∧
      ((runAll (act group) list s).rtTables = s.rtTables ↔
        ∀ seat ∈ list, s.rtTables.any (decimal seat.slot ++ [' ']).isPrefixOf = true) := by
  induction list generalizing s with
  | nil => exact ⟨Nat.le_refl _, by simp [runAll]⟩
  | cons seat list rest =>
      have first : (act group seat s).rtTables = (s.registerSlot seat.slot).rtTables :=
        (ran (foreign seat List.mem_cons_self) rfl).rtTables
      have later := fun other member => foreign other (List.mem_cons_of_mem seat member)
      obtain ⟨longer, same_iff⟩ := rest later (act group seat s)
      obtain ⟨longer', of_length, of_registered⟩ := rtTables_register s (decimal seat.slot ++ [' '])
        (decimal seat.slot ++ " deeporc-".toList ++ decimal seat.slot)
      rw [first] at longer same_iff
      change s.rtTables.length ≤ (runAll (act group) list (act group seat s)).rtTables.length ∧
        ((runAll (act group) list (act group seat s)).rtTables = s.rtTables ↔ _)
      refine ⟨Nat.le_trans longer' longer, ?_⟩
      rw [List.forall_mem_cons]
      constructor
      · intro same
        rw [same] at longer
        obtain ⟨registered, kept⟩ := of_length (Nat.le_antisymm longer longer')
        have kept' : (s.registerSlot seat.slot).rtTables = s.rtTables := kept
        rw [kept'] at same_iff
        exact ⟨registered, same_iff.mp same⟩
      · rintro ⟨registered, others⟩
        have kept : (s.registerSlot seat.slot).rtTables = s.rtTables := of_registered registered
        rw [kept] at same_iff
        exact same_iff.mpr others

theorem rtTables_setup (clear : Clear group gateways host) (can : host.canSet group.parent = true) :
    (setup group gateways host).rtTables = host.rtTables ↔ Registered gateways host.rtTables := by
  have foreign := fun seat (member : seat ∈ seats gateways) => (clear.parent seat member).1
  obtain ⟨longer, same_iff⟩ := rtTables_runAll (seats gateways) foreign host.start
  obtain ⟨longer', of_length, of_registered⟩ := rtTables_register host "200 deeporc".toList "200 deeporc".toList
  rw [setup_of_canSet can]
  constructor
  · intro same
    rw [same] at longer
    obtain ⟨registered, kept⟩ := of_length (Nat.le_antisymm longer longer')
    have kept' : host.start.rtTables = host.rtTables := kept
    rw [kept'] at same_iff
    exact ⟨registered, same_iff.mp same⟩
  · rintro ⟨registered, others⟩
    have kept : host.start.rtTables = host.rtTables := of_registered registered
    rw [kept] at same_iff
    exact same_iff.mpr others

end Group

/-! ### Run any number of times, and torn down -/

def Rerunnable (group : PeerGroup) (gateways : List Gateway) (host : Host) : Prop :=
  ∀ n, 1 ≤ n → (setup group gateways)^[n] host = setup group gateways host

def Reversible (group : PeerGroup) (gateways : List Gateway) (host : Host) : Prop :=
  ∀ n, 1 ≤ n → teardown gateways ((setup group gateways)^[n] host) = host

/-- The host can take the setup: the script stops at once, or it finds the host clear and, where nothing of the gateways
was there before, has no line to add to rt_tables. -/
def Suits (group : PeerGroup) (gateways : List Gateway) (host : Host) : Prop :=
  host.canSet group.parent = true →
    Clear group gateways host ∧ (Fresh gateways host → Registered gateways host.rtTables)

def houseGroup : PeerGroup := ⟨"ens18".toList, 3232235777, ⟨3232235776, 24⟩⟩

def houseGateway : Gateway := ⟨"gw-1".toList, .ready, some 3232235876, some 100, some ⟨167772162, ⟨167772160, 24⟩, []⟩⟩

/-- With the rules of the kernel and the usual rt_tables. -/
def bareHost : Host where
  links := Function.update (fun _ => none) "ens18".toList (some ⟨.other true, [⟨3232235786, 24⟩], true, none⟩)
  routes := {⟨mainTable, ⟨3232235776, 24⟩, 0, "ens18".toList, none⟩}
  policy := ⟨[⟨0, .everything, lookup 255⟩, ⟨32766, .everything, lookup mainTable⟩, ⟨32767, .everything, lookup 253⟩],
    by decide⟩
  forward := []
  postrouting := []
  configs := fun _ => none
  rtTables := ["255 local".toList, "254 main".toList, "253 default".toList, "0 unspec".toList]
  standing := by
    intro route member
    rw [Finset.mem_singleton.mp member]
    decide

theorem valid_house : Valid houseGroup [houseGateway] where
  slots := by
    intro gateway member
    rw [List.mem_singleton.mp member]
    exact ⟨100, rfl, by omega, by omega⟩
  apart := List.pairwise_singleton ..
  inside := by
    intro gateway member lanIp given
    rw [List.mem_singleton.mp member] at given
    cases given
    decide

theorem fresh_bareHost : Fresh [houseGateway] bareHost := by
  intro place member
  have listed : places [houseGateway] = [⟨100, "wg-gw1".toList, some 3232235876⟩] := by decide
  rw [listed] at member
  rw [List.mem_singleton.mp member]
  refine ⟨by decide, by decide, ?_, by decide, ?_, ?_, rfl⟩
  · intro route member'
    rw [Finset.mem_singleton.mp member']
    decide
  · simp [bareHost]
  · simp [bareHost]

/-- With the lines of the setup in rt_tables, the same host suits. -/
def preparedHost : Host where
  __ := bareHost
  rtTables := bareHost.rtTables ++ ["200 deeporc".toList, "100 deeporc-100".toList]

end DeepOrc.HostSetup
