import DeepOrc.Headscale.Machine

/-! # One hostname and one exit node per gateway -/

namespace DeepOrc.Headscale

open Models Repositories Services

def DistinctIdentities (s : State) : Prop :=
  ∀ first second row other, first ≠ second →
    s.db.gateways.get first = some row → s.db.gateways.get second = some other →
    row.tailscaleHostname ≠ other.tailscaleHostname ∧
      ∀ ip, knownExitNode row = some ip → knownExitNode other ≠ some ip

/-- Creation under automatic names, provisioning and renaming. -/
def AutomaticRun : Event → Prop
  | .create _ request => request.gatewayName = none ∨ request.gatewayName = some ""
  | .provision .. => True
  | .rename .. => True
  | .delete .. => False

/-- A rename takes a generated name only back to the gateway it was generated for. -/
def GeneratedNamesKept (s : State) : Event → Prop
  | .rename gatewayId displayName _ =>
      ∀ newName row, Naming.validateTailscaleDisplayName displayName = .ok newName →
        s.db.gateways.get gatewayId = some row → Naming.isGatewayName newName = true → newName = row.name
  | _ => True

def AutomaticAndKept (s : State) (event : Event) : Prop := AutomaticRun event ∧ GeneratedNamesKept s event

/-- The node behind a gateway's exit address, under a name that leads no other gateway to it. -/
structure OwnExit (s : State) (gatewayId : Nat) (row : Gateway) (ip : String) (entry : Registered) : Prop where
  inside : entry ∈ s.registry.nodes
  address : nodeIpv4 entry.node = some ip
  apart : ∀ other otherRow, other ≠ gatewayId → s.db.gateways.get other = some otherRow →
    headscaleNodeName entry.node ≠ otherRow.tailscaleHostname ∧ headscaleNodeName entry.node ≠ otherRow.name
  generated : Naming.isGatewayName (headscaleNodeName entry.node) = true → headscaleNodeName entry.node = row.name

structure Identified (s : State) : Prop where
  generated : ∀ id row, s.db.gateways.get id = some row → Naming.isGatewayName row.name = true
  names : ∀ first second row other, first ≠ second → s.db.gateways.get first = some row →
    s.db.gateways.get second = some other → row.name ≠ other.name
  hostnames : ∀ first second row other, first ≠ second → s.db.gateways.get first = some row →
    s.db.gateways.get second = some other → row.tailscaleHostname ≠ other.tailscaleHostname
  own : ∀ id row, s.db.gateways.get id = some row → Naming.isGatewayName row.tailscaleHostname = true →
    row.tailscaleHostname = row.name
  exits : ∀ id row ip, s.db.gateways.get id = some row → knownExitNode row = some ip →
    ∃ entry, OwnExit s id row ip entry
  distinct : ∀ first second row other, first ≠ second → s.db.gateways.get first = some row →
    s.db.gateways.get second = some other → ∀ ip, knownExitNode row = some ip → knownExitNode other ≠ some ip

theorem distinct_of_identified {s : State} (identified : Identified s) : DistinctIdentities s :=
  fun first second row other different present present' =>
    ⟨identified.hostnames first second row other different present present',
      identified.distinct first second row other different present present'⟩

theorem identified_initial {s : State} (initial : Initial s) : Identified s := by
  have empty (id : Nat) (row : Gateway) : s.db.gateways.get id ≠ some row := by
    rw [initial.gateways]
    exact fun absurd => by cases absurd
  refine ⟨?_, ?_, ?_, ?_, ?_, ?_⟩
  · exact fun id row present => absurd present (empty id row)
  · exact fun first _ row _ _ present => absurd present (empty first row)
  · exact fun first _ row _ _ present => absurd present (empty first row)
  · exact fun id row present => absurd present (empty id row)
  · exact fun id row _ present => absurd present (empty id row)
  · exact fun first _ row _ _ present => absurd present (empty first row)

/-! ### Creation -/

theorem requestedName_automatic {db : Db} {request : CreateGatewayRequest} {name : String}
    (automatic : request.gatewayName = none ∨ request.gatewayName = some "")
    (requested : requestedName db request = .ok name) :
    Naming.isGatewayName name = true ∧ ∀ id row, db.gateways.get id = some row → row.name ≠ name := by
  have next : nextGatewayName db = .ok name := by
    rcases automatic with absent | blank
    · simpa [requestedName, absent] using requested
    · simpa [requestedName, blank] using requested
  unfold nextGatewayName at next
  split at next
  · rename_i chosen found
    cases next
    refine ⟨Naming.isGatewayName_of_next found, ?_⟩
    intro id row present same
    have unused := Naming.nextSequentialName_not_mem found
    exact unused (List.mem_map.mpr ⟨(id, row), Lib.Table.mem_toList.mpr present, same⟩)
  · cases next

theorem create_identified {s t : State} {calls : CreationCalls} {request : CreateGatewayRequest}
    (identified : Identified s) (automatic : request.gatewayName = none ∨ request.gatewayName = some "")
    (stepped : step s (.create calls request) = some t) : Identified t := by
  simp only [step] at stepped
  split at stepped
  · cases stepped
  · rename_i db gatewayId jobId created
    cases stepped
    obtain ⟨made⟩ := createGateway_ok created
    obtain ⟨form, fresh⟩ := requestedName_automatic automatic made.named
    have rows (id : Nat) (row : Gateway) : db.gateways.get id = some row ↔
        (id = s.db.gateways.next ∧
          row = newGateway calls gatewayId made.workerId made.name made.vmIp made.udpPort) ∨
        (id ≠ s.db.gateways.next ∧ s.db.gateways.get id = some row) := by
      rw [made.gateways, Lib.Table.get_insert]
      split_ifs with new <;> simp [new, eq_comm]
    have hostname_fresh (id : Nat) (row : Gateway) (present : s.db.gateways.get id = some row) :
        row.tailscaleHostname ≠ made.name := by
      intro same
      have own := identified.own id row present (same ▸ form)
      exact fresh id row present (own.symm.trans same)
    refine ⟨?_, ?_, ?_, ?_, ?_, ?_⟩
    · intro id row present
      rcases (rows id row).mp present with ⟨-, rfl⟩ | ⟨-, earlier⟩
      · exact form
      · exact identified.generated id row earlier
    · intro first second row other different present present'
      rcases (rows first row).mp present with ⟨new, rfl⟩ | ⟨-, earlier⟩ <;>
        rcases (rows second other).mp present' with ⟨new', rfl⟩ | ⟨-, earlier'⟩
      · exact absurd (new.trans new'.symm) different
      · exact (fresh second other earlier').symm
      · exact fresh first row earlier
      · exact identified.names first second row other different earlier earlier'
    · intro first second row other different present present'
      rcases (rows first row).mp present with ⟨new, rfl⟩ | ⟨-, earlier⟩ <;>
        rcases (rows second other).mp present' with ⟨new', rfl⟩ | ⟨-, earlier'⟩
      · exact absurd (new.trans new'.symm) different
      · exact (hostname_fresh second other earlier').symm
      · exact hostname_fresh first row earlier
      · exact identified.hostnames first second row other different earlier earlier'
    · intro id row present gatewayForm
      rcases (rows id row).mp present with ⟨-, rfl⟩ | ⟨-, earlier⟩
      · rfl
      · exact identified.own id row earlier gatewayForm
    · intro id row ip present known
      rcases (rows id row).mp present with ⟨-, rfl⟩ | ⟨-, earlier⟩
      · simp [knownExitNode, newGateway] at known
      · obtain ⟨entry, exit⟩ := identified.exits id row ip earlier known
        refine ⟨entry, exit.inside, exit.address, ?_, exit.generated⟩
        intro other otherRow different present'
        rcases (rows other otherRow).mp present' with ⟨-, rfl⟩ | ⟨-, earlier'⟩
        · have unlike : headscaleNodeName entry.node ≠ made.name := by
            intro same
            exact fresh id row earlier ((exit.generated (same ▸ form)).symm.trans same)
          exact ⟨unlike, unlike⟩
        · exact exit.apart other otherRow different earlier'
    · intro first second row other different present present' ip known known'
      rcases (rows first row).mp present with ⟨-, rfl⟩ | ⟨-, earlier⟩
      · simp [knownExitNode, newGateway] at known
      · rcases (rows second other).mp present' with ⟨-, rfl⟩ | ⟨-, earlier'⟩
        · simp [knownExitNode, newGateway] at known'
        · exact identified.distinct first second row other different earlier earlier' ip known known'

/-! ### Provisioning -/

/-- A node under one of the gateway's two names leads to no other gateway. -/
theorem ownExit_of_named {s : State} {gatewayId : Nat} {row : Gateway} (identified : Identified s)
    (present : s.db.gateways.get gatewayId = some row) {entry : Registered}
    (named : headscaleNodeName entry.node = row.tailscaleHostname ∨ headscaleNodeName entry.node = row.name) :
    (∀ other otherRow, other ≠ gatewayId → s.db.gateways.get other = some otherRow →
      headscaleNodeName entry.node ≠ otherRow.tailscaleHostname ∧ headscaleNodeName entry.node ≠ otherRow.name) ∧
      (Naming.isGatewayName (headscaleNodeName entry.node) = true → headscaleNodeName entry.node = row.name) := by
  refine ⟨?_, ?_⟩
  · intro other otherRow different present'
    have names := identified.names other gatewayId otherRow row different present' present
    have hostnames := identified.hostnames other gatewayId otherRow row different present' present
    rcases named with hostname | name
    · refine ⟨fun same => hostnames (same.symm.trans hostname), fun same => names ?_⟩
      have form := identified.generated other otherRow present'
      rw [← same, hostname] at form
      exact same.symm.trans (hostname.trans (identified.own gatewayId row present form))
    · refine ⟨fun same => names ?_, fun same => names (same.symm.trans name)⟩
      have form := identified.generated gatewayId row present
      rw [← name, same] at form
      exact (identified.own other otherRow present' form).symm.trans (same.symm.trans name)
  · intro form
    rcases named with hostname | name
    · rw [hostname] at form ⊢
      exact identified.own gatewayId row present form
    · exact name

theorem provision_identified {s t : State} {gatewayId jobId : Nat} {joining : Option Node} {calls : ProvisionCalls}
    (identified : Identified s) (stepped : provisionStep s gatewayId jobId joining calls = some t) :
    Identified t := by
  obtain ⟨done⟩ := provisionStep_some stepped
  have before {id : Nat} {row : Gateway} (present : t.db.gateways.get id = some row) :
      ∃ old, s.db.gateways.get id = some old ∧ old.name = row.name ∧
        old.tailscaleHostname = row.tailscaleHostname := by
    rw [done.gateways] at present
    split at present
    · rename_i same
      cases present
      exact ⟨done.gateway, same ▸ done.present, done.name.symm, done.hostname.symm⟩
    · exact ⟨row, present, rfl, rfl⟩
  have kept {entry : Registered} (inside : entry ∈ s.registry.nodes) : entry ∈ t.registry.nodes :=
    (joinNode_some done.joined).mpr (.inl inside)
  -- an exit address is the one known before, or that of a node under the provisioned gateway's names
  have sources {id : Nat} {row : Gateway} {ip : String} (present : t.db.gateways.get id = some row)
      (known : knownExitNode row = some ip) :
      (∃ old, s.db.gateways.get id = some old ∧ knownExitNode old = some ip) ∨
        (id = gatewayId ∧ ∃ entry ∈ t.registry.nodes, nodeIpv4 entry.node = some ip ∧
          (headscaleNodeName entry.node = done.gateway.tailscaleHostname ∨
            headscaleNodeName entry.node = done.gateway.name)) := by
    rw [done.gateways] at present
    split at present
    · rename_i same
      cases present
      rcases knownExitNode_provisioned done known with earlier | source
      · exact .inl ⟨done.gateway, same ▸ done.present, earlier⟩
      · exact .inr ⟨same, source⟩
    · exact .inl ⟨row, present, known⟩
  -- the provisioned gateway's new address was nobody's
  have unshared {other : Nat} {old : Gateway} {ip : String} {entry : Registered} (different : other ≠ gatewayId)
      (present : s.db.gateways.get other = some old) (known : knownExitNode old = some ip)
      (inside : entry ∈ t.registry.nodes) (address : nodeIpv4 entry.node = some ip)
      (named : headscaleNodeName entry.node = done.gateway.tailscaleHostname ∨
        headscaleNodeName entry.node = done.gateway.name) : False := by
    obtain ⟨exit, own⟩ := identified.exits other old ip present known
    have same := Registry.eq_of_ipv4 inside (kept own.inside) address own.address
    subst same
    have apart := own.apart gatewayId done.gateway different.symm done.present
    rcases named with hostname | name
    · exact apart.1 hostname
    · exact apart.2 name
  refine ⟨?_, ?_, ?_, ?_, ?_, ?_⟩
  · intro id row present
    obtain ⟨old, earlier, name, -⟩ := before present
    rw [← name]
    exact identified.generated id old earlier
  · intro first second row other different present present'
    obtain ⟨old, earlier, name, -⟩ := before present
    obtain ⟨old', earlier', name', -⟩ := before present'
    rw [← name, ← name']
    exact identified.names first second old old' different earlier earlier'
  · intro first second row other different present present'
    obtain ⟨old, earlier, -, hostname⟩ := before present
    obtain ⟨old', earlier', -, hostname'⟩ := before present'
    rw [← hostname, ← hostname']
    exact identified.hostnames first second old old' different earlier earlier'
  · intro id row present form
    obtain ⟨old, earlier, name, hostname⟩ := before present
    rw [← hostname] at form ⊢
    rw [← name]
    exact identified.own id old earlier form
  · intro id row ip present known
    obtain ⟨old, earlier, name, -⟩ := before present
    have settled : ∃ entry, OwnExit s id old ip entry ∨ (entry ∈ t.registry.nodes ∧
        nodeIpv4 entry.node = some ip ∧
        (headscaleNodeName entry.node = old.tailscaleHostname ∨ headscaleNodeName entry.node = old.name)) := by
      rcases sources present known with ⟨known', present', earlierKnown⟩ | ⟨rfl, entry, inside, address, named⟩
      · rw [earlier] at present'
        cases present'
        obtain ⟨entry, own⟩ := identified.exits id old ip earlier earlierKnown
        exact ⟨entry, .inl own⟩
      · rw [done.present] at earlier
        cases earlier
        exact ⟨entry, .inr ⟨inside, address, named⟩⟩
    have transfer {entry : Registered} (inside : entry ∈ t.registry.nodes) (address : nodeIpv4 entry.node = some ip)
        (facts : (∀ other otherRow, other ≠ id → s.db.gateways.get other = some otherRow →
          headscaleNodeName entry.node ≠ otherRow.tailscaleHostname ∧
            headscaleNodeName entry.node ≠ otherRow.name) ∧
          (Naming.isGatewayName (headscaleNodeName entry.node) = true → headscaleNodeName entry.node = old.name)) :
        OwnExit t id row ip entry := by
      refine ⟨inside, address, ?_, fun form => (facts.2 form).trans name⟩
      intro other otherRow different present'
      obtain ⟨old', earlier', name', hostname'⟩ := before present'
      rw [← name', ← hostname']
      exact facts.1 other old' different earlier'
    obtain ⟨entry, own | ⟨inside, address, named⟩⟩ := settled
    · exact ⟨entry, transfer (kept own.inside) own.address ⟨own.apart, own.generated⟩⟩
    · exact ⟨entry, transfer inside address (ownExit_of_named identified earlier named)⟩
  · intro first second row other different present present' ip known known'
    rcases sources present known with ⟨old, earlier, knownOld⟩ | ⟨rfl, entry, inside, address, named⟩ <;>
      rcases sources present' known' with ⟨old', earlier', knownOld'⟩ | ⟨rfl, entry', inside', address', named'⟩
    · exact identified.distinct first second old old' different earlier earlier' ip knownOld knownOld'
    · exact unshared different earlier knownOld inside' address' named'
    · exact unshared different.symm earlier' knownOld' inside address named
    · exact different rfl

/-! ### Renaming -/

/-- The node a rename finds is nobody else's exit. -/
theorem renamed_unshared {s t : State} {gatewayId : Nat} {displayName : String} (identified : Identified s)
    (done : Renamed s t gatewayId displayName) {other : Nat} {row : Gateway} {ip : String} {entry : Registered}
    (different : other ≠ gatewayId) (present : s.db.gateways.get other = some row)
    (known : knownExitNode row = some ip) (own : OwnExit s other row ip entry) :
    entry.node.id ≠ some done.nodeId := by
  intro target
  obtain ⟨node, listed, identity, claimed⟩ := headscaleNodeToRename_ok done.found
  obtain ⟨found, inside, rfl⟩ := Registry.mem_of_lists done.lists listed
  have same := Registry.eq_of_id own.inside inside (target.trans identity.symm)
  subst same
  have apart := own.apart gatewayId done.gateway different.symm done.present
  rcases claimed with ⟨exit, knownOwn, address⟩ | hostname | name
  · rw [own.address] at address
    cases address
    exact identified.distinct other gatewayId row done.gateway different present done.present ip known knownOwn
  · exact apart.1 hostname
  · exact apart.2 name

theorem rename_identified {s t : State} {gatewayId : Nat} {displayName : String} {calls : RenameCalls}
    (identified : Identified s) (kept : GeneratedNamesKept s (.rename gatewayId displayName calls))
    (stepped : renameStep s gatewayId displayName calls = some t) : Identified t := by
  rcases renameStep_some stepped with rfl | changed
  · exact identified
  obtain ⟨done⟩ := changed
  have generated := kept done.newName done.gateway done.valid done.present
  have before {id : Nat} {row : Gateway} (present : t.db.gateways.get id = some row) :
      (id = gatewayId ∧ row = { done.gateway with tailscaleHostname := done.newName }) ∨
        (id ≠ gatewayId ∧ s.db.gateways.get id = some row) := by
    rw [done.db, setTailscaleHostname, Lib.Table.get_modify] at present
    split at present
    · rename_i same
      subst same
      rw [done.present] at present
      cases present
      exact .inl ⟨rfl, rfl⟩
    · rename_i other
      exact .inr ⟨other, present⟩
  refine ⟨?_, ?_, ?_, ?_, ?_, ?_⟩
  · intro id row present
    rcases before present with ⟨-, rfl⟩ | ⟨-, earlier⟩
    · exact identified.generated gatewayId done.gateway done.present
    · exact identified.generated id row earlier
  · intro first second row other different present present'
    rcases before present with ⟨rfl, rfl⟩ | ⟨-, earlier⟩ <;> rcases before present' with ⟨rfl, rfl⟩ | ⟨-, earlier'⟩
    · exact absurd rfl different
    · exact identified.names _ second done.gateway other different done.present earlier'
    · exact identified.names first _ row done.gateway different earlier done.present
    · exact identified.names first second row other different earlier earlier'
  · intro first second row other different present present'
    rcases before present with ⟨rfl, rfl⟩ | ⟨-, earlier⟩ <;> rcases before present' with ⟨rfl, rfl⟩ | ⟨-, earlier'⟩
    · exact absurd rfl different
    · exact (done.hostname_free second other different.symm earlier').symm
    · exact done.hostname_free first row different earlier
    · exact identified.hostnames first second row other different earlier earlier'
  · intro id row present form
    rcases before present with ⟨-, rfl⟩ | ⟨-, earlier⟩
    · exact generated form
    · exact identified.own id row earlier form
  · intro id row ip present known
    rcases before present with ⟨rfl, rfl⟩ | ⟨other, earlier⟩
    · obtain ⟨entry, own⟩ := identified.exits _ done.gateway ip done.present known
      have name : headscaleNodeName (Registry.renamed done.nodeId done.newName entry).node = _ :=
        Registry.renamed_name done.filled entry
      have inside : Registry.renamed done.nodeId done.newName entry ∈ t.registry.nodes := by
        rw [done.nodes]
        exact List.mem_map_of_mem own.inside
      have address := own.address
      rw [← Registry.renamed_ipv4 done.nodeId done.newName] at address
      by_cases target : entry.node.id = some done.nodeId
      · rw [if_pos target] at name
        refine ⟨_, inside, address, ?_, fun form => name.trans (generated (name ▸ form))⟩
        intro other otherRow different present'
        rcases before present' with ⟨same, -⟩ | ⟨-, earlier'⟩
        · exact absurd same different
        · rw [name]
          refine ⟨(done.hostname_free other otherRow different earlier').symm, fun same => ?_⟩
          have form := identified.generated other otherRow earlier'
          rw [← same] at form
          exact identified.names other _ otherRow done.gateway different earlier' done.present
            (same.symm.trans (generated form))
      · rw [if_neg target] at name
        refine ⟨_, inside, address, ?_, fun form => name.trans (own.generated (name ▸ form))⟩
        intro other otherRow different present'
        rcases before present' with ⟨same, -⟩ | ⟨-, earlier'⟩
        · exact absurd same different
        · rw [name]
          exact own.apart other otherRow different earlier'
    · obtain ⟨entry, own⟩ := identified.exits id row ip earlier known
      have untouched := renamed_unshared identified done other earlier known own
      have same : (Registry.renamed done.nodeId done.newName entry) = entry := by
        simp [Registry.renamed, untouched]
      refine ⟨entry, ?_, own.address, ?_, own.generated⟩
      · rw [done.nodes]
        exact List.mem_map.mpr ⟨entry, own.inside, same⟩
      · intro third otherRow different present'
        rcases before present' with ⟨rfl, rfl⟩ | ⟨-, earlier'⟩
        · exact ⟨done.name_free entry own.inside untouched,
            (own.apart _ done.gateway different done.present).2⟩
        · exact own.apart third otherRow different earlier'
  · intro first second row other different present present' ip known known'
    rcases before present with ⟨rfl, rfl⟩ | ⟨-, earlier⟩ <;> rcases before present' with ⟨rfl, rfl⟩ | ⟨-, earlier'⟩
    · exact different rfl
    · exact identified.distinct _ second done.gateway other different done.present earlier' ip known known'
    · exact identified.distinct first _ row done.gateway different earlier done.present ip known known'
    · exact identified.distinct first second row other different earlier earlier' ip known known'

theorem step_identified {s t : State} {event : Event} (identified : Identified s) (allowed : AutomaticAndKept s event)
    (stepped : step s event = some t) : Identified t := by
  cases event with
  | create calls request => exact create_identified identified allowed.1 stepped
  | provision gatewayId jobId joining calls => exact provision_identified identified stepped
  | rename gatewayId displayName calls => exact rename_identified identified allowed.2 stepped
  | delete gatewayId jobId listing calls => exact allowed.1.elim

/-- While renames leave generated names to the gateways they were made for, no two gateways share a
hostname or an exit address. -/
theorem identities_distinct_while_names_kept {start s : State} (initial : Initial start)
    (reached : Lib.Reaches step AutomaticAndKept start s) : DistinctIdentities s :=
  distinct_of_identified (reached.invariant (identified_initial initial)
    fun _ _ _ identified allowed stepped => step_identified identified allowed stepped)

/-! ### A generated name given away -/

theorem renamed_gateway_distinct :
    ∃ s, Lib.Reaches step AutomaticAndKept emptyDeployment s ∧
      (s.db.gateways.get 1).map Gateway.tailscaleHostname = some "paris" ∧ DistinctIdentities s := by
  have ran : (step emptyDeployment createAutomatic).any (fun s =>
      (step s (provisionHealthy 1 (some (plainNode 1 "gw-000" "100.64.0.1")) [plainNode 1 "gw-000" "100.64.0.1"])).any
        fun t => (step t (renameListed 1 "paris" [plainNode 1 "gw-000" "100.64.0.1"])).any fun u =>
          (u.db.gateways.get 1).map Gateway.tailscaleHostname = some "paris") = true := by
    decide +kernel
  obtain ⟨s, created, afterCreate⟩ := Lib.exists_of_any ran
  obtain ⟨t, provisioned, afterProvision⟩ := Lib.exists_of_any afterCreate
  obtain ⟨u, renamed, hostname⟩ := Lib.exists_of_any afterProvision
  have allowed : AutomaticAndKept t (renameListed 1 "paris" [plainNode 1 "gw-000" "100.64.0.1"]) := by
    refine ⟨trivial, ?_⟩
    intro newName row valid _ form
    have paris : Naming.validateTailscaleDisplayName "paris" = .ok "paris" := by decide
    rw [paris] at valid
    cases valid
    exact absurd form (by decide)
  have reached : Lib.Reaches step AutomaticAndKept emptyDeployment u := by
    refine Lib.Reaches.tail (Lib.Reaches.tail (Lib.Reaches.tail .refl ?_ created) ?_ provisioned) allowed renamed
    · exact ⟨.inl rfl, trivial⟩
    · exact ⟨trivial, trivial⟩
  exact ⟨u, reached, of_decide_eq_true hostname, identities_distinct_while_names_kept emptyDeployment_initial reached⟩

/-- The first gateway takes the name the next creation will generate. -/
theorem generated_hostname_shared :
    ∃ s, Lib.Reaches step (fun _ event => AutomaticRun event) emptyDeployment s ∧ ¬ DistinctIdentities s := by
  have ran : (step emptyDeployment createAutomatic).any (fun s =>
      (step s (provisionHealthy 1 (some (plainNode 1 "gw-000" "100.64.0.1")) [plainNode 1 "gw-000" "100.64.0.1"])).any
        fun t => (step t (renameListed 1 "gw-001" [plainNode 1 "gw-000" "100.64.0.1"])).any fun u =>
          (step u createAutomatic).any fun v =>
            decide ((v.db.gateways.get 1).map Gateway.tailscaleHostname = some "gw-001") &&
              decide ((v.db.gateways.get 2).map Gateway.tailscaleHostname = some "gw-001")) = true := by
    decide +kernel
  obtain ⟨s, created, afterCreate⟩ := Lib.exists_of_any ran
  obtain ⟨t, provisioned, afterProvision⟩ := Lib.exists_of_any afterCreate
  obtain ⟨u, renamed, afterRename⟩ := Lib.exists_of_any afterProvision
  obtain ⟨v, recreated, facts⟩ := Lib.exists_of_any afterRename
  simp only [Bool.and_eq_true, decide_eq_true_eq] at facts
  obtain ⟨row, present, hostname⟩ := Option.map_eq_some_iff.mp facts.1
  obtain ⟨other, present', hostname'⟩ := Option.map_eq_some_iff.mp facts.2
  refine ⟨v, ?_, fun distinct => ?_⟩
  · refine Lib.Reaches.tail (Lib.Reaches.tail (Lib.Reaches.tail (Lib.Reaches.tail .refl ?_ created) ?_ provisioned)
      ?_ renamed) ?_ recreated
    · exact .inl rfl
    · trivial
    · trivial
    · exact .inl rfl
  · exact (distinct 1 2 row other (by decide) present present').1 (hostname.trans hostname'.symm)

end DeepOrc.Headscale
