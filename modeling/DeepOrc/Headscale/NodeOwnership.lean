import DeepOrc.Headscale.Machine

/-! # Which gateway's node a lookup by old names can hit -/

namespace DeepOrc.Headscale

open Models Repositories Services

/-- A deletion or a rename of the gateway can take this node for the gateway's own. -/
def Claims (row : Gateway) (node : Node) : Prop :=
  (∃ ip, knownExitNode row = some ip ∧ nodeIpv4 node = some ip) ∨
    headscaleNodeName node ∈ [row.tailscaleHostname, row.name, row.incusInstance]

def Live (s : State) (gatewayId : Nat) : Prop := (s.db.gateways.get gatewayId).isSome

/-- No lookup for this gateway ends at a node that another live gateway registered, in any listing order. -/
def LooksUpOwnNode (s : State) (gatewayId : Nat) (row : Gateway) : Prop :=
  ∀ listing nodeId, s.registry.Lists listing →
    headscaleNodeToDelete listing row = some nodeId ∨ headscaleNodeToRename listing row = .ok nodeId →
    ∀ entry ∈ s.registry.nodes, entry.node.id = some nodeId →
      ∀ owner, entry.owner = some owner → owner ≠ gatewayId → ¬ Live s owner

def Safe (s : State) : Prop :=
  ∀ gatewayId row, s.db.gateways.get gatewayId = some row → LooksUpOwnNode s gatewayId row

/-! ### The condition on a step -/

def CreateAllowed (s : State) (request : CreateGatewayRequest) : Prop :=
  ∀ name, requestedName s.db request = .ok name →
    ∀ entry ∈ s.registry.nodes, ∀ owner, entry.owner = some owner → Live s owner →
      headscaleNodeName entry.node ≠ name ∧ headscaleNodeName entry.node ≠ "gw-" ++ name

def JoinAllowed (s : State) (gatewayId : Nat) (joining : Option Node) : Prop :=
  ∀ node, joining = some node →
    ∀ other row, other ≠ gatewayId → s.db.gateways.get other = some row → ¬ Claims row node

def RenameAllowed (s : State) (gatewayId : Nat) (displayName : String) : Prop :=
  ∀ newName, Naming.validateTailscaleDisplayName displayName = .ok newName →
    ∀ other row, other ≠ gatewayId → s.db.gateways.get other = some row →
      newName ≠ row.name ∧ newName ≠ row.incusInstance

/-- No step brings a gateway's old or fixed name and another live gateway's node together. -/
def NamesKeptApart (s : State) : Event → Prop
  | .create _ request => CreateAllowed s request
  | .provision gatewayId _ joining _ => JoinAllowed s gatewayId joining
  | .rename gatewayId displayName _ => RenameAllowed s gatewayId displayName
  | .delete .. => True

/-! ### The invariant -/

structure Separate (s : State) : Prop where
  claims : ∀ entry ∈ s.registry.nodes, ∀ owner, entry.owner = some owner → Live s owner →
    ∀ other row, other ≠ owner → s.db.gateways.get other = some row → ¬ Claims row entry.node
  owners : ∀ entry ∈ s.registry.nodes, ∀ owner, entry.owner = some owner → owner < s.db.gateways.next

theorem claimed_of_lookup {listing : List Node} {row : Gateway} {nodeId : Nat}
    (found : headscaleNodeToDelete listing row = some nodeId ∨ headscaleNodeToRename listing row = .ok nodeId) :
    ∃ node ∈ listing, node.id = some nodeId ∧ Claims row node := by
  rcases found with deleted | renamed
  · obtain ⟨node, member, identified, address | hostname | name | instance'⟩ := headscaleNodeToDelete_some deleted
    · exact ⟨node, member, identified, .inl address⟩
    · exact ⟨node, member, identified, .inr (by simp [hostname])⟩
    · exact ⟨node, member, identified, .inr (by simp [name])⟩
    · exact ⟨node, member, identified, .inr (by simp [instance'])⟩
  · obtain ⟨node, member, identified, address | hostname | name⟩ := headscaleNodeToRename_ok renamed
    · exact ⟨node, member, identified, .inl address⟩
    · exact ⟨node, member, identified, .inr (by simp [hostname])⟩
    · exact ⟨node, member, identified, .inr (by simp [name])⟩

theorem entry_of_lookup {s : State} {listing : List Node} (lists : s.registry.Lists listing) {row : Gateway}
    {nodeId : Nat}
    (found : headscaleNodeToDelete listing row = some nodeId ∨ headscaleNodeToRename listing row = .ok nodeId)
    {entry : Registered} (inside : entry ∈ s.registry.nodes) (identified : entry.node.id = some nodeId) :
    Claims row entry.node := by
  obtain ⟨node, member, identified', claims⟩ := claimed_of_lookup found
  obtain ⟨entry', inside', rfl⟩ := Registry.mem_of_lists lists member
  rwa [Registry.eq_of_id inside inside' (identified.trans identified'.symm)]

/-- Only claimed nodes are looked up, so separation is enough. -/
theorem safe_of_separate {s : State} (separate : Separate s) : Safe s := by
  intro gatewayId row present listing nodeId lists found entry inside identified owner owned different live
  have claims := entry_of_lookup lists found inside identified
  exact separate.claims entry inside owner owned live gatewayId row different.symm present claims

theorem separate_initial {s : State} (initial : Initial s) : Separate s where
  claims := by
    intro entry inside owner owned
    rw [initial.foreign entry inside] at owned
    cases owned
  owners := by
    intro entry inside owner owned
    rw [initial.foreign entry inside] at owned
    cases owned

/-! ### Each operation keeps the invariant -/

theorem create_separate {s t : State} {calls : CreationCalls} {request : CreateGatewayRequest}
    (separate : Separate s) (allowed : CreateAllowed s request) (stepped : step s (.create calls request) = some t) :
    Separate t := by
  simp only [step] at stepped
  split at stepped
  · cases stepped
  · rename_i db gatewayId jobId created
    cases stepped
    obtain ⟨made⟩ := createGateway_ok created
    have rows (id : Nat) : db.gateways.get id =
        if id = s.db.gateways.next then some (newGateway calls gatewayId made.workerId made.name made.vmIp made.udpPort)
        else s.db.gateways.get id := by
      rw [made.gateways, Lib.Table.get_insert]
    refine ⟨?_, ?_⟩
    · intro entry inside owner owned live other row different present claims
      have earlier := separate.owners entry inside owner owned
      have live' : Live s owner := by
        simpa only [Live, rows, if_neg (Nat.ne_of_lt earlier)] using live
      simp only [rows] at present
      split at present
      · cases present
        rcases claims with ⟨ip, known, -⟩ | named
        · simp [knownExitNode, newGateway] at known
        · obtain ⟨plain, prefixed⟩ := allowed made.name made.named entry inside owner owned live'
          simp [newGateway, plain, prefixed] at named
      · exact separate.claims entry inside owner owned live' other row different present claims
    · intro entry inside owner owned
      have earlier := separate.owners entry inside owner owned
      rw [made.gateways]
      exact Nat.lt_succ_of_lt earlier

/-- What a gateway claims after its provisioning it claimed before, or is a node found under its own name. -/
theorem claims_provisioned {s t : State} {gatewayId : Nat} {joining : Option Node}
    (done : Provisioned s t gatewayId joining) {entry : Registered} (inside : entry ∈ t.registry.nodes)
    (claims : Claims done.row entry.node) : Claims done.gateway entry.node := by
  rcases claims with ⟨ip, known, address⟩ | named
  · rcases knownExitNode_provisioned done known with earlier | ⟨source, listed, same, named⟩
    · exact .inl ⟨ip, earlier, address⟩
    · rw [Registry.eq_of_ipv4 inside listed address same]
      rcases named with hostname | name
      · exact .inr (by simp [hostname])
      · exact .inr (by simp [name])
  · rw [done.hostname, done.name, done.incusInstance] at named
    exact .inr named

theorem provision_separate {s t : State} {gatewayId jobId : Nat} {joining : Option Node} {calls : ProvisionCalls}
    (separate : Separate s) (allowed : JoinAllowed s gatewayId joining)
    (stepped : provisionStep s gatewayId jobId joining calls = some t) : Separate t := by
  obtain ⟨done⟩ := provisionStep_some stepped
  have live (owner : Nat) (there : Live t owner) : Live s owner := by
    unfold Live at there ⊢
    rw [done.gateways] at there
    split at there
    · rename_i same
      rw [same, done.present]
      rfl
    · exact there
  refine ⟨?_, ?_⟩
  · intro entry inside owner owned there other row different present claims
    rw [done.gateways] at present
    have before : ∃ earlier, s.db.gateways.get other = some earlier ∧ Claims earlier entry.node := by
      split at present
      · rename_i same
        cases present
        exact ⟨done.gateway, same ▸ done.present, claims_provisioned done inside claims⟩
      · exact ⟨row, present, claims⟩
    obtain ⟨earlier, present', claims'⟩ := before
    rcases (joinNode_some done.joined).mp inside with older | ⟨joins, owned'⟩
    · exact separate.claims entry older owner owned (live owner there) other earlier different present' claims'
    · rw [owned'] at owned
      cases owned
      exact allowed entry.node joins other earlier different present' claims'
  · intro entry inside owner owned
    rw [done.next]
    rcases (joinNode_some done.joined).mp inside with older | ⟨-, owned'⟩
    · exact separate.owners entry older owner owned
    · rw [owned'] at owned
      cases owned
      exact Lib.Table.lt_next_of_get done.present

theorem rename_separate {s t : State} {gatewayId : Nat} {displayName : String} {calls : RenameCalls}
    (separate : Separate s) (allowed : RenameAllowed s gatewayId displayName)
    (stepped : renameStep s gatewayId displayName calls = some t) : Separate t := by
  rcases renameStep_some stepped with rfl | changed
  · exact separate
  obtain ⟨done⟩ := changed
  have rows (id : Nat) : t.db.gateways.get id =
      if id = gatewayId then (s.db.gateways.get id).map fun row => { row with tailscaleHostname := done.newName }
      else s.db.gateways.get id := by
    rw [done.db]
    rfl
  have live (owner : Nat) (there : Live t owner) : Live s owner := by
    unfold Live at there ⊢
    rw [rows] at there
    split at there
    · simpa using there
    · exact there
  refine ⟨?_, ?_⟩
  · intro renamed inside owner owned there other row different present claims
    rw [done.nodes] at inside
    obtain ⟨entry, older, rfl⟩ := List.mem_map.mp inside
    rw [Registry.renamed_owner] at owned
    have apart := separate.claims entry older owner owned (live owner there)
    have name : headscaleNodeName (Registry.renamed done.nodeId done.newName entry).node = _ :=
      Registry.renamed_name done.filled entry
    rw [rows] at present
    by_cases target : entry.node.id = some done.nodeId
    · -- the renamed node is the gateway's own, because the lookup that found it claims it
      have claimed := entry_of_lookup done.lists (.inr done.found) older target
      have own : owner = gatewayId := by
        by_contra foreign
        exact apart gatewayId done.gateway (Ne.symm foreign) done.present claimed
      subst own
      rw [if_neg different] at present
      rw [if_pos target] at name
      obtain ⟨nameApart, instanceApart⟩ := allowed done.newName done.valid other row different present
      rcases claims with address | named
      · rw [Registry.renamed_ipv4] at address
        exact apart other row different present (.inl address)
      · have hostnameApart := done.hostname_free other row different present
        simp only [name, List.mem_cons, List.not_mem_nil, or_false] at named
        rcases named with hostname | same | same
        · exact hostnameApart hostname.symm
        · exact nameApart same
        · exact instanceApart same
    · rw [if_neg target] at name
      have untouched : (Registry.renamed done.nodeId done.newName entry).node = entry.node := by
        simp [Registry.renamed, target]
      rw [untouched] at claims
      split at present
      · rename_i same
        subst same
        rw [done.present] at present
        cases present
        apply apart other done.gateway different done.present
        rcases claims with address | named
        · exact .inl address
        · right
          simp only [List.mem_cons, List.not_mem_nil, or_false] at named
          rcases named with hostname | same | same
          · exact absurd hostname (done.name_free entry older target)
          · simp [same]
          · simp [same]
      · exact apart other row different present claims
  · intro renamed inside owner owned
    rw [done.nodes] at inside
    obtain ⟨entry, older, rfl⟩ := List.mem_map.mp inside
    rw [Registry.renamed_owner] at owned
    rw [done.db]
    exact separate.owners entry older owner owned

theorem mem_of_removeFound {registry : Registry} {outcome : Except PyError Unit} {found : Option Nat}
    {entry : Registered} (inside : entry ∈ (removeFound registry outcome found).nodes) : entry ∈ registry.nodes := by
  unfold removeFound at inside
  split at inside
  · exact (List.mem_filter.mp inside).1
  · exact inside

theorem delete_separate {s t : State} {gatewayId : Nat} {jobId : Option Nat} {listing : List Node}
    {calls : DeletionCalls} (separate : Separate s)
    (stepped : deleteStep s gatewayId jobId listing calls = some t) : Separate t := by
  unfold deleteStep at stepped
  split at stepped
  · split at stepped
    · cases stepped
    · rename_i gateway present
      split at stepped
      · cases stepped
      · rename_i db deleted
        cases stepped
        have rows := gateways_executeDeleteGateway present deleted
        have earlier {id : Nat} {row : Gateway} (there : db.gateways.get id = some row) :
            s.db.gateways.get id = some row := by
          rw [rows, Lib.Table.delete, Lib.Table.get_deleteWhere, Option.filter_eq_some_iff] at there
          exact there.1
        refine ⟨?_, ?_⟩
        · intro entry inside owner owned there other row different present' claims
          obtain ⟨ownerRow, there⟩ := Option.isSome_iff_exists.mp there
          exact separate.claims entry (mem_of_removeFound inside) owner owned
            (Option.isSome_iff_exists.mpr ⟨ownerRow, earlier there⟩) other row different (earlier present') claims
        · intro entry inside owner owned
          rw [rows]
          exact separate.owners entry (mem_of_removeFound inside) owner owned
  · cases stepped

theorem step_separate {s t : State} {event : Event} (separate : Separate s) (allowed : NamesKeptApart s event)
    (stepped : step s event = some t) : Separate t := by
  cases event with
  | create calls request => exact create_separate separate allowed stepped
  | provision gatewayId jobId joining calls => exact provision_separate separate allowed stepped
  | rename gatewayId displayName calls => exact rename_separate separate allowed stepped
  | delete gatewayId jobId listing calls => exact delete_separate separate stepped

/-- While names are kept apart, no deletion and no rename acts on another live gateway's node. -/
theorem lookups_safe_while_names_apart {start s : State} (initial : Initial start)
    (reached : Lib.Reaches step NamesKeptApart start s) : Safe s :=
  safe_of_separate (reached.invariant (separate_initial initial)
    fun _ _ _ separate allowed stepped => step_separate separate allowed stepped)

/-- One automatic gateway, provisioned under its own name, is a run whose steps meet the condition. -/
theorem first_gateway_safe :
    ∃ s, Lib.Reaches step NamesKeptApart emptyDeployment s ∧ Live s 1 ∧ Safe s := by
  have ran : (step emptyDeployment createAutomatic).any (fun s =>
      decide (s.db.gateways.toList.map Prod.fst = [1]) &&
      (step s (provisionHealthy 1 (some (plainNode 1 "gw-000" "100.64.0.1")) [plainNode 1 "gw-000" "100.64.0.1"])).any
        fun t => (t.db.gateways.get 1).isSome) = true := by
    decide +kernel
  obtain ⟨s, created, facts⟩ := Lib.exists_of_any ran
  simp only [Bool.and_eq_true, decide_eq_true_eq] at facts
  obtain ⟨only, later⟩ := facts
  obtain ⟨t, provisioned, live⟩ := Lib.exists_of_any later
  have first : NamesKeptApart emptyDeployment createAutomatic := by
    intro name _ entry inside
    cases inside
  have second : NamesKeptApart s
      (provisionHealthy 1 (some (plainNode 1 "gw-000" "100.64.0.1")) [plainNode 1 "gw-000" "100.64.0.1"]) := by
    intro node _ other row different present
    have listed := List.mem_map_of_mem (f := Prod.fst) (Lib.Table.mem_toList.mpr present)
    rw [only] at listed
    exact absurd (List.mem_singleton.mp listed) different
  have reached := Lib.Reaches.tail (Lib.Reaches.tail .refl first created) second provisioned
  exact ⟨t, reached, live, lookups_safe_while_names_apart emptyDeployment_initial reached⟩

/-! ### A reused name -/

/-- The first gateway is renamed to `paris`, the second takes the freed node name `gw-000`. -/
def nameReuse : List Event := [
  createAutomatic,
  provisionHealthy 1 (some (plainNode 1 "gw-000" "100.64.0.1")) [plainNode 1 "gw-000" "100.64.0.1"],
  renameListed 1 "paris" [plainNode 1 "gw-000" "100.64.0.1"],
  createAutomatic,
  provisionHealthy 2 (some (plainNode 2 "gw-001" "100.64.0.2"))
    [plainNode 2 "gw-001" "100.64.0.2", plainNode 1 "paris" "100.64.0.1"],
  renameListed 2 "gw-000" [plainNode 1 "paris" "100.64.0.1", plainNode 2 "gw-001" "100.64.0.2"]]

/-- Deleting the first gateway with the second one's node listed first removes the second one's node. -/
theorem deletion_hits_other_gateway :
    ∃ s, Lib.Reaches step (fun _ _ => True) emptyDeployment s ∧ ¬ Safe s := by
  have ran : (Lib.run step (fun _ _ => true) emptyDeployment nameReuse).any (fun s =>
      decide (s.registry.nodes =
        [⟨plainNode 2 "gw-000" "100.64.0.2", some 2⟩, ⟨plainNode 1 "paris" "100.64.0.1", some 1⟩]) &&
      (s.db.gateways.get 2).isSome &&
      ((s.db.gateways.get 1).map fun row =>
        headscaleNodeToDelete [plainNode 2 "gw-000" "100.64.0.2", plainNode 1 "paris" "100.64.0.1"] row) =
          some (some 2)) = true := by
    decide +kernel
  obtain ⟨s, reached, facts⟩ := Lib.exists_of_any ran
  simp only [Bool.and_eq_true, decide_eq_true_eq] at facts
  obtain ⟨⟨nodes, live⟩, deleted⟩ := facts
  obtain ⟨row, present, found⟩ := Option.map_eq_some_iff.mp deleted
  refine ⟨s, Lib.reaches_of_run (fun _ _ _ => trivial) reached, fun safe => ?_⟩
  refine safe 1 row present _ 2 ?_ (.inl found) ⟨plainNode 2 "gw-000" "100.64.0.2", some 2⟩ ?_ rfl 2 rfl (by decide) live
  · rw [Registry.Lists, nodes]
    exact .refl _
  · rw [nodes]
    exact List.mem_cons_self

end DeepOrc.Headscale
