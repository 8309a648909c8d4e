import DeepOrc.Agent.SuspendChain
import DeepOrc.Agent.WgDump
import DeepOrc.Lib.Nftables
import DeepOrc.Naming

/-!
# The packet filter of a gateway

`_apply_nft` of the routing script and what both gateway agents do with `nft`, command by command. The tables of the exit
forwarding are made anew each time; in the chains of fw4 and of Tailscale the rules that a search for a comment or for
`masquerade` finds are deleted, in the chain of the suspended peers those that a search for an address finds.
-/

namespace DeepOrc.Routing.Firewall

open Agent (contains)
open Lib (Process Pool)
open Lib.Fields (Text)
open Lib.Nftables

def gwNat : Place := ⟨"ip gw_nat", "postrouting"⟩

def deeporcExit : Place := ⟨"ip deeporc_exit", "forward"⟩

def deeporcMangle : Place := ⟨"ip deeporc_mangle", "forward"⟩

def tsPostrouting : Place := ⟨"ip nat", "ts-postrouting"⟩

def fw4Forward : Place := ⟨"inet fw4", "forward"⟩

def fw4InputWan : Place := ⟨"inet fw4", "input_wan"⟩

/-- `NFT_SUSPEND_TABLE` where the environment does not have it. -/
def wgSuspend : Place := ⟨"inet wg_suspend", "forward"⟩

/-- The tables of earlier versions. -/
def staleTables : List String := ["ip gw_mangle", "ip gw_preroute"]

/-! ### Rules as they are printed -/

def masqueradeWg0 : Text := "ip saddr 100.64.0.0/10 oifname \"wg0\" masquerade".toList

def masqueradeDns (proto : String) : Text :=
  ("ip saddr 100.64.0.0/10 oifname \"eth0\" " ++ proto ++ " dport 53 masquerade").toList

def natRules : List Text := [masqueradeWg0, masqueradeDns "udp", masqueradeDns "tcp"]

def exitRules : List Text :=
  ["iifname \"tailscale0\" oifname \"wg0\" accept".toList, "iifname \"wg0\" oifname \"tailscale0\" accept".toList]

def mangleRules : List Text :=
  ["iifname \"tailscale0\" oifname \"wg0\" tcp flags syn tcp option maxseg size set rt mtu".toList,
    "iifname \"wg0\" oifname \"tailscale0\" tcp flags syn tcp option maxseg size set rt mtu".toList]

/-- The lines above the rules of a new chain. -/
def head (place : Place) (hook : String) : List Text :=
  ["table " ++ place.table ++ " \x7b", "\tchain " ++ place.chain ++ " \x7b", "\t\t" ++ hook].map String.toList

def natHead : List Text := head gwNat "type nat hook postrouting priority srcnat; policy accept;"

def exitHead : List Text := head deeporcExit "type filter hook forward priority filter; policy accept;"

def mangleHead : List Text := head deeporcMangle "type filter hook forward priority mangle; policy accept;"

def suspendHead : List Text := head wgSuspend "type filter hook forward priority filter; policy accept;"

def dropRule (ip : Text) : Text := "ip daddr ".toList ++ ip ++ " drop".toList

/-! ### `deeporc-routing.sh` -/

/-- What awk splits a line at. -/
def awkBlank (c : Char) : Bool := c = ' ' || c = '\t'

/-- `nft -f /etc/nftables.d/gateway.nft`, in one transaction. -/
def loadGatewayNft (s : Ruleset) : Ruleset :=
  [(gwNat, natHead, natRules), (deeporcExit, exitHead, exitRules), (deeporcMangle, mangleHead, mangleRules)].foldl
    (fun s entry => entry.2.2.foldl (fun s text => s.addRule entry.1 text)
      ((s.addTable entry.1.table).addChain entry.1 entry.2.1)) s

def nftLoad : Process Ruleset Bool := .command (fun _ => true) loadGatewayNft

/-- `_fw4_del_by_comment` -/
def fw4DelByComment (rounds : Nat) (place : Place) (comment : String) : Process Ruleset Bool :=
  deleteFound awkBlank rounds place fun line => contains line comment.toList

/-- A rule with its comment, as it is printed. -/
def commented (rule comment : String) : Text := (rule ++ " comment \"" ++ comment ++ "\"").toList

/-- `_fw4_insert` -/
def fw4Insert (strict : Bool) (rounds : Nat) (place : Place) (comment rule : String) : Process Ruleset Bool :=
  .inOrder strict [fw4DelByComment rounds place comment, insertRule place (commented rule comment)]

/-- The comments in the forward chain of fw4, each with its rule. -/
def forwardRules : List (String × String) :=
  [("deeporc-exit-fwd", "iifname \"tailscale0\" oifname \"wg0\" accept"),
    ("deeporc-wg-fwd", "iifname \"wg0\" oifname \"tailscale0\" accept"),
    ("deeporc-ts-fwd", "iifname \"tailscale0\" accept")]

def wgComment : String := "deeporc-wg"

def wgRule (port : Nat) : String := "meta nfproto ipv4 udp dport " ++ toString port ++ " accept"

/-- `if nft list chain …; then` -/
def ifListed (place : Place) (then_ : Process Ruleset Bool) : Process Ruleset Bool :=
  (Process.read fun s => (s.chain place).isSome).bind fun there => if there then then_ else .done true

/-- The tables of its own, without a file to load them from. -/
def ownTables : List (Process Ruleset Bool) :=
  [addTable gwNat.table, addChain gwNat natHead] ++ natRules.map (addRule gwNat) ++
    [addTable deeporcExit.table, addChain deeporcExit exitHead] ++ exitRules.map (addRule deeporcExit)

def masqueraded (line : Text) : Bool := contains line "masquerade".toList

/-- `_apply_nft`; `file` is whether `gateway.nft` is there, `wgPort` what `wg0.conf` has for `ListenPort`. -/
def applyNft (rounds : Nat) (strict file : Bool) (wgPort : Option Nat) : Process Ruleset Bool :=
  .inOrder strict (
    [deleteFound awkBlank rounds tsPostrouting masqueraded, (deleteTable gwNat.table).anyway,
      (deleteTable deeporcExit.table).anyway, (deleteTable deeporcMangle.table).anyway] ++
    (if file then [nftLoad] else ownTables) ++
    [ifListed fw4Forward
        (.inOrder strict (forwardRules.map fun rule => fw4Insert strict rounds fw4Forward rule.1 rule.2)),
      ifListed fw4InputWan (wgPort.elim (.done true) fun port =>
        fw4Insert strict rounds fw4InputWan wgComment (wgRule port))])

/-! ### The gateway agents -/

/-- Which lines resuming an address picks. -/
def dropped (ip line : Text) : Bool := contains line ip && contains line "drop".toList

namespace Go

/-- Whether `strconv.Atoi` takes it. -/
def atoi (word : Text) : Bool :=
  let (negative, digits) := Lib.Fields.splitSign word
  numeric digits && decide (Nat.ofDigitChars 10 digits 0 < if negative then 2 ^ 63 + 1 else 2 ^ 63)

/-- `stripTailscalePostroutingMasquerade` -/
def stripTailscalePostroutingMasquerade : Process Ruleset Bool :=
  deleteMatching Agent.WgDump.Go.isSpace atoi tsPostrouting masqueraded

/-- `ensureExitViaWgBackhaul` -/
def ensureExitViaWgBackhaul (file : Bool) : Process Ruleset Bool :=
  .inOrder false (
    [stripTailscalePostroutingMasquerade, deleteTable gwNat.table, deleteTable deeporcExit.table] ++
    if file then [nftLoad]
    else [addTable gwNat.table, addChain gwNat natHead, addRule gwNat masqueradeWg0, addTable deeporcExit.table,
      addChain deeporcExit exitHead] ++ exitRules.map (addRule deeporcExit))

/-- `restoreExitNodeRouting` -/
def restoreExitNodeRouting (configured file : Bool) : Process Ruleset Bool :=
  .inOrder false (staleTables.map deleteTable ++ if configured then [ensureExitViaWgBackhaul file] else [])

/-- `ensureSuspendTable` -/
def ensureSuspendTable : Process Ruleset Bool :=
  .inOrder true [(addTable wgSuspend.table).anyway, addChain wgSuspend suspendHead]

/-- `suspendPeerIP` -/
def suspendPeerIP (ip : Text) : Process Ruleset Bool :=
  .inOrder true [ensureSuspendTable, addRule wgSuspend (dropRule ip)]

/-- `resumePeerIP`, which looks at no handle before it is used. -/
def resumePeerIP (ip : Text) : Process Ruleset Bool :=
  deleteMatching Agent.WgDump.Go.isSpace (fun _ => true) wgSuspend (dropped ip)

end Go

namespace Python

/-- `_strip_tailscale_postrouting_masquerade` -/
def stripTailscalePostroutingMasquerade : Process Ruleset Bool :=
  deleteMatching Naming.isSpace (fun word => word ≠ [] && word.all Naming.isDecimal) tsPostrouting masqueraded

def mentionsDns (s : Ruleset) : Bool :=
  (s.rules gwNat).any fun rule => contains rule.text "oifname \"eth0\" udp dport 53".toList

/-- `_ensure_eth0_dns_snat` -/
def ensureEth0DnsSnat : Process Ruleset Bool :=
  (Process.read mentionsDns).bind fun found =>
    if found then .done true
    else .inOrder true [(addTable gwNat.table).anyway,
      (Process.read fun s => (s.chain gwNat).isSome).bind fun there =>
        if there then .done true else (addChain gwNat natHead).anyway,
      (addRule gwNat (masqueradeDns "udp")).anyway, (addRule gwNat (masqueradeDns "tcp")).anyway]

/-- `_ensure_exit_via_wg_backhaul` -/
def ensureExitViaWgBackhaul (file : Bool) : Process Ruleset Bool :=
  .inOrder true (
    [stripTailscalePostroutingMasquerade, (deleteTable gwNat.table).anyway, (deleteTable deeporcExit.table).anyway] ++
    if file then [nftLoad, ensureEth0DnsSnat]
    else [(addTable gwNat.table).anyway, (addChain gwNat natHead).anyway] ++
      natRules.map (fun text => (addRule gwNat text).anyway) ++
      [(addTable deeporcExit.table).anyway, (addChain deeporcExit exitHead).anyway,
        (Process.read fun s => (s.listing deeporcExit).any fun line => contains line "tailscale0".toList).bind fun found =>
          if found then .done true
          else .inOrder true (exitRules.map fun text => (addRule deeporcExit text).anyway)])

/-- `_cleanup_stale_exit_hacks` -/
def cleanupStaleExitHacks : Process Ruleset Bool := .inOrder true (staleTables.map fun table => (deleteTable table).anyway)

/-- `ensure_suspend_table` -/
def ensureSuspendTable : Process Ruleset Bool := .inOrder true [addTable wgSuspend.table, addChain wgSuspend suspendHead]

/-- `suspend_peer_ip` -/
def suspendPeerIp (ip : Text) : Process Ruleset Bool :=
  .inOrder true [ensureSuspendTable, (addRule wgSuspend (dropRule ip)).anyway]

/-- `resume_peer_ip`; the first deletion that fails is the last. -/
def resumePeerIp (ip : Text) : Process Ruleset Bool :=
  (Process.read fun s => ((s.listing wgSuspend).filter (dropped ip)).map (lastField Naming.isSpace)).bind fun handles =>
    .inOrder true (handles.map (deleteRule wgSuspend))

end Python

/-! ### Whose rules are whose -/

/-- The chains with rules of others, too. -/
def shared (place : Place) : Prop := place ∈ [tsPostrouting, fw4Forward, fw4InputWan]

def owned (place : Place) (line : Text) : Bool :=
  if place.table ∈ [gwNat.table, deeporcExit.table, deeporcMangle.table] then true
  else if place = tsPostrouting then masqueraded line
  else if place = fw4Forward then forwardRules.any fun rule => contains line rule.1.toList
  else if place = fw4InputWan then contains line wgComment.toList
  else false

/-- The rules that may be deleted at any time: the chain of the suspended peers and the tables of earlier versions are
nobody else's. -/
def claimed (place : Place) (line : Text) : Bool := decide (place.table ∈ wgSuspend.table :: staleTables) || owned place line

/-- What changes the packet filter at any time. -/
inductive Program : Process Ruleset Bool → Prop
  | script (rounds : Nat) (strict file : Bool) (wgPort : Option Nat) : Program (applyNft rounds strict file wgPort)
  | goStrip : Program Go.stripTailscalePostroutingMasquerade
  | goExit (file : Bool) : Program (Go.ensureExitViaWgBackhaul file)
  | goRestore (configured file : Bool) : Program (Go.restoreExitNodeRouting configured file)
  | goSuspend (ip : Text) : Program (Go.suspendPeerIP ip)
  | goResume (ip : Text) : Program (Go.resumePeerIP ip)
  | strip : Program Python.stripTailscalePostroutingMasquerade
  | exit (file : Bool) : Program (Python.ensureExitViaWgBackhaul file)
  | cleanup : Program Python.cleanupStaleExitHacks
  | suspend (ip : Text) : Program (Python.suspendPeerIp ip)
  | resume (ip : Text) : Program (Python.resumePeerIp ip)

/-! ### What each of them spares -/

theorem awk_solid (c : Char) (digit : c.isDigit = true) : awkBlank c = false := by
  rw [Bool.eq_false_iff]
  intro blank
  unfold awkBlank at blank
  rw [Bool.or_eq_true, decide_eq_true_eq, decide_eq_true_eq] at blank
  rcases blank with rfl | rfl
  · exact absurd digit (by decide)
  · exact absurd digit (by decide)

theorem own_table {place : Place} (own : place.table ∈ [gwNat.table, deeporcExit.table, deeporcMangle.table]) (line : Text) :
    owned place line = true :=
  if_pos own

theorem sparing_deleteTable {table : String} (own : table ∈ [gwNat.table, deeporcExit.table, deeporcMangle.table]) :
    Sparing owned shared (deleteTable table) := by
  refine sparing_command fun s _ => changed_deleteTable s (fun place used same => ?_) fun place same => own_table (same ▸ own)
  have other : ∀ place ∈ [tsPostrouting, fw4Forward, fw4InputWan],
      place.table ∉ [gwNat.table, deeporcExit.table, deeporcMangle.table] := by decide
  exact other place used (same ▸ own)

theorem not_shared {place : Place} (own : place.table ∈ [gwNat.table, deeporcExit.table, deeporcMangle.table]) :
    ¬shared place := by
  have other : ∀ place ∈ [tsPostrouting, fw4Forward, fw4InputWan],
      place.table ∉ [gwNat.table, deeporcExit.table, deeporcMangle.table] := by decide
  exact fun used => other place used own

theorem sparing_addTable (table : String) : Sparing owned shared (addTable table) :=
  sparing_command fun s _ => changed_addTable s table

theorem sparing_addChain {place : Place} {head : List Text}
    (own : place.table ∈ [gwNat.table, deeporcExit.table, deeporcMangle.table]) :
    Sparing owned shared (addChain place head) :=
  sparing_command fun _ => changed_addChain (not_shared own)

theorem sparing_addRule {place : Place} {text : Text}
    (own : place.table ∈ [gwNat.table, deeporcExit.table, deeporcMangle.table]) :
    Sparing owned shared (addRule place text) :=
  sparing_command fun s _ => changed_addRule s fun _ => own_table own _

theorem sparing_nftLoad : Sparing owned shared nftLoad := by
  have rules : ∀ (place : Place) (texts : List Text) (s : Ruleset),
      place.table ∈ [gwNat.table, deeporcExit.table, deeporcMangle.table] →
        Changed owned shared s (texts.foldl (fun s text => s.addRule place text) s) := by
    intro place texts s own
    induction texts generalizing s with
    | nil => exact .refl s
    | cons text texts ih => exact (changed_addRule s fun _ => own_table own _).trans (ih _)
  have entry : ∀ (place : Place) (head texts : List Text) (s : Ruleset),
      place.table ∈ [gwNat.table, deeporcExit.table, deeporcMangle.table] →
        Changed owned shared s (texts.foldl (fun s text => s.addRule place text) ((s.addTable place.table).addChain place head)) := by
    intro place head texts s own
    have there : ((s.addTable place.table).next place.table).isSome = true := by
      unfold Ruleset.addTable
      dsimp only
      rw [Function.update_self, Option.isSome_or]
      exact Bool.or_true _
    exact ((changed_addTable s place.table).trans (changed_addChain (not_shared own) there)).trans (rules place texts _ own)
  apply sparing_command
  intro s _
  exact ((entry gwNat natHead natRules s (by decide)).trans (entry deeporcExit exitHead exitRules _ (by decide))).trans
    (entry deeporcMangle mangleHead mangleRules _ (by decide))

theorem owned_tsPostrouting {line : Text} (found : masqueraded line = true) : owned tsPostrouting line = true := found

theorem owned_forward {line : Text} {comment rule : String} (listed : (comment, rule) ∈ forwardRules)
    (found : contains line comment.toList = true) : owned fw4Forward line = true :=
  List.any_eq_true.mpr ⟨_, listed, found⟩

theorem owned_inputWan {line : Text} (found : contains line wgComment.toList = true) : owned fw4InputWan line = true := found

/-- A rule is found by its comment. -/
theorem contains_commented (rule comment : String) (handle : Nat) :
    contains (Rule.line ⟨handle, commented rule comment⟩) comment.toList = true := by
  refine Agent.contains_iff.mpr ⟨"\t\t".toList ++ (rule ++ " comment \"").toList,
    "\"".toList ++ " # handle".toList ++ ' ' :: Lib.Fields.decimal handle, ?_⟩
  simp [Rule.line, commented]

theorem sparing_insertRule {place : Place} {comment rule : String}
    (own : ∀ line, contains line comment.toList = true → owned place line = true) :
    Sparing owned shared (insertRule place (commented rule comment)) :=
  sparing_command fun s _ => changed_insertRule s fun handle => own _ (contains_commented rule comment handle)

theorem sparing_fw4Insert {strict : Bool} {rounds : Nat} {place : Place} {comment rule : String} (used : shared place)
    (own : ∀ line, contains line comment.toList = true → owned place line = true) :
    Sparing owned shared (fw4Insert strict rounds place comment rule) := by
  have deletes : Sparing owned shared (fw4DelByComment rounds place comment) :=
    sparing_deleteFound awk_solid rfl rounds used own
  exact sparing_pair deletes (sparing_insertRule own)

theorem sparing_ifListed {place : Place} {process : Process Ruleset Bool} (sparing : Sparing owned shared process) :
    Sparing owned shared (ifListed place process) := by
  apply sparing_read
  intro there
  split
  · exact sparing
  · exact sparing_done true

theorem sparing_ownTables : ∀ process ∈ ownTables, Sparing owned shared process := by
  have nat : gwNat.table ∈ [gwNat.table, deeporcExit.table, deeporcMangle.table] := by decide
  have exit : deeporcExit.table ∈ [gwNat.table, deeporcExit.table, deeporcMangle.table] := by decide
  intro process member
  simp only [ownTables, List.mem_append, List.mem_cons, List.mem_map, List.not_mem_nil, or_false] at member
  rcases member with ((((rfl | rfl) | ⟨text, -, rfl⟩) | rfl | rfl) | ⟨text, -, rfl⟩)
  · exact sparing_addTable _
  · exact sparing_addChain nat
  · exact sparing_addRule nat
  · exact sparing_addTable _
  · exact sparing_addChain exit
  · exact sparing_addRule exit

theorem sparing_applyNft (rounds : Nat) (strict file : Bool) (wgPort : Option Nat) :
    Sparing owned shared (applyNft rounds strict file wgPort) := by
  have ts : shared tsPostrouting := by unfold shared; decide
  have forward : shared fw4Forward := by unfold shared; decide
  have input : shared fw4InputWan := by unfold shared; decide
  apply sparing_inOrder
  intro process member
  rcases List.mem_append.mp member with member | member
  · rcases List.mem_append.mp member with member | member
    · simp only [List.mem_cons, List.not_mem_nil, or_false] at member
      rcases member with rfl | rfl | rfl | rfl
      · exact sparing_deleteFound awk_solid rfl rounds ts fun _ => owned_tsPostrouting
      · exact (sparing_deleteTable (by decide)).anyway
      · exact (sparing_deleteTable (by decide)).anyway
      · exact (sparing_deleteTable (by decide)).anyway
    · cases file with
      | true =>
          obtain rfl := List.mem_singleton.mp member
          exact sparing_nftLoad
      | false => exact sparing_ownTables process member
  · simp only [List.mem_cons, List.not_mem_nil, or_false] at member
    rcases member with rfl | rfl
    · refine sparing_ifListed (sparing_inOrder fun process member => ?_)
      obtain ⟨rule, listed, rfl⟩ := List.mem_map.mp member
      exact sparing_fw4Insert forward fun _ => owned_forward listed
    · apply sparing_ifListed
      cases wgPort with
      | none => exact sparing_done true
      | some port => exact sparing_fw4Insert input fun _ => owned_inputWan

theorem Go.sparing_strip : Sparing owned shared Go.stripTailscalePostroutingMasquerade :=
  sparing_deleteMatching (fun _ digit => Agent.WgDump.goSpace_of_solid (Naming.isSpace_of_isDigit digit)) rfl _ (by unfold shared; decide) fun _ => owned_tsPostrouting

theorem Python.sparing_strip : Sparing owned shared Python.stripTailscalePostroutingMasquerade :=
  sparing_deleteMatching (fun _ => Naming.isSpace_of_isDigit) rfl _ (by unfold shared; decide) fun _ => owned_tsPostrouting

theorem Go.sparing_exit (file : Bool) : Sparing owned shared (Go.ensureExitViaWgBackhaul file) := by
  apply sparing_inOrder
  intro process member
  rcases List.mem_append.mp member with member | member
  · simp only [List.mem_cons, List.not_mem_nil, or_false] at member
    rcases member with rfl | rfl | rfl
    · exact Go.sparing_strip
    · exact sparing_deleteTable (by decide)
    · exact sparing_deleteTable (by decide)
  · cases file with
    | true =>
        obtain rfl := List.mem_singleton.mp member
        exact sparing_nftLoad
    | false =>
        rw [if_neg (by decide)] at member
        simp only [List.mem_append, List.mem_cons, List.mem_map, List.not_mem_nil, or_false] at member
        rcases member with (rfl | rfl | rfl | rfl | rfl) | ⟨text, -, rfl⟩
        · exact sparing_addTable _
        · exact sparing_addChain (by decide)
        · exact sparing_addRule (by decide)
        · exact sparing_addTable _
        · exact sparing_addChain (by decide)
        · exact sparing_addRule (by decide)

theorem Python.sparing_dnsSnat : Sparing owned shared Python.ensureEth0DnsSnat := by
  apply sparing_read
  intro found
  split
  · exact sparing_done true
  · apply sparing_inOrder
    intro process member
    simp only [List.mem_cons, List.not_mem_nil, or_false] at member
    rcases member with rfl | rfl | rfl | rfl
    · exact (sparing_addTable _).anyway
    · apply sparing_read
      intro there
      split
      · exact sparing_done true
      · exact (sparing_addChain (by decide)).anyway
    · exact (sparing_addRule (by decide)).anyway
    · exact (sparing_addRule (by decide)).anyway

theorem Python.sparing_exit (file : Bool) : Sparing owned shared (Python.ensureExitViaWgBackhaul file) := by
  apply sparing_inOrder
  intro process member
  rcases List.mem_append.mp member with member | member
  · simp only [List.mem_cons, List.not_mem_nil, or_false] at member
    rcases member with rfl | rfl | rfl
    · exact Python.sparing_strip
    · exact (sparing_deleteTable (by decide)).anyway
    · exact (sparing_deleteTable (by decide)).anyway
  · cases file with
    | true =>
        rw [if_pos rfl] at member
        simp only [List.mem_cons, List.not_mem_nil, or_false] at member
        rcases member with rfl | rfl
        · exact sparing_nftLoad
        · exact Python.sparing_dnsSnat
    | false =>
        rw [if_neg (by decide)] at member
        simp only [List.mem_append, List.mem_cons, List.mem_map, List.not_mem_nil, or_false] at member
        rcases member with ((rfl | rfl) | ⟨text, -, rfl⟩) | rfl | rfl | rfl
        · exact (sparing_addTable _).anyway
        · exact (sparing_addChain (by decide)).anyway
        · exact (sparing_addRule (by decide)).anyway
        · exact (sparing_addTable _).anyway
        · exact (sparing_addChain (by decide)).anyway
        · apply sparing_read
          intro found
          split
          · exact sparing_done true
          · apply sparing_inOrder
            intro process member
            obtain ⟨text, -, rfl⟩ := List.mem_map.mp member
            exact (sparing_addRule (by decide)).anyway

/-! ### Suspended peers and the tables of earlier versions -/

theorem claimed_table {place : Place} (own : place.table ∈ wgSuspend.table :: staleTables) (line : Text) :
    claimed place line = true := by
  unfold claimed
  rw [decide_eq_true own, Bool.true_or]

theorem claimed_suspend : ∀ line, claimed wgSuspend line = true := claimed_table (by decide)

theorem claimed_of_owned (place : Place) (line : Text) (own : owned place line = true) : claimed place line = true := by
  unfold claimed
  rw [own, Bool.or_true]

theorem not_shared_claimed {place : Place} (own : place.table ∈ wgSuspend.table :: staleTables) : ¬shared place := by
  have other : ∀ place ∈ [tsPostrouting, fw4Forward, fw4InputWan], place.table ∉ wgSuspend.table :: staleTables := by decide
  exact fun used => other place used own

/-- In the chains of others nothing more is claimed. -/
theorem claimed_shared {place : Place} (used : shared place) (line : Text) : claimed place line = owned place line := by
  unfold claimed
  rw [decide_eq_false fun own => not_shared_claimed own used, Bool.false_or]

theorem claims {process : Process Ruleset Bool} (sparing : Sparing owned shared process) : Sparing claimed shared process :=
  sparing.mono claimed_of_owned fun _ => claimed_shared

theorem sparing_staleTable {table : String} (stale : table ∈ staleTables) : Sparing claimed shared (deleteTable table) := by
  have own : ∀ place : Place, place.table = table → place.table ∈ wgSuspend.table :: staleTables := by
    rintro place rfl
    exact List.mem_cons_of_mem _ stale
  refine sparing_command fun s _ => changed_deleteTable s (fun place used same => ?_) fun place same => claimed_table (own place same)
  exact not_shared_claimed (own place same) used

theorem sparing_suspendChain : Sparing claimed shared (addChain wgSuspend suspendHead) :=
  sparing_command fun _ => changed_addChain (not_shared_claimed (by decide))

theorem sparing_dropRule (ip : Text) : Sparing claimed shared (addRule wgSuspend (dropRule ip)) :=
  sparing_command fun s _ => changed_addRule s fun _ => claimed_suspend _

theorem Go.sparing_restore (configured file : Bool) : Sparing claimed shared (Go.restoreExitNodeRouting configured file) := by
  apply sparing_inOrder
  intro process member
  rcases List.mem_append.mp member with member | member
  · obtain ⟨table, stale, rfl⟩ := List.mem_map.mp member
    exact sparing_staleTable stale
  · cases configured with
    | true =>
        obtain rfl := List.mem_singleton.mp member
        exact claims (Go.sparing_exit file)
    | false => cases member

theorem Go.sparing_suspend (ip : Text) : Sparing claimed shared (Go.suspendPeerIP ip) := by
  have table : Sparing claimed shared Go.ensureSuspendTable :=
    sparing_pair (claims (sparing_addTable _)).anyway sparing_suspendChain
  exact sparing_pair table (sparing_dropRule ip)

theorem Go.sparing_resume (ip : Text) : Sparing claimed shared (Go.resumePeerIP ip) := by
  refine sparing_read fun handles => sparing_inOrder fun process member => ?_
  obtain ⟨handle, -, rfl⟩ := List.mem_map.mp member
  exact (sparing_deleteRule claimed_suspend).anyway

theorem Python.sparing_cleanup : Sparing claimed shared Python.cleanupStaleExitHacks := by
  apply sparing_inOrder
  intro process member
  obtain ⟨table, stale, rfl⟩ := List.mem_map.mp member
  exact (sparing_staleTable stale).anyway

theorem Python.sparing_suspend (ip : Text) : Sparing claimed shared (Python.suspendPeerIp ip) := by
  have table : Sparing claimed shared Python.ensureSuspendTable :=
    sparing_pair (claims (sparing_addTable _)) sparing_suspendChain
  exact sparing_pair table (sparing_dropRule ip).anyway

theorem Python.sparing_resume (ip : Text) : Sparing claimed shared (Python.resumePeerIp ip) := by
  refine sparing_read fun handles => sparing_inOrder fun process member => ?_
  obtain ⟨handle, -, rfl⟩ := List.mem_map.mp member
  exact sparing_deleteRule claimed_suspend

theorem Program.sparing {process : Process Ruleset Bool} (program : Program process) : Sparing claimed shared process := by
  cases program with
  | script rounds strict file wgPort => exact claims (sparing_applyNft rounds strict file wgPort)
  | goStrip => exact claims Go.sparing_strip
  | goExit file => exact claims (Go.sparing_exit file)
  | goRestore configured file => exact Go.sparing_restore configured file
  | goSuspend ip => exact Go.sparing_suspend ip
  | goResume ip => exact Go.sparing_resume ip
  | strip => exact claims Python.sparing_strip
  | exit file => exact claims (Python.sparing_exit file)
  | cleanup => exact Python.sparing_cleanup
  | suspend ip => exact Python.sparing_suspend ip
  | resume ip => exact Python.sparing_resume ip

/-! ### A packet filter after two runs at a time -/

/-- A rule that is not of the script. -/
def established : Rule := ⟨4, "ct state established,related accept comment \"!fw4: Allow forwarded\"".toList⟩

/-- Rules of the script, one of them twice. -/
def crowded : Ruleset where
  next := fun table => if table = "inet fw4" then some 13 else none
  chain := fun place =>
    if place = fw4Forward then
      some ⟨head fw4Forward "type filter hook forward priority filter; policy drop;",
        [⟨9, commented "iifname \"wg0\" oifname \"tailscale0\" accept" "deeporc-wg-fwd"⟩, established,
          ⟨12, commented "iifname \"wg0\" oifname \"tailscale0\" accept" "deeporc-wg-fwd"⟩]⟩
    else none

theorem crowded_chains {place : Place} (other : place ≠ fw4Forward) : crowded.chain place = none := if_neg other

theorem crowded_orderly : Orderly owned shared crowded where
  tables := by
    intro place there
    by_cases forward : place = fw4Forward
    · exact ⟨13, forward ▸ rfl⟩
    · exact absurd (crowded_chains forward) there
  used := by
    intro place _ rule member
    by_cases forward : place = fw4Forward
    · subst forward
      refine ⟨13, rfl, ?_⟩
      have small : ∀ rule ∈ crowded.rules fw4Forward, rule.handle < 13 := by decide
      exact small rule member
    · rw [crowded.rules_eq_nil (crowded_chains forward)] at member
      cases member
  apart := by
    intro place _
    by_cases forward : place = fw4Forward
    · subst forward
      decide
    · rw [crowded.rules_eq_nil (crowded_chains forward)]
      exact List.nodup_nil
  frame := by
    intro place _ chain there
    by_cases forward : place = fw4Forward
    · subst forward
      cases there
      have silent : ∀ line ∈ head fw4Forward "type filter hook forward priority filter; policy drop;" ++
          ["\t\x7d".toList, "\x7d".toList], owned fw4Forward line = false := List.all_iff_forall_prop.mp (by decide +kernel)
      exact silent
    · rw [crowded_chains forward] at there
      cases there

/-! ### The rules of others -/

/-- Whatever order their commands come in, the script and the agents delete no rule of anybody else: a handle that was read
in a chain of others before that chain changed never is that of a rule without the comment that was searched. -/
theorem foreign_rules_survive {s : Ruleset} {pool : Pool Ruleset Bool} {place : Place} {rules : List Rule}
    (orderly : Orderly claimed shared s) (foreign : ∀ rule ∈ rules, claimed place rule.line = false)
    (there : rules.Sublist (s.rules place))
    (reached : Pool.Reaches Program (Outside claimed shared place rules) ⟨s, []⟩ pool) :
    rules.Sublist (pool.shared.rules place) :=
  kept_of_reaches (fun _ => Program.sparing) foreign orderly there reached

theorem established_survives : [established].Sublist (((applyNft 3 true false none).run crowded).2.rules fw4Forward) := by
  have foreign : ∀ rule ∈ [established], claimed fw4Forward rule.line = false := List.all_iff_forall_prop.mp (by decide +kernel)
  have there : [established].Sublist (crowded.rules fw4Forward) := .cons _ (.cons_cons _ (List.nil_sublist _))
  have orderly : Orderly claimed shared crowded := crowded_orderly.congr fun _ => claimed_shared
  have survives : ∀ process, Program process → [established].Sublist ((process.run crowded).2.rules fw4Forward) :=
    fun process program => foreign_rules_survive orderly foreign there (Pool.reaches_run program crowded [])
  exact survives _ (.script 3 true false none)

/-! ### What the script makes of a packet filter -/

/-- The chains of its own. -/
def ownChains (file : Bool) (place : Place) : Option (List Text × List Text) :=
  if place = gwNat then some (natHead, natRules)
  else if place = deeporcExit then some (exitHead, exitRules)
  else if file && decide (place = deeporcMangle) then some (mangleHead, mangleRules)
  else none

/-- Its rules in a chain of others. -/
def inserted (wgPort : Option Nat) (place : Place) : List Text :=
  if place = fw4Forward then forwardRules.reverse.map fun rule => commented rule.2 rule.1
  else if place = fw4InputWan then wgPort.toList.map fun port => commented (wgRule port) wgComment
  else []

/-- The tables of its own are as they should be, its rules are once and first in the chains of others, and all else is as
it was. Without a port the rule for it is left as it is. -/
def settled (file : Bool) (wgPort : Option Nat) (c : Content) : Content where
  tables := fun table =>
    if table ∈ [gwNat.table, deeporcExit.table] then true else if table = deeporcMangle.table then file else c.tables table
  chains := fun place =>
    if place.table ∈ [gwNat.table, deeporcExit.table, deeporcMangle.table] then ownChains file place
    else if place = fw4InputWan ∧ wgPort = none then c.chains place
    else (c.chains place).map fun chain => (chain.1, inserted wgPort place ++ chain.2.filter fun text => !owned place text)

/-- A comment is found in a rule, not in its handle. -/
theorem contains_line {part : Text} (tab : '\t' ∉ part) (space : ' ' ∉ part) (hash : '#' ∉ part)
    (digits : ∃ c ∈ part, c.isDigit = false) (word : ¬part <:+: "handle".toList) (rule : Rule) :
    contains rule.line part = contains rule.text part :=
  decide_eq_decide.mpr (infix_line_iff tab space hash digits word rule)

theorem masqueraded_line (rule : Rule) : masqueraded rule.line = masqueraded rule.text :=
  contains_line (by decide) (by decide) (by decide) ⟨'m', by decide, by decide⟩ (by decide) rule

theorem contains_forward_line {comment rule : String} (listed : (comment, rule) ∈ forwardRules) (printed : Rule) :
    contains printed.line comment.toList = contains printed.text comment.toList := by
  simp only [forwardRules, List.mem_cons, List.not_mem_nil, or_false, Prod.mk.injEq] at listed
  rcases listed with ⟨rfl, -⟩ | ⟨rfl, -⟩ | ⟨rfl, -⟩
  · exact contains_line (by decide) (by decide) (by decide) ⟨'d', by decide, by decide⟩ (by decide) printed
  · exact contains_line (by decide) (by decide) (by decide) ⟨'d', by decide, by decide⟩ (by decide) printed
  · exact contains_line (by decide) (by decide) (by decide) ⟨'d', by decide, by decide⟩ (by decide) printed

theorem contains_wg_line (rule : Rule) : contains rule.line wgComment.toList = contains rule.text wgComment.toList :=
  contains_line (by decide) (by decide) (by decide) ⟨'d', by decide, by decide⟩ (by decide) rule

variable {c d : Content}

/-- A rule is in a chain once after it was inserted. -/
def insertOnce (rule : String × String) (texts : List Text) : List Text :=
  commented rule.2 rule.1 :: texts.filter fun text => !contains text rule.1.toList

theorem turns_fw4Insert {strict : Bool} {rounds : Nat} {place : Place} {rule : String × String} (used : shared place)
    (own : ∀ line, contains line rule.1.toList = true → owned place line = true)
    (printed : ∀ other : Rule, contains other.line rule.1.toList = contains other.text rule.1.toList)
    (there : (c.chains place).isSome = true)
    (enough : ∀ chain, c.chains place = some chain → (chain.2.filter fun text => contains text rule.1.toList).length ≤ rounds) :
    Turns owned shared (fw4Insert strict rounds place rule.1 rule.2) c (c.change place (insertOnce rule)) := by
  have inserts := turns_insertRule (@sparing_insertRule place rule.1 rule.2 own) ((c.isSome_change place fun texts =>
    texts.filter fun text => !contains text rule.1.toList).trans there)
  rw [c.change_change] at inserts
  exact turns_cons (turns_deleteFound awk_solid rfl used own printed enough) (turns_cons inserts (turns_done _))

theorem turns_ifListed {place : Place} {process : Process Ruleset Bool}
    (turns : (c.chains place).isSome = true → Turns owned shared process c d) (absent : c.chains place = none → d = c) :
    Turns owned shared (ifListed place process) c d := by
  intro s orderly same
  have there : (s.chain place).isSome = (c.chains place).isSome := isSome_chain same
  unfold ifListed
  rw [Process.run_bind, Process.run_read]
  dsimp only
  rw [there]
  split
  · rename_i listed
    exact turns listed s orderly same
  · rename_i listed
    have gone : c.chains place = none := by simpa using listed
    rw [absent gone]
    exact turns_done c s orderly same

/-- No more than so many rules of its own are in a chain of others. -/
def AtMost (rounds : Nat) (c : Content) : Prop :=
  ∀ place, shared place → ∀ chain, c.chains place = some chain → (chain.2.filter (owned place)).length ≤ rounds

theorem AtMost.picked {rounds : Nat} (few : AtMost rounds c) {place : Place} (used : shared place) {picks : Text → Bool}
    (own : ∀ text, picks text = true → owned place text = true) {chain : List Text × List Text}
    (there : c.chains place = some chain) : (chain.2.filter picks).length ≤ rounds :=
  Nat.le_trans (List.monotone_filter_right _ own).length_le (few place used chain there)

theorem change_of_none {place : Place} (gone : c.chains place = none) (edit : List Text → List Text) :
    c.change place edit = c := by
  unfold Content.change
  rw [gone, Option.map_none, Function.update_eq_self_iff.mpr gone.symm]

/-- A search for one comment finds no more after a rule with another was inserted. -/
theorem length_filter_inserted {rounds : Nat} {first : Text} {removes picks : Text → Bool} (other : picks first = false)
    {texts : List Text} (few : (texts.filter picks).length ≤ rounds) :
    ((first :: texts.filter fun text => !removes text).filter picks).length ≤ rounds := by
  rw [List.filter_cons_of_neg (by rw [other]; decide)]
  exact Nat.le_trans (List.filter_sublist.filter picks).length_le few

/-- What is in a chain after an edit. -/
theorem exists_of_change {place : Place} {edit : List Text → List Text} {chain : List Text × List Text}
    (there : (c.change place edit).chains place = some chain) :
    ∃ before, c.chains place = some before ∧ chain.2 = edit before.2 := by
  unfold Content.change at there
  dsimp only at there
  rw [Function.update_self] at there
  obtain ⟨before, known, rfl⟩ := Option.map_eq_some_iff.mp there
  exact ⟨before, known, rfl⟩

/-- One rule after the other, where no later comment is in an earlier rule. -/
theorem turns_forwardRules {strict : Bool} {rounds : Nat} {rules : List (String × String)}
    (listed : ∀ rule ∈ rules, rule ∈ forwardRules)
    (apart : rules.Pairwise fun earlier later => contains (commented earlier.2 earlier.1) later.1.toList = false)
    (there : (c.chains fw4Forward).isSome = true)
    (few : ∀ rule ∈ rules, ∀ chain, c.chains fw4Forward = some chain →
      (chain.2.filter fun text => contains text rule.1.toList).length ≤ rounds) :
    Turns owned shared (.inOrder strict (rules.map fun rule => fw4Insert strict rounds fw4Forward rule.1 rule.2)) c
      (c.change fw4Forward fun texts => rules.foldl (fun texts rule => insertOnce rule texts) texts) := by
  have used : shared fw4Forward := by unfold shared; decide
  induction rules generalizing c with
  | nil =>
      obtain ⟨chain, found⟩ := Option.isSome_iff_exists.mp there
      have same : (c.change fw4Forward fun texts => texts) = c := by
        unfold Content.change
        rw [found, Option.map_some, Function.update_eq_self_iff.mpr found.symm]
      simp only [List.map_nil, List.foldl_nil, same]
      exact turns_done c
  | cons rule rules ih =>
      have member := listed rule List.mem_cons_self
      have once : Turns owned shared (fw4Insert strict rounds fw4Forward rule.1 rule.2) c
          (c.change fw4Forward (insertOnce rule)) :=
        turns_fw4Insert used (fun _ => owned_forward member) (contains_forward_line member) there (few rule List.mem_cons_self)
      have rest := ih (fun later member => listed later (List.mem_cons_of_mem _ member)) (List.pairwise_cons.mp apart).2
        ((c.isSome_change fw4Forward (insertOnce rule)).trans there) fun later member chain found => by
          obtain ⟨before, known, same⟩ := exists_of_change found
          rw [same]
          exact @length_filter_inserted rounds _ _ (fun text => contains text later.1.toList)
            ((List.pairwise_cons.mp apart).1 later member) _ (few later (List.mem_cons_of_mem _ member) before known)
      rw [c.change_change] at rest
      exact turns_cons once rest

theorem forwardRules_apart :
    forwardRules.Pairwise fun earlier later => contains (commented earlier.2 earlier.1) later.1.toList = false := by
  decide +kernel

/-- In the end they are first, the last one inserted at the top, and no other rule has one of the comments. -/
theorem foldl_insertOnce (wgPort : Option Nat) (texts : List Text) :
    forwardRules.foldl (fun texts rule => insertOnce rule texts) texts =
      inserted wgPort fw4Forward ++ texts.filter fun text => !owned fw4Forward text := by
  have own : ∀ text, owned fw4Forward text = (contains text "deeporc-exit-fwd".toList ||
      (contains text "deeporc-wg-fwd".toList || contains text "deeporc-ts-fwd".toList)) := by
    intro text
    show (forwardRules.any fun rule => contains text rule.1.toList) = _
    simp only [forwardRules, List.any_cons, List.any_nil, Bool.or_false]
  obtain ⟨exit, wg, -⟩ := List.pairwise_cons.mp forwardRules_apart |>.imp_right List.pairwise_cons.mp
  have exit_wg := exit ("deeporc-wg-fwd", "iifname \"wg0\" oifname \"tailscale0\" accept") (by decide)
  have exit_ts := exit ("deeporc-ts-fwd", "iifname \"tailscale0\" accept") (by decide)
  have wg_ts := wg ("deeporc-ts-fwd", "iifname \"tailscale0\" accept") (by decide)
  unfold inserted insertOnce forwardRules
  rw [if_pos rfl]
  simp only [List.foldl_cons, List.foldl_nil, List.filter_cons, List.filter_filter, exit_wg, exit_ts, wg_ts, Bool.not_false,
    if_true, List.reverse_cons, List.reverse_nil, List.nil_append, List.cons_append, List.map_cons, List.map_nil, own]
  refine congrArg (List.cons _) (congrArg (List.cons _) (congrArg (List.cons _) (List.filter_congr fun text _ => ?_)))
  cases contains text "deeporc-exit-fwd".toList <;> cases contains text "deeporc-wg-fwd".toList <;>
    cases contains text "deeporc-ts-fwd".toList <;> rfl

/-- The tables of its own gone. -/
def withoutOwn (c : Content) : Content :=
  ((c.deleteTable gwNat.table).deleteTable deeporcExit.table).deleteTable deeporcMangle.table

/-- The tables of its own as they should be, all else as it was. -/
def withOwn (file : Bool) (c : Content) : Content where
  tables := fun table =>
    if table ∈ [gwNat.table, deeporcExit.table] then true else if table = deeporcMangle.table then file else c.tables table
  chains := fun place =>
    if place.table ∈ [gwNat.table, deeporcExit.table, deeporcMangle.table] then ownChains file place else c.chains place

def addRules (c : Content) (place : Place) (texts : List Text) : Content :=
  texts.foldl (fun c text => c.change place fun rules => rules ++ [text]) c

theorem addRules_eq (c : Content) (place : Place) (texts : List Text) :
    addRules c place texts = c.change place fun rules => rules ++ texts := by
  induction texts generalizing c with
  | nil =>
      have same : ((c.chains place).map fun chain => (chain.1, chain.2 ++ [])) = c.chains place := by
        cases c.chains place <;> simp
      unfold addRules Content.change
      dsimp only [List.foldl_nil]
      rw [same, Function.update_eq_self]
  | cons text texts ih =>
      unfold addRules at ih ⊢
      rw [List.foldl_cons, ih, Content.change_change]
      simp only [List.append_assoc, List.singleton_append]

/-- A chain made anew. -/
theorem addRules_addChain {place : Place} {head texts : List Text} (c : Content) (gone : c.chains place = none) :
    addRules (c.addChain place head) place texts =
      { c with chains := Function.update c.chains place (some (head, texts)) } := by
  rw [addRules_eq]
  unfold Content.addChain Content.change
  dsimp only
  rw [gone, Option.none_or, Function.update_self, Function.update_idem]
  rfl

theorem chains_withoutOwn (c : Content) (place : Place) : (withoutOwn c).chains place =
    if place.table ∈ [gwNat.table, deeporcExit.table, deeporcMangle.table] then none else c.chains place := by
  unfold withoutOwn Content.deleteTable
  dsimp only
  by_cases mangle : place.table = deeporcMangle.table
  · rw [if_pos mangle, if_pos (by simp [mangle])]
  · rw [if_neg mangle]
    by_cases exit : place.table = deeporcExit.table
    · rw [if_pos exit, if_pos (by simp [exit])]
    · rw [if_neg exit]
      by_cases nat : place.table = gwNat.table
      · rw [if_pos nat, if_pos (by simp [nat])]
      · rw [if_neg nat, if_neg (by simp [nat, exit, mangle])]

theorem tables_withoutOwn (c : Content) (table : String) : (withoutOwn c).tables table =
    if table ∈ [gwNat.table, deeporcExit.table, deeporcMangle.table] then false else c.tables table := by
  unfold withoutOwn Content.deleteTable
  dsimp only
  simp only [Function.update_apply]
  by_cases mangle : table = deeporcMangle.table
  · rw [if_pos mangle, if_pos (by simp [mangle])]
  · rw [if_neg mangle]
    by_cases exit : table = deeporcExit.table
    · rw [if_pos exit, if_pos (by simp [exit])]
    · rw [if_neg exit]
      by_cases nat : table = gwNat.table
      · rw [if_pos nat, if_pos (by simp [nat])]
      · rw [if_neg nat, if_neg (by simp [nat, exit, mangle])]

/-- A table with one chain. -/
def addOwn (c : Content) (place : Place) (head texts : List Text) : Content :=
  addRules ((c.addTable place.table).addChain place head) place texts

theorem addOwn_eq {place : Place} {head texts : List Text} {c : Content} (gone : c.chains place = none) :
    addOwn c place head texts =
      ⟨Function.update c.tables place.table true, Function.update c.chains place (some (head, texts))⟩ :=
  addRules_addChain (c.addTable place.table) gone

theorem own_made (c : Content) :
    addOwn (addOwn (withoutOwn c) gwNat natHead natRules) deeporcExit exitHead exitRules = withOwn false c := by
  have nat : (withoutOwn c).chains gwNat = none := by rw [chains_withoutOwn, if_pos (by decide)]
  have exit : (addOwn (withoutOwn c) gwNat natHead natRules).chains deeporcExit = none := by
    rw [addOwn_eq nat]
    dsimp only
    rw [Function.update_of_ne (by decide), chains_withoutOwn, if_pos (by decide)]
  rw [addOwn_eq exit, addOwn_eq nat]
  unfold withOwn
  congr 1
  · funext table
    dsimp only
    rw [Function.update_apply, Function.update_apply, tables_withoutOwn]
    by_cases exits : table = deeporcExit.table
    · simp [exits]
    · by_cases nats : table = gwNat.table
      · simp [nats]
      · by_cases mangles : table = deeporcMangle.table
        · rw [mangles]
          rfl
        · simp [exits, nats, mangles]
  · funext place
    dsimp only
    rw [Function.update_apply, Function.update_apply, chains_withoutOwn]
    unfold ownChains
    by_cases exits : place = deeporcExit
    · subst exits
      rfl
    · by_cases nats : place = gwNat
      · subst nats
        rfl
      · rw [if_neg exits, if_neg nats, if_neg nats, if_neg exits]
        rfl

theorem own_loaded (c : Content) :
    addOwn (withOwn false c) deeporcMangle mangleHead mangleRules = withOwn true c := by
  have gone : (withOwn false c).chains deeporcMangle = none := rfl
  rw [addOwn_eq gone]
  unfold withOwn
  congr 1
  · funext table
    rw [Function.update_apply]
    by_cases mangles : table = deeporcMangle.table
    · rw [mangles]
      rfl
    · simp [mangles]
  · funext place
    rw [Function.update_apply]
    dsimp only
    by_cases mangles : place = deeporcMangle
    · subst mangles
      rfl
    · rw [if_neg mangles]
      simp [ownChains, mangles]

theorem content_loadGatewayNft (s : Ruleset) : (loadGatewayNft s).content =
    addOwn (addOwn (addOwn s.content gwNat natHead natRules) deeporcExit exitHead exitRules)
      deeporcMangle mangleHead mangleRules := by
  have rules : ∀ (place : Place) (texts : List Text) (s : Ruleset),
      (texts.foldl (fun s text => s.addRule place text) s).content = addRules s.content place texts := by
    intro place texts s
    induction texts generalizing s with
    | nil => rfl
    | cons text texts ih =>
        rw [List.foldl_cons, ih, content_addRule]
        rfl
  unfold loadGatewayNft addOwn
  simp only [List.foldl_cons, List.foldl_nil, rules, content_addChain, content_addTable]

/-- Rules are added to a chain that is there. -/
theorem turns_addRules {strict : Bool} {place : Place} (own : place.table ∈ [gwNat.table, deeporcExit.table, deeporcMangle.table])
    {texts : List Text} {rest : List (Process Ruleset Bool)} (there : (c.chains place).isSome = true)
    (turns : Turns owned shared (.inOrder strict rest) (addRules c place texts) d) :
    Turns owned shared (.inOrder strict (texts.map (addRule place) ++ rest)) c d := by
  induction texts generalizing c with
  | nil => exact turns
  | cons text texts ih =>
      exact turns_cons (turns_addRule (sparing_addRule own) there) (ih ((c.isSome_change place _).trans there) turns)

theorem turns_addOwn {strict : Bool} {place : Place} (own : place.table ∈ [gwNat.table, deeporcExit.table, deeporcMangle.table])
    {head texts : List Text} {rest : List (Process Ruleset Bool)}
    (turns : Turns owned shared (.inOrder strict rest) (addOwn c place head texts) d) :
    Turns owned shared (.inOrder strict ([addTable place.table, addChain place head] ++ texts.map (addRule place) ++ rest)) c d := by
  have there : ((c.addTable place.table).tables place.table) = true := Function.update_self ..
  have chain : (((c.addTable place.table).addChain place head).chains place).isSome = true := by
    unfold Content.addChain
    dsimp only
    rw [Function.update_self, Option.isSome_or]
    exact Bool.or_true _
  rw [List.append_assoc]
  exact turns_cons (turns_addTable c place.table) (turns_cons (turns_addChain (sparing_addChain own) there)
    (turns_addRules own chain turns))

theorem turns_own {strict file : Bool} {rest : List (Process Ruleset Bool)}
    (turns : Turns owned shared (.inOrder strict rest) (withOwn file c) d) :
    Turns owned shared (.inOrder strict ((if file then [nftLoad] else ownTables) ++ rest)) (withoutOwn c) d := by
  cases file with
  | true =>
      have loads : Turns owned shared nftLoad (withoutOwn c) (withOwn true c) := by
        refine turns_of_sparing sparing_nftLoad fun s _ same => ⟨rfl, ?_⟩
        unfold nftLoad
        rw [Process.run_command, if_pos rfl, content_loadGatewayNft, same, own_made, own_loaded]
      exact turns_cons loads turns
  | false =>
      rw [← own_made] at turns
      have second := turns_addOwn (by decide) turns
      have first := turns_addOwn (by decide) second
      rw [if_neg (by decide)]
      unfold ownTables
      simp only [List.append_assoc] at first ⊢
      exact first

theorem chains_change (c : Content) (place other : Place) (edit : List Text → List Text) : (c.change place edit).chains other =
    if other = place then (c.chains other).map fun chain => (chain.1, edit chain.2) else c.chains other := by
  unfold Content.change
  dsimp only
  rw [Function.update_apply]
  split
  · rename_i same
    rw [same]
  · rfl

theorem filter_not_owned {place : Place} (nobody : ∀ text, owned place text = false)
    (chain : Option (List Text × List Text)) :
    (chain.map fun chain => (chain.1, [] ++ chain.2.filter fun text => !owned place text)) = chain := by
  have all : ∀ texts : List Text, texts.filter (fun text => !owned place text) = texts := by
    intro texts
    rw [List.filter_eq_self]
    intro text _
    rw [nobody text]
    rfl
  cases chain with
  | none => rfl
  | some chain => rw [Option.map_some, all, List.nil_append]

/-- What is done to the chains of others. -/
def edited (wgPort : Option Nat) (c : Content) : Content :=
  let forward := c.change fw4Forward fun texts => forwardRules.foldl (fun texts rule => insertOnce rule texts) texts
  wgPort.elim forward fun port => forward.change fw4InputWan (insertOnce (wgComment, wgRule port))

theorem edited_none (c : Content) : edited none c =
    c.change fw4Forward fun texts => forwardRules.foldl (fun texts rule => insertOnce rule texts) texts := rfl

theorem edited_some (port : Nat) (c : Content) :
    edited (some port) c = (edited none c).change fw4InputWan (insertOnce (wgComment, wgRule port)) := rfl

theorem chains_edited (wgPort : Option Nat) (c : Content) (place : Place) : (edited wgPort c).chains place =
    if place = fw4Forward then (c.chains place).map fun chain =>
      (chain.1, inserted wgPort fw4Forward ++ chain.2.filter fun text => !owned fw4Forward text)
    else if place = fw4InputWan ∧ wgPort ≠ none then (c.chains place).map fun chain =>
      (chain.1, inserted wgPort fw4InputWan ++ chain.2.filter fun text => !owned fw4InputWan text)
    else c.chains place := by
  unfold edited
  simp only [foldl_insertOnce wgPort]
  cases wgPort with
  | none =>
      rw [Option.elim_none, chains_change]
      simp
  | some port =>
      rw [Option.elim_some, chains_change, chains_change]
      by_cases forward : place = fw4Forward
      · subst forward
        rfl
      · by_cases input : place = fw4InputWan
        · subst input
          rfl
        · simp [forward, input]

theorem edited_eq (file : Bool) (wgPort : Option Nat) (c : Content) :
    edited wgPort (withOwn file (c.change tsPostrouting fun texts => texts.filter fun text => !masqueraded text)) =
      settled file wgPort c := by
  have tables : ∀ c : Content, (edited wgPort c).tables = c.tables := by
    intro c
    unfold edited
    cases wgPort <;> rfl
  have chains : (edited wgPort (withOwn file (c.change tsPostrouting fun texts => texts.filter fun text => !masqueraded text))).chains =
      (settled file wgPort c).chains := by
    funext place
    rw [chains_edited]
    unfold withOwn settled
    dsimp only
    rw [chains_change]
    by_cases own : place.table ∈ [gwNat.table, deeporcExit.table, deeporcMangle.table]
    · have forward : place ≠ fw4Forward := fun same => absurd own (same ▸ by decide)
      have input : place ≠ fw4InputWan := fun same => absurd own (same ▸ by decide)
      rw [if_neg forward, if_neg (fun both => input both.1), if_pos own, if_pos own]
    · rw [if_neg own]
      by_cases forward : place = fw4Forward
      · subst forward
        rfl
      · by_cases input : place = fw4InputWan
        · subst input
          cases wgPort <;> rfl
        · by_cases ts : place = tsPostrouting
          · subst ts
            rfl
          · have nobody : ∀ text, owned place text = false := by
              intro text
              unfold owned
              rw [if_neg own, if_neg ts, if_neg forward, if_neg input]
            have nothing : inserted wgPort place = [] := by
              unfold inserted
              rw [if_neg forward, if_neg input]
            rw [if_neg forward, if_neg (fun both => input both.1), if_neg ts, if_neg own, if_neg (fun both => input both.1),
              nothing, filter_not_owned nobody]
  exact Content.ext (tables _) chains

theorem turns_inputWan {strict : Bool} {rounds : Nat} (port : Nat) (there : (c.chains fw4InputWan).isSome = true)
    (few : ∀ chain, c.chains fw4InputWan = some chain →
      (chain.2.filter fun text => contains text wgComment.toList).length ≤ rounds) :
    Turns owned shared (fw4Insert strict rounds fw4InputWan wgComment (wgRule port)) c
      (c.change fw4InputWan (insertOnce (wgComment, wgRule port))) :=
  @turns_fw4Insert c strict rounds fw4InputWan (wgComment, wgRule port) (by unfold shared; decide) (fun _ => owned_inputWan)
    contains_wg_line there few

theorem turns_applyNft {rounds : Nat} (strict file : Bool) (wgPort : Option Nat) (few : AtMost rounds c) :
    Turns owned shared (applyNft rounds strict file wgPort) c (settled file wgPort c) := by
  have strips : Turns owned shared (deleteFound awkBlank rounds tsPostrouting masqueraded) c
      (c.change tsPostrouting fun texts => texts.filter fun text => !masqueraded text) :=
    turns_deleteFound awk_solid rfl (by unfold shared; decide) (fun _ => owned_tsPostrouting) masqueraded_line
      fun chain there => few.picked (by unfold shared; decide) (fun _ => owned_tsPostrouting) there
  generalize same : c.change tsPostrouting (fun texts => texts.filter fun text => !masqueraded text) = stripped at strips
  have untouched : ∀ place, shared place → place ≠ tsPostrouting →
      (withOwn file stripped).chains place = c.chains place := by
    intro place used other
    rw [← same]
    unfold withOwn
    dsimp only
    rw [if_neg fun own => not_shared own used, chains_change, if_neg other]
  have forward := untouched fw4Forward (by unfold shared; decide) (by decide)
  have input := untouched fw4InputWan (by unfold shared; decide) (by decide)
  have forwards : Turns owned shared (ifListed fw4Forward
      (.inOrder strict (forwardRules.map fun rule => fw4Insert strict rounds fw4Forward rule.1 rule.2)))
      (withOwn file stripped) (edited none (withOwn file stripped)) := by
    rw [edited_none]
    refine turns_ifListed (fun there => ?_) fun gone => change_of_none gone _
    refine turns_forwardRules (fun _ listed => listed) forwardRules_apart there fun rule listed chain found => ?_
    exact few.picked (by unfold shared; decide) (fun _ => owned_forward listed) (forward.symm.trans found)
  have kept : (edited none (withOwn file stripped)).chains fw4InputWan = (withOwn file stripped).chains fw4InputWan := by
    rw [edited_none, chains_change, if_neg (by decide)]
  have inputs : Turns owned shared (ifListed fw4InputWan (wgPort.elim (.done true) fun port =>
      fw4Insert strict rounds fw4InputWan wgComment (wgRule port)))
      (edited none (withOwn file stripped)) (edited wgPort (withOwn file stripped)) := by
    cases wgPort with
    | none => exact turns_ifListed (fun _ => turns_done _) fun _ => rfl
    | some port =>
        rw [edited_some]
        refine turns_ifListed (fun there => ?_) fun gone => change_of_none gone _
        apply turns_inputWan port there
        intro chain found
        rw [kept] at found
        exact few.picked (by unfold shared; decide) (fun _ => owned_inputWan) (input.symm.trans found)
  rw [← edited_eq, same]
  unfold applyNft
  rw [List.append_assoc]
  exact turns_cons strips (turns_cons (turns_deleteTable (sparing_deleteTable (by decide)) _)
    (turns_cons (turns_deleteTable (sparing_deleteTable (by decide)) _)
      (turns_cons (turns_deleteTable (sparing_deleteTable (by decide)) _)
        (turns_own (turns_cons forwards (turns_cons inputs (turns_done _)))))))

/-! ### Again and again -/

theorem contains_commented_text (rule comment : String) : contains (commented rule comment) comment.toList = true := by
  refine Agent.contains_iff.mpr ⟨(rule ++ " comment \"").toList, "\"".toList, ?_⟩
  simp [commented]

theorem owned_inserted {wgPort : Option Nat} {place : Place} : ∀ text ∈ inserted wgPort place, owned place text = true := by
  intro text member
  unfold inserted at member
  split at member
  · rename_i forward
    subst forward
    obtain ⟨rule, listed, rfl⟩ := List.mem_map.mp member
    exact owned_forward (List.mem_reverse.mp listed) (contains_commented_text rule.2 rule.1)
  · split at member
    · rename_i input
      subst input
      obtain ⟨port, -, rfl⟩ := List.mem_map.mp member
      exact owned_inputWan (contains_commented_text (wgRule port) wgComment)
    · cases member

theorem filter_inserted (wgPort : Option Nat) (place : Place) (texts : List Text) :
    ((inserted wgPort place ++ texts.filter fun text => !owned place text).filter fun text => !owned place text) =
      texts.filter fun text => !owned place text := by
  have none_ : ((inserted wgPort place).filter fun text => !owned place text) = [] := by
    rw [List.filter_eq_nil_iff]
    intro text member
    rw [owned_inserted text member]
    decide
  rw [List.filter_append, none_, List.nil_append, List.filter_filter]
  simp only [Bool.and_self]

/-- The second run decides, but a port that it does not know stays that of the first. -/
theorem settled_settled (file file' : Bool) (wgPort wgPort' : Option Nat) (c : Content) :
    settled file' wgPort' (settled file wgPort c) = settled file' (wgPort'.or wgPort) c := by
  apply Content.ext
  · funext table
    unfold settled
    dsimp only
    by_cases first : table ∈ [gwNat.table, deeporcExit.table]
    · rw [if_pos first, if_pos first]
    · rw [if_neg first, if_neg first, if_neg first]
      by_cases second : table = deeporcMangle.table
      · rw [if_pos second, if_pos second]
      · rw [if_neg second, if_neg second, if_neg second]
  · funext place
    unfold settled
    dsimp only
    by_cases own : place.table ∈ [gwNat.table, deeporcExit.table, deeporcMangle.table]
    · rw [if_pos own, if_pos own]
    · rw [if_neg own, if_neg own, if_neg own]
      have twice : ((c.chains place).map fun chain =>
          (chain.1, inserted wgPort place ++ chain.2.filter fun text => !owned place text)).map (fun chain =>
            (chain.1, inserted wgPort' place ++ chain.2.filter fun text => !owned place text)) =
          (c.chains place).map fun chain => (chain.1, inserted wgPort' place ++ chain.2.filter fun text => !owned place text) := by
        rw [Option.map_map]
        refine congrArg (fun edit => Option.map edit (c.chains place)) (funext fun chain => ?_)
        show (chain.1, _) = _
        rw [filter_inserted]
      by_cases input : place = fw4InputWan
      · cases wgPort' with
        | none => rw [if_pos ⟨input, rfl⟩, Option.none_or]
        | some port =>
            rw [if_neg (by simp), Option.some_or, if_neg (c := _ ∧ some port = none) (by simp)]
            cases wgPort with
            | none => rw [if_pos ⟨input, rfl⟩]
            | some other => rw [if_neg (by simp), twice]
      · have port : inserted (wgPort'.or wgPort) place = inserted wgPort' place := by
          unfold inserted
          rw [if_neg input, if_neg input]
        rw [if_neg fun both => input both.1, if_neg fun both => input both.1, if_neg fun both => input both.1, twice, port]

/-- A run of the script as the routing daemon or an agent starts it, with what it finds. -/
structure Run where
  strict : Bool
  file : Bool
  wgPort : Option Nat

def Run.of (rounds : Nat) (s : Ruleset) (run : Run) : Ruleset :=
  ((applyNft rounds run.strict run.file run.wgPort).run s).2

/-- The port of the last run that knew one. -/
def lastPort (runs : List Run) : Option Nat := runs.reverse.findSome? Run.wgPort

theorem atMost_settled {rounds : Nat} (few : AtMost rounds c) (room : 3 ≤ rounds) (file : Bool) (wgPort : Option Nat) :
    AtMost rounds (settled file wgPort c) := by
  intro place used chain there
  unfold settled at there
  dsimp only at there
  rw [if_neg fun own => not_shared own used] at there
  split at there
  · exact few place used chain there
  · obtain ⟨before, -, rfl⟩ := Option.map_eq_some_iff.mp there
    have others : ((before.2.filter fun text => !owned place text).filter (owned place)) = [] := by
      rw [List.filter_filter, List.filter_eq_nil_iff]
      intro text _
      cases owned place text <;> decide
    have size : (inserted wgPort place).length ≤ 3 := by
      unfold inserted
      split
      · decide
      · split
        · rw [List.length_map, Option.length_toList]
          split <;> omega
        · decide
    rw [List.filter_append, others, List.append_nil]
    exact Nat.le_trans (List.length_filter_le _ _) (Nat.le_trans size room)

theorem crowded_atMost : AtMost 3 crowded.content := by
  intro place _ chain there
  unfold Ruleset.content at there
  by_cases forward : place = fw4Forward
  · subst forward
    cases there
    decide +kernel
  · dsimp only at there
    rw [crowded_chains forward] at there
    cases there

/-- However often the script has run, it leaves one copy of each of its rules, and only the last run matters. -/
theorem runs_settle {rounds : Nat} {s : Ruleset} (orderly : Orderly owned shared s) (few : AtMost rounds s.content)
    (room : 3 ≤ rounds) {runs : List Run} {last : Run} (ends : runs.getLast? = some last) :
    (runs.foldl (Run.of rounds) s).content = settled last.file (lastPort runs) s.content := by
  induction runs generalizing s with
  | nil => cases ends
  | cons run rest ih =>
      obtain ⟨-, orderly', content⟩ := turns_applyNft run.strict run.file run.wgPort few s orderly rfl
      have one : (Run.of rounds s run).content = settled run.file run.wgPort s.content := content
      have after : Orderly owned shared (Run.of rounds s run) := orderly'
      rw [List.foldl_cons]
      cases rest with
      | nil =>
          have same : run = last := by simpa using ends
          subst same
          have port : lastPort [run] = run.wgPort := by
            unfold lastPort
            rw [List.reverse_singleton, List.findSome?_cons, List.findSome?_nil]
            cases run.wgPort <;> rfl
          rw [List.foldl_nil, one, port]
      | cons next others =>
          rw [List.getLast?_cons_cons] at ends
          have few' : AtMost rounds (Run.of rounds s run).content := one ▸ atMost_settled few room _ _
          have port : lastPort (run :: next :: others) = (lastPort (next :: others)).or run.wgPort := by
            unfold lastPort
            rw [List.reverse_cons, List.findSome?_append, List.findSome?_singleton]
          rw [ih after few' ends, one, settled_settled, port]

theorem crowded_settles :
    ([⟨true, false, none⟩, ⟨false, false, none⟩].foldl (Run.of 3) crowded).content = settled false none crowded.content :=
  @runs_settle 3 crowded crowded_orderly crowded_atMost (Nat.le_refl 3) [⟨true, false, none⟩, ⟨false, false, none⟩]
    ⟨false, false, none⟩ rfl

end DeepOrc.Routing.Firewall
