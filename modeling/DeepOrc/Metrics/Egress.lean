import DeepOrc.Lib.Text
import DeepOrc.Naming
import Mathlib.Algebra.Order.Monoid.WithTop
import Mathlib.Data.List.MinMax
import Mathlib.Data.List.Nodup
import Mathlib.Data.Prod.Lex

/-!
# Egress lookups of the metrics collector

Every poll stores one row for each ready gateway. What the next poll knows of the public address, of the last lookup and
of the links it reads back from these rows.
-/

namespace DeepOrc.Metrics

open Lib.Text (orText truthy)

/-! ### The refresh policy -/

/-- In seconds; times are microseconds. -/
def egressRefreshSeconds : Nat := 300

def cooldown : Nat := egressRefreshSeconds * 1000000

structure InterfaceState where
  tailscaleOnline : Option Bool
  wgOnline : Option Bool
  exitNodeReachable : Option Bool
deriving DecidableEq, Repr

structure EgressSnapshot where
  publicIp : Option String
  countryCode : Option String
  updatedAt : Option Nat
deriving DecidableEq, Repr

def EgressSnapshot.blank : EgressSnapshot := ⟨none, none, none⟩

structure GatewayMetric where
  state : InterfaceState
  egressPublicIp : Option String
  egressCountryCode : Option String
  egressUpdatedAt : Option Nat
  polledAt : Nat
deriving DecidableEq, Repr

def egressSnapshotFromMetric : Option GatewayMetric → EgressSnapshot
  | none => .blank
  | some metric =>
      if truthy metric.egressPublicIp then
        ⟨metric.egressPublicIp, metric.egressCountryCode, metric.egressUpdatedAt <|> some metric.polledAt⟩
      else .blank

def interfaceStateChanged (previous : Option InterfaceState) (current : InterfaceState) : Bool :=
  match previous with
  | none => true
  | some previous => previous != current

def pathwaysReady (state : InterfaceState) : Bool := state.tailscaleOnline == some true && state.wgOnline == some true

def shouldRefreshEgress (previousState : Option InterfaceState) (currentState : InterfaceState)
    (snapshot : EgressSnapshot) (now : Nat) : Bool :=
  if !pathwaysReady currentState then false
  else
    match snapshot.updatedAt with
    | none => true
    | some updatedAt =>
        if now < updatedAt + cooldown then false
        else if !truthy snapshot.publicIp then true
        else interfaceStateChanged previousState currentState

def mergeEgress (snapshot refreshed : EgressSnapshot) (attempted : Bool) (now : Nat) : EgressSnapshot :=
  if truthy refreshed.publicIp then
    ⟨refreshed.publicIp, orText refreshed.countryCode snapshot.countryCode, some now⟩
  else if attempted then ⟨snapshot.publicIp, snapshot.countryCode, some now⟩
  else snapshot

/-! ### The stored rows -/

def latestGatewayMetric (metrics : List GatewayMetric) : Option GatewayMetric :=
  metrics.argmax GatewayMetric.polledAt

/-- `ORDER BY egress_updated_at DESC, polled_at DESC`, where a missing time comes first. -/
def latestGatewayMetricWithEgress (metrics : List GatewayMetric) : Option GatewayMetric :=
  (metrics.filter fun metric => metric.egressPublicIp.isSome).argmax fun metric =>
    toLex ((match metric.egressUpdatedAt with | none => ⊤ | some updatedAt => (updatedAt : WithTop Nat)),
      metric.polledAt)

/-! ### One gateway in one poll -/

/-- Both services are asked for a country, and an answer without one is none. -/
structure GeoResult where
  ip : String
  countryCode : String
  located : countryCode ≠ ""

/-- What a poll is answered about one gateway; `none` where the call raises. `peersStored` tells whether the peers' rows
could be added, `geo` is what `lookup_geo` returns. -/
structure GatewayAnswers where
  vmStatus : String
  exitNodeConfigured : Option (Option Bool)
  wgUplink : Option Bool
  tailscale : Option Bool
  peersStored : Bool
  publicIp : Option String
  geo : String → Option GeoResult
  polledAt : Nat

/-- The rows of one gateway, with the times of its egress lookups and the addresses whose country was found. -/
structure History where
  metrics : List GatewayMetric
  lookups : List Nat
  countries : List (String × String)

def History.new : History := ⟨[], [], []⟩

/-- The links as the poll read them, and whether every call up to there was answered. -/
def readLinks (latest : Option GatewayMetric) (answers : GatewayAnswers) : InterfaceState × Bool :=
  let failed (state : InterfaceState) : InterfaceState × Bool :=
    (if answers.vmStatus = "Running" then { state with tailscaleOnline := some false, wgOnline := some false }
      else state, false)
  match answers.exitNodeConfigured, answers.wgUplink, answers.tailscale with
  | none, _, _ => failed ⟨none, none, latest.bind fun metric => metric.state.exitNodeReachable⟩
  | some exitNode, none, _ => failed ⟨none, none, exitNode⟩
  | some exitNode, some wg, none => failed ⟨none, some wg, exitNode⟩
  | some exitNode, some wg, some tailscale =>
      let state : InterfaceState := ⟨some tailscale, some wg, exitNode⟩
      if answers.peersStored then (state, true) else failed state

/-- No call raised up to the refresh of the public address. -/
structure GatewayAnswers.Answered (answers : GatewayAnswers) : Prop where
  health : answers.exitNodeConfigured.isSome = true
  peers : answers.wgUplink.isSome = true
  tailscale : answers.tailscale.isSome = true
  stored : answers.peersStored = true

theorem readLinks_answered_iff {latest : Option GatewayMetric} {answers : GatewayAnswers} :
    (readLinks latest answers).2 = true ↔ answers.Answered := by
  unfold readLinks
  cases health : answers.exitNodeConfigured with
  | none => exact iff_of_false Bool.false_ne_true fun answered => by simpa [health] using answered.health
  | some exitNode =>
      cases peers : answers.wgUplink with
      | none => exact iff_of_false Bool.false_ne_true fun answered => by simpa [peers] using answered.peers
      | some wg =>
          cases links : answers.tailscale with
          | none => exact iff_of_false Bool.false_ne_true fun answered => by simpa [links] using answered.tailscale
          | some tailscale =>
              dsimp only
              split
              · rename_i stored
                exact iff_of_true rfl ⟨by rw [health]; rfl, by rw [peers]; rfl, by rw [links]; rfl, stored⟩
              · rename_i unstored
                exact iff_of_false Bool.false_ne_true fun answered => unstored answered.stored

/-- The stripped address the agent answers, empty when it names none or the call raises. -/
def GatewayAnswers.address (answers : GatewayAnswers) : String :=
  String.ofList (Naming.strip (answers.publicIp.getD "").toList)

/-- The geo lookup that a refresh makes, if it makes one. -/
def GatewayAnswers.geoLookup (answers : GatewayAnswers) (snapshot : EgressSnapshot) : Option GeoResult :=
  if answers.address.isEmpty || some answers.address == snapshot.publicIp && truthy snapshot.countryCode then none
  else answers.geo answers.address

def egressGeoFromAgent (answers : GatewayAnswers) (snapshot : EgressSnapshot) : EgressSnapshot :=
  if answers.address.isEmpty then .blank
  else if some answers.address == snapshot.publicIp && truthy snapshot.countryCode then
    ⟨some answers.address, snapshot.countryCode, none⟩
  else
    match answers.geo answers.address with
    | some geo => ⟨some geo.ip, some geo.countryCode, none⟩
    | none => ⟨some answers.address, none, none⟩

/-- The address and country the poll starts from. -/
def storedSnapshot (metrics : List GatewayMetric) : EgressSnapshot :=
  let snapshot := egressSnapshotFromMetric (latestGatewayMetricWithEgress metrics)
  if truthy snapshot.publicIp then snapshot else egressSnapshotFromMetric (latestGatewayMetric metrics)

/-- Whether the poll asks the agent for its public address. -/
def looksUp (now : Nat) (history : History) (answers : GatewayAnswers) : Bool :=
  let latest := latestGatewayMetric history.metrics
  let (state, answered) := readLinks latest answers
  answered && shouldRefreshEgress (latest.map GatewayMetric.state) state (storedSnapshot history.metrics) now

def resolveEgress (now : Nat) (history : History) (answers : GatewayAnswers) : EgressSnapshot :=
  let snapshot := storedSnapshot history.metrics
  if looksUp now history answers then mergeEgress snapshot (egressGeoFromAgent answers snapshot) true now
  else snapshot

/-- The row a poll stores. -/
def collectGateway (now : Nat) (history : History) (answers : GatewayAnswers) : GatewayMetric :=
  let state := (readLinks (latestGatewayMetric history.metrics) answers).1
  let snapshot := if pathwaysReady state then resolveEgress now history answers else .blank
  ⟨state, snapshot.publicIp, snapshot.countryCode, snapshot.updatedAt, answers.polledAt⟩

/-- The gateway's history after the poll. -/
def History.poll (history : History) (now : Nat) (answers : GatewayAnswers) : History where
  metrics := collectGateway now history answers :: history.metrics
  lookups := if looksUp now history answers then now :: history.lookups else history.lookups
  countries :=
    if looksUp now history answers then
      match answers.geoLookup (storedSnapshot history.metrics) with
      | some geo => (answers.address, geo.countryCode) :: history.countries
      | none => history.countries
    else history.countries

/-! ### The collector -/

/-- The answers for the gateways that are ready, in the order of their ids. -/
structure Poll where
  now : Nat
  gateways : List (Nat × GatewayAnswers)
  endedAt : Nat

structure State where
  clock : Nat
  history : Nat → History

structure Poll.WellTimed (poll : Poll) (clock : Nat) : Prop where
  later : clock < poll.now
  ends : poll.now ≤ poll.endedAt
  stored : ∀ entry ∈ poll.gateways, poll.now ≤ entry.2.polledAt ∧ entry.2.polledAt ≤ poll.endedAt
  once : (poll.gateways.map Prod.fst).Nodup

def Poll.wellTimed (poll : Poll) (clock : Nat) : Bool :=
  decide (clock < poll.now) && decide (poll.now ≤ poll.endedAt) &&
    poll.gateways.all (fun entry => poll.now ≤ entry.2.polledAt && entry.2.polledAt ≤ poll.endedAt) &&
    decide (poll.gateways.map Prod.fst).Nodup

theorem Poll.wellTimed_iff {poll : Poll} {clock : Nat} : poll.wellTimed clock = true ↔ poll.WellTimed clock := by
  simp only [Poll.wellTimed, Bool.and_eq_true, decide_eq_true_eq, List.all_eq_true]
  exact ⟨fun all => ⟨all.1.1.1, all.1.1.2, all.1.2, all.2⟩, fun timed => ⟨⟨⟨timed.1, timed.2⟩, timed.3⟩, timed.4⟩⟩

def collectMetrics (now : Nat) (history : Nat → History) (gateways : List (Nat × GatewayAnswers)) : Nat → History :=
  gateways.foldl (fun history entry => Function.update history entry.1 ((history entry.1).poll now entry.2)) history

def step (s : State) (poll : Poll) : Option State :=
  if poll.wellTimed s.clock then some ⟨poll.endedAt, collectMetrics poll.now s.history poll.gateways⟩ else none

structure Initial (s : State) : Prop where
  history : ∀ gatewayId, s.history gatewayId = History.new

theorem collectMetrics_of_not_mem {gatewayId : Nat} {gateways : List (Nat × GatewayAnswers)}
    (absent : gatewayId ∉ gateways.map Prod.fst) (now : Nat) (history : Nat → History) :
    collectMetrics now history gateways gatewayId = history gatewayId := by
  unfold collectMetrics
  induction gateways generalizing history with
  | nil => rfl
  | cons entry gateways later =>
      rw [List.map_cons, List.mem_cons, not_or] at absent
      obtain ⟨other, absent⟩ := absent
      rw [List.foldl_cons, later absent]
      exact Function.update_of_ne other _ _

theorem collectMetrics_of_mem {now gatewayId : Nat} {answers : GatewayAnswers} {gateways : List (Nat × GatewayAnswers)}
    (once : (gateways.map Prod.fst).Nodup) (polled : (gatewayId, answers) ∈ gateways) (history : Nat → History) :
    collectMetrics now history gateways gatewayId = (history gatewayId).poll now answers := by
  unfold collectMetrics
  induction gateways generalizing history with
  | nil => cases polled
  | cons entry gateways later =>
      obtain ⟨first, once⟩ := List.nodup_cons.mp once
      rw [List.foldl_cons]
      rcases List.mem_cons.mp polled with same | rest
      · subst same
        have untouched := collectMetrics_of_not_mem first now
          (Function.update history gatewayId ((history gatewayId).poll now answers))
        exact untouched.trans (Function.update_self _ _ _)
      · have other : gatewayId ≠ entry.1 := by
          intro same
          exact first (same ▸ List.mem_map_of_mem rest)
        rw [later once rest, Function.update_of_ne other]

/-- A poll extends the history of a gateway by its row, or leaves a gateway out that is not ready. -/
theorem step_cases {s t : State} {poll : Poll} (stepped : step s poll = some t) (gatewayId : Nat) :
    poll.WellTimed s.clock ∧ t.clock = poll.endedAt ∧
      ((∀ answers, (gatewayId, answers) ∉ poll.gateways) ∧ t.history gatewayId = s.history gatewayId ∨
        ∃ answers, (gatewayId, answers) ∈ poll.gateways ∧
          t.history gatewayId = (s.history gatewayId).poll poll.now answers) := by
  unfold step at stepped
  split at stepped
  · rename_i accepted
    cases stepped
    have timed := Poll.wellTimed_iff.mp accepted
    refine ⟨timed, rfl, ?_⟩
    by_cases polled : gatewayId ∈ poll.gateways.map Prod.fst
    · obtain ⟨⟨id, answers⟩, member, rfl⟩ := List.mem_map.mp polled
      exact .inr ⟨answers, member, collectMetrics_of_mem timed.once member s.history⟩
    · refine .inl ⟨?_, collectMetrics_of_not_mem polled poll.now s.history⟩
      intro answers member
      exact polled (List.mem_map_of_mem member)
  · cases stepped

theorem answers_unique {poll : Poll} {clock gatewayId : Nat} (timed : poll.WellTimed clock) {one other : GatewayAnswers}
    (first : (gatewayId, one) ∈ poll.gateways) (second : (gatewayId, other) ∈ poll.gateways) : one = other := by
  have same := List.inj_on_of_nodup_map timed.once first second rfl
  exact congrArg Prod.snd same

end DeepOrc.Metrics
