import DeepOrc.Lib.Machine
import DeepOrc.Metrics.Egress

/-!
# When the public address is looked up

The time of a lookup is kept in the rows that have an address. A lookup that finds none, where none was known, leaves no
trace of itself.
-/

namespace DeepOrc.Metrics

open Lib (Reaches)
open Lib.Text (truthy)

/-! ### What the rows say -/

/-- Rows and lookups are the latest first; a row with an address carries the time of a lookup, and one of them the time
of the last. -/
structure Recorded (clock : Nat) (history : History) : Prop where
  rows : ∀ metric ∈ history.metrics, metric.polledAt ≤ clock
  ordered : history.metrics.Pairwise fun newer older => older.polledAt < newer.polledAt
  asked : ∀ time ∈ history.lookups, time ≤ clock
  descending : history.lookups.Pairwise fun newer older => older < newer
  dated : ∀ metric ∈ history.metrics, metric.egressPublicIp ≠ none →
    truthy metric.egressPublicIp = true ∧ ∃ time ∈ history.lookups, metric.egressUpdatedAt = some time
  last : ∀ metric ∈ history.metrics, metric.egressPublicIp ≠ none →
    ∃ newest ∈ history.metrics, newest.egressPublicIp ≠ none ∧ newest.egressUpdatedAt = history.lookups.head?

def Addressless (history : History) : Prop := ∀ metric ∈ history.metrics, metric.egressPublicIp = none

theorem argmax_of_descending {metrics : List GatewayMetric}
    (ordered : metrics.Pairwise fun newer older => older.polledAt < newer.polledAt) :
    latestGatewayMetric metrics = metrics.head? := by
  cases metrics with
  | nil => rfl
  | cons newest older =>
      have largest := (List.pairwise_cons.mp ordered).1
      have found : newest ∈ (newest :: older).argmax GatewayMetric.polledAt := by
        rw [List.mem_argmax_iff]
        refine ⟨List.mem_cons_self, ?_, ?_⟩
        · intro metric member
          rcases List.mem_cons.mp member with same | rest
          · rw [same]
          · exact (largest metric rest).le
        · intro metric _ _
          simp
      exact found

theorem storedSnapshot_addressless {history : History} (unknown : Addressless history) :
    storedSnapshot history.metrics = .blank := by
  have empty : (history.metrics.filter fun metric => metric.egressPublicIp.isSome) = [] := by
    rw [List.filter_eq_nil_iff]
    intro metric stored
    simp [unknown metric stored]
  have latest : egressSnapshotFromMetric (latestGatewayMetric history.metrics) = .blank := by
    cases found : latestGatewayMetric history.metrics with
    | none => rfl
    | some metric =>
        have stored := List.argmax_mem found
        simp [egressSnapshotFromMetric, truthy, unknown metric stored]
  unfold storedSnapshot latestGatewayMetricWithEgress
  rw [empty, latest]
  rfl

theorem le_head_of_descending {times : List Nat} (descending : times.Pairwise fun newer older => older < newer)
    {last : Nat} (head : times.head? = some last) : ∀ time ∈ times, time ≤ last := by
  intro time member
  cases times with
  | nil => cases member
  | cons first older =>
      cases head
      rcases List.mem_cons.mp member with same | rest
      · exact same.le
      · exact ((List.pairwise_cons.mp descending).1 time rest).le

/-- The snapshot a poll starts from is that of the last lookup. -/
theorem storedSnapshot_addressed {clock : Nat} {history : History} (recorded : Recorded clock history)
    {metric : GatewayMetric} (stored : metric ∈ history.metrics) (addressed : metric.egressPublicIp ≠ none) :
    ∃ newest ∈ history.metrics, truthy newest.egressPublicIp = true ∧ history.lookups ≠ [] ∧
      storedSnapshot history.metrics = ⟨newest.egressPublicIp, newest.egressCountryCode, history.lookups.head?⟩ := by
  have kept : metric ∈ history.metrics.filter fun metric => metric.egressPublicIp.isSome :=
    List.mem_filter.mpr ⟨stored, Option.isSome_iff_ne_none.mpr addressed⟩
  cases found : latestGatewayMetricWithEgress history.metrics with
  | none =>
      rw [latestGatewayMetricWithEgress, List.argmax_eq_none] at found
      rw [found] at kept
      cases kept
  | some newest =>
      obtain ⟨member, present⟩ := List.mem_filter.mp (List.argmax_mem found)
      have known := Option.isSome_iff_ne_none.mp present
      obtain ⟨full, time, asked, updated⟩ := recorded.dated newest member known
      obtain ⟨other, otherMember, otherKnown, otherUpdated⟩ := recorded.last metric stored addressed
      cases head : history.lookups.head? with
      | none =>
          rw [List.head?_eq_none_iff] at head
          rw [head] at asked
          cases asked
      | some last =>
          have early := le_head_of_descending recorded.descending head time asked
          have largest := List.le_of_mem_argmax
            (List.mem_filter.mpr ⟨otherMember, Option.isSome_iff_ne_none.mpr otherKnown⟩) found
          simp only [otherUpdated, head, updated, Prod.Lex.toLex_le_toLex] at largest
          have late : last ≤ time := by
            rcases largest with before | ⟨same, -⟩
            · exact (WithTop.coe_lt_coe.mp before).le
            · exact (WithTop.coe_inj.mp same).le
          refine ⟨newest, member, full, List.ne_nil_of_mem asked, ?_⟩
          have snapshot : egressSnapshotFromMetric (some newest) =
              ⟨newest.egressPublicIp, newest.egressCountryCode, some last⟩ := by
            simp [egressSnapshotFromMetric, full, updated, Nat.le_antisymm early late]
          simp only [storedSnapshot, found, snapshot, full, if_true]

theorem Recorded.stored {clock : Nat} {history : History} (recorded : Recorded clock history) :
    Addressless history ∧ storedSnapshot history.metrics = .blank ∨
      ∃ newest ∈ history.metrics, truthy newest.egressPublicIp = true ∧ history.lookups ≠ [] ∧
        storedSnapshot history.metrics = ⟨newest.egressPublicIp, newest.egressCountryCode, history.lookups.head?⟩ := by
  by_cases unknown : Addressless history
  · exact .inl ⟨unknown, storedSnapshot_addressless unknown⟩
  · unfold Addressless at unknown
    push Not at unknown
    obtain ⟨metric, stored, addressed⟩ := unknown
    exact .inr (storedSnapshot_addressed recorded stored addressed)

/-! ### The row of a poll -/

theorem ready_of_looksUp {now : Nat} {history : History} {answers : GatewayAnswers}
    (asks : looksUp now history answers = true) :
    pathwaysReady (readLinks (latestGatewayMetric history.metrics) answers).1 = true := by
  unfold looksUp shouldRefreshEgress at asks
  dsimp only at asks
  rw [Bool.and_eq_true] at asks
  have refreshes := asks.2
  split at refreshes
  · cases refreshes
  · rename_i ready
    simpa using ready

/-- The address a lookup leaves is the new one or the one known before, with the time of this lookup. -/
theorem mergeEgress_attempted {snapshot : EgressSnapshot} (refreshed : EgressSnapshot) (now : Nat)
    (shown : snapshot.publicIp ≠ none → truthy snapshot.publicIp = true) :
    (mergeEgress snapshot refreshed true now).updatedAt = some now ∧
      ((mergeEgress snapshot refreshed true now).publicIp ≠ none →
        truthy (mergeEgress snapshot refreshed true now).publicIp = true) ∧
      (snapshot.publicIp ≠ none → (mergeEgress snapshot refreshed true now).publicIp ≠ none) := by
  unfold mergeEgress
  split
  · rename_i full
    refine ⟨rfl, fun _ => full, fun _ empty => ?_⟩
    dsimp only at empty
    rw [empty] at full
    cases full
  · exact ⟨rfl, shown, id⟩

theorem collectGateway_asked {now : Nat} {history : History} {answers : GatewayAnswers}
    (asks : looksUp now history answers = true) :
    ∃ snapshot, snapshot = mergeEgress (storedSnapshot history.metrics)
        (egressGeoFromAgent answers (storedSnapshot history.metrics)) true now ∧
      collectGateway now history answers =
        ⟨(readLinks (latestGatewayMetric history.metrics) answers).1, snapshot.publicIp, snapshot.countryCode,
          snapshot.updatedAt, answers.polledAt⟩ := by
  refine ⟨_, rfl, ?_⟩
  unfold collectGateway resolveEgress
  simp only [ready_of_looksUp asks, asks, if_true]

theorem collectGateway_silent {now : Nat} {history : History} {answers : GatewayAnswers}
    (silent : looksUp now history answers = false) :
    ∃ snapshot, (snapshot = .blank ∨ snapshot = storedSnapshot history.metrics) ∧
      collectGateway now history answers =
        ⟨(readLinks (latestGatewayMetric history.metrics) answers).1, snapshot.publicIp, snapshot.countryCode,
          snapshot.updatedAt, answers.polledAt⟩ := by
  unfold collectGateway resolveEgress
  simp only [silent, Bool.false_eq_true, if_false]
  split
  · exact ⟨_, .inr rfl, rfl⟩
  · exact ⟨_, .inl rfl, rfl⟩

section Rows

variable {clock now ended : Nat} {history after : History} {row : GatewayMetric}

theorem Recorded.shown (recorded : Recorded clock history)
    (known : (storedSnapshot history.metrics).publicIp ≠ none) :
    truthy (storedSnapshot history.metrics).publicIp = true ∧
      (∃ time ∈ history.lookups, (storedSnapshot history.metrics).updatedAt = some time) ∧
        ∃ metric ∈ history.metrics, metric.egressPublicIp ≠ none := by
  rcases recorded.stored with ⟨-, blank⟩ | ⟨newest, member, full, asked, snapshot⟩
  · rw [blank] at known
    exact absurd rfl known
  · obtain ⟨last, older, lookups⟩ := List.exists_cons_of_ne_nil asked
    rw [snapshot] at known ⊢
    refine ⟨full, ⟨last, ?_, ?_⟩, newest, member, known⟩
    · rw [lookups]
      exact List.mem_cons_self
    · rw [lookups]
      rfl

/-- Any row that a poll stores comes after the others. -/
theorem Recorded.rows_polled (recorded : Recorded clock history) (later : clock < row.polledAt)
    (ends : row.polledAt ≤ ended) (metrics : after.metrics = row :: history.metrics) :
    (∀ metric ∈ after.metrics, metric.polledAt ≤ ended) ∧
      after.metrics.Pairwise fun newer older => older.polledAt < newer.polledAt := by
  rw [metrics]
  constructor
  · intro metric member
    rcases List.mem_cons.mp member with same | older
    · rw [same]
      exact ends
    · have := recorded.rows metric older
      omega
  · refine List.pairwise_cons.mpr ⟨?_, recorded.ordered⟩
    intro older member
    have := recorded.rows older member
    omega

theorem Recorded.after_lookup (recorded : Recorded clock history) (later : clock < now) (stored : now ≤ row.polledAt)
    (ends : row.polledAt ≤ ended) (metrics : after.metrics = row :: history.metrics)
    (lookups : after.lookups = now :: history.lookups) (updated : row.egressUpdatedAt = some now)
    (full : row.egressPublicIp ≠ none → truthy row.egressPublicIp = true)
    (keeps : (∃ metric ∈ history.metrics, metric.egressPublicIp ≠ none) → row.egressPublicIp ≠ none) :
    Recorded ended after := by
  obtain ⟨rows, ordered⟩ := recorded.rows_polled (by omega) ends metrics
  refine ⟨rows, ordered, ?_, ?_, ?_, ?_⟩
  · intro time member
    rw [lookups] at member
    rcases List.mem_cons.mp member with same | older
    · omega
    · have := recorded.asked time older
      omega
  · rw [lookups]
    refine List.pairwise_cons.mpr ⟨fun time member => ?_, recorded.descending⟩
    have := recorded.asked time member
    omega
  · rw [metrics, lookups]
    intro metric member known
    rcases List.mem_cons.mp member with same | older
    · rw [same] at known ⊢
      exact ⟨full known, now, List.mem_cons_self, updated⟩
    · obtain ⟨shown, time, asked, dated⟩ := recorded.dated metric older known
      exact ⟨shown, time, List.mem_cons_of_mem _ asked, dated⟩
  · rw [metrics, lookups]
    intro metric member known
    refine ⟨row, List.mem_cons_self, ?_, updated⟩
    rcases List.mem_cons.mp member with same | older
    · rw [← same]
      exact known
    · exact keeps ⟨metric, older, known⟩

theorem Recorded.without_lookup (recorded : Recorded clock history) (later : clock < row.polledAt)
    (ends : row.polledAt ≤ ended) (metrics : after.metrics = row :: history.metrics)
    (lookups : after.lookups = history.lookups)
    (carried : row.egressPublicIp ≠ none → truthy row.egressPublicIp = true ∧
      (∃ time ∈ history.lookups, row.egressUpdatedAt = some time) ∧
        ∃ metric ∈ history.metrics, metric.egressPublicIp ≠ none) :
    Recorded ended after := by
  obtain ⟨rows, ordered⟩ := recorded.rows_polled later ends metrics
  refine ⟨rows, ordered, ?_, ?_, ?_, ?_⟩
  · intro time member
    rw [lookups] at member
    have := recorded.asked time member
    omega
  · rw [lookups]
    exact recorded.descending
  · rw [metrics, lookups]
    intro metric member known
    rcases List.mem_cons.mp member with same | older
    · rw [same] at known ⊢
      exact ⟨(carried known).1, (carried known).2.1⟩
    · exact recorded.dated metric older known
  · rw [metrics, lookups]
    intro metric member known
    have stored : ∃ older ∈ history.metrics, older.egressPublicIp ≠ none := by
      rcases List.mem_cons.mp member with same | older
      · rw [same] at known
        exact (carried known).2.2
      · exact ⟨metric, older, known⟩
    obtain ⟨older, inside, addressed⟩ := stored
    obtain ⟨newest, present, rest⟩ := recorded.last older inside addressed
    exact ⟨newest, List.mem_cons_of_mem _ present, rest⟩

end Rows

theorem Recorded.polled {clock now ended : Nat} {history : History} {answers : GatewayAnswers}
    (recorded : Recorded clock history) (later : clock < now) (stored : now ≤ answers.polledAt)
    (ends : answers.polledAt ≤ ended) : Recorded ended (history.poll now answers) := by
  have metrics : (history.poll now answers).metrics = collectGateway now history answers :: history.metrics := rfl
  cases asks : looksUp now history answers with
  | true =>
      have lookups : (history.poll now answers).lookups = now :: history.lookups := by simp [History.poll, asks]
      obtain ⟨snapshot, merged, row⟩ := collectGateway_asked asks
      obtain ⟨updated, full, keeps⟩ := mergeEgress_attempted (egressGeoFromAgent answers (storedSnapshot history.metrics))
        now fun known => (recorded.shown known).1
      rw [← merged] at updated full keeps
      rw [row] at metrics
      apply recorded.after_lookup later stored ends metrics lookups updated full
      intro known
      obtain ⟨metric, member, addressed⟩ := known
      obtain ⟨newest, -, shown, -, start⟩ := storedSnapshot_addressed recorded member addressed
      apply keeps
      rw [start]
      intro absent
      dsimp only at absent
      rw [absent] at shown
      cases shown
  | false =>
      have lookups : (history.poll now answers).lookups = history.lookups := by simp [History.poll, asks]
      obtain ⟨snapshot, source, row⟩ := collectGateway_silent asks
      rw [row] at metrics
      apply recorded.without_lookup (later.trans_le stored) ends metrics lookups
      rcases source with blank | same
      · intro known
        rw [blank] at known
        exact absurd rfl known
      · rw [same]
        exact recorded.shown

theorem recorded_new (clock : Nat) : Recorded clock History.new where
  rows := by simp [History.new]
  ordered := .nil
  asked := by simp [History.new]
  descending := .nil
  dated := by simp [History.new]
  last := by simp [History.new]

theorem recorded_of_reaches {allowed : State → Poll → Prop} {s t : State} (initial : Initial s)
    (reached : Reaches step allowed s t) (gatewayId : Nat) : Recorded t.clock (t.history gatewayId) := by
  have start : Recorded s.clock (s.history gatewayId) := by
    rw [initial.history]
    exact recorded_new s.clock
  have kept : ∀ s poll t, Recorded s.clock (s.history gatewayId) → allowed s poll → step s poll = some t →
      Recorded t.clock (t.history gatewayId) := by
    intro s poll t recorded _ stepped
    obtain ⟨timed, clock, ⟨-, same⟩ | ⟨answers, polled, after⟩⟩ := step_cases stepped gatewayId
    · rw [same, clock]
      have later := timed.later
      have ends := timed.ends
      refine ⟨fun metric member => ?_, recorded.ordered, fun time member => ?_, recorded.descending, recorded.dated,
        recorded.last⟩
      · have := recorded.rows metric member
        omega
      · have := recorded.asked time member
        omega
    · rw [after, clock]
      obtain ⟨stored, ends⟩ := timed.stored _ polled
      exact recorded.polled timed.later stored ends
  exact reached.invariant start kept

/-! ### Lookups are spaced -/

def Spaced (history : History) : Prop :=
  history.lookups.Pairwise fun later earlier => earlier + cooldown ≤ later

/-- As long as no address is stored, both links come up only after the cooldown of every earlier lookup. -/
def Patient (now : Nat) (history : History) (answers : GatewayAnswers) : Prop :=
  Addressless history → answers.Answered →
    pathwaysReady (readLinks (latestGatewayMetric history.metrics) answers).1 = true →
      ∀ time ∈ history.lookups, time + cooldown ≤ now

theorem looksUp_addressless {now : Nat} {history : History} {answers : GatewayAnswers} (unknown : Addressless history) :
    looksUp now history answers = true ↔ answers.Answered ∧
      pathwaysReady (readLinks (latestGatewayMetric history.metrics) answers).1 = true := by
  unfold looksUp shouldRefreshEgress
  rw [storedSnapshot_addressless unknown, Bool.and_eq_true, readLinks_answered_iff]
  simp [EgressSnapshot.blank]

/-- Once an address is stored a lookup waits for the cooldown. -/
theorem waited_of_looksUp {clock now : Nat} {history : History} {answers : GatewayAnswers}
    (recorded : Recorded clock history) (known : ¬ Addressless history) (asks : looksUp now history answers = true) :
    ∀ time ∈ history.lookups, time + cooldown ≤ now := by
  rcases recorded.stored with ⟨unknown, -⟩ | ⟨newest, -, -, asked, snapshot⟩
  · exact absurd unknown known
  · obtain ⟨last, older, lookups⟩ := List.exists_cons_of_ne_nil asked
    unfold looksUp shouldRefreshEgress at asks
    rw [snapshot, lookups] at asks
    simp only [List.head?_cons, Bool.and_eq_true] at asks
    have refreshes := asks.2
    have waited : last + cooldown ≤ now := by
      split at refreshes
      · cases refreshes
      · split at refreshes
        · cases refreshes
        · omega
    intro time member
    have := le_head_of_descending recorded.descending (by rw [lookups, List.head?_cons]) time member
    omega

theorem spaced_polled_iff {clock now : Nat} {history : History} {answers : GatewayAnswers}
    (recorded : Recorded clock history) :
    Spaced (history.poll now answers) ↔ Spaced history ∧ Patient now history answers := by
  unfold Spaced History.poll
  dsimp only
  by_cases asks : looksUp now history answers = true
  · rw [if_pos asks, List.pairwise_cons, and_comm]
    apply and_congr_right
    intro _
    by_cases unknown : Addressless history
    · obtain ⟨answered, ready⟩ := (looksUp_addressless unknown).mp asks
      exact ⟨fun waited _ _ _ => waited, fun patient => patient unknown answered ready⟩
    · exact iff_of_true (waited_of_looksUp recorded unknown asks) fun absent => absurd absent unknown
  · rw [if_neg asks]
    refine (and_iff_left ?_).symm
    intro unknown answered ready
    exact absurd ((looksUp_addressless unknown).mpr ⟨answered, ready⟩) asks

/-- Two lookups for a gateway are five minutes apart exactly in the runs in which, as long as no address is stored, the
links come up only after the cooldown. -/
theorem egress_lookups_spaced_iff (gatewayId : Nat) {s t : State} (initial : Initial s)
    (reached : Reaches step (fun _ _ => True) s t) :
    Spaced (t.history gatewayId) ↔ Reaches step (fun s poll => ∀ answers, (gatewayId, answers) ∈ poll.gateways →
      Patient poll.now (s.history gatewayId) answers) s t := by
  refine Reaches.unrestricted_exact_iff (fun t => Spaced (t.history gatewayId)) reached ?_ ?_
  · rw [initial.history]
    exact .nil
  · intro s poll t before stepped
    have recorded := recorded_of_reaches initial before gatewayId
    obtain ⟨timed, -, ⟨absent, same⟩ | ⟨answers, polled, after⟩⟩ := step_cases stepped gatewayId
    · rw [same]
      exact (and_iff_left fun answers polled => absurd polled (absent answers)).symm
    · rw [after, spaced_polled_iff recorded]
      refine and_congr_right fun _ => ⟨fun patient other member => ?_, fun patient => patient answers polled⟩
      rw [answers_unique timed member polled]
      exact patient

def newGateways : State := ⟨0, fun _ => History.new⟩

theorem newGateways_initial : Initial newGateways := ⟨fun _ => rfl⟩

/-- Both links are up, and the agent cannot tell its address. -/
def unaddressed (polledAt : Nat) : GatewayAnswers where
  vmStatus := "Running"
  exitNodeConfigured := some (some true)
  wgUplink := some true
  tailscale := some true
  peersStored := true
  publicIp := none
  geo := fun _ => none
  polledAt := polledAt

/-- A poll of the gateway 1 at the time, in seconds. -/
def pollAt (seconds : Nat) (answers : Nat → GatewayAnswers) : Poll :=
  ⟨seconds * 1000000, [(1, answers (seconds * 1000000 + 1))], seconds * 1000000 + 2⟩

/-- Where no address was ever found, each poll asks again. -/
theorem lookups_repeat_without_address :
    ∃ s t, Initial s ∧ Reaches step (fun _ _ => True) s t ∧ ¬ Spaced (t.history 1) := by
  have ran : (Lib.run step (fun _ _ => true) newGateways [pollAt 60 unaddressed, pollAt 120 unaddressed]).any (fun t =>
      decide ((t.history 1).lookups = [120000000, 60000000])) = true := by decide +kernel
  obtain ⟨t, arrived, asked⟩ := Lib.exists_of_any ran
  have lookups := of_decide_eq_true asked
  have reached : Reaches step (fun _ _ => True) newGateways t := Lib.reaches_of_run (fun _ _ _ => trivial) arrived
  refine ⟨newGateways, t, newGateways_initial, reached, ?_⟩
  rw [Spaced, lookups]
  decide +kernel

theorem patient_lookups_spaced :
    ∃ t, (t.history 1).lookups = [400000000, 60000000] ∧ (Spaced (t.history 1) ↔
      Reaches step (fun s poll => ∀ answers, (1, answers) ∈ poll.gateways → Patient poll.now (s.history 1) answers)
        newGateways t) := by
  have ran : (Lib.run step (fun _ _ => true) newGateways [pollAt 60 unaddressed, pollAt 400 unaddressed]).any (fun t =>
      decide ((t.history 1).lookups = [400000000, 60000000])) = true := by decide +kernel
  obtain ⟨t, arrived, asked⟩ := Lib.exists_of_any ran
  have lookups := of_decide_eq_true asked
  have reached : Reaches step (fun _ _ => True) newGateways t := Lib.reaches_of_run (fun _ _ _ => trivial) arrived
  exact ⟨t, lookups, egress_lookups_spaced_iff 1 newGateways_initial reached⟩

/-! ### Changes of the links -/

/-- The states of the polls from the time on, the latest first. -/
def statesSince (time : Nat) (history : History) (state : InterfaceState) : List InterfaceState :=
  state :: (history.metrics.takeWhile fun metric => time ≤ metric.polledAt).map GatewayMetric.state

/-- Both links are online, the last lookup is old enough, and the links changed between two polls since. -/
structure ChangeDue (now : Nat) (history : History) (state : InterfaceState) : Prop where
  ready : pathwaysReady state = true
  change : ∃ last, history.lookups.head? = some last ∧ last + cooldown ≤ now ∧
    ∃ newer older, [newer, older] <:+: statesSince last history state ∧ newer ≠ older

theorem looksUp_addressed_iff {clock now last : Nat} {history : History} {answers : GatewayAnswers}
    (recorded : Recorded clock history) (known : ¬ Addressless history)
    (ready : pathwaysReady (readLinks (latestGatewayMetric history.metrics) answers).1 = true)
    (head : history.lookups.head? = some last) (waited : last + cooldown ≤ now) :
    looksUp now history answers = true ↔ answers.Answered ∧ ∃ previous, history.metrics.head? = some previous ∧
      previous.state ≠ (readLinks (latestGatewayMetric history.metrics) answers).1 := by
  rcases recorded.stored with ⟨unknown, -⟩ | ⟨newest, member, full, -, snapshot⟩
  · exact absurd unknown known
  · obtain ⟨previous, older, rows⟩ := List.exists_cons_of_ne_nil (List.ne_nil_of_mem member)
    have first : history.metrics.head? = some previous := by rw [rows, List.head?_cons]
    have latest : latestGatewayMetric history.metrics = some previous := by
      rw [argmax_of_descending recorded.ordered, first]
    have old : ¬ now < last + cooldown := by omega
    unfold looksUp shouldRefreshEgress
    rw [Bool.and_eq_true, readLinks_answered_iff, snapshot, head]
    rw [latest] at ready ⊢
    simp only [ready, old, full, first, interfaceStateChanged, Bool.not_true, Bool.false_eq_true, if_false,
      Option.map_some, Option.some.injEq, exists_eq_left', bne_iff_ne, ne_eq]

/-- When a change is due, the poll looks the address up exactly if every call was answered, and no address is stored yet
or its own links differ from those of the poll just before. -/
theorem due_change_looked_up_iff {gatewayId : Nat} {s t u : State} (initial : Initial s)
    (reached : Reaches step (fun _ _ => True) s t) {poll : Poll} (stepped : step t poll = some u)
    {answers : GatewayAnswers} (polled : (gatewayId, answers) ∈ poll.gateways)
    (due : ChangeDue poll.now (t.history gatewayId)
      (readLinks (latestGatewayMetric (t.history gatewayId).metrics) answers).1) :
    poll.now ∈ (u.history gatewayId).lookups ↔ answers.Answered ∧ (Addressless (t.history gatewayId) ∨
      ∃ previous, (t.history gatewayId).metrics.head? = some previous ∧
        previous.state ≠ (readLinks (latestGatewayMetric (t.history gatewayId).metrics) answers).1) := by
  have recorded := recorded_of_reaches initial reached gatewayId
  obtain ⟨timed, -, ⟨absent, -⟩ | ⟨other, member, after⟩⟩ := step_cases stepped gatewayId
  · exact absurd polled (absent answers)
  · obtain rfl := answers_unique timed polled member
    have new : poll.now ∉ (t.history gatewayId).lookups := by
      intro asked
      have := recorded.asked _ asked
      have := timed.later
      omega
    have looked : poll.now ∈ (u.history gatewayId).lookups ↔ looksUp poll.now (t.history gatewayId) answers = true := by
      rw [after, History.poll]
      dsimp only
      split
      · rename_i asks
        exact iff_of_true List.mem_cons_self asks
      · rename_i silent
        exact iff_of_false new silent
    obtain ⟨last, head, waited, -⟩ := due.change
    rw [looked]
    by_cases unknown : Addressless (t.history gatewayId)
    · rw [looksUp_addressless unknown]
      exact ⟨fun asks => ⟨asks.1, .inl unknown⟩, fun asks => ⟨asks.1, due.ready⟩⟩
    · rw [looksUp_addressed_iff recorded unknown due.ready head waited]
      exact and_congr_right fun _ => (or_iff_right unknown).symm

/-- The agent answers its address, with or without an exit node. -/
def addressed (exitNode : Bool) (polledAt : Nat) : GatewayAnswers :=
  { unaddressed polledAt with
    exitNodeConfigured := some (some exitNode)
    publicIp := some "203.0.113.7" }

def linksUp (exitNode : Bool) : InterfaceState := ⟨some true, some true, some exitNode⟩

/-- The exit node goes down a minute after the lookup and stays down, and that is never looked up. -/
theorem change_within_cooldown_lost :
    ∃ s t u poll answers, Initial s ∧ Reaches step (fun _ _ => True) s t ∧ step t poll = some u ∧
      (1, answers) ∈ poll.gateways ∧ ChangeDue poll.now (t.history 1)
        (readLinks (latestGatewayMetric (t.history 1).metrics) answers).1 ∧ poll.now ∉ (u.history 1).lookups := by
  have ran : (Lib.run step (fun _ _ => true) newGateways [pollAt 60 (addressed true), pollAt 120 (addressed false)]).any
      (fun t => (step t (pollAt 400 (addressed false))).any fun u =>
        decide ((t.history 1).lookups.head? = some 60000000 ∧ (u.history 1).lookups = [60000000] ∧
          statesSince 60000000 (t.history 1) (linksUp false) = [linksUp false, linksUp false, linksUp true])) = true := by
    decide +kernel
  obtain ⟨t, arrived, rest⟩ := Lib.exists_of_any ran
  obtain ⟨u, stepped, facts⟩ := Lib.exists_of_any rest
  obtain ⟨head, silent, states⟩ := of_decide_eq_true facts
  have reached : Reaches step (fun _ _ => True) newGateways t := Lib.reaches_of_run (fun _ _ _ => trivial) arrived
  refine ⟨newGateways, t, u, _, _, newGateways_initial, reached, stepped, List.mem_singleton.mpr rfl, ⟨rfl, ?_⟩, ?_⟩
  · refine ⟨60000000, head, by decide, linksUp false, linksUp true, ?_, by decide⟩
    have seen : statesSince 60000000 (t.history 1) (linksUp false) = [linksUp false] ++ [linksUp false, linksUp true] :=
      states
    exact ⟨[linksUp false], [], by rw [List.append_nil]; exact seen.symm⟩
  · have absent : (400000000 : Nat) ∉ [60000000] := by decide
    rw [← silent] at absent
    exact absent

theorem change_after_cooldown_looked_up :
    ∃ t u poll answers, step t poll = some u ∧ (1, answers) ∈ poll.gateways ∧ poll.now ∈ (u.history 1).lookups := by
  have ran : (Lib.run step (fun _ _ => true) newGateways [pollAt 60 (addressed true)]).any
      (fun t => (step t (pollAt 400 (addressed false))).any fun _ =>
        decide ((t.history 1).lookups.head? = some 60000000 ∧
          statesSince 60000000 (t.history 1) (linksUp false) = [linksUp false, linksUp true] ∧
          (t.history 1).metrics.head?.map GatewayMetric.state = some (linksUp true))) = true := by
    decide +kernel
  obtain ⟨t, arrived, rest⟩ := Lib.exists_of_any ran
  obtain ⟨u, stepped, facts⟩ := Lib.exists_of_any rest
  obtain ⟨head, states, previous⟩ := of_decide_eq_true facts
  obtain ⟨row, first, state⟩ := Option.map_eq_some_iff.mp previous
  have reached : Reaches step (fun _ _ => True) newGateways t := Lib.reaches_of_run (fun _ _ _ => trivial) arrived
  have polled : (1, addressed false 400000001) ∈ (pollAt 400 (addressed false)).gateways := List.mem_singleton.mpr rfl
  have due : ChangeDue 400000000 (t.history 1) (linksUp false) := by
    refine ⟨rfl, 60000000, head, by decide, linksUp false, linksUp true, ?_, by decide⟩
    exact ⟨[], [], by rw [List.append_nil]; exact states.symm⟩
  have different : row.state ≠ linksUp false := by
    rw [state]
    decide
  exact ⟨t, u, _, _, stepped, polled, (due_change_looked_up_iff newGateways_initial reached stepped polled due).mpr
    ⟨⟨rfl, rfl, rfl, rfl⟩, .inr ⟨row, first, different⟩⟩⟩

end DeepOrc.Metrics
