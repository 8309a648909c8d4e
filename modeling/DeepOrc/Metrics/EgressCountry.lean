import DeepOrc.Metrics.EgressCooldown

/-!
# The country of the public address

A refresh that finds an address but no country for it keeps the country it had, which may be another address's.
-/

namespace DeepOrc.Metrics

open Lib (Reaches)
open Lib.Text (orText orText_some truthy truthy_some)

/-- The country was found for this address. -/
def Paired (history : History) (ip country : Option String) : Prop :=
  ∀ code, country = some code → ∃ address, ip = some address ∧ (address, code) ∈ history.countries

def RowsPaired (history : History) : Prop :=
  ∀ metric ∈ history.metrics, Paired history metric.egressPublicIp metric.egressCountryCode

/-- A country is looked up for the address that is asked, or not found. -/
def GatewayAnswers.GeoExact (answers : GatewayAnswers) : Prop := ∀ address geo, answers.geo address = some geo → geo.ip = address

/-- An address looked up without its country was, if a country is stored, found in that country before. -/
def CountryKnown (now : Nat) (history : History) (answers : GatewayAnswers) : Prop :=
  looksUp now history answers = true → answers.address ≠ "" → answers.geo answers.address = none →
    Paired history (some answers.address) (storedSnapshot history.metrics).countryCode

theorem paired_mono {history after : History} {ip country : Option String} (paired : Paired history ip country)
    (grows : ∀ entry ∈ history.countries, entry ∈ after.countries) : Paired after ip country := by
  intro code present
  obtain ⟨address, known, found⟩ := paired code present
  exact ⟨address, known, grows _ found⟩

theorem paired_blank (history : History) : Paired history EgressSnapshot.blank.publicIp EgressSnapshot.blank.countryCode := by
  intro code present
  cases present

theorem paired_fromMetric {history : History} {metric : Option GatewayMetric}
    (paired : ∀ row, metric = some row → Paired history row.egressPublicIp row.egressCountryCode) :
    Paired history (egressSnapshotFromMetric metric).publicIp (egressSnapshotFromMetric metric).countryCode := by
  unfold egressSnapshotFromMetric
  split
  · exact paired_blank history
  · rename_i row
    split
    · exact paired row rfl
    · exact paired_blank history

theorem RowsPaired.stored {history : History} (paired : RowsPaired history) :
    Paired history (storedSnapshot history.metrics).publicIp (storedSnapshot history.metrics).countryCode := by
  unfold storedSnapshot
  dsimp only
  split
  · apply paired_fromMetric
    intro row found
    exact paired row (List.mem_filter.mp (List.argmax_mem found)).1
  · apply paired_fromMetric
    intro row found
    exact paired row (List.argmax_mem found)

theorem RowsPaired.polled_iff {history after : History} {row : GatewayMetric} (paired : RowsPaired history)
    (metrics : after.metrics = row :: history.metrics) (grows : ∀ entry ∈ history.countries, entry ∈ after.countries) :
    RowsPaired after ↔ Paired after row.egressPublicIp row.egressCountryCode := by
  unfold RowsPaired
  rw [metrics]
  constructor
  · intro rows
    exact rows row List.mem_cons_self
  · intro new metric member
    rcases List.mem_cons.mp member with same | older
    · rw [same]
      exact new
    · exact paired_mono (paired metric older) grows

theorem countries_polled {now : Nat} {history : History} {answers : GatewayAnswers} :
    ∀ entry ∈ history.countries, entry ∈ (history.poll now answers).countries := by
  intro entry member
  unfold History.poll
  dsimp only
  split
  · split
    · exact List.mem_cons_of_mem _ member
    · exact member
  · exact member

theorem egressGeoFromAgent_cases {answers : GatewayAnswers} (snapshot : EgressSnapshot) (found : answers.address ≠ "") :
    (snapshot.publicIp = some answers.address ∧ truthy snapshot.countryCode = true ∧
        egressGeoFromAgent answers snapshot = ⟨some answers.address, snapshot.countryCode, none⟩ ∧
          answers.geoLookup snapshot = none) ∨
      (∃ geo, answers.geo answers.address = some geo ∧
        egressGeoFromAgent answers snapshot = ⟨some geo.ip, some geo.countryCode, none⟩ ∧
          answers.geoLookup snapshot = some geo) ∨
      answers.geo answers.address = none ∧ egressGeoFromAgent answers snapshot = ⟨some answers.address, none, none⟩ ∧
        answers.geoLookup snapshot = none := by
  have full : answers.address.isEmpty = false := by simpa using found
  unfold egressGeoFromAgent GatewayAnswers.geoLookup
  rw [full]
  cases same : (some answers.address == snapshot.publicIp && truthy snapshot.countryCode) with
  | true =>
      obtain ⟨ip, coded⟩ := (Bool.and_eq_true _ _).mp same
      exact .inl ⟨(beq_iff_eq.mp ip).symm, coded, rfl, rfl⟩
  | false =>
      cases lookup : answers.geo answers.address with
      | none => exact .inr (.inr ⟨rfl, rfl, rfl⟩)
      | some geo => exact .inr (.inl ⟨geo, rfl, rfl, rfl⟩)

theorem mergeEgress_found {snapshot refreshed : EgressSnapshot} {address : String} (now : Nat)
    (ip : refreshed.publicIp = some address) (full : address ≠ "") :
    mergeEgress snapshot refreshed true now =
      ⟨some address, orText refreshed.countryCode snapshot.countryCode, some now⟩ := by
  unfold mergeEgress
  rw [ip, if_pos (truthy_some full)]

/-- What a lookup that found an address stores is paired unless it kept another address's country. -/
theorem refreshed_paired_iff {now : Nat} {history : History} {answers : GatewayAnswers} {snapshot : EgressSnapshot}
    (exact_ : answers.GeoExact) (paired : RowsPaired history) (asks : looksUp now history answers = true)
    (found : answers.address ≠ "") (merged : snapshot = mergeEgress (storedSnapshot history.metrics)
      (egressGeoFromAgent answers (storedSnapshot history.metrics)) true now) :
    Paired (history.poll now answers) snapshot.publicIp snapshot.countryCode ↔
      (answers.geo answers.address = none →
        Paired history (some answers.address) (storedSnapshot history.metrics).countryCode) := by
  have stored := paired.stored
  rcases egressGeoFromAgent_cases (storedSnapshot history.metrics) found with
    ⟨same, -, refreshed, -⟩ | ⟨geo, located, refreshed, lookup⟩ | ⟨missing, refreshed, lookup⟩
  · rw [same] at stored
    rw [merged, refreshed, mergeEgress_found now rfl found]
    dsimp only
    rw [Lib.Text.orText_self]
    exact iff_of_true (paired_mono stored countries_polled) fun _ => stored
  · rw [exact_ _ _ located] at refreshed
    rw [merged, refreshed, mergeEgress_found now rfl found]
    refine iff_of_true ?_ fun missing => by simp [missing] at located
    dsimp only
    rw [orText_some geo.located]
    intro code present
    cases present
    refine ⟨answers.address, rfl, ?_⟩
    simp [History.poll, asks, lookup]
  · rw [merged, refreshed, mergeEgress_found now rfl found]
    have unchanged : (history.poll now answers).countries = history.countries := by simp [History.poll, asks, lookup]
    have kept : orText none (storedSnapshot history.metrics).countryCode = (storedSnapshot history.metrics).countryCode :=
      rfl
    dsimp only
    rw [kept]
    unfold Paired
    rw [unchanged]
    exact ⟨fun rows _ => rows, fun known => known missing⟩

theorem rowsPaired_polled_iff {now : Nat} {history : History} {answers : GatewayAnswers} (exact_ : answers.GeoExact)
    (paired : RowsPaired history) :
    RowsPaired (history.poll now answers) ↔ CountryKnown now history answers := by
  have metrics : (history.poll now answers).metrics = collectGateway now history answers :: history.metrics := rfl
  rw [paired.polled_iff metrics countries_polled]
  cases asks : looksUp now history answers with
  | false =>
      obtain ⟨snapshot, source, row⟩ := collectGateway_silent asks
      refine iff_of_true ?_ fun asked => absurd asked (by simp [asks])
      rw [row]
      rcases source with blank | stored
      · rw [blank]
        exact paired_blank _
      · rw [stored]
        exact paired_mono paired.stored countries_polled
  | true =>
      obtain ⟨snapshot, merged, row⟩ := collectGateway_asked asks
      rw [row]
      by_cases found : answers.address = ""
      · refine iff_of_true ?_ fun _ address => absurd found address
        have kept : snapshot.publicIp = (storedSnapshot history.metrics).publicIp ∧
            snapshot.countryCode = (storedSnapshot history.metrics).countryCode := by
          rw [merged]
          simp [mergeEgress, egressGeoFromAgent, found, EgressSnapshot.blank, truthy]
        dsimp only
        rw [kept.1, kept.2]
        exact paired_mono paired.stored countries_polled
      · rw [refreshed_paired_iff exact_ paired asks found merged]
        exact ⟨fun known _ _ => known, fun known => known asks found⟩

/-- Every stored country was found for its address exactly along the runs in which an address looked up without its
country was, if a country is stored, found in that country before. -/
theorem egress_countries_paired_iff (gatewayId : Nat) {s t : State} (initial : Initial s) :
    Lib.Stays step (fun _ poll => ∀ entry ∈ poll.gateways, entry.2.GeoExact) (fun t => RowsPaired (t.history gatewayId))
        s t ↔
      Reaches step (fun s poll => (∀ entry ∈ poll.gateways, entry.2.GeoExact) ∧
        ∀ answers, (gatewayId, answers) ∈ poll.gateways → CountryKnown poll.now (s.history gatewayId) answers) s t := by
  apply Lib.Stays.iff_reaches
  · intro metric member
    rw [initial.history] at member
    cases member
  · intro s poll t _ paired exact_ stepped
    obtain ⟨timed, -, ⟨absent, same⟩ | ⟨answers, polled, after⟩⟩ := step_cases stepped gatewayId
    · rw [same]
      exact iff_of_true paired fun answers polled => absurd polled (absent answers)
    · rw [after, rowsPaired_polled_iff (exact_ _ polled) paired]
      refine ⟨fun known other member => ?_, fun known => known answers polled⟩
      rw [answers_unique timed member polled]
      exact known

/-- The agent's address, and its country if the services find one. -/
def answering (ip : String) (found : Option GeoResult) (exitNode : Bool) (polledAt : Nat) : GatewayAnswers :=
  { unaddressed polledAt with
    exitNodeConfigured := some (some exitNode)
    publicIp := some ip
    geo := fun address => found.filter fun geo => geo.ip = address }

def italian : GeoResult := ⟨"203.0.113.7", "IT", by decide⟩

theorem answering_geoExact (ip : String) (found : Option GeoResult) (exitNode : Bool) (polledAt : Nat) :
    (answering ip found exitNode polledAt).GeoExact := by
  intro address geo answered
  obtain ⟨-, same⟩ := Option.filter_eq_some_iff.mp answered
  exact of_decide_eq_true same

theorem pollAt_geoExact {answers : Nat → GatewayAnswers} (exact_ : ∀ polledAt, (answers polledAt).GeoExact) (seconds : Nat) :
    ∀ entry ∈ (pollAt seconds answers).gateways, entry.2.GeoExact := by
  intro entry member
  rw [List.mem_singleton.mp member]
  exact exact_ _

/-- The exit node moves to an address that the services do not know, and its row keeps the old country. -/
theorem country_kept_for_new_address :
    ∃ s t row, Initial s ∧ Reaches step (fun _ poll => ∀ entry ∈ poll.gateways, entry.2.GeoExact) s t ∧
      row ∈ (t.history 1).metrics ∧ ¬ Paired (t.history 1) row.egressPublicIp row.egressCountryCode := by
  have ran : (step newGateways (pollAt 60 (answering "203.0.113.7" (some italian) true))).any (fun middle =>
      (step middle (pollAt 400 (answering "198.51.100.9" none false))).any fun t =>
        (t.history 1).metrics.any (fun row =>
          decide (row.egressPublicIp = some "198.51.100.9" ∧ row.egressCountryCode = some "IT")) &&
        decide ((t.history 1).countries = [("203.0.113.7", "IT")])) = true := by decide +kernel
  obtain ⟨middle, first, rest⟩ := Lib.exists_of_any ran
  obtain ⟨t, second, facts⟩ := Lib.exists_of_any rest
  obtain ⟨shown, looked⟩ := (Bool.and_eq_true _ _).mp facts
  obtain ⟨row, member, fields⟩ := List.any_eq_true.mp shown
  obtain ⟨ip, country⟩ := of_decide_eq_true fields
  have countries := of_decide_eq_true looked
  have italy := pollAt_geoExact (answering_geoExact "203.0.113.7" (some italian) true) 60
  have unknown := pollAt_geoExact (answering_geoExact "198.51.100.9" none false) 400
  have reached : Reaches step (fun _ poll => ∀ entry ∈ poll.gateways, entry.2.GeoExact) newGateways t :=
    Reaches.tail (Reaches.tail .refl italy first) unknown second
  refine ⟨newGateways, t, row, newGateways_initial, reached, member, ?_⟩
  intro paired
  obtain ⟨address, same, found⟩ := paired "IT" country
  rw [ip] at same
  cases same
  rw [countries] at found
  revert found
  decide

theorem located_country_paired :
    ∃ t, (t.history 1).countries = [("203.0.113.7", "IT")] ∧
      Lib.Stays step (fun _ poll => ∀ entry ∈ poll.gateways, entry.2.GeoExact) (fun t => RowsPaired (t.history 1))
        newGateways t := by
  have ran : (step newGateways (pollAt 60 (answering "203.0.113.7" (some italian) true))).any (fun t =>
      decide ((t.history 1).countries = [("203.0.113.7", "IT")])) = true := by decide +kernel
  obtain ⟨t, stepped, looked⟩ := Lib.exists_of_any ran
  have italy := pollAt_geoExact (answering_geoExact "203.0.113.7" (some italian) true) 60
  have known : ∀ answers, (1, answers) ∈ (pollAt 60 (answering "203.0.113.7" (some italian) true)).gateways →
      CountryKnown 60000000 (newGateways.history 1) answers := by
    intro answers member _ _ missing
    have same := congrArg Prod.snd (List.mem_singleton.mp member)
    dsimp only at same
    rw [same] at missing
    have located : ((answering "203.0.113.7" (some italian) true 60000001).geo "203.0.113.7").isSome = true := by decide
    have address : (answering "203.0.113.7" (some italian) true 60000001).address = "203.0.113.7" := by decide +kernel
    change (answering "203.0.113.7" (some italian) true 60000001).geo
      (answering "203.0.113.7" (some italian) true 60000001).address = none at missing
    rw [address] at missing
    rw [missing] at located
    cases located
  exact ⟨t, of_decide_eq_true looked,
    (egress_countries_paired_iff 1 newGateways_initial).mpr (Reaches.tail .refl ⟨italy, known⟩ stepped)⟩

end DeepOrc.Metrics
