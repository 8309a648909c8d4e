import DeepOrc.Lib.PolicyEdits
import DeepOrc.Routing.Leaks

/-!
# The rules the script owns

After a run the rules at the script's preferences should follow from its settings and the address of tailscale0 alone.
The rule for that address is only replaced while there is an address.
-/

namespace DeepOrc.Routing

open Lib.PolicyRouting
open Selector (toNetwork fromHost onIif)

/-- The preferences the script adds rules at, and those it only clears. -/
def ownedPrefs : List Nat := [35, 40, 45, 48, 49, 50, 57, 59] ++ stalePrefs

def ownedRules (policy : Policy Dev) : List (Rule Dev) := (policy.only ownedPrefs.contains).rules

/-- What should be there, with the address of tailscale0 if it has one. -/
def settledRules (env : Env) (ts : Option Nat) : List (Rule Dev) :=
  [⟨35, toNetwork env.wgSubnet, lookup mainTable⟩, ⟨40, fromHost env.wgGw, lookup mainTable⟩] ++
    ts.toList.map (fun ip => ⟨45, fromHost ip, lookup wanTable⟩) ++
    [⟨48, toNetwork tailnet, lookup mainTable⟩, ⟨49, onIif tsIf, lookup mainTable⟩,
      ⟨50, fromHost env.vmIp, lookup wanTable⟩, ⟨57, toNetwork ⟨magicDns, 32⟩, lookup mainTable⟩,
      ⟨59, onIif uplinkIf, lookup mainTable⟩]

/-- The rule of an earlier version that the clean-up deletes wherever it is. -/
def isLegacy (rule : Rule Dev) : Bool := rule.selector.iif = some tsIf && looksUp staleTable rule.action

def Progress.finishes : Progress → Bool
  | .stopped | .down _ => false
  | .missing _ | .uplinked _ => true

/-- The script gets as far as its rules. -/
def finishes (env : Env) (calls : Calls) (s : Router) : Bool :=
  (progressWith env calls s (wanGw env (prepared env s).tables)).finishes

variable {env : Env} {calls : Calls} {s : Router}

theorem apply_policy_of_finishes (finished : finishes env calls s = true) :
    (apply env calls s).policy = (policyRules env s).foldl Policy.put (staying s) := by
  rw [apply_eq, apply_policy]
  unfold finishes at finished
  cases course : progressWith env calls s (wanGw env (prepared env s).tables) with
  | stopped | down => simp [course, Progress.finishes] at finished
  | missing | uplinked => rfl

theorem apply_policy_of_not_finishes (stopped : finishes env calls s = false) : (apply env calls s).policy = staying s := by
  rw [apply_eq, apply_policy]
  unfold finishes at stopped
  cases course : progressWith env calls s (wanGw env (prepared env s).tables) with
  | stopped | down => rfl
  | missing | uplinked => simp [course, Progress.finishes] at stopped

/-- What the clean-up leaves at owned preferences that no new rule takes. -/
def leftover (env : Env) (s : Router) : Policy Dev :=
  ((staying s).only ownedPrefs.contains).only fun pref => pref ∉ (policyRules env s).map Rule.pref

theorem ownedRules_of_finishes (finished : finishes env calls s = true) :
    ownedRules (apply env calls s).policy = ((policyRules env s).foldl Policy.put (leftover env s)).rules := by
  have owned : (policyRules env s).filter (fun rule => ownedPrefs.contains rule.pref) = policyRules env s := by
    apply List.filter_eq_self.mpr
    intro rule member
    rcases mem_policyRules.mp member with rfl | rfl | ⟨ip, -, rfl⟩ | rfl | rfl | rfl | rfl | rfl <;> rfl
  rw [ownedRules, apply_policy_of_finishes finished, Policy.only_foldl_put, owned, Policy.foldl_put_only]
  rfl

/-- Where nothing is left over, the rules are what they should be. -/
theorem foldl_put_nil (env : Env) (s : Router) :
    ((policyRules env s).foldl Policy.put ⟨[], .nil⟩).rules = settledRules env (tsIp s) := by
  unfold policyRules settledRules
  cases tsIp s with
  | none => simp [Policy.put_eq, Policy.add, Policy.only, Policy.filter]
  | some ip => simp [Policy.put_eq, Policy.add, Policy.only, Policy.filter]

theorem prefs_of_none (absent : tsIp s = none) :
    (policyRules env s).map Rule.pref = [35, 40, 48, 50, 49, 57, 59] := by
  simp [policyRules, absent]

theorem prefs_of_some {ip : Nat} (present : tsIp s = some ip) :
    (policyRules env s).map Rule.pref = [35, 40, 45, 48, 50, 49, 57, 59] := by
  simp [policyRules, present]

/-- Left over are the rules at the preference for the address, where there is none. -/
theorem mem_leftover {rule : Rule Dev} : rule ∈ (leftover env s).rules ↔
    tsIp s = none ∧ rule ∈ s.policy.rules ∧ rule.pref = 45 ∧ isLegacy rule = false := by
  have unfolded : rule ∈ (leftover env s).rules ↔ ((rule ∈ s.policy.rules ∧ (!stalePrefs.contains rule.pref &&
      !isLegacy rule && !(tsIp s).any fun ip => rule.selector.source = some ⟨ip, 32⟩ && looksUp mainTable rule.action) =
        true) ∧ ownedPrefs.contains rule.pref = true) ∧ rule.pref ∉ (policyRules env s).map Rule.pref := by
    simp only [leftover, staying, Policy.only, Policy.filter, List.mem_filter, isLegacy, decide_eq_true_eq]
  rw [unfolded]
  cases address : tsIp s with
  | none =>
      rw [prefs_of_none address]
      simp only [stalePrefs, ownedPrefs, List.contains_eq_mem, List.mem_append, List.mem_cons, List.not_mem_nil, or_false,
        Option.any_none, Bool.not_false, Bool.and_true, Bool.and_eq_true, Bool.not_eq_true', decide_eq_true_eq,
        decide_eq_false_iff_not, true_and]
      constructor
      · rintro ⟨⟨⟨member, fresh, current⟩, owned⟩, untaken⟩
        exact ⟨member, by omega, current⟩
      · rintro ⟨member, pref, current⟩
        exact ⟨⟨⟨member, by omega, current⟩, by omega⟩, by omega⟩
  | some ip =>
      rw [prefs_of_some address]
      simp only [stalePrefs, ownedPrefs, List.contains_eq_mem, List.mem_append, List.mem_cons, List.not_mem_nil, or_false,
        Bool.and_eq_true, Bool.not_eq_true', decide_eq_true_eq, decide_eq_false_iff_not, reduceCtorEq, false_and, iff_false]
      rintro ⟨⟨⟨-, ⟨fresh, -⟩, -⟩, owned⟩, untaken⟩
      omega

/-- What is left over stays. -/
theorem leftover_subset {rule : Rule Dev} (left : rule ∈ (leftover env s).rules) :
    rule ∈ ((policyRules env s).foldl Policy.put (leftover env s)).rules := by
  have kept (rules : List (Rule Dev)) (policy : Policy Dev) (member : rule ∈ policy.rules)
      (apart : rule.pref ∉ rules.map Rule.pref) : rule ∈ (rules.foldl Policy.put policy).rules := by
    induction rules generalizing policy with
    | nil => exact member
    | cons first rules ih =>
        rw [List.map_cons, List.mem_cons, not_or] at apart
        refine ih (policy.put first) ?_ apart.2
        rw [Policy.put_eq, Policy.mem_add]
        exact .inr (List.mem_filter.mpr ⟨member, by simpa using apart.1⟩)
  apply kept _ _ left
  obtain ⟨absent, -, pref, -⟩ := mem_leftover.mp left
  rw [prefs_of_none absent, pref]
  decide

theorem settledRules_none {rule : Rule Dev} (member : rule ∈ settledRules env none) : rule.pref ≠ 45 := by
  simp only [settledRules, Option.toList_none, List.map_nil, List.append_nil, List.cons_append, List.nil_append,
    List.mem_cons, List.not_mem_nil, or_false] at member
  rcases member with rfl | rfl | rfl | rfl | rfl | rfl | rfl <;> simp

/-- A finished run leaves the right rules exactly where nothing is left over. -/
theorem ownedRules_eq_iff (finished : finishes env calls s = true) :
    ownedRules (apply env calls s).policy = settledRules env (tsIp s) ↔ (leftover env s).rules = [] := by
  rw [ownedRules_of_finishes finished]
  constructor
  · intro same
    rw [List.eq_nil_iff_forall_not_mem]
    intro rule left
    have member := leftover_subset left
    obtain ⟨absent, -, pref, -⟩ := mem_leftover.mp left
    rw [same, absent] at member
    exact settledRules_none member pref
  · intro nothing
    have empty : leftover env s = ⟨[], .nil⟩ := Policy.ext nothing
    rw [empty, foldl_put_nil]

theorem leftover_eq_nil_iff : (leftover env s).rules = [] ↔
    tsIp s ≠ none ∨ ∀ rule ∈ s.policy.rules, rule.pref = 45 → isLegacy rule = true := by
  rw [List.eq_nil_iff_forall_not_mem]
  simp only [mem_leftover]
  constructor
  · intro nothing
    by_cases absent : tsIp s = none
    · refine .inr fun rule member pref => ?_
      by_contra current
      exact nothing rule ⟨absent, member, pref, by simpa using current⟩
    · exact .inl absent
  · rintro (present | legacy) rule ⟨absent, member, pref, current⟩
    · exact present absent
    · rw [legacy rule member pref] at current
      cases current

/-- The rules follow from the settings and the address exactly if tailscale0 has an address or no rule was at the
preference for it; a script that stops leaves the right rules only where the clean-up left them. -/
theorem ownedRules_apply_iff (env : Env) (calls : Calls) (s : Router) :
    ownedRules (apply env calls s).policy = settledRules env (tsIp s) ↔
      if finishes env calls s then tsIp s ≠ none ∨ ∀ rule ∈ s.policy.rules, rule.pref = 45 → isLegacy rule = true
      else ownedRules (staying s) = settledRules env (tsIp s) := by
  cases finished : finishes env calls s with
  | false =>
      rw [apply_policy_of_not_finishes finished]
      simp
  | true => rw [ownedRules_eq_iff finished, if_pos rfl, leftover_eq_nil_iff]

/-- Where tailscale0 has an address, applying again changes no owned rule. -/
theorem ownedRules_apply_apply {later : Calls} (present : tsIp s ≠ none) (finished : finishes env calls s = true)
    (again : finishes env later (apply env calls s) = true) :
    ownedRules (apply env later (apply env calls s)).policy = ownedRules (apply env calls s).policy := by
  have address : tsIp (apply env calls s) = tsIp s := by
    rw [apply_eq, tsIp, (apply_links env calls s _).2]
    rfl
  have first := (ownedRules_eq_iff finished).mpr (leftover_eq_nil_iff.mpr (.inl present))
  have second := (ownedRules_eq_iff again).mpr (leftover_eq_nil_iff.mpr (.inl (by rw [address]; exact present)))
  rw [first, second, address]

/-- After tailscaled stopped: tailscale0 has no address, the rule for its last one is there. -/
def disconnected (policy : Policy Dev) : Router := { booted with tailscale0 := some ⟨true, []⟩, policy }

/-- The rule for the address 100.64.0.5 outlives it. -/
theorem earlier_address_remains : ¬ ∀ (env : Env) (calls : Calls) (s t : Router), tsIp s = tsIp t →
    finishes env calls s = true → finishes env calls t = true →
      ownedRules (apply env calls s).policy = ownedRules (apply env calls t).policy := by
  intro independent
  have same := independent defaultEnv noNames (disconnected kernelPolicy)
    (disconnected (kernelPolicy.add ⟨45, fromHost 1681915909, lookup wanTable⟩)) rfl (by decide +kernel) (by decide +kernel)
  revert same
  decide +kernel

end DeepOrc.Routing
