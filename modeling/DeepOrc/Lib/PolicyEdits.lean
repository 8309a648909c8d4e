import DeepOrc.Lib.PolicyRouting

/-!
# Adding and deleting rules one at a time

Rules of different preferences may be added in any order, and a rule is deleted without regard to rules that the
deletion is not for.
-/

namespace DeepOrc.Lib.PolicyRouting

variable {δ : Type*}

section List

variable {α : Type*} {wanted : α → Bool} {list : List α}

/-- Where at most one item is wanted, taking away the first takes away all. -/
theorem eraseP_eq_filter (once : list.countP wanted ≤ 1) : list.eraseP wanted = list.filter fun item => !wanted item := by
  have left : ∀ item ∈ list.eraseP wanted, (!wanted item) = true := by
    intro item member
    by_contra wants
    have fits : wanted item = true := by simpa using wants
    have positive : 0 < (list.eraseP wanted).countP wanted := List.countP_pos_iff.mpr ⟨item, member, fits⟩
    obtain ⟨first, earlier, later, unwanted, wants, split, erased⟩ :=
      List.exists_of_eraseP (List.mem_of_mem_eraseP member) fits
    rw [erased, List.countP_append] at positive
    rw [split, List.countP_append, List.countP_cons_of_pos wants] at once
    omega
  rw [← eraseP_filter wanted list]
  exact (List.filter_eq_self.mpr left).symm

theorem countP_eraseP_le (counted : α → Bool) : (list.eraseP wanted).countP counted ≤ list.countP counted :=
  List.Sublist.countP_le List.eraseP_sublist

/-- One after the other, where each takes away at most one item. -/
theorem foldl_eraseP_eq_filter (deletions : List (α → Bool)) (list : List α)
    (once : ∀ deletion ∈ deletions, list.countP deletion ≤ 1) :
    deletions.foldl (fun list deletion => list.eraseP deletion) list =
      list.filter fun item => deletions.all fun deletion => !deletion item := by
  induction deletions generalizing list with
  | nil => simp
  | cons deletion deletions rest =>
      rw [List.foldl_cons, rest]
      · rw [eraseP_eq_filter (once deletion List.mem_cons_self), List.filter_filter]
        apply List.filter_congr
        intro item _
        rw [List.all_cons, Bool.and_comm]
      · intro other member
        exact Nat.le_trans (countP_eraseP_le other) (once other (List.mem_cons_of_mem _ member))

end List

namespace Policy

variable {policy : Policy δ} {rule other : Rule δ} {wanted : Rule δ → Bool}

/-- Of what was there before, only the other preferences matter. -/
theorem foldl_put_only (rules : List (Rule δ)) (policy : Policy δ) :
    rules.foldl put policy = rules.foldl put (policy.only fun pref => pref ∉ rules.map Rule.pref) := by
  induction rules generalizing policy with
  | nil =>
      refine (ext ?_).symm
      exact List.filter_eq_self.mpr fun other _ => by simp
  | cons rule rules ih =>
      have same : (policy.put rule).only (fun pref => pref ∉ rules.map Rule.pref) =
          ((policy.only fun pref => pref ∉ (rule :: rules).map Rule.pref).put rule).only
            (fun pref => pref ∉ rules.map Rule.pref) := by
        rw [only_put, only_put, only_only]
        split
        · rw [put_eq, put_eq, only_only, only_only]
          congr 1
          apply only_congr
          intro pref
          by_cases here : pref = rule.pref <;> simp [here]
        · rename_i repeated
          apply only_congr
          intro pref
          by_cases here : pref = rule.pref
          · simpa [here] using repeated
          · simp [here]
      rw [List.foldl_cons, List.foldl_cons, ih, same, ← ih]

theorem delete_eq_self (unwanted : ∀ rule ∈ policy.rules, wanted rule = false) : policy.delete wanted = policy :=
  ext (List.eraseP_of_forall_not fun rule member => by simp [unwanted rule member])

theorem delete_add_self (unwanted : ∀ other ∈ policy.rules, wanted other = false) (wants : wanted rule = true) :
    (policy.add rule).delete wanted = policy := by
  apply ext
  change ((policy.add rule).rules).eraseP wanted = policy.rules
  have before : ∀ other ∈ (policy.only (· ≤ rule.pref)).rules, ¬ wanted other = true := by
    intro other member
    simp [unwanted other (List.mem_filter.mp member).1]
  rw [add_rules, List.eraseP_append_right _ before, List.eraseP_cons_of_pos wants, ← rules_eq_append _ le_down]

theorem exists_split (policy : Policy δ) (pref : Nat) : ∃ low high, policy.rules = low ++ high ∧
    (∀ rule ∈ low, rule.pref ≤ pref) ∧ ∀ rule ∈ high, pref < rule.pref := by
  have down : ∀ low high, low ≤ high → decide (high ≤ pref) = true → decide (low ≤ pref) = true :=
    fun low high => le_down low high
  refine ⟨_, _, policy.rules_eq_append down, ?_, ?_⟩
  · intro rule member
    simpa using (List.mem_filter.mp member).2
  · intro rule member
    simpa using (List.mem_filter.mp member).2

theorem add_rules_of_split {low high : List (Rule δ)} (split : policy.rules = low ++ high)
    (below : ∀ other ∈ low, other.pref ≤ rule.pref) (above : ∀ other ∈ high, rule.pref < other.pref) :
    (policy.add rule).rules = low ++ rule :: high := by
  have kept : policy.rules.filter (fun other => other.pref ≤ rule.pref) = low := by
    rw [split, List.filter_append, List.filter_eq_self.mpr, List.filter_eq_nil_iff.mpr, List.append_nil]
    · intro other member
      simpa using above other member
    · intro other member
      simpa using below other member
  have later : policy.rules.filter (fun other => rule.pref < other.pref) = high := by
    rw [split, List.filter_append, List.filter_eq_nil_iff.mpr, List.filter_eq_self.mpr, List.nil_append]
    · intro other member
      simpa using above other member
    · intro other member
      simpa using below other member
  change _ ++ rule :: _ = _
  rw [kept, later]

theorem mem_add : other ∈ (policy.add rule).rules ↔ other = rule ∨ other ∈ policy.rules := by
  obtain ⟨low, high, split, below, above⟩ := policy.exists_split rule.pref
  rw [add_rules_of_split split below above, split, List.mem_append, List.mem_cons, List.mem_append]
  tauto

theorem delete_add_of_not (unwanted : wanted rule = false) :
    (policy.add rule).delete wanted = (policy.delete wanted).add rule := by
  obtain ⟨low, high, split, below, above⟩ := policy.exists_split rule.pref
  apply ext
  change (policy.add rule).rules.eraseP wanted = _
  have left : (policy.delete wanted).rules = (low ++ high).eraseP wanted := by
    rw [← split]
    rfl
  rw [List.eraseP_append] at left
  rw [add_rules_of_split split below above, List.eraseP_append]
  split at left
  · rename_i early
    rw [if_pos early]
    refine (add_rules_of_split left ?_ above).symm
    intro other member
    exact below other (List.mem_of_mem_eraseP member)
  · rename_i late
    rw [if_neg late, List.eraseP_cons_of_neg (by simp [unwanted])]
    refine (add_rules_of_split left below ?_).symm
    intro other member
    exact above other (List.mem_of_mem_eraseP member)

theorem add_add_of_lt (lower : rule.pref < other.pref) : (policy.add rule).add other = (policy.add other).add rule := by
  obtain ⟨low, rest, split, below, above⟩ := policy.exists_split rule.pref
  have sorted := policy.sorted
  rw [split, List.pairwise_append] at sorted
  obtain ⟨middle, high, split', below', above'⟩ := exists_split ⟨rest, sorted.2.1⟩ other.pref
  change rest = middle ++ high at split'
  subst split'
  have first : (policy.add rule).rules = (low ++ rule :: middle) ++ high := by
    rw [add_rules_of_split split below above, List.append_assoc, List.cons_append]
  have second : (policy.add other).rules = low ++ (middle ++ other :: high) := by
    rw [← List.append_assoc] at split
    rw [add_rules_of_split split ?_ above', List.append_assoc]
    intro earlier member
    rcases List.mem_append.mp member with member | member
    · have order := below earlier member
      omega
    · exact below' earlier member
  apply ext
  rw [add_rules_of_split first ?_ above', add_rules_of_split second below ?_, List.append_assoc, List.cons_append]
  · intro later member
    rcases List.mem_append.mp member with member | member
    · exact above later (List.mem_append_left _ member)
    · rcases List.mem_cons.mp member with rfl | member
      · exact lower
      · exact above later (List.mem_append_right _ member)
  · intro earlier member
    rcases List.mem_append.mp member with member | member
    · have order := below earlier member
      omega
    · rcases List.mem_cons.mp member with rfl | member
      · exact Nat.le_of_lt lower
      · exact below' earlier member

/-- Rules of different preferences may be added in any order. -/
theorem add_add (different : rule.pref ≠ other.pref) : (policy.add rule).add other = (policy.add other).add rule := by
  rcases Nat.lt_or_gt_of_ne different with lower | higher
  · exact add_add_of_lt lower
  · exact (add_add_of_lt higher).symm

theorem delete_eq_filter (once : policy.rules.countP wanted ≤ 1) :
    policy.delete wanted = policy.filter fun rule => !wanted rule := ext (eraseP_eq_filter once)

theorem filter_delete {kept : Rule δ → Bool} (apart : ∀ rule, wanted rule = true → kept rule = false) :
    (policy.delete wanted).filter kept = policy.filter kept := by
  apply ext
  change (policy.rules.eraseP wanted).filter kept = policy.rules.filter kept
  by_cases some_ : ∃ rule ∈ policy.rules, wanted rule = true
  · obtain ⟨rule, member, fits⟩ := some_
    obtain ⟨first, earlier, later, -, wants, split, erased⟩ := List.exists_of_eraseP member fits
    rw [erased, split, List.filter_append, List.filter_append, List.filter_cons_of_neg (by simp [apart first wants])]
  · rw [List.eraseP_of_forall_not]
    intro rule member fits
    exact some_ ⟨rule, member, fits⟩

theorem filter_add {kept : Rule δ → Bool} (dropped : kept rule = false) :
    (policy.add rule).filter kept = policy.filter kept := by
  obtain ⟨low, high, split, below, above⟩ := policy.exists_split rule.pref
  apply ext
  change (policy.add rule).rules.filter kept = policy.rules.filter kept
  rw [add_rules_of_split split below above, split, List.filter_append, List.filter_append,
    List.filter_cons_of_neg (by simp [dropped])]

theorem countP_add : (policy.add rule).rules.countP wanted = policy.rules.countP wanted + if wanted rule then 1 else 0 := by
  obtain ⟨low, high, split, below, above⟩ := policy.exists_split rule.pref
  rw [add_rules_of_split split below above, split, List.countP_append, List.countP_append, List.countP_cons]
  omega

theorem countP_delete_self (once : policy.rules.countP wanted ≤ 1) : (policy.delete wanted).rules.countP wanted = 0 := by
  rw [delete_eq_filter once, List.countP_eq_zero]
  intro rule member fits
  have unwanted := (List.mem_filter.mp member).2
  rw [fits] at unwanted
  cases unwanted

/-! ### A rule that is the only one of its kind, and the last of its preference -/

def Once (wanted : Rule δ → Bool) (rule : Rule δ) (policy : Policy δ) : Prop :=
  ∃ rest : Policy δ, (∀ other ∈ rest.rules, wanted other = false) ∧ policy = rest.add rule

namespace Once

theorem mem (once : Once wanted rule policy) : rule ∈ policy.rules := by
  obtain ⟨rest, -, rfl⟩ := once
  exact mem_add.mpr (.inl rfl)

/-- Deleted and added again, it is where it was. -/
theorem delete_add (once : Once wanted rule policy) (wants : wanted rule = true) :
    rule ∉ (policy.delete wanted).rules ∧ (policy.delete wanted).add rule = policy := by
  obtain ⟨rest, unwanted, rfl⟩ := once
  rw [delete_add_self unwanted wants]
  refine ⟨fun member => ?_, rfl⟩
  rw [unwanted rule member] at wants
  cases wants

theorem countP_le (once : Once wanted rule policy) : policy.rules.countP wanted ≤ 1 := by
  obtain ⟨rest, unwanted, rfl⟩ := once
  have none_ : rest.rules.countP wanted = 0 := List.countP_eq_zero.mpr fun other member => by simp [unwanted other member]
  rw [countP_add, none_]
  split <;> omega

theorem delete (once : Once wanted rule policy) {deleted : Rule δ → Bool} (spared : deleted rule = false) :
    Once wanted rule (policy.delete deleted) := by
  obtain ⟨rest, unwanted, rfl⟩ := once
  refine ⟨rest.delete deleted, ?_, delete_add_of_not spared⟩
  intro other member
  exact unwanted other (List.mem_of_mem_eraseP member)

theorem add (once : Once wanted rule policy) (unlike : wanted other = false) (different : rule.pref ≠ other.pref) :
    Once wanted rule (policy.add other) := by
  obtain ⟨rest, unwanted, rfl⟩ := once
  refine ⟨rest.add other, ?_, add_add different⟩
  intro another member
  rcases mem_add.mp member with rfl | member
  · exact unlike
  · exact unwanted another member

end Once

end Policy

end DeepOrc.Lib.PolicyRouting
