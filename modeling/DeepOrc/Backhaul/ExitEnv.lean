import DeepOrc.Backhaul.Keys
import DeepOrc.Lib.LineFilters
import DeepOrc.Lib.ShellLoss

/-!
# Rewriting the gateway's `exit.env`

The orchestrator replaces the `UPLINK_PEER` lines of the file, and the gateway's scripts source it. The values of the
other lines may be quoted or expanded in any way that ends with the line. The shell ends lines at newlines only, while
the rewrite reads the file with `str.splitlines`.
-/

namespace DeepOrc.Backhaul

open Models Services Agent
open Lib.EnvFile (splitLines assigns rewriteLines setVariable unlines unlines_cons isLineBreak)
open Lib.LineFilters (inputLines)
open Lib.Shell

/-- The shell reads the value up to the end of its line and no further. -/
def Closed (shell : Context) (value : Text) : Prop :=
  ∀ word rest, ∃ pieces, scan shell (.within .plain word) (value ++ '\n' :: rest) =
    (scan shell .start rest).map ([.word (word ++ pieces), .newline] ++ ·)

/-- A `KEY=VALUE` line without leading blanks. -/
def KeyValue (shell : Context) (line : Text) : Prop :=
  '\n' ∉ line ∧ ∃ key value, isName key = true ∧ line = assignmentLine key value ∧ Closed shell value

variable {shell : Context}

theorem closed_of_literal {value : Text} (stands : Literal value []) : Closed shell value := by
  intro word rest
  refine ⟨literals value, ?_⟩
  rw [scan_literals shell (stands.before_newline rest)]
  exact scan_newline shell _ rest

theorem keyValue_of_literal {key value : Text} (named : isName key = true) (whole : '\n' ∉ value)
    (stands : Literal value []) : KeyValue shell (assignmentLine key value) := by
  refine ⟨?_, key, value, named, rfl, closed_of_literal stands⟩
  rw [assignmentLine, List.mem_append, List.mem_cons]
  rintro (inside | equals | inside)
  · exact notMem_name named (by decide) inside
  · exact absurd equals (by decide)
  · exact whole inside

theorem assigns_iff {name key value : Text} (named : isName name = true) (keyed : isName key = true) :
    assigns name (assignmentLine key value) = true ↔ key = name := by
  constructor
  · intro assigned
    rw [assigns, List.isPrefixOf_iff_prefix, assignmentLine] at assigned
    obtain ⟨rest, same⟩ := assigned
    have split : name ++ '=' :: rest = key ++ '=' :: value := by simpa using same
    have ends (text : Text) (named : isName text = true) : ∀ c ∈ text, c ≠ '=' := by
      rintro c member rfl
      exact notMem_name named (by decide) member
    have first (text after : Text) (named : isName text = true) :
        (text ++ '=' :: after).takeWhile (· != '=') = text := by
      rw [List.takeWhile_append_of_pos fun c member => by simpa using ends text named c member]
      simp
    rw [← first key value keyed, ← split, first name rest named]
  · rintro rfl
    exact Lib.EnvFile.assigns_assignment key value

/-- Sourcing lines of which those that assign the variable all give it one value. -/
theorem source_lines {name value : Text} (named : isName name = true) (harmless : Harmless value) {lines : List Text}
    (wellFormed : ∀ line ∈ lines, assigns name line = false ∧ KeyValue shell line ∨ line = assignmentLine name value) :
    ∃ made, source shell (unlines lines) = some made ∧
      made.filter (fun assignment => assignment.name = name) =
        (lines.filter (assigns name)).map fun _ => ⟨name, value, []⟩ := by
  induction lines with
  | nil => exact ⟨[], rfl, rfl⟩
  | cons line lines ih =>
      obtain ⟨here, later⟩ := List.forall_mem_cons.mp wellFormed
      obtain ⟨made, sourced, filtered⟩ := ih later
      rcases here with ⟨other, -, key, keyValue, keyed, rfl, closed⟩ | rfl
      · have different : key ≠ name := fun same => by
          rw [(assigns_iff named keyed).mpr same] at other
          cases other
        obtain ⟨pieces, scanned⟩ := closed (literals (key ++ ['='])) (unlines lines)
        have joined : assignmentLine key keyValue ++ '\n' :: unlines lines =
            assignmentLine key (keyValue ++ '\n' :: unlines lines) := by
          rw [assignmentLine, List.append_assoc]
          rfl
        obtain ⟨tokens, tokensLater, read⟩ := Option.bind_eq_some_iff.mp sourced
        refine ⟨⟨key, valueText shell 0 true pieces, commandsOf pieces⟩ :: made, ?_, ?_⟩
        · rw [unlines_cons, joined, source, scan_assignment shell keyed, scanned, tokensLater]
          simp only [Option.map_some, Option.bind_some, List.cons_append, List.nil_append, assignments,
            splitAssignment_line keyed, read]
        · rw [List.filter_cons_of_neg (by simpa using different), filtered, List.filter_cons_of_neg (by simp [other])]
      · refine ⟨⟨name, value, []⟩ :: made, ?_, ?_⟩
        · rw [unlines_cons, source_line shell named harmless, sourced, Option.map_some]
        · have assigned : assigns name (assignmentLine name value) = true := (assigns_iff named named).mpr rfl
          rw [List.filter_cons_of_pos (by simp), filtered, List.filter_cons_of_pos assigned, List.map_cons]

/-- After a rewrite, sourcing the file gives the variable its new value. -/
theorem lastValue_setVariable {name value : Text} (named : isName name = true) (harmless : Harmless value)
    {content : Text} (wellFormed : ∀ line ∈ splitLines [] content, assigns name line = true ∨ KeyValue shell line) :
    ∃ made, source shell (setVariable name value content) = some made ∧ lastValue name made = some value := by
  let lines := rewriteLines name value (splitLines [] content)
  have rewritten : ∀ line ∈ lines, assigns name line = false ∧ KeyValue shell line ∨ line = assignmentLine name value := by
    intro line member
    rcases Lib.EnvFile.mem_rewriteLines member with ⟨inside, other⟩ | same
    · refine .inl ⟨other, (wellFormed line inside).resolve_left ?_⟩
      rw [other]
      exact Bool.false_ne_true
    · exact .inr same
  obtain ⟨made, sourced, filtered⟩ := source_lines named harmless rewritten
  refine ⟨made, by rw [Lib.EnvFile.setVariable_eq_unlines, sourced], ?_⟩
  have written : assignmentLine name value ∈ lines.filter (assigns name) := List.mem_filter.mpr
    ⟨Lib.EnvFile.assignment_mem_rewriteLines name value _, (assigns_iff named named).mpr rfl⟩
  obtain ⟨last, found⟩ := Option.isSome_iff_exists.mp (List.getLast?_isSome.mpr (List.ne_nil_of_mem written))
  rw [lastValue, filtered, List.getLast?_map, found]
  rfl

/-! ### Keys -/

theorem unmarked_b64Encode (key : WireGuardKey) : ∀ c ∈ key.b64Encode.toList, isMark c = false := by
  have letters : ∀ c ∈ Lib.Base64.alphabet, isMark c = false := List.all_iff_forall_prop.mp (by decide)
  intro c member
  rw [WireGuardKey.b64Encode, String.toList_ofList] at member
  rcases Lib.Base64.mem_encode key.bytes c member with rfl | letter
  · decide
  · exact letters c letter

theorem plain_uplinkPeer (key : WireGuardKey) :
    ∀ c ∈ Lib.EnvFile.assignment uplinkPeer key.b64Encode.toList, Lib.EnvFile.isLineBreak c = false := by
  have name : ∀ c ∈ '=' :: uplinkPeer, Lib.EnvFile.isLineBreak c = false := List.all_iff_forall_prop.mp (by decide)
  have letters : ∀ c ∈ Lib.Base64.alphabet, Lib.EnvFile.isLineBreak c = false :=
    List.all_iff_forall_prop.mp (by decide)
  intro c member
  rw [Lib.EnvFile.assignment, WireGuardKey.b64Encode, String.toList_ofList, List.mem_append, List.mem_cons] at member
  rcases member with inside | rfl | inside
  · exact name c (List.mem_cons_of_mem _ inside)
  · decide
  · rcases Lib.Base64.mem_encode key.bytes c inside with rfl | letter
    · decide
    · exact letters c letter

/-! ### Lines that stay whole -/

/-- A file of these lines; `last` is one at its end that no newline ends. -/
def fileText (lines : List Text) (last : Option Text) : Text := unlines lines ++ last.getD []

/-- What a line is cut into is the line itself, or assigns the variable again. -/
def StaysWhole (name line : Text) (pieces : List Text) : Prop := ∀ piece ∈ pieces, assigns name piece = true ∨ piece = line

def LinesStayWhole (name : Text) (lines : List Text) (last : Option Text) : Prop :=
  (∀ line ∈ lines, StaysWhole name line (splitLines [] (line ++ ['\n']))) ∧
    ∀ line ∈ last.toList, StaysWhole name line (splitLines [] line)

/-- Each line with what `str.splitlines` makes of it. -/
def cuts (lines : List Text) (last : Option Text) : List (Text × List Text) :=
  (lines.map fun line => (line, splitLines [] (line ++ ['\n']))) ++
    last.toList.map fun line => (line, splitLines [] line)

def others (name : Text) (lines : List Text) : List Text := lines.filter fun line => !assigns name line

theorem linesStayWhole_iff {name : Text} {lines : List Text} {last : Option Text} :
    LinesStayWhole name lines last ↔ ∀ cut ∈ cuts lines last, StaysWhole name cut.1 cut.2 := by
  rw [LinesStayWhole, cuts, List.forall_mem_append, List.forall_mem_map, List.forall_mem_map]

theorem flatMap_cuts {lines : List Text} {last : Option Text} (whole : ∀ line ∈ lines, '\n' ∉ line) :
    splitLines [] (fileText lines last) = (cuts lines last).flatMap Prod.snd := by
  rw [fileText, Lib.EnvFile.splitLines_unlines_append whole, cuts, List.flatMap_append, List.flatMap_map,
    List.flatMap_map]
  cases last with
  | none => rfl
  | some line => rw [Option.toList_some, List.flatMap_singleton, Option.getD_some]

theorem map_cuts (lines : List Text) (last : Option Text) : (cuts lines last).map Prod.fst = lines ++ last.toList := by
  rw [cuts, List.map_append, List.map_map, List.map_map]
  exact congrArg₂ (· ++ ·) (List.map_id _) (List.map_id _)

theorem others_append (name : Text) (front back : List Text) :
    others name (front ++ back) = others name front ++ others name back := List.filter_append ..

theorem others_of_assigns {name line : Text} (assigned : assigns name line = true) (lines : List Text) :
    others name (line :: lines) = others name lines := by
  rw [others, List.filter_cons_of_neg (by rw [assigned]; decide)]
  rfl

theorem others_of_other {name line : Text} (other : assigns name line = false) (lines : List Text) :
    others name (line :: lines) = line :: others name lines := by
  rw [others, List.filter_cons_of_pos (by rw [other]; rfl)]
  rfl

section Cuts

variable {name : Text} {cut : List (Text × List Text)}

theorem others_flatMap (stay : ∀ entry ∈ cut, others name entry.2 = others name [entry.1]) :
    others name (cut.flatMap Prod.snd) = others name (cut.map Prod.fst) := by
  induction cut with
  | nil => rfl
  | cons entry cut ih =>
      obtain ⟨here, later⟩ := List.forall_mem_cons.mp stay
      rw [List.flatMap_cons, others_append, here, ih later, ← others_append]
      rfl

/-- Nothing is lost of the other lines, so nothing can be added either. -/
theorem nothing_added (whole : ∀ entry ∈ cut, assigns name entry.1 = false → entry.2 = [entry.1])
    (kept : others name (cut.flatMap Prod.snd) = others name (cut.map Prod.fst)) :
    ∀ entry ∈ cut, others name entry.2 = others name [entry.1] := by
  have more : ∀ cut : List (Text × List Text), (∀ entry ∈ cut, assigns name entry.1 = false → entry.2 = [entry.1]) →
      (others name (cut.map Prod.fst)).length ≤ (others name (cut.flatMap Prod.snd)).length := by
    intro cut whole
    induction cut with
    | nil => exact Nat.le_refl _
    | cons entry cut ih =>
        obtain ⟨here, later⟩ := List.forall_mem_cons.mp whole
        have rest := ih later
        rw [List.map_cons, List.flatMap_cons, others_append, List.length_append]
        cases assigned : assigns name entry.1 with
        | true =>
            rw [others_of_assigns assigned]
            omega
        | false =>
            rw [here assigned, others_of_other assigned, others_of_other assigned, List.length_cons, List.length_cons]
            omega
  induction cut with
  | nil => exact fun _ inside => nomatch inside
  | cons entry cut ih =>
      obtain ⟨here, later⟩ := List.forall_mem_cons.mp whole
      have rest := more cut later
      rw [List.map_cons, List.flatMap_cons, others_append] at kept
      have same : others name entry.2 = others name [entry.1] ∧
          others name (cut.flatMap Prod.snd) = others name (cut.map Prod.fst) := by
        cases assigned : assigns name entry.1 with
        | true =>
            rw [others_of_assigns assigned] at kept
            have length := congrArg List.length kept
            rw [List.length_append] at length
            have none : others name entry.2 = [] := List.eq_nil_of_length_eq_zero (by omega)
            rw [none, List.nil_append] at kept
            rw [others_of_assigns assigned, none]
            exact ⟨rfl, kept⟩
        | false =>
            rw [here assigned, others_of_other assigned, others_of_other assigned] at kept
            rw [here assigned]
            exact ⟨rfl, (List.cons.inj kept).2⟩
      exact List.forall_mem_cons.mpr ⟨same.1, ih later same.2⟩

end Cuts

/-- The first piece of another line assigns no more than the line does. -/
theorem plain_of_staysWhole {name line rest : Text} (filled : line ≠ []) (other : assigns name line = false)
    (stays : StaysWhole name line (splitLines [] (line ++ rest)))
    (ends : rest.takeWhile (fun c => !isLineBreak c) = []) : ∀ c ∈ line, isLineBreak c = false := by
  have head := @Lib.EnvFile.head_splitLines [] (line ++ rest) (.inr (List.append_ne_nil_of_left_ne_nil filled rest))
  rw [List.reverse_nil, List.nil_append] at head
  have first : (line ++ rest).takeWhile (fun c => !isLineBreak c) = line.takeWhile fun c => !isLineBreak c := by
    rw [List.takeWhile_append]
    split
    · rename_i all
      rw [ends, List.append_nil]
      exact (List.takeWhile_prefix _).eq_of_length all |>.symm
    · rfl
  rw [first] at head
  have same : line.takeWhile (fun c => !isLineBreak c) = line := by
    refine (stays _ (List.mem_of_mem_head? head)).resolve_left fun assigned => ?_
    rw [assigns, List.isPrefixOf_iff_prefix] at assigned
    have whole : assigns name line = true :=
      List.isPrefixOf_iff_prefix.mpr (assigned.trans (List.takeWhile_prefix _))
    rw [other] at whole
    cases whole
  intro c member
  have plain := List.takeWhile_eq_self_iff.mp same c member
  rwa [Bool.not_eq_true'] at plain

theorem cut_of_plain {lines : List Text} {last : Option Text} {entry : Text × List Text}
    (member : entry ∈ cuts lines last) (filled : entry.1 ≠ []) (plain : ∀ c ∈ entry.1, isLineBreak c = false) :
    entry.2 = [entry.1] := by
  rcases List.mem_append.mp member with ended | open_
  · obtain ⟨line, -, rfl⟩ := List.mem_map.mp ended
    exact Lib.EnvFile.splitLines_line plain [] []
  · obtain ⟨line, -, rfl⟩ := List.mem_map.mp open_
    exact Lib.EnvFile.splitLines_last plain filled

theorem plain_of_cut {name : Text} {lines : List Text} {last : Option Text} {entry : Text × List Text}
    (member : entry ∈ cuts lines last) (filled : entry.1 ≠ []) (other : assigns name entry.1 = false)
    (stays : StaysWhole name entry.1 entry.2) : ∀ c ∈ entry.1, isLineBreak c = false := by
  rcases List.mem_append.mp member with ended | open_
  · obtain ⟨line, -, rfl⟩ := List.mem_map.mp ended
    exact plain_of_staysWhole filled other stays (List.takeWhile_cons_of_neg (by decide))
  · obtain ⟨line, -, rfl⟩ := List.mem_map.mp open_
    refine @plain_of_staysWhole name line [] filled other ?_ rfl
    rw [List.append_nil]
    exact stays

/-- Cut at all boundaries the file has the same other lines exactly if none of its lines is cut. -/
theorem others_fileText_iff {name : Text} {lines : List Text} {last : Option Text}
    (wellFormed : ∀ line ∈ lines ++ last.toList, '\n' ∉ line ∧ line ≠ []) :
    others name (splitLines [] (fileText lines last)) = others name (lines ++ last.toList) ↔
      LinesStayWhole name lines last := by
  have filled : ∀ entry ∈ cuts lines last, entry.1 ≠ [] := by
    intro entry member
    refine (wellFormed entry.1 ?_).2
    rw [← map_cuts]
    exact List.mem_map_of_mem member
  rw [flatMap_cuts fun line member => (wellFormed line (List.mem_append_left _ member)).1, ← map_cuts,
    linesStayWhole_iff]
  constructor
  · intro kept entry member
    have whole : ∀ entry ∈ cuts lines last, assigns name entry.1 = false → entry.2 = [entry.1] := by
      intro entry member other
      have listed : entry.1 ∈ others name ((cuts lines last).map Prod.fst) :=
        List.mem_filter.mpr ⟨List.mem_map_of_mem member, by rw [other]; rfl⟩
      rw [← kept, ← flatMap_cuts fun line inside => (wellFormed line (List.mem_append_left _ inside)).1] at listed
      have piece := (List.mem_filter.mp listed).1
      exact cut_of_plain member (filled entry member)
        (Lib.EnvFile.plain_of_mem_splitLines (List.forall_mem_nil _) entry.1 piece)
    have same := nothing_added whole kept entry member
    intro piece inside
    cases assigned : assigns name piece with
    | true => exact .inl rfl
    | false =>
        have listed : piece ∈ others name entry.2 := List.mem_filter.mpr ⟨inside, by rw [assigned]; rfl⟩
        rw [same] at listed
        exact .inr (List.mem_singleton.mp (List.mem_filter.mp listed).1)
  · intro stay
    apply others_flatMap
    intro entry member
    cases assigned : assigns name entry.1 with
    | true =>
        rw [others_of_assigns assigned]
        apply List.filter_eq_nil_iff.mpr
        intro piece inside
        rcases stay entry member piece inside with again | same
        · rw [again]
          decide
        · rw [same, assigned]
          decide
    | false =>
        have plain := plain_of_cut member (filled entry member) assigned (stay entry member)
        rw [cut_of_plain member (filled entry member) plain]

/-! ### What a rewrite is for -/

/-- The other lines stay in their order, the shell reads the new key, and the last rewrite counts. -/
structure RewriteLaws (shell : Context) (rewrite : WireGuardKey → Text → Text) (content : Text) : Prop where
  kept : ∀ key, others uplinkPeer (inputLines (rewrite key content)) = others uplinkPeer (inputLines content)
  sourced : ∀ key, ∃ made, source shell (rewrite key content) = some made ∧
    lastValue uplinkPeer made = some key.b64Encode.toList
  idempotent : ∀ key, rewrite key (rewrite key content) = rewrite key content
  last : ∀ key other, rewrite key (rewrite other content) = rewrite key content

section Rewrite

variable {db : Db} {gateway : Gateway} {worker : Worker}
  (assigned : db.workers.get gateway.workerId = some worker)

include assigned

theorem setGatewayUplinkPeer_eq (key : WireGuardKey) (content : Text) :
    setGatewayUplinkPeer db gateway key.b64Encode content = setVariable uplinkPeer key.b64Encode.toList content := by
  rw [setGatewayUplinkPeer, assigned]

theorem others_rewritten (key : WireGuardKey) (content : Text) :
    others uplinkPeer (inputLines (setGatewayUplinkPeer db gateway key.b64Encode content)) =
      others uplinkPeer (splitLines [] content) := by
  have whole : ∀ line ∈ rewriteLines uplinkPeer key.b64Encode.toList (splitLines [] content), '\n' ∉ line := by
    intro line member newline
    rcases Lib.EnvFile.mem_rewriteLines member with ⟨inside, -⟩ | rfl
    · exact Lib.EnvFile.newline_not_mem_splitLines content line inside newline
    · exact absurd (plain_uplinkPeer key '\n' newline) (by decide)
  rw [setGatewayUplinkPeer_eq assigned, Lib.EnvFile.setVariable_eq_unlines, Lib.LineFilters.inputLines_unlines whole]
  exact Lib.EnvFile.filter_rewriteLines ..

end Rewrite

theorem inputLines_fileText {lines : List Text} {last : Option Text}
    (wellFormed : ∀ line ∈ lines ++ last.toList, '\n' ∉ line ∧ line ≠ []) :
    inputLines (fileText lines last) = lines ++ last.toList := by
  have whole : ∀ line ∈ lines, '\n' ∉ line := fun line member => (wellFormed line (List.mem_append_left _ member)).1
  cases last with
  | none =>
      rw [fileText, Option.getD_none, List.append_nil, Lib.LineFilters.inputLines_unlines whole]
      exact (List.append_nil lines).symm
  | some line =>
      obtain ⟨wholeLast, filled⟩ := wellFormed line (List.mem_append_right _ (List.mem_singleton_self line))
      exact Lib.LineFilters.inputLines_unlines_append whole wholeLast filled

theorem filled_of_keyValue {line : Text} (wellFormed : KeyValue shell line) : '\n' ∉ line ∧ line ≠ [] := by
  obtain ⟨whole, key, value, -, rfl, -⟩ := wellFormed
  refine ⟨whole, fun empty => ?_⟩
  have parts := List.append_eq_nil_iff.mp empty
  cases parts.2

/-- For a file of `KEY=VALUE` lines, with or without a newline at its end. -/
theorem setGatewayUplinkPeer_laws_iff {db : Db} {gateway : Gateway} {worker : Worker}
    (assigned : db.workers.get gateway.workerId = some worker) {lines : List Text} {last : Option Text}
    (wellFormed : ∀ line ∈ lines ++ last.toList, KeyValue shell line) :
    RewriteLaws shell (fun key => setGatewayUplinkPeer db gateway key.b64Encode) (fileText lines last) ↔
      LinesStayWhole uplinkPeer lines last := by
  have filled : ∀ line ∈ lines ++ last.toList, '\n' ∉ line ∧ line ≠ [] :=
    fun line member => filled_of_keyValue (wellFormed line member)
  rw [← others_fileText_iff filled]
  constructor
  · intro laws
    have kept := laws.kept (repeatedKey 0)
    rwa [others_rewritten assigned, inputLines_fileText filled] at kept
  · intro kept
    have stay := linesStayWhole_iff.mp ((others_fileText_iff filled).mp kept)
    have sourced : ∀ line ∈ splitLines [] (fileText lines last),
        assigns uplinkPeer line = true ∨ KeyValue shell line := by
      intro piece member
      rw [flatMap_cuts fun line inside => (filled line (List.mem_append_left _ inside)).1] at member
      obtain ⟨entry, cut, inside⟩ := List.mem_flatMap.mp member
      refine (stay entry cut piece inside).imp_right ?_
      rintro rfl
      apply wellFormed _
      rw [← map_cuts]
      exact List.mem_map_of_mem cut
    refine ⟨fun key => ?_, fun key => ?_, fun key => ?_, fun key other => ?_⟩
    · rw [others_rewritten assigned, inputLines_fileText filled, kept]
    · rw [setGatewayUplinkPeer_eq assigned]
      exact lastValue_setVariable (by decide) (harmless_of_unmarked (unmarked_b64Encode key)) sourced
    · rw [setGatewayUplinkPeer_eq assigned, setGatewayUplinkPeer_eq assigned]
      exact Lib.EnvFile.setVariable_setVariable (plain_uplinkPeer key) _ _
    · rw [setGatewayUplinkPeer_eq assigned, setGatewayUplinkPeer_eq assigned, setGatewayUplinkPeer_eq assigned]
      exact Lib.EnvFile.setVariable_setVariable (plain_uplinkPeer other) _ _

/-- A shell that expands nothing. -/
def literalShell : Context := ⟨fun _ => none, fun _ => none, fun _ => none⟩

def freshLines : List (Text × Text) :=
  [("WG_SUBNET".toList, "10.100.1.0/24".toList), ("WG_GW".toList, "10.100.1.1".toList),
    ("VM_IP".toList, "10.10.2.10".toList), ("EXIT_MTU".toList, "1420".toList), (uplinkPeer, [])]

def freshTexts : List Text := freshLines.map fun entry => assignmentLine entry.1 entry.2

theorem keyValue_unmarked {key value : Text} (named : isName key = true)
    (unmarked : (value.all fun c => isMark c = false) = true) : KeyValue shell (assignmentLine key value) := by
  have each : ∀ c ∈ value, isMark c = false := List.all_iff_forall_prop.mp unmarked
  refine keyValue_of_literal named (fun newline => ?_) (harmless_of_unmarked each).literal
  exact absurd (each '\n' newline) (by decide)

theorem keyValue_freshTexts : ∀ line ∈ freshTexts, KeyValue shell line := by
  have names : ∀ entry ∈ freshLines, isName entry.1 = true ∧ (entry.2.all fun c => isMark c = false) = true := by
    decide +kernel
  intro line member
  obtain ⟨entry, inside, rfl⟩ := List.mem_map.mp member
  obtain ⟨named, unmarked⟩ := names entry inside
  exact keyValue_unmarked named unmarked

theorem setGatewayUplinkPeer_laws_fresh :
    RewriteLaws literalShell (fun key => setGatewayUplinkPeer freshGateway.db readyGatewayRow key.b64Encode)
      freshExitEnv := by
  have text : fileText freshTexts none = freshExitEnv := by decide +kernel
  have whole : ∀ line ∈ freshTexts, splitLines [] (line ++ ['\n']) = [line] := by decide +kernel
  have stay : LinesStayWhole uplinkPeer freshTexts none := by
    refine ⟨fun line member piece inside => .inr ?_, fun _ inside => nomatch inside⟩
    rw [whole line member] at inside
    exact List.mem_singleton.mp inside
  rw [← text]
  refine (setGatewayUplinkPeer_laws_iff rfl ?_).mpr stay
  rw [Option.toList_none, List.append_nil]
  exact keyValue_freshTexts

/-- The shell reads a form feed as part of the value, and the rewrite ends the line there. -/
theorem form_feed_cuts_line :
    (∀ line ∈ ["FOO=a\x0cb".toList], KeyValue literalShell line) ∧
      ¬RewriteLaws literalShell (fun key => setGatewayUplinkPeer freshGateway.db readyGatewayRow key.b64Encode)
        (fileText ["FOO=a\x0cb".toList] none) := by
  have line : "FOO=a\x0cb".toList = assignmentLine "FOO".toList "a\x0cb".toList := by decide
  refine ⟨List.forall_mem_singleton.mpr (line ▸ keyValue_unmarked (by decide) (by decide)), fun laws => ?_⟩
  have kept := laws.kept (repeatedKey 0)
  rw [others_rewritten rfl] at kept
  exact absurd kept (by decide +kernel)

end DeepOrc.Backhaul
