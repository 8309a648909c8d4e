import Mathlib.Algebra.Order.BigOperators.Group.List
import Mathlib.Algebra.Order.Group.Nat
import Mathlib.Algebra.Ring.Nat
import DeepOrc.Lib.ShellLoss

/-!
# The gateway's Tailscale settings

The setup script writes `tailscale.env` from a here-document with an unquoted delimiter, sources the file and starts
Tailscale with the variables it sets. The template inserts the values as they are.
-/

namespace DeepOrc.CloudInit

open DeepOrc.Lib.Shell

def headscaleUrl : Text := "HEADSCALE_URL".toList

def tailscaleAuthKey : Text := "TAILSCALE_AUTH_KEY".toList

def gatewayName : Text := "GATEWAY_NAME".toList

def delimiter : Text := "EOF".toList

/-- The here-document up to its delimiter, as `render_openwrt_setup` fills it in. -/
def tailscaleEnv (url key name : Text) : Text :=
  assignmentLine headscaleUrl url ++ '\n' ::
    (assignmentLine tailscaleAuthKey key ++ '\n' :: (assignmentLine gatewayName name ++ ['\n']))

/-- What the script runs while it writes the file, what sourcing the file assigns, and the script behind. -/
structure Configured where
  commands : List Text
  made : List Assignment
  rest : Text
deriving DecidableEq

/-- The script from the here-document's first line on, with `after` behind the delimiter. The shell that sources the
file may be in another state. -/
def configure (shell later : Context) (url key name after : Text) : Option Configured :=
  (hereBody delimiter true false (dropNul (tailscaleEnv url key name ++ (delimiter ++ '\n' :: after)))).bind fun found =>
    (expandText shell 0 false found.1).bind fun written =>
      (source later written.2).map fun made => ⟨written.1, made, found.2⟩

/-- The script goes on where it should, has run nothing that the file's values bring in, and Tailscale gets the name. -/
structure Survives (shell later : Context) (url key name after : Text) (result : Configured) : Prop where
  configured : configure shell later url key name after = some result
  rest : result.rest = dropNul after
  written : result.commands = []
  sourced : ∀ assignment ∈ result.made, assignment.commands = []
  name : lastValue gatewayName result.made = some name

theorem isName_headscaleUrl : isName headscaleUrl = true := by decide

theorem isName_tailscaleAuthKey : isName tailscaleAuthKey = true := by decide

theorem isName_gatewayName : isName gatewayName = true := by decide

theorem harmless_nil : Harmless [] := ⟨trivial, rfl, List.not_mem_nil⟩

variable {shell later : Context} {url key name after : Text}

/-! ### Null characters -/

theorem dropNul_of_notMem {text : Text} (absent : '\x00' ∉ text) : dropNul text = text := by
  apply List.filter_eq_self.mpr
  intro c member
  have other : c ≠ '\x00' := fun same => absent (same ▸ member)
  simp [other]

theorem dropNul_append (front back : Text) : dropNul (front ++ back) = dropNul front ++ dropNul back :=
  List.filter_append front back

theorem dropNul_line {variableName : Text} (named : isName variableName = true) (value : Text) :
    dropNul (assignmentLine variableName value) = assignmentLine variableName (dropNul value) := by
  have kept : dropNul variableName = variableName := dropNul_of_notMem (notMem_name named (by decide))
  rw [assignmentLine, dropNul_append, kept]
  rfl

theorem dropNul_tailscaleEnv (harmlessUrl : Harmless url) (harmlessKey : Harmless key) (name : Text) :
    dropNul (tailscaleEnv url key name) = tailscaleEnv url key (dropNul name) := by
  have kept (front back : Text) : dropNul (front ++ '\n' :: back) = dropNul front ++ '\n' :: dropNul back :=
    dropNul_append front ('\n' :: back)
  rw [tailscaleEnv, kept, kept, dropNul_append, dropNul_line isName_headscaleUrl, dropNul_line isName_tailscaleAuthKey,
    dropNul_line isName_gatewayName, dropNul_of_notMem harmlessUrl.nul, dropNul_of_notMem harmlessKey.nul]
  rfl

theorem dropNul_script (harmlessUrl : Harmless url) (harmlessKey : Harmless key) (name after : Text) :
    dropNul (tailscaleEnv url key name ++ (delimiter ++ '\n' :: after)) =
      tailscaleEnv url key (dropNul name) ++ (delimiter ++ '\n' :: dropNul after) := by
  rw [dropNul_append, dropNul_tailscaleEnv harmlessUrl harmlessKey]
  rfl

/-! ### Harmless names -/

theorem notMem_line {variableName value : Text} (named : isName variableName = true) (harmless : Harmless value) {c : Char}
    (listed : c ∈ special) : c ∉ assignmentLine variableName value := by
  rw [assignmentLine, List.mem_append, List.mem_cons]
  rintro (inside | rfl | inside)
  · have other := isNameChar_of_special c (List.mem_cons_of_mem _ (List.mem_cons_of_mem _ (List.mem_cons_of_mem _ listed)))
    exact notMem_name named other inside
  · exact absurd listed (by decide)
  · exact harmless.literal.not_mem listed inside

/-- No variable of the file begins like the delimiter, so a harmless line does not end the here-document. -/
theorem hereBody_assignment {variableName value : Text} (named : isName variableName = true)
    (different : variableName.head? ≠ some 'E') (harmless : Harmless value) (rest : Text) :
    hereBody delimiter true false (assignmentLine variableName value ++ '\n' :: rest) =
      (hereBody delimiter true false rest).map fun found =>
        (assignmentLine variableName value ++ '\n' :: found.1, found.2) := by
  have newline : '\n' ∉ assignmentLine variableName value := notMem_line named harmless (by decide)
  have escape : '\\' ∉ assignmentLine variableName value := notMem_line named harmless (by decide)
  cases variableName with
  | nil => cases named
  | cons c others =>
      have first : 'E' ≠ c := fun same => different (congrArg some same.symm)
      exact hereBody_line first newline escape rest

theorem hereBody_tailscaleEnv (harmlessUrl : Harmless url) (harmlessKey : Harmless key) (harmless : Harmless name)
    (after : Text) : hereBody delimiter true false (tailscaleEnv url key name ++ (delimiter ++ '\n' :: after)) =
      some (tailscaleEnv url key name, after) := by
  have split : tailscaleEnv url key name ++ (delimiter ++ '\n' :: after) = assignmentLine headscaleUrl url ++ '\n' ::
      (assignmentLine tailscaleAuthKey key ++ '\n' ::
        (assignmentLine gatewayName name ++ '\n' :: (delimiter ++ '\n' :: after))) := by
    simp only [tailscaleEnv, List.append_assoc, List.cons_append, List.nil_append]
  rw [split, hereBody_assignment isName_headscaleUrl (by decide) harmlessUrl,
    hereBody_assignment isName_tailscaleAuthKey (by decide) harmlessKey,
    hereBody_assignment isName_gatewayName (by decide) harmless, hereBody_end]
  rfl

/-- A harmless name gets through whatever the state of the shells. -/
theorem survives_of_harmless (shell later : Context) (harmlessUrl : Harmless url) (harmlessKey : Harmless key)
    (harmless : Harmless name) (after : Text) :
    Survives shell later url key name after
      ⟨[], [⟨headscaleUrl, url, []⟩, ⟨tailscaleAuthKey, key, []⟩, ⟨gatewayName, name, []⟩], dropNul after⟩ := by
  have written : expandText shell 0 false (tailscaleEnv url key name) = some ([], tailscaleEnv url key name) := by
    rw [tailscaleEnv, expandText_line shell isName_headscaleUrl harmlessUrl,
      expandText_line shell isName_tailscaleAuthKey harmlessKey, expandText_line shell isName_gatewayName harmless]
    rfl
  have sourced : source later (tailscaleEnv url key name) =
      some [⟨headscaleUrl, url, []⟩, ⟨tailscaleAuthKey, key, []⟩, ⟨gatewayName, name, []⟩] := by
    rw [tailscaleEnv, source_line later isName_headscaleUrl harmlessUrl,
      source_line later isName_tailscaleAuthKey harmlessKey, source_line later isName_gatewayName harmless]
    rfl
  refine ⟨?_, rfl, rfl, by simp, rfl⟩
  rw [configure, dropNul_script harmlessUrl harmlessKey, dropNul_of_notMem harmless.nul,
    hereBody_tailscaleEnv harmlessUrl harmlessKey harmless, Option.bind_some, written, Option.bind_some, sourced,
    Option.map_some]

/-! ### Names that get through -/

theorem lastValue_cons_of_ne {wanted : Text} {assignment : Assignment} (other : assignment.name ≠ wanted)
    (made : List Assignment) : lastValue wanted (assignment :: made) = lastValue wanted made := by
  rw [lastValue, lastValue, List.filter_cons_of_neg (by simpa using other)]

theorem marks_lastValue {wanted value : Text} {made : List Assignment} (found : lastValue wanted made = some value) :
    marks value ≤ (made.map fun assignment => marks assignment.value).sum := by
  obtain ⟨assignment, last, rfl⟩ := Option.map_eq_some_iff.mp found
  have member := List.mem_of_mem_filter (List.mem_of_getLast? last)
  exact List.le_sum_of_mem (List.mem_map_of_mem member)

/-- Where the script goes on as it should, the last line is all that the name can change. -/
theorem lastLine_of_survives (harmlessUrl : Harmless url) (harmlessKey : Harmless key) {result : Configured}
    (survives : Survives shell later url key name after result) :
    ∃ written made, expandText shell 0 false (dropNul name ++ ['\n']) = some written ∧
      source later (assignmentLine gatewayName written.2) = some made ∧ lastValue gatewayName made = some name := by
  obtain ⟨configured, rest, -, -, value⟩ := survives
  rw [configure, dropNul_script harmlessUrl harmlessKey] at configured
  obtain ⟨⟨body, behind⟩, found, inside⟩ := Option.bind_eq_some_iff.mp configured
  obtain ⟨written, expanded, sourcing⟩ := Option.bind_eq_some_iff.mp inside
  obtain ⟨made, sourced, rfl⟩ := Option.map_eq_some_iff.mp sourcing
  obtain rfl : behind = dropNul after := rest
  have whole : tailscaleEnv url key (dropNul name) = body :=
    List.append_cancel_right (append_of_hereBody found)
  have literal := literal_name isName_gatewayName (dropNul name ++ ['\n'])
  have third : assignmentLine gatewayName (dropNul name) ++ ['\n'] = gatewayName ++ ['='] ++ (dropNul name ++ ['\n']) := by
    simp only [assignmentLine, List.append_assoc, List.cons_append, List.nil_append]
  rw [← whole, tailscaleEnv, expandText_line shell isName_headscaleUrl harmlessUrl,
    expandText_line shell isName_tailscaleAuthKey harmlessKey, third, expandText_literals shell literal] at expanded
  cases last : expandText shell 0 false (dropNul name ++ ['\n']) with
  | none =>
      rw [last] at expanded
      cases expanded
  | some lastWritten =>
      rw [last] at expanded
      obtain rfl := Option.some.inj expanded
      have lines : gatewayName ++ ['='] ++ lastWritten.2 = assignmentLine gatewayName lastWritten.2 := by
        rw [List.append_assoc]
        rfl
      have sourced : source later (assignmentLine headscaleUrl url ++ '\n' :: (assignmentLine tailscaleAuthKey key ++
          '\n' :: (gatewayName ++ ['='] ++ lastWritten.2))) = some made := sourced
      have value : lastValue gatewayName made = some name := value
      rw [lines, source_line later isName_headscaleUrl harmlessUrl,
        source_line later isName_tailscaleAuthKey harmlessKey] at sourced
      obtain ⟨others, afterUrl, rfl⟩ := Option.map_eq_some_iff.mp sourced
      obtain ⟨lastMade, afterKey, rfl⟩ := Option.map_eq_some_iff.mp afterUrl
      have url_ne : headscaleUrl ≠ gatewayName := by decide
      have key_ne : tailscaleAuthKey ≠ gatewayName := by decide
      rw [lastValue_cons_of_ne url_ne, lastValue_cons_of_ne key_ne] at value
      exact ⟨lastWritten, lastMade, rfl, afterKey, value⟩

/-- What stands for itself before a newline does so at the end of a text. -/
theorem literal_of_newline {text : Text} (stands : Literal text ['\n']) : Literal text [] := by
  induction text with
  | nil => trivial
  | cons c text ih =>
      refine ⟨?_, ih stands.2⟩
      cases text with
      | nil =>
          have here := stands.1
          simpa [literal, opens, opensExpansion, isQuote] using here
      | cons next text => simpa [literal, opens] using stands.1

/-- In ordinary shells no other name gets through: each character that means something there is lost. -/
theorem harmless_of_survives (ordinary : Ordinary shell) (ordinaryLater : Ordinary later) (harmlessUrl : Harmless url)
    (harmlessKey : Harmless key) {result : Configured} (survives : Survives shell later url key name after result) :
    Harmless name := by
  obtain ⟨written, made, expanded, sourced, value⟩ := lastLine_of_survives harmlessUrl harmlessKey survives
  obtain ⟨tokens, scanned, read⟩ := Option.bind_eq_some_iff.mp sourced
  rw [scan_assignment later isName_gatewayName] at scanned
  have front : marks (raw (literals (gatewayName ++ ['=']))) = 0 := by decide
  have nul := marks_dropNul_le name
  have token := Nat.le_trans (marks_lastValue value) (assignments_le ordinaryLater read)
  have scanLe := scan_le ordinaryLater (s := .within .plain (literals (gatewayName ++ ['=']))) (absurd rfl) scanned
  have expandLe := expandText_le ordinary expanded
  have within : marks (raw (State.within .plain (literals (gatewayName ++ ['=']))).read) = 0 := front
  have pending : (State.within .plain (literals (gatewayName ++ ['=']))).mode.pending = 0 := rfl
  rw [within, pending] at scanLe
  rcases expandText_newline_or ordinary expanded with ⟨last, ends⟩ | less
  · simp only [marks_append, marks_cons, marks_nil, mark_newline, Bool.false_eq_true, if_false] at expandLe
    rw [ends, marks_append, marks_cons, marks_nil, mark_newline] at expandLe
    rw [ends] at scanned
    obtain ⟨literal, rfl⟩ := scan_exact ordinaryLater scanned (by omega)
    rw [assignments, splitAssignment_line isName_gatewayName] at read
    obtain rfl := Option.some.inj read
    have same : valueText later 0 true (literals last) = name := Option.some.inj value
    have valueLe := valueText_le ordinaryLater 0 true (literals last)
    rw [same, raw_literals] at valueLe
    have free : tildeFree true last = true := tildeFree_of_le ordinaryLater (by rw [same]; omega)
    rw [valueText_literals later free] at same
    subst same
    exact ⟨literal_of_newline literal, free, notMem_nul (by omega)⟩
  · simp only [and_self, if_true] at less
    omega

/-- A shell in which no variable is set and everyone is at home at the same place. -/
def bareShell : Context where
  dollar rest := if rest.head?.any isNameStart then some ⟨[], [], (rest.takeWhile isNameChar).length⟩ else none
  backquote _ := none
  home _ := some "/root".toList

theorem ordinary_bareShell : Ordinary bareShell where
  dollar text expansion read := by
    unfold bareShell at read
    simp only at read
    split at read
    · obtain rfl := Option.some.inj read
      rfl
    · cases read
  backquote _ _ read := by cases read
  home _ := ⟨_, rfl, by decide⟩

/-- The name Tailscale is started with is the gateway's, and nothing in it is run, exactly where the name is harmless. -/
theorem gatewayName_survives_iff (name : Text) :
    (∀ (shell later : Context) (url key after : Text), Harmless url → Harmless key →
        ∃ result, Survives shell later url key name after result) ↔ Harmless name := by
  constructor
  · intro survives
    obtain ⟨result, here⟩ := survives bareShell bareShell [] [] [] harmless_nil harmless_nil
    exact harmless_of_survives ordinary_bareShell ordinary_bareShell harmless_nil harmless_nil here
  · intro harmless shell later url key after harmlessUrl harmlessKey
    exact ⟨_, survives_of_harmless shell later harmlessUrl harmlessKey harmless after⟩

/-- For the gateway `a b`, sourcing the file is no assignment: it runs `b`. -/
theorem gatewayName_with_blank_lost :
    ¬ ∀ name : Text, 1 ≤ name.length → name.length ≤ 128 →
      ∀ (shell later : Context) (url key after : Text), Harmless url → Harmless key →
        ∃ result, Survives shell later url key name after result := by
  intro survives
  obtain ⟨result, configured, -⟩ :=
    survives ['a', ' ', 'b'] (by decide) (by decide) bareShell bareShell [] [] [] harmless_nil harmless_nil
  have stops : configure bareShell bareShell [] [] ['a', ' ', 'b'] [] = none := by decide +kernel
  rw [stops] at configured
  cases configured

end DeepOrc.CloudInit
