import DeepOrc.HostSetup.Rendering

/-!
# The name of a group in its scripts

The name stands in a comment, which ends with the line. What a name holds after its first line is read as commands.
-/

namespace DeepOrc.HostSetup

open Lan (CreatePeerGroupRequest createGroup)
open Models (Db PyError)

/-! ### Lines of a script -/

/-- Blanks may stand before the sign. -/
def isComment (line : Text) : Bool := (line.dropWhile fun c => c = ' ' || c = '\t').head? = some '#'

def commandsOf (text : Text) : List Text := (text.splitOn '\n').filter fun line => !isComment line

def commandLines (script : String) : List Text := commandsOf script.toList

/-- The lines after the first that are no comments. -/
def nameCommands (name : String) : List Text := (name.toList.splitOn '\n').tail.filter fun line => !isComment line

/-- Both scripts run the same commands for the one group as for the other. -/
def SameCommands (one other : Lan.PeerGroup) (entries : List Entry) : Prop :=
  (renderExitHostScript one entries).map commandLines = (renderExitHostScript other entries).map commandLines ∧
    commandLines (renderExitHostTeardownScript one (entries.map Prod.fst)) =
      commandLines (renderExitHostTeardownScript other (entries.map Prod.fst))

theorem commandLines_joinLines {lines : List String} (filled : lines ≠ []) :
    commandLines (joinLines lines) = (lines.flatMap fun line => commandsOf line.toList) ++ [[]] := by
  have texts : lines.map String.toList ≠ [] := by simpa using filled
  unfold commandLines joinLines commandsOf
  rw [String.toList_append, String.toList_intercalate]
  rw [show ("\n" : String).toList = ['\n'] from rfl, Lib.Text.splitOn_intercalate_append texts, List.filter_append,
    List.flatMap_map, List.filter_flatMap]
  rfl

/-- In a comment only what follows a line break counts. -/
theorem commandsOf_comment {start : Text} (single : '\n' ∉ start) (comment : ∀ text, isComment (start ++ text) = true)
    (name : String) : commandsOf (start ++ name.toList) = nameCommands name := by
  unfold commandsOf nameCommands
  rw [Lib.Text.splitOn_append single, List.filter_cons_of_neg (by simp [comment])]

theorem nameCommands_of_single_line {name : String} (single : '\n' ∉ name.toList) : nameCommands name = [] := by
  unfold nameCommands
  rw [List.splitOn_eq_singleton single]
  rfl

/-! ### The scripts of one group under two names -/

def setupTitle : String := "# deepOrc exit host — peer group: "

def teardownTitle : String := "# Tear down deepOrc exit host — peer group: "

theorem commandsOf_setupTitle (name : String) : commandsOf (setupTitle ++ name).toList = nameCommands name := by
  rw [String.toList_append]
  exact commandsOf_comment (by decide) (fun _ => rfl) name

theorem commandsOf_teardownTitle (name : String) : commandsOf (teardownTitle ++ name).toList = nameCommands name := by
  rw [String.toList_append]
  exact commandsOf_comment (by decide) (fun _ => rfl) name

theorem commandsOf_shebang : commandsOf ("#!/usr/bin/env bash" : String).toList = [] := by decide

/-- Apart from the name's own lines, the script is that of any other name. -/
theorem setup_commandLines (group : Lan.PeerGroup) (entries : List Entry) (lanGw : String) :
    ∃ rest, ∀ name, commandLines (joinLines (setupHeader { group with name } entries lanGw ++
      setupBody { group with name } entries)) = nameCommands name ++ rest := by
  refine ⟨((setupHeader group entries lanGw).drop 2 ++ setupBody group entries).flatMap
    (fun line => commandsOf line.toList) ++ [[]], ?_⟩
  intro name
  have lines : setupHeader { group with name } entries lanGw ++ setupBody { group with name } entries =
      "#!/usr/bin/env bash" :: (setupTitle ++ name) ::
        ((setupHeader group entries lanGw).drop 2 ++ setupBody group entries) := by
    rfl
  rw [lines, commandLines_joinLines (List.cons_ne_nil _ _), List.flatMap_cons, List.flatMap_cons, commandsOf_shebang,
    commandsOf_setupTitle, List.nil_append, List.append_assoc]

theorem teardown_commandLines (group : Lan.PeerGroup) (gateways : List ScriptGateway) :
    ∃ rest, ∀ name, commandLines (renderExitHostTeardownScript { group with name } gateways) =
      nameCommands name ++ rest := by
  refine ⟨(["set -euo pipefail", ""] ++ (gateways.flatMap teardownLines ++ ["echo 'Teardown done.'"])).flatMap
    (fun line => commandsOf line.toList) ++ [[]], ?_⟩
  intro name
  have lines : renderExitHostTeardownScript { group with name } gateways =
      joinLines ("#!/usr/bin/env bash" :: (teardownTitle ++ name) ::
        (["set -euo pipefail", ""] ++ (gateways.flatMap teardownLines ++ ["echo 'Teardown done.'"]))) := by
    rfl
  rw [lines, commandLines_joinLines (List.cons_ne_nil _ _), List.flatMap_cons, List.flatMap_cons, commandsOf_shebang,
    commandsOf_teardownTitle, List.nil_append, List.append_assoc]

/-- Two names of an accepted group change no command exactly if they hold the same commands after their first lines. -/
theorem group_name_only_label_iff {taken : List String} {db : Db} {request : CreatePeerGroupRequest}
    {one other : Lan.PeerGroup} (accepted : createGroup taken db request = .ok one)
    (alike : other = { one with name := other.name }) (entries : List Entry) :
    SameCommands one other entries ↔ nameCommands one.name = nameCommands other.name := by
  obtain ⟨setupRest, setup⟩ := setup_commandLines one entries one.lanGateway
  obtain ⟨teardownRest, teardown⟩ := teardown_commandLines one (entries.map Prod.fst)
  have script : ∀ name, (renderExitHostScript { one with name } entries).map commandLines =
      .ok (nameCommands name ++ setupRest) := by
    intro name
    have router : lanGw { one with name } = .ok one.lanGateway := if_neg (Lan.accepted_lanGateway accepted)
    rw [renderExitHostScript, router]
    exact congrArg Except.ok (setup name)
  have first : (renderExitHostScript one entries).map commandLines = .ok (nameCommands one.name ++ setupRest) :=
    script one.name
  have second : (renderExitHostScript other entries).map commandLines = .ok (nameCommands other.name ++ setupRest) := by
    rw [alike]
    exact script other.name
  have firstDown : commandLines (renderExitHostTeardownScript one (entries.map Prod.fst)) =
      nameCommands one.name ++ teardownRest := teardown one.name
  have secondDown : commandLines (renderExitHostTeardownScript other (entries.map Prod.fst)) =
      nameCommands other.name ++ teardownRest := by
    rw [alike]
    exact teardown other.name
  unfold SameCommands
  rw [first, second, firstDown, secondDown]
  constructor
  · intro same
    exact List.append_cancel_right (Except.ok.inj same.1)
  · intro same
    rw [same]
    exact ⟨rfl, rfl⟩

def labWorkers : Db :=
  { Db.empty with workers := Lib.Table.empty.insert ⟨"w", "w", "", true, none, 51000, 51999, 0, 0⟩ }

def labRequest (name : String) : CreatePeerGroupRequest := ⟨name, 1, .v4 0xC0A80D64, none, none, none⟩

def labRow (name : String) : Lan.PeerGroup := ⟨name, 1, .v4 ⟨0xC0A80D00, 24⟩, .v4 0xC0A80D64, "192.168.13.254", none⟩

/-- A name with a line break inside adds a command. -/
theorem group_name_runs : ¬ ∀ (taken : List String) (db : Db) (request request' : CreatePeerGroupRequest)
    (one other : Lan.PeerGroup) (entries : List Entry), createGroup taken db request = .ok one →
      createGroup taken db request' = .ok other → other = { one with name := other.name } →
        SameCommands one other entries := by
  intro label
  have accepted : createGroup [] labWorkers (labRequest "lab") = .ok (labRow "lab") := by rfl
  have broken : createGroup [] labWorkers (labRequest "lab\nreboot") = .ok (labRow "lab\nreboot") := by rfl
  have same := (label [] labWorkers _ _ _ _ [] accepted broken rfl).2
  exact absurd same (by decide +kernel)

theorem group_name_only_label_lab : SameCommands (labRow "lab") (labRow "attic") [] := by
  have accepted : createGroup [] labWorkers (labRequest "lab") = .ok (labRow "lab") := by rfl
  apply (group_name_only_label_iff accepted rfl []).mpr
  exact (nameCommands_of_single_line (by decide)).trans (nameCommands_of_single_line (by decide)).symm

end DeepOrc.HostSetup
