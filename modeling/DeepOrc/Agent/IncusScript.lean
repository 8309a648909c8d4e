import DeepOrc.Lib.Json
import DeepOrc.Lib.ShellGrammar

/-!
# Requests to an agent through Incus

The request is a script that `sh -c` runs inside the instance. Token, address and payload are put between single quotes.
-/

namespace DeepOrc.Agent

open Lib (Json)
open Lib.Shell (Context Command Redirect Text Written commandText quote script)

/-! ### The payload -/

/-- `\uXXXX` -/
def escapeUnit (n : Nat) : Text :=
  ['\\', 'u', Json.hexDigit (n / 4096 % 16), Json.hexDigit (n / 256 % 16), Json.hexDigit (n / 16 % 16),
    Json.hexDigit (n % 16)]

/-- One character of a string as `json.dumps` writes it, in ASCII. -/
def escapeAscii (c : Char) : Text :=
  if c = '"' then ['\\', '"']
  else if c = '\\' then ['\\', '\\']
  else if c = '\n' then ['\\', 'n']
  else if c = '\r' then ['\\', 'r']
  else if c = '\t' then ['\\', 't']
  else if c = '\x0c' then ['\\', 'f']
  else if c = '\x08' then ['\\', 'b']
  else if ' ' ≤ c ∧ c ≤ '~' then [c]
  else if c.toNat < 0x10000 then escapeUnit c.toNat
  else
    let offset := c.toNat - 0x10000
    escapeUnit (0xd800 + offset / 1024) ++ escapeUnit (0xdc00 + offset % 1024)

def dumpString (text : Text) : Text := '"' :: text.flatMap escapeAscii ++ ['"']

mutual

def dumps : Json → Text
  | .null => ['n', 'u', 'l', 'l']
  | .bool true => ['t', 'r', 'u', 'e']
  | .bool false => ['f', 'a', 'l', 's', 'e']
  | .number literal => literal.text
  | .string text => dumpString text
  | .array [] => ['[', ']']
  | .array (item :: items) => '[' :: dumps item ++ dumpItems items
  | .object [] => ['{', '}']
  | .object ((key, value) :: members) => '{' :: dumpString key ++ [':', ' '] ++ dumps value ++ dumpMembers members

def dumpItems : List Json → Text
  | [] => [']']
  | item :: items => [',', ' '] ++ dumps item ++ dumpItems items

def dumpMembers : List (Text × Json) → Text
  | [] => ['}']
  | (key, value) :: members => [',', ' '] ++ dumpString key ++ [':', ' '] ++ dumps value ++ dumpMembers members

end

/-! ### The script -/

def authorization (token : Text) : Text := "Authorization: Bearer ".toList ++ token

/-- `json.dumps(body) if body is not None else ""` -/
def payload (body : Option (List (Text × Json))) : Text := (body.map fun members => dumps (.object members)).getD []

def incusHttpScript (token method url : Text) (body : Option (List (Text × Json))) : Text :=
  let authQ := quote (authorization token)
  let urlQ := quote url
  let payloadQ := quote (payload body)
  if method = "GET".toList then
    "wget -qO- -T 30 --header='".toList ++ authQ ++ "' '".toList ++ urlQ ++ "'".toList
  else if method = "POST".toList then
    "wget -qO- -T 30 --header='".toList ++ authQ ++ "' ".toList ++ "--header='Content-Type: application/json' ".toList ++
      "--post-data='".toList ++ payloadQ ++ "' '".toList ++ urlQ ++ "'".toList
  else if body.isSome then
    "if command -v curl >/dev/null 2>&1; then ".toList ++ "curl -sf -X ".toList ++ method ++ " -H '".toList ++ authQ ++
      "' ".toList ++ "-H 'Content-Type: application/json' ".toList ++ "-d '".toList ++ payloadQ ++ "' '".toList ++
      urlQ ++ "'; ".toList ++ "else exit 127; fi".toList
  else
    "if command -v curl >/dev/null 2>&1; then ".toList ++ "curl -sf -X ".toList ++ method ++ " -H '".toList ++ authQ ++
      "' '".toList ++ urlQ ++ "'; ".toList ++ "else exit 127; fi".toList

/-! ### The commands that are meant -/

def wgetOptions : List Text := ["-qO-".toList, "-T".toList, "30".toList]

def contentType : Text := "Content-Type: application/json".toList

/-- `if command -v curl >/dev/null 2>&1; then …; else exit 127; fi` -/
def withCurl (arguments : List Text) : Command :=
  .conditional
    [.simple ["command".toList, "-v".toList, "curl".toList]
      [⟨[], ['>'], "/dev/null".toList⟩, ⟨[.char false '2'], ['>', '&'], ['1']⟩]]
    [.simple arguments []]
    [.simple ["exit".toList, "127".toList] []]

/-- The one command of each template, with token, address and payload as arguments of their own. -/
def intended (token method url : Text) (body : Option (List (Text × Json))) : Command :=
  let header := authorization token
  if method = "GET".toList then
    .simple ("wget".toList :: wgetOptions ++ ["--header=".toList ++ header, url]) []
  else if method = "POST".toList then
    .simple ("wget".toList :: wgetOptions ++ ["--header=".toList ++ header, "--header=".toList ++ contentType,
      "--post-data=".toList ++ payload body, url]) []
  else if body.isSome then
    withCurl ["curl".toList, "-sf".toList, "-X".toList, method, "-H".toList, header, "-H".toList, contentType,
      "-d".toList, payload body, url]
  else withCurl ["curl".toList, "-sf".toList, "-X".toList, method, "-H".toList, header, url]

/-! ### Reading the script back -/

open Lib.Shell (Token Word NamesCommand scan commandList commandList_simple commandList_words commandList_keyword
  commandList_if commandsAfter_semicolon isKeyword isPlainWord isPlainWord_iff keywords scan_cons scan_of_step
  simpleCommand)

def bare (text : String) : Written := ⟨text.toList, none⟩

def quoted (text : Text) : Written := ⟨[], some text⟩

theorem bare_valid {text : String} (plain : isPlainWord text.toList = true) : (bare text).Valid :=
  .inl (isPlainWord_iff.mp plain)

theorem quoted_valid (text : Text) : (quoted text).Valid := .inr ⟨rfl, rfl⟩

theorem option_valid {text : String} (plain : isPlainWord text.toList = true) (value : Text) :
    Written.Valid ⟨text.toList, some value⟩ := .inl (isPlainWord_iff.mp plain)

theorem namesCommand_wget : NamesCommand (bare "wget").word := ⟨by decide, by decide⟩

theorem namesCommand_curl : NamesCommand (bare "curl").word := ⟨by decide, by decide⟩

variable (shell : Context)

/-! The fixed parts of the templates are the texts of arguments and the quotes around those that vary. -/

theorem wget_text : "wget -qO- -T 30 --header='".toList =
    (bare "wget").text ++ ([' '] ++ ((bare "-qO-").text ++ ([' '] ++ ((bare "-T").text ++ ([' '] ++
      ((bare "30").text ++ ([' '] ++ ("--header=".toList ++ ['\''])))))))) := by decide

theorem contentHeader_text : "--header='Content-Type: application/json' ".toList =
    Written.text ⟨"--header=".toList, some contentType⟩ ++ [' '] := by decide

theorem curl_text : "curl -sf -X ".toList =
    (bare "curl").text ++ ([' '] ++ ((bare "-sf").text ++ ([' '] ++ ((bare "-X").text ++ [' '])))) := by decide

theorem contentOption_text : "-H 'Content-Type: application/json' ".toList =
    (bare "-H").text ++ ([' '] ++ ((quoted contentType).text ++ [' '])) := by decide

theorem authOption_text : " -H '".toList = [' '] ++ ((bare "-H").text ++ ([' '] ++ ['\''])) := by decide

theorem dataOption_text : "-d '".toList = (bare "-d").text ++ ([' '] ++ ['\'']) := by decide

theorem between_text : "' '".toList = ['\''] ++ ([' '] ++ ['\'']) := by decide

theorem behind_text : "' ".toList = ['\''] ++ [' '] := by decide

theorem otherwise_text : "'; ".toList ++ "else exit 127; fi".toList = ['\''] ++ "; else exit 127; fi".toList := by decide

theorem written_text (option value : Text) :
    Written.text ⟨option, some value⟩ = option ++ (['\''] ++ (quote value ++ ['\''])) := rfl

theorem quoted_text (value : Text) : (quoted value).text = ['\''] ++ (quote value ++ ['\'']) := rfl

theorem script_get (token url : Text) (body : Option (List (Text × Json))) :
    script shell (incusHttpScript token "GET".toList url body) = some [intended token "GET".toList url body] := by
  have written : incusHttpScript token "GET".toList url body =
      commandText (bare "wget" :: [bare "-qO-", bare "-T", bare "30",
        ⟨"--header=".toList, some (authorization token)⟩, quoted url]) := by
    rw [incusHttpScript, if_pos rfl]
    simp only [wget_text, between_text, commandText, List.map_cons, List.map_nil, List.intercalate_cons_cons,
      List.intercalate_singleton, List.append_assoc, written_text, quoted_text]
    rfl
  rw [written, Lib.Shell.script_commandText shell _ namesCommand_wget]
  · rfl
  · simp only [List.mem_cons, List.not_mem_nil, or_false]
    rintro argument (rfl | rfl | rfl | rfl | rfl | rfl)
    · exact bare_valid (by decide)
    · exact bare_valid (by decide)
    · exact bare_valid (by decide)
    · exact bare_valid (by decide)
    · exact option_valid (by decide) _
    · exact quoted_valid url

theorem script_post (token url : Text) (body : Option (List (Text × Json))) :
    script shell (incusHttpScript token "POST".toList url body) = some [intended token "POST".toList url body] := by
  have written : incusHttpScript token "POST".toList url body =
      commandText (bare "wget" :: [bare "-qO-", bare "-T", bare "30",
        ⟨"--header=".toList, some (authorization token)⟩, ⟨"--header=".toList, some contentType⟩,
        ⟨"--post-data=".toList, some (payload body)⟩, quoted url]) := by
    have data : "--post-data='".toList = "--post-data=".toList ++ ['\''] := by decide
    rw [incusHttpScript, if_neg (by decide), if_pos rfl]
    simp only [wget_text, contentHeader_text, between_text, behind_text, data, commandText, List.map_cons,
      List.map_nil, List.intercalate_cons_cons, List.intercalate_singleton, List.append_assoc, written_text,
      quoted_text]
    rfl
  rw [written, Lib.Shell.script_commandText shell _ namesCommand_wget]
  · rfl
  · simp only [List.mem_cons, List.not_mem_nil, or_false]
    rintro argument (rfl | rfl | rfl | rfl | rfl | rfl | rfl | rfl)
    · exact bare_valid (by decide)
    · exact bare_valid (by decide)
    · exact bare_valid (by decide)
    · exact bare_valid (by decide)
    · exact option_valid (by decide) _
    · exact option_valid (by decide) _
    · exact option_valid (by decide) _
    · exact quoted_valid url

/-- The tokens of the condition, up to its branch. -/
def conditionTokens : List Token :=
  [.word (bare "if").word, .word (bare "command").word, .word (bare "-v").word, .word (bare "curl").word,
    .operator ['>'], .word (bare "/dev/null").word, .number (bare "2").word, .operator ['>', '&'],
    .word (bare "1").word, .operator [';'], .word (bare "then").word]

/-- The tokens of the other branch. -/
def otherwiseTokens : List Token :=
  [.operator [';'], .word (bare "else").word, .word (bare "exit").word, .word (bare "127").word, .operator [';'],
    .word (bare "fi").word]

theorem scan_condition (rest : Text) :
    scan shell .start ("if command -v curl >/dev/null 2>&1; then ".toList ++ rest) =
      (scan shell .start rest).map (conditionTokens ++ ·) := by
  have cut : "if command -v curl >/dev/null 2>&1; then ".toList ++ rest =
      "if".toList ++ ' ' :: ("command".toList ++ ' ' :: ("-v".toList ++ ' ' :: ("curl".toList ++ ' ' :: '>' ::
        ("/dev/null".toList ++ ' ' :: '2' :: '>' :: '&' :: '1' :: ';' :: ' ' :: ("then".toList ++ ' ' :: rest))))) := rfl
  have discard (rest : Text) : scan shell .start ('>' :: ("/dev/null".toList ++ rest)) =
      (scan shell .start ("/dev/null".toList ++ rest)).map (.operator ['>'] :: ·) := rfl
  have merge (rest : Text) : scan shell .start ('2' :: '>' :: '&' :: '1' :: ';' :: ' ' :: rest) =
      (scan shell .start rest).map ([.number (bare "2").word, .operator ['>', '&'], .word (bare "1").word,
        .operator [';']] ++ ·) := by
    have digit : scan shell .start ('2' :: '>' :: '&' :: '1' :: ';' :: ' ' :: rest) =
        scan shell (.within .plain (bare "2").word) ('>' :: '&' :: '1' :: ';' :: ' ' :: rest) :=
      scan_of_step shell rfl
    have redirect : scan shell (.within .plain (bare "2").word) ('>' :: '&' :: '1' :: ';' :: ' ' :: rest) =
        (scan shell ⟨1, .plain, none⟩ ('&' :: '1' :: ';' :: ' ' :: rest)).map
          ([.number (bare "2").word, .operator ['>', '&']] ++ ·) :=
      scan_cons shell rfl
    have target : scan shell ⟨1, .plain, none⟩ ('&' :: '1' :: ';' :: ' ' :: rest) =
        scan shell (.within .plain (bare "1").word) (';' :: ' ' :: rest) :=
      (scan_of_step shell rfl).trans (scan_of_step shell rfl)
    have terminator : scan shell (.within .plain (bare "1").word) (';' :: ' ' :: rest) =
        (scan shell .start (' ' :: rest)).map ([.word (bare "1").word, .operator [';']] ++ ·) :=
      scan_cons shell rfl
    have blank : scan shell .start (' ' :: rest) = scan shell .start rest := scan_of_step shell rfl
    rw [digit, redirect, target, terminator, blank, Option.map_map]
    rfl
  have plain {text : String} (word : isPlainWord text.toList = true) (rest : Text) :=
    (isPlainWord_iff.mp word).scan_blank shell rest
  rw [cut, plain (by decide), plain (by decide), plain (by decide), plain (by decide), discard, plain (by decide),
    merge, plain (by decide)]
  simp only [Option.map_map]
  rfl

theorem scan_otherwise (word : Word) :
    scan shell (.within .plain word) "; else exit 127; fi".toList = some (.word word :: otherwiseTokens) := rfl

theorem commandList_withCurl {first : Written} {arguments : List Written}
    (valid : ∀ written ∈ first :: arguments, written.Valid) (names : NamesCommand first.word) (fuel : Nat) :
    commandList (fuel + 4) (conditionTokens ++
        (((first :: arguments).map fun written => Token.word written.word) ++ otherwiseTokens)) =
      some ([withCurl ((first :: arguments).map Written.value)], []) := by
  have branch : commandList (fuel + 3)
      (((first :: arguments).map fun written => Token.word written.word) ++ otherwiseTokens) =
        some ([.simple ((first :: arguments).map Written.value) []], otherwiseTokens.tail) := by
    have other : keywords.any (isKeyword (bare "else").word) = true := by decide
    rw [commandList_words valid names rfl, otherwiseTokens, commandsAfter_semicolon,
      commandList_keyword other (by decide)]
    rfl
  generalize ((first :: arguments).map fun written => Token.word written.word) ++ otherwiseTokens = tokens at branch ⊢
  have condition : commandList (fuel + 3) (conditionTokens.tail ++ tokens) =
      some ([.simple ["command".toList, "-v".toList, "curl".toList]
        [⟨[], ['>'], "/dev/null".toList⟩, ⟨[.char false '2'], ['>', '&'], ['1']⟩]],
        .word (bare "then").word :: tokens) := by
    have names : NamesCommand (bare "command").word := ⟨by decide, by decide⟩
    have follows : keywords.any (isKeyword (bare "then").word) = true := by decide
    have read : simpleCommand (conditionTokens.tail ++ tokens) =
        some (["command".toList, "-v".toList, "curl".toList],
          [⟨[], ['>'], "/dev/null".toList⟩, ⟨[.char false '2'], ['>', '&'], ['1']⟩],
          .operator [';'] :: .word (bare "then").word :: tokens) := rfl
    have first : conditionTokens.tail ++ tokens =
        .word (bare "command").word :: (conditionTokens.tail.tail ++ tokens) := rfl
    rw [first] at read ⊢
    rw [commandList_simple names read, commandsAfter_semicolon, commandList_keyword follows (by decide)]
    rfl
  have otherwise : commandList (fuel + 3) otherwiseTokens.tail.tail =
      some ([.simple ["exit".toList, "127".toList] []], [.word (bare "fi").word]) := by
    have names : NamesCommand (bare "exit").word := ⟨by decide, by decide⟩
    have follows : keywords.any (isKeyword (bare "fi").word) = true := by decide
    have read : simpleCommand otherwiseTokens.tail.tail =
        some (["exit".toList, "127".toList], [], [.operator [';'], .word (bare "fi").word]) := rfl
    have first : otherwiseTokens.tail.tail = .word (bare "exit").word :: otherwiseTokens.tail.tail.tail := rfl
    rw [first] at read ⊢
    rw [commandList_simple names read, commandsAfter_semicolon, commandList_keyword follows (by decide)]
    rfl
  have read := commandList_if (by decide : isKeyword (bare "if").word "if" = true) (fuel + 3) condition rfl
    branch rfl otherwise rfl
  exact read

theorem script_withCurl {first : Written} {arguments : List Written}
    (valid : ∀ written ∈ first :: arguments, written.Valid) (names : NamesCommand first.word) :
    script shell ("if command -v curl >/dev/null 2>&1; then ".toList ++
        (commandText (first :: arguments) ++ "; else exit 127; fi".toList)) =
      some [withCurl ((first :: arguments).map Written.value)] := by
  have joined := congrArg (List.map fun written => Token.word written.word)
    (List.dropLast_append_getLast (List.cons_ne_nil first arguments))
  rw [List.map_append] at joined
  have tokens : scan shell .start ("if command -v curl >/dev/null 2>&1; then ".toList ++
      (commandText (first :: arguments) ++ "; else exit 127; fi".toList)) =
        some (conditionTokens ++
          (((first :: arguments).map fun written => Token.word written.word) ++ otherwiseTokens)) := by
    rw [scan_condition, Lib.Shell.scan_commandText shell valid, scan_otherwise, Option.map_some, Option.map_some,
      ← joined, List.append_assoc]
    rfl
  have enough (tokens : List Token) (filled : 1 ≤ tokens.length) :
      2 * tokens.length + 2 = 2 * (tokens.length - 1) + 4 := by omega
  rw [script, tokens, Option.bind_some, enough _ (by rw [List.length_append]; exact Nat.le_add_right_of_le (by decide)),
    commandList_withCurl valid names]
  rfl

theorem script_other {method : Text} (plain : isPlainWord method = true) (get : method ≠ "GET".toList)
    (post : method ≠ "POST".toList) (token url : Text) (body : Option (List (Text × Json))) :
    script shell (incusHttpScript token method url body) = some [intended token method url body] := by
  have methodValid : Written.Valid ⟨method, none⟩ := .inl (isPlainWord_iff.mp plain)
  have method_text : Written.text ⟨method, none⟩ = method := List.append_nil method
  cases body with
  | none =>
      have written : incusHttpScript token method url none =
          "if command -v curl >/dev/null 2>&1; then ".toList ++
            (commandText (bare "curl" :: [bare "-sf", bare "-X", ⟨method, none⟩, bare "-H",
              quoted (authorization token), quoted url]) ++ "; else exit 127; fi".toList) := by
        rw [incusHttpScript, if_neg get, if_neg post, if_neg (by decide)]
        simp only [curl_text, authOption_text, between_text, otherwise_text, commandText, List.map_cons, List.map_nil,
          List.intercalate_cons_cons, List.intercalate_singleton, List.append_assoc, quoted_text, method_text]
      rw [written, script_withCurl shell _ namesCommand_curl]
      · rw [intended, if_neg get, if_neg post, if_neg (by decide)]
        simp only [List.map_cons, List.map_nil, Written.value, bare, quoted, Option.getD_none, Option.getD_some,
          List.append_nil, List.nil_append]
      · simp only [List.mem_cons, List.not_mem_nil, or_false]
        rintro argument (rfl | rfl | rfl | rfl | rfl | rfl | rfl)
        · exact bare_valid (by decide)
        · exact bare_valid (by decide)
        · exact bare_valid (by decide)
        · exact methodValid
        · exact bare_valid (by decide)
        · exact quoted_valid _
        · exact quoted_valid url
  | some members =>
      have written : incusHttpScript token method url (some members) =
          "if command -v curl >/dev/null 2>&1; then ".toList ++
            (commandText (bare "curl" :: [bare "-sf", bare "-X", ⟨method, none⟩, bare "-H",
              quoted (authorization token), bare "-H", quoted contentType, bare "-d", quoted (payload (some members)),
              quoted url]) ++ "; else exit 127; fi".toList) := by
        rw [incusHttpScript, if_neg get, if_neg post, if_pos Option.isSome_some]
        simp only [curl_text, authOption_text, contentOption_text, dataOption_text, behind_text, between_text,
          otherwise_text, commandText, List.map_cons, List.map_nil, List.intercalate_cons_cons,
          List.intercalate_singleton, List.append_assoc, quoted_text, method_text]
      rw [written, script_withCurl shell _ namesCommand_curl]
      · rw [intended, if_neg get, if_neg post, if_pos Option.isSome_some]
        simp only [List.map_cons, List.map_nil, Written.value, bare, quoted, Option.getD_none, Option.getD_some,
          List.append_nil, List.nil_append]
      · simp only [List.mem_cons, List.not_mem_nil, or_false]
        rintro argument (rfl | rfl | rfl | rfl | rfl | rfl | rfl | rfl | rfl | rfl | rfl)
        · exact bare_valid (by decide)
        · exact bare_valid (by decide)
        · exact bare_valid (by decide)
        · exact methodValid
        · exact bare_valid (by decide)
        · exact quoted_valid _
        · exact bare_valid (by decide)
        · exact quoted_valid _
        · exact bare_valid (by decide)
        · exact quoted_valid _
        · exact quoted_valid url

/-! ### Nothing breaks out -/

/-- The arguments of the command that makes the request. -/
def requestArguments : Command → List Text
  | .simple arguments _ => arguments
  | .conditional _ [.simple arguments _] _ => arguments
  | .conditional _ _ _ => []

/-- The text is one of the arguments, with or without an option in front of it. -/
def Carries (arguments : List Text) (text : Text) : Prop :=
  ∃ option ∈ [[], "--header=".toList, "--post-data=".toList], option ++ text ∈ arguments

theorem intended_carries (token method url : Text) (body : Option (List (Text × Json))) :
    Carries (requestArguments (intended token method url body)) (authorization token) ∧
      url ∈ requestArguments (intended token method url body) ∧
      (method ≠ "GET".toList → body.isSome = true →
        Carries (requestArguments (intended token method url body)) (payload body)) := by
  unfold intended
  split
  · exact ⟨⟨"--header=".toList, by simp, by simp [requestArguments]⟩, by simp [requestArguments],
      fun other => absurd ‹_› other⟩
  · split
    · exact ⟨⟨"--header=".toList, by simp, by simp [requestArguments]⟩, by simp [requestArguments],
        fun _ _ => ⟨"--post-data=".toList, by simp, by simp [requestArguments]⟩⟩
    · split
      · exact ⟨⟨[], by simp, by simp [requestArguments, withCurl]⟩, by simp [requestArguments, withCurl],
          fun _ _ => ⟨[], by simp, by simp [requestArguments, withCurl]⟩⟩
      · exact ⟨⟨[], by simp, by simp [requestArguments, withCurl]⟩, by simp [requestArguments, withCurl],
          fun _ given => absurd given ‹_›⟩

/-- With a method that is one word, the script is the command of its template, whatever token, address and payload are;
each of them is one argument, but for the payload of a GET, which is left out. -/
theorem script_incusHttpScript {method : Text} (plain : isPlainWord method = true) (token url : Text)
    (body : Option (List (Text × Json))) :
    script shell (incusHttpScript token method url body) = some [intended token method url body] ∧
      Carries (requestArguments (intended token method url body)) (authorization token) ∧
      url ∈ requestArguments (intended token method url body) ∧
      (method ≠ "GET".toList → body.isSome = true →
        Carries (requestArguments (intended token method url body)) (payload body)) := by
  refine ⟨?_, intended_carries token method url body⟩
  by_cases get : method = "GET".toList
  · rw [get]
    exact script_get shell token url body
  · by_cases post : method = "POST".toList
    · rw [post]
      exact script_post shell token url body
    · exact script_other shell plain get post token url body

/-- A shell in which nothing is expanded. -/
def bareShell : Context := ⟨fun _ => none, fun _ => none, fun _ => none⟩

theorem script_incusHttpScript_delete :
    script bareShell (incusHttpScript "a'b".toList "DELETE".toList "http://127.0.0.1/$(reboot)'".toList none) =
        some [intended "a'b".toList "DELETE".toList "http://127.0.0.1/$(reboot)'".toList none] ∧
      Carries (requestArguments (intended "a'b".toList "DELETE".toList "http://127.0.0.1/$(reboot)'".toList none))
        (authorization "a'b".toList) ∧
      "http://127.0.0.1/$(reboot)'".toList ∈
        requestArguments (intended "a'b".toList "DELETE".toList "http://127.0.0.1/$(reboot)'".toList none) ∧
      ("DELETE".toList ≠ "GET".toList → (none : Option (List (Text × Json))).isSome = true →
        Carries (requestArguments (intended "a'b".toList "DELETE".toList "http://127.0.0.1/$(reboot)'".toList none))
          (payload none)) :=
  script_incusHttpScript bareShell (by decide) "a'b".toList "http://127.0.0.1/$(reboot)'".toList none

/-- How many commands make the request. -/
def requestCommands : Command → Nat
  | .simple _ _ => 1
  | .conditional _ success _ => success.length

/-- The script of a GET has no place for a payload, and a method that is not one word adds a command. -/
theorem get_drops_payload :
    (¬∀ (token method url : Text) (members : List (Text × Json)), ∃ commands,
      script bareShell (incusHttpScript token method url (some members)) = some commands ∧
        ∃ command ∈ commands, Carries (requestArguments command) (payload (some members))) ∧
    (script bareShell (incusHttpScript [] "X;reboot".toList [] none)).map (List.map requestCommands) = some [2] := by
  constructor
  · intro claimed
    obtain ⟨commands, read, command, member, option, listed, carried⟩ :=
      claimed [] "GET".toList [] [("a".toList, .null)]
    rw [script_get] at read
    obtain rfl := Option.some.inj read
    rw [List.mem_singleton.mp member] at carried
    simp only [List.mem_cons, List.not_mem_nil, or_false] at listed
    rcases listed with rfl | rfl | rfl <;> revert carried <;> decide
  · decide +kernel

end DeepOrc.Agent
