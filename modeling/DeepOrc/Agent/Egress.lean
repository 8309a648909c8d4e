import DeepOrc.Models
import DeepOrc.Naming
import DeepOrc.Lib.EnvFile
import DeepOrc.Lib.IpAddress

/-!
# The public address of a gateway

The agent asks one lookup service after the other. An answer is used if its first line is an IP address.
-/

namespace DeepOrc.Agent

open Models (PyError)
open Naming (strip)
open Lib.EnvFile (Text splitLines)
open Lib.IpAddress (ipAddress)

/-! ### Texts in error messages -/

def hexText (width n : Nat) : Text :=
  let digits := Nat.toDigits 16 n
  List.replicate (width - digits.length) '0' ++ digits

/-- How `repr` writes one character; `printable` classifies those outside ASCII. -/
def reprChar (printable : Char → Bool) (quote c : Char) : Text :=
  if c = quote ∨ c = '\\' then ['\\', c]
  else if c = '\t' then ['\\', 't']
  else if c = '\n' then ['\\', 'n']
  else if c = '\r' then ['\\', 'r']
  else if c < ' ' ∨ c = '\x7f' then '\\' :: 'x' :: hexText 2 c.toNat
  else if c < '\x7f' ∨ printable c then [c]
  else if c.toNat ≤ 0xff then '\\' :: 'x' :: hexText 2 c.toNat
  else if c.toNat ≤ 0xffff then '\\' :: 'u' :: hexText 4 c.toNat
  else '\\' :: 'U' :: hexText 8 c.toNat

def repr (printable : Char → Bool) (text : Text) : Text :=
  let quote := if '\'' ∈ text ∧ '"' ∉ text then '"' else '\''
  quote :: text.flatMap (reprChar printable quote) ++ [quote]

/-! ### The lookup -/

/-- What `subprocess.run` gives back of one `wget`. -/
structure Lookup where
  returncode : Int
  stdout : Text
  stderr : Text
deriving DecidableEq

inductive LookupError where
  | runtime (text : Text)
  | index
deriving DecidableEq

def ipify : Text := "https://api.ipify.org".toList

def ifconfig : Text := "https://ifconfig.me/ip".toList

def services : List Text := [ipify, ifconfig]

/-- Python's `or` on texts. -/
def orElse (first second : Text) : Text := if first = [] then second else first

/-- The loop over the services still to ask: those it asks and how it ends. -/
def tryServices (printable : Char → Bool) (wget : Text → Lookup) (errors : List Text) :
    List Text → List Text × Except LookupError Text
  | [] => ([], .error (.runtime (errors.getLastD "egress ip lookup failed".toList)))
  | url :: urls =>
      let result := wget url
      let goOn (error : Text) : List Text × Except LookupError Text :=
        let later := tryServices printable wget (errors ++ [error]) urls
        (url :: later.1, later.2)
      if result.returncode ≠ 0 then goOn (orElse (strip result.stderr) (orElse (strip result.stdout) url))
      else
        -- `[0]` on no lines at all raises `IndexError`, which nothing in the loop handles.
        match (splitLines [] (strip result.stdout)).head? with
        | none => ([url], .error .index)
        | some line =>
            let candidate := strip line
            if (ipAddress candidate).isSome then ([url], .ok candidate)
            else goOn ("invalid response from ".toList ++ url ++ ": ".toList ++ repr printable candidate)

def fetchEgressPublicIp (printable : Char → Bool) (wget : Text → Lookup) : List Text × Except LookupError Text :=
  tryServices printable wget [] services

/-! ### The endpoint and its caller -/

/-- What the agent answers: the address, or a status with its detail. -/
inductive EgressAnswer where
  | ip (text : Text)
  | status (code : Nat) (detail : Text)
deriving DecidableEq

def egressPublicIp : Except LookupError Text → EgressAnswer
  | .ok ip => .ip ip
  | .error (.runtime text) => .status 503 text
  | .error .index => .status 500 "Internal Server Error".toList

/-- `GatewayAgentClient.egress_public_ip` on the agent's answer; `viaIncus` is the lookup inside the instance, if the
client knows one. -/
def clientEgressPublicIp (viaIncus : Option (Except PyError Text)) : EgressAnswer → Except PyError Text
  | .ip text => .ok text
  | .status code detail =>
      let error := PyError.other (String.ofList detail)
      match viaIncus with
      | none => .error error
      | some lookup => if code = 404 ∨ code = 503 then lookup else .error error

/-! ### Which outcomes are handled -/

/-- The first line of a successful answer, where it is an address. -/
def validAnswer (result : Lookup) : Option Text :=
  if result.returncode = 0 then
    ((splitLines [] (strip result.stdout)).head?.map strip).filter fun candidate => (ipAddress candidate).isSome
  else none

/-- A success that says nothing. -/
def Blank (result : Lookup) : Prop := result.returncode = 0 ∧ strip result.stdout = []

instance : DecidablePred Blank := fun result => inferInstanceAs (Decidable (result.returncode = 0 ∧ _))

def valid (wget : Text → Lookup) (url : Text) : Bool := (validAnswer (wget url)).isSome

/-- The services are asked up to the first valid answer, which is the result; without one the lookup raises
`RuntimeError`. -/
structure FallsBack (wget : Text → Lookup) (urls : List Text) (result : List Text × Except LookupError Text) :
    Prop where
  asked : result.1 = urls.take (urls.findIdx (valid wget) + 1)
  found : ∀ ip, (urls.findSome? fun url => validAnswer (wget url)) = some ip → result.2 = .ok ip
  missing : (urls.findSome? fun url => validAnswer (wget url)) = none → ∃ text, result.2 = .error (.runtime text)

theorem splitLines_eq_nil_iff {line text : Text} : splitLines line text = [] ↔ line = [] ∧ text = [] := by
  fun_induction splitLines line text <;> simp_all

/-- The three ways an answer is refused, and the one way it is not. -/
theorem tryServices_cons (printable : Char → Bool) (wget : Text → Lookup) (errors : List Text) (url : Text)
    (urls : List Text) :
    (∃ ip, validAnswer (wget url) = some ip ∧ tryServices printable wget errors (url :: urls) = ([url], .ok ip)) ∨
    (Blank (wget url) ∧ validAnswer (wget url) = none ∧
      tryServices printable wget errors (url :: urls) = ([url], .error .index)) ∨
    (¬Blank (wget url) ∧ validAnswer (wget url) = none ∧ ∃ error,
      tryServices printable wget errors (url :: urls) =
        (url :: (tryServices printable wget (errors ++ [error]) urls).1,
          (tryServices printable wget (errors ++ [error]) urls).2)) := by
  simp only [tryServices]
  by_cases failed : (wget url).returncode = 0
  · simp only [failed, ne_eq, not_true_eq_false, if_false]
    cases lines : splitLines [] (strip (wget url).stdout) with
    | nil =>
        refine .inr (.inl ⟨⟨failed, (splitLines_eq_nil_iff.mp lines).2⟩, ?_, by simp⟩)
        simp [validAnswer, lines]
    | cons line rest =>
        have filled : ¬Blank (wget url) := by
          rintro ⟨-, blank⟩
          simp [blank, splitLines] at lines
        by_cases address : (ipAddress (strip line)).isSome = true
        · refine .inl ⟨strip line, ?_, by simp [address]⟩
          simp [validAnswer, failed, lines, address]
        · refine .inr (.inr ⟨filled, ?_, ?_⟩)
          · have absent : ipAddress (strip line) = none := by simpa using address
            simp [validAnswer, lines, absent]
          · simp only [List.head?_cons, if_neg address]
            exact ⟨_, rfl⟩
  · refine .inr (.inr ⟨fun blank => failed blank.1, by simp [validAnswer, failed], ?_⟩)
    simp only [ne_eq, failed, not_false_eq_true, if_true]
    exact ⟨_, rfl⟩

theorem tryServices_fallsBack_iff (printable : Char → Bool) (wget : Text → Lookup) (errors urls : List Text) :
    FallsBack wget urls (tryServices printable wget errors urls) ↔
      ∀ url ∈ urls.takeWhile (fun url => !valid wget url), ¬Blank (wget url) := by
  induction urls generalizing errors with
  | nil =>
      simp only [List.takeWhile_nil, List.not_mem_nil, false_implies, implies_true, iff_true]
      exact ⟨rfl, by simp, fun _ => ⟨_, rfl⟩⟩
  | cons url urls ih =>
      rcases tryServices_cons printable wget errors url urls with
        ⟨ip, found, ended⟩ | ⟨blank, refused, ended⟩ | ⟨filled, refused, error, ended⟩
      · have first : valid wget url = true := by simp [valid, found]
        simp only [List.takeWhile_cons, first, Bool.not_true, Bool.false_eq_true, if_false, List.not_mem_nil,
          false_implies, implies_true, iff_true]
        rw [ended]
        exact ⟨by simp [List.findIdx_cons, first], by simp [found], by simp [found]⟩
      · have first : valid wget url = false := by simp [valid, refused]
        rw [ended]
        constructor
        · intro falls
          cases answer : urls.findSome? fun url => validAnswer (wget url) with
          | some ip => simpa using falls.found ip (by simp [refused, answer])
          | none => simpa using falls.missing (by simp [refused, answer])
        · intro filled
          exact absurd blank (filled url (by simp [first]))
      · have first : valid wget url = false := by simp [valid, refused]
        have rest : FallsBack wget (url :: urls) (tryServices printable wget errors (url :: urls)) ↔
            FallsBack wget urls (tryServices printable wget (errors ++ [error]) urls) := by
          rw [ended]
          constructor
          · rintro ⟨asked, found, missing⟩
            refine ⟨?_, fun ip answer => found ip (by simpa [refused] using answer),
              fun answer => missing (by simpa [refused] using answer)⟩
            simpa [List.findIdx_cons, first] using asked
          · rintro ⟨asked, found, missing⟩
            refine ⟨?_, fun ip answer => found ip (by simpa [refused] using answer),
              fun answer => missing (by simpa [refused] using answer)⟩
            simp [List.findIdx_cons, first, asked]
        rw [rest, ih]
        simp [first, filled]

/-- The second service stands in for the first exactly if no answer that is read is a blank success. -/
theorem fetchEgressPublicIp_fallsBack_iff (printable : Char → Bool) (wget : Text → Lookup) :
    FallsBack wget services (fetchEgressPublicIp printable wget) ↔
      ¬Blank (wget ipify) ∧
        ((validAnswer (wget ipify)).isSome = true ∨
          ¬Blank (wget ifconfig)) := by
  have blank {url : Text} (nothing : Blank (wget url)) : validAnswer (wget url) = none := by
    simp [validAnswer, nothing.2, splitLines]
  rw [fetchEgressPublicIp, tryServices_fallsBack_iff]
  simp only [services, List.takeWhile_cons, List.takeWhile_nil, valid]
  cases first : validAnswer (wget ipify) with
  | some ip =>
      have filled : ¬Blank (wget ipify) := fun nothing => by simp [blank nothing] at first
      simp [filled]
  | none =>
      cases second : validAnswer (wget ifconfig) with
      | some ip =>
          have filled : ¬Blank (wget ifconfig) := fun nothing => by simp [blank nothing] at second
          simp [filled]
      | none => simp

/-- After a blank success of the first service the agent answers 500, which its caller does not take as a reason to look
inside the instance. -/
theorem clientEgressPublicIp_of_blank (printable : Char → Bool) (wget : Text → Lookup)
    (lookup : Except PyError Text) (blank : Blank (wget ipify)) :
    clientEgressPublicIp (some lookup) (egressPublicIp (fetchEgressPublicIp printable wget).2) =
      .error (.other "Internal Server Error") := by
  have ended := tryServices_cons printable wget [] ipify [ifconfig]
  have refused : validAnswer (wget ipify) = none := by
    simp [validAnswer, blank.2, splitLines]
  rcases ended with ⟨ip, found, -⟩ | ⟨-, -, ended⟩ | ⟨filled, -⟩
  · simp [refused] at found
  · rw [fetchEgressPublicIp, services, ended]
    rfl
  · exact absurd blank filled

/-- The first service answers with nothing, the second one with an address. -/
def blankFirst (url : Text) : Lookup :=
  if url = ipify then ⟨0, [], []⟩ else ⟨0, "203.0.113.7\n".toList, []⟩

theorem blank_answer_not_skipped :
    ¬∀ (printable : Char → Bool) (wget : Text → Lookup),
        FallsBack wget services (fetchEgressPublicIp printable wget) := by
  intro claimed
  have found := (claimed (fun _ => true) blankFirst).found "203.0.113.7".toList (by decide +kernel)
  revert found
  decide +kernel

end DeepOrc.Agent
