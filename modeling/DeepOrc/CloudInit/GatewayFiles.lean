import Mathlib.Tactic.Simps.Basic
import DeepOrc.Agent.Server
import DeepOrc.CloudInit.TailscaleEnv
import DeepOrc.Lib.Ipv4
import DeepOrc.Lib.LineFilters
import DeepOrc.Routing.Firewall
import DeepOrc.Services.GatewayCreation

/-!
# The gateway's own files

The setup script writes the WireGuard configuration and the agent's settings from here-documents. The agent, the script
that brings the interface up and the routing script each read them in their own way.
-/

namespace DeepOrc.CloudInit

open Agent.WgDump.Go (isSpace)
open Lib.EnvFile (unlines)
open Lib.Fields (decimal trim)
open Lib.Ipv4 (dotted)
open Lib.LineFilters (deleteChars firstLine setting stripStart)
open Lib.Shell
open Models (Gateway)
open Services (allocateWgSubnet newGateway)

/-! ### What is written -/

/-- What `render_openwrt_setup` puts into the two files. -/
structure CloudInitParams where
  wgPrivateKey : Text
  wgGatewayIp : Text
  wgListenPort : Nat
  agentToken : Text
  orchAllowedIp : Text
  agentPort : Nat
  netInterface : Text

def wgConf (params : CloudInitParams) : List Text :=
  ["[Interface]".toList, "PrivateKey = ".toList ++ params.wgPrivateKey,
    "Address = ".toList ++ (params.wgGatewayIp ++ "/24".toList), "ListenPort = ".toList ++ decimal params.wgListenPort]

def configEnv (params : CloudInitParams) : List Text :=
  [assignmentLine "AGENT_TOKEN".toList params.agentToken, assignmentLine "ORCH_ALLOWED_IP".toList params.orchAllowedIp,
    assignmentLine "LISTEN_HOST".toList "0.0.0.0".toList,
    assignmentLine "LISTEN_PORT".toList (decimal params.agentPort),
    assignmentLine "NET_INTERFACE".toList params.netInterface]

/-- The orchestrator's settings that a gateway's files depend on. -/
structure GatewaySettings where
  wgSubnetBase : Nat
  orchHostIp : Text
  agentPort : Nat
  incusNetInterface : Text

/-- As `provision_gateway` fills it in; `key` is the server's private key. -/
@[simps]
def cloudInitParams (settings : GatewaySettings) (gatewayId : Nat) (gateway : Gateway) (key : Agent.WireGuardKey)
    (token : Text) : CloudInitParams where
  wgPrivateKey := key.b64Encode.toList
  wgGatewayIp := (dotted (allocateWgSubnet settings.wgSubnetBase gatewayId + 1)).toList
  wgListenPort := gateway.udpPort
  agentToken := token
  orchAllowedIp := settings.orchHostIp
  agentPort := settings.agentPort
  netInterface := settings.incusNetInterface

/-- What the shell runs while it writes a file, the file, and the script behind the here-document. -/
structure Written where
  commands : List Text
  file : Text
  rest : Text
deriving DecidableEq

/-- The script from a here-document's first line on, with `after` behind the delimiter. -/
def writeFile (shell : Context) (lines : List Text) (after : Text) : Option Written :=
  (hereBody delimiter true false (dropNul (unlines lines ++ (delimiter ++ '\n' :: after)))).bind fun found =>
    (expandText shell 0 false found.1).map fun written => ⟨written.1, written.2, found.2⟩

/-! ### The agent's settings -/

/-- `strings.Cut`, and `strings.SplitN` in two. -/
def cut (separator : Char) (text : Text) : Option (Text × Text) :=
  if text.contains separator then some (text.takeWhile (· != separator), (text.dropWhile (· != separator)).drop 1)
  else none

def assignField (c : Agent.Server.Config) (k v : Text) : Agent.Server.Config :=
  if k = "AGENT_TOKEN".toList then { c with token := v }
  else if k = "ORCH_ALLOWED_IP".toList then { c with orchAllowedIp := v }
  else if k = "LISTEN_HOST".toList then { c with listenHost := v }
  else if k = "LISTEN_PORT".toList then { c with listenPort := v }
  else if k = "NET_INTERFACE".toList then { c with netInterface := v }
  else c

def configLine (c : Agent.Server.Config) (text : Text) : Agent.Server.Config :=
  let line := trim isSpace text
  if line = [] || line.head? = some '#' then c
  else
    match cut '=' line with
    | none => c
    | some (k, v) => assignField c k v

/-- A variable that is not set is empty. -/
def getenv (env : Text → Text) (k default : Text) : Text := if env k ≠ [] then env k else default

def environmentConfig (env : Text → Text) : Agent.Server.Config where
  token := env "AGENT_TOKEN".toList
  orchAllowedIp := getenv env "ORCH_ALLOWED_IP".toList "10.10.0.1".toList
  listenHost := getenv env "LISTEN_HOST".toList "0.0.0.0".toList
  listenPort := getenv env "LISTEN_PORT".toList "8081".toList
  wgInterface := getenv env "WG_INTERFACE".toList "wg0".toList
  netInterface := getenv env "NET_INTERFACE".toList "eth0".toList
  nftTable := getenv env "NFT_SUSPEND_TABLE".toList "inet wg_suspend".toList

/-- The file is read where the environment has no token. -/
def loadConfig (env : Text → Text) (file : Option Text) : Agent.Server.Config :=
  if (environmentConfig env).token ≠ [] then environmentConfig env
  else
    match file with
    | none => environmentConfig env
    | some text => (text.splitOn '\n').foldl configLine (environmentConfig env)

/-! ### The interface -/

/-- `stopped`: the line has no `=`, and the agent panics. -/
inductive AddressError where
  | unread
  | missing
  | invalid
  | stopped
deriving DecidableEq

def addressAndSubnet (addr : Text) : Except AddressError (Text × Text) :=
  if addr = [] then .error .missing
  else
    let (ip, pref) := (cut '/' addr).getD (addr, [])
    match ip.splitOn '.' with
    | [first, second, third, _] =>
        .ok (ip, first ++ '.' :: second ++ '.' :: third ++ ".0/".toList ++ if pref = [] then "24".toList else pref)
    | _ => .error .invalid

/-- The address and the subnet, from `wg0.conf`. -/
def wgConfAddress : Option Text → Except AddressError (Text × Text)
  | none => .error .unread
  | some file =>
      match ((file.splitOn '\n').map (trim isSpace)).find? fun line => "Address".toList.isPrefixOf line with
      | none => .error .missing
      | some line =>
          match cut '=' line with
          | none => .error .stopped
          | some (_, value) => addressAndSubnet (trim isSpace value)

/-- What `wg-up.sh` gives the interface. -/
structure WgSettings where
  port : Text
  addr : Text
  key : Text
deriving DecidableEq

/-- `wg-up.sh` up to the commands. -/
def wgSettings (conf : Text) : WgSettings where
  port := setting "ListenPort".toList conf
  addr := setting "Address".toList conf
  key := deleteChars ['\r', '\n'] (firstLine (stripStart "PrivateKey = ".toList conf))

/-- The port that `_apply_nft` reads. -/
def wgPort (conf : Text) : Text := setting "ListenPort".toList conf

/-- The words of the rule that `_apply_nft` writes for it. -/
def wgPortRule (conf : Text) : Option Text :=
  if wgPort conf = [] then none else some ("meta nfproto ipv4 udp dport ".toList ++ wgPort conf ++ " accept".toList)

/-! ### Values that the shell leaves alone -/

/-- Visible, and no beginning of an expansion. -/
def isPlain (c : Char) : Bool := 33 ≤ c.toNat && c.toNat ≤ 126 && c ∉ ['\\', '$', '`']

def Plain (text : Text) : Prop := text.all isPlain = true

instance (text : Text) : Decidable (Plain text) := inferInstanceAs (Decidable (text.all isPlain = true))

/-- The characters of the files' lines. -/
def inLine (c : Char) : Bool := isPlain c || c == ' '

theorem notMem_of_all {p : Char → Bool} {text : Text} (all : text.all p = true) {c : Char} (other : p c = false) :
    c ∉ text := by
  intro member
  rw [List.all_eq_true.mp all c member] at other
  cases other

theorem Plain.append {front back : Text} (first : Plain front) (second : Plain back) : Plain (front ++ back) := by
  rw [Plain, List.all_append, first, second]
  rfl

theorem Plain.inLine {text : Text} (plain : Plain text) : text.all inLine = true :=
  List.all_eq_true.mpr fun c member => by rw [CloudInit.inLine, List.all_eq_true.mp plain c member, Bool.true_or]

theorem isSpace_of_isPlain {c : Char} (plain : isPlain c = true) : isSpace c = false := by
  simp only [isPlain, Bool.and_eq_true, decide_eq_true_eq] at plain
  simp only [isSpace, Bool.or_eq_false_iff, Bool.and_eq_false_iff, decide_eq_false_iff_not, beq_eq_false_iff_ne]
  omega

theorem Plain.solid {text : Text} (plain : Plain text) : ∀ c ∈ text, isSpace c = false :=
  fun c member => isSpace_of_isPlain (List.all_eq_true.mp plain c member)

theorem isPlain_of_isDigit {c : Char} (digit : c.isDigit = true) : isPlain c = true := by
  have range := Naming.toNat_of_isDigit digit
  have other : c ∉ ['\\', '$', '`'] := by
    intro special
    have different : ['\\', '$', '`'].all (fun special => !special.isDigit) = true := by decide
    have here := List.all_eq_true.mp different c special
    rw [digit] at here
    cases here
  simp only [isPlain, Bool.and_eq_true, decide_eq_true_eq]
  exact ⟨⟨by omega, by omega⟩, other⟩

theorem all_decimal {p : Char → Bool} (digits : ∀ c, c.isDigit = true → p c = true) (n : Nat) :
    (decimal n).all p = true :=
  List.all_eq_true.mpr fun c member => digits c (Lib.Fields.isDigit_of_mem_decimal member)

theorem plain_decimal (n : Nat) : Plain (decimal n) := all_decimal (fun _ => isPlain_of_isDigit) n

theorem plain_key (key : Agent.WireGuardKey) : Plain key.b64Encode.toList := by
  apply List.all_eq_true.mpr
  intro c member
  have alphabet : ('=' :: Lib.Base64.alphabet).all isPlain = true := by decide
  rw [Agent.WireGuardKey.b64Encode, String.toList_ofList] at member
  exact List.all_eq_true.mp alphabet c (List.mem_cons.mpr (Lib.Base64.mem_encode key.bytes c member))

/-- The octets of an address. -/
theorem dotted_octets (ip : Nat) : (dotted ip).toList = decimal (ip / 16777216) ++ '.' :: (decimal (ip / 65536 % 256) ++
    '.' :: (decimal (ip / 256 % 256) ++ '.' :: decimal (ip % 256))) := by
  simp [dotted, decimal, show toString "." = "." from rfl, Nat.repr]

theorem all_dotted {p : Char → Bool} (digits : ∀ c, c.isDigit = true → p c = true) (dot : p '.' = true) (ip : Nat) :
    (dotted ip).toList.all p = true := by
  rw [dotted_octets]
  simp only [List.all_append, List.all_cons, all_decimal digits, dot, Bool.and_self]

theorem plain_dotted (ip : Nat) : Plain (dotted ip).toList := all_dotted (fun _ => isPlain_of_isDigit) rfl ip

theorem notMem_dotted {c : Char} (other : (c.isDigit || c == '.') = false) (ip : Nat) : c ∉ (dotted ip).toList := by
  have digits (c : Char) (digit : c.isDigit = true) : (c.isDigit || c == '.') = true := by rw [digit, Bool.true_or]
  exact notMem_of_all (all_dotted digits rfl ip) other

theorem filter_plain {text chars : Text} (plain : Plain text) (others : chars.all (fun c => !isPlain c) = true) :
    (text.filter fun c => !chars.contains c) = text := by
  apply List.filter_eq_self.mpr
  intro c member
  have absent : c ∉ chars := by
    intro listed
    have here := List.all_eq_true.mp others c listed
    rw [List.all_eq_true.mp plain c member] at here
    cases here
  rw [Bool.not_eq_true', ← Bool.not_eq_true, List.contains_iff_mem]
  exact absent

/-! ### The files are written as they stand -/

/-- Every value of the two files is plain. -/
structure CloudInitParams.Plain (params : CloudInitParams) : Prop where
  key : CloudInit.Plain params.wgPrivateKey
  keyFilled : params.wgPrivateKey ≠ []
  address : CloudInit.Plain params.wgGatewayIp
  token : CloudInit.Plain params.agentToken
  host : CloudInit.Plain params.orchAllowedIp
  interface : CloudInit.Plain params.netInterface

theorem inLine_append {front value : Text} (fixed : front.all inLine = true) (plain : Plain value) :
    (front ++ value).all inLine = true := by
  rw [List.all_append, fixed, plain.inLine]
  rfl

theorem inLine_wgConf {params : CloudInitParams} (plain : params.Plain) :
    ∀ line ∈ wgConf params, line.all inLine = true := by
  have address : ("Address = ".toList ++ (params.wgGatewayIp ++ "/24".toList)).all inLine = true :=
    inLine_append (by decide) (plain.address.append (by decide))
  simp only [wgConf, List.forall_mem_cons, List.not_mem_nil, false_implies, implies_true, and_true]
  exact ⟨by decide, inLine_append (by decide) plain.key, address, inLine_append (by decide) (plain_decimal _)⟩

theorem Plain.line {name value : Text} (plainName : Plain name) (plain : Plain value) :
    Plain (assignmentLine name value) :=
  plainName.append (@Plain.append ['='] value rfl plain)

theorem inLine_configEnv {params : CloudInitParams} (plain : params.Plain) :
    ∀ line ∈ configEnv params, line.all inLine = true := by
  simp only [configEnv, List.forall_mem_cons, List.not_mem_nil, false_implies, implies_true, and_true]
  have port := plain_decimal params.agentPort
  exact ⟨(Plain.line (by decide) plain.token).inLine, (Plain.line (by decide) plain.host).inLine,
    (Plain.line (by decide) (by decide)).inLine, (Plain.line (by decide) port).inLine,
    (Plain.line (by decide) plain.interface).inLine⟩

theorem whole_wgConf {params : CloudInitParams} (plain : params.Plain) : ∀ line ∈ wgConf params, '\n' ∉ line :=
  fun line listed => notMem_of_all (inLine_wgConf plain line listed) (by decide)

/-- No line begins like the delimiter. -/
theorem begins_wgConf (params : CloudInitParams) : ∀ line ∈ wgConf params, ∃ c rest, line = c :: rest ∧ 'E' ≠ c := by
  simp only [wgConf, List.forall_mem_cons, List.not_mem_nil, false_implies, implies_true, and_true]
  exact ⟨⟨_, _, rfl, by decide⟩, ⟨_, _, rfl, by decide⟩, ⟨_, _, rfl, by decide⟩, ⟨_, _, rfl, by decide⟩⟩

theorem begins_configEnv (params : CloudInitParams) :
    ∀ line ∈ configEnv params, ∃ c rest, line = c :: rest ∧ 'E' ≠ c := by
  simp only [configEnv, List.forall_mem_cons, List.not_mem_nil, false_implies, implies_true, and_true]
  exact ⟨⟨_, _, rfl, by decide⟩, ⟨_, _, rfl, by decide⟩, ⟨_, _, rfl, by decide⟩, ⟨_, _, rfl, by decide⟩,
    ⟨_, _, rfl, by decide⟩⟩

theorem mem_unlines {lines : List Text} {c : Char} (member : c ∈ unlines lines) :
    c = '\n' ∨ ∃ line ∈ lines, c ∈ line := by
  obtain ⟨line, listed, inside⟩ := List.mem_flatMap.mp member
  rcases List.mem_append.mp inside with here | newline
  · exact .inr ⟨line, listed, here⟩
  · exact .inl (List.mem_singleton.mp newline)

theorem writeFile_lines (shell : Context) {lines : List Text}
    (begins : ∀ line ∈ lines, ∃ c rest, line = c :: rest ∧ 'E' ≠ c) (plain : ∀ line ∈ lines, line.all inLine = true)
    (after : Text) :
    writeFile shell lines after = some ⟨[], unlines lines, dropNul after⟩ := by
  have absent (c : Char) (other : inLine c = false) : ∀ line ∈ lines, c ∉ line :=
    fun line listed => notMem_of_all (plain line listed) other
  have outside (c : Char) (other : inLine c = false) (notNewline : c ≠ '\n') : c ∉ unlines lines := by
    intro member
    rcases mem_unlines member with newline | ⟨line, listed, inside⟩
    · exact notNewline newline
    · exact absent c other line listed inside
  have inert : ∀ c ∈ unlines lines, c ∉ ['\\', '$', '`'] := by
    rintro c member special
    have other : ['\\', '$', '`'].all (fun c => !inLine c && c != '\n') = true := by decide
    have here := List.all_eq_true.mp other c special
    rw [Bool.and_eq_true, Bool.not_eq_true', bne_iff_ne] at here
    exact outside c here.1 here.2 member
  have script : dropNul (unlines lines ++ (delimiter ++ '\n' :: after)) =
      unlines lines ++ (delimiter ++ '\n' :: dropNul after) := by
    rw [dropNul_append, dropNul_of_notMem (outside '\x00' (by decide) (by decide))]
    rfl
  have body : hereBody delimiter true false (unlines lines ++ (delimiter ++ '\n' :: dropNul after)) =
      some (unlines lines, dropNul after) :=
    hereBody_unlines begins (absent '\n' (by decide)) (absent '\\' (by decide)) (dropNul after)
  rw [writeFile, script, body, Option.bind_some, expandText_inert shell inert]
  rfl

/-! ### The agent reads its settings -/

theorem cut_append {separator : Char} {front : Text} (absent : separator ∉ front) (back : Text) :
    cut separator (front ++ separator :: back) = some (front, back) := by
  have listed : (front ++ separator :: back).contains separator = true :=
    List.contains_iff_mem.mpr (List.mem_append_right front List.mem_cons_self)
  have others : ∀ c ∈ front, (c != separator) = true := by
    intro c member
    apply bne_iff_ne.mpr
    rintro rfl
    exact absent member
  rw [cut, if_pos listed, List.takeWhile_append_of_pos others, List.dropWhile_append_of_pos others, List.takeWhile_cons,
    List.dropWhile_cons, bne_self_eq_false, if_neg Bool.false_ne_true, if_neg Bool.false_ne_true, List.append_nil]
  rfl

theorem trim_solid {text : Text} (solid : ∀ c ∈ text, isSpace c = false) : trim isSpace text = text :=
  Lib.Fields.trim_eq_self (fun c first => solid c (List.mem_of_mem_head? first))
    fun c last => solid c (List.mem_of_mem_getLast? last)

/-- A line that begins with a name and ends with a value has no blanks around it. -/
theorem trim_line {front value : Text} (begins : front.head?.any (fun c => !isSpace c) = true) (filled : value ≠ [])
    (plain : Plain value) : trim isSpace (front ++ value) = front ++ value := by
  refine Lib.Fields.trim_eq_self (fun c first => ?_) fun c last => plain.solid c ?_
  · cases front with
    | nil => cases begins
    | cons _ _ =>
        obtain rfl := Option.some.inj first
        simpa using begins
  · rw [Option.mem_def, List.getLast?_append_of_ne_nil front filled] at last
    exact List.mem_of_mem_getLast? last

theorem configLine_assign (c : Agent.Server.Config) {name value : Text} (plainName : Plain name) (single : '=' ∉ name)
    (begins : name ≠ [] ∧ name.head? ≠ some '#') (plain : Plain value) :
    configLine c (assignmentLine name value) = assignField c name value := by
  have read : ¬ (assignmentLine name value = [] || (assignmentLine name value).head? = some '#') = true := by
    rw [assignmentLine, List.head?_append_of_ne_nil name begins.1]
    simp [begins.2]
  rw [configLine, trim_solid (plainName.line plain).solid]
  simp only [if_neg read]
  rw [assignmentLine, cut_append single]


theorem loadConfig_configEnv {env : Text → Text} (unset : env "AGENT_TOKEN".toList = []) {params : CloudInitParams}
    (plain : params.Plain) :
    loadConfig env (some (unlines (configEnv params))) =
      { environmentConfig env with
        token := params.agentToken
        orchAllowedIp := params.orchAllowedIp
        listenHost := "0.0.0.0".toList
        listenPort := decimal params.agentPort
        netInterface := params.netInterface } := by
  have none : ¬ (environmentConfig env).token ≠ [] := not_not.mpr unset
  have whole : ∀ line ∈ configEnv params, '\n' ∉ line := fun line listed =>
    notMem_of_all (inLine_configEnv plain line listed) (by decide)
  have blank (c : Agent.Server.Config) : configLine c [] = c := rfl
  have read : loadConfig env (some (unlines (configEnv params))) =
      (configEnv params ++ [[]]).foldl configLine (environmentConfig env) := by
    rw [← Lib.LineFilters.splitOn_unlines whole]
    exact if_neg none
  rw [read]
  simp only [List.foldl_append, List.foldl_cons, List.foldl_nil, blank, configEnv]
  have port := plain_decimal params.agentPort
  rw [configLine_assign _ (by decide) (by decide) (by decide) plain.token,
    configLine_assign _ (by decide) (by decide) (by decide) plain.host,
    configLine_assign _ (by decide) (by decide) (by decide) (by decide : Plain "0.0.0.0".toList),
    configLine_assign _ (by decide) (by decide) (by decide) port,
    configLine_assign _ (by decide) (by decide) (by decide) plain.interface]
  rfl

/-! ### The tunnel's address -/

/-- The subnet of an address that is the first one of it. -/
theorem addressAndSubnet_first {subnet : Nat} (aligned : subnet % 256 = 0) :
    addressAndSubnet ((dotted (subnet + 1)).toList ++ "/24".toList) =
      .ok ((dotted (subnet + 1)).toList, (dotted subnet).toList ++ "/24".toList) := by
  have dots (n : Nat) : '.' ∉ decimal n := notMem_of_all (all_decimal (fun _ digit => digit) n) rfl
  have slash : '/' ∉ (dotted (subnet + 1)).toList := notMem_dotted (by decide) (subnet + 1)
  have filled : ¬ (dotted (subnet + 1)).toList ++ "/24".toList = [] := List.append_ne_nil_of_right_ne_nil _ (by decide)
  have parts : cut '/' ((dotted (subnet + 1)).toList ++ "/24".toList) =
      some ((dotted (subnet + 1)).toList, "24".toList) := cut_append slash "24".toList
  have octets : (dotted (subnet + 1)).toList.splitOn '.' =
      [decimal ((subnet + 1) / 16777216), decimal ((subnet + 1) / 65536 % 256), decimal ((subnet + 1) / 256 % 256),
        decimal ((subnet + 1) % 256)] := by
    rw [dotted_octets, List.splitOn_append_cons_self, List.splitOn_append_cons_self, List.splitOn_append_cons_self]
    simp [List.splitOn_eq_singleton (dots _)]
  have first : (subnet + 1) / 16777216 = subnet / 16777216 := by omega
  have second : (subnet + 1) / 65536 % 256 = subnet / 65536 % 256 := by omega
  have third : (subnet + 1) / 256 % 256 = subnet / 256 % 256 := by omega
  have text : (dotted subnet).toList ++ "/24".toList = decimal (subnet / 16777216) ++
      '.' :: decimal (subnet / 65536 % 256) ++ '.' :: decimal (subnet / 256 % 256) ++ ".0/".toList ++ "24".toList := by
    rw [dotted_octets, aligned]
    simp
    rfl
  rw [addressAndSubnet, if_neg filled, parts]
  simp only [Option.getD_some, octets, first, second, third]
  rw [text]
  rfl

theorem wgConfAddress_wgConf {params : CloudInitParams} (plain : params.Plain) :
    wgConfAddress (some (unlines (wgConf params))) = addressAndSubnet (params.wgGatewayIp ++ "/24".toList) := by
  have plainAddress : Plain (params.wgGatewayIp ++ "/24".toList) := plain.address.append (by decide)
  have filled : params.wgGatewayIp ++ "/24".toList ≠ [] := List.append_ne_nil_of_right_ne_nil _ (by decide)
  have key : trim isSpace ("PrivateKey = ".toList ++ params.wgPrivateKey) =
      "PrivateKey = ".toList ++ params.wgPrivateKey := trim_line (by decide) plain.keyFilled plain.key
  have address : trim isSpace ("Address = ".toList ++ (params.wgGatewayIp ++ "/24".toList)) =
      "Address = ".toList ++ (params.wgGatewayIp ++ "/24".toList) := trim_line (by decide) filled plainAddress
  have atTitle : ¬ "Address".toList.isPrefixOf (trim isSpace "[Interface]".toList) = true := by decide
  have atKey :
      ¬ "Address".toList.isPrefixOf (trim isSpace ("PrivateKey = ".toList ++ params.wgPrivateKey)) = true := by
    rw [key]
    exact Bool.false_ne_true
  have atAddress : "Address".toList.isPrefixOf
      (trim isSpace ("Address = ".toList ++ (params.wgGatewayIp ++ "/24".toList))) = true := by
    rw [address]
    rfl
  have found : ((wgConf params ++ [[]]).map (trim isSpace)).find? (fun line => "Address".toList.isPrefixOf line) =
      some ("Address = ".toList ++ (params.wgGatewayIp ++ "/24".toList)) := by
    rw [wgConf, List.cons_append, List.map_cons, List.find?_cons_of_neg atTitle, List.cons_append, List.map_cons,
      List.find?_cons_of_neg atKey, List.cons_append, List.map_cons, List.find?_cons_of_pos atAddress, address]
  have parts : cut '=' ("Address = ".toList ++ (params.wgGatewayIp ++ "/24".toList)) =
      some ("Address ".toList, ' ' :: (params.wgGatewayIp ++ "/24".toList)) :=
    @cut_append '=' "Address ".toList (by decide) _
  have value : trim isSpace (' ' :: (params.wgGatewayIp ++ "/24".toList)) = params.wgGatewayIp ++ "/24".toList :=
    trim_solid plainAddress.solid
  rw [wgConfAddress, Lib.LineFilters.splitOn_unlines (whole_wgConf plain), found]
  simp only [parts, value]

/-! ### The interface comes up as the orchestrator wants it -/

/-- A setting with blanks around its `=`, behind lines that begin otherwise. -/
theorem setting_spaced {before after : List Text} {name value : Text}
    (whole : ∀ line ∈ before ++ (name ++ " = ".toList ++ value) :: after, '\n' ∉ line)
    (others : ∀ other ∈ before, name.isPrefixOf other = false) (plainName : '=' ∉ name) (plain : Plain value)
    (single : '=' ∉ value) : setting name (unlines (before ++ (name ++ " = ".toList ++ value) :: after)) = value := by
  have text : name ++ " = ".toList ++ value = name ++ [' '] ++ '=' :: (' ' :: value) := by
    rw [List.append_assoc, List.append_assoc]
    rfl
  have spaced : '=' ∉ name ++ [' '] := by
    rw [List.mem_append, not_or]
    exact ⟨plainName, by decide⟩
  have behind : '=' ∉ ' ' :: value := List.not_mem_cons_of_ne_of_not_mem (by decide) single
  have kept : (' ' :: value).filter (fun c => !([' '] : Text).contains c) = value := filter_plain plain (by decide)
  exact (Lib.LineFilters.setting_unlines whole text others spaced behind).trans kept

theorem wgPort_wgConf {params : CloudInitParams} (plain : params.Plain) :
    wgPort (unlines (wgConf params)) = decimal params.wgListenPort := by
  have others : ∀ other ∈ (wgConf params).take 3, "ListenPort".toList.isPrefixOf other = false := by
    simp only [wgConf, List.take, List.forall_mem_cons, List.not_mem_nil, false_implies, implies_true, and_true]
    exact ⟨rfl, rfl, rfl⟩
  have single : '=' ∉ decimal params.wgListenPort := notMem_of_all (all_decimal (fun _ digit => digit) _) rfl
  exact @setting_spaced ((wgConf params).take 3) [] "ListenPort".toList (decimal params.wgListenPort)
    (whole_wgConf plain) others (by decide) (plain_decimal _) single

theorem wgPortRule_wgConf {params : CloudInitParams} (plain : params.Plain) :
    wgPortRule (unlines (wgConf params)) = some (Routing.Firewall.wgRule params.wgListenPort).toList := by
  have text : (Routing.Firewall.wgRule params.wgListenPort).toList =
      "meta nfproto ipv4 udp dport ".toList ++ decimal params.wgListenPort ++ " accept".toList := by
    unfold Routing.Firewall.wgRule
    rw [String.toList_append, String.toList_append, Nat.toString_eq_repr, Nat.toList_repr]
    rfl
  unfold wgPortRule
  rw [wgPort_wgConf plain, if_neg (Lib.Fields.decimal_ne_nil _), text]

theorem wgAddress_wgConf {params : CloudInitParams} (plain : params.Plain) (single : '=' ∉ params.wgGatewayIp) :
    setting "Address".toList (unlines (wgConf params)) = params.wgGatewayIp ++ "/24".toList := by
  have others : ∀ other ∈ (wgConf params).take 2, "Address".toList.isPrefixOf other = false := by
    simp only [wgConf, List.take, List.forall_mem_cons, List.not_mem_nil, false_implies, implies_true, and_true]
    exact ⟨rfl, rfl⟩
  have singleValue : '=' ∉ params.wgGatewayIp ++ "/24".toList := by
    rw [List.mem_append, not_or]
    exact ⟨single, by decide⟩
  exact @setting_spaced ((wgConf params).take 2) [_] "Address".toList (params.wgGatewayIp ++ "/24".toList)
    (whole_wgConf plain) others (by decide) (plain.address.append (by decide)) singleValue

/-- The key's padding stays, which `cut` would drop. -/
theorem wgKey_wgConf {params : CloudInitParams} (plain : params.Plain) :
    deleteChars ['\r', '\n'] (firstLine (stripStart "PrivateKey = ".toList (unlines (wgConf params)))) =
      params.wgPrivateKey := by
  have others : ∀ other ∈ (wgConf params).take 1 ++ (wgConf params).drop 2,
      "PrivateKey = ".toList.isPrefixOf other = false := by
    simp only [wgConf, List.take, List.drop, List.cons_append, List.nil_append, List.forall_mem_cons, List.not_mem_nil,
      false_implies, implies_true, and_true]
    exact ⟨rfl, rfl, rfl⟩
  have matched : "PrivateKey = ".toList.isPrefixOf ("PrivateKey = ".toList ++ params.wgPrivateKey) = true :=
    List.isPrefixOf_iff_prefix.mpr (List.prefix_append _ _)
  have found := @Lib.LineFilters.stripStart_unlines ((wgConf params).take 1) ((wgConf params).drop 2) _
    (whole_wgConf plain) _ others matched
  have value : ("PrivateKey = ".toList ++ params.wgPrivateKey).drop "PrivateKey = ".toList.length =
      params.wgPrivateKey := List.drop_left
  have alone : ∀ line ∈ [params.wgPrivateKey], '\n' ∉ line := by
    intro line listed
    rw [List.mem_singleton.mp listed]
    exact notMem_of_all plain.key (by decide)
  have picked : stripStart "PrivateKey = ".toList (unlines (wgConf params)) = unlines [params.wgPrivateKey] := by
    rw [Lib.LineFilters.unlines_single]
    rw [value] at found
    exact found
  have kept : params.wgPrivateKey.filter (fun c => !(['\r', '\n'] : Text).contains c) = params.wgPrivateKey :=
    filter_plain plain.key (by decide)
  have ending : (['\n'] : Text).filter (fun c => !(['\r', '\n'] : Text).contains c) = [] := by decide
  rw [picked, firstLine, Lib.LineFilters.inputLines_unlines alone, List.take_succ_cons, List.take_zero,
    Lib.LineFilters.unlines_single, deleteChars, List.filter_append, kept, ending, List.append_nil]

theorem wgSettings_eq (conf : Text) : wgSettings conf = ⟨wgPort conf, setting "Address".toList conf,
    deleteChars ['\r', '\n'] (firstLine (stripStart "PrivateKey = ".toList conf))⟩ := rfl

theorem wgSettings_wgConf {params : CloudInitParams} (plain : params.Plain) (single : '=' ∉ params.wgGatewayIp) :
    wgSettings (unlines (wgConf params)) =
      ⟨decimal params.wgListenPort, params.wgGatewayIp ++ "/24".toList, params.wgPrivateKey⟩ := by
  rw [wgSettings_eq, wgPort_wgConf plain, wgAddress_wgConf plain single, wgKey_wgConf plain]

/-! ### Every gateway -/

theorem plain_cloudInitParams {settings : GatewaySettings} (host : Plain settings.orchHostIp)
    (interface : Plain settings.incusNetInterface) {token : Text} (plainToken : Plain token) (gatewayId : Nat)
    (gateway : Gateway) (key : Agent.WireGuardKey) : (cloudInitParams settings gatewayId gateway key token).Plain where
  key := plain_key key
  keyFilled := key.toList_b64Encode_ne_nil
  address := by
    rw [cloudInitParams_wgGatewayIp]
    exact plain_dotted _
  token := plainToken
  host := host
  interface := interface

/-- In any shell the setup script writes both files as rendered and runs nothing that stands in them. From them the
agent, where its environment has no token, has the gateway's token and its tunnel's subnet, the interface comes up with
the gateway's key, address and port, and the rule for that port is the one of the gateway. -/
theorem setup_configures_gateway {settings : GatewaySettings} (host : Plain settings.orchHostIp)
    (interface : Plain settings.incusNetInterface) {token : Text} (plainToken : Plain token) (gatewayId : Nat)
    (gateway : Gateway) (key : Agent.WireGuardKey) (shell : Context) (after : Text) {env : Text → Text}
    (unset : env "AGENT_TOKEN".toList = []) :
    let params := cloudInitParams settings gatewayId gateway key token
    let conf := unlines (wgConf params)
    let config := unlines (configEnv params)
    writeFile shell (wgConf params) after = some ⟨[], conf, dropNul after⟩ ∧
      writeFile shell (configEnv params) after = some ⟨[], config, dropNul after⟩ ∧
      loadConfig env (some config) =
        { environmentConfig env with
          token := token
          orchAllowedIp := settings.orchHostIp
          listenHost := "0.0.0.0".toList
          listenPort := decimal settings.agentPort
          netInterface := settings.incusNetInterface } ∧
      wgConfAddress (some conf) =
        .ok ((dotted (allocateWgSubnet settings.wgSubnetBase gatewayId + 1)).toList,
          (dotted (allocateWgSubnet settings.wgSubnetBase gatewayId)).toList ++ "/24".toList) ∧
      wgSettings conf =
        { port := decimal gateway.udpPort
          addr := (dotted (allocateWgSubnet settings.wgSubnetBase gatewayId + 1)).toList ++ "/24".toList
          key := key.b64Encode.toList } ∧
      wgPortRule conf = some (Routing.Firewall.wgRule gateway.udpPort).toList := by
  intro params conf config
  have plain := plain_cloudInitParams host interface plainToken gatewayId gateway key
  have aligned : allocateWgSubnet settings.wgSubnetBase gatewayId % 256 = 0 := by
    unfold allocateWgSubnet
    omega
  have single : '=' ∉ (cloudInitParams settings gatewayId gateway key token).wgGatewayIp := by
    rw [cloudInitParams_wgGatewayIp]
    exact notMem_dotted (by decide) _
  have loaded := loadConfig_configEnv unset plain
  have address := wgConfAddress_wgConf plain
  have up := wgSettings_wgConf plain single
  have port := wgPortRule_wgConf plain
  rw [cloudInitParams_agentToken, cloudInitParams_orchAllowedIp, cloudInitParams_agentPort,
    cloudInitParams_netInterface] at loaded
  rw [cloudInitParams_wgGatewayIp, addressAndSubnet_first aligned] at address
  rw [cloudInitParams_wgListenPort, cloudInitParams_wgGatewayIp, cloudInitParams_wgPrivateKey] at up
  rw [cloudInitParams_wgListenPort] at port
  exact ⟨writeFile_lines shell (begins_wgConf _) (inLine_wgConf plain) after,
    writeFile_lines shell (begins_configEnv _) (inLine_configEnv plain) after, loaded, address, up, port⟩

def tenSixtyFour : GatewaySettings := ⟨10 * 256 + 64, "10.10.0.1".toList, 8081, "eth0".toList⟩

def firstGateway : Gateway :=
  newGateway ⟨0, 10 * 256 + 64, .ok ()⟩ 1 1 "gateway_01" 168427521 51820

def firstKey : Agent.WireGuardKey := ⟨List.replicate 32 0, rfl⟩

/-- The first gateway's tunnel. -/
theorem firstGateway_configured :
    ∃ conf config : Text,
      writeFile bareShell (wgConf (cloudInitParams tenSixtyFour 1 firstGateway firstKey "q3-T_w".toList)) [] =
        some ⟨[], conf, []⟩ ∧
      (loadConfig (fun _ => []) (some config)).token = "q3-T_w".toList ∧
      wgConfAddress (some conf) = .ok ("10.64.2.1".toList, "10.64.2.0/24".toList) ∧
      wgPortRule conf = some "meta nfproto ipv4 udp dport 51820 accept".toList := by
  have host : Plain tenSixtyFour.orchHostIp := by decide
  have interface : Plain tenSixtyFour.incusNetInterface := by decide
  obtain ⟨written, -, loaded, address, -, port⟩ :=
    @setup_configures_gateway _ host interface "q3-T_w".toList (by decide) 1 firstGateway firstKey bareShell []
      (fun _ => []) rfl
  have first : (dotted (allocateWgSubnet tenSixtyFour.wgSubnetBase 1 + 1)).toList = "10.64.2.1".toList := by
    rw [dotted_octets]
    decide
  have subnet : (dotted (allocateWgSubnet tenSixtyFour.wgSubnetBase 1)).toList = "10.64.2.0".toList := by
    rw [dotted_octets]
    decide
  rw [first, subnet] at address
  refine ⟨_, _, written, by rw [loaded], address, ?_⟩
  rw [port]
  decide

end DeepOrc.CloudInit
