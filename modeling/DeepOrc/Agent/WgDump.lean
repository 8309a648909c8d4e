import DeepOrc.Agent.Health
import DeepOrc.Lib.Calendar
import DeepOrc.Lib.Rows
import DeepOrc.Naming
import Mathlib.Data.Bool.AllAny

/-!
# The peers in a dump of the interface

Both agents read `wg show wg0 dump`, the static one with Go's text functions and the other one with Python's, and
the orchestrator reads the answer of either.
-/

namespace DeepOrc.Agent.WgDump

open Lib.Fields (Text trim decimal readInt parseInt64)
open Lib.EnvFile (isLineBreak splitLines)
open Lib.Rows (row layout)
open Lib.Calendar (Moment moment isoText fromIsoFormat)
open Models (PyError)
open Naming (isSpace digitValue)

/-! ### What is dumped -/

abbrev Word := Lib.Rows.Word isSpace

theorem isSpace_of_mem_decimal {n : Nat} : ∀ c ∈ decimal n, isSpace c = false :=
  fun _ member => Naming.isSpace_of_isDigit (Lib.Fields.isDigit_of_mem_decimal member)

def number (n : Nat) : Word := ⟨decimal n, Lib.Fields.decimal_ne_nil n, isSpace_of_mem_decimal⟩

def noneText : Text := ['(', 'n', 'o', 'n', 'e', ')']

theorem noneText_filled : noneText ≠ [] := by decide

theorem noneText_plain : ∀ c ∈ noneText, isSpace c = false := List.all_iff_forall_prop.mp (by decide)

def noneWord : Word := ⟨noneText, noneText_filled, noneText_plain⟩

/-- A peer as the kernel has it. The handshake is in seconds since the epoch, 0 for none. -/
structure Peer where
  publicKey : Word
  presharedKey : Word
  endpoint : Option Word
  allowedIps : Word
  latestHandshake : Nat
  rxBytes : Nat
  txBytes : Nat
  keepalive : Word
  endpoint_ne : ∀ word ∈ endpoint, word.text ≠ noneText
  handshake_lt : latestHandshake < 2 ^ 32
  rx_lt : rxBytes < 2 ^ 63
  tx_lt : txBytes < 2 ^ 63

structure Interface where
  privateKey : Word
  publicKey : Word
  listenPort : Word
  fwmark : Word

def Interface.words (interface : Interface) : List Word :=
  [interface.privateKey, interface.publicKey, interface.listenPort, interface.fwmark]

def Peer.words (peer : Peer) : List Word :=
  [peer.publicKey, peer.presharedKey, peer.endpoint.getD noneWord, peer.allowedIps, number peer.latestHandshake,
    number peer.rxBytes, number peer.txBytes, peer.keepalive]

def rows (interface : Interface) (peers : List Peer) : List (List Word) := interface.words :: peers.map Peer.words

/-- What `wg show wg0 dump` prints. -/
def dump (interface : Interface) (peers : List Peer) : Text := layout '\t' (rows interface peers)

/-! ### What is read from it -/

/-- A peer with its handshake as seconds, as a time or as a text. An agent's answer has one JSON object with these
members for a peer, and `null` where there is no endpoint or handshake. -/
structure PeerInfo (τ : Type) where
  publicKey : Text
  allowedIps : Text
  endpoint : Option Text
  lastHandshake : Option τ
  rxBytes : Int
  txBytes : Int

/-- The handshake in another form, everything else as it is. -/
def PeerInfo.mapHandshake {τ υ : Type} (form : τ → υ) (info : PeerInfo τ) : PeerInfo υ where
  publicKey := info.publicKey
  allowedIps := info.allowedIps
  endpoint := info.endpoint
  lastHandshake := info.lastHandshake.map form
  rxBytes := info.rxBytes
  txBytes := info.txBytes

/-- What there is to know of a peer, its handshake in seconds. -/
def Peer.info (peer : Peer) : PeerInfo Nat where
  publicKey := peer.publicKey.text
  allowedIps := peer.allowedIps.text
  endpoint := peer.endpoint.map Lib.Rows.Word.text
  lastHandshake := if peer.latestHandshake = 0 then none else some peer.latestHandshake
  rxBytes := peer.rxBytes
  txBytes := peer.txBytes

def utc : Text := ['+', '0', '0', ':', '0', '0']

namespace Go

/-- `unicode.IsSpace` -/
def isSpace (c : Char) : Bool :=
  let code := c.toNat
  (9 ≤ code && code ≤ 13) || code == 32 || code == 0x85 || code == 0xa0 || code == 0x1680 ||
    (0x2000 ≤ code && code ≤ 0x200a) || code == 0x2028 || code == 0x2029 || code == 0x202f || code == 0x205f ||
    code == 0x3000

/-- `time.Unix(v, 0).UTC().Format(time.RFC3339)` -/
def rfc3339 (unix : Nat) : Text := isoText (moment unix) ['Z']

/-- `none` for a line that is passed over. -/
def peer : List Text → Option (PeerInfo Text)
  | publicKey :: _ :: endpoint :: allowedIps :: latestHandshake :: rxBytes :: txBytes :: _ :: _ =>
      some
        { publicKey
          allowedIps
          endpoint := if endpoint ≠ noneText then some endpoint else none
          lastHandshake :=
            if 0 < parseInt64 latestHandshake then some (rfc3339 (parseInt64 latestHandshake).toNat) else none
          rxBytes := parseInt64 rxBytes
          txBytes := parseInt64 txBytes }
  | _ => none

/-- From what `wg` prints or the text of its failure. A nil slice counts as an empty one. -/
def listPeers : Except Text Text → Except Text (List (PeerInfo Text))
  | .error failure => .error failure
  | .ok out =>
      let lines := (trim isSpace out).splitOn '\n'
      if lines.length ≤ 1 then .ok [] else .ok ((lines.drop 1).filterMap fun line => peer (line.splitOn '\t'))

end Go

namespace Python

def int (text : Text) : Except PyError Int :=
  match readInt isSpace digitValue text with
  | none => .error (.value s!"invalid literal for int() with base 10: \x27{String.ofList text}\x27")
  | some value => .ok value

/-- `datetime.fromtimestamp(seconds, tz=UTC)` for seconds after the epoch. -/
def fromTimestamp (seconds : Nat) : Except PyError Moment :=
  if (moment seconds).date.year ≤ 9999 then .ok (moment seconds)
  else .error (.value s!"year {(moment seconds).date.year} is out of range")

def handshakeTime (latestHandshake : Int) : Except PyError (Option Moment) :=
  if 0 < latestHandshake then (fromTimestamp latestHandshake.toNat).map some else .ok none

def peer : List Text → Except PyError (Option (PeerInfo Moment))
  | publicKey :: _ :: endpoint :: allowedIps :: latestHandshake :: rxBytes :: txBytes :: _ :: _ => do
      let latestHandshake ← int latestHandshake
      let rxBytes ← int rxBytes
      let txBytes ← int txBytes
      let lastHandshake ← handshakeTime latestHandshake
      return some
        { publicKey
          allowedIps
          endpoint := if endpoint ≠ noneText then some endpoint else none
          lastHandshake
          rxBytes
          txBytes }
  | _ => return none

def readPeers : List Text → Except PyError (List (PeerInfo Moment))
  | [] => return []
  | line :: lines => do
      let found ← peer (line.splitOn '\t')
      let rest ← readPeers lines
      return found.toList ++ rest

/-- A failure of `wg` counts as no peers. -/
def listPeers : Except Text Text → Except PyError (List (PeerInfo Moment))
  | .error _ => return []
  | .ok output => readPeers ((splitLines [] (trim Naming.isSpace output)).drop 1)

/-- `datetime.isoformat` of a time in UTC. -/
def isoformat (m : Moment) : Text := isoText m utc

def getPeers (output : Except Text Text) : Except PyError (List (PeerInfo Text)) := do
  let peers ← listPeers output
  return peers.map (PeerInfo.mapHandshake isoformat)

end Python

/-! ### What the orchestrator makes of an answer -/

/-- A peer takes the place of an earlier one with the same key. -/
def putPeer {τ : Type} (stats : List (PeerInfo τ)) (p : PeerInfo τ) : List (PeerInfo τ) :=
  if stats.any fun other => other.publicKey = p.publicKey then
    stats.map fun other => if other.publicKey = p.publicKey then p else other
  else stats ++ [p]

/-- The values of `{p["public_key"]: p for p in …}`. -/
def peerStats {τ : Type} (peers : List (PeerInfo τ)) : List (PeerInfo τ) := peers.foldl putPeer []

/-- `str.replace("Z", "+00:00")` -/
def replaceZ (text : Text) : Text := text.flatMap fun c => if c = 'Z' then utc else [c]

/-- The second that a handshake text stands for; without a zone it is taken to be in UTC. -/
def handshakeInstant (text : Text) : Option Int :=
  (fromIsoFormat (replaceZ text)).map fun read => read.1.toUnix - read.2.getD 0

def peerOnlineHandshakeSeconds : Int := 180

/-- `now` is in microseconds. -/
def wgUplinkConnected (now : Int) : List (PeerInfo Text) → Except PyError Bool
  | [] => return false
  | stats :: rest =>
      match stats.lastHandshake with
      | none => wgUplinkConnected now rest
      | some lastHs =>
          if lastHs = [] then wgUplinkConnected now rest
          else
            match handshakeInstant lastHs with
            | none => .error (.value s!"Invalid isoformat string: \x27{String.ofList (replaceZ lastHs)}\x27")
            | some last =>
                if now - 1000000 * last < 1000000 * peerOnlineHandshakeSeconds then return true
                else wgUplinkConnected now rest

/-! ### Lines of words -/

theorem isLineBreak_of_solid {c : Char} (solid : isSpace c = false) : isLineBreak c = false := by
  by_contra breaks
  have member := of_decide_eq_true (Bool.not_eq_false _ ▸ breaks)
  have blank : ∀ c ∈ ['\n', '\r', '\x0b', '\x0c', '\x1c', '\x1d', '\x1e', '\u0085', '\u2028', '\u2029'],
      isSpace c = true := List.all_iff_forall_prop.mp (by decide)
  rw [blank c member] at solid
  exact absurd solid (by decide)

theorem goSpace_of_solid {c : Char} (solid : isSpace c = false) : Go.isSpace c = false := by
  simp only [isSpace, Go.isSpace, Bool.or_eq_false_iff, Bool.and_eq_false_iff, decide_eq_false_iff_not,
    beq_eq_false_iff_ne] at solid ⊢
  omega

theorem Peer.words_ne_nil (peer : Peer) : peer.words ≠ [] := List.cons_ne_nil _ _

theorem rows_ne_nil (interface : Interface) (peers : List Peer) : rows interface peers ≠ [] := List.cons_ne_nil _ _

theorem filled_of_mem_rows {interface : Interface} {peers : List Peer} :
    ∀ words ∈ rows interface peers, words ≠ [] := by
  intro words member
  rcases List.mem_cons.mp member with rfl | later
  · exact List.cons_ne_nil _ _
  · obtain ⟨peer, -, rfl⟩ := List.mem_map.mp later
    exact peer.words_ne_nil

/-- Both ways of trimming and splitting give the lines of the dump. -/
theorem splitOn_dump (interface : Interface) (peers : List Peer) :
    (trim Go.isSpace (dump interface peers)).splitOn '\n' = (rows interface peers).map (row '\t') :=
  Lib.Rows.splitOn_layout (rows_ne_nil interface peers) filled_of_mem_rows (fun _ => goSpace_of_solid) (by decide)
    (by decide)

theorem splitLines_dump (interface : Interface) (peers : List Peer) :
    splitLines [] (trim isSpace (dump interface peers)) = (rows interface peers).map (row '\t') :=
  Lib.Rows.splitLines_layout (rows_ne_nil interface peers) filled_of_mem_rows (fun _ solid => solid)
    (fun _ => isLineBreak_of_solid) (by decide) (by decide)

theorem splitOn_peer (peer : Peer) : (row '\t' peer.words).splitOn '\t' = peer.words.map Lib.Rows.Word.text :=
  Lib.Rows.splitOn_row (by decide) peer.words_ne_nil

/-! ### Peers come back -/

theorem readEndpoint_words (peer : Peer) :
    (if (peer.endpoint.getD noneWord).text ≠ noneText then some (peer.endpoint.getD noneWord).text else none) =
      peer.endpoint.map Lib.Rows.Word.text := by
  cases known : peer.endpoint with
  | none => exact if_neg (not_not_intro rfl)
  | some word => exact if_pos (peer.endpoint_ne word known)

theorem Go.peer_words (p : Peer) : Go.peer (p.words.map Lib.Rows.Word.text) = some (p.info.mapHandshake Go.rfc3339) := by
  have handshake : parseInt64 (number p.latestHandshake).text = p.latestHandshake :=
    Lib.Fields.parseInt64_decimal (Nat.lt_trans p.handshake_lt (by decide))
  have rx : parseInt64 (number p.rxBytes).text = p.rxBytes := Lib.Fields.parseInt64_decimal p.rx_lt
  have tx : parseInt64 (number p.txBytes).text = p.txBytes := Lib.Fields.parseInt64_decimal p.tx_lt
  simp only [Peer.words, List.map_cons, List.map_nil, Go.peer, readEndpoint_words, handshake, rx, tx]
  by_cases never : p.latestHandshake = 0
  · simp [Peer.info, PeerInfo.mapHandshake, never]
  · simp [Peer.info, PeerInfo.mapHandshake, never, Nat.pos_of_ne_zero never]

theorem Python.int_number (n : Nat) : Python.int (number n).text = .ok (n : Int) := by
  have read : readInt isSpace digitValue (number n).text = some (n : Int) :=
    Lib.Fields.readInt_decimal (fun _ => Naming.isSpace_of_isDigit) (fun _ => Naming.digitValue_of_isDigit) n
  rw [Python.int, read]

theorem Python.fromTimestamp_of_lt {seconds : Nat} (small : seconds < 2 ^ 32) :
    Python.fromTimestamp seconds = .ok (moment seconds) :=
  if_pos (Lib.Calendar.moment_valid (Nat.lt_trans small (by decide))).1.1.2

theorem Python.handshakeTime_info (p : Peer) :
    Python.handshakeTime p.latestHandshake = .ok (p.info.mapHandshake moment).lastHandshake := by
  rw [Python.handshakeTime, Int.toNat_natCast, Python.fromTimestamp_of_lt p.handshake_lt]
  by_cases never : p.latestHandshake = 0
  · simp [Peer.info, PeerInfo.mapHandshake, never]
  · simp [Peer.info, PeerInfo.mapHandshake, never, Nat.pos_of_ne_zero never, Except.map]

theorem Python.peer_words (p : Peer) :
    Python.peer (p.words.map Lib.Rows.Word.text) = .ok (some (p.info.mapHandshake moment)) := by
  simp only [Peer.words, List.map_cons, List.map_nil, Python.peer, readEndpoint_words, Python.int_number]
  show (Python.handshakeTime p.latestHandshake >>= fun lastHandshake => _) = _
  rw [Python.handshakeTime_info]
  rfl

theorem Go.listPeers_dump (interface : Interface) (peers : List Peer) :
    Go.listPeers (.ok (dump interface peers)) = .ok (peers.map fun p => p.info.mapHandshake Go.rfc3339) := by
  have found : (((rows interface peers).map (row '\t')).drop 1).filterMap (fun line => Go.peer (line.splitOn '\t')) =
      peers.map fun p => p.info.mapHandshake Go.rfc3339 := by
    show (((peers.map Peer.words).map (row '\t')).filterMap fun line => Go.peer (line.splitOn '\t')) = _
    rw [List.map_map, List.filterMap_map, ← List.filterMap_eq_map]
    apply List.filterMap_congr
    intro p _
    show Go.peer ((row '\t' p.words).splitOn '\t') = _
    rw [splitOn_peer, Go.peer_words]
    rfl
  simp only [Go.listPeers, splitOn_dump, found]
  cases peers with
  | nil => rfl
  | cons p peers => exact if_neg (by simp [rows])

theorem Python.readPeers_rows (peers : List Peer) :
    Python.readPeers ((peers.map Peer.words).map (row '\t')) = .ok (peers.map fun p => p.info.mapHandshake moment) := by
  induction peers with
  | nil => rfl
  | cons p peers ih =>
      rw [List.map_cons, List.map_cons, Python.readPeers, splitOn_peer, Python.peer_words, ih]
      rfl

theorem Python.listPeers_dump (interface : Interface) (peers : List Peer) :
    Python.listPeers (.ok (dump interface peers)) = .ok (peers.map fun p => p.info.mapHandshake moment) := by
  rw [Python.listPeers, splitLines_dump]
  exact Python.readPeers_rows peers

/-! ### The peers of the health check -/

theorem Peer.representable (peer : Peer) : peer.latestHandshake < 253402300800 :=
  Nat.lt_trans peer.handshake_lt (by decide)

def Peer.observed (peer : Peer) : WgPeer where
  publicKey := String.ofList peer.publicKey.text
  endpoint := peer.endpoint.map fun word => String.ofList word.text
  allowedIps := String.ofList peer.allowedIps.text
  latestHandshake := peer.latestHandshake
  rxBytes := peer.rxBytes
  txBytes := peer.txBytes
  representable := peer.representable

def PeerInfo.observed (info : PeerInfo Nat) : Agent.PeerInfo where
  publicKey := String.ofList info.publicKey
  allowedIps := String.ofList info.allowedIps
  endpoint := info.endpoint.map String.ofList
  lastHandshake := info.lastHandshake
  rxBytes := info.rxBytes.toNat
  txBytes := info.txBytes.toNat

/-- The peers that the health check is taken to see are the ones read from the dump. -/
theorem listPeers_observed {system : SystemState} {peers : List Peer}
    (up : system.wg0 = some (peers.map Peer.observed)) (interface : Interface) :
    ∃ found : List (PeerInfo Nat),
      Python.listPeers (.ok (dump interface peers)) = .ok (found.map (PeerInfo.mapHandshake moment)) ∧
        Agent.listPeers system = found.map PeerInfo.observed := by
  refine ⟨peers.map Peer.info, ?_, ?_⟩
  · rw [Python.listPeers_dump, List.map_map]
    rfl
  · rw [Agent.listPeers, up, Option.getD_some, List.map_map, List.map_map]
    apply List.map_congr_left
    intro p _
    by_cases never : p.latestHandshake = 0
    · simp [Peer.observed, PeerInfo.observed, Peer.info, never, Function.comp_def]
    · simp [Peer.observed, PeerInfo.observed, Peer.info, never, Nat.pos_of_ne_zero never, Function.comp_def]

/-! ### Handshakes as instants -/

theorem replaceZ_of_not_mem {text : Text} (absent : 'Z' ∉ text) : replaceZ text = text := by
  induction text with
  | nil => rfl
  | cons c text ih =>
      obtain ⟨other, later⟩ := not_or.mp (List.mem_cons.not.mp absent)
      rw [replaceZ, List.flatMap_cons, if_neg (Ne.symm other)]
      exact congrArg (c :: ·) (ih later)

theorem replaceZ_isoText (m : Moment) : replaceZ (isoText m ['Z']) = isoText m utc := by
  have digits : replaceZ (isoText m []) = isoText m [] :=
    replaceZ_of_not_mem (Lib.Calendar.not_mem_isoText (by decide) (by decide) List.not_mem_nil)
  rw [Lib.Calendar.isoText_eq_append m ['Z'], Lib.Calendar.isoText_eq_append m utc]
  show List.flatMap _ (_ ++ _) = _
  rw [List.flatMap_append]
  exact congrArg (· ++ utc) digits

/-- A time in UTC is read back from its text. -/
theorem fromIsoFormat_utc {m : Moment} (valid : m.Valid) : fromIsoFormat (isoText m utc) = some (m, some 0) := by
  have zone : Lib.Calendar.readZone utc = some (some 0) := by decide
  rw [Lib.Calendar.fromIsoFormat_isoText valid, zone]
  rfl

theorem handshakeInstant_rfc3339 {unix : Nat} (small : unix < 2 ^ 32) :
    handshakeInstant (Go.rfc3339 unix) = some (unix : Int) := by
  have valid := Lib.Calendar.moment_valid (Nat.lt_trans small (by decide))
  rw [handshakeInstant, Go.rfc3339, replaceZ_isoText, fromIsoFormat_utc valid, Option.map_some,
    Lib.Calendar.toUnix_moment]
  exact congrArg some (Int.sub_zero _)

theorem handshakeInstant_isoformat {unix : Nat} (small : unix < 2 ^ 32) :
    handshakeInstant (Python.isoformat (moment unix)) = some (unix : Int) := by
  have valid := Lib.Calendar.moment_valid (Nat.lt_trans small (by decide))
  have absent : 'Z' ∉ isoText (moment unix) utc :=
    Lib.Calendar.not_mem_isoText (by decide) (by decide) (by decide)
  rw [handshakeInstant, Python.isoformat, replaceZ_of_not_mem absent, fromIsoFormat_utc valid, Option.map_some,
    Lib.Calendar.toUnix_moment]
  exact congrArg some (Int.sub_zero _)

theorem isoText_zone_ne_nil (m : Moment) {zone : Text} (filled : zone ≠ []) : isoText m zone ≠ [] := by
  rw [Lib.Calendar.isoText_eq_append]
  exact List.append_ne_nil_of_right_ne_nil _ filled

theorem rfc3339_ne_nil (unix : Nat) : Go.rfc3339 unix ≠ [] := isoText_zone_ne_nil _ (List.cons_ne_nil _ _)

theorem isoformat_ne_nil (m : Moment) : Python.isoformat m ≠ [] := isoText_zone_ne_nil m (List.cons_ne_nil _ _)

/-! ### The link is up or not -/

theorem PeerInfo.mapHandshake_mapHandshake {τ υ ω : Type} (first : τ → υ) (second : υ → ω) (info : PeerInfo τ) :
    (info.mapHandshake first).mapHandshake second = info.mapHandshake (second ∘ first) := by
  simp only [PeerInfo.mapHandshake, Option.map_map]

theorem putPeer_map {τ υ : Type} (form : τ → υ) (stats : List (PeerInfo τ)) (p : PeerInfo τ) :
    putPeer (stats.map (PeerInfo.mapHandshake form)) (p.mapHandshake form) =
      (putPeer stats p).map (PeerInfo.mapHandshake form) := by
  have known : ((stats.map (PeerInfo.mapHandshake form)).any fun other =>
      other.publicKey = (p.mapHandshake form).publicKey) = stats.any fun other => other.publicKey = p.publicKey :=
    List.any_map
  rw [putPeer, putPeer, known]
  split
  · rw [List.map_map, List.map_map]
    apply List.map_congr_left
    intro other _
    show (if other.publicKey = p.publicKey then _ else _) = PeerInfo.mapHandshake form (ite _ _ _)
    split <;> rfl
  · rw [List.map_append]
    rfl

/-- Which peers count does not depend on the form of their handshakes. -/
theorem peerStats_map {τ υ : Type} (form : τ → υ) (peers : List (PeerInfo τ)) :
    peerStats (peers.map (PeerInfo.mapHandshake form)) = (peerStats peers).map (PeerInfo.mapHandshake form) := by
  have folded (stats : List (PeerInfo τ)) :
      (peers.map (PeerInfo.mapHandshake form)).foldl putPeer (stats.map (PeerInfo.mapHandshake form)) =
        (peers.foldl putPeer stats).map (PeerInfo.mapHandshake form) := by
    induction peers generalizing stats with
    | nil => rfl
    | cons p peers ih => rw [List.map_cons, List.foldl_cons, List.foldl_cons, putPeer_map, ih]
  exact folded []

theorem mem_putPeer {τ : Type} {stats : List (PeerInfo τ)} {p q : PeerInfo τ} (member : q ∈ putPeer stats p) :
    q ∈ stats ∨ q = p := by
  unfold putPeer at member
  split at member
  · obtain ⟨other, present, replaced⟩ := List.mem_map.mp member
    split at replaced
    · exact .inr replaced.symm
    · exact .inl (replaced ▸ present)
  · rcases List.mem_append.mp member with before | last
    · exact .inl before
    · exact .inr (List.mem_singleton.mp last)

theorem mem_foldl_putPeer {τ : Type} {peers stats : List (PeerInfo τ)} {q : PeerInfo τ}
    (member : q ∈ peers.foldl putPeer stats) : q ∈ stats ∨ q ∈ peers := by
  induction peers generalizing stats with
  | nil => exact .inl member
  | cons p peers ih =>
      rcases ih member with earlier | later
      · rcases mem_putPeer earlier with before | rfl
        · exact .inl before
        · exact .inr List.mem_cons_self
      · exact .inr (List.mem_cons_of_mem p later)

theorem mem_of_mem_peerStats {τ : Type} {peers : List (PeerInfo τ)} {q : PeerInfo τ} (member : q ∈ peerStats peers) :
    q ∈ peers := (mem_foldl_putPeer member).resolve_left List.not_mem_nil

def recent (now : Int) (info : PeerInfo Nat) : Bool :=
  info.lastHandshake.any fun (unix : Nat) => now - 1000000 * (unix : Int) < 1000000 * peerOnlineHandshakeSeconds

/-- Whatever texts stand for the handshakes, the link is up when one of them is recent. -/
theorem wgUplinkConnected_of_reads {form : Nat → Text} {peers : List (PeerInfo Nat)}
    (reads : ∀ p ∈ peers, ∀ unix ∈ p.lastHandshake, form unix ≠ [] ∧ handshakeInstant (form unix) = some (unix : Int))
    (now : Int) : wgUplinkConnected now (peers.map (PeerInfo.mapHandshake form)) = .ok (peers.any (recent now)) := by
  induction peers with
  | nil => rfl
  | cons p peers ih =>
      obtain ⟨here, later⟩ := List.forall_mem_cons.mp reads
      rw [List.map_cons, wgUplinkConnected, ih later, List.any_cons]
      cases known : p.lastHandshake with
      | none => simp [PeerInfo.mapHandshake, recent, known]
      | some unix =>
          obtain ⟨filled, read⟩ := here unix known
          simp only [PeerInfo.mapHandshake, recent, known, Option.map_some, if_neg filled, read]
          by_cases young : now - 1000000 * (unix : Int) < 1000000 * peerOnlineHandshakeSeconds
          · rw [if_pos young, Option.any_some, decide_eq_true young, Bool.true_or]
            rfl
          · rw [if_neg young, Option.any_some, decide_eq_false young, Bool.false_or]

theorem Peer.info_handshake {peer : Peer} {unix : Nat} (found : unix ∈ peer.info.lastHandshake) :
    unix = peer.latestHandshake := by
  unfold Peer.info at found
  by_cases never : peer.latestHandshake = 0
  · simp [never] at found
  · simp only [if_neg never, Option.mem_def, Option.some.injEq] at found
    exact found.symm

theorem Peer.mapHandshake_eq_of_reads {form : Nat → Text}
    (reads : ∀ unix < 2 ^ 32, handshakeInstant (form unix) = some (unix : Int)) (peer : Peer) :
    (peer.info.mapHandshake form).mapHandshake handshakeInstant =
      peer.info.mapHandshake fun (unix : Nat) => some (unix : Int) := by
  rw [PeerInfo.mapHandshake_mapHandshake]
  unfold PeerInfo.mapHandshake
  congr 1
  apply Option.map_congr
  intro unix found
  exact reads unix (Peer.info_handshake found ▸ peer.handshake_lt)

/-- The answer of an agent, read as the orchestrator does, has the peers of the interface with the instants of their
handshakes, and the link is up when one of them is recent. -/
theorem answer_reads {form : Nat → Text}
    (reads : ∀ unix < 2 ^ 32, form unix ≠ [] ∧ handshakeInstant (form unix) = some (unix : Int)) (peers : List Peer) :
    (peers.map fun p => p.info.mapHandshake form).map (PeerInfo.mapHandshake handshakeInstant) =
        peers.map (fun p => p.info.mapHandshake fun (unix : Nat) => some (unix : Int)) ∧
      ∀ now, wgUplinkConnected now (peerStats (peers.map fun p => p.info.mapHandshake form)) =
        .ok ((peerStats (peers.map Peer.info)).any (recent now)) := by
  refine ⟨?_, fun now => ?_⟩
  · rw [List.map_map]
    exact List.map_congr_left fun p _ => p.mapHandshake_eq_of_reads fun unix small => (reads unix small).2
  · have formed : (peers.map fun p => p.info.mapHandshake form) =
        (peers.map Peer.info).map (PeerInfo.mapHandshake form) := by
      rw [List.map_map]
      rfl
    rw [formed, peerStats_map]
    refine wgUplinkConnected_of_reads (fun q member unix found => ?_) now
    obtain ⟨p, -, rfl⟩ := List.mem_map.mp (mem_of_mem_peerStats member)
    exact reads unix (Peer.info_handshake found ▸ p.handshake_lt)

/-- Both agents give back the peers of the interface in their order. Read as the orchestrator does, with texts as
instants, both answers are the same, and they have the same link up. -/
theorem dump_read_back (interface : Interface) (peers : List Peer) :
    Go.listPeers (.ok (dump interface peers)) = .ok (peers.map fun p => p.info.mapHandshake Go.rfc3339) ∧
      Python.listPeers (.ok (dump interface peers)) = .ok (peers.map fun p => p.info.mapHandshake moment) ∧
      (∀ p ∈ peers, p.info.lastHandshake = none ↔ p.latestHandshake = 0) ∧
      ∃ go python : List (PeerInfo Text),
        Go.listPeers (.ok (dump interface peers)) = .ok go ∧ Python.getPeers (.ok (dump interface peers)) = .ok python ∧
        go.map (PeerInfo.mapHandshake handshakeInstant) = python.map (PeerInfo.mapHandshake handshakeInstant) ∧
        python.map (PeerInfo.mapHandshake handshakeInstant) =
          peers.map (fun p => p.info.mapHandshake fun (unix : Nat) => some (unix : Int)) ∧
        ∀ now, wgUplinkConnected now (peerStats go) = .ok ((peerStats (peers.map Peer.info)).any (recent now)) ∧
          wgUplinkConnected now (peerStats python) = .ok ((peerStats (peers.map Peer.info)).any (recent now)) := by
  have go := Go.listPeers_dump interface peers
  have python := Python.listPeers_dump interface peers
  have texts : Python.getPeers (.ok (dump interface peers)) =
      .ok (peers.map fun p => p.info.mapHandshake (Python.isoformat ∘ moment)) := by
    rw [Python.getPeers, python]
    show Except.ok ((peers.map _).map _) = _
    rw [List.map_map]
    exact congrArg Except.ok (List.map_congr_left fun p _ => PeerInfo.mapHandshake_mapHandshake _ _ p.info)
  have readGo := answer_reads (fun unix small => ⟨rfc3339_ne_nil unix, handshakeInstant_rfc3339 small⟩) peers
  have readPython := answer_reads (fun unix small => ⟨isoformat_ne_nil _, handshakeInstant_isoformat small⟩) peers
  refine ⟨go, python, fun p _ => ?_, _, _, go, texts, ?_, readPython.1, fun now => ⟨readGo.2 now, readPython.2 now⟩⟩
  · unfold Peer.info
    by_cases never : p.latestHandshake = 0
    · simp [never]
    · simp [never]
  · rw [readGo.1]
    exact readPython.1.symm

end DeepOrc.Agent.WgDump
