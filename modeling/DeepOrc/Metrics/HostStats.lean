import DeepOrc.Models
import DeepOrc.Naming
import DeepOrc.Lib.Fields
import Mathlib.Algebra.Order.Field.Rat
import Mathlib.Data.Bool.AllAny
import Mathlib.Data.List.Nodup
import Mathlib.Data.Rat.Cast.Order
import Mathlib.Tactic.Linarith

/-!
# Network rates of the host

Every sample picks the interface with the most bytes anew, and keeps of it the two counters but not the name. Rates
are left exact here, where the program rounds them.
-/

namespace DeepOrc.Metrics

open Models (PyError)
open Naming (isSpace strip)
open Lib.Fields (Text fields padLeft decimal readInt)

/-! ### The network devices file -/

/-- A row of `/proc/net/dev`: the bytes received and sent, each before the seven counters that go with it. -/
structure Interface where
  name : Text
  rx : Nat
  received : List Nat
  tx : Nat
  sent : List Nat
  filled : name ≠ []
  plain : ∀ c ∈ name, isSpace c = false ∧ c ≠ ':'
  sevenReceived : received.length = 7
  sevenSent : sent.length = 7

namespace Interface

def columns (interface : Interface) : List Nat :=
  interface.rx :: interface.received ++ interface.tx :: interface.sent

def total (interface : Interface) : Nat := interface.rx + interface.tx

/-- The kernel's `%7llu %7llu %4llu …`; a column is never narrower than its number. -/
def widths : List Nat := [7, 7, 4, 4, 4, 5, 10, 9, 8, 7, 4, 4, 4, 5, 7, 10]

def cells (interface : Interface) : List (Text × Text) :=
  interface.columns.zipWith (fun n width => (List.replicate (1 + (width - (decimal n).length)) ' ', decimal n)) widths

def row (interface : Interface) : Text :=
  padLeft 6 interface.name ++ ':' :: ((interface.cells.flatMap fun cell => cell.1 ++ cell.2) ++ ['\n'])

end Interface

def headers : List Text :=
  ["Inter-|   Receive                                                |  Transmit\n".toList,
    (" face |bytes    packets errs drop fifo frame compressed multicast|bytes    packets errs drop fifo colls " ++
      "carrier compressed\n").toList]

def procNetDev (interfaces : List Interface) : List Text := headers ++ interfaces.map Interface.row

/-! ### Picking an interface -/

structure Pick where
  bestTotal : Int
  iface : Text
  rx : Int
  tx : Int
deriving DecidableEq

def Pick.start : Pick := ⟨-1, "eth0".toList, 0, 0⟩

/-- `int(cols[index])` -/
def readColumn (cols : List Text) (index : Nat) : Except PyError Int :=
  match cols[index]? with
  | none => .error (.other "list index out of range")
  | some col =>
      match readInt isSpace Naming.digitValue col with
      | none => .error (.value s!"invalid literal for int() with base 10: \x27{String.ofList col}\x27")
      | some value => .ok value

def readRow (pick : Pick) (line : Text) : Except PyError Pick :=
  if ':' ∉ line then .ok pick
  else
    let name := strip (line.takeWhile (· ≠ ':'))
    let rest := (line.dropWhile (· ≠ ':')).drop 1
    if name = "lo".toList then .ok pick
    else do
      let cols := fields isSpace [] rest
      let curRx ← readColumn cols 0
      let curTx ← readColumn cols 8
      return if pick.bestTotal ≤ curRx + curTx then ⟨curRx + curTx, name, curRx, curTx⟩ else pick

def readNet (lines : List Text) : Except PyError Pick := (lines.drop 2).foldlM readRow Pick.start

/-! ### One sample -/

structure HostStats where
  cpuPercent : Rat
  memoryTotalMb : Int
  memoryUsedMb : Int
  memoryPercent : Rat
  networkInterface : Text
  networkRxBytesPerSec : Rat
  networkTxBytesPerSec : Rat
  loadAvg : List Rat

/-- `_prev` -/
structure Sample where
  cpuTotal : Int
  cpuIdle : Int
  rx : Int
  tx : Int
deriving DecidableEq

/-- What lives between two calls: `_prev` and `_prev_ts`. -/
structure Collector where
  prev : Option Sample
  prevTs : Rat

/-- What one call reads: the clock, the sums of `/proc/stat` and `/proc/meminfo`, the network file and the load. -/
structure Readings where
  now : Rat
  cpuTotal : Int
  cpuIdle : Int
  memTotalMb : Int
  memUsedMb : Int
  netDev : List Text
  loadAvg : List Rat

def cpuPercent (prev : Sample) (readings : Readings) : Rat :=
  let dtotal := readings.cpuTotal - prev.cpuTotal
  let didle := readings.cpuIdle - prev.cpuIdle
  if 0 < dtotal then max 0 (min 100 ((1 - (didle : Rat) / dtotal) * 100)) else 0

/-- Bytes for each second since the last sample; a counter that went back gives none. -/
def rate (now before : Int) (dt : Rat) : Rat := max 0 (((now - before : Int) : Rat) / dt)

def collectHostStats (collector : Collector) (readings : Readings) : Except PyError (HostStats × Collector) := do
  let pick ← readNet readings.netDev
  let dt := readings.now - collector.prevTs
  let (cpu, rx, tx) :=
    match collector.prev with
    | none => (0, 0, 0)
    | some prev =>
        if collector.prevTs < readings.now then
          (cpuPercent prev readings, rate pick.rx prev.rx dt, rate pick.tx prev.tx dt)
        else (0, 0, 0)
  let memory : Rat := if readings.memTotalMb = 0 then 0 else (readings.memUsedMb : Rat) / readings.memTotalMb * 100
  return (⟨cpu, readings.memTotalMb, readings.memUsedMb, memory, pick.iface, rx, tx, readings.loadAvg⟩,
    ⟨some ⟨readings.cpuTotal, readings.cpuIdle, pick.rx, pick.tx⟩, readings.now⟩)

/-- What the second of two calls in a row returns. -/
def consecutive (collector : Collector) (first second : Readings) : Except PyError HostStats := do
  let (_, kept) ← collectHostStats collector first
  let (stats, _) ← collectHostStats kept second
  return stats

/-! ### Reading the rows back -/

def Interface.pick (interface : Interface) : Pick := ⟨interface.total, interface.name, interface.rx, interface.tx⟩

/-- What a row does to the pick so far. -/
def visit (pick : Pick) (interface : Interface) : Pick :=
  if interface.name = "lo".toList then pick else if pick.bestTotal ≤ interface.total then interface.pick else pick

theorem Interface.cell_shape {interface : Interface} {cell : Text × Text} (member : cell ∈ interface.cells) :
    Lib.Fields.IsCell isSpace cell := by
  obtain ⟨i, below, rfl⟩ := List.mem_iff_getElem.mp member
  simp only [Interface.cells, List.getElem_zipWith]
  refine ⟨?_, ?_, Lib.Fields.decimal_ne_nil _, ?_⟩
  · rw [Ne, List.replicate_eq_nil_iff]
    omega
  · intro c inside
    rw [List.eq_of_mem_replicate inside]
    decide
  · exact fun c inside => Naming.isSpace_of_isDigit (Lib.Fields.isDigit_of_mem_decimal inside)

theorem Interface.cells_snd (interface : Interface) : interface.cells.map Prod.snd = interface.columns.map decimal := by
  have long : interface.columns.length = Interface.widths.length := by
    simp [Interface.columns, Interface.widths, interface.sevenReceived, interface.sevenSent]
  rw [Interface.cells, List.map_zipWith]
  exact List.ext_getElem (by simp [long]) (by simp)

theorem readColumn_decimal {cols : List Text} {index n : Nat} (found : cols[index]? = some (decimal n)) :
    readColumn cols index = .ok n := by
  rw [readColumn, found]
  simp only [Lib.Fields.readInt_decimal (fun _ => Naming.isSpace_of_isDigit) (fun _ => Naming.digitValue_of_isDigit)]

theorem readRow_row (pick : Pick) (interface : Interface) : readRow pick interface.row = .ok (visit pick interface) := by
  have colon : ':' ∉ padLeft 6 interface.name := by
    intro member
    rcases List.mem_append.mp member with space | inside
    · exact absurd (List.eq_of_mem_replicate space) (by decide)
    · exact (interface.plain _ inside).2 rfl
  have different (c : Char) (member : c ∈ padLeft 6 interface.name) : decide (c ≠ ':') = true :=
    decide_eq_true fun same => colon (same ▸ member)
  have name : strip (interface.row.takeWhile (· ≠ ':')) = interface.name := by
    rw [Interface.row, List.takeWhile_append_of_pos different, List.takeWhile_cons_of_neg (by simp), List.append_nil]
    exact Lib.Fields.trim_padLeft (by decide) fun c inside => (interface.plain c inside).1
  have rest : (interface.row.dropWhile (· ≠ ':')).drop 1 =
      (interface.cells.flatMap fun cell => cell.1 ++ cell.2) ++ ['\n'] := by
    rw [Interface.row, List.dropWhile_append_of_pos different, List.dropWhile_cons_of_neg (by simp)]
    rfl
  have newline : ∀ c ∈ ['\n'], isSpace c = true := List.forall_mem_singleton.mpr (by decide)
  have cols : fields isSpace [] ((interface.row.dropWhile (· ≠ ':')).drop 1) = interface.columns.map decimal := by
    rw [rest, Lib.Fields.fields_cells (fun _ => Interface.cell_shape) newline, interface.cells_snd]
    rfl
  have first : (interface.columns.map decimal)[0]? = some (decimal interface.rx) := rfl
  have ninth : (interface.columns.map decimal)[8]? = some (decimal interface.tx) := by
    rw [List.getElem?_map, Interface.columns, List.cons_append, List.getElem?_cons_succ,
      List.getElem?_append_right (by simp [interface.sevenReceived]), interface.sevenReceived]
    rfl
  have present : ':' ∈ interface.row := by simp [Interface.row]
  rw [readRow, if_neg (not_not_intro present)]
  simp only [name, cols, readColumn_decimal first, readColumn_decimal ninth]
  unfold visit
  split
  · rfl
  · rfl

theorem readNet_procNetDev (interfaces : List Interface) :
    readNet (procNetDev interfaces) = .ok (interfaces.foldl visit Pick.start) := by
  have rows (pick : Pick) : (interfaces.map Interface.row).foldlM readRow pick = .ok (interfaces.foldl visit pick) := by
    induction interfaces generalizing pick with
    | nil => rfl
    | cons interface rest ih =>
        rw [List.map_cons, List.foldlM_cons, readRow_row]
        exact ih _
  exact rows Pick.start

/-! ### The interface with the most bytes -/

/-- The interface with the most bytes, the last listed of several; the loopback does not count. -/
structure Busiest (interfaces : List Interface) (interface : Interface) : Prop where
  outward : interface.name ≠ "lo".toList
  listed : ∃ before after, interfaces = before ++ interface :: after ∧
    (∀ other ∈ before, other.name ≠ "lo".toList → other.total ≤ interface.total) ∧
    ∀ other ∈ after, other.name ≠ "lo".toList → other.total < interface.total

theorem Busiest.mem {interfaces : List Interface} {interface : Interface} (busiest : Busiest interfaces interface) :
    interface ∈ interfaces := by
  obtain ⟨before, after, rfl, -⟩ := busiest.listed
  simp

theorem Busiest.le {interfaces : List Interface} {interface other : Interface} (busiest : Busiest interfaces interface)
    (member : other ∈ interfaces) (outward : other.name ≠ "lo".toList) : other.total ≤ interface.total := by
  obtain ⟨before, after, rfl, earlier, later⟩ := busiest.listed
  rcases List.mem_append.mp member with inside | inside
  · exact earlier other inside outward
  · rcases List.mem_cons.mp inside with rfl | inside
    · exact Nat.le_refl _
    · exact Nat.le_of_lt (later other inside outward)

/-- The loop ends with the busiest interface, or as it started where there is none but the loopback. -/
theorem foldl_visit (interfaces : List Interface) :
    (∃ interface, Busiest interfaces interface ∧ interfaces.foldl visit Pick.start = interface.pick) ∨
      ((∀ interface ∈ interfaces, interface.name = "lo".toList) ∧ interfaces.foldl visit Pick.start = Pick.start) := by
  induction interfaces using List.reverseRecOn with
  | nil => exact .inr ⟨by simp, rfl⟩
  | append_singleton interfaces last ih =>
      rw [List.foldl_append, List.foldl_cons, List.foldl_nil]
      by_cases loopback : last.name = "lo".toList
      · rw [visit, if_pos loopback]
        rcases ih with ⟨interface, ⟨outward, before, after, rfl, earlier, later⟩, picked⟩ | ⟨none, picked⟩
        · refine .inl ⟨interface, ⟨outward, before, after ++ [last], by simp, earlier, ?_⟩, picked⟩
          intro other member counts
          rcases List.mem_append.mp member with inside | inside
          · exact later other inside counts
          · exact absurd (List.mem_singleton.mp inside ▸ loopback) counts
        · refine .inr ⟨fun interface member => ?_, picked⟩
          rcases List.mem_append.mp member with inside | inside
          · exact none interface inside
          · exact List.mem_singleton.mp inside ▸ loopback
      · rw [visit, if_neg loopback]
        rcases ih with ⟨interface, busiest, picked⟩ | ⟨none, picked⟩
        · rw [picked]
          by_cases more : interface.total ≤ last.total
          · rw [if_pos (by simpa [Interface.pick] using more)]
            refine .inl ⟨last, ⟨loopback, interfaces, [], rfl, fun other member counts => ?_, by simp⟩, rfl⟩
            exact Nat.le_trans (busiest.le member counts) more
          · rw [if_neg (by simpa [Interface.pick] using more)]
            obtain ⟨outward, before, after, rfl, earlier, later⟩ := busiest
            refine .inl ⟨interface, ⟨outward, before, after ++ [last], by simp, earlier, ?_⟩, rfl⟩
            intro other member counts
            rcases List.mem_append.mp member with inside | inside
            · exact later other inside counts
            · rw [List.mem_singleton.mp inside]
              omega
        · rw [picked, if_pos (by simp only [Pick.start]; omega)]
          refine .inl ⟨last, ⟨loopback, interfaces, [], rfl, fun other member counts => ?_, by simp⟩, rfl⟩
          exact absurd (none other member) counts

theorem Busiest.unique {interfaces : List Interface} {one other : Interface} (first : Busiest interfaces one)
    (second : Busiest interfaces other) : one = other := by
  obtain ⟨before, after, whole, -, later⟩ := first.listed
  obtain ⟨before', after', whole', -, later'⟩ := second.listed
  rcases List.append_eq_append_iff.mp (whole.symm.trans whole') with ⟨between, -, split⟩ | ⟨between, -, split⟩
  · cases between with
    | nil => exact (List.cons_eq_cons.mp split).1
    | cons head between =>
        have behind : other ∈ after := (List.cons_eq_cons.mp split).2 ▸ by simp
        have less := later other behind second.outward
        have more := second.le first.mem first.outward
        omega
  · cases between with
    | nil => exact (List.cons_eq_cons.mp split).1.symm
    | cons head between =>
        have behind : one ∈ after' := (List.cons_eq_cons.mp split).2 ▸ by simp
        have less := later' one behind first.outward
        have more := first.le second.mem second.outward
        omega

/-! ### The rates of two samples -/

/-- A counter of the named interface; one that is not listed has counted nothing. -/
def counted (counter : Interface → Nat) (interfaces : List Interface) (name : Text) : Nat :=
  ((interfaces.find? fun interface => interface.name = name).map counter).getD 0

/-- The same interfaces in any order, none of whose counters went back. -/
structure Grows (earlier later : List Interface) : Prop where
  distinctEarlier : (earlier.map Interface.name).Nodup
  distinctLater : (later.map Interface.name).Nodup
  named : ∀ name, name ∈ earlier.map Interface.name ↔ name ∈ later.map Interface.name
  counters : ∀ before ∈ earlier, ∀ after ∈ later, before.name = after.name →
    before.rx ≤ after.rx ∧ before.tx ≤ after.tx

/-- The rates are those of the interface that is reported. -/
structure RatesOfReported (stats : HostStats) (earlier later : List Interface) (dt : Rat) : Prop where
  rx : stats.networkRxBytesPerSec =
    ((counted Interface.rx later stats.networkInterface : Rat) -
      counted Interface.rx earlier stats.networkInterface) / dt
  tx : stats.networkTxBytesPerSec =
    ((counted Interface.tx later stats.networkInterface : Rat) -
      counted Interface.tx earlier stats.networkInterface) / dt

/-- What was remembered of one interface serves for another: it is the same number, or the other interface counted
nothing in between and what was remembered is no less. -/
def Serves (counter : Interface → Nat) (earlier : List Interface) (before after : Interface) : Prop :=
  counter before = counted counter earlier after.name ∨
    counter after = counted counter earlier after.name ∧ counter after ≤ counter before

theorem counted_of_mem {counter : Interface → Nat} {interfaces : List Interface}
    (distinct : (interfaces.map Interface.name).Nodup) {interface : Interface} (member : interface ∈ interfaces) :
    counted counter interfaces interface.name = counter interface := by
  obtain ⟨found, search⟩ := Option.isSome_iff_exists.mp
    (List.find?_isSome.mpr ⟨interface, member, decide_eq_true rfl⟩ :
      (interfaces.find? fun other => other.name = interface.name).isSome = true)
  have named : found.name = interface.name := by simpa using List.find?_some search
  have same : found = interface := List.inj_on_of_nodup_map distinct (List.mem_of_find?_eq_some search) member named
  rw [counted, search, same]
  rfl

theorem counted_of_notMem {counter : Interface → Nat} {interfaces : List Interface} {name : Text}
    (absent : name ∉ interfaces.map Interface.name) : counted counter interfaces name = 0 := by
  have nothing : (interfaces.find? fun interface => interface.name = name) = none := by
    rw [List.find?_eq_none]
    intro interface member same
    exact absent (of_decide_eq_true same ▸ List.mem_map_of_mem member)
  rw [counted, nothing]
  rfl

/-- The clamp at zero hides a difference only where nothing was counted. -/
theorem rate_eq_iff {remembered before now : Nat} (grown : before ≤ now) {dt : Rat} (passed : 0 < dt) :
    rate now remembered dt = ((now : Rat) - before) / dt ↔
      remembered = before ∨ now = before ∧ now ≤ remembered := by
  unfold rate
  rcases Nat.le_total remembered now with less | more
  · have positive : (0 : Rat) ≤ ((now - remembered : Int) : Rat) / dt := by
      refine div_nonneg ?_ passed.le
      exact_mod_cast sub_nonneg.mpr (Int.ofNat_le.mpr less)
    rw [max_eq_right positive, div_left_inj' passed.ne']
    constructor
    · intro same
      left
      have equal : (remembered : Rat) = before := by
        push_cast at same
        linarith
      exact_mod_cast equal
    · rintro (rfl | ⟨rfl, most⟩)
      · push_cast
        rfl
      · rw [Nat.le_antisymm less most]
        push_cast
        rfl
  · have negative : ((now - remembered : Int) : Rat) / dt ≤ 0 := by
      refine div_nonpos_of_nonpos_of_nonneg ?_ passed.le
      exact_mod_cast sub_nonpos.mpr (Int.ofNat_le.mpr more)
    rw [max_eq_left negative, eq_comm, div_eq_zero_iff, or_iff_left passed.ne', sub_eq_zero]
    constructor
    · intro same
      exact .inr ⟨by exact_mod_cast same, more⟩
    · rintro (rfl | ⟨same, -⟩)
      · exact_mod_cast Nat.le_antisymm more grown
      · exact_mod_cast same

theorem collectHostStats_ok (collector : Collector) {readings : Readings} {pick : Pick}
    (read : readNet readings.netDev = .ok pick) :
    ∃ stats, collectHostStats collector readings =
        .ok (stats, ⟨some ⟨readings.cpuTotal, readings.cpuIdle, pick.rx, pick.tx⟩, readings.now⟩) ∧
      stats.networkInterface = pick.iface ∧
      ∀ prev, collector.prev = some prev → collector.prevTs < readings.now →
        stats.networkRxBytesPerSec = rate pick.rx prev.rx (readings.now - collector.prevTs) ∧
        stats.networkTxBytesPerSec = rate pick.tx prev.tx (readings.now - collector.prevTs) := by
  rw [collectHostStats, read]
  refine ⟨_, rfl, rfl, fun prev known passed => ?_⟩
  simp only [known, if_pos passed, and_self]

theorem consecutive_ok (collector : Collector) {first second : Readings} {before after : Pick}
    (readFirst : readNet first.netDev = .ok before) (readSecond : readNet second.netDev = .ok after)
    (passed : first.now < second.now) :
    ∃ stats, consecutive collector first second = .ok stats ∧ stats.networkInterface = after.iface ∧
      stats.networkRxBytesPerSec = rate after.rx before.rx (second.now - first.now) ∧
      stats.networkTxBytesPerSec = rate after.tx before.tx (second.now - first.now) := by
  obtain ⟨earlier, sampled, -, -⟩ := collectHostStats_ok collector readFirst
  obtain ⟨stats, again, iface, rates⟩ := collectHostStats_ok
    ⟨some ⟨first.cpuTotal, first.cpuIdle, before.rx, before.tx⟩, first.now⟩ readSecond
  obtain ⟨rx, tx⟩ := rates _ rfl passed
  refine ⟨stats, ?_, iface, rx, tx⟩
  rw [consecutive, sampled]
  simp only [bind, Except.bind, again, pure, Except.pure]

/-- The rate of the busiest interface now, taken against what was remembered of the busiest one before. -/
theorem rate_iff_serves {counter : Interface → Nat} {earlier later : List Interface} (grows : Grows earlier later)
    {same after : Interface} (present : same ∈ earlier) (member : after ∈ later) (named : same.name = after.name)
    (grown : counter same ≤ counter after) (before : Interface) {dt : Rat} (passed : 0 < dt) :
    rate (counter after) (counter before) dt =
        ((counted counter later after.name : Rat) - counted counter earlier after.name) / dt ↔
      Serves counter earlier before after := by
  have past : counted counter earlier same.name = counter same := counted_of_mem grows.distinctEarlier present
  rw [named] at past
  rw [counted_of_mem grows.distinctLater member, Serves, past, rate_eq_iff grown passed]

theorem eth0_notMem {interfaces : List Interface} (loopback : ∀ interface ∈ interfaces, interface.name = "lo".toList) :
    "eth0".toList ∉ interfaces.map Interface.name := by
  intro member
  obtain ⟨interface, inside, named⟩ := List.mem_map.mp member
  rw [loopback interface inside] at named
  exact absurd named (by decide)

/-- Two samples in a row report the rates of the interface they name exactly if what the first one remembered, of the
interface that was then the busiest, serves for the one that is the busiest now. -/
theorem networkRates_iff (collector : Collector) {first second : Readings} {earlier later : List Interface}
    (grows : Grows earlier later) (readFirst : first.netDev = procNetDev earlier)
    (readSecond : second.netDev = procNetDev later) (passed : first.now < second.now) :
    ∃ stats, consecutive collector first second = .ok stats ∧
      (RatesOfReported stats earlier later (second.now - first.now) ↔
        ∀ before after, Busiest earlier before → Busiest later after →
          Serves Interface.rx earlier before after ∧ Serves Interface.tx earlier before after) := by
  obtain ⟨stats, returned, iface, rx, tx⟩ := consecutive_ok collector
    (readFirst ▸ readNet_procNetDev earlier) (readSecond ▸ readNet_procNetDev later) passed
  refine ⟨stats, returned, ?_⟩
  have elapsed : 0 < second.now - first.now := sub_pos.mpr passed
  rcases foldl_visit later with ⟨after, busiestAfter, pickedAfter⟩ | ⟨noneAfter, pickedAfter⟩
  · obtain ⟨same, present, named⟩ := List.mem_map.mp
      ((grows.named after.name).mpr (List.mem_map_of_mem busiestAfter.mem))
    rcases foldl_visit earlier with ⟨before, busiestBefore, pickedBefore⟩ | ⟨noneBefore, -⟩
    · have grown := grows.counters same present after busiestAfter.mem named
      have rxIff := rate_iff_serves grows present busiestAfter.mem named grown.1 before elapsed
      have txIff := rate_iff_serves grows present busiestAfter.mem named grown.2 before elapsed
      rw [pickedAfter] at iface rx tx
      rw [pickedBefore] at rx tx
      constructor
      · rintro ⟨rxRate, txRate⟩ before' after' busiestBefore' busiestAfter'
        rw [busiestBefore'.unique busiestBefore, busiestAfter'.unique busiestAfter]
        rw [rx, iface] at rxRate
        rw [tx, iface] at txRate
        exact ⟨rxIff.mp rxRate, txIff.mp txRate⟩
      · intro serves
        obtain ⟨servesRx, servesTx⟩ := serves before after busiestBefore busiestAfter
        refine ⟨?_, ?_⟩
        · rw [rx, iface]
          exact rxIff.mpr servesRx
        · rw [tx, iface]
          exact txIff.mpr servesTx
    · exact absurd (named ▸ noneBefore same present) busiestAfter.outward
  · have outside := eth0_notMem noneAfter
    have outsideBefore : "eth0".toList ∉ earlier.map Interface.name := fun member =>
      outside ((grows.named _).mp member)
    rcases foldl_visit earlier with ⟨before, busiestBefore, -⟩ | ⟨-, pickedBefore⟩
    · obtain ⟨same, present, named⟩ := List.mem_map.mp
        ((grows.named before.name).mp (List.mem_map_of_mem busiestBefore.mem))
      exact absurd (named ▸ noneAfter same present) busiestBefore.outward
    · rw [pickedAfter] at iface rx tx
      rw [pickedBefore] at rx tx
      refine ⟨fun _ before after _ busiestAfter => absurd (noneAfter after busiestAfter.mem) busiestAfter.outward,
        fun _ => ⟨?_, ?_⟩⟩
      · rw [rx, iface]
        simp only [Pick.start, counted_of_notMem outside, counted_of_notMem outsideBefore]
        simp [rate]
      · rw [tx, iface]
        simp only [Pick.start, counted_of_notMem outside, counted_of_notMem outsideBefore]
        simp [rate]

/-! ### Two interfaces -/

theorem sevenZeros : (List.replicate 7 0).length = 7 := rfl

theorem eth0_filled : "eth0".toList ≠ [] := by decide

theorem eth0_plain : ∀ c ∈ "eth0".toList, isSpace c = false ∧ c ≠ ':' := List.all_iff_forall_prop.mp (by decide)

theorem wg0_filled : "wg0".toList ≠ [] := by decide

theorem wg0_plain : ∀ c ∈ "wg0".toList, isSpace c = false ∧ c ≠ ':' := List.all_iff_forall_prop.mp (by decide)

def eth0 (rx tx : Nat) : Interface :=
  ⟨"eth0".toList, rx, List.replicate 7 0, tx, List.replicate 7 0, eth0_filled, eth0_plain, sevenZeros, sevenZeros⟩

def wg0 (rx tx : Nat) : Interface :=
  ⟨"wg0".toList, rx, List.replicate 7 0, tx, List.replicate 7 0, wg0_filled, wg0_plain, sevenZeros, sevenZeros⟩

def readAt (now : Rat) (interfaces : List Interface) : Readings := ⟨now, 0, 0, 0, 0, procNetDev interfaces, []⟩

theorem grows_eth0_wg0 {rx rx' : Nat} (more : rx ≤ rx') : Grows [eth0 100 0, wg0 rx 0] [eth0 100 0, wg0 rx' 0] where
  distinctEarlier := show ["eth0".toList, "wg0".toList].Nodup by decide
  distinctLater := show ["eth0".toList, "wg0".toList].Nodup by decide
  named := fun _ => Iff.rfl
  counters := by
    have apart : "eth0".toList ≠ "wg0".toList := by decide
    intro before first after second same
    simp only [List.mem_cons, List.not_mem_nil, or_false] at first second
    rcases first with rfl | rfl <;> rcases second with rfl | rfl
    · exact ⟨Nat.le_refl _, Nat.le_refl _⟩
    · exact absurd same apart
    · exact absurd same.symm apart
    · exact ⟨more, Nat.le_refl _⟩

theorem networkRates_iff_wg0 : ∃ stats,
    consecutive ⟨none, 0⟩ (readAt 0 [eth0 100 0, wg0 150 0]) (readAt 1 [eth0 100 0, wg0 200 0]) = .ok stats ∧
      (RatesOfReported stats [eth0 100 0, wg0 150 0] [eth0 100 0, wg0 200 0] (1 - 0) ↔
        ∀ before after, Busiest [eth0 100 0, wg0 150 0] before → Busiest [eth0 100 0, wg0 200 0] after →
          Serves Interface.rx [eth0 100 0, wg0 150 0] before after ∧
            Serves Interface.tx [eth0 100 0, wg0 150 0] before after) :=
  networkRates_iff ⟨none, 0⟩ (grows_eth0_wg0 (by decide)) rfl rfl (by decide : (0 : Rat) < 1)

/-- The second interface overtakes the first one between the samples: it received 150 bytes, and 100 are reported. -/
theorem busiest_changes : ¬∀ (collector : Collector) (first second : Readings) (earlier later : List Interface)
    (stats : HostStats), Grows earlier later → first.netDev = procNetDev earlier →
      second.netDev = procNetDev later → first.now < second.now → consecutive collector first second = .ok stats →
        RatesOfReported stats earlier later (second.now - first.now) := by
  intro claimed
  let first := readAt 0 [eth0 100 0, wg0 50 0]
  let second := readAt 1 [eth0 100 0, wg0 200 0]
  have before : readNet first.netDev = .ok (eth0 100 0).pick := by
    rw [show first.netDev = procNetDev [eth0 100 0, wg0 50 0] from rfl, readNet_procNetDev]
    rfl
  have after : readNet second.netDev = .ok (wg0 200 0).pick := by
    rw [show second.netDev = procNetDev [eth0 100 0, wg0 200 0] from rfl, readNet_procNetDev]
    rfl
  have passed : first.now < second.now := (by decide : (0 : Rat) < 1)
  obtain ⟨stats, returned, iface, rx, -⟩ := consecutive_ok ⟨none, 0⟩ before after passed
  have rates := (claimed ⟨none, 0⟩ first second _ _ stats (grows_eth0_wg0 (by decide)) rfl rfl passed returned).rx
  have now : counted Interface.rx [eth0 100 0, wg0 200 0] (wg0 200 0).pick.iface = 200 := by decide
  have past : counted Interface.rx [eth0 100 0, wg0 50 0] (wg0 200 0).pick.iface = 50 := by decide
  rw [rx, iface, now, past] at rates
  revert rates
  simp only [rate, Interface.pick, eth0, wg0, first, second, readAt]
  norm_num

end DeepOrc.Metrics
