import Ropeway.Config
import Ropeway.Lib.Words
import Ropeway.State
import Mathlib.Algebra.Ring.Nat

/-! The file of the final report, and what a reader finds in its text. -/

namespace Ropeway

def timeFormatMinutes (minutes bufSize : Int) : List Char :=
  if bufSize < 6 then []
  else
    let hours := minutes.tdiv 60
    let mins := minutes.tmod 60
    let hours := if 23 < hours then 23 else hours
    let hours := if hours < 0 then 0 else hours
    let mins := if mins < 0 then 0 else mins
    let mins := if 59 < mins then 59 else mins
    Lib.snprintf bufSize.toNat (Lib.zeroPadded 2 hours ++ ':' :: Lib.zeroPadded 2 mins)

def typeNames : TouristType → List Char
  | .walker => "Walker".toList
  | .cyclist => "Cyclist".toList
  | .family => "Family".toList

def ticketNames : TicketType → List Char
  | .single => "SINGLE".toList
  | .timeT1 => "TIME_T1".toList
  | .timeT2 => "TIME_T2".toList
  | .timeT3 => "TIME_T3".toList
  | .daily => "DAILY".toList

def ticketTypes : List TicketType := [.single, .timeT1, .timeT2, .timeT3, .daily]

/-- `%-6d %-8s %-10s %-6d %s`. -/
def reportColumns (id type ticket rides notes : List Char) : List Char :=
  Lib.column 6 id ++ ' ' :: (Lib.column 8 type ++ ' ' :: (Lib.column 10 ticket ++ ' ' ::
    (Lib.column 6 rides ++ ' ' :: notes)))

/-- `kid_note`, a buffer of 16 bytes. -/
def kidNote (kidCount : Nat) : List Char :=
  Lib.snprintf 16 ('+' :: Lib.decimal kidCount ++ " kids".toList)

/-- `notes`, a buffer of 32 bytes. -/
def TouristEntry.notes (e : TouristEntry) : List Char :=
  (if e.isVip then "VIP ".toList else []) ++ if 0 < e.kidCount then kidNote e.kidCount else []

/-- The line of an entry. `none` is a read past the end of `ticket_names`. -/
def reportRow (e : TouristEntry) : Option (List Char) :=
  e.ticketType.map fun ticket => reportColumns (Lib.decimal e.touristId) (typeNames e.touristType)
    (ticketNames ticket) (Lib.decimal e.totalRides) e.notes

def SharedState.reported (m : SharedState) : List TouristEntry :=
  (m.touristEntries.take (min m.touristEntryCount m.maxTrackedTourists)).filter (·.active)

def reportHead (simStartMinutes : Int) (m : SharedState) : List (List Char) :=
  ["========== SIMULATION REPORT ==========".toList,
    "Duration:".toList ++ ' ' :: (timeFormatMinutes simStartMinutes 8 ++ ' ' :: ("-".toList ++ ' ' ::
      (timeFormatMinutes m.simEndMinutes 8 ++ ' ' :: "(simulated)".toList))),
    "Total tourists:".toList ++ ' ' :: Lib.decimal m.totalTourists,
    "Total rides:".toList ++ ' ' :: Lib.decimal m.totalRides,
    [],
    "--- Per-Tourist Summary ---".toList,
    reportColumns "ID".toList "Type".toList "Ticket".toList "Rides".toList "Notes".toList,
    "-------------------------------------".toList]

/-- `  %-10s %5d tourists, %5d rides`. -/
def reportAggregate (m : SharedState) (ticket : TicketType) : List Char :=
  ' ' :: ' ' :: (Lib.column 10 (ticketNames ticket) ++ ' ' ::
    (Lib.rightColumn 5 (Lib.decimal (m.touristsByTicket ticket)) ++ ' ' :: ("tourists,".toList ++ ' ' ::
      (Lib.rightColumn 5 (Lib.decimal (m.ridesByTicket ticket)) ++ ' ' :: "rides".toList))))

def reportTail (m : SharedState) : List (List Char) :=
  [[], "--- Aggregates by Ticket Type ---".toList] ++ ticketTypes.map (reportAggregate m) ++
    [[], "=======================================".toList]

/-- `write_report_to_file`: its value and what is in the file then. -/
def writeReportToFile (opened : Bool) (simStartMinutes : Int) (m : SharedState) : Option (Int × List Char) :=
  if !opened then some (-1, [])
  else do
    let rows ← m.reported.mapM reportRow
    some (0, Lib.unlines (reportHead simStartMinutes m ++ rows ++ reportTail m))

/-! ### Reading -/

structure ReportRow where
  id : Nat
  type : TouristType
  ticket : TicketType
  rides : Nat
  vip : Bool
  kids : Nat
  deriving DecidableEq, Repr

/-- What the report says: the times in minutes, and the tourists and rides of each ticket. -/
structure Report where
  start : Nat
  finish : Nat
  tourists : Nat
  rides : Nat
  rows : List ReportRow
  aggregates : List (TicketType × Nat × Nat)
  deriving DecidableEq, Repr

def Report.people (r : Report) (k : TicketType) : Nat :=
  ((r.rows.filter (·.ticket = k)).map fun q => 1 + q.kids).sum

def Report.ridden (r : Report) (k : TicketType) : Nat :=
  ((r.rows.filter (·.ticket = k)).map fun q => q.rides * (1 + q.kids)).sum

structure Report.AddsUp (r : Report) : Prop where
  tourists : r.tourists = (r.aggregates.map (·.2.1)).sum
  rides : r.rides = (r.aggregates.map (·.2.2)).sum
  ridden : ∀ k t x, (k, t, x) ∈ r.aggregates → x = r.ridden k
  people : ∀ k t x, (k, t, x) ∈ r.aggregates → r.people k ≤ t
  single : ∀ q ∈ r.rows, q.ticket = .single → q.rides ≤ 1
  order : (r.rows.map (·.id)).Pairwise (· < ·)

def readTime (w : List Char) : Option Nat :=
  match w.splitOn ':' with
  | [hours, mins] => do
    let hours ← Lib.readNumber hours
    let mins ← Lib.readNumber mins
    some (hours * 60 + mins)
  | _ => none

def readDuration (line : List Char) : Option (Nat × Nat) :=
  match Lib.words line with
  | [_, start, _, finish, _] => do
    let start ← readTime start
    let finish ← readTime finish
    some (start, finish)
  | _ => none

def readTotal (line : List Char) : Option Nat := (Lib.words line).getLast?.bind Lib.readNumber

def readKids (notes : List (List Char)) : Option Nat :=
  match notes.find? (·.head? = some '+') with
  | some w => Lib.readNumber w.tail
  | none => some 0

def readRow (line : List Char) : Option ReportRow :=
  match Lib.words line with
  | id :: type :: ticket :: rides :: notes => do
    let id ← Lib.readNumber id
    let type ← Lib.readName typeNames [.walker, .cyclist, .family] type
    let ticket ← Lib.readName ticketNames ticketTypes ticket
    let rides ← Lib.readNumber rides
    let kids ← readKids notes
    some ⟨id, type, ticket, rides, notes.contains "VIP".toList, kids⟩
  | _ => none

def readAggregate (line : List Char) : Option (TicketType × Nat × Nat) :=
  match Lib.words line with
  | [ticket, tourists, _, rides, _] => do
    let ticket ← Lib.readName ticketNames ticketTypes ticket
    let tourists ← Lib.readNumber tourists
    let rides ← Lib.readNumber rides
    some (ticket, tourists, rides)
  | _ => none

/-- The reader knows the file by its lines: a head of eight, then the rows and the aggregates,
each up to an empty line. -/
def readReport (text : List Char) : Option Report :=
  match Lib.lines text with
  | _ :: duration :: tourists :: rides :: _ :: _ :: _ :: _ :: rest => do
    let duration ← readDuration duration
    let tourists ← readTotal tourists
    let rides ← readTotal rides
    let rows ← (rest.takeWhile (· ≠ [])).mapM readRow
    let aggregates ← (((rest.dropWhile (· ≠ [])).drop 2).takeWhile (· ≠ [])).mapM readAggregate
    some ⟨duration.1, duration.2, tourists, rides, rows, aggregates⟩
  | _ => none

def TouristEntry.row (e : TouristEntry) : Option ReportRow :=
  e.ticketType.map fun ticket => ⟨e.touristId, e.touristType, ticket, e.totalRides, e.isVip, e.kidCount⟩

def SharedState.report (simStartMinutes : Int) (m : SharedState) : Report where
  start := simStartMinutes.toNat
  finish := m.simEndMinutes.toNat
  tourists := m.totalTourists
  rides := m.totalRides
  rows := m.reported.filterMap TouristEntry.row
  aggregates := ticketTypes.map fun k => (k, m.touristsByTicket k, m.ridesByTicket k)

theorem type_names_inj : Function.Injective typeNames := by
  intro a b h
  cases a <;> cases b <;> first | rfl | exact absurd h (by decide)

theorem ticket_names_inj : Function.Injective ticketNames := by
  intro a b h
  cases a <;> cases b <;> first | rfl | exact absurd h (by decide)

theorem type_names_plain (t : TouristType) : typeNames t ≠ [] ∧ ' ' ∉ typeNames t ∧ '\n' ∉ typeNames t := by
  cases t <;> decide

theorem ticket_names_plain (k : TicketType) :
    ticketNames k ≠ [] ∧ ' ' ∉ ticketNames k ∧ '\n' ∉ ticketNames k := by
  cases k <;> decide

theorem mem_ticket_types (k : TicketType) : k ∈ ticketTypes := by
  cases k <;> decide

/-- A time of day is printed with two digits for the hour and two for the minute. -/
theorem time_format_eq {m : Nat} (h : m < 1440) :
    timeFormatMinutes m 8 = Lib.zeroPadded 2 (m / 60 : Nat) ++ ':' :: Lib.zeroPadded 2 (m % 60 : Nat) := by
  have hhours : (m : Int).tdiv 60 = (m / 60 : Nat) := rfl
  have hmins : (m : Int).tmod 60 = (m % 60 : Nat) := rfl
  have hfirst : (Lib.zeroPadded 2 (m / 60 : Nat)).length = 2 := by
    rw [Lib.zero_padded_two (by omega) (by omega),if_neg (by omega)]
  have hsecond : (Lib.zeroPadded 2 (m % 60 : Nat)).length = 2 := by
    rw [Lib.zero_padded_two (by omega) (by omega),if_neg (by omega)]
  unfold timeFormatMinutes
  simp only [hhours,hmins]
  rw [if_neg (by decide),if_neg (by omega),if_neg (by omega),if_neg (by omega),if_neg (by omega)]
  apply Lib.snprintf_fits
  simp only [List.length_append,List.length_cons,hfirst,hsecond]
  decide

theorem read_time {m : Nat} (h : m < 1440) : readTime (timeFormatMinutes m 8) = some m := by
  unfold readTime
  rw [time_format_eq h,List.splitOn_append_cons_self_of_not_mem (Lib.not_mem_padded 2 _ (by decide)),
    List.splitOn_eq_singleton (Lib.not_mem_padded 2 _ (by decide))]
  simp only [Lib.read_number_padded,Option.bind_eq_bind,Option.bind_some,Option.some.injEq]
  omega

theorem time_ne_nil {m : Nat} (h : m < 1440) : timeFormatMinutes m 8 ≠ [] := by
  rw [time_format_eq h]
  simp

theorem not_mem_time {m : Nat} (h : m < 1440) {c : Char} (hc : c.isDigit = false) (hcolon : c ≠ ':') :
    c ∉ timeFormatMinutes m 8 := by
  rw [time_format_eq h,List.mem_append,List.mem_cons]
  rintro (hm | hm | hm)
  · exact Lib.not_mem_padded 2 _ hc hm
  · exact hcolon hm
  · exact Lib.not_mem_padded 2 _ hc hm

/-- A note on the kids is cut off behind the number only. -/
theorem kid_note_words {k : Nat} (h : k ≤ 2147483647) :
    ∃ w, Lib.words (kidNote k) = ['+' :: Lib.decimal k,w] ∧ w ≠ "VIP".toList := by
  have hlen : (Lib.decimal k).length ≤ 10 := Lib.decimal_length (by decide) (by omega)
  obtain ⟨j,hj⟩ : ∃ j, 15 - ('+' :: Lib.decimal k).length = j + 4 :=
    ⟨15 - ('+' :: Lib.decimal k).length - 4,by simp only [List.length_cons]; omega⟩
  have hword : ' ' ∉ '+' :: Lib.decimal k := by simp [Lib.not_mem_decimal]
  have hcut : kidNote k = '+' :: Lib.decimal k ++ ' ' :: "kids".toList.take (j + 3) := by
    unfold kidNote Lib.snprintf
    rw [List.take_append,List.take_of_length_le (by simp only [List.length_cons]; omega)]
    rw [hj]
    rfl
  rw [hcut,Lib.words_word (by simp) hword]
  cases j with
  | zero => exact ⟨"kid".toList,congrArg _ (by decide),by decide⟩
  | succ j =>
    have hwhole : "kids".toList.take (j + 1 + 3) = "kids".toList :=
      List.take_of_length_le (Nat.le_add_left 4 j)
    rw [hwhole]
    exact ⟨"kids".toList,congrArg _ (by decide),by decide⟩

theorem notes_words {e : TouristEntry} (h : e.kidCount ≤ 2147483647) :
    readKids (Lib.words e.notes) = some e.kidCount ∧
      (Lib.words e.notes).contains "VIP".toList = e.isVip := by
  have hkids : ∃ ws, Lib.words (if 0 < e.kidCount then kidNote e.kidCount else []) = ws ∧
      readKids ws = some e.kidCount ∧ "VIP".toList ∉ ws := by
    by_cases hk : 0 < e.kidCount
    · obtain ⟨w,hw,hvip⟩ := kid_note_words h
      rw [if_pos hk,hw]
      refine ⟨_,rfl,?_,?_⟩
      · simp [readKids,Lib.read_number]
      · simp only [List.mem_cons,List.not_mem_nil,or_false,not_or]
        exact ⟨by simp,hvip.symm⟩
    · have hzero : e.kidCount = 0 := by omega
      refine ⟨[],by simp [hzero],?_,by simp⟩
      simp [readKids,hzero]
  obtain ⟨ws,hws,hread,hvip⟩ := hkids
  unfold TouristEntry.notes
  cases e.isVip with
  | false =>
    rw [if_neg (by decide),List.nil_append,hws]
    exact ⟨hread,by simpa using hvip⟩
  | true =>
    have hword : "VIP ".toList ++ (if 0 < e.kidCount then kidNote e.kidCount else []) =
        "VIP".toList ++ ' ' :: (if 0 < e.kidCount then kidNote e.kidCount else []) := rfl
    rw [if_pos rfl,hword,Lib.words_word (by decide) (by decide),hws]
    refine ⟨?_,by simp⟩
    rw [← hread]
    rfl

theorem read_row {e : TouristEntry} (h : e.kidCount ≤ 2147483647) : (reportRow e).bind readRow = e.row := by
  unfold reportRow TouristEntry.row
  cases e.ticketType with
  | none => rfl
  | some ticket =>
    obtain ⟨hkids,hvip⟩ := notes_words h
    have hblank : ∀ k : Nat, ' ' ∉ Lib.decimal k := fun k => Lib.not_mem_decimal k (by decide)
    have htype : Lib.readName typeNames [.walker,.cyclist,.family] (typeNames e.touristType) = some e.touristType :=
      Lib.read_name type_names_inj (by cases e.touristType <;> decide)
    simp only [Option.map_some,Option.bind_some,readRow,reportColumns]
    rw [Lib.words_column 6 (Lib.decimal_ne_nil _) (hblank _),
      Lib.words_column 8 (type_names_plain _).1 (type_names_plain _).2.1,
      Lib.words_column 10 (ticket_names_plain _).1 (ticket_names_plain _).2.1,
      Lib.words_column 6 (Lib.decimal_ne_nil _) (hblank _)]
    simp only [Lib.read_number,htype,Lib.read_name ticket_names_inj (mem_ticket_types ticket),hkids,hvip,
      Option.bind_eq_bind,Option.bind_some]

/-- The line of an entry whose ticket is one of the five. -/
theorem report_row_some {e : TouristEntry} (h : e.ticketType ≠ none) :
    ∃ line, reportRow e = some line ∧ line ≠ [] ∧ '\n' ∉ line := by
  obtain ⟨ticket,ht⟩ := Option.ne_none_iff_exists'.mp h
  have hnumber : ∀ k : Nat, '\n' ∉ Lib.decimal k := fun k => Lib.not_mem_decimal k (by decide)
  have hkids : '\n' ∉ kidNote e.kidCount := by
    intro hm
    have hm' := List.mem_of_mem_take hm
    simp [hnumber] at hm'
  have hnotes : '\n' ∉ e.notes := by
    unfold TouristEntry.notes
    rw [List.mem_append]
    rintro (hm | hm)
    · split at hm <;> simp at hm
    · split at hm
      · exact hkids hm
      · cases hm
  refine ⟨_,by rw [reportRow,ht,Option.map_some],by simp [reportColumns],?_⟩
  simp [reportColumns,Lib.mem_column,hnumber,hnotes,(type_names_plain _).2.2,(ticket_names_plain _).2.2]

theorem read_duration {start finish : Nat} (hs : start < 1440) (hf : finish < 1440) :
    readDuration ("Duration:".toList ++ ' ' :: (timeFormatMinutes start 8 ++ ' ' :: ("-".toList ++ ' ' ::
      (timeFormatMinutes finish 8 ++ ' ' :: "(simulated)".toList)))) = some (start,finish) := by
  have hlast : Lib.words "(simulated)".toList = ["(simulated)".toList] := by decide
  unfold readDuration
  rw [Lib.words_word (by decide) (by decide),
    Lib.words_word (time_ne_nil hs) (not_mem_time hs (by decide) (by decide)),
    Lib.words_word (by decide) (by decide),
    Lib.words_word (time_ne_nil hf) (not_mem_time hf (by decide) (by decide)),hlast]
  simp only [read_time hs,read_time hf,Option.bind_eq_bind,Option.bind_some]

theorem read_total (title : List Char) (k : Nat) : readTotal (title ++ ' ' :: Lib.decimal k) = some k := by
  unfold readTotal
  rw [Lib.words_append,Lib.words_alone (Lib.decimal_ne_nil _) (Lib.not_mem_decimal k (by decide)),
    List.getLast?_append]
  exact Lib.read_number k

theorem read_aggregate (m : SharedState) (k : TicketType) :
    readAggregate (reportAggregate m k) = some (k,m.touristsByTicket k,m.ridesByTicket k) := by
  have hlast : Lib.words "rides".toList = ["rides".toList] := by decide
  have hblank : ∀ k : Nat, ' ' ∉ Lib.decimal k := fun k => Lib.not_mem_decimal k (by decide)
  unfold readAggregate reportAggregate
  rw [Lib.words_blank,Lib.words_blank,Lib.words_column 10 (ticket_names_plain _).1 (ticket_names_plain _).2.1,
    Lib.words_right_column 5 (Lib.decimal_ne_nil _) (hblank _),Lib.words_word (by decide) (by decide),
    Lib.words_right_column 5 (Lib.decimal_ne_nil _) (hblank _),hlast]
  simp only [Lib.read_number,Lib.read_name ticket_names_inj (mem_ticket_types k),Option.bind_eq_bind,Option.bind_some]

/-- No line of the head and of the aggregates holds a line end. -/
theorem report_head_plain {start : Nat} {m : SharedState} {finish : Nat} (hs : start < 1440) (hf : finish < 1440)
    (hm : m.simEndMinutes = finish) : ∀ line ∈ reportHead start m, '\n' ∉ line := by
  have hnumber : ∀ k : Nat, '\n' ∉ Lib.decimal k := fun k => Lib.not_mem_decimal k (by decide)
  have hstart := not_mem_time hs (c := '\n') (by decide) (by decide)
  have hfinish := not_mem_time hf (c := '\n') (by decide) (by decide)
  simp [reportHead,reportColumns,Lib.mem_column,hm,hnumber,hstart,hfinish]

theorem report_tail_plain (m : SharedState) : ∀ line ∈ reportTail m, '\n' ∉ line := by
  have hnumber : ∀ k : Nat, '\n' ∉ Lib.decimal k := fun k => Lib.not_mem_decimal k (by decide)
  have hline : ∀ k, '\n' ∉ reportAggregate m k := by
    intro k
    simp [reportAggregate,Lib.mem_column,Lib.mem_right_column,hnumber,(ticket_names_plain _).2.2]
  intro line hl
  simp only [reportTail,List.mem_append,List.mem_map] at hl
  rcases hl with (hl | ⟨k,-,rfl⟩) | hl
  · revert line
    decide
  · exact hline k
  · revert line
    decide

theorem aggregate_ne_nil (m : SharedState) (k : TicketType) : reportAggregate m k ≠ [] := by
  simp [reportAggregate]

/-- The rows end at the empty line before the aggregates, and these at the next. -/
theorem read_body {rows : List (List Char)} {m : SharedState} (h : ∀ line ∈ rows, line ≠ []) :
    (rows ++ (reportTail m ++ [[]])).takeWhile (· ≠ []) = rows ∧
      (((rows ++ (reportTail m ++ [[]])).dropWhile (· ≠ [])).drop 2).takeWhile (· ≠ []) =
        ticketTypes.map (reportAggregate m) := by
  have hrows : ∀ line ∈ rows, decide (line ≠ []) = true := fun line hl => decide_eq_true (h line hl)
  have haggs : ∀ line ∈ ticketTypes.map (reportAggregate m), decide (line ≠ []) = true := by
    intro line hl
    obtain ⟨k,-,rfl⟩ := List.mem_map.mp hl
    exact decide_eq_true (aggregate_ne_nil m k)
  refine ⟨?_,?_⟩
  · rw [List.takeWhile_append_of_pos hrows]
    simp [reportTail]
  · rw [List.dropWhile_append_of_pos hrows]
    have hdrop : ((reportTail m ++ [[]]).dropWhile (· ≠ [])).drop 2 =
        ticketTypes.map (reportAggregate m) ++ [[],"=======================================".toList,[]] := by
      simp [reportTail]
    rw [hdrop,List.takeWhile_append_of_pos haggs]
    simp

/-- The figures of the segment can be read off the file. -/
theorem report_reads_back {start finish : Nat} {m : SharedState} (hs : start < 1440) (hf : finish < 1440)
    (hm : m.simEndMinutes = finish) (he : ∀ e ∈ m.reported, e.ticketType ≠ none ∧ e.kidCount ≤ 2147483647) :
    ∃ text, writeReportToFile true start m = some (0,text) ∧ readReport text = some (m.report start) := by
  have hline : ∀ line ∈ m.reported.filterMap reportRow, line ≠ [] ∧ '\n' ∉ line := by
    intro line hl
    obtain ⟨e,hmem,hrow⟩ := List.mem_filterMap.mp hl
    obtain ⟨line',hrow',hplain⟩ := report_row_some (he e hmem).1
    rw [hrow] at hrow'
    cases hrow'
    exact hplain
  have hwrite : ∀ e ∈ m.reported, reportRow e ≠ none := by
    intro e hmem hnone
    obtain ⟨line,hrow,-⟩ := report_row_some (he e hmem).1
    rw [hnone] at hrow
    cases hrow
  have hplain : ∀ line ∈ reportHead start m ++ m.reported.filterMap reportRow ++ reportTail m, '\n' ∉ line := by
    intro line hl
    simp only [List.mem_append] at hl
    rcases hl with (hl | hl) | hl
    · exact report_head_plain hs hf hm line hl
    · exact (hline line hl).2
    · exact report_tail_plain m line hl
  have hrows : (m.reported.filterMap reportRow).mapM readRow = some (m.reported.filterMap TouristEntry.row) := by
    have hread : (m.reported.filterMap reportRow).filterMap readRow = m.reported.filterMap TouristEntry.row := by
      rw [List.filterMap_filterMap]
      exact List.filterMap_congr fun e hmem => read_row (he e hmem).2
    rw [← hread]
    apply Lib.map_m_some
    intro line hl hnone
    obtain ⟨e,hmem,hrow⟩ := List.mem_filterMap.mp hl
    have hread := read_row (he e hmem).2
    rw [hrow,Option.bind_some,hnone] at hread
    exact (he e hmem).1 (Option.map_eq_none_iff.mp hread.symm)
  have haggs : (ticketTypes.map (reportAggregate m)).mapM readAggregate =
      some (ticketTypes.map fun k => (k,m.touristsByTicket k,m.ridesByTicket k)) := by
    simp [ticketTypes,read_aggregate]
  have hbody := read_body (m := m) fun line hl => (hline line hl).1
  refine ⟨_,by rw [writeReportToFile,Lib.map_m_some hwrite]; rfl,?_⟩
  unfold readReport
  rw [Lib.lines_unlines hplain,List.append_assoc,List.append_assoc,reportHead]
  simp only [List.cons_append,List.nil_append,hm,read_duration hs hf,read_total,hbody.1,hbody.2,hrows,haggs,
    Option.bind_eq_bind,Option.bind_some,SharedState.report,Int.toNat_natCast]

end Ropeway
