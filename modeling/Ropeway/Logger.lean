import Mathlib.Data.List.Basic
import Ropeway.Lib.Text

/-! `log_msg`: a line is put together in a buffer of 512 bytes in three steps and handed to
`write`. The text of a message is what its format and arguments give. -/

namespace Ropeway

inductive LogComponent where
  | tourist
  | vip
  | cashier
  | lowerWorker
  | upperWorker
  | generator
  | main
  | ipc
  | timeServer
  | unknown
  | componentCount
  deriving DecidableEq, Repr

/-- `g_component_colors`, which ends before `LOG_COMPONENT_COUNT`. -/
def componentColors : LogComponent → Option (List Char)
  | .tourist => some "\x1b[92m".toList
  | .vip => some "\x1b[91m".toList
  | .cashier => some "\x1b[33m".toList
  | .lowerWorker => some "\x1b[34m".toList
  | .upperWorker => some "\x1b[36m".toList
  | .generator => some "\x1b[35m".toList
  | .main => some "\x1b[37m".toList
  | .ipc => some "\x1b[90m".toList
  | .timeServer => some "\x1b[93m".toList
  | .unknown => some "\x1b[39m".toList
  | .componentCount => none

def colorReset : List Char := "\x1b[0m".toList

/-- `sizeof(COLOR_RESET)` counts the NUL. -/
def sizeofColorReset : Int := 5

def logDebug : List Char := "DEBUG".toList

structure Logger where
  useColors : Bool
  component : LogComponent
  debugEnabled : Bool
  deriving DecidableEq, Repr

/-- Kids have a color of their own. -/
def Logger.color (g : Logger) (component : List Char) : List Char :=
  if g.useColors then
    if component = "KID".toList then "\x1b[32m".toList else (componentColors g.component).getD []
  else []

def Logger.reset (g : Logger) : List Char := if g.useColors then colorReset else []

/-- `format_sim_time`, of the whole minutes and the seconds that the conversions from
`double` give. -/
def formatSimTime (totalMinutes seconds : Int) : List Char :=
  let hours := totalMinutes.tdiv 60
  let minutes := totalMinutes.tmod 60
  let hours := if 23 < hours then 23 else hours
  let hours := if hours < 0 then 0 else hours
  let seconds := if 59 < seconds then 59 else seconds
  let seconds := if seconds < 0 then 0 else seconds
  Lib.snprintf 16 (Lib.zeroPadded 2 hours ++ [':'] ++ Lib.zeroPadded 2 minutes ++ [':'] ++ Lib.zeroPadded 2 seconds)

/-- `"%s[%s] [%-5s] [%s] "`. -/
def logHeader (color time level component : List Char) : List Char :=
  color ++ ['['] ++ time ++ "] [".toList ++ level.rightpad 5 ' ' ++ "] [".toList ++ component ++ "] ".toList

/-- The arguments of `write`: the text that is stored in `buf`, and the count. -/
structure Written where
  buf : List Char
  count : Nat
  deriving DecidableEq, Repr

/-- `snprintf(buf + len, sizeof(buf) - len, ...)`. What is stored outside of the buffer is not
followed. -/
def formatAt (buf : List Char) (len : Int) (text : List Char) : List Char :=
  if 0 ≤ len ∧ len ≤ 512 then buf.take len.toNat ++ Lib.snprintf (512 - len.toNat) text else buf

def logLine (header message reset : List Char) : Written :=
  let buf := formatAt [] 0 header
  let len := Lib.printed header
  let buf := formatAt buf len message
  let len := Lib.toInt32 (len + Lib.printed message)
  if len < 512 - sizeofColorReset then
    ⟨formatAt buf len (reset ++ ['\n']),
      (Lib.toInt32 (len + Lib.printed (reset ++ ['\n'])) % 18446744073709551616).toNat⟩
  else ⟨buf,(len % 18446744073709551616).toNat⟩

def logMsg (g : Logger) (totalMinutes seconds : Int) (level component message : List Char) :
    Option Written :=
  if g.debugEnabled = false ∧ level = logDebug then none
  else some (logLine (logHeader (g.color component) (formatSimTime totalMinutes seconds) level component)
    message g.reset)

/-- Every byte that is written has been stored, and the last one is a newline. -/
def WritesLine (w : Written) : Prop := w.count ≤ w.buf.length ∧ (w.buf.take w.count).getLast? = some '\n'

/-- Formatting at the end of the text goes on with it. -/
theorem format_at_end (buf text : List Char) (h : buf.length ≤ 512) :
    formatAt buf buf.length text = buf ++ text.take (511 - buf.length) := by
  unfold formatAt Lib.snprintf
  rw [if_pos ⟨by omega,by omega⟩,Int.toNat_natCast,List.take_length]
  congr 2
  omega

/-- A header that fits is stored, and as much of the message as there is room for. -/
theorem header_stored {header : List Char} (message : List Char) (h : header.length < 512) :
    formatAt (formatAt [] 0 header) header.length message =
      header ++ message.take (511 - header.length) := by
  have hfirst : formatAt [] 0 header = header := by
    have hnil := format_at_end [] header (by simp)
    rw [List.take_of_length_le (by simp only [List.length_nil]; omega)] at hnil
    exact hnil
  rw [hfirst,format_at_end header message (by omega)]

section Line

variable {header message reset : List Char}

/-- What the call of `write` gets, by the length `len` before the third step. -/
theorem log_line_eq (h : header.length < 512) (hreset : reset.length ≤ 4) {len : Int}
    (hlen : Lib.toInt32 (header.length + Lib.printed message) = len) :
    logLine header message reset =
      if len < 507 then
        ⟨formatAt (header ++ message.take (511 - header.length)) len (reset ++ ['\n']),
          (Lib.toInt32 (len + (reset.length + 1)) % 18446744073709551616).toNat⟩
      else ⟨header ++ message.take (511 - header.length),(len % 18446744073709551616).toNat⟩ := by
  have htail : Lib.printed (reset ++ ['\n']) = reset.length + 1 := by
    rw [Lib.printed_length (by simp only [List.length_append,List.length_singleton]; omega)]
    simp
  unfold logLine
  simp only [Lib.printed_length (show header.length ≤ 2147483647 by omega),header_stored message h,hlen,
    htail,sizeofColorReset]
  rfl

/-- A line with room for the reset and the newline is written as a whole. -/
theorem line_short (h : header.length + message.length ≤ 506) (hreset : reset.length ≤ 4) :
    logLine header message reset =
      ⟨header ++ message ++ reset ++ ['\n'],header.length + message.length + reset.length + 1⟩ := by
  have hmessage : message.take (511 - header.length) = message := List.take_of_length_le (by omega)
  have hlen : Lib.toInt32 (header.length + Lib.printed message) = ((header ++ message).length : Nat) := by
    rw [Lib.printed_length (by omega),Lib.to_int32_eq (by omega) (by omega),List.length_append]
    omega
  have htail : (reset ++ ['\n']).take (511 - (header ++ message).length) = reset ++ ['\n'] := by
    apply List.take_of_length_le
    simp only [List.length_append,List.length_singleton]
    omega
  have hsize : (header ++ message).length = header.length + message.length := List.length_append
  rw [log_line_eq (by omega) hreset hlen,hmessage,if_pos (by omega),format_at_end _ _ (by omega),htail,
    Lib.to_int32_eq (by omega) (by omega)]
  congr 1
  · simp
  · omega

/-- Without room for them it is written as far as it was stored, but with its whole length. -/
theorem line_long (h : header.length < 512) (hreset : reset.length ≤ 4)
    (hlong : 507 ≤ header.length + message.length)
    (hint : header.length + message.length ≤ 2147483647) :
    logLine header message reset =
      ⟨header ++ message.take (511 - header.length),header.length + message.length⟩ := by
  have hlen : Lib.toInt32 (header.length + Lib.printed message) = header.length + message.length := by
    rw [Lib.printed_length (by omega),Lib.to_int32_eq (by omega) (by omega)]
  rw [log_line_eq h hreset hlen,if_neg (by omega)]
  congr 1
  omega

/-- When the sum wraps around the count is huge. -/
theorem line_wrapped (h : header.length < 512) (hreset : reset.length ≤ 4)
    (hmessage : message.length ≤ 2147483647) (hwrap : 2147483647 < header.length + message.length) :
    (logLine header message reset).buf.length ≤ 511 ∧ 512 ≤ (logLine header message reset).count := by
  have hlen : Lib.toInt32 (header.length + Lib.printed message) =
      header.length + message.length - 4294967296 := by
    rw [Lib.printed_length hmessage]
    unfold Lib.toInt32
    omega
  have hstored : (header ++ message.take (511 - header.length)).length ≤ 511 := by
    simp only [List.length_append,List.length_take]
    omega
  have hkept : formatAt (header ++ message.take (511 - header.length))
      (header.length + message.length - 4294967296) (reset ++ ['\n']) =
      header ++ message.take (511 - header.length) := if_neg (by omega)
  rw [log_line_eq h hreset hlen,if_pos (by omega),hkept,Lib.to_int32_eq (by omega) (by omega)]
  refine ⟨hstored,?_⟩
  dsimp only
  omega

/-- A message too long for an `int` counts as -1, and the line goes on one byte back in the
header. -/
theorem line_refused (h : header.length < 512) (hpos : 0 < header.length) (hreset : reset.length ≤ 4)
    (hmessage : 2147483647 < message.length) :
    logLine header message reset =
      if header.length ≤ 507 then
        ⟨header.dropLast ++ reset ++ ['\n'],header.length + reset.length⟩
      else ⟨header ++ message.take (511 - header.length),header.length - 1⟩ := by
  have hlen : Lib.toInt32 (header.length + Lib.printed message) = (header.length - 1 : Nat) := by
    unfold Lib.printed
    rw [if_neg (by omega),Lib.to_int32_eq (by omega) (by omega)]
    omega
  rw [log_line_eq h hreset hlen]
  split
  · rename_i hroom
    have htail : (reset ++ ['\n']).take (512 - (header.length - 1) - 1) = reset ++ ['\n'] := by
      apply List.take_of_length_le
      simp only [List.length_append,List.length_singleton]
      omega
    have hback : (header ++ message.take (511 - header.length)).take (header.length - 1) =
        header.dropLast := by
      rw [List.take_append_of_le_length (by omega),List.dropLast_eq_take]
    unfold formatAt Lib.snprintf
    rw [if_pos (by omega),if_pos (by omega),Int.toNat_natCast,hback,htail,
      Lib.to_int32_eq (by omega) (by omega),List.append_assoc]
    congr 1
    omega
  · rename_i hroom
    rw [if_neg (by omega)]
    congr 1
    omega

/-- A text that is written as a whole with its newline. -/
theorem writes_whole {text : List Char} {count : Nat} (h : count = text.length + 1) :
    WritesLine ⟨text ++ ['\n'],count⟩ := by
  have hlen : (text ++ ['\n']).length = count := by
    rw [List.length_append,List.length_singleton,h]
  unfold WritesLine
  dsimp only
  rw [← hlen,List.take_length]
  exact ⟨Nat.le_refl _,by simp⟩

theorem written_short (h : header.length + message.length ≤ 506) (hreset : reset.length ≤ 4) :
    WritesLine (logLine header message reset) := by
  rw [line_short h hreset]
  apply writes_whole
  rw [List.length_append,List.length_append]

/-- When all of it is stored and nothing is added, the newline has to come from the message:
the header ends with a blank. -/
theorem written_fitting (hlast : header.getLast? = some ' ') (hreset : reset.length ≤ 4)
    (hlong : 507 ≤ header.length + message.length) (hfit : header.length + message.length ≤ 511) :
    WritesLine (logLine header message reset) ↔ message.getLast? = some '\n' := by
  have hall : message.take (511 - header.length) = message := List.take_of_length_le (by omega)
  have hends : (header ++ message).getLast? = some '\n' ↔ message.getLast? = some '\n' := by
    cases hm : message.getLast? with
    | none => simp [List.getLast?_append,hm,hlast]
    | some c => simp [List.getLast?_append,hm]
  rw [line_long (by omega) hreset hlong (by omega),hall]
  unfold WritesLine
  rw [← List.length_append,List.take_length,← hends]
  exact and_iff_right (Nat.le_refl _)

/-- When the rest of the message was cut off, the count goes too far. -/
theorem written_cut (h : header.length < 512) (hreset : reset.length ≤ 4)
    (hcut : 512 ≤ header.length + message.length) (hint : header.length + message.length ≤ 2147483647) :
    ¬WritesLine (logLine header message reset) := by
  rw [line_long h hreset (by omega) hint]
  intro hw
  have hcount := hw.1
  simp only [List.length_append,List.length_take] at hcount
  omega

theorem written_wrapped (h : header.length < 512) (hreset : reset.length ≤ 4)
    (hmessage : message.length ≤ 2147483647) (hwrap : 2147483647 < header.length + message.length) :
    ¬WritesLine (logLine header message reset) := by
  intro hw
  obtain ⟨hbuf,hlarge⟩ := line_wrapped h hreset hmessage hwrap
  have hcount := hw.1
  omega

/-- One byte back the header ends with a bracket. -/
theorem written_refused (hback : header.dropLast.getLast? = some ']') (h : header.length < 512)
    (hpos : 0 < header.length) (hreset : reset.length ≤ 4) (hmessage : 2147483647 < message.length) :
    WritesLine (logLine header message reset) ↔ header.length ≤ 507 := by
  rw [line_refused h hpos hreset hmessage]
  split
  · rename_i hroom
    refine iff_of_true ?_ hroom
    apply writes_whole
    rw [List.length_append,List.length_dropLast]
    omega
  · rename_i hroom
    refine iff_of_false ?_ hroom
    intro hw
    have hnewline := hw.2
    dsimp only at hnewline
    rw [List.take_append_of_le_length (by omega),← List.dropLast_eq_take,hback] at hnewline
    exact absurd hnewline (by decide)

/-- Which lines are written properly. -/
theorem line_written (message : List Char) {front : List Char} (hheader : header = front ++ [']',' '])
    (h : header.length < 512) (hreset : reset.length ≤ 4) :
    WritesLine (logLine header message reset) ↔
      header.length + message.length ≤ 506 ∨
      (header.length + message.length ≤ 511 ∧ message.getLast? = some '\n') ∨
      (header.length ≤ 507 ∧ 2147483647 < message.length) := by
  have hlast : header.getLast? = some ' ' := by
    rw [hheader]
    simp
  have hback : header.dropLast.getLast? = some ']' := by
    rw [hheader,List.dropLast_append_of_ne_nil (by simp)]
    simp
  have hpos : 0 < header.length := by
    rw [hheader,List.length_append]
    simp
  by_cases hshort : header.length + message.length ≤ 506
  · exact iff_of_true (written_short hshort hreset) (.inl hshort)
  · by_cases hfit : header.length + message.length ≤ 511
    · rw [written_fitting hlast hreset (by omega) hfit]
      constructor
      · intro hm
        exact .inr (.inl ⟨hfit,hm⟩)
      · rintro (hc | ⟨-,hm⟩ | ⟨-,hc⟩)
        · exact absurd hc hshort
        · exact hm
        · omega
    · by_cases hint : header.length + message.length ≤ 2147483647
      · exact iff_of_false (written_cut h hreset (by omega) hint) (by omega)
      · by_cases hmessage : message.length ≤ 2147483647
        · exact iff_of_false (written_wrapped h hreset hmessage (by omega)) (by omega)
        · rw [written_refused hback h hpos hreset (by omega)]
          omega

/-- A longer line that brings no newline of its own: how much is stored of it, and how much
`write` is asked for. -/
theorem line_overrun {front : List Char} (hheader : header = front ++ [']',' ']) (h : header.length < 512)
    (hreset : reset.length ≤ 4) (hlong : 507 ≤ header.length + message.length)
    (hint : header.length + message.length ≤ 2147483647) (hlast : message.getLast? ≠ some '\n') :
    (logLine header message reset).count = header.length + message.length ∧
      (logLine header message reset).buf.length = min 511 (header.length + message.length) ∧
      ¬WritesLine (logLine header message reset) := by
  refine ⟨?_,?_,?_⟩
  · rw [line_long h hreset hlong hint]
  · rw [line_long h hreset hlong hint]
    simp only [List.length_append,List.length_take]
    omega
  · rw [line_written message hheader h hreset]
    rintro (hc | ⟨-,hc⟩ | ⟨-,hc⟩)
    · omega
    · exact hlast hc
    · omega

end Line

def headerLength (g : Logger) (totalMinutes : Int) (level component : List Char) : Nat :=
  (g.color component).length + (if totalMinutes.tmod 60 < -9 then 9 else 8) + max 5 level.length +
    component.length + 9

/-- The time always fits in its buffer. -/
theorem sim_time_length (totalMinutes seconds : Int) :
    (formatSimTime totalMinutes seconds).length = if totalMinutes.tmod 60 < -9 then 9 else 8 := by
  have hlow := Int.lt_tmod_of_pos totalMinutes (show (0 : Int) < 60 by decide)
  have hhigh := Int.tmod_lt_of_pos totalMinutes (show (0 : Int) < 60 by decide)
  have hclamp : ∀ {x k : Int}, 0 ≤ k → k < 100 →
      (Lib.zeroPadded 2 (if (if k < x then k else x) < 0 then 0 else if k < x then k else x)).length = 2 := by
    intro x k hk hk'
    rw [Lib.zero_padded_two (by split <;> split <;> omega) (by split <;> split <;> omega)]
    exact if_neg (by split <;> split <;> omega)
  have hminutes := Lib.zero_padded_two (n := totalMinutes.tmod 60) (by omega) (by omega)
  unfold formatSimTime
  simp only [Lib.snprintf,List.length_take,List.length_append,List.length_singleton,hminutes,
    hclamp (show (0 : Int) ≤ 23 by decide) (by decide),hclamp (show (0 : Int) ≤ 59 by decide) (by decide)]
  split <;> rfl

theorem header_length (g : Logger) (totalMinutes seconds : Int) (level component : List Char) :
    (logHeader (g.color component) (formatSimTime totalMinutes seconds) level component).length =
      headerLength g totalMinutes level component := by
  have h3 : "] [".toList.length = 3 := rfl
  have h2 : "] ".toList.length = 2 := rfl
  unfold logHeader headerLength
  simp only [List.length_append,List.length_singleton,List.length_rightpad,sim_time_length,h3,h2]
  omega

theorem reset_length (g : Logger) : g.reset.length ≤ 4 := by
  unfold Logger.reset
  split
  · exact Nat.le_of_eq rfl
  · exact Nat.zero_le 4

theorem header_ends (color time level component : List Char) :
    ∃ front, logHeader color time level component = front ++ [']',' '] := ⟨_,rfl⟩

/-- With a header that fits, a line is written properly if nothing is logged at all, if there
is room for a reset and the newline, if the message brings its own newline and just fits, or if
it is longer than `int` can count. -/
theorem log_msg_writes_line (g : Logger) (totalMinutes seconds : Int)
    (level component message : List Char) (h : headerLength g totalMinutes level component < 512) :
    (∀ w ∈ logMsg g totalMinutes seconds level component message, WritesLine w) ↔
      (g.debugEnabled = false ∧ level = logDebug) ∨
      headerLength g totalMinutes level component + message.length ≤ 506 ∨
      (headerLength g totalMinutes level component + message.length ≤ 511 ∧
        message.getLast? = some '\n') ∨
      (headerLength g totalMinutes level component ≤ 507 ∧ 2147483647 < message.length) := by
  unfold logMsg
  split
  · rename_i hskip
    refine iff_of_true ?_ (.inl hskip)
    intro w hw
    cases hw
  · rename_i hskip
    obtain ⟨front,hfront⟩ :=
      header_ends (g.color component) (formatSimTime totalMinutes seconds) level component
    have hline := line_written message hfront
      (by rw [header_length]; exact h) (reset_length g)
    rw [header_length] at hline
    rw [or_iff_right hskip,← hline]
    simp

/-- The longest message without a newline beside `[08:00:00] [INFO ] [IPC] `. -/
theorem log_msg_writes_line_longest :
    headerLength ⟨false,.ipc,true⟩ 480 "INFO".toList "IPC".toList = 25 ∧
    ∀ w ∈ logMsg ⟨false,.ipc,true⟩ 480 0 "INFO".toList "IPC".toList (List.replicate 481 'a'), WritesLine w := by
  have hlen : headerLength ⟨false,.ipc,true⟩ 480 "INFO".toList "IPC".toList = 25 := rfl
  refine ⟨hlen,(log_msg_writes_line _ _ _ _ _ _ (by rw [hlen]; decide)).mpr (.inr (.inl ?_))⟩
  rw [hlen,List.length_replicate]

/-- One character more and the newline is missing. A message of 600 characters makes `write`
read 114 bytes more than were stored, 113 of them behind the buffer. -/
theorem log_msg_overrun :
    (∃ w, logMsg ⟨false,.ipc,true⟩ 480 0 "INFO".toList "IPC".toList (List.replicate 482 'a') = some w ∧
      w.count = 507 ∧ w.buf.length = 507 ∧ ¬WritesLine w) ∧
    ∃ w, logMsg ⟨false,.ipc,true⟩ 480 0 "INFO".toList "IPC".toList (List.replicate 600 'a') = some w ∧
      w.count = 625 ∧ w.buf.length = 511 ∧ ¬WritesLine w := by
  obtain ⟨front,hfront⟩ := header_ends (Logger.color ⟨false,.ipc,true⟩ "IPC".toList) (formatSimTime 480 0)
    "INFO".toList "IPC".toList
  have hheader := header_length ⟨false,.ipc,true⟩ 480 0 "INFO".toList "IPC".toList
  have hline : ∀ k, 482 ≤ k → k ≤ 600 → ∃ w, logMsg ⟨false,.ipc,true⟩ 480 0 "INFO".toList "IPC".toList
      (List.replicate k 'a') = some w ∧ w.count = 25 + k ∧ w.buf.length = min 511 (25 + k) ∧
      ¬WritesLine w := by
    intro k hk hk'
    have hlen : (List.replicate k 'a').length = k := List.length_replicate
    have hlast : (List.replicate k 'a').getLast? ≠ some '\n' := by
      rw [List.getLast?_replicate,if_neg (by omega)]
      decide
    have hover := line_overrun hfront (by rw [hheader]; decide) (reset_length ⟨false,.ipc,true⟩)
      (by rw [hheader,hlen]; exact Nat.add_le_add_left hk 25)
      (by rw [hheader,hlen]; exact Nat.le_trans (Nat.add_le_add_left hk' 25) (by decide)) hlast
    rw [hheader,hlen] at hover
    exact ⟨_,rfl,hover⟩
  exact ⟨hline 482 (by decide) (by decide),hline 600 (by decide) (by decide)⟩

end Ropeway
