import Ropeway.Config

/-! `config_load`: what a configuration file makes of the defaults. -/

namespace Ropeway

/-- The keys of the file, in the order in which `config_load` compares them. -/
inductive Key
  | stationCapacity | simulationDurationReal
  | simStartHour | simStartMinute | simEndHour | simEndMinute
  | chairTravelTimeSim | totalTourists | touristSpawnDelayUs
  | vipPercentage | walkerPercentage | familyPercentage
  | trailWalkTime | trailBikeFastTime | trailBikeMediumTime | trailBikeSlowTime
  | ticketT1Duration | ticketT2Duration | ticketT3Duration
  | dangerProbability | dangerDurationSim | debugLogsEnabled | scaredEnabled
  deriving DecidableEq, Repr

def Key.all : List Key :=
  [.stationCapacity, .simulationDurationReal, .simStartHour, .simStartMinute, .simEndHour,
    .simEndMinute, .chairTravelTimeSim, .totalTourists, .touristSpawnDelayUs, .vipPercentage,
    .walkerPercentage, .familyPercentage, .trailWalkTime, .trailBikeFastTime, .trailBikeMediumTime,
    .trailBikeSlowTime, .ticketT1Duration, .ticketT2Duration, .ticketT3Duration, .dangerProbability,
    .dangerDurationSim, .debugLogsEnabled, .scaredEnabled]

def Key.name : Key → String
  | .stationCapacity => "STATION_CAPACITY"
  | .simulationDurationReal => "SIMULATION_DURATION_REAL_SECONDS"
  | .simStartHour => "SIM_START_HOUR"
  | .simStartMinute => "SIM_START_MINUTE"
  | .simEndHour => "SIM_END_HOUR"
  | .simEndMinute => "SIM_END_MINUTE"
  | .chairTravelTimeSim => "CHAIR_TRAVEL_TIME_SIM_MINUTES"
  | .totalTourists => "TOTAL_TOURISTS"
  | .touristSpawnDelayUs => "TOURIST_SPAWN_DELAY_US"
  | .vipPercentage => "VIP_PERCENTAGE"
  | .walkerPercentage => "WALKER_PERCENTAGE"
  | .familyPercentage => "FAMILY_PERCENTAGE"
  | .trailWalkTime => "TRAIL_WALK_TIME_SIM_MINUTES"
  | .trailBikeFastTime => "TRAIL_BIKE_FAST_TIME_SIM_MINUTES"
  | .trailBikeMediumTime => "TRAIL_BIKE_MEDIUM_TIME_SIM_MINUTES"
  | .trailBikeSlowTime => "TRAIL_BIKE_SLOW_TIME_SIM_MINUTES"
  | .ticketT1Duration => "TICKET_T1_DURATION_SIM_MINUTES"
  | .ticketT2Duration => "TICKET_T2_DURATION_SIM_MINUTES"
  | .ticketT3Duration => "TICKET_T3_DURATION_SIM_MINUTES"
  | .dangerProbability => "DANGER_PROBABILITY"
  | .dangerDurationSim => "DANGER_DURATION_SIM_MINUTES"
  | .debugLogsEnabled => "DEBUG_LOGS_ENABLED"
  | .scaredEnabled => "SCARED_ENABLED"

def Config.get (cfg : Config) : Key → Int
  | .stationCapacity => cfg.stationCapacity
  | .simulationDurationReal => cfg.simulationDurationReal
  | .simStartHour => cfg.simStartHour
  | .simStartMinute => cfg.simStartMinute
  | .simEndHour => cfg.simEndHour
  | .simEndMinute => cfg.simEndMinute
  | .chairTravelTimeSim => cfg.chairTravelTimeSim
  | .totalTourists => cfg.totalTourists
  | .touristSpawnDelayUs => cfg.touristSpawnDelayUs
  | .vipPercentage => cfg.vipPercentage
  | .walkerPercentage => cfg.walkerPercentage
  | .familyPercentage => cfg.familyPercentage
  | .trailWalkTime => cfg.trailWalkTime
  | .trailBikeFastTime => cfg.trailBikeFastTime
  | .trailBikeMediumTime => cfg.trailBikeMediumTime
  | .trailBikeSlowTime => cfg.trailBikeSlowTime
  | .ticketT1Duration => cfg.ticketT1Duration
  | .ticketT2Duration => cfg.ticketT2Duration
  | .ticketT3Duration => cfg.ticketT3Duration
  | .dangerProbability => cfg.dangerProbability
  | .dangerDurationSim => cfg.dangerDurationSim
  | .debugLogsEnabled => cfg.debugLogsEnabled
  | .scaredEnabled => cfg.scaredEnabled

def Config.set (cfg : Config) (v : Int) : Key → Config
  | .stationCapacity => { cfg with stationCapacity := v }
  | .simulationDurationReal => { cfg with simulationDurationReal := v }
  | .simStartHour => { cfg with simStartHour := v }
  | .simStartMinute => { cfg with simStartMinute := v }
  | .simEndHour => { cfg with simEndHour := v }
  | .simEndMinute => { cfg with simEndMinute := v }
  | .chairTravelTimeSim => { cfg with chairTravelTimeSim := v }
  | .totalTourists => { cfg with totalTourists := v }
  | .touristSpawnDelayUs => { cfg with touristSpawnDelayUs := v }
  | .vipPercentage => { cfg with vipPercentage := v }
  | .walkerPercentage => { cfg with walkerPercentage := v }
  | .familyPercentage => { cfg with familyPercentage := v }
  | .trailWalkTime => { cfg with trailWalkTime := v }
  | .trailBikeFastTime => { cfg with trailBikeFastTime := v }
  | .trailBikeMediumTime => { cfg with trailBikeMediumTime := v }
  | .trailBikeSlowTime => { cfg with trailBikeSlowTime := v }
  | .ticketT1Duration => { cfg with ticketT1Duration := v }
  | .ticketT2Duration => { cfg with ticketT2Duration := v }
  | .ticketT3Duration => { cfg with ticketT3Duration := v }
  | .dangerProbability => { cfg with dangerProbability := v }
  | .dangerDurationSim => { cfg with dangerDurationSim := v }
  | .debugLogsEnabled => { cfg with debugLogsEnabled := v }
  | .scaredEnabled => { cfg with scaredEnabled := v }

def findKey (key : List Char) : Option Key := Key.all.find? (fun k => k.name.toList == key)

/-- `if (len > 0 && (line[len-1] == '\n' || line[len-1] == '\r')) line[len-1] = '\0';` -/
def chomp (line : List Char) : List Char :=
  if line.getLast? = some '\n' ∨ line.getLast? = some '\r' then line.dropLast else line

/-- `sscanf(line, "%63[^=]=%63s", key, value)`, when it returns 2. -/
def scanKeyValue (line : List Char) : Option (List Char × List Char) := do
  let (key,rest) ← Lib.scanSet 63 (· != '=') line
  let rest ← Lib.scanChar '=' rest
  let (value,_) ← Lib.scanWord 63 rest
  return (key,value)

inductive Parsed
  | skipped
  | invalid (line : List Char)
  | unknown (key : List Char)
  | assign (k : Key) (v : Int)
  deriving DecidableEq

def parseLine (buf : List Char) : Parsed :=
  let line := Lib.cstr buf
  if line.head? = some '#' ∨ line.head? = some '\n' ∨ line.head? = some '\r' then .skipped
  else
    match scanKeyValue (chomp (chomp line)) with
    | none => .invalid (chomp (chomp line))
    | some (key,value) =>
      match findKey key with
      | some k => .assign k (Lib.atoi value)
      | none => .unknown key

structure Loading where
  cfg : Config
  lineNum : Nat
  warnings : List String

def Loading.warn (s : Loading) (what : String) (text : List Char) : Loading :=
  { s with
    warnings := s.warnings ++ ["[--:--:--] [WARN ] [CONFIG] " ++ what ++ " at line " ++
      toString s.lineNum ++ ": " ++ String.ofList text ++ "\n"] }

def loadLine (s : Loading) (buf : List Char) : Loading :=
  let s := { s with lineNum := s.lineNum + 1 }
  match parseLine buf with
  | .skipped => s
  | .invalid line => s.warn "Invalid format" line
  | .unknown key => s.warn "Unknown key" key
  | .assign k v => { s with cfg := s.cfg.set v k }

/-- `config_load`: the return value and what it has loaded. The file is `none` when
`fopen` fails. -/
def configLoad : Option (List Char) → Int × Loading
  | none => (-1, ⟨configDefaults, 0, []⟩)
  | some file => (0, (Lib.fgets 256 [] file).foldl loadLine ⟨configDefaults, 0, []⟩)

theorem Config.get_set (cfg : Config) (v : Int) (k k' : Key) :
    (cfg.set v k).get k' = if k' = k then v else cfg.get k' := by
  cases k <;> cases k' <;> rfl

theorem Config.ext_get {cfg cfg' : Config} (h : ∀ k, cfg.get k = cfg'.get k) : cfg = cfg' := by
  obtain ⟨⟩ := cfg
  obtain ⟨⟩ := cfg'
  simp only [Config.mk.injEq]
  exact ⟨h .stationCapacity,h .simulationDurationReal,h .simStartHour,h .simStartMinute,
    h .simEndHour,h .simEndMinute,h .chairTravelTimeSim,h .totalTourists,h .touristSpawnDelayUs,
    h .vipPercentage,h .walkerPercentage,h .familyPercentage,h .trailWalkTime,h .trailBikeFastTime,
    h .trailBikeMediumTime,h .trailBikeSlowTime,h .ticketT1Duration,h .ticketT2Duration,
    h .ticketT3Duration,h .dangerProbability,h .dangerDurationSim,h .debugLogsEnabled,
    h .scaredEnabled⟩

theorem Key.mem_all (k : Key) : k ∈ Key.all := by
  cases k <;> decide

/-- No two keys have the same name. -/
theorem Key.name_inj {k k' : Key} (h : k.name = k'.name) : k = k' := by
  cases k <;> cases k' <;> first | rfl | simp [Key.name] at h

theorem find_key_name (k : Key) : findKey k.name.toList = some k := by
  cases hf : findKey k.name.toList with
  | none =>
    have hno := List.find?_eq_none.mp hf k k.mem_all
    simp at hno
  | some k' =>
    have heq := List.find?_some hf
    simp only [beq_iff_eq,String.toList_inj] at heq
    rw [Key.name_inj heq]

/-- A name that the scanner takes as a whole and that does not look like a skipped line. -/
def plainName (l : List Char) : Bool :=
  !l.isEmpty && l.length ≤ 63 &&
    l.all (fun c => c != '=' && c != '#' && c != '\n' && c != '\r' && c != '\x00')

theorem Key.name_plain (k : Key) : plainName k.name.toList = true := by
  cases k <;> decide +kernel

theorem Key.name_ne_nil (k : Key) : k.name.toList ≠ [] := by
  have h := k.name_plain
  simp only [plainName,Bool.and_eq_true,Bool.not_eq_true',List.isEmpty_eq_false_iff] at h
  exact h.1.1

theorem Key.name_length (k : Key) : k.name.toList.length ≤ 63 := by
  have h := k.name_plain
  simp only [plainName,Bool.and_eq_true,decide_eq_true_eq] at h
  exact h.1.2

theorem Key.name_char {k : Key} {c : Char} (hc : c ∈ k.name.toList) :
    c ≠ '=' ∧ c ≠ '#' ∧ c ≠ '\n' ∧ c ≠ '\r' ∧ c ≠ '\x00' := by
  have h := k.name_plain
  simp only [plainName,Bool.and_eq_true] at h
  have hall := List.all_eq_true.mp h.2 c hc
  simpa [and_assoc] using hall

def assigned (buf : List Char) : Option (Key × Int) :=
  match parseLine buf with
  | .assign k v => some (k,v)
  | _ => none

def assignments (text : List Char) : List (Key × Int) := (Lib.fgets 256 [] text).filterMap assigned

def Config.setAll (cfg : Config) (es : List (Key × Int)) : Config :=
  es.foldl (fun c p => c.set p.2 p.1) cfg

theorem load_line_cfg (s : Loading) (buf : List Char) :
    (loadLine s buf).cfg = s.cfg.setAll (assigned buf).toList := by
  unfold loadLine assigned
  cases parseLine buf <;> rfl

theorem load_lines_cfg (bufs : List (List Char)) (s : Loading) :
    (bufs.foldl loadLine s).cfg = s.cfg.setAll (bufs.filterMap assigned) := by
  induction bufs generalizing s with
  | nil => rfl
  | cons buf bufs ih =>
    rw [List.foldl_cons,ih,load_line_cfg]
    cases ha : assigned buf with
    | none => rw [List.filterMap_cons_none ha]; rfl
    | some p => rw [List.filterMap_cons_some ha]; rfl

/-- The loaded configuration is the defaults with the assignments of the file. -/
theorem config_load_cfg (file : List Char) :
    (configLoad (some file)).2.cfg = configDefaults.setAll (assignments file) :=
  load_lines_cfg _ _

def lastValue (k : Key) (es : List (Key × Int)) : Option Int :=
  (es.reverse.find? (fun p => p.1 = k)).map (·.2)

theorem last_value_snoc (k : Key) (es : List (Key × Int)) (p : Key × Int) :
    lastValue k (es ++ [p]) = if p.1 = k then some p.2 else lastValue k es := by
  unfold lastValue
  rw [List.reverse_append]
  by_cases h : p.1 = k <;> simp [h]

theorem last_value_append (k : Key) (es fs : List (Key × Int)) :
    lastValue k (es ++ fs) = (lastValue k fs).or (lastValue k es) := by
  unfold lastValue
  rw [List.reverse_append,List.find?_append]
  cases fs.reverse.find? (fun p => p.1 = k) <;> rfl

theorem set_all_get (cfg : Config) (es : List (Key × Int)) (k : Key) :
    (cfg.setAll es).get k = (lastValue k es).getD (cfg.get k) := by
  induction es using List.reverseRecOn with
  | nil => rfl
  | append_singleton es p ih =>
    have hset : cfg.setAll (es ++ [p]) = (cfg.setAll es).set p.2 p.1 := by simp [Config.setAll]
    rw [hset,Config.get_set,last_value_snoc,ih]
    by_cases h : p.1 = k
    · simp [h]
    · simp [h,Ne.symm h]

theorem chomp_front (l : List Char) : chomp l <+: l := by
  unfold chomp
  split
  · exact List.dropLast_prefix l
  · exact List.prefix_refl l

/-- The end of a line is cut off, not the text before it. -/
theorem chomp_append {a : List Char} (q : List Char) (ha : ∀ c ∈ a.getLast?, c ≠ '\n' ∧ c ≠ '\r') :
    ∃ q', chomp (a ++ q) = a ++ q' ∧ q' <+: q := by
  rcases List.eq_nil_or_concat q with rfl | ⟨q,c,rfl⟩
  · refine ⟨[],?_,List.prefix_refl _⟩
    unfold chomp
    rw [List.append_nil,if_neg]
    rintro (h | h)
    · exact (ha _ h).1 rfl
    · exact (ha _ h).2 rfl
  · unfold chomp
    split
    · refine ⟨q,?_,?_⟩
      · rw [List.concat_eq_append,← List.append_assoc,List.dropLast_concat]
      · simp
    · exact ⟨_,rfl,List.prefix_refl _⟩

/-- Only a text that begins with the name of a key and an equals sign assigns to it. -/
theorem assign_front {buf : List Char} {k : Key} {v : Int} (h : assigned buf = some (k,v)) :
    k.name.toList ++ ['='] <+: buf := by
  have hline : chomp (chomp (Lib.cstr buf)) <+: buf :=
    (chomp_front _).trans ((chomp_front _).trans (List.takeWhile_prefix _))
  unfold assigned parseLine at h
  simp only at h
  split at h
  · rename_i k' v' hp
    cases h
    split at hp
    · cases hp
    · split at hp
      · cases hp
      · rename_i key value hscan
        split at hp
        · rename_i hkey
          cases hp
          have hname := List.find?_some hkey
          simp only [beq_iff_eq] at hname
          simp only [scanKeyValue,Option.bind_eq_bind,Option.bind_eq_some_iff] at hscan
          obtain ⟨⟨w,rest⟩,hset,rest',hchar,_,_,hpure⟩ := hscan
          cases hpure
          dsimp only at hname hchar
          obtain ⟨hw,-⟩ := Lib.scan_set_some hset
          rw [Lib.scan_char_some hchar] at hw
          rw [hname]
          refine List.IsPrefix.trans ?_ hline
          rw [hw]
          exact ⟨rest',by simp⟩
        · cases hp
  · cases h

def entryText (k : Key) (v : Int) : List Char := k.name.toList ++ '=' :: Lib.decimal v

theorem scan_entry {k : Key} {v : Int} (h : -2147483648 ≤ v) (h' : v ≤ 2147483647) {r : List Char}
    (hr : Lib.Ended r) :
    ∃ value, scanKeyValue (entryText k v ++ r) = some (k.name.toList,value) ∧ Lib.atoi value = v := by
  have hspace : ∀ c ∈ Lib.decimal v, Lib.isspace c = false := by
    intro c hc
    rcases Lib.mem_decimal hc with rfl | hd
    · rfl
    · exact (Lib.digit_plain hd).1
  have hlen : (Lib.decimal v).length ≤ 63 := (Lib.decimal_int_length h h').trans (by decide)
  obtain ⟨more,rest,hword,hmore⟩ := Lib.scan_word_front r (Lib.decimal_ne_nil v) hlen hspace
  have hkey : Lib.scanSet 63 (· != '=') (k.name.toList ++ '=' :: (Lib.decimal v ++ r)) =
      some (k.name.toList,'=' :: (Lib.decimal v ++ r)) := by
    apply Lib.scan_set_stop k.name_ne_nil k.name_length
    · intro c hc
      simpa using (Key.name_char hc).1
    · rintro c ⟨⟩
      rfl
  refine ⟨Lib.decimal v ++ more,?_,Lib.atoi_decimal h h' (hr.of_front hmore)⟩
  unfold scanKeyValue entryText
  rw [List.append_assoc,List.cons_append,hkey]
  simp [Lib.scanChar,hword]

/-- The character before the end of an entry is a digit. -/
theorem entry_last (k : Key) (v : Int) : ∀ c ∈ (entryText k v).getLast?, c ≠ '\n' ∧ c ≠ '\r' := by
  intro c hc
  have hmem : c ∈ Lib.decimal v := by
    unfold entryText at hc
    rw [List.getLast?_append_cons,List.getLast?_cons] at hc
    rcases List.eq_nil_or_concat (Lib.decimal v) with hnil | ⟨l,d,hd⟩
    · exact absurd hnil (Lib.decimal_ne_nil v)
    · rw [hd] at hc ⊢
      simp at hc
      simp [hc]
  rcases Lib.mem_decimal hmem with rfl | hd
  · exact ⟨by decide,by decide⟩
  · constructor <;>
    · rintro rfl
      simp at hd

/-- An entry assigns its value, whatever follows the value. -/
theorem assigned_entry {k : Key} {v : Int} (h : -2147483648 ≤ v) (h' : v ≤ 2147483647)
    {r : List Char} (hr : Lib.Ended r) : assigned (entryText k v ++ r) = some (k,v) := by
  have hnul : ∀ c ∈ entryText k v, (c ≠ '\x00') := by
    intro c hc
    rcases List.mem_append.mp hc with hc | hc
    · exact (Key.name_char hc).2.2.2.2
    · rcases List.mem_cons.mp hc with rfl | hc
      · decide
      · rcases Lib.mem_decimal hc with rfl | hd
        · decide
        · rintro rfl
          simp at hd
  have hcstr : Lib.cstr (entryText k v ++ r) = entryText k v ++ Lib.cstr r := by
    unfold Lib.cstr
    rw [List.takeWhile_append_of_pos (by simpa using hnul)]
  have hhead : ∀ c, (entryText k v ++ Lib.cstr r).head? = some c → c ∈ k.name.toList := by
    intro c hc
    cases hn : k.name.toList with
    | nil => exact absurd hn k.name_ne_nil
    | cons d l =>
      simp only [entryText,hn,List.cons_append,List.head?_cons,Option.some.injEq] at hc
      simp [hc]
  obtain ⟨q,hq,hqr⟩ := chomp_append (Lib.cstr r) (entry_last k v)
  obtain ⟨q',hq',hqq⟩ := chomp_append q (entry_last k v)
  have hended : Lib.Ended q' := hr.of_front (hqq.trans (hqr.trans (List.takeWhile_prefix _)))
  obtain ⟨value,hscan,hvalue⟩ := scan_entry h h' hended
  unfold assigned parseLine
  simp only [hcstr]
  rw [if_neg]
  · rw [hq,hq',hscan]
    simp only [find_key_name,hvalue]
  · rintro (hc | hc | hc)
    · exact (Key.name_char (hhead _ hc)).2.1 rfl
    · exact (Key.name_char (hhead _ hc)).2.2.1 rfl
    · exact (Key.name_char (hhead _ hc)).2.2.2.1 rfl

/-- The lines a configuration file is made of. An entry may be followed by a note. -/
inductive Line
  | entry (k : Key) (v : Int) (note : List Char)
  | comment (text : List Char)
  | empty
  | unknown (key value : List Char)

def Line.text : Line → List Char
  | .entry k v note => entryText k v ++ note
  | .comment text => '#' :: text
  | .empty => []
  | .unknown key value => key ++ '=' :: value

/-- A note is nothing, or an optional blank and a text that begins with `#`. -/
inductive Note : List Char → Prop
  | none : Note []
  | text (t : List Char) : Note ('#' :: t)
  | blank (c : Char) (hc : c = ' ' ∨ c = '\t') (t : List Char) : Note (c :: '#' :: t)

/-- What is asked of a line: 32-bit values, and keys that the loader does not know. -/
def Line.Proper : Line → Prop
  | .entry _ v note => -2147483648 ≤ v ∧ v ≤ 2147483647 ∧ Note note
  | .comment _ => True
  | .empty => True
  | .unknown key _ => '=' ∉ key ∧ ∀ k : Key, k.name.toList ≠ key

/-- A line with its end: CRLF or LF. -/
structure WrittenLine where
  line : Line
  crlf : Bool
  proper : line.Proper
  short : line.text.length ≤ 253
  single : '\n' ∉ line.text

def lineEnd (crlf : Bool) : List Char := if crlf then ['\r', '\n'] else ['\n']

def WrittenLine.text (w : WrittenLine) : List Char := w.line.text ++ lineEnd w.crlf

def writtenFile (ws : List WrittenLine) : List Char := ws.flatMap WrittenLine.text

def Line.entry? : Line → Option (Key × Int)
  | .entry k v _ => some (k,v)
  | _ => none

def entries (ws : List WrittenLine) : List (Key × Int) := ws.filterMap (·.line.entry?)

def Config.entries (cfg : Config) : List (Key × Int) := Key.all.map (fun k => (k,cfg.get k))

theorem Note.ended {note : List Char} (h : Note note) (crlf : Bool) :
    Lib.Ended (note ++ lineEnd crlf) := by
  cases h with
  | none => cases crlf <;> (rintro c ⟨⟩; decide)
  | text t =>
    rintro c ⟨⟩
    decide
  | blank b hb t =>
    rintro c ⟨⟩
    rcases hb with rfl | rfl <;> decide

/-- A line assigns exactly what its entry says. -/
theorem assigned_line (w : WrittenLine) : assigned w.text = w.line.entry? := by
  obtain ⟨line,crlf,proper,short,single⟩ := w
  cases line with
  | entry k v note =>
    obtain ⟨hlow,hhigh,hnote⟩ := proper
    simp only [WrittenLine.text,Line.text,List.append_assoc]
    exact assigned_entry hlow hhigh (hnote.ended crlf)
  | comment t => rfl
  | empty => cases crlf <;> rfl
  | unknown key value =>
    obtain ⟨hkey,hknown⟩ := proper
    cases ha : assigned (WrittenLine.text ⟨.unknown key value,crlf,⟨hkey,hknown⟩,short,single⟩) with
    | none => rfl
    | some p =>
      obtain ⟨rest,hrest⟩ := assign_front ha
      simp only [WrittenLine.text,Line.text,List.append_assoc,List.cons_append,List.nil_append] at hrest
      have hname : '=' ∉ p.1.name.toList := fun hc => (Key.name_char hc).1 rfl
      have hcut : ∀ {a b : List Char}, '=' ∉ a → (a ++ '=' :: b).takeWhile (· != '=') = a := by
        intro a b hn
        rw [List.takeWhile_append_of_pos]
        · simp
        · intro c hc
          simp only [bne_iff_ne]
          rintro rfl
          exact hn hc
      have heq := congrArg (List.takeWhile (· != '=')) hrest
      rw [hcut hname,hcut hkey] at heq
      exact absurd heq (hknown p.1)

/-- The loader reads a written file line by line. -/
theorem fgets_written (ws : List WrittenLine) :
    Lib.fgets 256 [] (writtenFile ws) = ws.map WrittenLine.text := by
  induction ws with
  | nil => rfl
  | cons w ws ih =>
    have hshort := w.short
    have hsplit : writtenFile (w :: ws) = w.text ++ writtenFile ws := rfl
    rw [hsplit,List.map_cons,← ih]
    cases hc : w.crlf with
    | false =>
      have htext : w.text = w.line.text ++ ['\n'] := by simp [WrittenLine.text,lineEnd,hc]
      rw [htext,List.append_assoc,List.singleton_append,
        Lib.fgets_line _ w.single (by simp only [List.length_nil]; omega),List.nil_append]
    | true =>
      have htext : w.text = (w.line.text ++ ['\r']) ++ ['\n'] := by simp [WrittenLine.text,lineEnd,hc]
      have hsingle : '\n' ∉ w.line.text ++ ['\r'] := by
        intro hm
        rcases List.mem_append.mp hm with hm | hm
        · exact w.single hm
        · simp at hm
      rw [htext,List.append_assoc,List.singleton_append,
        Lib.fgets_line _ hsingle (by simp only [List.length_nil,List.length_append,List.length_singleton]; omega),
        List.nil_append]

theorem assignments_written (ws : List WrittenLine) : assignments (writtenFile ws) = entries ws := by
  unfold assignments entries
  rw [fgets_written,List.filterMap_map]
  congr 1
  funext w
  exact assigned_line w

/-- The entries of a configuration, in any order, leave its value in every field. -/
theorem last_value_perm {cfg : Config} {es : List (Key × Int)} (h : es.Perm cfg.entries) (k : Key) :
    lastValue k es = some (cfg.get k) := by
  have hvalue : ∀ p ∈ es, p.2 = cfg.get p.1 := by
    intro p hp
    obtain ⟨k',-,rfl⟩ := List.mem_map.mp (h.mem_iff.mp hp)
    rfl
  have hmem : (k,cfg.get k) ∈ es := h.mem_iff.mpr (List.mem_map.mpr ⟨k,k.mem_all,rfl⟩)
  unfold lastValue
  cases hf : es.reverse.find? (fun p => p.1 = k) with
  | none =>
    have hno := List.find?_eq_none.mp hf _ (List.mem_reverse.mpr hmem)
    simp at hno
  | some p =>
    have hk : p.1 = k := by simpa using List.find?_some hf
    rw [Option.map_some,hvalue p (List.mem_reverse.mp (List.mem_of_find?_eq_some hf)),hk]

/-- Loading a written file: it succeeds, in every field the last entry wins over earlier
ones and over the default, and the entries of a whole configuration in any order give
that configuration. -/
structure LoadsBack (ws : List WrittenLine) : Prop where
  succeeds : (configLoad (some (writtenFile ws))).1 = 0
  last : ∀ k, (configLoad (some (writtenFile ws))).2.cfg.get k =
    (lastValue k (entries ws)).getD (configDefaults.get k)
  whole : ∀ cfg : Config, (entries ws).Perm cfg.entries → (configLoad (some (writtenFile ws))).2.cfg = cfg

theorem config_loads_back (ws : List WrittenLine) : LoadsBack ws := by
  have hlast : ∀ k, (configLoad (some (writtenFile ws))).2.cfg.get k =
      (lastValue k (entries ws)).getD (configDefaults.get k) := by
    intro k
    rw [config_load_cfg,set_all_get,assignments_written]
  refine ⟨rfl,hlast,?_⟩
  intro cfg hperm
  apply Config.ext_get
  intro k
  rw [hlast,last_value_perm hperm]
  rfl

/-- A text that ends with a newline, or is empty, is read by itself. -/
theorem assignments_append {a : List Char} (b : List Char) (ha : a = [] ∨ ∃ a', a = a' ++ ['\n']) :
    assignments (a ++ b) = assignments a ++ assignments b := by
  rcases ha with rfl | ⟨a',rfl⟩
  · rfl
  · unfold assignments
    rw [List.append_assoc,List.singleton_append,Lib.fgets_newline,List.filterMap_append]

/-- The assignments in the later buffers of a line that does not fit into one. -/
def laterAssignments (line : List Char) : List (Key × Int) :=
  (Lib.fgets 256 [] line).tail.filterMap assigned

/-- The first buffer of a comment line begins with `#`. -/
theorem assignments_comment (t : List Char) :
    assignments ('#' :: t) = laterAssignments ('#' :: t) := by
  have hfirst : ∀ (l buf : List Char), ∃ b bs, Lib.fgets 256 ('#' :: buf) l = ('#' :: b) :: bs := by
    intro l
    induction l with
    | nil => exact fun buf => ⟨buf,[],rfl⟩
    | cons c l ih =>
      intro buf
      simp only [Lib.fgets]
      split
      · exact ⟨buf ++ [c],_,rfl⟩
      · exact ih (buf ++ [c])
  obtain ⟨b,bs,hb⟩ := hfirst t []
  have hread : Lib.fgets 256 [] ('#' :: t) = ('#' :: b) :: bs := hb
  have hskip : assigned ('#' :: b) = none := by
    unfold assigned parseLine
    rw [if_pos (.inl (by simp [Lib.cstr]))]
  unfold assignments laterAssignments
  rw [hread,List.filterMap_cons_none hskip,List.tail_cons]

theorem assignments_around {a t : List Char} (b : List Char) (ha : a = [] ∨ ∃ a', a = a' ++ ['\n']) :
    assignments (a ++ ('#' :: t ++ ['\n']) ++ b) =
      assignments a ++ (laterAssignments ('#' :: t ++ ['\n']) ++ assignments b) := by
  have hc : assignments ('#' :: t ++ ['\n']) = laterAssignments ('#' :: t ++ ['\n']) :=
    assignments_comment (t ++ ['\n'])
  rw [List.append_assoc,assignments_append _ ha,assignments_append b (.inr ⟨'#' :: t,rfl⟩),hc]

/-- A comment line of at most 255 bytes is read in one buffer. -/
theorem later_none {t : List Char} (ht : '\n' ∉ t) (hs : t.length ≤ 253) :
    laterAssignments ('#' :: t ++ ['\n']) = [] := by
  have hread : Lib.fgets 256 [] ('#' :: t ++ ['\n']) = ['#' :: t ++ ['\n']] := by
    have hhash : '\n' ∉ '#' :: t := by simpa using ht
    have hsize : ([] : List Char).length + ('#' :: t).length + 2 ≤ 256 := by
      simp only [List.length_nil,List.length_cons]
      omega
    simpa [Lib.fgets] using Lib.fgets_line [] hhash hsize
  unfold laterAssignments
  rw [hread]
  rfl

/-- Taking the line `c` out of the file `a ++ c ++ b` does not change the configuration. -/
def RemovalHarmless (a c b : List Char) : Prop :=
  (configLoad (some (a ++ c ++ b))).2.cfg = (configLoad (some (a ++ b))).2.cfg

/-- No comment line of at most 255 bytes, its newline included, changes anything. -/
theorem short_comment_harmless {a t : List Char} (b : List Char) (ha : a = [] ∨ ∃ a', a = a' ++ ['\n'])
    (ht : '\n' ∉ t) (hs : t.length ≤ 253) : RemovalHarmless a ('#' :: t ++ ['\n']) b := by
  have hsame : assignments (a ++ ('#' :: t ++ ['\n']) ++ b) = assignments (a ++ b) := by
    rw [assignments_around b ha,later_none ht hs,List.nil_append,assignments_append b ha]
  unfold RemovalHarmless
  rw [config_load_cfg,config_load_cfg,hsame]

/-- Removing a comment line is harmless exactly when every key that its later buffers
assign is assigned again after it, or keeps the value it has from before it. -/
theorem removal_harmless_iff {a t : List Char} (b : List Char) (ha : a = [] ∨ ∃ a', a = a' ++ ['\n']) :
    RemovalHarmless a ('#' :: t ++ ['\n']) b ↔
      ∀ k v, lastValue k (laterAssignments ('#' :: t ++ ['\n'])) = some v →
        lastValue k (assignments b) ≠ none ∨
          v = (lastValue k (assignments a)).getD (configDefaults.get k) := by
  have hline := assignments_around (t := t) b ha
  -- The two configurations, field by field.
  have hwith : ∀ k, (configLoad (some (a ++ ('#' :: t ++ ['\n']) ++ b))).2.cfg.get k =
      (((lastValue k (assignments b)).or (lastValue k (laterAssignments ('#' :: t ++ ['\n'])))).or
        (lastValue k (assignments a))).getD (configDefaults.get k) := by
    intro k
    rw [config_load_cfg,set_all_get,hline,last_value_append,last_value_append]
  have hwithout : ∀ k, (configLoad (some (a ++ b))).2.cfg.get k =
      ((lastValue k (assignments b)).or (lastValue k (assignments a))).getD (configDefaults.get k) := by
    intro k
    rw [config_load_cfg,set_all_get,assignments_append _ ha,last_value_append]
  constructor
  · intro heq k v hv
    have hk := congrArg (fun cfg => cfg.get k) heq
    simp only [hwith,hwithout,hv] at hk
    cases hb : lastValue k (assignments b) with
    | some w => exact .inl (by simp)
    | none =>
      rw [hb] at hk
      exact .inr (by simpa using hk)
  · intro hok
    apply Config.ext_get
    intro k
    rw [hwith,hwithout]
    cases hb : lastValue k (assignments b) with
    | some w => rfl
    | none =>
      cases hv : lastValue k (laterAssignments ('#' :: t ++ ['\n'])) with
      | none => rfl
      | some v =>
        rcases hok k v hv with h | h
        · exact absurd hb h
        · simp [h]

/-- A short comment: there is no later buffer, and the two files load alike. -/
theorem removal_harmless_short :
    RemovalHarmless "SIMULATION_DURATION_REAL_SECONDS=9\n".toList "# x\n".toList [] := by
  have hfile : "SIMULATION_DURATION_REAL_SECONDS=9\n".toList =
      "SIMULATION_DURATION_REAL_SECONDS=9".toList ++ ['\n'] := by
    decide +kernel
  apply (removal_harmless_iff (t := " x".toList) [] (.inr ⟨_,hfile⟩)).2
  intro k v hv
  rw [later_none (by decide) (by decide)] at hv
  cases hv

/-- A comment of 273 characters: the second buffer `fgets` fills holds no `#`, and its text
is read as an assignment. -/
theorem comment_sets_capacity :
    ¬ RemovalHarmless [] ('#' :: List.replicate 254 'x' ++ "STATION_CAPACITY=7\n".toList) [] := by
  intro heq
  have hk := congrArg (fun cfg => cfg.stationCapacity) heq
  revert hk
  decide +kernel

end Ropeway
