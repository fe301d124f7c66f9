import Ropeway.Generator

/-! The command line of a tourist process: `tourist_generator_main` prints it and
`tourist_parse_args` reads it back. -/

namespace Ropeway

def TouristType.code : TouristType → Nat
  | .walker => 0
  | .cyclist => 1
  | .family => 2

def TicketType.code : TicketType → Nat
  | .single => 0
  | .timeT1 => 1
  | .timeT2 => 2
  | .timeT3 => 3
  | .daily => 4

/-- The numbers the generator prints, each with the size of its buffer: `id_str`,
`age_str`, `type_str`, `vip_str`, `kid_count_str` and `ticket_str`. -/
def TouristSpec.numbers (t : TouristSpec) (id : Nat) : List (Nat × Nat) :=
  [(16,id), (8,t.age), (2,t.type.code), (2,t.isVip.toNat), (8,t.kidCount), (2,t.ticketType.code)]

def TouristSpec.argv (t : TouristSpec) (id : Nat) : List (List Char) :=
  "tourist".toList :: (t.numbers id).map (fun (size,k) => Lib.snprintf size (Lib.decimal k))

/-- `TouristData` as it is filled in from the command line, where the enumerations are
whatever number was read. -/
structure ParsedData where
  id : Int
  age : Int
  type : Int
  isVip : Int
  ticketType : Int
  ticketValidUntil : Int
  ridesCompleted : Int
  stationSlots : Int
  chairSlots : Int
  kidCount : Int
  deriving DecidableEq, Repr

def parsedData (id age type isVip kidCount ticketType : Int) : ParsedData where
  id := id
  age := age
  type := type
  isVip := isVip
  ticketType := ticketType
  ticketValidUntil := 0
  ridesCompleted := 0
  stationSlots := 1 + kidCount
  chairSlots := (if type = TouristType.code .cyclist then 2 else 1) + kidCount
  kidCount := kidCount

/-- `tourist_parse_args`, with the text it prints when it returns -1. -/
def parseArgv : List (List Char) → Except String ParsedData
  | [_, id, age, type, vip, kids, ticket] =>
    let d := parsedData (Lib.atoi id) (Lib.atoi age) (Lib.atoi type) (Lib.atoi vip) (Lib.atoi kids)
      (Lib.atoi ticket)
    if 0 < d.kidCount then
      if d.type ≠ TouristType.code .family then .error "Error: Only family type can have kids\n"
      else if d.age < 26 then .error "Error: Must be 26+ to be a guardian\n"
      else if d.kidCount > maxKidsPerAdult then .error "Error: Maximum 2 kids per adult\n"
      else .ok d
    else .ok d
  | _ => .error "Usage: tourist <id> <age> <type> <vip> <kid_count> <ticket_type>\n"

def TouristSpec.parsed (t : TouristSpec) (id : Nat) : ParsedData :=
  parsedData id t.age t.type.code t.isVip.toNat t.kidCount t.ticketType.code

/-- The ages of `generate_age`. -/
theorem age_le (cfg : Config) (f : Nat → Nat) : (nextTourist cfg f).1.age ≤ 80 := by
  have hgen : ∀ g, (generateAge g).1.1 ≤ 80 := by
    intro g
    simp only [generateAge,draws_bind]
    repeat' split
    all_goals
      simp only [draws_pure]
      omega
  have hage : (nextTourist cfg f).1.age = (generateAge f).1.1 := by
    simp only [nextTourist,draws_bind]
    split
    · simp only [draws_bind]
      split <;> rfl
    · rfl
  rw [hage]
  exact hgen f

theorem tourist_code_lt (k : TouristType) : k.code < 10 := by
  cases k <;> decide

theorem ticket_code_lt (k : TicketType) : k.code < 5 := by
  cases k <;> decide

/-- The six buffers are large enough. -/
theorem numbers_fit {t : TouristSpec} {id : Nat} (hage : t.age ≤ 80) (hkids : t.kidCount ≤ 2)
    (hid : id ≤ 2147483647) : ∀ p ∈ t.numbers id, (Lib.decimal p.2).length < p.1 := by
  have hlen : ∀ {k size d : Nat}, 0 < d → k < 10 ^ d → d < size → (Lib.decimal k).length < size :=
    fun hd hk hs => lt_of_le_of_lt (Lib.decimal_length hd hk) hs
  have htype := tourist_code_lt t.type
  have hticket := ticket_code_lt t.ticketType
  have hvip : t.isVip.toNat < 10 := by cases t.isVip <;> decide
  intro p hp
  simp only [TouristSpec.numbers,List.mem_cons,List.not_mem_nil,or_false] at hp
  rcases hp with rfl | rfl | rfl | rfl | rfl | rfl
  · exact hlen (d := 10) (by decide) (by omega) (by simp)
  · exact hlen (d := 2) (by decide) (by omega) (by simp)
  · exact hlen (d := 1) (by decide) (by omega) (by simp)
  · exact hlen (d := 1) (by decide) (by omega) (by simp)
  · exact hlen (d := 1) (by decide) (by omega) (by simp)
  · exact hlen (d := 1) (by decide) (by omega) (by simp)

/-- So the process gets the numbers as they are printed in full. -/
theorem argv_untruncated {t : TouristSpec} {id : Nat}
    (h : ∀ p ∈ t.numbers id, (Lib.decimal p.2).length < p.1) :
    t.argv id = "tourist".toList :: (t.numbers id).map (fun p => Lib.decimal p.2) := by
  unfold TouristSpec.argv
  congr 1
  apply List.map_congr_left
  intro p hp
  exact Lib.snprintf_fits (h p hp)

theorem atoi_nat {k : Nat} (h : k ≤ 2147483647) : Lib.atoi (Lib.decimal k) = k :=
  Lib.atoi_printed (by omega) (by omega)

/-- The checks see the numbers of the generator. -/
theorem parse_printed {t : TouristSpec} {id : Nat} (hage : t.age ≤ 80) (hkids : t.kidCount ≤ 2)
    (hid : id ≤ 2147483647) (parent : 0 < t.kidCount → t.type = .family ∧ 26 ≤ t.age) :
    parseArgv (t.argv id) = .ok (t.parsed id) := by
  have htype := tourist_code_lt t.type
  have hticket := ticket_code_lt t.ticketType
  have hvip : t.isVip.toNat < 10 := by cases t.isVip <;> decide
  rw [argv_untruncated (numbers_fit hage hkids hid)]
  simp only [TouristSpec.numbers,List.map_cons,List.map_nil,parseArgv,atoi_nat hid,
    atoi_nat (show t.age ≤ 2147483647 by omega),atoi_nat (show t.type.code ≤ 2147483647 by omega),
    atoi_nat (show t.isVip.toNat ≤ 2147483647 by omega),atoi_nat (show t.kidCount ≤ 2147483647 by omega),
    atoi_nat (show t.ticketType.code ≤ 2147483647 by omega)]
  split
  · rename_i hpos
    have hkid : (0 : Int) < t.kidCount := hpos
    obtain ⟨hfamily,hguardian⟩ := parent (by omega)
    have h1 : ¬((t.type.code : Int) ≠ TouristType.code .family) := by rw [hfamily]; exact not_not.mpr rfl
    have h2 : ¬((t.age : Int) < 26) := by omega
    have h3 : ¬((t.kidCount : Int) > maxKidsPerAdult) := by simp only [maxKidsPerAdult]; omega
    exact (if_neg h1).trans ((if_neg h2).trans (if_neg h3))
  · rfl

def TouristData.numbers (d : TouristData) : ParsedData where
  id := d.id
  age := d.age
  type := d.type.code
  isVip := d.isVip.toNat
  ticketType := d.ticketType.code
  ticketValidUntil := d.ticketValidUntil
  ridesCompleted := d.ridesCompleted
  stationSlots := d.stationSlots
  chairSlots := d.chairSlots
  kidCount := d.kidCount

theorem code_cyclist (k : TouristType) : ((k.code : Int) = TouristType.code .cyclist) ↔ k = .cyclist := by
  cases k <;> decide

/-- The process starts with the record that the checked arguments give. -/
theorem parsed_record {t : TouristSpec} {a : TouristArgs} (h : touristParseArgs t = some a)
    (id : Nat) : (a.data id).numbers = t.parsed id := by
  obtain ⟨hage,htype,hvip,hkids,hticket⟩ : a.age = t.age ∧ a.type = t.type ∧ a.isVip = t.isVip ∧
      a.kidCount = t.kidCount ∧ a.ticketType = t.ticketType := by
    unfold touristParseArgs at h
    repeat' split at h
    all_goals
      cases h
      try exact ⟨rfl,rfl,rfl,rfl,rfl⟩
  have hchair : (((if t.type = .cyclist then 2 else 1) + t.kidCount : Nat) : Int) =
      (if (t.type.code : Int) = TouristType.code .cyclist then 2 else 1) + t.kidCount := by
    simp only [code_cyclist]
    split <;> simp
  simp only [TouristData.numbers,TouristArgs.data,TouristSpec.parsed,parsedData,hage,htype,hvip,hkids,
    hticket,hchair]
  simp

/-- Generator and tourist agree on tourist `id` of which the generator has drawn `t`. -/
structure Agreed (t : TouristSpec) (id : Nat) : Prop where
  untruncated : t.argv id = "tourist".toList :: (t.numbers id).map (fun p => Lib.decimal p.2)
  accepted : parseArgv (t.argv id) = .ok (t.parsed id)
  process : ∃ a, touristParseArgs t = some a ∧ (a.data id).numbers = t.parsed id
  ticket : 0 ≤ (t.parsed id).ticketType ∧ (t.parsed id).ticketType ≤ 4
  station : (t.parsed id).stationSlots = 1 + t.kidCount ∧ 1 ≤ (t.parsed id).stationSlots ∧
    (t.parsed id).stationSlots ≤ 3
  chair : 1 ≤ (t.parsed id).chairSlots ∧ (t.parsed id).chairSlots ≤ 3 ∧
    (t.parsed id).chairSlots ≤ chairCapacity

/-- Only a walker with kids needs more than two slots. -/
theorem kids_le (cfg : Config) (f : Nat → Nat) : (nextTourist cfg f).1.kidCount ≤ 2 := by
  have hgroup := (next_sound cfg f).group
  unfold largestGroup maxKidsPerAdult at hgroup
  split at hgroup <;> omega

/-- For every stream of random numbers and every id the spawned process accepts its
command line and finds in it what the generator has drawn. -/
theorem arguments_agreed (cfg : Config) (f : Nat → Nat) {id : Nat} (hid : id ≤ 2147483647) :
    Agreed (nextTourist cfg f).1 id := by
  have hage := age_le cfg f
  have hkids := kids_le cfg f
  have hparent := (next_sound cfg f).parent
  obtain ⟨a,ha⟩ := Option.isSome_iff_exists.mp (next_sound cfg f).accepted
  generalize (nextTourist cfg f).1 = t at hage hkids hparent ha
  have hticket := ticket_code_lt t.ticketType
  refine ⟨argv_untruncated (numbers_fit hage hkids hid),parse_printed hage hkids hid hparent,
    ⟨a,ha,parsed_record ha id⟩,?_,?_,?_⟩
  · simp only [TouristSpec.parsed,parsedData]
    omega
  · refine ⟨rfl,?_⟩
    simp only [TouristSpec.parsed,parsedData]
    omega
  · simp only [TouristSpec.parsed,parsedData,chairCapacity]
    split
    · rename_i hcyclist
      have hnone : ¬0 < t.kidCount := by
        intro hk
        rw [(hparent hk).1] at hcyclist
        exact absurd hcyclist (by decide)
      omega
    · omega

/-- The largest group as tourist 2147483647. -/
theorem arguments_agreed_family : parseArgv ((nextTourist configDefaults largestFirst).1.argv 2147483647) =
    .ok ⟨2147483647,26,2,1,0,0,0,3,3,2⟩ ∧ Agreed (nextTourist configDefaults largestFirst).1 2147483647 := by
  have h : Agreed (nextTourist configDefaults largestFirst).1 2147483647 :=
    arguments_agreed configDefaults largestFirst (by decide)
  exact ⟨h.accepted.trans rfl,h⟩

end Ropeway
