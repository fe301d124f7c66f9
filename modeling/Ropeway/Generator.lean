import Ropeway.State

/-! `processes/tourist_generator.c` and `tourist_parse_args`: what the random numbers make
of the configured percentages. -/

namespace Ropeway

/-- A program that draws from the stream of values `rand()` will still return. -/
abbrev Draws := StateM (Nat → Nat)

def rand : Draws Nat := fun f => (f 0,fun k => f (k + 1))

theorem draws_pure {α : Type} (v : α) (f : Nat → Nat) : (pure v : Draws α) f = (v,f) := rfl

theorem draws_bind {α β : Type} (d : Draws α) (e : α → Draws β) (f : Nat → Nat) :
    (d >>= e) f = e (d f).1 (d f).2 := rfl

theorem draws_map {α β : Type} (d : Draws α) (e : α → β) (f : Nat → Nat) :
    (e <$> d) f = (e (d f).1,(d f).2) := rfl

def chance (percentage : Int) : Draws Bool := do
  return decide (((← rand) % 100 : Nat) < percentage)

/-- `generate_age`: the age, and whether the person can be a guardian. -/
def generateAge : Draws (Nat × Bool) := do
  let r := (← rand) % 100
  let x ← rand
  if r < 5 then return (65 + x % 16,true)
  else if r < 15 then return (8 + x % 10,false)
  else if r < 30 then return (18 + x % 8,false)
  else return (26 + x % 39,true)

def generateKidCount : Draws Nat := do
  return if (← rand) % 100 < 63 then 1 else 2

def generateType (cfg : Config) : Draws TouristType := do
  return if ← chance cfg.walkerPercentage then .walker else .cyclist

def isVip (cfg : Config) : Draws Bool := chance cfg.vipPercentage

def selectTicketType : Draws TicketType := do
  let r := (← rand) % 100
  if r < 30 then return .single
  else if r < 50 then return .timeT1
  else if r < 70 then return .timeT2
  else if r < 85 then return .timeT3
  else return .daily

/-- The arguments of the `execl`, without the id. -/
structure TouristSpec where
  age : Nat
  type : TouristType
  isVip : Bool
  kidCount : Nat
  ticketType : TicketType
  deriving DecidableEq, Repr

/-- One round of the loop in `tourist_generator_main`. -/
def nextTourist (cfg : Config) : Draws TouristSpec := do
  let (age,canHaveKids) ← generateAge
  let type ← generateType cfg
  let vip ← isVip cfg
  let ticket ← selectTicketType
  if type = .walker ∧ canHaveKids = true ∧ 26 ≤ age then
    if ← chance cfg.familyPercentage then
      return ⟨age, .family, vip, ← generateKidCount, ticket⟩
    else return ⟨age, type, vip, 0, ticket⟩
  else return ⟨age, type, vip, 0, ticket⟩

def touristGeneratorMain (cfg : Config) : Nat → Draws (List TouristSpec)
  | 0 => return []
  | k + 1 => do return (← nextTourist cfg) :: (← touristGeneratorMain cfg k)

/-- The tourists of a whole simulation. The generator may stop early, and a failing `fork`
uses up its id: such a tourist never takes a step. -/
def spawned (cfg : Config) (f : Nat → Nat) : List TouristSpec :=
  (touristGeneratorMain cfg cfg.totalTourists.toNat f).1

def touristParseArgs (t : TouristSpec) : Option TouristArgs :=
  if hk : t.kidCount = 0 then
    some ⟨t.age, t.type, t.isVip, t.kidCount, t.ticketType, by omega, by omega⟩
  else if ht : t.type ≠ .family then none
  else if t.age < 26 then none
  else if hm : maxKidsPerAdult < t.kidCount then none
  else some ⟨t.age, t.type, t.isVip, t.kidCount, t.ticketType, by omega, fun _ => not_not.mp ht⟩

/-- The largest group the percentages admit. -/
def largestGroup (cfg : Config) : Nat :=
  if 0 < cfg.walkerPercentage ∧ 0 < cfg.familyPercentage then 1 + maxKidsPerAdult else 1

/-- A spec of the generator: kids only with a guardian of 26 or more, and only when the
percentages admit families. -/
structure TouristSpec.Sound (cfg : Config) (t : TouristSpec) : Prop where
  parent : 0 < t.kidCount → t.type = .family ∧ 26 ≤ t.age
  group : 1 + t.kidCount ≤ largestGroup cfg

theorem kid_count_le (f : Nat → Nat) : (generateKidCount f).1 ≤ maxKidsPerAdult := by
  show (if f 0 % 100 < 63 then 1 else 2) ≤ 2
  split <;> omega

theorem chance_pos {percentage : Int} {f : Nat → Nat} (h : (chance percentage f).1 = true) :
    0 < percentage := by
  have hlt : ((f 0 % 100 : Nat) : Int) < percentage := of_decide_eq_true h
  omega

theorem walker_pos {cfg : Config} {f : Nat → Nat} (h : (generateType cfg f).1 = .walker) :
    0 < cfg.walkerPercentage := by
  apply chance_pos (f := f)
  cases hc : (chance cfg.walkerPercentage f).1 with
  | true => rfl
  | false =>
    have hcyc : (generateType cfg f).1 = if (chance cfg.walkerPercentage f).1 then .walker else .cyclist := rfl
    rw [hcyc,hc] at h
    cases h

theorem TouristSpec.Sound.of_alone {cfg : Config} {t : TouristSpec} (h : t.kidCount = 0) :
    t.Sound cfg := by
  refine ⟨by omega,?_⟩
  rw [h]
  unfold largestGroup
  split <;> decide

theorem next_sound (cfg : Config) (f : Nat → Nat) : (nextTourist cfg f).1.Sound cfg := by
  unfold nextTourist
  simp only [bind,StateT.bind,pure]
  split
  rename_i a g _
  split
  rename_i type g₁ htype
  split
  rename_i vip g₂ _
  split
  rename_i ticket g₃ _
  split
  · rename_i hguard
    obtain ⟨rfl,-,hage⟩ := hguard
    simp only [StateT.bind,bind]
    split
    rename_i family g₄ hfamily
    split
    · rename_i hyes
      have hwalker := walker_pos (f := g) (by rw [htype])
      have hchance := chance_pos (f := g₃) (by rw [hfamily]; exact hyes)
      refine ⟨fun _ => ⟨rfl,hage⟩,?_⟩
      unfold largestGroup
      rw [if_pos ⟨hwalker,hchance⟩]
      exact Nat.add_le_add_left (kid_count_le _) 1
    · exact .of_alone rfl
  · exact .of_alone rfl

theorem generated_sound (cfg : Config) (k : Nat) (f : Nat → Nat) :
    ∀ t ∈ (touristGeneratorMain cfg k f).1, t.Sound cfg := by
  induction k generalizing f with
  | zero =>
    intro t ht
    cases ht
  | succ k ih =>
    intro t ht
    rcases List.mem_cons.mp ht with rfl | ht
    · exact next_sound cfg f
    · exact ih _ t ht

theorem generated_length (cfg : Config) (k : Nat) (f : Nat → Nat) :
    (touristGeneratorMain cfg k f).1.length = k := by
  induction k generalizing f with
  | zero => rfl
  | succ k ih => exact congrArg (· + 1) (ih _)

/-- The parsed arguments are the ones that were passed. -/
theorem parsed_args {t : TouristSpec} {a : TouristArgs} (h : touristParseArgs t = some a) :
    a.kidCount = t.kidCount ∧ a.ticketType = t.ticketType := by
  unfold touristParseArgs at h
  repeat' split at h
  all_goals
    cases h
    try exact ⟨rfl,rfl⟩

/-- Every spawned process gets past its own checks. -/
theorem TouristSpec.Sound.accepted {cfg : Config} {t : TouristSpec} (h : t.Sound cfg) :
    (touristParseArgs t).isSome = true := by
  unfold touristParseArgs
  by_cases hk : t.kidCount = 0
  · rw [dif_pos hk]
    rfl
  · obtain ⟨ht,hage⟩ := h.parent (by omega)
    have hle := h.group
    have hmax : ¬maxKidsPerAdult < t.kidCount := by
      unfold largestGroup at hle
      split at hle <;> omega
    rw [dif_neg hk,dif_neg (not_not.mpr ht),if_neg (by omega),dif_neg hmax]
    rfl

def largestFirst (k : Nat) : Nat := if k = 0 ∨ k = 6 then 99 else 0

theorem largest_first (cfg : Config) : 1 + (nextTourist cfg largestFirst).1.kidCount = largestGroup cfg ∧
    (nextTourist cfg largestFirst).1.ticketType = .single := by
  by_cases hw : 0 < cfg.walkerPercentage
  · by_cases hf : 0 < cfg.familyPercentage
    · simp [nextTourist,generateAge,generateType,isVip,selectTicketType,generateKidCount,chance,rand,
        largestFirst,largestGroup,draws_bind,draws_pure,draws_map,hw,hf,maxKidsPerAdult]
    · simp [nextTourist,generateAge,generateType,isVip,selectTicketType,chance,rand,largestFirst,
        largestGroup,draws_bind,draws_pure,hw,hf]
  · simp [nextTourist,generateAge,generateType,isVip,selectTicketType,chance,rand,largestFirst,
      largestGroup,draws_bind,draws_pure,hw]

end Ropeway
