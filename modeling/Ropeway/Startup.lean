import Ropeway.Ipc
import Ropeway.Lib.Runs

/-! Two instances that start in the same directory at the same time. -/

namespace Ropeway.Ipc
open Function (update)

def MainPc.starting : MainPc → Bool
  | .stale _ | .create _ | .timeInit | .storePid => true
  | _ => false

structure Pair where
  kernel : Kernel
  inst : Bool → Main

/-- Whose step it is; `x` is what the system decides in it. -/
structure Turn where
  who : Bool
  x : Bool
  deriving DecidableEq, Repr

/-- An instance is alive until it has returned from `main`. -/
def Pair.alive (s : Pair) (pid : Nat) : Bool :=
  [false, true].any (fun i => (s.inst i).pid == pid &&
    match (s.inst i).pc with
    | .exited _ => false
    | _ => true)

def Pair.step (s : Pair) (a : Turn) : Option Pair :=
  if (s.inst a.who).pc.starting then
    ((s.inst a.who).step s.alive s.kernel a.x).map (fun (k,p) => ⟨k, update s.inst a.who p⟩)
  else none

/-- The machine before both start, with whatever earlier runs have left on it. -/
structure Launch where
  kernel : Kernel
  pid : Bool → Nat
  positive : ∀ i, 0 < pid i

def Launch.start (u : Launch) : Pair := ⟨u.kernel, fun i => .init (u.pid i)⟩

def noteCreated (g : Nat → Option Bool) (s : Pair) (a : Turn) : Nat → Option Bool :=
  match s.step a with
  | some s' =>
    if s.kernel.objects.next < s'.kernel.objects.next then
      update g s.kernel.objects.next (some a.who)
    else g
  | none => g

def creator (tr : List (Pair × Turn)) : Nat → Option Bool := Lib.history noteCreated (fun _ => none) tr

def removedBy (k k' : Kernel) : List Nat :=
  (Obj.shm :: .sem :: queues).filterMap (fun o => if k'.get o = none then k.get o else none)

def noteRemoved (g : List (Bool × Nat)) (s : Pair) (a : Turn) : List (Bool × Nat) :=
  match s.step a with
  | some s' => g ++ (removedBy s.kernel s'.kernel).map (fun id => (a.who, id))
  | none => g

def removals (tr : List (Pair × Turn)) : List (Bool × Nat) := Lib.history noteRemoved [] tr

/-- Nobody removes an object the other one has created. -/
def Spared (tr : List (Pair × Turn)) : Prop := ∀ e ∈ removals tr, creator tr e.2 ≠ some (!e.1)

abbrev StartRule := List (Pair × Turn) → Pair → Turn → Bool

def anyOrder : StartRule := fun _ _ _ => true

def notTheirs (k : Kernel) (other : Main) (o : Obj) : Bool :=
  (k.get o).isNone || k.get o != other.res.id o

/-- No instance reads `main_pid` of the other's segment before it is stored there, and
none that takes the segment it has found for stale looks up an object of the other. -/
def settledLookups : StartRule := fun _ s a =>
  match (s.inst a.who).pc with
  | .stale (.read shm) =>
    !((s.inst !a.who).res.id .shm == some shm && s.kernel.mainPid shm == 0)
  | .stale (.msgget _ _ (o :: _)) => notTheirs s.kernel (s.inst !a.who) o
  | .stale (.semget _) => notTheirs s.kernel (s.inst !a.who) .sem
  | _ => true

abbrev Startups (rule : StartRule) (u : Launch) (tr : List (Pair × Turn)) (s : Pair) : Prop :=
  Lib.Run Pair.step rule u.start tr s

variable {k k' : Kernel} {g g' : Nat → Option Bool} {i : Bool} {p q q' : Main} {o : Obj} {id : Nat}

def Foreign (g : Nat → Option Bool) (k : Kernel) (i : Bool) (id : Nat) : Prop :=
  g id = some (!i) ∧ ∃ o, k.get o = some id

def Free (g : Nat → Option Bool) (k : Kernel) (i : Bool) (id : Nat) : Prop :=
  id < k.objects.next ∧ ¬Foreign g k i id

def MainPc.claimed (pc : MainPc) : Prop := pc = .sigaction [.int, .term]

/-- What instance `i` knows of the ids it has found in `ipc_cleanup_stale`; `q` is the
other instance. -/
def StaleHolds (g : Nat → Option Bool) (k : Kernel) (i : Bool) (q : Main) : StalePc → Prop
  | .shmget => True
  | .shmat shm | .read shm => shm < k.objects.next ∧ ∀ o, k.get o = some shm → o = .shm
  | .kill shm m => shm < k.objects.next ∧ (Foreign g k i shm → m = q.pid ∧ q.pc.claimed)
  | .msgget shm ids _ | .msgctl shm ids => Free g k i shm ∧ ∀ id, some id ∈ ids → Free g k i id
  | .semget shm | .shmctl shm => Free g k i shm
  | .semctl shm sem => Free g k i shm ∧ Free g k i sem

/-- In the error path an id is forgotten after its object. -/
def Holds (g : Nat → Option Bool) (k : Kernel) (i : Bool) (p q : Main) : Prop :=
  match p.pc with
  | .stale c => StaleHolds g k i q c
  | .create (.cleanup r) => ∀ o os id, r.sub = .clear → r.todo = .rmid o :: os →
      p.res.id o = some id → ∀ o', k.get o' ≠ some id
  | _ => True

structure Later (g g' : Nat → Option Bool) (k k' : Kernel) : Prop where
  old : ∀ {o id}, k'.get o = some id → id < k.objects.next → k.get o = some id
  next : k.objects.next ≤ k'.objects.next
  creator : ∀ {id}, id < k.objects.next → g' id = g id

theorem Foreign.before (h : Foreign g' k' i id) (hl : Later g g' k k') (hid : id < k.objects.next) :
    Foreign g k i id := by
  obtain ⟨hg,o,ho⟩ := h
  rw [hl.creator hid] at hg
  exact ⟨hg,o,hl.old ho hid⟩

theorem Free.later (h : Free g k i id) (hl : Later g g' k k') : Free g' k' i id :=
  ⟨Nat.lt_of_lt_of_le h.1 hl.next,fun hf => h.2 (hf.before hl h.1)⟩

/-- The steps of both instances keep what one of them has found. -/
theorem Holds.later (h : Holds g k i p q) (hl : Later g g' k k') (hpid : q'.pid = q.pid)
    (hclaim : q.pc.claimed → q'.pc.claimed) (hres : ∀ o id, p.res.id o = some id → id < k.objects.next) :
    Holds g' k' i p q' := by
  unfold Holds at h ⊢
  cases hp : p.pc with
  | stale c =>
    rw [hp] at h
    cases c with
    | shmget => trivial
    | shmat shm | read shm =>
      refine ⟨Nat.lt_of_lt_of_le h.1 hl.next,?_⟩
      intro o ho
      exact h.2 o (hl.old ho h.1)
    | kill shm m =>
      refine ⟨Nat.lt_of_lt_of_le h.1 hl.next,?_⟩
      intro hf
      obtain ⟨hm,hc⟩ := h.2 (hf.before hl h.1)
      exact ⟨hm.trans hpid.symm,hclaim hc⟩
    | msgget shm ids _ | msgctl shm ids => exact ⟨h.1.later hl,fun id hid => (h.2 id hid).later hl⟩
    | semget shm | shmctl shm => exact Free.later h hl
    | semctl shm sem => exact ⟨h.1.later hl,h.2.later hl⟩
  | create c =>
    rw [hp] at h
    cases c with
    | cleanup r =>
      intro o os id hsub htodo hid o' ho'
      exact h o os id hsub htodo hid o' (hl.old ho' (hres o id hid))
    | _ => trivial
  | _ => trivial

structure Guarded (tr : List (Pair × Turn)) (s : Pair) : Prop where
  unborn : ∀ id, s.kernel.objects.next ≤ id → creator tr id = none
  own : ∀ i o id, (s.inst i).res.id o = some id → creator tr id = some i
  state : ∀ i shm, (s.inst i).res.state = some shm → creator tr shm = some i
  kept : ∀ i o id, s.kernel.get o = some id → creator tr id = some i → (s.inst i).res.id o = some id
  mainPid : ∀ i id, creator tr id = some i → s.kernel.mainPid id = 0 ∨
    s.kernel.mainPid id = (s.inst i).pid ∧ (s.inst i).pc.claimed
  holds : ∀ i, Holds (creator tr) s.kernel i (s.inst i) (s.inst !i)
  calm : ∀ i, (s.inst i).frames = [] ∧ 0 < (s.inst i).pid
  spared : ∀ e ∈ removals tr, e.2 < s.kernel.objects.next ∧ creator tr e.2 ≠ some (!e.1)

/-- The ids an instance has recorded are in use or gone. -/
theorem Guarded.recorded {tr : List (Pair × Turn)} {s : Pair} (h : Guarded tr s) {o : Obj} {id : Nat}
    (hid : (s.inst i).res.id o = some id) : id < s.kernel.objects.next := by
  by_contra hle
  have hnone := h.unborn id (Nat.le_of_not_lt hle)
  rw [h.own i o id hid] at hnone
  cases hnone

/-- What a step of instance `i` may do to the objects and to its own record. -/
structure Deed (g : Nat → Option Bool) (i : Bool) (k : Kernel) (p q : Main) (k' : Kernel) (p' : Main) :
    Prop where
  spares : ∀ {o id}, k.get o = some id → k'.get o = none → g id ≠ some (!i)
  old : ∀ {o id}, k'.get o = some id → id < k.objects.next → k.get o = some id
  next : k'.objects.next = k.objects.next ∨ k'.objects.next = k.objects.next + 1
  new : ∀ {o id}, k'.get o = some id → k.objects.next ≤ id → p'.res.id o = some id
  own : ∀ {o id}, p'.res.id o = some id → p.res.id o = some id ∨
    id = k.objects.next ∧ k.objects.next < k'.objects.next
  kept : ∀ {o id}, k'.get o = some id → p.res.id o = some id → p'.res.id o = some id
  state : ∀ {shm}, p'.res.state = some shm → p.res.state = some shm ∨ p.res.id .shm = some shm
  mainPid : ∀ id, k'.mainPid id = k.mainPid id ∨ k'.mainPid id = 0 ∨
    p.res.state = some id ∧ k'.mainPid id = p.pid ∧ p'.pc.claimed
  fresh : k.objects.next < k'.objects.next → k'.mainPid k.objects.next = 0
  holds : ∀ {g'}, (k'.objects.next = k.objects.next → g' = g) → Holds g' k' i p' q
  same : p'.pid = p.pid ∧ p'.frames = p.frames

/-- Nothing is created or removed, and no id of an object is forgotten. -/
theorem Deed.still (hown : ∀ o id, p'.res.id o = some id → p.res.id o = some id)
    (hkept : ∀ o id, k.get o = some id → p.res.id o = some id → p'.res.id o = some id)
    (hstate : ∀ shm, p'.res.state = some shm → p.res.state = some shm ∨ p.res.id .shm = some shm)
    (hholds : Holds g k i p' q) (hsame : p'.pid = p.pid ∧ p'.frames = p.frames) :
    Deed g i k p q k p' where
  spares := by
    intro o id h hn
    rw [h] at hn
    cases hn
  old h _ := h
  next := .inl rfl
  new h hle := absurd (k.objects.used h) (Nat.not_lt.mpr hle)
  own h := .inl (hown _ _ h)
  kept h hid := hkept _ _ h hid
  state h := hstate _ h
  mainPid _ := .inl rfl
  fresh h := absurd h (Nat.lt_irrefl _)
  holds h := by rw [h rfl]; exact hholds
  same := hsame

theorem Deed.quiet (hres : p'.res = p.res) (hholds : Holds g k i p' q)
    (hsame : p'.pid = p.pid ∧ p'.frames = p.frames) : Deed g i k p q k p' := by
  refine .still ?_ ?_ ?_ hholds hsame
  · intro o id hid
    rw [← hres]
    exact hid
  · intro o id _ hid
    rw [hres]
    exact hid
  · intro shm hshm
    rw [hres] at hshm
    exact .inl hshm

/-- A write to `main_pid` in the attached segment. -/
theorem Deed.write {shm v : Nat} (hd : Deed g i k p q k p') (hst : p.res.state = some shm)
    (hv : v = 0 ∨ v = p.pid ∧ p'.pc.claimed) : Deed g i k p q (k.storePid shm v) p' where
  spares := hd.spares
  old := hd.old
  next := hd.next
  new := hd.new
  own := hd.own
  kept := hd.kept
  state := hd.state
  mainPid id := by
    by_cases he : id = shm
    · subst he
      rcases hv with rfl | ⟨rfl,hc⟩
      · exact .inr (.inl (by simp [Kernel.storePid]))
      · exact .inr (.inr ⟨hst,by simp [Kernel.storePid],hc⟩)
    · exact .inl (by simp [Kernel.storePid,he])
  fresh h := absurd h (Nat.lt_irrefl _)
  holds h := hd.holds h
  same := hd.same

/-- An object is removed that the other instance has not created. -/
theorem Deed.remove {j : Nat} (hj : ∀ o, k.get o = some j → g j ≠ some (!i))
    (hres : p'.res = p.res) (hholds : Holds g (k.rmid j) i p' q)
    (hsame : p'.pid = p.pid ∧ p'.frames = p.frames) : Deed g i k p q (k.rmid j) p' where
  spares := by
    intro o id h hn
    by_cases he : id = j
    · subst he
      exact hj o h
    · have hkeep : (k.rmid j).get o = k.get o := by
        apply Lib.Registry.remove_other
        intro ho
        exact he (Option.some.inj (h.symm.trans ho))
      rw [hkeep,h] at hn
      cases hn
  old h _ := Lib.Registry.remove_left h
  next := .inl rfl
  new h hle := absurd ((k.rmid j).objects.used h) (Nat.not_lt.mpr hle)
  own h := .inl (by rw [← hres]; exact h)
  kept _ h := by rw [hres]; exact h
  state h := .inl (by rw [← hres]; exact h)
  mainPid _ := .inl rfl
  fresh h := absurd h (Nat.lt_irrefl _)
  holds h := by rw [h rfl]; exact hholds
  same := hsame

theorem mem_removed {e : Bool × Nat} {tr : List (Pair × Turn)} {s s' : Pair} {a : Turn}
    (hs : s.step a = some s') (he : e ∈ removals (tr ++ [(s,a)])) :
    e ∈ removals tr ∨ e.1 = a.who ∧ ∃ o, s.kernel.get o = some e.2 ∧ s'.kernel.get o = none := by
  simp only [removals,Lib.history_snoc] at he
  unfold noteRemoved at he
  rw [hs] at he
  rcases List.mem_append.mp he with he | he
  · exact .inl he
  · obtain ⟨id,hid,rfl⟩ := List.mem_map.mp he
    obtain ⟨o,-,ho⟩ := List.mem_filterMap.mp hid
    split at ho
    · rename_i hnone
      exact .inr ⟨rfl,o,ho,hnone⟩
    · cases ho

theorem creator_snoc {tr : List (Pair × Turn)} {s s' : Pair} {a : Turn} (hs : s.step a = some s') :
    creator (tr ++ [(s,a)]) = if s.kernel.objects.next < s'.kernel.objects.next then
      update (creator tr) s.kernel.objects.next (some a.who) else creator tr := by
  simp only [creator,Lib.history_snoc]
  unfold noteCreated
  rw [hs]

structure Recorded (i : Bool) (g g' : Nat → Option Bool) (k k' : Kernel) : Prop where
  low : ∀ {id}, id < k.objects.next → g' id = g id
  high : ∀ {id}, k'.objects.next ≤ id → g' id = none
  new : k.objects.next < k'.objects.next → g' k.objects.next = some i
  same : k'.objects.next = k.objects.next → g' = g

theorem creator_recorded {tr : List (Pair × Turn)} {s s' : Pair} {a : Turn} (hs : s.step a = some s')
    (hunborn : ∀ id, s.kernel.objects.next ≤ id → creator tr id = none)
    (hnext : s.kernel.objects.next ≤ s'.kernel.objects.next) :
    Recorded a.who (creator tr) (creator (tr ++ [(s,a)])) s.kernel s'.kernel := by
  rw [creator_snoc hs]
  refine ⟨?_,?_,?_,?_⟩
  · intro id hlt
    split
    · rw [Function.update_of_ne (Nat.ne_of_lt hlt)]
    · rfl
  · intro id hle
    split
    · rename_i hnew
      rw [Function.update_of_ne (by omega)]
      exact hunborn id (by omega)
    · exact hunborn id (by omega)
  · intro hnew
    rw [if_pos hnew,Function.update_self]
  · intro he
    rw [if_neg (by omega)]

theorem Guarded.born {tr : List (Pair × Turn)} {s : Pair} {j : Bool} (h : Guarded tr s)
    (hg : creator tr id = some j) : id < s.kernel.objects.next := by
  by_contra hle
  rw [h.unborn id (Nat.le_of_not_lt hle)] at hg
  cases hg

structure Stepping (tr : List (Pair × Turn)) (s : Pair) (a : Turn) (k' : Kernel) (p' : Main) : Prop where
  before : Guarded tr s
  starting : ¬(s.inst a.who).pc.claimed
  deed : Deed (creator tr) a.who s.kernel (s.inst a.who) (s.inst !a.who) k' p'
  recorded : Recorded a.who (creator tr) (creator (tr ++ [(s,a)])) s.kernel k'
  grows : s.kernel.objects.next ≤ k'.objects.next

section
variable {tr : List (Pair × Turn)} {s : Pair} {a : Turn} {p' : Main} {j : Bool}

theorem Guarded.stepping (h : Guarded tr s) (hs : s.step a = some ⟨k',update s.inst a.who p'⟩)
    (hstart : ¬(s.inst a.who).pc.claimed)
    (hd : Deed (creator tr) a.who s.kernel (s.inst a.who) (s.inst !a.who) k' p') :
    Stepping tr s a k' p' := by
  have hle : s.kernel.objects.next ≤ k'.objects.next := by
    rcases hd.next with he | he <;> omega
  exact ⟨h,hstart,hd,creator_recorded hs h.unborn hle,hle⟩

/-- A creator once known stays known. -/
theorem Stepping.known (h : Stepping tr s a k' p') (hg : creator tr id = some j) :
    creator (tr ++ [(s,a)]) id = some j := by
  rw [h.recorded.low (h.before.born hg)]
  exact hg

theorem Stepping.own (h : Stepping tr s a k' p')
    (hid : (update s.inst a.who p' j).res.id o = some id) : creator (tr ++ [(s,a)]) id = some j := by
  by_cases hj : j = a.who
  · subst hj
    rw [Function.update_self] at hid
    rcases h.deed.own hid with hold | ⟨rfl,hlt⟩
    · exact h.known (h.before.own _ o id hold)
    · exact h.recorded.new hlt
  · rw [Function.update_of_ne hj] at hid
    exact h.known (h.before.own j o id hid)

theorem Stepping.state {shm : Nat} (h : Stepping tr s a k' p')
    (hshm : (update s.inst a.who p' j).res.state = some shm) :
    creator (tr ++ [(s,a)]) shm = some j := by
  by_cases hj : j = a.who
  · subst hj
    rw [Function.update_self] at hshm
    rcases h.deed.state hshm with hold | hid
    · exact h.known (h.before.state _ shm hold)
    · exact h.known (h.before.own _ .shm shm hid)
  · rw [Function.update_of_ne hj] at hshm
    exact h.known (h.before.state j shm hshm)

theorem Stepping.kept (h : Stepping tr s a k' p') (hget : k'.get o = some id)
    (hg : creator (tr ++ [(s,a)]) id = some j) : (update s.inst a.who p' j).res.id o = some id := by
  by_cases hid : id < s.kernel.objects.next
  · rw [h.recorded.low hid] at hg
    have hrec := h.before.kept j o id (h.deed.old hget hid) hg
    by_cases hj : j = a.who
    · subst hj
      rw [Function.update_self]
      exact h.deed.kept hget hrec
    · rw [Function.update_of_ne hj]
      exact hrec
  · -- The new object, which the instance has just recorded.
    have hrec := h.deed.new hget (Nat.le_of_not_lt hid)
    have hmine : creator (tr ++ [(s,a)]) id = some a.who :=
      h.own (by rw [Function.update_self]; exact hrec)
    rw [hmine] at hg
    cases hg
    rw [Function.update_self]
    exact hrec

/-- A new object is the next one. -/
theorem Stepping.new (h : Stepping tr s a k' p') (hg : creator (tr ++ [(s,a)]) id = some j)
    (hid : ¬id < s.kernel.objects.next) :
    id = s.kernel.objects.next ∧ s.kernel.objects.next < k'.objects.next := by
  have hup : id < k'.objects.next := by
    by_contra hno
    rw [h.recorded.high (Nat.le_of_not_lt hno)] at hg
    cases hg
  rcases h.deed.next with hn | hn <;> omega

theorem Stepping.mainPid (h : Stepping tr s a k' p') (hg : creator (tr ++ [(s,a)]) id = some j) :
    k'.mainPid id = 0 ∨ k'.mainPid id = (update s.inst a.who p' j).pid ∧
      (update s.inst a.who p' j).pc.claimed := by
  by_cases hid : id < s.kernel.objects.next
  · rw [h.recorded.low hid] at hg
    rcases h.deed.mainPid id with hk | hz | ⟨hst,hk,hc⟩
    · rcases h.before.mainPid j id hg with hz | ⟨hp,hc⟩
      · exact .inl (hk.trans hz)
      · have hj : j ≠ a.who := by
          rintro rfl
          exact h.starting hc
        rw [Function.update_of_ne hj]
        exact .inr ⟨hk.trans hp,hc⟩
    · exact .inl hz
    · have hj := h.before.state _ id hst
      rw [hg] at hj
      cases hj
      rw [Function.update_self,h.deed.same.1]
      exact .inr ⟨hk,hc⟩
  · obtain ⟨rfl,hlt⟩ := h.new hg hid
    exact .inl (h.deed.fresh hlt)

theorem Stepping.holds (h : Stepping tr s a k' p') (j : Bool) :
    Holds (creator (tr ++ [(s,a)])) k' j (update s.inst a.who p' j) (update s.inst a.who p' !j) := by
  by_cases hj : j = a.who
  · subst hj
    have hother : (!a.who) ≠ a.who := by cases a.who <;> decide
    rw [Function.update_self,Function.update_of_ne hother]
    exact h.deed.holds h.recorded.same
  · have hother : (!j) = a.who := by
      revert hj
      cases j <;> cases a.who <;> simp
    have hhold := h.before.holds j
    rw [hother] at hhold ⊢
    rw [Function.update_of_ne hj,Function.update_self]
    exact hhold.later ⟨h.deed.old,h.grows,h.recorded.low⟩ h.deed.same.1
      (fun hc => absurd hc h.starting) (fun o id hid => h.before.recorded hid)

/-- A step with these properties keeps both instances apart. -/
theorem Guarded.deed (h : Guarded tr s) (hs : s.step a = some ⟨k',update s.inst a.who p'⟩)
    (hstart : ¬(s.inst a.who).pc.claimed)
    (hd : Deed (creator tr) a.who s.kernel (s.inst a.who) (s.inst !a.who) k' p') :
    Guarded (tr ++ [(s,a)]) ⟨k',update s.inst a.who p'⟩ := by
  have hst := h.stepping hs hstart hd
  refine ⟨fun id hid => hst.recorded.high hid,fun _ _ _ hid => hst.own hid,fun _ _ hshm => hst.state hshm,
    fun _ _ _ hget hg => hst.kept hget hg,fun _ _ hg => hst.mainPid hg,hst.holds,?_,?_⟩
  · intro j
    by_cases hj : j = a.who
    · subst hj
      simp only [Function.update_self,hd.same.1,hd.same.2]
      exact h.calm _
    · simp only [Function.update_of_ne hj]
      exact h.calm j
  · intro e he
    rcases mem_removed hs he with hold | ⟨hwho,o,hget,hgone⟩
    · obtain ⟨hlt,hne⟩ := h.spared e hold
      rw [hst.recorded.low hlt]
      exact ⟨Nat.lt_of_lt_of_le hlt hst.grows,hne⟩
    · have hlt := s.kernel.objects.used hget
      rw [hst.recorded.low hlt,hwho]
      exact ⟨Nat.lt_of_lt_of_le hlt hst.grows,hd.spares hget hgone⟩

end

variable {tr : List (Pair × Turn)} {s s' : Pair} {a : Turn}

theorem Deed.goto {pc : MainPc} (hholds : Holds g k i (p.goto pc) q) : Deed g i k p q k (p.goto pc) :=
  .quiet rfl hholds ⟨rfl,rfl⟩

theorem not_theirs {other : Main} (h : notTheirs k other o = true) (hget : k.get o = some id) :
    other.res.id o ≠ some id := by
  simp only [notTheirs,hget,Option.isNone_some,Bool.false_or,bne_iff_ne,ne_eq] at h
  exact fun he => h he.symm

/-- What a lookup by key finds is not the other's. -/
theorem Guarded.lookup (h : Guarded tr s) (hget : s.kernel.get o = some id)
    (ok : notTheirs s.kernel (s.inst !i) o = true) : Free (creator tr) s.kernel i id := by
  refine ⟨s.kernel.objects.used hget,?_⟩
  rintro ⟨hg,o',ho'⟩
  have he : o' = o := s.kernel.objects.inj ho' hget
  subst he
  exact not_theirs ok hget (h.kept _ _ _ hget hg)

theorem Free.spares (h : Free g k i id) : ∀ o, k.get o = some id → g id ≠ some (!i) :=
  fun o ho hg => h.2 ⟨hg,o,ho⟩

theorem Free.removed {j : Nat} (h : Free g k i id) : Free g (k.rmid j) i id :=
  h.later ⟨fun ho _ => Lib.Registry.remove_left ho,Nat.le_refl _,fun _ => rfl⟩

/-- The other instance has stored its pid, so it is alive. -/
theorem claimed_alive (h : (s.inst i).pc.claimed) : s.alive (s.inst i).pid = true := by
  have hpc : (s.inst i).pc = .sigaction [.int,.term] := h
  cases i <;> simp [Pair.alive,hpc]

/-- One step of `ipc_cleanup_stale`. -/
theorem stale_deed {c : StalePc} (h : Guarded tr s) (hpc : (s.inst a.who).pc = .stale c)
    (ok : settledLookups tr s a = true) :
    Deed (creator tr) a.who s.kernel (s.inst a.who) (s.inst !a.who)
      (ipcCleanupStale s.alive s.kernel a.x c).1
      ((s.inst a.who).goto (ipcCleanupStale s.alive s.kernel a.x c).2) := by
  have hholds := h.holds a.who
  simp only [Holds,hpc] at hholds
  simp only [settledLookups,hpc] at ok
  cases c with
  | shmget =>
    simp only [ipcCleanupStale]
    split
    · exact .goto trivial
    · rename_i shm hshm
      exact .goto ⟨s.kernel.objects.used hshm,fun o ho => s.kernel.objects.inj ho hshm⟩
  | shmat shm =>
    simp only [ipcCleanupStale]
    split
    · exact .goto hholds
    · exact .goto trivial
  | read shm =>
    refine .goto ⟨hholds.1,?_⟩
    rintro ⟨hg,o,ho⟩
    have hshm : o = .shm := hholds.2 o ho
    subst hshm
    have hid := h.kept _ _ _ ho hg
    rcases h.mainPid _ shm hg with hz | hclaimed
    · simp [hid,hz] at ok
    · exact hclaimed
  | kill shm m =>
    simp only [ipcCleanupStale]
    split
    · exact .goto trivial
    · rename_i hstale
      refine .goto ⟨⟨hholds.1,?_⟩,by simp⟩
      intro hf
      obtain ⟨rfl,hclaimed⟩ := hholds.2 hf
      exact hstale ⟨(h.calm _).2,claimed_alive hclaimed⟩
  | msgget shm ids rest =>
    cases rest with
    | nil => exact .goto hholds
    | cons o rest =>
      refine .goto ⟨hholds.1,?_⟩
      intro id hid
      rcases List.mem_append.mp hid with hid | hid
      · exact hholds.2 id hid
      · exact h.lookup (List.mem_singleton.mp hid).symm ok
  | msgctl shm ids =>
    cases ids with
    | nil => exact .goto hholds.1
    | cons id ids =>
      have hrest : ∀ j, some j ∈ ids → Free (creator tr) s.kernel a.who j :=
        fun j hj => hholds.2 j (List.mem_cons_of_mem _ hj)
      cases id with
      | none => exact .goto ⟨hholds.1,hrest⟩
      | some id =>
        refine .remove (hholds.2 id List.mem_cons_self).spares rfl ⟨hholds.1.removed,?_⟩ ⟨rfl,rfl⟩
        intro j hj
        exact (hrest j hj).removed
  | semget shm =>
    simp only [ipcCleanupStale]
    split
    · exact .goto hholds
    · rename_i sem hsem
      exact .goto ⟨hholds,h.lookup hsem ok⟩
  | semctl shm sem => exact .remove hholds.2.spares rfl (Free.removed hholds.1) ⟨rfl,rfl⟩
  | shmctl shm => exact .remove (Free.spares hholds) rfl trivial ⟨rfl,rfl⟩

/-- A new object. -/
theorem Deed.add {c : CreatePc} (hfree : k.get o = none) (hc : ∀ r, c ≠ .cleanup r) :
    Deed g i k p q ⟨k.objects.add o,update k.mainPid k.objects.next 0⟩
      { p with res := p.res.setId o (some k.objects.next), pc := .create c } where
  spares := by
    intro o' id hget hnone
    by_cases he : o' = o
    · subst he
      rw [hfree] at hget
      cases hget
    · simp [Kernel.get,he] at hnone hget
      rw [hnone] at hget
      cases hget
  old := by
    intro o' id hget hlt
    by_cases he : o' = o
    · subst he
      simp [Kernel.get] at hget
      omega
    · simpa [Kernel.get,he] using hget
  next := .inr rfl
  new := by
    intro o' id hget hle
    by_cases he : o' = o
    · subst he
      simpa [Kernel.get,IPCResources.setId] using hget
    · have hold : k.get o' = some id := by simpa [Kernel.get,he] using hget
      exact absurd (k.objects.used hold) (Nat.not_lt.mpr hle)
  own := by
    intro o' id hid
    by_cases he : o' = o
    · subst he
      simp [IPCResources.setId] at hid
      exact .inr ⟨hid.symm,Nat.lt_succ_self _⟩
    · exact .inl (by simpa [IPCResources.setId,he] using hid)
  kept := by
    intro o' id hget hid
    by_cases he : o' = o
    · subst he
      simpa [Kernel.get,IPCResources.setId] using hget
    · simpa [IPCResources.setId,he] using hid
  state h := .inl h
  mainPid id := by
    by_cases he : id = k.objects.next
    · exact .inr (.inl (by simp [he]))
    · exact .inl (by simp [he])
  fresh _ := by simp
  holds _ := by
    cases c <;> first | trivial | exact absurd rfl (hc _)
  same := ⟨rfl,rfl⟩

/-- The error path has not begun to forget an id. -/
theorem failed_holds (hpc : p.pc = .create .failed) : Holds g k i p q := by
  simp only [Holds,hpc,CreatePc.failed]
  intro o os id hsub
  cases hsub

theorem object_deed {c : CreatePc} (hc : ∀ r, c ≠ .cleanup r) :
    Deed g i k p q (createObject k p.res o c).1
      { p with res := (createObject k p.res o c).2.1, pc := (createObject k p.res o c).2.2 } := by
  cases hget : k.get o with
  | none =>
    have hcreate : k.create o = some (k.objects.next,
        ⟨k.objects.add o,update k.mainPid k.objects.next 0⟩) := by
      simp [Kernel.create,Lib.Registry.create_free hget]
    simp only [createObject,hcreate]
    exact .add hget hc
  | some id =>
    have hcreate : k.create o = none := by
      simp only [Kernel.get] at hget
      simp [Kernel.create,Lib.Registry.create,hget]
    simp only [createObject,hcreate]
    exact .quiet rfl (failed_holds rfl) ⟨rfl,rfl⟩

/-- One step of the error path of `ipc_create`: it removes the objects of its own instance. -/
theorem cleanup_deed {r : Removal} (hpc : p.pc = .create (.cleanup r)) (hholds : Holds g k i p q)
    (hown : ∀ o id, p.res.id o = some id → g id = some i) :
    Deed g i k p q (r.next k p.res).1
      { p with res := (r.next k p.res).2.1, pc := .create (.cleanup (r.next k p.res).2.2) } := by
  simp only [Holds,hpc] at hholds
  obtain ⟨todo,sub⟩ := r
  cases todo with
  | nil =>
    refine .quiet rfl ?_ ⟨rfl,rfl⟩
    intro o os id _ htodo
    cases htodo
  | cons t os =>
    cases t with
    | shmdt =>
      refine .still (fun _ _ hid => hid) (fun _ _ _ hid => hid) (by simp [Removal.next]) ?_ ⟨rfl,rfl⟩
      intro o os id hsub
      cases hsub
    | rmid o =>
      cases sub with
      | test =>
        simp only [Removal.next]
        split
        all_goals
          refine .quiet rfl ?_ ⟨rfl,rfl⟩
          intro o' os' id hsub
          cases hsub
      | ctl =>
        simp only [Removal.next]
        split
        · rename_i id hid
          refine .remove ?_ rfl ?_ ⟨rfl,rfl⟩
          · intro o' _
            rw [hown o id hid]
            cases i <;> decide
          · intro o' os' id' _ htodo hid'
            cases htodo
            rw [hid] at hid'
            cases hid'
            exact fun o'' => Lib.Registry.remove_never _ _ o''
        · rename_i hid
          refine .quiet rfl ?_ ⟨rfl,rfl⟩
          intro o' os' id' _ htodo hid'
          cases htodo
          rw [hid] at hid'
          cases hid'
      | clear =>
        refine .still ?_ ?_ (fun _ hshm => .inl hshm) ?_ ⟨rfl,rfl⟩
        · intro o' id hid
          by_cases he : o' = o
          · subst he
            simp [Removal.next,IPCResources.setId] at hid
          · simpa [Removal.next,IPCResources.setId,he] using hid
        · intro o' id hget hid
          have he : o' ≠ o := by
            rintro rfl
            exact hholds o' os id rfl rfl hid o' hget
          simpa [Removal.next,IPCResources.setId,he] using hid
        · intro o' os' id hsub
          cases hsub

/-- One step of `ipc_create`. -/
theorem create_deed {c : CreatePc} (y : Bool) (hpc : p.pc = .create c) (hholds : Holds g k i p q)
    (hown : ∀ o id, p.res.id o = some id → g id = some i) :
    Deed g i k p q (ipcCreate k p.res y c).1
      { p with res := (ipcCreate k p.res y c).2.1, pc := (ipcCreate k p.res y c).2.2 } := by
  cases c with
  | shmget | semget => exact object_deed (by simp)
  | shmat =>
    simp only [ipcCreate]
    split
    · exact .still (fun _ _ hid => hid) (fun _ _ _ hid => hid) (fun _ hshm => .inr hshm) trivial ⟨rfl,rfl⟩
    · exact .quiet rfl (failed_holds rfl) ⟨rfl,rfl⟩
  | zero =>
    simp only [ipcCreate]
    split
    · rename_i shm hshm
      exact .write (.quiet rfl trivial ⟨rfl,rfl⟩) hshm (.inl rfl)
    · exact .quiet rfl trivial ⟨rfl,rfl⟩
  | setall =>
    simp only [ipcCreate]
    split
    · exact .quiet rfl trivial ⟨rfl,rfl⟩
    · exact .quiet rfl (failed_holds rfl) ⟨rfl,rfl⟩
  | msgget rest =>
    cases rest with
    | nil => exact .quiet rfl trivial ⟨rfl,rfl⟩
    | cons o rest => exact object_deed (by simp)
  | init => exact .quiet rfl trivial ⟨rfl,rfl⟩
  | cleanup r =>
    simp only [ipcCreate]
    split
    · exact .quiet rfl trivial ⟨rfl,rfl⟩
    · exact cleanup_deed hpc hholds hown

/-- One step of an instance that starts. -/
theorem Guarded.step (h : Guarded tr s) (ok : settledLookups tr s a = true)
    (hs : s.step a = some s') : Guarded (tr ++ [(s,a)]) s' := by
  have hstep := hs
  unfold Pair.step at hs
  split at hs
  · rename_i hstarting
    obtain ⟨⟨k1,p1⟩,hmain,rfl⟩ := Option.map_eq_some_iff.mp hs
    have hstart : ¬(s.inst a.who).pc.claimed := by
      intro hc
      have hpc : (s.inst a.who).pc = .sigaction [.int,.term] := hc
      simp [hpc,MainPc.starting] at hstarting
    apply h.deed hstep hstart
    rw [Main.step_calm (h.calm a.who).1] at hmain
    simp only [Main.program] at hmain
    cases hpc : (s.inst a.who).pc <;> simp only [hpc,MainPc.starting] at hmain hstarting
    case stale c =>
      cases hmain
      exact stale_deed h hpc ok
    case create c =>
      cases hmain
      exact create_deed a.x hpc (h.holds a.who) (fun o id hid => h.own _ o id hid)
    case timeInit =>
      cases hmain
      exact .goto trivial
    case storePid =>
      split at hmain
      · rename_i shm hshm
        cases hmain
        exact .write (.quiet rfl trivial ⟨rfl,rfl⟩) hshm (.inr ⟨rfl,rfl⟩)
      · cases hmain
    all_goals cases hstarting
  · cases hs

theorem start_guarded (u : Launch) : Guarded [] u.start := by
  refine ⟨fun _ _ => rfl,?_,?_,?_,?_,?_,?_,?_⟩
  · intro i o id hid
    cases hid
  · intro i shm hshm
    cases hshm
  · intro i o id _ hg
    cases hg
  · intro i id hg
    cases hg
  · intro i
    trivial
  · intro i
    exact ⟨rfl,u.positive i⟩
  · intro e he
    cases he

/-- As long as the lookups are settled, neither instance removes an object of the other. -/
theorem settled_spared {u : Launch} (h : Startups settledLookups u tr s) : Spared tr := by
  have hg : Guarded tr s :=
    h.invariant (fun tr s => Guarded tr s) (start_guarded u) (fun _ _ _ _ hi ok hs => hi.step ok hs)
  exact fun e he => (hg.spared e he).2

def cleanLaunch : Launch := ⟨⟨.empty Obj 0, fun _ => 0⟩, fun i => if i then 2 else 1, by decide⟩

def turns (i : Bool) (l : Nat) : List Turn := List.replicate l ⟨i, false⟩

/-- The second instance finds the first one running and fails to create its own objects. -/
theorem settled_spared_running : ∃ tr s, Startups settledLookups cleanLaunch tr s ∧
    ((s.inst true).pc.starting = false ∧ creator tr 0 = some false ∧ s.kernel.get .shm = some 0) ∧
      Spared tr := by
  have hr : (Lib.exec Pair.step settledLookups [] (turns false 15 ++ turns true 14)
      cleanLaunch.start).any (fun r => !(r.2.inst true).pc.starting && creator r.1 0 == some false &&
        r.2.kernel.get .shm == some 0) = true := by decide +kernel
  obtain ⟨tr,s,h,ht⟩ := Lib.exists_run _ (fun tr s => !(Pair.inst s true).pc.starting &&
    creator tr 0 == some false && s.kernel.get .shm == some 0) hr
  simp only [Bool.and_eq_true,beq_iff_eq,Bool.not_eq_true'] at ht
  exact ⟨tr,s,h,⟨ht.1.1,ht.1.2,ht.2⟩,settled_spared h⟩

/-- The second instance finds the segment of the first one before its pid is there. -/
theorem fresh_segment_removed : ¬∀ u tr s, Startups anyOrder u tr s → Spared tr := by
  intro hall
  have hr : (Lib.exec Pair.step anyOrder [] (turns false 2 ++ turns true 18) cleanLaunch.start).any
      (fun r => removals r.1 == [(true,0)] && creator r.1 0 == some false) = true := by decide +kernel
  obtain ⟨tr,s,h,ht⟩ := Lib.exists_run _ (fun tr _ => removals tr == [(true,0)] &&
    creator tr 0 == some false) hr
  simp only [Bool.and_eq_true,beq_iff_eq] at ht
  exact hall cleanLaunch tr s h (true,0) (by simp [ht.1]) ht.2

end Ropeway.Ipc
