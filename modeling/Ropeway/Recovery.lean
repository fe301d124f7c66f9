import Ropeway.Ipc
import Ropeway.Lib.Runs

/-! A new simulation recovers from the crash of an earlier one. -/

namespace Ropeway.Ipc

/-- The machine with the main process that is running and the pids of those that have
died. Their pids are not used again. -/
structure Machine where
  kernel : Kernel
  current : Option Main
  dead : List Nat

inductive Event
  | start (pid : Nat)
  | main (x : Bool)
  | signal (sig : TermSignal)
  | sigkill
  /-- The process has returned from `main` and is gone. -/
  | reap
  deriving DecidableEq, Repr

def Machine.alive (m : Machine) (pid : Nat) : Bool := m.current.any (fun p => p.pid == pid)

def Machine.bury (m : Machine) (p : Main) : Machine := { m with current := none, dead := p.pid :: m.dead }

/-- The default action of both signals is to terminate; a handler blocks its own signal
only. -/
def Machine.signal (m : Machine) (p : Main) (sig : TermSignal) : Option Machine :=
  if sig ∈ p.installed then
    if sig ∈ p.frames.map (·.1) then none
    else some { m with current := some (p.sigtermHandler sig) }
  else some (m.bury p)

def Machine.step (m : Machine) : Event → Option Machine
  | .start pid =>
    if m.current.isNone ∧ 0 < pid ∧ pid ∉ m.dead then some { m with current := some (.init pid) }
    else none
  | .main x =>
    m.current.bind (fun p => (p.step m.alive m.kernel x).map (fun (k,q) =>
      { m with kernel := k, current := some q }))
  | .signal sig => m.current.bind (m.signal · sig)
  | .sigkill => m.current.map m.bury
  | .reap => m.current.bind (fun p =>
      match p.pc with
      | .exited _ => some (m.bury p)
      | _ => none)

def Machine.init (n : Nat) : Machine := ⟨⟨.empty Obj n, fun _ => 0⟩, none, []⟩

def always : List (Machine × Event) → Machine → Event → Bool := fun _ _ _ => true

def noteStart (g : Nat) (m : Machine) : Event → Nat
  | .start _ => m.kernel.objects.next
  | _ => g

def startedAt (n : Nat) (tr : List (Machine × Event)) : Nat := Lib.history noteStart n tr

/-- All seven objects exist, none is older than the id `b`, and the process knows them. -/
def Complete (b : Nat) (k : Kernel) (p : Main) : Prop :=
  ∀ o, ∃ id, k.get o = some id ∧ p.res.id o = some id ∧ b ≤ id

structure Recovers (n : Nat) (tr : List (Machine × Event)) (m : Machine) : Prop where
  segment : ∀ o, m.kernel.get o ≠ none → m.kernel.get .shm ≠ none
  succeeds : ∀ p, m.current = some p →
    p.pc ≠ .exited 1 ∧ (∀ r, p.pc ≠ .create (.cleanup r)) ∧
      (p.pc = .timeInit → Complete (startedAt n tr) m.kernel p)
  restarts : m.current = none → ∀ pid, 0 < pid → pid ∉ m.dead → ∃ l tr' m' p,
    Lib.exec Machine.step always tr (.start pid :: List.replicate l (.main false)) m = some (tr',m') ∧
      m'.current = some p ∧ p.pc = .timeInit ∧ Complete m.kernel.objects.next m'.kernel p
  ends : ∀ p, m.current = some p → p.pc = .exited 0 → ∀ o, m.kernel.get o = none

variable {k k' : Kernel} {res res' : IPCResources} {l : List Teardown} {r : Removal} {o : Obj}

def SegmentLast (k : Kernel) : Prop := ∀ o, k.get o ≠ none → k.get .shm ≠ none

structure Known (k : Kernel) (res : IPCResources) : Prop where
  id : ∀ {o id}, k.get o = some id → res.id o = some id
  distinct : ∀ {o o' id}, res.id o = some id → res.id o' = some id → o = o'

/-- An object whose id is -1 is gone. -/
theorem Known.gone (h : Known k res) (ho : res.id o = none) : k.get o = none := by
  cases hget : k.get o with
  | none => rfl
  | some id =>
    rw [h.id hget] at ho
    cases ho

theorem Known.clear (h : Known k res) (ho : k.get o = none) : Known k (res.setId o none) := by
  have hleft : ∀ {o' id}, (res.setId o none).id o' = some id → o' ≠ o ∧ res.id o' = some id := by
    intro o' id hid
    by_cases hne : o' = o
    · subst hne
      simp [IPCResources.setId] at hid
    · exact ⟨hne,by simpa [IPCResources.setId,hne] using hid⟩
  refine ⟨?_,fun h1 h2 => h.distinct (hleft h1).2 (hleft h2).2⟩
  intro o' id hget
  have hne : o' ≠ o := by
    rintro rfl
    rw [ho] at hget
    cases hget
  simpa [IPCResources.setId,hne] using h.id hget

structure Shrinks (k k' : Kernel) : Prop where
  left : ∀ {o id}, k'.get o = some id → k.get o = some id
  mainPid : k'.mainPid = k.mainPid
  next : k'.objects.next = k.objects.next

theorem Shrinks.refl (k : Kernel) : Shrinks k k := ⟨id,rfl,rfl⟩

theorem Shrinks.gone (h : Shrinks k k') (ho : k.get o = none) : k'.get o = none := by
  cases hk : k'.get o with
  | none => rfl
  | some id =>
    rw [h.left hk] at ho
    cases ho

theorem rmid_shrinks (k : Kernel) (id : Nat) : Shrinks k (k.rmid id) :=
  ⟨Lib.Registry.remove_left,rfl,rfl⟩

/-- The removal `r` of the objects in `l`: those it has passed are gone, and it comes to
the segment last. -/
structure Undoing (k : Kernel) (l : List Teardown) (r : Removal) : Prop where
  covers : ∀ o, o ≠ .shm → .rmid o ∈ l
  last : r.todo.Pairwise (fun a _ => a ≠ .rmid .shm)
  passed : ∀ o, .rmid o ∈ l → .rmid o ∉ r.todo → k.get o = none
  clear : r.sub = .clear → ∀ o os, r.todo = .rmid o :: os → k.get o = none

theorem Undoing.mono (h : Undoing k l r) (hs : Shrinks k k') : Undoing k' l r :=
  ⟨h.covers,h.last,fun o ho hr => hs.gone (h.passed o ho hr),
    fun hc o os ht => hs.gone (h.clear hc o os ht)⟩

/-- The next block once the first one is done. -/
theorem Undoing.tail {a : Teardown} {os : List Teardown} (h : Undoing k l r) (ht : r.todo = a :: os)
    (hgone : ∀ o, a = .rmid o → k.get o = none) : Undoing k l ⟨os,.test⟩ := by
  have hlast := h.last
  rw [ht] at hlast
  refine ⟨h.covers,hlast.of_cons,?_,by simp⟩
  intro o ho hos
  by_cases ha : a = .rmid o
  · exact hgone o ha
  · apply h.passed o ho
    rw [ht]
    simp [Ne.symm ha,hos]

/-- When the segment comes, everything else is gone. -/
theorem Undoing.alone {os : List Teardown} (h : Undoing k l r) (ht : r.todo = .rmid .shm :: os) :
    ∀ o, o ≠ .shm → k.get o = none := by
  intro o ho
  apply h.passed o (h.covers o ho)
  have hlast := h.last
  rw [ht,List.pairwise_cons] at hlast
  rw [ht]
  simp only [List.mem_cons,Teardown.rmid.injEq,ho,false_or]
  intro hos
  exact hlast.1 _ hos rfl

theorem obj_cases (o : Obj) : o = .shm ∨ o = .sem ∨ o ∈ queues := by
  cases o <;> simp [queues]

/-- The start of a removal that comes to the segment last. -/
theorem Undoing.start (hc : ∀ o ∈ Obj.sem :: queues, Teardown.rmid o ∈ l)
    (hl : l.Pairwise (fun a _ => a ≠ .rmid .shm)) : Undoing k l (.start l) := by
  refine ⟨?_,hl,fun _ ho hr => absurd ho hr,by simp [Removal.start]⟩
  intro o ho
  rcases obj_cases o with rfl | rfl | hq
  · exact absurd rfl ho
  · exact hc .sem List.mem_cons_self
  · exact hc o (List.mem_cons_of_mem _ hq)

structure RemovalStep (k : Kernel) (l : List Teardown) (p : Kernel × IPCResources × Removal) : Prop where
  shrinks : Shrinks k p.1
  segment : SegmentLast p.1
  known : Known p.1 p.2.1
  undoing : Undoing p.1 l p.2.2

/-- The object under `o`, if there is one, is the one with the known id. -/
theorem Known.removed {id : Nat} (hk : Known k res) (hid : res.id o = some id) :
    (k.rmid id).get o = none := by
  cases hget : k.get o with
  | none => exact (rmid_shrinks k id).gone hget
  | some id' =>
    have he := hk.id hget
    rw [hid] at he
    cases he
    exact Lib.Registry.remove_gone hget

/-- The segment is removed when nothing else is left, and stays as long as another object is. -/
theorem Known.segment_last {id : Nat} (hk : Known k res) (hid : res.id o = some id)
    (hs : SegmentLast k) (halone : o = .shm → ∀ o', o' ≠ .shm → k.get o' = none) :
    SegmentLast (k.rmid id) := by
  intro o' ho'
  by_cases hshm : o = .shm
  · exfalso
    by_cases hne : o' = .shm
    · rw [hne,← hshm] at ho'
      exact ho' (hk.removed hid)
    · exact ho' ((rmid_shrinks k id).gone (halone hshm o' hne))
  · have hbefore : k.get .shm ≠ none := hs o' (fun hn => ho' ((rmid_shrinks k id).gone hn))
    have hkeep : (k.rmid id).get .shm = k.get .shm := by
      apply Lib.Registry.remove_other
      intro hget
      exact hshm (hk.distinct hid (hk.id hget))
    rw [hkeep]
    exact hbefore

theorem removal_step (hs : SegmentLast k) (hk : Known k res) (h : Undoing k l r) :
    RemovalStep k l (r.next k res) := by
  obtain ⟨todo,sub⟩ := r
  cases todo with
  | nil => exact ⟨.refl k,hs,hk,h⟩
  | cons a os =>
    cases a with
    | shmdt => exact ⟨.refl k,hs,⟨hk.id,hk.distinct⟩,h.tail rfl (by simp)⟩
    | rmid o =>
      cases sub with
      | test =>
        simp only [Removal.next]
        split
        · rename_i hnone
          refine ⟨.refl k,hs,hk,h.tail rfl ?_⟩
          intro o' ho'
          cases ho'
          exact hk.gone hnone
        · exact ⟨.refl k,hs,hk,h.covers,h.last,h.passed,by simp⟩
      | ctl =>
        simp only [Removal.next]
        split
        · rename_i id hid
          have hm := h.mono (rmid_shrinks k id)
          refine ⟨rmid_shrinks k id,hk.segment_last hid hs ?_,?_,hm.covers,hm.last,hm.passed,?_⟩
          · rintro rfl
            exact h.alone rfl
          · exact ⟨fun hget => hk.id ((rmid_shrinks k id).left hget),hk.distinct⟩
          · intro _ o' os' ht
            cases ht
            exact hk.removed hid
        · rename_i hid
          refine ⟨.refl k,hs,hk,h.covers,h.last,h.passed,?_⟩
          intro _ o' os' ht
          cases ht
          exact hk.gone hid
      | clear =>
        have hgone : k.get o = none := h.clear rfl o os rfl
        refine ⟨.refl k,hs,hk.clear hgone,h.tail rfl ?_⟩
        · intro o' ho'
          cases ho'
          exact hgone

variable {b : Nat} {dead : List Nat}

structure Leftover (k : Kernel) (dead : List Nat) : Prop where
  segment : SegmentLast k
  mainPid : ∀ {shm}, k.get .shm = some shm → k.mainPid shm = 0 ∨ k.mainPid shm ∈ dead

theorem Leftover.mono (h : Leftover k dead) (hs : Shrinks k k') (hl : SegmentLast k') :
    Leftover k' dead := by
  refine ⟨hl,?_⟩
  intro shm hshm
  rw [hs.mainPid]
  exact h.mainPid (hs.left hshm)

def StaleFits (k : Kernel) (dead : List Nat) : StalePc → Prop
  | .shmget => True
  | .shmat shm | .read shm => k.get .shm = some shm
  | .kill shm q => k.get .shm = some shm ∧ (q = 0 ∨ q ∈ dead)
  | .msgget shm ids rest => k.get .shm = some shm ∧ ids ++ rest.map k.get = queues.map k.get
  | .msgctl shm ids => k.get .shm = some shm ∧ ∃ done rest, queues = done ++ rest ∧
      ids = rest.map k.get ∧ ∀ o ∈ done, k.get o = none
  | .semget shm => k.get .shm = some shm ∧ ∀ o ∈ queues, k.get o = none
  | .semctl shm sem => k.get .shm = some shm ∧ k.get .sem = some sem ∧ ∀ o ∈ queues, k.get o = none
  | .shmctl shm => k.get .shm = some shm ∧ ∀ o, o ≠ .shm → k.get o = none

def StalePc.rank : StalePc → Nat
  | .shmget => 40
  | .shmat _ => 39
  | .read _ => 38
  | .kill _ _ => 37
  | .msgget _ ids rest => 21 + ids.length + 2 * rest.length
  | .msgctl _ ids => 20 + ids.length
  | .semget _ => 19
  | .semctl _ _ => 18
  | .shmctl _ => 17

inductive StaleNext (dead : List Nat) (n : Nat) (k : Kernel) : MainPc → Prop
  | more {c : StalePc} (fits : StaleFits k dead c) (rank : c.rank < n) : StaleNext dead n k (.stale c)
  | done (free : ∀ o, k.get o = none) : StaleNext dead n k (.create .shmget)

/-- Removing a queue or the set keeps the segment. -/
theorem segment_kept {shm id : Nat} (hshm : k.get .shm = some shm) (ho : k.get o = some id)
    (hne : o ≠ .shm) : (k.rmid id).get .shm = some shm := by
  rw [← hshm]
  exact Lib.Registry.remove_ne ho (Ne.symm hne)

theorem segment_last {shm : Nat} (h : k.get .shm = some shm) : SegmentLast k := by
  intro o _
  simp [h]

/-- One queue more is gone. -/
theorem done_snoc {done : List Obj} (hdone : ∀ o ∈ done, k.get o = none) (ho : k.get o = none) :
    ∀ o' ∈ done ++ [o], k.get o' = none := by
  intro o' ho'
  rcases List.mem_append.mp ho' with ho' | ho'
  · exact hdone o' ho'
  · rw [List.mem_singleton.mp ho']
    exact ho

theorem only_segment (hsem : k.get .sem = none) (hqueues : ∀ o ∈ queues, k.get o = none) :
    ∀ o, o ≠ .shm → k.get o = none := by
  intro o ho
  rcases obj_cases o with rfl | rfl | hq
  · exact absurd rfl ho
  · exact hsem
  · exact hqueues o hq

/-- The five queues are different objects, and neither the segment nor the set. -/
theorem queue_split {done rest : List Obj} (hq : queues = done ++ o :: rest) :
    o ∉ done ∧ o ∉ rest ∧ o ≠ .shm ∧ o ≠ .sem := by
  have hmem : o ∈ queues := by simp [hq]
  have hnodup : queues.Nodup := by decide
  rw [hq] at hnodup
  obtain ⟨-,hright,hdisj⟩ := List.nodup_append.mp hnodup
  refine ⟨?_,(List.nodup_cons.mp hright).1,?_,?_⟩
  · intro hin
    exact hdisj o hin o List.mem_cons_self rfl
  · rintro rfl
    simp [queues] at hmem
  · rintro rfl
    simp [queues] at hmem

/-- The loop of `ipc_cleanup_stale` has removed one more queue. -/
theorem queue_removed {shm id : Nat} {done rest : List Obj} (hshm : k.get .shm = some shm)
    (hq : queues = done ++ o :: rest) (hget : k.get o = some id) (hdone : ∀ o ∈ done, k.get o = none) :
    (k.rmid id).get .shm = some shm ∧ StaleFits (k.rmid id) dead (.msgctl shm (rest.map k.get)) := by
  obtain ⟨-,hnot,hne,-⟩ := queue_split hq
  have hkept := segment_kept hshm hget hne
  refine ⟨hkept,hkept,done ++ [o],rest,by simp [hq],?_,?_⟩
  · apply List.map_congr_left
    intro o' ho'
    refine (Lib.Registry.remove_ne hget ?_).symm
    rintro rfl
    exact hnot ho'
  · exact done_snoc (fun o' ho' => (rmid_shrinks k id).gone (hdone o' ho')) (Lib.Registry.remove_gone hget)

/-- One step of `ipc_cleanup_stale` on what a crash has left. -/
theorem stale_step {alive : Nat → Bool} {c : StalePc} {y : Bool} (h : Leftover k dead)
    (hc : StaleFits k dead c) (hdead : ∀ q ∈ dead, alive q = false) :
    Shrinks k (ipcCleanupStale alive k y c).1 ∧ SegmentLast (ipcCleanupStale alive k y c).1 ∧
      StaleNext dead c.rank (ipcCleanupStale alive k y c).1 (ipcCleanupStale alive k y c).2 := by
  cases c with
  | shmget =>
    simp only [ipcCleanupStale]
    split
    · rename_i hnone
      refine ⟨.refl k,h.segment,.done ?_⟩
      intro o
      by_contra ho
      exact h.segment o ho hnone
    · rename_i shm hshm
      exact ⟨.refl k,h.segment,.more hshm (by simp [StalePc.rank])⟩
  | shmat shm =>
    have hshm : k.get .shm = some shm := hc
    simp only [ipcCleanupStale,hshm,true_or,if_true]
    exact ⟨.refl k,h.segment,.more hshm (by simp [StalePc.rank])⟩
  | read shm => exact ⟨.refl k,h.segment,.more ⟨hc,h.mainPid hc⟩ (by simp [StalePc.rank])⟩
  | kill shm q =>
    have hstale : ¬(0 < q ∧ alive q = true) := by
      rintro ⟨hpos,halive⟩
      rcases hc.2 with rfl | hq
      · exact absurd hpos (Nat.lt_irrefl 0)
      · rw [hdead q hq] at halive
        cases halive
    simp only [ipcCleanupStale,hstale,if_false]
    exact ⟨.refl k,h.segment,.more ⟨hc.1,rfl⟩ (by simp [StalePc.rank,queues])⟩
  | msgget shm ids rest =>
    cases rest with
    | nil =>
      have hids : ids = queues.map k.get := by simpa using hc.2
      exact ⟨.refl k,h.segment,.more ⟨hc.1,[],queues,rfl,hids,by simp⟩ (by simp [StalePc.rank])⟩
    | cons o rest =>
      have hids : (ids ++ [k.get o]) ++ rest.map k.get = queues.map k.get := by simpa using hc.2
      refine ⟨.refl k,h.segment,.more ⟨hc.1,hids⟩ ?_⟩
      simp only [StalePc.rank,List.length_append,List.length_cons,List.length_nil]
      omega
  | msgctl shm ids =>
    obtain ⟨hshm,done,rest,hq,rfl,hdone⟩ := hc
    cases rest with
    | nil =>
      refine ⟨.refl k,h.segment,.more ⟨hshm,?_⟩ (by simp [StalePc.rank])⟩
      rw [hq,List.append_nil]
      exact hdone
    | cons o rest =>
      cases hget : k.get o with
      | none =>
        simp only [List.map_cons,hget]
        exact ⟨.refl k,h.segment,.more ⟨hshm,done ++ [o],rest,by simp [hq],rfl,done_snoc hdone hget⟩
          (by simp [StalePc.rank])⟩
      | some id =>
        obtain ⟨hkept,hfits⟩ := queue_removed hshm hq hget hdone
        simp only [List.map_cons,hget]
        exact ⟨rmid_shrinks k id,segment_last hkept,.more hfits (by simp [StalePc.rank])⟩
  | semget shm =>
    simp only [ipcCleanupStale]
    split
    · rename_i hnone
      exact ⟨.refl k,h.segment,.more ⟨hc.1,only_segment hnone hc.2⟩ (by simp [StalePc.rank])⟩
    · rename_i sem hsem
      exact ⟨.refl k,h.segment,.more ⟨hc.1,hsem,hc.2⟩ (by simp [StalePc.rank])⟩
  | semctl shm sem =>
    obtain ⟨hshm,hsem,hqueues⟩ := hc
    have hkept := segment_kept hshm hsem (by decide)
    have hgone : (k.rmid sem).get .sem = none := Lib.Registry.remove_gone hsem
    have hothers := only_segment hgone (fun o ho => (rmid_shrinks k sem).gone (hqueues o ho))
    exact ⟨rmid_shrinks k sem,segment_last hkept,.more ⟨hkept,hothers⟩ (by simp [StalePc.rank])⟩
  | shmctl shm =>
    have hgone : ∀ o, (k.rmid shm).get o = none := by
      intro o
      by_cases ho : o = .shm
      · subst ho
        exact Lib.Registry.remove_gone hc.1
      · exact (rmid_shrinks k shm).gone (hc.2 o ho)
    refine ⟨rmid_shrinks k shm,?_,.done hgone⟩
    intro o ho
    exact absurd (hgone o) ho

/-- Exactly the objects in `os` exist, none older than the id `b`, and `res` has their ids. -/
structure Made (b : Nat) (k : Kernel) (res : IPCResources) (os : List Obj) : Prop where
  there : ∀ o ∈ os, ∃ id, k.get o = some id ∧ res.id o = some id ∧ b ≤ id
  free : ∀ o, o ∉ os → k.get o = none ∧ res.id o = none
  state : res.state = none ∨ res.state = res.id .shm

def CreateFits (b : Nat) (k : Kernel) (res : IPCResources) : CreatePc → Prop
  | .shmget => Made b k res []
  | .shmat => Made b k res [.shm]
  | .zero | .semget => Made b k res [.shm] ∧ res.state ≠ none
  | .setall => Made b k res [.sem,.shm] ∧ res.state ≠ none
  | .msgget rest => ∃ done, queues = done ++ rest ∧ Made b k res (done.reverse ++ [.sem,.shm]) ∧
      res.state ≠ none
  | .init => Made b k res (queues.reverse ++ [.sem,.shm]) ∧ res.state ≠ none
  | .cleanup _ => False

def CreatePc.rank : CreatePc → Nat
  | .shmget => 16
  | .shmat => 15
  | .zero => 14
  | .semget => 13
  | .setall => 12
  | .msgget rest => 5 + rest.length
  | .init => 4
  | .cleanup _ => 0

inductive CreateNext (b n : Nat) (k : Kernel) (res : IPCResources) : MainPc → Prop
  | more {c : CreatePc} (fits : CreateFits b k res c) (rank : c.rank < n) :
      CreateNext b n k res (.create c)
  | done (made : Made b k res (queues.reverse ++ [.sem,.shm])) (state : res.state ≠ none) :
      CreateNext b n k res .timeInit

theorem Made.create {os : List Obj} (h : Made b k res os) (ho : o ∉ os) (hb : b ≤ k.objects.next)
    (hstate : o = .shm → res.state = none) :
    ∃ id k', k.create o = some (id,k') ∧ Made b k' (res.setId o (some id)) (o :: os) ∧
      k'.objects.next = k.objects.next + 1 ∧ (k'.get .shm = k.get .shm ∨ o = .shm) ∧
      (∀ shm, k'.get .shm = some shm → k'.mainPid shm = 0 ∨
        k.get .shm = some shm ∧ k'.mainPid shm = k.mainPid shm) := by
  have hfree := (h.free o ho).1
  refine ⟨k.objects.next,⟨k.objects.add o,Function.update k.mainPid k.objects.next 0⟩,?_,?_,rfl,?_,?_⟩
  · simp [Kernel.create,Lib.Registry.create_free hfree]
  · refine ⟨?_,?_,?_⟩
    · intro o' ho'
      by_cases he : o' = o
      · subst he
        exact ⟨k.objects.next,by simp [Kernel.get],by simp [IPCResources.setId],hb⟩
      · obtain ⟨id,h1,h2,h3⟩ := h.there o' ((List.mem_cons.mp ho').resolve_left he)
        exact ⟨id,by simpa [Kernel.get,he] using h1,by simpa [IPCResources.setId,he] using h2,h3⟩
    · intro o' ho'
      rw [List.mem_cons,not_or] at ho'
      obtain ⟨h1,h2⟩ := h.free o' ho'.2
      exact ⟨by simpa [Kernel.get,ho'.1] using h1,by simpa [IPCResources.setId,ho'.1] using h2⟩
    · by_cases he : o = .shm
      · exact .inl (hstate he)
      · simpa [IPCResources.setId,Ne.symm he] using h.state
  · by_cases he : o = .shm
    · exact .inr he
    · exact .inl (by simp [Kernel.get,Ne.symm he])
  · intro shm hshm
    by_cases hnew : shm = k.objects.next
    · exact .inl (by simp [hnew])
    · refine .inr ⟨?_,by simp [hnew]⟩
      by_cases he : o = .shm
      · subst he
        simp [Kernel.get] at hshm
        exact absurd hshm.symm hnew
      · simpa [Kernel.get,Ne.symm he] using hshm

structure CreateStep (b n : Nat) (dead : List Nat) (k : Kernel) (q : Kernel × IPCResources × MainPc) :
    Prop where
  left : Leftover q.1 dead
  grows : k.objects.next ≤ q.1.objects.next
  next : CreateNext b n q.1 q.2.1 q.2.2

/-- The segment is made first, so nothing exists without it. -/
theorem create_object {os : List Obj} {c : CreatePc} {n : Nat} (h : Leftover k dead)
    (hm : Made b k res os) (ho : o ∉ os) (hb : b ≤ k.objects.next)
    (hshm : o = .shm ∧ res.state = none ∨ o ≠ .shm ∧ .shm ∈ os)
    (hfits : ∀ k' id, Made b k' (res.setId o (some id)) (o :: os) →
      CreateFits b k' (res.setId o (some id)) c) (hrank : c.rank < n) :
    CreateStep b n dead k (createObject k res o c) := by
  have hstate : o = .shm → res.state = none := by
    intro he
    rcases hshm with ⟨-,hs⟩ | ⟨hne,-⟩
    · exact hs
    · exact absurd he hne
  obtain ⟨id,k',hcreate,hmade,hnext,-,hpid⟩ := hm.create ho hb hstate
  simp only [createObject,hcreate]
  have hmem : .shm ∈ o :: os := by
    rcases hshm with ⟨rfl,-⟩ | ⟨-,hs⟩
    · exact List.mem_cons_self
    · exact List.mem_cons_of_mem _ hs
  obtain ⟨shm,hget,-,-⟩ := hmade.there .shm hmem
  refine ⟨⟨segment_last hget,?_⟩,by simp [hnext],.more (hfits k' id hmade) hrank⟩
  intro shm' hshm'
  rcases hpid shm' hshm' with hz | ⟨hold,hsame⟩
  · exact .inl hz
  · rw [hsame]
    exact h.mainPid hold

theorem create_step {c : CreatePc} {y : Bool} (h : Leftover k dead) (hc : CreateFits b k res c)
    (hb : b ≤ k.objects.next) : CreateStep b c.rank dead k (ipcCreate k res y c) := by
  cases c with
  | shmget =>
    have hm : Made b k res [] := hc
    have hstate : res.state = none := by
      rcases hm.state with hs | hs
      · exact hs
      · rw [hs]
        exact (hm.free .shm (by simp)).2
    exact create_object h hm (by simp) hb (.inl ⟨rfl,hstate⟩) (fun _ _ hm' => hm') (by simp [CreatePc.rank])
  | shmat =>
    have hm : Made b k res [.shm] := hc
    obtain ⟨shm,hget,hid,-⟩ := hm.there .shm (by simp)
    simp only [ipcCreate,hget,hid,true_or,if_true]
    refine ⟨h,Nat.le_refl _,.more ⟨⟨hm.there,hm.free,.inr hid.symm⟩,by simp⟩ (by simp [CreatePc.rank])⟩
  | zero =>
    obtain ⟨hm,hstate⟩ := hc
    obtain ⟨shm,hshm⟩ := Option.ne_none_iff_exists'.mp hstate
    simp only [ipcCreate,hshm]
    refine ⟨⟨h.segment,?_⟩,Nat.le_refl _,.more ⟨⟨hm.there,hm.free,hm.state⟩,hstate⟩ (by simp [CreatePc.rank])⟩
    intro shm' hget
    by_cases he : shm' = shm
    · exact .inl (by simp [Kernel.storePid,he])
    · simpa [Kernel.storePid,he] using h.mainPid hget
  | semget =>
    refine create_object h hc.1 (by simp) hb (.inr (by simp)) ?_ (by simp [CreatePc.rank])
    intro k' id hm'
    exact ⟨hm',hc.2⟩
  | setall =>
    obtain ⟨sem,hget,hid,-⟩ := hc.1.there .sem (by simp)
    simp only [ipcCreate,hget,hid,if_true]
    exact ⟨h,Nat.le_refl _,.more ⟨[],rfl,hc.1,hc.2⟩ (by simp [CreatePc.rank,queues])⟩
  | msgget rest =>
    obtain ⟨done,hq,hm,hstate⟩ := hc
    cases rest with
    | nil =>
      rw [List.append_nil] at hq
      subst hq
      exact ⟨h,Nat.le_refl _,.more ⟨hm,hstate⟩ (by simp [CreatePc.rank])⟩
    | cons o rest =>
      obtain ⟨hdone,-,hne,hsem⟩ := queue_split hq
      have hnot : o ∉ done.reverse ++ [Obj.sem,.shm] := by simp [hdone,hne,hsem]
      refine create_object h hm hnot hb (.inr ⟨hne,by simp⟩) ?_ (by simp [CreatePc.rank])
      intro k' id hm'
      exact ⟨done ++ [o],by simp [hq],by simpa using hm',hstate⟩
  | init => exact ⟨h,Nat.le_refl _,.done hc.1 hc.2⟩
  | cleanup r => exact absurd hc not_false

def ProgramFits (k : Kernel) : MainPc → Prop
  | .sigaction _ | .spawn | .loop | .waitForWorkers | .report => True
  | .shutdown r => Undoing k shutdownWorkers r
  | .destroy r => Undoing k ipcDestroy r
  | .exited status => status = 0 ∧ ∀ o, k.get o = none
  | _ => False

theorem ProgramFits.mono {pc : MainPc} (h : ProgramFits k pc) (hs : Shrinks k k') :
    ProgramFits k' pc := by
  cases pc with
  | shutdown r | destroy r => exact Undoing.mono h hs
  | exited status => exact ⟨h.1,fun o => hs.gone (h.2 o)⟩
  | _ => exact h

inductive Fits (b : Nat) (dead : List Nat) (k : Kernel) (p : Main) : Prop
  | stale {c : StalePc} (pc : p.pc = .stale c) (idle : p.installed = [] ∧ p.frames = [])
      (left : Leftover k dead) (fits : StaleFits k dead c) (blank : p.res = .init)
  | create {c : CreatePc} (pc : p.pc = .create c) (idle : p.installed = [] ∧ p.frames = [])
      (left : Leftover k dead) (fits : CreateFits b k p.res c)
  | made (pc : p.pc = .timeInit ∨ p.pc = .storePid) (idle : p.installed = [] ∧ p.frames = [])
      (left : Leftover k dead) (made : Made b k p.res (queues.reverse ++ [.sem,.shm]))
      (state : p.res.state ≠ none)
  | live (fits : ProgramFits k p.pc) (left : Leftover k (p.pid :: dead)) (known : Known k p.res)
      (frames : ∀ f ∈ p.frames, Undoing k ipcCleanupSignalSafe f.2)

theorem Leftover.cons {pid : Nat} (h : Leftover k dead) : Leftover k (pid :: dead) := by
  refine ⟨h.segment,?_⟩
  intro shm hshm
  rcases h.mainPid hshm with hz | hd
  · exact .inl hz
  · exact .inr (List.mem_cons_of_mem _ hd)

/-- Wherever it is killed, an instance leaves what the next one can clean up. -/
theorem Fits.leftover {p : Main} (h : Fits b dead k p) : Leftover k (p.pid :: dead) := by
  cases h with
  | stale _ _ left _ _ => exact left.cons
  | create _ _ left _ => exact left.cons
  | made _ _ left _ _ => exact left.cons
  | live _ left _ _ => exact left

theorem covers_all : ∀ o : Obj, o ∈ queues.reverse ++ [Obj.sem,.shm] := by
  intro o
  cases o <;> decide

theorem Made.complete {p : Main} (h : Made b k p.res (queues.reverse ++ [.sem,.shm])) :
    Complete b k p := fun o => h.there o (covers_all o)

/-- The kernel and the ids after `ipc_create`. -/
theorem Made.known (h : Made b k res (queues.reverse ++ [.sem,.shm])) : Known k res := by
  have hid : ∀ {o id}, res.id o = some id → k.get o = some id := by
    intro o id hid
    obtain ⟨id',h1,h2,-⟩ := h.there o (covers_all o)
    rw [h2] at hid
    cases hid
    exact h1
  refine ⟨?_,fun h1 h2 => k.objects.inj (hid h1) (hid h2)⟩
  intro o id hget
  obtain ⟨id',h1,h2,-⟩ := h.there o (covers_all o)
  rw [h1] at hget
  cases hget
  exact h2

/-- All objects are gone at the end of `ipc_destroy`. -/
theorem destroyed (h : Undoing k ipcDestroy r) (hr : r.todo = []) : ∀ o, k.get o = none := by
  intro o
  refine h.passed o ?_ (by simp [hr])
  cases o <;> decide

structure FitsStep (b : Nat) (dead : List Nat) (k : Kernel) (p : Main) (q : Kernel × Main) : Prop where
  fits : Fits b dead q.1 q.2
  grows : k.objects.next ≤ q.1.objects.next
  pid : q.2.pid = p.pid

/-- A step of `shutdown_workers` or of `ipc_destroy` in the program itself. -/
theorem Fits.remove {p : Main} {place : Removal → MainPc} {after : MainPc}
    (hleft : Leftover k (p.pid :: dead)) (hknown : Known k p.res) (hframes : p.frames = [])
    (hr : Undoing k l r) (hplace : ∀ k' r', Undoing k' l r' → ProgramFits k' (place r'))
    (hafter : r.todo = [] → ProgramFits k after) : FitsStep b dead k p (p.remove k r place after) := by
  unfold Main.remove
  split
  · rename_i hnil
    refine ⟨.live (hafter hnil) hleft hknown ?_,Nat.le_refl _,rfl⟩
    simp [Main.goto,hframes]
  · have hstep := removal_step hleft.segment hknown hr
    refine ⟨.live (hplace _ _ hstep.undoing) (hleft.mono hstep.shrinks hstep.segment) hstep.known ?_,
      Nat.le_of_eq hstep.shrinks.next.symm,rfl⟩
    simp [hframes]

/-- `ipc_cleanup_stale` in the program. -/
theorem Fits.cleanup {alive : Nat → Bool} {p : Main} {c : StalePc} (y : Bool)
    (idle : p.installed = [] ∧ p.frames = []) (left : Leftover k dead) (fits : StaleFits k dead c)
    (blank : p.res = .init) (hdead : ∀ q ∈ dead, alive q = false) :
    FitsStep b dead k p ((ipcCleanupStale alive k y c).1,p.goto (ipcCleanupStale alive k y c).2) := by
  obtain ⟨hshrinks,hsegment,hnext⟩ := stale_step (y := y) left fits hdead
  generalize ipcCleanupStale alive k y c = q at hshrinks hsegment hnext ⊢
  obtain ⟨k1,pc1⟩ := q
  have hleft := left.mono hshrinks hsegment
  refine ⟨?_,Nat.le_of_eq hshrinks.next.symm,rfl⟩
  cases hnext with
  | more hfits _ => exact .stale rfl idle hleft hfits blank
  | done hfree =>
    refine .create rfl idle hleft ⟨by simp,?_,.inl ?_⟩
    · intro o _
      simp only [Main.goto,blank]
      exact ⟨hfree o,rfl⟩
    · simp only [Main.goto,blank]
      rfl

theorem Fits.creating {p : Main} {c : CreatePc} (y : Bool) (idle : p.installed = [] ∧ p.frames = [])
    (left : Leftover k dead) (fits : CreateFits b k p.res c) (hb : b ≤ k.objects.next) :
    FitsStep b dead k p ((ipcCreate k p.res y c).1,
      { p with res := (ipcCreate k p.res y c).2.1, pc := (ipcCreate k p.res y c).2.2 }) := by
  obtain ⟨hleft,hgrows,hnext⟩ := create_step (y := y) left fits hb
  generalize ipcCreate k p.res y c = q at hleft hgrows hnext ⊢
  obtain ⟨k1,res1,pc1⟩ := q
  refine ⟨?_,hgrows,rfl⟩
  cases hnext with
  | more hfits _ => exact .create rfl idle hleft hfits
  | done hmade hstate => exact .made (.inl rfl) idle hleft hmade hstate

/-- `main_pid` is stored. -/
theorem Fits.claimed {p : Main} {shm : Nat} (left : Leftover k dead)
    (made : Made b k p.res (queues.reverse ++ [.sem,.shm])) (hframes : p.frames = []) : FitsStep b dead k p (k.storePid shm p.pid,
      { p with pc := .sigaction [.int,.term], gMainPid := p.pid }) := by
  refine ⟨.live trivial ⟨left.segment,?_⟩ ⟨made.known.id,made.known.distinct⟩ ?_,Nat.le_refl _,rfl⟩
  · intro shm' hshm'
    by_cases he : shm' = shm
    · exact .inr (by simp [Kernel.storePid,he])
    · simpa [Kernel.storePid,he] using left.cons.mainPid hshm'
  · simp [hframes]

/-- One step of the program of an instance. -/
theorem Fits.program {alive : Nat → Bool} {p p' : Main} {y : Bool} (h : Fits b dead k p)
    (hf : p.frames = []) (hdead : ∀ q ∈ dead, alive q = false) (hb : b ≤ k.objects.next)
    (hs : p.program alive k y = some (k',p')) : FitsStep b dead k p (k',p') := by
  cases h with
  | stale pc idle left fits blank =>
    simp only [Main.program,pc,Option.some.injEq] at hs
    rw [← hs]
    exact Fits.cleanup y idle left fits blank hdead
  | create pc idle left fits =>
    simp only [Main.program,pc,Option.some.injEq] at hs
    rw [← hs]
    exact Fits.creating y idle left fits hb
  | made pc idle left made state =>
    rcases pc with pc | pc
    · simp only [Main.program,pc,Option.some.injEq] at hs
      rw [← hs]
      exact ⟨.made (.inr rfl) idle left made state,Nat.le_refl _,rfl⟩
    · obtain ⟨shm,hshm⟩ := Option.ne_none_iff_exists'.mp state
      simp only [Main.program,pc,hshm,Option.some.injEq] at hs
      rw [← hs]
      exact Fits.claimed left made idle.2
  | live fits left known frames =>
    -- A step that removes nothing.
    have hstay : ∀ q : Main, q.res = p.res → q.pid = p.pid → q.frames = p.frames →
        ProgramFits k q.pc → FitsStep b dead k p (k,q) := by
      intro q hres hpid hframes hq
      refine ⟨.live hq ?_ ?_ ?_,Nat.le_refl _,hpid⟩
      · rw [hpid]
        exact left
      · rw [hres]
        exact known
      · rw [hframes]
        exact frames
    cases hpc : p.pc <;> simp only [hpc,ProgramFits] at fits
    case sigaction rest =>
      cases rest <;> simp only [Main.program,hpc,Option.some.injEq] at hs <;> rw [← hs]
      all_goals exact hstay _ rfl rfl rfl trivial
    case spawn | waitForWorkers =>
      simp only [Main.program,hpc,Option.some.injEq] at hs
      rw [← hs]
      exact hstay _ rfl rfl rfl trivial
    case report =>
      simp only [Main.program,hpc,Option.some.injEq] at hs
      rw [← hs]
      exact hstay _ rfl rfl rfl (Undoing.start (by decide) (by decide))
    case loop =>
      simp only [Main.program,hpc] at hs
      split at hs <;> rw [← Option.some.inj hs]
      · exact hstay _ rfl rfl rfl (Undoing.start (by decide) (by decide))
      · exact hstay _ rfl rfl rfl (by simp [hpc,ProgramFits])
    case shutdown r =>
      simp only [Main.program,hpc,Option.some.injEq] at hs
      rw [← hs]
      exact Fits.remove left known hf fits (fun _ _ hr => hr) (fun _ => trivial)
    case destroy r =>
      simp only [Main.program,hpc,Option.some.injEq] at hs
      rw [← hs]
      exact Fits.remove left known hf fits (fun _ _ hr => hr) (fun hr => ⟨rfl,destroyed fits hr⟩)
    case exited => simp [Main.program,hpc] at hs

/-- One step of an instance, in a handler or outside. -/
theorem Fits.step {alive : Nat → Bool} {p p' : Main} {y : Bool} (h : Fits b dead k p)
    (hdead : ∀ q ∈ dead, alive q = false) (hb : b ≤ k.objects.next)
    (hs : p.step alive k y = some (k',p')) : FitsStep b dead k p (k',p') := by
  unfold Main.step at hs
  split at hs
  · rename_i hf
    exact h.program hf hdead hb hs
  · rename_i sig r fs hf
    cases h with
    | stale _ idle _ _ _ | create _ idle _ _ | made _ idle _ _ _ =>
      rw [hf] at idle
      cases idle.2
    | live fits left known frames =>
      have hrest : ∀ g ∈ fs, Undoing k ipcCleanupSignalSafe g.2 := by
        intro g hg
        exact frames g (by simp [hf,hg])
      split at hs
      · rw [← Option.some.inj hs]
        exact ⟨.live fits left known hrest,Nat.le_refl _,rfl⟩
      · have hstep := removal_step left.segment known (frames (sig,r) (by simp [hf]))
        rw [← Option.some.inj hs]
        refine ⟨.live (fits.mono hstep.shrinks) (left.mono hstep.shrinks hstep.segment) hstep.known ?_,
          Nat.le_of_eq hstep.shrinks.next.symm,rfl⟩
        intro g hg
        rcases List.mem_cons.mp hg with rfl | hg
        · exact hstep.undoing
        · exact (hrest g hg).mono hstep.shrinks

/-- A handler is entered. -/
theorem Fits.interrupted {p : Main} {sig : TermSignal} (h : Fits b dead k p) (hi : sig ∈ p.installed) :
    Fits b dead k (p.sigtermHandler sig) ∧ (p.sigtermHandler sig).pid = p.pid := by
  cases h with
  | stale _ idle _ _ _ | create _ idle _ _ | made _ idle _ _ _ =>
    rw [idle.1] at hi
    cases hi
  | live fits left known frames =>
    unfold Main.sigtermHandler
    split
    · exact ⟨.live fits left known frames,rfl⟩
    · refine ⟨.live fits left known ?_,rfl⟩
      intro g hg
      rcases List.mem_cons.mp hg with rfl | hg
      · exact .start (by decide) (by decide)
      · exact frames g hg

variable {n : Nat} {m m' : Machine} {e : Event} {tr : List (Machine × Event)}

structure Sound (b : Nat) (m : Machine) : Prop where
  born : b ≤ m.kernel.objects.next
  idle : m.current = none → Leftover m.kernel m.dead
  busy : ∀ p, m.current = some p → p.pid ∉ m.dead ∧ Fits b m.dead m.kernel p

theorem Sound.bury {p : Main} (h : Sound b m) (hp : m.current = some p) : Sound b (m.bury p) := by
  refine ⟨h.born,fun _ => (h.busy p hp).2.leftover,?_⟩
  intro q hq
  cases hq

/-- Dead instances stay dead. -/
theorem Sound.buried {p : Main} (h : Sound b m) (hp : m.current = some p) :
    ∀ q ∈ m.dead, m.alive q = false := by
  intro q hq
  have hne : p.pid ≠ q := by
    rintro rfl
    exact (h.busy p hp).1 hq
  simp [Machine.alive,hp,hne]

theorem Sound.step (h : Sound b m) (hs : m.step e = some m') : Sound (noteStart b m e) m' := by
  cases e with
  | start pid =>
    simp only [Machine.step] at hs
    split at hs
    · rename_i hok
      cases hs
      refine ⟨Nat.le_refl _,by simp,?_⟩
      intro p hp
      cases hp
      exact ⟨hok.2.2,.stale rfl ⟨rfl,rfl⟩ (h.idle (by simpa using hok.1)) trivial rfl⟩
    · cases hs
  | main y =>
    obtain ⟨p,hp,hs⟩ := Option.bind_eq_some_iff.mp hs
    obtain ⟨⟨k1,p1⟩,hstep,rfl⟩ := Option.map_eq_some_iff.mp hs
    obtain ⟨hnot,hfits⟩ := h.busy p hp
    obtain ⟨hf,hgrows,hpid⟩ := hfits.step (h.buried hp) h.born hstep
    refine ⟨Nat.le_trans h.born hgrows,by simp,?_⟩
    intro q hq
    cases hq
    exact ⟨by rw [hpid]; exact hnot,hf⟩
  | signal sig =>
    obtain ⟨p,hp,hs⟩ := Option.bind_eq_some_iff.mp hs
    obtain ⟨hnot,hfits⟩ := h.busy p hp
    simp only [Machine.signal] at hs
    split at hs
    · rename_i hi
      split at hs
      · cases hs
      · cases hs
        obtain ⟨hf,hpid⟩ := hfits.interrupted hi
        refine ⟨h.born,by simp,?_⟩
        intro q hq
        cases hq
        exact ⟨by rw [hpid]; exact hnot,hf⟩
    · cases hs
      exact h.bury hp
  | sigkill =>
    obtain ⟨p,hp,rfl⟩ := Option.map_eq_some_iff.mp hs
    exact h.bury hp
  | reap =>
    obtain ⟨p,hp,hs⟩ := Option.bind_eq_some_iff.mp hs
    split at hs
    · cases hs
      exact h.bury hp
    · cases hs

theorem init_sound (n : Nat) : Sound n (.init n) := by
  refine ⟨Nat.le_refl _,?_,by simp [Machine.init]⟩
  intro _
  exact ⟨fun o ho => absurd rfl ho,by simp [Machine.init,Kernel.get,Lib.Registry.empty]⟩

abbrev Life (n : Nat) (tr : List (Machine × Event)) (m : Machine) : Prop :=
  Lib.Run Machine.step always (.init n) tr m

theorem life_sound (h : Life n tr m) : Sound (startedAt n tr) m := by
  refine h.invariant (fun tr m => Sound (startedAt n tr) m) (init_sound n) ?_
  intro tr m e m' hi _ hs
  simpa [startedAt] using hi.step hs

/-! ### The next instance -/

def MainPc.boot : MainPc → Option Nat
  | .stale c => some c.rank
  | .create c => some c.rank
  | _ => none

theorem main_step {p q : Main} {y : Bool} (hp : m.current = some p) (hf : p.frames = [])
    (hs : p.program m.alive m.kernel y = some (k,q)) :
    m.step (.main y) = some { m with kernel := k, current := some q } := by
  simp [Machine.step,hp,Main.step_calm hf,hs]

theorem stale_rank (c : StalePc) : CreatePc.rank .shmget < c.rank := by
  cases c <;> simp only [StalePc.rank,CreatePc.rank] <;> omega

/-- An instance that starts makes its next step and comes closer to the end. -/
theorem boot_step {p : Main} {d : Nat} (h : Sound b m) (hp : m.current = some p)
    (hd : p.pc.boot = some d) : ∃ m' p', m.step (.main false) = some m' ∧ m'.current = some p' ∧
      (p'.pc = .timeInit ∨ ∃ d' < d, p'.pc.boot = some d') := by
  cases (h.busy p hp).2 with
  | @stale c pc idle left fits blank =>
    have hnext := (stale_step (y := false) left fits (h.buried hp)).2.2
    refine ⟨_,_,main_step hp idle.2 (by simp only [Main.program,pc]; rfl),rfl,?_⟩
    simp only [MainPc.boot,pc,Option.some.injEq] at hd
    simp only [Main.goto]
    rw [← hd]
    generalize (ipcCleanupStale m.alive m.kernel false c).2 = pc' at hnext ⊢
    cases hnext with
    | more _ hrank => exact .inr ⟨_,hrank,rfl⟩
    | done _ => exact .inr ⟨_,stale_rank c,rfl⟩
  | @create c pc idle left fits =>
    have hnext := (create_step (y := false) left fits h.born).next
    refine ⟨_,_,main_step hp idle.2 (by simp only [Main.program,pc]; rfl),rfl,?_⟩
    simp only [MainPc.boot,pc,Option.some.injEq] at hd
    dsimp only
    rw [← hd]
    generalize (ipcCreate m.kernel p.res false c).2.2 = pc' at hnext ⊢
    cases hnext with
    | more _ hrank => exact .inr ⟨_,hrank,rfl⟩
    | done _ _ => exact .inl rfl
  | made pc _ _ _ _ => rcases pc with pc | pc <;> simp [pc,MainPc.boot] at hd
  | live fits _ _ _ =>
    cases hpc : p.pc <;> simp [hpc,MainPc.boot] at hd
    all_goals simp [hpc,ProgramFits] at fits

/-- It gets to the end of `ipc_create`. -/
theorem boots {p : Main} {d : Nat} (h : Sound b m) (hp : m.current = some p)
    (hd : p.pc.boot = some d) (tr : List (Machine × Event)) : ∃ l tr' m' p',
      Lib.exec Machine.step always tr (List.replicate l (.main false)) m = some (tr',m') ∧
        m'.current = some p' ∧ p'.pc = .timeInit ∧ Sound b m' := by
  induction d using Nat.strongRecOn generalizing m p tr with
  | ind d ih =>
    obtain ⟨m1,p1,hstep,hp1,hnext⟩ := boot_step h hp hd
    have hsound : Sound b m1 := h.step hstep
    rcases hnext with hdone | ⟨d',hlt,hd'⟩
    · exact ⟨1,_,m1,p1,Lib.exec_cons rfl hstep rfl,hp1,hdone,hsound⟩
    · obtain ⟨l,tr',m',p',hl,hp',hpc,hs'⟩ := ih d' hlt hsound hp1 hd' (tr ++ [(m,.main false)])
      exact ⟨l + 1,_,m',p',Lib.exec_cons rfl hstep hl,hp',hpc,hs'⟩

theorem Fits.complete {p : Main} (h : Fits b dead k p) (hpc : p.pc = .timeInit) : Complete b k p := by
  cases h with
  | made _ _ _ made _ => exact made.complete
  | stale pc _ _ _ _ | create pc _ _ _ =>
    rw [hpc] at pc
    cases pc
  | live fits _ _ _ =>
    rw [hpc] at fits
    exact absurd fits not_false

/-- `ipc_create` does not fail. -/
theorem Fits.no_cleanup {p : Main} (h : Fits b dead k p) (r : Removal) :
    p.pc ≠ .create (.cleanup r) := by
  intro hpc
  cases h with
  | stale pc _ _ _ _ =>
    rw [hpc] at pc
    cases pc
  | create pc _ _ fits =>
    rw [hpc] at pc
    cases pc
    exact fits
  | made pc _ _ _ _ => rcases pc with pc | pc <;> simp [hpc] at pc
  | live fits _ _ _ => simp [hpc,ProgramFits] at fits

/-- An instance that has returned has left nothing. -/
theorem Fits.returned {p : Main} {status : Nat} (h : Fits b dead k p) (hpc : p.pc = .exited status) :
    status = 0 ∧ ∀ o, k.get o = none := by
  cases h with
  | stale pc _ _ _ _ | create pc _ _ _ =>
    rw [hpc] at pc
    cases pc
  | made pc _ _ _ _ => rcases pc with pc | pc <;> simp [hpc] at pc
  | live fits _ _ _ =>
    rw [hpc] at fits
    exact fits

/-- A new instance recovers from any crash. -/
theorem recovers (h : Life n tr m) : Recovers n tr m := by
  have hs := life_sound h
  refine ⟨?_,?_,?_,?_⟩
  · cases hc : m.current with
    | none => exact (hs.idle hc).segment
    | some p => exact (hs.busy p hc).2.leftover.segment
  · intro p hp
    have hfits := (hs.busy p hp).2
    refine ⟨?_,hfits.no_cleanup,hfits.complete⟩
    intro hpc
    exact absurd (hfits.returned hpc).1 (by decide)
  · intro hnone pid hpos hnew
    have hstart : m.step (.start pid) = some { m with current := some (.init pid) } := by
      simp [Machine.step,hnone,hpos,hnew]
    obtain ⟨l,tr',m',p,hl,hp,hpc,hsound⟩ := boots (hs.step hstart) rfl rfl (tr ++ [(m,.start pid)])
    exact ⟨l,(m,.start pid) :: tr',m',p,Lib.exec_cons rfl hstart hl,hp,hpc,(hsound.busy p hp).2.complete hpc⟩
  · intro p hp hpc
    exact ((hs.busy p hp).2.returned hpc).2

/-- The first instance is killed in its main loop while its handler removes the queues, the
second one while it cleans up. -/
def crashes : List Event :=
  .start 1 :: List.replicate 19 (.main false) ++ [.signal .term] ++ List.replicate 5 (.main false) ++
    [.sigkill, .start 2] ++ List.replicate 14 (.main false) ++ [.sigkill]

def oneQueue (m : Machine) : Bool :=
  m.current.isNone && queues.map m.kernel.get == [none, none, none, none, some 6]

theorem recovers_crashes : ∃ tr m, Life 0 tr m ∧ oneQueue m = true ∧ Recovers 0 tr m := by
  have hr : (Lib.exec Machine.step always [] crashes (.init 0)).any (fun p => oneQueue p.2) = true := by
    decide +kernel
  obtain ⟨tr,m,h,ht⟩ := Lib.exists_run crashes (fun _ m => oneQueue m) hr
  exact ⟨tr,m,h,ht,recovers h⟩

end Ropeway.Ipc
