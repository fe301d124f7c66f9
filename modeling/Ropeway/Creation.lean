import Ropeway.Ipc
import Mathlib.Data.Fintype.Card
import Mathlib.Data.Set.BooleanAlgebra
import Mathlib.Order.CompletePartialOrder
import Mathlib.Logic.Relation

/-! `ipc_create` as one call with nothing else running beside it. Each of its system calls
may fail. The objects are those of the whole machine, and `keys` names the seven of the
simulation among them. -/

namespace Ropeway.Ipc

instance : Fintype Obj :=
  ⟨{.shm, .sem, .cashier, .platform, .boarding, .arrivals, .worker}, by intro o; cases o <;> decide⟩

namespace Alone

variable {κ : Type}

inductive Call
  | shmget | shmat | semget | setall
  | msgget (o : Obj)
  deriving DecidableEq, Repr

structure World (κ : Type) where
  objects : Lib.Registry κ
  res : IPCResources

def teardown (w : World κ) : Teardown → World κ
  | .shmdt => { w with res := { w.res with state := none } }
  | .rmid o =>
    match w.res.id o with
    | none => w
    | some id => ⟨w.objects.remove id, w.res.setId o none⟩

def destroy (w : World κ) : World κ := ipcDestroy.foldl teardown w

section Calls
variable [DecidableEq κ]

/-- `res->id = get(key, IPC_CREAT | IPC_EXCL | 0600)`: it fails when the key is taken, and
when `fails` says so. -/
def createId (keys : Obj ↪ κ) (fails : Bool) (o : Obj) (w : World κ) : Int × World κ :=
  match if fails then none else w.objects.create (keys o) with
  | none => (-1, { w with res := w.res.setId o none })
  | some (id,g) => (0, ⟨g, w.res.setId o (some id)⟩)

def ipcShmCreate (keys : Obj ↪ κ) (fails : Call → Bool) (w : World κ) : Int × World κ :=
  let r := createId keys (fails .shmget) .shm w
  if r.1 = -1 then (-1, r.2)
  else if fails .shmat then (-1, { r.2 with res := { r.2.res with state := none } })
  else (0, { r.2 with res := { r.2.res with state := r.2.res.id .shm } })

def ipcSemCreate (keys : Obj ↪ κ) (fails : Call → Bool) (w : World κ) : Int × World κ :=
  let r := createId keys (fails .semget) .sem w
  if r.1 = -1 then (-1, r.2)
  else if fails .setall then (-1, r.2)
  else (0, r.2)

def createQueues (keys : Obj ↪ κ) (fails : Call → Bool) : List Obj → World κ → Int × World κ
  | [], w => (0, w)
  | o :: rest, w =>
    let r := createId keys (fails (.msgget o)) o w
    if r.1 = -1 then (-1, r.2) else createQueues keys fails rest r.2

def ipcMqCreate (keys : Obj ↪ κ) (fails : Call → Bool) (w : World κ) : Int × World κ :=
  createQueues keys fails queues w

/-- `ipc_create`. What it writes into the segment does not matter here. -/
def ipcCreate (keys : Obj ↪ κ) (fails : Call → Bool) (w : World κ) : Int × World κ :=
  let shm := ipcShmCreate keys fails { w with res := .init }
  if shm.1 = -1 then (-1, destroy shm.2)
  else
    let sem := ipcSemCreate keys fails shm.2
    if sem.1 = -1 then (-1, destroy sem.2)
    else
      let mq := ipcMqCreate keys fails sem.2
      if mq.1 = -1 then (-1, destroy mq.2)
      else (0, mq.2)

end Calls

/-- The objects `l` have been created since the machine was `g`, and nothing else has
changed: each has its id in `res`, and the other ids are -1. -/
structure Created (keys : Obj ↪ κ) (g : Lib.Registry κ) (l : Finset Obj) (w : World κ) : Prop where
  made : ∀ o ∈ l, g.table (keys o) = none ∧ ∃ id, w.res.id o = some id ∧ w.objects.table (keys o) = some id
  unset : ∀ o, o ∉ l → w.res.id o = none
  kept : ∀ p, (∀ o ∈ l, keys o ≠ p) → w.objects.table p = g.table p

variable {keys : Obj ↪ κ} {g : Lib.Registry κ} {l : Finset Obj} {w : World κ} {o : Obj}

/-- The attached segment plays no part. -/
theorem Created.setState (h : Created keys g l w) (st : Option Nat) :
    Created keys g l { w with res := { w.res with state := st } } :=
  ⟨h.made,h.unset,h.kept⟩

theorem Created.free (h : Created keys g l w) (ho : o ∉ l) :
    w.objects.table (keys o) = g.table (keys o) := by
  apply h.kept
  intro o' ho' he
  rw [keys.injective he] at ho'
  exact ho ho'

/-- A block removes the object it names, if that has been created. -/
theorem Created.teardown (h : Created keys g l w) (t : Teardown) :
    ∃ l' ⊆ l, (∀ o, t = .rmid o → o ∉ l') ∧ Created keys g l' (teardown w t) := by
  cases t with
  | shmdt => exact ⟨l,subset_rfl,by simp,h.setState none⟩
  | rmid o =>
    refine ⟨l.erase o,Finset.erase_subset o l,by simp,?_⟩
    by_cases ho : o ∈ l
    · obtain ⟨hg,id,hid,ht⟩ := h.made o ho
      simp only [Alone.teardown,hid]
      refine ⟨?_,?_,?_⟩
      · intro o' ho'
        obtain ⟨hne,hmem⟩ := Finset.mem_erase.mp ho'
        obtain ⟨hg',id',hid',ht'⟩ := h.made o' hmem
        have hk : keys o' ≠ keys o := fun he => hne (keys.injective he)
        refine ⟨hg',id',by simp [IPCResources.setId,hne,hid'],?_⟩
        rw [Lib.Registry.remove_ne ht hk,ht']
      · intro o' ho'
        by_cases hoo : o' = o
        · simp [IPCResources.setId,hoo]
        · simpa [IPCResources.setId,hoo] using h.unset o' (fun hm => ho' (Finset.mem_erase.mpr ⟨hoo,hm⟩))
      · intro p hp
        by_cases hpo : p = keys o
        · rw [hpo,Lib.Registry.remove_gone ht,hg]
        · rw [Lib.Registry.remove_ne ht hpo]
          apply h.kept
          intro o' ho' he
          by_cases hoo : o' = o
          · exact hpo (hoo ▸ he.symm)
          · exact hp o' (Finset.mem_erase.mpr ⟨hoo,ho'⟩) he
    · simp only [Alone.teardown,h.unset o ho]
      rw [Finset.erase_eq_of_notMem ho]
      exact h

theorem Created.teardowns (ts : List Teardown) :
    ∀ {l w}, Created keys g l w → ∃ l' ⊆ l, (∀ o, .rmid o ∈ ts → o ∉ l') ∧
      Created keys g l' (ts.foldl Alone.teardown w) := by
  induction ts with
  | nil =>
    intro l w h
    exact ⟨l,subset_rfl,by simp,h⟩
  | cons t ts ih =>
    intro l w h
    obtain ⟨l₁,hl₁,hgone₁,h₁⟩ := h.teardown t
    obtain ⟨l₂,hl₂,hgone₂,h₂⟩ := ih h₁
    refine ⟨l₂,hl₂.trans hl₁,?_,h₂⟩
    intro o ho hmem
    rcases List.mem_cons.mp ho with ho | ho
    · exact hgone₁ o ho.symm (hl₂ hmem)
    · exact hgone₂ o ho hmem

/-- `shmdt` is one of the blocks, and no block attaches. -/
theorem state_gone (ts : List Teardown) (w : World κ) :
    (.shmdt ∈ ts ∨ w.res.state = none) → (ts.foldl teardown w).res.state = none := by
  induction ts generalizing w with
  | nil => simp
  | cons t ts ih =>
    intro h
    apply ih
    cases t with
    | shmdt => exact .inr rfl
    | rmid o =>
      rcases h with h | h
      · exact .inl (by simpa using h)
      · refine .inr ?_
        simp only [teardown]
        split
        · exact h
        · exact h

/-- After `ipc_destroy` the machine is as it was. -/
theorem Created.destroy (h : Created keys g l w) :
    (destroy w).objects.table = g.table ∧ (destroy w).res = .init := by
  obtain ⟨l',-,hgone,hc⟩ := h.teardowns ipcDestroy
  have hnil : ∀ o, o ∉ l' := by
    intro o
    apply hgone o
    cases o <;> decide
  constructor
  · funext p
    exact hc.kept p (fun o ho => absurd ho (hnil o))
  · have hid : (Alone.destroy w).res.id = fun _ => none := by
      funext o
      exact hc.unset o (hnil o)
    have hst : (Alone.destroy w).res.state = none := state_gone ipcDestroy w (.inl (by decide))
    calc (Alone.destroy w).res = ⟨(Alone.destroy w).res.id,(Alone.destroy w).res.state⟩ := rfl
      _ = .init := by rw [hid,hst]; rfl

def existing (g : Lib.Registry κ) : Set Nat := {id | ∃ p, g.table p = some id}

/-- With all seven created, the new ids are seven and none of them was in use. -/
theorem Created.seven (h : Created keys g Finset.univ w) :
    ∃ new : Finset Nat, new.card = 7 ∧ Disjoint (↑new) (existing g) ∧
      existing w.objects = existing g ∪ ↑new ∧
      ∀ o, ∃ id ∈ new, w.res.id o = some id ∧ w.objects.table (keys o) = some id := by
  have hid : ∀ o, ∃ id, w.res.id o = some id ∧ w.objects.table (keys o) = some id :=
    fun o => (h.made o (Finset.mem_univ o)).2
  choose f hres htab using hid
  have hinj : Function.Injective f := by
    intro o o' he
    apply keys.injective
    apply w.objects.inj (htab o)
    rw [he]
    exact htab o'
  have hold : ∀ {p id}, g.table p = some id → w.objects.table p = some id := by
    intro p id hp
    rw [h.kept p,hp]
    intro o _ he
    rw [← he,(h.made o (Finset.mem_univ o)).1] at hp
    cases hp
  refine ⟨Finset.univ.image f,?_,?_,?_,?_⟩
  · rw [Finset.card_image_of_injective _ hinj]
    rfl
  · rw [Set.disjoint_left]
    rintro id hmem ⟨p,hp⟩
    obtain ⟨o,-,rfl⟩ := Finset.mem_image.mp hmem
    -- The id would name an old object too, and that one would stand under a new key.
    have hpo : p = keys o := w.objects.inj (hold hp) (htab o)
    rw [hpo,(h.made o (Finset.mem_univ o)).1] at hp
    cases hp
  · ext id
    constructor
    · rintro ⟨p,hp⟩
      by_cases hkey : ∃ o, keys o = p
      · obtain ⟨o,rfl⟩ := hkey
        rw [htab o] at hp
        cases hp
        exact .inr (Finset.mem_image_of_mem f (Finset.mem_univ o))
      · rw [h.kept p (fun o _ he => hkey ⟨o,he⟩)] at hp
        exact .inl ⟨p,hp⟩
    · rintro (⟨p,hp⟩ | hmem)
      · exact ⟨p,hold hp⟩
      · obtain ⟨o,-,rfl⟩ := Finset.mem_image.mp hmem
        exact ⟨keys o,htab o⟩
  · intro o
    exact ⟨f o,Finset.mem_image_of_mem f (Finset.mem_univ o),hres o,htab o⟩

/-- On 0 there are seven objects more and none less, and `res` has their ids. On -1 the
objects are those there were before, all ids are -1 and `state` is `NULL`. -/
def AllOrNothing (keys : Obj ↪ κ) (g : Lib.Registry κ) (r : Int × World κ) : Prop :=
  (r.1 = 0 ∧ ∃ new : Finset Nat, new.card = 7 ∧ Disjoint (↑new) (existing g) ∧
    existing r.2.objects = existing g ∪ ↑new ∧
    ∀ o, ∃ id ∈ new, r.2.res.id o = some id ∧ r.2.objects.table (keys o) = some id) ∨
  (r.1 = -1 ∧ r.2.objects.table = g.table ∧ (∀ o, r.2.res.id o = none) ∧ r.2.res.state = none)

theorem Created.cleaned (h : Created keys g l w) : AllOrNothing keys g (-1,Alone.destroy w) := by
  obtain ⟨htab,hres⟩ := h.destroy
  refine .inr ⟨rfl,htab,?_,?_⟩
  · intro o
    simp only [hres]
    rfl
  · simp only [hres]
    rfl

variable [DecidableEq κ]

/-- A failed call leaves the id at -1, and one that succeeds adds its object. -/
theorem Created.createId (h : Created keys g l w) (ho : o ∉ l) (fails : Bool) :
    ((createId keys fails o w).1 = -1 ∧ Created keys g l (createId keys fails o w).2) ∨
      ((createId keys fails o w).1 = 0 ∧ Created keys g (insert o l) (createId keys fails o w).2) := by
  have hsame : w.res.setId o none = w.res := by
    unfold IPCResources.setId
    rw [← h.unset o ho,Function.update_eq_self]
  by_cases hcall : fails = false ∧ w.objects.table (keys o) = none
  · right
    obtain ⟨hf,hfree⟩ := hcall
    have hr : Alone.createId keys fails o w =
        (0,⟨w.objects.add (keys o),w.res.setId o (some w.objects.next)⟩) := by
      simp [Alone.createId,hf,Lib.Registry.create_free hfree]
    rw [hr]
    refine ⟨rfl,?_,?_,?_⟩
    · intro o' ho'
      by_cases hoo : o' = o
      · subst hoo
        exact ⟨(h.free ho).symm.trans hfree,w.objects.next,by simp [IPCResources.setId],by simp⟩
      · obtain ⟨hg,id,hid,ht⟩ := h.made o' (Finset.mem_of_mem_insert_of_ne ho' hoo)
        have hk : keys o' ≠ keys o := fun he => hoo (keys.injective he)
        exact ⟨hg,id,by simp [IPCResources.setId,hoo,hid],by simp [hk,ht]⟩
    · intro o' ho'
      simp only [Finset.mem_insert,not_or] at ho'
      simp [IPCResources.setId,ho'.1,h.unset o' ho'.2]
    · intro p hp
      have hne : p ≠ keys o := fun he => hp o (Finset.mem_insert_self o l) he.symm
      simp only [Lib.Registry.add_table,Function.update_of_ne hne]
      exact h.kept p (fun o' ho' => hp o' (Finset.mem_insert_of_mem ho'))
  · left
    have hr : Alone.createId keys fails o w = (-1,w) := by
      unfold Alone.createId
      cases fails with
      | true => simp [hsame]
      | false =>
        have ht : w.objects.table (keys o) ≠ none := fun ht => hcall ⟨rfl,ht⟩
        simp [Lib.Registry.create,ht,hsame]
    rw [hr]
    exact ⟨rfl,h⟩

/-- A creator that has returned: on 0 its objects `l'` are there, on -1 some of them. -/
def Returned (keys : Obj ↪ κ) (g : Lib.Registry κ) (l' : Finset Obj) (r : Int × World κ) : Prop :=
  (r.1 = -1 ∧ ∃ l, Created keys g l r.2) ∨ (r.1 = 0 ∧ Created keys g l' r.2)

theorem returned_shm (h : Created keys g l w) (ho : .shm ∉ l) (fails : Call → Bool) :
    Returned keys g (insert .shm l) (ipcShmCreate keys fails w) := by
  unfold ipcShmCreate
  rcases h.createId ho (fails .shmget) with ⟨hr,hc⟩ | ⟨hr,hc⟩
  · simp only [hr,if_true]
    exact .inl ⟨rfl,l,hc⟩
  · simp only [hr]
    cases fails .shmat with
    | true => exact .inl ⟨rfl,_,hc.setState none⟩
    | false => exact .inr ⟨rfl,hc.setState _⟩

theorem returned_sem (h : Created keys g l w) (ho : .sem ∉ l) (fails : Call → Bool) :
    Returned keys g (insert .sem l) (ipcSemCreate keys fails w) := by
  unfold ipcSemCreate
  rcases h.createId ho (fails .semget) with ⟨hr,hc⟩ | ⟨hr,hc⟩
  · simp only [hr,if_true]
    exact .inl ⟨rfl,l,hc⟩
  · simp only [hr]
    cases fails .setall with
    | true => exact .inl ⟨rfl,_,hc⟩
    | false => exact .inr ⟨rfl,hc⟩

theorem returned_queues (fails : Call → Bool) (os : List Obj) (hnd : os.Nodup) :
    ∀ {l w}, Created keys g l w → (∀ o ∈ os, o ∉ l) →
      Returned keys g (l ∪ os.toFinset) (createQueues keys fails os w) := by
  induction os with
  | nil =>
    intro l w h _
    exact .inr ⟨rfl,by simpa [createQueues] using h⟩
  | cons o os ih =>
    intro l w h hos
    rw [List.nodup_cons] at hnd
    simp only [createQueues]
    rcases h.createId (hos o List.mem_cons_self) (fails (.msgget o)) with ⟨hr,hc⟩ | ⟨hr,hc⟩
    · rw [if_pos hr]
      exact .inl ⟨rfl,l,hc⟩
    · rw [if_neg (by omega)]
      have hrest : ∀ o' ∈ os, o' ∉ insert o l := by
        intro o' ho'
        rw [Finset.mem_insert,not_or]
        exact ⟨fun he => hnd.1 (he ▸ ho'),hos o' (List.mem_cons_of_mem o ho')⟩
      have hall : l ∪ (o :: os).toFinset = insert o l ∪ os.toFinset := by
        rw [List.toFinset_cons,Finset.union_insert,Finset.insert_union]
      rw [hall]
      exact ih hnd.2 hc hrest

theorem create_all_or_nothing (keys : Obj ↪ κ) (fails : Call → Bool) (w : World κ) :
    AllOrNothing keys w.objects (ipcCreate keys fails w) := by
  have hstart : Created keys w.objects ∅ { w with res := .init } :=
    ⟨by simp,fun _ _ => rfl,fun _ _ => rfl⟩
  unfold ipcCreate
  rcases returned_shm hstart (by simp) fails with ⟨hr,l,hc⟩ | ⟨hr,hc⟩
  · simp only [hr,if_true]
    exact hc.cleaned
  · simp only [hr]
    rcases returned_sem hc (by decide) fails with ⟨hr,l,hc⟩ | ⟨hr,hc⟩
    · simp only [hr,if_true]
      exact hc.cleaned
    · simp only [hr]
      rcases returned_queues fails queues (by decide) hc (by decide) with ⟨hr,l,hc⟩ | ⟨hr,hc⟩
      · simp only [ipcMqCreate,hr,if_true]
        exact hc.cleaned
      · have hall : insert Obj.sem (insert Obj.shm ∅) ∪ queues.toFinset = Finset.univ := by
          decide
        rw [hall] at hc
        simp only [ipcMqCreate,hr]
        exact .inl ⟨rfl,hc.seven⟩

def Step (a b : Kernel × IPCResources × MainPc) : Prop :=
  ∃ c x, a.2.2 = .create c ∧ b = Ipc.ipcCreate a.1 a.2.1 x c

/-- The blocks of `ipc_destroy` one step after the other. -/
theorem steps_destroy (ts : List Teardown) (k : Kernel) (res : IPCResources) :
    ∃ k' : Kernel, k'.objects = (ts.foldl teardown ⟨k.objects,res⟩).objects ∧
      Relation.ReflTransGen Step (k,res,.create (.cleanup (.start ts)))
        (k',(ts.foldl teardown ⟨k.objects,res⟩).res,.exited 1) := by
  induction ts generalizing k res with
  | nil => exact ⟨k,rfl,.single ⟨_,true,rfl,rfl⟩⟩
  | cons t ts ih =>
    cases t with
    | shmdt =>
      obtain ⟨k',hk,hsteps⟩ := ih k { res with state := none }
      exact ⟨k',hk,.head ⟨_,true,rfl,rfl⟩ hsteps⟩
    | rmid o =>
      cases hid : res.id o with
      | none =>
        obtain ⟨k',hk,hsteps⟩ := ih k res
        have hblock : teardown ⟨k.objects,res⟩ (.rmid o) = ⟨k.objects,res⟩ := by simp [teardown,hid]
        rw [List.foldl_cons,hblock]
        refine ⟨k',hk,.head ⟨_,true,rfl,?_⟩ hsteps⟩
        simp [Ipc.ipcCreate,Removal.start,Removal.next,hid]
      | some id =>
        obtain ⟨k',hk,hsteps⟩ := ih (k.rmid id) (res.setId o none)
        have hblock : teardown ⟨k.objects,res⟩ (.rmid o) = ⟨(k.rmid id).objects,res.setId o none⟩ := by
          simp [teardown,hid,Kernel.rmid]
        rw [List.foldl_cons,hblock]
        refine ⟨k',hk,.head (b := (k,res,.create (.cleanup ⟨.rmid o :: ts,.ctl⟩))) ⟨_,true,rfl,?_⟩ ?_⟩
        · simp [Ipc.ipcCreate,Removal.start,Removal.next,hid]
        · refine .head (b := (k.rmid id,res,.create (.cleanup ⟨.rmid o :: ts,.clear⟩))) ⟨_,true,rfl,?_⟩ ?_
          · simp [Ipc.ipcCreate,Removal.next,hid]
          · exact .head ⟨_,true,rfl,rfl⟩ hsteps

def byName : Obj ↪ Obj := Function.Embedding.refl Obj

/-- No call fails but for a key that is taken. -/
def noFailure : Call → Bool := fun _ => false

/-- One exclusive creation, in the steps and in the call. -/
theorem step_create (k : Kernel) {res : IPCResources} {o : Obj} (hid : res.id o = none) (next : CreatePc) :
    ∃ k' : Kernel, k'.objects = (createId byName false o ⟨k.objects,res⟩).2.objects ∧
      createObject k res o next = (k',(createId byName false o ⟨k.objects,res⟩).2.res,
        if (createId byName false o ⟨k.objects,res⟩).1 = -1 then .create .failed else .create next) := by
  have hsame : res.setId o none = res := by
    unfold IPCResources.setId
    rw [← hid,Function.update_eq_self]
  by_cases hfree : k.objects.table o = none
  · refine ⟨⟨k.objects.add o,Function.update k.mainPid k.objects.next 0⟩,?_,?_⟩
    · simp [createId,byName,Lib.Registry.create_free hfree]
    · simp [createObject,Kernel.create,createId,byName,Lib.Registry.create_free hfree]
  · refine ⟨k,?_,?_⟩
    · simp [createId,byName,Lib.Registry.create,hfree]
    · simp [createObject,Kernel.create,createId,byName,Lib.Registry.create,hfree,hsame]

/-- From `pc` the steps come to the end of a part of `ipc_create` that returns `r`. -/
def Reaches (k : Kernel) (res : IPCResources) (pc : CreatePc) (r : Int × World Obj) (next : MainPc) : Prop :=
  ∃ k' : Kernel, k'.objects = r.2.objects ∧
    Relation.ReflTransGen Step (k,res,.create pc) (k',r.2.res,if r.1 = -1 then .create .failed else next)

theorem steps_queues {g : Lib.Registry Obj} (os : List Obj) (hnd : os.Nodup) :
    ∀ {l k} res, Created byName g l ⟨k.objects,res⟩ → (∀ o ∈ os, o ∉ l) →
      Reaches k res (.msgget os) (createQueues byName noFailure os ⟨k.objects,res⟩) (.create .init) := by
  induction os with
  | nil =>
    intro l k res _ _
    exact ⟨k,rfl,.single ⟨_,true,rfl,rfl⟩⟩
  | cons o os ih =>
    intro l k res h hos
    rw [List.nodup_cons] at hnd
    have ho : o ∉ l := hos o List.mem_cons_self
    have hid : res.id o = none := h.unset o ho
    obtain ⟨k₁,hk₁,hstep⟩ := step_create k hid (.msgget os)
    rcases h.createId ho false with ⟨hr,hc⟩ | ⟨hr,hc⟩
    · have hq : createQueues byName noFailure (o :: os) ⟨k.objects,res⟩ =
          (-1,(createId byName false o ⟨k.objects,res⟩).2) := by
        simp [createQueues,noFailure,hr]
      rw [if_pos hr] at hstep
      rw [hq]
      exact ⟨k₁,hk₁,.single ⟨_,true,rfl,hstep.symm⟩⟩
    · have hq : createQueues byName noFailure (o :: os) ⟨k.objects,res⟩ =
          createQueues byName noFailure os (createId byName false o ⟨k.objects,res⟩).2 := by
        simp [createQueues,noFailure,hr]
      have hrest : ∀ o' ∈ os, o' ∉ insert o l := by
        intro o' ho'
        rw [Finset.mem_insert,not_or]
        exact ⟨fun he => hnd.1 (he ▸ ho'),hos o' (List.mem_cons_of_mem o ho')⟩
      rw [if_neg (by omega)] at hstep
      obtain ⟨k₂,hk₂,hsteps⟩ := ih hnd.2 (k := k₁) (createId byName false o ⟨k.objects,res⟩).2.res
        (hk₁ ▸ hc) hrest
      rw [hk₁] at hk₂ hsteps
      rw [hq]
      exact ⟨k₂,hk₂,.head ⟨_,true,rfl,hstep.symm⟩ hsteps⟩

theorem steps_shm {g : Lib.Registry Obj} {l : Finset Obj} {k : Kernel} {res : IPCResources}
    (h : Created byName g l ⟨k.objects,res⟩) (ho : .shm ∉ l) :
    Reaches k res .shmget (ipcShmCreate byName noFailure ⟨k.objects,res⟩) (.create .semget) := by
  have hnone : res.id .shm = none := h.unset .shm ho
  obtain ⟨k₁,hk₁,hstep⟩ := step_create k hnone .shmat
  rcases h.createId ho false with ⟨hr,hc⟩ | ⟨hr,hc⟩
  · have hq : ipcShmCreate byName noFailure ⟨k.objects,res⟩ =
        (-1,(createId byName false .shm ⟨k.objects,res⟩).2) := by
      simp [ipcShmCreate,noFailure,hr]
    rw [if_pos hr] at hstep
    rw [hq]
    exact ⟨k₁,hk₁,.single ⟨_,true,rfl,hstep.symm⟩⟩
  · obtain ⟨-,id,hid,-⟩ := hc.made .shm (Finset.mem_insert_self _ l)
    rw [if_neg (by omega)] at hstep
    refine ⟨k₁.storePid id 0,?_,.head ⟨_,true,rfl,hstep.symm⟩ ?_⟩
    · simp [ipcShmCreate,noFailure,hr,Kernel.storePid,hk₁]
    · refine .head (b := (k₁,(ipcShmCreate byName noFailure ⟨k.objects,res⟩).2.res,.create .zero)) ?_ ?_
      · refine ⟨_,true,rfl,?_⟩
        simp [ipcShmCreate,noFailure,hr,Ipc.ipcCreate]
      · refine .single ⟨_,true,rfl,?_⟩
        simp [ipcShmCreate,noFailure,hr,Ipc.ipcCreate,hid]

theorem steps_sem {g : Lib.Registry Obj} {l : Finset Obj} {k : Kernel} {res : IPCResources}
    (h : Created byName g l ⟨k.objects,res⟩) (ho : .sem ∉ l) :
    Reaches k res .semget (ipcSemCreate byName noFailure ⟨k.objects,res⟩) (.create (.msgget queues)) := by
  have hnone : res.id .sem = none := h.unset .sem ho
  obtain ⟨k₁,hk₁,hstep⟩ := step_create k hnone .setall
  rcases h.createId ho false with ⟨hr,hc⟩ | ⟨hr,hc⟩
  · have hq : ipcSemCreate byName noFailure ⟨k.objects,res⟩ =
        (-1,(createId byName false .sem ⟨k.objects,res⟩).2) := by
      simp [ipcSemCreate,noFailure,hr]
    rw [if_pos hr] at hstep
    rw [hq]
    exact ⟨k₁,hk₁,.single ⟨_,true,rfl,hstep.symm⟩⟩
  · obtain ⟨-,id,hid,htab⟩ := hc.made .sem (Finset.mem_insert_self _ l)
    have hset : k₁.get .sem = (createId byName false .sem ⟨k.objects,res⟩).2.res.id .sem := by
      rw [Kernel.get,hk₁,hid]
      exact htab
    rw [if_neg (by omega)] at hstep
    refine ⟨k₁,?_,.head ⟨_,true,rfl,hstep.symm⟩ (.single ⟨_,true,rfl,?_⟩)⟩
    · simp [ipcSemCreate,noFailure,hr,hk₁]
    · simp [ipcSemCreate,noFailure,hr,Ipc.ipcCreate,hset]

/-- A part that has failed goes on to `cleanup`. -/
theorem Reaches.cleanup {k : Kernel} {res : IPCResources} {pc : CreatePc} {r : Int × World Obj} {next : MainPc}
    (h : Reaches k res pc r next) (hr : r.1 = -1) :
    ∃ k' : Kernel, k'.objects = (destroy r.2).objects ∧
      Relation.ReflTransGen Step (k,res,.create pc) (k',(destroy r.2).res,.exited 1) := by
  obtain ⟨k₁,hk₁,hsteps⟩ := h
  rw [if_pos hr] at hsteps
  obtain ⟨k₂,hk₂,hsteps₂⟩ := steps_destroy ipcDestroy k₁ r.2.res
  rw [hk₁] at hk₂ hsteps₂
  exact ⟨k₂,hk₂,hsteps.trans hsteps₂⟩

/-- The steps of the main process, run one after the other with no call failing, come out
where the whole call does. -/
theorem steps_call (k : Kernel) (res : IPCResources) :
    ∃ k' : Kernel, k'.objects = (ipcCreate byName noFailure ⟨k.objects,res⟩).2.objects ∧
      Relation.ReflTransGen Step (k,.init,.create .shmget)
        (k',(ipcCreate byName noFailure ⟨k.objects,res⟩).2.res,
          if (ipcCreate byName noFailure ⟨k.objects,res⟩).1 = -1 then .exited 1 else .timeInit) := by
  have hstart : Created byName k.objects ∅ ⟨k.objects,.init⟩ :=
    ⟨by simp,fun _ _ => rfl,fun _ _ => rfl⟩
  have hshm := steps_shm hstart (by simp)
  unfold ipcCreate
  rcases returned_shm hstart (by simp) noFailure with ⟨hr,-⟩ | ⟨hr,hc⟩
  · simp only [hr,if_true]
    exact hshm.cleanup hr
  · obtain ⟨k₁,hk₁,hsteps₁⟩ := hshm
    have hc₁ : Created byName k.objects {.shm}
        ⟨k₁.objects,(ipcShmCreate byName noFailure ⟨k.objects,.init⟩).2.res⟩ := by
      rw [hk₁]
      exact hc
    have hsem := steps_sem hc₁ (by decide)
    rw [hk₁] at hsem
    rw [hr,if_neg (by decide)] at hsteps₁
    simp only [hr]
    rcases returned_sem hc (by decide) noFailure with ⟨hr,-⟩ | ⟨hr,hc⟩
    · simp only [hr,if_true]
      obtain ⟨k₂,hk₂,hsteps₂⟩ := hsem.cleanup hr
      exact ⟨k₂,hk₂,hsteps₁.trans hsteps₂⟩
    · obtain ⟨k₂,hk₂,hsteps₂⟩ := hsem
      have hc₂ : Created byName k.objects {.sem, .shm}
          ⟨k₂.objects,(ipcSemCreate byName noFailure
            (ipcShmCreate byName noFailure ⟨k.objects,.init⟩).2).2.res⟩ := by
        rw [hk₂]
        exact hc
      have hmq := steps_queues queues (by decide) _ hc₂ (by decide)
      rw [hk₂] at hmq
      rw [hr,if_neg (by decide)] at hsteps₂
      simp only [hr]
      rcases returned_queues noFailure queues (by decide) hc (by decide) with ⟨hr,-⟩ | ⟨hr,-⟩
      · simp only [ipcMqCreate,hr,if_true]
        obtain ⟨k₃,hk₃,hsteps₃⟩ := hmq.cleanup hr
        exact ⟨k₃,hk₃,(hsteps₁.trans hsteps₂).trans hsteps₃⟩
      · obtain ⟨k₃,hk₃,hsteps₃⟩ := hmq
        rw [hr,if_neg (by decide)] at hsteps₃
        simp only [ipcMqCreate,hr]
        exact ⟨k₃,hk₃,((hsteps₁.trans hsteps₂).trans hsteps₃).tail ⟨_,true,rfl,rfl⟩⟩

end Alone

end Ropeway.Ipc
