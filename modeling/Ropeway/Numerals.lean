import Ropeway.Lib.Memory

/-! `int_to_str`: the decimal text of a number for signal handlers. The memory is the bytes
from `buf` on, as far as they go. -/

namespace Ropeway

def intMin : Int := -2147483648

/-- The digits go into `tmp` with the last one first. The first argument is the room left:
`i < 15`. -/
def tmpDigits : Nat → Int → List Char → List Char
  | 0, _, tmp => tmp
  | k + 1, n, tmp =>
    if 0 < n then tmpDigits k (n.tdiv 10) (tmp ++ [Char.ofNat (48 + (n.tmod 10).toNat)]) else tmp

/-- `buf[j++] = tmp[--i]`, with the place that is reached. -/
def copyBack (bufSize : Int) (tmp : List Char) : Nat → Nat → (Nat → Char) → Nat × (Nat → Char)
  | 0, j, buf => (j,buf)
  | i + 1, j, buf =>
    if j < bufSize - 1 then copyBack bufSize tmp i (j + 1) (Function.update buf j (tmp.getD i '\x00'))
    else (j,buf)

/-- `int_to_str`: what is in memory from `buf` on when it returns. -/
def intToStr (n : Int) (buf : Nat → Char) (bufSize : Int) : Nat → Char :=
  if bufSize ≤ 0 then buf
  else if n = 0 then
    if 2 ≤ bufSize then Function.update (Function.update buf 0 '0') 1 '\x00' else buf
  else
    let neg := n < 0
    let n := if neg then Lib.toInt32 (-n) else n
    let tmp := tmpDigits 15 n []
    let (j,buf) := if neg ∧ (0 : Int) < bufSize - 1 then (1,Function.update buf 0 '-') else (0,buf)
    let (j,buf) := copyBack bufSize tmp tmp.length j buf
    Function.update buf j '\x00'

def stringAt (buf : Nat → Char) (size : Int) : List Char := Lib.cstr (Lib.loadList buf 0 size.toNat)

/-- `buf'` holds the decimal representation of `n` as far as it goes into `size` bytes, and
no byte outside of them has changed. -/
structure Represents (n : Int) (size : Int) (buf buf' : Nat → Char) : Prop where
  terminated : '\x00' ∈ Lib.loadList buf' 0 size.toNat
  text : stringAt buf' size = (Lib.decimal n).take (size.toNat - 1)
  outside : ∀ a : Nat, size ≤ a → buf' a = buf a
  exact : 12 ≤ size → stringAt buf' size = Lib.decimal n ∧ Lib.atoi (stringAt buf' size) = n

theorem digit_char {d : Nat} (h : d < 10) : Char.ofNat (48 + d) = Nat.digitChar d := by
  have hall : ∀ k : Fin 10, Char.ofNat (48 + k) = Nat.digitChar k := by decide
  exact hall ⟨d,h⟩

/-- There is room for all the digits of a number below `10 ^ k`. -/
theorem tmp_digits_eq {k : Nat} {n : Nat} (tmp : List Char) (hpos : 0 < n) (h : n < 10 ^ k) :
    tmpDigits k n tmp = tmp ++ (Nat.toDigits 10 n).reverse := by
  induction k generalizing n tmp with
  | zero =>
    rw [Nat.pow_zero] at h
    omega
  | succ k ih =>
    have hdigit : ((n : Int).tmod 10).toNat = n % 10 := by
      rw [Int.tmod_eq_emod_of_nonneg (by omega)]
      omega
    have hrest : (n : Int).tdiv 10 = ((n / 10 : Nat) : Int) := by
      rw [Int.tdiv_eq_ediv_of_nonneg (by omega)]
      omega
    rw [tmpDigits,if_pos (by omega),hdigit,hrest,digit_char (by omega),Nat.toDigits_eq_if (by omega)]
    split
    · rename_i hlt
      -- The last digit: the loop ends at 0.
      have hzero : n / 10 = 0 := by omega
      have hmod : n % 10 = n := by omega
      rw [hzero,hmod]
      cases k <;> simp [tmpDigits]
    · rename_i hge
      rw [Nat.pow_succ] at h
      rw [ih _ (by omega) (by omega)]
      simp

theorem tmp_digits_none (k : Nat) {n : Int} (h : n ≤ 0) (tmp : List Char) : tmpDigits k n tmp = tmp := by
  cases k with
  | zero => rfl
  | succ k => rw [tmpDigits,if_neg (by omega)]

/-- The digits are copied from the last one of `tmp` on, as long as there is room. -/
theorem copy_back_eq (bufSize : Int) (tmp : List Char) {i : Nat} (j : Nat) (buf : Nat → Char)
    (hi : i ≤ tmp.length) :
    copyBack bufSize tmp i j buf =
      (j + ((tmp.take i).reverse.take (bufSize.toNat - 1 - j)).length,
        Lib.storeList buf j ((tmp.take i).reverse.take (bufSize.toNat - 1 - j))) := by
  induction i generalizing j buf with
  | zero => simp [copyBack,Lib.storeList]
  | succ i ih =>
    have hlt : i < tmp.length := by omega
    have hlast : (tmp.take (i + 1)).reverse = tmp.getD i '\x00' :: (tmp.take i).reverse := by
      rw [List.take_succ_eq_append_getElem hlt,List.reverse_append,← List.getElem_eq_getD]
      rfl
    rw [copyBack,hlast]
    split
    · rename_i hroom
      obtain ⟨r,hr⟩ : ∃ r, bufSize.toNat - 1 - j = r + 1 := ⟨bufSize.toNat - 2 - j,by omega⟩
      have hnext : bufSize.toNat - 1 - (j + 1) = r := by omega
      rw [ih _ _ (by omega),hr,hnext,List.take_succ_cons,List.length_cons,Lib.storeList]
      congr 1
      omega
    · rename_i hfull
      have hnone : bufSize.toNat - 1 - j = 0 := by omega
      rw [hnone]
      rfl

def numeral (n : Int) : List Char :=
  if n < 0 then '-' :: (tmpDigits 15 (Lib.toInt32 (-n)) []).reverse else (tmpDigits 15 n []).reverse

/-- What is stored of it, with the NUL that follows. -/
theorem int_to_str_stores {n size : Int} (hn : n ≠ 0) (hs : 1 ≤ size) (buf : Nat → Char) :
    intToStr n buf size = Lib.storeList buf 0 ((numeral n).take (size.toNat - 1) ++ ['\x00']) := by
  have hcopy : ∀ (tmp : List Char) (j : Nat) (m : Nat → Char),
      Function.update (copyBack size tmp tmp.length j m).2 (copyBack size tmp tmp.length j m).1 '\x00' =
        Lib.storeList m j (tmp.reverse.take (size.toNat - 1 - j) ++ ['\x00']) := by
    intro tmp j m
    rw [copy_back_eq size tmp j m (Nat.le_refl _),List.take_length,Lib.store_list_append]
    rfl
  unfold intToStr numeral
  rw [if_neg (by omega),if_neg hn]
  by_cases hneg : n < 0
  · by_cases hroom : (0 : Int) < size - 1
    · obtain ⟨r,hr⟩ : ∃ r, size.toNat - 1 = r + 1 := ⟨size.toNat - 2,by omega⟩
      simp only [hneg,hroom,and_self,if_true,hcopy,hr,List.take_succ_cons,List.cons_append,Lib.storeList]
      rfl
    · -- Not even the sign fits.
      have hone : size.toNat - 1 = 0 := by omega
      simp only [hneg,hroom,and_false,if_true,if_false,hcopy,hone,List.take_zero,Nat.zero_sub]
  · simp only [hneg,false_and,if_false,hcopy,Nat.sub_zero]

/-- The digits are right when the number has a negation. -/
theorem numeral_eq {n : Int} (h : intMin < n) (h' : n ≤ 2147483647) (hn : n ≠ 0) :
    numeral n = Lib.decimal n := by
  unfold intMin at h
  have habs : 0 < n.natAbs ∧ n.natAbs < 10 ^ 15 := by omega
  unfold numeral Lib.decimal
  split
  · have hneg : Lib.toInt32 (-n) = (n.natAbs : Int) := by
      rw [Lib.to_int32_eq (by omega) (by omega)]
      omega
    rw [hneg,tmp_digits_eq [] habs.1 habs.2]
    simp
  · have hpos : tmpDigits 15 n [] = tmpDigits 15 (n.natAbs : Int) [] := by
      congr 1
      omega
    rw [hpos,tmp_digits_eq [] habs.1 habs.2]
    simp

/-- The most negative number is still negative after the sign was changed, and the digit
loop does not run. -/
theorem numeral_min : numeral intMin = ['-'] := by
  have hneg : Lib.toInt32 (-intMin) ≤ 0 := by decide
  unfold numeral
  rw [if_pos (by decide),tmp_digits_none 15 hneg]
  rfl

theorem decimal_plain (n : Int) : '\x00' ∉ Lib.decimal n := by
  intro h
  rcases Lib.mem_decimal h with h | h <;> simp at h

/-- A text that is stored with its NUL represents `n` just if it is the front of the decimal
representation. -/
theorem represents_stored {n size : Int} (hn : intMin ≤ n) (hn' : n ≤ 2147483647) (hs : 1 ≤ size)
    (buf : Nat → Char) {text : List Char} (hnul : '\x00' ∉ text) :
    Represents n size buf (Lib.storeList buf 0 (text.take (size.toNat - 1) ++ ['\x00'])) ↔
      text.take (size.toNat - 1) = (Lib.decimal n).take (size.toNat - 1) := by
  have hlen : (text.take (size.toNat - 1)).length ≤ size.toNat - 1 := List.length_take_le _ _
  obtain ⟨hterm,htext⟩ := Lib.cstr_store buf 0 (n := size.toNat)
    (fun h => hnul (List.mem_of_mem_take h)) (show (text.take (size.toNat - 1)).length < size.toNat by omega)
  constructor
  · intro h
    exact htext.symm.trans h.text
  · intro h
    have hstring : stringAt (Lib.storeList buf 0 (text.take (size.toNat - 1) ++ ['\x00'])) size =
        (Lib.decimal n).take (size.toNat - 1) := htext.trans h
    refine ⟨hterm,hstring,?_,?_⟩
    · intro a ha
      apply Lib.store_list_after
      simp only [List.length_append,List.length_singleton]
      omega
    · intro hlarge
      have hall : (Lib.decimal n).take (size.toNat - 1) = Lib.decimal n := by
        have := Lib.decimal_int_length hn hn'
        exact List.take_of_length_le (by omega)
      rw [hstring,hall]
      exact ⟨rfl,Lib.atoi_printed hn hn'⟩

/-- 0 has a branch of its own, which stores nothing in a single byte. -/
theorem int_to_str_zero {size : Int} (hs : 2 ≤ size) (buf : Nat → Char) :
    intToStr 0 buf size = Lib.storeList buf 0 ((Lib.decimal 0).take (size.toNat - 1) ++ ['\x00']) := by
  have hall : (Lib.decimal 0).take (size.toNat - 1) = Lib.decimal 0 :=
    List.take_of_length_le (show 1 ≤ size.toNat - 1 by omega)
  unfold intToStr
  rw [if_neg (by omega),if_pos rfl,if_pos hs,hall]
  rfl

theorem int_to_str_zero_byte (buf : Nat → Char) : intToStr 0 buf 1 = buf := rfl

/-- A sign alone is as much of the most negative number as two bytes hold, and less than
what three bytes hold. -/
theorem min_front (k : Nat) : (['-'] : List Char).take k = (Lib.decimal intMin).take k ↔ k ≤ 1 := by
  have hmin : ∃ r, Lib.decimal intMin = '-' :: '2' :: r := ⟨_,rfl⟩
  obtain ⟨r,hr⟩ := hmin
  rw [hr]
  match k with
  | 0 => simp
  | 1 => simp
  | k + 2 => simp

/-- Every number but the most negative one is represented in every buffer, and 0 in every
buffer with room for it. -/
theorem int_to_str_represents {n size : Int} (hn : intMin ≤ n) (hn' : n ≤ 2147483647)
    (hs : 1 ≤ size) :
    (∀ buf, Represents n size buf (intToStr n buf size)) ↔
      ¬(n = 0 ∧ size = 1) ∧ ¬(n = intMin ∧ 3 ≤ size) := by
  by_cases hzero : n = 0
  · subst hzero
    have hnonmin : (0 : Int) ≠ intMin := by decide
    by_cases hone : size = 1
    · subst hone
      -- The byte keeps what was in it, which need not be a NUL.
      constructor
      · intro h
        have hterm := (h (fun _ => 'x')).terminated
        rw [int_to_str_zero_byte] at hterm
        simp [Lib.loadList] at hterm
      · intro h
        exact absurd ⟨rfl,rfl⟩ h.1
    · refine ⟨fun _ => ⟨fun h => hone h.2,fun h => hnonmin h.1⟩,?_⟩
      intro _ buf
      rw [int_to_str_zero (by omega)]
      exact (represents_stored hn hn' hs buf (decimal_plain 0)).mpr rfl
  · by_cases hmin : n = intMin
    · subst hmin
      have hfront : ∀ buf, Represents intMin size buf (intToStr intMin buf size) ↔ size.toNat - 1 ≤ 1 := by
        intro buf
        rw [int_to_str_stores hzero hs,numeral_min,represents_stored hn hn' hs buf (by simp),min_front]
      constructor
      · intro h
        have hsmall := (hfront (fun _ => 'x')).mp (h _)
        exact ⟨fun h => hzero h.1,fun h => by omega⟩
      · intro h buf
        have hsmall : ¬3 ≤ size := fun h3 => h.2 ⟨rfl,h3⟩
        exact (hfront buf).mpr (by omega)
    · refine ⟨fun _ => ⟨fun h => hzero h.1,fun h => hmin h.1⟩,?_⟩
      intro _ buf
      rw [int_to_str_stores hzero hs,numeral_eq (by omega) hn' hzero]
      exact (represents_stored hn hn' hs buf (decimal_plain n)).mpr rfl

/-- The longest text goes into 12 bytes. -/
theorem int_to_str_represents_longest :
    stringAt (intToStr (-2147483647) (fun _ => 'x') 12) 12 = "-2147483647".toList ∧
    Represents (-2147483647) 12 (fun _ => 'x') (intToStr (-2147483647) (fun _ => 'x') 12) := by
  have h : ∀ buf, Represents (-2147483647) 12 buf (intToStr (-2147483647) buf 12) :=
    (int_to_str_represents (by decide) (by decide) (by decide)).mpr (by decide)
  exact ⟨((h _).exact (by decide)).1.trans rfl,h _⟩

/-- Of the most negative number the sign is stored and nothing else, which `atoi` reads as 0,
and 0 in a buffer of one byte is no string at all. -/
theorem int_to_str_unrepresented :
    stringAt (intToStr (-2147483648) (fun _ => 'x') 12) 12 = ['-'] ∧
    Lib.atoi (stringAt (intToStr (-2147483648) (fun _ => 'x') 12) 12) = 0 ∧
    ¬Represents (-2147483648) 12 (fun _ => 'x') (intToStr (-2147483648) (fun _ => 'x') 12) ∧
    '\x00' ∉ Lib.loadList (intToStr 0 (fun _ => 'x') 1) 0 1 ∧
    ¬Represents 0 1 (fun _ => 'x') (intToStr 0 (fun _ => 'x') 1) := by
  have hmin : stringAt (intToStr (-2147483648) (fun _ => 'x') 12) 12 = ['-'] := by decide
  have hread : Lib.atoi (stringAt (intToStr (-2147483648) (fun _ => 'x') 12) 12) = 0 := by
    rw [hmin]
    decide
  have hbyte : '\x00' ∉ Lib.loadList (intToStr 0 (fun _ => 'x') 1) 0 1 := by decide
  refine ⟨hmin,hread,?_,hbyte,fun h => hbyte h.terminated⟩
  intro h
  have hback := (h.exact (by decide)).2
  rw [hread] at hback
  exact absurd hback (by decide)

end Ropeway
