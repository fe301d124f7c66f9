import Mathlib.Algebra.Group.Nat.Defs
import Mathlib.Data.List.Basic
import Mathlib.Order.MinMax

/-! Text as the C library reads and writes it: decimal numbers, buffers of a fixed size
and the scanners of `sscanf`. A byte is a character. -/

namespace Lib

def toInt32 (x : Int) : Int := (x + 2147483648) % 4294967296 - 2147483648

/-- A result that fits is not changed. -/
theorem to_int32_eq {x : Int} (h : -2147483648 ≤ x) (h' : x ≤ 2147483647) : toInt32 x = x := by
  unfold toInt32
  omega

theorem to_int32_range (x : Int) : -2147483648 ≤ toInt32 x ∧ toInt32 x ≤ 2147483647 := by
  unfold toInt32
  omega

/-- What `%d` prints. -/
def decimal (n : Int) : List Char :=
  if n < 0 then '-' :: Nat.toDigits 10 n.natAbs else Nat.toDigits 10 n.natAbs

/-- What `%0<width>d` prints. -/
def zeroPadded (width : Nat) (n : Int) : List Char :=
  if n < 0 then '-' :: (Nat.toDigits 10 n.natAbs).leftpad (width - 1) '0'
  else (Nat.toDigits 10 n.natAbs).leftpad width '0'

def isspace (c : Char) : Bool :=
  c == ' ' || c == '\t' || c == '\n' || c == '\x0b' || c == '\x0c' || c == '\r'

def leadingDigits (l : List Char) : Nat := Nat.ofDigitChars 10 (l.takeWhile Char.isDigit) 0

def scanNumber (l : List Char) : Int :=
  match l.dropWhile isspace with
  | [] => 0
  | c :: r => if c = '-' then -leadingDigits r else if c = '+' then leadingDigits r else leadingDigits (c :: r)

/-- `atoi`: `strtol` stops at the ends of a 64-bit `long`, and the result is converted
to `int`. -/
def atoi (l : List Char) : Int :=
  toInt32 (max (-9223372036854775808) (min 9223372036854775807 (scanNumber l)))

/-- What follows a number does not go on with a digit. -/
def Ended (l : List Char) : Prop := ∀ c ∈ l.head?, c.isDigit = false

theorem leading_digits (n : Nat) {l : List Char} (h : Ended l) :
    leadingDigits (Nat.toDigits 10 n ++ l) = n := by
  have hdigits : ∀ c ∈ Nat.toDigits 10 n, c.isDigit = true := fun c hc =>
    Nat.isDigit_of_mem_toDigits (by decide) (by decide) hc
  have hrest : l.takeWhile Char.isDigit = [] := by
    cases l with
    | nil => rfl
    | cons c r => simp [h c rfl]
  unfold leadingDigits
  rw [List.takeWhile_append_of_pos hdigits,hrest,List.append_nil,Nat.ofDigitChars_ten_toDigits]

/-- The first digit is neither a blank nor a sign. -/
theorem digit_plain {c : Char} (h : c.isDigit = true) : isspace c = false ∧ c ≠ '-' ∧ c ≠ '+' := by
  refine ⟨?_,?_,?_⟩
  · by_contra hs
    simp only [Bool.not_eq_false,isspace,Bool.or_eq_true,beq_iff_eq] at hs
    rcases hs with ((((rfl | rfl) | rfl) | rfl) | rfl) | rfl <;> simp at h
  · rintro rfl
    simp at h
  · rintro rfl
    simp at h

theorem scan_number_decimal (n : Int) {l : List Char} (h : Ended l) :
    scanNumber (decimal n ++ l) = n := by
  unfold decimal
  split
  · rename_i hneg
    have hminus : ('-' :: Nat.toDigits 10 n.natAbs ++ l).dropWhile isspace =
        '-' :: (Nat.toDigits 10 n.natAbs ++ l) := by simp [isspace]
    unfold scanNumber
    rw [hminus]
    simp only [if_true,leading_digits _ h]
    omega
  · rename_i hpos
    have hlead := leading_digits n.natAbs h
    cases hd : Nat.toDigits 10 n.natAbs with
    | nil => exact absurd hd Nat.toDigits_ne_nil
    | cons c r =>
      have hc : c.isDigit = true :=
        Nat.isDigit_of_mem_toDigits (b := 10) (n := n.natAbs) (by decide) (by decide) (by rw [hd]; simp)
      obtain ⟨hs,hm,hp⟩ := digit_plain hc
      rw [hd] at hlead
      unfold scanNumber
      rw [List.cons_append,List.dropWhile_cons_of_neg (by simp [hs])]
      simp only [if_neg hm,if_neg hp]
      rw [← List.cons_append,hlead]
      omega

/-- Reading a printed `int` gives it back, whatever follows it. -/
theorem atoi_decimal {n : Int} (h : -2147483648 ≤ n) (h' : n ≤ 2147483647) {l : List Char}
    (hl : Ended l) : atoi (decimal n ++ l) = n := by
  unfold atoi
  rw [scan_number_decimal n hl,min_eq_right (by omega),max_eq_right (by omega),to_int32_eq h h']

theorem atoi_printed {n : Int} (h : -2147483648 ≤ n) (h' : n ≤ 2147483647) :
    atoi (decimal n) = n := by
  have hl := atoi_decimal h h' (l := []) (by simp [Ended])
  rwa [List.append_nil] at hl

theorem Ended.of_front {l l' : List Char} (h : Ended l) (hp : l' <+: l) : Ended l' := by
  intro c hc
  apply h c
  obtain ⟨r,rfl⟩ := hp
  cases l' with
  | nil => cases hc
  | cons d l' => exact hc

/-- A printed number holds no blanks, no line end and no NUL. -/
theorem mem_decimal {n : Int} {c : Char} (h : c ∈ decimal n) : c = '-' ∨ c.isDigit = true := by
  have hdigit : ∀ k, c ∈ Nat.toDigits 10 k → c.isDigit = true := fun k hc =>
    Nat.isDigit_of_mem_toDigits (by decide) (by decide) hc
  unfold decimal at h
  split at h
  · rcases List.mem_cons.mp h with rfl | h
    · exact .inl rfl
    · exact .inr (hdigit _ h)
  · exact .inr (hdigit _ h)

theorem decimal_ne_nil (n : Int) : decimal n ≠ [] := by
  unfold decimal
  split
  · simp
  · exact Nat.toDigits_ne_nil

theorem decimal_int_length {n : Int} (h : -2147483648 ≤ n) (h' : n ≤ 2147483647) :
    (decimal n).length ≤ 11 := by
  have hdigits : (Nat.toDigits 10 n.natAbs).length ≤ 10 :=
    (Nat.length_toDigits_le_iff (by decide) (by decide)).mpr (by omega)
  unfold decimal
  split
  · simp only [List.length_cons]
    omega
  · omega

/-- The number of characters of a printed number. -/
theorem decimal_length {n k : Nat} (hk : 0 < k) (h : n < 10 ^ k) : (decimal n).length ≤ k := by
  have hpos : ¬(n : Int) < 0 := by omega
  unfold decimal
  rw [if_neg hpos,Int.natAbs_natCast]
  exact (Nat.length_toDigits_le_iff (by decide) hk).mpr h

/-- A number of at most two digits in a field of two, where a sign takes a place. -/
theorem zero_padded_two {n : Int} (h : -100 < n) (h' : n < 100) :
    (zeroPadded 2 n).length = if n < -9 then 3 else 2 := by
  have hone : (Nat.toDigits 10 n.natAbs).length ≤ 1 ↔ n.natAbs < 10 :=
    Nat.length_toDigits_le_iff (by decide) (by decide)
  have htwo : (Nat.toDigits 10 n.natAbs).length ≤ 2 :=
    (Nat.length_toDigits_le_iff (by decide) (by decide)).mpr (by omega)
  unfold zeroPadded
  split
  · simp only [List.length_cons,List.length_leftpad]
    split <;> omega
  · rw [List.length_leftpad,if_neg (by omega)]
    omega

/-- What `snprintf` stores of a text in a buffer of `size` bytes, beside the final NUL. -/
def snprintf (size : Nat) (text : List Char) : List Char := text.take (size - 1)

theorem snprintf_fits {size : Nat} {text : List Char} (h : text.length < size) :
    snprintf size text = text := List.take_of_length_le (by omega)

/-- The value of `snprintf`: the length of the whole text, or -1 if that is no `int`. -/
def printed (text : List Char) : Int := if text.length ≤ 2147483647 then text.length else -1

theorem printed_length {text : List Char} (h : text.length ≤ 2147483647) : printed text = text.length :=
  if_pos h

def cstr (buf : List Char) : List Char := buf.takeWhile (· ≠ '\x00')

/-- The successive results of `fgets` with a buffer of `size` bytes, up to the end of the
file. The first argument is what has been read into the buffer: reading stops after a
newline and when `size - 1` bytes are in it. -/
def fgets (size : Nat) : List Char → List Char → List (List Char)
  | [], [] => []
  | buf, [] => [buf]
  | buf, c :: l =>
    if c = '\n' ∨ size ≤ buf.length + 2 then (buf ++ [c]) :: fgets size [] l
    else fgets size (buf ++ [c]) l

/-- After a newline reading begins afresh. -/
theorem fgets_newline (size : Nat) (buf a l : List Char) :
    fgets size buf (a ++ '\n' :: l) = fgets size buf (a ++ ['\n']) ++ fgets size [] l := by
  induction a generalizing buf with
  | nil => cases buf <;> simp [fgets]
  | cons c a ih =>
    simp only [List.cons_append,fgets]
    split
    · rw [ih,List.cons_append]
    · exact ih _

/-- A line that fits is read in one piece. -/
theorem fgets_line {size : Nat} {buf a : List Char} (l : List Char) (ha : '\n' ∉ a)
    (hs : buf.length + a.length + 2 ≤ size) :
    fgets size buf (a ++ '\n' :: l) = (buf ++ a ++ ['\n']) :: fgets size [] l := by
  induction a generalizing buf with
  | nil => cases buf <;> simp [fgets]
  | cons c a ih =>
    have hc : c ≠ '\n' := by
      rintro rfl
      simp at ha
    have hroom : ¬size ≤ buf.length + 2 := by
      simp only [List.length_cons] at hs
      omega
    simp only [List.cons_append,fgets]
    rw [if_neg (by simp [hc,hroom])]
    rw [ih (by simp_all) (by simp only [List.length_append,List.length_cons,List.length_nil] at hs ⊢; omega)]
    simp

/-- `%<width>[...]`: at least one and at most `width` characters of a set, and the rest. -/
def scanSet (width : Nat) (p : Char → Bool) (l : List Char) : Option (List Char × List Char) :=
  let w := (l.take width).takeWhile p
  if w = [] then none else some (w,l.drop w.length)

/-- `%<width>s`. -/
def scanWord (width : Nat) (l : List Char) : Option (List Char × List Char) :=
  scanSet width (fun c => !isspace c) (l.dropWhile isspace)

def scanChar (c : Char) : List Char → Option (List Char)
  | [] => none
  | d :: l => if d = c then some l else none

/-- A scanner takes what belongs to its set and stops before the rest. -/
theorem scan_set_stop {width : Nat} {p : Char → Bool} {w rest : List Char} (hw : w ≠ [])
    (hlen : w.length ≤ width) (hp : ∀ c ∈ w, p c = true) (hstop : ∀ c ∈ rest.head?, p c = false) :
    scanSet width p (w ++ rest) = some (w,rest) := by
  have hnone : (rest.take (width - w.length)).takeWhile p = [] := by
    cases rest with
    | nil => simp
    | cons c r =>
      cases width - w.length with
      | zero => rfl
      | succ k => simp [hstop c rfl]
  have htake : ((w ++ rest).take width).takeWhile p = w := by
    rw [List.take_append,List.take_of_length_le hlen,List.takeWhile_append_of_pos hp,hnone,List.append_nil]
  unfold scanSet
  simp only [htake,if_neg hw,List.drop_left]

/-- What it takes is at the front and belongs to the set. -/
theorem scan_set_some {width : Nat} {p : Char → Bool} {l w rest : List Char}
    (h : scanSet width p l = some (w,rest)) : l = w ++ rest ∧ ∀ c ∈ w, p c = true := by
  unfold scanSet at h
  simp only at h
  split at h
  · cases h
  · simp only [Option.some.injEq,Prod.mk.injEq] at h
    obtain ⟨rfl,rfl⟩ := h
    refine ⟨?_,List.all_eq_true.mp List.all_takeWhile⟩
    have hpre : (l.take width).takeWhile p <+: l :=
      (List.takeWhile_prefix p).trans (List.take_prefix width l)
    exact (List.prefix_iff_eq_append.mp hpre).symm

theorem scan_char_some {c : Char} {l rest : List Char} (h : scanChar c l = some rest) :
    l = c :: rest := by
  cases l with
  | nil => cases h
  | cons d l =>
    simp only [scanChar] at h
    split at h
    · rename_i hd
      cases h
      rw [hd]
    · cases h

/-- A word goes on at most to the end of what follows it. -/
theorem scan_word_front {width : Nat} {w : List Char} (r : List Char) (hw : w ≠ [])
    (hlen : w.length ≤ width) (hp : ∀ c ∈ w, isspace c = false) :
    ∃ more rest, scanWord width (w ++ r) = some (w ++ more,rest) ∧ more <+: r := by
  have hdrop : (w ++ r).dropWhile isspace = w ++ r := by
    cases w with
    | nil => exact absurd rfl hw
    | cons c w => rw [List.cons_append,List.dropWhile_cons_of_neg (by simp [hp c])]
  have hpos : ∀ c ∈ w, (!isspace c) = true := by
    intro c hc
    simp [hp c hc]
  have htake : ((w ++ r).take width).takeWhile (fun c => !isspace c) =
      w ++ (r.take (width - w.length)).takeWhile (fun c => !isspace c) := by
    rw [List.take_append,List.take_of_length_le hlen,List.takeWhile_append_of_pos hpos]
  have hscan : ∃ rest, scanWord width (w ++ r) =
      some (w ++ (r.take (width - w.length)).takeWhile (fun c => !isspace c),rest) := by
    unfold scanWord scanSet
    simp only [hdrop,htake]
    rw [if_neg (by simp [hw])]
    exact ⟨_,rfl⟩
  obtain ⟨rest,hrest⟩ := hscan
  exact ⟨_,rest,hrest,(List.takeWhile_prefix _).trans (List.take_prefix _ _)⟩

end Lib
