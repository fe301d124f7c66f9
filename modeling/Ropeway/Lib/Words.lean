import Mathlib.Data.List.Basic
import Ropeway.Lib.Text

/-! Tables in text: the lines of a text, the words of a line, and the columns and numbers
`printf` puts into it. -/

namespace Lib

def lines (l : List Char) : List (List Char) := l.splitOn '\n'

def unlines (ls : List (List Char)) : List Char := ls.flatMap (· ++ ['\n'])

theorem lines_line {a : List Char} (h : '\n' ∉ a) (l : List Char) : lines (a ++ '\n' :: l) = a :: lines l :=
  List.splitOn_append_cons_self_of_not_mem h l

theorem lines_unlines {ls : List (List Char)} (h : ∀ a ∈ ls, '\n' ∉ a) : lines (unlines ls) = ls ++ [[]] := by
  induction ls with
  | nil => rfl
  | cons a ls ih =>
    have ha := h a (List.mem_cons_self ..)
    have hrest := ih fun b hb => h b (List.mem_cons_of_mem _ hb)
    have hsplit : unlines (a :: ls) = a ++ '\n' :: unlines ls := by simp [unlines]
    rw [hsplit,lines_line ha,hrest,List.cons_append]

def words (l : List Char) : List (List Char) := (l.splitOn ' ').filter (· ≠ [])

@[simp] theorem words_nil : words [] = [] := by simp [words]

theorem words_append (a l : List Char) : words (a ++ ' ' :: l) = words a ++ words l := by
  unfold words
  rw [List.splitOn_append_cons_self,List.filter_append]

theorem words_alone {w : List Char} (hw : w ≠ []) (hb : ' ' ∉ w) : words w = [w] := by
  unfold words
  rw [List.splitOn_eq_singleton hb]
  simp [hw]

theorem words_word {w : List Char} (hw : w ≠ []) (hb : ' ' ∉ w) (l : List Char) :
    words (w ++ ' ' :: l) = w :: words l := by
  rw [words_append,words_alone hw hb,List.singleton_append]

theorem words_blank (l : List Char) : words (' ' :: l) = words l := by
  have h := words_append [] l
  rwa [words_nil,List.nil_append,List.nil_append] at h

theorem words_blanks (k : Nat) (l : List Char) : words (List.replicate k ' ' ++ l) = words l := by
  induction k with
  | zero => rfl
  | succ k ih => rw [List.replicate_succ,List.cons_append,words_blank,ih]

/-- A column that `%-<width>s` or `%-<width>d` prints. -/
def column (width : Nat) (w : List Char) : List Char := w.rightpad width ' '

/-- What `%<width>d` prints. -/
def rightColumn (width : Nat) (w : List Char) : List Char := w.leftpad width ' '

/-- A column holds one word however wide it is. -/
theorem words_column (width : Nat) {w : List Char} (hw : w ≠ []) (hb : ' ' ∉ w) (l : List Char) :
    words (column width w ++ ' ' :: l) = w :: words l := by
  unfold column List.rightpad
  rw [List.append_assoc]
  cases width - w.length with
  | zero => exact words_word hw hb l
  | succ k => rw [List.replicate_succ,List.cons_append,words_word hw hb,words_blanks,words_blank]

theorem words_right_column (width : Nat) {w : List Char} (hw : w ≠ []) (hb : ' ' ∉ w) (l : List Char) :
    words (rightColumn width w ++ ' ' :: l) = w :: words l := by
  unfold rightColumn List.leftpad
  rw [List.append_assoc,words_blanks,words_word hw hb]

theorem mem_column {width : Nat} {w : List Char} {c : Char} (hc : c ≠ ' ') : c ∈ column width w ↔ c ∈ w := by
  unfold column List.rightpad
  simp [List.mem_replicate,hc]

theorem mem_right_column {width : Nat} {w : List Char} {c : Char} (hc : c ≠ ' ') :
    c ∈ rightColumn width w ↔ c ∈ w := by
  unfold rightColumn List.leftpad
  simp [List.mem_replicate,hc]

def readNumber (w : List Char) : Option Nat :=
  if w ≠ [] ∧ w.all Char.isDigit then some (leadingDigits w) else none

theorem decimal_digits (n : Nat) : decimal n = Nat.toDigits 10 n := by
  unfold decimal
  rw [if_neg (by omega),Int.natAbs_natCast]

theorem all_digits (n : Nat) : (Nat.toDigits 10 n).all Char.isDigit = true :=
  List.all_eq_true.mpr fun _ hc => Nat.isDigit_of_mem_toDigits (by decide) (by decide) hc

theorem read_number (n : Nat) : readNumber (decimal n) = some n := by
  have hlead := leading_digits n (l := []) (by simp [Ended])
  rw [List.append_nil] at hlead
  unfold readNumber
  rw [decimal_digits,if_pos ⟨Nat.toDigits_ne_nil,all_digits n⟩,hlead]

/-- Leading zeros do not change a number. -/
theorem leading_zeros (k : Nat) (l : List Char) : leadingDigits (List.replicate k '0' ++ l) = leadingDigits l := by
  induction k with
  | zero => rfl
  | succ k ih =>
    rw [← ih,List.replicate_succ,List.cons_append]
    unfold leadingDigits
    rw [List.takeWhile_cons_of_pos (by decide),Nat.ofDigitChars_cons]
    rfl

theorem padded_digits (width n : Nat) :
    zeroPadded width n = List.replicate (width - (Nat.toDigits 10 n).length) '0' ++ Nat.toDigits 10 n := by
  unfold zeroPadded
  rw [if_neg (by omega),Int.natAbs_natCast]
  rfl

theorem all_padded (width n : Nat) : (zeroPadded width n).all Char.isDigit = true := by
  rw [padded_digits,List.all_append,all_digits,Bool.and_true,List.all_eq_true]
  intro c hc
  rw [List.eq_of_mem_replicate hc]
  decide

theorem read_number_padded (width n : Nat) : readNumber (zeroPadded width n) = some n := by
  have hlead := leading_digits n (l := []) (by simp [Ended])
  rw [List.append_nil] at hlead
  have hne : zeroPadded width n ≠ [] := by simp [padded_digits,Nat.toDigits_ne_nil]
  unfold readNumber
  rw [if_pos ⟨hne,all_padded width n⟩,padded_digits,leading_zeros,hlead]

/-- A printed number holds digits only. -/
theorem not_mem_decimal (n : Nat) {c : Char} (hc : c.isDigit = false) : c ∉ decimal n := by
  intro h
  rw [decimal_digits] at h
  simp [Nat.isDigit_of_mem_toDigits (by decide) (by decide) h] at hc

theorem not_mem_padded (width n : Nat) {c : Char} (hc : c.isDigit = false) : c ∉ zeroPadded width n := by
  intro h
  simp [List.all_eq_true.mp (all_padded width n) c h] at hc

def readName {α : Type} (name : α → List Char) (all : List α) (w : List Char) : Option α :=
  all.find? (name · = w)

theorem read_name {α : Type} {name : α → List Char} {all : List α} (hinj : Function.Injective name) {a : α}
    (ha : a ∈ all) : readName name all (name a) = some a := by
  induction all with
  | nil => cases ha
  | cons b all ih =>
    unfold readName
    by_cases hb : name b = name a
    · rw [List.find?_cons_of_pos (by simpa using hb),hinj hb]
    · rw [List.find?_cons_of_neg (by simpa using hb)]
      rcases List.mem_cons.mp ha with rfl | ha
      · exact absurd rfl hb
      · exact ih ha

/-- A list is read element by element. -/
theorem map_m_some {α β : Type} {f : α → Option β} {l : List α} (h : ∀ a ∈ l, f a ≠ none) :
    l.mapM f = some (l.filterMap f) := by
  induction l with
  | nil => rfl
  | cons a l ih =>
    obtain ⟨b,hb⟩ := Option.ne_none_iff_exists'.mp (h a (List.mem_cons_self ..))
    have hl := ih fun a' ha' => h a' (List.mem_cons_of_mem _ ha')
    simp [List.mapM_cons,hb,hl]

end Lib
