import Mathlib.Algebra.Group.Int.Defs
import Mathlib.Algebra.Group.Nat.Defs
import Mathlib.Data.List.Induction
import Mathlib.Data.Nat.Digits.Defs

namespace StsGateway.Data

/-! Big-endian byte sequences. -/

def wordBytes (word : UInt16) : List UInt8 :=
  [UInt8.ofNat (word.toNat / 256), UInt8.ofNat (word.toNat % 256)]

def bytesWord (high low : UInt8) : UInt16 := UInt16.ofNat (256 * high.toNat + low.toNat)

def wordsBytes (words : List UInt16) : List UInt8 := words.flatMap wordBytes

/-- The words of a byte sequence; an odd last byte belongs to none. -/
def bytesWords : List UInt8 → List UInt16
  | high :: low :: rest => bytesWord high low :: bytesWords rest
  | _ => []

/-- The natural number a byte sequence spells, most significant byte first. -/
def bigEndian (bytes : List UInt8) : Nat :=
  bytes.foldl (fun value byte => 256 * value + byte.toNat) 0

/-- Reinterpret a natural number below `2 ^ bits` as two's complement. -/
def twosComplement (bits value : Nat) : Int :=
  if value < 2 ^ (bits - 1) then value else value - 2 ^ bits

def window (bytes : List UInt8) (offset width : Nat) : List UInt8 :=
  (bytes.drop offset).take width

/-- The last `count` base-65536 digits of a number, most significant first. -/
def numberWords : Nat → Nat → List UInt16
  | 0, _ => []
  | count + 1, number => numberWords count (number / 65536) ++ [UInt16.ofNat (number % 65536)]

@[simp] theorem wordsBytes_nil : wordsBytes [] = [] := rfl

@[simp] theorem wordsBytes_cons (word : UInt16) (rest : List UInt16) :
    wordsBytes (word :: rest) = wordBytes word ++ wordsBytes rest := rfl

@[simp] theorem wordsBytes_append (left right : List UInt16) :
    wordsBytes (left ++ right) = wordsBytes left ++ wordsBytes right :=
  List.flatMap_append

@[simp] theorem length_wordsBytes (words : List UInt16) :
    (wordsBytes words).length = 2 * words.length := by
  induction words with
  | nil => rfl
  | cons word rest ih =>
      simp only [wordsBytes_cons, List.length_append, List.length_cons, ih, wordBytes,
        List.length_nil]
      omega

theorem bytesWord_wordBytes (word : UInt16) :
    bytesWord (UInt8.ofNat (word.toNat / 256)) (UInt8.ofNat (word.toNat % 256)) = word := by
  have bound := word.toNat_lt
  apply UInt16.toNat_inj.mp
  rw [bytesWord, UInt16.toNat_ofNat', UInt8.toNat_ofNat', UInt8.toNat_ofNat']
  omega

theorem bytesWords_wordsBytes (words : List UInt16) : bytesWords (wordsBytes words) = words := by
  induction words with
  | nil => rfl
  | cons word rest ih =>
      rw [wordsBytes_cons, wordBytes, List.cons_append, List.cons_append, List.nil_append, bytesWords,
        bytesWord_wordBytes, ih]

theorem window_append_left {front : List UInt8} {offset width : Nat} (back : List UInt8)
    (inside : offset + width ≤ front.length) :
    window (front ++ back) offset width = window front offset width := by
  have starts : offset ≤ front.length := by omega
  have short : width ≤ (front.drop offset).length := by
    rw [List.length_drop]
    omega
  rw [window, window, List.drop_append_of_le_length starts, List.take_append_of_le_length short]

theorem bigEndian_eq_ofDigits (bytes : List UInt8) :
    bigEndian bytes = Nat.ofDigits 256 (bytes.map UInt8.toNat).reverse := by
  induction bytes using List.reverseRecOn with
  | nil => rfl
  | append_singleton bytes byte ih =>
      rw [bigEndian, List.foldl_append, ← bigEndian, ih, List.map_append, List.reverse_append,
        List.map_singleton, List.reverse_singleton, List.singleton_append, Nat.ofDigits_cons,
        Nat.add_comm]
      rfl

theorem bigEndian_append_word (bytes : List UInt8) (word : UInt16) :
    bigEndian (bytes ++ wordBytes word) = 65536 * bigEndian bytes + word.toNat := by
  have bound := word.toNat_lt
  rw [bigEndian, List.foldl_append, ← bigEndian]
  simp only [wordBytes, List.foldl_cons, List.foldl_nil, UInt8.toNat_ofNat']
  omega

@[simp] theorem length_numberWords (count number : Nat) :
    (numberWords count number).length = count := by
  induction count generalizing number with
  | zero => rfl
  | succ count ih => rw [numberWords, List.length_append, List.length_singleton, ih]

theorem bigEndian_numberWords (count number : Nat) :
    bigEndian (wordsBytes (numberWords count number)) = number % 65536 ^ count := by
  induction count generalizing number with
  | zero => rw [Nat.pow_zero, Nat.mod_one]; rfl
  | succ count ih =>
      have digit : (UInt16.ofNat (number % 65536)).toNat = number % 65536 := by
        rw [UInt16.toNat_ofNat']
        omega
      rw [numberWords, wordsBytes_append, wordsBytes_cons, wordsBytes_nil, List.append_nil,
        bigEndian_append_word, ih, digit, Nat.pow_succ', Nat.mod_mul, Nat.add_comm]

theorem bytes_of_words (words : List UInt16) :
    (wordsBytes words).map UInt8.toNat =
      words.flatMap fun word => [word.toNat / 256, word.toNat % 256] := by
  induction words with
  | nil => rfl
  | cons word rest ih =>
      have bound := word.toNat_lt
      have high : (UInt8.ofNat (word.toNat / 256)).toNat = word.toNat / 256 := by
        rw [UInt8.toNat_ofNat']
        omega
      have low : (UInt8.ofNat (word.toNat % 256)).toNat = word.toNat % 256 := by
        rw [UInt8.toNat_ofNat']
        omega
      rw [wordsBytes_cons, List.map_append, ih, List.flatMap_cons, wordBytes, List.map_cons,
        List.map_singleton, high, low]

theorem window_append_right {front : List UInt8} {offset width : Nat} (back : List UInt8)
    (starts : offset = front.length) :
    window (front ++ back) offset width = back.take width := by
  rw [window, starts, List.drop_left]

end StsGateway.Data
