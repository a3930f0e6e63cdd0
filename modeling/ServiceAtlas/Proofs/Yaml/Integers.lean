import Mathlib.Algebra.Group.Int.Defs
import ServiceAtlas.Proofs.Text.Digits
import ServiceAtlas.Yaml.Value

/-!
# Integers in YAML

An unquoted scalar in decimal digits, with a minus if need be, is read as the integer it spells,
from the least signed integer of 64 bits to the greatest unsigned one. No scalar is read as an
integer beyond these.
-/
namespace ServiceAtlas.Yaml

namespace Plain

/-- The mark of a radix has a letter. -/
theorem radixOf_of_isWord {text : List Char} (h : Text.isWord text = false) :
    radixOf text = (10, text) := by
  have hmarks : radixMarks.all (Text.isWord ·.1) = true := by decide
  have hnone : ∀ m ∈ radixMarks, (Text.after? m.1 text).map (m.2, ·) = none := by
    intro m hm
    cases hafter : Text.after? m.1 text with
    | none => rfl
    | some rest =>
      obtain rfl := Text.after?_eq_some_iff.mp hafter
      have hmark : Text.isWord m.1 = true := List.all_eq_true.mp hmarks m hm
      rw [Text.isWord, List.any_append] at h
      exact absurd ((Bool.or_eq_false_iff.mp h).1.symm.trans hmark) Bool.false_ne_true
  rw [radixOf, List.findSome?_eq_none_iff.mpr hnone]
  rfl

theorem withoutPlus_toDigits (n : Nat) : withoutPlus (Nat.toDigits 10 n) = Nat.toDigits 10 n := by
  obtain ⟨c, text, hd, hplus, -⟩ := Text.exists_toDigits_eq_cons n
  simp [hd, withoutPlus, hplus]

theorem withoutSign_toDigits (n : Nat) : withoutSign (Nat.toDigits 10 n) = Nat.toDigits 10 n := by
  obtain ⟨c, text, hd, hplus, hminus⟩ := Text.exists_toDigits_eq_cons n
  simp [hd, withoutSign, hplus, hminus]

theorem beginsWithSign_toDigits (n : Nat) : beginsWithSign (Nat.toDigits 10 n) = false := by
  obtain ⟨c, text, hd, hplus, hminus⟩ := Text.exists_toDigits_eq_cons n
  simp [hd, beginsWithSign, hplus, hminus]

theorem isZeroLed_of_toDigits {n : Nat} {text : List Char}
    (h : withoutSign text = Nat.toDigits 10 n) : isZeroLed text = false := by
  unfold isZeroLed
  split
  · next c rest hzero =>
    rw [h] at hzero
    obtain rfl : n = 0 := Text.eq_zero_of_head?_toDigits (by rw [hzero]; rfl)
    cases hzero
  · rfl

theorem natural?_toDigits (bound n : Nat) :
    natural? bound (Nat.toDigits 10 n) = if n ≤ bound then some n else none := by
  have hradix : radixOf (Nat.toDigits 10 n) = (10, Nat.toDigits 10 n) :=
    radixOf_of_isWord (Text.isWord_toDigits _)
  simp only [natural?, withoutPlus_toDigits, hradix, beginsWithSign_toDigits,
    isZeroLed_of_toDigits (withoutSign_toDigits n), Text.readNat_toDigits]
  by_cases h : n ≤ bound
  · simp [h, Except.toOption]
  · simp [h, Except.toOption]

theorem natural?_minus (bound n : Nat) : natural? bound ('-' :: Nat.toDigits 10 n) = none := by
  have hradix : radixOf ('-' :: Nat.toDigits 10 n) = (10, '-' :: Nat.toDigits 10 n) :=
    radixOf_of_isWord (Text.isWord_toDigits n)
  simp [natural?, withoutPlus, hradix, beginsWithSign]

theorem negative?_minus {bound n : Nat} (h : n ≤ bound) :
    negative? bound ('-' :: Nat.toDigits 10 (n + 1)) = some (Int.negSucc n) := by
  have hradix : radixOf (Nat.toDigits 10 (n + 1)) = (10, Nat.toDigits 10 (n + 1)) :=
    radixOf_of_isWord (Text.isWord_toDigits _)
  have hzero : isZeroLed ('-' :: Nat.toDigits 10 (n + 1)) = false := isZeroLed_of_toDigits rfl
  have hread := Text.readInt_toString bound (Int.negSucc n)
  rw [Text.toList_toString_negSucc, if_pos (by omega)] at hread
  simp [negative?, hradix, hzero, hread, Except.toOption]

theorem integer?_toString {n : Int} (hlow : -(2 ^ 63) ≤ n) (hhigh : n < 2 ^ 64) :
    integer? (toString n).toList = some n := by
  cases n with
  | ofNat m =>
    have htext : (toString (Int.ofNat m)).toList = Nat.toDigits 10 m :=
      Text.toList_toString_ofNat m
    have hm : m ≤ Text.maxNat64 := by
      have hlt : (m : Int) < 2 ^ 64 := hhigh
      rw [Text.maxNat64]
      omega
    rw [integer?, htext, natural?_toDigits, if_pos hm]
    rfl
  | negSucc m =>
    have hm : m ≤ Text.maxInt64 := by
      rw [Text.maxInt64]
      omega
    rw [integer?, Text.toList_toString_negSucc, natural?_minus]
    exact negative?_minus hm

theorem le_of_natural? {bound n : Nat} {text : List Char} (h : natural? bound text = some n) :
    n ≤ bound := by
  unfold natural? at h
  dsimp only at h
  split at h
  · cases h
  · exact Text.readNat_le (toOption_eq_some_iff.mp h)

theorem bounds_of_negative? {bound : Nat} {n : Int} {text : List Char}
    (h : negative? bound text = some n) : -(bound + 1 : Int) ≤ n ∧ n ≤ bound := by
  unfold negative? at h
  split at h
  · dsimp only at h
    split at h
    · cases h
    · exact Text.readInt_bounds (toOption_eq_some_iff.mp h)
  · split at h
    · cases h
    · exact Text.readInt_bounds (toOption_eq_some_iff.mp h)

theorem bounds_of_integer? {n : Int} {text : List Char} (h : integer? text = some n) :
    -(2 ^ 63) ≤ n ∧ n < 2 ^ 64 := by
  unfold integer? at h
  split at h
  · next m hm =>
    have hle := le_of_natural? hm
    rw [Text.maxNat64] at hle
    obtain rfl : (m : Int) = n := Option.some.inj h
    omega
  · have hbounds := bounds_of_negative? h
    rw [Text.maxInt64] at hbounds
    omega

theorem ofText_toString {n : Int} (hlow : -(2 ^ 63) ≤ n) (hhigh : n < 2 ^ 64) :
    ofText (toString n) = .integer n := by
  have hempty : toString n ≠ "" := fun h =>
    Text.toList_toString_ne_nil n (String.toList_eq_nil_iff.mpr h)
  have hnull : isNullWord (toString n) = false :=
    decide_eq_false (Text.toString_notMem_words n (by decide))
  have hboolean : boolean? (toString n) = none := by
    rw [boolean?, if_neg (Text.toString_notMem_words n (by decide)),
      if_neg (Text.toString_notMem_words n (by decide))]
  simp only [ofText, String.isEmpty_iff, Bool.or_eq_true, hempty, hnull, hboolean,
    integer?_toString hlow hhigh, Bool.false_eq_true, or_self, if_false]

theorem integer?_of_ofText {text : String} {n : Int} (h : ofText text = .integer n) :
    integer? text.toList = some n := by
  unfold ofText at h
  dsimp only at h
  split at h
  · cases h
  · split at h
    · cases h
    · split at h
      · next m hm =>
        obtain rfl := Plain.integer.inj h
        exact hm
      · split at h
        · cases h
        · split at h
          · cases h
          · split at h <;> cases h

end Plain

theorem Value.ofScalar_toString {n : Int} (hlow : -(2 ^ 63) ≤ n) (hhigh : n < 2 ^ 64) :
    ofScalar none .plain (toString n) = .ok (.integer n) := by
  change ofPlain (toString n) = _
  rw [ofPlain, Plain.ofText_toString hlow hhigh]

namespace Document

theorem run_read_scalar (d : Document) (depth followed : Nat) (anchor : Option Nat)
    (tag : Option Tag) (style : ScalarStyle) (text : String) :
    (d.read depth (.scalar anchor tag style text)).run followed =
      (Value.ofScalar tag style text).map (·, followed) := by
  cases depth with
  | zero => rfl
  | succ depth => rfl

/-- An unquoted integer is read as itself at any depth of a document. -/
theorem run_read_toString {n : Int} (hlow : -(2 ^ 63) ≤ n) (hhigh : n < 2 ^ 64) (d : Document)
    (depth followed : Nat) (anchor : Option Nat) :
    (d.read depth (.scalar anchor none .plain (toString n))).run followed =
      .ok (.integer n, followed) := by
  rw [run_read_scalar, Value.ofScalar_toString hlow hhigh]
  rfl

end Document
end ServiceAtlas.Yaml
