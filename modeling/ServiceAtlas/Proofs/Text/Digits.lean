import ServiceAtlas.Proofs.Results
import ServiceAtlas.Text.Integer

/-! Integers written in decimal digits are read back as themselves within the bounds of the reader
and refused beyond them. -/
namespace ServiceAtlas.Text

theorem readDigits_append (radix bound : Nat) (beyond : IntegerFault) (n : Nat)
    (text rest : List Char) :
    readDigits radix bound beyond n (text ++ rest) =
      (readDigits radix bound beyond n text).bind (readDigits radix bound beyond · rest) := by
  induction text generalizing n with
  | nil => rfl
  | cons c text ih =>
    rw [List.cons_append, readDigits, readDigits]
    cases digit? radix c with
    | none => rfl
    | some d =>
      by_cases hle : n * radix + d ≤ bound
      · simp only [if_pos hle, ih]
      · simp only [if_neg hle]
        rfl

theorem digit?_digitChar : ∀ d < 10, digit? 10 (Nat.digitChar d) = some d := by decide

theorem readDigits_singleton {radix d : Nat} {c : Char} (hc : digit? radix c = some d)
    (bound : Nat) (beyond : IntegerFault) (n : Nat) :
    readDigits radix bound beyond n [c] =
      if n * radix + d ≤ bound then .ok (n * radix + d) else .error beyond := by
  simp [readDigits, hc]

-- The last digit is read behind the others, so the induction is on the number divided by ten.
theorem readDigits_toDigits (bound : Nat) (beyond : IntegerFault) (n : Nat) :
    readDigits 10 bound beyond 0 (Nat.toDigits 10 n) =
      if n ≤ bound then .ok n else .error beyond := by
  induction n using Nat.strongRecOn with
  | ind n ih =>
    by_cases hlt : n < 10
    · rw [Nat.toDigits_of_lt_base hlt, readDigits_singleton (digit?_digitChar n hlt)]
      simp
    · have hmod : n % 10 < 10 := Nat.mod_lt n (by decide)
      rw [Nat.toDigits_of_base_le (by decide) (by omega), readDigits_append,
        ih (n / 10) (by omega)]
      by_cases hdiv : n / 10 ≤ bound
      · rw [if_pos hdiv, Except.bind, readDigits_singleton (digit?_digitChar _ hmod),
          Nat.div_add_mod']
      · rw [if_neg hdiv, if_neg (by omega)]
        rfl

/-- Digits begin with a zero in that of zero only. -/
theorem eq_zero_of_head?_toDigits {n : Nat} (h : (Nat.toDigits 10 n).head? = some '0') : n = 0 := by
  induction n using Nat.strongRecOn with
  | ind n ih =>
    by_cases hlt : n < 10
    · rw [Nat.toDigits_of_lt_base hlt] at h
      have hdigit := (digit?_digitChar n hlt).symm.trans (congrArg (digit? 10) (Option.some.inj h))
      exact Option.some.inj hdigit
    · have hne : Nat.toDigits 10 (n / 10) ≠ [] := Nat.toDigits_ne_nil
      rw [Nat.toDigits_of_base_le (by decide) (by omega), List.head?_append,
        Option.or_of_isSome (List.isSome_head?.mpr hne)] at h
      have hdiv := ih (n / 10) (by omega) h
      omega

theorem exists_toDigits_eq_cons (n : Nat) :
    ∃ c text, Nat.toDigits 10 n = c :: text ∧ c ≠ '+' ∧ c ≠ '-' := by
  obtain ⟨c, text, hd⟩ := List.exists_cons_of_ne_nil (Nat.toDigits_ne_nil (b := 10) (n := n))
  have hdigit : c.isDigit = true :=
    Nat.isDigit_of_mem_toDigits (by decide) (by decide) (hd ▸ List.mem_cons_self)
  refine ⟨c, text, hd, ?_, ?_⟩
  · rintro rfl
    exact absurd hdigit (by decide)
  · rintro rfl
    exact absurd hdigit (by decide)

theorem readNat_toDigits (bound n : Nat) :
    readNat 10 bound (Nat.toDigits 10 n) = if n ≤ bound then .ok n else .error .tooLarge := by
  rw [← readDigits_toDigits bound .tooLarge n]
  obtain ⟨c, text, hd, hplus, -⟩ := exists_toDigits_eq_cons n
  simp [hd, readNat, hplus]

theorem readInt_minus {text : List Char} (radix bound : Nat) (hne : text ≠ []) :
    readInt radix bound ('-' :: text) =
      (readDigits radix (bound + 1) .tooSmall 0 text).map fun n => -(n : Int) := by
  rw [readInt]
  rintro rfl
  exact hne rfl

theorem readInt_toDigits (bound n : Nat) :
    readInt 10 bound (Nat.toDigits 10 n) =
      (readNat 10 bound (Nat.toDigits 10 n)).map Int.ofNat := by
  obtain ⟨c, text, hd, -, hminus⟩ := exists_toDigits_eq_cons n
  simp [hd, readInt, hminus]

theorem toList_toString_ofNat (n : Nat) : (toString (n : Int)).toList = Nat.toDigits 10 n :=
  Nat.toList_repr

theorem toList_toString_negSucc (n : Nat) :
    (toString (Int.negSucc n)).toList = '-' :: Nat.toDigits 10 (n + 1) := by
  change ("-" ++ (n + 1).repr).toList = _
  rw [String.toList_append, Nat.toList_repr]
  rfl

theorem toList_toString_ne_nil (n : Int) : (toString n).toList ≠ [] := by
  cases n with
  | ofNat n => exact toList_toString_ofNat n ▸ Nat.toDigits_ne_nil
  | negSucc n => exact toList_toString_negSucc n ▸ List.cons_ne_nil _ _

/-- An integer is written in digits and a minus. -/
theorem eq_minus_or_isDigit_of_mem_toString {n : Int} {c : Char} (h : c ∈ (toString n).toList) :
    c = '-' ∨ c.isDigit = true := by
  have hdigit {m : Nat} (hm : c ∈ Nat.toDigits 10 m) : c.isDigit = true :=
    Nat.isDigit_of_mem_toDigits (by decide) (by decide) hm
  cases n with
  | ofNat n =>
    exact Or.inr (hdigit (toList_toString_ofNat n ▸ h))
  | negSucc n =>
    rw [toList_toString_negSucc] at h
    exact (List.mem_cons.mp h).imp_right hdigit

/-- Whether a text has a character that integers are not written in. -/
def isWord (text : List Char) : Bool := text.any fun c => c != '-' && !c.isDigit

theorem isWord_toString (n : Int) : isWord (toString n).toList = false := by
  refine List.any_eq_false.mpr fun c hc => ?_
  rcases eq_minus_or_isDigit_of_mem_toString hc with rfl | hdigit
  · decide
  · simp [hdigit]

theorem isWord_toDigits (n : Nat) : isWord (Nat.toDigits 10 n) = false :=
  toList_toString_ofNat n ▸ isWord_toString n

theorem toString_notMem_words (n : Int) {words : List String}
    (h : words.all (isWord ·.toList) = true) : toString n ∉ words := by
  intro hn
  exact Bool.false_ne_true ((isWord_toString n).symm.trans (List.all_eq_true.mp h _ hn))

theorem readBool_toString (n : Int) : readBool (toString n) = none := by
  have hwords : toString n ∉ ["true", "false"] := toString_notMem_words n (by decide)
  simp only [List.mem_cons, List.not_mem_nil, or_false, not_or] at hwords
  rw [readBool, if_neg hwords.1, if_neg hwords.2]

/-- The fault of an integer out of bounds. -/
def beyondBounds (n : Int) : IntegerFault := if n < 0 then .tooSmall else .tooLarge

/-- An integer is read back from its digits, with a minus before those of a negative one, if it is
within the bounds, and is refused otherwise. -/
theorem readInt_toString (bound : Nat) (n : Int) :
    readInt 10 bound (toString n).toList =
      if -(bound + 1 : Int) ≤ n ∧ n ≤ bound then .ok n else .error (beyondBounds n) := by
  cases n with
  | ofNat m =>
    have htext : (toString (Int.ofNat m)).toList = Nat.toDigits 10 m := toList_toString_ofNat m
    rw [htext, readInt_toDigits, readNat_toDigits]
    by_cases h : m ≤ bound
    · have hlow : -(bound + 1 : Int) ≤ Int.ofNat m := Int.le_trans (by omega) (Int.natCast_nonneg m)
      rw [if_pos h, if_pos ⟨hlow, Int.ofNat_le.mpr h⟩]
      rfl
    · rw [if_neg h, if_neg fun hm => h (Int.ofNat_le.mp hm.2)]
      rfl
  | negSucc m =>
    rw [toList_toString_negSucc, readInt_minus 10 bound Nat.toDigits_ne_nil, readDigits_toDigits]
    by_cases h : m + 1 ≤ bound + 1
    · rw [if_pos h, if_pos (by omega)]
      rfl
    · rw [if_neg h, if_neg (by omega), beyondBounds, if_pos (Int.negSucc_lt_zero m)]
      rfl

theorem readInt64_toString {n : Int} (hlow : -(maxInt64 + 1 : Int) ≤ n) (hhigh : n ≤ maxInt64) :
    readInt64 (toString n).toList = .ok n := by
  rw [readInt64, readInt_toString, if_pos ⟨hlow, hhigh⟩]

theorem readInt64_toString_of_beyond {n : Int} (h : ¬(-(maxInt64 + 1 : Int) ≤ n ∧ n ≤ maxInt64)) :
    readInt64 (toString n).toList = .error (beyondBounds n) := by
  rw [readInt64, readInt_toString, if_neg h]

theorem readInt64_boolText (b : Bool) : readInt64 (boolText b).toList = .error .invalidDigit := by
  cases b <;> rfl

theorem readNat_le {radix bound n : Nat} {text : List Char} (h : readNat radix bound text = .ok n) :
    n ≤ bound := by
  unfold readNat at h
  split at h
  · cases h
  · cases h
  · exact readDigits_le (Nat.zero_le bound) h
  · exact readDigits_le (Nat.zero_le bound) h

theorem readInt_bounds {radix bound : Nat} {n : Int} {text : List Char}
    (h : readInt radix bound text = .ok n) : -(bound + 1 : Int) ≤ n ∧ n ≤ bound := by
  unfold readInt at h
  split at h
  · cases h
  · cases h
  · obtain ⟨_, hcast, rfl⟩ := map_eq_ok_iff.mp h
    obtain ⟨m, hm, rfl⟩ := map_eq_ok_iff.mp hcast
    have hle := readDigits_le (Nat.zero_le (bound + 1)) hm
    omega
  · obtain ⟨m, hm, rfl⟩ := map_eq_ok_iff.mp h
    have hle := readNat_le hm
    rw [Int.ofNat_eq_natCast]
    omega

end ServiceAtlas.Text
