import QueryTemplate.Proofs.Lists
import QueryTemplate.Text.Characters
import QueryTemplate.Number

/-!
# Numerals and trimming

* `Numeral.ofChars?_eq_some_iff`: a numeral is read exactly when it is the text in which its number is
  printed.
* `dropEndWhile_eq_rdropWhile`: cutting a class of characters from the end of a text is the library's
  `List.rdropWhile`.
* `trim_trim`: a trimmed text has nothing left to trim.
-/

namespace QueryTemplate.Text

/-! ## Numerals

A canonical numeral and the number that it writes determine each other. Reading goes from the left
with the value of the digits so far; `toDigits_ofDigitChars` says what printing that value gives. -/

namespace Numeral

theorem digitChar_toNat_sub {c : Char} (h : c.isDigit = true) :
    c.toNat - '0'.toNat < 10 ∧ (c.toNat - '0'.toNat).digitChar = c := by
  have hc : 48 ≤ c.toNat ∧ c.toNat ≤ 57 := Char.isDigit_iff_toNat.mp h
  have hlt : c.toNat - '0'.toNat < 10 := by
    change c.toNat - 48 < 10
    omega
  refine ⟨hlt, Char.toNat_inj.mp ?_⟩
  rw [Nat.toNat_digitChar_of_lt_ten hlt]
  change 48 + (c.toNat - 48) = c.toNat
  omega

/-- **Printing undoes reading**, if the digits are read behind those of a positive number. The induction
is on the digits; the number that is read behind grows with each of them. -/
theorem toDigits_ofDigitChars {cs : List Char} (hcs : ∀ c ∈ cs, c.isDigit = true) {m : Nat}
    (hm : 0 < m) :
    Nat.toDigits 10 (Nat.ofDigitChars 10 cs m) = Nat.toDigits 10 m ++ cs := by
  induction cs generalizing m with
  | nil => simp
  | cons c cs ih =>
    obtain ⟨hlt, hchar⟩ := digitChar_toNat_sub (hcs c (by simp))
    have hstep : Nat.toDigits 10 (10 * m + (c.toNat - '0'.toNat)) = Nat.toDigits 10 m ++ [c] := by
      rw [← Nat.toDigits_append_toDigits (by decide) hm hlt, Nat.toDigits_of_lt_base hlt, hchar]
    rw [Nat.ofDigitChars_cons, ih (fun d hd => hcs d (by simp [hd])) (by omega), hstep]
    simp

/-- **A canonical numeral is how its number is printed.** Its first digit is the positive number behind
which the others are read. -/
theorem toDigits_of_isCanonical {cs : List Char} (h : isCanonical cs = true) :
    Nat.toDigits 10 (Nat.ofDigitChars 10 cs 0) = cs := by
  unfold isCanonical at h
  split at h
  · exact absurd h (by decide)
  · decide
  · next c cs _ =>
    simp only [Bool.and_eq_true, bne_iff_ne, List.all_cons, List.all_eq_true] at h
    obtain ⟨hne, hc, hcs⟩ := h
    obtain ⟨hlt, hchar⟩ := digitChar_toNat_sub hc
    -- the first digit is positive, because it is not the character `0`
    have hpos : 0 < c.toNat - '0'.toNat := by
      rcases Nat.eq_zero_or_pos (c.toNat - '0'.toNat) with h0 | h0
      · rw [h0] at hchar
        exact absurd hchar.symm hne
      · exact h0
    rw [Nat.ofDigitChars_cons, Nat.mul_zero, Nat.zero_add, toDigits_ofDigitChars hcs hpos,
      Nat.toDigits_of_lt_base hlt, hchar]
    rfl

/-- The first digit of a positive number is not a zero. The induction is on the number without its last
digit. -/
theorem toDigits_eq_cons {n : Nat} (hn : 0 < n) :
    ∃ c cs, Nat.toDigits 10 n = c :: cs ∧ c ≠ '0' := by
  induction n using Nat.strongRecOn with
  | ind n ih =>
    rcases Nat.lt_or_ge n 10 with hlt | hge
    · refine ⟨n.digitChar, [], Nat.toDigits_of_lt_base hlt, ?_⟩
      rw [ne_eq, Nat.digitChar_eq_zero]
      omega
    · -- the first digit is that of the number without its last digit
      obtain ⟨c, cs, hcs, hc⟩ := ih (n / 10) (by omega) (by omega)
      refine ⟨c, cs ++ [(n % 10).digitChar], ?_, hc⟩
      rw [Nat.toDigits_of_base_le (by decide) hge, hcs, List.cons_append]

/-- What is printed is canonical: `0` by itself, and a positive number by its first digit. -/
theorem isCanonical_toDigits (n : Nat) : isCanonical (Nat.toDigits 10 n) = true := by
  rcases Nat.eq_zero_or_pos n with rfl | hn
  · decide
  · obtain ⟨c, cs, hcs, hc⟩ := toDigits_eq_cons hn
    have hdigit : ∀ d ∈ c :: cs, d.isDigit = true := by
      intro d hd
      rw [← hcs] at hd
      exact Nat.isDigit_of_mem_toDigits (by decide) (by decide) hd
    rw [hcs]
    unfold isCanonical
    split
    · next h => exact absurd h (by simp)
    · rfl
    · next h =>
      obtain ⟨rfl, rfl⟩ := List.cons.inj h
      simp only [Bool.and_eq_true, bne_iff_ne, List.all_eq_true]
      exact ⟨hc, hdigit⟩

/-- **A numeral is read exactly when it is the text of its number.** So the reader takes no zeros in
front, no signs and nothing that is too large. -/
theorem ofChars?_eq_some_iff {cs : List Char} {n : UInt32} :
    ofChars? cs = some n ↔ cs = (text n).toList := by
  rw [text, Nat.toList_repr]
  constructor
  · intro h
    simp only [ofChars?, Bool.and_eq_true, decide_eq_true_eq] at h
    split at h
    · next hcs =>
      have hn : n.toNat = Nat.ofDigitChars 10 cs 0 := by
        rw [← Option.some.inj h, UInt32.toNat_ofNat_of_lt' hcs.2]
      rw [hn, toDigits_of_isCanonical hcs.1]
    · exact absurd h (by simp)
  · rintro rfl
    have hlt : n.toNat < UInt32.size := n.toNat_lt
    simp [ofChars?, isCanonical_toDigits, hlt]

theorem isDigit_of_mem_text {n : UInt32} {c : Char} (hc : c ∈ (text n).toList) :
    c.isDigit = true := by
  rw [text, Nat.toList_repr] at hc
  exact Nat.isDigit_of_mem_toDigits (by decide) (by decide) hc

end Numeral

/-! ## Trimming -/

theorem dropEndWhile_cons (p : Char → Bool) (c : Char) (cs : List Char) :
    dropEndWhile p (c :: cs)
      = if (dropEndWhile p cs).isEmpty && p c then [] else c :: dropEndWhile p cs := rfl

/-- Cutting a class of characters from the end of a text is the library's `List.rdropWhile`. The induction
is on the text, as in the definition. -/
theorem dropEndWhile_eq_rdropWhile (p : Char → Bool) (cs : List Char) :
    dropEndWhile p cs = cs.rdropWhile p := by
  induction cs with
  | nil => rfl
  | cons c cs ih =>
    rw [dropEndWhile_cons, ih]
    unfold List.rdropWhile
    rw [List.reverse_cons, List.dropWhile_append]
    -- the first character goes only if all behind it went
    cases hrest : cs.reverse.dropWhile p with
    | nil => cases hc : p c <;> simp [List.dropWhile, hc]
    | cons d ds => simp

theorem mem_of_mem_trim {c : Char} {cs : List Char} (h : c ∈ trim cs) : c ∈ cs := by
  rw [trim, dropEndWhile_eq_rdropWhile] at h
  have hmem := (List.rdropWhile_prefix isBlank (cs.dropWhile isBlank)).subset h
  exact (List.dropWhile_sublist isBlank).subset hmem

/-- A trimmed text begins with no blank. Trimming cuts blanks off the start first, and cutting off the end
keeps the first character that is left. -/
theorem dropWhile_trim (cs : List Char) : (trim cs).dropWhile isBlank = trim cs := by
  rw [trim, dropEndWhile_eq_rdropWhile]
  obtain ⟨rest, hrest⟩ := List.rdropWhile_prefix isBlank (cs.dropWhile isBlank)
  cases hcut : (cs.dropWhile isBlank).rdropWhile isBlank with
  | nil => rfl
  | cons c ds =>
    -- its first character is that of the text without the blanks in front
    rw [hcut, List.cons_append] at hrest
    have hc : ¬ isBlank c = true := by
      have hne : cs.dropWhile isBlank ≠ [] := by rw [← hrest]; simp
      have hhead := List.head_dropWhile_not isBlank hne
      simpa [← hrest] using hhead
    rw [List.dropWhile_cons_of_neg hc]

/-- **A trimmed text has nothing left to trim.** -/
theorem trim_trim (cs : List Char) : trim (trim cs) = trim cs := by
  have hcut : trim (trim cs) = (trim cs).rdropWhile isBlank := by
    conv_lhs => rw [trim, dropEndWhile_eq_rdropWhile]
    rw [dropWhile_trim]
  rw [hcut, trim, dropEndWhile_eq_rdropWhile]
  exact List.rdropWhile_idempotent isBlank _

theorem isBlankText_iff {s : String} : isBlankText s = true ↔ trim s.toList = [] := by
  rw [isBlankText, trim, dropEndWhile_eq_rdropWhile, List.rdropWhile_eq_nil_iff, List.all_eq_true]
  constructor
  · intro h c hc
    exact h c ((List.dropWhile_sublist isBlank).mem hc)
  · intro h c hc
    -- the blanks at the start were cut off as such, and the rest is blank by assumption
    rw [← List.takeWhile_append_dropWhile (p := isBlank) (l := s.toList), List.mem_append] at hc
    rcases hc with hc | hc
    · exact List.mem_takeWhile_imp hc
    · exact h c hc

end QueryTemplate.Text
