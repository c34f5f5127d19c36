import NorFlash.Text.IntegerLiteral

/-!
# Reading numerals

The decimal form of an integer is read back as that integer if it has no more digits than are
allowed, and refused otherwise (`IntegerLiteral.read?_decimal`,
`IntegerLiteral.readDecimal?_decimal`). The hexadecimal form of a natural number after `0x` is
always read back (`IntegerLiteral.read?_hex`).
-/

namespace NorFlash.IntegerLiteral

open Nat (toDigits digitChar)

variable {base n : Nat}

/-! ## Digits -/

theorem digit?_digitChar : ∀ d < 16, digit? (digitChar d) = some d := by
  decide

/-- No digit is a sign, an underscore or a blank. -/
theorem plain_digitChar : ∀ d < 16, digitChar d ≠ '_' ∧ digitChar d ≠ '-' ∧ digitChar d ≠ '+' ∧
    Digit.isBlank (digitChar d) = false := by
  decide

theorem isZero_digitChar : ∀ d < 16, isZero (digitChar d) = decide (d = 0) := by
  decide

theorem of_mem_toDigits (hbase : 1 < base) {c : Char} (h : c ∈ toDigits base n) :
    ∃ d < base, c = digitChar d := by
  induction n using Nat.base_induction base hbase with
  | single n hn =>
    rw [Nat.toDigits_of_lt_base hn, List.mem_singleton] at h
    exact ⟨n, hn, h⟩
  | digit n d hd hn ih =>
    rw [← Nat.toDigits_append_toDigits hbase hn hd, List.mem_append,
      Nat.toDigits_of_lt_base hd, List.mem_singleton] at h
    exact h.elim ih fun hc => ⟨d, hd, hc⟩

/-- The first digit is no zero but for zero itself. -/
theorem toDigits_cases (hbase : 1 < base) (n : Nat) :
    toDigits base n = [digitChar n] ∧ n < base ∨
      ∃ d rest, toDigits base n = digitChar d :: rest ∧ d < base ∧ d ≠ 0 := by
  induction n using Nat.base_induction base hbase with
  | single n hn => exact .inl ⟨Nat.toDigits_of_lt_base hn, hn⟩
  | digit n d hd hn ih =>
    rw [← Nat.toDigits_append_toDigits hbase hn hd]
    rcases ih with ⟨hone, hsmall⟩ | ⟨first, rest, hmore, hfirst⟩
    · rw [hone]
      exact .inr ⟨n, _, rfl, hsmall, Nat.ne_of_gt hn⟩
    · rw [hmore]
      exact .inr ⟨first, _, rfl, hfirst⟩

/-! ## Reading digits -/

theorem digitsFrom?_digitChar (hbase : base ≤ 16) {d : Nat} (hd : d < base) (after : Bool)
    (acc : Nat) (cs : List Char) :
    digitsFrom? base after acc (digitChar d :: cs) = digitsFrom? base true (acc * base + d) cs := by
  have hsmall := Nat.lt_of_lt_of_le hd hbase
  rw [digitsFrom?, if_neg (plain_digitChar d hsmall).1, digit?_digitChar d hsmall]
  exact if_pos hd

/-- Digits that were written for a number are read as that number; the induction takes the last
digit off. -/
theorem digitsFrom?_toDigits (hbase : 1 < base) (hsmall : base ≤ 16) (after : Bool) (acc n : Nat)
    (cs : List Char) :
    digitsFrom? base after acc (toDigits base n ++ cs) =
      digitsFrom? base true (acc * Nat.pow base (toDigits base n).length + n) cs := by
  induction n using Nat.base_induction base hbase generalizing cs with
  | single n hn =>
    rw [Nat.toDigits_of_lt_base hn, List.singleton_append, digitsFrom?_digitChar hsmall hn,
      List.length_singleton, Nat.pow_eq, Nat.pow_one]
  | digit n d hd hn ih =>
    have hvalue : (acc * Nat.pow base (toDigits base n).length + n) * base + d =
        acc * Nat.pow base ((toDigits base n).length + 1) + (base * n + d) := by
      rw [Nat.pow_eq, Nat.pow_eq, Nat.pow_succ, Nat.add_mul, Nat.mul_assoc, Nat.mul_comm n base,
        Nat.add_assoc]
    rw [← Nat.toDigits_append_toDigits hbase hn hd, List.append_assoc, ih,
      Nat.toDigits_of_lt_base hd, List.singleton_append, digitsFrom?_digitChar hsmall hd, hvalue,
      List.length_append, List.length_singleton]

theorem digits?_toDigits (hbase : 1 < base) (hsmall : base ≤ 16) (n : Nat) :
    digits? base (toDigits base n) = some n := by
  have hread := digitsFrom?_toDigits hbase hsmall false 0 n []
  rw [List.append_nil, Nat.zero_mul, Nat.zero_add] at hread
  rw [digits?, hread]
  rfl

/-- Decimal digits are read unless they are too many. -/
theorem decimalDigits?_toDigits (n : Nat) :
    decimalDigits? (toDigits 10 n) =
      if n < Nat.pow 10 Numeral.maxDigits then some n else none := by
  have hall : (toDigits 10 n).filter (· ≠ '_') = toDigits 10 n := by
    refine List.filter_eq_self.2 fun c hc => decide_eq_true fun hbad => ?_
    exact Nat.underscore_not_in_toDigits (hbad ▸ hc)
  have hlength := Nat.length_toDigits_le_iff (n := n) (b := 10) (by decide)
    (show 0 < Numeral.maxDigits by decide)
  rw [decimalDigits?, hall, digits?_toDigits (by decide) (by decide), Nat.pow_eq]
  by_cases hshort : (toDigits 10 n).length ≤ Numeral.maxDigits
  · rw [if_neg (Nat.not_lt.2 hshort), if_pos (hlength.1 hshort)]
  · rw [if_pos (Nat.lt_of_not_le hshort), if_neg fun h => hshort (hlength.2 h)]

/-- They do not look like digits of another base. -/
theorem magnitude?_toDigits (n : Nat) :
    magnitude? (toDigits 10 n) = decimalDigits? (toDigits 10 n) := by
  rcases toDigits_cases (show 1 < 10 by decide) n with ⟨hone, -⟩ | ⟨d, rest, hmore, hd, hzero⟩
  · rw [hone]
    rfl
  · rw [hmore]
    cases rest with
    | nil => rfl
    | cons mark rest =>
      rw [magnitude?, isZero_digitChar d (by omega), decide_eq_false hzero]
      rfl

/-! ## Reading numerals -/

theorem trim_of_no_blank {cs : List Char} (h : ∀ c ∈ cs, Digit.isBlank c = false) :
    trim cs = cs := by
  have hdrop : ∀ ds : List Char, (∀ c ∈ ds, Digit.isBlank c = false) →
      ds.dropWhile Digit.isBlank = ds := by
    intro ds hds
    cases ds with
    | nil => rfl
    | cons c ds => rw [List.dropWhile_cons, hds c List.mem_cons_self, if_neg Bool.false_ne_true]
  rw [trim, hdrop cs h, hdrop _ fun c hc => h c (List.mem_reverse.1 hc), List.reverse_reverse]

theorem isBlank_of_mem_toDigits (hbase : 1 < base) (hsmall : base ≤ 16) {c : Char}
    (h : c ∈ toDigits base n) : Digit.isBlank c = false := by
  obtain ⟨d, hd, rfl⟩ := of_mem_toDigits hbase h
  exact (plain_digitChar d (Nat.lt_of_lt_of_le hd hsmall)).2.2.2

theorem exists_toDigits_eq_cons (hbase : 1 < base) (n : Nat) :
    ∃ d rest, toDigits base n = digitChar d :: rest ∧ d < base := by
  rcases toDigits_cases hbase n with ⟨hone, hn⟩ | ⟨d, rest, hmore, hd, -⟩
  · exact ⟨n, [], hone, hn⟩
  · exact ⟨d, rest, hmore, hd⟩

/-- Digits without a sign stand for their magnitude. -/
theorem signed?_toDigits (magnitude : List Char → Option Nat) (hbase : 1 < base)
    (hsmall : base ≤ 16) (n : Nat) :
    signed? magnitude (toDigits base n) = (magnitude (toDigits base n)).map Int.ofNat := by
  obtain ⟨d, rest, hdigits, hd⟩ := exists_toDigits_eq_cons hbase n
  obtain ⟨-, hminus, hplus, -⟩ := plain_digitChar d (Nat.lt_of_lt_of_le hd hsmall)
  rw [hdigits, signed?]
  · intro rest' heq
    exact hminus (List.cons.inj heq).1
  · intro rest' heq
    exact hplus (List.cons.inj heq).1

/-- A decimal form is read as its integer where its digits are read as their number. -/
theorem signed?_decimal {magnitude : List Char → Option Nat} (i : Int)
    (h : ∀ n, magnitude (toDigits 10 n) = decimalDigits? (toDigits 10 n)) :
    signed? magnitude (trim (Numeral.decimal i).toList) =
      if Numeral.isWritable i then some i else none := by
  have hplain : ∀ c ∈ Numeral.sign i ++ toDigits 10 i.natAbs, Digit.isBlank c = false := by
    intro c hc
    rcases List.mem_append.1 hc with hsign | hdigit
    · rw [Numeral.sign] at hsign
      split at hsign
      · obtain rfl := List.mem_singleton.1 hsign
        decide
      · cases hsign
    · exact isBlank_of_mem_toDigits (by decide) (by decide) hdigit
  have hread := (h i.natAbs).trans (decimalDigits?_toDigits i.natAbs)
  rw [Numeral.decimal, String.toList_ofList, trim_of_no_blank hplain, Numeral.sign,
    Numeral.isWritable]
  simp only [decide_eq_true_eq]
  generalize Nat.pow 10 Numeral.maxDigits = bound at hread
  by_cases hnegative : i < 0
  · rw [if_pos hnegative, List.singleton_append, signed?, hread]
    split
    · show some (-(i.natAbs : Int)) = some i
      rw [Option.some.injEq]
      omega
    · rfl
  · rw [if_neg hnegative, List.nil_append, signed?_toDigits _ (by decide) (by decide), hread]
    split
    · rw [Option.map_some, Option.some.injEq, Int.ofNat_eq_natCast]
      omega
    · rfl

/-- A decimal form is read as its integer, unless it is too long. -/
theorem read?_decimal (i : Int) :
    read? (Numeral.decimal i) = if Numeral.isWritable i then some i else none :=
  signed?_decimal i magnitude?_toDigits

theorem readDecimal?_decimal (i : Int) :
    readDecimal? (Numeral.decimal i) = if Numeral.isWritable i then some i else none :=
  signed?_decimal i fun _ => rfl

/-- A hexadecimal form is read as its number, however long it is. -/
theorem read?_hex (n : Nat) : read? ("0x" ++ Numeral.hex n) = some (n : Int) := by
  have htext : ("0x" ++ Numeral.hex n).toList = '0' :: 'x' :: toDigits 16 n := by
    rw [String.toList_append, Numeral.hex, Numeral.sign,
      if_neg (Int.not_lt.2 (Int.natCast_nonneg n)), List.nil_append, Numeral.hexDigits,
      Int.natAbs_natCast]
    simp only [String.toList_ofList]
    rfl
  have hplain : ∀ c ∈ '0' :: 'x' :: toDigits 16 n, Digit.isBlank c = false := by
    simp only [List.forall_mem_cons]
    exact ⟨by decide, by decide, fun c => isBlank_of_mem_toDigits (by decide) (by decide)⟩
  have hmarked : marked? 16 (toDigits 16 n) = some n := by
    obtain ⟨d, rest, hdigits, hd⟩ := exists_toDigits_eq_cons (show 1 < 16 by decide) n
    rw [← digits?_toDigits (show 1 < 16 by decide) (Nat.le_refl 16) n, hdigits, marked?]
    intro rest' heq
    exact (plain_digitChar d hd).1 (List.cons.inj heq).1
  have hmagnitude : magnitude? ('0' :: 'x' :: toDigits 16 n) = some n := by
    rw [magnitude?, if_pos (by decide), if_pos (.inl rfl), hmarked]
  rw [read?, htext, trim_of_no_blank hplain, signed?, hmagnitude]
  · rfl
  · intro rest heq
    exact absurd (List.cons.inj heq).1 (by decide)
  · intro rest heq
    exact absurd (List.cons.inj heq).1 (by decide)

end NorFlash.IntegerLiteral
