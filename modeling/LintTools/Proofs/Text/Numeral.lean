import LintTools.Proofs.Text.Lines
import LintTools.Text.Numeral

/-! Written numbers. Digits are read from left to right, so a number is read back from its own
digits, and a text with any character but digits behind its sign is no number. -/
namespace LintTools.Text

theorem digitValue?_digit (c : Char) (digit : c.isDigit = true) :
    digitValue? c = some (c.toNat - 48) := by
  obtain ⟨low,high⟩ := Char.isDigit_iff_toNat.mp digit
  exact if_pos ⟨low,high⟩

theorem isDigit_eq (c : Char) : Text.isDigit c = c.isDigit := by
  rw [Bool.eq_iff_iff,Text.isDigit,digitValue?,Option.isSome_ite,Char.isDigit_iff_toNat]
  exact Iff.rfl

theorem visible_of_digit (c : Char) (digit : c.isDigit = true) : isBlank c = false := by
  have range : 48 ≤ c.toNat ∧ c.toNat ≤ 57 := Char.isDigit_iff_toNat.mp digit
  exact visible_of_ascii c (by omega) (by omega)

theorem digitsFrom?_digits (start : Nat) (cs : List Char) (digits : ∀ c ∈ cs, c.isDigit = true) :
    digitsFrom? start cs = some (Nat.ofDigitChars 10 cs start) := by
  induction cs generalizing start with
  | nil => rfl
  | cons c cs ih =>
    have first := digitValue?_digit c (digits c List.mem_cons_self)
    have rest := ih (10 * start + (c.toNat - 48)) fun d member =>
      digits d (List.mem_cons_of_mem c member)
    rw [digitsFrom?,first,Option.bind_some,rest,Nat.ofDigitChars_cons]
    rfl

theorem digitsFrom?_eq_none (start : Nat) (cs : List Char) (c : Char) (member : c ∈ cs)
    (other : digitValue? c = none) : digitsFrom? start cs = none := by
  induction cs generalizing start with
  | nil => simp at member
  | cons first cs ih =>
    rw [digitsFrom?]
    rcases List.mem_cons.mp member with same | inside
    · rw [← same,other,Option.bind_none]
    · cases digitValue? first with
      | none => rfl
      | some d => exact ih (10 * start + d) inside

theorem showNatural_digits (n : Nat) : ∀ c ∈ showNatural n, c.isDigit = true :=
  fun _ member => Nat.isDigit_of_mem_toDigits (by decide) (by decide) member

theorem showNatural_ne_nil (n : Nat) : showNatural n ≠ [] := Nat.toDigits_ne_nil

theorem readNatural_showNatural (n : Nat) : readNatural (showNatural n) = some n := by
  rw [readNatural,if_neg (by simpa using showNatural_ne_nil n),digitsFrom?_digits 0 _ (showNatural_digits n),
    showNatural,Nat.ofDigitChars_ten_toDigits]

theorem readSmall_showNatural (n : Nat) (small : n ≤ maxSmall) :
    readSmall (showNatural n) = some n := by
  have kept : (some n).filter (· ≤ maxSmall) = some n := by simpa using small
  unfold readSmall
  split
  · rename_i digits signed
    have plus : '+' ∈ showNatural n := signed ▸ List.mem_cons_self
    exact absurd (showNatural_digits n '+' plus) (by decide)
  · rw [readNatural_showNatural,kept]

theorem readSmall_le (cs : List Char) (n : Nat) (found : readSmall cs = some n) : n ≤ maxSmall := by
  simpa using (Option.filter_eq_some_iff.mp found).2

theorem wrapSigned_signed (n : Int) : isSigned (wrapSigned n) = true := by
  have low := Int.le_bmod (x := n) (m := 18446744073709551616) (by decide)
  have high := Int.bmod_lt (x := n) (m := 18446744073709551616) (by decide)
  rw [isSigned,Bool.and_eq_true,decide_eq_true_iff,decide_eq_true_iff,minSigned,maxSigned,wrapSigned]
  omega

theorem readSigned_signed (cs : List Char) (n : Int) (found : readSigned cs = some n) :
    isSigned n = true :=
  (Option.filter_eq_some_iff.mp found).2

/-- The first character of a written number decides how it is read. -/
theorem readSigned_digits (cs : List Char) (digits : ∀ c ∈ cs, c.isDigit = true) :
    readSigned cs = ((readNatural cs).map fun n => (n : Int)).filter isSigned := by
  unfold readSigned
  split
  · exact absurd (digits '-' (by simp)) (by decide)
  · exact absurd (digits '+' (by simp)) (by decide)
  · rfl

theorem readSigned_showInteger (n : Int) (signed : isSigned n = true) :
    readSigned (showInteger n) = some n := by
  have kept : (some n).filter isSigned = some n := by rw [Option.filter_some,if_pos signed]
  rw [showInteger]
  split
  · rename_i negative
    have value : -(n.natAbs : Int) = n := by omega
    rw [readSigned,readNatural_showNatural]
    change (some (-(n.natAbs : Int))).filter isSigned = some n
    rw [value,kept]
  · rename_i natural
    have value : (n.natAbs : Int) = n := by omega
    rw [readSigned_digits _ (showNatural_digits _),readNatural_showNatural]
    change (some (n.natAbs : Int)).filter isSigned = some n
    rw [value,kept]

theorem readNatural_eq_none (cs : List Char) (c : Char) (member : c ∈ cs)
    (other : digitValue? c = none) : readNatural cs = none := by
  rw [readNatural]
  split
  · rfl
  · exact digitsFrom?_eq_none 0 cs c member other

theorem readSigned_eq_none (cs : List Char) (c : Char) (member : c ∈ cs)
    (other : digitValue? c = none) (minus : c ≠ '-') (plus : c ≠ '+') : readSigned cs = none := by
  unfold readSigned
  split
  · rename_i digits
    have inside : c ∈ digits := by simpa [minus] using member
    rw [readNatural_eq_none digits c inside other]
    rfl
  · rename_i digits
    have inside : c ∈ digits := by simpa [plus] using member
    rw [readNatural_eq_none digits c inside other]
    rfl
  · rw [readNatural_eq_none cs c member other]
    rfl

theorem showInteger_characters (n : Int) : ∀ c ∈ showInteger n, c = '-' ∨ c.isDigit = true := by
  intro c member
  rw [showInteger] at member
  split at member
  · rcases List.mem_cons.mp member with sign | inside
    · exact .inl sign
    · exact .inr (showNatural_digits _ c inside)
  · exact .inr (showNatural_digits _ c member)

end LintTools.Text
