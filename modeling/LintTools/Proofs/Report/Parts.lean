import LintTools.Proofs.Text.Numeral
import LintTools.Proofs.Text.Run
import LintTools.Proofs.Text.Trimmed
import LintTools.Report.Tombi

/-! Readings of the parts of a line. Each of them is known by the text in front of what it leaves:
a fixed start, a run that goes as far as it can, or the shortest text before the rest is
accepted. -/
namespace LintTools.Text

theorem decimalDigit_of_digit (c : Char) (digit : c.isDigit = true) : isDecimalDigit c = true := by
  obtain ⟨low,high⟩ := Char.isDigit_iff_toNat.mp digit
  apply List.any_eq_true.mpr
  refine ⟨(0x30,0x39),List.mem_cons_self,?_⟩
  simpa using ⟨low,high⟩

def blankRanges : List (Nat × Nat) := [
  (9,13), (0x20,0x20), (0x85,0x85), (0xA0,0xA0), (0x1680,0x1680), (0x2000,0x200A),
  (0x2028,0x2029), (0x202F,0x202F), (0x205F,0x205F), (0x3000,0x3000)]

theorem digits_apart_from_blanks : ∀ digits ∈ decimalDigitRanges, ∀ blanks ∈ blankRanges,
    digits.2 < blanks.1 ∨ blanks.2 < digits.1 := by decide

theorem decimalDigit_of_blank (c : Char) (blank : isBlank c = true) : isDecimalDigit c = false := by
  obtain ⟨blanks,listed,low,high⟩ :
      ∃ blanks ∈ blankRanges, blanks.1 ≤ c.toNat ∧ c.toNat ≤ blanks.2 := by
    simp only [isBlank,Bool.or_eq_true,Bool.and_eq_true,decide_eq_true_eq,beq_iff_eq] at blank
    simp only [blankRanges,List.exists_mem_cons_iff,List.not_mem_nil,false_and,exists_false,or_false]
    omega
  rw [isDecimalDigit,List.any_eq_false]
  intro digits member
  have apart := digits_apart_from_blanks digits member blanks listed
  simp only [Bool.and_eq_true,decide_eq_true_eq]
  omega

theorem sameAscii_length (a b : List Char) (same : sameAscii a b = true) : a.length = b.length := by
  have lower : a.map asciiLower = b.map asciiLower := eq_of_beq same
  simpa using congrArg List.length lower

end LintTools.Text

namespace LintTools.Report
open Text

theorem upper_range (c : Char) (upper : c.isUpper = true) : 65 ≤ c.toNat ∧ c.toNat ≤ 90 :=
  of_decide_eq_true upper

theorem lower_range (c : Char) (lower : c.isLower = true) : 97 ≤ c.toNat ∧ c.toNat ≤ 122 := by
  have both : (decide (97 ≤ c.toNat) && decide (c.toNat ≤ 122)) = true := lower
  simpa using both

theorem isUpperLetter_eq (c : Char) : isUpperLetter c = c.isUpper := by
  rw [isUpperLetter,← Bool.decide_and]
  rfl

theorem isCodeChar_iff (c : Char) :
    isCodeChar c = true ↔ c.isAlphanum = true ∨ c = '_' ∨ c = '-' := by
  have alphanum : isCodeChar c = (c.isAlphanum || c = '_' || c = '-') := by
    rw [isCodeChar,isUpperLetter_eq,isDigit_eq]
    rfl
  simp [alphanum,or_assoc]

theorem codeChar_visible (c : Char) (plain : isCodeChar c = true) : isBlank c = false := by
  rcases (isCodeChar_iff c).mp plain with alphanum | rfl | rfl
  · have kind : (c.isUpper || c.isLower || c.isDigit) = true := alphanum
    rw [Bool.or_eq_true,Bool.or_eq_true] at kind
    rcases kind with (upper | lower) | digit
    · have range := upper_range c upper
      exact visible_of_ascii c (by omega) (by omega)
    · have range := lower_range c lower
      exact visible_of_ascii c (by omega) (by omega)
    · exact visible_of_digit c digit
  · decide
  · decide

theorem run?_iff (p : Char → Bool) (cs taken rest : List Char) :
    run? p cs = some (taken,rest) ↔ cs = taken ++ rest ∧ taken ≠ [] ∧
      (∀ c ∈ taken, p c = true) ∧ ∀ c ∈ rest.head?, p c = false := by
  rw [run?]
  constructor
  · intro found
    split at found
    · contradiction
    · rename_i filled
      obtain ⟨rfl,rfl⟩ := Prod.mk.inj (Option.some.inj found)
      refine ⟨List.takeWhile_append_dropWhile.symm,by simpa using filled,?_,?_⟩
      · exact fun c member => List.mem_takeWhile_imp member
      · intro c member
        have stopped := List.head?_dropWhile_not p cs
        rw [member] at stopped
        simpa using stopped
  · intro parts
    obtain ⟨same,filled,all,stop⟩ := parts
    have taking : cs.takeWhile p = taken := by
      rw [same,List.takeWhile_append_of_pos all]
      cases rest with
      | nil => simp
      | cons c rest => simp [stop c rfl]
    have dropping : cs.dropWhile p = rest := by
      rw [same,List.dropWhile_append_of_pos all]
      cases rest with
      | nil => rfl
      | cons c rest => simp [stop c rfl]
    rw [taking,dropping,if_neg (by simpa using filled)]

theorem run?_append (p : Char → Bool) (taken : List Char) (c : Char) (rest : List Char)
    (filled : taken ≠ []) (all : ∀ x ∈ taken, p x = true) (stop : p c = false) :
    run? p (taken ++ c :: rest) = some (taken,c :: rest) := by
  apply (run?_iff p _ taken _).mpr
  exact ⟨rfl,filled,all,by simpa using stop⟩

theorem digits?_append (digits : List Char) (c : Char) (rest : List Char) (filled : digits ≠ [])
    (ascii : ∀ d ∈ digits, d.isDigit = true) (stop : isDecimalDigit c = false) :
    digits? (digits ++ c :: rest) = some (digits,c :: rest) :=
  run?_append isDecimalDigit _ c rest filled
    (fun d member => decimalDigit_of_digit d (ascii d member)) stop

theorem run?_until (closing : Char) (taken rest : List Char) (filled : taken ≠ [])
    (apart : closing ∉ taken) :
    run? (· != closing) (taken ++ closing :: rest) = some (taken,closing :: rest) := by
  apply run?_append _ _ _ _ filled
  · intro c member
    rw [bne_iff_ne]
    intro same
    exact apart (same ▸ member)
  · exact bne_self_eq_false closing

theorem not_mem_of_run (closing : Char) (run : List Char)
    (apart : ∀ c ∈ run, (c != closing) = true) : closing ∉ run := by
  intro member
  have other := apart closing member
  rw [bne_self_eq_false] at other
  contradiction

theorem blanks?_iff (cs rest : List Char) :
    blanks? cs = some rest ↔ ∃ gap, cs = gap ++ rest ∧ gap ≠ [] ∧ Blank gap ∧
      ∀ c ∈ rest.head?, isBlank c = false := by
  rw [blanks?,Option.map_eq_some_iff]
  constructor
  · intro found
    obtain ⟨⟨gap,left⟩,found,same⟩ := found
    obtain rfl : left = rest := same
    exact ⟨gap,(run?_iff isBlank cs gap left).mp found⟩
  · intro found
    obtain ⟨gap,parts⟩ := found
    exact ⟨(gap,rest),(run?_iff isBlank cs gap rest).mpr parts,rfl⟩

theorem blanks?_append (gap rest : List Char) (filled : gap ≠ []) (blank : Blank gap)
    (visible : ∀ c ∈ rest.head?, isBlank c = false) : blanks? (gap ++ rest) = some rest :=
  (blanks?_iff _ rest).mpr ⟨gap,rfl,filled,blank,visible⟩

theorem dropBlank_space (rest : List Char) (visible : ∀ c ∈ rest.head?, isBlank c = false) :
    dropBlank (' ' :: rest) = rest := by
  have kept := (dropBlank_eq_self_iff rest).mpr visible
  rw [dropBlank,List.dropWhile_cons_of_pos (by decide)]
  exact kept

theorem blanks?_space (rest : List Char) (visible : ∀ c ∈ rest.head?, isBlank c = false) :
    blanks? (' ' :: rest) = some rest := by
  have blank : Blank [' '] := by
    intro c member
    rw [List.mem_singleton.mp member]
    decide
  exact blanks?_append [' '] rest (List.cons_ne_nil ' ' []) blank visible

theorem blanks?_mark (c : Char) (rest : List Char) (visible : isBlank c = false) :
    blanks? (' ' :: c :: rest) = some (c :: rest) :=
  blanks?_space _ (by simpa using visible)

/-- A cut that every earlier place refuses is the first one. -/
theorem firstCut?_append {α : Type} (p : List Char → Option α) (before rest : List Char) (found : α)
    (refused : ∀ tail, tail <:+ before → tail ≠ [] → p (tail ++ rest) = none)
    (accepted : p rest = some found) : firstCut? p (before ++ rest) = some (before,found) := by
  induction before with
  | nil =>
    rw [List.nil_append]
    cases rest with
    | nil => rw [firstCut?,accepted,Option.map_some]
    | cons c rest => rw [firstCut?,accepted]
  | cons c before ih =>
    have here := refused (c :: before) List.suffix_rfl (List.cons_ne_nil c before)
    have later := ih fun tail suffix => refused tail (suffix.trans (List.suffix_cons c before))
    rw [List.cons_append] at here ⊢
    rw [firstCut?,here]
    dsimp only
    rw [later,Option.map_some]

/-- Somewhere a cut is found when any place accepts the rest. -/
theorem firstCut?_isSome_iff {α : Type} (p : List Char → Option α) (cs : List Char) :
    (firstCut? p cs).isSome = true ↔ ∃ before rest, cs = before ++ rest ∧ (p rest).isSome = true := by
  induction cs with
  | nil =>
    rw [firstCut?,Option.isSome_map]
    simp
  | cons c cs ih =>
    rw [firstCut?]
    cases here : p (c :: cs) with
    | some found => exact iff_of_true rfl ⟨[],c :: cs,rfl,by rw [here]; rfl⟩
    | none =>
      dsimp only
      rw [Option.isSome_map,ih]
      constructor
      · rintro ⟨before,rest,rfl,accepted⟩
        exact ⟨c :: before,rest,rfl,accepted⟩
      · rintro ⟨before,rest,same,accepted⟩
        cases before with
        | nil =>
          rw [← List.nil_append rest,← same,here] at accepted
          contradiction
        | cons d before => exact ⟨before,rest,(List.cons.inj same).2,accepted⟩

theorem part?_trimmed (cs : List Char) (trimmed : Trimmed cs) (filled : cs ≠ []) :
    part? cs = some (String.ofList cs) := by
  rw [part?,(strip_eq_self_iff cs).mpr trimmed,if_neg (by simpa using filled)]

theorem Tombi.afterWord?_iff (word : String) (cs rest : List Char) :
    Tombi.afterWord? word cs = some rest ↔ ∃ start, cs = start ++ rest ∧
      sameAscii start word.toList = true := by
  rw [Tombi.afterWord?]
  constructor
  · intro found
    split at found
    · rename_i same
      obtain rfl := Option.some.inj found
      exact ⟨cs.take word.length,(List.take_append_drop word.length cs).symm,same⟩
    · contradiction
  · rintro ⟨start,rfl,same⟩
    have length : start.length = word.length := by
      rw [sameAscii_length start _ same,String.length_toList]
    rw [← length,List.take_left,List.drop_left,if_pos same]

end LintTools.Report
