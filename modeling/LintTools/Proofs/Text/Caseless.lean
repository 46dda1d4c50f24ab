import LintTools.Text.Case
import Mathlib

/-! Lower case and caseless keys are reached in one step. No letter that the mapping leads to has a
lower case of its own, so a text in lower case is its own lower case, and the key of a key is that
key. -/
namespace LintTools.Text

abbrev CaseRun := Nat × Nat × Nat × Int

def inRun (n : Nat) : CaseRun → Bool
  | (first,last,step,_) => first ≤ n && n ≤ last && (n - first) % step == 0

def isSettled (n : Nat) : Bool :=
  if n < 0x80 then !(0x41 ≤ n && n ≤ 0x5A) else n != 0x130 && lowerRuns.all fun run => !inRun n run

def shifted (n : Nat) : Int → Nat
  | .ofNat up => n + up
  | .negSucc down => n - (down + 1)

theorem shifted_eq (n : Nat) (offset : Int) : shifted n offset = (n + offset).toNat := by
  cases offset with
  | ofNat up => simp only [shifted,Int.ofNat_eq_natCast]; omega
  | negSucc down => simp only [shifted,Int.negSucc_eq]; omega

-- The tests of these two checks are those that the kernel evaluates on its own.
/-- Whether the letters that a run leads to are outside another run. Where the two overlap, one
takes every second letter and the other those between. -/
def misses (run other : CaseRun) : Bool :=
  Nat.blt other.2.1 (shifted run.1 run.2.2.2) || Nat.blt (shifted run.2.1 run.2.2.2) other.1 ||
    (Nat.beq run.2.2.1 2 || Nat.beq run.1 run.2.1) && Nat.beq other.2.2.1 2 &&
      !Nat.beq (shifted run.1 run.2.2.2 % 2) (other.1 % 2)

def staysClear (run : CaseRun) : Bool :=
  Nat.ble 0x80 run.1 && Nat.blt 0x5A (shifted run.1 run.2.2.2) &&
    (Nat.blt (shifted run.2.1 run.2.2.2) 0x130 || Nat.blt 0x130 (shifted run.1 run.2.2.2))

theorem runs_miss : (lowerRuns.all fun run => lowerRuns.all (misses run)) = true := by
  decide +kernel

theorem runs_stay_clear : lowerRuns.all staysClear = true := by
  decide +kernel

theorem shifted_outside (n : Nat) (run other : CaseRun) (inside : inRun n run = true)
    (clear : staysClear run = true) (apart : misses run other = true) :
    inRun (shifted n run.2.2.2) other = false := by
  obtain ⟨first,last,step,offset⟩ := run
  obtain ⟨otherFirst,otherLast,otherStep,otherOffset⟩ := other
  rw [← Bool.not_eq_true]
  simp only [inRun,misses,staysClear,shifted_eq,Bool.and_eq_true,Bool.or_eq_true,decide_eq_true_eq,
    beq_iff_eq,Nat.blt_eq,Nat.ble_eq,Nat.beq_eq,Bool.not_eq_true',← Bool.not_eq_true (Nat.beq _ _)] at *
  obtain ⟨⟨above,below⟩,steps⟩ := inside
  obtain ⟨⟨_,positive⟩,_⟩ := clear
  intro inside
  obtain ⟨⟨low,high⟩,phase⟩ := inside
  rcases apart with (before | behind) | ⟨⟨spread,two⟩,odd⟩
  · omega
  · omega
  · subst two
    rcases spread with rfl | rfl <;> omega

theorem shifted_clear (n : Nat) (run : CaseRun) (inside : inRun n run = true)
    (clear : staysClear run = true) :
    0x5A < shifted n run.2.2.2 ∧ shifted n run.2.2.2 ≠ 0x130 := by
  obtain ⟨first,last,step,offset⟩ := run
  simp only [staysClear,inRun,shifted_eq,Bool.and_eq_true,Bool.or_eq_true,decide_eq_true_eq,
    Nat.blt_eq,Nat.ble_eq] at clear inside ⊢
  omega

/-- Every letter that a run leads to is settled. -/
theorem shifted_settled (n : Nat) (run : CaseRun) (listed : run ∈ lowerRuns)
    (inside : inRun n run = true) : isSettled (shifted n run.2.2.2) = true := by
  have clear : staysClear run = true := List.all_eq_true.mp runs_stay_clear run listed
  have apart := List.all_eq_true.mp (List.all_eq_true.mp runs_miss run listed)
  have outside (other : CaseRun) (member : other ∈ lowerRuns) :
      inRun (shifted n run.2.2.2) other = false :=
    shifted_outside n run other inside clear (apart other member)
  obtain ⟨letter,notDotted⟩ := shifted_clear n run inside clear
  unfold isSettled
  split
  · simp only [Bool.not_eq_true',Bool.and_eq_false_iff,decide_eq_false_iff_not]
    omega
  · simp only [Bool.and_eq_true,bne_iff_ne,List.all_eq_true,Bool.not_eq_true']
    exact ⟨notDotted,outside⟩

theorem lowerChar_wide (c : Char) (wide : ¬c.toNat < 0x80) (dotted : c.toNat ≠ 0x130) :
    lowerChar c = match lowerRuns.find? (inRun c.toNat) with
      | some run => [Char.ofNat (shifted c.toNat run.2.2.2)]
      | none => [c] := by
  have table : (fun (run : CaseRun) => match run with
      | (first,last,step,_) =>
        decide (first ≤ c.toNat) && decide (c.toNat ≤ last) &&
          (c.toNat - first) % step == 0) = inRun c.toNat := rfl
  simp only [lowerChar,if_neg wide,if_neg dotted,table]
  cases lowerRuns.find? (inRun c.toNat) with
  | none => rfl
  | some run => simp only [shifted_eq]

theorem asciiLower_capital (c : Char) :
    ('A' ≤ c ∧ c ≤ 'Z') ↔ 0x41 ≤ c.toNat ∧ c.toNat ≤ 0x5A := Iff.rfl

theorem lowerChar_of_settled (c : Char) (settled : isSettled c.toNat = true) :
    lowerChar c = [c] := by
  unfold isSettled at settled
  split at settled
  · rename_i ascii
    have small : ¬('A' ≤ c ∧ c ≤ 'Z') := by
      rw [asciiLower_capital]
      simp only [Bool.not_eq_true',Bool.and_eq_false_iff,decide_eq_false_iff_not] at settled
      omega
    rw [lowerChar,if_pos ascii,asciiLower,if_neg small]
  · rename_i wide
    simp only [Bool.and_eq_true,bne_iff_ne,List.all_eq_true,Bool.not_eq_true'] at settled
    obtain ⟨dotted,outside⟩ := settled
    have missing : lowerRuns.find? (inRun c.toNat) = none := by
      rw [List.find?_eq_none]
      intro run listed
      simp [outside run listed]
    rw [lowerChar_wide c wide dotted,missing]

/-- A code point that belongs to no character becomes zero. -/
theorem toNat_ofNat (n : Nat) : (Char.ofNat n).toNat = n ∨ (Char.ofNat n).toNat = 0 := by
  unfold Char.ofNat
  split
  · exact .inl rfl
  · exact .inr rfl

theorem isSettled_ascii (n : Nat) (ascii : n < 0x80) :
    isSettled n = !(0x41 ≤ n && n ≤ 0x5A) := by
  rw [isSettled,if_pos ascii]

theorem asciiLower_settled (c : Char) (ascii : c.toNat < 0x80) :
    isSettled (asciiLower c).toNat = true := by
  unfold asciiLower
  split
  · rename_i capital
    rw [asciiLower_capital] at capital
    rcases toNat_ofNat (c.toNat + 32) with moved | lost
    · rw [moved,isSettled_ascii _ (by omega)]
      simp only [Bool.not_eq_true',Bool.and_eq_false_iff,decide_eq_false_iff_not]
      omega
    · rw [lost]
      rfl
  · rename_i small
    rw [asciiLower_capital] at small
    rw [isSettled_ascii _ ascii]
    simp only [Bool.not_eq_true',Bool.and_eq_false_iff,decide_eq_false_iff_not]
    omega

theorem lowerChar_settled (c d : Char) (member : d ∈ lowerChar c) : isSettled d.toNat = true := by
  by_cases ascii : c.toNat < 0x80
  · rw [lowerChar,if_pos ascii,List.mem_singleton] at member
    rw [member]
    exact asciiLower_settled c ascii
  by_cases dotted : c.toNat = 0x130
  · rw [lowerChar,if_neg ascii,if_pos dotted] at member
    simp only [List.mem_cons,List.not_mem_nil,or_false] at member
    rcases member with rfl | rfl <;> decide +kernel
  rw [lowerChar_wide c ascii dotted] at member
  cases found : lowerRuns.find? (inRun c.toNat) with
  | some run =>
    rw [found,List.mem_singleton] at member
    have listed := List.mem_of_find?_eq_some found
    have inside := List.find?_some found
    rcases toNat_ofNat (shifted c.toNat run.2.2.2) with moved | lost
    · rw [member,moved]
      exact shifted_settled c.toNat run listed inside
    · rw [member,lost]
      rfl
  | none =>
    rw [found,List.mem_singleton] at member
    have outside := List.find?_eq_none.mp found
    rw [member,isSettled,if_neg ascii]
    simpa [dotted] using outside

def Settled (cs : List Char) : Prop := ∀ c ∈ cs, isSettled c.toNat = true

theorem lowerBehind_settled (before cs : List Char) : Settled (lowerBehind before cs) := by
  induction cs generalizing before with
  | nil => simp [lowerBehind,Settled]
  | cons c cs ih =>
    intro d member
    rw [lowerBehind] at member
    rcases List.mem_append.mp member with here | behind
    · split at here
      · rw [List.mem_singleton] at here
        rw [here]
        split <;> decide +kernel
      · exact lowerChar_settled c d here
    · exact ih (c :: before) d behind

theorem lowerBehind_of_settled (before cs : List Char) (settled : Settled cs) :
    lowerBehind before cs = cs := by
  induction cs generalizing before with
  | nil => rfl
  | cons c cs ih =>
    have first := settled c List.mem_cons_self
    have rest := ih (c :: before) fun d member => settled d (List.mem_cons_of_mem c member)
    have notSigma : c ≠ 'Σ' := by
      rintro rfl
      exact absurd first (by decide +kernel)
    rw [lowerBehind,if_neg notSigma,lowerChar_of_settled c first,rest]
    rfl

def spellSharp (c : Char) : List Char := if c = 'ß' then ['s','s'] else [c]

theorem caselessKey_toList (text : String) :
    (caselessKey text).toList = (lower text.toList).flatMap spellSharp := by
  rw [caselessKey,String.toList_ofList]
  rfl

theorem spellSharp_settled (cs : List Char) (settled : Settled cs) :
    Settled (cs.flatMap spellSharp) := by
  intro d member
  obtain ⟨c,inside,spelled⟩ := List.mem_flatMap.mp member
  unfold spellSharp at spelled
  split at spelled
  · have letter : d = 's' := by simpa using spelled
    rw [letter]
    rfl
  · rw [List.mem_singleton.mp spelled]
    exact settled c inside

theorem spellSharp_again (cs : List Char) :
    (cs.flatMap spellSharp).flatMap spellSharp = cs.flatMap spellSharp := by
  rw [List.flatMap_assoc]
  congr 1
  funext c
  by_cases sharp : c = 'ß'
  · rw [sharp]
    rfl
  · simp [spellSharp,sharp]

/-- The key of a key is that key. -/
theorem caselessKey_idem (text : String) : caselessKey (caselessKey text) = caselessKey text := by
  have settled := spellSharp_settled _ (lowerBehind_settled [] text.toList)
  apply String.toList_inj.mp
  rw [caselessKey_toList,caselessKey_toList,lower,lower,lowerBehind_of_settled [] _ settled,
    spellSharp_again]

end LintTools.Text
