import LintTools.Proofs.Text.PrefixFree
import LintTools.Text.Quoted

/-! Where a quoted text ends. No form of a character begins like the form of another, and none
begins like the closing mark, so a quoted text is told apart from whatever stands behind it. -/
namespace LintTools.Text

theorem digitChar_injective : ∀ n < 16, ∀ m < 16, Nat.digitChar n = Nat.digitChar m → n = m := by
  decide

/-- The last digit, behind those of what it leaves. -/
theorem hexDigits_eq (n : Nat) : Nat.toDigits 16 n =
    (if n < 16 then [] else Nat.toDigits 16 (n / 16)) ++ [Nat.digitChar (n % 16)] := by
  rw [Nat.toDigits_eq_if (by decide)]
  split
  · rename_i short
    rw [Nat.mod_eq_of_lt short,List.nil_append]
  · rfl

theorem hexDigits_injective (n m : Nat) (same : Nat.toDigits 16 n = Nat.toDigits 16 m) : n = m := by
  induction n using Nat.strongRecOn generalizing m with
  | ind n ih =>
    rw [hexDigits_eq n,hexDigits_eq m] at same
    obtain ⟨front,last⟩ := List.append_inj' same rfl
    have digit := digitChar_injective (n % 16) (by omega) (m % 16) (by omega)
      (List.singleton_inj.mp last)
    split at front
    · split at front
      · omega
      · exact absurd front.symm Nat.toDigits_ne_nil
    · split at front
      · exact absurd front Nat.toDigits_ne_nil
      · have quotient := ih (n / 16) (by omega) (m / 16) front
        omega

theorem brace_not_mem_hexDigits (n : Nat) : '\x7d' ∉ Nat.toDigits 16 n := by
  have other : ∀ d < 16, '\x7d' ≠ Nat.digitChar d := by decide
  induction n using Nat.strongRecOn with
  | ind n ih =>
    rw [hexDigits_eq,List.mem_append,List.mem_singleton,not_or]
    refine ⟨?_,other (n % 16) (by omega)⟩
    split
    · exact List.not_mem_nil
    · exact ih (n / 16) (by omega)

def meantBy? : Char → Option Char
  | '0' => some '\x00'
  | 't' => some '\t'
  | 'n' => some '\n'
  | 'r' => some '\r'
  | '\\' => some '\\'
  | '"' => some '"'
  | _ => none

inductive Escaped (c : Char) : List Char → Prop
  | plain (backslash : c ≠ '\\') (mark : c ≠ '"') : Escaped c [c]
  | letter (sign : Char) (meant : meantBy? sign = some c) : Escaped c ['\\',sign]
  | number : Escaped c ('\\' :: 'u' :: '\x7b' :: (Nat.toDigits 16 c.toNat ++ ['\x7d']))

theorem escapeChar_escaped (c : Char) : Escaped c (escapeChar c) := by
  unfold escapeChar
  split
  case isTrue same => exact .letter '0' (congrArg some same.symm)
  split
  case isTrue same => exact .letter 't' (congrArg some same.symm)
  split
  case isTrue same => exact .letter 'n' (congrArg some same.symm)
  split
  case isTrue same => exact .letter 'r' (congrArg some same.symm)
  split
  case isTrue either =>
    rw [Bool.or_eq_true,decide_eq_true_eq,decide_eq_true_eq] at either
    rcases either with rfl | rfl
    · exact .letter '\\' rfl
    · exact .letter '"' rfl
  case isFalse neither =>
    rw [Bool.or_eq_true,decide_eq_true_eq,decide_eq_true_eq,not_or] at neither
    split
    · exact .number
    · exact .plain neither.1 neither.2

theorem Escaped.append_inj {c d : Char} {form other : List Char} (escaped : Escaped c form)
    (escaped' : Escaped d other) (s t : List Char) (same : form ++ s = other ++ t) :
    c = d ∧ s = t := by
  cases escaped with
  | plain backslash _ =>
    cases escaped' with
    | plain => exact List.cons.inj same
    | letter => exact absurd (List.cons.inj same).1 backslash
    | number => exact absurd (List.cons.inj same).1 backslash
  | letter sign meant =>
    cases escaped' with
    | plain backslash _ => exact absurd (List.cons.inj same).1.symm backslash
    | letter sign' meant' =>
      obtain ⟨sameSign,behind⟩ := List.cons.inj (List.cons.inj same).2
      rw [sameSign,meant'] at meant
      exact ⟨(Option.some.inj meant).symm,behind⟩
    | number =>
      rw [(List.cons.inj (List.cons.inj same).2).1] at meant
      exact absurd meant (by simp [meantBy?])
  | number =>
    cases escaped' with
    | plain backslash _ => exact absurd (List.cons.inj same).1.symm backslash
    | letter sign' meant' =>
      rw [← (List.cons.inj (List.cons.inj same).2).1] at meant'
      exact absurd meant' (by simp [meantBy?])
    | number =>
      simp only [List.cons_append,List.cons.injEq,true_and] at same
      obtain ⟨digits,behind⟩ := marked_prefixFree '\x7d' _ _ (brace_not_mem_hexDigits _)
        (brace_not_mem_hexDigits _) s t same
      exact ⟨Char.toNat_inj.mp (hexDigits_injective _ _ digits),behind⟩

theorem Escaped.not_closing {c : Char} {form : List Char} (escaped : Escaped c form)
    (s : List Char) : ¬form <+: '"' :: s := by
  rintro ⟨rest,same⟩
  cases escaped with
  | plain _ mark => exact mark (List.cons.inj same).1
  | letter => exact absurd (List.cons.inj same).1 (by decide)
  | number => exact absurd (List.cons.inj same).1 (by decide)

theorem escapeChar_prefixFree : PrefixFree escapeChar fun _ => True :=
  fun c d _ _ => (escapeChar_escaped c).append_inj (escapeChar_escaped d)

/-- A quoted text can be cut off in one way only, whatever stands behind. -/
theorem quoted_prefixFree : PrefixFree quoted fun _ => True := by
  intro cs ds _ _ s t same
  have body := escapeChar_prefixFree.closed '"' fun c _ => (escapeChar_escaped c).not_closing
  exact body cs ds (fun _ _ => trivial) (fun _ _ => trivial) s t (List.cons.inj same).2

end LintTools.Text
