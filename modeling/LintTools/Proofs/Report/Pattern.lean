import LintTools.Proofs.Report.Parts
import LintTools.Report.TextReport
import Mathlib

/-! The patterns of report lines, as languages. A pattern is a product of the parts that it names, and
a form finds a diagnostic in a trimmed line exactly when the line belongs to the pattern: what each
reading takes is settled by what stands behind it, so nothing is lost by reading once from left to
right. -/
namespace LintTools.Report
open Text

def word (cs : List Char) : Language Char := {cs}

def runs (p : Char → Bool) : Language Char := {cs | cs ≠ [] ∧ ∀ c ∈ cs, p c = true}

def number : Language Char := runs isDecimalDigit

def gap : Language Char := runs isBlank

def space : Language Char := {cs | Blank cs}

def phrase : Language Char := {cs | '\n' ∉ cs}

def content : Language Char := runs (· != '\n')

def optional (part : Language Char) : Language Char := 1 + part

def capitalLetter : Language Char := {cs | ∃ c, cs = [c] ∧ isUpperLetter c = true}

def level : Language Char :=
  {cs | ∃ named ∈ Tombi.levels, sameAscii cs named.1.toList = true}

def confidence : Language Char :=
  gap * word ['['] * runs (· != ']') * word [']'] * gap * word ['['] * number * word [']']

def remark : Language Char := phrase * optional (gap * word ['('] * runs (· != ')') * word [')'])

end LintTools.Report

namespace LintTools.TextReport
open Report LintTools.Text

def pattern : TextReport → Language Char
  | tsc => runs (fun c => c != ':' && c != '(') * word ['('] * number * word [','] *
      number * word [')',':'] * space * (word "error".toList + word "warning".toList) * space *
      optional (runs isUpperLetter * number) * space * optional (word [':']) * space * content
  | lualint => runs isNotColon * word [':'] * number * word [':'] * space *
      optional (word ['*','*','*'] * space) * content
  | luacheck => runs isNotColon * word [':'] * number * word [':'] * number * word [':'] * gap *
      word ['('] * capitalLetter * number * word [')'] * gap * content
  | yamllint => phrase * word [':'] * number * word [':'] * number * word [':'] * gap * word ['['] *
      runs (· != ']') * word [']'] * gap * remark
  | dotenvLinter => runs isNotColon * word [':'] * number * gap * runs isCodeChar * word [':'] *
      gap * content
  | cpplint => runs isNotColon * word [':'] * number * word [':'] * gap * content * confidence
  | tombi => level * word [':'] * space * content

end LintTools.TextReport

namespace LintTools.Report
open Text

structure RestOfLine (cs : List Char) : Prop where
  visible : ∀ c ∈ cs.getLast?, isBlank c = false
  single : '\n' ∉ cs

namespace RestOfLine
variable {cs rest : List Char}

theorem behind (line : RestOfLine cs) (suffix : rest <:+ cs) : RestOfLine rest := by
  obtain ⟨before,rfl⟩ := suffix
  constructor
  · by_cases empty : rest = []
    · simp [empty]
    · intro c member
      apply line.visible
      rwa [List.getLast?_append_of_ne_nil _ empty]
  · exact fun member => line.single (List.mem_append_right before member)

theorem dropBlank (line : RestOfLine cs) : RestOfLine (dropBlank cs) :=
  line.behind (List.dropWhile_suffix isBlank)

theorem dropBlank_ne_nil_iff (line : RestOfLine cs) : Text.dropBlank cs ≠ [] ↔ cs ≠ [] :=
  ⟨fun filled empty => filled (by rw [empty]; rfl),fun filled => dropBlank_ne_nil cs filled line.visible⟩

end RestOfLine

def Stops (p : Char → Bool) (M : Language Char) : Prop :=
  ∀ rest ∈ M, ∀ c ∈ rest.head?, p c = false

theorem stops_word (p : Char → Bool) (mark : Char) (others : List Char) (M : Language Char)
    (stop : p mark = false) : Stops p (word (mark :: others) * M) := by
  intro rest member c head
  obtain ⟨_,rfl,behind,_,rfl⟩ := Language.mem_mul.mp member
  obtain rfl : mark = c := Option.some.inj head
  exact stop

theorem stops_runs (p q : Char → Bool) (M : Language Char)
    (apart : ∀ c, q c = true → p c = false) : Stops p (runs q * M) := by
  intro rest member c head
  obtain ⟨taken,⟨filled,all⟩,behind,_,rfl⟩ := Language.mem_mul.mp member
  rw [List.head?_append_of_ne_nil _ filled] at head
  exact apart c (all c (List.mem_of_head? head))

theorem isSome_bind_iff {α β : Type} (found : Option α) (next : α → Option β) :
    (found >>= next).isSome = true ↔ ∃ value, found = some value ∧ (next value).isSome = true := by
  cases found <;> simp

section Readings
variable {β : Type} {cs : List Char} (line : RestOfLine cs) (M : Language Char)
include line

theorem after?_mem (start : List Char) (next : List Char → Option β)
    (each : ∀ rest, RestOfLine rest → ((next rest).isSome = true ↔ rest ∈ M)) :
    (after? start cs >>= next).isSome = true ↔ cs ∈ word start * M := by
  rw [isSome_bind_iff,Language.mem_mul]
  constructor
  · rintro ⟨rest,found,accepted⟩
    obtain rfl := (after?_iff start cs rest).mp found
    exact ⟨start,rfl,rest,(each rest (line.behind (List.suffix_append start rest))).mp accepted,rfl⟩
  · rintro ⟨_,rfl,rest,inside,rfl⟩
    exact ⟨rest,(after?_iff _ _ rest).mpr rfl,
      (each rest (line.behind (List.suffix_append _ rest))).mpr inside⟩

theorem run?_mem (p : Char → Bool) (stops : Stops p M)
    (next : List Char × List Char → Option β)
    (each : ∀ taken rest, RestOfLine rest → ((next (taken,rest)).isSome = true ↔ rest ∈ M)) :
    (run? p cs >>= next).isSome = true ↔ cs ∈ runs p * M := by
  rw [isSome_bind_iff,Language.mem_mul]
  constructor
  · rintro ⟨⟨taken,rest⟩,found,accepted⟩
    obtain ⟨rfl,filled,all,_⟩ := (run?_iff p cs taken rest).mp found
    exact ⟨taken,⟨filled,all⟩,rest,
      (each taken rest (line.behind (List.suffix_append taken rest))).mp accepted,rfl⟩
  · rintro ⟨taken,⟨filled,all⟩,rest,inside,rfl⟩
    exact ⟨(taken,rest),(run?_iff p _ taken rest).mpr ⟨rfl,filled,all,stops rest inside⟩,
      (each taken rest (line.behind (List.suffix_append taken rest))).mpr inside⟩

theorem blanks?_mem (stops : Stops isBlank M) (next : List Char → Option β)
    (each : ∀ rest, RestOfLine rest → ((next rest).isSome = true ↔ rest ∈ M)) :
    (blanks? cs >>= next).isSome = true ↔ cs ∈ gap * M := by
  have run := run?_mem line M isBlank stops (fun taken => next taken.2) fun _ rest => each rest
  rw [gap,← run,blanks?]
  cases run? isBlank cs <;> rfl

theorem dropBlank_mem (stops : Stops isBlank M) {found : Prop}
    (each : ∀ rest, RestOfLine rest → rest = dropBlank cs → (found ↔ rest ∈ M)) :
    found ↔ cs ∈ space * M := by
  rw [each _ line.dropBlank rfl,Language.mem_mul]
  constructor
  · intro inside
    exact ⟨cs.takeWhile isBlank,fun _ => List.mem_takeWhile_imp,dropBlank cs,inside,
      List.takeWhile_append_dropWhile⟩
  · rintro ⟨blanks,blank,rest,inside,rfl⟩
    have kept : dropBlank (blanks ++ rest) = rest := by
      rw [dropBlank,List.dropWhile_append_of_pos blank]
      exact (dropBlank_eq_self_iff rest).mpr (stops rest inside)
    rwa [kept]

end Readings

/-! Behind some places anything may stand that is left of the line, as long as it is something. -/

def Filled (M : Language Char) : Prop := ∀ cs, RestOfLine cs → (cs ∈ M ↔ cs ≠ [])

theorem mem_content_iff (cs : List Char) : cs ∈ content ↔ cs ≠ [] ∧ '\n' ∉ cs := by
  refine and_congr_right fun _ => ?_
  simp only [bne_iff_ne,ne_eq]
  exact ⟨fun others member => others _ member rfl,fun absent c member same => absent (same ▸ member)⟩

theorem content_filled : Filled content := by
  intro cs line
  rw [mem_content_iff]
  exact and_iff_left line.single

theorem Filled.behind {L M : Language Char} (filled : Filled M) (empty : [] ∈ L) :
    Filled (L * M) := by
  intro cs line
  rw [Language.mem_mul]
  constructor
  · rintro ⟨before,_,rest,inside,rfl⟩
    have tail := line.behind (List.suffix_append before rest)
    exact List.append_ne_nil_of_right_ne_nil before ((filled rest tail).mp inside)
  · exact fun some => ⟨[],empty,cs,(filled cs line).mpr some,rfl⟩

theorem nil_mem_space : [] ∈ space := fun _ member => nomatch member

theorem nil_mem_optional (part : Language Char) : [] ∈ optional part :=
  Or.inl (Language.nil_mem_one)

/-- Behind a gap, all that may be left of a line begins with something visible. -/
theorem blanks?_filled {β : Type} {cs : List Char} (line : RestOfLine cs) {M : Language Char}
    (filled : Filled M) (next : List Char → Option β)
    (each : ∀ rest, RestOfLine rest → ((next rest).isSome = true ↔ rest ≠ [])) :
    (blanks? cs >>= next).isSome = true ↔ cs ∈ gap * M := by
  rw [isSome_bind_iff,Language.mem_mul]
  constructor
  · rintro ⟨rest,found,accepted⟩
    obtain ⟨blanks,rfl,wide,blank,_⟩ := (blanks?_iff cs rest).mp found
    have tail := line.behind (List.suffix_append blanks rest)
    exact ⟨blanks,⟨wide,blank⟩,rest,(filled rest tail).mpr ((each rest tail).mp accepted),rfl⟩
  · rintro ⟨blanks,⟨wide,blank⟩,rest,inside,rfl⟩
    have tail := line.behind (List.suffix_append blanks rest)
    have shown := tail.dropBlank_ne_nil_iff.mpr ((filled rest tail).mp inside)
    have found : blanks? (blanks ++ rest) = some (dropBlank rest) := by
      rw [blanks?_iff]
      refine ⟨blanks ++ rest.takeWhile isBlank,?_,by simp [wide],?_,?_⟩
      · rw [List.append_assoc,dropBlank,List.takeWhile_append_dropWhile]
      · exact List.forall_mem_append.mpr ⟨blank,fun _ => List.mem_takeWhile_imp⟩
      · exact (dropBlank_eq_self_iff _).mp (List.dropWhile_idempotent isBlank rest)
    exact ⟨_,found,(each _ tail.dropBlank).mpr shown⟩

theorem rest?_isSome (cs : List Char) : (rest? cs).isSome = true ↔ cs ≠ [] := by
  cases cs <;> simp [rest?]

theorem isSome_bind_eq {α β : Type} (found : Option α) (next : α → Option β)
    (always : ∀ value, (next value).isSome = true) : (found >>= next).isSome = found.isSome := by
  cases found with
  | none => rfl
  | some value => exact always value

theorem isSome_bind_pure {α β : Type} (found : Option α) (value : α → β) :
    (found >>= fun a => (pure (value a) : Option β)).isSome = found.isSome :=
  isSome_bind_eq found _ fun _ => rfl

theorem mem_last_word {α : Type} (cs mark : List Char) (value : α) :
    (if cs = mark then some value else none).isSome = true ↔ cs ∈ word mark := by
  rw [Option.isSome_ite]
  exact Iff.rfl

theorem lualint_pattern (cs : List Char) (line : RestOfLine cs) :
    (lualintLine? cs).isSome = true ↔ cs ∈ TextReport.lualint.pattern := by
  rw [lualintLine?,TextReport.pattern]
  simp only [mul_assoc]
  refine run?_mem line _ isNotColon (stops_word _ ':' [] _ rfl) _ fun file cs line => ?_
  refine after?_mem line _ [':'] _ fun cs line => ?_
  refine run?_mem line _ isDecimalDigit (stops_word _ ':' [] _ rfl) _ fun digits cs line => ?_
  refine after?_mem line _ [':'] _ fun cs line => ?_
  have filled := (content_filled.behind (nil_mem_optional (word ['*','*','*'] * space))).behind
    nil_mem_space
  rw [filled cs line,isSome_bind_pure,Option.isSome_or,Bool.or_eq_true,rest?_isSome]
  constructor
  · rintro (starred | bare) rfl
    · contradiction
    · exact bare rfl
  · exact fun some => .inr (line.dropBlank_ne_nil_iff.mpr some)

theorem mem_capitalLetter (c : Char) (cs : List Char) (M : Language Char) :
    c :: cs ∈ capitalLetter * M ↔ isUpperLetter c = true ∧ cs ∈ M := by
  rw [Language.mem_mul]
  constructor
  · rintro ⟨_,⟨d,rfl,upper⟩,rest,inside,same⟩
    obtain ⟨rfl,rfl⟩ := List.cons.inj same
    exact ⟨upper,inside⟩
  · rintro ⟨upper,inside⟩
    exact ⟨[c],⟨c,rfl,upper⟩,cs,inside,rfl⟩

theorem luacheck_pattern (cs : List Char) (line : RestOfLine cs) :
    (luacheckLine? cs).isSome = true ↔ cs ∈ TextReport.luacheck.pattern := by
  rw [luacheckLine?,TextReport.pattern]
  simp only [mul_assoc]
  refine run?_mem line _ isNotColon (stops_word _ ':' [] _ rfl) _ fun file cs line => ?_
  refine after?_mem line _ [':'] _ fun cs line => ?_
  refine run?_mem line _ isDecimalDigit (stops_word _ ':' [] _ rfl) _ fun digits cs line => ?_
  refine after?_mem line _ [':'] _ fun cs line => ?_
  refine run?_mem line _ isDecimalDigit (stops_word _ ':' [] _ rfl) _ fun digits cs line => ?_
  refine after?_mem line _ [':'] _ fun cs line => ?_
  refine blanks?_mem line _ (stops_word _ '(' [] _ rfl) _ fun cs line => ?_
  refine after?_mem line _ ['('] _ fun cs line => ?_
  cases cs with
  | nil =>
    refine iff_of_false Bool.false_ne_true ?_
    rintro ⟨_,⟨c,rfl,_⟩,rest,_,same⟩
    contradiction
  | cons c cs =>
    have tail := line.behind (List.suffix_cons c cs)
    rw [mem_capitalLetter,List.head?_cons,List.tail_cons,Option.bind_eq_bind,Option.bind_some]
    cases upper : isUpperLetter c with
    | false =>
      simp only [Bool.false_eq_true,false_and,iff_false]
      cases digits? cs <;> simp
    | true =>
      rw [eq_self,true_and]
      refine run?_mem tail _ isDecimalDigit (stops_word _ ')' [] _ rfl) _ fun digits cs line => ?_
      refine after?_mem line _ [')'] _ fun cs line => ?_
      refine blanks?_filled line content_filled _ fun cs line => ?_
      rw [isSome_bind_pure,rest?_isSome]

theorem dotenv_pattern (cs : List Char) (line : RestOfLine cs) :
    (dotenvLine? cs).isSome = true ↔ cs ∈ TextReport.dotenvLinter.pattern := by
  rw [dotenvLine?,TextReport.pattern]
  simp only [mul_assoc]
  refine run?_mem line _ isNotColon (stops_word _ ':' [] _ rfl) _ fun file cs line => ?_
  refine after?_mem line _ [':'] _ fun cs line => ?_
  refine run?_mem line _ isDecimalDigit (stops_runs _ isBlank _ decimalDigit_of_blank) _
    fun digits cs line => ?_
  refine blanks?_mem line _ (stops_runs _ isCodeChar _ codeChar_visible) _ fun cs line => ?_
  refine run?_mem line _ isCodeChar (stops_word _ ':' [] _ rfl) _ fun code cs line => ?_
  refine after?_mem line _ [':'] _ fun cs line => ?_
  refine blanks?_filled line content_filled _ fun cs line => ?_
  rw [isSome_bind_pure,rest?_isSome]

theorem confidence_pattern (cs : List Char) (line : RestOfLine cs) :
    (confidenceAtEnd? cs).isSome = true ↔ cs ∈ confidence := by
  rw [confidenceAtEnd?,confidence]
  simp only [mul_assoc]
  refine blanks?_mem line _ (stops_word _ '[' [] _ rfl) _ fun cs line => ?_
  refine after?_mem line _ ['['] _ fun cs line => ?_
  refine run?_mem line _ (· != ']') (stops_word _ ']' [] _ rfl) _ fun code cs line => ?_
  refine after?_mem line _ [']'] _ fun cs line => ?_
  refine blanks?_mem line _ (stops_word _ '[' [] _ rfl) _ fun cs line => ?_
  refine after?_mem line _ ['['] _ fun cs line => ?_
  have stops : Stops isDecimalDigit (word [']']) := mul_one (word [']']) ▸ stops_word _ ']' [] 1 rfl
  refine run?_mem line _ isDecimalDigit stops _ fun digits cs line => ?_
  exact mem_last_word cs [']'] _

theorem messageAndCode_pattern (cs : List Char) (line : RestOfLine cs) :
    (messageAndCode? cs).isSome = true ↔ cs ∈ content * confidence := by
  rw [Language.mem_mul]
  cases cs with
  | nil =>
    refine iff_of_false Bool.false_ne_true ?_
    rintro ⟨message,⟨filled,_⟩,rest,_,same⟩
    exact filled (List.append_eq_nil_iff.mp same).1
  | cons c cs =>
    rw [messageAndCode?,Option.isSome_map,firstCut?_isSome_iff]
    constructor
    · rintro ⟨before,rest,rfl,accepted⟩
      have tail := line.behind (List.suffix_append (c :: before) rest)
      have single : '\n' ∉ c :: before := fun member => line.single (List.mem_append_left rest member)
      exact ⟨c :: before,(mem_content_iff _).mpr ⟨List.cons_ne_nil c before,single⟩,rest,
        (confidence_pattern rest tail).mp accepted,rfl⟩
    · rintro ⟨message,⟨filled,_⟩,rest,inside,same⟩
      obtain ⟨d,before,rfl⟩ := List.exists_cons_of_ne_nil filled
      obtain ⟨rfl,rfl⟩ := List.cons.inj same
      have tail := line.behind (List.suffix_append (d :: before) rest)
      exact ⟨before,rest,rfl,(confidence_pattern rest tail).mpr inside⟩

theorem cpplint_pattern (cs : List Char) (line : RestOfLine cs) :
    (cpplintLine? cs).isSome = true ↔ cs ∈ TextReport.cpplint.pattern := by
  rw [cpplintLine?,TextReport.pattern]
  simp only [mul_assoc]
  refine run?_mem line _ isNotColon (stops_word _ ':' [] _ rfl) _ fun file cs line => ?_
  refine after?_mem line _ [':'] _ fun cs line => ?_
  refine run?_mem line _ isDecimalDigit (stops_word _ ':' [] _ rfl) _ fun digits cs line => ?_
  refine after?_mem line _ [':'] _ fun cs line => ?_
  rw [isSome_bind_pure,List.findSome?_isSome_iff,Language.mem_mul]
  constructor
  · rintro ⟨kept,member,accepted⟩
    have bound := List.mem_range.mp member
    have starts := List.takeWhile_prefix isBlank (l := cs)
    have shorter := starts.length_le
    have rest := line.behind (List.drop_suffix ((cs.takeWhile isBlank).length - kept) cs)
    refine ⟨cs.take _,⟨?_,?_⟩,_,(messageAndCode_pattern _ rest).mp accepted,
      List.take_append_drop _ cs⟩
    · rw [ne_eq,List.take_eq_nil_iff,← List.length_eq_zero_iff]
      omega
    · intro c inside
      have within : c ∈ cs.takeWhile isBlank := by
        rw [List.prefix_iff_eq_take.mp starts]
        exact (List.take_subset_take_left cs (Nat.sub_le _ kept)) inside
      exact List.mem_takeWhile_imp within
  · rintro ⟨blanks,⟨wide,blank⟩,rest,inside,rfl⟩
    have tail := line.behind (List.suffix_append blanks rest)
    have accepted := (messageAndCode_pattern rest tail).mpr inside
    have count : ((blanks ++ rest).takeWhile isBlank).length =
        blanks.length + (rest.takeWhile isBlank).length := by
      rw [List.takeWhile_append_of_pos blank,List.length_append]
    have some := List.length_pos_iff.mpr wide
    refine ⟨(rest.takeWhile isBlank).length,List.mem_range.mpr (by omega),?_⟩
    rwa [count,Nat.add_sub_cancel,List.drop_left]

theorem mem_remark (cs : List Char) (line : RestOfLine cs) : cs ∈ remark :=
  Language.mem_mul.mpr ⟨cs,line.single,[],nil_mem_optional _,List.append_nil cs⟩

theorem blanks?_isSome_iff (cs : List Char) (line : RestOfLine cs) :
    (blanks? cs).isSome = true ↔ cs ∈ gap * remark := by
  rw [Language.mem_mul]
  constructor
  · intro found
    obtain ⟨rest,found⟩ := Option.isSome_iff_exists.mp found
    obtain ⟨blanks,rfl,wide,blank,_⟩ := (blanks?_iff cs rest).mp found
    exact ⟨blanks,⟨wide,blank⟩,rest,mem_remark rest (line.behind (List.suffix_append _ rest)),rfl⟩
  · rintro ⟨blanks,⟨wide,blank⟩,rest,_,rfl⟩
    obtain ⟨c,blanks,rfl⟩ := List.exists_cons_of_ne_nil wide
    have first := blank c List.mem_cons_self
    rw [blanks?,Option.isSome_map,run?,List.cons_append,List.takeWhile_cons_of_pos first]
    rfl

theorem yamllint_pattern (cs : List Char) (line : RestOfLine cs) :
    (yamllintLine? cs).isSome = true ↔ cs ∈ TextReport.yamllint.pattern := by
  have place (cs : List Char) (line : RestOfLine cs) : (yamllintPlace? cs).isSome = true ↔
      cs ∈ word [':'] * (number * (word [':'] * (number * (word [':'] * (gap * (word ['['] *
        (runs (· != ']') * (word [']'] * (gap * remark))))))))) := by
    rw [yamllintPlace?]
    refine after?_mem line _ [':'] _ fun cs line => ?_
    refine run?_mem line _ isDecimalDigit (stops_word _ ':' [] _ rfl) _ fun digits cs line => ?_
    refine after?_mem line _ [':'] _ fun cs line => ?_
    refine run?_mem line _ isDecimalDigit (stops_word _ ':' [] _ rfl) _ fun digits cs line => ?_
    refine after?_mem line _ [':'] _ fun cs line => ?_
    refine blanks?_mem line _ (stops_word _ '[' [] _ rfl) _ fun cs line => ?_
    refine after?_mem line _ ['['] _ fun cs line => ?_
    refine run?_mem line _ (· != ']') (stops_word _ ']' [] _ rfl) _ fun level cs line => ?_
    refine after?_mem line _ [']'] _ fun cs line => ?_
    rw [isSome_bind_pure]
    exact blanks?_isSome_iff cs line
  have told (cs : List Char) : (firstCut? codeAtEnd? cs).isSome = true :=
    (firstCut?_isSome_iff codeAtEnd? cs).mpr ⟨cs,[],(List.append_nil cs).symm,rfl⟩
  rw [yamllintLine?,TextReport.pattern]
  simp only [mul_assoc]
  rw [isSome_bind_eq,firstCut?_isSome_iff,Language.mem_mul]
  · constructor
    · rintro ⟨file,rest,rfl,accepted⟩
      have tail := line.behind (List.suffix_append file rest)
      exact ⟨file,fun member => line.single (List.mem_append_left rest member),rest,
        (place rest tail).mp accepted,rfl⟩
    · rintro ⟨file,_,rest,inside,rfl⟩
      exact ⟨file,rest,rfl,(place rest (line.behind (List.suffix_append file rest))).mpr inside⟩
  · intro found
    rw [isSome_bind_pure]
    exact told _

theorem behindColon?_isSome (cs : List Char) (line : RestOfLine cs) :
    (behindColon? cs).isSome = true ↔ cs ≠ [] := by
  rw [← line.dropBlank_ne_nil_iff,behindColon?]
  split
  · rename_i rest colon
    rw [colon]
    refine iff_of_true ?_ (List.cons_ne_nil ':' rest)
    split <;> rfl
  · exact rest?_isSome _

theorem codeAndMessage?_isSome (cs : List Char) (line : RestOfLine cs) :
    (codeAndMessage? cs).isSome = true ↔ cs ≠ [] := by
  rw [codeAndMessage?]
  cases coded : codeRun? cs with
  | none => rw [Option.isSome_map,behindColon?_isSome cs line]
  | some code =>
    have filled : cs ≠ [] := by
      rintro rfl
      contradiction
    refine iff_of_true ?_ filled
    dsimp only
    split
    · rfl
    · split
      · rw [Option.isSome_map]
        exact (behindColon?_isSome cs line).mpr filled
      · rfl

theorem after?_or_mem {σ β : Type} {cs : List Char} (line : RestOfLine cs) (M : Language Char)
    (a b : List Char) (x y : σ) (apart : ∀ rest rest', a ++ rest ≠ b ++ rest')
    (next : σ × List Char → Option β)
    (each : ∀ s rest, RestOfLine rest → ((next (s,rest)).isSome = true ↔ rest ∈ M)) :
    ((((after? a cs).map (x,·)).or ((after? b cs).map (y,·))) >>= next).isSome = true ↔
      cs ∈ (word a + word b) * M := by
  have first := after?_mem line M a (fun rest => next (x,rest)) (each x)
  have second := after?_mem line M b (fun rest => next (y,rest)) (each y)
  rw [add_mul,Language.mem_add,← first,← second]
  cases found : after? a cs with
  | none => cases after? b cs <;> simp
  | some rest =>
    have other : after? b cs = none := by
      rw [after?_eq_none_iff]
      rintro ⟨rest',same⟩
      exact apart rest rest' (((after?_iff a cs rest).mp found).symm.trans same.symm)
    simp [other]

theorem tsc_pattern (cs : List Char) (line : RestOfLine cs) :
    (tscLine? cs).isSome = true ↔ cs ∈ TextReport.tsc.pattern := by
  rw [tscLine?,TextReport.pattern]
  simp only [mul_assoc]
  refine run?_mem line _ _ (stops_word _ '(' [] _ rfl) _ fun file cs line => ?_
  refine after?_mem line _ ['('] _ fun cs line => ?_
  refine run?_mem line _ isDecimalDigit (stops_word _ ',' [] _ rfl) _ fun digits cs line => ?_
  refine after?_mem line _ [','] _ fun cs line => ?_
  refine run?_mem line _ isDecimalDigit (stops_word _ ')' [':'] _ rfl) _ fun digits cs line => ?_
  refine after?_mem line _ [')',':'] _ fun cs line => ?_
  refine dropBlank_mem line _ ?_ fun cs line same => ?_
  · rw [add_mul]
    rintro rest (inside | inside)
    · exact stops_word isBlank 'e' "rror".toList _ rfl rest inside
    · exact stops_word isBlank 'w' "arning".toList _ rfl rest inside
  rw [← same]
  refine after?_or_mem line _ _ _ _ _ (by simp) _ fun severity cs line => ?_
  have filled := ((((content_filled.behind nil_mem_space).behind
    (nil_mem_optional (word [':']))).behind nil_mem_space).behind
      (nil_mem_optional (runs isUpperLetter * number))).behind nil_mem_space
  rw [isSome_bind_pure,filled cs line,codeAndMessage?_isSome _ line.dropBlank]
  exact line.dropBlank_ne_nil_iff

/-- No level holds a colon, so a header is cut at its first one. -/
theorem dropWhile_level (named rest : List Char) (inside : named ∈ level) :
    (named ++ ':' :: rest).dropWhile isNotColon = ':' :: rest := by
  obtain ⟨known,listed,same⟩ := inside
  have lower : named.map asciiLower = known.1.toList.map asciiLower := eq_of_beq same
  have plain : ∀ known ∈ Tombi.levels, ':' ∉ known.1.toList.map asciiLower := by decide
  have apart : ∀ c ∈ named, isNotColon c = true := by
    intro c member
    rw [isNotColon,bne_iff_ne]
    rintro rfl
    exact plain known listed (lower ▸ List.mem_map_of_mem (f := asciiLower) member)
  exact List.dropWhile_append_of_pos apart

def behindLevel? (cs : List Char) : Option (Severity × List Char) :=
  Tombi.levels.findSome? fun (word,severity) =>
    ((Tombi.afterWord? word cs).bind (after? [':'])).map (severity,·)

theorem behindLevel?_read (cs rest : List Char) (severity : Severity)
    (found : behindLevel? cs = some (severity,rest)) :
    ∃ named ∈ level, cs = named ++ ':' :: rest := by
  obtain ⟨known,listed,read⟩ := List.exists_of_findSome?_eq_some found
  obtain ⟨_,behind,same⟩ := Option.map_eq_some_iff.mp read
  obtain ⟨_,worded,colon⟩ := Option.bind_eq_some_iff.mp behind
  obtain ⟨named,rfl,case⟩ := (Tombi.afterWord?_iff _ _ _).mp worded
  obtain rfl := (after?_iff _ _ _).mp colon
  obtain rfl := (Prod.mk.inj same).2
  exact ⟨named,⟨known,listed,case⟩,rfl⟩

theorem behindLevel?_append (named rest : List Char) (inside : named ∈ level) :
    ∃ severity, behindLevel? (named ++ ':' :: rest) = some (severity,rest) := by
  obtain ⟨known,listed,case⟩ := inside
  have worded : Tombi.afterWord? known.1 (named ++ ':' :: rest) = some (':' :: rest) :=
    (Tombi.afterWord?_iff _ _ _).mpr ⟨named,rfl,case⟩
  have some : (behindLevel? (named ++ ':' :: rest)).isSome = true := by
    rw [behindLevel?,List.findSome?_isSome_iff]
    refine ⟨known,listed,?_⟩
    rw [Option.isSome_map,worded]
    rfl
  obtain ⟨⟨severity,other⟩,found⟩ := Option.isSome_iff_exists.mp some
  obtain ⟨first,level,same⟩ := behindLevel?_read _ other severity found
  have cut := congrArg (List.dropWhile isNotColon) same
  rw [dropWhile_level named rest ⟨known,listed,case⟩,dropWhile_level first other level] at cut
  obtain rfl := (List.cons.inj cut).2
  exact ⟨severity,found⟩

theorem header_pattern (cs : List Char) (line : RestOfLine cs) :
    (Tombi.header? cs).isSome = true ↔ cs ∈ TextReport.tombi.pattern := by
  have filled := content_filled.behind nil_mem_space
  rw [Tombi.header?,← behindLevel?,TextReport.pattern]
  simp only [mul_assoc]
  rw [isSome_bind_iff,Language.mem_mul]
  simp only [isSome_bind_pure,rest?_isSome]
  constructor
  · rintro ⟨⟨severity,rest⟩,found,accepted⟩
    obtain ⟨named,known,rfl⟩ := behindLevel?_read cs rest severity found
    have tail := (line.behind (List.suffix_append named _)).behind (List.suffix_cons ':' rest)
    have some := (filled rest tail).mpr (tail.dropBlank_ne_nil_iff.mp accepted)
    exact ⟨named,known,':' :: rest,Language.mem_mul.mpr ⟨[':'],rfl,rest,some,rfl⟩,rfl⟩
  · rintro ⟨named,known,_,behind,rfl⟩
    obtain ⟨_,rfl,rest,some,rfl⟩ := Language.mem_mul.mp behind
    have tail := (line.behind (List.suffix_append named _)).behind (List.suffix_append [':'] rest)
    obtain ⟨severity,found⟩ := behindLevel?_append named rest known
    exact ⟨(severity,rest),found,tail.dropBlank_ne_nil_iff.mpr ((filled rest tail).mp some)⟩

end LintTools.Report

namespace LintTools.TextReport
open Report

/-- A form finds a diagnostic exactly in the lines of its pattern. -/
theorem form?_isSome_iff (report : TextReport) (cs : List Char) (line : RestOfLine cs) :
    (report.form? cs).isSome = true ↔ cs ∈ report.pattern := by
  cases report with
  | tsc => exact tsc_pattern cs line
  | lualint => exact lualint_pattern cs line
  | luacheck => exact luacheck_pattern cs line
  | yamllint => exact yamllint_pattern cs line
  | dotenvLinter => exact dotenv_pattern cs line
  | cpplint => exact cpplint_pattern cs line
  | tombi => exact header_pattern cs line

end LintTools.TextReport
