import LintTools.Proofs.Report.Printed

/-! Findings printed between fixed marks: `file(line,column): severity CODE: message`,
`file:line:column: (CODE) message` and `file:line CODE: message`. The file has none of the marks that
may follow it, and behind the code anything is message, so each line is read in one way only. -/
namespace LintTools.Report
open Text

structure Rule where
  letters : List Char
  digits : List Char
  lettered : letters ≠ []
  numbered : digits ≠ []
  capital : ∀ c ∈ letters, c.isUpper = true
  ascii : ∀ c ∈ digits, c.isDigit = true

theorem behindColon?_phrase (message : Phrase) :
    behindColon? (':' :: ' ' :: message.text.toList) = some message.text.toList := by
  have behind := message.dropBlank_space
  have colon : dropBlank (':' :: ' ' :: message.text.toList) = ':' :: ' ' :: message.text.toList :=
    rfl
  rw [behindColon?,colon]
  simp only [behind]
  rw [if_neg (by simpa using message.filled)]

namespace Rule

def text (rule : Rule) : String := String.ofList (rule.letters ++ rule.digits)

theorem visible (rule : Rule) : ∀ c ∈ rule.letters ++ rule.digits, isBlank c = false := by
  intro c member
  rcases List.mem_append.mp member with letter | digit
  · have range := upper_range c (rule.capital c letter)
    exact visible_of_ascii c (by omega) (by omega)
  · exact visible_of_digit c (rule.ascii c digit)

theorem line (rule : Rule) : '\n' ∉ rule.text.toList := by
  rw [text,String.toList_ofList]
  intro member
  exact absurd (rule.visible '\n' member) (by decide)

theorem part (rule : Rule) : part? (rule.letters ++ rule.digits) = some rule.text := by
  apply part?_trimmed
  · exact trimmed_of_visible _ rule.visible
  · exact List.append_ne_nil_of_left_ne_nil rule.lettered _

theorem dropBlank_space (rule : Rule) (rest : List Char) :
    dropBlank (' ' :: (rule.letters ++ rest)) = rule.letters ++ rest := by
  apply Report.dropBlank_space
  intro c head
  rw [List.head?_append_of_ne_nil _ rule.lettered] at head
  exact rule.visible c (List.mem_append_left _ (List.mem_of_head? head))

theorem digits?_append (rule : Rule) (c : Char) (rest : List Char)
    (stop : isDecimalDigit c = false) :
    digits? (rule.digits ++ c :: rest) = some (rule.digits,c :: rest) :=
  Report.digits?_append _ c rest rule.numbered rule.ascii stop

theorem codeRun?_append (rule : Rule) (c : Char) (rest : List Char)
    (stop : isDecimalDigit c = false) :
    codeRun? (rule.letters ++ (rule.digits ++ c :: rest)) =
      some (rule.letters,rule.digits,c :: rest) := by
  have letters : run? isUpperLetter (rule.letters ++ (rule.digits ++ c :: rest)) =
      some (rule.letters,rule.digits ++ c :: rest) := by
    apply (run?_iff _ _ _ _).mpr
    refine ⟨rfl,rule.lettered,?_,?_⟩
    · intro d member
      rw [isUpperLetter_eq,rule.capital d member]
    · intro d head
      rw [List.head?_append_of_ne_nil _ rule.numbered] at head
      have range : 48 ≤ d.toNat ∧ d.toNat ≤ 57 :=
        Char.isDigit_iff_toNat.mp (rule.ascii d (List.mem_of_head? head))
      rw [isUpperLetter_eq,← Bool.not_eq_true]
      intro upper
      have other := upper_range d upper
      omega
  rw [codeRun?,letters,Option.bind_eq_bind,Option.bind_some]
  dsimp only
  rw [rule.digits?_append c rest stop]
  rfl

theorem codeAndMessage?_written (rule : Rule) (message : Phrase) :
    codeAndMessage? (rule.letters ++ (rule.digits ++ ':' :: ' ' :: message.text.toList)) =
      some (some (rule.letters ++ rule.digits),message.text.toList) := by
  rw [codeAndMessage?,rule.codeRun?_append ':' _ (by decide)]
  dsimp only
  rw [behindColon?_phrase]

end Rule

namespace Tsc

structure Finding where
  file : Phrase
  line : Decimal
  column : Decimal
  severity : Severity
  rule : Rule
  message : Phrase
  apart : ∀ c ∈ file.text.toList, c ≠ ':' ∧ c ≠ '('
  named : severity = .error ∨ severity = .warning

namespace Finding

def written (finding : Finding) : String :=
  finding.file.text ++ ("(" ++ finding.line.text ++ "," ++ finding.column.text ++ "): " ++
    finding.severity.label ++ " " ++ finding.rule.text ++ ": ") ++ finding.message.text

def diagnostic (finding : Finding) : Diagnostic where
  file := some finding.file.text
  line := some finding.line.value
  column := some finding.column.value
  severity := some finding.severity.label
  code := some finding.rule.text
  tool := some "tsc"
  message := finding.message.text

theorem written_toList (finding : Finding) : finding.written.toList =
    finding.file.text.toList ++ '(' :: (finding.line.digits ++ ',' :: (finding.column.digits ++
      ')' :: ':' :: ' ' :: (finding.severity.label.toList ++ ' ' :: (finding.rule.letters ++
        (finding.rule.digits ++ ':' :: ' ' :: finding.message.text.toList))))) := by
  simp [written,Decimal.text,Rule.text]

theorem read (finding : Finding) :
    tscLine? finding.written.toList = some finding.diagnostic := by
  have file (rest : List Char) : run? (fun c => c != ':' && c != '(')
      (finding.file.text.toList ++ '(' :: rest) = some (finding.file.text.toList,'(' :: rest) := by
    apply run?_append _ _ _ _ finding.file.filled
    · intro c member
      simpa using finding.apart c member
    · rfl
  have gap (rest : List Char) : dropBlank (' ' :: (finding.severity.label.toList ++ rest)) =
      finding.severity.label.toList ++ rest := by
    rcases finding.named with same | same
    · rw [same]
      rfl
    · rw [same]
      rfl
  have word (rest : List Char) :
      ((after? "error".toList (finding.severity.label.toList ++ rest)).map (Severity.error,·)).or
        ((after? "warning".toList (finding.severity.label.toList ++ rest)).map
          (Severity.warning,·)) = some (finding.severity,rest) := by
    rcases finding.named with same | same
    · rw [same]
      rfl
    · rw [same]
      rfl
  rw [tscLine?,finding.written_toList,file]
  simp only [Option.bind_eq_bind,Option.bind_some,after?,if_true,
    Decimal.digits?_append _ ',' _ (by decide),Decimal.digits?_append _ ')' _ (by decide),gap,word,
    Rule.dropBlank_space,Rule.codeAndMessage?_written,Phrase.part,Rule.part,
    Decimal.readSigned_digits]
  rfl

theorem legible (finding : Finding) : Legible finding.written := by
  apply Legible.between
  have label : '\n' ∉ finding.severity.label.toList := by
    rcases finding.named with same | same
    · rw [same]
      decide
    · rw [same]
      decide
  simp [finding.line.line,finding.column.line,finding.rule.line,label]

theorem line?_written (finding : Finding) :
    TextReport.tsc.line? finding.written.toList = some finding.diagnostic := by
  rw [line?_form]
  · exact finding.read
  · intro start member
    exact absurd member (List.not_mem_nil)

end Finding
end Tsc

namespace Luacheck

structure Finding where
  file : Phrase
  line : Decimal
  column : Decimal
  rule : Rule
  message : Phrase
  apart : ':' ∉ file.text.toList
  total : file.text ≠ "Total"
  single : rule.letters.length = 1

namespace Finding

def written (finding : Finding) : String :=
  finding.file.text ++ (":" ++ finding.line.text ++ ":" ++ finding.column.text ++ ": (" ++
    finding.rule.text ++ ") ") ++ finding.message.text

def severity (finding : Finding) : Severity :=
  if finding.rule.letters.head? = some 'E' then .error else .warning

def diagnostic (finding : Finding) : Diagnostic where
  file := some finding.file.text
  line := some finding.line.value
  column := some finding.column.value
  severity := some finding.severity.label
  code := some finding.rule.text
  tool := some "luacheck"
  message := finding.message.text

theorem written_toList (finding : Finding) : finding.written.toList =
    finding.file.text.toList ++ ':' :: (finding.line.digits ++ ':' :: (finding.column.digits ++
      ':' :: ' ' :: '(' :: (finding.rule.letters ++ (finding.rule.digits ++
        ')' :: ' ' :: finding.message.text.toList)))) := by
  simp [written,Decimal.text,Rule.text]

theorem read (finding : Finding) :
    luacheckLine? finding.written.toList = some finding.diagnostic := by
  obtain ⟨letter,same⟩ := List.length_eq_one_iff.mp finding.single
  have upper : isUpperLetter letter = true := by
    rw [isUpperLetter_eq]
    exact finding.rule.capital letter (by simp [same])
  have part : part? (letter :: finding.rule.digits) = some finding.rule.text := by
    have whole := finding.rule.part
    rwa [same] at whole
  have severity : (if letter = 'E' then Severity.error else .warning) = finding.severity := by
    simp [Finding.severity,same]
  rw [luacheckLine?,finding.written_toList,same,finding.file.run?_isNotColon finding.apart]
  simp only [Option.bind_eq_bind,Option.bind_some,after?,if_true,
    Decimal.digits?_append _ ':' _ (by decide),blanks?_mark '(' _ (by decide),
    List.singleton_append,List.head?_cons,List.tail_cons,Rule.digits?_append _ ')' _ (by decide),
    upper,Phrase.blanks?_space,Phrase.rest,Phrase.part,Decimal.readSigned_digits,severity,part]
  rfl

theorem legible (finding : Finding) : Legible finding.written := by
  apply Legible.between
  simp [finding.line.line,finding.column.line,finding.rule.line]

theorem line?_written (finding : Finding) :
    TextReport.luacheck.line? finding.written.toList = some finding.diagnostic := by
  rw [line?_form]
  · exact finding.read
  · intro start member starts
    obtain rfl : start = "Total:" := List.mem_singleton.mp member
    obtain ⟨rest,same⟩ := starts
    have total : run? isNotColon ("Total:".toList ++ rest) = some ("Total".toList,':' :: rest) := rfl
    rw [same,finding.written_toList,finding.file.run?_isNotColon finding.apart] at total
    have whole := (Prod.mk.inj (Option.some.inj total)).1
    exact finding.total (String.toList_inj.mp whole)

end Finding
end Luacheck

namespace DotenvLinter

structure Finding where
  file : Phrase
  line : Decimal
  code : String
  message : Phrase
  apart : ':' ∉ file.text.toList
  unled : ∀ start ∈ TextReport.dotenvLinter.summaries, ¬start.toList <+: file.text.toList
  coded : code.toList ≠ []
  plain : ∀ c ∈ code.toList, c.isAlphanum = true ∨ c = '_' ∨ c = '-'

namespace Finding

def written (finding : Finding) : String :=
  finding.file.text ++ (":" ++ finding.line.text ++ " " ++ finding.code ++ ": ") ++
    finding.message.text

def diagnostic (finding : Finding) : Diagnostic where
  file := some finding.file.text
  line := some finding.line.value
  severity := some Severity.warning.label
  code := some finding.code
  tool := some "dotenv-linter"
  message := finding.message.text

theorem written_toList (finding : Finding) : finding.written.toList =
    finding.file.text.toList ++ ':' :: (finding.line.digits ++ ' ' :: (finding.code.toList ++
      ':' :: ' ' :: finding.message.text.toList)) := by
  simp [written,Decimal.text]

theorem codeChars (finding : Finding) : ∀ c ∈ finding.code.toList, isCodeChar c = true :=
  fun c member => (isCodeChar_iff c).mpr (finding.plain c member)

theorem read (finding : Finding) :
    dotenvLine? finding.written.toList = some finding.diagnostic := by
  have gap (rest : List Char) : blanks? (' ' :: (finding.code.toList ++ rest)) =
      some (finding.code.toList ++ rest) := by
    apply blanks?_space
    intro c head
    rw [List.head?_append_of_ne_nil _ finding.coded] at head
    exact codeChar_visible c (finding.codeChars c (List.mem_of_head? head))
  have code (rest : List Char) : run? isCodeChar (finding.code.toList ++ ':' :: rest) =
      some (finding.code.toList,':' :: rest) := by
    apply run?_append _ _ _ _ finding.coded
    · exact finding.codeChars
    · rfl
  have part : part? finding.code.toList = some finding.code := by
    rw [part?_trimmed _ (trimmed_of_visible _ fun c member =>
      codeChar_visible c (finding.codeChars c member)) finding.coded,String.ofList_toList]
  rw [dotenvLine?,finding.written_toList,finding.file.run?_isNotColon finding.apart]
  simp only [Option.bind_eq_bind,Option.bind_some,after?,if_true,
    Decimal.digits?_append _ ' ' _ (by decide),gap,code,part,Phrase.blanks?_space,Phrase.rest,
    Phrase.part,Decimal.readSigned_digits]
  rfl

theorem legible (finding : Finding) : Legible finding.written := by
  apply Legible.between
  have code : '\n' ∉ finding.code.toList := by
    intro member
    have visible := codeChar_visible '\n' (finding.codeChars '\n' member)
    exact absurd visible (by decide)
  simp [finding.line.line,code]

theorem line?_written (finding : Finding) :
    TextReport.dotenvLinter.line? finding.written.toList = some finding.diagnostic := by
  have plain : ∀ start ∈ TextReport.dotenvLinter.summaries, ':' ∉ start.toList := by decide
  rw [finding.written_toList,line?_unled _ _ _ plain finding.unled,← finding.written_toList]
  exact finding.read

end Finding
end DotenvLinter

/-- Findings of the three tools are read back as they were printed, each from a line of its own. -/
theorem delimited_read_back :
    (∀ findings : List Tsc.Finding,
      ReadsBack .tsc (findings.map (·.written)) (findings.map (·.diagnostic))) ∧
    (∀ findings : List Luacheck.Finding,
      ReadsBack .luacheck (findings.map (·.written)) (findings.map (·.diagnostic))) ∧
    ∀ findings : List DotenvLinter.Finding,
      ReadsBack .dotenvLinter (findings.map (·.written)) (findings.map (·.diagnostic)) := by
  refine ⟨?_,?_,?_⟩
  · apply readsBack_map .tsc _ _ (by decide) Tsc.Finding.legible Tsc.Finding.line?_written
    exact fun finding => finding.message.text_ne_empty
  · apply readsBack_map .luacheck _ _ (by decide) Luacheck.Finding.legible
      Luacheck.Finding.line?_written
    exact fun finding => finding.message.text_ne_empty
  · apply readsBack_map .dotenvLinter _ _ (by decide) DotenvLinter.Finding.legible
      DotenvLinter.Finding.line?_written
    exact fun finding => finding.message.text_ne_empty

def typeFinding : Tsc.Finding where
  file := ⟨"src/a b.ts",by decide,by decide,by decide⟩
  line := ⟨['1','2'],by decide,List.all_eq_true.mp rfl,by decide⟩
  column := ⟨['0','3'],by decide,List.all_eq_true.mp rfl,by decide⟩
  severity := .error
  rule := ⟨['T','S'],['2','3','0','4'],by decide,by decide,List.all_eq_true.mp rfl,
    List.all_eq_true.mp rfl⟩
  message := ⟨"b.ts(1,2): warning E1: x",by decide,by decide,by decide⟩
  apart := by
    intro c member
    have clear := List.all_eq_true.mp
      (rfl : "src/a b.ts".toList.all (fun c => c != ':' && c != '(') = true) c member
    simpa using clear
  named := .inl rfl

def shadowFinding : Luacheck.Finding where
  file := ⟨"a b.lua",by decide,by decide,by decide⟩
  line := ⟨['0','0','3'],by decide,List.all_eq_true.mp rfl,by decide⟩
  column := ⟨['9'],by decide,List.all_eq_true.mp rfl,by decide⟩
  rule := ⟨['W'],['2','1','1'],by decide,by decide,List.all_eq_true.mp rfl,List.all_eq_true.mp rfl⟩
  message := ⟨"c.lua:5:6: (E011) (x): y",by decide,by decide,by decide⟩
  apart := by decide
  total := by decide
  single := rfl

def keyFinding : DotenvLinter.Finding where
  file := ⟨"config/.env",by decide,by decide,by decide⟩
  line := ⟨['7'],by decide,List.all_eq_true.mp rfl,by decide⟩
  code := "UnorderedKey"
  message := ⟨"The A: key",by decide,by decide,by decide⟩
  apart := by decide
  unled := by decide
  coded := by decide
  plain := by
    intro c member
    have clear := List.all_eq_true.mp
      (rfl : "UnorderedKey".toList.all (fun c => c.isAlphanum || c = '_' || c = '-') = true)
      c member
    simpa [or_assoc] using clear

theorem delimitedFindings_read :
    ReadsBack .tsc ["src/a b.ts(12,03): error TS2304: b.ts(1,2): warning E1: x"]
      [{ file := some "src/a b.ts"
         line := some 12
         column := some 3
         severity := some "error"
         code := some "TS2304"
         tool := some "tsc"
         message := "b.ts(1,2): warning E1: x" }] ∧
    ReadsBack .luacheck ["a b.lua:003:9: (W211) c.lua:5:6: (E011) (x): y"]
      [{ file := some "a b.lua"
         line := some 3
         column := some 9
         severity := some "warning"
         code := some "W211"
         tool := some "luacheck"
         message := "c.lua:5:6: (E011) (x): y" }] ∧
    ReadsBack .dotenvLinter ["config/.env:7 UnorderedKey: The A: key"]
      [{ file := some "config/.env"
         line := some 7
         severity := some "warning"
         code := some "UnorderedKey"
         tool := some "dotenv-linter"
         message := "The A: key" }] :=
  ⟨delimited_read_back.1 [typeFinding],delimited_read_back.2.1 [shadowFinding],
    delimited_read_back.2.2 [keyFinding]⟩

end LintTools.Report
