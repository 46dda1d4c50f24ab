import LintTools.Proofs.Text.Lines

/-! Trimmed texts, which trimming leaves as they are: neither of their ends is a blank. What stands
between two of them makes no difference. -/
namespace LintTools.Text

def Trimmed (cs : List Char) : Prop :=
  (∀ c ∈ cs.head?, isBlank c = false) ∧ ∀ c ∈ cs.getLast?, isBlank c = false

theorem dropBlank_eq_self_iff (cs : List Char) :
    dropBlank cs = cs ↔ ∀ c ∈ cs.head?, isBlank c = false := by
  rw [dropBlank,List.dropWhile_eq_self_iff]
  cases cs <;> simp

theorem rdropBlank_eq_self_iff (cs : List Char) :
    cs.rdropWhile isBlank = cs ↔ ∀ c ∈ cs.getLast?, isBlank c = false := by
  rw [List.rdropWhile_eq_self_iff]
  by_cases empty : cs = []
  · simp [empty]
  · simp [List.getLast?_eq_getLast_of_ne_nil empty,empty]

theorem strip_eq_self_iff (cs : List Char) : strip cs = cs ↔ Trimmed cs := by
  rw [Trimmed,← dropBlank_eq_self_iff,← rdropBlank_eq_self_iff,strip_eq,← dropBlank]
  constructor
  · intro same
    have first : dropBlank cs = cs := by
      have kept := dropBlank_strip cs
      rwa [strip_eq,← dropBlank,same] at kept
    rw [first] at same
    exact ⟨first,same⟩
  · rintro ⟨first,last⟩
    rw [first,last]

instance (cs : List Char) : Decidable (Trimmed cs) :=
  decidable_of_iff (strip cs = cs) (strip_eq_self_iff cs)

theorem strip_trimmed (cs : List Char) : Trimmed (strip cs) :=
  (strip_eq_self_iff _).mp (strip_strip cs)

theorem trimmed_nil : Trimmed [] := by simp [Trimmed]

theorem trimmed_of_visible (cs : List Char) (visible : ∀ c ∈ cs, isBlank c = false) : Trimmed cs :=
  ⟨fun c member => visible c (List.mem_of_head? member),
    fun c member => visible c (List.mem_of_getLast? member)⟩

theorem trimmed_singleton (c : Char) (visible : isBlank c = false) : Trimmed [c] :=
  trimmed_of_visible [c] (by simpa using visible)

theorem Trimmed.between {first last : List Char} (middle : List Char) (before : Trimmed first)
    (behind : Trimmed last) (filled : first ≠ []) (filledToo : last ≠ []) :
    Trimmed (first ++ (middle ++ last)) := by
  constructor
  · rw [List.head?_append_of_ne_nil _ filled]
    exact before.1
  · rw [← List.append_assoc,List.getLast?_append_of_ne_nil _ filledToo]
    exact behind.2

/-- A trimmed start is kept, and only what stands behind it is trimmed. -/
theorem strip_append_trimmed (start cs : List Char) (filled : start ≠ []) (trimmed : Trimmed start) :
    ∃ tail, strip (start ++ cs) = start ++ tail := by
  obtain ⟨before,after,_,blank,same⟩ := strip_gaps cs
  by_cases empty : strip cs = []
  · have gap := (strip_eq_nil_iff cs).mp empty
    refine ⟨[],?_⟩
    rw [strip_append_blank start cs gap,(strip_eq_self_iff start).mpr trimmed,List.append_nil]
  · refine ⟨before ++ strip cs,?_⟩
    have whole := trimmed.between before (strip_trimmed cs) filled empty
    conv_lhs => rw [same,← List.append_assoc before,← List.append_assoc start,
      strip_append_blank _ after blank]
    exact (strip_eq_self_iff _).mpr whole

/-- Blanks are not all of a text that ends in something visible. -/
theorem dropBlank_ne_nil (cs : List Char) (filled : cs ≠ [])
    (visible : ∀ c ∈ cs.getLast?, isBlank c = false) : dropBlank cs ≠ [] := by
  intro empty
  have shown := visible (cs.getLast filled) (by
    rw [List.getLast?_eq_getLast_of_ne_nil filled]
    rfl)
  rw [List.dropWhile_eq_nil_iff.mp empty _ (List.getLast_mem filled)] at shown
  contradiction

theorem trim_toList (text : String) : (trim text).toList = strip text.toList :=
  String.toList_ofList

theorem trim_eq_self_iff (text : String) : trim text = text ↔ Trimmed text.toList := by
  rw [← strip_eq_self_iff,← trim_toList,String.toList_inj]

theorem strip_sublist (cs : List Char) : (strip cs).Sublist cs := by
  rw [strip_eq]
  exact (List.rdropWhile_prefix isBlank _).sublist.trans (List.dropWhile_sublist isBlank)

theorem trim_eq_of_length (text : String)
    (long : (trim text).toList.length = text.toList.length) : trim text = text := by
  rw [← String.toList_inj]
  rw [trim_toList] at long ⊢
  exact (strip_sublist text.toList).eq_of_length long

theorem ofList_strip_trimmed (cs : List Char) : Trimmed (String.ofList (strip cs)).toList := by
  rw [String.toList_ofList]
  exact strip_trimmed cs

theorem trim_trimmed (text : String) : Trimmed (trim text).toList :=
  ofList_strip_trimmed text.toList

theorem Trimmed.joined {first last : String} (middle : String) (before : Trimmed first.toList)
    (behind : Trimmed last.toList) (filled : first ≠ "") (filledToo : last ≠ "") :
    Trimmed (first ++ middle ++ last).toList := by
  rw [String.toList_append,String.toList_append,List.append_assoc]
  exact before.between middle.toList behind (mt String.toList_eq_nil_iff.mp filled)
    (mt String.toList_eq_nil_iff.mp filledToo)

/-- A note in parentheses behind a text leaves it trimmed. -/
theorem Trimmed.noted {text : String} (note : String) (trimmed : Trimmed text.toList)
    (filled : text ≠ "") : Trimmed (text ++ " (" ++ note ++ ")").toList := by
  have closed : Trimmed ")".toList := trimmed_singleton ')' (by decide)
  have shape : text ++ " (" ++ note ++ ")" = text ++ (" (" ++ note) ++ ")" := by
    simp only [String.append_assoc]
  rw [shape]
  exact trimmed.joined (" (" ++ note) closed filled (by decide)

end LintTools.Text
