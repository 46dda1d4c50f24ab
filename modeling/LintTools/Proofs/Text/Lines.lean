import LintTools.Proofs.Text.Pieces
import Mathlib.Data.List.DropRight

/-! Trimming, and the filled lines of a text. Blanks around a text change neither, and a text that
is trimmed starts with the first of its filled lines. -/
namespace LintTools.Text

def Blank (cs : List Char) : Prop := ∀ c ∈ cs, isBlank c = true

theorem visible_of_ascii (c : Char) (low : 33 ≤ c.toNat) (high : c.toNat ≤ 126) :
    isBlank c = false := by
  simp only [isBlank,Bool.or_eq_false_iff,Bool.and_eq_false_iff,decide_eq_false_iff_not,
    beq_eq_false_iff_ne]
  omega

theorem strip_eq (cs : List Char) : strip cs = (cs.dropWhile isBlank).rdropWhile isBlank := rfl

theorem strip_blank_append (gap cs : List Char) (blank : Blank gap) :
    strip (gap ++ cs) = strip cs := by
  rw [strip_eq,List.dropWhile_append_of_pos blank,strip_eq]

theorem strip_append_blank (cs gap : List Char) (blank : Blank gap) :
    strip (cs ++ gap) = strip cs := by
  have dropped (filled : List Char) : (filled ++ gap).rdropWhile isBlank =
      filled.rdropWhile isBlank := by
    rw [List.rdropWhile,List.reverse_append,List.dropWhile_append_of_pos]
    · rfl
    · intro c member
      exact blank c (List.mem_reverse.mp member)
  rw [strip_eq,List.dropWhile_append]
  split
  next empty =>
    rw [List.isEmpty_iff] at empty
    rw [strip_eq,empty,List.dropWhile_eq_nil_iff.mpr blank]
  next => rw [dropped,strip_eq]

/-- A text that does not start with a blank is its stripped form and a gap behind it. -/
theorem strip_gap (cs : List Char) : ∃ gap, Blank gap ∧ dropBlank cs = strip cs ++ gap :=
  ⟨(dropBlank cs).rtakeWhile isBlank,fun _ => List.mem_rtakeWhile_imp,
    (List.rdropWhile_append_rtakeWhile (p := isBlank) (l := dropBlank cs)).symm⟩

/-- A text is its stripped form between two gaps. -/
theorem strip_gaps (cs : List Char) : ∃ before after, Blank before ∧ Blank after ∧
    cs = before ++ (strip cs ++ after) := by
  obtain ⟨after,blank,same⟩ := strip_gap cs
  refine ⟨cs.takeWhile isBlank,after,fun _ => List.mem_takeWhile_imp,blank,?_⟩
  rw [← same]
  exact List.takeWhile_append_dropWhile.symm

theorem strip_strip (cs : List Char) : strip (strip cs) = strip cs := by
  obtain ⟨before,after,blankBefore,blankAfter,same⟩ := strip_gaps cs
  conv_rhs => rw [same,strip_blank_append before _ blankBefore,strip_append_blank _ after blankAfter]

theorem strip_eq_nil_iff (cs : List Char) : strip cs = [] ↔ Blank cs := by
  constructor
  · intro empty
    obtain ⟨before,after,blankBefore,blankAfter,same⟩ := strip_gaps cs
    rw [same,empty]
    intro c member
    rcases List.mem_append.mp member with inside | inside
    · exact blankBefore c inside
    · exact blankAfter c (by simpa using inside)
  · intro blank
    rw [strip_eq,List.dropWhile_eq_nil_iff.mpr blank]
    rfl

theorem dropBlank_strip (cs : List Char) : dropBlank (strip cs) = strip cs := by
  obtain ⟨gap,_,same⟩ := strip_gap cs
  cases found : strip cs with
  | nil => rfl
  | cons c tail =>
    have first := List.head?_dropWhile_not isBlank cs
    rw [← dropBlank,same,found] at first
    rw [dropBlank,List.dropWhile_cons_of_neg]
    simpa using first

/-- Every text is one line, or a line before another text. -/
theorem line_induction {motive : List Char → Prop} (line : ∀ cs, '\n' ∉ cs → motive cs)
    (append : ∀ first rest, '\n' ∉ first → motive rest → motive (first ++ '\n' :: rest))
    (cs : List Char) : motive cs := by
  by_cases inside : '\n' ∈ cs
  · obtain ⟨first,rest,same,absent⟩ := List.eq_append_cons_of_mem inside
    rw [same]
    exact append first rest absent (line_induction line append rest)
  · exact line cs inside
termination_by cs.length
decreasing_by
  simp only [same,List.length_append,List.length_cons]
  omega

theorem filledLines_append (first rest : List Char) :
    filledLines (first ++ '\n' :: rest) = filledLines first ++ filledLines rest := by
  simp only [filledLines,pieces_append,List.map_append,List.filter_append]

theorem filledLines_line (cs : List Char) (absent : '\n' ∉ cs) :
    filledLines cs = if strip cs = [] then [] else [strip cs] := by
  rw [filledLines,pieces_of_not_mem '\n' cs absent]
  by_cases empty : strip cs = []
  · simp [empty]
  · simp [empty]

/-- The filled lines of a text are those of its lines, read one by one. -/
theorem filledLines_flatMap (cs : List Char) :
    filledLines cs = (pieces '\n' cs).flatMap filledLines := by
  induction cs using line_induction with
  | line cs absent => rw [pieces_of_not_mem '\n' cs absent,List.flatMap_singleton]
  | append first rest absent ih =>
    rw [filledLines_append,pieces_append,List.flatMap_append,← ih,
      pieces_of_not_mem '\n' first absent,List.flatMap_singleton]

theorem filledLines_concat_blank (cs : List Char) (c : Char) (blank : isBlank c = true) :
    filledLines (cs ++ [c]) = filledLines cs := by
  induction cs using line_induction with
  | line cs absent =>
    by_cases ended : c = '\n'
    · rw [ended,filledLines_append cs []]
      exact List.append_nil _
    · have gap : Blank [c] := by simpa [Blank] using blank
      have absentToo : '\n' ∉ cs ++ [c] := by simp [absent,Ne.symm ended]
      rw [filledLines_line cs absent,filledLines_line _ absentToo,strip_append_blank cs [c] gap]
  | append first rest absent ih =>
    rw [List.append_assoc,List.cons_append,filledLines_append,ih,filledLines_append]

theorem filledLines_append_blank (cs gap : List Char) (blank : Blank gap) :
    filledLines (cs ++ gap) = filledLines cs := by
  induction gap generalizing cs with
  | nil => rw [List.append_nil]
  | cons c gap ih =>
    have rest := ih (cs ++ [c]) (fun d member => blank d (List.mem_cons_of_mem c member))
    rw [List.append_assoc,List.singleton_append] at rest
    rw [rest,filledLines_concat_blank cs c (blank c List.mem_cons_self)]

theorem filledLines_cons_blank (c : Char) (cs : List Char) (blank : isBlank c = true) :
    filledLines (c :: cs) = filledLines cs := by
  by_cases ended : c = '\n'
  · rw [ended]
    exact filledLines_append [] cs
  · have gap : Blank [c] := by simpa [Blank] using blank
    have absentToo (first : List Char) (absent : '\n' ∉ first) : '\n' ∉ c :: first := by
      simp [absent,Ne.symm ended]
    cases cs using line_induction with
    | line cs absent =>
      rw [filledLines_line cs absent,filledLines_line _ (absentToo cs absent)]
      rw [← strip_blank_append [c] cs gap,List.singleton_append]
    | append first rest absent =>
      rw [← List.cons_append,filledLines_append,filledLines_append,filledLines_line first absent,
        filledLines_line _ (absentToo first absent)]
      rw [← strip_blank_append [c] first gap,List.singleton_append]

theorem filledLines_blank_append (gap cs : List Char) (blank : Blank gap) :
    filledLines (gap ++ cs) = filledLines cs := by
  induction gap with
  | nil => rfl
  | cons c gap ih =>
    rw [List.cons_append,filledLines_cons_blank c _ (blank c List.mem_cons_self)]
    exact ih (fun d member => blank d (List.mem_cons_of_mem c member))

theorem filledLines_strip (cs : List Char) : filledLines (strip cs) = filledLines cs := by
  obtain ⟨before,after,blankBefore,blankAfter,same⟩ := strip_gaps cs
  conv_rhs => rw [same,filledLines_blank_append before _ blankBefore,
    filledLines_append_blank _ after blankAfter]

theorem filledLines_eq_nil_iff (cs : List Char) : filledLines cs = [] ↔ Blank cs := by
  induction cs using line_induction with
  | line cs absent =>
    rw [filledLines_line cs absent,← strip_eq_nil_iff]
    by_cases empty : strip cs = []
    · simp [empty]
    · simp [empty]
  | append first rest absent ih =>
    have ended : isBlank '\n' = true := by decide
    have firstBlank : filledLines first = [] ↔ Blank first := by
      rw [filledLines_line first absent,← strip_eq_nil_iff]
      simp
    rw [filledLines_append,List.append_eq_nil_iff,firstBlank,ih]
    simp only [Blank,List.forall_mem_append,List.forall_mem_cons,ended,true_and]

theorem strip_of_mem_filledLines (cs line : List Char) (member : line ∈ filledLines cs) :
    strip line = line := by
  obtain ⟨inside,_⟩ := List.mem_filter.mp member
  obtain ⟨piece,_,rfl⟩ := List.mem_map.mp inside
  exact strip_strip piece

theorem dropBlank_starts (cs first : List Char) (others : List (List Char))
    (filled : filledLines cs = first :: others) :
    ∃ tail, dropBlank cs = first ++ tail ∧ filledLines tail = others := by
  induction cs using line_induction with
  | line cs absent =>
    obtain ⟨gap,blank,same⟩ := strip_gap cs
    rw [filledLines_line cs absent] at filled
    split at filled
    next => contradiction
    next =>
      obtain ⟨rfl,rfl⟩ := List.cons.inj filled
      exact ⟨gap,same,(filledLines_eq_nil_iff gap).mpr blank⟩
  | append line rest absent ih =>
    rw [filledLines_append,filledLines_line line absent] at filled
    split at filled
    next empty =>
      obtain ⟨tail,same,following⟩ := ih filled
      refine ⟨tail,?_,following⟩
      rw [← same,dropBlank,List.dropWhile_append_of_pos ((strip_eq_nil_iff line).mp empty)]
      rfl
    next visible =>
      obtain ⟨rfl,rfl⟩ := List.cons.inj filled
      obtain ⟨gap,blank,same⟩ := strip_gap line
      refine ⟨gap ++ '\n' :: rest,?_,?_⟩
      · have starts : ¬(line.dropWhile isBlank).isEmpty = true := by
          rw [← dropBlank,same]
          simp [visible]
        rw [dropBlank,List.dropWhile_append,if_neg starts,← dropBlank,same,List.append_assoc]
      · rw [filledLines_blank_append gap _ blank]
        exact filledLines_append [] rest

/-- A stripped text starts with its first filled line, and the others are behind it. -/
theorem strip_starts (cs first : List Char) (others : List (List Char))
    (filled : filledLines cs = first :: others) :
    ∃ tail, strip cs = first ++ tail ∧ filledLines tail = others := by
  rw [← filledLines_strip] at filled
  rw [← dropBlank_strip]
  exact dropBlank_starts (strip cs) first others filled

theorem strip_single (cs line : List Char) (filled : filledLines cs = [line]) :
    strip cs = line := by
  obtain ⟨tail,same,ended⟩ := strip_starts cs line [] filled
  have blank := (filledLines_eq_nil_iff tail).mp ended
  have stripped := strip_of_mem_filledLines cs line (by rw [filled]; exact List.mem_cons_self)
  rw [← strip_strip,same,strip_append_blank line tail blank,stripped]

end LintTools.Text
