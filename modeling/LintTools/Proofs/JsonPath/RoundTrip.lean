import LintTools.Proofs.JsonPath.Scanning
import LintTools.Proofs.Text.Numeral

/-! Written paths are read back. Each step is written so that the reader, wherever it stands among
keys, ends the step before it and finds this one again; only the root sign in front of a path is
dropped afterwards. -/
namespace LintTools.JsonPath
open LintTools.Text (Trimmed strip isSigned showInteger)

/-- Keys that are written as the reader expects them. In brackets and quotes only a closing bracket
is lost; behind a point a key also has to be free of quotes, and of blanks at its ends. -/
def LegibleKey (name : String) : Prop :=
  name ≠ "" ∧ name ≠ "$" ∧ ']' ∉ name.toList ∧
    ('.' ∈ name.toList ∨ '[' ∈ name.toList ∨ '"' ∉ name.toList ∧ Text.trim name = name)

instance (name : String) : Decidable (LegibleKey name) :=
  inferInstanceAs (Decidable (_ ∧ _ ∧ _ ∧ (_ ∨ _ ∨ _ ∧ _)))

def Step.Legible : Step → Prop
  | .key name => LegibleKey name
  | .index position => isSigned position = true
  | .every => True

instance (step : Step) : Decidable step.Legible :=
  match step with
  | .key name => inferInstanceAs (Decidable (LegibleKey name))
  | .index position => inferInstanceAs (Decidable (isSigned position = true))
  | .every => isTrue trivial

theorem Step.Legible.kept (step : Step) (legible : step.Legible) : (!step.isRoot) = true := by
  cases step with
  | key name =>
    obtain ⟨filled,noSign,_⟩ := legible
    simp [isRoot,filled,noSign]
  | index position => rfl
  | every => rfl

/-- A legible key has a sign that asks for quotes, or it is plain. -/
theorem LegibleKey.form (name : String) (legible : LegibleKey name) :
    ('.' ∈ name.toList ∨ '[' ∈ name.toList) ∨
      (∀ c ∈ name.toList, isSign c = false) ∧ Trimmed name.toList := by
  obtain ⟨_,_,closed,form⟩ := legible
  by_cases special : '.' ∈ name.toList ∨ '[' ∈ name.toList
  · exact .inl special
  · simp only [not_or] at special
    obtain ⟨noPoint,noOpening⟩ := special
    obtain ⟨noQuote,trimmed⟩ : '"' ∉ name.toList ∧ Text.trim name = name := by
      simpa [noPoint,noOpening] using form
    refine .inr ⟨?_,(Text.trim_eq_self_iff name).mp trimmed⟩
    intro c member
    simp only [isSign,Bool.or_eq_false_iff,decide_eq_false_iff_not]
    refine ⟨⟨⟨?_,?_⟩,?_⟩,?_⟩ <;> rintro rfl <;> contradiction

theorem Step.text_special (name : String) (special : '.' ∈ name.toList ∨ '[' ∈ name.toList) :
    Step.text (.key name) = '[' :: ('"' :: (name.toList ++ ['"']) ++ [']']) := by
  have signed : (name.toList.any fun c => c = '.' || c = '[' || c = ']') = true := by
    rw [List.any_eq_true]
    rcases special with point | opening
    · exact ⟨'.',point,rfl⟩
    · exact ⟨'[',opening,rfl⟩
  simp [Step.text,signed]

theorem Step.text_plain (name : String) (plain : ∀ c ∈ name.toList, isSign c = false) :
    Step.text (.key name) = '.' :: name.toList := by
  have unsigned : (name.toList.any fun c => c = '.' || c = '[' || c = ']') = false := by
    rw [List.any_eq_false]
    intro c member
    have clear := plain c member
    simp only [isSign,Bool.or_eq_false_iff,decide_eq_false_iff_not] at clear
    simp [clear]
  simp [Step.text,unsigned]

theorem unquote_quoted (cs : List Char) : unquote ('"' :: (cs ++ ['"'])) = cs := by
  simp [unquote]

theorem unquote_plain (cs : List Char) (plain : cs.head? ≠ some '"') : unquote cs = cs := by
  unfold unquote
  split
  · simp at plain
  · rfl

/-- A text with a point or an opening bracket in it is no position. -/
theorem readIndex?_special (cs : List Char) (special : '.' ∈ cs ∨ '[' ∈ cs) :
    readIndex? cs = none := by
  have unread : Text.readSigned cs = none := by
    rcases special with point | opening
    · exact Text.readSigned_eq_none cs '.' point (by decide) (by decide) (by decide)
    · exact Text.readSigned_eq_none cs '[' opening (by decide) (by decide) (by decide)
  unfold readIndex?
  split
  · rfl
  · exact unread

section Position
variable (position : Int)

theorem showInteger_free (sign : Char) (minus : sign ≠ '-') (other : sign.isDigit = false) :
    sign ∉ showInteger position := by
  intro member
  rcases Text.showInteger_characters position sign member with same | digit
  · exact minus same
  · simp [other] at digit

theorem showInteger_trimmed : Trimmed (showInteger position) := by
  apply Text.trimmed_of_visible
  intro c member
  rcases Text.showInteger_characters position c member with rfl | digit
  · decide
  · exact Text.visible_of_digit c digit

theorem readIndex?_showInteger (signed : isSigned position = true) :
    readIndex? (showInteger position) = some position := by
  have noPlus := showInteger_free position '+' (by decide) (by decide)
  unfold readIndex?
  split
  · rename_i shape
    simp [shape] at noPlus
  · exact Text.readSigned_showInteger position signed

end Position

section Brackets
variable (wildcards : Bool) (path : String)

theorem bracketStep_showInteger (position : Int) (signed : isSigned position = true) :
    bracketStep wildcards path (strip (showInteger position)) = .ok (.index position) := by
  have noQuote := showInteger_free position '"' (by decide) (by decide)
  have noStar := showInteger_free position '*' (by decide) (by decide)
  have plain : (showInteger position).head? ≠ some '"' := by
    intro first
    exact noQuote (List.mem_of_head? first)
  have read := readIndex?_showInteger position signed
  have named : ¬(showInteger position = [] ∨ showInteger position = ['*']) := by
    rintro (empty | star)
    · rw [empty] at read
      contradiction
    · exact noStar (by simp [star])
  rw [(Text.strip_eq_self_iff _).mpr (showInteger_trimmed position),bracketStep,if_neg named,
    unquote_plain _ plain]
  dsimp only
  rw [read]

theorem bracketStep_quoted (name : String) (special : '.' ∈ name.toList ∨ '[' ∈ name.toList) :
    bracketStep wildcards path (strip ('"' :: (name.toList ++ ['"']))) = .ok (.key name) := by
  have quote : Trimmed ['"'] := Text.trimmed_singleton '"' (by decide)
  have trimmed : Trimmed ('"' :: (name.toList ++ ['"'])) :=
    quote.between name.toList quote (by simp) (by simp)
  have named : ¬('"' :: (name.toList ++ ['"']) = [] ∨ '"' :: (name.toList ++ ['"']) = ['*']) := by
    simp
  rw [(Text.strip_eq_self_iff _).mpr trimmed,bracketStep,if_neg named,unquote_quoted]
  dsimp only
  rw [readIndex?_special _ special,String.ofList_toList]

/-- Behind any gathered key a written step ends that key and is found again. -/
theorem scan_step (step : Step) (rest : List Char) (steps : List Step) (legible : step.Legible)
    (allowed : wildcards = true ∨ step ≠ .every)
    (later : ∀ gathered, scan wildcards path .keys gathered rest = .ok (keyStep gathered ++ steps))
    (gathered : List Char) :
    scan wildcards path .keys gathered (step.text ++ rest) =
      .ok (keyStep gathered ++ step :: steps) := by
  have bracket (inner : List Char) (closed : ']' ∉ inner)
      (single : bracketStep wildcards path (strip inner) = .ok step) :
      scan wildcards path .keys gathered ('[' :: (inner ++ ']' :: rest)) =
        .ok (keyStep gathered ++ step :: steps) := by
    rw [scan_bracket wildcards path gathered inner rest closed,single,later []]
    rfl
  cases step with
  | every =>
    have wildcard : wildcards = true := by simpa using allowed
    refine bracket ['*'] (by decide) ?_
    rw [wildcard]
    rfl
  | index position =>
    have closed := showInteger_free position ']' (by decide) (by decide)
    have single := bracketStep_showInteger wildcards path position legible
    simpa [Step.text] using bracket (showInteger position) closed single
  | key name =>
    rcases LegibleKey.form name legible with special | ⟨plain,trimmed⟩
    · have closed : ']' ∉ '"' :: (name.toList ++ ['"']) := by simp [legible.2.2.1]
      have single := bracketStep_quoted wildcards path name special
      have found := bracket _ closed single
      rw [Step.text_special name special]
      simpa using found
    · have behind := later name.toList
      rw [keyStep_trimmed name legible.1 trimmed] at behind
      rw [Step.text_plain name plain,List.cons_append,scan_point,
        scan_literal wildcards path .keys [] _ rest plain,List.nil_append,behind]
      rfl

theorem scan_steps (steps : List Step) (legible : ∀ step ∈ steps, step.Legible)
    (allowed : wildcards = true ∨ .every ∉ steps) (gathered : List Char) :
    scan wildcards path .keys gathered (steps.flatMap Step.text) =
      .ok (keyStep gathered ++ steps) := by
  induction steps generalizing gathered with
  | nil => rw [List.append_nil]; rfl
  | cons step steps ih =>
    have first : wildcards = true ∨ step ≠ .every := by
      rcases allowed with wildcard | absent
      · exact .inl wildcard
      · exact .inr fun same => absent (by simp [same])
    have others : wildcards = true ∨ .every ∉ steps := by
      rcases allowed with wildcard | absent
      · exact .inl wildcard
      · exact .inr fun member => absent (List.mem_cons_of_mem step member)
    have later := ih (fun other member => legible other (List.mem_cons_of_mem step member)) others
    exact scan_step wildcards path step _ steps (legible step List.mem_cons_self) first later gathered

end Brackets

/-- A written path is read back; one without steps over every element also where these are not
allowed. -/
theorem read_text (path : JsonPath) (legible : ∀ step ∈ path.steps, step.Legible) :
    read true path.text = .ok path ∧ (path.hasEvery = false → read false path.text = .ok path) := by
  have root : keyStep ['$'] = [.key "$"] := by decide
  have kept : path.steps.filter (!·.isRoot) = path.steps := by
    rw [List.filter_eq_self]
    intro step member
    exact Step.Legible.kept step (legible step member)
  have back (wildcards : Bool) (allowed : wildcards = true ∨ .every ∉ path.steps) :
      read wildcards path.text = .ok path := by
    have scanned := scan_steps wildcards "" path.steps legible allowed ['$']
    rw [root,← List.nil_append ['$'],← scan_plain wildcards "" .keys [] _ '$' (by decide)] at scanned
    rw [read_iff wildcards "",text,String.toList_ofList]
    refine ⟨_,scanned,?_⟩
    rw [List.filter_append,kept]
    rfl
  constructor
  · exact back true (.inl rfl)
  · intro fixed
    exact back false (.inr (by simpa [hasEvery] using fixed))

def crowdedPath : JsonPath :=
  ⟨[.key "-5",.key "*",.key "a.\"b",.key "[\"",.index (-9223372036854775808),.key "$ref",.key " .",
    .index 7]⟩

theorem crowdedPath_read : (∀ step ∈ crowdedPath.steps, step.Legible) ∧
    crowdedPath.hasEvery = false ∧ read true crowdedPath.text = .ok crowdedPath ∧
    read false crowdedPath.text = .ok crowdedPath := by
  have legible : ∀ step ∈ crowdedPath.steps, step.Legible := by decide +kernel
  have fixed : crowdedPath.hasEvery = false := by decide
  obtain ⟨wild,plain⟩ := read_text crowdedPath legible
  exact ⟨legible,fixed,wild,plain fixed⟩

end LintTools.JsonPath
