import LintTools.Invocation.Transform
import LintTools.Proofs.Text.Numeral
import LintTools.Proofs.Text.Run
import LintTools.Proofs.Text.Trimmed

/-! Python versions as they are written. A version whose numbers fit into 32 bits is read back from
its number, whatever release stands behind it, and from its tag while the major number is one digit.
So a value may be turned into a number before any other form of it is asked for. -/
namespace LintTools

namespace PythonVersion
open Text

structure Small (v : PythonVersion) : Prop where
  major : v.major ≤ maxSmall
  minor : v.minor ≤ maxSmall

theorem number_toList (v : PythonVersion) :
    v.number.toList = showNatural v.major ++ '.' :: showNatural v.minor := by
  have point : (toString ".").toList = ['.'] := rfl
  simp [number,showNatural,Nat.toString_eq_repr,Nat.toList_repr,point]

theorem tag_toList (v : PythonVersion) :
    v.tag.toList = 'p' :: 'y' :: (showNatural v.major ++ showNatural v.minor) := by
  have mark : (toString "py").toList = ['p','y'] := rfl
  simp [tag,showNatural,Nat.toString_eq_repr,Nat.toList_repr,mark]

/-- A text that starts with a digit has no mark to drop, and its first point ends the major number. -/
theorem read?_dotted (text : String) (major minor : List Char) (others : List (List Char))
    (digit : ∀ c ∈ (strip text.toList).head?, c.isDigit = true)
    (pieces : Text.pieces '.' (strip text.toList) = major :: minor :: others) :
    read? text = do return ⟨← readSmall major,← readSmall minor⟩ := by
  have unled (mark : Char) (rest : List Char) (letter : mark.isDigit = false) :
      after? (mark :: rest) (strip text.toList) = none := by
    rw [after?_eq_none_iff]
    rintro ⟨behind,same⟩
    have first := digit mark (by rw [← same]; rfl)
    rw [letter] at first
    contradiction
  have unmarked : ((after? ['p','y'] (strip text.toList)).or
      (after? ['P','Y'] (strip text.toList))).getD (strip text.toList) = strip text.toList := by
    rw [unled 'p' _ (by decide),unled 'P' _ (by decide)]
    rfl
  have dotted : (strip text.toList).contains '.' = true := by
    rw [List.contains_iff_mem]
    by_contra absent
    rw [pieces_of_not_mem '.' _ absent] at pieces
    simp at pieces
  unfold read?
  extract_lets cs
  have same : cs = strip text.toList := unmarked
  rw [same,if_pos dotted,pieces]

/-- Behind the mark of a tag and without a point, the first digit is the major number. -/
theorem read?_tagged (text : String) (major : Char) (minor : List Char)
    (tagged : strip text.toList = 'p' :: 'y' :: major :: minor) (filled : minor ≠ [])
    (digits : ∀ c ∈ major :: minor, c.isDigit = true) :
    read? text = do return ⟨← readSmall [major],← readSmall minor⟩ := by
  have pointless : (major :: minor).contains '.' = false := by
    rw [← Bool.not_eq_true,List.contains_iff_mem]
    exact fun member => absurd (digits '.' member) (by decide)
  have numeric : (major :: minor).all Text.isDigit = true := by
    rw [List.all_eq_true]
    intro c member
    rw [isDigit_eq,digits c member]
  unfold read?
  extract_lets cs
  have same : cs = major :: minor := by
    have unmarked : ((after? ['p','y'] (strip text.toList)).or
        (after? ['P','Y'] (strip text.toList))).getD (strip text.toList) = major :: minor := by
      rw [tagged]
      rfl
    exact unmarked
  rw [same,pointless,numeric]
  cases minor with
  | nil => contradiction
  | cons next rest => rfl

/-- Whatever spelling it was read from, a version has numbers of 32 bits. -/
theorem read?_small (text : String) (v : PythonVersion) (found : read? text = some v) : v.Small := by
  have both (major minor : List Char)
      (read : (do return ⟨← readSmall major,← readSmall minor⟩) = some v) : v.Small := by
    obtain ⟨first,low,rest⟩ := Option.bind_eq_some_iff.mp read
    obtain ⟨second,high,same⟩ := Option.bind_eq_some_iff.mp rest
    obtain rfl := Option.some.inj same
    exact ⟨readSmall_le major first low,readSmall_le minor second high⟩
  unfold read? at found
  extract_lets cs at found
  clear_value cs
  split at found
  · split at found
    · exact both _ _ found
    · contradiction
  · split at found
    · split at found
      · contradiction
      · obtain ⟨first,low,same⟩ := Option.bind_eq_some_iff.mp found
        obtain rfl := Option.some.inj same
        exact ⟨readSmall_le _ first low,Nat.zero_le _⟩
      · exact both _ _ found
    · contradiction

theorem target_small (ctx : Context) : (target ctx).Small := by
  rw [target]
  cases found : ctx.config.execution.pythonVersion.bind read? with
  | none => exact ⟨by decide,by decide⟩
  | some v =>
    obtain ⟨text,_,read⟩ := Option.bind_eq_some_iff.mp found
    exact read?_small text v read

section Written
variable (v : PythonVersion) (small : v.Small)
include small

/-- A version that ends its text, or stands before a further point, is read from it. -/
theorem read?_release (text : String) (behind : List Char)
    (shape : strip text.toList = v.number.toList ++ behind)
    (ended : ∀ c ∈ behind.head?, c = '.') : read? text = some v := by
  have plain (n : Nat) : '.' ∉ showNatural n :=
    fun member => absurd (showNatural_digits n '.' member) (by decide)
  have digit : ∀ c ∈ (strip text.toList).head?, c.isDigit = true := by
    intro c member
    rw [shape,number_toList,List.append_assoc,
      List.head?_append_of_ne_nil _ (showNatural_ne_nil v.major)] at member
    exact showNatural_digits v.major c (List.mem_of_head? member)
  obtain ⟨others,pieces⟩ : ∃ others, Text.pieces '.' (strip text.toList) =
      showNatural v.major :: showNatural v.minor :: others := by
    rw [shape,number_toList,List.append_assoc,List.cons_append,pieces_append,
      pieces_of_not_mem '.' _ (plain v.major)]
    cases behind with
    | nil =>
      rw [List.append_nil,pieces_of_not_mem '.' _ (plain v.minor)]
      exact ⟨[],rfl⟩
    | cons c rest =>
      obtain rfl := ended c rfl
      rw [pieces_append,pieces_of_not_mem '.' _ (plain v.minor)]
      exact ⟨Text.pieces '.' rest,rfl⟩
  rw [read?_dotted text _ _ others digit pieces,readSmall_showNatural v.major small.major,
    readSmall_showNatural v.minor small.minor]
  rfl

end Written

theorem number_visible (v : PythonVersion) : ∀ c ∈ v.number.toList, isBlank c = false := by
  intro c member
  rw [number_toList,List.mem_append,List.mem_cons] at member
  rcases member with major | rfl | minor
  · exact visible_of_digit c (showNatural_digits v.major c major)
  · decide
  · exact visible_of_digit c (showNatural_digits v.minor c minor)

section Written
variable (v : PythonVersion) (small : v.Small)
include small

theorem read?_number : read? v.number = some v := by
  have trimmed := trimmed_of_visible _ v.number_visible
  apply read?_release v small v.number []
  · rw [(strip_eq_self_iff _).mpr trimmed,List.append_nil]
  · simp

/-- A point and any text behind it name a release of the version. -/
theorem read?_number_point (behind : String) : read? (v.number ++ "." ++ behind) = some v := by
  have pointed : Trimmed (v.number.toList ++ ['.']) := by
    apply trimmed_of_visible
    intro c member
    rcases List.mem_append.mp member with inside | point
    · exact v.number_visible c inside
    · rw [List.mem_singleton.mp point]
      decide
  obtain ⟨tail,same⟩ := strip_append_trimmed _ behind.toList
    (List.append_ne_nil_of_right_ne_nil _ (by decide)) pointed
  have shape : (v.number ++ "." ++ behind).toList = v.number.toList ++ ['.'] ++ behind.toList := by
    simp
  apply read?_release v small _ ('.' :: tail)
  · rw [shape,same,List.append_assoc,List.singleton_append]
  · simp

theorem read?_tag (single : v.major ≤ 9) : read? v.tag = some v := by
  have digit : showNatural v.major = [Nat.digitChar v.major] :=
    Nat.toDigits_of_lt_base (by omega)
  have digits : ∀ c ∈ Nat.digitChar v.major :: showNatural v.minor, c.isDigit = true := by
    rw [← List.singleton_append,← digit]
    exact List.forall_mem_append.mpr ⟨showNatural_digits v.major,showNatural_digits v.minor⟩
  have tagged : strip v.tag.toList = 'p' :: 'y' :: Nat.digitChar v.major :: showNatural v.minor := by
    rw [tag_toList,digit,List.singleton_append]
    refine (strip_eq_self_iff _).mpr (trimmed_of_visible _ ?_)
    rw [List.forall_mem_cons,List.forall_mem_cons]
    exact ⟨by decide,by decide,fun c member => visible_of_digit c (digits c member)⟩
  rw [read?_tagged v.tag _ _ tagged (showNatural_ne_nil v.minor) digits,← digit,
    readSmall_showNatural v.major small.major,readSmall_showNatural v.minor small.minor]
  rfl

end Written

end PythonVersion

namespace Transform

theorem versionOf_small (value : Json) (ctx : Context) : (versionOf value ctx).Small := by
  rw [versionOf]
  cases found : value.display?.bind PythonVersion.read? with
  | none => exact PythonVersion.target_small ctx
  | some v =>
    obtain ⟨text,_,read⟩ := Option.bind_eq_some_iff.mp found
    exact PythonVersion.read?_small text v read

/-- A written number means its version in every run. -/
theorem versionOf_number (v : PythonVersion) (small : v.Small) (ctx : Context) :
    versionOf (.str v.number) ctx = v := by
  have shown : (Json.str v.number).display? = some v.number := rfl
  rw [versionOf,shown,Option.bind_some,PythonVersion.read?_number v small,Option.getD_some]

/-- A version is read back from its number, from its number with a further point and any text
behind it, and from its tag if the major number is one digit. So a value that has been turned into a
number gives every form of its version that the value gives, in whatever run it is asked for. -/
theorem versions_settled :
    (∀ v : PythonVersion, v.Small → PythonVersion.read? v.number = some v ∧
      (∀ behind : String, PythonVersion.read? (v.number ++ "." ++ behind) = some v) ∧
      (v.major ≤ 9 → PythonVersion.read? v.tag = some v)) ∧
    ∀ (value : Json) (ctx later : Context),
      ∀ form ∈ [pythonVersionTag,pythonVersionNumber,pyupgradeFlag],
        form.apply (pythonVersionNumber.apply value ctx) later = form.apply value ctx := by
  constructor
  · intro v small
    exact ⟨v.read?_number small,v.read?_number_point small,v.read?_tag small⟩
  · intro value ctx later form member
    have kept : versionOf (pythonVersionNumber.apply value ctx) later = versionOf value ctx :=
      versionOf_number _ (versionOf_small value ctx) later
    simp only [List.mem_cons,List.not_mem_nil,or_false] at member
    rcases member with rfl | rfl | rfl
    · exact congrArg (fun v => Json.str v.tag) kept
    · exact congrArg (fun v => Json.str v.number) kept
    · exact congrArg (fun v => Json.str v.pyupgradeFlag) kept

def largest : PythonVersion := ⟨4294967295,4294967295⟩

def largestSingle : PythonVersion := ⟨9,4294967295⟩

def plainRun : Context where
  root := ⟨"/repo"⟩
  settings := []
  config := Config.stock
  files := []
  surroundings := ⟨none,⟨"/work"⟩,fun _ => false⟩

theorem largest_settled :
    largest.Small ∧ PythonVersion.read? "4294967295.4294967295" = some largest ∧
      PythonVersion.read? ("4294967295.4294967295" ++ "." ++ " .7 ") = some largest ∧
      largestSingle.Small ∧ largestSingle.major ≤ 9 ∧
      PythonVersion.read? "py94294967295" = some largestSingle ∧
      pyupgradeFlag ∈ [pythonVersionTag,pythonVersionNumber,pyupgradeFlag] ∧
      pyupgradeFlag.apply (pythonVersionNumber.apply (.str " PY38") plainRun) plainRun =
        .str "--py38-plus" := by
  have small : largest.Small := ⟨by decide,by decide⟩
  have smallSingle : largestSingle.Small := ⟨by decide,by decide⟩
  have member : pyupgradeFlag ∈ [pythonVersionTag,pythonVersionNumber,pyupgradeFlag] := by decide
  have number : "4294967295.4294967295" = largest.number := by decide +kernel
  have tag : "py94294967295" = largestSingle.tag := by decide +kernel
  have flag : pyupgradeFlag.apply (.str " PY38") plainRun = .str "--py38-plus" := by
    rfl
  rw [number,tag,versions_settled.2 (.str " PY38") plainRun plainRun pyupgradeFlag member]
  obtain ⟨read,release,_⟩ := versions_settled.1 largest small
  obtain ⟨_,_,tagged⟩ := versions_settled.1 largestSingle smallSingle
  have single : largestSingle.major ≤ 9 := by decide
  exact ⟨small,read,release _,smallSingle,single,tagged single,member,flag⟩

end Transform
end LintTools
