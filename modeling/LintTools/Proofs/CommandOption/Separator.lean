import LintTools.Proofs.Command.Layout
import LintTools.Proofs.Text.Trimmed

/-! Lists that an option joins. A separator counts without the blanks around it, and one of blanks alone
is none, so that each element then stands behind a flag of its own. A list is joined by its
separator as written exactly when that has no blanks around it or there is nothing to join. -/
namespace LintTools

theorem Text.join_singleton (separator text : String) : join separator [text] = text := by
  rw [join,List.map_singleton,List.intercalate_singleton,String.ofList_toList]

/-- What two separators add to the length of the same elements. -/
theorem Text.join_length (separator other text : String) (texts : List String) :
    (join separator (text :: texts)).toList.length + other.toList.length * texts.length =
      (join other (text :: texts)).toList.length + separator.toList.length * texts.length := by
  rw [join,join,String.toList_ofList,String.toList_ofList]
  induction texts generalizing text with
  | nil => simp
  | cons next texts ih =>
    have rest := ih next
    simp only [List.map_cons,List.intercalate_cons_cons,List.length_append,List.length_cons,
      Nat.mul_succ] at rest ⊢
    omega

namespace CommandOption

theorem flagged_injective (flag : Option String) (value other : String)
    (same : flagged flag value = flagged flag other) : value = other := by
  unfold flagged at same
  split at same
  · simpa using same
  · split at same
    · simpa [String.ext_iff] using same
    · simpa using same

theorem flagged_length (flag : Option String) :
    ∃ count, 0 < count ∧ ∀ value, (flagged flag value).length = count := by
  cases flag with
  | none => exact ⟨1,by decide,fun value => rfl⟩
  | some flag =>
    unfold flagged
    dsimp only
    split
    · exact ⟨1,by decide,fun value => rfl⟩
    · exact ⟨2,by decide,fun value => rfl⟩

theorem flatMap_flagged_length (flag : Option String) (values : List String) (value : String)
    (same : values.flatMap (flagged flag) = flagged flag value) : values.length = 1 := by
  obtain ⟨count,positive,each⟩ := flagged_length flag
  have long := congrArg List.length same
  rw [List.length_flatMap,each,funext each,List.map_const',List.sum_replicate_nat] at long
  exact Nat.eq_of_mul_eq_mul_right positive (long.trans (Nat.one_mul count).symm)

theorem read_joinWith (entry : Entries) (context : String) (option : CommandOption)
    (compiled : read (.obj entry) context = .ok option) :
    optionalTrimmed entry "joinWith" context = .ok option.joinWith := by
  simp only [read,requireObject,Reading.ok_bind,Reading.bind_success] at compiled
  obtain ⟨_,_,_,_,_,_,joinWith,joined,_,_,_,_,_,_,_,_,compiled⟩ := compiled
  split at compiled
  · cases compiled
  · obtain rfl := Except.ok.inj compiled
    exact joined

structure Separated (entry : Entries) (context separator : String) (option : CommandOption) :
    Prop where
  compiled : read (.obj entry) context = .ok option
  given : entry.get? "joinWith" = some (.str separator)
  filled : separator ≠ ""
  kind : option.kind = .args
  plain : option.transform = none

section Lists
variable {entry : Entries} {context separator : String} {option : CommandOption}
  (separated : Separated entry context separator option)
include separated

theorem Separated.joinWith_eq :
    option.joinWith = (some (Text.trim separator)).filter (!·.isEmpty) := by
  have read := read_joinWith entry context option separated.compiled
  rw [optionalTrimmed,optionalText,separated.given] at read
  exact (Except.ok.inj read).symm

theorem Separated.listArguments_eq (value : Json) (filled : value.toTexts ≠ []) :
    option.listArguments value =
      if Text.trim separator = "" then value.toTexts.flatMap (flagged option.flag)
      else flagged option.flag (Text.join (Text.trim separator) value.toTexts) := by
  have some : value.toTexts.isEmpty = false := by simpa using filled
  rw [listArguments,some,separated.joinWith_eq]
  by_cases blank : Text.trim separator = ""
  · simp [blank,Option.filter]
  · simp [blank,Option.filter]

theorem Separated.alone_eq (ctx : Context) (resolver : Resolver)
    (reached : Resolver.Reached ctx.surroundings resolver) (value : Json)
    (resolved : option.value? ctx = some value) :
    option.alone ctx resolver = option.listArguments value := by
  rw [CommandOption.alone_eq ctx resolver reached.honest,arguments,resolved,separated.plain]
  dsimp only
  rw [render,separated.kind]
  rfl

/-- Joined by its separator as written, a list is one argument behind the flag. Otherwise, if it has
several elements, the blanks around the separator are lost, or there is no separator at all. -/
theorem joined_iff_trimmed (ctx : Context) (resolver : Resolver)
    (reached : Resolver.Reached ctx.surroundings resolver) (value : Json)
    (resolved : option.value? ctx = some value) (filled : value.toTexts ≠ []) :
    (option.alone ctx resolver =
      if Text.trim separator = "" then value.toTexts.flatMap (flagged option.flag)
      else flagged option.flag (Text.join (Text.trim separator) value.toTexts)) ∧
    (option.alone ctx resolver = flagged option.flag (Text.join separator value.toTexts) ↔
      Text.trim separator = separator ∨ value.toTexts.length = 1) := by
  have added := (separated.alone_eq ctx resolver reached value resolved).trans
    (separated.listArguments_eq value filled)
  refine ⟨added,?_⟩
  rw [added]
  generalize value.toTexts = texts at filled
  obtain ⟨first,others,rfl⟩ := List.exists_cons_of_ne_nil filled
  constructor
  · intro same
    split at same
    · exact .inr (flatMap_flagged_length _ _ _ same)
    · -- The elements are the same on both sides, so the separators are equally long.
      have both := Text.join_length (Text.trim separator) separator first others
      rw [flagged_injective _ _ _ same] at both
      cases others with
      | nil => exact .inr rfl
      | cons next others =>
        have even := Nat.add_left_cancel both
        exact .inl (Text.trim_eq_of_length separator
          (Nat.eq_of_mul_eq_mul_right (Nat.succ_pos _) even).symm)
  · rintro (trimmed | single)
    · rw [trimmed,if_neg separated.filled]
    · obtain rfl : others = [] := by simpa using single
      split
      · rw [List.flatMap_singleton,Text.join_singleton]
      · rw [Text.join_singleton,Text.join_singleton]

end Lists

def wordsEntry (separator : String) : Entries :=
  [("flag",.str "--words="),("joinWith",.str separator),("setting",.str "words"),
    ("type",.str "args")]

def wordsOption (joinWith : Option String) : CommandOption where
  settings := ["words"]
  kind := .args
  flag := some "--words="
  joinWith := joinWith
  negateFlag := none
  literalValues := []
  stock := none
  defaultFrom := none
  transform := none

def wordsRun : Context where
  root := ⟨"/repo"⟩
  settings := [("words",.arr [.str "a",.null,.str "b"])]
  config := Config.stock
  files := []
  surroundings := ⟨none,⟨"/"⟩,fun _ => false⟩

theorem paddedSeparator_joined :
    Separated (wordsEntry ", ") "options[0]" ", " (wordsOption (some ",")) ∧
      (wordsOption (some ",")).value? wordsRun = some (.arr [.str "a",.null,.str "b"]) ∧
      (Json.arr [.str "a",.null,.str "b"]).toTexts = ["a","b"] ∧
      (wordsOption (some ",")).alone wordsRun (Resolver.fresh 8) = ["--words=a,b"] ∧
      (wordsOption (some ",")).alone wordsRun (Resolver.fresh 8) ≠
        flagged (some "--words=") (Text.join ", " ["a","b"]) := by
  have separated : Separated (wordsEntry ", ") "options[0]" ", " (wordsOption (some ",")) :=
    ⟨rfl,rfl,by decide,rfl,rfl⟩
  have texts : (Json.arr [.str "a",.null,.str "b"]).toTexts = ["a","b"] := rfl
  have joined := joined_iff_trimmed separated wordsRun (Resolver.fresh 8) (.fresh 8)
    (.arr [.str "a",.null,.str "b"]) rfl (by simp [texts])
  rw [texts] at joined
  refine ⟨separated,rfl,texts,joined.1.trans (by decide +kernel),?_⟩
  exact fun same => absurd (joined.2.mp same) (by decide +kernel)

/-- Elements to be joined by a space stand behind a flag each. -/
theorem blankSeparator_lost :
    Separated (wordsEntry " ") "options[0]" " " (wordsOption none) ∧
      (wordsOption none).value? wordsRun = some (.arr [.str "a",.null,.str "b"]) ∧
      (Json.arr [.str "a",.null,.str "b"]).toTexts = ["a","b"] ∧
      (wordsOption none).alone wordsRun (Resolver.fresh 8) = ["--words=a","--words=b"] ∧
      flagged (some "--words=") (Text.join " " ["a","b"]) = ["--words=a b"] :=
  ⟨⟨rfl,rfl,by decide,rfl,rfl⟩,rfl,rfl,by decide +kernel,by decide +kernel⟩

end CommandOption
end LintTools
