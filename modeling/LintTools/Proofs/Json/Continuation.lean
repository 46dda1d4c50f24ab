import LintTools.Proofs.Json.Reading
import Mathlib.Data.List.TakeWhile

/-! Reading with more text behind. A string or a container ends with a character of its own, so it
is read from a longer text as it was; a number or a word is so too if it was not all of the text.
Hence a text that is an object is no document once anything but white space follows it. -/
namespace LintTools.Json

theorem skipSpace_append (cs more rest : List Char) (c : Char) (found : skipSpace cs = c :: rest) :
    skipSpace (cs ++ more) = c :: (rest ++ more) := by
  rw [skipSpace] at found
  simp [skipSpace,List.dropWhile_append,found]

theorem skipSpace_append_blank (cs more : List Char) (blank : skipSpace cs = []) :
    skipSpace (cs ++ more) = skipSpace more := by
  rw [skipSpace] at blank
  simp [skipSpace,List.dropWhile_append,blank]

/-! Number literals. -/

theorem takeDigits_append (cs more digits rest : List Char) (read : takeDigits cs = (digits,rest))
    (further : rest ≠ []) : takeDigits (cs ++ more) = (digits,rest ++ more) := by
  obtain ⟨rfl,rfl⟩ := Prod.mk.inj read
  have stops : ¬(cs.takeWhile Text.isDigit).length = cs.length := by
    intro all
    apply further
    have whole := List.takeWhile_append_dropWhile (p := Text.isDigit) (l := cs)
    have sizes := congrArg List.length whole
    rw [List.length_append] at sizes
    exact List.eq_nil_of_length_eq_zero (by omega)
  simp [takeDigits,List.dropWhile_append,List.takeWhile_append,further,stops]

theorem takeDigits_ne_nil (cs digits rest : List Char) (read : takeDigits cs = (digits,rest))
    (further : rest ≠ []) : cs ≠ [] := by
  rintro rfl
  exact further (Prod.mk.inj read).2.symm

/-- A text that starts with another character than `c` still does so with more behind it. -/
theorem first_append (cs more : List Char) (c : Char) (filled : cs ≠ [])
    (other : ∀ rest, cs = c :: rest → False) (rest : List Char) (first : cs ++ more = c :: rest) :
    False := by
  cases cs with
  | nil => exact filled rfl
  | cons d cs =>
    obtain ⟨rfl,_⟩ := List.cons.inj first
    exact other cs rfl

theorem readSign_append (cs more : List Char) (filled : cs ≠ []) :
    readSign (cs ++ more) = ((readSign cs).1,(readSign cs).2 ++ more) := by
  fun_cases readSign cs with
  | case1 rest => rfl
  | case2 cs unsigned =>
    rw [readSign]
    exact first_append cs more '-' filled unsigned

theorem readExponentSign_append (cs more : List Char) (filled : cs ≠ []) :
    readExponentSign (cs ++ more) = ((readExponentSign cs).1,(readExponentSign cs).2 ++ more) := by
  fun_cases readExponentSign cs with
  | case1 rest => rfl
  | case2 cs unsigned =>
    rw [readExponentSign,readSign_append cs more filled]
    exact first_append cs more '+' filled unsigned

theorem fraction?_append (cs more rest : List Char) (fraction : Option (List Char))
    (read : fraction? cs = some (fraction,rest)) (further : rest ≠ []) :
    fraction? (cs ++ more) = some (fraction,rest ++ more) := by
  fun_cases fraction? cs with
  | case1 cs digits behind taken empty => simp [fraction?,taken,empty] at read
  | case2 cs digits behind taken filled =>
    simp [fraction?,taken,filled] at read
    obtain ⟨rfl,rfl⟩ := read
    simp [fraction?,takeDigits_append cs more digits behind taken further,filled]
  | case3 cs pointless =>
    rw [fraction?.eq_2 cs pointless] at read
    obtain ⟨rfl,rfl⟩ := Prod.mk.inj (Option.some.inj read)
    exact fraction?.eq_2 (cs ++ more) (first_append cs more '.' further pointless)

theorem exponent?_append (cs more rest : List Char) (exponent : Option (Bool × List Char))
    (read : exponent? cs = some (exponent,rest)) (further : rest ≠ []) :
    exponent? (cs ++ more) = some (exponent,rest ++ more) := by
  fun_cases exponent? cs with
  | case1 =>
    obtain ⟨_,rfl⟩ := Prod.mk.inj (Option.some.inj read)
    exact absurd rfl further
  | case2 e cs letter minus signed sign digits behind taken empty =>
    simp [exponent?,letter,sign,taken,empty] at read
  | case3 e cs letter minus signed sign digits behind taken filled =>
    simp [exponent?,letter,sign,taken,filled] at read
    obtain ⟨rfl,rfl⟩ := read
    have signedFilled : signed ≠ [] := takeDigits_ne_nil signed digits behind taken further
    have filledToo : cs ≠ [] := by
      rintro rfl
      exact signedFilled (Prod.mk.inj sign).2.symm
    have longerSign := readExponentSign_append cs more filledToo
    rw [sign] at longerSign
    have longer := takeDigits_append signed more digits behind taken further
    simp [exponent?,letter,longerSign,longer,filled]
  | case4 e cs letterless =>
    simp [exponent?,letterless] at read
    obtain ⟨rfl,rfl⟩ := read
    simp [exponent?,letterless]

theorem literal?_append (cs more rest : List Char) (literal : Literal)
    (read : literal? cs = some (literal,rest)) (further : rest ≠ []) :
    literal? (cs ++ more) = some (literal,rest ++ more) := by
  cases sign : readSign cs with
  | mk negative signed =>
    cases taken : takeDigits signed with
    | mk whole behind =>
      simp only [literal?,sign,taken] at read
      split at read
      next proper =>
        obtain ⟨⟨fraction,behindFraction⟩,readFraction,read⟩ := Option.bind_eq_some_iff.mp read
        obtain ⟨⟨exponent,behindExponent⟩,readExponent,read⟩ := Option.bind_eq_some_iff.mp read
        obtain ⟨rfl,rfl⟩ := Prod.mk.inj (Option.some.inj read)
        have fractionFilled : behindFraction ≠ [] := by
          rintro rfl
          exact further (Prod.mk.inj (Option.some.inj readExponent)).2.symm
        have wholeFilled : behind ≠ [] := by
          rintro rfl
          exact fractionFilled (Prod.mk.inj (Option.some.inj readFraction)).2.symm
        have signFilled : signed ≠ [] := takeDigits_ne_nil signed whole behind taken wholeFilled
        have filled : cs ≠ [] := by
          rintro rfl
          exact signFilled (Prod.mk.inj sign).2.symm
        have longerSign := readSign_append cs more filled
        rw [sign] at longerSign
        have longer := takeDigits_append signed more whole behind taken wholeFilled
        simp [literal?,longerSign,longer,proper,
          fraction?_append behind more behindFraction fraction readFraction fractionFilled,
          exponent?_append behindFraction more _ exponent readExponent further]
      next => contradiction

/-! Strings and values. -/

theorem stringBody?_append (cs more text rest : List Char)
    (read : stringBody? cs = some (text,rest)) :
    stringBody? (cs ++ more) = some (text,rest ++ more) := by
  fun_induction stringBody? cs generalizing text rest with
  | case1 => contradiction
  | case2 behind =>
    obtain ⟨rfl,rfl⟩ := Prod.mk.inj (Option.some.inj read)
    rfl
  | case3 => contradiction
  | case4 a b c d e f g h behind unit hex high ih =>
    obtain ⟨first,others,found,body,rfl⟩ := consText_eq_some _ _ text rest read
    simp only [List.cons_append]
    rw [stringBody?_pair a b c d e f g h (behind ++ more) unit hex high,found,ih others rest body]
    rfl
  | case5 a b c d e f g h behind unit hex low ih =>
    obtain ⟨first,others,found,body,rfl⟩ := consText_eq_some _ _ text rest read
    have single : (hexUnit? a b c d).bind unitChar? = some first := by
      rw [hex,Option.bind_some,found]
    have longer := ih others rest body
    simp only [List.cons_append] at longer ⊢
    rw [stringBody?_unit a b c d first _ single,longer]
    rfl
  | case6 a b c d behind single ih =>
    obtain ⟨first,others,found,body,rfl⟩ := consText_eq_some _ _ text rest read
    simp only [List.cons_append]
    rw [stringBody?_unit a b c d first _ found,ih others rest body]
    rfl
  | case7 c behind paired single ih =>
    obtain ⟨first,others,found,body,rfl⟩ := consText_eq_some _ _ text rest read
    simp only [List.cons_append]
    rw [stringBody?_escape c first _ found,ih others rest body]
    rfl
  | case8 => contradiction
  | case9 c behind unquoted paired single escape visible ih =>
    obtain ⟨first,others,found,body,rfl⟩ := consText_eq_some _ _ text rest read
    have unescaped : c ≠ '\\' := by
      rintro rfl
      cases behind with
      | nil => simp [stringBody?] at body
      | cons d behind => exact escape d behind rfl rfl
    obtain rfl := Option.some.inj found
    simp only [List.cons_append]
    rw [stringBody?_plain c _ unquoted unescaped visible,ih others rest body]
    rfl

theorem scalar?_append (cs more rest : List Char) (value : Json)
    (read : scalar? cs = some (value,rest)) (further : rest ≠ []) :
    scalar? (cs ++ more) = some (value,rest ++ more) := by
  fun_cases scalar? cs with
  | case1 behind =>
    obtain ⟨⟨text,behind⟩,body,same⟩ := Option.map_eq_some_iff.mp read
    obtain ⟨rfl,rfl⟩ := Prod.mk.inj same
    simp only [List.cons_append,scalar?]
    rw [stringBody?_append _ more text behind body]
    rfl
  | case2 behind | case3 behind | case4 behind =>
    obtain ⟨rfl,rfl⟩ := Prod.mk.inj (Option.some.inj read)
    rfl
  | case5 cs unquoted n t f =>
    rw [scalar?.eq_5 cs unquoted n t f] at read
    obtain ⟨⟨literal,behind⟩,found,read⟩ := Option.bind_eq_some_iff.mp read
    obtain ⟨number,converted,read⟩ := Option.bind_eq_some_iff.mp read
    obtain ⟨rfl,rfl⟩ := Prod.mk.inj (Option.some.inj read)
    rw [scalar?_number _ _ literal (literal?_append cs more behind literal found further),converted]
    rfl

def Continues {α : Type} (reader : Nat → List Char → Option (α × List Char)) (fuel : Nat)
    (cs : List Char) (item : α) (rest : List Char) : Prop :=
  ∀ extra more, reader (fuel + extra) (cs ++ more) = some (item,rest ++ more)

def ValuesContinue (fuel : Nat) : Prop :=
  ∀ depth cs value rest, value? fuel depth cs = some (value,rest) →
    rest ≠ [] ∨ value.isObject = true → Continues (value? · depth) fuel cs value rest

def ElementsContinue (fuel : Nat) : Prop :=
  ∀ depth cs items rest, elements? fuel depth cs = some (items,rest) →
    Continues (elements? · depth) fuel cs items rest

def MembersContinue (fuel : Nat) : Prop :=
  ∀ depth cs pairs rest, members? fuel depth cs = some (pairs,rest) →
    Continues (members? · depth) fuel cs pairs rest

theorem skipSpace_further (cs rest : List Char) (c : Char) (found : skipSpace cs = c :: rest) :
    cs ≠ [] := by
  rintro rfl
  contradiction

theorem values_step (fuel : Nat) (elements : ElementsContinue fuel)
    (members : MembersContinue fuel) : ValuesContinue (fuel + 1) := by
  intro depth cs value rest read further extra more
  rw [Nat.add_right_comm]
  refine (value?_iff (fuel + extra) depth (cs ++ more) (rest ++ more) value).mpr ?_
  cases (value?_iff fuel depth cs rest value).mp read with
  | emptyObject inner rest opened room closed =>
    exact .emptyObject _ _ (skipSpace_append cs more inner '{' opened) room
      (skipSpace_append inner more rest '}' closed)
  | object inner pairs rest opened room inside =>
    exact .object _ pairs _ (skipSpace_append cs more inner '{' opened) room
      (members _ inner pairs rest inside extra more)
  | emptyArray inner rest opened room closed =>
    exact .emptyArray _ _ (skipSpace_append cs more inner '[' opened) room
      (skipSpace_append inner more rest ']' closed)
  | array inner items rest opened room inside =>
    exact .array _ items _ (skipSpace_append cs more inner '[' opened) room
      (elements _ inner items rest inside extra more)
  | scalar value rest inside =>
    -- A scalar is no object, so text is left behind it: digits could join a number otherwise.
    rw [scalar?_not_object _ rest value inside,or_iff_left Bool.false_ne_true] at further
    cases found : skipSpace cs with
    | nil =>
      rw [found] at inside
      contradiction
    | cons c tail =>
      rw [found] at inside
      refine .scalar value _ ?_
      rw [skipSpace_append cs more tail c found]
      exact scalar?_append (c :: tail) more rest value inside further

theorem elements_step (fuel : Nat) (values : ValuesContinue fuel)
    (elements : ElementsContinue fuel) : ElementsContinue (fuel + 1) := by
  intro depth cs items rest read extra more
  rw [Nat.add_right_comm]
  refine (elements?_iff (fuel + extra) depth (cs ++ more) (rest ++ more) items).mpr ?_
  cases (elements?_iff fuel depth cs rest items).mp read with
  | last item behind rest first closed =>
    have further := skipSpace_further behind rest ']' closed
    exact .last item _ _ (values depth cs item behind first (.inl further) extra more)
      (skipSpace_append behind more rest ']' closed)
  | more item behind after others rest first parted following =>
    have further := skipSpace_further behind after ',' parted
    exact .more item _ _ others _ (values depth cs item behind first (.inl further) extra more)
      (skipSpace_append behind more after ',' parted)
      (elements depth after others rest following extra more)

theorem members_step (fuel : Nat) (values : ValuesContinue fuel)
    (members : MembersContinue fuel) : MembersContinue (fuel + 1) := by
  intro depth cs pairs rest read extra more
  rw [Nat.add_right_comm]
  refine (members?_iff (fuel + extra) depth (cs ++ more) (rest ++ more) pairs).mpr ?_
  cases (members?_iff fuel depth cs rest pairs).mp read with
  | last quoted name unnamed valued item behind rest opened named colon first closed =>
    have further := skipSpace_further behind rest '}' closed
    exact .last _ name _ _ item _ _ (skipSpace_append cs more quoted '"' opened)
      (stringBody?_append quoted more name unnamed named)
      (skipSpace_append unnamed more valued ':' colon)
      (values depth valued item behind first (.inl further) extra more)
      (skipSpace_append behind more rest '}' closed)
  | more quoted name unnamed valued item behind after others rest opened named colon first parted
      following =>
    have further := skipSpace_further behind after ',' parted
    exact .more _ name _ _ item _ _ others _ (skipSpace_append cs more quoted '"' opened)
      (stringBody?_append quoted more name unnamed named)
      (skipSpace_append unnamed more valued ':' colon)
      (values depth valued item behind first (.inl further) extra more)
      (skipSpace_append behind more after ',' parted)
      (members depth after others rest following extra more)

theorem all_continue (fuel : Nat) :
    ValuesContinue fuel ∧ ElementsContinue fuel ∧ MembersContinue fuel := by
  induction fuel with
  | zero =>
    refine ⟨?_,?_,?_⟩
    · intro depth cs value rest read
      simp [value?] at read
    · intro depth cs items rest read
      simp [elements?] at read
    · intro depth cs pairs rest read
      simp [members?] at read
  | succ fuel ih =>
    -- Every read spends fuel before it reads a part, so the three go through together.
    obtain ⟨values,elements,members⟩ := ih
    exact ⟨values_step fuel elements members,elements_step fuel values elements,
      members_step fuel values members⟩

/-- Nothing but white space may stand behind an object. -/
theorem read?_object_append (cs more : List Char) (entries : Entries)
    (read : read? cs = some (obj entries)) (further : skipSpace more ≠ []) :
    read? (cs ++ more) = none := by
  rw [read?] at read
  split at read
  next value rest first =>
    split at read
    next ended =>
      obtain rfl := Option.some.inj read
      have blank : skipSpace rest = [] := List.isEmpty_iff.mp ended
      have longer := (all_continue _).1 nestingLimit cs (obj entries) rest first (.inr rfl)
        (2 * more.length) more
      have fuel : 2 * cs.length + 2 + 2 * more.length = 2 * (cs ++ more).length + 2 := by
        rw [List.length_append]
        omega
      simp only [fuel] at longer
      rw [read?,longer]
      simp [skipSpace_append_blank rest more blank,further]
    next => contradiction
  next => contradiction

end LintTools.Json
