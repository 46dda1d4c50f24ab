import LintTools.Json.Reader

/-! What the reader takes from the start of a text, by its ways to do so. A container is told from
anything else by its first character, and by the next one whether it is empty. -/
namespace LintTools.Json

theorem consText_eq_some (c : Option Char) (tail : Option (List Char × List Char))
    (text rest : List Char) (read : consText c tail = some (text,rest)) :
    ∃ first others, c = some first ∧ tail = some (others,rest) ∧ text = first :: others := by
  obtain ⟨first,found,read⟩ := Option.bind_eq_some_iff.mp read
  obtain ⟨⟨others,behind⟩,body,read⟩ := Option.bind_eq_some_iff.mp read
  obtain ⟨rfl,rfl⟩ := Prod.mk.inj (Option.some.inj read)
  exact ⟨first,others,found,body,rfl⟩

/-- A unit that is a character of its own is read alike whether or not another one follows. -/
theorem stringBody?_unit (a b c d first : Char) (rest : List Char)
    (single : (hexUnit? a b c d).bind unitChar? = some first) :
    stringBody? ('\\' :: 'u' :: a :: b :: c :: d :: rest) =
      consText (some first) (stringBody? rest) := by
  obtain ⟨unit,hex,plain⟩ := Option.bind_eq_some_iff.mp single
  have low : isHighSurrogate unit = false := by
    cases high : isHighSurrogate unit with
    | false => rfl
    | true => simp [unitChar?,high] at plain
  by_cases paired : ∃ e f g h behind, rest = '\\' :: 'u' :: e :: f :: g :: h :: behind
  · obtain ⟨e,f,g,h,behind,rfl⟩ := paired
    rw [stringBody?,hex]
    simp only [low,plain,Bool.false_eq_true,if_false]
  · rw [stringBody?,single]
    intro e f g h behind same
    exact paired ⟨e,f,g,h,behind,same⟩

theorem stringBody?_pair (a b c d e f g h : Char) (rest : List Char) (unit : Nat)
    (hex : hexUnit? a b c d = some unit) (high : isHighSurrogate unit = true) :
    stringBody? ('\\' :: 'u' :: a :: b :: c :: d :: '\\' :: 'u' :: e :: f :: g :: h :: rest) =
      consText ((hexUnit? e f g h).bind (pairChar? unit)) (stringBody? rest) := by
  rw [stringBody?,hex]
  simp only [high,if_true]

theorem stringBody?_escape (c first : Char) (rest : List Char)
    (escape : simpleEscape? c = some first) :
    stringBody? ('\\' :: c :: rest) = consText (some first) (stringBody? rest) := by
  have other : c ≠ 'u' := by
    rintro rfl
    simp [simpleEscape?] at escape
  rw [stringBody?,escape]
  · intro a b c d e f g h rest same
    exact absurd same other
  · intro a b c d rest same
    exact absurd same other

theorem stringBody?_plain (c : Char) (rest : List Char) (unquoted : c ≠ '"') (unescaped : c ≠ '\\')
    (visible : ¬c.toNat < 0x20) :
    stringBody? (c :: rest) = consText (some c) (stringBody? rest) := by
  rw [stringBody?,if_neg visible]
  all_goals simp [unquoted,unescaped]

theorem literal?_eq_none (c : Char) (cs : List Char) (unsigned : c ≠ '-')
    (digitless : Text.isDigit c = false) : literal? (c :: cs) = none := by
  have sign : readSign (c :: cs) = (false,c :: cs) := by
    rw [readSign]
    simp [unsigned]
  simp [literal?,sign,takeDigits,digitless,isWholePart]

/-- A number starts with a sign or a digit, unlike every other value. -/
theorem scalar?_number (cs rest : List Char) (literal : Literal)
    (read : literal? cs = some (literal,rest)) :
    scalar? cs = literal.number?.map fun number => (num number,rest) := by
  cases cs with
  | nil => simp [literal?,readSign,takeDigits,isWholePart] at read
  | cons c cs =>
    have other : ∀ d, d ≠ '-' → Text.isDigit d = false → c ≠ d := by
      rintro d unsigned digitless rfl
      rw [literal?_eq_none c cs unsigned digitless] at read
      contradiction
    have quote := other '"' (by decide) (by decide)
    have n := other 'n' (by decide) (by decide)
    have t := other 't' (by decide) (by decide)
    have f := other 'f' (by decide) (by decide)
    rw [scalar?,read]
    · simp only [Option.bind_eq_bind,Option.bind_some]
      cases literal.number? <;> rfl
    all_goals simp [quote,n,t,f]

theorem scalar?_not_object (cs rest : List Char) (value : Json)
    (read : scalar? cs = some (value,rest)) : value.isObject = false := by
  fun_cases scalar? cs with
  | case1 behind =>
    obtain ⟨⟨text,behind⟩,body,same⟩ := Option.map_eq_some_iff.mp read
    obtain ⟨rfl,_⟩ := Prod.mk.inj same
    rfl
  | case2 behind | case3 behind | case4 behind =>
    obtain ⟨rfl,_⟩ := Prod.mk.inj (Option.some.inj read)
    rfl
  | case5 cs unquoted n t f =>
    rw [scalar?.eq_5 cs unquoted n t f] at read
    obtain ⟨⟨literal,behind⟩,found,read⟩ := Option.bind_eq_some_iff.mp read
    obtain ⟨number,converted,read⟩ := Option.bind_eq_some_iff.mp read
    obtain ⟨rfl,_⟩ := Prod.mk.inj (Option.some.inj read)
    rfl

theorem scalar?_eq_none (c : Char) (cs : List Char) (unsigned : c ≠ '-')
    (digitless : Text.isDigit c = false) (wordless : c ∉ ['"','n','t','f']) :
    scalar? (c :: cs) = none := by
  simp only [List.mem_cons,List.not_mem_nil,or_false,not_or] at wordless
  obtain ⟨quote,n,t,f⟩ := wordless
  rw [scalar?,literal?_eq_none c cs unsigned digitless]
  · rfl
  all_goals simp [quote,n,t,f]

inductive ReadsValue (fuel depth : Nat) (cs : List Char) : Json → List Char → Prop
  | emptyObject (inner rest) (opened : skipSpace cs = '{' :: inner) (room : 1 < depth)
      (closed : skipSpace inner = '}' :: rest) : ReadsValue fuel depth cs (obj []) rest
  | object (inner pairs rest) (opened : skipSpace cs = '{' :: inner) (room : 1 < depth)
      (read : members? fuel (depth - 1) inner = some (pairs,rest)) :
      ReadsValue fuel depth cs (obj (Entries.ofPairs pairs)) rest
  | emptyArray (inner rest) (opened : skipSpace cs = '[' :: inner) (room : 1 < depth)
      (closed : skipSpace inner = ']' :: rest) : ReadsValue fuel depth cs (arr []) rest
  | array (inner items rest) (opened : skipSpace cs = '[' :: inner) (room : 1 < depth)
      (read : elements? fuel (depth - 1) inner = some (items,rest)) :
      ReadsValue fuel depth cs (arr items) rest
  | scalar (value rest) (read : scalar? (skipSpace cs) = some (value,rest)) :
      ReadsValue fuel depth cs value rest

inductive ReadsElements (fuel depth : Nat) (cs : List Char) : List Json → List Char → Prop
  | last (item behind rest) (read : value? fuel depth cs = some (item,behind))
      (closed : skipSpace behind = ']' :: rest) : ReadsElements fuel depth cs [item] rest
  | more (item behind after items rest) (read : value? fuel depth cs = some (item,behind))
      (parted : skipSpace behind = ',' :: after)
      (others : elements? fuel depth after = some (items,rest)) :
      ReadsElements fuel depth cs (item :: items) rest

inductive ReadsMembers (fuel depth : Nat) (cs : List Char) :
    List (String × Json) → List Char → Prop
  | last (quoted name unnamed valued item behind rest) (opened : skipSpace cs = '"' :: quoted)
      (named : stringBody? quoted = some (name,unnamed)) (colon : skipSpace unnamed = ':' :: valued)
      (read : value? fuel depth valued = some (item,behind))
      (closed : skipSpace behind = '}' :: rest) :
      ReadsMembers fuel depth cs [(String.ofList name,item)] rest
  | more (quoted name unnamed valued item behind after pairs rest)
      (opened : skipSpace cs = '"' :: quoted)
      (named : stringBody? quoted = some (name,unnamed)) (colon : skipSpace unnamed = ':' :: valued)
      (read : value? fuel depth valued = some (item,behind))
      (parted : skipSpace behind = ',' :: after)
      (others : members? fuel depth after = some (pairs,rest)) :
      ReadsMembers fuel depth cs ((String.ofList name,item) :: pairs) rest

theorem elements?_iff (fuel depth : Nat) (cs rest : List Char) (items : List Json) :
    elements? (fuel + 1) depth cs = some (items,rest) ↔ ReadsElements fuel depth cs items rest := by
  rw [elements?]
  constructor
  · intro read
    obtain ⟨⟨item,behind⟩,first,read⟩ := Option.bind_eq_some_iff.mp read
    simp only at read
    split at read
    next after parted =>
      obtain ⟨⟨others,further⟩,following,read⟩ := Option.bind_eq_some_iff.mp read
      obtain ⟨rfl,rfl⟩ := Prod.mk.inj (Option.some.inj read)
      exact .more item behind after others further first parted following
    next after closed =>
      obtain ⟨rfl,rfl⟩ := Prod.mk.inj (Option.some.inj read)
      exact .last item behind after first closed
    next => contradiction
  · intro read
    cases read with
    | last item behind rest first closed => simp [first,closed]
    | more item behind after others rest first parted following =>
      simp [first,parted,following]

theorem members?_iff (fuel depth : Nat) (cs rest : List Char) (pairs : List (String × Json)) :
    members? (fuel + 1) depth cs = some (pairs,rest) ↔ ReadsMembers fuel depth cs pairs rest := by
  rw [members?]
  constructor
  · intro read
    split at read
    next quoted opened =>
      obtain ⟨⟨name,unnamed⟩,named,read⟩ := Option.bind_eq_some_iff.mp read
      simp only at read
      split at read
      next valued colon =>
        obtain ⟨⟨item,behind⟩,first,read⟩ := Option.bind_eq_some_iff.mp read
        simp only at read
        split at read
        next after parted =>
          obtain ⟨⟨others,further⟩,following,read⟩ := Option.bind_eq_some_iff.mp read
          obtain ⟨rfl,rfl⟩ := Prod.mk.inj (Option.some.inj read)
          exact .more quoted name unnamed valued item behind after others further opened named colon
            first parted following
        next after closed =>
          obtain ⟨rfl,rfl⟩ := Prod.mk.inj (Option.some.inj read)
          exact .last quoted name unnamed valued item behind after opened named colon first closed
        next => contradiction
      next => contradiction
    next => contradiction
  · intro read
    cases read with
    | last quoted name unnamed valued item behind rest opened named colon first closed =>
      simp [opened,named,colon,first,closed]
    | more quoted name unnamed valued item behind after others rest opened named colon first parted
        following =>
      simp [opened,named,colon,first,parted,following]

theorem members?_open (fuel depth : Nat) (cs rest behind : List Char)
    (pairs : List (String × Json)) (read : members? fuel depth cs = some (pairs,rest)) :
    skipSpace cs ≠ '}' :: behind := by
  intro closed
  cases fuel with
  | zero => simp [members?] at read
  | succ fuel => simp [members?,closed] at read

theorem elements?_open (fuel depth : Nat) (cs rest behind : List Char)
    (items : List Json) (read : elements? fuel depth cs = some (items,rest)) :
    skipSpace cs ≠ ']' :: behind := by
  intro closed
  have none : value? (fuel - 1) depth cs = none := by
    cases fuel - 1 with
    | zero => rw [value?]
    | succ less =>
      simp [value?,closed,scalar?_eq_none ']' behind (by decide) (by decide) (by decide)]
  cases fuel with
  | zero => simp [elements?] at read
  | succ fuel =>
    rw [Nat.add_sub_cancel] at none
    simp [elements?,none] at read

theorem value?_iff (fuel depth : Nat) (cs rest : List Char) (value : Json) :
    value? (fuel + 1) depth cs = some (value,rest) ↔ ReadsValue fuel depth cs value rest := by
  constructor
  · intro read
    rw [value?] at read
    split at read
    next inner opened =>
      split at read
      next => contradiction
      next room =>
        have room : 1 < depth := by omega
        split at read
        next after closed =>
          obtain ⟨rfl,rfl⟩ := Prod.mk.inj (Option.some.inj read)
          exact .emptyObject inner after opened room closed
        next =>
          obtain ⟨⟨pairs,after⟩,members,same⟩ := Option.map_eq_some_iff.mp read
          obtain ⟨rfl,rfl⟩ := Prod.mk.inj same
          exact .object inner pairs after opened room members
    next inner opened =>
      split at read
      next => contradiction
      next room =>
        have room : 1 < depth := by omega
        split at read
        next after closed =>
          obtain ⟨rfl,rfl⟩ := Prod.mk.inj (Option.some.inj read)
          exact .emptyArray inner after opened room closed
        next =>
          obtain ⟨⟨items,after⟩,elements,same⟩ := Option.map_eq_some_iff.mp read
          obtain ⟨rfl,rfl⟩ := Prod.mk.inj same
          exact .array inner items after opened room elements
    next => exact .scalar value rest read
  · intro read
    cases read with
    | emptyObject inner rest opened room closed =>
      simp only [value?,opened,if_neg (Nat.not_le.mpr room),closed]
    | object inner pairs rest opened room members =>
      have further := members?_open fuel (depth - 1) inner rest
      simp only [value?,opened,if_neg (Nat.not_le.mpr room)]
      split
      next after closed => exact absurd closed (further after pairs members)
      next => rw [members,Option.map_some]
    | emptyArray inner rest opened room closed =>
      simp only [value?,opened,if_neg (Nat.not_le.mpr room),closed]
    | array inner items rest opened room elements =>
      have further := elements?_open fuel (depth - 1) inner rest
      simp only [value?,opened,if_neg (Nat.not_le.mpr room)]
      split
      next after closed => exact absurd closed (further after items elements)
      next => rw [elements,Option.map_some]
    | scalar value rest read =>
      rw [value?]
      split
      next inner opened =>
        rw [opened,scalar?_eq_none '{' inner (by decide) (by decide) (by decide)] at read
        contradiction
      next inner opened =>
        rw [opened,scalar?_eq_none '[' inner (by decide) (by decide) (by decide)] at read
        contradiction
      next => exact read

end LintTools.Json
