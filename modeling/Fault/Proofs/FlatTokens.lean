import Fault.Log.Flat
import Fault.Proofs.QuotedReading

/-!
# Tokens of flat log text

No value can split a line of flat log text or add to it. To split the line at the spaces outside
quotes gives one token for every leaf, in order: the path of its keys, an equals sign and the leaf.
A text is read back from its token, as it stands there or out of its quotes.
-/

namespace Fault

/-! ## Splitting at spaces outside quotes -/

namespace Text

/-- Where a reader of a line stands: outside quotes, inside, or inside behind a backslash. -/
inductive QuoteState where
  | outside
  | inside
  | escaped
  deriving DecidableEq

/-- Where a reader stands behind a character. A backslash counts inside quotes only. -/
def QuoteState.next : QuoteState → Char → QuoteState
  | .outside, character => if character = '"' then .inside else .outside
  | .inside, character =>
      if character = '"' then .outside else if character = '\\' then .escaped else .inside
  | .escaped, _ => .inside

/-- The pieces of a text between the spaces that stand outside quotes. -/
def splitFrom : QuoteState → List Char → List (List Char)
  | _, [] => [[]]
  | state, character :: rest =>
      if state = .outside ∧ character = ' ' then
        [] :: splitFrom .outside rest
      else
        (splitFrom (state.next character) rest).modifyHead (character :: ·)

/-- The pieces of a line; an empty line has none. -/
def pieces (line : List Char) : List (List Char) :=
  if line.isEmpty then [] else splitFrom .outside line

/-- Where a reader stands behind a text, unless a space outside quotes splits the text. -/
def scan : QuoteState → List Char → Option QuoteState
  | state, [] => some state
  | state, character :: rest =>
      if state = .outside ∧ character = ' ' then none else scan (state.next character) rest

/-- Whether a text is one piece that leaves no quote open. -/
def IsWhole (text : List Char) : Prop :=
  scan .outside text = some .outside

/-- Text is scanned piece by piece, each from the state that the one before left. -/
theorem scan_append
    (state : QuoteState)
    (first second : List Char) :
    scan state (first ++ second) = (scan state first).bind fun reached => scan reached second := by
  induction first generalizing state with
  | nil =>
      rfl
  | cons character rest inductionHypothesis =>
      by_cases splits : state = .outside ∧ character = ' '
      · simp [scan, splits]
      · simp [scan, splits, inductionHypothesis]

/-- Text in which no separator stands outside of quotes is one piece. -/
theorem splitFrom_of_scan
    {state reached : QuoteState}
    {text : List Char}
    (scanned : scan state text = some reached) :
    splitFrom state text = [text] := by
  induction text generalizing state with
  | nil =>
      rfl
  | cons character rest inductionHypothesis =>
      by_cases splits : state = .outside ∧ character = ' '
      · simp [scan, splits] at scanned
      · simp only [scan, splits, if_false] at scanned
        simp [splitFrom, splits, inductionHypothesis scanned]

/-- A space behind a whole text ends its piece. -/
theorem splitFrom_append_space
    {state : QuoteState}
    {text : List Char}
    (scanned : scan state text = some .outside)
    (rest : List Char) :
    splitFrom state (text ++ ' ' :: rest) = text :: splitFrom .outside rest := by
  induction text generalizing state with
  | nil =>
      obtain rfl : state = .outside := Option.some.inj scanned
      simp [splitFrom]
  | cons character others inductionHypothesis =>
      by_cases splits : state = .outside ∧ character = ' '
      · simp [scan, splits] at scanned
      · simp only [scan, splits, if_false] at scanned
        simp [splitFrom, splits, inductionHypothesis scanned]

namespace IsWhole

/-- Whole texts in a row are whole. -/
theorem append
    {first second : List Char}
    (firstWhole : IsWhole first)
    (secondWhole : IsWhole second) :
    IsWhole (first ++ second) := by
  simp only [IsWhole] at firstWhole secondWhole ⊢
  simp [scan_append, firstWhole, secondWhole]

/-- Without quotes and spaces a text is whole. -/
theorem of_not_mem
    {text : List Char}
    (noQuote : '"' ∉ text)
    (noSpace : ' ' ∉ text) :
    IsWhole text := by
  induction text with
  | nil =>
      rfl
  | cons character rest inductionHypothesis =>
      simp only [List.mem_cons, not_or] at noQuote noSpace
      have whole := inductionHypothesis noQuote.2 noSpace.2
      simpa [IsWhole, scan, QuoteState.next, Ne.symm noQuote.1, Ne.symm noSpace.1] using whole

end IsWhole

/-- The digits of a code point and the brace behind them leave the reader inside quotes. -/
theorem scan_inside_digits
    {digits : List Char}
    (areDigits : ∀ digit ∈ digits, ∃ value, Json.hexValue? digit = some value) :
    scan .inside (digits ++ ['\x7d']) = some .inside := by
  induction digits with
  | nil =>
      rfl
  | cons digit rest inductionHypothesis =>
      obtain ⟨⟨value, isDigit⟩, others⟩ := List.forall_mem_cons.mp areDigits
      have notQuote : digit ≠ '"' := by
        intro same
        simp [same, Json.hexValue?] at isDigit
      have notBackslash : digit ≠ '\\' := by
        intro same
        simp [same, Json.hexValue?] at isDigit
      simp [scan, QuoteState.next, notQuote, notBackslash, inductionHypothesis others]

/-- A quoted character leaves the reader inside quotes. -/
theorem scan_inside_escape (character : Char) :
    scan .inside (escape '"' character) = some .inside := by
  rcases escape_cases character with
    ⟨letter, _, _, isLetter⟩ | isPoint | ⟨notQuote, notBackslash, isSelf⟩
  · simp [isLetter, scan, QuoteState.next]
  · have ends : scan .inside (hexDigits character.toNat ++ ['\x7d']) = some .inside :=
      scan_inside_digits fun _ => exists_hexValue?_of_mem_hexDigits
    simpa [isPoint, escapeCodePoint, scan, QuoteState.next] using ends
  · simp [isSelf, scan, QuoteState.next, notQuote, notBackslash]

/-- A quoted text is whole, whatever stands in it. -/
theorem IsWhole.quoted (text : List Char) : IsWhole (quoted text) := by
  have body : scan .inside (text.flatMap (escape '"') ++ ['"']) = some .outside := by
    induction text with
    | nil =>
        rfl
    | cons character rest inductionHypothesis =>
        simp only [List.flatMap_cons, List.append_assoc]
        exact (scan_append _ _ _).trans (by simp [scan_inside_escape, inductionHypothesis])
  simpa [IsWhole, Text.quoted, scan, QuoteState.next] using body

/-! ## Numbers -/

/-- Whether all characters of a text can stand in the text of a number. -/
def IsNumeric (text : List Char) : Prop :=
  ∀ character ∈ text, (character.isDigit || "+-.einfaN".toList.contains character) = true

/-- A numeric text has neither quotes nor separators, so it is whole. -/
theorem IsNumeric.isWhole
    {text : List Char}
    (numeric : IsNumeric text) :
    IsWhole text :=
  .of_not_mem (fun member => absurd (numeric _ member) (by decide))
    fun member => absurd (numeric _ member) (by decide)

theorem isNumeric_append_iff
    {first second : List Char} :
    IsNumeric (first ++ second) ↔ IsNumeric first ∧ IsNumeric second :=
  List.forall_mem_append

/-- A natural number is written in numeric characters. -/
theorem isNumeric_natural (number : Nat) : IsNumeric (natural number) := by
  intro character member
  have isDigit := Nat.isDigit_of_mem_toDigits (by decide) (by decide) member
  simp [isDigit]

/-- An integer is written in numeric characters. -/
theorem isNumeric_integer (number : Int) : IsNumeric (integer number) := by
  simp only [integer]
  split
  · exact List.forall_mem_cons.mpr ⟨by decide, isNumeric_natural _⟩
  · exact isNumeric_natural _

end Text

namespace Number.Numeral

open Fault.Text (IsNumeric isNumeric_append_iff isNumeric_natural isNumeric_integer)

/-- A positional numeral keeps to numeric characters when its digits do. -/
theorem isNumeric_positional
    (numeral : Numeral)
    {digits : List Char}
    (numeric : IsNumeric digits)
    (place : Int) :
    IsNumeric (numeral.positional digits place) := by
  have zeros : ∀ count, IsNumeric (List.replicate count '0') := by
    intro count character member
    simp [List.eq_of_mem_replicate member]
  simp only [positional]
  split
  · exact isNumeric_append_iff.mpr
      ⟨isNumeric_append_iff.mpr ⟨by simp [IsNumeric], zeros _⟩, numeric⟩
  · split
    · have ending : IsNumeric (if numeral.keepsPoint then ['.', '0'] else []) := by
        split <;> simp [IsNumeric]
      exact isNumeric_append_iff.mpr ⟨isNumeric_append_iff.mpr ⟨numeric, zeros _⟩, ending⟩
    · refine isNumeric_append_iff.mpr ⟨fun _ member => numeric _ (List.mem_of_mem_take member), ?_⟩
      exact List.forall_mem_cons.mpr
        ⟨by decide, fun _ member => numeric _ (List.mem_of_mem_drop member)⟩

/-- An exponential numeral keeps to numeric characters when its digits do. -/
theorem isNumeric_exponential
    (numeral : Numeral)
    {digits : List Char}
    (numeric : IsNumeric digits)
    (place : Int) :
    IsNumeric (numeral.exponential digits place) := by
  have fraction :
      IsNumeric (if digits.length ≤ 1 then [] else '.' :: digits.drop 1) := by
    split
    · simp [IsNumeric]
    · exact List.forall_mem_cons.mpr
        ⟨by decide, fun _ member => numeric _ (List.mem_of_mem_drop member)⟩
  have plus : IsNumeric (if numeral.marksPlus && 0 ≤ place - 1 then ['+'] else []) := by
    split <;> simp [IsNumeric]
  have first : IsNumeric (digits.take 1) :=
    fun _ member => numeric _ (List.mem_of_mem_take member)
  have marked : IsNumeric ('e' :: if numeral.marksPlus && 0 ≤ place - 1 then ['+'] else []) :=
    List.forall_mem_cons.mpr ⟨by decide, plus⟩
  exact isNumeric_append_iff.mpr
    ⟨isNumeric_append_iff.mpr ⟨isNumeric_append_iff.mpr ⟨first, fraction⟩, marked⟩,
      isNumeric_integer _⟩

/-- A finite floating number is written in numeric characters. -/
theorem isNumeric_writeFinite
    (numeral : Numeral)
    (precision : Precision)
    (value : Finite) :
    IsNumeric (numeral.writeFinite precision value) := by
  have sign : IsNumeric (if value.negative then ['-'] else []) := by
    split <;> simp [IsNumeric]
  simp only [writeFinite]
  split
  · refine isNumeric_append_iff.mpr ⟨sign, List.forall_mem_cons.mpr ⟨by decide, ?_⟩⟩
    split <;> simp
  · refine isNumeric_append_iff.mpr ⟨sign, ?_⟩
    split
    · exact isNumeric_positional numeral (isNumeric_natural _) _
    · exact isNumeric_exponential numeral (isNumeric_natural _) _

/-- A floating number is written in numeric characters, also when it is not finite. -/
theorem isNumeric_write
    (numeral : Numeral)
    (precision : Precision)
    (value : Floating) :
    IsNumeric (numeral.write precision value) := by
  cases value with
  | nan =>
      simp [write, IsNumeric]
  | infinite negative =>
      cases negative <;> simp [write, IsNumeric]
  | finite value =>
      exact isNumeric_writeFinite numeral precision value

end Number.Numeral

namespace LogValue

open Fault.Text (IsWhole IsNumeric isBlank isControl pieces splitFrom unquote?)

/-! ## Leaves -/

/-- Whether a value has no parts. -/
def isScalar : LogValue → Bool
  | .list _ => false
  | .group _ => false
  | _ => true

/-- Whether a value is no group and holds none in a list. -/
inductive HoldsNoGroup : LogValue → Prop where
  | scalar
      {value : LogValue} :
      value.isScalar = true →
      HoldsNoGroup value
  | list
      {items : List LogValue} :
      (∀ item ∈ items, HoldsNoGroup item) →
      HoldsNoGroup (.list items)

/-- Whether a key is not empty and holds nothing that ends a key. -/
structure IsKey (key : String) : Prop where
  nonempty : key ≠ ""
  plain :
    ∀ character ∈ key.toList,
      isBlank character = false ∧
        isControl character = false ∧
        character ≠ '"' ∧
        character ≠ '='

/-- Whether the keys of all groups can stand in a path, and no list holds a group. -/
inductive IsFlat : LogValue → Prop where
  | leaf
      {value : LogValue} :
      HoldsNoGroup value →
      IsFlat value
  | group
      {attributes : List (String × LogValue)} :
      (∀ pair ∈ attributes, IsKey pair.1) →
      (∀ pair ∈ attributes, IsFlat pair.2) →
      IsFlat (.group attributes)

mutual

/-- The leaves of a value with the keys that lead to them, in order. -/
def leavesBelow (keys : List String) : LogValue → List (List String × LogValue)
  | .group attributes => leavesOfAll keys attributes
  | leaf => [(keys, leaf)]

/-- The leaves of attributes below keys. -/
def leavesOfAll (keys : List String) : List (String × LogValue) → List (List String × LogValue)
  | [] => []
  | (key, value) :: attributes =>
      leavesBelow (keys ++ [key]) value ++ leavesOfAll keys attributes

end

/-- The leaves of a value with the keys that lead to them, in order. -/
def pathLeaves (value : LogValue) : List (List String × LogValue) :=
  value.leavesBelow []

/-- The path of keys, with points between them. -/
def dotted (keys : List String) : List Char :=
  joinWith '.' (keys.map String.toList)

/-- What stands in a line for a leaf: the path of its keys, an equals sign, and the leaf. -/
def tokenOf (entry : List String × LogValue) : List Char :=
  dotted entry.1 ++ '=' :: entry.2.leaf

/-- The text of a token: what stands behind the equals sign, out of its quotes when it is in
quotes. -/
def readText? (token : List Char) : Option (List Char) :=
  let shown := (token.dropWhile (· != '=')).drop 1
  if shown.head? = some '"' then unquote? shown else some shown

/-! ## Leaves are whole -/

theorem leaves_eq_map (items : List LogValue) :
    leaves items = items.map leaf := by
  induction items with
  | nil =>
      simp [leaves]
  | cons item rest inductionHypothesis =>
      simp [leaves, inductionHypothesis]

/-- A bare text holds neither quotes nor spaces. -/
theorem not_mem_of_isBare
    {text : List Char}
    (bare : isBare text = true) :
    '"' ∉ text ∧ ' ' ∉ text := by
  simp only [isBare, Bool.and_eq_true, Bool.not_eq_true', List.any_eq_false] at bare
  exact ⟨fun member => bare.2 _ member (by decide), fun member => bare.2 _ member (by decide)⟩

/-- The text of a leaf is whole: it is bare, or it is quoted. -/
theorem isWhole_leafText (text : List Char) : IsWhole (leafText text) := by
  simp only [leafText]
  split
  · next bare =>
      exact .of_not_mem (not_mem_of_isBare bare).1 (not_mem_of_isBare bare).2
  · exact .quoted text

/-- Whole texts that are joined by a plain separator are whole. -/
theorem isWhole_joinWith
    {separator : Char}
    {texts : List (List Char)}
    (plain : IsWhole [separator])
    (whole : ∀ text ∈ texts, IsWhole text) :
    IsWhole (joinWith separator texts) := by
  induction texts with
  | nil =>
      rfl
  | cons first rest inductionHypothesis =>
      obtain ⟨firstWhole, restWhole⟩ := List.forall_mem_cons.mp whole
      cases rest with
      | nil =>
          exact firstWhole
      | cons second others =>
          have joined := plain.append (inductionHypothesis restWhole)
          exact firstWhole.append joined

/-- A value without groups is a whole text. -/
theorem isWhole_leaf
    {value : LogValue}
    (holdsNoGroup : value.HoldsNoGroup) :
    IsWhole value.leaf := by
  induction holdsNoGroup with
  | @scalar value isScalar =>
      cases value with
      | null =>
          simp only [leaf]
          rfl
      | boolean value =>
          simp only [leaf]
          cases value <;> rfl
      | int value =>
          simpa [leaf, scalar] using (Text.isNumeric_integer _).isWhole
      | uint value =>
          simpa [leaf, scalar] using (Text.isNumeric_natural _).isWhole
      | floating value =>
          simpa [leaf, scalar] using (Number.Numeral.isNumeric_write _ _ value).isWhole
      | text value =>
          simpa [leaf, scalar] using isWhole_leafText value.toList
      | list items =>
          cases isScalar
      | group attributes =>
          cases isScalar
  | @list items _ inductionHypothesis =>
      have comma : IsWhole [','] := rfl
      have inner : IsWhole (joinWith ',' (items.map leaf)) := by
        apply isWhole_joinWith comma
        intro text member
        obtain ⟨item, isItem, rfl⟩ := List.mem_map.mp member
        exact inductionHypothesis item isItem
      have opening : IsWhole ['['] := rfl
      have closing : IsWhole [']'] := rfl
      simpa [leaf, leaves_eq_map] using (opening.append inner).append closing

/-! ## Tokens of leaves -/

/-- A value without groups is the only leaf below itself. -/
theorem leavesBelow_of_holdsNoGroup
    {value : LogValue}
    (holdsNoGroup : value.HoldsNoGroup)
    (keys : List String) :
    value.leavesBelow keys = [(keys, value)] := by
  rcases holdsNoGroup with isScalar | _
  · cases value with
    | group attributes => cases isScalar
    | _ => simp [leavesBelow]
  · simp [leavesBelow]

/-- A value without groups is written as one token. -/
theorem tokens_of_holdsNoGroup
    {value : LogValue}
    (holdsNoGroup : value.HoldsNoGroup)
    (path : List Char) :
    value.tokens path = [token path value.leaf] := by
  rcases holdsNoGroup with isScalar | _
  · cases value with
    | group attributes => cases isScalar
    | _ => simp [tokens, leaf]
  · simp [tokens, leaf]

/-- The leaves below a group are those below its attributes. -/
theorem leavesBelow_group
    (keys : List String)
    (attributes : List (String × LogValue)) :
    (LogValue.group attributes).leavesBelow keys =
      attributes.flatMap fun pair => pair.2.leavesBelow (keys ++ [pair.1]) := by
  have all : leavesOfAll keys attributes =
      attributes.flatMap fun pair => pair.2.leavesBelow (keys ++ [pair.1]) := by
    induction attributes with
    | nil =>
        simp [leavesOfAll]
    | cons pair rest inductionHypothesis =>
        simp [leavesOfAll, inductionHypothesis]
  simpa [leavesBelow] using all

/-- The tokens of a group are those of its attributes, each with its key at the end of the path. -/
theorem tokens_group
    (path : List Char)
    (attributes : List (String × LogValue)) :
    (LogValue.group attributes).tokens path =
      attributes.flatMap fun pair => pair.2.tokens (pathTo path pair.1.toList) := by
  have all : groupTokens path attributes =
      attributes.flatMap fun pair => pair.2.tokens (pathTo path pair.1.toList) := by
    induction attributes with
    | nil =>
        simp [groupTokens]
    | cons pair rest inductionHypothesis =>
        simp [groupTokens, inductionHypothesis]
  simpa [tokens] using all

/-- A text that is joined on comes behind one more separator. -/
theorem joinWith_concat
    (separator : Char)
    {texts : List (List Char)}
    (nonempty : texts ≠ [])
    (last : List Char) :
    joinWith separator (texts ++ [last]) = joinWith separator texts ++ separator :: last := by
  induction texts with
  | nil =>
      exact absurd rfl nonempty
  | cons first rest inductionHypothesis =>
      cases rest with
      | nil =>
          rfl
      | cons second others =>
          simpa [joinWith] using inductionHypothesis (by simp)

/-- Keys that are joined by dots are not empty. -/
theorem dotted_ne_nil
    {keys : List String}
    (nonempty : keys ≠ [])
    (areKeys : ∀ key ∈ keys, IsKey key) :
    dotted keys ≠ [] := by
  rcases keys with _ | ⟨first, _ | ⟨second, others⟩⟩
  · exact absurd rfl nonempty
  · simpa [dotted, joinWith] using (areKeys first (by simp)).nonempty
  · simp [dotted, joinWith]

/-- The path of a key below keys is the path of all these keys. -/
theorem pathTo_dotted
    {keys : List String}
    (areKeys : ∀ key ∈ keys, IsKey key)
    (key : String) :
    pathTo (dotted keys) key.toList = dotted (keys ++ [key]) := by
  by_cases isEmpty : keys = []
  · simp [isEmpty, pathTo, dotted, joinWith]
  · have path : dotted keys ≠ [] := dotted_ne_nil isEmpty areKeys
    have nonempty : keys.map String.toList ≠ [] := by simpa using isEmpty
    have joined : dotted (keys ++ [key]) = dotted keys ++ '.' :: key.toList := by
      simpa [dotted] using joinWith_concat '.' nonempty key.toList
    simp [pathTo, path, joined]

/-- A group is no value without groups. -/
theorem not_holdsNoGroup_group (attributes : List (String × LogValue)) :
    ¬ HoldsNoGroup (.group attributes) := by
  intro holdsNoGroup
  cases holdsNoGroup with
  | scalar isScalar => cases isScalar

/-- Below keys a value has one token for every leaf, in order. Only a group can stand without
keys. -/
theorem tokens_eq_map_tokenOf
    {value : LogValue}
    (isFlat : value.IsFlat)
    {keys : List String}
    (placed : value.HoldsNoGroup → keys ≠ [])
    (areKeys : ∀ key ∈ keys, IsKey key) :
    value.tokens (dotted keys) = (value.leavesBelow keys).map tokenOf := by
  induction isFlat generalizing keys with
  | leaf holdsNoGroup =>
      have path := dotted_ne_nil (placed holdsNoGroup) areKeys
      simp [tokens_of_holdsNoGroup holdsNoGroup, leavesBelow_of_holdsNoGroup holdsNoGroup, token,
        tokenOf, path]
  | @group attributes keysPlain _ inductionHypothesis =>
      simp only [tokens_group, leavesBelow_group, List.map_flatMap]
      refine List.flatMap_congr fun pair member => ?_
      have below : ∀ key ∈ keys ++ [pair.1], IsKey key :=
        List.forall_mem_append.mpr ⟨areKeys, by simpa using keysPlain pair member⟩
      simpa [pathTo_dotted areKeys] using inductionHypothesis pair member (by simp) below

/-- A leaf below keys has keys that can stand in a path, and holds no group. -/
theorem keys_and_leaf_of_mem_leavesBelow
    {value : LogValue}
    (isFlat : value.IsFlat)
    {keys : List String}
    (areKeys : ∀ key ∈ keys, IsKey key)
    {entry : List String × LogValue}
    (member : entry ∈ value.leavesBelow keys) :
    (∀ key ∈ entry.1, IsKey key) ∧ entry.2.HoldsNoGroup := by
  induction isFlat generalizing keys with
  | leaf holdsNoGroup =>
      simp only [leavesBelow_of_holdsNoGroup holdsNoGroup, List.mem_singleton] at member
      subst member
      exact ⟨areKeys, holdsNoGroup⟩
  | @group attributes keysPlain _ inductionHypothesis =>
      simp only [leavesBelow_group, List.mem_flatMap] at member
      obtain ⟨pair, isAttribute, below⟩ := member
      have belowKeys : ∀ key ∈ keys ++ [pair.1], IsKey key :=
        List.forall_mem_append.mpr ⟨areKeys, by simpa using keysPlain pair isAttribute⟩
      exact inductionHypothesis pair isAttribute belowKeys below

/-! ## Reading tokens -/

/-- A key is whole, as it holds neither quotes nor separators. -/
theorem isWhole_of_isKey
    {key : String}
    (isKey : IsKey key) :
    IsWhole key.toList := by
  refine .of_not_mem (fun member => (isKey.plain _ member).2.2.1 rfl) fun member => ?_
  exact absurd (isKey.plain _ member).1 (by decide)

/-- Keys that are joined by dots are whole. -/
theorem isWhole_dotted
    {keys : List String}
    (areKeys : ∀ key ∈ keys, IsKey key) :
    IsWhole (dotted keys) := by
  have point : IsWhole ['.'] := rfl
  apply isWhole_joinWith point
  intro text member
  obtain ⟨key, isKey, rfl⟩ := List.mem_map.mp member
  exact isWhole_of_isKey (areKeys key isKey)

/-- A token of such keys and a value without groups is whole. -/
theorem isWhole_tokenOf
    {entry : List String × LogValue}
    (areKeys : ∀ key ∈ entry.1, IsKey key)
    (holdsNoGroup : entry.2.HoldsNoGroup) :
    IsWhole (tokenOf entry) := by
  have equals : IsWhole ['='] := rfl
  simpa [tokenOf] using (isWhole_dotted areKeys).append (equals.append (isWhole_leaf holdsNoGroup))

/-- A character that is not the separator stands in joined texts only when it stands in one of them.
-/
theorem ne_of_mem_joinWith
    {separator character : Char}
    {texts : List (List Char)}
    (isOther : character ≠ separator)
    (absent : ∀ text ∈ texts, character ∉ text) :
    character ∉ joinWith separator texts := by
  induction texts with
  | nil =>
      simp [joinWith]
  | cons first rest inductionHypothesis =>
      obtain ⟨notFirst, notRest⟩ := List.forall_mem_cons.mp absent
      cases rest with
      | nil =>
          simpa [joinWith] using notFirst
      | cons second others =>
          simpa [joinWith, isOther, notFirst] using inductionHypothesis notRest

/-- No path of keys holds an equals sign, so a token shows where its path ends. -/
theorem equals_not_mem_dotted
    {keys : List String}
    (areKeys : ∀ key ∈ keys, IsKey key) :
    '=' ∉ dotted keys := by
  apply ne_of_mem_joinWith (by decide)
  intro text isText member
  obtain ⟨key, isKey, rfl⟩ := List.mem_map.mp isText
  exact ((areKeys key isKey).plain _ member).2.2.2 rfl

/-- What stands behind the first equals sign of a token is its leaf. -/
theorem dropWhile_tokenOf
    {entry : List String × LogValue}
    (areKeys : ∀ key ∈ entry.1, IsKey key) :
    ((tokenOf entry).dropWhile (· != '=')).drop 1 = entry.2.leaf := by
  have path : ∀ character ∈ dotted entry.1, (character != '=') = true := by
    intro character member
    have isOther : character ≠ '=' := fun same => equals_not_mem_dotted areKeys (same ▸ member)
    simpa using isOther
  simp [tokenOf, List.dropWhile_append_of_pos path]

/-- A text is read from its token. -/
theorem readText?_tokenOf
    {keys : List String}
    (areKeys : ∀ key ∈ keys, IsKey key)
    (text : String) :
    readText? (tokenOf (keys, .text text)) = some text.toList := by
  have shown :
      ((tokenOf (keys, .text text)).dropWhile (· != '=')).drop 1 = (LogValue.text text).leaf :=
    dropWhile_tokenOf areKeys
  simp only [readText?, shown, leaf, scalar, leafText]
  split
  · next bare =>
      have noQuote : text.toList.head? ≠ some '"' := by
        intro isQuote
        exact (not_mem_of_isBare bare).1 (List.mem_of_mem_head? isQuote)
      simp [noQuote]
  · have isQuoted : (Text.quoted text.toList).head? = some '"' := by simp [Text.quoted]
    simp [isQuoted, Text.unquote?_quoted]

/-- A line of whole tokens is split into these tokens. -/
theorem pieces_joinWith
    {texts : List (List Char)}
    (areWhole : ∀ text ∈ texts, IsWhole text)
    (nonempty : ∀ text ∈ texts, text ≠ []) :
    pieces (joinWith ' ' texts) = texts := by
  have split :
      ∀ {texts : List (List Char)},
        (∀ text ∈ texts, IsWhole text) →
          texts ≠ [] → splitFrom .outside (joinWith ' ' texts) = texts := by
    intro texts areWhole some
    induction texts with
    | nil =>
        exact absurd rfl some
    | cons first rest inductionHypothesis =>
        obtain ⟨firstWhole, restWhole⟩ := List.forall_mem_cons.mp areWhole
        cases rest with
        | nil =>
            exact Text.splitFrom_of_scan firstWhole
        | cons second others =>
            have tail := inductionHypothesis restWhole (by simp)
            calc splitFrom .outside (first ++ ' ' :: joinWith ' ' (second :: others))
                = first :: splitFrom .outside (joinWith ' ' (second :: others)) :=
                  Text.splitFrom_append_space firstWhole _
              _ = first :: second :: others := by rw [tail]
  cases texts with
  | nil =>
      rfl
  | cons first rest =>
      have visible : joinWith ' ' (first :: rest) ≠ [] := by
        have := nonempty first (by simp)
        cases rest <;> simp [joinWith, this]
      simpa [pieces, visible] using split areWhole (by simp)

/-- To split the line of a group at the spaces outside quotes gives the tokens of its leaves, and
from each token of a text the text is read. -/
theorem pieces_flatText
    {attributes : List (String × LogValue)}
    (isFlat : IsFlat (.group attributes)) :
    pieces (flatText (.group attributes)).toList =
        (pathLeaves (.group attributes)).map tokenOf ∧
      ∀ keys text,
        (keys, .text text) ∈ pathLeaves (.group attributes) →
          readText? (tokenOf (keys, .text text)) = some text.toList := by
  have noKeys : ∀ key ∈ ([] : List String), IsKey key := by simp
  have shown : tokens [] (.group attributes) = (pathLeaves (.group attributes)).map tokenOf :=
    tokens_eq_map_tokenOf isFlat (fun isLeaf => absurd isLeaf (not_holdsNoGroup_group _)) noKeys
  refine ⟨?_, fun keys text member => ?_⟩
  · have ofTokens : ∀ token ∈ (pathLeaves (.group attributes)).map tokenOf,
        IsWhole token ∧ token ≠ [] := by
      intro token isToken
      obtain ⟨entry, member, rfl⟩ := List.mem_map.mp isToken
      obtain ⟨areKeys, holdsNoGroup⟩ := keys_and_leaf_of_mem_leavesBelow isFlat noKeys member
      exact ⟨isWhole_tokenOf areKeys holdsNoGroup, by simp [tokenOf]⟩
    have split := pieces_joinWith (fun token isToken => (ofTokens token isToken).1)
      fun token isToken => (ofTokens token isToken).2
    simpa [flatText, flat, shown] using split
  · exact readText?_tokenOf (keys_and_leaf_of_mem_leavesBelow isFlat noKeys member).1 text

/-- A text that holds a space, an equals sign and a quote, beside a key that stands twice, a list
and an empty group. -/
def crafted : List (String × LogValue) :=
  [("user", .text "a x=\"b"),
    ("at", .group [("line", .list [.uint 3, .null]), ("line", .text "ok")]),
    ("none", .group [])]

/-- The crafted group is flat, in spite of what stands in its texts. -/
theorem isFlat_crafted : IsFlat (.group crafted) := by
  have user : IsKey "user" := ⟨by decide, by simp [isBlank, isControl]⟩
  have place : IsKey "at" := ⟨by decide, by simp [isBlank, isControl]⟩
  have line : IsKey "line" := ⟨by decide, by simp [isBlank, isControl]⟩
  have none : IsKey "none" := ⟨by decide, by simp [isBlank, isControl]⟩
  have items : HoldsNoGroup (.list [.uint 3, .null]) :=
    .list (List.forall_mem_cons.mpr ⟨.scalar rfl, by simpa using .scalar rfl⟩)
  have inner : IsFlat (.group [("line", .list [.uint 3, .null]), ("line", .text "ok")]) :=
    .group (by simp [line])
      (List.forall_mem_cons.mpr ⟨.leaf items, by simpa using .leaf (.scalar rfl)⟩)
  have empty : IsFlat (.group []) := .group (by simp) (by simp)
  refine .group (by simp [crafted, user, place, none]) ?_
  exact List.forall_mem_cons.mpr ⟨.leaf (.scalar rfl), by simpa using ⟨inner, empty⟩⟩

/-- The crafted text is split into three tokens, none of which its first value can forge. -/
theorem pieces_flatText_crafted :
    IsFlat (.group crafted) ∧
      pieces (flatText (.group crafted)).toList =
        ["user=\"a x=\\\"b\"".toList, "at.line=[3,null]".toList, "at.line=ok".toList] ∧
      readText? "user=\"a x=\\\"b\"".toList = some "a x=\"b".toList := by
  have leaves :
      pathLeaves (.group crafted) =
        [(["user"], .text "a x=\"b"),
          (["at", "line"], .list [.uint 3, .null]),
          (["at", "line"], .text "ok")] := by
    simp [crafted, pathLeaves, leavesBelow, leavesOfAll]
  have user : tokenOf (["user"], .text "a x=\"b") = "user=\"a x=\\\"b\"".toList := by
    simp [tokenOf, dotted, joinWith, leaf, scalar]
    decide
  obtain ⟨split, read⟩ := pieces_flatText isFlat_crafted
  refine ⟨isFlat_crafted, ?_, ?_⟩
  · rw [split, leaves, List.map_cons, user]
    simp [tokenOf, dotted, joinWith, leaf, LogValue.leaves, scalar]
    decide
  · rw [← user]
    exact read ["user"] "a x=\"b" (by simp [leaves])

end LogValue

end Fault
