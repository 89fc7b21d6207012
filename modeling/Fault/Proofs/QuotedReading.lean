import Fault.Json.Parser
import Fault.Text.Quoted
import Mathlib

/-!
# Reading quoted text

A quoted text can be read back: a backslash stands before a letter that means one character, or
before the code point of a character, and every other character means itself. Nothing of a text is
lost in its quoted form, whatever the text is made of.
-/

namespace Fault.Text

open Fault.Json (hexValue?)

/-! ## Digits of code points -/

/-- The last digit of a number is its rest modulo sixteen, and the others are those of its
sixteenth. -/
theorem hexDigits_eq_append
    {number : Nat}
    (large : 16 ≤ number) :
    hexDigits number = hexDigits (number / 16) ++ [(number % 16).digitChar] := by
  have last : number % 16 < 16 := Nat.mod_lt _ (by decide)
  have whole : 16 * (number / 16) + number % 16 = number := Nat.div_add_mod number 16
  calc
    hexDigits number
    _ = Nat.toDigits 16 (16 * (number / 16) + number % 16) := by
        rw [whole]
        rfl
    _ = hexDigits (number / 16) ++ Nat.toDigits 16 (number % 16) :=
        (Nat.toDigits_append_toDigits (by decide) (by omega) last).symm
    _ = hexDigits (number / 16) ++ [(number % 16).digitChar] := by
        rw [Nat.toDigits_of_lt_base last]

theorem hexDigits_of_lt
    {number : Nat}
    (small : number < 16) :
    hexDigits number = [number.digitChar] :=
  Nat.toDigits_of_lt_base small

/-- What holds of numbers of one digit, and of a number when it holds of its sixteenth, holds of all
numbers. -/
theorem hexDigits_induction
    {motive : Nat → Prop}
    (digit : ∀ number, number < 16 → motive number)
    (append : ∀ number, 16 ≤ number → motive (number / 16) → motive number)
    (number : Nat) :
    motive number := by
  induction number using Nat.strongRecOn with
  | ind number inductionHypothesis =>
      by_cases small : number < 16
      · exact digit number small
      · have large : 16 ≤ number := Nat.le_of_not_lt small
        exact append number large (inductionHypothesis _ (by omega))

/-- A digit is read as its value. -/
theorem hexValue?_digitChar
    {digit : Nat}
    (small : digit < 16) :
    hexValue? digit.digitChar = some digit := by
  revert digit
  decide

/-- All hexadecimal digits of a number are read as digits. -/
theorem exists_hexValue?_of_mem_hexDigits
    {number : Nat}
    {character : Char}
    (member : character ∈ hexDigits number) :
    ∃ digit, hexValue? character = some digit := by
  induction number using hexDigits_induction with
  | digit number small =>
      simp only [hexDigits_of_lt small, List.mem_singleton] at member
      exact ⟨number, member ▸ hexValue?_digitChar small⟩
  | append number large inductionHypothesis =>
      simp only [hexDigits_eq_append large, List.mem_append, List.mem_singleton] at member
      rcases member with earlier | isLast
      · exact inductionHypothesis earlier
      · exact ⟨number % 16, isLast ▸ hexValue?_digitChar (Nat.mod_lt _ (by decide))⟩

/-! ## Reading -/

/-- Where a reader of quoted text stands: before a character, behind a backslash, before the brace
of a code point, or among its digits, with the number that they make up so far. -/
inductive Reading where
  | plain
  | backslash
  | brace
  | digits (value : Nat)

/-- The character that a letter behind a backslash means. -/
def letterMeaning? : Char → Option Char
  | 'n' => some '\n'
  | 'r' => some '\r'
  | 't' => some '\t'
  | '0' => some '\x00'
  | '\\' => some '\\'
  | '"' => some '"'
  | _ => none

/-- The text up to the closing quote, which has to be the last character. -/
def unescape? : Reading → List Char → Option (List Char)
  | _, [] => none
  | .plain, character :: rest =>
      if character = '"' then
        if rest.isEmpty then some [] else none
      else if character = '\\' then
        unescape? .backslash rest
      else
        (unescape? .plain rest).map (character :: ·)
  | .backslash, character :: rest =>
      if character = 'u' then
        unescape? .brace rest
      else
        (letterMeaning? character).bind fun meant =>
          (unescape? .plain rest).map (meant :: ·)
  | .brace, character :: rest =>
      if character = '\x7b' then unescape? (.digits 0) rest else none
  | .digits value, character :: rest =>
      if character = '\x7d' then
        (unescape? .plain rest).map (Char.ofNat value :: ·)
      else
        (hexValue? character).bind fun digit => unescape? (.digits (16 * value + digit)) rest

/-- The text that is quoted by a text. -/
def unquote? : List Char → Option (List Char)
  | [] => none
  | first :: rest => if first = '"' then unescape? .plain rest else none

/-- The three ways to quote a character: by a letter that means it, by its code point, or by
itself. -/
theorem escape_cases (character : Char) :
    (∃ letter,
      letter ≠ 'u' ∧
        letterMeaning? letter = some character ∧
        escape '"' character = ['\\', letter]) ∨
      escape '"' character = escapeCodePoint character ∨
      (character ≠ '"' ∧ character ≠ '\\' ∧ escape '"' character = [character]) := by
  simp only [escape]
  split_ifs with isFeed isReturn isTab isNul isBackslash isQuote isSpecial
  · exact .inl ⟨'n', by decide, congrArg some isFeed.symm, rfl⟩
  · exact .inl ⟨'r', by decide, congrArg some isReturn.symm, rfl⟩
  · exact .inl ⟨'t', by decide, congrArg some isTab.symm, rfl⟩
  · exact .inl ⟨'0', by decide, congrArg some isNul.symm, rfl⟩
  · exact .inl ⟨'\\', by decide, congrArg some isBackslash.symm, rfl⟩
  · exact .inl ⟨'"', by decide, congrArg some isQuote.symm, rfl⟩
  · exact .inr (.inl rfl)
  · exact .inr (.inr ⟨isQuote, isBackslash, rfl⟩)

/-- The digits of a number are read as this number. -/
theorem unescape?_hexDigits
    (number : Nat)
    (rest : List Char) :
    unescape? (.digits 0) (hexDigits number ++ rest) = unescape? (.digits number) rest := by
  have step :
      ∀ value digit rest,
        digit < 16 →
          unescape? (.digits value) (digit.digitChar :: rest) =
            unescape? (.digits (16 * value + digit)) rest := by
    intro value digit rest small
    have isDigit := hexValue?_digitChar small
    have notBrace : digit.digitChar ≠ '\x7d' := by
      intro same
      simp [same, hexValue?] at isDigit
    simp [unescape?, notBrace, isDigit]
  induction number using hexDigits_induction generalizing rest with
  | digit number small =>
      simp [hexDigits_of_lt small, step 0 number rest small]
  | append number large inductionHypothesis =>
      have last := step (number / 16) (number % 16) rest (Nat.mod_lt _ (by decide))
      rw [Nat.div_add_mod] at last
      simp [hexDigits_eq_append large, inductionHypothesis, last]

/-- A quoted character is read as this character. -/
theorem unescape?_escape
    (character : Char)
    (rest : List Char) :
    unescape? .plain (escape '"' character ++ rest) =
      (unescape? .plain rest).map (character :: ·) := by
  rcases escape_cases character with
    ⟨letter, notPoint, means, isLetter⟩ | isPoint | ⟨notQuote, notBackslash, isSelf⟩
  · simp [isLetter, unescape?, notPoint, means]
  · simp [isPoint, escapeCodePoint, unescape?, unescape?_hexDigits, Char.ofNat_toNat]
  · simp [isSelf, unescape?, notQuote, notBackslash]

/-- No text is lost in its quoted form. -/
theorem unquote?_quoted (text : List Char) :
    unquote? (quoted text) = some text := by
  have body : unescape? .plain (text.flatMap (escape '"') ++ ['"']) = some text := by
    induction text with
    | nil =>
        rfl
    | cons character rest inductionHypothesis =>
        simp [unescape?_escape, inductionHypothesis]
  simpa [quoted, unquote?] using body

end Fault.Text
