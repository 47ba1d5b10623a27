/-
This file holds the spelling of texts in JSON: the characters that stand between the quotes.
A character may stand for itself or be written by an escape, and one beyond U+FFFF may be
written by a pair of escaped halves. A half without its partner stands for no character, so not
every spelling has a meaning. What `encode` spells, `decode?` understands (`decode?_encode`).
-/

import Entitlement.Text.Digits

namespace Entitlement.Json.Spelling

/-! ### Escapes -/

/-- The character that a backslash and one more character stand for. -/
def escaped? (character : Char) : Option Char :=
  match character with
  | '"' => some '"'
  | '\\' => some '\\'
  | '/' => some '/'
  | 'b' => some '\x08'
  | 'f' => some '\x0c'
  | 'n' => some '\n'
  | 'r' => some '\r'
  | 't' => some '\t'
  | _ => none

/-- Whether a character may stand for itself. -/
def isPlain (character : Char) : Bool :=
  character != '"' && character != '\\' && 0x20 ≤ character.toNat

/-- The first half of a pair that writes a character beyond U+FFFF. -/
def isHighSurrogate (unit : Nat) : Bool :=
  0xD800 ≤ unit && unit ≤ 0xDBFF

/-- The second half of such a pair. -/
def isLowSurrogate (unit : Nat) : Bool :=
  0xDC00 ≤ unit && unit ≤ 0xDFFF

/-- The character that a pair of halves writes. -/
def ofSurrogates (high low : Nat) : Char :=
  Char.ofNat (0x10000 + (high - 0xD800) * 0x400 + (low - 0xDC00))

/-- The number that four hexadecimal digits write. -/
def unit? (first second third fourth : Char) : Option Nat := do
  let digits ← [first, second, third, fourth].mapM Text.hexValue?
  return digits.foldl (fun value digit => 16 * value + digit) 0

/-! ### The meaning of a spelling -/

/-- What the characters stand for, after characters that stand for `soFar`, the latest
first. -/
def decodeAfter? (soFar : List Char) : List Char → Option (List Char)
  | [] => some soFar.reverse
  | '\\' :: 'u' :: first :: second :: third :: fourth :: rest =>
    match unit? first second third fourth with
    | none => none
    | some unit =>
      if isLowSurrogate unit then none
      else if isHighSurrogate unit then
        match rest with
        | '\\' :: 'u' :: first :: second :: third :: fourth :: rest =>
          match unit? first second third fourth with
          | none => none
          | some low =>
            if isLowSurrogate low then decodeAfter? (ofSurrogates unit low :: soFar) rest
            else none
        | _ => none
      else decodeAfter? (Char.ofNat unit :: soFar) rest
  | '\\' :: mark :: rest =>
    match escaped? mark with
    | none => none
    | some meant => decodeAfter? (meant :: soFar) rest
  | character :: rest =>
    if isPlain character then decodeAfter? (character :: soFar) rest else none

/-- The text that a spelling stands for. -/
def decode? (spelling : String) : Option String :=
  (decodeAfter? [] spelling.toList).map String.ofList

/-! ### The spelling of a text -/

/-- The spelling of a character. Quotes, backslashes and control characters are escaped and all
others stand for themselves. -/
def encodeChar (character : Char) : List Char :=
  match character with
  | '"' => ['\\', '"']
  | '\\' => ['\\', '\\']
  | '\x08' => ['\\', 'b']
  | '\x0c' => ['\\', 'f']
  | '\n' => ['\\', 'n']
  | '\r' => ['\\', 'r']
  | '\t' => ['\\', 't']
  | _ =>
    if character.toNat < 0x20 then
      ['\\', 'u', '0', '0', Text.hexDigit (character.toNat / 16),
        Text.hexDigit (character.toNat % 16)]
    else [character]

def encodeChars (characters : List Char) : List Char :=
  characters.flatMap encodeChar

/-- The spelling of a text. -/
def encode (text : String) : String :=
  String.ofList (encodeChars text.toList)

/-! ### A spelled text is understood -/

theorem unit?_control {value : Nat} (small : value < 0x20) :
    unit? '0' '0' (Text.hexDigit (value / 16)) (Text.hexDigit (value % 16)) = some value := by
  have all : ∀ value ∈ List.range 0x20,
      unit? '0' '0' (Text.hexDigit (value / 16)) (Text.hexDigit (value % 16)) = some value := by
    decide
  exact all value (List.mem_range.2 small)

theorem decodeAfter?_plain {character : Char} (plain : isPlain character = true)
    (soFar rest : List Char) :
    decodeAfter? soFar (character :: rest) = decodeAfter? (character :: soFar) rest := by
  have notBackslash : character ≠ '\\' := by
    intro same
    subst same
    revert plain
    decide
  rw [decodeAfter?.eq_def]
  split <;> simp_all

theorem decodeAfter?_encodeChar (soFar rest : List Char) (character : Char) :
    decodeAfter? soFar (encodeChar character ++ rest) =
      decodeAfter? (character :: soFar) rest := by
  unfold encodeChar
  split
  any_goals rfl
  split
  · next control =>
    have notLow : isLowSurrogate character.toNat = false := by
      simp only [isLowSurrogate, Bool.and_eq_false_iff, decide_eq_false_iff_not]
      omega
    have notHigh : isHighSurrogate character.toNat = false := by
      simp only [isHighSurrogate, Bool.and_eq_false_iff, decide_eq_false_iff_not]
      omega
    simp only [List.cons_append, List.nil_append, decodeAfter?, unit?_control control, notLow,
      notHigh, Bool.false_eq_true, ite_false, Char.ofNat_toNat]
  · next notControl =>
    refine decodeAfter?_plain ?_ soFar rest
    simp_all [isPlain]

theorem decodeAfter?_encodeChars (characters soFar : List Char) :
    decodeAfter? soFar (encodeChars characters) = some (soFar.reverse ++ characters) := by
  induction characters generalizing soFar with
  | nil => simp [encodeChars, decodeAfter?]
  | cons character rest inductionHypothesis =>
    rw [encodeChars, List.flatMap_cons, decodeAfter?_encodeChar]
    simpa [encodeChars] using inductionHypothesis (character :: soFar)

/-- Every text is understood as it was meant. -/
theorem decode?_encode (text : String) : decode? (encode text) = some text := by
  simp [decode?, encode, decodeAfter?_encodeChars]

end Entitlement.Json.Spelling
