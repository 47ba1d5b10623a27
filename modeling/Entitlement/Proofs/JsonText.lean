/-
This file proves that a JSON value is read from its own text, on one line or over many. The proof
goes through the tokens: the characters of a value are scanned into its tokens wherever they stand,
and the tokens of a value deliver it to whatever container is open. Both facts are stated for a
value in its surroundings, so those for an array or an object follow from those for its parts.
-/

import Entitlement.Json.Kept
import Entitlement.Json.Printer
import Entitlement.Json.Reader
import Entitlement.Proofs.Timestamps
import Mathlib.Data.List.Basic

namespace Entitlement

namespace Json

/-! ### Values that are written and read alike -/

/-- A member whose name is spelled as between quotes. -/
def spelledMember (member : String × Json) : String × Json :=
  (Spelling.encode member.1, member.2)

/-- A value without numbers other than integers of 64 bits, in which every text and name stands
for characters, no object has a name twice and containers nest at most `room` deep. -/
inductive Plain : Nat → Json → Prop where
  | null {room : Nat} : Plain room null
  | bool {room : Nat} (value : Bool) : Plain room (bool value)
  | integer {room : Nat} {value : Int} (word : isWord value = true) : Plain room (integer value)
  | text {room : Nat} (value : String) : Plain room (text value)
  | array {room : Nat} {items : List Json} (each : ∀ item ∈ items, Plain room item) :
    Plain (room + 1) (array items)
  | object {room : Nat} {members : List (String × Json)} (named : List (String × Json))
    (spelled : members = named.map spelledMember) (distinct : (named.map Prod.fst).Nodup)
    (each : ∀ member ∈ named, Plain room member.2) : Plain (room + 1) (object members)

/-! ### Scanning characters in their surroundings -/

/-- The characters begin with none that could belong to a number or a word before them. -/
def Delimited (rest : List Char) : Prop :=
  ∀ first ∈ rest.head?, isNumberChar first = false ∧ first.isAlpha = false

theorem delimited_cons {first : Char} {rest : List Char}
    (apart : isNumberChar first = false ∧ first.isAlpha = false) : Delimited (first :: rest) := by
  intro other isFirst
  cases isFirst
  exact apart

theorem Delimited.append {front rest : List Char} (front' : Delimited front)
    (rest' : Delimited rest) : Delimited (front ++ rest) := by
  cases front with
  | nil => exact rest'
  | cons first others => exact delimited_cons (front' first rfl)

/-- The tokens that are found from here on, after those found before. -/
def Scan.run? (scan : Scan) (characters : List Char) : Option (List Token) :=
  (characters.foldlM step scan).bind finish

theorem Scan.run?_cons (scan : Scan) (first : Char) (rest : List Char) :
    scan.run? (first :: rest) = (scan.step first).bind fun next => next.run? rest := by
  unfold run?
  rw [List.foldlM_cons, Option.bind_eq_bind, Option.bind_assoc]

/-- The characters are scanned into the tokens wherever nothing follows that could belong to
them. -/
def Scans (characters : List Char) (tokens : List Token) : Prop :=
  ∀ found rest, Delimited rest →
    Scan.run? ⟨found, .between⟩ (characters ++ rest) =
      Scan.run? ⟨tokens.reverse ++ found, .between⟩ rest

/-- Blanks and new lines. -/
def IsGap (blanks : List Char) : Prop :=
  ∀ character ∈ blanks, character = ' ' ∨ character = '\n'

namespace Scans

variable {characters more : List Char} {tokens others : List Token}

theorem nil : Scans [] [] :=
  fun _ _ _ => rfl

theorem append (first : Scans characters tokens) (second : Scans more others)
    (apart : Delimited more) : Scans (characters ++ more) (tokens ++ others) := by
  intro found rest delimited
  rw [List.append_assoc, first found _ (apart.append delimited), second _ rest delimited,
    List.reverse_append, List.append_assoc]

/-- A blank or a mark is scanned whatever follows it. -/
theorem cons (mark : Char) (marked : List Token)
    (passes : ∀ found, Scan.start found mark = some ⟨marked.reverse ++ found, .between⟩)
    (scans : Scans characters tokens) : Scans (mark :: characters) (marked ++ tokens) := by
  intro found rest delimited
  rw [List.cons_append, Scan.run?_cons]
  show (Scan.start found mark).bind _ = _
  rw [passes, Option.bind_some, scans _ rest delimited, List.reverse_append, List.append_assoc]

theorem gap {blanks : List Char} (isGap : IsGap blanks) (scans : Scans characters tokens) :
    Scans (blanks ++ characters) tokens := by
  induction blanks with
  | nil => exact scans
  | cons first rest inductionHypothesis =>
    have others := inductionHypothesis fun character member =>
      isGap character (List.mem_cons_of_mem _ member)
    rcases isGap first List.mem_cons_self with rfl | rfl
    · exact cons ' ' [] (fun _ => rfl) others
    · exact cons '\n' [] (fun _ => rfl) others

end Scans

/-! ### Scanning words and numbers -/

theorem run?_word {soFar : List Char} {token : Token} (isWord : word? soFar.reverse = some token)
    {found : List Token} {rest : List Char} (delimited : Delimited rest) :
    Scan.run? ⟨found, .word soFar⟩ rest = Scan.run? ⟨token :: found, .between⟩ rest := by
  cases rest with
  | nil => simp [Scan.run?, Scan.finish, isWord]
  | cons first others =>
    rw [Scan.run?_cons, Scan.run?_cons]
    simp [Scan.step, (delimited first rfl).2, isWord]

theorem run?_number {soFar : List Char} {token : Token}
    (isNumber : number? soFar.reverse = some token) {found : List Token} {rest : List Char}
    (delimited : Delimited rest) :
    Scan.run? ⟨found, .number soFar⟩ rest = Scan.run? ⟨token :: found, .between⟩ rest := by
  cases rest with
  | nil => simp [Scan.run?, Scan.finish, isNumber]
  | cons first others =>
    rw [Scan.run?_cons, Scan.run?_cons]
    simp [Scan.step, (delimited first rfl).1, isNumber]

theorem scans_null : Scans ['n', 'u', 'l', 'l'] [.null] :=
  fun _ _ delimited => run?_word rfl delimited

theorem scans_bool (value : Bool) : Scans (scalarChars (bool value)) [.bool value] := by
  cases value with
  | false => exact fun _ _ delimited => run?_word rfl delimited
  | true => exact fun _ _ delimited => run?_word rfl delimited

/-- The characters of a number follow one another. -/
theorem run?_numberChars {characters : List Char}
    (all : ∀ character ∈ characters, isNumberChar character = true) (found : List Token)
    (soFar rest : List Char) :
    Scan.run? ⟨found, .number soFar⟩ (characters ++ rest) =
      Scan.run? ⟨found, .number (characters.reverse ++ soFar)⟩ rest := by
  induction characters generalizing soFar with
  | nil => rfl
  | cons first others inductionHypothesis =>
    have next := inductionHypothesis
      (fun character member => all character (List.mem_cons_of_mem _ member)) (first :: soFar)
    rw [List.cons_append, Scan.run?_cons]
    simp only [Scan.step, all first List.mem_cons_self, if_true, Option.bind_some, next,
      List.reverse_cons, List.append_assoc, List.cons_append, List.nil_append]

theorem start_digit {first : Char} (digit : first.isDigit = true) (found : List Token) :
    Scan.start found first = some ⟨found, .number [first]⟩ := by
  unfold Scan.start
  split
  all_goals first
    | exact absurd digit (by decide)
    | rw [digit]; rfl

theorem isNumberChar_of_isDigit {character : Char} (digit : character.isDigit = true) :
    isNumberChar character = true := by
  simp [isNumberChar, digit]

/-! ### Integers -/

theorem head?_toDigits_ne_zero {number : Nat} (positive : 0 < number) :
    (Nat.toDigits 10 number).head? ≠ some '0' := by
  induction number using Nat.strongRecOn with
  | ind number inductionHypothesis =>
    by_cases small : number < 10
    · have all : ∀ number < 10, 0 < number → Nat.digitChar number ≠ '0' := by decide
      rw [Nat.toDigits_of_lt_base small, List.head?_cons, ne_eq, Option.some.injEq]
      exact all number small positive
    · have front : 0 < number / 10 := Nat.div_pos (Nat.le_of_not_lt small) (by decide)
      have split := Nat.toDigits_append_toDigits (by decide : 1 < 10) front
        (Nat.mod_lt number (by decide : 0 < 10))
      rw [Nat.div_add_mod] at split
      rw [← split, List.head?_append_of_ne_nil _ Nat.toDigits_ne_nil]
      exact inductionHypothesis (number / 10) (Nat.div_lt_self positive (by decide)) front

theorem isWhole_toDigits (number : Nat) : Numeral.isWhole (Nat.toDigits 10 number) = true := by
  rcases Nat.eq_zero_or_pos number with rfl | positive
  · decide
  · have noZero := head?_toDigits_ne_zero positive
    cases digits : Nat.toDigits 10 number with
    | nil => exact absurd digits Nat.toDigits_ne_nil
    | cons first rest =>
      rw [digits, List.head?_cons, ne_eq, Option.some.injEq] at noZero
      simp [Numeral.isWhole, noZero]

theorem isDigit_of_mem_toDigits (number : Nat) :
    ∀ digit ∈ Nat.toDigits 10 number, digit.isDigit = true :=
  fun _ member => Nat.isDigit_of_mem_toDigits (by decide) (by decide) member

theorem value_toDigits (number : Nat) : Numeral.value (Nat.toDigits 10 number) = number :=
  Nat.ofDigitChars_toDigits (by decide) (by decide)

theorem ofUnsigned?_toDigits (negative : Bool) (number : Nat) :
    Numeral.ofUnsigned? negative (Nat.toDigits 10 number) =
      some ⟨negative, Nat.toDigits 10 number, [], none⟩ := by
  have ends : Text.EndsNumber [] := fun _ isFirst => nomatch isFirst
  have taken := Text.takeWhile_isDigit (isDigit_of_mem_toDigits number) ends
  have dropped := Text.dropWhile_isDigit (isDigit_of_mem_toDigits number) ends
  rw [List.append_nil] at taken dropped
  simp [Numeral.ofUnsigned?, taken, dropped, Numeral.fraction?, Numeral.exponent?,
    isWhole_toDigits]

theorem number?_integerChars (value : Int) :
    number? (integerChars value) = some (.integer value) := by
  cases value with
  | ofNat absolute =>
    have unsigned : Numeral.ofChars? (Nat.toDigits 10 absolute) =
        Numeral.ofUnsigned? false (Nat.toDigits 10 absolute) := by
      unfold Numeral.ofChars?
      split
      · next rest same =>
        have digit := isDigit_of_mem_toDigits absolute '-' (same ▸ List.mem_cons_self)
        exact absurd digit (by decide)
      · rfl
    rw [number?, integerChars, unsigned, ofUnsigned?_toDigits]
    simp [Numeral.integer?, value_toDigits]
  | negSucc before =>
    rw [number?, integerChars, Numeral.ofChars?, ofUnsigned?_toDigits]
    simp [Numeral.integer?, value_toDigits, Int.negSucc_eq]

theorem isNumberChar_of_mem_toDigits {number : Nat} :
    ∀ character ∈ Nat.toDigits 10 number, isNumberChar character = true :=
  fun character member => isNumberChar_of_isDigit (isDigit_of_mem_toDigits number character member)

theorem scans_integer (value : Int) : Scans (integerChars value) [.integer value] := by
  have isNumber := number?_integerChars value
  intro found rest delimited
  cases value with
  | ofNat absolute =>
    have isDigit := isDigit_of_mem_toDigits absolute
    show Scan.run? _ (Nat.toDigits 10 absolute ++ rest) = _
    replace isNumber : number? (Nat.toDigits 10 absolute) = _ := isNumber
    cases digits : Nat.toDigits 10 absolute with
    | nil => exact absurd digits Nat.toDigits_ne_nil
    | cons first others =>
      rw [digits] at isDigit isNumber
      have numberChars : ∀ character ∈ others, isNumberChar character = true :=
        fun character member =>
          isNumberChar_of_isDigit (isDigit character (List.mem_cons_of_mem _ member))
      rw [List.cons_append, Scan.run?_cons]
      simp only [Scan.step, start_digit (isDigit first List.mem_cons_self), Option.bind_some]
      rw [run?_numberChars numberChars]
      exact run?_number (by simpa using isNumber) delimited
  | negSucc before =>
    show Scan.run? _ ('-' :: Nat.toDigits 10 (before + 1) ++ rest) = _
    rw [List.cons_append, Scan.run?_cons]
    show Scan.run? ⟨found, .number ['-']⟩ _ = _
    rw [run?_numberChars isNumberChar_of_mem_toDigits]
    exact run?_number (by simpa [integerChars] using isNumber) delimited

/-! ### Scanning texts -/

theorem run?_plain {character : Char} (plain : Spelling.isPlain character = true)
    (found : List Token) (soFar rest : List Char) :
    Scan.run? ⟨found, .text soFar⟩ (character :: rest) =
      Scan.run? ⟨found, .text (character :: soFar)⟩ rest := by
  have noMark : character ≠ '"' ∧ character ≠ '\\' := by
    constructor
    all_goals
      rintro rfl
      exact absurd plain (by decide)
  rw [Scan.run?_cons]
  simp [Scan.step, noMark, plain]

/-- The digits of an escaped control character are digits. -/
theorem hexValue?_control {value : Nat} (small : value < 0x20) :
    Text.hexValue? (Text.hexDigit (value / 16)) = some (value / 16) ∧
      Text.hexValue? (Text.hexDigit (value % 16)) = some (value % 16) :=
  ⟨Text.hexValue?_hexDigit (by omega), Text.hexValue?_hexDigit (by omega)⟩

theorem run?_encodeChar (character : Char) (found : List Token) (soFar rest : List Char) :
    Scan.run? ⟨found, .text soFar⟩ (Spelling.encodeChar character ++ rest) =
      Scan.run? ⟨found, .text ((Spelling.encodeChar character).reverse ++ soFar)⟩ rest := by
  unfold Spelling.encodeChar
  split
  any_goals rfl
  split
  · next control =>
    obtain ⟨high, low⟩ := hexValue?_control control
    have zero : Text.hexValue? '0' = some 0 := by decide
    simp [Scan.run?_cons, Scan.step, high, low, zero]
  · next notControl => exact run?_plain (by simp_all [Spelling.isPlain]) found soFar rest

theorem run?_encodeChars (characters : List Char) (found : List Token) (soFar rest : List Char) :
    Scan.run? ⟨found, .text soFar⟩ (Spelling.encodeChars characters ++ rest) =
      Scan.run? ⟨found, .text ((Spelling.encodeChars characters).reverse ++ soFar)⟩ rest := by
  induction characters generalizing soFar with
  | nil => rfl
  | cons character others inductionHypothesis =>
    unfold Spelling.encodeChars at inductionHypothesis ⊢
    rw [List.flatMap_cons, List.append_assoc, run?_encodeChar, inductionHypothesis,
      List.reverse_append, List.append_assoc]

theorem scans_quoted (value : String) :
    Scans (quoted (Spelling.encode value).toList) [.text (Spelling.encode value)] := by
  intro found rest _
  rw [quoted, Spelling.encode, String.toList_ofList, List.cons_append, List.cons_append,
    List.append_assoc, Scan.run?_cons]
  show Scan.run? ⟨found, .text []⟩ _ = _
  rw [run?_encodeChars, List.append_nil, List.cons_append, Scan.run?_cons]
  simp [Scan.step]

/-! ### Reading tokens in their surroundings -/

/-- The tokens deliver the value wherever one must come. -/
def Reads (tokens : List Token) (value : Json) : Prop :=
  ∀ frames, tokens.foldlM Reading.step ⟨.value, frames⟩ = Reading.deliver value frames

/-- The tokens of a value do not begin with the end of an array, so the value may come first in
one. -/
theorem Reads.first {tokens : List Token} {value : Json} (reads : Reads tokens value)
    (frames : List Frame) :
    tokens.foldlM Reading.step ⟨.itemOrEnd, frames⟩ = Reading.deliver value frames := by
  cases tokens with
  | nil => exact absurd (reads []) (by simp [Reading.deliver])
  | cons token rest =>
    have noEnd : token ≠ .closeBracket := by
      rintro rfl
      exact absurd (reads []) (by simp [Reading.step, Reading.stepValue, Reading.deliver])
    rw [← reads frames, List.foldlM_cons, List.foldlM_cons]
    simp [Reading.step, noEnd]

/-- The characters spell the value. -/
def Spells (characters : List Char) (value : Json) : Prop :=
  ∃ tokens, Scans characters tokens ∧ Reads tokens value

/-- The characters spell more items of an array, each after a comma. -/
structure SpellsItems (characters : List Char) (items : List Json) : Prop where
  delimited : Delimited characters
  scanned : ∃ tokens, Scans characters tokens ∧ ∀ before frames,
    tokens.foldlM Reading.step ⟨.commaOrEnd, .array before :: frames⟩ =
      some ⟨.commaOrEnd, .array (items.reverse ++ before) :: frames⟩

/-- The characters spell more members of an object, each after a comma. -/
structure SpellsMembers (characters : List Char) (members : List (String × Json)) : Prop where
  delimited : Delimited characters
  scanned : ∃ tokens, Scans characters tokens ∧ ∀ before frames,
    tokens.foldlM Reading.step ⟨.commaOrEnd, .object before :: frames⟩ =
      some ⟨.commaOrEnd, .object (members.reverse ++ before) :: frames⟩

/-! ### Items -/

theorem delimited_nil : Delimited [] :=
  fun _ isFirst => nomatch isFirst

theorem spellsItems_nil : SpellsItems [] [] :=
  ⟨delimited_nil, [], Scans.nil, fun _ _ => rfl⟩

variable {blanks ending space characters more : List Char} {value : Json}

theorem SpellsItems.cons {items : List Json} (isGap : IsGap blanks)
    (spells : Spells characters value)
    (others : SpellsItems more items) :
    SpellsItems (',' :: (blanks ++ characters) ++ more) (value :: items) := by
  obtain ⟨tokens, scans, reads⟩ := spells
  obtain ⟨delimited, moreTokens, scansMore, readsMore⟩ := others
  refine ⟨delimited_cons (by decide), .comma :: (tokens ++ moreTokens), ?_, fun before frames => ?_⟩
  · rw [List.cons_append]
    exact .cons ',' [.comma] (fun _ => rfl) (.append (.gap isGap scans) scansMore delimited)
  · show (tokens ++ moreTokens).foldlM Reading.step ⟨.value, .array before :: frames⟩ = _
    rw [List.foldlM_append, reads, List.reverse_cons, List.append_assoc]
    exact readsMore (value :: before) frames

/-- A delimiter that closes a container, after a gap. -/
theorem Delimited.gap (isGap : IsGap blanks) {rest : List Char} (delimited : Delimited rest) :
    Delimited (blanks ++ rest) := by
  refine Delimited.append (fun first isFirst => ?_) delimited
  rcases isGap first (List.mem_of_mem_head? isFirst) with rfl | rfl
  all_goals decide

theorem spells_array {items : List Json} (isGap : IsGap blanks) (spells : Spells characters value)
    (others : SpellsItems more items) (isEnding : IsGap ending) :
    Spells ('[' :: (blanks ++ characters ++ more) ++ (ending ++ [']']))
      (array (value :: items)) := by
  obtain ⟨tokens, scans, reads⟩ := spells
  obtain ⟨delimited, moreTokens, scansMore, readsMore⟩ := others
  have scansEnd : Scans (ending ++ [']']) [.closeBracket] :=
    .gap isEnding (.cons ']' [.closeBracket] (fun _ => rfl) .nil)
  have ends : Delimited (ending ++ [']']) := .gap isEnding (delimited_cons (by decide))
  refine ⟨.openBracket :: (tokens ++ moreTokens ++ [.closeBracket]), ?_, fun frames => ?_⟩
  · rw [List.cons_append]
    exact .cons '[' [.openBracket] (fun _ => rfl)
      (.append (.append (.gap isGap scans) scansMore delimited) scansEnd ends)
  · show (tokens ++ moreTokens ++ [Token.closeBracket]).foldlM Reading.step
      ⟨.itemOrEnd, .array [] :: frames⟩ = _
    rw [List.append_assoc, List.foldlM_append, reads.first]
    show (moreTokens ++ [Token.closeBracket]).foldlM Reading.step
      ⟨.commaOrEnd, .array [value] :: frames⟩ = _
    rw [List.foldlM_append, readsMore]
    show Reading.deliver (array (items.reverse ++ [value]).reverse) frames >>= pure = _
    rw [bind_pure, List.reverse_append, List.reverse_reverse]
    rfl

/-! ### Members -/

theorem spellsMembers_nil : SpellsMembers [] [] :=
  ⟨delimited_nil, [], Scans.nil, fun _ _ => rfl⟩

/-- The tokens of a member, from its name on. -/
def memberTokens (name : String) (tokens : List Token) : List Token :=
  .text (Spelling.encode name) :: .colon :: tokens

theorem scans_member (name : String) {tokens : List Token} (isSpace : IsGap space)
    (scans : Scans characters tokens) :
    Scans (quoted (Spelling.encode name).toList ++ ':' :: (space ++ characters))
      (memberTokens name tokens) :=
  .append (scans_quoted name)
    (.cons ':' [.colon] (fun _ => rfl) (.gap isSpace scans)) (delimited_cons (by decide))

/-- The tokens of a member put it into the object that is open, where a name must come or where
the first may come. -/
theorem reads_member (name : String) {tokens : List Token} (reads : Reads tokens value)
    {expectation : Expectation} (named : expectation = .name ∨ expectation = .nameOrEnd)
    (before : List (String × Json)) (frames : List Frame) :
    (memberTokens name tokens).foldlM Reading.step ⟨expectation, .object before :: frames⟩ =
      some ⟨.commaOrEnd, .object ((Spelling.encode name, value) :: before) :: frames⟩ := by
  have opened :
      Reading.step ⟨expectation, .object before :: frames⟩ (.text (Spelling.encode name)) =
      some ⟨.colon, .member before (Spelling.encode name) :: frames⟩ := by
    rcases named with rfl | rfl
    all_goals rfl
  rw [memberTokens, List.foldlM_cons, opened]
  exact reads (.member before (Spelling.encode name) :: frames)

theorem SpellsMembers.cons {members : List (String × Json)} (name : String) (isGap : IsGap blanks)
    (isSpace : IsGap space) (spells : Spells characters value)
    (others : SpellsMembers more members) :
    SpellsMembers
      (',' :: blanks ++ quoted (Spelling.encode name).toList ++ ':' :: (space ++ characters) ++
        more)
      ((Spelling.encode name, value) :: members) := by
  obtain ⟨tokens, scans, reads⟩ := spells
  obtain ⟨delimited, moreTokens, scansMore, readsMore⟩ := others
  refine ⟨delimited_cons (by decide), .comma :: (memberTokens name tokens ++ moreTokens), ?_,
    fun before frames => ?_⟩
  · rw [List.cons_append, List.cons_append, List.cons_append, List.append_assoc blanks]
    exact .cons ',' [.comma] (fun _ => rfl)
      (.append (.gap isGap (scans_member name isSpace scans)) scansMore delimited)
  · show (memberTokens name tokens ++ moreTokens).foldlM Reading.step
      ⟨.name, .object before :: frames⟩ = _
    rw [List.foldlM_append, reads_member name reads (Or.inl rfl), List.reverse_cons,
      List.append_assoc]
    exact readsMore ((Spelling.encode name, value) :: before) frames

theorem spells_object {members : List (String × Json)} (name : String) (isGap : IsGap blanks)
    (isSpace : IsGap space) (spells : Spells characters value) (others : SpellsMembers more members)
    (isEnding : IsGap ending) :
    Spells ('\x7b' :: (blanks ++ quoted (Spelling.encode name).toList ++
        ':' :: (space ++ characters) ++ more) ++ (ending ++ ['\x7d']))
      (object ((Spelling.encode name, value) :: members)) := by
  obtain ⟨tokens, scans, reads⟩ := spells
  obtain ⟨delimited, moreTokens, scansMore, readsMore⟩ := others
  have scansEnd : Scans (ending ++ ['\x7d']) [.closeBrace] :=
    .gap isEnding (.cons '\x7d' [.closeBrace] (fun _ => rfl) .nil)
  have ends : Delimited (ending ++ ['\x7d']) := .gap isEnding (delimited_cons (by decide))
  refine ⟨.openBrace :: (memberTokens name tokens ++ moreTokens ++ [.closeBrace]), ?_,
    fun frames => ?_⟩
  · rw [List.cons_append, List.append_assoc blanks]
    exact .cons '\x7b' [.openBrace] (fun _ => rfl)
      (.append (.append (.gap isGap (scans_member name isSpace scans)) scansMore delimited) scansEnd
        ends)
  · show (memberTokens name tokens ++ moreTokens ++ [Token.closeBrace]).foldlM Reading.step
      ⟨.nameOrEnd, .object [] :: frames⟩ = _
    rw [List.append_assoc, List.foldlM_append, reads_member name reads (Or.inr rfl)]
    show (moreTokens ++ [Token.closeBrace]).foldlM Reading.step
      ⟨.commaOrEnd, .object [(Spelling.encode name, value)] :: frames⟩ = _
    rw [List.foldlM_append, readsMore]
    show Reading.deliver (object (members.reverse ++ [(Spelling.encode name, value)]).reverse)
      frames >>= pure = _
    rw [bind_pure, List.reverse_append, List.reverse_reverse]
    rfl

/-! ### Values without parts -/

theorem isGap_nil : IsGap [] :=
  fun _ member => nomatch member

theorem isGap_space : IsGap [' '] := by
  simp [IsGap]

theorem isGap_newLine (level : Nat) : IsGap (newLine level) := by
  intro character member
  rcases List.mem_cons.1 member with rfl | blank
  · exact Or.inr rfl
  · exact Or.inl (List.eq_of_mem_replicate blank)

theorem spells_null : Spells (scalarChars null) null :=
  ⟨[.null], scans_null, fun _ => bind_pure _⟩

theorem spells_bool (value : Bool) : Spells (scalarChars (bool value)) (bool value) :=
  ⟨[.bool value], scans_bool value, fun _ => bind_pure _⟩

theorem spells_integer (value : Int) : Spells (scalarChars (integer value)) (integer value) :=
  ⟨[.integer value], scans_integer value, fun _ => bind_pure _⟩

theorem spells_text (value : String) : Spells (scalarChars (text value)) (text value) := by
  have scans := scans_quoted value
  rw [Spelling.encode, String.toList_ofList] at scans
  refine ⟨[.text (Spelling.encode value)], scans, fun frames => ?_⟩
  show Reading.deliver (ofSpelling (Spelling.encode value)) frames >>= pure = _
  rw [bind_pure, ofSpelling, Spelling.decode?_encode]

theorem spells_emptyArray : Spells ['[', ']'] (array []) :=
  ⟨[.openBracket, .closeBracket],
    .cons '[' [.openBracket] (fun _ => rfl) (.cons ']' [.closeBracket] (fun _ => rfl) .nil),
    fun frames => bind_pure (Reading.deliver (array []) frames)⟩

theorem spells_emptyObject : Spells ['\x7b', '\x7d'] (object []) :=
  ⟨[.openBrace, .closeBrace],
    .cons '\x7b' [.openBrace] (fun _ => rfl) (.cons '\x7d' [.closeBrace] (fun _ => rfl) .nil),
    fun frames => bind_pure (Reading.deliver (object []) frames)⟩

/-! ### More items and members of plain values -/

theorem compactItems_eq (items : List Json) :
    compactItems items = items.flatMap fun item => ',' :: ([] ++ compactChars item) := by
  induction items with
  | nil => rfl
  | cons item rest inductionHypothesis =>
    rw [compactItems, inductionHypothesis, List.flatMap_cons, List.nil_append]

theorem prettyItems_eq (level : Nat) (items : List Json) :
    prettyItems level items =
      items.flatMap fun item => ',' :: (newLine level ++ prettyChars level item) := by
  induction items with
  | nil => rfl
  | cons item rest inductionHypothesis =>
    rw [prettyItems, inductionHypothesis, List.flatMap_cons, List.cons_append]

/-- A member after a comma. -/
def laterMember (blanks space : List Char) (write : Json → List Char)
    (member : String × Json) : List Char :=
  ',' :: blanks ++ quoted member.1.toList ++ ':' :: (space ++ write member.2)

theorem compactMembers_eq (members : List (String × Json)) :
    compactMembers members = members.flatMap (laterMember [] [] compactChars) := by
  induction members with
  | nil => rfl
  | cons member rest inductionHypothesis =>
    rw [compactMembers, inductionHypothesis, List.flatMap_cons]
    rfl

theorem prettyMembers_eq (level : Nat) (members : List (String × Json)) :
    prettyMembers level members =
      members.flatMap (laterMember (newLine level) [' '] (prettyChars level)) := by
  induction members with
  | nil => rfl
  | cons member rest inductionHypothesis =>
    rw [prettyMembers, inductionHypothesis, List.flatMap_cons]
    rfl

theorem spellsItems_flatMap (isGap : IsGap blanks) {write : Json → List Char} {items : List Json}
    (each : ∀ item ∈ items, Spells (write item) item) :
    SpellsItems (items.flatMap fun item => ',' :: (blanks ++ write item)) items := by
  induction items with
  | nil => exact spellsItems_nil
  | cons item rest inductionHypothesis =>
    rw [List.flatMap_cons]
    exact .cons isGap (each item List.mem_cons_self)
      (inductionHypothesis fun other member => each other (List.mem_cons_of_mem _ member))

theorem spellsMembers_flatMap (isGap : IsGap blanks) (isSpace : IsGap space)
    {write : Json → List Char} {named : List (String × Json)}
    (each : ∀ member ∈ named, Spells (write member.2) member.2) :
    SpellsMembers ((named.map spelledMember).flatMap (laterMember blanks space write))
      (named.map spelledMember) := by
  induction named with
  | nil => exact spellsMembers_nil
  | cons member rest inductionHypothesis =>
    exact .cons member.1 isGap isSpace (each member List.mem_cons_self)
      (inductionHypothesis fun other member => each other (List.mem_cons_of_mem _ member))

/-! ### Plain values -/

theorem Plain.spells_compact {room : Nat} {json : Json} (plain : Plain room json) :
    Spells (compactChars json) json := by
  induction plain with
  | null => exact spells_null
  | bool value => exact spells_bool value
  | integer _ => exact spells_integer _
  | text value => exact spells_text value
  | @array room items each spells =>
    cases items with
    | nil => exact spells_emptyArray
    | cons item rest =>
      have others := spellsItems_flatMap isGap_nil fun other member =>
        spells other (List.mem_cons_of_mem _ member)
      rw [compactChars, compactItems_eq]
      exact spells_array isGap_nil (spells item List.mem_cons_self) others isGap_nil
  | @object room members named spelled distinct each spells =>
    subst spelled
    cases named with
    | nil => exact spells_emptyObject
    | cons member rest =>
      have others := spellsMembers_flatMap isGap_nil isGap_nil fun other member =>
        spells other (List.mem_cons_of_mem _ member)
      rw [List.map_cons, spelledMember, compactChars, compactMembers_eq]
      simpa only [List.nil_append] using spells_object member.1 isGap_nil isGap_nil
        (spells member List.mem_cons_self) others isGap_nil

theorem Plain.spells_pretty {room : Nat} {json : Json} (plain : Plain room json) (level : Nat) :
    Spells (prettyChars level json) json := by
  induction plain generalizing level with
  | null => exact spells_null
  | bool value => exact spells_bool value
  | integer _ => exact spells_integer _
  | text value => exact spells_text value
  | @array room items each spells =>
    cases items with
    | nil => exact spells_emptyArray
    | cons item rest =>
      have others := spellsItems_flatMap (isGap_newLine (level + 1)) fun other member =>
        spells other (List.mem_cons_of_mem _ member) (level + 1)
      rw [prettyChars, prettyItems_eq]
      exact spells_array (isGap_newLine _) (spells item List.mem_cons_self _) others
        (isGap_newLine level)
  | @object room members named spelled distinct each spells =>
    subst spelled
    cases named with
    | nil => exact spells_emptyObject
    | cons member rest =>
      have others := spellsMembers_flatMap (isGap_newLine (level + 1)) isGap_space
        fun other member => spells other (List.mem_cons_of_mem _ member) (level + 1)
      have whole := spells_object member.1 (isGap_newLine (level + 1)) isGap_space
        (spells member List.mem_cons_self (level + 1)) others (isGap_newLine level)
      rw [List.map_cons, spelledMember, prettyChars, prettyMembers_eq]
      rwa [List.cons_append (a := ' ')] at whole

/-- What the characters spell is read from them. -/
theorem Spells.read? {characters : List Char} {json : Json} (spells : Spells characters json) :
    Json.read? (String.ofList characters) = some json := by
  obtain ⟨tokens, scans, reads⟩ := spells
  have scanned : Scan.run? ⟨[], .between⟩ characters = some tokens.reverse := by
    have whole := scans [] [] delimited_nil
    rwa [List.append_nil, List.append_nil] at whole
  have tokenized : tokens? characters = some tokens := by
    unfold tokens?
    show (Scan.run? ⟨[], .between⟩ characters).map List.reverse = _
    rw [scanned, Option.map_some, List.reverse_reverse]
  rw [Json.read?, String.toList_ofList, tokenized, Option.bind_some, ofTokens?, reads []]
  rfl

/-- A plain value is read from its text on one line. -/
theorem Plain.read?_compact {room : Nat} {json : Json} (plain : Plain room json) :
    read? json.compact = some json :=
  plain.spells_compact.read?

/-- A plain value is read from its text over many lines. -/
theorem Plain.read?_pretty {room : Nat} {json : Json} (plain : Plain room json) :
    read? json.pretty = some json :=
  (plain.spells_pretty 0).read?

/-! ### Plain values can be kept -/

/-- A value that is plain where containers may nest `room` deep can be kept there. -/
theorem Plain.isSound {room : Nat} {json : Json} (plain : Plain room json) :
    json.isSound room = true := by
  induction plain with
  | null => rfl
  | bool _ => rfl
  | integer word => simp [Json.isSound, isSoundScalar, word]
  | text _ => rfl
  | @array room items each sound =>
    have all : areSoundItems room items = true := by
      clear each
      induction items with
      | nil => rfl
      | cons item rest inductionHypothesis =>
        rw [areSoundItems, sound item List.mem_cons_self, Bool.true_and]
        exact inductionHypothesis fun other member => sound other (List.mem_cons_of_mem _ member)
    simp [Json.isSound, all]
  | @object room members named spelled distinct each sound =>
    have all : areSoundMembers room members = true := by
      subst spelled
      clear each distinct
      induction named with
      | nil => rfl
      | cons member rest inductionHypothesis =>
        rw [List.map_cons, spelledMember, areSoundMembers, Spelling.decode?_encode,
          sound member List.mem_cons_self,
          inductionHypothesis fun other member => sound other (List.mem_cons_of_mem _ member)]
        rfl
    simp [Json.isSound, all]

theorem Plain.sound? {room : Nat} {json : Json} (plain : Plain room json) :
    json.sound? room = some json :=
  if_pos plain.isSound

end Json

end Entitlement
