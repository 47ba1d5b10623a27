/-
This file proves that putting a name into its normal form twice is putting it once. Lower-casing
leaves no character that it would change again: every lower-case form of the case table lies
outside the table, which is checked run against run, and no capital sigma is left whose form
could depend on new neighbours. Lower-casing also makes no blanks, so a name that was trimmed
before it is trimmed after it.

Roles, groups and actions are normalized again at every layer they pass through, and this is why
all layers mean the same name. The components of privileges are compared up to the case of A to Z
instead; components that are the same in this way are the same when they are looked up.
-/

import Entitlement.Text.AsciiCase
import Entitlement.Text.Name
import Mathlib.Data.List.Basic
import Mathlib.Data.List.TakeWhile

namespace Entitlement.Text

/-! ### The case table leads out of itself -/

/-- Whether the run holds no code point from `low` to `high`, or none at an even distance from
`low` when only those are meant. -/
def CaseRun.avoids (run : CaseRun) (low high : Nat) (even : Bool) : Bool :=
  Nat.blt high run.first || Nat.blt run.last low ||
    (even && Nat.beq run.stride 2 && Nat.beq ((low + run.first) % 2) 1)

/-- The lower-case form of the last code point of a run. -/
def CaseRun.top (run : CaseRun) : Nat :=
  run.target + (run.last - run.first)

/-- Whether all code points of a run are at even distances from the first. -/
def CaseRun.isEven (run : CaseRun) : Bool :=
  Nat.beq run.stride 2 || Nat.beq run.first run.last

theorem caseRuns_avoid : (caseRuns.all fun run =>
    caseRuns.all fun other => other.avoids run.target run.top run.isEven) = true := by
  decide +kernel

/-- Whether the lower-case forms of a run are all below `low` or all above `high`. -/
def CaseRun.leavesOut (run : CaseRun) (low high : Nat) : Bool :=
  Nat.blt run.top low || Nat.blt high run.target

/-- Whether the lower-case forms of a run are characters, none of them a capital letter of ASCII,
the dotted capital I, the capital sigma or a blank. -/
def CaseRun.isPlain (run : CaseRun) : Bool :=
  Nat.blt 0x5A run.target && Nat.blt run.top 0x110000 && run.leavesOut 0xD800 0xDFFF &&
    run.leavesOut 0x130 0x130 && run.leavesOut 0x3A3 0x3A3 && run.leavesOut 0x85 0xA0 &&
    run.leavesOut 0x1680 0x1680 && run.leavesOut 0x2000 0x205F && run.leavesOut 0x3000 0x3000

theorem caseRuns_plain : (caseRuns.all CaseRun.isPlain) = true := by
  decide +kernel

theorem CaseRun.holds_iff {run : CaseRun} {code : Nat} : run.holds code = true ↔
    run.first ≤ code ∧ code ≤ run.last ∧ (code - run.first) % run.stride = 0 := by
  simp [CaseRun.holds, and_assoc]

theorem CaseRun.not_holds_of_avoids {run other : CaseRun} {code : Nat}
    (held : run.holds code = true)
    (avoids : other.avoids run.target run.top run.isEven = true) :
    other.holds (run.lowered code) = false := by
  obtain ⟨from_, upTo, step⟩ := CaseRun.holds_iff.1 held
  rw [Bool.eq_false_iff, ne_eq, CaseRun.holds_iff]
  rintro ⟨otherFrom, otherUpTo, otherStep⟩
  simp only [CaseRun.avoids, CaseRun.top, CaseRun.isEven, CaseRun.lowered, Bool.or_eq_true,
    Bool.and_eq_true, Nat.blt_eq, Nat.beq_eq] at *
  rcases avoids with (above | below) | ⟨⟨even, otherEven⟩, odd⟩
  · omega
  · omega
  · rw [otherEven] at otherStep
    rcases even with even | single
    · rw [even] at step
      omega
    · omega

/-! ### Lower-case forms are left alone -/

/-- A character that lower-casing leaves as it is, wherever it stands. -/
def IsLowered (character : Char) : Prop :=
  lowerChar character = [character] ∧ character ≠ 'Σ'

instance (character : Char) : Decidable (IsLowered character) :=
  inferInstanceAs (Decidable (_ ∧ _))

/-- What lower-casing may put in the place of a character: at least one character, and only
characters that it leaves alone and that are no blanks unless the first one was. -/
structure IsLowerForm (character : Char) (form : List Char) : Prop where
  nonempty : form ≠ []
  lowered : ∀ other ∈ form, IsLowered other
  blank : isBlank character = false → ∀ other ∈ form, isBlank other = false

/-- A form that is checked character by character. -/
theorem isLowerForm_of_all {character : Char} {form : List Char} (nonempty : form ≠ [])
    (all : (form.all fun other => IsLowered other && !isBlank other) = true) :
    IsLowerForm character form := by
  have each : ∀ other ∈ form, IsLowered other ∧ isBlank other = false := by
    intro other member
    have checked := List.all_eq_true.1 all other member
    rw [Bool.and_eq_true, decide_eq_true_iff, Bool.not_eq_true'] at checked
    exact checked
  exact ⟨nonempty, fun other member => (each other member).1,
    fun _ other member => (each other member).2⟩

theorem isLowerForm_self {character : Char} (lowered : IsLowered character) :
    IsLowerForm character [character] where
  nonempty := List.cons_ne_nil _ _
  lowered _ member := List.mem_singleton.1 member ▸ lowered
  blank ink _ member := List.mem_singleton.1 member ▸ ink

theorem ascii_toLower : ∀ code < 0x80,
    (Char.ofNat code).toLower.toNat < 0x80 ∧
      (Char.ofNat code).toLower.toLower = (Char.ofNat code).toLower ∧
      (0x5A < code → (Char.ofNat code).toLower = Char.ofNat code) ∧
      (isBlank (Char.ofNat code) = false → isBlank (Char.ofNat code).toLower = false) := by
  decide

theorem lowerChar_ascii {character : Char} (small : character.toNat < 0x80) :
    lowerChar character = [character.toLower] := by
  rw [lowerChar, if_pos small]

/-- Outside ASCII a character that no run holds is its own lower-case form. -/
theorem lowerChar_of_find?_none {character : Char} (large : ¬character.toNat < 0x80)
    (notDotted : character ≠ 'İ')
    (missing : caseRuns.find? (·.holds character.toNat) = none) :
    lowerChar character = [character] := by
  rw [lowerChar, if_neg large, if_neg notDotted, missing]

theorem isLowerForm_ascii {character : Char} (small : character.toNat < 0x80) :
    IsLowerForm character [character.toLower] := by
  obtain ⟨stays, fixed, -, ink⟩ := ascii_toLower character.toNat small
  rw [Char.ofNat_toNat] at stays fixed ink
  refine ⟨List.cons_ne_nil _ _, ?_, ?_⟩
  · intro other member
    rw [List.mem_singleton.1 member]
    refine ⟨by rw [lowerChar_ascii stays, fixed], ?_⟩
    intro sigma
    rw [sigma] at stays
    exact absurd stays (by decide)
  · intro notBlank other member
    rw [List.mem_singleton.1 member]
    exact ink notBlank

/-- The lower-case form that a run gives is a character outside all runs. -/
theorem CaseRun.isLowerForm_lowered {run : CaseRun} {character : Char}
    (member : run ∈ caseRuns) (held : run.holds character.toNat = true) :
    IsLowerForm character [Char.ofNat (run.lowered character.toNat)] := by
  have plain := List.all_eq_true.1 caseRuns_plain run member
  have outside : ∀ other ∈ caseRuns, other.holds (run.lowered character.toNat) = false :=
    fun other otherMember => CaseRun.not_holds_of_avoids held
      (List.all_eq_true.1 (List.all_eq_true.1 caseRuns_avoid run member) other otherMember)
  obtain ⟨from_, upTo, -⟩ := CaseRun.holds_iff.1 held
  have low : run.target ≤ run.lowered character.toNat := Nat.le_add_right ..
  have high : run.lowered character.toNat ≤ run.top := by
    unfold CaseRun.lowered CaseRun.top
    omega
  generalize run.lowered character.toNat = code at *
  simp only [CaseRun.isPlain, CaseRun.leavesOut, Bool.and_eq_true, Bool.or_eq_true,
    Nat.blt_eq] at plain
  have valid : code.isValidChar := by
    unfold Nat.isValidChar
    omega
  have number : (Char.ofNat code).toNat = code := by
    rw [Char.ofNat, dif_pos valid]
    rfl
  have settled : IsLowered (Char.ofNat code) := by
    constructor
    · by_cases small : code < 0x80
      · rw [lowerChar_ascii (number.symm ▸ small), (ascii_toLower code small).2.2.1 (by omega)]
      · refine lowerChar_of_find?_none (number.symm ▸ small) ?_ ?_
        · intro dotted
          have dottedCode : code = 0x130 := number.symm.trans (congrArg Char.toNat dotted)
          omega
        · rw [number, List.find?_eq_none]
          intro other otherMember
          rw [outside other otherMember]
          decide
    · intro sigma
      have sigmaCode : code = 0x3A3 := number.symm.trans (congrArg Char.toNat sigma)
      omega
  refine ⟨List.cons_ne_nil _ _, ?_, ?_⟩
  · intro other member
    exact List.mem_singleton.1 member ▸ settled
  · intro _ other member
    rw [List.mem_singleton.1 member]
    simp [isBlank, number]
    omega

theorem isLowerForm_lowerChar {character : Char} (notSigma : character ≠ 'Σ') :
    IsLowerForm character (lowerChar character) := by
  by_cases small : character.toNat < 0x80
  · rw [lowerChar_ascii small]
    exact isLowerForm_ascii small
  by_cases dotted : character = 'İ'
  · subst dotted
    exact isLowerForm_of_all (by decide) (by decide +kernel)
  cases found : caseRuns.find? (·.holds character.toNat) with
  | none =>
    have itself := lowerChar_of_find?_none small dotted found
    rw [itself]
    exact isLowerForm_self ⟨itself, notSigma⟩
  | some run =>
    rw [lowerChar, if_neg small, if_neg dotted, found]
    have held := List.find?_some found
    exact CaseRun.isLowerForm_lowered (List.mem_of_find?_eq_some found) held

theorem isLowerForm_lowerSigma (before after : List Char) :
    IsLowerForm 'Σ' [lowerSigma before after] := by
  unfold lowerSigma
  split
  · exact isLowerForm_of_all (by decide) (by decide +kernel)
  · exact isLowerForm_of_all (by decide) (by decide +kernel)

/-- What stands in the place of a character between the others of a text. -/
def lowerForm (before : List Char) (character : Char) (after : List Char) : List Char :=
  if character = 'Σ' then [lowerSigma before after] else lowerChar character

theorem lowerAfter_cons (before : List Char) (character : Char) (after : List Char) :
    lowerAfter before (character :: after) =
      lowerForm before character after ++ lowerAfter (character :: before) after :=
  rfl

theorem isLowerForm_lowerForm (before : List Char) (character : Char) (after : List Char) :
    IsLowerForm character (lowerForm before character after) := by
  unfold lowerForm
  split
  · next sigma =>
    rw [sigma]
    exact isLowerForm_lowerSigma before after
  · next notSigma => exact isLowerForm_lowerChar notSigma

/-! ### A text in lower case stays as it is -/

theorem isLowered_of_mem_lowerAfter {before characters : List Char} {character : Char}
    (member : character ∈ lowerAfter before characters) : IsLowered character := by
  induction characters generalizing before with
  | nil => cases member
  | cons first rest inductionHypothesis =>
    rw [lowerAfter_cons, List.mem_append] at member
    rcases member with inForm | inRest
    · exact (isLowerForm_lowerForm before first rest).lowered character inForm
    · exact inductionHypothesis inRest

theorem lowerAfter_eq_self {before characters : List Char}
    (lowered : ∀ character ∈ characters, IsLowered character) :
    lowerAfter before characters = characters := by
  induction characters generalizing before with
  | nil => rfl
  | cons first rest inductionHypothesis =>
    obtain ⟨fixed, notSigma⟩ := lowered first List.mem_cons_self
    rw [lowerAfter_cons, lowerForm, if_neg notSigma, fixed, List.singleton_append,
      inductionHypothesis fun character member => lowered character (List.mem_cons_of_mem _ member)]

theorem lower_lower (text : String) : lower (lower text) = lower text := by
  unfold lower
  rw [String.toList_ofList, lowerAfter_eq_self fun _ member => isLowered_of_mem_lowerAfter member]

/-! ### Texts in lower case that differ in case -/

/-- Only the capital letters of ASCII have another character for a small letter. -/
theorem toLower_of_not_capital {character : Char}
    (other : ¬(65 ≤ character.toNat ∧ character.toNat ≤ 90)) : character.toLower = character := by
  unfold Char.toLower
  split
  · next upper =>
    exact absurd ⟨UInt32.le_iff_toNat_le.1 upper.1, UInt32.le_iff_toNat_le.1 upper.2⟩ other
  · rfl

theorem IsLowered.toLower_eq {character : Char} (lowered : IsLowered character) :
    character.toLower = character := by
  by_cases small : character.toNat < 0x80
  · have fixed := lowered.1
    rw [lowerChar_ascii small] at fixed
    exact List.head_eq_of_cons_eq fixed
  · exact toLower_of_not_capital (by omega)

theorem isLowered_of_lower {text : String} (low : lower text = text) :
    ∀ character ∈ text.toList, IsLowered character := by
  have characters : lowerAfter [] text.toList = text.toList := by
    have same := congrArg String.toList low
    rwa [lower, String.toList_ofList] at same
  rw [← characters]
  exact fun character member => isLowered_of_mem_lowerAfter member

theorem foldAscii_of_lower {text : String} (low : lower text = text) :
    foldAscii text = text.toList := by
  have each : ∀ character ∈ text.toList, character.toLower = id character :=
    fun character member => (isLowered_of_lower low character member).toLower_eq
  rw [foldAscii, List.map_congr_left each, List.map_id]

/-- Texts in lower case that differ at most in case are the same. -/
theorem eq_of_sameAsciiCase {left right : String} (lowLeft : lower left = left)
    (lowRight : lower right = right) (same : sameAsciiCase left right = true) : left = right := by
  have folded := sameAsciiCase_iff.1 same
  rw [foldAscii_of_lower lowLeft, foldAscii_of_lower lowRight] at folded
  exact String.toList_inj.1 folded

/-! ### A trimmed text in lower case is trimmed -/

/-- Whether neither the first nor the last character is a blank. -/
def IsTrimmed (characters : List Char) : Prop :=
  (∀ character ∈ characters.head?, isBlank character = false) ∧
    ∀ character ∈ characters.getLast?, isBlank character = false

theorem dropWhile_isBlank_eq_self {characters : List Char}
    (ink : ∀ character ∈ characters.head?, isBlank character = false) :
    characters.dropWhile isBlank = characters := by
  cases characters with
  | nil => rfl
  | cons first rest => rw [List.dropWhile_cons_of_neg (by rw [ink first rfl]; decide)]

theorem isBlank_head?_dropWhile (characters : List Char) :
    ∀ character ∈ (characters.dropWhile isBlank).head?, isBlank character = false := by
  intro character first
  have ink := List.head?_dropWhile_not isBlank characters
  rw [Option.mem_def.1 first] at ink
  exact ink

theorem trimChars_eq_self {characters : List Char} (trimmed : IsTrimmed characters) :
    trimChars characters = characters := by
  have ending : ∀ character ∈ characters.reverse.head?, isBlank character = false := by
    rw [List.head?_reverse]
    exact trimmed.2
  unfold trimChars
  rw [dropWhile_isBlank_eq_self trimmed.1, dropWhile_isBlank_eq_self ending, List.reverse_reverse]

theorem isTrimmed_trimChars (characters : List Char) : IsTrimmed (trimChars characters) := by
  unfold trimChars
  constructor
  · -- The last blanks are dropped from a text that already begins with ink, and it keeps its
    -- beginning as long as anything is left of it.
    intro character first
    obtain ⟨blanks, whole⟩ :=
      List.dropWhile_suffix (l := (characters.dropWhile isBlank).reverse) isBlank
    rw [List.head?_reverse] at first
    refine isBlank_head?_dropWhile characters character ?_
    rw [← List.getLast?_reverse, ← whole, List.getLast?_append, Option.mem_def.1 first]
    rfl
  · rw [List.getLast?_reverse]
    exact isBlank_head?_dropWhile _

theorem lowerAfter_ne_nil {before : List Char} {character : Char} {after : List Char} :
    lowerAfter before (character :: after) ≠ [] := by
  rw [lowerAfter_cons]
  exact List.append_ne_nil_of_left_ne_nil (isLowerForm_lowerForm ..).nonempty _

theorem isBlank_getLast?_lowerAfter {before characters : List Char}
    (ink : ∀ character ∈ characters.getLast?, isBlank character = false) :
    ∀ character ∈ (lowerAfter before characters).getLast?, isBlank character = false := by
  induction characters generalizing before with
  | nil => simp [lowerAfter]
  | cons first rest inductionHypothesis =>
    intro character last
    rw [lowerAfter_cons] at last
    cases rest with
    | nil =>
      rw [lowerAfter, List.append_nil] at last
      exact (isLowerForm_lowerForm before first []).blank (ink first rfl) character
        (List.mem_of_getLast? last)
    | cons second others =>
      rw [List.getLast?_append_of_ne_nil _ lowerAfter_ne_nil] at last
      exact inductionHypothesis ink character last

theorem isTrimmed_lowerAfter {before characters : List Char} (trimmed : IsTrimmed characters) :
    IsTrimmed (lowerAfter before characters) := by
  refine ⟨?_, isBlank_getLast?_lowerAfter trimmed.2⟩
  cases characters with
  | nil => simp [lowerAfter]
  | cons first rest =>
    intro character start
    have form := isLowerForm_lowerForm before first rest
    rw [lowerAfter_cons, List.head?_append_of_ne_nil _ form.nonempty] at start
    exact form.blank (trimmed.1 first rfl) character (List.mem_of_head? start)

/-- The normal form of a name is its own normal form. -/
@[simp] theorem normalize_normalize (name : String) :
    normalize (normalize name) = normalize name := by
  have trimmed : trim (lower (trim name)) = lower (trim name) := by
    unfold trim lower
    rw [String.toList_ofList, String.toList_ofList,
      trimChars_eq_self (isTrimmed_lowerAfter (isTrimmed_trimChars _))]
  unfold normalize
  rw [trimmed, lower_lower]

/-- The normal form of a name in lower case is the name without the blanks around it. -/
theorem normalize_of_lower {name : String} (low : lower name = name) :
    normalize name = trim name := by
  have fewer : trimChars name.toList ⊆ name.toList := by
    intro character member
    have inFront := (List.dropWhile_sublist _).subset (List.mem_reverse.1 member)
    exact (List.dropWhile_sublist _).subset (List.mem_reverse.1 inFront)
  unfold normalize lower trim
  rw [String.toList_ofList, lowerAfter_eq_self fun character member =>
    isLowered_of_lower low character (fewer member)]

/-- A text of blanks alone has nothing left when it is trimmed. -/
theorem trim_of_isBlankText {text : String} (blank : isBlankText text = true) : trim text = "" := by
  have nothing : text.toList.dropWhile isBlank = [] := by
    rw [List.dropWhile_eq_nil_iff]
    exact List.all_eq_true.1 blank
  rw [trim, trimChars, nothing]
  rfl

/-- A normal form other than the empty text is not blank. -/
theorem isBlankText_normalize {name : String} (nonempty : normalize name ≠ "") :
    isBlankText (normalize name) = false := by
  rw [Bool.eq_false_iff]
  intro blank
  apply nonempty
  rw [← normalize_normalize, normalize, trim_of_isBlankText blank]
  rfl

/-! ### Texts that differ in the case of A to Z -/

/-- What is asked of a character when it is trimmed and lower-cased is the same of a capital letter
of ASCII and of the small one. -/
theorem toLower_alike (character : Char) :
    isBlank character.toLower = isBlank character ∧
      isCased character.toLower = isCased character ∧
      isCaseIgnorable character.toLower = isCaseIgnorable character ∧
      lowerChar character.toLower = lowerChar character ∧
      (character.toLower = 'Σ' ↔ character = 'Σ') := by
  have capitals : ∀ index < 26,
      isBlank (Char.ofNat (65 + index)).toLower = isBlank (Char.ofNat (65 + index)) ∧
        isCased (Char.ofNat (65 + index)).toLower = isCased (Char.ofNat (65 + index)) ∧
        isCaseIgnorable (Char.ofNat (65 + index)).toLower =
          isCaseIgnorable (Char.ofNat (65 + index)) ∧
        lowerChar (Char.ofNat (65 + index)).toLower = lowerChar (Char.ofNat (65 + index)) ∧
        ((Char.ofNat (65 + index)).toLower = 'Σ' ↔ Char.ofNat (65 + index) = 'Σ') := by
    decide +kernel
  by_cases capital : 65 ≤ character.toNat ∧ character.toNat ≤ 90
  · have each := capitals (character.toNat - 65) (by omega)
    rwa [Nat.add_sub_cancel' capital.1, Char.ofNat_toNat] at each
  · rw [toLower_of_not_capital capital]
    exact ⟨rfl, rfl, rfl, rfl, Iff.rfl⟩

theorem dropWhile_map_toLower {property : Char → Bool}
    (alike : ∀ character : Char, property character.toLower = property character)
    (characters : List Char) : (characters.map Char.toLower).dropWhile property =
      (characters.dropWhile property).map Char.toLower := by
  rw [List.dropWhile_map]
  exact congrArg _ (congrArg (List.dropWhile · characters) (funext alike))

theorem trimChars_map_toLower (characters : List Char) :
    trimChars (characters.map Char.toLower) = (trimChars characters).map Char.toLower := by
  have alike := fun character => (toLower_alike character).1
  unfold trimChars
  rw [dropWhile_map_toLower alike, ← List.map_reverse, dropWhile_map_toLower alike,
    List.map_reverse]

theorem meetsCased_map_toLower (characters : List Char) :
    meetsCased (characters.map Char.toLower) = meetsCased characters := by
  unfold meetsCased
  rw [dropWhile_map_toLower fun character => (toLower_alike character).2.2.1]
  cases characters.dropWhile isCaseIgnorable with
  | nil => rfl
  | cons first rest => exact (toLower_alike first).2.1

theorem lowerAfter_map_toLower (before characters : List Char) :
    lowerAfter (before.map Char.toLower) (characters.map Char.toLower) =
      lowerAfter before characters := by
  induction characters generalizing before with
  | nil => rfl
  | cons first rest inductionHypothesis =>
    obtain ⟨-, -, -, form, sigma⟩ := toLower_alike first
    have same : lowerForm (before.map Char.toLower) first.toLower (rest.map Char.toLower) =
        lowerForm before first rest := by
      unfold lowerForm lowerSigma
      rw [meetsCased_map_toLower, meetsCased_map_toLower, form]
      exact if_congr sigma rfl rfl
    rw [List.map_cons, lowerAfter_cons, lowerAfter_cons, same, ← List.map_cons,
      inductionHypothesis]

/-- Texts that differ at most in the case of A to Z have one normal form. -/
theorem normalize_eq_of_sameAsciiCase {left right : String}
    (same : sameAsciiCase left right = true) : normalize left = normalize right := by
  have folded : ∀ text : String,
      normalize text = String.ofList (lowerAfter [] (trimChars (foldAscii text))) := by
    intro text
    unfold normalize lower trim foldAscii
    rw [String.toList_ofList, trimChars_map_toLower, ← lowerAfter_map_toLower [], List.map_nil]
  rw [folded, folded, sameAsciiCase_iff.1 same]

end Entitlement.Text
