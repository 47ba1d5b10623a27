/-
This file proves that every privilege is in a normal form: a draft with all its fields can be made
into a privilege again, and that privilege is the same. A draft lower-cases names that it has found
storable, so what must be shown is that lower case takes nothing from a name that makes it storable:
it leaves some character that is not blank, and it spells no mark of an unused slot that was not
spelled, in some mixture of cases, before.
-/

import Entitlement.Privilege.Json
import Entitlement.Proofs.Paths

namespace Entitlement

namespace Text

/-! ### Blank texts in lower case -/

theorem exists_ink_lowerAfter {before characters : List Char}
    (ink : ∃ character ∈ characters, isBlank character = false) :
    ∃ character ∈ lowerAfter before characters, isBlank character = false := by
  induction characters generalizing before with
  | nil => exact nomatch ink
  | cons first rest inductionHypothesis =>
    simp only [lowerAfter_cons, List.mem_append]
    obtain ⟨character, member, notBlank⟩ := ink
    rcases List.mem_cons.1 member with rfl | inRest
    · have form := isLowerForm_lowerForm before character rest
      obtain ⟨other, isForm⟩ := List.exists_mem_of_ne_nil _ form.nonempty
      exact ⟨other, Or.inl isForm, form.blank notBlank other isForm⟩
    · obtain ⟨other, isForm, otherInk⟩ := inductionHypothesis ⟨character, inRest, notBlank⟩
      exact ⟨other, Or.inr isForm, otherInk⟩

theorem isBlankText_eq_false {text : String} :
    isBlankText text = false ↔ ∃ character ∈ text.toList, isBlank character = false := by
  simp [isBlankText]

/-- A text that is not blank is not blank in lower case either. -/
theorem isBlankText_lower {text : String} (ink : isBlankText text = false) :
    isBlankText (lower text) = false := by
  rw [isBlankText_eq_false] at ink ⊢
  rw [lower, String.toList_ofList]
  exact exists_ink_lowerAfter ink

/-! ### The mark of an unused slot in lower case -/

/-- Whether a code point is that of the underscore or of a letter from l to u in lower case, among
which are the letters of the mark. -/
def isMarkCode (code : Nat) : Bool :=
  Nat.beq code 0x5F || Nat.ble 0x6C code && Nat.ble code 0x75

theorem isMarkCode_iff {code : Nat} :
    isMarkCode code = true ↔ code = 0x5F ∨ (0x6C ≤ code ∧ code ≤ 0x75) := by
  simp [isMarkCode]

theorem isMarkCode_ofNat {code : Nat} (mark : isMarkCode (Char.ofNat code).toNat = true) :
    isMarkCode code = true := by
  by_cases valid : code.isValidChar
  · have number : (Char.ofNat code).toNat = code := by
      rw [Char.ofNat, dif_pos valid]
      rfl
    rwa [number] at mark
  · have number : (Char.ofNat code).toNat = 0 := by
      rw [Char.ofNat, dif_neg valid]
      rfl
    rw [number] at mark
    exact absurd mark (by decide)

/-- No character of a run has the lower-case form of a character of the mark. The only ASCII letter
that is the form of a character outside ASCII is k, which is that of the sign of the kelvin. -/
theorem caseRuns_leave_mark :
    (caseRuns.all fun run => run.leavesOut 0x5F 0x5F && run.leavesOut 0x6C 0x75) = true := by
  decide +kernel

theorem not_isMarkCode_of_run {run : CaseRun} {code : Nat} (member : run ∈ caseRuns)
    (held : run.holds code = true) : isMarkCode (run.lowered code) = false := by
  have apart := List.all_eq_true.1 caseRuns_leave_mark run member
  obtain ⟨least, greatest, -⟩ := CaseRun.holds_iff.1 held
  simp only [CaseRun.leavesOut, CaseRun.top, Bool.and_eq_true, Bool.or_eq_true,
    Nat.blt_eq] at apart
  rw [← Bool.not_eq_true, isMarkCode_iff, CaseRun.lowered]
  omega

/-- What becomes a character of the mark in lower case is an ASCII character. -/
theorem lowerForm_of_isMarkCode {before after : List Char} {character : Char}
    (marks : ∀ other ∈ lowerForm before character after, isMarkCode other.toNat = true) :
    lowerForm before character after = [character.toLower] := by
  unfold lowerForm at marks ⊢
  split at marks
  · exfalso
    have sigma := marks _ List.mem_cons_self
    revert sigma
    unfold lowerSigma
    split <;> decide
  · next notSigma =>
    rw [if_neg notSigma]
    by_cases small : character.toNat < 0x80
    · exact lowerChar_ascii small
    exfalso
    by_cases dotted : character = 'İ'
    · subst dotted
      exact absurd (marks 'i' (by decide)) (by decide)
    cases found : caseRuns.find? (·.holds character.toNat) with
    | none =>
      rw [lowerChar_of_find?_none small dotted found] at marks
      have mark := isMarkCode_iff.1 (marks character List.mem_cons_self)
      omega
    | some run =>
      rw [lowerChar, if_neg small, if_neg dotted, found] at marks
      have mark := isMarkCode_ofNat (marks _ List.mem_cons_self)
      have held := List.find?_some found
      rw [not_isMarkCode_of_run (List.mem_of_find?_eq_some found) held] at mark
      exact absurd mark (by decide)

theorem lowerAfter_of_isMarkCode {before characters : List Char}
    (marks : ∀ other ∈ lowerAfter before characters, isMarkCode other.toNat = true) :
    lowerAfter before characters = characters.map Char.toLower := by
  induction characters generalizing before with
  | nil => rfl
  | cons first rest inductionHypothesis =>
    simp only [lowerAfter_cons, List.forall_mem_append] at marks ⊢
    rw [lowerForm_of_isMarkCode marks.1, inductionHypothesis marks.2]
    rfl

/-- A text that is the mark in lower case was the mark in some mixture of cases. -/
theorem sameAsciiCase_unusedMark_of_lower {text : String}
    (same : sameAsciiCase (lower text) Step.unusedMark = true) :
    sameAsciiCase text Step.unusedMark = true := by
  rw [sameAsciiCase_iff, foldAscii_of_lower (lower_lower text)] at same
  rw [sameAsciiCase_iff, ← same]
  have marks : ∀ other ∈ foldAscii Step.unusedMark, isMarkCode other.toNat = true :=
    List.all_eq_true.1 (by decide)
  rw [← same, lower, String.toList_ofList] at marks
  rw [lower, String.toList_ofList, lowerAfter_of_isMarkCode marks, foldAscii]

end Text

/-! ### Storable names in lower case -/

theorem Step.isStorable_lowered {step : Step} (storable : step.isStorable = true) :
    step.lowered.isStorable = true := by
  simp only [isStorable, isStorableName, Bool.and_eq_true, Bool.not_eq_true',
    ← Bool.not_eq_true (Text.sameAsciiCase _ _)] at storable ⊢
  exact ⟨Text.isBlankText_lower storable.1,
    fun same => storable.2 (Text.sameAsciiCase_unusedMark_of_lower same)⟩

/-! ### Making a privilege -/

theorem PrivilegeDraft.checkSteps_eq_ok {steps checked : List Step} :
    checkSteps steps = .ok checked ↔
      steps = checked ∧ steps.length ≤ Step.maxDepth ∧ ∀ step ∈ steps, step.isStorable = true := by
  unfold checkSteps
  split
  · next deep => simp [Nat.not_le_of_lt deep]
  · next fits =>
    have shallow := Nat.le_of_not_lt fits
    split
    · next step found =>
      have unstorable : ¬∀ step ∈ steps, step.isStorable = true := by
        rw [← Step.find?_not_isStorable, found]
        simp
      simp [unstorable]
    · next found =>
      have storable := Step.find?_not_isStorable.1 found
      simpa [shallow] using fun _ => storable

namespace Privilege

/-- A privilege whose path can be stored and whose names, resource types apart, are in lower
case. -/
structure Normal (privilege : Privilege) : Prop where
  component : Text.lower privilege.component = privilege.component
  service : Text.lower privilege.service = privilege.service
  action : Text.lower privilege.action = privilege.action
  scope : Text.lower privilege.scope = privilege.scope
  shallow : privilege.steps.length ≤ Step.maxDepth
  storable : ∀ step ∈ privilege.steps, step.isStorable = true
  lowered : privilege.steps.map Step.lowered = privilege.steps

theorem normal_of_build {draft : PrivilegeDraft} {privilege : Privilege}
    (built : draft.build = .ok privilege) : privilege.Normal := by
  obtain ⟨component, -, built⟩ := bind_eq_ok.1 built
  obtain ⟨service, -, built⟩ := bind_eq_ok.1 built
  obtain ⟨action, -, built⟩ := bind_eq_ok.1 built
  obtain ⟨scope, -, built⟩ := bind_eq_ok.1 built
  obtain ⟨given, -, built⟩ := bind_eq_ok.1 built
  obtain ⟨steps, checked, built⟩ := bind_eq_ok.1 built
  obtain ⟨rfl, shallow, storable⟩ := PrivilegeDraft.checkSteps_eq_ok.1 checked
  obtain rfl := pure_eq_ok.1 built
  exact {
    component := Text.lower_lower component
    service := Text.lower_lower service
    action := Text.lower_lower action
    scope := Text.lower_lower scope
    shallow := by rwa [List.length_map]
    storable := List.forall_mem_map.2 fun step member =>
      Step.isStorable_lowered (storable step member)
    lowered := Step.map_lowered_map_lowered _ }

theorem Normal.withAction {privilege : Privilege} (normal : privilege.Normal) (action : String) :
    (privilege.withAction action).Normal :=
  { normal with action := Text.lower_lower action }

theorem Normal.build_toDraft {privilege : Privilege} (normal : privilege.Normal) :
    privilege.toDraft.build = .ok privilege := by
  have checked : PrivilegeDraft.checkSteps privilege.steps = .ok privilege.steps :=
    PrivilegeDraft.checkSteps_eq_ok.2 ⟨rfl, normal.shallow, normal.storable⟩
  show (PrivilegeDraft.checkSteps privilege.steps >>= _) = _
  rw [checked]
  show Except.ok (Privilege.mk _ _ _ _ _ _) = _
  rw [normal.component, normal.service, normal.action, normal.scope, normal.lowered]
  rfl

/-! ### The ways in which privileges come about -/

/-- A privilege that was made from a draft, read from a JSON value, or had its action replaced. A
draft may itself be that of a privilege, with some fields set anew. -/
inductive Made : Privilege → Prop where
  | built {draft : PrivilegeDraft} {privilege : Privilege} (built : draft.build = .ok privilege) :
    Made privilege
  | read {json : Json} {privilege : Privilege} (read : ofJson? json = some privilege) :
    Made privilege
  | withAction {privilege : Privilege} (made : Made privilege) (action : String) :
    Made (privilege.withAction action)

theorem Made.normal {privilege : Privilege} (made : Made privilege) : privilege.Normal := by
  induction made with
  | built built => exact normal_of_build built
  | @read json privilege read =>
    obtain ⟨draft, -, built⟩ := Option.bind_eq_some_iff.1 read
    cases result : draft.build with
    | error reason => rw [result] at built; exact nomatch built
    | ok made =>
      rw [result] at built
      obtain rfl := Option.some.inj built
      exact normal_of_build result
  | withAction _ action inductionHypothesis => exact inductionHypothesis.withAction action

/-- The draft of a privilege is made into that privilege again, name by name. -/
theorem Made.build_toDraft {privilege : Privilege} (made : Made privilege) :
    privilege.toDraft.build = .ok privilege :=
  made.normal.build_toDraft

end Privilege

end Entitlement
