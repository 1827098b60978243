/-
A check has paths.

A command of operands is read only if it has one: the two dashes in front of it do not
count, and once they are passed nothing else is read as them.  So what is run as a check
has at least one path.  Main statements:
  * `marked_ofTexts` : what stands in front of the two dashes and behind them;
  * `exists_operands_of_read` : operands of a command line that is read;
  * `paths_ne_nil` : the paths of a check.
-/
import ExcludeRules.CommandLine.Arguments
import ExcludeRules.Proofs.Outcome
import Mathlib.Data.List.TakeWhile

namespace ExcludeRules.CommandLine

variable {κ : Type}

/-! ### The two dashes -/

namespace Argument

/-- Only operands stand behind the two dashes, and no other argument has their text. -/
inductive Marked : List (Argument κ × String) → Prop
  | nil : Marked []
  | dashes (texts : List String) : Marked ((dashes, "--") :: texts.map fun t => (operand, t))
  | cons {a : Argument κ} {text : String} {rest : List (Argument κ × String)}
      (ha : a.isDashes = false) (htext : text ≠ "--") (h : Marked rest) :
      Marked ((a, text) :: rest)

variable {options : List (OptionSpec κ)} {args rest : List (Argument κ × String)}

theorem isDashes_of_ofText {text : String} {a : Argument κ} (h : ofText options text = .ok a) :
    a.isDashes = false := by
  simp only [ofText] at h
  split at h
  · cases h
    rfl
  split at h
  · cases h
    rfl
  split at h
  · cases h
    rfl
  split at h
  · cases h
    rfl
  split at h
  · cases h
    rfl
  · split at h
    · cases h
      rfl
    · cases h
      rfl
  · cases h

theorem marked_ofTexts {texts : List String} (h : ofTexts options texts = .ok args) :
    Marked args := by
  induction texts generalizing args with
  | nil =>
    cases h
    exact .nil
  | cons text texts ih =>
    rw [ofTexts] at h
    by_cases htext : text = "--"
    · rw [if_pos htext] at h
      cases h
      rw [htext]
      exact .dashes texts
    · rw [if_neg htext] at h
      obtain ⟨a, ha, h⟩ := Outcome.bind_eq_ok_iff.mp h
      obtain ⟨rest, hrest, h⟩ := Outcome.bind_eq_ok_iff.mp h
      cases h
      exact .cons (isDashes_of_ofText ha) htext (ih hrest)

/-- What follows the first option is marked as well. -/
theorem Marked.of_dropWhile (h : Marked args) {e : Argument κ × String}
    (hdrop : args.dropWhile (!·.1.isOption) = e :: rest) : Marked rest := by
  induction h with
  | nil => cases hdrop
  | dashes texts =>
    have hnil : (((Argument.dashes : Argument κ), "--") ::
        texts.map fun t => ((operand : Argument κ), t)).dropWhile (!·.1.isOption) = [] := by
      rw [List.dropWhile_eq_nil_iff]
      simp [isOption]
    rw [hnil] at hdrop
    cases hdrop
  | @cons a text rest' ha htext h ih =>
    by_cases ho : a.isOption = true
    · rw [List.dropWhile_cons_of_neg (by simp [ho])] at hdrop
      cases hdrop
      exact h
    · rw [List.dropWhile_cons_of_pos (by simp [ho])] at hdrop
      exact ih hdrop

/-- An operand that comes first may be taken away. -/
theorem Marked.of_operand {text : String} (h : Marked ((operand, text) :: rest)) :
    Marked rest := by
  cases h with
  | cons ha htext h => exact h

end Argument

open Argument

/-! ### Reading -/

section

variable {args : List (Argument κ × String)} {left : List String}

/-- Where operands are taken, there is one besides the two dashes. -/
theorem operandTexts_take_ne_nil (h : Marked args) (hcount : 0 < operandCount .some args) :
    operandTexts .some (args.take (operandCount .some args)) ≠ [] := by
  cases h with
  | nil => cases hcount
  | dashes texts =>
    cases texts with
    | nil => cases hcount
    | cons text texts =>
      have htwo : operandCount .some ((dashes, "--") ::
          (text :: texts).map fun t => ((operand : Argument κ), t)) =
          ((texts.map fun t => ((operand : Argument κ), t)).takeWhile
            (!·.1.isOption)).length + 1 + 1 := by
        simp [operandCount, isDashes, isOperand]
        omega
      rw [htwo]
      simp [operandTexts]
  | @cons a text rest ha htext h =>
    by_cases ho : a.isOperand = true
    · have hsucc : operandCount .some ((a, text) :: rest) =
          (rest.takeWhile (!·.1.isOption)).length + 1 := by
        simp [operandCount, ha, ho]
        omega
      rw [hsucc, List.take_succ_cons]
      simp [operandTexts, List.erase_cons_tail, htext]
    · simp [operandCount, ha, ho] at hcount

/-- Without an operand behind it, an option does not take the argument behind it. -/
theorem usesNext_of_readOption {options : List (OptionSpec κ)} {fuel : Nat} {o : OptionSpec κ}
    {long : Bool} {attached : Option Attached} {step : Step κ}
    (h : readOption options none fuel o long attached = .ok step) : step.usesNext = false := by
  induction fuel generalizing o long attached step with
  | zero =>
    cases h
    rfl
  | succ fuel ih =>
    cases attached with
    | none =>
      simp only [readOption] at h
      split at h
      · cases h
      · cases h
        rfl
    | some a =>
      simp only [readOption] at h
      split at h
      · cases h
        rfl
      split at h
      · cases h
      split at h
      · cases h
      split at h
      · cases h
        rfl
      · obtain ⟨step', hstep, h⟩ := Outcome.bind_eq_ok_iff.mp h
        cases h
        show step'.usesNext = false
        exact ih hstep

namespace Reading

variable {r : Reading κ} {settings : List (Setting κ)} {texts left : List String}

@[simp] theorem outcome_after : (r.after settings).outcome = r.outcome := rfl

@[simp] theorem settings_after : (r.after settings).settings = settings ++ r.settings := rfl

@[simp] theorem settings_leaving : (r.leaving texts).settings = r.settings := rfl

/-- Arguments that are left over in front do not make a reading succeed. -/
theorem exists_outcome_of_leaving (h : (r.leaving texts).outcome = .ok left) :
    ∃ left', r.outcome = .ok left' := by
  obtain ⟨left', hleft, -⟩ := Outcome.map_eq_ok_iff.mp h
  exact ⟨left', hleft⟩

end Reading

/-- Reading that succeeds while operands are still to come has come to some. -/
theorem exists_operands_of_readArguments {g : Grammar κ} (hg : g.operands = .some) {fuel : Nat}
    (hmarked : Marked args) (hfuel : args.length < fuel)
    (hok : (readArguments g fuel true args).outcome = .ok left) :
    ∃ texts, texts ≠ [] ∧ Setting.operands texts ∈ (readArguments g fuel true args).settings := by
  induction fuel generalizing args left with
  | zero => cases hfuel
  | succ fuel ih =>
    -- behind an option that is read, operands are still to come
    have hbehind {rest : List (Argument κ × String)} {texts left : List String}
        (hmarked : Marked rest) (hfuel : rest.length < fuel)
        (hok : ((readArguments g fuel true rest).leaving texts).outcome = .ok left) :
        ∃ texts, texts ≠ [] ∧
          Setting.operands texts ∈ (readArguments g fuel true rest).settings := by
      obtain ⟨left', hleft⟩ := Reading.exists_outcome_of_leaving hok
      exact ih hmarked hfuel hleft
    rw [readArguments, hg, if_pos rfl] at hok ⊢
    by_cases htake : (decide (0 < operandCount .some args) &&
        !args.head?.any (·.1.isOption)) = true
    · rw [if_pos htake]
      have hcount := of_decide_eq_true (Bool.and_eq_true_iff.mp htake).1
      exact ⟨_, operandTexts_take_ne_nil hmarked hcount, List.mem_cons_self⟩
    · rw [if_neg htake] at hok ⊢
      cases hdrop : args.dropWhile (!·.1.isOption) with
      | nil =>
        rw [hdrop] at hok
        cases hok
      | cons e rest =>
        have hrest : Marked rest := hmarked.of_dropWhile hdrop
        have hlength : rest.length < fuel := by
          have hle := List.length_dropWhile_le (!·.1.isOption) args
          rw [hdrop, List.length_cons] at hle
          omega
        rw [hdrop] at hok
        obtain ⟨a, text⟩ := e
        -- only an option stands here, known or not; the other two read like one not known
        cases a with
        | operand => exact hbehind hrest hlength hok
        | dashes => exact hbehind hrest hlength hok
        | unknown => exact hbehind hrest hlength hok
        | option o long attached =>
          dsimp only at hok ⊢
          split at hok
          · cases hok
          · rename_i step hstep
            -- the argument behind is a value only if it is an operand, hence not the dashes
            have hbehindValue : Marked (if step.usesNext = true then rest.drop 1 else rest) := by
              split at hstep
              · rw [List.drop_one, List.tail_cons]
                split
                · exact hrest.of_operand
                · exact hrest
              · rw [usesNext_of_readOption hstep]
                exact hrest
            have hlengthValue :
                (if step.usesNext = true then rest.drop 1 else rest).length < fuel := by
              split
              · rw [List.length_drop]
                omega
              · exact hlength
            rw [Reading.outcome_after] at hok
            obtain ⟨texts, htexts, hmem⟩ := hbehind hbehindValue hlengthValue hok
            rw [Reading.settings_after, Reading.settings_leaving]
            exact ⟨texts, htexts, List.mem_append_right _ hmem⟩

/-- A command that takes at least one operand is read only if it has one. -/
theorem exists_operands_of_read {g : Grammar κ} (hg : g.operands = .some) {texts : List String}
    (hok : (g.read texts).outcome = .ok left) :
    ∃ operands, operands ≠ [] ∧ Setting.operands operands ∈ (g.read texts).settings := by
  rw [Grammar.read] at hok ⊢
  cases hargs : ofTexts g.options texts with
  | error fault =>
    rw [hargs] at hok
    cases hok
  | ok args =>
    rw [hargs] at hok
    exact exists_operands_of_readArguments hg (marked_ofTexts hargs) (by omega) hok

end

/-! ### Checks -/

theorem operandsOf_ne_nil {settings : List (Setting Key)} {texts : List String}
    (htexts : texts ≠ []) (h : .operands texts ∈ settings) : operandsOf settings ≠ [] := by
  obtain ⟨text, htext⟩ := List.exists_mem_of_ne_nil texts htexts
  exact List.ne_nil_of_mem (List.mem_flatMap.mpr ⟨_, h, htext⟩)

theorem settle_eq_ok {p : Page} {texts left : List String} {settings : List (Setting Key)}
    (h : p.settle texts = .ok (settings, left)) :
    (p.grammar.read texts).settings = settings ∧ (p.grammar.read texts).outcome = .ok left := by
  simp only [Page.settle] at h
  split at h
  · cases h
  · split at h
    · cases h
    · rename_i left' hleft
      cases h
      exact ⟨rfl, hleft⟩

/-- A command that is not settled is not run. -/
theorem settle_ne_error_run {p : Page} {texts : List String} {a : Arguments} :
    p.settle texts ≠ .error (.run a) := by
  intro h
  simp only [Page.settle] at h
  split at h
  · cases h
  · split at h
    · cases h
    · cases h

/-- What is run has been settled as the command that its word chooses. -/
theorem exists_settle_of_run {texts : List String} {a : Arguments}
    (h : Request.ofTexts texts = .run a) :
    ∃ page rest settings left, Page.settle page rest = .ok (settings, left) ∧
      a.command = .ofSettings page settings := by
  simp only [Request.ofTexts] at h
  split at h
  · cases h
  split at h
  · split at h
    · cases h
    · cases h
  split at h
  · cases h
  split at h
  · rename_i hsettle
    rw [h] at hsettle
    exact absurd hsettle settle_ne_error_run
  · cases h
  · rename_i hsettle _
    split at h
    · cases h
      exact ⟨_, _, _, _, hsettle, rfl⟩
    · cases h

/-- A check has a path. -/
theorem paths_ne_nil {texts : List String} {a : Arguments} {options : CheckOptions}
    {paths : List String} (h : Request.ofTexts texts = .run a)
    (hcommand : a.command = .check options paths) : paths ≠ [] := by
  obtain ⟨page, rest, settings, left, hsettle, ha⟩ := exists_settle_of_run h
  obtain ⟨rfl, hok⟩ := settle_eq_ok hsettle
  rw [hcommand] at ha
  cases page with
  | program => cases ha
  | translate => cases ha
  | check =>
    cases ha
    obtain ⟨operands, hne, hmem⟩ := exists_operands_of_read rfl hok
    exact operandsOf_ne_nil hne hmem

end ExcludeRules.CommandLine
