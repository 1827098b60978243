/-
Clearing a source takes away all that was ever done under its name.

A change reads and writes no layer but the one it is about: what it makes of a layer
depends on that layer alone.  So settings that differ in one layer only still do so
after the same changes, and changes that are about that layer can be left out of one
of two histories.  Main statements:
  * `document_after_of_isAbout`, `document_after_of_not_isAbout` : one change, layer by layer;
  * `AgreeBut.afterAll_others` : two histories, one without the changes to a layer;
  * `clear_erases_source` : what is left when that layer is cleared.
-/
import ExcludeRules.Proofs.Outcome
import ExcludeRules.Settings.Change
import ExcludeRules.Yaml.Value

namespace ExcludeRules

namespace Settings

namespace Change

/-- What is left of a layer that the change is about; a refusal leaves it as it is. -/
def effect (reader : Yaml.Reader) (layer : Option Document) : Change → Option Document
  | set key new _ =>
    match (layer.getD .empty).write new (parts key) with
    | .ok d => some d
    | .error _ => layer
  | loadMapping entries shared _ => some ⟨.map entries, shared⟩
  | loadFile disk homes name _ =>
    match readFile reader disk homes name with
    | .ok d => some d
    | .error _ => layer
  | clear _ => none

/-- The change is about a layer: it names its source, or clears all but the defaults. -/
def IsAbout (source : Source) : Change → Prop
  | clear cleared => source ≠ .defaults ∧ (cleared = none ∨ cleared = some source)
  | change => change.source? = some source

/-- A change that names one source is about no other layer. -/
theorem source?_ne_of_isAbout {source other : Source} {change : Change} (h : other ≠ source)
    (hsource : change.source? = some source) : ¬ change.IsAbout other := by
  intro habout
  cases change with
  | clear cleared =>
    obtain rfl : cleared = some source := hsource
    obtain ⟨-, hnone | hsome⟩ := habout
    · cases hnone
    · exact h (Option.some.inj hsome).symm
  | _ => exact h (Option.some.inj (Eq.trans (Eq.symm habout) hsource))

end Change

variable {reader : Yaml.Reader} {settings other : Settings} {source : Source} {change : Change}

/-! ### One change -/

/-- What a change makes of a layer depends on that layer alone. -/
theorem document_after_of_isAbout (h : change.IsAbout source) :
    (settings.after reader change).document source =
      change.effect reader (settings.document source) := by
  cases change with
  | set key new named =>
    obtain rfl : named = source := Option.some.inj h
    cases hwrite : ((settings.document named).getD .empty).write new (parts key) with
    | ok d =>
      have hok : (Change.set key new named).apply reader settings =
          .ok (settings.setDocument named (some d)) := by
        rw [Change.apply, Settings.set, hwrite]
        rfl
      rw [after_of_ok hok, document_setDocument_self, Change.effect, hwrite]
    | error o =>
      -- a refusal leaves all layers as they are, and that is what the effect says too
      have herror : (Change.set key new named).apply reader settings = .error (.obstacle o) := by
        rw [Change.apply, Settings.set, hwrite]
        rfl
      rw [after_of_error herror, Change.effect, hwrite]
  | loadMapping entries shared named =>
    obtain rfl : named = source := Option.some.inj h
    exact document_setDocument_self settings named (some ⟨.map entries, shared⟩)
  | loadFile disk homes name named =>
    obtain rfl : named = source := Option.some.inj h
    cases hread : readFile reader disk homes name with
    | ok d =>
      have hok : (Change.loadFile disk homes name named).apply reader settings =
          .ok (settings.setDocument named (some d)) := by
        rw [Change.apply, load, hread]
        rfl
      rw [after_of_ok hok, document_setDocument_self, Change.effect, hread]
    | error e =>
      have herror : (Change.loadFile disk homes name named).apply reader settings =
          .error (.file e) := by
        rw [Change.apply, load, hread]
        rfl
      rw [after_of_error herror, Change.effect, hread]
  | clear cleared =>
    obtain ⟨hne, hcleared⟩ := h
    have hdocument := document_clear settings cleared source
    rw [if_neg] at hdocument
    · exact hdocument
    · -- clearing spares the defaults, and every layer but one if it names that one
      rintro (hdefaults | ⟨hnone, hsome⟩)
      · exact hne hdefaults
      · exact hcleared.elim hnone hsome

/-- A change leaves alone every layer that it is not about. -/
theorem document_after_of_not_isAbout (h : ¬ change.IsAbout source) :
    (settings.after reader change).document source = settings.document source := by
  cases happly : change.apply reader settings with
  | error e => rw [after_of_error happly]
  | ok changed =>
    rw [after_of_ok happly]
    cases change with
    | set key new named =>
      have hne : source ≠ named := fun heq => h (congrArg some heq.symm)
      exact document_set_of_ne hne (Outcome.mapError_eq_ok_iff.mp happly)
    | loadMapping entries shared named =>
      obtain rfl := Except.ok.inj happly
      have hne : source ≠ named := fun heq => h (congrArg some heq.symm)
      exact document_setDocument_of_ne hne settings (some ⟨.map entries, shared⟩)
    | loadFile disk homes name named =>
      have hne : source ≠ named := fun heq => h (congrArg some heq.symm)
      exact document_load_of_ne hne (Outcome.mapError_eq_ok_iff.mp happly)
    | clear cleared =>
      obtain rfl := Except.ok.inj happly
      rw [document_clear, if_pos]
      by_cases hdefaults : source = .defaults
      · exact .inl hdefaults
      · exact .inr (not_or.mp fun hcleared => h ⟨hdefaults, hcleared⟩)

/-! ### Two histories -/

/-- The settings have the same layers, that of one source apart. -/
def AgreeBut (source : Source) (settings other : Settings) : Prop :=
  ∀ s, s ≠ source → settings.document s = other.document s

/-- The same change keeps the agreement. -/
theorem AgreeBut.after (h : AgreeBut source settings other) (change : Change) :
    AgreeBut source (settings.after reader change) (other.after reader change) := by
  intro s hs
  by_cases habout : change.IsAbout s
  · rw [document_after_of_isAbout habout, document_after_of_isAbout habout, h s hs]
  · rw [document_after_of_not_isAbout habout, document_after_of_not_isAbout habout, h s hs]

/-- So does a change to the layer in question, made on one side only. -/
theorem AgreeBut.after_left (h : AgreeBut source settings other)
    (hsource : change.source? = some source) :
    AgreeBut source (settings.after reader change) other := by
  intro s hs
  rw [document_after_of_not_isAbout (Change.source?_ne_of_isAbout hs hsource), h s hs]

/-- The changes that name other sources, or none. -/
def others (source : Source) (changes : List Change) : List Change :=
  changes.filter fun change => change.source? ≠ some source

/-- All the changes on one side, and those of the other sources on the other. -/
theorem AgreeBut.afterAll_others (h : AgreeBut source settings other) (changes : List Change) :
    AgreeBut source (settings.afterAll reader changes)
      (other.afterAll reader (others source changes)) := by
  induction changes generalizing settings other with
  | nil => exact h
  | cons change changes ih =>
    by_cases hsource : change.source? = some source
    · have hout : others source (change :: changes) = others source changes :=
        List.filter_cons_of_neg (by simpa using hsource)
      rw [hout]
      exact ih (h.after_left hsource)
    · have hin : others source (change :: changes) = change :: others source changes :=
        List.filter_cons_of_pos (by simpa using hsource)
      rw [hin]
      exact ih (h.after change)

/-- Once the layer in question is cleared, nothing tells the settings apart. -/
theorem AgreeBut.clear_eq (h : AgreeBut source settings other) (hsource : source ≠ .defaults) :
    settings.clear (some source) = other.clear (some source) := by
  have hdocument :
      (settings.clear (some source)).document = (other.clear (some source)).document := by
    funext s
    rw [document_clear, document_clear]
    by_cases hs : s = source
    · subst hs
      simp [hsource]
    · rw [h s hs]
  exact congrArg Settings.mk hdocument

/-- **Clearing a source takes away what was done under its name.**  After any changes,
some of which may fail, and the clearing of a source other than the defaults, every
look-up and the merger give what they give if no change naming that source was made. -/
theorem clear_erases_source (reader : Yaml.Reader) (hsource : source ≠ .defaults)
    (settings : Settings) (changes : List Change) :
    (∀ key default, ((settings.afterAll reader changes).clear (some source)).get key default =
      ((settings.afterAll reader (others source changes)).clear (some source)).get key default) ∧
    ((settings.afterAll reader changes).clear (some source)).merged? =
      ((settings.afterAll reader (others source changes)).clear (some source)).merged? := by
  have hagree : AgreeBut source settings settings := fun _ _ => rfl
  have hall : AgreeBut source (settings.afterAll reader changes)
      (settings.afterAll reader (others source changes)) := hagree.afterAll_others changes
  have heq := hall.clear_eq hsource
  exact ⟨fun key default => by rw [heq], by rw [heq]⟩

/-- A number that the user sets refuses what is put below it; the value set at run time
before it and the mapping loaded after it are gone. -/
theorem clear_erases_source_runtime :
    Source.runtime ≠ .defaults ∧
      ((initial.afterAll Yaml.read
        [.set "rules.root" (.plain (.text "/a")) .runtime, .set "rules" (.plain (.int 5)) .user,
          .set "rules.root" (.plain (.text "/b")) .user,
          .loadMapping [(.text "rules", .null)] [] .runtime]).clear (some .runtime)).get
        "rules" .null = .int 5 := by
  have hsource : Source.runtime ≠ .defaults := by decide
  have herased := clear_erases_source Yaml.read hsource initial
    [.set "rules.root" (.plain (.text "/a")) .runtime, .set "rules" (.plain (.int 5)) .user,
      .set "rules.root" (.plain (.text "/b")) .user,
      .loadMapping [(.text "rules", .null)] [] .runtime]
  exact ⟨hsource, (herased.1 "rules" .null).trans rfl⟩

end Settings

end ExcludeRules
