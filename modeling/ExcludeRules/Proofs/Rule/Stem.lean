/-
The stem of a rule.

A text has a stem unless it is an include or nothing is left of it once its marker
is removed.  A slash behind a text is a slash behind its stem, and makes a rule
that ends in none one for directories.  Main statements:
  * `ofText_eq_ok_iff` : which texts have which stem;
  * `ofText_eq_ok_iff_cut` : which texts have one at all;
  * `ofText_slashed` : the stem of a text with a slash behind it;
  * `slashed_body`, `slashed_directoryOnly` : what that slash does;
  * `ofText_of_no_slash` : a text without any slash.
-/
import ExcludeRules.Rule.Basic

namespace ExcludeRules.Rule.Stem

/-- A text without its marker. -/
def unmarked (text : List Char) : List Char :=
  if ['-', ' '].isPrefixOf text then text.drop 2 else text

/-- The stem with its anchor in front. -/
def withAnchor (stem : Stem) : List Char :=
  if stem.anchored then '/' :: stem.rest else stem.rest

/-- Without an anchor something is left, and it does not begin like an anchor. -/
def IsStem (stem : Stem) : Prop :=
  stem.anchored = false → ∃ c rest, stem.rest = c :: rest ∧ c ≠ '/'

theorem ofText_eq_ok_iff {text : List Char} {stem : Stem} :
    ofText text = .ok stem ↔
      unmarked text = stem.withAnchor ∧ ['+', ' '].isPrefixOf (unmarked text) = false ∧
        stem.IsStem := by
  have hrule : (if ['-', ' '].isPrefixOf text then text.drop 2 else text) = unmarked text := rfl
  unfold ofText
  rw [hrule]
  dsimp only
  generalize unmarked text = rule
  constructor
  · intro h
    by_cases hplus : ['+', ' '].isPrefixOf rule = true
    · rw [if_pos hplus] at h
      cases h
    · rw [if_neg hplus] at h
      split at h
      case h_1 => cases h
      case h_2 rest =>
        cases h
        exact ⟨rfl, Bool.eq_false_iff.mpr hplus, fun hfree => by cases hfree⟩
      case h_3 hne hslash =>
        cases h
        refine ⟨rfl, Bool.eq_false_iff.mpr hplus, fun _ => ?_⟩
        obtain ⟨c, rest, rfl⟩ := List.exists_cons_of_ne_nil hne
        exact ⟨c, rest, rfl, fun hc => hslash rest (hc ▸ rfl)⟩
  · rintro ⟨rfl, hplus, hstem⟩
    rw [if_neg (Bool.eq_false_iff.mp hplus)]
    obtain ⟨rest, anchored⟩ := stem
    cases anchored with
    | true => rfl
    | false =>
      obtain ⟨c, tail, hrest, hc⟩ := hstem rfl
      obtain rfl : rest = c :: tail := hrest
      simp [withAnchor, hc]

/-- What is left of a text, whether it is a rule or not, without its marker and its anchor. -/
def cut (text : List Char) : Stem :=
  match unmarked text with
  | '/' :: rest => ⟨rest, true⟩
  | rest => ⟨rest, false⟩

theorem withAnchor_cut (text : List Char) : (cut text).withAnchor = unmarked text := by
  unfold cut
  split
  case h_1 rest heq => exact heq.symm
  case h_2 => rfl

/-- A text has a stem if it is no include and something is left behind its marker. -/
theorem ofText_eq_ok_iff_cut {text : List Char} {stem : Stem} :
    ofText text = .ok stem ↔
      ['+', ' '].isPrefixOf (unmarked text) = false ∧ unmarked text ≠ [] ∧ stem = cut text := by
  rw [ofText_eq_ok_iff]
  constructor
  · rintro ⟨hrule, hplus, hstem⟩
    obtain ⟨rest, anchored⟩ := stem
    refine ⟨hplus, ?_, ?_⟩
    · rw [hrule, withAnchor]
      cases anchored with
      | true => simp
      | false =>
        obtain ⟨c, tail, hrest, -⟩ := hstem rfl
        obtain rfl : rest = c :: tail := hrest
        simp
    · rw [cut, hrule, withAnchor]
      cases anchored with
      | true => rfl
      | false =>
        obtain ⟨c, tail, hrest, hc⟩ := hstem rfl
        obtain rfl : rest = c :: tail := hrest
        simp [hc]
  · rintro ⟨hplus, hne, rfl⟩
    refine ⟨(withAnchor_cut text).symm, hplus, fun hfree => ?_⟩
    unfold cut at hfree ⊢
    split at hfree
    case h_1 => cases hfree
    case h_2 hslash =>
      obtain ⟨c, rest, hrule⟩ := List.exists_cons_of_ne_nil hne
      refine ⟨c, rest, ?_, ?_⟩
      · simp [hrule]
      · rintro rfl
        exact hslash rest hrule

theorem length_body_le (stem : Stem) : stem.body.length ≤ stem.rest.length := by
  unfold body
  split
  · rw [List.length_dropLast]
    exact Nat.sub_le ..
  · exact Nat.le_refl _

theorem length_body_cut_le (text : List Char) : (cut text).body.length ≤ text.length := by
  have hrest : (cut text).rest.length ≤ (cut text).withAnchor.length := by
    unfold withAnchor
    split <;> simp
  have hunmarked : (unmarked text).length ≤ text.length := by
    unfold unmarked
    split
    · rw [List.length_drop]
      exact Nat.sub_le ..
    · exact Nat.le_refl _
  rw [withAnchor_cut] at hrest
  exact Nat.le_trans (length_body_le _) (Nat.le_trans hrest hunmarked)

/-- What stands behind the body: the slash that makes the rule one for directories. -/
def slash (stem : Stem) : List Char := if stem.directoryOnly then ['/'] else []

theorem body_append_slash (stem : Stem) : stem.body ++ stem.slash = stem.rest := by
  unfold body slash
  by_cases hdir : stem.directoryOnly = true
  · rw [if_pos hdir, if_pos hdir]
    have hlast : stem.rest.getLast? = some '/' := by
      rw [← List.head?_reverse]
      unfold directoryOnly endsInOneSlash at hdir
      split at hdir
      case h_1 => cases hdir
      case h_2 hrev =>
        rw [hrev]
        rfl
      case h_3 => cases hdir
    obtain ⟨front, hfront⟩ := List.getLast?_eq_some_iff.mp hlast
    rw [hfront, List.dropLast_concat]
  · rw [if_neg hdir, if_neg hdir, List.append_nil]

/-- A text ends in what is left of it without its marker and its anchor. -/
theorem rest_cut_suffix (text : List Char) : (cut text).rest <:+ text := by
  have hrest : (cut text).rest <:+ unmarked text := by
    rw [← withAnchor_cut, withAnchor]
    split
    · exact List.suffix_cons _ _
    · exact List.suffix_refl _
  refine hrest.trans ?_
  unfold unmarked
  split
  · exact List.drop_suffix 2 text
  · exact List.suffix_refl text

/-- What a text ends in, its stem ends in, unless the text is an anchor only. -/
theorem getLast?_of_ofText {text : List Char} {stem : Stem} (h : ofText text = .ok stem)
    (htext : text.getLast? ≠ some '/') :
    stem.rest ≠ [] ∧ stem.rest.getLast? ≠ some '/' := by
  obtain ⟨hrule, -, hstem⟩ := ofText_eq_ok_iff.mp h
  have hlast : (unmarked text).getLast? ≠ some '/' := by
    unfold unmarked
    split
    · rw [List.getLast?_drop]
      split
      · simp
      · exact htext
    · exact htext
  -- an anchor alone is a slash, and ends in one
  rw [hrule, withAnchor] at hlast
  by_cases hanchor : stem.anchored = true
  · rw [if_pos hanchor, List.getLast?_cons] at hlast
    cases hrest : stem.rest.getLast? with
    | none =>
      rw [hrest] at hlast
      exact absurd rfl hlast
    | some c =>
      rw [hrest] at hlast
      refine ⟨?_, hlast⟩
      rintro hnil
      rw [hnil] at hrest
      cases hrest
  · obtain ⟨c, rest, hrest, -⟩ := hstem (Bool.eq_false_iff.mpr hanchor)
    rw [if_neg hanchor] at hlast
    exact ⟨hrest ▸ List.cons_ne_nil c rest, hlast⟩

/-! ### A slash behind a rule -/

/-- The stem with a slash behind it. -/
def slashed (stem : Stem) : Stem := ⟨stem.rest ++ ['/'], stem.anchored⟩

theorem isPrefixOf_slashed (mark : Char) (text : List Char) :
    [mark, ' '].isPrefixOf (text ++ ['/']) = [mark, ' '].isPrefixOf text := by
  match text with
  | [] => simp [List.isPrefixOf]
  | [c] => simp [List.isPrefixOf]
  | c :: d :: rest => simp [List.isPrefixOf]

theorem unmarked_slashed (text : List Char) :
    unmarked (text ++ ['/']) = unmarked text ++ ['/'] := by
  unfold unmarked
  rw [isPrefixOf_slashed]
  by_cases hmarker : ['-', ' '].isPrefixOf text = true
  · obtain ⟨rest, rfl⟩ := List.isPrefixOf_iff_prefix.mp hmarker
    rw [if_pos hmarker, if_pos hmarker]
    rfl
  · rw [if_neg hmarker, if_neg hmarker]

theorem ofText_slashed {text : List Char} {stem : Stem} (h : ofText text = .ok stem) :
    ofText (text ++ ['/']) = .ok stem.slashed := by
  obtain ⟨hrule, hplus, hstem⟩ := ofText_eq_ok_iff.mp h
  refine ofText_eq_ok_iff.mpr ⟨?_, ?_, ?_⟩
  · rw [unmarked_slashed, hrule]
    unfold withAnchor slashed
    split <;> rfl
  · rw [unmarked_slashed, isPrefixOf_slashed, hplus]
  · intro hfree
    obtain ⟨c, rest, hrest, hc⟩ := hstem hfree
    exact ⟨c, rest ++ ['/'], by rw [slashed, hrest]; rfl, hc⟩

theorem endsInOneSlash_eq_false {text : List Char} (h : text.getLast? ≠ some '/') :
    endsInOneSlash text = false := by
  rw [← List.head?_reverse] at h
  unfold endsInOneSlash
  cases hrev : text.reverse with
  | nil => rfl
  | cons c rest =>
    have hc : c ≠ '/' := by simpa [hrev] using h
    split <;> simp_all

theorem endsInOneSlash_append {text : List Char} (hne : text ≠ [])
    (h : text.getLast? ≠ some '/') : endsInOneSlash (text ++ ['/']) = true := by
  rw [← List.head?_reverse] at h
  unfold endsInOneSlash
  rw [List.reverse_append]
  cases hrev : text.reverse with
  | nil => exact absurd (List.reverse_eq_nil_iff.mp hrev) hne
  | cons c rest =>
    have hc : c ≠ '/' := by simpa [hrev] using h
    simp only [List.reverse_singleton, List.singleton_append]
    split <;> simp_all

variable {stem : Stem}

theorem directoryOnly_eq_false (hlast : stem.rest.getLast? ≠ some '/') :
    stem.directoryOnly = false :=
  endsInOneSlash_eq_false hlast

theorem slashed_directoryOnly (hne : stem.rest ≠ []) (hlast : stem.rest.getLast? ≠ some '/') :
    stem.slashed.directoryOnly = true :=
  endsInOneSlash_append hne hlast

theorem slashed_body (hne : stem.rest ≠ []) (hlast : stem.rest.getLast? ≠ some '/') :
    stem.slashed.body = stem.body := by
  rw [body, body, slashed_directoryOnly hne hlast, directoryOnly_eq_false hlast, slashed]
  simp

/-- A text that names no slash is its own body, once the marker is removed. -/
theorem ofText_of_no_slash {text : List Char} (hstem : ofText text = .ok stem)
    (hslash : '/' ∉ unmarked text) :
    stem.anchored = false ∧ stem.directoryOnly = false ∧ stem.body = unmarked text := by
  obtain ⟨htext, -, -⟩ := ofText_eq_ok_iff.mp hstem
  rw [htext, withAnchor] at hslash
  cases hanchor : stem.anchored with
  | true => simp [hanchor] at hslash
  | false =>
    have hrest : '/' ∉ stem.rest := by simpa [hanchor] using hslash
    have hfile : stem.directoryOnly = false :=
      directoryOnly_eq_false fun hlast => hrest (List.mem_of_getLast? hlast)
    refine ⟨rfl, hfile, ?_⟩
    rw [htext, withAnchor, body, hfile, hanchor]
    rfl

end ExcludeRules.Rule.Stem
