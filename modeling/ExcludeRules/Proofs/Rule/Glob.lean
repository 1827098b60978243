/-
What a rule means as a glob.

The meaning of a body without bracket expressions, given on the text of the body
itself: no token is cut and no expression is built.  The text begins with an
element, which takes a stretch of the path, and the rest of the text takes the rest
of the path.  A run of stars is one element however long it is.  Main statements:
  * `contains_ranges` : the members of a class;
  * `IsNamed.ofName?_eq` : a class is found by its name in either case;
  * `readable_of_simple` : a body without bracket expressions has an element
    everywhere.
-/
import ExcludeRules.Proofs.Rule.Writing

namespace ExcludeRules.Rule

/-! ### Classes -/

namespace CharClass

/-- Whether a character is of a class; all classes are of ASCII characters. -/
def holds : CharClass → Char → Bool
  | alnum, c => c.isAlphanum
  | alpha, c => c.isAlpha
  | ascii, c => c.toNat < 128
  | blank, c => c = ' ' || c = '\t'
  | cntrl, c => c.toNat < 32 || c.toNat = 127
  | digit, c => c.isDigit
  | graph, c => 32 < c.toNat && c.toNat < 127
  | lower, c => c.isLower
  | print, c => 32 ≤ c.toNat && c.toNat < 127
  | punct, c => 32 < c.toNat && c.toNat < 127 && !c.isAlphanum
  | space, c => c = ' ' || 9 ≤ c.toNat && c.toNat ≤ 13
  | upper, c => c.isUpper
  | word, c => c.isAlphanum || c = '_'
  | xdigit, c => c.isDigit || 'a' ≤ c && c ≤ 'f' || 'A' ≤ c && c ≤ 'F'

/-- The name of a class, each letter of it capital or small. -/
def IsNamed (cls : CharClass) (name : List Char) : Prop :=
  name.map Char.toLower = cls.name.toList

theorem contains_ranges_of_lt (cls : CharClass) :
    ∀ n, n < 128 → (CharSet.ranges false cls.ranges).contains (Char.ofNat n) =
      cls.holds (Char.ofNat n) := by
  cases cls <;> decide +kernel

theorem not_le_of_lt {c d : Char} (hc : 128 ≤ c.toNat) (hd : d.toNat < 128) : ¬ c ≤ d := by
  intro h
  have hnat : c.toNat ≤ d.toNat := h
  omega

theorem isAlphanum_eq_false {c : Char} (hc : 128 ≤ c.toNat) :
    c.isUpper = false ∧ c.isLower = false ∧ c.isDigit = false := by
  have hle : ∀ d : Char, d.toNat < 128 → ¬ c.val ≤ d.val := fun d hd => not_le_of_lt hc hd
  refine ⟨?_, ?_, ?_⟩
  · exact decide_eq_false fun h => hle 'Z' (by decide) h.2
  · exact Bool.and_eq_false_iff.mpr (.inr (decide_eq_false (hle 'z' (by decide))))
  · exact Bool.and_eq_false_iff.mpr (.inr (decide_eq_false (hle '9' (by decide))))

theorem holds_eq_false (cls : CharClass) {c : Char} (hc : 128 ≤ c.toNat) :
    cls.holds c = false := by
  have hle : ∀ d : Char, d.toNat < 128 → ¬ c ≤ d := fun d hd => not_le_of_lt hc hd
  have hne : ∀ d : Char, d.toNat < 128 → c ≠ d := by
    rintro d hd rfl
    omega
  obtain ⟨hupper, hlower, hdigit⟩ := isAlphanum_eq_false hc
  have hletter : c.isAlpha = false := Bool.or_eq_false_iff.mpr ⟨hupper, hlower⟩
  have halnum : c.isAlphanum = false := Bool.or_eq_false_iff.mpr ⟨hletter, hdigit⟩
  cases cls with
  | alnum => exact halnum
  | alpha => exact hletter
  | ascii => simpa [holds] using hc
  | blank => simp [holds, hne]
  | cntrl => simp [holds]; omega
  | digit => exact hdigit
  | graph => simp [holds]; omega
  | lower => exact hlower
  | print => simp [holds]; omega
  | punct => simp [holds]; omega
  | space => simp [holds, hne]; omega
  | upper => exact hupper
  | word => simp [holds, halnum, hne]
  | xdigit => simp [holds, hdigit, hle]

theorem contains_ranges (cls : CharClass) (c : Char) :
    (CharSet.ranges false cls.ranges).contains c = cls.holds c := by
  by_cases hc : c.toNat < 128
  · have h := cls.contains_ranges_of_lt c.toNat hc
    rwa [Char.ofNat_toNat] at h
  · have hall : cls.ranges.all (fun r => r.2.toNat < 128) = true := by
      cases cls <;> decide
    have hbelow : ∀ r ∈ cls.ranges, r.2.toNat < 128 := by simpa using hall
    rw [cls.holds_eq_false (Nat.le_of_not_lt hc), CharSet.contains, Bool.bne_false,
      List.any_eq_false]
    intro r hr
    have hle := not_le_of_lt (Nat.le_of_not_lt hc) (hbelow r hr)
    simp [hle]

theorem IsNamed.lt {cls : CharClass} {name : List Char} (h : cls.IsNamed name) :
    ∀ c ∈ name, c.toNat < 128 := by
  intro c hc
  have hmem : c.toLower ∈ cls.name.toList := h ▸ List.mem_map_of_mem hc
  have hall : cls.name.toList.all (fun d => d.toNat < 128) = true := by
    cases cls <;> decide
  have hascii : ∀ d ∈ cls.name.toList, d.toNat < 128 := by simpa using hall
  by_cases hupper : c.isUpper = true
  · have hle : c ≤ 'Z' := (of_decide_eq_true hupper).2
    exact Nat.lt_of_le_of_lt hle (by decide)
  · have hsame : c.toLower = c := dif_neg fun h => hupper (decide_eq_true h)
    exact hascii c (hsame ▸ hmem)

theorem IsNamed.not_mem {cls : CharClass} {name : List Char} (h : cls.IsNamed name) :
    ']' ∉ name := by
  intro hc
  have hmem : ']' ∈ cls.name.toList := h ▸ List.mem_map_of_mem (f := Char.toLower) hc
  cases cls <;> exact absurd hmem (by decide)

theorem isNamed_name (cls : CharClass) : cls.IsNamed cls.name.toList := by
  cases cls <;> rfl

theorem lowerAfter_of_ascii {s : List Char} (h : ∀ c ∈ s, c.toNat < 128) (before : List Char) :
    Text.lowerAfter before s = s.map Char.toLower := by
  induction s generalizing before with
  | nil => rfl
  | cons c s ih =>
    obtain ⟨hc, hs⟩ := List.forall_mem_cons.mp h
    have hsigma : c ≠ 'Σ' := by
      rintro rfl
      exact absurd hc (by decide)
    rw [Text.lowerAfter, if_neg hsigma, Text.lowerChar_of_ascii hc, ih hs]
    rfl

theorem IsNamed.ofName?_eq {cls : CharClass} {name : List Char} (h : cls.IsNamed name) :
    ofName? name = some cls := by
  have hlower : ∀ {s}, cls.IsNamed s → Text.lower s = cls.name.toList := fun hs =>
    (lowerAfter_of_ascii hs.lt []).trans hs
  have hself := cls.ofName?_name
  rw [ofName?, hlower cls.isNamed_name] at hself
  rw [ofName?, hlower h, hself]

end CharClass

namespace Glob

/-! ### Elements -/

/-- What a stretch of a body asks of a stretch of the path. -/
inductive Element
  /-- Any text. -/
  | anything
  /-- Any text without a slash. -/
  | segment
  /-- One character that is not a slash. -/
  | single
  /-- One character of a class. -/
  | member (cls : CharClass)
  /-- This text. -/
  | literal (text : List Char)

def Element.Takes : Element → List Char → Prop
  | anything, _ => True
  | segment, text => '/' ∉ text
  | single, text => ∃ c, text = [c] ∧ c ≠ '/'
  | member cls, text => ∃ c, text = [c] ∧ cls.holds c = true
  | literal l, text => text = l

/-- The body begins with an element, and the rest is left; `escapes` says whether a
backslash escapes. -/
inductive Begins (escapes : Bool) : List Char → Element → List Char → Prop
  | star {rest : List Char} (h : rest.head? ≠ some '*') :
      Begins escapes ('*' :: rest) .segment rest
  | stars {n : Nat} {rest : List Char} (hn : 2 ≤ n) (h : rest.head? ≠ some '*') :
      Begins escapes (List.replicate n '*' ++ rest) .anything rest
  | mark {rest : List Char} : Begins escapes ('?' :: rest) .single rest
  | named {cls : CharClass} {name rest : List Char} (h : cls.IsNamed name) :
      Begins escapes (CharClass.opening ++ name ++ CharClass.closing ++ rest) (.member cls) rest
  | escaped {c : Char} {rest : List Char} (h : escapes = true) (hc : isEscapable c = true) :
      Begins escapes ('\\' :: c :: rest) (.literal [c]) rest
  | kept {c : Char} {rest : List Char} (h : escapes = true) (hc : isEscapable c = false) :
      Begins escapes ('\\' :: c :: rest) (.literal ['\\', c]) rest
  | backslash {rest : List Char} (h : escapes = false ∨ rest = []) :
      Begins escapes ('\\' :: rest) (.literal ['\\']) rest
  | plain {c : Char} {rest : List Char} (hc : c ∉ ['*', '?', '[', '\\']) :
      Begins escapes (c :: rest) (.literal [c]) rest

/-- The body takes the text, element by element. -/
inductive Takes (escapes : Bool) : List Char → List Char → Prop
  | nil : Takes escapes [] []
  | cons {body rest : List Char} {e : Element} {u v : List Char}
      (hbegins : Begins escapes body e rest) (hu : e.Takes u) (hv : Takes escapes rest v) :
      Takes escapes body (u ++ v)

/-- The body has an element everywhere. -/
inductive Readable (escapes : Bool) : List Char → Prop
  | nil : Readable escapes []
  | cons {body rest : List Char} {e : Element} (hbegins : Begins escapes body e rest)
      (hrest : Readable escapes rest) : Readable escapes body

/-! ### Bodies without bracket expressions -/

/-- An opening bracket stands in the body only behind a backslash, or where a whole
class begins. -/
inductive Simple : List Char → Prop
  | nil : Simple []
  | pair {c : Char} {rest : List Char} (h : Simple rest) : Simple ('\\' :: c :: rest)
  | backslash : Simple ['\\']
  | named {cls : CharClass} {name rest : List Char} (hname : cls.IsNamed name) (h : Simple rest) :
      Simple (CharClass.opening ++ name ++ CharClass.closing ++ rest)
  | plain {c : Char} {rest : List Char} (hc : c ∉ ['\\', '[']) (h : Simple rest) :
      Simple (c :: rest)

/-- A star in front of a body begins a run of stars, or makes one longer. -/
theorem Readable.star {escapes : Bool} {rest : List Char} (h : Readable escapes rest) :
    Readable escapes ('*' :: rest) := by
  by_cases hhead : rest.head? = some '*'
  · -- the element in front of `rest` is a run of stars, as no other begins with one
    cases h with
    | nil => cases hhead
    | cons hbegins hrest =>
      cases hbegins with
      | star hend => exact .cons (.stars (n := 2) (Nat.le_refl 2) hend) hrest
      | stars hn hend => exact .cons (.stars (Nat.le_succ_of_le hn) hend) hrest
      | mark => cases hhead
      | named => cases hhead
      | escaped => cases hhead
      | kept => cases hhead
      | backslash => cases hhead
      | plain hc =>
        cases hhead
        exact absurd (List.mem_cons_self ..) hc
  · exact .cons (.star hhead) h

/-- Where a backslash escapes, a body without bracket expressions has an element everywhere. -/
theorem Simple.readable {body : List Char} (h : Simple body) : Readable true body := by
  induction h with
  | nil => exact .nil
  | @pair c rest _ ih =>
    by_cases hc : isEscapable c = true
    · exact .cons (.escaped rfl hc) ih
    · exact .cons (.kept rfl (Bool.eq_false_iff.mpr hc)) ih
  | backslash => exact .cons (.backslash (.inr rfl)) .nil
  | named hname _ ih => exact .cons (.named hname) ih
  | @plain c rest hc _ ih =>
    by_cases hstar : c = '*'
    · rw [hstar]
      exact ih.star
    · by_cases hmark : c = '?'
      · rw [hmark]
        exact .cons .mark ih
      · refine .cons (.plain ?_) ih
        simp only [List.mem_cons, List.not_mem_nil, or_false, not_or] at hc ⊢
        exact ⟨hstar, hmark, hc.2, hc.1⟩

/-- A body without wildcards has an element everywhere: each character stands for itself. -/
theorem readable_of_not_hasWildcards {body : List Char} (h : hasWildcards body = false) :
    Readable false body := by
  induction body with
  | nil => exact .nil
  | cons c rest ih =>
    rw [hasWildcards, List.any_cons, Bool.or_eq_false_iff] at h
    obtain ⟨hc, hrest⟩ := h
    by_cases hslash : c = '\\'
    · rw [hslash]
      exact .cons (.backslash (.inl rfl)) (ih hrest)
    · refine .cons (.plain ?_) (ih hrest)
      simp only [List.mem_cons, List.not_mem_nil, or_false, decide_eq_false_iff_not,
        not_or] at hc ⊢
      exact ⟨hc.1, hc.2.1, hc.2.2, hslash⟩

theorem readable_of_simple {body : List Char} (h : Simple body) :
    Readable (hasWildcards body) body := by
  cases hwild : hasWildcards body with
  | false => exact readable_of_not_hasWildcards hwild
  | true => exact h.readable

end Glob

end ExcludeRules.Rule
