/-
A body that is one bracket expression.

The members are cut into tokens like any other text, so stars and question marks are
written as wildcards between the brackets too.  A question mark and a star that stands
alone close the brackets, and the closing bracket of the rule then stands for itself; but
nothing is ever at fault.  Without these two the body is a set.  Main statements:
  * `run_glyphs_of_members`, `run_tokens_of_members` : one token of members, and all;
  * `exists_run_bracketed` : the body is read as atoms, and what the last one is;
  * `run_bracketed_set` : the set that is read if no member closes the brackets;
  * `writeBody_bracketed` : the limits under which the body is written.
-/
import ExcludeRules.Proofs.Expression.Members
import ExcludeRules.Proofs.Rule.Marks

namespace ExcludeRules.Rule

open Expression (Atom Glyph Mode)

/-- The character closes nothing, opens nothing, escapes nothing, makes no range, negates
nothing and separates nothing. -/
def IsMember (c : Char) : Prop := c ∉ [']', '[', '\\', '-', '!', '^', '/']

instance (c : Char) : Decidable (IsMember c) := inferInstanceAs (Decidable (c ∉ _))

/-- A bracket expression as a rule writes it. -/
def bracketed (negated : Bool) (members : List Char) : List Char :=
  '[' :: ((if negated then ['!'] else []) ++ members ++ [']'])

/-- Whether a character is a wildcard outside of brackets. -/
def isMark (c : Char) : Bool := c = '*' || c = '?'

variable {negated : Bool} {members : List Char}

theorem IsMember.no_look {c : Char} (h : IsMember c) : c ∉ ['[', '\\'] := by
  intro hmem
  simp only [List.mem_cons, List.not_mem_nil, or_false] at hmem
  rcases hmem with rfl | rfl
  · exact h (by decide)
  · exact h (by decide)

theorem IsMember.glyphOf_ne {c : Char} (h : IsMember c) :
    Token.glyphOf c ≠ .plain ']' ∧ Token.glyphOf c ≠ .plain '-' ∧
      Token.glyphOf c ≠ .plain '^' := by
  have hne : ∀ d ∈ [']', '-', '^'], c ≠ d := by
    rintro d hd rfl
    simp only [List.mem_cons, List.not_mem_nil, or_false] at hd
    rcases hd with rfl | rfl | rfl
    · exact h (by decide)
    · exact h (by decide)
    · exact h (by decide)
  exact ⟨Token.glyphOf_ne (hne _ (by decide)), Token.glyphOf_ne (hne _ (by decide)),
    Token.glyphOf_ne (hne _ (by decide))⟩

/-! ### The tokens of members -/

/-- A token that members are cut into. -/
def Token.OfMembers : Token → Prop
  | anything => True
  | segment => True
  | single => True
  | plain c => IsMember c
  | _ => False

theorem ofMembers_tokensFrom (wild : Bool) (skip : Nat) (h : ∀ c ∈ members, IsMember c) :
    ∀ t ∈ tokensFrom wild skip members, t.OfMembers := by
  fun_induction tokensFrom wild skip members with
  | case1 => simp
  | case2 skip c rest ih => exact ih (List.forall_mem_cons.mp h).2
  | case3 c rest t ih =>
    obtain ⟨hc, hrest⟩ := List.forall_mem_cons.mp h
    have hfirst : (Token.first wild c rest).OfMembers := by
      rw [Token.first_of_no_look hc.no_look]
      split
      · split <;> trivial
      · split
        · trivial
        · exact hc
    exact List.forall_mem_cons.mpr ⟨hfirst, ih hrest⟩

theorem tokens_bracketed (hne : members ≠ []) (h : ∀ c ∈ members, IsMember c) :
    tokens (bracketed negated members) =
      .bracket negated :: tokensFrom true 0 (members ++ [']']) := by
  have hwild : hasWildcards (bracketed negated members) = true := rfl
  have hfirst : Token.first true '[' ((if negated then ['!'] else []) ++ members ++ [']']) =
      .bracket negated := by
    cases negated with
    | true => rfl
    | false =>
      obtain ⟨c, rest, rfl⟩ := List.exists_cons_of_ne_nil hne
      have hc := h c (List.mem_cons_self ..)
      have hbracket : c ≠ '[' := by
        rintro rfl
        exact hc (by decide)
      have hmark : c ≠ '!' := by
        rintro rfl
        exact hc (by decide)
      refine (Token.first_bracket fun more hmore => ?_).trans ?_
      · exact absurd (List.cons_eq_cons.mp hmore).1 hbracket
      · simp [hmark]
  have hdrop : (bracketed negated members).drop (Token.bracket negated).width =
      members ++ [']'] := by
    cases negated with
    | true => rfl
    | false => rfl
  rw [tokens, hwild, bracketed, tokensFrom_cons, hfirst, ← bracketed, hdrop]

/-- The tokens of a bracket expression: those of its members stand between the brackets. -/
theorem mergeStars_tokens_bracketed (hne : members ≠ []) (h : ∀ c ∈ members, IsMember c) :
    mergeStars (tokens (bracketed negated members)) =
      .bracket negated :: (mergeStars (tokensFrom true 0 members) ++ [.plain ']']) := by
  have hplain : ∀ c ∈ members, c ∉ ['[', '\\'] := fun c hc => (h c hc).no_look
  have hclose : tokensFrom true 0 [']'] = [.plain ']'] := rfl
  rw [tokens_bracketed hne h, tokensFrom_append_plain hplain (by decide), hclose,
    mergeStars_cons_of_not_star rfl, mergeStars_append rfl]
  rfl

/-! ### Reading members -/

variable {t : Token} {ts : List Token} {m : Mode}

/-- The glyphs of most members are members. -/
theorem Token.OfMembers.glyphs_ne (ht : t.OfMembers) (hcloses : ¬ t.Closes) :
    ∀ g ∈ t.glyphs, g ≠ .plain ']' ∧ g ≠ .plain '-' ∧ g ≠ .plain '^' := by
  cases t with
  | anything => decide
  | segment => exact absurd (.inr rfl) hcloses
  | single => exact absurd (.inl rfl) hcloses
  | plain c =>
    have hc : IsMember c := ht
    exact List.forall_mem_singleton.mpr hc.glyphOf_ne
  | _ => exact ht.elim

theorem Token.OfMembers.glyphs_ne_nil (ht : t.OfMembers) : t.glyphs ≠ [] := by
  cases t <;> first | exact ht.elim | exact List.cons_ne_nil _ _

/-- Whatever a member is, nothing is at fault behind it, and a closing bracket leads out. -/
theorem Token.run_glyphs_of_members (ht : t.OfMembers) (hsound : t.Sound)
    (hm : m = .outside ∨ ∃ set, m.gathered? = some set) :
    ∃ m' atoms, m.run t.glyphs = .ok (m', List.flatMap Atom.pieces atoms) ∧ m'.LeadsOut ∧
      (m = .outside ∨ t.Closes → m' = .outside) := by
  rcases hm with rfl | ⟨set, hset⟩
  · have hatoms : ∃ atoms, t.atoms? = some atoms := by
      cases t <;> first | exact ht.elim | exact ⟨_, rfl⟩
    obtain ⟨atoms, hatoms⟩ := hatoms
    exact ⟨.outside, atoms, run_of_atoms? hsound hatoms, .inl rfl, fun _ => rfl⟩
  · by_cases hcloses : t.Closes
    · -- the bracket that closes the token's own brackets closes those around it
      obtain ⟨closed, hclosed⟩ := Mode.run_notSlash_of_gathered hset
      rcases hcloses with rfl | rfl
      · exact ⟨.outside, [.one closed], hclosed, .inl rfl, fun _ => rfl⟩
      · have hcut : segment.glyphs =
            [.plain '[', .plain '^', .plain '/', .plain ']'] ++ [.plain '*'] := rfl
        refine ⟨.outside, [.many closed], ?_, .inl rfl, fun _ => rfl⟩
        rw [hcut, Mode.run_append, hclosed]
        rfl
    · obtain ⟨m', hrun, hm'⟩ := Mode.run_of_gathered hset (ht.glyphs_ne hcloses)
      refine ⟨m', [], hrun, .inr ⟨_, hm', by simp [ht.glyphs_ne_nil]⟩, ?_⟩
      rintro (rfl | hcloses')
      · cases hset
      · exact absurd hcloses' hcloses

/-- Behind a token that closes the brackets, whatever follows stands outside of them. -/
theorem run_tokens_of_members (hne : ts ≠ []) (hts : ∀ t ∈ ts, t.OfMembers ∧ t.Sound)
    (hm : m = .outside ∨ ∃ set, m.gathered? = some set) :
    ∃ m' atoms, m.run (ts.flatMap Token.glyphs) = .ok (m', List.flatMap Atom.pieces atoms) ∧
      m'.LeadsOut ∧ (m = .outside ∨ (∃ t ∈ ts, t.Closes) → m' = .outside) := by
  induction ts generalizing m with
  | nil => exact absurd rfl hne
  | cons t ts ih =>
    obtain ⟨⟨ht, hsound⟩, hts⟩ := List.forall_mem_cons.mp hts
    obtain ⟨m₁, as, hfirst, hm₁, hout⟩ := t.run_glyphs_of_members ht hsound hm
    rw [List.flatMap_cons, Mode.run_append, hfirst, Outcome.ok_bind]
    by_cases hlast : ts = []
    · subst hlast
      refine ⟨m₁, as, by simp [Mode.run], hm₁, fun h => hout (h.imp_right ?_)⟩
      rintro ⟨u, hu, hcloses⟩
      exact List.mem_singleton.mp hu ▸ hcloses
    · have hready : m₁ = .outside ∨ ∃ set, m₁.gathered? = some set := by
        refine hm₁.imp_right ?_
        rintro ⟨set, hset, -⟩
        exact ⟨set, hset⟩
      -- outside of the brackets nothing opens them again
      obtain ⟨m₂, bs, hrest, hm₂, hout'⟩ := ih hlast hts hready
      refine ⟨m₂, as ++ bs, ?_, hm₂, ?_⟩
      · rw [hrest, Outcome.map_ok, List.flatMap_append]
      · rintro (hm | ⟨u, hu, hcloses⟩)
        · exact hout' (.inl (hout (.inl hm)))
        · rcases List.mem_cons.mp hu with rfl | hu
          · exact hout' (.inl (hout (.inr hcloses)))
          · exact hout' (.inr ⟨u, hu, hcloses⟩)

/-- The brackets as they are opened. -/
theorem run_bracket (negated : Bool) :
    ∃ m, Mode.outside.run (Token.bracket negated).glyphs = .ok (m, []) ∧
      m.gathered? = some ⟨negated, []⟩ := by
  cases negated with
  | true => exact ⟨_, rfl, rfl⟩
  | false => exact ⟨_, rfl, rfl⟩

/-- The glyphs of a bracket expression: those of its members stand between the brackets. -/
theorem glyphs_bracketed (hne : members ≠ []) (h : ∀ c ∈ members, IsMember c) :
    (mergeStars (tokens (bracketed negated members))).flatMap Token.glyphs =
      (Token.bracket negated).glyphs ++
        ((mergeStars (tokensFrom true 0 members)).flatMap Token.glyphs ++ [.plain ']']) := by
  rw [mergeStars_tokens_bracketed hne h, List.flatMap_cons, List.flatMap_append]
  rfl

theorem members_no_look (h : ∀ c ∈ members, IsMember c) : ∀ c ∈ members, c ∉ ['[', '\\'] :=
  fun c hc => (h c hc).no_look

/-- The tokens that stand between the brackets. -/
theorem ofMembers_mergeStars (h : ∀ c ∈ members, IsMember c) :
    ∀ t ∈ mergeStars (tokensFrom true 0 members), t.OfMembers ∧ t.Sound := fun t ht =>
  ⟨forall_mem_mergeStars trivial trivial (ofMembers_tokensFrom true 0 h) t ht,
    mergeStars_sound (tokensFrom_sound true 0 members) t ht⟩

theorem mergeStars_members_ne_nil (hne : members ≠ []) :
    mergeStars (tokensFrom true 0 members) ≠ [] := by
  obtain ⟨c, rest, rfl⟩ := List.exists_cons_of_ne_nil hne
  exact mergeStars_ne_nil (List.cons_ne_nil _ _)

/-- Whatever its members are, a bracket expression is read as atoms.  If a member closes the
brackets then its closing bracket stands for itself. -/
theorem exists_run_bracketed (hne : members ≠ []) (h : ∀ c ∈ members, IsMember c) :
    ∃ atoms, Mode.outside.run
        ((mergeStars (tokens (bracketed negated members))).flatMap Token.glyphs) =
      .ok (.outside, List.flatMap Atom.pieces atoms) ∧
      (writesBracket 0 members = true → atoms.getLast? = some (.one (.only ']'))) := by
  obtain ⟨m₀, hopen, hset⟩ := run_bracket negated
  obtain ⟨m, as, hrun, hm, hout⟩ :=
    run_tokens_of_members (mergeStars_members_ne_nil hne) (ofMembers_mergeStars h) (.inr ⟨_, hset⟩)
  have hread : ∀ bs : List Atom, m.step (.plain ']') = .ok (.outside, bs.flatMap Atom.pieces) →
      Mode.outside.run
        ((mergeStars (tokens (bracketed negated members))).flatMap Token.glyphs) =
      .ok (.outside, List.flatMap Atom.pieces (as ++ bs)) := by
    intro bs hclose
    rw [glyphs_bracketed hne h, Mode.run_append, hopen, Outcome.ok_bind, Mode.run_append, hrun,
      Outcome.ok_bind, Mode.run_singleton, hclose, List.flatMap_append]
    rfl
  by_cases hmarks : writesBracket 0 members = true
  · obtain rfl := hout (.inr ((writesBracket_iff (members_no_look h)).mp hmarks))
    exact ⟨as ++ [.one (.only ']')], hread _ rfl, fun _ => List.getLast?_concat⟩
  · obtain ⟨bs, hclose⟩ := hm.step_close
    exact ⟨as ++ bs, hread _ hclose, fun hmarks' => absurd hmarks' hmarks⟩

/-- If no member closes the brackets it is read as the set of the characters between them. -/
theorem run_bracketed_set (hne : members ≠ []) (h : ∀ c ∈ members, IsMember c)
    (hmarks : writesBracket 0 members = false) :
    Mode.outside.run
        ((mergeStars (tokens (bracketed negated members))).flatMap Token.glyphs) =
      .ok (.outside, [.one (.ranges negated ((chars members).map fun c => (c, c)))]) := by
  obtain ⟨m₀, hopen, hset⟩ := run_bracket negated
  have hcloses : ∀ t ∈ mergeStars (tokensFrom true 0 members), ¬ t.Closes := by
    intro t ht hcloses
    have htrue := (writesBracket_iff (members_no_look h)).mpr ⟨t, ht, hcloses⟩
    rw [hmarks] at htrue
    cases htrue
  have hglyphs : ∀ g ∈ (mergeStars (tokensFrom true 0 members)).flatMap Token.glyphs,
      g ≠ .plain ']' ∧ g ≠ .plain '-' ∧ g ≠ .plain '^' := by
    intro g hg
    obtain ⟨t, ht, hgt⟩ := List.mem_flatMap.mp hg
    exact (ofMembers_mergeStars h t ht).1.glyphs_ne (hcloses t ht) g hgt
  have hne' : (mergeStars (tokensFrom true 0 members)).flatMap Token.glyphs ≠ [] := by
    obtain ⟨t, ts, hts⟩ := List.exists_cons_of_ne_nil (mergeStars_members_ne_nil hne)
    have ht : t.OfMembers := (ofMembers_mergeStars h t (hts ▸ List.mem_cons_self ..)).1
    rw [hts, List.flatMap_cons]
    exact List.append_ne_nil_of_left_ne_nil ht.glyphs_ne_nil _
  have hchars : (chars members).map (fun c => (c, c)) =
      ((mergeStars (tokensFrom true 0 members)).flatMap Token.glyphs).map
        fun g => (g.char, g.char) := List.map_map ..
  rw [glyphs_bracketed hne h, Mode.run_append, hopen, Outcome.ok_bind,
    Mode.run_set hset (.inr hne') hglyphs, hchars]
  rfl

/-! ### Writing members -/

/-- What opens nothing and escapes nothing counts its stars and question marks. -/
theorem counted_of_no_look {text : List Char} (h : ∀ c ∈ text, c ∉ ['[', '\\']) :
    Counted (tokensFrom true 0 text) (text.countP isMark) := by
  induction text with
  | nil => exact ⟨rfl, List.forall_mem_nil _⟩
  | cons c text ih =>
    obtain ⟨hc, htext⟩ := List.forall_mem_cons.mp h
    have ih := ih htext
    by_cases hstar : c = '*'
    · subst hstar
      rw [List.countP_cons_of_pos rfl]
      exact ih.star
    · by_cases hmark : c = '?'
      · subst hmark
        rw [List.countP_cons_of_pos rfl]
        exact counted_tokensFrom_cons (t := .single) rfl trivial ih
      · have hplain : c ∉ ['*', '?', '[', '\\'] := by
          simp only [List.mem_cons, List.not_mem_nil, or_false, not_or] at hc ⊢
          exact ⟨hstar, hmark, hc⟩
        rw [List.countP_cons_of_neg (by simp [isMark, hstar, hmark])]
        exact counted_tokensFrom_cons (Token.first_plain hplain text) trivial ih

/-- A bracket expression counts as one wildcard, and so does each star and question mark in it. -/
theorem counted_bracketed (hne : members ≠ []) (h : ∀ c ∈ members, IsMember c) :
    Counted (tokens (bracketed negated members)) (members.countP isMark + 1) := by
  have hlook : ∀ c ∈ members ++ [']'], c ∉ ['[', '\\'] :=
    List.forall_mem_append.mpr
      ⟨fun c hc => (h c hc).no_look, List.forall_mem_singleton.mpr (by decide)⟩
  have hcount := counted_of_no_look hlook
  rw [List.countP_append] at hcount
  rw [tokens_bracketed hne h]
  exact hcount.cons trivial

/-- Within the limits a bracket expression is written. -/
theorem writeBody_bracketed (hne : members ≠ []) (h : ∀ c ∈ members, IsMember c)
    (hlength : (bracketed negated members).length ≤ maxLength)
    (hcount : members.countP isMark < maxWildcards) :
    writeBody (bracketed negated members) = .ok
      ((mergeStars (tokens (bracketed negated members))).flatMap fun t => t.write?.getD []) := by
  have hcounted := @counted_bracketed negated members hne h
  have hwildcards : wildcardCount (bracketed negated members) ≤ maxWildcards := by
    rw [wildcardCount, hcounted.count_eq]
    exact hcount
  exact writeBody_eq_ok_iff.mpr
    ⟨unknownClass?_eq_none_iff.mpr hcounted.known, hlength, hwildcards, rfl⟩

end ExcludeRules.Rule
