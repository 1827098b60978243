/-
Normal paths: absolute, and of proper segments only.

A proper segment names a directory entry: it is not empty, no dots, and holds no
slash.  Normalising an absolute path leaves proper segments, and proper segments
that are written out and read again are the same.  Main statements:
  * `isNormal_normalize` : an absolute path becomes normal;
  * `ofText_joined`, `ofText_text` : the path that is read from what was written;
  * `normalize_join` : proper segments, below a normal root;
  * `normalize_normalize_join` : a root may be normalised before a path is joined to it.
-/
import ExcludeRules.Path.Candidate
import ExcludeRules.Proofs.Text.Split

namespace ExcludeRules.Path

/-- A segment that names a directory entry. -/
structure IsProper (s : List Char) : Prop where
  ne_nil : s ≠ []
  ne_dot : s ≠ ['.']
  ne_dots : s ≠ ['.', '.']
  no_slash : '/' ∉ s

/-- An absolute path of proper segments. -/
structure IsNormal (p : Path) : Prop where
  absolute : p.isAbsolute = true
  proper : ∀ s ∈ p.segments, IsProper s

theorem no_slash_ofText {text s : List Char} (h : s ∈ (ofText text).segments) : '/' ∉ s :=
  Text.not_mem_of_mem_split (List.mem_filter.mp h).1

/-! ### Removing double dots -/

/-- Below the root no double dot is left, and no segment is made up. -/
theorem mem_climb {before segments : List (List Char)} (hbefore : ['.', '.'] ∉ before)
    {s : List Char} (h : s ∈ climb true before segments) :
    (s ∈ before ∨ s ∈ segments) ∧ s ≠ ['.', '.'] := by
  fun_induction climb true before segments with
  | case1 before =>
    have hs : s ∈ before := List.mem_reverse.mp h
    exact ⟨.inl hs, fun hdots => hbefore (hdots ▸ hs)⟩
  | case2 rest ih =>
    obtain ⟨hs | hs, hne⟩ := ih (by simp) h
    · simp at hs
    · exact ⟨.inr (List.mem_cons_of_mem _ hs), hne⟩
  | case3 => exact absurd (List.mem_cons_self ..) hbefore
  | case4 rest last more hlast ih =>
    obtain ⟨hs | hs, hne⟩ := ih (fun hm => hbefore (List.mem_cons_of_mem _ hm)) h
    · exact ⟨.inl (List.mem_cons_of_mem _ hs), hne⟩
    · exact ⟨.inr (List.mem_cons_of_mem _ hs), hne⟩
  | case5 before piece rest hpiece ih =>
    have hnot : ['.', '.'] ∉ piece :: before := fun hm =>
      (List.mem_cons.mp hm).elim (fun heq => hpiece heq.symm) hbefore
    obtain ⟨hs | hs, hne⟩ := ih hnot h
    · rcases List.mem_cons.mp hs with rfl | hs
      · exact ⟨.inr (List.mem_cons_self ..), hne⟩
      · exact ⟨.inl hs, hne⟩
    · exact ⟨.inr (List.mem_cons_of_mem _ hs), hne⟩

theorem climb_cons_of_ne {absolute : Bool} {before rest : List (List Char)} {s : List Char}
    (h : s ≠ ['.', '.']) :
    climb absolute before (s :: rest) = climb absolute (s :: before) rest := by
  simp [climb, h]

theorem climb_of_proper {absolute : Bool} {before segments : List (List Char)}
    (h : ∀ s ∈ segments, IsProper s) :
    climb absolute before segments = before.reverse ++ segments := by
  induction segments generalizing before with
  | nil => simp [climb]
  | cons s segments ih =>
    obtain ⟨hs, hsegments⟩ := List.forall_mem_cons.mp h
    rw [climb_cons_of_ne hs.ne_dots, ih hsegments, List.reverse_cons, List.append_assoc,
      List.singleton_append]

/-- Double dots may be removed from the front first, and then from the whole. -/
theorem climb_append (absolute : Bool) (before xs ys : List (List Char)) :
    climb absolute before (xs ++ ys) = climb absolute (climb absolute before xs).reverse ys := by
  fun_induction climb absolute before xs with
  | case1 before => rw [List.nil_append, List.reverse_reverse]
  | case2 rest ih =>
    rw [List.cons_append, climb, if_pos rfl]
    exact ih
  | case3 rest more ih =>
    rw [List.cons_append, climb, if_pos rfl]
    exact ih
  | case4 rest last more hlast ih =>
    rw [List.cons_append, climb, if_pos rfl]
    simp only [if_neg hlast]
    exact ih
  | case5 before piece rest hpiece ih =>
    rw [List.cons_append, climb_cons_of_ne hpiece]
    exact ih

theorem normalize_of_proper {p : Path} (h : ∀ s ∈ p.segments, IsProper s) : p.normalize = p := by
  rw [normalize, climb_of_proper h]
  rfl

theorem isNormal_normalize {p : Path} (habs : p.isAbsolute = true)
    (h : ∀ s ∈ p.segments, s ≠ [] ∧ s ≠ ['.'] ∧ '/' ∉ s) : p.normalize.IsNormal := by
  refine ⟨habs, fun s hs => ?_⟩
  rw [normalize, habs] at hs
  obtain ⟨hmem | hmem, hdots⟩ := mem_climb (by simp) hs
  · simp at hmem
  · obtain ⟨hnil, hdot, hslash⟩ := h s hmem
    exact ⟨hnil, hdot, hdots, hslash⟩

/-! ### Reading what was written -/

theorem ofText_joined {segments : List (List Char)} (h : ∀ s ∈ segments, IsProper s) :
    ofText (joined segments) = ⟨0, segments⟩ := by
  cases segments with
  | nil => rfl
  | cons s rest =>
    have hfilter : (s :: rest).filter isSegment = s :: rest := by
      rw [List.filter_eq_self]
      intro t ht
      simp [isSegment, (h t ht).ne_nil, (h t ht).ne_dot]
    have hfront : frontSlashes (joined (s :: rest)) = 0 := by
      obtain ⟨hs, -⟩ := List.forall_mem_cons.mp h
      obtain ⟨c, tail, rfl⟩ := List.exists_cons_of_ne_nil hs.ne_nil
      have hc : c ≠ '/' := fun hc => hs.no_slash (hc ▸ List.mem_cons_self ..)
      cases rest <;> simp [joined, Text.join, frontSlashes, hc]
    rw [ofText, hfront, joined,
      Text.split_join (List.cons_ne_nil _ _) fun t ht => (h t ht).no_slash, hfilter]

theorem frontSlashes_le (text : List Char) : frontSlashes text ≤ 2 := by
  unfold frontSlashes
  split <;> omega

/-- Up to two slashes in front of a text are counted. -/
theorem frontSlashes_replicate {n : Nat} (hn : n ≤ 2) {text : List Char}
    (h : frontSlashes text = 0) : frontSlashes (List.replicate n '/' ++ text) = n := by
  have hhead : ∀ rest, text ≠ '/' :: rest := by
    rintro rest rfl
    unfold frontSlashes at h
    split at h <;> simp_all
  match n, hn with
  | 0, _ => exact h
  | 1, _ => cases text <;> simp_all [frontSlashes]
  | 2, _ => cases text <;> simp_all [frontSlashes]

theorem segments_ofText_replicate (n : Nat) (text : List Char) :
    (ofText (List.replicate n '/' ++ text)).segments = (ofText text).segments := by
  induction n with
  | zero => rfl
  | succ n ih =>
    have hsplit : Text.split '/' ('/' :: (List.replicate n '/' ++ text)) =
        [] :: Text.split '/' (List.replicate n '/' ++ text) := Text.split_append_cons [] _
    rw [← ih, List.replicate_succ, List.cons_append]
    show (Text.split '/' _).filter isSegment = (Text.split '/' _).filter isSegment
    rw [hsplit]
    rfl

/-- A path of proper segments, with at most two slashes in front, is read as it was written. -/
theorem ofText_text {p : Path} (hslashes : p.slashes ≤ 2) (h : ∀ s ∈ p.segments, IsProper s) :
    ofText p.text = p := by
  have hjoined : ofText (joined p.segments) = ⟨0, p.segments⟩ := ofText_joined h
  have hfront : frontSlashes (joined p.segments) = 0 := congrArg Path.slashes hjoined
  unfold text
  split
  · rename_i hempty
    obtain ⟨hzero, hnil⟩ := hempty
    have hp : p = ⟨0, []⟩ := by rw [← hzero, ← hnil]
    rw [hp]
    rfl
  · have hsegments := segments_ofText_replicate p.slashes (joined p.segments)
    rw [hjoined] at hsegments
    have hcount := frontSlashes_replicate hslashes hfront
    show (⟨frontSlashes _, (ofText _).segments⟩ : Path) = p
    rw [hcount, hsegments]

theorem joined_ne_nil {segments : List (List Char)} (hne : segments ≠ [])
    (h : ∀ s ∈ segments, IsProper s) : joined segments ≠ [] := by
  intro hnil
  have hread := ofText_joined h
  rw [hnil] at hread
  exact hne (congrArg Path.segments hread).symm

/-- What is written without a slash is one segment. -/
theorem exists_eq_singleton {segments : List (List Char)} (hne : segments ≠ [])
    (h : '/' ∉ joined segments) : ∃ s, segments = [s] := by
  obtain ⟨s, rest, rfl⟩ := List.exists_cons_of_ne_nil hne
  by_cases hrest : rest = []
  · exact ⟨s, by rw [hrest]⟩
  · rw [joined, Text.join_cons hrest] at h
    simp at h

theorem normalize_join {root : Path} (hroot : root.IsNormal) {segments : List (List Char)}
    (h : ∀ s ∈ segments, IsProper s) :
    (root.join ⟨0, segments⟩).normalize = ⟨root.slashes, root.segments ++ segments⟩ := by
  have hjoin : root.join ⟨0, segments⟩ = ⟨root.slashes, root.segments ++ segments⟩ := by
    simp [join, isAbsolute]
  rw [hjoin]
  exact normalize_of_proper (List.forall_mem_append.mpr ⟨hroot.proper, h⟩)

theorem normalize_normalize_join {p : Path} (hp : p.normalize.IsNormal) (q : Path) :
    (p.normalize.join q).normalize = (p.join q).normalize := by
  have hagain : climb p.isAbsolute [] (climb p.isAbsolute [] p.segments) =
      climb p.isAbsolute [] p.segments := climb_of_proper hp.proper
  unfold join
  by_cases hq : q.isAbsolute = true
  · rw [if_pos hq, if_pos hq]
  · rw [if_neg hq, if_neg hq]
    show (⟨p.slashes, climb p.isAbsolute [] (climb p.isAbsolute [] p.segments ++ q.segments)⟩ :
      Path) = ⟨p.slashes, climb p.isAbsolute [] (p.segments ++ q.segments)⟩
    rw [climb_append, hagain, ← climb_append]

end ExcludeRules.Path
