/-
UTF-8 that is read as it was written.

Each character is spelled by a first byte and the bytes after it.  A piece of the
bytes of characters may end inside a character; what is left unfinished is then a
part of its bytes, so nothing is lost or refused where pieces meet.  Main statements:
  * `exists_spells` : the encoding of a character is read as that character, and a part
    of it as an unfinished one;
  * `decodePiece_of_append_eq` : what a piece gives, and what it leaves;
  * `decode_toUTF8` : the bytes of a text are read as that text, however long it is.
-/
import ExcludeRules.Text.Utf8

namespace ExcludeRules.Text.Utf8

/-! ### The bytes of a character -/

/-- The byte `b` and `more` after it are the bytes of `c`. -/
structure Spells (c : Char) (b : UInt8) (more : List UInt8) : Prop where
  char : ∀ rest, decodeStep b (more ++ rest) = .char c more.length
  unfinished : ∀ k < more.length, decodeStep b (more.take k) = .unfinished

section Bytes

variable {c : Char} {h i m l : Nat} {b b₁ b₂ b₃ : UInt8}

theorem not_lt_of_toNat {k : UInt8} (h : k.toNat ≤ b.toNat) : ¬ b < k := by
  rw [UInt8.lt_iff_toNat_lt]
  exact Nat.not_lt.2 h

theorem isContinuation_of_toNat (hb : b.toNat = m + 0x80) (hm : m < 64) :
    isContinuation b = true := by
  simp only [isContinuation, UInt8.le_iff_toNat_le, UInt8.lt_iff_toNat_lt, hb, Bool.and_eq_true,
    decide_eq_true_eq]
  exact ⟨Nat.le_add_left .., Nat.add_lt_add_right hm _⟩

theorem payload_of_toNat (hb : b.toNat = m + 0x80) (hm : m < 64) : payload b = m := by
  rw [payload, hb]
  omega

/-- A second byte within the bounds that two of the first bytes set. -/
theorem inRange_of_toNat {low high least most : UInt8} (hb₁ : b₁.toNat = m + 0x80) (hm : m < 64)
    (hlow : b.toNat = low.toNat → least.toNat ≤ b₁.toNat)
    (hhigh : b.toNat = high.toNat → b₁.toNat < most.toNat) :
    (isContinuation b₁ && (b != low || least ≤ b₁) && (b != high || b₁ < most)) = true := by
  rw [UInt8.toNat_inj, ← UInt8.le_iff_toNat_le] at hlow
  rw [UInt8.toNat_inj, ← UInt8.lt_iff_toNat_lt] at hhigh
  simp only [isContinuation_of_toNat hb₁ hm, Bool.true_and, Bool.and_eq_true, Bool.or_eq_true,
    bne_iff_ne, decide_eq_true_eq]
  exact ⟨Decidable.not_or_of_imp hlow, Decidable.not_or_of_imp hhigh⟩

theorem spells_one (hb : b.toNat = c.toNat) (hc : c.toNat < 0x80) : Spells c b [] where
  char rest := by
    have h80 : b < 0x80 := by
      rw [UInt8.lt_iff_toNat_lt, hb]
      exact hc
    rw [decodeStep_eq_ascii h80, hb, Char.ofNat_toNat]
    rfl
  unfinished _ hk := absurd hk (Nat.not_lt_zero _)

theorem spells_two (hc : c.toNat = h * 64 + m) (hb : b.toNat = h + 0xC0) (hlow : 2 ≤ h)
    (hhigh : h < 32) (hb₁ : b₁.toNat = m + 0x80) (hm : m < 64) : Spells c b [b₁] := by
  rw [← Char.ofNat_toNat c, hc]
  have h80 : ¬ b < 0x80 := not_lt_of_toNat (by simp [hb])
  have hC2 : ¬ b < 0xC2 := not_lt_of_toNat (by simp [hb]; omega)
  have hE0 : b < 0xE0 := by
    rw [UInt8.lt_iff_toNat_lt, hb]
    exact Nat.add_lt_add_right hhigh _
  have hlead : b.toNat % 32 = h := by omega
  constructor
  · intro rest
    simp [decodeStep, h80, hC2, hE0, hlead, isContinuation_of_toNat hb₁ hm, payload_of_toNat hb₁ hm]
  · intro k hk
    obtain rfl : k = 0 := Nat.lt_one_iff.1 hk
    simp [decodeStep, h80, hC2, hE0]

/-- The bounds on `m` keep out what two bytes can spell, and surrogates. -/
theorem spells_three (hc : c.toNat = (h * 64 + m) * 64 + l) (hb : b.toNat = h + 0xE0)
    (hh : h < 16) (hb₁ : b₁.toNat = m + 0x80) (hm : m < 64) (hlow : h = 0 → 32 ≤ m)
    (hhigh : h = 13 → m < 32) (hb₂ : b₂.toNat = l + 0x80) (hl : l < 64) :
    Spells c b [b₁, b₂] := by
  rw [← Char.ofNat_toNat c, hc]
  have h80 : ¬ b < 0x80 := not_lt_of_toNat (by simp [hb])
  have hC2 : ¬ b < 0xC2 := not_lt_of_toNat (by simp [hb])
  have hE0 : ¬ b < 0xE0 := not_lt_of_toNat (by simp [hb])
  have hF0 : b < 0xF0 := by
    rw [UInt8.lt_iff_toNat_lt, hb]
    exact Nat.add_lt_add_right hh _
  have hlead : b.toNat % 16 = h := by omega
  have hsecond : (isContinuation b₁ && (b != 0xE0 || 0xA0 ≤ b₁) && (b != 0xED || b₁ < 0xA0)) =
      true := inRange_of_toNat hb₁ hm (by simp [hb, hb₁]; omega) (by simp [hb, hb₁]; omega)
  constructor
  · intro rest
    simp [decodeStep, h80, hC2, hE0, hF0, hlead, hsecond, isContinuation_of_toNat hb₂ hl,
      payload_of_toNat hb₁ hm, payload_of_toNat hb₂ hl]
  · intro k hk
    have hk : k < 2 := hk
    obtain rfl | rfl : k = 0 ∨ k = 1 := by omega
    · simp [decodeStep, h80, hC2, hE0, hF0]
    · simp [decodeStep, h80, hC2, hE0, hF0, hsecond]

/-- The bounds on `i` keep out what three bytes can spell, and what is no code point. -/
theorem spells_four (hc : c.toNat = ((h * 64 + i) * 64 + m) * 64 + l) (hb : b.toNat = h + 0xF0)
    (hh : h < 5) (hb₁ : b₁.toNat = i + 0x80) (hi : i < 64) (hlow : h = 0 → 16 ≤ i)
    (hhigh : h = 4 → i < 16) (hb₂ : b₂.toNat = m + 0x80) (hm : m < 64) (hb₃ : b₃.toNat = l + 0x80)
    (hl : l < 64) : Spells c b [b₁, b₂, b₃] := by
  rw [← Char.ofNat_toNat c, hc]
  have h80 : ¬ b < 0x80 := not_lt_of_toNat (by simp [hb])
  have hC2 : ¬ b < 0xC2 := not_lt_of_toNat (by simp [hb])
  have hE0 : ¬ b < 0xE0 := not_lt_of_toNat (by simp [hb])
  have hF0 : ¬ b < 0xF0 := not_lt_of_toNat (by simp [hb])
  have hF5 : b < 0xF5 := by
    rw [UInt8.lt_iff_toNat_lt, hb]
    exact Nat.add_lt_add_right hh _
  have hlead : b.toNat % 8 = h := by omega
  have hsecond : (isContinuation b₁ && (b != 0xF0 || 0x90 ≤ b₁) && (b != 0xF4 || b₁ < 0x90)) =
      true := inRange_of_toNat hb₁ hi (by simp [hb, hb₁]; omega) (by simp [hb, hb₁]; omega)
  constructor
  · intro rest
    simp [decodeStep, h80, hC2, hE0, hF0, hF5, hlead, hsecond, isContinuation_of_toNat hb₂ hm,
      isContinuation_of_toNat hb₃ hl, payload_of_toNat hb₁ hi, payload_of_toNat hb₂ hm,
      payload_of_toNat hb₃ hl]
  · intro k hk
    have hk : k < 3 := hk
    obtain rfl | rfl | rfl : k = 0 ∨ k = 1 ∨ k = 2 := by omega
    · simp [decodeStep, h80, hC2, hE0, hF0, hF5]
    · simp [decodeStep, h80, hC2, hE0, hF0, hF5, hsecond]
    · simp [decodeStep, h80, hC2, hE0, hF0, hF5, hsecond, isContinuation_of_toNat hb₂ hm]

end Bytes

theorem toNat_ofNat_of_lt {n : Nat} (h : n < 256) : (UInt8.ofNat n).toNat = n := by
  rw [UInt8.toNat_ofNat', Nat.mod_eq_of_lt h]

/-- Every character is spelled by its encoding. -/
theorem exists_spells (c : Char) :
    ∃ b more, String.utf8EncodeChar c = b :: more ∧ Spells c b more := by
  have hvalid : c.toNat < 0xD800 ∨ 0xDFFF < c.toNat ∧ c.toNat < 0x110000 := c.valid
  have hval : c.val.toNat = c.toNat := rfl
  simp only [String.utf8EncodeChar, hval]
  split
  next =>
    exact ⟨_, _, rfl, spells_one (toNat_ofNat_of_lt (by omega)) (by omega)⟩
  next =>
    split
    next =>
      exact ⟨_, _, rfl, spells_two (by omega) (toNat_ofNat_of_lt (by omega)) (by omega) (by omega)
        (toNat_ofNat_of_lt (by omega)) (by omega)⟩
    next =>
      split
      next =>
        exact ⟨_, _, rfl, spells_three (by omega) (toNat_ofNat_of_lt (by omega)) (by omega)
          (toNat_ofNat_of_lt (by omega)) (by omega) (by omega) (by omega)
          (toNat_ofNat_of_lt (by omega)) (by omega)⟩
      next =>
        exact ⟨_, _, rfl, spells_four (by omega) (toNat_ofNat_of_lt (by omega)) (by omega)
          (toNat_ofNat_of_lt (by omega)) (by omega) (by omega) (by omega)
          (toNat_ofNat_of_lt (by omega)) (by omega) (toNat_ofNat_of_lt (by omega)) (by omega)⟩

/-! ### Pieces -/

/-- The bytes of characters. -/
def encode (cs : List Char) : List UInt8 := cs.flatMap String.utf8EncodeChar

/-- Bytes that a piece leaves unfinished in front of `cs`: less than the first character has. -/
def Unfinished (pending : List UInt8) (cs : List Char) : Prop :=
  ∀ c ∈ cs.head?, pending.length < (String.utf8EncodeChar c).length

section Pieces

variable {done cs : List Char} {offset k : Nat} {c : Char} {b : UInt8}
  {more piece later pending : List UInt8} {chunks : List (List UInt8)}

theorem encode_cons (c : Char) (cs : List Char) :
    encode (c :: cs) = String.utf8EncodeChar c ++ encode cs :=
  List.flatMap_cons

theorem decodePiece_skip (done : List Char) (offset : Nat) (more piece : List UInt8) :
    decodePiece done offset more.length (more ++ piece) =
      decodePiece done (offset + more.length) 0 piece := by
  induction more generalizing offset with
  | nil => rfl
  | cons b more ih =>
    rw [List.length_cons, List.cons_append, decodePiece, ih, Nat.add_right_comm, Nat.add_assoc]

theorem Spells.decodePiece_append (h : Spells c b more) (piece : List UInt8) :
    decodePiece done offset 0 (b :: more ++ piece) =
      decodePiece (c :: done) (offset + 1 + more.length) 0 piece := by
  rw [← decodePiece_skip, List.cons_append, decodePiece, h.char]

theorem Spells.decodePiece_take (h : Spells c b more) (hk : k < more.length) :
    decodePiece done offset 0 (b :: more.take k) = .ok (done, b :: more.take k) := by
  rw [decodePiece, h.unfinished k hk]

/-- A piece of the bytes of characters gives some of them and leaves the bytes of the others. -/
theorem decodePiece_of_append_eq (done : List Char) (offset : Nat)
    (h : piece ++ later = encode cs) :
    ∃ read rest pending, cs = read ++ rest ∧ pending ++ later = encode rest ∧
      Unfinished pending rest ∧
      decodePiece done offset 0 piece = .ok (read.reverse ++ done, pending) := by
  induction cs generalizing done offset piece with
  | nil =>
    obtain ⟨rfl, rfl⟩ := List.append_eq_nil_iff.1 h
    exact ⟨[], [], [], rfl, rfl, nofun, rfl⟩
  | cons c cs ih =>
    obtain ⟨b, more, hc, hspells⟩ := exists_spells c
    have hbytes : b :: more <+: encode (c :: cs) := ⟨encode cs, by rw [encode_cons, hc]⟩
    have hpiece : piece <+: encode (c :: cs) := ⟨later, h⟩
    rcases Nat.lt_or_ge piece.length (b :: more).length with hlen | hlen
    · -- the piece ends before the character does
      have hstop : decodePiece done offset 0 piece = .ok (done, piece) := by
        have htake := List.prefix_iff_eq_take.1
          (List.prefix_of_prefix_length_le hpiece hbytes (Nat.le_of_lt hlen))
        cases piece with
        | nil => rfl
        | cons b' bs =>
          rw [htake]
          exact hspells.decodePiece_take (Nat.lt_of_succ_lt_succ hlen)
      refine ⟨[], c :: cs, piece, rfl, h, ?_, hstop⟩
      rintro _ ⟨⟩
      rw [hc]
      exact hlen
    · obtain ⟨piece, rfl⟩ := List.prefix_of_prefix_length_le hbytes hpiece hlen
      rw [encode_cons, hc, List.append_assoc] at h
      obtain ⟨read, rest, pending, rfl, hpending, hunfinished, hread⟩ :=
        ih (c :: done) (offset + 1 + more.length) (List.append_cancel_left h)
      refine ⟨c :: read, rest, pending, rfl, hpending, hunfinished, ?_⟩
      rw [hspells.decodePiece_append, hread, List.reverse_cons, List.append_assoc]
      rfl

/-- However the bytes of characters are cut, the characters are read back. -/
theorem scanChunks_of_append_eq (h : pending ++ chunks.flatten = encode cs)
    (hpending : Unfinished pending cs) :
    scanChunks done pending chunks = (done.reverse ++ cs, none) := by
  induction chunks generalizing done pending cs with
  | nil =>
    rw [List.flatten_nil, List.append_nil] at h
    cases cs with
    | nil =>
      obtain rfl : pending = [] := h
      rw [scanChunks, List.append_nil]
      rfl
    | cons c cs =>
      -- what is pending at the end would be a character and more
      have hlen := hpending c rfl
      rw [h, encode_cons, List.length_append] at hlen
      omega
  | cons chunk chunks ih =>
    rw [List.flatten_cons, ← List.append_assoc] at h
    obtain ⟨read, rest, pending', rfl, hlater, hpending', hread⟩ :=
      decodePiece_of_append_eq done 0 h
    rw [scanChunks, hread]
    show scanChunks (read.reverse ++ done) pending' chunks = _
    rw [ih hlater hpending', List.reverse_append, List.reverse_reverse, List.append_assoc]

end Pieces

/-! ### Files -/

theorem flatten_chunksOf {count : Nat} {bytes : List UInt8} (h : bytes.length ≤ count * chunkSize) :
    (chunksOf count bytes).flatten = bytes := by
  induction count generalizing bytes with
  | zero =>
    rw [Nat.zero_mul, Nat.le_zero, List.length_eq_zero_iff] at h
    rw [h]
    rfl
  | succ count ih =>
    cases bytes with
    | nil => rfl
    | cons b bytes =>
      have hrest : ((b :: bytes).drop chunkSize).length ≤ count * chunkSize := by
        rw [Nat.succ_mul] at h
        rw [List.length_drop]
        omega
      rw [chunksOf, List.isEmpty_cons, if_neg Bool.false_ne_true, List.flatten_cons, ih hrest,
        List.take_append_drop]

theorem scan_encode (cs : List Char) : scan (encode cs) = (cs, none) := by
  refine scanChunks_of_append_eq ?_ ?_
  · have hlen := Nat.lt_div_mul_add (a := (encode cs).length) (b := chunkSize) (by decide)
    rw [← Nat.succ_mul] at hlen
    rw [List.nil_append, flatten_chunksOf (Nat.le_of_lt hlen)]
  · intro c _
    obtain ⟨b, more, hc, -⟩ := exists_spells c
    rw [hc]
    exact Nat.succ_pos _

theorem decode_encode (cs : List Char) : decode (encode cs) = .ok cs := by
  rw [decode, scan_encode]

theorem toList_loop_eq (bytes : ByteArray) (i : Nat) (r : List UInt8) :
    ByteArray.toList.loop bytes i r = r.reverse ++ bytes.data.toList.drop i := by
  fun_induction ByteArray.toList.loop bytes i r with
  | case1 i r h ih =>
    have hi : i < bytes.data.toList.length := h
    rw [ih, List.drop_eq_getElem_cons hi, List.reverse_cons, List.append_assoc]
    simp [ByteArray.get!, h]
  | case2 i r h =>
    rw [List.drop_eq_nil_of_le (Nat.le_of_not_lt h), List.append_nil]

theorem toList_toUTF8 (s : String) : s.toUTF8.toList = encode s.toList := by
  have hbytes : s.toUTF8.data.toList = encode s.toList := by
    conv => lhs; rw [← String.ofList_toList (s := s)]
    exact List.toList_data_toByteArray
  rw [ByteArray.toList, toList_loop_eq, hbytes]
  rfl

/-- A text is read back from its bytes. -/
theorem decode_toUTF8 (s : String) : decode s.toUTF8.toList = .ok s.toList := by
  rw [toList_toUTF8, decode_encode]

end ExcludeRules.Text.Utf8
