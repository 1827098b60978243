/-
Lower and upper case of texts in every script.

The mappings are the full ones of Unicode 14.0: a character may map to several.
One rule looks at the neighbours: a capital sigma becomes the final small sigma
at the end of a word, that is when a cased letter stands before it and none
after it, characters that do not separate letters left aside.  Main statement:
  * `lowerChar_of_ascii` : on ASCII the lower case is that of core.
-/
import ExcludeRules.Text.CaseTables

namespace ExcludeRules.Text

/-- The characters that a code point maps to, by the runs or by the expansions. -/
def mapCase (runs : List CaseRun) (expansions : List (Nat × List Nat)) (c : Char) : List Char :=
  match expansions.find? (·.1 == c.toNat) with
  | some (_, image) => image.map Char.ofNat
  | none => [((runs.findSome? (·.image? c.toNat)).map Char.ofNat).getD c]

/-- The lower case of a character, whatever its neighbours. -/
def lowerChar (c : Char) : List Char :=
  if c.toNat < 0x80 then [c.toLower] else mapCase lowerRuns lowerExpansions c

/-- The upper case of a character. -/
def upperChar (c : Char) : List Char :=
  if c.toNat < 0x80 then [c.toUpper] else mapCase upperRuns upperExpansions c

/-- Whether the first character that separates letters is a cased letter. -/
def startsCased (s : List Char) : Bool :=
  match s.dropWhile caseIgnorableRanges.covers with
  | [] => false
  | c :: _ => casedRanges.covers c

/-- Lower case of the characters that follow those of `before`, which is reversed. -/
def lowerAfter (before : List Char) : List Char → List Char
  | [] => []
  | c :: rest =>
    let image :=
      if c = 'Σ' then [if startsCased before && !startsCased rest then 'ς' else 'σ']
      else lowerChar c
    image ++ lowerAfter (c :: before) rest

/-- The lower case of a text. -/
def lower (s : List Char) : List Char := lowerAfter [] s

/-- The upper case of a text. -/
def upper (s : List Char) : List Char := s.flatMap upperChar

theorem lowerChar_of_ascii {c : Char} (h : c.toNat < 0x80) : lowerChar c = [c.toLower] := by
  simp [lowerChar, h]

end ExcludeRules.Text
