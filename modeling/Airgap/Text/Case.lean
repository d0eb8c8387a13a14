import Airgap.Text.CaseMap

/-!
# Lower case, upper case and case folding of texts

Every character is replaced by its full mapping. In lower case alone the context counts: a capital
sigma at the end of a word becomes the final form.
-/

namespace Airgap.Text

/-- Whether the first character that is not passed over is cased. -/
def facesCased (cs : List Char) : Bool :=
  match cs.dropWhile isCaseIgnorable with
  | c :: _ => isCased c
  | [] => false

/-- The lower case of a capital sigma between the characters `before`, nearest first, and
`after`. -/
def lowerSigma (before after : List Char) : Char :=
  if facesCased before && !facesCased after then 'ς' else 'σ'

/-- The lower case of a text that follows `before`, nearest character first. -/
def lowerAfter (before : List Char) : List Char → List Char
  | [] => []
  | c :: cs =>
    (if c = 'Σ' then [lowerSigma before cs] else lowerMap.apply c) ++ lowerAfter (c :: before) cs

/-- The lower case of a text. -/
def lower (cs : List Char) : List Char := lowerAfter [] cs

/-- The upper case of a text. -/
def upper (cs : List Char) : List Char := cs.flatMap upperMap.apply

/-- The case folding of a text. -/
def fold (cs : List Char) : List Char := cs.flatMap foldMap.apply

theorem fold_append (a b : List Char) : fold (a ++ b) = fold a ++ fold b :=
  List.flatMap_append

end Airgap.Text
