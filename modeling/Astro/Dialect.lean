import Astro.Text.Basic

/-!
# Dialects

The language comes in variants: the remainder operator and negation can be
switched off, and `print` is either a keyword that starts a statement or the
name of a procedure. Any other spelling of the print style is kept as it is; it
makes `print` neither of the two.
-/

namespace Astro

/-- How `print` is written in programs. In one style it is a reserved word, in the other the name
of a procedure. Any other word is not a style, and is kept. -/
inductive PrintStyle where
  | keyword
  | procedure
  | other (word : Text)
deriving DecidableEq, Repr

namespace PrintStyle

/-- The style that a word names. Any other word is kept, so that it can be told what was wrong
with it. -/
def ofText (word : Text) : PrintStyle :=
  if word = Text.ofString "keyword" then keyword
  else if word = Text.ofString "procedure" then procedure
  else other word

/-- The word that names a style. Every style has a word of its own. -/
def text : PrintStyle → Text
  | keyword => Text.ofString "keyword"
  | procedure => Text.ofString "procedure"
  | other word => word

/-- Every word names a style that is spelled like it. -/
theorem text_ofText (word : Text) : (ofText word).text = word := by
  unfold ofText
  split
  · simp_all [text]
  · split <;> simp_all [text]

end PrintStyle

/-- A variant of the language. It may lack remainders and negation, and it has its own way to
print. -/
structure Dialect where
  modulo : Bool
  negation : Bool
  print : PrintStyle
deriving DecidableEq, Repr

/-- The whole language, with the print keyword. It has remainders and negation, and it holds where
nothing is said. -/
def Dialect.full : Dialect := ⟨true, true, .keyword⟩

end Astro
