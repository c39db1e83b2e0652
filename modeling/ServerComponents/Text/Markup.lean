import Mathlib.Data.List.Forall2
import Mathlib.Data.List.Infix

/-!
# Markup

The tokens of an HTML text, read by a machine that takes one character after the other.
A text may have places that are filled later; they are read as text or as a part of a
quoted value.
-/

namespace ServerComponents
namespace Text
namespace Markup

inductive Sym (κ : Type) where
  | char (c : Char)
  | slot (k : κ)
  deriving Repr, DecidableEq

def Sym.isChar {κ : Type} : Sym κ -> Bool
  | .char _ => true
  | .slot _ => false

def isSpace (c : Char) : Bool :=
  c == ' ' || c == '\t' || c == '\n' || c == '\r' || c == '\x0c'

/-- Behind a less-than sign these characters begin a tag, a comment or a declaration. -/
def opensMarkup (c : Char) : Bool := c.isAlpha || c == '/' || c == '!' || c == '?'

/-- The elements whose content is text up to their own end tag. -/
def rawOf (name : List Char) : Option (List Char) :=
  if name ∈ ["title".toList, "textarea".toList, "style".toList, "script".toList,
      "xmp".toList, "iframe".toList, "noembed".toList, "noframes".toList]
  then some name else none

inductive TagPhase where
  | beforeName
  | name
  | afterName
  | beforeValue
  | doubleQuoted
  | singleQuoted
  | unquoted
  | afterQuoted
  | selfClosing
  deriving Repr, DecidableEq

/-- What is being read: text, up to the end tag of `raw` if there is one, a tag, or a
comment or declaration. -/
inductive State where
  | text (raw : Option (List Char))
  | lessThan (raw : Option (List Char))
  | endTagOpen
  | rawEndTag (raw name : List Char)
  | tagName (closing : Bool) (name : List Char)
  | inTag (phase : TagPhase) (closing : Bool) (name : List Char)
  | markupDeclaration
  | declarationDash
  | comment (dashes : Nat)
  | declaration
  deriving Repr, DecidableEq

inductive Edit where
  | skip
  | text (chars : List Char)
  | newAttribute (c : Char)
  | attributeName (c : Char)
  | attributeValue (c : Char)
  | tag (closing : Bool) (name : List Char) (selfClosing : Bool)
  | declaration
  deriving Repr, DecidableEq

/-- A character of a text, behind characters that turned out to be no markup. -/
def textStep (raw : Option (List Char)) (pending : List Char) (c : Char) : State × Edit :=
  if c = '<' then (.lessThan raw, .text pending) else (.text raw, .text (pending ++ [c]))

def closeTag (closing : Bool) (name : List Char) (selfClosing : Bool) : State × Edit :=
  (.text (if closing then none else rawOf name), .tag closing name selfClosing)

def lessThanStep (raw : Option (List Char)) (c : Char) : State × Edit :=
  match raw with
  | some element => if c = '/' then (.rawEndTag element [], .skip) else textStep raw ['<'] c
  | none =>
      if c = '!' then (.markupDeclaration, .skip)
      else if c = '/' then (.endTagOpen, .skip)
      else if c = '?' then (.declaration, .skip)
      else if c.isAlpha then (.tagName false [c.toLower], .skip)
      else textStep none ['<'] c

def rawEndTagStep (raw name : List Char) (c : Char) : State × Edit :=
  if c.isAlpha then (.rawEndTag raw (name ++ [c]), .skip)
  else if name.map Char.toLower = raw then
    if isSpace c then (.inTag .beforeName true raw, .skip)
    else if c = '/' then (.inTag .selfClosing true raw, .skip)
    else if c = '>' then closeTag true raw false
    else textStep (some raw) ('<' :: '/' :: name) c
  else textStep (some raw) ('<' :: '/' :: name) c

def beforeNameStep (closing : Bool) (name : List Char) (c : Char) : State × Edit :=
  if isSpace c then (.inTag .beforeName closing name, .skip)
  else if c = '/' then (.inTag .selfClosing closing name, .skip)
  else if c = '>' then closeTag closing name false
  else (.inTag .name closing name, .newAttribute c.toLower)

def tagStep (phase : TagPhase) (closing : Bool) (name : List Char) (c : Char) :
    State × Edit :=
  match phase with
  | .beforeName => beforeNameStep closing name c
  | .name =>
      if isSpace c then (.inTag .afterName closing name, .skip)
      else if c = '/' then (.inTag .selfClosing closing name, .skip)
      else if c = '>' then closeTag closing name false
      else if c = '=' then (.inTag .beforeValue closing name, .skip)
      else (.inTag .name closing name, .attributeName c.toLower)
  | .afterName =>
      if c = '=' then (.inTag .beforeValue closing name, .skip)
      else if isSpace c then (.inTag .afterName closing name, .skip)
      else beforeNameStep closing name c
  | .beforeValue =>
      if isSpace c then (.inTag .beforeValue closing name, .skip)
      else if c = '"' then (.inTag .doubleQuoted closing name, .skip)
      else if c = '\'' then (.inTag .singleQuoted closing name, .skip)
      else if c = '>' then closeTag closing name false
      else (.inTag .unquoted closing name, .attributeValue c)
  | .doubleQuoted =>
      if c = '"' then (.inTag .afterQuoted closing name, .skip)
      else (.inTag .doubleQuoted closing name, .attributeValue c)
  | .singleQuoted =>
      if c = '\'' then (.inTag .afterQuoted closing name, .skip)
      else (.inTag .singleQuoted closing name, .attributeValue c)
  | .unquoted =>
      if isSpace c then (.inTag .beforeName closing name, .skip)
      else if c = '>' then closeTag closing name false
      else (.inTag .unquoted closing name, .attributeValue c)
  | .afterQuoted => beforeNameStep closing name c
  | .selfClosing =>
      if c = '>' then closeTag closing name true else beforeNameStep closing name c

/-- The tokenizer; character references stay in the texts as they are written. -/
def step : State -> Char -> State × Edit
  | .text raw, c => textStep raw [] c
  | .lessThan raw, c => lessThanStep raw c
  | .endTagOpen, c =>
      if c.isAlpha then (.tagName true [c.toLower], .skip)
      else if c = '>' then (.text none, .skip)
      else (.declaration, .skip)
  | .rawEndTag raw name, c => rawEndTagStep raw name c
  | .tagName closing name, c =>
      if isSpace c then (.inTag .beforeName closing name, .skip)
      else if c = '/' then (.inTag .selfClosing closing name, .skip)
      else if c = '>' then closeTag closing name false
      else (.tagName closing (name ++ [c.toLower]), .skip)
  | .inTag phase closing name, c => tagStep phase closing name c
  | .markupDeclaration, c =>
      if c = '-' then (.declarationDash, .skip)
      else if c = '>' then (.text none, .declaration)
      else (.declaration, .skip)
  | .declarationDash, c =>
      if c = '-' then (.comment 2, .skip)
      else if c = '>' then (.text none, .declaration)
      else (.declaration, .skip)
  | .comment dashes, c =>
      if c = '-' then (.comment (min (dashes + 1) 2), .skip)
      else if c = '>' ∧ dashes = 2 then (.text none, .declaration)
      else (.comment 0, .skip)
  | .declaration, c =>
      if c = '>' then (.text none, .declaration) else (.declaration, .skip)

/-!
# Tokens
-/

inductive Token (κ : Type) where
  | text (run : List (Sym κ))
  | tag (closing : Bool) (name : List Char) (attributes : List (List Char × List (Sym κ)))
      (selfClosing : Bool)
  | declaration
  deriving Repr, DecidableEq

/-- The tokens read so far, the text behind them, and the attributes of the tag that is
being read, the last one first. -/
structure Output (κ : Type) where
  tokens : List (Token κ)
  run : List (Sym κ)
  attributes : List (List Char × List (Sym κ))
  deriving Repr, DecidableEq

variable {κ : Type}

def extendValue (symbols : List (Sym κ)) :
    List (List Char × List (Sym κ)) -> List (List Char × List (Sym κ))
  | [] => []
  | (name, value) :: rest => (name, value ++ symbols) :: rest

def extendName (c : Char) :
    List (List Char × List (Sym κ)) -> List (List Char × List (Sym κ))
  | [] => []
  | (name, value) :: rest => (name ++ [c], value) :: rest

def chars (text : List Char) : List (Sym κ) := text.map .char

namespace Output

def addText (o : Output κ) (symbols : List (Sym κ)) : Output κ :=
  { o with run := o.run ++ symbols }

def addValue (o : Output κ) (symbols : List (Sym κ)) : Output κ :=
  { o with attributes := extendValue symbols o.attributes }

/-- The text before a token ends there, also if it is empty. -/
def addToken (o : Output κ) (t : Token κ) : Output κ where
  tokens := o.tokens ++ [.text o.run, t]
  run := []
  attributes := []

def apply (o : Output κ) : Edit -> Output κ
  | .skip => o
  | .text text => o.addText (chars text)
  | .newAttribute c => { o with attributes := ([c], []) :: o.attributes }
  | .attributeName c => { o with attributes := extendName c o.attributes }
  | .attributeValue c => o.addValue (chars [c])
  | .tag closing name selfClosing =>
      o.addToken (.tag closing name o.attributes.reverse selfClosing)
  | .declaration => o.addToken .declaration

end Output

structure Lexer (κ : Type) where
  state : State
  output : Output κ
  deriving Repr, DecidableEq

namespace Lexer

def start : Lexer κ where
  state := .text none
  output := { tokens := [], run := [], attributes := [] }

/-- A place is read where text or a quoted value is. -/
def readSlot (L : Lexer κ) (k : κ) : Lexer κ :=
  match L.state with
  | .text _ => { L with output := L.output.addText [.slot k] }
  | .inTag .doubleQuoted _ _ => { L with output := L.output.addValue [.slot k] }
  | _ => L

def readChar (L : Lexer κ) (c : Char) : Lexer κ where
  state := (step L.state c).1
  output := L.output.apply (step L.state c).2

def read (L : Lexer κ) : Sym κ -> Lexer κ
  | .char c => L.readChar c
  | .slot k => L.readSlot k

def readAll (L : Lexer κ) (symbols : List (Sym κ)) : Lexer κ := symbols.foldl read L

/-- The characters that the end of the text leaves as text. -/
def pending : State -> List Char
  | .lessThan _ => ['<']
  | .endTagOpen => ['<', '/']
  | .rawEndTag _ name => '<' :: '/' :: name
  | _ => []

def finish (L : Lexer κ) : List (Token κ) :=
  L.output.tokens ++ [.text (L.output.run ++ chars (pending L.state))]

end Lexer

def tokenize (symbols : List (Sym κ)) : List (Token κ) :=
  (Lexer.start.readAll symbols).finish

example : (tokenize (chars "<p>1 < 2</p>".toList) : List (Token Nat)) =
    [.text [], .tag false ['p'] [] false, .text (chars "1 < 2".toList),
      .tag true ['p'] [] false, .text []] := by
  decide

end Markup
end Text
end ServerComponents
