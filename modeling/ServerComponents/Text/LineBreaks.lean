import ServerComponents.Text.Filled

/-!
# Carriage returns before line feeds

They do not change how a text is read.
-/

namespace ServerComponents
namespace Text
namespace Markup

variable {κ : Type}

/-- The first text is the second one with carriage returns before some line feeds. -/
inductive SameBreaks : List (Sym κ) -> List (Sym κ) -> Prop where
  | nil : SameBreaks [] []
  | cons (x : Sym κ) {u v : List (Sym κ)} : SameBreaks u v -> SameBreaks (x :: u) (x :: v)
  | lineFeed {u v : List (Sym κ)} : SameBreaks u v ->
      SameBreaks (.char '\r' :: .char '\n' :: u) (.char '\n' :: v)

theorem sameBreaks_refl (u : List (Sym κ)) : SameBreaks u u := by
  induction u with
  | nil => exact SameBreaks.nil
  | cons x rest ih => exact ih.cons x

theorem SameBreaks.append {u v u' v' : List (Sym κ)} (h : SameBreaks u v)
    (h' : SameBreaks u' v') : SameBreaks (u ++ u') (v ++ v') := by
  induction h with
  | nil => exact h'
  | cons x _ ih => exact ih.cons x
  | lineFeed _ ih => exact ih.lineFeed

theorem sameBreaks_lineFeed :
    SameBreaks (chars ['\r', '\n'] : List (Sym κ)) (chars ['\n']) :=
  SameBreaks.nil.lineFeed

def SameValue (a a' : List Char × List (Sym κ)) : Prop :=
  a.1 = a'.1 ∧ SameBreaks a.2 a'.2

/-- Tokens that differ in line breaks at most. -/
inductive SameToken : Token κ -> Token κ -> Prop where
  | text {u v : List (Sym κ)} : SameBreaks u v -> SameToken (.text u) (.text v)
  | tag (closing : Bool) (name : List Char)
      {attributes attributes' : List (List Char × List (Sym κ))} (selfClosing : Bool) :
      List.Forall₂ SameValue attributes attributes' ->
      SameToken (.tag closing name attributes selfClosing)
        (.tag closing name attributes' selfClosing)
  | declaration : SameToken .declaration .declaration

namespace Output

structure SameBreaks (o o' : Output κ) : Prop where
  tokens : List.Forall₂ SameToken o.tokens o'.tokens
  run : Markup.SameBreaks o.run o'.run
  attributes : List.Forall₂ SameValue o.attributes o'.attributes

variable {o o' : Output κ}

theorem SameBreaks.addText (h : o.SameBreaks o') {u v : List (Sym κ)}
    (huv : Markup.SameBreaks u v) : (o.addText u).SameBreaks (o'.addText v) where
  tokens := h.tokens
  run := h.run.append huv
  attributes := h.attributes

theorem SameBreaks.addValue (h : o.SameBreaks o') {u v : List (Sym κ)}
    (huv : Markup.SameBreaks u v) : (o.addValue u).SameBreaks (o'.addValue v) where
  tokens := h.tokens
  run := h.run
  attributes := by
    rcases o with ⟨tokens, run, attributes⟩
    rcases o' with ⟨tokens', run', attributes'⟩
    cases h.attributes with
    | nil => exact List.Forall₂.nil
    | cons hfirst hrest => exact List.Forall₂.cons ⟨hfirst.1, hfirst.2.append huv⟩ hrest

theorem SameBreaks.addToken (h : o.SameBreaks o') {t t' : Token κ} (ht : SameToken t t') :
    (o.addToken t).SameBreaks (o'.addToken t') where
  tokens := List.rel_append h.tokens
    (List.Forall₂.cons (SameToken.text h.run) (List.Forall₂.cons ht List.Forall₂.nil))
  run := Markup.SameBreaks.nil
  attributes := List.Forall₂.nil

theorem SameBreaks.apply (h : o.SameBreaks o') (e : Edit) :
    (o.apply e).SameBreaks (o'.apply e) := by
  cases e with
  | skip => exact h
  | text text => exact h.addText (sameBreaks_refl (chars text))
  | newAttribute c =>
      exact ⟨h.tokens, h.run, List.Forall₂.cons ⟨rfl, Markup.SameBreaks.nil⟩ h.attributes⟩
  | attributeName c =>
      refine ⟨h.tokens, h.run, ?_⟩
      rcases o with ⟨tokens, run, attributes⟩
      rcases o' with ⟨tokens', run', attributes'⟩
      cases h.attributes with
      | nil => exact List.Forall₂.nil
      | cons hfirst hrest =>
          refine List.Forall₂.cons ⟨?_, hfirst.2⟩ hrest
          rw [hfirst.1]
  | attributeValue c => exact h.addValue (sameBreaks_refl (chars [c]))
  | tag closing name selfClosing =>
      exact h.addToken (SameToken.tag closing name selfClosing
        (List.rel_reverse h.attributes))
  | declaration => exact h.addToken SameToken.declaration

end Output

namespace Lexer

structure SameBreaks (L L' : Lexer κ) : Prop where
  state : L.state = L'.state
  output : L.output.SameBreaks L'.output

variable {L L' : Lexer κ}

theorem SameBreaks.read (h : L.SameBreaks L') (x : Sym κ) :
    (L.read x).SameBreaks (L'.read x) := by
  cases x with
  | char c =>
      constructor
      · show (step L.state c).1 = (step L'.state c).1
        rw [h.state]
      · show (L.output.apply (step L.state c).2).SameBreaks
          (L'.output.apply (step L'.state c).2)
        rw [h.state]
        exact h.output.apply _
  | slot k =>
      show (L.readSlot k).SameBreaks (L'.readSlot k)
      unfold readSlot
      rw [← h.state]
      split
      · exact ⟨rfl, h.output.addText (sameBreaks_refl _)⟩
      · exact ⟨rfl, h.output.addValue (sameBreaks_refl _)⟩
      · exact h

theorem SameBreaks.readBreak (h : L.SameBreaks L') :
    ((L.readChar '\r').readChar '\n').SameBreaks (L'.readChar '\n') := by
  rcases L with ⟨state, output⟩
  rcases L' with ⟨state', output'⟩
  have hstate : state = state' := h.state
  have houtput : output.SameBreaks output' := h.output
  have htext : forall pending, ((output.addText (chars (pending ++ ['\r']))).addText
      (chars ['\n'])).SameBreaks (output'.addText (chars (pending ++ ['\n']))) := by
    intro pending
    rw [Output.addText_addText, chars_append, chars_append, List.append_assoc]
    exact houtput.addText ((sameBreaks_refl _).append sameBreaks_lineFeed)
  have hvalue : ((output.addValue (chars ['\r'])).addValue (chars ['\n'])).SameBreaks
      (output'.addValue (chars ['\n'])) := by
    rw [Output.addValue_addValue]
    exact houtput.addValue sameBreaks_lineFeed
  rw [← hstate]
  cases state with
  | text raw => exact ⟨rfl, htext []⟩
  | lessThan raw =>
      cases raw with
      | none => exact ⟨rfl, htext ['<']⟩
      | some element => exact ⟨rfl, htext ['<']⟩
  | endTagOpen => exact ⟨rfl, houtput⟩
  | rawEndTag raw name =>
      have hreturn : step (.rawEndTag raw name) '\r' =
          if name.map Char.toLower = raw then (.inTag .beforeName true raw, .skip)
          else textStep (some raw) ('<' :: '/' :: name) '\r' := rfl
      have hfeed : step (.rawEndTag raw name) '\n' =
          if name.map Char.toLower = raw then (.inTag .beforeName true raw, .skip)
          else textStep (some raw) ('<' :: '/' :: name) '\n' := rfl
      unfold readChar
      dsimp only
      rw [hreturn, hfeed]
      split
      · exact ⟨rfl, houtput⟩
      · exact ⟨rfl, htext ('<' :: '/' :: name)⟩
  | tagName closing name => exact ⟨rfl, houtput⟩
  | inTag phase closing name =>
      cases phase with
      | doubleQuoted => exact ⟨rfl, hvalue⟩
      | singleQuoted => exact ⟨rfl, hvalue⟩
      | _ => exact ⟨rfl, houtput⟩
  | markupDeclaration => exact ⟨rfl, houtput⟩
  | declarationDash => exact ⟨rfl, houtput⟩
  | comment dashes => exact ⟨rfl, houtput⟩
  | declaration => exact ⟨rfl, houtput⟩

theorem SameBreaks.readAll {u v : List (Sym κ)} (huv : Markup.SameBreaks u v)
    (h : L.SameBreaks L') : (L.readAll u).SameBreaks (L'.readAll v) := by
  induction huv generalizing L L' with
  | nil => exact h
  | cons x _ ih => exact ih (h.read x)
  | lineFeed _ ih => exact ih h.readBreak

end Lexer

theorem tokenize_sameBreaks {u v : List (Sym κ)} (h : SameBreaks u v) :
    List.Forall₂ SameToken (tokenize u) (tokenize v) := by
  have hstart : (Lexer.start : Lexer κ).SameBreaks Lexer.start :=
    ⟨rfl, List.Forall₂.nil, SameBreaks.nil, List.Forall₂.nil⟩
  have hend := hstart.readAll h
  unfold tokenize Lexer.finish
  rw [hend.state]
  apply List.rel_append hend.output.tokens
  apply List.Forall₂.cons _ List.Forall₂.nil
  exact SameToken.text (hend.output.run.append (sameBreaks_refl _))

end Markup
end Text
end ServerComponents
