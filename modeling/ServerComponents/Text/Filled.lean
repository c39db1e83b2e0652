import ServerComponents.Text.Markup

/-!
# Texts in the places of a template

Texts without markup may be put into the places before or after the template is read.
-/

namespace ServerComponents
namespace Text
namespace Markup

variable {κ : Type}

def Sym.fill (values : κ -> List Char) : Sym κ -> List (Sym κ)
  | .char c => [.char c]
  | .slot k => chars (values k)

def fill (values : κ -> List Char) (symbols : List (Sym κ)) : List (Sym κ) :=
  symbols.flatMap (Sym.fill values)

def fillAttributes (values : κ -> List Char) (attributes : List (List Char × List (Sym κ))) :
    List (List Char × List (Sym κ)) :=
  attributes.map (fun a => (a.1, fill values a.2))

/-- Only texts and the values of attributes change. -/
def Token.fill (values : κ -> List Char) : Token κ -> Token κ
  | .text run => .text (Markup.fill values run)
  | .tag closing name attributes selfClosing =>
      .tag closing name (fillAttributes values attributes) selfClosing
  | .declaration => .declaration

section Fill

variable {values : κ -> List Char}

theorem fill_append (u v : List (Sym κ)) :
    fill values (u ++ v) = fill values u ++ fill values v :=
  List.flatMap_append

theorem fill_chars (text : List Char) : fill values (chars text) = chars text := by
  induction text with
  | nil => rfl
  | cons c rest ih =>
      show Sym.char c :: fill values (chars rest) = Sym.char c :: chars rest
      rw [ih]

theorem fill_slot_cons (k : κ) (rest : List (Sym κ)) :
    fill values (.slot k :: rest) = chars (values k) ++ fill values rest := rfl

theorem fill_slot (k : κ) : fill values [.slot k] = chars (values k) :=
  List.append_nil _

theorem chars_append (u v : List Char) :
    (chars (u ++ v) : List (Sym κ)) = chars u ++ chars v :=
  List.map_append

theorem extendValue_append (u v : List (Sym κ))
    (attributes : List (List Char × List (Sym κ))) :
    extendValue (u ++ v) attributes = extendValue v (extendValue u attributes) := by
  cases attributes with
  | nil => rfl
  | cons a rest => simp [extendValue]

theorem fillAttributes_extendValue (symbols : List (Sym κ))
    (attributes : List (List Char × List (Sym κ))) :
    fillAttributes values (extendValue symbols attributes) =
      extendValue (fill values symbols) (fillAttributes values attributes) := by
  cases attributes with
  | nil => rfl
  | cons a rest => simp [extendValue, fillAttributes, fill_append]

theorem fillAttributes_extendName (c : Char)
    (attributes : List (List Char × List (Sym κ))) :
    fillAttributes values (extendName c attributes) =
      extendName c (fillAttributes values attributes) := by
  cases attributes with
  | nil => rfl
  | cons a rest => rfl

end Fill

namespace Output

def fill (values : κ -> List Char) (o : Output κ) : Output κ where
  tokens := o.tokens.map (Token.fill values)
  run := Markup.fill values o.run
  attributes := fillAttributes values o.attributes

variable {values : κ -> List Char} (o : Output κ)

theorem fill_addText (symbols : List (Sym κ)) :
    (o.addText symbols).fill values = (o.fill values).addText (Markup.fill values symbols) := by
  simp [addText, fill, fill_append]

theorem fill_addValue (symbols : List (Sym κ)) :
    (o.addValue symbols).fill values =
      (o.fill values).addValue (Markup.fill values symbols) := by
  simp [addValue, fill, fillAttributes_extendValue]

theorem fill_addToken (t : Token κ) :
    (o.addToken t).fill values = (o.fill values).addToken (t.fill values) := by
  simp [addToken, fill, Token.fill, Markup.fill, fillAttributes]

theorem fill_apply (e : Edit) : (o.apply e).fill values = (o.fill values).apply e := by
  cases e with
  | skip => rfl
  | text text =>
      show (o.addText (chars text)).fill values = (o.fill values).addText (chars text)
      rw [fill_addText, fill_chars]
  | newAttribute c => rfl
  | attributeName c =>
      simp only [apply, fill, fillAttributes_extendName]
  | attributeValue c =>
      show (o.addValue (chars [c])).fill values = (o.fill values).addValue (chars [c])
      rw [fill_addValue, fill_chars]
  | tag closing name selfClosing =>
      show (o.addToken _).fill values = (o.fill values).addToken _
      rw [fill_addToken]
      simp [Token.fill, fill, fillAttributes]
  | declaration => exact o.fill_addToken .declaration

theorem addText_addText (u v : List (Sym κ)) :
    (o.addText u).addText v = o.addText (u ++ v) := by
  simp [addText]

theorem addText_nil : o.addText [] = o := by
  simp [addText]

theorem addValue_addValue (u v : List (Sym κ)) :
    (o.addValue u).addValue v = o.addValue (u ++ v) := by
  simp [addValue, extendValue_append]

theorem addValue_nil : o.addValue [] = o := by
  cases o with
  | mk tokens run attributes =>
      cases attributes with
      | nil => rfl
      | cons a rest => simp [addValue, extendValue]

end Output

/-!
# Texts without markup
-/

/-- No less-than sign of the text begins markup. -/
def Inert (text : List Char) : Prop :=
  forall c, opensMarkup c = true -> Not (['<', c] <:+: text)

theorem Inert.tail {c : Char} {text : List Char} (h : Inert (c :: text)) : Inert text :=
  fun d hd hoccurs => h d hd (hoccurs.trans (List.suffix_cons c text).isInfix)

theorem Inert.head {c : Char} {text : List Char} (h : Inert ('<' :: c :: text)) :
    opensMarkup c = false := by
  cases hc : opensMarkup c with
  | false => rfl
  | true =>
      have hstart : ['<', c] <+: '<' :: c :: text := ⟨text, rfl⟩
      exact absurd hstart.isInfix (h c hc)

theorem inert_of_not_mem {text : List Char} (h : '<' ∉ text) : Inert text :=
  fun _ _ hoccurs => h (hoccurs.subset (by simp))

namespace Lexer

/-- The less-than sign before a character that does not open markup is text. -/
def settled (L : Lexer κ) : Lexer κ :=
  match L.state with
  | .lessThan raw => ⟨.text raw, L.output.addText (chars ['<'])⟩
  | _ => L

variable {raw : Option (List Char)}

theorem settled_text {L : Lexer κ} (h : L.state = .text raw) :
    L.settled = L := by
  unfold settled
  rw [h]

theorem readChar_settled {L : Lexer κ} {c : Char} (hc : opensMarkup c = false) :
    L.settled.readChar c = L.readChar c := by
  rcases L with ⟨state, output⟩
  simp only [opensMarkup, Bool.or_eq_false_iff, beq_eq_false_iff_ne] at hc
  rcases hc with ⟨⟨⟨halpha, hslash⟩, hbang⟩, hquestion⟩
  cases state with
  | lessThan raw =>
      have hstep : step (.lessThan raw) c = textStep raw ['<'] c := by
        cases raw with
        | none => simp [step, lessThanStep, hslash, hbang, hquestion, halpha]
        | some element => simp [step, lessThanStep, hslash]
      unfold readChar
      rw [hstep]
      by_cases hless : c = '<'
      · simp [settled, step, textStep, hless, Output.apply, Output.addText, chars]
      · simp [settled, step, textStep, hless, Output.apply, Output.addText, chars]
  | _ => rfl

theorem finish_settled (L : Lexer κ) : L.settled.finish = L.finish := by
  rcases L with ⟨state, output⟩
  cases state with
  | lessThan raw => simp [settled, finish, pending, Output.addText, chars]
  | _ => rfl

/-- Text is read, perhaps with a less-than sign that no markup follows. -/
def Reads (raw : Option (List Char)) (L : Lexer κ) (next : List Char) : Prop :=
  L.state = .text raw ∨
    L.state = .lessThan raw ∧ forall c, next.head? = some c -> opensMarkup c = false

theorem Reads.settled {L : Lexer κ} {next : List Char}
    (h : L.Reads raw next) : L.settled.state = .text raw := by
  rcases h with h | ⟨h, _⟩
  · rw [settled_text h, h]
  · unfold Lexer.settled
    rw [h]

theorem Reads.readChar {L : Lexer κ} {c : Char} {next : List Char} (h : L.Reads raw (c :: next)) :
    L.readChar c = L.settled.readChar c := by
  rcases h with h | ⟨_, hc⟩
  · rw [settled_text h]
  · rw [readChar_settled (hc c rfl)]

theorem readAll_append (L : Lexer κ) (u v : List (Sym κ)) :
    L.readAll (u ++ v) = (L.readAll u).readAll v :=
  List.foldl_append

theorem readAll_inert {text : List Char} (htext : Inert text)
    {L : Lexer κ} (hL : L.Reads raw text) :
    (L.readAll (chars text)).settled = ⟨.text raw, L.settled.output.addText (chars text)⟩ ∧
      ((L.readAll (chars text)).state = .text raw ∨
        (L.readAll (chars text)).state = .lessThan raw) := by
  induction text generalizing L with
  | nil =>
      constructor
      · show L.settled = ⟨.text raw, L.settled.output.addText []⟩
        rw [Output.addText_nil, ← hL.settled]
      · exact hL.imp_right And.left
  | cons c rest ih =>
      have hread : L.readAll (chars (c :: rest)) = (L.settled.readChar c).readAll (chars rest) := by
        rw [← hL.readChar]
        rfl
      have hstate := hL.settled
      have hsettled : (L.settled.readChar c).settled =
            ⟨.text raw, L.settled.output.addText (chars [c])⟩ ∧
          (L.settled.readChar c).Reads raw rest := by
        unfold Lexer.readChar
        rw [hstate]
        by_cases hless : c = '<'
        · rw [hless] at htext ⊢
          constructor
          · simp [Lexer.settled, step, textStep, Output.apply, Output.addText, chars]
          · right
            constructor
            · rfl
            · intro d hd
              cases rest with
              | nil => cases hd
              | cons d' rest' =>
                  cases hd
                  exact htext.head
        · constructor
          · simp [Lexer.settled, step, textStep, hless, Output.apply, chars]
          · left
            simp [step, textStep, hless]
      rcases ih htext.tail hsettled.2 with ⟨hout, hend⟩
      rw [hread]
      refine ⟨?_, hend⟩
      rw [hout, hsettled.1, Output.addText_addText]
      rfl

theorem readAll_quoted {closing : Bool} {name text : List Char} (htext : '"' ∉ text)
    {L : Lexer κ} (hL : L.state = .inTag .doubleQuoted closing name) :
    L.readAll (chars text) = ⟨L.state, L.output.addValue (chars text)⟩ := by
  induction text generalizing L with
  | nil =>
      show L = ⟨L.state, L.output.addValue []⟩
      rw [Output.addValue_nil]
  | cons c rest ih =>
      rw [List.mem_cons, not_or] at htext
      have hread : L.readChar c = ⟨L.state, L.output.addValue (chars [c])⟩ := by
        unfold Lexer.readChar
        rw [hL]
        simp [step, tagStep, Ne.symm htext.1, Output.apply]
      show (L.readChar c).readAll (chars rest) = _
      rw [hread, @ih htext.2 ⟨L.state, L.output.addValue (chars [c])⟩ hL,
        Output.addValue_addValue]
      rfl

end Lexer

/-!
# Places
-/

inductive Place (κ : Type) where
  | text (k : κ)
  | attribute (k : κ)
  | elsewhere (k : κ)
  deriving Repr, DecidableEq

def Follows : List (Sym κ) -> Bool
  | [] => true
  | .char c :: _ => !opensMarkup c
  | .slot _ :: _ => false

def placeOf (s : State) (k : κ) (rest : List (Sym κ)) : Place κ :=
  match s with
  | .text _ => if Follows rest then .text k else .elsewhere k
  | .inTag .doubleQuoted _ _ => .attribute k
  | _ => .elsewhere k

def placesFrom : State -> List (Sym κ) -> List (Place κ)
  | _, [] => []
  | s, .char c :: rest => placesFrom (step s c).1 rest
  | s, .slot k :: rest => placeOf s k rest :: placesFrom s rest

def places (symbols : List (Sym κ)) : List (Place κ) := placesFrom (.text none) symbols

/-- The value of a place has no markup of its own. -/
def Place.Admits (values : κ -> List Char) : Place κ -> Prop
  | .text k => Inert (values k)
  | .attribute k => '"' ∉ values k
  | .elsewhere _ => False

namespace Lexer

def fill (values : κ -> List Char) (L : Lexer κ) : Lexer κ where
  state := L.state
  output := L.output.fill values

variable {values : κ -> List Char}

theorem fill_readChar (L : Lexer κ) (c : Char) :
    (L.readChar c).fill values = (L.fill values).readChar c := by
  show Lexer.mk _ ((L.output.apply _).fill values) = Lexer.mk _ ((L.output.fill values).apply _)
  rw [Output.fill_apply]
  rfl

theorem fill_finish (L : Lexer κ) :
    (L.fill values).finish = L.finish.map (Token.fill values) := by
  simp [finish, fill, Output.fill, Token.fill, fill_append, fill_chars]

/-- The filled template up to here, perhaps with a less-than sign that is still open. -/
def Follow (values : κ -> List Char) (L L' : Lexer κ) (rest : List (Sym κ)) : Prop :=
  L' = L.fill values ∨
    L'.settled = L.fill values ∧ Follows rest = true

theorem follow_slot {L : Lexer κ} {k : κ} {rest : List (Sym κ)}
    (h : (placeOf L.state k rest).Admits values) :
    Follow values (L.readSlot k) ((L.fill values).readAll (chars (values k))) rest ∧
      (L.readSlot k).state = L.state := by
  unfold placeOf at h
  unfold readSlot
  split at h
  · rename_i raw hstate
    split at h
    · rename_i hfollows
      have htext : (L.fill values).state = .text raw := hstate
      rcases readAll_inert h (Or.inl htext) with ⟨hsettled, _⟩
      rw [hstate]
      constructor
      · right
        constructor
        · rw [hsettled, settled_text htext]
          unfold fill
          rw [Output.fill_addText, fill_slot]
        · exact hfollows
      · rfl
    · exact absurd h id
  · rename_i closing name hstate
    rw [hstate]
    constructor
    · left
      have hquoted : (L.fill values).state = .inTag .doubleQuoted closing name := hstate
      rw [readAll_quoted h hquoted, hquoted]
      unfold fill
      rw [Output.fill_addValue, fill_slot]
    · rfl
  · exact absurd h id

theorem follow_readAll {symbols : List (Sym κ)} {L L' : Lexer κ}
    (hplaces : forall p, p ∈ placesFrom L.state symbols -> p.Admits values)
    (h : Follow values L L' symbols) :
    Follow values (L.readAll symbols) (L'.readAll (Markup.fill values symbols)) [] := by
  induction symbols generalizing L L' with
  | nil => exact h.imp_right (fun hsettled => ⟨hsettled.1, rfl⟩)
  | cons symbol rest ih =>
      cases symbol with
      | char c =>
          have hread : L'.readChar c = (L.readChar c).fill values := by
            rw [fill_readChar]
            rcases h with h | ⟨hsettled, hfollows⟩
            · rw [h]
            · have hc : opensMarkup c = false := by
                simpa [Follows] using hfollows
              rw [← readChar_settled hc, hsettled]
          exact @ih (L.readChar c) (L'.readChar c) hplaces (Or.inl hread)
      | slot k =>
          have hslot : (placeOf L.state k rest).Admits values :=
            hplaces _ List.mem_cons_self
          have hL' : L' = L.fill values := by
            rcases h with h | ⟨_, hfollows⟩
            · exact h
            · cases hfollows
          rcases @follow_slot κ values L k rest hslot with ⟨hfollow, hstate⟩
          rw [fill_slot_cons, readAll_append, hL']
          apply @ih (L.readSlot k) _ _ hfollow
          rw [hstate]
          exact fun p hp => hplaces p (List.mem_cons_of_mem _ hp)

end Lexer

theorem tokenize_fill {values : κ -> List Char} {symbols : List (Sym κ)}
    (h : forall p, p ∈ places symbols -> p.Admits values) :
    tokenize (fill values symbols) = (tokenize symbols).map (Token.fill values) := by
  have hstart : Lexer.start = (Lexer.start : Lexer κ).fill values := rfl
  have hfollow := @Lexer.follow_readAll κ values symbols Lexer.start Lexer.start h
    (Or.inl hstart)
  unfold tokenize
  rw [← Lexer.fill_finish]
  rcases hfollow with hfollow | ⟨hsettled, _⟩
  · rw [hfollow]
  · rw [← Lexer.finish_settled, hsettled]

end Markup
end Text
end ServerComponents
