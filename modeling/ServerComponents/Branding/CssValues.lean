import ServerComponents.Branding.ReconciledFonts
import ServerComponents.Branding.ServedValues
import ServerComponents.Text.Css

/-!
# Theme values as CSS

The texts that the checks of the theme tokens accept, and the stacks composed from a family
and its fallback, as the tokens of CSS. None of them ends its declaration or leaves a string
open; a length with a dot behind which no digit stands, and a list of families whose pieces
are not each a string or identifiers, are accepted and are no values.
-/

namespace ServerComponents
namespace Branding

open Relational
open Css (Closed Harmless IsFamily IsFamilyList IsReserved Leaves Stops Token inString isName
  isPlain significant startsIdent tokens)

/-!
# What is to be served
-/

def IsCssValue (type : ThemeTokenType) (value : String) : Prop :=
  match type with
  | .color => Css.IsHexColor (significant (tokens value.toList))
  | .length => Css.IsLength (significant (tokens value.toList))
  | .fontFamily => IsFamilyList (significant (tokens value.toList))
  | .weight => Css.IsWeight (significant (tokens value.toList))

/-!
# How a list of families is written
-/

inductive Lexeme where
  | quoted (text : List Char)
  | word (text : List Char)
  | comma
  deriving Repr, DecidableEq

def isWordChar (c : Char) : Bool := c != '"' && c != ' ' && c != ','

/-- The quoted texts, the words and the commas of a text that begins within quotes or
outside. -/
def lexemes : Bool -> List Char -> List Lexeme
  | _, [] => []
  | true, c :: rest =>
      if c = '"' then .quoted [] :: lexemes false rest
      else
        match lexemes true rest with
        | .quoted text :: later => .quoted (c :: text) :: later
        | later => later
  | false, c :: rest =>
      if c = '"' then lexemes true rest
      else if c = ' ' then lexemes false rest
      else if c = ',' then .comma :: lexemes false rest
      else
        match rest.head?.any isWordChar, lexemes false rest with
        | true, .word text :: later => .word (c :: text) :: later
        | _, later => .word [c] :: later

def listPieces (value : String) : List (List Lexeme) :=
  (lexemes false value.toList).splitOnP (fun lexeme => lexeme == .comma)

/-- The word begins with a digit, or with a hyphen before a digit or before nothing. -/
def startsBadly : List Char -> Bool
  | ['-'] => true
  | '-' :: c :: _ => c.isDigit
  | c :: _ => c.isDigit
  | [] => true

/-- Each piece is one quoted text or words, and the words are names. -/
structure FamiliesWritten (value : String) : Prop where
  named : forall piece, piece ∈ listPieces value -> piece ≠ []
  unmixed : forall piece text, piece ∈ listPieces value -> .quoted text ∈ piece ->
    piece = [.quoted text]
  words : forall word, .word word ∈ lexemes false value.toList -> startsBadly word = false
  unreserved : forall word, [.word word] ∈ listPieces value ->
    Css.lower word ∉ Css.reservedKeywords

/-- A digit stands behind the dot of a length. -/
def DotFollowed (value : String) : Prop :=
  match value.toList.dropWhile Char.isDigit with
  | '.' :: c :: _ => c.isDigit = true
  | _ => True

/-- What a value must be over and above accepted. -/
def WrittenPlainly (type : ThemeTokenType) (value : String) : Prop :=
  match type with
  | .color | .weight => True
  | .length => DotFollowed value
  | .fontFamily => FamiliesWritten value

/-- The words, quoted texts and signs that a list of families consists of. -/
inductive ListText : List Char -> Prop where
  | nil : ListText []
  | space {rest : List Char} : ListText rest -> ListText (' ' :: rest)
  | comma {rest : List Char} : ListText rest -> ListText (',' :: rest)
  | quoted {text rest : List Char} : (forall c, c ∈ text -> inString '"' c = true) ->
      ListText rest -> ListText ('"' :: (text ++ '"' :: rest))
  | word {word rest : List Char} : word ≠ [] -> (forall c, c ∈ word -> isName c = true) ->
      (forall c, rest.head? = some c -> isName c = false) -> ListText rest ->
        ListText (word ++ rest)

def isListChar (c : Char) : Bool :=
  c == '"' || isAsciiAlnum c || c == ' ' || c == '-' || c == '_' || c == ','

/-!
# Lists of families
-/

section Families

variable {cs rest text : List Char} {value : String}

theorem lexemes_quoted (h : '"' ∉ text) (rest : List Char) :
    lexemes true (text ++ '"' :: rest) = .quoted text :: lexemes false rest := by
  induction text with
  | nil => rfl
  | cons c text ih =>
      have hc : c ≠ '"' := fun heq => h (heq ▸ List.mem_cons_self)
      have hstep : forall rest, lexemes true (c :: rest) =
          match lexemes true rest with
          | .quoted text :: later => .quoted (c :: text) :: later
          | later => later := by
        intro rest
        show (if c = '"' then _ else _) = _
        rw [if_neg hc]
      rw [List.cons_append, hstep, ih (fun hmem => h (List.mem_cons_of_mem c hmem))]

theorem lexemes_word (h : forall c, c ∈ text -> isWordChar c = true) (hne : text ≠ [])
    (hstop : forall c, rest.head? = some c -> isWordChar c = false) :
    lexemes false (text ++ rest) = .word text :: lexemes false rest := by
  induction text with
  | nil => exact absurd rfl hne
  | cons c text ih =>
      have hc := h c List.mem_cons_self
      have hquote : c ≠ '"' := Css.ne_of_test hc (by decide)
      have hspace : c ≠ ' ' := Css.ne_of_test hc (by decide)
      have hcomma : c ≠ ',' := Css.ne_of_test hc (by decide)
      have hstep : forall rest, lexemes false (c :: rest) =
          match rest.head?.any isWordChar, lexemes false rest with
          | true, .word text :: later => .word (c :: text) :: later
          | _, later => .word [c] :: later := by
        intro rest
        show (if c = '"' then _ else _) = _
        rw [if_neg hquote, if_neg hspace, if_neg hcomma]
      rw [List.cons_append, hstep]
      cases text with
      | nil =>
          have hany : rest.head?.any isWordChar = false := by
            cases hhead : rest.head? with
            | none => rfl
            | some d => exact hstop d hhead
          rw [List.nil_append, hany]
      | cons d text =>
          have hd := h d (List.mem_cons_of_mem c List.mem_cons_self)
          rw [ih (fun e he => h e (List.mem_cons_of_mem c he)) (List.cons_ne_nil _ _),
            List.cons_append, List.head?_cons, Option.any_some, hd]

theorem isListChar_cases {c : Char} (h : isListChar c = true) :
    c = '"' ∨ c = ' ' ∨ c = ',' ∨ isName c = true := by
  unfold isListChar isAsciiAlnum at h
  simp only [Bool.or_eq_true, Bool.and_eq_true, decide_eq_true_eq, beq_iff_eq] at h
  unfold isName Css.isNameStart Char.isDigit
  simp only [Bool.or_eq_true, Bool.and_eq_true, decide_eq_true_eq, beq_iff_eq]
  tauto

theorem inString_of_isListChar {c : Char} (h : isListChar c = true) (hne : c ≠ '"') :
    inString '"' c = true := by
  have hc : (isListChar c && c != '"') = true := by
    rw [h, bne_iff_ne.mpr hne]
    rfl
  exact @Css.inString_of_test c (fun c => isListChar c && c != '"') '"' (by decide) hc

theorem listText_of_chars (h : forall c, c ∈ cs -> isListChar c = true)
    (heven : cs.count '"' % 2 = 0) : ListText cs := by
  induction hlength : cs.length using Nat.strongRecOn generalizing cs with
  | ind n ih =>
      subst hlength
      cases cs with
      | nil => exact .nil
      | cons c rest =>
          have hrest : forall d, d ∈ rest -> isListChar d = true :=
            fun d hd => h d (List.mem_cons_of_mem c hd)
          have hstep : c ≠ '"' -> ListText rest := by
            intro hc
            rw [List.count_cons_of_ne hc] at heven
            exact ih rest.length (Nat.lt_succ_self _) hrest heven rfl
          rcases isListChar_cases (h c List.mem_cons_self) with rfl | rfl | rfl | hname
          · rw [List.count_cons_self] at heven
            have hmem : '"' ∈ rest := by
              rw [← List.count_pos_iff]
              omega
            rcases List.eq_append_cons_of_mem hmem with ⟨text, later, rfl, hnot⟩
            rw [List.count_append, List.count_eq_zero_of_not_mem hnot, List.count_cons_self]
              at heven
            refine .quoted ?_ (ih later.length ?_ ?_ (by omega) rfl)
            · intro d hd
              exact inString_of_isListChar (hrest d (List.mem_append_left _ hd))
                (fun heq => hnot (heq ▸ hd))
            · rw [List.length_cons, List.length_append, List.length_cons]
              omega
            · intro d hd
              exact hrest d (List.mem_append_right _ (List.mem_cons_of_mem _ hd))
          · exact .space (hstep (by decide))
          · exact .comma (hstep (by decide))
          · have hsplit : c :: rest = (c :: rest.takeWhile isName) ++ rest.dropWhile isName := by
              rw [List.cons_append, List.takeWhile_append_dropWhile]
            have hword : forall d, d ∈ c :: rest.takeWhile isName -> isName d = true := by
              intro d hd
              rcases List.mem_cons.mp hd with rfl | hd
              · exact hname
              · exact Css.mem_takeWhile hd
            have hquote : (c :: rest.takeWhile isName).count '"' = 0 := by
              rw [List.count_eq_zero]
              intro hmem
              exact absurd (hword _ hmem) (by decide)
            rw [hsplit, List.count_append, hquote, Nat.zero_add] at heven
            rw [hsplit]
            refine .word (List.cons_ne_nil _ _) hword ?_ (ih _ ?_ ?_ heven rfl)
            · intro d hd
              have hhead := List.head?_dropWhile_not isName rest
              rw [hd] at hhead
              simpa using hhead
            · exact Nat.lt_succ_of_le (List.dropWhile_suffix _).length_le
            · intro d hd
              exact hrest d ((List.dropWhile_suffix _).mem hd)

theorem startsIdent_eq {word : List Char} (hne : word ≠ [])
    (h : forall c, c ∈ word -> isName c = true) : startsIdent word = !startsBadly word := by
  have hname : forall c, isName c = true -> c ≠ '-' -> Css.isNameStart c = !c.isDigit := by
    intro c hc hhyphen
    cases hstart : Css.isNameStart c with
    | true => rw [Css.isDigit_of_isNameStart hstart]; rfl
    | false =>
        unfold isName at hc
        rw [hstart, beq_false_of_ne hhyphen, Bool.or_false, Bool.false_or] at hc
        rw [hc]
        rfl
  rcases List.exists_cons_of_ne_nil hne with ⟨c, later, rfl⟩
  by_cases hc : c = '-'
  · subst hc
    cases later with
    | nil => rfl
    | cons d later =>
        change (Css.isNameStart d || d == '-') = !d.isDigit
        by_cases hd : d = '-'
        · rw [hd]
          decide
        · rw [hname d (h d (List.mem_cons_of_mem _ List.mem_cons_self)) hd, beq_false_of_ne hd,
            Bool.or_false]
  · have hbadly : startsBadly (c :: later) = c.isDigit := by
      unfold startsBadly
      split
      · rename_i heq
        cases heq
        exact absurd rfl hc
      · rename_i heq
        cases heq
        exact absurd rfl hc
      · rename_i heq
        cases heq
        rfl
      · rename_i heq
        cases heq
    rw [Css.startsIdent_of_ne hc, hbadly, hname c (h c List.mem_cons_self) hc]

def Lexeme.token : Lexeme -> Token
  | .quoted text => .string text
  | .word text => .ident text
  | .comma => .comma

theorem closed_append {word : List Char} (h : forall c, c ∈ word -> isPlain c = true)
    (hrest : Closed rest) : Closed (word ++ rest) := by
  induction word with
  | nil => exact hrest
  | cons c word ih =>
      exact .plain (h c List.mem_cons_self) (ih (fun d hd => h d (List.mem_cons_of_mem c hd)))

theorem isPlain_of_isName {c : Char} (h : isName c = true) : isPlain c = true := by
  unfold isPlain
  rw [h]
  rfl

theorem ListText.closed (h : ListText cs) : Closed cs := by
  induction h with
  | nil => exact .nil
  | space _ ih => exact .plain (by decide) ih
  | comma _ ih => exact .plain (by decide) ih
  | quoted htext _ ih => exact .string (by decide) htext ih
  | word _ hword _ _ ih => exact closed_append (fun c hc => isPlain_of_isName (hword c hc)) ih

theorem lexemes_text (htext : forall c, c ∈ text -> inString '"' c = true) (rest : List Char) :
    lexemes false ('"' :: (text ++ '"' :: rest)) = .quoted text :: lexemes false rest := by
  have hnot : '"' ∉ text := fun hmem => absurd (htext _ hmem) (by decide)
  rw [← lexemes_quoted hnot]
  rfl

theorem ListText.head {c : Char} (h : ListText (c :: rest)) :
    c = '"' ∨ c = ' ' ∨ c = ',' ∨ isName c = true := by
  generalize heq : c :: rest = cs at h
  cases h with
  | nil => cases heq
  | space _ => exact Or.inr (Or.inl (List.cons.inj heq).1)
  | comma _ => exact Or.inr (Or.inr (Or.inl (List.cons.inj heq).1))
  | quoted _ _ => exact Or.inl (List.cons.inj heq).1
  | @word word rest hne hword _ _ =>
      rcases List.exists_cons_of_ne_nil hne with ⟨d, later, rfl⟩
      rw [(List.cons.inj heq).1]
      exact Or.inr (Or.inr (Or.inr (hword d List.mem_cons_self)))

theorem isWordChar_of_isName {c : Char} (h : isName c = true) : isWordChar c = true := by
  unfold isWordChar
  rw [bne_iff_ne.mpr (Css.ne_of_test h (by decide)),
    bne_iff_ne.mpr (Css.ne_of_test h (by decide)), bne_iff_ne.mpr (Css.ne_of_test h (by decide))]
  rfl

theorem ListText.lexemes_word {word : List Char} (h : ListText rest) (hne : word ≠ [])
    (hword : forall c, c ∈ word -> isName c = true)
    (hstop : forall c, rest.head? = some c -> isName c = false) :
    lexemes false (word ++ rest) = .word word :: lexemes false rest := by
  apply Branding.lexemes_word (fun c hc => isWordChar_of_isName (hword c hc)) hne
  intro c hc
  cases rest with
  | nil => cases hc
  | cons d rest =>
      cases hc
      rcases h.head with rfl | rfl | rfl | hname
      · rfl
      · rfl
      · rfl
      · rw [hstop _ rfl] at hname
        cases hname

theorem ListText.lexed (h : ListText cs)
    (hwords : forall word, .word word ∈ lexemes false cs -> startsBadly word = false) :
    significant (tokens cs) = (lexemes false cs).map Lexeme.token := by
  induction h with
  | nil => rfl
  | space _ ih =>
      rw [Css.significant_tokens_space (by decide)]
      exact ih hwords
  | @comma rest _ ih =>
      rw [Css.tokens_comma]
      have hrest := ih (fun word hword => hwords word (List.mem_cons_of_mem _ hword))
      change .comma :: significant (tokens rest) = .comma :: (lexemes false rest).map _
      rw [hrest]
  | @quoted text rest htext _ ih =>
      rw [Css.tokens_quoted (by decide) htext]
      rw [lexemes_text htext] at hwords ⊢
      have hrest := ih (fun word hword => hwords word (List.mem_cons_of_mem _ hword))
      change .string text :: significant (tokens rest) = _
      rw [hrest]
      rfl
  | @word word rest hne hword hstop hrest ih =>
      rw [hrest.lexemes_word hne hword hstop] at hwords ⊢
      have hstarts : startsIdent word = true := by
        rw [startsIdent_eq hne hword, hwords word List.mem_cons_self]
        rfl
      rw [Css.tokens_ident hword hstarts (hrest.closed.stops hstop)]
      have hlater := ih (fun word hword => hwords word (List.mem_cons_of_mem _ hword))
      change .ident word :: significant (tokens rest) = _
      rw [hlater]
      rfl

theorem ListText.improper (h : ListText cs) {bad : List Char}
    (hbad : .word bad ∈ lexemes false cs) (hstarts : startsBadly bad = true) :
    exists t, t ∈ significant (tokens cs) ∧ t.isFamilyPart = false := by
  have hlater : forall {t : Token} {ts : List Token},
      (exists t, t ∈ significant ts ∧ t.isFamilyPart = false) ->
        exists t', t' ∈ significant (t :: ts) ∧ t'.isFamilyPart = false := by
    rintro t ts ⟨t', ht', hpart⟩
    rcases List.mem_filter.mp ht' with ⟨hmem, hsignificant⟩
    exact ⟨t', List.mem_filter.mpr ⟨List.mem_cons_of_mem _ hmem, hsignificant⟩, hpart⟩
  induction h with
  | nil => cases hbad
  | @space rest _ ih =>
      rw [Css.significant_tokens_space (by decide)]
      exact ih hbad
  | @comma rest _ ih =>
      rw [Css.tokens_comma]
      have hmem : Lexeme.word bad ∈ .comma :: lexemes false rest := hbad
      exact hlater (ih ((List.mem_cons.mp hmem).resolve_left Lexeme.noConfusion))
  | @quoted text rest htext _ ih =>
      rw [Css.tokens_quoted (by decide) htext]
      rw [lexemes_text htext] at hbad
      exact hlater (ih ((List.mem_cons.mp hbad).resolve_left Lexeme.noConfusion))
  | @word word rest hne hword hstop hrest ih =>
      have hstops := hrest.closed.stops hstop
      rw [hrest.lexemes_word hne hword hstop] at hbad
      cases hident : startsIdent word with
      | true =>
          rw [Css.tokens_ident hword hident hstops]
          rcases List.mem_cons.mp hbad with heq | hmem
          · cases heq
            rw [startsIdent_eq hne hword, hstarts] at hident
            cases hident
          · exact hlater (ih hmem)
      | false =>
          rcases List.exists_cons_of_ne_nil hne with ⟨c, later, rfl⟩
          have hpart := Css.nextToken_improper hword hident hstops
          rw [List.cons_append, Css.tokens_cons]
          refine ⟨_, List.mem_filter.mpr ⟨List.mem_cons_self, ?_⟩, hpart⟩
          rw [bne_iff_ne]
          intro heq
          rw [heq] at hpart
          cases hpart

theorem isReserved_map {piece : List Lexeme} :
    IsReserved (piece.map Lexeme.token) <->
      exists word, piece = [.word word] ∧ Css.lower word ∈ Css.reservedKeywords := by
  constructor
  · intro h
    match piece, h with
    | [.word word], h => exact ⟨word, rfl, h⟩
  · rintro ⟨word, rfl, h⟩
    exact h

theorem isFamily_map {piece : List Lexeme} (hcomma : .comma ∉ piece) :
    IsFamily (piece.map Lexeme.token) <->
      piece ≠ [] ∧ (forall text, .quoted text ∈ piece -> piece = [.quoted text]) ∧
        forall word, piece = [.word word] -> Css.lower word ∉ Css.reservedKeywords := by
  constructor
  · rintro (⟨name, hname⟩ | ⟨hne, hidents, hreserved⟩)
    · rcases List.map_eq_singleton_iff.mp hname with ⟨lexeme, rfl, htoken⟩
      cases lexeme with
      | quoted text =>
          refine ⟨List.cons_ne_nil _ _, ?_, fun word heq => (nomatch heq)⟩
          intro text' hmem
          rw [List.mem_singleton.mp hmem]
      | word text => cases htoken
      | comma => cases htoken
    · refine ⟨fun hnil => hne (by rw [hnil]; rfl), ?_, ?_⟩
      · intro text hmem
        have hident := hidents _ (List.mem_map_of_mem hmem)
        cases hident
      · intro word heq hmem
        exact hreserved (isReserved_map.mpr ⟨word, heq, hmem⟩)
  · rintro ⟨hne, hunmixed, hunreserved⟩
    by_cases hquoted : exists text, .quoted text ∈ piece
    · rcases hquoted with ⟨text, hmem⟩
      rw [hunmixed text hmem]
      exact Or.inl ⟨text, rfl⟩
    · refine Or.inr ⟨fun hnil => hne (List.map_eq_nil_iff.mp hnil), ?_, ?_⟩
      · intro t ht
        rcases List.mem_map.mp ht with ⟨lexeme, hmem, rfl⟩
        cases lexeme with
        | quoted text => exact absurd ⟨text, hmem⟩ hquoted
        | word text => rfl
        | comma => exact absurd hmem hcomma
      · intro hreserved
        rcases isReserved_map.mp hreserved with ⟨word, heq, hmem⟩
        exact hunreserved word heq hmem

theorem token_eq_comma (lexeme : Lexeme) :
    (lexeme.token == Token.comma) = (lexeme == Lexeme.comma) := by
  cases lexeme <;> rfl

theorem isFamilyList_iff (h : ListText value.toList) :
    IsFamilyList (significant (tokens value.toList)) <-> FamiliesWritten value := by
  have hpieces : (forall word, .word word ∈ lexemes false value.toList ->
      startsBadly word = false) ->
      (significant (tokens value.toList)).splitOnP (fun t => t == .comma) =
        (listPieces value).map (List.map Lexeme.token) := by
    intro hwords
    rw [h.lexed hwords, Css.splitOnP_map]
    simp only [token_eq_comma]
    rfl
  have hcomma : forall piece, piece ∈ listPieces value -> .comma ∉ piece := by
    intro piece hpiece hmem
    have hfalse : (Lexeme.comma == Lexeme.comma) = false := Css.splitOnP_piece hpiece hmem
    cases hfalse
  constructor
  · intro hlist
    have hwords : forall word, .word word ∈ lexemes false value.toList ->
        startsBadly word = false := by
      intro word hword
      cases hbad : startsBadly word with
      | false => rfl
      | true =>
          rcases h.improper hword hbad with ⟨t, ht, hpart⟩
          rw [Css.familyList_part hlist ht] at hpart
          cases hpart
    have hfamily : forall piece, piece ∈ listPieces value -> IsFamily (piece.map Lexeme.token) := by
      intro piece hpiece
      apply hlist
      rw [hpieces hwords]
      exact List.mem_map_of_mem hpiece
    exact
      { named := fun piece hpiece =>
          ((isFamily_map (hcomma piece hpiece)).mp (hfamily piece hpiece)).1
        unmixed := fun piece text hpiece =>
          ((isFamily_map (hcomma piece hpiece)).mp (hfamily piece hpiece)).2.1 text
        words := hwords
        unreserved := fun word hpiece =>
          ((isFamily_map (hcomma _ hpiece)).mp (hfamily _ hpiece)).2.2 word rfl }
  · intro hwritten family hfamily
    rw [hpieces hwritten.words] at hfamily
    rcases List.mem_map.mp hfamily with ⟨piece, hpiece, rfl⟩
    rw [isFamily_map (hcomma piece hpiece)]
    refine ⟨hwritten.named piece hpiece, fun text => hwritten.unmixed piece text hpiece, ?_⟩
    rintro word rfl
    exact hwritten.unreserved word hpiece

end Families

/-!
# Lengths
-/

section Lengths

variable {cs unit whole places : List Char} {value : String}

def acceptedUnits : List (List Char) := [['p', 'x'], ['r', 'e', 'm'], ['e', 'm'], ['%'], ['p', 't']]

/-- What stands behind the number of an accepted length. -/
structure UnitRead (unit : List Char) : Prop where
  stop : forall c, unit.head? = some c -> c.isDigit = false
  head : exists c rest, unit = c :: rest ∧ c ≠ '.'
  fraction : Css.readFraction unit = ([], unit)
  exponent : Css.readExponent unit = ([], unit)
  plain : forall c, c ∈ unit -> isPlain c = true
  numeric : forall cs digits, Css.readNumber cs = (digits, unit) ->
    (Css.numeric cs).2 = [] ∧ Css.IsLength [(Css.numeric cs).1]

theorem unitRead_dimension {c : Char} {rest : List Char} (hdigit : c.isDigit = false)
    (hdot : c ≠ '.') (hexponent : Css.readExponent (c :: rest) = ([], c :: rest))
    (hstarts : startsIdent (c :: rest) = true) (hrest : (c :: rest).dropWhile isName = [])
    (hunit : Css.lower ((c :: rest).takeWhile isName) ∈ Css.lengthUnits) :
    UnitRead (c :: rest) where
  stop d hd := by
    cases hd
    exact hdigit
  head := ⟨c, rest, rfl, hdot⟩
  fraction := by
    unfold Css.readFraction
    split
    · rename_i heq
      cases heq
      exact absurd rfl hdot
    · rfl
  exponent := hexponent
  plain d hd := isPlain_of_isName (List.dropWhile_eq_nil_iff.mp hrest d hd)
  numeric cs digits hread := by
    unfold Css.numeric
    rw [hread]
    dsimp only
    rw [if_pos hstarts]
    exact ⟨hrest, hunit⟩

theorem unitRead (h : unit ∈ acceptedUnits) : UnitRead unit := by
  simp only [acceptedUnits, List.mem_cons, List.not_mem_nil, or_false] at h
  rcases h with rfl | rfl | rfl | rfl | rfl
  · exact unitRead_dimension rfl (by decide) rfl rfl rfl (by decide)
  · exact unitRead_dimension rfl (by decide) rfl rfl rfl (by decide)
  · exact unitRead_dimension rfl (by decide) rfl rfl rfl (by decide)
  · refine ⟨?_, ⟨_, _, rfl, by decide⟩, rfl, rfl, List.all_eq_true.mp (by decide), ?_⟩
    · intro c hc
      cases hc
      rfl
    · intro cs digits hread
      unfold Css.numeric
      rw [hread]
      exact ⟨rfl, trivial⟩
  · exact unitRead_dimension rfl (by decide) rfl rfl rfl (by decide)

theorem isLength_of_numeric (hstarts : Css.startsNumber cs = true)
    (hrest : (Css.numeric cs).2 = []) (hlength : Css.IsLength [(Css.numeric cs).1]) :
    Css.IsLength (significant (tokens cs)) := by
  rw [Css.tokens_number hstarts, hrest]
  generalize (Css.numeric cs).1 = t at hlength ⊢
  cases t with
  | whitespace => cases hlength
  | _ => exact hlength

theorem isLength_whole (hwhole : forall c, c ∈ whole -> c.isDigit = true) (hne : whole ≠ [])
    (hunit : UnitRead unit) : Css.IsLength (significant (tokens (whole ++ unit))) := by
  have hread := Css.readNumber_whole hwhole hne hunit.stop hunit.fraction hunit.exponent
  rcases hunit.numeric _ _ hread with ⟨hrest, hlength⟩
  refine isLength_of_numeric ?_ hrest hlength
  rcases List.exists_cons_of_ne_nil hne with ⟨c, later, rfl⟩
  exact Css.startsNumber_digit (hwhole c List.mem_cons_self) _

theorem isLength_places (hwhole : forall c, c ∈ whole -> c.isDigit = true)
    (hplaces : forall c, c ∈ places -> c.isDigit = true) (hne : places ≠ [])
    (hunit : UnitRead unit) :
    Css.IsLength (significant (tokens (whole ++ '.' :: (places ++ unit)))) := by
  have hread := Css.readNumber_places hwhole hplaces hne hunit.stop hunit.exponent
  rcases hunit.numeric _ _ hread with ⟨hrest, hlength⟩
  refine isLength_of_numeric ?_ hrest hlength
  cases whole with
  | cons c later => exact Css.startsNumber_digit (hwhole c List.mem_cons_self) _
  | nil =>
      rcases List.exists_cons_of_ne_nil hne with ⟨d, later, rfl⟩
      exact hplaces d List.mem_cons_self

theorem not_isLength_dot (hwhole : forall c, c ∈ whole -> c.isDigit = true) (hne : whole ≠ [])
    (hunit : UnitRead unit) :
    Not (Css.IsLength (significant (tokens (whole ++ '.' :: unit)))) := by
  rcases hunit.head with ⟨d, later, rfl, -⟩
  have hd : d.isDigit = false := hunit.stop d rfl
  have hstop : forall c, ('.' :: d :: later).head? = some c -> c.isDigit = false := by
    intro c hc
    cases hc
    rfl
  have hfraction : Css.readFraction ('.' :: d :: later) = ([], '.' :: d :: later) := by
    rw [Css.readFraction_dot, hd]
    rfl
  have hnumeric : Css.numeric (whole ++ '.' :: d :: later) =
      (.number whole, '.' :: d :: later) := by
    unfold Css.numeric
    rw [Css.readNumber_whole hwhole hne hstop hfraction rfl]
    rfl
  have hnext : Css.nextToken '.' (d :: later) = (.delim '.', d :: later) := by
    have hnumber : Css.startsNumber ('.' :: d :: later) = false := hd
    show (if Css.startsNumber ('.' :: d :: later) then _ else _) = _
    rw [hnumber]
    rfl
  have hstarts : Css.startsNumber (whole ++ '.' :: d :: later) = true := by
    rcases List.exists_cons_of_ne_nil hne with ⟨c, rest, rfl⟩
    exact Css.startsNumber_digit (hwhole c List.mem_cons_self) _
  rw [Css.tokens_number hstarts, hnumeric, Css.tokens_cons, hnext]
  exact id

theorem cssLength_cases (h : isValidCssLength value = true) :
    value = "0" ∨ exists whole unit, (forall c, c ∈ whole -> c.isDigit = true) ∧
      UnitRead unit ∧
        ((value.toList = whole ++ unit ∧ whole ≠ []) ∨
          exists places, (forall c, c ∈ places -> c.isDigit = true) ∧
            value.toList = whole ++ '.' :: (places ++ unit) ∧ Not (whole = [] ∧ places = [])) := by
  unfold isValidCssLength at h
  split at h
  · cases h
  · split at h
    · rename_i hzero
      exact Or.inl hzero
    · right
      have hwhole : forall c, c ∈ value.toList.takeWhile Char.isDigit -> c.isDigit = true :=
        fun c hc => Css.mem_takeWhile hc
      have happend : value.toList = value.toList.takeWhile Char.isDigit ++
          value.toList.dropWhile Char.isDigit := List.takeWhile_append_dropWhile.symm
      dsimp only at h
      rw [Bool.and_eq_true] at h
      rcases h with ⟨hdigits, hunit⟩
      rcases List.any_eq_true.mp hunit with ⟨u, hu, hlist⟩
      have hread : UnitRead u.toList := by
        apply unitRead
        have hunits : forall u, u ∈ ["px", "rem", "em", "%", "pt"] ->
            u.toList ∈ acceptedUnits := by decide
        exact hunits u hu
      have hlist := of_decide_eq_true hlist
      cases hrest : value.toList.dropWhile Char.isDigit with
      | nil =>
          rw [hrest] at hlist
          rcases hread.head with ⟨d, later, hhead, -⟩
          rw [hlist] at hhead
          cases hhead
      | cons c rest =>
          rw [hrest] at hdigits hlist happend
          by_cases hdot : c = '.'
          · rw [hdot] at hdigits hlist happend
            rw [List.head?_cons, if_pos rfl, List.tail_cons] at hdigits hlist
            refine ⟨_, _, hwhole, hread, Or.inr ⟨rest.takeWhile Char.isDigit,
              fun c hc => Css.mem_takeWhile hc, ?_, ?_⟩⟩
            · rw [hlist, List.takeWhile_append_dropWhile]
              exact happend
            · rintro ⟨hnowhole, hnoplaces⟩
              rw [hnowhole, hnoplaces] at hdigits
              cases hdigits
          · have hhead : Not ((c :: rest).head? = some '.') :=
              fun heq => hdot (Option.some.inj heq)
            rw [if_neg hhead] at hdigits hlist
            refine ⟨_, _, hwhole, hread, Or.inl ⟨hlist ▸ happend, ?_⟩⟩
            intro hnowhole
            rw [hnowhole] at hdigits
            cases hdigits

theorem isLength_iff (h : isValidCssLength value = true) :
    Css.IsLength (significant (tokens value.toList)) <-> DotFollowed value := by
  have hdrop : forall {whole rest : List Char}, (forall c, c ∈ whole -> c.isDigit = true) ->
      (forall c, rest.head? = some c -> c.isDigit = false) -> value.toList = whole ++ rest ->
        value.toList.dropWhile Char.isDigit = rest := by
    intro whole rest hwhole hstop heq
    rw [heq]
    exact (Css.takeWhile_stop hwhole hstop).2
  have hdotStop : forall {rest : List Char} c, ('.' :: rest).head? = some c ->
      c.isDigit = false := by
    intro rest c hc
    cases hc
    rfl
  rcases cssLength_cases h with
    rfl | ⟨whole, unit, hwhole, hunit, ⟨heq, hne⟩ | ⟨places, hplaces, heq, hsome⟩⟩
  · exact iff_of_true (by decide) trivial
  · refine iff_of_true (heq ▸ isLength_whole hwhole hne hunit) ?_
    unfold DotFollowed
    rw [hdrop hwhole hunit.stop heq]
    rcases hunit.head with ⟨d, later, rfl, hdot⟩
    split
    · rename_i hhead
      exact absurd (List.cons.inj hhead).1 hdot
    · trivial
  · unfold DotFollowed
    rw [hdrop hwhole hdotStop heq]
    cases places with
    | cons d digits =>
        exact iff_of_true (heq ▸ isLength_places hwhole hplaces (List.cons_ne_nil _ _) hunit)
          (hplaces d List.mem_cons_self)
    | nil =>
        have hne : whole ≠ [] := fun hnil => hsome ⟨hnil, rfl⟩
        refine iff_of_false (heq ▸ not_isLength_dot hwhole hne hunit) ?_
        rcases hunit.head with ⟨d, later, rfl, -⟩
        have hd : d.isDigit = false := hunit.stop d rfl
        change Not (d.isDigit = true)
        rw [hd]
        decide

end Lengths

/-!
# Weights and colors
-/

section Plain

variable {value : String}

theorem weight_digits (h : isValidThemeTokenValue .weight value = true) :
    value.toList ≠ [] ∧ (forall c, c ∈ value.toList -> c.isDigit = true) ∧
      1 ≤ Nat.ofDigitChars 10 value.toList 0 ∧ Nat.ofDigitChars 10 value.toList 0 ≤ 1000 := by
  unfold isValidThemeTokenValue at h
  split at h
  · cases h
  · rename_i hempty
    simp only [Bool.and_eq_true, decide_eq_true_eq, List.all_eq_true] at h
    refine ⟨?_, h.1.1.2, h.1.2, h.2⟩
    intro hnil
    exact hempty (String.toList_eq_nil_iff.mp hnil)

theorem isWeight_of_valid (h : isValidThemeTokenValue .weight value = true) :
    Css.IsWeight (significant (tokens value.toList)) := by
  rcases weight_digits h with ⟨hne, hdigits, hlow, hhigh⟩
  have hread : Css.readNumber value.toList = (value.toList, []) := by
    have hwhole := @Css.readNumber_whole [] value.toList hdigits hne (by simp) rfl rfl
    rwa [List.append_nil] at hwhole
  have hnumeric : Css.numeric value.toList = (.number value.toList, []) := by
    unfold Css.numeric
    rw [hread]
    rfl
  have hstarts : Css.startsNumber value.toList = true := by
    rcases List.exists_cons_of_ne_nil hne with ⟨c, rest, heq⟩
    rw [heq]
    exact Css.startsNumber_digit (hdigits c (heq ▸ List.mem_cons_self)) rest
  rw [Css.tokens_number hstarts, hnumeric]
  exact ⟨List.all_eq_true.mpr hdigits, hlow, hhigh⟩

theorem color_digits (h : isValidHexColor value = true) :
    exists digits, value.toList = '#' :: digits ∧ digits.length = 6 ∧
      forall c, c ∈ digits -> isHexDigit c = true := by
  unfold isValidHexColor at h
  split at h
  · rename_i digits heq
    rw [Bool.and_eq_true, beq_iff_eq, List.all_eq_true] at h
    exact ⟨digits, heq, h.1, h.2⟩
  · cases h

theorem isName_of_isHexDigit {c : Char} (h : isHexDigit c = true) : isName c = true := by
  unfold isHexDigit at h
  unfold isName Css.isNameStart Char.isDigit
  simp only [Bool.or_eq_true, Bool.and_eq_true, decide_eq_true_eq] at h ⊢
  rcases h with (hdigit | ⟨hlow, hhigh⟩) | ⟨hlow, hhigh⟩
  · exact Or.inl (Or.inr hdigit)
  · exact Or.inl (Or.inl (Or.inl (Or.inl (Or.inl ⟨hlow, Char.le_trans hhigh (by decide)⟩))))
  · exact Or.inl (Or.inl (Or.inl (Or.inl (Or.inr ⟨hlow, Char.le_trans hhigh (by decide)⟩))))

theorem isHexColor_of_valid (h : isValidHexColor value = true) :
    Css.IsHexColor (significant (tokens value.toList)) := by
  rcases color_digits h with ⟨digits, heq, hlength, hdigits⟩
  have hne : digits ≠ [] := by
    rintro rfl
    cases hlength
  rw [heq, Css.tokens_hash (fun c hc => isName_of_isHexDigit (hdigits c hc)) hne]
  refine ⟨List.all_eq_true.mpr hdigits, ?_⟩
  rw [hlength]
  decide

end Plain

/-!
# Nothing ends the declaration
-/

section Closed

variable {value : String}

theorem closed_of_plain {cs : List Char} (h : forall c, c ∈ cs -> isPlain c = true) :
    Closed cs := by
  have hclosed := closed_append h Closed.nil
  rwa [List.append_nil] at hclosed

theorem isPlain_of_isDigit {c : Char} (h : c.isDigit = true) : isPlain c = true := by
  apply isPlain_of_isName
  unfold isName
  rw [h, Bool.or_true]
  rfl

theorem listText_of_valid (h : isValidFontFamilyList value = true) : ListText value.toList := by
  unfold isValidFontFamilyList at h
  split at h
  · cases h
  · rw [Bool.and_eq_true, List.all_eq_true, beq_iff_eq] at h
    exact listText_of_chars h.1 h.2

theorem closed_of_length (h : isValidCssLength value = true) : Closed value.toList := by
  apply closed_of_plain
  rcases cssLength_cases h with
    rfl | ⟨whole, unit, hwhole, hunit, ⟨heq, -⟩ | ⟨places, hplaces, heq, -⟩⟩
  · exact List.all_eq_true.mp (by decide)
  · rw [heq]
    intro c hc
    rcases List.mem_append.mp hc with hdigit | hc
    · exact isPlain_of_isDigit (hwhole c hdigit)
    · exact hunit.plain c hc
  · rw [heq]
    intro c hc
    rcases List.mem_append.mp hc with hdigit | hc
    · exact isPlain_of_isDigit (hwhole c hdigit)
    · rcases List.mem_cons.mp hc with rfl | hc
      · decide
      · rcases List.mem_append.mp hc with hdigit | hc
        · exact isPlain_of_isDigit (hplaces c hdigit)
        · exact hunit.plain c hc

theorem isValidThemeTokenValue_eq {type : ThemeTokenType}
    (h : isValidThemeTokenValue type value = true) :
    (type = .color -> isValidHexColor value = true) ∧
      (type = .length -> isValidCssLength value = true) ∧
        (type = .fontFamily -> isValidFontFamilyList value = true) := by
  unfold isValidThemeTokenValue at h
  split at h
  · cases h
  · refine ⟨?_, ?_, ?_⟩ <;> rintro rfl <;> exact h

theorem closed_of_valid {type : ThemeTokenType} (h : isValidThemeTokenValue type value = true) :
    Closed value.toList := by
  rcases isValidThemeTokenValue_eq h with ⟨hcolor, hlength, hfamilies⟩
  cases type with
  | weight =>
      exact closed_of_plain (fun c hc => isPlain_of_isDigit ((weight_digits h).2.1 c hc))
  | color =>
      rcases color_digits (hcolor rfl) with ⟨digits, heq, -, hdigits⟩
      rw [heq]
      exact .plain (by decide) (closed_of_plain (fun c hc =>
        isPlain_of_isName (isName_of_isHexDigit (hdigits c hc))))
  | length => exact closed_of_length (hlength rfl)
  | fontFamily => exact (listText_of_valid (hfamilies rfl)).closed

theorem isCssValue_iff {type : ThemeTokenType} (h : isValidThemeTokenValue type value = true) :
    IsCssValue type value <-> WrittenPlainly type value := by
  rcases isValidThemeTokenValue_eq h with ⟨hcolor, hlength, hfamilies⟩
  cases type with
  | weight => exact iff_of_true (isWeight_of_valid h) trivial
  | color => exact iff_of_true (isHexColor_of_valid (hcolor rfl)) trivial
  | length => exact isLength_iff (hlength rfl)
  | fontFamily => exact isFamilyList_iff (listText_of_valid (hfamilies rfl))

end Closed

/-!
# Stacks
-/

section Stacks

variable {family fallback : String}

theorem inString_of_family (h : isValidFontFamilyName family = true) :
    forall c, c ∈ family.toList -> inString '\'' c = true := by
  unfold isValidFontFamilyName at h
  split at h
  · cases h
  · intro c hc
    exact @Css.inString_of_test c (fun c => isAsciiAlnum c || c == ' ' || c == '-' || c == '_')
      '\'' (by decide) (List.all_eq_true.mp h c hc)

theorem stack_iff (h : isValidFontFamilyName family = true)
    (hfallback : fallback = "" ∨ isValidFontFamilyList fallback = true) :
    IsCssValue .fontFamily (composeFontStack family fallback) <->
      fallback = "" ∨ FamiliesWritten fallback := by
  unfold IsCssValue
  dsimp only
  rw [composeFontStack_toList h fallback, Css.tokens_quoted (by decide) (inString_of_family h)]
  by_cases hempty : fallback = ""
  · rw [if_pos hempty]
    refine iff_of_true ?_ (Or.inl hempty)
    intro piece hpiece
    rw [List.mem_singleton.mp hpiece]
    exact Or.inl ⟨family.toList, rfl⟩
  · have hvalid := hfallback.resolve_left hempty
    rw [if_neg hempty, or_iff_right hempty, Css.tokens_comma]
    have hsignificant : significant (.string family.toList :: .comma ::
        tokens (' ' :: fallback.toList)) =
          .string family.toList :: .comma :: significant (tokens fallback.toList) := by
      rw [← @Css.significant_tokens_space ' ' fallback.toList (by decide)]
      rfl
    rw [hsignificant, Css.familyList_string, isFamilyList_iff (listText_of_valid hvalid)]

theorem stack_closed (h : isValidFontFamilyName family = true)
    (hfallback : fallback = "" ∨ isValidFontFamilyList fallback = true) :
    Closed (composeFontStack family fallback).toList := by
  rw [composeFontStack_toList h fallback]
  refine .string (by decide) (inString_of_family h) ?_
  by_cases hempty : fallback = ""
  · rw [if_pos hempty]
    exact .nil
  · rw [if_neg hempty]
    exact .plain (by decide) (.plain (by decide)
      (listText_of_valid (hfallback.resolve_left hempty)).closed)

end Stacks

/-!
# The fallbacks that are stored
-/

section Fallbacks

variable {t t' : SiteFonts} {json : Type} {bundle : ThemeBundle json}

/-- The fallbacks have passed their check, as they do before they are stored. -/
def FallbacksValid (fonts : SiteFonts) : Prop :=
  forall e, e ∈ fonts.fonts.entries ->
    e.2.fallback = "" ∨ isValidFontFamilyList e.2.fallback = true

theorem keptItems {item : Type} {kept : Kept item} {name reason : String} {kept? i : item}
    (h : i ∈ (kept.decide name reason kept?).items) : i ∈ kept.items ∨ i = kept? := by
  unfold Kept.decide at h
  split at h
  · rcases List.mem_append.mp h with hkept | hnew
    · exact Or.inl hkept
    · exact Or.inr (List.mem_singleton.mp hnew)
  · exact Or.inl h

theorem familyKindReason_fallback (bundle : ThemeBundle json) (sourceKeys : List String)
    (family : BundleFontFamily) :
    (familyKindReason bundle sourceKeys family).2.1.fallback = family.fallback := by
  unfold familyKindReason
  split
  · split
    · rfl
    · split <;> rfl
  · split
    · rfl
    · split <;> rfl

theorem pruneFamily_fallback {sourceKeys : List String} {kept : Kept BundleFontFamily}
    {family f : BundleFontFamily}
    (hkept : forall f, f ∈ kept.items -> isValidFontFamilyList f.fallback = true)
    (h : f ∈ (pruneFamily bundle sourceKeys kept family).items) :
    isValidFontFamilyList f.fallback = true := by
  have hdropped : forall {names reason}, reason ≠ "" ->
      f ∈ (Kept.decide { kept with names := names } family.family reason family).items ->
        isValidFontFamilyList f.fallback = true := by
    intro names reason hreason hmem
    unfold Kept.decide at hmem
    rw [if_neg hreason] at hmem
    exact hkept f hmem
  unfold pruneFamily at h
  split at h
  · exact hdropped (by decide) h
  · split at h
    · exact hdropped (by decide) h
    · dsimp only at h
      split at h
      · exact hdropped (by decide) h
      · rename_i hfallback
        rcases keptItems h with hbefore | heq
        · exact hkept f hbefore
        · rw [heq, familyKindReason_fallback]
          simpa using fun hinvalid => hfallback (Or.inr hinvalid)

theorem prunedFamilies_fallback {f : BundleFontFamily}
    (h : f ∈ (pruneUnusableBundleItems bundle).families) :
    isValidFontFamilyList f.fallback = true := by
  have hfold : forall (families : List BundleFontFamily) (kept : Kept BundleFontFamily),
      (forall f, f ∈ kept.items -> isValidFontFamilyList f.fallback = true) ->
        forall f, f ∈ (families.foldl (pruneFamily bundle (prunedSources bundle).names)
          kept).items -> isValidFontFamilyList f.fallback = true := by
    intro families
    induction families with
    | nil => exact fun _ hkept => hkept
    | cons family rest ih =>
        intro kept hkept
        exact ih _ (fun f hf => pruneFamily_fallback hkept hf)
  exact hfold bundle.families ⟨[], [], []⟩ (fun f hf => (nomatch hf)) f h

theorem FallbacksValid.applied {bundle : ThemeBundle Rest.Json} {ids : SortedMap String Nat}
    {ordinal : Nat} {family : BundleFontFamily} (h : FallbacksValid t)
    (hfamily : isValidFontFamilyList family.fallback = true) :
    FallbacksValid (applyFamily bundle ids ordinal family t) := by
  unfold applyFamily
  intro e he
  split at he
  · rw [SiteFonts.entries_addFont] at he
    rcases List.mem_append.mp he with hold | hnew
    · exact h e hold
    · rw [List.mem_singleton.mp hnew]
      exact Or.inr hfamily
  · rcases List.mem_map.mp he with ⟨old, hold, rfl⟩
    dsimp only
    split
    · exact Or.inr hfamily
    · exact h old hold

theorem FallbacksValid.appliedFamilies {bundle : ThemeBundle Rest.Json}
    {ids : SortedMap String Nat} {families : List BundleFontFamily} {ordinal : Nat}
    (h : FallbacksValid t)
    (hfamilies : forall f, f ∈ families -> isValidFontFamilyList f.fallback = true) :
    FallbacksValid (applyFamilies bundle ids ordinal families t) := by
  induction families generalizing t ordinal with
  | nil => exact h
  | cons family rest ih =>
      exact ih (h.applied (hfamilies family List.mem_cons_self))
        (fun f hf => hfamilies f (List.mem_cons_of_mem family hf))

theorem FallbacksValid.imported {bundle : ThemeBundle Rest.Json} {merge : Bool}
    (h : FallbacksValid t) :
    FallbacksValid (applyBundleFonts (pruneUnusableBundleItems bundle) merge t) := by
  have hsources : FallbacksValid
      (applySources t (pruneUnusableBundleItems bundle).sources).1 := by
    unfold FallbacksValid
    rw [fonts_applySources]
    exact h
  have hwritten := @FallbacksValid.appliedFamilies _ (pruneUnusableBundleItems bundle)
    (applySources t (pruneUnusableBundleItems bundle).sources).2
    (pruneUnusableBundleItems bundle).families 10 hsources
    (fun f hf => prunedFamilies_fallback hf)
  intro e he
  unfold applyBundleFonts at he
  dsimp only at he
  split at he
  · exact hwritten e he
  · exact hwritten e (List.mem_filter.mp he).1

theorem checkFamily_fallback {names : List String} {item : Rest.Json} {name : String}
    (h : checkFamily names item = .ok name) :
    exists fallback, memberText item "fallback" = .ok fallback ∧
      isValidFontFamilyList fallback = true := by
  unfold checkFamily at h
  rcases exceptBind_ok h with ⟨_, _, h⟩
  rcases exceptBind_ok h with ⟨fallback, hfallback, h⟩
  rcases exceptBind_ok h with ⟨_, _, h⟩
  rcases exceptBind_ok h with ⟨_, _, h⟩
  rcases exceptBind_ok h with ⟨_, _, h⟩
  rcases exceptBind_ok h with ⟨_, hvalid, _⟩
  have hboth := requireThat_ok hvalid
  rw [Bool.and_eq_true] at hboth
  exact ⟨fallback, checkedText_ok hfallback, hboth.2⟩

theorem checkEach_item {check : List String -> Rest.Json -> Checked String}
    {items : List Rest.Json} {done all : List String} (h : checkEach check done items = .ok all)
    {item : Rest.Json} (hitem : item ∈ items) :
    exists done' name, check done' item = .ok name := by
  induction items generalizing done with
  | nil => cases hitem
  | cons first rest ih =>
      rcases exceptBind_ok h with ⟨name, hname, hrest⟩
      rcases List.mem_cons.mp hitem with rfl | hlater
      · exact ⟨done, name, hname⟩
      · exact ih hrest hlater

theorem familyPayload_fallback {item : Rest.Json} {family : FamilyPayload}
    (h : familyPayload item = .ok family) : memberText item "fallback" = .ok family.fallback := by
  unfold familyPayload at h
  rcases exceptBind_ok h with ⟨_, _, h⟩
  rcases exceptBind_ok h with ⟨fallback, hfallback, h⟩
  rcases exceptBind_ok h with ⟨_, _, h⟩
  split at h
  · rcases exceptBind_ok h with ⟨_, _, h⟩
    rcases exceptBind_ok h with ⟨_, _, h⟩
    cases h
    exact hfallback
  · cases h
    exact hfallback

theorem FallbacksValid.put (h : FallbacksValid t) (access : Access)
    (parsed : Except Exn Rest.Json) : FallbacksValid (handlePut access parsed t).2 := by
  rcases handlePut_cases access parsed t with
    ⟨body, families, ids, hadmitted, hpassed, -, hsaved⟩ | ⟨-, -, hsame⟩
  · intro e he
    rcases hsaved.row hpassed he with ⟨n, family, hget, hmem⟩
    rcases hsaved.listed n family hget with ⟨id, active, faces, hrow, -⟩
    rw [hrow] at hmem
    rcases List.mem_cons.mp hmem with hrow | hold
    swap
    · exact h e (SiteFonts.mem_rowsOf.mp (List.mem_of_mem_tail hold)).1
    rcases mem_right hpassed.read (List.mem_of_getElem? hget) with ⟨item, hitem, hread⟩
    rcases exceptBind_ok hadmitted.checked with ⟨_, _, hchecked⟩
    rcases exceptBind_ok hchecked with ⟨_, hfamilies, _⟩
    rcases checkEach_item hfamilies hitem with ⟨_, _, hitemChecked⟩
    rcases checkFamily_fallback hitemChecked with ⟨fallback, hfallback, hvalid⟩
    rw [familyPayload_fallback hread.read] at hfallback
    cases hfallback
    rw [hrow]
    exact Or.inr hvalid
  · rw [hsame]
    exact h

end Fallbacks

/-!
# What a page is served
-/

section Page

variable {app : Type} {tenantDisplayName : String} {site : Site app}

/-- Every value of the theme is one of its kind. -/
def ServesCss (info : SiteInfo) : Prop :=
  forall t text, t ∈ themeVariables -> info.theme.find? t.2 = some text ->
    IsCssValue t.1.type text

/-- No value of the theme ends its declaration. -/
def ServesHarmless (info : SiteInfo) : Prop :=
  forall cssVariable text, info.theme.find? cssVariable = some text ->
    Harmless (tokens text.toList)

/-- What is served of the stored values is written plainly, and so are the fallbacks of the
families that the roles name. -/
structure StoredPlainly (site : Site app) : Prop where
  values : forall t, t ∈ themeVariables -> t.1.type ≠ .fontFamily ->
    isValidThemeTokenValue t.1.type (site.lookupSecret t.1.key) = true ->
      WrittenPlainly t.1.type (site.lookupSecret t.1.key)
  fallbacks : forall t, t ∈ themeVariables -> t.1.type = .fontFamily ->
    isValidFontFamilyName (site.lookupSecret t.1.key) = true ->
      forall e, site.fonts.getFontByFamily (site.lookupSecret t.1.key) = some e ->
        e.2.fallback = "" ∨ FamiliesWritten e.2.fallback

theorem loadSiteTheme_variable {cssVariable text : String}
    (h : (loadSiteTheme site).find? cssVariable = some text) :
    exists t, t ∈ themeVariables ∧ t.2 = cssVariable := by
  by_contra hnone
  have hkeep : forall (ts : List (ThemeToken × String)) (theme : SortedMap String String),
      (forall t, t ∈ ts -> t.2 ≠ cssVariable) ->
        (ts.foldl (fun theme t =>
          if isValidThemeTokenValue t.1.type (site.lookupSecret t.1.key) = true then
            theme.set t.2 (site.lookupSecret t.1.key)
          else theme) theme).find? cssVariable = theme.find? cssVariable := by
    intro ts
    induction ts with
    | nil => exact fun _ _ => rfl
    | cons t rest ih =>
        intro theme hne
        rw [List.foldl_cons, ih _ (fun t' ht' => hne t' (List.mem_cons_of_mem _ ht'))]
        split
        · exact SortedMap.find?_set_of_ne _ _ (hne t List.mem_cons_self).symm
        · rfl
  unfold loadSiteTheme at h
  rw [hkeep _ _ (fun t ht heq => hnone ⟨t, ht, heq⟩)] at h
  cases h

theorem stackOf_some {fonts : SiteFonts} {family stack : String}
    (h : stackOf fonts family = some stack) :
    isValidFontFamilyName family = true ∧ exists e, fonts.getFontByFamily family = some e ∧
      stack = composeFontStack family e.2.fallback := by
  cases hvalid : isValidFontFamilyName family with
  | false =>
      rw [stackOf_of_none (fun heq => (nomatch hvalid.symm.trans heq))] at h
      cases h
  | true =>
      refine ⟨rfl, ?_⟩
      rcases hfont : fonts.getFontByFamily family with _ | ⟨id, font⟩
      · rw [stackOf_of_none (fun _ => SiteFonts.getFontByFamily_none hfont)] at h
        cases h
      · rw [stackOf_of_name hvalid hfont] at h
        exact ⟨(id, font), rfl, (Option.some.inj h).symm⟩

theorem served_value {t : ThemeToken × String} (ht : t ∈ themeVariables) {text : String}
    (hfind : (getSiteInfo tenantDisplayName site).theme.find? t.2 = some text) :
    (t.1.type ≠ .fontFamily ∧ text = site.lookupSecret t.1.key ∧
      isValidThemeTokenValue t.1.type text = true) ∨
    (t.1.type = .fontFamily ∧ isValidFontFamilyName (site.lookupSecret t.1.key) = true ∧
      exists e, site.fonts.getFontByFamily (site.lookupSecret t.1.key) = some e ∧
        text = composeFontStack (site.lookupSecret t.1.key) e.2.fallback) := by
  rw [served_theme ht] at hfind
  split at hfind
  · rename_i htype
    rcases Option.bind_eq_some_iff.mp hfind with ⟨family, hloaded, hstack⟩
    rw [find?_loadSiteTheme site ht] at hloaded
    split at hloaded
    · cases hloaded
      exact Or.inr ⟨htype, stackOf_some hstack⟩
    · cases hloaded
  · rename_i htype
    rw [find?_loadSiteTheme site ht] at hfind
    split at hfind
    · rename_i hvalid
      cases hfind
      exact Or.inl ⟨htype, rfl, hvalid⟩
    · cases hfind

theorem fallback_of_row {fonts : SiteFonts} (h : FallbacksValid fonts) {family : String}
    {e : Nat × SiteFont} (he : fonts.getFontByFamily family = some e) :
    e.2.fallback = "" ∨ isValidFontFamilyList e.2.fallback = true :=
  h e (SiteFonts.mem_of_getFontByFamily he).1

theorem servesHarmless (hfallbacks : FallbacksValid site.fonts) :
    ServesHarmless (getSiteInfo tenantDisplayName site) := by
  intro cssVariable text hfind
  have hloaded : exists text', (loadSiteTheme site).find? cssVariable = some text' := by
    change (resolveFontRoles site.fonts fontRoles (loadSiteTheme site)).find? cssVariable =
      some text at hfind
    rw [find?_resolveFontRoles fontRoles_nodup] at hfind
    split at hfind
    · rcases Option.bind_eq_some_iff.mp hfind with ⟨family, hfamily, -⟩
      exact ⟨family, hfamily⟩
    · exact ⟨text, hfind⟩
  rcases hloaded with ⟨text', hloaded⟩
  rcases loadSiteTheme_variable hloaded with ⟨t, ht, rfl⟩
  rcases served_value ht hfind with ⟨-, -, hvalid⟩ | ⟨-, hname, e, he, rfl⟩
  · exact (closed_of_valid hvalid).harmless
  · exact (stack_closed hname (fallback_of_row hfallbacks he)).harmless

theorem servesCss_iff (hfallbacks : FallbacksValid site.fonts) :
    ServesCss (getSiteInfo tenantDisplayName site) <-> StoredPlainly site := by
  constructor
  · intro hserves
    constructor
    · intro t ht htype hvalid
      apply (isCssValue_iff hvalid).mp
      apply hserves t _ ht
      rw [served_theme ht, if_neg htype, find?_loadSiteTheme site ht, if_pos hvalid]
    · intro t ht htype hname e he
      apply (stack_iff hname (fallback_of_row hfallbacks he)).mp
      have hvalid : isValidThemeTokenValue .fontFamily (site.lookupSecret t.1.key) = true := by
        unfold isValidThemeTokenValue
        rw [if_neg (name_ne_empty hname)]
        exact fontFamilyList_of_name hname
      rw [← htype]
      apply hserves t _ ht
      rw [served_theme ht, if_pos htype, find?_loadSiteTheme site ht, htype, if_pos hvalid,
        Option.bind_some]
      exact stackOf_of_name hname he
  · intro hplain t text ht hfind
    rcases served_value ht hfind with ⟨htype, rfl, hvalid⟩ | ⟨htype, hname, e, he, rfl⟩
    · exact (isCssValue_iff hvalid).mpr (hplain.values t ht htype hvalid)
    · rw [htype]
      exact (stack_iff hname (fallback_of_row hfallbacks he)).mpr
        (hplain.fallbacks t ht htype hname e he)

end Page

/-- What the checks accept and what a page is served, as CSS: nothing ends its declaration,
and a value is one of its kind exactly when it is written plainly. -/
theorem cssValues_iff {app : Type} (tenantDisplayName : String) (site : Site app) :
    (forall type value, isValidThemeTokenValue type value = true ->
      Harmless (tokens value.toList) ∧
        (IsCssValue type value <-> WrittenPlainly type value)) ∧
    (forall family fallback, isValidFontFamilyName family = true ->
      fallback = "" ∨ isValidFontFamilyList fallback = true ->
        Harmless (tokens (composeFontStack family fallback).toList) ∧
          (IsCssValue .fontFamily (composeFontStack family fallback) <->
            fallback = "" ∨ FamiliesWritten fallback)) ∧
    (FallbacksValid site.fonts -> ServesHarmless (getSiteInfo tenantDisplayName site) ∧
      (ServesCss (getSiteInfo tenantDisplayName site) <-> StoredPlainly site)) := by
  refine ⟨?_, ?_, ?_⟩
  · intro type value h
    exact ⟨(closed_of_valid h).harmless, isCssValue_iff h⟩
  · intro family fallback h hfallback
    exact ⟨(stack_closed h hfallback).harmless, stack_iff h hfallback⟩
  · intro hfallbacks
    exact ⟨servesHarmless hfallbacks, servesCss_iff hfallbacks⟩

/-- A length without the digits behind its dot, and a list with nothing between two commas. -/
theorem dottedLength_notCss :
    (isValidThemeTokenValue .length "1.px" = true ∧ Not (IsCssValue .length "1.px")) ∧
      isValidThemeTokenValue .fontFamily "Arial,,serif" = true ∧
        Not (IsCssValue .fontFamily "Arial,,serif") := by
  refine ⟨⟨by decide, ?_⟩, by decide, ?_⟩
  · show Not (Css.IsLength (significant (tokens "1.px".toList)))
    decide
  · intro h
    rcases h [] (by decide) with ⟨name, hname⟩ | ⟨hne, -⟩
    · cases hname
    · exact hne rfl

end Branding
end ServerComponents
