import Mathlib.Data.String.Basic

/-!
# Values of CSS properties

A text is broken into tokens as the syntax of CSS says, and tokens are a value of a kind by
the grammar of the kind. Escapes, comments, at-keywords and the marks of HTML comments are
not read: the character that begins one stands as a delimiter, and in a string it makes a bad
one.
-/

namespace ServerComponents
namespace Css

inductive Token where
  | ident (name : List Char)
  | function (name : List Char)
  | hash (name : List Char)
  | string (value : List Char)
  | unclosedString (value : List Char)
  | badString (value : List Char)
  | number (digits : List Char)
  | percentage (digits : List Char)
  | dimension (digits unit : List Char)
  | whitespace
  | comma
  | colon
  | semicolon
  | opening (bracket : Char)
  | closing (bracket : Char)
  | delim (c : Char)
  deriving Repr, DecidableEq

/-!
# Characters
-/

def isNewline (c : Char) : Bool := c == '\n' || c == '\r' || c == Char.ofNat 12

def isSpace (c : Char) : Bool := c == ' ' || c == '\t' || isNewline c

def isNameStart (c : Char) : Bool :=
  ('a' ≤ c && c ≤ 'z') || ('A' ≤ c && c ≤ 'Z') || c == '_' || decide (0x80 ≤ c.toNat)

def isName (c : Char) : Bool := isNameStart c || c.isDigit || c == '-'

def isHexDigit (c : Char) : Bool :=
  c.isDigit || ('a' ≤ c && c ≤ 'f') || ('A' ≤ c && c ≤ 'F')

def startsUnsigned : List Char -> Bool
  | '.' :: d :: _ => d.isDigit
  | c :: _ => c.isDigit
  | [] => false

def startsNumber : List Char -> Bool
  | '+' :: rest => startsUnsigned rest
  | '-' :: rest => startsUnsigned rest
  | cs => startsUnsigned cs

def startsIdent : List Char -> Bool
  | '-' :: c :: _ => isNameStart c || c == '-'
  | c :: _ => isNameStart c
  | [] => false

/-!
# Reading
-/

/-- A reader takes a part off the front of a text. -/
abbrev Reader := List Char -> List Char × List Char

def readBoth (first second : Reader) : Reader := fun cs =>
  ((first cs).1 ++ (second (first cs).2).1, (second (first cs).2).2)

def readWhile (test : Char -> Bool) : Reader := fun cs => (cs.takeWhile test, cs.dropWhile test)

def readSign : Reader
  | '+' :: rest => (['+'], rest)
  | '-' :: rest => (['-'], rest)
  | cs => ([], cs)

def readFraction : Reader
  | '.' :: d :: rest =>
      if d.isDigit then ('.' :: (readWhile Char.isDigit (d :: rest)).1,
        (readWhile Char.isDigit (d :: rest)).2)
      else ([], '.' :: d :: rest)
  | cs => ([], cs)

def readExponent : Reader
  | c :: rest =>
      if (c = 'e' ∨ c = 'E') ∧ (readSign rest).2.head?.any Char.isDigit then
        (c :: (readBoth readSign (readWhile Char.isDigit) rest).1,
          (readBoth readSign (readWhile Char.isDigit) rest).2)
      else ([], c :: rest)
  | [] => ([], [])

def readNumber : Reader :=
  readBoth (readBoth (readBoth readSign (readWhile Char.isDigit)) readFraction) readExponent

def numeric (cs : List Char) : Token × List Char :=
  let (digits, rest) := readNumber cs
  if startsIdent rest then (.dimension digits (rest.takeWhile isName), rest.dropWhile isName)
  else
    match rest with
    | '%' :: rest => (.percentage digits, rest)
    | rest => (.number digits, rest)

def identLike (cs : List Char) : Token × List Char :=
  match cs.dropWhile isName with
  | '(' :: rest => (.function (cs.takeWhile isName), rest)
  | rest => (.ident (cs.takeWhile isName), rest)

def inString (quote c : Char) : Bool := c != quote && !isNewline c && c != '\\'

def quoted (quote : Char) (cs : List Char) : Token × List Char :=
  match cs.dropWhile (inString quote) with
  | [] => (.unclosedString (cs.takeWhile (inString quote)), [])
  | c :: rest =>
      if c = quote then (.string (cs.takeWhile (inString quote)), rest)
      else (.badString (cs.takeWhile (inString quote)), c :: rest)

/-- The token of a character that stands for itself. -/
def single (c : Char) : Token :=
  if c = ',' then .comma
  else if c = ':' then .colon
  else if c = ';' then .semicolon
  else if c = '(' ∨ c = '[' ∨ c = '{' then .opening c
  else if c = ')' ∨ c = ']' ∨ c = '}' then .closing c
  else .delim c

def nextToken (c : Char) (rest : List Char) : Token × List Char :=
  if isSpace c then (.whitespace, rest.dropWhile isSpace)
  else if c = '"' ∨ c = '\'' then quoted c rest
  else if c = '#' ∧ rest.head?.any isName then
    (.hash (rest.takeWhile isName), rest.dropWhile isName)
  else if startsNumber (c :: rest) then numeric (c :: rest)
  else if startsIdent (c :: rest) then identLike (c :: rest)
  else (single c, rest)

/-- The tokens of a text, of which there are no more than characters. -/
def tokensOf : Nat -> List Char -> List Token
  | fuel + 1, c :: rest => (nextToken c rest).1 :: tokensOf fuel (nextToken c rest).2
  | _, _ => []

def tokens (cs : List Char) : List Token := tokensOf cs.length cs

/-- White space between the parts of a value says nothing. -/
def significant (ts : List Token) : List Token := ts.filter (fun t => t != .whitespace)

/-!
# Grammars
-/

def lengthUnits : List String :=
  ["em", "rem", "ex", "rex", "cap", "rcap", "ch", "rch", "ic", "ric", "lh", "rlh", "vw", "vh",
    "vi", "vb", "vmin", "vmax", "cm", "mm", "q", "in", "pt", "pc", "px"]

def lower (cs : List Char) : String := String.ofList (cs.map Char.toLower)

/-- A length or a percentage; a length of zero needs no unit. -/
def IsLength : List Token -> Prop
  | [.dimension _ unit] => lower unit ∈ lengthUnits
  | [.percentage _] => True
  | [.number digits] => digits = ['0']
  | _ => False

instance : DecidablePred IsLength := fun ts => by
  unfold IsLength
  split <;> infer_instance

def IsWeight : List Token -> Prop
  | [.number digits] => digits.all Char.isDigit ∧ 1 ≤ Nat.ofDigitChars 10 digits 0 ∧
      Nat.ofDigitChars 10 digits 0 ≤ 1000
  | _ => False

def IsHexColor : List Token -> Prop
  | [.hash digits] => digits.all isHexDigit ∧ digits.length ∈ [3, 4, 6, 8]
  | _ => False

/-- What means the same for every property, and is no name of a family when it stands alone. -/
def reservedKeywords : List String :=
  ["inherit", "initial", "unset", "revert", "revert-layer", "default"]

def Token.isIdent : Token -> Bool
  | .ident _ => true
  | _ => false

def IsReserved : List Token -> Prop
  | [.ident name] => lower name ∈ reservedKeywords
  | _ => False

instance : DecidablePred IsReserved := fun ts => by
  unfold IsReserved
  split <;> infer_instance

/-- A string, or identifiers one after the other. -/
def IsFamily (ts : List Token) : Prop :=
  (exists name, ts = [.string name]) ∨
    (ts ≠ [] ∧ (forall t, t ∈ ts -> t.isIdent = true) ∧ Not (IsReserved ts))

def IsFamilyList (ts : List Token) : Prop :=
  forall family, family ∈ ts.splitOnP (fun t => t == .comma) -> IsFamily family

/-- The token ends no declaration, and opens or closes nothing. -/
def Token.isHarmless : Token -> Bool
  | .function _ | .unclosedString _ | .badString _ | .semicolon | .opening _ | .closing _ => false
  | .delim c => !(['!', '\\', '/', '@', '<', '>'].contains c)
  | _ => true

def Harmless (ts : List Token) : Prop := forall t, t ∈ ts -> t.isHarmless = true

/-!
# Readers
-/

section Readers

/-- The reader takes characters of a kind, and leaves the rest as it is. -/
structure Takes (reader : Reader) (test : Char -> Bool) : Prop where
  append : forall cs, (reader cs).1 ++ (reader cs).2 = cs
  taken : forall cs c, c ∈ (reader cs).1 -> test c = true

theorem Takes.readBoth {first second : Reader} {test : Char -> Bool} (h : Takes first test)
    (h' : Takes second test) : Takes (readBoth first second) test where
  append cs := by
    unfold Css.readBoth
    dsimp only
    rw [List.append_assoc, h'.append, h.append]
  taken cs c hc := by
    rcases List.mem_append.mp hc with hfirst | hsecond
    · exact h.taken cs c hfirst
    · exact h'.taken _ c hsecond

def inNumber (c : Char) : Bool :=
  c.isDigit || c == '+' || c == '-' || c == '.' || c == 'e' || c == 'E'

theorem mem_takeWhile {test : Char -> Bool} {cs : List Char} {c : Char}
    (h : c ∈ cs.takeWhile test) : test c = true :=
  List.all_eq_true.mp List.all_takeWhile c h

theorem takes_digits : Takes (readWhile Char.isDigit) inNumber where
  append _ := List.takeWhile_append_dropWhile
  taken cs c hc := by
    have hdigit : c.isDigit = true := mem_takeWhile hc
    unfold inNumber
    rw [hdigit]
    rfl

theorem takes_sign : Takes readSign inNumber where
  append cs := by
    unfold readSign
    split <;> rfl
  taken cs c hc := by
    unfold readSign at hc
    split at hc
    · rw [List.mem_singleton.mp hc]
      decide
    · rw [List.mem_singleton.mp hc]
      decide
    · cases hc

theorem takes_fraction : Takes readFraction inNumber where
  append cs := by
    unfold readFraction
    split
    · split
      · rw [List.cons_append, takes_digits.append]
      · rfl
    · rfl
  taken cs c hc := by
    unfold readFraction at hc
    split at hc
    · split at hc
      · rcases List.mem_cons.mp hc with rfl | hdigit
        · decide
        · exact takes_digits.taken _ c hdigit
      · cases hc
    · cases hc

theorem takes_exponent : Takes readExponent inNumber where
  append cs := by
    unfold readExponent
    split
    · split
      · rw [List.cons_append, (takes_sign.readBoth takes_digits).append]
      · rfl
    · rfl
  taken cs c hc := by
    unfold readExponent at hc
    split at hc
    · split at hc
      · rename_i first _ hstarts
        rcases List.mem_cons.mp hc with rfl | hrest
        · rcases hstarts.1 with rfl | rfl <;> decide
        · exact (takes_sign.readBoth takes_digits).taken _ c hrest
      · cases hc
    · cases hc

theorem takes_number : Takes readNumber inNumber :=
  ((takes_sign.readBoth takes_digits).readBoth takes_fraction).readBoth takes_exponent

theorem readFraction_dot (d : Char) (rest : List Char) :
    readFraction ('.' :: d :: rest) =
      if d.isDigit then ('.' :: (readWhile Char.isDigit (d :: rest)).1,
        (readWhile Char.isDigit (d :: rest)).2)
      else ([], '.' :: d :: rest) := rfl

theorem readSign_of_unsigned {cs : List Char} (h : forall rest, Not (cs = '+' :: rest))
    (h' : forall rest, Not (cs = '-' :: rest)) : readSign cs = ([], cs) := by
  unfold readSign
  split
  · rename_i rest
    exact absurd rfl (h rest)
  · rename_i rest
    exact absurd rfl (h' rest)
  · rfl

theorem readNumber_ne_nil {cs : List Char} (h : startsNumber cs = true) :
    (readNumber cs).1 ≠ [] := by
  intro hnil
  unfold readNumber readBoth at hnil
  dsimp only at hnil
  rw [List.append_eq_nil_iff, List.append_eq_nil_iff, List.append_eq_nil_iff] at hnil
  rcases hnil with ⟨⟨⟨hsign, hdigits⟩, hfraction⟩, _⟩
  unfold startsNumber at h
  split at h
  · cases hsign
  · cases hsign
  · rename_i hplus hminus
    rw [readSign_of_unsigned hplus hminus] at hdigits hfraction
    unfold startsUnsigned at h
    split at h
    · rename_i d rest _
      change (readFraction ('.' :: d :: rest)).1 = [] at hfraction
      rw [readFraction_dot, if_pos h] at hfraction
      cases hfraction
    · rename_i c rest _ _
      change (c :: rest).takeWhile Char.isDigit = [] at hdigits
      rw [List.takeWhile_cons_of_pos h] at hdigits
      cases hdigits
    · cases h

end Readers

/-!
# Token by token
-/

section Tokens

variable {c : Char} {cs rest taken : List Char}

def isQuote (c : Char) : Bool := c == '"' || c == '\''

/-- What a token took off, and whether it took a quote. -/
structure Leaves (cs rest taken : List Char) : Prop where
  append : cs = taken ++ rest
  unquoted : forall c, c ∈ taken -> isQuote c = false

theorem Leaves.cons (h : Leaves cs rest taken) (hc : isQuote c = false) :
    Leaves (c :: cs) rest (c :: taken) where
  append := by rw [h.append, List.cons_append]
  unquoted d hd := by
    rcases List.mem_cons.mp hd with rfl | htaken
    · exact hc
    · exact h.unquoted d htaken

theorem Leaves.trans {rest' taken' : List Char} (h : Leaves cs rest taken)
    (h' : Leaves rest rest' taken') : Leaves cs rest' (taken ++ taken') where
  append := by rw [h.append, h'.append, List.append_assoc]
  unquoted c hc := (List.mem_append.mp hc).elim (h.unquoted c) (h'.unquoted c)

variable {test : Char -> Bool}

theorem not_isQuote (h : test '"' = false) (h' : test '\'' = false)
    (hc : test c = true) : isQuote c = false := by
  unfold isQuote
  rw [Bool.or_eq_false_iff]
  constructor
  · apply beq_false_of_ne
    rintro rfl
    rw [h] at hc
    cases hc
  · apply beq_false_of_ne
    rintro rfl
    rw [h'] at hc
    cases hc

theorem leaves_dropWhile (h : test '"' = false) (h' : test '\'' = false)
    (cs : List Char) : Leaves cs (cs.dropWhile test) (cs.takeWhile test) where
  append := List.takeWhile_append_dropWhile.symm
  unquoted _ hc := not_isQuote h h' (mem_takeWhile hc)

theorem leaves_name (cs : List Char) :
    Leaves cs (cs.dropWhile isName) (cs.takeWhile isName) :=
  leaves_dropWhile (by decide) (by decide) cs

theorem numeric_leaves (h : startsNumber cs = true) :
    exists taken, taken ≠ [] ∧ Leaves cs (numeric cs).2 taken := by
  have hnumber : Leaves cs (readNumber cs).2 (readNumber cs).1 := by
    refine ⟨(takes_number.append cs).symm, ?_⟩
    intro c hc
    exact @not_isQuote c inNumber (by decide) (by decide) (takes_number.taken cs c hc)
  have hne := readNumber_ne_nil h
  unfold numeric
  dsimp only
  split
  · refine ⟨_, ?_, hnumber.trans (leaves_name _)⟩
    exact List.append_ne_nil_of_left_ne_nil hne _
  · split
    · rename_i rest hrest
      refine ⟨(readNumber cs).1 ++ ['%'], List.append_ne_nil_of_left_ne_nil hne _, ?_⟩
      apply hnumber.trans
      rw [hrest]
      exact Leaves.cons ⟨rfl, fun c hc => (nomatch hc)⟩ (by decide)
    · exact ⟨_, hne, hnumber⟩

theorem isName_of_startsIdent (h : startsIdent (c :: rest) = true) : isName c = true := by
  unfold isName
  unfold startsIdent at h
  split at h
  · rename_i heq
    cases heq
    decide
  · rename_i heq
    cases heq
    rw [h]
    rfl
  · cases h

theorem identLike_leaves (h : startsIdent (c :: rest) = true) :
    exists taken, taken ≠ [] ∧ Leaves (c :: rest) (identLike (c :: rest)).2 taken := by
  have hname := leaves_name (c :: rest)
  have hne : (c :: rest).takeWhile isName ≠ [] := by
    rw [List.takeWhile_cons_of_pos (isName_of_startsIdent h)]
    exact List.cons_ne_nil _ _
  unfold identLike
  split
  · rename_i rest' hrest
    refine ⟨(c :: rest).takeWhile isName ++ ['('], List.append_ne_nil_of_left_ne_nil hne _, ?_⟩
    apply hname.trans
    rw [hrest]
    exact Leaves.cons ⟨rfl, fun c hc => (nomatch hc)⟩ (by decide)
  · exact ⟨_, hne, hname⟩

theorem nextToken_leaves (h : isQuote c = false) :
    exists taken, taken ≠ [] ∧ Leaves (c :: rest) (nextToken c rest).2 taken := by
  unfold nextToken
  split
  · exact ⟨_, List.cons_ne_nil _ _,
      (@leaves_dropWhile isSpace (by decide) (by decide) rest).cons h⟩
  · split
    · rename_i hquote
      rcases hquote with rfl | rfl <;> cases h
    · split
      · exact ⟨_, List.cons_ne_nil _ _, (leaves_name rest).cons h⟩
      · split
        · rename_i hstarts
          exact numeric_leaves hstarts
        · split
          · rename_i hstarts
            exact identLike_leaves hstarts
          · exact ⟨[c], List.cons_ne_nil _ _,
              Leaves.cons ⟨rfl, fun c hc => (nomatch hc)⟩ h⟩

theorem quoted_length (quote : Char) (cs : List Char) :
    (quoted quote cs).2.length ≤ cs.length := by
  have hle : (cs.dropWhile (inString quote)).length ≤ cs.length :=
    (List.dropWhile_suffix _).length_le
  unfold quoted
  split
  · exact Nat.zero_le _
  · rename_i c rest hrest
    rw [hrest, List.length_cons] at hle
    split
    · exact Nat.le_of_succ_le hle
    · exact hle

theorem nextToken_quote (h : isQuote c = true) (rest : List Char) :
    nextToken c rest = quoted c rest := by
  have hquote : c = '"' ∨ c = '\'' := by
    simpa [isQuote] using h
  have hspace : isSpace c = false := by
    rcases hquote with rfl | rfl <;> decide
  unfold nextToken
  rw [hspace, if_neg (by decide), if_pos hquote]

theorem nextToken_length (c : Char) (rest : List Char) :
    (nextToken c rest).2.length ≤ rest.length := by
  cases hquote : isQuote c with
  | false =>
      rcases @nextToken_leaves c rest hquote with ⟨taken, hne, hleaves⟩
      have hlength := congrArg List.length hleaves.append
      rw [List.length_append, List.length_cons] at hlength
      have hpos := List.length_pos_iff.mpr hne
      omega
  | true =>
      rw [nextToken_quote hquote]
      exact quoted_length c rest

theorem tokensOf_eq {fuel fuel' : Nat} (h : cs.length ≤ fuel) (h' : cs.length ≤ fuel') :
    tokensOf fuel cs = tokensOf fuel' cs := by
  induction fuel generalizing cs fuel' with
  | zero =>
      rw [List.length_eq_zero_iff.mp (Nat.le_zero.mp h)]
      cases fuel' <;> rfl
  | succ fuel ih =>
      cases cs with
      | nil => cases fuel' <;> rfl
      | cons c rest =>
          cases fuel' with
          | zero => cases h'
          | succ fuel' =>
              have hshort := nextToken_length c rest
              unfold tokensOf
              rw [ih (Nat.le_trans hshort (Nat.le_of_succ_le_succ h))
                (Nat.le_trans hshort (Nat.le_of_succ_le_succ h'))]

theorem tokens_cons (c : Char) (rest : List Char) :
    tokens (c :: rest) = (nextToken c rest).1 :: tokens (nextToken c rest).2 := by
  unfold tokens
  rw [List.length_cons]
  change (nextToken c rest).1 :: tokensOf rest.length (nextToken c rest).2 = _
  rw [tokensOf_eq (nextToken_length c rest) (Nat.le_refl _)]

theorem takeWhile_stop (h : forall c, c ∈ taken -> test c = true)
    (hstop : forall c, rest.head? = some c -> test c = false) :
    (taken ++ rest).takeWhile test = taken ∧ (taken ++ rest).dropWhile test = rest := by
  rw [List.takeWhile_append_of_pos h, List.dropWhile_append_of_pos h]
  cases rest with
  | nil => exact ⟨List.append_nil _, rfl⟩
  | cons c rest =>
      have hc : Not (test c = true) := by
        rw [hstop c rfl]
        decide
      rw [List.takeWhile_cons_of_neg hc, List.dropWhile_cons_of_neg hc]
      exact ⟨List.append_nil _, rfl⟩

theorem significant_tokens_space (h : isSpace c = true) :
    significant (tokens (c :: rest)) = significant (tokens rest) := by
  have hnext : forall c rest, isSpace c = true ->
      significant (tokens (c :: rest)) = significant (tokens (rest.dropWhile isSpace)) := by
    intro c rest h
    rw [tokens_cons]
    unfold nextToken
    rw [if_pos h]
    rfl
  rw [hnext c rest h]
  cases rest with
  | nil => rfl
  | cons d rest =>
      cases hd : isSpace d with
      | false => rw [List.dropWhile_cons_of_neg (by rw [hd]; decide)]
      | true => rw [List.dropWhile_cons_of_pos hd, hnext d rest hd]

theorem tokens_comma (rest : List Char) : tokens (',' :: rest) = .comma :: tokens rest :=
  tokens_cons ',' rest

theorem tokens_quoted {quote : Char} (hquote : isQuote quote = true) {value : List Char}
    (h : forall c, c ∈ value -> inString quote c = true) (rest : List Char) :
    tokens (quote :: (value ++ quote :: rest)) = .string value :: tokens rest := by
  have hend : inString quote quote = false := by
    unfold inString
    rw [bne_self_eq_false]
    rfl
  have hstop : forall c, (quote :: rest).head? = some c -> inString quote c = false := by
    intro c hc
    cases hc
    exact hend
  have hquoted : quoted quote (value ++ quote :: rest) = (.string value, rest) := by
    rcases takeWhile_stop h hstop with ⟨htake, hdrop⟩
    unfold quoted
    rw [hdrop, htake]
    dsimp only
    rw [if_pos rfl]
  rw [tokens_cons, nextToken_quote hquote, hquoted]

theorem ne_of_test {d : Char} (h : test c = true) (h' : test d = false) :
    c ≠ d := by
  rintro rfl
  rw [h] at h'
  cases h'

theorem inString_of_test {quote : Char}
    (h : [quote, '\n', '\r', Char.ofNat 12, '\\'].all (fun d => !test d) = true)
    (hc : test c = true) : inString quote c = true := by
  have hne : forall d, d ∈ [quote, '\n', '\r', Char.ofNat 12, '\\'] -> c ≠ d :=
    fun d hd => ne_of_test hc (by simpa using List.all_eq_true.mp h d hd)
  unfold inString isNewline
  rw [beq_false_of_ne (hne '\n' (by simp)), beq_false_of_ne (hne '\r' (by simp)),
    beq_false_of_ne (hne (Char.ofNat 12) (by simp)), bne_iff_ne.mpr (hne quote (by simp)),
    bne_iff_ne.mpr (hne '\\' (by simp))]
  rfl

theorem isDigit_of_isNameStart (h : isNameStart c = true) : c.isDigit = false := by
  unfold isNameStart at h
  unfold Char.isDigit
  simp only [Bool.or_eq_true, Bool.and_eq_true, decide_eq_true_eq, beq_iff_eq] at h
  rw [Bool.and_eq_false_iff, decide_eq_false_iff_not, decide_eq_false_iff_not]
  rcases h with ((⟨ha, _⟩ | ⟨ha, _⟩) | rfl) | hhigh
  · right
    intro hle
    exact absurd (Nat.le_trans ha hle) (by decide)
  · right
    intro hle
    exact absurd (Nat.le_trans ha hle) (by decide)
  · decide
  · right
    intro hle
    exact absurd (Nat.le_trans hhigh hle) (by decide)

theorem not_isSpace (h : [' ', '\t', '\n', '\r', Char.ofNat 12].all (fun d => !test d) = true)
    (hc : test c = true) : isSpace c = false := by
  cases hspace : isSpace c with
  | false => rfl
  | true =>
      have hmem : c ∈ [' ', '\t', '\n', '\r', Char.ofNat 12] := by
        simpa [isSpace, isNewline, or_assoc] using hspace
      have hnot := List.all_eq_true.mp h c hmem
      rw [hc] at hnot
      cases hnot

theorem startsNumber_of_startsIdent (h : startsIdent cs = true) : startsNumber cs = false := by
  have hstart : forall c rest, isNameStart c = true -> startsUnsigned (c :: rest) = false := by
    intro c rest hc
    unfold startsUnsigned
    split
    · rename_i heq
      cases heq
      exact absurd hc (by decide)
    · rename_i heq
      cases heq
      exact isDigit_of_isNameStart hc
    · rfl
  unfold startsIdent at h
  split at h
  · rename_i c rest
    change startsUnsigned (c :: rest) = false
    rcases Bool.or_eq_true_iff.mp h with hc | hc
    · exact hstart c rest hc
    · rw [beq_iff_eq.mp hc]
      rfl
  · rename_i c rest _
    unfold startsNumber
    split
    · rename_i heq
      cases heq
      exact absurd h (by decide)
    · rename_i heq
      cases heq
      exact absurd h (by decide)
    · exact hstart c rest h
  · cases h

/-- No name goes on, and none becomes a function. -/
def Stops (rest : List Char) : Prop :=
  forall c, rest.head? = some c -> isName c = false ∧ c ≠ '('

theorem startsIdent_hyphen (cs : List Char) :
    startsIdent ('-' :: cs) = cs.head?.any (fun c => isNameStart c || c == '-') := by
  cases cs <;> rfl

theorem startsIdent_of_ne (h : c ≠ '-') (cs : List Char) :
    startsIdent (c :: cs) = isNameStart c := by
  unfold startsIdent
  split
  · rename_i heq
    cases heq
    exact absurd rfl h
  · rename_i heq
    cases heq
    rfl
  · rename_i heq
    cases heq

theorem startsIdent_append (hne : taken ≠ []) (h : Stops rest) :
    startsIdent (taken ++ rest) = startsIdent taken := by
  rcases List.exists_cons_of_ne_nil hne with ⟨c, word, rfl⟩
  rw [List.cons_append]
  by_cases hc : c = '-'
  · rw [hc, startsIdent_hyphen, startsIdent_hyphen]
    cases word with
    | cons d word => rfl
    | nil =>
        rw [List.nil_append, List.head?_nil, Option.any_none]
        cases rest with
        | nil => rfl
        | cons d rest =>
            have hd := (h d rfl).1
            unfold isName at hd
            rw [Bool.or_eq_false_iff, Bool.or_eq_false_iff] at hd
            rw [List.head?_cons, Option.any_some, hd.1.1, hd.2]
            rfl
  · rw [startsIdent_of_ne hc, startsIdent_of_ne hc]

theorem nextToken_name (h : isName c = true) (rest : List Char) :
    nextToken c rest =
      if startsNumber (c :: rest) then numeric (c :: rest)
      else if startsIdent (c :: rest) then identLike (c :: rest)
      else (single c, rest) := by
  have hquote : Not (c = '"' ∨ c = '\'') := by
    rintro (rfl | rfl) <;> cases h
  have hhash : Not (c = '#' ∧ rest.head?.any isName = true) := by
    rintro ⟨rfl, _⟩
    cases h
  unfold nextToken
  rw [@not_isSpace c isName (by decide) h, if_neg (by decide), if_neg hquote, if_neg hhash]

theorem tokens_ident (h : forall c, c ∈ taken -> isName c = true)
    (hstarts : startsIdent taken = true) (hstops : Stops rest) :
    tokens (taken ++ rest) = .ident taken :: tokens rest := by
  have hne : taken ≠ [] := by
    rintro rfl
    cases hstarts
  rcases takeWhile_stop h (fun c hc => (hstops c hc).1) with ⟨htake, hdrop⟩
  have hident : identLike (taken ++ rest) = (.ident taken, rest) := by
    unfold identLike
    rw [htake, hdrop]
    split
    · exact absurd rfl (hstops '(' rfl).2
    · rfl
  have hstarts' : startsIdent (taken ++ rest) = true := by
    rw [startsIdent_append hne hstops, hstarts]
  rcases List.exists_cons_of_ne_nil hne with ⟨c, word, rfl⟩
  rw [List.cons_append] at hident hstarts' ⊢
  rw [tokens_cons, nextToken_name (h c List.mem_cons_self),
    startsNumber_of_startsIdent hstarts', if_neg (by decide), if_pos hstarts', hident]

theorem tokens_hash (h : forall c, c ∈ taken -> isName c = true) (hne : taken ≠ []) :
    tokens ('#' :: taken) = [.hash taken] := by
  have hfirst : '#' = '#' ∧ taken.head?.any isName = true := by
    rcases List.exists_cons_of_ne_nil hne with ⟨c, rest, rfl⟩
    exact ⟨rfl, h c List.mem_cons_self⟩
  have hnext : nextToken '#' taken = (.hash (taken.takeWhile isName), taken.dropWhile isName) := by
    show (if '#' = '#' ∧ taken.head?.any isName then _ else _) = _
    rw [if_pos hfirst]
  have hwhole := @takeWhile_stop [] taken isName h (by simp)
  rw [List.append_nil] at hwhole
  rw [tokens_cons, hnext, hwhole.1, hwhole.2]
  rfl

theorem inNumber_of_startsNumber (h : startsNumber (c :: rest) = true) : inNumber c = true := by
  unfold startsNumber at h
  split at h
  · rename_i heq
    cases heq
    decide
  · rename_i heq
    cases heq
    decide
  · unfold startsUnsigned at h
    split at h
    · rename_i heq
      cases heq
      decide
    · rename_i heq
      cases heq
      unfold inNumber
      rw [h]
      rfl
    · cases h

theorem tokens_number (h : startsNumber cs = true) :
    tokens cs = (numeric cs).1 :: tokens (numeric cs).2 := by
  cases cs with
  | nil => cases h
  | cons c rest =>
      have hc := inNumber_of_startsNumber h
      have hquote : Not (c = '"' ∨ c = '\'') := by
        rintro (rfl | rfl) <;> cases hc
      have hhash : Not (c = '#' ∧ rest.head?.any isName = true) := by
        rintro ⟨rfl, _⟩
        cases hc
      rw [tokens_cons]
      unfold nextToken
      rw [@not_isSpace c inNumber (by decide) hc, if_neg (by decide), if_neg hquote,
        if_neg hhash, if_pos h]

theorem startsNumber_digit (h : c.isDigit = true) (rest : List Char) :
    startsNumber (c :: rest) = true := by
  unfold startsNumber
  split
  · rename_i heq
    cases heq
    cases h
  · rename_i heq
    cases heq
    cases h
  · unfold startsUnsigned
    split
    · rename_i heq
      cases heq
      cases h
    · rename_i heq
      cases heq
      exact h
    · rename_i heq
      cases heq

theorem readNumber_unsigned (h : (cs.head?.any fun c => c == '+' || c == '-') = false) :
    readNumber cs =
      readBoth (readBoth (readWhile Char.isDigit) readFraction) readExponent cs := by
  have hsign : readSign cs = ([], cs) := by
    apply readSign_of_unsigned
    · rintro rest rfl
      cases h
    · rintro rest rfl
      cases h
  unfold readNumber readBoth
  rw [hsign]
  rfl

theorem readNumber_whole (h : forall c, c ∈ taken -> c.isDigit = true) (hne : taken ≠ [])
    (hstop : forall c, rest.head? = some c -> c.isDigit = false)
    (hfraction : readFraction rest = ([], rest)) (hexponent : readExponent rest = ([], rest)) :
    readNumber (taken ++ rest) = (taken, rest) := by
  rcases takeWhile_stop h hstop with ⟨htake, hdrop⟩
  rw [readNumber_unsigned]
  · unfold readBoth readWhile
    dsimp only
    rw [htake, hdrop, hfraction, hexponent, List.append_nil, List.append_nil]
  · rcases List.exists_cons_of_ne_nil hne with ⟨c, word, rfl⟩
    have hc := h c List.mem_cons_self
    rw [List.cons_append, List.head?_cons, Option.any_some, Bool.or_eq_false_iff]
    exact ⟨beq_false_of_ne (ne_of_test hc (by decide)), beq_false_of_ne (ne_of_test hc (by decide))⟩

theorem readNumber_places {places : List Char} (h : forall c, c ∈ taken -> c.isDigit = true)
    (hplaces : forall c, c ∈ places -> c.isDigit = true) (hne : places ≠ [])
    (hstop : forall c, rest.head? = some c -> c.isDigit = false)
    (hexponent : readExponent rest = ([], rest)) :
    readNumber (taken ++ '.' :: (places ++ rest)) = (taken ++ '.' :: places, rest) := by
  have hdot : forall c, ('.' :: (places ++ rest)).head? = some c -> c.isDigit = false := by
    intro c hc
    cases hc
    decide
  rcases takeWhile_stop h hdot with ⟨htake, hdrop⟩
  have hfraction : readFraction ('.' :: (places ++ rest)) = ('.' :: places, rest) := by
    rcases takeWhile_stop hplaces hstop with ⟨htake, hdrop⟩
    rcases List.exists_cons_of_ne_nil hne with ⟨d, digits, rfl⟩
    rw [List.cons_append] at htake hdrop ⊢
    rw [readFraction_dot, if_pos (hplaces d List.mem_cons_self)]
    unfold readWhile
    rw [htake, hdrop]
  rw [readNumber_unsigned]
  · unfold readBoth readWhile
    dsimp only
    rw [htake, hdrop, hfraction, hexponent, List.append_nil]
  · cases taken with
    | nil => rfl
    | cons c word =>
        have hc := h c List.mem_cons_self
        rw [List.cons_append, List.head?_cons, Option.any_some, Bool.or_eq_false_iff]
        exact ⟨beq_false_of_ne (ne_of_test hc (by decide)),
          beq_false_of_ne (ne_of_test hc (by decide))⟩

/-- The token can be part of a list of families. -/
def Token.isFamilyPart : Token -> Bool
  | .ident _ | .string _ | .comma | .whitespace => true
  | _ => false

theorem numeric_notFamilyPart (cs : List Char) : (numeric cs).1.isFamilyPart = false := by
  unfold numeric
  dsimp only
  split
  · rfl
  · split <;> rfl

theorem nextToken_improper {word : List Char}
    (h : forall d, d ∈ c :: word -> isName d = true) (hstarts : startsIdent (c :: word) = false)
    (hstops : Stops rest) :
    (nextToken c (word ++ rest)).1.isFamilyPart = false := by
  have hc : isName c = true := h c List.mem_cons_self
  have hstarts' : startsIdent (c :: (word ++ rest)) = false := by
    rw [← List.cons_append, startsIdent_append (List.cons_ne_nil _ _) hstops, hstarts]
  rw [nextToken_name hc, hstarts']
  split
  · exact numeric_notFamilyPart _
  · rw [if_neg (by decide)]
    unfold single
    split
    · rename_i heq
      rw [heq] at hc
      cases hc
    · repeat (first | rfl | split)

end Tokens

/-!
# Lists of families
-/

section Pieces

theorem splitOnP_map {a b : Type} (f : a -> b) (p : b -> Bool) (items : List a) :
    (items.map f).splitOnP p = (items.splitOnP (fun item => p (f item))).map (List.map f) := by
  induction items with
  | nil => rfl
  | cons item rest ih =>
      rw [List.map_cons, List.splitOnP_cons_eq_if_modifyHead, List.splitOnP_cons_eq_if_modifyHead,
        ih]
      rcases List.exists_cons_of_ne_nil
        (List.splitOnP_ne_nil (fun item => p (f item)) rest) with ⟨piece, later, hpieces⟩
      rw [hpieces]
      split
      · rfl
      · rfl

theorem splitOnP_piece {a : Type} {p : a -> Bool} {items piece : List a}
    (h : piece ∈ items.splitOnP p) {item : a} (hitem : item ∈ piece) : p item = false := by
  induction items generalizing piece with
  | nil =>
      rw [List.splitOnP_nil, List.mem_singleton] at h
      rw [h] at hitem
      cases hitem
  | cons first rest ih =>
      rw [List.splitOnP_cons_eq_if_modifyHead] at h
      split at h
      · rcases List.mem_cons.mp h with rfl | hpiece
        · cases hitem
        · exact ih hpiece hitem
      · rename_i hfirst
        rcases List.exists_cons_of_ne_nil (List.splitOnP_ne_nil p rest) with
          ⟨head, later, hpieces⟩
        rw [hpieces, List.modifyHead_cons] at h
        rw [hpieces] at ih
        rcases List.mem_cons.mp h with rfl | hpiece
        · rcases List.mem_cons.mp hitem with rfl | hhead
          · simpa using hfirst
          · exact ih List.mem_cons_self hhead
        · exact ih (List.mem_cons_of_mem _ hpiece) hitem

theorem mem_splitOnP {a : Type} {p : a -> Bool} {items : List a} {item : a}
    (h : item ∈ items) (hitem : p item = false) :
    exists piece, piece ∈ items.splitOnP p ∧ item ∈ piece := by
  induction items with
  | nil => cases h
  | cons first rest ih =>
      rw [List.splitOnP_cons_eq_if_modifyHead]
      rcases List.exists_cons_of_ne_nil (List.splitOnP_ne_nil p rest) with ⟨head, later, hpieces⟩
      rw [hpieces] at ih ⊢
      rw [List.modifyHead_cons]
      rcases List.mem_cons.mp h with rfl | hrest
      · rw [hitem, if_neg (by decide)]
        exact ⟨_, List.mem_cons_self, List.mem_cons_self⟩
      · rcases ih hrest with ⟨piece, hpiece, hmem⟩
        split
        · exact ⟨piece, List.mem_cons_of_mem _ hpiece, hmem⟩
        · rcases List.mem_cons.mp hpiece with rfl | hlater
          · exact ⟨_, List.mem_cons_self, List.mem_cons_of_mem _ hmem⟩
          · exact ⟨piece, List.mem_cons_of_mem _ hlater, hmem⟩

theorem isFamily_part {ts : List Token} (h : IsFamily ts) {t : Token} (ht : t ∈ ts) :
    t.isFamilyPart = true := by
  rcases h with ⟨name, rfl⟩ | ⟨_, hidents, _⟩
  · rw [List.mem_singleton.mp ht]
    rfl
  · have hident := hidents t ht
    cases t with
    | ident name => rfl
    | _ => cases hident

theorem familyList_part {ts : List Token} (h : IsFamilyList ts) {t : Token} (ht : t ∈ ts) :
    t.isFamilyPart = true := by
  by_cases hcomma : t = .comma
  · rw [hcomma]
    rfl
  · have hsplit : exists piece, piece ∈ ts.splitOnP (fun t => t == .comma) ∧ t ∈ piece :=
      mem_splitOnP ht (by simpa using hcomma)
    rcases hsplit with ⟨piece, hpiece, hmem⟩
    exact isFamily_part (h piece hpiece) hmem

theorem familyList_string (name : List Char) (ts : List Token) :
    IsFamilyList (.string name :: .comma :: ts) <-> IsFamilyList ts := by
  have hsplit : (Token.string name :: .comma :: ts).splitOnP (fun t => t == .comma) =
      [.string name] :: ts.splitOnP (fun t => t == .comma) := by
    rw [List.splitOnP_cons_eq_if_modifyHead, List.splitOnP_cons_eq_if_modifyHead]
    rfl
  unfold IsFamilyList
  rw [hsplit]
  constructor
  · intro h family hfamily
    exact h family (List.mem_cons_of_mem _ hfamily)
  · intro h family hfamily
    rcases List.mem_cons.mp hfamily with rfl | hlater
    · exact Or.inl ⟨name, rfl⟩
    · exact h family hlater

end Pieces

/-!
# Closed texts
-/

section Closed

variable {c : Char} {cs rest taken : List Char}

/-- What stands in the values of the kinds above, strings apart. -/
def isPlain (c : Char) : Bool := isName c || [' ', ',', '.', '%', '#'].contains c

/-- Plain characters and strings that end on their line. -/
inductive Closed : List Char -> Prop where
  | nil : Closed []
  | plain {c : Char} {rest : List Char} : isPlain c = true -> Closed rest -> Closed (c :: rest)
  | string {quote : Char} {value rest : List Char} : isQuote quote = true ->
      (forall c, c ∈ value -> inString quote c = true) -> Closed rest ->
        Closed (quote :: (value ++ quote :: rest))

theorem isPlain_notQuote (h : isPlain c = true) : isQuote c = false :=
  not_isQuote (by decide) (by decide) h

theorem Closed.tail (h : Closed (c :: rest)) (hc : isQuote c = false) : Closed rest := by
  generalize heq : c :: rest = cs at h
  cases h with
  | nil => cases heq
  | plain _ hrest =>
      cases heq
      exact hrest
  | string hquote _ _ =>
      rw [(List.cons.inj heq).1, hquote] at hc
      cases hc

theorem Closed.drop (h : Closed cs) (hleaves : Leaves cs rest taken) : Closed rest := by
  rcases hleaves with ⟨rfl, hunquoted⟩
  induction taken with
  | nil => exact h
  | cons c taken ih =>
      exact ih (fun d hd => hunquoted d (List.mem_cons_of_mem c hd))
        (h.tail (hunquoted c List.mem_cons_self))

theorem Closed.head (h : Closed (c :: rest)) : isPlain c = true ∨ isQuote c = true := by
  cases h with
  | plain hc _ => exact Or.inl hc
  | string hc _ _ => exact Or.inr hc

theorem Closed.stops (h : Closed cs) (hname : forall c, cs.head? = some c -> isName c = false) :
    Stops cs := by
  intro c hc
  refine ⟨hname c hc, ?_⟩
  rintro rfl
  cases cs with
  | nil => cases hc
  | cons d rest =>
      cases hc
      rcases h.head with hplain | hquote
      · cases hplain
      · cases hquote

theorem stops_dropWhile (h : Closed cs) : Stops (cs.dropWhile isName) := by
  apply (h.drop (leaves_name cs)).stops
  intro c hc
  have hhead := List.head?_dropWhile_not isName cs
  rw [hc] at hhead
  simpa using hhead

theorem single_harmless (h : isPlain c = true) : (single c).isHarmless = true := by
  unfold single
  split
  · rfl
  · split
    · rfl
    · split
      · rename_i heq
        rw [heq] at h
        cases h
      · split
        · rename_i heq
          rcases heq with rfl | rfl | rfl <;> cases h
        · split
          · rename_i heq
            rcases heq with rfl | rfl | rfl <;> cases h
          · change (!(['!', '\\', '/', '@', '<', '>'].contains c)) = true
            rw [Bool.not_eq_true', ← Bool.not_eq_true, List.contains_iff_mem]
            intro hmem
            have hnone : ['!', '\\', '/', '@', '<', '>'].all (fun d => !isPlain d) = true := by
              decide
            have hplain := List.all_eq_true.mp hnone c hmem
            rw [h] at hplain
            cases hplain

theorem nextToken_harmless (hc : isPlain c = true) (h : Closed (c :: rest)) :
    (nextToken c rest).1.isHarmless = true := by
  have hquote : Not (c = '"' ∨ c = '\'') := by
    rintro (rfl | rfl) <;> cases hc
  unfold nextToken
  split
  · rfl
  · split
    · rfl
    · split
      · unfold numeric
        dsimp only
        split
        · rfl
        · split <;> rfl
      · split
        · unfold identLike
          split
          · rename_i hrest
            exact absurd rfl (stops_dropWhile h '(' (by rw [hrest]; rfl)).2
          · rfl
        · exact single_harmless hc

theorem Closed.harmless (h : Closed cs) : Harmless (tokens cs) := by
  induction hlength : cs.length using Nat.strongRecOn generalizing cs with
  | ind n ih =>
      subst hlength
      cases h with
      | nil => exact fun t ht => (nomatch ht)
      | @plain c rest hc hrest =>
          have hclosed : Closed (c :: rest) := .plain hc hrest
          rcases @nextToken_leaves c rest (isPlain_notQuote hc) with ⟨taken, _, hleaves⟩
          intro t ht
          rw [tokens_cons] at ht
          rcases List.mem_cons.mp ht with rfl | hlater
          · exact nextToken_harmless hc hclosed
          · exact ih _ (Nat.lt_succ_of_le (nextToken_length c rest)) (hclosed.drop hleaves) rfl t
              hlater
      | @string quote value rest hquote hvalue hrest =>
          intro t ht
          rw [tokens_quoted hquote hvalue] at ht
          rcases List.mem_cons.mp ht with rfl | hlater
          · rfl
          · refine ih _ ?_ hrest rfl t hlater
            rw [List.length_cons, List.length_append, List.length_cons]
            omega

end Closed

end Css
end ServerComponents
