import ServerComponents.Text.JsonGrammar

/-!
# Strings that stand for themselves

A reader of a JSON string takes at least one character for each that it answers, and
exactly one only for a character that needs no escape.
-/

namespace ServerComponents
namespace Text
namespace JsonGrammar

/-- A character that stands in a string as itself. -/
def PlainChar (c : Char) : Prop := c ≠ '"' ∧ c ≠ '\\' ∧ 0x20 ≤ c.toNat

instance (c : Char) : Decidable (PlainChar c) :=
  inferInstanceAs (Decidable (_ ∧ _ ∧ _))

theorem stringChar_plain {c : Char} (hc : PlainChar c) (rest : List Char) :
    stringChar (c :: rest) = some (c, rest) := by
  unfold stringChar
  dsimp only
  rw [if_neg hc.2.1, if_neg (Nat.not_lt.mpr hc.2.2)]

theorem stringBody_plain {cs : List Char} (hcs : forall c, c ∈ cs -> PlainChar c)
    (rest : List Char) {fuel : Nat} (hfuel : cs.length < fuel) :
    stringBody fuel (cs ++ '"' :: rest) = some (cs, rest) := by
  induction cs generalizing fuel with
  | nil =>
      cases fuel with
      | zero => exact absurd hfuel (Nat.lt_irrefl 0)
      | succ fuel => rfl
  | cons c cs ih =>
      cases fuel with
      | zero => exact absurd hfuel (Nat.not_lt_zero _)
      | succ fuel =>
          have hc := hcs c List.mem_cons_self
          have hbody := ih (fun d hd => hcs d (List.mem_cons_of_mem c hd))
            (Nat.lt_of_succ_lt_succ hfuel)
          rw [List.cons_append]
          unfold stringBody
          split
          case h_1 heq => exact absurd (List.cons.inj heq).1 hc.1
          case h_2 =>
            rw [stringChar_plain hc]
            simp only [Option.bind_eq_bind, Option.bind_some, hbody]

/-!
## What a reader takes
-/

variable {input rest : List Char}

theorem codeUnit_length {n : Nat}
    (h : codeUnit input = some (n, rest)) : rest.length ≤ input.length := by
  unfold codeUnit at h
  split at h
  · simp only [Option.bind_eq_bind, Option.bind_eq_some_iff] at h
    rcases h with ⟨_, -, _, -, _, -, _, -, h⟩
    rw [← (Prod.mk.inj (Option.some.inj h)).2]
    simp only [List.length_cons]
    omega
  · cases h

theorem lowSurrogate_length {high : Nat} {c : Char}
    (h : lowSurrogate high input = some (c, rest)) : rest.length ≤ input.length := by
  unfold lowSurrogate at h
  split at h
  · simp only [Option.bind_eq_bind, Option.bind_eq_some_iff] at h
    rcases h with ⟨⟨low, rest'⟩, hunit, h⟩
    have hlength := codeUnit_length hunit
    split at h
    · rw [← (Prod.mk.inj (Option.some.inj h)).2]
      simp only [List.length_cons]
      omega
    · cases h
  · cases h

theorem unicodeEscape_length {c : Char}
    (h : unicodeEscape input = some (c, rest)) : rest.length ≤ input.length := by
  unfold unicodeEscape at h
  simp only [Option.bind_eq_bind, Option.bind_eq_some_iff] at h
  rcases h with ⟨⟨unit, rest'⟩, hunit, h⟩
  have hlength := codeUnit_length hunit
  split at h
  · exact Nat.le_trans (lowSurrogate_length h) hlength
  split at h
  · cases h
  · rw [← (Prod.mk.inj (Option.some.inj h)).2]
    exact hlength

theorem escaped_length {c : Char}
    (h : escaped input = some (c, rest)) : rest.length + 1 ≤ input.length := by
  unfold escaped at h
  split at h
  case h_9 => exact Nat.succ_le_succ (unicodeEscape_length h)
  case h_10 => cases h
  all_goals
    rw [← (Prod.mk.inj (Option.some.inj h)).2]
    exact Nat.le_refl _

theorem stringChar_cases {c : Char} (h : stringChar input = some (c, rest)) :
    (input = c :: rest ∧ c ≠ '\\' ∧ 0x20 ≤ c.toNat) ∨ rest.length + 2 ≤ input.length := by
  unfold stringChar at h
  split at h
  · cases h
  · rename_i d tail
    split at h
    · exact Or.inr (Nat.succ_le_succ (escaped_length h))
    · rename_i hslash
      split at h
      · cases h
      · rename_i hlow
        rcases Prod.mk.inj (Option.some.inj h) with ⟨rfl, rfl⟩
        exact Or.inl ⟨rfl, hslash, Nat.not_lt.mp hlow⟩

/-- What is read is no longer than what it is read from, and as long only where every character
is plain. -/
theorem stringBody_length {fuel : Nat} {input cs rest : List Char}
    (h : stringBody fuel input = some (cs, rest)) :
    cs.length + 1 + rest.length ≤ input.length ∧
      (input.length ≤ cs.length + 1 + rest.length -> forall c, c ∈ cs -> PlainChar c) := by
  induction fuel generalizing input cs rest with
  | zero => cases h
  | succ fuel ih =>
      unfold stringBody at h
      split at h
      · rcases Prod.mk.inj (Option.some.inj h) with ⟨rfl, rfl⟩
        refine ⟨?_, fun _ c hc => absurd hc List.not_mem_nil⟩
        simp only [List.length_cons, List.length_nil]
        omega
      · rename_i hquote
        simp only [Option.bind_eq_bind, Option.bind_eq_some_iff] at h
        rcases h with ⟨⟨c, tail⟩, hchar, ⟨ds, rest'⟩, hbody, h⟩
        dsimp only at hbody h
        rcases Prod.mk.inj (Option.some.inj h) with ⟨rfl, rfl⟩
        rcases ih hbody with ⟨hle, hplain⟩
        rcases stringChar_cases hchar with ⟨hinput, hslash, hlow⟩ | hlong
        · rw [hinput, List.length_cons, List.length_cons]
          refine ⟨by omega, fun heq d hd => ?_⟩
          rcases List.mem_cons.mp hd with rfl | hd
          · refine ⟨?_, hslash, hlow⟩
            intro hc
            exact hquote tail (by rw [hinput, hc])
          · exact hplain (by omega) d hd
        · rw [List.length_cons]
          exact ⟨by omega, fun heq => absurd heq (by omega)⟩

/-!
## An object of one string
-/

/-- A text of one member, up to the string of its value. -/
def oneMember (name input : List Char) : List Char :=
  '\x7b' :: '"' :: (name ++ '"' :: ':' :: '"' :: input)

theorem value_oneMember {text : Type} (ofChars : List Char -> text) {name : List Char}
    (hname : forall c, c ∈ name -> PlainChar c) (input : List Char) (fuel : Nat) :
    value ofChars (fuel + 3) (oneMember name input) =
      (stringBody (input.length + 1) input).bind fun read =>
        match skipWs read.2 with
        | '\x7d' :: rest => some (.obj [(ofChars name, .str (ofChars read.1))], rest)
        | ',' :: rest =>
            (members ofChars (fuel + 1) (skipWs rest)).bind fun others =>
              some (.obj ((ofChars name, .str (ofChars read.1)) :: others.1), others.2)
        | _ => none := by
  have hread : stringBody ((name ++ '"' :: ':' :: '"' :: input).length + 1)
      (name ++ '"' :: ':' :: '"' :: input) = some (name, ':' :: '"' :: input) :=
    stringBody_plain hname _ (by rw [List.length_append]; omega)
  have hcolon : skipWs (':' :: '"' :: input) = ':' :: '"' :: input := rfl
  have hquote : skipWs ('"' :: input) = '"' :: input := rfl
  have hvalue : value ofChars (fuel + 1) ('"' :: input) =
      (stringBody (input.length + 1) input).bind fun read =>
        some (.str (ofChars read.1), read.2) := rfl
  have hmembers : members ofChars (fuel + 2) ('"' :: (name ++ '"' :: ':' :: '"' :: input)) =
      (stringBody (input.length + 1) input).bind fun read =>
        match skipWs read.2 with
        | '\x7d' :: rest => some ([(ofChars name, .str (ofChars read.1))], rest)
        | ',' :: rest =>
            (members ofChars (fuel + 1) (skipWs rest)).bind fun others =>
              some ((ofChars name, .str (ofChars read.1)) :: others.1, others.2)
        | _ => none := by
    unfold members
    simp only [hread, hcolon, hquote, hvalue, Option.bind_eq_bind, Option.bind_some]
    rw [Option.bind_assoc]
    rfl
  have hobject : value ofChars (fuel + 3) (oneMember name input) =
      (members ofChars (fuel + 2) ('"' :: (name ++ '"' :: ':' :: '"' :: input))).bind fun pairs =>
        some (.obj pairs.1, pairs.2) := rfl
  rw [hobject, hmembers, Option.bind_assoc]
  congr 1
  funext read
  split
  · rfl
  · rw [Option.bind_assoc]
    rfl
  · rfl

theorem length_skipWs (input : List Char) : (skipWs input).length ≤ input.length :=
  (List.dropWhile_suffix isWs).length_le

/-- A text put between the quotation marks as it is comes back exactly when every character of
it is plain. -/
theorem parse_oneMember_iff {text : Type} {ofChars : List Char -> text}
    (hinjective : Function.Injective ofChars) {name : List Char}
    (hname : forall c, c ∈ name -> PlainChar c) (cs : List Char) :
    parse ofChars (oneMember name (cs ++ ['"', '\x7d'])) =
        some (.obj [(ofChars name, .str (ofChars cs))]) ↔
      forall c, c ∈ cs -> PlainChar c := by
  have hskip : skipWs (oneMember name (cs ++ ['"', '\x7d'])) =
      oneMember name (cs ++ ['"', '\x7d']) := rfl
  obtain ⟨fuel, hfuel⟩ : exists fuel,
      (oneMember name (cs ++ ['"', '\x7d'])).length + 1 = fuel + 3 :=
    ⟨(oneMember name (cs ++ ['"', '\x7d'])).length - 2, by simp [oneMember]⟩
  unfold parse
  rw [hskip, hfuel, value_oneMember ofChars hname]
  constructor
  · intro h
    split at h
    · cases h
    rename_i document rest hvalue
    rcases Option.bind_eq_some_iff.mp hvalue with ⟨⟨ds, after⟩, hbody, hclose⟩
    dsimp only at hclose
    rcases stringBody_length hbody with ⟨hle, hplain⟩
    have hnext : skipWs after ≠ [] -> ds = cs -> forall c, c ∈ cs -> PlainChar c := by
      intro hafter hds
      have hpos := List.length_pos_iff.mpr hafter
      have hlength := length_skipWs after
      rw [hds] at hle hplain
      refine hplain ?_
      simp only [List.length_append, List.length_cons, List.length_nil] at hle ⊢
      omega
    split at h
    · have hdocument := Option.some.inj h
      split at hclose
      · rename_i tail hafter
        rw [← (Prod.mk.inj (Option.some.inj hclose)).1] at hdocument
        refine hnext (by rw [hafter]; exact List.cons_ne_nil _ _) (hinjective ?_)
        simpa using hdocument
      · rename_i tail hafter
        rcases Option.bind_eq_some_iff.mp hclose with ⟨others, -, hothers⟩
        rw [← (Prod.mk.inj (Option.some.inj hothers)).1] at hdocument
        refine hnext (by rw [hafter]; exact List.cons_ne_nil _ _) (hinjective ?_)
        simp only [Document.obj.injEq, List.cons.injEq, Prod.mk.injEq, Document.str.injEq,
          true_and] at hdocument
        exact hdocument.1
      · cases hclose
    · cases h
  · intro hplain
    have hfuel : cs.length < (cs ++ ['"', '\x7d']).length + 1 := by
      rw [List.length_append]
      omega
    have hbody := stringBody_plain hplain ['\x7d'] hfuel
    rw [hbody]
    rfl

end JsonGrammar
end Text
end ServerComponents
