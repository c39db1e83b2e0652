import ServerComponents.Auth.MailBodies
import ServerComponents.Text.LineBreaks

/-!
# Formatting as filling

A format with its placeholders as places.  Where no value holds the placeholder of a later
key, `FormatString` writes each value into its own places.
-/

namespace ServerComponents
namespace Auth
namespace Mail

open Relational Rest Text Markup

def symbolsFrom (keys : List String) : Nat -> List Char -> List (Sym String)
  | _, [] => []
  | skip + 1, _ :: rest => symbolsFrom keys skip rest
  | 0, c :: rest =>
      match keys.find? (fun k => (placeholder k).isPrefixOf (c :: rest)) with
      | some k => .slot k :: symbolsFrom keys ((placeholder k).length - 1) rest
      | none => .char c :: symbolsFrom keys 0 rest

def symbols (keys : List String) (format : List Char) : List (Sym String) :=
  symbolsFrom keys 0 format

def writeSym (contents : String -> List Char) : Sym String -> List Char
  | .char c => [c]
  | .slot k => contents k

def write (contents : String -> List Char) (symbols : List (Sym String)) : List Char :=
  symbols.flatMap (writeSym contents)

theorem chars_write (values : String -> List Char) (symbols : List (Sym String)) :
    chars (write values symbols) = fill values symbols := by
  induction symbols with
  | nil => rfl
  | cons x rest ih =>
      have hx : (chars (writeSym values x) : List (Sym String)) = x.fill values := by
        cases x <;> rfl
      show chars (writeSym values x ++ write values rest) = x.fill values ++ fill values rest
      rw [chars_append, hx, ih]

theorem write_append (contents : String -> List Char) (u v : List (Sym String)) :
    write contents (u ++ v) = write contents u ++ write contents v :=
  List.flatMap_append

theorem write_slot_cons (contents : String -> List Char) (k : String)
    (rest : List (Sym String)) :
    write contents (.slot k :: rest) = contents k ++ write contents rest := rfl

theorem write_chars (contents : String -> List Char) (text : List Char) :
    write contents (chars text) = text := by
  induction text with
  | nil => rfl
  | cons c rest ih =>
      show c :: write contents (chars rest) = c :: rest
      rw [ih]

theorem write_symbols (keys : List String) (format : List Char) :
    write placeholder (symbols keys format) = format := by
  have hskip : forall skip, write placeholder (symbolsFrom keys skip format) =
      format.drop skip := by
    induction format with
    | nil => simp [symbolsFrom, write]
    | cons c rest ih =>
        intro skip
        cases skip with
        | succ skip => exact ih skip
        | zero =>
            unfold symbolsFrom
            split
            · rename_i k hfind
              have hstarts : placeholder k <+: c :: rest := by
                have hfound := List.find?_some hfind
                exact List.isPrefixOf_iff_prefix.mp (by simpa using hfound)
              rcases hstarts with ⟨tail, htail⟩
              show placeholder k ++ write placeholder (symbolsFrom keys _ rest) = c :: rest
              rw [ih]
              have hrest : rest = (placeholder k).tail ++ tail := by
                rw [placeholder, List.cons_append, List.cons.injEq] at htail
                exact htail.2.symm
              have hdrop : rest.drop ((placeholder k).length - 1) = tail := by
                rw [hrest, ← List.length_tail, List.drop_left]
              rw [hdrop, htail]
            · show c :: write placeholder (symbolsFrom keys 0 rest) = c :: rest
              rw [ih, List.drop_zero]
  exact hskip 0

theorem mem_symbols {keys : List String} {format : List Char} {k : String}
    (h : .slot k ∈ symbols keys format) : k ∈ keys := by
  have hskip : forall (text : List Char) (skip : Nat), .slot k ∈ symbolsFrom keys skip text ->
      k ∈ keys := by
    intro text
    induction text with
    | nil =>
        intro skip hmem
        simp [symbolsFrom] at hmem
    | cons c rest ih =>
        intro skip hmem
        cases skip with
        | succ skip => exact ih skip hmem
        | zero =>
            unfold symbolsFrom at hmem
            split at hmem
            · rename_i k' hfind
              rcases List.mem_cons.mp hmem with hk | hmem
              · cases hk
                exact List.mem_of_find?_eq_some hfind
              · exact ih _ hmem
            · rcases List.mem_cons.mp hmem with hk | hmem
              · cases hk
              · exact ih _ hmem
  exact hskip format 0 h

/-!
# Spaces between the places
-/

def Delimits : List (Sym String) -> Bool
  | [] => true
  | .char c :: _ => !isKeyChar c && c != '}'
  | .slot _ :: _ => false

/-- A brace and a place end where no placeholder goes on; a place of the last key may have
another one behind it. -/
def Spaced (last : String) : List (Sym String) -> Bool
  | [] => true
  | .char c :: rest => (c != '{' || Delimits rest) && Spaced last rest
  | .slot k :: rest => (Delimits rest || k == last) && Spaced last rest

section Replace

variable {pattern value text rest : List Char}

theorem replaceAll_append
    (h : forall s, s <:+ text -> s ≠ [] -> Not (pattern <+: s ++ rest)) :
    replaceAll pattern value (text ++ rest) = text ++ replaceAll pattern value rest := by
  induction text with
  | nil => rfl
  | cons c text ih =>
      have hstarts : pattern.isPrefixOf (c :: (text ++ rest)) = false := by
        rw [← Bool.not_eq_true, List.isPrefixOf_iff_prefix]
        exact h (c :: text) (List.suffix_refl _) (List.cons_ne_nil _ _)
      have htail := ih (fun s hs => h s (hs.trans (List.suffix_cons c text)))
      unfold replaceAll at htail ⊢
      rw [List.cons_append, List.cons_append, replaceFrom, hstarts, htail]
      rfl

theorem replaceFrom_append (text rest : List Char) :
    replaceFrom pattern value text.length (text ++ rest) = replaceAll pattern value rest := by
  induction text with
  | nil => rfl
  | cons c text ih => exact ih

theorem replaceAll_pattern_append (hpattern : pattern ≠ []) :
    replaceAll pattern value (pattern ++ rest) = value ++ replaceAll pattern value rest := by
  cases pattern with
  | nil => exact absurd rfl hpattern
  | cons c pattern =>
      have hstarts : (c :: pattern).isPrefixOf (c :: (pattern ++ rest)) = true :=
        List.isPrefixOf_iff_prefix.mpr (List.prefix_append (c :: pattern) rest)
      rw [replaceAll, List.cons_append, replaceFrom, if_pos hstarts, List.length_cons,
        Nat.add_sub_cancel, replaceFrom_append]

theorem prefix_append_cases {s : List Char} (h : pattern <+: s ++ rest) :
    pattern <+: s ∨ exists q, q ≠ [] ∧ pattern = s ++ q ∧ q <+: rest := by
  rcases List.prefix_or_prefix_of_prefix h (List.prefix_append s rest) with hin | ⟨q, hq⟩
  · exact Or.inl hin
  · rw [← hq, List.prefix_append_right_inj] at h
    by_cases hnil : q = []
    · left
      rw [← hq, hnil, List.append_nil]
    · exact Or.inr ⟨q, hnil, hq.symm, h⟩

theorem replaceAll_append_of_absent (habsent : Not (pattern <:+: text))
    (hnext : forall c, rest.head? = some c -> c ∉ pattern.tail) :
    replaceAll pattern value (text ++ rest) = text ++ replaceAll pattern value rest := by
  apply replaceAll_append
  intro s hs hne hstarts
  rcases prefix_append_cases hstarts with hin | ⟨q, hq, hpattern, hrest⟩
  · exact habsent (hin.isInfix.trans hs.isInfix)
  · cases q with
    | nil => exact hq rfl
    | cons c q =>
        rcases hrest with ⟨after, hafter⟩
        apply hnext c
        · rw [← hafter]
          rfl
        · rw [hpattern, List.tail_append_of_ne_nil hne]
          simp

end Replace

/-!
# One key after the other
-/

section Write

variable {values : String -> List Char}

def contents (remaining : List String) (values : String -> List Char) (k : String) :
    List Char :=
  if k ∈ remaining then placeholder k else values k

theorem head_not_mem {key : String} (hkey : PlainKey key) {rest : List (Sym String)}
    (hdelimits : Delimits rest = true) (f : String -> List Char) :
    forall c, (write f rest).head? = some c -> c ∉ (placeholder key).tail := by
  intro c hc hmem
  cases rest with
  | nil => cases hc
  | cons x rest =>
      cases x with
      | slot k => cases hdelimits
      | char d =>
          have hd : d = c := Option.some.inj hc
          simp only [Delimits, Bool.and_eq_true, Bool.not_eq_true', bne_iff_ne] at hdelimits
          rw [hd] at hdelimits
          have hcases : c ∈ key.toList ∨ c = '}' := by
            simpa [placeholder] using hmem
          rcases hcases with hin | hclose
          · exact hkey.not_mem hdelimits.1 hin
          · exact hdelimits.2 hclose

theorem replaceAll_placeholder {key key' : String} (hkey : PlainKey key)
    (hkey' : PlainKey key') (hne : key ≠ key') {value rest : List Char} :
    replaceAll (placeholder key) value (placeholder key' ++ rest) =
      placeholder key' ++ replaceAll (placeholder key) value rest := by
  apply replaceAll_append
  intro s hs hnil hstarts
  have hopen : '{' ∉ key'.toList := hkey'.not_mem (by decide)
  have hclose : '}' ∉ key'.toList := hkey'.not_mem (by decide)
  rcases prefix_append_cases hstarts with hin | ⟨q, hq, hpattern, _⟩
  · exact hne (mentions_placeholder hopen hclose (hin.isInfix.trans hs.isInfix))
  · -- the text ends with a brace, which is the last character of the pattern
    have hlast : '}' ∈ s := by
      rcases hs with ⟨before, hbefore⟩
      have hend : (before ++ s).getLast? = some '}' := by
        rw [hbefore, placeholder, ← List.cons_append, List.getLast?_concat]
      rw [List.getLast?_append_of_ne_nil _ hnil] at hend
      exact List.mem_of_getLast? hend
    have hstart : s <+: ('{' :: key.toList) ++ ['}'] := ⟨q, hpattern.symm⟩
    rcases List.prefix_concat_iff.mp hstart with heq | hshort
    · have hlength := congrArg List.length hpattern
      rw [heq] at hlength
      simp only [placeholder, List.length_cons, List.length_append, List.cons_append] at hlength
      exact hq (List.eq_nil_of_length_eq_zero (by omega))
    · have hmem := hshort.subset hlast
      simp only [List.mem_cons] at hmem
      rcases hmem with hbrace | hmem
      · revert hbrace
        decide
      · exact hkey.not_mem (by decide) hmem

/-- One pass of `FormatString`. -/
theorem replaceAll_write {last key : String} {rest : List String}
    {symbols : List (Sym String)} (hkey : key ∉ rest) (hplain : PlainKey key)
    (hlast : last ∈ key :: rest) (hspaced : Spaced last symbols = true)
    (hkeys : forall k, .slot k ∈ symbols -> PlainKey k)
    (hvalues : forall k, .slot k ∈ symbols -> k ∉ key :: rest ->
      Not (placeholder key <:+: values k)) :
    replaceAll (placeholder key) (values key) (write (contents (key :: rest) values) symbols) =
      write (contents rest values) symbols := by
  induction symbols with
  | nil => rfl
  | cons x symbols ih =>
      have htail : replaceAll (placeholder key) (values key)
          (write (contents (key :: rest) values) symbols) =
            write (contents rest values) symbols := by
        apply ih
        · cases x <;> exact (Bool.and_eq_true_iff.mp hspaced).2
        · exact fun k hk => hkeys k (List.mem_cons_of_mem x hk)
        · exact fun k hk => hvalues k (List.mem_cons_of_mem x hk)
      cases x with
      | char c =>
          show replaceAll _ _ ([c] ++ write (contents (key :: rest) values) symbols) =
            [c] ++ write (contents rest values) symbols
          rw [← htail]
          by_cases hopen : c = '{'
          · have hdelimits : Delimits symbols = true := by
              have hfirst := (Bool.and_eq_true_iff.mp hspaced).1
              simpa [hopen] using hfirst
            apply replaceAll_append_of_absent
            · intro hoccurs
              have hlength := hoccurs.length_le
              simp [placeholder] at hlength
            · exact head_not_mem hplain hdelimits _
          · apply replaceAll_append
            intro s hs hnil hstarts
            have hs' : s = [c] := by
              rcases List.suffix_cons_iff.mp hs with heq | hshort
              · exact heq
              · exact absurd (List.suffix_nil.mp hshort) hnil
            rw [hs', placeholder, List.singleton_append, List.cons_prefix_cons] at hstarts
            exact hopen hstarts.1.symm
      | slot k =>
          show replaceAll _ _ (contents (key :: rest) values k ++
              write (contents (key :: rest) values) symbols) =
            contents rest values k ++ write (contents rest values) symbols
          rw [← htail]
          by_cases hsame : k = key
          · rw [hsame, contents, if_pos List.mem_cons_self, contents, if_neg hkey,
              replaceAll_pattern_append (placeholder_ne_nil key)]
          · by_cases hrest : k ∈ rest
            · rw [contents, if_pos (List.mem_cons_of_mem key hrest), contents, if_pos hrest]
              exact replaceAll_placeholder hplain (hkeys k List.mem_cons_self) (Ne.symm hsame)
            · have hdone : k ∉ key :: rest := by
                simp [hsame, hrest]
              have hdelimits : Delimits symbols = true := by
                rcases Bool.or_eq_true_iff.mp (Bool.and_eq_true_iff.mp hspaced).1 with h | h
                · exact h
                · rw [beq_iff_eq.mp h] at hdone
                  exact absurd hlast hdone
              rw [contents, if_neg hdone, contents, if_neg hrest]
              exact replaceAll_append_of_absent (hvalues k List.mem_cons_self hdone)
                (head_not_mem hplain hdelimits _)

/-- No value that is shown holds the placeholder of a key that is replaced after it. -/
def Unexpanded (entries : List (String × String)) (symbols : List (Sym String)) : Prop :=
  forall e, e ∈ entries -> .slot e.1 ∈ symbols -> forall e', e' ∈ entries -> e.1 < e'.1 ->
    Not (Mentions e.2.toList e'.1)

theorem formatEntries_write {last : String} {entries : List (String × String)}
    {symbols : List (Sym String)} (hvalue : forall e, e ∈ entries -> e.2.toList = values e.1)
    (hplain : PlainKeys entries) (hsorted : entries.Pairwise (fun e e' => e.1 < e'.1))
    (hlast : forall rest, rest <:+ entries -> rest ≠ [] -> last ∈ rest.map Prod.fst)
    (hspaced : Spaced last symbols = true)
    (hkeys : forall k, .slot k ∈ symbols -> PlainKey k)
    (hdone : forall k, .slot k ∈ symbols -> k ∉ entries.map Prod.fst ->
      forall e, e ∈ entries -> Not (placeholder e.1 <:+: values k))
    (hlater : Unexpanded entries symbols) :
    formatEntries (write (contents (entries.map Prod.fst) values) symbols) entries =
      write values symbols := by
  induction entries with
  | nil =>
      have hnone : contents [] values = values := by
        funext k
        simp [contents]
      show write (contents [] values) symbols = write values symbols
      rw [hnone]
  | cons e rest ih =>
      rcases List.pairwise_cons.mp hsorted with ⟨hfirst, hsortedRest⟩
      have hfresh : e.1 ∉ rest.map Prod.fst := by
        intro hmem
        rcases List.mem_map.mp hmem with ⟨e', he', heq⟩
        have hlt := hfirst e' he'
        rw [heq] at hlt
        exact lt_irrefl _ hlt
      have hpass : replaceAll (placeholder e.1) e.2.toList
          (write (contents ((e :: rest).map Prod.fst) values) symbols) =
            write (contents (rest.map Prod.fst) values) symbols := by
        rw [hvalue e List.mem_cons_self]
        exact replaceAll_write hfresh (hplain e List.mem_cons_self)
          (hlast (e :: rest) (List.suffix_refl _) (List.cons_ne_nil e rest)) hspaced hkeys
          (fun k hk hnot => hdone k hk hnot e List.mem_cons_self)
      have hformat : formatEntries (write (contents ((e :: rest).map Prod.fst) values) symbols)
          (e :: rest) = formatEntries (write (contents (rest.map Prod.fst) values) symbols)
            rest := by
        rw [← hpass]
        rfl
      rw [hformat]
      apply ih
      · exact fun e' he' => hvalue e' (List.mem_cons_of_mem e he')
      · exact fun e' he' => hplain e' (List.mem_cons_of_mem e he')
      · exact hsortedRest
      · exact fun later hsuffix => hlast later (hsuffix.trans (List.suffix_cons e rest))
      · intro k hk hnot e' he'
        by_cases hsame : k = e.1
        · rw [hsame, ← hvalue e List.mem_cons_self]
          rw [hsame] at hk
          exact hlater e List.mem_cons_self hk e' (List.mem_cons_of_mem e he') (hfirst e' he')
        · apply hdone k hk _ e' (List.mem_cons_of_mem e he')
          rw [List.map_cons, List.mem_cons, not_or]
          exact ⟨hsame, hnot⟩
      · exact fun x hx hslot y hy => hlater x (List.mem_cons_of_mem e hx) hslot y
          (List.mem_cons_of_mem e hy)

end Write

def valueOf (entries : List (String × String)) (k : String) : List Char :=
  ((entries.lookup k).getD "").toList

/-- `FormatString` with a table writes the values into the places of the format. -/
theorem formatString_write {entries : List (String × String)} {last : String}
    {format : String} (hnodup : (entries.map Prod.fst).Nodup) (hplain : PlainKeys entries)
    (hlast : last ∈ entries.map Prod.fst ∧ forall k, k ∈ entries.map Prod.fst -> k ≤ last)
    (hspaced : Spaced last (symbols (entries.map Prod.fst) format.toList) = true)
    (hlater : Unexpanded entries (symbols (entries.map Prod.fst) format.toList)) :
    (formatString format (keyValueTable entries)).toList =
      write (valueOf entries) (symbols (entries.map Prod.fst) format.toList) := by
  have hslots : forall k, .slot k ∈ symbols (entries.map Prod.fst) format.toList ->
      k ∈ entries.map Prod.fst :=
    fun k hk => mem_symbols hk
  have htable : forall k, k ∈ (keyValueTable entries).entries.map Prod.fst <->
      k ∈ entries.map Prod.fst :=
    fun k => mem_keys_keyValueTable
  have hsorted := (keyValueTable entries).sorted
  rw [formatString, String.toList_ofList]
  nth_rewrite 1 [← write_symbols (entries.map Prod.fst) format.toList]
  generalize symbols (entries.map Prod.fst) format.toList = places at *
  have hwrite : write placeholder places =
      write (contents ((keyValueTable entries).entries.map Prod.fst) (valueOf entries)) places := by
    unfold write
    apply List.flatMap_congr
    intro x hx
    cases x with
    | char c => rfl
    | slot k =>
        show placeholder k = contents _ _ k
        rw [contents, if_pos ((htable k).mpr (hslots k hx))]
  rw [hwrite]
  apply @formatEntries_write (valueOf entries) last
  · intro e he
    rw [valueOf, ← keyValueTable_values hnodup he]
  · exact fun e he => hplain e (mem_keyValueTable hnodup he)
  · exact hsorted
  · -- the last key is in every end of the table
    intro rest hrest hnil
    rcases hrest with ⟨before, hbefore⟩
    have hmem := (htable last).mpr hlast.1
    rw [← hbefore, List.map_append, List.mem_append] at hmem
    rcases hmem with hearly | hmem
    · cases rest with
      | nil => exact absurd rfl hnil
      | cons e rest =>
          rcases List.mem_map.mp hearly with ⟨e', he', hkey⟩
          rw [← hbefore] at hsorted
          have hlt := (List.pairwise_append.mp hsorted).2.2 e' he' e List.mem_cons_self
          rw [hkey] at hlt
          have hle : e.1 ≤ last := by
            apply hlast.2 e.1
            apply (htable e.1).mp
            rw [← hbefore]
            simp
          exact absurd hlt (not_lt_of_ge hle)
    · exact hmem
  · exact hspaced
  · intro k hk
    rcases List.mem_map.mp (hslots k hk) with ⟨e, he, hkey⟩
    rw [← hkey]
    exact hplain e he
  · intro k hk hnot
    exact absurd ((htable k).mpr (hslots k hk)) hnot
  · exact fun e he hslot e' he' =>
      hlater e (mem_keyValueTable hnodup he) hslot e' (mem_keyValueTable hnodup he')

end Mail
end Auth
end ServerComponents
