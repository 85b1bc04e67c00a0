import ScalingMetrics.Proofs.Selector.Rereading

/-!
# Terms with parentheses

A term with parentheses is read from the first two words before its first opening parenthesis and
from the text up to its last closing one. It may say more than that: the other words, the text
behind the last parenthesis and the borders between several groups of values get lost.
-/

namespace ScalingMetrics

namespace Selector

open Text

variable {s : Selector} {piece head head' inside inside' tail tail' : List Char}

/-! ### Whole terms -/

/-- No parenthesis in the text closes one that is opened before the text. -/
def Enclosed (inside : List Char) : Prop := ∀ l, l <+: inside → nesting? 1 l ≠ some 0

/-- The text has a key, a word for an operator and one pair of parentheses with the values, and
nothing else but blanks. -/
inductive WholeSet : List Char → Prop
  | intro {before key gap after inside trailing op word} (hbefore : Blank before)
      (hkey : Solid key) (hne : key ≠ []) (hopen : '(' ∉ key) (hgap : Blank gap)
      (hapart : gap ≠ []) (hword : setWord? op = some word) (hafter : Blank after)
      (hinside : Enclosed inside) (htrailing : Blank trailing) :
      WholeSet
        (before ++ key ++ gap ++ word.toList ++ after ++ '(' :: (inside ++ ')' :: trailing))

theorem enclosed_of_not_mem (hclose : ')' ∉ inside) : Enclosed inside := by
  intro l hl hclosed
  have depth : 1 ≤ 0 := le_of_nesting? (fun hmem => hclose (hl.subset hmem)) hclosed
  exact absurd depth (by decide)

/-! ### Terms as they are cut -/

/-- What is found in a term with parentheses that is read: its parts before the first opening, up to
the last closing and behind the last closing parenthesis, and the words of the first part. -/
structure SetTerm where
  head : List Char
  inside : List Char
  tail : List Char
  key : List Char
  word : List Char
  others : List (List Char)
  operator : Operator
  unopened : '(' ∉ head
  unclosed : ')' ∉ tail
  words_head : words head = key :: word :: others
  operator_word : setOperator? word = some operator

namespace SetTerm

/-- The text of the term. -/
def text (t : SetTerm) : List Char := t.head ++ '(' :: (t.inside ++ ')' :: t.tail)

/-- What the term is read as. -/
def requirement (t : SetTerm) : Requirement := ⟨.ofList t.key, t.operator, readValues t.inside⟩

end SetTerm

/-- A text is cut in one way at its first opening and its last closing parenthesis. -/
theorem cut_parens_inj (hopen : '(' ∉ head) (hopen' : '(' ∉ head') (hclose : ')' ∉ tail)
    (hclose' : ')' ∉ tail')
    (h : head ++ '(' :: (inside ++ ')' :: tail) = head' ++ '(' :: (inside' ++ ')' :: tail')) :
    head = head' ∧ inside = inside' ∧ tail = tail' := by
  have cut := congrArg (cut? '(') h
  rw [cut?_append_cons hopen, cut?_append_cons hopen'] at cut
  obtain ⟨rfl, hrest⟩ := Prod.mk.inj (Option.some.inj cut)
  have before := congrArg (beforeLast? ')') hrest
  rw [beforeLast?_append_cons hclose, beforeLast?_append_cons hclose'] at before
  obtain rfl := Option.some.inj before
  exact ⟨rfl, rfl, (List.cons.inj (List.append_cancel_left hrest)).2⟩

theorem SetTerm.text_injective : Function.Injective SetTerm.text := by
  intro t t' h
  obtain ⟨hhead, hinside, htail⟩ :=
    cut_parens_inj t.unopened t'.unopened t.unclosed t'.unclosed h
  have hwords := t.words_head
  rw [hhead, t'.words_head] at hwords
  obtain ⟨hkey, hrest⟩ := List.cons.inj hwords
  obtain ⟨hword, hothers⟩ := List.cons.inj hrest
  have hop := t.operator_word
  rw [← hword, t'.operator_word] at hop
  cases t
  cases t'
  simp_all

/-- A text is whole if it is read with nothing left over: there are no other words, the first
parenthesis is closed by the last one, and only blanks are behind that. -/
theorem wholeSet_iff :
    WholeSet piece ↔ ∃ t : SetTerm, t.text = piece ∧
      t.others = [] ∧ Enclosed t.inside ∧ Blank t.tail := by
  constructor
  · rintro @⟨before, key, gap, after, inside, trailing, op, word, hbefore, hkey, hne, hopen, hgap,
      hapart, hword, hafter, hinside, htrailing⟩
    obtain ⟨token, hop⟩ := setWord?_eq_some hword
    have pair : words (before ++ key ++ gap ++ word.toList ++ after) = [key, word.toList] :=
      words_eq_pair_iff.mpr ⟨before, gap, after, hbefore, hgap, hapart, hafter, hkey, hne,
        token.2.solid, token.toList_ne_nil, rfl⟩
    have unopened : '(' ∉ before ++ key ++ gap ++ word.toList ++ after := by
      have absent : ∀ {l}, Bare l → '(' ∉ l := fun hl => hl.not_mem (by decide)
      simp [absent (bare_of_blank hbefore), hopen, absent (bare_of_blank hgap),
        absent token.2.bare, absent (bare_of_blank hafter)]
    have unclosed : ')' ∉ trailing := (bare_of_blank htrailing).not_mem (by decide)
    exact ⟨⟨_, inside, trailing, key, word.toList, [], op, unopened, unclosed, pair, hop⟩, rfl, rfl,
      hinside, htrailing⟩
  · rintro ⟨t, rfl, hothers, hinside, htail⟩
    have pair := t.words_head
    rw [hothers] at pair
    obtain ⟨before, gap, after, hbefore, hgap, hapart, hafter, hkey, hne, -, -, hhead⟩ :=
      words_eq_pair_iff.mp pair
    obtain ⟨word, hword, hchars⟩ := setOperator?_eq_some_iff.mp t.operator_word
    have hopen : '(' ∉ t.key := fun hmem => t.unopened (by simp [hhead, hmem])
    rw [SetTerm.text, hhead, hchars]
    exact .intro hbefore hkey hne hopen hgap hapart hword hafter hinside htail

theorem wholeSet_text_iff (t : SetTerm) :
    WholeSet t.text ↔ t.others = [] ∧ Enclosed t.inside ∧ Blank t.tail := by
  refine wholeSet_iff.trans ⟨?_, fun h => ⟨t, rfl, h⟩⟩
  rintro ⟨t', htext, h⟩
  rwa [← SetTerm.text_injective htext]

/-! ### Reading the pieces of a string -/

theorem beforeLast?_trimEnd {sep : Char} (hsep : isBlank sep = false) (cs : List Char) :
    beforeLast? sep (trimEnd cs) = beforeLast? sep cs := by
  cases h : beforeLast? sep cs with
  | none =>
      have absent := beforeLast?_eq_none_iff.mp h
      exact beforeLast?_eq_none_iff.mpr fun hmem => absent ((trimEnd_prefix_self cs).subset hmem)
  | some before =>
      obtain ⟨after, rfl, absent⟩ := beforeLast?_eq_some h
      rw [trimEnd_append_cons hsep]
      exact beforeLast?_append_cons (fun hmem => absent ((trimEnd_prefix_self after).subset hmem)) _

/-- A piece with parentheses is read if it has two words before the first of them, the second of
which is an operator, and if a closing one follows. -/
theorem readTerm_trim_eq_ok_iff (hopen : '(' ∈ piece) {term : Term} :
    readTerm (trim piece) = .ok term ↔
      ∃ t : SetTerm, t.text = piece ∧ term = .requires t.requirement := by
  obtain ⟨⟨head, rest⟩, hcut⟩ : ∃ parts, cut? '(' piece = some parts :=
    Option.ne_none_iff_exists'.mp fun hnone => cut?_eq_none_iff.mp hnone hopen
  obtain rfl := cut?_eq_some hcut
  have unopened := not_mem_of_cut? hcut
  have unopened' : '(' ∉ trimStart head :=
    fun hmem => unopened ((trimStart_suffix_self head).subset hmem)
  rw [readTerm, trim_append_cons (by decide), cut?_append_cons unopened']
  dsimp only
  rw [readSetTerm_eq_ok_iff, beforeLast?_trimEnd (by decide), words_trimStart]
  constructor
  · rintro ⟨inside, key, word, others, op, hinside, hwords, hop, rfl⟩
    obtain ⟨tail, rfl, unclosed⟩ := beforeLast?_eq_some hinside
    exact ⟨⟨head, inside, tail, key, word, others, op, unopened, unclosed, hwords, hop⟩, rfl, rfl⟩
  · rintro ⟨t, htext, rfl⟩
    have cut := congrArg (cut? '(') htext
    rw [SetTerm.text, cut?_append_cons t.unopened, cut?_append_cons unopened] at cut
    obtain ⟨rfl, rfl⟩ := Prod.mk.inj (Option.some.inj cut)
    exact ⟨t.inside, t.key, t.word, t.others, t.operator,
      beforeLast?_append_cons t.unclosed t.inside, t.words_head, t.operator_word, rfl⟩

theorem exists_of_mem_readTerms {xs : List (List Char)} {ts : List Term}
    (h : readTerms xs = .ok ts) : ∀ x ∈ xs, ∃ t ∈ ts, readTerm x = .ok t := by
  induction xs generalizing ts with
  | nil => simp
  | cons x xs ih =>
      obtain ⟨t, rest, ht, hrest, rfl⟩ := readTerms_cons_eq_ok_iff.mp h
      refine List.forall_mem_cons.mpr ⟨⟨t, List.mem_cons_self, ht⟩, fun y hy => ?_⟩
      obtain ⟨u, hu, hread⟩ := ih hrest y hy
      exact ⟨u, List.mem_cons_of_mem t hu, hread⟩

/-- In a string that is read, every piece with parentheses is read as a requirement. -/
theorem exists_setTerm_of_parse {text : String} {pieces : List (List Char)}
    (h : parse text = .ok s) (hsplit : splitTerms text.toList = .ok pieces)
    (hpiece : piece ∈ pieces) (hopen : '(' ∈ piece) :
    ∃ t : SetTerm, t.text = piece ∧ t.requirement ∈ s.matchExpressions := by
  obtain ⟨pieces', ts, hsplit', hread, rfl⟩ := parseChars_eq_ok_iff.mp h
  obtain rfl := Except.ok.inj (hsplit.symm.trans hsplit')
  have hkept : trim piece ∈ (pieces.map trim).filter (!·.isEmpty) := by
    refine List.mem_filter.mpr ⟨List.mem_map_of_mem hpiece, ?_⟩
    obtain ⟨l, r, rfl⟩ := List.append_of_mem hopen
    simp [trim_append_cons (c := '(') (by decide)]
  obtain ⟨term, hterm, hread⟩ := exists_of_mem_readTerms hread _ hkept
  obtain ⟨t, htext, rfl⟩ := (readTerm_trim_eq_ok_iff hopen).mp hread
  exact ⟨t, htext, List.mem_filterMap.mpr ⟨_, hterm, rfl⟩⟩

/-- A piece with parentheses is read from its first two words and its values, or the string is
refused. A whole piece is read; of another that is read, the other words, the text behind the last
parenthesis or the borders between groups get lost. -/
theorem parse_set_terms {text : String} {pieces : List (List Char)}
    (hsplit : splitTerms text.toList = .ok pieces) (hpiece : piece ∈ pieces) (hopen : '(' ∈ piece) :
    (∃ t : SetTerm, t.text = piece ∧
      (WholeSet piece ↔ t.others = [] ∧ Enclosed t.inside ∧ Blank t.tail) ∧
      ∀ s, parse text = .ok s → t.requirement ∈ s.matchExpressions) ∨
    (¬ WholeSet piece ∧ (∀ t : SetTerm, t.text ≠ piece) ∧ ∃ e, parse text = .error e) := by
  by_cases hread : ∃ t : SetTerm, t.text = piece
  · obtain ⟨t, htext⟩ := hread
    refine .inl ⟨t, htext, htext ▸ wholeSet_text_iff t, fun s hs => ?_⟩
    obtain ⟨t', htext', hmem⟩ := exists_setTerm_of_parse hs hsplit hpiece hopen
    rwa [SetTerm.text_injective (htext.trans htext'.symm)]
  · refine .inr ⟨?_, not_exists.mp hread, ?_⟩
    · intro hwhole
      obtain ⟨t, htext, -⟩ := wholeSet_iff.mp hwhole
      exact hread ⟨t, htext⟩
    · cases h : parse text with
      | error e => exact ⟨e, rfl⟩
      | ok s =>
          obtain ⟨t, htext, -⟩ := exists_setTerm_of_parse h hsplit hpiece hopen
          exact absurd ⟨t, htext⟩ hread

theorem parse_set_terms_spaced :
    ∃ s t, parse "app=web, env  in(prod ,test) " = .ok s ∧
      SetTerm.text t = " env  in(prod ,test) ".toList ∧ WholeSet t.text ∧ t.others = [] ∧
      t.requirement ∈ s.matchExpressions := by
  have hsplit : splitTerms "app=web, env  in(prod ,test) ".toList =
      .ok ["app=web".toList, " env  in(prod ,test) ".toList] := rfl
  have whole : WholeSet " env  in(prod ,test) ".toList :=
    wholeSet_iff.mpr ⟨⟨" env  in".toList, "prod ,test".toList, [' '], "env".toList, "in".toList, [],
      .isIn, by decide, by decide, rfl, rfl⟩, rfl, rfl, enclosed_of_not_mem (by decide),
      by simp [Blank, isBlank]⟩
  rcases parse_set_terms hsplit (List.mem_cons_of_mem _ List.mem_cons_self) (by decide) with
    ⟨t, htext, hwhole, hread⟩ | ⟨hpart, -⟩
  · exact ⟨_, t, rfl, htext, htext ▸ whole, (hwhole.mp whole).1, hread _ rfl⟩
  · exact absurd whole hpart

/-- The string is read, although it has a piece with parentheses that is not whole. -/
def HasLeftovers (text : String) : Prop :=
  ∃ s pieces, parse text = .ok s ∧ splitTerms text.toList = .ok pieces ∧
    ∃ piece ∈ pieces, '(' ∈ piece ∧ ¬ WholeSet piece

/-- A forgotten comma, a word too many and two groups of values are read without a fault. -/
theorem parse_leftovers :
    HasLeftovers "env in (prod) !canary" ∧ HasLeftovers "env in us (prod)" ∧
      HasLeftovers "env in (prod)(test)" := by
  have behind : ¬ WholeSet "env in (prod) !canary".toList := by
    intro h
    obtain ⟨-, -, hblank⟩ := (wholeSet_text_iff ⟨"env in ".toList, "prod".toList,
      " !canary".toList, "env".toList, "in".toList, [], .isIn, by decide, by decide, rfl, rfl⟩).mp h
    exact absurd (hblank '!' (by decide)) (by decide)
  have word : ¬ WholeSet "env in us (prod)".toList := by
    intro h
    obtain ⟨hothers, -⟩ := (wholeSet_text_iff ⟨"env in us ".toList, "prod".toList, [],
      "env".toList, "in".toList, ["us".toList], .isIn, by decide, by decide, rfl, rfl⟩).mp h
    exact absurd hothers (by decide)
  have groups : ¬ WholeSet "env in (prod)(test)".toList := by
    intro h
    obtain ⟨-, henclosed, -⟩ := (wholeSet_text_iff ⟨"env in ".toList, "prod)(test".toList, [],
      "env".toList, "in".toList, [], .isIn, by decide, by decide, rfl, rfl⟩).mp h
    exact henclosed "prod)".toList (List.prefix_append _ "(test".toList) rfl
  exact ⟨⟨_, _, rfl, rfl, _, List.mem_cons_self, by decide, behind⟩,
    ⟨_, _, rfl, rfl, _, List.mem_cons_self, by decide, word⟩,
    ⟨_, _, rfl, rfl, _, List.mem_cons_self, by decide, groups⟩⟩

end Selector

end ScalingMetrics
