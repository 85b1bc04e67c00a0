import ScalingMetrics.Proofs.Selector.Nesting
import ScalingMetrics.Selector.Display

/-!
# Written selectors

The grammar of selector strings as a relation between terms and the texts that stand for them, with
blanks wherever they are allowed. Every text of the grammar is read as its terms, and the text that
a selector is written as is one of them.

## Implementation notes

Keys and values are tokens here. The reader also accepts other characters in them, and the grammar
says nothing about those.
-/

namespace ScalingMetrics

namespace Selector

open Text

/-! ### Tokens -/

/-- The characters of tokens. -/
def isTokenChar (c : Char) : Bool :=
  c.isAlphanum || c == '-' || c == '_' || c == '.' || c == '/'

/-- A token, or nothing. -/
def TokenText (s : String) : Prop := ∀ c ∈ s.toList, isTokenChar c = true

/-- A text of letters, digits and some punctuation. -/
def Token (s : String) : Prop := s ≠ "" ∧ TokenText s

instance (s : String) : Decidable (TokenText s) :=
  decidable_of_iff (s.toList.all isTokenChar = true) List.all_eq_true

instance (s : String) : Decidable (Token s) := inferInstanceAs (Decidable (_ ∧ _))

theorem toNat_of_isTokenChar {c : Char} (h : isTokenChar c = true) :
    45 ≤ c.toNat ∧ c.toNat ≤ 122 := by
  have classes : isTokenChar c =
      (decide (65 ≤ c.val ∧ c.val ≤ 90) || (decide (97 ≤ c.val) && decide (c.val ≤ 122)) ||
        (decide (48 ≤ c.val) && decide (c.val ≤ 57)) || c == '-' || c == '_' || c == '.' ||
        c == '/') := rfl
  simp only [classes, Bool.or_eq_true, Bool.and_eq_true, decide_eq_true_eq, beq_iff_eq,
    UInt32.le_iff_toNat_le] at h
  change 45 ≤ c.val.toNat ∧ c.val.toNat ≤ 122
  rcases h with (((((h | h) | h) | rfl) | rfl) | rfl) | rfl
  all_goals simp_all
  all_goals omega

theorem not_blank_of_isTokenChar {c : Char} (h : isTokenChar c = true) : isBlank c = false := by
  obtain ⟨hlow, hhigh⟩ := toNat_of_isTokenChar h
  simp only [isBlank, Bool.or_eq_false_iff, Bool.and_eq_false_iff, decide_eq_false_iff_not,
    beq_eq_false_iff_ne]
  omega

theorem TokenText.solid {s : String} (h : TokenText s) : Solid s.toList :=
  fun c hc => not_blank_of_isTokenChar (h c hc)

/-! ### The grammar -/

/-- Things between commas, where a blank text stands for none. -/
inductive Listed {α : Type} (W : α → List Char → Prop) : List α → List Char → Prop
  | blank {text} (h : Blank text) : Listed W [] text
  | last {x text} (h : W x text) : Listed W [x] text
  | skip {xs text rest} (h : Blank text) (others : Listed W xs rest) :
      Listed W xs (text ++ ',' :: rest)
  | cons {x xs text rest} (h : W x text) (others : Listed W xs rest) :
      Listed W (x :: xs) (text ++ ',' :: rest)

/-- A value of a value set. -/
def WrittenValue (v : String) (text : List Char) : Prop := Token v ∧ Padded v.toList text

/-- The word for an operator with a value set. -/
def setWord? : Operator → Option String
  | .isIn => some "in"
  | .notIn => some "notin"
  | .exists => none
  | .doesNotExist => none

/-- The texts that stand for a term. -/
inductive Written : Term → List Char → Prop
  | key {k text} (hk : Token k) (h : Padded k.toList text) :
      Written (.requires ⟨k, .exists, []⟩) text
  | noKey {k blanks text} (hk : Token k) (hb : Blank blanks) (h : Padded k.toList text) :
      Written (.requires ⟨k, .doesNotExist, []⟩) (blanks ++ '!' :: text)
  | equal {k v left right} (hk : Token k) (hv : TokenText v) (hl : Padded k.toList left)
      (hr : Padded v.toList right) : Written (.equal k v) (left ++ '=' :: right)
  | doubleEqual {k v left right} (hk : Token k) (hv : TokenText v) (hl : Padded k.toList left)
      (hr : Padded v.toList right) : Written (.equal k v) (left ++ '=' :: '=' :: right)
  | notEqual {k v left right} (hk : Token k) (hv : TokenText v) (hl : Padded k.toList left)
      (hr : Padded v.toList right) :
      Written (.requires ⟨k, .notIn, [v]⟩) (left ++ '!' :: '=' :: right)
  | set {k op word vs before gap after inside trailing} (hk : Token k)
      (hword : setWord? op = some word) (hbefore : Blank before) (hgap : Blank gap)
      (hne : gap ≠ []) (hafter : Blank after) (hvs : Listed WrittenValue vs inside)
      (htrailing : Blank trailing) :
      Written (.requires ⟨k, op, vs⟩)
        (before ++ k.toList ++ gap ++ word.toList ++ after ++ '(' :: (inside ++ ')' :: trailing))

/-! ### What texts of tokens and blanks do not contain -/

/-- The text has tokens and blanks only. -/
def Bare (cs : List Char) : Prop := ∀ c ∈ cs, (isTokenChar c || isBlank c) = true

theorem Bare.not_mem {cs : List Char} (h : Bare cs) {c : Char}
    (hc : (isTokenChar c || isBlank c) = false) : c ∉ cs :=
  fun hmem => Bool.false_ne_true (hc.symm.trans (h c hmem))

theorem bare_of_blank {cs : List Char} (h : Blank cs) : Bare cs := by
  intro c hc
  rw [h c hc, Bool.or_true]

theorem TokenText.bare {s : String} (h : TokenText s) : Bare s.toList := by
  intro c hc
  rw [h c hc, Bool.true_or]

theorem Bare.append {cs ds : List Char} (hc : Bare cs) (hd : Bare ds) : Bare (cs ++ ds) :=
  List.forall_mem_append.mpr ⟨hc, hd⟩

theorem TokenText.bare_of_padded {s : String} {text : List Char} (h : TokenText s)
    (hp : Padded s.toList text) : Bare text := by
  obtain ⟨before, after, hb, ha, rfl⟩ := hp
  exact ((bare_of_blank hb).append h.bare).append (bare_of_blank ha)

/-- A value set has no parentheses in it. -/
theorem Listed.no_parens {vs : List String} {inside : List Char}
    (h : Listed WrittenValue vs inside) : '(' ∉ inside ∧ ')' ∉ inside := by
  have bare : ∀ {text}, Bare text → '(' ∉ text ∧ ')' ∉ text :=
    fun ht => ⟨ht.not_mem (by decide), ht.not_mem (by decide)⟩
  induction h with
  | blank hb => exact bare (bare_of_blank hb)
  | last hv => exact bare (hv.1.2.bare_of_padded hv.2)
  | skip hb _ ih =>
      obtain ⟨hopen, hclose⟩ := bare (bare_of_blank hb)
      simp [hopen, hclose, ih]
  | cons hv _ ih =>
      obtain ⟨hopen, hclose⟩ := bare (hv.1.2.bare_of_padded hv.2)
      simp [hopen, hclose, ih]

/-! ### Cutting into terms -/

/-- A text that has nothing to do with the cutting into terms. -/
def Inert (cs : List Char) : Prop := '(' ∉ cs ∧ ')' ∉ cs ∧ ',' ∉ cs

instance (cs : List Char) : Decidable (Inert cs) := inferInstanceAs (Decidable (_ ∧ _ ∧ _))

theorem Bare.inert {cs : List Char} (h : Bare cs) : Inert cs :=
  ⟨h.not_mem (by decide), h.not_mem (by decide), h.not_mem (by decide)⟩

/-- A separator within a term. -/
theorem Inert.append_cons {l r : List Char} (hl : Inert l) (hr : Inert r) {c : Char}
    (hc : Inert [c]) : Inert (l ++ c :: r) := by
  simp only [Inert, List.mem_append, List.mem_cons, List.not_mem_nil, or_false, not_or] at *
  exact ⟨⟨hl.1, hc.1, hr.1⟩, ⟨hl.2.1, hc.2.1, hr.2.1⟩, ⟨hl.2.2, hc.2.2, hr.2.2⟩⟩

theorem Inert.nesting?_eq {cs : List Char} (h : Inert cs) (depth : Nat) :
    nesting? depth cs = some depth :=
  nesting?_of_plain h.1 h.2.1 fun _ => h.2.2

theorem Inert.splitTerms_eq {text : List Char} (h : Inert text) :
    splitTerms text = .ok [text] :=
  splitTerms_of_nesting? (h.nesting?_eq 0)

theorem splitTerms_set {head inside trailing : List Char} (hhead : Inert head)
    (hinside : '(' ∉ inside ∧ ')' ∉ inside) (htrailing : Inert trailing) :
    splitTerms (head ++ '(' :: (inside ++ ')' :: trailing)) =
      .ok [head ++ '(' :: (inside ++ ')' :: trailing)] := by
  have enclosed : nesting? 1 inside = some 1 := nesting?_of_plain hinside.1 hinside.2 nofun
  apply splitTerms_of_nesting?
  rw [nesting?_append_open (hhead.nesting?_eq 0), nesting?_append_close enclosed]
  exact htrailing.nesting?_eq 0

theorem setWord?_eq_some {op : Operator} {word : String} (h : setWord? op = some word) :
    Token word ∧ setOperator? word.toList = some op := by
  cases op with
  | isIn =>
      obtain rfl := Option.some.inj h
      exact ⟨by decide, rfl⟩
  | notIn =>
      obtain rfl := Option.some.inj h
      exact ⟨by decide, rfl⟩
  | «exists» => cases h
  | doesNotExist => cases h

theorem setOperator?_eq_some_iff {word : List Char} {op : Operator} :
    setOperator? word = some op ↔ ∃ text, setWord? op = some text ∧ word = text.toList := by
  constructor
  · intro h
    rw [setOperator?] at h
    split at h
    · next hword => exact ⟨"in", Option.some.inj h ▸ rfl, hword⟩
    · split at h
      · next hword => exact ⟨"notin", Option.some.inj h ▸ rfl, hword⟩
      · cases h
  · rintro ⟨text, htext, rfl⟩
    exact (setWord?_eq_some htext).2

/-- A written term is one term. -/
theorem Written.splitTerms_eq {t : Term} {text : List Char} (h : Written t text) :
    splitTerms text = .ok [text] := by
  have inert : ∀ {s text}, TokenText s → Padded s.toList text → Inert text :=
    fun hs hp => (hs.bare_of_padded hp).inert
  cases h with
  | key hk hp => exact (inert hk.2 hp).splitTerms_eq
  | noKey hk hb hp =>
      exact ((bare_of_blank hb).inert.append_cons (inert hk.2 hp) (by decide)).splitTerms_eq
  | equal hk hv hl hr =>
      exact ((inert hk.2 hl).append_cons (inert hv hr) (by decide)).splitTerms_eq
  | doubleEqual hk hv hl hr =>
      have value := Inert.append_cons (l := []) (by decide) (inert hv hr) (c := '=') (by decide)
      exact ((inert hk.2 hl).append_cons value (by decide)).splitTerms_eq
  | notEqual hk hv hl hr =>
      have value := Inert.append_cons (l := []) (by decide) (inert hv hr) (c := '=') (by decide)
      exact ((inert hk.2 hl).append_cons value (by decide)).splitTerms_eq
  | set hk hword hbefore hgap _ hafter hvs htrailing =>
      have word := (setWord?_eq_some hword).1.2.bare
      have head := ((((bare_of_blank hbefore).append hk.2.bare).append (bare_of_blank hgap)).append
        word).append (bare_of_blank hafter)
      exact splitTerms_set head.inert hvs.no_parens (bare_of_blank htrailing).inert

/-! ### Reading terms -/

theorem Token.toList_ne_nil {s : String} (h : Token s) : s.toList ≠ [] := by
  rw [ne_eq, String.toList_eq_nil_iff]
  exact h.1

theorem readKey_of_padded {k : String} {key : List Char} (hk : Token k)
    (h : Padded k.toList key) (term : List Char) : readKey term key = .ok k := by
  obtain ⟨c, cs, hcs⟩ := List.exists_cons_of_ne_nil hk.toList_ne_nil
  rw [readKey, h.trim_eq hk.2.solid, hcs]
  exact congrArg Except.ok (hcs ▸ String.ofList_toList)

/-- A term that does not begin with an exclamation mark is read at its first sign. -/
theorem readPlainTerm_of_head? {term : List Char} (h : term.head? ≠ some '!') :
    readPlainTerm term =
      match cutPair? '!' '=' term with
      | some (key, value) =>
        (readKey term key).map fun k => .requires ⟨k, .notIn, [.ofList (trim value)]⟩
      | none =>
        match cut? '=' term with
        | some (key, value) =>
          (readKey term key).map fun k => .equal k (.ofList (trim (dropLeading '=' value)))
        | none => (readKey term term).map fun k => .requires ⟨k, .exists, []⟩ := by
  unfold readPlainTerm
  split
  · simp at h
  · rfl

theorem readTerm_of_not_mem {term : List Char} (h : '(' ∉ term) :
    readTerm term = readPlainTerm term := by
  rw [readTerm, cut?_eq_none_iff.mpr h]

theorem dropLeading_of_not_mem {sep : Char} {cs : List Char} (h : sep ∉ cs) :
    dropLeading sep cs = cs := by
  cases cs with
  | nil => rfl
  | cons c cs =>
      rw [List.mem_cons, not_or] at h
      rw [dropLeading, if_neg (Ne.symm h.1)]

theorem readTerm_token {k : String} (hk : Token k) :
    readTerm k.toList = .ok (.requires ⟨k, .exists, []⟩) := by
  have bare := hk.2.bare
  have unmarked : k.toList.head? ≠ some '!' := by
    intro h
    exact bare.not_mem (by decide) (List.mem_of_head? h)
  have hkey := readKey_of_padded hk (Padded.refl k.toList) k.toList
  rw [readTerm_of_not_mem (bare.not_mem (by decide)), readPlainTerm_of_head? unmarked,
    cutPair?_of_not_mem (bare.not_mem (by decide)),
    cut?_eq_none_iff.mpr (bare.not_mem (by decide)), hkey]
  rfl

theorem readTerm_noKey {k : String} {text : List Char} (hk : Token k)
    (h : Padded k.toList text) :
    readTerm ('!' :: text) = .ok (.requires ⟨k, .doesNotExist, []⟩) := by
  have hopen : '(' ∉ text := (hk.2.bare_of_padded h).not_mem (by decide)
  have closed : '(' ∉ '!' :: text := by simp [hopen]
  have hkey := readKey_of_padded hk h ('!' :: text)
  rw [readTerm_of_not_mem closed, readPlainTerm, hkey]
  rfl

/-- An equality, of which the value may begin with a second sign. -/
theorem readTerm_equal {k v : String} {left value : List Char} (hk : Token k)
    (hl : Padded k.toList left) (hopen : '(' ∉ value) (hmark : '!' ∉ value)
    (hvalue : trim (dropLeading '=' value) = v.toList) :
    readTerm (left ++ '=' :: value) = .ok (.equal k v) := by
  have bare := hk.2.bare_of_padded hl
  have hopen' : '(' ∉ left := bare.not_mem (by decide)
  have hmark' : '!' ∉ left := bare.not_mem (by decide)
  have closed : '(' ∉ left ++ '=' :: value := by simp [hopen, hopen']
  have unmarked : '!' ∉ left ++ '=' :: value := by simp [hmark, hmark']
  have hhead : (left ++ '=' :: value).head? ≠ some '!' := by
    intro h
    exact unmarked (List.mem_of_head? h)
  have hkey := readKey_of_padded hk hl (left ++ '=' :: value)
  rw [readTerm_of_not_mem closed, readPlainTerm_of_head? hhead, cutPair?_of_not_mem unmarked,
    cut?_append_cons (bare.not_mem (by decide))]
  dsimp only
  rw [hkey, hvalue, String.ofList_toList]
  rfl

theorem readTerm_notEqual {k v : String} {left right : List Char} (hk : Token k)
    (hv : TokenText v) (hl : Padded k.toList left) (hr : Padded v.toList right) :
    readTerm (left ++ '!' :: '=' :: right) = .ok (.requires ⟨k, .notIn, [v]⟩) := by
  have bare := hk.2.bare_of_padded hl
  have bare' := hv.bare_of_padded hr
  have hopen : '(' ∉ left := bare.not_mem (by decide)
  have hopen' : '(' ∉ right := bare'.not_mem (by decide)
  have closed : '(' ∉ left ++ '!' :: '=' :: right := by simp [hopen, hopen']
  have hhead : (left ++ '!' :: '=' :: right).head? ≠ some '!' := by
    have hmark : '!' ∉ left := bare.not_mem (by decide)
    obtain ⟨c, cs, rfl⟩ := List.exists_cons_of_ne_nil (hl.ne_nil hk.toList_ne_nil)
    rw [List.mem_cons, not_or] at hmark
    simpa using Ne.symm hmark.1
  have hkey := readKey_of_padded hk hl (left ++ '!' :: '=' :: right)
  rw [readTerm_of_not_mem closed, readPlainTerm_of_head? hhead,
    cutPair?_append (bare.not_mem (by decide))]
  dsimp only
  rw [hkey, hr.trim_eq hv.solid, String.ofList_toList]
  rfl

theorem readValues_of_listed {vs : List String} {inside : List Char}
    (h : Listed WrittenValue vs inside) : readValues inside = vs := by
  have separate : ∀ {text}, Bare text → ',' ∉ text := fun ht => ht.not_mem (by decide)
  have kept : ∀ {v text}, WrittenValue v text →
      ((trim text).isEmpty = false ∧ String.ofList (trim text) = v) := by
    intro v text hv
    rw [hv.2.trim_eq hv.1.2.solid]
    exact ⟨by simpa using hv.1.toList_ne_nil, String.ofList_toList⟩
  unfold readValues
  induction h with
  | blank hb => 
      rw [splitOn_of_not_mem (separate (bare_of_blank hb))]
      simp [trim_of_blank hb]
  | last hv =>
      obtain ⟨hfull, hread⟩ := kept hv
      rw [splitOn_of_not_mem (separate (hv.1.2.bare_of_padded hv.2))]
      simp [hfull, hread]
  | skip hb _ ih =>
      rw [splitOn_append_cons (separate (bare_of_blank hb))]
      simpa [trim_of_blank hb] using ih
  | cons hv _ ih =>
      obtain ⟨hfull, hread⟩ := kept hv
      rw [splitOn_append_cons (separate (hv.1.2.bare_of_padded hv.2))]
      simpa [hfull, hread] using ih

theorem words_head {k word : String} {gap after : List Char} (hk : Token k) (hword : Token word)
    (hgap : Blank gap) (hne : gap ≠ []) (hafter : Blank after) :
    words (k.toList ++ gap ++ word.toList ++ after) = [k.toList, word.toList] :=
  words_eq_pair_iff.mpr ⟨[], gap, after, blank_nil, hgap, hne, hafter, hk.2.solid,
    hk.toList_ne_nil, hword.2.solid, hword.toList_ne_nil, by simp⟩

theorem readTerm_set {k word : String} {op : Operator} {vs : List String}
    {gap after inside : List Char} (hk : Token k) (hword : setWord? op = some word)
    (hgap : Blank gap) (hne : gap ≠ []) (hafter : Blank after)
    (hvs : Listed WrittenValue vs inside) :
    readTerm (k.toList ++ gap ++ word.toList ++ after ++ '(' :: (inside ++ [')'])) =
      .ok (.requires ⟨k, op, vs⟩) := by
  obtain ⟨token, operator⟩ := setWord?_eq_some hword
  have head : Bare (k.toList ++ gap ++ word.toList ++ after) :=
    ((hk.2.bare.append (bare_of_blank hgap)).append token.2.bare).append (bare_of_blank hafter)
  rw [readTerm, cut?_append_cons (head.not_mem (by decide))]
  dsimp only
  rw [readSetTerm, beforeLast?_concat, words_head hk token hgap hne hafter]
  dsimp only
  rw [List.headD_cons, operator]
  dsimp only
  rw [readValues_of_listed hvs, String.ofList_toList]

/-- A written term is read as the term that it stands for. -/
theorem Written.read {t : Term} {text : List Char} (h : Written t text) :
    readTerm (trim text) = .ok t := by
  cases h with
  | key hk hp =>
      rw [hp.trim_eq hk.2.solid]
      exact readTerm_token hk
  | noKey hk hb hp =>
      rw [trim_append_cons (by decide), trimStart_of_blank hb]
      exact readTerm_noKey hk (hp.trimEnd hk.2.solid)
  | @equal k v left right hk hv hl hr =>
      have bare := hv.bare_of_padded (hr.trimEnd hv.solid)
      rw [trim_append_cons (by decide)]
      apply readTerm_equal hk (hl.trimStart hk.2.solid) (bare.not_mem (by decide))
        (bare.not_mem (by decide))
      rw [dropLeading_of_not_mem (bare.not_mem (by decide))]
      exact (hr.trimEnd hv.solid).trim_eq hv.solid
  | @doubleEqual k v left right hk hv hl hr =>
      have bare := hv.bare_of_padded (hr.trimEnd hv.solid)
      have hopen : '(' ∉ trimEnd right := bare.not_mem (by decide)
      have hmark : '!' ∉ trimEnd right := bare.not_mem (by decide)
      rw [trim_append_cons (by decide), trimEnd_cons_of_not_blank (by decide)]
      apply readTerm_equal hk (hl.trimStart hk.2.solid) (by simp [hopen]) (by simp [hmark])
      rw [dropLeading, if_pos rfl]
      exact (hr.trimEnd hv.solid).trim_eq hv.solid
  | notEqual hk hv hl hr =>
      rw [trim_append_cons (by decide), trimEnd_cons_of_not_blank (by decide)]
      exact readTerm_notEqual hk hv (hl.trimStart hk.2.solid) (hr.trimEnd hv.solid)
  | @set k op word vs before gap after inside trailing hk hword hbefore hgap hne hafter hvs
      htrailing =>
      have hhead : trimStart (before ++ k.toList ++ gap ++ word.toList ++ after) =
          k.toList ++ gap ++ word.toList ++ after := by
        simp only [List.append_assoc]
        rw [trimStart_append_of_blank hbefore,
          trimStart_of_solid_append hk.2.solid hk.toList_ne_nil]
      rw [trim_append_cons (by decide), hhead, trimEnd_append_cons (by decide),
        trimEnd_of_blank htrailing]
      exact readTerm_set hk hword hgap hne hafter hvs

/-! ### Reading selectors -/

theorem Written.trim_ne_nil {t : Term} {text : List Char} (h : Written t text) :
    trim text ≠ [] := by
  intro hnil
  have unread := h.read
  rw [hnil] at unread
  cases unread

/-- A list of written terms is cut into them and blanks. -/
theorem Listed.read {terms : List Term} {text : List Char} (h : Listed Written terms text) :
    ∃ pieces, splitTerms text = .ok pieces ∧
      readTerms ((pieces.map trim).filter (!·.isEmpty)) = .ok terms := by
  have blank : ∀ {text}, Blank text → splitTerms text = .ok [text] :=
    fun hb => (bare_of_blank hb).inert.splitTerms_eq
  have full : ∀ {t text}, Written t text → (trim text).isEmpty = false :=
    fun hw => by simpa using hw.trim_ne_nil
  induction h with
  | @blank text hb =>
      refine ⟨[text], blank hb, ?_⟩
      simp [trim_of_blank hb, readTerms]
  | @last t text hw =>
      refine ⟨[text], hw.splitTerms_eq, ?_⟩
      simp [full hw, readTerms, hw.read, Except.map]
  | @skip terms text rest hb _ ih =>
      obtain ⟨pieces, hsplit, hread⟩ := ih
      refine ⟨text :: pieces, ?_, ?_⟩
      · rw [splitTerms, splitTermsFrom_comma (blank hb), hsplit]
        rfl
      · simpa [trim_of_blank hb] using hread
  | @cons t terms text rest hw _ ih =>
      obtain ⟨pieces, hsplit, hread⟩ := ih
      refine ⟨text :: pieces, ?_, ?_⟩
      · rw [splitTerms, splitTermsFrom_comma hw.splitTerms_eq, hsplit]
        rfl
      · rw [List.map_cons, List.filter_cons, full hw, Bool.not_false, if_pos rfl, readTerms,
          hw.read, hread]
        rfl

theorem parse_of_listed {terms : List Term} {text : String}
    (h : Listed Written terms text.toList) : parse text = .ok (ofTerms terms) := by
  obtain ⟨pieces, hsplit, hread⟩ := h.read
  exact parseChars_eq_ok_iff.mpr ⟨pieces, terms, hsplit, hread, rfl⟩

/-! ### Writing selectors -/

/-- The terms of a selector. -/
def terms (s : Selector) : List Term :=
  s.matchLabels.entries.map (fun e => .equal e.1 e.2) ++ s.matchExpressions.map .requires

/-- The selector can be written with tokens. -/
structure Spellable (s : Selector) : Prop where
  labels : ∀ e ∈ s.matchLabels.entries, Token e.1 ∧ TokenText e.2
  keys : ∀ r ∈ s.matchExpressions, Token r.key
  values : ∀ r ∈ s.matchExpressions, (setWord? r.operator).isSome = true → ∀ v ∈ r.values, Token v
  bare : ∀ r ∈ s.matchExpressions, setWord? r.operator = none → r.values = []

theorem ofTerms_terms (s : Selector) : ofTerms s.terms = s := by
  have labels : s.terms.filterMap Term.label? = s.matchLabels.entries := by
    have none_left : s.matchExpressions.filterMap (Term.label? ∘ Term.requires) = [] := by
      simp [Function.comp_def, Term.label?]
    have all_kept : (Term.label? ∘ fun e : String × String => Term.equal e.1 e.2) = some := rfl
    rw [terms, List.filterMap_append, List.filterMap_map, List.filterMap_map, none_left, all_kept,
      List.filterMap_some, List.append_nil]
  have requirements : s.terms.filterMap Term.requirement? = s.matchExpressions := by
    have none_left : s.matchLabels.entries.filterMap
        (Term.requirement? ∘ fun e => Term.equal e.1 e.2) = [] := by
      simp [Function.comp_def, Term.requirement?]
    have all_kept : Term.requirement? ∘ Term.requires = some := rfl
    rw [terms, List.filterMap_append, List.filterMap_map, List.filterMap_map, none_left, all_kept,
      List.filterMap_some, List.nil_append]
  rw [ofTerms, labels, requirements, SortedMap.ofList_entries]

/-- Written things with commas between them. -/
theorem Listed.joinStrings {α : Type} {W : α → List Char → Prop} {spell : α → String}
    {xs : List α} (h : ∀ x ∈ xs, W x (spell x).toList) :
    Listed W xs (joinStrings "," (xs.map spell)).toList := by
  induction xs with
  | nil => exact .blank blank_nil
  | cons x rest ih =>
      obtain ⟨hx, hrest⟩ := List.forall_mem_cons.mp h
      cases rest with
      | nil => exact .last hx
      | cons y rest =>
          rw [List.map_cons, joinStrings_cons (by simp), String.toList_append,
            String.toList_append, List.append_assoc]
          exact .cons hx (ih hrest)

theorem written_label {k v : String} (hk : Token k) (hv : TokenText v) :
    Written (.equal k v) (renderLabel (k, v)).toList := by
  have chars : (renderLabel (k, v)).toList = k.toList ++ '=' :: v.toList := by simp [renderLabel]
  rw [chars]
  exact .equal hk hv (.refl _) (.refl _)

theorem written_set {k word text : String} {op : Operator} {vs : List String} (hk : Token k)
    (hword : setWord? op = some word) (hvs : ∀ v ∈ vs, Token v)
    (htext : text = k ++ " " ++ word ++ " (" ++ joinStrings "," vs ++ ")") :
    Written (.requires ⟨k, op, vs⟩) text.toList := by
  have inside : Listed WrittenValue vs (joinStrings "," vs).toList := by
    have each : ∀ v ∈ vs, WrittenValue v (id v).toList := fun v hv => ⟨hvs v hv, .refl _⟩
    simpa using Listed.joinStrings each
  have space : Blank [' '] := by simp [Blank, isBlank]
  have chars : text.toList = [] ++ k.toList ++ [' '] ++ word.toList ++ [' '] ++
      '(' :: ((joinStrings "," vs).toList ++ [')']) := by
    simp [htext]
  rw [chars]
  exact .set hk hword blank_nil space (by simp) space inside blank_nil

theorem written_requirement {r : Requirement} (hkey : Token r.key)
    (hvalues : (setWord? r.operator).isSome = true → ∀ v ∈ r.values, Token v)
    (hbare : setWord? r.operator = none → r.values = []) :
    Written (.requires r) r.render.toList := by
  obtain ⟨k, op, vs⟩ := r
  cases op with
  | isIn =>
      apply written_set hkey rfl (hvalues rfl)
      simp [Requirement.render, String.append_assoc]
  | notIn =>
      apply written_set hkey rfl (hvalues rfl)
      simp [Requirement.render, String.append_assoc]
  | «exists» =>
      obtain rfl : vs = [] := hbare rfl
      exact .key hkey (.refl _)
  | doesNotExist =>
      obtain rfl : vs = [] := hbare rfl
      have chars : (Requirement.render ⟨k, .doesNotExist, []⟩).toList = [] ++ '!' :: k.toList := by
        simp [Requirement.render]
      rw [chars]
      exact .noKey hkey blank_nil (.refl _)

/-- The text of a term. -/
def renderTerm : Term → String
  | .equal k v => renderLabel (k, v)
  | .requires r => r.render

theorem Spellable.listed {s : Selector} (h : s.Spellable) :
    Listed Written s.terms s.render.toList := by
  have each : ∀ t ∈ s.terms, Written t (renderTerm t).toList := by
    intro t ht
    rcases List.mem_append.mp ht with ht | ht
    · obtain ⟨e, he, rfl⟩ := List.mem_map.mp ht
      exact written_label (h.labels e he).1 (h.labels e he).2
    · obtain ⟨r, hr, rfl⟩ := List.mem_map.mp ht
      exact written_requirement (h.keys r hr) (h.values r hr) (h.bare r hr)
  have texts : s.terms.map renderTerm =
      s.matchLabels.entries.map renderLabel ++ s.matchExpressions.map Requirement.render := by
    rw [terms, List.map_append, List.map_map, List.map_map]
    rfl
  have listed := Listed.joinStrings each
  rwa [texts] at listed

/-- Every text of the grammar is read. The labels are those of its equalities, the last one for each
key, and the requirements are those of its other terms, in order. In particular the text of a
selector that can be spelled with tokens is read as the selector. -/
theorem parse_written :
    (∀ (terms : List Term) (text : String), Listed Written terms text.toList →
      ∃ s, parse text = .ok s ∧
        (∀ k, s.matchLabels.get? k =
          ((terms.filterMap Term.label?).reverse.find? fun e => e.1 = k).map (·.2)) ∧
        s.matchExpressions = terms.filterMap Term.requirement?) ∧
      ∀ s : Selector, s.Spellable → parse s.render = .ok s := by
  constructor
  · intro terms text h
    exact ⟨ofTerms terms, parse_of_listed h, SortedMap.get?_ofList _, rfl⟩
  · intro s h
    rw [parse_of_listed h.listed, ofTerms_terms]

/-- A selector with a label without value, written with tokens. -/
def spelled : Selector :=
  ⟨.ofList [("tier", ""), ("app", "web")], [⟨"env", .notIn, ["prod"]⟩, ⟨"debug", .exists, []⟩]⟩

theorem parse_written_spread :
    ∃ s, parse "app = a,,env in ( prod ,) ,! debug,app==b" = .ok s ∧
      s.matchLabels.get? "app" = some "b" ∧
      s.matchExpressions = [⟨"env", .isIn, ["prod"]⟩, ⟨"debug", .doesNotExist, []⟩] ∧
      parse spelled.render = .ok spelled := by
  have space : Blank [' '] := by simp [Blank, isBlank]
  have key : Token "app" ∧ Token "env" ∧ Token "debug" := by decide
  have app : Written (.equal "app" "a") ("app ".toList ++ '=' :: " a".toList) :=
    .equal key.1 (by decide) ⟨[], [' '], blank_nil, space, rfl⟩ ⟨[' '], [], space, blank_nil, rfl⟩
  have prod : WrittenValue "prod" " prod ".toList :=
    ⟨by decide, [' '], [' '], space, space, rfl⟩
  have word : setWord? .isIn = some "in" := rfl
  have env : Written (.requires ⟨"env", .isIn, ["prod"]⟩) "env in ( prod ,) ".toList :=
    .set key.2.1 word blank_nil space (by simp) space (.cons prod (.blank blank_nil)) space
  have debug : Written (.requires ⟨"debug", .doesNotExist, []⟩) "! debug".toList :=
    .noKey key.2.2 blank_nil ⟨[' '], [], space, blank_nil, rfl⟩
  have app' : Written (.equal "app" "b") "app==b".toList :=
    .doubleEqual key.1 (by decide) (.refl _) (.refl _)
  have listed : Listed Written [.equal "app" "a", .requires ⟨"env", .isIn, ["prod"]⟩,
      .requires ⟨"debug", .doesNotExist, []⟩, .equal "app" "b"]
      "app = a,,env in ( prod ,) ,! debug,app==b".toList :=
    .cons app (.skip blank_nil (.cons env (.cons debug (.last app'))))
  have spellable : spelled.Spellable := ⟨by decide, by decide, by decide, by decide⟩
  obtain ⟨s, hparse, hlabels, hexpressions⟩ := parse_written.1 _ _ listed
  exact ⟨s, hparse, (hlabels "app").trans rfl, hexpressions, parse_written.2 spelled spellable⟩

end Selector

end ScalingMetrics
