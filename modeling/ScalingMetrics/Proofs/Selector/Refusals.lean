import ScalingMetrics.Proofs.Selector.Written

/-!
# Refused selector strings

A string whose parentheses are still open at its end is refused before any of its terms is read. Any
other string is refused for the leftmost of its pieces that is a bad term: one without a key, or one
that names an unknown operator for a value set.
-/

namespace ScalingMetrics

namespace Selector

open Text

variable {l r last term before after : List Char} {pieces : List (List Char)}
  {fault : SelectorError}

/-! ### Bad terms -/

/-- The term has no key: it begins with its value set, it is an exclamation mark alone, or it begins
with the equals sign that it is read at. -/
def Keyless (term : List Char) : Prop :=
  term.head? = some '(' ∨ term = ['!'] ∨
    term.head? = some '=' ∧ '(' ∉ term ∧ ¬ ['!', '='] <:+: term

instance : DecidablePred Keyless := fun _ => inferInstanceAs (Decidable (_ ∨ _ ∨ _ ∧ _ ∧ _))

/-- Why a term is bad. The second word before a value set is its operator, which may be missing. -/
inductive Fault (term : List Char) : SelectorError → Prop
  | emptyKey (h : Keyless term) : Fault term (.emptyKey (.ofList term))
  | unknownOperator {before key others after} (hterm : term = before ++ '(' :: after)
      (hopen : '(' ∉ before) (hwords : words before = key :: others)
      (hin : others.headD [] ≠ "in".toList) (hnotin : others.headD [] ≠ "notin".toList) :
      Fault term (.unknownOperator (.ofList term) (.ofList (others.headD [])))

theorem setOperator?_eq_none_iff {word : List Char} :
    setOperator? word = none ↔ word ≠ "in".toList ∧ word ≠ "notin".toList := by
  rw [setOperator?]
  split
  · next h => simp [h]
  · next h => split <;> simp_all

/-- A term without parentheses can only lack a key. -/
theorem fault_plain_iff (hopen : '(' ∉ term) :
    Fault term fault ↔ Keyless term ∧ fault = .emptyKey (.ofList term) := by
  constructor
  · intro h
    cases h with
    | emptyKey h => exact ⟨h, rfl⟩
    | unknownOperator hterm => simp [hterm] at hopen
  · rintro ⟨h, rfl⟩
    exact .emptyKey h

theorem not_fault_nil : ¬ Fault [] fault := by
  rw [fault_plain_iff List.not_mem_nil]
  exact fun h => absurd h.1 (by decide)

/-! ### Reading terms -/

theorem readKey_eq_error_iff {key : List Char} :
    readKey term key = .error fault ↔ trim key = [] ∧ fault = .emptyKey (.ofList term) := by
  rw [readKey]
  cases trim key <;> simp [eq_comm]

/-- A term that begins with an exclamation mark lacks a key if there is nothing behind the mark. -/
theorem keyless_mark_iff {key : List Char} (trimmed : trim ('!' :: key) = '!' :: key) :
    Keyless ('!' :: key) ↔ trim key = [] := by
  have hkey : trim key = [] ↔ key = [] := by
    refine ⟨fun h => ?_, fun h => h ▸ trim_nil⟩
    have hend : trim ('!' :: key) = '!' :: trimEnd key := trim_append_cons (by decide) [] key
    rw [trimEnd_of_blank (trim_eq_nil_iff.mp h), trimmed] at hend
    exact (List.cons.inj hend).2
  simp [Keyless, hkey]

/-- Any other term without parentheses lacks a key if it is read at an equals sign at its start. -/
theorem keyless_plain_iff (hopen : '(' ∉ term) (hhead : term.head? ≠ some '!') :
    Keyless term ↔ term.head? = some '=' ∧ ¬ ['!', '='] <:+: term := by
  constructor
  · rintro (h | rfl | ⟨hsign, -, hpair⟩)
    · exact absurd (List.mem_of_head? h) hopen
    · exact absurd rfl hhead
    · exact ⟨hsign, hpair⟩
  · rintro ⟨hsign, hpair⟩
    exact .inr (.inr ⟨hsign, hopen, hpair⟩)

theorem head?_append_cons_eq_iff {c : Char} (h : c ∉ l) : (l ++ c :: r).head? = some c ↔ l = [] := by
  cases l with
  | nil => simp
  | cons x l =>
      rw [List.mem_cons, not_or] at h
      simpa using Ne.symm h.1

theorem readPlainTerm_eq_error_iff (hne : term ≠ []) (hopen : '(' ∉ term)
    (trimmed : trim term = term) :
    readPlainTerm term = .error fault ↔ Keyless term ∧ fault = .emptyKey (.ofList term) := by
  by_cases hhead : term.head? = some '!'
  · obtain ⟨key, rfl⟩ := List.head?_eq_some_iff.mp hhead
    rw [readPlainTerm, map_eq_error_iff, readKey_eq_error_iff, keyless_mark_iff trimmed]
  · rw [readPlainTerm_of_head? hhead, keyless_plain_iff hopen hhead]
    split
    · next key value hcut =>
        -- What is before the two signs is not empty, and a trimmed term does not begin with blanks.
        obtain rfl := cutPair?_eq_some hcut
        have hkey : key ≠ [] := fun hkey => hhead (by rw [hkey]; rfl)
        have hpair : ['!', '='] <:+: key ++ '!' :: '=' :: value := ⟨key, value, by simp⟩
        rw [map_eq_error_iff, readKey_eq_error_iff, trim_eq_nil_iff_of_append trimmed]
        simp [hkey, hpair]
    · next hpair =>
        split
        · next key value hcut =>
            obtain rfl := cut?_eq_some hcut
            rw [map_eq_error_iff, readKey_eq_error_iff, trim_eq_nil_iff_of_append trimmed,
              head?_append_cons_eq_iff (not_mem_of_cut? hcut)]
            simp [cutPair?_eq_none_iff.mp hpair]
        · next hcut =>
            have hsign : term.head? ≠ some '=' :=
              fun h => cut?_eq_none_iff.mp hcut (List.mem_of_head? h)
            rw [map_eq_error_iff, readKey_eq_error_iff, trimmed]
            simp [hne, hsign]

/-- A term that is at depth zero at its end has a closing parenthesis behind its first opening
one. -/
theorem beforeLast?_ne_none_of_nesting? (hopen : '(' ∉ before)
    (nested : nesting? 0 (before ++ '(' :: after) = some 0) : beforeLast? ')' after ≠ none := by
  intro hnone
  have hafter := (nesting?_behind_first_open hopen nested).2
  have depth : 1 ≤ 0 := le_of_nesting? (beforeLast?_eq_none_iff.mp hnone) hafter
  exact absurd depth (by decide)

theorem keyless_set_iff (hopen : '(' ∉ before) : Keyless (before ++ '(' :: after) ↔ before = [] := by
  constructor
  · rintro (h | h | ⟨-, h, -⟩)
    · exact (head?_append_cons_eq_iff hopen).mp h
    · have hmem : '(' ∈ ['!'] := h ▸ List.mem_append_right before List.mem_cons_self
      exact absurd hmem (by decide)
    · exact absurd (List.mem_append_right before List.mem_cons_self) h
  · rintro rfl
    exact .inl rfl

/-- The faults of a term with a value set, by the words before it. -/
theorem fault_set_iff (hopen : '(' ∉ before) :
    Fault (before ++ '(' :: after) fault ↔
      before = [] ∧ fault = .emptyKey (.ofList (before ++ '(' :: after)) ∨
      ∃ key others, words before = key :: others ∧ setOperator? (others.headD []) = none ∧
        fault = .unknownOperator (.ofList (before ++ '(' :: after))
          (.ofList (others.headD [])) := by
  constructor
  · intro h
    cases h with
    | emptyKey h => exact .inl ⟨(keyless_set_iff hopen).mp h, rfl⟩
    | @unknownOperator before' key others after' hterm hopen' hwords hin hnotin =>
        have cut := congrArg (cut? '(') hterm
        rw [cut?_append_cons hopen, cut?_append_cons hopen'] at cut
        obtain ⟨rfl, rfl⟩ := Prod.mk.inj (Option.some.inj cut)
        exact .inr ⟨key, others, hwords, setOperator?_eq_none_iff.mpr ⟨hin, hnotin⟩, rfl⟩
  · rintro (⟨hbefore, rfl⟩ | ⟨key, others, hwords, hword, rfl⟩)
    · exact .emptyKey ((keyless_set_iff hopen).mpr hbefore)
    · obtain ⟨hin, hnotin⟩ := setOperator?_eq_none_iff.mp hword
      exact .unknownOperator rfl hopen hwords hin hnotin

theorem readSetTerm_eq_error_iff (hopen : '(' ∉ before)
    (trimmed : trim (before ++ '(' :: after) = before ++ '(' :: after)
    (nested : nesting? 0 (before ++ '(' :: after) = some 0) :
    readSetTerm (before ++ '(' :: after) before after = .error fault ↔
      Fault (before ++ '(' :: after) fault := by
  obtain ⟨inside, hinside⟩ :=
    Option.ne_none_iff_exists'.mp (beforeLast?_ne_none_of_nesting? hopen nested)
  have hblank : words before = [] ↔ before = [] := by
    rw [words_eq_nil_iff, ← trim_eq_nil_iff, trim_eq_nil_iff_of_append trimmed]
  rw [readSetTerm, hinside, fault_set_iff hopen, ← hblank]
  dsimp only
  cases hwords : words before with
  | nil => simp [eq_comm]
  | cons key others =>
      cases hword : setOperator? (others.headD []) <;>
        simp [hword, -List.headD_eq_head?_getD, eq_comm]

/-- A trimmed term that closes its parentheses is refused for its fault. -/
theorem readTerm_eq_error_iff (hne : term ≠ []) (trimmed : trim term = term)
    (nested : nesting? 0 term = some 0) : readTerm term = .error fault ↔ Fault term fault := by
  rw [readTerm]
  split
  · next before after hcut =>
      obtain rfl := cut?_eq_some hcut
      exact readSetTerm_eq_error_iff (not_mem_of_cut? hcut) trimmed nested
  · next hcut =>
      have hopen := cut?_eq_none_iff.mp hcut
      exact (readPlainTerm_eq_error_iff hne hopen trimmed).trans (fault_plain_iff hopen).symm

/-! ### Refused strings -/

/-- The fault of the leftmost bad piece. Blank pieces are passed over. -/
theorem readTerms_eq_error_iff (closed : ∀ p ∈ pieces, nesting? 0 p = some 0) :
    readTerms ((pieces.map trim).filter (!·.isEmpty)) = .error fault ↔
      ∃ before piece after, pieces = before ++ piece :: after ∧
        (∀ p ∈ before, ∀ e, ¬ Fault (trim p) e) ∧ Fault (trim piece) fault := by
  induction pieces with
  | nil => simp [readTerms]
  | cons p rest ih =>
      obtain ⟨hp, hrest⟩ := List.forall_mem_cons.mp closed
      rw [exists_first_cons_iff, ← ih hrest, List.map_cons]
      by_cases hblank : trim p = []
      · simp [hblank, not_fault_nil]
      · have hfault : ∀ {e}, readTerm (trim p) = .error e ↔ Fault (trim p) e :=
          readTerm_eq_error_iff hblank (trim_trim p) ((nesting?_trim 0 p).trans hp)
        rw [List.filter_cons_of_pos (by simpa using hblank), readTerms]
        simp only [← hfault]
        cases readTerm (trim p) with
        | error e => simp
        | ok t => simp [map_eq_error_iff]

theorem parse_of_open {text : String} (hsplit : splitTerms text.toList = .error last) :
    parse text = .error (.unterminatedValues (.ofList last)) := by
  rw [parse, parseChars, hsplit]

theorem parse_eq_error_iff {text : String} (hsplit : splitTerms text.toList = .ok pieces)
    (closed : ∀ p ∈ pieces, nesting? 0 p = some 0) :
    parse text = .error fault ↔ ∃ before piece after, pieces = before ++ piece :: after ∧
      (∀ p ∈ before, ∀ e, ¬ Fault (trim p) e) ∧ Fault (trim piece) fault := by
  rw [parse, parseChars, hsplit]
  exact map_eq_error_iff.trans (readTerms_eq_error_iff closed)

/-- A string is refused as unterminated exactly if it ends at a positive depth, and what is shown of
it is its last piece. Any other string is cut into pieces. None of them lacks a closing parenthesis
behind an opening one, and the string is refused exactly for the fault of the leftmost bad piece. -/
theorem parse_refused (text : String) :
    ((∃ rest, parse text = .error (.unterminatedValues rest)) ↔ 0 < depthFrom 0 text.toList) ∧
    (∀ rest, parse text = .error (.unterminatedValues rest) ↔
      0 < depthFrom 0 text.toList ∧ LastPiece text.toList rest.toList) ∧
    (depthFrom 0 text.toList = 0 → ∃ pieces, splitTerms text.toList = .ok pieces ∧
      Pieces text.toList pieces ∧
      (∀ piece ∈ pieces, ∀ before after, cut? '(' (trim piece) = some (before, after) →
        beforeLast? ')' after ≠ none) ∧
      ∀ fault, parse text = .error fault ↔
        ∃ before piece after, pieces = before ++ piece :: after ∧
          (∀ p ∈ before, ∀ e, ¬ Fault (trim p) e) ∧ Fault (trim piece) fault) := by
  rcases splitTerms_cases text.toList with
    ⟨hdepth, pieces, hsplit, hpieces⟩ | ⟨hdepth, last, hsplit, hlast⟩
  · have faults : ∀ fault, parse text = .error fault ↔ _ :=
      fun fault => parse_eq_error_iff hsplit hpieces.closed
    have terminated : ∀ rest, parse text ≠ .error (.unterminatedValues rest) := by
      intro rest h
      obtain ⟨before, piece, after, -, -, hfault⟩ := (faults _).mp h
      cases hfault
    have closed : ¬ 0 < depthFrom 0 text.toList := Nat.not_lt.mpr (Nat.le_of_eq hdepth)
    refine ⟨iff_of_false (not_exists.mpr terminated) closed, fun rest => ?_, fun _ => ?_⟩
    · exact iff_of_false (terminated rest) fun h => closed h.1
    · refine ⟨pieces, hsplit, hpieces, fun piece hpiece before after hcut => ?_, faults⟩
      have nested := (nesting?_trim 0 piece).trans (hpieces.closed piece hpiece)
      rw [cut?_eq_some hcut] at nested
      exact beforeLast?_ne_none_of_nesting? (not_mem_of_cut? hcut) nested
  · have hparse := parse_of_open hsplit
    refine ⟨iff_of_true ⟨_, hparse⟩ hdepth, fun rest => ?_, fun h => absurd h hdepth.ne'⟩
    rw [hparse]
    constructor
    · intro h
      obtain rfl := SelectorError.unterminatedValues.inj (Except.error.inj h)
      exact ⟨hdepth, by rwa [String.toList_ofList]⟩
    · rintro ⟨-, hrest⟩
      rw [hlast.unique hrest, String.ofList_toList]

/-- A string with bad terms ahead of an open value set, and one with a closing parenthesis too many
and with two bad terms. -/
theorem parse_refused_mixed :
    parse "=a, zone of (b),env in (c" = .error (.unterminatedValues "env in (c") ∧
      LastPiece "=a, zone of (b),env in (c".toList "env in (c".toList ∧
      depthFrom 0 "a),, zone of (b),=c".toList = 0 ∧
      Fault "zone of (b)".toList (.unknownOperator "zone of (b)" "of") ∧
      parse "a),, zone of (b),=c" = .error (.unknownOperator "zone of (b)" "of") := by
  have unterminated : parse "=a, zone of (b),env in (c" =
    .error (.unterminatedValues "env in (c") := rfl
  have hterm : "zone of (b)".toList = "zone of ".toList ++ '(' :: "b)".toList := rfl
  have bad : Fault "zone of (b)".toList (.unknownOperator "zone of (b)" "of") :=
    .unknownOperator hterm (by decide) rfl (by decide) (by decide)
  obtain ⟨pieces, hsplit, -, -, faults⟩ := (parse_refused "a),, zone of (b),=c").2.2 rfl
  obtain rfl : ["a)".toList, [], " zone of (b)".toList, "=c".toList] = pieces :=
    Except.ok.inj hsplit
  have good : ∀ p ∈ ["a)".toList, []], '(' ∉ trim p ∧ ¬ Keyless (trim p) := by decide
  have shown := ((parse_refused _).2.1 _).mp unterminated
  refine ⟨unterminated, shown.2, rfl, bad, (faults _).mpr
    ⟨["a)".toList, []], " zone of (b)".toList, ["=c".toList], rfl, fun p hp e hfault => ?_, bad⟩⟩
  exact (good p hp).2 ((fault_plain_iff (good p hp).1).mp hfault).1

end Selector

end ScalingMetrics
