import Mathlib.Data.List.DropRight
import Mathlib.Data.List.TakeWhile
import ScalingMetrics.Text.Blank

/-!
# Trimming and words

What trimming leaves of a text with blanks around it, and how words are read off a text. A character
that is not blank stops trimming from both sides.
-/

namespace ScalingMetrics.Text

variable {cs before after l r word : List Char} {c : Char}

/-- The text has blanks only. -/
def Blank (cs : List Char) : Prop := ∀ c ∈ cs, isBlank c = true

/-- The text has no blanks. -/
def Solid (cs : List Char) : Prop := ∀ c ∈ cs, isBlank c = false

/-- A text with blanks around it. -/
def Padded (text padded : List Char) : Prop :=
  ∃ before after, Blank before ∧ Blank after ∧ padded = before ++ text ++ after

theorem blank_nil : Blank [] := by simp [Blank]

theorem Blank.head? (h : Blank cs) : ∀ c ∈ cs.head?, isBlank c = true :=
  fun c hc => h c (List.mem_of_mem_head? hc)

theorem Padded.refl (text : List Char) : Padded text text :=
  ⟨[], [], blank_nil, blank_nil, by simp⟩

/-! ### Trimming -/

theorem trimStart_append_of_blank (h : Blank before) (cs : List Char) :
    trimStart (before ++ cs) = trimStart cs :=
  List.dropWhile_append_of_pos h

theorem trimStart_of_blank (h : Blank cs) : trimStart cs = [] := by
  have dropped := trimStart_append_of_blank h []
  rwa [List.append_nil] at dropped

theorem trimStart_cons_of_not_blank (h : isBlank c = false) (cs : List Char) :
    trimStart (c :: cs) = c :: cs :=
  List.dropWhile_cons_of_neg (by simp [h])

/-- Trimming at the start stops at a character that is not blank. -/
theorem trimStart_append_cons (h : isBlank c = false) (l r : List Char) :
    trimStart (l ++ c :: r) = trimStart l ++ c :: r := by
  induction l with
  | nil => exact trimStart_cons_of_not_blank h r
  | cons x l ih =>
      cases hx : isBlank x with
      | true =>
          have dropped : ∀ cs, trimStart (x :: cs) = trimStart cs :=
            fun cs => List.dropWhile_cons_of_pos hx
          rw [List.cons_append, dropped, dropped, ih]
      | false =>
          rw [List.cons_append, trimStart_cons_of_not_blank hx, trimStart_cons_of_not_blank hx]
          rfl

theorem trimStart_of_solid_append (hs : Solid cs) (hne : cs ≠ []) (rest : List Char) :
    trimStart (cs ++ rest) = cs ++ rest := by
  obtain ⟨c, cs, rfl⟩ := List.exists_cons_of_ne_nil hne
  exact trimStart_cons_of_not_blank (hs c List.mem_cons_self) _

theorem trimEnd_eq (cs : List Char) : trimEnd cs = (trimStart cs.reverse).reverse := rfl

theorem trimEnd_append_of_blank (h : Blank after) (cs : List Char) :
    trimEnd (cs ++ after) = trimEnd cs := by
  have reversed : Blank after.reverse := fun c hc => h c (List.mem_reverse.mp hc)
  rw [trimEnd_eq, List.reverse_append, trimStart_append_of_blank reversed, ← trimEnd_eq]

theorem trimEnd_of_blank (h : Blank cs) : trimEnd cs = [] :=
  trimEnd_append_of_blank h []

/-- Trimming at the end stops at a character that is not blank. -/
theorem trimEnd_append_cons (h : isBlank c = false) (l r : List Char) :
    trimEnd (l ++ c :: r) = l ++ c :: trimEnd r := by
  rw [trimEnd_eq, List.reverse_append, List.reverse_cons, List.append_assoc,
    List.singleton_append, trimStart_append_cons h, List.reverse_append, List.reverse_cons,
    List.reverse_reverse, List.append_assoc, List.singleton_append, ← trimEnd_eq]

theorem trimEnd_cons_of_not_blank (h : isBlank c = false) (cs : List Char) :
    trimEnd (c :: cs) = c :: trimEnd cs :=
  trimEnd_append_cons h [] cs

theorem trim_append_cons (h : isBlank c = false) (l r : List Char) :
    trim (l ++ c :: r) = trimStart l ++ c :: trimEnd r := by
  rw [trim, trimStart_append_cons h, trimEnd_append_cons h]

theorem trim_of_blank (h : Blank cs) : trim cs = [] := by
  rw [trim, trimStart_of_blank h]
  rfl

theorem trimEnd_of_solid (h : Solid cs) : trimEnd cs = cs := by
  induction cs with
  | nil => rfl
  | cons c cs ih =>
      obtain ⟨hc, hcs⟩ := List.forall_mem_cons.mp h
      rw [trimEnd_cons_of_not_blank hc, ih hcs]

/-! ### Blanks around a text without blanks -/

namespace Padded

variable {text padded : List Char}

theorem reverse (h : Padded text padded) : Padded text.reverse padded.reverse := by
  obtain ⟨before, after, hb, ha, rfl⟩ := h
  refine ⟨after.reverse, before.reverse, ?_, ?_, ?_⟩
  · exact fun c hc => ha c (List.mem_reverse.mp hc)
  · exact fun c hc => hb c (List.mem_reverse.mp hc)
  · simp

theorem ne_nil (h : Padded text padded) (hne : text ≠ []) : padded ≠ [] := by
  obtain ⟨before, after, -, -, rfl⟩ := h
  simp [hne]

theorem exists_trimStart_eq (h : Padded text padded) (hs : Solid text) :
    ∃ after, Blank after ∧ trimStart padded = text ++ after := by
  obtain ⟨before, after, hb, ha, rfl⟩ := h
  rw [List.append_assoc, trimStart_append_of_blank hb]
  cases text with
  | nil => exact ⟨[], blank_nil, trimStart_of_blank ha⟩
  | cons c text =>
      obtain ⟨hc, -⟩ := List.forall_mem_cons.mp hs
      exact ⟨after, ha, trimStart_cons_of_not_blank hc _⟩

theorem trimStart (h : Padded text padded) (hs : Solid text) :
    Padded text (Text.trimStart padded) := by
  obtain ⟨after, ha, htrim⟩ := h.exists_trimStart_eq hs
  exact ⟨[], after, blank_nil, ha, htrim⟩

theorem trimEnd (h : Padded text padded) (hs : Solid text) :
    Padded text (Text.trimEnd padded) := by
  have reversed : Solid text.reverse := fun c hc => hs c (List.mem_reverse.mp hc)
  have trimmed := (h.reverse.trimStart reversed).reverse
  rwa [List.reverse_reverse] at trimmed

theorem trim_eq (h : Padded text padded) (hs : Solid text) : trim padded = text := by
  obtain ⟨after, ha, htrim⟩ := h.exists_trimStart_eq hs
  rw [trim, htrim, trimEnd_append_of_blank ha, trimEnd_of_solid hs]

end Padded

/-! ### Trimmed texts -/

theorem trimStart_suffix_self (cs : List Char) : trimStart cs <:+ cs := List.dropWhile_suffix isBlank

theorem exists_blank_append_trimStart (cs : List Char) :
    ∃ blanks, Blank blanks ∧ cs = blanks ++ trimStart cs :=
  ⟨cs.takeWhile isBlank, fun _ => List.mem_takeWhile_imp, List.takeWhile_append_dropWhile.symm⟩

theorem trimEnd_prefix_self (cs : List Char) : trimEnd cs <+: cs := by
  have dropped : trimStart cs.reverse <:+ cs.reverse := trimStart_suffix_self cs.reverse
  rw [trimEnd_eq, ← List.reverse_suffix, List.reverse_reverse]
  exact dropped

theorem trim_infix_self (cs : List Char) : trim cs <:+: cs :=
  (trimEnd_prefix_self _).isInfix.trans (trimStart_suffix_self cs).isInfix

/-- A text is its trimmed text with blanks around it. -/
theorem padded_trim (cs : List Char) : Padded (trim cs) cs := by
  obtain ⟨before, hb, hstart⟩ := exists_blank_append_trimStart cs
  obtain ⟨after, ha, hend⟩ := exists_blank_append_trimStart (trimStart cs).reverse
  have joined : trimStart cs = trim cs ++ after.reverse := by
    rw [trim, trimEnd_eq, ← List.reverse_append, ← hend, List.reverse_reverse]
  refine ⟨before, after.reverse, hb, fun c hc => ha c (List.mem_reverse.mp hc), ?_⟩
  rw [List.append_assoc, ← joined]
  exact hstart

theorem trim_eq_nil_iff : trim cs = [] ↔ Blank cs := by
  refine ⟨fun h => ?_, trim_of_blank⟩
  obtain ⟨before, after, hb, ha, hcs⟩ := padded_trim cs
  rw [hcs, h, List.append_nil]
  exact List.forall_mem_append.mpr ⟨hb, ha⟩

theorem trimStart_of_trim_eq_self (h : trim cs = cs) : trimStart cs = cs := by
  have shorter : (trim cs).length ≤ (trimStart cs).length := (trimEnd_prefix_self _).length_le
  rw [h] at shorter
  exact (trimStart_suffix_self cs).eq_of_length_le shorter

theorem trimEnd_of_trim_eq_self (h : trim cs = cs) : trimEnd cs = cs := by
  rw [trim, trimStart_of_trim_eq_self h] at h
  exact h

/-- What trimming at the start leaves begins with a character that is not blank. -/
theorem not_blank_of_trimStart_eq_cons (h : trimStart cs = c :: r) : isBlank c = false := by
  have kept : trimStart (c :: r) = c :: r := by
    rw [← h]
    exact List.dropWhile_idempotent isBlank cs
  cases hc : isBlank c with
  | false => rfl
  | true =>
      rw [trimStart, List.dropWhile_cons_of_pos hc] at kept
      have shorter := (List.dropWhile_suffix isBlank (l := r)).length_le
      rw [kept, List.length_cons] at shorter
      exact absurd shorter (Nat.not_succ_le_self _)

theorem trimStart_append_of_eq_self (h : trimStart cs = cs) (hne : cs ≠ []) (rest : List Char) :
    trimStart (cs ++ rest) = cs ++ rest := by
  obtain ⟨c, cs, rfl⟩ := List.exists_cons_of_ne_nil hne
  exact trimStart_cons_of_not_blank (not_blank_of_trimStart_eq_cons h) _

/-- The first part of a trimmed text begins with no blank. -/
theorem head?_trim_of_append (h : trim (l ++ r) = l ++ r) (hne : trim l ≠ []) :
    (trim l).head? = (l ++ r).head? := by
  cases l with
  | nil => exact absurd rfl hne
  | cons c l =>
      have hc := not_blank_of_trimStart_eq_cons (trimStart_of_trim_eq_self h)
      rw [trim, trimStart_cons_of_not_blank hc, trimEnd_cons_of_not_blank hc]
      rfl

/-- A blank text is no first part of a trimmed text, unless it is empty. -/
theorem trim_eq_nil_iff_of_append (h : trim (l ++ r) = l ++ r) : trim l = [] ↔ l = [] := by
  refine ⟨fun hl => ?_, fun hl => hl ▸ trim_nil⟩
  cases l with
  | nil => rfl
  | cons c l =>
      have hc := not_blank_of_trimStart_eq_cons (trimStart_of_trim_eq_self h)
      have blank : isBlank c = true := trim_eq_nil_iff.mp hl c List.mem_cons_self
      exact absurd (hc.symm.trans blank) Bool.false_ne_true

/-- Trimming leaves nothing to trim. -/
theorem trim_trim (cs : List Char) : trim (trim cs) = trim cs := by
  have hstart : trimStart (trim cs) = trim cs := by
    cases h : trimStart cs with
    | nil =>
        rw [trim, h]
        rfl
    | cons c rest =>
        have hc := not_blank_of_trimStart_eq_cons h
        rw [trim, h, trimEnd_cons_of_not_blank hc, trimStart_cons_of_not_blank hc]
  have hend : trimEnd (trim cs) = trim cs := by
    rw [trim, trimEnd_eq (trimEnd _), trimEnd_eq, List.reverse_reverse]
    exact congrArg List.reverse (List.dropWhile_idempotent isBlank _)
  rw [trim, hstart, hend]

/-! ### Words -/

theorem wordsFrom_append_of_solid (h : Solid cs) (word rest : List Char) :
    wordsFrom word (cs ++ rest) = wordsFrom (cs.reverse ++ word) rest := by
  induction cs generalizing word with
  | nil => rfl
  | cons c cs ih =>
      obtain ⟨hc, hcs⟩ := List.forall_mem_cons.mp h
      rw [List.cons_append, wordsFrom, if_neg (by simp [hc]), ih hcs]
      simp

theorem words_append_of_blank (h : Blank before) (cs : List Char) :
    words (before ++ cs) = words cs := by
  induction before with
  | nil => rfl
  | cons c before ih =>
      obtain ⟨hc, hb⟩ := List.forall_mem_cons.mp h
      rw [← ih hb, words, List.cons_append, wordsFrom, if_pos hc, List.isEmpty_nil, if_pos rfl,
        words]

theorem words_of_blank (h : Blank cs) : words cs = [] := by
  have rest := words_append_of_blank h []
  rwa [List.append_nil] at rest

/-- The first word ends at the end of the text or at a blank. -/
theorem words_append (hs : Solid word) (hne : word ≠ []) {rest : List Char}
    (hrest : ∀ c ∈ rest.head?, isBlank c = true) : words (word ++ rest) = word :: words rest := by
  rw [words, wordsFrom_append_of_solid hs, List.append_nil]
  cases rest with
  | nil => simp [words, wordsFrom, hne]
  | cons c rest =>
      have hc : isBlank c = true := hrest c rfl
      simp [words, wordsFrom, hc, hne]

/-- A text is blank, or it begins with its first word behind blanks and goes on with a blank. -/
theorem blank_or_first_word (cs : List Char) :
    Blank cs ∨ ∃ before word rest, Blank before ∧ Solid word ∧ word ≠ [] ∧
      (∀ c ∈ rest.head?, isBlank c = true) ∧ cs = before ++ (word ++ rest) := by
  obtain ⟨before, hb, hcs⟩ := exists_blank_append_trimStart cs
  cases hstart : trimStart cs with
  | nil =>
      rw [hstart, List.append_nil] at hcs
      exact .inl (hcs ▸ hb)
  | cons c r =>
      have hc := not_blank_of_trimStart_eq_cons hstart
      refine .inr ⟨before, (c :: r).takeWhile (!isBlank ·), (c :: r).dropWhile (!isBlank ·), hb,
        ?_, ?_, ?_, ?_⟩
      · intro x hx
        simpa using List.mem_takeWhile_imp hx
      · simp [hc]
      · intro x hx
        simpa [Option.mem_def.mp hx] using List.head?_dropWhile_not (!isBlank ·) (c :: r)
      · rw [List.takeWhile_append_dropWhile, ← hstart]
        exact hcs

theorem words_eq_nil_iff : words cs = [] ↔ Blank cs := by
  refine ⟨fun h => ?_, words_of_blank⟩
  rcases blank_or_first_word cs with hcs | ⟨before, word, rest, hb, hs, hne, hrest, rfl⟩
  · exact hcs
  · rw [words_append_of_blank hb, words_append hs hne hrest] at h
    cases h

/-- The first word of a text and the text behind it. -/
theorem words_eq_cons_iff {others : List (List Char)} :
    words cs = word :: others ↔ ∃ before rest, Blank before ∧ Solid word ∧ word ≠ [] ∧
      (∀ c ∈ rest.head?, isBlank c = true) ∧ words rest = others ∧
      cs = before ++ (word ++ rest) := by
  constructor
  · intro h
    rcases blank_or_first_word cs with hcs | ⟨before, first, rest, hb, hs, hne, hrest, rfl⟩
    · rw [words_of_blank hcs] at h
      cases h
    · rw [words_append_of_blank hb, words_append hs hne hrest] at h
      obtain ⟨rfl, rfl⟩ := List.cons.inj h
      exact ⟨before, rest, hb, hs, hne, hrest, rfl, rfl⟩
  · rintro ⟨before, rest, hb, hs, hne, hrest, rfl, rfl⟩
    rw [words_append_of_blank hb, words_append hs hne hrest]

/-- A text of two words has blanks around and between them. -/
theorem words_eq_pair_iff {second : List Char} :
    words cs = [word, second] ↔ ∃ before gap after, Blank before ∧ Blank gap ∧ gap ≠ [] ∧
      Blank after ∧ Solid word ∧ word ≠ [] ∧ Solid second ∧ second ≠ [] ∧
      cs = before ++ word ++ gap ++ second ++ after := by
  constructor
  · intro h
    obtain ⟨before, rest, hb, hs, hne, hgap, hrest, rfl⟩ := words_eq_cons_iff.mp h
    obtain ⟨gap, after, hg, hs', hne', -, hafter, rfl⟩ := words_eq_cons_iff.mp hrest
    refine ⟨before, gap, after, hb, hg, ?_, words_eq_nil_iff.mp hafter, hs, hne, hs', hne',
      by simp⟩
    -- Without blanks in between, the first word would go on with the second.
    rintro rfl
    obtain ⟨c, second, rfl⟩ := List.exists_cons_of_ne_nil hne'
    exact Bool.false_ne_true ((hs' c List.mem_cons_self).symm.trans (hgap c rfl))
  · rintro ⟨before, gap, after, hb, hg, hgne, ha, hs, hne, hs', hne', rfl⟩
    have separated : ∀ c ∈ (gap ++ (second ++ after)).head?, isBlank c = true := by
      rw [List.head?_append_of_ne_nil gap hgne]
      exact hg.head?
    simp only [List.append_assoc]
    rw [words_append_of_blank hb, words_append hs hne separated, words_append_of_blank hg,
      words_append hs' hne' ha.head?, words_of_blank ha]

theorem words_trimStart (cs : List Char) : words (trimStart cs) = words cs := by
  obtain ⟨before, hb, hcs⟩ := exists_blank_append_trimStart cs
  conv_rhs => rw [hcs]
  exact (words_append_of_blank hb _).symm

theorem mem_wordsFrom {w : List Char} (hword : Solid word) (h : w ∈ wordsFrom word cs) :
    w ≠ [] ∧ Solid w ∧ ∀ c ∈ w, c ∈ word ∨ c ∈ cs := by
  have full : ∀ {l : List Char}, Solid l → ¬ l.isEmpty = true →
      l.reverse ≠ [] ∧ Solid l.reverse ∧ ∀ c ∈ l.reverse, c ∈ l := by
    intro l hl hne
    refine ⟨by simpa using hne, fun c hc => hl c (List.mem_reverse.mp hc), ?_⟩
    exact fun c hc => List.mem_reverse.mp hc
  induction cs generalizing word with
  | nil =>
      rw [wordsFrom] at h
      split at h
      · cases h
      · next hne =>
          obtain rfl := List.mem_singleton.mp h
          obtain ⟨hw, hs, hsub⟩ := full hword hne
          exact ⟨hw, hs, fun c hc => .inl (hsub c hc)⟩
  | cons x cs ih =>
      have later : ∀ {word' : List Char}, Solid word' → (∀ c ∈ word', c ∈ word ∨ c = x) →
          w ∈ wordsFrom word' cs → w ≠ [] ∧ Solid w ∧ ∀ c ∈ w, c ∈ word ∨ c ∈ x :: cs := by
        intro word' hs hsub hw
        obtain ⟨hne, hsolid, hchars⟩ := ih hs hw
        refine ⟨hne, hsolid, fun c hc => ?_⟩
        grind
      rw [wordsFrom] at h
      split at h
      · split at h
        · exact later (by simp [Solid]) (by simp) h
        · next hne =>
            rcases List.mem_cons.mp h with rfl | h
            · obtain ⟨hw, hs, hsub⟩ := full hword hne
              exact ⟨hw, hs, fun c hc => .inl (hsub c hc)⟩
            · exact later (by simp [Solid]) (by simp) h
      · next hx =>
          refine later ?_ (by grind) h
          exact List.forall_mem_cons.mpr ⟨Bool.eq_false_iff.mpr hx, hword⟩

/-- A word has letters, no blanks, and only characters of the text. -/
theorem mem_words {w : List Char} (h : w ∈ words cs) : w ≠ [] ∧ Solid w ∧ w ⊆ cs := by
  obtain ⟨hne, hsolid, hchars⟩ := mem_wordsFrom (by simp [Solid]) h
  exact ⟨hne, hsolid, fun c hc => (hchars c hc).resolve_left List.not_mem_nil⟩

end ScalingMetrics.Text
