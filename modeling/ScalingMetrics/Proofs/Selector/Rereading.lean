import ScalingMetrics.Proofs.Selector.Nesting
import ScalingMetrics.Proofs.Selector.Written

/-!
# Reading the text of a selector again

The text of a selector that was read is cut into the texts of its terms again. Most of these are
read as the terms that they were written from. The exceptions are labels whose key ends in an
exclamation mark or whose value begins with an equals sign, and exclusions of no value or of a key
with blanks inside.

## Implementation notes

A term is described by the form that it was read in. An exclusion can be read in two forms, but is
written in one of them only.
-/

namespace ScalingMetrics

/-- A requirement that can be told from its text. Only an exclusion cannot: one of no value is
written with an empty value set, and the word behind a blank in a key is read as its operator. -/
def Requirement.Recoverable (r : Requirement) : Prop :=
  r.operator = .notIn → Text.Solid r.key.toList ∧ r.values ≠ [""]

namespace Selector

open Text

/-! ### Terms as they are read -/

/-- A text without blanks at its ends and without the signs that the cutting into terms looks for
first. -/
structure Clipped (s : String) : Prop where
  trimmed : trim s.toList = s.toList
  unopened : '(' ∉ s.toList
  unparted : ',' ∉ s.toList

/-- What reading guarantees of a term, by the form that it is read in. -/
inductive Legible : Term → Prop
  | equal {k v} (hk : Clipped k) (hne : k ≠ "") (hv : Clipped v) (hsign : '=' ∉ k.toList)
      (hmark : k.toList.head? ≠ some '!') (hpair : ¬ ['!', '='] <:+: v.toList) :
      Legible (.equal k v)
  | notEqual {k v} (hk : Clipped k) (hne : k ≠ "") (hv : Clipped v) :
      Legible (.requires ⟨k, .notIn, [v]⟩)
  | noKey {k} (hk : Clipped k) (hne : k ≠ "") : Legible (.requires ⟨k, .doesNotExist, []⟩)
  | key {k} (hk : Clipped k) (hne : k ≠ "") (hsign : '=' ∉ k.toList)
      (hmark : k.toList.head? ≠ some '!') : Legible (.requires ⟨k, .exists, []⟩)
  | set {k op word vs} (hk : Clipped k) (hne : k ≠ "") (hsolid : Solid k.toList)
      (hword : setWord? op = some word)
      (hvs : ∀ v ∈ vs, v ≠ "" ∧ trim v.toList = v.toList ∧ ',' ∉ v.toList)
      (nested : nesting? 1 ((joinStrings "," vs).toList ++ [')']) = some 0) :
      Legible (.requires ⟨k, op, vs⟩)

variable {s : Selector} {t : Term} {r : Requirement} {k v word : String} {op : Operator}
  {vs : List String} {term l : List Char}

theorem readKey_eq_ok_iff {key : List Char} :
    readKey term key = .ok k ↔ k ≠ "" ∧ k.toList = trim key := by
  rw [readKey]
  cases htrim : trim key with
  | nil => simp
  | cons c cs =>
      simp only [Except.ok.injEq]
      constructor
      · rintro rfl
        exact ⟨by simp [← String.toList_inj], String.toList_ofList⟩
      · rintro ⟨-, hk⟩
        rw [← hk, String.ofList_toList]

/-- What trimming leaves of a part of a term without signs. -/
theorem clipped_of_infix (hopen : '(' ∉ term) (hcomma : ',' ∉ term) (hl : l <:+: term)
    (hv : v.toList = trim l) : Clipped v := by
  have part : v.toList <:+: term := hv ▸ (trim_infix_self l).trans hl
  refine ⟨?_, fun h => hopen (part.subset h), fun h => hcomma (part.subset h)⟩
  rw [hv, trim_trim]

theorem dropLeading_suffix (sep : Char) (cs : List Char) : dropLeading sep cs <:+ cs := by
  cases cs with
  | nil => exact List.suffix_rfl
  | cons c cs =>
      rw [dropLeading]
      split
      · exact List.suffix_cons c cs
      · exact List.suffix_rfl

theorem legible_of_readPlainTerm (hopen : '(' ∉ term) (hcomma : ',' ∉ term)
    (trimmed : trim term = term) (h : readPlainTerm term = .ok t) : Legible t := by
  have clipped : ∀ {l : List Char} {v : String}, l <:+: term → v.toList = trim l → Clipped v :=
    clipped_of_infix hopen hcomma
  by_cases hhead : term.head? = some '!'
  · obtain ⟨key, rfl⟩ := List.head?_eq_some_iff.mp hhead
    obtain ⟨k, hk, rfl⟩ := map_eq_ok_iff.mp h
    obtain ⟨hne, hkey⟩ := readKey_eq_ok_iff.mp hk
    exact .noKey (clipped (List.suffix_cons '!' key).isInfix hkey) hne
  · rw [readPlainTerm_of_head? hhead] at h
    split at h
    · next key value hcut =>
        obtain rfl := cutPair?_eq_some hcut
        obtain ⟨k, hk, rfl⟩ := map_eq_ok_iff.mp h
        obtain ⟨hne, hkey⟩ := readKey_eq_ok_iff.mp hk
        have hvalue : value <:+: key ++ '!' :: '=' :: value :=
          ⟨key ++ ['!', '='], [], by simp⟩
        exact .notEqual (clipped (List.prefix_append key _).isInfix hkey) hne
          (clipped hvalue String.toList_ofList)
    · next hpair =>
        split at h
        · next key value hcut =>
            have hsign := not_mem_of_cut? hcut
            obtain rfl := cut?_eq_some hcut
            obtain ⟨k, hk, rfl⟩ := map_eq_ok_iff.mp h
            obtain ⟨hne, hkey⟩ := readKey_eq_ok_iff.mp hk
            have hvalue : dropLeading '=' value <:+: key ++ '=' :: value :=
              (dropLeading_suffix '=' value).isInfix.trans ⟨key ++ ['='], [], by simp⟩
            have hfull : trim key ≠ [] := by
              rw [← hkey, ne_eq, String.toList_eq_nil_iff]
              exact hne
            refine .equal (clipped (List.prefix_append key _).isInfix hkey) hne
              (clipped hvalue String.toList_ofList) ?_ ?_ ?_
            · exact fun hmem => hsign ((trim_infix_self key).subset (hkey ▸ hmem))
            · rwa [hkey, head?_trim_of_append trimmed hfull]
            · rw [String.toList_ofList]
              intro hpart
              exact cutPair?_eq_none_iff.mp hpair (hpart.trans ((trim_infix_self _).trans hvalue))
        · next hcut =>
            obtain ⟨k, hk, rfl⟩ := map_eq_ok_iff.mp h
            obtain ⟨hne, hkey⟩ := readKey_eq_ok_iff.mp hk
            rw [trimmed] at hkey
            refine .key (clipped List.infix_rfl (hkey.trans trimmed.symm)) hne ?_ ?_
            · rw [hkey]
              exact cut?_eq_none_iff.mp hcut
            · rwa [hkey]

/-- A value set is read from the first two words before its first opening parenthesis and from the
text up to its last closing one. -/
theorem readSetTerm_eq_ok_iff {before after : List Char} :
    readSetTerm term before after = .ok t ↔ ∃ inside key word others op,
      beforeLast? ')' after = some inside ∧ words before = key :: word :: others ∧
        setOperator? word = some op ∧ t = .requires ⟨.ofList key, op, readValues inside⟩ := by
  rw [readSetTerm]
  cases beforeLast? ')' after with
  | none => simp
  | some inside =>
      rcases words before with _ | ⟨key, _ | ⟨word, others⟩⟩
      · simp
      · simp [setOperator?]
      · cases hop : setOperator? word <;> simp [hop, @eq_comm _ t]

theorem mem_readValues {inside : List Char} (h : v ∈ readValues inside) :
    v ≠ "" ∧ trim v.toList = v.toList ∧ ',' ∉ v.toList := by
  obtain ⟨text, htext, rfl⟩ := List.mem_map.mp h
  obtain ⟨hmem, hne⟩ := List.mem_filter.mp htext
  obtain ⟨piece, hpiece, rfl⟩ := List.mem_map.mp hmem
  rw [String.toList_ofList]
  refine ⟨?_, trim_trim piece, fun hcomma => ?_⟩
  · rw [ne_eq, ← String.toList_eq_nil_iff, String.toList_ofList]
    simpa using hne
  · exact not_mem_of_mem_splitOn hpiece ((trim_infix_self piece).subset hcomma)

theorem legible_of_readSetTerm {before after : List Char} (hopen : '(' ∉ before)
    (nested : nesting? 0 (before ++ '(' :: after) = some 0)
    (h : readSetTerm term before after = .ok t) : Legible t := by
  obtain ⟨inside, key, word, others, op, hinside, hwords, hop, rfl⟩ := readSetTerm_eq_ok_iff.mp h
  obtain ⟨text, hword, -⟩ := setOperator?_eq_some_iff.mp hop
  obtain ⟨trailing, rfl, hclose⟩ := beforeLast?_eq_some hinside
  obtain ⟨hne, hsolid, hpart⟩ : key ≠ [] ∧ Solid key ∧ key ⊆ before :=
    mem_words (hwords ▸ List.mem_cons_self)
  obtain ⟨hcomma, hafter⟩ := nesting?_behind_first_open hopen nested
  have closed := nesting?_concat_close hclose hafter
  rw [nesting?_append] at closed
  obtain ⟨f, hopened, hclosed⟩ := Option.bind_eq_some_iff.mp closed
  refine .set ⟨?_, ?_, ?_⟩ ?_ ?_ hword (fun v => mem_readValues) ?_
  · rw [String.toList_ofList]
    exact (Padded.refl key).trim_eq hsolid
  · rw [String.toList_ofList]
    exact fun hmem => hopen (hpart hmem)
  · rw [String.toList_ofList]
    exact fun hmem => hcomma (hpart hmem)
  · rw [ne_eq, ← String.toList_eq_nil_iff, String.toList_ofList]
    exact hne
  · rw [String.toList_ofList]
    exact hsolid
  · rw [nesting?_append, nesting?_readValues hopened]
    exact hclosed

/-- A term is legible if it was read from a trimmed piece of a string. -/
theorem legible_of_readTerm (nested : nesting? 0 term = some 0) (trimmed : trim term = term)
    (h : readTerm term = .ok t) : Legible t := by
  rw [readTerm] at h
  split at h
  · next before after hcut =>
      obtain rfl := cut?_eq_some hcut
      exact legible_of_readSetTerm (not_mem_of_cut? hcut) nested h
  · next hcut =>
      have hopen := cut?_eq_none_iff.mp hcut
      have hcomma := ((nesting?_eq_some_of_unopened hopen).mp nested).2
      exact legible_of_readPlainTerm hopen hcomma trimmed h

/-! ### Texts of terms -/

theorem toList_renderLabel (k v : String) :
    (renderLabel (k, v)).toList = k.toList ++ '=' :: v.toList := by
  simp [renderLabel]

theorem toList_render_set (hword : setWord? op = some word) :
    (Requirement.render ⟨k, op, vs⟩).toList =
      k.toList ++ ' ' :: (word.toList ++ ' ' :: '(' :: ((joinStrings "," vs).toList ++ [')'])) := by
  cases op with
  | isIn =>
      obtain rfl := Option.some.inj hword
      simp [Requirement.render]
  | notIn =>
      obtain rfl := Option.some.inj hword
      simp [Requirement.render]
  | «exists» => cases hword
  | doesNotExist => cases hword

/-- What stands before a value set. -/
theorem head_of_setWord? (hopen : '(' ∉ k.toList) (hcomma : ',' ∉ k.toList)
    (hword : setWord? op = some word) :
    '(' ∉ k.toList ++ ' ' :: (word.toList ++ [' ']) ∧
      ',' ∉ k.toList ++ ' ' :: (word.toList ++ [' ']) := by
  have bare := (setWord?_eq_some hword).1.2.bare
  have hopen' : '(' ∉ word.toList := bare.not_mem (by decide)
  have hcomma' : ',' ∉ word.toList := bare.not_mem (by decide)
  simp [hopen, hcomma, hopen', hcomma']

theorem nesting?_render_set (hk : Clipped k) (hword : setWord? op = some word)
    (nested : nesting? 1 ((joinStrings "," vs).toList ++ [')']) = some 0) :
    nesting? 0 (Requirement.render ⟨k, op, vs⟩).toList = some 0 := by
  obtain ⟨hopen, hcomma⟩ := head_of_setWord? hk.unopened hk.unparted hword
  have head : nesting? 0 (k.toList ++ ' ' :: (word.toList ++ [' '])) = some 0 :=
    (nesting?_eq_some_of_unopened hopen).mpr ⟨rfl, hcomma⟩
  have chars : (Requirement.render ⟨k, op, vs⟩).toList =
      (k.toList ++ ' ' :: (word.toList ++ [' '])) ++
        '(' :: ((joinStrings "," vs).toList ++ [')']) := by
    rw [toList_render_set hword]
    simp
  rw [chars, nesting?_append_open head]
  exact nested

/-- A value that was read without parentheses closes the value set that it is written in. -/
theorem Clipped.nested (hv : Clipped v) :
    nesting? 1 ((joinStrings "," [v]).toList ++ [')']) = some 0 := by
  obtain ⟨e, he, hvalue⟩ := exists_nesting?_le 1 hv.unopened hv.unparted
  rw [joinStrings, nesting?_append_close hvalue, nesting?]
  exact congrArg some (Nat.sub_eq_zero_of_le he)

theorem Clipped.trimStart_append (hk : Clipped k) (hne : k ≠ "") (rest : List Char) :
    trimStart (k.toList ++ rest) = k.toList ++ rest :=
  trimStart_append_of_eq_self (trimStart_of_trim_eq_self hk.trimmed)
    (mt String.toList_eq_nil_iff.mp hne) rest

theorem trim_render_set (hk : Clipped k) (hne : k ≠ "") (hword : setWord? op = some word) :
    trim (Requirement.render ⟨k, op, vs⟩).toList = (Requirement.render ⟨k, op, vs⟩).toList := by
  have chars : (Requirement.render ⟨k, op, vs⟩).toList =
      (k.toList ++ ' ' :: (word.toList ++ ' ' :: '(' :: (joinStrings "," vs).toList)) ++ [')'] := by
    rw [toList_render_set hword]
    simp
  rw [chars, trim_append_cons (by decide), hk.trimStart_append hne]
  rfl

/-- The text of a legible term is a trimmed piece of a string. -/
theorem Legible.text (h : Legible t) :
    nesting? 0 (renderTerm t).toList = some 0 ∧
      trim (renderTerm t).toList = (renderTerm t).toList ∧ (renderTerm t).toList ≠ [] := by
  have plain : ∀ {text : List Char}, '(' ∉ text → ',' ∉ text → nesting? 0 text = some 0 :=
    fun hopen hcomma => (nesting?_eq_some_of_unopened hopen).mpr ⟨rfl, hcomma⟩
  have nonempty : ∀ {k op word vs}, setWord? op = some word →
      (Requirement.render ⟨k, op, vs⟩).toList ≠ [] := by
    intro k op word vs hword
    simp [toList_render_set hword]
  cases h with
  | @equal k v hk hne hv hsign hmark hpair =>
      rw [renderTerm, toList_renderLabel]
      refine ⟨plain ?_ ?_, ?_, by simp⟩
      · simp [hk.unopened, hv.unopened]
      · simp [hk.unparted, hv.unparted]
      · have kept := hk.trimStart_append hne []
        rw [List.append_nil] at kept
        rw [trim_append_cons (by decide), kept, trimEnd_of_trim_eq_self hv.trimmed]
  | @notEqual k v hk hne hv =>
      have word : setWord? .notIn = some "notin" := rfl
      rw [renderTerm]
      exact ⟨nesting?_render_set hk word hv.nested, trim_render_set hk hne word, nonempty word⟩
  | @noKey k hk hne =>
      have chars : (renderTerm (.requires ⟨k, .doesNotExist, []⟩)).toList = '!' :: k.toList := by
        simp [renderTerm, Requirement.render]
      rw [chars]
      refine ⟨plain ?_ ?_, ?_, by simp⟩
      · simp [hk.unopened]
      · simp [hk.unparted]
      · have trimmed := trim_append_cons (c := '!') (by decide) [] k.toList
        rwa [trimEnd_of_trim_eq_self hk.trimmed] at trimmed
  | @key k hk hne hsign hmark =>
      exact ⟨plain hk.unopened hk.unparted, hk.trimmed, mt String.toList_eq_nil_iff.mp hne⟩
  | @set k op word vs hk hne hsolid hword hvs nested =>
      rw [renderTerm]
      exact ⟨nesting?_render_set hk hword nested, trim_render_set hk hne hword, nonempty hword⟩

/-! ### Reading the texts of terms -/

/-- A value set is read as its values that are not empty. -/
theorem readValues_joinStrings (hvs : ∀ v ∈ vs, trim v.toList = v.toList ∧ ',' ∉ v.toList) :
    readValues (joinStrings "," vs).toList = vs.filter fun v => v ≠ "" := by
  cases vs with
  | nil => rfl
  | cons first rest =>
      have untrimmed : ((first :: rest).map String.toList).map trim =
          (first :: rest).map String.toList := by
        rw [List.map_map]
        exact List.map_congr_left fun v hv => (hvs v hv).1
      have full : (fun text : List Char => !text.isEmpty) ∘ String.toList =
          fun v : String => decide (v ≠ "") := by
        funext v
        rw [Bool.eq_iff_iff]
        simp
      have chars : String.ofList ∘ String.toList = id := funext fun _ => String.ofList_toList
      rw [readValues,
        splitOn_joinStrings rfl (List.cons_ne_nil first rest) fun v hv => (hvs v hv).2, untrimmed,
        List.filter_map, full, List.map_map, chars, List.map_id]

theorem readTerm_render_set (hopen : '(' ∉ k.toList) (hword : setWord? op = some word) :
    readTerm (Requirement.render ⟨k, op, vs⟩).toList =
      readSetTerm (Requirement.render ⟨k, op, vs⟩).toList
        (k.toList ++ ' ' :: (word.toList ++ [' '])) ((joinStrings "," vs).toList ++ [')']) := by
  have chars : (Requirement.render ⟨k, op, vs⟩).toList =
      (k.toList ++ ' ' :: (word.toList ++ [' '])) ++
        '(' :: ((joinStrings "," vs).toList ++ [')']) := by
    rw [toList_render_set hword]
    simp
  have unopened : '(' ∉ k.toList ++ ' ' :: (word.toList ++ [' ']) := by
    have hopen' : '(' ∉ word.toList := (setWord?_eq_some hword).1.2.bare.not_mem (by decide)
    simp [hopen, hopen']
  have cut := cut?_append_cons unopened ((joinStrings "," vs).toList ++ [')'])
  rw [← chars] at cut
  rw [readTerm, cut]

/-- A requirement on a key without blanks is read again, up to empty values. -/
theorem readTerm_render_set_of_solid (hk : Clipped k) (hne : k ≠ "") (hsolid : Solid k.toList)
    (hword : setWord? op = some word)
    (hvs : ∀ v ∈ vs, trim v.toList = v.toList ∧ ',' ∉ v.toList) :
    readTerm (Requirement.render ⟨k, op, vs⟩).toList =
      .ok (.requires ⟨k, op, vs.filter fun v => v ≠ ""⟩) := by
  obtain ⟨token, operator⟩ := setWord?_eq_some hword
  have space : Blank [' '] := by simp [Blank, isBlank]
  have head : words (k.toList ++ ' ' :: (word.toList ++ [' '])) = [k.toList, word.toList] :=
    words_eq_pair_iff.mpr ⟨[], [' '], [' '], blank_nil, space, by simp, space, hsolid,
      mt String.toList_eq_nil_iff.mp hne, token.2.solid, token.toList_ne_nil, by simp⟩
  rw [readTerm_render_set hk.unopened hword, readSetTerm, beforeLast?_concat, head]
  dsimp only
  rw [List.headD_cons, operator]
  dsimp only
  rw [readValues_joinStrings hvs, String.ofList_toList]

/-- The key that is read from the text of a value set has no blanks. -/
theorem solid_of_readTerm_render_set (hopen : '(' ∉ k.toList) (hword : setWord? op = some word)
    (h : readTerm (Requirement.render ⟨k, op, vs⟩).toList = .ok t) :
    ∃ r, t = .requires r ∧ Solid r.key.toList := by
  rw [readTerm_render_set hopen hword] at h
  obtain ⟨inside, key, word', others, op', -, hwords, -, rfl⟩ := readSetTerm_eq_ok_iff.mp h
  have solid : Solid key := (mem_words (hwords ▸ List.mem_cons_self)).2.1
  refine ⟨_, rfl, ?_⟩
  rwa [String.toList_ofList]

theorem Legible.readTerm_requires (h : Legible (.requires r)) :
    (readTerm r.render.toList = .ok (.requires r) ↔ r.Recoverable) ∧
      ∀ t, readTerm r.render.toList = .ok t → ∃ r', t = .requires r' := by
  -- A text that is read as its term is read as no other.
  have recovered : ∀ {r : Requirement}, readTerm r.render.toList = .ok (.requires r) →
      r.Recoverable → (readTerm r.render.toList = .ok (.requires r) ↔ r.Recoverable) ∧
        ∀ t, readTerm r.render.toList = .ok t → ∃ r', t = .requires r' := by
    intro r hread hr
    refine ⟨iff_of_true hread hr, fun t ht => ⟨r, ?_⟩⟩
    exact Except.ok.inj (ht.symm.trans hread)
  cases h with
  | @notEqual k v hk hne hv =>
      have word : setWord? .notIn = some "notin" := rfl
      have solid : ∀ t, readTerm (Requirement.render ⟨k, .notIn, [v]⟩).toList = .ok t →
          ∃ r, t = .requires r ∧ Solid r.key.toList :=
        fun _ => solid_of_readTerm_render_set hk.unopened word
      refine ⟨⟨?_, ?_⟩, fun t ht => ?_⟩
      · intro hread _
        obtain ⟨r', hr', hsolid⟩ := solid _ hread
        obtain rfl := Term.requires.inj hr'
        refine ⟨hsolid, ?_⟩
        rintro hempty
        have values : ∀ w ∈ [v], trim w.toList = w.toList ∧ ',' ∉ w.toList := by
          simp [hv.trimmed, hv.unparted]
        rw [readTerm_render_set_of_solid hk hne hsolid word values] at hread
        cases hempty
        cases hread
      · intro hr
        obtain ⟨hsolid, hfull⟩ := hr rfl
        have values : ∀ w ∈ [v], trim w.toList = w.toList ∧ ',' ∉ w.toList := by
          simp [hv.trimmed, hv.unparted]
        have kept : [v].filter (fun w => w ≠ "") = [v] := by simpa using hfull
        rw [readTerm_render_set_of_solid hk hne hsolid word values, kept]
      · obtain ⟨r', hr', -⟩ := solid t ht
        exact ⟨r', hr'⟩
  | @noKey k hk hne =>
      have chars : (Requirement.render ⟨k, .doesNotExist, []⟩).toList = '!' :: k.toList := by
        simp [Requirement.render]
      have unopened : '(' ∉ '!' :: k.toList := by simp [hk.unopened]
      refine recovered ?_ fun hop => by cases hop
      rw [chars, readTerm_of_not_mem unopened, readPlainTerm,
        readKey_eq_ok_iff.mpr ⟨hne, hk.trimmed.symm⟩]
      rfl
  | @key k hk hne hsign hmark =>
      have unpaired : cutPair? '!' '=' k.toList = none :=
        cutPair?_eq_none_iff.mpr fun hpair => hsign (hpair.subset (by simp))
      refine recovered ?_ fun hop => by cases hop
      change readTerm k.toList = _
      rw [readTerm_of_not_mem hk.unopened, readPlainTerm_of_head? hmark, unpaired,
        cut?_eq_none_iff.mpr hsign, readKey_eq_ok_iff.mpr ⟨hne, hk.trimmed.symm⟩]
      rfl
  | @set k op word vs hk hne hsolid hword hvs nested =>
      apply recovered
      · have kept : vs.filter (fun v => v ≠ "") = vs :=
          List.filter_eq_self.mpr fun v hv => decide_eq_true (hvs v hv).1
        rw [readTerm_render_set_of_solid hk hne hsolid hword fun v hv => (hvs v hv).2, kept]
      · rintro -
        refine ⟨hsolid, ?_⟩
        rintro rfl
        exact (hvs "" List.mem_cons_self).1 rfl

/-- The text of a label is read as a label up to an equals sign before the value, unless the key
ends in an exclamation mark, which makes it an exclusion. -/
theorem Legible.readTerm_equal (h : Legible (.equal k v)) :
    (k.toList.getLast? ≠ some '!' → readTerm (renderLabel (k, v)).toList =
        .ok (.equal k (.ofList (trim (dropLeading '=' v.toList))))) ∧
      (k.toList.getLast? = some '!' → ∀ t, readTerm (renderLabel (k, v)).toList = .ok t →
        ∃ r, t = .requires r) := by
  cases h with
  | equal hk hne hv hsign hmark hpair =>
      have hfull := mt String.toList_eq_nil_iff.mp hne
      have unopened : '(' ∉ k.toList ++ '=' :: v.toList := by simp [hk.unopened, hv.unopened]
      have unmarked : (k.toList ++ '=' :: v.toList).head? ≠ some '!' := by
        rwa [List.head?_append_of_ne_nil _ hfull]
      rw [toList_renderLabel, readTerm_of_not_mem unopened, readPlainTerm_of_head? unmarked]
      constructor
      · intro hlast
        have unpaired : cutPair? '!' '=' (k.toList ++ '=' :: v.toList) = none :=
          cutPair?_append_cons (by decide) hsign hlast (cutPair?_eq_none_iff.mpr hpair)
        rw [unpaired, cut?_append_cons hsign]
        dsimp only
        rw [readKey_eq_ok_iff.mpr ⟨hne, hk.trimmed.symm⟩]
        rfl
      · intro hlast t ht
        obtain ⟨front, hfront⟩ := List.getLast?_eq_some_iff.mp hlast
        have paired : cutPair? '!' '=' (k.toList ++ '=' :: v.toList) ≠ none := by
          rw [ne_eq, cutPair?_eq_none_iff, not_not, hfront]
          exact ⟨front, v.toList, by simp⟩
        obtain ⟨⟨key, value⟩, hcut⟩ := Option.ne_none_iff_exists'.mp paired
        rw [hcut] at ht
        obtain ⟨key', -, rfl⟩ := map_eq_ok_iff.mp ht
        exact ⟨_, rfl⟩

/-! ### Selectors -/

/-- A selector of which every term can be told from its text. -/
structure Recoverable (s : Selector) : Prop where
  labels : ∀ e ∈ s.matchLabels.entries,
    e.1.toList.getLast? ≠ some '!' ∧ e.2.toList.head? ≠ some '='
  requirements : ∀ r ∈ s.matchExpressions, r.Recoverable

theorem readTerms_cons_eq_ok_iff {x : List Char} {xs : List (List Char)} {ts : List Term} :
    readTerms (x :: xs) = .ok ts ↔
      ∃ t rest, readTerm x = .ok t ∧ readTerms xs = .ok rest ∧ ts = t :: rest := by
  rw [readTerms]
  cases readTerm x with
  | error e => simp
  | ok t => simp [map_eq_ok_iff, @eq_comm _ ts]

theorem readTerms_append_eq_ok_iff {xs ys : List (List Char)} {ts : List Term} :
    readTerms (xs ++ ys) = .ok ts ↔
      ∃ us vs, readTerms xs = .ok us ∧ readTerms ys = .ok vs ∧ ts = us ++ vs := by
  constructor
  · intro h
    induction xs generalizing ts with
    | nil => exact ⟨[], ts, rfl, h, rfl⟩
    | cons x xs ih =>
        obtain ⟨t, rest, ht, hrest, rfl⟩ := readTerms_cons_eq_ok_iff.mp h
        obtain ⟨us, vs, hus, hvs, rfl⟩ := ih hrest
        exact ⟨t :: us, vs, readTerms_cons_eq_ok_iff.mpr ⟨t, us, ht, hus, rfl⟩, hvs, rfl⟩
  · rintro ⟨us, vs, hus, hvs, rfl⟩
    exact readTerms_append hus hvs

theorem legible_of_readTerms {xs : List (List Char)} {ts : List Term}
    (h : readTerms xs = .ok ts) (hxs : ∀ x ∈ xs, nesting? 0 x = some 0 ∧ trim x = x) :
    ∀ t ∈ ts, Legible t := by
  induction xs generalizing ts with
  | nil =>
      obtain rfl := Except.ok.inj h
      simp
  | cons x xs ih =>
      obtain ⟨⟨nested, trimmed⟩, hrest⟩ := List.forall_mem_cons.mp hxs
      obtain ⟨t, rest, ht, hread, rfl⟩ := readTerms_cons_eq_ok_iff.mp h
      exact List.forall_mem_cons.mpr ⟨legible_of_readTerm nested trimmed ht, ih hread hrest⟩

/-- The terms of a conjunction are among those that it was made of. -/
theorem mem_of_mem_terms_ofTerms {ts : List Term} (h : t ∈ (ofTerms ts).terms) : t ∈ ts := by
  rcases List.mem_append.mp h with h | h
  · obtain ⟨⟨k, v⟩, hentry, rfl⟩ := List.mem_map.mp h
    have hget := SortedMap.get?_eq_some_iff.mpr hentry
    rw [ofTerms, SortedMap.get?_ofList] at hget
    obtain ⟨⟨k', v'⟩, hfind, rfl⟩ := Option.map_eq_some_iff.mp hget
    obtain rfl : k' = k := by simpa using List.find?_some hfind
    have hmem := List.mem_reverse.mp (List.mem_of_find?_eq_some hfind)
    obtain ⟨t, ht, hlabel⟩ := List.mem_filterMap.mp hmem
    cases t with
    | equal k v =>
        cases hlabel
        exact ht
    | requires r => cases hlabel
  · obtain ⟨r, hmem, rfl⟩ := List.mem_map.mp h
    obtain ⟨t, ht, hrequirement⟩ := List.mem_filterMap.mp hmem
    cases t with
    | equal k v => cases hrequirement
    | requires r =>
        cases hrequirement
        exact ht

theorem legible_of_parse {text : String} (h : parse text = .ok s) : ∀ t ∈ s.terms, Legible t := by
  obtain ⟨pieces, ts, hsplit, hread, rfl⟩ := parseChars_eq_ok_iff.mp h
  have legible : ∀ t ∈ ts, Legible t := by
    apply legible_of_readTerms hread
    intro x hx
    obtain ⟨piece, hpiece, rfl⟩ := List.mem_map.mp (List.mem_of_mem_filter hx)
    exact ⟨(nesting?_trim 0 piece).trans ((splitTerms_eq_ok_iff.mp hsplit).closed piece hpiece),
      trim_trim piece⟩
  exact fun t ht => legible t (mem_of_mem_terms_ofTerms ht)

/-- The text of a selector with legible terms is read term by term. -/
theorem parse_render (h : ∀ t ∈ s.terms, Legible t) :
    parse s.render = (readTerms (s.terms.map fun t => (renderTerm t).toList)).map ofTerms := by
  have render : s.render = joinStrings "," (s.terms.map renderTerm) := by
    rw [Selector.render, terms, List.map_append, List.map_map, List.map_map]
    rfl
  have texts : s.terms.map (fun t => (renderTerm t).toList) =
      (s.terms.map renderTerm).map String.toList := by
    rw [List.map_map]
    rfl
  rw [parse, parseChars, render, texts]
  cases hterms : s.terms.map renderTerm with
  | nil => rfl
  | cons first rest =>
      rw [← hterms]
      have nested : ∀ text ∈ s.terms.map renderTerm, nesting? 0 text.toList = some 0 :=
        List.forall_mem_map.mpr fun t ht => (h t ht).text.1
      have trimmed : ((s.terms.map renderTerm).map String.toList).map trim =
          (s.terms.map renderTerm).map String.toList := by
        rw [List.map_map]
        refine List.map_congr_left (List.forall_mem_map.mpr fun t ht => (h t ht).text.2.1)
      have full : ((s.terms.map renderTerm).map String.toList).filter (!·.isEmpty) =
          (s.terms.map renderTerm).map String.toList := by
        rw [List.filter_eq_self]
        intro text htext
        rw [← texts] at htext
        obtain ⟨t, ht, rfl⟩ := List.mem_map.mp htext
        simpa using (h t ht).text.2.2
      rw [splitTerms_joinStrings (by rw [hterms]; simp) nested]
      dsimp only
      rw [trimmed, full]

/-- The texts of labels are read as labels only if no key makes an exclusion of its label, and then
with the same keys. -/
theorem labels_of_readTerms {labels : List (String × String)} {ts : List Term}
    (legible : ∀ e ∈ labels, Legible (.equal e.1 e.2))
    (h : readTerms (labels.map fun e => (renderLabel e).toList) = .ok ts)
    (hlabels : ts.filterMap Term.requirement? = []) :
    (∀ e ∈ labels, e.1.toList.getLast? ≠ some '!') ∧ ts.filterMap Term.label? =
      labels.map fun e => (e.1, String.ofList (trim (dropLeading '=' e.2.toList))) := by
  induction labels generalizing ts with
  | nil =>
      obtain rfl := Except.ok.inj h
      simp
  | cons e rest ih =>
      obtain ⟨he, hrest⟩ := List.forall_mem_cons.mp legible
      obtain ⟨t, us, ht, hus, rfl⟩ := readTerms_cons_eq_ok_iff.mp h
      by_cases hlast : e.1.toList.getLast? = some '!'
      · obtain ⟨r, rfl⟩ := he.readTerm_equal.2 hlast t ht
        simp [Term.requirement?] at hlabels
      · have hread := he.readTerm_equal.1 hlast
        obtain rfl := Except.ok.inj (ht.symm.trans hread)
        rw [List.filterMap_cons_none rfl] at hlabels
        obtain ⟨keys, values⟩ := ih hrest hus hlabels
        refine ⟨List.forall_mem_cons.mpr ⟨hlast, keys⟩, ?_⟩
        simp only [List.filterMap_cons, Term.label?, values, List.map_cons]

theorem requirements_of_readTerms {requirements : List Requirement} {ts : List Term}
    (legible : ∀ r ∈ requirements, Legible (.requires r))
    (h : readTerms (requirements.map fun r => r.render.toList) = .ok ts) :
    ∃ rs, ts = rs.map .requires ∧ rs.length = requirements.length ∧
      (rs = requirements → ∀ r ∈ requirements, r.Recoverable) := by
  induction requirements generalizing ts with
  | nil =>
      obtain rfl := Except.ok.inj h
      exact ⟨[], rfl, rfl, by simp⟩
  | cons r rest ih =>
      obtain ⟨hr, hrest⟩ := List.forall_mem_cons.mp legible
      obtain ⟨t, us, ht, hus, rfl⟩ := readTerms_cons_eq_ok_iff.mp h
      obtain ⟨r', rfl⟩ := hr.readTerm_requires.2 t ht
      obtain ⟨rs, rfl, hlength, hsame⟩ := ih hrest hus
      refine ⟨r' :: rs, rfl, by simp [hlength], ?_⟩
      intro heq
      obtain ⟨rfl, rfl⟩ := List.cons.inj heq
      exact List.forall_mem_cons.mpr ⟨hr.readTerm_requires.1.mp ht, hsame rfl⟩

theorem trim_dropLeading_eq_self_iff (hv : trim v.toList = v.toList) :
    String.ofList (trim (dropLeading '=' v.toList)) = v ↔ v.toList.head? ≠ some '=' := by
  rw [← String.toList_inj, String.toList_ofList]
  cases hchars : v.toList with
  | nil => simp [dropLeading]
  | cons c cs =>
      rw [dropLeading]
      split
      · next hc =>
          subst hc
          simp only [List.head?_cons, ne_eq, not_true_eq_false, iff_false]
          intro heq
          have shorter := (trim_infix_self cs).length_le
          rw [heq] at shorter
          exact absurd shorter (by simp)
      · next hc =>
          rw [hchars] at hv
          simp [hv, hc]

theorem Legible.trimmed_value (h : Legible (.equal k v)) : trim v.toList = v.toList := by
  cases h with
  | equal _ _ hv _ _ _ => exact hv.trimmed

theorem readTerms_of_forall {f : Term → List Char} {ts : List Term}
    (h : ∀ t ∈ ts, readTerm (f t) = .ok t) : readTerms (ts.map f) = .ok ts := by
  induction ts with
  | nil => rfl
  | cons t rest ih =>
      obtain ⟨ht, hrest⟩ := List.forall_mem_cons.mp h
      exact readTerms_cons_eq_ok_iff.mpr ⟨t, rest, ht, ih hrest, rfl⟩

/-- A selector whose text is read as it can be told from it, term by term. -/
theorem recoverable_of_parse_render (legible : ∀ t ∈ s.terms, Legible t)
    (h : parse s.render = .ok s) : s.Recoverable := by
  rw [parse_render legible] at h
  obtain ⟨ts, hread, hts⟩ := map_eq_ok_iff.mp h
  rw [terms, List.map_append, List.map_map, List.map_map] at hread
  obtain ⟨us, vs, hus, hvs, rfl⟩ := readTerms_append_eq_ok_iff.mp hread
  have legibleLabels : ∀ e ∈ s.matchLabels.entries, Legible (.equal e.1 e.2) :=
    fun e he => legible _ (List.mem_append_left _ (List.mem_map.mpr ⟨e, he, rfl⟩))
  have legibleRequirements : ∀ r ∈ s.matchExpressions, Legible (.requires r) :=
    fun r hr => legible _ (List.mem_append_right _ (List.mem_map.mpr ⟨r, hr, rfl⟩))
  obtain ⟨rs, rfl, hlength, hsame⟩ := requirements_of_readTerms legibleRequirements hvs
  have kept : (rs.map Term.requires).filterMap Term.requirement? = rs := by
    rw [List.filterMap_map]
    exact List.filterMap_some
  have none : (rs.map Term.requires).filterMap Term.label? = [] := by
    simp [List.filterMap_map, Function.comp_def, Term.label?]
  -- No label became a requirement, because the requirements are as many as before.
  have hexpressions : us.filterMap Term.requirement? ++ rs = s.matchExpressions := by
    rw [← kept, ← List.filterMap_append]
    exact congrArg matchExpressions hts
  have hlabels : us.filterMap Term.requirement? = [] := by
    have count := congrArg List.length hexpressions
    rw [List.length_append, hlength] at count
    exact List.eq_nil_of_length_eq_zero (by omega)
  obtain ⟨keys, values⟩ := labels_of_readTerms legibleLabels hus hlabels
  rw [hlabels, List.nil_append] at hexpressions
  have hmap : s.matchLabels.map (fun v => String.ofList (trim (dropLeading '=' v.toList))) =
      s.matchLabels := by
    rw [← SortedMap.ofList_entries (s.matchLabels.map _), SortedMap.entries_map, ← values,
      ← List.append_nil (us.filterMap Term.label?), ← none, ← List.filterMap_append]
    exact congrArg matchLabels hts
  refine ⟨fun e he => ⟨keys e he, ?_⟩, hsame hexpressions⟩
  rw [← trim_dropLeading_eq_self_iff (legibleLabels e he).trimmed_value]
  have hread :
      (e.1, String.ofList (trim (dropLeading '=' e.2.toList))) ∈ s.matchLabels.entries := by
    rw [← hmap, SortedMap.entries_map, List.mem_map]
    exact ⟨e, he, rfl⟩
  have same := (SortedMap.get?_eq_some_iff.mpr hread).symm.trans (SortedMap.get?_eq_some_iff.mpr he)
  exact Option.some.inj same

/-- The text of a selector that was read is read as the selector exactly if all its terms can be
told from their texts: no key of a label ends in an exclamation mark, no value of a label begins
with an equals sign, and no exclusion is of the empty value alone or on a key with blanks inside. -/
theorem parse_render_iff {text : String} (h : parse text = .ok s) :
    parse s.render = .ok s ↔ s.Recoverable := by
  have legible := legible_of_parse h
  constructor
  · exact recoverable_of_parse_render legible
  · intro recoverable
    have hread : ∀ t ∈ s.terms, readTerm (renderTerm t).toList = .ok t := by
      intro t ht
      have ht' := legible t ht
      rcases List.mem_append.mp ht with hlabel | hrequirement
      · obtain ⟨e, he, rfl⟩ := List.mem_map.mp hlabel
        obtain ⟨hkey, hvalue⟩ := recoverable.labels e he
        have kept := (trim_dropLeading_eq_self_iff ht'.trimmed_value).mpr hvalue
        exact (ht'.readTerm_equal.1 hkey).trans (by rw [kept])
      · obtain ⟨r, hr, rfl⟩ := List.mem_map.mp hrequirement
        exact ht'.readTerm_requires.1.mpr (recoverable.requirements r hr)
    rw [parse_render legible, readTerms_of_forall hread]
    exact congrArg Except.ok (ofTerms_terms s)

theorem parse_render_iff_nested :
    ∃ s, parse "a b= c ,!x=y,k in ( (p,q) ,,r),z != )" = .ok s ∧ s.Recoverable ∧
      parse s.render = .ok s := by
  obtain ⟨s, hs, hlabels, hexpressions⟩ :
      ∃ s, parse "a b= c ,!x=y,k in ( (p,q) ,,r),z != )" = .ok s ∧
        s.matchLabels.entries = [("a b", "c")] ∧ s.matchExpressions =
          [⟨"x=y", .doesNotExist, []⟩, ⟨"k", .isIn, ["(p", "q)", "r"]⟩, ⟨"z", .notIn, [")"]⟩] :=
    ⟨_, rfl, rfl, rfl⟩
  have recoverable : s.Recoverable := by
    constructor
    · simp [hlabels]
    · simp [hexpressions, Requirement.Recoverable, Solid, isBlank]
  exact ⟨s, hs, recoverable, (parse_render_iff hs).mpr recoverable⟩

/-- The text is read as a selector that is not read back from its own text. -/
def Changed (text : String) : Prop := ∃ s, parse text = .ok s ∧ parse s.render ≠ .ok s

/-- Texts of each kind: of no value, of a key with blanks inside, of a value that begins with an
equals sign and of a key that ends in an exclamation mark. -/
theorem parse_render_changed :
    Changed "a!=" ∧ Changed "a b!=c" ∧ Changed "a===b" ∧ Changed "a! =b" :=
  ⟨⟨_, rfl, by decide⟩, ⟨_, rfl, by decide⟩, ⟨_, rfl, by decide⟩, ⟨_, rfl, by decide⟩⟩

end Selector

end ScalingMetrics
