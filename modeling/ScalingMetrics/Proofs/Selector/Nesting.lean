import ScalingMetrics.Proofs.Selector.Conjunction
import ScalingMetrics.Proofs.Text.Blank

/-!
# Nested commas

A selector string is cut at the commas that no parenthesis encloses. `nesting?` follows the
parentheses of a text in which all commas are enclosed: such texts are never cut, and the pieces of
a string are texts of this kind that close what they open.

## Implementation notes

A text is cut at its first comma outside parentheses, and what is left of it is cut in the same way.
`pieces_induction` is the induction over the pieces found like this; the last of them may be left
open.
-/

namespace ScalingMetrics

namespace Selector

open Text

/-- The nesting depth behind a text, if all its commas are inside parentheses. -/
def nesting? : Nat → List Char → Option Nat
  | depth, [] => some depth
  | depth, c :: cs =>
    if c = '(' then nesting? (depth + 1) cs
    else if c = ')' then nesting? (depth - 1) cs
    else if c = ',' ∧ depth = 0 then none
    else nesting? depth cs

variable {d e : Nat} {cs l r p rest last text inside : List Char} {pieces : List (List Char)}

theorem nesting?_append (depth : Nat) (l r : List Char) :
    nesting? depth (l ++ r) = (nesting? depth l).bind (nesting? · r) := by
  fun_induction nesting? depth l with
  | case1 depth => rfl
  | case2 depth cs ih => rw [List.cons_append, nesting?, if_pos rfl, ih]
  | case3 depth cs _ ih => rw [List.cons_append, nesting?, if_neg (by decide), if_pos rfl, ih]
  | case4 depth c cs hopen hclose hcomma =>
      rw [List.cons_append, nesting?, if_neg hopen, if_neg hclose, if_pos hcomma]
      rfl
  | case5 depth c cs hopen hclose hcomma ih =>
      rw [List.cons_append, nesting?, if_neg hopen, if_neg hclose, if_neg hcomma, ih]

/-- Text without parentheses, and without commas outside of them, stays at its depth. -/
theorem nesting?_of_plain (hopen : '(' ∉ text) (hclose : ')' ∉ text)
    (hcomma : depth = 0 → ',' ∉ text) : nesting? depth text = some depth := by
  induction text with
  | nil => rfl
  | cons c text ih =>
      rw [List.mem_cons, not_or] at hopen hclose
      have enclosed : ¬ (c = ',' ∧ depth = 0) := by
        rintro ⟨rfl, hdepth⟩
        exact hcomma hdepth List.mem_cons_self
      rw [nesting?, if_neg (Ne.symm hopen.1), if_neg (Ne.symm hclose.1), if_neg enclosed,
        ih hopen.2 hclose.2 fun hd hc => hcomma hd (List.mem_cons_of_mem c hc)]

theorem nesting?_of_blank (depth : Nat) (h : Blank text) : nesting? depth text = some depth := by
  have absent : ∀ {c}, isBlank c = false → c ∉ text :=
    fun hc hmem => Bool.false_ne_true (hc.symm.trans (h _ hmem))
  exact nesting?_of_plain (absent (by decide)) (absent (by decide)) fun _ => absent (by decide)

/-- An opening parenthesis behind a text leads one level down. -/
theorem nesting?_append_open (h : nesting? d l = some e) (r : List Char) :
    nesting? d (l ++ '(' :: r) = nesting? (e + 1) r := by
  rw [nesting?_append, h, Option.bind_some, nesting?, if_pos rfl]

/-- A closing parenthesis behind a text leads one level up. -/
theorem nesting?_append_close (h : nesting? d l = some e) (r : List Char) :
    nesting? d (l ++ ')' :: r) = nesting? (e - 1) r := by
  rw [nesting?_append, h, Option.bind_some, nesting?, if_neg (by decide), if_pos rfl]

theorem nesting?_trim (depth : Nat) (cs : List Char) :
    nesting? depth (trim cs) = nesting? depth cs := by
  obtain ⟨before, after, hb, ha, hcs⟩ := padded_trim cs
  conv_rhs => rw [hcs]
  rw [nesting?_append, nesting?_append, nesting?_of_blank depth hb, Option.bind_some]
  cases nesting? depth (trim cs) with
  | none => rfl
  | some e => exact (nesting?_of_blank e ha).symm

/-- At depth zero, text without an opening parenthesis stays there and has no comma. -/
theorem nesting?_eq_some_of_unopened (hopen : '(' ∉ text) :
    nesting? 0 text = some e ↔ e = 0 ∧ ',' ∉ text := by
  induction text with
  | nil => simp [nesting?, eq_comm]
  | cons c text ih =>
      rw [List.mem_cons, not_or] at hopen
      rw [nesting?, if_neg (Ne.symm hopen.1)]
      split
      · next hc =>
          subst hc
          simp [ih hopen.2]
      · split
        · next hcomma => simp [hcomma.1]
        · next hcomma =>
            have hc : ',' ≠ c := fun hc => hcomma ⟨hc.symm, rfl⟩
            simp [ih hopen.2, hc]

/-- The first opening parenthesis of a text is at depth zero, and no comma is before it. -/
theorem nesting?_behind_first_open (hopen : '(' ∉ l) (h : nesting? 0 (l ++ '(' :: r) = some e) :
    ',' ∉ l ∧ nesting? 1 r = some e := by
  rw [nesting?_append] at h
  obtain ⟨d, hl, hr⟩ := Option.bind_eq_some_iff.mp h
  obtain ⟨rfl, hcomma⟩ := (nesting?_eq_some_of_unopened hopen).mp hl
  rw [nesting?, if_pos rfl] at hr
  exact ⟨hcomma, hr⟩

/-- Without opening parentheses and commas the depth can only get smaller. -/
theorem exists_nesting?_le (depth : Nat) (hopen : '(' ∉ text) (hcomma : ',' ∉ text) :
    ∃ e ≤ depth, nesting? depth text = some e := by
  induction text generalizing depth with
  | nil => exact ⟨depth, Nat.le_refl depth, rfl⟩
  | cons c text ih =>
      rw [List.mem_cons, not_or] at hopen hcomma
      rw [nesting?, if_neg (Ne.symm hopen.1)]
      split
      · obtain ⟨e, he, hdepth⟩ := ih (depth - 1) hopen.2 hcomma.2
        exact ⟨e, Nat.le_trans he (Nat.sub_le depth 1), hdepth⟩
      · rw [if_neg fun hc => hcomma.1 hc.1.symm]
        exact ih depth hopen.2 hcomma.2

/-- Only a closing parenthesis leads to a smaller depth. -/
theorem le_of_nesting? (hclose : ')' ∉ text) (h : nesting? d text = some e) : d ≤ e := by
  fun_induction nesting? d text with
  | case1 depth => exact Nat.le_of_eq (Option.some.inj h)
  | case2 depth cs ih =>
      rw [List.mem_cons, not_or] at hclose
      exact Nat.le_of_succ_le (ih hclose.2 h)
  | case3 => simp at hclose
  | case4 => cases h
  | case5 depth c cs _ _ _ ih =>
      rw [List.mem_cons, not_or] at hclose
      exact ih hclose.2 h

/-- The text after the last closing parenthesis is at depth zero from its start, if it is at its
end. -/
theorem nesting?_concat_close (hclose : ')' ∉ r) (h : nesting? d (l ++ ')' :: r) = some 0) :
    nesting? d (l ++ [')']) = some 0 := by
  obtain ⟨e, hl, -⟩ := Option.bind_eq_some_iff.mp ((nesting?_append ..).symm.trans h)
  rw [nesting?_append_close hl] at h
  rw [nesting?_append_close hl, nesting?]
  exact congrArg some (Nat.le_zero.mp (le_of_nesting? hclose h))

/-! ### Depth -/

/-- The depth behind a text that begins at a depth: an opening parenthesis raises it, and a closing
one lowers it, but not below zero. -/
def depthFrom : Nat → List Char → Nat
  | depth, [] => depth
  | depth, c :: cs =>
    if c = '(' then depthFrom (depth + 1) cs
    else if c = ')' then depthFrom (depth - 1) cs
    else depthFrom depth cs

theorem depthFrom_append (d : Nat) (l r : List Char) :
    depthFrom d (l ++ r) = depthFrom (depthFrom d l) r := by
  fun_induction depthFrom d l with
  | case1 => rfl
  | case2 depth cs ih => rw [List.cons_append, depthFrom, if_pos rfl, ih]
  | case3 depth cs _ ih => rw [List.cons_append, depthFrom, if_neg (by decide), if_pos rfl, ih]
  | case4 depth c cs hopen hclose ih =>
      rw [List.cons_append, depthFrom, if_neg hopen, if_neg hclose, ih]

/-- Behind a comma at depth zero the depth is counted as from the start. -/
theorem depthFrom_comma (h : depthFrom 0 l = 0) (r : List Char) :
    depthFrom 0 (l ++ ',' :: r) = depthFrom 0 r := by
  rw [depthFrom_append, h, depthFrom, if_neg (by decide), if_neg (by decide)]

theorem depthFrom_of_nesting? (h : nesting? d cs = some e) : depthFrom d cs = e := by
  fun_induction nesting? d cs with
  | case1 depth => exact Option.some.inj h
  | case2 depth cs ih => rw [depthFrom, if_pos rfl, ih h]
  | case3 depth cs _ ih => rw [depthFrom, if_neg (by decide), if_pos rfl, ih h]
  | case4 => cases h
  | case5 depth c cs hopen hclose _ ih => rw [depthFrom, if_neg hopen, if_neg hclose, ih h]

/-! ### Cutting into terms -/

/-- A text whose commas are nested is not cut. -/
theorem splitTermsFrom_of_nesting? (h : nesting? d text = some e) (term rest : List Char) :
    splitTermsFrom d term (text ++ rest) = splitTermsFrom e (text.reverse ++ term) rest := by
  fun_induction nesting? d text generalizing term with
  | case1 depth =>
      obtain rfl := Option.some.inj h
      rfl
  | case2 depth cs ih =>
      rw [List.cons_append, splitTermsFrom, if_pos rfl, ih h]
      simp
  | case3 depth cs _ ih =>
      rw [List.cons_append, splitTermsFrom, if_neg (by decide), if_pos rfl, ih h]
      simp
  | case4 => cases h
  | case5 depth c cs hopen hclose hcomma ih =>
      rw [List.cons_append, splitTermsFrom, if_neg hopen, if_neg hclose, if_neg hcomma, ih h]
      simp

theorem splitTerms_of_enclosed (h : nesting? 0 text = some e) :
    splitTerms text = if e = 0 then .ok [text] else .error text := by
  have whole := splitTermsFrom_of_nesting? h [] []
  rw [List.append_nil, List.append_nil, splitTermsFrom, List.reverse_reverse] at whole
  exact whole

theorem splitTerms_of_nesting? (h : nesting? 0 text = some 0) : splitTerms text = .ok [text] := by
  rw [splitTerms_of_enclosed h, if_pos rfl]

theorem splitTerms_append_comma (hp : nesting? 0 p = some 0) (rest : List Char) :
    splitTerms (p ++ ',' :: rest) = (splitTerms rest).map (p :: ·) :=
  splitTermsFrom_comma (splitTerms_of_nesting? hp) rest

theorem exists_comma_of_nesting?_eq_none (h : nesting? d cs = none) :
    ∃ l r, cs = l ++ ',' :: r ∧ nesting? d l = some 0 := by
  fun_induction nesting? d cs with
  | case1 => cases h
  | case2 depth cs ih =>
      obtain ⟨l, r, rfl, hl⟩ := ih h
      exact ⟨'(' :: l, r, rfl, by rw [nesting?, if_pos rfl, hl]⟩
  | case3 depth cs _ ih =>
      obtain ⟨l, r, rfl, hl⟩ := ih h
      exact ⟨')' :: l, r, rfl, by rw [nesting?, if_neg (by decide), if_pos rfl, hl]⟩
  | case4 depth c cs _ _ hcomma =>
      obtain ⟨rfl, rfl⟩ := hcomma
      exact ⟨[], cs, rfl, rfl⟩
  | case5 depth c cs hopen hclose hcomma ih =>
      obtain ⟨l, r, rfl, hl⟩ := ih h
      exact ⟨c :: l, r, rfl, by rw [nesting?, if_neg hopen, if_neg hclose, if_neg hcomma, hl]⟩

/-- Induction over the pieces of a text between its commas at depth zero. -/
@[elab_as_elim]
theorem pieces_induction {motive : List Char → Prop}
    (last : ∀ cs e, nesting? 0 cs = some e → motive cs)
    (piece : ∀ p rest, nesting? 0 p = some 0 → motive rest → motive (p ++ ',' :: rest))
    (cs : List Char) : motive cs := by
  cases h : nesting? 0 cs with
  | some e => exact last cs e h
  | none =>
      obtain ⟨p, rest, hcs, hp⟩ := exists_comma_of_nesting?_eq_none h
      have shorter : rest.length < cs.length := by simp [hcs]; omega
      rw [hcs]
      exact piece p rest hp (pieces_induction last piece rest)
termination_by cs.length

/-- The pieces of a text between its commas at depth zero, each of which closes what it opens. -/
structure Pieces (cs : List Char) (pieces : List (List Char)) : Prop where
  ne_nil : pieces ≠ []
  joined : join [','] pieces = cs
  closed : ∀ p ∈ pieces, nesting? 0 p = some 0

/-- The text behind the last comma at depth zero, or the whole text if there is no such comma. -/
structure LastPiece (cs last : List Char) : Prop where
  begins : last = cs ∨ ∃ before, cs = before ++ ',' :: last ∧ depthFrom 0 before = 0
  final : ∀ before after, cs = before ++ ',' :: after → depthFrom 0 before = 0 → last <:+ after

theorem Pieces.cons (h : Pieces rest pieces) (hp : nesting? 0 p = some 0) :
    Pieces (p ++ ',' :: rest) (p :: pieces) where
  ne_nil := List.cons_ne_nil p pieces
  joined := by rw [join_cons h.ne_nil, h.joined, List.append_assoc, List.singleton_append]
  closed := List.forall_mem_cons.mpr ⟨hp, h.closed⟩

theorem LastPiece.isSuffix (h : LastPiece cs last) : last <:+ cs := by
  rcases h.begins with rfl | ⟨before, rfl, -⟩
  · exact List.suffix_rfl
  · exact ⟨before ++ [','], by simp⟩

/-- A text without commas at depth zero is its own last piece. -/
theorem lastPiece_self (h : nesting? 0 cs = some e) : LastPiece cs cs where
  begins := .inl rfl
  final before after hcs hzero := by
    rw [hcs, nesting?_append] at h
    obtain ⟨d, hbefore, hafter⟩ := Option.bind_eq_some_iff.mp h
    obtain rfl : d = 0 := (depthFrom_of_nesting? hbefore).symm.trans hzero
    cases hafter

theorem LastPiece.append (h : LastPiece rest last) (hp : depthFrom 0 p = 0) :
    LastPiece (p ++ ',' :: rest) last where
  begins := by
    refine .inr ?_
    rcases h.begins with rfl | ⟨before, rfl, hzero⟩
    · exact ⟨p, rfl, hp⟩
    · exact ⟨p ++ ',' :: before, by simp, (depthFrom_comma hp before).trans hzero⟩
  final before after hsplit hzero := by
    -- The comma given is the one behind `p`, or it is on one of its sides.
    rcases List.append_eq_append_iff.mp hsplit with ⟨between, rfl, hrest⟩ | ⟨between, rfl, hrest⟩
    · cases between with
      | nil => exact (List.cons.inj hrest).2 ▸ h.isSuffix
      | cons c between =>
          obtain ⟨rfl, rfl⟩ := List.cons.inj hrest
          exact h.final between after rfl ((depthFrom_comma hp between).symm.trans hzero)
    · cases between with
      | nil => exact (List.cons.inj hrest).2 ▸ h.isSuffix
      | cons c between =>
          obtain ⟨rfl, rfl⟩ := List.cons.inj hrest
          exact h.isSuffix.trans ⟨between ++ [','], by simp⟩

/-- The last piece ends where the text ends, so there is one only. -/
theorem LastPiece.unique (h : LastPiece cs l) (h' : LastPiece cs r) : l = r := by
  have behind : ∀ {l r}, LastPiece cs l → LastPiece cs r → l <:+ r := by
    intro l r hl hr
    rcases hr.begins with rfl | ⟨before, hsplit, hzero⟩
    · exact hl.isSuffix
    · exact hl.final before r hsplit hzero
  exact (behind h h').eq_of_length_le (behind h' h).length_le

/-- A text is cut into its pieces if it ends at depth zero. Otherwise its last piece is left open. -/
theorem splitTerms_cases (cs : List Char) :
    (depthFrom 0 cs = 0 ∧ ∃ pieces, splitTerms cs = .ok pieces ∧ Pieces cs pieces) ∨
      (0 < depthFrom 0 cs ∧ ∃ last, splitTerms cs = .error last ∧ LastPiece cs last) := by
  induction cs using pieces_induction with
  | last cs e h =>
      rw [depthFrom_of_nesting? h, splitTerms_of_enclosed h]
      rcases Nat.eq_zero_or_pos e with rfl | he
      · refine .inl ⟨rfl, [cs], if_pos rfl, by simp, rfl, ?_⟩
        simpa using h
      · exact .inr ⟨he, cs, if_neg he.ne', lastPiece_self h⟩
  | piece p rest hp ih =>
      have hzero := depthFrom_of_nesting? hp
      rw [depthFrom_comma hzero, splitTerms_append_comma hp]
      rcases ih with ⟨hrest, pieces, hsplit, hpieces⟩ | ⟨hrest, last, hsplit, hlast⟩
      · exact .inl ⟨hrest, p :: pieces, by rw [hsplit]; rfl, hpieces.cons hp⟩
      · exact .inr ⟨hrest, last, by rw [hsplit]; rfl, hlast.append hzero⟩

theorem Pieces.splitTerms_eq (h : Pieces cs pieces) : splitTerms cs = .ok pieces := by
  obtain ⟨hne, rfl, closed⟩ := h
  induction pieces with
  | nil => exact absurd rfl hne
  | cons p rest ih =>
      obtain ⟨hp, hrest⟩ := List.forall_mem_cons.mp closed
      cases rest with
      | nil => exact splitTerms_of_nesting? hp
      | cons q others =>
          have hne : q :: others ≠ [] := List.cons_ne_nil q others
          rw [join_cons hne, List.append_assoc, List.singleton_append, splitTerms_append_comma hp,
            ih hne hrest]
          rfl

theorem splitTerms_eq_ok_iff : splitTerms cs = .ok pieces ↔ Pieces cs pieces := by
  refine ⟨fun h => ?_, Pieces.splitTerms_eq⟩
  rcases splitTerms_cases cs with ⟨-, pieces', hsplit, hpieces⟩ | ⟨-, last, hsplit, -⟩
  · obtain rfl := Except.ok.inj (h.symm.trans hsplit)
    exact hpieces
  · cases h.symm.trans hsplit

/-- Texts whose commas are nested are cut apart again where they were joined. -/
theorem splitTerms_joinStrings {texts : List String} (hne : texts ≠ [])
    (h : ∀ s ∈ texts, nesting? 0 s.toList = some 0) :
    splitTerms (joinStrings "," texts).toList = .ok (texts.map String.toList) := by
  refine splitTerms_eq_ok_iff.mpr ⟨by simpa using hne, (toList_joinStrings "," texts).symm, ?_⟩
  rintro p hp
  obtain ⟨s, hs, rfl⟩ := List.mem_map.mp hp
  exact h s hs

/-! ### Value sets -/

/-- Blanks and blank values leave no trace in the nesting of a value set. -/
theorem nesting?_join_trimmed {values : List (List Char)}
    (h : nesting? d (join [','] values) = some e) :
    nesting? d (join [','] ((values.map trim).filter (!·.isEmpty))) = some e := by
  induction values generalizing d with
  | nil => exact h
  | cons v rest ih =>
      -- The other values are read at the depth behind the first, which encloses the comma.
      obtain ⟨f, hv, hothers, hcomma⟩ : ∃ f, nesting? d (trim v) = some f ∧
          nesting? f (join [','] ((rest.map trim).filter (!·.isEmpty))) = some e ∧
          (rest ≠ [] → f ≠ 0) := by
        cases rest with
        | nil => exact ⟨e, (nesting?_trim d v).trans h, rfl, fun hne => absurd rfl hne⟩
        | cons w rest =>
            rw [join_cons (List.cons_ne_nil w rest), List.append_assoc, nesting?_append] at h
            obtain ⟨f, hv, hrest⟩ := Option.bind_eq_some_iff.mp h
            rw [List.singleton_append, nesting?, if_neg (by decide), if_neg (by decide)] at hrest
            split at hrest
            · cases hrest
            · next hf =>
                refine ⟨f, (nesting?_trim d v).trans hv, ih hrest, fun _ hzero => ?_⟩
                exact hf ⟨rfl, hzero⟩
      rw [List.map_cons, List.filter_cons]
      split
      · cases hkept : (rest.map trim).filter (!·.isEmpty) with
        | nil =>
            rw [hkept] at hothers
            exact hv.trans hothers
        | cons w kept =>
            have hne : rest ≠ [] := by
              rintro rfl
              cases hkept
            rw [hkept] at hothers
            rw [join_cons (List.cons_ne_nil w kept), List.append_assoc, nesting?_append, hv,
              Option.bind_some, List.singleton_append, nesting?, if_neg (by decide),
              if_neg (by decide), if_neg fun hc => hcomma hne hc.2, hothers]
      · next hblank =>
          rw [show trim v = [] by simpa using hblank] at hv
          obtain rfl : d = f := Option.some.inj hv
          exact hothers

theorem nesting?_readValues (h : nesting? d inside = some e) :
    nesting? d (joinStrings "," (readValues inside)).toList = some e := by
  rw [← join_splitOn ',' inside] at h
  have chars : String.toList ∘ String.ofList = id := funext fun _ => String.toList_ofList
  rw [toList_joinStrings, readValues, List.map_map, chars, List.map_id]
  exact nesting?_join_trimmed h

end Selector

end ScalingMetrics
