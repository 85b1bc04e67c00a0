import ScalingMetrics.Proofs.Results
import ScalingMetrics.Selector.Grammar

/-!
# Joining selector strings

Two selector strings joined by a comma ask for what both of them ask for, as long as they do not
give one label two values. Of two values for a label the later is kept, and the earlier is no longer
asked for.

## Implementation notes

A string that is read without a fault closes its parentheses, so the comma after it separates
terms. The terms of both strings stay in order, and only their equalities can get lost.
-/

namespace ScalingMetrics

namespace Selector

open Text

variable {s t u : Selector} {labels : Labels}

/-! ### Selectors -/

/-- No label is given two values. -/
def Compatible (s t : Selector) : Prop :=
  ∀ k v w, s.matchLabels.get? k = some v → t.matchLabels.get? k = some w → v = w

/-- A selector with the terms of two others, of which the second decides where both give a label a
value. -/
structure Joins (s t u : Selector) : Prop where
  labels : ∀ k, u.matchLabels.get? k = (t.matchLabels.get? k).or (s.matchLabels.get? k)
  expressions : u.matchExpressions = s.matchExpressions ++ t.matchExpressions

/-- The second selector keeps all it asks for, the first all but the labels that both name. -/
theorem Joins.accepts_iff (h : Joins s t u) :
    u.accepts labels = true ↔
      (∀ k v, s.matchLabels.get? k = some v → t.matchLabels.get? k = none →
        labels.get? k = some v) ∧
      (∀ r ∈ s.matchExpressions, r.accepts labels = true) ∧ t.accepts labels = true := by
  simp only [Selector.accepts_iff, h.labels, h.expressions, Option.or_eq_some_iff,
    List.forall_mem_append]
  constructor
  · rintro ⟨hlabels, hs, ht⟩
    exact ⟨fun k v hk hfree => hlabels k v (.inr ⟨hfree, hk⟩), hs,
      fun k v hk => hlabels k v (.inl hk), ht⟩
  · rintro ⟨hfirst, hs, hsecond, ht⟩
    refine ⟨?_, hs, ht⟩
    rintro k v (hk | ⟨hfree, hk⟩)
    · exact hsecond k v hk
    · exact hfirst k v hk hfree

/-- No label set has two values for a label. -/
theorem both_accept_eq_false (h : ¬ s.Compatible t) (labels : Labels) :
    (s.accepts labels && t.accepts labels) = false := by
  rw [Bool.eq_false_iff, ne_eq, Bool.and_eq_true]
  rintro ⟨hs, ht⟩
  refine h fun k v w hv hw => ?_
  have hlabel : labels.get? k = some v := (Selector.accepts_iff.mp hs).1 k v hv
  exact Option.some.inj (hlabel.symm.trans ((Selector.accepts_iff.mp ht).1 k w hw))

theorem Joins.accepts_of_both (h : Joins s t u) (hs : s.accepts labels = true)
    (ht : t.accepts labels = true) : u.accepts labels = true := by
  obtain ⟨hlabels, hexpressions⟩ := Selector.accepts_iff.mp hs
  exact h.accepts_iff.mpr ⟨fun k v hk _ => hlabels k v hk, hexpressions, ht⟩

theorem Joins.accepts_eq_of_compatible (h : Joins s t u) (hst : s.Compatible t)
    (labels : Labels) : u.accepts labels = (s.accepts labels && t.accepts labels) := by
  rw [Bool.eq_iff_iff, Bool.and_eq_true]
  constructor
  · intro hu
    obtain ⟨hfirst, hexpressions, ht⟩ := h.accepts_iff.mp hu
    refine ⟨Selector.accepts_iff.mpr ⟨?_, hexpressions⟩, ht⟩
    intro k v hv
    cases hk : t.matchLabels.get? k with
    | none => exact hfirst k v hv hk
    | some w =>
        obtain rfl := hst k v w hv hk
        exact (Selector.accepts_iff.mp ht).1 k v hk
  · rintro ⟨hs, ht⟩
    exact h.accepts_of_both hs ht

/-- The join is the conjunction exactly if no label is given two values, or if it accepts nothing in
any case. -/
theorem Joins.conjunction_iff (h : Joins s t u) :
    (∀ labels, u.accepts labels = (s.accepts labels && t.accepts labels)) ↔
      s.Compatible t ∨ ∀ labels, u.accepts labels = false := by
  constructor
  · intro hboth
    by_cases hst : s.Compatible t
    · exact .inl hst
    · exact .inr fun labels => (hboth labels).trans (both_accept_eq_false hst labels)
  · rintro (hst | hnone)
    · exact h.accepts_eq_of_compatible hst
    · intro labels
      rw [hnone labels, eq_comm, Bool.eq_false_iff, ne_eq, Bool.and_eq_true]
      rintro ⟨hs, ht⟩
      exact Bool.false_ne_true ((hnone labels).symm.trans (h.accepts_of_both hs ht))

/-! ### Strings -/

/-- A comma outside parentheses ends a term. -/
theorem splitTermsFrom_comma {depth : Nat} {term cs : List Char} {pieces : List (List Char)}
    (h : splitTermsFrom depth term cs = .ok pieces) (ds : List Char) :
    splitTermsFrom depth term (cs ++ ',' :: ds) = (splitTerms ds).map (pieces ++ ·) := by
  fun_induction splitTermsFrom depth term cs generalizing pieces with
  | case1 term =>
      obtain rfl := Except.ok.inj h
      simp [splitTermsFrom, splitTerms]
  | case2 depth term hopen => cases h
  | case3 depth term cs ih =>
      rw [List.cons_append, splitTermsFrom, if_pos rfl]
      exact ih h
  | case4 depth term cs _ ih =>
      rw [List.cons_append, splitTermsFrom, if_neg (by decide), if_pos rfl]
      exact ih h
  | case5 depth term c cs hopen hclose hcomma ih =>
      obtain ⟨rest, hrest, rfl⟩ := map_eq_ok_iff.mp h
      rw [List.cons_append, splitTermsFrom, if_neg hopen, if_neg hclose, if_pos hcomma, ih hrest]
      cases splitTerms ds <;> rfl
  | case6 depth term c cs hopen hclose hcomma ih =>
      rw [List.cons_append, splitTermsFrom, if_neg hopen, if_neg hclose, if_neg hcomma]
      exact ih h

theorem readTerms_append {xs ys : List (List Char)} {ts us : List Term}
    (hx : readTerms xs = .ok ts) (hy : readTerms ys = .ok us) :
    readTerms (xs ++ ys) = .ok (ts ++ us) := by
  induction xs generalizing ts with
  | nil =>
      obtain rfl := Except.ok.inj hx
      exact hy
  | cons x xs ih =>
      rw [readTerms] at hx
      split at hx
      · cases hx
      · next t ht =>
          obtain ⟨rest, hrest, rfl⟩ := map_eq_ok_iff.mp hx
          rw [List.cons_append, readTerms, ht, ih hrest]
          rfl

theorem ofTerms_append (ts us : List Term) :
    Joins (ofTerms ts) (ofTerms us) (ofTerms (ts ++ us)) where
  labels k := by
    simp only [ofTerms, List.filterMap_append]
    exact SortedMap.get?_ofList_append _ _ k
  expressions := List.filterMap_append

/-- A string is read if it can be cut into terms and each of them can be read. -/
theorem parseChars_eq_ok_iff {cs : List Char} :
    parseChars cs = .ok s ↔ ∃ pieces terms, splitTerms cs = .ok pieces ∧
      readTerms ((pieces.map trim).filter (!·.isEmpty)) = .ok terms ∧ s = ofTerms terms := by
  rw [parseChars]
  cases splitTerms cs with
  | error rest => simp
  | ok pieces => simp [map_eq_ok_iff, @eq_comm _ s]

/-- Two strings that are read can be read with a comma between them. -/
theorem parse_comma {a b : String} (ha : parse a = .ok s) (hb : parse b = .ok t) :
    ∃ u, parse (a ++ "," ++ b) = .ok u ∧ Joins s t u := by
  obtain ⟨xs, ts, hsplit, hread, rfl⟩ := parseChars_eq_ok_iff.mp ha
  obtain ⟨ys, us, hsplit', hread', rfl⟩ := parseChars_eq_ok_iff.mp hb
  refine ⟨ofTerms (ts ++ us), parseChars_eq_ok_iff.mpr ⟨xs ++ ys, ts ++ us, ?_, ?_, rfl⟩,
    ofTerms_append ts us⟩
  · have hchars : (a ++ "," ++ b).toList = a.toList ++ ',' :: b.toList := by simp
    rw [hchars, splitTerms, splitTermsFrom_comma hsplit, hsplit']
    rfl
  · rw [List.map_append, List.filter_append]
    exact readTerms_append hread hread'

/-- Two strings that are read can be joined by a comma. The joined string asks for all that the
second asks for and for what else the first does, except for the labels that the second names with
another value. It is the conjunction exactly if there are no such labels, or if no label set meets
it in any case. -/
theorem parse_joined {a b : String} (ha : parse a = .ok s) (hb : parse b = .ok t) :
    ∃ u, parse (a ++ "," ++ b) = .ok u ∧
      (∀ labels, u.accepts labels = true ↔
        (∀ k v, s.matchLabels.get? k = some v → t.matchLabels.get? k = none →
          labels.get? k = some v) ∧
        (∀ r ∈ s.matchExpressions, r.accepts labels = true) ∧ t.accepts labels = true) ∧
      ((∀ labels, u.accepts labels = (s.accepts labels && t.accepts labels)) ↔
        s.Compatible t ∨ ∀ labels, u.accepts labels = false) := by
  obtain ⟨u, hu, joins⟩ := parse_comma ha hb
  exact ⟨u, hu, fun labels => joins.accepts_iff, joins.conjunction_iff⟩

theorem parse_joined_same_value :
    ∃ s t u, parse "app=web,env in (prod,test)" = .ok s ∧ parse "!debug,app==web" = .ok t ∧
      s.Compatible t ∧
      parse ("app=web,env in (prod,test)" ++ "," ++ "!debug,app==web") = .ok u ∧
      ∀ labels, u.accepts labels = (s.accepts labels && t.accepts labels) := by
  obtain ⟨s, t, hs, ht, hlabels, hlabels'⟩ : ∃ s t, parse "app=web,env in (prod,test)" = .ok s ∧
      parse "!debug,app==web" = .ok t ∧ s.matchLabels.entries = [("app", "web")] ∧
      t.matchLabels.entries = [("app", "web")] := ⟨_, _, rfl, rfl, rfl, rfl⟩
  have compatible : s.Compatible t := by
    intro k v w hv hw
    rw [SortedMap.get?_eq_some_iff, hlabels, List.mem_singleton] at hv
    rw [SortedMap.get?_eq_some_iff, hlabels', List.mem_singleton] at hw
    exact (congrArg Prod.snd hv).trans (congrArg Prod.snd hw).symm
  obtain ⟨u, hu, -, hconjunction⟩ := parse_joined hs ht
  exact ⟨s, t, u, hs, ht, compatible, hu, hconjunction.mpr (.inl compatible)⟩

/-- The label set that the second string asks for is accepted, although the first does not accept
it. -/
theorem parse_joined_other_value :
    ∃ s t u labels, parse "app=a" = .ok s ∧ parse "app=b" = .ok t ∧
      parse ("app=a" ++ "," ++ "app=b") = .ok u ∧ u.accepts labels = true ∧
      s.accepts labels = false :=
  ⟨_, _, _, .ofList [("app", "b")], rfl, rfl, rfl, rfl, rfl⟩

end Selector

end ScalingMetrics
