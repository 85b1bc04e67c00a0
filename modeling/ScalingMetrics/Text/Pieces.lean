/-!
# Cutting a text at separators

A text is cut at every separator, or once at the first or the last one. Joining the pieces with the
separator gives the text back.
-/

namespace ScalingMetrics.Text

/-- The pieces between the separators; a text without separators is one piece. -/
def splitOn (sep : Char) : List Char → List (List Char)
  | [] => [[]]
  | c :: cs =>
    if c = sep then [] :: splitOn sep cs
    else
      match splitOn sep cs with
      | [] => [[c]]
      | piece :: pieces => (c :: piece) :: pieces

/-- What stands before and after the first separator. -/
def cut? (sep : Char) : List Char → Option (List Char × List Char)
  | [] => none
  | c :: cs =>
    if c = sep then some ([], cs)
    else (cut? sep cs).map fun (before, after) => (c :: before, after)

/-- What stands before and after the first occurrence of two adjacent separators. -/
def cutPair? (first second : Char) : List Char → Option (List Char × List Char)
  | [] => none
  | c :: cs =>
    if c = first ∧ cs.head? = some second then some ([], cs.tail)
    else (cutPair? first second cs).map fun (before, after) => (c :: before, after)

/-- What stands before the last separator. -/
def beforeLast? (sep : Char) (cs : List Char) : Option (List Char) :=
  (cut? sep cs.reverse).map fun (_, before) => before.reverse

/-- The pieces, joined with a separator. -/
def join (sep : List Char) : List (List Char) → List Char
  | [] => []
  | [piece] => piece
  | piece :: pieces => piece ++ sep ++ join sep pieces

/-- The pieces, joined with a separator. -/
def joinStrings (sep : String) : List String → String
  | [] => ""
  | [piece] => piece
  | piece :: pieces => piece ++ sep ++ joinStrings sep pieces

/-- The text without one separator at its start, if there is one. -/
def dropLeading (sep : Char) : List Char → List Char
  | [] => []
  | c :: cs => if c = sep then cs else c :: cs

/-- Drops the separators at both ends. -/
def trimSeparators (sep : Char) (cs : List Char) : List Char :=
  ((cs.dropWhile (· = sep)).reverse.dropWhile (· = sep)).reverse

theorem splitOn_ne_nil (sep : Char) (cs : List Char) : splitOn sep cs ≠ [] := by
  cases cs with
  | nil => simp [splitOn]
  | cons c cs =>
    rw [splitOn]
    split
    · simp
    · split <;> simp

theorem join_splitOn (sep : Char) (cs : List Char) : join [sep] (splitOn sep cs) = cs := by
  induction cs with
  | nil => rfl
  | cons c cs ih =>
    have hne := splitOn_ne_nil sep cs
    rw [splitOn]
    split
    · next h =>
      cases hs : splitOn sep cs with
      | nil => exact absurd hs hne
      | cons piece pieces => rw [hs] at ih; simp [join, ih, h]
    · cases hs : splitOn sep cs with
      | nil => exact absurd hs hne
      | cons piece pieces =>
        rw [hs] at ih
        cases pieces with
        | nil => simpa [join] using ih
        | cons p ps => simp_all [join]

theorem splitOn_of_not_mem {sep : Char} {piece : List Char} (h : sep ∉ piece) :
    splitOn sep piece = [piece] := by
  induction piece with
  | nil => rfl
  | cons c piece ih =>
    rw [List.mem_cons, not_or] at h
    rw [splitOn, if_neg (Ne.symm h.1), ih h.2]

theorem splitOn_append_cons {sep : Char} {piece : List Char} (h : sep ∉ piece)
    (rest : List Char) : splitOn sep (piece ++ sep :: rest) = piece :: splitOn sep rest := by
  induction piece with
  | nil => simp [splitOn]
  | cons c piece ih =>
    rw [List.mem_cons, not_or] at h
    rw [List.cons_append, splitOn, if_neg (Ne.symm h.1), ih h.2]

theorem not_mem_of_mem_splitOn {sep : Char} {cs piece : List Char}
    (h : piece ∈ splitOn sep cs) : sep ∉ piece := by
  induction cs generalizing piece with
  | nil => simp_all [splitOn]
  | cons c cs ih =>
    rw [splitOn] at h
    split at h
    · rcases List.mem_cons.mp h with rfl | h
      · exact List.not_mem_nil
      · exact ih h
    · next hc =>
      split at h
      · next hnil => exact absurd hnil (splitOn_ne_nil sep cs)
      · next first rest hsplit =>
        rw [hsplit] at ih
        rcases List.mem_cons.mp h with rfl | h
        · simp [Ne.symm hc, ih List.mem_cons_self]
        · exact ih (List.mem_cons_of_mem _ h)

theorem join_cons {sep first : List Char} {rest : List (List Char)} (h : rest ≠ []) :
    join sep (first :: rest) = first ++ sep ++ join sep rest := by
  cases rest with
  | nil => exact absurd rfl h
  | cons second rest => rfl

theorem joinStrings_cons {sep first : String} {rest : List String} (h : rest ≠ []) :
    joinStrings sep (first :: rest) = first ++ sep ++ joinStrings sep rest := by
  cases rest with
  | nil => exact absurd rfl h
  | cons second rest => rfl

theorem toList_joinStrings (sep : String) (texts : List String) :
    (joinStrings sep texts).toList = join sep.toList (texts.map String.toList) := by
  induction texts with
  | nil => rfl
  | cons first rest ih =>
    cases rest with
    | nil => rfl
    | cons second rest =>
      rw [joinStrings_cons (List.cons_ne_nil second rest), String.toList_append,
        String.toList_append, ih]
      rfl

theorem joinStrings_concat {sep last : String} {pieces : List String} (h : pieces ≠ []) :
    joinStrings sep (pieces ++ [last]) = joinStrings sep pieces ++ sep ++ last := by
  induction pieces with
  | nil => exact absurd rfl h
  | cons first rest ih =>
    cases rest with
    | nil => rfl
    | cons second rest =>
      rw [List.cons_append, joinStrings_cons (by simp), ih (by simp),
        joinStrings_cons (List.cons_ne_nil second rest)]
      simp only [String.append_assoc]

/-- Pieces without separators are cut apart again where they were joined. -/
theorem splitOn_joinStrings {sep : Char} {text : String} (ht : text.toList = [sep])
    {pieces : List String} (hne : pieces ≠ []) (h : ∀ p ∈ pieces, sep ∉ p.toList) :
    splitOn sep (joinStrings text pieces).toList = pieces.map String.toList := by
  induction pieces with
  | nil => exact absurd rfl hne
  | cons first rest ih =>
    obtain ⟨hfirst, hrest⟩ := List.forall_mem_cons.mp h
    cases rest with
    | nil => exact splitOn_of_not_mem hfirst
    | cons second rest =>
      rw [joinStrings_cons (by simp), String.toList_append, String.toList_append, ht,
        List.append_assoc, List.singleton_append, splitOn_append_cons hfirst, ih (by simp) hrest]
      rfl

theorem trimSeparators_concat (sep : Char) (cs : List Char) :
    trimSeparators sep (cs ++ [sep]) = trimSeparators sep cs := by
  rw [trimSeparators, trimSeparators, List.dropWhile_append]
  cases hcs : cs.dropWhile (· = sep) with
  | nil => simp
  | cons c rest => simp

theorem trimSeparators_cons (sep : Char) (cs : List Char) :
    trimSeparators sep (sep :: cs) = trimSeparators sep cs := by
  rw [trimSeparators, List.dropWhile_cons_of_pos (by simp), trimSeparators]

/-- Separators around a text are dropped, however many there are. -/
theorem trimSeparators_surrounded (sep : Char) (before after : Nat) (cs : List Char) :
    trimSeparators sep (List.replicate before sep ++ cs ++ List.replicate after sep) =
      trimSeparators sep cs := by
  induction before with
  | zero =>
    induction after with
    | zero => simp
    | succ after ih =>
      rw [List.replicate_succ', ← List.append_assoc, trimSeparators_concat, ih]
  | succ before ih =>
    rw [List.replicate_succ, List.cons_append, List.cons_append, trimSeparators_cons, ih]

theorem trimSeparators_eq_self {sep : Char} {cs : List Char} (hfirst : cs.head? ≠ some sep)
    (hlast : cs.getLast? ≠ some sep) : trimSeparators sep cs = cs := by
  have keep : ∀ {l : List Char}, l.head? ≠ some sep → l.dropWhile (· = sep) = l := by
    intro l hl
    cases l with
    | nil => rfl
    | cons c l =>
      have hc : c ≠ sep := by simpa using hl
      rw [List.dropWhile_cons, if_neg (by simpa using hc)]
  rw [trimSeparators, keep hfirst, keep (by rwa [List.head?_reverse]), List.reverse_reverse]

theorem cut?_eq_some {sep : Char} {cs before after : List Char}
    (h : cut? sep cs = some (before, after)) : cs = before ++ sep :: after := by
  induction cs generalizing before with
  | nil => simp [cut?] at h
  | cons c cs ih =>
    rw [cut?] at h
    split at h
    · next hc => simp_all
    · cases hcut : cut? sep cs with
      | none => simp [hcut] at h
      | some pair =>
        obtain ⟨b, a⟩ := pair
        simp only [hcut, Option.map_some, Option.some.injEq, Prod.mk.injEq] at h
        obtain ⟨rfl, rfl⟩ := h
        simp [ih hcut]

theorem cut?_append_cons {sep : Char} {before : List Char} (h : sep ∉ before)
    (after : List Char) : cut? sep (before ++ sep :: after) = some (before, after) := by
  induction before with
  | nil => simp [cut?]
  | cons c before ih =>
    rw [List.mem_cons, not_or] at h
    rw [List.cons_append, cut?, if_neg (Ne.symm h.1), ih h.2]
    rfl

/-- The first separator has none before it. -/
theorem not_mem_of_cut? {sep : Char} {cs before after : List Char}
    (h : cut? sep cs = some (before, after)) : sep ∉ before := by
  induction cs generalizing before with
  | nil => simp [cut?] at h
  | cons c cs ih =>
    rw [cut?] at h
    split at h
    · simp_all
    · next hc =>
      obtain ⟨⟨b, a⟩, hcut, hpair⟩ := Option.map_eq_some_iff.mp h
      obtain ⟨rfl, rfl⟩ := Prod.mk.inj hpair
      simp [ih hcut, Ne.symm hc]

theorem cut?_eq_none_iff {sep : Char} {cs : List Char} : cut? sep cs = none ↔ sep ∉ cs := by
  induction cs with
  | nil => simp [cut?]
  | cons c cs ih =>
    rw [cut?]
    split
    · next h => simp [h]
    · next h => simp [ih, Ne.symm h]

theorem cutPair?_append {first second : Char} {before : List Char} (h : first ∉ before)
    (after : List Char) :
    cutPair? first second (before ++ first :: second :: after) = some (before, after) := by
  induction before with
  | nil => simp [cutPair?]
  | cons c before ih =>
    rw [List.mem_cons, not_or] at h
    rw [List.cons_append, cutPair?, if_neg fun hc => h.1 hc.1.symm, ih h.2]
    rfl

theorem cutPair?_of_not_mem {first second : Char} {cs : List Char} (h : first ∉ cs) :
    cutPair? first second cs = none := by
  induction cs with
  | nil => rfl
  | cons c cs ih =>
    rw [List.mem_cons, not_or] at h
    rw [cutPair?, if_neg fun hc => h.1 hc.1.symm, ih h.2]
    rfl

theorem cutPair?_eq_none_iff {first second : Char} {cs : List Char} :
    cutPair? first second cs = none ↔ ¬ [first, second] <:+: cs := by
  induction cs with
  | nil => simp [cutPair?]
  | cons c cs ih =>
    have here : [first, second] <+: c :: cs ↔ c = first ∧ cs.head? = some second := by
      rw [List.cons_prefix_cons, eq_comm]
      cases cs <;> simp [eq_comm]
    rw [List.infix_cons_iff, here, cutPair?]
    split
    · next h => simp [h]
    · next h => simp [h, ih]

/-- The second separator alone is no place to cut, unless the first comes right before it. -/
theorem cutPair?_append_cons {first second : Char} (hne : first ≠ second) {before after : List Char}
    (hbefore : second ∉ before) (hlast : before.getLast? ≠ some first)
    (hafter : cutPair? first second after = none) :
    cutPair? first second (before ++ second :: after) = none := by
  induction before with
  | nil =>
    rw [List.nil_append, cutPair?, if_neg fun hc => hne hc.1.symm, hafter]
    rfl
  | cons c before ih =>
    rw [List.mem_cons, not_or] at hbefore
    have apart : ¬ (c = first ∧ (before ++ second :: after).head? = some second) := by
      rintro ⟨rfl, hhead⟩
      cases before with
      | nil => exact hlast rfl
      | cons x before =>
        obtain rfl := Option.some.inj hhead
        exact hbefore.2 List.mem_cons_self
    have last : before.getLast? ≠ some first := by
      intro h
      exact hlast (by rw [List.getLast?_cons, h]; rfl)
    rw [List.cons_append, cutPair?, if_neg apart, ih hbefore.2 last]
    rfl

theorem cutPair?_eq_some {first second : Char} {cs before after : List Char}
    (h : cutPair? first second cs = some (before, after)) :
    cs = before ++ first :: second :: after := by
  induction cs generalizing before with
  | nil => simp [cutPair?] at h
  | cons c cs ih =>
    rw [cutPair?] at h
    split at h
    · next hc =>
      obtain ⟨rfl, rfl⟩ := Prod.mk.inj (Option.some.inj h)
      obtain ⟨rfl, hhead⟩ := hc
      obtain ⟨rest, rfl⟩ := List.head?_eq_some_iff.mp hhead
      rfl
    · obtain ⟨⟨b, a⟩, hcut, hpair⟩ := Option.map_eq_some_iff.mp h
      obtain ⟨rfl, rfl⟩ := Prod.mk.inj hpair
      rw [ih hcut, List.cons_append]

theorem beforeLast?_append_cons {sep : Char} {after : List Char} (h : sep ∉ after)
    (before : List Char) : beforeLast? sep (before ++ sep :: after) = some before := by
  have reversed : (before ++ sep :: after).reverse = after.reverse ++ sep :: before.reverse := by
    simp
  rw [beforeLast?, reversed, cut?_append_cons (by rwa [List.mem_reverse]), Option.map_some]
  exact congrArg some before.reverse_reverse

theorem beforeLast?_concat (sep : Char) (cs : List Char) :
    beforeLast? sep (cs ++ [sep]) = some cs :=
  beforeLast?_append_cons List.not_mem_nil cs

theorem beforeLast?_eq_none_iff {sep : Char} {cs : List Char} :
    beforeLast? sep cs = none ↔ sep ∉ cs := by
  rw [beforeLast?, Option.map_eq_none_iff, cut?_eq_none_iff, List.mem_reverse]

theorem beforeLast?_eq_some {sep : Char} {cs before : List Char}
    (h : beforeLast? sep cs = some before) :
    ∃ after, cs = before ++ sep :: after ∧ sep ∉ after := by
  obtain ⟨⟨after, b⟩, hcut, rfl⟩ := Option.map_eq_some_iff.mp h
  refine ⟨after.reverse, ?_, ?_⟩
  · rw [← List.reverse_inj, cut?_eq_some hcut]
    simp
  · rw [List.mem_reverse]
    exact not_mem_of_cut? hcut

/-- Two pieces can be told from their text with a separator between them. -/
theorem append_cons_inj {sep : Char} {a b c d : List Char} (ha : sep ∉ a) (hb : sep ∉ b)
    (h : a ++ sep :: b = c ++ sep :: d) : a = c ∧ b = d := by
  rcases List.append_eq_append_iff.mp h with ⟨between, rfl, hrest⟩ | ⟨between, rfl, hrest⟩
  · cases between with
    | nil => exact ⟨by simp, (List.cons.inj hrest).2⟩
    | cons x between =>
      obtain ⟨-, rfl⟩ := List.cons.inj hrest
      simp at hb
  · cases between with
    | nil => exact ⟨by simp, (List.cons.inj hrest).2.symm⟩
    | cons x between =>
      obtain ⟨rfl, -⟩ := List.cons.inj hrest
      simp at ha

end ScalingMetrics.Text
