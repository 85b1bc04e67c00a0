/-!
# Maps with ascending keys

A map is its list of bindings in strictly ascending key order. Two maps with the same bindings are
therefore equal, and every walk over a map visits the keys in order.

## Implementation notes

Insertion and erasure walk the list. The order is part of the type, so no operation has to be told
that its argument is sorted.
-/

namespace ScalingMetrics

universe u v w

/-- Finitely many bindings, listed by strictly ascending key. -/
structure SortedMap (κ : Type u) (α : Type v) [Ord κ] where
  entries : List (κ × α)
  ascending : entries.Pairwise fun a b => compare a.1 b.1 = .lt

namespace SortedMap

variable {κ : Type u} {α : Type v} {β : Type w} [Ord κ]

@[ext] theorem ext {m n : SortedMap κ α} (h : m.entries = n.entries) : m = n := by
  cases m; cases n; cases h; rfl

instance [DecidableEq κ] [DecidableEq α] : DecidableEq (SortedMap κ α) := fun m n =>
  decidable_of_iff (m.entries = n.entries) ⟨ext, congrArg _⟩

/-- The map without bindings. -/
def empty : SortedMap κ α := ⟨[], .nil⟩

instance : EmptyCollection (SortedMap κ α) := ⟨empty⟩

instance : Inhabited (SortedMap κ α) := ⟨empty⟩

@[simp] theorem entries_empty : (∅ : SortedMap κ α).entries = [] := rfl

/-- The value bound to a key. -/
def get? (m : SortedMap κ α) (k : κ) : Option α :=
  (m.entries.find? fun e => compare e.1 k == .eq).map (·.2)

/-- Whether a key is bound. -/
def contains (m : SortedMap κ α) (k : κ) : Bool :=
  m.entries.any fun e => compare e.1 k == .eq

/-- The bound keys, ascending. -/
def keys (m : SortedMap κ α) : List κ := m.entries.map (·.1)

/-- The bound values, by ascending key. -/
def values (m : SortedMap κ α) : List α := m.entries.map (·.2)

/-- The number of bindings. -/
def size (m : SortedMap κ α) : Nat := m.entries.length

/-- Whether nothing is bound. -/
def isEmpty (m : SortedMap κ α) : Bool := m.entries.isEmpty

@[simp] theorem length_keys (m : SortedMap κ α) : m.keys.length = m.size := List.length_map _

theorem pairwise_keys (m : SortedMap κ α) : m.keys.Pairwise fun j k => compare j k = .lt :=
  List.pairwise_map.mpr m.ascending

@[simp] theorem isEmpty_empty : (∅ : SortedMap κ α).isEmpty = true := rfl

@[simp] theorem size_empty : (∅ : SortedMap κ α).size = 0 := rfl

/-- The bindings that satisfy a test. -/
def filter (m : SortedMap κ α) (p : κ → α → Bool) : SortedMap κ α :=
  ⟨m.entries.filter fun e => p e.1 e.2, m.ascending.filter _⟩

@[simp] theorem entries_filter (m : SortedMap κ α) (p : κ → α → Bool) :
    (m.filter p).entries = m.entries.filter fun e => p e.1 e.2 := rfl

theorem size_filter_le (m : SortedMap κ α) (p : κ → α → Bool) : (m.filter p).size ≤ m.size :=
  List.length_filter_le _ _

theorem filter_filter (m : SortedMap κ α) (p q : κ → α → Bool) :
    (m.filter p).filter q = m.filter fun k a => q k a && p k a :=
  ext List.filter_filter

/-- Every binding but the one of a key. -/
def erase (m : SortedMap κ α) (k : κ) : SortedMap κ α :=
  m.filter fun k' _ => compare k' k != .eq

/-- Replaces every value and keeps the keys. -/
def map (f : α → β) (m : SortedMap κ α) : SortedMap κ β :=
  ⟨m.entries.map fun e => (e.1, f e.2), by
    rw [List.pairwise_map]; exact m.ascending⟩

@[simp] theorem entries_map (f : α → β) (m : SortedMap κ α) :
    (m.map f).entries = m.entries.map fun e => (e.1, f e.2) := rfl

/-- Puts a binding at its place in an ascending list, over the binding of an equal key. -/
def insertEntry (k : κ) (a : α) : List (κ × α) → List (κ × α)
  | [] => [(k, a)]
  | e :: rest =>
    match compare k e.1 with
    | .lt => (k, a) :: e :: rest
    | .eq => (k, a) :: rest
    | .gt => e :: insertEntry k a rest

theorem mem_insertEntry {k : κ} {a : α} {x : κ × α} {l : List (κ × α)}
    (h : x ∈ insertEntry k a l) : x = (k, a) ∨ x ∈ l := by
  induction l with
  | nil => simpa [insertEntry] using h
  | cons e rest ih =>
    rw [insertEntry] at h
    split at h
    · simpa using h
    · rcases List.mem_cons.1 h with h | h
      · exact .inl h
      · exact .inr (List.mem_cons_of_mem _ h)
    · rcases List.mem_cons.1 h with h | h
      · exact .inr (h ▸ List.mem_cons_self)
      · exact (ih h).imp_right (List.mem_cons_of_mem _)

section Lawful

variable [Std.TransOrd κ]

theorem pairwise_insertEntry {k : κ} {a : α} {l : List (κ × α)}
    (h : l.Pairwise fun x y => compare x.1 y.1 = .lt) :
    (insertEntry k a l).Pairwise fun x y => compare x.1 y.1 = .lt := by
  induction l with
  | nil => simp [insertEntry]
  | cons e rest ih =>
    have hrest : ∀ {x}, x ∈ rest → compare e.1 x.1 = .lt := fun hx =>
      List.rel_of_pairwise_cons h hx
    rw [insertEntry]
    split
    · next hlt =>
      refine List.Pairwise.cons (fun x hx => ?_) h
      rcases List.mem_cons.1 hx with rfl | hx
      · exact hlt
      · exact Std.TransCmp.lt_trans hlt (hrest hx)
    · next heq =>
      refine List.Pairwise.cons (fun x hx => ?_) h.of_cons
      exact Std.TransCmp.lt_of_eq_of_lt heq (hrest hx)
    · next hgt =>
      refine List.Pairwise.cons (fun x hx => ?_) (ih h.of_cons)
      rcases mem_insertEntry hx with rfl | hx
      · exact Std.OrientedCmp.lt_of_gt hgt
      · exact hrest hx

/-- Binds a key, over any earlier binding of it. -/
def insert (m : SortedMap κ α) (k : κ) (a : α) : SortedMap κ α :=
  ⟨insertEntry k a m.entries, pairwise_insertEntry m.ascending⟩

@[simp] theorem entries_insert (m : SortedMap κ α) (k : κ) (a : α) :
    (m.insert k a).entries = insertEntry k a m.entries := rfl

/-- The map of a list of bindings, in which a later binding of a key wins. -/
def ofList (l : List (κ × α)) : SortedMap κ α :=
  l.foldl (fun m e => m.insert e.1 e.2) ∅

end Lawful

/-! ### Reading a map back -/

section Lookup

@[simp] theorem get?_empty (k : κ) : (∅ : SortedMap κ α).get? k = none := rfl

theorem contains_eq_isSome (m : SortedMap κ α) (k : κ) : m.contains k = (m.get? k).isSome := by
  simp only [contains, get?, Option.isSome_map]
  induction m.entries with
  | nil => rfl
  | cons e rest ih => cases h : compare e.1 k == .eq <;> simp_all

theorem contains_eq_true_iff {m : SortedMap κ α} {k : κ} :
    m.contains k = true ↔ ∃ a, m.get? k = some a := by
  rw [contains_eq_isSome, Option.isSome_iff_exists]

theorem not_lt_self [Std.ReflOrd κ] {k : κ} : ¬ compare k k = .lt := by
  simp

theorem compare_beq_eq_iff [Std.LawfulEqOrd κ] {j k : κ} :
    (compare j k == .eq) = true ↔ j = k := by
  rw [beq_iff_eq, Std.compare_eq_iff_eq]

variable [Std.LawfulEqOrd κ]

theorem get?_eq_some_iff {m : SortedMap κ α} {k : κ} {a : α} :
    m.get? k = some a ↔ (k, a) ∈ m.entries := by
  obtain ⟨l, hl⟩ := m
  simp only [get?]
  induction l with
  | nil => simp
  | cons e rest ih =>
    have hrest : ∀ {x}, x ∈ rest → compare e.1 x.1 = .lt := fun hx =>
      List.rel_of_pairwise_cons hl hx
    by_cases he : e.1 = k
    · have hself : (compare e.1 k == .eq) = true := compare_beq_eq_iff.2 he
      have hnot : (k, a) ∉ rest := fun hx => by
        exact not_lt_self (he ▸ hrest hx)
      simp only [List.find?_cons, hself, Option.map_some, Option.some.injEq, List.mem_cons, hnot,
        or_false]
      constructor
      · rintro rfl; exact Prod.ext he.symm rfl
      · rintro rfl; rfl
    · have hother : (compare e.1 k == .eq) = false :=
        Bool.eq_false_iff.2 fun h => he (compare_beq_eq_iff.1 h)
      have hne : (k, a) ≠ e := fun h => he (h ▸ rfl)
      simp only [List.find?_cons, hother, List.mem_cons, hne, false_or]
      exact ih hl.of_cons

theorem mem_keys_iff {m : SortedMap κ α} {k : κ} : k ∈ m.keys ↔ ∃ a, m.get? k = some a := by
  simp only [keys, List.mem_map, Prod.exists, exists_and_right, exists_eq_right,
    get?_eq_some_iff]

theorem nodup_keys (m : SortedMap κ α) : m.keys.Nodup := by
  refine List.Pairwise.map _ (fun e f hlt heq => ?_) m.ascending
  exact not_lt_self (heq ▸ hlt)

theorem mem_values_iff {m : SortedMap κ α} {a : α} : a ∈ m.values ↔ ∃ k, m.get? k = some a := by
  simp only [values, List.mem_map, Prod.exists, exists_eq_right, get?_eq_some_iff]

variable [Std.TransOrd κ]

/-- Two maps that answer every look-up alike are equal. -/
theorem ext_get? {m n : SortedMap κ α} (h : ∀ k, m.get? k = n.get? k) : m = n := by
  have hmem : ∀ e, e ∈ m.entries ↔ e ∈ n.entries := fun e => by
    rw [← get?_eq_some_iff (k := e.1) (a := e.2), h, get?_eq_some_iff]
  refine ext (List.Perm.eq_of_pairwise ?_ m.ascending n.ascending ?_)
  · intro a b _ _ hab hba
    exact absurd (Std.TransCmp.lt_trans hab hba) not_lt_self
  · refine (List.perm_ext_iff_of_nodup ?_ ?_).2 hmem
    all_goals
      refine List.Pairwise.imp (fun {a b} hab heq => ?_) (SortedMap.ascending _)
      exact not_lt_self (heq ▸ hab)

theorem mem_insertEntry_iff {k : κ} {a : α} {x : κ × α} {l : List (κ × α)}
    (hl : l.Pairwise fun x y => compare x.1 y.1 = .lt) :
    x ∈ insertEntry k a l ↔ x = (k, a) ∨ (x ∈ l ∧ x.1 ≠ k) := by
  induction l with
  | nil => simp [insertEntry]
  | cons e rest ih =>
    have hrest : ∀ {x}, x ∈ rest → compare e.1 x.1 = .lt := fun hx =>
      List.rel_of_pairwise_cons hl hx
    rw [insertEntry]
    split
    · next hlt =>
      have hfar : ∀ {x}, x ∈ e :: rest → x.1 ≠ k := fun {x} hx hk => by
        have : compare k x.1 = .lt := by
          rcases List.mem_cons.1 hx with rfl | hx
          · exact hlt
          · exact Std.TransCmp.lt_trans hlt (hrest hx)
        exact not_lt_self (hk ▸ this)
      rw [List.mem_cons]
      exact ⟨fun h => h.imp_right fun hx => ⟨hx, hfar hx⟩, fun h => h.imp_right And.left⟩
    · next heq =>
      have hke : k = e.1 := Std.LawfulEqCmp.eq_of_compare heq
      have hfar : ∀ {x}, x ∈ rest → x.1 ≠ k := fun {x} hx hk => by
        exact not_lt_self (hk.trans hke ▸ hrest hx)
      simp only [List.mem_cons]
      constructor
      · rintro (h | hx)
        · exact .inl h
        · exact .inr ⟨.inr hx, hfar hx⟩
      · rintro (h | ⟨rfl | hx, hk⟩)
        · exact .inl h
        · exact absurd hke.symm hk
        · exact .inr hx
    · next hgt =>
      have hke : e.1 ≠ k := fun h => by
        simp [h] at hgt
      rw [List.mem_cons, ih hl.of_cons, List.mem_cons]
      constructor
      · rintro (rfl | h | ⟨hx, hk⟩)
        · exact .inr ⟨.inl rfl, hke⟩
        · exact .inl h
        · exact .inr ⟨.inr hx, hk⟩
      · rintro (h | ⟨rfl | hx, hk⟩)
        · exact .inr (.inl h)
        · exact .inl rfl
        · exact .inr (.inr ⟨hx, hk⟩)

theorem get?_insert [DecidableEq κ] (m : SortedMap κ α) (k j : κ) (a : α) :
    (m.insert k a).get? j = if j = k then some a else m.get? j := by
  ext b
  rw [get?_eq_some_iff, entries_insert, mem_insertEntry_iff m.ascending]
  by_cases h : j = k
  · simp [h, eq_comm]
  · simp [h, get?_eq_some_iff]

theorem get?_foldl_insert [DecidableEq κ] (l : List (κ × α)) (m : SortedMap κ α) (k : κ) :
    (l.foldl (fun m e => m.insert e.1 e.2) m).get? k = ((ofList l).get? k).or (m.get? k) := by
  induction l generalizing m with
  | nil => rfl
  | cons e rest ih =>
    rw [ofList, List.foldl_cons, List.foldl_cons, ih, ih (insert ∅ e.1 e.2), get?_insert,
      get?_insert, Option.or_assoc]
    by_cases h : k = e.1
    · simp [h]
    · simp [h]

/-- A binding of the later part of a list wins over one of the earlier part. -/
theorem get?_ofList_append [DecidableEq κ] (l l' : List (κ × α)) (k : κ) :
    (ofList (l ++ l')).get? k = ((ofList l').get? k).or ((ofList l).get? k) := by
  rw [ofList, List.foldl_append, get?_foldl_insert]
  rfl

/-- In a map of a list, a key is bound as in its last binding in the list. -/
theorem get?_ofList [DecidableEq κ] (l : List (κ × α)) (k : κ) :
    (ofList l).get? k = (l.reverse.find? fun e => e.1 = k).map (·.2) := by
  induction l with
  | nil => rfl
  | cons e rest ih =>
    have first : (ofList [e]).get? k = if k = e.1 then some e.2 else none := by
      rw [ofList, List.foldl_cons, List.foldl_nil, get?_insert, get?_empty]
    rw [← List.singleton_append, get?_ofList_append, ih, first, List.reverse_append,
      List.find?_append, Option.map_or]
    congr 1
    by_cases h : k = e.1
    · simp [h]
    · simp [h, Ne.symm h]

/-- The keys of a map are those of the list that it is made of. -/
theorem mem_keys_ofList_iff [DecidableEq κ] {l : List (κ × α)} {k : κ} :
    k ∈ (ofList l).keys ↔ ∃ a, (k, a) ∈ l := by
  simp only [mem_keys_iff, ← Option.isSome_iff_exists, get?_ofList, Option.isSome_map,
    List.find?_isSome, List.mem_reverse, decide_eq_true_eq]
  constructor
  · rintro ⟨e, he, rfl⟩
    exact ⟨e.2, he⟩
  · rintro ⟨a, ha⟩
    exact ⟨(k, a), ha, rfl⟩

/-- A map is the map of its bindings. -/
theorem ofList_entries [DecidableEq κ] (m : SortedMap κ α) : ofList m.entries = m := by
  have last : ∀ {k e}, (m.entries.reverse.find? fun e => e.1 = k) = some e →
      m.get? k = some e.2 := by
    intro k e he
    obtain rfl : e.1 = k := by simpa using List.find?_some he
    exact get?_eq_some_iff.mpr (List.mem_reverse.mp (List.mem_of_find?_eq_some he))
  apply ext_get?
  intro k
  rw [get?_ofList]
  cases hfind : m.entries.reverse.find? fun e => e.1 = k with
  | some e => exact (last hfind).symm
  | none =>
    rw [eq_comm, Option.map_none, Option.eq_none_iff_forall_ne_some]
    intro a ha
    have absent := List.find?_eq_none.mp hfind (k, a)
    simp [get?_eq_some_iff.mp ha] at absent

omit [Std.TransOrd κ] in
theorem get?_filter (m : SortedMap κ α) (p : κ → α → Bool) (k : κ) :
    (m.filter p).get? k = (m.get? k).filter (p k) := by
  ext b
  rw [get?_eq_some_iff, entries_filter, List.mem_filter, Option.filter_eq_some_iff,
    get?_eq_some_iff]

omit [Std.TransOrd κ] in
theorem get?_erase [DecidableEq κ] (m : SortedMap κ α) (k j : κ) :
    (m.erase k).get? j = if j = k then none else m.get? j := by
  rw [erase, get?_filter]
  by_cases h : j = k
  · simp [h]
  · have : (compare j k != .eq) = true := by
      rw [bne_iff_ne]
      exact fun e => h (Std.LawfulEqOrd.eq_of_compare e)
    rw [if_neg h]
    cases m.get? j <;> simp [this]

end Lookup

/-! ### The order of maps -/

/-- The order of bindings: by key, then by value. -/
def compareEntry [Ord α] : κ × α → κ × α → Ordering :=
  compareLex (compareOn (·.1)) (compareOn (·.2))

instance [Ord α] [Std.TransOrd κ] [Std.TransOrd α] :
    Std.TransCmp (compareEntry (κ := κ) (α := α)) :=
  inferInstanceAs (Std.TransCmp (compareLex _ _))

instance [Ord α] [Std.LawfulEqOrd κ] [Std.LawfulEqOrd α] :
    Std.LawfulEqCmp (compareEntry (κ := κ) (α := α)) where
  compare_self := by simp [compareEntry, compareLex, compareOn]
  eq_of_compare {a b} h := by
    simp only [compareEntry, compareLex_eq_eq, compareOn, Std.compare_eq_iff_eq] at h
    exact Prod.ext h.1 h.2

/-- Maps are ordered as their lists of bindings, a proper initial part first. -/
instance [Ord α] : Ord (SortedMap κ α) :=
  ⟨fun m n => List.compareLex compareEntry m.entries n.entries⟩

instance [Ord α] [Std.TransOrd κ] [Std.TransOrd α] : Std.TransOrd (SortedMap κ α) where
  eq_swap {a b} := @Std.OrientedCmp.eq_swap _ (List.compareLex compareEntry) _ a.entries b.entries
  isLE_trans {a b c} := @Std.TransCmp.isLE_trans _ (List.compareLex compareEntry) _
    a.entries b.entries c.entries

instance [Ord α] [Std.LawfulEqOrd κ] [Std.LawfulEqOrd α] : Std.LawfulEqOrd (SortedMap κ α) where
  compare_self {a} := @Std.ReflCmp.compare_self _ (List.compareLex compareEntry) _ a.entries
  eq_of_compare {a b} h :=
    ext (@Std.LawfulEqCmp.eq_of_compare _ (List.compareLex compareEntry) _ a.entries b.entries h)

end SortedMap

end ScalingMetrics
