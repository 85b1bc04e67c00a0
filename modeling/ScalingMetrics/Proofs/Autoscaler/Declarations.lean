import Mathlib.Data.Option.Basic
import ScalingMetrics.Autoscaler.Declared
import ScalingMetrics.Proofs.Results

/-!
# What the entries of a specification declare

The entries of a specification are read in order. The first one with a fault refuses them all, and
otherwise each entry that names a source declares one metric. Only what two agreeing copies of an
autoscaler have in common is read.
-/

namespace ScalingMetrics

/-! ### Selectors -/

theorem Operator.ofName?_eq_some_iff {s : String} {o : Operator} :
    ofName? s = some o ↔ s = o.name := by
  constructor
  · intro h
    have found := List.find?_some h
    exact (beq_iff_eq.mp found).symm
  · rintro rfl
    exact ofName?_name o

theorem Operator.ofName?_eq_none_iff {s : String} :
    ofName? s = none ↔ ∀ o : Operator, s ≠ o.name := by
  rw [Option.eq_none_iff_forall_ne_some]
  simp only [ne_eq, ofName?_eq_some_iff]

/-- A word that stands for an operator. -/
def Operator.Spelled (s : String) : Operator → Prop
  | .isIn => s = "In"
  | .notIn => s = "NotIn"
  | .exists => s = "Exists"
  | .doesNotExist => s = "DoesNotExist"

theorem Operator.spelled_iff {s : String} {o : Operator} : o.Spelled s ↔ s = o.name := by
  cases o <;> rfl

namespace DeclaredRequirement

/-- A requirement read as it is written, with an operator in place of its name. -/
structure Means (r : DeclaredRequirement) (q : Requirement) : Prop where
  key : q.key = r.key
  operator : q.operator.Spelled r.operator
  values : q.values = r.values.getD []

/-- The requirement has none of the four operators. -/
def IsUnknown (r : DeclaredRequirement) : Prop :=
  r.operator ∉ ["In", "NotIn", "Exists", "DoesNotExist"]

theorem isUnknown_iff {r : DeclaredRequirement} :
    r.IsUnknown ↔ ∀ o : Operator, r.operator ≠ o.name := by
  simp only [IsUnknown, List.mem_cons, List.not_mem_nil, or_false, not_or]
  constructor
  · rintro ⟨hIn, hNotIn, hExists, hDoesNotExist⟩ o
    cases o with
    | isIn => exact hIn
    | notIn => exact hNotIn
    | «exists» => exact hExists
    | doesNotExist => exact hDoesNotExist
  · intro h
    exact ⟨h .isIn, h .notIn, h .exists, h .doesNotExist⟩

variable {r : DeclaredRequirement} {q : Requirement} {l : List DeclaredRequirement}

theorem resolve_eq_ok_iff : r.resolve = .ok q ↔ r.Means q := by
  rw [resolve]
  cases h : Operator.ofName? r.operator with
  | none =>
      constructor
      · intro hq
        cases hq
      · intro means
        exact absurd (Operator.spelled_iff.mp means.operator)
          (Operator.ofName?_eq_none_iff.mp h q.operator)
  | some o =>
      have name := Operator.ofName?_eq_some_iff.mp h
      constructor
      · intro hq
        cases hq
        exact ⟨rfl, Operator.spelled_iff.mpr name, rfl⟩
      · rintro ⟨hkey, hoperator, hvalues⟩
        obtain rfl : o = q.operator :=
          Option.some.inj
            (h.symm.trans (Operator.ofName?_eq_some_iff.mpr (Operator.spelled_iff.mp hoperator)))
        rw [← hkey, ← hvalues]

theorem resolve_eq_error_iff {e : SelectorError} :
    r.resolve = .error e ↔ r.IsUnknown ∧ e = .unknownOperator r.key r.operator := by
  rw [resolve, isUnknown_iff, ← Operator.ofName?_eq_none_iff]
  cases Operator.ofName? r.operator with
  | none => simp [eq_comm]
  | some o => simp

theorem resolveAll_eq_mapM (l : List DeclaredRequirement) : resolveAll l = l.mapM resolve := by
  induction l with
  | nil => rfl
  | cons r rest ih =>
      rw [resolveAll, mapM_cons_eq, ih]
      cases r.resolve <;> rfl

end DeclaredRequirement

namespace DeclaredSelector

/-- A selector read as it is written; absent parts are empty. -/
structure Means (s : DeclaredSelector) (t : Selector) : Prop where
  labels : t.matchLabels = s.matchLabels.getD ∅
  requirements :
    List.Forall₂ DeclaredRequirement.Means (s.matchExpressions.getD []) t.matchExpressions

variable {s : DeclaredSelector} {t : Selector}

theorem resolve_eq_ok_iff : s.resolve = .ok t ↔ s.Means t := by
  rw [resolve, map_eq_ok_iff, DeclaredRequirement.resolveAll_eq_mapM]
  simp only [mapM_eq_ok_iff, DeclaredRequirement.resolve_eq_ok_iff]
  constructor
  · rintro ⟨requirements, h, rfl⟩
    exact ⟨rfl, h⟩
  · rintro ⟨hlabels, h⟩
    exact ⟨_, h, by rw [← hlabels]⟩

/-- The first requirement with an unknown operator refuses the selector. -/
theorem resolve_eq_error_iff {e : SelectorError} :
    s.resolve = .error e ↔ ∃ before r after,
      s.matchExpressions.getD [] = before ++ r :: after ∧ (∀ x ∈ before, ¬ x.IsUnknown) ∧
        r.IsUnknown ∧ e = .unknownOperator r.key r.operator := by
  rw [resolve, map_eq_error_iff, DeclaredRequirement.resolveAll_eq_mapM, mapM_eq_error_iff]
  simp only [ne_eq, DeclaredRequirement.resolve_eq_error_iff, not_and, forall_eq_apply_imp_iff]

end DeclaredSelector

namespace DeclaredMetric

/-- A metric read as it is written. No selector is not the same as an empty one. -/
structure Means (m : DeclaredMetric) (id : MetricId) : Prop where
  name : id.name = m.name
  selector : Option.Rel DeclaredSelector.Means m.selector id.selector

variable {m : DeclaredMetric} {id : MetricId}

/-- The labels that the selector of the metric fixes. -/
def labels (m : DeclaredMetric) : Labels := (m.selector.bind DeclaredSelector.matchLabels).getD ∅

theorem Means.labels_eq (h : m.Means id) : id.labels = m.labels := by
  obtain ⟨name, selector⟩ := m
  obtain ⟨name', selector'⟩ := id
  cases h.selector with
  | none => rfl
  | some means => exact means.labels

theorem resolve_eq_ok_iff : m.resolve = .ok id ↔ m.Means id := by
  obtain ⟨name, selector⟩ := m
  obtain ⟨name', selector'⟩ := id
  cases selector with
  | none =>
      constructor
      · intro h
        cases h
        exact ⟨rfl, .none⟩
      · rintro ⟨rfl, hselector⟩
        cases hselector
        rfl
  | some s =>
      rw [resolve]
      constructor
      · intro h
        cases hs : s.resolve with
        | error e => simp [hs] at h
        | ok t =>
            simp only [hs, Except.ok.injEq, MetricId.mk.injEq] at h
            obtain ⟨rfl, rfl⟩ := h
            exact ⟨rfl, .some (DeclaredSelector.resolve_eq_ok_iff.mp hs)⟩
      · rintro ⟨rfl, hselector⟩
        cases hselector with
        | some means => simp [DeclaredSelector.resolve_eq_ok_iff.mpr means]

theorem resolve_eq_error_iff {e : SpecError} :
    m.resolve = .error e ↔ ∃ s e', m.selector = some s ∧ s.resolve = .error e' ∧
      e = .invalidSelector m.name e' := by
  rw [resolve]
  cases m.selector with
  | none => simp
  | some s => cases hs : s.resolve <;> simp [hs, eq_comm]

end DeclaredMetric

/-! ### Entries -/

theorem Source.ofName?_eq_some_iff {s : String} {source : Source} :
    ofName? s = some source ↔ s = source.name := by
  constructor
  · intro h
    have found := List.find?_some h
    exact (beq_iff_eq.mp found).symm
  · rintro rfl
    cases source <;> decide

namespace MetricSpec

variable {m : MetricSpec} {target : CrossReference} {ns : String} {source : Source}

/-- The metric of a source, if the source is given. -/
def metricOf? (m : MetricSpec) : Source → Option DeclaredMetric
  | .pods => m.pods.map TargetedMetric.metric
  | .object => m.object.map ObjectMetric.metric
  | .external => m.external.map TargetedMetric.metric

/-- The entry is about a resource that pods consume. -/
def IsResource (m : MetricSpec) : Prop := m.kind = "Resource" ∨ m.kind = "ContainerResource"

/-- The object that the values of a metric describe, for each source that it may come from. It is in
the namespace of the autoscaler, and without an API version if none is given. -/
def described (m : MetricSpec) (target : CrossReference) (ns : String) : Source → Option ObjectRef
  | .pods => some
      { apiVersion := target.apiVersion.getD "", kind := target.kind, name := target.name, ns }
  | .object => m.object.map fun o =>
      { apiVersion := o.describedObject.apiVersion.getD ""
        kind := o.describedObject.kind
        name := o.describedObject.name
        ns }
  | .external => none

/-- Values are counted per replica if an object is aimed at an average. -/
def perReplica (m : MetricSpec) : Source → Bool
  | .object => m.object.any fun o => o.target.kind == "AverageValue"
  | _ => false

/-- The declaration of the metric that the type of an entry names. -/
def declaration (m : MetricSpec) (target : CrossReference) (ns : String) (source : Source)
    (id : MetricId) : Declaration where
  metric := ⟨source, id⟩
  collectorName := none
  parameters := if source = .external then id.labels else ∅
  describedObject := m.described target ns source
  perReplica := m.perReplica source
  interval := none

/-- All types that name a source are read in the same way. -/
theorem declare_of_source (h : m.kind = source.name) :
    m.declare target ns =
      match m.metricOf? source with
      | none => .error (.missingSource source)
      | some metric => metric.resolve.map fun id => some (m.declaration target ns source id) := by
  cases source with
  | pods =>
      simp only [declare, h, Source.name, metricOf?]
      cases hpods : m.pods with
      | none => rfl
      | some p =>
          simp only [required, Except.bind, declarePods, Option.map_some]
          cases p.metric.resolve <;> rfl
  | object =>
      simp only [declare, h, Source.name, metricOf?]
      cases hobject : m.object with
      | none => rfl
      | some o =>
          simp only [required, Except.bind, declareObject, Option.map_some, declaration, described,
            perReplica, hobject, Option.any_some]
          cases o.metric.resolve <;> rfl
  | external =>
      simp only [declare, h, Source.name, metricOf?]
      cases hexternal : m.external with
      | none => rfl
      | some e =>
          simp only [required, Except.bind, declareExternal, Option.map_some]
          cases e.metric.resolve <;> rfl

theorem IsResource.ne_name (h : m.IsResource) (source : Source) : m.kind ≠ source.name := by
  rcases h with h | h
  · rw [h]
    cases source <;> decide
  · rw [h]
    cases source <;> decide

theorem declare_of_isResource (h : m.IsResource) : m.declare target ns = .ok none := by
  rcases h with h | h
  · simp only [declare, h]
  · simp only [declare, h]

theorem declare_of_unsupported (noSource : ∀ source : Source, m.kind ≠ source.name)
    (noResource : ¬ m.IsResource) : m.declare target ns = .error (.unsupportedType m.kind) := by
  rw [declare]
  split
  · next h => exact absurd h (noSource .pods)
  · next h => exact absurd h (noSource .object)
  · next h => exact absurd h (noSource .external)
  · next h => exact absurd (.inl h) noResource
  · next h => exact absurd (.inr h) noResource
  · rfl

/-- What is wrong with an entry. Only the source that the type names is looked at. -/
inductive HasFault (m : MetricSpec) : SpecError → Prop
  | unsupportedType (noSource : ∀ source : Source, m.kind ≠ source.name)
      (noResource : ¬ m.IsResource) : HasFault m (.unsupportedType m.kind)
  | missingSource {source : Source} (names : m.kind = source.name)
      (absent : m.metricOf? source = none) : HasFault m (.missingSource source)
  | unknownOperator {source : Source} {metric : DeclaredMetric} {selector : DeclaredSelector}
      {before after : List DeclaredRequirement} {r : DeclaredRequirement}
      (names : m.kind = source.name) (given : m.metricOf? source = some metric)
      (selects : metric.selector = some selector)
      (requires : selector.matchExpressions.getD [] = before ++ r :: after)
      (known : ∀ x ∈ before, ¬ x.IsUnknown) (unknown : r.IsUnknown) :
      HasFault m (.invalidSelector metric.name (.unknownOperator r.key r.operator))

/-- What an entry declares, said of each part of the declaration. -/
structure Declares (m : MetricSpec) (target : CrossReference) (ns : String) (d : Declaration) :
    Prop where
  source : m.kind = d.metric.source.name
  metric : ∃ metric, m.metricOf? d.metric.source = some metric ∧ metric.Means d.metric.metric ∧
    d.parameters = if d.metric.source = .external then metric.labels else ∅
  object : d.describedObject = m.described target ns d.metric.source
  perReplica : d.perReplica = true ↔
    d.metric.source = .object ∧ ∃ o, m.object = some o ∧ o.target.kind = "AverageValue"
  unasked : d.collectorName = none ∧ d.interval = none

theorem perReplica_iff : m.perReplica source = true ↔
    source = .object ∧ ∃ o, m.object = some o ∧ o.target.kind = "AverageValue" := by
  cases source with
  | object => cases h : m.object <;> simp [perReplica, h]
  | _ => simp [perReplica]

theorem declares_declaration {metric : DeclaredMetric} {id : MetricId}
    (names : m.kind = source.name) (given : m.metricOf? source = some metric)
    (means : metric.Means id) : m.Declares target ns (m.declaration target ns source id) where
  source := names
  metric := ⟨metric, given, means, by rw [← means.labels_eq]; rfl⟩
  object := rfl
  perReplica := perReplica_iff
  unasked := ⟨rfl, rfl⟩

theorem Declares.eq_declaration {d : Declaration} (h : m.Declares target ns d) :
    d = m.declaration target ns d.metric.source d.metric.metric := by
  obtain ⟨⟨source, id⟩, collectorName, parameters, object, perReplica, interval⟩ := d
  obtain ⟨-, ⟨metric, -, means, hparameters⟩, hobject, hperReplica, hname, hinterval⟩ := h
  have counted : perReplica = m.perReplica source :=
    Bool.eq_iff_iff.mpr (hperReplica.trans perReplica_iff.symm)
  rw [← means.labels_eq] at hparameters
  simp only at hparameters hobject hname hinterval
  rw [declaration, hname, hparameters, hobject, counted, hinterval]

theorem kind_cases (m : MetricSpec) :
    (∃ source : Source, m.kind = source.name) ∨ m.IsResource ∨
      (∀ source : Source, m.kind ≠ source.name) ∧ ¬ m.IsResource := by
  by_cases hsource : ∃ source : Source, m.kind = source.name
  · exact .inl hsource
  · by_cases hresource : m.IsResource
    · exact .inr (.inl hresource)
    · exact .inr (.inr ⟨not_exists.mp hsource, hresource⟩)

theorem declare_eq_some_iff {d : Declaration} :
    m.declare target ns = .ok (some d) ↔ m.Declares target ns d := by
  constructor
  · intro h
    rcases m.kind_cases with ⟨source, names⟩ | hresource | ⟨noSource, noResource⟩
    · rw [declare_of_source names] at h
      cases given : m.metricOf? source with
      | none => simp [given] at h
      | some metric =>
          rw [given] at h
          obtain ⟨id, hid, hd⟩ := map_eq_ok_iff.mp h
          cases hd
          exact declares_declaration names given (DeclaredMetric.resolve_eq_ok_iff.mp hid)
    · cases (declare_of_isResource hresource).symm.trans h
    · cases (declare_of_unsupported noSource noResource).symm.trans h
  · intro declares
    obtain ⟨metric, given, means, -⟩ := declares.metric
    rw [declare_of_source declares.source, given]
    simp only [DeclaredMetric.resolve_eq_ok_iff.mpr means]
    exact congrArg (fun d => Except.ok (some d)) declares.eq_declaration.symm

theorem declare_eq_none_iff : m.declare target ns = .ok none ↔ m.IsResource := by
  constructor
  · intro h
    rcases m.kind_cases with ⟨source, names⟩ | hresource | ⟨noSource, noResource⟩
    · rw [declare_of_source names] at h
      cases given : m.metricOf? source with
      | none => simp [given] at h
      | some metric =>
          rw [given] at h
          obtain ⟨id, -, hd⟩ := map_eq_ok_iff.mp h
          cases hd
    · exact hresource
    · cases (declare_of_unsupported noSource noResource).symm.trans h
  · exact declare_of_isResource

theorem declare_eq_error_iff {e : SpecError} :
    m.declare target ns = .error e ↔ m.HasFault e := by
  constructor
  · intro h
    rcases m.kind_cases with ⟨source, names⟩ | hresource | ⟨noSource, noResource⟩
    · rw [declare_of_source names] at h
      cases given : m.metricOf? source with
      | none =>
          rw [given] at h
          cases h
          exact .missingSource names given
      | some metric =>
          rw [given, map_eq_error_iff] at h
          obtain ⟨selector, e', selects, he', rfl⟩ := DeclaredMetric.resolve_eq_error_iff.mp h
          obtain ⟨before, r, after, requires, known, unknown, rfl⟩ :=
            DeclaredSelector.resolve_eq_error_iff.mp he'
          exact .unknownOperator names given selects requires known unknown
    · cases (declare_of_isResource hresource).symm.trans h
    · cases (declare_of_unsupported noSource noResource).symm.trans h
      exact .unsupportedType noSource noResource
  · intro fault
    cases fault with
    | unsupportedType noSource noResource => exact declare_of_unsupported noSource noResource
    | missingSource names absent => rw [declare_of_source names, absent]
    | unknownOperator names given selects requires known unknown =>
        rw [declare_of_source names, given]
        exact map_eq_error_iff.mpr (DeclaredMetric.resolve_eq_error_iff.mpr
          ⟨_, _, selects, DeclaredSelector.resolve_eq_error_iff.mpr
            ⟨_, _, _, requires, known, unknown, rfl⟩, rfl⟩)

/-! ### Lists of entries -/

/-- Whether the type of an entry names a source. -/
def namesSource (m : MetricSpec) : Bool := (Source.ofName? m.kind).isSome

theorem namesSource_iff : m.namesSource = true ↔ ∃ source : Source, m.kind = source.name := by
  simp only [namesSource, Option.isSome_iff_exists, Source.ofName?_eq_some_iff]

variable {l : List MetricSpec}

theorem declareAll_eq_map (l : List MetricSpec) :
    declareAll target ns l = (l.mapM (declare target ns)).map (·.flatMap Option.toList) := by
  induction l with
  | nil => rfl
  | cons m rest ih =>
      rw [declareAll, mapM_cons_eq, ih]
      cases m.declare target ns with
      | error e => rfl
      | ok d => cases rest.mapM (declare target ns) <;> rfl

/-- The first entry with a fault refuses all. -/
theorem declareAll_eq_error_iff {e : SpecError} :
    declareAll target ns l = .error e ↔ ∃ before m after, l = before ++ m :: after ∧
      (∀ x ∈ before, ∀ e', ¬ x.HasFault e') ∧ m.HasFault e := by
  rw [declareAll_eq_map, map_eq_error_iff, mapM_eq_error_iff]
  simp only [ne_eq, declare_eq_error_iff]

/-- Without faults, the entries that name a source declare one metric each. -/
theorem declareAll_eq_ok_iff {ds : List Declaration} :
    declareAll target ns l = .ok ds ↔ (∀ m ∈ l, ∀ e, ¬ m.HasFault e) ∧
      List.Forall₂ (fun m d => m.Declares target ns d) (l.filter namesSource) ds := by
  induction l generalizing ds with
  | nil => simp [declareAll, eq_comm]
  | cons m rest ih =>
      rw [declareAll]
      cases hm : m.declare target ns with
      | error e =>
          have fault := declare_eq_error_iff.mp hm
          simp only [reduceCtorEq, false_iff, not_and]
          intro noFault
          exact absurd fault (noFault m List.mem_cons_self e)
      | ok d =>
          have noFault (e : SpecError) : ¬ m.HasFault e := fun fault =>
            nomatch hm.symm.trans (declare_eq_error_iff.mpr fault)
          simp only [map_eq_ok_iff, ih, List.forall_mem_cons, noFault, not_false_eq_true,
            implies_true, true_and]
          cases d with
          | none =>
              have resource := declare_eq_none_iff.mp hm
              have unnamed : ¬ m.namesSource = true := fun names =>
                have ⟨source, h⟩ := namesSource_iff.mp names
                resource.ne_name source h
              simp [unnamed]
          | some d =>
              have declares := declare_eq_some_iff.mp hm
              rw [List.filter_cons_of_pos (namesSource_iff.mpr ⟨_, declares.source⟩),
                List.forall₂_cons_left_iff]
              constructor
              · rintro ⟨others, ⟨faultless, hothers⟩, rfl⟩
                exact ⟨faultless, d, others, declares, hothers, rfl⟩
              · rintro ⟨faultless, d', others, declares', hothers, rfl⟩
                have same := hm.symm.trans (declare_eq_some_iff.mpr declares')
                cases same
                exact ⟨others, ⟨faultless, hothers⟩, rfl⟩

end MetricSpec

/-! ### Autoscalers -/

namespace Autoscaler

/-- The entries of the specification. -/
def entries (a : Autoscaler) : List MetricSpec := (a.spec.bind AutoscalerSpec.metrics).getD []

/-- What one entry of the specification declares. -/
def Declares (a : Autoscaler) (m : MetricSpec) (d : Declaration) : Prop :=
  ∃ spec, a.spec = some spec ∧ m.Declares spec.scaleTarget (a.metadata.ns.getD "") d

variable {a b : Autoscaler} {spec : AutoscalerSpec}

theorem declarations_eq_declareAll (h : a.spec = some spec) :
    a.declarations =
      MetricSpec.declareAll spec.scaleTarget (a.metadata.ns.getD "") a.entries := by
  simp only [declarations, entries, h, Option.bind_some]

theorem declares_iff (h : a.spec = some spec) {m : MetricSpec} {d : Declaration} :
    a.Declares m d ↔ m.Declares spec.scaleTarget (a.metadata.ns.getD "") d := by
  simp [Declares, h]

theorem declarations_eq_error_iff {e : SpecError} :
    a.declarations = .error e ↔ ∃ before m after, a.entries = before ++ m :: after ∧
      (∀ x ∈ before, ∀ e', ¬ x.HasFault e') ∧ m.HasFault e := by
  cases h : a.spec with
  | none => simp [declarations, entries, h]
  | some spec => rw [declarations_eq_declareAll h, MetricSpec.declareAll_eq_error_iff]

theorem declarations_eq_ok_iff {ds : List Declaration} :
    a.declarations = .ok ds ↔ (∀ m ∈ a.entries, ∀ e, ¬ m.HasFault e) ∧
      List.Forall₂ a.Declares (a.entries.filter MetricSpec.namesSource) ds := by
  cases h : a.spec with
  | none => simp [declarations, entries, h, eq_comm]
  | some spec =>
      rw [declarations_eq_declareAll h, MetricSpec.declareAll_eq_ok_iff]
      have declares :
          a.Declares = fun m d => m.Declares spec.scaleTarget (a.metadata.ns.getD "") d :=
        funext fun m => funext fun d => propext (declares_iff h)
      rw [declares]

/-- Each declaration comes from an entry. -/
theorem exists_declares {ds : List Declaration} {d : Declaration} (h : a.declarations = .ok ds)
    (hd : d ∈ ds) : ∃ m, a.Declares m d := by
  have declared := (declarations_eq_ok_iff.mp h).2
  clear h
  generalize a.entries.filter MetricSpec.namesSource = named at declared
  induction declared with
  | nil => cases hd
  | cons first rest ih =>
      rcases List.mem_cons.mp hd with rfl | hd
      · exact ⟨_, first⟩
      · exact ih hd

/-- A fault anywhere refuses all entries. -/
theorem declarations_fail_iff :
    (∃ e, a.declarations = .error e) ↔ ∃ m ∈ a.entries, ∃ e, m.HasFault e := by
  constructor
  · rintro ⟨e, he⟩
    obtain ⟨before, m, after, hentries, -, fault⟩ := declarations_eq_error_iff.mp he
    exact ⟨m, by simp [hentries], e, fault⟩
  · rintro ⟨m, hm, e, fault⟩
    cases h : a.declarations with
    | error e' => exact ⟨e', rfl⟩
    | ok ds => exact absurd fault ((declarations_eq_ok_iff.mp h).1 m hm e)

theorem ref_of_agrees (h : a.agrees b = true) : a.ref = b.ref := by
  rw [agrees, Bool.and_eq_true, beq_iff_eq, beq_iff_eq] at h
  have hns : a.metadata.settled.ns = b.metadata.settled.ns := congrArg Metadata.ns h.1
  have hname : a.metadata.settled.name = b.metadata.settled.name := congrArg Metadata.name h.1
  change a.metadata.ns = b.metadata.ns at hns
  change a.metadata.name = b.metadata.name at hname
  rw [ref, ref, hns, hname]

theorem spec_of_agrees (h : a.agrees b = true) : a.spec = b.spec := by
  rw [agrees, Bool.and_eq_true, beq_iff_eq, beq_iff_eq] at h
  exact h.2

theorem declarations_of_agrees (h : a.agrees b = true) : a.declarations = b.declarations := by
  have hns : a.metadata.ns.getD "" = b.metadata.ns.getD "" :=
    congrArg AutoscalerRef.ns (ref_of_agrees h)
  rw [declarations, declarations, spec_of_agrees h, hns]

/-- The entries of a specification are refused for the first fault among them, and otherwise those
that name a source declare one metric each, in order. Copies that agree have the same name and
declare the same. -/
theorem declarations_in_order (a : Autoscaler) :
    ((∃ e, a.declarations = .error e) ↔ ∃ m ∈ a.entries, ∃ e, m.HasFault e) ∧
    (∀ e, a.declarations = .error e ↔ ∃ before m after, a.entries = before ++ m :: after ∧
      (∀ x ∈ before, ∀ e', ¬ x.HasFault e') ∧ m.HasFault e) ∧
    (∀ ds, a.declarations = .ok ds ↔ (∀ m ∈ a.entries, ∀ e, ¬ m.HasFault e) ∧
      List.Forall₂ a.Declares (a.entries.filter MetricSpec.namesSource) ds) ∧
    ∀ b, a.agrees b = true → a.ref = b.ref ∧ a.declarations = b.declarations :=
  ⟨declarations_fail_iff, fun _ => declarations_eq_error_iff, fun _ => declarations_eq_ok_iff,
    fun _ h => ⟨ref_of_agrees h, declarations_of_agrees h⟩⟩

/-- An autoscaler with an entry of each type but one, in a version. -/
def assorted (version : String) : Autoscaler :=
  { Autoscaler.empty with
    metadata := { Metadata.empty with
      ns := some "shop", name := some "web", resourceVersion := some version }
    spec := some ⟨none, 3, ⟨some "apps/v1", "Deployment", "web"⟩, some
      [⟨"Resource", none, none, none, none, none⟩,
        ⟨"Pods", some ⟨⟨"rps", none⟩, ⟨"AverageValue", none, some "10", none⟩⟩,
          none, none, none, none⟩,
        ⟨"Object", none, some ⟨⟨none, "Service", "front"⟩, ⟨"load", some ⟨none, none⟩⟩,
          ⟨"AverageValue", none, some "10", none⟩⟩, none, none, none⟩,
        ⟨"External", none, none, some ⟨⟨"lag", some ⟨some (.ofList [("queue", "q1")]),
          some [⟨"zone", "In", some ["a"]⟩]⟩⟩, ⟨"Value", some "5", none, none⟩⟩, none, none⟩],
      none⟩ }

theorem declarations_in_order_assorted :
    (assorted "1").agrees (assorted "2") = true ∧ (assorted "1").ref = (assorted "2").ref ∧
      (assorted "1").declarations = (assorted "2").declarations ∧
      ∃ pods object external, (assorted "1").declarations = .ok [pods, object, external] ∧
        (assorted "1").Declares (assorted "1").entries[1] pods ∧
        (assorted "1").Declares (assorted "1").entries[2] object ∧
        (assorted "1").Declares (assorted "1").entries[3] external ∧
        pods.describedObject = some ⟨"apps/v1", "Deployment", "web", "shop"⟩ ∧
        object.describedObject = some ⟨"", "Service", "front", "shop"⟩ ∧
        external.describedObject = none ∧
        [pods.perReplica, object.perReplica, external.perReplica] = [false, true, false] ∧
        [pods.parameters, object.parameters, external.parameters] =
          [∅, ∅, .ofList [("queue", "q1")]] := by
  obtain ⟨-, -, served, agreement⟩ := declarations_in_order (assorted "1")
  have agree : (assorted "1").agrees (assorted "2") = true := by decide
  obtain ⟨pods, object, external, hds, parts⟩ : ∃ pods object external,
      (assorted "1").declarations = .ok [pods, object, external] ∧
      pods.describedObject = some ⟨"apps/v1", "Deployment", "web", "shop"⟩ ∧
      object.describedObject = some ⟨"", "Service", "front", "shop"⟩ ∧
      external.describedObject = none ∧
      [pods.perReplica, object.perReplica, external.perReplica] = [false, true, false] ∧
      [pods.parameters, object.parameters, external.parameters] =
        [∅, ∅, .ofList [("queue", "q1")]] := ⟨_, _, _, rfl, rfl, rfl, rfl, rfl, rfl⟩
  obtain ⟨-, declared⟩ := (served _).mp hds
  have named : (assorted "1").entries.filter MetricSpec.namesSource =
      [(assorted "1").entries[1], (assorted "1").entries[2], (assorted "1").entries[3]] := rfl
  rw [named] at declared
  obtain ⟨ref, same⟩ := agreement _ agree
  simp only [List.forall₂_cons, List.forall₂_nil_left_iff] at declared
  exact ⟨agree, ref, same, pods, object, external, hds, declared.1, declared.2.1, declared.2.2.1,
    parts⟩

end Autoscaler

end ScalingMetrics
