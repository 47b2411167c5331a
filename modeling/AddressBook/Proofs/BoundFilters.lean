import AddressBook.Evaluation.Record
import AddressBook.Proofs.FilterSkeleton
import AddressBook.Query.Compile

/-!
# Text-matches bound to their nodes

A text-match repeats the name of the node that it stands in, which a search goes
by, and the filter is bound if the two agree at every node.  Whatever element is
read as a filter, the result is bound (`Clause.BoundTo`), and a bound filter can
be written as an element that is read as just this filter
(`Filter.ofElement_toElement`).
-/

namespace AddressBook

open Xml (Element)

def ParamFilter.Bound (p : ParamFilter) : Prop :=
  ∀ t ∈ p.textMatch, t.enclosing = p.name

def PropFilter.Bound (p : PropFilter) : Prop :=
  (∀ t ∈ p.textMatch, t.enclosing = p.name) ∧ ∀ q ∈ p.paramFilters, q.Bound

/-- Every text-match carries the name of its own node. -/
def Filter.Bound (filter : Filter) : Prop :=
  ∀ p ∈ filter.propFilters, p.Bound

instance (p : ParamFilter) : Decidable p.Bound :=
  inferInstanceAs (Decidable (∀ t ∈ p.textMatch, t.enclosing = p.name))

instance (p : PropFilter) : Decidable p.Bound :=
  inferInstanceAs (Decidable ((∀ t ∈ p.textMatch, t.enclosing = p.name) ∧
    ∀ q ∈ p.paramFilters, q.Bound))

instance (filter : Filter) : Decidable filter.Bound :=
  inferInstanceAs (Decidable (∀ p ∈ filter.propFilters, p.Bound))

/-! ## What is read is bound -/

namespace Clause

/-- A text-match is bound to the name it is read under, a filter to its own. -/
def BoundTo (name : String) : Clause → Prop
  | propFilter p => p.Bound
  | paramFilter p => p.Bound
  | textMatch t => t.enclosing = name
  | isNotDefined => True
  | ignored => True

theorem boundTo_predicate (name : String) (e : Element) :
    (predicate name e).value.BoundTo name := by
  unfold predicate
  split
  next => rfl
  next =>
    split
    next => trivial
    next => trivial

theorem boundTo_collect {name : String} {step : Element → Traced Event Clause}
    (hstep : ∀ e, (step e).value.BoundTo name) (e : Element) :
    ∀ clause ∈ (Traced.collect (e.childElements.map step)).value,
      clause.BoundTo name := by
  intro clause hclause
  rw [Traced.value_collect, List.map_map] at hclause
  obtain ⟨child, -, rfl⟩ := List.mem_map.mp hclause
  exact hstep child

section Parts

variable {name : String} {clause : Clause}

theorem BoundTo.textMatch? (hbound : clause.BoundTo name) :
    ∀ t ∈ clause.textMatch?, t.enclosing = name := by
  intro t ht
  cases clause with
  | textMatch said =>
      cases ht
      exact hbound
  | _ => cases ht

theorem BoundTo.paramFilter? (hbound : clause.BoundTo name) :
    ∀ p ∈ clause.paramFilter?, p.Bound := by
  intro p hp
  cases clause with
  | paramFilter said =>
      cases hp
      exact hbound
  | _ => cases hp

theorem BoundTo.propFilter? (hbound : clause.BoundTo name) :
    ∀ p ∈ clause.propFilter?, p.Bound := by
  intro p hp
  cases clause with
  | propFilter said =>
      cases hp
      exact hbound
  | _ => cases hp

theorem forall_mem_filterMap {α : Type} {part? : Clause → Option α}
    {P : α → Prop} {clauses : List Clause}
    (hbound : ∀ clause ∈ clauses, clause.BoundTo name)
    (hpart : ∀ {clause : Clause}, clause.BoundTo name →
      ∀ part ∈ part? clause, P part) :
    ∀ part ∈ clauses.filterMap part?, P part := by
  intro part hmem
  obtain ⟨clause, hclause, hsays⟩ := List.mem_filterMap.mp hmem
  exact hpart (hbound clause hclause) part hsays

end Parts

end Clause

theorem ParamFilter.bound_ofElement (e : Element) :
    (ofElement e).value.Bound := by
  have hclauses :=
    Clause.boundTo_collect (Clause.boundTo_predicate e.nodeName) e
  intro t ht
  exact Clause.forall_mem_filterMap hclauses Clause.BoundTo.textMatch? t
    (List.mem_of_getLast? ht)

theorem PropFilter.boundTo_clause (name : String) (e : Element) :
    (clause name e).value.BoundTo name := by
  unfold clause
  split
  next => exact ParamFilter.bound_ofElement e
  next => exact Clause.boundTo_predicate name e

theorem PropFilter.bound_ofElement (table : PropertyTable) (e : Element) :
    (ofElement table e).value.Bound := by
  have hclauses := Clause.boundTo_collect (boundTo_clause e.nodeName) e
  constructor
  · intro t ht
    exact Clause.forall_mem_filterMap hclauses Clause.BoundTo.textMatch? t
      (List.mem_of_getLast? ht)
  · exact Clause.forall_mem_filterMap hclauses Clause.BoundTo.paramFilter?

theorem Filter.boundTo_clause (table : PropertyTable) (e : Element) :
    (clause table e).value.BoundTo "" := by
  -- a root reads no text-match, so the name it is said to bind them to does not
  -- matter
  unfold clause
  split
  next => exact PropFilter.bound_ofElement table e
  next => trivial

theorem Filter.bound_ofElement (table : PropertyTable) (e : Element) :
    (ofElement table e).value.Bound :=
  Clause.forall_mem_filterMap (Clause.boundTo_collect (boundTo_clause table) e)
    Clause.BoundTo.propFilter?

/-! ## What is bound can be written -/

theorem Xml.ExpandedName.beq_iff_localName (uri : Option String)
    (first second : String) :
    ((⟨uri, first⟩ : ExpandedName) == ⟨uri, second⟩) = (first == second) := by
  rw [Bool.eq_iff_iff, beq_iff_eq, beq_iff_eq, mk.injEq]
  simp

namespace Xml.Element

/-- An element in the CardDAV namespace; its attributes are in none. -/
def cardDav (localName : String) (attributes : List (String × String))
    (children : List Node) : Element where
  tag :=
    ⟨⟨some cardDavUri, localName⟩, attributes.map fun (name, value) =>
      ⟨⟨none, name⟩, value⟩⟩
  children := children

section Written

variable (localName : String) (attributes : List (String × String))
  (children : List Node)

@[simp] theorem isCardDav_cardDav (other : String) :
    (cardDav localName attributes children).isCardDav other =
      (localName == other) :=
  ExpandedName.beq_iff_localName _ _ _

@[simp] theorem attribute?_cardDav (name : String) :
    (cardDav localName attributes children).tag.attribute? name =
      attributes.lookup name := by
  unfold cardDav Tag.attribute?
  induction attributes with
  | nil => rfl
  | cons first rest ih =>
      rw [List.map_cons, List.find?_cons, List.lookup_cons,
        ExpandedName.beq_iff_localName, BEq.comm]
      cases name == first.1 with
      | true => rfl
      | false => exact ih

@[simp] theorem childElements_cardDav (inner : List Element) :
    (cardDav localName attributes (inner.map node)).childElements = inner :=
  filterMap_element?_node inner

end Written

end Xml.Element

def TextMatch.toElement (t : TextMatch) : Element :=
  .cardDav "text-match"
    [("collation", t.collation.name), ("match-type", t.matchType.name),
      ("negate-condition", if t.negate then "yes" else "no")]
    (if t.pattern = "" then [] else [.text t.pattern])

/-- The elements of an is-not-defined and of a text-match, where the node has
them. -/
def predicateElements (isNotDefined : Bool) (textMatch : Option TextMatch) :
    List Element :=
  (if isNotDefined then [.cardDav "is-not-defined" [] []] else []) ++
    (textMatch.map TextMatch.toElement).toList

def ParamFilter.toElement (p : ParamFilter) : Element :=
  .cardDav "param-filter" [("name", p.name)]
    ((predicateElements p.isNotDefined p.textMatch).map Element.node)

def PropFilter.toElement (p : PropFilter) : Element :=
  .cardDav "prop-filter" [("name", p.name)]
    ((predicateElements p.isNotDefined p.textMatch ++
      p.paramFilters.map ParamFilter.toElement).map Element.node)

def Filter.Test.attribute : Filter.Test → String
  | anyOf => "anyof"
  | allOf => "allof"

def Filter.toElement (filter : Filter) : Element :=
  .cardDav "filter" [("test", filter.test.attribute)]
    ((filter.propFilters.map PropFilter.toElement).map Element.node)

@[simp] theorem TextMatch.isCardDav_toElement (t : TextMatch) (other : String) :
    t.toElement.isCardDav other = ("text-match" == other) :=
  Element.isCardDav_cardDav _ _ _ _

@[simp] theorem ParamFilter.isCardDav_toElement (p : ParamFilter)
    (other : String) :
    p.toElement.isCardDav other = ("param-filter" == other) :=
  Element.isCardDav_cardDav _ _ _ _

@[simp] theorem PropFilter.isCardDav_toElement (p : PropFilter)
    (other : String) :
    p.toElement.isCardDav other = ("prop-filter" == other) :=
  Element.isCardDav_cardDav _ _ _ _

theorem TextMatch.directText_toElement (t : TextMatch) :
    t.toElement.directText = t.pattern := by
  unfold toElement Element.directText Element.cardDav
  simp only
  split
  next hblank =>
    rw [hblank]
    rfl
  next => simp [Xml.Node.text?]

theorem TextMatch.ofElement_toElement (t : TextMatch) :
    ofElement t.enclosing t.toElement = ⟨t, []⟩ := by
  have hcollation :
      t.toElement.tag.attribute? "collation" = some t.collation.name := by
    simp [toElement]
  have hmatchType :
      t.toElement.tag.attribute? "match-type" = some t.matchType.name := by
    simp [toElement, List.lookup_cons]
  have hnegate :
      (t.toElement.tag.attribute? "negate-condition" == some "yes") =
        t.negate := by
    cases hnegated : t.negate <;> simp [toElement, hnegated, List.lookup_cons]
  unfold ofElement supportedOr
  simp only [hcollation, hmatchType, hnegate, t.directText_toElement,
    Collation.ofName?_name, MatchType.ofName?_name, List.append_nil]

namespace Clause

/-- The clauses of an is-not-defined and of a text-match, where the node has
them. -/
def ofPredicates (isNotDefined : Bool) (textMatch : Option TextMatch) :
    List Clause :=
  (if isNotDefined then [.isNotDefined] else []) ++
    (textMatch.map .textMatch).toList

theorem collect_predicateElements {name : String} (isNotDefined : Bool)
    {textMatch : Option TextMatch}
    (hbound : ∀ t ∈ textMatch, t.enclosing = name) :
    Traced.collect
        ((predicateElements isNotDefined textMatch).map (predicate name)) =
      ⟨ofPredicates isNotDefined textMatch, []⟩ := by
  have habsence :
      predicate name (.cardDav "is-not-defined" [] []) =
        ⟨.isNotDefined, []⟩ := by
    simp [predicate]
  cases textMatch with
  | none =>
      cases isNotDefined <;>
        simp [predicateElements, ofPredicates, Traced.collect, habsence]
  | some t =>
      have hread := t.ofElement_toElement
      rw [hbound t rfl] at hread
      have htext : predicate name t.toElement = ⟨.textMatch t, []⟩ := by
        simp [predicate, hread, Traced.map]
      cases isNotDefined <;>
        simp [predicateElements, ofPredicates, Traced.collect, habsence, htext]

section Predicates

variable (isNotDefined : Bool) (textMatch : Option TextMatch)

theorem contains_ofPredicates :
    (ofPredicates isNotDefined textMatch).contains .isNotDefined =
      isNotDefined := by
  cases isNotDefined <;> cases textMatch <;> rfl

theorem getLast?_ofPredicates :
    ((ofPredicates isNotDefined textMatch).filterMap textMatch?).getLast? =
      textMatch := by
  cases isNotDefined <;> cases textMatch <;> rfl

theorem paramFilters_ofPredicates :
    (ofPredicates isNotDefined textMatch).filterMap paramFilter? = [] := by
  cases isNotDefined <;> cases textMatch <;> rfl

end Predicates

end Clause

namespace ParamFilter

theorem ofElement_toElement {p : ParamFilter} (hbound : p.Bound) :
    ofElement p.toElement = ⟨p, []⟩ := by
  have hname : p.toElement.nodeName = p.name := by
    simp [Element.nodeName, toElement]
  have hchildren :
      p.toElement.childElements =
        predicateElements p.isNotDefined p.textMatch :=
    Element.childElements_cardDav _ _ _
  rw [ofElement, hname, hchildren, Clause.collect_predicateElements _ hbound,
    Traced.map, ofClauses, Clause.contains_ofPredicates,
    Clause.getLast?_ofPredicates]

end ParamFilter

namespace PropFilter

theorem ofClauses_ofPredicates (p : PropFilter) :
    ofClauses p.name
      (Clause.ofPredicates p.isNotDefined p.textMatch ++
        p.paramFilters.map .paramFilter) = p := by
  have habsence :
      (p.paramFilters.map Clause.paramFilter).contains .isNotDefined =
        false := by
    simp
  have htexts :
      (p.paramFilters.map Clause.paramFilter).filterMap Clause.textMatch? =
        [] := by
    simp [Clause.textMatch?]
  have hparams :
      (p.paramFilters.map Clause.paramFilter).filterMap Clause.paramFilter? =
        p.paramFilters := by
    rw [List.filterMap_map]
    exact List.filterMap_some
  simp only [ofClauses, List.contains_append, List.filterMap_append, habsence,
    htexts, hparams, Clause.contains_ofPredicates,
    Clause.paramFilters_ofPredicates, List.append_nil,
    Clause.getLast?_ofPredicates, Bool.or_false, List.nil_append]

theorem clause_predicateElements (name : String) (isNotDefined : Bool)
    (textMatch : Option TextMatch) :
    (predicateElements isNotDefined textMatch).map (clause name) =
      (predicateElements isNotDefined textMatch).map
        (Clause.predicate name) := by
  apply List.map_congr_left
  intro e he
  have hother : e.isCardDav "param-filter" = false := by
    -- neither of the two elements is taken for a param-filter
    rcases List.mem_append.mp he with habsence | htext
    · split at habsence
      · rw [List.mem_singleton.mp habsence]
        simp
      · cases habsence
    · obtain ⟨t, -, rfl⟩ :=
        Option.map_eq_some_iff.mp (Option.mem_toList.mp htext)
      simp
  rw [clause, hother]
  rfl

theorem ofElement_toElement {p : PropFilter} (hbound : p.Bound)
    (table : PropertyTable) :
    ofElement table p.toElement =
      ⟨p, if (table.lookup p.name).isNone then [.unmappedPropFilter p.name]
        else []⟩ := by
  obtain ⟨htext, hparams⟩ := hbound
  have hname : p.toElement.nodeName = p.name := by
    simp [Element.nodeName, toElement]
  have hchildren : p.toElement.childElements =
      predicateElements p.isNotDefined p.textMatch ++
        p.paramFilters.map ParamFilter.toElement :=
    Element.childElements_cardDav _ _ _
  have hread :
      ∀ q ∈ p.paramFilters,
        clause p.name q.toElement = ⟨.paramFilter q, []⟩ := by
    intro q hq
    simp [clause, ParamFilter.ofElement_toElement (hparams q hq), Traced.map]
  unfold ofElement
  simp only [hname, hchildren, List.map_append, List.map_map,
    Traced.collect_append, clause_predicateElements,
    Clause.collect_predicateElements _ htext, Function.comp_def,
    Traced.collect_map_eq hread, ofClauses_ofPredicates]
  simp

end PropFilter

namespace Filter

theorem ofAttribute_attribute (test : Test) :
    Test.ofAttribute (some test.attribute) = test := by
  cases test <;> simp [Test.attribute, Test.ofAttribute]

/-- A bound filter written as an element is read as it is; only properties that
are not mapped are reported. -/
theorem ofElement_toElement {filter : Filter} (hbound : filter.Bound)
    (table : PropertyTable) :
    ofElement table filter.toElement =
      ⟨filter, filter.propFilters.flatMap fun p =>
        if (table.lookup p.name).isNone then [.unmappedPropFilter p.name]
        else []⟩ := by
  have hchildren : filter.toElement.childElements =
      filter.propFilters.map PropFilter.toElement :=
    Element.childElements_cardDav _ _ _
  have htest :
      filter.toElement.tag.attribute? "test" = some filter.test.attribute := by
    simp [toElement]
  have hread : ∀ p ∈ filter.propFilters, clause table p.toElement =
      ⟨.propFilter p,
        if (table.lookup p.name).isNone then [.unmappedPropFilter p.name]
        else []⟩ := by
    intro p hp
    simp [clause, PropFilter.ofElement_toElement (hbound p hp), Traced.map]
  have hpropFilters :
      (filter.propFilters.map Clause.propFilter).filterMap Clause.propFilter? =
        filter.propFilters := by
    rw [List.filterMap_map]
    exact List.filterMap_some
  rw [ofElement, hchildren, List.map_map, Function.comp_def,
    Traced.collect_map_eq hread, Traced.map, htest, ofAttribute_attribute,
    hpropFilters]

end Filter

/-! ## What a search asks for -/

/-- The keys that the search for a text-match asks for; without a mapping there
is no search. -/
def PropertyTable.searchedKeys (table : PropertyTable) (t : TextMatch) :
    List String :=
  match table.compileTextMatch t with
  | none => []
  | some query => query.keys

theorem PropertyTable.searchedKeys_eq (table : PropertyTable) (t : TextMatch) :
    table.searchedKeys t = table.keysOf t.enclosing := by
  unfold searchedKeys compileTextMatch
  cases hquery : table.compile t t.enclosing with
  | none => exact (keysOf_eq_nil_iff.mpr (compile_eq_none_iff.mp hquery)).symm
  | some query =>
      change query.keys = _
      rw [eq_of_compile hquery, Query.keys, List.map_map]
      exact List.map_id' _

/-- The filters that are read from elements are the bound ones.  Hence a search
for the text-match of a prop-filter asks for the keys that a record is read
under for that prop-filter, through any table. -/
theorem Filter.ofElement_exactly_bound :
    (∀ (table : PropertyTable) (e : Element), (ofElement table e).value.Bound) ∧
    (∀ filter : Filter, filter.Bound →
      ∃ e : Element, e.isCardDav "filter" = true ∧
        ∀ table, (ofElement table e).value = filter) ∧
    ∀ (table : PropertyTable) (e : Element),
      ∀ p ∈ (ofElement table e).value.propFilters, ∀ t ∈ p.textMatch,
        ∀ other : PropertyTable, other.searchedKeys t = other.keysOf p.name ∧
          ∀ {ρ : Type} [Record ρ] (record : ρ),
            other.valuesOf record p.name =
              (other.searchedKeys t).filterMap (Record.value? record) := by
  refine ⟨bound_ofElement, ?_, ?_⟩
  · intro filter hbound
    refine ⟨filter.toElement, Element.isCardDav_cardDav _ _ _ _, ?_⟩
    intro table
    rw [ofElement_toElement hbound]
  · intro table e p hp t ht other
    have hname : t.enclosing = p.name := (bound_ofElement table e p hp).1 t ht
    have hkeys : other.searchedKeys t = other.keysOf p.name := by
      rw [other.searchedKeys_eq, hname]
    refine ⟨hkeys, ?_⟩
    intro ρ _ record
    rw [hkeys]
    rfl

/-- Everything that a reader could have lost on the way: both predicates at
once, a blank pattern, and values of attributes that are not the defaults. -/
def homePhone : Filter where
  test := .allOf
  propFilters :=
    [⟨"TEL", true,
      some
        { pattern := "+49 \"30\""
          negate := true
          collation := .octet
          matchType := .startsWith
          enclosing := "TEL" },
      [⟨"TYPE", false, some (.ofPattern "TYPE" "" false)⟩, ⟨"", true, none⟩]⟩,
     ⟨"EMAIL", false, some (.ofPattern "EMAIL" "alice" false), []⟩]

theorem homePhone_read_back :
    homePhone.Bound ∧
      (∃ e : Element, e.isCardDav "filter" = true ∧
        ∀ table, (Filter.ofElement table e).value = homePhone) ∧
      PropertyTable.cardDav.searchedKeys (.ofPattern "EMAIL" "alice" false) =
        ["email", "email2", "email3"] := by
  have hbound : homePhone.Bound := by
    decide
  obtain ⟨-, hwritten, hsearched⟩ := Filter.ofElement_exactly_bound
  obtain ⟨e, htag, hread⟩ := hwritten homePhone hbound
  have hemail : ⟨"EMAIL", false, some (.ofPattern "EMAIL" "alice" false), []⟩ ∈
      (Filter.ofElement .cardDav e).value.propFilters := by
    rw [hread]
    decide
  obtain ⟨hkeys, -⟩ := hsearched .cardDav e _ hemail _ rfl .cardDav
  refine ⟨hbound, ⟨e, htag, hread⟩, hkeys.trans ?_⟩
  decide +kernel

end AddressBook
