import AddressBook.Evaluation.Prepared
import AddressBook.Property.CardDav

/-!
# The legal skeleton of a filter element

The skeleton of a filter element is what remains of it when all elements are
taken out that may not stand where they stand, together with comments,
instructions and texts that say nothing.  Reading it brings the same result, and
the same reports except for those of ignored elements (`Reduces`), level by
level (`Clause.collect_reduces`).
-/

namespace AddressBook

open Xml (Element Document)
open AddressBook.Filter (Level)

/-! ## Skeletons -/

namespace Xml

namespace Node

def isText (node : Node) : Bool :=
  node.text?.isSome

mutual

/-- The node without comments, instructions and texts at any depth.  A
text-match keeps its own text and nothing else. -/
def bare : Node → List Node
  | element tag children =>
    [element tag
      (if (Element.mk tag children).isCardDav "text-match" then
        children.filter isText
      else bareOfList children)]
  | text _ => []
  | comment _ => []
  | instruction _ _ => []

def bareOfList : List Node → List Node
  | [] => []
  | node :: rest => bare node ++ bareOfList rest

end

end Node

namespace Element

def node (e : Element) : Node :=
  .element e.tag e.children

def bare (e : Element) : Element :=
  ⟨e.tag,
    if e.isCardDav "text-match" then e.children.filter Node.isText
    else Node.bareOfList e.children⟩

/-- The element with the kept ones of its child elements, each reduced in turn,
and nothing else. -/
def pruned (keeps : Element → Bool) (reduce : Element → Element) (e : Element) :
    Element :=
  ⟨e.tag, (e.childElements.filter keeps).map fun child => (reduce child).node⟩

/-- The child elements that are not kept and those refused inside the kept
ones. -/
def refused (keeps : Element → Bool) (inside : Element → List Element)
    (e : Element) : List Element :=
  e.childElements.flatMap fun child =>
    if keeps child then inside child else [child]

end Element

end Xml

namespace Filter.Level

/-- Whether an element may be the child of a node of the level. -/
def admits (level : Level) (e : Element) : Bool :=
  level.allowsPropFilters && e.isCardDav "prop-filter" ||
    level.allowsParamFilters && e.isCardDav "param-filter" ||
    level.allowsPredicates &&
      (e.isCardDav "text-match" || e.isCardDav "is-not-defined")

theorem admits_root (e : Element) :
    admits .root e = e.isCardDav "prop-filter" := by
  simp [admits, allowsPropFilters, allowsParamFilters, allowsPredicates]

theorem admits_property (e : Element) :
    admits .property e =
      (e.isCardDav "param-filter" ||
        (e.isCardDav "text-match" || e.isCardDav "is-not-defined")) := by
  simp [admits, allowsPropFilters, allowsParamFilters, allowsPredicates]

theorem admits_parameter (e : Element) :
    admits .parameter e =
      (e.isCardDav "text-match" || e.isCardDav "is-not-defined") := by
  simp [admits, allowsPropFilters, allowsParamFilters, allowsPredicates]

end Filter.Level

namespace Xml.Element

def parameterSkeleton (e : Element) : Element :=
  e.pruned (Level.admits .parameter) bare

def propertySkeleton (e : Element) : Element :=
  e.pruned (Level.admits .property) fun child =>
    if child.isCardDav "param-filter" then child.parameterSkeleton
    else child.bare

def filterSkeleton (e : Element) : Element :=
  e.pruned (Level.admits .root) propertySkeleton

def refusedInParameter (e : Element) : List Element :=
  e.refused (Level.admits .parameter) fun _ => []

def refusedInProperty (e : Element) : List Element :=
  e.refused (Level.admits .property) fun child =>
    if child.isCardDav "param-filter" then child.refusedInParameter else []

/-- The elements below a filter element that stand where they may not, in
document order.  What is inside a refused element, a text-match or an
is-not-defined is not looked at. -/
def refusedInFilter (e : Element) : List Element :=
  e.refused (Level.admits .root) refusedInProperty

@[simp] theorem isCardDav_bare (e : Element) (localName : String) :
    e.bare.isCardDav localName = e.isCardDav localName := rfl

theorem filterMap_element?_node (es : List Element) :
    (es.map node).filterMap Node.element? = es := by
  have hnode : Node.element? ∘ node = some := by
    funext e
    rfl
  rw [List.filterMap_map, hnode, List.filterMap_some]

@[simp] theorem childElements_pruned (keeps : Element → Bool)
    (reduce : Element → Element) (e : Element) :
    (e.pruned keeps reduce).childElements =
      (e.childElements.filter keeps).map reduce := by
  have hchildren : (e.pruned keeps reduce).children =
      ((e.childElements.filter keeps).map reduce).map node := by
    rw [List.map_map]
    rfl
  rw [childElements, hchildren, filterMap_element?_node]

theorem directText_bare {e : Element}
    (htext : e.isCardDav "text-match" = true) :
    e.bare.directText = e.directText := by
  have hkept : (e.children.filter Node.isText).filterMap Node.text? =
      e.children.filterMap Node.text? := by
    have hsame :
        (fun node : Node => if node.isText = true then node.text? else none) =
          Node.text? := by
      funext node
      cases node <;> rfl
    rw [List.filterMap_filter, hsame]
  simp [directText, bare, htext, hkept]

theorem elements_eq_cons (e : Element) :
    e.elements = e :: Node.elementsOfList e.children := rfl

end Xml.Element

/-! ## Reading skeletons -/

def Event.isIgnored : Event → Bool
  | ignoredElement _ _ => true
  | _ => false

@[simp] theorem Xml.Element.isIgnored_ignored (e : Element) :
    e.ignored.isIgnored = true := rfl

/-- The reduced result is the full one; what is not reported any more is that
the refused elements are ignored. -/
structure Reduces {α : Type} (full reduced : Traced Event α)
    (refused : List Element) : Prop where
  value_eq : reduced.value = full.value
  trace_eq : reduced.trace = full.trace.filter (!·.isIgnored)
  refused_eq : full.trace.filter Event.isIgnored = refused.map Element.ignored

namespace Reduces

variable {α β : Type} {full reduced : Traced Event α} {refused : List Element}

theorem of_quiet (hquiet : ∀ event ∈ full.trace, event.isIgnored = false) :
    Reduces full full [] := by
  constructor
  · rfl
  · refine (List.filter_eq_self.mpr ?_).symm
    intro event hevent
    simp [hquiet event hevent]
  · refine List.filter_eq_nil_iff.mpr ?_
    intro event hevent
    simp [hquiet event hevent]

theorem map (hreduces : Reduces full reduced refused) (f : α → β) :
    Reduces (full.map f) (reduced.map f) refused := by
  obtain ⟨hvalue, htrace, hrefused⟩ := hreduces
  constructor
  · simp [hvalue]
  · exact htrace
  · exact hrefused

theorem after (hreduces : Reduces full reduced refused) {earlier : List Event}
    (hquiet : ∀ event ∈ earlier, event.isIgnored = false) :
    Reduces ⟨full.value, earlier ++ full.trace⟩
      ⟨reduced.value, earlier ++ reduced.trace⟩ refused := by
  obtain ⟨hvalue, htrace, hrefused⟩ := hreduces
  have hearlier :
      Reduces (⟨(), earlier⟩ : Traced Event Unit) ⟨(), earlier⟩ [] :=
    of_quiet hquiet
  obtain ⟨-, hkept, hnone⟩ := hearlier
  constructor
  · exact hvalue
  · rw [List.filter_append, ← hkept, htrace]
  · rw [List.filter_append, hnone, hrefused]
    rfl

end Reduces

namespace Clause

/-- The clauses that say something. -/
def telling (clauses : List Clause) : List Clause :=
  clauses.filter (· ≠ .ignored)

theorem telling_cons (clause : Clause) (rest : List Clause) :
    telling (clause :: rest) =
      if clause = .ignored then telling rest else clause :: telling rest := by
  by_cases hclause : clause = .ignored <;> simp [telling, hclause]

variable {step : Element → Traced Event Clause} {keeps : Element → Bool}
  {reduce : Element → Element} {inside : Element → List Element}

/-- If kept child elements reduce and the others are ignored with a report, an
element reduces. -/
theorem collect_reduces
    (hkept : ∀ child, keeps child = true →
      Reduces (step child) (step (reduce child)) (inside child))
    (hrefused : ∀ child, keeps child = false →
      step child = ⟨.ignored, [child.ignored]⟩)
    (e : Element) :
    Reduces ((Traced.collect (e.childElements.map step)).map telling)
      ((Traced.collect ((e.pruned keeps reduce).childElements.map step)).map
        telling)
      (e.refused keeps inside) := by
  rw [Element.childElements_pruned, Element.refused]
  induction e.childElements with
  | nil => exact .of_quiet (by simp)
  | cons child rest ih =>
      obtain ⟨hvalue, htrace, hlost⟩ := ih
      simp only [Traced.collect, Traced.map] at hvalue htrace hlost
      cases hchild : keeps child with
      | true =>
          obtain ⟨hvalue', htrace', hlost'⟩ := hkept child hchild
          constructor
          · simp only [Traced.collect, Traced.map, List.filter_cons, hchild,
              if_true, List.map_cons, telling_cons, hvalue', hvalue]
          · simp only [Traced.collect, Traced.map, List.filter_cons, hchild,
              if_true, List.map_cons, List.flatMap_cons, List.filter_append,
              htrace', htrace]
          · simp only [Traced.collect, Traced.map, List.map_cons,
              List.flatMap_cons, List.filter_append, List.map_append, hchild,
              if_true, hlost', hlost]
      | false =>
          have hstep := hrefused child hchild
          constructor
          · simp only [Traced.collect, Traced.map, List.filter_cons, hchild,
              Bool.false_eq_true, if_false, List.map_cons, hstep, telling_cons,
              if_true, hvalue]
          · simp only [Traced.collect, Traced.map, List.filter_cons, hchild,
              Bool.false_eq_true, if_false, List.map_cons, List.flatMap_cons,
              hstep, List.singleton_append, Element.isIgnored_ignored,
              Bool.not_true, htrace]
          · simp only [Traced.collect, Traced.map, List.map_cons,
              List.flatMap_cons, hchild, Bool.false_eq_true, if_false, hstep,
              List.singleton_append, List.filter_cons,
              Element.isIgnored_ignored, if_true, hlost]

theorem filterMap_telling {α : Type} {part? : Clause → Option α}
    (hignored : part? .ignored = none) (clauses : List Clause) :
    (telling clauses).filterMap part? = clauses.filterMap part? := by
  induction clauses with
  | nil => rfl
  | cons clause rest ih =>
      by_cases hclause : clause = .ignored
      · simp [telling_cons, hclause, hignored, ih]
      · simp [telling_cons, hclause, List.filterMap_cons, ih]

theorem contains_telling (clauses : List Clause) :
    (telling clauses).contains .isNotDefined =
      clauses.contains .isNotDefined := by
  simp [telling]

end Clause

theorem supportedOr_quiet {α : Type} [Inhabited α] {ofName? : String → Option α}
    {report : String → Event}
    (hreport : ∀ name, (report name).isIgnored = false)
    (given : Option String) :
    ∀ event ∈ (supportedOr ofName? report given).trace,
      event.isIgnored = false := by
  intro event hevent
  cases given with
  | none => cases hevent
  | some name =>
      simp only [supportedOr] at hevent
      cases hname : ofName? name with
      | none =>
          rw [hname] at hevent
          rw [List.mem_singleton.mp hevent]
          exact hreport name
      | some value =>
          rw [hname] at hevent
          cases hevent

namespace TextMatch

theorem ofElement_bare {e : Element} (htext : e.isCardDav "text-match" = true)
    (enclosing : String) :
    ofElement enclosing e.bare = ofElement enclosing e := by
  simp only [ofElement, Element.directText_bare htext]
  rfl

/-- Inside a text-match nothing is reported as ignored. -/
theorem ofElement_quiet (enclosing : String) (e : Element) :
    ∀ event ∈ (ofElement enclosing e).trace, event.isIgnored = false := by
  intro event hevent
  rcases List.mem_append.mp hevent with hcollation | hmatchType
  · exact supportedOr_quiet (fun _ => rfl) _ event hcollation
  · exact supportedOr_quiet (fun _ => rfl) _ event hmatchType

end TextMatch

namespace Clause

variable {name : String} {e : Element}

/-- A text-match or is-not-defined says the same without what is passed over in
it. -/
theorem predicate_reduces
    (hkept :
      (e.isCardDav "text-match" || e.isCardDav "is-not-defined") = true) :
    Reduces (predicate name e) (predicate name e.bare) [] := by
  by_cases htext : e.isCardDav "text-match" = true
  · simp only [predicate, Element.isCardDav_bare, htext, if_true,
      TextMatch.ofElement_bare htext]
    exact .of_quiet (TextMatch.ofElement_quiet name e)
  · have hundefined : e.isCardDav "is-not-defined" = true := by
      simpa [htext] using hkept
    simp only [predicate, Element.isCardDav_bare, htext, hundefined, if_true]
    exact .of_quiet (by simp)

theorem predicate_of_refused
    (hrefused :
      (e.isCardDav "text-match" || e.isCardDav "is-not-defined") = false) :
    predicate name e = ⟨.ignored, [e.ignored]⟩ := by
  obtain ⟨htext, hundefined⟩ := Bool.or_eq_false_iff.mp hrefused
  simp [predicate, htext, hundefined]

end Clause

namespace ParamFilter

theorem ofClauses_telling (name : String) (clauses : List Clause) :
    ofClauses name (Clause.telling clauses) = ofClauses name clauses := by
  unfold ofClauses
  rw [Clause.contains_telling, Clause.filterMap_telling rfl]

theorem ofElement_reduces (e : Element) :
    Reduces (ofElement e) (ofElement e.parameterSkeleton)
      e.refusedInParameter := by
  have hkept : ∀ child, Level.admits .parameter child = true →
      Reduces (Clause.predicate e.nodeName child)
        (Clause.predicate e.nodeName child.bare) [] := by
    intro child hadmitted
    exact Clause.predicate_reduces (Level.admits_parameter child ▸ hadmitted)
  have hrefused : ∀ child, Level.admits .parameter child = false →
      Clause.predicate e.nodeName child = ⟨.ignored, [child.ignored]⟩ := by
    intro child hforbidden
    exact Clause.predicate_of_refused
      (Level.admits_parameter child ▸ hforbidden)
  have hclauses :=
    (Clause.collect_reduces hkept hrefused e).map (ofClauses e.nodeName)
  simp only [Traced.map, ofClauses_telling] at hclauses
  exact hclauses

end ParamFilter

namespace PropFilter

theorem ofClauses_telling (name : String) (clauses : List Clause) :
    ofClauses name (Clause.telling clauses) = ofClauses name clauses := by
  unfold ofClauses
  rw [Clause.contains_telling, Clause.filterMap_telling rfl,
    Clause.filterMap_telling rfl]

theorem clause_reduces (name : String) {e : Element}
    (hadmitted : Level.admits .property e = true) :
    Reduces (clause name e)
      (clause name
        (if e.isCardDav "param-filter" then e.parameterSkeleton else e.bare))
      (if e.isCardDav "param-filter" then e.refusedInParameter else []) := by
  rw [Level.admits_property] at hadmitted
  cases hparam : e.isCardDav "param-filter" with
  | true =>
      have hskeleton : e.parameterSkeleton.isCardDav "param-filter" = true :=
        hparam
      simp only [clause, hparam, hskeleton, if_true]
      exact (ParamFilter.ofElement_reduces e).map Clause.paramFilter
  | false =>
      have hbare : e.bare.isCardDav "param-filter" = false := hparam
      simp only [clause, hparam, hbare, Bool.false_eq_true, if_false]
      exact Clause.predicate_reduces (by simpa [hparam] using hadmitted)

theorem clause_of_refused (name : String) {e : Element}
    (hforbidden : Level.admits .property e = false) :
    clause name e = ⟨.ignored, [e.ignored]⟩ := by
  rw [Level.admits_property] at hforbidden
  obtain ⟨hparam, hpredicate⟩ := Bool.or_eq_false_iff.mp hforbidden
  simp only [clause, hparam, Bool.false_eq_true, if_false]
  exact Clause.predicate_of_refused hpredicate

theorem ofElement_reduces (table : PropertyTable) (e : Element) :
    Reduces (ofElement table e) (ofElement table e.propertySkeleton)
      e.refusedInProperty := by
  have hkept := fun child => clause_reduces e.nodeName (e := child)
  have hrefused := fun child => clause_of_refused e.nodeName (e := child)
  have hclauses :=
    (Clause.collect_reduces hkept hrefused e).map (ofClauses e.nodeName)
  have hreport : ∀ event ∈ (if (table.lookup e.nodeName).isNone then
        [Event.unmappedPropFilter e.nodeName] else []),
      event.isIgnored = false := by
    intro event hevent
    split at hevent
    · rw [List.mem_singleton.mp hevent]
      rfl
    · cases hevent
  simp only [Traced.map, ofClauses_telling] at hclauses
  exact hclauses.after hreport

end PropFilter

namespace Filter

theorem clause_reduces (table : PropertyTable) {e : Element}
    (hadmitted : Level.admits .root e = true) :
    Reduces (clause table e) (clause table e.propertySkeleton)
      e.refusedInProperty := by
  rw [Level.admits_root] at hadmitted
  have hskeleton : e.propertySkeleton.isCardDav "prop-filter" = true :=
    hadmitted
  simp only [clause, hadmitted, hskeleton, if_true]
  exact (PropFilter.ofElement_reduces table e).map Clause.propFilter

theorem clause_of_refused (table : PropertyTable) {e : Element}
    (hforbidden : Level.admits .root e = false) :
    clause table e = ⟨.ignored, [e.ignored]⟩ := by
  rw [Level.admits_root] at hforbidden
  simp [clause, hforbidden]

theorem ofElement_reduces (table : PropertyTable) (e : Element) :
    Reduces (ofElement table e) (ofElement table e.filterSkeleton)
      e.refusedInFilter := by
  have hkept := fun child => clause_reduces table (e := child)
  have hrefused := fun child => clause_of_refused table (e := child)
  have hclauses := (Clause.collect_reduces hkept hrefused e).map fun clauses =>
    Filter.mk (.ofAttribute (e.tag.attribute? "test"))
      (clauses.filterMap Clause.propFilter?)
  have htelling : ∀ clauses : List Clause,
      (Clause.telling clauses).filterMap Clause.propFilter? =
        clauses.filterMap Clause.propFilter? := Clause.filterMap_telling rfl
  simp only [Traced.map, htelling] at hclauses
  exact hclauses

/-! ## Documents -/

/-- What the reading of a document comes to. -/
def readDocument (table : PropertyTable) (document : Document) :
    Traced Event (Except FilterError Filter) :=
  match ofDocument? table document with
  | none => ⟨.error .missingFilter, []⟩
  | some filter => filter.map .ok

theorem parse_eq_readDocument (source : String) (table : PropertyTable) :
    parse source table =
      match Document.parse? source with
      | none => ⟨.error .malformedDocument, []⟩
      | some document => readDocument table document := by
  unfold parse
  cases Document.parse? source <;> rfl

theorem readDocument_of_first {table : PropertyTable} {document : Document}
    {before after : List Element} {first : Element}
    (hsplit : document.root.elements = before ++ first :: after)
    (hbefore : ∀ e ∈ before, e.isCardDav "filter" = false)
    (hfirst : first.isCardDav "filter" = true) :
    readDocument table document = (ofElement table first).map .ok := by
  have hfound :
      document.root.elements.find? (·.isCardDav "filter") = some first := by
    rw [hsplit, List.find?_append,
      List.find?_eq_none.mpr (by simpa using hbefore)]
    simp [hfirst]
  simp [readDocument, ofDocument?, hfound]

theorem readDocument_of_root {table : PropertyTable} {e : Element}
    (hfilter : e.isCardDav "filter" = true) :
    readDocument table ⟨e⟩ = (ofElement table e).map .ok := by
  have hsplit :
      (Document.mk e).root.elements =
        [] ++ e :: Xml.Node.elementsOfList e.children :=
    e.elements_eq_cons
  exact readDocument_of_first hsplit (by simp) hfilter

theorem readDocument_missing_iff {table : PropertyTable} {document : Document} :
    (readDocument table document).value = .error .missingFilter ↔
      ∀ e ∈ document.root.elements, e.isCardDav "filter" = false := by
  unfold readDocument ofDocument?
  cases hfound : document.root.elements.find? (·.isCardDav "filter") with
  | none => simpa using hfound
  | some first =>
      have hfirst : first.isCardDav "filter" = true := by
        simpa using List.find?_some hfound
      have hmem : first ∈ document.root.elements :=
        List.mem_of_find?_eq_some hfound
      refine iff_of_false (by simp) ?_
      intro hnone
      rw [hnone first hmem] at hfirst
      cases hfirst

/-- A document is read as its first filter element alone, and that as its
skeleton: the filter is the same, and what the document reports beyond the
skeleton is that the refused elements are ignored, each once and in document
order. -/
theorem parse_depends_on_skeleton (table : PropertyTable) :
    (∀ source, parse source table =
      match Document.parse? source with
      | none => ⟨.error .malformedDocument, []⟩
      | some document => readDocument table document) ∧
    ∀ document : Document,
      ((readDocument table document).value = .error .missingFilter ↔
        ∀ e ∈ document.root.elements, e.isCardDav "filter" = false) ∧
      ∀ before first after, document.root.elements = before ++ first :: after →
        (∀ e ∈ before, e.isCardDav "filter" = false) →
        first.isCardDav "filter" = true →
          readDocument table document = readDocument table ⟨first⟩ ∧
          (∃ filter, (readDocument table document).value = .ok filter ∧
            (readDocument table ⟨first.filterSkeleton⟩).value = .ok filter) ∧
          (readDocument table ⟨first.filterSkeleton⟩).trace =
            (readDocument table document).trace.filter (!·.isIgnored) ∧
          (readDocument table document).trace.filter Event.isIgnored =
            first.refusedInFilter.map Element.ignored := by
  refine ⟨fun source => parse_eq_readDocument source table, ?_⟩
  intro document
  refine ⟨readDocument_missing_iff, ?_⟩
  intro before first after hsplit hbefore hfirst
  have hread : readDocument table document = (ofElement table first).map .ok :=
    readDocument_of_first hsplit hbefore hfirst
  have hskeleton : readDocument table ⟨first.filterSkeleton⟩ =
      (ofElement table first.filterSkeleton).map .ok :=
    readDocument_of_root hfirst
  obtain ⟨hvalue, htrace, hrefused⟩ := ofElement_reduces table first
  rw [hread, hskeleton]
  refine ⟨(readDocument_of_root hfirst).symm, ⟨_, rfl, ?_⟩, htrace, hrefused⟩
  exact congrArg Except.ok hvalue

/-- An element in the CardDAV namespace, with a name attribute. -/
def named (localName name : String) (children : List Xml.Node) : Xml.Node :=
  .element ⟨⟨some cardDavUri, localName⟩, [⟨⟨none, "name"⟩, name⟩]⟩ children

/-- A filter with elements out of place at every level. -/
def misplaced : Element where
  tag := ⟨⟨some cardDavUri, "filter"⟩, []⟩
  children :=
    [.text " ",
      .element ⟨⟨some "urn:example", "prop-filter"⟩, []⟩
        [named "prop-filter" "FN" []],
      named "text-match" "" [.text "root"],
      named "prop-filter" "EMAIL"
        [named "prop-filter" "FN" [],
          named "text-match" ""
            [.text "al", .comment "-", .text "ice", named "text-match" "" []],
          named "param-filter" "TYPE"
            [named "param-filter" "NESTED" [], .instruction "x" "",
              named "is-not-defined" ""
                [named "text-match" "" [.text "home"]]]]]

def misplacedReport : Document where
  root := ⟨⟨⟨some "DAV:", "filter"⟩, []⟩,
    [.comment "report", misplaced.node,
      .element ⟨⟨some cardDavUri, "filter"⟩, []⟩ []]⟩

/-- Four elements are reported; the ones inside a refused element, a text-match
and an is-not-defined are not. -/
theorem misplacedReport_read :
    (readDocument .cardDav misplacedReport).value =
      (readDocument .cardDav ⟨misplaced⟩).value ∧
      (readDocument .cardDav ⟨misplaced.filterSkeleton⟩).value =
        .ok ⟨.anyOf, [⟨"EMAIL", false, some (.ofPattern "EMAIL" "alice" false),
          [⟨"TYPE", true, none⟩]⟩]⟩ ∧
      (readDocument .cardDav ⟨misplaced.filterSkeleton⟩).trace = [] ∧
      (readDocument .cardDav misplacedReport).trace.filter Event.isIgnored =
        [.ignoredElement "urn:example" "prop-filter",
          .ignoredElement cardDavUri "text-match",
          .ignoredElement cardDavUri "prop-filter",
          .ignoredElement cardDavUri "param-filter"] := by
  have hsplit : misplacedReport.root.elements =
      [misplacedReport.root] ++ misplaced ::
        misplacedReport.root.elements.drop 2 := rfl
  have hmisplaced : misplaced.isCardDav "filter" = true := by decide +kernel
  obtain ⟨-, hread⟩ := parse_depends_on_skeleton .cardDav
  obtain ⟨-, hfirst⟩ := hread misplacedReport
  obtain ⟨hroot, ⟨filter, hfilter, hskeleton⟩, htrace, hrefused⟩ :=
    hfirst _ _ _ hsplit (by decide +kernel) hmisplaced
  have hemail : (ofElement .cardDav misplaced).value =
      ⟨.anyOf, [⟨"EMAIL", false, some (.ofPattern "EMAIL" "alice" false),
        [⟨"TYPE", true, none⟩]⟩]⟩ := by
    decide +kernel
  have hquiet :
      (readDocument .cardDav misplacedReport).trace.filter (!·.isIgnored) =
        [] := by
    decide +kernel
  refine ⟨congrArg Traced.value hroot, ?_, htrace.trans hquiet,
    hrefused.trans ?_⟩
  · rw [hskeleton, ← hfilter, hroot, readDocument_of_root hmisplaced,
      Traced.value_map, hemail]
  · decide +kernel

end Filter

end AddressBook
