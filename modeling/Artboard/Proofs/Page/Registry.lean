import Artboard.Proofs.Markup.ClassName
import Artboard.Proofs.Page.Body

/-!
# The registry of rules

After a walk the registry holds one rule for each visited place, in postorder, and
the class of a rule carries the number of its place in preorder.  The walk takes
the number on its way down and registers the rule on its way up, so the two orders
meet in one equation, `rules_visitFrom`.  From it follow the number of rules, that
classes are distinct, and that each class in the body has one rule.
-/

namespace Artboard
namespace Page

open Node (TreePlace Order placesFrom placesFromAll)

variable {images : ImageMap}

def ruleOf (number : Nat) (place : TreePlace) : String × Declaration :=
  (Markup.className number place.layer.name, Style.declaration place.layer place.parent)

def registry (images : ImageMap) (root : Node) : List (String × Declaration) :=
  (visited images .postorder root).map fun place => ruleOf (number images root place) place

/-- The rules of places, numbered from a number on by their position in another
list. -/
def rulesOf (number : Nat) (numbering places : List TreePlace) : List (String × Declaration) :=
  places.map fun place => ruleOf (number + numberIn numbering place) place

/-- Places on a layer have numbers one higher when the layer is numbered too. -/
theorem rulesOf_below (images : ImageMap) (number : Nat) (top : TreePlace) (above : List Layer)
    (index : Nat) (nodes : List Node) (below : List TreePlace) :
    rulesOf number (top :: below)
        (visitedFromAll images .postorder top.path above index nodes) =
      rulesOf (number + 1) below
        (visitedFromAll images .postorder top.path above index nodes) := by
  exact map_numberIn_below ruleOf number (fun _ member => member) below

mutual

/-- A walk adds the rules of the visited places in postorder. -/
theorem rules_visitFrom : (node : Node) → (path : List Nat) → (above : List Layer) →
    (run : Run) → above.all (isOpen images) = true →
    (visit images node above.head? run).2.rules =
      run.rules ++ rulesOf run.counter (visitedFrom images .preorder path above node)
        (visitedFrom images .postorder path above node)
  | ⟨layer, children⟩, path, above, run, opened => by
      cases visible : layer.visible with
      | false =>
          simp [visit_hidden children run visible, visitedFrom_hidden children visible, rulesOf]
      | true =>
          cases known : images.url? layer.id with
          | some url =>
              rw [visit_image children run visible known,
                visitedFrom_image children visible known opened,
                visitedFrom_image children visible known opened]
              simp [rulesOf, numberIn_self, ruleOf, TreePlace.layer, TreePlace.parent]
          | none =>
              have below := rules_visitAllFrom children path layer above 0
                (entered layer above.head? run) (all_isOpen_cons visible known opened)
              have numbers := rulesOf_below images run.counter ⟨path, above, ⟨layer, children⟩⟩
                (layer :: above) 0 children
                (visitedFromAll images .preorder path (layer :: above) 0 children)
              rw [counter_entered, rules_entered, ← numbers] at below
              rw [visit_element children run visible known,
                visitedFrom_element children visible opened,
                visitedFrom_element children visible opened, Run.rules_register, below,
                Order.arrange, Order.arrange, List.append_assoc]
              simp [rulesOf, numberIn_self, ruleOf, TreePlace.layer, TreePlace.parent]

theorem rules_visitAllFrom : (nodes : List Node) → (path : List Nat) → (below : Layer) →
    (above : List Layer) → (index : Nat) → (run : Run) →
    (below :: above).all (isOpen images) = true →
    (visitAll images nodes below run).2.rules =
      run.rules ++ rulesOf run.counter
        (visitedFromAll images .preorder path (below :: above) index nodes)
        (visitedFromAll images .postorder path (below :: above) index nodes)
  | [], _, _, _, _, run, _ => by
      simp [rulesOf]
  | node :: nodes, path, below, above, index, run, opened => by
      have first := rules_visitFrom node (path ++ [index]) (below :: above) run opened
      have others := rules_visitAllFrom nodes path below above (index + 1)
        (visit images node (some below) run).2 opened
      have count := numbered_eq_length .preorder node (path ++ [index]) (below :: above)
        opened
      have perm := visitedFrom_perm images (path ++ [index]) (below :: above) node
      rw [List.head?_cons] at first
      -- The later trees are numbered from where the walk over the first one ends.
      rw [counter_visit, first, count, List.append_assoc] at others
      rw [visitAll_cons, others, visitedFromAll_cons, visitedFromAll_cons]
      refine congrArg (run.rules ++ ·) ?_
      exact (map_numberIn_append ruleOf run.counter (fun _ member => perm.mem_iff.mpr member)
        (fun _ member => member) _).symm

end

theorem rules_visit (images : ImageMap) (root : Node) :
    (visit images root none Run.start).2.rules = registry images root := by
  have opened : ([] : List Layer).all (isOpen images) = true := rfl
  have rules := rules_visitFrom root [] [] Run.start opened
  have noRules : Run.start.rules = [] := rfl
  have zero : Run.start.counter = 0 := rfl
  rw [List.head?_nil, noRules, zero] at rules
  simp only [rulesOf, Nat.zero_add, List.nil_append] at rules
  exact rules

theorem length_registry (images : ImageMap) (root : Node) :
    (registry images root).length = (visit images root none Run.start).2.counter := by
  have opened : ([] : List Layer).all (isOpen images) = true := rfl
  have count := numbered_eq_length .postorder root [] [] opened
  have zero : Run.start.counter = 0 := rfl
  rw [counter_visit, zero, Nat.zero_add, count, registry, List.length_map]
  rfl

/-- The classes of visited places in preorder are distinct, because their numbers
are. -/
theorem nodup_classes (images : ImageMap) (root : Node) :
    ((visited images .preorder root).map fun place =>
      Markup.className (number images root place) place.layer.name).Nodup := by
  have ways := List.pairwise_map.mp (nodup_path_visited images root)
  refine List.pairwise_map.mpr (ways.imp_of_mem ?_)
  intro place other member _ different same
  exact different (path_eq_of_number_eq member (Markup.counter_eq_of_className_eq same))

/-- The registry has the classes of the visited places. -/
theorem perm_classes (images : ImageMap) (root : Node) :
    ((visited images .preorder root).map fun place =>
        Markup.className (number images root place) place.layer.name).Perm
      ((registry images root).map Prod.fst) := by
  rw [registry, List.map_map]
  exact (visited_perm images root).map _

/-- Each class of the body occurs there once and has one rule. -/
theorem classes_body (images : ImageMap) (root : Node) :
    (Markup.forestClasses (depict images 0 root)).Nodup ∧
      ∀ className ∈ Markup.forestClasses (depict images 0 root),
        ((registry images root).map Prod.fst).count className = 1 := by
  rw [classes_depict]
  have shown := (List.filter_sublist (p := isShown)
    (l := visited images .preorder root)).map fun place =>
      Markup.className (number images root place) place.layer.name
  have distinct := nodup_classes images root
  refine ⟨distinct.sublist shown, ?_⟩
  intro className member
  have perm := perm_classes images root
  exact List.count_eq_one_of_mem (perm.nodup_iff.mp distinct)
    (perm.mem_iff.mp (shown.subset member))

/-- After a walk from the start the registry holds, in postorder, one rule for each
visited place: its class carries its number in preorder, and what is declared for
it is the style of its layer on the layer below.  There are as many rules as
numbers were given out, and their classes are distinct and have the form of class
names, whatever the layers are called.  Each class in the body, as a strict reader
finds it, occurs there once and is the class of exactly one rule. -/
theorem rules_refine_places (images : ImageMap) (root : Node) :
    (visit images root none Run.start).2.rules =
        ((visited images .postorder root).map fun place =>
          (Markup.className (number images root place) place.layer.name,
            Style.declaration place.layer place.parent)) ∧
      (visit images root none Run.start).2.counter =
        (visit images root none Run.start).2.rules.length ∧
      ((visit images root none Run.start).2.rules.map Prod.fst).Nodup ∧
      (∀ rule ∈ (visit images root none Run.start).2.rules, Markup.IsClassName rule.1) ∧
      ∃ forest,
        Markup.read? (Markup.renderForest (visit images root none Run.start).1) = some forest ∧
          (Markup.forestClasses forest).Nodup ∧
          ∀ className ∈ Markup.forestClasses forest,
            ((visit images root none Run.start).2.rules.map Prod.fst).count className = 1 := by
  have zero : Run.start.counter = 0 := rfl
  rw [rules_visit, markup_visit, zero]
  refine ⟨rfl, (length_registry images root).symm, ?_, ?_, depict images 0 root,
    read?_depict images 0 root, classes_body images root⟩
  · exact (perm_classes images root).nodup_iff.mp (nodup_classes images root)
  · intro rule member
    rcases List.mem_map.mp member with ⟨place, -, same⟩
    rw [← same]
    exact Markup.isClassName_className _ _

end Page
end Artboard
