import Lettermill.Converter
import Lettermill.Proofs.Transform.Emission
/-! The advice that a walk over a document gives. It goes by the elements that are visited, in
document order: whatever stands below an element that is left out is not visited, but components and
elements that close themselves are gone through although a mapping says nothing of the former and
the markup shows nothing of what the latter hold. Main statement: writing a document advises on the
visited elements, on each as often as it is met. -/
namespace Lettermill
set_option autoImplicit false

namespace Registry
variable (r : Registry)

mutual

/-- The names of the elements that a walk visits, in document order. -/
def visited : Node → List String
  | .text _ => []
  | .comment _ => []
  | .element name _ children => name :: if r.leavesOut name then [] else visitedAll children

def visitedAll : List Node → List String
  | [] => []
  | node :: rest => visited node ++ visitedAll rest

end

/-- The warning of a mapping for the element; a component has no mapping. -/
def adviceFor (name : String) : Option Warning :=
  if Component.isComponent name then none
  else (r.lookup name).warning.map fun message => { message, element := some name }

/-- The advice on everything that is visited of some nodes. -/
def adviceOn (nodes : List Node) : List Warning := (r.visitedAll nodes).filterMap r.adviceFor

variable {r}

theorem adviceOn_cons (node : Node) (rest : List Node) :
    r.adviceOn (node :: rest) = (r.visited node).filterMap r.adviceFor ++ r.adviceOn rest := by
  rw [adviceOn, visitedAll, List.filterMap_append, adviceOn]

end Registry

namespace Setting
variable {s : Setting}

theorem advice_lookup {name : String} (h : Component.isComponent name = false) :
    advice (s.registry.lookup name) name = (s.registry.adviceFor name).toList := by
  rw [advice, Registry.adviceFor, h]
  cases (s.registry.lookup name).warning <;> rfl

mutual

theorem emit_warnings (s : Setting) (parent : Option String) (node : Node) :
    (s.emit parent node).warnings
      = (s.registry.visited node).filterMap s.registry.adviceFor := by
  match node with
  | .text content => rw [emit, Registry.visited]; rfl
  | .comment content => rw [emit, Registry.visited]; rfl
  | .element name attributes children =>
    have hbelow := emitAll_warnings s name children
    rw [Registry.visited, List.filterMap_cons]
    cases hc : Component.isComponent name with
    | true =>
      have hin : s.registry.leavesOut name = false := by rw [Registry.leavesOut, hc]; rfl
      have hnone : s.registry.adviceFor name = none := by rw [Registry.adviceFor, if_pos hc]
      rw [emit_component hc, emitComponent, hbelow, hnone, hin]
      rfl
    | false =>
      have hadvice := advice_lookup (s := s) hc
      cases ho : s.registry.leavesOut name with
      | true =>
        rw [emit_leftOut ho, hadvice]
        cases s.registry.adviceFor name <;> rfl
      | false =>
        have hkept : (s.registry.lookup name).omitted = false := by
          rwa [Registry.leavesOut, hc, Bool.not_false, Bool.true_and] at ho
        simp only [emit, hc, hkept, Bool.false_eq_true, if_false, hadvice, hbelow]
        cases s.registry.adviceFor name <;> rfl

theorem emitAll_warnings (s : Setting) (parent : String) (nodes : List Node) :
    (s.emitAll parent nodes).warnings = s.registry.adviceOn nodes := by
  match nodes with
  | [] => rw [emitAll, Registry.adviceOn, Registry.visitedAll]; rfl
  | node :: rest =>
    rw [emitAll, Emission.append, emit_warnings s, emitAll_warnings s, Registry.adviceOn_cons]

end

theorem emitRoot_warnings (node : Node) :
    (s.emitRoot node).warnings = (s.registry.visited node).filterMap s.registry.adviceFor := by
  rw [emitRoot, ← emit_warnings s none]
  split <;> rfl

theorem emitFragment_warnings (nodes : List Node) :
    (s.emitFragment nodes).warnings = s.registry.adviceOn nodes := by
  induction nodes with
  | nil => rfl
  | cons node rest ih =>
    rw [Registry.adviceOn_cons, ← ih, ← emitRoot_warnings]
    rfl

end Setting

/-- The nodes that are written of a document. -/
def Document.chosenNodes (d : Document) : List Node :=
  match (d.topLevelNode? "html").or (d.topLevelNode? "body") with
  | some root => [root]
  | none => d.nodes

theorem Setting.emitDocument_warnings {s : Setting} (d : Document) :
    (s.emitDocument d).warnings = s.registry.adviceOn d.chosenNodes := by
  rw [emitDocument, Document.chosenNodes]
  cases (d.topLevelNode? "html").or (d.topLevelNode? "body") with
  | some root =>
    have hone : s.registry.adviceOn [root]
        = (s.registry.visited root).filterMap s.registry.adviceFor := by
      rw [Registry.adviceOn_cons]
      exact List.append_nil _
    rw [hone]
    exact emitRoot_warnings root
  | none => exact emitFragment_warnings d.nodes

end Lettermill
