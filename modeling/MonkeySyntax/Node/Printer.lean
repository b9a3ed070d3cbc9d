import MonkeySyntax.Node
import MonkeySyntax.Text.CharClass

/-!
# Printing trees

The first line of a node in a labelled slot gets its margin and label put in front after the line
was made and its leading blanks were removed; an indent of other characters than blanks thus stands
on such a line twice.

The depth is raised before the children of a node are visited and lowered afterwards, also when the
visit is stopped by a foreign node.
-/

set_option autoImplicit false

namespace MonkeySyntax

structure Printer where
  indent : String := "  "
  depth : Int := 0
deriving DecidableEq, Repr

namespace Printer

/-- The lines of a node, or the foreign node that stopped the visit. -/
abbrev Outcome := Except UnknownNode (List String)

def deeper (printer : Printer) : Printer :=
  { printer with depth := printer.depth + 1 }

def shallower (printer : Printer) : Printer :=
  { printer with depth := printer.depth - 1 }

def margin (printer : Printer) : String :=
  String.join (List.replicate printer.depth.toNat printer.indent)

def line (printer : Printer) (text : String) : String :=
  printer.margin ++ text

/-- Puts margin and label before the first of the lines, whose leading blanks go. -/
def relabel (printer : Printer) (label : String) : List String → List String
  | [] => []
  | first :: others => printer.line s!"{label}: {Text.trimStart first}" :: others

def closeSlot (label : String) (visited : Outcome × Printer) : Outcome × Printer :=
  (visited.1.map (visited.2.relabel label), visited.2.shallower)

def followedBy (first : Outcome × Printer) (second : Printer → Outcome × Printer) :
    Outcome × Printer :=
  match first.1 with
  | .error unknown => (.error unknown, first.2)
  | .ok lines =>
    let visited := second first.2
    (visited.1.map (fun others => lines ++ others), visited.2)

def place (anchor : Token) : String :=
  s!"@{anchor.line}:{anchor.column}"

/-- What a node's own line says; a foreign node has no such line. -/
def header : Node → String
  | .program statements => s!"Program ({statements.length} statements)"
  | .letStatement anchor _ _ => s!"LetStatement {Text.quoted anchor.text} {place anchor}"
  | .returnStatement anchor _ => s!"ReturnStatement {Text.quoted anchor.text} {place anchor}"
  | .identifier anchor value => s!"Identifier {Text.quoted value} {place anchor}"
  | .foreign _ _ => ""

mutual
def visit (printer : Printer) : Node → Outcome × Printer
  | .program statements =>
    let own := printer.line (header (.program statements))
    let visited := visitAll printer.deeper statements
    (visited.1.map (fun lines => own :: lines), visited.2.shallower)
  | .letStatement anchor name value? =>
    let own := printer.line (header (.letStatement anchor name value?))
    let visited := followedBy (closeSlot "name" (visit printer.deeper name))
      (fun printer => visitSlot "value" printer value?)
    (visited.1.map (fun lines => own :: lines), visited.2)
  | .returnStatement anchor value? =>
    let own := printer.line (header (.returnStatement anchor value?))
    let visited := visitSlot "return_value" printer value?
    (visited.1.map (fun lines => own :: lines), visited.2)
  | .identifier anchor value => (.ok [printer.line (header (.identifier anchor value))], printer)
  | .foreign form _ => (.error ⟨form⟩, printer)

def visitAll (printer : Printer) : List Node → Outcome × Printer
  | [] => (.ok [], printer)
  | node :: nodes => followedBy (visit printer node) (fun printer => visitAll printer nodes)

def visitSlot (label : String) (printer : Printer) : Option Node → Outcome × Printer
  | none => (.ok [printer.deeper.line s!"{label}: <none>"], printer.deeper.shallower)
  | some node => closeSlot label (visit printer.deeper node)
end

/-- Prints a whole tree; the depth starts at zero whatever happened before. -/
def render (printer : Printer) (tree : Node) : Except UnknownNode String × Printer :=
  let visited := visit { printer with depth := 0 } tree
  (visited.1.map (fun lines => "\n".intercalate lines), visited.2)

def renderAll : Printer → List Node → List (Except UnknownNode String)
  | _, [] => []
  | printer, tree :: trees =>
    let rendered := printer.render tree
    rendered.1 :: renderAll rendered.2 trees

end Printer

def Node.render (tree : Node) : Except UnknownNode String :=
  (Printer.render {} tree).1

end MonkeySyntax
