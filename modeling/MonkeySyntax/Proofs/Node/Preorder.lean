import MonkeySyntax.Node.Walk

/-!
# Preorder

A walk goes along the preorder of a tree up to the first foreign node.
-/

set_option autoImplicit false

namespace MonkeySyntax

namespace Node

/-- What a node has when its children have it, every node has. -/
@[elab_as_elim]
theorem induction_children {motive : Node → Prop}
    (step : ∀ node, (∀ child ∈ node.children, motive child) → motive node) (node : Node) :
    motive node := by
  apply step
  intro child member
  exact induction_children step child
termination_by sizeOf node
decreasing_by exact sizeOf_lt_of_mem_children member

def preorder (node : Node) : List Node :=
  node :: node.children.attach.flatMap (fun child => child.1.preorder)
termination_by sizeOf node
decreasing_by exact sizeOf_lt_of_mem_children child.2

theorem preorder_eq (node : Node) :
    node.preorder = node :: node.children.flatMap preorder := by
  rw [preorder, List.flatMap, List.attach_map_val, ← List.flatMap]

theorem unknown?_eq_some_iff (node : Node) (unknown : UnknownNode) :
    node.unknown? = some unknown ↔ ∃ text, node = .foreign unknown.form text := by
  cases node with
  | foreign form text =>
    obtain ⟨name⟩ := unknown
    simp [unknown?]
  | program | letStatement | returnStatement | identifier => simp [unknown?]

theorem unknown_or_form (node : Node) :
    (∃ unknown, node.unknown? = some unknown ∧ node.form? = none) ∨
      ∃ form, node.unknown? = none ∧ node.form? = some form := by
  cases node with
  | foreign form text => exact Or.inl ⟨⟨form⟩, rfl, rfl⟩
  | program | letStatement | returnStatement | identifier => exact Or.inr ⟨_, rfl, rfl⟩

end Node

namespace Walk

variable {Note : Type} (note : NodeForm → Node → Note)

def along : List Node → Walk Note
  | [] => nothing
  | node :: nodes =>
    match node.form? with
    | none => ⟨[], node.unknown?⟩
    | some form => (along nodes).enter (note form node)

theorem enter_andThen (first : Note) (walk other : Walk Note) :
    (walk.enter first).andThen other = (walk.andThen other).enter first := by
  obtain ⟨visits, stopped?⟩ := walk
  cases stopped? with
  | none => rfl
  | some unknown => rfl

theorem along_append (nodes others : List Node) :
    along note (nodes ++ others) = (along note nodes).andThen (along note others) := by
  induction nodes with
  | nil => rfl
  | cons node nodes ih =>
    rcases node.unknown_or_form with ⟨unknown, found, none⟩ | ⟨form, _, some⟩
    · simp [along, none, found, andThen]
    · simp [along, some, ih, enter_andThen]

theorem inTurn_along (rows : List (List Node)) :
    inTurn (rows.map (along note)) = along note rows.flatten := by
  induction rows with
  | nil => rfl
  | cons row rows ih =>
    rw [List.flatten_cons, along_append, ← ih]
    rfl

/-- What a walk notes if it notes the nodes themselves: all of them while they are known. -/
theorem along_append_of_known {nodes : List Node} (known : ∀ node ∈ nodes, node.unknown? = none)
    (others : List Node) :
    along (fun _ node => node) (nodes ++ others)
      = ⟨nodes ++ (along (fun _ node => node) others).visits,
          (along (fun _ node => node) others).stopped?⟩ := by
  induction nodes with
  | nil => rfl
  | cons node nodes ih =>
    obtain ⟨here, later⟩ := List.forall_mem_cons.mp known
    rcases node.unknown_or_form with ⟨unknown, found, _⟩ | ⟨form, _, some⟩
    · rw [here] at found
      contradiction
    · simp [along, some, enter, ih later]

end Walk

/-- A walk enters the nodes of a tree in preorder. -/
theorem Node.walkNoting_eq_along {Note : Type} (note : NodeForm → Node → Note) (tree : Node) :
    tree.walkNoting note = Walk.along note tree.preorder := by
  induction tree using induction_children with
  | step node ih =>
    have below : Walk.inTurn (node.children.attach.map (fun child => walkNoting note child.1))
        = Walk.along note (node.children.flatMap preorder) := by
      rw [List.attach_map_val, List.flatMap, ← Walk.inTurn_along, List.map_map]
      exact congrArg Walk.inTurn (List.map_congr_left ih)
    rw [walkNoting, preorder_eq, Walk.along]
    cases node.form? with
    | none => rfl
    | some form => exact congrArg (Walk.enter (note form node)) below

end MonkeySyntax
