import ApiModel.Document.Pointer

/-! A document in which targets stand in place of the pointers to them. -/
namespace ApiModel.Pointer

theorem length_erase_lt {l : List Text} {a : Text} (h : a ∈ l) :
    (l.erase a).length < l.length := by
  rw [List.length_erase_of_mem h]
  have := List.length_pos_of_mem h
  omega

mutual
/-- Puts the target in place of every pointer that names no schema. A pointer is followed once on a
way down, as long as it is pending; where it comes up again it is left in place. A pointer that
names a schema stays, but it has to lead somewhere. There is no end to a loop. -/
def resolveValue (root : Value) (pending : List Text) (v : Value) :
    Except ReadError Value :=
  match v with
  | .map entries =>
    match of? entries with
    | some pointer =>
      if (schemaName? pointer).isSome then
        match follow root pointer with
        | .ok _ => (resolveEntries root pending true entries).map .map
        | .error e => .error (.document e)
      else if pointer ∈ pending then
        match follow root pointer with
        | .ok target => resolveValue root (pending.erase pointer) target
        | .error e => .error (.document e)
      else
        .ok v
    | none => (resolveEntries root pending false entries).map .map
  | .list items => (resolveItems root pending items).map .list
  | .loop _ _ => .error .endless
  | v => .ok v
termination_by (pending.length, sizeOf v)
decreasing_by
  · exact Prod.Lex.right _ (by simp)
  · exact Prod.Lex.left _ _ (length_erase_lt (by assumption))
  · exact Prod.Lex.right _ (by simp)
  · exact Prod.Lex.right _ (by simp)

def resolveItems (root : Value) (pending : List Text) (items : List Value) :
    Except ReadError (List Value) :=
  match items with
  | [] => .ok []
  | v :: rest =>
    match resolveValue root pending v with
    | .ok first => (resolveItems root pending rest).map (first :: ·)
    | .error e => .error e
termination_by (pending.length, sizeOf items)

/-- Resolves the values of a mapping; the pointer itself may be kept as it is. -/
def resolveEntries (root : Value) (pending : List Text) (keep : Bool)
    (entries : List (Value × Value)) : Except ReadError (List (Value × Value)) :=
  match entries with
  | [] => .ok []
  | (k, v) :: rest =>
    match (if keep && k.isText "$ref" then .ok v else resolveValue root pending v) with
    | .ok first => (resolveEntries root pending keep rest).map ((k, first) :: ·)
    | .error e => .error e
termination_by (pending.length, sizeOf entries)
end

def resolve (root : Value) : Except ReadError Value :=
  resolveValue root (allOf root).eraseDups root

end ApiModel.Pointer
