import ApiModel.Document.Value

/-! Collections that contain themselves. A value taken out of such a collection is completed, so
that its loops lead to collections inside of it again. -/
namespace ApiModel.Value

mutual
/-- Puts a collection in place of the loops that lead so many levels up. Nothing inside a pair leads
out of it. -/
def refill (whole : Value) (levels : Nat) : Value → Value
  | loop kind n => if n = levels then whole else loop kind n
  | list items => list (refillItems whole (levels + 1) items)
  | map entries => map (refillEntries whole (levels + 1) entries)
  | v => v

def refillItems (whole : Value) (levels : Nat) : List Value → List Value
  | [] => []
  | v :: rest => refill whole levels v :: refillItems whole levels rest

def refillEntries (whole : Value) (levels : Nat) : List (Value × Value) → List (Value × Value)
  | [] => []
  | (k, v) :: rest => (k, refill whole levels v) :: refillEntries whole levels rest
end

mutual
/-- Whether a value holds no loop outside of pairs. -/
def isTree : Value → Bool
  | loop _ _ => false
  | list items => areTrees items
  | map entries => holdTrees entries
  | _ => true

def areTrees : List Value → Bool
  | [] => true
  | v :: rest => isTree v && areTrees rest

def holdTrees : List (Value × Value) → Bool
  | [] => true
  | (_, v) :: rest => isTree v && holdTrees rest
end

mutual
theorem refill_of_isTree (whole : Value) (levels : Nat) (v : Value) (h : v.isTree) :
    refill whole levels v = v := by
  match v with
  | .loop _ _ => simp [isTree] at h
  | .list items =>
    simp only [refill, refillItems_of_areTrees whole _ items (by simpa [isTree] using h)]
  | .map entries =>
    simp only [refill, refillEntries_of_holdTrees whole _ entries (by simpa [isTree] using h)]
  | .null | .bool _ | .int _ | .float _ | .str _ | .pair _ _ | .set _ | .date _ | .moment _
  | .bytes _ => rfl

theorem refillItems_of_areTrees (whole : Value) (levels : Nat) (items : List Value)
    (h : areTrees items) : refillItems whole levels items = items := by
  match items with
  | [] => rfl
  | v :: rest =>
    simp only [areTrees, Bool.and_eq_true] at h
    rw [refillItems, refill_of_isTree whole levels v h.1,
      refillItems_of_areTrees whole levels rest h.2]

theorem refillEntries_of_holdTrees (whole : Value) (levels : Nat) (entries : List (Value × Value))
    (h : holdTrees entries) : refillEntries whole levels entries = entries := by
  match entries with
  | [] => rfl
  | (k, v) :: rest =>
    simp only [holdTrees, Bool.and_eq_true] at h
    rw [refillEntries, refill_of_isTree whole levels v h.1,
      refillEntries_of_holdTrees whole levels rest h.2]
end

mutual
def isEndless : Value → Bool
  | loop _ _ => true
  | list items => anyEndless items
  | set items => anyEndless items
  | map entries => holdEndless entries
  | pair a b => isEndless a || isEndless b
  | _ => false

def anyEndless : List Value → Bool
  | [] => false
  | v :: rest => isEndless v || anyEndless rest

def holdEndless : List (Value × Value) → Bool
  | [] => false
  | (k, v) :: rest => isEndless k || isEndless v || holdEndless rest
end

def within (whole part : Value) : Value := refill whole 1 part

def unfold : Nat → Value → Value
  | 0, v => v
  | n + 1, list items => list (items.map fun v => unfold n (within (list items) v))
  | n + 1, map entries => map (entries.map fun e => (e.1, unfold n (within (map entries) e.2)))
  | _ + 1, v => v

end ApiModel.Value
