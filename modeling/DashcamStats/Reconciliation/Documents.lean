import DashcamStats.Bundle.Json

namespace DashcamStats.Bundle

mutual

def Json.decEq : (a b : Json) → Decidable (a = b)
  | .null, b => match b with
    | .null => .isTrue rfl
    | .bool _ | .int _ | .float _ | .infinity _ | .str _ | .arr _ | .obj _ =>
      .isFalse Json.noConfusion
  | .bool x, b => match b with
    | .bool y => decidable_of_iff (x = y) (Json.bool.injEq x y).symm.to_iff
    | .null | .int _ | .float _ | .infinity _ | .str _ | .arr _ | .obj _ =>
      .isFalse Json.noConfusion
  | .int x, b => match b with
    | .int y => decidable_of_iff (x = y) (Json.int.injEq x y).symm.to_iff
    | .null | .bool _ | .float _ | .infinity _ | .str _ | .arr _ | .obj _ =>
      .isFalse Json.noConfusion
  | .float x, b => match b with
    | .float y => decidable_of_iff (x = y) (Json.float.injEq x y).symm.to_iff
    | .null | .bool _ | .int _ | .infinity _ | .str _ | .arr _ | .obj _ =>
      .isFalse Json.noConfusion
  | .infinity x, b => match b with
    | .infinity y => decidable_of_iff (x = y) (Json.infinity.injEq x y).symm.to_iff
    | .null | .bool _ | .int _ | .float _ | .str _ | .arr _ | .obj _ =>
      .isFalse Json.noConfusion
  | .str x, b => match b with
    | .str y => decidable_of_iff (x = y) (Json.str.injEq x y).symm.to_iff
    | .null | .bool _ | .int _ | .float _ | .infinity _ | .arr _ | .obj _ =>
      .isFalse Json.noConfusion
  | .arr xs, b => match b with
    | .arr ys => @decidable_of_iff _ (xs = ys) (Json.arr.injEq xs ys).symm.to_iff (decEqItems xs ys)
    | .null | .bool _ | .int _ | .float _ | .infinity _ | .str _ | .obj _ =>
      .isFalse Json.noConfusion
  | .obj xs, b => match b with
    | .obj ys =>
      @decidable_of_iff _ (xs = ys) (Json.obj.injEq xs ys).symm.to_iff (decEqMembers xs ys)
    | .null | .bool _ | .int _ | .float _ | .infinity _ | .str _ | .arr _ =>
      .isFalse Json.noConfusion

def decEqItems : (xs ys : List Json) → Decidable (xs = ys)
  | [], [] => .isTrue rfl
  | [], _ :: _ => .isFalse (by simp)
  | _ :: _, [] => .isFalse (by simp)
  | x :: xs, y :: ys =>
    @decidable_of_iff _ (x = y ∧ xs = ys) (List.cons.injEq x xs y ys).symm.to_iff
      (@instDecidableAnd _ _ (x.decEq y) (decEqItems xs ys))

def decEqMembers : (xs ys : List (String × Json)) → Decidable (xs = ys)
  | [], [] => .isTrue rfl
  | [], _ :: _ => .isFalse (by simp)
  | _ :: _, [] => .isFalse (by simp)
  | (name, x) :: xs, (other, y) :: ys =>
    @decidable_of_iff _ ((name = other ∧ x = y) ∧ xs = ys) (by simp)
      (@instDecidableAnd _ _ (@instDecidableAnd _ _ inferInstance (x.decEq y))
        (decEqMembers xs ys))

end

instance : DecidableEq Json := Json.decEq

mutual

def Json.isFinite : Json → Bool
  | .infinity _ => false
  | .arr items => itemsAreFinite items
  | .obj members => membersAreFinite members
  | _ => true

def itemsAreFinite : List Json → Bool
  | [] => true
  | item :: rest => item.isFinite && itemsAreFinite rest

def membersAreFinite : List (String × Json) → Bool
  | [] => true
  | (_, value) :: rest => value.isFinite && membersAreFinite rest

end

end DashcamStats.Bundle
