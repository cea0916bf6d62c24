import MailSnapshot.Number.Decimal

/-! JSON values. The entries of an object stand in a fixed order, each key once. -/

namespace MailSnapshot

inductive Json where
  | null
  | bool (b : Bool)
  | int (n : Int)
  | double (x : Binary64)
  | str (s : String)
  | arr (items : List Json)
  | obj (entries : List (String × Json))

namespace Json

mutual
def decEq : (v w : Json) → Decidable (v = w)
  | .null, w => by cases w <;> first | exact isTrue rfl | exact isFalse (by simp)
  | .bool a, w => by
    cases w
    case bool b => exact decidable_of_iff (a = b) (by simp)
    all_goals exact isFalse (by simp)
  | .int a, w => by
    cases w
    case int b => exact decidable_of_iff (a = b) (by simp)
    all_goals exact isFalse (by simp)
  | .double a, w => by
    cases w
    case double b => exact decidable_of_iff (a = b) (by simp)
    all_goals exact isFalse (by simp)
  | .str a, w => by
    cases w
    case str b => exact decidable_of_iff (a = b) (by simp)
    all_goals exact isFalse (by simp)
  | .arr a, w => by
    cases w
    case arr b => exact @decidable_of_iff _ (a = b) (by simp) (decEqItems a b)
    all_goals exact isFalse (by simp)
  | .obj a, w => by
    cases w
    case obj b => exact @decidable_of_iff _ (a = b) (by simp) (decEqEntries a b)
    all_goals exact isFalse (by simp)

def decEqItems : (vs ws : List Json) → Decidable (vs = ws)
  | [], [] => isTrue rfl
  | [], _ :: _ => isFalse (by simp)
  | _ :: _, [] => isFalse (by simp)
  | v :: vs, w :: ws =>
    @decidable_of_iff _ (v = w ∧ vs = ws) (by simp)
      (@instDecidableAnd _ _ (decEq v w) (decEqItems vs ws))

def decEqEntries : (es fs : List (String × Json)) → Decidable (es = fs)
  | [], [] => isTrue rfl
  | [], _ :: _ => isFalse (by simp)
  | _ :: _, [] => isFalse (by simp)
  | (k, v) :: es, (l, w) :: fs =>
    @decidable_of_iff _ ((k = l ∧ v = w) ∧ es = fs) (by simp)
      (@instDecidableAnd _ _ (@instDecidableAnd _ _ _ (decEq v w)) (decEqEntries es fs))
end

instance : DecidableEq Json := decEq

end Json
end MailSnapshot
