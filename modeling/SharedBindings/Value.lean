import SharedBindings.Text.Quoted

/-!
# Guest values

The values that pass between host and guest, already in the guest's form.
-/

namespace SharedBindings

inductive Value where
  | nil
  | int (number : Int64)
  | text (content : String)
  | list (items : List Value)

namespace Value

mutual

def decideEq (left right : Value) : Decidable (left = right) :=
  match left, right with
  | .nil, .nil => isTrue rfl
  | .int first, .int second => decidable_of_iff (first = second) (by simp)
  | .text first, .text second => decidable_of_iff (first = second) (by simp)
  | .list first, .list second =>
      match decideEqAll first second with
      | isTrue same => isTrue (congrArg Value.list same)
      | isFalse different => isFalse fun same => different (Value.list.inj same)
  | .nil, .int _ | .nil, .text _ | .nil, .list _
  | .int _, .nil | .int _, .text _ | .int _, .list _
  | .text _, .nil | .text _, .int _ | .text _, .list _
  | .list _, .nil | .list _, .int _ | .list _, .text _ => isFalse nofun

def decideEqAll (left right : List Value) : Decidable (left = right) :=
  match left, right with
  | [], [] => isTrue rfl
  | [], _ :: _ => isFalse nofun
  | _ :: _, [] => isFalse nofun
  | first :: rest, second :: others =>
      match decideEq first second with
      | isFalse different => isFalse fun same => different (List.cons.inj same).1
      | isTrue same =>
          match decideEqAll rest others with
          | isTrue equal => isTrue (same ▸ equal ▸ rfl)
          | isFalse different => isFalse fun equal => different (List.cons.inj equal).2

end

instance : DecidableEq Value := decideEq

instance : Inhabited Value := ⟨.nil⟩

def isNil : Value → Bool
  | .nil => true
  | _ => false

mutual

def describe : Value → String
  | .nil => "Nil"
  | .int number => "Int(" ++ toString number ++ ")"
  | .text content => "Str(" ++ Text.quoted content ++ ")"
  | .list items => "List([" ++ describeAll items ++ "])"

/-- The descriptions of several values, with a comma and a blank between two of them. -/
def describeAll : List Value → String
  | [] => ""
  | [value] => describe value
  | value :: rest => describe value ++ ", " ++ describeAll rest

end

end Value

end SharedBindings
