import BucketPlan.Proofs.Passes
import BucketPlan.Value.Plain

namespace BucketPlan

namespace Value

/-- The members of a map that go by a text, in their order. -/
def members : Value → List (String × Value)
  | map entries => entries.filterMap fun (key, item) => key.text?.map (·, item)
  | _ => []

/-- What a map holds under a name, where the name occurs in it. -/
def member? (value : Value) (name : String) : Option Value :=
  value.members.lookup name

/-- What is found by one name after the other, each within what the last one has found. -/
def memberAt? (value : Value) (path : List String) : Option Value :=
  path.foldlM member? value

@[simp]
theorem members_record (fields : List (String × Value)) : (record fields).members = fields := by
  rw [record, members, List.filterMap_map]
  exact List.filterMap_some

@[simp]
theorem member?_record (fields : List (String × Value)) (name : String) :
    (record fields).member? name = fields.lookup name := by
  rw [member?, members_record]

@[simp]
theorem memberAt?_nil (value : Value) : value.memberAt? [] = some value := rfl

@[simp]
theorem memberAt?_cons (value : Value) (name : String) (rest : List String) :
    value.memberAt? (name :: rest) = (value.member? name).bind (·.memberAt? rest) := rfl

theorem sameKey_str {key : Value} {name : String} :
    key.sameKey (.str name) = true ↔ key = .str name := by
  constructor
  · intro same
    cases key with
    | str other => exact congrArg str (eq_of_beq same)
    | real x => simp [sameKey, numeric?] at same
    | _ => cases same
  · rintro rfl
    exact beq_self_eq_true name

end Value

@[simp]
theorem plain_string : (plain : String → Value) = Value.str := rfl

@[simp]
theorem plain_int : (plain : Int → Value) = Value.int := rfl

@[simp]
theorem plain_some {α : Type} [Plain α] (item : α) : plain (some item) = plain item := rfl

/-- Names are compared one after the other. -/
@[simp]
theorem lookup_field {α : Type} (field name : String) (item : α) (rest : List (String × α)) :
    ((field, item) :: rest).lookup name = if name = field then some item else rest.lookup name := by
  rw [List.lookup_cons]
  by_cases same : name = field
  · simp [same]
  · rw [beq_false_of_ne same, if_neg same]

attribute [simp] List.lookup_append

@[simp]
theorem lookup_fieldsIf (condition : Bool) (fields : List (String × Value)) (name : String) :
    (fieldsIf condition fields).lookup name = if condition then fields.lookup name else none := by
  cases condition <;> rfl

@[simp]
theorem lookup_fieldIfSet {α : Type} [Plain α] (field name : String) (item : Option α) :
    (fieldIfSet field item).lookup name = if name = field then item.map plain else none := by
  cases item with
  | none => simp [fieldIfSet]
  | some item => simp [fieldIfSet, lookup_field]

theorem fieldIfSet_eq_nil {α : Type} [Plain α] {field : String} {item : Option α} :
    fieldIfSet field item = [] ↔ item = none := by
  cases item <;> simp [fieldIfSet]

/-- A text that is never empty is told apart from none by whether it is filled. -/
theorem fieldsIf_isFilled {field : String} {text : Option String} (nonempty : text ≠ some "") :
    fieldsIf (isFilled text) [(field, plain text)] = fieldIfSet field text := by
  cases text with
  | none => rfl
  | some given =>
    have filled : isFilled (some given) = true :=
      isFilled_iff.mpr ⟨given, rfl, fun empty => nonempty (congrArg some empty)⟩
    rw [filled]
    rfl

namespace Value

/-- The items that are found under one name after the other, and none where nothing is found. -/
def itemsAt (value : Value) (path : List String) : List Value :=
  ((value.memberAt? path).bind sequence?).getD []

/-- A list that is left out where it has no items is found again with the items that it has. -/
theorem itemsAt_record {fields : List (String × Value)} {name : String} {items : List Value}
    (found : fields.lookup name = if !items.isEmpty then some (list items) else none) :
    (record fields).itemsAt [name] = items := by
  cases items <;> simp [itemsAt, found, sequence?]

end Value

theorem names_fieldIfSet_sublist {α : Type} [Plain α] (field : String) (item : Option α) :
    ((fieldIfSet field item).map Prod.fst).Sublist [field] := by
  cases item with
  | none => exact List.nil_sublist _
  | some item => exact List.Sublist.refl _

theorem names_fieldsIf_sublist (condition : Bool) (fields : List (String × Value)) :
    ((fieldsIf condition fields).map Prod.fst).Sublist (fields.map Prod.fst) := by
  cases condition with
  | false => exact List.nil_sublist _
  | true => exact List.Sublist.refl _

end BucketPlan
