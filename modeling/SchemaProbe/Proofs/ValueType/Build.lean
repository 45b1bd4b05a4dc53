import SchemaProbe.Proofs.ValueType.Resolve

set_option autoImplicit false

namespace SchemaProbe

inductive Keyword.Inner (ms : Members) : Json → Prop where
  | items {v : Json} (found : NameMap.get? ms "items" = some v) : Inner ms v
  | property {m : String × Json} (member : m ∈ ValueType.declaredProperties ms) : Inner ms m.2

namespace ValueType

section
variable (inner : Json → Except TypeFault ValueType)

def itemsType (ms : Members) : Except TypeFault ValueType :=
  match NameMap.get? ms "items" with
  | some items => (inner items).mapError .inItems
  | none => .ok (any false)

def propertyTypes (ms : Members) : Except TypeFault (List (Property ValueType)) :=
  (declaredProperties ms).mapM fun (name, v) => do
    let t ← (inner v).mapError (.inProperty name)
    return ⟨name, (requiredNames ms).contains name, t⟩

def ofName (ms : Members) (patterns : List String) (n : Bool) (name : Option String) : Except TypeFault ValueType := do
  match name with
  | none => return any n
  | some "string" => return text n (← textRule ms patterns)
  | some "integer" => return integer n (← integerRule ms)
  | some "number" => return number n (← numberRule ms)
  | some "boolean" => return boolean n
  | some "array" =>
    let items ← itemsType inner ms
    return array n items (arrayRule ms)
  | some "object" =>
    let properties ← propertyTypes inner ms
    return object n properties
  | some "null" => return any true
  | some other => throw (.unknownType other)

def ofKeywords (r : Resolved) : Except TypeFault ValueType := do
  let (name, hasNull) ← declaredName r.keywords
  ofName inner r.keywords r.patterns (r.nullable || hasNull) (name.orElse fun _ => inferredName r.keywords)

end

inductive Named (inner : Json → Except TypeFault ValueType) (ms : Members) (patterns : List String) (n : Bool) :
    Option String → ValueType → Prop where
  | any : Named inner ms patterns n none (any n)
  | text {r : TextRule} (rule : textRule ms patterns = .ok r) : Named inner ms patterns n (some "string") (text n r)
  | integer {r : IntegerRule} (rule : integerRule ms = .ok r) : Named inner ms patterns n (some "integer") (integer n r)
  | number {r : NumberRule} (rule : numberRule ms = .ok r) : Named inner ms patterns n (some "number") (number n r)
  | boolean : Named inner ms patterns n (some "boolean") (boolean n)
  | array {items : ValueType} (item : itemsType inner ms = .ok items) :
      Named inner ms patterns n (some "array") (array n items (arrayRule ms))
  | object {ps : List (Property ValueType)} (properties : propertyTypes inner ms = .ok ps) :
      Named inner ms patterns n (some "object") (object n ps)
  | null : Named inner ms patterns n (some "null") (any true)

theorem ofName_eq_ok_iff {inner : Json → Except TypeFault ValueType} {ms : Members} {patterns : List String} {n : Bool}
    {name : Option String} {t : ValueType} :
    ofName inner ms patterns n name = .ok t ↔ Named inner ms patterns n name t := by
  constructor
  · intro built
    unfold ofName at built
    split at built
    next => cases built; exact .any
    next =>
      obtain ⟨r, rule, done⟩ := bind_eq_ok_iff.mp built
      cases done
      exact .text rule
    next =>
      obtain ⟨r, rule, done⟩ := bind_eq_ok_iff.mp built
      cases done
      exact .integer rule
    next =>
      obtain ⟨r, rule, done⟩ := bind_eq_ok_iff.mp built
      cases done
      exact .number rule
    next => cases built; exact .boolean
    next =>
      obtain ⟨items, item, done⟩ := bind_eq_ok_iff.mp built
      cases done
      exact .array item
    next =>
      obtain ⟨ps, properties, done⟩ := bind_eq_ok_iff.mp built
      cases done
      exact .object properties
    next => cases built; exact .null
    next => cases built
  · rintro (_ | rule | rule | rule | _ | item | properties | _)
    case text | integer | number => simp only [ofName, rule]; rfl
    case array => simp only [ofName, item]; rfl
    case object => simp only [ofName, properties]; rfl
    all_goals rfl

theorem build_succ (fuel : Nat) (v : Json) : build (fuel + 1) v = Resolved.resolve v >>= ofKeywords (build fuel) := by
  rw [build]
  refine bind_congr fun r => bind_congr fun (name, hasNull) => ?_
  dsimp only
  generalize name.orElse (fun _ => inferredName r.keywords) = wanted
  unfold ofName itemsType
  split
  case h_6 => cases NameMap.get? r.keywords "items" <;> rfl
  case h_9 => simp_all
  all_goals rfl

section
variable {f g : Json → Except TypeFault ValueType} {ms : Members} (same : ∀ v, Keyword.Inner ms v → f v = g v)
include same

theorem itemsType_congr : itemsType f ms = itemsType g ms := by
  unfold itemsType
  split
  next v found => rw [same v (.items found)]
  next => rfl

theorem propertyTypes_congr : propertyTypes f ms = propertyTypes g ms :=
  mapM_congr fun m member => by
    dsimp only
    rw [same m.2 (.property member)]

theorem ofName_congr (patterns : List String) (n : Bool) (name : Option String) :
    ofName f ms patterns n name = ofName g ms patterns n name := by
  unfold ofName
  rw [itemsType_congr same, propertyTypes_congr same]

end

theorem ofKeywords_congr {f g : Json → Except TypeFault ValueType} {r : Resolved}
    (same : ∀ v, Keyword.Inner r.keywords v → f v = g v) : ofKeywords f r = ofKeywords g r :=
  bind_congr fun _ => ofName_congr same _ _ _

end ValueType

end SchemaProbe
