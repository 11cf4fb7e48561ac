import SchemaGrammar.Schema.Basic

/-!
# Equality of schemas up to the order of properties

Two schemas are equivalent when they differ at most in the order in which objects declare their
properties. Each property of one object has to be found under the same name in the other, and the
two have equally many.
-/

namespace SchemaGrammar

mutual
/-- Whether two schemas are equal up to the order of properties. -/
def Schema.equiv : Schema → Schema → Bool
  | .null, .null => true
  | .boolean, .boolean => true
  | .integer, .integer => true
  | .number, .number => true
  | .string c, .string d => c == d
  | .array s m, .array t n => s.equiv t && m == n
  | .object ps a, .object qs b => ps.length == qs.length && foundIn ps qs && a.equiv b
  | _, _ => false

/-- Whether two properties are equal up to the order of properties inside them. -/
def Property.equiv : Property → Property → Bool
  | .ref s, .ref t => s == t
  | .typed s r, .typed t q => s.equiv t && r == q
  | _, _ => false

/-- Whether two objects admit the same besides their properties. -/
def Additional.equiv : Additional → Additional → Bool
  | .closed, .closed => true
  | .any, .any => true
  | .schema s, .schema t => s.equiv t
  | _, _ => false

/-- Whether each property of the first list is equivalent to the one of that name in the second. -/
def foundIn : List (String × Property) → List (String × Property) → Bool
  | [], _ => true
  | (name, p) :: ps, qs =>
    (match qs.lookup name with
      | some q => p.equiv q
      | none => false) && foundIn ps qs
end

end SchemaGrammar
