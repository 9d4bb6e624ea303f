/-
**How the store of probe records fails.**
-/

namespace StreamWatch

/-- Why the store did not do what it was asked to. -/
inductive StoreError where
  /-- the database refused, or holds what cannot be read -/
  | database
  /-- a value has no place in the store or in a record -/
  | invalidValue (field message : String)
  /-- there is no such record -/
  | notFound (table field value : String)
deriving DecidableEq, Repr

/-- What went wrong, in words. -/
def StoreError.message : StoreError → String
  | database => "Database error"
  | invalidValue field message => s!"Invalid stored value: {field} - {message}"
  | notFound table field value => s!"Record not found: {table} with {field} = {value}"

end StreamWatch
