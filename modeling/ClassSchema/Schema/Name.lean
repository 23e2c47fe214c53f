/-
# Names in a schema

Model names may hold spaces, names in a schema may not: each space becomes an underscore.
-/

namespace ClassSchema

/-- The name in the schema for a name in the model. -/
def unspaced (name : String) : String := name.map fun c => if c = ' ' then '_' else c

end ClassSchema
