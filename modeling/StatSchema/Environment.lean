/-!
# `StatSchema.Environment` — settings by name

## Contents
- `Environment`: which variables are set, and to what.
-/

namespace StatSchema

/-- The value of each variable that is set. -/
abbrev Environment := String → Option String

end StatSchema
