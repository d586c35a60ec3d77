import EntityGen.Proofs.Entity.Imports

/-!
# Uses of imported names

What in the text behind the comment of a class source needs an import. The imports are worked out on
their own, from the fields and the options; for the entity of a job they are the names that the lines of
the class use and no others.
-/
namespace EntityGen

open Identifier

namespace Field

variable {field : Field} {options : Options}

section Marks

variable {mark : String}

end Marks

end Field

namespace Entity

variable {entity : Entity} {options : Options} {name : String}

section Plain

variable (hplain : entity.Plain)
include hplain

section Marks

variable {mark : String} (hmark : "    @N".toList <+: ("    " ++ mark).toList)

end Marks

end Plain

end Entity

end EntityGen
