import EntityGen.Config
import EntityGen.Entity

/-!
# Class sources

The source of an entity's class as a list of lines. Every part of the class is a function from the
entity and the options to lines; `source` joins them with line feeds.
-/
namespace EntityGen

/-- Text as it stands inside a Java string literal. -/
def Identifier.literalChars (raw : List Char) : List Char :=
  raw.flatMap fun c =>
    if c == '"' then ['\\', '"']
    else if c == '\\' then ['\\', '\\']
    else if c == '\n' then ['\\', 'n']
    else if c == '\r' then ['\\', 'r']
    else if c == '\t' then ['\\', 't']
    else [c]

/-- Text as it stands inside a Java string literal. -/
def Identifier.literal (raw : String) : String := String.ofList (literalChars raw.toList)

namespace Field

/-- The field is declared with the rich date type. -/
def usesRichDate (field : Field) (options : Options) : Bool :=
  options.richDateTime && (field.kind == .date || field.kind == .timestamp)

/-- The declared type in the source. -/
def javaType (field : Field) (options : Options) : String :=
  if field.usesRichDate options then "DateTime" else field.typeName

/-- The field holds text. -/
def isText (field : Field) : Bool := field.typeName == "String"

/-- The annotation that says whether a value may be null; primitives have none. -/
def nullAnnotation? (field : Field) (options : Options) : Option String :=
  if !options.nullability || field.primitive then none
  else some (if field.nullable then "@Nullable" else "@Nonnull")

/-- The value of a field for use outside the object, a copy when it could be changed. -/
def copied (field : Field) (options : Options) (value : String) : String :=
  if field.immutable || field.usesRichDate options then value
  else match field.kind with
    | .date | .timestamp =>
      value ++ " != null ? new java.util.Date(" ++ value ++ ".getTime()) : null"
    | .time => value ++ " != null ? new Time(" ++ value ++ ".getTime()) : null"
    | .blob => value ++ " != null ? " ++ value ++ ".clone() : null"
    | _ => value

/-- What the field needs to import. -/
def imports (field : Field) (options : Options) : List String :=
  (if options.nullability && !field.primitive then
      [if field.nullable then "javax.annotation.Nullable" else "javax.annotation.Nonnull"] else [])
    ++ (if options.fieldEncryption && field.isText then
      ["org.schemagen.annotations.Encrypted"] else [])
    ++ (if field.usesRichDate options then ["org.joda.time.DateTime"]
      else if field.typeName == "Time" then ["java.sql.Time"] else [])

/-- The attributes of the column annotation. -/
def columnAttributes (field : Field) : String :=
  "name = \"" ++ Identifier.literal field.name ++ "\""
    ++ (if field.nullable then "" else ", nullable = false")
    ++ (match field.length with
      | some length => ", length = " ++ toString length
      | none => "")

/-- The annotations of a field that a sequence feeds. -/
def sequenceLines (sequence : String) : List String :=
  let name := Identifier.literal sequence
  ["    @SequenceGenerator(name = \"" ++ name ++ "\", sequenceName = \"" ++ name
      ++ "\", allocationSize = 1)",
    "    @GeneratedValue(strategy = GenerationType.SEQUENCE, generator = \"" ++ name ++ "\")"]

/-- The declaration of a field. -/
def declaration (field : Field) (options : Options) : List String :=
  (if field.primaryKey then ["    @Id"] else [])
    ++ (match field.sequence with
      | some sequence => sequenceLines sequence
      | none => [])
    ++ ["    @Column(" ++ field.columnAttributes ++ ")"]
    ++ (if options.fieldEncryption && field.isText then ["    @Encrypted"] else [])
    ++ ["    private " ++ field.javaType options ++ " " ++ field.property ++ ";", ""]

/-- The name of the getter. -/
def getterName (field : Field) (options : Options) : String :=
  (if field.javaType options == "boolean" then "is" else "get")
    ++ Identifier.capitalised field.property

/-- The name of the setter. -/
def setterName (field : Field) : String := "set" ++ Identifier.capitalised field.property

/-- The getter. -/
def getter (field : Field) (options : Options) : List String :=
  (field.nullAnnotation? options).toList.map ("    " ++ ·)
    ++ ["    public " ++ field.javaType options ++ " " ++ field.getterName options ++ "() \x7b",
      "        return " ++ field.copied options field.property ++ ";",
      "    \x7d", ""]

/-- The parameter of the setter. -/
def parameter (field : Field) (options : Options) : String :=
  (match field.nullAnnotation? options with
    | some annotation => annotation ++ " "
    | none => "") ++ field.javaType options ++ " " ++ field.property

/-- The setter. -/
def setter (field : Field) (options : Options) : List String :=
  ["    public void " ++ field.setterName ++ "(" ++ field.parameter options ++ ") \x7b",
    "        this." ++ field.property ++ " = " ++ field.copied options field.property ++ ";"]
    ++ (if options.eventBus then
      ["        if (bus != null) \x7b", "            bus.post(this);", "        \x7d"] else [])
    ++ ["    \x7d", ""]

end Field

/-- Puts a text in its place in an ascending list, once. -/
def insertOnce (text : String) : List String → List String
  | [] => [text]
  | first :: rest =>
    if text < first then text :: first :: rest
    else if text == first then first :: rest
    else first :: insertOnce text rest

/-- The different texts of a list in ascending order. -/
def sortedOnce (texts : List String) : List String := texts.foldr insertOnce []

namespace Entity

/-- The imports that the class needs whatever its fields are. -/
def ownImports (entity : Entity) (options : Options) : List String :=
  ["javax.persistence.*"]
    ++ (if entity.kind == .view then ["org.hibernate.annotations.Immutable"] else [])
    ++ (if options.dependencyInjection then ["javax.inject.Named"] else [])
    ++ (if options.enterpriseContainer then ["java.io.Serializable"] else [])
    ++ (if options.eventBus then ["com.squareup.otto.Bus"] else [])

/-- The imports of the class, each once and in ascending order. -/
def imports (entity : Entity) (options : Options) : List String :=
  sortedOnce (entity.ownImports options ++ entity.fields.flatMap (·.imports options))

/-- The package line, the imports and the comment above the class. -/
def header (entity : Entity) (options : Options) : List String :=
  ["package " ++ entity.packageName ++ ";", ""]
    ++ (entity.imports options).map (fun name => "import " ++ name ++ ";")
    ++ ["", "/**",
      " * Entity for " ++ entity.kind.name ++ " [" ++ entity.sourceName ++ "] in database ["
        ++ entity.database ++ "].",
      " */"]

/-- The annotations of the class and its first line. -/
def opening (entity : Entity) (options : Options) : List String :=
  (if options.dependencyInjection then ["@Named"] else [])
    ++ ["@Entity"]
    ++ (if entity.kind == .view then ["@Immutable"] else [])
    ++ ["@Table(name = \"" ++ Identifier.literal entity.sourceName ++ "\")",
      "public class " ++ entity.className
        ++ (if options.enterpriseContainer then " implements Serializable" else "") ++ " \x7b"]

/-- The members that stand in front of the fields. -/
def leadingMembers (options : Options) : List String :=
  (if options.enterpriseContainer then
      ["    private static final long serialVersionUID = 1L;", ""] else [])
    ++ (if options.eventBus then ["    @Transient", "    private Bus bus;", ""] else [])

/-- The setter of the bus. -/
def busSetter (options : Options) : List String :=
  if options.eventBus then
    ["    public void setBus(Bus bus) \x7b", "        this.bus = bus;", "    \x7d", ""]
  else []

/-- The accessors of a field; a view is read only. -/
def accessors (entity : Entity) (options : Options) (field : Field) : List String :=
  field.getter options ++ (if entity.kind == .table then field.setter options else [])

/-- The members of the class, each with a blank line behind it. -/
def members (entity : Entity) (options : Options) : List String :=
  leadingMembers options
    ++ entity.fields.flatMap (·.declaration options)
    ++ busSetter options
    ++ entity.fields.flatMap (entity.accessors options)

/-- The lines of the source. The blank line behind the last member is left out. -/
def lines (entity : Entity) (options : Options) : List String :=
  entity.header options ++ entity.opening options ++ (entity.members options).dropLast ++ ["\x7d"]

/-- The source of the class. -/
def source (entity : Entity) (options : Options) : String :=
  String.join ((entity.lines options).map (· ++ "\n"))

/-- Where the source goes: a directory for every package segment, then the class. -/
def path (entity : Entity) : Path :=
  let segments := (Config.segments entity.packageName.toList).filter (!·.isEmpty)
  Path.ofSegments (segments.map String.ofList ++ [entity.className ++ ".java"])

end Entity

end EntityGen
