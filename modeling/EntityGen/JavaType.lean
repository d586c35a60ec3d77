import EntityGen.Kind

/-!
# Java types of columns

Every kind but `unknown` has a descriptor. A field takes the plain form of its descriptor when the
column may not be null and the boxed form when it may.
-/
namespace EntityGen

/-- The class of a field's values at run time. -/
inductive RuntimeType
  | primitiveBoolean | boolean | primitiveInt | integer | primitiveLong | long | primitiveFloat
  | float | primitiveDouble | double | primitiveChar | character | string | date | time | object
  | bigDecimal | bigInteger | byteArray | boxedByteArray | void
  deriving DecidableEq, Repr

namespace RuntimeType

/-- The name under which a runtime type is listed. -/
def name : RuntimeType → String
  | primitiveBoolean => "PrimitiveBoolean"
  | boolean => "Boolean"
  | primitiveInt => "PrimitiveInt"
  | integer => "Integer"
  | primitiveLong => "PrimitiveLong"
  | long => "Long"
  | primitiveFloat => "PrimitiveFloat"
  | float => "Float"
  | primitiveDouble => "PrimitiveDouble"
  | double => "Double"
  | primitiveChar => "PrimitiveChar"
  | character => "Character"
  | string => "String"
  | date => "Date"
  | time => "Time"
  | object => "Object"
  | bigDecimal => "BigDecimal"
  | bigInteger => "BigInteger"
  | byteArray => "ByteArray"
  | boxedByteArray => "BoxedByteArray"
  | void => "Void"

/-- The fully qualified class name. -/
def className : RuntimeType → String
  | primitiveBoolean => "boolean"
  | boolean => "java.lang.Boolean"
  | primitiveInt => "int"
  | integer => "java.lang.Integer"
  | primitiveLong => "long"
  | long => "java.lang.Long"
  | primitiveFloat => "float"
  | float => "java.lang.Float"
  | primitiveDouble => "double"
  | double => "java.lang.Double"
  | primitiveChar => "char"
  | character => "java.lang.Character"
  | string => "java.lang.String"
  | date => "java.util.Date"
  | time => "java.sql.Time"
  | object => "java.lang.Object"
  | bigDecimal => "java.math.BigDecimal"
  | bigInteger => "java.math.BigInteger"
  | byteArray => "byte[]"
  | boxedByteArray => "java.lang.Byte[]"
  | void => "java.lang.Void"

/-- Language primitives and arrays of them. -/
def isPrimitive : RuntimeType → Bool
  | primitiveBoolean | primitiveInt | primitiveLong | primitiveFloat | primitiveDouble
  | primitiveChar | byteArray => true
  | _ => false

end RuntimeType

/-- The Java side of a kind. -/
structure TypeDescriptor where
  /-- Type text of a field that is never null. -/
  plainName : String
  /-- Whether the plain form is a primitive. -/
  isPrimitive : Bool
  isNumeric : Bool
  /-- Values may be shared without copies. -/
  isImmutable : Bool
  plainRuntime : RuntimeType
  boxedRuntime : RuntimeType
  /-- Type text of a field that may be null. -/
  boxedName : String
  deriving DecidableEq, Repr

namespace TypeDescriptor

/-- The type text of a field. -/
def typeName (d : TypeDescriptor) (nullable : Bool) : String :=
  if nullable then d.boxedName else d.plainName

/-- The runtime type of a field. -/
def runtimeType (d : TypeDescriptor) (nullable : Bool) : RuntimeType :=
  if nullable then d.boxedRuntime else d.plainRuntime

/-- A descriptor whose plain form is a primitive. -/
def primitive (plain boxed : String) (plainRuntime boxedRuntime : RuntimeType)
    (isNumeric : Bool) (isImmutable : Bool) : TypeDescriptor :=
  ⟨plain, true, isNumeric, isImmutable, plainRuntime, boxedRuntime, boxed⟩

/-- A descriptor with one form, a reference. -/
def reference (name : String) (runtime : RuntimeType) (isImmutable : Bool) : TypeDescriptor :=
  ⟨name, false, false, isImmutable, runtime, runtime, name⟩

end TypeDescriptor

namespace Kind

/-- The descriptor of a kind; `unknown` has none. -/
def descriptor? (kind : Kind) : Option TypeDescriptor :=
  let counts := kind.isNumeric
  match kind with
  | unknown => none
  | boolean | bit | tinyInt =>
    some (.primitive "boolean" "Boolean" .primitiveBoolean .boolean counts true)
  | smallInt | integer => some (.primitive "int" "Integer" .primitiveInt .integer counts true)
  | bigInt => some (.primitive "long" "Long" .primitiveLong .long counts true)
  | real | float | decimal | numeric =>
    some (.primitive "float" "Float" .primitiveFloat .float counts true)
  | double => some (.primitive "double" "Double" .primitiveDouble .double counts true)
  | char => some (.primitive "char" "Character" .primitiveChar .character counts true)
  | varchar | longVarchar | clob => some (.reference "String" .string true)
  | date | timestamp => some (.reference "java.util.Date" .date false)
  | time => some (.reference "Time" .time false)
  | javaObject => some (.reference "Object" .object false)
  | bigDecimal => some (.reference "java.math.BigDecimal" .bigDecimal true)
  | bigInteger => some (.reference "java.math.BigInteger" .bigInteger true)
  | blob => some (.primitive "byte[]" "Byte[]" .byteArray .boxedByteArray counts false)
  | money => some (.reference "com.jdc.datatypes.Money" .void true)
  | fraction => some (.reference "com.jdc.datatypes.Fraction" .void true)

/-- Whether a field of this kind is a primitive; one that may be null never is. -/
def isPrimitiveField (kind : Kind) (nullable : Bool) : Bool :=
  !nullable && (kind.descriptor?.any (·.isPrimitive))

/-- Whether values of this kind may be shared without copies. -/
def isImmutable (kind : Kind) : Bool := kind.descriptor?.any (·.isImmutable)

end Kind

end EntityGen
