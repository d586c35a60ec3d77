/-!
# Generation options

Independent toggles, all off unless they are switched on.
-/
namespace EntityGen

/-- What is added to generated classes. -/
structure Options where
  /-- `@Named` on classes. -/
  dependencyInjection : Bool := false
  /-- `@Nullable` and `@Nonnull` on accessors. -/
  nullability : Bool := false
  /-- `@Encrypted` on text fields. -/
  fieldEncryption : Bool := false
  /-- `DateTime` for dates and timestamps. -/
  richDateTime : Bool := false
  /-- Serializable classes. -/
  enterpriseContainer : Bool := false
  /-- The database name as the last segment of the package. -/
  packageIncludesDatabase : Bool := false
  /-- Setters that post to a bus. -/
  eventBus : Bool := false
  deriving DecidableEq, Repr

namespace Options

/-- Every option with its name in documents, how it is read and how it is set. -/
def table : List (String × (Options → Bool) × (Options → Bool → Options)) :=
  [("dependency_injection_annotations", (·.dependencyInjection),
      fun o b => { o with dependencyInjection := b }),
    ("nullability_annotations", (·.nullability), fun o b => { o with nullability := b }),
    ("field_encryption_hooks", (·.fieldEncryption), fun o b => { o with fieldEncryption := b }),
    ("rich_date_time_types", (·.richDateTime), fun o b => { o with richDateTime := b }),
    ("enterprise_container_annotations", (·.enterpriseContainer),
      fun o b => { o with enterpriseContainer := b }),
    ("package_name_includes_database_name", (·.packageIncludesDatabase),
      fun o b => { o with packageIncludesDatabase := b }),
    ("event_bus_integration", (·.eventBus), fun o b => { o with eventBus := b })]

end Options

end EntityGen
