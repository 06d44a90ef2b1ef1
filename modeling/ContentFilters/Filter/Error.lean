import ContentFilters.Config.Settings
import ContentFilters.Filter.Kind
import ContentFilters.Link.Address
import ContentFilters.Value.Display

/-!
# Errors of filters

Every cause for which registering, looking up, configuring or running a filter fails, and the text
in which it is reported. Causes without a text of their own are reported by their kind alone.
-/
namespace ContentFilters

inductive FilterError where
  /-- No short name can be derived from the identity of a filter. -/
  | unnamed (identity : String)
  /-- No filter is registered under a name. -/
  | notRegistered (name : String)
  /-- An option has neither a value nor a default. -/
  | missingOption (filter option : String)
  /-- The declared defaults are not an object of objects where they are read. -/
  | malformedDefaults
  /-- A filter lacks one of its operations. -/
  | unimplemented (typeName operation : String)
  /-- No kind has this name; the name is given as a message shows it. -/
  | unknownKind (shown : Text)
  | settings (error : SettingsError)
  /-- A record that describes a filter is at fault. -/
  | invalid (faults : List Fault)
  | address (error : AddressError)
  /-- A text cannot be read as a document. -/
  | rejectedMarkup
  /-- The markup filter is configured with an extension that does not exist. -/
  | unknownExtension (name : String)
  /-- A tag lacks an attribute that its filter needs. -/
  | missingAttribute (name : Text)
  /-- A tag filter gave something other than a text. -/
  | notText
  /-- A filter gave up with a message. -/
  | raised (message : String)
  /-- A library that a filter uses gave up; what kind of error it gave, and the text of it. -/
  | foreign (kind : String) (message : Option String)
  deriving Repr

def FilterError.message? : FilterError → Option String
  | unnamed identity => some ("I don't know who I am: " ++ identity)
  | notRegistered name => some ("Unknown text filter: " ++ Text.quotedString name)
  | missingOption filter option =>
    some (filter ++ ": no value or default for option " ++ Text.quotedString option)
  | malformedDefaults => none
  | unimplemented typeName operation =>
    some (typeName ++ " does not implement " ++ operation ++ "()")
  | unknownKind shown => some (String.ofList shown ++ " is not a valid FilterType")
  | settings error => some error.message
  | invalid faults => some (Fault.report faults)
  | address error => some error.message
  | rejectedMarkup => none
  | unknownExtension _ => none
  | missingAttribute _ => none
  | notText => none
  | raised message => some message
  | foreign _ message => message

def FilterKind.read (v : Value) : Except FilterError FilterKind :=
  match v with
  | .str s =>
    match FilterKind.ofName? s with
    | some k => .ok k
    | none => .error (.unknownKind v.inspect)
  | v => .error (.unknownKind v.inspect)

end ContentFilters
