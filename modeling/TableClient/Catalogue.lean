import TableClient.Client.Records

/-!
# The catalogue

The fixed names and values of the client, by the names under which they are published: operators,
join markers, kinds of operands, units of time, constants, and the files of the log.

## Main definitions

* `TableClient.Catalogue.operators`, `joins`, `kinds` — names with their texts.
* `TableClient.Catalogue.constants` — the constants.
* `TableClient.Catalogue.componentFiles` — the log file of each component.
* `TableClient.Catalogue.version` — the version of the client.
-/

set_option relaxedAutoImplicit false
set_option autoImplicit false

namespace TableClient.Catalogue

/-- The operators of the query language. -/
def operators : List (String × String) := Query.Operator.all.map fun o => (o.label, o.tag)

/-- The markers between conditions. -/
def joins : List (String × String) := Query.Join.all.map fun j => (j.label, j.tag)

/-- The kinds of operands. -/
def kinds : List (String × String) := Query.Kind.all.map fun k => (k.label, k.name)

/-- The units of two-step relative conditions. -/
def relativeUnits : List Text := Query.relativeUnits

/-- The constants. -/
def constants : Members :=
  [("DEFAULT_API_NAME", .text Config.defaultService),
   ("DEFAULT_NAMESPACE", .text Config.defaultScope),
   ("DEFAULT_TIMEOUT_SECONDS", .int Config.defaultTimeout),
   ("SERVICENOW_DOMAIN", .text Url.hostedDomain),
   ("SYSPARM_QUERY", .text Client.Parameter.query.name),
   ("SYSPARM_FIELDS", .text Client.Parameter.fields.name),
   ("SYSPARM_LIMIT", .text Client.Parameter.limit.name),
   ("SYSPARM_OFFSET", .text Client.Parameter.offset.name),
   ("SYSPARM_DISPLAY_VALUE", .text Client.Parameter.displayValue.name),
   ("MAX_RECORD_LIMIT", .int Client.maxLimit),
   ("COUNT_FIELD", .text Client.countField),
   ("JSON_HEADERS", .ofMembers Client.requestHeaders),
   ("HTTP_NO_CONTENT", .int Client.deletedStatus),
   ("SERVICENOW_COMPONENT", .text Log.Component.requests.name),
   ("QUERY_COMPONENT", .text Log.Component.query.name),
   ("CONFIG_COMPONENT", .text Log.Component.config.name)]

/-- The log file of each component. -/
def componentFiles : List (String × String) :=
  Log.componentFiles.map fun (component, file) => (component, file.name)

/-- The version of the client. -/
def version : String := "0.1.0"

end TableClient.Catalogue
